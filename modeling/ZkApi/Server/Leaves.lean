import ZkApi.Server.System

/-!
# One-time use of the leaves

A leaf of a signing tree signs once.  The signer reserves the index of a leaf in the database
before it signs, so an index that was reserved is below the counter from then on, whatever
happens to the call that reserved it; and a call reserves one index and signs with it once.
-/

namespace ZkApi.Server

open Stark Concurrent

/-! ### The system -/

/-- A call of the signer. -/
inductive SignCall where
  | signState (message : Felt252)
  | signNextState (buildMessage : U32 → Felt252)
  | signClearance (message : Felt252)

/-- What a call of the signer returns. -/
structure Signed where
  sig : XmssSignature
  leafIndex : U32
  message : Option Felt252

namespace SignCall

/-- The tree that the call signs with. -/
def tree : SignCall → SignerTree
  | .signState _ => .state
  | .signNextState _ => .state
  | .signClearance _ => .clear

/-- The message that the call signs, given the index of the leaf. -/
def messageFor : SignCall → U32 → Felt252
  | .signState message, _ => message
  | .signNextState buildMessage, leafIndex => buildMessage leafIndex
  | .signClearance message, _ => message

/-- The call's part of the signer. -/
def handler (signer : ServerSigner) : SignCall → Handler Signed
  | .signState message => do
      let (sig, leafIndex) ← Server.signState signer message
      pure ⟨sig, leafIndex, none⟩
  | .signNextState buildMessage => do
      let (sig, leafIndex, message) ← Server.signNextState signer fun i => .ok (buildMessage i)
      pure ⟨sig, leafIndex, some message⟩
  | .signClearance message => do
      let (sig, leafIndex) ← Server.signClearance signer message
      pure ⟨sig, leafIndex, none⟩

end SignCall

abbrev SignLabel : Type :=
  Label Op Op.Res SignCall (Except Abort Signed)

abbrev SignView : Type :=
  View Op Op.Res Shared SignCall (Except Abort Signed)

/-- The signer on its own. -/
def signing (env : Env) : System Op Op.Res Shared SignCall (Except Abort Signed) :=
  system env fun call => (call.handler env.signer).run

/-- The access that reserves a leaf of a tree. -/
def Env.reserveOp (env : Env) (tree : SignerTree) : Op :=
  .reserveLeaf tree (env.signer.treeEpoch tree) (env.signer.root tree) (env.signer.capacity tree)

/-- A leaf was reserved. -/
def Env.reservation (env : Env) (t : ℕ) (tree : SignerTree) (index : U32) : SignLabel :=
  .access t (env.reserveOp tree) (Except.ok index : Except ServerError U32)

/-- A leaf has signed. -/
def signature (t : ℕ) (tree : SignerTree) (index : U32) (message : Felt252)
    (sig : XmssSignature) : SignLabel :=
  .access t (.signReserved tree index message) (some sig)

/-! ### The protocol -/

variable {env : Env}

/-- Every index that was reserved is below the counter of its tree and the capacity, every
signature has a reservation of its thread, and no index was reserved or has signed twice. -/
structure LeafInv (env : Env) (v : SignView) : Prop where
  lock : v.shared.operationLock ≠ .poisoned
  rows : ∀ tree, ∃ row, v.shared.signerState tree = some row
    ∧ row.Matches (env.signer.treeEpoch tree) (env.signer.root tree)
  startedOnce : ∀ t call call', .start t call ∈ v.history → .start t call' ∈ v.history →
    call = call'
  counted : ∀ t tree index, env.reservation t tree index ∈ v.history →
    ∀ row, v.shared.signerState tree = some row → (index.toNat : ℤ) < row.nextLeaf
  below : ∀ t tree index, env.reservation t tree index ∈ v.history →
    index < env.signer.capacity tree
  reservedOnce : ∀ t u tree index, env.reservation t tree index ∈ v.history →
    env.reservation u tree index ∈ v.history → t = u
  reserved : ∀ t tree index message sig, signature t tree index message sig ∈ v.history →
    env.reservation t tree index ∈ v.history ∧ sig.leafIndex = index
  messages : ∀ t tree index message sig call, signature t tree index message sig ∈ v.history →
    .start t call ∈ v.history → tree = call.tree ∧ message = call.messageFor index
  signedOnce : ∀ t u tree index message message' sig sig' (i j : ℕ),
    v.history[i]? = some (signature t tree index message sig) →
    v.history[j]? = some (signature u tree index message' sig') → i = j

variable {v : SignView} {t : ℕ}

theorem reservation_inj {u : ℕ} {tree tree' : SignerTree} {i j : U32}
    (h : env.reservation t tree i = env.reservation u tree' j) :
  t = u ∧ tree = tree' ∧ i = j
  := by
  rw [Env.reservation, Env.reservation] at h
  injection h with ht hop hindex
  injection hop with htree
  cases hindex
  exact ⟨ht, htree, rfl⟩

/-- What a label must be like to keep the invariant, when it leads to a shared state. -/
structure Admissible (env : Env) (v : SignView) (l : SignLabel) (s : Shared) : Prop where
  lock : s.operationLock ≠ .poisoned
  rows : s.signerState.Continues v.shared.signerState
  start : ∀ t call, l = .start t call → own t v.history = []
  reservation : ∀ t tree index, l = env.reservation t tree index →
    index < env.signer.capacity tree
      ∧ (∀ row, v.shared.signerState tree = some row → row.nextLeaf = index.toNat)
      ∧ ∀ row, s.signerState tree = some row → (index.toNat : ℤ) < row.nextLeaf
  signature : ∀ t tree index message sig, l = signature t tree index message sig →
    env.reservation t tree index ∈ v.history ∧ sig.leafIndex = index
      ∧ (∀ call, .start t call ∈ v.history → tree = call.tree ∧ message = call.messageFor index)
      ∧ ∀ u message' sig', Server.signature u tree index message' sig' ∉ v.history

/-- An index that is reserved anew was not reserved before. -/
theorem LeafInv.not_reserved {l : SignLabel} {s : Shared} {u u' : ℕ} {tree : SignerTree}
    {index : U32} (h : LeafInv env v) (hl : Admissible env v l s)
    (hnew : l = env.reservation u tree index) :
  env.reservation u' tree index ∉ v.history
  := by
  intro hmem
  obtain ⟨row, hrow, _⟩ := h.rows tree
  have hlt := h.counted u' tree index hmem row hrow
  rw [(hl.reservation u tree index hnew).2.1 row hrow] at hlt
  apply lt_irrefl _ hlt

theorem LeafInv.push {l : SignLabel} {s : Shared} (h : LeafInv env v)
    (hl : Admissible env v l s) :
  LeafInv env (v.push l s)
  := by
  constructor
  case lock => apply hl.lock
  case rows =>
    intro tree
    obtain ⟨row, hrow, hmatch⟩ := h.rows tree
    obtain ⟨row', hrow', hepoch, hroot, _⟩ := hl.rows tree row hrow
    exact ⟨row', hrow', hepoch.trans hmatch.1, hroot.trans hmatch.2⟩
  case startedOnce => apply started_push h.startedOnce hl.start
  case counted =>
    intro u tree index hmem row' hrow'
    obtain hmem | heq := mem_push.mp hmem
    · obtain ⟨row, hrow, _⟩ := h.rows tree
      obtain ⟨row'', hrow'', _, _, hnext⟩ := hl.rows tree row hrow
      have heq := hrow''.symm.trans hrow'
      cases heq
      apply lt_of_lt_of_le (h.counted u tree index hmem row hrow) hnext
    · apply (hl.reservation u tree index heq.symm).2.2 row' hrow'
  case below =>
    intro u tree index hmem
    obtain hmem | heq := mem_push.mp hmem
    · apply h.below u tree index hmem
    · apply (hl.reservation u tree index heq.symm).1
  case reservedOnce =>
    intro u u' tree index hmem hmem'
    obtain hmem | heq := mem_push.mp hmem <;> obtain hmem' | heq' := mem_push.mp hmem'
    · apply h.reservedOnce u u' tree index hmem hmem'
    · cases h.not_reserved hl heq'.symm hmem
    · cases h.not_reserved hl heq.symm hmem'
    · apply (reservation_inj (heq.trans heq'.symm)).1
  case reserved =>
    intro u tree index message sig hmem
    obtain hmem | heq := mem_push.mp hmem
    · obtain ⟨hreserved, hindex⟩ := h.reserved u tree index message sig hmem
      exact ⟨mem_push.mpr (.inl hreserved), hindex⟩
    · obtain ⟨hreserved, hindex, _⟩ := hl.signature u tree index message sig heq.symm
      exact ⟨mem_push.mpr (.inl hreserved), hindex⟩
  case messages =>
    intro u tree index message sig call hmem hcall
    obtain hcall | heqcall := mem_push.mp hcall
    · obtain hmem | heq := mem_push.mp hmem
      · apply h.messages u tree index message sig call hmem hcall
      · apply (hl.signature u tree index message sig heq.symm).2.2.1 call hcall
    · obtain hmem | heq := mem_push.mp hmem
      · have hown := mem_own hmem rfl
        rw [hl.start u call heqcall.symm] at hown
        cases hown
      · rw [← heqcall] at heq
        cases heq
  case signedOnce =>
    intro u u' tree index message message' sig sig' i j hi hj
    obtain hi | ⟨hilast, heq⟩ := getElem?_push hi <;>
      obtain hj | ⟨hjlast, heq'⟩ := getElem?_push hj
    · apply h.signedOnce u u' tree index message message' sig sig' i j hi hj
    · cases (hl.signature _ _ _ _ _ heq'.symm).2.2.2 _ _ _ (List.mem_of_getElem? hi)
    · cases (hl.signature _ _ _ _ _ heq.symm).2.2.2 _ _ _ (List.mem_of_getElem? hj)
    · rw [hilast, hjlast]

/-- What a call that signs with a tree has promised when it ends: it returns what it has
signed, and without a signature it has no leaf. -/
def SignPost (env : Env) (t : ℕ) (tree : SignerTree) :
    Except Abort (XmssSignature × U32 × Felt252) → SignView → Prop
  | .ok (sig, index, message), v =>
      ∃ produced, signature t tree index message produced ∈ v.history
        ∧ sig = { produced with epoch := env.signer.treeEpoch tree }
  | .error e, v =>
      e = .error .capacityExhausted
        ∨ ∃ e', e = .error e'
          ∧ .access t (env.reserveOp tree) (Except.error e' : Except ServerError U32) ∈ v.history

variable {tree : SignerTree} {result : Except Abort (XmssSignature × U32 × Felt252)}

theorem SignPost.mono {w : SignView} (h : SignPost env t tree result v)
    (hgrown : v.history <+: w.history) :
  SignPost env t tree result w
  := by
  cases result with
  | ok signed =>
    obtain ⟨produced, hmem, hsig⟩ := h
    exact ⟨produced, hgrown.subset hmem, hsig⟩
  | error e =>
    obtain h | ⟨e', he, hmem⟩ := h
    · left
      apply h
    · right
      exact ⟨e', he, hgrown.subset hmem⟩

/-- What a call of the signer has promised when it ends. -/
def SignCall.Post (env : Env) (t : ℕ) (call : SignCall) : Except Abort Signed → SignView → Prop
  | .ok signed, v =>
      ∃ message, SignPost env t call.tree (.ok (signed.sig, signed.leafIndex, message)) v
        ∧ ∀ m ∈ signed.message, m = message
  | .error e, v => SignPost env t call.tree (.error e) v

theorem SignCall.Post.mono {call : SignCall} {value : Except Abort Signed} {w : SignView}
    (h : call.Post env t value v) (hgrown : v.history <+: w.history) :
  call.Post env t value w
  := by
  cases value with
  | ok signed =>
    obtain ⟨message, hpost, hmessage⟩ := h
    exact ⟨message, hpost.mono hgrown, hmessage⟩
  | error e =>
    have hpost : SignPost env t call.tree (.error e) v := h
    apply hpost.mono hgrown

/-- A server that has just started. -/
def Env.started (nullifiers : NullifierTable) (signerState : SignerTable) :
    Config Op Op.Res Shared (Except Abort Signed) :=
  .initial (Shared.started nullifiers signerState)

section

variable {history : List SignLabel} {c : Config Op Op.Res Shared (Except Abort Signed)}

end

/-! ### A run -/

namespace LeafExample

/-- A stand-in for the hash. -/
def poseidonHashMany (inputs : List Felt) : Felt :=
  inputs.sum

theorem isSome_keypair :
  (generateWithHeight poseidonHashMany (feltToField 1) 1).isSome
  := by
  rw [generateWithHeight, dif_pos (by norm_num)]
  rfl

/-- A key pair with two leaves. -/
def keypair : XmssKeypair :=
  (generateWithHeight poseidonHashMany (feltToField 1) 1).get isSome_keypair

/-- A server with the key pair for both of its trees. -/
def server : Env where
  config := {
    protocolVersion := 1
    chainId := 1
    contractAddress := 0
    requestChargeCap := 1000000
    policyChargeCap := 10000000
    policyEnabled := false
    stateSeed := 1
    clearSeed := 1
    epoch := 1
    xmssHeight := 1
    trustedEpochRoots := [] }
  signer := {
    stateKeypair := keypair
    clearKeypair := keypair
    stateEpoch := 1
    clearEpoch := 1 }
  poseidonHashMany := poseidonHashMany
  curve := {
    Point := Unit
    identity := ()
    add := fun _ _ => ()
    neg := fun _ => ()
    fromAffine := fun _ _ => some ()
    toAffine := fun _ => none }
  keccak256 bytes := bytes
  decodeBase64 _ := .ok []
  sqliteFails := False

/-- The table of a server that starts for the first time. -/
def signerState (_ : SignerTree) : Option SignerRow :=
  some (SignerRow.initial 1 keypair.rootFelt)

/-- The message of a call, built from the index of its leaf. -/
def buildMessage (leafIndex : U32) : Felt252 :=
  leafIndex.setWidth 256

/-- A call reserves a leaf and signs with it. -/
def history : List SignLabel :=
  [.start 0 (.signNextState buildMessage),
    .access 0 .lockOperation true,
    server.reservation 0 .state 0,
    .access 0 (.signReserved .state 0 (buildMessage 0))
      (keypair.signReserved poseidonHashMany 0 0 (buildMessage 0)).1]

theorem zero_lt_capacity :
  (0 : U32) < keypair.capacity
  := by
  have hheight : keypair.height = 1 :=
    XmssKeypair.height_of_generateWithHeight (Option.some_get isSome_keypair).symm
  rw [BitVec.lt_def, XmssKeypair.toNat_capacity, hheight]
  decide

/-- The first reservation of a tree returns the first index. -/
theorem reserve_first (tree : SignerTree) :
  (SignerTable.reserveLeaf signerState tree 1 keypair.rootFelt keypair.capacity).1 = .ok 0
  := by
  have hrow : signerState tree = some (SignerRow.initial 1 keypair.rootFelt) := rfl
  rw [SignerTable.reserveLeaf_of_lt hrow (SignerRow.initial_matches _ _) rfl zero_lt_capacity]
  rfl

end LeafExample

end ZkApi.Server
