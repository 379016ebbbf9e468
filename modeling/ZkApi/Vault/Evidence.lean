import ZkApi.Proof.RequestCircuit
import ZkApi.Vault.Challenge

/-!
# Whose evidence a challenge is

A challenge succeeds with any request that has the nullifier of the pending withdrawal.
The nullifier binds the secret and the anchor, but not the note, and the vault compares
neither the commitments of the notes with each other nor the root of the request with its
own.  In a run whose deposits have pairwise different commitments and whose challenges name
roots that the vault has stored, the request is one of the note that is pending
(`challenge_evidence`).  In a run with two deposits of one commitment it need not be
(`challenge_evidence_duplicate`).
-/

namespace ZkApi.Vault

open SparseMerkle MerkleUpdateLib Poseidon

variable {v : Deployment} {env : Env} {w w' : World} {r : Receipt} {actions : List Action}

/-! ### The public inputs of a request -/

/-- The field elements that the verifier is given for the public inputs of a request. -/
def RequestPublicInputs.toFieldElements (inputs : RequestPublicInputs) : RequestInputs where
  protocolVersion := inputs.protocolVersion.toNat
  chainId := inputs.chainId.toNat
  contractAddress := inputs.contractAddress.toNat
  activeRoot := residue inputs.activeRoot
  stateSigningKeyX := residue inputs.stateSigningKeyX
  stateSigningKeyY := residue inputs.stateSigningKeyY
  requestTime := inputs.requestTime.toNat
  solvencyBound := inputs.solvencyBound.toNat
  requestNullifier := residue inputs.requestNullifier
  authorizationTag := residue inputs.authorizationTag
  anonymousCommitmentX := residue inputs.anonymousCommitmentX
  anonymousCommitmentY := residue inputs.anonymousCommitmentY

/-- The adapter lets a request through only when the circuit can be satisfied. -/
def ProofAdapter.RequestSound (adapter : ProofAdapter) : Prop :=
  ∀ inputs proof, adapter.assertValidRequest inputs proof = true →
    ∃ a, RequestConstraints inputs.toFieldElements a

/-! ### The escape behind a pending withdrawal -/

/-- An escape of a note. -/
def Action.Escapes (n : U32) : Action → Prop
  | .call _ c _ => c.Escapes n
  | .donation _ => False

/-- The last escape of a note in a history: the actions before it and the state they led to,
its environment, inputs, proof, siblings and outcome, and the actions after it. -/
structure LastEscape (v : Deployment) (actions : List Action) (n : U32) where
  before : List Action
  world : World
  env : Env
  inputs : WithdrawalPublicInputs
  proof : Bytes
  siblings : Fin 32 → U256
  receipt : Receipt
  after : List Action
  history_eq : actions
    = before ++ .call env (.initiateEscapeWithdrawal inputs proof siblings) receipt :: after
  noteId_eq : inputs.noteId = n
  last : ∀ a ∈ after, ¬ a.Escapes n
  reachable : Reachable v before world

/-- The record of a pending withdrawal is that of the last escape of the note, which had
passed its checks. -/
theorem Reachable.lastEscape {n : U32} (h : Reachable v actions w)
    (hn : (w.ledger.notes n).status = .pendingWithdrawal) :
  ∃ e : LastEscape v actions n,
    (w.ledger.pendingWithdrawals n).withdrawalNullifier = e.inputs.withdrawalNullifier
      ∧ ∃ newRoot, Authorized v e.env e.world false e.inputs e.proof e.siblings newRoot
  := by
  obtain ⟨address, timestamp, held, args, w₀, hconstruct, hrun⟩ := h
  have hinitial := (construct_ok hconstruct).2
  revert hn
  apply hrun.invariant_history (P := fun as t =>
    (t.ledger.notes n).status = .pendingWithdrawal → ∃ e : LastEscape v as n,
      (t.ledger.pendingWithdrawals n).withdrawalNullifier = e.inputs.withdrawalNullifier
        ∧ ∃ newRoot, Authorized v e.env e.world false e.inputs e.proof e.siblings newRoot)
  · intro hn
    rw [hinitial] at hn
    cases hn
  · intro ks t a u hrun' ih hstep hn
    -- an escape before this step stays the last one when this step is none
    have hkept : ¬ a.Escapes n → (t.ledger.notes n).status = .pendingWithdrawal →
        u.ledger.pendingWithdrawals n = t.ledger.pendingWithdrawals n →
        ∃ e : LastEscape v (ks ++ [a]) n,
          (u.ledger.pendingWithdrawals n).withdrawalNullifier = e.inputs.withdrawalNullifier
            ∧ ∃ newRoot, Authorized v e.env e.world false e.inputs e.proof e.siblings
              newRoot := by
      intro ha hstatus hsame
      obtain ⟨e, hnullifier, hauth⟩ := ih hstatus
      use
        { e with
          after := e.after ++ [a]
          history_eq := (congrArg (· ++ [a]) e.history_eq).trans (by
            rw [List.append_assoc, List.cons_append])
          last := by
            intro b hb
            rw [List.mem_append, List.mem_singleton] at hb
            obtain hb | rfl := hb
            · apply e.last b hb
            · apply ha }
      rw [hsame]
      exact ⟨hnullifier, hauth⟩
    cases hstep with
    | @call env call receipt _ _ hexecute =>
      cases (execute_effect hexecute).pending hn with
      | @escaped inputs proof siblings newRoot hnote hauth hnullifier =>
        use
          { before := ks
            world := t
            env
            inputs
            proof
            siblings
            receipt
            after := []
            history_eq := rfl
            noteId_eq := hnote
            last := fun b hb => by cases hb
            reachable := ⟨address, timestamp, held, args, w₀, hconstruct, hrun'⟩ }
        exact ⟨hnullifier, newRoot, hauth⟩
      | kept hescape hstatus hsame => apply hkept hescape hstatus hsame
    | donation => apply hkept not_false hn rfl

/-! ### Runs in which the evidence is bound -/

/-- The ledger that a history leads to. -/
def ledgerAfter (actions : List Action) : Ledger :=
  actions.foldl Action.ledger .initial

theorem Reachable.ledgerAfter_eq (h : Reachable v actions w) :
  ledgerAfter actions = w.ledger
  := by
  obtain ⟨address, timestamp, held, args, w₀, hconstruct, hrun⟩ := h
  have hinitial : w₀.ledger = .initial := (construct_ok hconstruct).2
  rw [ledgerAfter, ← hinitial, ledger_of_run hrun]

/-- A note was allocated. -/
def Ledger.Allocated (l : Ledger) (n : U32) : Prop :=
  n.toNat < l.nextNoteId.toNat

/-- Every deposit of a history has a commitment that no note on record has, and every
challenge names a root that the vault had stored before. -/
structure Separated (actions : List Action) : Prop where
  deposits : ∀ as env commitment amount siblings r bs,
    actions = as ++ .call env (.deposit commitment amount siblings) r :: bs →
    ∀ n, (ledgerAfter as).Allocated n → ((ledgerAfter as).notes n).commitment ≠ commitment
  challenges : ∀ as env n inputs proof siblings r bs,
    actions = as ++ .call env (.challengeEscapeWithdrawal n inputs proof siblings) r :: bs →
    ∃ cs ds, as = cs ++ ds ∧ inputs.activeRoot = (ledgerAfter cs).currentRoot

theorem Separated.left {as bs : List Action} (h : Separated (as ++ bs)) :
  Separated as
  := by
  constructor
  · intro cs env commitment amount siblings r ds heq
    apply h.deposits cs env commitment amount siblings r (ds ++ bs)
    rw [heq, List.append_assoc, List.cons_append]
  · intro cs env n inputs proof siblings r ds heq
    apply h.challenges cs env n inputs proof siblings r (ds ++ bs)
    rw [heq, List.append_assoc, List.cons_append]

/-- The notes on record have pairwise different commitments. -/
def Distinct (l : Ledger) : Prop :=
  ∀ m n, l.Allocated m → l.Allocated n → (l.notes m).commitment = (l.notes n).commitment →
    m = n

/-- A note is allocated by a deposit, which records its commitment. -/
theorem Effect.allocated {call : Call} {n : U32} (h : Effect v env w call r)
    (hn : r.world.ledger.Allocated n) (hnew : ¬ w.ledger.Allocated n) :
  ∃ commitment amount siblings,
    call = .deposit commitment amount siblings ∧ n = w.ledger.nextNoteId
      ∧ (r.world.ledger.notes n).commitment = commitment
  := by
  unfold Ledger.Allocated at hn hnew
  cases h with
  | @deposit commitment amount siblings _ _ _ _ _ _ _ hnext _ _ hledger _ =>
    have hlt : (w.ledger.nextNoteId + 1).toNat = w.ledger.nextNoteId.toNat + 1 := by
      rw [BitVec.toNat_add]
      apply Nat.mod_eq_of_lt hnext
    rw [hledger, Ledger.deposited_nextNoteId, hlt] at hn
    have hn : n = w.ledger.nextNoteId := by
      apply BitVec.eq_of_toNat_eq
      omega
    use commitment, amount, siblings, rfl, hn
    rw [hledger, Ledger.deposited_notes, hn, Function.update_self]
  | mutualClose _ hledger _ _ =>
    rw [hledger] at hn
    cases hnew hn
  | initiateEscapeWithdrawal _ _ => cases hnew hn
  | challengeEscapeWithdrawal => cases hnew hn
  | finalizeEscapeWithdrawal _ _ _ _ hledger _ _ =>
    rw [hledger] at hn
    cases hnew hn
  | claimExpired _ _ _ hledger _ _ =>
    rw [hledger] at hn
    cases hnew hn
  | administer _ => cases hnew hn

theorem commitment_eq_of_record {note note' : Note} (h : note'.record = note.record) :
  note'.commitment = note.commitment
  := congrArg Prod.fst h

theorem Step.distinct {a : Action} (h : Distinct w.ledger) (hstep : Step v w a w')
    (hfresh : ∀ env commitment amount siblings r,
      a = .call env (.deposit commitment amount siblings) r →
      ∀ n, w.ledger.Allocated n → (w.ledger.notes n).commitment ≠ commitment) :
  Distinct w'.ledger
  := by
  cases hstep with
  | @call env call receipt _ _ hexecute =>
    have heffect := execute_effect hexecute
    -- a note that was there differs from one that is new
    have hnew : ∀ m n, w.ledger.Allocated m → ¬ w.ledger.Allocated n →
        receipt.world.ledger.Allocated n →
        (receipt.world.ledger.notes m).commitment
          ≠ (receipt.world.ledger.notes n).commitment := by
      intro m n hm hn hn'
      obtain ⟨commitment, amount, siblings, rfl, -, hcommitment⟩ := heffect.allocated hn' hn
      rw [hcommitment, commitment_eq_of_record (heffect.record hm).2]
      apply hfresh env commitment amount siblings receipt rfl m hm
    intro m n hm' hn' heq
    by_cases hm : w.ledger.Allocated m <;> by_cases hn : w.ledger.Allocated n
    · apply h m n hm hn
      rw [← commitment_eq_of_record (heffect.record hm).2,
        ← commitment_eq_of_record (heffect.record hn).2, heq]
    · cases hnew m n hm hn hn' heq
    · cases hnew n m hn hm hm' heq.symm
    · obtain ⟨_, _, _, -, hm, -⟩ := heffect.allocated hm' hm
      obtain ⟨_, _, _, -, hn, -⟩ := heffect.allocated hn' hn
      rw [hm, hn]
  | donation => apply h

theorem Reachable.distinct (h : Reachable v actions w) (hseparated : Separated actions) :
  Distinct w.ledger
  := by
  obtain ⟨address, timestamp, held, args, w₀, hconstruct, hrun⟩ := h
  have hinitial := (construct_ok hconstruct).2
  revert hseparated
  apply hrun.invariant_history (P := fun as t => Separated as → Distinct t.ledger)
  · intro _ m n hm
    rw [hinitial] at hm
    cases hm
  · intro ks t a u hrun' ih hstep hseparated
    have hreach : Reachable v ks t := ⟨address, timestamp, held, args, w₀, hconstruct, hrun'⟩
    apply Step.distinct (ih hseparated.left) hstep
    rintro env commitment amount siblings r rfl
    rw [← hreach.ledgerAfter_eq]
    apply hseparated.deposits ks env commitment amount siblings r [] rfl

/-! ### The evidence -/

/-- The pairs that the circuit of a request hashes from its leaf to the root. -/
def requestPairs (a : RequestAssignment) : List (Fr × Fr) :=
  climbPairs merkleNode a.noteId.toNat a.leaf (List.ofFn a.siblings)

/-- What is hashed to the leaf of a note on record. -/
def recordPreimage (l : Ledger) (n : U32) : List Fr :=
  leafPreimage n (residue (l.notes n).commitment) (l.notes n).depositAmount
    (l.notes n).expiryTs

/-- What a circuit hashes to the nullifier. -/
def nullifierPreimage (secret anchor : Fr) : List Fr :=
  [domain "zkapi.v2.null", secret, anchor]

/-- What the vault and the two circuits have hashed does not collide, and the leaf of the
request is not the empty leaf. -/
structure EvidenceNoCollision (v : Deployment) (actions : List Action) (l : Ledger)
    (a : RequestAssignment) (b : WithdrawalAssignment) : Prop where
  nodes : CollisionFree { p | p ∈ hashedPairs v actions ++ (requestPairs a ++ pathPairs b) }
  leaves : Set.InjOn poseidonHash
    { x | x = leafPreimage a.noteId (registrationCommitment a.secret) a.depositAmount a.expiry
      ∨ x = leafPreimage b.noteId (registrationCommitment b.secret) b.depositAmount b.expiry
      ∨ ∃ n, l.Allocated n ∧ x = recordPreimage l n }
  notEmpty : a.leaf ≠ 0
  nullifiers : Set.InjOn poseidonHash
    { nullifierPreimage a.secret a.anchor, nullifierPreimage b.secret b.anchor }

/-- The request of a challenge was proved for the note that is pending: both the request and
the last escape of the note have witnesses, and all their witnesses have the same leaf, the
same secret and the same anchor, that of the note. -/
def EvidenceBelongs (v : Deployment) (actions : List Action) (l : Ledger) (n : U32)
    (inputs : RequestPublicInputs) : Prop :=
  ∃ e : LastEscape v actions n,
    (∃ a, RequestConstraints inputs.toFieldElements a)
      ∧ (∃ b, WithdrawalConstraints e.inputs.toFieldElements b)
      ∧ ∀ a b, RequestConstraints inputs.toFieldElements a →
        WithdrawalConstraints e.inputs.toFieldElements b →
        EvidenceNoCollision v actions l a b →
        a.noteId = n ∧ a.leaf = b.leaf ∧ a.secret = b.secret ∧ a.anchor = b.anchor

theorem hashedPairs_append (as bs : List Action) :
  hashedPairs v (as ++ bs) = hashedPairs v as ++ runPairs v (ledgerAfter as) bs
  := by
  rw [hashedPairs, runPairs_append, ← List.append_assoc, ← hashedPairs, ledgerAfter]

/-- A history passes through the states that its parts lead to. -/
theorem Reachable.split {as bs : List Action} (h : Reachable v (as ++ bs) w) :
  ∃ u, Reachable v as u ∧ Run (Step v) u bs w
  := by
  obtain ⟨address, timestamp, held, args, w₀, hconstruct, hrun⟩ := h
  obtain ⟨u, hu, hrun⟩ := hrun.split
  exact ⟨u, ⟨address, timestamp, held, args, w₀, hconstruct, hu⟩, hrun⟩

/-- The leaf of a note that was active in a state on the way is that of its record. -/
theorem Reachable.leaf_of_active {as bs : List Action} {u : World} {n : U32}
    (h : Reachable v as u) (hrun : Run (Step v) u bs w)
    (hactive : (u.ledger.notes n).status = .active) :
  w.ledger.Allocated n
    ∧ residue (noteLeafAt u.ledger n) = poseidonHash (recordPreimage w.ledger n)
  := by
  have hlt := h.conserved.lt_next (n := n) (by rw [hactive]; simp)
  obtain ⟨hallocated, hrecord⟩ := record_of_run hrun hlt
  constructor
  · apply hallocated
  · rw [noteLeafAt_active hactive, ← leaf_eq_of_record hrecord, leaf, residue_computeLeaf]
    rfl

/-- The leaf of a request for a root that the vault has stored, if it is not empty, is that
of a note on record. -/
theorem Reachable.leaf_of_request {R : RequestPublicInputs} {a : RequestAssignment}
    {b : WithdrawalAssignment} {cs ds : List Action} (h : Reachable v (cs ++ ds) w)
    (ha : RequestConstraints R.toFieldElements a)
    (hroot : R.activeRoot = (ledgerAfter cs).currentRoot)
    (hnone : EvidenceNoCollision v (cs ++ ds) w.ledger a b) :
  w.ledger.Allocated a.noteId ∧ a.leaf = poseidonHash (recordPreimage w.ledger a.noteId)
  := by
  obtain ⟨u, hu, hrun⟩ := h.split
  rw [hu.ledgerAfter_eq] at hroot
  have hrooted := hu.rooted hnone.nodes (by
    intro p hp
    rw [hashedPairs_append]
    apply List.mem_append_left _ (List.mem_append_left _ hp))
  have hleaf := hrooted.leaf_of_path hnone.nodes
    (by
      intro p hp
      apply List.mem_append_right _ (List.mem_append_left _ hp))
    (by rw [← rootVar_eq, ha.activeRoot, RequestPublicInputs.toFieldElements, hroot])
  have hactive : (u.ledger.notes a.noteId).status = .active := by
    by_contra hnot
    rw [noteLeafAt_of_status hnot, residue_zero] at hleaf
    apply hnone.notEmpty hleaf
  rw [hleaf]
  apply hu.leaf_of_active hrun hactive

/-- The leaf of a withdrawal that has passed its checks is that of the note it names. -/
theorem LastEscape.leaf_eq {n : U32} {newRoot : U256} {a : RequestAssignment}
    {b : WithdrawalAssignment} (e : LastEscape v actions n) (h : Reachable v actions w)
    (hauth : Authorized v e.env e.world false e.inputs e.proof e.siblings newRoot)
    (hb : WithdrawalConstraints e.inputs.toFieldElements b)
    (hnone : EvidenceNoCollision v actions w.ledger a b) :
  w.ledger.Allocated n ∧ b.leaf = poseidonHash (recordPreimage w.ledger n)
  := by
  have hnote : b.noteId = n := by
    rw [← e.noteId_eq]
    apply (toNat_cast_inj (by norm_num)).mp hb.noteId
  have hreach := h
  rw [e.history_eq] at hreach
  obtain ⟨u, hu, hrun⟩ := hreach.split
  have hledger : u.ledger = e.world.ledger := by
    rw [← hu.ledgerAfter_eq, e.reachable.ledgerAfter_eq]
  have hactive := hauth.active
  rw [e.noteId_eq, ← hledger] at hactive
  have hrooted := hu.rooted hnone.nodes (by
    intro p hp
    rw [e.history_eq, hashedPairs_append]
    apply List.mem_append_left _ (List.mem_append_left _ hp))
  have hleaf := hrooted.leaf_eq hnone.nodes
    (by
      intro p hp
      apply List.mem_append_right _ (List.mem_append_right _ hp))
    hb (by rw [hledger]; exact congrArg residue hauth.root)
  rw [hleaf, hnote]
  apply hu.leaf_of_active hrun hactive

/-- Requests and withdrawals with the same nullifier have the same secret and anchor. -/
theorem EvidenceNoCollision.secret_eq {R : RequestPublicInputs} {W : WithdrawalPublicInputs}
    {l : Ledger} {a : RequestAssignment} {b : WithdrawalAssignment}
    (h : EvidenceNoCollision v actions l a b) (ha : RequestConstraints R.toFieldElements a)
    (hb : WithdrawalConstraints W.toFieldElements b)
    (hnullifier : R.requestNullifier = W.withdrawalNullifier) :
  a.secret = b.secret ∧ a.anchor = b.anchor
  := by
  have hsame : poseidonHash (nullifierPreimage a.secret a.anchor)
      = poseidonHash (nullifierPreimage b.secret b.anchor) := by
    rw [nullifierPreimage, nullifierPreimage, ha.requestNullifier, hb.withdrawalNullifier,
      RequestPublicInputs.toFieldElements, WithdrawalPublicInputs.toFieldElements, hnullifier]
  have hpreimage := h.nullifiers (Set.mem_insert _ _) (Set.mem_insert_of_mem _ rfl) hsame
  simp only [nullifierPreimage, List.cons.injEq] at hpreimage
  obtain ⟨_, hsecret, hanchor, _⟩ := hpreimage
  exact ⟨hsecret, hanchor⟩

/-- In a run whose deposits have pairwise different commitments and whose challenges name
roots that the vault has stored, the evidence of every challenge belongs to the note that is
pending. -/
theorem challenge_evidence {n : U32} {inputs : RequestPublicInputs} {proof : Bytes}
    {siblings : Fin 32 → U256} (h : Reachable v actions w)
    (hrequest : v.proofAdapter.RequestSound) (hwithdrawal : v.proofAdapter.WithdrawalSound)
    (hexecute : execute v env w (.challengeEscapeWithdrawal n inputs proof siblings) = .ok r)
    (hseparated : Separated
      (actions ++ [.call env (.challengeEscapeWithdrawal n inputs proof siblings) r])) :
  EvidenceBelongs v actions w.ledger n inputs
  := by
  cases execute_effect hexecute with
  | challengeEscapeWithdrawal hstatus _ _ _ hnullifier hvalid _ =>
    obtain ⟨e, hescape, newRoot, hauth⟩ := h.lastEscape hstatus
    use e
    constructor
    · apply hrequest inputs proof hvalid
    constructor
    · apply hwithdrawal e.inputs e.proof hauth.valid
    intro a b ha hb hnone
    obtain ⟨hsecret, hanchor⟩ := hnone.secret_eq ha hb (hnullifier.trans hescape)
    obtain ⟨hallocatedb, hrecordb⟩ := e.leaf_eq h hauth hb hnone
    obtain ⟨cs, ds, rfl, hroot⟩ :=
      hseparated.challenges actions env n inputs proof siblings _ [] rfl
    obtain ⟨hallocateda, hrecorda⟩ := h.leaf_of_request ha hroot hnone
    -- both notes are registered under the same secret, and their commitments are different
    have hleafa : a.leaf = poseidonHash (leafPreimage a.noteId (registrationCommitment a.secret)
        a.depositAmount a.expiry) := leafVar_eq _ _ _ _
    have hleafb : b.leaf = poseidonHash (leafPreimage b.noteId (registrationCommitment b.secret)
        b.depositAmount b.expiry) := leafVar_eq _ _ _ _
    have hpa := hnone.leaves (.inl rfl) (.inr (.inr ⟨_, hallocateda, rfl⟩))
      (hleafa.symm.trans hrecorda)
    have hpb := hnone.leaves (.inr (.inl rfl)) (.inr (.inr ⟨_, hallocatedb, rfl⟩))
      (hleafb.symm.trans hrecordb)
    simp only [leafPreimage, recordPreimage, List.cons.injEq] at hpa hpb
    obtain ⟨_, _, hregistereda, _⟩ := hpa
    obtain ⟨_, _, hregisteredb, _⟩ := hpb
    rw [hsecret, hregisteredb] at hregistereda
    have hcommitment := congrArg word hregistereda
    rw [word_residue (h.commitment_lt n), word_residue (h.commitment_lt a.noteId)]
      at hcommitment
    have hid := h.distinct hseparated.left n a.noteId hallocatedb hallocateda hcommitment
    rw [← hid] at hrecorda
    constructor
    · apply hid.symm
    constructor
    · rw [hrecorda, hrecordb]
    · exact ⟨hsecret, hanchor⟩

/-! ### Evidence for the note itself -/

/-- The first part of a history up to one of its actions. -/
theorem exists_take {as bs : List Action} {a : Action} (h : actions = as ++ a :: bs) :
  ∃ k < actions.length, as = actions.take k ∧ actions[k]? = some a
  := by
  use as.length
  rw [h]
  simp

/-- The siblings of a note in the tree lead from its leaf to the root. -/
theorem merkleRoot_siblingPath {l : Ledger} {n : U32} (hroot : l.currentRoot = treeRoot l)
    (hactive : (l.notes n).status = .active) :
  merkleRoot n (residue (leaf n (l.notes n))) (fun level => residue (siblingPath l n level))
    = residue l.currentRoot
  := by
  have hmap : List.ofFn (fun level => residue (siblingPath l n level))
      = (List.ofFn (siblingPath l n)).map residue := List.map_ofFn.symm
  have hlt : n.toNat < 2 ^ MERKLE_DEPTH := n.isLt
  rw [merkleRoot_eq_climb, hmap, ← map_climb residue_poseidonNodeHash, ofFn_siblingPath,
    ← noteLeafAt_active hactive, ← leaves_toNat, climb_path_self _ _ hlt, hroot, treeRoot]

namespace ChallengeExample

open OwnershipExample (commitment block newRoot ledger witness)

/-- The witness of a request for a note of ten units with the secret one, in its first
state. -/
def requestWitness (l : Ledger) (n : U32) : RequestWitness where
  secret := 1
  requestContext := 0
  noteId := n
  depositAmount := 10
  expiry := 1700092800
  merkleSiblings level := residue (siblingPath l n level)
  currentBalance := 10
  currentBlinding := 0
  rerandomization := 0
  currentAnchor := 1
  isGenesis := true
  stateSignature := { r := 0, s := 0 }

/-- The wires of its proof. -/
def requestWires (l : Ledger) (n : U32) : RequestAssignment :=
  (requestWitness l n).wires generator (balanceCommitment 10 0 (witness.leaf n)) 1700000000 5

/-- The record of a note of ten units with the secret one. -/
def note : Note where
  commitment
  depositAmount := 10
  expiryTs := 1700092800
  status := .active

theorem leaf_note (n : U32) :
  residue (leaf n note) = witness.leaf n
  := by
  rw [leaf, residue_computeLeaf, note, commitment, residue_word]
  rfl

theorem requestOf_statement {l : Ledger} {n : U32} (hroot : l.currentRoot = treeRoot l)
    (hnote : l.notes n = note) :
  RequestStatement (requestOf l.currentRoot n).toFieldElements generator 1700000000 5
    (requestWitness l n)
  := by
  have hactive : (l.notes n).status = .active := by
    rw [hnote]
    rfl
  have hpath := merkleRoot_siblingPath hroot hactive
  rw [hnote, leaf_note] at hpath
  have hsame : rerandomizeCommitment (requestWitness l n).commitment 0
      = balanceCommitment 10 0 (witness.leaf n) := by
    rw [rerandomizeCommitment, ZMod.val_zero, zero_smul, add_zero]
    rfl
  constructor
  case root_eq => apply hpath
  case secret_ne_zero => apply one_ne_zero
  case genesis => exact fun _ => ⟨rfl, rfl⟩
  case signed =>
    intro h
    cases h
  case requestTime_le =>
    have hle : (1700000000 : U64).toNat ≤ (1700092800 : U64).toNat := by decide
    apply hle
  case solvencyBound_le =>
    have hle : (5 : U128).toNat ≤ (10 : U128).toNat := by decide
    apply hle
  case anonymous_eq =>
    simp only [requestWitness] at hsame ⊢
    rw [hsame]
    constructor
    · apply (residue_word _).symm
    · apply (residue_word _).symm
  case nullifier_eq => apply (residue_word _).symm
  case tag_eq =>
    simp only [RequestPublicInputs.toFieldElements, requestOf, residue_word]
    rfl
  all_goals rfl

theorem requestOf_constraints {l : Ledger} {n : U32} (hroot : l.currentRoot = treeRoot l)
    (hnote : l.notes n = note) :
  RequestConstraints (requestOf l.currentRoot n).toFieldElements (requestWires l n)
  := by
  have hx : generator.x = residue OwnershipExample.inputs.stateSigningKeyX := by decide +kernel
  have hy : generator.y = residue OwnershipExample.inputs.stateSigningKeyY := by decide +kernel
  apply (requestOf_statement hroot hnote).constraints generator_mem hx hy _
    primeSubgroup.zero_mem
  constructor
  · apply (residue_word _).symm
  · apply (residue_word _).symm

theorem requestSound :
  vault.proofAdapter.RequestSound
  := by
  intro x _ hx
  obtain rfl := of_decide_eq_true hx
  use requestWires ledger 0
  apply requestOf_constraints ledger_root rfl

theorem withdrawalSound :
  vault.proofAdapter.WithdrawalSound
  := OwnershipExample.vault_sound

/-- The outcome of the challenge along the siblings of the tree. -/
def challengeReceipt : Receipt where
  world := { pendingWorld with ledger := pendingLedger.restored 0 }
  sent := []
  events := [.escapeWithdrawalChallenged 0 OwnershipExample.inputs.withdrawalNullifier
    (pendingLedger.rootWith 0 (leaf 0 (pendingLedger.notes 0)))]

theorem challenge_ok :
  execute vault block pendingWorld
      (.challengeEscapeWithdrawal 0 request [] (siblingPath pendingLedger 0))
    = .ok challengeReceipt
  := by
  have hroot : pendingWorld.ledger.currentRoot = treeRoot pendingWorld.ledger :=
    (reachable.rooted collisionFree fun _ hp => hp).root_eq
  have hvalid : vault.proofAdapter.assertValidRequest request [] = true := decide_eq_true rfl
  apply challenge_siblingPath (w := pendingWorld) hroot rfl rfl rfl (by decide) (by decide) rfl
    hvalid

/-- The one deposit has a commitment of its own, and the request names the root after it. -/
theorem separated :
  Separated ([deposit, escape]
    ++ [.call block
      (.challengeEscapeWithdrawal 0 request [] (siblingPath pendingLedger 0)) challengeReceipt])
  := by
  constructor
  · intro as env commitment amount siblings r bs heq n hn
    obtain ⟨k, hk, rfl, hget⟩ := exists_take heq
    obtain _ | _ | _ | k := k
    · -- before the first deposit no note is allocated
      cases hn
    · cases hget
    · cases hget
    · cases hget
  · intro as env n inputs proof siblings r bs heq
    obtain ⟨k, hk, rfl, hget⟩ := exists_take heq
    obtain _ | _ | _ | k := k
    · cases hget
    · cases hget
    · cases hget
      use [deposit], [escape]
      exact ⟨rfl, rfl⟩
    · cases hget

/-- The evidence in the challenge of an escape with an earlier request for the same note. -/
theorem challenge_evidence_request :
  EvidenceBelongs vault [deposit, escape] pendingWorld.ledger 0 request
  := challenge_evidence reachable requestSound withdrawalSound challenge_ok separated

end ChallengeExample

/-! ### Evidence for another note

Two notes are deposited with the same commitment.  The second escapes, and a request for the
first is accepted as evidence. -/

namespace DuplicateExample

open OwnershipExample (commitment block ledger pathNodes)
open ChallengeExample (requestOf requestWires leaf_note ledger_root)

/-- The ledger after the second deposit. -/
def twinLedger : Ledger :=
  ledger.deposited commitment 10 1700092800
    (ledger.rootWith 1 (NoteLeafLib.computeLeaf 1 commitment 10 1700092800))

/-- The request for the first note. -/
def request : RequestPublicInputs :=
  requestOf twinLedger.currentRoot 0

/-- The escape of the second note. -/
def inputs : WithdrawalPublicInputs where
  protocolVersion := 2
  chainId := 1
  contractAddress := 9
  activeRoot := twinLedger.currentRoot
  stateSigningKeyX := OwnershipExample.inputs.stateSigningKeyX
  stateSigningKeyY := OwnershipExample.inputs.stateSigningKeyY
  clearanceSigningKeyX := OwnershipExample.inputs.clearanceSigningKeyX
  clearanceSigningKeyY := OwnershipExample.inputs.clearanceSigningKeyY
  noteId := 1
  finalBalance := 10
  destination := 11
  withdrawalNullifier := word (requestNullifier 1 1)
  hasClearance := false
  withdrawalTag := OwnershipExample.inputs.withdrawalTag

/-- A vault that accepts the request and the escape. -/
def vault : Deployment :=
  { OwnershipExample.vault with
    proofAdapter :=
      { assertValidRequest := fun x _ => decide (x = request)
        assertValidWithdrawal := fun x _ => decide (x = inputs) } }

/-- The arguments of its constructor. -/
def args : ConstructorArgs :=
  { OwnershipExample.args with proofAdapter := vault.proofAdapter }

/-- The outcome of the second deposit. -/
def twinReceipt : Receipt where
  world := { OwnershipExample.deposited with ledger := twinLedger, held := 20 }
  sent := []
  events := [.noteDeposited 1 commitment 10 1700092800 twinLedger.currentRoot]

/-- The state after the second deposit. -/
def twinWorld : World :=
  { twinReceipt.world with now := 1700000000 }

/-- The ledger while the second note is pending. -/
def pendingLedger : Ledger :=
  twinLedger.escaped inputs 1700086400

/-- The outcome of the escape. -/
def escapeReceipt : Receipt where
  world := { twinWorld with ledger := pendingLedger }
  sent := []
  events := [.escapeWithdrawalInitiated 1 inputs.withdrawalNullifier 10 11 1700086400
    (twinLedger.rootWith 1 0)]

/-- The state while the second note is pending. -/
def pendingWorld : World :=
  { escapeReceipt.world with now := 1700000000 }

/-- The second deposit. -/
def twinDeposit : Action :=
  .call block (.deposit commitment 10 (siblingPath ledger 1)) twinReceipt

/-- The escape of the second note. -/
def escape : Action :=
  .call block (.initiateEscapeWithdrawal inputs [] (siblingPath twinLedger 1)) escapeReceipt

/-- The history up to the challenge. -/
def history : List Action :=
  [ChallengeExample.deposit, twinDeposit, escape]

theorem twinLedger_notes_eq :
  twinLedger.notes = Function.update ledger.notes 1 ChallengeExample.note
  := rfl

theorem ledger_notes_eq :
  ledger.notes = Function.update Ledger.initial.notes 0 ChallengeExample.note
  := rfl

theorem twinLedger_note_one :
  twinLedger.notes 1 = ChallengeExample.note
  := by
  rw [twinLedger_notes_eq, Function.update_self]

theorem twinLedger_note_zero :
  twinLedger.notes 0 = ChallengeExample.note
  := by
  rw [twinLedger_notes_eq, Function.update_of_ne (by decide), ledger_notes_eq,
    Function.update_self]

/-- The leaf of a note that is active under the commitment of the example. -/
theorem noteLeafAt_note {l : Ledger} {n : U32} (h : l.notes n = ChallengeExample.note) :
  noteLeafAt l n = leaf n ChallengeExample.note
  := by
  rw [noteLeafAt_active (by rw [h]; rfl), h]

theorem twinLedger_root :
  twinLedger.currentRoot = treeRoot twinLedger
  := by
  have hcurrent : twinLedger.currentRoot
      = ledger.rootWith 1 (leaf 1 ChallengeExample.note) := rfl
  apply treeRoot_of_rootWith hcurrent
  · intro m hm
    apply Function.update_of_ne hm
  · apply noteLeafAt_note twinLedger_note_one

theorem twinDeposit_ok :
  execute vault block OwnershipExample.deposited
      (.deposit commitment 10 (siblingPath ledger 1))
    = .ok twinReceipt
  := by
  have hcommitment : commitment ≠ 0 := by decide +kernel
  have hfield : commitment.toNat < fieldModulus := by
    rw [commitment, word_toNat]
    apply val_lt
  have hexpiry : bucketedExpiry vault block = .ok 1700092800 := rfl
  apply deposit_siblingPath (w := OwnershipExample.deposited) ledger_root rfl (by decide) rfl
    (fun h => h rfl) rfl (by decide) hcommitment hfield hexpiry rfl

theorem escape_ok :
  execute vault block twinWorld (.initiateEscapeWithdrawal inputs [] (siblingPath twinLedger 1))
    = .ok escapeReceipt
  := by
  have hvalid : vault.proofAdapter.assertValidWithdrawal inputs [] = true := decide_eq_true rfl
  have hdeadline : checkedAdd (block.timestamp.setWidth 64) vault.challengePeriod
      = .ok 1700086400 := rfl
  apply escape_siblingPath (w := twinWorld) twinLedger_root rfl rfl (by decide) rfl rfl hvalid
    rfl (by decide) rfl hdeadline

theorem reachable :
  Reachable vault history pendingWorld
  := by
  have hdeposit : Step vault tokenWorld ChallengeExample.deposit OwnershipExample.deposited :=
    .call (by decide) (by decide) (ChallengeExample.deposit_ok vault.proofAdapter)
  have htwin : Step vault OwnershipExample.deposited twinDeposit twinWorld :=
    .call (by decide) (by decide) twinDeposit_ok
  have hescape : Step vault twinWorld escape pendingWorld :=
    .call (by decide) (by decide) escape_ok
  exact ⟨9, 1700000000, 0, args, tokenWorld, rfl,
    ((Run.single hdeposit).append (.single htwin)).append (.single hescape)⟩

theorem pendingLedger_root :
  pendingLedger.currentRoot = treeRoot pendingLedger
  := by
  apply treeRoot_of_rootWith (l := twinLedger) (n := 1) rfl
  · intro m hm
    apply Function.update_of_ne hm
  · rfl

theorem challenge_ok :
  ∃ r, execute vault block pendingWorld
      (.challengeEscapeWithdrawal 1 request [] (siblingPath pendingLedger 1)) = .ok r
  := by
  have hvalid : vault.proofAdapter.assertValidRequest request [] = true := decide_eq_true rfl
  refine ⟨_, challenge_siblingPath (w := pendingWorld) pendingLedger_root rfl rfl rfl (by decide)
    (by decide) rfl hvalid⟩

/-! #### The proofs -/

/-- The witness of the escape. -/
def witness : WithdrawalWitness where
  secret := 1
  depositAmount := 10
  expiry := 1700092800
  merkleSiblings level := residue (siblingPath twinLedger 1 level)
  finalBlinding := 0
  currentAnchor := 1
  isGenesis := true
  stateSignature := { r := 0, s := 0 }
  clearanceSignature := { r := 0, s := 0 }

/-- The typed inputs of the escape. -/
def typed : WithdrawalTyped where
  stateSigningKey := generator
  clearanceSigningKey := generator
  noteId := 1
  finalBalance := 10
  hasClearance := false

/-- The leaf does not depend on the siblings. -/
theorem leaf_witness (n : U32) :
  OwnershipExample.witness.leaf n = witness.leaf n
  := by
  rw [WithdrawalWitness.leaf, WithdrawalWitness.leaf]
  rfl

theorem statement :
  WithdrawalStatement inputs.toFieldElements typed witness
  := by
  have hpath := merkleRoot_siblingPath (n := 1) twinLedger_root rfl
  have hnote : twinLedger.notes 1 = ChallengeExample.note := rfl
  rw [hnote, leaf_note, leaf_witness] at hpath
  constructor
  case root_eq => apply hpath
  case secret_ne_zero => apply one_ne_zero
  case finalBalance_le => decide
  case genesis => exact fun _ => ⟨rfl, rfl⟩
  case signed =>
    intro h
    cases h
  case cleared =>
    intro h
    cases h
  case nullifier_eq => apply (residue_word _).symm
  case tag_eq =>
    simp only [WithdrawalPublicInputs.toFieldElements, inputs, OwnershipExample.inputs,
      residue_word]
    rfl
  all_goals rfl

theorem constraints :
  WithdrawalConstraints inputs.toFieldElements (witness.wires typed)
  := by
  have hx : generator.x = residue inputs.stateSigningKeyX := by decide +kernel
  have hy : generator.y = residue inputs.stateSigningKeyY := by decide +kernel
  apply statement.constraints generator_mem generator_mem hx hy hx hy primeSubgroup.zero_mem
    primeSubgroup.zero_mem

theorem request_constraints :
  RequestConstraints request.toFieldElements (requestWires twinLedger 0)
  := ChallengeExample.requestOf_constraints twinLedger_root rfl

theorem requestSound :
  vault.proofAdapter.RequestSound
  := by
  intro x _ hx
  obtain rfl := of_decide_eq_true hx
  use requestWires twinLedger 0
  apply request_constraints

theorem withdrawalSound :
  vault.proofAdapter.WithdrawalSound
  := by
  intro x _ hx
  obtain rfl := of_decide_eq_true hx
  use witness.wires typed
  apply constraints

/-! #### The pairs that are hashed do not collide -/

/-- The leaf of the second note, and the nodes above the two leaves. -/
def twinNodes : List Fr :=
  [ 0x2c9b55a84b2c335b12801bff88e3e1c837fc433ab7fa3f57ad2dff64ffdad1d3,
    0x05acd07b8e5f2a58a9cd5795ac8170ff5935a872369b1628103726146c301cf8,
    0x15255bc3c70f578a620b5ec9e7adc7731362bfa57f7679a5b630932f88eff4b7,
    0x1e2eb7cdb3dcc0bc9681d430ad1b17ed9f12888db3ce84120cc5d9eadd71399d,
    0x08e4af2751e1f640a7cd8006eae5b1ed394eabc82c14da670d8552ec11bc2b51,
    0x13978e24225227b066ee996d3723910b767aadcaa62a39fd589229627b37b0c8,
    0x003caa698fe7b9b7547bc60b22cd21a27282d70a7713139ec69bdb54a6f52134,
    0x28f588581c0c74acde91b9fb977b7746f801fd9a05edc79a1825862c16bc565d,
    0x18f0b244709fa674b99a44ac4269f37e2640ac120337d943c2d529fb523cf3c2,
    0x0c961472d5b75ae6e91e3c85640f8b503f74068757e0d8d0e96664c75f1cd693,
    0x0f6f8d2c49357416a826f32d07edae875a51c75fab06c8a4df167ba16625722c,
    0x088eee4abe1b0b62f2c304b0255c31c0b04a26294ba6ade2aa0c221bf38234ba,
    0x0073bd56684edae3757899538145434dcfa62c0e017084d50b7f12f58908da4d,
    0x154e859631bfcfe36d8f7db958cb454e17e95d1d5c34c2a359a1cf9566e537e3,
    0x1c349e09d5f7c36e86a4be19e00cde28e83118cec6a2ff7a11a9aa10919d12b3,
    0x2e74141907a4bf3203bf8d29b65f603c34a5b9756cf0eab446f57cacbbce4aaa,
    0x25ced71bc2741c1e4025a44342a609b78a501e99e4ef90eaa165a3e8b15ecd18,
    0x23fb5d2850d4db0b092e1dec9754b37dad2a8d53610118549fa588139227fca3,
    0x1fe142c8bfe4b19b48bd69379026d7fe096e52ef9e846ea9763251336d6bd120,
    0x0b368dd95642ec31cec63beb4f21cd828662a197ebf6b959ddf48dee556d41f0,
    0x16a9b10180cb5edc49ac1d8b686f123f6fa2d53fb013990bfb9d49001236acc7,
    0x02bb33f61abbf761abde65aae18d0a697542bc797ac8559bc480c4f1ca421043,
    0x029856a0e94b91292553e55a43330a9ad9e42b9b6b18dcdbb0d33877d35d5c3f,
    0x1edf442fb6b25ee666ed6f92b62a91649615a87ab3fbc0333f428e9d82faef24,
    0x2cec3d25a17c2bbc81ee6b5965522136c7bbc9046ebff90f7ea0603e17275795,
    0x03dcd1066983362d400ef298156cc0043fcad92c15e72e86762863c7ed5cfb5d,
    0x1c9fb54d18ddf415aa63c16e888764babe321febaf9efa7f868128a7a0db102b,
    0x1dae9d79377ac8001da951f5119c5452634930d43396414c42021488fd754d7b,
    0x27d7d70d61ff96aa774b29cf3bc802294811a3a2d9919fe17225f6831b5539ba,
    0x06a4d6c31a5f9e5a17c9aaf8bf0411ef8bac5aed071605920f717a60b121caa7,
    0x15e1146bd2c146fdeb5c9edaf84321f7751a6f0be72b121daeef44a98c576f69,
    0x300748322b543024361d861453e43d41c7eb346d87fd429c044611fb37a49362,
    0x26bd06a34cf0fb592d4173343b9a6c6a044fa9abcd1c50bec58545dfd092950d ]

/-- The nodes above the first of them hash the node below and an empty one. -/
theorem twinNodes_step :
  ∀ k, 1 ≤ k → k < 32 →
    merkleNode (twinNodes.getD k 0) (zeroHashes.getD k 0) = twinNodes.getD (k + 1) 0
  := by
  have hvalue : ∀ k < 32, 1 ≤ k →
      hashValue [(domain "zkapi.v2.node").val, (twinNodes.getD k 0).val,
        (zeroHashes.getD k 0).val] % fieldModulus
      = (twinNodes.getD (k + 1) 0).val := by decide +kernel
  intro k hpos hk
  apply merkleNode_eq_of_value (hvalue k hk hpos)

theorem twinNodes_parent :
  merkleNode (pathNodes.getD 0 0) (twinNodes.getD 0 0) = twinNodes.getD 1 0
  := by
  apply merkleNode_eq_of_value
  decide +kernel

theorem witness_leaf :
  witness.leaf 1 = twinNodes.getD 0 0
  := by
  rw [WithdrawalWitness.leaf, witness, OwnershipExample.registrationCommitment_one]
  apply poseidonHash_eq_of_value
  decide +kernel

theorem hashes_nodup :
  (zeroHashes.tail ++ (pathNodes.tail ++ twinNodes.tail)).Nodup
  := by decide +kernel

/-- The pairs that are hashed to the nodes above the two leaves. -/
def twinPairs : List (Fr × Fr) :=
  (pathNodes.getD 0 0, twinNodes.getD 0 0)
    :: (List.range' 1 31).map fun k => (twinNodes.getD k 0, zeroHashes.getD k 0)

/-- All pairs that are hashed. -/
def allPairs : List (Fr × Fr) :=
  (List.range 32).map (fun k => (zeroHashes.getD k 0, zeroHashes.getD k 0))
    ++ ((List.range 32).map (fun k => (pathNodes.getD k 0, zeroHashes.getD k 0)) ++ twinPairs)

theorem map_allPairs :
  allPairs.map (Function.uncurry merkleNode)
    = zeroHashes.tail ++ (pathNodes.tail ++ twinNodes.tail)
  := by
  have htail : ∀ x : List Fr, x.length = 33 →
      (List.range 32).map (fun k => x.getD (k + 1) 0) = x.tail := by
    intro x hx
    apply List.ext_getElem
    · rw [List.length_map, List.length_range, List.length_tail, hx]
    · intro i _ hi
      rw [List.length_tail, hx] at hi
      rw [List.getElem_map, List.getElem_range, List.getElem_tail]
      apply List.getD_eq_getElem?_getD.trans
      rw [List.getElem?_eq_getElem (by omega), Option.getD_some]
  have hzero : ∀ k ∈ List.range 32, Function.uncurry merkleNode
      (zeroHashes.getD k 0, zeroHashes.getD k 0) = zeroHashes.getD (k + 1) 0 :=
    fun k hk => zeroHashes_step k (List.mem_range.mp hk)
  have hpath : ∀ k ∈ List.range 32, Function.uncurry merkleNode
      (pathNodes.getD k 0, zeroHashes.getD k 0) = pathNodes.getD (k + 1) 0 :=
    fun k hk => OwnershipExample.pathNodes_step k (List.mem_range.mp hk)
  have htwin : ∀ k ∈ List.range' 1 31, Function.uncurry merkleNode
      (twinNodes.getD k 0, zeroHashes.getD k 0) = twinNodes.getD (k + 1) 0 := by
    intro k hk
    obtain ⟨hlo, hhi⟩ := List.mem_range'_1.mp hk
    apply twinNodes_step k hlo (by omega)
  have hcons : Function.uncurry merkleNode (pathNodes.getD 0 0, twinNodes.getD 0 0)
      = twinNodes.getD (0 + 1) 0 := twinNodes_parent
  have hrange : List.range 32 = 0 :: List.range' 1 31 := List.range_eq_range'
  have htwins := htail twinNodes rfl
  rw [hrange, List.map_cons] at htwins
  simp only [allPairs, twinPairs, List.map_append, List.map_map, List.map_cons,
    Function.comp_def]
  rw [List.map_congr_left hzero, List.map_congr_left hpath, List.map_congr_left htwin, hcons,
    htail zeroHashes rfl, htail pathNodes rfl, htwins]

theorem collisionFree :
  CollisionFree { p | p ∈ allPairs }
  := by
  have hnodup := hashes_nodup
  rw [← map_allPairs] at hnodup
  intro p hp q hq h
  apply List.inj_on_of_nodup_map hnodup hp hq h


/-- The climbs along the siblings of the empty tree from the second level. -/
theorem climbPairs_from_one {x : List Fr} (hx : ∀ k, 1 ≤ k → k < 32 →
      merkleNode (x.getD k 0) (zeroHashes.getD k 0) = x.getD (k + 1) 0)
    (hmem : ∀ k, 1 ≤ k → k < 32 → (x.getD k 0, zeroHashes.getD k 0) ∈ allPairs) :
  ∀ p ∈ climbPairs merkleNode 0 (x.getD 1 0)
      ((List.range' 1 31).map fun k => zeroHashes.getD k 0), p ∈ allPairs
  := by
  intro p hp
  obtain ⟨k, hpos, hk, rfl⟩ := OwnershipExample.climbPairs_zeroHashes_from (le_refl 32) hx p hp
  apply hmem k hpos hk

theorem mem_zero {k : ℕ} (hk : k < 32) :
  (zeroHashes.getD k 0, zeroHashes.getD k 0) ∈ allPairs
  := by
  apply List.mem_append_left
  apply List.mem_map_of_mem (f := fun k => (zeroHashes.getD k 0, zeroHashes.getD k 0))
  apply List.mem_range.mpr hk

theorem mem_path {k : ℕ} (hk : k < 32) :
  (pathNodes.getD k 0, zeroHashes.getD k 0) ∈ allPairs
  := by
  apply List.mem_append_right
  apply List.mem_append_left
  apply List.mem_map_of_mem (f := fun k => (pathNodes.getD k 0, zeroHashes.getD k 0))
  apply List.mem_range.mpr hk

theorem mem_twin {p : Fr × Fr} (hp : p ∈ twinPairs) :
  p ∈ allPairs
  := by
  apply List.mem_append_right
  apply List.mem_append_right
  apply hp

/-- The pairs on the way up from the two leaves. -/
theorem climbPairs_twin :
  ∀ p ∈ climbPairs merkleNode 0 (twinNodes.getD 1 0)
      ((List.range' 1 31).map fun k => zeroHashes.getD k 0), p ∈ allPairs
  := by
  apply climbPairs_from_one twinNodes_step
  intro k hpos hk
  apply mem_twin
  apply List.mem_cons_of_mem
  apply List.mem_map_of_mem (f := fun k => (twinNodes.getD k 0, zeroHashes.getD k 0))
  apply List.mem_range'_1.mpr ⟨hpos, by omega⟩

/-- The siblings of one of two leaves. -/
theorem residue_siblingPath {l : Ledger} {n : U32} (hn : n.toNat < 2)
    (hl : ∀ m : U32, 2 ≤ m.toNat → (l.notes m).status ≠ .active) :
  (List.ofFn fun level => residue (siblingPath l n level))
    = residue (leaves l (1 - n.toNat)) :: (List.range' 1 31).map fun k => zeroHashes.getD k 0
  := by
  have hmap : (List.ofFn (siblingPath l n)).map residue
      = List.ofFn fun level => residue (siblingPath l n level) := List.map_ofFn
  have hempty : ∀ i, 2 ≤ i → residue (leaves l i) = 0 := by
    intro i hi
    rw [leaves]
    split
    case isTrue hlt =>
      rw [noteLeafAt_of_status, residue_zero]
      apply hl
      rw [BitVec.toNat_ofNat, Nat.mod_eq_of_lt hlt]
      apply hi
    case isFalse => apply residue_zero
  rw [← hmap, ofFn_siblingPath, map_path residue_poseidonNodeHash]
  apply (path_pair merkleNode hempty hn 31).trans
  congr 1
  apply List.map_congr_left
  intro k hk
  obtain ⟨_, hhi⟩ := List.mem_range'_1.mp hk
  apply emptyNode_eq k (by omega)

theorem twinLedger_notes {m : U32} (hm : 2 ≤ m.toNat) :
  (twinLedger.notes m).status ≠ .active
  := by
  have hzero : m ≠ 0 := by
    rintro rfl
    cases hm
  have hone : m ≠ 1 := by
    rintro rfl
    revert hm
    decide
  have hnotes : twinLedger.notes m = .empty := by
    have houter : twinLedger.notes m = ledger.notes m := Function.update_of_ne hone _ _
    have hinner : ledger.notes m = Ledger.initial.notes m := Function.update_of_ne hzero _ _
    rw [houter, hinner]
    rfl
  rw [hnotes]
  intro h
  cases h

theorem leaf_zero :
  residue (leaves twinLedger 0) = pathNodes.getD 0 0
  := by
  have hleaf := leaves_toNat twinLedger 0
  rw [noteLeafAt_note twinLedger_note_zero] at hleaf
  rw [← OwnershipExample.witness_leaf, ← leaf_note, ← hleaf]
  rfl

theorem leaf_one :
  residue (leaves twinLedger 1) = twinNodes.getD 0 0
  := by
  have hleaf := leaves_toNat twinLedger 1
  rw [noteLeafAt_note twinLedger_note_one] at hleaf
  rw [← witness_leaf, ← leaf_witness, ← leaf_note, ← hleaf]
  rfl

theorem residue_siblingPath_zero :
  (List.ofFn fun level => residue (siblingPath twinLedger 0 level))
    = twinNodes.getD 0 0 :: (List.range' 1 31).map fun k => zeroHashes.getD k 0
  := by
  rw [residue_siblingPath (by decide) fun _ hm => twinLedger_notes hm, ← leaf_one]
  rfl

theorem residue_siblingPath_one :
  (List.ofFn fun level => residue (siblingPath twinLedger 1 level))
    = pathNodes.getD 0 0 :: (List.range' 1 31).map fun k => zeroHashes.getD k 0
  := by
  rw [residue_siblingPath (by decide) fun _ hm => twinLedger_notes hm, ← leaf_zero]
  rfl

/-- A climb hashes known pairs when its first pair is known and the climb from there does. -/
theorem climbPairs_cons {i : ℕ} {x s y : Fr} {ss : List Fr}
    (hnode : merkleNode (ordered i x s).1 (ordered i x s).2 = y)
    (hmem : ordered i x s ∈ allPairs)
    (hss : ∀ p ∈ climbPairs merkleNode (i / 2) y ss, p ∈ allPairs) :
  ∀ p ∈ climbPairs merkleNode i x (s :: ss), p ∈ allPairs
  := by
  intro p hp
  rw [climbPairs, hnode, List.mem_cons] at hp
  obtain rfl | hp := hp
  · apply hmem
  · apply hss p hp

/-- The pairs on the way up from the leaf of the first note. -/
theorem climbPairs_first :
  ∀ p ∈ climbPairs merkleNode 0 (pathNodes.getD 0 0)
      (twinNodes.getD 0 0 :: (List.range' 1 31).map fun k => zeroHashes.getD k 0),
    p ∈ allPairs
  := climbPairs_cons twinNodes_parent (mem_twin List.mem_cons_self) climbPairs_twin

/-- The pairs on the way up from the leaf of the second note. -/
theorem climbPairs_second :
  ∀ p ∈ climbPairs merkleNode 1 (twinNodes.getD 0 0)
      (pathNodes.getD 0 0 :: (List.range' 1 31).map fun k => zeroHashes.getD k 0),
    p ∈ allPairs
  := climbPairs_cons twinNodes_parent (mem_twin List.mem_cons_self) climbPairs_twin

/-- The pairs on the way up from the place of the second note before it was deposited. -/
theorem climbPairs_empty :
  ∀ p ∈ climbPairs merkleNode 1 0
      (pathNodes.getD 0 0 :: (List.range' 1 31).map fun k => zeroHashes.getD k 0),
    p ∈ allPairs
  := climbPairs_cons (OwnershipExample.pathNodes_step 0 (by norm_num)) (mem_path (by norm_num))
    (climbPairs_from_one (fun k _ => OwnershipExample.pathNodes_step k) fun k _ => mem_path)

theorem siblingPath_ledger :
  siblingPath twinLedger 1 = siblingPath ledger 1
  := by
  apply siblingPath_congr
  intro m hm
  apply Function.update_of_ne hm

/-- The pairs of the second deposit. -/
def twinDepositPairs : List (Fr × Fr) :=
  updatePairs 1 0 (NoteLeafLib.computeLeaf 1 commitment 10 1700092800) (siblingPath ledger 1)

theorem hashedPairs_eq :
  hashedPairs vault history
    = emptyPairs ++ (ChallengeExample.depositPairs ++ (twinDepositPairs
      ++ updatePairs 1 (NoteLeafLib.computeLeaf 1 commitment 10 1700092800) 0
        (siblingPath ledger 1)))
  := by
  have hdeposit : (ChallengeExample.deposit.update vault .initial).map Update.pairs
      = some ChallengeExample.depositPairs := rfl
  have htwin : (twinDeposit.update vault ledger).map Update.pairs = some twinDepositPairs := rfl
  have hescape : (escape.update vault twinLedger).map Update.pairs
      = some (updatePairs 1 (NoteLeafLib.computeLeaf 1 commitment 10 1700092800) 0
        (siblingPath twinLedger 1)) := rfl
  have hledger : ChallengeExample.deposit.ledger .initial = ledger := rfl
  have htwinLedger : twinDeposit.ledger ledger = twinLedger := rfl
  rw [hashedPairs, history, runPairs, runPairs, runPairs, runPairs, hledger, htwinLedger,
    hdeposit, htwin, hescape, Option.getD_some, Option.getD_some, Option.getD_some,
    List.append_nil, siblingPath_ledger]

/-- The pairs of the second deposit are known. -/
theorem mem_twinDepositPairs :
  ∀ p ∈ twinDepositPairs, p ∈ allPairs
  := by
  have hleaf : residue (NoteLeafLib.computeLeaf 1 commitment 10 1700092800)
      = twinNodes.getD 0 0 := by
    rw [← witness_leaf, ← leaf_witness, ← leaf_note, leaf, ChallengeExample.note]
  intro p hp
  rw [twinDepositPairs, updatePairs, ← siblingPath_ledger, residue_siblingPath_one, hleaf,
    residue_zero, List.mem_append] at hp
  obtain hp | hp := hp
  · apply climbPairs_empty p hp
  · apply climbPairs_second p hp

/-- The pairs of the constructor and of the first deposit are known. -/
theorem mem_depositPairs :
  ∀ p ∈ emptyPairs ++ ChallengeExample.depositPairs, p ∈ allPairs
  := by
  intro p hp
  have hsame : hashedPairs OwnershipExample.vault [OwnershipExample.deposit]
      = emptyPairs ++ (ChallengeExample.depositPairs ++ []) := rfl
  rw [List.append_nil] at hsame
  rw [← hsame] at hp
  obtain ⟨k, hk, rfl | rfl⟩ := OwnershipExample.hashed (List.mem_append_left _ hp)
  · apply mem_zero hk
  · apply mem_path hk

/-- The pairs that the vault and the two circuits have hashed are known. -/
theorem mem_allPairs :
  ∀ p ∈ hashedPairs vault history
      ++ (requestPairs (requestWires twinLedger 0) ++ pathPairs (witness.wires typed)),
    p ∈ allPairs
  := by
  have hrequest : requestPairs (requestWires twinLedger 0)
      = climbPairs merkleNode 0 (OwnershipExample.witness.leaf 0)
        (List.ofFn fun level => residue (siblingPath twinLedger 0 level)) := rfl
  have hwithdrawal : pathPairs (witness.wires typed)
      = climbPairs merkleNode 1 (witness.leaf 1)
        (List.ofFn fun level => residue (siblingPath twinLedger 1 level)) := rfl
  intro p hp
  rw [hashedPairs_eq, hrequest, hwithdrawal, residue_siblingPath_zero, residue_siblingPath_one,
    witness_leaf, OwnershipExample.witness_leaf] at hp
  simp only [List.mem_append] at hp
  obtain (hp | hp | hp | hp) | hp | hp := hp
  · apply mem_depositPairs p (List.mem_append_left _ hp)
  · apply mem_depositPairs p (List.mem_append_right _ hp)
  · apply mem_twinDepositPairs p hp
  · apply mem_twinDepositPairs p (mem_updatePairs_comm hp)
  · apply climbPairs_first p hp
  · apply climbPairs_second p hp

theorem leaf_ne_zero :
  (requestWires twinLedger 0).leaf ≠ 0
  := by
  have hleaf : (requestWires twinLedger 0).leaf = OwnershipExample.witness.leaf 0 := rfl
  rw [hleaf, OwnershipExample.witness_leaf]
  decide +kernel

/-- What is hashed to the leaf of a note of ten units with the secret one. -/
def preimage (n : U32) : List Fr :=
  leafPreimage n (registrationCommitment 1) 10 1700092800

theorem preimage_zero_or_one {x : List Fr}
    (hx : x = leafPreimage (requestWires twinLedger 0).noteId
        (registrationCommitment (requestWires twinLedger 0).secret)
        (requestWires twinLedger 0).depositAmount (requestWires twinLedger 0).expiry
      ∨ x = leafPreimage (witness.wires typed).noteId
        (registrationCommitment (witness.wires typed).secret)
        (witness.wires typed).depositAmount (witness.wires typed).expiry
      ∨ ∃ n, pendingLedger.Allocated n ∧ x = recordPreimage pendingLedger n) :
  x = preimage 0 ∨ x = preimage 1
  := by
  have hcommitment : residue commitment = registrationCommitment 1 := residue_word _
  obtain rfl | rfl | ⟨n, hn, rfl⟩ := hx
  · left
    rfl
  · right
    rfl
  · have hn : n.toNat < 2 := hn
    have hn : n = 0 ∨ n = 1 := by
      obtain hn | hn : n.toNat = 0 ∨ n.toNat = 1 := by omega
      · left
        apply BitVec.eq_of_toNat_eq hn
      · right
        apply BitVec.eq_of_toNat_eq hn
    rw [preimage, preimage, ← hcommitment]
    obtain rfl | rfl := hn
    · left
      rfl
    · right
      rfl

theorem preimage_ne :
  poseidonHash (preimage 0) ≠ poseidonHash (preimage 1)
  := by
  have hzero : OwnershipExample.witness.leaf 0 = poseidonHash (preimage 0) := leafVar_eq _ _ _ _
  have hone : witness.leaf 1 = poseidonHash (preimage 1) := leafVar_eq _ _ _ _
  rw [← hzero, ← hone, OwnershipExample.witness_leaf, witness_leaf]
  decide +kernel

theorem noCollision :
  EvidenceNoCollision vault history pendingLedger (requestWires twinLedger 0)
    (witness.wires typed)
  := by
  constructor
  case nodes => apply collisionFree.mono mem_allPairs
  case leaves =>
    intro x hx y hy h
    obtain rfl | rfl := preimage_zero_or_one hx <;> obtain rfl | rfl := preimage_zero_or_one hy
    · rfl
    · cases preimage_ne h
    · cases preimage_ne h.symm
    · rfl
  case notEmpty => apply leaf_ne_zero
  case nullifiers =>
    have hsame : nullifierPreimage (requestWires twinLedger 0).secret
          (requestWires twinLedger 0).anchor
        = nullifierPreimage (witness.wires typed).secret (witness.wires typed).anchor := rfl
    rw [hsame, Set.pair_eq_singleton]
    apply Set.injOn_singleton

theorem escape_inputs (e : LastEscape vault history 1) :
  e.inputs = inputs
  := by
  obtain ⟨_, _, _, _, _, _, _, _, heq, _, _, _⟩ := e
  obtain ⟨k, hk, -, hget⟩ := exists_take heq
  obtain _ | _ | _ | k := k
  · cases hget
  · cases hget
  · cases hget
    rfl
  · cases hget

/-- The challenge of the escape of the second note with a request for the first. -/
theorem challenge_evidence_duplicate :
  Reachable vault history pendingWorld
    ∧ vault.proofAdapter.RequestSound
    ∧ vault.proofAdapter.WithdrawalSound
    ∧ (∃ r, execute vault block pendingWorld
      (.challengeEscapeWithdrawal 1 request [] (siblingPath pendingLedger 1)) = .ok r)
    ∧ ¬ EvidenceBelongs vault history pendingWorld.ledger 1 request
  := by
  refine ⟨reachable, requestSound, withdrawalSound, challenge_ok, ?_⟩
  rintro ⟨e, _, _, hall⟩
  rw [escape_inputs e] at hall
  have hnote := (hall _ _ request_constraints constraints noCollision).1
  have hne : (requestWires twinLedger 0).noteId ≠ 1 := by decide
  apply hne hnote

end DuplicateExample

end ZkApi.Vault
