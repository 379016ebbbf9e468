import Mathlib.Data.Nat.Digits.Defs
import ZkApi.Cairo.Pedersen

/-!
# The programs in Cairo

The statements of the first version of the protocol are proved by running a program: for a request,
and for a withdrawal.  A program panics on a witness that is wrong, and returns the public inputs of
the statement otherwise.  `RequestValid` and `WithdrawalValid` say for which witnesses it returns
them, in terms of the group of the curve and of the signatures that are verified in Rust.
-/

namespace ZkApi.Cairo

open Stark (Felt CurvePoint feltToField fieldToFelt coordinates balancePoint blindPoint commitment)
open SparseMerkle (climb)

/-! ### Constants -/

def PROTOCOL_VERSION : Felt := 1

def MERKLE_DEPTH : ℕ := 32

def GENESIS_ANCHOR : Felt := 1

def STATEMENT_TYPE_REQUEST : Felt := 1

def STATEMENT_TYPE_WITHDRAWAL : Felt := 2

def DOMAIN_REG : Felt := 0x7a6b6170692e726567

def DOMAIN_LEAF : Felt := 0x7a6b6170692e6c656166

def DOMAIN_NODE : Felt := 0x7a6b6170692e6e6f6465

def DOMAIN_NULL : Felt := 0x7a6b6170692e6e756c6c

def DOMAIN_STATE : Felt := 0x7a6b6170692e7374617465

def DOMAIN_CLEAR : Felt := 0x7a6b6170692e636c656172

/-! ### Arguments -/

/-- The arguments that name the deployment and the tree. -/
structure ContextArgs where
  protocolVersion : Felt
  chainId : Felt
  contractAddress : Felt
  activeRoot : Felt

/-- The arguments that open a note of the tree. -/
structure NoteArgs where
  secretS : Felt
  noteId : Felt
  depositAmount : Felt
  expiryTs : Felt
  merkleIndexBits : List Felt
  merkleSiblings : List Felt

/-- The arguments of a signature. -/
structure SignatureArgs where
  sigRoot : Felt
  sigEpoch : U32
  sigLeafIndex : U32
  wotsSig : List Felt
  authPath : List Felt

/-- The arguments that open a state of the note. -/
structure StateArgs where
  balance : Felt
  blinding : Felt
  anchor : Felt
  isGenesis : Felt
  stateSig : SignatureArgs

/-- The arguments of `run_request_program`. -/
structure RequestArgs where
  context : ContextArgs
  solvencyBound : Felt
  note : NoteArgs
  current : StateArgs
  userRerandomization : Felt

/-- The arguments of `run_withdrawal_program`. -/
structure WithdrawalArgs where
  context : ContextArgs
  destination : Felt
  note : NoteArgs
  final : StateArgs
  hasClearance : Felt
  clearSig : SignatureArgs

section

variable (poseidonHashSpan : List Felt → Felt)

/-! ### Merkle paths -/

/-- `node_hash`. -/
def nodeHash (left right : Felt) : Felt :=
  poseidonHashSpan [DOMAIN_NODE, left, right]

/-- The body of the loop of `verify_merkle_path`. -/
def merkleStep (indexBits siblings : List Felt) (i : U32) (current : Felt) :
    Except String Felt := do
  let bit ← elementAt indexBits i
  assert (bit = 0 ∨ bit = 1) "invalid index bit"
  let sibling ← elementAt siblings i
  return if bit = 0 then nodeHash poseidonHashSpan current sibling
    else nodeHash poseidonHashSpan sibling current

/-- `verify_merkle_path`. -/
def verifyMerklePath (root leaf : Felt) (indexBits siblings : List Felt) : Except String Unit := do
  assert (indexBits.length = MERKLE_DEPTH) "invalid index bits len"
  assert (siblings.length = MERKLE_DEPTH) "invalid siblings len"
  let current ← whileBelow MERKLE_DEPTH (merkleStep poseidonHashSpan indexBits siblings) leaf
  assert (current = root) "merkle proof invalid"

/-! ### The steps of both programs -/

/-- The registration commitment. -/
def registrationCommitment (secretS : Felt) : Felt :=
  poseidonHashSpan [DOMAIN_REG, secretS, 0]

/-- The leaf of a note. -/
def noteLeaf (note : NoteArgs) : Felt :=
  poseidonHashSpan [DOMAIN_LEAF, note.noteId, registrationCommitment poseidonHashSpan note.secretS,
    note.depositAmount, note.expiryTs]

/-- The nullifier of a state. -/
def nullifierOf (secretS anchor : Felt) : Felt :=
  poseidonHashSpan [DOMAIN_NULL, secretS, anchor]

/-- The message that a state is signed with. -/
def stateMessage (context : ContextArgs) (x y anchor : Felt) : Felt :=
  poseidonHashSpan [DOMAIN_STATE, context.protocolVersion, context.chainId, context.contractAddress,
    x, y, anchor]

/-- The message that a clearance is signed with. -/
def clearanceMessage (context : ContextArgs) (nullifier : Felt) : Felt :=
  poseidonHashSpan [DOMAIN_CLEAR, context.protocolVersion, context.chainId, context.contractAddress,
    nullifier]

/-- The steps up to the check of the note. -/
def verifyNote (context : ContextArgs) (note : NoteArgs) : Except String Unit := do
  assert (context.protocolVersion = PROTOCOL_VERSION) "bad protocol version"
  assert (note.secretS ≠ 0) "secret_s must be nonzero"
  verifyMerklePath poseidonHashSpan context.activeRoot (noteLeaf poseidonHashSpan note)
    note.merkleIndexBits note.merkleSiblings

/-- The assertions about a state that no request has changed. -/
def assertGenesis (note : NoteArgs) (state : StateArgs) : Except String Unit := do
  assert (state.anchor = GENESIS_ANCHOR) "genesis anchor must be 1"
  assert (state.balance = note.depositAmount) "genesis balance != deposit"
  assert (state.stateSig.sigEpoch = 0) "genesis epoch must be 0"
  assert (state.stateSig.sigRoot = 0) "genesis sig root must be 0"

/-- The check of a state that is signed, which returns its commitment. -/
def verifyState (context : ContextArgs) (state : StateArgs) : Except String (Felt × Felt) := do
  let (eX, eY) ← computeCommitment state.balance state.blinding
  assert (state.stateSig.sigEpoch ≠ 0) "non-genesis epoch must be > 0"
  assert (state.stateSig.sigRoot ≠ 0) "non-genesis sig root != 0"
  let mState := stateMessage poseidonHashSpan context eX eY state.anchor
  verifyXmss poseidonHashSpan state.stateSig.sigRoot mState state.stateSig.sigLeafIndex
    state.stateSig.wotsSig state.stateSig.authPath
  return (eX, eY)

/-! ### Requests -/

/-- The anonymous commitment of `run_request_program`. -/
def anonCommitment (args : RequestArgs) : Except String (Felt × Felt) :=
  if args.current.isGenesis = 1 then do
    assertGenesis args.note args.current
    let anonBlinding ← addBlinding args.current.blinding args.userRerandomization
    computeCommitment args.current.balance anonBlinding
  else do
    let (eX, eY) ← verifyState poseidonHashSpan args.context args.current
    rerandomizeCommitment eX eY args.userRerandomization

/-- What `run_request_program` returns for an anonymous commitment. -/
def requestOutputs (args : RequestArgs) (anonX anonY : Felt) : List Felt :=
  [STATEMENT_TYPE_REQUEST, args.context.protocolVersion, args.context.chainId,
    args.context.contractAddress, args.context.activeRoot, u32ToFelt args.current.stateSig.sigEpoch,
    args.current.stateSig.sigRoot,
    nullifierOf poseidonHashSpan args.note.secretS args.current.anchor, anonX, anonY,
    args.note.expiryTs, args.solvencyBound]

/-- `run_request_program`. -/
def runRequestProgram (args : RequestArgs) : Except String (List Felt) := do
  verifyNote poseidonHashSpan args.context args.note
  assert (args.current.isGenesis = 0 ∨ args.current.isGenesis = 1) "is_genesis must be bool"
  let (anonX, anonY) ← anonCommitment poseidonHashSpan args
  let balanceU128 ← feltToU128 args.current.balance "balance not u128"
  let boundU128 ← feltToU128 args.solvencyBound "solvency_bound not u128"
  assert (boundU128 ≤ balanceU128) "balance < solvency bound"
  return requestOutputs poseidonHashSpan args anonX anonY

/-! ### Withdrawals -/

/-- The check of a clearance. -/
def verifyClearance (args : WithdrawalArgs) (withdrawalNullifier : Felt) : Except String Unit :=
  if args.hasClearance = 1 then do
    assert (args.clearSig.sigEpoch ≠ 0) "clearance epoch must be > 0"
    assert (args.clearSig.sigRoot ≠ 0) "clearance sig root != 0"
    let mClear := clearanceMessage poseidonHashSpan args.context withdrawalNullifier
    verifyXmss poseidonHashSpan args.clearSig.sigRoot mClear args.clearSig.sigLeafIndex
      args.clearSig.wotsSig args.clearSig.authPath
  else do
    assert (args.clearSig.sigEpoch = 0) "no-clear epoch must be 0"
    assert (args.clearSig.sigRoot = 0) "no-clear sig root must be 0"

/-- The check of the state of `run_withdrawal_program`. -/
def verifyFinalState (args : WithdrawalArgs) : Except String Unit :=
  if args.final.isGenesis = 1 then
    assertGenesis args.note args.final
  else do
    let _ ← verifyState poseidonHashSpan args.context args.final
    return ()

/-- What `run_withdrawal_program` returns. -/
def withdrawalOutputs (args : WithdrawalArgs) : List Felt :=
  [STATEMENT_TYPE_WITHDRAWAL, args.context.protocolVersion, args.context.chainId,
    args.context.contractAddress, args.context.activeRoot, args.note.noteId, args.final.balance,
    args.destination, nullifierOf poseidonHashSpan args.note.secretS args.final.anchor,
    args.final.isGenesis, args.hasClearance, u32ToFelt args.final.stateSig.sigEpoch,
    args.final.stateSig.sigRoot, u32ToFelt args.clearSig.sigEpoch, args.clearSig.sigRoot]

/-- `run_withdrawal_program`. -/
def runWithdrawalProgram (args : WithdrawalArgs) : Except String (List Felt) := do
  verifyNote poseidonHashSpan args.context args.note
  assert (args.final.isGenesis = 0 ∨ args.final.isGenesis = 1) "is_genesis must be bool"
  verifyFinalState poseidonHashSpan args
  let withdrawalNullifier := nullifierOf poseidonHashSpan args.note.secretS args.final.anchor
  let finalU128 ← feltToU128 args.final.balance "final_balance not u128"
  let depositU128 ← feltToU128 args.note.depositAmount "deposit_amount not u128"
  assert (finalU128 ≤ depositU128) "final > deposit"
  assert (args.hasClearance = 0 ∨ args.hasClearance = 1) "has_clearance must be bool"
  verifyClearance poseidonHashSpan args withdrawalNullifier
  return withdrawalOutputs poseidonHashSpan args

/-! ### Statements -/

/-- The number that index bits are the digits of, lowest first. -/
def indexOf (indexBits : List Felt) : ℕ :=
  Nat.ofDigits 2 (indexBits.map Fin.val)

/-- The note is in the tree, at the index that its bits tell. -/
structure NoteValid (context : ContextArgs) (note : NoteArgs) : Prop where
  protocolVersion : context.protocolVersion = PROTOCOL_VERSION
  secretS_ne : note.secretS ≠ 0
  length_indexBits : note.merkleIndexBits.length = MERKLE_DEPTH
  length_siblings : note.merkleSiblings.length = MERKLE_DEPTH
  indexBits : ∀ bit ∈ note.merkleIndexBits, bit = 0 ∨ bit = 1
  root : climb (nodeHash poseidonHashSpan) (indexOf note.merkleIndexBits)
    (noteLeaf poseidonHashSpan note) note.merkleSiblings = context.activeRoot

/-- The signature is that of a message, under a root that is told. -/
structure SignatureValid (message : Felt) (sig : SignatureArgs) : Prop where
  sigEpoch_ne : sig.sigEpoch ≠ 0
  sigRoot_ne : sig.sigRoot ≠ 0
  length_pos : 0 < sig.authPath.length
  length_le : sig.authPath.length ≤ 20
  verified : Stark.XmssVerifier.verifyForHeight poseidonHashSpan (fieldToFelt sig.sigRoot)
    (fieldToFelt message) (signatureOf sig.sigEpoch sig.sigLeafIndex sig.wotsSig sig.authPath)
    sig.authPath.length = true

/-- The state is that of the deposit, or its commitment is signed. -/
inductive StateValid (context : ContextArgs) (note : NoteArgs) (state : StateArgs) : Prop
  | genesis (isGenesis : state.isGenesis = 1) (anchor : state.anchor = GENESIS_ANCHOR)
      (balance : state.balance = note.depositAmount) (sigEpoch : state.stateSig.sigEpoch = 0)
      (sigRoot : state.stateSig.sigRoot = 0) : StateValid context note state
  | signed (x y : Felt) (isGenesis : state.isGenesis = 0) (balance : state.balance.val < 2 ^ 128)
      (opens : coordinates (commitment state.balance.val state.blinding.val) = some (x, y))
      (signature : SignatureValid poseidonHashSpan
        (stateMessage poseidonHashSpan context x y state.anchor) state.stateSig) :
      StateValid context note state

/-- What a request program is run on, and the anonymous commitment. -/
structure RequestValid (args : RequestArgs) (anonX anonY : Felt) : Prop where
  note : NoteValid poseidonHashSpan args.context args.note
  state : StateValid poseidonHashSpan args.context args.note args.current
  balance : args.current.balance.val < 2 ^ 128
  solvent : args.solvencyBound ≤ args.current.balance
  /-- Blindings are added before the first commitment, not points. -/
  blindings : args.current.isGenesis = 1 →
    args.current.blinding.val + args.userRerandomization.val < Stark.curveOrder + Stark.fieldPrime
  anonymous : coordinates (commitment args.current.balance.val args.current.blinding.val
    + args.userRerandomization.val • blindPoint) = some (anonX, anonY)

/-- A clearance is there and signed, or it is not there. -/
inductive ClearanceValid (args : WithdrawalArgs) : Prop
  | cleared (hasClearance : args.hasClearance = 1)
      (signature : SignatureValid poseidonHashSpan (clearanceMessage poseidonHashSpan args.context
        (nullifierOf poseidonHashSpan args.note.secretS args.final.anchor)) args.clearSig) :
      ClearanceValid args
  | absent (hasClearance : args.hasClearance = 0) (sigEpoch : args.clearSig.sigEpoch = 0)
      (sigRoot : args.clearSig.sigRoot = 0) : ClearanceValid args

/-- What a withdrawal program is run on. -/
structure WithdrawalValid (args : WithdrawalArgs) : Prop where
  note : NoteValid poseidonHashSpan args.context args.note
  state : StateValid poseidonHashSpan args.context args.note args.final
  deposit : args.note.depositAmount.val < 2 ^ 128
  covered : args.final.balance ≤ args.note.depositAmount
  clearance : ClearanceValid poseidonHashSpan args

end

/-! ### Running the programs -/

section

variable {poseidonHashSpan : List Felt → Felt}

/-- A loop that ends went through every round. -/
theorem of_whileBelow_eq_ok {σ : Type} {n : ℕ} {body : U32 → σ → Except String σ}
    {state state' : σ} {P : ℕ → Prop}
    (hbody : ∀ i < n, ∀ s s', body (BitVec.ofNat 32 i) s = .ok s' → P i)
    (h : whileBelow n body state = .ok state') :
  ∀ i < n, P i
  := by
  rw [whileBelow] at h
  induction n generalizing state' with
  | zero => exact fun i hi => absurd hi i.not_lt_zero
  | succ n ih =>
    rw [List.range_succ, List.foldlM_append, bind_eq_ok] at h
    obtain ⟨before, hbefore, hlast⟩ := h
    rw [List.foldlM_cons, bind_eq_ok] at hlast
    obtain ⟨after, hafter, -⟩ := hlast
    intro i hi
    obtain hi | rfl := Nat.lt_succ_iff_lt_or_eq.mp hi
    · exact ih (fun i hi => hbody i (hi.trans n.lt_succ_self)) hbefore i hi
    · exact hbody i i.lt_succ_self before after hafter

/-- The bit of an index at a place. -/
theorem indexOf_div_mod {indexBits : List Felt} (hbits : ∀ bit ∈ indexBits, bit = 0 ∨ bit = 1)
    {i : ℕ} (hi : i < indexBits.length) :
  indexOf indexBits / 2 ^ i % 2 = 0 ↔ indexBits[i] = 0
  := by
  have hlt : ∀ digit ∈ indexBits.map Fin.val, digit < 2 := by
    intro digit hdigit
    obtain ⟨bit, hbit, rfl⟩ := List.mem_map.mp hdigit
    obtain rfl | rfl := hbits bit hbit <;> decide
  have hmap : i < (indexBits.map Fin.val).length := by
    rw [List.length_map]
    exact hi
  rw [indexOf, Nat.ofDigits_div_pow_eq_ofDigits_drop i two_pos _ hlt, List.drop_eq_getElem_cons hmap,
    Nat.ofDigits_cons, Nat.add_mul_mod_self_left, List.getElem_map]
  obtain hbit | hbit := hbits _ (List.getElem_mem hi)
  · rw [hbit]
    decide
  · rw [hbit]
    decide

/-- A round of the loop climbs one level of the tree. -/
theorem merkleStep_eq {indexBits siblings : List Felt} (leaf : Felt)
    (hbits : ∀ bit ∈ indexBits, bit = 0 ∨ bit = 1) {i : ℕ} (hi : i < indexBits.length)
    (hi' : i < siblings.length) (hword : i < 2 ^ 32) :
  merkleStep poseidonHashSpan indexBits siblings (BitVec.ofNat 32 i)
      (climb (nodeHash poseidonHashSpan) (indexOf indexBits) leaf (siblings.take i))
    = .ok (climb (nodeHash poseidonHashSpan) (indexOf indexBits) leaf (siblings.take (i + 1)))
  := by
  have hbit := hbits _ (List.getElem_mem hi)
  have hassert : assert (indexBits[i] = 0 ∨ indexBits[i] = 1) "invalid index bit" = .ok () :=
    assert_eq_ok.mpr (decide_eq_true hbit)
  have hlen : (siblings.take i).length = i := by
    rw [List.length_take]
    omega
  rw [merkleStep, elementAt_ofNat hi hword, ok_bind, hassert, ok_bind, elementAt_ofNat hi' hword,
    ok_bind, ← List.take_append_getElem hi', SparseMerkle.climb_append, hlen, climb, climb,
    SparseMerkle.ordered]
  simp only [indexOf_div_mod hbits hi]
  split
  · rfl
  · rfl

/-- A Merkle path is verified exactly when it is one of bits that leads to the root. -/
theorem verifyMerklePath_eq_ok {root leaf : Felt} {indexBits siblings : List Felt} :
  verifyMerklePath poseidonHashSpan root leaf indexBits siblings = .ok ()
    ↔ indexBits.length = MERKLE_DEPTH ∧ siblings.length = MERKLE_DEPTH
      ∧ (∀ bit ∈ indexBits, bit = 0 ∨ bit = 1)
      ∧ climb (nodeHash poseidonHashSpan) (indexOf indexBits) leaf siblings = root
  := by
  rw [verifyMerklePath, assert_bind, assert_bind, decide_eq_true_iff, decide_eq_true_iff]
  apply and_congr_right
  intro hbitsLength
  apply and_congr_right
  intro hlength
  have hdepth : MERKLE_DEPTH < 2 ^ 32 := by decide
  by_cases hbits : ∀ bit ∈ indexBits, bit = 0 ∨ bit = 1
  · have hloop := @whileBelow_eq_ok _ MERKLE_DEPTH (merkleStep poseidonHashSpan indexBits siblings)
      (fun i => climb (nodeHash poseidonHashSpan) (indexOf indexBits) leaf (siblings.take i))
      fun i hi => merkleStep_eq leaf hbits (hbitsLength ▸ hi) (hlength ▸ hi) (hi.trans hdepth)
    rw [← hlength, List.take_length, hlength] at hloop
    rw [List.take_zero, climb] at hloop
    rw [hloop, ok_bind, assert_eq_ok, decide_eq_true_iff, and_iff_right hbits]
  · constructor
    · intro h
      obtain ⟨current, hloop, -⟩ := bind_eq_ok.mp h
      have hall : ∀ i < MERKLE_DEPTH, ∀ hi : i < indexBits.length,
          indexBits[i] = 0 ∨ indexBits[i] = 1 := by
        intro i hi
        apply of_whileBelow_eq_ok _ hloop i hi
        intro i hi s s' hstep hi'
        rw [merkleStep, elementAt_ofNat hi' (hi.trans hdepth), ok_bind, assert_bind,
          decide_eq_true_iff] at hstep
        exact hstep.1
      apply absurd _ hbits
      intro bit hbit
      obtain ⟨i, hi, rfl⟩ := List.getElem_of_mem hbit
      exact hall i (hbitsLength ▸ hi) hi
    · rintro ⟨h, -⟩
      exact absurd h hbits

theorem verifyNote_eq_ok {context : ContextArgs} {note : NoteArgs} :
  verifyNote poseidonHashSpan context note = .ok () ↔ NoteValid poseidonHashSpan context note
  := by
  rw [verifyNote, assert_bind, assert_bind, decide_eq_true_iff, decide_eq_true_iff,
    verifyMerklePath_eq_ok]
  constructor
  · rintro ⟨hversion, hsecret, hbitsLength, hlength, hbits, hroot⟩
    exact ⟨hversion, hsecret, hbitsLength, hlength, hbits, hroot⟩
  · rintro ⟨hversion, hsecret, hbitsLength, hlength, hbits, hroot⟩
    exact ⟨hversion, hsecret, hbitsLength, hlength, hbits, hroot⟩

theorem assertGenesis_eq_ok {note : NoteArgs} {state : StateArgs} :
  assertGenesis note state = .ok ()
    ↔ state.anchor = GENESIS_ANCHOR ∧ state.balance = note.depositAmount
      ∧ state.stateSig.sigEpoch = 0 ∧ state.stateSig.sigRoot = 0
  := by
  rw [assertGenesis, assert_bind, assert_bind, assert_bind, assert_eq_ok, decide_eq_true_iff,
    decide_eq_true_iff, decide_eq_true_iff, decide_eq_true_iff]

/-- A signature is checked after its epoch and its root. -/
theorem signatureValid_iff {message : Felt} {sig : SignatureArgs} :
  SignatureValid poseidonHashSpan message sig
    ↔ sig.sigEpoch ≠ 0 ∧ sig.sigRoot ≠ 0
      ∧ verifyXmss poseidonHashSpan sig.sigRoot message sig.sigLeafIndex sig.wotsSig sig.authPath
        = .ok ()
  := by
  rw [verifyXmss_eq_ok sig.sigEpoch]
  constructor
  · rintro ⟨hepoch, hroot, hpos, hle, hverified⟩
    exact ⟨hepoch, hroot, hpos, hle, hverified⟩
  · rintro ⟨hepoch, hroot, hpos, hle, hverified⟩
    exact ⟨hepoch, hroot, hpos, hle, hverified⟩

theorem verifyState_eq_ok {context : ContextArgs} {state : StateArgs} {x y : Felt} :
  verifyState poseidonHashSpan context state = .ok (x, y)
    ↔ state.balance.val < 2 ^ 128
      ∧ coordinates (commitment state.balance.val state.blinding.val) = some (x, y)
      ∧ SignatureValid poseidonHashSpan (stateMessage poseidonHashSpan context x y state.anchor)
        state.stateSig
  := by
  rw [verifyState, bind_eq_ok, signatureValid_iff]
  constructor
  · rintro ⟨⟨eX, eY⟩, hcommitment, h⟩
    dsimp only at h
    rw [assert_bind, assert_bind, decide_eq_true_iff, decide_eq_true_iff, bind_eq_ok] at h
    obtain ⟨hepoch, hroot, ⟨⟩, hverified, hreturned⟩ := h
    cases hreturned
    obtain ⟨hlt, hopens⟩ := computeCommitment_eq_ok.mp hcommitment
    exact ⟨hlt, hopens, hepoch, hroot, hverified⟩
  · rintro ⟨hlt, hopens, hepoch, hroot, hverified⟩
    refine ⟨(x, y), computeCommitment_eq_ok.mpr ⟨hlt, hopens⟩, ?_⟩
    dsimp only
    rw [assert_bind, assert_bind, decide_eq_true_iff, decide_eq_true_iff, hverified]
    exact ⟨hepoch, hroot, rfl⟩

theorem isGenesis_ne :
  (0 : Felt) ≠ 1
  := by decide

/-- The anonymous commitment is that to the balance with both blindings, whichever way it is
calculated. -/
theorem anonCommitment_eq_ok {args : RequestArgs} {anonX anonY : Felt}
    (hgenesis : args.current.isGenesis = 0 ∨ args.current.isGenesis = 1) :
  anonCommitment poseidonHashSpan args = .ok (anonX, anonY)
    ↔ StateValid poseidonHashSpan args.context args.note args.current
      ∧ args.current.balance.val < 2 ^ 128
      ∧ (args.current.isGenesis = 1 → args.current.blinding.val + args.userRerandomization.val
        < Stark.curveOrder + Stark.fieldPrime)
      ∧ coordinates (commitment args.current.balance.val args.current.blinding.val
        + args.userRerandomization.val • blindPoint) = some (anonX, anonY)
  := by
  rw [anonCommitment]
  obtain hzero | hone := hgenesis
  · have hne : args.current.isGenesis ≠ 1 := by
      rw [hzero]
      exact isGenesis_ne
    rw [if_neg hne, bind_eq_ok]
    constructor
    · rintro ⟨⟨eX, eY⟩, hstate, hanon⟩
      obtain ⟨hlt, hopens, hsignature⟩ := verifyState_eq_ok.mp hstate
      exact ⟨.signed eX eY hzero hlt hopens hsignature, hlt, fun h => absurd h hne,
        (rerandomizeCommitment_eq_ok hopens).mp hanon⟩
    · rintro ⟨hstate, -, -, hanon⟩
      cases hstate with
      | genesis hone => exact absurd hone hne
      | signed x y _ hlt hopens hsignature =>
        exact ⟨(x, y), verifyState_eq_ok.mpr ⟨hlt, hopens, hsignature⟩,
          (rerandomizeCommitment_eq_ok hopens).mpr hanon⟩
  · rw [if_pos hone, bind_eq_ok]
    constructor
    · rintro ⟨⟨⟩, hasserted, hcommitted⟩
      obtain ⟨hanchor, hbalance, hepoch, hroot⟩ := assertGenesis_eq_ok.mp hasserted
      obtain ⟨anonBlinding, hadded, hcommitted⟩ := bind_eq_ok.mp hcommitted
      obtain ⟨hlt, hanon⟩ := computeCommitment_eq_ok.mp hcommitted
      rw [commitment_of_addBlinding hadded] at hanon
      exact ⟨.genesis hone hanchor hbalance hepoch hroot, hlt,
        fun _ => exists_addBlinding.mp ⟨anonBlinding, hadded⟩, hanon⟩
    · rintro ⟨hstate, hlt, hblindings, hanon⟩
      cases hstate with
      | signed x y hzero =>
        rw [hzero] at hone
        exact absurd hone isGenesis_ne
      | genesis _ hanchor hbalance hepoch hroot =>
        obtain ⟨anonBlinding, hadded⟩ := exists_addBlinding.mpr (hblindings hone)
        rw [← commitment_of_addBlinding hadded] at hanon
        refine ⟨(), assertGenesis_eq_ok.mpr ⟨hanchor, hbalance, hepoch, hroot⟩, ?_⟩
        exact bind_eq_ok.mpr ⟨anonBlinding, hadded, computeCommitment_eq_ok.mpr ⟨hlt, hanon⟩⟩

theorem StateValid.isGenesis {context : ContextArgs} {note : NoteArgs} {state : StateArgs}
    (h : StateValid poseidonHashSpan context note state) :
  state.isGenesis = 0 ∨ state.isGenesis = 1
  := by
  cases h with
  | genesis hone => exact .inr hone
  | signed _ _ hzero => exact .inl hzero

theorem feltToU128_eq_ok {a : Felt} {message : String} {u : U128} :
  feltToU128 a message = .ok u ↔ u.toNat = a.val
  := by
  rw [feltToU128]
  split
  case isTrue hlt =>
    rw [Except.ok.injEq, ← BitVec.toNat_inj, BitVec.toNat_ofNat, Nat.mod_eq_of_lt hlt, eq_comm]
  case isFalse hle =>
    constructor
    · rintro ⟨⟩
    · intro hu
      exact absurd (hu ▸ u.isLt) hle

theorem exists_feltToU128 {a : Felt} {message : String} (h : a.val < 2 ^ 128) :
  ∃ u, feltToU128 a message = .ok u
  := by
  use BitVec.ofNat 128 a.val
  rw [feltToU128_eq_ok, BitVec.toNat_ofNat, Nat.mod_eq_of_lt h]

/-- Amounts are compared as the elements of the field that they are converted from. -/
theorem le_of_feltToU128 {a b : Felt} {message message' : String} {u v : U128}
    (hu : feltToU128 a message = .ok u) (hv : feltToU128 b message' = .ok v) :
  u ≤ v ↔ a ≤ b
  := by
  rw [BitVec.le_def, feltToU128_eq_ok.mp hu, feltToU128_eq_ok.mp hv]
  rfl

/-- The program for requests returns the public inputs of a statement exactly on the witnesses for
which the statement holds: the note is in the tree, the state is that of the deposit or is signed,
the balance covers the bound, and the anonymous commitment is that to the balance with both
blindings. -/
theorem runRequestProgram_eq_ok {args : RequestArgs} {outputs : List Felt} :
  runRequestProgram poseidonHashSpan args = .ok outputs
    ↔ ∃ anonX anonY, RequestValid poseidonHashSpan args anonX anonY
      ∧ outputs = requestOutputs poseidonHashSpan args anonX anonY
  := by
  rw [runRequestProgram, bind_eq_ok]
  constructor
  · rintro ⟨⟨⟩, hnote, h⟩
    rw [assert_bind, decide_eq_true_iff, bind_eq_ok] at h
    obtain ⟨hgenesis, ⟨anonX, anonY⟩, hanon, h⟩ := h
    obtain ⟨balance, hbalance, h⟩ := bind_eq_ok.mp h
    obtain ⟨bound, hbound, h⟩ := bind_eq_ok.mp h
    rw [assert_bind, decide_eq_true_iff, le_of_feltToU128 hbound hbalance] at h
    obtain ⟨hsolvent, hreturned⟩ := h
    obtain ⟨hstate, hlt, hblindings, hanonymous⟩ := (anonCommitment_eq_ok hgenesis).mp hanon
    cases hreturned
    exact ⟨anonX, anonY, ⟨verifyNote_eq_ok.mp hnote, hstate, hlt, hsolvent, hblindings, hanonymous⟩,
      rfl⟩
  · rintro ⟨anonX, anonY, hvalid, rfl⟩
    have hgenesis := hvalid.state.isGenesis
    have hanon := (anonCommitment_eq_ok hgenesis).mpr
      ⟨hvalid.state, hvalid.balance, hvalid.blindings, hvalid.anonymous⟩
    obtain ⟨balance, hbalance⟩ := @exists_feltToU128 _ "balance not u128" hvalid.balance
    obtain ⟨bound, hbound⟩ := @exists_feltToU128 _ "solvency_bound not u128"
      ((Fin.le_def.mp hvalid.solvent).trans_lt hvalid.balance)
    refine ⟨(), verifyNote_eq_ok.mpr hvalid.note, ?_⟩
    rw [assert_bind, decide_eq_true_iff, hanon, ok_bind]
    dsimp only
    rw [hbalance, ok_bind, hbound, ok_bind, assert_bind, decide_eq_true_iff,
      le_of_feltToU128 hbound hbalance]
    exact ⟨hgenesis, hvalid.solvent, rfl⟩

theorem verifyFinalState_eq_ok {args : WithdrawalArgs}
    (hgenesis : args.final.isGenesis = 0 ∨ args.final.isGenesis = 1) :
  verifyFinalState poseidonHashSpan args = .ok ()
    ↔ StateValid poseidonHashSpan args.context args.note args.final
  := by
  rw [verifyFinalState]
  obtain hzero | hone := hgenesis
  · have hne : args.final.isGenesis ≠ 1 := by
      rw [hzero]
      exact isGenesis_ne
    rw [if_neg hne, bind_eq_ok]
    constructor
    · rintro ⟨⟨eX, eY⟩, hstate, -⟩
      obtain ⟨hlt, hopens, hsignature⟩ := verifyState_eq_ok.mp hstate
      exact .signed eX eY hzero hlt hopens hsignature
    · intro hstate
      cases hstate with
      | genesis hone => exact absurd hone hne
      | signed x y _ hlt hopens hsignature =>
        exact ⟨(x, y), verifyState_eq_ok.mpr ⟨hlt, hopens, hsignature⟩, rfl⟩
  · rw [if_pos hone, assertGenesis_eq_ok]
    constructor
    · rintro ⟨hanchor, hbalance, hepoch, hroot⟩
      exact .genesis hone hanchor hbalance hepoch hroot
    · intro hstate
      cases hstate with
      | signed x y hzero =>
        rw [hzero] at hone
        exact absurd hone isGenesis_ne
      | genesis _ hanchor hbalance hepoch hroot => exact ⟨hanchor, hbalance, hepoch, hroot⟩

theorem verifyClearance_eq_ok {args : WithdrawalArgs}
    (hclearance : args.hasClearance = 0 ∨ args.hasClearance = 1) :
  verifyClearance poseidonHashSpan args
      (nullifierOf poseidonHashSpan args.note.secretS args.final.anchor) = .ok ()
    ↔ ClearanceValid poseidonHashSpan args
  := by
  rw [verifyClearance]
  obtain hzero | hone := hclearance
  · have hne : args.hasClearance ≠ 1 := by
      rw [hzero]
      exact isGenesis_ne
    rw [if_neg hne, assert_bind, assert_eq_ok, decide_eq_true_iff, decide_eq_true_iff]
    constructor
    · rintro ⟨hepoch, hroot⟩
      exact .absent hzero hepoch hroot
    · intro h
      cases h with
      | cleared hone => exact absurd hone hne
      | absent _ hepoch hroot => exact ⟨hepoch, hroot⟩
  · rw [if_pos hone, assert_bind, assert_bind, decide_eq_true_iff, decide_eq_true_iff,
      ← signatureValid_iff]
    constructor
    · intro hsignature
      exact .cleared hone hsignature
    · intro h
      cases h with
      | absent hzero =>
        rw [hzero] at hone
        exact absurd hone isGenesis_ne
      | cleared _ hsignature => exact hsignature

/-- The program for withdrawals returns the public inputs of a statement exactly on the witnesses
for which the statement holds: the note is in the tree, the state is that of the deposit or is
signed, the deposit covers the balance, and a clearance of the nullifier is signed or not there. -/
theorem runWithdrawalProgram_eq_ok {args : WithdrawalArgs} {outputs : List Felt} :
  runWithdrawalProgram poseidonHashSpan args = .ok outputs
    ↔ WithdrawalValid poseidonHashSpan args ∧ outputs = withdrawalOutputs poseidonHashSpan args
  := by
  rw [runWithdrawalProgram, bind_eq_ok]
  constructor
  · rintro ⟨⟨⟩, hnote, h⟩
    rw [assert_bind, decide_eq_true_iff, bind_eq_ok] at h
    obtain ⟨hgenesis, ⟨⟩, hstate, h⟩ := h
    dsimp only at h
    obtain ⟨final, hfinal, h⟩ := bind_eq_ok.mp h
    obtain ⟨deposit, hdeposit, h⟩ := bind_eq_ok.mp h
    rw [assert_bind, assert_bind, decide_eq_true_iff, decide_eq_true_iff,
      le_of_feltToU128 hfinal hdeposit, bind_eq_ok] at h
    obtain ⟨hcovered, hclearance, ⟨⟩, hverified, hreturned⟩ := h
    cases hreturned
    have hlt : args.note.depositAmount.val < 2 ^ 128 := by
      rw [← feltToU128_eq_ok.mp hdeposit]
      exact deposit.isLt
    exact ⟨⟨verifyNote_eq_ok.mp hnote, (verifyFinalState_eq_ok hgenesis).mp hstate, hlt, hcovered,
      (verifyClearance_eq_ok hclearance).mp hverified⟩, rfl⟩
  · rintro ⟨hvalid, rfl⟩
    have hgenesis := hvalid.state.isGenesis
    have hclearance : args.hasClearance = 0 ∨ args.hasClearance = 1 := by
      cases hvalid.clearance with
      | cleared hone => exact .inr hone
      | absent hzero => exact .inl hzero
    obtain ⟨final, hfinal⟩ := @exists_feltToU128 _ "final_balance not u128"
      ((Fin.le_def.mp hvalid.covered).trans_lt hvalid.deposit)
    obtain ⟨deposit, hdeposit⟩ := @exists_feltToU128 _ "deposit_amount not u128" hvalid.deposit
    refine ⟨(), verifyNote_eq_ok.mpr hvalid.note, ?_⟩
    rw [assert_bind, decide_eq_true_iff, (verifyFinalState_eq_ok hgenesis).mpr hvalid.state, ok_bind]
    dsimp only
    rw [hfinal, ok_bind, hdeposit, ok_bind, assert_bind, assert_bind, decide_eq_true_iff,
      decide_eq_true_iff, le_of_feltToU128 hfinal hdeposit,
      (verifyClearance_eq_ok hclearance).mpr hvalid.clearance]
    exact ⟨hgenesis, hvalid.covered, hclearance, rfl⟩

end

end ZkApi.Cairo
