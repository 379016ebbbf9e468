import ZkApi.Proof.RequestCircuit

/-!
# The withdrawal circuit

`WithdrawalCircuit` as a relation between the vector of public inputs and an assignment of
the witness wires, and the statement that it proves in terms of the native functions.  As
for requests, an assignment exists exactly when a witness of the statement does
(`withdrawal_circuit_iff`).
-/

namespace ZkApi

open Poseidon

/-! ### Public inputs and witnesses -/

/-- A vector of fourteen public inputs, in the order of the circuit. -/
structure WithdrawalInputs where
  protocolVersion : Fr
  chainId : Fr
  contractAddress : Fr
  activeRoot : Fr
  stateSigningKeyX : Fr
  stateSigningKeyY : Fr
  clearanceSigningKeyX : Fr
  clearanceSigningKeyY : Fr
  noteId : Fr
  finalBalance : Fr
  destination : Fr
  withdrawalNullifier : Fr
  hasClearance : Fr
  withdrawalTag : Fr
  deriving DecidableEq

/-- The public part of the statement. -/
structure WithdrawalPublic where
  protocolVersion : U16
  chainId : U64
  contractAddress : Fr
  activeRoot : Fr
  stateSigningKey : EdwardsAffine
  clearanceSigningKey : EdwardsAffine
  noteId : U32
  finalBalance : U128
  destination : Fr
  withdrawalNullifier : Fr
  hasClearance : Bool
  withdrawalTag : Fr

/-- `to_field_elements`. -/
def WithdrawalPublic.toFieldElements (pub : WithdrawalPublic) : WithdrawalInputs where
  protocolVersion := pub.protocolVersion.toNat
  chainId := pub.chainId.toNat
  contractAddress := pub.contractAddress
  activeRoot := pub.activeRoot
  stateSigningKeyX := pub.stateSigningKey.x
  stateSigningKeyY := pub.stateSigningKey.y
  clearanceSigningKeyX := pub.clearanceSigningKey.x
  clearanceSigningKeyY := pub.clearanceSigningKey.y
  noteId := pub.noteId.toNat
  finalBalance := pub.finalBalance.toNat
  destination := pub.destination
  withdrawalNullifier := pub.withdrawalNullifier
  hasClearance := pub.hasClearance.toNat
  withdrawalTag := pub.withdrawalTag

/-- The private part of the statement. -/
structure WithdrawalWitness where
  secret : Fr
  depositAmount : U128
  expiry : U64
  merkleSiblings : Fin 32 → Fr
  finalBlinding : EdwardsScalarField
  currentAnchor : Fr
  isGenesis : Bool
  stateSignature : StateSignature
  clearanceSignature : StateSignature

/-! ### The circuit -/

/-- The wires of the circuit that are not public inputs, with the points and the bit of the
public inputs. -/
structure WithdrawalAssignment where
  stateSigningKey : EdwardsAffine
  clearanceSigningKey : EdwardsAffine
  hasClearance : Bool
  secret : Fr
  noteId : U32
  depositAmount : U128
  finalBalance : U128
  expiry : U64
  siblings : Fin 32 → Fr
  isGenesis : Bool
  anchor : Fr
  blindingBits : ScalarBits
  signature : SignatureVar
  clearanceSignature : SignatureVar

namespace WithdrawalAssignment

/-- The leaf that the circuit computes. -/
def leaf (a : WithdrawalAssignment) : Fr :=
  leafVar a.noteId a.secret a.depositAmount a.expiry

/-- The commitment that the circuit computes. -/
def currentCommitment (a : WithdrawalAssignment) : EdwardsAffine :=
  commitmentVar a.finalBalance a.blindingBits a.leaf

end WithdrawalAssignment

/-- The constraints, `generate_constraints`, in the order of the source. -/
structure WithdrawalConstraints (input : WithdrawalInputs) (a : WithdrawalAssignment) :
    Prop where
  stateSigningKey : a.stateSigningKey.x = input.stateSigningKeyX
    ∧ a.stateSigningKey.y = input.stateSigningKeyY
  clearanceSigningKey : a.clearanceSigningKey.x = input.clearanceSigningKeyX
    ∧ a.clearanceSigningKey.y = input.clearanceSigningKeyY
  hasClearance : (a.hasClearance.toNat : Fr) = input.hasClearance
  secret : a.secret ≠ 0
  noteId : (a.noteId.toNat : Fr) = input.noteId
  finalBalance : (a.finalBalance.toNat : Fr) = input.finalBalance
  depositAmount : a.finalBalance.toNat ≤ a.depositAmount.toNat
  activeRoot : rootVar a.noteId a.leaf a.siblings = input.activeRoot
  genesisAnchor : a.isGenesis = true → a.anchor = 1
  genesisBalance : a.isGenesis = true → (a.finalBalance.toNat : Fr) = a.depositAmount.toNat
  stateSignature : EnforceSignature a.stateSigningKey
    (poseidonHash
      [domain "zkapi.v2.state", input.protocolVersion, input.chainId, input.contractAddress,
        a.currentCommitment.x, a.currentCommitment.y, a.anchor])
    a.signature (!a.isGenesis)
  withdrawalNullifier : poseidonHash [domain "zkapi.v2.null", a.secret, a.anchor]
    = input.withdrawalNullifier
  withdrawalTag : poseidonHash
      [domain "zkapi.v2.withdraw", input.withdrawalNullifier, input.destination,
        input.finalBalance, if a.hasClearance then 1 else 0]
    = input.withdrawalTag
  clearanceSignature : EnforceSignature a.clearanceSigningKey
    (poseidonHash
      [domain "zkapi.v2.clear", input.protocolVersion, input.chainId, input.contractAddress,
        input.withdrawalNullifier])
    a.clearanceSignature a.hasClearance

/-- The public inputs as their types read them: the two keys, the index of the note, the
balance and the bit. -/
structure WithdrawalTyped where
  stateSigningKey : EdwardsAffine
  clearanceSigningKey : EdwardsAffine
  noteId : U32
  finalBalance : U128
  hasClearance : Bool

/-- The typed public inputs of a public part. -/
def WithdrawalPublic.typed (pub : WithdrawalPublic) : WithdrawalTyped where
  stateSigningKey := pub.stateSigningKey
  clearanceSigningKey := pub.clearanceSigningKey
  noteId := pub.noteId
  finalBalance := pub.finalBalance
  hasClearance := pub.hasClearance

/-- The wires that carry a witness, for typed public inputs. -/
def WithdrawalWitness.wires (w : WithdrawalWitness) (t : WithdrawalTyped) :
    WithdrawalAssignment where
  stateSigningKey := t.stateSigningKey
  clearanceSigningKey := t.clearanceSigningKey
  hasClearance := t.hasClearance
  secret := w.secret
  noteId := t.noteId
  depositAmount := w.depositAmount
  finalBalance := t.finalBalance
  expiry := w.expiry
  siblings := w.merkleSiblings
  isGenesis := w.isGenesis
  anchor := w.currentAnchor
  blindingBits := scalarBitsWitness w.finalBlinding
  signature := signatureWitness w.stateSignature
  clearanceSignature := signatureWitness w.clearanceSignature

/-- The wires that the prover assigns. -/
def WithdrawalWitness.assignment (pub : WithdrawalPublic) (w : WithdrawalWitness) :
    WithdrawalAssignment :=
  w.wires pub.typed

/-! ### The statement -/

/-- The leaf of the note that is withdrawn. -/
def WithdrawalWitness.leaf (w : WithdrawalWitness) (noteId : U32) : Fr :=
  noteLeaf noteId (registrationCommitment w.secret) w.depositAmount w.expiry

/-- The commitment to the state that is withdrawn. -/
def WithdrawalWitness.commitment (w : WithdrawalWitness) (noteId : U32) (finalBalance : U128) :
    EdwardsAffine :=
  balanceCommitment finalBalance w.finalBlinding (w.leaf noteId)

/-- The statement that a withdrawal proves, in terms of the native functions, for a vector
of public inputs and the typed values that stand in it. -/
structure WithdrawalStatement (input : WithdrawalInputs) (t : WithdrawalTyped)
    (w : WithdrawalWitness) : Prop where
  noteId_eq : input.noteId = t.noteId.toNat
  finalBalance_eq : input.finalBalance = t.finalBalance.toNat
  hasClearance_eq : input.hasClearance = t.hasClearance.toNat
  secret_ne_zero : w.secret ≠ 0
  finalBalance_le : t.finalBalance.toNat ≤ w.depositAmount.toNat
  root_eq : merkleRoot t.noteId (w.leaf t.noteId) w.merkleSiblings = input.activeRoot
  genesis : w.isGenesis = true → w.currentAnchor = 1 ∧ t.finalBalance = w.depositAmount
  signed : w.isGenesis = false →
    verifyStateSignature t.stateSigningKey
      (stateMessage input.protocolVersion input.chainId input.contractAddress
        (w.commitment t.noteId t.finalBalance) w.currentAnchor)
      w.stateSignature
  nullifier_eq : requestNullifier w.secret w.currentAnchor = input.withdrawalNullifier
  tag_eq : withdrawalTag input.withdrawalNullifier input.destination t.finalBalance
    t.hasClearance = input.withdrawalTag
  cleared : t.hasClearance = true →
    verifyStateSignature t.clearanceSigningKey
      (clearanceMessage input.protocolVersion input.chainId input.contractAddress
        input.withdrawalNullifier)
      w.clearanceSignature

/-! ### The circuit means the statement -/

variable {input : WithdrawalInputs} {a : WithdrawalAssignment} {t : WithdrawalTyped}
  {w : WithdrawalWitness}

/-- The witness that a satisfying assignment holds. -/
def WithdrawalAssignment.witness (a : WithdrawalAssignment) : WithdrawalWitness where
  secret := a.secret
  depositAmount := a.depositAmount
  expiry := a.expiry
  merkleSiblings := a.siblings
  finalBlinding := bitsScalar a.blindingBits
  currentAnchor := a.anchor
  isGenesis := a.isGenesis
  stateSignature := { r := a.signature.r, s := bitsScalar a.signature.sBits }
  clearanceSignature :=
    { r := a.clearanceSignature.r, s := bitsScalar a.clearanceSignature.sBits }

/-- The typed values that a satisfying assignment holds, next to the keys. -/
def WithdrawalAssignment.typed (a : WithdrawalAssignment)
    (stateSigningKey clearanceSigningKey : EdwardsAffine) : WithdrawalTyped where
  stateSigningKey
  clearanceSigningKey
  noteId := a.noteId
  finalBalance := a.finalBalance
  hasClearance := a.hasClearance

theorem WithdrawalAssignment.currentCommitment_eq (a : WithdrawalAssignment) :
  a.currentCommitment = a.witness.commitment a.noteId a.finalBalance
  := commitmentVar_eq _ _ _

theorem bool_cast (b : Bool) :
  ((b.toNat : ℕ) : Fr) = if b then 1 else 0
  := by
  cases b
  · rw [Bool.toNat_false, Nat.cast_zero]
    rfl
  · rw [Bool.toNat_true, Nat.cast_one]
    rfl

/-- A satisfying assignment holds a witness of the statement. -/
theorem WithdrawalConstraints.statement {stateSigningKey clearanceSigningKey : EdwardsAffine}
    (h : WithdrawalConstraints input a)
    (hkey : stateSigningKey ∈ primeSubgroup) (hclear : clearanceSigningKey ∈ primeSubgroup)
    (hx : stateSigningKey.x = input.stateSigningKeyX)
    (hy : stateSigningKey.y = input.stateSigningKeyY)
    (hcx : clearanceSigningKey.x = input.clearanceSigningKeyX)
    (hcy : clearanceSigningKey.y = input.clearanceSigningKeyY) :
  WithdrawalStatement input (a.typed stateSigningKey clearanceSigningKey) a.witness
  := by
  obtain rfl : a.stateSigningKey = stateSigningKey := by
    ext
    · rw [h.stateSigningKey.1, hx]
    · rw [h.stateSigningKey.2, hy]
  obtain rfl : a.clearanceSigningKey = clearanceSigningKey := by
    ext
    · rw [h.clearanceSigningKey.1, hcx]
    · rw [h.clearanceSigningKey.2, hcy]
  have hcommitment := a.currentCommitment_eq
  constructor
  case noteId_eq => apply h.noteId.symm
  case finalBalance_eq => apply h.finalBalance.symm
  case hasClearance_eq => apply h.hasClearance.symm
  case secret_ne_zero => apply h.secret
  case finalBalance_le => apply h.depositAmount
  case root_eq =>
    rw [← h.activeRoot, rootVar_eq]
    rfl
  case genesis =>
    intro hgenesis
    constructor
    · apply h.genesisAnchor hgenesis
    · apply balance_cast_inj.mp (h.genesisBalance hgenesis)
  case signed =>
    intro hgenesis
    have hcondition : (!a.isGenesis) = true := by
      rw [Bool.not_eq_true']
      apply hgenesis
    have hverify := h.stateSignature.verify hkey hcondition
    rw [hcommitment] at hverify
    apply hverify
  case nullifier_eq => apply h.withdrawalNullifier
  case tag_eq =>
    have htag := h.withdrawalTag
    rw [← bool_cast, ← h.finalBalance] at htag
    apply htag
  case cleared =>
    intro hcondition
    apply h.clearanceSignature.verify hclear hcondition

/-- The wires that carry a witness of the statement satisfy the constraints, when the nonce
points of the signatures are in the subgroup. -/
theorem WithdrawalStatement.constraints (h : WithdrawalStatement input t w)
    (hkey : t.stateSigningKey ∈ primeSubgroup) (hclear : t.clearanceSigningKey ∈ primeSubgroup)
    (hx : t.stateSigningKey.x = input.stateSigningKeyX)
    (hy : t.stateSigningKey.y = input.stateSigningKeyY)
    (hcx : t.clearanceSigningKey.x = input.clearanceSigningKeyX)
    (hcy : t.clearanceSigningKey.y = input.clearanceSigningKeyY)
    (hr : w.stateSignature.r ∈ primeSubgroup) (hcr : w.clearanceSignature.r ∈ primeSubgroup) :
  WithdrawalConstraints input (w.wires t)
  := by
  have hcommitment : (w.wires t).currentCommitment = w.commitment t.noteId t.finalBalance := by
    rw [WithdrawalAssignment.currentCommitment, commitmentVar_eq, WithdrawalWitness.commitment]
    simp only [WithdrawalWitness.wires, bitsScalar_scalarBitsWitness]
    rfl
  constructor
  case stateSigningKey => exact ⟨hx, hy⟩
  case clearanceSigningKey => exact ⟨hcx, hcy⟩
  case hasClearance => apply h.hasClearance_eq.symm
  case secret => apply h.secret_ne_zero
  case noteId => apply h.noteId_eq.symm
  case finalBalance => apply h.finalBalance_eq.symm
  case depositAmount => apply h.finalBalance_le
  case activeRoot =>
    rw [rootVar_eq]
    apply h.root_eq
  case genesisAnchor =>
    intro hgenesis
    apply (h.genesis hgenesis).1
  case genesisBalance =>
    intro hgenesis
    apply balance_cast_inj.mpr (h.genesis hgenesis).2
  case stateSignature =>
    rw [hcommitment]
    apply EnforceSignature.of_verify hkey hr
    intro hcondition
    rw [Bool.not_eq_true'] at hcondition
    apply h.signed hcondition
  case withdrawalNullifier => apply h.nullifier_eq
  case withdrawalTag =>
    rw [← bool_cast, h.finalBalance_eq]
    apply h.tag_eq
  case clearanceSignature =>
    apply EnforceSignature.of_verify hclear hcr
    intro hcondition
    apply h.cleared hcondition

/-- The statement reads the signatures only of the states and clearances that need them, so
that the others can be replaced by one whose nonce point is in the subgroup. -/
theorem WithdrawalStatement.normalize (h : WithdrawalStatement input t w)
    (hkey : t.stateSigningKey ∈ primeSubgroup)
    (hclear : t.clearanceSigningKey ∈ primeSubgroup) :
  ∃ w', WithdrawalStatement input t w' ∧ w'.stateSignature.r ∈ primeSubgroup
    ∧ w'.clearanceSignature.r ∈ primeSubgroup
  := by
  have hsigned : ∃ signature : StateSignature, signature.r ∈ primeSubgroup
      ∧ (w.isGenesis = false →
        verifyStateSignature t.stateSigningKey
          (stateMessage input.protocolVersion input.chainId input.contractAddress
            (w.commitment t.noteId t.finalBalance) w.currentAnchor) signature) := by
    cases hgenesis : w.isGenesis with
    | true => exact ⟨{ r := 0, s := 0 }, primeSubgroup.zero_mem, by simp⟩
    | false =>
      have hverify := h.signed hgenesis
      exact ⟨_, verifyStateSignature_mem hkey hverify, fun _ => hverify⟩
  have hcleared : ∃ signature : StateSignature, signature.r ∈ primeSubgroup
      ∧ (t.hasClearance = true →
        verifyStateSignature t.clearanceSigningKey
          (clearanceMessage input.protocolVersion input.chainId input.contractAddress
            input.withdrawalNullifier) signature) := by
    cases hcondition : t.hasClearance with
    | false => exact ⟨{ r := 0, s := 0 }, primeSubgroup.zero_mem, by simp⟩
    | true =>
      have hverify := h.cleared hcondition
      exact ⟨_, verifyStateSignature_mem hclear hverify, fun _ => hverify⟩
  obtain ⟨stateSignature, hr, hstate⟩ := hsigned
  obtain ⟨clearanceSignature, hcr, hclearance⟩ := hcleared
  use { w with stateSignature, clearanceSignature }
  refine ⟨?_, hr, hcr⟩
  exact { h with signed := hstate, cleared := hclearance }

/-- For every vector of public inputs whose signing keys are in the subgroup of prime order,
the circuit can be satisfied exactly when the index of the note is an integer of 32 bits,
the balance is one of 128 bits, the clearance is a bit, and there is a witness of the
statement. -/
theorem withdrawal_circuit_iff (input : WithdrawalInputs)
    (stateSigningKey clearanceSigningKey : EdwardsAffine)
    (hkey : stateSigningKey ∈ primeSubgroup) (hclear : clearanceSigningKey ∈ primeSubgroup)
    (hx : stateSigningKey.x = input.stateSigningKeyX)
    (hy : stateSigningKey.y = input.stateSigningKeyY)
    (hcx : clearanceSigningKey.x = input.clearanceSigningKeyX)
    (hcy : clearanceSigningKey.y = input.clearanceSigningKeyY) :
  (∃ a, WithdrawalConstraints input a)
    ↔ ∃ (noteId : U32) (finalBalance : U128) (hasClearance : Bool) (w : WithdrawalWitness),
      WithdrawalStatement input
        { stateSigningKey, clearanceSigningKey, noteId, finalBalance, hasClearance } w
  := by
  constructor
  · rintro ⟨a, h⟩
    use a.noteId, a.finalBalance, a.hasClearance, a.witness
    apply h.statement hkey hclear hx hy hcx hcy
  · rintro ⟨noteId, finalBalance, hasClearance, w, h⟩
    obtain ⟨w', h', hr, hcr⟩ := h.normalize hkey hclear
    exact ⟨_, h'.constraints hkey hclear hx hy hcx hcy hr hcr⟩

/-- A vector of public inputs with the standard generator as both signing keys. -/
theorem withdrawal_circuit_iff_generator :
  (∃ a, WithdrawalConstraints
      ⟨2, 1, 1, 0, generator.x, generator.y, generator.x, generator.y, 0, 0, 0, 0, 1, 0⟩ a)
    ↔ ∃ (noteId : U32) (finalBalance : U128) (hasClearance : Bool) (w : WithdrawalWitness),
      WithdrawalStatement
        ⟨2, 1, 1, 0, generator.x, generator.y, generator.x, generator.y, 0, 0, 0, 0, 1, 0⟩
        ⟨generator, generator, noteId, finalBalance, hasClearance⟩ w
  := withdrawal_circuit_iff _ generator generator generator_mem generator_mem rfl rfl rfl rfl

end ZkApi
