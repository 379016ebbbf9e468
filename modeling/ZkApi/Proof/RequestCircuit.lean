import ZkApi.Proof.Gadgets

/-!
# The request circuit

`RequestCircuit` as a relation between the vector of public inputs and an assignment of the
witness wires, and the statement that it proves in terms of the native functions.  The
relation is the statement: an assignment exists exactly when a witness of the statement
does (`request_circuit_iff`).
-/

namespace ZkApi

open Poseidon

/-! ### Public inputs and witnesses -/

/-- A vector of twelve public inputs, in the order of the circuit. -/
structure RequestInputs where
  protocolVersion : Fr
  chainId : Fr
  contractAddress : Fr
  activeRoot : Fr
  stateSigningKeyX : Fr
  stateSigningKeyY : Fr
  requestTime : Fr
  solvencyBound : Fr
  requestNullifier : Fr
  authorizationTag : Fr
  anonymousCommitmentX : Fr
  anonymousCommitmentY : Fr
  deriving DecidableEq

/-- The public part of the statement. -/
structure RequestPublic where
  protocolVersion : U16
  chainId : U64
  contractAddress : Fr
  activeRoot : Fr
  stateSigningKey : EdwardsAffine
  requestTime : U64
  solvencyBound : U128
  requestNullifier : Fr
  authorizationTag : Fr
  anonymousCommitment : EdwardsAffine

/-- `to_field_elements`. -/
def RequestPublic.toFieldElements (pub : RequestPublic) : RequestInputs where
  protocolVersion := pub.protocolVersion.toNat
  chainId := pub.chainId.toNat
  contractAddress := pub.contractAddress
  activeRoot := pub.activeRoot
  stateSigningKeyX := pub.stateSigningKey.x
  stateSigningKeyY := pub.stateSigningKey.y
  requestTime := pub.requestTime.toNat
  solvencyBound := pub.solvencyBound.toNat
  requestNullifier := pub.requestNullifier
  authorizationTag := pub.authorizationTag
  anonymousCommitmentX := pub.anonymousCommitment.x
  anonymousCommitmentY := pub.anonymousCommitment.y

/-- The private part of the statement. -/
structure RequestWitness where
  secret : Fr
  requestContext : Fr
  noteId : U32
  depositAmount : U128
  expiry : U64
  merkleSiblings : Fin 32 → Fr
  currentBalance : U128
  currentBlinding : EdwardsScalarField
  rerandomization : EdwardsScalarField
  currentAnchor : Fr
  isGenesis : Bool
  stateSignature : StateSignature

/-! ### The circuit -/

/-- The wires of the circuit that are not public inputs, and the points of the public
inputs. -/
structure RequestAssignment where
  stateSigningKey : EdwardsAffine
  anonymousCommitment : EdwardsAffine
  secret : Fr
  requestContext : Fr
  noteId : U32
  depositAmount : U128
  expiry : U64
  balance : U128
  requestTime : U64
  solvencyBound : U128
  siblings : Fin 32 → Fr
  isGenesis : Bool
  anchor : Fr
  blindingBits : ScalarBits
  signature : SignatureVar
  rerandomizationBits : ScalarBits

namespace RequestAssignment

/-- The leaf that the circuit computes. -/
def leaf (a : RequestAssignment) : Fr :=
  leafVar a.noteId a.secret a.depositAmount a.expiry

/-- The commitment that the circuit computes. -/
def currentCommitment (a : RequestAssignment) : EdwardsAffine :=
  commitmentVar a.balance a.blindingBits a.leaf

end RequestAssignment

/-- The constraints, `generate_constraints`, in the order of the source. -/
structure RequestConstraints (input : RequestInputs) (a : RequestAssignment) : Prop where
  stateSigningKey : a.stateSigningKey.x = input.stateSigningKeyX
    ∧ a.stateSigningKey.y = input.stateSigningKeyY
  anonymousCommitment : a.anonymousCommitment.x = input.anonymousCommitmentX
    ∧ a.anonymousCommitment.y = input.anonymousCommitmentY
  secret : a.secret ≠ 0
  requestTime : (a.requestTime.toNat : Fr) = input.requestTime
  expiry : a.requestTime.toNat ≤ a.expiry.toNat
  solvencyBound : (a.solvencyBound.toNat : Fr) = input.solvencyBound
  balance : a.solvencyBound.toNat ≤ a.balance.toNat
  activeRoot : rootVar a.noteId a.leaf a.siblings = input.activeRoot
  genesisAnchor : a.isGenesis = true → a.anchor = 1
  genesisBalance : a.isGenesis = true → (a.balance.toNat : Fr) = a.depositAmount.toNat
  stateSignature : EnforceSignature a.stateSigningKey
    (poseidonHash
      [domain "zkapi.v2.state", input.protocolVersion, input.chainId, input.contractAddress,
        a.currentCommitment.x, a.currentCommitment.y, a.anchor])
    a.signature (!a.isGenesis)
  computedAnonymous : a.currentCommitment
      + scalarMulLe balanceBlindingGenerator (uintBits a.rerandomizationBits)
    = a.anonymousCommitment
  requestNullifier : poseidonHash [domain "zkapi.v2.null", a.secret, a.anchor]
    = input.requestNullifier
  authorizationTag : poseidonHash
      [domain "zkapi.v2.auth", input.requestNullifier, a.requestContext]
    = input.authorizationTag

/-- The wires that carry a witness, for the points, the time and the bound of the public
inputs. -/
def RequestWitness.wires (w : RequestWitness) (stateSigningKey anonymousCommitment : EdwardsAffine)
    (requestTime : U64) (solvencyBound : U128) : RequestAssignment where
  stateSigningKey
  anonymousCommitment
  secret := w.secret
  requestContext := w.requestContext
  noteId := w.noteId
  depositAmount := w.depositAmount
  expiry := w.expiry
  balance := w.currentBalance
  requestTime
  solvencyBound
  siblings := w.merkleSiblings
  isGenesis := w.isGenesis
  anchor := w.currentAnchor
  blindingBits := scalarBitsWitness w.currentBlinding
  signature := signatureWitness w.stateSignature
  rerandomizationBits := scalarBitsWitness w.rerandomization

/-- The wires that the prover assigns. -/
def RequestWitness.assignment (pub : RequestPublic) (w : RequestWitness) : RequestAssignment :=
  w.wires pub.stateSigningKey pub.anonymousCommitment pub.requestTime pub.solvencyBound

/-! ### The statement -/

/-- The leaf of the note of a witness. -/
def RequestWitness.leaf (w : RequestWitness) : Fr :=
  noteLeaf w.noteId (registrationCommitment w.secret) w.depositAmount w.expiry

/-- The commitment to the current state of a witness. -/
def RequestWitness.commitment (w : RequestWitness) : EdwardsAffine :=
  balanceCommitment w.currentBalance w.currentBlinding w.leaf

/-- The statement that a request proves, in terms of the native functions, for a vector of
public inputs, the state key and the anonymous commitment that stand in it, and the time
and the bound whose field elements stand in it. -/
structure RequestStatement (input : RequestInputs) (stateSigningKey : EdwardsAffine)
    (requestTime : U64) (solvencyBound : U128) (w : RequestWitness) : Prop where
  requestTime_eq : input.requestTime = requestTime.toNat
  solvencyBound_eq : input.solvencyBound = solvencyBound.toNat
  secret_ne_zero : w.secret ≠ 0
  requestTime_le : requestTime.toNat ≤ w.expiry.toNat
  solvencyBound_le : solvencyBound.toNat ≤ w.currentBalance.toNat
  root_eq : merkleRoot w.noteId w.leaf w.merkleSiblings = input.activeRoot
  genesis : w.isGenesis = true → w.currentAnchor = 1 ∧ w.currentBalance = w.depositAmount
  signed : w.isGenesis = false →
    verifyStateSignature stateSigningKey
      (stateMessage input.protocolVersion input.chainId input.contractAddress w.commitment
        w.currentAnchor)
      w.stateSignature
  anonymous_eq :
    (rerandomizeCommitment w.commitment w.rerandomization).x = input.anonymousCommitmentX
      ∧ (rerandomizeCommitment w.commitment w.rerandomization).y
        = input.anonymousCommitmentY
  nullifier_eq : requestNullifier w.secret w.currentAnchor = input.requestNullifier
  tag_eq : authorizationTag input.requestNullifier w.requestContext = input.authorizationTag

/-! ### The circuit means the statement -/

variable {input : RequestInputs} {a : RequestAssignment} {stateSigningKey : EdwardsAffine}

theorem RequestAssignment.currentCommitment_eq (a : RequestAssignment) :
  a.currentCommitment = balanceCommitment a.balance (bitsScalar a.blindingBits) a.leaf
  := commitmentVar_eq _ _ _

/-- The witness that a satisfying assignment holds. -/
def RequestAssignment.witness (a : RequestAssignment) : RequestWitness where
  secret := a.secret
  requestContext := a.requestContext
  noteId := a.noteId
  depositAmount := a.depositAmount
  expiry := a.expiry
  merkleSiblings := a.siblings
  currentBalance := a.balance
  currentBlinding := bitsScalar a.blindingBits
  rerandomization := bitsScalar a.rerandomizationBits
  currentAnchor := a.anchor
  isGenesis := a.isGenesis
  stateSignature := { r := a.signature.r, s := bitsScalar a.signature.sBits }

theorem RequestAssignment.commitment_witness (a : RequestAssignment) :
  a.witness.commitment = a.currentCommitment
  := a.currentCommitment_eq.symm

/-- Balances are equal when they are equal as field elements. -/
theorem balance_cast_inj {a b : U128} :
  (a.toNat : Fr) = b.toNat ↔ a = b
  := toNat_cast_inj (by norm_num)

/-- A satisfying assignment holds a witness of the statement. -/
theorem RequestConstraints.statement (h : RequestConstraints input a)
    (hkey : stateSigningKey ∈ primeSubgroup)
    (hx : stateSigningKey.x = input.stateSigningKeyX)
    (hy : stateSigningKey.y = input.stateSigningKeyY) :
  RequestStatement input stateSigningKey a.requestTime a.solvencyBound a.witness
  := by
  have hsame : a.stateSigningKey = stateSigningKey := by
    ext
    · rw [h.stateSigningKey.1, hx]
    · rw [h.stateSigningKey.2, hy]
  have hanonymous : rerandomizeCommitment a.witness.commitment a.witness.rerandomization
      = a.anonymousCommitment := by
    rw [a.commitment_witness, rerandomizeCommitment, ← h.computedAnonymous,
      scalarMulLe_bitsScalar balanceBlindingGenerator_mem]
    rfl
  constructor
  case requestTime_eq => apply h.requestTime.symm
  case solvencyBound_eq => apply h.solvencyBound.symm
  case secret_ne_zero => apply h.secret
  case requestTime_le => apply h.expiry
  case solvencyBound_le => apply h.balance
  case root_eq =>
    rw [← h.activeRoot, rootVar_eq]
    rfl
  case genesis =>
    intro hgenesis
    constructor
    · apply h.genesisAnchor hgenesis
    · apply balance_cast_inj.mp (h.genesisBalance hgenesis)
  case signed =>
    intro hgenesis
    have hcondition : (!a.isGenesis) = true := by
      rw [Bool.not_eq_true']
      apply hgenesis
    rw [a.commitment_witness, ← hsame]
    rw [← hsame] at hkey
    apply h.stateSignature.verify hkey hcondition
  case anonymous_eq =>
    rw [hanonymous]
    apply h.anonymousCommitment
  case nullifier_eq => apply h.requestNullifier
  case tag_eq => apply h.authorizationTag

/-- The wires that carry a witness of the statement satisfy the constraints, when the nonce
point of the signature is in the subgroup. -/
theorem RequestStatement.constraints {requestTime : U64} {solvencyBound : U128}
    {anonymousCommitment : EdwardsAffine} {w : RequestWitness}
    (h : RequestStatement input stateSigningKey requestTime solvencyBound w)
    (hkey : stateSigningKey ∈ primeSubgroup)
    (hx : stateSigningKey.x = input.stateSigningKeyX)
    (hy : stateSigningKey.y = input.stateSigningKeyY)
    (hanonymous : anonymousCommitment.x = input.anonymousCommitmentX
      ∧ anonymousCommitment.y = input.anonymousCommitmentY)
    (hr : w.stateSignature.r ∈ primeSubgroup) :
  RequestConstraints input (w.wires stateSigningKey anonymousCommitment requestTime solvencyBound)
  := by
  have hcommitment :
      (w.wires stateSigningKey anonymousCommitment requestTime solvencyBound).currentCommitment
        = w.commitment := by
    rw [RequestAssignment.currentCommitment_eq, RequestWitness.commitment]
    simp only [RequestWitness.wires, bitsScalar_scalarBitsWitness]
    rfl
  constructor
  case stateSigningKey => exact ⟨hx, hy⟩
  case anonymousCommitment => apply hanonymous
  case secret => apply h.secret_ne_zero
  case requestTime => apply h.requestTime_eq.symm
  case expiry => apply h.requestTime_le
  case solvencyBound => apply h.solvencyBound_eq.symm
  case balance => apply h.solvencyBound_le
  case activeRoot =>
    rw [rootVar_eq]
    apply h.root_eq
  case genesisAnchor =>
    intro hgenesis
    apply (h.genesis hgenesis).1
  case genesisBalance =>
    intro hgenesis
    apply balance_cast_inj.mpr (h.genesis hgenesis).2
  case stateSignature =>
    rw [hcommitment]
    apply EnforceSignature.of_verify hkey hr
    intro hcondition
    rw [Bool.not_eq_true'] at hcondition
    apply h.signed hcondition
  case computedAnonymous =>
    rw [hcommitment, scalarMulLe_bitsScalar balanceBlindingGenerator_mem]
    simp only [RequestWitness.wires, bitsScalar_scalarBitsWitness]
    ext
    · rw [hanonymous.1, ← h.anonymous_eq.1]
      rfl
    · rw [hanonymous.2, ← h.anonymous_eq.2]
      rfl
  case requestNullifier => apply h.nullifier_eq
  case authorizationTag => apply h.tag_eq

/-- The statement does not read the signature of a genesis state. -/
theorem RequestStatement.dropSignature {requestTime : U64} {solvencyBound : U128}
    {w : RequestWitness} (h : RequestStatement input stateSigningKey requestTime solvencyBound w)
    (hgenesis : w.isGenesis = true) :
  RequestStatement input stateSigningKey requestTime solvencyBound
    { w with stateSignature := { r := 0, s := 0 } }
  where
  requestTime_eq := h.requestTime_eq
  solvencyBound_eq := h.solvencyBound_eq
  secret_ne_zero := h.secret_ne_zero
  requestTime_le := h.requestTime_le
  solvencyBound_le := h.solvencyBound_le
  root_eq := h.root_eq
  genesis := h.genesis
  signed := by
    intro hfalse
    rw [hgenesis] at hfalse
    cases hfalse
  anonymous_eq := h.anonymous_eq
  nullifier_eq := h.nullifier_eq
  tag_eq := h.tag_eq

/-- For every vector of public inputs whose state key is in the subgroup of prime order,
the circuit can be satisfied exactly when the time is an integer of 64 bits, the bound is
one of 128 bits, and there is a witness of the statement. -/
theorem request_circuit_iff (input : RequestInputs) (stateSigningKey : EdwardsAffine)
    (hkey : stateSigningKey ∈ primeSubgroup)
    (hx : stateSigningKey.x = input.stateSigningKeyX)
    (hy : stateSigningKey.y = input.stateSigningKeyY) :
  (∃ a, RequestConstraints input a)
    ↔ ∃ (requestTime : U64) (solvencyBound : U128) (w : RequestWitness),
      RequestStatement input stateSigningKey requestTime solvencyBound w
  := by
  constructor
  · rintro ⟨a, h⟩
    use a.requestTime, a.solvencyBound, a.witness
    apply h.statement hkey hx hy
  · rintro ⟨requestTime, solvencyBound, w, h⟩
    have hanonymous := h.anonymous_eq
    cases hgenesis : w.isGenesis with
    | true =>
      have h' := h.dropSignature hgenesis
      exact ⟨_, h'.constraints hkey hx hy hanonymous primeSubgroup.zero_mem⟩
    | false =>
      have hr := verifyStateSignature_mem hkey (h.signed hgenesis)
      exact ⟨_, h.constraints hkey hx hy hanonymous hr⟩

/-- The public inputs that are all zero, with the standard generator as the state key. -/
theorem request_circuit_iff_generator :
  (∃ a, RequestConstraints ⟨2, 1, 1, 0, generator.x, generator.y, 0, 0, 0, 0, 0, 1⟩ a)
    ↔ ∃ (requestTime : U64) (solvencyBound : U128) (w : RequestWitness),
      RequestStatement ⟨2, 1, 1, 0, generator.x, generator.y, 0, 0, 0, 0, 0, 1⟩ generator
        requestTime solvencyBound w
  := request_circuit_iff _ generator generator_mem rfl rfl

end ZkApi
