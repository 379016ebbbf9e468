import Mathlib.Tactic.MkIffOfInductiveProp
import ZkApi.Core
import ZkApi.Proof.WithdrawalCircuit

/-!
# Curve operations and provers on the wire types

The stable interface of the proof crate: points and signatures are decoded from wire
elements and checked to be in the subgroup, scalars are reduced modulo its order, and a
prover refuses a witness that does not satisfy its circuit.  What the Groth16 prover itself
returns is a parameter.
-/

namespace ZkApi.Compact

/-! ### Decoding and encoding -/

def scalar (value : Felt252) : EdwardsScalarField :=
  value.toNat

def scalarToFelt (value : EdwardsScalarField) : Felt252 :=
  BitVec.ofNat 256 value.val

instance (P : EdwardsAffine) : Decidable (P ∈ primeSubgroup) :=
  inferInstanceAs (Decidable (subgroupOrder • P = 0))

/-- `point_from_wire`. -/
def pointFromWire (point : CurvePointWire) : Except Failure EdwardsAffine :=
  if h : Edwards.OnCurve coeffD (residue point.x) (residue point.y) then
    let decoded : EdwardsAffine := { x := residue point.x, y := residue point.y, onCurve := h }
    if decoded ∈ primeSubgroup then .ok decoded
    else .error (.message "invalid Baby-JubJub point")
  else
    .error (.message "invalid Baby-JubJub point")

/-- `point_to_wire`. -/
def pointToWire (point : EdwardsAffine) : CurvePointWire where
  x := word point.x
  y := word point.y

/-- `signature_from_wire`. -/
def signatureFromWire (signature : SchnorrSignature) : Except Failure StateSignature := do
  let r ← pointFromWire { x := signature.rX, y := signature.rY }
  return { r, s := scalar signature.s }

/-! ### Operations -/

/-- `balance_commitment`. -/
def balanceCommitment (balance : U128) (blinding noteLeaf : Felt252) : CurvePointWire :=
  pointToWire (ZkApi.balanceCommitment balance (scalar blinding) (residue noteLeaf))

/-- `rerandomize`. -/
def rerandomize (commitment : CurvePointWire) (rerandomization : Felt252) :
    Except Failure CurvePointWire := do
  let point ← pointFromWire commitment
  return pointToWire (rerandomizeCommitment point (scalar rerandomization))

/-- `add_blindings`. -/
def addBlindings (left right : Felt252) : Felt252 :=
  scalarToFelt (scalar left + scalar right)

/-- `server_update`. -/
def serverUpdate (anonymous : CurvePointWire) (charge : U128) (blindDelta : Felt252) :
    Except Failure CurvePointWire := do
  let point ← pointFromWire anonymous
  return pointToWire (ZkApi.serverUpdate point charge (scalar blindDelta))

instance (publicKey : EdwardsAffine) (message : Fr) (signature : StateSignature) :
    Decidable (verifyStateSignature publicKey message signature) :=
  inferInstanceAs (Decidable (_ = _))

/-- `verify_signature`. -/
def verifySignature (publicKey : CurvePointWire) (message : Felt252)
    (signature : SchnorrSignature) : Except Failure Bool := do
  let key ← pointFromWire publicKey
  let decoded ← signatureFromWire signature
  return decide (verifyStateSignature key (residue message) decoded)

/-! ### Circuits -/

attribute [mk_iff] EnforceSignature RequestConstraints WithdrawalConstraints

instance (publicKey : EdwardsAffine) (message : Fr) (signature : SignatureVar)
    (condition : Bool) : Decidable (EnforceSignature publicKey message signature condition) :=
  decidable_of_iff _ (enforceSignature_iff _ _ _ _).symm

instance (input : RequestInputs) (a : RequestAssignment) :
    Decidable (RequestConstraints input a) :=
  decidable_of_iff _ (requestConstraints_iff _ _).symm

instance (input : WithdrawalInputs) (a : WithdrawalAssignment) :
    Decidable (WithdrawalConstraints input a) :=
  decidable_of_iff _ (withdrawalConstraints_iff _ _).symm

/-- The private data of a request. -/
structure RequestWitnessData where
  secret : Felt252
  requestContext : Felt252
  noteId : U32
  depositAmount : U128
  expiry : U64
  merkleSiblings : Fin 32 → Felt252
  currentBalance : U128
  currentBlinding : Felt252
  rerandomization : Felt252
  currentAnchor : Felt252
  isGenesis : Bool
  stateSignature : Option SchnorrSignature

/-- The private data of a withdrawal. -/
structure WithdrawalWitnessData where
  secret : Felt252
  depositAmount : U128
  expiry : U64
  merkleSiblings : Fin 32 → Felt252
  finalBlinding : Felt252
  currentAnchor : Felt252
  isGenesis : Bool
  stateSignature : Option SchnorrSignature
  clearanceSignature : Option SchnorrSignature

/-- `request_public_from_wire`. -/
def requestPublicFromWire (pub : RequestPublicInputsV2) : Except Failure RequestPublic := do
  let stateSigningKey ← pointFromWire { x := pub.stateSigningKeyX, y := pub.stateSigningKeyY }
  let anonymousCommitment ←
    pointFromWire { x := pub.anonymousCommitmentX, y := pub.anonymousCommitmentY }
  return {
    protocolVersion := pub.protocolVersion
    chainId := pub.chainId
    contractAddress := residue pub.contractAddress
    activeRoot := residue pub.activeRoot
    stateSigningKey
    requestTime := pub.requestTime
    solvencyBound := pub.solvencyBound
    requestNullifier := residue pub.requestNullifier
    authorizationTag := residue pub.authorizationTag
    anonymousCommitment }

/-- `withdrawal_public_from_wire`. -/
def withdrawalPublicFromWire (pub : WithdrawalPublicInputsV2) :
    Except Failure WithdrawalPublic := do
  let stateSigningKey ← pointFromWire { x := pub.stateSigningKeyX, y := pub.stateSigningKeyY }
  let clearanceSigningKey ←
    pointFromWire { x := pub.clearanceSigningKeyX, y := pub.clearanceSigningKeyY }
  return {
    protocolVersion := pub.protocolVersion
    chainId := pub.chainId
    contractAddress := residue pub.contractAddress
    activeRoot := residue pub.activeRoot
    stateSigningKey
    clearanceSigningKey
    noteId := pub.noteId
    finalBalance := pub.finalBalance
    destination := residue pub.destinationField
    withdrawalNullifier := residue pub.withdrawalNullifier
    hasClearance := pub.hasClearance
    withdrawalTag := residue pub.withdrawalTag }

/-- The circuit that a request is proved with. -/
def requestCircuit (pub : RequestPublicInputsV2) (witness : RequestWitnessData) :
    Except Failure (RequestPublic × RequestWitness) := do
  let decoded ← requestPublicFromWire pub
  let stateSignature ← signatureFromWire (witness.stateSignature.getD .IDENTITY)
  return (decoded,
    { secret := residue witness.secret
      requestContext := residue witness.requestContext
      noteId := witness.noteId
      depositAmount := witness.depositAmount
      expiry := witness.expiry
      merkleSiblings := fun level => residue (witness.merkleSiblings level)
      currentBalance := witness.currentBalance
      currentBlinding := scalar witness.currentBlinding
      rerandomization := scalar witness.rerandomization
      currentAnchor := residue witness.currentAnchor
      isGenesis := witness.isGenesis
      stateSignature })

/-- The circuit that a withdrawal is proved with. -/
def withdrawalCircuit (pub : WithdrawalPublicInputsV2) (witness : WithdrawalWitnessData) :
    Except Failure (WithdrawalPublic × WithdrawalWitness) := do
  let decoded ← withdrawalPublicFromWire pub
  let stateSignature ← signatureFromWire (witness.stateSignature.getD .IDENTITY)
  let clearanceSignature ← signatureFromWire (witness.clearanceSignature.getD .IDENTITY)
  return (decoded,
    { secret := residue witness.secret
      depositAmount := witness.depositAmount
      expiry := witness.expiry
      merkleSiblings := fun level => residue (witness.merkleSiblings level)
      finalBlinding := scalar witness.finalBlinding
      currentAnchor := residue witness.currentAnchor
      isGenesis := witness.isGenesis
      stateSignature
      clearanceSignature })

/-- `validate_witness`. -/
def validateWitness (satisfied : Prop) [Decidable satisfied] : Except Failure Unit :=
  if satisfied then .ok ()
  else .error (.message "private state does not satisfy the note-bound circuit")

/-- The checks of `RequestProver::prove`. -/
def validateRequest (pub : RequestPublicInputsV2) (witness : RequestWitnessData) :
    Except Failure Unit := do
  let (decoded, w) ← requestCircuit pub witness
  validateWitness (RequestConstraints decoded.toFieldElements (w.assignment decoded))

/-- `RequestProver::prove`, for the result of the Groth16 prover. -/
def proveRequest (pub : RequestPublicInputsV2) (witness : RequestWitnessData)
    (proved : Except Failure Groth16ProofWire) : Except Failure Groth16ProofWire := do
  validateRequest pub witness
  proved

/-- The checks of `WithdrawalProver::prove`. -/
def validateWithdrawal (pub : WithdrawalPublicInputsV2) (witness : WithdrawalWitnessData) :
    Except Failure Unit := do
  let (decoded, w) ← withdrawalCircuit pub witness
  validateWitness (WithdrawalConstraints decoded.toFieldElements (w.assignment decoded))

/-- `WithdrawalProver::prove`, for the result of the Groth16 prover. -/
def proveWithdrawal (pub : WithdrawalPublicInputsV2) (witness : WithdrawalWitnessData)
    (proved : Except Failure Groth16ProofWire) : Except Failure Groth16ProofWire := do
  validateWithdrawal pub witness
  proved

/-! ### What the operations compute -/

@[simp]
theorem scalar_scalarToFelt (value : EdwardsScalarField) :
  scalar (scalarToFelt value) = value
  := by
  have hlt : value.val < 2 ^ 256 := (ZMod.val_lt value).trans (by decide)
  rw [scalar, scalarToFelt, BitVec.toNat_ofNat, Nat.mod_eq_of_lt hlt, ZMod.natCast_zmod_val]

theorem canonical_scalarToFelt (value : EdwardsScalarField) :
  (scalarToFelt value).Canonical
  := by
  have hlt : value.val < subgroupOrder := ZMod.val_lt value
  have horder : subgroupOrder < fieldModulus := by decide
  have hp : fieldModulus < 2 ^ 256 := by decide
  rw [Felt252.Canonical, scalarToFelt, BitVec.toNat_ofNat, Nat.mod_eq_of_lt (by omega)]
  omega

theorem canonical_word (x : Fr) :
  Felt252.Canonical (word x)
  := by
  rw [Felt252.Canonical, word_toNat]
  apply val_lt

/-- A point of the subgroup is decoded from what it is encoded to. -/
theorem pointFromWire_pointToWire {P : EdwardsAffine} (hP : P ∈ primeSubgroup) :
  pointFromWire (pointToWire P) = .ok P
  := by
  have hcurve : Edwards.OnCurve coeffD (residue (pointToWire P).x) (residue (pointToWire P).y) := by
    rw [pointToWire, residue_word, residue_word]
    apply P.onCurve
  have hsame :
      (⟨residue (pointToWire P).x, residue (pointToWire P).y, hcurve⟩ : EdwardsAffine) = P := by
    ext
    · apply residue_word
    · apply residue_word
  rw [pointFromWire, dif_pos hcurve]
  simp only [hsame, if_pos hP]

/-- What is decoded is a point of the subgroup with the coordinates on the wire. -/
theorem pointFromWire_eq_ok {point : CurvePointWire} {P : EdwardsAffine} :
  pointFromWire point = .ok P
    ↔ P ∈ primeSubgroup ∧ P.x = residue point.x ∧ P.y = residue point.y
  := by
  rw [pointFromWire]
  constructor
  · intro h
    split at h
    · simp only at h
      split at h
      · next hmem =>
        obtain rfl := Except.ok.inj h
        exact ⟨hmem, rfl, rfl⟩
      · cases h
    · cases h
  · rintro ⟨hmem, hx, hy⟩
    have hcurve := P.onCurve
    rw [hx, hy] at hcurve
    have hsame : (⟨residue point.x, residue point.y, hcurve⟩ : EdwardsAffine) = P := by
      ext
      · apply hx.symm
      · apply hy.symm
    rw [dif_pos hcurve]
    simp only [hsame, if_pos hmem]

theorem pointToWire_inj {P Q : EdwardsAffine} :
  pointToWire P = pointToWire Q ↔ P = Q
  := by
  constructor
  · intro h
    rw [pointToWire, pointToWire, CurvePointWire.mk.injEq] at h
    ext
    · rw [← residue_word P.x, h.1, residue_word]
    · rw [← residue_word P.y, h.2, residue_word]
  · rintro rfl
    rfl

/-- The message of a state whose commitment is on the wire. -/
theorem residue_stateMessage (protocolVersion : U16) (chainId : U64)
    (contractAddress : Felt252) (P : EdwardsAffine) (anchor : Felt252) :
  residue (Core.stateMessage protocolVersion chainId contractAddress (pointToWire P).x
      (pointToWire P).y anchor)
    = stateMessage protocolVersion.toNat chainId.toNat (residue contractAddress) P
      (residue anchor)
  := by
  simp only [Core.stateMessage, Core.residue_hashDomain, List.map_cons, List.map_nil, pointToWire,
    residue_word, residue_setWidth (show 16 ≤ 256 by norm_num),
    residue_setWidth (show 64 ≤ 256 by norm_num)]
  rfl

/-- Points of the subgroup are rerandomized without an error. -/
theorem rerandomize_pointToWire {P : EdwardsAffine} (hP : P ∈ primeSubgroup) (ρ : Felt252) :
  rerandomize (pointToWire P) ρ = .ok (pointToWire (rerandomizeCommitment P (scalar ρ)))
  := by
  rw [rerandomize, pointFromWire_pointToWire hP]
  rfl

/-- Points of the subgroup are updated without an error. -/
theorem serverUpdate_pointToWire {P : EdwardsAffine} (hP : P ∈ primeSubgroup) (charge : U128)
    (δ : Felt252) :
  serverUpdate (pointToWire P) charge δ
    = .ok (pointToWire (ZkApi.serverUpdate P charge (scalar δ)))
  := by
  rw [serverUpdate, pointFromWire_pointToWire hP]
  rfl

/-! ### Chains of updates -/

/-- Two words stand for one scalar. -/
theorem scalar_eq_iff {a b : Felt252} :
  scalar a = scalar b ↔ a.toNat ≡ b.toNat [MOD subgroupOrder]
  := ZMod.natCast_eq_natCast_iff _ _ _

theorem scalar_addBlindings (left right : Felt252) :
  scalar (addBlindings left right) = scalar left + scalar right
  := scalar_scalarToFelt _

/-- An update of a commitment: the client rerandomizes it, and the server takes a charge and
blinds it again. -/
structure Update where
  rerandomization : Felt252
  charge : U128
  blindDelta : Felt252

namespace Update

/-- `server_update` of the rerandomized commitment. -/
def run (commitment : CurvePointWire) (u : Update) : Except Failure CurvePointWire := do
  let anonymous ← rerandomize commitment u.rerandomization
  serverUpdate anonymous u.charge u.blindDelta

/-- The blinding after the update. -/
def nextBlinding (blinding : Felt252) (u : Update) : Felt252 :=
  addBlindings (addBlindings blinding u.rerandomization) u.blindDelta

/-- Updates that differ at most in the words that their scalars are written as. -/
structure Congruent (u u' : Update) : Prop where
  charge : u.charge = u'.charge
  rerandomization : u.rerandomization.toNat ≡ u'.rerandomization.toNat [MOD subgroupOrder]
  blindDelta : u.blindDelta.toNat ≡ u'.blindDelta.toNat [MOD subgroupOrder]

theorem scalar_nextBlinding (blinding : Felt252) (u : Update) :
  scalar (u.nextBlinding blinding)
    = scalar blinding + scalar u.rerandomization + scalar u.blindDelta
  := by
  rw [nextBlinding, scalar_addBlindings, scalar_addBlindings]

/-- One update of a commitment that opens to enough balance. -/
theorem run_balanceCommitment {u : Update} {balance : U128} (blinding leaf : Felt252)
    (h : u.charge.toNat ≤ balance.toNat) :
  u.run (balanceCommitment balance blinding leaf)
    = .ok (balanceCommitment (balance - u.charge) (u.nextBlinding blinding) leaf)
  := by
  have hmem := balanceCommitment_mem balance (scalar blinding) (residue leaf)
  have hrerandomize := rerandomize_pointToWire hmem u.rerandomization
  have hupdate := serverUpdate_pointToWire
    (rerandomizeCommitment_mem hmem (scalar u.rerandomization)) u.charge u.blindDelta
  rw [serverUpdate_rerandomize _ _ _ _ _ _ h, ← scalar_nextBlinding] at hupdate
  rw [run, balanceCommitment, hrerandomize]
  apply hupdate

theorem Congruent.run_eq {u u' : Update} (h : u.Congruent u') (commitment : CurvePointWire) :
  u'.run commitment = u.run commitment
  := by
  have hrerandomization := scalar_eq_iff.mpr h.rerandomization
  have hblindDelta := scalar_eq_iff.mpr h.blindDelta
  simp only [run, rerandomize, serverUpdate, hrerandomization, hblindDelta, h.charge]

end Update

/-- Updates of a commitment, one after the other. -/
def updateChain (commitment : CurvePointWire) (updates : List Update) :
    Except Failure CurvePointWire :=
  updates.foldlM Update.run commitment

/-- All that is charged by a list of updates. -/
def totalCharge (updates : List Update) : ℕ :=
  (updates.map fun u => u.charge.toNat).sum

theorem updateChain_cons {commitment commitment' : CurvePointWire} {u : Update}
    (updates : List Update) (h : u.run commitment = .ok commitment') :
  updateChain commitment (u :: updates) = updateChain commitment' updates
  := by
  rw [updateChain, List.foldlM_cons, h]
  rfl

theorem updateChain_balanceCommitment {updates : List Update} {balance : U128}
    (blinding leaf : Felt252) (h : totalCharge updates ≤ balance.toNat) :
  updateChain (balanceCommitment balance blinding leaf) updates
    = .ok (balanceCommitment (BitVec.ofNat 128 (balance.toNat - totalCharge updates))
        (updates.foldl Update.nextBlinding blinding) leaf)
  := by
  induction updates generalizing balance blinding with
  | nil =>
    have hsame : BitVec.ofNat 128 (balance.toNat - totalCharge []) = balance := by
      rw [totalCharge, List.map_nil, List.sum_nil, Nat.sub_zero, BitVec.ofNat_toNat,
        BitVec.setWidth_eq]
    rw [hsame]
    rfl
  | cons u updates ih =>
    have hsplit : totalCharge (u :: updates) = u.charge.toNat + totalCharge updates := by
      rw [totalCharge, List.map_cons, List.sum_cons, totalCharge]
    rw [hsplit] at h
    have hle : u.charge.toNat ≤ balance.toNat := by omega
    have hrest : (balance - u.charge).toNat = balance.toNat - u.charge.toNat :=
      BitVec.toNat_sub_of_le (BitVec.le_def.mpr hle)
    rw [updateChain_cons _ (Update.run_balanceCommitment blinding leaf hle),
      ih _ (by omega), hrest, Nat.sub_sub, ← hsplit, List.foldl_cons]

/-- The words that scalars are written as do not matter. -/
theorem updateChain_congr {updates updates' : List Update}
    (h : List.Forall₂ Update.Congruent updates updates') (commitment : CurvePointWire) :
  updateChain commitment updates' = updateChain commitment updates
  := by
  induction h generalizing commitment with
  | nil => rfl
  | cons hu _ ih =>
    rw [updateChain, List.foldlM_cons, hu.run_eq, updateChain, List.foldlM_cons]
    congr 1
    funext next
    apply ih

/-- Any chain of updates that charges no more than the balance goes through, and ends with the
commitment to what is left of the balance, under the blinding that is folded over the same
scalars.  It is the same for all words that stand for the same scalars, and it is decoded and
encoded again as it is. -/
theorem commitment_chain (balance : U128) (blinding leaf : Felt252) (updates : List Update)
    (h : totalCharge updates ≤ balance.toNat) :
  updateChain (balanceCommitment balance blinding leaf) updates
      = .ok (balanceCommitment (BitVec.ofNat 128 (balance.toNat - totalCharge updates))
          (updates.foldl Update.nextBlinding blinding) leaf)
    ∧ (∀ blinding' updates', blinding.toNat ≡ blinding'.toNat [MOD subgroupOrder] →
      List.Forall₂ Update.Congruent updates updates' →
      updateChain (balanceCommitment balance blinding' leaf) updates'
        = updateChain (balanceCommitment balance blinding leaf) updates)
    ∧ ∀ commitment,
      updateChain (balanceCommitment balance blinding leaf) updates = .ok commitment →
      ∃ P ∈ primeSubgroup, pointFromWire commitment = .ok P ∧ pointToWire P = commitment
  := by
  have hchain := updateChain_balanceCommitment blinding leaf h
  constructor
  · apply hchain
  constructor
  · intro blinding' updates' hblinding hupdates
    rw [updateChain_congr hupdates, balanceCommitment, ← scalar_eq_iff.mpr hblinding,
      balanceCommitment]
  · intro commitment hcommitment
    rw [hchain] at hcommitment
    obtain rfl := Except.ok.inj hcommitment
    have hmem := balanceCommitment_mem
      (BitVec.ofNat 128 (balance.toNat - totalCharge updates))
      (scalar (updates.foldl Update.nextBlinding blinding)) (residue leaf)
    exact ⟨_, hmem, pointFromWire_pointToWire hmem, rfl⟩

/-- Two updates that charge three and four units of ten. -/
theorem commitment_chain_two :
  updateChain (balanceCommitment 10 5 7)
      [{ rerandomization := 1, charge := 3, blindDelta := 2 },
        { rerandomization := 3, charge := 4, blindDelta := 4 }]
    = .ok (balanceCommitment 3 15 7)
  := by
  have hblinding : [{ rerandomization := 1, charge := 3, blindDelta := 2 },
      { rerandomization := 3, charge := 4, blindDelta := 4 }].foldl Update.nextBlinding 5
      = 15 := by decide +kernel
  rw [← hblinding]
  apply (commitment_chain 10 5 7 _ (by decide)).1

end ZkApi.Compact
