import ZkApi.Types.Wire

/-!
# The Stark field, its hashes and commitments

The first version of the protocol hashes and signs over the Stark field.  The Poseidon hash
`poseidon_hash_many` and the arithmetic of the Stark curve come from other crates and are
parameters; the functions of the repository are built over them.
-/

namespace ZkApi.Stark

/-! ### The field -/

/-- The modulus of the field. -/
def fieldPrime : ℕ :=
  2 ^ 251 + 17 * 2 ^ 192 + 1

instance : NeZero fieldPrime where
  out := by norm_num [fieldPrime]

/-- A field element. -/
abbrev Felt : Type :=
  Fin fieldPrime

/-- `felt_to_field`. -/
def feltToField (f : Felt252) : Felt where
  val := f.toNat % fieldPrime
  isLt := Nat.mod_lt _ (by norm_num [fieldPrime])

/-- `field_to_felt`. -/
def fieldToFelt (f : Felt) : Felt252 :=
  BitVec.ofNat 256 f.val

/-- The Stark field is smaller than the scalar field of BN254, so its elements can be read
back from JSON. -/
theorem canonical_fieldToFelt (f : Felt) :
  (fieldToFelt f).Canonical
  := by
  have hprime : fieldPrime < fieldModulus := by norm_num [fieldPrime, fieldModulus]
  have hword : fieldPrime < 2 ^ 256 := by norm_num [fieldPrime]
  rw [Felt252.Canonical, fieldToFelt, BitVec.toNat_ofNat,
    Nat.mod_eq_of_lt (Nat.lt_trans f.isLt hword)]
  apply Nat.lt_trans f.isLt hprime

/-- `domain_felt`. -/
def domainFelt (label : String) : Felt252 :=
  BitVec.ofNat 256 (Digits.ofDigits 256 ((Felt252.utf8 label.toList).map UInt8.toNat))

/-! ### Parameters -/

/-- The points of the Stark curve. -/
structure Curve where
  Point : Type
  identity : Point
  add : Point → Point → Point
  neg : Point → Point
  fromAffine : Felt → Felt → Option Point
  toAffine : Point → Option (Felt × Felt)

section

variable (poseidonHashMany : List Felt → Felt)

/-- `poseidon_hash`. -/
def poseidonHash (domain a b : Felt252) : Felt252 :=
  fieldToFelt (poseidonHashMany [feltToField domain, feltToField a, feltToField b])

/-- `poseidon_hash_chain`. -/
def poseidonHashChain (domain : Felt252) (inputs : List Felt252) : Felt252 :=
  fieldToFelt (poseidonHashMany (feltToField domain :: inputs.map feltToField))

/-! ### Messages, anchors and blinding -/

/-- `compute_state_message`. -/
def computeStateMessage (protocolVersion : U16) (chainId : U64)
    (contractAddress commitmentX commitmentY anchor : Felt252) : Felt252 :=
  poseidonHashChain poseidonHashMany (domainFelt "zkapi.state")
    [protocolVersion.setWidth 256, chainId.setWidth 256, contractAddress, commitmentX,
      commitmentY, anchor]

/-- `compute_clearance_message`. -/
def computeClearanceMessage (protocolVersion : U16) (chainId : U64)
    (contractAddress withdrawalNullifier : Felt252) : Felt252 :=
  poseidonHashChain poseidonHashMany (domainFelt "zkapi.clear")
    [protocolVersion.setWidth 256, chainId.setWidth 256, contractAddress, withdrawalNullifier]

/-- `compute_next_anchor`. -/
def computeNextAnchor (serverRng requestNullifier nextCommitmentX nextCommitmentY : Felt252)
    (stateSigLeafIndex : U32) : Felt252 :=
  poseidonHashChain poseidonHashMany (domainFelt "zkapi.anchor")
    [serverRng, requestNullifier, nextCommitmentX, nextCommitmentY,
      stateSigLeafIndex.setWidth 256]

/-- `compute_blind_delta`. -/
def computeBlindDelta (serverRng requestNullifier : Felt252) (stateSigLeafIndex : U32) : Felt252 :=
  poseidonHashChain poseidonHashMany (domainFelt "zkapi.blind")
    [serverRng, requestNullifier, stateSigLeafIndex.setWidth 256]

theorem canonical_computeNextAnchor (serverRng requestNullifier x y : Felt252) (index : U32) :
  (computeNextAnchor poseidonHashMany serverRng requestNullifier x y index).Canonical
  := canonical_fieldToFelt _

theorem canonical_computeBlindDelta (serverRng requestNullifier : Felt252) (index : U32) :
  (computeBlindDelta poseidonHashMany serverRng requestNullifier index).Canonical
  := canonical_fieldToFelt _

end

/-! ### Pedersen commitments -/

section

variable (curve : Curve)

/-- The loop of `scalar_mul`, over the bits that are left. -/
def scalarMulBits : List Bool → curve.Point → curve.Point → curve.Point
  | [], result, _ => result
  | bit :: bits, result, temp =>
      scalarMulBits bits (if bit then curve.add result temp else result) (curve.add temp temp)

/-- `scalar_mul`. -/
def scalarMul (point : curve.Point) (scalar : Felt) : curve.Point :=
  scalarMulBits curve ((List.range 256).map scalar.val.testBit) curve.identity point

/-- A generator that a constant of the source gives by its coordinates. -/
def generator (x y : ℕ) : Option curve.Point :=
  curve.fromAffine (feltToField (BitVec.ofNat 256 x)) (feltToField (BitVec.ofNat 256 y))

def G_BALANCE : Option curve.Point :=
  generator curve 0x02e60e3230fe061dbebac8fd2cfa503e4eb92783aeb5fd6fb931a66ee277e4d3
    0x039289536a4fb4c04778f51eed313db47730cf86d342fd3f80f27bed1c2febac

def H_BLIND : Option curve.Point :=
  generator curve 0x009ed31288dc3e29f8759144b455aa05f39eee1a947e92fc1a9d71d15ed49faa
    0x073853a56a47d4dbeaf5c18ca78fbf64f414d5fccefaac0227d5c2654d2ca9b4

/-- `server_update`.  A constant off the curve is a panic. -/
def serverUpdate (anonCommitment : curve.Point) (charge : U128) (blindDelta : Felt) :
    Option curve.Point := do
  let deltaG := scalarMul curve (← G_BALANCE curve) (feltToField (charge.setWidth 256))
  let blindH := scalarMul curve (← H_BLIND curve) blindDelta
  some (curve.add (curve.add anonCommitment (curve.neg deltaG)) blindH)

end

end ZkApi.Stark
