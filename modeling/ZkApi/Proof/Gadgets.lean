import ZkApi.Proof.Native

/-!
# Gadgets

The relations that the gadgets of the circuits enforce between the values of the wires.  An
integer of `n` bits is a bit vector, its bits being the wires; a point is a pair of wires
that satisfies the curve equation; and a point that is allocated as a witness is in the
subgroup of prime order.  `scalarMulLe` is the multiplication of a point by a list of bits,
the least significant first.
-/

namespace ZkApi

open Poseidon

/-! ### Bits -/

/-- The `n` low bits of a number, the least significant first. -/
def bitsLe (n value : ℕ) : List Bool :=
  (List.range n).map value.testBit

/-- The canonical bits of a field element. -/
def toBitsLe (x : Fr) : List Bool :=
  bitsLe 254 x.val

/-- The bits of an integer. -/
def uintBits {w : ℕ} (x : BitVec w) : List Bool :=
  bitsLe w x.toNat

/-- Multiplication by a list of bits: the sum of the doublings at which there is a one. -/
def scalarMulLe (P : EdwardsAffine) : List Bool → EdwardsAffine
  | [] => 0
  | b :: bits => (if b then P else 0) + scalarMulLe (P + P) bits

theorem bitsLe_succ (n value : ℕ) :
  bitsLe (n + 1) value = value.testBit 0 :: bitsLe n (value / 2)
  := by
  rw [bitsLe, List.range_succ_eq_map, List.map_cons, List.map_map, bitsLe]
  congr 1
  apply List.map_congr_left
  intro i _
  rw [Function.comp_apply, Nat.testBit_succ]

/-- Multiplication by the bits of a number is multiplication by the number. -/
theorem scalarMulLe_bitsLe (P : EdwardsAffine) :
  ∀ n value, value < 2 ^ n → scalarMulLe P (bitsLe n value) = value • P
  | 0, value, h => by
      obtain rfl : value = 0 := by omega
      rw [zero_smul]
      rfl
  | n + 1, value, h => by
      have hhalf : value / 2 < 2 ^ n := by omega
      have hvalue : value % 2 + (value / 2) * 2 = value := by omega
      rw [bitsLe_succ, scalarMulLe, scalarMulLe_bitsLe (P + P) n (value / 2) hhalf, ← two_smul ℕ P,
        ← mul_smul]
      conv_rhs => rw [← hvalue, add_smul]
      congr 1
      rw [Nat.testBit_zero]
      rcases Nat.mod_two_eq_zero_or_one value with h0 | h1
      · simp [h0]
      · simp [h1]

theorem scalarMulLe_uintBits (P : EdwardsAffine) {w : ℕ} (x : BitVec w) :
  scalarMulLe P (uintBits x) = x.toNat • P
  := scalarMulLe_bitsLe P w x.toNat x.isLt

theorem scalarMulLe_toBitsLe (P : EdwardsAffine) (x : Fr) :
  scalarMulLe P (toBitsLe x) = x.val • P
  := by
  apply scalarMulLe_bitsLe
  apply (ZMod.val_lt x).trans
  decide

/-! ### Scalars as bits -/

/-- The bits of a scalar that is allocated as a witness, which are not compared with the
order of the subgroup. -/
abbrev ScalarBits : Type := BitVec 251

/-- The bits that an honest prover assigns, `scalar_bits_witness`. -/
def scalarBitsWitness (value : EdwardsScalarField) : ScalarBits :=
  BitVec.ofNat 251 value.val

/-- The scalar that bits stand for. -/
def bitsScalar (bits : ScalarBits) : EdwardsScalarField :=
  (bits.toNat : EdwardsScalarField)

theorem toNat_scalarBitsWitness (value : EdwardsScalarField) :
  (scalarBitsWitness value).toNat = value.val
  := by
  have hlt : subgroupOrder < 2 ^ 251 := by decide
  rw [scalarBitsWitness, BitVec.toNat_ofNat, Nat.mod_eq_of_lt ((ZMod.val_lt value).trans hlt)]

theorem bitsScalar_scalarBitsWitness (value : EdwardsScalarField) :
  bitsScalar (scalarBitsWitness value) = value
  := by
  rw [bitsScalar, toNat_scalarBitsWitness, ZMod.natCast_zmod_val]

/-- Bits multiply a point of the subgroup as the scalar that they stand for. -/
theorem scalarMulLe_bitsScalar {P : EdwardsAffine} (hP : P ∈ primeSubgroup)
    (bits : ScalarBits) :
  scalarMulLe P (uintBits bits) = (bitsScalar bits).val • P
  := by
  rw [scalarMulLe_uintBits, bitsScalar, val_natCast_smul hP]

/-! ### Commitments -/

/-- `commitment_var`. -/
def commitmentVar (balance : U128) (blindingBits : ScalarBits) (leaf : Fr) : EdwardsAffine :=
  scalarMulLe generator (uintBits balance)
    + scalarMulLe balanceBlindingGenerator (uintBits blindingBits)
    + scalarMulLe noteBindingGenerator (toBitsLe leaf)

theorem commitmentVar_eq (balance : U128) (blindingBits : ScalarBits) (leaf : Fr) :
  commitmentVar balance blindingBits leaf
    = balanceCommitment balance (bitsScalar blindingBits) leaf
  := by
  rw [commitmentVar, balanceCommitment, scalarMulLe_uintBits,
    scalarMulLe_bitsScalar balanceBlindingGenerator_mem, scalarMulLe_toBitsLe, val_balance]

/-! ### Signatures -/

/-- The wires of a signature. -/
structure SignatureVar where
  r : EdwardsAffine
  sBits : ScalarBits

/-- `enforce_signature`. -/
structure EnforceSignature (publicKey : EdwardsAffine) (message : Fr) (signature : SignatureVar)
    (condition : Bool) : Prop where
  r_mem : signature.r ∈ primeSubgroup
  equal : condition = true →
    scalarMulLe generator (uintBits signature.sBits)
      = signature.r
        + scalarMulLe publicKey (toBitsLe (challengeHash signature.r message))

/-- The wires that an honest prover assigns to a signature. -/
def signatureWitness (signature : StateSignature) : SignatureVar where
  r := signature.r
  sBits := scalarBitsWitness signature.s

/-- The unreduced challenge multiplies a key of the subgroup as the challenge does. -/
theorem scalarMulLe_challengeHash {publicKey : EdwardsAffine}
    (hkey : publicKey ∈ primeSubgroup) (r : EdwardsAffine) (message : Fr) :
  scalarMulLe publicKey (toBitsLe (challengeHash r message))
    = (signatureChallenge r message).val • publicKey
  := by
  rw [scalarMulLe_toBitsLe, signatureChallenge, val_natCast_smul hkey]

theorem EnforceSignature.verify {publicKey : EdwardsAffine} {message : Fr}
    {signature : SignatureVar} {condition : Bool} (hkey : publicKey ∈ primeSubgroup)
    (h : EnforceSignature publicKey message signature condition) (hcondition : condition = true) :
  verifyStateSignature publicKey message
    { r := signature.r, s := bitsScalar signature.sBits }
  := by
  have hequal := h.equal hcondition
  rw [scalarMulLe_bitsScalar generator_mem, scalarMulLe_challengeHash hkey] at hequal
  apply hequal

theorem EnforceSignature.of_verify {publicKey : EdwardsAffine} {message : Fr}
    {signature : StateSignature} {condition : Bool} (hkey : publicKey ∈ primeSubgroup)
    (hr : signature.r ∈ primeSubgroup)
    (h : condition = true → verifyStateSignature publicKey message signature) :
  EnforceSignature publicKey message (signatureWitness signature) condition
  where
  r_mem := hr
  equal := by
    intro hcondition
    rw [scalarMulLe_bitsScalar generator_mem, scalarMulLe_challengeHash hkey, signatureWitness,
      bitsScalar_scalarBitsWitness]
    apply h hcondition

/-- The constraints of a signature can be satisfied exactly when the condition is false or
there is a signature that verifies. -/
theorem exists_enforceSignature {publicKey : EdwardsAffine} {message : Fr} {condition : Bool}
    (hkey : publicKey ∈ primeSubgroup) :
  (∃ signature, EnforceSignature publicKey message signature condition)
    ↔ (condition = true → ∃ signature, verifyStateSignature publicKey message signature)
  := by
  constructor
  · rintro ⟨signature, h⟩ hcondition
    use { r := signature.r, s := bitsScalar signature.sBits }
    apply h.verify hkey hcondition
  · intro h
    cases condition with
    | false =>
      use signatureWitness { r := 0, s := 0 }
      apply EnforceSignature.of_verify hkey
      · apply primeSubgroup.zero_mem
      · intro hfalse
        cases hfalse
    | true =>
      obtain ⟨signature, hverify⟩ := h rfl
      use signatureWitness signature
      apply EnforceSignature.of_verify hkey (verifyStateSignature_mem hkey hverify)
      intro _
      apply hverify

/-! ### Membership of a note -/

/-- The leaf that both circuits compute from the secret and the data of a note. -/
def leafVar (noteId : U32) (secret : Fr) (depositAmount : U128) (expiry : U64) : Fr :=
  let registration := poseidonHash [domain "zkapi.v2.reg", secret, 0]
  poseidonHash
    [domain "zkapi.v2.leaf", noteId.toNat, registration, depositAmount.toNat, expiry.toNat]

/-- The root that both circuits compute, with the children selected by the bits of the
index. -/
def rootVar (noteId : U32) (leaf : Fr) (siblings : Fin 32 → Fr) : Fr :=
  (List.finRange 32).foldl
    (fun current level =>
      let bit := noteId.toNat.testBit level.val
      let left := if bit then siblings level else current
      let right := if bit then current else siblings level
      poseidonHash [domain "zkapi.v2.node", left, right])
    leaf

theorem leafVar_eq (noteId : U32) (secret : Fr) (depositAmount : U128) (expiry : U64) :
  leafVar noteId secret depositAmount expiry
    = noteLeaf noteId (registrationCommitment secret) depositAmount expiry
  := rfl

theorem rootVar_eq (noteId : U32) (leaf : Fr) (siblings : Fin 32 → Fr) :
  rootVar noteId leaf siblings = merkleRoot noteId leaf siblings
  := by
  rw [merkleRoot_eq_climb, ← SparseMerkle.foldl_finRange, rootVar]
  congr 1
  funext current level
  cases noteId.toNat.testBit level.val
  · simp only [Bool.false_eq_true, if_false, merkleNode]
  · simp only [if_true, merkleNode]

end ZkApi
