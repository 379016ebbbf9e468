import ZkApi.Proof.Compact

/-!
# Signing keys

A signing key signs with a fresh nonce.  What it signs is accepted by the native verification,
which reduces the challenge to a scalar, and satisfies the constraints of the circuits, which
multiply by the bits of the unreduced challenge and by any bits in place of the scalar.  That
these are the same condition is a matter of the order of the subgroup.
-/

namespace ZkApi

/-! ### Keys -/

/-- A signing key. -/
structure StateSigningKey where
  secret : EdwardsScalarField
  publicKey : EdwardsAffine

namespace StateSigningKey

/-- `from_secret`.  The zero secret is replaced. -/
def fromSecret (secret : EdwardsScalarField) : StateSigningKey :=
  let secret := if secret = 0 then 1 else secret
  { secret, publicKey := secret.val • generator }

/-- `sign`, with the nonce that is drawn. -/
def sign (key : StateSigningKey) (message : Fr) (nonce : EdwardsScalarField) : StateSignature :=
  let r := nonce.val • generator
  let challenge := signatureChallenge r message
  { r, s := nonce + challenge * key.secret }

end StateSigningKey

namespace Compact

/-- `signature_to_wire`. -/
def signatureToWire (signature : StateSignature) : SchnorrSignature :=
  let point := pointToWire signature.r
  { rX := point.x
    rY := point.y
    s := scalarToFelt signature.s }

/-- A signer. -/
structure CompactSigner where
  key : StateSigningKey

namespace CompactSigner

/-- `from_seed`. -/
def fromSeed (seed : Felt252) : CompactSigner where
  key := .fromSecret (scalar seed)

/-- `public_key`. -/
def publicKey (signer : CompactSigner) : CurvePointWire :=
  pointToWire signer.key.publicKey

/-- `sign`, with the nonce that is drawn. -/
def sign (signer : CompactSigner) (message : Felt252) (nonce : EdwardsScalarField) :
    SchnorrSignature :=
  signatureToWire (signer.key.sign (residue message) nonce)

/-- `verify`. -/
def verify (signer : CompactSigner) (message : Felt252) (signature : SchnorrSignature) :
    Except Failure Bool := do
  let decoded ← signatureFromWire signature
  return decide (verifyStateSignature signer.key.publicKey (residue message) decoded)

end CompactSigner

end Compact

/-! ### Constraints and verification -/

section

variable {publicKey r : EdwardsAffine} {message : Fr} {condition : Bool}

/-- Bits satisfy the constraints where the scalar that they stand for verifies. -/
theorem enforceSignature_bits (hkey : publicKey ∈ primeSubgroup) (hr : r ∈ primeSubgroup)
    (sBits : ScalarBits) :
  EnforceSignature publicKey message { r, sBits } condition
    ↔ condition = false ∨ verifyStateSignature publicKey message { r, s := bitsScalar sBits }
  := by
  rw [← Bool.not_eq_true, ← imp_iff_not_or]
  constructor
  · intro h
    apply h.verify hkey
  · intro hverify
    constructor
    case r_mem => exact hr
    case equal =>
      intro hcondition
      rw [scalarMulLe_bitsScalar generator_mem, scalarMulLe_challengeHash hkey]
      apply hverify hcondition

/-- The bits of a scalar satisfy the constraints where it verifies. -/
theorem enforceSignature_scalar (hkey : publicKey ∈ primeSubgroup) (hr : r ∈ primeSubgroup)
    (s : EdwardsScalarField) :
  EnforceSignature publicKey message (signatureWitness { r, s }) condition
    ↔ condition = false ∨ verifyStateSignature publicKey message { r, s }
  := by
  rw [signatureWitness, enforceSignature_bits hkey hr, bitsScalar_scalarBitsWitness]

/-- The constraints can be satisfied with a nonce point where some scalar verifies. -/
theorem exists_enforceSignature_nonce (hkey : publicKey ∈ primeSubgroup)
    (hr : r ∈ primeSubgroup) :
  (∃ sBits, EnforceSignature publicKey message { r, sBits } condition)
    ↔ condition = false ∨ ∃ s, verifyStateSignature publicKey message { r, s }
  := by
  constructor
  · rintro ⟨sBits, h⟩
    apply ((enforceSignature_bits hkey hr sBits).mp h).imp_right
    intro hverify
    exact ⟨_, hverify⟩
  · rintro (hfalse | ⟨s, hverify⟩)
    · exact ⟨0, (enforceSignature_bits hkey hr 0).mpr (.inl hfalse)⟩
    · exact ⟨_, (enforceSignature_scalar hkey hr s).mpr (.inr hverify)⟩

end

/-! ### What is signed -/

namespace StateSigningKey

/-- A key whose public part is that of its secret. -/
def Sound (key : StateSigningKey) : Prop :=
  key.publicKey = key.secret.val • generator

theorem sound_fromSecret (secret : EdwardsScalarField) :
  (fromSecret secret).Sound
  := rfl

variable {key : StateSigningKey}

theorem Sound.publicKey_mem (h : key.Sound) :
  key.publicKey ∈ primeSubgroup
  := by
  rw [h]
  apply nsmul_mem_primeSubgroup generator_mem

theorem sign_r_mem (message : Fr) (nonce : EdwardsScalarField) :
  (key.sign message nonce).r ∈ primeSubgroup
  := nsmul_mem_primeSubgroup generator_mem _

/-- What a key signs is verified by its public part. -/
theorem Sound.verify_sign (h : key.Sound) (message : Fr) (nonce : EdwardsScalarField) :
  verifyStateSignature key.publicKey message (key.sign message nonce)
  := by
  have hproduct : ∀ challenge : EdwardsScalarField,
      (challenge * key.secret).val • generator = challenge.val • key.secret.val • generator := by
    intro challenge
    rw [← mul_smul]
    apply smul_eq_of_natCast_eq generator_mem
    rw [Nat.cast_mul, ZMod.natCast_zmod_val, ZMod.natCast_zmod_val, ZMod.natCast_zmod_val]
  rw [verifyStateSignature, h, sign, val_add_smul generator_mem, hproduct]

end StateSigningKey

namespace Compact

/-- A signature with a nonce point of the subgroup survives the wire. -/
theorem signatureFromWire_signatureToWire {signature : StateSignature}
    (hr : signature.r ∈ primeSubgroup) :
  signatureFromWire (signatureToWire signature) = .ok signature
  := by
  have hpoint := pointFromWire_pointToWire hr
  rw [signatureFromWire, signatureToWire]
  dsimp only
  rw [hpoint, scalar_scalarToFelt]
  rfl

/-- A signer verifies what it has signed. -/
theorem CompactSigner.verify_sign (seed message : Felt252) (nonce : EdwardsScalarField) :
  (fromSeed seed).verify message ((fromSeed seed).sign message nonce) = .ok true
  := by
  have hverify := (StateSigningKey.sound_fromSecret (scalar seed)).verify_sign (residue message)
    nonce
  rw [verify, sign, signatureFromWire_signatureToWire (StateSigningKey.sign_r_mem _ _)]
  apply congrArg Except.ok (decide_eq_true hverify)

end Compact

/-- The constraints of a signature and its native verification coincide.  For a key and a nonce
point of the subgroup, some bits satisfy the constraints if and only if the condition is false
or some scalar verifies; bits satisfy them with the scalar that they stand for; and a scalar
verifies with its own bits.  What a signer signs, with any seed and any nonce, survives the
wire, verifies, and satisfies the constraints. -/
theorem signature_coincides :
  (∀ publicKey r message condition, publicKey ∈ primeSubgroup → r ∈ primeSubgroup →
    ((∃ sBits, EnforceSignature publicKey message { r, sBits } condition)
      ↔ condition = false ∨ ∃ s, verifyStateSignature publicKey message { r, s })
    ∧ (∀ sBits, EnforceSignature publicKey message { r, sBits } condition
      ↔ condition = false ∨ verifyStateSignature publicKey message { r, s := bitsScalar sBits })
    ∧ ∀ s, EnforceSignature publicKey message (signatureWitness { r, s }) condition
      ↔ condition = false ∨ verifyStateSignature publicKey message { r, s })
  ∧ ∀ seed message nonce, ∃ key signature,
    Compact.CompactSigner.fromSeed seed = { key }
    ∧ Compact.signatureFromWire (Compact.signatureToWire (key.sign message nonce)) = .ok signature
    ∧ verifyStateSignature key.publicKey message signature
    ∧ ∀ condition, EnforceSignature key.publicKey message (signatureWitness signature) condition
  := by
  constructor
  · intro publicKey r message condition hkey hr
    exact ⟨exists_enforceSignature_nonce hkey hr, enforceSignature_bits hkey hr,
      enforceSignature_scalar hkey hr⟩
  · intro seed message nonce
    have hkey := StateSigningKey.sound_fromSecret (Compact.scalar seed)
    have hr := @StateSigningKey.sign_r_mem (.fromSecret (Compact.scalar seed)) message nonce
    have hverify := hkey.verify_sign message nonce
    refine ⟨_, _, rfl, Compact.signatureFromWire_signatureToWire hr, hverify, ?_⟩
    intro condition
    exact (enforceSignature_scalar hkey.publicKey_mem hr _).mpr (.inr hverify)

/-- Some bits satisfy the constraints with the nonce point of a signature under the key of the
zero seed. -/
theorem signature_coincides_zero :
  ∃ r sBits, EnforceSignature (StateSigningKey.fromSecret (Compact.scalar 0)).publicKey 7
    { r, sBits } true
  := by
  obtain ⟨hcoincides, hsigned⟩ := signature_coincides
  obtain ⟨_, signature, ⟨⟩, _, hverify, henforce⟩ := hsigned 0 7 5
  have hkey := (StateSigningKey.sound_fromSecret (Compact.scalar 0)).publicKey_mem
  obtain ⟨hsome, _⟩ := hcoincides _ signature.r 7 true hkey (henforce true).r_mem
  exact ⟨_, hsome.mpr (.inr ⟨_, hverify⟩)⟩

end ZkApi
