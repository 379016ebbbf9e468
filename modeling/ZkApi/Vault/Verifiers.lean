import Mathlib.Algebra.Module.ZMod
import Mathlib.LinearAlgebra.Dual.Lemmas
import ZkApi.Proof.Verifier
import ZkApi.Vault.Precompiles

/-!
# The verifiers of a deployment agree

The adapter of the vault and the verifiers of the proof crate hold the same keys.  For the same
public inputs they are given the same vector, and they accept the same strings of bytes as a
proof, apart from those in which a point is written as zeros (`verifiers_agree`).
-/

namespace ZkApi

/-! ### Public inputs on the wire and in the vault -/

/-- The public inputs of a request as arguments of the vault. -/
def RequestPublicInputsV2.toVault (p : RequestPublicInputsV2) : Vault.RequestPublicInputs where
  protocolVersion := p.protocolVersion
  chainId := p.chainId
  contractAddress := p.contractAddress.setWidth 160
  activeRoot := p.activeRoot
  stateSigningKeyX := p.stateSigningKeyX
  stateSigningKeyY := p.stateSigningKeyY
  requestTime := p.requestTime
  solvencyBound := p.solvencyBound
  requestNullifier := p.requestNullifier
  authorizationTag := p.authorizationTag
  anonymousCommitmentX := p.anonymousCommitmentX
  anonymousCommitmentY := p.anonymousCommitmentY

/-- The public inputs of a withdrawal as arguments of the vault. -/
def WithdrawalPublicInputsV2.toVault (p : WithdrawalPublicInputsV2) :
    Vault.WithdrawalPublicInputs where
  protocolVersion := p.protocolVersion
  chainId := p.chainId
  contractAddress := p.contractAddress.setWidth 160
  activeRoot := p.activeRoot
  stateSigningKeyX := p.stateSigningKeyX
  stateSigningKeyY := p.stateSigningKeyY
  clearanceSigningKeyX := p.clearanceSigningKeyX
  clearanceSigningKeyY := p.clearanceSigningKeyY
  noteId := p.noteId
  finalBalance := p.finalBalance
  destination := p.destination
  withdrawalNullifier := p.withdrawalNullifier
  hasClearance := p.hasClearance
  withdrawalTag := p.withdrawalTag

theorem setWidth_setWidth_address {x : Felt252} (h : x.toNat < 2 ^ 160) :
  (x.setWidth 160).setWidth 256 = x
  := by
  apply BitVec.eq_of_toNat_eq
  rw [BitVec.toNat_setWidth, BitVec.toNat_setWidth, Nat.mod_eq_of_lt h, Nat.mod_eq_of_lt x.isLt]

/-- The contract lists the same words as the wire type. -/
theorem RequestPublicInputsV2.values_toVault {pub : RequestPublicInputsV2}
    (h : pub.contractAddress.toNat < 2 ^ 160) :
  pub.toVault.values = pub.toFieldElements
  := by
  rw [Vault.RequestPublicInputs.values, toVault, setWidth_setWidth_address h]
  rfl

/-- The contract lists the same words as the wire type. -/
theorem WithdrawalPublicInputsV2.values_toVault {pub : WithdrawalPublicInputsV2}
    (h : pub.contractAddress.toNat < 2 ^ 160) :
  pub.toVault.values = pub.toFieldElements
  := by
  rw [Vault.WithdrawalPublicInputs.values, toVault, setWidth_setWidth_address h]
  rfl

end ZkApi

namespace ZkApi.Vault.Groth16

open Bn254 ShortWeierstrass
open ZkApi.Compact (coordinateAt proofAt SpellsProof VerifyWithProcessedVk Verifies RequestVerifier
  WithdrawalVerifier requestPublicFromWire withdrawalPublicFromWire)

/-! ### Bytes -/

/-- Bytes as the machine has them. -/
def toBytes (bytes : List UInt8) : Bytes :=
  bytes.map UInt8.toBitVec

/-- The contract and the library read the same numbers. -/
theorem proofWord_toBytes (bytes : List UInt8) (i : ℕ) :
  (proofWord (toBytes bytes) i).toNat = coordinateAt bytes i
  := by
  have hbytes : ((((toBytes bytes).drop (32 * i)).take 32).map BitVec.toNat)
      = (Framing.chunk 32 bytes i).map UInt8.toNat := by
    rw [toBytes, ← List.map_drop, ← List.map_take, List.map_map]
    rfl
  have hlt : coordinateAt bytes i < 2 ^ 256 := by
    have hdigits : ∀ d ∈ (Framing.chunk 32 bytes i).map UInt8.toNat, d < 256 := by
      intro d hd
      obtain ⟨byte, _, rfl⟩ := List.mem_map.mp hd
      exact byte.toNat_lt
    have hlength : ((Framing.chunk 32 bytes i).map UInt8.toNat).length ≤ 32 := by
      rw [List.length_map, Framing.chunk]
      apply List.length_take_le
    calc coordinateAt bytes i
        < 256 ^ ((Framing.chunk 32 bytes i).map UInt8.toNat).length := Digits.ofDigits_lt hdigits
      _ ≤ 256 ^ 32 := Nat.pow_le_pow_right (by norm_num) hlength
      _ = 2 ^ 256 := by norm_num
  rw [proofWord, calldataload, hbytes]
  exact Nat.mod_eq_of_lt hlt

/-- None of the three points is written as zeros. -/
structure NoZeroPoint (bytes : List UInt8) : Prop where
  a : ¬ (coordinateAt bytes 0 = 0 ∧ coordinateAt bytes 1 = 0)
  b : ¬ (coordinateAt bytes 2 = 0 ∧ coordinateAt bytes 3 = 0 ∧ coordinateAt bytes 4 = 0
    ∧ coordinateAt bytes 5 = 0)
  c : ¬ (coordinateAt bytes 6 = 0 ∧ coordinateAt bytes 7 = 0)

/-- No point of a valid proof is written as zeros. -/
theorem noZeroPoint_of_spellsProof {bytes : List UInt8} (h : SpellsProof bytes) :
  NoZeroPoint bytes
  := by
  have hcoeffB1 : g1Config.coeffB ≠ 0 := by decide +kernel
  have hcoeffB2 : g2Config.coeffB ≠ 0 := by decide +kernel
  constructor
  case a =>
    rintro ⟨hx, hy⟩
    have hcurve := h.valid.a_onCurve rfl
    simp only [proofAt, Affine.newUnchecked, hx, hy, Nat.cast_zero] at hcurve
    exact not_onCurve_zero hcoeffB1 hcurve
  case b =>
    rintro ⟨hxRe, hxIm, hyRe, hyIm⟩
    have hcurve := h.valid.b_onCurve rfl
    simp only [proofAt, Affine.newUnchecked, hxRe, hxIm, hyRe, hyIm, Nat.cast_zero] at hcurve
    exact not_onCurve_zero hcoeffB2 hcurve
  case c =>
    rintro ⟨hx, hy⟩
    have hcurve := h.valid.c_onCurve rfl
    simp only [proofAt, Affine.newUnchecked, hx, hy, Nat.cast_zero] at hcurve
    exact not_onCurve_zero hcoeffB1 hcurve

/-! ### Points that are not zeros -/

theorem coordinate_eq_some_cast {w : U256} {x : Fq} :
  coordinate w = some x ↔ w.toNat < baseModulus ∧ (w.toNat : Fq) = x
  := by
  rw [coordinate, Option.ite_none_right_eq_some, Option.some.injEq]

theorem cast_eq_zero {k : ℕ} (h : k < baseModulus) :
  (k : Fq) = 0 ↔ k = 0
  := by
  rw [ZMod.natCast_eq_zero_iff]
  constructor
  · intro hdvd
    exact Nat.eq_zero_of_dvd_of_lt hdvd h
  · rintro rfl
    exact dvd_zero _

/-- Words that are not all zero stand for the point with their numbers as coordinates. -/
theorem G1Point.decode_eq_toPoint {p : G1Point} {P : G1}
    (hne : ¬ (p.x.toNat = 0 ∧ p.y.toNat = 0)) :
  p.decode = some P
    ↔ (p.x.toNat < baseModulus ∧ p.y.toNat < baseModulus)
      ∧ (Affine.newUnchecked (p.x.toNat : Fq) p.y.toNat).IsOnCurve g1Config
      ∧ (Affine.newUnchecked (p.x.toNat : Fq) p.y.toNat).toPoint g1Config = P
  := by
  simp only [decode, Option.bind_eq_bind, Option.bind_eq_some_iff, coordinate_eq_some_cast,
    and_assoc, exists_and_left, exists_eq_left']
  apply and_congr_right
  intro hx
  apply and_congr_right
  intro hy
  have hne : ¬ ((p.x.toNat : Fq) = 0 ∧ (p.y.toNat : Fq) = 0) := by
    rwa [cast_eq_zero hx, cast_eq_zero hy]
  rw [if_neg hne]
  constructor
  · intro h
    split at h
    · next hcurve =>
      obtain rfl := Option.some.inj h
      exact ⟨fun _ => hcurve, Affine.toPoint_newUnchecked hcurve⟩
    · cases h
  · rintro ⟨hcurve, rfl⟩
    have hcurve : OnCurve g1Config (p.x.toNat : Fq) p.y.toNat := hcurve rfl
    rw [dif_pos hcurve, Affine.toPoint_newUnchecked hcurve]

/-- Words that are not all zero stand for the point with their numbers as coordinates. -/
theorem G2Point.decode_eq_toPoint {p : G2Point} {P : G2}
    (hne : ¬ (p.x.1.toNat = 0 ∧ p.x.2.toNat = 0 ∧ p.y.1.toNat = 0 ∧ p.y.2.toNat = 0)) :
  p.decode = some P
    ↔ (p.x.1.toNat < baseModulus ∧ p.x.2.toNat < baseModulus ∧ p.y.1.toNat < baseModulus
        ∧ p.y.2.toNat < baseModulus)
      ∧ (Affine.newUnchecked (⟨p.x.1.toNat, p.x.2.toNat⟩ : Fq2)
        ⟨p.y.1.toNat, p.y.2.toNat⟩).IsOnCurve g2Config
      ∧ (Affine.newUnchecked (⟨p.x.1.toNat, p.x.2.toNat⟩ : Fq2)
        ⟨p.y.1.toNat, p.y.2.toNat⟩).toPoint g2Config = P
  := by
  simp only [decode, Option.bind_eq_bind, Option.bind_eq_some_iff, coordinate_eq_some_cast,
    and_assoc, exists_and_left, exists_eq_left']
  apply and_congr_right
  intro hxRe
  apply and_congr_right
  intro hxIm
  apply and_congr_right
  intro hyRe
  apply and_congr_right
  intro hyIm
  have hne : ¬ ((⟨p.x.1.toNat, p.x.2.toNat⟩ : Fq2) = 0
      ∧ (⟨p.y.1.toNat, p.y.2.toNat⟩ : Fq2) = 0) := by
    rw [QuadraticAlgebra.ext_iff, QuadraticAlgebra.ext_iff]
    simp only [QuadraticAlgebra.re_zero, QuadraticAlgebra.im_zero, cast_eq_zero hxRe,
      cast_eq_zero hxIm, cast_eq_zero hyRe, cast_eq_zero hyIm, and_assoc]
    exact hne
  rw [if_neg hne]
  obtain ⟨P, hP⟩ := P
  constructor
  · intro h
    split at h
    · next hcurve =>
      split at h
      · obtain rfl := congrArg Subtype.val (Option.some.inj h)
        exact ⟨fun _ => hcurve, Affine.toPoint_newUnchecked hcurve⟩
      · cases h
    · cases h
  · rintro ⟨hcurve, rfl⟩
    have hcurve : OnCurve g2Config (⟨p.x.1.toNat, p.x.2.toNat⟩ : Fq2)
        ⟨p.y.1.toNat, p.y.2.toNat⟩ := hcurve rfl
    have hpoint := Affine.toPoint_newUnchecked hcurve
    have hmem : fieldModulus • Point.ofOnCurve hcurve = 0 := by
      rw [← hpoint]
      exact hP
    rw [dif_pos hcurve, dif_pos hmem]
    exact congrArg some (Subtype.ext hpoint.symm)

/-! ### Proofs -/

/-- Bytes without zeros for a point are decoded by the contract exactly when they spell a valid
proof, and to its points. -/
theorem decode_proofOfWords {bytes : List UInt8} (hzero : NoZeroPoint bytes)
    {p : Pairing.Proof G1 G2} :
  (bytes.length = 256 ∧ (proofOfWords (toBytes bytes)).a.decode = some p.a
      ∧ (proofOfWords (toBytes bytes)).b.decode = some p.b
      ∧ (proofOfWords (toBytes bytes)).c.decode = some p.c)
    ↔ ∃ h : SpellsProof bytes, (proofAt bytes).points h.valid = p
  := by
  have ha : ¬ ((proofOfWords (toBytes bytes)).a.x.toNat = 0
      ∧ (proofOfWords (toBytes bytes)).a.y.toNat = 0) := by
    simp only [proofOfWords, proofWord_toBytes]
    exact hzero.a
  have hb : ¬ ((proofOfWords (toBytes bytes)).b.x.1.toNat = 0
      ∧ (proofOfWords (toBytes bytes)).b.x.2.toNat = 0
      ∧ (proofOfWords (toBytes bytes)).b.y.1.toNat = 0
      ∧ (proofOfWords (toBytes bytes)).b.y.2.toNat = 0) := by
    simp only [proofOfWords, proofWord_toBytes]
    exact hzero.b
  have hc : ¬ ((proofOfWords (toBytes bytes)).c.x.toNat = 0
      ∧ (proofOfWords (toBytes bytes)).c.y.toNat = 0) := by
    simp only [proofOfWords, proofWord_toBytes]
    exact hzero.c
  rw [G1Point.decode_eq_toPoint ha, G2Point.decode_eq_toPoint hb, G1Point.decode_eq_toPoint hc]
  simp only [proofOfWords, proofWord_toBytes]
  obtain ⟨a, b, c⟩ := p
  constructor
  · rintro ⟨hlength, ⟨⟨h0, h1⟩, haCurve, rfl⟩, ⟨⟨h2, h3, h4, h5⟩, hbCurve, hbPoint⟩,
      ⟨h6, h7⟩, hcCurve, rfl⟩
    have hvalid : (proofAt bytes).Valid := by
      constructor
      case a_onCurve => exact haCurve
      case b_onCurve => exact hbCurve
      case c_onCurve => exact hcCurve
      case a_inSubgroup | c_inSubgroup => exact g1_annihilated _
      case b_inSubgroup => exact (congrArg (fieldModulus • ·) hbPoint).trans b.2
      all_goals rfl
    have hreduced : ∀ i < 8, coordinateAt bytes i < baseModulus := by
      intro i hi
      interval_cases i <;> assumption
    use ⟨hlength, hreduced, hvalid⟩
    obtain rfl : (⟨(proofAt bytes).b.toPoint g2Config, hvalid.b_inSubgroup⟩ : G2) = b :=
      Subtype.ext hbPoint
    rfl
  · rintro ⟨h, hpoints⟩
    obtain ⟨rfl, rfl, rfl⟩ := Pairing.Proof.mk.inj hpoints
    have hlt := h.reduced
    exact ⟨h.length,
      ⟨⟨hlt 0 (by norm_num), hlt 1 (by norm_num)⟩, h.valid.a_onCurve, rfl⟩,
      ⟨⟨hlt 2 (by norm_num), hlt 3 (by norm_num), hlt 4 (by norm_num), hlt 5 (by norm_num)⟩,
        h.valid.b_onCurve, rfl⟩,
      ⟨hlt 6 (by norm_num), hlt 7 (by norm_num)⟩, h.valid.c_onCurve, rfl⟩

section

variable {T : Type} [AddCommGroup T] {e : G1 →+ G2 →+ T} {pre : Precompiles} {n : ℕ}
  {vk : VerifyingKey n} {key : Pairing.VerifyingKey G1 G2 n} {values : Fin n → U256}

/-- The contract accepts exactly the bytes that spell a valid proof that satisfies the equation
for the residues of the values. -/
theorem assertValid_toBytes (himplements : pre.Implements e) (hkey : vk.Encodes key)
    (hvalues : ∀ i, (values i).toNat < fieldModulus) {bytes : List UInt8}
    (hzero : NoZeroPoint bytes) :
  assertValid pre vk values (toBytes bytes) = true
    ↔ ∃ h : SpellsProof bytes,
      key.Accepts e (fun i => (residue (values i)).val) ((proofAt bytes).points h.valid)
  := by
  have hresidue : (fun i => (residue (values i)).val) = fun i => (values i).toNat := by
    ext i
    exact ZMod.val_natCast_of_lt (hvalues i)
  have hlength : (toBytes bytes).length = bytes.length := List.length_map _
  rw [assertValid_iff himplements hkey, hresidue, hlength, and_iff_right hvalues]
  constructor
  · rintro ⟨hlength, p, ha, hb, hc, haccepts⟩
    obtain ⟨h, rfl⟩ := (decode_proofOfWords hzero).mp ⟨hlength, ha, hb, hc⟩
    exact ⟨h, haccepts⟩
  · rintro ⟨h, haccepts⟩
    obtain ⟨hlength, ha, hb, hc⟩ := (decode_proofOfWords hzero).mpr ⟨h, rfl⟩
    exact ⟨hlength, _, ha, hb, hc, haccepts⟩

/-! ### Agreement -/

/-- A contract and a verifier that hold one key accept the same strings of bytes for the same
public inputs, unless a point is written as zeros.  The wire type, the circuit and the contract
list the same elements. -/
theorem verifiers_agree (engine : Base64.Engine) (himplements : pre.Implements e)
    {verifyWithProcessedVk : VerifyWithProcessedVk} (hverifies : Verifies verifyWithProcessedVk e)
    {requestKey : VerifyingKey 12} {withdrawalKey : VerifyingKey 14}
    {requestVerifier : RequestVerifier} {withdrawalVerifier : WithdrawalVerifier}
    (hrequest : requestKey.Encodes requestVerifier.key)
    (hwithdrawal : withdrawalKey.Encodes withdrawalVerifier.key) {bytes : List UInt8}
    (hzero : NoZeroPoint bytes) :
  (∀ (pub : RequestPublicInputsV2) decoded, (∀ i, (pub.toFieldElements i).Canonical) →
      pub.contractAddress.toNat < 2 ^ 160 → requestPublicFromWire pub = .ok decoded →
      pub.toVault.values = pub.toFieldElements
        ∧ decoded.toFieldElements.vector = residue ∘ pub.toFieldElements
        ∧ ((groth16ProofAdapter pre requestKey withdrawalKey).assertValidRequest pub.toVault
            (toBytes bytes) = true
          ↔ requestVerifier.verify verifyWithProcessedVk engine pub
            ⟨.groth16Bn254, engine.encode bytes⟩ = .ok true))
    ∧ ∀ (pub : WithdrawalPublicInputsV2) decoded, (∀ i, (pub.toFieldElements i).Canonical) →
      pub.contractAddress.toNat < 2 ^ 160 → withdrawalPublicFromWire pub = .ok decoded →
      pub.toVault.values = pub.toFieldElements
        ∧ decoded.toFieldElements.vector = residue ∘ pub.toFieldElements
        ∧ ((groth16ProofAdapter pre requestKey withdrawalKey).assertValidWithdrawal pub.toVault
            (toBytes bytes) = true
          ↔ withdrawalVerifier.verify verifyWithProcessedVk engine pub
            ⟨.groth16Bn254, engine.encode bytes⟩ = .ok true)
  := by
  constructor
  · intro pub decoded hcanonical haddress hpub
    have hvalues := RequestPublicInputsV2.values_toVault haddress
    refine ⟨hvalues, Compact.vector_of_requestPublicFromWire hpub, ?_⟩
    rw [RequestVerifier.verify_eq_ok hverifies hpub]
    show assertValid pre requestKey pub.toVault.values (toBytes bytes) = true ↔ _
    rw [hvalues, assertValid_toBytes himplements hrequest hcanonical hzero]
  · intro pub decoded hcanonical haddress hpub
    have hvalues := WithdrawalPublicInputsV2.values_toVault haddress
    refine ⟨hvalues, Compact.vector_of_withdrawalPublicFromWire hpub, ?_⟩
    rw [WithdrawalVerifier.verify_eq_ok hverifies hpub]
    show assertValid pre withdrawalKey pub.toVault.values (toBytes bytes) = true ↔ _
    rw [hvalues, assertValid_toBytes himplements hwithdrawal hcanonical hzero]

end

namespace VerifiersExample

open ZkApi.Compact (pointToWire pointFromWire_pointToWire)

instance : Module Fr G1 :=
  AddCommGroup.zmodModule g1_annihilated

theorem g2_annihilated (Q : G2) :
  fieldModulus • Q = 0
  := by
  apply Subtype.ext
  exact Q.2

instance : Module Fr G2 :=
  AddCommGroup.zmodModule g2_annihilated

def g1 : G1 :=
  .ofOnCurve g1Generator_onCurve

def g2 : G2 :=
  ⟨.ofOnCurve g2Generator_onCurve, g2Generator_annihilated⟩

theorem exists_pairing :
  ∃ e : G1 →+ G2 →+ Fr, e g1 g2 ≠ 0
  := by
  have hg2 : g2 ≠ 0 := by
    intro h
    exact Point.ofOnCurve_ne_zero g2Generator_onCurve (congrArg Subtype.val h)
  obtain ⟨f, hf⟩ := Module.Projective.exists_dual_ne_zero Fr
    (Point.ofOnCurve_ne_zero g1Generator_onCurve)
  obtain ⟨f', hf'⟩ := Module.Projective.exists_dual_ne_zero Fr hg2
  use (AddMonoidHom.mul.compl₂ f'.toAddMonoidHom).comp f.toAddMonoidHom
  exact mul_ne_zero hf hf'

/-- A pairing that is not zero at the generators. -/
noncomputable def e : G1 →+ G2 →+ Fr :=
  exists_pairing.choose

/-- The pairs that words are read as. -/
def readPairs : List U256 → Option (List (G1Point × G2Point))
  | [] => some []
  | x :: y :: xIm :: xRe :: yIm :: yRe :: words => do
    let pairs ← readPairs words
    some ((⟨x, y⟩, ⟨(xRe, xIm), (yRe, yIm)⟩) :: pairs)
  | _ => none

theorem readPairs_flatMap (pairs : List (G1Point × G2Point)) :
  readPairs (pairs.flatMap fun pair => writePair pair.1 pair.2) = some pairs
  := by
  induction pairs with
  | nil => rfl
  | cons pair pairs ih =>
    show (readPairs (pairs.flatMap fun pair => writePair pair.1 pair.2)
      >>= fun rest => some (pair :: rest)) = some (pair :: pairs)
    rw [ih]
    rfl

open Classical in
/-- The contracts for a pairing. -/
noncomputable def precompiles {T : Type} [AddCommGroup T] (e : G1 →+ G2 →+ T) : Precompiles where
  ecAdd a b := do
    let P ← a.decode
    let Q ← b.decode
    some (G1Point.encode (P + Q))
  ecMul a s := do
    let P ← a.decode
    some (G1Point.encode (s.toNat • P))
  ecPairing words := do
    let pairs ← readPairs words
    let values ← pairs.mapM (pairValue e)
    some (if values.sum = 0 then 1 else 0)

theorem implements :
  (precompiles e).Implements e
  where
  ecAdd _ _ := rfl
  ecMul _ _ := rfl
  ecPairing pairs := by
    show (readPairs _ >>= _) = _
    rw [readPairs_flatMap, Option.bind_eq_bind, Option.bind_some]

open Classical in
/-- The library for this pairing. -/
noncomputable def library : VerifyWithProcessedVk := fun _ key inputs proof =>
  .ok (if h : proof.Valid then
    decide (key.Accepts e (fun i => (inputs i).val) (proof.points h)) else false)

theorem verifies :
  Verifies library e
  := by
  intro n key inputs proof h
  refine ⟨_, rfl, ?_⟩
  simp only [dif_pos h, decide_eq_true_eq]

/-- A key in which only the first point of the inputs counts. -/
def key (n : ℕ) : Pairing.VerifyingKey G1 G2 n where
  alpha := g1
  beta := g2
  gamma := g2
  delta := g2
  ic := Fin.cons g1 fun _ => 0

def words (n : ℕ) : VerifyingKey n where
  alpha := G1Point.encode g1
  beta := G2Point.encode g2
  gamma := G2Point.encode g2
  delta := G2Point.encode g2
  ic i := G1Point.encode ((key n).ic i)

theorem words_encodes (n : ℕ) :
  (words n).Encodes (key n)
  := ⟨rfl, rfl, rfl, rfl, fun _ => rfl⟩

/-- The points of the proof satisfy the equation, whatever the inputs. -/
theorem key_accepts {n : ℕ} (inputs : Fin n → ℕ) :
  (key n).Accepts e inputs
    (Compact.GeneratorExample.proof.points Compact.GeneratorExample.proof_valid)
  := by
  have ha : Compact.GeneratorExample.proof.a.toPoint g1Config = g1 :=
    Affine.toPoint_newUnchecked g1Generator_onCurve
  have hb : Compact.GeneratorExample.proof.b.toPoint g2Config = g2.val :=
    Affine.toPoint_newUnchecked g2Generator_onCurve
  have hc : Compact.GeneratorExample.proof.c.toPoint g1Config = -g1 := by
    have hcurve : OnCurve g1Config g1Generator.x (-g1Generator.y) := by decide +kernel
    rw [g1, Point.neg_ofOnCurve g1Generator_onCurve hcurve]
    exact Affine.toPoint_newUnchecked hcurve
  have hpoints : Compact.GeneratorExample.proof.points Compact.GeneratorExample.proof_valid
      = ⟨g1, g2, -g1⟩ := by
    rw [Compact.Proof.points, ha, hc, Pairing.Proof.mk.injEq]
    exact ⟨rfl, Subtype.ext hb, rfl⟩
  have hinputs : (key n).prepareInputs inputs = g1 := by
    have hzero : ∀ i : Fin n, (key n).ic i.succ = 0 := by
      intro i
      rfl
    simp only [Pairing.VerifyingKey.prepareInputs, hzero, smul_zero, Finset.sum_const_zero,
      add_zero]
    rfl
  rw [hpoints, Pairing.VerifyingKey.Accepts, hinputs]
  show e g1 g2 + e g1 (-g2) + e (-g1) (-g2) = e g1 g2
  simp only [map_neg, AddMonoidHom.neg_apply]
  ring

/-- The public inputs of a request under the key of the generator. -/
def request : RequestPublicInputsV2 where
  protocolVersion := 2
  chainId := 1
  contractAddress := 9
  activeRoot := 5
  stateSigningKeyX := (pointToWire generator).x
  stateSigningKeyY := (pointToWire generator).y
  requestTime := 1700000000
  solvencyBound := 5
  requestNullifier := 6
  authorizationTag := 7
  anonymousCommitmentX := (pointToWire generator).x
  anonymousCommitmentY := (pointToWire generator).y

/-- The public inputs of a withdrawal under the same key. -/
def withdrawal : WithdrawalPublicInputsV2 where
  protocolVersion := 2
  chainId := 1
  contractAddress := 9
  activeRoot := 5
  stateSigningKeyX := (pointToWire generator).x
  stateSigningKeyY := (pointToWire generator).y
  clearanceSigningKeyX := (pointToWire generator).x
  clearanceSigningKeyY := (pointToWire generator).y
  noteId := 0
  finalBalance := 5
  destination := 8
  withdrawalNullifier := 6
  hasClearance := true
  withdrawalTag := 7

/-- The bytes of the proof. -/
def bytes : List UInt8 :=
  Compact.GeneratorExample.proof.coordinates.flatMap Compact.primeFieldBytes

theorem spellsProof :
  SpellsProof bytes
  := by
  have hvalid := Compact.GeneratorExample.proof_valid
  obtain ⟨hlength, hreduced, hproof⟩ := (Compact.flatMap_primeFieldBytes_eq_iff hvalid).mp
    (rfl : _ = bytes)
  rw [← hproof] at hvalid
  exact ⟨hlength, hreduced, hvalid⟩

theorem noZeroPoint :
  NoZeroPoint bytes
  := by
  constructor <;> decide +kernel

/-- The proof that the bytes spell is accepted too. -/
theorem bytes_accepted {n : ℕ} (inputs : Fin n → ℕ) :
  (key n).Accepts e inputs ((proofAt bytes).points spellsProof.valid)
  := by
  obtain ⟨-, -, hproof⟩ := (Compact.flatMap_primeFieldBytes_eq_iff
    Compact.GeneratorExample.proof_valid).mp (rfl : _ = bytes)
  have hsame : (proofAt bytes).points spellsProof.valid
      = Compact.GeneratorExample.proof.points Compact.GeneratorExample.proof_valid := by
    simp only [hproof]
  rw [hsame]
  exact key_accepts inputs

/-- The proof is accepted by the contract and by the verifiers. -/
theorem verifiers_agree_generators :
  (groth16ProofAdapter (precompiles e) (words 12) (words 14)).assertValidRequest request.toVault
      (toBytes bytes) = true
    ∧ (groth16ProofAdapter (precompiles e) (words 12) (words 14)).assertValidWithdrawal
      withdrawal.toVault (toBytes bytes) = true
    ∧ (RequestVerifier.mk (key 12)).verify library Base64.standard request
      ⟨.groth16Bn254, Base64.standard.encode bytes⟩ = .ok true
    ∧ (WithdrawalVerifier.mk (key 14)).verify library Base64.standard withdrawal
      ⟨.groth16Bn254, Base64.standard.encode bytes⟩ = .ok true
  := by
  have hpoint := pointFromWire_pointToWire generator_mem
  have hrequest : ∃ decoded, requestPublicFromWire request = .ok decoded := by
    simp only [requestPublicFromWire, request, hpoint]
    exact ⟨_, rfl⟩
  have hwithdrawal : ∃ decoded, withdrawalPublicFromWire withdrawal = .ok decoded := by
    simp only [withdrawalPublicFromWire, withdrawal, hpoint]
    exact ⟨_, rfl⟩
  obtain ⟨decodedRequest, hrequest⟩ := hrequest
  obtain ⟨decodedWithdrawal, hwithdrawal⟩ := hwithdrawal
  have hverifyRequest : (RequestVerifier.mk (key 12)).verify library Base64.standard request
      ⟨.groth16Bn254, Base64.standard.encode bytes⟩ = .ok true :=
    (RequestVerifier.verify_eq_ok verifies hrequest).mpr ⟨spellsProof, bytes_accepted _⟩
  have hverifyWithdrawal : (WithdrawalVerifier.mk (key 14)).verify library Base64.standard
      withdrawal ⟨.groth16Bn254, Base64.standard.encode bytes⟩ = .ok true :=
    (WithdrawalVerifier.verify_eq_ok verifies hwithdrawal).mpr ⟨spellsProof, bytes_accepted _⟩
  obtain ⟨hagreeRequest, hagreeWithdrawal⟩ := verifiers_agree Base64.standard implements verifies
    (words_encodes 12) (words_encodes 14) noZeroPoint
  obtain ⟨-, -, hcontractRequest⟩ := hagreeRequest request decodedRequest (by decide +kernel)
    (by decide) hrequest
  obtain ⟨-, -, hcontractWithdrawal⟩ := hagreeWithdrawal withdrawal decodedWithdrawal
    (by decide +kernel) (by decide) hwithdrawal
  exact ⟨hcontractRequest.mpr hverifyRequest, hcontractWithdrawal.mpr hverifyWithdrawal,
    hverifyRequest, hverifyWithdrawal⟩

end VerifiersExample

end ZkApi.Vault.Groth16
