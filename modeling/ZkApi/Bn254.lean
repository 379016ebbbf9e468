import Mathlib.Algebra.QuadraticAlgebra.Basic
import Mathlib.NumberTheory.LegendreSymbol.Basic
import ZkApi.Field
import ZkApi.Library.ShortWeierstrass

/-!
# The BN254 curves

The base field of BN254 and its quadratic extension, and the two curves that the points of a
Groth16 proof are on.  The points that are accepted are those that the order of the scalar field
annihilates.  On the first curve these are all points; on the second they are a subgroup.
-/

namespace ZkApi.Bn254

open ShortWeierstrass

/-! ### The base field -/

/-- The modulus of the base field. -/
def baseModulus : ℕ :=
  21888242871839275222246405745257275088696311157297823662689037894645226208583

private theorem prime_11465965001 :
  Nat.Prime 11465965001
  := by
  apply Primality.of_factorization 3 64 [(2, 3), (5, 4), (7, 1), (327599, 1)]
  case hone | hne => decide +kernel
  all_goals norm_num

private theorem prime_2480874801745591 :
  Nat.Prime 2480874801745591
  := by
  have h' : Nat.Prime 1263766531 := by
    apply Primality.of_factorization 10 64 [(2, 1), (3, 1), (5, 1), (13, 1), (911, 1), (3557, 1)]
    case hone | hne => decide +kernel
    all_goals norm_num
  have h : Nat.Prime 35385462869 := by
    apply Primality.of_factorization 2 64 [(2, 2), (7, 1), (1263766531, 1)]
    case hprime => simp only [List.forall_mem_cons, h']; norm_num
    case hone | hne => decide +kernel
    all_goals norm_num
  apply Primality.of_factorization 6 64
    [(2, 1), (3, 2), (5, 1), (19, 1), (41, 1), (35385462869, 1)]
  case hprime => simp only [List.forall_mem_cons, h]; norm_num
  case hone | hne => decide +kernel
  all_goals norm_num

private theorem prime_13427688667394608761327070753331941386769 :
  Nat.Prime 13427688667394608761327070753331941386769
  := by
  have h : Nat.Prime 173171039 := by
    apply Primality.of_factorization 13 64 [(2, 1), (73, 1), (89, 1), (13327, 1)]
    case hone | hne => decide +kernel
    all_goals norm_num
  apply Primality.of_factorization 17 256
    [(2, 4), (3, 1), (7, 1), (11, 1), (1853641, 1), (4562087, 1), (173171039, 1),
      (2480874801745591, 1)]
  case hprime => simp only [List.forall_mem_cons, h, prime_2480874801745591]; norm_num
  case hone | hne => decide +kernel
  all_goals norm_num

/-- The modulus of the base field is prime. -/
theorem baseModulus_prime :
  baseModulus.Prime
  := by
  apply Primality.of_factorization 3 256
    [(2, 1), (3, 2), (13, 1), (29, 1), (67, 1), (229, 1), (311, 1), (983, 1), (11003, 1),
      (405928799, 1), (11465965001, 1), (13427688667394608761327070753331941386769, 1)]
  case hprime =>
    simp only [List.forall_mem_cons, prime_405928799, prime_11465965001,
      prime_13427688667394608761327070753331941386769]
    norm_num
  case hone | hne => decide +kernel
  all_goals norm_num [baseModulus]

instance : Fact baseModulus.Prime := ⟨baseModulus_prime⟩

/-- The base field. -/
abbrev Fq : Type := ZMod baseModulus

/-- The quadratic extension of the base field by a square root of `-1`. -/
abbrev Fq2 : Type := QuadraticAlgebra Fq (-1) 0

/-- The square of no element is `-1`. -/
instance : Fact (∀ z : Fq, z ^ 2 ≠ -1 + 0 * z) := by
  constructor
  intro z hz
  rw [zero_mul, add_zero] at hz
  have hsquare : IsSquare (-1 : Fq) := ⟨z, by rw [← hz, sq]⟩
  exact ZMod.exists_sq_eq_neg_one_iff.mp hsquare (by decide +kernel)

/-! ### The curves -/

/-- The coefficients of the first curve. -/
def g1Config : Curve Fq where
  coeffA := 0
  coeffB := (3 : ℕ)

/-- The coefficients of the second curve; the constant is `3 / (9 + u)`. -/
def g2Config : Curve Fq2 where
  coeffA := 0
  coeffB :=
    { re := 19485874751759354771024239261021720505790618469301721065564631296452457478373
      im := 266929791119991161246907387137283842545076965332900288569378510910307636690 }

theorem g2Config_coeffB_mul :
  g2Config.coeffB * ⟨9, 1⟩ = 3
  := by decide +kernel

instance : Smooth g1Config where
  discriminant_ne_zero := by decide +kernel
  two_ne_zero := by decide +kernel

instance : Smooth g2Config where
  discriminant_ne_zero := by decide +kernel
  two_ne_zero := by decide +kernel

/-- The elements that the order of the scalar field annihilates. -/
def primeOrder (A : Type) [AddCommGroup A] : AddSubgroup A :=
  (nsmulAddMonoidHom fieldModulus : A →+ A).ker

theorem mem_primeOrder {A : Type} [AddCommGroup A] {a : A} :
  a ∈ primeOrder A ↔ fieldModulus • a = 0
  := Iff.rfl

/-- The first group. -/
abbrev G1 : Type := Point g1Config

/-- The second group. -/
abbrev G2 : Type := primeOrder (Point g2Config)

/-! ### Points in affine coordinates -/

/-- `Affine`: coordinates that need not be those of a point, or the point at infinity. -/
structure Affine (F : Type) where
  x : F
  y : F
  infinity : Bool
  deriving DecidableEq

namespace Affine

variable {F : Type}

/-- `new_unchecked`. -/
def newUnchecked (x y : F) : Affine F where
  x := x
  y := y
  infinity := false

variable [Field F]

/-- `is_on_curve`. -/
def IsOnCurve (E : Curve F) (p : Affine F) : Prop :=
  p.infinity = false → OnCurve E p.x p.y

variable [DecidableEq F]

instance (E : Curve F) (p : Affine F) : Decidable (p.IsOnCurve E) :=
  inferInstanceAs (Decidable (p.infinity = false → OnCurve E p.x p.y))

/-- The point of the curve, if there is one. -/
def toPoint (E : Curve F) [Smooth E] (p : Affine F) : Point E :=
  if p.infinity = true then 0
  else if h : OnCurve E p.x p.y then .ofOnCurve h
  else 0

theorem toPoint_newUnchecked {E : Curve F} {x y : F} [Smooth E] (h : OnCurve E x y) :
  (newUnchecked x y).toPoint E = .ofOnCurve h
  := by
  rw [toPoint, newUnchecked, if_neg Bool.false_ne_true, dif_pos h]

/-- `is_in_correct_subgroup_assuming_on_curve`. -/
def IsInCorrectSubgroupAssumingOnCurve (E : Curve F) [Smooth E] (p : Affine F) : Prop :=
  fieldModulus • p.toPoint E = 0

instance (E : Curve F) [Smooth E] (p : Affine F) : Decidable (p.IsInCorrectSubgroupAssumingOnCurve E) :=
  inferInstanceAs (Decidable (_ = _))

end Affine

/-- `G1Affine`. -/
abbrev G1Affine : Type := Affine Fq

/-- `G2Affine`. -/
abbrev G2Affine : Type := Affine Fq2

/-- The generator of the first curve. -/
def g1Generator : G1Affine :=
  .newUnchecked 1 (2 : ℕ)

/-- The generator of the second curve. -/
def g2Generator : G2Affine :=
  .newUnchecked
    ⟨10857046999023057135944570762232829481370756359578518086990519993285655852781,
      11559732032986387107991004021392285783925812861821192530917403151452391805634⟩
    ⟨8495653923123431417604973247489272438418190587263600148770280649306958101930,
      4082367875863433681332203403145435568316851327593401208105741076214120093531⟩

theorem g1Generator_onCurve :
  OnCurve g1Config g1Generator.x g1Generator.y
  := by decide +kernel

theorem g2Generator_onCurve :
  OnCurve g2Config g2Generator.x g2Generator.y
  := by decide +kernel

theorem g1Generator_annihilated :
  fieldModulus • Point.ofOnCurve g1Generator_onCurve = 0
  := by
  have hrepresents := Jacobian.represents_ofOnCurve g1Generator_onCurve
  rw [hrepresents.smul_eq_zero_iff 254 fieldModulus (by decide)]
  decide +kernel

theorem g2Generator_annihilated :
  fieldModulus • Point.ofOnCurve g2Generator_onCurve = 0
  := by
  have hrepresents := Jacobian.represents_ofOnCurve g2Generator_onCurve
  rw [hrepresents.smul_eq_zero_iff 254 fieldModulus (by decide)]
  decide +kernel

/-! ### The first curve -/

/-- No element of the base field has the cube `-3`. -/
theorem cube_ne (x : Fq) :
  x ^ 3 ≠ ((baseModulus - 3 : ℕ) : Fq)
  := by
  intro hx
  have hne : x ≠ 0 := by
    rintro rfl
    rw [zero_pow three_ne_zero] at hx
    exact absurd hx (by decide +kernel)
  have hone : ((baseModulus - 3 : ℕ) : Fq) ^ ((baseModulus - 1) / 3) = 1 := by
    rw [← hx, ← pow_mul, Nat.mul_div_cancel' (by decide), ZMod.pow_card_sub_one_eq_one hne]
  rw [← Primality.powMod_eq_one_iff _ 254 _ baseModulus_prime.one_lt (by decide)] at hone
  exact absurd hone (by decide +kernel)

/-- No point of the first curve has the second coordinate zero. -/
theorem y_ne_zero {x y : Fq} (h : OnCurve g1Config x y) :
  y ≠ 0
  := by
  rintro rfl
  have hcoeffB : g1Config.coeffB = -((baseModulus - 3 : ℕ) : Fq) := by decide +kernel
  have hcoeffA : g1Config.coeffA = 0 := rfl
  rw [OnCurve, hcoeffA, hcoeffB] at h
  apply cube_ne x
  linear_combination -h

/-- No point of the first curve has order two. -/
theorem eq_zero_of_two_smul {P : Point g1Config} (h : 2 • P = 0) :
  P = 0
  := by
  cases P with
  | zero => rfl
  | some x y hxy =>
    rw [two_smul, add_eq_zero_iff_eq_neg, WeierstrassCurve.Affine.Point.neg_some,
      WeierstrassCurve.Affine.Point.some.injEq, negY_eq] at h
    have hy : y = 0 := by
      have hdouble : 2 * y = 0 := by linear_combination h.2
      exact (mul_eq_zero.mp hdouble).resolve_left (Smooth.two_ne_zero g1Config)
    exact absurd hy (y_ne_zero (nonsingular_iff.mp hxy))

/-- The order of the scalar field annihilates every point of the first curve. -/
theorem g1_annihilated (P : Point g1Config) :
  fieldModulus • P = 0
  := by
  apply smul_eq_zero_of_card fieldModulus_prime (Point.ofOnCurve_ne_zero g1Generator_onCurve)
    g1Generator_annihilated _ fun _ => eq_zero_of_two_smul
  rw [Nat.card_zmod]
  decide

end ZkApi.Bn254
