import Mathlib.AlgebraicGeometry.EllipticCurve.Affine.Point
import Mathlib.GroupTheory.Perm.Cycle.Type

/-!
# Curves `y² = x³ + ax + b`

The group of points is that of the Weierstrass curve with these coefficients.  `Jacobian`
computes in it without divisions: a triple `(X, Y, Z)` stands for the point
`(X / Z², Y / Z³)`, or for the point at infinity when `Z` is zero.

Over a finite field there are at most two points above a coordinate.  When a point has a prime
order that is large, and no point has order two, then that is the order of the group.
-/

namespace ShortWeierstrass

variable {F : Type*} [Field F]

/-! ### The curve -/

/-- The coefficients of a curve. -/
structure Curve (F : Type*) where
  coeffA : F
  coeffB : F

/-- The curve is smooth. -/
class Smooth (E : Curve F) : Prop where
  discriminant_ne_zero : 4 * E.coeffA ^ 3 + 27 * E.coeffB ^ 2 ≠ 0
  two_ne_zero : (2 : F) ≠ 0

/-- The curve equation. -/
def OnCurve (E : Curve F) (x y : F) : Prop :=
  y ^ 2 = x ^ 3 + E.coeffA * x + E.coeffB

instance [DecidableEq F] (E : Curve F) (x y : F) : Decidable (OnCurve E x y) :=
  inferInstanceAs (Decidable (_ = _))

/-- The curve as a Weierstrass curve. -/
def Curve.toWeierstrass (E : Curve F) : WeierstrassCurve.Affine F where
  a₁ := 0
  a₂ := 0
  a₃ := 0
  a₄ := E.coeffA
  a₆ := E.coeffB

/-- The points of the curve, with the point at infinity. -/
abbrev Point (E : Curve F) : Type _ := E.toWeierstrass.Point

variable {E : Curve F} {x y : F}

theorem equation_iff :
  E.toWeierstrass.Equation x y ↔ OnCurve E x y
  := by
  rw [WeierstrassCurve.Affine.equation_iff, OnCurve]
  simp [Curve.toWeierstrass]

@[simp]
theorem negY_eq :
  E.toWeierstrass.negY x y = -y
  := by simp [WeierstrassCurve.Affine.negY, Curve.toWeierstrass]

section

variable [Smooth E]

theorem nonsingular_iff :
  E.toWeierstrass.Nonsingular x y ↔ OnCurve E x y
  := by
  rw [WeierstrassCurve.Affine.nonsingular_iff', equation_iff, and_iff_left_iff_imp]
  intro h
  simp only [Curve.toWeierstrass, zero_mul, mul_zero, add_zero, zero_sub, neg_ne_zero]
  by_cases hy : y = 0
  · left
    -- otherwise the cubic has a double root
    intro hzero
    rw [OnCurve, hy] at h
    have ha : E.coeffA = -(3 * x ^ 2) := by linear_combination hzero
    have hb : E.coeffB = 2 * x ^ 3 := by linear_combination -h - x * ha
    apply Smooth.discriminant_ne_zero (E := E)
    rw [ha, hb]
    ring
  · right
    apply mul_ne_zero (Smooth.two_ne_zero E) hy

/-- The point with the given coordinates. -/
def Point.ofOnCurve (h : OnCurve E x y) : Point E :=
  .some x y (nonsingular_iff.mpr h)

theorem Point.ofOnCurve_ne_zero (h : OnCurve E x y) :
  Point.ofOnCurve h ≠ 0
  := WeierstrassCurve.Affine.Point.some_ne_zero _

theorem Point.neg_ofOnCurve (h : OnCurve E x y) (h' : OnCurve E x (-y)) :
  -Point.ofOnCurve h = Point.ofOnCurve h'
  := by
  simp only [ofOnCurve, WeierstrassCurve.Affine.Point.neg_some, negY_eq]

end

/-! ### Computation with divisions -/

theorem addX_eq (x₁ x₂ slope : F) :
  E.toWeierstrass.addX x₁ x₂ slope = slope ^ 2 - x₁ - x₂
  := by simp [WeierstrassCurve.Affine.addX, Curve.toWeierstrass]

theorem addY_eq (x₁ x₂ y₁ slope : F) :
  E.toWeierstrass.addY x₁ x₂ y₁ slope = slope * (2 * x₁ + x₂ - slope ^ 2) - y₁
  := by
  rw [WeierstrassCurve.Affine.addY, negY_eq, WeierstrassCurve.Affine.negAddY, addX_eq]
  ring

theorem negY_ne [Smooth E] (hy : y ≠ 0) :
  y ≠ E.toWeierstrass.negY x y
  := by
  rw [negY_eq]
  intro hneg
  apply mul_ne_zero (Smooth.two_ne_zero E) hy
  linear_combination hneg

section

variable [DecidableEq F]

theorem slope_self [Smooth E] (hy : y ≠ 0) :
  E.toWeierstrass.slope x x y y = (3 * x ^ 2 + E.coeffA) / (2 * y)
  := by
  rw [WeierstrassCurve.Affine.slope_of_Y_ne rfl (negY_ne hy), negY_eq]
  simp [Curve.toWeierstrass, two_mul]

/-- The sum of points that are not opposite, by the slope of the line through them. -/
theorem exists_add_eq {x₁ y₁ x₂ y₂ slope x₃ y₃ : F} (h₁ : E.toWeierstrass.Nonsingular x₁ y₁)
    (h₂ : E.toWeierstrass.Nonsingular x₂ y₂) (hne : ¬(x₁ = x₂ ∧ y₁ = E.toWeierstrass.negY x₂ y₂))
    (hslope : E.toWeierstrass.slope x₁ x₂ y₁ y₂ = slope) (hx : x₃ = slope ^ 2 - x₁ - x₂)
    (hy : y₃ = slope * (x₁ - x₃) - y₁) :
  ∃ h₃, (.some x₁ y₁ h₁ + .some x₂ y₂ h₂ : Point E) = .some x₃ y₃ h₃
  := by
  have hx₃ : E.toWeierstrass.addX x₁ x₂ (E.toWeierstrass.slope x₁ x₂ y₁ y₂) = x₃ := by
    rw [hslope, addX_eq, hx]
  have hy₃ : E.toWeierstrass.addY x₁ x₂ y₁ (E.toWeierstrass.slope x₁ x₂ y₁ y₂) = y₃ := by
    rw [hslope, addY_eq, hy, hx]
    ring
  have h₃ : E.toWeierstrass.Nonsingular x₃ y₃ := by
    rw [← hx₃, ← hy₃]
    exact WeierstrassCurve.Affine.nonsingular_add h₁ h₂ hne
  use h₃
  rw [WeierstrassCurve.Affine.Point.add_some hne, WeierstrassCurve.Affine.Point.some.injEq]
  exact ⟨hx₃, hy₃⟩

end

/-! ### Computation without divisions -/

/-- Jacobian coordinates: the triple `(X, Y, Z)` stands for the point `(X / Z², Y / Z³)`, or for
the point at infinity. -/
structure Jacobian (F : Type*) where
  X : F
  Y : F
  Z : F
  deriving DecidableEq

namespace Jacobian

/-- The triple stands for the point. -/
inductive Represents (T : Jacobian F) : Point E → Prop
  | zero (hz : T.Z = 0) : Represents T 0
  | some (x y : F) (h : E.toWeierstrass.Nonsingular x y) (hz : T.Z ≠ 0) (hx : T.X = x * T.Z ^ 2)
      (hy : T.Y = y * T.Z ^ 3) : Represents T (.some x y h)

/-- The point at infinity. -/
def zero : Jacobian F := ⟨1, 1, 0⟩

/-- A point in Jacobian coordinates. -/
def ofAffine (x y : F) : Jacobian F := ⟨x, y, 1⟩

/-- Twice a triple. -/
def double (a : F) (T : Jacobian F) : Jacobian F :=
  let d := (T.Y + T.Y) ^ 2 * T.X
  let e := T.X ^ 2 + T.X ^ 2 + T.X ^ 2 + a * T.Z ^ 4
  { X := e ^ 2 - (d + d)
    Y := e * (d + d + d - e ^ 2) - (T.Y + T.Y) ^ 3 * T.Y
    Z := (T.Y + T.Y) * T.Z }

/-- The sum of two triples. -/
def add [DecidableEq F] (a : F) (S T : Jacobian F) : Jacobian F :=
  if S.Z = 0 then T
  else if T.Z = 0 then S
  else
    let h := T.X * S.Z ^ 2 - S.X * T.Z ^ 2
    let r := T.Y * S.Z ^ 3 - S.Y * T.Z ^ 3
    if h = 0 then if r = 0 then double a S else zero
    else
      let u := S.X * T.Z ^ 2 * h ^ 2
      { X := r ^ 2 - h ^ 3 - (u + u)
        Y := r * (u + u + u - r ^ 2 + h ^ 3) - S.Y * T.Z ^ 3 * h ^ 3
        Z := h * S.Z * T.Z }

/-- Scalar multiplication by the `k` low bits of `n`, most significant bit first. -/
def mul [DecidableEq F] (a : F) (T : Jacobian F) : ℕ → ℕ → Jacobian F
  | 0, _ => zero
  | k + 1, n =>
      let S := double a (mul a T k (n / 2))
      if n % 2 = 0 then S else add a S T

theorem represents_zero :
  (zero : Jacobian F).Represents (0 : Point E)
  := .zero rfl

theorem represents_ofOnCurve [Smooth E] (h : OnCurve E x y) :
  (ofAffine x y).Represents (Point.ofOnCurve h)
  := by
  apply Represents.some
  case hz => exact one_ne_zero
  case hx | hy => simp [ofAffine]

/-- A triple that stands for the neutral element has no third coordinate, and no other has. -/
theorem Represents.eq_zero_iff {T : Jacobian F} {P : Point E} (h : T.Represents P) :
  P = 0 ↔ T.Z = 0
  := by
  cases h with
  | zero hz => simp [hz]
  | some x y h hz hx hy =>
    constructor
    · intro hzero
      exact absurd hzero (WeierstrassCurve.Affine.Point.some_ne_zero h)
    · intro hzero
      exact absurd hzero hz

variable [DecidableEq F]

/-- A triple stands for a sum when its coordinates are those that the slope gives. -/
theorem represents_add_some {T : Jacobian F} {x₁ y₁ x₂ y₂ slope : F}
    {h₁ : E.toWeierstrass.Nonsingular x₁ y₁} {h₂ : E.toWeierstrass.Nonsingular x₂ y₂}
    (hne : ¬(x₁ = x₂ ∧ y₁ = E.toWeierstrass.negY x₂ y₂))
    (hslope : E.toWeierstrass.slope x₁ x₂ y₁ y₂ = slope) (hz : T.Z ≠ 0)
    (hx : T.X = (slope ^ 2 - x₁ - x₂) * T.Z ^ 2)
    (hy : T.Y = (slope * (2 * x₁ + x₂ - slope ^ 2) - y₁) * T.Z ^ 3) :
  T.Represents (.some x₁ y₁ h₁ + .some x₂ y₂ h₂ : Point E)
  := by
  rw [WeierstrassCurve.Affine.Point.add_some hne]
  apply Represents.some
  case hz => exact hz
  case hx => rw [hslope, addX_eq, hx]
  case hy => rw [hslope, addY_eq, hy]

theorem Represents.double [Smooth E] {T : Jacobian F} {P : Point E} (h : T.Represents P) :
  (T.double E.coeffA).Represents (P + P)
  := by
  have htwo := Smooth.two_ne_zero E
  cases h with
  | zero hz =>
    rw [add_zero]
    apply Represents.zero
    rw [Jacobian.double, hz, mul_zero]
  | some x y h hz hx hy =>
    by_cases hy0 : y = 0
    · -- a point of order two
      have hneg : y = E.toWeierstrass.negY x y := by rw [negY_eq, hy0, neg_zero]
      rw [WeierstrassCurve.Affine.Point.add_self_of_Y_eq hneg]
      apply Represents.zero
      rw [Jacobian.double, hy, hy0, zero_mul, add_zero, zero_mul]
    · apply represents_add_some (fun h => negY_ne hy0 h.2) (slope_self hy0)
      case hz =>
        have hdouble : T.Y + T.Y ≠ 0 := by
          rw [hy, ← two_mul]
          exact mul_ne_zero htwo (mul_ne_zero hy0 (pow_ne_zero 3 hz))
        exact mul_ne_zero hdouble hz
      case hx =>
        simp only [Jacobian.double, hx, hy]
        field_simp
        ring
      case hy =>
        simp only [Jacobian.double, hx, hy]
        field_simp
        ring

theorem Represents.add [Smooth E] {S T : Jacobian F} {P Q : Point E} (hS : S.Represents P)
    (hT : T.Represents Q) :
  (S.add E.coeffA T).Represents (P + Q)
  := by
  cases hS with
  | zero hz => rwa [Jacobian.add, if_pos hz, zero_add]
  | some x₁ y₁ h₁ hz₁ hx₁ hy₁ =>
    cases hT with
    | zero hz =>
      rw [Jacobian.add, if_neg hz₁, if_pos hz, add_zero]
      exact .some x₁ y₁ h₁ hz₁ hx₁ hy₁
    | some x₂ y₂ h₂ hz₂ hx₂ hy₂ =>
      have hh : T.X * S.Z ^ 2 - S.X * T.Z ^ 2 = (x₂ - x₁) * (S.Z * T.Z) ^ 2 := by
        rw [hx₁, hx₂]
        ring
      have hr : T.Y * S.Z ^ 3 - S.Y * T.Z ^ 3 = (y₂ - y₁) * (S.Z * T.Z) ^ 3 := by
        rw [hy₁, hy₂]
        ring
      have hz : S.Z * T.Z ≠ 0 := mul_ne_zero hz₁ hz₂
      rw [Jacobian.add, if_neg hz₁, if_neg hz₂]
      simp only [hh, hr]
      by_cases hx : x₁ = x₂
      · -- the points are equal or opposite
        obtain rfl := hx
        rw [sub_self, zero_mul, if_pos rfl]
        by_cases hy : y₁ = y₂
        · obtain rfl := hy
          rw [sub_self, zero_mul, if_pos rfl]
          apply Represents.double
          exact .some x₁ y₁ h₁ hz₁ hx₁ hy₁
        · have hneg := (WeierstrassCurve.Affine.Y_eq_of_X_eq h₁.1 h₂.1 rfl).resolve_left hy
          rw [WeierstrassCurve.Affine.Point.add_of_Y_eq rfl hneg, if_neg]
          · exact represents_zero
          · exact mul_ne_zero (sub_ne_zero.mpr (Ne.symm hy)) (pow_ne_zero 3 hz)
      · have hd : x₁ - x₂ ≠ 0 := sub_ne_zero.mpr hx
        have hd' : x₂ - x₁ ≠ 0 := sub_ne_zero.mpr (Ne.symm hx)
        rw [if_neg (mul_ne_zero hd' (pow_ne_zero 2 hz))]
        apply represents_add_some (fun h => hx h.1) (WeierstrassCurve.Affine.slope_of_X_ne hx)
        case hz => exact mul_ne_zero (mul_ne_zero (mul_ne_zero hd' (pow_ne_zero 2 hz)) hz₁) hz₂
        case hx =>
          simp only [hx₁]
          field_simp
          ring
        case hy =>
          simp only [hx₁, hy₁]
          field_simp
          ring

/-- `mul` computes the multiple of a point by a scalar of at most `k` bits. -/
theorem Represents.mul [Smooth E] {T : Jacobian F} {P : Point E} (h : T.Represents P) :
  ∀ k n, n < 2 ^ k → (T.mul E.coeffA k n).Represents (n • P)
  := by
  intro k
  induction k with
  | zero =>
    intro n hn
    obtain rfl : n = 0 := by omega
    rw [zero_smul]
    exact represents_zero
  | succ k ih =>
    intro n hn
    have hhalf := (ih (n / 2) (by omega)).double
    rw [← two_smul ℕ, smul_smul] at hhalf
    rw [Jacobian.mul]
    by_cases heven : n % 2 = 0
    · have hn : 2 * (n / 2) = n := by omega
      rw [hn] at hhalf
      rw [if_pos heven]
      exact hhalf
    · have hn : 2 * (n / 2) + 1 = n := by omega
      have hsum := hhalf.add h
      rw [← succ_nsmul, hn] at hsum
      rw [if_neg heven]
      exact hsum

/-- A multiple of a point is neutral exactly when its computation ends without a third
coordinate. -/
theorem Represents.smul_eq_zero_iff [Smooth E] {T : Jacobian F} {P : Point E}
    (h : T.Represents P) (k n : ℕ) (hn : n < 2 ^ k) :
  n • P = 0 ↔ (T.mul E.coeffA k n).Z = 0
  := (h.mul k n hn).eq_zero_iff

end Jacobian

/-! ### The order of the group -/

/-- The first coordinate of a point, if it is not at infinity. -/
def Point.x? : Point E → Option F
  | .zero => none
  | .some x _ _ => some x

theorem Point.x?_eq_iff {P Q : Point E} :
  P.x? = Q.x? ↔ P = Q ∨ P = -Q
  := by
  cases P with
  | zero =>
    cases Q with
    | zero => simp [x?]
    | some x y h => simp [x?]
  | some x y h =>
    cases Q with
    | zero =>
      have hzero : (WeierstrassCurve.Affine.Point.zero : Point E) = 0 := rfl
      simp [x?, hzero]
    | some x' y' h' =>
      rw [x?, x?, Option.some_inj]
      exact WeierstrassCurve.Affine.Point.X_eq_iff

instance [Finite F] : Finite (Point E) := by
  let coordinates : Point E → Option (F × F)
    | .zero => none
    | .some x y _ => some (x, y)
  apply Finite.of_injective coordinates
  intro P Q h
  cases P <;> cases Q <;> simp_all [coordinates]

/-- There are at most two points above a coordinate. -/
theorem card_le [Finite F] :
  Nat.card (Point E) ≤ 2 * (Nat.card F + 1)
  := by
  classical
  have := Fintype.ofFinite F
  have := Fintype.ofFinite (Point E)
  have hfibre : ∀ x? ∈ Finset.univ.image (Point.x? : Point E → Option F),
      (Finset.univ.filter fun P : Point E => P.x? = x?).card ≤ 2 := by
    intro x? hx
    obtain ⟨Q, _, rfl⟩ := Finset.mem_image.mp hx
    apply (Finset.card_le_card _).trans (Finset.card_le_two (a := Q) (b := -Q))
    intro P hP
    have hP := Point.x?_eq_iff.mp (Finset.mem_filter.mp hP).2
    exact Finset.mem_insert.mpr (hP.imp_right Finset.mem_singleton.mpr)
  have himage := Finset.card_le_univ (Finset.univ.image (Point.x? : Point E → Option F))
  have hle := Finset.card_le_mul_card_image Finset.univ 2 hfibre
  rw [Fintype.card_option] at himage
  rw [Nat.card_eq_fintype_card, Nat.card_eq_fintype_card, ← Finset.card_univ]
  omega

/-- When a point has a prime order of more than a third of the bound on the number of points, and
no point has order two, every point is annihilated by that order. -/
theorem smul_eq_zero_of_card [DecidableEq F] [Finite F] {r : ℕ} (hr : r.Prime) {G : Point E}
    (hne : G ≠ 0) (hG : r • G = 0) (hcard : 2 * (Nat.card F + 1) < 3 * r)
    (htwo : ∀ P : Point E, 2 • P = 0 → P = 0) (P : Point E) :
  r • P = 0
  := by
  have := Fact.mk hr
  have horder : addOrderOf G = r := addOrderOf_eq_prime hG hne
  obtain ⟨k, hk⟩ : r ∣ Nat.card (Point E) := by
    rw [← horder]
    exact addOrderOf_dvd_natCard G
  have hle := @card_le F _ E _
  have hpos : 0 < Nat.card (Point E) := Nat.card_pos
  have hcofactor : k = 1 ∨ k = 2 := by
    have hr0 := hr.pos
    have hlt : r * k < r * 3 := by omega
    have := Nat.lt_of_mul_lt_mul_left hlt
    have : k ≠ 0 := by
      rintro rfl
      omega
    omega
  obtain rfl | rfl := hcofactor
  · rw [← mul_one r, ← hk]
    exact card_nsmul_eq_zero'
  · -- a group of even order has an element of order two
    obtain ⟨Q, hQ⟩ := exists_prime_addOrderOf_dvd_card' 2 (Dvd.intro_left r hk.symm)
    have hzero : Q = 0 := by
      apply htwo
      rw [← hQ]
      exact addOrderOf_nsmul_eq_zero Q
    rw [hzero, addOrderOf_zero] at hQ
    contradiction

end ShortWeierstrass
