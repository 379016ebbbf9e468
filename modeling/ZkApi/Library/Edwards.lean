import Mathlib.Algebra.Field.Basic
import Mathlib.Algebra.Group.Even
import Mathlib.Tactic.FieldSimp
import Mathlib.Tactic.LinearCombination
import Mathlib.Tactic.Ring

/-!
# Complete Edwards curves

`Point d` is the set of solutions of `x² + y² = 1 + d x² y²` over a field.  When `d` is not
a square, the denominators of the Edwards addition law never vanish (`one_add_ne_zero`,
`one_sub_ne_zero`), and the points form a commutative group, with neutral element `(0, 1)`
and inverse `(-x, y)`.

`Projective` computes in this group without divisions: a triple `(X, Y, Z)` represents the
point `(X / Z, Y / Z)`, and `Projective.mul` is scalar multiplication by the bits of the
scalar.
-/

namespace Edwards

variable {F : Type*} [Field F]

/-- The parameter `d` gives a complete addition law: it is not a square, in a field where
two is not zero. -/
class Complete (d : F) : Prop where
  not_isSquare : ¬ IsSquare d
  two_ne_zero : (2 : F) ≠ 0

/-- The curve equation. -/
def OnCurve (d x y : F) : Prop :=
  x ^ 2 + y ^ 2 = 1 + d * x ^ 2 * y ^ 2

instance [DecidableEq F] (d x y : F) : Decidable (OnCurve d x y) :=
  inferInstanceAs (Decidable (x ^ 2 + y ^ 2 = 1 + d * x ^ 2 * y ^ 2))

/-- A point of the curve. -/
@[ext]
structure Point (d : F) where
  x : F
  y : F
  onCurve : OnCurve d x y

instance [DecidableEq F] (d : F) : DecidableEq (Point d) := fun P Q =>
  decidable_of_iff (P.x = Q.x ∧ P.y = Q.y) (Point.ext_iff (x := P) (y := Q)).symm

/-! ### The addition law is complete -/

/-- The product that the denominators of the addition law are taken from is not a square
root of one. -/
theorem product_ne
    {d : F} [hd : Complete d] {x₁ y₁ x₂ y₂ e : F}
    (h₁ : OnCurve d x₁ y₁) (h₂ : OnCurve d x₂ y₂) (he : e ^ 2 = 1) :
  d * x₁ * x₂ * y₁ * y₂ ≠ e
  := by
  unfold OnCurve at h₁ h₂
  intro h
  have he0 : e ≠ 0 := by
    rintro rfl
    simp at he
  have hx₁ : x₁ ≠ 0 := by
    rintro rfl
    apply he0
    rw [← h]
    ring
  have hy₁ : y₁ ≠ 0 := by
    rintro rfl
    apply he0
    rw [← h]
    ring
  have hx₂ : x₂ ≠ 0 := by
    rintro rfl
    apply he0
    rw [← h]
    ring
  have square : ∀ z, z ≠ 0 → (x₁ * y₁ * z) ^ 2 * d = (x₁ + e * y₁) ^ 2
      ∨ (x₁ * y₁ * z) ^ 2 * d = (x₁ - e * y₁) ^ 2 → IsSquare d := by
    intro z hz hw
    have hne : x₁ * y₁ * z ≠ 0 := mul_ne_zero (mul_ne_zero hx₁ hy₁) hz
    rcases hw with hw | hw
    · use (x₁ + e * y₁) / (x₁ * y₁ * z)
      field_simp
      linear_combination hw
    · use (x₁ - e * y₁) / (x₁ * y₁ * z)
      field_simp
      linear_combination hw
  apply hd.not_isSquare
  by_cases hsum : x₂ + y₂ = 0
  · apply square (x₂ - y₂)
    · have hz : x₂ - y₂ = 2 * x₂ := by linear_combination -hsum
      rw [hz]
      apply mul_ne_zero hd.two_ne_zero hx₂
    · right
      linear_combination d * x₁ ^ 2 * y₁ ^ 2 * h₂ - h₁ + (1 - y₁ ^ 2) * he
        + (d * x₁ * x₂ * y₁ * y₂ + e - 2 * x₁ * y₁) * h
  · apply square (x₂ + y₂) hsum
    left
    linear_combination d * x₁ ^ 2 * y₁ ^ 2 * h₂ - h₁ + (1 - y₁ ^ 2) * he
      + (d * x₁ * x₂ * y₁ * y₂ + e + 2 * x₁ * y₁) * h

/-- The denominator of the first coordinate of a sum is not zero. -/
theorem one_add_ne_zero
    {d : F} [Complete d] {x₁ y₁ x₂ y₂ : F} (h₁ : OnCurve d x₁ y₁) (h₂ : OnCurve d x₂ y₂) :
  1 + d * x₁ * x₂ * y₁ * y₂ ≠ 0
  := by
  intro h
  apply product_ne (e := -1) h₁ h₂ (by ring)
  linear_combination h

/-- The denominator of the second coordinate of a sum is not zero. -/
theorem one_sub_ne_zero
    {d : F} [Complete d] {x₁ y₁ x₂ y₂ : F} (h₁ : OnCurve d x₁ y₁) (h₂ : OnCurve d x₂ y₂) :
  1 - d * x₁ * x₂ * y₁ * y₂ ≠ 0
  := by
  intro h
  apply product_ne (e := 1) h₁ h₂ (by ring)
  linear_combination -h

/-- The curve is closed under addition, in the form without denominators. -/
theorem closed
    {d x₁ y₁ x₂ y₂ : F} (h₁ : OnCurve d x₁ y₁) (h₂ : OnCurve d x₂ y₂) :
  (x₁ * y₂ + y₁ * x₂) ^ 2 * (1 - d * x₁ * x₂ * y₁ * y₂) ^ 2
      + (y₁ * y₂ - x₁ * x₂) ^ 2 * (1 + d * x₁ * x₂ * y₁ * y₂) ^ 2
    = (1 + d * x₁ * x₂ * y₁ * y₂) ^ 2 * (1 - d * x₁ * x₂ * y₁ * y₂) ^ 2
      + d * (x₁ * y₂ + y₁ * x₂) ^ 2 * (y₁ * y₂ - x₁ * x₂) ^ 2
  := by
  unfold OnCurve at h₁ h₂
  linear_combination (1 + y₁ ^ 2 + x₁ ^ 2 + d * x₁ ^ 2 * y₁ ^ 2 + 2 * x₁ ^ 2 * y₁ ^ 2 * y₂ ^ 2
      + d * x₁ ^ 2 * y₁ ^ 2 * y₂ ^ 4 + 2 * x₁ ^ 2 * y₁ ^ 2 * x₂ ^ 2 + d * x₁ ^ 2 * y₁ ^ 2 * x₂ ^ 4
      - y₁ ^ 2 * y₂ ^ 2 - y₁ ^ 2 * x₂ ^ 2 - x₁ ^ 2 * y₂ ^ 2 - x₁ ^ 2 * x₂ ^ 2 - 2 * x₁ ^ 2 * y₁ ^
      2 - 2 * d * x₁ ^ 2 * y₁ ^ 2 * y₂ ^ 2 - 2 * d * x₁ ^ 2 * y₁ ^ 2 * x₂ ^ 2) * h₁ + (y₁ ^ 4 + 4
      * x₁ ^ 2 * y₁ ^ 2 + x₁ ^ 4 + 2 * d * x₁ ^ 4 * y₁ ^ 4 + d ^ 2 * x₁ ^ 4 * y₁ ^ 4 * y₂ ^ 2 + d
      ^ 2 * x₁ ^ 4 * y₁ ^ 4 * x₂ ^ 2 + d ^ 3 * x₁ ^ 4 * y₁ ^ 4 * x₂ ^ 2 * y₂ ^ 2 - 2 * d * x₁ ^ 2
      * y₁ ^ 2 - 2 * x₁ ^ 2 * y₁ ^ 4 - d * x₁ ^ 2 * y₁ ^ 4 * y₂ ^ 2 - d * x₁ ^ 2 * y₁ ^ 4 * x₂ ^ 2
      - 2 * x₁ ^ 4 * y₁ ^ 2 - d * x₁ ^ 4 * y₁ ^ 2 * y₂ ^ 2 - d * x₁ ^ 4 * y₁ ^ 2 * x₂ ^ 2 - d ^ 2
      * x₁ ^ 4 * y₁ ^ 4) * h₂

/-- The addition law is associative in the first coordinate, in the form without
denominators. -/
theorem assoc_numerator
    {d x₁ y₁ x₂ y₂ x₃ y₃ : F}
    (h₁ : OnCurve d x₁ y₁) (h₂ : OnCurve d x₂ y₂) (h₃ : OnCurve d x₃ y₃) :
  ((x₁ * y₂ + y₁ * x₂) * (1 - d * x₁ * x₂ * y₁ * y₂) * y₃
      + (y₁ * y₂ - x₁ * x₂) * (1 + d * x₁ * x₂ * y₁ * y₂) * x₃)
      * ((1 + d * x₂ * x₃ * y₂ * y₃) * (1 - d * x₂ * x₃ * y₂ * y₃)
        + d * x₁ * y₁ * (x₂ * y₃ + y₂ * x₃) * (y₂ * y₃ - x₂ * x₃))
    = (x₁ * (y₂ * y₃ - x₂ * x₃) * (1 + d * x₂ * x₃ * y₂ * y₃)
      + y₁ * (x₂ * y₃ + y₂ * x₃) * (1 - d * x₂ * x₃ * y₂ * y₃))
      * ((1 + d * x₁ * x₂ * y₁ * y₂) * (1 - d * x₁ * x₂ * y₁ * y₂)
        + d * (x₁ * y₂ + y₁ * x₂) * (y₁ * y₂ - x₁ * x₂) * x₃ * y₃)
  := by
  unfold OnCurve at h₁ h₂ h₃
  linear_combination d * x₂ * y₂ * ((y₁ * x₂ * y₂ ^ 2 * x₃ ^ 3 + y₁ * x₂ ^ 2 * y₂ * y₃ ^ 3 + d
      * y₁ * x₂ ^ 2 * y₂ ^ 3 * x₃ ^ 2 * y₃ + d * y₁ * x₂ ^ 3 * y₂ ^ 2 * x₃ * y₃ ^ 2 + x₁ * y₂ ^ 3
      * x₃ * y₃ ^ 2 + x₁ * x₂ * y₂ ^ 2 * y₃ ^ 3 + x₁ * x₂ ^ 2 * y₂ * x₃ + d * x₁ * x₂ ^ 3 * y₂ ^ 2
      * x₃ ^ 2 * y₃ - y₁ * y₂ ^ 3 * x₃ ^ 2 * y₃ - y₁ * x₂ * y₂ ^ 2 * x₃ - y₁ * x₂ ^ 2 * y₂ * y₃ -
      y₁ * x₂ ^ 3 * x₃ * y₃ ^ 2 - x₁ * x₂ * y₂ ^ 2 * y₃ - x₁ * x₂ ^ 2 * y₂ * x₃ ^ 3 - d * x₁ * x₂
      ^ 2 * y₂ ^ 3 * x₃ * y₃ ^ 2 - x₁ * x₂ ^ 3 * x₃ ^ 2 * y₃) * h₁ + (y₁ ^ 3 * y₂ * x₃ ^ 2 * y₃ +
      y₁ ^ 3 * x₂ * x₃ * y₃ ^ 2 + x₁ * y₂ * x₃ * y₃ ^ 2 + x₁ * y₁ ^ 2 * y₂ * x₃ ^ 3 + x₁ * y₁ ^ 2
      * x₂ * y₃ + x₁ ^ 2 * y₁ * y₂ * y₃ + x₁ ^ 2 * y₁ * x₂ * x₃ + x₁ ^ 3 * x₂ * x₃ ^ 2 * y₃ - y₁ *
      y₂ * x₃ ^ 2 * y₃ - y₁ * x₂ * x₃ * y₃ ^ 2 - x₁ * x₂ * x₃ ^ 2 * y₃ - x₁ * y₁ ^ 2 * y₂ * x₃ -
      x₁ * y₁ ^ 2 * x₂ * y₃ ^ 3 - x₁ ^ 2 * y₁ * y₂ * y₃ ^ 3 - x₁ ^ 2 * y₁ * x₂ * x₃ ^ 3 - x₁ ^ 3 *
      y₂ * x₃ * y₃ ^ 2) * h₂ + (y₁ * x₂ * y₂ ^ 2 * x₃ + y₁ * x₂ ^ 2 * y₂ * y₃ + x₁ * x₂ * y₂ ^ 2 *
      y₃ + d * x₁ * y₁ ^ 2 * x₂ ^ 2 * y₂ ^ 3 * x₃ + x₁ * y₁ ^ 2 * x₂ ^ 3 * y₃ + x₁ ^ 2 * y₁ * y₂ ^
      3 * y₃ + x₁ ^ 2 * y₁ * x₂ ^ 3 * x₃ + x₁ ^ 3 * x₂ ^ 2 * y₂ * x₃ - y₁ ^ 3 * x₂ * y₂ ^ 2 * x₃ -
      y₁ ^ 3 * x₂ ^ 2 * y₂ * y₃ - x₁ * x₂ ^ 2 * y₂ * x₃ - x₁ * y₁ ^ 2 * y₂ ^ 3 * x₃ - d * x₁ * y₁
      ^ 2 * x₂ ^ 3 * y₂ ^ 2 * y₃ - d * x₁ ^ 2 * y₁ * x₂ ^ 2 * y₂ ^ 3 * y₃ - d * x₁ ^ 2 * y₁ * x₂ ^
      3 * y₂ ^ 2 * x₃ - x₁ ^ 3 * x₂ * y₂ ^ 2 * y₃) * h₃)

/-- A pair of quotients is on the curve when the curve equation holds without
denominators. -/
theorem onCurve_div
    {d a b p m : F} (hp : p ≠ 0) (hm : m ≠ 0)
    (h : a ^ 2 * m ^ 2 + b ^ 2 * p ^ 2 = p ^ 2 * m ^ 2 + d * a ^ 2 * b ^ 2) :
  OnCurve d (a / p) (b / m)
  := by
  unfold OnCurve
  field_simp
  linear_combination h

/-! ### The group of points -/

namespace Point

variable {d : F}

instance : Zero (Point d) where
  zero :=
    { x := 0
      y := 1
      onCurve := by unfold OnCurve; ring }

instance : Neg (Point d) where
  neg P :=
    { x := -P.x
      y := P.y
      onCurve := by have h := P.onCurve; unfold OnCurve at h ⊢; linear_combination h }

@[simp]
theorem zero_x : (0 : Point d).x = 0 := rfl

@[simp]
theorem zero_y : (0 : Point d).y = 1 := rfl

@[simp]
theorem neg_x (P : Point d) : (-P).x = -P.x := rfl

@[simp]
theorem neg_y (P : Point d) : (-P).y = P.y := rfl

/-- The quarter turn of a point about the origin. -/
def turn (P : Point d) : Point d where
  x := P.y
  y := -P.x
  onCurve := by have h := P.onCurve; unfold OnCurve at h ⊢; linear_combination h

variable [Complete d]

/-- The Edwards addition law. -/
instance : Add (Point d) where
  add P Q :=
    { x := (P.x * Q.y + P.y * Q.x) / (1 + d * P.x * Q.x * P.y * Q.y)
      y := (P.y * Q.y - P.x * Q.x) / (1 - d * P.x * Q.x * P.y * Q.y)
      onCurve :=
        onCurve_div (one_add_ne_zero P.onCurve Q.onCurve) (one_sub_ne_zero P.onCurve Q.onCurve)
          (closed P.onCurve Q.onCurve) }

theorem add_x (P Q : Point d) :
  (P + Q).x = (P.x * Q.y + P.y * Q.x) / (1 + d * P.x * Q.x * P.y * Q.y)
  := rfl

theorem add_y (P Q : Point d) :
  (P + Q).y = (P.y * Q.y - P.x * Q.x) / (1 - d * P.x * Q.x * P.y * Q.y)
  := rfl

protected theorem add_comm (P Q : Point d) :
  P + Q = Q + P
  := by
  ext
  · rw [add_x, add_x]
    congr 1 <;> ring
  · rw [add_y, add_y]
    congr 1 <;> ring

/-- Turning commutes with addition of a fixed point. -/
theorem turn_add (P Q : Point d) :
  (P + Q).turn = P.turn + Q
  := by
  ext
  · rw [add_x]
    simp only [turn, add_y]
    congr 1 <;> ring
  · rw [add_y]
    simp only [turn, add_x]
    rw [← neg_div]
    congr 1 <;> ring

/-- The first coordinate of a sum of three points, as one quotient. -/
theorem add_add_x (P Q R : Point d) :
  (P + Q + R).x
    = ((P.x * Q.y + P.y * Q.x) * (1 - d * P.x * Q.x * P.y * Q.y) * R.y
        + (P.y * Q.y - P.x * Q.x) * (1 + d * P.x * Q.x * P.y * Q.y) * R.x)
      / ((1 + d * P.x * Q.x * P.y * Q.y) * (1 - d * P.x * Q.x * P.y * Q.y)
        + d * (P.x * Q.y + P.y * Q.x) * (P.y * Q.y - P.x * Q.x) * R.x * R.y)
  := by
  have hp := one_add_ne_zero P.onCurve Q.onCurve
  have hm := one_sub_ne_zero P.onCurve Q.onCurve
  rw [add_x (P + Q) R, add_x P Q, add_y P Q]
  generalize 1 + d * P.x * Q.x * P.y * Q.y = p at *
  generalize 1 - d * P.x * Q.x * P.y * Q.y = m at *
  generalize P.x * Q.y + P.y * Q.x = a
  generalize P.y * Q.y - P.x * Q.x = b
  have hnum : a / p * R.y + b / m * R.x = (a * m * R.y + b * p * R.x) / (p * m) := by
    field_simp
  have hden : 1 + d * (a / p) * R.x * (b / m) * R.y
      = (p * m + d * a * b * R.x * R.y) / (p * m) := by
    field_simp
  rw [hnum, hden, div_div_div_cancel_right₀ (mul_ne_zero hp hm)]

/-- The denominator of a sum of three points is not zero. -/
theorem add_add_denominator_ne_zero (P Q R : Point d) :
  (1 + d * P.x * Q.x * P.y * Q.y) * (1 - d * P.x * Q.x * P.y * Q.y)
      + d * (P.x * Q.y + P.y * Q.x) * (P.y * Q.y - P.x * Q.x) * R.x * R.y ≠ 0
  := by
  have hp := one_add_ne_zero P.onCurve Q.onCurve
  have hm := one_sub_ne_zero P.onCurve Q.onCurve
  have h := one_add_ne_zero (P + Q).onCurve R.onCurve
  rw [add_x P Q, add_y P Q] at h
  generalize 1 + d * P.x * Q.x * P.y * Q.y = p at *
  generalize 1 - d * P.x * Q.x * P.y * Q.y = m at *
  generalize P.x * Q.y + P.y * Q.x = a at *
  generalize P.y * Q.y - P.x * Q.x = b at *
  intro h0
  apply h
  field_simp
  linear_combination h0

theorem add_assoc_x (P Q R : Point d) :
  (P + Q + R).x = (P + (Q + R)).x
  := by
  rw [Point.add_comm P (Q + R), add_add_x P Q R, add_add_x Q R P,
    div_eq_div_iff (add_add_denominator_ne_zero P Q R) (add_add_denominator_ne_zero Q R P)]
  linear_combination assoc_numerator P.onCurve Q.onCurve R.onCurve

protected theorem add_assoc (P Q R : Point d) :
  P + Q + R = P + (Q + R)
  := by
  ext
  · apply add_assoc_x
  · -- the second coordinate is the first of the turned sum
    have h := add_assoc_x P.turn Q R
    rw [← turn_add, ← turn_add, ← turn_add] at h
    apply h

protected theorem zero_add (P : Point d) :
  0 + P = P
  := by
  ext
  · simp [add_x]
  · simp [add_y]

protected theorem neg_add_cancel (P : Point d) :
  -P + P = 0
  := by
  have hm := one_sub_ne_zero (-P).onCurve P.onCurve
  have h := P.onCurve
  ext
  · rw [add_x, neg_x, neg_y, zero_x]
    apply div_eq_zero_iff.mpr
    left
    ring
  · rw [add_y, zero_y, div_eq_one_iff_eq hm, neg_x, neg_y]
    unfold OnCurve at h
    linear_combination h

instance : AddCommGroup (Point d) where
  add_assoc := Point.add_assoc
  zero_add := Point.zero_add
  add_zero P := by rw [Point.add_comm, Point.zero_add]
  add_comm := Point.add_comm
  neg_add_cancel := Point.neg_add_cancel
  nsmul := nsmulRec
  zsmul := zsmulRec

end Point

/-! ### Computation without divisions -/

/-- Projective coordinates: the triple `(X, Y, Z)` stands for the point `(X / Z, Y / Z)`. -/
structure Projective (F : Type*) where
  X : F
  Y : F
  Z : F
  deriving DecidableEq

namespace Projective

variable {d : F}

/-- The triple `T` stands for the point `P`. -/
structure Represents (T : Projective F) (P : Point d) : Prop where
  z_ne_zero : T.Z ≠ 0
  x_eq : T.X = P.x * T.Z
  y_eq : T.Y = P.y * T.Z

/-- The neutral element. -/
def zero : Projective F := ⟨0, 1, 1⟩

/-- A point in projective coordinates. -/
def ofPoint (P : Point d) : Projective F := ⟨P.x, P.y, 1⟩

/-- Addition in projective coordinates. -/
def add (d : F) (S T : Projective F) : Projective F :=
  let a := S.Z * T.Z
  let e := d * (S.X * T.X) * (S.Y * T.Y)
  { X := a * (a ^ 2 - e) * (S.X * T.Y + S.Y * T.X)
    Y := a * (a ^ 2 + e) * (S.Y * T.Y - S.X * T.X)
    Z := (a ^ 2 - e) * (a ^ 2 + e) }

/-- Scalar multiplication by the `k` low bits of `n`, most significant bit first. -/
def mul (d : F) (T : Projective F) : ℕ → ℕ → Projective F
  | 0, _ => zero
  | k + 1, n =>
      let S := mul d T k (n / 2)
      if n % 2 = 0 then add d S S else add d (add d S S) T

theorem represents_zero :
  (zero : Projective F).Represents (0 : Point d)
  where
  z_ne_zero := one_ne_zero
  x_eq := by simp [zero]
  y_eq := by simp [zero]

theorem represents_ofPoint (P : Point d) :
  (ofPoint P).Represents P
  where
  z_ne_zero := one_ne_zero
  x_eq := by simp [ofPoint]
  y_eq := by simp [ofPoint]

variable [Complete d]

theorem Represents.add
    {S T : Projective F} {P Q : Point d} (hS : S.Represents P) (hT : T.Represents Q) :
  (Projective.add d S T).Represents (P + Q)
  := by
  have hp := one_add_ne_zero P.onCurve Q.onCurve
  have hm := one_sub_ne_zero P.onCurve Q.onCurve
  have hz : S.Z * T.Z ≠ 0 := mul_ne_zero hS.z_ne_zero hT.z_ne_zero
  have hZ : (Projective.add d S T).Z
      = (S.Z * T.Z) ^ 4 * ((1 - d * P.x * Q.x * P.y * Q.y) * (1 + d * P.x * Q.x * P.y * Q.y)) := by
    simp only [Projective.add, hS.x_eq, hS.y_eq, hT.x_eq, hT.y_eq]
    ring
  constructor
  · rw [hZ]
    apply mul_ne_zero (pow_ne_zero 4 hz) (mul_ne_zero hm hp)
  · rw [hZ, Point.add_x]
    simp only [Projective.add, hS.x_eq, hS.y_eq, hT.x_eq, hT.y_eq]
    rw [div_mul_eq_mul_div, eq_div_iff hp]
    ring
  · rw [hZ, Point.add_y]
    simp only [Projective.add, hS.x_eq, hS.y_eq, hT.x_eq, hT.y_eq]
    rw [div_mul_eq_mul_div, eq_div_iff hm]
    ring

/-- `mul` computes the multiple of a point by a scalar of at most `k` bits. -/
theorem Represents.mul
    {T : Projective F} {P : Point d} (hT : T.Represents P) :
  ∀ k n, n < 2 ^ k → (Projective.mul d T k n).Represents (n • P)
  | 0, n, h => by
      obtain rfl : n = 0 := by omega
      rw [zero_smul]
      apply represents_zero
  | k + 1, n, h => by
      have ih := hT.mul k (n / 2) (by omega)
      have hn : n / 2 + n / 2 + n % 2 = n := by omega
      have hP : n • P = (n / 2) • P + (n / 2) • P + (n % 2) • P := by
        rw [← add_smul, ← add_smul, hn]
      rw [Projective.mul, hP]
      rcases Nat.mod_two_eq_zero_or_one n with h0 | h1
      · rw [if_pos h0, h0, zero_smul, add_zero]
        apply ih.add ih
      · rw [if_neg (by omega), h1, one_smul]
        apply (ih.add ih).add hT

/-- A multiple of a point vanishes when its projective computation ends in a triple that
stands for `(0, 1)`. -/
theorem smul_eq_zero_of_mul
    (P : Point d) (k n : ℕ) (hn : n < 2 ^ k)
    (h : (Projective.mul d (ofPoint P) k n).X = 0
      ∧ (Projective.mul d (ofPoint P) k n).Y = (Projective.mul d (ofPoint P) k n).Z) :
  n • P = 0
  := by
  obtain ⟨hz, hx, hy⟩ := (represents_ofPoint P).mul k n hn
  obtain ⟨h0, h1⟩ := h
  ext
  · rw [h0] at hx
    apply (mul_eq_zero.mp hx.symm).resolve_right hz
  · rw [h1] at hy
    rw [Point.zero_y]
    apply mul_right_cancel₀ hz
    rw [one_mul, ← hy]

end Projective

end Edwards
