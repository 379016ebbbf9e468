import ZkApi.Library.Primality
import ZkApi.Library.ShortWeierstrass
import ZkApi.Stark.Hashes

/-!
# The Stark curve

The curve `y² = x³ + x + β` over the Stark field, with the points that balances and blindings are
committed with.  Field elements are hashed and stored as remainders; `toFp` takes them to the field
where they are calculated with.
-/

namespace ZkApi.Stark

open ShortWeierstrass (OnCurve Point Smooth Jacobian)

/-! ### The field -/

/-- The modulus of the field is prime. -/
theorem fieldPrime_prime :
  fieldPrime.Prime
  := by
  apply Primality.of_factorization 3 256
    [(2, 192), (5, 1), (7, 1), (98714381, 1), (166848103, 1)]
  case hone | hne => decide +kernel
  all_goals norm_num [fieldPrime]

instance : Fact fieldPrime.Prime := ⟨fieldPrime_prime⟩

/-- The field. -/
abbrev Fp : Type := ZMod fieldPrime

/-- A remainder in the field. -/
def toFp (x : Felt) : Fp := (x.val : Fp)

/-- The remainder of an element of the field. -/
def ofFp (x : Fp) : Felt := ⟨x.val, ZMod.val_lt x⟩

@[simp]
theorem toFp_ofFp (x : Fp) :
  toFp (ofFp x) = x
  := ZMod.natCast_zmod_val x

@[simp]
theorem ofFp_toFp (x : Felt) :
  ofFp (toFp x) = x
  := Fin.ext (ZMod.val_cast_of_lt x.isLt)

theorem toFp_inj {x y : Felt} :
  toFp x = toFp y ↔ x = y
  := by
  constructor
  · intro h
    rw [← ofFp_toFp x, h, ofFp_toFp]
  · rintro rfl
    rfl

/-! ### The curve -/

/-- The constant of the curve. -/
def beta : ℕ :=
  0x06f21413efbe40de150e596d72f7a8c5609ad26c15c915c1f4cdfcb99cee9e89

/-- The coefficients of the curve. -/
def curveConfig : ShortWeierstrass.Curve Fp where
  coeffA := 1
  coeffB := (beta : Fp)

instance : Smooth curveConfig where
  discriminant_ne_zero := by decide +kernel
  two_ne_zero := by decide +kernel

/-- `CURVE_ORDER_HEX`. -/
def curveOrder : ℕ :=
  0x0800000000000010ffffffffffffffffb781126dcae7b2321e66a241adc64d2f

theorem curveOrder_lt :
  curveOrder < fieldPrime
  := by norm_num [curveOrder, fieldPrime]

/-- The points of the curve. -/
abbrev CurvePoint : Type := Point curveConfig

/-- The point with the given coordinates, if there is one. -/
def pointAt (x y : Felt) : Option (CurvePoint) :=
  if h : OnCurve curveConfig (toFp x) (toFp y) then some (.ofOnCurve h) else none

/-- The coordinates of a point, if it is not at infinity. -/
def coordinates : CurvePoint → Option (Felt × Felt)
  | .zero => none
  | .some x y _ => some (ofFp x, ofFp y)

/-- A point that is not at infinity is the one with its coordinates. -/
theorem coordinates_eq_some {P : CurvePoint} {x y : Felt} :
  coordinates P = some (x, y) ↔ pointAt x y = some P
  := by
  rw [pointAt]
  split
  case isTrue h =>
    rw [Option.some_inj]
    cases P with
    | zero =>
      constructor
      · rintro ⟨⟩
      · intro hzero
        exact absurd hzero (Point.ofOnCurve_ne_zero h)
    | some x' y' h' =>
      rw [coordinates, Option.some_inj, Prod.mk.injEq, Point.ofOnCurve,
        WeierstrassCurve.Affine.Point.some.injEq]
      constructor
      · rintro ⟨rfl, rfl⟩
        exact ⟨toFp_ofFp x', toFp_ofFp y'⟩
      · rintro ⟨rfl, rfl⟩
        exact ⟨ofFp_toFp x, ofFp_toFp y⟩
  case isFalse h =>
    constructor
    · intro hcoordinates
      cases P with
      | zero => cases hcoordinates
      | some x' y' h' =>
        cases hcoordinates
        rw [toFp_ofFp, toFp_ofFp] at h
        exact absurd (ShortWeierstrass.nonsingular_iff.mp h') h
    · rintro ⟨⟩

/-- What implements the curve. -/
structure Curve.Implements (C : Curve) (toPoint : C.Point → CurvePoint) : Prop where
  identity : toPoint C.identity = 0
  add : ∀ P Q, toPoint (C.add P Q) = toPoint P + toPoint Q
  neg : ∀ P, toPoint (C.neg P) = -toPoint P
  fromAffine : ∀ x y, (C.fromAffine x y).map toPoint = pointAt x y
  toAffine : ∀ P, C.toAffine P = coordinates (toPoint P)

/-- The group of the points of the curve. -/
def groupCurve : Curve where
  Point := CurvePoint
  identity := 0
  add P Q := P + Q
  neg P := -P
  fromAffine := pointAt
  toAffine := coordinates

theorem groupCurve_implements :
  groupCurve.Implements id
  := by
  constructor
  case fromAffine =>
    intro x y
    apply Option.map_id_apply
  all_goals intros; rfl

/-! ### The generators -/

/-- `G_BALANCE_X_HEX`. -/
def balanceX : Fp := ((0x02e60e3230fe061dbebac8fd2cfa503e4eb92783aeb5fd6fb931a66ee277e4d3 : ℕ) : Fp)

/-- `G_BALANCE_Y_HEX`. -/
def balanceY : Fp := ((0x039289536a4fb4c04778f51eed313db47730cf86d342fd3f80f27bed1c2febac : ℕ) : Fp)

/-- `H_BLIND_X_HEX`. -/
def blindX : Fp := ((0x009ed31288dc3e29f8759144b455aa05f39eee1a947e92fc1a9d71d15ed49faa : ℕ) : Fp)

/-- `H_BLIND_Y_HEX`. -/
def blindY : Fp := ((0x073853a56a47d4dbeaf5c18ca78fbf64f414d5fccefaac0227d5c2654d2ca9b4 : ℕ) : Fp)

theorem balance_onCurve :
  OnCurve curveConfig balanceX balanceY
  := by decide +kernel

theorem blind_onCurve :
  OnCurve curveConfig blindX blindY
  := by decide +kernel

/-- The point that balances are multiplied with. -/
def balancePoint : CurvePoint := .ofOnCurve balance_onCurve

/-- The point that blindings are multiplied with. -/
def blindPoint : CurvePoint := .ofOnCurve blind_onCurve

theorem curveOrder_smul_blindPoint :
  curveOrder • blindPoint = 0
  := by
  have hrepresents := Jacobian.represents_ofOnCurve blind_onCurve
  rw [blindPoint, hrepresents.smul_eq_zero_iff 252 curveOrder (by decide)]
  decide +kernel

/-- What a balance and a blinding are committed to. -/
def commitment (balance blinding : ℕ) : CurvePoint :=
  balance • balancePoint + blinding • blindPoint

end ZkApi.Stark
