import ZkApi.Cairo.Xmss
import ZkApi.Stark.Pedersen

/-!
# Pedersen commitments in Cairo

The programs in Cairo commit to balances with affine formulas of their own, which tell a point at
infinity by a flag, and multiply by scalars from the lowest bit, 128 bits for a balance and 252 for
a blinding.  They never divide by zero, and their commitments have the coordinates of those in Rust,
whatever implements the curve there.
-/

namespace ZkApi.Cairo

open Stark (Felt Fp CurvePoint toFp ofFp feltToField fieldToFelt curveConfig coordinates pointAt
  balancePoint blindPoint commitment)
open ShortWeierstrass (OnCurve Point nonsingular_iff)

/-! ### The language -/

/-- The conversion of a field element to a `u128`. -/
def feltToU128 (a : Felt) (message : String) : Except String U128 :=
  if a.val < 2 ^ 128 then .ok (BitVec.ofNat 128 a.val) else .error message

/-- The conversion of a `u256` to a field element. -/
def u256ToFelt (a : U256) (message : String) : Except String Felt :=
  if a.toNat < Stark.fieldPrime then .ok (feltToField a) else .error message

/-- Addition of `u256`. -/
def u256Add (a b : U256) : Except String U256 :=
  if a.toNat + b.toNat < 2 ^ 256 then .ok (a + b) else .error "u256_add Overflow"

/-- Subtraction of `u256`. -/
def u256Sub (a b : U256) : Except String U256 :=
  if b ≤ a then .ok (a - b) else .error "u256_sub Overflow"

/-- The conversion to `NonZero`. -/
def nonZero (a : Fp) (message : String) : Except String { b : Fp // b ≠ 0 } :=
  if h : a = 0 then .error message else .ok ⟨a, h⟩

/-- `felt252_div`. -/
def felt252Div (a : Fp) (b : { b : Fp // b ≠ 0 }) : Fp :=
  a / b

/-! ### Constants -/

def G_BALANCE_X : Fp :=
  ((0x2e60e3230fe061dbebac8fd2cfa503e4eb92783aeb5fd6fb931a66ee277e4d3 : ℕ) : Fp)

def G_BALANCE_Y : Fp :=
  ((0x39289536a4fb4c04778f51eed313db47730cf86d342fd3f80f27bed1c2febac : ℕ) : Fp)

def H_BLIND_X : Fp :=
  ((0x9ed31288dc3e29f8759144b455aa05f39eee1a947e92fc1a9d71d15ed49faa : ℕ) : Fp)

def H_BLIND_Y : Fp :=
  ((0x73853a56a47d4dbeaf5c18ca78fbf64f414d5fccefaac0227d5c2654d2ca9b4 : ℕ) : Fp)

def EC_ORDER : U256 :=
  0x0800000000000010ffffffffffffffffb781126dcae7b2321e66a241adc64d2f

/-! ### Points -/

/-- `add_blinding`. -/
def addBlinding (a b : Felt) : Except String Felt := do
  let sum ← u256Add (fieldToFelt a) (fieldToFelt b)
  let reduced ← if EC_ORDER ≤ sum then u256Sub sum EC_ORDER else pure sum
  u256ToFelt reduced "blinding exceeds felt"

section

-- The numerals `2` and `3` of the tangent.
local instance atLeastTwo_two : Nat.AtLeastTwo 2 := ⟨le_rfl⟩

local instance atLeastTwo_three : Nat.AtLeastTwo 3 := ⟨Nat.le_succ 2⟩

/-- `point_double`. -/
def pointDouble (isInf : Bool) (x y : Fp) : Except String (Bool × Fp × Fp) :=
  if isInf then
    return (true, 0, 0)
  else if y = 0 then
    return (true, 0, 0)
  else do
    let denominator ← nonZero (2 * y) "zero denominator"
    let slope := felt252Div (3 * x * x + 1) denominator
    let x3 := slope * slope - x - x
    let y3 := slope * (x - x3) - y
    return (false, x3, y3)

end

/-- `point_add`. -/
def pointAdd (pInf : Bool) (px py : Fp) (qInf : Bool) (qx qy : Fp) :
    Except String (Bool × Fp × Fp) :=
  if pInf then
    return (qInf, qx, qy)
  else if qInf then
    return (pInf, px, py)
  else if px = qx then
    if py = qy then pointDouble pInf px py else return (true, 0, 0)
  else do
    let denominator ← nonZero (qx - px) "zero denominator"
    let slope := felt252Div (qy - py) denominator
    let x3 := slope * slope - px - qx
    let y3 := slope * (px - x3) - py
    return (false, x3, y3)

/-- What the loop of a multiplication assigns, for a scalar of `w` bits. -/
structure ScalarMulState (w : ℕ) where
  result : Bool × Fp × Fp
  addend : Bool × Fp × Fp
  remaining : BitVec w

/-- The body of the loop of `scalar_mul` and `scalar_mul_balance`. -/
def scalarMulStep {w : ℕ} (state : ScalarMulState w) : Except String (ScalarMulState w) := do
  let (resultInf, resultX, resultY) := state.result
  let (addendInf, addendX, addendY) := state.addend
  let nextRemaining := state.remaining / 2
  let bit := state.remaining % 2
  let result ← if bit = 1 then pointAdd resultInf resultX resultY addendInf addendX addendY
    else pure state.result
  let addend ← pointDouble addendInf addendX addendY
  return { result, addend, remaining := nextRemaining }

/-- The loop of `scalar_mul` and `scalar_mul_balance`. -/
def scalarMulLoop {w : ℕ} (pointX pointY : Fp) (remaining : BitVec w) (scalarBits : ℕ) :
    Except String (Bool × Fp × Fp) := do
  let state ← whileBelow scalarBits (fun _ => scalarMulStep)
    { result := (true, 0, 0), addend := (false, pointX, pointY), remaining }
  return state.result

/-- `scalar_mul`. -/
def scalarMul (pointX pointY : Fp) (scalar : Felt) (scalarBits : ℕ) :
    Except String (Bool × Fp × Fp) :=
  scalarMulLoop pointX pointY (fieldToFelt scalar) scalarBits

/-- `scalar_mul_balance`. -/
def scalarMulBalance (pointX pointY : Fp) (scalar : U128) : Except String (Bool × Fp × Fp) :=
  scalarMulLoop pointX pointY scalar 128

/-- `compute_commitment`. -/
def computeCommitment (balance blinding : Felt) : Except String (Felt × Felt) := do
  let balanceU128 ← feltToU128 balance "balance exceeds u128"
  let (gInf, gX, gY) ← scalarMulBalance G_BALANCE_X G_BALANCE_Y balanceU128
  let (hInf, hX, hY) ← scalarMul H_BLIND_X H_BLIND_Y blinding 252
  let (resultInf, resultX, resultY) ← pointAdd gInf gX gY hInf hX hY
  assert (!resultInf) "commitment is infinity"
  return (ofFp resultX, ofFp resultY)

/-- `rerandomize_commitment`. -/
def rerandomizeCommitment (commitmentX commitmentY delta : Felt) :
    Except String (Felt × Felt) := do
  let (deltaInf, deltaX, deltaY) ← scalarMul H_BLIND_X H_BLIND_Y delta 252
  let (resultInf, resultX, resultY) ← pointAdd false (toFp commitmentX) (toFp commitmentY)
    deltaInf deltaX deltaY
  assert (!resultInf) "commitment is infinity"
  return (ofFp resultX, ofFp resultY)

/-! ### Loops -/

/-- A loop keeps what its body keeps. -/
theorem exists_whileBelow {σ : Type} {n : ℕ} {body : U32 → σ → Except String σ} {state : σ}
    (Inv : ℕ → σ → Prop) (hinit : Inv 0 state)
    (hbody : ∀ i < n, ∀ state, Inv i state →
      ∃ state', body (BitVec.ofNat 32 i) state = .ok state' ∧ Inv (i + 1) state') :
  ∃ state', whileBelow n body state = .ok state' ∧ Inv n state'
  := by
  rw [whileBelow]
  induction n with
  | zero => exact ⟨state, rfl, hinit⟩
  | succ n ih =>
    obtain ⟨before, hbefore, hinv⟩ := ih fun i hi => hbody i (hi.trans n.lt_succ_self)
    obtain ⟨after, hafter, hinv'⟩ := hbody n n.lt_succ_self before hinv
    refine ⟨after, ?_, hinv'⟩
    rw [List.range_succ, List.foldlM_append, hbefore, ok_bind, List.foldlM_cons, hafter, ok_bind]
    rfl

/-! ### What the formulas calculate -/

/-- The point that a flag and coordinates stand for. -/
inductive Represents : Bool × Fp × Fp → CurvePoint → Prop
  | infinity (x y : Fp) : Represents (true, x, y) 0
  | affine (x y : Fp) (h : curveConfig.toWeierstrass.Nonsingular x y) :
      Represents (false, x, y) (.some x y h)

theorem nonZero_of_ne {a : Fp} {message : String} (h : a ≠ 0) :
  nonZero a message = .ok ⟨a, h⟩
  := dif_neg h

theorem pointDouble_represents {isInf : Bool} {x y : Fp} {P : CurvePoint}
    (h : Represents (isInf, x, y) P) :
  ∃ R, pointDouble isInf x y = .ok R ∧ Represents R (P + P)
  := by
  cases h with
  | infinity =>
    rw [add_zero]
    exact ⟨_, rfl, .infinity 0 0⟩
  | affine _ _ h =>
    rw [pointDouble, if_neg Bool.false_ne_true]
    by_cases hy : y = 0
    · -- a point of order two
      have hneg : y = curveConfig.toWeierstrass.negY x y := by
        rw [ShortWeierstrass.negY_eq, hy, neg_zero]
      rw [if_pos hy, WeierstrassCurve.Affine.Point.add_self_of_Y_eq hneg]
      exact ⟨_, rfl, .infinity 0 0⟩
    · have hdouble : 2 * y ≠ 0 :=
        mul_ne_zero (ShortWeierstrass.Smooth.two_ne_zero curveConfig) hy
      have hslope : curveConfig.toWeierstrass.slope x x y y = (3 * x * x + 1) / (2 * y) := by
        rw [ShortWeierstrass.slope_self hy, mul_assoc, ← sq]
        rfl
      rw [if_neg hy, nonZero_of_ne hdouble]
      obtain ⟨h₃, hsum⟩ := ShortWeierstrass.exists_add_eq h h
        (fun hboth => ShortWeierstrass.negY_ne hy hboth.2) hslope (by rw [sq]) rfl
      rw [hsum]
      exact ⟨_, rfl, .affine _ _ h₃⟩

theorem pointAdd_represents {pInf qInf : Bool} {px py qx qy : Fp} {P Q : CurvePoint}
    (hP : Represents (pInf, px, py) P) (hQ : Represents (qInf, qx, qy) Q) :
  ∃ R, pointAdd pInf px py qInf qx qy = .ok R ∧ Represents R (P + Q)
  := by
  cases hP with
  | infinity =>
    rw [zero_add]
    exact ⟨_, rfl, hQ⟩
  | affine _ _ h₁ =>
    cases hQ with
    | infinity =>
      rw [add_zero]
      exact ⟨_, rfl, .affine px py h₁⟩
    | affine _ _ h₂ =>
      rw [pointAdd, if_neg Bool.false_ne_true, if_neg Bool.false_ne_true]
      by_cases hx : px = qx
      · -- the points are equal or opposite
        obtain rfl := hx
        rw [if_pos rfl]
        by_cases hy : py = qy
        · obtain rfl := hy
          rw [if_pos rfl]
          apply pointDouble_represents (.affine px py h₁)
        · have hneg := (WeierstrassCurve.Affine.Y_eq_of_X_eq h₁.1 h₂.1 rfl).resolve_left hy
          rw [if_neg hy, WeierstrassCurve.Affine.Point.add_of_Y_eq rfl hneg]
          exact ⟨_, rfl, .infinity 0 0⟩
      · have hne : qx - px ≠ 0 := sub_ne_zero.mpr (Ne.symm hx)
        have hslope : curveConfig.toWeierstrass.slope px qx py qy = (qy - py) / (qx - px) := by
          rw [WeierstrassCurve.Affine.slope_of_X_ne hx, ← neg_sub qy py, ← neg_sub qx px,
            neg_div_neg_eq]
        rw [if_neg hx, nonZero_of_ne hne]
        obtain ⟨h₃, hsum⟩ := ShortWeierstrass.exists_add_eq h₁ h₂
          (fun hboth => hx hboth.1) hslope (by rw [sq]) rfl
        rw [hsum]
        exact ⟨_, rfl, .affine _ _ h₃⟩

/-! ### Multiplication -/

/-- The state of a multiplication after `i` bits of the scalar. -/
structure ScalarMulState.After {w : ℕ} (P : CurvePoint) (scalar i : ℕ) (state : ScalarMulState w) :
    Prop where
  result : Represents state.result ((scalar % 2 ^ i) • P)
  addend : Represents state.addend (2 ^ i • P)
  remaining : state.remaining.toNat = scalar / 2 ^ i

/-- A round of the loop goes through one bit more. -/
theorem scalarMulStep_after {w : ℕ} {P : CurvePoint} {scalar i : ℕ} {state : ScalarMulState w}
    (hw : 2 ≤ w) (h : state.After P scalar i) :
  ∃ state', scalarMulStep state = .ok state' ∧ state'.After P scalar (i + 1)
  := by
  obtain ⟨⟨resultInf, resultX, resultY⟩, ⟨addendInf, addendX, addendY⟩, remaining⟩ := state
  have hresult : Represents (resultInf, resultX, resultY) ((scalar % 2 ^ i) • P) := h.result
  have haddend : Represents (addendInf, addendX, addendY) (2 ^ i • P) := h.addend
  have hremaining : remaining.toNat = scalar / 2 ^ i := h.remaining
  have hmod : scalar % 2 ^ (i + 1) = scalar % 2 ^ i + 2 ^ i * (scalar / 2 ^ i % 2) := by
    rw [pow_succ, Nat.mod_mul]
  have hpow : 2 ^ 2 ≤ 2 ^ w := Nat.pow_le_pow_right (by norm_num) hw
  have htwo : (2 : BitVec w).toNat = 2 :=
    (BitVec.toNat_ofNat 2 w).trans (Nat.mod_eq_of_lt (by omega))
  have hone : (1 : BitVec w).toNat = 1 :=
    (BitVec.toNat_ofNat 1 w).trans (Nat.mod_eq_of_lt (by omega))
  have hbit : remaining % 2 = 1 ↔ scalar / 2 ^ i % 2 = 1 := by
    rw [← BitVec.toNat_inj, BitVec.toNat_umod, htwo, hone, hremaining]
  have hhalf : (remaining / 2).toNat = scalar / 2 ^ (i + 1) := by
    rw [BitVec.toNat_udiv, htwo, hremaining, Nat.div_div_eq_div_mul, pow_succ]
  obtain ⟨doubled, hdouble, hdoubled⟩ := pointDouble_represents haddend
  rw [← two_smul ℕ, smul_smul, ← pow_succ'] at hdoubled
  dsimp only [scalarMulStep]
  by_cases hset : scalar / 2 ^ i % 2 = 1
  · obtain ⟨sum, hadd, hsum⟩ := pointAdd_represents hresult haddend
    rw [← add_smul] at hsum
    rw [if_pos (hbit.mpr hset), hadd, ok_bind, hdouble, ok_bind]
    refine ⟨_, rfl, ?_⟩
    constructor
    case result =>
      rw [hmod, hset, mul_one]
      exact hsum
    case addend => exact hdoubled
    case remaining => exact hhalf
  · have hclear : scalar / 2 ^ i % 2 = 0 := by omega
    rw [if_neg (fun h => hset (hbit.mp h)), hdouble]
    refine ⟨_, rfl, ?_⟩
    constructor
    case result =>
      rw [hmod, hclear, mul_zero, add_zero]
      exact hresult
    case addend => exact hdoubled
    case remaining => exact hhalf

/-- A multiplication by a scalar that fits in the number of bits. -/
theorem scalarMulLoop_represents {w : ℕ} {x y : Fp} (h : OnCurve curveConfig x y)
    {scalar : BitVec w} {scalarBits : ℕ} (hw : 2 ≤ w) (hlt : scalar.toNat < 2 ^ scalarBits) :
  ∃ R, scalarMulLoop x y scalar scalarBits = .ok R
    ∧ Represents R (scalar.toNat • Point.ofOnCurve h)
  := by
  have hinit : ScalarMulState.After (Point.ofOnCurve h) scalar.toNat 0
      { result := (true, 0, 0), addend := (false, x, y), remaining := scalar } := by
    constructor
    case result =>
      rw [pow_zero, Nat.mod_one, zero_smul]
      exact .infinity 0 0
    case addend =>
      rw [pow_zero, one_smul]
      exact .affine x y (nonsingular_iff.mpr h)
    case remaining => rw [pow_zero, Nat.div_one]
  obtain ⟨state, hloop, hafter⟩ := @exists_whileBelow _ scalarBits (fun _ => scalarMulStep) _
    (ScalarMulState.After (Point.ofOnCurve h) scalar.toNat) hinit
    fun i _ state hstate => scalarMulStep_after hw hstate
  refine ⟨state.result, ?_, ?_⟩
  · rw [scalarMulLoop, hloop, ok_bind]
    rfl
  · have hresult := hafter.result
    rw [Nat.mod_eq_of_lt hlt] at hresult
    exact hresult

theorem scalarMulBalance_represents (balance : U128) :
  ∃ R, scalarMulBalance G_BALANCE_X G_BALANCE_Y balance = .ok R
    ∧ Represents R (balance.toNat • balancePoint)
  := scalarMulLoop_represents Stark.balance_onCurve (by norm_num) balance.isLt

theorem scalarMul_represents (blinding : Felt) :
  ∃ R, scalarMul H_BLIND_X H_BLIND_Y blinding 252 = .ok R
    ∧ Represents R (blinding.val • blindPoint)
  := by
  have hlt : blinding.val < 2 ^ 252 := blinding.isLt.trans (by norm_num [Stark.fieldPrime])
  rw [← Stark.toNat_fieldToFelt] at hlt ⊢
  exact scalarMulLoop_represents Stark.blind_onCurve (by norm_num) hlt

/-! ### Commitments -/

theorem Represents.coordinates_eq {isInf : Bool} {x y : Fp} {P : CurvePoint}
    (h : Represents (isInf, x, y) P) :
  coordinates P = if isInf then none else some (ofFp x, ofFp y)
  := by
  cases h with
  | infinity => rfl
  | affine => rfl

/-- What the last steps of a commitment return. -/
theorem affine_eq_ok {isInf : Bool} {x y : Fp} {P : CurvePoint} {x' y' : Felt}
    (h : Represents (isInf, x, y) P) :
  (do
      assert (!isInf) "commitment is infinity"
      return (ofFp x, ofFp y) : Except String (Felt × Felt)) = .ok (x', y')
    ↔ coordinates P = some (x', y')
  := by
  rw [h.coordinates_eq, assert_bind]
  cases isInf with
  | true => simp
  | false => simp [pure, Except.pure]

/-- A commitment is calculated exactly when the balance fits and the point is not at infinity. -/
theorem computeCommitment_eq_ok {balance blinding x y : Felt} :
  computeCommitment balance blinding = .ok (x, y)
    ↔ balance.val < 2 ^ 128 ∧ coordinates (commitment balance.val blinding.val) = some (x, y)
  := by
  rw [computeCommitment, feltToU128]
  by_cases hlt : balance.val < 2 ^ 128
  · obtain ⟨⟨gInf, gX, gY⟩, hG, hg⟩ := scalarMulBalance_represents (BitVec.ofNat 128 balance.val)
    obtain ⟨⟨hInf, hX, hY⟩, hH, hh⟩ := scalarMul_represents blinding
    obtain ⟨⟨inf, rX, rY⟩, hR, hr⟩ := pointAdd_represents hg hh
    rw [BitVec.toNat_ofNat, Nat.mod_eq_of_lt hlt] at hr
    rw [if_pos hlt, ok_bind, hG, ok_bind]
    dsimp only
    rw [hH, ok_bind]
    dsimp only
    rw [hR, ok_bind, and_iff_right hlt]
    exact affine_eq_ok hr
  · rw [if_neg hlt]
    constructor
    · rintro ⟨⟩
    · rintro ⟨h, _⟩
      exact absurd h hlt

/-- A commitment is rerandomized to a point that is not at infinity. -/
theorem rerandomizeCommitment_eq_ok {x y delta x' y' : Felt} {P : CurvePoint}
    (h : coordinates P = some (x, y)) :
  rerandomizeCommitment x y delta = .ok (x', y')
    ↔ coordinates (P + delta.val • blindPoint) = some (x', y')
  := by
  have hP : Represents (false, toFp x, toFp y) P := by
    cases P with
    | zero => cases h
    | some px py hpoint =>
      cases h
      rw [Stark.toFp_ofFp, Stark.toFp_ofFp]
      exact .affine px py hpoint
  obtain ⟨⟨dInf, dX, dY⟩, hD, hd⟩ := scalarMul_represents delta
  obtain ⟨⟨inf, rX, rY⟩, hR, hr⟩ := pointAdd_represents hP hd
  rw [rerandomizeCommitment, hD, ok_bind]
  dsimp only
  rw [hR, ok_bind]
  exact affine_eq_ok hr

/-! ### Blindings -/

theorem u256ToFelt_eq_ok {a : U256} {message : String} {c : Felt} :
  u256ToFelt a message = .ok c ↔ c.val = a.toNat
  := by
  rw [u256ToFelt]
  split
  case isTrue hlt =>
    have hval : (feltToField a).val = a.toNat := Nat.mod_eq_of_lt hlt
    rw [Except.ok.injEq, ← hval, eq_comm, Fin.ext_iff]
  case isFalse hle =>
    constructor
    · rintro ⟨⟩
    · intro hc
      exact absurd (hc ▸ c.isLt) hle

/-- Blindings are added with one subtraction of the order. -/
theorem addBlinding_eq_ok {a b c : Felt} :
  addBlinding a b = .ok c
    ↔ c.val = if a.val + b.val < Stark.curveOrder then a.val + b.val
      else a.val + b.val - Stark.curveOrder
  := by
  have hword : Stark.fieldPrime + Stark.fieldPrime < 2 ^ 256 := by norm_num [Stark.fieldPrime]
  have hlt : a.val + b.val < 2 ^ 256 := (Nat.add_lt_add a.isLt b.isLt).trans hword
  have hsum : (fieldToFelt a + fieldToFelt b).toNat = a.val + b.val := by
    rw [BitVec.toNat_add, Stark.toNat_fieldToFelt, Stark.toNat_fieldToFelt, Nat.mod_eq_of_lt hlt]
  have hadd : u256Add (fieldToFelt a) (fieldToFelt b) = .ok (fieldToFelt a + fieldToFelt b) := by
    rw [u256Add, Stark.toNat_fieldToFelt, Stark.toNat_fieldToFelt, if_pos hlt]
  have horder : EC_ORDER.toNat = Stark.curveOrder := rfl
  rw [addBlinding, hadd, ok_bind]
  by_cases hle : EC_ORDER ≤ fieldToFelt a + fieldToFelt b
  · have hnot : ¬ a.val + b.val < Stark.curveOrder := by
      rw [← hsum, ← horder]
      exact not_lt.mpr hle
    rw [if_pos hle, u256Sub, if_pos hle, ok_bind, u256ToFelt_eq_ok, if_neg hnot,
      BitVec.toNat_sub_of_le hle, hsum, horder]
  · have hless : a.val + b.val < Stark.curveOrder := by
      rw [← hsum, ← horder]
      exact not_le.mp hle
    rw [if_neg hle, pure_bind, u256ToFelt_eq_ok, if_pos hless, hsum]

/-- Blindings have a sum unless it is as large as the modulus after the subtraction. -/
theorem exists_addBlinding {a b : Felt} :
  (∃ c, addBlinding a b = .ok c) ↔ a.val + b.val < Stark.curveOrder + Stark.fieldPrime
  := by
  constructor
  · rintro ⟨c, hc⟩
    have hval := addBlinding_eq_ok.mp hc
    have hlt : c.val < Stark.fieldPrime := c.isLt
    split at hval <;> omega
  · intro h
    have horder := Stark.curveOrder_lt
    by_cases hless : a.val + b.val < Stark.curveOrder
    · refine ⟨⟨a.val + b.val, hless.trans horder⟩, addBlinding_eq_ok.mpr ?_⟩
      rw [if_pos hless]
    · refine ⟨⟨a.val + b.val - Stark.curveOrder, by omega⟩, addBlinding_eq_ok.mpr ?_⟩
      rw [if_neg hless]

/-- Whatever the sum of blindings is, it blinds like both. -/
theorem commitment_of_addBlinding {a b c : Felt} (h : addBlinding a b = .ok c) (balance : ℕ) :
  commitment balance c.val = commitment balance a.val + b.val • blindPoint
  := by
  have hsmul : c.val • blindPoint = (a.val + b.val) • blindPoint := by
    rw [addBlinding_eq_ok.mp h]
    split
    case isTrue => rfl
    case isFalse hle =>
      conv_rhs => rw [← Nat.sub_add_cancel (not_lt.mp hle), add_smul,
        Stark.curveOrder_smul_blindPoint, add_zero]
  rw [commitment, hsmul, add_smul, ← add_assoc, commitment]

/-- Scalars of the curve are added as in Rust. -/
theorem addBlinding_eq {a b : Felt} (ha : a.val < Stark.curveOrder) (hb : b.val < Stark.curveOrder) :
  addBlinding a b = .ok (Stark.addBlinding a b)
  := by
  rw [addBlinding_eq_ok, Stark.addBlinding]
  split
  case isTrue hlt => exact Nat.mod_eq_of_lt hlt
  case isFalse hle =>
    show (a.val + b.val) % Stark.curveOrder = a.val + b.val - Stark.curveOrder
    rw [Nat.mod_eq_sub_mod (not_lt.mp hle), Nat.mod_eq_of_lt (by omega)]

/-! ### Agreement -/

/-- The commitments of the programs are those of the client and the server, whatever implements the
curve for these: a commitment is calculated exactly when the balance is an amount and the point has
coordinates there, and it is rerandomized exactly when the point has coordinates again; blindings
that are scalars of the curve have one sum. -/
theorem pedersen_agrees {curve : Stark.Curve} {toPoint : curve.Point → CurvePoint}
    (h : curve.Implements toPoint) :
  (∀ balance blinding x y, computeCommitment balance blinding = .ok (x, y)
      ↔ ∃ (amount : U128) (P : curve.Point), amount.toNat = balance.val
        ∧ Stark.commit curve amount blinding = some P ∧ curve.toAffine P = some (x, y))
    ∧ (∀ P x y, curve.toAffine P = some (x, y) →
      ∀ delta x' y', rerandomizeCommitment x y delta = .ok (x', y')
        ↔ ∃ Q, Stark.rerandomize curve P delta = some Q ∧ curve.toAffine Q = some (x', y'))
    ∧ ∀ a b : Felt, a.val < Stark.curveOrder → b.val < Stark.curveOrder →
      addBlinding a b = .ok (Stark.addBlinding a b)
  := by
  refine ⟨?_, ?_, fun a b => addBlinding_eq⟩
  · intro balance blinding x y
    rw [computeCommitment_eq_ok]
    constructor
    · rintro ⟨hlt, hcoordinates⟩
      have hamount : (BitVec.ofNat 128 balance.val).toNat = balance.val := by
        rw [BitVec.toNat_ofNat, Nat.mod_eq_of_lt hlt]
      obtain ⟨P, hcommit, hP⟩ := Stark.exists_commit h (BitVec.ofNat 128 balance.val) blinding
      refine ⟨_, P, hamount, hcommit, ?_⟩
      rw [h.toAffine, hP, hamount, hcoordinates]
    · rintro ⟨amount, P, hamount, hcommit, haffine⟩
      obtain ⟨Q, hcommit', hQ⟩ := Stark.exists_commit h amount blinding
      obtain rfl := Option.some.inj (hcommit.symm.trans hcommit')
      rw [h.toAffine, hQ, hamount] at haffine
      exact ⟨hamount ▸ amount.isLt, haffine⟩
  · intro P x y haffine delta x' y'
    rw [h.toAffine] at haffine
    obtain ⟨Q, hrerandomized, hQ⟩ := Stark.exists_rerandomize h P delta
    rw [rerandomizeCommitment_eq_ok haffine, ← hQ, ← h.toAffine]
    constructor
    · intro hQaffine
      exact ⟨Q, hrerandomized, hQaffine⟩
    · rintro ⟨Q', hrerandomized', hQaffine⟩
      obtain rfl := Option.some.inj (hrerandomized.symm.trans hrerandomized')
      exact hQaffine

namespace PedersenExample

open Stark (groupCurve groupCurve_implements)

/-- The order of the curve less one and two have the sum one. -/
theorem pedersen_agrees_example :
  addBlinding (feltToField (BitVec.ofNat 256 (Stark.curveOrder - 1))) 2 = .ok 1
  := by
  rw [(pedersen_agrees groupCurve_implements).2.2 _ _ (by decide) (by decide)]
  rfl

end PedersenExample

end ZkApi.Cairo
