import Mathlib.NumberTheory.LegendreSymbol.Basic
import ZkApi.Field
import ZkApi.Library.Edwards

/-!
# The Baby-JubJub curve

The twisted Edwards curve over the BN254 scalar field that commitments and signatures live
on, its subgroup of prime order, the scalars of that subgroup, and the generators of the
protocol.
-/

namespace ZkApi

/-! ### The curve -/

/-- The coefficient of the curve, `COEFF_D`; the other coefficient is one. -/
def coeffD : Fr :=
  9706598848417545097372247223557719406784115219466060233080913168975159366771

/-- The coefficient is not a square, so that the addition law has no exceptions. -/
theorem coeffD_not_isSquare :
  ¬ IsSquare coeffD
  := by
  have hne : coeffD ≠ 0 := by decide +kernel
  have hcast : coeffD
      = ((9706598848417545097372247223557719406784115219466060233080913168975159366771 : ℕ)
        : Fr) := rfl
  rw [ZMod.euler_criterion fieldModulus hne, hcast,
    ← Primality.powMod_eq_one_iff _ 254 _ fieldModulus_prime.one_lt]
  · decide +kernel
  · decide +kernel

instance : Edwards.Complete coeffD where
  not_isSquare := coeffD_not_isSquare
  two_ne_zero := by decide +kernel

/-- A point of the curve. -/
abbrev EdwardsAffine : Type := Edwards.Point coeffD

/-! ### The subgroup of prime order -/

/-- The order of the subgroup, the modulus of the scalar field. -/
def subgroupOrder : ℕ :=
  2736030358979909402780800718157159386076813972158567259200215660948447373041

instance : NeZero subgroupOrder := ⟨by decide⟩

/-- A scalar, an integer modulo the order of the subgroup. -/
abbrev EdwardsScalarField : Type := ZMod subgroupOrder

/-- The points that `is_in_correct_subgroup_assuming_on_curve` accepts. -/
def primeSubgroup : AddSubgroup EdwardsAffine where
  carrier := { P | subgroupOrder • P = 0 }
  zero_mem' := smul_zero subgroupOrder
  add_mem' := by
    intro P Q hP hQ
    rw [Set.mem_ofPred_eq] at hP hQ ⊢
    rw [smul_add, hP, hQ, add_zero]
  neg_mem' := by
    intro P hP
    rw [Set.mem_ofPred_eq] at hP ⊢
    rw [smul_neg, hP, neg_zero]

theorem mem_primeSubgroup {P : EdwardsAffine} :
  P ∈ primeSubgroup ↔ subgroupOrder • P = 0
  := Iff.rfl

variable {P : EdwardsAffine}

theorem nsmul_mem_primeSubgroup (hP : P ∈ primeSubgroup) (n : ℕ) :
  n • P ∈ primeSubgroup
  := primeSubgroup.nsmul_mem hP n

/-- Multiples of a point of the subgroup depend on the scalar modulo the order. -/
theorem mod_smul (hP : P ∈ primeSubgroup) (n : ℕ) :
  (n % subgroupOrder) • P = n • P
  := by
  have hn := Nat.mod_add_div n subgroupOrder
  calc (n % subgroupOrder) • P
    _ = (n % subgroupOrder) • P + (n / subgroupOrder) • subgroupOrder • P := by
      rw [mem_primeSubgroup.mp hP, smul_zero, add_zero]
    _ = (n % subgroupOrder + subgroupOrder * (n / subgroupOrder)) • P := by
      rw [add_smul, mul_smul, smul_comm]
    _ = n • P := by rw [hn]

/-- Integers that are equal as scalars have the same multiples. -/
theorem smul_eq_of_natCast_eq (hP : P ∈ primeSubgroup) {m n : ℕ}
    (h : (m : EdwardsScalarField) = n) :
  m • P = n • P
  := by
  rw [← mod_smul hP m, ← mod_smul hP n, (ZMod.natCast_eq_natCast_iff' m n subgroupOrder).mp h]

theorem val_natCast_smul (hP : P ∈ primeSubgroup) (n : ℕ) :
  (n : EdwardsScalarField).val • P = n • P
  := by
  apply smul_eq_of_natCast_eq hP
  rw [ZMod.natCast_zmod_val]

theorem val_add_smul (hP : P ∈ primeSubgroup) (a b : EdwardsScalarField) :
  (a + b).val • P = a.val • P + b.val • P
  := by
  rw [← add_smul]
  apply smul_eq_of_natCast_eq hP
  rw [Nat.cast_add, ZMod.natCast_zmod_val, ZMod.natCast_zmod_val, ZMod.natCast_zmod_val]

/-! ### Points given by their coordinates -/

/-- A multiple of a point is the point whose coordinates its projective computation stands
for. -/
theorem smul_eq_of_mul (P Q : EdwardsAffine) (k n : ℕ) (hn : n < 2 ^ k)
    (h : (Edwards.Projective.mul coeffD (.ofPoint P) k n).X
        = Q.x * (Edwards.Projective.mul coeffD (.ofPoint P) k n).Z
      ∧ (Edwards.Projective.mul coeffD (.ofPoint P) k n).Y
        = Q.y * (Edwards.Projective.mul coeffD (.ofPoint P) k n).Z) :
  n • P = Q
  := by
  obtain ⟨hz, hx, hy⟩ := (Edwards.Projective.represents_ofPoint P).mul k n hn
  ext
  · apply mul_right_cancel₀ hz
    rw [← hx, h.1]
  · apply mul_right_cancel₀ hz
    rw [← hy, h.2]

theorem mem_primeSubgroup_of_mul (P : EdwardsAffine)
    (h : (Edwards.Projective.mul coeffD (.ofPoint P) 251 subgroupOrder).X = 0
      ∧ (Edwards.Projective.mul coeffD (.ofPoint P) 251 subgroupOrder).Y
        = (Edwards.Projective.mul coeffD (.ofPoint P) 251 subgroupOrder).Z) :
  P ∈ primeSubgroup
  := Edwards.Projective.smul_eq_zero_of_mul P 251 subgroupOrder (by decide) h

/-! ### The generators -/

/-- The standard generator. -/
def generator : EdwardsAffine where
  x := 19698561148652590122159747500897617769866003486955115824547446575314762165298
  y := 19298250018296453272277890825869354524455968081175474282777126169995084727839
  onCurve := by decide +kernel

/-- The blinding generator, which `derive_generator` reaches with its first counter for the
label `zkapi.v2.balance.blinding.generator`. -/
def balanceBlindingGenerator : EdwardsAffine where
  x := 20529468022969646782859703155336350277101253738631044133780912636460776933863
  y := 6624911084904145221530994447284686699122134835552245664718534973231592582166
  onCurve := by decide +kernel

/-- The generator of the note binding, which `derive_generator` reaches with its third
counter for the label `zkapi.v2.note-binding.generator.v1`. -/
def noteBindingGenerator : EdwardsAffine where
  x := 20194264820129450555856118917256703354609705373788139134977287975838738142158
  y := 12147135268084324641911265849114449995691303742422995847005259818889325334094
  onCurve := by decide +kernel

theorem generator_mem :
  generator ∈ primeSubgroup
  := mem_primeSubgroup_of_mul generator (by decide +kernel)

theorem balanceBlindingGenerator_mem :
  balanceBlindingGenerator ∈ primeSubgroup
  := mem_primeSubgroup_of_mul balanceBlindingGenerator (by decide +kernel)

theorem noteBindingGenerator_mem :
  noteBindingGenerator ∈ primeSubgroup
  := mem_primeSubgroup_of_mul noteBindingGenerator (by decide +kernel)

end ZkApi
