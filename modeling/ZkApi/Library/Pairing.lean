import Mathlib.Algebra.BigOperators.Fin
import Mathlib.Algebra.Group.Hom.Instances
import Mathlib.Tactic.Abel

/-!
# Proofs that are checked with a pairing

A pairing is a map of two groups that is additive in both arguments; its values are written
additively.  In the proof system Groth16 a proof of three points is accepted by a verifying key
for some inputs when an equation of pairings holds.  Verifiers put the terms of the equation on
one side or on two, and they fold the inputs into a point one after another.
-/

namespace Pairing

/-- A verifying key for `n` inputs. -/
structure VerifyingKey (G₁ G₂ : Type*) (n : ℕ) where
  alpha : G₁
  beta : G₂
  gamma : G₂
  delta : G₂
  ic : Fin (n + 1) → G₁

structure Proof (G₁ G₂ : Type*) where
  a : G₁
  b : G₂
  c : G₁

namespace VerifyingKey

section

variable {G₁ G₂ : Type*} [AddCommGroup G₁] {n : ℕ}

/-- The point that the inputs are folded into. -/
def prepareInputs (vk : VerifyingKey G₁ G₂ n) (inputs : Fin n → ℕ) : G₁ :=
  vk.ic ⟨0, n.succ_pos⟩ + ∑ i, inputs i • vk.ic i.succ

/-- The inputs are folded one after another. -/
theorem foldl_ic (vk : VerifyingKey G₁ G₂ n) (inputs : Fin n → ℕ) :
  (List.finRange n).foldl (fun acc i => acc + inputs i • vk.ic i.succ) (vk.ic 0)
    = vk.prepareInputs inputs
  := by
  have hfold : ∀ (is : List (Fin n)) (start : G₁),
      is.foldl (fun acc i => acc + inputs i • vk.ic i.succ) start
        = start + (is.map fun i => inputs i • vk.ic i.succ).sum := by
    intro is
    induction is with
    | nil =>
      intro start
      rw [List.foldl_nil, List.map_nil, List.sum_nil, add_zero]
    | cons i is ih =>
      intro start
      rw [List.foldl_cons, ih, List.map_cons, List.sum_cons, add_assoc]
  rw [hfold, ← List.ofFn_eq_map, List.sum_ofFn]
  rfl

end

variable {G₁ G₂ T : Type*} [AddCommGroup G₁] [AddCommGroup G₂] [AddCommGroup T] {n : ℕ}
  {e : G₁ →+ G₂ →+ T} {vk : VerifyingKey G₁ G₂ n} {inputs : Fin n → ℕ} {proof : Proof G₁ G₂}

/-- A proof is accepted, with `alpha` and `beta` alone on one side. -/
def Accepts (e : G₁ →+ G₂ →+ T) (vk : VerifyingKey G₁ G₂ n) (inputs : Fin n → ℕ)
    (proof : Proof G₁ G₂) : Prop :=
  e proof.a proof.b + e (vk.prepareInputs inputs) (-vk.gamma) + e proof.c (-vk.delta)
    = e vk.alpha vk.beta

/-- The pairs of the equation with all terms on one side. -/
def pairs (vk : VerifyingKey G₁ G₂ n) (inputs : Fin n → ℕ) (proof : Proof G₁ G₂) :
    List (G₁ × G₂) :=
  [(-proof.a, proof.b), (vk.alpha, vk.beta), (vk.prepareInputs inputs, vk.gamma),
    (proof.c, vk.delta)]

theorem accepts_iff :
  vk.Accepts e inputs proof ↔ ((vk.pairs inputs proof).map fun p => e p.1 p.2).sum = 0
  := by
  have hsum : ((vk.pairs inputs proof).map fun p => e p.1 p.2).sum
      = e vk.alpha vk.beta
        - (e proof.a proof.b + e (vk.prepareInputs inputs) (-vk.gamma)
          + e proof.c (-vk.delta)) := by
    simp only [pairs, List.map_cons, List.map_nil, List.sum_cons, List.sum_nil, map_neg,
      AddMonoidHom.neg_apply]
    abel
  rw [hsum, sub_eq_zero, eq_comm, Accepts]

end VerifyingKey

end Pairing
