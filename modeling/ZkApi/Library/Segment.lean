import Mathlib.Data.List.Basic

/-!
# Segments of a list

What a list holds from a position on.  A list is read in segments, and written as their
concatenation.
-/

/-- The list holds the given elements from a position on. -/
def Segment {α : Type} (xs : List α) (start : ℕ) (ys : List α) : Prop :=
  ys <+: xs.drop start

namespace Segment

variable {α : Type} {xs ys zs : List α} {start : ℕ} {y : α}

@[simp]
theorem nil :
  Segment xs start []
  := List.nil_prefix

@[simp]
theorem cons_iff :
  Segment xs start (y :: ys) ↔ xs[start]? = some y ∧ Segment xs (start + 1) ys
  := by
  rw [Segment, Segment]
  by_cases hstart : start < xs.length
  · rw [List.drop_eq_getElem_cons hstart, List.cons_prefix_cons, List.getElem?_eq_getElem hstart,
      Option.some_inj, eq_comm]
  · rw [Nat.not_lt] at hstart
    rw [List.drop_eq_nil_of_le hstart, List.prefix_nil, List.getElem?_eq_none hstart]
    simp only [reduceCtorEq, false_and]

@[simp]
theorem append_iff :
  Segment xs start (ys ++ zs) ↔ Segment xs start ys ∧ Segment xs (start + ys.length) zs
  := by
  induction ys generalizing start with
  | nil => simp only [List.nil_append, nil, List.length_nil, Nat.add_zero, true_and]
  | cons y ys ih =>
    have hnext : start + 1 + ys.length = start + (ys.length + 1) := by omega
    rw [List.cons_append, cons_iff, cons_iff, ih, and_assoc, List.length_cons, hnext]

/-- A list is given by its length and what it holds from the start. -/
theorem eq_iff :
  xs = ys ↔ xs.length = ys.length ∧ Segment xs 0 ys
  := by
  rw [Segment, List.drop_zero]
  constructor
  · rintro rfl
    exact ⟨rfl, List.prefix_refl _⟩
  · rintro ⟨hlength, hfirst⟩
    exact (hfirst.eq_of_length hlength.symm).symm

/-- What is left of a list is a segment of it. -/
theorem drop :
  Segment xs start (xs.drop start)
  := List.prefix_refl _

end Segment
