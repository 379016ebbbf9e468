import Mathlib.Data.List.Forall2
import Mathlib.Data.List.GetD
import Mathlib.Data.List.Induction
import Mathlib.Tactic.Ring

/-!
# Numbers of a fixed width in a base

`toDigits b n x` are the `n` digits of `x` in base `b`, most significant first, and
`ofDigits b ds` is the number that a list of digits stands for.  Below `b ^ n` the two are
inverse to each other.
-/

namespace Digits

/-- The last `n` digits of a number, most significant first. -/
def toDigits (b : ℕ) : ℕ → ℕ → List ℕ
  | 0, _ => []
  | n + 1, x => toDigits b n (x / b) ++ [x % b]

/-- The number that a list of digits stands for, most significant first. -/
def ofDigits (b : ℕ) (ds : List ℕ) : ℕ :=
  ds.foldl (fun x d => x * b + d) 0

variable {b : ℕ}

@[simp]
theorem length_toDigits (n x : ℕ) :
  (toDigits b n x).length = n
  := by
  induction n generalizing x with
  | zero => rfl
  | succ n ih => rw [toDigits, List.length_append, ih, List.length_singleton]

theorem lt_of_mem_toDigits (hb : 0 < b) {n x d : ℕ} (h : d ∈ toDigits b n x) :
  d < b
  := by
  induction n generalizing x with
  | zero => cases h
  | succ n ih =>
    rw [toDigits, List.mem_append, List.mem_singleton] at h
    obtain h | rfl := h
    · apply ih h
    · apply Nat.mod_lt _ hb

theorem ofDigits_append_singleton (ds : List ℕ) (d : ℕ) :
  ofDigits b (ds ++ [d]) = ofDigits b ds * b + d
  := by
  rw [ofDigits, List.foldl_append]
  rfl

/-- The last digits of a number stand for its remainder. -/
theorem ofDigits_toDigits_mod (n x : ℕ) :
  ofDigits b (toDigits b n x) = x % b ^ n
  := by
  induction n generalizing x with
  | zero =>
    rw [pow_zero, Nat.mod_one]
    rfl
  | succ n ih =>
    rw [toDigits, ofDigits_append_singleton, ih, pow_succ', Nat.mod_mul]
    ring

/-- The digits of a number of at most that many digits stand for it. -/
theorem ofDigits_toDigits {n x : ℕ} (h : x < b ^ n) :
  ofDigits b (toDigits b n x) = x
  := by
  rw [ofDigits_toDigits_mod, Nat.mod_eq_of_lt h]

/-- A list of digits stands for a number of that many digits. -/
theorem ofDigits_lt {ds : List ℕ} (h : ∀ d ∈ ds, d < b) :
  ofDigits b ds < b ^ ds.length
  := by
  induction ds using List.reverseRecOn with
  | nil => exact Nat.one_pos
  | append_singleton ds d ih =>
    have hd := h d (List.mem_append_right _ (List.mem_singleton_self d))
    have hlt := ih fun d' hd' => h d' (List.mem_append_left _ hd')
    rw [ofDigits_append_singleton, List.length_append, List.length_singleton, pow_succ]
    calc ofDigits b ds * b + d
      _ < ofDigits b ds * b + b := Nat.add_lt_add_left hd _
      _ = (ofDigits b ds + 1) * b := by rw [Nat.succ_mul]
      _ ≤ b ^ ds.length * b := Nat.mul_le_mul_right b hlt

/-- The digits of what digits stand for. -/
theorem toDigits_ofDigits {ds : List ℕ} (h : ∀ d ∈ ds, d < b) :
  toDigits b ds.length (ofDigits b ds) = ds
  := by
  induction ds using List.reverseRecOn with
  | nil => rfl
  | append_singleton ds d ih =>
    have hd := h d (List.mem_append_right _ (List.mem_singleton_self d))
    have hdiv : (ofDigits b ds * b + d) / b = ofDigits b ds := by
      rw [Nat.mul_comm, Nat.mul_add_div (Nat.zero_lt_of_lt hd), Nat.div_eq_of_lt hd, Nat.add_zero]
    have hmod : (ofDigits b ds * b + d) % b = d := by
      rw [Nat.mul_comm, Nat.mul_add_mod, Nat.mod_eq_of_lt hd]
    rw [List.length_append, List.length_singleton, toDigits, ofDigits_append_singleton, hdiv, hmod,
      ih fun d' hd' => h d' (List.mem_append_left _ hd')]

/-- The digit at a position. -/
theorem getD_toDigits {n i : ℕ} (x : ℕ) (hi : i < n) :
  (toDigits b n x).getD i 0 = x / b ^ (n - 1 - i) % b
  := by
  induction n generalizing x with
  | zero => omega
  | succ n ih =>
    rw [toDigits]
    obtain hlt | rfl := Nat.lt_succ_iff_lt_or_eq.mp hi
    · have hexp : n + 1 - 1 - i = (n - 1 - i) + 1 := by omega
      rw [List.getD_append _ _ _ _ (by rw [length_toDigits]; exact hlt), ih _ hlt, hexp, pow_succ',
        Nat.div_div_eq_div_mul]
    · have hexp : i + 1 - 1 - i = 0 := by omega
      rw [List.getD_append_right _ _ _ _ (by rw [length_toDigits]), length_toDigits, Nat.sub_self,
        hexp, pow_zero, Nat.div_one]
      rfl

/-- Digits that are larger everywhere stand for a larger number. -/
theorem ofDigits_le {ds ds' : List ℕ} (h : List.Forall₂ (· ≤ ·) ds ds') :
  ofDigits b ds ≤ ofDigits b ds'
  := by
  -- the digits are added to the number that those before them stand for
  have hfold : ∀ x x', x ≤ x' → ds.foldl (fun x d => x * b + d) x
      ≤ ds'.foldl (fun x d => x * b + d) x' := by
    induction h with
    | nil =>
      intro x x' hx
      exact hx
    | cons hd _ ih =>
      intro x x' hx
      apply ih
      exact Nat.add_le_add (Nat.mul_le_mul_right b hx) hd
  apply hfold 0 0 (Nat.le_refl 0)

end Digits
