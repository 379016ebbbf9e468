import Mathlib.Algebra.Order.BigOperators.Group.List
import Mathlib.Data.List.Forall2
import ZkApi.Library.Digits

/-!
# Winternitz chains and checksums

A chain applies a step function a number of times, and each step takes its position in the
chain.  Digits say how far the chains of a signature are walked; what they leave is added up
in a checksum, and the digits of the checksum are signed as well.  Since a digit that grows
makes the checksum smaller, no vector of digits with its checksum dominates another one.
-/

namespace Winternitz

/-! ### Chains -/

section

variable {α : Type*} (step : α → ℕ → α)

/-- Some steps from a position on. -/
def chain (value : α) (start : ℕ) : ℕ → α
  | 0 => value
  | steps + 1 => step (chain value start steps) (start + steps)

/-- A chain can be walked in two parts. -/
theorem chain_chain (value : α) (start m n : ℕ) :
  chain step (chain step value start m) (start + m) n = chain step value start (m + n)
  := by
  induction n with
  | zero => rfl
  | succ n ih => rw [chain, ih, ← Nat.add_assoc m n 1, chain, Nat.add_assoc]

end

/-! ### Checksums -/

/-- What digits leave of the chains. -/
def checksum (w : ℕ) (ds : List ℕ) : ℕ :=
  (ds.map fun d => w - 1 - d).sum

/-- Digits with the digits of their checksum. -/
def encode (w m : ℕ) (ds : List ℕ) : List ℕ :=
  ds ++ Digits.toDigits w m (checksum w ds)

variable {w m : ℕ} {ds ds' : List ℕ}

@[simp]
theorem length_encode :
  (encode w m ds).length = ds.length + m
  := by rw [encode, List.length_append, Digits.length_toDigits]

theorem checksum_cons (d : ℕ) (ds : List ℕ) :
  checksum w (d :: ds) = (w - 1 - d) + checksum w ds
  := by rw [checksum, List.map_cons, List.sum_cons, checksum]

theorem checksum_le (w : ℕ) (ds : List ℕ) :
  checksum w ds ≤ ds.length * (w - 1)
  := by
  induction ds with
  | nil => apply Nat.zero_le
  | cons d ds ih =>
    rw [checksum_cons, List.length_cons, Nat.succ_mul]
    omega

/-- Larger digits leave less. -/
theorem checksum_anti (h : List.Forall₂ (· ≤ ·) ds ds') :
  checksum w ds' ≤ checksum w ds
  := by
  induction h with
  | nil => rfl
  | cons hd _ ih =>
    rw [checksum_cons, checksum_cons]
    omega

/-- Larger digits that leave as much are the same. -/
theorem eq_of_checksum_eq (h : List.Forall₂ (· ≤ ·) ds ds') (hlt : ∀ d ∈ ds', d < w)
    (hsum : checksum w ds = checksum w ds') :
  ds = ds'
  := by
  induction h with
  | nil => rfl
  | @cons d d' ds ds' hd hds ih =>
    have hrest : checksum w ds' ≤ checksum w ds := checksum_anti hds
    have hd' : d' < w := hlt d' List.mem_cons_self
    rw [checksum_cons, checksum_cons] at hsum
    have hsame : checksum w ds = checksum w ds' := by omega
    rw [ih (fun x hx => hlt x (List.mem_cons_of_mem d' hx)) hsame]
    congr 1
    omega

/-- Digits that are dominated together with their checksum are the same. -/
theorem eq_of_encode_le (hlen : ds.length = ds'.length) (hlt : ∀ d ∈ ds', d < w)
    (hm : ds.length * (w - 1) < w ^ m)
    (h : List.Forall₂ (· ≤ ·) (encode w m ds) (encode w m ds')) :
  ds = ds'
  := by
  have hdigits := List.forall₂_take ds.length h
  have hchecksum := List.forall₂_drop ds.length h
  rw [encode, encode, List.take_left, hlen, List.take_left] at hdigits
  rw [encode, encode, List.drop_left, hlen, List.drop_left] at hchecksum
  have hle := Digits.ofDigits_le (b := w) hchecksum
  rw [Digits.ofDigits_toDigits ((checksum_le w ds).trans_lt hm),
    Digits.ofDigits_toDigits ((checksum_le w ds').trans_lt (hlen ▸ hm))] at hle
  apply eq_of_checksum_eq hdigits hlt
  apply Nat.le_antisymm hle (checksum_anti hdigits)

/-- Of two vectors of digits, each is larger than the other one somewhere. -/
theorem exists_encode_lt (hlen : ds.length = ds'.length) (hlt : ∀ d ∈ ds', d < w)
    (hm : ds.length * (w - 1) < w ^ m) (hne : ds ≠ ds') :
  ∃ i < ds.length + m, (encode w m ds').getD i 0 < (encode w m ds).getD i 0
  := by
  by_contra hnone
  push Not at hnone
  apply hne
  apply eq_of_encode_le hlen hlt hm
  rw [List.forall₂_iff_get]
  refine ⟨by rw [length_encode, length_encode, hlen], ?_⟩
  intro i hi hi'
  have hle := hnone i (length_encode ▸ hi)
  rw [List.getD_eq_getElem _ _ hi, List.getD_eq_getElem _ _ hi'] at hle
  exact hle

end Winternitz
