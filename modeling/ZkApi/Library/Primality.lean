import Mathlib.Data.List.Prime
import Mathlib.NumberTheory.LucasPrimality

/-!
# Primality from a factored predecessor

Lucas's test in the form in which a factorization of `p - 1` is given as a list of primes
with their exponents, so that the only powers to compare are those at the listed primes.
The powers are those of `powMod`, which squares repeatedly and reduces at every step, so
that a test of a number of several hundred bits is a short evaluation.
-/

namespace Primality

/-- The power `a ^ n` modulo `m`, for an exponent of at most `k` bits. -/
def powMod (m a : ℕ) : ℕ → ℕ → ℕ
  | 0, _ => 1 % m
  | k + 1, n => (powMod m a k (n / 2)) ^ 2 * (if n % 2 = 0 then 1 else a) % m

/-- `powMod` computes the power of an exponent that fits in the given number of bits. -/
theorem powMod_eq (m a : ℕ) :
  ∀ k n, n < 2 ^ k → powMod m a k n = a ^ n % m
  | 0, n, h => by
      obtain rfl : n = 0 := by omega
      simp [powMod]
  | k + 1, n, h => by
      have hhalf : n / 2 < 2 ^ k := by omega
      have hn : n = n / 2 * 2 + n % 2 := by omega
      rw [powMod, powMod_eq m a k (n / 2) hhalf, Nat.mul_mod, ← Nat.pow_mod, ← Nat.mul_mod,
        ← pow_mul]
      conv_rhs => rw [hn, pow_add]
      rcases Nat.mod_two_eq_zero_or_one n with h0 | h1
      · simp [h0]
      · simp [h1]

/-- The test that `powMod` makes of a power of `a` modulo `p` is the test in `ZMod p`. -/
theorem powMod_eq_one_iff {p : ℕ} (a k n : ℕ) (hp : 1 < p) (hn : n < 2 ^ k) :
  powMod p a k n = 1 ↔ (a : ZMod p) ^ n = 1
  := by
  rw [powMod_eq p a k n hn, ← Nat.cast_pow, ← Nat.cast_one (R := ZMod p),
    ZMod.natCast_eq_natCast_iff', Nat.mod_eq_of_lt hp]

/-- A number is prime when some `a` has order `p - 1` modulo it, which is tested at the
primes of a factorization `fs` of `p - 1`. -/
theorem of_factorization
    {p : ℕ} (a k : ℕ) (fs : List (ℕ × ℕ)) (hp : 1 < p) (hk : p ≤ 2 ^ k)
    (hprime : ∀ f ∈ fs, f.1.Prime)
    (hprod : (fs.map fun f => f.1 ^ f.2).prod = p - 1)
    (hone : powMod p a k (p - 1) = 1)
    (hne : ∀ f ∈ fs, powMod p a k ((p - 1) / f.1) ≠ 1) :
  p.Prime
  := by
  have hlt : ∀ n, (p - 1) / n < 2 ^ k := by
    intro n
    have := Nat.div_le_self (p - 1) n
    omega
  apply lucas_primality p (a : ZMod p)
  · have h := hlt 1
    rw [Nat.div_one] at h
    exact (powMod_eq_one_iff a k (p - 1) hp h).mp hone
  · intro q hq hdvd
    rw [← hprod] at hdvd
    obtain ⟨x, hx, hqx⟩ := (Prime.dvd_prod_iff hq.prime).mp hdvd
    obtain ⟨f, hf, rfl⟩ := List.mem_map.mp hx
    have hqf : q ∣ f.1 := hq.dvd_of_dvd_pow hqx
    obtain rfl := (Nat.prime_dvd_prime_iff_eq hq (hprime f hf)).mp hqf
    rw [Ne, ← powMod_eq_one_iff a k _ hp (hlt _)]
    exact hne f hf

end Primality
