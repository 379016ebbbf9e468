import Mathlib.Tactic.NormNum.Prime
import ZkApi.Library.Primality

/-!
# Words and the BN254 scalar field

The fixed-width integers of the Solidity and Rust sources are bit vectors of the same
width.  `Fr` is the BN254 scalar field, the `CircuitField` of the Rust crates, and
`fieldModulus` its modulus, the `FIELD_MODULUS` of the contracts.
-/

namespace ZkApi

/-- A 16-bit unsigned integer. -/
abbrev U16 : Type := BitVec 16

/-- A 32-bit unsigned integer. -/
abbrev U32 : Type := BitVec 32

/-- A 64-bit unsigned integer. -/
abbrev U64 : Type := BitVec 64

/-- A 128-bit unsigned integer. -/
abbrev U128 : Type := BitVec 128

/-- A 256-bit unsigned integer. -/
abbrev U256 : Type := BitVec 256

/-- An Ethereum address. -/
abbrev Address : Type := BitVec 160

/-- The modulus of the BN254 scalar field. -/
def fieldModulus : ℕ :=
  21888242871839275222246405745257275088548364400416034343698204186575808495617

/-! ### The modulus is prime -/

private theorem prime_5156902474397 :
  Nat.Prime 5156902474397
  := by
  have h : Nat.Prime 12048837557 := by
    apply Primality.of_factorization 2 64 [(93001, 1), (661, 1), (7, 2), (2, 2)]
    case hone | hne => decide +kernel
    all_goals norm_num
  apply Primality.of_factorization 2 64 [(12048837557, 1), (107, 1), (2, 2)]
  case hprime => simp only [List.forall_mem_cons, h]; norm_num
  case hone | hne => decide +kernel
  all_goals norm_num

theorem prime_405928799 :
  Nat.Prime 405928799
  := by
  apply Primality.of_factorization 22 64 [(4999, 1), (3691, 1), (11, 1), (2, 1)]
  case hone | hne => decide +kernel
  all_goals norm_num

private theorem prime_1670836401704629 :
  Nat.Prime 1670836401704629
  := by
  apply Primality.of_factorization 2 64 [(5156902474397, 1), (3, 4), (2, 2)]
  case hprime =>
    simp only [List.forall_mem_cons, prime_5156902474397]; norm_num
  case hone | hne => decide +kernel
  all_goals norm_num

private theorem prime_13818364434197438864469338081 :
  Nat.Prime 13818364434197438864469338081
  := by
  have h' : Nat.Prime 639533339 := by
    apply Primality.of_factorization 2 64 [(1637, 1), (853, 1), (229, 1), (2, 1)]
    case hone | hne => decide +kernel
    all_goals norm_num
  have h : Nat.Prime 65865678001877903 := by
    apply Primality.of_factorization 5 64
      [(639533339, 1), (1637, 1), (379, 1), (83, 1), (2, 1)]
    case hprime => simp only [List.forall_mem_cons, h']; norm_num
    case hone | hne => decide +kernel
    all_goals norm_num
  apply Primality.of_factorization 3 128
    [(1593227, 1), (65865678001877903, 1), (823, 1), (5, 1), (2, 5)]
  case hprime => simp only [List.forall_mem_cons, h]; norm_num
  case hone | hne => decide +kernel
  all_goals norm_num

/-- The modulus of the BN254 scalar field is prime. -/
theorem fieldModulus_prime :
  fieldModulus.Prime
  := by
  apply Primality.of_factorization 5 256
    [(2, 28), (3, 2), (13, 1), (29, 1), (983, 1), (11003, 1), (237073, 1), (405928799, 1),
      (1670836401704629, 1), (13818364434197438864469338081, 1)]
  case hprime =>
    simp only [List.forall_mem_cons, prime_405928799, prime_1670836401704629,
      prime_13818364434197438864469338081]
    norm_num
  case hone | hne => decide +kernel
  all_goals norm_num [fieldModulus]

instance : Fact fieldModulus.Prime := ⟨fieldModulus_prime⟩

/-- The BN254 scalar field. -/
abbrev Fr : Type := ZMod fieldModulus

/-! ### Integers as field elements -/

/-- Integers below the modulus are equal when they are equal as field elements. -/
theorem natCast_inj_of_lt {m n : ℕ} (hm : m < fieldModulus) (hn : n < fieldModulus) :
  (m : Fr) = n ↔ m = n
  := by
  rw [ZMod.natCast_eq_natCast_iff', Nat.mod_eq_of_lt hm, Nat.mod_eq_of_lt hn]

/-- Words of at most 253 bits are equal when they are equal as field elements. -/
theorem toNat_cast_inj {w : ℕ} (hw : w ≤ 253) {a b : BitVec w} :
  (a.toNat : Fr) = (b.toNat : Fr) ↔ a = b
  := by
  have hlt : 2 ^ w < fieldModulus :=
    lt_of_le_of_lt (Nat.pow_le_pow_right (by norm_num) hw) (by norm_num [fieldModulus])
  rw [natCast_inj_of_lt (a.isLt.trans hlt) (b.isLt.trans hlt), BitVec.toNat_inj]

end ZkApi
