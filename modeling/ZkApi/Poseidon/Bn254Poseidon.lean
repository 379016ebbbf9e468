import ZkApi.Poseidon.Sponge

/-!
# Poseidon on words

The Solidity library `Bn254Poseidon`, which computes on words of 256 bits with `addmod` and
`mulmod`.  The words need not be reduced: `residue` takes a word to the field element it
stands for, every step of the library commutes with it, and so the library computes the
hash of the residues of its inputs, as a reduced word (`hash3_eq`, `hash5_eq`).
-/

namespace ZkApi

/-- The field element that a word stands for. -/
def residue (w : U256) : Fr := (w.toNat : Fr)

/-- The reduced word of a field element. -/
def word (x : Fr) : U256 := BitVec.ofNat 256 x.val

theorem val_lt (x : Fr) :
  x.val < fieldModulus
  := ZMod.val_lt x

theorem word_toNat (x : Fr) :
  (word x).toNat = x.val
  := by
  have h := val_lt x
  have hp : fieldModulus < 2 ^ 256 := by norm_num [fieldModulus]
  rw [word, BitVec.toNat_ofNat, Nat.mod_eq_of_lt (h.trans hp)]

@[simp]
theorem residue_word (x : Fr) :
  residue (word x) = x
  := by
  rw [residue, word_toNat, ZMod.natCast_zmod_val]

/-- A reduced word is the word of its residue. -/
theorem word_residue {w : U256} (h : w.toNat < fieldModulus) :
  word (residue w) = w
  := by
  rw [BitVec.toNat_eq, word_toNat, residue, ZMod.val_natCast_of_lt h]

theorem residue_ofNat {n : ℕ} (h : n < 2 ^ 256) :
  residue (BitVec.ofNat 256 n) = (n : Fr)
  := by
  rw [residue, BitVec.toNat_ofNat, Nat.mod_eq_of_lt h]

@[simp]
theorem residue_zero :
  residue 0 = 0
  := by
  simp [residue]

/-- A word of at most 256 bits, widened, has the residue of the integer it holds. -/
theorem residue_setWidth {w : ℕ} (hw : w ≤ 256) (x : BitVec w) :
  residue (x.setWidth 256) = (x.toNat : Fr)
  := by
  have h := x.isLt.trans_le (Nat.pow_le_pow_right (by norm_num) hw)
  rw [residue, BitVec.toNat_setWidth, Nat.mod_eq_of_lt h]

/-! ### Modular arithmetic of the machine -/

/-- The machine's `addmod`. -/
def addmod (a b n : U256) : U256 :=
  if n = 0 then 0 else BitVec.ofNat 256 ((a.toNat + b.toNat) % n.toNat)

/-- The machine's `mulmod`. -/
def mulmod (a b n : U256) : U256 :=
  if n = 0 then 0 else BitVec.ofNat 256 ((a.toNat * b.toNat) % n.toNat)

namespace Bn254Poseidon

open Poseidon (State ark mds)

/-- `FIELD_MODULUS` as a word. -/
def FIELD_MODULUS : U256 := BitVec.ofNat 256 fieldModulus

private theorem toNat_modulus :
  FIELD_MODULUS.toNat = fieldModulus
  := by decide

private theorem toNat_ofNat_mod (n : ℕ) :
  (BitVec.ofNat 256 (n % fieldModulus)).toNat = n % fieldModulus
  := by
  have hp : fieldModulus < 2 ^ 256 := by norm_num [fieldModulus]
  have h := Nat.mod_lt n fieldModulus_prime.pos
  rw [BitVec.toNat_ofNat, Nat.mod_eq_of_lt (h.trans hp)]

private theorem modulus_ne_zero : FIELD_MODULUS ≠ 0 := by decide

theorem toNat_addmod (a b : U256) :
  (addmod a b FIELD_MODULUS).toNat = (a.toNat + b.toNat) % fieldModulus
  := by
  rw [addmod, if_neg modulus_ne_zero, toNat_modulus, toNat_ofNat_mod]

theorem toNat_mulmod (a b : U256) :
  (mulmod a b FIELD_MODULUS).toNat = (a.toNat * b.toNat) % fieldModulus
  := by
  rw [mulmod, if_neg modulus_ne_zero, toNat_modulus, toNat_ofNat_mod]

theorem toNat_addmod_lt (a b : U256) :
  (addmod a b FIELD_MODULUS).toNat < fieldModulus
  := by
  rw [toNat_addmod]
  apply Nat.mod_lt _ fieldModulus_prime.pos

@[simp]
theorem residue_addmod (a b : U256) :
  residue (addmod a b FIELD_MODULUS) = residue a + residue b
  := by
  rw [residue, toNat_addmod, ZMod.natCast_mod, Nat.cast_add, residue, residue]

@[simp]
theorem residue_mulmod (a b : U256) :
  residue (mulmod a b FIELD_MODULUS) = residue a * residue b
  := by
  rw [residue, toNat_mulmod, ZMod.natCast_mod, Nat.cast_mul, residue, residue]

/-! ### The library -/

/-- The words of the byte string `ROUND_CONSTANTS`. -/
def ROUND_CONSTANTS : List ℕ :=
  ark.flatMap fun row => [row.1, row.2.1, row.2.2]

/-- The round constant at an index, read from the byte string. -/
def constant (index : ℕ) : U256 :=
  BitVec.ofNat 256 (ROUND_CONSTANTS.getD index 0)

/-- The fifth power. -/
def pow5 (value : U256) : U256 :=
  let square := mulmod value value FIELD_MODULUS
  mulmod (mulmod square square FIELD_MODULUS) value FIELD_MODULUS

/-- A row of the linear layer. -/
def mdsRow (row : ℕ × ℕ × ℕ) (x y z : U256) : U256 :=
  addmod
    (addmod
      (mulmod x (BitVec.ofNat 256 row.1) FIELD_MODULUS)
      (mulmod y (BitVec.ofNat 256 row.2.1) FIELD_MODULUS)
      FIELD_MODULUS)
    (mulmod z (BitVec.ofNat 256 row.2.2) FIELD_MODULUS)
    FIELD_MODULUS

/-- One round. -/
def round (full : Bool) (state : State U256) (round : ℕ) : State U256 :=
  let offset := round * 3
  let s0 := addmod state.s0 (constant offset) FIELD_MODULUS
  let s1 := addmod state.s1 (constant (offset + 1)) FIELD_MODULUS
  let s2 := addmod state.s2 (constant (offset + 2)) FIELD_MODULUS
  let x := pow5 s0
  let y := if full then pow5 s1 else s1
  let z := if full then pow5 s2 else s2
  { s0 := mdsRow mds.1 x y z
    s1 := mdsRow mds.2.1 x y z
    s2 := mdsRow mds.2.2 x y z }

/-- The permutation: rounds 0 to 3 full, 4 to 60 partial, and 61 to 64 full. -/
@[irreducible]
def permute (state : State U256) : State U256 :=
  let state := (List.range' 0 4).foldl (round true) state
  let state := (List.range' 4 57).foldl (round false) state
  (List.range' 61 4).foldl (round true) state

/-- The hash of three words. -/
@[irreducible]
def hash3 (a b c : U256) : U256 :=
  let state := permute { s0 := 0, s1 := a, s2 := b }
  let state := permute { state with s1 := addmod state.s1 c FIELD_MODULUS }
  state.s1

/-- The hash of five words. -/
@[irreducible]
def hash5 (a b c d e : U256) : U256 :=
  let state := permute { s0 := 0, s1 := a, s2 := b }
  let state := permute
    { state with
      s1 := addmod state.s1 c FIELD_MODULUS
      s2 := addmod state.s2 d FIELD_MODULUS }
  let state := permute { state with s1 := addmod state.s1 e FIELD_MODULUS }
  state.s1

/-- One level of `hash3PairPath32`. -/
def pairPathStep (domain : U256) (index : U32) (siblings : Fin 32 → U256)
    (roots : U256 × U256) (level : Fin 32) : U256 × U256 :=
  let sibling := siblings level
  if (index >>> level.val) &&& 1 = 0 then
    (hash3 domain roots.1 sibling, hash3 domain roots.2 sibling)
  else
    (hash3 domain sibling roots.1, hash3 domain sibling roots.2)

/-- The roots that two leaves have along one path of 32 siblings. -/
def hash3PairPath32 (domain : U256) (index : U32) (oldLeaf newLeaf : U256)
    (siblings : Fin 32 → U256) : U256 × U256 :=
  (List.finRange 32).foldl (pairPathStep domain index siblings) (oldLeaf, newLeaf)

/-! ### The library computes the hash of the residues -/

theorem residue_pow5 (a : U256) :
  residue (pow5 a) = residue a ^ 5
  := by
  simp only [pow5, residue_mulmod]
  ring

theorem residue_mdsRow (row : ℕ × ℕ × ℕ) (x y z : U256)
    (h : row.1 < 2 ^ 256 ∧ row.2.1 < 2 ^ 256 ∧ row.2.2 < 2 ^ 256) :
  residue (mdsRow row x y z)
    = residue x * row.1 + residue y * row.2.1 + residue z * row.2.2
  := by
  simp only [mdsRow, residue_addmod, residue_mulmod, residue_ofNat h.1, residue_ofNat h.2.1,
    residue_ofNat h.2.2]

/-- The byte string holds the rows of round constants one after the other. -/
theorem residue_constant :
  ∀ r < 65,
    residue (constant (r * 3)) = ((ark.getD r (0, 0, 0)).1 : Fr)
      ∧ residue (constant (r * 3 + 1)) = ((ark.getD r (0, 0, 0)).2.1 : Fr)
      ∧ residue (constant (r * 3 + 2)) = ((ark.getD r (0, 0, 0)).2.2 : Fr)
  := by decide +kernel

theorem residue_round (full : Bool) (s : State U256) {r : ℕ} (hr : r < 65) :
  (round full s r).map residue = Poseidon.permuteRound full (s.map residue) r
  := by
  obtain ⟨h0, h1, h2⟩ := residue_constant r hr
  have hrows : ∀ x y z : U256,
      residue (mdsRow mds.1 x y z)
        = residue x * mds.1.1 + residue y * mds.1.2.1 + residue z * mds.1.2.2
      ∧ residue (mdsRow mds.2.1 x y z)
        = residue x * mds.2.1.1 + residue y * mds.2.1.2.1 + residue z * mds.2.1.2.2
      ∧ residue (mdsRow mds.2.2 x y z)
        = residue x * mds.2.2.1 + residue y * mds.2.2.2.1 + residue z * mds.2.2.2.2 := by
    intro x y z
    refine ⟨residue_mdsRow _ x y z ?_, residue_mdsRow _ x y z ?_, residue_mdsRow _ x y z ?_⟩
    all_goals decide
  ext
  all_goals
    cases full <;>
      simp only [round, State.map, Poseidon.permuteRound, Poseidon.applyMds,
        Poseidon.applySBox, Poseidon.applyArk, hrows, residue_pow5, residue_addmod, h0, h1, h2,
        if_true, if_false, Bool.false_eq_true]

/-- A run of rounds on words is the same run on residues. -/
theorem residue_foldl_round (full : Bool) (s : State U256) (rs : List ℕ) :
  (∀ r ∈ rs, r < 65) →
    (rs.foldl (round full) s).map residue
      = rs.foldl (Poseidon.permuteRound full) (s.map residue)
  := by
  induction rs generalizing s with
  | nil => intro _; rfl
  | cons r rs ih =>
    intro h
    rw [List.foldl_cons, List.foldl_cons, ih, residue_round]
    · apply h r List.mem_cons_self
    · intro r' hr'
      apply h r' (List.mem_cons_of_mem r hr')

theorem residue_permute (s : State U256) :
  (permute s).map residue = Poseidon.permute (s.map residue)
  := by
  have h : ∀ a n, a + n ≤ 65 → ∀ r ∈ List.range' a n, r < 65 := by
    intro a n hn r hr
    have := (List.mem_range'_1.mp hr).2
    omega
  unfold permute Poseidon.permute
  rw [residue_foldl_round true _ _ (h 61 4 (by norm_num)),
    residue_foldl_round false _ _ (h 4 57 (by norm_num)),
    residue_foldl_round true _ _ (h 0 4 (by norm_num))]
  rfl

/-- A permuted state is reduced. -/
theorem permute_s1_lt (s : State U256) :
  (permute s).s1.toNat < fieldModulus
  := by
  have h : List.range' 61 4 = [61, 62, 63] ++ [64] := rfl
  unfold permute
  rw [h, List.foldl_append, List.foldl_cons, List.foldl_nil]
  apply toNat_addmod_lt

theorem hash3_lt (a b c : U256) :
  (hash3 a b c).toNat < fieldModulus
  := by
  unfold hash3
  apply permute_s1_lt

theorem hash5_lt (a b c d e : U256) :
  (hash5 a b c d e).toNat < fieldModulus
  := by
  unfold hash5
  apply permute_s1_lt

/-- Permuting after absorbing a first block of words is permuting after absorbing its
residues. -/
private theorem residue_firstBlock (a b : U256) :
  (permute { s0 := 0, s1 := a, s2 := b }).map residue
    = Poseidon.permute
      { s0 := 0, s1 := 0 + residue a, s2 := 0 + residue b }
  := by
  rw [residue_permute, State.map, residue_zero, zero_add, zero_add]

/-- `hash3` is the hash of the residues of its inputs. -/
theorem residue_hash3 (a b c : U256) :
  residue (hash3 a b c) = Poseidon.poseidonHash [residue a, residue b, residue c]
  := by
  have h := residue_firstBlock a b
  rw [Poseidon.poseidonHash, Poseidon.absorb, Poseidon.absorb, ← h, hash3]
  generalize permute { s0 := 0, s1 := a, s2 := b } = t
  have h' := residue_permute { t with s1 := addmod t.s1 c FIELD_MODULUS }
  simp only [State.map, residue_addmod] at h' ⊢
  rw [← h']

/-- `hash5` is the hash of the residues of its inputs. -/
theorem residue_hash5 (a b c d e : U256) :
  residue (hash5 a b c d e)
    = Poseidon.poseidonHash [residue a, residue b, residue c, residue d, residue e]
  := by
  have h := residue_firstBlock a b
  rw [Poseidon.poseidonHash, Poseidon.absorb, Poseidon.absorb, Poseidon.absorb, ← h, hash5]
  generalize permute { s0 := 0, s1 := a, s2 := b } = t
  have h' := residue_permute
    { t with
      s1 := addmod t.s1 c FIELD_MODULUS
      s2 := addmod t.s2 d FIELD_MODULUS }
  simp only [State.map, residue_addmod] at h' ⊢
  rw [← h']
  generalize permute
    { s0 := t.s0, s1 := addmod t.s1 c FIELD_MODULUS, s2 := addmod t.s2 d FIELD_MODULUS } = u
  have h'' := residue_permute { u with s1 := addmod u.s1 e FIELD_MODULUS }
  simp only [State.map, residue_addmod] at h'' ⊢
  rw [← h'']

theorem hash3_eq (a b c : U256) :
  hash3 a b c = word (Poseidon.poseidonHash [residue a, residue b, residue c])
  := by
  rw [← residue_hash3, word_residue (hash3_lt a b c)]

theorem hash5_eq (a b c d e : U256) :
  hash5 a b c d e
    = word (Poseidon.poseidonHash [residue a, residue b, residue c, residue d, residue e])
  := by
  rw [← residue_hash5, word_residue (hash5_lt a b c d e)]

end Bn254Poseidon

end ZkApi
