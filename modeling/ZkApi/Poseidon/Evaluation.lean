import Mathlib.Data.List.GetD
import ZkApi.Poseidon.Sponge

/-!
# Evaluation of the sponge

The hash computed on natural numbers, reduced after every product (`hashValue`).  It is the
hash of the residues (`poseidonHash_cast`), and it is what closed instances are evaluated
with: the arithmetic of numerals is much cheaper than that of the field.
-/

namespace ZkApi.Poseidon

/-- Continue with a number.  The match is there for the evaluation: it reduces the number to
a numeral before it is put in more than one place. -/
def force (n : ℕ) (next : ℕ → ℕ) : ℕ :=
  match n with
  | 0 => next 0
  | m + 1 => next (m + 1)

@[simp]
theorem force_eq (n : ℕ) (next : ℕ → ℕ) :
  force n next = next n
  := by
  cases n
  case zero | succ => rfl

/-! ### The permutation -/

/-- The fifth power. -/
def fifthPower (x : ℕ) : ℕ :=
  force (x * x % fieldModulus) fun y => y * y % fieldModulus * x % fieldModulus

/-- A row of the linear layer. -/
def linearRow (row : ℕ × ℕ × ℕ) (x y z : ℕ) : ℕ :=
  (x * row.1 + y * row.2.1 + z * row.2.2) % fieldModulus

/-- Rounds of one kind, one for each row of constants, and what is done with their result. -/
def roundValues (isFullRound : Bool) :
    List (ℕ × ℕ × ℕ) → State ℕ → (State ℕ → ℕ) → ℕ
  | [], s, next => next s
  | row :: rows, s, next =>
      force (fifthPower (s.s0 + row.1)) fun x =>
      force (bif isFullRound then fifthPower (s.s1 + row.2.1) else s.s1 + row.2.1) fun y =>
      force (bif isFullRound then fifthPower (s.s2 + row.2.2) else s.s2 + row.2.2) fun z =>
      force (linearRow mds.1 x y z) fun s0 =>
      force (linearRow mds.2.1 x y z) fun s1 =>
      force (linearRow mds.2.2 x y z) fun s2 =>
      roundValues isFullRound rows { s0 := s0, s1 := s1, s2 := s2 } next

/-- The permutation on numbers. -/
def permuteValues (s : State ℕ) (next : State ℕ → ℕ) : ℕ :=
  roundValues true ((ark.drop 0).take (fullRounds / 2)) s fun s =>
  roundValues false ((ark.drop (fullRounds / 2)).take partialRounds) s fun s =>
  roundValues true ((ark.drop (fullRounds / 2 + partialRounds)).take (fullRounds / 2)) s next

/-- The residues of a state of numbers. -/
abbrev State.cast (s : State ℕ) : State Fr :=
  s.map Nat.cast

theorem cast_fifthPower (x : ℕ) :
  (fifthPower x : Fr) = (x : Fr) ^ 5
  := by
  rw [fifthPower, force_eq, ZMod.natCast_mod, Nat.cast_mul, ZMod.natCast_mod, Nat.cast_mul,
    ZMod.natCast_mod, Nat.cast_mul]
  ring

theorem cast_linearRow (row : ℕ × ℕ × ℕ) (x y z : ℕ) :
  (linearRow row x y z : Fr) = x * row.1 + y * row.2.1 + z * row.2.2
  := by
  rw [linearRow, ZMod.natCast_mod]
  push_cast
  rfl

/-- A round that has its row of constants. -/
def roundWith (isFullRound : Bool) (s : State Fr) (row : ℕ × ℕ × ℕ) : State Fr :=
  applyMds (applySBox isFullRound
    { s0 := s.s0 + row.1
      s1 := s.s1 + row.2.1
      s2 := s.s2 + row.2.2 })

/-- The rounds of a range of indices are the rounds of the rows that stand there. -/
theorem foldl_permuteRound (isFullRound : Bool) (start n : ℕ) (h : start + n ≤ ark.length)
    (s : State Fr) :
  (List.range' start n).foldl (permuteRound isFullRound) s
    = ((ark.drop start).take n).foldl (roundWith isFullRound) s
  := by
  induction n generalizing start s with
  | zero => rfl
  | succ n ih =>
    have hstart : start < ark.length := by omega
    have hrow : ark.getD start (0, 0, 0) = ark[start] := List.getD_eq_getElem _ _ hstart
    rw [List.range'_succ, List.drop_eq_getElem_cons hstart, List.take_succ_cons,
      List.foldl_cons, List.foldl_cons, ih (start + 1) (by omega), permuteRound, applyArk, hrow]
    rfl

/-- What the rounds pass on is a state whose residues are those of the rounds of the field. -/
theorem roundValues_eq (isFullRound : Bool) (rows : List (ℕ × ℕ × ℕ)) (s : State ℕ) :
  ∃ t : State ℕ, t.cast = rows.foldl (roundWith isFullRound) s.cast
    ∧ ∀ next, roundValues isFullRound rows s next = next t
  := by
  induction rows generalizing s with
  | nil => exact ⟨s, rfl, fun next => rfl⟩
  | cons row rows ih =>
    simp only [roundValues, force_eq, List.foldl_cons]
    obtain ⟨t, hcast, hnext⟩ := ih _
    refine ⟨t, hcast.trans ?_, hnext⟩
    congr 1
    cases isFullRound
    case false | true =>
      simp [State.map, roundWith, applyMds, applySBox, cast_linearRow, cast_fifthPower]

theorem permuteValues_eq (s : State ℕ) :
  ∃ t : State ℕ, t.cast = permute s.cast ∧ ∀ next, permuteValues s next = next t
  := by
  have hlength : fullRounds / 2 + partialRounds + fullRounds / 2 ≤ ark.length := by decide
  obtain ⟨t, ht, hnext⟩ := roundValues_eq true ((ark.drop 0).take (fullRounds / 2)) s
  obtain ⟨u, hu, hnext'⟩ :=
    roundValues_eq false ((ark.drop (fullRounds / 2)).take partialRounds) t
  obtain ⟨v, hv, hnext''⟩ := roundValues_eq true
    ((ark.drop (fullRounds / 2 + partialRounds)).take (fullRounds / 2)) u
  use v
  constructor
  · unfold permute
    rw [hv, hu, ht, foldl_permuteRound _ _ _ hlength, foldl_permuteRound _ _ _ (by omega),
      foldl_permuteRound _ _ _ (by omega)]
  · intro next
    rw [permuteValues, hnext, hnext', hnext'']

/-! ### The hash -/

/-- Absorb a list of numbers, permute and read the first element of the rate. -/
def spongeValue (s : State ℕ) : List ℕ → ℕ
  | [] => permuteValues s State.s1
  | [a] => permuteValues { s with s1 := s.s1 + a } State.s1
  | [a, b] => permuteValues { s with s1 := s.s1 + a, s2 := s.s2 + b } State.s1
  | a :: b :: c :: inputs =>
      permuteValues { s with s1 := s.s1 + a, s2 := s.s2 + b } fun s =>
        spongeValue s (c :: inputs)

/-- The hash of a list of numbers. -/
def hashValue (inputs : List ℕ) : ℕ :=
  spongeValue { s0 := 0, s1 := 0, s2 := 0 } inputs

theorem cast_permuteValues (s : State ℕ) :
  (permuteValues s State.s1 : Fr) = (permute s.cast).s1
  := by
  obtain ⟨t, ht, hnext⟩ := permuteValues_eq s
  rw [hnext, ← ht]
  rfl

theorem cast_spongeValue (s : State ℕ) :
  ∀ inputs : List ℕ,
    (spongeValue s inputs : Fr) = (permute (absorb s.cast (inputs.map Nat.cast))).s1
  | [] => cast_permuteValues s
  | [a] => by
      rw [spongeValue, cast_permuteValues]
      simp [absorb, State.map]
  | [a, b] => by
      rw [spongeValue, cast_permuteValues]
      simp [absorb, State.map]
  | a :: b :: c :: inputs => by
      obtain ⟨t, ht, hnext⟩ := permuteValues_eq { s with s1 := s.s1 + a, s2 := s.s2 + b }
      rw [spongeValue, hnext, cast_spongeValue t (c :: inputs), ht]
      simp [absorb, State.map]

/-- The hash on numbers is the hash of the residues. -/
theorem poseidonHash_cast (inputs : List ℕ) :
  poseidonHash (inputs.map Nat.cast) = (hashValue inputs : Fr)
  := by
  have hzero : State.cast { s0 := 0, s1 := 0, s2 := 0 } = { s0 := 0, s1 := 0, s2 := 0 } := by
    simp [State.map]
  rw [hashValue, cast_spongeValue, hzero, poseidonHash]

/-- A hash is evaluated on the values of its inputs. -/
theorem poseidonHash_eq_of_value {inputs : List Fr} {x : Fr}
    (h : hashValue (inputs.map ZMod.val) % fieldModulus = x.val) :
  poseidonHash inputs = x
  := by
  have hval : ∀ y : Fr, ((y.val : ℕ) : Fr) = y := ZMod.natCast_zmod_val
  have hcast := poseidonHash_cast (inputs.map ZMod.val)
  have hid : (Nat.cast ∘ ZMod.val : Fr → Fr) = id := funext hval
  rw [List.map_map, hid, List.map_id] at hcast
  rw [hcast, ← ZMod.natCast_mod, h, hval]

/-- The hash vector that the setup manifest lists for inputs one to five. -/
example : poseidonHash [1, 2, 3, 4, 5]
    = 0x26081ccbe44f775603e118e5d9152fbbff51c9d7af1a96c9d25ddc7cbed55457 := by
  apply poseidonHash_eq_of_value
  decide +kernel

end ZkApi.Poseidon
