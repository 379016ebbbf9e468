import ZkApi.Poseidon.Constants

/-!
# The Poseidon sponge

The hash of the Rust crates: a sponge of rate two and capacity one over the Poseidon
permutation, with the capacity element first.  Absorbing adds the elements of the input to
the two rate elements, with a permutation between one full block and the next, and
squeezing permutes once more and reads the first rate element.
-/

namespace ZkApi.Poseidon

/-- The state of the sponge, the capacity element first. -/
@[ext]
structure State (α : Type*) where
  s0 : α
  s1 : α
  s2 : α
  deriving DecidableEq

/-- Apply a function to the elements of a state. -/
def State.map {α β : Type*} (f : α → β) (s : State α) : State β where
  s0 := f s.s0
  s1 := f s.s1
  s2 := f s.s2

/-! ### The permutation -/

/-- Add the round constants of a round. -/
def applyArk (round : ℕ) (s : State Fr) : State Fr :=
  let row := ark.getD round (0, 0, 0)
  { s0 := s.s0 + row.1
    s1 := s.s1 + row.2.1
    s2 := s.s2 + row.2.2 }

/-- Raise to the fifth power, all elements in a full round and the first in a partial
round. -/
def applySBox (isFullRound : Bool) (s : State Fr) : State Fr :=
  if isFullRound then
    { s0 := s.s0 ^ 5, s1 := s.s1 ^ 5, s2 := s.s2 ^ 5 }
  else
    { s with s0 := s.s0 ^ 5 }

/-- Multiply by the matrix of the linear layer. -/
def applyMds (s : State Fr) : State Fr where
  s0 := s.s0 * mds.1.1 + s.s1 * mds.1.2.1 + s.s2 * mds.1.2.2
  s1 := s.s0 * mds.2.1.1 + s.s1 * mds.2.1.2.1 + s.s2 * mds.2.1.2.2
  s2 := s.s0 * mds.2.2.1 + s.s1 * mds.2.2.2.1 + s.s2 * mds.2.2.2.2

/-- One round of the permutation. -/
def permuteRound (isFullRound : Bool) (s : State Fr) (round : ℕ) : State Fr :=
  applyMds (applySBox isFullRound (applyArk round s))

/-- The permutation: half of the full rounds, the partial rounds, and the other half. -/
@[irreducible]
def permute (s : State Fr) : State Fr :=
  let s := (List.range' 0 (fullRounds / 2)).foldl (permuteRound true) s
  let s := (List.range' (fullRounds / 2) partialRounds).foldl (permuteRound false) s
  (List.range' (fullRounds / 2 + partialRounds) (fullRounds / 2)).foldl (permuteRound true) s

/-! ### The sponge -/

/-- Absorb a list of elements, in blocks of two, into a state whose rate is empty.  There
is no permutation after the last block. -/
def absorb (s : State Fr) : List Fr → State Fr
  | [] => s
  | [a] => { s with s1 := s.s1 + a }
  | [a, b] => { s with s1 := s.s1 + a, s2 := s.s2 + b }
  | a :: b :: c :: inputs =>
      absorb (permute { s with s1 := s.s1 + a, s2 := s.s2 + b }) (c :: inputs)

/-- The hash of a list of field elements. -/
@[irreducible]
def poseidonHash (inputs : List Fr) : Fr :=
  (permute (absorb { s0 := 0, s1 := 0, s2 := 0 } inputs)).s1

/-- The hash vector that the setup manifest lists for inputs one to five. -/
example : poseidonHash [1, 2, 3, 4, 5]
    = 0x26081ccbe44f775603e118e5d9152fbbff51c9d7af1a96c9d25ddc7cbed55457 := by
  decide +kernel

/-! ### Domains -/

/-- The field element of a label, its bytes in big-endian order. -/
def domain (label : String) : Fr :=
  (label.toUTF8.toList.foldl (fun n b => n * 256 + b.toNat) 0 : ℕ)

end ZkApi.Poseidon
