import Mathlib.Algebra.Group.Nat.Defs
import Mathlib.Data.List.Basic

/-!
# Keccak-256

The sponge over the permutation of 25 lanes of 64 bits, with the padding of the original
submission and a rate of 136 bytes.  A state is the list of its lanes, and a lane is a
number below `2 ^ 64`; the lane with coordinates `x` and `y` is at `x + 5 * y`.
-/

namespace Keccak

/-- A lane of a state. -/
def lane (state : List ℕ) (x y : ℕ) : ℕ :=
  state.getD (x % 5 + 5 * (y % 5)) 0

/-- The state whose lanes are given by their coordinates. -/
def ofLanes (f : ℕ → ℕ → ℕ) : List ℕ :=
  (List.range 25).map fun i => f (i % 5) (i / 5)

/-- A lane rotated to the left. -/
def rotateLeft (value offset : ℕ) : ℕ :=
  (value <<< offset) % 2 ^ 64 ||| value >>> (64 - offset)

/-- The rotations of the lanes. -/
def offsets : List ℕ :=
  [0, 1, 62, 28, 27, 36, 44, 6, 55, 20, 3, 10, 43, 25, 39, 41, 45, 15, 21, 8, 18, 2, 61, 56, 14]

/-- The constants of the rounds. -/
def roundConstants : List ℕ :=
  [0x0000000000000001, 0x0000000000008082, 0x800000000000808a, 0x8000000080008000,
    0x000000000000808b, 0x0000000080000001, 0x8000000080008081, 0x8000000000008009,
    0x000000000000008a, 0x0000000000000088, 0x0000000080008009, 0x000000008000000a,
    0x000000008000808b, 0x800000000000008b, 0x8000000000008089, 0x8000000000008003,
    0x8000000000008002, 0x8000000000000080, 0x000000000000800a, 0x800000008000000a,
    0x8000000080008081, 0x8000000000008080, 0x0000000080000001, 0x8000000080008008]

/-- Every lane takes in the parities of two columns. -/
def theta (state : List ℕ) : List ℕ :=
  let parities := (List.range 5).map fun x =>
    lane state x 0 ^^^ lane state x 1 ^^^ lane state x 2 ^^^ lane state x 3 ^^^ lane state x 4
  ofLanes fun x y =>
    lane state x y ^^^ parities.getD ((x + 4) % 5) 0
      ^^^ rotateLeft (parities.getD ((x + 1) % 5) 0) 1

/-- The lanes are rotated, and moved. -/
def rhoPi (state : List ℕ) : List ℕ :=
  ofLanes fun x y => rotateLeft (lane state (x + 3 * y) x) (lane offsets (x + 3 * y) x)

/-- The only step that is not linear. -/
def chi (state : List ℕ) : List ℕ :=
  ofLanes fun x y =>
    lane state x y ^^^ ((2 ^ 64 - 1 - lane state (x + 1) y) &&& lane state (x + 2) y)

/-- One round. -/
def round (state : List ℕ) (constant : ℕ) : List ℕ :=
  match chi (rhoPi (theta state)) with
  | [] => []
  | first :: lanes => (first ^^^ constant) :: lanes

/-- The permutation of states. -/
def permutation (state : List ℕ) : List ℕ :=
  roundConstants.foldl round state

/-- The bytes of a lane, least significant first. -/
def bytesOfLane (value : ℕ) : List UInt8 :=
  (List.range 8).map fun i => UInt8.ofNat (value >>> (8 * i))

/-- The lanes that some bytes fill, least significant byte first. -/
def lanesOfBytes : List UInt8 → List ℕ
  | b0 :: b1 :: b2 :: b3 :: b4 :: b5 :: b6 :: b7 :: bytes =>
      (b0.toNat + b1.toNat * 2 ^ 8 + b2.toNat * 2 ^ 16 + b3.toNat * 2 ^ 24 + b4.toNat * 2 ^ 32
        + b5.toNat * 2 ^ 40 + b6.toNat * 2 ^ 48 + b7.toNat * 2 ^ 56) :: lanesOfBytes bytes
  | _ => []

def rate : ℕ :=
  136

/-- The message, filled up to a multiple of the rate. -/
def padded (message : List UInt8) : List UInt8 :=
  let fill := rate - message.length % rate
  if fill = 1 then
    message ++ [0x81]
  else
    message ++ 0x01 :: (List.replicate (fill - 2) 0 ++ [0x80])

/-- Take in a number of blocks. -/
def absorb : ℕ → List ℕ → List UInt8 → List ℕ
  | 0, state, _ => state
  | blocks + 1, state, bytes =>
      let block := lanesOfBytes (bytes.take rate)
      absorb blocks (permutation (ofLanes fun x y => lane state x y ^^^ lane block x y))
        (bytes.drop rate)

/-- The hash of a message. -/
def keccak256 (message : List UInt8) : List UInt8 :=
  let state := absorb (message.length / rate + 1) (List.replicate 25 0) (padded message)
  (state.take 4).flatMap bytesOfLane

/-! ### The length of a hash -/

theorem length_ofLanes (f : ℕ → ℕ → ℕ) :
  (ofLanes f).length = 25
  := by rw [ofLanes, List.length_map, List.length_range]

theorem length_round (state : List ℕ) (constant : ℕ) :
  (round state constant).length = 25
  := by
  have hlen : (chi (rhoPi (theta state))).length = 25 := length_ofLanes _
  rw [round]
  split
  case h_1 hnil =>
    rw [hnil] at hlen
    cases hlen
  case h_2 hcons =>
    rw [hcons] at hlen
    exact hlen

theorem length_permutation {state : List ℕ} (h : state.length = 25) :
  (permutation state).length = 25
  := by
  rw [permutation]
  induction roundConstants generalizing state with
  | nil => exact h
  | cons constant constants ih => exact ih (length_round state constant)

theorem length_absorb {state : List ℕ} (h : state.length = 25) (blocks : ℕ) (bytes : List UInt8) :
  (absorb blocks state bytes).length = 25
  := by
  induction blocks generalizing state bytes with
  | zero => exact h
  | succ blocks ih => exact ih (length_permutation (length_ofLanes _)) _

/-- A hash has 32 bytes. -/
theorem length_keccak256 (message : List UInt8) :
  (keccak256 message).length = 32
  := by
  have hlane : ∀ value ∈ (absorb (message.length / rate + 1) (List.replicate 25 0)
      (padded message)).take 4, (bytesOfLane value).length = 8 := by
    intro value _
    rw [bytesOfLane, List.length_map, List.length_range]
  rw [keccak256, List.length_flatMap, List.map_congr_left hlane, List.map_const',
    List.sum_replicate_nat, List.length_take, length_absorb List.length_replicate]
  rfl

end Keccak
