import Mathlib.Data.List.GetD
import ZkApi.Library.Digits
import ZkApi.Library.Framing
import ZkApi.Poseidon.Bn254Poseidon

/-!
# The Solidity hash and the duplex sponge

The Rust crates hash with a duplex sponge that takes its input one element after the other,
and keeps the position in the rate at which the next one goes.  The Solidity library has
its absorption unrolled and reads its round constants from a string of bytes.  On every
input they agree (`hash_agreement`).
-/

namespace ZkApi.Poseidon

/-! ### The duplex sponge -/

/-- A sponge that absorbs, with the position in the rate that is next. -/
structure Duplex where
  state : State Fr
  nextAbsorbIndex : ℕ

/-- The number of elements of the rate. -/
def rate : ℕ := 2

/-- The sponge before anything is absorbed. -/
def Duplex.new : Duplex where
  state := { s0 := 0, s1 := 0, s2 := 0 }
  nextAbsorbIndex := 0

/-- Add an element to the state, at a position in the rate. -/
def State.addAt (s : State Fr) (index : ℕ) (x : Fr) : State Fr :=
  if index = 0 then { s with s1 := s.s1 + x } else { s with s2 := s.s2 + x }

/-- Absorb one element, after a permutation when the rate is full. -/
def Duplex.absorbOne (d : Duplex) (x : Fr) : Duplex :=
  if d.nextAbsorbIndex = rate then
    { state := (permute d.state).addAt 0 x, nextAbsorbIndex := 1 }
  else
    { state := d.state.addAt d.nextAbsorbIndex x, nextAbsorbIndex := d.nextAbsorbIndex + 1 }

/-- Permute and read the first element of the rate. -/
def Duplex.squeezeOne (d : Duplex) : Fr :=
  (permute d.state).s1

/-- `hash_fields` of the core crate and `poseidon_hash` of the proof crate. -/
def hashFields (inputs : List Fr) : Fr :=
  (inputs.foldl Duplex.absorbOne Duplex.new).squeezeOne

theorem absorbOne_zero (s : State Fr) (x : Fr) :
  Duplex.absorbOne { state := s, nextAbsorbIndex := 0 } x
    = { state := { s with s1 := s.s1 + x }, nextAbsorbIndex := 1 }
  := rfl

theorem absorbOne_one (s : State Fr) (x : Fr) :
  Duplex.absorbOne { state := s, nextAbsorbIndex := 1 } x
    = { state := { s with s2 := s.s2 + x }, nextAbsorbIndex := 2 }
  := rfl

/-- When the rate is full, the next element is absorbed after a permutation. -/
theorem absorbOne_full (s : State Fr) (x : Fr) :
  Duplex.absorbOne { state := s, nextAbsorbIndex := 2 } x
    = Duplex.absorbOne { state := permute s, nextAbsorbIndex := 0 } x
  := by
  have hfull : 2 = rate := rfl
  rw [absorbOne_zero, Duplex.absorbOne, if_pos hfull, State.addAt, if_pos rfl]

/-- From an empty rate, elements are absorbed in blocks. -/
theorem foldl_absorbOne (s : State Fr) :
  ∀ inputs, (inputs.foldl Duplex.absorbOne { state := s, nextAbsorbIndex := 0 }).state
    = absorb s inputs
  | [] => rfl
  | [a] => by rw [List.foldl_cons, List.foldl_nil, absorbOne_zero, absorb]
  | [a, b] => by
      rw [List.foldl_cons, List.foldl_cons, List.foldl_nil, absorbOne_zero, absorbOne_one, absorb]
  | a :: b :: c :: inputs => by
      rw [absorb, ← foldl_absorbOne _ (c :: inputs), List.foldl_cons, List.foldl_cons,
        List.foldl_cons, List.foldl_cons, absorbOne_zero, absorbOne_one, absorbOne_full]

theorem hashFields_eq (inputs : List Fr) :
  hashFields inputs = poseidonHash inputs
  := by
  rw [hashFields, Duplex.squeezeOne, Duplex.new, foldl_absorbOne, poseidonHash]

end ZkApi.Poseidon

namespace ZkApi.Bn254Poseidon

open Poseidon (State ark hashFields)

/-! ### The string of round constants -/

/-- The byte string: 32 bytes a constant, most significant first. -/
def roundConstantBytes : List ℕ :=
  ROUND_CONSTANTS.flatMap (Digits.toDigits 256 32)

/-- The word at an offset of a byte string. -/
def mload (bytes : List ℕ) (offset : ℕ) : U256 :=
  BitVec.ofNat 256 (Digits.ofDigits 256 ((bytes.drop offset).take 32))

/-- A word is read back from where it was written. -/
theorem mload_flatMap (xs : List ℕ) {index : ℕ} (hindex : index < xs.length)
    (hx : ∀ x ∈ xs, x < 256 ^ 32) :
  mload (xs.flatMap (Digits.toDigits 256 32)) (32 * index)
    = BitVec.ofNat 256 (xs.getD index 0)
  := by
  have hmem := List.getElem_mem hindex
  have hchunk := Framing.chunk_flatMap
    (fun x _ => @Digits.length_toDigits 256 32 x) hindex
  rw [Framing.chunk] at hchunk
  rw [List.getD_eq_getElem _ _ hindex, mload, hchunk, Digits.ofDigits_toDigits (hx _ hmem)]

theorem length_roundConstants :
  ROUND_CONSTANTS.length = 195
  := by decide +kernel

/-- The constants that the library reads are the words of the byte string. -/
theorem constant_eq_mload {index : ℕ} (h : index < 195) :
  constant index = mload roundConstantBytes (32 * index)
  := by
  have hlt : ∀ x ∈ ROUND_CONSTANTS, x < 256 ^ 32 := by decide +kernel
  rw [roundConstantBytes, mload_flatMap _ (by rw [length_roundConstants]; apply h) hlt, constant]

/-! ### Agreement -/

/-- On all words, reduced or not, the hashes of the library are the reduced words of the
hashes of the residues.  The constants are read from the byte string of the library, and
every round on words is, on residues, the round of the permutation. -/
theorem hash_agreement :
  (∀ a b c : U256,
    hash3 a b c = word (hashFields [residue a, residue b, residue c])
      ∧ (hash3 a b c).toNat < fieldModulus)
    ∧ (∀ a b c d e : U256,
      hash5 a b c d e
          = word (hashFields [residue a, residue b, residue c, residue d, residue e])
        ∧ (hash5 a b c d e).toNat < fieldModulus)
    ∧ (∀ index < 195, constant index = mload roundConstantBytes (32 * index))
    ∧ ∀ (full : Bool) (s : State U256), ∀ r < 65,
      (round full s r).map residue = Poseidon.permuteRound full (s.map residue) r
  := by
  constructor
  · intro a b c
    rw [Poseidon.hashFields_eq]
    exact ⟨hash3_eq a b c, hash3_lt a b c⟩
  constructor
  · intro a b c d e
    rw [Poseidon.hashFields_eq]
    exact ⟨hash5_eq a b c d e, hash5_lt a b c d e⟩
  constructor
  · intro index h
    apply constant_eq_mload h
  · intro full s r hr
    apply residue_round full s hr

end ZkApi.Bn254Poseidon
