import ZkApi.Library.SparseMerkle
import ZkApi.Poseidon.Evaluation

/-!
# The hashes of the protocol

The hash functions that the Rust crates compute natively, on field elements: the
commitment of a registration, the leaf of a note, the nodes and the root of the tree of
notes, nullifiers and tags.
-/

namespace ZkApi

open Poseidon

/-- The commitment under which a secret is registered. -/
def registrationCommitment (secret : Fr) : Fr :=
  poseidonHash [domain "zkapi.v2.reg", secret, 0]

/-- The leaf of a note. -/
def noteLeaf (noteId : U32) (registration : Fr) (depositAmount : U128) (expiry : U64) : Fr :=
  poseidonHash
    [domain "zkapi.v2.leaf", noteId.toNat, registration, depositAmount.toNat, expiry.toNat]

/-- The hash of two children. -/
def merkleNode (left right : Fr) : Fr :=
  poseidonHash [domain "zkapi.v2.node", left, right]

/-- The root that a leaf and its siblings lead to. -/
def merkleRoot (noteId : U32) (leaf : Fr) (siblings : Fin 32 → Fr) : Fr :=
  (List.finRange 32).foldl
    (fun current level =>
      if (noteId >>> level.val) &&& 1 = 0 then merkleNode current (siblings level)
      else merkleNode (siblings level) current)
    leaf

/-- The nullifier of the state of a note. -/
def requestNullifier (secret anchor : Fr) : Fr :=
  poseidonHash [domain "zkapi.v2.null", secret, anchor]

/-- The tag that binds a request to its context. -/
def authorizationTag (nullifier requestContext : Fr) : Fr :=
  poseidonHash [domain "zkapi.v2.auth", nullifier, requestContext]

/-- The tag that binds a withdrawal to its destination and balance. -/
def withdrawalTag (nullifier destination : Fr) (finalBalance : U128) (hasClearance : Bool) :
    Fr :=
  poseidonHash
    [domain "zkapi.v2.withdraw", nullifier, destination, finalBalance.toNat,
      hasClearance.toNat]

/-- A node is evaluated on the values of its children. -/
theorem merkleNode_eq_of_value {left right parent : Fr}
    (h : hashValue [(domain "zkapi.v2.node").val, left.val, right.val] % fieldModulus
      = parent.val) :
  merkleNode left right = parent
  := poseidonHash_eq_of_value h

/-! ### Paths -/

/-- The bit of an index that the source reads by shifting and masking. -/
theorem shiftRight_and_one (index : U32) (level : ℕ) :
  (index >>> level) &&& 1 = 0 ↔ index.toNat.testBit level = false
  := by
  have hone : ∀ x : U32, (x &&& 1).toNat = x.toNat % 2 := by
    intro x
    rw [BitVec.toNat_and]
    exact Nat.and_one_is_mod _
  have hzero : (0 : U32).toNat = 0 := rfl
  rw [← BitVec.toNat_inj, hone, hzero, BitVec.toNat_ushiftRight,
    Nat.testBit_eq_decide_div_mod_eq, Nat.shiftRight_eq_div_pow, decide_eq_false_iff_not]
  omega

/-- A loop over the levels that shifts the index to find the side of a node is a climb. -/
theorem foldl_shiftRight {α : Type} (h : α → α → α) (index : U32) (x : α)
    (siblings : Fin 32 → α) :
  (List.finRange 32).foldl
      (fun current level =>
        if (index >>> level.val) &&& 1 = 0 then h current (siblings level)
        else h (siblings level) current)
      x
    = SparseMerkle.climb h index.toNat x (List.ofFn siblings)
  := by
  rw [← SparseMerkle.foldl_finRange]
  congr 1
  funext current level
  cases hbit : index.toNat.testBit level.val
  · rw [if_pos ((shiftRight_and_one index level.val).mpr hbit)]
    rfl
  · have hne : ¬ (index >>> level.val) &&& 1 = 0 := by
      rw [shiftRight_and_one, hbit]
      simp
    rw [if_neg hne]
    rfl

/-- The root along a path is a climb in the tree. -/
theorem merkleRoot_eq_climb (noteId : U32) (leaf : Fr) (siblings : Fin 32 → Fr) :
  merkleRoot noteId leaf siblings
    = SparseMerkle.climb merkleNode noteId.toNat leaf (List.ofFn siblings)
  := foldl_shiftRight merkleNode noteId leaf siblings

end ZkApi
