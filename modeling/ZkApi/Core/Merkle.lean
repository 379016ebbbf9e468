import ZkApi.Core
import ZkApi.Library.SparseMerkle

/-!
# The cached Merkle tree

`MerkleTree` keeps the nodes that were computed in one map for each level, and takes the
node of an empty tree where a map has no entry.  After any number of leaves were set, every
node that is read is that of the tree that has the leaves (`cached_tree`).
-/

namespace ZkApi.Core

open SparseMerkle

/-- The depth of the tree. -/
def MERKLE_DEPTH : ℕ := 32

/-- `compute_zero_hashes`: the nodes of an empty tree, from the leaf to the root. -/
def computeZeroHashes : List Felt252 :=
  (List.range MERKLE_DEPTH).foldl
    (fun zeros i => zeros ++ [merkleNode (zeros.getD i 0) (zeros.getD i 0)]) [0]

/-! ### Paths -/

/-- `compute_root`. -/
def computeRoot (index : U32) (leaf : Felt252) (siblings : Fin 32 → Felt252) : Felt252 :=
  let step := fun (state : Felt252 × U32) sibling =>
    let (current, idx) := state
    (if idx &&& 1 = 0 then merkleNode current sibling else merkleNode sibling current, idx >>> 1)
  ((List.ofFn siblings).foldl step (leaf, index)).1

/-- `verify_membership`. -/
def verifyMembership (root : Felt252) (index : U32) (leaf : Felt252)
    (siblings : Fin 32 → Felt252) : Bool :=
  computeRoot index leaf siblings == root

/-- `merkle_root`. -/
def merkleRoot (noteId : U32) (leaf : Felt252) (siblings : Fin 32 → Felt252) : Felt252 :=
  (List.finRange 32).foldl
    (fun current level =>
      if (noteId >>> level.val) &&& 1 = 0 then merkleNode current (siblings level)
      else merkleNode (siblings level) current)
    leaf

theorem computeRoot_eq_climb (index : U32) (leaf : Felt252) (siblings : Fin 32 → Felt252) :
  computeRoot index leaf siblings
    = climb merkleNode index.toNat leaf (List.ofFn siblings)
  := by
  rw [computeRoot]
  generalize List.ofFn siblings = path
  induction path generalizing index leaf with
  | nil => rfl
  | cons sibling path ih =>
    have hhalf : (index >>> 1).toNat = index.toNat / 2 := BitVec.toNat_ushiftRight ..
    rw [List.foldl_cons, ih, climb, hhalf]
    congr 1
    rw [ordered]
    have hbit := shiftRight_and_one index 0
    rw [BitVec.ushiftRight_zero, Nat.testBit_zero, decide_eq_false_iff_not] at hbit
    split
    case isTrue h => rw [if_pos (by rw [hbit] at h; omega)]
    case isFalse h => rw [if_neg (by rw [hbit] at h; omega)]

/-- The root of a path from a canonical leaf is canonical. -/
theorem canonical_computeRoot (index : U32) {leaf : Felt252} (h : leaf.Canonical)
    (siblings : Fin 32 → Felt252) :
  (computeRoot index leaf siblings).Canonical
  := by
  rw [computeRoot_eq_climb]
  generalize index.toNat = i
  generalize List.ofFn siblings = path
  induction path generalizing i leaf with
  | nil => exact h
  | cons sibling path ih =>
    apply ih
    apply canonical_hashDomain

theorem merkleRoot_eq_climb (noteId : U32) (leaf : Felt252) (siblings : Fin 32 → Felt252) :
  merkleRoot noteId leaf siblings
    = climb merkleNode noteId.toNat leaf (List.ofFn siblings)
  := foldl_shiftRight merkleNode noteId leaf siblings

/-! ### The tree -/

/-- The tree of the indexer.  `nodes` has the map of every level. -/
structure MerkleTree where
  nextIndex : U32
  leaves : List Felt252
  zeroHashes : List Felt252
  nodes : ℕ → U32 → Option Felt252

namespace MerkleTree

/-- `new`: an empty tree. -/
def new : MerkleTree where
  nextIndex := 0
  leaves := []
  zeroHashes := computeZeroHashes
  nodes _ _ := none

/-- `get_node`. -/
def getNode (tree : MerkleTree) (level : ℕ) (index : U32) : Felt252 :=
  (tree.nodes level index).getD (tree.zeroHashes.getD level 0)

/-- `root`. -/
def root (tree : MerkleTree) : Felt252 :=
  tree.getNode MERKLE_DEPTH 0

/-- `get_leaf`. -/
def getLeaf (tree : MerkleTree) (index : U32) : Felt252 :=
  tree.getNode 0 index

/-- Write a node. -/
def insertNode (tree : MerkleTree) (level : ℕ) (index : U32) (value : Felt252) : MerkleTree :=
  { tree with
    nodes := Function.update tree.nodes level
      (Function.update (tree.nodes level) index (some value)) }

/-- Recompute the nodes above a position of a level, for a number of levels. -/
def recompute (tree : MerkleTree) (level : ℕ) (idx : U32) : ℕ → MerkleTree
  | 0 => tree
  | n + 1 =>
      let parentIdx := idx / 2
      let leftIdx := parentIdx * 2
      let rightIdx := leftIdx + 1
      let left := tree.getNode level leftIdx
      let right := tree.getNode level rightIdx
      (tree.insertNode (level + 1) parentIdx (merkleNode left right)).recompute (level + 1)
        parentIdx n

/-- `set_leaf`. -/
def setLeaf (tree : MerkleTree) (index : U32) (value : Felt252) : MerkleTree :=
  let leaves := (tree.leaves.rightpad (index.toNat + 1) 0).set index.toNat value
  ({ tree with leaves }.insertNode 0 index value).recompute 0 index MERKLE_DEPTH

/-- The siblings on the way up from a position of a level, for a number of levels. -/
def siblingsFrom (tree : MerkleTree) (level : ℕ) (idx : U32) : ℕ → List Felt252
  | 0 => []
  | n + 1 => tree.getNode level (idx ^^^ 1) :: tree.siblingsFrom (level + 1) (idx / 2) n

/-- `get_siblings`. -/
def getSiblings (tree : MerkleTree) (index : U32) (level : Fin 32) : Felt252 :=
  (tree.siblingsFrom 0 index MERKLE_DEPTH).getD level 0

/-! ### The nodes of an empty tree -/

theorem foldl_zeroHashes (n : ℕ) :
  (List.range n).foldl
      (fun zeros i => zeros ++ [merkleNode (zeros.getD i 0) (zeros.getD i 0)]) [0]
    = (List.range (n + 1)).map (emptyNode merkleNode 0)
  := by
  induction n with
  | zero => rfl
  | succ n ih =>
    have hlast : ((List.range (n + 1)).map (emptyNode merkleNode 0)).getD n 0
        = emptyNode merkleNode 0 n := by
      rw [List.getD_eq_getElem?_getD, List.getElem?_map, List.getElem?_range (by omega)]
      rfl
    rw [List.range_succ, List.foldl_append, ih, List.foldl_cons, List.foldl_nil, hlast,
      List.range_succ (n := n + 1), List.map_append]
    rfl

theorem getD_computeZeroHashes {k : ℕ} (hk : k ≤ MERKLE_DEPTH) :
  computeZeroHashes.getD k 0 = emptyNode merkleNode 0 k
  := by
  rw [computeZeroHashes, foldl_zeroHashes, List.getD_eq_getElem?_getD, List.getElem?_map,
    List.getElem?_range (by omega)]
  rfl

/-! ### Reading what was written -/

theorem getNode_insertNode (tree : MerkleTree) (level k : ℕ) (index i : U32)
    (value : Felt252) :
  (tree.insertNode level index value).getNode k i
    = if k = level ∧ i = index then value else tree.getNode k i
  := by
  simp only [getNode, insertNode]
  by_cases hk : k = level
  · subst hk
    rw [Function.update_self]
    by_cases hi : i = index
    · rw [hi, Function.update_self, if_pos ⟨rfl, rfl⟩, Option.getD_some]
    · rw [Function.update_of_ne hi, if_neg fun h => hi h.2]
  · rw [Function.update_of_ne hk, if_neg fun h => hk h.1]

theorem nextIndex_recompute (n : ℕ) (tree : MerkleTree) (level : ℕ) (idx : U32) :
  (tree.recompute level idx n).nextIndex = tree.nextIndex
  := by
  induction n generalizing tree level idx with
  | zero => rfl
  | succ n ih =>
    rw [recompute, ih]
    rfl

/-- Setting a leaf does not count it. -/
@[simp]
theorem nextIndex_setLeaf (tree : MerkleTree) (index : U32) (value : Felt252) :
  (tree.setLeaf index value).nextIndex = tree.nextIndex
  := by
  rw [setLeaf, nextIndex_recompute]
  rfl

/-! ### What a tree stands for -/

/-- The nodes that are read from a tree are those of the tree with the given leaves. -/
def Caches (tree : MerkleTree) (f : ℕ → Felt252) : Prop :=
  ∀ level ≤ MERKLE_DEPTH, ∀ i : U32, tree.getNode level i = node merkleNode f level i.toNat

/-- The nodes up to a level, and those above it that are not on the way up from a leaf, are
those of the tree with the given leaves. -/
def CachesUpTo (tree : MerkleTree) (f : ℕ → Felt252) (index level : ℕ) : Prop :=
  ∀ k ≤ MERKLE_DEPTH, ∀ i : U32, k ≤ level ∨ i.toNat ≠ index / 2 ^ k →
    tree.getNode k i = node merkleNode f k i.toNat

theorem Caches.new :
  MerkleTree.new.Caches fun _ => 0
  := by
  intro level hlevel i
  rw [node_const, ← getD_computeZeroHashes hlevel]
  rfl

/-- The positions of a node of a level, its parent and the children of that. -/
theorem toNat_parent (idx : U32) :
  (idx / 2).toNat = idx.toNat / 2
    ∧ (idx / 2 * 2).toNat = 2 * (idx.toNat / 2)
    ∧ (idx / 2 * 2 + 1).toNat = 2 * (idx.toNat / 2) + 1
  := by
  have hlt := idx.isLt
  have hparent : (idx / 2).toNat = idx.toNat / 2 := BitVec.toNat_udiv
  have hleft : (idx / 2 * 2).toNat = 2 * (idx.toNat / 2) := by
    have htwo : (2 : U32).toNat = 2 := rfl
    rw [BitVec.toNat_mul, hparent, htwo]
    omega
  constructor
  · apply hparent
  constructor
  · apply hleft
  · have hone : (1 : U32).toNat = 1 := rfl
    rw [BitVec.toNat_add, hleft, hone]
    omega

/-- Recomputing the parent extends the levels that are right by one. -/
theorem CachesUpTo.insertNode {tree : MerkleTree} {f : ℕ → Felt252} {index level : ℕ} {idx : U32}
    (h : tree.CachesUpTo f index level) (hidx : idx.toNat = index / 2 ^ level)
    (hlevel : level ≤ MERKLE_DEPTH) :
  (tree.insertNode (level + 1) (idx / 2)
      (merkleNode (tree.getNode level (idx / 2 * 2))
        (tree.getNode level (idx / 2 * 2 + 1)))).CachesUpTo f index (level + 1)
  := by
  obtain ⟨hparent, hleft, hright⟩ := toNat_parent idx
  have hdiv : index / 2 ^ (level + 1) = idx.toNat / 2 := by
    rw [hidx, Nat.div_div_eq_div_mul, pow_succ]
  intro k hk i hcase
  rw [getNode_insertNode]
  split
  case isTrue heq =>
    obtain ⟨rfl, rfl⟩ := heq
    rw [h level hlevel _ (.inl le_rfl), h level hlevel _ (.inl le_rfl), hparent, hleft, hright,
      node]
  case isFalse hne =>
    apply h k hk i
    obtain hle | hoff := hcase
    · obtain hlt | rfl := Nat.lt_or_eq_of_le hle
      · left
        omega
      · right
        -- the parent is the one node of its level on the way up
        rintro heq
        apply hne
        rw [hdiv, ← hparent] at heq
        exact ⟨rfl, BitVec.eq_of_toNat_eq heq⟩
    · right
      apply hoff

theorem CachesUpTo.recompute {f : ℕ → Felt252} (index n : ℕ) {tree : MerkleTree}
    {level : ℕ} {idx : U32} (h : tree.CachesUpTo f index level)
    (hidx : idx.toNat = index / 2 ^ level) (hlevel : level + n = MERKLE_DEPTH) :
  (tree.recompute level idx n).Caches f
  := by
  induction n generalizing tree level idx with
  | zero =>
    intro k hk i
    apply h k hk i (.inl (by omega))
  | succ n ih =>
    rw [MerkleTree.recompute]
    apply ih (h.insertNode hidx (by omega)) _ (by omega)
    rw [(toNat_parent idx).1, hidx, Nat.div_div_eq_div_mul, pow_succ]

/-- Setting a leaf puts it in its place. -/
theorem Caches.setLeaf {tree : MerkleTree} {f : ℕ → Felt252} (h : tree.Caches f) (index : U32)
    (value : Felt252) :
  (tree.setLeaf index value).Caches (Function.update f index.toNat value)
  := by
  rw [MerkleTree.setLeaf]
  apply CachesUpTo.recompute index.toNat MERKLE_DEPTH _
    (by rw [pow_zero, Nat.div_one]) (Nat.zero_add _)
  intro k hk i hcase
  rw [getNode_insertNode]
  split
  case isTrue heq =>
    obtain ⟨rfl, rfl⟩ := heq
    rw [node, Function.update_self]
  case isFalse hne =>
    have hoff : index.toNat / 2 ^ k ≠ i.toNat := by
      obtain hle | hoff := hcase
      · obtain rfl := Nat.le_zero.mp hle
        rw [pow_zero, Nat.div_one]
        intro heq
        apply hne ⟨rfl, (BitVec.eq_of_toNat_eq heq).symm⟩
      · apply hoff.symm
    rw [node_update_of_ne _ _ _ _ _ _ hoff]
    apply h k hk i

/-! ### The root and the siblings -/

variable {tree : MerkleTree} {f : ℕ → Felt252}

theorem Caches.root_eq (h : tree.Caches f) :
  tree.root = SparseMerkle.root merkleNode MERKLE_DEPTH f
  := h MERKLE_DEPTH le_rfl 0

theorem Caches.getLeaf_eq (h : tree.Caches f) (index : U32) :
  tree.getLeaf index = f index.toNat
  := h 0 (Nat.zero_le _) index

theorem toNat_xor_one (idx : U32) :
  (idx ^^^ 1).toNat = sibling idx.toNat
  := by
  rw [← xor_one]
  apply BitVec.toNat_xor idx 1

theorem Caches.siblingsFrom_eq (h : tree.Caches f) (n : ℕ) {level : ℕ} (idx : U32)
    (hlevel : level + n ≤ MERKLE_DEPTH) :
  tree.siblingsFrom level idx n = pathFrom merkleNode f level idx.toNat n
  := by
  induction n generalizing level idx with
  | zero => rfl
  | succ n ih =>
    rw [siblingsFrom, pathFrom, ih _ (by omega), h level (by omega), toNat_xor_one,
      (toNat_parent idx).1]

/-- The siblings that are read are those of the tree. -/
theorem Caches.ofFn_getSiblings (h : tree.Caches f) (index : U32) :
  List.ofFn (tree.getSiblings index) = path merkleNode f index.toNat MERKLE_DEPTH
  := by
  have hsiblings := h.siblingsFrom_eq MERKLE_DEPTH index (Nat.zero_add _).le
  apply List.ext_getElem
  · rw [List.length_ofFn, length_path]
    rfl
  · intro i _ hi
    rw [List.getElem_ofFn, getSiblings, hsiblings]
    apply List.getD_eq_getElem?_getD.trans
    have hget : (pathFrom merkleNode f 0 index.toNat MERKLE_DEPTH)[i]?
        = some (path merkleNode f index.toNat MERKLE_DEPTH)[i] := List.getElem?_eq_getElem hi
    rw [hget, Option.getD_some]

/-! ### Sequences of writes -/

/-- A tree after a sequence of `set_leaf`. -/
def setLeaves (tree : MerkleTree) (writes : List (U32 × Felt252)) : MerkleTree :=
  writes.foldl (fun tree write => tree.setLeaf write.1 write.2) tree

/-- The value that was last written at a position, and zero where nothing was. -/
def lastWritten (writes : List (U32 × Felt252)) (i : ℕ) : Felt252 :=
  ((writes.reverse.find? fun write => write.1.toNat == i).map Prod.snd).getD 0

theorem lastWritten_append (writes : List (U32 × Felt252)) (write : U32 × Felt252) :
  lastWritten (writes ++ [write])
    = Function.update (lastWritten writes) write.1.toNat write.2
  := by
  funext i
  rw [lastWritten, List.reverse_append, List.reverse_singleton, List.singleton_append,
    List.find?_cons, Function.update_apply]
  by_cases hi : i = write.1.toNat
  · rw [if_pos hi, beq_iff_eq.mpr hi.symm]
    rfl
  · rw [if_neg hi, beq_eq_false_iff_ne.mpr (Ne.symm hi)]
    rfl

theorem Caches.setLeaves (writes : List (U32 × Felt252)) :
  (MerkleTree.new.setLeaves writes).Caches (lastWritten writes)
  := by
  induction writes using List.reverseRecOn with
  | nil => apply Caches.new
  | append_singleton writes write ih =>
    rw [MerkleTree.setLeaves, List.foldl_append, List.foldl_cons, List.foldl_nil,
      lastWritten_append]
    apply Caches.setLeaf ih

/-- The siblings of a leaf lead to the root. -/
theorem Caches.verifyMembership (h : tree.Caches f) (index : U32) :
  verifyMembership tree.root index (f index.toNat) (tree.getSiblings index) = true
  := by
  have hlt : index.toNat < 2 ^ MERKLE_DEPTH := index.isLt
  rw [Core.verifyMembership, beq_iff_eq, computeRoot_eq_climb, h.ofFn_getSiblings, h.root_eq,
    climb_path_self merkleNode f hlt]

/-- After any sequence of writes, every node that is read is that of the full tree of the
values that were last written, and so is the root.  The siblings of every leaf lead to it, and
it does not depend on the order of the writes. -/
theorem cached_tree (writes : List (U32 × Felt252)) :
  (∀ level ≤ MERKLE_DEPTH, ∀ k : U32,
    (MerkleTree.new.setLeaves writes).getNode level k
      = node merkleNode (lastWritten writes) level k.toNat)
    ∧ (MerkleTree.new.setLeaves writes).root
      = SparseMerkle.root merkleNode MERKLE_DEPTH (lastWritten writes)
    ∧ (∀ i : U32,
      Core.verifyMembership (MerkleTree.new.setLeaves writes).root i
        (lastWritten writes i.toNat) ((MerkleTree.new.setLeaves writes).getSiblings i) = true)
    ∧ ∀ writes', lastWritten writes' = lastWritten writes →
      (MerkleTree.new.setLeaves writes').root = (MerkleTree.new.setLeaves writes).root
  := by
  have h := Caches.setLeaves writes
  constructor
  · apply h
  constructor
  · apply h.root_eq
  constructor
  · intro i
    apply h.verifyMembership
  · intro writes' hsame
    rw [(Caches.setLeaves writes').root_eq, hsame, h.root_eq]

end MerkleTree

end ZkApi.Core
