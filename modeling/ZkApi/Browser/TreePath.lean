import ZkApi.Browser.Core
import ZkApi.Indexer.Paths

/-!
# Paths from a snapshot

The browser is given the whole tree of notes and derives from it the path of a note, or of the
note that is deposited next.  A path comes out exactly of a snapshot that is consistent, and
the vault accepts it (`tree_path_iff`).
-/

namespace ZkApi.Browser

open ZkApi.Core (MerkleTree MERKLE_DEPTH computeRoot)

/-- `TreeSnapshot`. -/
structure TreeSnapshot where
  root : Felt252
  nextNoteId : U32
  leaves : List Felt252

/-- `BrowserTreePath`. -/
structure BrowserTreePath where
  activeRoot : Felt252
  noteId : U32
  siblings : List Felt252

/-- The tree in which the leaves of a list are set, one after the other. -/
def treeOf (leaves : List Felt252) : MerkleTree :=
  leaves.zipIdx.foldl
    (fun tree entry => tree.setLeaf (BitVec.ofNat 32 entry.2) entry.1) MerkleTree.new

/-- `tree_path`. -/
def treePath (snapshot : TreeSnapshot) (noteId : U32) (requireExisting : Bool) :
    Except Failure BrowserTreePath := do
  failIf (snapshot.leaves.length ≠ snapshot.nextNoteId.toNat)
    (.message "tree snapshot leaf count does not match next_note_id")
  failIf ((requireExisting = true ∧ snapshot.nextNoteId ≤ noteId)
      ∨ (requireExisting = false ∧ noteId ≠ snapshot.nextNoteId))
    (.message "requested note index is inconsistent with the tree snapshot")
  let tree := treeOf snapshot.leaves
  failIf (tree.root ≠ snapshot.root) (.message "tree snapshot root verification failed")
  return {
    activeRoot := snapshot.root
    noteId
    siblings := List.ofFn (tree.getSiblings noteId) }

/-! ### The tree of a snapshot -/

/-- The leaves of a list, padded with zeros. -/
def padded (leaves : List Felt252) (i : ℕ) : Felt252 :=
  leaves.getD i 0

theorem padded_append (leaves : List Felt252) (leaf : Felt252) :
  padded (leaves ++ [leaf]) = Function.update (padded leaves) leaves.length leaf
  := by
  funext i
  rw [Function.update_apply, padded, padded]
  obtain hlt | rfl | hgt := Nat.lt_trichotomy i leaves.length
  · rw [if_neg hlt.ne, List.getD_append _ _ _ _ hlt]
  · rw [if_pos rfl, List.getD_append_right _ _ _ _ le_rfl, Nat.sub_self, List.getD_cons_zero]
  · rw [if_neg hgt.ne', List.getD_eq_default _ _ hgt.le,
      List.getD_eq_default _ _ (by rw [List.length_append, List.length_singleton]; omega)]

/-- The tree of the leaves of a list has them in their places, and zero elsewhere. -/
theorem caches_treeOf (leaves : List Felt252) (h : leaves.length ≤ 2 ^ 32) :
  (treeOf leaves).Caches (padded leaves)
  := by
  induction leaves using List.reverseRecOn with
  | nil => apply MerkleTree.Caches.new
  | append_singleton leaves leaf ih =>
    rw [List.length_append, List.length_singleton] at h
    have hindex : (BitVec.ofNat 32 leaves.length).toNat = leaves.length := by
      rw [BitVec.toNat_ofNat]
      apply Nat.mod_eq_of_lt h
    have hset := (ih (by omega)).setLeaf (BitVec.ofNat 32 leaves.length) leaf
    rw [hindex, ← padded_append] at hset
    rw [treeOf, List.zipIdx_append, List.foldl_append, Nat.zero_add, List.zipIdx_singleton,
      List.foldl_cons, List.foldl_nil]
    apply hset

/-! ### When a path comes out -/

/-- The index that is asked for is that of a note, or that of the next one. -/
def Consistent (snapshot : TreeSnapshot) (noteId : U32) (requireExisting : Bool) : Prop :=
  snapshot.leaves.length = snapshot.nextNoteId.toNat
    ∧ (if requireExisting then noteId < snapshot.nextNoteId else noteId = snapshot.nextNoteId)
    ∧ snapshot.root = SparseMerkle.root Core.merkleNode MERKLE_DEPTH (padded snapshot.leaves)

theorem treePath_eq_ok {snapshot : TreeSnapshot} {noteId : U32} {requireExisting : Bool}
    {path : BrowserTreePath} :
  treePath snapshot noteId requireExisting = .ok path
    ↔ Consistent snapshot noteId requireExisting
      ∧ path = {
        activeRoot := snapshot.root
        noteId
        siblings := List.ofFn ((treeOf snapshot.leaves).getSiblings noteId) }
  := by
  have hindex : ¬ ((requireExisting = true ∧ snapshot.nextNoteId ≤ noteId)
      ∨ (requireExisting = false ∧ noteId ≠ snapshot.nextNoteId))
      ↔ if requireExisting then noteId < snapshot.nextNoteId
        else noteId = snapshot.nextNoteId := by
    cases requireExisting <;> simp
  simp only [treePath, Consistent, bind_eq_ok, failIf_eq_ok, not_not, exists_const, hindex,
    and_assoc]
  apply and_congr_right
  intro hlength
  have hbound : snapshot.leaves.length ≤ 2 ^ 32 := by
    rw [hlength]
    apply snapshot.nextNoteId.isLt.le
  rw [(caches_treeOf _ hbound).root_eq, eq_comm (a := snapshot.root)]
  apply and_congr_right
  intro _
  apply and_congr_right
  intro _
  have hok : (pure (f := Except Failure) : BrowserTreePath → _) = Except.ok := rfl
  rw [hok, Except.ok.injEq, eq_comm]

/-- A path is derived exactly from a snapshot with as many leaves as it says and the root of
their tree, for a note that it lists or for the next one.  The path leads from the leaf of the
note, which is zero for the next one, to the root, and the vault replaces the leaf along it. -/
theorem tree_path_iff (snapshot : TreeSnapshot) (noteId : U32) (requireExisting : Bool) :
  ((∃ path, treePath snapshot noteId requireExisting = .ok path)
    ↔ snapshot.leaves.length = snapshot.nextNoteId.toNat
      ∧ (if requireExisting then noteId < snapshot.nextNoteId
        else noteId = snapshot.nextNoteId)
      ∧ snapshot.root = SparseMerkle.root Core.merkleNode MERKLE_DEPTH (padded snapshot.leaves))
    ∧ ∀ path, treePath snapshot noteId requireExisting = .ok path →
      path.activeRoot = snapshot.root ∧ path.noteId = noteId
        ∧ ∃ siblings, path.siblings = List.ofFn siblings
          ∧ path.activeRoot = computeRoot noteId
            (if requireExisting then snapshot.leaves.getD noteId.toNat 0 else 0) siblings
          ∧ ∀ newLeaf,
            Vault.MerkleUpdateLib.verifyAndUpdate path.activeRoot noteId
                (if requireExisting then snapshot.leaves.getD noteId.toNat 0 else 0) newLeaf
                siblings
              = .ok (computeRoot noteId newLeaf siblings)
  := by
  constructor
  · simp only [treePath_eq_ok, exists_and_left, exists_eq, and_true]
    rfl
  · intro path hpath
    obtain ⟨⟨hlength, hindex, hroot⟩, rfl⟩ := treePath_eq_ok.mp hpath
    have hbound : snapshot.leaves.length ≤ 2 ^ 32 := by
      rw [hlength]
      apply snapshot.nextNoteId.isLt.le
    have hleaf : padded snapshot.leaves noteId.toNat
        = if requireExisting then snapshot.leaves.getD noteId.toNat 0 else 0 := by
      split
      case isTrue => rfl
      case isFalse hnext =>
        rw [if_neg hnext] at hindex
        rw [padded, hindex, List.getD_eq_default _ _ hlength.le]
    have hmember := (caches_treeOf _ hbound).verifyMembership noteId
    rw [Core.verifyMembership, beq_iff_eq, (caches_treeOf _ hbound).root_eq, ← hroot, hleaf]
      at hmember
    refine ⟨rfl, rfl, (treeOf snapshot.leaves).getSiblings noteId, rfl, hmember.symm, ?_⟩
    intro newLeaf
    rw [Indexer.vault_verifyAndUpdate_eq, if_pos hmember]

end ZkApi.Browser
