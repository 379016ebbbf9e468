import ZkApi.Core.Merkle
import ZkApi.Vault.Roots

/-!
# The evaluators of paths

The root that a leaf and its siblings lead to is computed in five places: by the tree of the
core crate, by its second version, by the circuits on field elements, and by the vault, one
path at a time and two paths at once.  They agree (`paths_agree`), so that the vault updates a
leaf exactly along the paths that `compute_root` takes to its root.
-/

namespace ZkApi.Indexer

open Vault SparseMerkle

/-! ### The hashes of the two sides -/

theorem merkleNode_eq :
  Core.merkleNode = MerkleUpdateLib.poseidonNodeHash
  := by
  funext left right
  have hdomain : residue MerkleUpdateLib.DOMAIN_NODE = Poseidon.domain "zkapi.v2.node" := by
    decide +kernel
  rw [Core.merkleNode, Core.hashDomain, MerkleUpdateLib.poseidonNodeHash,
    Bn254Poseidon.hash3_eq, hdomain]
  rfl

theorem noteLeaf_eq (noteId : U32) (commitment : Felt252) (amount : U128) (expiryTs : U64) :
  Core.noteLeaf noteId commitment amount expiryTs
    = NoteLeafLib.computeLeaf noteId commitment amount expiryTs
  := by
  have hdomain : residue NoteLeafLib.DOMAIN_LEAF = Poseidon.domain "zkapi.v2.leaf" := by
    decide +kernel
  rw [Core.noteLeaf, Core.hashDomain, NoteLeafLib.computeLeaf, Bn254Poseidon.hash5_eq, hdomain]
  rfl

/-! ### The roots -/

variable (index : U32) (leaf : Felt252) (siblings : Fin 32 → Felt252)

theorem core_merkleRoot_eq :
  Core.merkleRoot index leaf siblings = Core.computeRoot index leaf siblings
  := by
  rw [Core.merkleRoot_eq_climb, Core.computeRoot_eq_climb]

theorem proof_merkleRoot_eq :
  ZkApi.merkleRoot index (residue leaf) (fun level => residue (siblings level))
    = residue (Core.computeRoot index leaf siblings)
  := by
  have hmap : List.ofFn (fun level => residue (siblings level))
      = (List.ofFn siblings).map residue := List.map_ofFn.symm
  rw [merkleRoot_eq_climb, hmap, ← map_climb Core.residue_merkleNode, Core.computeRoot_eq_climb]

theorem vault_computeRoot_eq :
  MerkleUpdateLib.computeRoot index leaf siblings = Core.computeRoot index leaf siblings
  := by
  rw [Core.computeRoot_eq_climb, merkleNode_eq]
  apply foldl_shiftRight MerkleUpdateLib.poseidonNodeHash

theorem vault_hash3PairPath32_eq (newLeaf : Felt252) :
  Bn254Poseidon.hash3PairPath32 MerkleUpdateLib.DOMAIN_NODE index leaf newLeaf siblings
    = (Core.computeRoot index leaf siblings, Core.computeRoot index newLeaf siblings)
  := by
  rw [hash3PairPath32_eq, Core.computeRoot_eq_climb, Core.computeRoot_eq_climb, merkleNode_eq]

theorem vault_verifyAndUpdate_eq (currentRoot newLeaf : Felt252) :
  MerkleUpdateLib.verifyAndUpdate currentRoot index leaf newLeaf siblings
    = if Core.computeRoot index leaf siblings = currentRoot then
        .ok (Core.computeRoot index newLeaf siblings)
      else
        .error .staleRoot
  := by
  simp only [MerkleUpdateLib.verifyAndUpdate, vault_hash3PairPath32_eq, revertIf, ne_eq, ite_not]
  split
  case isTrue | isFalse => rfl

/-- All evaluators of a path denote one field element.  The vault reverts exactly when the old
leaf does not lead to the current root, and otherwise returns the root that the new leaf leads
to, so that putting a leaf back returns the root that there was. -/
theorem paths_agree :
  Core.merkleRoot index leaf siblings = Core.computeRoot index leaf siblings
    ∧ ZkApi.merkleRoot index (residue leaf) (fun level => residue (siblings level))
      = residue (Core.computeRoot index leaf siblings)
    ∧ MerkleUpdateLib.computeRoot index leaf siblings = Core.computeRoot index leaf siblings
    ∧ (∀ newLeaf,
      Bn254Poseidon.hash3PairPath32 MerkleUpdateLib.DOMAIN_NODE index leaf newLeaf siblings
        = (Core.computeRoot index leaf siblings, Core.computeRoot index newLeaf siblings))
    ∧ (∀ currentRoot newLeaf,
      MerkleUpdateLib.verifyAndUpdate currentRoot index leaf newLeaf siblings
        = if Core.computeRoot index leaf siblings = currentRoot then
            .ok (Core.computeRoot index newLeaf siblings)
          else
            .error .staleRoot)
    ∧ ∀ currentRoot newLeaf newRoot,
      MerkleUpdateLib.verifyAndUpdate currentRoot index leaf newLeaf siblings = .ok newRoot →
        MerkleUpdateLib.verifyAndUpdate newRoot index newLeaf leaf siblings = .ok currentRoot
  := by
  constructor
  · apply core_merkleRoot_eq
  constructor
  · apply proof_merkleRoot_eq
  constructor
  · apply vault_computeRoot_eq
  constructor
  · apply vault_hash3PairPath32_eq
  constructor
  · apply vault_verifyAndUpdate_eq
  · intro currentRoot newLeaf newRoot h
    obtain ⟨hold, hnew⟩ := verifyAndUpdate_eq_ok.mp h
    apply verifyAndUpdate_eq_ok.mpr ⟨hnew, hold⟩

end ZkApi.Indexer
