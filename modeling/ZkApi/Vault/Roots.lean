import ZkApi.Proof.Hashes
import ZkApi.Vault.Money

/-!
# The root of the notes

The vault stores a root and trusts a caller for the siblings of every update.  The tree
whose root it should be has the leaf of every active note and zero everywhere else
(`leaves`).  As long as no two of the pairs that are hashed collide, siblings that lead to
the stored root are, as field elements, those of the tree, so that every update is that of
the tree (`verifyAndUpdate_sound`), and the stored root is the root of the tree in every
reachable state (`currentRoot_eq`).
-/

namespace ZkApi.Vault

open SparseMerkle MerkleUpdateLib

variable {v : Deployment} {env : Env} {w w' : World} {r : Receipt} {actions : List Action}

/-! ### Paths of words and paths of residues -/

theorem residue_poseidonNodeHash (left right : U256) :
  residue (poseidonNodeHash left right) = merkleNode (residue left) (residue right)
  := by
  have hdomain : residue DOMAIN_NODE = Poseidon.domain "zkapi.v2.node" := by decide +kernel
  rw [poseidonNodeHash, Bn254Poseidon.residue_hash3, hdomain, merkleNode]

/-- The hash of two children depends on their residues only. -/
theorem poseidonNodeHash_congr (a b c d : U256) (hac : residue a = residue c)
    (hbd : residue b = residue d) :
  poseidonNodeHash a b = poseidonNodeHash c d
  := by
  simp only [poseidonNodeHash, Bn254Poseidon.hash3_eq, hac, hbd]

theorem residue_computeLeaf (noteId : U32) (commitment : U256) (amount : U128) (expiryTs : U64) :
  residue (NoteLeafLib.computeLeaf noteId commitment amount expiryTs)
    = noteLeaf noteId (residue commitment) amount expiryTs
  := by
  have hdomain : residue NoteLeafLib.DOMAIN_LEAF = Poseidon.domain "zkapi.v2.leaf" := by
    decide +kernel
  rw [NoteLeafLib.computeLeaf, Bn254Poseidon.residue_hash5, hdomain, noteLeaf,
    residue_setWidth (by norm_num), residue_setWidth (by norm_num),
    residue_setWidth (by norm_num)]

/-- The two roots of a pair of leaves are reached by climbing from them. -/
theorem hash3PairPath32_eq (index : U32) (oldLeaf newLeaf : U256) (siblings : Fin 32 → U256) :
  Bn254Poseidon.hash3PairPath32 DOMAIN_NODE index oldLeaf newLeaf siblings
    = (climb poseidonNodeHash index.toNat oldLeaf (List.ofFn siblings),
      climb poseidonNodeHash index.toNat newLeaf (List.ofFn siblings))
  := by
  rw [← foldl_finRange, ← foldl_finRange, Bn254Poseidon.hash3PairPath32]
  generalize List.finRange 32 = levels
  induction levels generalizing oldLeaf newLeaf with
  | nil => rfl
  | cons level levels ih =>
    rw [List.foldl_cons, List.foldl_cons, List.foldl_cons, ← ih]
    congr 1
    unfold Bn254Poseidon.pairPathStep
    cases h : index.toNat.testBit level.val
    · rw [if_pos ((shiftRight_and_one index level.val).mpr h)]
      simp only [Bool.false_eq_true, if_false, poseidonNodeHash]
    · have hne : ¬ (index >>> level.val) &&& 1 = 0 := by
        rw [shiftRight_and_one, h]
        simp
      rw [if_neg hne]
      simp only [if_true, poseidonNodeHash]

theorem verifyAndUpdate_eq_ok {currentRoot oldLeaf newLeaf newRoot : U256} {index : U32}
    {siblings : Fin 32 → U256} :
  verifyAndUpdate currentRoot index oldLeaf newLeaf siblings = .ok newRoot
    ↔ climb poseidonNodeHash index.toNat oldLeaf (List.ofFn siblings) = currentRoot
      ∧ climb poseidonNodeHash index.toNat newLeaf (List.ofFn siblings) = newRoot
  := by
  simp only [verifyAndUpdate, hash3PairPath32_eq, bind_eq_ok, revertIf_eq_ok, pure_eq_ok,
    not_not, exists_const]

/-! ### The tree of the notes -/

/-- The leaf that belongs to a note of the ledger: its own leaf when it is active, and zero
otherwise. -/
def noteLeafAt (l : Ledger) (n : U32) : U256 :=
  if (l.notes n).status = .active then leaf n (l.notes n) else 0

/-- The leaves of the tree of the notes. -/
def leaves (l : Ledger) (i : ℕ) : U256 :=
  if i < 2 ^ 32 then noteLeafAt l (BitVec.ofNat 32 i) else 0

/-- The root of the tree of the notes. -/
def treeRoot (l : Ledger) : U256 :=
  root poseidonNodeHash MERKLE_DEPTH (leaves l)

/-- The siblings of a note in the tree of the notes. -/
def siblingPath (l : Ledger) (n : U32) (level : Fin 32) : U256 :=
  (path poseidonNodeHash (leaves l) n.toNat MERKLE_DEPTH).get
    (level.cast (length_path _ _ _ _).symm)

theorem ofFn_siblingPath (l : Ledger) (n : U32) :
  List.ofFn (siblingPath l n) = path poseidonNodeHash (leaves l) n.toNat MERKLE_DEPTH
  := by
  apply List.ext_get
  · rw [List.length_ofFn, length_path]
    rfl
  · intro i _ _
    rw [List.get_ofFn]
    rfl

theorem leaves_toNat (l : Ledger) (n : U32) :
  leaves l n.toNat = noteLeafAt l n
  := by
  rw [leaves, if_pos n.isLt, BitVec.ofNat_toNat, BitVec.setWidth_eq]

/-- Ledgers that differ in one note have trees that differ in its leaf. -/
theorem leaves_update {l l' : Ledger} {n : U32} {x : U256}
    (hother : ∀ m ≠ n, l'.notes m = l.notes m) (hself : noteLeafAt l' n = x) :
  leaves l' = Function.update (leaves l) n.toNat x
  := by
  funext i
  by_cases hi : i = n.toNat
  · rw [hi, Function.update_self, leaves_toNat, hself]
  · rw [Function.update_of_ne hi, leaves, leaves]
    split
    · next hlt =>
      have hne : BitVec.ofNat 32 i ≠ n := by
        rintro rfl
        apply hi
        rw [BitVec.toNat_ofNat, Nat.mod_eq_of_lt hlt]
      rw [noteLeafAt, noteLeafAt, hother _ hne]
    · rfl

theorem leaves_congr {l l' : Ledger} (h : ∀ m, noteLeafAt l' m = noteLeafAt l m) :
  leaves l' = leaves l
  := by
  funext i
  rw [leaves, leaves, h]

/-! ### One update -/

/-- The pairs that two leaves hash on their way up. -/
def updatePairs (index : U32) (oldLeaf newLeaf : U256) (siblings : Fin 32 → U256) :
    List (Fr × Fr) :=
  let ss := List.ofFn fun level => residue (siblings level)
  climbPairs merkleNode index.toNat (residue oldLeaf) ss
    ++ climbPairs merkleNode index.toNat (residue newLeaf) ss

/-- The children of the nodes of a tree, as field elements. -/
def Children (D : Set (Fr × Fr)) (f : ℕ → U256) : Prop :=
  ∀ k < MERKLE_DEPTH, ∀ j, children merkleNode (fun i => residue (f i)) k j ∈ D

/-- No two pairs of a set have the same hash. -/
def CollisionFree (D : Set (Fr × Fr)) : Prop :=
  Set.InjOn (Function.uncurry merkleNode) D

/-- An update that is accepted on the root of a tree leads to the root of the tree with the
new leaf in place. -/
theorem verifyAndUpdate_sound {D : Set (Fr × Fr)} {f : ℕ → U256} {index : U32}
    {newLeaf newRoot : U256} {siblings : Fin 32 → U256}
    (hD : CollisionFree D) (hf : Children D f)
    (hpairs : ∀ p ∈ updatePairs index (f index.toNat) newLeaf siblings, p ∈ D)
    (h : verifyAndUpdate (root poseidonNodeHash MERKLE_DEPTH f) index (f index.toNat) newLeaf
      siblings = .ok newRoot) :
  newRoot = root poseidonNodeHash MERKLE_DEPTH (Function.update f index.toNat newLeaf)
    ∧ Children D (Function.update f index.toNat newLeaf)
  := by
  have hres := residue_poseidonNodeHash
  obtain ⟨hold, hnew⟩ := verifyAndUpdate_eq_ok.mp h
  have hlt : index.toNat < 2 ^ MERKLE_DEPTH := index.isLt
  have hmap : (List.ofFn siblings).map residue = List.ofFn fun level => residue (siblings level) :=
    List.map_ofFn
  -- the climb of the residues ends in the root of the tree of residues
  have hroot := congrArg residue hold
  rw [map_climb hres, root, map_node hres, ← root, hmap] at hroot
  have hlen : (List.ofFn fun level => residue (siblings level)).length = MERKLE_DEPTH :=
    List.length_ofFn
  rw [← hlen] at hlt hroot
  have hf' : ∀ k < (List.ofFn fun level => residue (siblings level)).length, ∀ j,
      children merkleNode (fun i => residue (f i)) k j ∈ D := by
    rw [hlen]
    apply hf
  have hsound := climb_sound merkleNode hD hlt hf'
    (fun p hp => hpairs p (List.mem_append_left _ hp)) hroot
  rw [hlen] at hsound hlt
  have hpath : (List.ofFn siblings).map residue
      = (path poseidonNodeHash f index.toNat MERKLE_DEPTH).map residue := by
    rw [hmap, map_path hres]
    exact hsound.2
  constructor
  · rw [← hnew, climb_congr poseidonNodeHash_congr _ _ _ _ hpath, climb_path _ f hlt]
  · have hupdate : (fun i => residue (Function.update f index.toNat newLeaf i))
        = Function.update (fun i => residue (f i)) index.toNat (residue newLeaf) := by
      funext i
      exact Function.apply_update (fun _ => residue) f index.toNat newLeaf i
    unfold Children
    rw [hupdate]
    apply children_update_mem merkleNode _ _ hf
    intro p hp
    apply hpairs p (List.mem_append_right _ _)
    rw [hsound.2]
    exact hp

/-- The siblings of the tree are accepted. -/
theorem verifyAndUpdate_siblingPath (l : Ledger) (n : U32) (newLeaf : U256) :
  verifyAndUpdate (treeRoot l) n (noteLeafAt l n) newLeaf (siblingPath l n)
    = .ok (root poseidonNodeHash MERKLE_DEPTH (Function.update (leaves l) n.toNat newLeaf))
  := by
  have hlt : n.toNat < 2 ^ MERKLE_DEPTH := n.isLt
  rw [verifyAndUpdate_eq_ok, ofFn_siblingPath, ← leaves_toNat]
  exact ⟨climb_path_self _ _ hlt, climb_path _ _ hlt _⟩

/-! ### The updates of a run -/

/-- The arguments of an update of the tree. -/
structure Update where
  index : U32
  oldLeaf : U256
  newLeaf : U256
  siblings : Fin 32 → U256

/-- The update that a call makes, once it gets so far that it makes one. -/
def Call.update (v : Deployment) (env : Env) (l : Ledger) : Call → Option Update
  | .deposit commitment amount siblings =>
      (bucketedExpiry v env).toOption.map fun expiryTs =>
        { index := l.nextNoteId
          oldLeaf := 0
          newLeaf := NoteLeafLib.computeLeaf l.nextNoteId commitment amount expiryTs
          siblings }
  | .mutualClose inputs _ siblings => remove l inputs.noteId siblings
  | .initiateEscapeWithdrawal inputs _ siblings => remove l inputs.noteId siblings
  | .challengeEscapeWithdrawal noteId _ _ siblings =>
      if (l.notes noteId).status = .pendingWithdrawal then
        some { index := noteId, oldLeaf := 0, newLeaf := leaf noteId (l.notes noteId), siblings }
      else
        none
  | .finalizeEscapeWithdrawal _ => none
  | .claimExpired noteId siblings => remove l noteId siblings
  | .administer _ => none
where
  /-- The removal of the leaf of an active note. -/
  remove (l : Ledger) (noteId : U32) (siblings : Fin 32 → U256) : Option Update :=
    if (l.notes noteId).status = .active then
      some { index := noteId, oldLeaf := leaf noteId (l.notes noteId), newLeaf := 0, siblings }
    else
      none

/-- The pairs that an update hashes. -/
def Update.pairs (u : Update) : List (Fr × Fr) :=
  updatePairs u.index u.oldLeaf u.newLeaf u.siblings

/-- The update that an action makes. -/
def Action.update (v : Deployment) (l : Ledger) : Action → Option Update
  | .call env c _ => c.update v env l
  | .donation _ => none

/-- The ledger after an action. -/
def Action.ledger (l : Ledger) : Action → Ledger
  | .call _ _ receipt => receipt.world.ledger
  | .donation _ => l

/-- The pairs that a list of actions hashes. -/
def runPairs (v : Deployment) : Ledger → List Action → List (Fr × Fr)
  | _, [] => []
  | l, a :: as => ((a.update v l).map Update.pairs).getD [] ++ runPairs v (a.ledger l) as

/-- The ledger that the constructor leaves. -/
def Ledger.initial : Ledger where
  currentRoot := computeEmptyTreeRoot
  nextNoteId := 0
  notes _ := .empty
  pendingWithdrawals _ := .empty
  usedNullifiers _ := false

/-- The pairs that the constructor hashes. -/
def emptyPairs : List (Fr × Fr) :=
  (List.range MERKLE_DEPTH).map fun k => (emptyNode merkleNode 0 k, emptyNode merkleNode 0 k)

/-- The pairs that are hashed from the construction of a vault to the end of a list of
actions. -/
def hashedPairs (v : Deployment) (actions : List Action) : List (Fr × Fr) :=
  emptyPairs ++ runPairs v .initial actions

/-! ### What a step does to the leaves -/

theorem noteLeafAt_of_status {l : Ledger} {n : U32} (h : (l.notes n).status ≠ .active) :
  noteLeafAt l n = 0
  := if_neg h

theorem noteLeafAt_active {l : Ledger} {n : U32} (h : (l.notes n).status = .active) :
  noteLeafAt l n = leaf n (l.notes n)
  := if_pos h

/-- The effect of a step on the tree: nothing, or an update that was verified. -/
inductive TreeEffect (v : Deployment) (l : Ledger) (a : Action) (l' : Ledger) : Prop
  | none :
      a.update v l = none → l'.currentRoot = l.currentRoot →
      (∀ n, noteLeafAt l' n = noteLeafAt l n) → TreeEffect v l a l'
  | update (u : Update) :
      a.update v l = some u → u.oldLeaf = noteLeafAt l u.index →
      verifyAndUpdate l.currentRoot u.index u.oldLeaf u.newLeaf u.siblings
        = .ok l'.currentRoot →
      leaves l' = Function.update (leaves l) u.index.toNat u.newLeaf →
      noteLeafAt l' u.index = u.newLeaf →
      (∀ n ≠ u.index, noteLeafAt l' n = noteLeafAt l n) → TreeEffect v l a l'

/-- A verified update that changes one note is an effect on the tree. -/
private theorem TreeEffect.of_update {l l' : Ledger} {a : Action} (u : Update)
    (hu : a.update v l = some u) (hold : noteLeafAt l u.index = u.oldLeaf)
    (hroot : verifyAndUpdate l.currentRoot u.index u.oldLeaf u.newLeaf u.siblings
      = .ok l'.currentRoot)
    {note : Note} (hnotes : l'.notes = Function.update l.notes u.index note)
    (hnew : noteLeafAt l' u.index = u.newLeaf) :
  TreeEffect v l a l'
  := by
  have hother : ∀ m ≠ u.index, l'.notes m = l.notes m := by
    intro m hm
    rw [hnotes, Function.update_of_ne hm]
  apply TreeEffect.update u hu hold.symm hroot (leaves_update hother hnew) hnew
  intro n hn
  rw [noteLeafAt, noteLeafAt, hother n hn]

/-- The removal of the leaf of an active note is an effect on the tree. -/
private theorem TreeEffect.of_remove {l l' : Ledger} {a : Action} {n : U32}
    {siblings : Fin 32 → U256} {note : Note}
    (hu : a.update v l = Call.update.remove l n siblings) (hactive : (l.notes n).status = .active)
    (hroot : verifyAndUpdate l.currentRoot n (leaf n (l.notes n)) 0 siblings
      = .ok l'.currentRoot)
    (hnotes : l'.notes = Function.update l.notes n note) (hstatus : note.status ≠ .active) :
  TreeEffect v l a l'
  := by
  rw [Call.update.remove, if_pos hactive] at hu
  apply TreeEffect.of_update _ hu (noteLeafAt_active hactive) hroot hnotes
  apply noteLeafAt_of_status
  rw [hnotes, Function.update_self]
  exact hstatus

theorem Effect.tree {call : Call} (hfresh : w.ledger.notes w.ledger.nextNoteId = .empty)
    (h : Effect v env w call r) :
  TreeEffect v w.ledger (.call env call r) r.world.ledger
  := by
  cases h with
  | @deposit commitment amount siblings expiryTs newRoot w' _ _ _ _ _ hexpiry hroot hledger _ =>
    have hold : noteLeafAt w.ledger w.ledger.nextNoteId = 0 :=
      noteLeafAt_of_status (by rw [hfresh]; simp [Note.empty])
    refine .of_update
      { index := w.ledger.nextNoteId
        oldLeaf := 0
        newLeaf := NoteLeafLib.computeLeaf w.ledger.nextNoteId commitment amount expiryTs
        siblings } ?_ hold (by rw [hledger]; exact hroot) (by rw [hledger]; rfl) ?_
    · simp only [Action.update, Call.update, hexpiry]
      rfl
    · simp [hledger, noteLeafAt, leaf]
  | mutualClose hauth hledger _ _ =>
    exact .of_remove rfl hauth.active (by rw [hledger]; exact hauth.update)
      (by rw [hledger]; rfl) (by simp)
  | initiateEscapeWithdrawal hauth _ =>
    exact .of_remove rfl hauth.active hauth.update rfl (by simp)
  | @challengeEscapeWithdrawal noteId inputs proof siblings restoredRoot hstatus _ _ _ _ _ hroot =>
    have hold : noteLeafAt w.ledger noteId = 0 :=
      noteLeafAt_of_status (by rw [hstatus]; simp)
    refine .of_update
      { index := noteId
        oldLeaf := 0
        newLeaf := leaf noteId (w.ledger.notes noteId)
        siblings } ?_ hold hroot rfl ?_
    · exact if_pos hstatus
    · simp [noteLeafAt, leaf]
  | @finalizeEscapeWithdrawal noteId _ _ hstatus _ _ _ hledger _ _ =>
    apply TreeEffect.none rfl
    · rw [hledger]
      rfl
    · intro n
      by_cases hn : n = noteId
      · rw [hn, noteLeafAt_of_status (l := w.ledger) (by rw [hstatus]; simp),
          noteLeafAt_of_status (by simp [hledger])]
      · simp [noteLeafAt, hledger, Function.update_of_ne hn]
  | claimExpired hactive _ hroot hledger _ _ =>
    exact .of_remove rfl hactive (by rw [hledger]; exact hroot) (by rw [hledger]; rfl) (by simp)
  | administer _ => exact .none rfl rfl fun _ => rfl

theorem Conserved.fresh_next (h : Conserved v actions w) :
  w.ledger.notes w.ledger.nextNoteId = .empty
  := h.fresh _ le_rfl

theorem Step.tree {a : Action} (hfresh : w.ledger.notes w.ledger.nextNoteId = .empty)
    (h : Step v w a w') :
  TreeEffect v w.ledger a w'.ledger
  := by
  cases h with
  | call _ _ hexecute => exact (execute_effect hexecute).tree hfresh
  | donation => exact .none rfl rfl fun _ => rfl

theorem Step.ledger {a : Action} (h : Step v w a w') :
  w'.ledger = a.ledger w.ledger
  := by
  cases h <;> rfl

/-! ### The record of a note -/

/-- The part of a note that its leaf depends on. -/
def Note.record (note : Note) : U256 × U128 × U64 :=
  (note.commitment, note.depositAmount, note.expiryTs)

theorem leaf_eq_of_record {n : U32} {note note' : Note} (h : note'.record = note.record) :
  leaf n note' = leaf n note
  := by
  obtain ⟨hcommitment, hamount, hexpiry⟩ : note'.commitment = note.commitment
      ∧ note'.depositAmount = note.depositAmount ∧ note'.expiryTs = note.expiryTs := by
    simpa [Note.record] using h
  rw [leaf, leaf, hcommitment, hamount, hexpiry]

/-- A note that was allocated stays allocated, with the record it has. -/
theorem Effect.record {call : Call} {n : U32} (h : Effect v env w call r)
    (hn : n.toNat < w.ledger.nextNoteId.toNat) :
  n.toNat < r.world.ledger.nextNoteId.toNat
    ∧ (r.world.ledger.notes n).record = (w.ledger.notes n).record
  := by
  have hstatus : ∀ m status,
      (Function.update w.ledger.notes m { w.ledger.notes m with status } n).record
        = (w.ledger.notes n).record := by
    intro m status
    by_cases hm : n = m
    · rw [hm, Function.update_self]
      rfl
    · rw [Function.update_of_ne hm]
  cases h with
  | deposit _ _ _ _ hnext _ _ hledger _ =>
    have hne : n ≠ w.ledger.nextNoteId := by
      rintro rfl
      omega
    have hlt : (w.ledger.nextNoteId + 1).toNat = w.ledger.nextNoteId.toNat + 1 := by
      rw [BitVec.toNat_add]
      exact Nat.mod_eq_of_lt hnext
    simp only [hledger, Ledger.deposited_nextNoteId, Ledger.deposited_notes,
      Function.update_of_ne hne, and_true]
    omega
  | mutualClose _ hledger _ _ =>
    simp only [hledger, Ledger.moved_nextNoteId, Ledger.consumed_nextNoteId,
      Ledger.moved_notes, Ledger.consumed_notes]
    exact ⟨hn, hstatus _ _⟩
  | initiateEscapeWithdrawal _ _ => exact ⟨hn, hstatus _ _⟩
  | challengeEscapeWithdrawal => exact ⟨hn, hstatus _ _⟩
  | finalizeEscapeWithdrawal _ _ _ _ hledger _ _ =>
    simp only [hledger, Ledger.setPending_nextNoteId, Ledger.setStatus_nextNoteId,
      Ledger.setPending_notes, Ledger.setStatus_notes]
    exact ⟨hn, hstatus _ _⟩
  | claimExpired _ _ _ hledger _ _ =>
    simp only [hledger, Ledger.moved_nextNoteId, Ledger.moved_notes]
    exact ⟨hn, hstatus _ _⟩
  | administer _ => exact ⟨hn, rfl⟩

theorem Step.record {a : Action} {n : U32} (h : Step v w a w')
    (hn : n.toNat < w.ledger.nextNoteId.toNat) :
  n.toNat < w'.ledger.nextNoteId.toNat
    ∧ (w'.ledger.notes n).record = (w.ledger.notes n).record
  := by
  cases h with
  | call _ _ hexecute => exact (execute_effect hexecute).record hn
  | donation => exact ⟨hn, rfl⟩

theorem record_of_run {n : U32} (h : Run (Step v) w actions w')
    (hn : n.toNat < w.ledger.nextNoteId.toNat) :
  n.toNat < w'.ledger.nextNoteId.toNat
    ∧ (w'.ledger.notes n).record = (w.ledger.notes n).record
  := by
  apply h.invariant (P := fun t => n.toNat < t.ledger.nextNoteId.toNat
    ∧ (t.ledger.notes n).record = (w.ledger.notes n).record) ⟨hn, rfl⟩
  intro t a u ht hstep
  obtain ⟨hlt, hrecord⟩ := hstep.record ht.1
  exact ⟨hlt, hrecord.trans ht.2⟩

/-! ### The stored root is the root of the tree -/

/-- The stored root is that of the tree of the notes, the pairs of which are among those
that were hashed. -/
structure Rooted (D : Set (Fr × Fr)) (l : Ledger) : Prop where
  root_eq : l.currentRoot = treeRoot l
  children : Children D (leaves l)

theorem TreeEffect.rooted {D : Set (Fr × Fr)} {l l' : Ledger} {a : Action}
    (h : TreeEffect v l a l') (hD : CollisionFree D) (hl : Rooted D l)
    (hpairs : ∀ p ∈ ((a.update v l).map Update.pairs).getD [], p ∈ D) :
  Rooted D l'
  := by
  cases h with
  | none _ hroot hleaves =>
    have hleaves := leaves_congr hleaves
    constructor
    · rw [hroot, hl.root_eq, treeRoot, treeRoot, hleaves]
    · rw [hleaves]
      exact hl.children
  | update u hu hold hroot hleaves _ _ =>
    rw [hu] at hpairs
    rw [hold, ← leaves_toNat, hl.root_eq] at hroot
    have hsound := verifyAndUpdate_sound hD hl.children (by
      intro p hp
      apply hpairs p
      rw [leaves_toNat, ← hold] at hp
      exact hp) hroot
    rw [← hleaves] at hsound
    exact ⟨hsound.1, hsound.2⟩

theorem foldl_range_emptyNode {α : Type} (h : α → α → α) (z : α) (n : ℕ) :
  (List.range n).foldl (fun x _ => h x x) z = emptyNode h z n
  := by
  induction n with
  | zero => rfl
  | succ n ih => rw [List.range_succ, List.foldl_append, ih, List.foldl_cons, List.foldl_nil,
      emptyNode]

theorem leaves_initial :
  leaves .initial = fun _ => 0
  := by
  funext i
  rw [leaves, ite_eq_right_iff]
  intro _
  apply noteLeafAt_of_status
  intro hactive
  cases hactive

theorem Rooted.initial {D : Set (Fr × Fr)} (hD : ∀ p ∈ emptyPairs, p ∈ D) :
  Rooted D .initial
  := by
  constructor
  · rw [treeRoot, leaves_initial, root, node_const, ← foldl_range_emptyNode]
    rfl
  · rw [leaves_initial]
    intro k hk j
    apply hD
    simp only [SparseMerkle.children, residue_zero, node_const]
    exact List.mem_map_of_mem (List.mem_range.mpr hk)

theorem runPairs_append (l : Ledger) (as bs : List Action) :
  runPairs v l (as ++ bs) = runPairs v l as ++ runPairs v (as.foldl Action.ledger l) bs
  := by
  induction as generalizing l with
  | nil => rfl
  | cons a as ih => rw [List.cons_append, runPairs, runPairs, ih, List.foldl_cons,
      List.append_assoc]

theorem ledger_of_run (h : Run (Step v) w actions w') :
  w'.ledger = actions.foldl Action.ledger w.ledger
  := by
  apply h.invariant_history (P := fun as t => t.ledger = as.foldl Action.ledger w.ledger) rfl
  intro ks t a u _ ht hstep
  rw [List.foldl_append, ← ht, hstep.ledger]
  rfl

/-- In a reachable state the stored root is that of the tree of the notes, as long as the
pairs that were hashed do not collide. -/
theorem Reachable.rooted {D : Set (Fr × Fr)} (h : Reachable v actions w) (hD : CollisionFree D)
    (hpairs : ∀ p ∈ hashedPairs v actions, p ∈ D) :
  Rooted D w.ledger
  := by
  obtain ⟨address, timestamp, held, args, w₀, hconstruct, hrun⟩ := h
  have hinitial : w₀.ledger = .initial := (construct_ok hconstruct).2
  revert hpairs
  apply hrun.invariant_history
    (P := fun as t => (∀ p ∈ hashedPairs v as, p ∈ D) → Rooted D t.ledger)
  · intro hpairs
    rw [hinitial]
    apply Rooted.initial
    intro p hp
    exact hpairs p (List.mem_append_left _ hp)
  · intro ks t a u hrun' ih hstep hpairs
    have hreach : Reachable v ks t := ⟨address, timestamp, held, args, w₀, hconstruct, hrun'⟩
    rw [hashedPairs, runPairs_append, ← hinitial, ← ledger_of_run hrun', hinitial,
      ← List.append_assoc, ← hashedPairs, List.forall_mem_append] at hpairs
    apply (hstep.tree hreach.conserved.fresh_next).rooted hD (ih hpairs.1)
    intro p hp
    exact hpairs.2 p (List.mem_append_left _ hp)

/-- An update that a call makes starts from the leaf that the tree has. -/
theorem Call.update_oldLeaf {c : Call} {l : Ledger} {u : Update}
    (hfresh : l.notes l.nextNoteId = .empty) (h : c.update v env l = some u) :
  u.oldLeaf = noteLeafAt l u.index
  := by
  have hremove : ∀ n siblings, Call.update.remove l n siblings = some u →
      u.oldLeaf = noteLeafAt l u.index := by
    intro n siblings h
    rw [Call.update.remove, Option.ite_none_right_eq_some, Option.some.injEq] at h
    obtain ⟨hactive, rfl⟩ := h
    rw [noteLeafAt_active hactive]
  cases c with
  | deposit commitment amount siblings =>
    obtain ⟨expiryTs, -, rfl⟩ := Option.map_eq_some_iff.mp h
    rw [noteLeafAt_of_status]
    rw [hfresh]
    simp [Note.empty]
  | mutualClose => exact hremove _ _ h
  | initiateEscapeWithdrawal => exact hremove _ _ h
  | challengeEscapeWithdrawal =>
    rw [Call.update, Option.ite_none_right_eq_some, Option.some.injEq] at h
    obtain ⟨hstatus, rfl⟩ := h
    rw [noteLeafAt_of_status]
    rw [hstatus]
    simp
  | finalizeEscapeWithdrawal => cases h
  | claimExpired => exact hremove _ _ h
  | administer => cases h

/-- The nodes of the empty tree, by levels. -/
def zeroHashes : List Fr :=
  [ 0x0000000000000000000000000000000000000000000000000000000000000000,
    0x14459319f01358082a8740e1007da37f9fa420e88a60966e7b61c592b62c7127,
    0x0b23d843ace4de76de413ab623d03de221cd71133d5dea06fa8ae6d872e16542,
    0x01e8597e665fe5c489f2a1d9583592c7c35573d977712eae05cffec0a2f99dcd,
    0x0f9550887aa63eefc5759a546476e7a2ac85490986d42e5dee224c17e9b07390,
    0x2f32dffb74ebe46e06307c207617d17e46443de2860d86fe966558f73322be9a,
    0x28cbe6cd0197591cdd6045a56894eb47e129e506de98a84969ccd21cef852762,
    0x1534f00be805853f4b41484d391a7feb6cd56ef883be75017ba8098d0c3c44a3,
    0x18e12888beb12eac6020ed864f0666d508cbf4c52dec209f625073625e560b5e,
    0x2dad3c9cd73cf0921a7f4c19763d6309a4b1ebb4fea7ca381a537104c03c88b7,
    0x06184c88c88702d31fe690ac388800eed320d06fe2f3ec136797fe31ab7cd624,
    0x0f15dea46a54de69475ea6d769a0f3a28fbef2f92acd213f886df77865ddd88e,
    0x10ea9265936d15eac0040a1e3939aceb43104d8c18ad66e6b9d8d7350332d145,
    0x0de14454ea029f83a29902420697515ee27d234a8038440f1436d6d4a6b68f93,
    0x17147aaa78909ee13cea158627f57da2bbc1f534782fdf599a90610a72cb6a52,
    0x09ab6b6ea263d60e9e8e8f1b3ec283605d6e34d00aeda70062b6381d917d5232,
    0x19c411872ef5d5d1e44475aede42bb365b0b4968277538a234a7ea2be523b03a,
    0x0d5ce57cdedaf83f07b68bbda20330aacc9885fb9fdeeb66658d93438dac0a5c,
    0x2aa98193b8e13a5d77407e1e901ad06d2886c6c821324230ff61d79d4cad8632,
    0x182dfbed66d4c4ebc923ec8bf72bce2b565f40530d0833768bfe2911a0c839f1,
    0x206daacc9a4f3ed9959207f5c7107d92c783da940cca39798cfdbc30d49b159f,
    0x1447b3cff055cdac290b6913b00dcba69f061005e30e542b75d9c84d530647be,
    0x1174c400b4e33318f1c7794acf9a776aee510762d4e15047563a87889289f2d9,
    0x1b49dfbd28cd0ac0bbe6145c2050697aa05dcbce1f4907a7b1adc1fd58384d63,
    0x0ebefe278af3a654e9dbaa4a37e71e9144b08836e1b3c5fd75ada9ba9277b13f,
    0x0138b7df79a3c4c86fcc11317fbb69ec7c11e3f1c76b7d030087bc719850395e,
    0x00acdd21cb8ef9ec9f6918edd30dc0fb3f0d562df9d1f629d9c57377a9efde98,
    0x20ea610f916af59d025228543afbada41720b5d7492d8a784cdb1e552bd0fbaa,
    0x2ea92e33da4fe4d87aeaa9b8bf14a69687ccfa2b47c2dad13af0fd3ba3c2956b,
    0x240a0189f6e55687d98e91143e8b380b1f41c33349911346a17e17ca0330c0d0,
    0x0a295ad4e92898125acc1ddf267f37b9ad03f743d586e281dcd8b038bd9e4046,
    0x1f6c1ea37e74af2be72487efb005b00b1f7c5e646197dd4b197bd4ac278f4de6,
    0x2bb43759c24665d98a33afa8d5094817d359d5e4c72a45b45a2a563176d37933 ]

theorem zeroHashes_step :
  ∀ k < 32, merkleNode (zeroHashes.getD k 0) (zeroHashes.getD k 0) = zeroHashes.getD (k + 1) 0
  := by
  have hvalue : ∀ k < 32,
      Poseidon.hashValue [(Poseidon.domain "zkapi.v2.node").val, (zeroHashes.getD k 0).val,
        (zeroHashes.getD k 0).val] % fieldModulus
      = (zeroHashes.getD (k + 1) 0).val := by decide +kernel
  intro k hk
  apply merkleNode_eq_of_value (hvalue k hk)

theorem emptyNode_eq :
  ∀ k ≤ 32, emptyNode merkleNode 0 k = zeroHashes.getD k 0
  | 0, _ => rfl
  | k + 1, h => by rw [emptyNode, emptyNode_eq k (by omega), zeroHashes_step k (by omega)]

end ZkApi.Vault
