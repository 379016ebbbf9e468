import ZkApi.Indexer.Paths
import ZkApi.Vault.Ownership

/-!
# The mirror of the indexer

`TreeMirror` rebuilds the tree of the notes from the events of the vault.  After any prefix
of the events of a run, its leaves and its root are those of the tree of the notes, and as
long as no two of the pairs that the vault has hashed collide, the root is the stored root
and the vault accepts the paths of the mirror (`mirror_refines`).  The mirror never counts a
leaf, so that its next note id is that of the vault only before the first deposit
(`next_note_id_iff`).
-/

namespace ZkApi.Indexer

open Vault SparseMerkle MerkleUpdateLib
open ZkApi.Core (MerkleTree)

variable {v : Deployment} {env : Env} {w w' : World} {r : Receipt} {actions : List Action}

/-! ### Events -/

/-- The events that the indexer consumes. -/
inductive VaultEvent where
  | noteDeposited (noteId : U32) (commitment : Felt252) (amount : U128) (expiryTs : U64)
      (newRoot : Felt252)
  | mutualClose (noteId : U32) (nullifier : Felt252) (finalBalance : U128)
  | escapeWithdrawalInitiated (noteId : U32) (nullifier : Felt252) (finalBalance : U128)
      (challengeDeadline : U64) (newRoot : Felt252)
  | escapeWithdrawalChallenged (noteId : U32) (nullifier : Felt252) (restoredRoot : Felt252)
  | escapeWithdrawalFinalized (noteId : U32) (nullifier : Felt252) (finalBalance : U128)
  | expiredClaimed (noteId : U32) (depositAmount : U128) (newRoot : Felt252)
  deriving DecidableEq

/-- What the indexer sees of an event of the vault. -/
def toVaultEvent : Event → Option VaultEvent
  | .noteDeposited noteId commitment amount expiryTs newRoot =>
      some (.noteDeposited noteId commitment amount expiryTs newRoot)
  | .mutualClose noteId nullifier finalBalance _ =>
      some (.mutualClose noteId nullifier finalBalance)
  | .escapeWithdrawalInitiated noteId nullifier finalBalance _ challengeDeadline newRoot =>
      some (.escapeWithdrawalInitiated noteId nullifier finalBalance challengeDeadline newRoot)
  | .escapeWithdrawalChallenged noteId nullifier restoredRoot =>
      some (.escapeWithdrawalChallenged noteId nullifier restoredRoot)
  | .escapeWithdrawalFinalized noteId nullifier finalBalance _ =>
      some (.escapeWithdrawalFinalized noteId nullifier finalBalance)
  | .expiredClaimed noteId depositAmount newRoot =>
      some (.expiredClaimed noteId depositAmount newRoot)
  | .treasurySet _ => none

/-- The events of an action. -/
def actionEvents : Action → List VaultEvent
  | .call _ _ receipt => receipt.events.filterMap toVaultEvent
  | .donation _ => []

/-- The events of a history, in its order. -/
def vaultEvents (actions : List Action) : List VaultEvent :=
  actions.flatMap actionEvents

/-! ### The mirror -/

/-- A mirror of the tree, with the leaf that every note was deposited with. -/
structure TreeMirror where
  tree : MerkleTree
  originalLeaves : U32 → Option Felt252

namespace TreeMirror

/-- `new`. -/
def new : TreeMirror where
  tree := .new
  originalLeaves _ := none

/-- `root`. -/
def root (mirror : TreeMirror) : Felt252 :=
  mirror.tree.root

/-- `next_note_id`. -/
def nextNoteId (mirror : TreeMirror) : U32 :=
  mirror.tree.nextIndex

/-- `get_path`. -/
def getPath (mirror : TreeMirror) (noteId : U32) : Fin 32 → Felt252 :=
  mirror.tree.getSiblings noteId

/-- `get_zero_path`. -/
def getZeroPath (mirror : TreeMirror) (noteId : U32) : Fin 32 → Felt252 :=
  mirror.tree.getSiblings noteId

/-- `get_leaf`. -/
def getLeaf (mirror : TreeMirror) (noteId : U32) : Felt252 :=
  mirror.tree.getLeaf noteId

/-- The mirror after a leaf was set. -/
def setLeaf (mirror : TreeMirror) (noteId : U32) (leaf : Felt252) : TreeMirror :=
  { mirror with tree := mirror.tree.setLeaf noteId leaf }

/-- `process_event`. -/
def processEvent (mirror : TreeMirror) : VaultEvent → TreeMirror
  | .noteDeposited noteId commitment amount expiryTs _ =>
      let leaf := Core.noteLeaf noteId commitment amount expiryTs
      { mirror.setLeaf noteId leaf with
        originalLeaves := Function.update mirror.originalLeaves noteId (some leaf) }
  | .mutualClose noteId _ _ => mirror.setLeaf noteId 0
  | .escapeWithdrawalInitiated noteId _ _ _ _ => mirror.setLeaf noteId 0
  | .escapeWithdrawalChallenged noteId _ _ =>
      match mirror.originalLeaves noteId with
      | some original => mirror.setLeaf noteId original
      | none => mirror
  | .escapeWithdrawalFinalized _ _ _ => mirror
  | .expiredClaimed noteId _ _ => mirror.setLeaf noteId 0

/-- The mirror that has consumed a list of events. -/
def ofEvents (events : List VaultEvent) : TreeMirror :=
  events.foldl processEvent new

theorem ofEvents_append (es fs : List VaultEvent) :
  ofEvents (es ++ fs) = fs.foldl processEvent (ofEvents es)
  := List.foldl_append

end TreeMirror

/-- The service, which reads its mirror. -/
structure IndexerService where
  mirror : TreeMirror

/-- `get_next_note_id`. -/
def IndexerService.getNextNoteId (service : IndexerService) : U32 :=
  service.mirror.nextNoteId

/-! ### What the mirror stands for -/

/-- The mirror has the tree of the notes, and the leaf of every note that was deposited. -/
structure Mirrors (mirror : TreeMirror) (l : Ledger) : Prop where
  caches : mirror.tree.Caches (leaves l)
  originals : ∀ n, (l.notes n).status ≠ .uninitialized →
    mirror.originalLeaves n = some (leaf n (l.notes n))

namespace Mirrors

variable {mirror : TreeMirror} {l l' : Ledger}

theorem initial :
  Mirrors .new .initial
  := by
  constructor
  · rw [leaves_initial]
    apply MerkleTree.Caches.new
  · intro n hn
    cases hn rfl

/-- The status of one note changes, and with it its leaf. -/
theorem setLeaf {n : U32} {status : NoteStatus} {x : U256} (h : Mirrors mirror l)
    (hnotes : l'.notes = Function.update l.notes n { l.notes n with status })
    (hstatus : (l.notes n).status ≠ .uninitialized) (hx : noteLeafAt l' n = x) :
  Mirrors (mirror.setLeaf n x) l'
  := by
  have hother : ∀ m ≠ n, l'.notes m = l.notes m := by
    intro m hm
    rw [hnotes, Function.update_of_ne hm]
  constructor
  · rw [leaves_update hother hx]
    apply h.caches.setLeaf
  · intro m hm
    by_cases hmn : m = n
    · subst hmn
      rw [hnotes, Function.update_self]
      apply h.originals m hstatus
    · rw [hother m hmn] at hm ⊢
      apply h.originals m hm

/-- A note that was not active is closed. -/
theorem close {n : U32} (h : Mirrors mirror l)
    (hnotes : l'.notes = Function.update l.notes n { l.notes n with status := .closed })
    (hstatus : (l.notes n).status = .pendingWithdrawal) :
  Mirrors mirror l'
  := by
  have hother : ∀ m ≠ n, l'.notes m = l.notes m := by
    intro m hm
    rw [hnotes, Function.update_of_ne hm]
  have hself : l'.notes n = { l.notes n with status := .closed } := by
    rw [hnotes, Function.update_self]
  constructor
  · have hsame : ∀ m, noteLeafAt l' m = noteLeafAt l m := by
      intro m
      by_cases hm : m = n
      · rw [hm, noteLeafAt_of_status (l := l) (by simp [hstatus]),
          noteLeafAt_of_status (by simp [hself])]
      · rw [noteLeafAt, noteLeafAt, hother m hm]
    rw [leaves_congr hsame]
    apply h.caches
  · intro m hm
    by_cases hmn : m = n
    · subst hmn
      rw [hself]
      apply h.originals m (by simp [hstatus])
    · rw [hother m hmn] at hm ⊢
      apply h.originals m hm

/-- The mirror follows every call. -/
theorem effect {call : Call} (h : Mirrors mirror w.ledger) (heffect : Effect v env w call r) :
  Mirrors ((actionEvents (.call env call r)).foldl TreeMirror.processEvent mirror)
    r.world.ledger
  := by
  cases heffect with
  | @deposit commitment amount siblings expiryTs newRoot _ _ _ _ _ _ _ _ hledger _ =>
    have hother : ∀ m ≠ w.ledger.nextNoteId, (w.ledger.deposited commitment amount expiryTs
        newRoot).notes m = w.ledger.notes m := fun m hm => Function.update_of_ne hm _ _
    have hself : noteLeafAt (w.ledger.deposited commitment amount expiryTs newRoot)
        w.ledger.nextNoteId
        = Core.noteLeaf w.ledger.nextNoteId commitment amount expiryTs := by
      rw [noteLeafAt_active (by simp), noteLeaf_eq, Ledger.deposited_notes, Function.update_self,
        leaf]
    rw [hledger]
    constructor
    · rw [leaves_update hother hself]
      apply h.caches.setLeaf
    · intro n hn
      by_cases hnew : n = w.ledger.nextNoteId
      · subst hnew
        rw [Ledger.deposited_notes, Function.update_self, leaf, ← noteLeaf_eq]
        apply Function.update_self
      · rw [hother n hnew] at hn ⊢
        rw [← h.originals n hn]
        apply Function.update_of_ne hnew
  | mutualClose hauth hledger _ _ =>
    rw [hledger]
    apply h.setLeaf rfl (by simp [hauth.active])
    apply noteLeafAt_of_status (by simp)
  | initiateEscapeWithdrawal hauth _ =>
    apply h.setLeaf rfl (by simp [hauth.active])
    apply noteLeafAt_of_status (by simp)
  | @challengeEscapeWithdrawal noteId inputs proof siblings restoredRoot hstatus =>
    have horiginal := h.originals noteId (by simp [hstatus])
    have hmirror : mirror.processEvent (.escapeWithdrawalChallenged noteId
          (w.ledger.pendingWithdrawals noteId).withdrawalNullifier restoredRoot)
        = mirror.setLeaf noteId (leaf noteId (w.ledger.notes noteId)) := by
      rw [TreeMirror.processEvent, horiginal]
    simp only [actionEvents, toVaultEvent, List.filterMap_cons, List.filterMap_nil,
      List.foldl_cons, List.foldl_nil, hmirror]
    apply h.setLeaf rfl (by simp [hstatus])
    rw [noteLeafAt_active (by simp)]
    simp [leaf]
  | finalizeEscapeWithdrawal hstatus _ _ _ hledger _ _ =>
    rw [hledger]
    apply h.close rfl hstatus
  | claimExpired hactive _ _ hledger _ _ =>
    rw [hledger]
    apply h.setLeaf rfl (by simp [hactive])
    apply noteLeafAt_of_status (by simp)
  | @administer call _ _ =>
    cases call <;> apply h

/-- The mirror follows every step. -/
theorem step {a : Action} (h : Mirrors mirror w.ledger) (hstep : Step v w a w') :
  Mirrors ((actionEvents a).foldl TreeMirror.processEvent mirror) w'.ledger
  := by
  cases hstep with
  | call _ _ hexecute => apply h.effect (execute_effect hexecute)
  | donation => apply h

end Mirrors

/-- In every reachable state the mirror that has consumed all events has the tree. -/
theorem mirrors_of_reachable (h : Reachable v actions w) :
  Mirrors (.ofEvents (vaultEvents actions)) w.ledger
  := by
  obtain ⟨address, timestamp, held, args, w₀, hconstruct, hrun⟩ := h
  have hinitial : w₀.ledger = .initial := (construct_ok hconstruct).2
  apply hrun.invariant_history (P := fun as t => Mirrors (.ofEvents (vaultEvents as)) t.ledger)
  · rw [hinitial]
    apply Mirrors.initial
  · intro ks t a u _ ht hstep
    rw [vaultEvents, List.flatMap_append, List.flatMap_singleton, TreeMirror.ofEvents_append]
    apply ht.step hstep

/-! ### Prefixes of the events -/

/-- A prefix of the results for a list is those for a prefix of it, when nothing has more
than one result. -/
theorem exists_of_prefix {α β : Type} {f : α → List β} :
  ∀ {as : List α} {es : List β}, (∀ a ∈ as, (f a).length ≤ 1) → es <+: as.flatMap f →
    ∃ bs cs, as = bs ++ cs ∧ bs.flatMap f = es
  | [], es, _, hes => by
      use [], [], rfl
      apply (List.prefix_nil.mp hes).symm
  | a :: as, es, hf, hes => by
      rw [List.forall_mem_cons] at hf
      rw [List.flatMap_cons] at hes
      match hfa : f a with
      | [] =>
        rw [hfa, List.nil_append] at hes
        obtain ⟨bs, cs, rfl, rfl⟩ := exists_of_prefix hf.2 hes
        use a :: bs, cs, rfl
        rw [List.flatMap_cons, hfa, List.nil_append]
      | [b] =>
        rw [hfa, List.singleton_append, List.prefix_cons_iff] at hes
        obtain rfl | ⟨es, rfl, hes⟩ := hes
        · use [], a :: as, rfl
          rfl
        · obtain ⟨bs, cs, rfl, rfl⟩ := exists_of_prefix hf.2 hes
          use a :: bs, cs, rfl
          rw [List.flatMap_cons, hfa, List.singleton_append]
      | _ :: _ :: bs =>
        rw [hfa, List.length_cons, List.length_cons] at hf
        omega

/-- A call has at most one event. -/
theorem length_actionEvents {a : Action} (h : Step v w a w') :
  (actionEvents a).length ≤ 1
  := by
  cases h with
  | call _ _ hexecute =>
    cases execute_effect hexecute with
    | @administer call _ _ => cases call <;> apply Nat.zero_le
    | _ => simp [actionEvents, toVaultEvent]
  | donation => apply Nat.zero_le

/-- Every prefix of the events of a run is the events of the run up to some state. -/
theorem exists_reachable_of_prefix {es : List VaultEvent} (h : Reachable v actions w)
    (hes : es <+: vaultEvents actions) :
  ∃ as bs u, actions = as ++ bs ∧ vaultEvents as = es ∧ Reachable v as u
    ∧ Run (Step v) u bs w
  := by
  obtain ⟨address, timestamp, held, args, w₀, hconstruct, hrun⟩ := h
  have hlength : ∀ a ∈ actions, (actionEvents a).length ≤ 1 := by
    apply hrun.invariant_history (P := fun as _ => ∀ a ∈ as, (actionEvents a).length ≤ 1)
    · intro a ha
      cases ha
    · intro ks t a u _ ht hstep b hb
      rw [List.mem_append, List.mem_singleton] at hb
      obtain hb | rfl := hb
      · apply ht b hb
      · apply length_actionEvents hstep
  obtain ⟨as, bs, rfl, rfl⟩ := exists_of_prefix hlength hes
  obtain ⟨u, hu, hrun⟩ := hrun.split
  exact ⟨as, bs, u, rfl, rfl, ⟨address, timestamp, held, args, w₀, hconstruct, hu⟩, hrun⟩

/-! ### The mirror refines the vault -/

/-- The mirror agrees with the vault: its root is the stored root, the vault accepts its
paths for every note, and in particular those of the updates that a call makes. -/
structure Agrees (v : Deployment) (mirror : TreeMirror) (l : Ledger) : Prop where
  root_eq : mirror.root = l.currentRoot
  path : ∀ n newLeaf, ∃ newRoot,
    verifyAndUpdate l.currentRoot n (mirror.getLeaf n) newLeaf (mirror.getPath n) = .ok newRoot
  zeroPath : ∀ n newLeaf, ∃ newRoot,
    verifyAndUpdate l.currentRoot n (mirror.getLeaf n) newLeaf (mirror.getZeroPath n)
      = .ok newRoot
  update : ∀ env (c : Call) u, c.update v env l = some u → u.oldLeaf = mirror.getLeaf u.index

theorem Mirrors.getLeaf_eq {mirror : TreeMirror} {l : Ledger} (h : Mirrors mirror l) (n : U32) :
  mirror.getLeaf n = noteLeafAt l n
  := by
  rw [TreeMirror.getLeaf, h.caches.getLeaf_eq, leaves_toNat]

theorem Mirrors.root_eq {mirror : TreeMirror} {l : Ledger} (h : Mirrors mirror l) :
  mirror.root = treeRoot l
  := by
  rw [TreeMirror.root, h.caches.root_eq, merkleNode_eq]
  rfl

theorem Mirrors.getPath_eq {mirror : TreeMirror} {l : Ledger} (h : Mirrors mirror l) (n : U32) :
  mirror.getPath n = siblingPath l n
  := by
  apply List.ofFn_injective
  rw [TreeMirror.getPath, h.caches.ofFn_getSiblings, ofFn_siblingPath, merkleNode_eq]
  rfl

theorem Mirrors.agrees {mirror : TreeMirror} {l : Ledger} (h : Mirrors mirror l)
    (hroot : l.currentRoot = treeRoot l) (hfresh : l.notes l.nextNoteId = .empty) :
  Agrees v mirror l
  := by
  have hpath : ∀ n newLeaf, ∃ newRoot,
      verifyAndUpdate l.currentRoot n (mirror.getLeaf n) newLeaf (mirror.getPath n)
        = .ok newRoot := by
    intro n newLeaf
    rw [h.getLeaf_eq, h.getPath_eq, hroot]
    exact ⟨_, verifyAndUpdate_siblingPath l n newLeaf⟩
  constructor
  case root_eq => rw [h.root_eq, hroot]
  case path => apply hpath
  case zeroPath => apply hpath
  case update =>
    intro env c u hu
    rw [h.getLeaf_eq, Call.update_oldLeaf hfresh hu]

/-- After any prefix of the events of a run, the leaf that the mirror has for a note is that
of the note when it is active and zero otherwise, and as long as no two of the pairs that
the vault has hashed collide, the mirror agrees with the vault. -/
theorem mirror_refines {es : List VaultEvent} (h : Reachable v actions w)
    (hes : es <+: vaultEvents actions) :
  (∃ as bs u, actions = as ++ bs ∧ vaultEvents as = es ∧ Reachable v as u)
    ∧ ∀ as bs u, actions = as ++ bs → vaultEvents as = es → Reachable v as u →
      (∀ n, (TreeMirror.ofEvents es).getLeaf n
        = if (u.ledger.notes n).status = .active then leaf n (u.ledger.notes n) else 0)
      ∧ (CollisionFree { p | p ∈ hashedPairs v as } → Agrees v (.ofEvents es) u.ledger)
  := by
  obtain ⟨as, bs, u, hactions, hevents, hu, -⟩ := exists_reachable_of_prefix h hes
  constructor
  · use as, bs, u
  · rintro as bs u - rfl hu
    have hmirrors := mirrors_of_reachable hu
    constructor
    · apply hmirrors.getLeaf_eq
    · intro hcollision
      apply hmirrors.agrees (hu.rooted hcollision fun _ hp => hp).root_eq
        hu.conserved.fresh_next

/-! ### The next note -/

/-- The mirror gives the slot that the vault uses next: the leaf there is zero, and a deposit
with the path of the mirror goes there and is accepted by the tree. -/
structure NextSlot (v : Deployment) (service : IndexerService) (l : Ledger) : Prop where
  nextNoteId_eq : service.getNextNoteId = l.nextNoteId
  leaf_eq : service.mirror.getLeaf service.getNextNoteId = 0
  deposit : ∀ env commitment amount u,
    (Call.deposit commitment amount (service.mirror.getZeroPath service.getNextNoteId)).update v
      env l = some u →
    u.index = service.getNextNoteId ∧ ∃ newRoot,
      verifyAndUpdate l.currentRoot u.index u.oldLeaf u.newLeaf u.siblings = .ok newRoot

/-- A deposit. -/
def VaultEvent.isDeposit : VaultEvent → Bool
  | .noteDeposited _ _ _ _ _ => true
  | _ => false

/-- No event advances the next note id of the mirror. -/
theorem nextNoteId_processEvent (mirror : TreeMirror) (e : VaultEvent) :
  (mirror.processEvent e).nextNoteId = mirror.nextNoteId
  := by
  cases e with
  | escapeWithdrawalChallenged noteId _ _ =>
    rw [TreeMirror.processEvent]
    split
    · apply MerkleTree.nextIndex_setLeaf
    · rfl
  | escapeWithdrawalFinalized => rfl
  | _ => apply MerkleTree.nextIndex_setLeaf

theorem nextNoteId_ofEvents (es : List VaultEvent) :
  (TreeMirror.ofEvents es).nextNoteId = 0
  := by
  induction es using List.reverseRecOn with
  | nil => rfl
  | append_singleton es e ih =>
    rw [TreeMirror.ofEvents_append, List.foldl_cons, List.foldl_nil, nextNoteId_processEvent, ih]

/-- Without deposits nothing happens to the notes. -/
theorem ledger_eq_initial (h : Reachable v actions w)
    (hnone : ∀ e ∈ vaultEvents actions, e.isDeposit = false) :
  w.ledger = .initial
  := by
  obtain ⟨address, timestamp, held, args, w₀, hconstruct, hrun⟩ := h
  have hinitial : w₀.ledger = .initial := (construct_ok hconstruct).2
  revert hnone
  apply hrun.invariant_history
    (P := fun as t => (∀ e ∈ vaultEvents as, e.isDeposit = false) → t.ledger = .initial)
  · intro _
    apply hinitial
  · intro ks t a u _ ht hstep hnone
    rw [vaultEvents, List.flatMap_append, List.flatMap_singleton, List.forall_mem_append] at hnone
    have hledger := ht hnone.1
    -- a call other than a deposit needs a note that there is none
    have huninitialized : ∀ n, (t.ledger.notes n).status = .uninitialized := by
      intro n
      rw [hledger]
      rfl
    cases hstep with
    | call _ _ hexecute =>
      cases execute_effect hexecute with
      | deposit =>
        cases hnone.2 _ List.mem_cons_self
      | mutualClose hauth =>
        have hactive := hauth.active
        rw [huninitialized] at hactive
        cases hactive
      | initiateEscapeWithdrawal hauth =>
        have hactive := hauth.active
        rw [huninitialized] at hactive
        cases hactive
      | challengeEscapeWithdrawal hstatus =>
        rw [huninitialized] at hstatus
        cases hstatus
      | finalizeEscapeWithdrawal hstatus =>
        rw [huninitialized] at hstatus
        cases hstatus
      | claimExpired hstatus =>
        rw [huninitialized] at hstatus
        cases hstatus
      | administer => apply hledger
    | donation => apply hledger

/-- A note id that was given out is not given out again. -/
theorem nextNoteId_pos (h : Reachable v actions w)
    (hsome : ∃ e ∈ vaultEvents actions, e.isDeposit = true) :
  0 < w.ledger.nextNoteId.toNat
  := by
  obtain ⟨address, timestamp, held, args, w₀, hconstruct, hrun⟩ := h
  revert hsome
  apply hrun.invariant_history
    (P := fun as t => (∃ e ∈ vaultEvents as, e.isDeposit = true) → 0 < t.ledger.nextNoteId.toNat)
  · rintro ⟨e, he, -⟩
    cases he
  · rintro ks t a u _ ht hstep ⟨e, he, hdeposit⟩
    rw [vaultEvents, List.flatMap_append, List.flatMap_singleton, List.mem_append] at he
    obtain he | he := he
    · apply (hstep.record (n := 0) (ht ⟨e, he, hdeposit⟩)).1
    · cases hstep with
      | call _ _ hexecute =>
        cases execute_effect hexecute with
        | deposit _ _ _ _ hnext _ _ hledger _ =>
          have hone : (1 : U32).toNat = 1 := rfl
          simp only [hledger, Ledger.deposited_nextNoteId, BitVec.toNat_add, hone]
          rw [Nat.mod_eq_of_lt hnext]
          apply Nat.succ_pos
        | @administer call _ _ => cases call <;> cases he
        | _ =>
          obtain rfl := List.mem_singleton.mp he
          cases hdeposit
      | donation => cases he

/-- Before the first deposit the slot is right. -/
theorem nextSlot_initial {mirror : TreeMirror} (h : Mirrors mirror .initial)
    (hnext : mirror.nextNoteId = 0) :
  NextSlot v { mirror } .initial
  := by
  have hroot : Ledger.initial.currentRoot = treeRoot .initial :=
    (Rooted.initial (D := Set.univ) fun _ _ => trivial).root_eq
  have hagrees : Agrees v mirror .initial := h.agrees hroot rfl
  have hget : IndexerService.getNextNoteId { mirror } = 0 := hnext
  constructor
  case nextNoteId_eq => apply hget
  case leaf_eq =>
    rw [hget]
    apply (h.getLeaf_eq 0).trans
    apply noteLeafAt_of_status
    intro hactive
    cases hactive
  case deposit =>
    intro env commitment amount u hu
    have hindex : u.index = 0
        ∧ u.siblings = mirror.getZeroPath (IndexerService.getNextNoteId { mirror }) := by
      obtain ⟨expiryTs, -, rfl⟩ := Option.map_eq_some_iff.mp hu
      exact ⟨rfl, rfl⟩
    constructor
    · rw [hget, hindex.1]
    · rw [hagrees.update env _ u hu, hindex.1, hindex.2, hget]
      apply hagrees.zeroPath

/-- After any prefix of the events of a run, the service gives the slot that the vault uses
next if and only if no note was deposited. -/
theorem next_note_id_iff {es : List VaultEvent} (h : Reachable v actions w)
    (hes : es <+: vaultEvents actions) :
  (∃ as bs u, actions = as ++ bs ∧ vaultEvents as = es ∧ Reachable v as u)
    ∧ ∀ as bs u, actions = as ++ bs → vaultEvents as = es → Reachable v as u →
      (NextSlot v { mirror := .ofEvents es } u.ledger ↔ ∀ e ∈ es, e.isDeposit = false)
  := by
  obtain ⟨as, bs, u, hactions, hevents, hu, -⟩ := exists_reachable_of_prefix h hes
  constructor
  · use as, bs, u
  · rintro as bs u - rfl hu
    constructor
    · intro hslot e he
      have hzero : u.ledger.nextNoteId = 0 := by
        rw [← hslot.nextNoteId_eq]
        apply nextNoteId_ofEvents
      rw [Bool.eq_false_iff]
      intro hdeposit
      have hpos := nextNoteId_pos hu ⟨e, he, hdeposit⟩
      rw [hzero] at hpos
      cases hpos
    · intro hnone
      have hmirrors := mirrors_of_reachable hu
      rw [ledger_eq_initial hu hnone] at hmirrors ⊢
      apply nextSlot_initial hmirrors (nextNoteId_ofEvents _)

/-- The slot of a vault without notes. -/
theorem next_note_id_initial :
  NextSlot tokenVault { mirror := .ofEvents (vaultEvents []) } tokenWorld.ledger
  := by
  have hslot := (next_note_id_iff tokenWorld_reachable (List.prefix_refl _)).2 [] [] _ rfl rfl
    tokenWorld_reachable
  apply hslot.mpr
  intro e he
  cases he

/-! ### One deposit -/

open OwnershipExample (deposit deposited reachable)

theorem collisionFree_deposit :
  CollisionFree { p | p ∈ hashedPairs OwnershipExample.vault [deposit] }
  := by
  apply OwnershipExample.noCollision.nodes.mono
  intro p hp
  apply List.mem_append_left _ hp

/-- The mirror of a vault with one note. -/
theorem mirror_refines_deposit :
  Agrees OwnershipExample.vault (.ofEvents (vaultEvents [deposit])) deposited.ledger
  := by
  have hrefines := (mirror_refines reachable (List.prefix_refl _)).2 _ [] _
    (List.append_nil _).symm rfl reachable
  apply hrefines.2 collisionFree_deposit

/-- After one deposit the vault uses slot one next, and the mirror gives slot zero. -/
theorem next_note_id_deposit :
  ¬ NextSlot OwnershipExample.vault { mirror := .ofEvents (vaultEvents [deposit]) }
      deposited.ledger
    ∧ Reachable OwnershipExample.vault [deposit] deposited
  := by
  have hne : deposited.ledger.nextNoteId ≠ 0 := by decide
  constructor
  · intro hslot
    apply hne
    rw [← hslot.nextNoteId_eq]
    apply nextNoteId_ofEvents
  · apply reachable

end ZkApi.Indexer
