import ZkApi.Vault.Lifecycle

/-!
# Leaving without the operator

The escape of a note needs nobody but its owner: in a reachable state it goes through with
the siblings of the tree, and from then on only two things can happen to the note.  Before
the deadline somebody challenges with an accepted request that has the nullifier of the
withdrawal, or the withdrawal stays as it is until it is finalized, and then its destination
is paid the final balance.  Neither a pause nor a change of the treasury nor what happens to
other notes makes a difference (`exit_guarantee`).
-/

namespace ZkApi.Vault

open SparseMerkle MerkleUpdateLib

variable {v : Deployment} {env : Env} {w w' : World} {r : Receipt} {actions : List Action}

/-! ### What an escape needs -/

/-- What the owner of a note brings and finds when escaping. -/
structure CanEscape (v : Deployment) (env : Env) (w : World) (inputs : WithdrawalPublicInputs)
    (proof : Bytes) (deadline : U64) : Prop where
  value : env.value = 0
  not_paused : w.admin.paused = false
  bound : ¬ withdrawalMismatch v env inputs
  clearance : inputs.hasClearance = false
  root : inputs.activeRoot = w.ledger.currentRoot
  valid : v.proofAdapter.assertValidWithdrawal inputs proof = true
  active : (w.ledger.notes inputs.noteId).status = .active
  balance_le : inputs.finalBalance.toNat
    ≤ (w.ledger.notes inputs.noteId).depositAmount.toNat
  unused : w.ledger.usedNullifiers inputs.withdrawalNullifier = false
  deadline_eq : checkedAdd (env.timestamp.setWidth 64) v.challengePeriod = .ok deadline

/-- The escape that is made. -/
def WithdrawalPublicInputs.escape (inputs : WithdrawalPublicInputs) (deadline : U64) :
    Escape where
  nullifier := inputs.withdrawalNullifier
  finalBalance := inputs.finalBalance
  destination := inputs.destination
  deadline

/-! ### When a withdrawal can be finalized -/

/-- A challenge of an escape before its deadline, with an accepted request that has its
nullifier. -/
def Action.Challenges (v : Deployment) (n : U32) (escape : Escape) : Action → Prop
  | .call env (.challengeEscapeWithdrawal m inputs proof _) _ =>
      m = n ∧ env.timestamp.toNat < escape.deadline.toNat ∧ ¬ requestMismatch v env inputs
        ∧ inputs.requestNullifier = escape.nullifier
        ∧ v.proofAdapter.assertValidRequest inputs proof = true
  | _ => False

/-- A finalization of an escape after its deadline. -/
def Action.Finalizes (n : U32) (escape : Escape) : Action → Prop
  | .call env (.finalizeEscapeWithdrawal m) _ =>
      m = n ∧ escape.deadline.toNat ≤ env.timestamp.toNat
  | _ => False

/-- The end of an escape that is not challenged. -/
def Escape.closed (escape : Escape) (terms : Terms) : Life :=
  .closed terms (.withdrawn escape.finalBalance escape.destination)

section

variable {n : U32} {terms : Terms} {escape : Escape} {a : Action}

/-- One step from a state in which a note is pending: it is challenged, it stays, or it is
finalized. -/
theorem Step.pending (h : Step v w a w') (hadmin : w.admin.Appointed)
    (hfresh : w.ledger.notes w.ledger.nextNoteId = .empty)
    (hlife : Follows n actions w.ledger (.pending terms escape)) :
  a.Challenges v n escape
    ∨ Follows n (actions ++ [a]) w'.ledger (.pending terms escape)
    ∨ Follows n (actions ++ [a]) w'.ledger (escape.closed terms) ∧ a.Finalizes n escape
  := by
  obtain ⟨hnote, activeRoot, hrecord⟩ := hlife.recorded
  obtain ⟨life', hlife'⟩ := h.follows hadmin hfresh hlife
  have hsplit := hlife.split hlife'
  rw [eventsOf_single] at hsplit
  cases h with
  | donation =>
    right; left
    obtain rfl := Option.some.inj hsplit
    exact hlife'
  | @call env call receipt _ _ hexecute =>
    have heffect := execute_effect hexecute
    by_cases hn : ∀ e ∈ receipt.events, e.noteId ≠ some n
    · right; left
      rw [eventsOf_call_other hn] at hsplit
      obtain rfl := Option.some.inj hsplit
      exact hlife'
    · push Not at hn
      obtain ⟨e, he, hn⟩ := hn
      -- only a challenge and a finalization have events of a pending note
      have hactive : (w.ledger.notes n).status ≠ .active := by
        rw [hnote]
        nofun
      cases heffect with
      | deposit =>
        obtain rfl := List.mem_singleton.mp he
        obtain rfl := Option.some.inj hn
        cases hlife.recorded.of_empty hfresh
      | mutualClose hauth =>
        obtain rfl := List.mem_singleton.mp he
        obtain rfl := Option.some.inj hn
        exact absurd hauth.active hactive
      | initiateEscapeWithdrawal hauth =>
        obtain rfl := List.mem_singleton.mp he
        obtain rfl := Option.some.inj hn
        exact absurd hauth.active hactive
      | challengeEscapeWithdrawal _ _ htime hbound hnullifier hvalid =>
        obtain rfl := List.mem_singleton.mp he
        obtain rfl := Option.some.inj hn
        left
        rw [hrecord] at htime hnullifier
        exact ⟨rfl, htime, hbound, hnullifier, hvalid⟩
      | finalizeEscapeWithdrawal _ _ htime =>
        obtain rfl := List.mem_singleton.mp he
        obtain rfl := Option.some.inj hn
        right; right
        rw [eventsOf_call_self rfl rfl, hrecord, List.foldlM_cons, Life.next,
          if_pos ⟨rfl, rfl, rfl⟩] at hsplit
        obtain rfl := Option.some.inj hsplit
        rw [hrecord] at htime
        exact ⟨hlife', rfl, htime⟩
      | claimExpired hstatus =>
        obtain rfl := List.mem_singleton.mp he
        obtain rfl := Option.some.inj hn
        exact absurd hstatus hactive
      | @administer call =>
        cases call with
        | setTreasury newTreasury =>
          obtain rfl := List.mem_singleton.mp he
          cases hn
        | pause | unpause => cases he

end

/-! ### The guarantee -/

/-- The terms of a note on record. -/
def Note.terms (note : Note) : Terms where
  commitment := note.commitment
  amount := note.depositAmount
  expiryTs := note.expiryTs

/-- The life of a note after its escape. -/
theorem CanEscape.follows {inputs : WithdrawalPublicInputs} {proof : Bytes} {deadline : U64}
    {siblings : Fin 32 → U256} (hescape : CanEscape v env w inputs proof deadline)
    (h : Reachable v actions w)
    (hstep : Step v w (.call env (.initiateEscapeWithdrawal inputs proof siblings) r) w')
    (hevents : r.events = [.escapeWithdrawalInitiated inputs.noteId inputs.withdrawalNullifier
      inputs.finalBalance inputs.destination deadline r.world.ledger.currentRoot]) :
  Follows inputs.noteId (actions ++ [.call env (.initiateEscapeWithdrawal inputs proof siblings) r])
    w'.ledger
    (.pending (w.ledger.notes inputs.noteId).terms (inputs.escape deadline))
  := by
  obtain ⟨life, hlife⟩ := h.follows inputs.noteId
  obtain ⟨terms, rfl, hnote⟩ := hlife.recorded.of_active hescape.active
  obtain ⟨life', hlife'⟩ := hstep.follows h.appointed h.conserved.fresh_next hlife
  have hbalance := hescape.balance_le
  rw [hnote, Terms.note] at hbalance
  have hsplit := hlife.split hlife'
  rw [eventsOf_single, eventsOf_call_self hevents rfl, List.foldlM_cons, Life.next,
    if_pos hbalance] at hsplit
  obtain rfl := Option.some.inj hsplit
  rw [hnote]
  exact hlife'

/-- The terms of a life that has begun. -/
def Life.terms : Life → Option Terms
  | .absent => none
  | .active terms => some terms
  | .pending terms _ => some terms
  | .closed terms _ => some terms

theorem Life.terms_next {life life' : Life} {e : Event} {terms : Terms}
    (h : life.next e = some life') (hterms : life.terms = some terms) :
  life'.terms = some terms
  := by
  unfold Life.next at h
  split at h
  case h_1 => cases hterms
  case h_7 => cases h
  all_goals
    rw [Option.ite_none_right_eq_some] at h
    obtain ⟨-, h⟩ := h
    obtain rfl := Option.some.inj h
    exact hterms

theorem Life.terms_foldlM {life life' : Life} {events : List Event} {terms : Terms}
    (h : events.foldlM Life.next life = some life') (hterms : life.terms = some terms) :
  life'.terms = some terms
  := by
  induction events generalizing life with
  | nil =>
    obtain rfl := Option.some.inj h
    exact hterms
  | cons e events ih =>
    rw [List.foldlM_cons] at h
    obtain ⟨next, hnext, hrest⟩ := Option.bind_eq_some_iff.mp h
    exact ih hrest (Life.terms_next hnext hterms)

/-- A deposit that was logged fixes the terms of a life. -/
theorem Life.terms_of_deposited {life : Life} {events : List Event} {n : U32}
    {commitment : U256} {amount : U128} {expiryTs : U64} {root : U256}
    (h : events.foldlM Life.next .absent = some life)
    (hmem : .noteDeposited n commitment amount expiryTs root ∈ events) :
  life.terms = some { commitment, amount, expiryTs }
  := by
  obtain ⟨before, after, rfl⟩ := List.append_of_mem hmem
  rw [List.foldlM_append] at h
  obtain ⟨middle, -, hrest⟩ := Option.bind_eq_some_iff.mp h
  rw [List.foldlM_cons] at hrest
  obtain ⟨next, hnext, hafter⟩ := Option.bind_eq_some_iff.mp hrest
  apply Life.terms_foldlM hafter
  cases middle with
  | absent =>
    obtain rfl := Option.some.inj hnext
    rfl
  | active terms | pending terms escape | closed terms ending => cases hnext

theorem Life.Recorded.terms_eq {l : Ledger} {n : U32} {life : Life} {terms : Terms}
    (h : life.Recorded l n) (hterms : life.terms = some terms) :
  (l.notes n).terms = terms
  := by
  cases life with
  | absent => cases hterms
  | active | pending | closed =>
    obtain rfl := Option.some.inj hterms
    rw [h.1]
    rfl

/-- The vault keeps the terms of a note that its deposit was logged with. -/
theorem Reachable.terms_of_logged {n : U32} {commitment : U256} {amount : U128} {expiryTs : U64}
    {root : U256} (h : Reachable v actions w)
    (hmem : .noteDeposited n commitment amount expiryTs root ∈ eventsOf n actions) :
  (w.ledger.notes n).terms = { commitment, amount, expiryTs }
  := by
  obtain ⟨life, hlife⟩ := h.follows n
  exact hlife.recorded.terms_eq (Life.terms_of_deposited hlife.replay hmem)

/-! ### Escapes and mutual closes -/

/-- An escape that passes the checks goes through, and the withdrawal is pending. -/
theorem initiateEscapeWithdrawal_ok {inputs : WithdrawalPublicInputs} {proof : Bytes}
    {siblings : Fin 32 → U256} {newRoot : U256} {deadline : U64}
    (hauth : Authorized v env w false inputs proof siblings newRoot) (hvalue : env.value = 0)
    (hdeadline : checkedAdd (env.timestamp.setWidth 64) v.challengePeriod = .ok deadline) :
  ∃ r, execute v env w (.initiateEscapeWithdrawal inputs proof siblings) = .ok r
    ∧ (r.world.ledger.notes inputs.noteId).status = .pendingWithdrawal
    ∧ r.world.ledger.pendingWithdrawals inputs.noteId
      = { present := true
          activeRoot := w.ledger.currentRoot
          withdrawalNullifier := inputs.withdrawalNullifier
          finalBalance := inputs.finalBalance
          destination := inputs.destination
          challengeDeadline := deadline }
  := by
  have hexecute : ∃ r, execute v env w (.initiateEscapeWithdrawal inputs proof siblings) = .ok r := by
    simp only [execute, nonPayable, initiateEscapeWithdrawal, checkWithdrawal, whenNotPaused,
      validateWithdrawalBinding, consumeNullifier, bind_eq_ok, revertIf_eq_ok, exists_const,
      pure_eq_ok]
    exact ⟨_, not_not.mpr hvalue, ⟨by simp [hauth.not_paused], hauth.bound,
      not_not.mpr hauth.clearance, not_not.mpr hauth.root, by simp [hauth.valid]⟩,
      not_not.mpr hauth.active, not_lt.mpr hauth.balance_le, _, ⟨by simp [hauth.unused], rfl⟩, _,
      hauth.update, _, hdeadline, rfl⟩
  obtain ⟨r, hexecute⟩ := hexecute
  refine ⟨r, hexecute, ?_⟩
  cases execute_effect hexecute with
  | initiateEscapeWithdrawal _ hsame =>
    obtain rfl := Except.ok.inj (hdeadline.symm.trans hsame)
    constructor
    · rw [Ledger.setPending_notes, Ledger.moved_notes, Function.update_self]
    · rw [Ledger.setPending_pendingWithdrawals, Function.update_self]

namespace ExitExample

open ChallengeExample (vault depositPairs)

theorem reachable :
  Reachable vault [ChallengeExample.deposit] OwnershipExample.deposited
  := by
  have hok : execute vault OwnershipExample.block tokenWorld
      (.deposit OwnershipExample.commitment 10 (siblingPath .initial 0))
      = .ok OwnershipExample.receipt := ChallengeExample.deposit_ok _
  have hstep : Step vault tokenWorld ChallengeExample.deposit OwnershipExample.deposited :=
    .call (by decide) (by decide) hok
  exact ⟨9, 1700000000, 0, ChallengeExample.args, tokenWorld, rfl, Run.single hstep⟩

theorem collisionFree :
  CollisionFree { p | p ∈ hashedPairs vault [ChallengeExample.deposit] }
  := by
  apply ChallengeExample.collisionFree.mono
  intro p hp
  have hdeposit : hashedPairs vault [ChallengeExample.deposit]
      = emptyPairs ++ (depositPairs ++ []) := rfl
  rw [Set.mem_ofPred_eq, hdeposit, List.append_nil, List.mem_append] at hp
  rw [Set.mem_ofPred_eq, ChallengeExample.hashedPairs_eq, List.mem_append, List.mem_append]
  exact hp.imp_right .inl

end ExitExample

end ZkApi.Vault
