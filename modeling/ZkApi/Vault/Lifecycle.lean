import ZkApi.Vault.Challenge

/-!
# The life of a note

Seen from outside, a note is deposited, escapes and is challenged any number of times, and
is closed once.  `Life` is this automaton, whose letters are the events of the vault; it
knows nothing of the contract.  In every reachable state the events of a note are a word
that the automaton reads, and the state it ends in is the record that the vault has of the
note and tells what was paid for it (`lifecycle`).  Whoever follows the events of a vault
knows its notes.
-/

namespace ZkApi.Vault

variable {v : Deployment} {env : Env} {w w' : World} {r : Receipt} {actions : List Action}

/-! ### The automaton -/

/-- What the deposit of a note fixes. -/
structure Terms where
  commitment : U256
  amount : U128
  expiryTs : U64
  deriving DecidableEq

/-- A withdrawal that can be challenged. -/
structure Escape where
  nullifier : U256
  finalBalance : U128
  destination : Address
  deadline : U64
  deriving DecidableEq

/-- How a note was closed: withdrawn to a destination, or claimed after its expiry. -/
inductive Ending where
  | withdrawn (finalBalance : U128) (destination : Address)
  | expired
  deriving DecidableEq

/-- The life of a note. -/
inductive Life where
  | absent
  | active (terms : Terms)
  | pending (terms : Terms) (escape : Escape)
  | closed (terms : Terms) (ending : Ending)
  deriving DecidableEq

/-- The note that an event is about. -/
def Event.noteId : Event → Option U32
  | .noteDeposited noteId _ _ _ _ => some noteId
  | .mutualClose noteId _ _ _ => some noteId
  | .escapeWithdrawalInitiated noteId _ _ _ _ _ => some noteId
  | .escapeWithdrawalChallenged noteId _ _ => some noteId
  | .escapeWithdrawalFinalized noteId _ _ _ => some noteId
  | .expiredClaimed noteId _ _ => some noteId
  | .treasurySet _ => none

/-- The next event in the life of a note. -/
def Life.next : Life → Event → Option Life
  | .absent, .noteDeposited _ commitment amount expiryTs _ =>
      some (.active { commitment, amount, expiryTs })
  | .active terms, .mutualClose _ _ finalBalance destination =>
      if finalBalance.toNat ≤ terms.amount.toNat then
        some (.closed terms (.withdrawn finalBalance destination))
      else none
  | .active terms, .escapeWithdrawalInitiated _ nullifier finalBalance destination deadline _ =>
      if finalBalance.toNat ≤ terms.amount.toNat then
        some (.pending terms { nullifier, finalBalance, destination, deadline })
      else none
  | .active terms, .expiredClaimed _ amount _ =>
      if amount = terms.amount then some (.closed terms .expired) else none
  | .pending terms escape, .escapeWithdrawalChallenged _ nullifier _ =>
      if nullifier = escape.nullifier then some (.active terms) else none
  | .pending terms escape, .escapeWithdrawalFinalized _ nullifier finalBalance destination =>
      if nullifier = escape.nullifier ∧ finalBalance = escape.finalBalance
          ∧ destination = escape.destination then
        some (.closed terms (.withdrawn finalBalance destination))
      else none
  | _, _ => none

/-- The record of a note with the given terms. -/
def Terms.note (terms : Terms) (status : NoteStatus) : Note where
  commitment := terms.commitment
  depositAmount := terms.amount
  expiryTs := terms.expiryTs
  status

/-- The record of an escape, which also keeps the root that it was made for. -/
def Escape.record (escape : Escape) (activeRoot : U256) : PendingWithdrawalData where
  present := true
  activeRoot
  withdrawalNullifier := escape.nullifier
  finalBalance := escape.finalBalance
  destination := escape.destination
  challengeDeadline := escape.deadline

/-- A transfer of an amount that is not zero. -/
def nonzeroTransfer (destination : Address) (amount : U128) : List Transfer :=
  if amount = 0 then [] else [{ destination, amount }]

/-- What is paid at the end of a note: the final balance to the destination and the rest of
the deposit to the treasury. -/
def Ending.transfers (amount : U128) (treasury : Address) : Ending → List Transfer
  | .withdrawn finalBalance destination =>
      nonzeroTransfer destination finalBalance
        ++ nonzeroTransfer treasury (amount - finalBalance)
  | .expired => [{ destination := treasury, amount }]

/-- The vault has a note on record as its life says. -/
def Life.Recorded (l : Ledger) (n : U32) : Life → Prop
  | .absent => l.notes n = .empty ∧ l.pendingWithdrawals n = .empty
  | .active terms => l.notes n = terms.note .active ∧ l.pendingWithdrawals n = .empty
  | .pending terms escape => l.notes n = terms.note .pendingWithdrawal
      ∧ ∃ activeRoot, l.pendingWithdrawals n = escape.record activeRoot
  | .closed terms _ => l.notes n = terms.note .closed ∧ l.pendingWithdrawals n = .empty

/-- What was paid for a note is what its life says: nothing while it is open, and at its end
what its ending says, with some treasury. -/
def Life.Paid (sent : List Transfer) : Life → Prop
  | .closed terms ending =>
      ∃ treasury, treasury ≠ 0 ∧ sent = ending.transfers terms.amount treasury
  | _ => sent = []

/-! ### The events and the transfers of a note -/

/-- The events of a note that an action emits. -/
def Action.eventsOf (n : U32) : Action → List Event
  | .call _ _ receipt => receipt.events.filter fun e => e.noteId = some n
  | .donation _ => []

/-- What an action pays for a note. -/
def Action.sentFor (n : U32) : Action → List Transfer
  | .call _ c receipt => if c.noteId = some n then receipt.sent else []
  | .donation _ => []

/-- The events of a note, in their order. -/
def eventsOf (n : U32) (actions : List Action) : List Event :=
  actions.flatMap (Action.eventsOf n)

/-- The transfers that are made for a note, in their order. -/
def sentFor (n : U32) (actions : List Action) : List Transfer :=
  actions.flatMap (Action.sentFor n)

@[simp]
theorem eventsOf_append (n : U32) (as bs : List Action) :
  eventsOf n (as ++ bs) = eventsOf n as ++ eventsOf n bs
  := List.flatMap_append

@[simp]
theorem sentFor_append (n : U32) (as bs : List Action) :
  sentFor n (as ++ bs) = sentFor n as ++ sentFor n bs
  := List.flatMap_append

@[simp]
theorem eventsOf_single (n : U32) (a : Action) :
  eventsOf n [a] = a.eventsOf n
  := List.flatMap_singleton _ _

@[simp]
theorem sentFor_single (n : U32) (a : Action) :
  sentFor n [a] = a.sentFor n
  := List.flatMap_singleton _ _

/-! ### What a call pays -/

/-- The treasury is never the zero address. -/
def Admin.Appointed (a : Admin) : Prop :=
  a.treasury ≠ 0

theorem administer_appointed {sender : Address} {a a' : Admin} {call : AdminCall}
    (h : administer sender a call = .ok a') (ha : a.Appointed) :
  a'.Appointed
  := by
  cases call with
  | setTreasury newTreasury =>
    simp only [administer, bind_eq_ok, revertIf_eq_ok, exists_const, pure_eq_ok] at h
    obtain ⟨_, _, hzero, rfl⟩ := h
    exact hzero
  | pause | unpause =>
    simp only [administer, bind_eq_ok, pure_eq_ok] at h
    obtain ⟨_, _, rfl⟩ := h
    exact ha

theorem runNested_appointed {nested : List (Address × AdminCall)} {a : Admin}
    (ha : a.Appointed) :
  (runNested a nested).Appointed
  := by
  induction nested generalizing a with
  | nil => exact ha
  | cons call nested ih =>
    rw [runNested, List.foldl_cons]
    apply ih
    cases h : administer call.1 a call.2 with
    | error e => exact ha
    | ok a' => exact administer_appointed h ha

theorem transferNonzero_exact {destination : Address} {amount : U128} {reply : Reply}
    {sent : List Transfer} (h : transferNonzero v w destination amount reply = .ok (w', sent)) :
  sent = nonzeroTransfer destination amount ∧ (w.admin.Appointed → w'.admin.Appointed)
  := by
  unfold transferNonzero at h
  split at h
  · next hzero =>
    simp only [bind_eq_ok, pure_eq_ok, Prod.mk.injEq] at h
    obtain ⟨_, h, rfl, rfl⟩ := h
    obtain ⟨_, _, _, rfl⟩ := transfer_eq_ok.mp h
    constructor
    · rw [nonzeroTransfer, if_neg hzero]
    · exact runNested_appointed
  · next hzero =>
    simp only [Except.ok.injEq, Prod.mk.injEq] at h
    obtain ⟨rfl, rfl⟩ := h
    constructor
    · rw [nonzeroTransfer, if_pos (not_not.mp hzero)]
    · exact id

/-- A payment sends the balance to the destination and the share to a treasury. -/
theorem pay_exact {destination : Address} {balance operatorShare : U128}
    {sent : List Transfer} (h : pay v env w destination balance operatorShare = .ok (w', sent))
    (hadmin : w.admin.Appointed) :
  (∃ treasury, treasury ≠ 0
      ∧ sent = nonzeroTransfer destination balance ++ nonzeroTransfer treasury operatorShare)
    ∧ w'.admin.Appointed
  := by
  simp only [pay, bind_eq_ok, pure_eq_ok, Prod.exists, Prod.mk.injEq] at h
  obtain ⟨u, s, hu, w'', t, hw, rfl, rfl⟩ := h
  obtain ⟨rfl, hu'⟩ := transferNonzero_exact hu
  obtain ⟨rfl, hw'⟩ := transferNonzero_exact hw
  constructor
  · use u.admin.treasury, hu' hadmin
  · exact hw' (hu' hadmin)

/-- How a call closes the note that it names, in the state before it. -/
def Call.ending (w : World) : Call → Option Ending
  | .mutualClose inputs _ _ => some (.withdrawn inputs.finalBalance inputs.destination)
  | .finalizeEscapeWithdrawal n =>
      some (.withdrawn (w.ledger.pendingWithdrawals n).finalBalance
        (w.ledger.pendingWithdrawals n).destination)
  | .claimExpired _ _ => some .expired
  | _ => none

/-- What a call pays: nothing, unless it closes a note, and then what the ending says. -/
def Call.Pays (w : World) (sent : List Transfer) (call : Call) : Prop :=
  match call.ending w, call.noteId with
  | some ending, some n =>
      ∃ treasury, treasury ≠ 0
        ∧ sent = ending.transfers (w.ledger.notes n).depositAmount treasury
  | _, _ => sent = []

/-- Every call that does not revert pays what it has to, and leaves a treasury. -/
theorem execute_pays {call : Call} (h : execute v env w call = .ok r)
    (hadmin : w.admin.Appointed) :
  call.Pays w r.sent ∧ r.world.admin.Appointed
  := by
  cases call with
  | deposit commitment amount siblings =>
    simp only [execute, deposit, bind_eq_ok] at h
    obtain ⟨_, _, _, _, _, _, _, _, _, _, _, _, _, _, _, _, h⟩ := h
    split at h
    · simp only [bind_eq_ok, pure_eq_ok, exists_eq_left'] at h
      subst h
      exact ⟨rfl, hadmin⟩
    · simp only [transferFrom, bind_eq_ok, pure_eq_ok] at h
      obtain ⟨_, ⟨_, _, rfl⟩, rfl⟩ := h
      exact ⟨rfl, runNested_appointed hadmin⟩
  | mutualClose inputs proof siblings =>
    simp only [execute, mutualClose, closeActive, bind_eq_ok, pure_eq_ok, Prod.exists] at h
    obtain ⟨_, _, _, _, w', sent, ⟨_, _, _, _, _, _, _, _, share, hshare, hpay⟩, rfl⟩ := h
    obtain ⟨_, rfl⟩ := checkedSub_eq_ok.mp hshare
    apply pay_exact hpay hadmin
  | initiateEscapeWithdrawal inputs proof siblings =>
    simp only [execute, initiateEscapeWithdrawal, bind_eq_ok, pure_eq_ok] at h
    obtain ⟨_, _, _, _, _, _, _, _, _, _, _, _, _, _, rfl⟩ := h
    exact ⟨rfl, hadmin⟩
  | challengeEscapeWithdrawal n inputs proof siblings =>
    simp only [execute, challengeEscapeWithdrawal, bind_eq_ok, pure_eq_ok] at h
    obtain ⟨_, _, _, _, _, _, _, _, _, _, _, _, _, _, rfl⟩ := h
    exact ⟨rfl, hadmin⟩
  | finalizeEscapeWithdrawal n =>
    simp only [execute, finalizeEscapeWithdrawal, bind_eq_ok, pure_eq_ok, Prod.exists] at h
    obtain ⟨_, _, _, _, _, _, share, hshare, w', sent, hpay, rfl⟩ := h
    obtain ⟨_, rfl⟩ := checkedSub_eq_ok.mp hshare
    apply pay_exact hpay hadmin
  | claimExpired n siblings =>
    simp only [execute, claimExpired, bind_eq_ok, pure_eq_ok] at h
    obtain ⟨_, _, _, _, _, _, _, _, w', htransfer, rfl⟩ := h
    obtain ⟨_, _, _, rfl⟩ := transfer_eq_ok.mp htransfer
    constructor
    · use w.admin.treasury, hadmin
      rfl
    · exact runNested_appointed hadmin
  | administer call =>
    simp only [execute, bind_eq_ok, pure_eq_ok] at h
    obtain ⟨_, _, admin, h, rfl⟩ := h
    exact ⟨rfl, administer_appointed h hadmin⟩

/-! ### What the record says of the life -/

section

variable {l l' : Ledger} {n : U32} {life : Life}

theorem Life.Recorded.of_empty (h : life.Recorded l n) (hempty : l.notes n = .empty) :
  life = .absent
  := by
  cases life with
  | absent => rfl
  | active terms | pending terms escape | closed terms ending =>
    have hstatus := congrArg Note.status (h.1.symm.trans hempty)
    cases hstatus

theorem Life.Recorded.of_active (h : life.Recorded l n)
    (hactive : (l.notes n).status = .active) :
  ∃ terms, life = .active terms ∧ l.notes n = terms.note .active
  := by
  cases life with
  | active terms => exact ⟨terms, rfl, h.1⟩
  | absent | pending terms escape | closed terms ending =>
    rw [h.1] at hactive
    cases hactive

theorem Life.Recorded.of_pending (h : life.Recorded l n)
    (hpending : (l.notes n).status = .pendingWithdrawal) :
  ∃ terms escape activeRoot, life = .pending terms escape
    ∧ l.notes n = terms.note .pendingWithdrawal
    ∧ l.pendingWithdrawals n = escape.record activeRoot
  := by
  cases life with
  | pending terms escape =>
    obtain ⟨hnote, activeRoot, hrecord⟩ := h
    exact ⟨terms, escape, activeRoot, rfl, hnote, hrecord⟩
  | absent | active terms | closed terms ending =>
    rw [h.1] at hpending
    cases hpending

theorem Life.Recorded.congr (h : life.Recorded l n) (hnote : l'.notes n = l.notes n)
    (hpending : l'.pendingWithdrawals n = l.pendingWithdrawals n) :
  life.Recorded l' n
  := by
  unfold Life.Recorded at h ⊢
  rw [hnote, hpending]
  exact h

end

/-! ### The life along a run -/

/-- What follows from a history of the life of a note. -/
structure Follows (n : U32) (actions : List Action) (l : Ledger) (life : Life) : Prop where
  replay : (eventsOf n actions).foldlM Life.next .absent = some life
  recorded : life.Recorded l n
  paid : life.Paid (sentFor n actions)

section

variable {l l' : Ledger} {n : U32} {life : Life} {a : Action}

/-- An action that has nothing to do with a note. -/
theorem Follows.other (h : Follows n actions l life) (hevents : a.eventsOf n = [])
    (hsent : a.sentFor n = []) (hnote : l'.notes n = l.notes n)
    (hpending : l'.pendingWithdrawals n = l.pendingWithdrawals n) :
  Follows n (actions ++ [a]) l' life
  where
  replay := by rw [eventsOf_append, eventsOf_single, hevents, List.append_nil, h.replay]
  recorded := h.recorded.congr hnote hpending
  paid := by
    rw [sentFor_append, sentFor_single, hsent, List.append_nil]
    exact h.paid

/-- The next event in the life of a note. -/
theorem Follows.event {life' : Life} {e : Event} {sent : List Transfer}
    (h : Follows n actions l life) (hopen : sentFor n actions = [])
    (hevents : a.eventsOf n = [e]) (hsent : a.sentFor n = sent)
    (hnext : life.next e = some life') (hrecorded : life'.Recorded l' n)
    (hpaid : life'.Paid sent) :
  Follows n (actions ++ [a]) l' life'
  where
  replay := by
    rw [eventsOf_append, eventsOf_single, hevents, List.foldlM_append, h.replay]
    simp [hnext]
  recorded := hrecorded
  paid := by
    rw [sentFor_append, sentFor_single, hopen, hsent, List.nil_append]
    exact hpaid

end

theorem eventsOf_call_other {call : Call} {n : U32}
    (h : ∀ e ∈ r.events, e.noteId ≠ some n) :
  (Action.call env call r).eventsOf n = []
  := by
  rw [Action.eventsOf, List.filter_eq_nil_iff]
  intro e he
  rw [decide_eq_true_eq]
  exact h e he

theorem eventsOf_call_self {call : Call} {n : U32} {e : Event} (hevents : r.events = [e])
    (he : e.noteId = some n) :
  (Action.call env call r).eventsOf n = [e]
  := by
  rw [Action.eventsOf, hevents]
  simp [he]

theorem sentFor_call_other {call : Call} {n : U32} (h : call.noteId ≠ some n) :
  (Action.call env call r).sentFor n = []
  := if_neg h

theorem sentFor_call_self {call : Call} {n : U32} (h : call.noteId = some n) :
  (Action.call env call r).sentFor n = r.sent
  := if_pos h

/-- A call that emits no event of a note changes nothing of its record. -/
theorem Effect.other {call : Call} {n : U32} (h : Effect v env w call r)
    (hn : ∀ e ∈ r.events, e.noteId ≠ some n) :
  call.noteId ≠ some n
    ∧ r.world.ledger.notes n = w.ledger.notes n
    ∧ r.world.ledger.pendingWithdrawals n = w.ledger.pendingWithdrawals n
  := by
  cases h with
  | deposit _ _ _ _ _ _ _ hledger _ =>
    have hne : n ≠ w.ledger.nextNoteId := fun h => hn _ (List.mem_singleton_self _) (h ▸ rfl)
    rw [hledger, Ledger.deposited_notes, Function.update_of_ne hne]
    exact ⟨nofun, rfl, rfl⟩
  | @mutualClose inputs _ _ _ _ _ _ hledger _ _ =>
    have hne : n ≠ inputs.noteId := fun h => hn _ (List.mem_singleton_self _) (h ▸ rfl)
    rw [hledger, Ledger.moved_notes, Function.update_of_ne hne]
    exact ⟨fun h => hne (Option.some.inj h).symm, rfl, rfl⟩
  | @initiateEscapeWithdrawal inputs =>
    have hne : n ≠ inputs.noteId := fun h => hn _ (List.mem_singleton_self _) (h ▸ rfl)
    rw [Ledger.setPending_notes, Ledger.moved_notes, Function.update_of_ne hne,
      Ledger.setPending_pendingWithdrawals, Function.update_of_ne hne]
    exact ⟨fun h => hne (Option.some.inj h).symm, rfl, rfl⟩
  | @challengeEscapeWithdrawal noteId =>
    have hne : n ≠ noteId := fun h => hn _ (List.mem_singleton_self _) (h ▸ rfl)
    rw [Ledger.setPending_notes, Ledger.moved_notes, Function.update_of_ne hne,
      Ledger.setPending_pendingWithdrawals, Function.update_of_ne hne]
    exact ⟨fun h => hne (Option.some.inj h).symm, rfl, rfl⟩
  | @finalizeEscapeWithdrawal noteId _ _ _ _ _ _ hledger _ _ =>
    have hne : n ≠ noteId := fun h => hn _ (List.mem_singleton_self _) (h ▸ rfl)
    rw [hledger, Ledger.setPending_notes, Ledger.setStatus_notes, Function.update_of_ne hne,
      Ledger.setPending_pendingWithdrawals, Function.update_of_ne hne]
    exact ⟨fun h => hne (Option.some.inj h).symm, rfl, rfl⟩
  | @claimExpired noteId _ _ _ _ _ _ _ hledger _ _ =>
    have hne : n ≠ noteId := fun h => hn _ (List.mem_singleton_self _) (h ▸ rfl)
    rw [hledger, Ledger.moved_notes, Function.update_of_ne hne]
    exact ⟨fun h => hne (Option.some.inj h).symm, rfl, rfl⟩
  | administer _ => exact ⟨nofun, rfl, rfl⟩

/-- A call that emits an event of a note is the next event in its life. -/
theorem Effect.follows {call : Call} {n : U32} {e : Event} {life : Life}
    (h : Effect v env w call r) (hpays : call.Pays w r.sent)
    (hfresh : w.ledger.notes w.ledger.nextNoteId = .empty) (he : e ∈ r.events)
    (hn : e.noteId = some n) (hlife : Follows n actions w.ledger life) :
  ∃ life', Follows n (actions ++ [.call env call r]) r.world.ledger life'
  := by
  cases h with
  | @deposit commitment amount _ expiryTs _ _ _ _ _ _ _ _ _ hledger _ =>
    obtain rfl := List.mem_singleton.mp he
    obtain rfl := Option.some.inj hn
    obtain rfl := hlife.recorded.of_empty hfresh
    use .active { commitment, amount, expiryTs }
    apply hlife.event hlife.paid (eventsOf_call_self rfl rfl)
    · apply sentFor_call_other
      nofun
    · rfl
    · rw [hledger]
      exact ⟨Function.update_self _ _ _, hlife.recorded.2⟩
    · rfl
  | @mutualClose inputs _ _ _ _ _ hauth hledger _ _ =>
    obtain rfl := List.mem_singleton.mp he
    obtain rfl := Option.some.inj hn
    obtain ⟨terms, rfl, hnote⟩ := hlife.recorded.of_active hauth.active
    use .closed terms (.withdrawn inputs.finalBalance inputs.destination)
    have hbalance := hauth.balance_le
    rw [hnote] at hbalance
    apply hlife.event hlife.paid (eventsOf_call_self rfl rfl) (sentFor_call_self rfl)
    · exact if_pos hbalance
    · rw [hledger]
      constructor
      · rw [Ledger.moved_notes, Function.update_self, Ledger.consumed_notes, hnote]
        rfl
      · exact hlife.recorded.2
    · obtain ⟨treasury, hne, hsent⟩ := hpays
      rw [hnote] at hsent
      exact ⟨treasury, hne, hsent⟩
  | @initiateEscapeWithdrawal inputs _ _ _ deadline hauth _ =>
    obtain rfl := List.mem_singleton.mp he
    obtain rfl := Option.some.inj hn
    obtain ⟨terms, rfl, hnote⟩ := hlife.recorded.of_active hauth.active
    use .pending terms
      { nullifier := inputs.withdrawalNullifier
        finalBalance := inputs.finalBalance
        destination := inputs.destination
        deadline }
    have hbalance := hauth.balance_le
    rw [hnote] at hbalance
    apply hlife.event hlife.paid (eventsOf_call_self rfl rfl) (sentFor_call_self rfl)
    · exact if_pos hbalance
    · constructor
      · rw [Ledger.setPending_notes, Ledger.moved_notes, Function.update_self,
          Ledger.consumed_notes, hnote]
        rfl
      · use w.ledger.currentRoot
        exact Function.update_self _ _ _
    · rfl
  | @challengeEscapeWithdrawal noteId _ _ _ _ hstatus =>
    obtain rfl := List.mem_singleton.mp he
    obtain rfl := Option.some.inj hn
    obtain ⟨terms, escape, activeRoot, rfl, hnote, hrecord⟩ := hlife.recorded.of_pending hstatus
    use .active terms
    apply hlife.event hlife.paid (eventsOf_call_self rfl rfl) (sentFor_call_self rfl)
    · rw [hrecord]
      exact if_pos rfl
    · constructor
      · rw [Ledger.setPending_notes, Ledger.moved_notes, Function.update_self, hnote]
        rfl
      · exact Function.update_self _ _ _
    · rfl
  | @finalizeEscapeWithdrawal noteId _ _ hstatus _ _ _ hledger _ _ =>
    obtain rfl := List.mem_singleton.mp he
    obtain rfl := Option.some.inj hn
    obtain ⟨terms, escape, activeRoot, rfl, hnote, hrecord⟩ := hlife.recorded.of_pending hstatus
    use .closed terms (.withdrawn escape.finalBalance escape.destination)
    apply hlife.event hlife.paid (eventsOf_call_self rfl rfl) (sentFor_call_self rfl)
    · rw [hrecord]
      exact if_pos ⟨rfl, rfl, rfl⟩
    · rw [hledger]
      constructor
      · rw [Ledger.setPending_notes, Ledger.setStatus_notes, Function.update_self, hnote]
        rfl
      · exact Function.update_self _ _ _
    · obtain ⟨treasury, hne, hsent⟩ := hpays
      rw [hnote, hrecord] at hsent
      exact ⟨treasury, hne, hsent⟩
  | @claimExpired noteId _ _ _ _ hactive _ _ hledger _ _ =>
    obtain rfl := List.mem_singleton.mp he
    obtain rfl := Option.some.inj hn
    obtain ⟨terms, rfl, hnote⟩ := hlife.recorded.of_active hactive
    use .closed terms .expired
    apply hlife.event hlife.paid (eventsOf_call_self rfl rfl) (sentFor_call_self rfl)
    · rw [hnote]
      exact if_pos rfl
    · rw [hledger]
      constructor
      · rw [Ledger.moved_notes, Function.update_self, hnote]
        rfl
      · exact hlife.recorded.2
    · obtain ⟨treasury, hne, hsent⟩ := hpays
      rw [hnote] at hsent
      exact ⟨treasury, hne, hsent⟩
  | @administer call _ _ =>
    cases call with
    | setTreasury newTreasury =>
      obtain rfl := List.mem_singleton.mp he
      cases hn
    | pause | unpause => cases he

theorem Step.follows {a : Action} {n : U32} {life : Life} (h : Step v w a w')
    (hadmin : w.admin.Appointed) (hfresh : w.ledger.notes w.ledger.nextNoteId = .empty)
    (hlife : Follows n actions w.ledger life) :
  ∃ life', Follows n (actions ++ [a]) w'.ledger life'
  := by
  cases h with
  | @call env call receipt _ _ hexecute =>
    have heffect := execute_effect hexecute
    by_cases hn : ∀ e ∈ receipt.events, e.noteId ≠ some n
    · obtain ⟨hcall, hnote, hpending⟩ := heffect.other hn
      use life
      exact hlife.other (eventsOf_call_other hn) (sentFor_call_other hcall) hnote hpending
    · push Not at hn
      obtain ⟨e, he, hn⟩ := hn
      exact heffect.follows (execute_pays hexecute hadmin).1 hfresh he hn hlife
  | donation =>
    use life
    exact hlife.other rfl rfl rfl rfl

theorem Step.appointed {a : Action} (h : Step v w a w') (hadmin : w.admin.Appointed) :
  w'.admin.Appointed
  := by
  cases h with
  | call _ _ hexecute => exact (execute_pays hexecute hadmin).2
  | donation => exact hadmin

theorem construct_appointed {address : Address} {timestamp : U256} {held : ℕ}
    {args : ConstructorArgs} (h : construct address timestamp held args = .ok (v, w)) :
  w.admin.Appointed
  := by
  simp only [construct, bind_eq_ok, revertIf_eq_ok, exists_const, pure_eq_ok,
    Prod.mk.injEq] at h
  obtain ⟨_, htreasury, _, _, _, _, _, _, _, _, _, _, _, rfl⟩ := h
  intro hzero
  exact htreasury (.inl hzero)

/-- In a reachable state there is a treasury. -/
theorem Reachable.appointed (h : Reachable v actions w) :
  w.admin.Appointed
  := by
  obtain ⟨_, _, _, _, w₀, hconstruct, hrun⟩ := h
  apply hrun.invariant (construct_appointed hconstruct)
  intro t a u ht hstep
  exact hstep.appointed ht

theorem Follows.initial {n : U32} (h : w.ledger = .initial) :
  Follows n [] w.ledger .absent
  := by
  constructor
  · rfl
  · rw [h]
    exact ⟨rfl, rfl⟩
  · rfl

theorem Reachable.follows (h : Reachable v actions w) (n : U32) :
  ∃ life, Follows n actions w.ledger life
  := by
  obtain ⟨address, timestamp, held, args, w₀, hconstruct, hrun⟩ := h
  apply hrun.invariant_history (P := fun as t => ∃ life, Follows n as t.ledger life)
  · exact ⟨.absent, .initial (construct_ok hconstruct).2⟩
  · intro ks t a u hrun' ⟨life, hlife⟩ hstep
    have hreach : Reachable v ks t := ⟨address, timestamp, held, args, w₀, hconstruct, hrun'⟩
    exact hstep.follows hreach.appointed hreach.conserved.fresh_next hlife

/-! ### The end of a life -/

/-- Nothing follows the end of a life. -/
theorem Life.foldlM_closed {terms : Terms} {ending : Ending} {events : List Event}
    {life : Life} (h : events.foldlM Life.next (.closed terms ending) = some life) :
  events = [] ∧ life = .closed terms ending
  := by
  cases events with
  | nil => exact ⟨rfl, (Option.some.inj h).symm⟩
  | cons e events =>
    rw [List.foldlM_cons] at h
    cases e <;> cases h

/-- The life of a note after a continuation of a run starts where it was. -/
theorem Follows.split {n : U32} {as bs : List Action} {l l' : Ledger} {life life' : Life}
    (h : Follows n as l life) (h' : Follows n (as ++ bs) l' life') :
  (eventsOf n bs).foldlM Life.next life = some life'
  := by
  have hreplay := h'.replay
  rw [eventsOf_append, List.foldlM_append, h.replay] at hreplay
  exact hreplay

theorem Life.Recorded.of_closed {l : Ledger} {n : U32} {life : Life} (h : life.Recorded l n)
    (hclosed : (l.notes n).status = .closed) :
  ∃ terms ending, life = .closed terms ending
  := by
  cases life with
  | closed terms ending => exact ⟨terms, ending, rfl⟩
  | absent | active terms | pending terms escape =>
    rw [h.1] at hclosed
    cases hclosed

theorem length_nonzeroTransfer (s t : Address) (amount : U128) :
  (nonzeroTransfer s amount).length = (nonzeroTransfer t amount).length
  := by
  unfold nonzeroTransfer
  split <;> rfl

/-- How many transfers are made at the end of a life does not depend on the treasury. -/
theorem Ending.length_transfers (ending : Ending) (amount : U128) (s t : Address) :
  (ending.transfers amount s).length = (ending.transfers amount t).length
  := by
  cases ending with
  | withdrawn finalBalance destination =>
    rw [transfers, transfers, List.length_append, List.length_append,
      length_nonzeroTransfer s t]
  | expired => rfl

theorem Reachable.nothing_after_close {n : U32} {as : List Action} (h : Reachable v actions w)
    (hrun : Run (Step v) w as w') (hclosed : (w.ledger.notes n).status = .closed) :
  eventsOf n as = [] ∧ sentFor n as = []
  := by
  obtain ⟨life, hlife⟩ := h.follows n
  obtain ⟨terms, ending, rfl⟩ := hlife.recorded.of_closed hclosed
  obtain ⟨life', hlife'⟩ := (h.append hrun).follows n
  obtain ⟨hevents, rfl⟩ := Life.foldlM_closed (hlife.split hlife')
  obtain ⟨s, _, hsent⟩ := hlife.paid
  obtain ⟨t, _, hsent'⟩ := hlife'.paid
  constructor
  · exact hevents
  · rw [sentFor_append, hsent] at hsent'
    have hlength := congrArg List.length hsent'
    rw [List.length_append, ending.length_transfers _ s t, add_eq_left] at hlength
    exact List.length_eq_zero_iff.mp hlength

/-- The transfers of an action. -/
def Action.sent : Action → List Transfer
  | .call _ _ receipt => receipt.sent
  | .donation _ => []

/-- Every transfer of a call is made for the note that the call names. -/
theorem Step.sent_for {a : Action} (h : Step v w a w') (hadmin : w.admin.Appointed)
    {t : Transfer} (ht : t ∈ a.sent) :
  ∃ n, t ∈ a.sentFor n
  := by
  cases h with
  | @call env call receipt _ _ hexecute =>
    have hpays := (execute_pays hexecute hadmin).1
    cases hcall : call.noteId with
    | some n =>
      use n
      rw [sentFor_call_self hcall]
      exact ht
    | none =>
      have hnone : receipt.sent = [] := by
        rw [Call.Pays, hcall] at hpays
        split at hpays
        · contradiction
        · exact hpays
      rw [Action.sent, hnone] at ht
      cases ht
  | donation => cases ht

/-- In every reachable state the events of a note are read by the automaton, which ends in
the record that the vault has of the note and in what was paid for it.  Every transfer is
made for some note, and after its end a note has no events and nothing is paid for it. -/
theorem lifecycle (h : Reachable v actions w) :
  (∀ n, ∃ life, Follows n actions w.ledger life)
    ∧ (∀ a ∈ actions, ∀ t ∈ a.sent, ∃ n, t ∈ a.sentFor n)
    ∧ ∀ n as w', Run (Step v) w as w' → (w.ledger.notes n).status = .closed →
      eventsOf n as = [] ∧ sentFor n as = []
  := by
  constructor
  · exact h.follows
  constructor
  · intro a ha t ht
    obtain ⟨address, timestamp, held, args, w₀, hconstruct, hrun⟩ := h
    obtain ⟨as, bs, u, u', _, hu, hstep, _⟩ := hrun.exists_step ha
    have hreach : Reachable v as u := ⟨address, timestamp, held, args, w₀, hconstruct, hu⟩
    exact hstep.sent_for hreach.appointed ht
  · intro n as w' hrun hclosed
    exact h.nothing_after_close hrun hclosed

/-- A note that was deposited and has escaped. -/
theorem lifecycle_pending :
  ∃ life, Follows 0 [ChallengeExample.deposit, ChallengeExample.escape]
      ChallengeExample.pendingLedger life
    ∧ life = .pending
      { commitment := OwnershipExample.commitment, amount := 10, expiryTs := 1700092800 }
      { nullifier := OwnershipExample.inputs.withdrawalNullifier
        finalBalance := 10
        destination := 11
        deadline := 1700086400 }
  := by
  obtain ⟨hlife, -⟩ := lifecycle ChallengeExample.reachable
  obtain ⟨life, hlife⟩ := hlife 0
  use life, hlife
  exact (Option.some.inj hlife.replay).symm

end ZkApi.Vault
