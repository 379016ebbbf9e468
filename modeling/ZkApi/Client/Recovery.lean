import ZkApi.Client.Nullifiers

/-!
# Recovery

The state and the journal are two files, written one after the other.  When the settlement of a
request is cut off between them, the next process finds the new state next to the old journal,
and settles the request again from the new state.  That ends well only when the response changes
neither the balance nor the blinding.  In the same way a journal that outlives its note blocks
the requests of the next one.
-/

namespace ZkApi.Client

open ZkApi.Compact FaultIO

/-! ### Restarting -/

/-- What is on disk can be read again. -/
def Disk.Readable (disk : Disk) : Prop :=
  ∀ state, disk.noteState = some state → state.Canonical

/-- A new process, with the same configuration and without faults. -/
def Restarts (s t : Session) : Prop :=
  ∃ state, (new s.disk []).outcome = .ok state ∧ s.load s.config state = t

/-- The calls that settle the request again. -/
def Retries (response : RequestResponseV2) (c : Call) : Prop :=
  c = .completePendingResponse response ∨ c = .recover (.found (some response))

/-- After a restart, a call ends with a state in memory and on disk and without a journal. -/
def Recovers (keccak256 : List UInt8 → List UInt8) (c : Call) (s : Session) (next : NoteState) :
    Prop :=
  ∃ t, Restarts s t
    ∧ (c.program keccak256 t []).state.state = some next
    ∧ (c.program keccak256 t []).state.disk = ⟨some next, none⟩

/-- Wherever the settlement of a request is cut off, settling it again after a restart ends with
the next state and without a journal. -/
def CutsRecover (keccak256 : List UInt8 → List UInt8) (s : Session)
    (response : RequestResponseV2) (next : NoteState) : Prop :=
  ∀ faults, (completePendingResponse keccak256 response s faults).outcome ≠ .ok () →
    ∀ c, Retries response c →
      Recovers keccak256 c (completePendingResponse keccak256 response s faults).state next

/-- A response that changes neither the balance nor the blinding. -/
def Idle (journal : PendingRequestJournal) (response : RequestResponseV2) : Prop :=
  response.chargeApplied = 0
    ∧ scalar journal.userRerandomization + scalar response.blindDeltaSrv = 0

section

variable {keccak256 : List UInt8 → List UInt8} {s t : Session} {state next : NoteState}
  {journal : PendingRequestJournal} {response : RequestResponseV2}

theorem new_of_readable {disk : Disk} {faults : List Fault} (h : Clear 4 faults)
    (hreadable : disk.Readable) :
  (new disk faults).outcome = .ok disk.noteState
  := by
  rw [new, bind_of_ok (access_of_clear h id), bind_of_ok (access_of_clear h.tail id),
    bind_of_ok (probe_of_clear h.tail.tail _)]
  cases hfile : disk.noteState with
  | none =>
    have hnone : disk.noteState.isSome = false := by
      rw [hfile]
      rfl
    rw [id_eq, id_eq, hnone, if_neg Bool.false_ne_true]
    rfl
  | some state =>
    have hsome : disk.noteState.isSome = true := by
      rw [hfile]
      rfl
    have hparse : mapErr .serialization state.reload = .ok state :=
      mapErr_eq_ok.mpr (NoteState.reload_eq_ok.mpr ⟨hreadable state hfile, rfl⟩)
    have hread : okOr disk.noteState .io = .ok state := okOr_eq_ok.mpr hfile
    rw [id_eq, id_eq, hsome, if_pos rfl, bind_of_ok (access_of_clear h.tail.tail.tail id),
      bind_of_ok get_run, id_eq, bind_of_ok (ofExcept_of_ok hread),
      bind_of_ok (ofExcept_of_ok hparse)]
    rfl

theorem restarts_of_readable (h : s.disk.Readable) :
  Restarts s t ↔ s.load s.config s.disk.noteState = t
  := by
  have hnew := new_of_readable (clear_nil 4) h
  constructor
  · rintro ⟨state, hstate, rfl⟩
    rw [hnew] at hstate
    obtain rfl := Outcome.ok.inj hstate
    rfl
  · intro ht
    exact ⟨_, hnew, ht⟩

/-- Both calls settle the request that the journal holds. -/
theorem Retries.state_eq {c : Call} (h : Retries response c) (hholds : t.disk.Holds journal) :
  (c.program keccak256 t []).state = (completePendingResponse keccak256 response t []).state
  := by
  obtain rfl | rfl := h
  · rfl
  · rw [Call.program, state_bind_pure, recover, bind_of_ok (read_of_holds (clear_nil 2) hholds)]
    exact state_bind_pure (completePendingResponse keccak256 response) _

/-- A process that finds a state and a journal recovers with a state exactly when the response
settles the request from the one to the other. -/
theorem recovers_iff_settle {c : Call} (h : Retries response c) (hreadable : t.disk.Readable)
    (hholds : t.disk.Holds journal) (hdisk : t.disk.noteState = some state) :
  Recovers keccak256 c t next
    ↔ settle keccak256 t.config state journal response = .ok (state, next)
  := by
  have hrestart : Recovers keccak256 c t next
      ↔ (completePendingResponse keccak256 response (t.load t.config (some state)) []).state.state
          = some next
        ∧ (completePendingResponse keccak256 response (t.load t.config (some state)) []).state.disk
          = ⟨some next, none⟩ := by
    have hstate := @Retries.state_eq keccak256 (t.load t.config (some state)) journal response c h
      hholds
    simp only [Recovers, restarts_of_readable hreadable, hdisk, exists_eq_left', hstate]
  rw [hrestart]
  have hloaded : (t.load t.config (some state)).disk.Holds journal := hholds
  rcases hsettle : settle keccak256 t.config state journal response with e | ⟨before, after⟩
  · rw [completePendingResponse_of_error (clear_nil 2) hloaded rfl hsettle]
    constructor
    · rintro ⟨_, hkept⟩
      have hnone := congrArg Disk.pendingJournal hkept
      change t.disk.pendingJournal = none at hnone
      rw [hholds.file] at hnone
      cases hnone
    · rintro ⟨⟩
  · obtain ⟨_, _, _, rfl, _⟩ := settle_eq_ok.mp hsettle
    rw [completePendingResponse_of_clear (clear_nil 7) hloaded rfl hsettle]
    constructor
    · rintro ⟨hnext, _⟩
      obtain rfl := Option.some.inj hnext
      rfl
    · intro hnext
      obtain rfl := (Prod.mk.inj (Except.ok.inj hnext)).2
      exact ⟨rfl, rfl⟩

/-! ### Settling a request twice -/

/-- Scalars that cancel leave a blinding as it is. -/
theorem addBlindings_cancel {a b rerandomization blindDelta : Felt252}
    (h : scalar rerandomization + scalar blindDelta = 0) :
  addBlindings (addBlindings (addBlindings a b) rerandomization) blindDelta = addBlindings a b
  := calc
    _ = scalarToFelt (scalar (addBlindings (addBlindings a b) rerandomization)
          + scalar blindDelta) := rfl
    _ = scalarToFelt (scalar a + scalar b) := by
      rw [scalar_addBlindings, scalar_addBlindings, add_assoc, h, add_zero]
    _ = addBlindings a b := rfl

/-- An idle response settles the request again from the state that it has led to. -/
theorem Settles.again {key : CurvePointWire} {blinding : Felt252}
    (h : Settles keccak256 key state journal.clientRequestId journal.nullifier
      journal.userRerandomization response blinding)
    (hidle : Idle journal response) :
  Settles keccak256 key (settled state journal.userRerandomization response blinding)
    journal.clientRequestId journal.nullifier journal.userRerandomization response
    (addBlindings (addBlindings blinding journal.userRerandomization) response.blindDeltaSrv)
  := by
  obtain ⟨hcharge, hscalars⟩ := hidle
  have hstored := h.stored_settled
  have hle : response.chargeApplied
      ≤ (settled state journal.userRerandomization response blinding).currentBalance := by
    rw [hcharge]
    exact BitVec.le_def.mpr (Nat.zero_le _)
  constructor
  case stored => exact hstored
  case clientRequestId => exact h.clientRequestId
  case requestNullifier => exact h.requestNullifier
  case responseHash => exact h.responseHash
  case nextAnchor => exact h.nextAnchor
  case nextCommitment =>
    have hupdate := serverUpdate_rerandomize
      (settled state journal.userRerandomization response blinding).currentBalance
      response.chargeApplied
      (scalar (addBlindings (addBlindings blinding journal.userRerandomization)
        response.blindDeltaSrv))
      (scalar journal.userRerandomization) (scalar response.blindDeltaSrv)
      (residue (stateNoteLeaf (settled state journal.userRerandomization response blinding)))
      (BitVec.le_def.mp hle)
    have hbalance : ∀ balance : U128, balance - 0 = balance := BitVec.sub_zero
    rw [add_assoc, hscalars, add_zero, hcharge, hbalance] at hupdate
    have hcommitment := hstored.commitment
    rw [NoteState.commitment, ← hupdate, ← hcharge] at hcommitment
    exact hcommitment
  case signature => exact h.signature
  case charge => exact hle

/-- The response that has led to a state leads from it to itself exactly when it is idle. -/
theorem settle_again_iff {config : ClientConfig}
    (hsettle : settle keccak256 config state journal response = .ok (state, next)) :
  settle keccak256 config next journal response = .ok (next, next) ↔ Idle journal response
  := by
  obtain ⟨blinding, h, hcap, _, rfl⟩ := settle_eq_ok.mp hsettle
  have hstored := h.stored_settled
  constructor
  · intro hagain
    obtain ⟨blinding', h', _, _, hsame⟩ := settle_eq_ok.mp hagain
    obtain rfl : addBlindings (addBlindings blinding journal.userRerandomization)
        response.blindDeltaSrv = blinding' := by
      have hparsed := h'.stored.parsed
      rw [hstored.parsed] at hparsed
      exact Except.ok.inj hparsed
    constructor
    · have hbalance := congrArg (fun state => state.currentBalance.toNat) hsame
      change (_ - response.chargeApplied : U128).toNat = _ at hbalance
      have hcharge := BitVec.le_def.mp h'.charge
      rw [BitVec.toNat_sub_of_le h'.charge] at hbalance
      apply BitVec.eq_of_toNat_eq
      change response.chargeApplied.toNat = 0
      omega
    · have hparsed := h'.stored_settled.parsed
      rw [hsame, hstored.parsed] at hparsed
      have hscalars := congrArg scalar (Except.ok.inj hparsed)
      have hsum : ∀ b, scalar (addBlindings (addBlindings b journal.userRerandomization)
          response.blindDeltaSrv)
          = scalar b + (scalar journal.userRerandomization + scalar response.blindDeltaSrv) := by
        intro b
        rw [scalar_addBlindings, scalar_addBlindings, add_assoc]
      rw [hsum (addBlindings _ _)] at hscalars
      exact left_eq_add.mp hscalars
  · intro hidle
    have hblinding := @addBlindings_cancel (addBlindings blinding journal.userRerandomization)
      response.blindDeltaSrv journal.userRerandomization response.blindDeltaSrv hidle.2
    have hsame : settled (settled state journal.userRerandomization response blinding)
        journal.userRerandomization response
        (addBlindings (addBlindings blinding journal.userRerandomization) response.blindDeltaSrv)
        = settled state journal.userRerandomization response blinding := by
      have hbalance : ∀ balance : U128, balance - 0 = balance := BitVec.sub_zero
      rw [settled, hblinding, hidle.1, hbalance]
      rfl
    exact settle_eq_ok.mpr ⟨_, h.again hidle, hcap, rfl, hsame⟩

/-- A settlement that is cut off anywhere can be repeated exactly when the response is idle. -/
theorem cutsRecover_iff (hconsistent : s.Consistent) (hholds : s.disk.Holds journal)
    (hstate : s.state = some state) (hcanonical : state.Canonical) (hnext : next.Canonical)
    (hsettle : settle keccak256 s.config state journal response = .ok (state, next)) :
  CutsRecover keccak256 s response next ↔ Idle journal response
  := by
  have hbefore : ∀ c, Retries response c → Recovers keccak256 c s next := by
    intro c hc
    have hdisk := hconsistent state hstate
    have hreadable : s.disk.Readable := by
      intro kept hkept
      obtain rfl := Option.some.inj (hdisk.symm.trans hkept)
      exact hcanonical
    exact (recovers_iff_settle hc hreadable hholds hdisk).mpr hsettle
  have hafter : ∀ event c, Retries response c →
      (Recovers keccak256 c (s.install next event) next ↔ Idle journal response) := by
    intro event c hc
    have hreadable : (s.install next event).disk.Readable := by
      intro kept hkept
      obtain rfl := Option.some.inj hkept
      exact hnext
    have hkept : (s.install next event).disk.Holds journal :=
      ⟨hholds.file, hholds.pending, hholds.canonical⟩
    rw [recovers_iff_settle hc hreadable hkept rfl]
    exact settle_again_iff hsettle
  constructor
  · intro hrecover
    have hcut := @completePendingResponse_of_crash keccak256 s _ journal state state next response
      [] (clear_replicate 5 [.crash]) rfl hholds hstate hsettle
    have hcrash := hrecover (List.replicate 5 .none ++ [.crash])
    rw [hcut] at hcrash
    apply (hafter _ (.completePendingResponse response) (.inl rfl)).mp
    apply hcrash
    · rintro ⟨⟩
    · exact .inl rfl
  · intro hidle
    apply @wp_completePendingResponse keccak256 s response
      fun o t => o ≠ .ok () → ∀ c, Retries response c → Recovers keccak256 c t next
    case herror => exact fun _ _ => hbefore
    case hcrash => exact fun _ => hbefore
    intro journal' state' next' hholds' hstate' hsettle'
    obtain rfl := JournalFile.entry.inj (Option.some.inj (hholds.file.symm.trans hholds'.file))
    obtain rfl := Option.some.inj (hstate.symm.trans hstate')
    obtain rfl := (Prod.mk.inj (Except.ok.inj (hsettle.symm.trans hsettle'))).2
    have hrecover := fun c hc =>
      (hafter (.accepted state response next) c hc).mpr hidle
    refine ⟨?_, fun _ _ => hrecover, fun _ => hrecover⟩
    exact fun _ _ hok => absurd rfl hok

end

/-! ### Archiving -/

/-- Requests are blocked by a pending one. -/
def Session.Blocked (s : Session) : Prop :=
  (hasPendingRequest s []).outcome = .ok true

/-- Wherever archiving crashes, the next note that is confirmed after a restart is not blocked. -/
def ArchiveSafe (s : Session) : Prop :=
  ∀ faults, (archiveNote s faults).outcome = .crash →
    ∀ t, Restarts (archiveNote s faults).state t →
      ∀ secret noteId depositAmount expiry random,
        (confirmDeposit secret noteId depositAmount expiry random t []).outcome = .ok () →
          ¬ (confirmDeposit secret noteId depositAmount expiry random t []).state.Blocked

/-- Archiving starts with a journal on disk, and a crash can leave it without a state. -/
def StrandsJournal (s : Session) : Prop :=
  (∃ journal, s.disk.Holds journal) ∧ (s.state = none → s.disk.noteState = none)

section

variable {s t : Session}

theorem blocked_iff :
  s.Blocked ↔ ∃ journal, s.disk.Holds journal
  := by
  constructor
  · apply @wp_hasPendingRequest s fun o _ => o = .ok true → ∃ journal, s.disk.Holds journal
    case hyes => exact fun journal hholds _ => ⟨journal, hholds⟩
    case hno | hcrash =>
      rintro ⟨⟩
    case herror =>
      rintro _ ⟨⟩
  · rintro ⟨journal, hholds⟩
    rw [Session.Blocked, hasPendingRequest_of_holds (clear_nil 2) hholds]

/-- When a note can be confirmed, its requests are blocked by the journal that was there. -/
theorem confirmDeposit_blocked {secret : Felt252} {noteId : U32} {depositAmount : U128}
    {expiry : U64} {random : EdwardsScalarField}
    (hok : (confirmDeposit secret noteId depositAmount expiry random s []).outcome = .ok ()) :
  s.state = none
    ∧ ((confirmDeposit secret noteId depositAmount expiry random s []).state.Blocked
      ↔ ∃ journal, s.disk.Holds journal)
  := by
  have hconfirmed := @wp_confirmDeposit s secret noteId depositAmount expiry random
    (fun o t => o = .ok () → s.state = none ∧ (t.Blocked ↔ ∃ journal, s.disk.Holds journal))
  apply hconfirmed _ _ _ [] hok
  · intro state hnone _ _
    refine ⟨hnone, ?_⟩
    rw [blocked_iff]
    constructor <;> exact fun ⟨journal, h⟩ => ⟨journal, h.file, h.pending, h.canonical⟩
  · rintro _ ⟨⟩
  · rintro ⟨⟩

/-- A crash can leave the journal and no state. -/
theorem exists_archiveNote_of_strands (hconsistent : s.Consistent) (h : StrandsJournal s) :
  ∃ faults, (archiveNote s faults).outcome = .crash
    ∧ (archiveNote s faults).state.disk.noteState = none
    ∧ (archiveNote s faults).state.disk.pendingJournal = s.disk.pendingJournal
  := by
  obtain ⟨_, hnone⟩ := h
  rcases hstate : s.state with _ | state
  · use [.crash]
    have hskip : (s.state.elim (pure ()) NoteState.archive : Operation Unit) s [.crash]
        = ⟨.ok (), s, [.crash]⟩ := by
      rw [hstate]
      rfl
    have hcut : archiveNote s [.crash] = ⟨.crash, s.forget, []⟩ := by
      rw [archiveNote, bind_of_ok get_run, bind_of_ok hskip, bind_of_ok (modify_run _),
        clearPendingRequest, bind_of_crash (clear_of_crash _)]
      rfl
    rw [hcut]
    exact ⟨rfl, hnone hstate, rfl⟩
  · use List.replicate 6 .none ++ [.crash]
    have hcut := @archiveNote_of_crash s _ state [] (clear_replicate 6 [.crash]) rfl hstate
      (hconsistent state hstate)
    rw [hcut]
    exact ⟨rfl, rfl, rfl⟩

/-- What archiving leaves on disk: each file as it was, or nothing, and the file of the state as it
was when there is no state in memory. -/
theorem archiveNote_left (s : Session) (faults : List Fault) :
  ((archiveNote s faults).state.disk.noteState = s.disk.noteState
      ∨ s.state ≠ none ∧ (archiveNote s faults).state.disk.noteState = none)
    ∧ ((archiveNote s faults).state.disk.pendingJournal = s.disk.pendingJournal
      ∨ (archiveNote s faults).state.disk.pendingJournal = none)
  := by
  apply @wp_archiveNote s fun _ t =>
    (t.disk.noteState = s.disk.noteState ∨ s.state ≠ none ∧ t.disk.noteState = none)
      ∧ (t.disk.pendingJournal = s.disk.pendingJournal ∨ t.disk.pendingJournal = none)
  exact fun _ _ _ hstate hjournal => ⟨hstate, hjournal⟩

/-- Archiving is safe unless it can strand the journal. -/
theorem archiveSafe_iff (hconsistent : s.Consistent) (hreadable : s.disk.Readable) :
  ArchiveSafe s ↔ ¬ StrandsJournal s
  := by
  constructor
  · intro hsafe hstrands
    obtain ⟨faults, hcrash, hnone, hkept⟩ := exists_archiveNote_of_strands hconsistent hstrands
    obtain ⟨⟨journal, hholds⟩, _⟩ := hstrands
    have hempty : (archiveNote s faults).state.disk.Readable := by
      intro state hstate
      rw [hnone] at hstate
      cases hstate
    obtain ⟨t, hrestart, hstate, hjournal⟩ : ∃ t, Restarts (archiveNote s faults).state t
        ∧ t.state = none ∧ t.disk.pendingJournal = s.disk.pendingJournal :=
      ⟨_, (restarts_of_readable hempty).mpr rfl, hnone, hkept⟩
    have hconfirm := @confirmDeposit_of_clear t 0 [] 1 0 0 0 0 _ (clear_nil 3) hstate rfl
    apply hsafe faults hcrash t hrestart 1 0 0 0 0
    · rw [hconfirm]
    · rw [hconfirm, blocked_iff]
      exact ⟨journal, hjournal.trans hholds.file, hholds.pending, hholds.canonical⟩
  · intro hstrands faults hcrash t hrestart secret noteId depositAmount expiry random hok hblocked
    apply hstrands
    obtain ⟨hnone, hiff⟩ := confirmDeposit_blocked hok
    obtain ⟨journal, hholds⟩ := hiff.mp hblocked
    obtain ⟨hstate, hjournal⟩ := archiveNote_left s faults
    have hleft : (archiveNote s faults).state.disk.Readable := by
      intro state hkept
      obtain hsame | ⟨_, hremoved⟩ := hstate
      · exact hreadable state (hsame ▸ hkept)
      · rw [hremoved] at hkept
        cases hkept
    obtain rfl := (restarts_of_readable hleft).mp hrestart
    obtain hsame | hremoved := hjournal
    · constructor
      · refine ⟨journal, ?_, hholds.pending, hholds.canonical⟩
        rw [← hsame]
        exact hholds.file
      · intro hinactive
        obtain hsame | ⟨hactive, _⟩ := hstate
        · rw [← hsame]
          exact hnone
        · exact absurd hinactive hactive
    · have hfile : (archiveNote s faults).state.disk.pendingJournal = some (.entry journal) :=
        hholds.file
      rw [hremoved] at hfile
      cases hfile

end

/-! ### Runs -/

/-- The secrets of the deposits and the responses of a history are those that deserialization
lets through. -/
structure Deserialized (log : List Event) : Prop where
  secret : ∀ state, .confirmed state ∈ log → state.secretS.Canonical
  response : ∀ state response next, .accepted state response next ∈ log → response.Canonical

section

variable {keccak256 : List UInt8 → List UInt8} {Configured : ClientConfig → Prop}
  {Replaceable : Option JournalFile → Prop} {s t : Session} {state : NoteState}

theorem canonical_depositState {secret : Felt252} {config : ClientConfig} (noteId : U32)
    (depositAmount : U128) (expiry : U64) (random : EdwardsScalarField)
    (hconfig : config.contractAddress.Canonical) (hsecret : secret.Canonical) :
  (depositState config secret noteId depositAmount expiry (scalarToFelt random)).Canonical
  := by
  constructor
  case contractAddress => exact hconfig
  case secretS => exact hsecret
  case currentCommitmentX | currentCommitmentY => apply canonical_word
  case currentAnchor =>
    show (1 : Felt252).Canonical
    decide +kernel
  case stateSignature =>
    rintro _ ⟨⟩

/-- The elements of the state that a response leads to are canonical. -/
theorem Settles.canonical_settled {key : CurvePointWire} {requestId : String}
    {nullifier rerandomization blinding : Felt252} {response : RequestResponseV2}
    (h : Settles keccak256 key state requestId nullifier rerandomization response blinding)
    (hstate : state.Canonical) (hresponse : response.Canonical) :
  (settled state rerandomization response blinding).Canonical
  := by
  have hcommitment : response.nextCommitment.x.Canonical
      ∧ response.nextCommitment.y.Canonical := by
    rw [← h.nextCommitment]
    exact ⟨canonical_word _, canonical_word _⟩
  constructor
  case contractAddress => exact hstate.contractAddress
  case secretS => exact hstate.secretS
  case currentCommitmentX => exact hcommitment.1
  case currentCommitmentY => exact hcommitment.2
  case currentAnchor => exact hresponse.nextAnchor
  case stateSignature =>
    rintro _ ⟨⟩
    exact ⟨hresponse.rX, hresponse.rY, hresponse.s⟩

/-- A session that a new process can read. -/
structure Reloads (s : Session) : Prop where
  contractAddress : s.config.contractAddress.Canonical
  readable : s.disk.Readable

/-- Every change leaves a state that can be read. -/
theorem Change.reloads (h : Change keccak256 Replaceable s t) (hconsistent : s.Consistent)
    (hdeserialized : Deserialized t.log) (hs : Reloads s) :
  Reloads t
  := by
  constructor
  case contractAddress =>
    have haddress := hs.contractAddress
    cases h <;> exact haddress
  case readable =>
    intro kept hkept
    cases h with
    | confirmed secret noteId depositAmount expiry random state hnone hstate =>
      obtain rfl := Option.some.inj hkept
      have hsecret := hdeserialized.secret state (List.mem_append_right _ (.head _))
      rw [hstate] at hsecret ⊢
      apply canonical_depositState _ _ _ _ hs.contractAddress hsecret
    | accepted journal state response next file hholds hstate h hfile =>
      obtain rfl := Option.some.inj hkept
      have hresponse := hdeserialized.response state response next
        (List.mem_append_right _ (.head _))
      obtain ⟨_, hsettles, _, _, rfl⟩ := settle_eq_ok.mp h
      apply hsettles.canonical_settled _ hresponse
      exact hs.readable state (hconsistent state hstate)
    | archived state file hstate hfile =>
      obtain rfl | rfl := hfile
      · exact hs.readable kept hkept
      · cases hkept
    | prepared | resent | cleared => exact hs.readable kept hkept

theorem Move.reloads (h : Move keccak256 Configured Replaceable s t)
    (hconfigured : ∀ config, Configured config → config.contractAddress.Canonical)
    (hconsistent : s.Consistent) (hdeserialized : Deserialized t.log) (hs : Reloads s) :
  Reloads t
  := by
  cases h with
  | changed t hchange => exact hchange.reloads hconsistent hdeserialized hs
  | loaded config state hconfig hstate => exact ⟨hconfigured config hconfig, hs.readable⟩
  | forgotten | damaged => exact ⟨hs.contractAddress, hs.readable⟩

variable {config : ClientConfig} {labels : List Label} {m : Machine}

/-- The state of every run can be read by a new process. -/
theorem run_reloads (hrun : Run (Step keccak256 Configured) (Machine.initial config) labels m)
    (hconfig : config.contractAddress.Canonical)
    (hconfigured : ∀ config, Configured config → config.contractAddress.Canonical)
    (hdeserialized : Deserialized m.session.log) :
  m.session.Consistent ∧ Reloads m.session
  := by
  have hboth : m.session.Consistent ∧ (Deserialized m.session.log → Reloads m.session) := by
    apply @invariant_of_moves _ _ _ _ _
      (fun s => s.Consistent ∧ (Deserialized s.log → Reloads s)) hrun
    · constructor
      · rintro _ ⟨⟩
      · refine fun _ => ⟨hconfig, ?_⟩
        rintro _ ⟨⟩
    · rintro s t hmove ⟨hconsistent, hs⟩
      refine ⟨hmove.consistent hconsistent, fun hdeserialized => ?_⟩
      apply hmove.reloads hconfigured hconsistent hdeserialized
      have hearlier := hmove.log_prefix.subset
      exact hs ⟨fun state h => hdeserialized.secret state (hearlier h),
        fun state response next h => hdeserialized.response state response next (hearlier h)⟩
  exact ⟨hboth.1, hboth.2 hdeserialized⟩

/-- In every state that a wallet reaches, a settlement that is cut off can be repeated exactly
when the response is idle, and archiving is safe unless it can strand the journal. -/
theorem recovery_iff
    (hrun : Run (Step keccak256 Configured) (Machine.initial config) labels ⟨true, s⟩)
    (hconfig : config.contractAddress.Canonical)
    (hconfigured : ∀ config, Configured config → config.contractAddress.Canonical)
    (hdeserialized : Deserialized s.log) :
  (∀ journal response state next, s.disk.Holds journal → response.Canonical →
      s.state = some state → settle keccak256 s.config state journal response = .ok (state, next) →
      (CutsRecover keccak256 s response next ↔ Idle journal response))
    ∧ (ArchiveSafe s ↔ ¬ StrandsJournal s)
  := by
  obtain ⟨hconsistent, hreloads⟩ := run_reloads hrun hconfig hconfigured hdeserialized
  constructor
  · intro journal response state next hholds hresponse hstate hsettle
    have hcanonical := hreloads.readable state (hconsistent state hstate)
    obtain ⟨_, hsettles, _, _, hnext⟩ := settle_eq_ok.mp hsettle
    apply cutsRecover_iff hconsistent hholds hstate hcanonical _ hsettle
    rw [← hnext]
    exact hsettles.canonical_settled hcanonical hresponse
  · exact archiveSafe_iff hconsistent hreloads.readable

end

namespace NoteExample

theorem canonical_one :
  (1 : Felt252).Canonical
  := by decide +kernel

theorem deserialized_requested :
  Deserialized requested.log
  := by
  have hlog : requested.log = [.confirmed state, .prepared state (request 0) none] := rfl
  rw [hlog]
  constructor
  case secret =>
    intro confirmed h
    simp only [List.mem_cons, Event.confirmed.injEq, List.not_mem_nil, or_false, reduceCtorEq] at h
    rw [h]
    exact canonical_one
  case response =>
    intro _ _ _ h
    simp only [List.mem_cons, List.not_mem_nil, or_false, reduceCtorEq] at h

theorem canonical_answer {charge : U128} {anchor blindDelta : Felt252}
    (hanchor : anchor.Canonical) (hdelta : blindDelta.Canonical) :
  (answer (.fromSeed 1) state "request" state.nullifier
    (anonymousCommitment state (scalarToFelt 1) (scalarToFelt 1))
    (answerArgs charge anchor blindDelta)).Canonical
  := by
  constructor
  case nextAnchor => exact hanchor
  case blindDeltaSrv => exact hdelta
  case rX | rY => apply canonical_word
  case s => apply canonical_scalarToFelt

theorem strandsJournal_requested :
  StrandsJournal requested
  := by
  refine ⟨⟨journal, holds_requested⟩, ?_⟩
  rintro ⟨⟩

/-- A response without a charge that takes the rerandomization back. -/
def idleResponse : RequestResponseV2 :=
  answer (.fromSeed 1) state "request" state.nullifier
    (anonymousCommitment state (scalarToFelt 1) (scalarToFelt 1))
    (answerArgs 0 2 (scalarToFelt (-1)))

theorem settle_idleResponse :
  settle Keccak.keccak256 (config 5) state journal idleResponse
    = .ok (state, settled state (scalarToFelt 1) idleResponse (scalarToFelt 1))
  := by
  have hcharge : ∀ cap : U128, 0 ≤ cap := fun cap => BitVec.le_def.mpr (Nat.zero_le _)
  have hanchor : (2 : Felt252) ≠ 0 := by decide
  apply settle_eq_ok.mpr
  exact ⟨scalarToFelt 1, settles_answer stored responseHash_eq hanchor (hcharge _), hcharge _, rfl,
    rfl⟩

/-- After an idle response, whatever cuts its settlement off can be recovered from.  Archiving
the note of the pending request is not safe. -/
theorem recovery_requested :
  CutsRecover Keccak.keccak256 requested idleResponse
      (settled state (scalarToFelt 1) idleResponse (scalarToFelt 1))
    ∧ ¬ ArchiveSafe requested
  := by
  obtain ⟨hcuts, harchive⟩ := @recovery_iff Keccak.keccak256 (fun _ => False) requested (config 5)
    _ run_requested canonical_one (fun _ h => h.elim) deserialized_requested
  have hcanonical : idleResponse.Canonical :=
    canonical_answer (by decide +kernel) (canonical_scalarToFelt _)
  have hidle : Idle journal idleResponse := by
    constructor
    · rfl
    · show scalar (scalarToFelt 1) + scalar (scalarToFelt (-1)) = 0
      rw [scalar_scalarToFelt, scalar_scalarToFelt]
      exact add_neg_cancel 1
  constructor
  · exact (hcuts journal idleResponse state _ holds_requested hcanonical rfl
      settle_idleResponse).mpr hidle
  · exact fun hsafe => harchive.mp hsafe strandsJournal_requested

/-- A response with a charge settles the request, but not again after a crash before the journal is
cleared.  A crash while the note is archived leaves a journal that blocks the next note. -/
theorem not_recovered :
  Run (Step Keccak.keccak256 fun _ => True) (Machine.initial (config 5))
      [.call (.confirmDeposit 1 0 10 100 1) [], .call (.prepareRequest (prepareArgs 0)) []]
      ⟨true, requested⟩
    ∧ (response 2).Canonical
    ∧ settle Keccak.keccak256 (config 5) state journal (response 2) = .ok (state, next 2)
    ∧ (completePendingResponse Keccak.keccak256 (response 2) requested
        (List.replicate 5 .none ++ [.crash])).state.disk
      = ⟨some (next 2), some (.entry journal)⟩
    ∧ ¬ CutsRecover Keccak.keccak256 requested (response 2) (next 2)
    ∧ ¬ ArchiveSafe requested
  := by
  have hanchor : (2 : Felt252) ≠ 0 := by decide
  have hresponse : (response 2).Canonical :=
    canonical_answer (by decide +kernel) (by decide +kernel)
  have hsettle := settle_response hanchor
  have hcanonical : state.Canonical :=
    canonical_depositState _ _ _ _ canonical_one canonical_one
  have hnext : (next 2).Canonical := by
    obtain ⟨_, hsettles, _, _, hnext⟩ := settle_eq_ok.mp hsettle
    rw [← hnext]
    exact hsettles.canonical_settled hcanonical hresponse
  have hconsistent : requested.Consistent := fun _ h => h
  have hreadable : requested.disk.Readable := by
    rintro _ ⟨⟩
    exact hcanonical
  refine ⟨run_requested, hresponse, hsettle, ?_, ?_, ?_⟩
  · have hcut := @completePendingResponse_of_crash Keccak.keccak256 requested _ journal state state
      (next 2) (response 2) [] (clear_replicate 5 [.crash]) rfl holds_requested rfl hsettle
    rw [hcut]
    rfl
  · intro hcuts
    obtain ⟨hcharge, _⟩ := (cutsRecover_iff hconsistent holds_requested rfl hcanonical hnext
      hsettle).mp hcuts
    change (3 : U128) = 0 at hcharge
    exact absurd hcharge (by decide)
  · intro hsafe
    exact (archiveSafe_iff hconsistent hreadable).mp hsafe strandsJournal_requested

end NoteExample

end ZkApi.Client
