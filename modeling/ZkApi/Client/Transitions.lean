import Mathlib.Logic.Relation
import ZkApi.Client.Settlement

/-!
# What an operation does

Whatever faults an operation of the wallet meets, and wherever a crash cuts it off, it has
taken the session through a sequence of atomic changes, most often none or one.  Invariants
are proved for the changes.  Without faults an operation is computed from its result.
-/

namespace ZkApi.Client

open ZkApi.Compact FaultIO

/-! ### Changes -/

/-- What `complete_pending_response` computes before it saves. -/
def settle (keccak256 : List UInt8 → List UInt8) (config : ClientConfig) (state : NoteState)
    (journal : PendingRequestJournal) (response : RequestResponseV2) :
    Except Abort (NoteState × NoteState) := do
  let anonymous ← pendingCommitment state journal.userRerandomization
  verifyResponse keccak256 config (some state) response journal.clientRequestId
    journal.nullifier anonymous journal.userRerandomization

/-- The journal on disk holds an entry that is read back. -/
structure Disk.Holds (disk : Disk) (journal : PendingRequestJournal) : Prop where
  file : disk.pendingJournal = some (.entry journal)
  pending : journal.exists = true
  canonical : journal.Canonical

/-- A session with a state in memory and on disk. -/
def Session.install (s : Session) (state : NoteState) (event : Event) : Session :=
  { s with
    state := some state
    disk := { s.disk with noteState := some state }
    log := s.log ++ [event] }

/-- A session with a file of the journal. -/
def Session.withJournal (s : Session) (file : Option JournalFile) : Session :=
  { s with disk := { s.disk with pendingJournal := file } }

/-- A session in which an event took place. -/
def Session.record (s : Session) (event : Event) : Session :=
  { s with log := s.log ++ [event] }

/-- The session after a request was prepared. -/
def Session.withRequest (s : Session) (args : PrepareArgs) (state : NoteState)
    (request : ApiRequestV2) : Session :=
  (s.withJournal (some (.entry (journalEntry args state.nullifier request)))).record
    (.prepared state request s.disk.pendingJournal)

/-- The atomic changes of a session, for the journals that a request may be written over.  A
file that is to be removed may be left, when it is not seen to exist. -/
inductive Change (keccak256 : List UInt8 → List UInt8) (Replaceable : Option JournalFile → Prop)
    (s : Session) : Session → Prop
  | confirmed (secret : Felt252) (noteId : U32) (depositAmount : U128) (expiry : U64)
      (random : EdwardsScalarField) (state : NoteState) (hnone : s.state = none)
      (hstate : state = depositState s.config secret noteId depositAmount expiry
        (scalarToFelt random)) :
      Change keccak256 Replaceable s (s.install state (.confirmed state))
  | prepared (args : PrepareArgs) (state : NoteState) (request : ApiRequestV2)
      (h : buildRequest keccak256 s.config s.state args = .ok (state, request))
      (hreplaced : Replaceable s.disk.pendingJournal) :
      Change keccak256 Replaceable s (s.withRequest args state request)
  | resent (journal : PendingRequestJournal) (request : ApiRequestV2)
      (hholds : s.disk.Holds journal) (hrequest : journal.preparedRequest = some request) :
      Change keccak256 Replaceable s (s.record (.resent request))
  | accepted (journal : PendingRequestJournal) (state : NoteState)
      (response : RequestResponseV2) (next : NoteState) (file : Option JournalFile)
      (hholds : s.disk.Holds journal) (hstate : s.state = some state)
      (h : settle keccak256 s.config state journal response = .ok (state, next))
      (hfile : file = s.disk.pendingJournal ∨ file = none) :
      Change keccak256 Replaceable s
        ((s.install next (.accepted state response next)).withJournal file)
  | cleared (file : Option JournalFile) (hfile : file = s.disk.pendingJournal ∨ file = none) :
      Change keccak256 Replaceable s ((s.withJournal file).record .cleared)
  | archived (state : NoteState) (file : Option NoteState) (hstate : s.state = some state)
      (hfile : file = s.disk.noteState ∨ file = none) :
      Change keccak256 Replaceable s { s with
        state := none
        disk := { s.disk with noteState := file } }

/-- However an operation ends, it has taken the session through changes. -/
def Runs (keccak256 : List UInt8 → List UInt8) (Replaceable : Option JournalFile → Prop)
    {α : Type} (p : Operation α) (s : Session) : Prop :=
  wp p (fun _ t => Relation.ReflTransGen (Change keccak256 Replaceable) s t) s

variable {keccak256 : List UInt8 → List UInt8} {Replaceable : Option JournalFile → Prop}
  {s : Session}

/-- A response settles a request and leads to a state. -/
theorem settle_eq_ok {config : ClientConfig} {state before next : NoteState}
    {journal : PendingRequestJournal} {response : RequestResponseV2} :
  settle keccak256 config state journal response = .ok (before, next)
    ↔ ∃ blinding, Settles keccak256 config.stateSigningKey state journal.clientRequestId
        journal.nullifier journal.userRerandomization response blinding
      ∧ response.chargeApplied ≤ config.chargeCap
      ∧ state = before ∧ settled state journal.userRerandomization response blinding = next
  := by
  simp only [← Prod.mk.injEq]
  exact complete_eq_ok

/-! ### Operations on files -/

/-- A file is replaced, or nothing happens. -/
theorem wp_replaceFile {f : Disk → Disk} {Q : Outcome Abort Unit → Session → Prop}
    (hok : Q (.ok ()) { s with disk := f s.disk }) (herror : Q (.error ioError) s)
    (hcrash : Q .crash s) :
  wp (replaceFile f) Q s
  := by
  apply wp_bind
  apply wp_access
  case herror | hcrash => assumption
  apply wp_bind
  apply wp_access
  case herror | hcrash => assumption
  apply wp_access
  all_goals assumption

/-- Reading the journal changes nothing, and returns what the journal holds, if anything. -/
theorem wp_read {Q : Outcome Abort (Option PendingRequestJournal) → Session → Prop}
    (hsome : ∀ journal, s.disk.Holds journal → Q (.ok (some journal)) s)
    (hnone : Q (.ok none) s) (herror : ∀ e, Q (.error e) s) (hcrash : Q .crash s) :
  wp PendingRequestJournal.read Q s
  := by
  apply wp_bind
  apply wp_probe
  case hno => apply wp_pure hnone
  case hcrash => apply hcrash
  intro _
  apply wp_bind
  apply wp_access
  case herror => apply herror
  case hcrash => apply hcrash
  apply wp_bind
  apply wp_get
  apply wp_bind
  apply wp_ofExcept
  case herror => exact fun e _ => herror e
  intro file hfile
  apply wp_bind
  apply wp_ofExcept
  case herror => exact fun e _ => herror e
  intro journal hjournal
  rw [mapErr_eq_ok] at hjournal
  apply wp_pure
  cases file with
  | malformed failure => cases hjournal
  | entry written =>
    obtain ⟨hcanonical, rfl⟩ := PendingRequestJournal.reload_eq_ok.mp hjournal
    split
    · next hexists => exact hsome _ ⟨okOr_eq_ok.mp hfile, hexists, hcanonical⟩
    · apply hnone

/-- The journal is cleared, or left as it is. -/
theorem wp_clear {Q : Outcome Abort Unit → Session → Prop}
    (hok : ∀ file, file = s.disk.pendingJournal ∨ file = none → Q (.ok ()) (s.withJournal file))
    (herror : ∀ e, Q (.error e) s) (hcrash : Q .crash s) :
  wp PendingRequestJournal.clear Q s
  := by
  apply wp_bind
  apply wp_probe
  case hno =>
    apply wp_pure
    apply hok s.disk.pendingJournal (.inl rfl)
  case hcrash => apply hcrash
  intro _
  apply wp_access
  case herror => apply herror
  case hcrash => apply hcrash
  apply hok none (.inr rfl)

theorem wp_emit {event : Event} {Q : Outcome Abort Unit → Session → Prop}
    (h : Q (.ok ()) (s.record event)) :
  wp (emit event) Q s
  := wp_modify h

/-! ### Operations -/

theorem unchanged :
  Relation.ReflTransGen (Change keccak256 Replaceable) s s
  := .refl

theorem runs_pure {α : Type} {a : α} :
  Runs keccak256 Replaceable (pure a) s
  := wp_pure unchanged

theorem runs_ofExcept {α : Type} {x : Except Abort α} :
  Runs keccak256 Replaceable (ofExcept x) s
  := wp_ofExcept (fun _ _ => unchanged) fun _ _ => unchanged

/-- Changes before an operation are followed by its own. -/
theorem Runs.after {α : Type} {p : Operation α} {t : Session} (h : Runs keccak256 Replaceable p t)
    (hst : Relation.ReflTransGen (Change keccak256 Replaceable) s t) :
  wp p (fun _ u => Relation.ReflTransGen (Change keccak256 Replaceable) s u) t
  := wp_mono h fun _ _ htu => hst.trans htu

/-- The changes of a composition are those of its parts. -/
theorem Runs.bind {α β : Type} {p : Operation α} {f : α → Operation β} (h : Runs keccak256 Replaceable p s)
    (hf : ∀ a t, Runs keccak256 Replaceable (f a) t) :
  Runs keccak256 Replaceable (p >>= f) s
  := by
  apply wp_bind
  refine wp_mono h ?_
  intro o t hst
  cases o with
  | ok a => exact (hf a t).after hst
  | error e => exact hst
  | crash => exact hst

theorem wp_hasPendingRequest {Q : Outcome Abort Bool → Session → Prop}
    (hyes : ∀ journal, s.disk.Holds journal → Q (.ok true) s) (hno : Q (.ok false) s)
    (herror : ∀ e, Q (.error e) s) (hcrash : Q .crash s) :
  wp hasPendingRequest Q s
  := by
  apply wp_bind
  apply wp_attempt
  apply wp_read
  case hsome =>
    intro journal hholds
    apply wp_pure (hyes journal hholds)
  case hnone => apply wp_pure hno
  case herror =>
    intro e
    cases e with
    | error e => apply wp_pure hno
    | panic =>
      apply wp_ofExcept
      · intro _ h
        cases h
      · intro e _
        apply herror
  case hcrash => apply hcrash

theorem runs_pendingApiRequest :
  Runs keccak256 Replaceable pendingApiRequest s
  := by
  apply wp_bind
  apply wp_read
  case hnone => exact wp_pure unchanged
  case herror => exact fun _ => unchanged
  case hcrash => exact unchanged
  intro journal hholds
  rw [andThen, Option.bind_some]
  cases hrequest : journal.preparedRequest with
  | none => exact wp_pure unchanged
  | some request =>
    apply wp_bind
    apply wp_emit
    apply wp_pure
    exact Relation.ReflTransGen.single (Change.resent journal request hholds hrequest)

theorem runs_clearPendingRequest :
  Runs keccak256 Replaceable clearPendingRequest s
  := by
  apply wp_bind
  apply wp_clear
  case herror => exact fun _ => unchanged
  case hcrash => exact unchanged
  intro file hfile
  apply wp_emit
  exact Relation.ReflTransGen.single (.cleared file hfile)

/-- A deposit is confirmed when no note is active, or nothing happens. -/
theorem wp_confirmDeposit {secret : Felt252} {noteId : U32} {depositAmount : U128} {expiry : U64}
    {random : EdwardsScalarField} {Q : Outcome Abort Unit → Session → Prop}
    (hok : ∀ state, s.state = none →
      state = depositState s.config secret noteId depositAmount expiry (scalarToFelt random) →
      Q (.ok ()) (s.install state (.confirmed state)))
    (herror : ∀ e, Q (.error e) s) (hcrash : Q .crash s) :
  wp (confirmDeposit secret noteId depositAmount expiry random) Q s
  := by
  apply wp_bind
  apply wp_get
  apply wp_bind
  apply wp_ofExcept
  case herror => exact fun e _ => herror e
  intro _ hnone
  rw [failIf_eq_ok, Option.not_isSome_iff_eq_none] at hnone
  apply wp_bind
  apply wp_replaceFile
  case herror => apply herror
  case hcrash => exact hcrash
  apply wp_bind
  apply wp_modify
  apply wp_emit
  exact hok _ hnone rfl

theorem runs_confirmDeposit (secret : Felt252) (noteId : U32) (depositAmount : U128)
    (expiry : U64) (random : EdwardsScalarField) :
  Runs keccak256 Replaceable (confirmDeposit secret noteId depositAmount expiry random) s
  := by
  apply wp_confirmDeposit
  case herror => exact fun _ => unchanged
  case hcrash => exact unchanged
  intro state hnone hstate
  exact .single (.confirmed secret noteId depositAmount expiry random state hnone hstate)

theorem runs_prepareRequest (args : PrepareArgs) (hreplaced : Replaceable s.disk.pendingJournal) :
  Runs keccak256 Replaceable (prepareRequest keccak256 args) s
  := by
  apply wp_bind
  apply wp_hasPendingRequest
  case hyes =>
    intro _ _
    apply wp_bind
    apply wp_ofExcept
    case herror => exact fun _ _ => unchanged
    rintro _ ⟨⟩
  case herror => exact fun _ => unchanged
  case hcrash => exact unchanged
  apply wp_bind
  apply wp_ofExcept
  case herror => exact fun _ _ => unchanged
  intro _ _
  apply wp_bind
  apply wp_get
  apply wp_bind
  apply wp_ofExcept
  case herror => exact fun _ _ => unchanged
  rintro ⟨state, request⟩ h
  apply wp_bind
  apply wp_replaceFile
  case herror | hcrash => exact unchanged
  apply wp_bind
  apply wp_emit
  apply wp_pure
  exact Relation.ReflTransGen.single (.prepared args state request h hreplaced)

/-- A response is accepted as a whole, except that the journal may be left; or nothing
happens. -/
theorem wp_completePendingResponse {response : RequestResponseV2}
    {Q : Outcome Abort Unit → Session → Prop} (herror : ∀ e, Q (.error e) s) (hcrash : Q .crash s)
    (haccept : ∀ journal state next, s.disk.Holds journal → s.state = some state →
      settle keccak256 s.config state journal response = .ok (state, next) →
      (∀ file, file = s.disk.pendingJournal ∨ file = none →
        Q (.ok ()) ((s.install next (.accepted state response next)).withJournal file))
      ∧ (∀ e, Q (.error e) (s.install next (.accepted state response next)))
      ∧ Q .crash (s.install next (.accepted state response next))) :
  wp (completePendingResponse keccak256 response) Q s
  := by
  apply wp_bind
  apply wp_read
  case herror => exact herror
  case hcrash => exact hcrash
  case hnone =>
    apply wp_bind
    apply wp_ofExcept
    · intro _ h
      cases h
    · exact fun e _ => herror e
  intro journal hholds
  apply wp_bind
  apply wp_ofExcept
  case herror => exact fun e _ => herror e
  rintro _ ⟨⟩
  apply wp_bind
  apply wp_get
  apply wp_bind
  apply wp_ofExcept
  case herror => exact fun e _ => herror e
  intro state hstate
  rw [okOr_eq_ok] at hstate
  apply wp_bind
  apply wp_ofExcept
  case herror => exact fun e _ => herror e
  intro anonymous hanonymous
  apply wp_bind
  apply wp_bind
  apply wp_get
  apply wp_bind
  apply wp_ofExcept
  case herror => exact fun e _ => herror e
  rintro ⟨before, next⟩ hverify
  rw [hstate] at hverify
  have hsettle : settle keccak256 s.config state journal response = .ok (before, next) := by
    rw [settle, hanonymous]
    apply hverify
  obtain ⟨_, _, _, rfl, _⟩ := settle_eq_ok.mp hsettle
  obtain ⟨hdone, hfailed, hcut⟩ := haccept journal state next hholds hstate hsettle
  apply wp_bind
  apply wp_replaceFile
  case herror => apply herror
  case hcrash => exact hcrash
  apply wp_bind
  apply wp_modify
  apply wp_emit
  -- the state is installed, and the journal is still there
  apply wp_clear
  case herror => exact hfailed
  case hcrash => exact hcut
  exact hdone

theorem runs_completePendingResponse (response : RequestResponseV2) :
  Runs keccak256 Replaceable (completePendingResponse keccak256 response) s
  := by
  apply wp_completePendingResponse
  case herror => exact fun _ => unchanged
  case hcrash => exact unchanged
  intro journal state next hholds hstate hsettle
  have haccepted : ∀ file, file = s.disk.pendingJournal ∨ file = none →
      Relation.ReflTransGen (Change keccak256 Replaceable) s
        ((s.install next (.accepted state response next)).withJournal file) :=
    fun file hfile => .single (.accepted journal state response next file hholds hstate hsettle
      hfile)
  have hkept := haccepted _ (.inl rfl)
  exact ⟨haccepted, fun _ => hkept, hkept⟩

theorem runs_requestFlow (args : PrepareArgs) (reply : RequestReply)
    (hreplaced : Replaceable s.disk.pendingJournal) :
  Runs keccak256 Replaceable (requestFlow keccak256 args reply) s
  := by
  apply (runs_prepareRequest args hreplaced).bind
  intro _ t
  cases reply with
  | unreachable | failed | undecodable => exact runs_ofExcept
  | rejected errorCode errorMessage =>
    dsimp only
    split
    · exact runs_clearPendingRequest.bind fun _ _ => runs_ofExcept
    · exact runs_ofExcept
  | answered response =>
    exact (runs_completePendingResponse response).bind fun _ _ => runs_pure

theorem runs_read :
  Runs keccak256 Replaceable PendingRequestJournal.read s
  := by
  apply wp_read
  case hsome => exact fun _ _ => unchanged
  case herror => exact fun _ => unchanged
  all_goals exact unchanged

theorem runs_recover (reply : RecoveryReply) :
  Runs keccak256 Replaceable (recover keccak256 reply) s
  := by
  apply runs_read.bind
  rintro (_ | journal) t
  · exact runs_pure
  · cases reply with
    | unreachable | failed | undecodable => exact runs_ofExcept
    | notFound => exact runs_pure
    | found response =>
      cases response with
      | none => exact runs_pure
      | some response =>
        exact (runs_completePendingResponse response).bind fun _ _ => runs_pure

/-- The file of the state is removed, or left when it is not seen to exist. -/
theorem wp_archive {state : NoteState} {Q : Outcome Abort Unit → Session → Prop}
    (hok : ∀ file, file = s.disk.noteState ∨ file = none →
      Q (.ok ()) { s with disk := { s.disk with noteState := file } })
    (herror : ∀ e, Q (.error e) s) (hcrash : Q .crash s) :
  wp state.archive Q s
  := by
  apply wp_bind
  apply wp_access
  case herror => apply herror
  case hcrash => apply hcrash
  apply wp_bind
  apply wp_replaceFile
  case herror => apply herror
  case hcrash => apply hcrash
  apply wp_bind
  apply wp_probe
  case hno =>
    apply wp_pure
    apply hok s.disk.noteState (.inl rfl)
  case hcrash => apply hcrash
  intro _
  apply wp_access
  case herror => apply herror
  case hcrash => apply hcrash
  apply hok none (.inr rfl)

/-- What archiving leaves on disk, however it ends. -/
theorem wp_archiveNote {Q : Outcome Abort Unit → Session → Prop}
    (h : ∀ o t, t.config = s.config →
      (t.disk.noteState = s.disk.noteState ∨ s.state ≠ none ∧ t.disk.noteState = none) →
      (t.disk.pendingJournal = s.disk.pendingJournal ∨ t.disk.pendingJournal = none) → Q o t) :
  wp archiveNote Q s
  := by
  apply wp_bind
  apply wp_get
  apply wp_bind
  cases hstate : s.state with
  | none =>
    apply wp_pure
    apply wp_bind
    apply wp_modify
    apply wp_bind
    apply wp_clear
    case herror => exact fun _ => h _ _ rfl (.inl rfl) (.inl rfl)
    case hcrash => exact h _ _ rfl (.inl rfl) (.inl rfl)
    intro file hfile
    apply wp_emit
    exact h _ _ rfl (.inl rfl) hfile
  | some state =>
    have hsome : s.state ≠ none := by
      rw [hstate]
      rintro ⟨⟩
    show wp state.archive _ s
    apply wp_archive
    case herror => exact fun _ => h _ _ rfl (.inl rfl) (.inl rfl)
    case hcrash => exact h _ _ rfl (.inl rfl) (.inl rfl)
    intro file hfile
    have hleft := hfile.imp_right fun hnone => And.intro hsome hnone
    apply wp_bind
    apply wp_modify
    apply wp_bind
    apply wp_clear
    case herror => exact fun _ => h _ _ rfl hleft (.inl rfl)
    case hcrash => exact h _ _ rfl hleft (.inl rfl)
    intro file hfile
    apply wp_emit
    exact h _ _ rfl hleft hfile

theorem runs_archiveNote :
  Runs keccak256 Replaceable archiveNote s
  := by
  apply wp_bind
  apply wp_get
  apply wp_bind
  cases hstate : s.state with
  | none =>
    have hsame : { s with state := none } = s := by rw [← hstate]
    apply wp_pure
    apply wp_bind
    apply wp_modify
    rw [hsame]
    exact runs_clearPendingRequest
  | some state =>
    show wp state.archive _ s
    apply wp_archive
    case herror => exact fun _ => unchanged
    case hcrash => exact unchanged
    intro file hfile
    apply wp_bind
    apply wp_modify
    apply runs_clearPendingRequest.after
    exact .single (.archived state file hstate hfile)

/-! ### Without faults -/

section

variable {n : ℕ} {faults : List Fault}

theorem replaceFile_of_clear (h : Clear (n + 3) faults) (f : Disk → Disk) :
  replaceFile f s faults = ⟨.ok (), { s with disk := f s.disk }, faults.tail.tail.tail⟩
  := by
  rw [replaceFile, bind_of_ok (access_of_clear h id), bind_of_ok (access_of_clear h.tail id),
    access_of_clear h.tail.tail]
  rfl

/-- Reading a journal without faults. -/
theorem read_of_holds {journal : PendingRequestJournal} (h : Clear (n + 2) faults)
    (hholds : s.disk.Holds journal) :
  PendingRequestJournal.read s faults = ⟨.ok (some journal), s, faults.tail.tail⟩
  := by
  have hfile : s.disk.pendingJournal.isSome = true := by
    rw [hholds.file]
    rfl
  have hparse : mapErr .serialization (JournalFile.entry journal).parse = .ok journal :=
    mapErr_eq_ok.mpr (PendingRequestJournal.reload_eq_ok.mpr ⟨hholds.canonical, rfl⟩)
  have hread : okOr (id s).disk.pendingJournal .io = .ok (.entry journal) :=
    okOr_eq_ok.mpr hholds.file
  rw [PendingRequestJournal.read, bind_of_ok (probe_of_clear h _), hfile, if_pos rfl,
    bind_of_ok (access_of_clear h.tail id), bind_of_ok get_run, bind_of_ok (ofExcept_of_ok hread),
    bind_of_ok (ofExcept_of_ok hparse), hholds.pending, if_pos rfl]
  rfl

/-- Reading a journal that holds nothing pending. -/
theorem read_of_not_pending {journal : PendingRequestJournal} (h : Clear (n + 2) faults)
    (hfile : s.disk.pendingJournal = some (.entry journal)) (hcanonical : journal.Canonical)
    (hpending : journal.exists = false) :
  PendingRequestJournal.read s faults = ⟨.ok none, s, faults.tail.tail⟩
  := by
  have hsome : s.disk.pendingJournal.isSome = true := by
    rw [hfile]
    rfl
  have hparse : mapErr .serialization (JournalFile.entry journal).parse = .ok journal :=
    mapErr_eq_ok.mpr (PendingRequestJournal.reload_eq_ok.mpr ⟨hcanonical, rfl⟩)
  have hread : okOr (id s).disk.pendingJournal .io = .ok (.entry journal) :=
    okOr_eq_ok.mpr hfile
  rw [PendingRequestJournal.read, bind_of_ok (probe_of_clear h _), hsome, if_pos rfl,
    bind_of_ok (access_of_clear h.tail id), bind_of_ok get_run, bind_of_ok (ofExcept_of_ok hread),
    bind_of_ok (ofExcept_of_ok hparse), hpending, if_neg Bool.false_ne_true]
  rfl

/-- Reading where there is no journal. -/
theorem read_of_none (h : Clear (n + 1) faults) (hfile : s.disk.pendingJournal = none) :
  PendingRequestJournal.read s faults = ⟨.ok none, s, faults.tail⟩
  := by
  have hnone : s.disk.pendingJournal.isSome = false := by
    rw [hfile]
    rfl
  rw [PendingRequestJournal.read, bind_of_ok (probe_of_clear h _), hnone,
    if_neg Bool.false_ne_true]
  rfl

theorem confirmDeposit_of_clear {secret : Felt252} {noteId : U32} {depositAmount : U128}
    {expiry : U64} {random : EdwardsScalarField} {state : NoteState} (h : Clear (n + 3) faults)
    (hnone : s.state = none)
    (hstate : depositState s.config secret noteId depositAmount expiry (scalarToFelt random)
      = state) :
  confirmDeposit secret noteId depositAmount expiry random s faults
    = ⟨.ok (), s.install state (.confirmed state), faults.tail.tail.tail⟩
  := by
  have hactive : failIf s.state.isSome (Abort.error .noteAlreadyExists) = .ok () := by
    rw [hnone]
    rfl
  rw [confirmDeposit, bind_of_ok get_run, bind_of_ok (ofExcept_of_ok hactive), hstate,
    NoteState.save, bind_of_ok (replaceFile_of_clear h _), bind_of_ok (modify_run _)]
  rfl

theorem hasPendingRequest_of_none (h : Clear (n + 1) faults)
    (hfile : s.disk.pendingJournal = none) :
  hasPendingRequest s faults = ⟨.ok false, s, faults.tail⟩
  := by
  rw [hasPendingRequest, bind_of_ok (attempt_of_ok (read_of_none h hfile))]
  rfl

/-- A request is prepared once nothing is seen to be pending. -/
theorem prepareRequest_of_not_pending {args : PrepareArgs} {state : NoteState}
    {request : ApiRequestV2} {rest : List Fault}
    (hpending : hasPendingRequest s faults = ⟨.ok false, s, rest⟩) (h : Clear (n + 3) rest)
    (hbuild : buildRequest keccak256 s.config s.state args = .ok (state, request)) :
  prepareRequest keccak256 args s faults
    = ⟨.ok request, s.withRequest args state request, rest.tail.tail.tail⟩
  := by
  have hfree : failIf (false = true) (Abort.error .pendingRequest) = .ok () := rfl
  rw [prepareRequest, bind_of_ok hpending, bind_of_ok (ofExcept_of_ok hfree), bind_of_ok get_run,
    bind_of_ok (ofExcept_of_ok hbuild)]
  dsimp only
  rw [PendingRequestJournal.write, bind_of_ok (replaceFile_of_clear h _)]
  rfl

/-- Clearing a journal that is there. -/
theorem clear_of_clear (h : Clear (n + 2) faults) (hfile : s.disk.pendingJournal.isSome = true) :
  PendingRequestJournal.clear s faults = ⟨.ok (), s.withJournal none, faults.tail.tail⟩
  := by
  rw [PendingRequestJournal.clear, bind_of_ok (probe_of_clear h _), hfile, if_pos rfl,
    access_of_clear h.tail]
  rfl

/-- A response is checked against the session before anything is done. -/
theorem applyResponse_of_error {response : RequestResponseV2} {requestId : String}
    {nullifier rerandomization : Felt252} {anonymous : CurvePointWire} {e : Abort}
    (h : verifyResponse keccak256 s.config s.state response requestId nullifier anonymous
      rerandomization = .error e) :
  applyResponse keccak256 response requestId nullifier anonymous rerandomization s faults
    = ⟨.error e, s, faults⟩
  := by
  rw [applyResponse, bind_of_ok get_run, bind_of_error (ofExcept_of_error h)]

theorem applyResponse_of_clear {response : RequestResponseV2} {requestId : String}
    {nullifier rerandomization : Felt252} {anonymous : CurvePointWire} {state next : NoteState}
    (hclear : Clear (n + 3) faults)
    (h : verifyResponse keccak256 s.config s.state response requestId nullifier anonymous
      rerandomization = .ok (state, next)) :
  applyResponse keccak256 response requestId nullifier anonymous rerandomization s faults
    = ⟨.ok (), s.install next (.accepted state response next), faults.tail.tail.tail⟩
  := by
  rw [applyResponse, bind_of_ok get_run, bind_of_ok (ofExcept_of_ok h)]
  dsimp only
  rw [NoteState.save, bind_of_ok (replaceFile_of_clear hclear _), bind_of_ok (modify_run _)]
  rfl

/-- What leads to the response being applied. -/
theorem completePendingResponse_run {journal : PendingRequestJournal} {state : NoteState}
    {response : RequestResponseV2} (h : Clear (n + 2) faults) (hholds : s.disk.Holds journal)
    (hstate : s.state = some state) :
  completePendingResponse keccak256 response s faults
    = (do
        let anonymous ← ofExcept (pendingCommitment state journal.userRerandomization)
        applyResponse keccak256 response journal.clientRequestId journal.nullifier anonymous
          journal.userRerandomization
        PendingRequestJournal.clear : Operation Unit) s faults.tail.tail
  := by
  have hpending : okOr (some journal) .pendingRequest = .ok journal := rfl
  have hactive : okOr s.state .noActiveNote = .ok state := okOr_eq_ok.mpr hstate
  rw [completePendingResponse, bind_of_ok (read_of_holds h hholds),
    bind_of_ok (ofExcept_of_ok hpending), bind_of_ok get_run, bind_of_ok (ofExcept_of_ok hactive)]

/-- A response that does not settle the request changes nothing. -/
theorem completePendingResponse_of_error {journal : PendingRequestJournal} {state : NoteState}
    {response : RequestResponseV2} {e : Abort} (h : Clear (n + 2) faults)
    (hholds : s.disk.Holds journal) (hstate : s.state = some state)
    (hsettle : settle keccak256 s.config state journal response = .error e) :
  completePendingResponse keccak256 response s faults = ⟨.error e, s, faults.tail.tail⟩
  := by
  rw [completePendingResponse_run h hholds hstate]
  rw [settle] at hsettle
  cases hcommitment : pendingCommitment state journal.userRerandomization with
  | error e' =>
    rw [hcommitment] at hsettle
    obtain rfl := Except.error.inj hsettle
    rw [bind_of_error (ofExcept_of_error rfl)]
  | ok anonymous =>
    rw [hcommitment] at hsettle
    rw [bind_of_ok (ofExcept_of_ok rfl), bind_of_error (applyResponse_of_error (hstate ▸ hsettle))]

/-- A response that settles the request leads to its state, and the journal is cleared. -/
theorem completePendingResponse_of_clear {journal : PendingRequestJournal}
    {state before next : NoteState} {response : RequestResponseV2} (h : Clear (n + 7) faults)
    (hholds : s.disk.Holds journal) (hstate : s.state = some state)
    (hsettle : settle keccak256 s.config state journal response = .ok (before, next)) :
  completePendingResponse keccak256 response s faults
    = ⟨.ok (), (s.install next (.accepted before response next)).withJournal none,
      faults.drop 7⟩
  := by
  rw [settle, bind_eq_ok] at hsettle
  obtain ⟨anonymous, hcommitment, hverify⟩ := hsettle
  have hfile : (s.install next (.accepted before response next)).disk.pendingJournal.isSome
      = true := by
    have hsome := hholds.file
    rw [Session.install, hsome]
    rfl
  rw [completePendingResponse_run h hholds hstate, bind_of_ok (ofExcept_of_ok hcommitment),
    bind_of_ok (applyResponse_of_clear h.tail.tail (hstate ▸ hverify)),
    clear_of_clear h.tail.tail.tail.tail.tail hfile]
  simp only [← List.drop_one, List.drop_drop]

/-- A journal that is read back blocks requests. -/
theorem hasPendingRequest_of_holds {journal : PendingRequestJournal} (h : Clear (n + 2) faults)
    (hholds : s.disk.Holds journal) :
  hasPendingRequest s faults = ⟨.ok true, s, faults.tail.tail⟩
  := by
  rw [hasPendingRequest, bind_of_ok (attempt_of_ok (read_of_holds h hholds))]
  rfl

/-- The process ends before the journal is cleared. -/
theorem clear_of_crash (rest : List Fault) :
  PendingRequestJournal.clear s (.crash :: rest) = ⟨.crash, s, rest⟩
  := by
  rw [PendingRequestJournal.clear, bind_of_crash (probe_of_crash _)]

/-- A crash before the journal is cleared leaves it next to the state that was saved. -/
theorem completePendingResponse_of_crash {journal : PendingRequestJournal}
    {state before next : NoteState} {response : RequestResponseV2} {rest : List Fault}
    (h : Clear 5 faults) (hcrash : faults.tail.tail.tail.tail.tail = .crash :: rest)
    (hholds : s.disk.Holds journal) (hstate : s.state = some state)
    (hsettle : settle keccak256 s.config state journal response = .ok (before, next)) :
  completePendingResponse keccak256 response s faults
    = ⟨.crash, s.install next (.accepted before response next), rest⟩
  := by
  rw [settle, bind_eq_ok] at hsettle
  obtain ⟨anonymous, hcommitment, hverify⟩ := hsettle
  rw [completePendingResponse_run h hholds hstate, bind_of_ok (ofExcept_of_ok hcommitment),
    bind_of_ok (applyResponse_of_clear h.tail.tail (hstate ▸ hverify)), hcrash, clear_of_crash]

/-- A crash before the journal is cleared leaves it although the state is archived. -/
theorem archiveNote_of_crash {state : NoteState} {rest : List Fault} (h : Clear 6 faults)
    (hcrash : faults.tail.tail.tail.tail.tail.tail = .crash :: rest) (hstate : s.state = some state)
    (hdisk : s.disk.noteState = some state) :
  archiveNote s faults
    = ⟨.crash, { s with
        state := none
        disk := { s.disk with noteState := none } }, rest⟩
  := by
  have hsome : s.disk.noteState.isSome = true := by
    rw [hdisk]
    rfl
  have harchive : state.archive s faults
      = ⟨.ok (), { s with disk := { s.disk with noteState := none } }, .crash :: rest⟩ := by
    rw [NoteState.archive, bind_of_ok (access_of_clear h id),
      bind_of_ok (replaceFile_of_clear h.tail id),
      bind_of_ok (probe_of_clear h.tail.tail.tail.tail _)]
    dsimp only
    rw [id_eq, id_eq, hsome, if_pos rfl, access_of_clear h.tail.tail.tail.tail.tail, hcrash]
  rw [archiveNote, bind_of_ok get_run, hstate]
  dsimp only [Option.elim]
  rw [bind_of_ok harchive, bind_of_ok (modify_run _), clearPendingRequest,
    bind_of_crash (clear_of_crash rest)]

end

end ZkApi.Client
