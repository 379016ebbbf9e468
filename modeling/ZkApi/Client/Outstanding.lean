import ZkApi.Client.Nullifiers

/-!
# Outstanding requests

A pending request blocks the next one, as far as its journal can be read: when the file is there
but reading it fails, the wallet takes it for missing and writes over it.  In runs in which this
does not happen, no request is written over another, and no two requests carry one nullifier
unless the journal was cleared between them.
-/

namespace ZkApi.Client

open ZkApi.Compact FaultIO

/-! ### Reading the journal before a request -/

/-- The file of the journal is there, but reading it returns no entry or an error. -/
def FailsOpen (s : Session) (faults : List Fault) : Prop :=
  s.disk.pendingJournal ≠ none
    ∧ ((PendingRequestJournal.read s faults).outcome = .ok none
      ∨ ∃ e, (PendingRequestJournal.read s faults).outcome = .error (.error e))

section

variable {keccak256 : List UInt8 → List UInt8} {s : Session} {faults : List Fault}

theorem state_read :
  (PendingRequestJournal.read s faults).state = s
  := by
  have hread : wp PendingRequestJournal.read (fun _ t => t = s) s := by
    apply wp_read
    case hsome => exact fun _ _ => rfl
    case herror => exact fun _ => rfl
    all_goals rfl
  exact hread faults

/-- A journal that is there blocks a request, unless it is taken for missing. -/
theorem hasPendingRequest_of_not_failsOpen (hfile : s.disk.pendingJournal ≠ none)
    (h : ¬ FailsOpen s faults) :
  (hasPendingRequest s faults).state = s
    ∧ (hasPendingRequest s faults).outcome ≠ .ok false
  := by
  have hstate := @state_read s faults
  have houtcome : ∀ outcome, (PendingRequestJournal.read s faults).outcome = outcome →
      outcome ≠ .ok none ∧ ∀ e, outcome ≠ .error (.error e) := by
    rintro _ rfl
    constructor
    · exact fun hnone => h ⟨hfile, .inl hnone⟩
    · exact fun e herror => h ⟨hfile, .inr ⟨e, herror⟩⟩
  generalize hread : PendingRequestJournal.read s faults = result at hstate houtcome
  obtain ⟨outcome, t, rest⟩ := result
  obtain rfl : t = s := hstate
  obtain ⟨hnone, herror⟩ := houtcome outcome rfl
  cases outcome with
  | ok found =>
    cases found with
    | none => exact absurd rfl hnone
    | some journal =>
      rw [hasPendingRequest, bind_of_ok (attempt_of_ok hread)]
      exact ⟨rfl, by rintro ⟨⟩⟩
  | error e =>
    cases e with
    | error e => exact absurd rfl (herror e)
    | panic =>
      rw [hasPendingRequest, bind_of_ok (attempt_of_error hread)]
      exact ⟨rfl, by rintro ⟨⟩⟩
  | crash =>
    rw [hasPendingRequest, bind_of_crash (attempt_of_crash hread)]
    exact ⟨rfl, by rintro ⟨⟩⟩

/-- Nothing is prepared then. -/
theorem prepareRequest_of_not_failsOpen {args : PrepareArgs}
    (hfile : s.disk.pendingJournal ≠ none) (h : ¬ FailsOpen s faults) :
  (prepareRequest keccak256 args s faults).state = s
    ∧ ∀ request, (prepareRequest keccak256 args s faults).outcome ≠ .ok request
  := by
  obtain ⟨hstate, houtcome⟩ := hasPendingRequest_of_not_failsOpen hfile h
  generalize hpending : hasPendingRequest s faults = result at hstate houtcome
  obtain ⟨outcome, t, rest⟩ := result
  obtain rfl : t = s := hstate
  cases outcome with
  | ok pending =>
    obtain rfl : pending = true := by
      cases pending with
      | true => rfl
      | false => exact absurd rfl houtcome
    have hblocked : failIf (true = true) (Abort.error .pendingRequest)
        = .error (.error .pendingRequest) := rfl
    rw [prepareRequest, bind_of_ok hpending, bind_of_error (ofExcept_of_error hblocked)]
    exact ⟨rfl, by rintro _ ⟨⟩⟩
  | error e =>
    rw [prepareRequest, bind_of_error hpending]
    exact ⟨rfl, by rintro _ ⟨⟩⟩
  | crash =>
    rw [prepareRequest, bind_of_crash hpending]
    exact ⟨rfl, by rintro _ ⟨⟩⟩

/-- No call that prepares a request does anything then. -/
theorem Call.program_of_not_failsOpen {c : Call} (hprepares : c.Prepares)
    (hfile : s.disk.pendingJournal ≠ none) (h : ¬ FailsOpen s faults) :
  (c.program keccak256 s faults).state = s
  := by
  cases c with
  | prepareRequest args =>
    obtain ⟨hstate, houtcome⟩ := @prepareRequest_of_not_failsOpen keccak256 s faults args hfile h
    exact (bind_of_not_ok houtcome _).1.trans hstate
  | requestFlow args reply =>
    obtain ⟨hstate, houtcome⟩ := @prepareRequest_of_not_failsOpen keccak256 s faults args hfile h
    obtain ⟨hflow, hnone⟩ := bind_of_not_ok houtcome _
    exact (bind_of_not_ok hnone _).1.trans (hflow.trans hstate)
  | confirmDeposit | pendingApiRequest | completePendingResponse | clearPendingRequest
  | recover | archiveNote => exact hprepares.elim

end

/-! ### Requests since the journal was cleared -/

/-- The requests that are outstanding after an event. -/
def Event.outstanding (earlier : List ApiRequestV2) : Event → List ApiRequestV2
  | .confirmed _ => earlier
  | .prepared _ request _ => earlier ++ [request]
  | .resent _ => earlier
  | .accepted _ _ _ => earlier
  | .cleared => []

/-- The requests that were prepared since the journal was given up last. -/
def sinceCleared (log : List Event) : List ApiRequestV2 :=
  log.foldl Event.outstanding []

/-- A request is not written over a journal, and no request since the journal was given up has
its nullifier. -/
def OneOutstanding (before : List Event) : Event → Prop
  | .prepared _ request replaced =>
    replaced = none
      ∧ ∀ earlier ∈ sinceCleared before,
        earlier.publicInputs.requestNullifier ≠ request.publicInputs.requestNullifier
  | _ => True

/-- A state that is installed has the nullifier of none of the requests since the journal was
given up. -/
def InstalledFresh (before : List Event) : Event → Prop
  | .confirmed state =>
    ∀ earlier ∈ sinceCleared before, earlier.publicInputs.requestNullifier ≠ state.nullifier
  | .accepted _ _ next =>
    ∀ earlier ∈ sinceCleared before, earlier.publicInputs.requestNullifier ≠ next.nullifier
  | _ => True

@[simp]
theorem sinceCleared_concat (log : List Event) (event : Event) :
  sinceCleared (log ++ [event]) = event.outstanding (sinceCleared log)
  := List.foldl_concat _ _ _ _

/-- A session whose journal covers the requests that are outstanding. -/
structure Covered (s : Session) : Prop where
  consistent : s.Consistent
  journal : ∀ state, s.disk.noteState = some state → ∀ earlier ∈ sinceCleared s.log,
    earlier.publicInputs.requestNullifier = state.nullifier → s.disk.pendingJournal ≠ none
  one : EachEntry OneOutstanding s.log

section

variable {keccak256 : List UInt8 → List UInt8} {Configured : ClientConfig → Prop} {s t : Session}

/-- A state that is installed fresh is covered by any journal. -/
theorem Covered.install {state : NoteState} {event : Event} (hs : Covered s)
    (hfresh : ∀ earlier ∈ sinceCleared s.log,
      earlier.publicInputs.requestNullifier ≠ state.nullifier)
    (hevent : ∀ earlier, event.outstanding earlier = earlier)
    (hone : OneOutstanding s.log event) (file : Option JournalFile) :
  Covered ((s.install state event).withJournal file)
  := by
  constructor
  case consistent => exact fun _ h => h
  case journal =>
    rintro _ ⟨⟩ earlier hearlier hsame
    change earlier ∈ sinceCleared (s.log ++ [event]) at hearlier
    rw [sinceCleared_concat, hevent] at hearlier
    exact absurd hsame (hfresh earlier hearlier)
  case one => exact eachEntry_concat.mpr ⟨hs.one, hone⟩

/-- Changes in which requests are prepared only where there is no journal keep the outstanding
requests covered. -/
theorem Change.covered (h : Change keccak256 (fun file => file = none) s t)
    (hfresh : EachEntry InstalledFresh t.log) (hs : Covered s) :
  Covered t
  := by
  cases h with
  | confirmed secret noteId depositAmount expiry random state hnone hstate =>
    have hone : OneOutstanding s.log (.confirmed state) := trivial
    exact hs.install (eachEntry_concat.mp hfresh).2 (fun _ => rfl) hone s.disk.pendingJournal
  | prepared args state request h hreplaced =>
    obtain ⟨hactive, hrequest⟩ := of_buildRequest_eq_ok h
    constructor
    case consistent => exact hs.consistent
    case journal =>
      rintro _ _ _ _ _ ⟨⟩
    case one =>
      have hone : OneOutstanding s.log (.prepared state request s.disk.pendingJournal) := by
        refine ⟨hreplaced, ?_⟩
        intro earlier hearlier hsame
        rw [hrequest] at hsame
        -- an earlier request would still be in the journal
        exact hs.journal state (hs.consistent state hactive) earlier hearlier hsame hreplaced
      exact eachEntry_concat.mpr ⟨hs.one, hone⟩
  | resent journal request hholds hrequest =>
    constructor
    case consistent => exact hs.consistent
    case journal =>
      intro state hstate earlier hearlier hsame
      change earlier ∈ sinceCleared (s.log ++ [.resent request]) at hearlier
      rw [sinceCleared_concat] at hearlier
      exact hs.journal state hstate earlier hearlier hsame
    case one => exact eachEntry_concat.mpr ⟨hs.one, trivial⟩
  | accepted journal state response next file =>
    have hone : OneOutstanding s.log (.accepted state response next) := trivial
    exact hs.install (eachEntry_concat.mp hfresh).2 (fun _ => rfl) hone file
  | cleared file =>
    constructor
    case consistent => exact hs.consistent
    case journal =>
      intro state _ earlier hearlier
      change earlier ∈ sinceCleared (s.log ++ [.cleared]) at hearlier
      rw [sinceCleared_concat] at hearlier
      cases hearlier
    case one => exact eachEntry_concat.mpr ⟨hs.one, trivial⟩
  | archived state file hstate hfile =>
    constructor
    case consistent =>
      rintro _ ⟨⟩
    case journal =>
      obtain rfl | rfl := hfile
      · exact hs.journal
      · rintro _ ⟨⟩
    case one => exact hs.one

theorem Move.covered (h : Move keccak256 Configured (fun file => file = none) s t)
    (hfresh : EachEntry InstalledFresh t.log) (hs : Covered s) :
  Covered t
  := by
  cases h with
  | changed t hchange => exact hchange.covered hfresh hs
  | loaded config state hconfig hstate => exact ⟨hstate, hs.journal, hs.one⟩
  | forgotten =>
    constructor
    case consistent =>
      rintro _ ⟨⟩
    case journal => exact hs.journal
    case one => exact hs.one
  | damaged =>
    constructor
    case consistent => exact hs.consistent
    case journal =>
      rintro _ _ _ _ _ ⟨⟩
    case one => exact hs.one

end

/-! ### Runs -/

/-- The steps in which no call that prepares a request takes a journal for missing. -/
def GuardedStep (keccak256 : List UInt8 → List UInt8) (Configured : ClientConfig → Prop)
    (m : Machine) (l : Label) (m' : Machine) : Prop :=
  Step keccak256 Configured m l m'
    ∧ ∀ c faults, l = .call c faults → c.Prepares → ¬ FailsOpen m.session faults

section

variable {keccak256 : List UInt8 → List UInt8} {Configured : ClientConfig → Prop}
  {m m' : Machine} {l : Label}

/-- In a guarded step, requests are prepared only where there is no journal. -/
theorem GuardedStep.moves (h : GuardedStep keccak256 Configured m l m') :
  Relation.ReflTransGen (Move keccak256 Configured fun file => file = none) m.session m'.session
  := by
  obtain ⟨hstep, hguard⟩ := h
  cases hstep with
  | started s config faults state hconfig hnew =>
    exact .single (.loaded config state hconfig (of_new_eq_ok hnew))
  | returned s c faults hreturned =>
    by_cases hblocked : c.Prepares ∧ s.disk.pendingJournal ≠ none
    · have hstate := @Call.program_of_not_failsOpen keccak256 s faults c hblocked.1 hblocked.2
        (hguard c faults rfl hblocked.1)
      rw [hstate]
    · apply Step.moves_call (.returned s c faults hreturned)
      intro hprepares
      by_contra hfile
      exact hblocked ⟨hprepares, hfile⟩
  | crashed s c faults hcrashed =>
    by_cases hblocked : c.Prepares ∧ s.disk.pendingJournal ≠ none
    · have hstate := @Call.program_of_not_failsOpen keccak256 s faults c hblocked.1 hblocked.2
        (hguard c faults rfl hblocked.1)
      rw [hstate]
      exact .single .forgotten
    · apply Step.moves_call (.crashed s c faults hcrashed)
      intro hprepares
      by_contra hfile
      exact hblocked ⟨hprepares, hfile⟩
  | killed s => exact .single .forgotten
  | damaged running s file failure hfile => exact .single (.damaged file failure hfile)

/-- In every run in which no call takes a journal for missing, and in which no state is installed
with the nullifier of an outstanding request, no request is written over a journal, and no two
requests carry one nullifier unless the journal was given up between them. -/
theorem outstanding_single {config : ClientConfig} {labels : List Label}
    (hrun : Run (GuardedStep keccak256 Configured) (Machine.initial config) labels m)
    (hfresh : EachEntry InstalledFresh m.session.log) :
  EachEntry OneOutstanding m.session.log
  := by
  have hcovered : EachEntry InstalledFresh m.session.log → Covered m.session := by
    apply @Run.invariant _ _ _ _ _ _
      (fun m => EachEntry InstalledFresh m.session.log → Covered m.session) hrun
    · intro _
      constructor
      case consistent =>
        rintro _ ⟨⟩
      case journal =>
        rintro _ ⟨⟩
      case one => exact eachEntry_nil
    · intro m l m' hm hstep
      apply @Move.induction _ _ _ _ _ (fun s => EachEntry InstalledFresh s.log → Covered s)
        hstep.moves hm
      intro s t hmove hs hfresh
      exact hmove.covered hfresh (hs (hfresh.of_prefix hmove.log_prefix))
  exact (hcovered hfresh).one

end

namespace NoteExample

theorem outstanding_requested :
  EachEntry OneOutstanding requested.log
  := by
  have hdeposited : GuardedStep Keccak.keccak256 (fun _ => True) (Machine.initial (config 5))
      (.call (.confirmDeposit 1 0 10 100 1) []) ⟨true, deposited⟩ := by
    refine ⟨step_deposited, ?_⟩
    rintro _ _ ⟨⟩ ⟨⟩
  have hrequested : GuardedStep Keccak.keccak256 (fun _ => True) ⟨true, deposited⟩
      (.call (.prepareRequest (prepareArgs 0)) []) ⟨true, requested⟩ := by
    refine ⟨step_requested, ?_⟩
    rintro _ _ ⟨⟩ _ ⟨hfile, _⟩
    exact hfile rfl
  have hlog : requested.log = ([] ++ [.confirmed state]) ++ [.prepared state (request 0) none] :=
    rfl
  apply outstanding_single ((Run.single hdeposited).snoc hrequested)
  rw [hlog, eachEntry_concat, eachEntry_concat]
  have hconfirmed : InstalledFresh [] (.confirmed state) := by
    rintro _ ⟨⟩
  exact ⟨⟨eachEntry_nil, hconfirmed⟩, trivial⟩

/-- The wallet after another request, written over the journal of the first. -/
def replaced : Session :=
  requested.withRequest (prepareArgs 1) state (request 1)

/-- When the file of the journal cannot be read, another request of the same state is written
over it. -/
theorem outstanding_not_single :
  Run (Step Keccak.keccak256 fun _ => True) (Machine.initial (config 5))
      [.call (.confirmDeposit 1 0 10 100 1) [], .call (.prepareRequest (prepareArgs 0)) [],
        .call (.prepareRequest (prepareArgs 1)) [.none, .error]]
      ⟨true, replaced⟩
    ∧ replaced.log = [.confirmed state, .prepared state (request 0) none,
      .prepared state (request 1) (some (.entry journal))]
    ∧ request 0 ≠ request 1
    ∧ (request 0).publicInputs.requestNullifier = (request 1).publicInputs.requestNullifier
    ∧ ¬ EachEntry OneOutstanding replaced.log
  := by
  have hlog : replaced.log = [.confirmed state, .prepared state (request 0) none,
      .prepared state (request 1) (some (.entry journal))] := rfl
  refine ⟨?_, hlog, ?_, rfl, ?_⟩
  · have hread : PendingRequestJournal.read requested [.none, .error]
        = ⟨.error ioError, requested, []⟩ := rfl
    have hpending : hasPendingRequest requested [.none, .error] = ⟨.ok false, requested, []⟩ := by
      rw [hasPendingRequest, bind_of_ok (attempt_of_error hread)]
      rfl
    have hbuild : buildRequest Keccak.keccak256 requested.config requested.state (prepareArgs 1)
        = .ok (state, request 1) := buildRequest_eq (by decide)
    have hprepare := prepareRequest_of_not_pending hpending (clear_nil 3) hbuild
    apply run_requested.snoc
    apply Step.of_ok
    rw [Call.program, bind_of_ok hprepare]
    rfl
  · intro hsame
    have htime := congrArg (fun request => request.publicInputs.requestTime) hsame
    change (0 : U64) = 1 at htime
    exact absurd htime (by decide)
  · intro hone
    obtain ⟨hreplaced, _⟩ := hone [.confirmed state, .prepared state (request 0) none]
      (.prepared state (request 1) (some (.entry journal))) [] hlog
    cases hreplaced

end NoteExample

end ZkApi.Client
