import ZkApi.Client.Transitions
import ZkApi.Library.Run

/-!
# Runs of the wallet

The wallet on its computer: processes are started and killed, operations are called and meet
faults, and the file of the journal may go bad.  A run is a sequence of such steps.  Every step
takes the session through moves, so that an invariant of the moves holds along every run.
-/

namespace ZkApi.Client

open FaultIO

/-! ### Calls -/

/-- A call of an operation, with what it is given, draws and is answered.  Withdrawals change
nothing and are left out. -/
inductive Call where
  | confirmDeposit (secret : Felt252) (noteId : U32) (depositAmount : U128) (expiry : U64)
      (random : EdwardsScalarField)
  | prepareRequest (args : PrepareArgs)
  | pendingApiRequest
  | completePendingResponse (response : RequestResponseV2)
  | clearPendingRequest
  | requestFlow (args : PrepareArgs) (reply : RequestReply)
  | recover (reply : RecoveryReply)
  | archiveNote

namespace Call

/-- The operation that is called.  What it returns is dropped. -/
def program (keccak256 : List UInt8 → List UInt8) : Call → Operation Unit
  | confirmDeposit secret noteId depositAmount expiry random =>
    Client.confirmDeposit secret noteId depositAmount expiry random
  | prepareRequest args => do let _ ← Client.prepareRequest keccak256 args
  | pendingApiRequest => do let _ ← Client.pendingApiRequest
  | completePendingResponse response => Client.completePendingResponse keccak256 response
  | clearPendingRequest => Client.clearPendingRequest
  | requestFlow args reply => do let _ ← Client.requestFlow keccak256 args reply
  | recover reply => do let _ ← Client.recover keccak256 reply
  | archiveNote => Client.archiveNote

/-- A call that prepares a request. -/
def Prepares : Call → Prop
  | prepareRequest _ => True
  | requestFlow _ _ => True
  | _ => False

end Call

variable {keccak256 : List UInt8 → List UInt8} {Replaceable : Option JournalFile → Prop}
  {s t : Session}

theorem runs_call (c : Call) (hreplaced : c.Prepares → Replaceable s.disk.pendingJournal) :
  Runs keccak256 Replaceable (c.program keccak256) s
  := by
  have hdrop : ∀ {α : Type} {p : Operation α}, Runs keccak256 Replaceable p s →
      Runs keccak256 Replaceable (do let _ ← p) s := by
    intro α p h
    exact h.bind fun _ _ => runs_pure
  cases c with
  | confirmDeposit => apply runs_confirmDeposit
  | prepareRequest args => exact hdrop (runs_prepareRequest args (hreplaced trivial))
  | pendingApiRequest => exact hdrop runs_pendingApiRequest
  | completePendingResponse => apply runs_completePendingResponse
  | clearPendingRequest => apply runs_clearPendingRequest
  | requestFlow args reply => exact hdrop (runs_requestFlow args reply (hreplaced trivial))
  | recover reply => exact hdrop (runs_recover reply)
  | archiveNote => apply runs_archiveNote

/-! ### Steps -/

/-- The wallet on its computer: whether its process runs, and the session.  When the process
does not run, the session has no state in memory. -/
structure Machine where
  running : Bool
  session : Session

/-- A session without its state in memory. -/
def Session.forget (s : Session) : Session :=
  { s with state := none }

/-- A session with a configuration and a state in memory. -/
def Session.load (s : Session) (config : ClientConfig) (state : Option NoteState) : Session :=
  { s with
    config
    state }

/-- A wallet that was started where there are no files. -/
def Machine.initial (config : ClientConfig) : Machine where
  running := true
  session := {
    config
    state := none
    disk := {
      noteState := none
      pendingJournal := none }
    log := [] }

/-- What happens to a wallet. -/
inductive Label where
  | start (config : ClientConfig) (faults : List Fault)
  | call (c : Call) (faults : List Fault)
  | kill
  | damage (failure : Failure)

/-- The steps of a wallet that is started with certain configurations. -/
inductive Step (keccak256 : List UInt8 → List UInt8) (Configured : ClientConfig → Prop) :
    Machine → Label → Machine → Prop
  | started (s : Session) (config : ClientConfig) (faults : List Fault) (state : Option NoteState)
      (hconfig : Configured config) (h : (new s.disk faults).outcome = .ok state) :
      Step keccak256 Configured ⟨false, s⟩ (.start config faults) ⟨true, s.load config state⟩
  | returned (s : Session) (c : Call) (faults : List Fault)
      (h : (c.program keccak256 s faults).outcome ≠ .crash) :
      Step keccak256 Configured ⟨true, s⟩ (.call c faults)
        ⟨true, (c.program keccak256 s faults).state⟩
  | crashed (s : Session) (c : Call) (faults : List Fault)
      (h : (c.program keccak256 s faults).outcome = .crash) :
      Step keccak256 Configured ⟨true, s⟩ (.call c faults)
        ⟨false, (c.program keccak256 s faults).state.forget⟩
  | killed (s : Session) : Step keccak256 Configured ⟨true, s⟩ .kill ⟨false, s.forget⟩
  | damaged (running : Bool) (s : Session) (file : JournalFile) (failure : Failure)
      (h : s.disk.pendingJournal = some file) :
      Step keccak256 Configured ⟨running, s⟩ (.damage failure)
        ⟨running, s.withJournal (some (.malformed failure))⟩

/-! ### Moves -/

/-- The moves of a session: the changes that operations make, and what happens to a process and
to the file of the journal. -/
inductive Move (keccak256 : List UInt8 → List UInt8) (Configured : ClientConfig → Prop)
    (Replaceable : Option JournalFile → Prop) (s : Session) : Session → Prop
  | changed (t : Session) (h : Change keccak256 Replaceable s t) :
      Move keccak256 Configured Replaceable s t
  | loaded (config : ClientConfig) (state : Option NoteState) (hconfig : Configured config)
      (hstate : ∀ loaded, state = some loaded → s.disk.noteState = some loaded) :
      Move keccak256 Configured Replaceable s (s.load config state)
  | forgotten : Move keccak256 Configured Replaceable s s.forget
  | damaged (file : JournalFile) (failure : Failure) (h : s.disk.pendingJournal = some file) :
      Move keccak256 Configured Replaceable s (s.withJournal (some (.malformed failure)))

/-- What is loaded is what is on disk. -/
theorem of_new_eq_ok {disk : Disk} {faults : List Fault} {state : Option NoteState}
    (h : (new disk faults).outcome = .ok state) :
  ∀ loaded, state = some loaded → disk.noteState = some loaded
  := by
  have hnew : wp new (fun o _ => ∀ state, o = .ok state →
      ∀ loaded, state = some loaded → disk.noteState = some loaded) disk := by
    apply wp_bind
    apply wp_access
    case herror | hcrash =>
      rintro _ ⟨⟩
    apply wp_bind
    apply wp_access
    case herror | hcrash =>
      rintro _ ⟨⟩
    apply wp_bind
    apply wp_probe
    case hcrash =>
      rintro _ ⟨⟩
    case hno =>
      apply wp_pure
      rintro _ ⟨⟩ _ ⟨⟩
    intro _
    apply wp_bind
    apply wp_access
    case herror | hcrash =>
      rintro _ ⟨⟩
    apply wp_bind
    apply wp_get
    apply wp_bind
    apply wp_ofExcept
    case herror =>
      rintro _ _ _ ⟨⟩
    intro stored hstored
    apply wp_bind
    apply wp_ofExcept
    case herror =>
      rintro _ _ _ ⟨⟩
    intro reloaded hreloaded
    rw [mapErr_eq_ok] at hreloaded
    obtain ⟨_, rfl⟩ := NoteState.reload_eq_ok.mp hreloaded
    apply wp_pure
    rintro _ ⟨⟩ _ ⟨⟩
    exact okOr_eq_ok.mp hstored
  exact hnew faults state h

variable {Configured : ClientConfig → Prop} {m m' : Machine} {l : Label} {ls : List Label}

/-- A call that may prepare a request in place of the journal takes the session through moves,
whether it returns or is cut off. -/
theorem Step.moves_call {running : Bool} {c : Call} {faults : List Fault}
    (h : Step keccak256 Configured ⟨running, s⟩ (.call c faults) m')
    (hreplaced : c.Prepares → Replaceable s.disk.pendingJournal) :
  Relation.ReflTransGen (Move keccak256 Configured Replaceable) s m'.session
  := by
  have hmoves : Relation.ReflTransGen (Move keccak256 Configured Replaceable) s
      (c.program keccak256 s faults).state := by
    apply Relation.ReflTransGen.mono _ _ _ (@runs_call keccak256 Replaceable s c hreplaced faults)
    exact fun _ => Move.changed
  cases h with
  | returned => exact hmoves
  | crashed => exact hmoves.tail .forgotten

/-- A call that returns is a step. -/
theorem Step.of_ok {c : Call} {faults rest : List Fault}
    (h : c.program keccak256 s faults = ⟨.ok (), t, rest⟩) :
  Step keccak256 Configured ⟨true, s⟩ (.call c faults) ⟨true, t⟩
  := by
  have hstep := @Step.returned keccak256 Configured s c faults
  rw [h] at hstep
  apply hstep
  rintro ⟨⟩

/-- Every step takes the session through moves. -/
theorem Step.moves (h : Step keccak256 Configured m l m') :
  Relation.ReflTransGen (Move keccak256 Configured fun _ => True) m.session m'.session
  := by
  cases h with
  | started s config faults state hconfig hnew =>
    exact .single (.loaded config state hconfig (of_new_eq_ok hnew))
  | returned s c faults hreturned =>
    apply Step.moves_call (.returned s c faults hreturned)
    exact fun _ => trivial
  | crashed s c faults hcrashed =>
    apply Step.moves_call (.crashed s c faults hcrashed)
    exact fun _ => trivial
  | killed s => exact .single .forgotten
  | damaged running s file failure hfile => exact .single (.damaged file failure hfile)

/-- A history only grows, at its end. -/
theorem Move.log_prefix (h : Move keccak256 Configured Replaceable s t) :
  s.log <+: t.log
  := by
  cases h with
  | changed t hchange =>
    cases hchange with
    | confirmed | prepared | resent | accepted | cleared => apply List.prefix_append
    | archived => apply List.prefix_rfl
  | loaded | forgotten | damaged => apply List.prefix_rfl

/-- A property that every move preserves holds after every sequence of moves. -/
theorem Move.induction {P : Session → Prop}
    (h : Relation.ReflTransGen (Move keccak256 Configured Replaceable) s t) (h0 : P s)
    (hmove : ∀ s t, Move keccak256 Configured Replaceable s t → P s → P t) :
  P t
  := by
  induction h with
  | refl => exact h0
  | tail _ hlast ih => exact hmove _ _ hlast ih

/-- A property that every move preserves holds along every run. -/
theorem invariant_of_moves {P : Session → Prop} (h : Run (Step keccak256 Configured) m ls m')
    (h0 : P m.session)
    (hmove : ∀ s t, Move keccak256 Configured (fun _ => True) s t → P s → P t) :
  P m'.session
  := by
  apply @Run.invariant _ _ _ _ _ _ (fun m => P m.session) h h0
  intro t l u ht hstep
  exact Move.induction hstep.moves ht hmove

end ZkApi.Client
