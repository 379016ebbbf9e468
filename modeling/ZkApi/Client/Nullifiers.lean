import Mathlib.Data.Set.Function
import ZkApi.Client.Provable

/-!
# Nullifiers of a note

The nullifier of a state is exposed by the requests that are prepared from it.  Neither the
native wallet nor the browser compares the next anchor of a response with those before it, so
that a response can lead to a state whose nullifier is exposed already.  It does exactly when
its anchor is one of those that requests of the note were prepared for.
-/

namespace ZkApi.Client

open ZkApi.Compact Poseidon

/-! ### Histories of a note -/

/-- The requests that are prepared for the note, with their states, after an event. -/
def Event.prepares (earlier : List (NoteState × ApiRequestV2)) :
    Event → List (NoteState × ApiRequestV2)
  | .confirmed _ => []
  | .prepared state request _ => earlier ++ [(state, request)]
  | .resent _ => earlier
  | .accepted _ _ _ => earlier
  | .cleared => earlier

/-- The requests that were prepared for the note that was deposited last, with their states. -/
def preparedForNote (log : List Event) : List (NoteState × ApiRequestV2) :=
  log.foldl Event.prepares []

/-- The nullifier of an accepted state is that of none of the requests before. -/
def NullifierFresh (before : List Event) : Event → Prop
  | .accepted _ _ next =>
    ∀ p ∈ preparedForNote before, next.nullifier ≠ p.2.publicInputs.requestNullifier
  | _ => True

/-- The anchor of an accepted response is that of none of the states that requests were
prepared from before. -/
def AnchorFresh (before : List Event) : Event → Prop
  | .accepted _ response _ =>
    ∀ p ∈ preparedForNote before, residue response.nextAnchor ≠ residue p.1.currentAnchor
  | _ => True

/-- An accepted state has the anchor of the response and the secret of the requests before. -/
def AcceptedFollows (before : List Event) : Event → Prop
  | .accepted _ response next =>
    next.currentAnchor = response.nextAnchor
      ∧ ∀ p ∈ preparedForNote before, p.1.secretS = next.secretS
        ∧ p.2.publicInputs.requestNullifier = p.1.nullifier
  | _ => True

/-- What the history of a wallet has in common with its state. -/
structure Follows (current : Option NoteState) (log : List Event) : Prop where
  secret : ∀ state, current = some state →
    ∀ p ∈ preparedForNote log, p.1.secretS = state.secretS
  nullifier : ∀ p ∈ preparedForNote log, p.2.publicInputs.requestNullifier = p.1.nullifier
  accepted : EachEntry AcceptedFollows log

section

variable {log : List Event}

@[simp]
theorem preparedForNote_concat (log : List Event) (event : Event) :
  preparedForNote (log ++ [event]) = event.prepares (preparedForNote log)
  := List.foldl_concat _ _ _ _

theorem exists_prepared_of_mem {p : NoteState × ApiRequestV2} (h : p ∈ preparedForNote log) :
  ∃ replaced, .prepared p.1 p.2 replaced ∈ log
  := by
  induction log using List.reverseRecOn with
  | nil => cases h
  | append_singleton log event ih =>
    have hearlier : p ∈ preparedForNote log →
        ∃ replaced, .prepared p.1 p.2 replaced ∈ log ++ [event] := by
      intro hp
      obtain ⟨replaced, hreplaced⟩ := ih hp
      exact ⟨replaced, List.mem_append_left _ hreplaced⟩
    rw [preparedForNote_concat] at h
    cases event with
    | confirmed => cases h
    | prepared state request replaced =>
      obtain h | h := List.mem_append.mp h
      · exact hearlier h
      · obtain rfl := List.mem_singleton.mp h
        exact ⟨replaced, List.mem_append_right _ (.head _)⟩
    | resent | accepted | cleared => exact hearlier h

variable {current : Option NoteState} {state next : NoteState}

theorem follows_nil :
  Follows current []
  := by
  constructor
  case secret =>
    rintro _ _ _ ⟨⟩
  case nullifier =>
    rintro _ ⟨⟩
  case accepted => exact eachEntry_nil

/-- The state may be lost. -/
theorem Follows.lose (h : Follows current log) :
  Follows none log
  := by
  constructor
  case secret =>
    rintro _ ⟨⟩
  case nullifier => exact h.nullifier
  case accepted => exact h.accepted

theorem Follows.confirmed (h : Follows current log) (state : NoteState) :
  Follows (some state) (log ++ [.confirmed state])
  := by
  constructor
  case secret =>
    intro _ _ p hp
    rw [preparedForNote_concat] at hp
    cases hp
  case nullifier =>
    intro p hp
    rw [preparedForNote_concat] at hp
    cases hp
  case accepted => exact eachEntry_concat.mpr ⟨h.accepted, trivial⟩

/-- A request is prepared from the current state, with its nullifier. -/
theorem Follows.prepared {request : ApiRequestV2} (h : Follows (some state) log)
    (hrequest : request.publicInputs.requestNullifier = state.nullifier)
    (replaced : Option JournalFile) :
  Follows (some state) (log ++ [.prepared state request replaced])
  := by
  constructor
  case secret =>
    rintro _ ⟨⟩ p hp
    rw [preparedForNote_concat] at hp
    obtain hp | hp := List.mem_append.mp hp
    · exact h.secret state rfl p hp
    · obtain rfl := List.mem_singleton.mp hp
      rfl
  case nullifier =>
    intro p hp
    rw [preparedForNote_concat] at hp
    obtain hp | hp := List.mem_append.mp hp
    · exact h.nullifier p hp
    · obtain rfl := List.mem_singleton.mp hp
      exact hrequest
  case accepted => exact eachEntry_concat.mpr ⟨h.accepted, trivial⟩

/-- A response leads to a state of the same note, with the anchor of the response. -/
theorem Follows.accept {response : RequestResponseV2} (h : Follows (some state) log)
    (hsecret : next.secretS = state.secretS) (hanchor : next.currentAnchor = response.nextAnchor) :
  Follows (some next) (log ++ [.accepted state response next])
  := by
  have hnext : ∀ p ∈ preparedForNote log, p.1.secretS = next.secretS := by
    intro p hp
    rw [hsecret]
    exact h.secret state rfl p hp
  constructor
  case secret =>
    rintro _ ⟨⟩ p hp
    rw [preparedForNote_concat] at hp
    exact hnext p hp
  case nullifier =>
    intro p hp
    rw [preparedForNote_concat] at hp
    exact h.nullifier p hp
  case accepted =>
    have hfollows : AcceptedFollows log (.accepted state response next) :=
      ⟨hanchor, fun p hp => ⟨hnext p hp, h.nullifier p hp⟩⟩
    exact eachEntry_concat.mpr ⟨h.accepted, hfollows⟩

theorem Follows.resent (h : Follows current log) (request : ApiRequestV2) :
  Follows current (log ++ [.resent request])
  := by
  constructor
  case secret =>
    rw [preparedForNote_concat]
    exact h.secret
  case nullifier =>
    rw [preparedForNote_concat]
    exact h.nullifier
  case accepted => exact eachEntry_concat.mpr ⟨h.accepted, trivial⟩

theorem Follows.cleared (h : Follows current log) :
  Follows current (log ++ [.cleared])
  := by
  constructor
  case secret =>
    rw [preparedForNote_concat]
    exact h.secret
  case nullifier =>
    rw [preparedForNote_concat]
    exact h.nullifier
  case accepted => exact eachEntry_concat.mpr ⟨h.accepted, trivial⟩

end

/-! ### Runs of the native wallet -/

section

variable {keccak256 : List UInt8 → List UInt8} {Configured : ClientConfig → Prop}
  {Replaceable : Option JournalFile → Prop} {s t : Session}

/-- A request is built from the state in memory, with its nullifier. -/
theorem of_buildRequest_eq_ok {config : ClientConfig} {active : Option NoteState}
    {args : PrepareArgs} {state : NoteState} {request : ApiRequestV2}
    (h : buildRequest keccak256 config active args = .ok (state, request)) :
  active = some state ∧ request.publicInputs.requestNullifier = state.nullifier
  := by
  simp only [buildRequest, bind_eq_ok, okOr_eq_ok, pure, Except.pure, Except.ok.injEq,
    Prod.mk.injEq] at h
  obtain ⟨_, _, _, _, _, hactive, _, _, _, _, _, _, _, _, _, _, _, _, _, _, _, _, rfl, rfl⟩ := h
  exact ⟨hactive, rfl⟩

/-- What is in memory is on disk. -/
def Session.Consistent (s : Session) : Prop :=
  ∀ state, s.state = some state → s.disk.noteState = some state

theorem Move.consistent (h : Move keccak256 Configured Replaceable s t) (hs : s.Consistent) :
  t.Consistent
  := by
  cases h with
  | changed t hchange =>
    cases hchange with
    | confirmed | accepted => exact fun _ h => h
    | prepared | resent | cleared => exact hs
    | archived =>
      rintro _ ⟨⟩
  | loaded config state hconfig hstate => exact hstate
  | forgotten =>
    rintro _ ⟨⟩
  | damaged => exact hs

/-- Every move leaves a history that follows the state on disk. -/
theorem Move.follows (h : Move keccak256 Configured Replaceable s t) (hs : s.Consistent)
    (hfollows : Follows s.disk.noteState s.log) :
  Follows t.disk.noteState t.log
  := by
  cases h with
  | changed t hchange =>
    cases hchange with
    | confirmed => exact hfollows.confirmed _
    | prepared args state request h =>
      obtain ⟨hactive, hrequest⟩ := of_buildRequest_eq_ok h
      have hstate := hs state hactive
      show Follows s.disk.noteState _
      rw [hstate] at hfollows ⊢
      exact hfollows.prepared hrequest _
    | resent => exact hfollows.resent _
    | accepted journal state response next file hholds hstate h =>
      rw [hs state hstate] at hfollows
      obtain ⟨_, _, _, _, rfl⟩ := settle_eq_ok.mp h
      exact hfollows.accept rfl rfl
    | cleared => exact hfollows.cleared
    | archived state file hstate hfile =>
      obtain rfl | rfl := hfile
      · exact hfollows
      · exact hfollows.lose
  | loaded | forgotten | damaged => exact hfollows

theorem run_follows {config : ClientConfig} {labels : List Label} {m : Machine}
    (h : Run (Step keccak256 Configured) (Machine.initial config) labels m) :
  Follows m.session.disk.noteState m.session.log
  := by
  have hboth : m.session.Consistent ∧ Follows m.session.disk.noteState m.session.log := by
    apply @invariant_of_moves _ _ _ _ _
      (fun s => s.Consistent ∧ Follows s.disk.noteState s.log) h
    · constructor
      · rintro _ ⟨⟩
      · exact follows_nil
    · rintro s t hmove ⟨hs, hfollows⟩
      exact ⟨hmove.consistent hs, hmove.follows hs hfollows⟩
  exact hboth.2

end

end ZkApi.Client

/-! ### Runs of the browser -/

namespace ZkApi.Browser

open ZkApi.Compact Client

/-- What the host of the browser keeps, with the history. -/
structure Host where
  state : Option BrowserNoteState
  journal : Option PendingRequestJournal
  log : List Event

/-- A host with a new state and no journal. -/
def Host.install (host : Host) (state : BrowserNoteState) (event : Event) : Host where
  state := some state
  journal := none
  log := host.log ++ [event]

/-- The steps of a host: it stores what the operations return, and may give up its journal. -/
inductive Step (keccak256 : List UInt8 → List UInt8) (host : Host) : Host → Prop
  | confirmed (config : BrowserWalletConfig) (args : ConfirmDepositArgs)
      (random : EdwardsScalarField) (state : BrowserNoteState)
      (h : confirmDeposit config args random = .ok state) :
      Step keccak256 host (host.install state (.confirmed state))
  | prepared (config : BrowserWalletConfig) (state : BrowserNoteState)
      (args : PrepareRequestArgs) (random : EdwardsScalarField)
      (proved : Except Failure Groth16ProofWire) (request : ApiRequestV2)
      (journal : PendingRequestJournal) (hstate : host.state = some state)
      (h : prepareRequestWithProver keccak256 config state args random proved
        = .ok (request, journal)) :
      Step keccak256 host { host with
        journal := some journal
        log := host.log ++ [.prepared state request none] }
  | accepted (config : BrowserWalletConfig) (state : BrowserNoteState)
      (journal : PendingRequestJournal) (response : RequestResponseV2) (next : BrowserNoteState)
      (hstate : host.state = some state) (hjournal : host.journal = some journal)
      (h : completeResponse keccak256 config ⟨state, journal, response⟩ = .ok next) :
      Step keccak256 host (host.install next (.accepted state response next))
  | cleared :
      Step keccak256 host { host with
        journal := none
        log := host.log ++ [.cleared] }

/-- A host that keeps nothing. -/
def Host.initial : Host where
  state := none
  journal := none
  log := []

variable {keccak256 : List UInt8 → List UInt8} {host host' : Host}

/-- A request is built with the nullifier of the state. -/
theorem of_prepareRequest_eq_ok {config : BrowserWalletConfig} {state : BrowserNoteState}
    {args : PrepareRequestArgs} {random : EdwardsScalarField}
    {proved : Except Failure Groth16ProofWire} {request : ApiRequestV2}
    {journal : PendingRequestJournal}
    (h : prepareRequestWithProver keccak256 config state args random proved
      = .ok (request, journal)) :
  request.publicInputs.requestNullifier = state.nullifier
  := by
  simp only [prepareRequestWithProver, bind_eq_ok, pure, Except.pure] at h
  obtain ⟨_, _, _, _, _, _, _, _, _, _, _, _, _, _, _, _, _, _, h⟩ := h
  split at h
  · obtain ⟨rfl, _⟩ := Prod.mk.inj (Except.ok.inj h)
    rfl
  · cases h
  · cases h

theorem Step.follows (h : Step keccak256 host host') (hfollows : Follows host.state host.log) :
  Follows host'.state host'.log
  := by
  cases h with
  | confirmed => exact hfollows.confirmed _
  | prepared config state args random proved request journal hstate h =>
    show Follows host.state _
    rw [hstate] at hfollows ⊢
    exact hfollows.prepared (of_prepareRequest_eq_ok h) none
  | accepted config state journal response next hstate hjournal h =>
    rw [hstate] at hfollows
    obtain ⟨_, _, _, _, _, rfl⟩ := completeResponse_eq_ok.mp h
    exact hfollows.accept rfl rfl
  | cleared => exact hfollows.cleared

theorem run_follows (h : Relation.ReflTransGen (Step keccak256) Host.initial host) :
  Follows host.state host.log
  := by
  induction h with
  | refl => exact follows_nil
  | tail _ hlast ih => exact hlast.follows ih

end ZkApi.Browser

/-! ### Exposed nullifiers -/

namespace ZkApi.Client

open ZkApi.Compact Poseidon FaultIO

/-- What is hashed to the nullifier of a state. -/
def nullifierInput (state : NoteState) : List Fr :=
  [domain "zkapi.v2.null", residue state.secretS, residue state.currentAnchor]

/-- The state that an event is about. -/
def Event.subject : Event → Option NoteState
  | .confirmed state => some state
  | .prepared state _ _ => some state
  | .accepted _ _ next => some next
  | .resent _ => none
  | .cleared => none

/-- What is hashed to the nullifiers of a history. -/
def nullifierInputs (log : List Event) : Set (List Fr) :=
  { inputs | ∃ event ∈ log, ∃ state, event.subject = some state ∧ nullifierInput state = inputs }

/-- The history of a run of the native wallet, or of a host of the browser. -/
def IsHistory (keccak256 : List UInt8 → List UInt8) (log : List Event) : Prop :=
  (∃ Configured config labels m,
      Run (Step keccak256 Configured) (Machine.initial config) labels m ∧ m.session.log = log)
    ∨ ∃ host, Relation.ReflTransGen (Browser.Step keccak256) Browser.Host.initial host
      ∧ host.log = log

section

variable {keccak256 : List UInt8 → List UInt8} {log : List Event}

theorem IsHistory.accepted (h : IsHistory keccak256 log) :
  EachEntry AcceptedFollows log
  := by
  obtain ⟨_, _, _, m, hrun, rfl⟩ | ⟨host, hrun, rfl⟩ := h
  · exact (run_follows hrun).accepted
  · exact (Browser.run_follows hrun).accepted

theorem residue_nullifier (state : NoteState) :
  residue state.nullifier = poseidonHash (nullifierInput state)
  := Core.residue_nullifier _ _

/-- The nullifiers of states with one secret are equal exactly when their anchors are, as far as
the hash is injective on them. -/
theorem nullifier_eq_iff {inputs : Set (List Fr)} {a b : NoteState}
    (hposeidon : Set.InjOn poseidonHash inputs) (ha : nullifierInput a ∈ inputs)
    (hb : nullifierInput b ∈ inputs) (hsecret : a.secretS = b.secretS) :
  a.nullifier = b.nullifier ↔ residue a.currentAnchor = residue b.currentAnchor
  := by
  constructor
  · intro h
    have hhash : poseidonHash (nullifierInput a) = poseidonHash (nullifierInput b) := by
      rw [← residue_nullifier, ← residue_nullifier, h]
    have hinput := hposeidon ha hb hhash
    simp only [nullifierInput, List.cons.injEq] at hinput
    exact hinput.2.2.1
  · intro h
    have hinput : nullifierInput a = nullifierInput b := by
      rw [nullifierInput, nullifierInput, hsecret, h]
    have hhash : ∀ state : NoteState,
        state.nullifier = word (poseidonHash (nullifierInput state)) := fun _ => rfl
    rw [hhash, hhash, hinput]

/-- The states that a wallet accepts have nullifiers that were not exposed before exactly when
the anchors of the responses are not those of states that requests were prepared from. -/
theorem nullifiers_fresh_iff (hlog : IsHistory keccak256 log)
    (hposeidon : Set.InjOn poseidonHash (nullifierInputs log)) :
  EachEntry NullifierFresh log ↔ EachEntry AnchorFresh log
  := by
  have hsame : ∀ before state response next after,
      log = before ++ .accepted state response next :: after →
      ∀ p ∈ preparedForNote before,
        next.nullifier = p.2.publicInputs.requestNullifier
          ↔ residue response.nextAnchor = residue p.1.currentAnchor := by
    intro before state response next after hsplit p hp
    obtain ⟨hanchor, hfollows⟩ := hlog.accepted before _ after hsplit
    obtain ⟨hsecret, hrequest⟩ := hfollows p hp
    obtain ⟨replaced, hprepared⟩ := exists_prepared_of_mem hp
    have hnext : nullifierInput next ∈ nullifierInputs log := by
      refine ⟨.accepted state response next, ?_, next, rfl, rfl⟩
      rw [hsplit]
      exact List.mem_append_right _ (.head _)
    have hspent : nullifierInput p.1 ∈ nullifierInputs log := by
      refine ⟨.prepared p.1 p.2 replaced, ?_, p.1, rfl, rfl⟩
      rw [hsplit]
      exact List.mem_append_left _ hprepared
    rw [hrequest, ← hanchor]
    exact nullifier_eq_iff hposeidon hnext hspent hsecret.symm
  constructor
  · intro h before event after hsplit
    cases event with
    | accepted state response next =>
      intro p hp hanchor
      apply h before _ after hsplit p hp
      exact (hsame before state response next after hsplit p hp).mpr hanchor
    | confirmed | prepared | resent | cleared => trivial
  · intro h before event after hsplit
    cases event with
    | accepted state response next =>
      intro p hp hnullifier
      apply h before _ after hsplit p hp
      exact (hsame before state response next after hsplit p hp).mp hnullifier
    | confirmed | prepared | resent | cleared => trivial

end

namespace NoteExample

/-- The wallet after a request of the deposit. -/
def requested : Session :=
  deposited.withRequest (prepareArgs 0) state (request 0)

/-- The journal of the request. -/
def journal : PendingRequestJournal :=
  journalEntry (prepareArgs 0) state.nullifier (request 0)

theorem step_requested {Configured : ClientConfig → Prop} :
  Step Keccak.keccak256 Configured ⟨true, deposited⟩ (.call (.prepareRequest (prepareArgs 0)) [])
    ⟨true, requested⟩
  := by
  have hpending : hasPendingRequest deposited [] = ⟨.ok false, deposited, []⟩ :=
    hasPendingRequest_of_none (clear_nil 1) rfl
  have hbuild : buildRequest Keccak.keccak256 deposited.config deposited.state (prepareArgs 0)
      = .ok (state, request 0) := buildRequest_eq (by decide)
  have hprepare := prepareRequest_of_not_pending hpending (clear_nil 3) hbuild
  apply Step.of_ok
  rw [Call.program, bind_of_ok hprepare]
  rfl

theorem run_requested {Configured : ClientConfig → Prop} :
  Run (Step Keccak.keccak256 Configured) (Machine.initial (config 5))
    [.call (.confirmDeposit 1 0 10 100 1) [], .call (.prepareRequest (prepareArgs 0)) []]
    ⟨true, requested⟩
  := (Run.single step_deposited).snoc step_requested

theorem holds_requested :
  requested.disk.Holds journal
  := by
  constructor
  case file | pending => rfl
  case canonical =>
    constructor
    case nullifier => apply Core.canonical_hashDomain
    case payloadHash => decide +kernel
    case userRerandomization => apply canonical_scalarToFelt
    case preparedRequest =>
      rintro _ ⟨⟩
      constructor
      case payloadHash => decide +kernel
      case publicInputs =>
        constructor
        case contractAddress => decide +kernel
        case activeRoot =>
          apply Core.canonical_computeRoot
          apply Core.canonical_hashDomain
        case requestNullifier | authorizationTag => apply Core.canonical_hashDomain
        all_goals apply canonical_word

/-- A response with a charge of 3, for its anchor. -/
def response (anchor : Felt252) : RequestResponseV2 :=
  answer (.fromSeed 1) state "request" state.nullifier
    (anonymousCommitment state (scalarToFelt 1) (scalarToFelt 1)) (answerArgs 3 anchor 0)

/-- The state that the response leads to. -/
def next (anchor : Felt252) : NoteState :=
  settled state (scalarToFelt 1) (response anchor) (scalarToFelt 1)

theorem settle_response {anchor : Felt252} (h : anchor ≠ 0) :
  settle Keccak.keccak256 (config 5) state journal (response anchor) = .ok (state, next anchor)
  := by
  have hcharge : (answerArgs 3 anchor 0).charge ≤ state.currentBalance := by
    show (3 : U128) ≤ state.currentBalance
    decide +kernel
  have hcap : (response anchor).chargeApplied ≤ (config 5).chargeCap := by
    show (3 : U128) ≤ (config 5).chargeCap
    decide +kernel
  apply settle_eq_ok.mpr
  exact ⟨scalarToFelt 1, settles_answer stored responseHash_eq h hcharge, hcap, rfl, rfl⟩

/-- The wallet after the response. -/
def accepted (anchor : Felt252) : Session :=
  (requested.install (next anchor) (.accepted state (response anchor) (next anchor))).withJournal
    none

theorem run_accepted {Configured : ClientConfig → Prop} {anchor : Felt252} (h : anchor ≠ 0) :
  Run (Step Keccak.keccak256 Configured) (Machine.initial (config 5))
    [.call (.confirmDeposit 1 0 10 100 1) [], .call (.prepareRequest (prepareArgs 0)) [],
      .call (.completePendingResponse (response anchor)) []]
    ⟨true, accepted anchor⟩
  := by
  have hcomplete := completePendingResponse_of_clear (clear_nil 7) holds_requested rfl
    (settle_response h)
  apply run_requested.snoc
  exact Step.of_ok hcomplete

theorem isHistory {anchor : Felt252} (h : anchor ≠ 0) :
  IsHistory Keccak.keccak256 (accepted anchor).log
  := .inl ⟨fun _ => True, _, _, _, run_accepted h, rfl⟩

/-- What is hashed to nullifiers before and after the response. -/
theorem nullifierInputs_accepted (anchor : Felt252) :
  nullifierInputs (accepted anchor).log
    ⊆ {[domain "zkapi.v2.null", 1, 1], [domain "zkapi.v2.null", 1, residue anchor]}
  := by
  have hone : residue (1 : Felt252) = 1 := Nat.cast_one
  have hstate : nullifierInput state = [domain "zkapi.v2.null", 1, 1] := by
    rw [← hone]
    rfl
  have hnext : nullifierInput (next anchor) = [domain "zkapi.v2.null", 1, residue anchor] := by
    rw [← hone]
    rfl
  have hlog : (accepted anchor).log = [.confirmed state, .prepared state (request 0) none,
      .accepted state (response anchor) (next anchor)] := rfl
  rintro _ ⟨event, hevent, subject, hsubject, rfl⟩
  rw [hlog] at hevent
  simp only [List.mem_cons, List.not_mem_nil, or_false] at hevent
  obtain rfl | rfl | rfl := hevent
  · obtain rfl := Option.some.inj hsubject
    exact .inl hstate
  · obtain rfl := Option.some.inj hsubject
    exact .inl hstate
  · obtain rfl := Option.some.inj hsubject
    exact .inr hnext

theorem poseidonHash_genesis :
  poseidonHash [domain "zkapi.v2.null", 1, 1]
    = 12502357008354970378861618837555950429588003609831476828989554225505695857903
  := poseidonHash_eq_of_value (by decide +kernel)

theorem poseidonHash_next :
  poseidonHash [domain "zkapi.v2.null", 1, 2]
    = 2129718978248107121441545502410196578432305501072725187370137988120248236823
  := poseidonHash_eq_of_value (by decide +kernel)

/-- With an anchor of its own, the next state has a nullifier that was not exposed. -/
theorem nullifiers_fresh_two :
  EachEntry NullifierFresh (accepted 2).log
  := by
  have hposeidon : Set.InjOn poseidonHash (nullifierInputs (accepted 2).log) := by
    apply Set.InjOn.mono (nullifierInputs_accepted 2)
    have htwo : residue (2 : Felt252) = 2 := Nat.cast_two
    rw [htwo, Set.injOn_pair, poseidonHash_genesis, poseidonHash_next]
    intro h
    exact absurd h (by decide +kernel)
  apply (nullifiers_fresh_iff (isHistory (by decide)) hposeidon).mpr
  have hlog : (accepted 2).log = (([] ++ [.confirmed state]) ++ [.prepared state (request 0) none])
      ++ [.accepted state (response 2) (next 2)] := rfl
  have hprepared :
      preparedForNote (([] ++ [.confirmed state]) ++ [.prepared state (request 0) none])
        = [(state, request 0)] := rfl
  rw [hlog, eachEntry_concat, eachEntry_concat, eachEntry_concat]
  refine ⟨⟨⟨eachEntry_nil, trivial⟩, trivial⟩, ?_⟩
  intro p hp
  rw [hprepared] at hp
  obtain rfl := List.mem_singleton.mp hp
  show residue 2 ≠ residue 1
  decide +kernel

/-- A response with the anchor of the deposit is accepted, and leads to the nullifier that the
request has exposed. -/
theorem nullifiers_not_fresh :
  IsHistory Keccak.keccak256 (accepted 1).log
    ∧ Set.InjOn poseidonHash (nullifierInputs (accepted 1).log)
    ∧ .accepted state (response 1) (next 1) ∈ (accepted 1).log
    ∧ (request 0).publicInputs.requestNullifier = (next 1).nullifier
    ∧ ¬ EachEntry NullifierFresh (accepted 1).log
  := by
  have hlog : (accepted 1).log = [.confirmed state, .prepared state (request 0) none]
      ++ .accepted state (response 1) (next 1) :: [] := rfl
  have hprepared : preparedForNote [.confirmed state, .prepared state (request 0) none]
      = [(state, request 0)] := rfl
  refine ⟨isHistory (by decide), ?_, ?_, rfl, ?_⟩
  · apply Set.InjOn.mono (nullifierInputs_accepted 1)
    have hone : residue (1 : Felt252) = 1 := Nat.cast_one
    rw [hone, Set.pair_eq_singleton]
    exact Set.injOn_singleton _ _
  · rw [hlog]
    exact List.mem_append_right _ (.head _)
  · intro hfresh
    apply hfresh _ _ _ hlog (state, request 0)
    · rw [hprepared]
      exact .head _
    · rfl

end NoteExample

end ZkApi.Client
