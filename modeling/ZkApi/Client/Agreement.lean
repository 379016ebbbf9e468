import ZkApi.Client.Answers
import ZkApi.Client.Transitions

/-!
# Agreement on settlement

A pending request is settled by the native wallet or by the browser.  Both check the same
things, but the native wallet caps the charge by its configuration and the browser by the bound
that was proved.  They agree on a response unless everything else is in order and its charge is
within one of the two and not within the other.
-/

namespace ZkApi.Client

open ZkApi.Compact FaultIO

/-! ### Settlement by both -/

/-- The entry of the native journal for that of the browser. -/
def nativeJournal (journal : Browser.PendingRequestJournal) : PendingRequestJournal where
  «exists» := journal.exists
  clientRequestId := journal.clientRequestId
  nullifier := journal.nullifier
  payloadHash := journal.payloadHash
  userRerandomization := journal.userRerandomization
  createdAtMs := journal.createdAtMs
  preparedRequest := some journal.preparedRequest

/-- The configurations are of the same deployment and have the same signing keys.  The caps and
the policy may differ. -/
structure SameDeployment (config : ClientConfig) (browser : Browser.BrowserWalletConfig) :
    Prop where
  protocolVersion : config.protocolVersion = browser.protocolVersion
  chainId : config.chainId = browser.chainId
  contractAddress : config.contractAddress = browser.contractAddress
  stateSigningKey : config.stateSigningKey = browser.stateSigningKey
  clearanceSigningKey : config.clearanceSigningKey = browser.clearanceSigningKey

/-- A native wallet with a pending request. -/
def pendingSession (config : ClientConfig) (state : NoteState)
    (journal : PendingRequestJournal) : Session where
  config := config
  state := some state
  disk := {
    noteState := some state
    pendingJournal := some (.entry journal) }
  log := []

/-- The state that an operation has left in memory, if it has returned. -/
def stateReturned (result : Result Session Abort Unit) : Option NoteState :=
  match result.outcome with
  | .ok () => result.state.state
  | .error _ => none
  | .crash => none

section

variable (keccak256 : List UInt8 → List UInt8)

/-- The state that the native wallet settles a request with, if it accepts the response. -/
def nativeSettlement (config : ClientConfig) (state : NoteState)
    (journal : Browser.PendingRequestJournal) (response : RequestResponseV2) : Option NoteState :=
  stateReturned (completePendingResponse keccak256 response
    (pendingSession config state (nativeJournal journal)) [])

/-- The state that the browser settles a request with, if it accepts the response. -/
def browserSettlement (browser : Browser.BrowserWalletConfig) (state : NoteState)
    (journal : Browser.PendingRequestJournal) (response : RequestResponseV2) : Option NoteState :=
  (Browser.completeResponse keccak256 browser ⟨state, journal, response⟩).toOption

/-- Both accept the same responses, with the same next state, and within the budget. -/
def SettlementAgrees (config : ClientConfig) (browser : Browser.BrowserWalletConfig)
    (state : NoteState) (journal : Browser.PendingRequestJournal) (response : RequestResponseV2) :
    Prop :=
  nativeSettlement keccak256 config state journal response
      = browserSettlement keccak256 browser state journal response
    ∧ ((nativeSettlement keccak256 config state journal response).isSome = true →
      response.chargeApplied ≤ journal.preparedRequest.publicInputs.solvencyBound
        ∧ response.chargeApplied ≤ state.currentBalance)

/-- A response to a pending request that is in order, whatever its charge is capped by. -/
def InOrder (config : ClientConfig) (state : NoteState) (journal : Browser.PendingRequestJournal)
    (response : RequestResponseV2) : Prop :=
  journal.exists = true ∧ ∃ blinding, Settles keccak256 config.stateSigningKey state
    journal.clientRequestId journal.nullifier journal.userRerandomization response blinding

end

section

variable {keccak256 : List UInt8 → List UInt8} {config : ClientConfig}
  {browser : Browser.BrowserWalletConfig} {state next : NoteState}
  {journal : Browser.PendingRequestJournal} {response : RequestResponseV2}

theorem nativeSettlement_of_not_exists (hcanonical : (nativeJournal journal).Canonical)
    (hexists : journal.exists = false) :
  nativeSettlement keccak256 config state journal response = none
  := by
  have hread := @read_of_not_pending (pendingSession config state (nativeJournal journal)) 0 []
    (nativeJournal journal) (clear_nil 2) rfl hcanonical hexists
  have hnone : okOr (none : Option PendingRequestJournal) .pendingRequest
      = .error (.error .pendingRequest) := rfl
  rw [nativeSettlement, completePendingResponse, bind_of_ok hread,
    bind_of_error (ofExcept_of_error hnone)]
  rfl

theorem nativeSettlement_of_error {e : Abort} (hcanonical : (nativeJournal journal).Canonical)
    (hexists : journal.exists = true)
    (h : settle keccak256 config state (nativeJournal journal) response = .error e) :
  nativeSettlement keccak256 config state journal response = none
  := by
  have hrun := @completePendingResponse_of_error keccak256
    (pendingSession config state (nativeJournal journal)) 0 [] (nativeJournal journal) state
    response e (clear_nil 2) ⟨rfl, hexists, hcanonical⟩ rfl h
  rw [nativeSettlement, hrun]
  rfl

theorem nativeSettlement_of_ok {before : NoteState}
    (hcanonical : (nativeJournal journal).Canonical) (hexists : journal.exists = true)
    (h : settle keccak256 config state (nativeJournal journal) response = .ok (before, next)) :
  nativeSettlement keccak256 config state journal response = some next
  := by
  have hrun := @completePendingResponse_of_clear keccak256
    (pendingSession config state (nativeJournal journal)) 0 [] (nativeJournal journal) state
    before next response (clear_nil 7) ⟨rfl, hexists, hcanonical⟩ rfl h
  rw [nativeSettlement, hrun]
  rfl

/-- What the native wallet accepts, which it does without faults. -/
theorem nativeSettlement_eq_some (hcanonical : (nativeJournal journal).Canonical) :
  nativeSettlement keccak256 config state journal response = some next
    ↔ journal.exists = true ∧ ∃ blinding, Settles keccak256 config.stateSigningKey state
        journal.clientRequestId journal.nullifier journal.userRerandomization response blinding
      ∧ response.chargeApplied ≤ config.chargeCap
      ∧ settled state journal.userRerandomization response blinding = next
  := by
  rcases Bool.eq_false_or_eq_true journal.exists with hexists | hexists
  · rw [and_iff_right hexists]
    constructor
    · intro hnext
      rcases hsettle : settle keccak256 config state (nativeJournal journal) response
        with e | ⟨before, after⟩
      · rw [nativeSettlement_of_error hcanonical hexists hsettle] at hnext
        contradiction
      · rw [nativeSettlement_of_ok hcanonical hexists hsettle] at hnext
        obtain ⟨blinding, hvalid, hcap, _, hresult⟩ := settle_eq_ok.mp hsettle
        obtain rfl := Option.some.inj hnext
        exact ⟨blinding, hvalid, hcap, hresult⟩
    · rintro ⟨blinding, hvalid, hcap, hnext⟩
      apply @nativeSettlement_of_ok _ _ _ _ _ _ state hcanonical hexists
      exact settle_eq_ok.mpr ⟨blinding, hvalid, hcap, rfl, hnext⟩
  · rw [nativeSettlement_of_not_exists hcanonical hexists]
    simp [hexists]

theorem browserSettlement_eq_some (hdeployment : SameDeployment config browser)
    (hstate : Browser.validateState browser state = .ok ()) :
  browserSettlement keccak256 browser state journal response = some next
    ↔ journal.exists = true ∧ ∃ blinding, Settles keccak256 config.stateSigningKey state
        journal.clientRequestId journal.nullifier journal.userRerandomization response blinding
      ∧ response.chargeApplied ≤ journal.preparedRequest.publicInputs.solvencyBound
      ∧ settled state journal.userRerandomization response blinding = next
  := by
  have hoption : ∀ x : Except Failure NoteState, x.toOption = some next ↔ x = .ok next := by
    intro x
    cases x <;> simp [Except.toOption]
  rw [browserSettlement, hoption, Browser.completeResponse_eq_ok, and_iff_right hstate,
    hdeployment.stateSigningKey]

/-- The wallets agree on a response exactly when its charge is within the cap of the native
configuration if and only if it is within the bound that was proved, or something else is not
in order. -/
theorem settlement_agrees_iff (hdeployment : SameDeployment config browser)
    (hstate : Browser.validateState browser state = .ok ())
    (hcanonical : (nativeJournal journal).Canonical) :
  SettlementAgrees keccak256 config browser state journal response
    ↔ (InOrder keccak256 config state journal response →
      (response.chargeApplied ≤ config.chargeCap
        ↔ response.chargeApplied ≤ journal.preparedRequest.publicInputs.solvencyBound))
  := by
  have hnative := fun next =>
    @nativeSettlement_eq_some keccak256 config state next journal response hcanonical
  have hbrowser := fun next =>
    @browserSettlement_eq_some keccak256 config browser state next journal response hdeployment
      hstate
  constructor
  · rintro ⟨hsame, hbounded⟩ ⟨hexists, blinding, hvalid⟩
    constructor
    · intro hcap
      have hsome := (hnative _).mpr ⟨hexists, blinding, hvalid, hcap, rfl⟩
      rw [hsome] at hbounded
      exact (hbounded rfl).1
    · intro hbound
      have hsome := (hbrowser _).mpr ⟨hexists, blinding, hvalid, hbound, rfl⟩
      rw [← hsame] at hsome
      obtain ⟨_, _, _, hcap, _⟩ := (hnative _).mp hsome
      exact hcap
  · intro hcharge
    constructor
    · apply Option.ext
      intro next
      rw [hnative, hbrowser]
      constructor
      · rintro ⟨hexists, blinding, hvalid, hcap, hnext⟩
        exact ⟨hexists, blinding, hvalid, (hcharge ⟨hexists, blinding, hvalid⟩).mp hcap, hnext⟩
      · rintro ⟨hexists, blinding, hvalid, hbound, hnext⟩
        exact ⟨hexists, blinding, hvalid, (hcharge ⟨hexists, blinding, hvalid⟩).mpr hbound, hnext⟩
    · intro hsome
      obtain ⟨next, hnext⟩ := Option.isSome_iff_exists.mp hsome
      obtain ⟨hexists, blinding, hvalid, hcap, _⟩ := (hnative next).mp hnext
      exact ⟨(hcharge ⟨hexists, blinding, hvalid⟩).mp hcap, hvalid.charge⟩

end

namespace RaisedCapExample

open Keccak NoteExample

/-- The configuration of the browser. -/
def browser : Browser.BrowserWalletConfig where
  protocolVersion := 2
  chainId := 1
  contractAddress := 1
  requestChargeCap := 5
  policyChargeCap := 5
  policyEnabled := false
  stateSigningKey := (CompactSigner.fromSeed 1).publicKey
  clearanceSigningKey := (CompactSigner.fromSeed 2).publicKey

def anonymous : EdwardsAffine :=
  anonymousCommitment state (scalarToFelt 1) (scalarToFelt 1)

/-- A request that is prepared under a cap of 5. -/
def request : ApiRequestV2 where
  clientRequestId := "request"
  payload := ""
  payloadHash := 0
  publicInputs := requestPublicInputs (config 5) state 0 0 5 0 (pointToWire anonymous)
  proof := {
    backend := .groth16Bn254
    proof := "" }

def journal : Browser.PendingRequestJournal where
  «exists» := true
  clientRequestId := request.clientRequestId
  nullifier := state.nullifier
  payloadHash := request.payloadHash
  userRerandomization := scalarToFelt 1
  createdAtMs := 0
  preparedRequest := request

/-- The answer with a charge of 7. -/
def response : RequestResponseV2 :=
  answer (.fromSeed 1) state journal.clientRequestId journal.nullifier anonymous
    (answerArgs 7 2 0)

theorem sameDeployment (cap : U128) :
  SameDeployment (config cap) browser
  := by
  constructor <;> rfl

theorem validateState_eq :
  Browser.validateState browser state = .ok ()
  := rfl

theorem journal_canonical :
  (nativeJournal journal).Canonical
  := by
  constructor
  case nullifier => apply Core.canonical_hashDomain
  case payloadHash => decide +kernel
  case userRerandomization => apply canonical_scalarToFelt
  case preparedRequest =>
    rintro _ ⟨⟩
    constructor
    case payloadHash => decide +kernel
    case publicInputs =>
      constructor
      case contractAddress | activeRoot => decide +kernel
      case requestNullifier | authorizationTag => apply Core.canonical_hashDomain
      all_goals apply canonical_word

theorem inOrder (cap : U128) :
  InOrder keccak256 (config cap) state journal response
  := by
  have hcharge : (answerArgs 7 2 0).charge ≤ state.currentBalance := by
    decide +kernel
  exact ⟨rfl, _, settles_answer stored responseHash_eq (by decide +kernel) hcharge⟩

/-- While the cap is the one that the request was prepared under, the wallets agree. -/
theorem settlement_agrees_unchanged :
  SettlementAgrees keccak256 (config 5) browser state journal response
  := by
  apply (settlement_agrees_iff (sameDeployment 5) validateState_eq journal_canonical).mpr
  intro _
  rfl

/-- Once the cap is raised to 10, the native wallet accepts a charge above the bound that was
proved, and the browser does not. -/
theorem settlement_disagrees :
  SameDeployment (config 10) browser
    ∧ Browser.validateState browser state = .ok ()
    ∧ (nativeJournal journal).Canonical
    ∧ journal.preparedRequest.publicInputs.solvencyBound < response.chargeApplied
    ∧ (nativeSettlement keccak256 (config 10) state journal response).isSome = true
    ∧ browserSettlement keccak256 browser state journal response = none
  := by
  obtain ⟨hexists, blinding, hvalid⟩ := inOrder 10
  have hcap : response.chargeApplied ≤ (config 10).chargeCap := by
    decide +kernel
  have hbound : journal.preparedRequest.publicInputs.solvencyBound < response.chargeApplied := by
    decide +kernel
  refine ⟨sameDeployment 10, validateState_eq, journal_canonical, hbound, ?_, ?_⟩
  · have hnative := (nativeSettlement_eq_some journal_canonical).mpr
      ⟨hexists, blinding, hvalid, hcap, rfl⟩
    rw [hnative]
    rfl
  · apply Option.eq_none_iff_forall_ne_some.mpr
    intro next hnext
    have hbrowser := (browserSettlement_eq_some (sameDeployment 10) validateState_eq).mp hnext
    obtain ⟨_, _, _, hle, _⟩ := hbrowser
    exact absurd hle (BitVec.not_le.mpr hbound)

end RaisedCapExample

end ZkApi.Client
