import ZkApi.Client.Types
import ZkApi.Library.FaultIO

/-!
# The wallet

The operations of the native wallet as programs on its session: the state in memory, the two
files, and the history that is visible from outside.  Every file operation is an access, which
can fail or be cut off by a crash.  What the wallet draws at random, the clock, the answers of
the server and the Groth16 prover are arguments.
-/

namespace ZkApi.Client

open ZkApi.Compact FaultIO

/-! ### Helper functions -/

/-- `state_note_leaf`. -/
def stateNoteLeaf (state : NoteState) : Felt252 :=
  Core.noteLeaf state.noteId (Core.registrationCommitment state.secretS) state.depositAmount
    state.expiryTs

/-- `parse_scalar`. -/
def parseScalar (value : String) : Except Abort Felt252 :=
  mapErr .serialization (Felt252.fromHex value)

/-- `ensure_stored_commitment`. -/
def ensureStoredCommitment (state : NoteState) (commitment : CurvePointWire) :
    Except Abort Unit :=
  if commitment.x ≠ state.currentCommitmentX ∨ commitment.y ≠ state.currentCommitmentY then
    .error (.error (.verificationFailed "persisted balance commitment is inconsistent"))
  else
    .ok ()

/-- `siblings_array`. -/
def siblingsArray (values : List Felt252) : Except Abort (Fin 32 → Felt252) :=
  match tryIntoArray values with
  | some siblings => .ok siblings
  | none => .error (.error (.proofGeneration s!"expected 32 Merkle siblings, got {values.length}"))

/-- `checked_sub`. -/
def checkedSub (a b : U128) : Option U128 :=
  if b ≤ a then some (a - b) else none

/-- `ok_or`. -/
def okOr {α : Type} (x : Option α) (e : ClientError) : Except Abort α :=
  match x with
  | none => .error (.error e)
  | some a => .ok a

/-- The nullifier of a state. -/
def NoteState.nullifier (state : NoteState) : Felt252 :=
  Core.nullifier state.secretS state.currentAnchor

/-! ### Sessions -/

/-- What the wallet has done as it is seen from outside: a deposit was confirmed, a request
was prepared from a state over what was in the journal, a journaled request was returned
again, a response was accepted, the journal was given up. -/
inductive Event where
  | confirmed (state : NoteState)
  | prepared (state : NoteState) (request : ApiRequestV2) (replaced : Option JournalFile)
  | resent (request : ApiRequestV2)
  | accepted (state : NoteState) (response : RequestResponseV2) (next : NoteState)
  | cleared

/-- The wallet with its files.  No operation reads the history. -/
structure Session where
  config : ClientConfig
  state : Option NoteState
  disk : Disk
  log : List Event

/-- An operation of the wallet. -/
abbrev Operation (α : Type) : Type :=
  Program Session Abort α

/-- An event takes place. -/
def emit (event : Event) : Operation Unit :=
  modify fun s => { s with log := s.log ++ [event] }

/-- An error of the file system. -/
def ioError : Abort :=
  .error .io

/-- Write a file: create the directory, write a temporary file, and rename it. -/
def replaceFile (f : Disk → Disk) : Operation Unit := do
  access ioError id
  access ioError id
  access ioError fun s => { s with disk := f s.disk }

/-- `NoteState::save`, to `note_state.json`. -/
def NoteState.save (state : NoteState) : Operation Unit :=
  replaceFile fun disk => { disk with noteState := some state }

/-- `NoteState::archive`.  The archive is not modelled. -/
def NoteState.archive (_ : NoteState) : Operation Unit := do
  access ioError id
  replaceFile id
  if ← probe fun s => s.disk.noteState.isSome then
    access ioError fun s => { s with disk := { s.disk with noteState := none } }

/-- `PendingRequestJournal::write`. -/
def PendingRequestJournal.write (journal : PendingRequestJournal) : Operation Unit :=
  replaceFile fun disk => { disk with pendingJournal := some (.entry journal) }

/-- What deserialization makes of the file of the journal. -/
def JournalFile.parse : JournalFile → Except Failure PendingRequestJournal
  | .entry journal => journal.reload
  | .malformed failure => .error failure

/-- `PendingRequestJournal::read`. -/
def PendingRequestJournal.read : Operation (Option PendingRequestJournal) := do
  if ← probe fun s => s.disk.pendingJournal.isSome then
    access ioError id
    let s ← get
    let file ← ofExcept (okOr s.disk.pendingJournal .io)
    let journal ← ofExcept (mapErr .serialization file.parse)
    return if journal.exists then some journal else none
  else
    return none

/-- `PendingRequestJournal::clear`. -/
def PendingRequestJournal.clear : Operation Unit := do
  if ← probe fun s => s.disk.pendingJournal.isSome then
    access ioError fun s => { s with disk := { s.disk with pendingJournal := none } }

/-! ### Starting -/

/-- `Wallet::new`, which returns the state in memory. -/
def new : Program Disk Abort (Option NoteState) := do
  access ioError id
  access ioError id
  if ← probe fun disk => disk.noteState.isSome then
    access ioError id
    let disk ← get
    let state ← ofExcept (okOr disk.noteState .io)
    let state ← ofExcept (mapErr .serialization state.reload)
    return some state
  else
    return none

/-! ### Deposits and pending requests -/

/-- `has_pending_request`. -/
def hasPendingRequest : Operation Bool := do
  match ← attempt PendingRequestJournal.read with
  | .ok journal => return journal.isSome
  | .error (.error _) => return false
  | .error .panic => ofExcept (.error .panic)

/-- `pending_api_request`. -/
def pendingApiRequest : Operation (Option ApiRequestV2) := do
  let journal ← PendingRequestJournal.read
  match journal.bind PendingRequestJournal.preparedRequest with
  | none => return none
  | some request =>
    emit (.resent request)
    return some request

/-- `clear_pending_request`. -/
def clearPendingRequest : Operation Unit := do
  PendingRequestJournal.clear
  emit .cleared

/-- The state after a deposit, for the blinding that was drawn. -/
def depositState (config : ClientConfig) (secret : Felt252) (noteId : U32)
    (depositAmount : U128) (expiry : U64) (blinding : Felt252) : NoteState :=
  let commitment := Compact.balanceCommitment depositAmount blinding
    (Core.noteLeaf noteId (Core.registrationCommitment secret) depositAmount expiry)
  .newFromDeposit config.protocolVersion config.chainId config.contractAddress noteId secret
    depositAmount expiry blinding.toHex commitment.x commitment.y

/-- `confirm_deposit`, for the scalar that `random_scalar` draws. -/
def confirmDeposit (secret : Felt252) (noteId : U32) (depositAmount : U128) (expiry : U64)
    (random : EdwardsScalarField) : Operation Unit := do
  let s ← get
  ofExcept (failIf s.state.isSome (.error .noteAlreadyExists))
  let state := depositState s.config secret noteId depositAmount expiry (scalarToFelt random)
  state.save
  modify fun s => { s with state := some state }
  emit (.confirmed state)

/-! ### Requests -/

/-- The arguments of `prepare_request`, with what it draws at random, the clock, and what the
loading of the proving key and the Groth16 prover return. -/
structure PrepareArgs where
  payload : String
  payloadHash : Felt252
  activeRoot : Felt252
  merkleSiblings : List Felt252
  rerandomization : EdwardsScalarField
  clientRequestId : String
  requestTime : U64
  createdAt : U64
  loaded : Except Failure Unit
  proved : Except Failure Groth16ProofWire

/-- `now_ms`, for the seconds on the clock. -/
def nowMs (seconds : U64) : U64 :=
  if seconds.toNat * 1000 < 2 ^ 64 then seconds * 1000 else BitVec.allOnes 64

/-- The public inputs of a request. -/
def requestPublicInputs (config : ClientConfig) (state : NoteState) (activeRoot : Felt252)
    (requestTime : U64) (solvencyBound : U128) (requestContext : Felt252)
    (anonymous : CurvePointWire) : RequestPublicInputsV2 where
  protocolVersion := state.protocolVersion
  chainId := state.chainId
  contractAddress := state.contractAddress
  activeRoot := activeRoot
  stateSigningKeyX := config.stateSigningKey.x
  stateSigningKeyY := config.stateSigningKey.y
  requestTime := requestTime
  solvencyBound := solvencyBound
  requestNullifier := state.nullifier
  authorizationTag := Core.authorizationTag state.nullifier requestContext
  anonymousCommitmentX := anonymous.x
  anonymousCommitmentY := anonymous.y

/-- The witness of a request. -/
def requestWitnessData (state : NoteState) (siblings : Fin 32 → Felt252)
    (requestContext currentBlinding rerandomization : Felt252) : RequestWitnessData where
  secret := state.secretS
  requestContext := requestContext
  noteId := state.noteId
  depositAmount := state.depositAmount
  expiry := state.expiryTs
  merkleSiblings := siblings
  currentBalance := state.currentBalance
  currentBlinding := currentBlinding
  rerandomization := rerandomization
  currentAnchor := state.currentAnchor
  isGenesis := state.isGenesis
  stateSignature := state.stateSignature

/-- The entry of the journal for a request. -/
def journalEntry (args : PrepareArgs) (nullifier : Felt252) (request : ApiRequestV2) :
    PendingRequestJournal where
  «exists» := true
  clientRequestId := args.clientRequestId
  nullifier := nullifier
  payloadHash := args.payloadHash
  userRerandomization := scalarToFelt args.rerandomization
  createdAtMs := nowMs args.createdAt
  preparedRequest := some request

section

variable (keccak256 : List UInt8 → List UInt8)

/-- What `prepare_request` computes between the check for a pending request and the write of
the journal: the state that is spent and the request. -/
def buildRequest (config : ClientConfig) (active : Option NoteState) (args : PrepareArgs) :
    Except Abort (NoteState × ApiRequestV2) := do
  let hash ← orPanic (canonicalPayloadHash keccak256 args.payload)
  failIf (hash ≠ args.payloadHash)
    (.error (.invalidResponse "payload_hash does not match payload bytes"))
  let state ← okOr active .noActiveNote
  let solvencyBound :=
    state.solvencyBound config.policyEnabled config.requestChargeCap config.policyChargeCap
  failIf (state.currentBalance < solvencyBound)
    (.error (.insufficientBalance solvencyBound state.currentBalance))
  let siblings ← siblingsArray args.merkleSiblings
  let currentBlinding ← parseScalar state.balanceBlinding
  let expectedCurrent :=
    Compact.balanceCommitment state.currentBalance currentBlinding (stateNoteLeaf state)
  ensureStoredCommitment state expectedCurrent
  let rerandomization := scalarToFelt args.rerandomization
  let anonymous ← mapErr .proofGeneration (rerandomize expectedCurrent rerandomization)
  let requestContext ←
    orPanic (canonicalRequestContext keccak256 args.clientRequestId args.payloadHash)
  let publicInputs := requestPublicInputs config state args.activeRoot args.requestTime
    solvencyBound requestContext anonymous
  mapErr .proofGeneration args.loaded
  let proof ← mapErr .proofGeneration
    (proveRequest publicInputs
      (requestWitnessData state siblings requestContext currentBlinding rerandomization)
      args.proved)
  return (state,
    { clientRequestId := args.clientRequestId
      payload := args.payload
      payloadHash := args.payloadHash
      publicInputs
      proof })

/-- `prepare_request`. -/
def prepareRequest (args : PrepareArgs) : Operation ApiRequestV2 := do
  let pending ← hasPendingRequest
  ofExcept (failIf pending (.error .pendingRequest))
  let s ← get
  let (state, request) ← ofExcept (buildRequest keccak256 s.config s.state args)
  (journalEntry args state.nullifier request).write
  emit (.prepared state request s.disk.pendingJournal)
  return request

/-! ### Responses -/

/-- The anonymous commitment of the pending request, which `complete_pending_response`
derives again from the state. -/
def pendingCommitment (state : NoteState) (userRerandomization : Felt252) :
    Except Abort CurvePointWire := do
  let currentBlinding ← parseScalar state.balanceBlinding
  let current :=
    Compact.balanceCommitment state.currentBalance currentBlinding (stateNoteLeaf state)
  ensureStoredCommitment state current
  mapErr .verificationFailed (rerandomize current userRerandomization)

/-- The state that a response leads to. -/
def nextNoteState (state : NoteState) (response : RequestResponseV2)
    (currentBalance : U128) (nextBlinding : Felt252) : NoteState :=
  { state with
    currentBalance
    balanceBlinding := nextBlinding.toHex
    currentCommitmentX := response.nextCommitment.x
    currentCommitmentY := response.nextCommitment.y
    currentAnchor := response.nextAnchor
    isGenesis := false
    stateSignature := some response.nextStateSignature }

/-- What `apply_response` computes before it saves: the state before and the next state. -/
def verifyResponse (config : ClientConfig) (active : Option NoteState)
    (response : RequestResponseV2) (requestId : String) (nullifier : Felt252)
    (anonymous : CurvePointWire) (rerandomization : Felt252) :
    Except Abort (NoteState × NoteState) := do
  failIf (response.clientRequestId ≠ requestId ∨ response.requestNullifier ≠ nullifier)
    (.error (.verificationFailed "response request identity mismatch"))
  let hash ← orPanic (canonicalResponseHash keccak256 response.responsePayload)
  failIf (hash ≠ response.responseHash)
    (.error (.verificationFailed "response payload hash mismatch"))
  failIf (config.chargeCap < response.chargeApplied ∨ response.nextAnchor = 0)
    (.error (.verificationFailed "invalid charge or next anchor"))
  let expected ← mapErr .verificationFailed
    (Compact.serverUpdate anonymous response.chargeApplied response.blindDeltaSrv)
  failIf (expected ≠ response.nextCommitment)
    (.error (.verificationFailed "next commitment algebra mismatch"))
  let state ← okOr active .noActiveNote
  let message := Core.stateMessage state.protocolVersion state.chainId state.contractAddress
    response.nextCommitment.x response.nextCommitment.y response.nextAnchor
  let valid ← mapErr .verificationFailed
    (verifySignature config.stateSigningKey message response.nextStateSignature)
  failIf (valid = false)
    (.error (.verificationFailed "invalid next-state signature"))
  let currentBlinding ← parseScalar state.balanceBlinding
  let nextBlinding :=
    addBlindings (addBlindings currentBlinding rerandomization) response.blindDeltaSrv
  let currentBalance ← okOr (checkedSub state.currentBalance response.chargeApplied)
    (.verificationFailed "charge exceeds balance")
  return (state, nextNoteState state response currentBalance nextBlinding)

/-- `apply_response`. -/
def applyResponse (response : RequestResponseV2) (requestId : String) (nullifier : Felt252)
    (anonymous : CurvePointWire) (rerandomization : Felt252) : Operation Unit := do
  let s ← get
  let (state, next) ← ofExcept
    (verifyResponse keccak256 s.config s.state response requestId nullifier anonymous
      rerandomization)
  next.save
  modify fun s => { s with state := some next }
  emit (.accepted state response next)

/-- `complete_pending_response`. -/
def completePendingResponse (response : RequestResponseV2) : Operation Unit := do
  let pending ← PendingRequestJournal.read
  let journal ← ofExcept (okOr pending .pendingRequest)
  let s ← get
  let state ← ofExcept (okOr s.state .noActiveNote)
  let anonymous ← ofExcept (pendingCommitment state journal.userRerandomization)
  applyResponse keccak256 response journal.clientRequestId journal.nullifier anonymous
    journal.userRerandomization
  PendingRequestJournal.clear

/-- The answer to a request: none, an error that is decoded or not, or a response that is
decoded or not. -/
inductive RequestReply where
  | unreachable (text : String)
  | rejected (errorCode errorMessage : String)
  | failed (text : String)
  | undecodable (text : String)
  | answered (response : RequestResponseV2)

/-- `request_flow`. -/
def requestFlow (args : PrepareArgs) (reply : RequestReply) : Operation RequestResponseV2 := do
  let _ ← prepareRequest keccak256 args
  match reply with
  | .unreachable text => ofExcept (.error (.error (.serverError text)))
  | .rejected errorCode errorMessage =>
    if errorCode = "stale_root" then
      clearPendingRequest
      ofExcept (.error (.error .staleRoot))
    else
      ofExcept (.error (.error (.serverError s!"{errorCode}: {errorMessage}")))
  | .failed text => ofExcept (.error (.error (.serverError text)))
  | .undecodable text => ofExcept (.error (.error (.invalidResponse text)))
  | .answered response =>
    completePendingResponse keccak256 response
    return response

/-- The answer to a recovery: none, not found, an error, one that is not decoded, or a record
with or without a response. -/
inductive RecoveryReply where
  | unreachable (text : String)
  | notFound
  | failed (text : String)
  | undecodable (text : String)
  | found (response : Option RequestResponseV2)

/-- `recover`. -/
def recover (reply : RecoveryReply) : Operation (Option RequestResponseV2) := do
  match ← PendingRequestJournal.read with
  | none => return none
  | some _ =>
    match reply with
    | .unreachable text => ofExcept (.error (.error (.serverError text)))
    | .notFound => return none
    | .failed text => ofExcept (.error (.error (.serverError text)))
    | .undecodable text => ofExcept (.error (.error (.invalidResponse text)))
    | .found none => return none
    | .found (some response) =>
      completePendingResponse keccak256 response
      return some response

end

/-! ### Withdrawals -/

/-- `archive_note`. -/
def archiveNote : Operation Unit := do
  let s ← get
  s.state.elim (pure ()) NoteState.archive
  modify fun s => { s with state := none }
  clearPendingRequest

/-- The public inputs of a withdrawal. -/
def withdrawalPublicInputs (config : ClientConfig) (state : NoteState) (destination : Address)
    (activeRoot : Felt252) (hasClearance : Bool) : WithdrawalPublicInputsV2 where
  protocolVersion := state.protocolVersion
  chainId := state.chainId
  contractAddress := state.contractAddress
  activeRoot := activeRoot
  stateSigningKeyX := config.stateSigningKey.x
  stateSigningKeyY := config.stateSigningKey.y
  clearanceSigningKeyX := config.clearanceSigningKey.x
  clearanceSigningKeyY := config.clearanceSigningKey.y
  noteId := state.noteId
  finalBalance := state.currentBalance
  destination := destination
  withdrawalNullifier := state.nullifier
  hasClearance := hasClearance
  withdrawalTag := Core.withdrawalTag state.nullifier (destination.setWidth 256)
    state.currentBalance hasClearance

/-- The witness of a withdrawal. -/
def withdrawalWitnessData (state : NoteState) (siblings : Fin 32 → Felt252)
    (finalBlinding : Felt252) (clearanceSignature : Option SchnorrSignature) :
    WithdrawalWitnessData where
  secret := state.secretS
  depositAmount := state.depositAmount
  expiry := state.expiryTs
  merkleSiblings := siblings
  finalBlinding := finalBlinding
  currentAnchor := state.currentAnchor
  isGenesis := state.isGenesis
  stateSignature := state.stateSignature
  clearanceSignature := clearanceSignature

/-- `build_withdrawal`. -/
def buildWithdrawal (config : ClientConfig) (active : Option NoteState) (destination : Address)
    (activeRoot : Felt252) (merkleSiblings : List Felt252) (hasClearance : Bool)
    (clearanceSignature : Option SchnorrSignature) (loaded : Except Failure Unit)
    (proved : Except Failure Groth16ProofWire) :
    Except Abort (WithdrawalPublicInputsV2 × Groth16ProofWire) := do
  let state ← okOr active .noActiveNote
  let pub := withdrawalPublicInputs config state destination activeRoot hasClearance
  mapErr .proofGeneration loaded
  let siblings ← siblingsArray merkleSiblings
  let finalBlinding ← parseScalar state.balanceBlinding
  let proof ← mapErr .proofGeneration
    (proveWithdrawal pub (withdrawalWitnessData state siblings finalBlinding clearanceSignature)
      proved)
  return (pub, proof)

/-- `ClearanceResponseV2`. -/
structure ClearanceResponseV2 where
  withdrawalNullifier : Felt252
  signature : SchnorrSignature

/-- `withdrawal_mutual_close`, for what `request_clearance` returns. -/
def withdrawalMutualClose (config : ClientConfig) (active : Option NoteState)
    (destination : Address) (activeRoot : Felt252) (merkleSiblings : List Felt252)
    (requested : Except ClientError ClearanceResponseV2) (loaded : Except Failure Unit)
    (proved : Except Failure Groth16ProofWire) :
    Except Abort (WithdrawalPublicInputsV2 × Groth16ProofWire) := do
  let state ← okOr active .noActiveNote
  let clearance ← requested.mapError .error
  let message := Core.clearanceMessage state.protocolVersion state.chainId
    state.contractAddress state.nullifier
  let valid ← mapErr .verificationFailed
    (verifySignature config.clearanceSigningKey message clearance.signature)
  failIf (valid = false)
    (.error (.verificationFailed "invalid clearance signature"))
  buildWithdrawal config active destination activeRoot merkleSiblings true
    (some clearance.signature) loaded proved

/-- `withdrawal_escape_hatch`. -/
def withdrawalEscapeHatch (config : ClientConfig) (active : Option NoteState)
    (destination : Address) (activeRoot : Felt252) (merkleSiblings : List Felt252)
    (loaded : Except Failure Unit) (proved : Except Failure Groth16ProofWire) :
    Except Abort (WithdrawalPublicInputsV2 × Groth16ProofWire) :=
  buildWithdrawal config active destination activeRoot merkleSiblings false none loaded proved

end ZkApi.Client
