import ZkApi.Client.Wallet

/-!
# The wallet of the browser

The operations of the browser crate, which keep nothing: they take a snapshot of the state of
a note and return the next one, and the host stores it together with its journal.
-/

namespace ZkApi.Browser

open ZkApi.Compact Client

/-! ### Types -/

/-- `BrowserWalletConfig`. -/
structure BrowserWalletConfig where
  protocolVersion : U16
  chainId : U64
  contractAddress : Felt252
  requestChargeCap : U128
  policyChargeCap : U128
  policyEnabled : Bool
  stateSigningKey : CurvePointWire
  clearanceSigningKey : CurvePointWire

/-- `BrowserNoteState`, which has the fields of the native state. -/
abbrev BrowserNoteState : Type := NoteState

/-- `PendingRequestJournal` of the browser, which always holds the request. -/
structure PendingRequestJournal where
  «exists» : Bool
  clientRequestId : String
  nullifier : Felt252
  payloadHash : Felt252
  userRerandomization : Felt252
  createdAtMs : U64
  preparedRequest : ApiRequestV2

/-- `ConfirmDepositArgs`. -/
structure ConfirmDepositArgs where
  secret : Felt252
  noteId : U32
  amount : U128
  expiryTs : U64

/-- `PrepareRequestArgs`. -/
structure PrepareRequestArgs where
  payload : String
  activeRoot : Felt252
  merkleSiblings : List Felt252
  clientRequestId : String
  requestTime : U64
  createdAtMs : U64

/-- `CompleteResponseArgs`. -/
structure CompleteResponseArgs where
  state : BrowserNoteState
  journal : PendingRequestJournal
  response : RequestResponseV2

/-! ### Checks -/

/-- `bail!`. -/
def bail {α : Type} (text : String) : Except Failure α :=
  .error (.message text)

/-- `ok_or_else`. -/
def okOrElse {α : Type} (x : Option α) (text : String) : Except Failure α :=
  match x with
  | none => bail text
  | some a => .ok a

/-- `validate_state_identity`. -/
def validateStateIdentity (config : BrowserWalletConfig) (secret : Felt252) (amount : U128) :
    Except Failure Unit := do
  failIf (config.protocolVersion ≠ 2)
    (.message s!"unsupported protocol version {config.protocolVersion.toNat}")
  failIf (config.contractAddress = 0 ∨ secret = 0 ∨ amount = 0)
    (.message "deposit identity contains a zero value")

/-- `validate_state`. -/
def validateState (config : BrowserWalletConfig) (state : BrowserNoteState) :
    Except Failure Unit := do
  failIf (state.protocolVersion ≠ config.protocolVersion ∨ state.chainId ≠ config.chainId
      ∨ state.contractAddress ≠ config.contractAddress)
    (.message "wallet state belongs to a different zkAPI deployment")
  validateStateIdentity config state.secretS state.depositAmount

/-- `ensure_stored_commitment`. -/
def ensureStoredCommitment (state : BrowserNoteState) (commitment : CurvePointWire) :
    Except Failure Unit :=
  if commitment.x ≠ state.currentCommitmentX ∨ commitment.y ≠ state.currentCommitmentY then
    bail "persisted balance commitment is inconsistent"
  else
    .ok ()

/-- `parse_scalar`. -/
def parseScalar (value : String) : Except Failure Felt252 :=
  match Felt252.fromHex value with
  | .ok scalar => .ok scalar
  | .error (.message text) => bail s!"invalid balance blinding: {text}"
  | .error .panic => .error .panic

/-- `siblings_array`. -/
def siblingsArray (values : List Felt252) : Except Failure (Fin 32 → Felt252) :=
  match tryIntoArray values with
  | some siblings => .ok siblings
  | none => bail s!"expected 32 Merkle siblings, got {values.length}"

/-- `is_whitespace`, for a character of Unicode. -/
def isWhitespace (c : Char) : Bool :=
  (9 ≤ c.val && c.val ≤ 13) || c.val == 32 || c.val == 133 || c.val == 160 || c.val == 5760
    || (8192 ≤ c.val && c.val ≤ 8202) || c.val == 8232 || c.val == 8233 || c.val == 8239
    || c.val == 8287 || c.val == 12288

/-! ### Operations -/

/-- `confirm_deposit`, for the scalar that `random_scalar` draws. -/
def confirmDeposit (config : BrowserWalletConfig) (args : ConfirmDepositArgs)
    (random : EdwardsScalarField) : Except Failure BrowserNoteState := do
  validateStateIdentity config args.secret args.amount
  let blinding := scalarToFelt random
  let commitment := Compact.balanceCommitment args.amount blinding
    (Core.noteLeaf args.noteId (Core.registrationCommitment args.secret) args.amount
      args.expiryTs)
  return {
    protocolVersion := config.protocolVersion
    chainId := config.chainId
    contractAddress := config.contractAddress
    noteId := args.noteId
    secretS := args.secret
    depositAmount := args.amount
    expiryTs := args.expiryTs
    currentBalance := args.amount
    balanceBlinding := blinding.toHex
    currentCommitmentX := commitment.x
    currentCommitmentY := commitment.y
    currentAnchor := 1
    isGenesis := true
    stateSignature := none }

section

variable (keccak256 : List UInt8 → List UInt8)

/-- `prepare_request_with_prover`, for the scalar that `random_scalar` draws and the result of
the Groth16 prover. -/
def prepareRequestWithProver (config : BrowserWalletConfig) (state : BrowserNoteState)
    (args : PrepareRequestArgs) (random : EdwardsScalarField)
    (proved : Except Failure Groth16ProofWire) :
    Except Failure (ApiRequestV2 × PendingRequestJournal) := do
  validateState config state
  failIf (args.clientRequestId.toList.all isWhitespace) (.message "client_request_id is required")
  let siblings ← siblingsArray args.merkleSiblings
  let payloadHash ← canonicalPayloadHash keccak256 args.payload
  let solvencyBound :=
    if config.policyEnabled then config.policyChargeCap else config.requestChargeCap
  failIf (state.currentBalance < solvencyBound)
    (.message (s!"insufficient balance: need {solvencyBound.toNat}, "
      ++ s!"have {state.currentBalance.toNat}"))
  let currentBlinding ← parseScalar state.balanceBlinding
  let current :=
    Compact.balanceCommitment state.currentBalance currentBlinding (stateNoteLeaf state)
  ensureStoredCommitment state current
  let rerandomization := scalarToFelt random
  let anonymous ← rerandomize current rerandomization
  let nullifier := Core.nullifier state.secretS state.currentAnchor
  let requestContext ← canonicalRequestContext keccak256 args.clientRequestId payloadHash
  let publicInputs : RequestPublicInputsV2 := {
    protocolVersion := state.protocolVersion
    chainId := state.chainId
    contractAddress := state.contractAddress
    activeRoot := args.activeRoot
    stateSigningKeyX := config.stateSigningKey.x
    stateSigningKeyY := config.stateSigningKey.y
    requestTime := args.requestTime
    solvencyBound
    requestNullifier := nullifier
    authorizationTag := Core.authorizationTag nullifier requestContext
    anonymousCommitmentX := anonymous.x
    anonymousCommitmentY := anonymous.y }
  let witness : RequestWitnessData := {
    secret := state.secretS
    requestContext
    noteId := state.noteId
    depositAmount := state.depositAmount
    expiry := state.expiryTs
    merkleSiblings := siblings
    currentBalance := state.currentBalance
    currentBlinding
    rerandomization
    currentAnchor := state.currentAnchor
    isGenesis := state.isGenesis
    stateSignature := state.stateSignature }
  let proof ← match proveRequest publicInputs witness proved with
    | .ok proof => .ok proof
    | .error (.message _) => bail "generate request proof"
    | .error .panic => .error .panic
  let request : ApiRequestV2 := {
    clientRequestId := args.clientRequestId
    payload := args.payload
    payloadHash
    publicInputs
    proof }
  return (request,
    { «exists» := true
      clientRequestId := args.clientRequestId
      nullifier
      payloadHash
      userRerandomization := rerandomization
      createdAtMs := args.createdAtMs
      preparedRequest := request })

/-- `complete_response`. -/
def completeResponse (config : BrowserWalletConfig) (args : CompleteResponseArgs) :
    Except Failure BrowserNoteState := do
  validateState config args.state
  let response := args.response
  let journal := args.journal
  failIf (journal.exists = false ∨ response.clientRequestId ≠ journal.clientRequestId
      ∨ response.requestNullifier ≠ journal.nullifier)
    (.message "response request identity mismatch")
  let hash ← canonicalResponseHash keccak256 response.responsePayload
  failIf (hash ≠ response.responseHash) (.message "response payload hash mismatch")
  let cap := journal.preparedRequest.publicInputs.solvencyBound
  failIf (cap < response.chargeApplied ∨ response.nextAnchor = 0)
    (.message "invalid charge or next anchor")
  let currentBlinding ← parseScalar args.state.balanceBlinding
  let current := Compact.balanceCommitment args.state.currentBalance currentBlinding
    (stateNoteLeaf args.state)
  ensureStoredCommitment args.state current
  let anonymous ← rerandomize current journal.userRerandomization
  let expected ←
    Compact.serverUpdate anonymous response.chargeApplied response.blindDeltaSrv
  failIf (expected ≠ response.nextCommitment) (.message "next commitment algebra mismatch")
  let message := Core.stateMessage args.state.protocolVersion args.state.chainId
    args.state.contractAddress response.nextCommitment.x response.nextCommitment.y
    response.nextAnchor
  let valid ← verifySignature config.stateSigningKey message response.nextStateSignature
  failIf (valid = false) (.message "invalid next-state signature")
  let nextBlinding := addBlindings (addBlindings currentBlinding journal.userRerandomization)
    response.blindDeltaSrv
  let currentBalance ← okOrElse (checkedSub args.state.currentBalance response.chargeApplied)
    "charge exceeds balance"
  return { args.state with
    currentBalance
    balanceBlinding := nextBlinding.toHex
    currentCommitmentX := response.nextCommitment.x
    currentCommitmentY := response.nextCommitment.y
    currentAnchor := response.nextAnchor
    isGenesis := false
    stateSignature := some response.nextStateSignature }

end

end ZkApi.Browser
