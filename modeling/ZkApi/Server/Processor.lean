import ZkApi.Server.System

/-!
# Processing requests and clearances

The two calls that release something for a nullifier: the response to a request, with the
next state signed, and the signature that clears a withdrawal.
-/

namespace ZkApi.Server

open Stark Concurrent

/-! ### Responses from the store -/

/-- `empty_xmss_sig`. -/
def emptyXmssSig : XmssSignature where
  epoch := 0
  leafIndex := 0
  wotsSig := List.replicate WOTS_LEN 0
  authPath := List.replicate 20 0

/-- `build_response_from_record`. -/
def buildResponseFromRecord (record : TranscriptRecord) (clientRequestId : String) :
    RequestResponse where
  status := "ok"
  clientRequestId := clientRequestId
  requestNullifier := record.nullifier
  responseCode := record.responseCode.getD 200
  responsePayload := record.responsePayload.getD ""
  responseHash := record.responseHash.getD 0
  chargeApplied := record.chargeApplied.getD 0
  nextCommitment := {
    x := record.nextCommitmentX.getD 0
    y := record.nextCommitmentY.getD 0 }
  nextAnchor := record.nextAnchor.getD 0
  blindDeltaSrv := record.blindDeltaSrv.getD 0
  nextStateSigEpoch := record.nextStateSigEpoch.getD 0
  nextStateSigRoot := record.nextStateSigRoot.getD 0
  nextStateSig := record.nextStateSig.getD emptyXmssSig
  policyReasonCode := record.policyReasonCode
  policyEvidenceHash := record.policyEvidenceHash

/-! ### Checks -/

/-- `validate_state_sig_root`. -/
def validateStateSigRoot (config : ServerConfig) (signer : ServerSigner) (epoch : U32)
    (root : Felt252) : Handler Unit :=
  if epoch = 0 then
    rejectIf (root ≠ 0) (.invalidRequest "genesis state_sig_root must be zero")
  else if root = signer.root .state then
    pure ()
  else if lookupStateRoot config.trustedEpochRoots epoch = some root then
    pure ()
  else
    throw (.error (.invalidRequest "state_sig_root is not trusted for state_sig_epoch"))

/-- The checks of `process_request` on the public inputs. -/
def validateInputs (env : Env) (apiRequest : ApiRequest) : Handler Unit := do
  let pi := apiRequest.publicInputs
  let config := env.config
  let actualPayloadHash ← orPanic (canonicalPayloadHash env.keccak256 apiRequest.payload)
  rejectIf (apiRequest.payloadHash ≠ actualPayloadHash)
    (.invalidRequest "payload_hash does not match actual payload bytes")
  rejectIf (pi.protocolVersion ≠ config.protocolVersion)
    (.protocolMismatch (s!"expected protocol_version={config.protocolVersion.toNat}, "
      ++ s!"got {pi.protocolVersion.toNat}"))
  rejectIf (pi.chainId ≠ config.chainId)
    (.protocolMismatch
      s!"expected chain_id={config.chainId.toNat}, got {pi.chainId.toNat}")
  rejectIf (pi.contractAddress ≠ config.contractAddress)
    (.protocolMismatch (s!"contract_address mismatch: expected {config.contractAddress.toHex}, "
      ++ s!"got {pi.contractAddress.toHex}"))
  let root : Felt252 ← call .currentRoot
  rejectIf (pi.activeRoot ≠ root) (.staleRoot root.toHex)
  let now : U64 ← call .currentTimestamp
  rejectIf (pi.expiryTs ≤ now) .noteExpired
  rejectIf (pi.solvencyBound < config.chargeCap)
    (.invalidRequest (s!"solvency_bound {pi.solvencyBound.toNat} is less than "
      ++ s!"request_charge_cap {config.chargeCap.toNat}"))
  rejectIf (pi.statementType ≠ STATEMENT_TYPE_REQUEST)
    (.invalidRequest (s!"expected statement_type={STATEMENT_TYPE_REQUEST.toNat}, "
      ++ s!"got {pi.statementType.toNat}"))
  validateStateSigRoot config env.signer pi.stateSigEpoch pi.stateSigRoot

/-- `verify_request_proof_artifact`. -/
def verifyRequestProofArtifact (env : Env) (apiRequest : ApiRequest) :
    Handler (List UInt8) := do
  let pi := apiRequest.publicInputs
  let artifact := apiRequest.proof
  rejectIf (artifact.backend ≠ .stwoCairo) (.invalidProof "unsupported proof backend")
  let expectedHash ← orPanic (pi.publicOutputHash env.keccak256)
  rejectIf (artifact.publicOutputHash ≠ expectedHash)
    (.invalidProof "proof public_output_hash does not match request public inputs")
  let proofBytes ← orError ((env.decodeBase64 artifact.proof).mapError fun e =>
    ServerError.invalidProof s!"invalid base64 proof: {e}")
  let verified : Except String Unit ← call (.verifyArtifact proofBytes pi)
  orError (verified.mapError ServerError.invalidProof)
  pure proofBytes

/-! ### The next state -/

/-- What the server signs as the next state of a note. -/
structure NextState where
  commitmentX : Felt252
  commitmentY : Felt252
  anchor : Felt252
  blindDelta : Felt252

/-- `generate_server_rng`. -/
def generateServerRng (env : Env) (nullifier : Felt252) : Felt252 :=
  Stark.poseidonHash env.poseidonHashMany (domainFelt "zkapi.anchor") nullifier 1

/-- `generate_server_rng2`. -/
def generateServerRng2 (env : Env) (nullifier : Felt252) : Felt252 :=
  Stark.poseidonHash env.poseidonHashMany (domainFelt "zkapi.blind") nullifier 2

/-- The state that `process_request` derives for a leaf.  A commitment at infinity has no
coordinates, which is a panic. -/
def nextState (env : Env) (pi : RequestPublicInputs) (anonPoint : env.curve.Point) (charge : U128)
    (leafIndex : U32) : Except Abort NextState := do
  let blindDelta := computeBlindDelta env.poseidonHashMany
    (generateServerRng2 env pi.requestNullifier) pi.requestNullifier leafIndex
  let some updated := Stark.serverUpdate env.curve anonPoint charge (feltToField blindDelta)
    | throw .panic
  let some (x, y) := env.curve.toAffine updated | throw .panic
  let nextCx := fieldToFelt x
  let nextCy := fieldToFelt y
  pure {
    commitmentX := nextCx
    commitmentY := nextCy
    anchor := computeNextAnchor env.poseidonHashMany (generateServerRng env pi.requestNullifier)
      pi.requestNullifier nextCx nextCy leafIndex
    blindDelta := blindDelta }

/-- The message that is signed for the state. -/
def NextState.message (env : Env) (state : NextState) : Felt252 :=
  computeStateMessage env.poseidonHashMany env.config.protocolVersion env.config.chainId
    env.config.contractAddress state.commitmentX state.commitmentY state.anchor

/-! ### Requests -/

/-- The record that `process_request` finalizes. -/
def transcriptOf (env : Env) (apiRequest : ApiRequest) (provider : ProviderResponse)
    (responseHash : Felt252) (state : NextState) (sig : XmssSignature)
    (proofBytes : List UInt8) (createdAt finalizedAt : U64) : TranscriptRecord where
  nullifier := apiRequest.publicInputs.requestNullifier
  status := .finalized
  clientRequestId := some apiRequest.clientRequestId
  payloadHash := some apiRequest.payloadHash
  chargeApplied := some provider.chargeApplied
  responseCode := some provider.statusCode
  responsePayload := some provider.payload
  responseHash := some responseHash
  nextCommitmentX := some state.commitmentX
  nextCommitmentY := some state.commitmentY
  nextAnchor := some state.anchor
  blindDeltaSrv := some state.blindDelta
  nextStateSigEpoch := some sig.epoch
  nextStateSigRoot := some (env.signer.root .state)
  nextStateSig := some sig
  policyReasonCode := provider.policyReasonCode
  policyEvidenceHash := provider.policyEvidenceHash
  proofBlob := some proofBytes
  requestInputs := some apiRequest.publicInputs
  createdAt := createdAt
  finalizedAt := some finalizedAt

/-- The response that `process_request` builds after the transcript is finalized. -/
def responseOf (env : Env) (apiRequest : ApiRequest) (provider : ProviderResponse)
    (responseHash : Felt252) (state : NextState) (sig : XmssSignature) : RequestResponse where
  status := "ok"
  clientRequestId := apiRequest.clientRequestId
  requestNullifier := apiRequest.publicInputs.requestNullifier
  responseCode := provider.statusCode
  responsePayload := provider.payload
  responseHash := responseHash
  chargeApplied := provider.chargeApplied
  nextCommitment := {
    x := state.commitmentX
    y := state.commitmentY }
  nextAnchor := state.anchor
  blindDeltaSrv := state.blindDelta
  nextStateSigEpoch := sig.epoch
  nextStateSigRoot := env.signer.root .state
  nextStateSig := sig
  policyReasonCode := provider.policyReasonCode
  policyEvidenceHash := provider.policyEvidenceHash

/-- The steps of `process_request` after the nullifier is reserved. -/
def executeRequest (env : Env) (apiRequest : ApiRequest) (proofBytes : List UInt8) :
    Handler RequestResponse := do
  let pi := apiRequest.publicInputs
  let executed : Except ServerError ProviderResponse ←
    call (.execute apiRequest.clientRequestId apiRequest.payload apiRequest.payloadHash)
  let provider ← orError executed
  let responseHash ← orPanic (canonicalResponseHash env.keccak256 provider.payload)
  rejectIf (env.config.chargeCap < provider.chargeApplied)
    (.internal (s!"provider charge {provider.chargeApplied.toNat} exceeds "
      ++ s!"cap {env.config.chargeCap.toNat}"))
  let anonPoint ← orPanic ((env.curve.fromAffine (feltToField pi.anonCommitmentX)
    (feltToField pi.anonCommitmentY)).elim (.error ()) .ok)
  let (sig, leafIndex, _) ← signNextState env.signer fun leafIndex =>
    (nextState env pi anonPoint provider.chargeApplied leafIndex).map (NextState.message env)
  -- the closure leaves the state that it has built for this leaf
  let state ← fromExcept (nextState env pi anonPoint provider.chargeApplied leafIndex)
  let createdAt : U64 ← call .currentTimestamp
  let finalizedAt : U64 ← call .currentTimestamp
  let finalized : Except ServerError Unit ← call (.finalize pi.requestNullifier
    (transcriptOf env apiRequest provider responseHash state sig proofBytes createdAt finalizedAt))
  orError (finalized.mapError fun e =>
    ServerError.internal s!"failed to finalize transcript: {e.display}")
  pure (responseOf env apiRequest provider responseHash state sig)

/-- The record is of the same request. -/
def TranscriptRecord.SameRequest (record : TranscriptRecord) (apiRequest : ApiRequest) : Prop :=
  record.clientRequestId = some apiRequest.clientRequestId
    ∧ record.payloadHash = some apiRequest.payloadHash

instance (record : TranscriptRecord) (apiRequest : ApiRequest) :
    Decidable (record.SameRequest apiRequest) :=
  inferInstanceAs (Decidable (_ ∧ _))

/-- `process_request`. -/
def processRequest (env : Env) (apiRequest : ApiRequest) : Handler RequestResponse := do
  let pi := apiRequest.publicInputs
  validateInputs env apiRequest
  let proofBytes ← verifyRequestProofArtifact env apiRequest
  let looked : Except Failure (Option TranscriptRecord) ←
    call (.lookupByNullifier pi.requestNullifier)
  let existing ← orPanic looked
  match existing with
  | some record =>
      if record.SameRequest apiRequest ∧ record.status = .finalized then
        pure (buildResponseFromRecord record apiRequest.clientRequestId)
      else if record.SameRequest apiRequest ∧ record.status = .reserved then
        executeRequest env apiRequest proofBytes
      else
        throw (.error .replay)
  | none =>
      let reserved : Except ServerError Unit ←
        call (.reserve pi.requestNullifier apiRequest.clientRequestId apiRequest.payloadHash)
      orError reserved
      executeRequest env apiRequest proofBytes

/-! ### Clearances -/

/-- `process_clearance`. -/
def processClearance (env : Env) (clearanceReq : ClearanceRequest) :
    Handler ClearanceResponse := do
  let nullifier := clearanceReq.withdrawalNullifier
  let looked : Except Failure (Option TranscriptRecord) ← call (.lookupByNullifier nullifier)
  let existing ← orPanic looked
  rejectIf (existing.isSome = true) .nullifierUsed
  let clearMsg := computeClearanceMessage env.poseidonHashMany env.config.protocolVersion
    env.config.chainId env.config.contractAddress nullifier
  let (clearSig, _) ← signClearance env.signer clearMsg
  let reserved : Except ServerError Unit ← call (.reserveClearance nullifier)
  orError reserved
  pure {
    status := "ok"
    withdrawalNullifier := nullifier
    clearSigEpoch := clearSig.epoch
    clearSigRoot := env.signer.root .clear
    clearSig := clearSig }

end ZkApi.Server
