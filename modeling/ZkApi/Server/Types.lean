import ZkApi.Stark.Xmss

/-!
# Types of the server

Errors, the configuration, and the records that clients send and receive in the first
version of the protocol.
-/

namespace ZkApi.Server

open Stark

/-! ### Errors -/

/-- `ServerError`. -/
inductive ServerError where
  | invalidProof (text : String)
  | staleRoot (latestRoot : String)
  | replay
  | noteExpired
  | internal (text : String)
  | capacityExhausted
  | nullifierUsed
  | database (text : String)
  | invalidRequest (text : String)
  | protocolMismatch (text : String)
  deriving DecidableEq

/-- The text of an error. -/
def ServerError.display : ServerError → String
  | .invalidProof text => s!"invalid proof: {text}"
  | .staleRoot latestRoot => s!"stale root: latest is {latestRoot}"
  | .replay => "replayed nullifier"
  | .noteExpired => "note expired"
  | .internal text => s!"internal error: {text}"
  | .capacityExhausted => "capacity exhausted"
  | .nullifierUsed => "nullifier already used"
  | .database text => s!"database error: {text}"
  | .invalidRequest text => s!"invalid request: {text}"
  | .protocolMismatch text => s!"protocol mismatch: {text}"

/-- How a call of the server ends without a value. -/
inductive Abort where
  | error (e : ServerError)
  | panic
  deriving DecidableEq

/-! ### Configuration -/

/-- `EpochRoots`. -/
structure EpochRoots where
  epoch : U32
  stateRoot : Felt252
  clearRoot : Felt252

/-- `lookup_state_root`. -/
def lookupStateRoot (roots : List EpochRoots) (epoch : U32) : Option Felt252 :=
  (roots.find? (fun entry => entry.epoch == epoch)).map EpochRoots.stateRoot

/-- `ServerConfig`.  The addresses, the timeouts and the proof backend are left out. -/
structure ServerConfig where
  protocolVersion : U16
  chainId : U64
  contractAddress : Felt252
  requestChargeCap : U128
  policyChargeCap : U128
  policyEnabled : Bool
  stateSeed : Felt252
  clearSeed : Felt252
  epoch : U32
  xmssHeight : ℕ
  trustedEpochRoots : List EpochRoots

/-- The cap that the policy in force puts on a charge. -/
def ServerConfig.chargeCap (config : ServerConfig) : U128 :=
  if config.policyEnabled then config.policyChargeCap else config.requestChargeCap

/-! ### Records on the wire -/

def STATEMENT_TYPE_REQUEST : BitVec 8 := 1

/-- `RequestPublicInputs`. -/
structure RequestPublicInputs where
  statementType : BitVec 8
  protocolVersion : U16
  chainId : U64
  contractAddress : Felt252
  activeRoot : Felt252
  stateSigEpoch : U32
  stateSigRoot : Felt252
  requestNullifier : Felt252
  anonCommitmentX : Felt252
  anonCommitmentY : Felt252
  expiryTs : U64
  solvencyBound : U128
  deriving DecidableEq

/-- `to_cairo_outputs`. -/
def RequestPublicInputs.toCairoOutputs (p : RequestPublicInputs) : List Felt252 :=
  [p.statementType.setWidth 256, p.protocolVersion.setWidth 256, p.chainId.setWidth 256,
    p.contractAddress, p.activeRoot, p.stateSigEpoch.setWidth 256, p.stateSigRoot,
    p.requestNullifier, p.anonCommitmentX, p.anonCommitmentY, p.expiryTs.setWidth 256,
    p.solvencyBound.setWidth 256]

/-- `public_output_hash`. -/
def RequestPublicInputs.publicOutputHash (keccak256 : List UInt8 → List UInt8)
    (p : RequestPublicInputs) : Except Failure Felt252 :=
  hashBytesToFelt keccak256 "zkapi.req.outputs.v1"
    (p.toCairoOutputs.flatMap fun felt => felt.asBytes.map UInt8.ofNat)

/-- `ProofArtifactWire`. -/
structure ProofArtifactWire where
  backend : ProofBackendWire
  publicOutputHash : Felt252
  proof : String
  deriving DecidableEq

/-- `ApiRequest`. -/
structure ApiRequest where
  clientRequestId : String
  payload : String
  payloadHash : Felt252
  publicInputs : RequestPublicInputs
  proof : ProofArtifactWire
  deriving DecidableEq

/-- `RequestResponse`. -/
structure RequestResponse where
  status : String
  clientRequestId : String
  requestNullifier : Felt252
  responseCode : U16
  responsePayload : String
  responseHash : Felt252
  chargeApplied : U128
  nextCommitment : CurvePointWire
  nextAnchor : Felt252
  blindDeltaSrv : Felt252
  nextStateSigEpoch : U32
  nextStateSigRoot : Felt252
  nextStateSig : XmssSignature
  policyReasonCode : Option U32
  policyEvidenceHash : Option Felt252
  deriving DecidableEq

/-- `ClearanceRequest`. -/
structure ClearanceRequest where
  withdrawalNullifier : Felt252
  deriving DecidableEq

/-- `ClearanceResponse`. -/
structure ClearanceResponse where
  status : String
  withdrawalNullifier : Felt252
  clearSigEpoch : U32
  clearSigRoot : Felt252
  clearSig : XmssSignature
  deriving DecidableEq

/-- `ProviderResponse`. -/
structure ProviderResponse where
  statusCode : U16
  payload : String
  chargeApplied : U128
  policyReasonCode : Option U32
  policyEvidenceHash : Option Felt252

end ZkApi.Server
