import ZkApi.Client.Settlement
import ZkApi.Library.Keccak
import ZkApi.Proof.Signing

/-!
# Answers that settle

What a server with the signing key returns for a request.  The wallet accepts it whatever the
server draws, so that requests can always be settled.
-/

namespace ZkApi.Client

open ZkApi.Compact FaultIO

/-- What a server answers with, apart from what it takes from the request: the payload with its
hash, the charge, the next anchor, the change of the blinding, and the nonce. -/
structure AnswerArgs where
  payload : String
  payloadHash : Felt252
  charge : U128
  anchor : Felt252
  blindDelta : Felt252
  nonce : EdwardsScalarField

/-- The answer of a server to a request of a state. -/
def answer (signer : CompactSigner) (state : NoteState) (requestId : String)
    (nullifier : Felt252) (anonymous : EdwardsAffine) (args : AnswerArgs) : RequestResponseV2 :=
  let next := pointToWire
    (ZkApi.serverUpdate anonymous args.charge (scalar args.blindDelta))
  { clientRequestId := requestId
    requestNullifier := nullifier
    responsePayload := args.payload
    responseHash := args.payloadHash
    chargeApplied := args.charge
    nextCommitment := next
    nextAnchor := args.anchor
    blindDeltaSrv := args.blindDelta
    nextStateSignature := signer.sign
      (Core.stateMessage state.protocolVersion state.chainId state.contractAddress next.x next.y
        args.anchor) args.nonce }

section

variable {keccak256 : List UInt8 → List UInt8} {state : NoteState} {blinding : Felt252}

/-- The state after a deposit stores its commitment. -/
theorem stored_depositState (config : ClientConfig) (secret : Felt252) (noteId : U32)
    (depositAmount : U128) (expiry : U64) (random : EdwardsScalarField) :
  Stored (depositState config secret noteId depositAmount expiry (scalarToFelt random))
    (scalarToFelt random)
  := by
  constructor
  case parsed =>
    apply Felt252.fromHex_toHex_canonical (canonical_scalarToFelt random)
  case commitment => rfl

/-- The signature of a signer is verified over the wire. -/
theorem verifySignature_sign (seed message : Felt252) (nonce : EdwardsScalarField) :
  verifySignature (CompactSigner.fromSeed seed).publicKey message
      ((CompactSigner.fromSeed seed).sign message nonce)
    = .ok true
  := by
  have hmem : (CompactSigner.fromSeed seed).key.publicKey ∈ primeSubgroup :=
    (StateSigningKey.sound_fromSecret (scalar seed)).publicKey_mem
  have hverify := CompactSigner.verify_sign seed message nonce
  rw [verifySignature, CompactSigner.publicKey, pointFromWire_pointToWire hmem]
  exact hverify

/-- The answers of a server settle the request, as far as the balance covers the charge. -/
theorem settles_answer {seed : Felt252} {requestId : String} {nullifier rerandomization : Felt252}
    {args : AnswerArgs} (hstored : Stored state blinding)
    (hhash : canonicalResponseHash keccak256 args.payload = .ok args.payloadHash)
    (hanchor : args.anchor ≠ 0) (hcharge : args.charge ≤ state.currentBalance) :
  Settles keccak256 (CompactSigner.fromSeed seed).publicKey state requestId nullifier
    rerandomization
    (answer (.fromSeed seed) state requestId nullifier
      (anonymousCommitment state blinding rerandomization) args)
    blinding
  := by
  constructor
  case stored => exact hstored
  case responseHash => exact hhash
  case nextAnchor => exact hanchor
  case signature => apply verifySignature_sign
  case charge => exact hcharge
  all_goals rfl

end

namespace NoteExample

/-- A configuration, for its cap. -/
def config (cap : U128) : ClientConfig where
  protocolVersion := 2
  chainId := 1
  contractAddress := 1
  requestChargeCap := cap
  policyChargeCap := cap
  policyEnabled := false
  stateSigningKey := (CompactSigner.fromSeed 1).publicKey
  clearanceSigningKey := (CompactSigner.fromSeed 2).publicKey

/-- A note of 10. -/
def state : NoteState :=
  depositState (config 5) 1 0 10 100 (scalarToFelt 1)

theorem stored :
  Stored state (scalarToFelt 1)
  := stored_depositState _ _ _ _ _ _

/-- The hash of an empty response. -/
def responseHash : Felt252 :=
  0x11b7bbd8579de9dd90894473155efcd43b7f0b797eac82bdf6c54deb18e6ef1c

theorem responseHash_eq :
  canonicalResponseHash Keccak.keccak256 "" = .ok responseHash
  := by decide +kernel

/-- An empty answer. -/
def answerArgs (charge : U128) (anchor blindDelta : Felt252) : AnswerArgs where
  payload := ""
  payloadHash := responseHash
  charge
  anchor
  blindDelta
  nonce := 1

end NoteExample

end ZkApi.Client
