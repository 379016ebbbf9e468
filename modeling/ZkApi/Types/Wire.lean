import ZkApi.Types.Felt252

/-!
# Wire types and canonical hashes

The records that clients and servers exchange, and the hashes of payloads, responses and
request contexts, which run a counter until a Keccak digest is below the modulus.  Keccak is
a parameter.
-/

namespace ZkApi

/-! ### Records -/

/-- A point of the curve. -/
structure CurvePointWire where
  x : Felt252
  y : Felt252
  deriving DecidableEq

/-- A Schnorr signature. -/
structure SchnorrSignature where
  rX : Felt252
  rY : Felt252
  s : Felt252
  deriving DecidableEq

/-- The signature that stands for a missing one. -/
def SchnorrSignature.IDENTITY : SchnorrSignature where
  rX := 0
  rY := 1
  s := 0

/-- `ProofBackendWire`. -/
inductive ProofBackendWire where
  | stwoCairo
  | groth16Bn254
  deriving DecidableEq

/-- A proof, encoded in base64. -/
structure Groth16ProofWire where
  backend : ProofBackendWire
  proof : String
  deriving DecidableEq

/-- The public statement of a request. -/
structure RequestPublicInputsV2 where
  protocolVersion : U16
  chainId : U64
  contractAddress : Felt252
  activeRoot : Felt252
  stateSigningKeyX : Felt252
  stateSigningKeyY : Felt252
  requestTime : U64
  solvencyBound : U128
  requestNullifier : Felt252
  authorizationTag : Felt252
  anonymousCommitmentX : Felt252
  anonymousCommitmentY : Felt252
  deriving DecidableEq

/-- The public statement of a withdrawal. -/
structure WithdrawalPublicInputsV2 where
  protocolVersion : U16
  chainId : U64
  contractAddress : Felt252
  activeRoot : Felt252
  stateSigningKeyX : Felt252
  stateSigningKeyY : Felt252
  clearanceSigningKeyX : Felt252
  clearanceSigningKeyY : Felt252
  noteId : U32
  finalBalance : U128
  destination : Address
  withdrawalNullifier : Felt252
  hasClearance : Bool
  withdrawalTag : Felt252
  deriving DecidableEq

/-- `destination_field`. -/
def WithdrawalPublicInputsV2.destinationField (p : WithdrawalPublicInputsV2) : Felt252 :=
  p.destination.setWidth 256

/-- A request. -/
structure ApiRequestV2 where
  clientRequestId : String
  payload : String
  payloadHash : Felt252
  publicInputs : RequestPublicInputsV2
  proof : Groth16ProofWire
  deriving DecidableEq

/-- The response to a request.  The fields that no client reads are left out. -/
structure RequestResponseV2 where
  clientRequestId : String
  requestNullifier : Felt252
  responsePayload : String
  responseHash : Felt252
  chargeApplied : U128
  nextCommitment : CurvePointWire
  nextAnchor : Felt252
  blindDeltaSrv : Felt252
  nextStateSignature : SchnorrSignature
  deriving DecidableEq

/-- The elements of a response are those that deserialization lets through. -/
structure RequestResponseV2.Canonical (r : RequestResponseV2) : Prop where
  nextAnchor : r.nextAnchor.Canonical
  blindDeltaSrv : r.blindDeltaSrv.Canonical
  rX : r.nextStateSignature.rX.Canonical
  rY : r.nextStateSignature.rY.Canonical
  s : r.nextStateSignature.s.Canonical

/-! ### Canonical hashes -/

/-- A number as bytes of a fixed width, most significant first. -/
def beBytes (n value : ℕ) : List UInt8 :=
  (Digits.toDigits 256 n value).map UInt8.ofNat

theorem length_beBytes (n value : ℕ) :
  (beBytes n value).length = n
  := by
  rw [beBytes, List.length_map, Digits.length_toDigits]

theorem map_toNat_beBytes (n value : ℕ) :
  (beBytes n value).map UInt8.toNat = Digits.toDigits 256 n value
  := by
  have hself : ∀ d ∈ Digits.toDigits 256 n value, (UInt8.toNat ∘ UInt8.ofNat) d = id d := by
    intro d hd
    apply UInt8.toNat_ofNat_of_lt' (Digits.lt_of_mem_toDigits (by norm_num) hd)
  rw [beBytes, List.map_map, List.map_congr_left hself, List.map_id]

theorem beBytes_inj {n value value' : ℕ} (hvalue : value < 256 ^ n) (hvalue' : value' < 256 ^ n)
    (h : beBytes n value = beBytes n value') :
  value = value'
  := by
  have hdigits := congrArg (List.map UInt8.toNat) h
  rw [map_toNat_beBytes, map_toNat_beBytes] at hdigits
  rw [← Digits.ofDigits_toDigits hvalue, hdigits, Digits.ofDigits_toDigits hvalue']

/-- Bytes are those of the number that they stand for. -/
theorem beBytes_ofDigits {n : ℕ} {bytes : List UInt8} (hlen : bytes.length = n) :
  beBytes n (Digits.ofDigits 256 (bytes.map UInt8.toNat)) = bytes
  := by
  have hdigits : ∀ d ∈ bytes.map UInt8.toNat, d < 256 := by
    intro d hd
    obtain ⟨byte, _, rfl⟩ := List.mem_map.mp hd
    apply byte.toNat_lt
  have hround := Digits.toDigits_ofDigits hdigits
  rw [List.length_map, hlen] at hround
  have hself : (UInt8.ofNat ∘ UInt8.toNat) = id := by
    funext byte
    apply UInt8.ofNat_toNat
  rw [beBytes, hround, List.map_map, hself, List.map_id]

section

variable (keccak256 : List UInt8 → List UInt8)

/-- The loop of `hash_bytes_to_felt`, for the values of the counter that are left. -/
def hashBytesToFeltFrom (label payload : List UInt8) : ℕ → ℕ → Except Failure Felt252
  | 0, _ => .error .panic
  | left + 1, counter =>
      let digest :=
        keccak256 (label ++ beBytes 8 payload.length ++ payload ++ beBytes 4 counter)
      match Felt252.tryFromBytesBe (digest.map UInt8.toNat) with
      | .ok felt => .ok felt
      | .error _ => hashBytesToFeltFrom label payload left (counter + 1)

/-- `hash_bytes_to_felt`. -/
def hashBytesToFelt (label : String) (payload : List UInt8) : Except Failure Felt252 :=
  hashBytesToFeltFrom keccak256 (Felt252.utf8 label.toList) payload (2 ^ 32) 0

/-- `canonical_payload_hash`. -/
def canonicalPayloadHash (payload : String) : Except Failure Felt252 :=
  hashBytesToFelt keccak256 "zkapi.payload.v1" (Felt252.utf8 payload.toList)

/-- `canonical_response_hash`. -/
def canonicalResponseHash (payload : String) : Except Failure Felt252 :=
  hashBytesToFelt keccak256 "zkapi.response.v1" (Felt252.utf8 payload.toList)

/-- `canonical_request_context`. -/
def canonicalRequestContext (clientRequestId : String) (payloadHash : Felt252) :
    Except Failure Felt252 :=
  let id := Felt252.utf8 clientRequestId.toList
  hashBytesToFelt keccak256 "zkapi.v2.request-context"
    (beBytes 8 id.length ++ id ++ payloadHash.asBytes.map UInt8.ofNat)

variable {keccak256}

/-- A hash is a canonical element. -/
theorem canonical_hashBytesToFeltFrom {label payload : List UInt8} {left counter : ℕ}
    {felt : Felt252} (h : hashBytesToFeltFrom keccak256 label payload left counter = .ok felt) :
  felt.Canonical
  := by
  induction left generalizing counter with
  | zero => cases h
  | succ left ih =>
    rw [hashBytesToFeltFrom] at h
    split at h
    case h_1 hdigest =>
      cases h
      apply Felt252.canonical_of_tryFromBytesBe hdigest
    case h_2 => apply ih h

theorem canonical_of_hashBytesToFelt {label : String} {payload : List UInt8} {felt : Felt252}
    (h : hashBytesToFelt keccak256 label payload = .ok felt) :
  felt.Canonical
  := canonical_hashBytesToFeltFrom h

end

end ZkApi
