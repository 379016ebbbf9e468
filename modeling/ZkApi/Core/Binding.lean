import ZkApi.Core
import ZkApi.Library.Framing
import ZkApi.Library.Keccak

/-!
# What the hashes bind

Bytes are hashed to a field element under a domain, with their length in front and a counter
behind them that is raised until the digest is canonical.  The domain, the length, the bytes and
the counter are put together without separators, and the context of a request nests two such
encodings.  Still, a hash binds its domain and what is hashed, and the authorization tag of a
request binds its nullifier, its id and its payload.
-/

namespace ZkApi

open Poseidon

/-! ### What is hashed -/

namespace Inputs

section

variable (keccak256 : List UInt8 → List UInt8)

/-- `canonical_payload_hash`, of any bytes. -/
def canonicalPayloadHash (payload : List UInt8) : Except Failure Felt252 :=
  hashBytesToFelt keccak256 "zkapi.payload.v1" payload

/-- `canonical_response_hash`, of any bytes. -/
def canonicalResponseHash (payload : List UInt8) : Except Failure Felt252 :=
  hashBytesToFelt keccak256 "zkapi.response.v1" payload

/-- `hash_felts_to_felt`. -/
def hashFeltsToFelt (label : String) (felts : List Felt252) : Except Failure Felt252 :=
  hashBytesToFelt keccak256 label (felts.flatMap fun felt => felt.asBytes.map UInt8.ofNat)

/-- `to_u64`. -/
def toU64 (felt : Felt252) : Option U64 :=
  if felt.toNat < 2 ^ 64 then some (felt.setWidth 64) else none

/-- `request_public_output_hash_from_outputs`. -/
def requestPublicOutputHashFromOutputs (outputs : List Felt252) : Except Failure Felt252 := do
  failIf (outputs.length ≠ 12)
    (.message s!"request proof emitted {outputs.length} public outputs, expected 12")
  failIf (outputs.head?.bind toU64 ≠ some 1)
    (.message "request proof emitted wrong statement_type")
  hashFeltsToFelt keccak256 "zkapi.req.outputs.v1" outputs

/-- `withdrawal_public_output_hash_from_outputs`. -/
def withdrawalPublicOutputHashFromOutputs (outputs : List Felt252) : Except Failure Felt252 := do
  failIf (outputs.length ≠ 15)
    (.message s!"withdrawal proof emitted {outputs.length} public outputs, expected 15")
  failIf (outputs.head?.bind toU64 ≠ some 2)
    (.message "withdrawal proof emitted wrong statement_type")
  hashFeltsToFelt keccak256 "zkapi.wd.outputs.v1" outputs

/-- `public_output_hash_from_cairo_outputs`. -/
def publicOutputHashFromCairoOutputs (outputs : List Felt252) : Except Failure Felt252 :=
  match outputs.head?.bind toU64 with
  | some statementType =>
      if statementType = 1 then requestPublicOutputHashFromOutputs keccak256 outputs
      else if statementType = 2 then withdrawalPublicOutputHashFromOutputs keccak256 outputs
      else .error (.message s!"unknown statement_type {statementType.toNat}")
  | none => .error (.message "proof emitted no public outputs")

end

end Inputs

/-- What is hashed to a field element, with the domain that it is hashed under. -/
inductive HashInput where
  | payload (bytes : List UInt8)
  | response (bytes : List UInt8)
  | requestContext (clientRequestId : String) (payloadHash : Felt252)
  | requestOutputs (outputs : List Felt252)
  | withdrawalOutputs (outputs : List Felt252)

namespace HashInput

/-- The domain. -/
def label : HashInput → String
  | payload _ => "zkapi.payload.v1"
  | response _ => "zkapi.response.v1"
  | requestContext _ _ => "zkapi.v2.request-context"
  | requestOutputs _ => "zkapi.req.outputs.v1"
  | withdrawalOutputs _ => "zkapi.wd.outputs.v1"

/-- The bytes that are framed. -/
def bytes : HashInput → List UInt8
  | payload bytes => bytes
  | response bytes => bytes
  | requestContext clientRequestId payloadHash =>
      let id := Felt252.utf8 clientRequestId.toList
      beBytes 8 id.length ++ id ++ payloadHash.asBytes.map UInt8.ofNat
  | requestOutputs outputs => outputs.flatMap fun felt => felt.asBytes.map UInt8.ofNat
  | withdrawalOutputs outputs => outputs.flatMap fun felt => felt.asBytes.map UInt8.ofNat

section

variable (keccak256 : List UInt8 → List UInt8)

/-- The hash. -/
def hash : HashInput → Except Failure Felt252
  | payload bytes => Inputs.canonicalPayloadHash keccak256 bytes
  | response bytes => Inputs.canonicalResponseHash keccak256 bytes
  | requestContext clientRequestId payloadHash =>
      canonicalRequestContext keccak256 clientRequestId payloadHash
  | requestOutputs outputs => Inputs.hashFeltsToFelt keccak256 "zkapi.req.outputs.v1" outputs
  | withdrawalOutputs outputs => Inputs.hashFeltsToFelt keccak256 "zkapi.wd.outputs.v1" outputs

end

end HashInput

/-- What Keccak is given for a value of the counter. -/
def hashPreimage (label payload : List UInt8) (counter : ℕ) : List UInt8 :=
  label ++ beBytes 8 payload.length ++ payload ++ beBytes 4 counter

section

variable (keccak256 : List UInt8 → List UInt8)

/-- What Keccak is given until a digest is canonical, for the values of the counter that are
left. -/
def triedFrom (label payload : List UInt8) : ℕ → ℕ → List (List UInt8)
  | 0, _ => []
  | left + 1, counter =>
      let preimage := hashPreimage label payload counter
      match Felt252.tryFromBytesBe ((keccak256 preimage).map UInt8.toNat) with
      | .ok _ => [preimage]
      | .error _ => preimage :: triedFrom label payload left (counter + 1)

/-- What Keccak is given for an input. -/
def HashInput.tried (input : HashInput) : List (List UInt8) :=
  triedFrom keccak256 (Felt252.utf8 input.label.toList) input.bytes (2 ^ 32) 0

/-- Keccak has no collision among what it is given for some inputs. -/
def HashInput.CollisionFree (inputs : List HashInput) : Prop :=
  Set.InjOn keccak256 {x | x ∈ inputs.flatMap (HashInput.tried keccak256)}

end

/-- What is hashed to an authorization tag. -/
def tagPreimage (nullifier requestContext : Felt252) : List Fr :=
  [domain "zkapi.v2.auth", residue nullifier, residue requestContext]

/-! ### Encodings -/

theorem length_asBytes (x : Felt252) :
  (x.asBytes.map UInt8.ofNat).length = 32
  := by
  rw [List.length_map, Felt252.asBytes, Digits.length_toDigits]

theorem asBytes_inj {x y : Felt252}
    (h : x.asBytes.map UInt8.ofNat = y.asBytes.map UInt8.ofNat) :
  x = y
  := by
  have hword : 2 ^ 256 = 256 ^ 32 := by norm_num
  apply BitVec.eq_of_toNat_eq
  apply beBytes_inj (hword ▸ x.isLt) (hword ▸ y.isLt) h

theorem utf8_inj {s t : String} (h : Felt252.utf8 s.toList = Felt252.utf8 t.toList) :
  s = t
  := by
  have hbytes : s.toList.utf8Encode = t.toList.utf8Encode := by
    rw [List.utf8Encode, List.utf8Encode]
    apply congrArg List.toByteArray h
  rw [String.utf8Encode_toList, String.utf8Encode_toList] at hbytes
  exact String.toByteArray_inj.mp hbytes

/-- Thirty-two bytes are determined by the element that they are read as. -/
theorem bytes_of_tryFromBytesBe {bytes : List UInt8} {x : Felt252} (hlen : bytes.length = 32)
    (h : Felt252.tryFromBytesBe (bytes.map UInt8.toNat) = .ok x) :
  bytes = beBytes 32 x.toNat
  := by
  have hdigits : ∀ d ∈ bytes.map UInt8.toNat, d < 256 := by
    intro d hd
    obtain ⟨byte, _, rfl⟩ := List.mem_map.mp hd
    apply byte.toNat_lt
  have hvalue := Digits.ofDigits_lt hdigits
  have hword : 256 ^ 32 = 2 ^ 256 := by norm_num
  rw [List.length_map, hlen] at hvalue
  have hx : x.toNat = Digits.ofDigits 256 (bytes.map UInt8.toNat) := by
    rw [Felt252.tryFromBytesBe] at h
    split at h
    case isTrue => cases h
    case isFalse =>
      cases h
      rw [BitVec.toNat_ofNat, Nat.mod_eq_of_lt (hword ▸ hvalue)]
  rw [hx, beBytes_ofDigits hlen]

/-! ### Frames -/

/-- The domains of the hashes. -/
def labelNames : List String :=
  ["zkapi.payload.v1", "zkapi.response.v1", "zkapi.v2.request-context", "zkapi.req.outputs.v1",
    "zkapi.wd.outputs.v1"]

/-- The domains of the hashes, as bytes. -/
def labels : Set (List UInt8) :=
  {l | l ∈ labelNames.map fun label => Felt252.utf8 label.toList}

/-- No domain is a prefix of another. -/
theorem prefixFree_labels :
  Framing.PrefixFree labels
  := by
  have hdistinct : ∀ l ∈ labelNames.map fun label => Felt252.utf8 label.toList,
      ∀ l' ∈ labelNames.map fun label => Felt252.utf8 label.toList, l <+: l' → l = l' := by decide
  intro l hl l' hl'
  apply hdistinct l hl l' hl'

theorem HashInput.label_mem (input : HashInput) :
  Felt252.utf8 input.label.toList ∈ labels
  := by
  have hname : input.label ∈ labelNames := by
    cases input with
    | payload => rw [label]; decide
    | response => rw [label]; decide
    | requestContext => rw [label]; decide
    | requestOutputs => rw [label]; decide
    | withdrawalOutputs => rw [label]; decide
  exact List.mem_map.mpr ⟨_, hname, rfl⟩

theorem hashPreimage_eq (label payload : List UInt8) (counter : ℕ) :
  hashPreimage label payload counter
    = Framing.frame (beBytes 8) label payload (beBytes 4 counter)
  := by
  rw [hashPreimage, Framing.frame, List.append_assoc, List.append_assoc]

/-- Domain, bytes and counter can be told apart. -/
theorem hashPreimage_inj {label label' payload payload' : List UInt8} {counter counter' : ℕ}
    (hlabel : label ∈ labels) (hlabel' : label' ∈ labels) (hcounter : counter < 2 ^ 32)
    (hcounter' : counter' < 2 ^ 32)
    (h : hashPreimage label payload counter = hashPreimage label' payload' counter') :
  label = label' ∧ payload = payload' ∧ counter = counter'
  := by
  have htrailer : (beBytes 4 counter).length = (beBytes 4 counter').length := by
    rw [length_beBytes, length_beBytes]
  rw [hashPreimage_eq, hashPreimage_eq] at h
  obtain ⟨hlabel, hpayload, hcounters⟩ :=
    Framing.frame_inj (length_beBytes 8) prefixFree_labels hlabel hlabel' htrailer h
  have hword : 2 ^ 32 = 256 ^ 4 := by norm_num
  exact ⟨hlabel, hpayload, beBytes_inj (hword ▸ hcounter) (hword ▸ hcounter') hcounters⟩

/-- Id and payload hash can be told apart. -/
theorem requestContext_bytes_inj {id id' : String} {payloadHash payloadHash' : Felt252}
    (h : (HashInput.requestContext id payloadHash).bytes
      = (HashInput.requestContext id' payloadHash').bytes) :
  id = id' ∧ payloadHash = payloadHash'
  := by
  have hframe : ∀ (id : String) (payloadHash : Felt252),
      (HashInput.requestContext id payloadHash).bytes = Framing.frame (beBytes 8) []
        (Felt252.utf8 id.toList) (payloadHash.asBytes.map UInt8.ofNat) := by
    intro id payloadHash
    rw [HashInput.bytes, Framing.frame, List.nil_append, List.append_assoc]
  have hnil : Framing.PrefixFree {([] : List UInt8)} := by
    rintro l rfl l' rfl _
    rfl
  rw [hframe, hframe] at h
  obtain ⟨_, hid, hhash⟩ := Framing.frame_inj (length_beBytes 8) hnil rfl rfl
    ((length_asBytes _).trans (length_asBytes _).symm) h
  exact ⟨utf8_inj hid, asBytes_inj hhash⟩

/-- Domain and bytes determine an input. -/
theorem HashInput.eq_of_bytes_eq {x y : HashInput}
    (hlabel : Felt252.utf8 x.label.toList = Felt252.utf8 y.label.toList)
    (hbytes : x.bytes = y.bytes) :
  x = y
  := by
  have houtputs : ∀ {outputs outputs' : List Felt252},
      (outputs.flatMap fun felt => felt.asBytes.map UInt8.ofNat)
        = (outputs'.flatMap fun felt => felt.asBytes.map UInt8.ofNat) → outputs = outputs' :=
    fun h => Framing.flatMap_inj length_asBytes (by norm_num) (fun _ _ h => asBytes_inj h) h
  have hlabel := utf8_inj hlabel
  cases x with
  | payload bytes =>
    cases y with
    | payload bytes' =>
      have hbytes : bytes = bytes' := hbytes
      rw [hbytes]
    | _ => exact absurd hlabel (by simp only [label]; decide)
  | response bytes =>
    cases y with
    | response bytes' =>
      have hbytes : bytes = bytes' := hbytes
      rw [hbytes]
    | _ => exact absurd hlabel (by simp only [label]; decide)
  | requestContext id payloadHash =>
    cases y with
    | requestContext id' payloadHash' =>
      obtain ⟨rfl, rfl⟩ := requestContext_bytes_inj hbytes
      rfl
    | _ => exact absurd hlabel (by simp only [label]; decide)
  | requestOutputs outputs =>
    cases y with
    | requestOutputs outputs' => rw [houtputs hbytes]
    | _ => exact absurd hlabel (by simp only [label]; decide)
  | withdrawalOutputs outputs =>
    cases y with
    | withdrawalOutputs outputs' => rw [houtputs hbytes]
    | _ => exact absurd hlabel (by simp only [label]; decide)

/-! ### Hashes -/

section

variable {keccak256 : List UInt8 → List UInt8}

/-- A hash is read off the digest of something that was tried. -/
theorem exists_tried {label payload : List UInt8} {left counter : ℕ} {felt : Felt252}
    (hcounter : counter + left ≤ 2 ^ 32)
    (h : hashBytesToFeltFrom keccak256 label payload left counter = .ok felt) :
  ∃ counter' < 2 ^ 32, hashPreimage label payload counter' ∈ triedFrom keccak256 label payload left
      counter
    ∧ Felt252.tryFromBytesBe ((keccak256 (hashPreimage label payload counter')).map UInt8.toNat)
      = .ok felt
  := by
  induction left generalizing counter with
  | zero => cases h
  | succ left ih =>
    rw [hashBytesToFeltFrom, ← hashPreimage] at h
    rw [triedFrom]
    rcases hdigest : Felt252.tryFromBytesBe
        ((keccak256 (hashPreimage label payload counter)).map UInt8.toNat) with e | felt'
    · rw [hdigest] at h
      obtain ⟨counter', hlt, hmem, hfelt⟩ := ih (by omega) h
      exact ⟨counter', hlt, List.mem_cons_of_mem _ hmem, hfelt⟩
    · rw [hdigest] at h
      cases h
      exact ⟨counter, by omega, List.mem_cons_self, hdigest⟩

/-- What the first digest of an input is read as. -/
def HashInput.firstDigest (keccak256 : List UInt8 → List UInt8) (input : HashInput) :
    Except Failure Felt252 :=
  Felt252.tryFromBytesBe ((keccak256
    (hashPreimage (Felt252.utf8 input.label.toList) input.bytes 0)).map UInt8.toNat)

theorem HashInput.hash_eq (input : HashInput) :
  input.hash keccak256
    = hashBytesToFeltFrom keccak256 (Felt252.utf8 input.label.toList) input.bytes (2 ^ 32) 0
  := by
  cases input <;> rfl

/-- Where the first digest is canonical, nothing else is tried. -/
theorem HashInput.hash_of_firstDigest {input : HashInput} {felt : Felt252}
    (h : input.firstDigest keccak256 = .ok felt) :
  input.hash keccak256 = .ok felt ∧ input.tried keccak256
    = [hashPreimage (Felt252.utf8 input.label.toList) input.bytes 0]
  := by
  have hsucc : 2 ^ 32 = 2 ^ 32 - 1 + 1 := by norm_num
  rw [firstDigest] at h
  constructor
  · rw [hash_eq, hsucc, hashBytesToFeltFrom, ← hashPreimage, h]
  · rw [tried, hsucc, triedFrom, h]

/-- Inputs whose first digests are canonical and distinct do not collide. -/
theorem collisionFree_of_nodup {inputs : List HashInput} {felts : List Felt252}
    (h : inputs.map (HashInput.firstDigest keccak256) = felts.map .ok) (hfelts : felts.Nodup) :
  HashInput.CollisionFree keccak256 inputs
  := by
  have hnodup : (inputs.map (HashInput.firstDigest keccak256)).Nodup := by
    rw [h]
    apply hfelts.map
    intro x y hxy
    exact Except.ok.inj hxy
  have htried : ∀ x ∈ inputs.flatMap (HashInput.tried keccak256), ∃ input ∈ inputs,
      x = hashPreimage (Felt252.utf8 input.label.toList) input.bytes 0 := by
    intro x hx
    obtain ⟨input, hinput, hx⟩ := List.mem_flatMap.mp hx
    have hmem := List.mem_map_of_mem (f := HashInput.firstDigest keccak256) hinput
    rw [h] at hmem
    obtain ⟨felt, _, hfelt⟩ := List.mem_map.mp hmem
    rw [(HashInput.hash_of_firstDigest hfelt.symm).2, List.mem_singleton] at hx
    exact ⟨input, hinput, hx⟩
  intro x hx y hy hxy
  obtain ⟨input, hinput, rfl⟩ := htried x hx
  obtain ⟨input', hinput', rfl⟩ := htried y hy
  have hfirst : input.firstDigest keccak256 = input'.firstDigest keccak256 := by
    rw [HashInput.firstDigest, hxy]
    rfl
  rw [List.inj_on_of_nodup_map hnodup hinput hinput' hfirst]

/-- A hash binds its domain and what is hashed. -/
theorem HashInput.eq_of_hash_eq (hlen : ∀ message, (keccak256 message).length = 32)
    {inputs : List HashInput} (hcollision : HashInput.CollisionFree keccak256 inputs)
    {x y : HashInput}
    (hx : x ∈ inputs) (hy : y ∈ inputs) {felt : Felt252} (hhash : x.hash keccak256 = .ok felt)
    (hhash' : y.hash keccak256 = .ok felt) :
  x = y
  := by
  rw [HashInput.hash_eq] at hhash hhash'
  obtain ⟨counter, hlt, hmem, hfelt⟩ := exists_tried (by norm_num) hhash
  obtain ⟨counter', hlt', hmem', hfelt'⟩ := exists_tried (by norm_num) hhash'
  have hdigest := (bytes_of_tryFromBytesBe (hlen _) hfelt).trans
    (bytes_of_tryFromBytesBe (hlen _) hfelt').symm
  have hpreimage := hcollision (List.mem_flatMap.mpr ⟨x, hx, hmem⟩)
    (List.mem_flatMap.mpr ⟨y, hy, hmem'⟩) hdigest
  obtain ⟨hlabel, hbytes, _⟩ := hashPreimage_inj x.label_mem y.label_mem hlt hlt' hpreimage
  apply HashInput.eq_of_bytes_eq hlabel hbytes

/-- The hash of outputs is that of the outputs of a request or of a withdrawal. -/
theorem Inputs.publicOutputHashFromCairoOutputs_eq_ok {outputs : List Felt252} {felt : Felt252}
    (h : publicOutputHashFromCairoOutputs keccak256 outputs = .ok felt) :
  (HashInput.requestOutputs outputs).hash keccak256 = .ok felt
    ∨ (HashInput.withdrawalOutputs outputs).hash keccak256 = .ok felt
  := by
  rw [publicOutputHashFromCairoOutputs] at h
  split at h
  case h_1 =>
    split at h
    case isTrue =>
      left
      obtain ⟨_, _, h⟩ := bind_eq_ok.mp h
      obtain ⟨_, _, h⟩ := bind_eq_ok.mp h
      exact h
    case isFalse =>
      split at h
      case isTrue =>
        right
        obtain ⟨_, _, h⟩ := bind_eq_ok.mp h
        obtain ⟨_, _, h⟩ := bind_eq_ok.mp h
        exact h
      case isFalse => cases h
  case h_2 => cases h

end

/-! ### Authorization tags -/

/-- A tag binds the nullifier and the context. -/
theorem authorizationTag_inj {nullifier nullifier' context context' : Felt252}
    (hnullifier : nullifier.Canonical) (hnullifier' : nullifier'.Canonical)
    (hcontext : context.Canonical) (hcontext' : context'.Canonical)
    (hcollision : Set.InjOn poseidonHash
      {x | x ∈ [tagPreimage nullifier context, tagPreimage nullifier' context']})
    (h : Core.authorizationTag nullifier context = Core.authorizationTag nullifier' context') :
  nullifier = nullifier' ∧ context = context'
  := by
  have hhash := congrArg residue h
  rw [Core.authorizationTag, Core.authorizationTag, Core.residue_hashDomain,
    Core.residue_hashDomain] at hhash
  have hpreimage : tagPreimage nullifier context = tagPreimage nullifier' context' :=
    hcollision List.mem_cons_self (List.mem_cons_of_mem _ List.mem_cons_self) hhash
  have hresidues := List.cons.inj (List.cons.inj hpreimage).2
  have hcontexts := (List.cons.inj hresidues.2).1
  rw [← word_residue hnullifier, ← word_residue hnullifier', ← word_residue hcontext,
    ← word_residue hcontext', hresidues.1, hcontexts]
  exact ⟨rfl, rfl⟩

/-- The authorization tag of a request binds its nullifier, its id and its payload, as long as
Keccak and Poseidon have no collision among what they are given.  Hashes under different domains
never meet, and equal hashes are of equal inputs.  What Keccak is given can be taken apart into
the domain, the input and the counter, and the bytes of a context into the id and the hash. -/
theorem tag_binds_request {keccak256 : List UInt8 → List UInt8}
    (hlen : ∀ message, (keccak256 message).length = 32) :
  (∀ nullifier nullifier' id id' payload payload' hash hash' context context',
    nullifier.Canonical → nullifier'.Canonical →
    Inputs.canonicalPayloadHash keccak256 payload = .ok hash →
    canonicalRequestContext keccak256 id hash = .ok context →
    Inputs.canonicalPayloadHash keccak256 payload' = .ok hash' →
    canonicalRequestContext keccak256 id' hash' = .ok context' →
    HashInput.CollisionFree keccak256 [.payload payload, .requestContext id hash, .payload payload',
      .requestContext id' hash'] →
    Set.InjOn poseidonHash {x | x ∈ [tagPreimage nullifier context, tagPreimage nullifier' context']} →
    Core.authorizationTag nullifier context = Core.authorizationTag nullifier' context' →
    nullifier = nullifier' ∧ id = id' ∧ payload = payload')
  ∧ (∀ (x y : HashInput) felt, HashInput.CollisionFree keccak256 [x, y] → x.hash keccak256 = .ok felt →
    y.hash keccak256 = .ok felt → x = y)
  ∧ (∀ (x y : HashInput) counter counter', counter < 2 ^ 32 → counter' < 2 ^ 32 →
    hashPreimage (Felt252.utf8 x.label.toList) x.bytes counter
      = hashPreimage (Felt252.utf8 y.label.toList) y.bytes counter' →
    x = y ∧ counter = counter')
  ∧ ∀ id id' hash hash', (HashInput.requestContext id hash).bytes
      = (HashInput.requestContext id' hash').bytes →
    id = id' ∧ hash = hash'
  := by
  refine ⟨?_, ?_, ?_, ?_⟩
  · intro nullifier nullifier' id id' payload payload' hash hash' context context' hnullifier
      hnullifier' hpayload hcontext hpayload' hcontext' hkeccak hposeidon htag
    obtain ⟨hnullifiers, rfl⟩ := authorizationTag_inj hnullifier hnullifier'
      (canonical_of_hashBytesToFelt hcontext) (canonical_of_hashBytesToFelt hcontext') hposeidon htag
    have hinput := @HashInput.eq_of_hash_eq keccak256 hlen _ hkeccak (.requestContext id hash)
      (.requestContext id' hash') (by simp) (by simp) context hcontext hcontext'
    rw [HashInput.requestContext.injEq] at hinput
    obtain ⟨hid, rfl⟩ := hinput
    have hpayloads := @HashInput.eq_of_hash_eq keccak256 hlen _ hkeccak (.payload payload)
      (.payload payload') (by simp) (by simp) hash hpayload hpayload'
    rw [HashInput.payload.injEq] at hpayloads
    exact ⟨hnullifiers, hid, hpayloads⟩
  · intro x y felt hkeccak hx hy
    exact HashInput.eq_of_hash_eq hlen hkeccak List.mem_cons_self
      (List.mem_cons_of_mem _ List.mem_cons_self) hx hy
  · intro x y counter counter' hcounter hcounter' h
    obtain ⟨hlabel, hbytes, hcounters⟩ :=
      hashPreimage_inj x.label_mem y.label_mem hcounter hcounter' h
    exact ⟨HashInput.eq_of_bytes_eq hlabel hbytes, hcounters⟩
  · intro id id' hash hash' h
    exact requestContext_bytes_inj h

namespace BindingExample

open Keccak (keccak256)

def hash : Felt252 :=
  0x81afd55ec2a5b47e36de8ceb7625863823b38e46fd082aa5b776affae3bda7d

def hash' : Felt252 :=
  0x24ca361dadcd3696b4143d711b15685815f26bc1de71ea212cf739f77c1fb9c1

def context : Felt252 :=
  0x1d4e462cb6fa61bb09a5947fc150bc76412d060741785c343bc40f5fcb67e433

def context' : Felt252 :=
  0x8b2e1facbbe4b82d812905156bda122d45cb6dc349c82ff19d09f9affe9008d

/-- Every first digest is canonical. -/
theorem firstDigest_eq :
  [.payload [9], .requestContext "b" hash, .payload [4], .requestContext "d" hash'].map
      (HashInput.firstDigest keccak256)
    = [hash, context, hash', context'].map .ok
  := by decide +kernel

theorem tag_ne :
  poseidonHash (tagPreimage 5 context) ≠ poseidonHash (tagPreimage 5 context')
  := by
  have htag : poseidonHash (tagPreimage 5 context)
      = 0xea50ac0f421e9714d82738f4e362e0c8a52ea2d3ab6036e0d2cd15c701670a4 :=
    poseidonHash_eq_of_value (by decide +kernel)
  have htag' : poseidonHash (tagPreimage 5 context')
      = 0x2ac0443a37a61a0d6b2786b6f531efcd0bb52e7b202a9dc70d2717f72554dae0 :=
    poseidonHash_eq_of_value (by decide +kernel)
  rw [htag, htag']
  decide +kernel

/-- Two requests with different ids and payloads have different tags. -/
theorem tag_binds_request_example :
  Core.authorizationTag 5 context ≠ Core.authorizationTag 5 context'
  := by
  intro h
  have hposeidon : Set.InjOn poseidonHash
      {x | x ∈ [tagPreimage 5 context, tagPreimage 5 context']} := by
    intro x hx y hy hxy
    obtain rfl | hx := List.mem_cons.mp hx
    · obtain rfl | hy := List.mem_cons.mp hy
      · rfl
      · rw [List.mem_singleton.mp hy] at hxy
        exact absurd hxy tag_ne
    · rw [List.mem_singleton.mp hx] at hxy ⊢
      obtain rfl | hy := List.mem_cons.mp hy
      · exact absurd hxy.symm tag_ne
      · rw [List.mem_singleton.mp hy]
  obtain ⟨hbinds, _⟩ := tag_binds_request Keccak.length_keccak256
  have hkeccak := collisionFree_of_nodup firstDigest_eq (by decide +kernel)
  obtain ⟨hhash, hrest⟩ := List.cons.inj firstDigest_eq
  obtain ⟨hcontext, hrest⟩ := List.cons.inj hrest
  obtain ⟨hhash', hrest⟩ := List.cons.inj hrest
  obtain ⟨hcontext', _⟩ := List.cons.inj hrest
  obtain ⟨_, hid, _⟩ := hbinds 5 5 "b" "d" [9] [4] hash hash' context context' (by decide +kernel)
    (by decide +kernel) (HashInput.hash_of_firstDigest hhash).1
    (HashInput.hash_of_firstDigest hcontext).1 (HashInput.hash_of_firstDigest hhash').1
    (HashInput.hash_of_firstDigest hcontext').1 hkeccak hposeidon h
  exact absurd hid (by decide)

end BindingExample

end ZkApi
