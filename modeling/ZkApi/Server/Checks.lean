import ZkApi.Server.Outcome
import ZkApi.Server.Rules

/-!
# The checks of a request

What a call checks before it reads the store.  Some of it depends on the request and the
deployment alone; the rest on the current root, the clock, the policy in force and the
verifier, and can come out differently when the request is sent again.
-/

namespace ZkApi.Server

open Stark Concurrent

/-! ### What is checked -/

/-- What every server of a deployment checks of the inputs of a request, whenever it comes. -/
structure ValidInputs (env : Env) (apiRequest : ApiRequest) : Prop where
  payloadHash : canonicalPayloadHash env.keccak256 apiRequest.payload = .ok apiRequest.payloadHash
  protocolVersion : apiRequest.publicInputs.protocolVersion = env.config.protocolVersion
  chainId : apiRequest.publicInputs.chainId = env.config.chainId
  contractAddress : apiRequest.publicInputs.contractAddress = env.config.contractAddress
  statementType : apiRequest.publicInputs.statementType = STATEMENT_TYPE_REQUEST

/-- What it checks of the artifact, but for the proof itself. -/
structure ValidArtifact (env : Env) (apiRequest : ApiRequest) : Prop where
  backend : apiRequest.proof.backend = .stwoCairo
  publicOutputHash :
    apiRequest.publicInputs.publicOutputHash env.keccak256 = .ok apiRequest.proof.publicOutputHash
  proof : ∃ proofBytes, env.decodeBase64 apiRequest.proof.proof = .ok proofBytes

/-- Two servers of one deployment. -/
structure Env.SameDeployment (env before : Env) : Prop where
  protocolVersion : env.config.protocolVersion = before.config.protocolVersion
  chainId : env.config.chainId = before.config.chainId
  contractAddress : env.config.contractAddress = before.config.contractAddress
  keccak256 : env.keccak256 = before.keccak256
  decodeBase64 : env.decodeBase64 = before.decodeBase64

section

variable {env before : Env} {apiRequest : ApiRequest}

theorem ValidInputs.of_same (h : ValidInputs before apiRequest)
    (hsame : env.SameDeployment before) :
  ValidInputs env apiRequest
  where
  payloadHash := by rw [hsame.keccak256, h.payloadHash]
  protocolVersion := by rw [hsame.protocolVersion, h.protocolVersion]
  chainId := by rw [hsame.chainId, h.chainId]
  contractAddress := by rw [hsame.contractAddress, h.contractAddress]
  statementType := h.statementType

theorem ValidArtifact.of_same (h : ValidArtifact before apiRequest)
    (hsame : env.SameDeployment before) :
  ValidArtifact env apiRequest
  where
  backend := h.backend
  publicOutputHash := by rw [hsame.keccak256, h.publicOutputHash]
  proof := by
    rw [hsame.decodeBase64]
    apply h.proof

end

/-- The root of a signature is trusted by `validate_state_sig_root`. -/
def Env.Trusts (env : Env) (epoch : U32) (root : Felt252) : Prop :=
  if epoch = 0 then
    root = 0
  else
    root = env.signer.root .state ∨ lookupStateRoot env.config.trustedEpochRoots epoch = some root

/-- What a call checks against a root, a time and a policy that change: `did` says which
accesses it makes, and what they return. -/
structure Timely (env : Env) (apiRequest : ApiRequest) (did : (op : Op) → op.Res → Prop) :
    Prop where
  root : ∀ root : Felt252, did .currentRoot root → apiRequest.publicInputs.activeRoot = root
  time : ∀ now : U64, did .currentTimestamp now → now < apiRequest.publicInputs.expiryTs
  bound : env.config.chargeCap ≤ apiRequest.publicInputs.solvencyBound
  trusted : env.Trusts apiRequest.publicInputs.stateSigEpoch apiRequest.publicInputs.stateSigRoot

/-! ### The checks -/

variable {env : Env} {apiRequest : ApiRequest} {as : List ((op : Op) × op.Res)}

theorem trace_validateStateSigRoot {epoch : U32} {root : Felt252} {r : Except Abort Unit}
    (h : Trace (validateStateSigRoot env.config env.signer epoch root).run as r) :
  as = [] ∧ (r = .ok () ↔ env.Trusts epoch root)
  := by
  rw [validateStateSigRoot] at h
  rw [Env.Trusts]
  split at h
  case isTrue hepoch =>
    rw [if_pos hepoch]
    rw [rejectIf] at h
    split at h
    case isTrue hroot =>
      obtain ⟨rfl, rfl⟩ := trace_run_throw.mp h
      exact ⟨rfl, by rintro ⟨⟩, fun heq => absurd heq hroot⟩
    case isFalse hroot =>
      obtain ⟨rfl, rfl⟩ := trace_run_pure.mp h
      exact ⟨rfl, fun _ => not_not.mp hroot, fun _ => rfl⟩
  case isFalse hepoch =>
    rw [if_neg hepoch]
    split at h
    case isTrue hroot =>
      obtain ⟨rfl, rfl⟩ := trace_run_pure.mp h
      exact ⟨rfl, fun _ => .inl hroot, fun _ => rfl⟩
    case isFalse hroot =>
      split at h
      case isTrue hlookup =>
        obtain ⟨rfl, rfl⟩ := trace_run_pure.mp h
        exact ⟨rfl, fun _ => .inr hlookup, fun _ => rfl⟩
      case isFalse hlookup =>
        obtain ⟨rfl, rfl⟩ := trace_run_throw.mp h
        refine ⟨rfl, by rintro ⟨⟩, ?_⟩
        rintro (heq | heq)
        · cases hroot heq
        · cases hlookup heq

/-- A request passes the first checks when its inputs are valid and timely. -/
theorem trace_validateInputs {r : Except Abort Unit}
    (h : Trace (validateInputs env apiRequest).run as r) :
  (∀ a ∈ as, a.1 = .currentRoot ∨ a.1 = .currentTimestamp)
    ∧ (r = .ok () ↔
      ValidInputs env apiRequest ∧ Timely env apiRequest fun op x => ⟨op, x⟩ ∈ as)
  := by
  obtain ⟨hash, hhash, h⟩ | ⟨⟨e, he⟩, rfl, rfl⟩ := trace_orPanic_bind.mp h
  swap
  · refine ⟨by rintro a ⟨⟩, by rintro ⟨⟩, ?_⟩
    rintro ⟨hvalid, _⟩
    cases he.symm.trans hvalid.payloadHash
  obtain ⟨hpayload, h⟩ | ⟨hpayload, rfl, rfl⟩ := trace_rejectIf_bind.mp h
  swap
  · refine ⟨by rintro a ⟨⟩, by rintro ⟨⟩, ?_⟩
    rintro ⟨hvalid, _⟩
    cases hhash.symm.trans hvalid.payloadHash
    cases hpayload rfl
  obtain ⟨hversion, h⟩ | ⟨hversion, rfl, rfl⟩ := trace_rejectIf_bind.mp h
  swap
  · exact ⟨by rintro a ⟨⟩, by rintro ⟨⟩, fun hvalid => absurd hvalid.1.protocolVersion hversion⟩
  obtain ⟨hchain, h⟩ | ⟨hchain, rfl, rfl⟩ := trace_rejectIf_bind.mp h
  swap
  · exact ⟨by rintro a ⟨⟩, by rintro ⟨⟩, fun hvalid => absurd hvalid.1.chainId hchain⟩
  obtain ⟨haddress, h⟩ | ⟨haddress, rfl, rfl⟩ := trace_rejectIf_bind.mp h
  swap
  · exact ⟨by rintro a ⟨⟩, by rintro ⟨⟩, fun hvalid => absurd hvalid.1.contractAddress haddress⟩
  obtain ⟨root, bs, rfl, hnext⟩ := trace_call_bind.mp h
  change Felt252 at root
  obtain ⟨hroot, h⟩ | ⟨hroot, rfl, rfl⟩ := trace_rejectIf_bind.mp hnext
  swap
  · refine ⟨?_, by rintro ⟨⟩, ?_⟩
    · rintro a ha
      obtain rfl := List.mem_singleton.mp ha
      exact .inl rfl
    · rintro ⟨_, htimely⟩
      cases hroot (htimely.root root List.mem_cons_self)
  obtain ⟨now, bs, rfl, hrest⟩ := trace_call_bind.mp h
  change U64 at now
  have hmem : ∀ a ∈ ([⟨.currentRoot, root⟩, ⟨.currentTimestamp, now⟩] : List ((op : Op) × op.Res)),
      a.1 = .currentRoot ∨ a.1 = .currentTimestamp := by
    intro a ha
    obtain rfl | ha := List.mem_cons.mp ha
    · exact .inl rfl
    · obtain rfl := List.mem_singleton.mp ha
      exact .inr rfl
  obtain ⟨htime, h⟩ | ⟨htime, rfl, rfl⟩ := trace_rejectIf_bind.mp hrest
  swap
  · refine ⟨hmem, by rintro ⟨⟩, ?_⟩
    rintro ⟨_, htimely⟩
    apply absurd (htimely.time now (List.mem_cons_of_mem _ List.mem_cons_self))
    apply BitVec.not_lt.mpr htime
  obtain ⟨hbound, h⟩ | ⟨hbound, rfl, rfl⟩ := trace_rejectIf_bind.mp h
  swap
  · refine ⟨hmem, by rintro ⟨⟩, ?_⟩
    rintro ⟨_, htimely⟩
    apply absurd htimely.bound (BitVec.not_le.mpr hbound)
  obtain ⟨htype, h⟩ | ⟨htype, rfl, rfl⟩ := trace_rejectIf_bind.mp h
  swap
  · exact ⟨hmem, by rintro ⟨⟩, fun hvalid => absurd hvalid.1.statementType htype⟩
  obtain ⟨rfl, htrusts⟩ := trace_validateStateSigRoot h
  refine ⟨hmem, ?_⟩
  rw [htrusts]
  constructor
  · intro htrusted
    constructor
    · constructor
      case payloadHash => rw [hhash, not_not.mp hpayload]
      case protocolVersion => apply not_not.mp hversion
      case chainId => apply not_not.mp hchain
      case contractAddress => apply not_not.mp haddress
      case statementType => apply not_not.mp htype
    · constructor
      case root =>
        intro root' hroot'
        obtain heq | hroot' := List.mem_cons.mp hroot'
        · cases heq
          apply not_not.mp hroot
        · cases List.mem_singleton.mp hroot'
      case time =>
        intro now' htime'
        obtain heq | htime' := List.mem_cons.mp htime'
        · cases heq
        · cases List.mem_singleton.mp htime'
          apply BitVec.not_le.mp htime
      case bound => apply BitVec.not_lt.mp hbound
      case trusted => apply htrusted
  · rintro ⟨_, htimely⟩
    apply htimely.trusted

/-- The artifact passes when it is valid and the verifier accepts its proof. -/
theorem trace_verifyRequestProofArtifact {r : Except Abort (List UInt8)}
    (h : Trace (verifyRequestProofArtifact env apiRequest).run as r) :
  (∀ a ∈ as, ∃ proofBytes, a.1 = .verifyArtifact proofBytes apiRequest.publicInputs)
    ∧ ((∃ proofBytes, r = .ok proofBytes) ↔
      ValidArtifact env apiRequest ∧ ∀ proofBytes inputs (verified : Except String Unit),
        ⟨.verifyArtifact proofBytes inputs, verified⟩ ∈ as → verified = .ok ())
  := by
  obtain ⟨hbackend, h⟩ | ⟨hbackend, rfl, rfl⟩ := trace_rejectIf_bind.mp h
  swap
  · exact ⟨by rintro a ⟨⟩, by rintro ⟨_, ⟨⟩⟩, fun hvalid => absurd hvalid.1.backend hbackend⟩
  obtain ⟨hash, hhash, h⟩ | ⟨⟨e, he⟩, rfl, rfl⟩ := trace_orPanic_bind.mp h
  swap
  · refine ⟨by rintro a ⟨⟩, by rintro ⟨_, ⟨⟩⟩, ?_⟩
    rintro ⟨hvalid, _⟩
    cases he.symm.trans hvalid.publicOutputHash
  obtain ⟨houtput, h⟩ | ⟨houtput, rfl, rfl⟩ := trace_rejectIf_bind.mp h
  swap
  · refine ⟨by rintro a ⟨⟩, by rintro ⟨_, ⟨⟩⟩, ?_⟩
    rintro ⟨hvalid, _⟩
    cases hhash.symm.trans hvalid.publicOutputHash
    cases houtput rfl
  obtain ⟨proofBytes, hproof, h⟩ | ⟨e, he, rfl, rfl⟩ := trace_orError_bind.mp h
  swap
  · refine ⟨by rintro a ⟨⟩, by rintro ⟨_, ⟨⟩⟩, ?_⟩
    rintro ⟨hvalid, _⟩
    obtain ⟨proofBytes, hproof⟩ := hvalid.proof
    rw [hproof] at he
    cases he
  have hvalid : ValidArtifact env apiRequest := by
    constructor
    case backend => apply not_not.mp hbackend
    case publicOutputHash => rw [hhash, not_not.mp houtput]
    case proof =>
      cases hdecode : env.decodeBase64 apiRequest.proof.proof with
      | ok bytes => exact ⟨bytes, rfl⟩
      | error e =>
        rw [hdecode] at hproof
        cases hproof
  obtain ⟨verified, bs, rfl, hrest⟩ := trace_call_bind.mp h
  change Except String Unit at verified
  have hmem : ∀ a ∈ ([⟨.verifyArtifact proofBytes apiRequest.publicInputs, verified⟩] :
      List ((op : Op) × op.Res)),
        ∃ proofBytes, a.1 = .verifyArtifact proofBytes apiRequest.publicInputs := by
    intro a ha
    obtain rfl := List.mem_singleton.mp ha
    exact ⟨proofBytes, rfl⟩
  obtain ⟨_, hverified, h⟩ | ⟨e, he, rfl, rfl⟩ := trace_orError_bind.mp hrest
  · obtain ⟨rfl, rfl⟩ := trace_run_pure.mp h
    refine ⟨hmem, fun _ => ⟨hvalid, ?_⟩, fun _ => ⟨proofBytes, rfl⟩⟩
    intro proofBytes' inputs verified' hmem
    cases List.mem_singleton.mp hmem
    cases verified with
    | ok value => rfl
    | error e => cases hverified
  · refine ⟨hmem, by rintro ⟨_, ⟨⟩⟩, ?_⟩
    rintro ⟨_, haccepted⟩
    rw [haccepted _ _ verified List.mem_cons_self] at he
    cases he

theorem mem_append_left_of_ne {a : (op : Op) × op.Res} {bs cs : List ((op : Op) × op.Res)}
    (h : ∀ c ∈ cs, c.1 ≠ a.1) :
  a ∈ bs ++ cs ↔ a ∈ bs
  := by
  rw [List.mem_append, or_iff_left]
  intro ha
  apply h a ha rfl

theorem mem_append_right_of_ne {a : (op : Op) × op.Res} {bs cs : List ((op : Op) × op.Res)}
    (h : ∀ b ∈ bs, b.1 ≠ a.1) :
  a ∈ bs ++ cs ↔ a ∈ cs
  := by
  rw [List.mem_append, or_iff_right]
  intro ha
  apply h a ha rfl

/-- The verifier has accepted the proof, if it was asked. -/
def Verified (did : (op : Op) → op.Res → Prop) : Prop :=
  ∀ proofBytes inputs (verified : Except String Unit),
    did (.verifyArtifact proofBytes inputs) verified → verified = .ok ()

/-- An access of the checks. -/
inductive Op.Check : Op → Prop
  | currentRoot : Check .currentRoot
  | currentTimestamp : Check .currentTimestamp
  | verifyArtifact (proofBytes : List UInt8) (inputs : RequestPublicInputs) :
      Check (.verifyArtifact proofBytes inputs)

/-- Another access does not count. -/
theorem passed_push {bs : List ((op : Op) × op.Res)} (a : (op : Op) × op.Res) (ha : ¬ a.1.Check)
    (htimely : Timely env apiRequest fun op x => ⟨op, x⟩ ∈ bs)
    (hverified : Verified fun op x => ⟨op, x⟩ ∈ bs) :
  Timely env apiRequest (fun op x => ⟨op, x⟩ ∈ bs ++ [a]) ∧ Verified fun op x => ⟨op, x⟩ ∈ bs ++ [a]
  := by
  have hmem : ∀ {op : Op} {x : op.Res}, op.Check → ⟨op, x⟩ ∈ bs ++ [a] → ⟨op, x⟩ ∈ bs := by
    intro op x hop hmem
    apply (mem_append_left_of_ne _).mp hmem
    rintro c hc rfl
    rw [List.mem_singleton.mp hc] at hop
    apply ha hop
  constructor
  · constructor
    case root =>
      intro root hroot
      apply htimely.root root (hmem .currentRoot hroot)
    case time =>
      intro now hnow
      apply htimely.time now (hmem .currentTimestamp hnow)
    case bound => apply htimely.bound
    case trusted => apply htimely.trusted
  · intro proofBytes inputs verified hverify
    apply hverified proofBytes inputs verified (hmem (.verifyArtifact _ _) hverify)

/-- All checks of a request, one after the other. -/
def checkRequest (env : Env) (apiRequest : ApiRequest) : Handler (List UInt8) := do
  validateInputs env apiRequest
  verifyRequestProofArtifact env apiRequest

/-- A request of the deployment passes the checks when it is timely and its proof verifies. -/
theorem trace_checkRequest {r : Except Abort (List UInt8)}
    (h : Trace (checkRequest env apiRequest).run as r) :
  (∀ a ∈ as, a.1.Check)
    ∧ ((∃ proofBytes, r = .ok proofBytes) ↔
      (ValidInputs env apiRequest ∧ ValidArtifact env apiRequest)
        ∧ Timely env apiRequest (fun op x => ⟨op, x⟩ ∈ as) ∧ Verified (fun op x => ⟨op, x⟩ ∈ as))
  := by
  obtain ⟨_, bs, cs, rfl, hinputs, h⟩ | ⟨e, rfl, hinputs⟩ := trace_run_bind.mp h
  · obtain ⟨hinputs, htimely⟩ := trace_validateInputs hinputs
    obtain ⟨hartifact, hverified⟩ := trace_verifyRequestProofArtifact h
    obtain ⟨hvalid, htimely⟩ := htimely.mp rfl
    have hcs : ∀ op, (∀ proofBytes inputs, op ≠ .verifyArtifact proofBytes inputs) →
        ∀ c ∈ cs, c.1 ≠ op := by
      rintro op hne c hc rfl
      obtain ⟨proofBytes, hop⟩ := hartifact c hc
      apply hne proofBytes _ hop
    constructor
    · intro a ha
      obtain ha | ha := List.mem_append.mp ha
      · obtain hop | hop := hinputs a ha
        · rw [hop]
          apply Op.Check.currentRoot
        · rw [hop]
          apply Op.Check.currentTimestamp
      · obtain ⟨proofBytes, hop⟩ := hartifact a ha
        rw [hop]
        apply Op.Check.verifyArtifact
    · rw [hverified]
      constructor
      · rintro ⟨hartifact, hverified⟩
        refine ⟨⟨hvalid, hartifact⟩, ?_, ?_⟩
        · constructor
          case root =>
            intro root hmem
            apply htimely.root root
            apply (mem_append_left_of_ne (hcs _ (by rintro _ _ ⟨⟩))).mp hmem
          case time =>
            intro now hmem
            apply htimely.time now
            apply (mem_append_left_of_ne (hcs _ (by rintro _ _ ⟨⟩))).mp hmem
          case bound => apply htimely.bound
          case trusted => apply htimely.trusted
        · intro proofBytes inputs verified hmem
          apply hverified proofBytes inputs verified
          apply (mem_append_right_of_ne _).mp hmem
          rintro b hb heq
          obtain hop | hop := hinputs b hb
          · cases hop.symm.trans heq
          · cases hop.symm.trans heq
      · rintro ⟨⟨_, hartifact⟩, _, hverified⟩
        refine ⟨hartifact, ?_⟩
        intro proofBytes inputs verified hmem
        apply hverified proofBytes inputs verified (List.mem_append_right _ hmem)
  · obtain ⟨hops, htimely⟩ := trace_validateInputs hinputs
    constructor
    · intro a ha
      obtain hop | hop := hops a ha
      · rw [hop]
        apply Op.Check.currentRoot
      · rw [hop]
        apply Op.Check.currentTimestamp
    · refine ⟨by rintro ⟨_, ⟨⟩⟩, ?_⟩
      rintro ⟨hvalid, hstill, _⟩
      cases htimely.mpr ⟨hvalid.1, hstill⟩

/-! ### What follows -/

/-- How a call goes on with what it has read for the nullifier. -/
inductive Answered (env : Env) (apiRequest : ApiRequest) (proofBytes : List UInt8) :
    Except Failure (Option TranscriptRecord) → List ((op : Op) × op.Res) →
      Except Abort RequestResponse → Prop
  | stored {record : TranscriptRecord} :
      record.SameRequest apiRequest → record.status = .finalized →
      Answered env apiRequest proofBytes (.ok (some record)) []
        (.ok (buildResponseFromRecord record apiRequest.clientRequestId))
  | resumed {record : TranscriptRecord} {as : List ((op : Op) × op.Res)}
      {r : Except Abort RequestResponse} :
      record.SameRequest apiRequest → record.status = .reserved →
      Trace (executeRequest env apiRequest proofBytes).run as r →
      Answered env apiRequest proofBytes (.ok (some record)) as r
  | replay {record : TranscriptRecord} :
      ¬ (record.SameRequest apiRequest ∧ record.status = .finalized) →
      ¬ (record.SameRequest apiRequest ∧ record.status = .reserved) →
      Answered env apiRequest proofBytes (.ok (some record)) [] (.error (.error .replay))
  | reserved {as : List ((op : Op) × op.Res)} {r : Except Abort RequestResponse} :
      Trace (executeRequest env apiRequest proofBytes).run as r →
      Answered env apiRequest proofBytes (.ok none)
        (⟨.reserve apiRequest.publicInputs.requestNullifier apiRequest.clientRequestId
          apiRequest.payloadHash, (.ok () : Except ServerError Unit)⟩ :: as) r
  | refused (e : ServerError) :
      Answered env apiRequest proofBytes (.ok none)
        [⟨.reserve apiRequest.publicInputs.requestNullifier apiRequest.clientRequestId
          apiRequest.payloadHash, (.error e : Except ServerError Unit)⟩] (.error (.error e))
  | panicked (failure : Failure) :
      Answered env apiRequest proofBytes (.error failure) [] (.error .panic)

/-- A finalized record of the request is its answer. -/
theorem Answered.of_finalized {proofBytes : List UInt8} {record : TranscriptRecord}
    {r : Except Abort RequestResponse}
    (h : Answered env apiRequest proofBytes (.ok (some record)) as r)
    (hsame : record.SameRequest apiRequest) (hstatus : record.status = .finalized) :
  as = [] ∧ r = .ok (buildResponseFromRecord record apiRequest.clientRequestId)
  := by
  cases h with
  | stored => exact ⟨rfl, rfl⟩
  | resumed _ hreserved =>
    rw [hstatus] at hreserved
    cases hreserved
  | replay hother => cases hother ⟨hsame, hstatus⟩

/-- A nullifier without a record is reserved. -/
theorem Answered.of_none {proofBytes : List UInt8} {r : Except Abort RequestResponse}
    (h : Answered env apiRequest proofBytes (.ok none) as r) :
  ∃ bs, ∃ reserved : Except ServerError Unit,
    as = ⟨.reserve apiRequest.publicInputs.requestNullifier apiRequest.clientRequestId
      apiRequest.payloadHash, reserved⟩ :: bs
    ∧ ∀ e, reserved = .error e → bs = [] ∧ r = .error (.error e)
  := by
  cases h with
  | @reserved bs =>
    refine ⟨bs, .ok (), rfl, ?_⟩
    rintro e ⟨⟩
  | refused e =>
    refine ⟨[], .error e, rfl, ?_⟩
    rintro e' ⟨⟩
    exact ⟨rfl, rfl⟩

/-- A call makes the checks, looks the nullifier up, and goes on with what it has read. -/
theorem trace_processRequest {r : Except Abort RequestResponse}
    (h : Trace (processRequest env apiRequest).run as r) :
  (∃ proofBytes bs ds, ∃ looked : Except Failure (Option TranscriptRecord),
      as = bs ++ ⟨.lookupByNullifier apiRequest.publicInputs.requestNullifier, looked⟩ :: ds
      ∧ Trace (checkRequest env apiRequest).run bs (.ok proofBytes)
      ∧ Answered env apiRequest proofBytes looked ds r)
    ∨ ∃ e, r = .error e ∧ Trace (checkRequest env apiRequest).run as (.error e)
  := by
  obtain ⟨_, bs, cs, rfl, hinputs, h⟩ | ⟨e, rfl, hinputs⟩ := trace_run_bind.mp h
  swap
  · right
    exact ⟨e, rfl, trace_run_bind.mpr (.inr ⟨e, rfl, hinputs⟩)⟩
  obtain ⟨proofBytes, cs, ds, rfl, hartifact, h⟩ | ⟨e, rfl, hartifact⟩ := trace_run_bind.mp h
  swap
  · right
    exact ⟨e, rfl, trace_run_bind.mpr (.inl ⟨(), bs, cs, rfl, hinputs, hartifact⟩)⟩
  left
  obtain ⟨looked, es, rfl, hlooked⟩ := trace_call_bind.mp h
  change Except Failure (Option TranscriptRecord) at looked
  refine ⟨proofBytes, bs ++ cs, es, looked, (List.append_assoc _ _ _).symm,
    trace_run_bind.mpr (.inl ⟨(), bs, cs, rfl, hinputs, hartifact⟩), ?_⟩
  obtain ⟨existing, rfl, hexisting⟩ | ⟨⟨failure, rfl⟩, rfl, rfl⟩ := trace_orPanic_bind.mp hlooked
  swap
  · apply Answered.panicked
  cases existing with
  | some record =>
    dsimp only at hexisting
    split at hexisting
    case isTrue hfinalized =>
      obtain ⟨rfl, rfl⟩ := trace_run_pure.mp hexisting
      apply Answered.stored hfinalized.1 hfinalized.2
    case isFalse hfinalized =>
      split at hexisting
      case isTrue hreserved => apply Answered.resumed hreserved.1 hreserved.2 hexisting
      case isFalse hreserved =>
        obtain ⟨rfl, rfl⟩ := trace_run_throw.mp hexisting
        apply Answered.replay hfinalized hreserved
  | none =>
    obtain ⟨reserved, fs, rfl, hreserved⟩ := trace_call_bind.mp hexisting
    change Except ServerError Unit at reserved
    obtain ⟨_, rfl, hexecuted⟩ | ⟨e, rfl, rfl, rfl⟩ := trace_orError_bind.mp hreserved
    · apply Answered.reserved hexecuted
    · apply Answered.refused

/-- Every way to go on is one that a call takes. -/
theorem Answered.trace {proofBytes : List UInt8} {bs ds : List ((op : Op) × op.Res)}
    {looked : Except Failure (Option TranscriptRecord)} {r : Except Abort RequestResponse}
    (h : Answered env apiRequest proofBytes looked ds r)
    (hcheck : Trace (checkRequest env apiRequest).run bs (.ok proofBytes)) :
  Trace (processRequest env apiRequest).run
    (bs ++ ⟨.lookupByNullifier apiRequest.publicInputs.requestNullifier, looked⟩ :: ds) r
  := by
  obtain ⟨_, bs, cs, rfl, hinputs, hartifact⟩ := trace_run_bind_ok.mp hcheck
  rw [List.append_assoc]
  apply trace_run_bind.mpr (.inl ⟨(), bs, _, rfl, hinputs, ?_⟩)
  apply trace_run_bind.mpr (.inl ⟨proofBytes, cs, _, rfl, hartifact, ?_⟩)
  apply trace_call_bind.mpr
  refine ⟨looked, ds, rfl, ?_⟩
  apply trace_orPanic_bind.mpr
  cases h with
  | @stored record hsame hstatus =>
    refine .inl ⟨some record, rfl, ?_⟩
    dsimp only
    split
    case isTrue => apply trace_run_pure.mpr ⟨rfl, rfl⟩
    case isFalse hfinalized => cases hfinalized ⟨hsame, hstatus⟩
  | @resumed record _ _ hsame hstatus hexecuted =>
    refine .inl ⟨some record, rfl, ?_⟩
    dsimp only
    split
    case isTrue hfinalized => cases hstatus.symm.trans hfinalized.2
    case isFalse =>
      split
      case isTrue => apply hexecuted
      case isFalse hreserved => cases hreserved ⟨hsame, hstatus⟩
  | @replay record hfinalized hreserved =>
    refine .inl ⟨some record, rfl, ?_⟩
    dsimp only
    split
    case isTrue hsame => cases hfinalized hsame
    case isFalse => apply trace_run_throw.mpr ⟨rfl, rfl⟩
  | @reserved as r hexecuted =>
    refine .inl ⟨none, rfl, ?_⟩
    apply trace_call_bind.mpr
    refine ⟨Except.ok (), as, rfl, ?_⟩
    apply trace_orError_bind.mpr (.inl ⟨(), rfl, hexecuted⟩)
  | refused e =>
    refine .inl ⟨none, rfl, ?_⟩
    apply trace_call_bind.mpr
    refine ⟨Except.error e, [], rfl, ?_⟩
    apply trace_orError_bind.mpr (.inr ⟨e, rfl, rfl, rfl⟩)
  | panicked failure => exact .inr ⟨⟨failure, rfl⟩, rfl, rfl⟩

theorem trace_program {reply : Reply}
    (h : Trace ((ServerCall.processRequest apiRequest).program env) as reply) :
  ∃ r, reply = .request r ∧ Trace (processRequest env apiRequest).run as r
  := by
  obtain ⟨r, bs, cs, rfl, htrace, hreply⟩ := trace_bind.mp h
  obtain ⟨rfl, rfl⟩ := trace_pure.mp hreply
  rw [List.append_nil]
  exact ⟨r, rfl, htrace⟩

end ZkApi.Server
