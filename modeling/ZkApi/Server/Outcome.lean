import ZkApi.Server.Leaves
import ZkApi.Server.Processor

/-!
# One outcome for a nullifier

Whatever calls run at the same time, and wherever the server stops and starts again, a
nullifier has one outcome.  The row of a nullifier settles once: as the transcript of a
request, which every response to it reads or has written, or as a clearance, which the call
that inserts the row releases, and no other.
-/

namespace ZkApi.Server

open Stark Concurrent

/-! ### Outcomes -/

/-- What a response to a request settles. -/
structure Outcome where
  nextCommitment : CurvePointWire
  nextAnchor : Felt252
  blindDeltaSrv : Felt252
  nextStateSig : XmssSignature

/-- The outcome that a response carries. -/
def RequestResponse.outcome (response : RequestResponse) : Outcome where
  nextCommitment := response.nextCommitment
  nextAnchor := response.nextAnchor
  blindDeltaSrv := response.blindDeltaSrv
  nextStateSig := response.nextStateSig

/-- The outcome that a row holds. -/
def NullifierRow.outcome (row : NullifierRow) : Except Failure Outcome := do
  let nextStateSig ← parseColumn XmssSignatureJson.toSignature row.nextStateSigJson
  let nextCommitmentX ← parseOptFelt row.nextCommitmentX
  let nextCommitmentY ← parseOptFelt row.nextCommitmentY
  let nextAnchor ← parseOptFelt row.nextAnchor
  let blindDeltaSrv ← parseOptFelt row.blindDeltaSrv
  pure {
    nextCommitment := {
      x := nextCommitmentX.getD 0
      y := nextCommitmentY.getD 0 }
    nextAnchor := nextAnchor.getD 0
    blindDeltaSrv := blindDeltaSrv.getD 0
    nextStateSig := nextStateSig.getD emptyXmssSig }

/-- A response from a record carries the outcome of the row that the record was read from. -/
theorem outcome_of_rowToRecord {key clientRequestId : String} {row : NullifierRow}
    {record : TranscriptRecord} (h : rowToRecord key row = .ok record) :
  row.outcome = .ok (buildResponseFromRecord record clientRequestId).outcome
    ∧ record.status = strToStatus row.status
  := by
  obtain ⟨nextStateSig, hsig, h⟩ := bind_eq_ok.mp h
  obtain ⟨nullifier, _, h⟩ := bind_eq_ok.mp h
  obtain ⟨payloadHash, _, h⟩ := bind_eq_ok.mp h
  obtain ⟨responseHash, _, h⟩ := bind_eq_ok.mp h
  obtain ⟨nextCommitmentX, hx, h⟩ := bind_eq_ok.mp h
  obtain ⟨nextCommitmentY, hy, h⟩ := bind_eq_ok.mp h
  obtain ⟨nextAnchor, hanchor, h⟩ := bind_eq_ok.mp h
  obtain ⟨blindDeltaSrv, hblind, h⟩ := bind_eq_ok.mp h
  obtain ⟨nextStateSigRoot, _, h⟩ := bind_eq_ok.mp h
  obtain ⟨policyEvidenceHash, _, h⟩ := bind_eq_ok.mp h
  cases h
  constructor
  · rw [NullifierRow.outcome, hsig, hx, hy, hanchor, hblind]
    rfl
  · rfl

theorem status_of_strToStatus {s : String} {status : NullifierStatus}
    (h : strToStatus s = status) (hstatus : status ≠ .reserved) :
  s = statusToStr status
  := by
  rw [strToStatus] at h
  split at h
  case isTrue => cases hstatus h.symm
  case isFalse =>
    split at h
    case isTrue heq =>
      cases h
      apply heq
    case isFalse =>
      split at h
      case isTrue heq =>
        cases h
        apply heq
      case isFalse => cases hstatus h.symm

/-- A next state whose elements can be read back from JSON. -/
structure NextState.Canonical (state : NextState) : Prop where
  commitmentX : state.commitmentX.Canonical
  commitmentY : state.commitmentY.Canonical
  anchor : state.anchor.Canonical
  blindDelta : state.blindDelta.Canonical

theorem canonical_nextState {env : Env} {pi : RequestPublicInputs} {anonPoint : env.curve.Point}
    {charge : U128} {leafIndex : U32} {state : NextState}
    (h : nextState env pi anonPoint charge leafIndex = .ok state) :
  state.Canonical
  := by
  rw [nextState] at h
  split at h
  case h_2 => cases h
  case h_1 updated _ =>
    split at h
    case h_2 => cases h
    case h_1 x y _ =>
      cases h
      constructor
      case commitmentX => apply canonical_fieldToFelt
      case commitmentY => apply canonical_fieldToFelt
      case anchor => apply canonical_computeNextAnchor
      case blindDelta => apply canonical_computeBlindDelta

/-- The row that was finalized holds the outcome of the response. -/
theorem outcome_finalized {env : Env} {apiRequest : ApiRequest} {provider : ProviderResponse}
    {responseHash : Felt252} {state : NextState} {sig : XmssSignature} {proofBytes : List UInt8}
    {createdAt finalizedAt now : U64} (row : NullifierRow) (hstate : state.Canonical)
    (hsig : sig.Canonical) :
  (row.finalized (transcriptOf env apiRequest provider responseHash state sig proofBytes createdAt
      finalizedAt) now).outcome
    = .ok (responseOf env apiRequest provider responseHash state sig).outcome
  := by
  have hjson : parseColumn XmssSignatureJson.toSignature
      (some (XmssSignatureJson.ofSignature sig)) = .ok (some sig) := by
    rw [parseColumn, toSignature_ofSignature hsig]
    rfl
  simp only [NullifierRow.outcome, NullifierRow.finalized, transcriptOf, Option.map_some,
    parseOptFelt_toHex hstate.commitmentX, parseOptFelt_toHex hstate.commitmentY,
    parseOptFelt_toHex hstate.anchor, parseOptFelt_toHex hstate.blindDelta, hjson]
  rfl

/-! ### The system -/

/-- A call that can release something for a nullifier. -/
inductive ServerCall where
  | processRequest (apiRequest : ApiRequest)
  | processClearance (clearanceReq : ClearanceRequest)

/-- What a call returns. -/
inductive Reply where
  | request (result : Except Abort RequestResponse)
  | clearance (result : Except Abort ClearanceResponse)

/-- The program of a call. -/
def ServerCall.program (env : Env) : ServerCall → Program Op Op.Res Reply
  | .processRequest apiRequest => do
      let result ← (Server.processRequest env apiRequest).run
      pure (.request result)
  | .processClearance clearanceReq => do
      let result ← (Server.processClearance env clearanceReq).run
      pure (.clearance result)

abbrev ServerLabel : Type :=
  Label Op Op.Res ServerCall Reply

abbrev ServerView : Type :=
  View Op Op.Res Shared ServerCall Reply

/-- The server that processes requests and clearances. -/
def processing (env : Env) : System Op Op.Res Shared ServerCall Reply :=
  system env (ServerCall.program env)

/-- A clearance was reserved. -/
def cleared (t : ℕ) (nullifier : Felt252) : ServerLabel :=
  .access t (.reserveClearance nullifier) (Except.ok () : Except ServerError Unit)

/-! ### The protocol -/

/-- The row of a nullifier is settled as a clearance. -/
def ClearedIn (s : Shared) (nullifier : Felt252) : Prop :=
  ∃ row, s.nullifiers nullifier.toHex = some row ∧ row.status = statusToStr .clearanceReserved

/-- A clearance that was reserved has its row, and no nullifier was cleared twice. -/
structure OutcomeInv (v : ServerView) : Prop where
  row : ∀ t nullifier, cleared t nullifier ∈ v.history → ClearedIn v.shared nullifier
  once : ∀ t u nullifier, cleared t nullifier ∈ v.history → cleared u nullifier ∈ v.history → t = u

/-- Rows stay, and settled rows stay as they are. -/
def outcomeProtocol : Protocol Op Op.Res Shared ServerCall Reply where
  Inv := OutcomeInv
  Rel v w := w.shared.nullifiers.Extends v.shared.nullifiers
  refl _ := NullifierTable.Extends.refl
  trans huv hvw := hvw.trans huv

variable {env : Env} {v w : ServerView} {t : ℕ}

theorem settled_clearance :
  statusToStr .clearanceReserved ≠ statusToStr .reserved
  := by decide

theorem settled_finalized :
  statusToStr .finalized ≠ statusToStr .reserved
  := by decide

theorem ClearedIn.mono {s s' : Shared} {nullifier : Felt252} (h : ClearedIn s nullifier)
    (hext : s'.nullifiers.Extends s.nullifiers) :
  ClearedIn s' nullifier
  := by
  obtain ⟨row, hrow, hstatus⟩ := h
  refine ⟨row, hext.settled hrow ?_, hstatus⟩
  rw [NullifierRow.Settled, hstatus]
  apply settled_clearance

/-- A label that reserves no clearance keeps the protocol, if settled rows stay. -/
theorem keeps_extends {l : ServerLabel} {s : Shared} (h : OutcomeInv v)
    (hext : s.nullifiers.Extends v.shared.nullifiers) (hl : ∀ u nullifier, l ≠ cleared u nullifier) :
  outcomeProtocol.Keeps v l s
  := by
  constructor
  · constructor
    case row =>
      intro u nullifier hmem
      obtain hmem | heq := mem_push.mp hmem
      · apply (h.row u nullifier hmem).mono hext
      · cases hl u nullifier heq.symm
    case once =>
      intro u u' nullifier hmem hmem'
      obtain hmem | heq := mem_push.mp hmem
      · obtain hmem' | heq := mem_push.mp hmem'
        · apply h.once u u' nullifier hmem hmem'
        · cases hl u' nullifier heq.symm
      · cases hl u nullifier heq.symm
  · apply hext

/-- A clearance that is reserved was not reserved before. -/
theorem keeps_reserveClearance {nullifier : Felt252} {r : Except ServerError Unit} {s : Shared}
    (h : OutcomeInv v) (hexec : exec env v.shared (.reserveClearance nullifier) r s) :
  outcomeProtocol.Keeps v (.access t (.reserveClearance nullifier) r) s
  := by
  obtain ⟨now, table, rfl, hstatement⟩ := hexec
  have hext : table.Extends v.shared.nullifiers :=
    hstatement.rel NullifierTable.Extends.refl NullifierTable.reserveClearance_extends
  cases r with
  | error e =>
    apply keeps_extends h hext
    intro u nullifier' heq
    injection heq with _ _ hres
    cases hres
  | ok value =>
    obtain ⟨hok, rfl⟩ := hstatement.eq_of_ok
    obtain ⟨hnone, hrow⟩ := NullifierTable.reserveClearance_eq_ok hok
    have hnew : ∀ u, cleared u nullifier ∉ v.history := by
      intro u hmem
      obtain ⟨row, hrow, _⟩ := h.row u nullifier hmem
      rw [hnone] at hrow
      cases hrow
    constructor
    · constructor
      case row =>
        intro u nullifier' hmem
        obtain hmem | heq := mem_push.mp hmem
        · apply (h.row u nullifier' hmem).mono hext
        · injection heq with _ hop _
          cases hop
          exact ⟨_, hrow, rfl⟩
      case once =>
        intro u u' nullifier' hmem hmem'
        obtain hmem | heq := mem_push.mp hmem <;> obtain hmem' | heq' := mem_push.mp hmem'
        · apply h.once u u' nullifier' hmem hmem'
        · injection heq' with _ hop _
          cases hop
          cases hnew u hmem
        · injection heq with _ hop _
          cases hop
          cases hnew u' hmem'
        · injection heq with ht _ _
          injection heq' with ht' _ _
          rw [ht, ht']
    · apply hext

/-! ### Parts of the calls -/

/-- An access that touches no row of the table. -/
inductive Op.Aside : Op → Prop
  | currentRoot : Aside .currentRoot
  | currentTimestamp : Aside .currentTimestamp
  | verifyArtifact (proof : List UInt8) (inputs : RequestPublicInputs) :
      Aside (.verifyArtifact proof inputs)
  | execute (clientRequestId payload : String) (payloadHash : Felt252) :
      Aside (.execute clientRequestId payload payloadHash)
  | lookupByNullifier (nullifier : Felt252) : Aside (.lookupByNullifier nullifier)
  | lockOperation : Aside .lockOperation
  | unlockOperation (panicking : Bool) : Aside (.unlockOperation panicking)
  | reserveLeaf (tree : SignerTree) (epoch : U32) (root : Felt252) (capacity : U32) :
      Aside (.reserveLeaf tree epoch root capacity)
  | signReserved (tree : SignerTree) (index : U32) (message : Felt252) :
      Aside (.signReserved tree index message)

theorem Op.Aside.nullifiers {op : Op} {s s' : Shared} {r : op.Res} (h : op.Aside)
    (hexec : exec env s op r s') :
  s'.nullifiers = s.nullifiers
  := by
  cases h with
  | currentRoot => rw [show s' = s from hexec]
  | currentTimestamp => rw [show s' = s from hexec]
  | verifyArtifact => rw [show s' = s from hexec]
  | execute => rw [show s' = s from hexec]
  | lookupByNullifier => rw [hexec.1]
  | lockOperation =>
    obtain ⟨_, _, rfl⟩ | ⟨_, _, rfl⟩ := hexec
    · rfl
    · rfl
  | unlockOperation => rw [show s' = _ from hexec]
  | reserveLeaf =>
    obtain ⟨_, rfl, _⟩ := hexec
    rfl
  | signReserved =>
    obtain ⟨_, rfl⟩ := hexec
    rfl

theorem Op.Aside.keeps {op : Op} {s : Shared} {r : op.Res} (h : op.Aside) (hv : OutcomeInv v)
    (hexec : exec env v.shared op r s) :
  outcomeProtocol.Keeps v (.access t op r) s
  := by
  apply keeps_extends hv
  · rw [h.nullifiers hexec]
    apply NullifierTable.Extends.refl
  · intro u nullifier heq
    injection heq with _ hop _
    rw [hop] at h
    cases h

/-- What a part of a call gives, whatever the others do. -/
abbrev Handler.Gives {β : Type} (env : Env) (t : ℕ) (p : Handler β)
    (R : β → ServerView → Prop) (v : ServerView) : Prop :=
  gives (processing env) outcomeProtocol t p R v

section

variable {β γ ε : Type} {p : Handler β} {R : β → Prop}

theorem gives_aside {op : Op} (h : op.Aside) :
  Handler.Gives env t (call op) (fun _ _ => True) v
  := by
  apply gives_attempt
  intro w hw r s hexec
  refine ⟨h.keeps hw.inv hexec, ?_⟩
  intro x _
  trivial

theorem gives_orError {r : Except ServerError β} :
  Handler.Gives env t (orError r) (fun b _ => r = .ok b) v
  := by
  cases r with
  | ok b => apply gives_pure fun _ _ => rfl
  | error e => apply gives_throw

theorem gives_orPanic {r : Except ε β} :
  Handler.Gives env t (orPanic r) (fun b _ => r = .ok b) v
  := by
  cases r with
  | ok b => apply gives_pure fun _ _ => rfl
  | error e => apply gives_throw

theorem gives_fromExcept {r : Except Abort β} :
  Handler.Gives env t (fromExcept r) (fun b _ => r = .ok b) v
  := by
  cases r with
  | ok b => apply gives_pure fun _ _ => rfl
  | error e => apply gives_throw

theorem gives_rejectIf {condition : Prop} [Decidable condition] {e : ServerError} :
  Handler.Gives env t (rejectIf condition e) (fun _ _ => ¬ condition) v
  := by
  rw [rejectIf]
  split
  case isTrue => apply gives_throw
  case isFalse h => apply gives_pure fun _ _ => h

end

theorem gives_validateStateSigRoot {epoch : U32} {root : Felt252} :
  Handler.Gives env t (validateStateSigRoot env.config env.signer epoch root) (fun _ _ => True) v
  := by
  rw [validateStateSigRoot]
  split
  case isTrue => apply gives_mono gives_rejectIf fun _ _ _ => trivial
  case isFalse =>
    split
    case isTrue => apply gives_pure fun _ _ => trivial
    case isFalse =>
      split
      case isTrue => apply gives_pure fun _ _ => trivial
      case isFalse => apply gives_throw

theorem gives_validateInputs {apiRequest : ApiRequest} (hv : OutcomeInv v) :
  Handler.Gives env t (validateInputs env apiRequest) (fun _ _ => True) v
  := by
  apply gives_bind hv gives_orPanic
  intro _ v _ hv
  apply gives_bind hv gives_rejectIf
  intro _ v _ hv
  apply gives_bind hv gives_rejectIf
  intro _ v _ hv
  apply gives_bind hv gives_rejectIf
  intro _ v _ hv
  apply gives_bind hv gives_rejectIf
  intro _ v _ hv
  apply gives_bind hv (gives_aside .currentRoot)
  intro (root : Felt252) v _ hv
  apply gives_bind hv gives_rejectIf
  intro _ v _ hv
  apply gives_bind hv (gives_aside .currentTimestamp)
  intro (now : U64) v _ hv
  apply gives_bind hv gives_rejectIf
  intro _ v _ hv
  apply gives_bind hv gives_rejectIf
  intro _ v _ hv
  apply gives_bind hv gives_rejectIf
  intro _ v _ hv
  apply gives_validateStateSigRoot

theorem gives_verifyRequestProofArtifact {apiRequest : ApiRequest} (hv : OutcomeInv v) :
  Handler.Gives env t (verifyRequestProofArtifact env apiRequest) (fun _ _ => True) v
  := by
  apply gives_bind hv gives_rejectIf
  intro _ v _ hv
  apply gives_bind hv gives_orPanic
  intro _ v _ hv
  apply gives_bind hv gives_rejectIf
  intro _ v _ hv
  apply gives_bind hv gives_orError
  intro _ v _ hv
  apply gives_bind hv (gives_aside (.verifyArtifact _ _))
  intro _ v _ hv
  apply gives_bind hv gives_orError
  intro _ v _ hv
  apply gives_pure fun _ _ => trivial

/-- A signature of the signer can be read back from JSON. -/
theorem gives_signLeaf {tree : SignerTree} {buildMessage : U32 → Except Abort Felt252}
    (hv : OutcomeInv v) :
  Handler.Gives env t (signLeaf env.signer tree buildMessage) (fun signed _ => signed.1.Canonical) v
  := by
  apply gives_bind hv (gives_aside .lockOperation)
  intro (locked : Bool) v _ hv
  cases locked with
  | false => apply gives_throw
  | true =>
    -- the body, and then the lock is released
    apply wp_bind hv
    apply wp_mono (Q := onOk fun signed _ => signed.1.Canonical)
    · apply gives_bind hv (gives_aside (.reserveLeaf _ _ _ _))
      intro (reserved : Except ServerError U32) v _ hv
      apply gives_bind hv gives_orError
      intro leafIndex v _ hv
      apply gives_bind hv gives_fromExcept
      intro message v _ hv
      apply gives_bind hv (R := fun sig _ => ∀ s ∈ sig, XmssSignature.Canonical s)
      · apply gives_attempt
        intro w hw r s hexec
        refine ⟨(Op.Aside.signReserved _ _ _).keeps hw.inv hexec, ?_⟩
        intro x _ sig hsig
        obtain ⟨hr, _⟩ := hexec
        apply (XmssKeypair.signReserved_eq_some (hr.symm.trans hsig)).2.2
      · intro (sig : Option XmssSignature) v hsig hv
        cases sig with
        | none => apply gives_throw
        | some sig =>
          apply gives_pure
          intro w _
          obtain ⟨hwots, hpath⟩ := hsig sig rfl
          exact ⟨hwots, hpath⟩
    · intro result w hresult hw
      apply wp_bind hw
      intro x hx r s hexec
      have hexec : exec env x.shared (.unlockOperation (panicking result)) r s := hexec
      refine ⟨(Op.Aside.unlockOperation _).keeps hx.inv hexec, ?_⟩
      intro y _ _ z _
      cases result with
      | ok signed => apply hresult
      | error e => trivial

/-- The row of a nullifier holds an outcome for good. -/
def SettledAs (s : Shared) (nullifier : Felt252) (outcome : Outcome) : Prop :=
  ∃ row, s.nullifiers nullifier.toHex = some row ∧ row.status = statusToStr .finalized
    ∧ row.outcome = .ok outcome

theorem SettledAs.mono {s s' : Shared} {nullifier : Felt252} {outcome : Outcome}
    (h : SettledAs s nullifier outcome) (hext : s'.nullifiers.Extends s.nullifiers) :
  SettledAs s' nullifier outcome
  := by
  obtain ⟨row, hrow, hstatus, houtcome⟩ := h
  refine ⟨row, hext.settled hrow ?_, hstatus, houtcome⟩
  rw [NullifierRow.Settled, hstatus]
  apply settled_finalized

/-- A finalized record is read from a settled row. -/
theorem settledAs_of_lookup {s : Shared} {nullifier : Felt252} {record : TranscriptRecord}
    {clientRequestId : String}
    (h : s.nullifiers.lookupByNullifier nullifier = .ok (some record))
    (hstatus : record.status = .finalized) :
  SettledAs s nullifier (buildResponseFromRecord record clientRequestId).outcome
  := by
  rw [NullifierTable.lookupByNullifier] at h
  cases hrow : s.nullifiers nullifier.toHex with
  | none =>
    rw [hrow] at h
    cases h
  | some row =>
    rw [hrow] at h
    dsimp only at h
    cases hrecord : rowToRecord nullifier.toHex row with
    | error e =>
      rw [hrecord] at h
      cases h
    | ok record' =>
      rw [hrecord] at h
      cases h
      obtain ⟨houtcome, hstatus'⟩ := outcome_of_rowToRecord hrecord
      rw [hstatus] at hstatus'
      exact ⟨row, hrow, status_of_strToStatus hstatus'.symm (by rintro ⟨⟩), houtcome⟩

/-- A response is built when its outcome is settled. -/
theorem gives_executeRequest {apiRequest : ApiRequest} {proofBytes : List UInt8}
    (hv : OutcomeInv v) :
  Handler.Gives env t (executeRequest env apiRequest proofBytes)
    (fun response w =>
      SettledAs w.shared apiRequest.publicInputs.requestNullifier response.outcome) v
  := by
  apply gives_bind hv (gives_aside (.execute _ _ _))
  intro (executed : Except ServerError ProviderResponse) v _ hv
  apply gives_bind hv gives_orError
  intro provider v _ hv
  apply gives_bind hv gives_orPanic
  intro responseHash v _ hv
  apply gives_bind hv gives_rejectIf
  intro _ v _ hv
  apply gives_bind hv gives_orPanic
  intro anonPoint v _ hv
  apply gives_bind hv (gives_signLeaf hv)
  intro signed v hsig hv
  obtain ⟨sig, leafIndex, message⟩ := signed
  apply gives_bind hv gives_fromExcept
  intro state v hstate hv
  apply gives_bind hv (gives_aside .currentTimestamp)
  intro (createdAt : U64) v _ hv
  apply gives_bind hv (gives_aside .currentTimestamp)
  intro (finalizedAt : U64) v _ hv
  apply gives_bind hv (R := fun finalized w => finalized = .ok () →
    SettledAs w.shared apiRequest.publicInputs.requestNullifier
      (responseOf env apiRequest provider responseHash state sig).outcome)
  · apply gives_attempt
    rintro w hw r s ⟨now, table, rfl, hstatement⟩
    constructor
    · apply keeps_extends hw.inv
      · apply hstatement.rel NullifierTable.Extends.refl NullifierTable.finalize_extends
      · rintro u nullifier ⟨⟩
    · rintro x hx rfl
      obtain ⟨hok, rfl⟩ := hstatement.eq_of_ok
      obtain ⟨row, hrow⟩ := NullifierTable.finalize_eq_ok hok
      apply SettledAs.mono _ hx.rel
      exact ⟨_, hrow, rfl, outcome_finalized row (canonical_nextState hstate) hsig⟩
  · intro (finalized : Except ServerError Unit) v hfinalized hv
    apply gives_bind hv (R := fun _ w => SettledAs w.shared
      apiRequest.publicInputs.requestNullifier
        (responseOf env apiRequest provider responseHash state sig).outcome)
    · cases finalized with
      | error e => apply gives_throw
      | ok value =>
        apply gives_pure
        intro w hw
        apply (hfinalized rfl).mono hw.rel
    · intro _ v hsettled hv
      apply gives_pure
      intro w hw
      apply hsettled.mono hw.rel

/-- A response to a request is released when its outcome is settled. -/
theorem gives_processRequest {apiRequest : ApiRequest} (hv : OutcomeInv v) :
  Handler.Gives env t (processRequest env apiRequest)
    (fun response w =>
      SettledAs w.shared apiRequest.publicInputs.requestNullifier response.outcome) v
  := by
  apply gives_bind hv (gives_validateInputs hv)
  intro _ v _ hv
  apply gives_bind hv (gives_verifyRequestProofArtifact hv)
  intro proofBytes v _ hv
  -- a finalized record is read from a settled row
  apply gives_bind hv (R := fun looked w => ∀ record, looked = .ok (some record) →
    record.status = .finalized → SettledAs w.shared apiRequest.publicInputs.requestNullifier
      (buildResponseFromRecord record apiRequest.clientRequestId).outcome)
  · apply gives_attempt
    intro w hw r s hexec
    refine ⟨(Op.Aside.lookupByNullifier _).keeps hw.inv hexec, ?_⟩
    rintro x hx record rfl hstatus
    obtain ⟨rfl, hlooked | ⟨_, hlooked⟩⟩ := hexec
    · apply SettledAs.mono _ hx.rel
      apply settledAs_of_lookup hlooked.symm hstatus
    · cases hlooked
  · intro (looked : Except Failure (Option TranscriptRecord)) v hlooked hv
    apply gives_bind hv (R := fun existing w => ∀ record, existing = some record →
      record.status = .finalized → SettledAs w.shared apiRequest.publicInputs.requestNullifier
        (buildResponseFromRecord record apiRequest.clientRequestId).outcome)
    · cases looked with
      | error e => apply gives_throw
      | ok existing =>
        apply gives_pure
        rintro w hw record rfl hstatus
        apply (hlooked record rfl hstatus).mono hw.rel
    · intro existing v hexisting hv
      cases existing with
      | none =>
        apply gives_bind hv (R := fun _ _ => True)
        · apply gives_attempt
          rintro w hw r s ⟨now, table, rfl, hstatement⟩
          constructor
          · apply keeps_extends hw.inv
            · apply hstatement.rel NullifierTable.Extends.refl NullifierTable.reserve_extends
            · rintro u nullifier ⟨⟩
          · intro x _
            trivial
        · intro (reserved : Except ServerError Unit) v _ hv
          apply gives_bind hv gives_orError
          intro _ v _ hv
          apply gives_executeRequest hv
      | some record =>
        dsimp only
        split
        case isTrue h =>
          apply gives_pure
          intro w hw
          apply (hexisting record rfl h.2).mono hw.rel
        case isFalse =>
          split
          case isTrue => apply gives_executeRequest hv
          case isFalse => apply gives_throw

/-- The signature of a clearance is released by the thread that has reserved it. -/
theorem gives_processClearance {clearanceReq : ClearanceRequest} (hv : OutcomeInv v) :
  Handler.Gives env t (processClearance env clearanceReq)
    (fun _ w => cleared t clearanceReq.withdrawalNullifier ∈ w.history) v
  := by
  apply gives_bind hv (gives_aside (.lookupByNullifier _))
  intro (looked : Except Failure (Option TranscriptRecord)) v _ hv
  apply gives_bind hv gives_orPanic
  intro existing v _ hv
  apply gives_bind hv gives_rejectIf
  intro _ v _ hv
  apply gives_bind hv (R := fun _ _ => True)
  · apply gives_bind hv (gives_signLeaf hv)
    rintro ⟨sig, leafIndex, message⟩ v _ _
    apply gives_pure fun _ _ => trivial
  · rintro ⟨clearSig, leafIndex⟩ v _ hv
    apply gives_bind hv (R := fun reserved w => reserved = .ok () →
      cleared t clearanceReq.withdrawalNullifier ∈ w.history)
    · apply gives_attempt
      intro w hw r s hexec
      refine ⟨keeps_reserveClearance hw.inv hexec, ?_⟩
      rintro x hx rfl
      apply hx.mem (mem_push.mpr (.inr rfl))
    · intro (reserved : Except ServerError Unit) v hreserved hv
      apply gives_bind hv (R := fun _ w =>
        cleared t clearanceReq.withdrawalNullifier ∈ w.history)
      · cases reserved with
        | error e => apply gives_throw
        | ok value =>
          apply gives_pure
          intro w hw
          apply hw.mem (hreserved rfl)
      · intro _ v hcleared _
        apply gives_pure
        intro w hw
        apply hw.mem hcleared

/-! ### Runs -/

/-- What a reply has promised. -/
def ServerCall.Post (t : ℕ) : ServerCall → Reply → ServerView → Prop
  | .processRequest apiRequest, .request result, v =>
      onOk (fun response w =>
        SettledAs w.shared apiRequest.publicInputs.requestNullifier response.outcome) result v
  | .processClearance clearanceReq, .clearance result, v =>
      onOk (fun _ w => cleared t clearanceReq.withdrawalNullifier ∈ w.history) result v
  | .processRequest _, .clearance _, _ => False
  | .processClearance _, .request _, _ => False

theorem ServerCall.Post.mono {serverCall : ServerCall} {reply : Reply}
    (h : serverCall.Post t reply v) (hrel : w.shared.nullifiers.Extends v.shared.nullifiers)
    (hgrown : v.history <+: w.history) :
  serverCall.Post t reply w
  := by
  cases serverCall with
  | processRequest apiRequest =>
    cases reply with
    | clearance result => cases h
    | request result =>
      cases result with
      | error e => trivial
      | ok response =>
        have hsettled : SettledAs v.shared _ response.outcome := h
        apply hsettled.mono hrel
  | processClearance clearanceReq =>
    cases reply with
    | request result => cases h
    | clearance result =>
      cases result with
      | error e => trivial
      | ok response => apply hgrown.subset h

/-- What the calls of the server keep to. -/
theorem outcomeProtocol_sound :
  outcomeProtocol.Sound (processing env) (fun t serverCall => serverCall.Post t)
  := by
  constructor
  case start =>
    intro t serverCall v hv _
    have hkeeps : outcomeProtocol.Keeps v (.start t serverCall) v.shared := by
      apply keeps_extends hv NullifierTable.Extends.refl
      rintro u nullifier ⟨⟩
    refine ⟨hkeeps, ?_⟩
    cases serverCall with
    | processRequest apiRequest =>
      apply wp_bind hkeeps.1
      apply wp_mono (gives_processRequest hkeeps.1)
      intro result w hpost hw x hx
      have hpost : (ServerCall.processRequest apiRequest).Post t (.request result) w := hpost
      apply hpost.mono hx.rel hx.history
    | processClearance clearanceReq =>
      apply wp_bind hkeeps.1
      apply wp_mono (gives_processClearance hkeeps.1)
      intro result w hpost hw x hx
      have hpost : (ServerCall.processClearance clearanceReq).Post t (.clearance result) w := hpost
      apply hpost.mono hx.rel hx.history
  case finish =>
    intro t reply v hv
    apply keeps_extends hv NullifierTable.Extends.refl
    rintro u nullifier ⟨⟩
  case restart =>
    rintro s v hv ⟨signerState, _, rfl⟩
    apply keeps_extends hv
    · apply NullifierTable.Extends.refl
    · rintro u nullifier ⟨⟩
  case stable =>
    intro t serverCall reply v w hpost hrel hgrown
    apply hpost.mono hrel hgrown

/-- A response to a request was released for the nullifier. -/
def ReleasedResponse (history : List ServerLabel) (nullifier : Felt252)
    (response : RequestResponse) : Prop :=
  ∃ t apiRequest, .start t (.processRequest apiRequest) ∈ history
    ∧ apiRequest.publicInputs.requestNullifier = nullifier
    ∧ .finish t (.request (.ok response)) ∈ history

/-- A clearance was released for the nullifier, at a place of the history. -/
def ReleasedClearance (history : List ServerLabel) (nullifier : Felt252) (i : ℕ) : Prop :=
  ∃ t clearanceReq clearance, .start t (.processClearance clearanceReq) ∈ history
    ∧ clearanceReq.withdrawalNullifier = nullifier
    ∧ history[i]? = some (.finish t (.clearance (.ok clearance)))

/-- The server has started on a database. -/
def Env.serving (nullifiers : NullifierTable) (signerState : SignerTable) :
    Config Op Op.Res Shared Reply :=
  .initial (Shared.started nullifiers signerState)

/-- The protocol is kept by every server. -/
theorem kept_serving {nullifiers : NullifierTable} {signerState : SignerTable}
    {history : List ServerLabel} {c : Config Op Op.Res Shared Reply}
    (hrun : Run (Step (processing env)) (Env.serving nullifiers signerState) history c) :
  Kept outcomeProtocol (processing env) (fun t serverCall => serverCall.Post t) history c
  := by
  have hinitial : Kept outcomeProtocol (processing env) (fun t serverCall => serverCall.Post t) []
      (Env.serving nullifiers signerState) := by
    apply Kept.initial
    constructor
    case row => rintro t nullifier ⟨⟩
    case once => rintro t u nullifier ⟨⟩
  have hkept := (hinitial.run outcomeProtocol_sound hrun).1
  rw [List.nil_append] at hkept
  apply hkept

/-- Along every run of requests and clearances, over crashes and restarts: the responses to
requests that are released for a nullifier carry one outcome, which its finalized row holds
from then on; a clearance is released once at most, and never beside a response; and a row
that is finalized or reserved for a clearance never changes. -/
theorem one_outcome {nullifiers : NullifierTable} {signerState : SignerTable}
    {history later : List ServerLabel} {c d : Config Op Op.Res Shared Reply}
    (hrun : Run (Step (processing env)) (Env.serving nullifiers signerState) history c)
    (hlater : Run (Step (processing env)) c later d) (nullifier : Felt252) :
  (∀ response, ReleasedResponse history nullifier response →
      SettledAs c.shared nullifier response.outcome)
    ∧ (∀ response response', ReleasedResponse history nullifier response →
      ReleasedResponse history nullifier response' → response.outcome = response'.outcome)
    ∧ (∀ i j, ReleasedClearance history nullifier i → ReleasedClearance history nullifier j → i = j)
    ∧ (∀ response i, ReleasedResponse history nullifier response →
      ¬ ReleasedClearance history nullifier i)
    ∧ ∀ row, c.shared.nullifiers nullifier.toHex = some row →
      row.status = statusToStr .finalized ∨ row.status = statusToStr .clearanceReserved →
      d.shared.nullifiers nullifier.toHex = some row
  := by
  have hkept := kept_serving hrun
  have hinv : OutcomeInv ⟨history, c.shared⟩ := hkept.inv
  have hresponse : ∀ response, ReleasedResponse history nullifier response →
      SettledAs c.shared nullifier response.outcome := by
    rintro response ⟨t, apiRequest, hstart, rfl, hfinish⟩
    obtain ⟨serverCall, hstart', hpost⟩ := hkept.finished t _ hfinish
    obtain rfl := hkept.started t _ _ hstart hstart'
    apply hpost
  have hclearance : ∀ t clearanceReq clearance,
      .start t (.processClearance clearanceReq) ∈ history →
      .finish t (.clearance (.ok clearance)) ∈ history →
        cleared t clearanceReq.withdrawalNullifier ∈ history := by
    intro t clearanceReq clearance hstart hfinish
    obtain ⟨serverCall, hstart', hpost⟩ := hkept.finished t _ hfinish
    obtain rfl := hkept.started t _ _ hstart hstart'
    apply hpost
  refine ⟨hresponse, ?_, ?_, ?_, ?_⟩
  · intro response response' h h'
    obtain ⟨row, hrow, _, houtcome⟩ := hresponse response h
    obtain ⟨row', hrow', _, houtcome'⟩ := hresponse response' h'
    rw [hrow] at hrow'
    cases hrow'
    rw [houtcome] at houtcome'
    apply Except.ok.inj houtcome'
  · rintro i j ⟨t, request, clearance, hstart, rfl, hi⟩ ⟨u, request', clearance', hstart', heq, hj⟩
    have ht := hclearance t request clearance hstart (List.mem_of_getElem? hi)
    have hu := hclearance u request' clearance' hstart' (List.mem_of_getElem? hj)
    rw [heq] at hu
    obtain rfl := hinv.once t u _ ht hu
    apply hkept.once t _ _ i j hi hj
  · rintro response i h ⟨t, request, clearance, hstart, rfl, hi⟩
    obtain ⟨row, hrow, hstatus, _⟩ := hresponse response h
    have ht := hclearance t request clearance hstart (List.mem_of_getElem? hi)
    obtain ⟨row', hrow', hstatus'⟩ := hinv.row t _ ht
    have heq := hrow.symm.trans hrow'
    cases heq
    rw [hstatus] at hstatus'
    revert hstatus'
    decide
  · intro row hrow hstatus
    have hrel : d.shared.nullifiers.Extends c.shared.nullifiers :=
      (hkept.run outcomeProtocol_sound hlater).2
    apply hrel.settled hrow
    rw [NullifierRow.Settled]
    obtain hstatus | hstatus := hstatus
    · rw [hstatus]
      apply settled_finalized
    · rw [hstatus]
      apply settled_clearance

/-! ### A run -/

namespace ClearanceExample

open LeafExample

/-- The request to clear a withdrawal. -/
def request : ClearanceRequest where
  withdrawalNullifier := 5

/-- The message that clears it. -/
def message : Felt252 :=
  computeClearanceMessage poseidonHashMany 1 1 0 5

/-- The signature of the message with the first leaf. -/
def sig : XmssSignature :=
  (keypair.signReserved poseidonHashMany 0 0 message).1.get
    (XmssKeypair.signReserved_isSome zero_lt_capacity)

/-- What the call returns. -/
def response : ClearanceResponse where
  status := "ok"
  withdrawalNullifier := 5
  clearSigEpoch := 1
  clearSigRoot := keypair.rootFelt
  clearSig := { sig with epoch := 1 }

/-- The call looks the nullifier up, signs, and reserves the clearance. -/
def history : List ServerLabel :=
  [.start 0 (.processClearance request),
    .access 0 (.lookupByNullifier 5) (Except.ok none : Except Failure (Option TranscriptRecord)),
    .access 0 .lockOperation true,
    .access 0 (.reserveLeaf .clear 1 keypair.rootFelt keypair.capacity)
      (Except.ok 0 : Except ServerError U32),
    .access 0 (.signReserved .clear 0 message) (some sig),
    .access 0 (.unlockOperation false) (),
    cleared 0 5,
    .finish 0 (.clearance (.ok response))]

theorem run_history :
  ∃ c, Run (Step (processing server)) (Env.serving (fun _ => none) signerState) history c
  := by
  have hreserve : Statement False signerState
      (SignerTable.reserveLeaf signerState .clear 1 keypair.rootFelt keypair.capacity) (.ok 0)
      (SignerTable.reserveLeaf signerState .clear 1 keypair.rootFelt keypair.capacity).2 := by
    rw [← reserve_first .clear]
    apply Statement.done
  have hsig : some sig = (keypair.signReserved poseidonHashMany 0 0 message).1 :=
    Option.some_get _
  have hclear : Statement False (fun _ => none)
      (NullifierTable.reserveClearance (fun _ => none) 5 0) (.ok ())
      (NullifierTable.reserveClearance (fun _ => none) 5 0).2 := .done
  have h1 : Step (processing server) (Env.serving (fun _ => none) signerState)
    (.start 0 (ServerCall.processClearance request)) _ :=
      .start (ServerCall.processClearance request)
  have h2 := Run.snoc (l := .access 0 (.lookupByNullifier 5)
    (Except.ok none : Except Failure (Option TranscriptRecord))) (Run.single h1)
      (.access rfl (by exact ⟨rfl, .inl rfl⟩))
  have h3 := Run.snoc (l := .access 0 .lockOperation true) h2
    (.access rfl (by exact .inl ⟨rfl, rfl, rfl⟩))
  have h4 := Run.snoc (l := .access 0 (.reserveLeaf .clear 1 keypair.rootFelt keypair.capacity)
    (Except.ok 0 : Except ServerError U32)) h3 (.access rfl (by exact ⟨_, rfl, hreserve⟩))
  have h5 := Run.snoc (l := .access 0 (.signReserved .clear 0 message) (some sig)) h4
    (.access rfl (by exact ⟨hsig, rfl⟩))
  have h6 := Run.snoc (l := .access 0 (.unlockOperation false) ()) h5
    (.access rfl (by exact rfl))
  have h7 := Run.snoc (l := cleared 0 5) h6
    (.access rfl (by exact ⟨0, _, rfl, hclear⟩))
  have h8 := Run.snoc (l := .finish 0 (.clearance (.ok response))) h7 (.finish rfl)
  exact ⟨_, h8⟩

/-- The clearance is released, once, and no response beside it. -/
theorem one_outcome_clearance :
  ReleasedClearance history 5 7 ∧ (∀ j, ReleasedClearance history 5 j → j = 7)
    ∧ ∀ released, ¬ ReleasedResponse history 5 released
  := by
  obtain ⟨c, hrun⟩ := run_history
  have hreleased : ReleasedClearance history 5 7 :=
    ⟨0, request, response, List.mem_cons_self, rfl, rfl⟩
  obtain ⟨_, _, honce, hbeside, _⟩ := one_outcome hrun .nil 5
  refine ⟨hreleased, ?_, ?_⟩
  · intro j hj
    apply honce j 7 hj hreleased
  · intro released hresponse
    apply hbeside released 7 hresponse hreleased

end ClearanceExample

end ZkApi.Server
