import ZkApi.Server.Transcript

/-!
# Retries of a request

A request whose transcript is finalized is answered from the store, but only after it has
passed the checks again: that its root is the current one, that its note has not expired,
that its bound covers the cap of the policy in force, that the root of its signature is
trusted, and that its proof verifies.  A retry that fails one of them is answered with an
error, although its nullifier is consumed.  It never executes the request again.
-/

namespace ZkApi.Server

open Stark Concurrent

section

variable {env : Env} {apiRequest : ApiRequest} {as : List ((op : Op) × op.Res)}

/-! ### Retries -/

/-- The store was read, if it was asked. -/
def Looked (apiRequest : ApiRequest) (did : (op : Op) → op.Res → Prop) : Prop :=
  ∀ looked : Except Failure (Option TranscriptRecord),
    did (.lookupByNullifier apiRequest.publicInputs.requestNullifier) looked → looked ≠ .ok none

/-- The request was executed. -/
def Executes (did : (op : Op) → op.Res → Prop) : Prop :=
  ∃ id payload hash, ∃ executed : Except ServerError ProviderResponse,
    did (.execute id payload hash) executed

/-- What a call answers to the retry of a request whose record is finalized: the stored
response when all checks pass, and an error otherwise.  It does not execute the request. -/
theorem trace_retry {record : TranscriptRecord} {r : Except Abort RequestResponse}
    (h : Trace (processRequest env apiRequest).run as r)
    (hvalid : ValidInputs env apiRequest ∧ ValidArtifact env apiRequest)
    (hsame : record.SameRequest apiRequest) (hstatus : record.status = .finalized)
    (hlookup : ∀ looked : Except Failure (Option TranscriptRecord),
      ⟨.lookupByNullifier apiRequest.publicInputs.requestNullifier, looked⟩ ∈ as →
        looked = .ok (some record) ∨ looked = .ok none)
    (hreserve : ∀ id hash (reserved : Except ServerError Unit),
      ⟨.reserve apiRequest.publicInputs.requestNullifier id hash, reserved⟩ ∈ as →
        reserved ≠ .ok ()) :
  (r = .ok (buildResponseFromRecord record apiRequest.clientRequestId)
      ∧ ¬ Executes fun op x => ⟨op, x⟩ ∈ as)
    ↔ Timely env apiRequest (fun op x => ⟨op, x⟩ ∈ as) ∧ Verified (fun op x => ⟨op, x⟩ ∈ as)
      ∧ Looked apiRequest fun op x => ⟨op, x⟩ ∈ as
  := by
  obtain ⟨proofBytes, bs, ds, looked, rfl, hcheck, hanswered⟩ | ⟨e, rfl, hcheck⟩ :=
    trace_processRequest h
  · obtain ⟨hops, hpass⟩ := trace_checkRequest hcheck
    obtain ⟨_, hpassed⟩ := hpass.mp ⟨proofBytes, rfl⟩
    obtain rfl | rfl := hlookup looked (List.mem_append_right _ List.mem_cons_self)
    · obtain ⟨rfl, rfl⟩ := hanswered.of_finalized hsame hstatus
      obtain ⟨htimely, hverified⟩ := passed_push
        ⟨.lookupByNullifier apiRequest.publicInputs.requestNullifier, .ok (some record)⟩
          (by rintro ⟨⟩) hpassed.1 hpassed.2
      constructor
      · intro _
        refine ⟨htimely, hverified, ?_⟩
        intro looked hmem
        obtain hmem | hmem := List.mem_append.mp hmem
        · cases hops _ hmem
        · cases List.mem_singleton.mp hmem
          rintro ⟨⟩
      · intro _
        refine ⟨rfl, ?_⟩
        rintro ⟨id, payload, hash, executed, hmem⟩
        obtain hmem | hmem := List.mem_append.mp hmem
        · cases hops _ hmem
        · cases List.mem_singleton.mp hmem
    · -- the statement has failed, and the row that is there is not reserved again
      obtain ⟨es, reserved, rfl, herror⟩ := hanswered.of_none
      cases reserved with
      | ok value =>
        cases hreserve _ _ (.ok value)
          (List.mem_append_right _ (List.mem_cons_of_mem _ List.mem_cons_self)) rfl
      | error e =>
        obtain ⟨rfl, rfl⟩ := herror e rfl
        constructor
        · rintro ⟨⟨⟩, _⟩
        · rintro ⟨_, _, hlooked⟩
          cases hlooked (.ok none) (List.mem_append_right _ List.mem_cons_self) rfl
  · obtain ⟨hops, hpass⟩ := trace_checkRequest hcheck
    constructor
    · rintro ⟨⟨⟩, _⟩
    · rintro ⟨htimely, hverified, _⟩
      obtain ⟨_, ⟨⟩⟩ := hpass.mpr ⟨hvalid, htimely, hverified⟩

/-- A request that was accepted passes the checks that do not change. -/
theorem valid_of_accepted {response : RequestResponse}
    (h : Trace (processRequest env apiRequest).run as (.ok response)) :
  ValidInputs env apiRequest ∧ ValidArtifact env apiRequest
  := by
  obtain ⟨proofBytes, bs, ds, looked, rfl, hcheck, _⟩ | ⟨e, ⟨⟩, _⟩ := trace_processRequest h
  apply ((trace_checkRequest hcheck).2.mp ⟨proofBytes, rfl⟩).1

/-- A finalized row is there for good: it is looked up, and cannot be reserved again. -/
theorem settled_accesses {c d : Config Op Op.Res Shared Reply} {history later : List ServerLabel}
    {nullifiers : NullifierTable} {signerState : SignerTable} {nullifier : Felt252}
    {record : TranscriptRecord} {t : ℕ}
    (hrun : Run (Step (processing env)) (Env.serving nullifiers signerState) history c)
    (hrecord : c.shared.nullifiers.lookupByNullifier nullifier = .ok (some record))
    (hstatus : record.status = .finalized) (hlater : Run (Step (processing env)) c later d) :
  (∀ looked : Except Failure (Option TranscriptRecord),
      .access t (.lookupByNullifier nullifier) looked ∈ later →
        looked = .ok (some record) ∨ looked = .ok none)
    ∧ ∀ id hash (reserved : Except ServerError Unit),
      .access t (.reserve nullifier id hash) reserved ∈ later → reserved ≠ .ok ()
  := by
  obtain ⟨row, hrow, hfinalized, _⟩ :=
    @settledAs_of_lookup c.shared nullifier record "" hrecord hstatus
  -- the row is as it was, whenever it is asked for
  have hthere : ∀ {as u}, Run (Step (processing env)) c as u →
      u.shared.nullifiers nullifier.toHex = some row := by
    intro as u hu
    have hrel : u.shared.nullifiers.Extends c.shared.nullifiers :=
      ((kept_serving hrun).run outcomeProtocol_sound hu).2
    apply hrel.settled hrow
    rw [NullifierRow.Settled, hfinalized]
    apply settled_finalized
  constructor
  · intro looked hmem
    obtain ⟨as, bs, u, v, _, hu, hstep, _⟩ := hlater.exists_step hmem
    have hsame : u.shared.nullifiers.lookupByNullifier nullifier
        = c.shared.nullifiers.lookupByNullifier nullifier := by
      rw [NullifierTable.lookupByNullifier, NullifierTable.lookupByNullifier, hthere hu, hrow]
    obtain _ | ⟨_, _, hlooked⟩ := hstep
    obtain hlooked | ⟨_, hlooked⟩ := hlooked
    · left
      rw [hlooked, hsame, hrecord]
    · right
      apply hlooked
  · rintro id hash reserved hmem rfl
    obtain ⟨as, bs, u, v, _, hu, hstep, _⟩ := hlater.exists_step hmem
    obtain _ | ⟨_, now, table, _, hstatement⟩ := hstep
    obtain ⟨hok, _⟩ := hstatement.eq_of_ok
    have hnone := (NullifierTable.insert_eq_ok hok).1
    rw [hthere hu] at hnone
    cases hnone

/-! ### Runs -/

/-- Whatever a deployment has done, and whatever root, time and policy it is at: a request
that it has accepted, and whose record is finalized, is answered with the stored response,
and not executed again, exactly when it passes the checks on these once more. -/
theorem finalized_retry_iff {before env : Env} (hsame : env.SameDeployment before)
    {apiRequest : ApiRequest} {accepted : List ((op : Op) × op.Res)} {response : RequestResponse}
    (haccepted : Trace (processRequest before apiRequest).run accepted (.ok response))
    {nullifiers : NullifierTable} {signerState : SignerTable} {history later : List ServerLabel}
    {c d e : Config Op Op.Res Shared Reply} {t : ℕ} {record : TranscriptRecord}
    {result : Except Abort RequestResponse}
    (hrun : Run (Step (processing env)) (Env.serving nullifiers signerState) history c)
    (hrecord : c.shared.nullifiers.lookupByNullifier apiRequest.publicInputs.requestNullifier
      = .ok (some record))
    (hstatus : record.status = .finalized) (hrequest : record.SameRequest apiRequest)
    (hstart : Step (processing env) c (.start t (.processRequest apiRequest)) d)
    (hretry : Run (Step (processing env)) d later e)
    (hfinish : .finish t (.request result) ∈ later) :
  (result = .ok (buildResponseFromRecord record apiRequest.clientRequestId)
      ∧ ¬ Executes fun op x => .access t op x ∈ later)
    ↔ Timely env apiRequest (fun op x => .access t op x ∈ later)
      ∧ Verified (fun op x => .access t op x ∈ later)
      ∧ Looked apiRequest fun op x => .access t op x ∈ later
  := by
  obtain ⟨r, ⟨⟩, htrace⟩ := trace_program (trace_of_run hstart hretry hfinish)
  obtain ⟨hinputs, hartifact⟩ := valid_of_accepted haccepted
  obtain ⟨hlookup, hreserve⟩ := settled_accesses (t := t) hrun hrecord hstatus
    ((Run.single hstart).append hretry)
  have hiff := trace_retry htrace ⟨hinputs.of_same hsame, hartifact.of_same hsame⟩ hrequest hstatus
    (fun looked hmem => hlookup looked (List.mem_append_right _ (mem_accessesOf.mp hmem)))
    fun id hash reserved hmem =>
      hreserve id hash reserved (List.mem_append_right _ (mem_accessesOf.mp hmem))
  simp only [mem_accessesOf] at hiff
  apply hiff

end

/-! ### A retry -/

namespace RetryExample

open TranscriptExample

/-- After the call of the example, the record of the request is finalized. -/
theorem exists_finalized :
  ∃ history c record,
    Run (Step (processing server)) (Env.serving (fun _ => none) LeafExample.signerState) history c
    ∧ .finish 0 (.request (.ok (response 5))) ∈ history
    ∧ c.shared.nullifiers.lookupByNullifier 5 = .ok (some record)
    ∧ record.status = .finalized ∧ record.SameRequest apiRequest
  := by
  obtain ⟨c, d, e, now, hc, hstep, hnow, he⟩ := exists_run 5
  obtain ⟨_, _, row, _, hrow, _, hrecord, _⟩ :=
    lookup_of_finalized hc List.mem_cons_self hstep hnow he
  refine ⟨_, e, (transcript 5).stored row.createdAt now, (hc.snoc hstep).append he,
    List.mem_append_right _ List.mem_cons_self, ?_, rfl, rfl, rfl⟩
  rw [NullifierTable.lookupByNullifier, hrow]
  dsimp only
  rw [hrecord]
  rfl

/-- A call of the request, from any configuration. -/
theorem exists_call {c : Config Op Op.Res Shared Reply} {as : List ((op : Op) × op.Res)}
    {r : Except Abort RequestResponse} {s : Shared}
    (htrace : Trace (processRequest server apiRequest).run as r)
    (hexecs : Execs (processing server) c.shared as s) :
  ∃ d e, Step (processing server) c (.start c.next (.processRequest apiRequest)) d
    ∧ Run (Step (processing server)) d (solo c.next as (.request r)) e
  := by
  have hcall : Trace ((processing server).program (.processRequest apiRequest)) as
      (.request r) := by
    apply trace_bind.mpr
    refine ⟨r, as, [], (List.append_nil as).symm, htrace, ?_⟩
    apply trace_pure.mpr ⟨rfl, rfl⟩
  obtain ⟨e, hrun, _⟩ := run_of_call hcall hexecs
  obtain ⟨d, hd, he⟩ := Run.split (List.singleton_append ▸ hrun)
  exact ⟨d, e, hd.step_of_single, he⟩

/-- The accesses of a call that finds a record. -/
def timely (record : TranscriptRecord) : List ((op : Op) × op.Res) :=
  checks ++ [⟨.lookupByNullifier 5, (.ok (some record) : Except Failure (Option TranscriptRecord))⟩]

/-- A retry at the root of the request is answered from the store. -/
theorem retry_example :
  ∃ history c d e later record,
    Run (Step (processing server)) (Env.serving (fun _ => none) LeafExample.signerState) history c
    ∧ Step (processing server) c (.start c.next (.processRequest apiRequest)) d
    ∧ Run (Step (processing server)) d later e
    ∧ .finish c.next (.request (.ok (buildResponseFromRecord record "request"))) ∈ later
    ∧ ¬ Executes fun op x => .access c.next op x ∈ later
  := by
  obtain ⟨history, c, record, hrun, _, hrecord, hstatus, hsame⟩ := exists_finalized
  have htrace : Trace (processRequest server apiRequest).run (timely record)
      (.ok (buildResponseFromRecord record "request")) :=
    (Answered.stored hsame hstatus).trace trace_checks
  have hexecs : Execs (processing server) c.shared (timely record) c.shared :=
    .cons rfl (.cons rfl (.cons rfl (.cons ⟨rfl, .inl hrecord.symm⟩ (.nil _))))
  obtain ⟨d, e, hstart, hretry⟩ := exists_call htrace hexecs
  refine ⟨history, c, d, e, _, record, hrun, hstart, hretry, finish_mem_solo, ?_⟩
  apply ((finalized_retry_iff ⟨rfl, rfl, rfl, rfl, rfl⟩ (trace_accesses 5) hrun hrecord hstatus
    hsame hstart hretry finish_mem_solo).mpr ?_).2
  refine ⟨?_, ?_, ?_⟩
  · constructor
    case root =>
      intro root hmem
      obtain _ | ⟨_, _ | ⟨_, _ | ⟨_, _ | ⟨_, ⟨⟩⟩⟩⟩⟩ := mem_solo.mp hmem
      rfl
    case time =>
      intro now hmem
      obtain _ | ⟨_, _ | ⟨_, _ | ⟨_, _ | ⟨_, ⟨⟩⟩⟩⟩⟩ := mem_solo.mp hmem
      decide
    case bound => decide
    case trusted =>
      have hepoch : apiRequest.publicInputs.stateSigEpoch = 0 := rfl
      rw [Env.Trusts, if_pos hepoch]
      rfl
  · intro proofBytes inputs verified hmem
    obtain _ | ⟨_, _ | ⟨_, _ | ⟨_, _ | ⟨_, ⟨⟩⟩⟩⟩⟩ := mem_solo.mp hmem
    rfl
  · intro looked hmem
    obtain _ | ⟨_, _ | ⟨_, _ | ⟨_, _ | ⟨_, ⟨⟩⟩⟩⟩⟩ := mem_solo.mp hmem
    rintro ⟨⟩

/-- The accesses of a call that reads another root. -/
def stale : List ((op : Op) × op.Res) :=
  [⟨.currentRoot, (4 : Felt252)⟩]

theorem trace_stale :
  Trace (processRequest server apiRequest).run stale
    (.error (.error (.staleRoot (Felt252.toHex 4))))
  := by
  apply trace_run_bind.mpr (.inr ⟨_, rfl, ?_⟩)
  apply trace_orPanic_bind.mpr (.inl ⟨_, payloadHash_eq, ?_⟩)
  apply trace_rejectIf_bind.mpr (.inl ⟨by decide, ?_⟩)
  apply trace_rejectIf_bind.mpr (.inl ⟨by decide, ?_⟩)
  apply trace_rejectIf_bind.mpr (.inl ⟨by decide, ?_⟩)
  apply trace_rejectIf_bind.mpr (.inl ⟨by decide, ?_⟩)
  apply trace_call_bind.mpr
  refine ⟨(4 : Felt252), [], rfl, ?_⟩
  apply trace_rejectIf_bind.mpr (.inr ⟨by decide, rfl, rfl⟩)

/-- A retry after the root has changed is answered with an error, although the request was
answered before, and its record is finalized. -/
theorem stale_retry_example :
  ∃ history c d e later record,
    Run (Step (processing server)) (Env.serving (fun _ => none) LeafExample.signerState) history c
    ∧ .finish 0 (.request (.ok (response 5))) ∈ history
    ∧ c.shared.nullifiers.lookupByNullifier 5 = .ok (some record)
    ∧ record.status = .finalized ∧ record.SameRequest apiRequest
    ∧ Step (processing server) c (.start c.next (.processRequest apiRequest)) d
    ∧ Run (Step (processing server)) d later e
    ∧ .finish c.next (.request (.error (.error (.staleRoot (Felt252.toHex 4))))) ∈ later
  := by
  obtain ⟨history, c, record, hrun, hfinish, hrecord, hstatus, hsame⟩ := exists_finalized
  have hexecs : Execs (processing server) c.shared stale c.shared := .cons rfl (.nil _)
  obtain ⟨d, e, hstart, hretry⟩ := exists_call trace_stale hexecs
  exact ⟨history, c, d, e, _, record, hrun, hfinish, hrecord, hstatus, hsame, hstart, hretry,
    finish_mem_solo⟩

end RetryExample

end ZkApi.Server
