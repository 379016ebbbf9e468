import ZkApi.Server.Transcript
import ZkApi.Types.Storage

/-!
# The challenge watcher

The watcher answers a withdrawal that is pending with a nullifier by what the server has archived
for the request with this nullifier.  It does so for every nullifier for which a response was
released, and what it answers with are the public inputs of a request that the server has
processed, with the bytes of a proof that has verified for them (`released_challengeable`).
-/

namespace ZkApi.Server

open Stark Concurrent

/-! ### Challenges -/

/-- `ChallengeAction`. -/
structure ChallengeAction where
  noteId : U32
  requestInputs : RequestPublicInputs
  proofArtifact : List UInt8
  siblings : Fin 32 → Felt252

/-- `finalized_transcript`. -/
def finalizedTranscript (store : NullifierTable) (nullifier : Felt252) :
    Except Failure (Option TranscriptRecord) := do
  let record ← store.lookupByNullifier nullifier
  return record.filter fun record => record.status = .finalized

/-- `ok_or_else`. -/
def okOrElse {α : Type} (x : Option α) (text : String) : Except Failure α :=
  match x with
  | none => .error (.message text)
  | some a => .ok a

theorem okOrElse_eq_ok {α : Type} {x : Option α} {text : String} {a : α} :
  okOrElse x text = .ok a ↔ x = some a
  := by
  cases x <;> simp [okOrElse]

/-- What deserialization makes of the inputs that were serialized. -/
def RequestPublicInputs.reload (inputs : RequestPublicInputs) :
    Except Failure RequestPublicInputs := do
  return { inputs with
    contractAddress := ← inputs.contractAddress.reload
    activeRoot := ← inputs.activeRoot.reload
    stateSigRoot := ← inputs.stateSigRoot.reload
    requestNullifier := ← inputs.requestNullifier.reload
    anonCommitmentX := ← inputs.anonCommitmentX.reload
    anonCommitmentY := ← inputs.anonCommitmentY.reload }

/-- The field elements of the inputs are canonical. -/
structure RequestPublicInputs.Canonical (inputs : RequestPublicInputs) : Prop where
  contractAddress : inputs.contractAddress.Canonical
  activeRoot : inputs.activeRoot.Canonical
  stateSigRoot : inputs.stateSigRoot.Canonical
  requestNullifier : inputs.requestNullifier.Canonical
  anonCommitmentX : inputs.anonCommitmentX.Canonical
  anonCommitmentY : inputs.anonCommitmentY.Canonical

/-- Canonical inputs are read back, and no others. -/
theorem RequestPublicInputs.reload_eq_ok {inputs reloaded : RequestPublicInputs} :
  inputs.reload = .ok reloaded ↔ inputs.Canonical ∧ reloaded = inputs
  := by
  simp only [reload, bind_eq_ok, Felt252.reload_eq_ok, pure, Except.pure, Except.ok.injEq]
  constructor
  · rintro ⟨_, ⟨h1, rfl⟩, _, ⟨h2, rfl⟩, _, ⟨h3, rfl⟩, _, ⟨h4, rfl⟩, _, ⟨h5, rfl⟩, _, ⟨h6, rfl⟩, rfl⟩
    exact ⟨⟨h1, h2, h3, h4, h5, h6⟩, rfl⟩
  · rintro ⟨h, rfl⟩
    exact ⟨_, ⟨h.contractAddress, rfl⟩, _, ⟨h.activeRoot, rfl⟩, _, ⟨h.stateSigRoot, rfl⟩,
      _, ⟨h.requestNullifier, rfl⟩, _, ⟨h.anonCommitmentX, rfl⟩, _, ⟨h.anonCommitmentY, rfl⟩, rfl⟩

/-- `map_err` with a text before the error. -/
def prepended {α : Type} (text : String) (x : Except Failure α) : Except Failure α :=
  x.mapError fun
    | .message e => .message s!"{text}: {e}"
    | .panic => .panic

theorem prepended_eq_ok {α : Type} {text : String} {x : Except Failure α} {a : α} :
  prepended text x = .ok a ↔ x = .ok a
  := by
  cases x <;> simp [prepended, Except.mapError]

/-- `build_challenge_action`. -/
def buildChallengeAction (store : NullifierTable) (noteId : U32) (nullifier : Felt252)
    (siblings : Fin 32 → Felt252) : Except Failure ChallengeAction := do
  let transcript ← finalizedTranscript store nullifier
  let record ← okOrElse transcript "no finalized transcript for nullifier"
  let archived ← okOrElse record.requestInputs "missing archived request inputs"
  let requestInputs ← prepended "invalid archived request inputs" archived.reload
  failIf (requestInputs.requestNullifier ≠ nullifier)
    (.message "archived request nullifier mismatch")
  let proofArtifact ← okOrElse record.proofBlob "missing archived proof blob"
  return { noteId, requestInputs, proofArtifact, siblings }

theorem finalizedTranscript_eq_ok {store : NullifierTable} {nullifier : Felt252}
    {record : TranscriptRecord} :
  finalizedTranscript store nullifier = .ok (some record)
    ↔ store.lookupByNullifier nullifier = .ok (some record) ∧ record.status = .finalized
  := by
  simp only [finalizedTranscript, bind_eq_ok, pure, Except.pure, Except.ok.injEq,
    Option.filter_eq_some_iff, decide_eq_true_eq]
  constructor
  · rintro ⟨_, hlooked, rfl, hstatus⟩
    exact ⟨hlooked, hstatus⟩
  · rintro ⟨hlooked, hstatus⟩
    exact ⟨some record, hlooked, rfl, hstatus⟩

/-- An action is built from a finalized record whose inputs are canonical and name the nullifier. -/
theorem buildChallengeAction_eq_ok {store : NullifierTable} {noteId : U32} {nullifier : Felt252}
    {siblings : Fin 32 → Felt252} {action : ChallengeAction} :
  buildChallengeAction store noteId nullifier siblings = .ok action
    ↔ ∃ record, store.lookupByNullifier nullifier = .ok (some record) ∧ record.status = .finalized
      ∧ record.requestInputs = some action.requestInputs ∧ action.requestInputs.Canonical
      ∧ action.requestInputs.requestNullifier = nullifier
      ∧ record.proofBlob = some action.proofArtifact
      ∧ action.noteId = noteId ∧ action.siblings = siblings
  := by
  simp only [buildChallengeAction, bind_eq_ok, okOrElse_eq_ok, prepended_eq_ok,
    RequestPublicInputs.reload_eq_ok, failIf_eq_ok, not_not, exists_const, pure, Except.pure,
    Except.ok.injEq]
  constructor
  · rintro ⟨_, hlooked, record, rfl, inputs, hinputs, _, ⟨hcanonical, rfl⟩, hnullifier, proof,
      hproof, rfl⟩
    obtain ⟨hlooked, hstatus⟩ := finalizedTranscript_eq_ok.mp hlooked
    exact ⟨record, hlooked, hstatus, hinputs, hcanonical, hnullifier, hproof, rfl, rfl⟩
  · rintro ⟨record, hlooked, hstatus, hinputs, hcanonical, hnullifier, hproof, rfl, rfl⟩
    exact ⟨some record, finalizedTranscript_eq_ok.mpr ⟨hlooked, hstatus⟩, record, rfl, _, hinputs,
      _, ⟨hcanonical, rfl⟩, hnullifier, _, hproof, rfl⟩

/-! ### What is archived -/

section

variable {env : Env} {apiRequest : ApiRequest} {as : List ((op : Op) × op.Res)}
  {proofBytes : List UInt8}

/-- The bytes that pass the checks are those of a proof that has verified. -/
theorem verified_of_check (h : Trace (checkRequest env apiRequest).run as (.ok proofBytes)) :
  ⟨.verifyArtifact proofBytes apiRequest.publicInputs, (.ok () : Except String Unit)⟩ ∈ as
  := by
  obtain ⟨_, bs, cs, rfl, -, h⟩ := trace_run_bind_ok.mp h
  apply List.mem_append_right
  obtain ⟨_, h⟩ | ⟨_, _, ⟨⟩⟩ := trace_rejectIf_bind.mp h
  obtain ⟨_, _, h⟩ | ⟨_, _, ⟨⟩⟩ := trace_orPanic_bind.mp h
  obtain ⟨_, h⟩ | ⟨_, _, ⟨⟩⟩ := trace_rejectIf_bind.mp h
  obtain ⟨bytes, _, h⟩ | ⟨_, _, _, ⟨⟩⟩ := trace_orError_bind.mp h
  obtain ⟨verified, ds, rfl, hrest⟩ := trace_call_bind.mp h
  change Except String Unit at verified
  obtain ⟨_, hverified, hrest⟩ | ⟨_, _, _, ⟨⟩⟩ := trace_orError_bind.mp hrest
  obtain ⟨rfl, hbytes⟩ := trace_run_pure.mp hrest
  obtain rfl := Except.ok.inj hbytes
  cases verified with
  | ok value => exact List.mem_singleton_self _
  | error e => cases hverified

/-- What is done before an element that the first part does not have includes the first part. -/
theorem subset_before {α : Type} {a : α} {before later first rest : List α}
    (h : before ++ a :: later = first ++ rest) (ha : a ∉ first) :
  first ⊆ before
  := by
  obtain ⟨cs, rfl, hrest⟩ | ⟨cs, rfl, -⟩ := List.append_eq_append_iff.mp h
  · cases cs with
    | nil =>
      rw [List.append_nil]
      exact List.Subset.refl _
    | cons c cs =>
      obtain ⟨rfl, -⟩ := List.cons.inj hrest
      exact absurd (List.mem_append_right _ List.mem_cons_self) ha
  · exact List.subset_append_left _ _

/-- The transcript of an execution archives the public inputs and the bytes of the proof. -/
theorem Executed.archives {r : Except Abort RequestResponse} {nullifier : Felt252}
    {transcript : TranscriptRecord} {x : Except ServerError Unit}
    (h : Executed env apiRequest proofBytes as r)
    (hmem : ⟨.finalize nullifier transcript, x⟩ ∈ as) :
  transcript.requestInputs = some apiRequest.publicInputs ∧ transcript.proofBlob = some proofBytes
  := by
  cases h with
  | failed haside => cases haside _ hmem
  | finalized finalized haside =>
    obtain hmem | hmem := List.mem_append.mp hmem
    · cases haside _ hmem
    · cases List.mem_singleton.mp hmem
      exact ⟨rfl, rfl⟩

/-- A call that finalizes has passed the checks and executes the request, and does not finalize
before it does. -/
theorem trace_finalizing {r : Except Abort RequestResponse} {nullifier : Felt252}
    {transcript : TranscriptRecord} {x : Except ServerError Unit}
    (h : Trace (processRequest env apiRequest).run as r)
    (hmem : ⟨.finalize nullifier transcript, x⟩ ∈ as) :
  ∃ proofBytes bs first es, as = bs ++ first ++ es
    ∧ Trace (checkRequest env apiRequest).run bs (.ok proofBytes)
    ∧ ⟨.finalize nullifier transcript, x⟩ ∉ bs ++ first
    ∧ Trace (executeRequest env apiRequest proofBytes).run es r
    ∧ ⟨.finalize nullifier transcript, x⟩ ∈ es
  := by
  obtain ⟨proofBytes, bs, ds, looked, rfl, hcheck, hanswered⟩ | ⟨e, rfl, hcheck⟩ :=
    trace_processRequest h
  swap
  · cases (trace_checkRequest hcheck).1 _ hmem
  have hbs : (⟨.finalize nullifier transcript, x⟩ : (op : Op) × op.Res) ∉ bs := by
    intro hbs
    cases (trace_checkRequest hcheck).1 _ hbs
  have hds : (⟨.finalize nullifier transcript, x⟩ : (op : Op) × op.Res) ∈ ds := by
    obtain hmem | hmem := List.mem_append.mp hmem
    · cases hbs hmem
    · obtain hmem | hmem := List.mem_cons.mp hmem
      · cases hmem
      · exact hmem
  obtain ⟨first, es, rfl, hfirst, hexecuted⟩ : ∃ first es, ds = first ++ es
      ∧ (⟨.finalize nullifier transcript, x⟩ : (op : Op) × op.Res) ∉ first
      ∧ Trace (executeRequest env apiRequest proofBytes).run es r := by
    cases hanswered with
    | stored | replay | panicked => cases hds
    | resumed _ _ hexecuted => exact ⟨[], ds, rfl, List.not_mem_nil, hexecuted⟩
    | @reserved es _ hexecuted =>
      refine ⟨[_], es, rfl, ?_, hexecuted⟩
      intro hreserve
      cases List.mem_singleton.mp hreserve
    | refused => cases List.mem_singleton.mp hds
  have hes := (List.mem_append.mp hds).resolve_left hfirst
  refine ⟨proofBytes, bs, ⟨.lookupByNullifier apiRequest.publicInputs.requestNullifier, looked⟩
    :: first, es, (List.append_assoc bs (_ :: first) es).symm, hcheck, ?_, hexecuted, hes⟩
  intro hmem
  obtain hmem | hmem := List.mem_append.mp hmem
  · exact hbs hmem
  · obtain hmem | hmem := List.mem_cons.mp hmem
    · cases hmem
    · exact hfirst hmem

/-- What is finalized archives the public inputs of the request, with a proof that has verified
before. -/
theorem trace_archives {r : Except Abort RequestResponse} {before later : List ((op : Op) × op.Res)}
    {nullifier : Felt252} {transcript : TranscriptRecord} {x : Except ServerError Unit}
    (h : Trace (processRequest env apiRequest).run
      (before ++ ⟨.finalize nullifier transcript, x⟩ :: later) r) :
  ∃ proofBytes, transcript.requestInputs = some apiRequest.publicInputs
    ∧ transcript.proofBlob = some proofBytes
    ∧ ⟨.verifyArtifact proofBytes apiRequest.publicInputs, (.ok () : Except String Unit)⟩ ∈ before
  := by
  obtain ⟨proofBytes, bs, first, es, heq, hcheck, hfirst, hexecuted, hes⟩ :=
    trace_finalizing h (List.mem_append_right _ List.mem_cons_self)
  obtain ⟨hinputs, hproof⟩ := (trace_executeRequest hexecuted).archives hes
  use proofBytes, hinputs, hproof
  apply subset_before heq hfirst
  apply List.mem_append_left _ (verified_of_check hcheck)

/-- The row of a nullifier is finalized and archives a request with a proof that has verified. -/
structure Archived (history : List ServerLabel) (key : String) (row : NullifierRow) (t : ℕ)
    (apiRequest : ApiRequest) (proofBytes : List UInt8) (record : TranscriptRecord) : Prop where
  started : .start t (.processRequest apiRequest) ∈ history
  key_eq : key = apiRequest.publicInputs.requestNullifier.toHex
  verified : .access t (.verifyArtifact proofBytes apiRequest.publicInputs)
    (.ok () : Except String Unit) ∈ history
  read : rowToRecord key row = .ok record
  status : record.status = .finalized
  requestInputs : record.requestInputs = some apiRequest.publicInputs
  proofBlob : record.proofBlob = some proofBytes

theorem Archived.mono {history later : List ServerLabel} {key : String} {row : NullifierRow} {t : ℕ}
    {record : TranscriptRecord} (h : Archived history key row t apiRequest proofBytes record)
    (hlater : history ⊆ later) :
  Archived later key row t apiRequest proofBytes record
  := { h with
    started := hlater h.started
    verified := hlater h.verified }

end

/-! ### Runs -/

section

variable {env : Env} {history : List ServerLabel} {c d : Config Op Op.Res Shared Reply}
  {signerState : SignerTable}

/-- Every row that is finalized has a property. -/
def FinalizedRows (P : String → NullifierRow → Prop) (table : NullifierTable) : Prop :=
  ∀ key row, table key = some row → row.status = statusToStr .finalized → P key row

theorem FinalizedRows.update {P : String → NullifierRow → Prop} {table : NullifierTable}
    {key : String} {row : NullifierRow} (h : FinalizedRows P table)
    (hrow : row.status = statusToStr .finalized → P key row) :
  FinalizedRows P (Function.update table key (some row))
  := by
  intro key' row' hrow' hstatus
  by_cases hsame : key' = key
  · rw [hsame] at hrow' ⊢
    rw [Function.update_self] at hrow'
    obtain rfl := Option.some.inj hrow'
    exact hrow hstatus
  · rw [Function.update_of_ne hsame] at hrow'
    exact h key' row' hrow' hstatus

theorem FinalizedRows.insert {P : String → NullifierRow → Prop} {table : NullifierTable}
    {violation : ServerError} {key : String} {row : NullifierRow} (h : FinalizedRows P table)
    (hrow : row.status ≠ statusToStr .finalized) :
  FinalizedRows P (table.insert violation key row).2
  := by
  cases hkey : table key with
  | some old =>
    rw [NullifierTable.insert_of_some hkey]
    exact h
  | none =>
    rw [NullifierTable.insert_of_none hkey]
    exact h.update fun hstatus => absurd hstatus hrow

/-- In every state that the server reaches from an empty database, the finalized rows have a
property that what is finalized has, and that holds from then on. -/
theorem finalizedRows {P : List ServerLabel → String → NullifierRow → Prop}
    (hmono : ∀ ks ls key row, ks ⊆ ls → P ks key row → P ls key row)
    (hfinalize : ∀ ks (c d : Config Op Op.Res Shared Reply) t nullifier transcript x row now,
      Run (Step (processing env)) (Env.serving (fun _ => none) signerState) ks c →
      Step (processing env) c (.access t (.finalize nullifier transcript) x) d →
      c.shared.nullifiers nullifier.toHex = some row →
        P ks nullifier.toHex (row.finalized transcript now))
    (hrun : Run (Step (processing env)) (Env.serving (fun _ => none) signerState) history c) :
  FinalizedRows (P history) c.shared.nullifiers
  := by
  apply hrun.invariant_history (P := fun ks e => FinalizedRows (P ks) e.shared.nullifiers)
  · rintro key row ⟨⟩
  · intro ks e l e' hks he hstep
    have hlater : ∀ {table}, FinalizedRows (P ks) table → FinalizedRows (P (ks ++ [l])) table := by
      intro table h key row hrow hstatus
      exact hmono ks _ key row (List.subset_append_left _ _) (h key row hrow hstatus)
    apply hlater
    have hkeep := hstep
    cases l with
    | start t call =>
      obtain _ | _ := hstep
      exact he
    | finish t reply =>
      obtain _ | _ := hstep
      exact he
    | restart =>
      obtain _ | _ | _ | ⟨_, _, rfl⟩ := hstep
      exact he
    | access t op r =>
      obtain _ | @⟨_, _, _, _, s, _, hexec⟩ := hstep
      obtain haside | ⟨nullifier, id, hash, rfl⟩ | ⟨nullifier, transcript, rfl⟩ | ⟨_, rfl⟩ :=
        op.aside_or
      · rw [Config.setThread, haside.nullifiers hexec]
        exact he
      · obtain ⟨now, table, rfl, hstatement⟩ := hexec
        apply hstatement.rel (R := fun after _ => FinalizedRows (P ks) after) he
        apply he.insert
        show statusToStr .reserved ≠ statusToStr .finalized
        decide
      · obtain ⟨now, table, rfl, hstatement⟩ := hexec
        apply hstatement.rel (R := fun after _ => FinalizedRows (P ks) after) he
        obtain ⟨row, hreserved, hrow, hupdate⟩ | hsame := NullifierTable.finalize_cases
          e.shared.nullifiers nullifier transcript now
        · rw [hupdate]
          apply he.update
          intro _
          exact hfinalize ks e _ t nullifier transcript r row now hks hkeep hrow
        · rw [hsame]
          exact he
      · obtain ⟨now, table, rfl, hstatement⟩ := hexec
        apply hstatement.rel (R := fun after _ => FinalizedRows (P ks) after) he
        apply he.insert
        show statusToStr .clearanceReserved ≠ statusToStr .finalized
        decide

/-- What a thread finalizes belongs to the request that it processes, and is read back. -/
theorem record_of_finalize {t : ℕ} {nullifier : Felt252} {transcript : TranscriptRecord}
    {x : Except ServerError Unit} {row : NullifierRow} (now : U64)
    (hrun : Run (Step (processing env)) (Env.serving (fun _ => none) signerState) history c)
    (hstep : Step (processing env) c (.access t (.finalize nullifier transcript) x) d)
    (hrow : c.shared.nullifiers nullifier.toHex = some row) :
  ∃ apiRequest bs r, .start t (.processRequest apiRequest) ∈ history
    ∧ nullifier = apiRequest.publicInputs.requestNullifier
    ∧ Trace (processRequest env apiRequest).run
      (accessesOf t history ++ ⟨.finalize nullifier transcript, x⟩ :: bs) r
    ∧ rowToRecord nullifier.toHex (row.finalized transcript now)
      = .ok (transcript.stored row.createdAt now)
  := by
  obtain ⟨call, bs, reply, hstart, htrace⟩ := exists_trace_of_access hrun hstep
  cases call with
  | processClearance clearanceReq =>
    obtain ⟨r, as, cs, heq, hclearance, hreply⟩ := trace_bind.mp htrace
    obtain ⟨rfl, -⟩ := trace_pure.mp hreply
    rw [List.append_nil] at heq
    have hmem : (⟨.finalize nullifier transcript, x⟩ : (op : Op) × op.Res) ∈ as := by
      rw [← heq]
      exact List.mem_append_right _ List.mem_cons_self
    obtain haside | ⟨⟨⟩⟩ := trace_processClearance hclearance _ hmem
    cases haside
  | processRequest apiRequest =>
    obtain ⟨r, rfl, hrequest⟩ := trace_program htrace
    obtain ⟨rfl, hhash, hbuilds, hreserved, -⟩ := trace_finalize hrequest
    refine ⟨apiRequest, bs, r, hstart, rfl, hrequest, ?_⟩
    have hcanonical : transcript.Canonical := by
      apply hbuilds.canonical
      intro index message signed hmem
      obtain ⟨_, _, u, v, _, _, hsign, _⟩ := hrun.exists_step (mem_accessesOf.mp hmem)
      obtain _ | ⟨_, hsigned, _⟩ := hsign
      exact (XmssKeypair.signReserved_eq_some hsigned.symm).2.2
    obtain ⟨row', hrow', hid, hrowHash⟩ :=
      row_of_reservedFor hrun (canonical_of_hashBytesToFelt hhash) hreserved
    obtain rfl := Option.some.inj (hrow.symm.trans hrow')
    obtain ⟨provider, responseHash, message, state, signed, leafIndex, anonPoint, proofBytes,
      createdAt, finalizedAt, rfl, -⟩ := hbuilds
    exact @rowToRecord_finalized _ row now hid hrowHash rfl hcanonical

/-- In every state that the server reaches from an empty database, the finalized rows archive
requests. -/
theorem rowsArchived
    (hrun : Run (Step (processing env)) (Env.serving (fun _ => none) signerState) history c) :
  FinalizedRows (fun key row => ∃ t apiRequest proofBytes record,
    Archived history key row t apiRequest proofBytes record) c.shared.nullifiers
  := by
  apply finalizedRows (P := fun history key row => ∃ t apiRequest proofBytes record,
    Archived history key row t apiRequest proofBytes record) _ _ hrun
  · rintro ks ls key row hsubset ⟨t, apiRequest, proofBytes, record, harchived⟩
    exact ⟨t, apiRequest, proofBytes, record, harchived.mono hsubset⟩
  · intro ks c d t nullifier transcript x row now hks hstep hrow
    obtain ⟨apiRequest, bs, r, hstart, rfl, hrequest, hread⟩ :=
      record_of_finalize now hks hstep hrow
    obtain ⟨proofBytes, hinputs, hproof, hverified⟩ := trace_archives hrequest
    obtain ⟨-, -, hbuilds, -, -⟩ := trace_finalize hrequest
    obtain ⟨_, _, _, _, _, _, _, _, _, _, htranscript, -⟩ := hbuilds
    have hstatus : transcript.status = .finalized := by
      rw [htranscript]
      rfl
    exact ⟨t, apiRequest, proofBytes, _, hstart, rfl, mem_accessesOf.mp hverified, hread, hstatus,
      hinputs, hproof⟩

/-- The row of a nullifier with an outcome is read as a record that archives a request with this
nullifier. -/
theorem archived_of_settledAs {nullifier : Felt252} {outcome : Outcome}
    (hrun : Run (Step (processing env)) (Env.serving (fun _ => none) signerState) history c)
    (h : SettledAs c.shared nullifier outcome) :
  ∃ row t apiRequest proofBytes record,
    Archived history nullifier.toHex row t apiRequest proofBytes record
    ∧ apiRequest.publicInputs.requestNullifier = nullifier
    ∧ c.shared.nullifiers.lookupByNullifier nullifier = .ok (some record)
  := by
  obtain ⟨row, hrow, hstatus, -⟩ := h
  obtain ⟨t, apiRequest, proofBytes, record, harchived⟩ := rowsArchived hrun _ row hrow hstatus
  have hlooked : c.shared.nullifiers.lookupByNullifier nullifier = .ok (some record) := by
    rw [NullifierTable.lookupByNullifier, hrow]
    dsimp only
    rw [harchived.read]
    rfl
  exact ⟨row, t, apiRequest, proofBytes, record, harchived,
    (Felt252.toHex_injective harchived.key_eq).symm, hlooked⟩

/-- In every state that the server reaches from an empty database, over crashes and restarts, while
the requests it is asked to process are deserialized ones: a challenge can be built for every
nullifier for which a response was released, and a challenge that is built carries the public inputs
of a request that the server was asked to process, which names the nullifier, with the bytes of a
proof that has verified for these inputs. -/
theorem released_challengeable
    (hrun : Run (Step (processing env)) (Env.serving (fun _ => none) signerState) history c)
    (hcanonical : ∀ t apiRequest, .start t (.processRequest apiRequest) ∈ history →
      apiRequest.publicInputs.Canonical)
    (noteId : U32) (nullifier : Felt252) (siblings : Fin 32 → Felt252) :
  (∀ response, ReleasedResponse history nullifier response →
      ∃ action, buildChallengeAction c.shared.nullifiers noteId nullifier siblings = .ok action)
    ∧ ∀ action, buildChallengeAction c.shared.nullifiers noteId nullifier siblings = .ok action →
      action.noteId = noteId ∧ action.siblings = siblings
      ∧ ∃ t apiRequest, .start t (.processRequest apiRequest) ∈ history
        ∧ apiRequest.publicInputs.requestNullifier = nullifier
        ∧ action.requestInputs = apiRequest.publicInputs
        ∧ .access t (.verifyArtifact action.proofArtifact action.requestInputs)
          (.ok () : Except String Unit) ∈ history
  := by
  constructor
  · rintro response ⟨t, apiRequest, hstart, rfl, hfinish⟩
    have hkept := kept_serving hrun
    obtain ⟨serverCall, hstart', hpost⟩ := hkept.finished t _ hfinish
    obtain rfl := hkept.started t _ _ hstart hstart'
    have hsettled : SettledAs c.shared _ response.outcome := hpost
    obtain ⟨row, u, archived, proofBytes, record, harchived, hnullifier, hlooked⟩ :=
      archived_of_settledAs hrun hsettled
    exact ⟨⟨noteId, archived.publicInputs, proofBytes, siblings⟩,
      buildChallengeAction_eq_ok.mpr ⟨record, hlooked, harchived.status, harchived.requestInputs,
        hcanonical u archived harchived.started, hnullifier, harchived.proofBlob, rfl, rfl⟩⟩
  · intro action haction
    obtain ⟨record, hlooked, hstatus, hinputs, -, -, hproof, hnoteId, hsiblings⟩ :=
      buildChallengeAction_eq_ok.mp haction
    have hsettled := @settledAs_of_lookup _ _ record "" hlooked hstatus
    obtain ⟨row, t, archived, proofBytes, record', harchived, hnullifier, hlooked'⟩ :=
      archived_of_settledAs hrun hsettled
    obtain rfl := Option.some.inj (Except.ok.inj (hlooked.symm.trans hlooked'))
    obtain hsame := Option.some.inj (hinputs.symm.trans harchived.requestInputs)
    obtain hbytes := Option.some.inj (hproof.symm.trans harchived.proofBlob)
    have hverified := harchived.verified
    rw [← hbytes, ← hsame] at hverified
    exact ⟨hnoteId, hsiblings, t, archived, harchived.started, hnullifier, hsame, hverified⟩

end

/-! ### Example -/

namespace WatcherExample

open TranscriptExample

theorem canonical_publicInputs :
  apiRequest.publicInputs.Canonical
  := by
  constructor <;> decide

/-- A challenge can be built for the request of the example. -/
theorem released_challengeable_request :
  ∃ e action, Run (Step (processing server)) (Env.serving (fun _ => none) LeafExample.signerState)
      (history 5 ++ [.access 0 (.finalize 5 (transcript 5))
        (Except.ok () : Except ServerError Unit)] ++ [.finish 0 (.request (.ok (response 5)))]) e
    ∧ buildChallengeAction e.shared.nullifiers 7 5 (fun _ => 0) = .ok action
    ∧ action.requestInputs = apiRequest.publicInputs
  := by
  obtain ⟨c, d, e, now, hc, hstep, -, he⟩ := exists_run 5
  have hrun := (hc.snoc hstep).append he
  have hlabels : ∀ v call, .start v call ∉ ([.access 0 (.finalize 5 (transcript 5))
      (Except.ok () : Except ServerError Unit), .finish 0 (.request (.ok (response 5)))]
        : List ServerLabel) := by
    rintro v call h
    cases h with
    | tail _ h => cases List.mem_singleton.mp h
  have hcanonical : ∀ t request, .start t (.processRequest request)
      ∈ history 5 ++ [.access 0 (.finalize 5 (transcript 5))
        (Except.ok () : Except ServerError Unit)] ++ [.finish 0 (.request (.ok (response 5)))] →
      request.publicInputs.Canonical := by
    intro t request hstart
    rw [List.append_assoc] at hstart
    cases start_of_mem hlabels hstart
    exact canonical_publicInputs
  obtain ⟨hreleased, hbuilt⟩ := released_challengeable hrun hcanonical 7 5 fun _ => 0
  obtain ⟨action, haction⟩ := hreleased (response 5) ⟨0, apiRequest, List.mem_cons_self, rfl,
    List.mem_append_right _ (List.mem_singleton_self _)⟩
  obtain ⟨-, -, u, request, hstart, -, hinputs, -⟩ := hbuilt action haction
  rw [List.append_assoc] at hstart
  cases start_of_mem hlabels hstart
  exact ⟨e, action, hrun, haction, hinputs⟩

end WatcherExample

end ZkApi.Server
