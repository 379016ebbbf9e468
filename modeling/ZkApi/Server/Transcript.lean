import ZkApi.Library.Keccak
import ZkApi.Server.Checks

/-!
# What the store keeps of a transcript

A transcript is finalized into the columns of a row, and read back from them.  The charge
passes through a signed number of 64 bits, and elements through their hexadecimal text, so
that some transcripts come back changed.  The times are those at which the row was written,
and a look-up by the identifier of the client finds any of the rows that carry it.
-/

namespace ZkApi.Server

open Stark Concurrent

/-! ### Columns -/

/-- A charge that has been stored as a signed number. -/
def storedCharge (charge : U128) : U128 :=
  (charge.setWidth 64).signExtend 128

/-- The charges that the column can hold. -/
def ChargeFits (charge : U128) : Prop :=
  charge.toNat < 2 ^ 63 ∨ 2 ^ 128 - 2 ^ 63 ≤ charge.toNat

theorem storedCharge_eq_iff (charge : U128) :
  storedCharge charge = charge ↔ ChargeFits charge
  := by
  have hlt : charge.toNat < 2 ^ 128 := charge.isLt
  have hvalue : (storedCharge charge).toNat = charge.toNat % 2 ^ 64
      + if 2 ^ 63 ≤ charge.toNat % 2 ^ 64 then 2 ^ 128 - 2 ^ 64 else 0 := by
    rw [storedCharge, BitVec.toNat_signExtend, BitVec.msb_eq_decide, BitVec.toNat_setWidth,
      BitVec.toNat_setWidth, Nat.mod_eq_of_lt (a := charge.toNat % 2 ^ 64) (b := 2 ^ 128) (by omega)]
    simp only [decide_eq_true_eq]
  rw [← BitVec.toNat_inj, hvalue, ChargeFits]
  split <;> omega

/-- What is read back of an element that was stored as its text. -/
def storedFelt (x : Felt252) : Option Felt252 :=
  if x.Canonical then some x else none

theorem storedFelt_of_canonical {x : Felt252} (h : x.Canonical) :
  storedFelt x = some x
  := if_pos h

theorem okOrNone_fromHex (x : Felt252) :
  okOrNone (Felt252.fromHex x.toHex) = .ok (storedFelt x)
  := by
  by_cases h : x.Canonical
  · rw [storedFelt_of_canonical h, okOrNone_fromHex_toHex h]
  · rw [storedFelt, if_neg h, Felt252.fromHex_toHex, Felt252.tryFromBytesBe]
    have hvalue : Digits.ofDigits 256 x.asBytes = x.toNat :=
      Digits.ofDigits_toDigits (x.isLt.trans_eq (by norm_num))
    rw [hvalue, if_pos (not_lt.mp h)]
    rfl

theorem parseOptFelt_map_toHex (x : Option Felt252) :
  parseOptFelt (x.map Felt252.toHex) = .ok (x.bind storedFelt)
  := by
  cases x with
  | none => rfl
  | some x => apply okOrNone_fromHex

theorem bind_storedFelt_of_canonical {x : Option Felt252} (h : ∀ y ∈ x, y.Canonical) :
  x.bind storedFelt = x
  := by
  cases x with
  | none => rfl
  | some x => apply storedFelt_of_canonical (h x rfl)

/-- A transcript whose computed elements are canonical. -/
structure TranscriptRecord.Canonical (transcript : TranscriptRecord) : Prop where
  responseHash : ∀ x ∈ transcript.responseHash, x.Canonical
  nextCommitmentX : ∀ x ∈ transcript.nextCommitmentX, x.Canonical
  nextCommitmentY : ∀ x ∈ transcript.nextCommitmentY, x.Canonical
  nextAnchor : ∀ x ∈ transcript.nextAnchor, x.Canonical
  blindDeltaSrv : ∀ x ∈ transcript.blindDeltaSrv, x.Canonical
  nextStateSigRoot : ∀ x ∈ transcript.nextStateSigRoot, x.Canonical
  nextStateSig : ∀ sig ∈ transcript.nextStateSig, sig.Canonical

/-- What is read back of a transcript that was finalized into a row. -/
def TranscriptRecord.stored (transcript : TranscriptRecord) (createdAt finalizedAt : U64) :
    TranscriptRecord :=
  { transcript with
    nullifier := (storedFelt transcript.nullifier).getD 0
    chargeApplied := transcript.chargeApplied.map storedCharge
    policyEvidenceHash := transcript.policyEvidenceHash.bind storedFelt
    createdAt := createdAt
    finalizedAt := some finalizedAt }

theorem parseColumn_signature {sig : Option XmssSignature} (h : ∀ s ∈ sig, s.Canonical) :
  parseColumn XmssSignatureJson.toSignature (sig.map XmssSignatureJson.ofSignature) = .ok sig
  := by
  cases sig with
  | none => rfl
  | some sig =>
    rw [Option.map_some, parseColumn, toSignature_ofSignature (h sig rfl)]
    rfl

/-- A finalized row reads as the stored transcript. -/
theorem rowToRecord_finalized {transcript : TranscriptRecord} {row : NullifierRow} {now : U64}
    (hid : row.clientRequestId = transcript.clientRequestId)
    (hhash : parseOptFelt row.payloadHash = .ok transcript.payloadHash)
    (hstatus : transcript.status = .finalized) (hcanonical : transcript.Canonical) :
  rowToRecord transcript.nullifier.toHex (row.finalized transcript now)
    = .ok (transcript.stored row.createdAt now)
  := by
  have hcode : (transcript.responseCode.map (BitVec.setWidth 32)).map (BitVec.setWidth 16)
      = transcript.responseCode := by
    cases transcript.responseCode with
    | none => rfl
    | some code =>
      rw [Option.map_some, Option.map_some, BitVec.setWidth_setWidth_of_le _ (by norm_num),
        BitVec.setWidth_eq]
  have hcharge : (transcript.chargeApplied.map (BitVec.setWidth 64)).map (BitVec.signExtend 128)
      = transcript.chargeApplied.map storedCharge := Option.map_map ..
  have hread : strToStatus (statusToStr .finalized) = transcript.status := hstatus.symm
  simp only [rowToRecord, NullifierRow.finalized, okOrNone_fromHex, hhash, parseOptFelt_map_toHex,
    bind_storedFelt_of_canonical hcanonical.responseHash,
    bind_storedFelt_of_canonical hcanonical.nextCommitmentX,
    bind_storedFelt_of_canonical hcanonical.nextCommitmentY,
    bind_storedFelt_of_canonical hcanonical.nextAnchor,
    bind_storedFelt_of_canonical hcanonical.blindDeltaSrv,
    bind_storedFelt_of_canonical hcanonical.nextStateSigRoot,
    parseColumn_signature hcanonical.nextStateSig, hid, hcode, hcharge, hread]
  rfl

/-! ### What is finalized -/

section

variable {env : Env} {apiRequest : ApiRequest} {as : List ((op : Op) × op.Res)}

/-- What is done under the lock is done between its access and its release. -/
theorem trace_withOperationLock {α : Type} {body : Handler α} {r : Except Abort α}
    (h : Trace (withOperationLock body).run as r) :
  (as = [⟨.lockOperation, false⟩] ∧ r = .error (.error LOCK_POISONED))
    ∨ ∃ bs, as = ⟨.lockOperation, true⟩ :: (bs ++ [⟨.unlockOperation (panicking r), ()⟩])
      ∧ Trace body.run bs r
  := by
  obtain ⟨locked, bs, rfl, hrest⟩ := trace_call_bind.mp h
  change Bool at locked
  cases locked with
  | false =>
    left
    obtain ⟨rfl, rfl⟩ := trace_run_throw.mp hrest
    exact ⟨rfl, rfl⟩
  | true =>
    right
    obtain ⟨result, cs, ds, rfl, hbody, hunlock⟩ := trace_bind.mp hrest
    obtain ⟨x, es, fs, rfl, hperform, hresult⟩ := trace_bind.mp hunlock
    obtain rfl := trace_perform.mp hperform
    obtain ⟨rfl, rfl⟩ := trace_pure.mp hresult
    exact ⟨cs, rfl, hbody⟩

/-- A signature comes from the key pair. -/
theorem trace_signLeaf {signer : ServerSigner} {tree : SignerTree}
    {buildMessage : U32 → Except Abort Felt252} {r : Except Abort (XmssSignature × U32 × Felt252)}
    (h : Trace (signLeaf signer tree buildMessage).run as r) :
  (∀ a ∈ as, a.1.Aside)
    ∧ ∀ sig index message, r = .ok (sig, index, message) → ∃ signed : XmssSignature,
      ⟨.signReserved tree index message, some signed⟩ ∈ as
        ∧ sig = { signed with epoch := signer.treeEpoch tree }
  := by
  obtain ⟨rfl, rfl⟩ | ⟨bs, rfl, hbody⟩ := trace_withOperationLock h
  · refine ⟨?_, by rintro _ _ _ ⟨⟩⟩
    intro a ha
    rw [List.mem_singleton.mp ha]
    apply Op.Aside.lockOperation
  · suffices hsign : (∀ b ∈ bs, b.1.Aside)
        ∧ ∀ sig index message, r = .ok (sig, index, message) → ∃ signed : XmssSignature,
          ⟨.signReserved tree index message, some signed⟩ ∈ bs
            ∧ sig = { signed with epoch := signer.treeEpoch tree } by
      constructor
      · intro a ha
        obtain rfl | ha := List.mem_cons.mp ha
        · apply Op.Aside.lockOperation
        · obtain ha | ha := List.mem_append.mp ha
          · apply hsign.1 a ha
          · rw [List.mem_singleton.mp ha]
            apply Op.Aside.unlockOperation
      · intro sig index message hr
        obtain ⟨signed, hmem, hsig⟩ := hsign.2 sig index message hr
        exact ⟨signed, List.mem_cons_of_mem _ (List.mem_append_left _ hmem), hsig⟩
    obtain ⟨reserved, cs, rfl, hreserved⟩ := trace_call_bind.mp hbody
    have hleaf : (Op.reserveLeaf tree (signer.treeEpoch tree) (signer.root tree)
      (signer.capacity tree)).Aside := .reserveLeaf _ _ _ _
    obtain ⟨leafIndex, _, hmessage⟩ | ⟨e, _, rfl, rfl⟩ := trace_orError_bind.mp hreserved
    swap
    · refine ⟨?_, by rintro _ _ _ ⟨⟩⟩
      intro a ha
      rw [List.mem_singleton.mp ha]
      apply hleaf
    obtain ⟨message, _, hsigned⟩ | ⟨e, _, rfl, rfl⟩ := trace_fromExcept_bind.mp hmessage
    swap
    · refine ⟨?_, by rintro _ _ _ ⟨⟩⟩
      intro a ha
      rw [List.mem_singleton.mp ha]
      apply hleaf
    obtain ⟨sig, ds, rfl, hsig⟩ := trace_call_bind.mp hsigned
    change Option XmssSignature at sig
    suffices hlast : ds = [] ∧ ∀ sig' index' message', r = .ok (sig', index', message') →
        index' = leafIndex ∧ message' = message ∧ ∃ signed, sig = some signed
          ∧ sig' = { signed with epoch := signer.treeEpoch tree } by
      obtain ⟨rfl, hlast⟩ := hlast
      constructor
      · intro a ha
        obtain rfl | ha := List.mem_cons.mp ha
        · apply hleaf
        · rw [List.mem_singleton.mp ha]
          apply Op.Aside.signReserved
      · intro sig' index' message' hr
        obtain ⟨rfl, rfl, signed, rfl, hsig'⟩ := hlast sig' index' message' hr
        exact ⟨signed, List.mem_cons_of_mem _ List.mem_cons_self, hsig'⟩
    cases sig with
    | none =>
      obtain ⟨rfl, rfl⟩ := trace_run_throw.mp hsig
      exact ⟨rfl, by rintro _ _ _ ⟨⟩⟩
    | some signed =>
      obtain ⟨rfl, rfl⟩ := trace_run_pure.mp hsig
      refine ⟨rfl, ?_⟩
      rintro _ _ _ ⟨⟩
      exact ⟨rfl, rfl, signed, rfl, rfl⟩

/-- How the execution of a request ends: without a transcript, or with one that was built from
what the provider has answered and what the signer has signed. -/
inductive Executed (env : Env) (apiRequest : ApiRequest) (proofBytes : List UInt8) :
    List ((op : Op) × op.Res) → Except Abort RequestResponse → Prop
  | failed {as : List ((op : Op) × op.Res)} {e : Abort} :
      (∀ a ∈ as, a.1.Aside) → Executed env apiRequest proofBytes as (.error e)
  | finalized {as : List ((op : Op) × op.Res)} {provider : ProviderResponse}
      {responseHash message : Felt252} {state : NextState} {signed : XmssSignature}
      {leafIndex : U32} {anonPoint : env.curve.Point} {createdAt finalizedAt : U64}
      (finalized : Except ServerError Unit) :
      (∀ a ∈ as, a.1.Aside) →
      canonicalResponseHash env.keccak256 provider.payload = .ok responseHash →
      nextState env apiRequest.publicInputs anonPoint provider.chargeApplied leafIndex
        = .ok state →
      ⟨.signReserved .state leafIndex message, some signed⟩ ∈ as →
      Executed env apiRequest proofBytes
        (as ++ [⟨.finalize apiRequest.publicInputs.requestNullifier
          (transcriptOf env apiRequest provider responseHash state
            { signed with epoch := env.signer.treeEpoch .state } proofBytes createdAt finalizedAt),
          finalized⟩])
        ((finalized.mapError fun e =>
            .error (.internal s!"failed to finalize transcript: {e.display}")).map fun _ =>
          responseOf env apiRequest provider responseHash state
            { signed with epoch := env.signer.treeEpoch .state })

theorem trace_executeRequest {proofBytes : List UInt8} {r : Except Abort RequestResponse}
    (h : Trace (executeRequest env apiRequest proofBytes).run as r) :
  Executed env apiRequest proofBytes as r
  := by
  obtain ⟨executed, as₁, rfl, hexecuted⟩ := trace_call_bind.mp h
  have hexecute : (Op.execute apiRequest.clientRequestId apiRequest.payload
    apiRequest.payloadHash).Aside := .execute _ _ _
  have honly : ∀ a ∈ [(⟨.execute apiRequest.clientRequestId apiRequest.payload
      apiRequest.payloadHash, executed⟩ : (op : Op) × op.Res)], a.1.Aside := by
    intro a ha
    rw [List.mem_singleton.mp ha]
    apply hexecute
  obtain ⟨provider, _, hprovider⟩ | ⟨e, _, rfl, rfl⟩ := trace_orError_bind.mp hexecuted
  swap
  · apply Executed.failed honly
  obtain ⟨responseHash, hhash, hcapped⟩ | ⟨_, rfl, rfl⟩ := trace_orPanic_bind.mp hprovider
  swap
  · apply Executed.failed honly
  obtain ⟨_, hpoint⟩ | ⟨_, rfl, rfl⟩ := trace_rejectIf_bind.mp hcapped
  swap
  · apply Executed.failed honly
  obtain ⟨anonPoint, _, hsigning⟩ | ⟨_, rfl, rfl⟩ := trace_orPanic_bind.mp hpoint
  swap
  · apply Executed.failed honly
  have hbefore : ∀ bs : List ((op : Op) × op.Res), (∀ b ∈ bs, b.1.Aside) →
      ∀ a ∈ ⟨.execute apiRequest.clientRequestId apiRequest.payload apiRequest.payloadHash,
        executed⟩ :: bs, a.1.Aside := by
    intro bs hbs a ha
    obtain rfl | ha := List.mem_cons.mp ha
    · apply hexecute
    · apply hbs a ha
  obtain ⟨⟨sig, leafIndex, message⟩, bs, cs, rfl, hsign, hstate⟩ | ⟨e, rfl, hsign⟩ :=
    trace_run_bind.mp hsigning
  swap
  · apply Executed.failed
    apply hbefore
    apply (trace_signLeaf hsign).1
  obtain ⟨hops, hsigned⟩ := trace_signLeaf hsign
  obtain ⟨signed, hmem, rfl⟩ := hsigned sig leafIndex message rfl
  obtain ⟨state, hnext, hcreated⟩ | ⟨e, _, rfl, rfl⟩ := trace_fromExcept_bind.mp hstate
  swap
  · apply Executed.failed
    apply hbefore
    rw [List.append_nil]
    apply hops
  obtain ⟨createdAt, ds, rfl, hfinished⟩ := trace_call_bind.mp hcreated
  obtain ⟨finalizedAt, es, rfl, hstored⟩ := trace_call_bind.mp hfinished
  obtain ⟨finalized, fs, rfl, hreturned⟩ := trace_call_bind.mp hstored
  change Except ServerError Unit at finalized
  have hops : ∀ a ∈ (⟨.execute apiRequest.clientRequestId apiRequest.payload
      apiRequest.payloadHash, executed⟩ : (op : Op) × op.Res) :: (bs
        ++ [⟨.currentTimestamp, createdAt⟩, ⟨.currentTimestamp, finalizedAt⟩]),
          a.1.Aside := by
    apply hbefore
    intro b hb
    obtain hb | hb := List.mem_append.mp hb
    · apply hops b hb
    · obtain rfl | hb := List.mem_cons.mp hb
      · apply Op.Aside.currentTimestamp
      · rw [List.mem_singleton.mp hb]
        apply Op.Aside.currentTimestamp
  have hmem := List.mem_cons_of_mem (⟨.execute apiRequest.clientRequestId apiRequest.payload
    apiRequest.payloadHash, executed⟩ : (op : Op) × op.Res) (List.mem_append_left
      [⟨.currentTimestamp, createdAt⟩, ⟨.currentTimestamp, finalizedAt⟩] hmem)
  have hdone := @Executed.finalized env apiRequest proofBytes _ provider responseHash message state
    signed leafIndex anonPoint createdAt finalizedAt finalized hops hhash hnext hmem
  rw [List.cons_append, List.append_assoc] at hdone
  cases finalized with
  | ok value =>
    obtain ⟨_, _, hresponse⟩ | ⟨e, ⟨⟩, _⟩ := trace_orError_bind.mp hreturned
    obtain ⟨rfl, rfl⟩ := trace_run_pure.mp hresponse
    apply hdone
  | error e =>
    obtain ⟨_, ⟨⟩, _⟩ | ⟨_, ⟨⟩, rfl, rfl⟩ := trace_orError_bind.mp hreturned
    apply hdone

/-! ### Rows in time -/

/-- Rows stay, with the columns that are set when they are inserted. -/
def NullifierTable.KeepsInserted (table before : NullifierTable) : Prop :=
  ∀ key row, before key = some row → ∃ row', table key = some row'
    ∧ row'.clientRequestId = row.clientRequestId ∧ row'.payloadHash = row.payloadHash
    ∧ row'.createdAt = row.createdAt

namespace NullifierTable

variable {table before later : NullifierTable}

theorem KeepsInserted.refl :
  table.KeepsInserted table
  := by
  intro key row hrow
  exact ⟨row, hrow, rfl, rfl, rfl⟩

theorem KeepsInserted.trans (h : later.KeepsInserted table) (k : table.KeepsInserted before) :
  later.KeepsInserted before
  := by
  intro key row hrow
  obtain ⟨row', hrow', hid, hhash, hcreated⟩ := k key row hrow
  obtain ⟨row'', hrow'', hid', hhash', hcreated'⟩ := h key row' hrow'
  exact ⟨row'', hrow'', hid'.trans hid, hhash'.trans hhash, hcreated'.trans hcreated⟩

theorem insert_keepsInserted {violation : ServerError} {key : String} {row : NullifierRow} :
  (table.insert violation key row).2.KeepsInserted table
  := by
  cases hkey : table key with
  | some old =>
    rw [insert_of_some hkey]
    apply KeepsInserted.refl
  | none =>
    rw [insert_of_none hkey]
    intro key' row' hrow'
    refine ⟨row', ?_, rfl, rfl, rfl⟩
    rw [← hrow']
    apply Function.update_of_ne
    rintro rfl
    rw [hkey] at hrow'
    cases hrow'

theorem finalize_keepsInserted {nullifier : Felt252} {transcript : TranscriptRecord} {now : U64} :
  (table.finalize nullifier transcript now).2.KeepsInserted table
  := by
  obtain ⟨row, _, hkey, heq⟩ | heq := finalize_cases table nullifier transcript now
  · rw [heq]
    intro key row' hrow'
    by_cases hsame : key = nullifier.toHex
    · rw [hsame, hkey] at hrow'
      cases hrow'
      rw [hsame]
      exact ⟨_, Function.update_self .., rfl, rfl, rfl⟩
    · exact ⟨row', by rw [← hrow']; apply Function.update_of_ne hsame, rfl, rfl, rfl⟩
  · rw [heq]
    apply KeepsInserted.refl

end NullifierTable

/-- The accesses that write the table. -/
theorem Op.aside_or (op : Op) :
  op.Aside ∨ (∃ nullifier id hash, op = .reserve nullifier id hash)
    ∨ (∃ nullifier transcript, op = .finalize nullifier transcript)
    ∨ ∃ nullifier, op = .reserveClearance nullifier
  := by
  cases op with
  | reserve => exact .inr (.inl ⟨_, _, _, rfl⟩)
  | finalize => exact .inr (.inr (.inl ⟨_, _, rfl⟩))
  | reserveClearance => exact .inr (.inr (.inr ⟨_, rfl⟩))
  | currentRoot => exact .inl .currentRoot
  | currentTimestamp => exact .inl .currentTimestamp
  | verifyArtifact => exact .inl (.verifyArtifact _ _)
  | execute => exact .inl (.execute _ _ _)
  | lookupByNullifier => exact .inl (.lookupByNullifier _)
  | lockOperation => exact .inl .lockOperation
  | unlockOperation => exact .inl (.unlockOperation _)
  | reserveLeaf => exact .inl (.reserveLeaf _ _ _ _)
  | signReserved => exact .inl (.signReserved _ _ _)

/-- Every access keeps the columns that were inserted. -/
theorem exec_keepsInserted {op : Op} {s s' : Shared} {r : op.Res} (h : exec env s op r s') :
  s'.nullifiers.KeepsInserted s.nullifiers
  := by
  obtain haside | ⟨_, _, _, rfl⟩ | ⟨_, _, rfl⟩ | ⟨_, rfl⟩ := op.aside_or
  · rw [haside.nullifiers h]
    apply NullifierTable.KeepsInserted.refl
  · obtain ⟨now, table, rfl, hstatement⟩ := h
    apply hstatement.rel NullifierTable.KeepsInserted.refl NullifierTable.insert_keepsInserted
  · obtain ⟨now, table, rfl, hstatement⟩ := h
    apply hstatement.rel NullifierTable.KeepsInserted.refl NullifierTable.finalize_keepsInserted
  · obtain ⟨now, table, rfl, hstatement⟩ := h
    apply hstatement.rel NullifierTable.KeepsInserted.refl NullifierTable.insert_keepsInserted

variable {c d : Config Op Op.Res Shared Reply} {history : List ServerLabel}

theorem step_keepsInserted {l : ServerLabel} (h : Step (processing env) c l d) :
  d.shared.nullifiers.KeepsInserted c.shared.nullifiers
  := by
  cases h with
  | start => apply NullifierTable.KeepsInserted.refl
  | access _ hexec => apply exec_keepsInserted hexec
  | finish => apply NullifierTable.KeepsInserted.refl
  | restart hrestart =>
    obtain ⟨signerState, _, rfl⟩ := hrestart
    apply NullifierTable.KeepsInserted.refl

theorem run_keepsInserted (h : Run (Step (processing env)) c history d) :
  d.shared.nullifiers.KeepsInserted c.shared.nullifiers
  := by
  apply h.invariant (P := fun e => e.shared.nullifiers.KeepsInserted c.shared.nullifiers)
  · apply NullifierTable.KeepsInserted.refl
  · intro e l e' he hstep
    apply (step_keepsInserted hstep).trans he

/-! ### Transcripts that are finalized -/

/-- The transcript is built from an answer of the provider and a signature, which were given
before. -/
def Builds (env : Env) (apiRequest : ApiRequest) (before : List ((op : Op) × op.Res))
    (transcript : TranscriptRecord) : Prop :=
  ∃ provider responseHash message state signed leafIndex anonPoint proofBytes createdAt
      finalizedAt,
    transcript = transcriptOf env apiRequest provider responseHash state
        { signed with epoch := env.signer.treeEpoch .state } proofBytes createdAt finalizedAt
      ∧ canonicalResponseHash env.keccak256 provider.payload = .ok responseHash
      ∧ nextState env apiRequest.publicInputs anonPoint provider.chargeApplied leafIndex
        = .ok state
      ∧ ⟨.signReserved .state leafIndex message, (some signed : Option XmssSignature)⟩ ∈ before

/-- The nullifier is reserved for the request: its record was read, or its row was inserted. -/
def ReservedFor (apiRequest : ApiRequest) (before : List ((op : Op) × op.Res)) : Prop :=
  (∃ record : TranscriptRecord, record.SameRequest apiRequest
      ∧ ⟨.lookupByNullifier apiRequest.publicInputs.requestNullifier,
        (.ok (some record) : Except Failure (Option TranscriptRecord))⟩ ∈ before)
    ∨ ⟨.reserve apiRequest.publicInputs.requestNullifier apiRequest.clientRequestId
      apiRequest.payloadHash, (.ok () : Except ServerError Unit)⟩ ∈ before

/-- The execution of a request finalizes what it has built, last of all. -/
theorem Executed.of_finalize {proofBytes : List UInt8} {r : Except Abort RequestResponse}
    {before first later : List ((op : Op) × op.Res)} {nullifier : Felt252}
    {transcript : TranscriptRecord} {x : Except ServerError Unit}
    (h : Executed env apiRequest proofBytes as r)
    (hfirst : ∀ a ∈ first, a.1 ≠ .finalize nullifier transcript)
    (heq : before ++ ⟨.finalize nullifier transcript, x⟩ :: later = first ++ as) :
  nullifier = apiRequest.publicInputs.requestNullifier
    ∧ Builds env apiRequest before transcript
    ∧ (∀ response, r = .ok response →
      response = buildResponseFromRecord transcript apiRequest.clientRequestId)
    ∧ first ⊆ before
  := by
  cases h with
  | failed haside =>
    have hmem : (⟨.finalize nullifier transcript, x⟩ : (op : Op) × op.Res) ∈ first ++ as := by
      rw [← heq]
      apply List.mem_append_right _ List.mem_cons_self
    obtain hmem | hmem := List.mem_append.mp hmem
    · cases hfirst _ hmem rfl
    · cases haside _ hmem
  | @finalized as provider responseHash message state signed leafIndex anonPoint createdAt
      finalizedAt finalized haside hhash hstate hsigned =>
    rw [← List.append_assoc, eq_comm] at heq
    obtain ⟨rfl, hlast, rfl⟩ := (List.append_cons_inj_of_notMem (by
        intro hmem
        obtain hmem | hmem := List.mem_append.mp hmem
        · cases hfirst _ hmem rfl
        · cases haside _ hmem) List.not_mem_nil).mp heq
    cases hlast
    refine ⟨rfl, ⟨provider, responseHash, message, state, signed, leafIndex, anonPoint, proofBytes,
      createdAt, finalizedAt, rfl, hhash, hstate, List.mem_append_right _ hsigned⟩, ?_,
      List.subset_append_left _ _⟩
    intro response hresponse
    cases x with
    | ok value =>
      cases hresponse
      rfl
    | error e => cases hresponse

/-- A request that finalizes a transcript has built it, for a nullifier that is reserved. -/
theorem trace_finalize {r : Except Abort RequestResponse} {before later : List ((op : Op) × op.Res)}
    {nullifier : Felt252} {transcript : TranscriptRecord} {x : Except ServerError Unit}
    (h : Trace (processRequest env apiRequest).run
      (before ++ ⟨.finalize nullifier transcript, x⟩ :: later) r) :
  nullifier = apiRequest.publicInputs.requestNullifier
    ∧ canonicalPayloadHash env.keccak256 apiRequest.payload = .ok apiRequest.payloadHash
    ∧ Builds env apiRequest before transcript ∧ ReservedFor apiRequest before
    ∧ ∀ response, r = .ok response →
      response = buildResponseFromRecord transcript apiRequest.clientRequestId
  := by
  have hmem : (⟨.finalize nullifier transcript, x⟩ : (op : Op) × op.Res)
      ∈ before ++ ⟨.finalize nullifier transcript, x⟩ :: later :=
    List.mem_append_right _ List.mem_cons_self
  obtain ⟨proofBytes, bs, ds, looked, heq, hcheck, hanswered⟩ | ⟨e, rfl, hcheck⟩ :=
    trace_processRequest h
  swap
  · cases (trace_checkRequest hcheck).1 _ hmem
  obtain ⟨hops, hpass⟩ := trace_checkRequest hcheck
  have hhash := (hpass.mp ⟨proofBytes, rfl⟩).1.1.payloadHash
  rw [heq] at hmem
  obtain hmem | hmem := List.mem_append.mp hmem
  · cases hops _ hmem
  have hfirst : ∀ first : List ((op : Op) × op.Res),
      (∀ a ∈ first, a.1 ≠ .finalize nullifier transcript) →
        ∀ a ∈ bs ++ first, a.1 ≠ .finalize nullifier transcript := by
    intro first hfirst a ha hop
    obtain ha | ha := List.mem_append.mp ha
    · have hcheck := hops a ha
      rw [hop] at hcheck
      cases hcheck
    · apply hfirst a ha hop
  have hds : (⟨.finalize nullifier transcript, x⟩ : (op : Op) × op.Res) ∈ ds := by
    obtain hlookup | hds := List.mem_cons.mp hmem
    · cases hlookup
    · apply hds
  cases hanswered with
  | stored => cases List.not_mem_nil hds
  | @resumed record _ _ hsame _ hexecuted =>
    have hlookup := hfirst [⟨.lookupByNullifier apiRequest.publicInputs.requestNullifier,
      .ok (some record)⟩] (by
        intro a ha
        rw [List.mem_singleton.mp ha]
        rintro ⟨⟩)
    obtain ⟨rfl, hbuilds, hresponse, hbefore⟩ :=
      (trace_executeRequest hexecuted).of_finalize hlookup (heq.trans (List.append_cons _ _ _))
    have hread := hbefore (List.mem_append_right _ (List.mem_singleton_self _))
    exact ⟨rfl, hhash, hbuilds, .inl ⟨record, hsame, hread⟩, hresponse⟩
  | replay => cases List.not_mem_nil hds
  | @reserved as _ hexecuted =>
    have hreserve := hfirst [⟨.lookupByNullifier apiRequest.publicInputs.requestNullifier,
      .ok none⟩, ⟨.reserve apiRequest.publicInputs.requestNullifier apiRequest.clientRequestId
        apiRequest.payloadHash, .ok ()⟩] (by
          intro a ha
          obtain rfl | ha := List.mem_cons.mp ha
          · rintro ⟨⟩
          · rw [List.mem_singleton.mp ha]
            rintro ⟨⟩)
    obtain ⟨rfl, hbuilds, hresponse, hbefore⟩ :=
      (trace_executeRequest hexecuted).of_finalize hreserve (heq.trans (by
        rw [List.append_assoc]
        rfl))
    have hinserted := hbefore (List.mem_append_right _
      (List.mem_cons_of_mem _ (List.mem_singleton_self _)))
    exact ⟨rfl, hhash, hbuilds, .inr hinserted, hresponse⟩
  | refused e => cases List.mem_singleton.mp hds
  | panicked => cases List.not_mem_nil hds

theorem Executed.aside {proofBytes : List UInt8} {r : Except Abort RequestResponse}
    (h : Executed env apiRequest proofBytes as r) :
  ∀ a ∈ as, a.1.Aside ∨ ∃ nullifier transcript, a.1 = .finalize nullifier transcript
  := by
  intro a ha
  cases h with
  | failed haside => exact .inl (haside a ha)
  | finalized _ haside =>
    obtain ha | ha := List.mem_append.mp ha
    · exact .inl (haside a ha)
    · rw [List.mem_singleton.mp ha]
      exact .inr ⟨_, _, rfl⟩

/-- A call that processes a request reserves nothing but its nullifier. -/
theorem trace_reserve {r : Except Abort RequestResponse} {nullifier payloadHash : Felt252}
    {clientRequestId : String} {x : Except ServerError Unit}
    (h : Trace (processRequest env apiRequest).run as r)
    (hmem : ⟨.reserve nullifier clientRequestId payloadHash, x⟩ ∈ as) :
  nullifier = apiRequest.publicInputs.requestNullifier
  := by
  have hexecuted : ∀ {bs : List ((op : Op) × op.Res)} {proofBytes},
      Trace (executeRequest env apiRequest proofBytes).run bs r →
        ⟨.reserve nullifier clientRequestId payloadHash, x⟩ ∉ bs := by
    intro bs proofBytes hbs hmem
    obtain haside | ⟨_, _, ⟨⟩⟩ := (trace_executeRequest hbs).aside _ hmem
    cases haside
  obtain ⟨proofBytes, bs, ds, looked, rfl, hcheck, hanswered⟩ | ⟨e, rfl, hcheck⟩ :=
    trace_processRequest h
  · obtain hmem | hmem := List.mem_append.mp hmem
    · cases (trace_checkRequest hcheck).1 _ hmem
    obtain hlookup | hds := List.mem_cons.mp hmem
    · cases hlookup
    cases hanswered with
    | stored => cases List.not_mem_nil hds
    | resumed _ _ htrace => cases hexecuted htrace hds
    | replay => cases List.not_mem_nil hds
    | reserved htrace =>
      obtain heq | hds := List.mem_cons.mp hds
      · cases heq
        rfl
      · cases hexecuted htrace hds
    | refused e =>
      cases List.mem_singleton.mp hds
      rfl
    | panicked => cases List.not_mem_nil hds
  · cases (trace_checkRequest hcheck).1 _ hmem

/-- A clearance has no request to reserve for. -/
theorem trace_processClearance {clearanceReq : ClearanceRequest}
    {r : Except Abort ClearanceResponse}
    (h : Trace (processClearance env clearanceReq).run as r) :
  ∀ a ∈ as, a.1.Aside ∨ a.1 = .reserveClearance clearanceReq.withdrawalNullifier
  := by
  obtain ⟨looked, bs, rfl, hlooked⟩ := trace_call_bind.mp h
  suffices hbs : ∀ b ∈ bs, b.1.Aside ∨ b.1 = .reserveClearance clearanceReq.withdrawalNullifier by
    intro a ha
    obtain rfl | ha := List.mem_cons.mp ha
    · exact .inl (.lookupByNullifier _)
    · apply hbs a ha
  obtain ⟨existing, _, hexisting⟩ | ⟨_, rfl, rfl⟩ := trace_orPanic_bind.mp hlooked
  swap
  · rintro b ⟨⟩
  obtain ⟨_, hsigning⟩ | ⟨_, rfl, rfl⟩ := trace_rejectIf_bind.mp hexisting
  swap
  · rintro b ⟨⟩
  have hsign : ∀ {cs : List ((op : Op) × op.Res)} {r},
      Trace (signClearance env.signer (computeClearanceMessage env.poseidonHashMany
        env.config.protocolVersion env.config.chainId env.config.contractAddress
          clearanceReq.withdrawalNullifier)).run cs r → ∀ c ∈ cs, c.1.Aside := by
    intro cs r hcs
    obtain ⟨⟨sig, index, message⟩, cs, ds, rfl, hleaf, hpure⟩ | ⟨e, _, hleaf⟩ :=
      trace_run_bind.mp hcs
    · obtain ⟨rfl, _⟩ := trace_run_pure.mp hpure
      rw [List.append_nil]
      apply (trace_signLeaf hleaf).1
    · apply (trace_signLeaf hleaf).1
  obtain ⟨⟨sig, index⟩, cs, ds, rfl, hclear, hreserving⟩ | ⟨e, rfl, hclear⟩ :=
    trace_run_bind.mp hsigning
  · obtain ⟨reserved, es, rfl, hreserved⟩ := trace_call_bind.mp hreserving
    change Except ServerError Unit at reserved
    have hes : es = [] := by
      obtain ⟨_, _, hdone⟩ | ⟨_, _, rfl, _⟩ := trace_orError_bind.mp hreserved
      · apply (trace_run_pure.mp hdone).1
      · rfl
    intro b hb
    obtain hb | hb := List.mem_append.mp hb
    · exact .inl (hsign hclear b hb)
    · rw [hes] at hb
      rw [List.mem_singleton.mp hb]
      exact .inr rfl
  · intro b hb
    exact .inl (hsign hclear b hb)

/-- Only a call that processes a request reserves a nullifier for one, and only its own. -/
theorem reserve_of_program {serverCall : ServerCall} {reply : Reply}
    {nullifier payloadHash : Felt252} {clientRequestId : String} {x : Except ServerError Unit}
    (h : Trace (serverCall.program env) as reply)
    (hmem : ⟨.reserve nullifier clientRequestId payloadHash, x⟩ ∈ as) :
  ∃ apiRequest : ApiRequest, serverCall = .processRequest apiRequest
    ∧ nullifier = apiRequest.publicInputs.requestNullifier
  := by
  cases serverCall with
  | processRequest apiRequest =>
    obtain ⟨r, rfl, htrace⟩ := trace_program h
    exact ⟨apiRequest, rfl, trace_reserve htrace hmem⟩
  | processClearance clearanceReq =>
    obtain ⟨r, bs, cs, rfl, htrace, hreply⟩ := trace_bind.mp h
    obtain ⟨rfl, _⟩ := trace_pure.mp hreply
    rw [List.append_nil] at hmem
    obtain haside | ⟨⟨⟩⟩ := trace_processClearance htrace _ hmem
    cases haside

/-! ### Runs from an empty database -/

/-- The rows that carry an identifier are those of requests that were sent. -/
def RowsRequested (history : List ServerLabel) (table : NullifierTable) : Prop :=
  ∀ key row clientRequestId, table key = some row → row.clientRequestId = some clientRequestId →
    ∃ t apiRequest, .start t (.processRequest apiRequest) ∈ history
      ∧ key = apiRequest.publicInputs.requestNullifier.toHex

theorem RowsRequested.mono {table : NullifierTable} {l : ServerLabel}
    (h : RowsRequested history table) :
  RowsRequested (history ++ [l]) table
  := by
  intro key row clientRequestId hrow hid
  obtain ⟨t, apiRequest, hstart, hkey⟩ := h key row clientRequestId hrow hid
  exact ⟨t, apiRequest, mem_push.mpr (.inl hstart), hkey⟩

/-- A row inserted for a request that was sent, or without one. -/
theorem RowsRequested.insert {table : NullifierTable} {violation : ServerError} {key : String}
    {row : NullifierRow} (h : RowsRequested history table)
    (hrow : ∀ clientRequestId, row.clientRequestId = some clientRequestId →
      ∃ t apiRequest, .start t (.processRequest apiRequest) ∈ history
        ∧ key = apiRequest.publicInputs.requestNullifier.toHex) :
  RowsRequested history (table.insert violation key row).2
  := by
  cases hkey : table key with
  | some old =>
    rw [NullifierTable.insert_of_some hkey]
    apply h
  | none =>
    rw [NullifierTable.insert_of_none hkey]
    intro key' row' clientRequestId hrow' hid
    by_cases hsame : key' = key
    · rw [hsame] at hrow' ⊢
      cases (Function.update_self ..).symm.trans hrow'
      apply hrow clientRequestId hid
    · apply h key' row' clientRequestId _ hid
      rw [← hrow']
      apply (Function.update_of_ne hsame ..).symm

theorem RowsRequested.finalize {table : NullifierTable} {nullifier : Felt252}
    {transcript : TranscriptRecord} {now : U64} (h : RowsRequested history table) :
  RowsRequested history (table.finalize nullifier transcript now).2
  := by
  obtain ⟨row, _, hkey, heq⟩ | heq := NullifierTable.finalize_cases table nullifier transcript now
  · rw [heq]
    intro key row' clientRequestId hrow' hid
    by_cases hsame : key = nullifier.toHex
    · rw [hsame] at hrow' ⊢
      cases (Function.update_self ..).symm.trans hrow'
      apply h _ row clientRequestId hkey hid
    · apply h key row' clientRequestId _ hid
      rw [← hrow']
      apply (Function.update_of_ne hsame ..).symm
  · rw [heq]
    apply h

theorem rowsRequested {signerState : SignerTable}
    (hrun : Run (Step (processing env)) (Env.serving (fun _ => none) signerState) history c) :
  RowsRequested history c.shared.nullifiers
  := by
  apply hrun.invariant_history (P := fun ks e => RowsRequested ks e.shared.nullifiers)
  · rintro key row clientRequestId ⟨⟩
  · intro ks e l e' hks he hstep
    apply RowsRequested.mono
    cases l with
    | start t call =>
      obtain _ | _ := hstep
      apply he
    | finish t reply =>
      obtain _ | _ := hstep
      apply he
    | restart =>
      obtain _ | _ | _ | ⟨_, _, rfl⟩ := hstep
      apply he
    | access t op r =>
      have hcall := exists_trace_of_access hks hstep
      obtain _ | @⟨_, _, _, _, s, _, hexec⟩ := hstep
      obtain haside | ⟨nullifier, id, hash, rfl⟩ | ⟨_, _, rfl⟩ | ⟨_, rfl⟩ := op.aside_or
      · rw [Config.setThread, haside.nullifiers hexec]
        apply he
      · obtain ⟨now, table, rfl, hstatement⟩ := hexec
        apply hstatement.rel (R := fun after _ => RowsRequested ks after) he
        apply he.insert
        intro _ _
        obtain ⟨call, bs, reply, hstart, htrace⟩ := hcall
        obtain ⟨apiRequest, rfl, rfl⟩ :=
          reserve_of_program htrace (List.mem_append_right _ List.mem_cons_self)
        exact ⟨t, apiRequest, hstart, rfl⟩
      · obtain ⟨now, table, rfl, hstatement⟩ := hexec
        apply hstatement.rel (R := fun after _ => RowsRequested ks after) he he.finalize
      · obtain ⟨now, table, rfl, hstatement⟩ := hexec
        apply hstatement.rel (R := fun after _ => RowsRequested ks after) he
        apply he.insert
        rintro clientRequestId ⟨⟩

/-! ### The row of a transcript -/

theorem Builds.canonical {before : List ((op : Op) × op.Res)} {transcript : TranscriptRecord}
    (h : Builds env apiRequest before transcript)
    (hsigned : ∀ index message signed,
      ⟨.signReserved .state index message, (some signed : Option XmssSignature)⟩ ∈ before →
        signed.Canonical) :
  transcript.Canonical
  := by
  obtain ⟨provider, responseHash, message, state, signed, leafIndex, anonPoint, proofBytes,
    createdAt, finalizedAt, rfl, hhash, hstate, hmem⟩ := h
  have hnext := canonical_nextState hstate
  obtain ⟨hwots, hpath⟩ := hsigned _ _ _ hmem
  constructor
  case responseHash =>
    rintro x ⟨⟩
    apply canonical_of_hashBytesToFelt hhash
  case nextCommitmentX =>
    rintro x ⟨⟩
    apply hnext.commitmentX
  case nextCommitmentY =>
    rintro x ⟨⟩
    apply hnext.commitmentY
  case nextAnchor =>
    rintro x ⟨⟩
    apply hnext.anchor
  case blindDeltaSrv =>
    rintro x ⟨⟩
    apply hnext.blindDelta
  case nextStateSigRoot =>
    rintro x ⟨⟩
    apply canonical_fieldToFelt
  case nextStateSig =>
    rintro sig ⟨⟩
    exact ⟨hwots, hpath⟩

theorem record_of_rowToRecord {key : Felt252} {row : NullifierRow} {record : TranscriptRecord}
    (h : rowToRecord key.toHex row = .ok record) :
  record.nullifier = (storedFelt key).getD 0
    ∧ record.clientRequestId = row.clientRequestId
    ∧ parseOptFelt row.payloadHash = .ok record.payloadHash
  := by
  obtain ⟨_, _, h⟩ := bind_eq_ok.mp h
  obtain ⟨nullifier, hnullifier, h⟩ := bind_eq_ok.mp h
  obtain ⟨payloadHash, hhash, h⟩ := bind_eq_ok.mp h
  obtain ⟨_, _, h⟩ := bind_eq_ok.mp h
  obtain ⟨_, _, h⟩ := bind_eq_ok.mp h
  obtain ⟨_, _, h⟩ := bind_eq_ok.mp h
  obtain ⟨_, _, h⟩ := bind_eq_ok.mp h
  obtain ⟨_, _, h⟩ := bind_eq_ok.mp h
  obtain ⟨_, _, h⟩ := bind_eq_ok.mp h
  obtain ⟨_, _, h⟩ := bind_eq_ok.mp h
  cases h
  rw [okOrNone_fromHex] at hnullifier
  cases hnullifier
  exact ⟨rfl, rfl, hhash⟩

/-- The row of a nullifier carries the identifier and the hash of the request that it was
reserved for. -/
theorem row_of_reservedFor {nullifiers : NullifierTable} {signerState : SignerTable} {t : ℕ}
    (hrun : Run (Step (processing env)) (Env.serving nullifiers signerState) history c)
    (hcanonical : apiRequest.payloadHash.Canonical)
    (h : ReservedFor apiRequest (accessesOf t history)) :
  ∃ row, c.shared.nullifiers apiRequest.publicInputs.requestNullifier.toHex = some row
    ∧ row.clientRequestId = some apiRequest.clientRequestId
    ∧ parseOptFelt row.payloadHash = .ok (some apiRequest.payloadHash)
  := by
  obtain ⟨record, hsame, hmem⟩ | hmem := h
  · -- the record was read from the row
    obtain ⟨as, bs, u, v, rfl, hu, hstep, hv⟩ := hrun.exists_step (mem_accessesOf.mp hmem)
    have hkeeps := run_keepsInserted ((Run.single hstep).append hv)
    obtain _ | ⟨_, _, hlooked | ⟨_, ⟨⟩⟩⟩ := hstep
    cases hrow : u.shared.nullifiers apiRequest.publicInputs.requestNullifier.toHex with
    | none =>
      rw [NullifierTable.lookupByNullifier, hrow] at hlooked
      cases hlooked
    | some row =>
      rw [NullifierTable.lookupByNullifier, hrow] at hlooked
      dsimp only at hlooked
      cases hrecord : rowToRecord apiRequest.publicInputs.requestNullifier.toHex row with
      | error e =>
        rw [hrecord] at hlooked
        cases hlooked
      | ok record' =>
        rw [hrecord] at hlooked
        cases hlooked
        obtain ⟨_, hid, hhash⟩ := record_of_rowToRecord hrecord
        obtain ⟨row', hrow', hid', hhash', _⟩ := hkeeps _ row hrow
        exact ⟨row', hrow', by rw [hid', ← hid, hsame.1], by rw [hhash', hhash, hsame.2]⟩
  · -- the row was inserted for the request
    obtain ⟨as, bs, u, v, rfl, hu, hstep, hv⟩ := hrun.exists_step (mem_accessesOf.mp hmem)
    have hkeeps := run_keepsInserted hv
    obtain _ | ⟨_, now, table, rfl, hstatement⟩ := hstep
    obtain ⟨hok, rfl⟩ := hstatement.eq_of_ok
    obtain ⟨row', hrow', hid', hhash', _⟩ := hkeeps _ _ (NullifierTable.insert_eq_ok hok).2
    refine ⟨row', hrow', hid', ?_⟩
    rw [hhash']
    apply parseOptFelt_toHex hcanonical

/-- `lookup_by_client_id`.  The query does not say in which order the rows come, so it returns
the record of any row that carries the identifier. -/
inductive NullifierTable.LookupByClientId (table : NullifierTable) (clientRequestId : String) :
    Except Failure (Option TranscriptRecord) → Prop
  | found {key : String} {row : NullifierRow} :
      table key = some row → row.clientRequestId = some clientRequestId →
      LookupByClientId table clientRequestId ((rowToRecord key row).map some)
  | absent :
      (∀ key row, table key = some row → row.clientRequestId ≠ some clientRequestId) →
      LookupByClientId table clientRequestId (.ok none)

/-- Both look-ups return the record. -/
structure NullifierTable.Returns (table : NullifierTable) (nullifier : Felt252)
    (clientRequestId : String) (record : TranscriptRecord) : Prop where
  byNullifier : table.lookupByNullifier nullifier = .ok (some record)
  byClientId : ∀ looked, table.LookupByClientId clientRequestId looked → looked = .ok (some record)

/-- A transcript whose charge and evidence can be held by their columns. -/
structure TranscriptRecord.Storable (transcript : TranscriptRecord) : Prop where
  charge : ∀ charge ∈ transcript.chargeApplied, ChargeFits charge
  evidence : ∀ hash ∈ transcript.policyEvidenceHash, hash.Canonical

/-- No other row carries the identifier. -/
def NullifierTable.Alone (table : NullifierTable) (nullifier : Felt252) (clientRequestId : String) :
    Prop :=
  ∀ key row, table key = some row → row.clientRequestId = some clientRequestId →
    key = nullifier.toHex

/-- A storable transcript, and no other, comes back as it was but for its times. -/
theorem TranscriptRecord.stored_eq_iff {transcript : TranscriptRecord} {createdAt finalizedAt : U64}
    (hnullifier : transcript.nullifier.Canonical) :
  { transcript.stored createdAt finalizedAt with
      createdAt := transcript.createdAt
      finalizedAt := transcript.finalizedAt } = transcript
    ↔ transcript.Storable
  := by
  constructor
  · intro h
    have hcharge : transcript.chargeApplied.map storedCharge = transcript.chargeApplied :=
      congrArg TranscriptRecord.chargeApplied h
    have hevidence : transcript.policyEvidenceHash.bind storedFelt = transcript.policyEvidenceHash :=
      congrArg TranscriptRecord.policyEvidenceHash h
    constructor
    case charge =>
      intro charge hsome
      rw [Option.mem_def.mp hsome] at hcharge
      apply (storedCharge_eq_iff charge).mp (Option.some.inj hcharge)
    case evidence =>
      intro hash hsome
      rw [Option.mem_def.mp hsome, Option.bind_some, storedFelt] at hevidence
      obtain ⟨hcanonical, _⟩ := Option.ite_none_right_eq_some.mp hevidence
      apply hcanonical
  · rintro ⟨hcharge, hevidence⟩
    have hmap : transcript.chargeApplied.map storedCharge = transcript.chargeApplied := by
      cases hsome : transcript.chargeApplied with
      | none => rfl
      | some charge => rw [Option.map_some, (storedCharge_eq_iff charge).mpr (hcharge charge hsome)]
    rw [TranscriptRecord.stored, storedFelt_of_canonical hnullifier, Option.getD_some, hmap,
      bind_storedFelt_of_canonical hevidence]

/-- What a finalized row reads as, at the end of a run that goes on from there. -/
theorem lookup_of_finalized {nullifiers : NullifierTable} {signerState : SignerTable} {t : ℕ}
    {later : List ServerLabel} {e : Config Op Op.Res Shared Reply} {nullifier : Felt252}
    {transcript : TranscriptRecord} {now : U64}
    (hrun : Run (Step (processing env)) (Env.serving nullifiers signerState) history c)
    (hstart : .start t (.processRequest apiRequest) ∈ history)
    (hstep : Step (processing env) c
      (.access t (.finalize nullifier transcript) (Except.ok () : Except ServerError Unit)) d)
    (hnow : d.shared.nullifiers = (c.shared.nullifiers.finalize nullifier transcript now).2)
    (hlater : Run (Step (processing env)) d later e) :
  nullifier = apiRequest.publicInputs.requestNullifier ∧ transcript.nullifier = nullifier
    ∧ ∃ row, c.shared.nullifiers nullifier.toHex = some row
      ∧ e.shared.nullifiers nullifier.toHex = some (row.finalized transcript now)
      ∧ row.clientRequestId = some apiRequest.clientRequestId
      ∧ rowToRecord nullifier.toHex (row.finalized transcript now)
        = .ok (transcript.stored row.createdAt now)
      ∧ ∀ response, .finish t (.request (.ok response)) ∈ later →
        response = buildResponseFromRecord transcript apiRequest.clientRequestId
  := by
  obtain ⟨call, q, hcall, hthread, hnext, hrest⟩ := rest_of_access hrun hstep
  obtain rfl := (kept_serving hrun).started t _ _ hstart hcall
  have htraces : ∀ {bs reply}, Trace q bs reply → ∃ r, reply = .request r
      ∧ Trace (processRequest env apiRequest).run
        (accessesOf t history ++ ⟨.finalize nullifier transcript, .ok ()⟩ :: bs) r := by
    intro bs reply hq
    apply trace_program
    rw [List.append_cons]
    apply hrest bs reply hq
  obtain ⟨bs, reply, hq⟩ := exists_trace q
  obtain ⟨r, rfl, htrace⟩ := htraces hq
  obtain ⟨rfl, hhash, hbuilds, hreserved, _⟩ := trace_finalize htrace
  have hcanonical : transcript.Canonical := by
    apply hbuilds.canonical
    intro index message signed hmem
    obtain ⟨_, _, u, v, _, _, hsign, _⟩ := hrun.exists_step (mem_accessesOf.mp hmem)
    obtain _ | ⟨_, hsigned, _⟩ := hsign
    apply (XmssKeypair.signReserved_eq_some hsigned.symm).2.2
  obtain ⟨row, hrow, hid, hrowHash⟩ :=
    row_of_reservedFor hrun (canonical_of_hashBytesToFelt hhash) hreserved
  -- the row was reserved, and is settled from now on
  have hfinalized : d.shared.nullifiers apiRequest.publicInputs.requestNullifier.toHex
      = some (row.finalized transcript now) := by
    obtain _ | ⟨_, now', table, _, hstatement⟩ := hstep
    obtain ⟨hok, _⟩ := hstatement.eq_of_ok
    obtain ⟨row', hunsettled, hrow', _⟩ | heq := NullifierTable.finalize_cases
      c.shared.nullifiers apiRequest.publicInputs.requestNullifier transcript now'
    · cases hrow.symm.trans hrow'
      rw [hnow, NullifierTable.finalize_of_reserved hrow hunsettled]
      apply Function.update_self
    · rw [heq] at hok
      cases hok
  have hextends : e.shared.nullifiers.Extends d.shared.nullifiers :=
    ((kept_serving (hrun.snoc hstep)).run outcomeProtocol_sound hlater).2
  obtain ⟨provider, responseHash, message, state, signed, leafIndex, anonPoint, proofBytes,
    createdAt, finalizedAt, rfl, _⟩ := hbuilds
  refine ⟨rfl, rfl, row, hrow, hextends.settled hfinalized settled_finalized, hid, ?_, ?_⟩
  · apply rowToRecord_finalized hid hrowHash rfl hcanonical
  · intro response hfinish
    obtain ⟨r, ⟨⟩, htrace⟩ := htraces (trace_of_thread hthread hnext hlater hfinish)
    apply (trace_finalize htrace).2.2.2.2 response rfl

/-- A look-up by the identifier finds the row of the nullifier, when that is the only one with
it; and one that finds its record always means that there is no other. -/
theorem lookupByClientId_iff {table : NullifierTable} {nullifier : Felt252}
    {clientRequestId : String} {row : NullifierRow} {record : TranscriptRecord}
    (hrow : table nullifier.toHex = some row) (hid : row.clientRequestId = some clientRequestId)
    (hrecord : rowToRecord nullifier.toHex row = .ok record) (hnullifier : nullifier.Canonical)
    (hkeys : ∀ key row, table key = some row → row.clientRequestId = some clientRequestId →
      ∃ x : Felt252, x.Canonical ∧ key = x.toHex) :
  (∀ looked, table.LookupByClientId clientRequestId looked → looked = .ok (some record))
    ↔ table.Alone nullifier clientRequestId
  := by
  constructor
  · intro h key row' hrow' hid'
    obtain ⟨x, hx, rfl⟩ := hkeys key row' hrow' hid'
    have hlooked := h _ (.found hrow' hid')
    cases hrecord' : rowToRecord x.toHex row' with
    | error e =>
      rw [hrecord'] at hlooked
      cases hlooked
    | ok record' =>
      rw [hrecord'] at hlooked
      cases hlooked
      have hread := (record_of_rowToRecord hrecord).1
      rw [(record_of_rowToRecord hrecord').1, storedFelt_of_canonical hx,
        storedFelt_of_canonical hnullifier] at hread
      rw [Option.getD_some, Option.getD_some] at hread
      rw [hread]
  · intro halone looked hlooked
    cases hlooked with
    | found hrow' hid' =>
      obtain rfl := halone _ _ hrow' hid'
      cases hrow.symm.trans hrow'
      rw [hrecord]
      rfl
    | absent hnone => cases hnone _ row hrow hid

/-- In every run from an empty database, of requests whose nullifiers are canonical as they
are on the wire: both look-ups return a finalized transcript, with all of its fields but the
times, and so the response that the client was given, exactly when its charge and evidence
fit their columns and no other row carries its identifier.  They return it with its times
exactly when, besides, the clock has read the same for the row and for the transcript. -/
theorem transcript_kept_iff {signerState : SignerTable} {t : ℕ} {later : List ServerLabel}
    {e : Config Op Op.Res Shared Reply} {nullifier : Felt252} {transcript : TranscriptRecord}
    {now : U64}
    (hrun : Run (Step (processing env)) (Env.serving (fun _ => none) signerState) history c)
    (hwire : ∀ u (request : ApiRequest), .start u (.processRequest request) ∈ history ++ later →
      request.publicInputs.requestNullifier.Canonical)
    (hstart : .start t (.processRequest apiRequest) ∈ history)
    (hstep : Step (processing env) c
      (.access t (.finalize nullifier transcript) (Except.ok () : Except ServerError Unit)) d)
    (hnow : d.shared.nullifiers = (c.shared.nullifiers.finalize nullifier transcript now).2)
    (hlater : Run (Step (processing env)) d later e) :
  ((∃ record, e.shared.nullifiers.Returns nullifier apiRequest.clientRequestId record
      ∧ { record with
          createdAt := transcript.createdAt
          finalizedAt := transcript.finalizedAt } = transcript
      ∧ ∀ response, .finish t (.request (.ok response)) ∈ later →
        buildResponseFromRecord record apiRequest.clientRequestId = response)
    ↔ transcript.Storable ∧ e.shared.nullifiers.Alone nullifier apiRequest.clientRequestId)
  ∧ ((e.shared.nullifiers.Returns nullifier apiRequest.clientRequestId transcript
      ∧ ∀ response, .finish t (.request (.ok response)) ∈ later →
        buildResponseFromRecord transcript apiRequest.clientRequestId = response)
    ↔ (transcript.Storable ∧ e.shared.nullifiers.Alone nullifier apiRequest.clientRequestId)
      ∧ (∃ row, c.shared.nullifiers nullifier.toHex = some row
        ∧ row.createdAt = transcript.createdAt)
      ∧ transcript.finalizedAt = some now)
  := by
  obtain ⟨hnullifier, hkey, row, hrow, hfinal, hid, hrecord, hresponse⟩ :=
    lookup_of_finalized hrun hstart hstep hnow hlater
  have hcanonical : nullifier.Canonical := by
    rw [hnullifier]
    apply hwire t apiRequest (List.mem_append_left _ hstart)
  have hkeys : ∀ key row, e.shared.nullifiers key = some row →
      row.clientRequestId = some apiRequest.clientRequestId →
        ∃ x : Felt252, x.Canonical ∧ key = x.toHex := by
    intro key row hrow hid
    obtain ⟨u, request, hsent, rfl⟩ :=
      rowsRequested ((hrun.snoc hstep).append hlater) key row _ hrow hid
    refine ⟨_, hwire u request ?_, rfl⟩
    obtain hsent | hsent := List.mem_append.mp hsent
    · obtain hsent | hsent := List.mem_append.mp hsent
      · apply List.mem_append_left _ hsent
      · cases List.mem_singleton.mp hsent
    · apply List.mem_append_right _ hsent
  have hlookup : e.shared.nullifiers.lookupByNullifier nullifier
      = .ok (some (transcript.stored row.createdAt now)) := by
    rw [NullifierTable.lookupByNullifier, hfinal]
    dsimp only
    rw [hrecord]
    rfl
  have hreturns : ∀ record, e.shared.nullifiers.Returns nullifier apiRequest.clientRequestId record
      ↔ record = transcript.stored row.createdAt now
        ∧ e.shared.nullifiers.Alone nullifier apiRequest.clientRequestId := by
    intro record
    have hclient := lookupByClientId_iff hfinal hid hrecord hcanonical hkeys
    constructor
    · rintro ⟨hby, hclientId⟩
      cases hlookup.symm.trans hby
      exact ⟨rfl, hclient.mp hclientId⟩
    · rintro ⟨rfl, halone⟩
      exact ⟨hlookup, hclient.mpr halone⟩
  have hstored : { transcript.stored row.createdAt now with
      createdAt := transcript.createdAt
      finalizedAt := transcript.finalizedAt } = transcript ↔ transcript.Storable :=
    TranscriptRecord.stored_eq_iff (hkey ▸ hcanonical)
  have hrebuilt : transcript.Storable →
      buildResponseFromRecord (transcript.stored row.createdAt now) apiRequest.clientRequestId
        = buildResponseFromRecord transcript apiRequest.clientRequestId := by
    intro h
    -- the times are no part of a response
    apply congrArg (buildResponseFromRecord · apiRequest.clientRequestId) (hstored.mpr h)
  constructor
  · constructor
    · rintro ⟨record, hrecord, hsame, _⟩
      obtain ⟨rfl, halone⟩ := (hreturns record).mp hrecord
      exact ⟨hstored.mp hsame, halone⟩
    · rintro ⟨hstorable, halone⟩
      refine ⟨_, (hreturns _).mpr ⟨rfl, halone⟩, hstored.mpr hstorable, ?_⟩
      intro response hfinish
      rw [hrebuilt hstorable, hresponse response hfinish]
  · constructor
    · rintro ⟨hrecord, _⟩
      obtain ⟨heq, halone⟩ := (hreturns transcript).mp hrecord
      have hcreated : transcript.createdAt = row.createdAt :=
        congrArg TranscriptRecord.createdAt heq
      have hfinalized : transcript.finalizedAt = some now :=
        congrArg TranscriptRecord.finalizedAt heq
      refine ⟨⟨hstored.mp ?_, halone⟩, ⟨row, hrow, hcreated.symm⟩, hfinalized⟩
      rw [← heq]
    · rintro ⟨⟨hstorable, halone⟩, ⟨row', hrow', hcreated⟩, hfinalized⟩
      cases hrow.symm.trans hrow'
      have heq : transcript.stored row.createdAt now = transcript := by
        have hsame := hstored.mpr hstorable
        rw [← hcreated, hfinalized] at hsame
        apply hsame
      constructor
      · apply (hreturns transcript).mpr ⟨heq.symm, halone⟩
      · intro response hfinish
        rw [hresponse response hfinish]

end

/-! ### A run -/

namespace TranscriptExample

open Keccak

/-- A server whose cap lets any charge through, with a stand-in for the curve. -/
def server : Env :=
  { LeafExample.server with
    config := { LeafExample.server.config with requestChargeCap := BitVec.allOnes 128 }
    curve := { LeafExample.server.curve with toAffine := fun _ => some (0, 0) }
    keccak256 := keccak256 }

/-- A request at the root 3, for a note that expires at 4. -/
def apiRequest : ApiRequest where
  clientRequestId := "request"
  payload := ""
  payloadHash := 0xd21a1cd67cd021ce042d269fc729cdaa783e49d8167835436b0bd072d9733d6
  publicInputs := {
    statementType := 1
    protocolVersion := 1
    chainId := 1
    contractAddress := 0
    activeRoot := 3
    stateSigEpoch := 0
    stateSigRoot := 0
    requestNullifier := 5
    anonCommitmentX := 0
    anonCommitmentY := 0
    expiryTs := 4
    solvencyBound := BitVec.allOnes 128 }
  proof := {
    backend := .stwoCairo
    publicOutputHash := 0x9c6c7a94285cbeb8767dabbf716156f2db29f18cc13d49ba4445841c186667d
    proof := "" }

theorem payloadHash_eq :
  canonicalPayloadHash keccak256 "" = .ok apiRequest.payloadHash
  := by decide +kernel

theorem publicOutputHash_eq :
  apiRequest.publicInputs.publicOutputHash keccak256 = .ok apiRequest.proof.publicOutputHash
  := by decide +kernel

def responseHash : Felt252 :=
  0x11b7bbd8579de9dd90894473155efcd43b7f0b797eac82bdf6c54deb18e6ef1c

theorem responseHash_eq :
  canonicalResponseHash keccak256 "" = .ok responseHash
  := by decide +kernel

/-- An empty answer at a charge. -/
def provider (charge : U128) : ProviderResponse where
  statusCode := 200
  payload := ""
  chargeApplied := charge
  policyReasonCode := none
  policyEvidenceHash := none

/-- The state that is signed. -/
def state : NextState where
  commitmentX := fieldToFelt 0
  commitmentY := fieldToFelt 0
  anchor := computeNextAnchor server.poseidonHashMany (generateServerRng server 5) 5
    (fieldToFelt 0) (fieldToFelt 0) 0
  blindDelta := computeBlindDelta server.poseidonHashMany (generateServerRng2 server 5) 5 0

theorem isSome_signature :
  (LeafExample.keypair.signReserved server.poseidonHashMany 0 0 (state.message server)).1.isSome
  := XmssKeypair.signReserved_isSome LeafExample.zero_lt_capacity

/-- Its signature. -/
def signature : XmssSignature :=
  (LeafExample.keypair.signReserved server.poseidonHashMany 0 0
    (state.message server)).1.get isSome_signature

theorem nextState_eq (charge : U128) :
  nextState server apiRequest.publicInputs () charge 0 = .ok state
  := rfl

/-- The accesses of the checks, at the root of the request. -/
def checks : List ((op : Op) × op.Res) :=
  [⟨.currentRoot, (3 : Felt252)⟩,
    ⟨.currentTimestamp, (2 : U64)⟩,
    ⟨.verifyArtifact [] apiRequest.publicInputs, (.ok () : Except String Unit)⟩]

theorem trace_checks :
  Trace (checkRequest server apiRequest).run checks (.ok [])
  := by
  apply trace_run_bind_ok.mpr
  refine ⟨(), checks.take 2, checks.drop 2, rfl, ?_, ?_⟩
  · apply trace_orPanic_bind.mpr (.inl ⟨_, payloadHash_eq, ?_⟩)
    apply trace_rejectIf_bind.mpr (.inl ⟨by decide, ?_⟩)
    apply trace_rejectIf_bind.mpr (.inl ⟨by decide, ?_⟩)
    apply trace_rejectIf_bind.mpr (.inl ⟨by decide, ?_⟩)
    apply trace_rejectIf_bind.mpr (.inl ⟨by decide, ?_⟩)
    apply trace_call_bind.mpr
    refine ⟨(3 : Felt252), _, rfl, ?_⟩
    apply trace_rejectIf_bind.mpr (.inl ⟨by decide, ?_⟩)
    apply trace_call_bind.mpr
    refine ⟨(2 : U64), [], rfl, ?_⟩
    apply trace_rejectIf_bind.mpr (.inl ⟨by decide, ?_⟩)
    apply trace_rejectIf_bind.mpr (.inl ⟨by decide, ?_⟩)
    apply trace_rejectIf_bind.mpr (.inl ⟨by decide, ?_⟩)
    apply trace_run_pure.mpr ⟨rfl, rfl⟩
  · apply trace_rejectIf_bind.mpr (.inl ⟨by decide, ?_⟩)
    apply trace_orPanic_bind.mpr (.inl ⟨_, publicOutputHash_eq, ?_⟩)
    apply trace_rejectIf_bind.mpr (.inl ⟨by decide, ?_⟩)
    apply trace_orError_bind.mpr (.inl ⟨[], rfl, ?_⟩)
    apply trace_call_bind.mpr
    refine ⟨Except.ok (), [], rfl, ?_⟩
    apply trace_orError_bind.mpr (.inl ⟨(), rfl, ?_⟩)
    apply trace_run_pure.mpr ⟨rfl, rfl⟩

/-- The accesses that sign the state. -/
def signing : List ((op : Op) × op.Res) :=
  [⟨.lockOperation, true⟩,
    ⟨.reserveLeaf .state 1 LeafExample.keypair.rootFelt LeafExample.keypair.capacity,
      (.ok 0 : Except ServerError U32)⟩,
    ⟨.signReserved .state 0 (state.message server), some signature⟩,
    ⟨.unlockOperation false, ()⟩]

theorem trace_signing (charge : U128) :
  Trace (signNextState server.signer fun leafIndex =>
    (nextState server apiRequest.publicInputs () charge leafIndex).map
      (NextState.message server)).run
    signing (.ok ({ signature with epoch := 1 }, 0, state.message server))
  := by
  apply trace_call_bind.mpr
  refine ⟨true, signing.tail, rfl, ?_⟩
  apply trace_bind.mpr
  refine ⟨.ok ({ signature with epoch := 1 }, 0, state.message server), signing.tail.take 2,
    signing.drop 3, rfl, ?_, ?_⟩
  · apply trace_call_bind.mpr
    refine ⟨Except.ok 0, _, rfl, ?_⟩
    apply trace_orError_bind.mpr (.inl ⟨0, rfl, ?_⟩)
    apply trace_fromExcept_bind.mpr (.inl ⟨state.message server, rfl, ?_⟩)
    apply trace_call_bind.mpr
    refine ⟨some signature, [], rfl, ?_⟩
    apply trace_run_pure.mpr ⟨rfl, rfl⟩
  · apply trace_bind.mpr
    refine ⟨(), signing.drop 3, [], rfl, trace_perform.mpr rfl, ?_⟩
    apply trace_pure.mpr ⟨rfl, rfl⟩

/-- The accesses that execute the request. -/
def execution (charge : U128) : List ((op : Op) × op.Res) :=
  ⟨.execute "request" "" apiRequest.payloadHash,
    (.ok (provider charge) : Except ServerError ProviderResponse)⟩
      :: signing ++ [⟨.currentTimestamp, (2 : U64)⟩, ⟨.currentTimestamp, (2 : U64)⟩]

def transcript (charge : U128) : TranscriptRecord :=
  transcriptOf server apiRequest (provider charge) responseHash state
    { signature with epoch := 1 } [] 2 2

def response (charge : U128) : RequestResponse :=
  responseOf server apiRequest (provider charge) responseHash state
    { signature with epoch := 1 }

/-- The accesses of the call before it finalizes the transcript. -/
def accesses (charge : U128) : List ((op : Op) × op.Res) :=
  checks ++ [⟨.lookupByNullifier 5, (.ok none : Except Failure (Option TranscriptRecord))⟩,
    ⟨.reserve 5 "request" apiRequest.payloadHash, (.ok () : Except ServerError Unit)⟩]
      ++ execution charge

/-- The last access. -/
def finalization (charge : U128) : List ((op : Op) × op.Res) :=
  [⟨.finalize 5 (transcript charge), (.ok () : Except ServerError Unit)⟩]

theorem not_lt_allOnes (charge : U128) :
  ¬ server.config.chargeCap < charge
  := by
  have hlt : charge.toNat < 2 ^ 128 := charge.isLt
  have hcap : server.config.chargeCap.toNat = 2 ^ 128 - 1 := rfl
  rw [BitVec.lt_def, hcap]
  omega

theorem trace_execution (charge : U128) :
  Trace (executeRequest server apiRequest []).run
    (execution charge ++ finalization charge) (.ok (response charge))
  := by
  apply trace_call_bind.mpr
  refine ⟨Except.ok (provider charge), _, rfl, ?_⟩
  apply trace_orError_bind.mpr (.inl ⟨provider charge, rfl, ?_⟩)
  apply trace_orPanic_bind.mpr (.inl ⟨_, responseHash_eq, ?_⟩)
  apply trace_rejectIf_bind.mpr (.inl ⟨not_lt_allOnes charge, ?_⟩)
  apply trace_orPanic_bind.mpr (.inl ⟨(), rfl, ?_⟩)
  apply trace_run_bind_ok.mpr
  refine ⟨({ signature with epoch := 1 }, 0, state.message server), signing, _,
    List.append_assoc _ _ _, trace_signing charge, ?_⟩
  apply trace_fromExcept_bind.mpr (.inl ⟨state, nextState_eq charge, ?_⟩)
  apply trace_call_bind.mpr
  refine ⟨(2 : U64), _, rfl, ?_⟩
  apply trace_call_bind.mpr
  refine ⟨(2 : U64), _, rfl, ?_⟩
  apply trace_call_bind.mpr
  refine ⟨Except.ok (), [], rfl, ?_⟩
  apply trace_orError_bind.mpr (.inl ⟨(), rfl, ?_⟩)
  apply trace_run_pure.mpr ⟨rfl, rfl⟩

theorem trace_accesses (charge : U128) :
  Trace (processRequest server apiRequest).run (accesses charge ++ finalization charge)
    (.ok (response charge))
  := by
  have hanswered := Answered.reserved (trace_execution charge)
  have htrace := hanswered.trace trace_checks
  apply htrace

/-- The call executes on an empty database. -/
theorem execs_accesses (charge : U128) :
  ∃ s, Execs (processing server)
    (Shared.started (fun _ => none) LeafExample.signerState)
    (accesses charge ++ finalization charge) s
  := by
  have hleaf : (SignerTable.reserveLeaf LeafExample.signerState .state 1
      LeafExample.keypair.rootFelt LeafExample.keypair.capacity).1 = .ok 0 :=
    LeafExample.reserve_first .state
  have hreserve : (NullifierTable.reserve (fun _ => none) 5 "request" apiRequest.payloadHash 2).1
      = .ok () := rfl
  have hfinalize : ((NullifierTable.reserve (fun _ => none) 5 "request" apiRequest.payloadHash
      2).2.finalize 5 (transcript charge) 2).1 = .ok () := by
    have hrow := (NullifierTable.insert_eq_ok hreserve).2
    apply congrArg Prod.fst (NullifierTable.finalize_of_reserved hrow (not_not.mpr rfl))
  apply Exists.intro
  apply Execs.cons
  · exact rfl
  apply Execs.cons
  · exact rfl
  apply Execs.cons
  · exact rfl
  apply Execs.cons
  · exact ⟨rfl, .inl rfl⟩
  apply Execs.cons
  · exact ⟨2, _, rfl, .of_eq hreserve⟩
  apply Execs.cons
  · exact rfl
  apply Execs.cons
  · exact .inl ⟨rfl, rfl, rfl⟩
  apply Execs.cons
  · exact ⟨_, rfl, .of_eq hleaf⟩
  apply Execs.cons
  · exact ⟨Option.some_get _, rfl⟩
  apply Execs.cons
  · exact rfl
  apply Execs.cons
  · exact rfl
  apply Execs.cons
  · exact rfl
  apply Execs.cons
  · exact ⟨2, _, rfl, .of_eq hfinalize⟩
  exact .nil _

/-- The history of the call before it finalizes the transcript. -/
def history (charge : U128) : List ServerLabel :=
  .start 0 (.processRequest apiRequest)
    :: (accesses charge).map fun access => .access 0 access.1 access.2

/-- The call alone, on an empty database. -/
theorem exists_run (charge : U128) :
  ∃ c d e now,
    Run (Step (processing server)) (Env.serving (fun _ => none) LeafExample.signerState)
      (history charge) c
    ∧ Step (processing server) c
      (.access 0 (.finalize 5 (transcript charge)) (Except.ok () : Except ServerError Unit)) d
    ∧ d.shared.nullifiers = (c.shared.nullifiers.finalize 5 (transcript charge) now).2
    ∧ Run (Step (processing server)) d [.finish 0 (.request (.ok (response charge)))] e
  := by
  have htrace : Trace ((processing server).program (.processRequest apiRequest))
      (accesses charge ++ finalization charge) (.request (.ok (response charge))) := by
    apply trace_bind.mpr
    refine ⟨_, _, [], (List.append_nil _).symm, trace_accesses charge, ?_⟩
    apply trace_pure.mpr ⟨rfl, rfl⟩
  obtain ⟨s, hexecs⟩ := execs_accesses charge
  obtain ⟨e, hrun, _⟩ := run_of_call
    (c := Env.serving (fun _ => none) LeafExample.signerState) htrace hexecs
  rw [solo, List.map_append, List.append_assoc, ← List.cons_append] at hrun
  obtain ⟨c, hc, hrest⟩ := hrun.split
  obtain ⟨d, hd, he⟩ := hrest.split
  have hstep := Run.step_of_single hd
  obtain ⟨now, hnow⟩ : ∃ now, d.shared.nullifiers
      = (c.shared.nullifiers.finalize 5 (transcript charge) now).2 := by
    cases hstep with
    | access _ hexec =>
      obtain ⟨now, table, rfl, hstatement⟩ := hexec
      exact ⟨now, hstatement.eq_of_ok.2⟩
  exact ⟨c, d, e, now, hc, hstep, hnow, he⟩

/-- The only call of the history is that of the request. -/
theorem start_of_mem {charge : U128} {labels : List ServerLabel} {u : ℕ} {call : ServerCall}
    (hlabels : ∀ v call, .start v call ∉ labels) (h : .start u call ∈ history charge ++ labels) :
  call = .processRequest apiRequest
  := by
  obtain h | h := List.mem_append.mp h
  · obtain heq | h := List.mem_cons.mp h
    · cases heq
      rfl
    · obtain ⟨_, _, ⟨⟩⟩ := List.mem_map.mp h
  · cases hlabels u call h

/-- A charge that fits comes back. -/
theorem kept_example :
  ∃ d e record, Run (Step (processing server)) (Env.serving (fun _ => none) LeafExample.signerState)
      (history 5 ++ [.access 0 (.finalize 5 (transcript 5))
        (Except.ok () : Except ServerError Unit)]) d
    ∧ Run (Step (processing server)) d [.finish 0 (.request (.ok (response 5)))] e
    ∧ e.shared.nullifiers.Returns 5 "request" record
    ∧ buildResponseFromRecord record "request" = response 5
  := by
  obtain ⟨c, d, e, now, hc, hstep, hnow, he⟩ := exists_run 5
  have hwire : ∀ u (request : ApiRequest), .start u (.processRequest request) ∈ history 5
      ++ [.finish 0 (.request (.ok (response 5)))] →
        request.publicInputs.requestNullifier.Canonical := by
    intro u request hmem
    cases start_of_mem (by rintro v call h; cases List.mem_singleton.mp h) hmem
    decide
  have halone : e.shared.nullifiers.Alone 5 "request" := by
    intro key row hrow hid
    obtain ⟨u, request, hmem, rfl⟩ := rowsRequested ((hc.snoc hstep).append he) key row _ hrow hid
    rw [List.append_assoc] at hmem
    cases start_of_mem (by rintro v call h; cases h with | tail _ h => cases List.mem_singleton.mp h)
      hmem
    rfl
  have hstorable : (transcript 5).Storable := by
    constructor
    case charge =>
      rintro charge ⟨⟩
      exact .inl (by decide)
    case evidence => rintro hash ⟨⟩
  obtain ⟨record, hrecord, _, hresponse⟩ :=
    (transcript_kept_iff hc hwire List.mem_cons_self hstep hnow he).1.mpr ⟨hstorable, halone⟩
  exact ⟨d, e, record, hc.snoc hstep, he, hrecord, hresponse _ (List.mem_singleton_self _)⟩

/-- What comes back of a charge that does not fit. -/
theorem exists_changed {charge : U128} (hcharge : storedCharge charge ≠ charge) :
  ∃ d e record, Run (Step (processing server)) (Env.serving (fun _ => none) LeafExample.signerState)
      (history charge ++ [.access 0 (.finalize 5 (transcript charge))
        (Except.ok () : Except ServerError Unit)]) d
    ∧ Run (Step (processing server)) d [.finish 0 (.request (.ok (response charge)))] e
    ∧ e.shared.nullifiers.lookupByNullifier 5 = .ok (some record)
    ∧ record.chargeApplied = some (storedCharge charge)
    ∧ buildResponseFromRecord record "request" ≠ response charge
  := by
  obtain ⟨c, d, e, now, hc, hstep, hnow, he⟩ := exists_run charge
  obtain ⟨_, _, row, _, hrow, _, hrecord, _⟩ :=
    lookup_of_finalized hc List.mem_cons_self hstep hnow he
  refine ⟨d, e, (transcript charge).stored row.createdAt now, hc.snoc hstep, he, ?_, rfl, ?_⟩
  · rw [NullifierTable.lookupByNullifier, hrow]
    dsimp only
    rw [hrecord]
    rfl
  · intro h
    apply hcharge (congrArg RequestResponse.chargeApplied h)

/-- A charge of `2 ^ 63` comes back as `2 ^ 128 - 2 ^ 63`, in another response. -/
theorem charge_changed_example :
  ∃ d e record, Run (Step (processing server)) (Env.serving (fun _ => none) LeafExample.signerState)
      (history 0x8000000000000000 ++ [.access 0 (.finalize 5 (transcript 0x8000000000000000))
        (Except.ok () : Except ServerError Unit)]) d
    ∧ Run (Step (processing server)) d [.finish 0 (.request (.ok (response 0x8000000000000000)))] e
    ∧ e.shared.nullifiers.lookupByNullifier 5 = .ok (some record)
    ∧ record.chargeApplied = some 0xffffffffffffffff8000000000000000
    ∧ buildResponseFromRecord record "request" ≠ response 0x8000000000000000
  := by
  have hstored : storedCharge 0x8000000000000000 = 0xffffffffffffffff8000000000000000 := by decide +kernel
  have hne : storedCharge 0x8000000000000000 ≠ 0x8000000000000000 := by decide +kernel
  have hchanged := exists_changed hne
  rw [hstored] at hchanged
  apply hchanged

end TranscriptExample

end ZkApi.Server
