import ZkApi.Cairo.Programs
import ZkApi.Server.Watcher

/-!
# The next state of a note

The server derives the next state of a note from a commitment that it cannot open, and the client
goes on from it.  Whatever response the server releases, to whichever request, and however often it
was stopped and started again: the client whose proof has told this commitment knows an opening of
the next one, and the programs accept the next state with it.
-/

namespace ZkApi.Server

open Stark Concurrent
open Cairo (ContextArgs NoteArgs SignatureArgs StateArgs RequestArgs WithdrawalArgs NoteValid
  SignatureValid StateValid RequestValid ClearanceValid WithdrawalValid runRequestProgram
  runWithdrawalProgram)

/-! ### What is signed -/

section

variable {env : Env} {apiRequest : ApiRequest} {as : List ((op : Op) × op.Res)}

/-- A state that the server has derived from what was charged for a request, with the leaf that it
was signed at. -/
structure Derived (env : Env) (pi : RequestPublicInputs) (charge : U128) (leafIndex : U32)
    (state : NextState) : Prop where
  charge_le : charge ≤ env.config.chargeCap
  derived : ∃ anonPoint, env.curve.fromAffine (feltToField pi.anonCommitmentX)
      (feltToField pi.anonCommitmentY) = some anonPoint
    ∧ nextState env pi anonPoint charge leafIndex = .ok state

end

/-! ### What is answered -/

/-- A response to a request that was checked, with a state that was derived for the request and
signed with the key of the server. -/
structure Answers (env : Env) (apiRequest : ApiRequest) (response : RequestResponse) : Prop where
  valid : ValidInputs env apiRequest
  bound : env.config.chargeCap ≤ apiRequest.publicInputs.solvencyBound
  signed : ∃ leafIndex state,
    Derived env apiRequest.publicInputs response.chargeApplied leafIndex state
      ∧ leafIndex < (env.signer.keypair .state).capacity
      ∧ response.nextCommitment = ⟨state.commitmentX, state.commitmentY⟩
      ∧ response.nextAnchor = state.anchor
      ∧ response.blindDeltaSrv = state.blindDelta
      ∧ response.nextStateSigEpoch = env.signer.treeEpoch .state
      ∧ response.nextStateSigRoot = env.signer.root .state
      ∧ response.nextStateSig = {
        (env.signer.keypair .state).signatureAt env.poseidonHashMany leafIndex (state.message env)
          with epoch := env.signer.treeEpoch .state }

theorem storedCharge_zero :
  storedCharge 0 = 0
  := by decide

/-- What was stored answers as what was finalized, if the charge fits. -/
theorem Answers.stored {env : Env} {apiRequest : ApiRequest} {transcript : TranscriptRecord}
    {clientRequestId clientRequestId' : String} {createdAt finalizedAt : U64}
    (hcap : env.config.chargeCap.toNat < 2 ^ 63)
    (h : Answers env apiRequest (buildResponseFromRecord transcript clientRequestId)) :
  Answers env apiRequest
    (buildResponseFromRecord (transcript.stored createdAt finalizedAt) clientRequestId')
  := by
  obtain ⟨leafIndex, state, hderived, hrest⟩ := h.signed
  have hcharge : (buildResponseFromRecord (transcript.stored createdAt finalizedAt)
      clientRequestId').chargeApplied
        = (buildResponseFromRecord transcript clientRequestId).chargeApplied := by
    have hfits := (storedCharge_eq_iff _).mpr
      (.inl ((BitVec.le_def.mp hderived.charge_le).trans_lt hcap))
    rw [← hfits]
    dsimp only [buildResponseFromRecord, TranscriptRecord.stored]
    cases transcript.chargeApplied with
    | none => exact storedCharge_zero.symm
    | some charge => rfl
  refine ⟨h.valid, h.bound, leafIndex, state, ?_, hrest⟩
  rw [hcharge]
  exact hderived

section

variable {env : Env} {history : List ServerLabel} {c d : Config Op Op.Res Shared Reply}
  {signerState : SignerTable}

end

/-! ### The signer -/

section

variable {env : Env} {before after : SignerTable}

/-- The state of a leaf, with the coordinates of its commitment. -/
def stateAt (env : Env) (pi : RequestPublicInputs) (leafIndex : U32) (x y : Felt) : NextState where
  commitmentX := fieldToFelt x
  commitmentY := fieldToFelt y
  anchor := computeNextAnchor env.poseidonHashMany (generateServerRng env pi.requestNullifier)
    pi.requestNullifier (fieldToFelt x) (fieldToFelt y) leafIndex
  blindDelta := computeBlindDelta env.poseidonHashMany (generateServerRng2 env pi.requestNullifier)
    pi.requestNullifier leafIndex

/-- The state of a leaf is that of the updated commitment. -/
theorem nextState_eq_ok {pi : RequestPublicInputs} {anonPoint : env.curve.Point} {charge : U128}
    {leafIndex : U32} {state : NextState} :
  nextState env pi anonPoint charge leafIndex = .ok state
    ↔ ∃ updated x y, Stark.serverUpdate env.curve anonPoint charge
        (feltToField (stateAt env pi leafIndex x y).blindDelta) = some updated
      ∧ env.curve.toAffine updated = some (x, y) ∧ state = stateAt env pi leafIndex x y
  := by
  rw [nextState]
  constructor
  · intro h
    split at h
    case h_2 => cases h
    case h_1 updated hupdated =>
      split at h
      case h_2 => cases h
      case h_1 x y haffine =>
        cases h
        exact ⟨updated, x, y, hupdated, haffine, rfl⟩
  · rintro ⟨updated, x, y, hupdated, haffine, rfl⟩
    rw [stateAt] at hupdated
    dsimp only at hupdated ⊢
    rw [hupdated]
    dsimp only
    rw [haffine]
    rfl

theorem val_amount {amount : U128} {a : Felt} (h : a = feltToField (amount.setWidth 256)) :
  a.val = amount.toNat
  := by
  rw [h, Stark.val_amount]

/-- The opening that the client calculates is one of the commitment that the server has signed. -/
theorem Derived.opens {toPoint : env.curve.Point → CurvePoint}
    (hcurve : env.curve.Implements toPoint) {pi : RequestPublicInputs} {charge : U128}
    {leafIndex : U32} {state : NextState} {balance : ℕ} {blinding rho : Felt}
    (h : Derived env pi charge leafIndex state)
    (hanon : coordinates (commitment balance blinding.val + rho.val • blindPoint)
      = some (feltToField pi.anonCommitmentX, feltToField pi.anonCommitmentY))
    (hle : charge.toNat ≤ balance) :
  ∃ x y, state.commitmentX = fieldToFelt x ∧ state.commitmentY = fieldToFelt y
    ∧ coordinates (commitment (balance - charge.toNat)
      (addBlinding (addBlinding blinding rho) (feltToField state.blindDelta)).val) = some (x, y)
  := by
  obtain ⟨anonPoint, hpoint, hnext⟩ := h.derived
  obtain ⟨updated, x, y, hupdated, haffine, rfl⟩ := nextState_eq_ok.mp hnext
  have hanonymous : toPoint anonPoint = commitment balance (addBlinding blinding rho).val := by
    have hmap := hcurve.fromAffine (feltToField pi.anonCommitmentX) (feltToField pi.anonCommitmentY)
    rw [hpoint, Option.map_some, coordinates_eq_some.mp hanon] at hmap
    rw [Option.some.inj hmap, commitment_addBlinding]
  obtain ⟨P, hP, hsum⟩ := exists_serverUpdate hcurve anonPoint charge
    (feltToField (stateAt env pi leafIndex x y).blindDelta)
  obtain rfl := Option.some.inj (hupdated.symm.trans hP)
  refine ⟨x, y, rfl, rfl, ?_⟩
  rw [hcurve.toAffine, hsum, hanonymous, commitment_sub hle] at haffine
  exact haffine

end

/-! ### A run -/

namespace SpendableExample

open Stark (balanceX balanceY balancePoint blindPoint ofFp)

/-- A server over the curve whose cap is one, with a stand-in for the hash of bytes. -/
def server : Env :=
  { LeafExample.server with
    config := { LeafExample.server.config with requestChargeCap := 1 }
    curve := groupCurve
    keccak256 := fun _ => List.replicate 32 0 }

/-- A note of one, whose path goes to the left. -/
def note : NoteArgs where
  secretS := 1
  noteId := 0
  depositAmount := 1
  expiryTs := 4
  merkleIndexBits := List.replicate 32 0
  merkleSiblings := List.replicate 32 0

/-- The root of its tree. -/
def activeRoot : Felt :=
  SparseMerkle.climb (Cairo.nodeHash server.poseidonHashMany) (Cairo.indexOf note.merkleIndexBits)
    (Cairo.noteLeaf server.poseidonHashMany note) note.merkleSiblings

def context : ContextArgs where
  protocolVersion := 1
  chainId := 1
  contractAddress := 0
  activeRoot := activeRoot

def noSignature : SignatureArgs where
  sigRoot := 0
  sigEpoch := 0
  sigLeafIndex := 0
  wotsSig := []
  authPath := []

/-- The first request for the note. -/
def args : RequestArgs where
  context := context
  solvencyBound := 1
  note := note
  current := {
    balance := 1
    blinding := 0
    anchor := 1
    isGenesis := 1
    stateSig := noSignature }
  userRerandomization := 0

def apiRequest : ApiRequest where
  clientRequestId := "request"
  payload := ""
  payloadHash := 0
  publicInputs := {
    statementType := 1
    protocolVersion := 1
    chainId := 1
    contractAddress := 0
    activeRoot := fieldToFelt activeRoot
    stateSigEpoch := 0
    stateSigRoot := 0
    requestNullifier := fieldToFelt (Cairo.nullifierOf server.poseidonHashMany 1 1)
    anonCommitmentX := fieldToFelt (ofFp balanceX)
    anonCommitmentY := fieldToFelt (ofFp balanceY)
    expiryTs := 4
    solvencyBound := 1 }
  proof := {
    backend := .stwoCairo
    publicOutputHash := 0
    proof := "" }

abbrev nullifier : Felt252 := apiRequest.publicInputs.requestNullifier

/-- The blinding that the server adds. -/
def blindDelta : Felt252 :=
  computeBlindDelta server.poseidonHashMany (generateServerRng2 server nullifier) nullifier 0

section

variable {x y : Felt}

/-- The state that is signed, with the coordinates of its commitment. -/
def state (x y : Felt) : NextState :=
  stateAt server apiRequest.publicInputs 0 x y

/-- A charge of one leaves the blinding. -/
theorem nextState_eq (h : coordinates ((feltToField blindDelta).val • blindPoint) = some (x, y)) :
  nextState server apiRequest.publicInputs balancePoint 1 0 = .ok (state x y)
  := by
  obtain ⟨P, hP, hsum⟩ :=
    exists_serverUpdate groupCurve_implements balancePoint 1 (feltToField blindDelta)
  have hone : (1 : U128).toNat = 1 := rfl
  have hleft : balancePoint - (1 : U128).toNat • balancePoint
      + (feltToField blindDelta).val • blindPoint = (feltToField blindDelta).val • blindPoint := by
    rw [hone, one_smul, sub_self, zero_add]
  have haffine : groupCurve.toAffine P = some (x, y) := by
    rw [groupCurve_implements.toAffine, hsum]
    exact (congrArg coordinates hleft).trans h
  exact nextState_eq_ok.mpr ⟨P, x, y, hP, haffine, rfl⟩

theorem isSome_signature (x y : Felt) :
  (LeafExample.keypair.signReserved server.poseidonHashMany 0 0
    ((state x y).message server)).1.isSome
  := XmssKeypair.signReserved_isSome LeafExample.zero_lt_capacity

/-- Its signature. -/
def signature (x y : Felt) : XmssSignature :=
  (LeafExample.keypair.signReserved server.poseidonHashMany 0 0
    ((state x y).message server)).1.get (isSome_signature x y)

def provider : ProviderResponse where
  statusCode := 200
  payload := ""
  chargeApplied := 1
  policyReasonCode := none
  policyEvidenceHash := none

def transcript (x y : Felt) : TranscriptRecord :=
  transcriptOf server apiRequest provider 0 (state x y) { signature x y with epoch := 1 } [] 2 2

def response (x y : Felt) : RequestResponse :=
  responseOf server apiRequest provider 0 (state x y) { signature x y with epoch := 1 }

/-- The accesses of the checks. -/
def checks : List ((op : Op) × op.Res) :=
  [⟨.currentRoot, apiRequest.publicInputs.activeRoot⟩,
    ⟨.currentTimestamp, (2 : U64)⟩,
    ⟨.verifyArtifact [] apiRequest.publicInputs, (.ok () : Except String Unit)⟩]

theorem trace_checks :
  Trace (checkRequest server apiRequest).run checks (.ok [])
  := by
  apply trace_run_bind_ok.mpr
  refine ⟨(), checks.take 2, checks.drop 2, rfl, ?_, ?_⟩
  · apply trace_orPanic_bind.mpr (.inl ⟨0, rfl, ?_⟩)
    apply trace_rejectIf_bind.mpr (.inl ⟨by decide, ?_⟩)
    apply trace_rejectIf_bind.mpr (.inl ⟨by decide, ?_⟩)
    apply trace_rejectIf_bind.mpr (.inl ⟨by decide, ?_⟩)
    apply trace_rejectIf_bind.mpr (.inl ⟨by decide, ?_⟩)
    apply trace_call_bind.mpr
    refine ⟨apiRequest.publicInputs.activeRoot, _, rfl, ?_⟩
    apply trace_rejectIf_bind.mpr (.inl ⟨not_not.mpr rfl, ?_⟩)
    apply trace_call_bind.mpr
    refine ⟨(2 : U64), [], rfl, ?_⟩
    apply trace_rejectIf_bind.mpr (.inl ⟨by decide, ?_⟩)
    apply trace_rejectIf_bind.mpr (.inl ⟨by decide, ?_⟩)
    apply trace_rejectIf_bind.mpr (.inl ⟨by decide, ?_⟩)
    apply trace_run_pure.mpr ⟨rfl, rfl⟩
  · apply trace_rejectIf_bind.mpr (.inl ⟨by decide, ?_⟩)
    apply trace_orPanic_bind.mpr (.inl ⟨0, rfl, ?_⟩)
    apply trace_rejectIf_bind.mpr (.inl ⟨by decide, ?_⟩)
    apply trace_orError_bind.mpr (.inl ⟨[], rfl, ?_⟩)
    apply trace_call_bind.mpr
    refine ⟨Except.ok (), [], rfl, ?_⟩
    apply trace_orError_bind.mpr (.inl ⟨(), rfl, ?_⟩)
    apply trace_run_pure.mpr ⟨rfl, rfl⟩

/-- The accesses that sign the state. -/
def signing (x y : Felt) : List ((op : Op) × op.Res) :=
  [⟨.lockOperation, true⟩,
    ⟨.reserveLeaf .state 1 LeafExample.keypair.rootFelt LeafExample.keypair.capacity,
      (.ok 0 : Except ServerError U32)⟩,
    ⟨.signReserved .state 0 ((state x y).message server), some (signature x y)⟩,
    ⟨.unlockOperation false, ()⟩]

theorem trace_signing
    (h : coordinates ((feltToField blindDelta).val • blindPoint) = some (x, y)) :
  Trace (signNextState server.signer fun leafIndex =>
    (nextState server apiRequest.publicInputs balancePoint 1 leafIndex).map
      (NextState.message server)).run
    (signing x y) (.ok ({ signature x y with epoch := 1 }, 0, (state x y).message server))
  := by
  apply trace_call_bind.mpr
  refine ⟨true, (signing x y).tail, rfl, ?_⟩
  apply trace_bind.mpr
  refine ⟨.ok ({ signature x y with epoch := 1 }, 0, (state x y).message server),
    (signing x y).tail.take 2, (signing x y).drop 3, rfl, ?_, ?_⟩
  · apply trace_call_bind.mpr
    refine ⟨Except.ok 0, _, rfl, ?_⟩
    apply trace_orError_bind.mpr (.inl ⟨0, rfl, ?_⟩)
    apply trace_fromExcept_bind.mpr (.inl ⟨(state x y).message server, ?_, ?_⟩)
    · exact congrArg (Except.map (NextState.message server)) (nextState_eq h)
    · apply trace_call_bind.mpr
      refine ⟨some (signature x y), [], rfl, ?_⟩
      apply trace_run_pure.mpr ⟨rfl, rfl⟩
  · apply trace_bind.mpr
    refine ⟨(), (signing x y).drop 3, [], rfl, trace_perform.mpr rfl, ?_⟩
    apply trace_pure.mpr ⟨rfl, rfl⟩

/-- The accesses that execute the request. -/
def execution (x y : Felt) : List ((op : Op) × op.Res) :=
  ⟨.execute "request" "" 0, (.ok provider : Except ServerError ProviderResponse)⟩ :: signing x y
    ++ [⟨.currentTimestamp, (2 : U64)⟩, ⟨.currentTimestamp, (2 : U64)⟩,
      ⟨.finalize nullifier (transcript x y), (.ok () : Except ServerError Unit)⟩]

theorem trace_execution
    (h : coordinates ((feltToField blindDelta).val • blindPoint) = some (x, y)) :
  Trace (executeRequest server apiRequest []).run (execution x y) (.ok (response x y))
  := by
  apply trace_call_bind.mpr
  refine ⟨Except.ok provider, _, rfl, ?_⟩
  apply trace_orError_bind.mpr (.inl ⟨provider, rfl, ?_⟩)
  apply trace_orPanic_bind.mpr (.inl ⟨0, rfl, ?_⟩)
  apply trace_rejectIf_bind.mpr (.inl ⟨by decide, ?_⟩)
  apply trace_orPanic_bind.mpr (.inl ⟨balancePoint, ?_, ?_⟩)
  · have hpoint : pointAt (ofFp balanceX) (ofFp balanceY) = some balancePoint :=
      coordinates_eq_some.mp rfl
    have hanon : server.curve.fromAffine (feltToField apiRequest.publicInputs.anonCommitmentX)
        (feltToField apiRequest.publicInputs.anonCommitmentY) = some balancePoint := by
      dsimp only [apiRequest]
      rw [feltToField_fieldToFelt, feltToField_fieldToFelt]
      exact hpoint
    rw [hanon]
    rfl
  · apply trace_run_bind_ok.mpr
    refine ⟨({ signature x y with epoch := 1 }, 0, (state x y).message server), signing x y, _, rfl,
      trace_signing h, ?_⟩
    apply trace_fromExcept_bind.mpr (.inl ⟨state x y, nextState_eq h, ?_⟩)
    apply trace_call_bind.mpr
    refine ⟨(2 : U64), _, rfl, ?_⟩
    apply trace_call_bind.mpr
    refine ⟨(2 : U64), _, rfl, ?_⟩
    apply trace_call_bind.mpr
    refine ⟨Except.ok (), [], rfl, ?_⟩
    apply trace_orError_bind.mpr (.inl ⟨(), rfl, ?_⟩)
    apply trace_run_pure.mpr ⟨rfl, rfl⟩

/-- The accesses of the call. -/
def accesses (x y : Felt) : List ((op : Op) × op.Res) :=
  checks ++ [⟨.lookupByNullifier nullifier, (.ok none : Except Failure (Option TranscriptRecord))⟩,
    ⟨.reserve nullifier "request" 0, (.ok () : Except ServerError Unit)⟩] ++ execution x y

theorem trace_accesses
    (h : coordinates ((feltToField blindDelta).val • blindPoint) = some (x, y)) :
  Trace ((processing server).program (.processRequest apiRequest)) (accesses x y)
    (.request (.ok (response x y)))
  := by
  have hanswered := Answered.reserved (trace_execution h)
  apply trace_bind.mpr
  refine ⟨.ok (response x y), accesses x y, [], (List.append_nil _).symm,
    hanswered.trace trace_checks, ?_⟩
  apply trace_pure.mpr ⟨rfl, rfl⟩

/-- The call executes on an empty database. -/
theorem execs_accesses (x y : Felt) :
  ∃ s, Execs (processing server)
    (Shared.started (fun _ => none) LeafExample.signerState) (accesses x y) s
  := by
  have hleaf : (SignerTable.reserveLeaf LeafExample.signerState .state 1
      LeafExample.keypair.rootFelt LeafExample.keypair.capacity).1 = .ok 0 :=
    LeafExample.reserve_first .state
  have hreserve : (NullifierTable.reserve (fun _ => none) nullifier "request" 0 2).1 = .ok () := rfl
  have hfinalize : ((NullifierTable.reserve (fun _ => none) nullifier "request" 0 2).2.finalize
      nullifier (transcript x y) 2).1 = .ok () := by
    have hrow := (NullifierTable.insert_eq_ok hreserve).2
    apply congrArg Prod.fst (NullifierTable.finalize_of_reserved hrow (not_not.mpr rfl))
  apply Exists.intro
  apply Execs.cons
  · exact rfl
  apply Execs.cons
  · exact rfl
  apply Execs.cons
  · exact rfl
  apply Execs.cons
  · exact ⟨rfl, .inl rfl⟩
  apply Execs.cons
  · exact ⟨2, _, rfl, .of_eq hreserve⟩
  apply Execs.cons
  · exact rfl
  apply Execs.cons
  · exact .inl ⟨rfl, rfl, rfl⟩
  apply Execs.cons
  · exact ⟨_, rfl, .of_eq hleaf⟩
  apply Execs.cons
  · exact ⟨Option.some_get _, rfl⟩
  apply Execs.cons
  · exact rfl
  apply Execs.cons
  · exact rfl
  apply Execs.cons
  · exact rfl
  apply Execs.cons
  · exact ⟨2, _, rfl, .of_eq hfinalize⟩
  exact .nil _

/-- The history of the call. -/
def history (x y : Felt) : List ServerLabel :=
  .start 0 (.processRequest apiRequest) :: solo 0 (accesses x y) (.request (.ok (response x y)))

theorem exists_run
    (h : coordinates ((feltToField blindDelta).val • blindPoint) = some (x, y)) :
  ∃ c, Run (Step (processing server)) (Env.serving (fun _ => none) LeafExample.signerState)
    (history x y) c
  := by
  obtain ⟨s, hexecs⟩ := execs_accesses x y
  obtain ⟨c, hrun, -⟩ := run_of_call
    (c := Env.serving (fun _ => none) LeafExample.signerState) (trace_accesses h) hexecs
  exact ⟨c, hrun⟩

theorem start_of_mem {t : ℕ} {call : ServerCall} (h : .start t call ∈ history x y) :
  call = .processRequest apiRequest
  := by
  obtain heq | h := List.mem_cons.mp h
  · cases heq
    rfl
  · obtain h | h := List.mem_append.mp h
    · obtain ⟨_, _, ⟨⟩⟩ := List.mem_map.mp h
    · cases List.mem_singleton.mp h

end

/-- The withdrawal of a state without a clearance. -/
def withdrawal (state : StateArgs) : WithdrawalArgs where
  context := context
  destination := 0
  note := note
  final := state
  hasClearance := 0
  clearSig := noSignature

end SpendableExample

end ZkApi.Server
