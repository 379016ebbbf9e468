import ZkApi.Proof.Compact
import ZkApi.Types.Storage

/-!
# Types of the wallet

Errors, the configuration, the private state of a note, and the journal of a pending request,
with the two files that the wallet keeps.
-/

namespace ZkApi.Client

open ZkApi.Compact

/-- `try_into`, a list as an array of 32 elements. -/
def tryIntoArray (values : List Felt252) : Option (Fin 32 → Felt252) :=
  if h : values.length = 32 then
    some fun level => values.get (level.cast h.symm)
  else
    none

/-! ### Errors -/

/-- `ClientError`.  The text of an error of the file system is left out. -/
inductive ClientError where
  | noActiveNote
  | noteAlreadyExists
  | insufficientBalance (needed available : U128)
  | staleRoot
  | serverError (text : String)
  | invalidResponse (text : String)
  | pendingRequest
  | io
  | serialization (text : String)
  | proofGeneration (text : String)
  | verificationFailed (text : String)
  deriving DecidableEq

/-- How an operation of the wallet ends without a value. -/
inductive Abort where
  | error (e : ClientError)
  | panic
  deriving DecidableEq

/-- `map_err`, with the error that carries a text. -/
def Abort.ofFailure (toError : String → ClientError) : Failure → Abort
  | .message text => .error (toError text)
  | .panic => .panic

/-- The result of another crate, with its error in one of the wallet. -/
def mapErr {α : Type} (toError : String → ClientError) (x : Except Failure α) : Except Abort α :=
  x.mapError (Abort.ofFailure toError)

/-- The result of a function that does not fail but by a panic. -/
def orPanic {α : Type} (x : Except Failure α) : Except Abort α :=
  x.mapError fun _ => .panic

@[simp]
theorem mapErr_eq_ok {α : Type} {toError : String → ClientError} {x : Except Failure α} {a : α} :
  mapErr toError x = .ok a ↔ x = .ok a
  := by
  cases x <;> simp [mapErr, Except.mapError]

@[simp]
theorem orPanic_eq_ok {α : Type} {x : Except Failure α} {a : α} :
  orPanic x = .ok a ↔ x = .ok a
  := by
  cases x <;> simp [orPanic, Except.mapError]

/-! ### Configuration -/

/-- `ClientConfig`.  The address of the server, the directories and the retired fields are
left out. -/
structure ClientConfig where
  protocolVersion : U16
  chainId : U64
  contractAddress : Felt252
  requestChargeCap : U128
  policyChargeCap : U128
  policyEnabled : Bool
  stateSigningKey : CurvePointWire
  clearanceSigningKey : CurvePointWire

/-- The cap that the policy in force puts on a charge. -/
def ClientConfig.chargeCap (config : ClientConfig) : U128 :=
  if config.policyEnabled then config.policyChargeCap else config.requestChargeCap

/-! ### The state of a note -/

/-- `NoteState`. -/
structure NoteState where
  protocolVersion : U16
  chainId : U64
  contractAddress : Felt252
  noteId : U32
  secretS : Felt252
  depositAmount : U128
  expiryTs : U64
  currentBalance : U128
  balanceBlinding : String
  currentCommitmentX : Felt252
  currentCommitmentY : Felt252
  currentAnchor : Felt252
  isGenesis : Bool
  stateSignature : Option SchnorrSignature
  deriving DecidableEq

namespace NoteState

/-- `new_from_deposit`. -/
def newFromDeposit (protocolVersion : U16) (chainId : U64) (contractAddress : Felt252)
    (noteId : U32) (secretS : Felt252) (depositAmount : U128) (expiryTs : U64)
    (balanceBlinding : String) (commitmentX commitmentY : Felt252) : NoteState where
  protocolVersion := protocolVersion
  chainId := chainId
  contractAddress := contractAddress
  noteId := noteId
  secretS := secretS
  depositAmount := depositAmount
  expiryTs := expiryTs
  currentBalance := depositAmount
  balanceBlinding := balanceBlinding
  currentCommitmentX := commitmentX
  currentCommitmentY := commitmentY
  currentAnchor := 1
  isGenesis := true
  stateSignature := none

/-- `solvency_bound`. -/
def solvencyBound (_ : NoteState) (policyEnabled : Bool) (chargeCap policyCap : U128) : U128 :=
  if policyEnabled then policyCap else chargeCap

/-- What `load` makes of a file that `save` wrote. -/
def reload (state : NoteState) : Except Failure NoteState := do
  return { state with
    contractAddress := ← state.contractAddress.reload
    secretS := ← state.secretS.reload
    currentCommitmentX := ← state.currentCommitmentX.reload
    currentCommitmentY := ← state.currentCommitmentY.reload
    currentAnchor := ← state.currentAnchor.reload
    stateSignature := ← state.stateSignature.mapM SchnorrSignature.reload }

/-- The elements of a state are canonical. -/
structure Canonical (state : NoteState) : Prop where
  contractAddress : state.contractAddress.Canonical
  secretS : state.secretS.Canonical
  currentCommitmentX : state.currentCommitmentX.Canonical
  currentCommitmentY : state.currentCommitmentY.Canonical
  currentAnchor : state.currentAnchor.Canonical
  stateSignature : ∀ signature, state.stateSignature = some signature → signature.Canonical

theorem reload_eq_ok {state reloaded : NoteState} :
  state.reload = .ok reloaded ↔ state.Canonical ∧ reloaded = state
  := by
  simp only [reload, bind_eq_ok, Felt252.reload_eq_ok, mapM_reload_eq_ok SchnorrSignature.reload_eq_ok, pure, Except.pure,
    Except.ok.injEq]
  constructor
  · rintro ⟨_, ⟨h1, rfl⟩, _, ⟨h2, rfl⟩, _, ⟨h3, rfl⟩, _, ⟨h4, rfl⟩, _, ⟨h5, rfl⟩, _, ⟨h6, rfl⟩,
      rfl⟩
    exact ⟨⟨h1, h2, h3, h4, h5, h6⟩, rfl⟩
  · rintro ⟨h, rfl⟩
    exact ⟨_, ⟨h.contractAddress, rfl⟩, _, ⟨h.secretS, rfl⟩, _, ⟨h.currentCommitmentX, rfl⟩,
      _, ⟨h.currentCommitmentY, rfl⟩, _, ⟨h.currentAnchor, rfl⟩, _, ⟨h.stateSignature, rfl⟩, rfl⟩

end NoteState

/-! ### The journal -/

/-- `PendingRequestJournal`. -/
structure PendingRequestJournal where
  «exists» : Bool
  clientRequestId : String
  nullifier : Felt252
  payloadHash : Felt252
  userRerandomization : Felt252
  createdAtMs : U64
  preparedRequest : Option ApiRequestV2
  deriving DecidableEq

namespace PendingRequestJournal

/-- What `read` makes of a file that `write` wrote. -/
def reload (journal : PendingRequestJournal) : Except Failure PendingRequestJournal := do
  return { journal with
    nullifier := ← journal.nullifier.reload
    payloadHash := ← journal.payloadHash.reload
    userRerandomization := ← journal.userRerandomization.reload
    preparedRequest := ← journal.preparedRequest.mapM ApiRequestV2.reload }

/-- The elements of a journal are canonical. -/
structure Canonical (journal : PendingRequestJournal) : Prop where
  nullifier : journal.nullifier.Canonical
  payloadHash : journal.payloadHash.Canonical
  userRerandomization : journal.userRerandomization.Canonical
  preparedRequest : ∀ request, journal.preparedRequest = some request → request.Canonical

theorem reload_eq_ok {journal reloaded : PendingRequestJournal} :
  journal.reload = .ok reloaded ↔ journal.Canonical ∧ reloaded = journal
  := by
  simp only [reload, bind_eq_ok, Felt252.reload_eq_ok,
    mapM_reload_eq_ok ApiRequestV2.reload_eq_ok, pure, Except.pure, Except.ok.injEq]
  constructor
  · rintro ⟨_, ⟨h1, rfl⟩, _, ⟨h2, rfl⟩, _, ⟨h3, rfl⟩, _, ⟨h4, rfl⟩, rfl⟩
    exact ⟨⟨h1, h2, h3, h4⟩, rfl⟩
  · rintro ⟨h, rfl⟩
    exact ⟨_, ⟨h.nullifier, rfl⟩, _, ⟨h.payloadHash, rfl⟩, _, ⟨h.userRerandomization, rfl⟩,
      _, ⟨h.preparedRequest, rfl⟩, rfl⟩

end PendingRequestJournal

/-! ### Files -/

/-- The file of the journal: an entry that was written, or text that deserialization fails
on. -/
inductive JournalFile where
  | entry (journal : PendingRequestJournal)
  | malformed (failure : Failure)

/-- The files `note_state.json` and `pending_journal.json`. -/
structure Disk where
  noteState : Option NoteState
  pendingJournal : Option JournalFile

end ZkApi.Client
