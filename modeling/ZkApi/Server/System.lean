import ZkApi.Library.Concurrent
import ZkApi.Server.NullifierStore
import ZkApi.Server.SignerStore

/-!
# The server as a concurrent system

What the calls of the server share is the database, the signer's lock and cursors.  An access
is a statement of SQLite, a step of the signer, or something from outside: the current root,
the clock, the verifier of proofs and the provider answer as they like.  A statement of
SQLite can fail before or after it took effect.  When the server restarts, the database is
what it was.
-/

namespace ZkApi.Server

open Stark Concurrent

/-! ### Accesses -/

/-- An access of a call. -/
inductive Op where
  | currentRoot
  | currentTimestamp
  | verifyArtifact (proof : List UInt8) (inputs : RequestPublicInputs)
  | execute (clientRequestId payload : String) (payloadHash : Felt252)
  | lookupByNullifier (nullifier : Felt252)
  | reserve (nullifier : Felt252) (clientRequestId : String) (payloadHash : Felt252)
  | finalize (nullifier : Felt252) (transcript : TranscriptRecord)
  | reserveClearance (nullifier : Felt252)
  | lockOperation
  | unlockOperation (panicking : Bool)
  | reserveLeaf (tree : SignerTree) (epoch : U32) (root : Felt252) (capacity : U32)
  | signReserved (tree : SignerTree) (index : U32) (message : Felt252)

/-- What an access returns. -/
def Op.Res : Op → Type
  | currentRoot => Felt252
  | currentTimestamp => U64
  | verifyArtifact _ _ => Except String Unit
  | execute _ _ _ => Except ServerError ProviderResponse
  | lookupByNullifier _ => Except Failure (Option TranscriptRecord)
  | reserve _ _ _ => Except ServerError Unit
  | finalize _ _ => Except ServerError Unit
  | reserveClearance _ => Except ServerError Unit
  | lockOperation => Bool
  | unlockOperation _ => Unit
  | reserveLeaf _ _ _ _ => Except ServerError U32
  | signReserved _ _ _ => Option XmssSignature

/-- A program of the server. -/
abbrev Handler (α : Type) : Type :=
  Fallible Op Op.Res Abort α

/-! ### The environment -/

/-- What does not change: the configuration, the key pairs, and the functions of other
crates.  `sqliteFails` says whether statements of SQLite can fail. -/
structure Env where
  config : ServerConfig
  signer : ServerSigner
  poseidonHashMany : List Felt → Felt
  curve : Curve
  keccak256 : List UInt8 → List UInt8
  decodeBase64 : String → Except String (List UInt8)
  sqliteFails : Prop

/-- The operation lock of the signer. -/
inductive LockState where
  | free
  | held
  | poisoned
  deriving DecidableEq

/-- What the calls share. -/
structure Shared where
  nullifiers : NullifierTable
  signerState : SignerTable
  operationLock : LockState
  nextIndex : SignerTree → U32

/-- The state of a server that has just started on a database. -/
def Shared.started (nullifiers : NullifierTable) (signerState : SignerTable) : Shared where
  nullifiers := nullifiers
  signerState := signerState
  operationLock := .free
  nextIndex _ := 0

/-- `run_server` builds the signer of the environment on the database. -/
def Env.Boots (env : Env) (before after : SignerTable) : Prop :=
  ServerSigner.withHeightDurable env.poseidonHashMany (feltToField env.config.stateSeed)
    (feltToField env.config.clearSeed) env.config.epoch env.config.xmssHeight before
      = .ok (env.signer, after)

/-! ### Steps -/

/-- A statement of SQLite takes effect, or it fails, before or after it took effect. -/
inductive Statement {ρ τ : Type} (fails : Prop) (before : τ) (effect : Except ServerError ρ × τ) :
    Except ServerError ρ → τ → Prop
  | done : Statement fails before effect effect.1 effect.2
  | early (text : String) : fails → Statement fails before effect (.error (.database text)) before
  | late (text : String) : fails → Statement fails before effect (.error (.database text)) effect.2

/-- The accesses and what they do. -/
def exec (env : Env) (s : Shared) : (op : Op) → op.Res → Shared → Prop
  | .currentRoot, _, s' => s' = s
  | .currentTimestamp, _, s' => s' = s
  | .verifyArtifact _ _, _, s' => s' = s
  | .execute _ _ _, _, s' => s' = s
  | .lookupByNullifier nullifier, r, s' =>
      s' = s ∧ (r = s.nullifiers.lookupByNullifier nullifier ∨ env.sqliteFails ∧ r = .ok none)
  | .reserve nullifier clientRequestId payloadHash, r, s' =>
      ∃ now table, s' = { s with nullifiers := table }
        ∧ Statement env.sqliteFails s.nullifiers
          (s.nullifiers.reserve nullifier clientRequestId payloadHash now) r table
  | .finalize nullifier transcript, r, s' =>
      ∃ now table, s' = { s with nullifiers := table }
        ∧ Statement env.sqliteFails s.nullifiers
          (s.nullifiers.finalize nullifier transcript now) r table
  | .reserveClearance nullifier, r, s' =>
      ∃ now table, s' = { s with nullifiers := table }
        ∧ Statement env.sqliteFails s.nullifiers
          (s.nullifiers.reserveClearance nullifier now) r table
  | .lockOperation, r, s' =>
      (s.operationLock = .free ∧ r = true ∧ s' = { s with operationLock := .held })
        ∨ (s.operationLock = .poisoned ∧ r = false ∧ s' = s)
  | .unlockOperation panicking, _, s' =>
      s' = { s with operationLock := if panicking then .poisoned else .free }
  | .reserveLeaf tree epoch root capacity, r, s' =>
      ∃ table, s' = { s with signerState := table }
        ∧ Statement env.sqliteFails s.signerState
          (s.signerState.reserveLeaf tree epoch root capacity) r table
  | .signReserved tree index message, r, s' =>
      let signed := (env.signer.keypair tree).signReserved env.poseidonHashMany (s.nextIndex tree)
        index message
      r = signed.1 ∧ s' = { s with nextIndex := Function.update s.nextIndex tree signed.2 }

/-- A restart of the server on its database. -/
def restart (env : Env) (s s' : Shared) : Prop :=
  ∃ signerState, env.Boots s.signerState signerState
    ∧ s' = Shared.started s.nullifiers signerState

/-- The server, running calls of a kind. -/
def system {κ α : Type} (env : Env) (program : κ → Program Op Op.Res α) :
    System Op Op.Res Shared κ α where
  program := program
  exec := exec env
  restart := restart env

/-! ### Programs -/

/-- A single access. -/
def call (op : Op) : Handler op.Res :=
  attempt op

/-- An error if the condition holds. -/
def rejectIf (condition : Prop) [Decidable condition] (e : ServerError) : Handler Unit :=
  if condition then throw (.error e) else pure ()

/-- The result of a statement. -/
def orError {α : Type} : Except ServerError α → Handler α
  | .ok a => pure a
  | .error e => throw (.error e)

/-- A value, or the end of the call. -/
def fromExcept {α : Type} (result : Except Abort α) : Handler α :=
  ExceptT.mk (pure result)

/-- A value whose absence is a panic. -/
def orPanic {α ε : Type} : Except ε α → Handler α
  | .ok a => pure a
  | .error _ => throw .panic

/-! ### Rules -/

section

variable {κ α β ε : Type} {env : Env} {program : κ → Program Op Op.Res α}
  {P : Protocol Op Op.Res Shared κ α} {t : ℕ} {v : View Op Op.Res Shared κ α}

/-- A statement relates the states before and after, if its effect does. -/
theorem Statement.rel {ρ τ : Type} {fails : Prop} {before after : τ}
    {effect : Except ServerError ρ × τ} {r : Except ServerError ρ} {R : τ → τ → Prop}
    (h : Statement fails before effect r after) (hrefl : R before before)
    (heffect : R effect.2 before) :
  R after before
  := by
  cases h with
  | done => apply heffect
  | early => apply hrefl
  | late => apply heffect

/-- A statement that does not fail returns the result of its effect. -/
theorem Statement.of_eq {ρ τ : Type} {fails : Prop} {before : τ} {effect : Except ServerError ρ × τ}
    {r : Except ServerError ρ} (h : effect.1 = r) :
  Statement fails before effect r effect.2
  := h ▸ .done

/-- A statement that did not fail had its effect. -/
theorem Statement.eq_of_ok {ρ τ : Type} {fails : Prop} {before after : τ}
    {effect : Except ServerError ρ × τ} {a : ρ}
    (h : Statement fails before effect (.ok a) after) :
  effect.1 = .ok a ∧ after = effect.2
  := by
  generalize hr : (Except.ok a : Except ServerError ρ) = r at h
  cases h with
  | done => exact ⟨rfl, rfl⟩
  | early => cases hr
  | late => cases hr

theorem wp_orPanic {r : Except ε β} {Q : Except Abort β → View Op Op.Res Shared κ α → Prop}
    (h : ∀ w, P.Rely t v w → Q (r.mapError fun _ => .panic) w) :
  wp (system env program) P t (orPanic r).run Q v
  := by
  cases r with
  | ok b => apply wp_run_pure h
  | error e => apply wp_run_throw h

theorem wp_rejectIf {condition : Prop} [Decidable condition] {e : ServerError}
    {Q : Except Abort Unit → View Op Op.Res Shared κ α → Prop}
    (hreject : ∀ w, P.Rely t v w → Q (.error (.error e)) w)
    (h : ¬ condition → ∀ w, P.Rely t v w → Q (.ok ()) w) :
  wp (system env program) P t (rejectIf condition e).run Q v
  := by
  rw [rejectIf]
  split
  case isTrue => apply wp_run_throw hreject
  case isFalse hcondition => apply wp_run_pure (h hcondition)

end

/-! ### Signing -/

/-- The thread is panicking. -/
def panicking {α : Type} : Except Abort α → Bool
  | .error .panic => true
  | .error (.error _) => false
  | .ok _ => false

/-- The rest of a call under the operation lock.  A panic under the lock poisons it. -/
def underLock {α : Type} (body : Handler α) : Handler α :=
  ExceptT.mk do
    let result ← body.run
    let _ ← perform (Op.unlockOperation (panicking result))
    pure result

def LOCK_POISONED : ServerError :=
  .internal "signer operation lock poisoned: poisoned lock: another task failed inside"

/-- A body that takes the operation lock first. -/
def withOperationLock {α : Type} (body : Handler α) : Handler α := do
  let locked : Bool ← call .lockOperation
  if locked then underLock body else throw (.error LOCK_POISONED)

section

variable {κ α β : Type} {env : Env} {program : κ → Program Op Op.Res α}
  {P : Protocol Op Op.Res Shared κ α} {t : ℕ} {v : View Op Op.Res Shared κ α}
  {body : Handler β} {Q : Except Abort β → View Op Op.Res Shared κ α → Prop}

end

/-- Reserve a leaf of a tree, build the message from its index, and sign it. -/
def signLeaf (signer : ServerSigner) (tree : SignerTree)
    (buildMessage : U32 → Except Abort Felt252) : Handler (XmssSignature × U32 × Felt252) :=
  withOperationLock do
    let reserved : Except ServerError U32 ←
      call (.reserveLeaf tree (signer.treeEpoch tree) (signer.root tree) (signer.capacity tree))
    let leafIndex ← orError reserved
    let message ← fromExcept (buildMessage leafIndex)
    let sig : Option XmssSignature ← call (.signReserved tree leafIndex message)
    match sig with
    | none => throw (.error .capacityExhausted)
    | some sig => pure ({ sig with epoch := signer.treeEpoch tree }, leafIndex, message)

/-- `sign_state`. -/
def signState (signer : ServerSigner) (message : Felt252) : Handler (XmssSignature × U32) := do
  let (sig, leafIndex, _) ← signLeaf signer .state fun _ => .ok message
  pure (sig, leafIndex)

/-- `sign_next_state`. -/
def signNextState (signer : ServerSigner) (buildMessage : U32 → Except Abort Felt252) :
    Handler (XmssSignature × U32 × Felt252) :=
  signLeaf signer .state buildMessage

/-- `sign_clearance`. -/
def signClearance (signer : ServerSigner) (message : Felt252) : Handler (XmssSignature × U32) := do
  let (sig, leafIndex, _) ← signLeaf signer .clear fun _ => .ok message
  pure (sig, leafIndex)

end ZkApi.Server
