import ZkApi.Library.Run
import ZkApi.Vault.Types

/-!
# The vault contract

The constructor and the external functions of `ZkApiVault`, each a function from the state
before the call to the state after it, the transfers it sent and the event it emitted, or to
the error it reverts with.

The state is that of the contract's storage, in two parts, and the amount of the billing
asset that the contract holds.  The functions that move money are not reentrant, so that
the only code of the vault that can run while a transfer is in progress is the
administration, which touches neither the notes nor the root.  What the recipient of a
transfer does is a part of the environment of the call (`Reply`): whether the transfer is
accepted, which administrative calls are made in the meantime, and what is donated to the
contract.  The proof adapter is an arbitrary predicate.
-/

namespace ZkApi.Vault

/-! ### The state -/

/-- The proof of a call, a string of bytes. -/
abbrev Bytes : Type := List (BitVec 8)

/-- The verifier of proofs: whether `assertValidRequest` and `assertValidWithdrawal`
return. -/
structure ProofAdapter where
  assertValidRequest : RequestPublicInputs → Bytes → Bool
  assertValidWithdrawal : WithdrawalPublicInputs → Bytes → Bool

/-- The address and the immutables of a deployed vault. -/
structure Deployment where
  address : Address
  billingToken : Address
  nativeAssetWeiPerUnit : U256
  noteTtl : U64
  challengePeriod : U64
  requestChargeCap : U128
  proofAdapter : ProofAdapter
  stateSigningKeyX : U256
  stateSigningKeyY : U256
  clearanceSigningKeyX : U256
  clearanceSigningKeyY : U256

/-- The part of the storage that the owner administers. -/
structure Admin where
  owner : Address
  treasury : Address
  paused : Bool
  deriving DecidableEq

/-- The part of the storage that holds the notes. -/
structure Ledger where
  currentRoot : U256
  nextNoteId : U32
  notes : U32 → Note
  pendingWithdrawals : U32 → PendingWithdrawalData
  usedNullifiers : U256 → Bool

/-- The state: the storage, the amount of the billing asset that the contract holds, in
units of the token or in wei, and the time of the last block. -/
structure World where
  admin : Admin
  ledger : Ledger
  held : ℕ
  now : U256

/-! ### The environment of a call -/

/-- The administrative functions, which are not guarded against reentrancy. -/
inductive AdminCall where
  | setTreasury (newTreasury : Address)
  | pause
  | unpause
  deriving DecidableEq

/-- What the recipient of a transfer does: whether it accepts the transfer, the
administrative calls that it makes or causes, with their senders, and the amount that it
donates to the contract. -/
structure Reply where
  success : Bool
  nested : List (Address × AdminCall)
  donation : ℕ

/-- The environment of a call: the block, the message, and the replies to the transfers
that the call makes, in their order. -/
structure Env where
  timestamp : U256
  chainid : U256
  sender : Address
  value : U256
  reply : ℕ → Reply

/-- A transfer of the billing asset to an account. -/
structure Transfer where
  destination : Address
  amount : U128
  deriving DecidableEq

/-- The events. -/
inductive Event where
  | noteDeposited (noteId : U32) (commitment : U256) (amount : U128) (expiryTs : U64)
      (newRoot : U256)
  | mutualClose (noteId : U32) (nullifier : U256) (finalBalance : U128)
      (destination : Address)
  | escapeWithdrawalInitiated (noteId : U32) (nullifier : U256) (finalBalance : U128)
      (destination : Address) (challengeDeadline : U64) (newRoot : U256)
  | escapeWithdrawalChallenged (noteId : U32) (nullifier : U256) (restoredRoot : U256)
  | escapeWithdrawalFinalized (noteId : U32) (nullifier : U256) (finalBalance : U128)
      (destination : Address)
  | expiredClaimed (noteId : U32) (depositAmount : U128) (newRoot : U256)
  | treasurySet (newTreasury : Address)
  deriving DecidableEq

/-- The outcome of a call that does not revert. -/
structure Receipt where
  world : World
  sent : List Transfer
  events : List Event

/-! ### Constants -/

def PROTOCOL_VERSION : U16 := 2

/-- One day. -/
def EXPIRY_BUCKET : U256 := 86400

def MAX_NATIVE_UNITS : U128 := 9007199254740991

/-- One gwei. -/
def gwei : U256 := 1000000000

/-! ### Administration -/

/-- The modifier `onlyOwner`; the error of the ownership library is also `unauthorized`. -/
def onlyOwner (sender : Address) (a : Admin) : Except Revert Unit :=
  revertIf (sender ≠ a.owner) .unauthorized

/-- `setTreasury`, `pause` and `unpause`. -/
def administer (sender : Address) (a : Admin) : AdminCall → Except Revert Admin
  | .setTreasury newTreasury => do
      onlyOwner sender a
      revertIf (newTreasury = 0) .unauthorized
      return { a with treasury := newTreasury }
  | .pause => do
      onlyOwner sender a
      return { a with paused := true }
  | .unpause => do
      onlyOwner sender a
      return { a with paused := false }

/-- The events of an administrative call. -/
def administerEvents : AdminCall → List Event
  | .setTreasury newTreasury => [.treasurySet newTreasury]
  | .pause => []
  | .unpause => []

/-- The administrative calls made during a transfer.  One that reverts has no effect. -/
def runNested (a : Admin) (nested : List (Address × AdminCall)) : Admin :=
  nested.foldl (fun a call => (administer call.1 a call.2).toOption.getD a) a

/-! ### Transfers -/

/-- The vault bills in the native asset. -/
def Deployment.isNative (v : Deployment) : Prop :=
  v.nativeAssetWeiPerUnit ≠ 0

instance (v : Deployment) : Decidable v.isNative :=
  inferInstanceAs (Decidable (v.nativeAssetWeiPerUnit ≠ 0))

/-- A transfer that the recipient lets through.  The vault has no function that receives
the native asset without a call of `deposit`, so it cannot be its own recipient. -/
def Deployment.accepts (v : Deployment) (destination : Address) (reply : Reply) : Prop :=
  reply.success = true ∧ (v.isNative → destination ≠ v.address)

instance (v : Deployment) (destination : Address) (reply : Reply) :
    Decidable (v.accepts destination reply) :=
  inferInstanceAs (Decidable (_ ∧ _))

/-- The state after an amount has left the vault. -/
def World.afterTransfer (w : World) (v : Deployment) (destination : Address) (amount : ℕ)
    (reply : Reply) : World :=
  { w with
    admin := runNested w.admin reply.nested
    held := (if destination = v.address then w.held else w.held - amount) + reply.donation }

/-- `_transfer`: send an amount of the billing asset. -/
def transfer (v : Deployment) (w : World) (destination : Address) (amount : U128)
    (reply : Reply) : Except Revert World := do
  if v.isNative then
    let value ← checkedMul (amount.setWidth 256) v.nativeAssetWeiPerUnit
    revertIf (¬ (v.accepts destination reply ∧ value.toNat ≤ w.held)) .nativeTransferFailed
    return w.afterTransfer v destination value.toNat reply
  else
    revertIf (¬ (v.accepts destination reply ∧ amount.toNat ≤ w.held)) .tokenTransferFailed
    return w.afterTransfer v destination amount.toNat reply

/-- `_transfer` when the amount is not zero, with what was sent. -/
def transferNonzero (v : Deployment) (w : World) (destination : Address) (amount : U128)
    (reply : Reply) : Except Revert (World × List Transfer) :=
  if amount ≠ 0 then do
    let w ← transfer v w destination amount reply
    return (w, [{ destination, amount }])
  else
    .ok (w, [])

/-- `_pay`: send the balance to the destination and the rest to the treasury, which is read
after the first transfer. -/
def pay (v : Deployment) (env : Env) (w : World) (destination : Address)
    (balance operatorShare : U128) : Except Revert (World × List Transfer) := do
  let (w, sent) ← transferNonzero v w destination balance (env.reply 0)
  let (w, sent') ← transferNonzero v w w.admin.treasury operatorShare (env.reply 1)
  return (w, sent ++ sent')

/-- `safeTransferFrom` to the vault. -/
def transferFrom (w : World) (amount : U128) (reply : Reply) : Except Revert World := do
  revertIf (reply.success = false) .tokenTransferFailed
  return { w with
    admin := runNested w.admin reply.nested
    held := w.held + amount.toNat + reply.donation }

/-! ### Checks of the inputs -/

/-- `_requireField`. -/
def requireField (value : U256) : Except Revert Unit :=
  revertIf (fieldModulus ≤ value.toNat) .invalidFelt

/-- The modifier `whenNotPaused`. -/
def whenNotPaused (w : World) : Except Revert Unit :=
  revertIf (w.admin.paused = true) .paused

/-- The inputs of a request name another protocol, chain, contract or key. -/
def requestMismatch (v : Deployment) (env : Env) (inputs : RequestPublicInputs) : Prop :=
  inputs.protocolVersion ≠ PROTOCOL_VERSION
    ∨ inputs.chainId.setWidth 256 ≠ env.chainid
    ∨ inputs.contractAddress ≠ v.address
    ∨ inputs.stateSigningKeyX ≠ v.stateSigningKeyX
    ∨ inputs.stateSigningKeyY ≠ v.stateSigningKeyY

instance (v : Deployment) (env : Env) (inputs : RequestPublicInputs) :
    Decidable (requestMismatch v env inputs) :=
  inferInstanceAs (Decidable (_ ∨ _))

/-- `_validateRequestBinding`. -/
def validateRequestBinding (v : Deployment) (env : Env) (inputs : RequestPublicInputs) :
    Except Revert Unit :=
  revertIf (requestMismatch v env inputs) .invalidDeploymentBinding

/-- The inputs of a withdrawal name another protocol, chain, contract or key. -/
def withdrawalMismatch (v : Deployment) (env : Env) (inputs : WithdrawalPublicInputs) : Prop :=
  inputs.protocolVersion ≠ PROTOCOL_VERSION
    ∨ inputs.chainId.setWidth 256 ≠ env.chainid
    ∨ inputs.contractAddress ≠ v.address
    ∨ inputs.stateSigningKeyX ≠ v.stateSigningKeyX
    ∨ inputs.stateSigningKeyY ≠ v.stateSigningKeyY
    ∨ inputs.clearanceSigningKeyX ≠ v.clearanceSigningKeyX
    ∨ inputs.clearanceSigningKeyY ≠ v.clearanceSigningKeyY

instance (v : Deployment) (env : Env) (inputs : WithdrawalPublicInputs) :
    Decidable (withdrawalMismatch v env inputs) :=
  inferInstanceAs (Decidable (_ ∨ _))

/-- `_validateWithdrawalBinding`. -/
def validateWithdrawalBinding (v : Deployment) (env : Env) (inputs : WithdrawalPublicInputs) :
    Except Revert Unit :=
  revertIf (withdrawalMismatch v env inputs) .invalidDeploymentBinding

/-- The checks that a mutual close and an escape make first. -/
def checkWithdrawal (v : Deployment) (env : Env) (w : World) (hasClearance : Bool)
    (inputs : WithdrawalPublicInputs) (proof : Bytes) : Except Revert Unit := do
  whenNotPaused w
  validateWithdrawalBinding v env inputs
  revertIf (inputs.hasClearance ≠ hasClearance) .invalidDeploymentBinding
  revertIf (inputs.activeRoot ≠ w.ledger.currentRoot) .staleRoot
  revertIf (v.proofAdapter.assertValidWithdrawal inputs proof = false) .invalidProof

/-! ### Helpers on the ledger -/

/-- `_leaf`: the leaf of a note. -/
def leaf (noteId : U32) (note : Note) : U256 :=
  NoteLeafLib.computeLeaf noteId note.commitment note.depositAmount note.expiryTs

/-- `_consumeNullifier`. -/
def consumeNullifier (l : Ledger) (nullifier : U256) : Except Revert Ledger := do
  revertIf (l.usedNullifiers nullifier = true) .replayedNullifier
  return { l with usedNullifiers := Function.update l.usedNullifiers nullifier true }

/-- Write the status of a note. -/
def Ledger.setStatus (l : Ledger) (noteId : U32) (status : NoteStatus) : Ledger :=
  { l with notes := Function.update l.notes noteId { l.notes noteId with status } }

/-- Write the record of a pending withdrawal. -/
def Ledger.setPending (l : Ledger) (noteId : U32) (pending : PendingWithdrawalData) : Ledger :=
  { l with pendingWithdrawals := Function.update l.pendingWithdrawals noteId pending }

/-- `_computeEmptyTreeRoot`. -/
def computeEmptyTreeRoot : U256 :=
  (List.range MerkleUpdateLib.MERKLE_DEPTH).foldl
    (fun root _ => MerkleUpdateLib.poseidonNodeHash root root) 0

/-! ### The external functions -/

/-- The expiry of a note, rounded up to the next bucket. -/
def bucketedExpiry (v : Deployment) (env : Env) : Except Revert U64 := do
  let rawExpiry ← checkedAdd env.timestamp (v.noteTtl.setWidth 256)
  let sum ← checkedAdd rawExpiry EXPIRY_BUCKET
  let roundedUp ← checkedSub sum 1
  let bucketedExpiry ← checkedMul (roundedUp / EXPIRY_BUCKET) EXPIRY_BUCKET
  revertIf (2 ^ 64 ≤ bucketedExpiry.toNat) .invalidFelt
  return bucketedExpiry.setWidth 64

/-- The value that a deposit must carry. -/
def checkDepositValue (v : Deployment) (env : Env) (amount : U128) : Except Revert Unit :=
  if v.isNative then do
    revertIf (MAX_NATIVE_UNITS.toNat < amount.toNat) .invalidNativeValue
    let value ← checkedMul (amount.setWidth 256) v.nativeAssetWeiPerUnit
    revertIf (env.value ≠ value) .invalidNativeValue
  else
    revertIf (env.value ≠ 0) .invalidNativeValue

/-- `deposit`. -/
def deposit (v : Deployment) (env : Env) (w : World) (commitment : U256) (amount : U128)
    (siblings : Fin 32 → U256) : Except Revert Receipt := do
  whenNotPaused w
  checkDepositValue v env amount
  revertIf (amount = 0) .zeroAmount
  revertIf (commitment = 0) .invalidCommitment
  requireField commitment
  let noteId := w.ledger.nextNoteId
  let expiryTs ← bucketedExpiry v env
  let newLeaf := NoteLeafLib.computeLeaf noteId commitment amount expiryTs
  let newRoot ←
    MerkleUpdateLib.verifyAndUpdate w.ledger.currentRoot noteId 0 newLeaf siblings
  let nextNoteId ← checkedAdd noteId 1
  let w :=
    { w with
      ledger :=
        { w.ledger with
          currentRoot := newRoot
          notes := Function.update w.ledger.notes noteId
            { commitment, depositAmount := amount, expiryTs, status := .active }
          nextNoteId }
      held := w.held + env.value.toNat }
  let w ← if v.isNative then pure w else transferFrom w amount (env.reply 0)
  return {
    world := w
    sent := []
    events := [.noteDeposited noteId commitment amount expiryTs newRoot] }

/-- `_closeActive`. -/
def closeActive (v : Deployment) (env : Env) (w : World) (inputs : WithdrawalPublicInputs)
    (siblings : Fin 32 → U256) : Except Revert (World × List Transfer) := do
  let note := w.ledger.notes inputs.noteId
  revertIf (note.status ≠ .active) .noteNotActive
  revertIf (note.depositAmount.toNat < inputs.finalBalance.toNat) .invalidBalance
  let ledger ← consumeNullifier w.ledger inputs.withdrawalNullifier
  let newRoot ← MerkleUpdateLib.verifyAndUpdate ledger.currentRoot inputs.noteId
    (leaf inputs.noteId note) 0 siblings
  let operatorShare ← checkedSub note.depositAmount inputs.finalBalance
  let ledger := { ledger with currentRoot := newRoot }.setStatus inputs.noteId .closed
  pay v env { w with ledger } inputs.destination inputs.finalBalance operatorShare

/-- `mutualClose`. -/
def mutualClose (v : Deployment) (env : Env) (w : World) (inputs : WithdrawalPublicInputs)
    (proof : Bytes) (siblings : Fin 32 → U256) : Except Revert Receipt := do
  checkWithdrawal v env w true inputs proof
  let (w, sent) ← closeActive v env w inputs siblings
  return {
    world := w
    sent
    events := [.mutualClose inputs.noteId inputs.withdrawalNullifier inputs.finalBalance
      inputs.destination] }

/-- `initiateEscapeWithdrawal`. -/
def initiateEscapeWithdrawal (v : Deployment) (env : Env) (w : World)
    (inputs : WithdrawalPublicInputs) (proof : Bytes) (siblings : Fin 32 → U256) :
    Except Revert Receipt := do
  checkWithdrawal v env w false inputs proof
  let note := w.ledger.notes inputs.noteId
  revertIf (note.status ≠ .active) .noteNotActive
  revertIf (note.depositAmount.toNat < inputs.finalBalance.toNat) .invalidBalance
  let ledger ← consumeNullifier w.ledger inputs.withdrawalNullifier
  let oldRoot := ledger.currentRoot
  let newRoot ← MerkleUpdateLib.verifyAndUpdate oldRoot inputs.noteId
    (leaf inputs.noteId note) 0 siblings
  let deadline ← checkedAdd (env.timestamp.setWidth 64) v.challengePeriod
  let ledger :=
    ({ ledger with currentRoot := newRoot }.setStatus inputs.noteId .pendingWithdrawal).setPending
      inputs.noteId
      { present := true
        activeRoot := oldRoot
        withdrawalNullifier := inputs.withdrawalNullifier
        finalBalance := inputs.finalBalance
        destination := inputs.destination
        challengeDeadline := deadline }
  return {
    world := { w with ledger }
    sent := []
    events := [.escapeWithdrawalInitiated inputs.noteId inputs.withdrawalNullifier
      inputs.finalBalance inputs.destination deadline newRoot] }

/-- The note has no withdrawal that waits for its deadline. -/
def Ledger.notPending (l : Ledger) (noteId : U32) : Prop :=
  (l.notes noteId).status ≠ .pendingWithdrawal ∨ (l.pendingWithdrawals noteId).present = false

instance (l : Ledger) (noteId : U32) : Decidable (l.notPending noteId) :=
  inferInstanceAs (Decidable (_ ∨ _))

/-- `challengeEscapeWithdrawal`. -/
def challengeEscapeWithdrawal (v : Deployment) (env : Env) (w : World) (noteId : U32)
    (inputs : RequestPublicInputs) (proof : Bytes) (siblings : Fin 32 → U256) :
    Except Revert Receipt := do
  let note := w.ledger.notes noteId
  let pending := w.ledger.pendingWithdrawals noteId
  revertIf (w.ledger.notPending noteId) .notPendingWithdrawal
  revertIf (pending.challengeDeadline.toNat ≤ env.timestamp.toNat) .challengeExpired
  validateRequestBinding v env inputs
  revertIf (inputs.requestNullifier ≠ pending.withdrawalNullifier) .replayedNullifier
  revertIf (v.proofAdapter.assertValidRequest inputs proof = false) .invalidProof
  let restoredRoot ← MerkleUpdateLib.verifyAndUpdate w.ledger.currentRoot noteId 0
    (leaf noteId note) siblings
  let ledger :=
    ({ w.ledger with currentRoot := restoredRoot }.setStatus noteId .active).setPending noteId
      .empty
  return {
    world := { w with ledger }
    sent := []
    events := [.escapeWithdrawalChallenged noteId pending.withdrawalNullifier restoredRoot] }

/-- `finalizeEscapeWithdrawal`. -/
def finalizeEscapeWithdrawal (v : Deployment) (env : Env) (w : World) (noteId : U32) :
    Except Revert Receipt := do
  let note := w.ledger.notes noteId
  let pending := w.ledger.pendingWithdrawals noteId
  revertIf (w.ledger.notPending noteId) .notPendingWithdrawal
  revertIf (env.timestamp.toNat < pending.challengeDeadline.toNat) .challengeNotExpired
  let operatorShare ← checkedSub note.depositAmount pending.finalBalance
  let ledger := (w.ledger.setStatus noteId .closed).setPending noteId .empty
  let (w, sent) ←
    pay v env { w with ledger } pending.destination pending.finalBalance operatorShare
  return {
    world := w
    sent
    events := [.escapeWithdrawalFinalized noteId pending.withdrawalNullifier
      pending.finalBalance pending.destination] }

/-- `claimExpired`. -/
def claimExpired (v : Deployment) (env : Env) (w : World) (noteId : U32)
    (siblings : Fin 32 → U256) : Except Revert Receipt := do
  let note := w.ledger.notes noteId
  revertIf (note.status ≠ .active) .noteNotActive
  revertIf (env.timestamp.toNat < note.expiryTs.toNat) .noteNotExpired
  let newRoot ← MerkleUpdateLib.verifyAndUpdate w.ledger.currentRoot noteId
    (leaf noteId note) 0 siblings
  let ledger := { w.ledger with currentRoot := newRoot }.setStatus noteId .closed
  let destination := w.admin.treasury
  let w ← transfer v { w with ledger } destination note.depositAmount (env.reply 0)
  return {
    world := w
    sent := [{ destination, amount := note.depositAmount }]
    events := [.expiredClaimed noteId note.depositAmount newRoot] }

/-- A call of an external function, with its arguments. -/
inductive Call where
  | deposit (commitment : U256) (amount : U128) (siblings : Fin 32 → U256)
  | mutualClose (inputs : WithdrawalPublicInputs) (proof : Bytes) (siblings : Fin 32 → U256)
  | initiateEscapeWithdrawal (inputs : WithdrawalPublicInputs) (proof : Bytes)
      (siblings : Fin 32 → U256)
  | challengeEscapeWithdrawal (noteId : U32) (inputs : RequestPublicInputs) (proof : Bytes)
      (siblings : Fin 32 → U256)
  | finalizeEscapeWithdrawal (noteId : U32)
  | claimExpired (noteId : U32) (siblings : Fin 32 → U256)
  | administer (call : AdminCall)

/-- Only `deposit` is payable. -/
def nonPayable (env : Env) : Except Revert Unit :=
  revertIf (env.value ≠ 0) .nonPayable

/-- The outcome of a call. -/
def execute (v : Deployment) (env : Env) (w : World) : Call → Except Revert Receipt
  | .deposit commitment amount siblings => deposit v env w commitment amount siblings
  | .mutualClose inputs proof siblings => do
      nonPayable env
      mutualClose v env w inputs proof siblings
  | .initiateEscapeWithdrawal inputs proof siblings => do
      nonPayable env
      initiateEscapeWithdrawal v env w inputs proof siblings
  | .challengeEscapeWithdrawal noteId inputs proof siblings => do
      nonPayable env
      challengeEscapeWithdrawal v env w noteId inputs proof siblings
  | .finalizeEscapeWithdrawal noteId => do
      nonPayable env
      finalizeEscapeWithdrawal v env w noteId
  | .claimExpired noteId siblings => do
      nonPayable env
      claimExpired v env w noteId siblings
  | .administer call => do
      nonPayable env
      let admin ← administer env.sender w.admin call
      return { world := { w with admin }, sent := [], events := administerEvents call }

/-! ### The constructor -/

/-- The arguments of the constructor, with the proof adapter that the address given for it
stands for. -/
structure ConstructorArgs where
  billingToken : Address
  treasury : Address
  noteTtl : U64
  challengePeriod : U64
  requestChargeCap : U128
  proofAdapterAddress : Address
  proofAdapter : ProofAdapter
  stateSigningKeyX : U256
  stateSigningKeyY : U256
  clearanceSigningKeyX : U256
  clearanceSigningKeyY : U256
  owner : Address

/-- The constructor, for the address at which the vault is deployed.  The asset may have
been sent there before. -/
def construct (address : Address) (timestamp : U256) (held : ℕ) (args : ConstructorArgs) :
    Except Revert (Deployment × World) := do
  revertIf (args.owner = 0) .unauthorized
  revertIf (args.treasury = 0 ∨ args.proofAdapterAddress = 0 ∨ args.challengePeriod = 0)
    .unauthorized
  requireField args.stateSigningKeyX
  requireField args.stateSigningKeyY
  requireField args.clearanceSigningKeyX
  requireField args.clearanceSigningKeyY
  revertIf
    (args.stateSigningKeyX = 0 ∧ args.stateSigningKeyY = 0
      ∨ args.clearanceSigningKeyX = 0 ∧ args.clearanceSigningKeyY = 0)
    .invalidDeploymentBinding
  revertIf
    (args.billingToken = 0
      ∧ (args.requestChargeCap = 0
        ∨ MAX_NATIVE_UNITS.toNat < args.requestChargeCap.toNat))
    .invalidBalance
  return (
    { address
      billingToken := args.billingToken
      nativeAssetWeiPerUnit := if args.billingToken = 0 then gwei else 0
      noteTtl := args.noteTtl
      challengePeriod := args.challengePeriod
      requestChargeCap := args.requestChargeCap
      proofAdapter := args.proofAdapter
      stateSigningKeyX := args.stateSigningKeyX
      stateSigningKeyY := args.stateSigningKeyY
      clearanceSigningKeyX := args.clearanceSigningKeyX
      clearanceSigningKeyY := args.clearanceSigningKeyY },
    { admin := { owner := args.owner, treasury := args.treasury, paused := false }
      ledger :=
        { currentRoot := computeEmptyTreeRoot
          nextNoteId := 0
          notes := fun _ => .empty
          pendingWithdrawals := fun _ => .empty
          usedNullifiers := fun _ => false }
      held
      now := timestamp })

/-! ### Runs -/

/-- What happens to a vault: a call with its outcome, or a donation of the billing asset. -/
inductive Action where
  | call (env : Env) (call : Call) (receipt : Receipt)
  | donation (amount : ℕ)

/-- One step of the life of a vault.  A call that reverts leaves no trace; time does not go
back, and the vault does not call itself. -/
inductive Step (v : Deployment) (w : World) : Action → World → Prop
  | call {env : Env} {call : Call} {receipt : Receipt} :
      w.now.toNat ≤ env.timestamp.toNat → env.sender ≠ v.address →
      execute v env w call = .ok receipt →
      Step v w (.call env call receipt) { receipt.world with now := env.timestamp }
  | donation {amount : ℕ} :
      Step v w (.donation amount) { w with held := w.held + amount }

/-- A vault was constructed and then went through a list of actions. -/
def Reachable (v : Deployment) (actions : List Action) (w : World) : Prop :=
  ∃ address timestamp held args w₀,
    construct address timestamp held args = .ok (v, w₀) ∧ Run (Step v) w₀ actions w

end ZkApi.Vault
