import ZkApi.Poseidon.Bn254Poseidon

/-!
# The data of the vault

The data types of the Solidity sources, the ways in which a call reverts, checked
arithmetic, and the two libraries that hash leaves and paths.  A `uint` of `n` bits is a
bit vector, `bytes32` and field elements are words of 256 bits, and a call that reverts is
an `Except` in its error.
-/

namespace ZkApi.Vault

/-- The custom errors of `Errors.sol` that the vault raises, a failed token transfer, and
the panic of checked arithmetic. -/
inductive Revert where
  | invalidNativeValue
  | nativeTransferFailed
  | invalidProof
  | staleRoot
  | replayedNullifier
  | noteNotActive
  | noteNotExpired
  | invalidCommitment
  | invalidBalance
  | challengeExpired
  | challengeNotExpired
  | notPendingWithdrawal
  | invalidDeploymentBinding
  | zeroAmount
  | paused
  | unauthorized
  | invalidFelt
  | tokenTransferFailed
  | panic
  | nonPayable
  deriving DecidableEq

/-- The status of a note. -/
inductive NoteStatus where
  | uninitialized
  | active
  | pendingWithdrawal
  | closed
  deriving DecidableEq

/-- The record of a note. -/
structure Note where
  commitment : U256
  depositAmount : U128
  expiryTs : U64
  status : NoteStatus
  deriving DecidableEq

/-- The record of a withdrawal that can be challenged; `present` is its field `exists`. -/
structure PendingWithdrawalData where
  present : Bool
  activeRoot : U256
  withdrawalNullifier : U256
  finalBalance : U128
  destination : Address
  challengeDeadline : U64
  deriving DecidableEq

/-- The public inputs of a request, in the order of the circuit. -/
structure RequestPublicInputs where
  protocolVersion : U16
  chainId : U64
  contractAddress : Address
  activeRoot : U256
  stateSigningKeyX : U256
  stateSigningKeyY : U256
  requestTime : U64
  solvencyBound : U128
  requestNullifier : U256
  authorizationTag : U256
  anonymousCommitmentX : U256
  anonymousCommitmentY : U256
  deriving DecidableEq

/-- The public inputs of a withdrawal, in the order of the circuit. -/
structure WithdrawalPublicInputs where
  protocolVersion : U16
  chainId : U64
  contractAddress : Address
  activeRoot : U256
  stateSigningKeyX : U256
  stateSigningKeyY : U256
  clearanceSigningKeyX : U256
  clearanceSigningKeyY : U256
  noteId : U32
  finalBalance : U128
  destination : Address
  withdrawalNullifier : U256
  hasClearance : Bool
  withdrawalTag : U256
  deriving DecidableEq

/-- An entry of the mapping of notes that was never written. -/
def Note.empty : Note where
  commitment := 0
  depositAmount := 0
  expiryTs := 0
  status := .uninitialized

/-- An entry of the mapping of withdrawals that was never written, or was deleted. -/
def PendingWithdrawalData.empty : PendingWithdrawalData where
  present := false
  activeRoot := 0
  withdrawalNullifier := 0
  finalBalance := 0
  destination := 0
  challengeDeadline := 0

/-! ### Checks -/

/-- Revert when a condition holds. -/
def revertIf (c : Prop) [Decidable c] (e : Revert) : Except Revert Unit :=
  if c then .error e else .ok ()

/-- Addition that panics on overflow. -/
def checkedAdd {w : ℕ} (a b : BitVec w) : Except Revert (BitVec w) :=
  if a.toNat + b.toNat < 2 ^ w then .ok (a + b) else .error .panic

/-- Subtraction that panics on underflow. -/
def checkedSub {w : ℕ} (a b : BitVec w) : Except Revert (BitVec w) :=
  if b.toNat ≤ a.toNat then .ok (a - b) else .error .panic

/-- Multiplication that panics on overflow. -/
def checkedMul {w : ℕ} (a b : BitVec w) : Except Revert (BitVec w) :=
  if a.toNat * b.toNat < 2 ^ w then .ok (a * b) else .error .panic

section

variable {α β : Type} {w : ℕ}

theorem bind_eq_ok {x : Except Revert α} {f : α → Except Revert β} {r : β} :
  (x >>= f) = .ok r ↔ ∃ a, x = .ok a ∧ f a = .ok r
  := by
  cases x with
  | error e => simp [bind, Except.bind]
  | ok a => simp [bind, Except.bind]

theorem pure_eq_ok {a r : α} :
  (pure a : Except Revert α) = .ok r ↔ a = r
  := by
  simp [pure, Except.pure]

theorem revertIf_eq_ok {c : Prop} [Decidable c] {e : Revert} {u : Unit} :
  revertIf c e = .ok u ↔ ¬ c
  := by
  unfold revertIf
  split <;> simp [*]

theorem checkedAdd_eq_ok {a b c : BitVec w} :
  checkedAdd a b = .ok c ↔ a.toNat + b.toNat < 2 ^ w ∧ a + b = c
  := by
  unfold checkedAdd
  split <;> simp [*]

theorem checkedSub_eq_ok {a b c : BitVec w} :
  checkedSub a b = .ok c ↔ b.toNat ≤ a.toNat ∧ a - b = c
  := by
  unfold checkedSub
  split <;> simp [*]

theorem checkedMul_eq_ok {a b c : BitVec w} :
  checkedMul a b = .ok c ↔ a.toNat * b.toNat < 2 ^ w ∧ a * b = c
  := by
  unfold checkedMul
  split <;> simp [*]

end

/-! ### Leaves and paths -/

namespace NoteLeafLib

/-- The domain of leaves, the label `zkapi.v2.leaf`. -/
def DOMAIN_LEAF : U256 := 0x7a6b6170692e76322e6c656166

/-- The leaf of a note. -/
def computeLeaf (noteId : U32) (commitment : U256) (depositAmount : U128) (expiryTs : U64) :
    U256 :=
  Bn254Poseidon.hash5 DOMAIN_LEAF (noteId.setWidth 256) commitment
    (depositAmount.setWidth 256) (expiryTs.setWidth 256)

end NoteLeafLib

namespace MerkleUpdateLib

/-- The depth of the tree of notes. -/
def MERKLE_DEPTH : ℕ := 32

/-- The domain of inner nodes, the label `zkapi.v2.node`. -/
def DOMAIN_NODE : U256 := 0x7a6b6170692e76322e6e6f6465

/-- The hash of two children. -/
def poseidonNodeHash (left right : U256) : U256 :=
  Bn254Poseidon.hash3 DOMAIN_NODE left right

/-- The root that a leaf and its siblings lead to. -/
def computeRoot (index : U32) (leaf : U256) (siblings : Fin 32 → U256) : U256 :=
  (List.finRange 32).foldl
    (fun root level =>
      if (index >>> level.val) &&& 1 = 0 then poseidonNodeHash root (siblings level)
      else poseidonNodeHash (siblings level) root)
    leaf

/-- The root that replacing a leaf leads to, when the old leaf leads to the current root
along the same siblings. -/
def verifyAndUpdate (currentRoot : U256) (index : U32) (oldLeaf newLeaf : U256)
    (siblings : Fin 32 → U256) : Except Revert U256 := do
  let (computedOldRoot, newRoot) :=
    Bn254Poseidon.hash3PairPath32 DOMAIN_NODE index oldLeaf newLeaf siblings
  revertIf (computedOldRoot ≠ currentRoot) .staleRoot
  return newRoot

end MerkleUpdateLib

end ZkApi.Vault
