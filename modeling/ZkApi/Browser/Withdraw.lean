import ZkApi.Browser.Address
import ZkApi.Browser.TreePath
import ZkApi.Client.Agreement
import ZkApi.Client.Withdraw

/-!
# Withdrawals of the browser

The browser prepares a withdrawal exactly when the native wallet would build it for the same
state, with the same public inputs (`withdrawals_agree`).  A snapshot of the tree with the root of
the vault has the leaves of the vault, whoever has sent it (`snapshot_authentic`), so that the
vault accepts an escape that the browser prepares from such a snapshot, for every state that the
operations of the browser lead to (`browser_escape_accepted`).
-/

namespace ZkApi.Browser

open ZkApi.Compact Client

/-! ### Operations -/

/-- `PrepareWithdrawalArgs`. -/
structure PrepareWithdrawalArgs where
  mode : String
  destination : String
  activeRoot : Felt252
  merkleSiblings : List Felt252
  clearance : Option ClearanceResponseV2

/-- `WithdrawalPlan`. -/
structure WithdrawalPlan where
  mode : String
  publicInputs : WithdrawalPublicInputsV2
  siblings : List Felt252
  proof : Groth16ProofWire

/-- `context`, which replaces the text of an error. -/
def context {α : Type} (x : Except Failure α) (text : String) : Except Failure α :=
  x.mapError fun
    | .message _ => .message text
    | .panic => .panic

/-- The address that twenty bytes stand for. -/
def addressOf (bytes : List ℕ) : Address :=
  BitVec.ofNat 160 (Nat.ofDigits 256 bytes.reverse)

/-- The mode of a withdrawal says whether it has a clearance. -/
def hasClearance (mode : String) : Except Failure Bool :=
  if mode = "mutual" then .ok true
  else if mode = "escape" then .ok false
  else bail "withdrawal mode must be mutual or escape"

/-- `withdrawal_nullifier`. -/
def withdrawalNullifier (state : BrowserNoteState) : Felt252 :=
  Core.nullifier state.secretS state.currentAnchor

/-- The signature of the clearance, which a mutual withdrawal has and an escape has not. -/
def clearanceSignature (config : BrowserWalletConfig) (state : BrowserNoteState)
    (hasClearance : Bool) (clearance : Option ClearanceResponseV2) :
    Except Failure (Option SchnorrSignature) :=
  if hasClearance then do
    let clearance ← okOrElse clearance "mutual withdrawal requires server clearance"
    failIf (clearance.withdrawalNullifier ≠ withdrawalNullifier state)
      (.message "clearance nullifier mismatch")
    let message := Core.clearanceMessage state.protocolVersion state.chainId
      state.contractAddress (withdrawalNullifier state)
    let valid ← verifySignature config.clearanceSigningKey message clearance.signature
    failIf (valid = false) (.message "invalid clearance signature")
    return some clearance.signature
  else do
    failIf (clearance.isSome = true) (.message "escape withdrawal must not include clearance")
    return none

/-- `prepare_withdrawal`, for the results of loading the proving key and of the Groth16
prover. -/
def prepareWithdrawal (config : BrowserWalletConfig) (state : BrowserNoteState)
    (args : PrepareWithdrawalArgs) (loaded : Except Failure Unit)
    (proved : Except Failure Groth16ProofWire) : Except Failure WithdrawalPlan := do
  validateState config state
  let hasClearance ← hasClearance args.mode
  let address ← parseAddress args.destination
  let destination := addressOf address
  let siblings ← siblingsArray args.merkleSiblings
  let nullifier := withdrawalNullifier state
  let clearanceSignature ← clearanceSignature config state hasClearance args.clearance
  let publicInputs : WithdrawalPublicInputsV2 := {
    protocolVersion := state.protocolVersion
    chainId := state.chainId
    contractAddress := state.contractAddress
    activeRoot := args.activeRoot
    stateSigningKeyX := config.stateSigningKey.x
    stateSigningKeyY := config.stateSigningKey.y
    clearanceSigningKeyX := config.clearanceSigningKey.x
    clearanceSigningKeyY := config.clearanceSigningKey.y
    noteId := state.noteId
    finalBalance := state.currentBalance
    destination
    withdrawalNullifier := nullifier
    hasClearance
    withdrawalTag := Core.withdrawalTag nullifier (destination.setWidth 256) state.currentBalance
      hasClearance }
  loaded
  let finalBlinding ← parseScalar state.balanceBlinding
  let witness : WithdrawalWitnessData := {
    secret := state.secretS
    depositAmount := state.depositAmount
    expiry := state.expiryTs
    merkleSiblings := siblings
    finalBlinding
    currentAnchor := state.currentAnchor
    isGenesis := state.isGenesis
    stateSignature := state.stateSignature
    clearanceSignature }
  let proof ← context (proveWithdrawal publicInputs witness proved) "generate withdrawal proof"
  return { mode := args.mode, publicInputs, siblings := args.merkleSiblings, proof }

/-! ### Agreement with the native wallet -/

theorem context_eq_ok {α : Type} {x : Except Failure α} {text : String} {a : α} :
  context x text = .ok a ↔ x = .ok a
  := by
  cases x <;> simp [context, Except.mapError]

theorem hasClearance_eq_ok {mode : String} {b : Bool} :
  hasClearance mode = .ok b ↔ mode = if b then "mutual" else "escape"
  := by
  rw [hasClearance]
  split
  · next h =>
    rw [h]
    cases b <;> simp
  · next hmutual =>
    split
    · next h =>
      rw [h]
      cases b <;> simp
    · next hescape => cases b <;> simp [bail, hmutual, hescape]

theorem siblingsArray_eq_ok {values : List Felt252} {siblings : Fin 32 → Felt252} :
  siblingsArray values = .ok siblings ↔ tryIntoArray values = some siblings
  := by
  rw [siblingsArray]
  cases tryIntoArray values <;> simp [bail]

theorem native_siblingsArray_eq_ok {values : List Felt252} {siblings : Fin 32 → Felt252} :
  Client.siblingsArray values = .ok siblings ↔ tryIntoArray values = some siblings
  := by
  rw [Client.siblingsArray]
  cases tryIntoArray values <;> simp

section

variable {config : ClientConfig} {browser : BrowserWalletConfig} {state : BrowserNoteState}
  {args : PrepareWithdrawalArgs} {loaded : Except Failure Unit}
  {proved : Except Failure Groth16ProofWire} {plan : WithdrawalPlan}

/-- The browser prepares what the native wallet builds, once it has an address and a clearance. -/
theorem prepareWithdrawal_eq_ok (hdeployment : SameDeployment config browser) :
  prepareWithdrawal browser state args loaded proved = .ok plan
    ↔ validateState browser state = .ok () ∧ ∃ hasClearance address signature,
      args.mode = (if hasClearance then "mutual" else "escape")
        ∧ parseAddress args.destination = .ok address
        ∧ clearanceSignature browser state hasClearance args.clearance = .ok signature
        ∧ plan.mode = args.mode ∧ plan.siblings = args.merkleSiblings
        ∧ buildWithdrawal config (some state) (addressOf address) args.activeRoot
            args.merkleSiblings hasClearance signature loaded proved
          = .ok (plan.publicInputs, plan.proof)
  := by
  simp only [prepareWithdrawal, buildWithdrawal, bind_eq_ok, hasClearance_eq_ok,
    siblingsArray_eq_ok, native_siblingsArray_eq_ok, mapErr_eq_ok, okOr_eq_ok, parseScalar_eq_ok,
    Client.parseScalar_eq_ok, context_eq_ok, pure, Except.pure, Except.ok.injEq, Prod.mk.injEq,
    Option.some.injEq, exists_eq_left', withdrawalPublicInputs, withdrawalWitnessData,
    hdeployment.stateSigningKey, hdeployment.clearanceSigningKey]
  constructor
  · rintro ⟨⟨⟩, hstate, b, hmode, address, haddress, siblings, hsiblings, signature, hsignature,
      ⟨⟩, hloaded, blinding, hblinding, wire, hproof, rfl⟩
    exact ⟨hstate, b, address, signature, hmode, haddress, hsignature, rfl, rfl, (), hloaded,
      siblings, hsiblings, blinding, hblinding, wire, hproof, rfl, rfl⟩
  · rintro ⟨hstate, b, address, signature, hmode, haddress, hsignature, hsame, hpath, ⟨⟩, hloaded,
      siblings, hsiblings, blinding, hblinding, wire, hproof, hpub, rfl⟩
    refine ⟨(), hstate, b, hmode, address, haddress, siblings, hsiblings, signature, hsignature,
      (), hloaded, blinding, hblinding, plan.proof, hproof, ?_⟩
    obtain ⟨mode, publicInputs, path, proof⟩ := plan
    obtain rfl := hpub
    obtain rfl : mode = args.mode := hsame
    obtain rfl : path = args.merkleSiblings := hpath
    rfl

theorem clearanceSignature_mutual {clearance : Option ClearanceResponseV2}
    {signature : Option SchnorrSignature} :
  clearanceSignature browser state true clearance = .ok signature
    ↔ ∃ cleared, clearance = some cleared ∧ cleared.withdrawalNullifier = state.nullifier
      ∧ verifySignature browser.clearanceSigningKey state.clearanceMessage cleared.signature
        = .ok true
      ∧ some cleared.signature = signature
  := by
  simp only [clearanceSignature, if_true, bind_eq_ok, okOrElse_eq_ok, failIf_eq_ok, not_not,
    Bool.not_eq_false, exists_const, pure, Except.pure, Except.ok.injEq]
  constructor
  · rintro ⟨cleared, hsome, hnullifier, _, hverify, rfl, hsignature⟩
    exact ⟨cleared, hsome, hnullifier, hverify, hsignature⟩
  · rintro ⟨cleared, hsome, hnullifier, hverify, hsignature⟩
    exact ⟨cleared, hsome, hnullifier, true, hverify, rfl, hsignature⟩

theorem clearanceSignature_escape {clearance : Option ClearanceResponseV2}
    {signature : Option SchnorrSignature} :
  clearanceSignature browser state false clearance = .ok signature
    ↔ clearance = none ∧ none = signature
  := by
  simp only [clearanceSignature, Bool.false_eq_true, if_false, bind_eq_ok, failIf_eq_ok,
    exists_const, pure, Except.pure, Except.ok.injEq, Option.not_isSome_iff_eq_none]

/-- A mutual close goes through with a clearance whose signature is verified, whatever nullifier
the clearance names. -/
theorem withdrawalMutualClose_eq_ok {cleared : ClearanceResponseV2} {destination : Address}
    {activeRoot : Felt252} {merkleSiblings : List Felt252}
    {result : WithdrawalPublicInputsV2 × Groth16ProofWire} :
  withdrawalMutualClose config (some state) destination activeRoot merkleSiblings (.ok cleared)
      loaded proved
    = .ok result
    ↔ verifySignature config.clearanceSigningKey state.clearanceMessage cleared.signature = .ok true
      ∧ buildWithdrawal config (some state) destination activeRoot merkleSiblings true
          (some cleared.signature) loaded proved
        = .ok result
  := by
  have hcleared : ∀ c : ClearanceResponseV2,
      (Except.ok cleared).mapError Abort.error = .ok c ↔ cleared = c := by
    intro c
    simp [Except.mapError]
  simp only [withdrawalMutualClose, bind_eq_ok, okOr_eq_ok, mapErr_eq_ok, failIf_eq_ok, hcleared,
    Option.some.injEq, exists_eq_left', exists_const, Bool.not_eq_false]
  constructor
  · rintro ⟨_, hverify, rfl, hbuild⟩
    exact ⟨hverify, hbuild⟩
  · rintro ⟨hverify, hbuild⟩
    exact ⟨true, hverify, rfl, hbuild⟩

/-- For a state of its deployment the browser prepares exactly the withdrawals that the native
wallet builds for the address that is parsed, with the same public inputs and proof: the mutual
close with a clearance that names the nullifier of the state, and the escape with no
clearance. -/
theorem withdrawals_agree (hdeployment : SameDeployment config browser)
    (hstate : validateState browser state = .ok ()) :
  prepareWithdrawal browser state args loaded proved = .ok plan
    ↔ plan.mode = args.mode ∧ plan.siblings = args.merkleSiblings
      ∧ ∃ address, parseAddress args.destination = .ok address
        ∧ ((args.mode = "mutual" ∧ ∃ cleared, args.clearance = some cleared
            ∧ cleared.withdrawalNullifier = state.nullifier
            ∧ withdrawalMutualClose config (some state) (addressOf address) args.activeRoot
                args.merkleSiblings (.ok cleared) loaded proved
              = .ok (plan.publicInputs, plan.proof))
          ∨ (args.mode = "escape" ∧ args.clearance = none
            ∧ withdrawalEscapeHatch config (some state) (addressOf address) args.activeRoot
                args.merkleSiblings loaded proved
              = .ok (plan.publicInputs, plan.proof)))
  := by
  rw [prepareWithdrawal_eq_ok hdeployment, and_iff_right hstate]
  constructor
  · rintro ⟨b, address, signature, hmode, haddress, hsignature, hsame, hpath, hbuild⟩
    refine ⟨hsame, hpath, address, haddress, ?_⟩
    cases b with
    | true =>
      obtain ⟨cleared, hsome, hnullifier, hverify, rfl⟩ := clearanceSignature_mutual.mp hsignature
      rw [← hdeployment.clearanceSigningKey] at hverify
      exact .inl ⟨hmode, cleared, hsome, hnullifier,
        withdrawalMutualClose_eq_ok.mpr ⟨hverify, hbuild⟩⟩
    | false =>
      obtain ⟨hnone, rfl⟩ := clearanceSignature_escape.mp hsignature
      exact .inr ⟨hmode, hnone, hbuild⟩
  · rintro ⟨hsame, hpath, address, haddress, h⟩
    rcases h with ⟨hmode, cleared, hsome, hnullifier, hclose⟩ | ⟨hmode, hnone, hbuild⟩
    · obtain ⟨hverify, hbuild⟩ := withdrawalMutualClose_eq_ok.mp hclose
      rw [hdeployment.clearanceSigningKey] at hverify
      exact ⟨true, address, _, hmode, haddress,
        clearanceSignature_mutual.mpr ⟨cleared, hsome, hnullifier, hverify, rfl⟩, hsame, hpath,
        hbuild⟩
    · exact ⟨false, address, _, hmode, haddress,
        clearanceSignature_escape.mpr ⟨hnone, rfl⟩, hsame, hpath, hbuild⟩

end

/-! ### Snapshots of the tree of a vault -/

section

open Vault (Deployment Reachable World CollisionFree hashedPairs leaves noteLeafAt siblingPath)
open SparseMerkle (children node)

/-- The pairs that are hashed in the tree of a snapshot, as field elements. -/
def snapshotPairs (snapshot : TreeSnapshot) : Set (Fr × Fr) :=
  { p | ∃ k < 32, ∃ j, p = children merkleNode (fun i => residue (padded snapshot.leaves i)) k j }

variable {v : Deployment} {actions : List Vault.Action} {w : World} {snapshot : TreeSnapshot}

/-- The leaves and the paths of a snapshot with the root of the vault are those of the vault. -/
theorem residue_padded (hreach : Reachable v actions w)
    (hcollision : CollisionFree ({ p | p ∈ hashedPairs v actions } ∪ snapshotPairs snapshot))
    (hroot : SparseMerkle.root Core.merkleNode 32 (padded snapshot.leaves) = w.ledger.currentRoot)
    (n : U32) :
  residue (padded snapshot.leaves n.toNat) = residue (noteLeafAt w.ledger n)
    ∧ (SparseMerkle.path Core.merkleNode (padded snapshot.leaves) n.toNat 32).map residue
      = (List.ofFn (siblingPath w.ledger n)).map residue
  := by
  have hres := Vault.residue_poseidonNodeHash
  have hrooted := hreach.rooted hcollision fun _ hp => .inl hp
  rw [hrooted.root_eq, Vault.treeRoot, Indexer.merkleNode_eq] at hroot
  have hroots := congrArg residue hroot
  rw [SparseMerkle.root, SparseMerkle.root, SparseMerkle.map_node hres,
    SparseMerkle.map_node hres] at hroots
  have hsnapshot : ∀ k < 32, ∀ j,
      children merkleNode (fun i => residue (padded snapshot.leaves i)) k j
        ∈ { p | p ∈ hashedPairs v actions } ∪ snapshotPairs snapshot :=
    fun k hk j => .inr ⟨k, hk, j, rfl⟩
  obtain ⟨hleaf, hpath⟩ := SparseMerkle.eq_of_root_eq merkleNode hcollision hsnapshot
    hrooted.children hroots n.isLt
  constructor
  · rw [hleaf, Vault.leaves_toNat]
  · rw [Vault.ofFn_siblingPath, Indexer.merkleNode_eq, SparseMerkle.map_path hres,
      SparseMerkle.map_path hres]
    exact hpath

/-- The vault replaces a leaf along a path that is derived from such a snapshot. -/
theorem verifyAndUpdate_treePath (hreach : Reachable v actions w)
    (hcollision : CollisionFree ({ p | p ∈ hashedPairs v actions } ∪ snapshotPairs snapshot))
    (hroot : snapshot.root = w.ledger.currentRoot) {noteId : U32} {requireExisting : Bool}
    {path : BrowserTreePath} (hpath : treePath snapshot noteId requireExisting = .ok path) :
  ∃ siblings, path.siblings = List.ofFn siblings ∧ ∀ newLeaf,
    Vault.MerkleUpdateLib.verifyAndUpdate w.ledger.currentRoot noteId
        (noteLeafAt w.ledger noteId) newLeaf siblings
      = .ok (w.ledger.rootWith noteId newLeaf)
  := by
  obtain ⟨⟨hlength, -, hsnapshot⟩, rfl⟩ := treePath_eq_ok.mp hpath
  have hbound : snapshot.leaves.length ≤ 2 ^ 32 := by
    rw [hlength]
    exact snapshot.nextNoteId.isLt.le
  have hsiblings : List.ofFn ((treeOf snapshot.leaves).getSiblings noteId)
      = SparseMerkle.path Core.merkleNode (padded snapshot.leaves) noteId.toNat 32 :=
    (caches_treeOf _ hbound).ofFn_getSiblings noteId
  obtain ⟨-, hresidues⟩ := residue_padded hreach hcollision (hsnapshot.symm.trans hroot) noteId
  rw [← hsiblings] at hresidues
  refine ⟨_, rfl, ?_⟩
  intro newLeaf
  have hrooted := (hreach.rooted hcollision fun _ hp => .inl hp).root_eq
  have hverify := Vault.verify_rootWith newLeaf hrooted (rfl : noteLeafAt w.ledger noteId = _)
  rw [Vault.verifyAndUpdate_eq_ok] at hverify ⊢
  have hsame := fun leaf => SparseMerkle.climb_congr Vault.poseidonNodeHash_congr noteId.toNat leaf
    _ _ hresidues
  rw [hsame, hsame]
  exact hverify

/-- A snapshot of the tree that has the root of the vault lists the leaves of the vault, whoever
has sent it: the leaf of every active note and zero for every other, as field elements.  The path
that is derived from it is accepted by the vault, which replaces the leaf of its tree. -/
theorem snapshot_authentic (hreach : Reachable v actions w)
    (hcollision : CollisionFree ({ p | p ∈ hashedPairs v actions } ∪ snapshotPairs snapshot))
    (hroot : snapshot.root = w.ledger.currentRoot) {noteId : U32} {requireExisting : Bool}
    {path : BrowserTreePath} (hpath : treePath snapshot noteId requireExisting = .ok path) :
  (∀ n : U32, residue (snapshot.leaves.getD n.toNat 0) = residue (noteLeafAt w.ledger n))
    ∧ path.activeRoot = w.ledger.currentRoot
    ∧ ∃ siblings, path.siblings = List.ofFn siblings ∧ ∀ newLeaf,
      Vault.MerkleUpdateLib.verifyAndUpdate w.ledger.currentRoot noteId
          (noteLeafAt w.ledger noteId) newLeaf siblings
        = .ok (w.ledger.rootWith noteId newLeaf)
  := by
  obtain ⟨⟨hlength, -, hsnapshot⟩, hpath'⟩ := treePath_eq_ok.mp hpath
  constructor
  · intro n
    exact (residue_padded hreach hcollision (hsnapshot.symm.trans hroot) n).1
  constructor
  · rw [hpath']
    exact hroot
  · exact verifyAndUpdate_treePath hreach hcollision hroot hpath

end

/-! ### States that the operations lead to -/

/-- The configuration of a native wallet with the same values. -/
def native (browser : BrowserWalletConfig) : ClientConfig where
  protocolVersion := browser.protocolVersion
  chainId := browser.chainId
  contractAddress := browser.contractAddress
  requestChargeCap := browser.requestChargeCap
  policyChargeCap := browser.policyChargeCap
  policyEnabled := browser.policyEnabled
  stateSigningKey := browser.stateSigningKey
  clearanceSigningKey := browser.clearanceSigningKey

theorem sameDeployment_native (browser : BrowserWalletConfig) :
  SameDeployment (native browser) browser
  := ⟨rfl, rfl, rfl, rfl, rfl⟩

/-- The states that responses lead to from a deposit, while the browser is configured for a
vault. -/
inductive Produced (keccak256 : List UInt8 → List UInt8) (v : Vault.Deployment) (chainId : U64) :
    BrowserNoteState → BrowserNoteState → Prop
  | confirmed {config : BrowserWalletConfig} {args : ConfirmDepositArgs}
      {random : EdwardsScalarField} {state : BrowserNoteState} :
      ForVault v chainId (native config) → confirmDeposit config args random = .ok state →
      Produced keccak256 v chainId state state
  | completed {config : BrowserWalletConfig} {first state next : BrowserNoteState}
      {journal : PendingRequestJournal} {response : RequestResponseV2} :
      Produced keccak256 v chainId first state → ForVault v chainId (native config) →
      completeResponse keccak256 config ⟨state, journal, response⟩ = .ok next →
      Produced keccak256 v chainId first next

/-- A state of a deployment with a deposit and a secret. -/
structure Identified (v : Vault.Deployment) (chainId : U64) (state : BrowserNoteState) : Prop where
  deployed : state.Deployed v chainId
  contractAddress_ne_zero : v.address.setWidth 256 ≠ (0 : Felt252)
  secretS_ne_zero : state.secretS ≠ 0
  depositAmount_ne_zero : state.depositAmount ≠ 0

section

variable {keccak256 : List UInt8 → List UInt8} {v : Vault.Deployment} {chainId : U64}
  {config : BrowserWalletConfig} {first state next : BrowserNoteState}

theorem validateStateIdentity_eq_ok {secret : Felt252} {amount : U128} {u : Unit} :
  validateStateIdentity config secret amount = .ok u
    ↔ config.protocolVersion = 2 ∧ config.contractAddress ≠ 0 ∧ secret ≠ 0 ∧ amount ≠ 0
  := by
  simp only [validateStateIdentity, bind_eq_ok, failIf_eq_ok, exists_const, not_or, not_not,
    ne_eq]

/-- A deposit is confirmed as by the native wallet, once its identity is valid. -/
theorem confirmDeposit_eq_ok {args : ConfirmDepositArgs} {random : EdwardsScalarField} :
  confirmDeposit config args random = .ok state
    ↔ validateStateIdentity config args.secret args.amount = .ok ()
      ∧ depositState (native config) args.secret args.noteId args.amount args.expiryTs
          (scalarToFelt random)
        = state
  := by
  simp only [confirmDeposit, bind_eq_ok, pure, Except.pure, Except.ok.injEq]
  constructor
  · rintro ⟨⟨⟩, hvalid, hstate⟩
    exact ⟨hvalid, hstate⟩
  · rintro ⟨hvalid, hstate⟩
    exact ⟨(), hvalid, hstate⟩

/-- A state of the deployment is valid for every configuration. -/
theorem Identified.validateState_eq (h : Identified v chainId state)
    (hconfig : ForVault v chainId (native config)) :
  validateState config state = .ok ()
  := by
  have hversion : config.protocolVersion = 2 := hconfig.protocolVersion
  have haddress : config.contractAddress = v.address.setWidth 256 := hconfig.contractAddress
  simp only [validateState, bind_eq_ok, failIf_eq_ok, validateStateIdentity_eq_ok, exists_const,
    not_or, not_not]
  refine ⟨⟨h.deployed.protocolVersion.trans hconfig.protocolVersion.symm,
    h.deployed.chainId.trans hconfig.chainId.symm, h.deployed.contractAddress.trans haddress.symm⟩,
    hversion, ?_, h.secretS_ne_zero, h.depositAmount_ne_zero⟩
  rw [haddress]
  exact h.contractAddress_ne_zero

/-- Every state that is produced from a deposit with a secret can be spent. -/
theorem Produced.spendable (h : Produced keccak256 v chainId first state)
    (hsecret : residue first.secretS ≠ 0) :
  Spendable ⟨v.stateSigningKeyX, v.stateSigningKeyY⟩ state
  := by
  induction h with
  | confirmed hconfig hconfirm =>
    obtain ⟨-, rfl⟩ := confirmDeposit_eq_ok.mp hconfirm
    exact spendable_depositState _ _ _ _ _ hsecret
  | @completed config _ _ _ _ _ _ hconfig hcomplete ih =>
    obtain ⟨-, -, blinding, hsettles, -, rfl⟩ := completeResponse_eq_ok.mp hcomplete
    have hkey : config.stateSigningKey = ⟨v.stateSigningKeyX, v.stateSigningKeyY⟩ :=
      hconfig.stateSigningKey
    rw [hkey] at hsettles
    exact hsettles.spendable (ih hsecret)

end

/-! ### A note of ten units -/

namespace WithdrawExample

open Client.WithdrawExample (vault actions forVault hasKeys)
open Vault (noteLeafAt)
open Vault.OwnershipExample (block ledger)

/-- The configuration of the browser. -/
def config : BrowserWalletConfig where
  protocolVersion := 2
  chainId := 1
  contractAddress := 9
  requestChargeCap := 5
  policyChargeCap := 5
  policyEnabled := false
  stateSigningKey := (CompactSigner.fromSeed 1).publicKey
  clearanceSigningKey := (CompactSigner.fromSeed 1).publicKey

/-- The state after the deposit. -/
def state : BrowserNoteState :=
  Client.WithdrawExample.state

theorem native_config :
  native config = Client.WithdrawExample.config
  := rfl

theorem produced :
  Produced Keccak.keccak256 vault 1 state state
  := by
  have hconfig : ForVault vault 1 (native config) := native_config ▸ forVault
  have hconfirm : confirmDeposit config ⟨1, 0, 10, 1700092800⟩ 1 = .ok state :=
    confirmDeposit_eq_ok.mpr ⟨rfl, rfl⟩
  exact .confirmed hconfig hconfirm

/-- The tree with the leaf of the note. -/
def snapshot : TreeSnapshot where
  root := ledger.currentRoot
  nextNoteId := 1
  leaves := [noteLeafAt ledger 0]

theorem padded_snapshot :
  padded snapshot.leaves = Vault.leaves ledger
  := by
  have hinitial : padded [] = Vault.leaves .initial := by
    rw [Vault.leaves_initial]
    rfl
  have hledger : Vault.leaves ledger
      = Function.update (Vault.leaves .initial) (0 : U32).toNat (noteLeafAt ledger 0) :=
    Vault.leaves_update (fun m hm => Function.update_of_ne hm _ _) rfl
  rw [hledger, ← hinitial]
  exact padded_append [] _

theorem collisionFree :
  Vault.CollisionFree ({ p | p ∈ Vault.hashedPairs vault actions } ∪ snapshotPairs snapshot)
  := by
  have hrooted := Client.WithdrawExample.reachable.rooted Client.WithdrawExample.collisionFree
    fun _ hp => hp
  apply Client.WithdrawExample.collisionFree.mono
  rintro _ (hp | ⟨k, hk, j, rfl⟩)
  · exact hp
  · rw [padded_snapshot]
    exact hrooted.children k hk j

/-- The path of the note. -/
def path : BrowserTreePath where
  activeRoot := snapshot.root
  noteId := 0
  siblings := List.ofFn ((treeOf snapshot.leaves).getSiblings 0)

theorem treePath_eq :
  treePath snapshot 0 true = .ok path
  := by
  have hroot : snapshot.root
      = SparseMerkle.root Core.merkleNode Core.MERKLE_DEPTH (padded snapshot.leaves) := by
    rw [padded_snapshot, Indexer.merkleNode_eq]
    exact Vault.ChallengeExample.ledger_root
  exact treePath_eq_ok.mpr ⟨⟨rfl, by decide, hroot⟩, rfl⟩

/-- The snapshot lists the leaf of the note. -/
theorem snapshot_authentic_deposit :
  residue (snapshot.leaves.getD (0 : U32).toNat 0) = residue (noteLeafAt ledger 0)
    ∧ ∃ siblings, path.siblings = List.ofFn siblings ∧ ∀ newLeaf,
      Vault.MerkleUpdateLib.verifyAndUpdate ledger.currentRoot 0 (noteLeafAt ledger 0) newLeaf
          siblings
        = .ok (ledger.rootWith 0 newLeaf)
  := by
  obtain ⟨hleaf, -, hupdate⟩ := snapshot_authentic Client.WithdrawExample.reachable collisionFree
    rfl treePath_eq
  exact ⟨hleaf 0, hupdate⟩

/-- The address of the destination. -/
def destination : String :=
  "0x0000000000000000000000000000000000000007"

theorem parseAddress_destination :
  parseAddress destination = .ok (List.replicate 19 0 ++ [7])
  := by decide +kernel

/-- The arguments of an escape along the path of the indexer. -/
def escapeArgs : PrepareWithdrawalArgs where
  mode := "escape"
  destination := destination
  activeRoot := (mirrorOf actions).root
  merkleSiblings := List.ofFn ((mirrorOf actions).getPath 0)
  clearance := none

/-- The wallet of the browser and the native wallet prepare the same escape. -/
theorem withdrawals_agree_escape :
  prepareWithdrawal config state escapeArgs (.ok ()) (.ok ⟨.groth16Bn254, ""⟩)
    = .ok {
      mode := "escape"
      publicInputs := withdrawalPublicInputs Client.WithdrawExample.config state
        (addressOf (List.replicate 19 0 ++ [7])) (mirrorOf actions).root false
      siblings := escapeArgs.merkleSiblings
      proof := ⟨.groth16Bn254, ""⟩ }
  := by
  have howned := Client.WithdrawExample.together.owned (.inl rfl)
  have hmember := Client.WithdrawExample.together.member (.inl rfl) Client.WithdrawExample.active
  obtain ⟨hidentity, hcleared⟩ := @Owned.noClearance generator state
  have hbuild := howned.buildWithdrawal_eq hmember hidentity hcleared
    (addressOf (List.replicate 19 0 ++ [7])) ⟨.groth16Bn254, ""⟩
  exact (withdrawals_agree (sameDeployment_native config) rfl).mpr
    ⟨rfl, rfl, _, parseAddress_destination, .inr ⟨rfl, rfl, hbuild⟩⟩

end WithdrawExample

end ZkApi.Browser
