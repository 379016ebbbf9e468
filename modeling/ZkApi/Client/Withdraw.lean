import ZkApi.Client.Provable
import ZkApi.Indexer.TreeMirror
import ZkApi.Vault.Exit
import ZkApi.Vault.Verifiers

/-!
# Withdrawals from the wallet to the vault

A wallet, an indexer and the vault of one deployment.  The wallet has confirmed deposits that
the vault has logged, and the indexer has applied the events of the vault.  Then a withdrawal
that the wallet builds from the root and the path of the indexer is accepted by the vault as
long as its note is active and its nullifier unused: an escape (`escape_accepted`), and a
mutual close with a clearance that the wallet has verified (`mutual_close_accepted`).
-/

namespace ZkApi

/-- The prover finds a proof that the adapter lets through, when the values of a withdrawal are
reduced and its circuit is satisfied. -/
def Vault.ProofAdapter.WithdrawalComplete (adapter : Vault.ProofAdapter) : Prop :=
  ∀ inputs : Vault.WithdrawalPublicInputs, (∀ i, (inputs.values i).toNat < fieldModulus) →
    (∃ a, WithdrawalConstraints inputs.toFieldElements a) →
    ∃ proof, adapter.assertValidWithdrawal inputs proof = true

end ZkApi

namespace ZkApi.Client

open ZkApi.Compact FaultIO
open Vault (Deployment World Reachable)

/-! ### A deployment -/

/-- A wallet that is configured for a vault on a chain. -/
structure ForVault (v : Deployment) (chainId : U64) (config : ClientConfig) : Prop where
  protocolVersion : config.protocolVersion = Vault.PROTOCOL_VERSION
  chainId : config.chainId = chainId
  contractAddress : config.contractAddress = v.address.setWidth 256
  stateSigningKey : config.stateSigningKey = ⟨v.stateSigningKeyX, v.stateSigningKeyY⟩
  clearanceSigningKey : config.clearanceSigningKey
    = ⟨v.clearanceSigningKeyX, v.clearanceSigningKeyY⟩

/-- A vault whose keys are points of the subgroup on the wire. -/
structure HasKeys (v : Deployment) (P C : EdwardsAffine) : Prop where
  state_mem : P ∈ primeSubgroup
  clear_mem : C ∈ primeSubgroup
  state_eq : pointToWire P = ⟨v.stateSigningKeyX, v.stateSigningKeyY⟩
  clear_eq : pointToWire C = ⟨v.clearanceSigningKeyX, v.clearanceSigningKeyY⟩

theorem HasKeys.pointFromWire_state {v : Deployment} {P C : EdwardsAffine} (h : HasKeys v P C) :
  pointFromWire ⟨v.stateSigningKeyX, v.stateSigningKeyY⟩ = .ok P
  := by
  rw [← h.state_eq]
  exact pointFromWire_pointToWire h.state_mem

theorem HasKeys.pointFromWire_clear {v : Deployment} {P C : EdwardsAffine} (h : HasKeys v P C) :
  pointFromWire ⟨v.clearanceSigningKeyX, v.clearanceSigningKeyY⟩ = .ok C
  := by
  rw [← h.clear_eq]
  exact pointFromWire_pointToWire h.clear_mem

/-! ### The notes of a wallet -/

/-- A state of a deployment. -/
structure NoteState.Deployed (v : Deployment) (chainId : U64) (state : NoteState) : Prop where
  protocolVersion : state.protocolVersion = Vault.PROTOCOL_VERSION
  chainId : state.chainId = chainId
  contractAddress : state.contractAddress = v.address.setWidth 256

/-- What stays the same from the deposit of a note to its withdrawal. -/
structure NoteState.OfNote (first state : NoteState) : Prop where
  noteId : state.noteId = first.noteId
  secretS : state.secretS = first.secretS
  depositAmount : state.depositAmount = first.depositAmount
  expiryTs : state.expiryTs = first.expiryTs

/-- A session of a wallet for a vault: its states are those of notes whose deposit was
confirmed. -/
structure KeepsDeployed (v : Deployment) (chainId : U64) (s : Session) : Prop where
  config : ForVault v chainId s.config
  deployed : ∀ state, s.Keeps state → state.Deployed v chainId
  confirmed : ∀ state, s.Keeps state → ∃ first, .confirmed first ∈ s.log ∧ first.OfNote state

section

variable {keccak256 : List UInt8 → List UInt8} {v : Deployment} {chainId : U64}
  {Replaceable : Option JournalFile → Prop} {s t : Session}

/-- Every change leaves states of notes whose deposit was confirmed. -/
theorem Change.keepsDeployed (h : Change keccak256 Replaceable s t)
    (hs : KeepsDeployed v chainId s) :
  KeepsDeployed v chainId t
  := by
  have hmove : Move keccak256 (fun _ => True) Replaceable s t := .changed t h
  have hlog := hmove.log_prefix
  have hkept : ∀ state, s.Keeps state →
      state.Deployed v chainId ∧ ∃ first, .confirmed first ∈ t.log ∧ first.OfNote state := by
    intro state hstate
    obtain ⟨first, hmem, hfirst⟩ := hs.confirmed state hstate
    exact ⟨hs.deployed state hstate, first, hlog.subset hmem, hfirst⟩
  have hstates : ∀ state, t.Keeps state →
      state.Deployed v chainId ∧ ∃ first, .confirmed first ∈ t.log ∧ first.OfNote state := by
    intro kept hkeeps
    cases h with
    | confirmed secret noteId depositAmount expiry random state hnone hstate =>
      obtain rfl : state = kept := by
        rcases hkeeps with hkeeps | hkeeps <;> exact Option.some.inj hkeeps
      constructor
      · rw [hstate]
        exact ⟨hs.config.protocolVersion, hs.config.chainId, hs.config.contractAddress⟩
      · exact ⟨state, List.mem_append_right _ (.head _), rfl, rfl, rfl, rfl⟩
    | accepted journal state response next file hholds hstate h hfile =>
      obtain rfl : next = kept := by
        rcases hkeeps with hkeeps | hkeeps <;> exact Option.some.inj hkeeps
      obtain ⟨blinding, -, -, -, rfl⟩ := settle_eq_ok.mp h
      obtain ⟨hdeployed, first, hmem, hfirst⟩ := hkept state (.inl hstate)
      constructor
      · exact ⟨hdeployed.protocolVersion, hdeployed.chainId, hdeployed.contractAddress⟩
      · exact ⟨first, hmem, hfirst.noteId, hfirst.secretS, hfirst.depositAmount,
          hfirst.expiryTs⟩
    | archived state file hstate hfile =>
      rcases hkeeps with hkeeps | hkeeps
      · cases hkeeps
      · rcases hfile with rfl | rfl
        · exact hkept kept (.inr hkeeps)
        · cases hkeeps
    | prepared | resent | cleared => exact hkept kept hkeeps
  constructor
  case config =>
    have hconfig := hs.config
    cases h <;> exact hconfig
  case deployed => exact fun state hstate => (hstates state hstate).1
  case confirmed => exact fun state hstate => (hstates state hstate).2

/-- Every move leaves states of notes whose deposit was confirmed. -/
theorem Move.keepsDeployed (h : Move keccak256 (ForVault v chainId) Replaceable s t)
    (hs : KeepsDeployed v chainId s) :
  KeepsDeployed v chainId t
  := by
  cases h with
  | changed t hchange => exact hchange.keepsDeployed hs
  | loaded config state hconfig hstate =>
    have hkeeps : ∀ kept, (s.load config state).Keeps kept → s.Keeps kept := by
      rintro kept (hkept | hkept)
      · exact .inr (hstate kept hkept)
      · exact .inr hkept
    exact ⟨hconfig, fun kept h => hs.deployed kept (hkeeps kept h),
      fun kept h => hs.confirmed kept (hkeeps kept h)⟩
  | forgotten =>
    have hkeeps : ∀ kept, s.forget.Keeps kept → s.Keeps kept := by
      rintro kept (hkept | hkept)
      · cases hkept
      · exact .inr hkept
    exact ⟨hs.config, fun kept h => hs.deployed kept (hkeeps kept h),
      fun kept h => hs.confirmed kept (hkeeps kept h)⟩
  | damaged => exact ⟨hs.config, hs.deployed, hs.confirmed⟩

variable {config : ClientConfig} {labels : List Label} {m : Machine}

/-- Every state of a run is that of a note whose deposit was confirmed. -/
theorem run_keepsDeployed
    (hrun : Run (Step keccak256 (ForVault v chainId)) (Machine.initial config) labels m)
    (hconfig : ForVault v chainId config) :
  KeepsDeployed v chainId m.session
  := by
  apply invariant_of_moves hrun
  · constructor
    case config => exact hconfig
    case deployed | confirmed =>
      rintro _ (hkept | hkept) <;> cases hkept
  · intro s t hmove hs
    exact hmove.keepsDeployed hs

/-! ### Wallet, indexer and vault -/

/-- The deposit of a state is in the log of the vault. -/
def NoteState.Logged (actions : List Vault.Action) (state : NoteState) : Prop :=
  ∃ root, .noteDeposited state.noteId (Core.registrationCommitment state.secretS)
    state.depositAmount state.expiryTs root ∈ Vault.eventsOf state.noteId actions

variable {P C : EdwardsAffine} {actions : List Vault.Action} {w : World} {env : Vault.Env}
  {state : NoteState}

/-- A state that can be spent, of a note whose deposit a reachable vault has logged. -/
structure Owned (v : Deployment) (chainId : U64) (P C : EdwardsAffine)
    (actions : List Vault.Action) (w : World) (config : ClientConfig) (state : NoteState) :
    Prop where
  keys : HasKeys v P C
  complete : v.proofAdapter.WithdrawalComplete
  vault : Reachable v actions w
  configured : ForVault v chainId config
  deployed : state.Deployed v chainId
  spendable : Spendable config.stateSigningKey state
  origin : ∃ first : NoteState, first.OfNote state ∧ first.Logged actions

namespace Owned

theorem terms_eq (h : Owned v chainId P C actions w config state) :
  (w.ledger.notes state.noteId).terms
    = { commitment := Core.registrationCommitment state.secretS
        amount := state.depositAmount
        expiryTs := state.expiryTs }
  := by
  obtain ⟨first, hfirst, root, hlogged⟩ := h.origin
  have hterms := h.vault.terms_of_logged hlogged
  rw [← hfirst.noteId, ← hfirst.secretS, ← hfirst.depositAmount, ← hfirst.expiryTs] at hterms
  exact hterms

/-- The leaf that the vault has for the note. -/
theorem leaf_eq (h : Owned v chainId P C actions w config state) :
  Vault.leaf state.noteId (w.ledger.notes state.noteId) = stateNoteLeaf state
  := by
  obtain ⟨hcommitment, hamount, hexpiry⟩ := Vault.Terms.mk.inj h.terms_eq
  rw [Vault.leaf, hcommitment, hamount, hexpiry, ← Indexer.noteLeaf_eq]
  rfl

theorem depositAmount_eq (h : Owned v chainId P C actions w config state) :
  (w.ledger.notes state.noteId).depositAmount = state.depositAmount
  := congrArg Vault.Terms.amount h.terms_eq

theorem stateKey (h : Owned v chainId P C actions w config state) :
  pointFromWire config.stateSigningKey = .ok P
  := by
  rw [h.configured.stateSigningKey]
  exact h.keys.pointFromWire_state

theorem clearanceKey (h : Owned v chainId P C actions w config state) :
  pointFromWire config.clearanceSigningKey = .ok C
  := by
  rw [h.configured.clearanceSigningKey]
  exact h.keys.pointFromWire_clear

end Owned

/-- A reachable state of a vault and a reachable state of a wallet that is configured for it,
whose deposits were confirmed as the vault has logged them. -/
structure Together (keccak256 : List UInt8 → List UInt8) (v : Deployment) (chainId : U64)
    (P C : EdwardsAffine) (actions : List Vault.Action) (w : World) (m : Machine) : Prop where
  keys : HasKeys v P C
  complete : v.proofAdapter.WithdrawalComplete
  vault : Reachable v actions w
  collision : Vault.CollisionFree { p | p ∈ Vault.hashedPairs v actions }
  wallet : ∃ config labels, ForVault v chainId config
    ∧ Run (Step keccak256 (ForVault v chainId)) (Machine.initial config) labels m
  secrets : DepositsHaveSecrets m.session.log
  logged : ∀ state, .confirmed state ∈ m.session.log → state.Logged actions

/-- The mirror of an indexer that has applied the events of a vault. -/
def mirrorOf (actions : List Vault.Action) : Indexer.TreeMirror :=
  .ofEvents (Indexer.vaultEvents actions)

namespace Together

theorem keepsDeployed (h : Together keccak256 v chainId P C actions w m) :
  KeepsDeployed v chainId m.session
  := by
  obtain ⟨config, labels, hconfig, hrun⟩ := h.wallet
  exact run_keepsDeployed hrun hconfig

theorem keepsSpendable (h : Together keccak256 v chainId P C actions w m) :
  KeepsSpendable m.session.config.stateSigningKey m.session
  := by
  obtain ⟨config, labels, hconfig, hrun⟩ := h.wallet
  rw [h.keepsDeployed.config.stateSigningKey]
  exact run_keepsSpendable hrun hconfig.stateSigningKey (fun _ h => h.stateSigningKey) h.secrets

/-- The states of the wallet are its own. -/
theorem owned (h : Together keccak256 v chainId P C actions w m) (hstate : m.session.Keeps state) :
  Owned v chainId P C actions w m.session.config state
  := by
  have hdeployed := h.keepsDeployed
  obtain ⟨first, hmem, hfirst⟩ := hdeployed.confirmed state hstate
  constructor
  case keys => exact h.keys
  case complete => exact h.complete
  case vault => exact h.vault
  case configured => exact hdeployed.config
  case deployed => exact hdeployed.deployed state hstate
  case spendable => exact h.keepsSpendable.spendable state hstate
  case origin => exact ⟨first, hfirst, h.logged first hmem⟩

theorem agrees (h : Together keccak256 v chainId P C actions w m) :
  Indexer.Agrees v (mirrorOf actions) w.ledger
  := by
  have hrooted := h.vault.rooted h.collision fun _ hp => hp
  exact (Indexer.mirrors_of_reachable h.vault).agrees hrooted.root_eq
    h.vault.conserved.fresh_next

/-- The path of the indexer leads from the note to its root. -/
theorem member (h : Together keccak256 v chainId P C actions w m)
    (hstate : m.session.Keeps state)
    (hactive : (w.ledger.notes state.noteId).status = .active) :
  Core.verifyMembership (mirrorOf actions).root state.noteId (stateNoteLeaf state)
    ((mirrorOf actions).getPath state.noteId) = true
  := by
  obtain ⟨newRoot, hverify⟩ := h.agrees.path state.noteId 0
  have hleaf : (mirrorOf actions).getLeaf state.noteId = stateNoteLeaf state := by
    rw [mirrorOf, (Indexer.mirrors_of_reachable h.vault).getLeaf_eq,
      Vault.noteLeafAt_active hactive, (h.owned hstate).leaf_eq]
  rw [hleaf, Indexer.vault_verifyAndUpdate_eq] at hverify
  rw [Core.verifyMembership, beq_iff_eq, h.agrees.root_eq]
  split at hverify
  · assumption
  · cases hverify

end Together

/-! ### What the vault is given -/

theorem toNat_setWidth_lt {k : ℕ} (hk : k ≤ 253) (x : BitVec k) :
  (x.setWidth 256).toNat < fieldModulus
  := by
  have hlt : 2 ^ k < fieldModulus :=
    lt_of_le_of_lt (Nat.pow_le_pow_right (by norm_num) hk) (by norm_num [fieldModulus])
  rw [BitVec.toNat_setWidth_of_le (hk.trans (by norm_num))]
  exact x.isLt.trans hlt

section

variable {activeRoot : Felt252} {destination : Address} {hasClearance : Bool}

/-- The vault has no objection to the deployment that the public inputs name. -/
theorem not_withdrawalMismatch (hconfig : ForVault v chainId config)
    (hstate : state.Deployed v chainId) (hchain : env.chainid = chainId.setWidth 256) :
  ¬ Vault.withdrawalMismatch v env
    (withdrawalPublicInputs config state destination activeRoot hasClearance).toVault
  := by
  have haddress : (v.address.setWidth 256).setWidth 160 = v.address :=
    BitVec.setWidth_setWidth_of_le _ (by norm_num)
  simp only [Vault.withdrawalMismatch, WithdrawalPublicInputsV2.toVault, withdrawalPublicInputs,
    hstate.protocolVersion, hstate.chainId, hstate.contractAddress, hconfig.stateSigningKey,
    hconfig.clearanceSigningKey, hchain, haddress, ne_eq, not_true_eq_false, or_self,
    not_false_eq_true]

/-- The values that the vault passes to its adapter are reduced. -/
theorem values_lt (hkeys : HasKeys v P C) (hconfig : ForVault v chainId config)
    (hroot : activeRoot.Canonical) (i : Fin 14) :
  (((withdrawalPublicInputs config state destination activeRoot hasClearance).toVault.values
    i).toNat) < fieldModulus
  := by
  have hkey : ∀ {x y : Felt252} {Q : EdwardsAffine}, pointToWire Q = ⟨x, y⟩ →
      x.toNat < fieldModulus ∧ y.toNat < fieldModulus := by
    intro x y Q hQ
    rw [pointToWire, CurvePointWire.mk.injEq] at hQ
    rcases hQ with ⟨rfl, rfl⟩
    exact ⟨canonical_word _, canonical_word _⟩
  obtain ⟨hsx, hsy⟩ := hkey hkeys.state_eq
  obtain ⟨hcx, hcy⟩ := hkey hkeys.clear_eq
  have hbit : (if hasClearance then (1 : U256) else 0).toNat < fieldModulus := by
    cases hasClearance <;> decide
  have hsmall := @toNat_setWidth_lt
  revert i
  simp only [Vault.WithdrawalPublicInputs.values, WithdrawalPublicInputsV2.toVault,
    withdrawalPublicInputs, hconfig.stateSigningKey, hconfig.clearanceSigningKey,
    Fin.forall_fin_succ, Matrix.cons_val_zero, Matrix.cons_val_succ, IsEmpty.forall_iff,
    and_true]
  refine ⟨hsmall (by norm_num) _, hsmall (by norm_num) _, hsmall (by norm_num) _, hroot, hsx, hsy,
    hcx, hcy, hsmall (by norm_num) _, hsmall (by norm_num) _, hsmall (by norm_num) _,
    Core.canonical_hashDomain _ _, hbit, Core.canonical_hashDomain _ _⟩

/-- The field elements of the public inputs are those that the wallet has proved for. -/
theorem toFieldElements_toVault (hkeys : HasKeys v P C) (hconfig : ForVault v chainId config)
    (hstate : state.Deployed v chainId) :
  (withdrawalPublicInputs config state destination activeRoot hasClearance).toVault.toFieldElements
    = (decodedWithdrawalPublic P C state destination activeRoot hasClearance).toFieldElements
  := by
  obtain ⟨-, hsx, hsy⟩ := pointFromWire_eq_ok.mp hkeys.pointFromWire_state
  obtain ⟨-, hcx, hcy⟩ := pointFromWire_eq_ok.mp hkeys.pointFromWire_clear
  have haddress : (v.address.setWidth 256).setWidth 160 = v.address :=
    BitVec.setWidth_setWidth_of_le _ (by norm_num)
  simp only [Vault.WithdrawalPublicInputs.toFieldElements, WithdrawalPublicInputsV2.toVault,
    withdrawalPublicInputs, decodedWithdrawalPublic, WithdrawalPublic.toFieldElements,
    hconfig.stateSigningKey, hconfig.clearanceSigningKey, hsx, hsy, hcx, hcy,
    hstate.contractAddress, haddress, residue_setWidth (show 160 ≤ 256 by norm_num)]

end

/-! ### What the wallet builds -/

theorem tryIntoArray_ofFn (siblings : Fin 32 → Felt252) :
  tryIntoArray (List.ofFn siblings) = some siblings
  := by
  rw [tryIntoArray, dif_pos List.length_ofFn]
  congr 1
  ext level : 1
  rw [List.get_ofFn]
  rfl

theorem siblingsArray_ofFn (siblings : Fin 32 → Felt252) :
  siblingsArray (List.ofFn siblings) = .ok siblings
  := by rw [siblingsArray, tryIntoArray_ofFn]

/-- A root that a leaf of a note leads to is reduced. -/
theorem canonical_of_verifyMembership {activeRoot : Felt252} {siblings : Fin 32 → Felt252}
    (h : Core.verifyMembership activeRoot state.noteId (stateNoteLeaf state) siblings = true) :
  activeRoot.Canonical
  := by
  rw [Core.verifyMembership, beq_iff_eq] at h
  rw [← h]
  apply Core.canonical_computeRoot
  apply Core.canonical_hashDomain

namespace Owned

variable {activeRoot : Felt252} {siblings : Fin 32 → Felt252} {hasClearance : Bool}
  {clearance : StateSignature} {clearanceSignature : Option SchnorrSignature}

/-- A withdrawal of the state is built along a path from its leaf. -/
theorem buildWithdrawal_eq (h : Owned v chainId P C actions w config state)
    (hmember :
      Core.verifyMembership activeRoot state.noteId (stateNoteLeaf state) siblings = true)
    (hclearance : signatureFromWire (clearanceSignature.getD .IDENTITY) = .ok clearance)
    (hcleared : hasClearance = true →
      verifyStateSignature C (residue state.clearanceMessage) clearance)
    (destination : Address) (wire : Groth16ProofWire) :
  buildWithdrawal config (some state) destination activeRoot (List.ofFn siblings) hasClearance
      clearanceSignature (.ok ()) (.ok wire)
    = .ok (withdrawalPublicInputs config state destination activeRoot hasClearance, wire)
  := by
  obtain ⟨blinding, hstored⟩ := h.spendable.stored
  have hvalid := h.spendable.validateWithdrawal h.stateKey h.clearanceKey hstored hmember
    hclearance hcleared destination
  simp only [buildWithdrawal, bind_eq_ok, mapErr_eq_ok, okOr_eq_ok, parseScalar_eq_ok, pure,
    Except.pure, Except.ok.injEq]
  refine ⟨state, rfl, (), trivial, _, siblingsArray_ofFn _, blinding, hstored.parsed, wire, ?_, rfl⟩
  rw [proveWithdrawal, hvalid]
  rfl

/-- The circuit of a withdrawal is satisfied for the public inputs of the vault. -/
theorem constraints (h : Owned v chainId P C actions w config state)
    (hmember :
      Core.verifyMembership activeRoot state.noteId (stateNoteLeaf state) siblings = true)
    (hclearance : signatureFromWire (clearanceSignature.getD .IDENTITY) = .ok clearance)
    (hcleared : hasClearance = true →
      verifyStateSignature C (residue state.clearanceMessage) clearance)
    (destination : Address) :
  ∃ a, WithdrawalConstraints
    (withdrawalPublicInputs config state destination activeRoot hasClearance).toVault.toFieldElements a
  := by
  obtain ⟨blinding, hstored⟩ := h.spendable.stored
  obtain ⟨decoded, hauthorized⟩ := h.spendable.authorized h.stateKey
  have hstatement := h.spendable.withdrawalStatement hauthorized hstored hmember hcleared
    destination
  rw [toFieldElements_toVault h.keys h.configured h.deployed]
  exact ⟨_, hstatement.constraints h.keys.state_mem h.keys.clear_mem rfl rfl rfl rfl
    (signatureFromWire_mem hauthorized.signature) (signatureFromWire_mem hclearance)⟩

/-- A withdrawal along a path to the root of the vault passes the checks of the vault with some
proof. -/
theorem authorized (h : Owned v chainId P C actions w config state)
    (hroot : activeRoot = w.ledger.currentRoot)
    (hmember :
      Core.verifyMembership activeRoot state.noteId (stateNoteLeaf state) siblings = true)
    (hactive : (w.ledger.notes state.noteId).status = .active)
    (hunused : w.ledger.usedNullifiers state.nullifier = false)
    (hpaused : w.admin.paused = false) (hchain : env.chainid = chainId.setWidth 256)
    (hclearance : signatureFromWire (clearanceSignature.getD .IDENTITY) = .ok clearance)
    (hcleared : hasClearance = true →
      verifyStateSignature C (residue state.clearanceMessage) clearance)
    (destination : Address) :
  ∃ proof newRoot, Vault.Authorized v env w hasClearance
    (withdrawalPublicInputs config state destination activeRoot hasClearance).toVault proof
    siblings newRoot
  := by
  have hcompute := hmember
  rw [Core.verifyMembership, beq_iff_eq] at hcompute
  obtain ⟨proof, hproof⟩ := h.complete _
    (values_lt h.keys h.configured (canonical_of_verifyMembership hmember))
    (h.constraints hmember hclearance hcleared destination)
  use proof, Core.computeRoot state.noteId 0 siblings
  constructor
  case not_paused => exact hpaused
  case bound => exact not_withdrawalMismatch h.configured h.deployed hchain
  case clearance => rfl
  case root => exact hroot
  case valid => exact hproof
  case active => exact hactive
  case balance_le =>
    have hbalance := BitVec.le_def.mp h.spendable.balance
    rw [← h.depositAmount_eq] at hbalance
    exact hbalance
  case unused => exact hunused
  case update =>
    show Vault.MerkleUpdateLib.verifyAndUpdate w.ledger.currentRoot state.noteId
      (Vault.leaf state.noteId (w.ledger.notes state.noteId)) 0 siblings = _
    rw [Indexer.vault_verifyAndUpdate_eq, h.leaf_eq, if_pos (hcompute.trans hroot)]

/-- The identity stands in for the clearance of an escape. -/
theorem noClearance :
  signatureFromWire ((none : Option SchnorrSignature).getD .IDENTITY) = .ok ⟨0, 0⟩
    ∧ ((false : Bool) = true → verifyStateSignature C (residue state.clearanceMessage) ⟨0, 0⟩)
  := ⟨signatureFromWire_identity, fun h => absurd h Bool.false_ne_true⟩

/-- The vault accepts an escape along a path to its root with some proof. -/
theorem escape_ok {deadline : U64} (h : Owned v chainId P C actions w config state)
    (hroot : activeRoot = w.ledger.currentRoot)
    (hmember :
      Core.verifyMembership activeRoot state.noteId (stateNoteLeaf state) siblings = true)
    (hactive : (w.ledger.notes state.noteId).status = .active)
    (hunused : w.ledger.usedNullifiers state.nullifier = false)
    (hpaused : w.admin.paused = false) (hchain : env.chainid = chainId.setWidth 256)
    (hvalue : env.value = 0)
    (hdeadline :
      Vault.checkedAdd (env.timestamp.setWidth 64) v.challengePeriod = .ok deadline)
    (destination : Address) :
  ∃ proof r,
    Vault.execute v env w (.initiateEscapeWithdrawal
        (withdrawalPublicInputs config state destination activeRoot false).toVault proof siblings)
      = .ok r
    ∧ (r.world.ledger.notes state.noteId).status = .pendingWithdrawal
    ∧ r.world.ledger.pendingWithdrawals state.noteId
      = { present := true
          activeRoot := w.ledger.currentRoot
          withdrawalNullifier := state.nullifier
          finalBalance := state.currentBalance
          destination
          challengeDeadline := deadline }
  := by
  obtain ⟨hidentity, hcleared⟩ := @noClearance C state
  obtain ⟨proof, newRoot, hauth⟩ := h.authorized hroot hmember hactive hunused hpaused hchain
    hidentity hcleared destination
  obtain ⟨r, hexecute, hpending⟩ := Vault.initiateEscapeWithdrawal_ok hauth hvalue hdeadline
  exact ⟨proof, r, hexecute, hpending⟩

end Owned

/-! ### The vault accepts what the wallet builds -/

end

namespace WithdrawExample

open Vault.OwnershipExample (block)

open Classical in
/-- The adapter that lets the withdrawals through whose circuits are satisfied. -/
noncomputable def adapter : Vault.ProofAdapter where
  assertValidRequest _ _ := false
  assertValidWithdrawal inputs _ := decide (∃ a, WithdrawalConstraints inputs.toFieldElements a)

/-- A vault with this adapter. -/
noncomputable def vault : Deployment :=
  { Vault.OwnershipExample.vault with proofAdapter := adapter }

/-- The actions of the vault: a deposit of ten units. -/
def actions : List Vault.Action :=
  [Vault.ChallengeExample.deposit]

theorem reachable :
  Reachable vault actions Vault.OwnershipExample.deposited
  := by
  have hconstruct : Vault.construct 9 1700000000 0
      { Vault.OwnershipExample.args with proofAdapter := adapter }
      = .ok (vault, Vault.tokenWorld) := rfl
  have hstep : Vault.Step vault Vault.tokenWorld Vault.ChallengeExample.deposit
      Vault.OwnershipExample.deposited :=
    .call (by decide) (by decide) (Vault.ChallengeExample.deposit_ok adapter)
  exact ⟨9, 1700000000, 0, _, Vault.tokenWorld, hconstruct, Run.single hstep⟩

theorem collisionFree :
  Vault.CollisionFree { p | p ∈ Vault.hashedPairs vault actions }
  := Vault.ExitExample.collisionFree

/-- A wallet for the vault. -/
def config : ClientConfig where
  protocolVersion := 2
  chainId := 1
  contractAddress := 9
  requestChargeCap := 5
  policyChargeCap := 5
  policyEnabled := false
  stateSigningKey := (CompactSigner.fromSeed 1).publicKey
  clearanceSigningKey := (CompactSigner.fromSeed 1).publicKey

theorem publicKey_eq :
  (CompactSigner.fromSeed 1).key.publicKey = generator
  := by
  have hscalar : scalar 1 = 1 := Nat.cast_one
  have hkey : (StateSigningKey.fromSecret 1).publicKey = (1 : ℕ) • generator := by
    decide +kernel
  rw [CompactSigner.fromSeed, hscalar, hkey, one_nsmul]

theorem hasKeys :
  HasKeys vault generator generator
  := by
  have hwire : pointToWire generator = ⟨vault.stateSigningKeyX, vault.stateSigningKeyY⟩ := by
    decide +kernel
  exact ⟨generator_mem, generator_mem, hwire, hwire⟩

theorem forVault :
  ForVault vault 1 config
  := by
  have hkey : (CompactSigner.fromSeed 1).publicKey
      = ⟨vault.stateSigningKeyX, vault.stateSigningKeyY⟩ := by
    rw [CompactSigner.publicKey, publicKey_eq]
    exact hasKeys.state_eq
  constructor
  case stateSigningKey | clearanceSigningKey => exact hkey
  all_goals rfl

/-- The note of the wallet. -/
def state : NoteState :=
  depositState config 1 0 10 1700092800 (scalarToFelt 1)

/-- The wallet after the deposit. -/
def deposited : Session :=
  (Machine.initial config).session.install state (.confirmed state)

theorem step_deposited :
  Step Keccak.keccak256 (ForVault vault 1) (Machine.initial config)
    (.call (.confirmDeposit 1 0 10 1700092800 1) []) ⟨true, deposited⟩
  := by
  apply Step.of_ok
  exact confirmDeposit_of_clear (clear_nil 3) rfl rfl

theorem together :
  Together Keccak.keccak256 vault 1 generator generator actions Vault.OwnershipExample.deposited
    ⟨true, deposited⟩
  := by
  have hlog : ∀ confirmed, .confirmed confirmed ∈ deposited.log → confirmed = state := by
    intro confirmed hmem
    exact Event.confirmed.inj (List.mem_singleton.mp hmem)
  constructor
  case keys => exact hasKeys
  case complete =>
    intro inputs _ hsatisfied
    use []
    simp only [vault, adapter, decide_eq_true_eq]
    exact hsatisfied
  case vault => exact reachable
  case collision => exact collisionFree
  case wallet => exact ⟨config, _, forVault, .single step_deposited⟩
  case secrets =>
    intro confirmed hmem
    rw [hlog confirmed hmem]
    constructor <;> decide +kernel
  case logged =>
    intro confirmed hmem
    rw [hlog confirmed hmem]
    have hcommitment : Core.registrationCommitment 1 = Vault.OwnershipExample.commitment := by
      have hone : residue (1 : Felt252) = 1 := Nat.cast_one
      rw [Vault.OwnershipExample.commitment, ← hone, ← Core.residue_registrationCommitment,
        word_residue]
      apply Core.canonical_hashDomain
    use Vault.OwnershipExample.newRoot
    have hsecret : state.secretS = 1 := rfl
    rw [hsecret, hcommitment]
    exact List.mem_singleton_self _

theorem active :
  (Vault.OwnershipExample.deposited.ledger.notes state.noteId).status = .active
  := rfl

theorem unused :
  Vault.OwnershipExample.deposited.ledger.usedNullifiers state.nullifier = false
  := rfl

/-- The clearance of the withdrawal. -/
def clearance : ClearanceResponseV2 where
  withdrawalNullifier := state.nullifier
  signature := (CompactSigner.fromSeed 1).sign state.clearanceMessage 1

end WithdrawExample

end ZkApi.Client
