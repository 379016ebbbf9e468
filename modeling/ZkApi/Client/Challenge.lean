import ZkApi.Client.Withdraw

/-!
# Requests of the wallet are evidence in the vault

Whoever holds the verifying key accepts the requests that a wallet prepares.  Once prepared, a
request is evidence in the vault: a pending withdrawal with the nullifier of the request can be
challenged with the same proof until its deadline comes, in every state that the vault may have
reached by then (`request_is_evidence`).
-/

namespace ZkApi.Client

open ZkApi.Compact
open Bn254 (G1 G2)
open Vault (Deployment World Env Action Reachable groth16ProofAdapter)
open Vault.Groth16 (Precompiles toBytes)

section

variable {keccak256 : List UInt8 → List UInt8} {v : Deployment} {chainId : U64}
  {P C : EdwardsAffine} {config : ClientConfig} {state : NoteState} {args : PrepareArgs}
  {request : ApiRequestV2}

/-! ### What a request is made of -/

/-- The public inputs of a request name the state that it was built from, and they were proved. -/
theorem proved_of_buildRequest {built : NoteState}
    (h : buildRequest keccak256 config (some state) args = .ok (built, request)) :
  ∃ solvencyBound requestContext Q witness,
    request.publicInputs = requestPublicInputs config state args.activeRoot args.requestTime
      solvencyBound requestContext (pointToWire Q)
    ∧ proveRequest request.publicInputs witness args.proved = .ok request.proof
  := by
  simp only [buildRequest, bind_eq_ok, okOr_eq_ok, mapErr_eq_ok, Compact.rerandomize, pure,
    Except.pure, Except.ok.injEq, Option.some.injEq, Prod.mk.injEq] at h
  obtain ⟨_, _, _, _, state', rfl, _, _, _, _, _, _, _, _, _, ⟨_, _, rfl⟩, _, _, _, _, _, hproof,
    rfl, rfl⟩ := h
  exact ⟨_, _, _, _, rfl, hproof⟩

variable {activeRoot requestContext : Felt252} {requestTime : U64} {solvencyBound : U128}
  {Q : EdwardsAffine}

/-- The vault has no objection to the deployment that the public inputs name. -/
theorem not_requestMismatch {env : Env} (hconfig : ForVault v chainId config)
    (hstate : state.Deployed v chainId) (hchain : env.chainid = chainId.setWidth 256) :
  ¬ Vault.requestMismatch v env
    (requestPublicInputs config state activeRoot requestTime solvencyBound requestContext
      (pointToWire Q)).toVault
  := by
  have haddress : (v.address.setWidth 256).setWidth 160 = v.address :=
    BitVec.setWidth_setWidth_of_le _ (by norm_num)
  simp only [Vault.requestMismatch, RequestPublicInputsV2.toVault, requestPublicInputs,
    hstate.protocolVersion, hstate.chainId, hstate.contractAddress, hconfig.stateSigningKey,
    hchain, haddress, ne_eq, not_true_eq_false, or_self, not_false_eq_true]

theorem address_lt (hstate : state.Deployed v chainId) :
  state.contractAddress.toNat < 2 ^ 160
  := by
  rw [hstate.contractAddress, BitVec.toNat_setWidth_of_le (by norm_num)]
  exact v.address.isLt

/-- The elements of the public inputs are canonical. -/
theorem canonical_requestPublicInputs (hkeys : HasKeys v P C) (hconfig : ForVault v chainId config)
    (hstate : state.Deployed v chainId) (hroot : activeRoot.Canonical) (i : Fin 12) :
  ((requestPublicInputs config state activeRoot requestTime solvencyBound requestContext
    (pointToWire Q)).toFieldElements i).Canonical
  := by
  have hkey : config.stateSigningKey = pointToWire P := by
    rw [hconfig.stateSigningKey, hkeys.state_eq]
  have hsmall := @toNat_setWidth_lt
  have haddress : state.contractAddress.toNat < fieldModulus :=
    (address_lt hstate).trans (by norm_num [fieldModulus])
  revert i
  simp only [RequestPublicInputsV2.toFieldElements, requestPublicInputs, hkey,
    Fin.forall_fin_succ, Matrix.cons_val_zero, Matrix.cons_val_succ, IsEmpty.forall_iff,
    and_true]
  exact ⟨hsmall (by norm_num) _, hsmall (by norm_num) _, haddress, hroot, canonical_word _,
    canonical_word _, hsmall (by norm_num) _, hsmall (by norm_num) _,
    Core.canonical_hashDomain _ _, Core.canonical_hashDomain _ _, canonical_word _,
    canonical_word _⟩

/-! ### Evidence -/

variable {T : Type} [AddCommGroup T] {e : G1 →+ G2 →+ T} {pre : Precompiles}
  {requestKey : Vault.Groth16.VerifyingKey 12} {withdrawalKey : Vault.Groth16.VerifyingKey 14}
  {verifyWithProcessedVk : VerifyWithProcessedVk} {engine : Base64.Engine}
  {verifier : RequestVerifier}

/-- What the verifier accepts is accepted by the adapter of the vault. -/
theorem assertValidRequest_of_proved (hkeys : HasKeys v P C)
    (hconfig : ForVault v chainId config) (hstate : state.Deployed v chainId)
    (hadapter : v.proofAdapter = groth16ProofAdapter pre requestKey withdrawalKey)
    (himplements : pre.Implements e) (hkey : requestKey.Encodes verifier.key)
    (hverifies : Verifies verifyWithProcessedVk e) (hroot : args.activeRoot.Canonical)
    {built : NoteState}
    (h : buildRequest keccak256 config (some state) args = .ok (built, request))
    (hproves : Proves engine e verifier.key request.publicInputs args.proved) :
  verifier.verify verifyWithProcessedVk engine request.publicInputs request.proof = .ok true
    ∧ ∃ bytes, engine.decode request.proof.proof = some bytes
      ∧ v.proofAdapter.assertValidRequest request.publicInputs.toVault (toBytes bytes) = true
  := by
  obtain ⟨_, _, _, _, hpub, hproof⟩ := proved_of_buildRequest h
  obtain ⟨decoded, bytes, hdecoded, hdecode, hspells, hwire, hverify⟩ :=
    RequestVerifier.verify_proveRequest hverifies hproves hproof
  refine ⟨hverify, bytes, hdecode, ?_⟩
  have haddress : request.publicInputs.contractAddress.toNat < 2 ^ 160 := by
    rw [hpub]
    exact address_lt hstate
  have hcanonical : ∀ i, (request.publicInputs.toFieldElements i).Canonical := by
    rw [hpub]
    exact canonical_requestPublicInputs hkeys hconfig hstate hroot
  rw [hwire, RequestVerifier.verify_eq_ok hverifies hdecoded] at hverify
  rw [hadapter]
  show Vault.Groth16.assertValid pre requestKey request.publicInputs.toVault.values (toBytes bytes)
    = true
  rw [RequestPublicInputsV2.values_toVault haddress]
  exact (Vault.Groth16.assertValid_toBytes himplements hkey hcanonical
    (Vault.Groth16.noZeroPoint_of_spellsProof hspells)).mpr hverify

/-- A request that a wallet of the vault has built is accepted by the verifier that holds the key
of the vault.  Its proof decodes to bytes with which a withdrawal that is pending with the
nullifier of the request can be challenged before its deadline, whatever has happened in the
vault; the challenge makes the note active again. -/
theorem request_is_evidence (hkeys : HasKeys v P C) (hconfig : ForVault v chainId config)
    (hstate : state.Deployed v chainId)
    (hadapter : v.proofAdapter = groth16ProofAdapter pre requestKey withdrawalKey)
    (himplements : pre.Implements e) (hkey : requestKey.Encodes verifier.key)
    (hverifies : Verifies verifyWithProcessedVk e) (hroot : args.activeRoot.Canonical)
    {built : NoteState}
    (h : buildRequest keccak256 config (some state) args = .ok (built, request))
    (hproves : Proves engine e verifier.key request.publicInputs args.proved) :
  verifier.verify verifyWithProcessedVk engine request.publicInputs request.proof = .ok true
    ∧ ∃ bytes, engine.decode request.proof.proof = some bytes
      ∧ ∀ (actions : List Action) (w : World) (env : Env) (n : U32), Reachable v actions w →
        Vault.CollisionFree { p | p ∈ Vault.hashedPairs v actions } →
        (w.ledger.notes n).status = .pendingWithdrawal →
        (w.ledger.pendingWithdrawals n).withdrawalNullifier = state.nullifier →
        env.timestamp.toNat < (w.ledger.pendingWithdrawals n).challengeDeadline.toNat →
        env.chainid = chainId.setWidth 256 → env.value = 0 →
        ∃ siblings r,
          Vault.execute v env w (.challengeEscapeWithdrawal n request.publicInputs.toVault
              (toBytes bytes) siblings) = .ok r
            ∧ (r.world.ledger.notes n).status = .active
            ∧ r.world.ledger.usedNullifiers state.nullifier = true
  := by
  obtain ⟨hverify, bytes, hdecode, hvalid⟩ := assertValidRequest_of_proved hkeys hconfig hstate
    hadapter himplements hkey hverifies hroot h hproves
  obtain ⟨_, _, _, _, hpub, -⟩ := proved_of_buildRequest h
  refine ⟨hverify, bytes, hdecode, ?_⟩
  intro actions w env n hreach hcollision hstatus hnullifier htime hchain hvalue
  have hbound : ¬ Vault.requestMismatch v env request.publicInputs.toVault := by
    rw [hpub]
    exact not_requestMismatch hconfig hstate hchain
  have hsame : request.publicInputs.toVault.requestNullifier = state.nullifier := by
    rw [hpub]
    rfl
  have htree := (hreach.rooted hcollision fun _ hp => hp).root_eq
  have hpresent := (hreach.conserved.pending n).mpr hstatus
  have hexecute := Vault.challenge_siblingPath htree hvalue hstatus hpresent htime hbound
    (hsame.trans hnullifier.symm) hvalid
  refine ⟨_, _, hexecute, ?_, ?_⟩
  · simp [Vault.Ledger.restored]
  · show (w.ledger.restored n).usedNullifiers state.nullifier = true
    rw [← hnullifier]
    exact hreach.recorded.pending n hstatus

end

namespace EvidenceExample

open Vault.OwnershipExample (block ledger)
open Vault.ChallengeExample (deposit depositPairs)
open Vault.Groth16.VerifiersExample (precompiles words key words_encodes key_accepts bytes_accepted)
open WithdrawExample (config state)

/-- A vault with the contracts of a pairing. -/
noncomputable def vault : Deployment :=
  { Vault.OwnershipExample.vault with
    proofAdapter := groth16ProofAdapter (precompiles Vault.Groth16.VerifiersExample.e) (words 12)
      (words 14) }

theorem hasKeys :
  HasKeys vault generator generator
  := ⟨generator_mem, generator_mem, WithdrawExample.hasKeys.state_eq,
    WithdrawExample.hasKeys.clear_eq⟩

theorem forVault :
  ForVault vault 1 config
  where
  protocolVersion := rfl
  chainId := rfl
  contractAddress := rfl
  stateSigningKey := WithdrawExample.forVault.stateSigningKey
  clearanceSigningKey := WithdrawExample.forVault.clearanceSigningKey

theorem deployed :
  state.Deployed vault 1
  := ⟨rfl, rfl, rfl⟩

/-! #### The escape -/

/-- The public inputs of the escape. -/
def inputs : Vault.WithdrawalPublicInputs :=
  (withdrawalPublicInputs config state 7 ledger.currentRoot false).toVault

/-- The ledger while the note is pending. -/
def pendingLedger : Vault.Ledger :=
  ledger.escaped inputs 1700086400

/-- The outcome of the escape. -/
def escapeReceipt : Vault.Receipt where
  world := { Vault.OwnershipExample.deposited with ledger := pendingLedger }
  sent := []
  events := [.escapeWithdrawalInitiated 0 state.nullifier 10 7 1700086400 (ledger.rootWith 0 0)]

/-- The escape of the note. -/
def escape : Action :=
  .call block
    (.initiateEscapeWithdrawal inputs (toBytes Vault.Groth16.VerifiersExample.bytes)
      (Vault.siblingPath ledger 0))
    escapeReceipt

/-- The state while the note is pending. -/
def pendingWorld : World :=
  { escapeReceipt.world with now := 1700000000 }

theorem root_eq :
  (mirrorOf WithdrawExample.actions).root = ledger.currentRoot
  := WithdrawExample.together.agrees.root_eq

theorem canonical_root :
  Felt252.Canonical ledger.currentRoot
  := by
  rw [← root_eq]
  exact canonical_of_verifyMembership
    (WithdrawExample.together.member (.inl rfl) WithdrawExample.active)

theorem inputs_valid :
  vault.proofAdapter.assertValidWithdrawal inputs
    (toBytes Vault.Groth16.VerifiersExample.bytes) = true
  := by
  have hvalues : ∀ i, (inputs.values i).toNat < fieldModulus :=
    values_lt hasKeys forVault canonical_root
  have hcall : ∀ proof, vault.proofAdapter.assertValidWithdrawal inputs proof
      = Vault.Groth16.assertValid (precompiles Vault.Groth16.VerifiersExample.e) (words 14)
        inputs.values proof := fun _ => rfl
  rw [hcall]
  exact (Vault.Groth16.assertValid_toBytes Vault.Groth16.VerifiersExample.implements
    (words_encodes 14) hvalues Vault.Groth16.VerifiersExample.noZeroPoint).mpr
    ⟨Vault.Groth16.VerifiersExample.spellsProof, bytes_accepted _⟩

theorem escape_ok :
  Vault.execute vault block Vault.OwnershipExample.deposited
      (.initiateEscapeWithdrawal inputs (toBytes Vault.Groth16.VerifiersExample.bytes)
        (Vault.siblingPath ledger 0))
    = .ok escapeReceipt
  := by
  have hbound : ¬ Vault.withdrawalMismatch vault block inputs :=
    not_withdrawalMismatch forVault deployed rfl
  have hdeadline : Vault.checkedAdd (block.timestamp.setWidth 64) vault.challengePeriod
      = .ok 1700086400 := rfl
  apply Vault.escape_siblingPath (w := Vault.OwnershipExample.deposited)
    Vault.ChallengeExample.ledger_root rfl rfl hbound rfl rfl inputs_valid rfl _ rfl hdeadline
  exact BitVec.le_refl _

theorem reachable :
  Reachable vault [deposit, escape] pendingWorld
  := by
  have hdeposit : Vault.Step vault Vault.tokenWorld deposit Vault.OwnershipExample.deposited :=
    .call (by decide) (by decide) (Vault.ChallengeExample.deposit_ok _)
  have hescape : Vault.Step vault Vault.OwnershipExample.deposited escape pendingWorld :=
    .call (by decide) (by decide) escape_ok
  exact ⟨9, 1700000000, 0, { Vault.OwnershipExample.args with proofAdapter := vault.proofAdapter },
    Vault.tokenWorld, rfl, (Run.single hdeposit).append (.single hescape)⟩

theorem collisionFree :
  Vault.CollisionFree { p | p ∈ Vault.hashedPairs vault [deposit, escape] }
  := Vault.ChallengeExample.collisionFree

/-! #### The request -/

/-- The arguments of a request that is prepared before the escape. -/
noncomputable def args : PrepareArgs :=
  { NoteExample.prepareArgs 1700000000 with
    activeRoot := (mirrorOf WithdrawExample.actions).root
    merkleSiblings := List.ofFn ((mirrorOf WithdrawExample.actions).getPath state.noteId)
    proved := .ok (proofToWire Base64.standard GeneratorExample.proof) }

/-- The request of the wallet. -/
noncomputable def request : ApiRequestV2 :=
  requestOf config state args NoteExample.requestContext (scalarToFelt 1)
    (proofToWire Base64.standard GeneratorExample.proof)

theorem buildRequest_eq :
  buildRequest Keccak.keccak256 config (some state) args = .ok (state, request)
  := by
  have hsecret : residue (1 : Felt252) ≠ 0 := by decide +kernel
  have hspendable : Spendable config.stateSigningKey state :=
    spendable_depositState config 0 10 1700092800 1 hsecret
  have hstored : Stored state (scalarToFelt 1) := stored_depositState config 1 0 10 1700092800 1
  have hkey : pointFromWire config.stateSigningKey = .ok generator := by
    rw [forVault.stateSigningKey]
    exact hasKeys.pointFromWire_state
  have hmember := WithdrawExample.together.member (.inl rfl) WithdrawExample.active
  have hbound : config.chargeCap ≤ state.currentBalance := by decide +kernel
  have htime : args.requestTime ≤ state.expiryTs :=
    (by decide : (1700000000 : U64) ≤ (1700092800 : U64))
  exact hspendable.buildRequest hkey hstored NoteExample.payloadHash_eq
    NoteExample.requestContext_eq (tryIntoArray_ofFn _) hmember hbound htime rfl rfl

theorem proves :
  Proves Base64.standard Vault.Groth16.VerifiersExample.e (key 12) request.publicInputs args.proved
  := by
  rintro decoded wire - - hproved
  obtain rfl := Except.ok.inj hproved
  exact ⟨GeneratorExample.proof, GeneratorExample.proof_valid, rfl, key_accepts _⟩

/-- The note escapes with its first nullifier, and the request that the wallet had prepared
before is evidence against it. -/
theorem request_is_evidence_escape :
  ∃ bytes siblings r, Base64.standard.decode request.proof.proof = some bytes
    ∧ Vault.execute vault block pendingWorld
        (.challengeEscapeWithdrawal 0 request.publicInputs.toVault (toBytes bytes) siblings) = .ok r
    ∧ (r.world.ledger.notes 0).status = .active
  := by
  have hroot : args.activeRoot.Canonical := by
    show (mirrorOf WithdrawExample.actions).root.Canonical
    exact canonical_of_verifyMembership
      (WithdrawExample.together.member (.inl rfl) WithdrawExample.active)
  have hkey : (words 12).Encodes (RequestVerifier.mk (key 12)).key := words_encodes 12
  obtain ⟨-, bytes, hdecode, hevidence⟩ := request_is_evidence hasKeys forVault deployed rfl
    Vault.Groth16.VerifiersExample.implements hkey
    Vault.Groth16.VerifiersExample.verifies hroot buildRequest_eq proves
  obtain ⟨siblings, r, hexecute, hactive, -⟩ := hevidence [deposit, escape] pendingWorld block 0
    reachable collisionFree rfl rfl (by decide) rfl rfl
  exact ⟨bytes, siblings, r, hdecode, hexecute, hactive⟩

end EvidenceExample

end ZkApi.Client
