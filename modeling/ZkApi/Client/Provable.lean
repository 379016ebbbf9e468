import ZkApi.Client.Spendable

/-!
# What is proved of a spendable state

The circuits that the wallet builds from a state that can be spent are satisfied: that of a
request as long as the balance covers the bound and the note has not expired, that of an escape
always, and that of a mutual close with a clearance that was verified.
-/

namespace ZkApi.Core

/-- The two ways up a path lead to the same root. -/
theorem computeRoot_eq_merkleRoot (index : U32) (leaf : Felt252) (siblings : Fin 32 → Felt252) :
  computeRoot index leaf siblings = merkleRoot index leaf siblings
  := by rw [computeRoot_eq_climb, merkleRoot_eq_climb]

theorem residue_merkleRoot (noteId : U32) (leaf : Felt252) (siblings : Fin 32 → Felt252) :
  residue (merkleRoot noteId leaf siblings)
    = ZkApi.merkleRoot noteId (residue leaf) fun level => residue (siblings level)
  := by
  rw [merkleRoot, ZkApi.merkleRoot]
  symm
  apply List.foldl_hom residue
  intro current level
  split <;> rw [residue_merkleNode]

end ZkApi.Core

namespace ZkApi.Compact

/-- What is verified is the decoded signature under the decoded key. -/
theorem verifySignature_eq_ok_true {publicKey : CurvePointWire} {message : Felt252}
    {signature : SchnorrSignature} :
  verifySignature publicKey message signature = .ok true
    ↔ ∃ P decoded, pointFromWire publicKey = .ok P ∧ signatureFromWire signature = .ok decoded
      ∧ verifyStateSignature P (residue message) decoded
  := by
  simp only [verifySignature, bind_eq_ok, pure, Except.pure, Except.ok.injEq, decide_eq_true_eq]
  constructor
  · rintro ⟨P, hP, decoded, hdecoded, hverify⟩
    exact ⟨P, decoded, hP, hdecoded, hverify⟩
  · rintro ⟨P, decoded, hP, hdecoded, hverify⟩
    exact ⟨P, hP, decoded, hdecoded, hverify⟩

/-- The nonce point of a signature that is decoded is in the subgroup. -/
theorem signatureFromWire_mem {signature : SchnorrSignature} {decoded : StateSignature}
    (h : signatureFromWire signature = .ok decoded) :
  decoded.r ∈ primeSubgroup
  := by
  rw [signatureFromWire, bind_eq_ok] at h
  obtain ⟨r, hr, hdecoded⟩ := h
  obtain rfl := Except.ok.inj hdecoded
  exact (pointFromWire_eq_ok.mp hr).1

/-- The signature that stands for a missing one is decoded. -/
theorem signatureFromWire_identity :
  signatureFromWire .IDENTITY = .ok ⟨0, 0⟩
  := by
  have hpoint : pointFromWire ⟨SchnorrSignature.IDENTITY.rX, SchnorrSignature.IDENTITY.rY⟩
      = .ok 0 := by
    apply pointFromWire_eq_ok.mpr
    exact ⟨primeSubgroup.zero_mem, Nat.cast_zero.symm, Nat.cast_one.symm⟩
  have hscalar : scalar SchnorrSignature.IDENTITY.s = 0 := Nat.cast_zero
  rw [signatureFromWire, hpoint, ← hscalar]
  rfl

end ZkApi.Compact

namespace ZkApi.Client

open ZkApi.Compact FaultIO

section

variable {key : CurvePointWire} {P : EdwardsAffine} {state : NoteState} {blinding : Felt252}

/-! ### States as the circuits see them -/

theorem residue_stateNoteLeaf (state : NoteState) :
  residue (stateNoteLeaf state)
    = noteLeaf state.noteId (registrationCommitment (residue state.secretS)) state.depositAmount
      state.expiryTs
  := by rw [stateNoteLeaf, Core.residue_noteLeaf, Core.residue_registrationCommitment]

/-- The message of a state whose commitment is stored. -/
theorem Stored.residue_message (h : Stored state blinding) :
  residue state.message
    = stateMessage state.protocolVersion.toNat state.chainId.toNat
      (residue state.contractAddress) (state.commitment blinding) (residue state.currentAnchor)
  := by
  rw [← residue_stateMessage, h.commitment]
  rfl

/-- A member of the tree leads to its root. -/
theorem merkleRoot_of_member {activeRoot : Felt252} {siblings : Fin 32 → Felt252}
    (h : Core.verifyMembership activeRoot state.noteId (stateNoteLeaf state) siblings = true) :
  merkleRoot state.noteId (residue (stateNoteLeaf state)) (fun level => residue (siblings level))
    = residue activeRoot
  := by
  rw [Core.verifyMembership, beq_iff_eq, Core.computeRoot_eq_merkleRoot] at h
  rw [← h, Core.residue_merkleRoot]

/-- What the circuits ask of the state signature. -/
structure Authorized (P : EdwardsAffine) (state : NoteState) (decoded : StateSignature) :
    Prop where
  signature : signatureFromWire (state.stateSignature.getD .IDENTITY) = .ok decoded
  genesis : state.isGenesis = true →
    state.currentAnchor = 1 ∧ state.currentBalance = state.depositAmount
  signed : state.isGenesis = false → verifyStateSignature P (residue state.message) decoded

theorem Spendable.authorized (h : Spendable key state) (hkey : pointFromWire key = .ok P) :
  ∃ decoded, Authorized P state decoded
  := by
  obtain hgenesis | ⟨signature, hsigned⟩ := h.origin
  · use ⟨0, 0⟩
    constructor
    case signature =>
      rw [hgenesis.unsigned]
      exact signatureFromWire_identity
    case genesis => exact fun _ => ⟨hgenesis.anchor, hgenesis.balance⟩
    case signed =>
      rw [hgenesis.isGenesis]
      rintro ⟨⟩
  · obtain ⟨Q, decoded, hQ, hdecoded, hverify⟩ :=
      verifySignature_eq_ok_true.mp hsigned.verified
    rw [hkey] at hQ
    obtain rfl := Except.ok.inj hQ
    use decoded
    constructor
    case signature =>
      rw [hsigned.signed]
      exact hdecoded
    case genesis =>
      rw [hsigned.isGenesis]
      rintro ⟨⟩
    case signed => exact fun _ => hverify

/-! ### Requests -/

/-- The public part of a request, decoded. -/
def decodedRequestPublic (P : EdwardsAffine) (state : NoteState) (activeRoot : Felt252)
    (requestTime : U64) (solvencyBound : U128) (requestContext : Felt252)
    (anonymous : EdwardsAffine) : RequestPublic where
  protocolVersion := state.protocolVersion
  chainId := state.chainId
  contractAddress := residue state.contractAddress
  activeRoot := residue activeRoot
  stateSigningKey := P
  requestTime
  solvencyBound
  requestNullifier := residue state.nullifier
  authorizationTag := residue (Core.authorizationTag state.nullifier requestContext)
  anonymousCommitment := anonymous

/-- The witness of a request, decoded. -/
def decodedRequestWitness (state : NoteState) (siblings : Fin 32 → Felt252)
    (requestContext blinding rerandomization : Felt252) (decoded : StateSignature) :
    RequestWitness where
  secret := residue state.secretS
  requestContext := residue requestContext
  noteId := state.noteId
  depositAmount := state.depositAmount
  expiry := state.expiryTs
  merkleSiblings := fun level => residue (siblings level)
  currentBalance := state.currentBalance
  currentBlinding := scalar blinding
  rerandomization := scalar rerandomization
  currentAnchor := residue state.currentAnchor
  isGenesis := state.isGenesis
  stateSignature := decoded

section

variable {activeRoot : Felt252} {siblings : Fin 32 → Felt252} {requestTime : U64}
  {solvencyBound : U128} {decoded : StateSignature}

/-- The statement of a request holds of a state that can be spent. -/
theorem Spendable.requestStatement (h : Spendable key state)
    (hauthorized : Authorized P state decoded) (hstored : Stored state blinding)
    (hmember :
      Core.verifyMembership activeRoot state.noteId (stateNoteLeaf state) siblings = true)
    (hbound : solvencyBound ≤ state.currentBalance) (htime : requestTime ≤ state.expiryTs)
    (requestContext rerandomization : Felt252) :
  RequestStatement
    (decodedRequestPublic P state activeRoot requestTime solvencyBound requestContext
      (anonymousCommitment state blinding rerandomization)).toFieldElements
    P requestTime solvencyBound
    (decodedRequestWitness state siblings requestContext blinding rerandomization decoded)
  := by
  have hcommitment : (decodedRequestWitness state siblings requestContext blinding
      rerandomization decoded).commitment = state.commitment blinding := by
    rw [NoteState.commitment, residue_stateNoteLeaf]
    rfl
  constructor
  case requestTime_eq | solvencyBound_eq => rfl
  case secret_ne_zero => exact h.secret
  case requestTime_le => exact BitVec.le_def.mp htime
  case solvencyBound_le => exact BitVec.le_def.mp hbound
  case root_eq =>
    have hroot := merkleRoot_of_member hmember
    rw [residue_stateNoteLeaf] at hroot
    exact hroot
  case genesis =>
    intro hgenesis
    obtain ⟨hanchor, hbalance⟩ := hauthorized.genesis hgenesis
    exact ⟨(congrArg residue hanchor).trans Nat.cast_one, hbalance⟩
  case signed =>
    intro hgenesis
    have hverify := hauthorized.signed hgenesis
    rw [hstored.residue_message] at hverify
    rw [hcommitment]
    exact hverify
  case anonymous_eq =>
    rw [hcommitment]
    exact ⟨rfl, rfl⟩
  case nullifier_eq => exact (Core.residue_nullifier _ _).symm
  case tag_eq => exact (Core.residue_authorizationTag _ _).symm

/-- A request of a state that can be spent satisfies its circuit. -/
theorem Spendable.validateRequest {config : ClientConfig}
    (h : Spendable config.stateSigningKey state)
    (hkey : pointFromWire config.stateSigningKey = .ok P) (hstored : Stored state blinding)
    (hmember :
      Core.verifyMembership activeRoot state.noteId (stateNoteLeaf state) siblings = true)
    (hbound : solvencyBound ≤ state.currentBalance) (htime : requestTime ≤ state.expiryTs)
    (requestContext rerandomization : Felt252) :
  Compact.validateRequest
      (requestPublicInputs config state activeRoot requestTime solvencyBound requestContext
        (pointToWire (anonymousCommitment state blinding rerandomization)))
      (requestWitnessData state siblings requestContext blinding rerandomization)
    = .ok ()
  := by
  obtain ⟨decoded, hauthorized⟩ := h.authorized hkey
  have hcircuit : requestCircuit
      (requestPublicInputs config state activeRoot requestTime solvencyBound requestContext
        (pointToWire (anonymousCommitment state blinding rerandomization)))
      (requestWitnessData state siblings requestContext blinding rerandomization)
      = .ok (decodedRequestPublic P state activeRoot requestTime solvencyBound requestContext
          (anonymousCommitment state blinding rerandomization),
        decodedRequestWitness state siblings requestContext blinding rerandomization decoded) := by
    have hanonymous := pointFromWire_pointToWire
      (anonymousCommitment_mem state blinding rerandomization)
    rw [requestCircuit, requestPublicFromWire]
    simp only [requestPublicInputs, requestWitnessData]
    rw [hkey, hanonymous, hauthorized.signature]
    rfl
  have hstatement := h.requestStatement hauthorized hstored hmember hbound htime requestContext
    rerandomization
  rw [Compact.validateRequest, hcircuit]
  apply if_pos
  apply hstatement.constraints (pointFromWire_eq_ok.mp hkey).1 rfl rfl ⟨rfl, rfl⟩
  exact signatureFromWire_mem hauthorized.signature

end

/-- What a request of a state is made of. -/
def requestOf (config : ClientConfig) (state : NoteState) (args : PrepareArgs)
    (requestContext blinding : Felt252) (proof : Groth16ProofWire) : ApiRequestV2 where
  clientRequestId := args.clientRequestId
  payload := args.payload
  payloadHash := args.payloadHash
  publicInputs := requestPublicInputs config state args.activeRoot args.requestTime
    config.chargeCap requestContext
    (pointToWire (anonymousCommitment state blinding (scalarToFelt args.rerandomization)))
  proof

/-- A request is built from a state that can be spent. -/
theorem Spendable.buildRequest {keccak256 : List UInt8 → List UInt8} {config : ClientConfig}
    {args : PrepareArgs} {siblings : Fin 32 → Felt252} {requestContext : Felt252}
    {proof : Groth16ProofWire} (h : Spendable config.stateSigningKey state)
    (hkey : pointFromWire config.stateSigningKey = .ok P) (hstored : Stored state blinding)
    (hpayload : canonicalPayloadHash keccak256 args.payload = .ok args.payloadHash)
    (hcontext :
      canonicalRequestContext keccak256 args.clientRequestId args.payloadHash = .ok requestContext)
    (hsiblings : tryIntoArray args.merkleSiblings = some siblings)
    (hmember :
      Core.verifyMembership args.activeRoot state.noteId (stateNoteLeaf state) siblings = true)
    (hbound : config.chargeCap ≤ state.currentBalance) (htime : args.requestTime ≤ state.expiryTs)
    (hloaded : args.loaded = .ok ()) (hproved : args.proved = .ok proof) :
  Client.buildRequest keccak256 config (some state) args
    = .ok (state, requestOf config state args requestContext blinding proof)
  := by
  have hvalid := h.validateRequest hkey hstored hmember hbound htime requestContext
    (scalarToFelt args.rerandomization)
  have hproof : proveRequest
      (requestPublicInputs config state args.activeRoot args.requestTime config.chargeCap
        requestContext
        (pointToWire (anonymousCommitment state blinding (scalarToFelt args.rerandomization))))
      (requestWitnessData state siblings requestContext blinding
        (scalarToFelt args.rerandomization)) args.proved
      = .ok proof := by
    rw [proveRequest, hvalid]
    exact hproved
  have hcommitment := hstored.commitment
  simp only [Client.buildRequest, bind_eq_ok, orPanic_eq_ok, mapErr_eq_ok, failIf_eq_ok,
    okOr_eq_ok, parseScalar_eq_ok, ensureStoredCommitment_eq_ok, pure, Except.pure,
    Except.ok.injEq]
  refine ⟨_, hpayload, (), ?_, state, rfl, (), ?_, siblings, ?_, blinding, hstored.parsed, (),
    hcommitment, _, rerandomize_pointToWire (state.commitment_mem blinding) _, _, hcontext, (),
    hloaded, proof, hproof, rfl⟩
  · exact fun hne => hne rfl
  · exact BitVec.not_lt.mpr hbound
  · rw [siblingsArray, hsiblings]

/-! ### Withdrawals -/

/-- The public part of a withdrawal, decoded. -/
def decodedWithdrawalPublic (P C : EdwardsAffine) (state : NoteState) (destination : Address)
    (activeRoot : Felt252) (hasClearance : Bool) : WithdrawalPublic where
  protocolVersion := state.protocolVersion
  chainId := state.chainId
  contractAddress := residue state.contractAddress
  activeRoot := residue activeRoot
  stateSigningKey := P
  clearanceSigningKey := C
  noteId := state.noteId
  finalBalance := state.currentBalance
  destination := residue (destination.setWidth 256)
  withdrawalNullifier := residue state.nullifier
  hasClearance
  withdrawalTag := residue (Core.withdrawalTag state.nullifier (destination.setWidth 256)
    state.currentBalance hasClearance)

/-- The witness of a withdrawal, decoded. -/
def decodedWithdrawalWitness (state : NoteState) (siblings : Fin 32 → Felt252)
    (blinding : Felt252) (decoded clearance : StateSignature) : WithdrawalWitness where
  secret := residue state.secretS
  depositAmount := state.depositAmount
  expiry := state.expiryTs
  merkleSiblings := fun level => residue (siblings level)
  finalBlinding := scalar blinding
  currentAnchor := residue state.currentAnchor
  isGenesis := state.isGenesis
  stateSignature := decoded
  clearanceSignature := clearance

/-- The message of a clearance. -/
def NoteState.clearanceMessage (state : NoteState) : Felt252 :=
  Core.clearanceMessage state.protocolVersion state.chainId state.contractAddress
    state.nullifier

section

variable {C : EdwardsAffine} {activeRoot : Felt252} {siblings : Fin 32 → Felt252}
  {hasClearance : Bool} {decoded clearance : StateSignature}

/-- The statement of a withdrawal holds of a state that can be spent. -/
theorem Spendable.withdrawalStatement (h : Spendable key state)
    (hauthorized : Authorized P state decoded) (hstored : Stored state blinding)
    (hmember :
      Core.verifyMembership activeRoot state.noteId (stateNoteLeaf state) siblings = true)
    (hcleared : hasClearance = true →
      verifyStateSignature C (residue state.clearanceMessage) clearance)
    (destination : Address) :
  WithdrawalStatement
    (decodedWithdrawalPublic P C state destination activeRoot hasClearance).toFieldElements
    (decodedWithdrawalPublic P C state destination activeRoot hasClearance).typed
    (decodedWithdrawalWitness state siblings blinding decoded clearance)
  := by
  have hcommitment :
      (decodedWithdrawalWitness state siblings blinding decoded clearance).commitment state.noteId
        state.currentBalance = state.commitment blinding := by
    rw [NoteState.commitment, residue_stateNoteLeaf]
    rfl
  constructor
  case noteId_eq | finalBalance_eq | hasClearance_eq => rfl
  case secret_ne_zero => exact h.secret
  case finalBalance_le => exact BitVec.le_def.mp h.balance
  case root_eq =>
    have hroot := merkleRoot_of_member hmember
    rw [residue_stateNoteLeaf] at hroot
    exact hroot
  case genesis =>
    intro hgenesis
    obtain ⟨hanchor, hbalance⟩ := hauthorized.genesis hgenesis
    exact ⟨(congrArg residue hanchor).trans Nat.cast_one, hbalance⟩
  case signed =>
    intro hgenesis
    have hverify := hauthorized.signed hgenesis
    rw [hstored.residue_message, ← hcommitment] at hverify
    exact hverify
  case nullifier_eq => exact (Core.residue_nullifier _ _).symm
  case tag_eq => exact (Core.residue_withdrawalTag _ _ _ _).symm
  case cleared =>
    intro hclearance
    have hverify := hcleared hclearance
    rw [NoteState.clearanceMessage, Core.residue_clearanceMessage] at hverify
    exact hverify

/-- A withdrawal of a state that can be spent satisfies its circuit, with a clearance that is
verified or without one. -/
theorem Spendable.validateWithdrawal {config : ClientConfig}
    {clearanceSignature : Option SchnorrSignature} (h : Spendable config.stateSigningKey state)
    (hkey : pointFromWire config.stateSigningKey = .ok P)
    (hclear : pointFromWire config.clearanceSigningKey = .ok C) (hstored : Stored state blinding)
    (hmember :
      Core.verifyMembership activeRoot state.noteId (stateNoteLeaf state) siblings = true)
    (hclearance : signatureFromWire (clearanceSignature.getD .IDENTITY) = .ok clearance)
    (hcleared : hasClearance = true →
      verifyStateSignature C (residue state.clearanceMessage) clearance)
    (destination : Address) :
  Compact.validateWithdrawal
      (withdrawalPublicInputs config state destination activeRoot hasClearance)
      (withdrawalWitnessData state siblings blinding clearanceSignature)
    = .ok ()
  := by
  obtain ⟨decoded, hauthorized⟩ := h.authorized hkey
  have hcircuit : withdrawalCircuit
      (withdrawalPublicInputs config state destination activeRoot hasClearance)
      (withdrawalWitnessData state siblings blinding clearanceSignature)
      = .ok (decodedWithdrawalPublic P C state destination activeRoot hasClearance,
        decodedWithdrawalWitness state siblings blinding decoded clearance) := by
    rw [withdrawalCircuit, withdrawalPublicFromWire]
    simp only [withdrawalPublicInputs, withdrawalWitnessData]
    rw [hkey, hclear, hauthorized.signature, hclearance]
    rfl
  have hstatement := h.withdrawalStatement hauthorized hstored hmember hcleared destination
  rw [Compact.validateWithdrawal, hcircuit]
  apply if_pos
  apply hstatement.constraints (pointFromWire_eq_ok.mp hkey).1 (pointFromWire_eq_ok.mp hclear).1
    rfl rfl rfl rfl
  · exact signatureFromWire_mem hauthorized.signature
  · exact signatureFromWire_mem hclearance

end

/-! ### Every reachable state -/

/-- The configurations with certain signing keys. -/
def WithKeys (stateSigningKey clearanceSigningKey : CurvePointWire) (config : ClientConfig) :
    Prop :=
  config.stateSigningKey = stateSigningKey ∧ config.clearanceSigningKey = clearanceSigningKey

/-- Every state that a run of the wallet reaches, in memory or on disk, stores its commitment,
has part of the deposit left, and is the state after the deposit or signed.  For every root that
its note is under, its requests satisfy their circuit while the balance covers the bound and the
note has not expired, and its withdrawals satisfy theirs, without a clearance and with every
clearance that is verified. -/
theorem reachable_spendable {keccak256 : List UInt8 → List UInt8} {clearanceKey : CurvePointWire}
    {C : EdwardsAffine} {config : ClientConfig} {labels : List Label} {m : Machine}
    (hkey : pointFromWire key = .ok P) (hclear : pointFromWire clearanceKey = .ok C)
    (hconfig : WithKeys key clearanceKey config)
    (hrun : Run (Step keccak256 (WithKeys key clearanceKey)) (Machine.initial config) labels m)
    (hdeposits : DepositsHaveSecrets m.session.log) (hstate : m.session.Keeps state) :
  ∃ blinding, Felt252.fromHex state.balanceBlinding = .ok blinding
    ∧ Compact.balanceCommitment state.currentBalance blinding (stateNoteLeaf state)
      = ⟨state.currentCommitmentX, state.currentCommitmentY⟩
    ∧ state.currentBalance ≤ state.depositAmount
    ∧ (Genesis state ∨ ∃ signature, Signed key state signature)
    ∧ ∀ config activeRoot siblings, WithKeys key clearanceKey config →
      Core.verifyMembership activeRoot state.noteId (stateNoteLeaf state) siblings = true →
      (∀ requestTime solvencyBound requestContext rerandomization,
        solvencyBound ≤ state.currentBalance → requestTime ≤ state.expiryTs →
        ∃ anonymous,
          rerandomize
              (Compact.balanceCommitment state.currentBalance blinding (stateNoteLeaf state))
              rerandomization
            = .ok anonymous
          ∧ validateRequest
              (requestPublicInputs config state activeRoot requestTime solvencyBound
                requestContext anonymous)
              (requestWitnessData state siblings requestContext blinding rerandomization)
            = .ok ())
      ∧ ∀ destination,
        validateWithdrawal (withdrawalPublicInputs config state destination activeRoot false)
            (withdrawalWitnessData state siblings blinding none)
          = .ok ()
        ∧ ∀ signature,
          verifySignature clearanceKey state.clearanceMessage signature = .ok true →
          validateWithdrawal (withdrawalPublicInputs config state destination activeRoot true)
              (withdrawalWitnessData state siblings blinding (some signature))
            = .ok ()
  := by
  have hkeeps := run_keepsSpendable hrun hconfig.1 (fun _ h => h.1) hdeposits
  have h := hkeeps.spendable state hstate
  obtain ⟨blinding, hstored⟩ := h.stored
  refine ⟨blinding, hstored.parsed, hstored.commitment, h.balance, h.origin, ?_⟩
  rintro config activeRoot siblings ⟨rfl, rfl⟩ hmember
  constructor
  · intro requestTime solvencyBound requestContext rerandomization hbound htime
    use pointToWire (anonymousCommitment state blinding rerandomization)
    constructor
    · exact rerandomize_pointToWire (state.commitment_mem blinding) rerandomization
    · exact h.validateRequest hkey hstored hmember hbound htime requestContext rerandomization
  · intro destination
    constructor
    · have hidentity : signatureFromWire ((none : Option SchnorrSignature).getD .IDENTITY)
          = .ok ⟨0, 0⟩ := signatureFromWire_identity
      apply h.validateWithdrawal hkey hclear hstored hmember hidentity
      rintro ⟨⟩
    · intro signature hsignature
      obtain ⟨Q, clearance, hQ, hclearance, hverify⟩ := verifySignature_eq_ok_true.mp hsignature
      rw [hclear] at hQ
      obtain rfl := Except.ok.inj hQ
      have hsome : signatureFromWire ((some signature).getD .IDENTITY) = .ok clearance :=
        hclearance
      exact h.validateWithdrawal hkey hclear hstored hmember hsome (fun _ => hverify) destination

end

namespace NoteExample

/-- The wallet after the deposit. -/
def deposited : Session :=
  (Machine.initial (config 5)).session.install state (.confirmed state)

theorem step_deposited {Configured : ClientConfig → Prop} :
  Step Keccak.keccak256 Configured (Machine.initial (config 5))
    (.call (.confirmDeposit 1 0 10 100 1) []) ⟨true, deposited⟩
  := by
  have hstate : depositState (Machine.initial (config 5)).session.config 1 0 10 100
      (scalarToFelt 1) = state := rfl
  apply Step.of_ok
  exact confirmDeposit_of_clear (clear_nil 3) rfl hstate

theorem pointFromWire_publicKey (seed : Felt252) :
  pointFromWire (CompactSigner.fromSeed seed).publicKey
    = .ok (CompactSigner.fromSeed seed).key.publicKey
  := pointFromWire_pointToWire (StateSigningKey.sound_fromSecret (scalar seed)).publicKey_mem

theorem deposits :
  DepositsHaveSecrets deposited.log
  := by
  intro confirmed hconfirmed
  obtain rfl : confirmed = state := Event.confirmed.inj (List.mem_singleton.mp hconfirmed)
  constructor <;> decide +kernel

/-- The root of a tree that has only the note. -/
def root : Felt252 :=
  Core.computeRoot state.noteId (stateNoteLeaf state) fun _ => 0

theorem member :
  Core.verifyMembership root state.noteId (stateNoteLeaf state) (fun _ => 0) = true
  := by rw [Core.verifyMembership, root, beq_self_eq_true]

theorem spendable :
  Spendable (config 5).stateSigningKey state
  := spendable_depositState _ _ _ _ _ (by decide +kernel)

/-- The arguments of a request, for its time. -/
def prepareArgs (requestTime : U64) : PrepareArgs where
  payload := ""
  payloadHash := 0xd21a1cd67cd021ce042d269fc729cdaa783e49d8167835436b0bd072d9733d6
  activeRoot := root
  merkleSiblings := List.replicate 32 0
  rerandomization := 1
  clientRequestId := "request"
  requestTime
  createdAt := 0
  loaded := .ok ()
  proved := .ok {
    backend := .groth16Bn254
    proof := "" }

theorem payloadHash_eq :
  canonicalPayloadHash Keccak.keccak256 "" = .ok (prepareArgs 0).payloadHash
  := by decide +kernel

def requestContext : Felt252 :=
  0x0d72951294be55243ee0bb43b48448f2e34cab54136c031d91ceed83a49ef53a

theorem requestContext_eq :
  canonicalRequestContext Keccak.keccak256 "request" (prepareArgs 0).payloadHash
    = .ok requestContext
  := by decide +kernel

/-- The request of a deposit, for its time. -/
def request (requestTime : U64) : ApiRequestV2 :=
  requestOf (config 5) state (prepareArgs requestTime) requestContext (scalarToFelt 1)
    { backend := .groth16Bn254
      proof := "" }

theorem buildRequest_eq {requestTime : U64} (h : requestTime ≤ 100) :
  buildRequest Keccak.keccak256 (config 5) (some state) (prepareArgs requestTime)
    = .ok (state, request requestTime)
  := by
  have hbound : (config 5).chargeCap ≤ state.currentBalance := by
    decide +kernel
  exact spendable.buildRequest (pointFromWire_publicKey 1) stored payloadHash_eq
    requestContext_eq rfl member hbound h rfl rfl

/-- The deposit can be withdrawn. -/
theorem spendable_deposited :
  ∃ blinding,
    validateWithdrawal (withdrawalPublicInputs (config 5) state 7 root false)
        (withdrawalWitnessData state (fun _ => 0) blinding none)
      = .ok ()
  := by
  have hkeys : WithKeys (CompactSigner.fromSeed 1).publicKey (CompactSigner.fromSeed 2).publicKey
      (config 5) := ⟨rfl, rfl⟩
  have hkeeps : deposited.Keeps state := .inl rfl
  obtain ⟨blinding, _, _, _, _, hprovable⟩ := reachable_spendable (pointFromWire_publicKey 1)
    (pointFromWire_publicKey 2) hkeys (.single step_deposited) deposits hkeeps
  obtain ⟨_, hwithdrawal⟩ := hprovable (config 5) root _ hkeys member
  exact ⟨blinding, (hwithdrawal 7).1⟩

end NoteExample

end ZkApi.Client
