import Mathlib.Data.Fin.VecNotation
import ZkApi.Library.Pairing
import ZkApi.Proof.Codec
import ZkApi.Proof.Compact

/-!
# Verifiers on the wire types

The verifiers of the proof crate check the backend, decode the proof and the public inputs, and
hand both to the verifier of the Groth16 library, which is a parameter.  A proof is accepted
exactly when its text encodes bytes that spell a valid proof, and the points of that proof
satisfy the equation of the key for the vector of public inputs.
-/

namespace ZkApi

/-! ### Vectors of public inputs -/

/-- The public inputs of a request, as a vector. -/
def RequestInputs.vector (inputs : RequestInputs) : Fin 12 → Fr :=
  ![inputs.protocolVersion, inputs.chainId, inputs.contractAddress, inputs.activeRoot,
    inputs.stateSigningKeyX, inputs.stateSigningKeyY, inputs.requestTime, inputs.solvencyBound,
    inputs.requestNullifier, inputs.authorizationTag, inputs.anonymousCommitmentX,
    inputs.anonymousCommitmentY]

/-- The public inputs of a withdrawal, as a vector. -/
def WithdrawalInputs.vector (inputs : WithdrawalInputs) : Fin 14 → Fr :=
  ![inputs.protocolVersion, inputs.chainId, inputs.contractAddress, inputs.activeRoot,
    inputs.stateSigningKeyX, inputs.stateSigningKeyY, inputs.clearanceSigningKeyX,
    inputs.clearanceSigningKeyY, inputs.noteId, inputs.finalBalance, inputs.destination,
    inputs.withdrawalNullifier, inputs.hasClearance, inputs.withdrawalTag]

/-- `to_field_elements` of the wire type. -/
def RequestPublicInputsV2.toFieldElements (pub : RequestPublicInputsV2) : Fin 12 → Felt252 :=
  ![pub.protocolVersion.setWidth 256, pub.chainId.setWidth 256, pub.contractAddress,
    pub.activeRoot, pub.stateSigningKeyX, pub.stateSigningKeyY, pub.requestTime.setWidth 256,
    pub.solvencyBound.setWidth 256, pub.requestNullifier, pub.authorizationTag,
    pub.anonymousCommitmentX, pub.anonymousCommitmentY]

/-- `to_field_elements` of the wire type. -/
def WithdrawalPublicInputsV2.toFieldElements (pub : WithdrawalPublicInputsV2) :
    Fin 14 → Felt252 :=
  ![pub.protocolVersion.setWidth 256, pub.chainId.setWidth 256, pub.contractAddress,
    pub.activeRoot, pub.stateSigningKeyX, pub.stateSigningKeyY, pub.clearanceSigningKeyX,
    pub.clearanceSigningKeyY, pub.noteId.setWidth 256, pub.finalBalance.setWidth 256,
    pub.destinationField, pub.withdrawalNullifier, if pub.hasClearance then 1 else 0,
    pub.withdrawalTag]

end ZkApi

namespace ZkApi.Compact

open Bn254

/-! ### Verifiers -/

/-- `ensure_backend`. -/
def ensureBackend (proof : Groth16ProofWire) : Except Failure Unit :=
  failIf (proof.backend ≠ .groth16Bn254) (.message "expected groth16_bn254 proof backend")

/-- `RequestVerifier`. -/
structure RequestVerifier where
  key : Pairing.VerifyingKey G1 G2 12

/-- `WithdrawalVerifier`. -/
structure WithdrawalVerifier where
  key : Pairing.VerifyingKey G1 G2 14

/-- The verifier of the Groth16 library, for a key that it has prepared. -/
abbrev VerifyWithProcessedVk : Type :=
  (n : ℕ) → Pairing.VerifyingKey G1 G2 n → (Fin n → Fr) → Proof → Except String Bool

section

variable (verifyWithProcessedVk : VerifyWithProcessedVk) (engine : Base64.Engine)

/-- `RequestVerifier::verify`. -/
def RequestVerifier.verify (verifier : RequestVerifier) (pub : RequestPublicInputsV2)
    (proof : Groth16ProofWire) : Except Failure Bool := do
  ensureBackend proof
  let proof ← proofFromWire engine proof
  let decoded ← requestPublicFromWire pub
  (verifyWithProcessedVk 12 verifier.key decoded.toFieldElements.vector proof).mapError
    fun error => .message s!"request verification failed: {error}"

/-- `WithdrawalVerifier::verify`. -/
def WithdrawalVerifier.verify (verifier : WithdrawalVerifier) (pub : WithdrawalPublicInputsV2)
    (proof : Groth16ProofWire) : Except Failure Bool := do
  ensureBackend proof
  let proof ← proofFromWire engine proof
  let decoded ← withdrawalPublicFromWire pub
  (verifyWithProcessedVk 14 verifier.key decoded.toFieldElements.vector proof).mapError
    fun error => .message s!"withdrawal verification failed: {error}"

end

/-! ### Public inputs -/

theorem vector_of_requestPublicFromWire {pub : RequestPublicInputsV2} {decoded : RequestPublic}
    (h : requestPublicFromWire pub = .ok decoded) :
  decoded.toFieldElements.vector = residue ∘ pub.toFieldElements
  := by
  simp only [requestPublicFromWire, bind_eq_ok, pointFromWire_eq_ok, pure, Except.pure,
    Except.ok.injEq] at h
  obtain ⟨key, ⟨-, hkeyX, hkeyY⟩, anonymous, ⟨-, hanonymousX, hanonymousY⟩, rfl⟩ := h
  ext i
  fin_cases i
  all_goals
    first
    | rfl
    | exact (residue_setWidth (by norm_num) _).symm
    | assumption

theorem vector_of_withdrawalPublicFromWire {pub : WithdrawalPublicInputsV2}
    {decoded : WithdrawalPublic} (h : withdrawalPublicFromWire pub = .ok decoded) :
  decoded.toFieldElements.vector = residue ∘ pub.toFieldElements
  := by
  simp only [withdrawalPublicFromWire, bind_eq_ok, pointFromWire_eq_ok, pure, Except.pure,
    Except.ok.injEq] at h
  obtain ⟨state, ⟨-, hstateX, hstateY⟩, clearance, ⟨-, hclearanceX, hclearanceY⟩, rfl⟩ := h
  have hflag : (pub.hasClearance.toNat : Fr)
      = residue (if pub.hasClearance = true then 1 else 0) := by
    cases pub.hasClearance <;> rfl
  ext i
  fin_cases i
  all_goals
    first
    | rfl
    | exact (residue_setWidth (by norm_num) _).symm
    | assumption

/-! ### What is accepted -/

/-- The points of a valid proof. -/
def Proof.points (proof : Proof) (h : proof.Valid) : Pairing.Proof G1 G2 where
  a := proof.a.toPoint g1Config
  b := ⟨proof.b.toPoint g2Config, h.b_inSubgroup⟩
  c := proof.c.toPoint g1Config

section

variable {T : Type} [AddCommGroup T] {verifyWithProcessedVk : VerifyWithProcessedVk}
  {engine : Base64.Engine} {e : G1 →+ G2 →+ T} {bytes : List UInt8}

/-- The library decides the equation for valid proofs. -/
def Verifies (verifyWithProcessedVk : VerifyWithProcessedVk) (e : G1 →+ G2 →+ T) : Prop :=
  ∀ n (key : Pairing.VerifyingKey G1 G2 n) inputs (proof : Proof) (h : proof.Valid),
    ∃ accepted, verifyWithProcessedVk n key inputs proof = .ok accepted
      ∧ (accepted = true ↔ key.Accepts e (fun i => (inputs i).val) (proof.points h))

/-- The encoded bytes are decoded exactly when they spell a valid proof. -/
theorem proofFromWire_encode_eq_ok {backend : ProofBackendWire} {proof : Proof} :
  proofFromWire engine ⟨backend, engine.encode bytes⟩ = .ok proof
    ↔ SpellsProof bytes ∧ proofAt bytes = proof
  := by
  have hencode : engine.encode (proof.coordinates.flatMap primeFieldBytes) = engine.encode bytes
      ↔ proof.coordinates.flatMap primeFieldBytes = bytes := by
    constructor
    · intro h
      have hdecode := (engine.decode_eq_some_iff _ _).mpr h
      rw [engine.decode_encode] at hdecode
      exact (Option.some.inj hdecode).symm
    · rintro rfl
      rfl
  rw [proofFromWire_eq_ok, hencode]
  constructor
  · rintro ⟨hbytes, hvalid⟩
    obtain ⟨hlength, hreduced, rfl⟩ := (flatMap_primeFieldBytes_eq_iff hvalid).mp hbytes
    exact ⟨⟨hlength, hreduced, hvalid⟩, rfl⟩
  · rintro ⟨⟨hlength, hreduced, hvalid⟩, rfl⟩
    exact ⟨(flatMap_primeFieldBytes_eq_iff hvalid).mpr ⟨hlength, hreduced, rfl⟩, hvalid⟩

theorem mapError_eq_ok {ε ε' α : Type} {f : ε → ε'} {x : Except ε α} {a : α} :
  x.mapError f = .ok a ↔ x = .ok a
  := by
  cases x <;> simp [Except.mapError]

theorem ensureBackend_groth16 (text : String) :
  ensureBackend ⟨.groth16Bn254, text⟩ = .ok ()
  := rfl

/-- The library is asked about the bytes that spell a valid proof, and about these only. -/
theorem library_eq_true (hverifies : Verifies verifyWithProcessedVk e) {n : ℕ}
    {key : Pairing.VerifyingKey G1 G2 n} {inputs : Fin n → Fr} :
  (∃ proof, (SpellsProof bytes ∧ proofAt bytes = proof)
      ∧ verifyWithProcessedVk n key inputs proof = .ok true)
    ↔ ∃ h : SpellsProof bytes,
      key.Accepts e (fun i => (inputs i).val) ((proofAt bytes).points h.valid)
  := by
  constructor
  · rintro ⟨proof, ⟨h, rfl⟩, hverify⟩
    obtain ⟨accepted, hok, haccepted⟩ := hverifies n key inputs _ h.valid
    rw [hverify] at hok
    exact ⟨h, haccepted.mp (Except.ok.inj hok).symm⟩
  · rintro ⟨h, haccepts⟩
    obtain ⟨accepted, hok, haccepted⟩ := hverifies n key inputs _ h.valid
    rw [haccepted.mpr haccepts] at hok
    exact ⟨_, ⟨h, rfl⟩, hok⟩

/-- A request whose points are decoded is accepted exactly with a valid proof that satisfies the
equation for the residues of its vector. -/
theorem RequestVerifier.verify_eq_ok (hverifies : Verifies verifyWithProcessedVk e)
    {verifier : RequestVerifier} {pub : RequestPublicInputsV2} {decoded : RequestPublic}
    (hpub : requestPublicFromWire pub = .ok decoded) :
  verifier.verify verifyWithProcessedVk engine pub ⟨.groth16Bn254, engine.encode bytes⟩ = .ok true
    ↔ ∃ h : SpellsProof bytes, verifier.key.Accepts e
      (fun i => (residue (pub.toFieldElements i)).val) ((proofAt bytes).points h.valid)
  := by
  have hvector := vector_of_requestPublicFromWire hpub
  simp only [verify, ensureBackend_groth16, bind_eq_ok, proofFromWire_encode_eq_ok, hpub,
    mapError_eq_ok, Except.ok.injEq, exists_const, exists_eq_left', hvector, true_and,
    library_eq_true hverifies, Function.comp_apply]

/-- A withdrawal whose points are decoded is accepted exactly with a valid proof that satisfies
the equation for the residues of its vector. -/
theorem WithdrawalVerifier.verify_eq_ok (hverifies : Verifies verifyWithProcessedVk e)
    {verifier : WithdrawalVerifier} {pub : WithdrawalPublicInputsV2} {decoded : WithdrawalPublic}
    (hpub : withdrawalPublicFromWire pub = .ok decoded) :
  verifier.verify verifyWithProcessedVk engine pub ⟨.groth16Bn254, engine.encode bytes⟩ = .ok true
    ↔ ∃ h : SpellsProof bytes, verifier.key.Accepts e
      (fun i => (residue (pub.toFieldElements i)).val) ((proofAt bytes).points h.valid)
  := by
  have hvector := vector_of_withdrawalPublicFromWire hpub
  simp only [verify, ensureBackend_groth16, bind_eq_ok, proofFromWire_encode_eq_ok, hpub,
    mapError_eq_ok, Except.ok.injEq, exists_const, exists_eq_left', hvector, true_and,
    library_eq_true hverifies, Function.comp_apply]

/-! ### What is proved is accepted -/

/-- The prover of the library answers for satisfied constraints with a proof of finite points that
satisfies the equation. -/
def Proves (engine : Base64.Engine) (e : G1 →+ G2 →+ T) (key : Pairing.VerifyingKey G1 G2 12)
    (pub : RequestPublicInputsV2) (proved : Except Failure Groth16ProofWire) : Prop :=
  ∀ decoded wire, requestPublicFromWire pub = .ok decoded →
    (∃ a, RequestConstraints decoded.toFieldElements a) → proved = .ok wire →
    ∃ (proof : Proof) (h : proof.Valid), wire = proofToWire engine proof
      ∧ key.Accepts e (fun i => (decoded.toFieldElements.vector i).val) (proof.points h)

theorem validateWitness_eq_ok {satisfied : Prop} [Decidable satisfied] {u : Unit} :
  validateWitness satisfied = .ok u ↔ satisfied
  := by
  rw [validateWitness]
  split
  · next h => exact iff_of_true rfl h
  · next h =>
    constructor
    · intro hok
      cases hok
    · intro hsatisfied
      exact absurd hsatisfied h

/-- A prover returns only what its library has proved for satisfied constraints. -/
theorem of_proveRequest_eq_ok {pub : RequestPublicInputsV2} {witness : RequestWitnessData}
    {proved : Except Failure Groth16ProofWire} {wire : Groth16ProofWire}
    (h : proveRequest pub witness proved = .ok wire) :
  ∃ decoded, requestPublicFromWire pub = .ok decoded
    ∧ (∃ a, RequestConstraints decoded.toFieldElements a) ∧ proved = .ok wire
  := by
  simp only [proveRequest, validateRequest, requestCircuit, bind_eq_ok, pure, Except.pure,
    Except.ok.injEq, validateWitness_eq_ok] at h
  obtain ⟨_, ⟨_, ⟨decoded, hdecoded, _, _, rfl⟩, hsatisfied⟩, hproved⟩ := h
  exact ⟨decoded, hdecoded, ⟨_, hsatisfied⟩, hproved⟩

/-- What the prover returns is accepted by the verifier, and encodes bytes that spell a proof. -/
theorem RequestVerifier.verify_proveRequest (hverifies : Verifies verifyWithProcessedVk e)
    {verifier : RequestVerifier} {pub : RequestPublicInputsV2} {witness : RequestWitnessData}
    {proved : Except Failure Groth16ProofWire} {wire : Groth16ProofWire}
    (hproves : Proves engine e verifier.key pub proved)
    (h : proveRequest pub witness proved = .ok wire) :
  ∃ decoded bytes, requestPublicFromWire pub = .ok decoded
    ∧ engine.decode wire.proof = some bytes ∧ SpellsProof bytes
    ∧ wire = ⟨.groth16Bn254, engine.encode bytes⟩
    ∧ verifier.verify verifyWithProcessedVk engine pub wire = .ok true
  := by
  obtain ⟨decoded, hdecoded, hsatisfied, hproved⟩ := of_proveRequest_eq_ok h
  obtain ⟨proof, hvalid, rfl, haccepts⟩ := hproves decoded wire hdecoded hsatisfied hproved
  obtain ⟨hlength, hreduced, hproof⟩ := (flatMap_primeFieldBytes_eq_iff hvalid).mp rfl
  have hspells : SpellsProof (proof.coordinates.flatMap primeFieldBytes) := by
    constructor
    case length => exact hlength
    case reduced => exact hreduced
    case valid =>
      rw [hproof]
      exact hvalid
  refine ⟨decoded, _, hdecoded, engine.decode_encode _, hspells, rfl, ?_⟩
  apply (verify_eq_ok hverifies hdecoded).mpr
  use hspells
  rw [vector_of_requestPublicFromWire hdecoded] at haccepts
  simp only [hproof]
  exact haccepts

end

end ZkApi.Compact
