import ZkApi.Types.Wire

/-!
# Wire types in files

What deserialization makes of a record that was serialized to a file: the field elements go
through their hexadecimal digits, and everything else comes back as it was.  A record is read
back when its elements are canonical, and is then what was written.
-/

namespace ZkApi

/-! ### What is read back of a file -/

/-- A field element, which is written in hexadecimal digits. -/
def Felt252.reload (x : Felt252) : Except Failure Felt252 :=
  fromHex x.toHex

def SchnorrSignature.reload (signature : SchnorrSignature) :
    Except Failure SchnorrSignature := do
  return {
    rX := ← signature.rX.reload
    rY := ← signature.rY.reload
    s := ← signature.s.reload }

def RequestPublicInputsV2.reload (pub : RequestPublicInputsV2) :
    Except Failure RequestPublicInputsV2 := do
  return { pub with
    contractAddress := ← pub.contractAddress.reload
    activeRoot := ← pub.activeRoot.reload
    stateSigningKeyX := ← pub.stateSigningKeyX.reload
    stateSigningKeyY := ← pub.stateSigningKeyY.reload
    requestNullifier := ← pub.requestNullifier.reload
    authorizationTag := ← pub.authorizationTag.reload
    anonymousCommitmentX := ← pub.anonymousCommitmentX.reload
    anonymousCommitmentY := ← pub.anonymousCommitmentY.reload }

def ApiRequestV2.reload (request : ApiRequestV2) : Except Failure ApiRequestV2 := do
  return { request with
    payloadHash := ← request.payloadHash.reload
    publicInputs := ← request.publicInputs.reload }

/-- The elements of a signature are canonical. -/
structure SchnorrSignature.Canonical (signature : SchnorrSignature) : Prop where
  rX : signature.rX.Canonical
  rY : signature.rY.Canonical
  s : signature.s.Canonical

/-- The elements of a public statement are canonical. -/
structure RequestPublicInputsV2.Canonical (pub : RequestPublicInputsV2) : Prop where
  contractAddress : pub.contractAddress.Canonical
  activeRoot : pub.activeRoot.Canonical
  stateSigningKeyX : pub.stateSigningKeyX.Canonical
  stateSigningKeyY : pub.stateSigningKeyY.Canonical
  requestNullifier : pub.requestNullifier.Canonical
  authorizationTag : pub.authorizationTag.Canonical
  anonymousCommitmentX : pub.anonymousCommitmentX.Canonical
  anonymousCommitmentY : pub.anonymousCommitmentY.Canonical

/-- The elements of a request are canonical. -/
structure ApiRequestV2.Canonical (request : ApiRequestV2) : Prop where
  payloadHash : request.payloadHash.Canonical
  publicInputs : request.publicInputs.Canonical

/-- An optional part is read back when it is there and is read back itself. -/
theorem mapM_reload_eq_ok {α : Type} {reload : α → Except Failure α} {Canonical : α → Prop}
    (h : ∀ {a b}, reload a = .ok b ↔ Canonical a ∧ b = a) {x y : Option α} :
  x.mapM reload = .ok y ↔ (∀ a, x = some a → Canonical a) ∧ y = x
  := by
  cases x with
  | none =>
    constructor
    · intro hy
      obtain rfl := Except.ok.inj hy
      constructor
      · intro a ha
        cases ha
      · rfl
    · rintro ⟨_, rfl⟩
      rfl
  | some a =>
    have hmap : (some a).mapM reload = reload a >>= fun b => .ok (some b) := rfl
    rw [hmap, bind_eq_ok]
    simp only [h, Option.some.injEq, forall_eq', Except.ok.injEq]
    constructor
    · rintro ⟨_, ⟨ha, rfl⟩, rfl⟩
      exact ⟨ha, rfl⟩
    · rintro ⟨ha, rfl⟩
      exact ⟨_, ⟨ha, rfl⟩, rfl⟩

/-- A canonical element is read back, and no other. -/
theorem Felt252.reload_eq_ok {x y : Felt252} :
  x.reload = .ok y ↔ x.Canonical ∧ y = x
  := by
  constructor
  · intro h
    constructor
    · apply canonical_of_fromHex_toHex h
    · apply eq_of_fromHex_toHex h
  · rintro ⟨h, rfl⟩
    apply fromHex_toHex_canonical h

theorem SchnorrSignature.reload_eq_ok {signature reloaded : SchnorrSignature} :
  signature.reload = .ok reloaded ↔ signature.Canonical ∧ reloaded = signature
  := by
  simp only [reload, bind_eq_ok, Felt252.reload_eq_ok, pure, Except.pure, Except.ok.injEq]
  constructor
  · rintro ⟨_, ⟨hrX, rfl⟩, _, ⟨hrY, rfl⟩, _, ⟨hs, rfl⟩, rfl⟩
    exact ⟨⟨hrX, hrY, hs⟩, rfl⟩
  · rintro ⟨h, rfl⟩
    exact ⟨_, ⟨h.rX, rfl⟩, _, ⟨h.rY, rfl⟩, _, ⟨h.s, rfl⟩, rfl⟩

theorem RequestPublicInputsV2.reload_eq_ok {pub reloaded : RequestPublicInputsV2} :
  pub.reload = .ok reloaded ↔ pub.Canonical ∧ reloaded = pub
  := by
  simp only [reload, bind_eq_ok, Felt252.reload_eq_ok, pure, Except.pure, Except.ok.injEq]
  constructor
  · rintro ⟨_, ⟨h1, rfl⟩, _, ⟨h2, rfl⟩, _, ⟨h3, rfl⟩, _, ⟨h4, rfl⟩, _, ⟨h5, rfl⟩, _, ⟨h6, rfl⟩,
      _, ⟨h7, rfl⟩, _, ⟨h8, rfl⟩, rfl⟩
    exact ⟨⟨h1, h2, h3, h4, h5, h6, h7, h8⟩, rfl⟩
  · rintro ⟨h, rfl⟩
    exact ⟨_, ⟨h.contractAddress, rfl⟩, _, ⟨h.activeRoot, rfl⟩, _, ⟨h.stateSigningKeyX, rfl⟩,
      _, ⟨h.stateSigningKeyY, rfl⟩, _, ⟨h.requestNullifier, rfl⟩, _, ⟨h.authorizationTag, rfl⟩,
      _, ⟨h.anonymousCommitmentX, rfl⟩, _, ⟨h.anonymousCommitmentY, rfl⟩, rfl⟩

theorem ApiRequestV2.reload_eq_ok {request reloaded : ApiRequestV2} :
  request.reload = .ok reloaded ↔ request.Canonical ∧ reloaded = request
  := by
  simp only [reload, bind_eq_ok, Felt252.reload_eq_ok,
    RequestPublicInputsV2.reload_eq_ok, pure, Except.pure, Except.ok.injEq]
  constructor
  · rintro ⟨_, ⟨hhash, rfl⟩, _, ⟨hpub, rfl⟩, rfl⟩
    exact ⟨⟨hhash, hpub⟩, rfl⟩
  · rintro ⟨h, rfl⟩
    exact ⟨_, ⟨h.payloadHash, rfl⟩, _, ⟨h.publicInputs, rfl⟩, rfl⟩

end ZkApi
