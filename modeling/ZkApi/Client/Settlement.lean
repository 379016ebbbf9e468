import ZkApi.Browser.Core

/-!
# Settlement

What it takes for a response to settle a pending request, apart from the cap on its charge,
and the state that it leads to.  The native wallet and the browser check the same things, but
they read the cap in different places: the native wallet from its configuration, the browser
from the request that was proved.
-/

namespace ZkApi.Client

open ZkApi.Compact FaultIO

variable {keccak256 : List UInt8 → List UInt8}

/-! ### Commitments on the wire -/

/-- The point that a state commits to, for a blinding. -/
def NoteState.commitment (state : NoteState) (blinding : Felt252) : EdwardsAffine :=
  ZkApi.balanceCommitment state.currentBalance (scalar blinding) (residue (stateNoteLeaf state))

theorem NoteState.commitment_mem (state : NoteState) (blinding : Felt252) :
  state.commitment blinding ∈ primeSubgroup
  := balanceCommitment_mem _ _ _

/-! ### Responses that settle a request -/

/-- The commitment of a state is stored next to its blinding. -/
structure Stored (state : NoteState) (blinding : Felt252) : Prop where
  parsed : Felt252.fromHex state.balanceBlinding = .ok blinding
  commitment : pointToWire (state.commitment blinding)
    = ⟨state.currentCommitmentX, state.currentCommitmentY⟩

/-- The anonymous commitment of a request. -/
def anonymousCommitment (state : NoteState) (blinding rerandomization : Felt252) :
    EdwardsAffine :=
  rerandomizeCommitment (state.commitment blinding) (scalar rerandomization)

theorem anonymousCommitment_mem (state : NoteState) (blinding rerandomization : Felt252) :
  anonymousCommitment state blinding rerandomization ∈ primeSubgroup
  := rerandomizeCommitment_mem (state.commitment_mem blinding) _

/-- A response settles the pending request of a state: everything is in order but perhaps the
cap on the charge. -/
structure Settles (keccak256 : List UInt8 → List UInt8) (stateSigningKey : CurvePointWire)
    (state : NoteState) (requestId : String) (nullifier rerandomization : Felt252)
    (response : RequestResponseV2) (blinding : Felt252) : Prop where
  stored : Stored state blinding
  clientRequestId : response.clientRequestId = requestId
  requestNullifier : response.requestNullifier = nullifier
  responseHash :
    canonicalResponseHash keccak256 response.responsePayload = .ok response.responseHash
  nextAnchor : response.nextAnchor ≠ 0
  nextCommitment : pointToWire (ZkApi.serverUpdate
      (anonymousCommitment state blinding rerandomization) response.chargeApplied
      (scalar response.blindDeltaSrv))
    = response.nextCommitment
  signature : verifySignature stateSigningKey
      (Core.stateMessage state.protocolVersion state.chainId state.contractAddress
        response.nextCommitment.x response.nextCommitment.y response.nextAnchor)
      response.nextStateSignature
    = .ok true
  charge : response.chargeApplied ≤ state.currentBalance

/-- The state that a response leads to. -/
def settled (state : NoteState) (rerandomization : Felt252) (response : RequestResponseV2)
    (blinding : Felt252) : NoteState :=
  nextNoteState state response (state.currentBalance - response.chargeApplied)
    (addBlindings (addBlindings blinding rerandomization) response.blindDeltaSrv)

/-! ### The native wallet -/

theorem parseScalar_eq_ok {value : String} {x : Felt252} :
  parseScalar value = .ok x ↔ Felt252.fromHex value = .ok x
  := mapErr_eq_ok

theorem ensureStoredCommitment_eq_ok {state : NoteState} {commitment : CurvePointWire} {u : Unit} :
  ensureStoredCommitment state commitment = .ok u
    ↔ commitment = ⟨state.currentCommitmentX, state.currentCommitmentY⟩
  := by
  rw [ensureStoredCommitment]
  split
  · next h =>
    constructor
    · intro hok
      cases hok
    · rintro rfl
      obtain h | h := h <;> exact absurd rfl h
  · next h =>
    simp only [ne_eq, not_or, not_not] at h
    constructor
    · intro _
      rw [← h.1, ← h.2]
    · intro _
      rfl

theorem okOr_eq_ok {α : Type} {x : Option α} {e : ClientError} {a : α} :
  okOr x e = .ok a ↔ x = some a
  := by
  cases x <;> simp [okOr]

theorem checkedSub_eq_some {a b c : U128} :
  checkedSub a b = some c ↔ b ≤ a ∧ a - b = c
  := by
  rw [checkedSub]
  split <;> simp_all

/-- The anonymous commitment is derived again from a state whose commitment is stored. -/
theorem pendingCommitment_eq_ok {state : NoteState} {rerandomization : Felt252}
    {anonymous : CurvePointWire} :
  pendingCommitment state rerandomization = .ok anonymous
    ↔ ∃ blinding, Stored state blinding
      ∧ pointToWire (anonymousCommitment state blinding rerandomization) = anonymous
  := by
  have hrerandomize : ∀ blinding,
      rerandomize
          (Compact.balanceCommitment state.currentBalance blinding (stateNoteLeaf state))
          rerandomization
        = .ok (pointToWire (anonymousCommitment state blinding rerandomization)) := by
    intro blinding
    apply rerandomize_pointToWire (state.commitment_mem blinding)
  simp only [pendingCommitment, bind_eq_ok, parseScalar_eq_ok, ensureStoredCommitment_eq_ok,
    mapErr_eq_ok, hrerandomize, Except.ok.injEq, exists_const]
  constructor
  · rintro ⟨blinding, hblinding, hstored, rfl⟩
    exact ⟨blinding, ⟨hblinding, hstored⟩, rfl⟩
  · rintro ⟨blinding, ⟨hblinding, hstored⟩, rfl⟩
    exact ⟨blinding, hblinding, hstored, rfl⟩

/-- The native wallet accepts the responses that settle the request and whose charge is
within the cap of its configuration. -/
theorem verifyResponse_eq_ok {config : ClientConfig} {state : NoteState}
    {response : RequestResponseV2} {requestId : String} {nullifier rerandomization : Felt252}
    {blinding : Felt252} (hstored : Stored state blinding) {result : NoteState × NoteState} :
  verifyResponse keccak256 config (some state) response requestId nullifier
      (pointToWire (anonymousCommitment state blinding rerandomization)) rerandomization
      = .ok result
    ↔ Settles keccak256 config.stateSigningKey state requestId nullifier rerandomization response
        blinding
      ∧ response.chargeApplied ≤ config.chargeCap
      ∧ (state, settled state rerandomization response blinding) = result
  := by
  have hupdate := serverUpdate_pointToWire
    (anonymousCommitment_mem state blinding rerandomization) response.chargeApplied
    response.blindDeltaSrv
  simp only [verifyResponse, bind_eq_ok, failIf_eq_ok, mapErr_eq_ok, orPanic_eq_ok, okOr_eq_ok,
    parseScalar_eq_ok, checkedSub_eq_some, hupdate, Except.ok.injEq, Option.some.injEq, pure,
    Except.pure, exists_const, exists_eq_left', not_or, not_not,
    BitVec.not_lt, Bool.not_eq_false]
  constructor
  · rintro ⟨⟨hid, hnullifier⟩, _, hhash, rfl, ⟨hcap, hanchor⟩, hcommitment, _, hverify, rfl,
      blinding', hparsed, _, ⟨hcharge, rfl⟩, rfl⟩
    obtain rfl : blinding' = blinding := by
      rw [hstored.parsed] at hparsed
      apply (Except.ok.inj hparsed).symm
    refine ⟨?_, hcap, rfl⟩
    constructor <;> assumption
  · rintro ⟨h, hcap, rfl⟩
    exact ⟨⟨h.clientRequestId, h.requestNullifier⟩, _, h.responseHash, rfl, ⟨hcap, h.nextAnchor⟩,
      h.nextCommitment, _, h.signature, rfl, _, hstored.parsed, _, ⟨h.charge, rfl⟩, rfl⟩

/-- A wallet whose journal holds an entry settles its request exactly when the response does
and its charge is within the cap of the configuration. -/
theorem complete_eq_ok {config : ClientConfig} {state : NoteState}
    {journal : PendingRequestJournal} {response : RequestResponseV2}
    {result : NoteState × NoteState} :
  (pendingCommitment state journal.userRerandomization >>= fun anonymous =>
      verifyResponse keccak256 config (some state) response journal.clientRequestId
        journal.nullifier anonymous journal.userRerandomization)
      = .ok result
    ↔ ∃ blinding, Settles keccak256 config.stateSigningKey state journal.clientRequestId
        journal.nullifier journal.userRerandomization response blinding
      ∧ response.chargeApplied ≤ config.chargeCap
      ∧ (state, settled state journal.userRerandomization response blinding) = result
  := by
  simp only [bind_eq_ok, pendingCommitment_eq_ok]
  constructor
  · rintro ⟨_, ⟨blinding, hstored, rfl⟩, h⟩
    use blinding
    apply (verifyResponse_eq_ok hstored).mp h
  · rintro ⟨blinding, h⟩
    exact ⟨_, ⟨blinding, h.1.stored, rfl⟩, (verifyResponse_eq_ok h.1.stored).mpr h⟩

end ZkApi.Client

/-! ### The browser -/

namespace ZkApi.Browser

open ZkApi.Compact Client

variable {keccak256 : List UInt8 → List UInt8}

theorem parseScalar_eq_ok {value : String} {x : Felt252} :
  parseScalar value = .ok x ↔ Felt252.fromHex value = .ok x
  := by
  rw [parseScalar]
  cases Felt252.fromHex value with
  | ok y => rfl
  | error e => cases e <;> simp [bail]

theorem ensureStoredCommitment_eq_ok {state : BrowserNoteState} {commitment : CurvePointWire}
    {u : Unit} :
  ensureStoredCommitment state commitment = .ok u
    ↔ commitment = ⟨state.currentCommitmentX, state.currentCommitmentY⟩
  := by
  rw [← Client.ensureStoredCommitment_eq_ok (u := u), ensureStoredCommitment,
    Client.ensureStoredCommitment]
  split <;> simp [bail]

theorem okOrElse_eq_ok {α : Type} {x : Option α} {text : String} {a : α} :
  okOrElse x text = .ok a ↔ x = some a
  := by
  cases x <;> simp [okOrElse, bail]

/-- The browser accepts, for a state of its deployment, the responses that settle the request
and whose charge is within the bound that was proved. -/
theorem completeResponse_eq_ok {config : BrowserWalletConfig} {state next : BrowserNoteState}
    {journal : PendingRequestJournal} {response : RequestResponseV2} :
  completeResponse keccak256 config ⟨state, journal, response⟩ = .ok next
    ↔ validateState config state = .ok () ∧ journal.exists = true
      ∧ ∃ blinding, Settles keccak256 config.stateSigningKey state journal.clientRequestId
          journal.nullifier journal.userRerandomization response blinding
        ∧ response.chargeApplied ≤ journal.preparedRequest.publicInputs.solvencyBound
        ∧ settled state journal.userRerandomization response blinding = next
  := by
  have hrerandomize : ∀ blinding,
      rerandomize
          (Compact.balanceCommitment state.currentBalance blinding (stateNoteLeaf state))
          journal.userRerandomization
        = .ok (pointToWire (anonymousCommitment state blinding journal.userRerandomization)) := by
    intro blinding
    apply rerandomize_pointToWire (state.commitment_mem blinding)
  have hupdate : ∀ blinding, _ := fun blinding => serverUpdate_pointToWire
    (anonymousCommitment_mem state blinding journal.userRerandomization) response.chargeApplied
    response.blindDeltaSrv
  simp only [completeResponse, bind_eq_ok, failIf_eq_ok, parseScalar_eq_ok,
    ensureStoredCommitment_eq_ok, okOrElse_eq_ok, checkedSub_eq_some, hrerandomize, hupdate,
    Except.ok.injEq, pure, Except.pure, exists_const, exists_eq_left', not_or, not_not,
    BitVec.not_lt, Bool.not_eq_false]
  constructor
  · rintro ⟨⟨⟩, hstate, ⟨hexists, hid, hnullifier⟩, _, hhash, rfl, ⟨hcap, hanchor⟩, blinding,
      hparsed, hstored, hcommitment, _, hverify, rfl, _, ⟨hcharge, rfl⟩, rfl⟩
    refine ⟨hstate, hexists, blinding, ?_, hcap, rfl⟩
    constructor
    case stored => exact ⟨hparsed, hstored⟩
    all_goals assumption
  · rintro ⟨hstate, hexists, blinding, h, hcap, rfl⟩
    exact ⟨(), hstate, ⟨hexists, h.clientRequestId, h.requestNullifier⟩, _, h.responseHash, rfl,
      ⟨hcap, h.nextAnchor⟩, blinding, h.stored.parsed, h.stored.commitment, h.nextCommitment, _,
      h.signature, rfl, _, ⟨h.charge, rfl⟩, rfl⟩

end ZkApi.Browser
