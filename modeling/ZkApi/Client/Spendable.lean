import ZkApi.Client.Answers
import ZkApi.Client.Machine
import ZkApi.Core.Merkle

/-!
# States that can be spent

Every state that the wallet reaches can be spent: its commitment opens to its balance, and it is
either the state after the deposit or signed by the server.  The checks on a response carry this
from one state to the next, whatever the server draws.  Requests and withdrawals of such a state
satisfy the circuits.
-/

namespace ZkApi.Client

open ZkApi.Compact FaultIO

/-! ### Spendable states -/

/-- The message that is signed for a state. -/
def NoteState.message (state : NoteState) : Felt252 :=
  Core.stateMessage state.protocolVersion state.chainId state.contractAddress
    state.currentCommitmentX state.currentCommitmentY state.currentAnchor

/-- The state after the deposit. -/
structure Genesis (state : NoteState) : Prop where
  isGenesis : state.isGenesis = true
  anchor : state.currentAnchor = 1
  balance : state.currentBalance = state.depositAmount
  unsigned : state.stateSignature = none

/-- A state that the server has signed. -/
structure Signed (stateSigningKey : CurvePointWire) (state : NoteState)
    (signature : SchnorrSignature) : Prop where
  isGenesis : state.isGenesis = false
  signed : state.stateSignature = some signature
  verified : verifySignature stateSigningKey state.message signature = .ok true

/-- A state whose stored commitment opens to its balance, which is part of the deposit, and
that is the state after the deposit or signed. -/
structure Spendable (stateSigningKey : CurvePointWire) (state : NoteState) : Prop where
  secret : residue state.secretS ≠ 0
  stored : ∃ blinding, Stored state blinding
  balance : state.currentBalance ≤ state.depositAmount
  origin : Genesis state ∨ ∃ signature, Signed stateSigningKey state signature

variable {keccak256 : List UInt8 → List UInt8} {key : CurvePointWire} {state : NoteState}

/-- A deposit for a note with a secret leads to a state that can be spent. -/
theorem spendable_depositState {secret : Felt252} (config : ClientConfig) (noteId : U32)
    (depositAmount : U128) (expiry : U64) (random : EdwardsScalarField)
    (hsecret : residue secret ≠ 0) :
  Spendable key (depositState config secret noteId depositAmount expiry (scalarToFelt random))
  := by
  constructor
  case secret => exact hsecret
  case stored => exact ⟨_, stored_depositState config secret noteId depositAmount expiry random⟩
  case balance => exact BitVec.le_refl _
  case origin =>
    apply Or.inl
    constructor <;> rfl

section

variable {requestId : String} {nullifier rerandomization blinding : Felt252}
  {response : RequestResponseV2}

/-- The state that a response leads to stores its commitment. -/
theorem Settles.stored_settled
    (h : Settles keccak256 key state requestId nullifier rerandomization response blinding) :
  Stored (settled state rerandomization response blinding)
    (addBlindings (addBlindings blinding rerandomization) response.blindDeltaSrv)
  := by
  constructor
  case parsed =>
    apply Felt252.fromHex_toHex_canonical (canonical_scalarToFelt _)
  case commitment =>
    have hupdate := serverUpdate_rerandomize state.currentBalance response.chargeApplied
      (scalar blinding) (scalar rerandomization) (scalar response.blindDeltaSrv)
      (residue (stateNoteLeaf state)) (BitVec.le_def.mp h.charge)
    have hnext := h.nextCommitment
    rw [anonymousCommitment, NoteState.commitment, hupdate] at hnext
    rw [NoteState.commitment, scalar_addBlindings, scalar_addBlindings]
    exact hnext

/-- The state that a response leads to can be spent. -/
theorem Settles.spendable
    (h : Settles keccak256 key state requestId nullifier rerandomization response blinding)
    (hstate : Spendable key state) :
  Spendable key (settled state rerandomization response blinding)
  := by
  constructor
  case secret => exact hstate.secret
  case stored => exact ⟨_, h.stored_settled⟩
  case balance =>
    have hle : state.currentBalance - response.chargeApplied ≤ state.currentBalance := by
      rw [BitVec.le_def, BitVec.toNat_sub_of_le h.charge]
      apply Nat.sub_le
    exact BitVec.le_trans hle hstate.balance
  case origin =>
    refine .inr ⟨response.nextStateSignature, ?_⟩
    constructor
    case isGenesis | signed => rfl
    case verified => exact h.signature

end

/-! ### Runs -/

/-- The deposits of a history are for notes with a canonical secret. -/
def DepositsHaveSecrets (log : List Event) : Prop :=
  ∀ state, .confirmed state ∈ log → state.secretS.Canonical ∧ state.secretS ≠ 0

/-- The states of a session, in memory and on disk. -/
def Session.Keeps (s : Session) (state : NoteState) : Prop :=
  s.state = some state ∨ s.disk.noteState = some state

/-- A session whose states can all be spent. -/
structure KeepsSpendable (stateSigningKey : CurvePointWire) (s : Session) : Prop where
  key : s.config.stateSigningKey = stateSigningKey
  spendable : ∀ state, s.Keeps state → Spendable stateSigningKey state

/-- A word of a canonical element other than zero is not zero. -/
theorem residue_ne_zero {x : Felt252} (hcanonical : x.Canonical) (hx : x ≠ 0) :
  residue x ≠ 0
  := by
  intro h
  apply hx
  rw [residue, ZMod.natCast_eq_zero_iff] at h
  apply BitVec.eq_of_toNat_eq
  exact Nat.eq_zero_of_dvd_of_lt h hcanonical

variable {Configured : ClientConfig → Prop} {Replaceable : Option JournalFile → Prop}
  {s t : Session}

/-- Every change leaves states that can be spent. -/
theorem Change.keepsSpendable (h : Change keccak256 Replaceable s t)
    (hdeposits : DepositsHaveSecrets t.log) (hs : KeepsSpendable key s) :
  KeepsSpendable key t
  := by
  constructor
  case key =>
    have hkey := hs.key
    cases h <;> exact hkey
  case spendable =>
    intro kept hkept
    cases h with
    | confirmed secret noteId depositAmount expiry random state hnone hstate =>
      obtain rfl : state = kept := by
        obtain hkept | hkept := hkept <;> exact Option.some.inj hkept
      obtain ⟨hcanonical, hsecret⟩ := hdeposits state (List.mem_append_right _ (.head _))
      rw [hstate] at hcanonical hsecret ⊢
      apply spendable_depositState
      exact residue_ne_zero hcanonical hsecret
    | accepted journal state response next file hholds hstate h hfile =>
      obtain rfl : next = kept := by
        obtain hkept | hkept := hkept <;> exact Option.some.inj hkept
      obtain ⟨blinding, hsettles, _, _, rfl⟩ := settle_eq_ok.mp h
      rw [hs.key] at hsettles
      exact hsettles.spendable (hs.spendable state (.inl hstate))
    | archived state file hstate hfile =>
      obtain hkept | hkept := hkept
      · cases hkept
      · obtain rfl | rfl := hfile
        · exact hs.spendable kept (.inr hkept)
        · cases hkept
    | prepared | resent | cleared => exact hs.spendable kept hkept

/-- Every move leaves states that can be spent. -/
theorem Move.keepsSpendable (h : Move keccak256 Configured Replaceable s t)
    (hconfigured : ∀ config, Configured config → config.stateSigningKey = key)
    (hdeposits : DepositsHaveSecrets t.log) (hs : KeepsSpendable key s) :
  KeepsSpendable key t
  := by
  cases h with
  | changed t hchange => exact hchange.keepsSpendable hdeposits hs
  | loaded config state hconfig hstate =>
    constructor
    case key => exact hconfigured config hconfig
    case spendable =>
      intro kept hkept
      apply hs.spendable kept
      obtain hkept | hkept := hkept
      · exact .inr (hstate kept hkept)
      · exact .inr hkept
  | forgotten =>
    constructor
    case key => exact hs.key
    case spendable =>
      rintro kept (hkept | hkept)
      · cases hkept
      · exact hs.spendable kept (.inr hkept)
  | damaged =>
    constructor
    case key => exact hs.key
    case spendable => exact hs.spendable

variable {config : ClientConfig} {labels : List Label} {m : Machine}

/-- Every state of a run can be spent. -/
theorem run_keepsSpendable
    (hrun : Run (Step keccak256 Configured) (Machine.initial config) labels m)
    (hconfig : config.stateSigningKey = key)
    (hconfigured : ∀ config, Configured config → config.stateSigningKey = key)
    (hdeposits : DepositsHaveSecrets m.session.log) :
  KeepsSpendable key m.session
  := by
  have hkeeps : DepositsHaveSecrets m.session.log → KeepsSpendable key m.session := by
    apply @invariant_of_moves _ _ _ _ _
      (fun s => DepositsHaveSecrets s.log → KeepsSpendable key s) hrun
    · intro _
      constructor
      case key => exact hconfig
      case spendable =>
        rintro _ (hkept | hkept) <;> cases hkept
    · intro s t hmove hs hdeposits
      apply hmove.keepsSpendable hconfigured hdeposits
      apply hs
      exact fun state hstate => hdeposits state (hmove.log_prefix.subset hstate)
  exact hkeeps hdeposits

end ZkApi.Client
