import ZkApi.Library.Provenance
import ZkApi.Proof.WithdrawalCircuit

/-!
# Chains of spent states

The server signs a next state without opening the commitment that it updates.  That no
balance is overdrawn is a fact about the order in which the state key signs: every state
that a satisfied circuit proves stands at the end of a chain of signatures for one note,
which starts at the genesis of the note and along which balance and charges add up to the
deposit (`spend_chain`).
-/

namespace ZkApi

open Poseidon

/-! ### Spent states -/

/-- A balance, a blinding and a leaf, which open a commitment. -/
structure Opening where
  balance : U128
  blinding : EdwardsScalarField
  leaf : Fr

/-- The commitment that an opening opens. -/
def Opening.commitment (o : Opening) : EdwardsAffine :=
  balanceCommitment o.balance o.blinding o.leaf

/-- What a satisfied circuit proves about the state that it spends, with the protocol
version, the chain and the contract that stand in its public inputs. -/
structure Spend where
  protocolVersion : Fr
  chainId : Fr
  contractAddress : Fr
  secret : Fr
  noteId : U32
  depositAmount : U128
  expiry : U64
  balance : U128
  blinding : EdwardsScalarField
  anchor : Fr
  isGenesis : Bool
  signature : StateSignature

namespace Spend

/-- What is hashed to the registration commitment of the note. -/
def registrationPreimage (s : Spend) : List Fr :=
  [domain "zkapi.v2.reg", s.secret, 0]

/-- What is hashed to the leaf of the note. -/
def leafPreimage (s : Spend) : List Fr :=
  [domain "zkapi.v2.leaf", s.noteId.toNat, registrationCommitment s.secret,
    s.depositAmount.toNat, s.expiry.toNat]

/-- The leaf of the note. -/
def leaf (s : Spend) : Fr :=
  noteLeaf s.noteId (registrationCommitment s.secret) s.depositAmount s.expiry

/-- The opening of the state. -/
def opening (s : Spend) : Opening where
  balance := s.balance
  blinding := s.blinding
  leaf := s.leaf

/-- The commitment to the state. -/
def commitment (s : Spend) : EdwardsAffine :=
  s.opening.commitment

/-- What is hashed to the message under the signature of the state. -/
def messagePreimage (s : Spend) : List Fr :=
  [domain "zkapi.v2.state", s.protocolVersion, s.chainId, s.contractAddress,
    s.commitment.x, s.commitment.y, s.anchor]

/-- The message under the signature of the state. -/
def message (s : Spend) : Fr :=
  stateMessage s.protocolVersion s.chainId s.contractAddress s.commitment s.anchor

/-- The nullifier of the state. -/
def nullifier (s : Spend) : Fr :=
  requestNullifier s.secret s.anchor

/-- The first state of a note. -/
structure Genesis (s : Spend) : Prop where
  isGenesis : s.isGenesis = true
  anchor : s.anchor = 1
  balance : s.balance = s.depositAmount

/-- Two states of one note. -/
structure SameNote (s t : Spend) : Prop where
  secret : s.secret = t.secret
  noteId : s.noteId = t.noteId
  depositAmount : s.depositAmount = t.depositAmount
  expiry : s.expiry = t.expiry

variable {s t u : Spend}

theorem SameNote.refl (s : Spend) :
  SameNote s s
  := by constructor <;> rfl

theorem SameNote.trans (h : SameNote s t) (k : SameNote t u) :
  SameNote s u
  where
  secret := h.secret.trans k.secret
  noteId := h.noteId.trans k.noteId
  depositAmount := h.depositAmount.trans k.depositAmount
  expiry := h.expiry.trans k.expiry

theorem SameNote.leaf (h : SameNote s t) :
  s.leaf = t.leaf
  := by rw [Spend.leaf, Spend.leaf, h.secret, h.noteId, h.depositAmount, h.expiry]

end Spend

/-- The state that a request spends. -/
def RequestAssignment.spend (a : RequestAssignment) (input : RequestInputs) : Spend where
  protocolVersion := input.protocolVersion
  chainId := input.chainId
  contractAddress := input.contractAddress
  secret := a.secret
  noteId := a.noteId
  depositAmount := a.depositAmount
  expiry := a.expiry
  balance := a.balance
  blinding := bitsScalar a.blindingBits
  anchor := a.anchor
  isGenesis := a.isGenesis
  signature := a.witness.stateSignature

/-- The state that a withdrawal spends. -/
def WithdrawalAssignment.spend (a : WithdrawalAssignment) (input : WithdrawalInputs) :
    Spend where
  protocolVersion := input.protocolVersion
  chainId := input.chainId
  contractAddress := input.contractAddress
  secret := a.secret
  noteId := a.noteId
  depositAmount := a.depositAmount
  expiry := a.expiry
  balance := a.finalBalance
  blinding := bitsScalar a.blindingBits
  anchor := a.anchor
  isGenesis := a.isGenesis
  signature := a.witness.stateSignature

/-- A state is proved under a state key when it is spent by a satisfying assignment of one
of the two circuits. -/
inductive Proved (stateKey : EdwardsAffine) : Spend → Prop
  | request {input : RequestInputs} {a : RequestAssignment}
      (hx : stateKey.x = input.stateSigningKeyX) (hy : stateKey.y = input.stateSigningKeyY)
      (h : RequestConstraints input a) : Proved stateKey (a.spend input)
  | withdrawal {input : WithdrawalInputs} {a : WithdrawalAssignment}
      (hx : stateKey.x = input.stateSigningKeyX) (hy : stateKey.y = input.stateSigningKeyY)
      (h : WithdrawalConstraints input a) : Proved stateKey (a.spend input)

namespace Proved

variable {stateKey : EdwardsAffine} {t : Spend}

/-- A state that is proved as a genesis state is the first state of its note. -/
theorem genesis (h : Proved stateKey t) (hgenesis : t.isGenesis = true) :
  t.Genesis
  := by
  cases h with
  | request _ _ h =>
    constructor
    · apply hgenesis
    · apply h.genesisAnchor hgenesis
    · apply balance_cast_inj.mp (h.genesisBalance hgenesis)
  | withdrawal _ _ h =>
    constructor
    · apply hgenesis
    · apply h.genesisAnchor hgenesis
    · apply balance_cast_inj.mp (h.genesisBalance hgenesis)

/-- Any other state is proved with a signature of the state key. -/
theorem signed (h : Proved stateKey t) (hkey : stateKey ∈ primeSubgroup)
    (hgenesis : t.isGenesis = false) :
  verifyStateSignature stateKey t.message t.signature
  := by
  cases h with
  | request hx hy h => apply (h.statement hkey hx hy).signed hgenesis
  | @withdrawal input a hx hy h =>
    obtain rfl : a.stateSigningKey = stateKey := by
      ext
      · rw [h.stateSigningKey.1, hx]
      · rw [h.stateSigningKey.2, hy]
    have hcondition : (!a.isGenesis) = true := by
      rw [Bool.not_eq_true']
      apply hgenesis
    have hverify := h.stateSignature.verify hkey hcondition
    rw [a.currentCommitment_eq] at hverify
    apply hverify

end Proved

/-! ### Signatures of the state key -/

/-- A signature of the state key for a next state: the request that is answered, the
charge, the scalar added to the blinding and the next anchor, with the version, the chain
and the contract of the message that is signed. -/
structure Signing where
  input : RequestInputs
  assignment : RequestAssignment
  charge : U128
  blindDelta : EdwardsScalarField
  nextAnchor : Fr
  protocolVersion : Fr
  chainId : Fr
  contractAddress : Fr

namespace Signing

/-- The state that the request spends. -/
def spent (e : Signing) : Spend :=
  e.assignment.spend e.input

/-- The commitment that is signed. -/
def commitment (e : Signing) : EdwardsAffine :=
  serverUpdate e.assignment.anonymousCommitment e.charge e.blindDelta

/-- What is hashed to the message that is signed. -/
def messagePreimage (e : Signing) : List Fr :=
  [domain "zkapi.v2.state", e.protocolVersion, e.chainId, e.contractAddress,
    e.commitment.x, e.commitment.y, e.nextAnchor]

/-- The message that is signed. -/
def message (e : Signing) : Fr :=
  stateMessage e.protocolVersion e.chainId e.contractAddress e.commitment e.nextAnchor

/-- The opening of the commitment that is signed. -/
def opening (e : Signing) : Opening where
  balance := e.assignment.balance - e.charge
  blinding := bitsScalar e.assignment.blindingBits + bitsScalar e.assignment.rerandomizationBits
    + e.blindDelta
  leaf := e.spent.leaf

/-- The condition under which the state key signs: the request satisfies the circuit
against that key, and the charge is within the solvency bound. -/
structure Allowed (stateKey : EdwardsAffine) (e : Signing) : Prop where
  key_x : stateKey.x = e.input.stateSigningKeyX
  key_y : stateKey.y = e.input.stateSigningKeyY
  satisfied : RequestConstraints e.input e.assignment
  charge_le : e.charge.toNat ≤ e.assignment.solvencyBound.toNat

variable {stateKey : EdwardsAffine} {e : Signing}

theorem Allowed.proved (h : e.Allowed stateKey) :
  Proved stateKey e.spent
  := Proved.request h.key_x h.key_y h.satisfied

/-- The charge is covered by the balance that is spent. -/
theorem Allowed.charge_le_balance (h : e.Allowed stateKey) :
  e.charge.toNat ≤ e.spent.balance.toNat
  := h.charge_le.trans h.satisfied.balance

/-- The nullifier of the state that is spent is the one that the request shows. -/
theorem Allowed.nullifier (h : e.Allowed stateKey) :
  e.spent.nullifier = e.input.requestNullifier
  := h.satisfied.requestNullifier

/-- The server signs a commitment that the client can open, although it never sees the
opening. -/
theorem Allowed.commitment_opening (h : e.Allowed stateKey) :
  e.opening.commitment = e.commitment
  := by
  have hanonymous : e.assignment.anonymousCommitment
      = rerandomizeCommitment e.spent.commitment
        (bitsScalar e.assignment.rerandomizationBits) := by
    rw [← h.satisfied.computedAnonymous, e.assignment.currentCommitment_eq,
      scalarMulLe_bitsScalar balanceBlindingGenerator_mem, rerandomizeCommitment]
    rfl
  rw [commitment, hanonymous]
  symm
  apply serverUpdate_rerandomize _ _ _ _ _ _ h.charge_le_balance

end Signing

/-! ### What is assumed of the cryptography -/

/-- The states that the requests of a run spend, and a last one. -/
def presented (es : List Signing) (t : Spend) : List Spend :=
  es.map Signing.spent ++ [t]

/-- The lists that are hashed to messages: those of the states that are spent with a
signature, and those that are signed. -/
def messagePreimages (es : List Signing) (t : Spend) : List (List Fr) :=
  ((presented es t).filter fun s => !s.isGenesis).map Spend.messagePreimage
    ++ es.map Signing.messagePreimage

/-- The openings of the states that are spent and of the commitments that are signed. -/
def openings (es : List Signing) (t : Spend) : List Opening :=
  (presented es t).map Spend.opening ++ es.map Signing.opening

/-- The signature that a state is spent with verifies for a signed message only.  A genesis
state is spent without a signature. -/
def Spend.Unforged (stateKey : EdwardsAffine) (signed : List Fr) (s : Spend) : Prop :=
  s.isGenesis = false → verifyStateSignature stateKey s.message s.signature →
    s.message ∈ signed

/-- The assumptions, for the values that the run and the last state present: no function
from unbounded inputs into the field is injective, and no commitment with a blinding binds
all openings. -/
structure Assumptions (stateKey : EdwardsAffine) (es : List Signing) (t : Spend) : Prop where
  messages : Set.InjOn poseidonHash {x | x ∈ messagePreimages es t}
  leaves : Set.InjOn poseidonHash {x | x ∈ (presented es t).map Spend.leafPreimage}
  registrations :
    Set.InjOn poseidonHash {x | x ∈ (presented es t).map Spend.registrationPreimage}
  unforged : ∀ pre e, pre ++ [e] <+: es →
    e.spent.Unforged stateKey (pre.map Signing.message)
  unforged_last : t.Unforged stateKey (es.map Signing.message)
  binding : ∀ o ∈ openings es t, ∀ o' ∈ openings es t, o.commitment = o'.commitment →
    (o.balance.toNat : EdwardsScalarField) = o'.balance.toNat ∧ o.blinding = o'.blinding
      ∧ (o.leaf.val : EdwardsScalarField) = o'.leaf.val
  leaves_differ : ∀ s ∈ presented es t, ∀ s' ∈ presented es t,
    (s.leaf.val : EdwardsScalarField) = s'.leaf.val → s.leaf = s'.leaf

/-! ### Links of a chain -/

/-- A signature makes a state: the state is the one whose commitment and anchor are signed,
it is a state of the note that is charged, and its balance is what the charge leaves. -/
structure Makes (e : Signing) (t : Spend) : Prop where
  commitment : t.commitment = e.commitment
  anchor : t.anchor = e.nextAnchor
  note : e.spent.SameNote t
  leaf : e.spent.leaf = t.leaf
  balance : t.balance.toNat + e.charge.toNat = e.spent.balance.toNat
  nullifier : e.spent.nullifier = e.input.requestNullifier

section

variable {stateKey : EdwardsAffine} {es : List Signing} {t u : Spend} {e : Signing}

theorem last_mem_presented : t ∈ presented es t := by
  rw [presented, List.mem_append, List.mem_singleton]
  right
  rfl

theorem spent_mem_presented (he : e ∈ es) : e.spent ∈ presented es t := by
  rw [presented, List.mem_append]
  left
  apply List.mem_map_of_mem he

/-- States that are presented with one leaf are states of one note. -/
theorem Assumptions.sameNote (h : Assumptions stateKey es t) {s s' : Spend}
    (hs : s ∈ presented es t) (hs' : s' ∈ presented es t) (hleaf : s.leaf = s'.leaf) :
  s.SameNote s'
  := by
  have hpreimage : s.leafPreimage = s'.leafPreimage := by
    apply h.leaves (List.mem_map_of_mem hs) (List.mem_map_of_mem hs') hleaf
  simp only [Spend.leafPreimage, List.cons.injEq] at hpreimage
  obtain ⟨_, hnote, hregistration, hdeposit, hexpiry, _⟩ := hpreimage
  have hsecret : s.registrationPreimage = s'.registrationPreimage := by
    apply h.registrations (List.mem_map_of_mem hs) (List.mem_map_of_mem hs') hregistration
  simp only [Spend.registrationPreimage, List.cons.injEq] at hsecret
  constructor
  case secret => apply hsecret.2.1
  case noteId => apply (toNat_cast_inj (by norm_num)).mp hnote
  case depositAmount => apply (toNat_cast_inj (by norm_num)).mp hdeposit
  case expiry => apply (toNat_cast_inj (by norm_num)).mp hexpiry

/-- A signed commitment opens to no other leaf than that of the request it answers. -/
theorem Assumptions.opens (h : Assumptions stateKey es t) (he : e ∈ es)
    (hallowed : e.Allowed stateKey) (hu : u ∈ presented es t)
    (hcommitment : u.commitment = e.commitment) :
  u.balance = e.opening.balance ∧ e.spent.leaf = u.leaf
  := by
  have huo : u.opening ∈ openings es t := by
    rw [openings, List.mem_append]
    left
    apply List.mem_map_of_mem hu
  have heo : e.opening ∈ openings es t := by
    rw [openings, List.mem_append]
    right
    apply List.mem_map_of_mem he
  have hsame : u.opening.commitment = e.opening.commitment := by
    rw [hallowed.commitment_opening]
    apply hcommitment
  obtain ⟨hbalance, _, hleaf⟩ := h.binding _ huo _ heo hsame
  constructor
  · have hval := congrArg ZMod.val hbalance
    rw [val_balance, val_balance] at hval
    apply BitVec.eq_of_toNat_eq hval
  · symm
    apply h.leaves_differ _ hu _ (spent_mem_presented he) hleaf

/-- A state that is presented under a message that was signed is made by that signature. -/
theorem Assumptions.makes (h : Assumptions stateKey es t) (he : e ∈ es)
    (hallowed : e.Allowed stateKey) (hu : u ∈ presented es t) (hgenesis : u.isGenesis = false)
    (hmessage : u.message = e.message) :
  Makes e u
  := by
  have humem : u.messagePreimage ∈ messagePreimages es t := by
    rw [messagePreimages, List.mem_append]
    left
    apply List.mem_map_of_mem
    rw [List.mem_filter, hgenesis]
    exact ⟨hu, rfl⟩
  have hemem : e.messagePreimage ∈ messagePreimages es t := by
    rw [messagePreimages, List.mem_append]
    right
    apply List.mem_map_of_mem he
  have hpreimage := h.messages humem hemem hmessage
  simp only [Spend.messagePreimage, Signing.messagePreimage, List.cons.injEq] at hpreimage
  obtain ⟨_, _, _, _, hx, hy, hanchor, _⟩ := hpreimage
  have hcommitment : u.commitment = e.commitment := by
    ext
    · apply hx
    · apply hy
  obtain ⟨hbalance, hleaf⟩ := h.opens he hallowed hu hcommitment
  constructor
  case commitment => apply hcommitment
  case anchor => apply hanchor
  case note => apply h.sameNote (spent_mem_presented he) hu hleaf
  case leaf => apply hleaf
  case balance =>
    have hle := hallowed.charge_le_balance
    have hsub : e.opening.balance.toNat = e.spent.balance.toNat - e.charge.toNat := by
      apply BitVec.toNat_sub_of_le (BitVec.le_def.mpr hle)
    rw [hbalance, hsub, Nat.sub_add_cancel hle]
  case nullifier => apply hallowed.nullifier

/-- A proved state is the first of its note, or a signature among those that it is unforged
for makes it. -/
theorem Assumptions.covered (h : Assumptions stateKey es t) (hkey : stateKey ∈ primeSubgroup)
    (hallowed : ∀ e ∈ es, e.Allowed stateKey) {pre : List Signing} (hpre : pre <+: es)
    (hu : u ∈ presented es t) (hproved : Proved stateKey u)
    (hunforged : u.Unforged stateKey (pre.map Signing.message)) :
  Provenance.Covered Spend.Genesis Makes pre u
  := by
  cases hgenesis : u.isGenesis with
  | true =>
    left
    apply hproved.genesis hgenesis
  | false =>
    right
    have hmessage := hunforged hgenesis (hproved.signed hkey hgenesis)
    obtain ⟨e, he, heq⟩ := List.mem_map.mp hmessage
    use e, he
    have hes := hpre.subset he
    apply h.makes hes (hallowed e hes) hu hgenesis heq.symm

/-- Along a chain from the first state of a note, the note stays the same, and balance and
charges add up to the deposit. -/
theorem chain_accounting {s : Spend} {chain : List Signing} (hs : s.Genesis)
    (hrun : Run (Provenance.Exchange Signing.spent Makes) s chain t) :
  (∀ e ∈ chain, e.spent.SameNote t)
    ∧ s.SameNote t
    ∧ t.balance.toNat + (chain.map fun e => e.charge.toNat).sum = t.depositAmount.toNat
  := by
  induction hrun with
  | nil =>
    constructor
    · intro e he
      cases he
    constructor
    · apply Spend.SameNote.refl
    · rw [hs.balance, List.map_nil, List.sum_nil, Nat.add_zero]
  | @snoc chain t u e hrun hstep ih =>
    obtain ⟨rfl, hmakes⟩ := hstep
    obtain ⟨hnotes, hnote, hsum⟩ := ih
    constructor
    · intro e' he'
      rw [List.mem_append, List.mem_singleton] at he'
      obtain he' | rfl := he'
      · apply (hnotes e' he').trans hmakes.note
      · apply hmakes.note
    constructor
    · apply hnote.trans hmakes.note
    · rw [List.map_append, List.sum_append, List.map_singleton, List.sum_singleton,
        ← hmakes.note.depositAmount, ← hsum, ← hmakes.balance]
      omega

end

/-! ### Every proved state ends a chain -/

/-- Whenever the state key signs only what it is allowed to, every state that a satisfied circuit
proves ends a chain of signatures from the genesis of its note, in the order of signing and
all for its leaf; its balance is the deposit less the charges of the chain, which do not
exceed it.  A commitment signed for the state of one note is not spent for another. -/
theorem spend_chain {stateKey : EdwardsAffine} {es : List Signing} {t : Spend}
    (hkey : stateKey ∈ primeSubgroup) (hallowed : ∀ e ∈ es, e.Allowed stateKey)
    (hassume : Assumptions stateKey es t) (ht : Proved stateKey t) :
  (∃ s chain, s.Genesis ∧ chain.Sublist es
      ∧ Run (Provenance.Exchange Signing.spent Makes) s chain t
      ∧ (∀ e ∈ chain, e.spent.leaf = t.leaf ∧ e.spent.SameNote t
        ∧ e.spent.nullifier = e.input.requestNullifier)
      ∧ s.SameNote t
      ∧ t.balance.toNat + (chain.map fun e => e.charge.toNat).sum = t.depositAmount.toNat
      ∧ t.depositAmount.toNat < subgroupOrder)
    ∧ ∀ e ∈ es, t.commitment = e.commitment → e.spent.leaf = t.leaf ∧ e.spent.SameNote t
  := by
  have hjustified : Provenance.Justified Spend.Genesis Signing.spent Makes es := by
    intro pre e hpre
    have he : e ∈ es := hpre.subset (List.mem_append_right pre (List.mem_singleton_self e))
    apply hassume.covered hkey hallowed ((List.prefix_append pre [e]).trans hpre)
      (spent_mem_presented he) (hallowed e he).proved (hassume.unforged pre e hpre)
  have hcovered : Provenance.Covered Spend.Genesis Makes es t := by
    apply hassume.covered hkey hallowed List.prefix_rfl last_mem_presented ht
      hassume.unforged_last
  constructor
  · obtain ⟨s, chain, hs, hsub, hchain⟩ := Provenance.exists_run hjustified hcovered
    obtain ⟨hnotes, hnote, hsum⟩ := chain_accounting hs hchain
    use s, chain, hs, hsub, hchain
    constructor
    · intro e he
      constructor
      · apply (hnotes e he).leaf
      constructor
      · apply hnotes e he
      · apply (hallowed e (hsub.subset he)).nullifier
    · exact ⟨hnote, hsum, balance_lt_subgroupOrder t.depositAmount⟩
  · intro e he hcommitment
    have hleaf := (hassume.opens he (hallowed e he) last_mem_presented hcommitment).2
    constructor
    · apply hleaf
    · apply hassume.sameNote (spent_mem_presented he) last_mem_presented hleaf

/-! ### A run of one signature -/

/-- The public inputs that a witness proves, for a state key, a time and a bound. -/
def RequestWitness.inputs (w : RequestWitness) (stateKey : EdwardsAffine) (requestTime : U64)
    (solvencyBound : U128) : RequestInputs where
  protocolVersion := 2
  chainId := 1
  contractAddress := 1
  activeRoot := merkleRoot w.noteId w.leaf w.merkleSiblings
  stateSigningKeyX := stateKey.x
  stateSigningKeyY := stateKey.y
  requestTime := requestTime.toNat
  solvencyBound := solvencyBound.toNat
  requestNullifier := requestNullifier w.secret w.currentAnchor
  authorizationTag := authorizationTag (requestNullifier w.secret w.currentAnchor)
    w.requestContext
  anonymousCommitmentX := (rerandomizeCommitment w.commitment w.rerandomization).x
  anonymousCommitmentY := (rerandomizeCommitment w.commitment w.rerandomization).y

/-- The wires of a witness for its public inputs. -/
def RequestWitness.provedWires (w : RequestWitness) (stateKey : EdwardsAffine)
    (requestTime : U64) (solvencyBound : U128) : RequestAssignment :=
  w.wires stateKey (rerandomizeCommitment w.commitment w.rerandomization) requestTime
    solvencyBound

namespace SpendExample

/-- The first request of a note of ten units. -/
def first : RequestWitness where
  secret := 1
  requestContext := 0
  noteId := 0
  depositAmount := 10
  expiry := 100
  merkleSiblings := fun _ => 0
  currentBalance := 10
  currentBlinding := 0
  rerandomization := 0
  currentAnchor := 1
  isGenesis := true
  stateSignature := { r := 0, s := 0 }

/-- The signature that answers it with a charge of three. -/
def answer : Signing where
  input := first.inputs generator 0 5
  assignment := first.provedWires generator 0 5
  charge := 3
  blindDelta := 0
  nextAnchor := 2
  protocolVersion := 2
  chainId := 1
  contractAddress := 1

/-- The second request, which spends the state that was signed. -/
def second : RequestWitness where
  secret := 1
  requestContext := 0
  noteId := 0
  depositAmount := 10
  expiry := 100
  merkleSiblings := fun _ => 0
  currentBalance := 7
  currentBlinding := 0
  rerandomization := 0
  currentAnchor := 2
  isGenesis := false
  stateSignature := { r := 0, s := signatureChallenge 0 answer.message }

/-- The state that the second request spends. -/
def last : Spend :=
  (second.provedWires generator 0 5).spend (second.inputs generator 0 5)

theorem answer_allowed :
  answer.Allowed generator
  := by
  have hstatement : RequestStatement answer.input generator 0 5 first := by
    constructor
    case signed =>
      intro h
      cases h
    case secret_ne_zero => apply one_ne_zero
    case genesis => exact fun _ => ⟨rfl, rfl⟩
    case anonymous_eq => exact ⟨rfl, rfl⟩
    case requestTime_le | solvencyBound_le => decide
    all_goals rfl
  constructor
  case satisfied =>
    apply hstatement.constraints generator_mem rfl rfl ⟨rfl, rfl⟩ primeSubgroup.zero_mem
  case charge_le => decide
  all_goals rfl

theorem answer_note :
  answer.spent.SameNote last
  where
  secret := (rfl : (1 : Fr) = 1)
  noteId := (rfl : (0 : U32) = 0)
  depositAmount := (rfl : (10 : U128) = 10)
  expiry := (rfl : (100 : U64) = 100)

theorem answer_opening :
  answer.opening = last.opening
  := by
  have hzero : bitsScalar (scalarBitsWitness 0) = 0 := bitsScalar_scalarBitsWitness 0
  have hbalance : answer.opening.balance = last.opening.balance := by decide
  have hblinding : answer.opening.blinding = last.opening.blinding := by
    show bitsScalar (scalarBitsWitness 0) + bitsScalar (scalarBitsWitness 0) + 0
      = bitsScalar (scalarBitsWitness 0)
    rw [hzero, add_zero, add_zero]
  rw [Signing.opening] at hbalance hblinding ⊢
  rw [Spend.opening] at hbalance hblinding ⊢
  rw [Opening.mk.injEq]
  exact ⟨hbalance, hblinding, answer_note.leaf⟩

theorem last_messagePreimage :
  last.messagePreimage = answer.messagePreimage
  := by
  rw [Spend.messagePreimage, Signing.messagePreimage, Spend.commitment, ← answer_opening,
    answer_allowed.commitment_opening]
  rfl

theorem last_message :
  last.message = answer.message
  := congrArg poseidonHash last_messagePreimage

theorem last_verifies :
  verifyStateSignature generator last.message second.stateSignature
  := by
  rw [last_message, verifyStateSignature, second, zero_add]

theorem last_proved :
  Proved generator last
  := by
  have hstatement : RequestStatement (second.inputs generator 0 5) generator 0 5 second := by
    constructor
    case signed => exact fun _ => last_verifies
    case secret_ne_zero => apply one_ne_zero
    case genesis =>
      intro h
      cases h
    case anonymous_eq => exact ⟨rfl, rfl⟩
    case requestTime_le | solvencyBound_le => decide
    all_goals rfl
  apply Proved.request rfl rfl
  apply hstatement.constraints generator_mem rfl rfl ⟨rfl, rfl⟩ primeSubgroup.zero_mem

/-- Three times the generator is not zero. -/
theorem three_smul_generator :
  3 • generator ≠ 0
  := by
  intro h
  have hthree := addOrderOf_dvd_of_nsmul_eq_zero h
  have horder := addOrderOf_dvd_of_nsmul_eq_zero (mem_primeSubgroup.mp generator_mem)
  have hone : addOrderOf generator ∣ 1 := by
    have hgcd : Nat.gcd 3 subgroupOrder = 1 := by decide +kernel
    rw [← hgcd]
    apply Nat.dvd_gcd hthree horder
  have hzero := AddMonoid.addOrderOf_eq_one_iff.mp (Nat.dvd_one.mp hone)
  have hx := congrArg Edwards.Point.x hzero
  revert hx
  decide +kernel

/-- The commitments of the two states are different. -/
theorem commitment_ne :
  answer.spent.opening.commitment ≠ last.opening.commitment
  := by
  have hten : answer.spent.balance.toNat = 3 + 7 := by decide
  have hseven : last.balance.toNat = 7 := by decide
  have hblinding : answer.spent.blinding = last.blinding :=
    (rfl : bitsScalar (scalarBitsWitness 0) = bitsScalar (scalarBitsWitness 0))
  intro h
  simp only [Opening.commitment, Spend.opening, balanceCommitment, answer_note.leaf, hblinding,
    val_balance] at h
  have hsmul := add_right_cancel (add_right_cancel h)
  rw [hten, hseven, add_smul, add_eq_right] at hsmul
  apply three_smul_generator hsmul

theorem assumptions :
  Assumptions generator [answer] last
  := by
  have hpresented : ∀ s ∈ presented [answer] last, s = answer.spent ∨ s = last := by
    intro s hs
    rw [presented, List.map_singleton, List.mem_append, List.mem_singleton,
      List.mem_singleton] at hs
    apply hs
  have hnote : ∀ s ∈ presented [answer] last, s.SameNote last := by
    intro s hs
    obtain rfl | rfl := hpresented s hs
    · apply answer_note
    · apply Spend.SameNote.refl
  have hopenings : ∀ o ∈ openings [answer] last,
      o = answer.spent.opening ∨ o = last.opening := by
    intro o ho
    rw [openings, List.mem_append, List.mem_map, List.map_singleton, List.mem_singleton,
      answer_opening] at ho
    obtain ⟨s, hs, rfl⟩ | rfl := ho
    · obtain rfl | rfl := hpresented s hs
      · left; rfl
      · right; rfl
    · right; rfl
  have hmessages : ∀ x ∈ messagePreimages [answer] last, x = answer.messagePreimage := by
    intro x hx
    rw [messagePreimages, List.mem_append, List.mem_map, List.map_singleton,
      List.mem_singleton] at hx
    obtain ⟨s, hs, rfl⟩ | rfl := hx
    · obtain ⟨hs, hgenesis⟩ := List.mem_filter.mp hs
      obtain rfl | rfl := hpresented s hs
      · cases hgenesis
      · apply last_messagePreimage
    · rfl
  constructor
  case messages =>
    intro x hx y hy _
    rw [hmessages x hx, hmessages y hy]
  case leaves =>
    rintro _ hx _ hy _
    obtain ⟨s, hs, rfl⟩ := List.mem_map.mp hx
    obtain ⟨s', hs', rfl⟩ := List.mem_map.mp hy
    have h := hnote s hs
    have h' := hnote s' hs'
    rw [Spend.leafPreimage, Spend.leafPreimage, h.secret, h.noteId, h.depositAmount, h.expiry,
      h'.secret, h'.noteId, h'.depositAmount, h'.expiry]
  case registrations =>
    rintro _ hx _ hy _
    obtain ⟨s, hs, rfl⟩ := List.mem_map.mp hx
    obtain ⟨s', hs', rfl⟩ := List.mem_map.mp hy
    rw [Spend.registrationPreimage, Spend.registrationPreimage, (hnote s hs).secret,
      (hnote s' hs').secret]
  case unforged =>
    intro pre e hpre
    have he : e ∈ [answer] := hpre.subset (List.mem_append_right pre (List.mem_singleton_self e))
    obtain rfl := List.mem_singleton.mp he
    intro hgenesis
    cases hgenesis
  case unforged_last =>
    intro _ _
    rw [last_message, List.map_singleton, List.mem_singleton]
  case binding =>
    intro o ho o' ho' h
    obtain rfl | rfl := hopenings o ho <;> obtain rfl | rfl := hopenings o' ho'
    · exact ⟨rfl, rfl, rfl⟩
    · cases commitment_ne h
    · cases commitment_ne h.symm
    · exact ⟨rfl, rfl, rfl⟩
  case leaves_differ =>
    intro s hs s' hs' _
    rw [(hnote s hs).leaf, (hnote s' hs').leaf]

/-- The second request of a note of ten units, after an answer that charges three. -/
theorem spend_chain_single :
  (∃ s chain, s.Genesis ∧ chain.Sublist [answer]
      ∧ Run (Provenance.Exchange Signing.spent Makes) s chain last
      ∧ (∀ e ∈ chain, e.spent.leaf = last.leaf ∧ e.spent.SameNote last
        ∧ e.spent.nullifier = e.input.requestNullifier)
      ∧ s.SameNote last
      ∧ last.balance.toNat + (chain.map fun e => e.charge.toNat).sum
        = last.depositAmount.toNat
      ∧ last.depositAmount.toNat < subgroupOrder)
    ∧ ∀ e ∈ [answer], last.commitment = e.commitment →
      e.spent.leaf = last.leaf ∧ e.spent.SameNote last
  := by
  apply spend_chain generator_mem _ assumptions last_proved
  intro e he
  rw [List.mem_singleton] at he
  rw [he]
  apply answer_allowed

end SpendExample

end ZkApi
