import ZkApi.Proof.Charges
import ZkApi.Vault.Evidence
import ZkApi.Vault.Exit

/-!
# What the operator collects

The vault never learns what a note was charged.  It pays the balance that the closing proof
shows and sends the rest to the treasury.  That this rest is exactly what the operator has
charged rests on the chain of signatures: when every nullifier is served once and the state
that is withdrawn was not spent by a request, its balance is the deposit less all charges
for the note, so that the treasury is sent their sum (`settlement`).
-/

namespace ZkApi.Vault

open SparseMerkle MerkleUpdateLib Poseidon

variable {v : Deployment} {env : Env} {w w' : World} {r : Receipt} {actions : List Action}

/-! ### The withdrawal behind an ending -/

/-- Only an escape leads to a pending note. -/
theorem Life.next_eq_pending {life : Life} {e : Event} {terms : Terms} {escape : Escape}
    (h : life.next e = some (.pending terms escape)) :
  ∃ m newRoot, e = .escapeWithdrawalInitiated m escape.nullifier escape.finalBalance
    escape.destination escape.deadline newRoot
  := by
  unfold Life.next at h
  split at h
  case h_3 m nullifier finalBalance destination deadline newRoot =>
    rw [Option.ite_none_right_eq_some] at h
    cases h.2
    exact ⟨m, newRoot, rfl⟩
  all_goals
    try rw [Option.ite_none_right_eq_some] at h
    simp at h

/-- A withdrawal ends with a mutual close or in the finalization of an escape. -/
theorem Life.next_eq_withdrawn {life : Life} {e : Event} {terms : Terms}
    {finalBalance : U128} {destination : Address}
    (h : life.next e = some (.closed terms (.withdrawn finalBalance destination))) :
  (∃ m nullifier, e = .mutualClose m nullifier finalBalance destination)
    ∨ ∃ escape, life = .pending terms escape ∧ escape.finalBalance = finalBalance
      ∧ escape.destination = destination
  := by
  unfold Life.next at h
  split at h
  case h_2 m nullifier _ _ =>
    rw [Option.ite_none_right_eq_some] at h
    cases h.2
    exact .inl ⟨m, nullifier, rfl⟩
  case h_6 =>
    rw [Option.ite_none_right_eq_some] at h
    obtain ⟨⟨-, hbalance, hdestination⟩, h⟩ := h
    cases h
    exact .inr ⟨_, rfl, hbalance.symm, hdestination.symm⟩
  all_goals
    try rw [Option.ite_none_right_eq_some] at h
    simp at h

/-- The last event of a life that has had one. -/
theorem Life.foldlM_concat {es : List Event} {e : Event} {life life' : Life}
    (h : (es ++ [e]).foldlM Life.next life = some life') :
  ∃ before, es.foldlM Life.next life = some before ∧ before.next e = some life'
  := by
  rw [List.foldlM_append] at h
  obtain ⟨before, hbefore, hnext⟩ := Option.bind_eq_some_iff.mp h
  rw [List.foldlM_cons] at hnext
  obtain ⟨after, hafter, hnil⟩ := Option.bind_eq_some_iff.mp hnext
  obtain rfl := Option.some.inj hnil
  exact ⟨before, hbefore, hafter⟩

theorem Life.escape_mem {es : List Event} {terms : Terms} {escape : Escape}
    (h : es.foldlM Life.next .absent = some (.pending terms escape)) :
  ∃ m newRoot, .escapeWithdrawalInitiated m escape.nullifier escape.finalBalance
    escape.destination escape.deadline newRoot ∈ es
  := by
  obtain rfl | ⟨es, e, rfl⟩ := es.eq_nil_or_concat'
  · cases h
  · obtain ⟨life, -, hnext⟩ := Life.foldlM_concat h
    obtain ⟨m, newRoot, rfl⟩ := Life.next_eq_pending hnext
    exact ⟨m, newRoot, List.mem_append_right _ (List.mem_singleton_self _)⟩

/-- An event of a withdrawal that names its balance and its destination. -/
def Event.Withdraws (finalBalance : U128) (destination : Address) : Event → Prop
  | .mutualClose _ _ b d => b = finalBalance ∧ d = destination
  | .escapeWithdrawalInitiated _ _ b d _ _ => b = finalBalance ∧ d = destination
  | _ => False

theorem Life.withdraws_mem {es : List Event} {terms : Terms} {finalBalance : U128}
    {destination : Address}
    (h : es.foldlM Life.next .absent
      = some (.closed terms (.withdrawn finalBalance destination))) :
  ∃ e ∈ es, e.Withdraws finalBalance destination
  := by
  obtain rfl | ⟨es, e, rfl⟩ := es.eq_nil_or_concat'
  · cases h
  · obtain ⟨life, hlife, hnext⟩ := Life.foldlM_concat h
    obtain ⟨m, nullifier, rfl⟩ | ⟨escape, rfl, hbalance, hdestination⟩ :=
      Life.next_eq_withdrawn hnext
    · exact ⟨_, List.mem_append_right _ (List.mem_singleton_self _), rfl, rfl⟩
    · obtain ⟨m, newRoot, hmem⟩ := Life.escape_mem hlife
      exact ⟨_, List.mem_append_left _ hmem, hbalance, hdestination⟩

/-- A withdrawal of a note in a history: the actions before it and the state they led to, its
environment, inputs and proof, with what its checks have established, and the run after it. -/
structure Withdrawal (v : Deployment) (actions : List Action) (w : World) (n : U32) where
  before : List Action
  world : World
  env : Env
  hasClearance : Bool
  inputs : WithdrawalPublicInputs
  proof : Bytes
  siblings : Fin 32 → U256
  newRoot : U256
  rest : List Action
  history_eq : actions = before ++ rest
  reachable : Reachable v before world
  run : Run (Step v) world rest w
  authorized : Authorized v env world hasClearance inputs proof siblings newRoot
  noteId_eq : inputs.noteId = n

/-- A call that emits the event of a withdrawal had passed its checks. -/
theorem Effect.withdraws {call : Call} {n : U32} {e : Event} {finalBalance : U128}
    {destination : Address} (h : Effect v env w call r) (he : e ∈ r.events)
    (hn : e.noteId = some n) (hwithdraws : e.Withdraws finalBalance destination) :
  ∃ hasClearance inputs proof siblings newRoot,
    Authorized v env w hasClearance inputs proof siblings newRoot ∧ inputs.noteId = n
      ∧ inputs.finalBalance = finalBalance ∧ inputs.destination = destination
  := by
  cases h with
  | @mutualClose inputs proof siblings newRoot _ _ hauth =>
    obtain rfl := List.mem_singleton.mp he
    exact ⟨true, inputs, proof, siblings, newRoot, hauth, Option.some.inj hn, hwithdraws⟩
  | @initiateEscapeWithdrawal inputs proof siblings newRoot _ hauth =>
    obtain rfl := List.mem_singleton.mp he
    exact ⟨false, inputs, proof, siblings, newRoot, hauth, Option.some.inj hn, hwithdraws⟩
  | deposit | challengeEscapeWithdrawal | finalizeEscapeWithdrawal | claimExpired =>
    obtain rfl := List.mem_singleton.mp he
    cases hwithdraws
  | @administer call =>
    cases call with
    | setTreasury newTreasury =>
      obtain rfl := List.mem_singleton.mp he
      cases hn
    | pause | unpause => cases he

theorem Reachable.exists_withdrawal {n : U32} {terms : Terms} {finalBalance : U128}
    {destination : Address} (h : Reachable v actions w)
    (hlife : Follows n actions w.ledger
      (.closed terms (.withdrawn finalBalance destination))) :
  ∃ c : Withdrawal v actions w n,
    c.inputs.finalBalance = finalBalance ∧ c.inputs.destination = destination
  := by
  obtain ⟨e, hevent, hwithdraws⟩ := Life.withdraws_mem hlife.replay
  obtain ⟨a, ha, he⟩ := List.mem_flatMap.mp hevent
  obtain ⟨address, timestamp, held, args, w₀, hconstruct, hrun⟩ := h
  obtain ⟨before, after, u, u', rfl, hu, hstep, hrest⟩ := hrun.exists_step ha
  have hreach : Reachable v before u := ⟨address, timestamp, held, args, w₀, hconstruct, hu⟩
  have hrun' := (Run.single hstep).append hrest
  cases hstep with
  | @call env call receipt _ _ hexecute =>
    rw [Action.eventsOf, List.mem_filter, decide_eq_true_eq] at he
    obtain ⟨hasClearance, inputs, proof, siblings, newRoot, hauth, hnote, hbalance,
      hdestination⟩ := (execute_effect hexecute).withdraws he.1 he.2 hwithdraws
    use
      { before
        world := u
        env
        hasClearance
        inputs
        proof
        siblings
        newRoot
        rest := .call env call receipt :: after
        history_eq := rfl
        reachable := hreach
        run := hrun'
        authorized := hauth
        noteId_eq := hnote }
  | donation => cases he

/-! ### The settlement -/

/-- What is assumed of a withdrawal with a witness, for the signatures of the state key: that
nothing collides on the way to its leaf, the assumptions of the chains of signatures, and that
no request has spent the state that is withdrawn. -/
structure Unspent (stateKey : EdwardsAffine) (es : List Signing) {n : U32}
    (c : Withdrawal v actions w n) (x : WithdrawalAssignment) : Prop where
  noCollision : NoCollision v c.before (c.world.ledger.notes n) n x
  signatures : Assumptions stateKey es (x.spend c.inputs.toFieldElements)
  unspent : ∀ e ∈ es, e.input.requestNullifier ≠ residue c.inputs.withdrawalNullifier

/-- What was paid for a note is its deposit less the charges to the destination, and the
charges to a treasury. -/
def Settled (es : List Signing) (n : U32) (note : Note) (destination : Address)
    (sent : List Transfer) : Prop :=
  ∃ (balance share : U128) (treasury : Address), treasury ≠ 0
    ∧ balance.toNat + chargedTo es (residue (leaf n note)) = note.depositAmount.toNat
    ∧ share.toNat = chargedTo es (residue (leaf n note))
    ∧ sent = nonzeroTransfer destination balance ++ nonzeroTransfer treasury share

section

variable {stateKey : EdwardsAffine} {es : List Signing} {n : U32}
  {c : Withdrawal v actions w n} {x : WithdrawalAssignment}

/-- The state that a withdrawal spends is proved under the state key of the vault. -/
theorem Withdrawal.proved (hx : stateKey.x = residue v.stateSigningKeyX)
    (hy : stateKey.y = residue v.stateSigningKeyY)
    (h : WithdrawalConstraints c.inputs.toFieldElements x) :
  Proved stateKey (x.spend c.inputs.toFieldElements)
  := by
  have hbound := c.authorized.bound
  simp only [withdrawalMismatch, not_or, not_not] at hbound
  obtain ⟨_, _, _, hkeyX, hkeyY, _⟩ := hbound
  apply Proved.withdrawal _ _ h
  · rw [hx, WithdrawalPublicInputs.toFieldElements, hkeyX]
  · rw [hy, WithdrawalPublicInputs.toFieldElements, hkeyY]

/-- The leaf of the state that a withdrawal spends is that of the note. -/
theorem Withdrawal.leaf_eq (h : WithdrawalConstraints c.inputs.toFieldElements x)
    (hnone : NoCollision v c.before (c.world.ledger.notes n) n x) :
  (x.spend c.inputs.toFieldElements).leaf = residue (leaf n (w.ledger.notes n))
    ∧ x.depositAmount = (w.ledger.notes n).depositAmount
  := by
  have hnote : x.noteId = n := by
    rw [← c.noteId_eq]
    exact (toNat_cast_inj (by norm_num)).mp h.noteId
  have hactive := c.authorized.active
  rw [c.noteId_eq] at hactive
  have hlt := c.reachable.conserved.lt_next (n := n) (by rw [hactive]; nofun)
  have hrecord := (record_of_run c.run hlt).2
  have hrooted := c.reachable.rooted hnone.nodes fun _ hp => List.mem_append_left _ hp
  have hleaf := hrooted.leaf_eq hnone.nodes (fun _ hp => List.mem_append_right _ hp) h
    (congrArg residue c.authorized.root)
  rw [hnote, noteLeafAt_active hactive] at hleaf
  rw [leaf_eq_of_record hrecord]
  constructor
  · rw [← hleaf]
    rfl
  · rw [leaf, residue_computeLeaf] at hleaf
    have hpreimage := hnone.leaves (Set.mem_insert _ _) (Set.mem_insert_of_mem _ rfl) hleaf
    simp only [leafPreimage, List.cons.injEq] at hpreimage
    obtain ⟨_, _, _, hdeposit, _⟩ := hpreimage
    have hamount : (w.ledger.notes n).depositAmount = (c.world.ledger.notes n).depositAmount :=
      congrArg (fun record => record.2.1) hrecord
    rw [hamount]
    exact balance_cast_inj.mp hdeposit

/-- A withdrawal of an unspent state shows the deposit less all charges. -/
theorem Withdrawal.balance_eq (hkey : stateKey ∈ primeSubgroup)
    (hx : stateKey.x = residue v.stateSigningKeyX)
    (hy : stateKey.y = residue v.stateSigningKeyY) (hallowed : ∀ e ∈ es, e.Allowed stateKey)
    (hserved : (es.map fun e => e.input.requestNullifier).Nodup)
    (h : WithdrawalConstraints c.inputs.toFieldElements x) (hunspent : Unspent stateKey es c x) :
  c.inputs.finalBalance.toNat + chargedTo es (residue (leaf n (w.ledger.notes n)))
    = (w.ledger.notes n).depositAmount.toNat
  := by
  obtain ⟨hleaf, hdeposit⟩ := Withdrawal.leaf_eq h hunspent.noCollision
  have hnullifier : (x.spend c.inputs.toFieldElements).nullifier
      = residue c.inputs.withdrawalNullifier := h.withdrawalNullifier
  have hbalance : x.finalBalance = c.inputs.finalBalance := balance_cast_inj.mp h.finalBalance
  have hcharges := balance_add_charges hkey hallowed hunspent.signatures hserved
    (Withdrawal.proved hx hy h) (by rw [hnullifier]; exact hunspent.unspent)
  rw [hleaf, WithdrawalAssignment.spend, hbalance, hdeposit] at hcharges
  exact hcharges

/-- When the state key signs only what it is allowed to and no two requests that were answered
have one nullifier, a note that is closed was claimed after its expiry, with all of its deposit
for a treasury, or there was a withdrawal of it for which there is a witness.  If the state of
the witness is unspent, the destination was paid the deposit less every charge for the note,
and a treasury was paid exactly the sum of these charges. -/
theorem settlement (h : Reachable v actions w) (hsound : v.proofAdapter.WithdrawalSound)
    (hkey : stateKey ∈ primeSubgroup) (hx : stateKey.x = residue v.stateSigningKeyX)
    (hy : stateKey.y = residue v.stateSigningKeyY) (hallowed : ∀ e ∈ es, e.Allowed stateKey)
    (hserved : (es.map fun e => e.input.requestNullifier).Nodup)
    (hclosed : (w.ledger.notes n).status = .closed) :
  (∃ treasury, treasury ≠ 0 ∧ sentFor n actions
      = [{ destination := treasury, amount := (w.ledger.notes n).depositAmount }])
    ∨ ∃ c : Withdrawal v actions w n,
      (∃ x, WithdrawalConstraints c.inputs.toFieldElements x)
        ∧ ∀ x, WithdrawalConstraints c.inputs.toFieldElements x → Unspent stateKey es c x →
          Settled es n (w.ledger.notes n) c.inputs.destination (sentFor n actions)
  := by
  obtain ⟨life, hlife⟩ := h.follows n
  obtain ⟨terms, ending, rfl⟩ := hlife.recorded.of_closed hclosed
  obtain ⟨treasury, htreasury, hsent⟩ := hlife.paid
  have hnote : w.ledger.notes n = terms.note .closed := hlife.recorded.1
  cases ending with
  | expired =>
    left
    use treasury, htreasury
    rw [hsent, hnote]
    rfl
  | withdrawn finalBalance destination =>
    right
    obtain ⟨c, rfl, rfl⟩ := h.exists_withdrawal hlife
    use c
    constructor
    · exact hsound c.inputs c.proof c.authorized.valid
    · intro x hsatisfied hunspent
      have hbalance :=
        Withdrawal.balance_eq hkey hx hy hallowed hserved hsatisfied hunspent
      have hamount : (w.ledger.notes n).depositAmount = terms.amount := by
        rw [hnote]
        rfl
      have hle : c.inputs.finalBalance ≤ terms.amount := by
        rw [BitVec.le_def, ← hamount]
        omega
      use c.inputs.finalBalance, terms.amount - c.inputs.finalBalance, treasury, htreasury,
        hbalance
      constructor
      · rw [BitVec.toNat_sub_of_le hle, ← hamount]
        omega
      · exact hsent

end

/-! ### A note that was charged once -/

namespace SettlementExample

open OwnershipExample (block ledger)

/-- The first request of a note of ten units with the secret one. -/
def first : RequestWitness :=
  { SpendExample.first with expiry := 1700092800 }

/-- The signature that answers it with a charge of three. -/
def answer : Signing where
  input := first.inputs generator 1700000000 5
  assignment := first.provedWires generator 1700000000 5
  charge := 3
  blindDelta := 0
  nextAnchor := (2 : ℕ)
  protocolVersion := (2 : ℕ)
  chainId := (1 : ℕ)
  contractAddress := (9 : ℕ)

/-- The public inputs of the withdrawal of the other seven. -/
def inputs : WithdrawalPublicInputs :=
  { OwnershipExample.inputs with
    finalBalance := 7
    withdrawalNullifier := word (requestNullifier 1 (2 : ℕ))
    withdrawalTag := word (withdrawalTag (requestNullifier 1 (2 : ℕ)) (11 : ℕ) 7 false) }

/-- The witness of the withdrawal. -/
def witness : WithdrawalWitness :=
  { OwnershipExample.witness with
    currentAnchor := (2 : ℕ)
    isGenesis := false
    stateSignature := { r := 0, s := signatureChallenge 0 answer.message } }

/-- The typed inputs of the withdrawal. -/
def typed : WithdrawalTyped :=
  { OwnershipExample.typed with finalBalance := 7 }

/-- The state that is withdrawn. -/
def last : Spend :=
  (witness.wires typed).spend inputs.toFieldElements

/-- A vault that accepts the one withdrawal. -/
def vault : Deployment :=
  { OwnershipExample.vault with
    proofAdapter :=
      { assertValidRequest := fun _ _ => false
        assertValidWithdrawal := fun x _ => decide (x = inputs) } }

theorem answer_allowed :
  answer.Allowed generator
  := by
  have hstatement : RequestStatement answer.input generator 1700000000 5 first := by
    constructor
    case signed => nofun
    case secret_ne_zero => exact one_ne_zero
    case genesis => exact fun _ => ⟨rfl, rfl⟩
    case anonymous_eq => exact ⟨rfl, rfl⟩
    case requestTime_le | solvencyBound_le => decide
    all_goals rfl
  constructor
  case satisfied =>
    exact hstatement.constraints generator_mem rfl rfl ⟨rfl, rfl⟩ primeSubgroup.zero_mem
  case charge_le => decide
  all_goals rfl

theorem answer_note :
  answer.spent.SameNote last
  where
  secret := (rfl : (1 : Fr) = 1)
  noteId := (rfl : (0 : U32) = 0)
  depositAmount := (rfl : (10 : U128) = 10)
  expiry := (rfl : (1700092800 : U64) = 1700092800)

theorem answer_opening :
  answer.opening = last.opening
  := by
  have hzero : bitsScalar (scalarBitsWitness 0) = 0 := bitsScalar_scalarBitsWitness 0
  have hbalance : answer.opening.balance = last.opening.balance := by decide
  have hblinding : answer.opening.blinding = last.opening.blinding := by
    show bitsScalar (scalarBitsWitness 0) + bitsScalar (scalarBitsWitness 0) + 0
      = bitsScalar (scalarBitsWitness 0)
    rw [hzero, add_zero, add_zero]
  rw [Signing.opening] at hbalance hblinding ⊢
  rw [Spend.opening] at hbalance hblinding ⊢
  rw [Opening.mk.injEq]
  exact ⟨hbalance, hblinding, answer_note.leaf⟩

theorem last_messagePreimage :
  last.messagePreimage = answer.messagePreimage
  := by
  rw [Spend.messagePreimage, Signing.messagePreimage, Spend.commitment, ← answer_opening,
    answer_allowed.commitment_opening]
  rfl

/-- The commitments of the two states are different. -/
theorem commitment_ne :
  answer.spent.opening.commitment ≠ last.opening.commitment
  := by
  have hten : answer.spent.balance.toNat = 3 + 7 := by decide
  have hseven : last.balance.toNat = 7 := by decide
  have hblinding : answer.spent.blinding = last.blinding :=
    (rfl : bitsScalar (scalarBitsWitness 0) = bitsScalar (scalarBitsWitness 0))
  intro h
  simp only [Opening.commitment, Spend.opening, balanceCommitment, answer_note.leaf, hblinding,
    val_balance] at h
  have hsmul := add_right_cancel (add_right_cancel h)
  rw [hten, hseven, add_smul, add_eq_right] at hsmul
  exact SpendExample.three_smul_generator hsmul

theorem assumptions :
  Assumptions generator [answer] last
  := assumptions_single answer_note rfl last_messagePreimage answer_opening commitment_ne

theorem statement :
  WithdrawalStatement inputs.toFieldElements typed witness
  := by
  constructor
  case root_eq => exact OwnershipExample.residue_newRoot.symm
  case secret_ne_zero => exact one_ne_zero
  case finalBalance_le => decide
  case genesis =>
    intro hgenesis
    cases hgenesis
  case signed =>
    intro _
    have hmessage : stateMessage inputs.toFieldElements.protocolVersion
        inputs.toFieldElements.chainId inputs.toFieldElements.contractAddress
        (witness.commitment typed.noteId typed.finalBalance) witness.currentAnchor
        = last.message := by
      have hblinding : bitsScalar (scalarBitsWitness 0) = 0 := bitsScalar_scalarBitsWitness 0
      show stateMessage _ _ _ (balanceCommitment 7 0 _) _
        = stateMessage _ _ _ (balanceCommitment 7 (bitsScalar (scalarBitsWitness 0)) _) _
      rw [hblinding]
      rfl
    have hsigned : last.message = answer.message := congrArg poseidonHash last_messagePreimage
    rw [hmessage, hsigned, verifyStateSignature, witness, zero_add]
    rfl
  case cleared =>
    intro hclearance
    cases hclearance
  case nullifier_eq => exact (residue_word _).symm
  case tag_eq =>
    simp only [WithdrawalPublicInputs.toFieldElements, inputs, residue_word]
    rfl
  all_goals rfl

theorem constraints :
  WithdrawalConstraints inputs.toFieldElements (witness.wires typed)
  := by
  have hx : generator.x = residue inputs.stateSigningKeyX := by decide +kernel
  have hy : generator.y = residue inputs.stateSigningKeyY := by decide +kernel
  exact statement.constraints generator_mem generator_mem hx hy hx hy primeSubgroup.zero_mem
    primeSubgroup.zero_mem

theorem vault_sound :
  vault.proofAdapter.WithdrawalSound
  := by
  intro x _ hx
  obtain rfl := of_decide_eq_true hx
  exact ⟨witness.wires typed, constraints⟩

/-! #### The run -/

/-- The outcome of the escape. -/
def escapeReceipt : Receipt where
  world := { OwnershipExample.deposited with ledger := ledger.escaped inputs 1700086400 }
  sent := []
  events := [.escapeWithdrawalInitiated 0 inputs.withdrawalNullifier 7 11 1700086400
    (ledger.rootWith 0 0)]

/-- The escape of the note. -/
def escape : Action :=
  .call block (.initiateEscapeWithdrawal inputs [] (siblingPath ledger 0)) escapeReceipt

/-- The state while the note is pending. -/
def pendingWorld : World :=
  { escapeReceipt.world with now := block.timestamp }

/-- The block of the deadline. -/
def deadline : Env :=
  { block with timestamp := 1700086400 }

theorem escape_ok :
  execute vault block OwnershipExample.deposited
      (.initiateEscapeWithdrawal inputs [] (siblingPath ledger 0))
    = .ok escapeReceipt
  := by
  have hvalid : vault.proofAdapter.assertValidWithdrawal inputs [] = true :=
    decide_eq_true rfl
  have hdeadline : checkedAdd (block.timestamp.setWidth 64) vault.challengePeriod
      = .ok 1700086400 := rfl
  exact escape_siblingPath (w := OwnershipExample.deposited) ChallengeExample.ledger_root rfl rfl
    (by decide) rfl rfl hvalid rfl (by decide) rfl hdeadline

theorem reachable_pending :
  Reachable vault [ChallengeExample.deposit, escape] pendingWorld
  := by
  have hok : execute vault block tokenWorld
      (.deposit OwnershipExample.commitment 10 (siblingPath .initial 0))
      = .ok OwnershipExample.receipt := ChallengeExample.deposit_ok _
  have hdeposit : Step vault tokenWorld ChallengeExample.deposit OwnershipExample.deposited :=
    .call (by decide) (by decide) hok
  have hescape : Step vault OwnershipExample.deposited escape pendingWorld :=
    .call (by decide) (by decide) escape_ok
  exact ⟨9, 1700000000, 0, { OwnershipExample.args with proofAdapter := vault.proofAdapter },
    tokenWorld, rfl, (Run.single hdeposit).append (.single hescape)⟩

/-- The withdrawal can be finalized, with a payment of seven and one of three. -/
theorem finalize_ok :
  ∃ r, execute vault deadline pendingWorld (.finalizeEscapeWithdrawal 0) = .ok r
    ∧ r.world.ledger.notes 0
      = { commitment := OwnershipExample.commitment, depositAmount := 10,
          expiryTs := 1700092800, status := .closed }
    ∧ ∃ treasury, r.sent = [{ destination := 11, amount := 7 },
      { destination := treasury, amount := 3 }]
  := by
  have haccepts : acceptsPay vault deadline pendingWorld 11 7 3 := by
    constructor
    · exact fun _ => ⟨rfl, fun h => absurd rfl h⟩
    · exact fun _ => ⟨rfl, fun h => absurd rfl h⟩
  obtain ⟨r, hexecute⟩ := reachable_pending.finalize_ok (n := 0) rfl rfl (by decide) haccepts
  use r, hexecute
  constructor
  · cases execute_effect hexecute with
    | finalizeEscapeWithdrawal _ _ _ _ hledger =>
      rw [hledger]
      rfl
  · obtain ⟨treasury, _, hsent⟩ := (execute_pays hexecute reachable_pending.appointed).1
    exact ⟨treasury, hsent⟩

/-- The history, with the outcome of its last call. -/
def history (r : Receipt) : List Action :=
  [ChallengeExample.deposit, escape, .call deadline (.finalizeEscapeWithdrawal 0) r]

theorem hashedPairs_eq (r : Receipt) :
  hashedPairs vault (history r)
    = emptyPairs ++ (ChallengeExample.depositPairs
      ++ updatePairs 0 (NoteLeafLib.computeLeaf 0 OwnershipExample.commitment 10 1700092800) 0
        (siblingPath .initial 0))
  := by
  have hdeposit : (ChallengeExample.deposit.update vault .initial).map Update.pairs
      = some ChallengeExample.depositPairs := rfl
  have hescape : (escape.update vault ledger).map Update.pairs
      = some (updatePairs 0 (NoteLeafLib.computeLeaf 0 OwnershipExample.commitment 10 1700092800)
        0 (siblingPath ledger 0)) := rfl
  have hledger : ChallengeExample.deposit.ledger .initial = ledger := rfl
  rw [hashedPairs, history, runPairs, runPairs, hledger, hdeposit, hescape, Option.getD_some,
    Option.getD_some, ChallengeExample.siblingPath_ledger]
  rfl

/-- No two pairs that the run and the proof hash collide. -/
theorem collisionFree (r : Receipt) :
  CollisionFree { p | p ∈ hashedPairs vault (history r) ++ pathPairs (witness.wires typed) }
  := by
  apply OwnershipExample.noCollision.nodes.mono
  intro p hp
  have hsame : hashedPairs OwnershipExample.vault [OwnershipExample.deposit]
      = emptyPairs ++ (ChallengeExample.depositPairs ++ []) := rfl
  rw [Set.mem_ofPred_eq, hashedPairs_eq, List.mem_append, List.mem_append, List.mem_append] at hp
  rw [Set.mem_ofPred_eq, hsame, List.append_nil, List.mem_append, List.mem_append]
  obtain (hp | hp | hp) | hp := hp
  · exact .inl (.inl hp)
  · exact .inl (.inr hp)
  · exact .inl (.inr (mem_updatePairs_comm hp))
  · exact .inr hp

/-- Every withdrawal of the history is the one that the vault accepts, and its state is
unspent. -/
theorem unspent {r : Receipt} {w : World} (c : Withdrawal vault (history r) w 0)
    (hnote : w.ledger.notes 0
      = { commitment := OwnershipExample.commitment, depositAmount := 10,
          expiryTs := 1700092800, status := .closed }) :
  c.inputs = inputs ∧ Unspent generator [answer] c (witness.wires typed)
  := by
  have hinputs : c.inputs = inputs := of_decide_eq_true c.authorized.valid
  refine ⟨hinputs, ?_, ?_, ?_⟩
  · constructor
    case nodes =>
      apply (collisionFree r).mono
      intro p hp
      rw [Set.mem_ofPred_eq, c.history_eq, hashedPairs_append, List.append_assoc]
      obtain hp | hp := List.mem_append.mp hp
      · exact List.mem_append_left _ hp
      · exact List.mem_append_right _ (List.mem_append_right _ hp)
    case leaves =>
      have hactive := c.authorized.active
      rw [c.noteId_eq] at hactive
      have hlt := c.reachable.conserved.lt_next (n := 0) (by rw [hactive]; nofun)
      have hrecord := (record_of_run c.run hlt).2
      rw [hnote] at hrecord
      simp only [Note.record, Prod.mk.injEq] at hrecord
      obtain ⟨hcommitment, hamount, hexpiry⟩ := hrecord
      have hsame : residue OwnershipExample.commitment = registrationCommitment 1 :=
        residue_word _
      rw [← hcommitment, ← hamount, ← hexpiry, hsame]
      have hpreimage : leafPreimage 0 (registrationCommitment 1) 10 1700092800
          = leafPreimage (witness.wires typed).noteId
            (registrationCommitment (witness.wires typed).secret)
            (witness.wires typed).depositAmount (witness.wires typed).expiry := rfl
      rw [hpreimage, Set.pair_eq_singleton]
      exact Set.injOn_singleton _ _
  · rw [hinputs]
    exact assumptions
  · intro e he
    obtain rfl := List.mem_singleton.mp he
    have hfirst : answer.input.requestNullifier
        = 12502357008354970378861618837555950429588003609831476828989554225505695857903 := by
      show requestNullifier 1 1 = _
      exact poseidonHash_eq_of_value (by decide +kernel)
    have hlast : residue inputs.withdrawalNullifier
        = 2129718978248107121441545502410196578432305501072725187370137988120248236823 := by
      show residue (word (requestNullifier 1 (2 : ℕ))) = _
      rw [residue_word]
      exact poseidonHash_eq_of_value (by decide +kernel)
    rw [hinputs, hfirst, hlast]
    decide +kernel

/-- The destination is paid seven and the treasury the charge of three. -/
theorem settlement_charged :
  ∃ r w, Reachable vault (history r) w
    ∧ Settled [answer] 0 (w.ledger.notes 0) 11 (sentFor 0 (history r))
  := by
  obtain ⟨r, hexecute, hnote, treasury, hsent⟩ := finalize_ok
  have hstep : Step vault pendingWorld (.call deadline (.finalizeEscapeWithdrawal 0) r)
      { r.world with now := deadline.timestamp } := .call (by decide) (by decide) hexecute
  have hreach : Reachable vault (history r) { r.world with now := deadline.timestamp } :=
    reachable_pending.append (.single hstep)
  have hx : generator.x = residue vault.stateSigningKeyX := by decide +kernel
  have hy : generator.y = residue vault.stateSigningKeyY := by decide +kernel
  have hallowed : ∀ e ∈ [answer], e.Allowed generator := by
    intro e he
    obtain rfl := List.mem_singleton.mp he
    exact answer_allowed
  have hclosed : (r.world.ledger.notes 0).status = .closed := by rw [hnote]
  refine ⟨r, _, hreach, ?_⟩
  obtain ⟨_, _, hexpired⟩ | ⟨c, _, hsettled⟩ := settlement hreach vault_sound generator_mem hx hy
    hallowed (List.nodup_singleton _) hclosed
  · -- an expired note is paid for with one transfer
    have hlast : sentFor 0 (history r) = r.sent := List.append_nil _
    rw [hlast, hsent, List.cons.injEq] at hexpired
    cases hexpired.2
  · obtain ⟨hinputs, hunspent⟩ := unspent c hnote
    have hsettled := hsettled (witness.wires typed) (by rw [hinputs]; exact constraints) hunspent
    rw [hinputs] at hsettled
    exact hsettled

end SettlementExample

end ZkApi.Vault
