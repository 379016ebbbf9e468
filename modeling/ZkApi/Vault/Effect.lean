import ZkApi.Vault.Contract

/-!
# What a call does

`Effect v env w call r` says what the call `call` that ends in the receipt `r` has checked
and what it has changed: the conditions it has tested, the ledger it leaves, what it has
sent, and what it leaves in the holdings of the vault.  Every call that does not revert
has its effect (`execute_effect`), and the properties of the vault are derived from the
effects without another look at the functions.
-/

namespace ZkApi.Vault

variable {v : Deployment} {env : Env} {w w' : World} {r : Receipt}

/-- The smallest amount of the asset that the vault counts: one unit of the token, or the
number of wei of a native unit. -/
def Deployment.unit (v : Deployment) : ℕ :=
  if v.isNative then v.nativeAssetWeiPerUnit.toNat else 1

/-- The total of a list of transfers. -/
def total (sent : List Transfer) : ℕ :=
  (sent.map fun t => t.amount.toNat).sum

@[simp]
theorem total_nil :
  total [] = 0
  := rfl

@[simp]
theorem total_append (s t : List Transfer) :
  total (s ++ t) = total s + total t
  := by
  rw [total, List.map_append, List.sum_append, total, total]

@[simp]
theorem total_single (t : Transfer) :
  total [t] = t.amount.toNat
  := by
  simp [total]

/-! ### Transfers -/

theorem toNat_setWidth_mul {m : ℕ} (hm : m ≤ 256) (a : BitVec m) (b : U256)
    (h : (a.setWidth 256).toNat * b.toNat < 2 ^ 256) :
  (a.setWidth 256 * b).toNat = a.toNat * b.toNat
  := by
  have ha := a.isLt.trans_le (Nat.pow_le_pow_right (by norm_num) hm)
  rw [BitVec.toNat_setWidth, Nat.mod_eq_of_lt ha] at h
  rw [BitVec.toNat_mul, BitVec.toNat_setWidth, Nat.mod_eq_of_lt ha, Nat.mod_eq_of_lt h]

/-- A transfer is made when the recipient lets it through and the vault holds the amount. -/
theorem transfer_eq_ok {destination : Address} {amount : U128} {reply : Reply} :
  transfer v w destination amount reply = .ok w'
    ↔ amount.toNat * v.unit < 2 ^ 256
      ∧ v.accepts destination reply
      ∧ amount.toNat * v.unit ≤ w.held
      ∧ w.afterTransfer v destination (amount.toNat * v.unit) reply = w'
  := by
  have hamount := amount.isLt
  unfold transfer Deployment.unit
  split
  · simp only [bind_eq_ok, revertIf_eq_ok, pure_eq_ok, checkedMul_eq_ok, exists_const, not_not]
    have hwidth : (amount.setWidth 256).toNat = amount.toNat := by
      rw [BitVec.toNat_setWidth, Nat.mod_eq_of_lt (by omega)]
    constructor
    · rintro ⟨_, ⟨hlt, rfl⟩, ⟨haccepts, hle⟩, rfl⟩
      rw [toNat_setWidth_mul (by norm_num) amount _ hlt] at hle ⊢
      rw [hwidth] at hlt
      exact ⟨hlt, haccepts, hle, rfl⟩
    · rintro ⟨hlt, haccepts, hle, rfl⟩
      rw [← hwidth] at hlt
      have hmul := toNat_setWidth_mul (by norm_num) amount _ hlt
      exact ⟨_, ⟨hlt, rfl⟩, ⟨haccepts, by rw [hmul]; exact hle⟩, by rw [hmul]⟩
  · simp only [bind_eq_ok, revertIf_eq_ok, pure_eq_ok, exists_const, not_not, mul_one, and_assoc]
    constructor
    · rintro ⟨haccepts, hle, rfl⟩
      exact ⟨by omega, haccepts, hle, rfl⟩
    · rintro ⟨_, haccepts, hle, rfl⟩
      exact ⟨haccepts, hle, rfl⟩

/-- A state that differs from another in the administration and the holdings, from which
not more than an amount is missing. -/
structure Sent (v : Deployment) (w w' : World) (amount : ℕ) : Prop where
  ledger_eq : w'.ledger = w.ledger
  held_le : w.held ≤ w'.held + amount * v.unit

theorem transfer_sent {destination : Address} {amount : U128} {reply : Reply}
    (h : transfer v w destination amount reply = .ok w') :
  Sent v w w' amount.toNat
  := by
  obtain ⟨-, -, hle, rfl⟩ := transfer_eq_ok.mp h
  constructor
  · rfl
  · simp only [World.afterTransfer]
    split <;> omega

theorem transferNonzero_sent {destination : Address} {amount : U128} {reply : Reply}
    {sent : List Transfer}
    (h : transferNonzero v w destination amount reply = .ok (w', sent)) :
  Sent v w w' (total sent) ∧ total sent = amount.toNat
  := by
  unfold transferNonzero at h
  split at h
  · simp only [bind_eq_ok, pure_eq_ok, Prod.mk.injEq] at h
    obtain ⟨_, h, rfl, rfl⟩ := h
    rw [total_single]
    exact ⟨transfer_sent h, rfl⟩
  · next hzero =>
    simp only [Except.ok.injEq, Prod.mk.injEq] at h
    obtain ⟨rfl, rfl⟩ := h
    rw [not_not] at hzero
    subst hzero
    exact ⟨⟨rfl, Nat.le_add_right _ _⟩, rfl⟩

/-- A payment sends the balance and the share of the operator. -/
theorem pay_sent {destination : Address} {balance operatorShare : U128}
    {sent : List Transfer}
    (h : pay v env w destination balance operatorShare = .ok (w', sent)) :
  Sent v w w' (total sent) ∧ total sent = balance.toNat + operatorShare.toNat
  := by
  simp only [pay, bind_eq_ok, pure_eq_ok, Prod.exists, Prod.mk.injEq] at h
  obtain ⟨u, s, hu, w'', t, hw, rfl, rfl⟩ := h
  obtain ⟨hsent, htotal⟩ := transferNonzero_sent hu
  obtain ⟨hsent', htotal'⟩ := transferNonzero_sent hw
  rw [total_append, htotal, htotal']
  refine ⟨⟨hsent'.ledger_eq.trans hsent.ledger_eq, ?_⟩, rfl⟩
  have h1 := hsent.held_le
  have h2 := hsent'.held_le
  rw [htotal] at h1
  rw [htotal'] at h2
  rw [add_mul]
  omega

theorem transferFrom_ok {amount : U128} {reply : Reply}
    (h : transferFrom w amount reply = .ok w') :
  w'.ledger = w.ledger ∧ w.held + amount.toNat ≤ w'.held
  := by
  simp only [transferFrom, bind_eq_ok, revertIf_eq_ok, pure_eq_ok, exists_const] at h
  obtain ⟨-, rfl⟩ := h
  exact ⟨rfl, Nat.le_add_right _ _⟩

theorem checkDepositValue_ok {amount : U128} {u : Unit}
    (h : checkDepositValue v env amount = .ok u) :
  if v.isNative then env.value.toNat = amount.toNat * v.unit else env.value = 0
  := by
  unfold checkDepositValue at h
  split at h
  · next hnative =>
    simp only [bind_eq_ok, revertIf_eq_ok, checkedMul_eq_ok, exists_const, not_not] at h
    obtain ⟨-, _, ⟨hlt, rfl⟩, hvalue⟩ := h
    rw [if_pos hnative, hvalue, toNat_setWidth_mul (by norm_num) amount _ hlt, Deployment.unit,
      if_pos hnative]
  · next hnative =>
    rw [revertIf_eq_ok, not_not] at h
    rw [if_neg hnative]
    exact h

/-! ### Effects -/

/-- The ledger after a note was deposited. -/
def Ledger.deposited (l : Ledger) (commitment : U256) (amount : U128) (expiryTs : U64)
    (newRoot : U256) : Ledger :=
  { l with
    currentRoot := newRoot
    notes := Function.update l.notes l.nextNoteId
      { commitment, depositAmount := amount, expiryTs, status := .active }
    nextNoteId := l.nextNoteId + 1 }

/-- The ledger after a nullifier was used. -/
def Ledger.consumed (l : Ledger) (nullifier : U256) : Ledger :=
  { l with usedNullifiers := Function.update l.usedNullifiers nullifier true }

/-- The ledger after the root and the status of a note were changed. -/
def Ledger.moved (l : Ledger) (noteId : U32) (status : NoteStatus) (newRoot : U256) : Ledger :=
  { l with currentRoot := newRoot }.setStatus noteId status

/-! ### Fields of the changed ledger -/

namespace Ledger

variable {l : Ledger} {noteId : U32} {status : NoteStatus} {pending : PendingWithdrawalData}
  {commitment nullifier newRoot : U256} {amount : U128} {expiryTs : U64}

@[simp]
theorem setStatus_currentRoot :
  (l.setStatus noteId status).currentRoot = l.currentRoot
  := rfl

@[simp]
theorem setStatus_nextNoteId :
  (l.setStatus noteId status).nextNoteId = l.nextNoteId
  := rfl

@[simp]
theorem setStatus_notes :
  (l.setStatus noteId status).notes = Function.update l.notes noteId { l.notes noteId with status }
  := rfl

@[simp]
theorem setStatus_pendingWithdrawals :
  (l.setStatus noteId status).pendingWithdrawals = l.pendingWithdrawals
  := rfl

@[simp]
theorem setStatus_usedNullifiers :
  (l.setStatus noteId status).usedNullifiers = l.usedNullifiers
  := rfl

@[simp]
theorem moved_currentRoot :
  (l.moved noteId status newRoot).currentRoot = newRoot
  := rfl

@[simp]
theorem moved_nextNoteId :
  (l.moved noteId status newRoot).nextNoteId = l.nextNoteId
  := rfl

@[simp]
theorem moved_notes :
  (l.moved noteId status newRoot).notes = Function.update l.notes noteId { l.notes noteId with status }
  := rfl

@[simp]
theorem moved_pendingWithdrawals :
  (l.moved noteId status newRoot).pendingWithdrawals = l.pendingWithdrawals
  := rfl

@[simp]
theorem moved_usedNullifiers :
  (l.moved noteId status newRoot).usedNullifiers = l.usedNullifiers
  := rfl

@[simp]
theorem setPending_currentRoot :
  (l.setPending noteId pending).currentRoot = l.currentRoot
  := rfl

@[simp]
theorem setPending_nextNoteId :
  (l.setPending noteId pending).nextNoteId = l.nextNoteId
  := rfl

@[simp]
theorem setPending_notes :
  (l.setPending noteId pending).notes = l.notes
  := rfl

@[simp]
theorem setPending_pendingWithdrawals :
  (l.setPending noteId pending).pendingWithdrawals = Function.update l.pendingWithdrawals noteId pending
  := rfl

@[simp]
theorem setPending_usedNullifiers :
  (l.setPending noteId pending).usedNullifiers = l.usedNullifiers
  := rfl

@[simp]
theorem consumed_currentRoot :
  (l.consumed nullifier).currentRoot = l.currentRoot
  := rfl

@[simp]
theorem consumed_nextNoteId :
  (l.consumed nullifier).nextNoteId = l.nextNoteId
  := rfl

@[simp]
theorem consumed_notes :
  (l.consumed nullifier).notes = l.notes
  := rfl

@[simp]
theorem consumed_pendingWithdrawals :
  (l.consumed nullifier).pendingWithdrawals = l.pendingWithdrawals
  := rfl

@[simp]
theorem consumed_usedNullifiers :
  (l.consumed nullifier).usedNullifiers = Function.update l.usedNullifiers nullifier true
  := rfl

@[simp]
theorem deposited_currentRoot :
  (l.deposited commitment amount expiryTs newRoot).currentRoot = newRoot
  := rfl

@[simp]
theorem deposited_nextNoteId :
  (l.deposited commitment amount expiryTs newRoot).nextNoteId = l.nextNoteId + 1
  := rfl

@[simp]
theorem deposited_notes :
  (l.deposited commitment amount expiryTs newRoot).notes = Function.update l.notes l.nextNoteId
      { commitment, depositAmount := amount, expiryTs, status := .active }
  := rfl

@[simp]
theorem deposited_pendingWithdrawals :
  (l.deposited commitment amount expiryTs newRoot).pendingWithdrawals = l.pendingWithdrawals
  := rfl

@[simp]
theorem deposited_usedNullifiers :
  (l.deposited commitment amount expiryTs newRoot).usedNullifiers = l.usedNullifiers
  := rfl

end Ledger

/-- What the checks of a withdrawal of an active note have established. -/
structure Authorized (v : Deployment) (env : Env) (w : World) (hasClearance : Bool)
    (inputs : WithdrawalPublicInputs) (proof : Bytes) (siblings : Fin 32 → U256)
    (newRoot : U256) : Prop where
  not_paused : w.admin.paused = false
  bound : ¬ withdrawalMismatch v env inputs
  clearance : inputs.hasClearance = hasClearance
  root : inputs.activeRoot = w.ledger.currentRoot
  valid : v.proofAdapter.assertValidWithdrawal inputs proof = true
  active : (w.ledger.notes inputs.noteId).status = .active
  balance_le : inputs.finalBalance.toNat ≤ (w.ledger.notes inputs.noteId).depositAmount.toNat
  unused : w.ledger.usedNullifiers inputs.withdrawalNullifier = false
  update : MerkleUpdateLib.verifyAndUpdate w.ledger.currentRoot inputs.noteId
    (leaf inputs.noteId (w.ledger.notes inputs.noteId)) 0 siblings = .ok newRoot

/-- What a call that does not revert has checked and changed. -/
inductive Effect (v : Deployment) (env : Env) (w : World) : Call → Receipt → Prop
  | deposit {commitment : U256} {amount : U128} {siblings : Fin 32 → U256} {expiryTs : U64}
      {newRoot : U256} {w' : World} :
      w.admin.paused = false → amount ≠ 0 → commitment ≠ 0 →
      commitment.toNat < fieldModulus → w.ledger.nextNoteId.toNat + 1 < 2 ^ 32 →
      bucketedExpiry v env = .ok expiryTs →
      MerkleUpdateLib.verifyAndUpdate w.ledger.currentRoot w.ledger.nextNoteId 0
        (NoteLeafLib.computeLeaf w.ledger.nextNoteId commitment amount expiryTs) siblings
        = .ok newRoot →
      w'.ledger = w.ledger.deposited commitment amount expiryTs newRoot →
      w.held + amount.toNat * v.unit ≤ w'.held →
      Effect v env w (.deposit commitment amount siblings)
        { world := w'
          sent := []
          events := [.noteDeposited w.ledger.nextNoteId commitment amount expiryTs newRoot] }
  | mutualClose {inputs : WithdrawalPublicInputs} {proof : Bytes} {siblings : Fin 32 → U256}
      {newRoot : U256} {w' : World} {sent : List Transfer} :
      Authorized v env w true inputs proof siblings newRoot →
      w'.ledger
        = (w.ledger.consumed inputs.withdrawalNullifier).moved inputs.noteId .closed newRoot →
      total sent = (w.ledger.notes inputs.noteId).depositAmount.toNat →
      w.held ≤ w'.held + total sent * v.unit →
      Effect v env w (.mutualClose inputs proof siblings)
        { world := w'
          sent
          events := [.mutualClose inputs.noteId inputs.withdrawalNullifier
            inputs.finalBalance inputs.destination] }
  | initiateEscapeWithdrawal {inputs : WithdrawalPublicInputs} {proof : Bytes}
      {siblings : Fin 32 → U256} {newRoot : U256} {deadline : U64} :
      Authorized v env w false inputs proof siblings newRoot →
      checkedAdd (env.timestamp.setWidth 64) v.challengePeriod = .ok deadline →
      Effect v env w (.initiateEscapeWithdrawal inputs proof siblings)
        { world :=
            { w with
              ledger :=
                ((w.ledger.consumed inputs.withdrawalNullifier).moved inputs.noteId
                  .pendingWithdrawal newRoot).setPending inputs.noteId
                  { present := true
                    activeRoot := w.ledger.currentRoot
                    withdrawalNullifier := inputs.withdrawalNullifier
                    finalBalance := inputs.finalBalance
                    destination := inputs.destination
                    challengeDeadline := deadline } }
          sent := []
          events := [.escapeWithdrawalInitiated inputs.noteId inputs.withdrawalNullifier
            inputs.finalBalance inputs.destination deadline newRoot] }
  | challengeEscapeWithdrawal {noteId : U32} {inputs : RequestPublicInputs} {proof : Bytes}
      {siblings : Fin 32 → U256} {restoredRoot : U256} :
      (w.ledger.notes noteId).status = .pendingWithdrawal →
      (w.ledger.pendingWithdrawals noteId).present = true →
      env.timestamp.toNat < (w.ledger.pendingWithdrawals noteId).challengeDeadline.toNat →
      ¬ requestMismatch v env inputs →
      inputs.requestNullifier = (w.ledger.pendingWithdrawals noteId).withdrawalNullifier →
      v.proofAdapter.assertValidRequest inputs proof = true →
      MerkleUpdateLib.verifyAndUpdate w.ledger.currentRoot noteId 0
        (leaf noteId (w.ledger.notes noteId)) siblings = .ok restoredRoot →
      Effect v env w (.challengeEscapeWithdrawal noteId inputs proof siblings)
        { world :=
            { w with
              ledger := (w.ledger.moved noteId .active restoredRoot).setPending noteId .empty }
          sent := []
          events := [.escapeWithdrawalChallenged noteId
            (w.ledger.pendingWithdrawals noteId).withdrawalNullifier restoredRoot] }
  | finalizeEscapeWithdrawal {noteId : U32} {w' : World} {sent : List Transfer} :
      (w.ledger.notes noteId).status = .pendingWithdrawal →
      (w.ledger.pendingWithdrawals noteId).present = true →
      (w.ledger.pendingWithdrawals noteId).challengeDeadline.toNat ≤ env.timestamp.toNat →
      (w.ledger.pendingWithdrawals noteId).finalBalance.toNat
        ≤ (w.ledger.notes noteId).depositAmount.toNat →
      w'.ledger = (w.ledger.setStatus noteId .closed).setPending noteId .empty →
      total sent = (w.ledger.notes noteId).depositAmount.toNat →
      w.held ≤ w'.held + total sent * v.unit →
      Effect v env w (.finalizeEscapeWithdrawal noteId)
        { world := w'
          sent
          events := [.escapeWithdrawalFinalized noteId
            (w.ledger.pendingWithdrawals noteId).withdrawalNullifier
            (w.ledger.pendingWithdrawals noteId).finalBalance
            (w.ledger.pendingWithdrawals noteId).destination] }
  | claimExpired {noteId : U32} {siblings : Fin 32 → U256} {newRoot : U256} {w' : World}
      {sent : List Transfer} :
      (w.ledger.notes noteId).status = .active →
      (w.ledger.notes noteId).expiryTs.toNat ≤ env.timestamp.toNat →
      MerkleUpdateLib.verifyAndUpdate w.ledger.currentRoot noteId
        (leaf noteId (w.ledger.notes noteId)) 0 siblings = .ok newRoot →
      w'.ledger = w.ledger.moved noteId .closed newRoot →
      total sent = (w.ledger.notes noteId).depositAmount.toNat →
      w.held ≤ w'.held + total sent * v.unit →
      Effect v env w (.claimExpired noteId siblings)
        { world := w'
          sent
          events := [.expiredClaimed noteId (w.ledger.notes noteId).depositAmount newRoot] }
  | administer {call : AdminCall} {admin : Admin} :
      administer env.sender w.admin call = .ok admin →
      Effect v env w (.administer call)
        { world := { w with admin }, sent := [], events := administerEvents call }

/-! ### Every call has its effect -/

theorem not_notPending {l : Ledger} {noteId : U32} :
  ¬ l.notPending noteId
    ↔ (l.notes noteId).status = .pendingWithdrawal
      ∧ (l.pendingWithdrawals noteId).present = true
  := by
  simp [Ledger.notPending]

theorem checkedSub_toNat {m : ℕ} {a b c : BitVec m} (h : checkedSub a b = .ok c) :
  b.toNat + c.toNat = a.toNat
  := by
  obtain ⟨hle, rfl⟩ := checkedSub_eq_ok.mp h
  rw [BitVec.toNat_sub_of_le (BitVec.le_def.mpr hle)]
  omega

theorem deposit_effect {commitment : U256} {amount : U128} {siblings : Fin 32 → U256}
    (h : deposit v env w commitment amount siblings = .ok r) :
  Effect v env w (.deposit commitment amount siblings) r
  := by
  simp only [deposit, whenNotPaused, requireField, bind_eq_ok, revertIf_eq_ok, exists_const,
    checkedAdd_eq_ok] at h
  obtain ⟨hpaused, _, hvalue, hamount, hcommitment, hfield, expiryTs, hexpiry, newRoot, hroot,
    nextNoteId, ⟨hnext, rfl⟩, h⟩ := h
  have hvalue := checkDepositValue_ok hvalue
  have hnext' : w.ledger.nextNoteId.toNat + 1 < 2 ^ 32 := hnext
  rw [Bool.not_eq_true] at hpaused
  rw [not_le] at hfield
  split at h
  · next hnative =>
    rw [if_pos hnative] at hvalue
    simp only [bind_eq_ok, pure_eq_ok, exists_eq_left'] at h
    subst h
    exact .deposit hpaused hamount hcommitment hfield hnext' hexpiry hroot rfl
      (by rw [← hvalue])
  · next hnative =>
    rw [if_neg hnative] at hvalue
    simp only [bind_eq_ok, pure_eq_ok] at h
    obtain ⟨w', hw', rfl⟩ := h
    obtain ⟨hledger, hheld⟩ := transferFrom_ok hw'
    refine .deposit hpaused hamount hcommitment hfield hnext' hexpiry hroot hledger ?_
    rw [Deployment.unit, if_neg hnative, mul_one]
    rw [hvalue] at hheld
    exact hheld

/-- The checks that mutual close and escape share. -/
theorem authorized {hasClearance : Bool} {inputs : WithdrawalPublicInputs} {proof : Bytes}
    {siblings : Fin 32 → U256} {newRoot : U256} {l : Ledger} {u : Unit}
    (hcheck : checkWithdrawal v env w hasClearance inputs proof = .ok u)
    (hactive : ¬ (w.ledger.notes inputs.noteId).status ≠ .active)
    (hbalance : ¬ (w.ledger.notes inputs.noteId).depositAmount.toNat
      < inputs.finalBalance.toNat)
    (hconsume : consumeNullifier w.ledger inputs.withdrawalNullifier = .ok l)
    (hroot : MerkleUpdateLib.verifyAndUpdate l.currentRoot inputs.noteId
      (leaf inputs.noteId (w.ledger.notes inputs.noteId)) 0 siblings = .ok newRoot) :
  Authorized v env w hasClearance inputs proof siblings newRoot
    ∧ l = w.ledger.consumed inputs.withdrawalNullifier
  := by
  simp only [checkWithdrawal, whenNotPaused, validateWithdrawalBinding, bind_eq_ok,
    revertIf_eq_ok, exists_const, not_not, Bool.not_eq_true, Bool.not_eq_false] at hcheck
  simp only [consumeNullifier, bind_eq_ok, revertIf_eq_ok, exists_const, pure_eq_ok,
    Bool.not_eq_true] at hconsume
  obtain ⟨hpaused, hbound, hclear, hactiveRoot, hvalid⟩ := hcheck
  obtain ⟨hunused, rfl⟩ := hconsume
  rw [not_not] at hactive
  rw [not_lt] at hbalance
  exact ⟨⟨hpaused, hbound, hclear, hactiveRoot, hvalid, hactive, hbalance, hunused, hroot⟩, rfl⟩

theorem mutualClose_effect {inputs : WithdrawalPublicInputs} {proof : Bytes}
    {siblings : Fin 32 → U256} (h : mutualClose v env w inputs proof siblings = .ok r) :
  Effect v env w (.mutualClose inputs proof siblings) r
  := by
  simp only [mutualClose, closeActive, bind_eq_ok, revertIf_eq_ok, exists_const, pure_eq_ok,
    Prod.exists] at h
  obtain ⟨_, hcheck, w', sent, ⟨hactive, hbalance, l, hconsume, newRoot, hroot, share,
    hshare, hpay⟩, rfl⟩ := h
  obtain ⟨hauth, rfl⟩ := authorized hcheck hactive hbalance hconsume hroot
  obtain ⟨hsent, htotal⟩ := pay_sent hpay
  rw [checkedSub_toNat hshare] at htotal
  exact .mutualClose hauth hsent.ledger_eq htotal hsent.held_le

theorem initiateEscapeWithdrawal_effect {inputs : WithdrawalPublicInputs} {proof : Bytes}
    {siblings : Fin 32 → U256}
    (h : initiateEscapeWithdrawal v env w inputs proof siblings = .ok r) :
  Effect v env w (.initiateEscapeWithdrawal inputs proof siblings) r
  := by
  simp only [initiateEscapeWithdrawal, bind_eq_ok, revertIf_eq_ok, exists_const,
    pure_eq_ok] at h
  obtain ⟨_, hcheck, hactive, hbalance, l, hconsume, newRoot, hroot, deadline, hdeadline,
    rfl⟩ := h
  obtain ⟨hauth, rfl⟩ := authorized hcheck hactive hbalance hconsume hroot
  exact .initiateEscapeWithdrawal hauth hdeadline

theorem challengeEscapeWithdrawal_effect {noteId : U32} {inputs : RequestPublicInputs}
    {proof : Bytes} {siblings : Fin 32 → U256}
    (h : challengeEscapeWithdrawal v env w noteId inputs proof siblings = .ok r) :
  Effect v env w (.challengeEscapeWithdrawal noteId inputs proof siblings) r
  := by
  simp only [challengeEscapeWithdrawal, validateRequestBinding, bind_eq_ok, revertIf_eq_ok,
    exists_const, pure_eq_ok, not_notPending, not_le, not_not, Bool.not_eq_false] at h
  obtain ⟨⟨hstatus, hpresent⟩, htime, hbound, hnullifier, hvalid, restoredRoot, hroot, rfl⟩ := h
  exact .challengeEscapeWithdrawal hstatus hpresent htime hbound hnullifier hvalid hroot

theorem finalizeEscapeWithdrawal_effect {noteId : U32}
    (h : finalizeEscapeWithdrawal v env w noteId = .ok r) :
  Effect v env w (.finalizeEscapeWithdrawal noteId) r
  := by
  simp only [finalizeEscapeWithdrawal, bind_eq_ok, revertIf_eq_ok, exists_const, pure_eq_ok,
    not_notPending, not_lt, Prod.exists] at h
  obtain ⟨⟨hstatus, hpresent⟩, htime, share, hshare, w', sent, hpay, rfl⟩ := h
  obtain ⟨hsent, htotal⟩ := pay_sent hpay
  rw [checkedSub_toNat hshare] at htotal
  exact .finalizeEscapeWithdrawal hstatus hpresent htime (checkedSub_eq_ok.mp hshare).1
    hsent.ledger_eq htotal hsent.held_le

theorem claimExpired_effect {noteId : U32} {siblings : Fin 32 → U256}
    (h : claimExpired v env w noteId siblings = .ok r) :
  Effect v env w (.claimExpired noteId siblings) r
  := by
  simp only [claimExpired, bind_eq_ok, revertIf_eq_ok, exists_const, pure_eq_ok, not_not,
    not_lt] at h
  obtain ⟨hstatus, htime, newRoot, hroot, w', htransfer, rfl⟩ := h
  have hsent := transfer_sent htransfer
  exact .claimExpired hstatus htime hroot hsent.ledger_eq (total_single _)
    (by rw [total_single]; exact hsent.held_le)

/-- Every call that does not revert has its effect. -/
theorem execute_effect {call : Call} (h : execute v env w call = .ok r) :
  Effect v env w call r
  := by
  cases call with
  | deposit => exact deposit_effect h
  | mutualClose =>
    obtain ⟨_, -, h⟩ := bind_eq_ok.mp h
    exact mutualClose_effect h
  | initiateEscapeWithdrawal =>
    obtain ⟨_, -, h⟩ := bind_eq_ok.mp h
    exact initiateEscapeWithdrawal_effect h
  | challengeEscapeWithdrawal =>
    obtain ⟨_, -, h⟩ := bind_eq_ok.mp h
    exact challengeEscapeWithdrawal_effect h
  | finalizeEscapeWithdrawal =>
    obtain ⟨_, -, h⟩ := bind_eq_ok.mp h
    exact finalizeEscapeWithdrawal_effect h
  | claimExpired =>
    obtain ⟨_, -, h⟩ := bind_eq_ok.mp h
    exact claimExpired_effect h
  | administer call =>
    obtain ⟨_, -, h⟩ := bind_eq_ok.mp h
    obtain ⟨admin, hadmin, h⟩ := bind_eq_ok.mp h
    obtain rfl := pure_eq_ok.mp h
    exact .administer hadmin

end ZkApi.Vault
