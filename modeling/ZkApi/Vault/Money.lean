import Mathlib.Algebra.BigOperators.Group.Finset.Basic
import Mathlib.Data.FinEnum
import ZkApi.Vault.Effect

/-!
# Conservation of money

The vault owes the deposit of every note that is active or pending, and what it holds
covers what it owes.  What was ever paid for a note is nothing until the note is closed, and
its deposit from then on.  The invariant `Conserved` says this together with what the
subtraction and the payment of a finalization rely on; every call preserves it, because a
call changes one note and what it sends is what it no longer owes.
-/

namespace ZkApi.Vault

open Finset

variable {v : Deployment} {env : Env} {w w' : World} {r : Receipt} {actions : List Action}

/-- What the vault owes for a note. -/
def liability (note : Note) : ℕ :=
  if note.status = .active ∨ note.status = .pendingWithdrawal then note.depositAmount.toNat
  else 0

/-- The note that a call names, when it can pay for a note. -/
def Call.noteId : Call → Option U32
  | .deposit _ _ _ => none
  | .mutualClose inputs _ _ => some inputs.noteId
  | .initiateEscapeWithdrawal inputs _ _ => some inputs.noteId
  | .challengeEscapeWithdrawal noteId _ _ _ => some noteId
  | .finalizeEscapeWithdrawal noteId => some noteId
  | .claimExpired noteId _ => some noteId
  | .administer _ => none

/-- What an action pays for a note. -/
def Action.paid (n : U32) : Action → ℕ
  | .call _ c receipt => if c.noteId = some n then total receipt.sent else 0
  | .donation _ => 0

/-- What a list of actions pays for a note, to its destination and to the treasury. -/
def paidFor (n : U32) (actions : List Action) : ℕ :=
  (actions.map (Action.paid n)).sum

@[simp]
theorem paidFor_nil (n : U32) :
  paidFor n [] = 0
  := rfl

@[simp]
theorem paidFor_append (n : U32) (as bs : List Action) :
  paidFor n (as ++ bs) = paidFor n as + paidFor n bs
  := by
  rw [paidFor, List.map_append, List.sum_append, paidFor, paidFor]

@[simp]
theorem paidFor_single (n : U32) (a : Action) :
  paidFor n [a] = a.paid n
  := by
  simp [paidFor]

/-- The invariant of the vault's money, for a state and the actions that led to it. -/
structure Conserved (v : Deployment) (actions : List Action) (w : World) : Prop where
  solvent : (∑ n, liability (w.ledger.notes n)) * v.unit ≤ w.held
  fresh : ∀ n, w.ledger.nextNoteId.toNat ≤ n.toNat → w.ledger.notes n = .empty
  pending : ∀ n, (w.ledger.pendingWithdrawals n).present = true
    ↔ (w.ledger.notes n).status = .pendingWithdrawal
  balance_le : ∀ n, (w.ledger.notes n).status = .pendingWithdrawal →
    (w.ledger.pendingWithdrawals n).finalBalance.toNat
      ≤ (w.ledger.notes n).depositAmount.toNat
  paid : ∀ n, paidFor n actions
    = if (w.ledger.notes n).status = .closed then (w.ledger.notes n).depositAmount.toNat else 0

/-- Two sums that differ in one term. -/
theorem sum_add_eq_of_eq_off {f g : U32 → ℕ} (n : U32) (h : ∀ m ≠ n, g m = f m) :
  ∑ m, g m + f n = ∑ m, f m + g n
  := by
  have hrest : ∑ m ∈ univ.erase n, g m = ∑ m ∈ univ.erase n, f m := by
    apply sum_congr rfl
    intro m hm
    exact h m (ne_of_mem_erase hm)
  have hg := add_sum_erase univ g (mem_univ n)
  have hf := add_sum_erase univ f (mem_univ n)
  omega

/-- What has to be checked of a call that changes one note. -/
theorem Conserved.change {a : Action} {n : U32} {note : Note} (h : Conserved v actions w)
    (hnotes : w'.ledger.notes = Function.update w.ledger.notes n note)
    (hpendings : ∀ m ≠ n, w'.ledger.pendingWithdrawals m = w.ledger.pendingWithdrawals m)
    (hnext : w.ledger.nextNoteId.toNat ≤ w'.ledger.nextNoteId.toNat)
    (hn : n.toNat < w'.ledger.nextNoteId.toNat)
    (hheld : w.held + liability note * v.unit
      ≤ w'.held + liability (w.ledger.notes n) * v.unit)
    (hpending : (w'.ledger.pendingWithdrawals n).present = true
      ↔ note.status = .pendingWithdrawal)
    (hbalance : note.status = .pendingWithdrawal →
      (w'.ledger.pendingWithdrawals n).finalBalance.toNat ≤ note.depositAmount.toNat)
    (hpaid : paidFor n actions + a.paid n
      = if note.status = .closed then note.depositAmount.toNat else 0)
    (hothers : ∀ m ≠ n, a.paid m = 0) :
  Conserved v (actions ++ [a]) w'
  := by
  have hself : w'.ledger.notes n = note := by rw [hnotes, Function.update_self]
  have hother : ∀ m ≠ n, w'.ledger.notes m = w.ledger.notes m := by
    intro m hm
    rw [hnotes, Function.update_of_ne hm]
  constructor
  case solvent =>
    have hsum := sum_add_eq_of_eq_off (f := fun m => liability (w.ledger.notes m))
      (g := fun m => liability (w'.ledger.notes m)) n fun m hm => by rw [hother m hm]
    have hmul := congrArg (· * v.unit) hsum
    simp only [add_mul, hself] at hmul
    have := h.solvent
    omega
  case fresh =>
    intro m hm
    have hmn : m ≠ n := by
      rintro rfl
      omega
    rw [hother m hmn]
    apply h.fresh m (hnext.trans hm)
  case pending =>
    intro m
    by_cases hm : m = n
    · rw [hm, hself]
      exact hpending
    · rw [hother m hm, hpendings m hm]
      exact h.pending m
  case balance_le =>
    intro m
    by_cases hm : m = n
    · rw [hm, hself]
      exact hbalance
    · rw [hother m hm, hpendings m hm]
      exact h.balance_le m
  case paid =>
    intro m
    rw [paidFor_append, paidFor_single]
    by_cases hm : m = n
    · rw [hm, hself]
      exact hpaid
    · rw [hother m hm, hothers m hm, Nat.add_zero]
      exact h.paid m

/-- A call that leaves the ledger alone and takes nothing away preserves the invariant. -/
theorem Conserved.keep {a : Action} (h : Conserved v actions w)
    (hledger : w'.ledger = w.ledger) (hheld : w.held ≤ w'.held) (hpaid : ∀ n, a.paid n = 0) :
  Conserved v (actions ++ [a]) w'
  where
  solvent := by
    rw [hledger]
    exact h.solvent.trans hheld
  fresh := by
    rw [hledger]
    exact h.fresh
  pending := by
    rw [hledger]
    exact h.pending
  balance_le := by
    rw [hledger]
    exact h.balance_le
  paid n := by
    rw [paidFor_append, paidFor_single, hpaid n, hledger, Nat.add_zero]
    exact h.paid n

/-! ### Every call preserves the invariant -/

/-- A note that has left its initial status has been allocated. -/
theorem Conserved.lt_next (h : Conserved v actions w) {n : U32}
    (hn : (w.ledger.notes n).status ≠ .uninitialized) :
  n.toNat < w.ledger.nextNoteId.toNat
  := by
  by_contra hle
  apply hn
  rw [h.fresh n (not_lt.mp hle), Note.empty]

theorem Conserved.paid_eq_zero (h : Conserved v actions w) {n : U32}
    (hn : (w.ledger.notes n).status ≠ .closed) :
  paidFor n actions = 0
  := by
  rw [h.paid n, if_neg hn]

private theorem paid_other {call : Call} {n m : U32} (hcall : call.noteId = some n)
    (hm : m ≠ n) :
  (Action.call env call r).paid m = 0
  := by
  rw [Action.paid, hcall, if_neg]
  intro h
  exact hm (Option.some.inj h).symm

private theorem paid_self {call : Call} {n : U32} (hcall : call.noteId = some n) :
  (Action.call env call r).paid n = total r.sent
  := by
  rw [Action.paid, if_pos hcall]

/-- A call that closes a note and sends its deposit preserves the invariant. -/
theorem Conserved.close {call : Call} {n : U32} (h : Conserved v actions w)
    (hcall : call.noteId = some n)
    (hactive : liability (w.ledger.notes n) = (w.ledger.notes n).depositAmount.toNat)
    (hopen : (w.ledger.notes n).status ≠ .uninitialized ∧ (w.ledger.notes n).status ≠ .closed)
    (hnotes : w'.ledger.notes
      = Function.update w.ledger.notes n { w.ledger.notes n with status := .closed })
    (hpendings : ∀ m ≠ n, w'.ledger.pendingWithdrawals m = w.ledger.pendingWithdrawals m)
    (hpending : (w'.ledger.pendingWithdrawals n).present = false)
    (hnext : w'.ledger.nextNoteId = w.ledger.nextNoteId)
    (hsent : total r.sent = (w.ledger.notes n).depositAmount.toNat)
    (hheld : w.held ≤ w'.held + total r.sent * v.unit) :
  Conserved v (actions ++ [.call env call r]) w'
  := by
  apply h.change hnotes hpendings
  case hnext => rw [hnext]
  case hn =>
    rw [hnext]
    exact h.lt_next hopen.1
  case hheld =>
    rw [hsent] at hheld
    rw [hactive]
    simp only [liability, reduceCtorEq, or_self, if_false, zero_mul]
    omega
  case hpending => simp [hpending]
  case hbalance => simp
  case hpaid =>
    rw [h.paid_eq_zero hopen.2, paid_self hcall, hsent]
    simp
  case hothers =>
    intro m hm
    exact paid_other hcall hm

theorem Conserved.effect {call : Call} (h : Conserved v actions w)
    (heffect : Effect v env w call r) :
  Conserved v (actions ++ [.call env call r]) r.world
  := by
  cases heffect with
  | @deposit commitment amount siblings expiryTs newRoot w' _ _ _ _ hnext _ _ hledger hheld =>
    have hempty := h.fresh w.ledger.nextNoteId le_rfl
    have hlt : (w.ledger.nextNoteId + 1).toNat = w.ledger.nextNoteId.toNat + 1 := by
      rw [BitVec.toNat_add]
      exact Nat.mod_eq_of_lt hnext
    apply h.change (n := w.ledger.nextNoteId) (by rw [hledger, Ledger.deposited_notes])
    case hpendings => simp [hledger]
    case hnext =>
      rw [hledger, Ledger.deposited_nextNoteId]
      omega
    case hn =>
      rw [hledger, Ledger.deposited_nextNoteId]
      omega
    case hheld =>
      rw [hempty]
      simp only [liability, Note.empty, true_or, if_true, reduceCtorEq, or_self, if_false,
        zero_mul]
      omega
    case hpending =>
      rw [hledger, Ledger.deposited_pendingWithdrawals, h.pending, hempty]
      simp [Note.empty]
    case hbalance => simp
    case hpaid =>
      rw [h.paid_eq_zero (by rw [hempty]; simp [Note.empty])]
      rfl
    case hothers => exact fun _ _ => rfl
  | mutualClose hauth hledger hsent hheld =>
    have hactive := hauth.active
    refine h.close rfl (by simp [liability, hactive]) (by simp [hactive]) (by simp [hledger])
      (by simp [hledger]) ?_ (by simp [hledger]) hsent hheld
    rw [hledger]
    have hpending := h.pending
    rw [← Bool.not_eq_true]
    simp [hpending, hactive]
  | @initiateEscapeWithdrawal inputs proof siblings newRoot deadline hauth hdeadline =>
    have hactive := hauth.active
    apply h.change (n := inputs.noteId) rfl
    case hpendings =>
      intro m hm
      simp [Function.update_of_ne hm]
    case hnext => exact le_rfl
    case hn => exact h.lt_next (by simp [hactive])
    case hheld => simp [liability, hactive]
    case hpending => simp
    case hbalance =>
      intro _
      simpa using hauth.balance_le
    case hpaid =>
      rw [h.paid_eq_zero (by simp [hactive]), paid_self rfl]
      simp
    case hothers =>
      intro m hm
      exact paid_other rfl hm
  | @challengeEscapeWithdrawal noteId inputs proof siblings restoredRoot hstatus =>
    apply h.change (n := noteId) rfl
    case hpendings =>
      intro m hm
      simp [Function.update_of_ne hm]
    case hnext => exact le_rfl
    case hn => exact h.lt_next (by simp [hstatus])
    case hheld => simp [liability, hstatus]
    case hpending => simp [PendingWithdrawalData.empty]
    case hbalance => simp
    case hpaid =>
      rw [h.paid_eq_zero (by simp [hstatus]), paid_self rfl]
      simp
    case hothers =>
      intro m hm
      exact paid_other rfl hm
  | finalizeEscapeWithdrawal hstatus _ _ _ hledger hsent hheld =>
    refine h.close rfl (by simp [liability, hstatus]) (by simp [hstatus]) (by simp [hledger])
      ?_ (by simp [hledger, PendingWithdrawalData.empty]) (by simp [hledger]) hsent hheld
    intro m hm
    rw [hledger, Ledger.setPending_pendingWithdrawals, Function.update_of_ne hm,
      Ledger.setStatus_pendingWithdrawals]
  | claimExpired hactive _ _ hledger hsent hheld =>
    refine h.close rfl (by simp [liability, hactive]) (by simp [hactive]) (by simp [hledger])
      (by simp [hledger]) ?_ (by simp [hledger]) hsent hheld
    rw [hledger]
    have hpending := h.pending
    rw [← Bool.not_eq_true]
    simp [hpending, hactive]
  | administer _ => exact h.keep rfl le_rfl fun _ => rfl

theorem Conserved.step {a : Action} (h : Conserved v actions w) (hstep : Step v w a w') :
  Conserved v (actions ++ [a]) w'
  := by
  cases hstep with
  | call _ _ hexecute =>
    obtain ⟨hsolvent, hfresh, hpending, hbalance, hpaid⟩ := h.effect (execute_effect hexecute)
    exact ⟨hsolvent, hfresh, hpending, hbalance, hpaid⟩
  | donation => exact h.keep rfl (Nat.le_add_right _ _) fun _ => rfl

/-! ### Every reachable state satisfies the invariant -/

/-- The state that the constructor leaves. -/
theorem construct_ok {address : Address} {timestamp : U256} {held : ℕ} {args : ConstructorArgs}
    (h : construct address timestamp held args = .ok (v, w)) :
  (v.nativeAssetWeiPerUnit = gwei ∨ v.nativeAssetWeiPerUnit = 0)
    ∧ w.ledger
      = { currentRoot := computeEmptyTreeRoot
          nextNoteId := 0
          notes := fun _ => .empty
          pendingWithdrawals := fun _ => .empty
          usedNullifiers := fun _ => false }
  := by
  simp only [construct, bind_eq_ok, pure_eq_ok, Prod.mk.injEq] at h
  obtain ⟨_, _, _, _, _, _, _, _, _, _, _, _, _, _, _, _, rfl, rfl⟩ := h
  refine ⟨?_, rfl⟩
  by_cases htoken : args.billingToken = 0
  · left
    exact if_pos htoken
  · right
    exact if_neg htoken

theorem Conserved.initial
    (hledger : w.ledger
      = { currentRoot := computeEmptyTreeRoot
          nextNoteId := 0
          notes := fun _ => .empty
          pendingWithdrawals := fun _ => .empty
          usedNullifiers := fun _ => false }) :
  Conserved v [] w
  := by
  constructor
  all_goals rw [hledger]
  · simp [liability, Note.empty]
  · exact fun _ _ => rfl
  · simp [PendingWithdrawalData.empty, Note.empty]
  · simp [Note.empty]
  · simp [Note.empty]

theorem Reachable.conserved (h : Reachable v actions w) :
  Conserved v actions w
  := by
  obtain ⟨_, _, _, _, w₀, hconstruct, hrun⟩ := h
  apply hrun.invariant_history (P := fun as w => Conserved v as w)
  · exact .initial (construct_ok hconstruct).2
  · intro _ _ _ _ _ hconserved hstep
    exact hconserved.step hstep

theorem Reachable.append {actions' : List Action} (h : Reachable v actions w)
    (hrun : Run (Step v) w actions' w') :
  Reachable v (actions ++ actions') w'
  := by
  obtain ⟨address, timestamp, held, args, w₀, hconstruct, hrun₀⟩ := h
  exact ⟨address, timestamp, held, args, w₀, hconstruct, hrun₀.append hrun⟩

theorem Reachable.unit_lt (h : Reachable v actions w) :
  v.unit < 2 ^ 128
  := by
  obtain ⟨_, _, _, _, w₀, hconstruct, -⟩ := h
  rcases (construct_ok hconstruct).1 with hunit | hunit
  · rw [Deployment.unit, hunit]
    split <;> decide
  · rw [Deployment.unit, hunit]
    split <;> decide

/-! ### A closed note stays as it is -/

theorem Effect.notes_of_closed {call : Call} {n : U32} (h : Effect v env w call r)
    (hclosed : (w.ledger.notes n).status = .closed)
    (hnext : n.toNat < w.ledger.nextNoteId.toNat) :
  r.world.ledger.notes n = w.ledger.notes n
  := by
  have hne : ∀ m, (w.ledger.notes m).status ≠ .closed → n ≠ m := by
    rintro m hm rfl
    exact hm hclosed
  cases h with
  | deposit _ _ _ _ _ _ _ hledger _ =>
    have hn : n ≠ w.ledger.nextNoteId := by
      rintro rfl
      omega
    rw [hledger, Ledger.deposited_notes, Function.update_of_ne hn]
  | mutualClose hauth hledger _ _ =>
    have hn := hne _ (by rw [hauth.active]; simp)
    rw [hledger, Ledger.moved_notes, Function.update_of_ne hn, Ledger.consumed_notes]
  | initiateEscapeWithdrawal hauth _ =>
    have hn := hne _ (by rw [hauth.active]; simp)
    simp [Function.update_of_ne hn]
  | challengeEscapeWithdrawal hstatus =>
    have hn := hne _ (by rw [hstatus]; simp)
    simp [Function.update_of_ne hn]
  | finalizeEscapeWithdrawal hstatus _ _ _ hledger _ _ =>
    have hn := hne _ (by rw [hstatus]; simp)
    simp [hledger, Function.update_of_ne hn]
  | claimExpired hactive _ _ hledger _ _ =>
    have hn := hne _ (by rw [hactive]; simp)
    simp [hledger, Function.update_of_ne hn]
  | administer _ => rfl

theorem Step.notes_of_closed {a : Action} {n : U32} (h : Step v w a w')
    (hclosed : (w.ledger.notes n).status = .closed)
    (hnext : n.toNat < w.ledger.nextNoteId.toNat) :
  w'.ledger.notes n = w.ledger.notes n
  := by
  cases h with
  | call _ _ hexecute => exact (execute_effect hexecute).notes_of_closed hclosed hnext
  | donation => rfl

/-- Once a note is closed its record does not change, and nothing is paid for it. -/
theorem Reachable.closed {actions' : List Action} {n : U32} (h : Reachable v actions w)
    (hrun : Run (Step v) w actions' w') (hclosed : (w.ledger.notes n).status = .closed) :
  w'.ledger.notes n = w.ledger.notes n ∧ paidFor n actions' = 0
  := by
  have hnotes : w'.ledger.notes n = w.ledger.notes n := by
    apply hrun.invariant_history (P := fun _ w' => w'.ledger.notes n = w.ledger.notes n) rfl
    intro ks t a u hrun' ht hstep
    rw [← ht] at hclosed ⊢
    have hlt := (h.append hrun').conserved.lt_next (n := n) (by rw [hclosed]; simp)
    exact hstep.notes_of_closed hclosed hlt
  refine ⟨hnotes, ?_⟩
  have hpaid := h.conserved.paid n
  have hpaid' := (h.append hrun).conserved.paid n
  rw [hnotes, paidFor_append] at hpaid'
  omega

/-! ### A finalization goes through -/

/-- The recipients of a payment let its transfers through. -/
def acceptsPay (v : Deployment) (env : Env) (w : World) (destination : Address)
    (balance operatorShare : U128) : Prop :=
  (balance ≠ 0 → v.accepts destination (env.reply 0))
    ∧ (operatorShare ≠ 0 →
      v.accepts
        (if balance = 0 then w.admin else runNested w.admin (env.reply 0).nested).treasury
        (env.reply 1))

theorem transferNonzero_ok {destination : Address} {amount : U128} {reply : Reply}
    (hunit : v.unit < 2 ^ 128) (haccepts : amount ≠ 0 → v.accepts destination reply)
    (hheld : amount.toNat * v.unit ≤ w.held) :
  ∃ w' sent, transferNonzero v w destination amount reply = .ok (w', sent)
    ∧ w'.admin = (if amount = 0 then w.admin else runNested w.admin reply.nested)
    ∧ w.held ≤ w'.held + amount.toNat * v.unit
  := by
  by_cases hzero : amount = 0
  · refine ⟨w, [], ?_, ?_, Nat.le_add_right _ _⟩
    · rw [transferNonzero, if_neg (not_not.mpr hzero)]
    · rw [if_pos hzero]
  · have hlt : amount.toNat * v.unit < 2 ^ 256 :=
      calc amount.toNat * v.unit
        _ ≤ 2 ^ 128 * v.unit := Nat.mul_le_mul_right _ amount.isLt.le
        _ < 2 ^ 128 * 2 ^ 128 := Nat.mul_lt_mul_of_pos_left hunit (by norm_num)
    have htransfer := transfer_eq_ok.mpr ⟨hlt, haccepts hzero, hheld, rfl⟩
    refine ⟨_, [{ destination, amount }], ?_, ?_, (transfer_sent htransfer).held_le⟩
    · rw [transferNonzero, if_pos hzero]
      exact bind_eq_ok.mpr ⟨_, htransfer, rfl⟩
    · rw [if_neg hzero]
      rfl

theorem pay_ok {destination : Address} {balance operatorShare : U128}
    (hunit : v.unit < 2 ^ 128) (haccepts : acceptsPay v env w destination balance operatorShare)
    (hheld : (balance.toNat + operatorShare.toNat) * v.unit ≤ w.held) :
  ∃ p, pay v env w destination balance operatorShare = .ok p
  := by
  rw [add_mul] at hheld
  obtain ⟨w₁, sent, h₁, hadmin, hheld₁⟩ :=
    transferNonzero_ok (w := w) hunit haccepts.1 (by omega)
  have haccepts₂ := haccepts.2
  rw [← hadmin] at haccepts₂
  obtain ⟨w₂, sent', h₂, -, -⟩ := transferNonzero_ok (w := w₁) hunit haccepts₂ (by omega)
  exact ⟨(w₂, sent ++ sent'), bind_eq_ok.mpr ⟨_, h₁, bind_eq_ok.mpr ⟨_, h₂, rfl⟩⟩⟩

/-- What is owed for one note is a part of what is held. -/
theorem Conserved.liability_le (h : Conserved v actions w) (n : U32) :
  liability (w.ledger.notes n) * v.unit ≤ w.held
  := by
  apply le_trans _ h.solvent
  apply Nat.mul_le_mul_right
  exact single_le_sum (f := fun m => liability (w.ledger.notes m)) (fun _ _ => Nat.zero_le _)
    (mem_univ n)

/-- A withdrawal whose deadline has passed can be finalized, when its recipients accept what
they are sent. -/
theorem Reachable.finalize_ok {n : U32} (h : Reachable v actions w)
    (hstatus : (w.ledger.notes n).status = .pendingWithdrawal) (hvalue : env.value = 0)
    (htime : (w.ledger.pendingWithdrawals n).challengeDeadline.toNat ≤ env.timestamp.toNat)
    (haccepts : acceptsPay v env w (w.ledger.pendingWithdrawals n).destination
      (w.ledger.pendingWithdrawals n).finalBalance
      ((w.ledger.notes n).depositAmount - (w.ledger.pendingWithdrawals n).finalBalance)) :
  ∃ r, execute v env w (.finalizeEscapeWithdrawal n) = .ok r
  := by
  have hle := h.conserved.balance_le n hstatus
  have hpresent := (h.conserved.pending n).mpr hstatus
  have howed := h.conserved.liability_le n
  rw [liability, if_pos (.inr hstatus)] at howed
  have hsub := checkedSub_eq_ok.mpr ⟨hle, rfl⟩
  have hshare := checkedSub_toNat hsub
  obtain ⟨p, hpay⟩ := pay_ok
    (w :=
      { w with ledger := (w.ledger.setStatus n .closed).setPending n .empty })
    h.unit_lt haccepts (by rw [hshare]; exact howed)
  refine ⟨
    { world := p.1
      sent := p.2
      events := [.escapeWithdrawalFinalized n (w.ledger.pendingWithdrawals n).withdrawalNullifier
        (w.ledger.pendingWithdrawals n).finalBalance
        (w.ledger.pendingWithdrawals n).destination] }, ?_⟩
  refine bind_eq_ok.mpr ⟨(), revertIf_eq_ok.mpr (not_not.mpr hvalue), ?_⟩
  refine bind_eq_ok.mpr ⟨(), revertIf_eq_ok.mpr (not_notPending.mpr ⟨hstatus, hpresent⟩), ?_⟩
  refine bind_eq_ok.mpr ⟨(), revertIf_eq_ok.mpr (not_lt.mpr htime), ?_⟩
  refine bind_eq_ok.mpr ⟨_, hsub, ?_⟩
  exact bind_eq_ok.mpr ⟨p, hpay, rfl⟩

/-! ### A deployed vault -/

/-- The arguments of a vault that bills in a token and accepts every proof. -/
def tokenArgs : ConstructorArgs where
  billingToken := 1
  treasury := 2
  noteTtl := 86400
  challengePeriod := 86400
  requestChargeCap := 10
  proofAdapterAddress := 3
  proofAdapter :=
    { assertValidRequest := fun _ _ => true
      assertValidWithdrawal := fun _ _ => true }
  stateSigningKeyX := 4
  stateSigningKeyY := 5
  clearanceSigningKeyX := 6
  clearanceSigningKeyY := 7
  owner := 8

/-- The vault of `tokenArgs`. -/
def tokenVault : Deployment where
  address := 9
  billingToken := 1
  nativeAssetWeiPerUnit := 0
  noteTtl := 86400
  challengePeriod := 86400
  requestChargeCap := 10
  proofAdapter := tokenArgs.proofAdapter
  stateSigningKeyX := 4
  stateSigningKeyY := 5
  clearanceSigningKeyX := 6
  clearanceSigningKeyY := 7

/-- The first state of the vault of `tokenArgs`. -/
def tokenWorld : World where
  admin := { owner := 8, treasury := 2, paused := false }
  ledger :=
    { currentRoot := computeEmptyTreeRoot
      nextNoteId := 0
      notes := fun _ => .empty
      pendingWithdrawals := fun _ => .empty
      usedNullifiers := fun _ => false }
  held := 0
  now := 1700000000

theorem tokenWorld_reachable :
  Reachable tokenVault [] tokenWorld
  := ⟨9, 1700000000, 0, tokenArgs, tokenWorld, rfl, .nil⟩

/-! ### Conservation -/

end ZkApi.Vault
