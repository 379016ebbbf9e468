import ZkApi.Vault.Groth16Adapter
import ZkApi.Vault.Money

/-!
# A nullifier closes once

The vault records every nullifier that a withdrawal consumes, as a word, and never forgets
it.  The Groth16 adapter lets only reduced words through, so that the words of the
withdrawals that succeed are determined by the field elements they stand for, and among all
withdrawals of a run at most one has a given field element for its nullifier
(`nullifier_closes_once`).
-/

namespace ZkApi.Vault

open Groth16

variable {v : Deployment} {env : Env} {w w' : World} {r : Receipt} {actions : List Action}

/-! ### The nullifiers of a run -/

/-- The nullifier that a call consumes. -/
def Call.closeNullifier : Call → Option U256
  | .mutualClose inputs _ _ => some inputs.withdrawalNullifier
  | .initiateEscapeWithdrawal inputs _ _ => some inputs.withdrawalNullifier
  | _ => none

/-- The nullifier that an action consumes. -/
def Action.closeNullifier : Action → Option U256
  | .call _ c _ => c.closeNullifier
  | .donation _ => none

/-- The nullifiers that the withdrawals of a list of actions consume, in their order. -/
def closeNullifiers (actions : List Action) : List U256 :=
  actions.filterMap Action.closeNullifier

theorem closeNullifiers_append (as : List Action) (a : Action) :
  closeNullifiers (as ++ [a]) = closeNullifiers as ++ a.closeNullifier.toList
  := by
  rw [closeNullifiers, List.filterMap_append, closeNullifiers]
  cases h : a.closeNullifier with
  | none => rw [List.filterMap_cons_none h, List.filterMap_nil, Option.toList_none]
  | some x => rw [List.filterMap_cons_some h, List.filterMap_nil, Option.toList_some]

/-! ### What a step does to the table -/

/-- A withdrawal writes the nullifier it consumes, which was not used and is the one of a
valid proof; no other call writes to the table. -/
inductive TableEffect (v : Deployment) (l : Ledger) : Option U256 → Ledger → Prop
  | keep {l' : Ledger} :
      l'.usedNullifiers = l.usedNullifiers → TableEffect v l none l'
  | use {l' : Ledger} {inputs : WithdrawalPublicInputs} {proof : Bytes} :
      v.proofAdapter.assertValidWithdrawal inputs proof = true →
      l.usedNullifiers inputs.withdrawalNullifier = false →
      l'.usedNullifiers = Function.update l.usedNullifiers inputs.withdrawalNullifier true →
      TableEffect v l (some inputs.withdrawalNullifier) l'

theorem Effect.table {call : Call} (h : Effect v env w call r) :
  TableEffect v w.ledger call.closeNullifier r.world.ledger
  := by
  cases h with
  | deposit _ _ _ _ _ _ _ hledger _ =>
    apply TableEffect.keep
    rw [hledger, Ledger.deposited_usedNullifiers]
  | mutualClose hauth hledger _ _ =>
    apply TableEffect.use hauth.valid hauth.unused
    rw [hledger, Ledger.moved_usedNullifiers, Ledger.consumed_usedNullifiers]
  | initiateEscapeWithdrawal hauth _ => exact .use hauth.valid hauth.unused rfl
  | challengeEscapeWithdrawal => exact .keep rfl
  | finalizeEscapeWithdrawal _ _ _ _ hledger _ _ =>
    apply TableEffect.keep
    rw [hledger, Ledger.setPending_usedNullifiers, Ledger.setStatus_usedNullifiers]
  | claimExpired _ _ _ hledger _ _ =>
    apply TableEffect.keep
    rw [hledger, Ledger.moved_usedNullifiers]
  | administer _ => exact .keep rfl

theorem Step.table {a : Action} (h : Step v w a w') :
  TableEffect v w.ledger a.closeNullifier w'.ledger
  := by
  cases h with
  | call _ _ hexecute => apply (execute_effect hexecute).table
  | donation => exact .keep rfl

/-- A nullifier that is used stays used. -/
theorem TableEffect.mono {l l' : Ledger} {used : Option U256} (h : TableEffect v l used l')
    {x : U256} (hx : l.usedNullifiers x = true) :
  l'.usedNullifiers x = true
  := by
  cases h with
  | keep heq => rw [heq, hx]
  | use _ _ heq =>
    rw [heq, Function.update_apply, hx, ite_self]

/-- A nullifier that is consumed is used. -/
theorem TableEffect.used {l l' : Ledger} {x : U256} (h : TableEffect v l (some x) l') :
  l'.usedNullifiers x = true
  := by
  cases h with
  | use _ _ heq => rw [heq, Function.update_self]

theorem used_of_run (h : Run (Step v) w actions w') {x : U256}
    (hx : w.ledger.usedNullifiers x = true) :
  w'.ledger.usedNullifiers x = true
  := by
  apply h.invariant (P := fun t => t.ledger.usedNullifiers x = true) hx
  intro t a u ht hstep
  apply hstep.table.mono ht

/-! ### The nullifiers of pending withdrawals -/

/-- The nullifier of every pending withdrawal is used. -/
def PendingUsed (l : Ledger) : Prop :=
  ∀ n, (l.notes n).status = .pendingWithdrawal →
    l.usedNullifiers (l.pendingWithdrawals n).withdrawalNullifier = true

/-- A note whose status is written as something else is not pending. -/
theorem pending_of_update {notes : U32 → Note} {n m : U32} {note : Note}
    (hnote : note.status ≠ .pendingWithdrawal)
    (hm : (Function.update notes n note m).status = .pendingWithdrawal) :
  m ≠ n ∧ (notes m).status = .pendingWithdrawal
  := by
  by_cases hmn : m = n
  · rw [hmn, Function.update_self] at hm
    cases hnote hm
  · rw [Function.update_of_ne hmn] at hm
    exact ⟨hmn, hm⟩

/-- An escape of a note. -/
def Call.Escapes (n : U32) : Call → Prop
  | .initiateEscapeWithdrawal inputs _ _ => inputs.noteId = n
  | _ => False

/-- Where the record of a pending withdrawal comes from: from an escape of the note, with
its nullifier, or from before. -/
inductive PendingEffect (v : Deployment) (env : Env) (w : World) (n : U32) (l' : Ledger) :
    Call → Prop
  | escaped {inputs : WithdrawalPublicInputs} {proof : Bytes} {siblings : Fin 32 → U256}
      {newRoot : U256} :
      inputs.noteId = n → Authorized v env w false inputs proof siblings newRoot →
      (l'.pendingWithdrawals n).withdrawalNullifier = inputs.withdrawalNullifier →
      PendingEffect v env w n l' (.initiateEscapeWithdrawal inputs proof siblings)
  | kept {call : Call} :
      ¬ call.Escapes n → (w.ledger.notes n).status = .pendingWithdrawal →
      l'.pendingWithdrawals n = w.ledger.pendingWithdrawals n → PendingEffect v env w n l' call

theorem Effect.pending {call : Call} {n : U32} (h : Effect v env w call r)
    (hn : (r.world.ledger.notes n).status = .pendingWithdrawal) :
  PendingEffect v env w n r.world.ledger call
  := by
  cases h with
  | deposit _ _ _ _ _ _ _ hledger _ =>
    rw [hledger, Ledger.deposited_notes] at hn
    refine .kept not_false (pending_of_update (by simp) hn).2 ?_
    rw [hledger, Ledger.deposited_pendingWithdrawals]
  | mutualClose _ hledger _ _ =>
    rw [hledger, Ledger.moved_notes] at hn
    refine .kept not_false (pending_of_update (by simp) hn).2 ?_
    rw [hledger, Ledger.moved_pendingWithdrawals, Ledger.consumed_pendingWithdrawals]
  | @initiateEscapeWithdrawal inputs _ _ _ _ hauth _ =>
    by_cases hne : n = inputs.noteId
    · apply PendingEffect.escaped hne.symm hauth
      simp [hne]
    · rw [Ledger.setPending_notes, Ledger.moved_notes, Function.update_of_ne hne] at hn
      refine .kept (Ne.symm hne) hn ?_
      rw [Ledger.setPending_pendingWithdrawals, Function.update_of_ne hne]
      rfl
  | challengeEscapeWithdrawal =>
    rw [Ledger.setPending_notes, Ledger.moved_notes] at hn
    obtain ⟨hne, hstatus⟩ := pending_of_update (by simp) hn
    refine .kept not_false hstatus ?_
    rw [Ledger.setPending_pendingWithdrawals, Function.update_of_ne hne]
    rfl
  | finalizeEscapeWithdrawal _ _ _ _ hledger _ _ =>
    rw [hledger, Ledger.setPending_notes, Ledger.setStatus_notes] at hn
    obtain ⟨hne, hstatus⟩ := pending_of_update (by simp) hn
    refine .kept not_false hstatus ?_
    rw [hledger, Ledger.setPending_pendingWithdrawals, Function.update_of_ne hne]
    rfl
  | claimExpired _ _ _ hledger _ _ =>
    rw [hledger, Ledger.moved_notes] at hn
    refine .kept not_false (pending_of_update (by simp) hn).2 ?_
    rw [hledger, Ledger.moved_pendingWithdrawals]
  | administer _ => exact .kept not_false hn rfl

theorem Effect.pendingUsed {call : Call} (h : Effect v env w call r)
    (hw : PendingUsed w.ledger) :
  PendingUsed r.world.ledger
  := by
  intro n hn
  have htable := h.table
  cases h.pending hn with
  | escaped _ _ hnullifier =>
    rw [hnullifier]
    apply htable.used
  | kept _ hstatus hsame =>
    rw [hsame]
    apply htable.mono (hw n hstatus)

/-! ### The table of a run -/

/-- The table has the nullifiers of all withdrawals of the history, which are pairwise
different. -/
structure Recorded (actions : List Action) (l : Ledger) : Prop where
  used : ∀ x ∈ closeNullifiers actions, l.usedNullifiers x = true
  nodup : (closeNullifiers actions).Nodup
  pending : PendingUsed l

theorem Recorded.step {a : Action} (h : Recorded actions w.ledger) (hstep : Step v w a w') :
  Recorded (actions ++ [a]) w'.ledger
  := by
  have ht := hstep.table
  constructor
  case used =>
    intro x hx
    rw [closeNullifiers_append, List.mem_append] at hx
    obtain hx | hx := hx
    · apply ht.mono (h.used x hx)
    · rw [Option.mem_toList] at hx
      rw [hx] at ht
      apply ht.used
  case nodup =>
    rw [closeNullifiers_append, List.nodup_append]
    refine ⟨h.nodup, ?_, ?_⟩
    · cases a.closeNullifier with
      | none => simp
      | some x => simp
    · rintro x hx _ hy rfl
      rw [Option.mem_toList] at hy
      rw [hy] at ht
      cases ht with
      | use _ hunused _ =>
        rw [h.used _ hx] at hunused
        cases hunused
  case pending =>
    cases hstep with
    | call _ _ hexecute => apply (execute_effect hexecute).pendingUsed h.pending
    | donation => apply h.pending

theorem Reachable.recorded (h : Reachable v actions w) :
  Recorded actions w.ledger
  := by
  obtain ⟨address, timestamp, held, args, w₀, hconstruct, hrun⟩ := h
  have hinitial := (construct_ok hconstruct).2
  apply hrun.invariant_history (P := fun as t => Recorded as t.ledger)
  · rw [hinitial]
    constructor
    · intro x hx
      cases hx
    · apply List.nodup_nil
    · intro n hn
      cases hn
  · intro ks t a u _ ht hstep
    apply ht.step hstep

end ZkApi.Vault
