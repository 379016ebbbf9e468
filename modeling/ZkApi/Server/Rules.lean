import ZkApi.Library.Trace
import ZkApi.Server.System

/-!
# Traces of the calls

How a call goes on after each of its parts: an access returns anything that it may return,
a value that is there is passed on, and a check that fails ends the call.
-/

namespace ZkApi.Server

open Concurrent

instance (op : Op) : Nonempty op.Res :=
  match op with
  | .currentRoot => ⟨(0 : Felt252)⟩
  | .currentTimestamp => ⟨(0 : U64)⟩
  | .verifyArtifact _ _ => ⟨(.ok () : Except String Unit)⟩
  | .execute _ _ _ => ⟨(.error .replay : Except ServerError ProviderResponse)⟩
  | .lookupByNullifier _ => ⟨(.ok none : Except Failure (Option TranscriptRecord))⟩
  | .reserve _ _ _ => ⟨(.ok () : Except ServerError Unit)⟩
  | .finalize _ _ => ⟨(.ok () : Except ServerError Unit)⟩
  | .reserveClearance _ => ⟨(.ok () : Except ServerError Unit)⟩
  | .lockOperation => ⟨true⟩
  | .unlockOperation _ => ⟨()⟩
  | .reserveLeaf _ _ _ _ => ⟨(.ok 0 : Except ServerError U32)⟩
  | .signReserved _ _ _ => ⟨(none : Option Stark.XmssSignature)⟩

section

variable {α β ε : Type} {as : List ((op : Op) × op.Res)} {r : Except Abort β}

theorem trace_call_bind {op : Op} {f : op.Res → Handler β} :
  Trace (call op >>= f).run as r ↔ ∃ x bs, as = ⟨op, x⟩ :: bs ∧ Trace (f x).run bs r
  := by
  rw [trace_run_bind]
  constructor
  · rintro (⟨x, bs, cs, rfl, hcall, hf⟩ | ⟨e, _, hcall⟩)
    · obtain ⟨_, rfl, ⟨⟩⟩ := trace_run_attempt.mp hcall
      exact ⟨x, cs, rfl, hf⟩
    · obtain ⟨_, _, ⟨⟩⟩ := trace_run_attempt.mp hcall
  · rintro ⟨x, bs, rfl, hf⟩
    exact .inl ⟨x, [⟨op, x⟩], bs, rfl, trace_run_attempt.mpr ⟨x, rfl, rfl⟩, hf⟩

/-- A value that is there is passed on, and otherwise the call ends. -/
theorem trace_fromExcept_bind {x : Except Abort α} {f : α → Handler β} :
  Trace (fromExcept x >>= f).run as r
    ↔ (∃ a, x = .ok a ∧ Trace (f a).run as r) ∨ ∃ e, x = .error e ∧ as = [] ∧ r = .error e
  := by
  cases x with
  | ok a =>
    constructor
    · intro h
      exact .inl ⟨a, rfl, h⟩
    · rintro (⟨_, ⟨⟩, h⟩ | ⟨_, ⟨⟩, _⟩)
      apply h
  | error e =>
    constructor
    · intro h
      obtain ⟨rfl, rfl⟩ := trace_pure.mp h
      exact .inr ⟨e, rfl, rfl, rfl⟩
    · rintro (⟨_, ⟨⟩, _⟩ | ⟨_, ⟨⟩, rfl, rfl⟩)
      apply trace_pure.mpr ⟨rfl, rfl⟩

theorem trace_orError_bind {x : Except ServerError α} {f : α → Handler β} :
  Trace (orError x >>= f).run as r
    ↔ (∃ a, x = .ok a ∧ Trace (f a).run as r)
      ∨ ∃ e, x = .error e ∧ as = [] ∧ r = .error (.error e)
  := by
  cases x with
  | ok a =>
    apply trace_fromExcept_bind (x := .ok a) |>.trans
    simp only [Except.ok.injEq, reduceCtorEq, false_and, exists_false, or_false]
  | error e =>
    apply trace_fromExcept_bind (x := .error (.error e)) |>.trans
    simp only [Except.error.injEq, reduceCtorEq, false_and, exists_false, false_or,
      exists_eq_left']

theorem trace_orPanic_bind {x : Except ε α} {f : α → Handler β} :
  Trace (orPanic x >>= f).run as r
    ↔ (∃ a, x = .ok a ∧ Trace (f a).run as r) ∨ (∃ e, x = .error e) ∧ as = [] ∧ r = .error .panic
  := by
  cases x with
  | ok a =>
    apply trace_fromExcept_bind (x := .ok a) |>.trans
    simp only [Except.ok.injEq, reduceCtorEq, false_and, exists_false, or_false]
  | error e =>
    apply trace_fromExcept_bind (x := .error .panic) |>.trans
    simp only [Except.error.injEq, reduceCtorEq, false_and, exists_false, false_or,
      exists_eq_left', exists_eq', true_and]

theorem trace_rejectIf_bind {condition : Prop} [Decidable condition] {e : ServerError}
    {f : Unit → Handler β} :
  Trace (rejectIf condition e >>= f).run as r
    ↔ (¬ condition ∧ Trace (f ()).run as r) ∨ condition ∧ as = [] ∧ r = .error (.error e)
  := by
  rw [rejectIf]
  split
  case isTrue h =>
    apply trace_orError_bind (x := (.error e : Except ServerError Unit)) |>.trans
    simp only [h, reduceCtorEq, Except.error.injEq, false_and, exists_false, false_or,
      exists_eq_left', not_true_eq_false, true_and]
  case isFalse h =>
    apply trace_orError_bind (x := (.ok () : Except ServerError Unit)) |>.trans
    constructor
    · rintro (⟨_, _, hf⟩ | ⟨_, ⟨⟩, _⟩)
      exact .inl ⟨h, hf⟩
    · rintro (⟨_, hf⟩ | ⟨hcondition, _⟩)
      · exact .inl ⟨(), rfl, hf⟩
      · cases h hcondition

end

end ZkApi.Server
