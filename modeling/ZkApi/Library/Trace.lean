import ZkApi.Library.Concurrent

/-!
# Traces of a program

A trace of a program is what one run of it does: its accesses, each with the result that it
got, and the value that it returns.  A trace of a composition is a trace of its first part
followed by one of the second.  What a thread of a system does from its start to its return
is a trace of its program, whatever the other threads do in between.
-/

namespace Concurrent

variable {Op : Type} {Res : Op → Type} {σ κ ε α β γ : Type}

/-- The program makes the accesses, with their results, and returns the value. -/
inductive Trace : Program Op Res α → List ((op : Op) × Res op) → α → Prop
  | done (a : α) : Trace (.done a) [] a
  | access {op : Op} {next : Res op → Program Op Res α} {r : Res op}
      {as : List ((op : Op) × Res op)} {a : α} :
      Trace (next r) as a → Trace (.access op next) (⟨op, r⟩ :: as) a

variable {as : List ((op : Op) × Res op)}

/-! ### Composition -/

theorem trace_pure {a b : α} :
  Trace (pure a : Program Op Res α) as b ↔ as = [] ∧ b = a
  := by
  constructor
  · intro h
    cases h
    exact ⟨rfl, rfl⟩
  · rintro ⟨rfl, rfl⟩
    apply Trace.done

theorem trace_bind {p : Program Op Res α} {f : α → Program Op Res β} {b : β} :
  Trace (p >>= f) as b
    ↔ ∃ a bs cs, as = bs ++ cs ∧ Trace p bs a ∧ Trace (f a) cs b
  := by
  constructor
  · intro h
    induction p generalizing as with
    | done a => exact ⟨a, [], as, rfl, .done a, h⟩
    | access op next ih =>
      obtain _ | @⟨_, _, r, as, _, h⟩ := h
      obtain ⟨a, bs, cs, rfl, hp, hf⟩ := ih r h
      exact ⟨a, ⟨op, r⟩ :: bs, cs, rfl, .access hp, hf⟩
  · rintro ⟨a, bs, cs, rfl, hp, hf⟩
    induction hp with
    | done a => apply hf
    | access _ ih => apply Trace.access (ih hf)

theorem trace_perform {op : Op} {r : Res op} :
  Trace (perform op) as r ↔ as = [⟨op, r⟩]
  := by
  constructor
  · intro h
    obtain _ | ⟨⟨⟩⟩ := h
    rfl
  · rintro rfl
    apply Trace.access (.done r)

/-! ### Programs that can fail -/

theorem trace_run_pure {a : α} {r : Except ε α} :
  Trace (pure a : Fallible Op Res ε α).run as r ↔ as = [] ∧ r = .ok a
  := trace_pure

theorem trace_run_throw {e : ε} {r : Except ε α} :
  Trace (throw e : Fallible Op Res ε α).run as r ↔ as = [] ∧ r = .error e
  := trace_pure

theorem trace_run_attempt {op : Op} {r : Except ε (Res op)} :
  Trace (attempt op).run as r ↔ ∃ x, as = [⟨op, x⟩] ∧ r = .ok x
  := by
  constructor
  · intro h
    obtain _ | @⟨_, _, x, _, _, ⟨⟩⟩ := h
    exact ⟨x, rfl, rfl⟩
  · rintro ⟨x, rfl, rfl⟩
    have hdone : Trace (.done (Except.ok x) : Program Op Res (Except ε (Res op))) [] (.ok x) :=
      .done _
    apply Trace.access hdone

/-- A composition returns what its second part does, or the error of the first. -/
theorem trace_run_bind {p : Fallible Op Res ε α} {f : α → Fallible Op Res ε β} {r : Except ε β} :
  Trace (p >>= f).run as r
    ↔ (∃ a bs cs, as = bs ++ cs ∧ Trace p.run bs (.ok a) ∧ Trace (f a).run cs r)
      ∨ ∃ e, r = .error e ∧ Trace p.run as (.error e)
  := by
  apply Iff.trans (trace_bind (p := p.run))
  constructor
  · rintro ⟨x, bs, cs, rfl, hp, hf⟩
    cases x with
    | ok a => exact .inl ⟨a, bs, cs, rfl, hp, hf⟩
    | error e =>
      obtain ⟨rfl, rfl⟩ := trace_pure.mp hf
      rw [List.append_nil]
      exact .inr ⟨e, rfl, hp⟩
  · rintro (⟨a, bs, cs, rfl, hp, hf⟩ | ⟨e, rfl, hp⟩)
    · exact ⟨.ok a, bs, cs, rfl, hp, hf⟩
    · exact ⟨.error e, as, [], (List.append_nil as).symm, hp, trace_pure.mpr ⟨rfl, rfl⟩⟩

/-- A value is returned only by both parts. -/
theorem trace_run_bind_ok {p : Fallible Op Res ε α} {f : α → Fallible Op Res ε β} {b : β} :
  Trace (p >>= f).run as (.ok b)
    ↔ ∃ a bs cs, as = bs ++ cs ∧ Trace p.run bs (.ok a) ∧ Trace (f a).run cs (.ok b)
  := by
  rw [trace_run_bind]
  constructor
  · rintro (h | ⟨e, ⟨⟩, _⟩)
    apply h
  · apply Or.inl

/-! ### Threads -/

/-- The access of a label, if it is one of the thread. -/
def Label.accessBy (t : ℕ) : Label Op Res κ α → Option ((op : Op) × Res op)
  | .access u op r => if u = t then some ⟨op, r⟩ else none
  | _ => none

/-- The accesses of a thread. -/
def accessesOf (t : ℕ) (history : List (Label Op Res κ α)) : List ((op : Op) × Res op) :=
  history.filterMap (Label.accessBy t)

variable {sys : System Op Res σ κ α} {c d : Config Op Res σ α} {t : ℕ}
  {history : List (Label Op Res κ α)}

theorem accessBy_eq_some {l : Label Op Res κ α} {op : Op} {r : Res op} :
  l.accessBy t = some ⟨op, r⟩ ↔ l = .access t op r
  := by
  constructor
  · intro h
    cases l with
    | access u op' r' =>
      obtain ⟨rfl, heq⟩ := Option.ite_none_right_eq_some.mp h
      injection heq with heq
      cases heq
      rfl
    | start => cases h
    | finish => cases h
    | restart => cases h
  · rintro rfl
    apply if_pos rfl

theorem mem_accessesOf {op : Op} {r : Res op} :
  ⟨op, r⟩ ∈ accessesOf t history ↔ .access t op r ∈ history
  := by
  rw [accessesOf, List.mem_filterMap]
  simp only [accessBy_eq_some, exists_eq_right]

theorem accessesOf_push_of_none {l : Label Op Res κ α} (h : l.accessBy t = none) :
  accessesOf t (history ++ [l]) = accessesOf t history
  := by
  rw [accessesOf, List.filterMap_append, List.filterMap_cons_none h]
  apply List.append_nil

theorem accessesOf_push {op : Op} {r : Res op} :
  accessesOf t (history ++ [.access t op r]) = accessesOf t history ++ [⟨op, r⟩]
  := by
  have haccess : (Label.access t op r : Label Op Res κ α).accessBy t = some ⟨op, r⟩ :=
    accessBy_eq_some.mpr rfl
  rw [accessesOf, List.filterMap_append, List.filterMap_cons_some haccess]
  rfl

/-- What is left of a program after some accesses: with any trace of the rest, they are a
trace of the program. -/
def Rest (p : Program Op Res α) (as : List ((op : Op) × Res op)) (q : Program Op Res α) : Prop :=
  ∀ bs a, Trace q bs a → Trace p (as ++ bs) a

theorem Rest.access {p : Program Op Res α} {op : Op} {next : Res op → Program Op Res α}
    (h : Rest p as (.access op next)) (r : Res op) :
  Rest p (as ++ [⟨op, r⟩]) (next r)
  := by
  intro bs a hbs
  rw [List.append_assoc]
  apply h _ a (.access hbs)

/-- Every program can be run to its end, if every access can return something. -/
theorem exists_trace [∀ op, Nonempty (Res op)] (p : Program Op Res α) :
  ∃ as a, Trace p as a
  := by
  induction p with
  | done a => exact ⟨[], a, .done a⟩
  | access op next ih =>
    obtain ⟨r⟩ : Nonempty (Res op) := inferInstance
    obtain ⟨as, a, h⟩ := ih r
    exact ⟨⟨op, r⟩ :: as, a, .access h⟩

/-- A thread that runs a program: it is still at it, or is over, and if it has returned then
its accesses are a trace. -/
def Follows (t : ℕ) (p : Program Op Res α) (history : List (Label Op Res κ α))
    (c : Config Op Res σ α) : Prop :=
  t < c.next
    ∧ ((∃ q, c.threads t = some q ∧ Rest p (accessesOf t history) q ∧ ∀ a, .finish t a ∉ history)
      ∨ c.threads t = none ∧ ∀ a, .finish t a ∈ history → Trace p (accessesOf t history) a)

/-- A label that is not of the thread, and leaves it as it is. -/
theorem Follows.other {p : Program Op Res α} {l : Label Op Res κ α}
    (h : Follows t p history c) (hl : l.thread ≠ some t) (hnext : c.next ≤ d.next)
    (hthreads : d.threads t = c.threads t) :
  Follows t p (history ++ [l]) d
  := by
  have haccess : l.accessBy t = none := by
    cases haccess : l.accessBy t with
    | none => rfl
    | some access =>
      rw [accessBy_eq_some.mp haccess] at hl
      cases hl rfl
  have hfinish : ∀ a, .finish t a ∈ history ++ [l] → .finish t a ∈ history := by
    intro a ha
    obtain ha | rfl := mem_push.mp ha
    · apply ha
    · cases hl rfl
  rw [Follows, accessesOf_push_of_none haccess, hthreads]
  refine ⟨Nat.lt_of_lt_of_le h.1 hnext, ?_⟩
  obtain ⟨q, hq, hrest, hunfinished⟩ | ⟨hover, htrace⟩ := h.2
  · left
    exact ⟨q, hq, hrest, fun a ha => hunfinished a (hfinish a ha)⟩
  · right
    exact ⟨hover, fun a ha => htrace a (hfinish a ha)⟩

/-- A thread that runs keeps to its program. -/
theorem Follows.of_some {p q : Program Op Res α} (h : Follows t p history c)
    (hq : c.threads t = some q) :
  Rest p (accessesOf t history) q ∧ ∀ a, .finish t a ∉ history
  := by
  obtain ⟨q', hq', hrest, hunfinished⟩ | ⟨hover, _⟩ := h.2
  · obtain rfl := Option.some.inj (hq.symm.trans hq')
    exact ⟨hrest, hunfinished⟩
  · rw [hover] at hq
    cases hq

theorem Follows.step {p : Program Op Res α} {l : Label Op Res κ α}
    (h : Follows t p history c) (hstep : Step sys c l d) :
  Follows t p (history ++ [l]) d
  := by
  cases hstep with
  | start call =>
    have hne : t ≠ c.next := Nat.ne_of_lt h.1
    apply h.other
    · rintro ⟨⟩
      apply hne rfl
    · apply Nat.le_succ
    · apply setThread_of_ne hne
  | @access u op next r s hthread _ =>
    by_cases hu : t = u
    · subst hu
      obtain ⟨hrest, hunfinished⟩ := h.of_some hthread
      refine ⟨h.1, .inl ⟨next r, setThread_self, ?_, ?_⟩⟩
      · rw [accessesOf_push]
        apply hrest.access r
      · intro a ha
        obtain ha | heq := mem_push.mp ha
        · apply hunfinished a ha
        · cases heq
    · apply h.other
      · rintro ⟨⟩
        apply hu rfl
      · apply Nat.le_refl
      · apply setThread_of_ne hu
  | @finish u b hthread =>
    by_cases hu : t = u
    · subst hu
      obtain ⟨hrest, hunfinished⟩ := h.of_some hthread
      refine ⟨h.1, .inr ⟨setThread_self, ?_⟩⟩
      intro a ha
      obtain ha | heq := mem_push.mp ha
      · cases hunfinished a ha
      · injection heq with _ heq
        rw [accessesOf_push_of_none rfl, ← List.append_nil (accessesOf t history), heq]
        apply hrest [] b (.done b)
    · apply h.other
      · rintro ⟨⟩
        apply hu rfl
      · apply Nat.le_refl
      · apply setThread_of_ne hu
  | restart =>
    refine ⟨h.1, .inr ⟨rfl, ?_⟩⟩
    intro a ha
    rw [accessesOf_push_of_none rfl]
    obtain ha | heq := mem_push.mp ha
    · obtain ⟨q, _, _, hunfinished⟩ | ⟨_, htrace⟩ := h.2
      · cases hunfinished a ha
      · apply htrace a ha
    · cases heq

/-- What a thread does from some point to its return is a trace of what it had left to do. -/
theorem trace_of_thread {p : Program Op Res α} {a : α} (hthread : c.threads t = some p)
    (hnext : t < c.next) (hrun : Run (Step sys) c history d) (hfinish : .finish t a ∈ history) :
  Trace p (accessesOf t history) a
  := by
  have hfollows : Follows t p history d := by
    apply hrun.invariant_history (P := Follows t p)
    · refine ⟨hnext, .inl ⟨p, hthread, ?_, ?_⟩⟩
      · intro bs a hbs
        apply hbs
      · rintro a ⟨⟩
    · intro ks c l d _ hc hl
      apply hc.step hl
  obtain ⟨q, _, _, hunfinished⟩ | ⟨_, htrace⟩ := hfollows.2
  · cases hunfinished a hfinish
  · apply htrace a hfinish

/-- What a thread did when it has returned is a trace of its program. -/
theorem trace_of_run {call : κ} {a : α} {e : Config Op Res σ α}
    (hstart : Step sys c (.start t call) d) (hrun : Run (Step sys) d history e)
    (hfinish : .finish t a ∈ history) :
  Trace (sys.program call) (accessesOf t history) a
  := by
  cases hstart
  apply trace_of_thread setThread_self (Nat.lt_succ_self _) hrun hfinish

/-- Threads that are not there have done nothing, and those that run keep to their
programs. -/
structure Traced (sys : System Op Res σ κ α) (history : List (Label Op Res κ α))
    (c : Config Op Res σ α) : Prop where
  fresh : ∀ t, c.next ≤ t → accessesOf t history = [] ∧ c.threads t = none
  running : ∀ t q, c.threads t = some q →
    ∃ call, .start t call ∈ history ∧ Rest (sys.program call) (accessesOf t history) q

/-- A label of a thread that leaves the others as they are. -/
theorem Traced.push {l : Label Op Res κ α} (h : Traced sys history c) (hl : l.thread = some t)
    (ht : t < d.next) (hnext : c.next ≤ d.next) (hothers : ∀ u, u ≠ t → d.threads u = c.threads u)
    (hrunning : ∀ q, d.threads t = some q →
      ∃ call, .start t call ∈ history ++ [l]
        ∧ Rest (sys.program call) (accessesOf t (history ++ [l])) q) :
  Traced sys (history ++ [l]) d
  := by
  have hnone : ∀ u, u ≠ t → accessesOf u (history ++ [l]) = accessesOf u history := by
    intro u hu
    apply accessesOf_push_of_none
    cases haccess : l.accessBy u with
    | none => rfl
    | some access =>
      rw [accessBy_eq_some.mp haccess] at hl
      cases hl
      cases hu rfl
  constructor
  case fresh =>
    intro u hu
    have hne : u ≠ t := Nat.ne_of_gt (Nat.lt_of_lt_of_le ht hu)
    rw [hnone u hne, hothers u hne]
    apply h.fresh u (Nat.le_trans hnext hu)
  case running =>
    intro u q hq
    by_cases hu : u = t
    · subst hu
      apply hrunning q hq
    · rw [hothers u hu] at hq
      rw [hnone u hu]
      obtain ⟨call, hcall, hrest⟩ := h.running u q hq
      exact ⟨call, mem_push.mpr (.inl hcall), hrest⟩

theorem Traced.lt_next {q : Program Op Res α} (h : Traced sys history c)
    (hq : c.threads t = some q) :
  t < c.next
  := by
  by_contra hnot
  rw [(h.fresh t (Nat.le_of_not_lt hnot)).2] at hq
  cases hq

theorem Traced.step {l : Label Op Res κ α} (h : Traced sys history c) (hstep : Step sys c l d) :
  Traced sys (history ++ [l]) d
  := by
  cases hstep with
  | start call =>
    apply h.push (t := c.next)
    · rfl
    · apply Nat.lt_succ_self
    · apply Nat.le_succ
    · intro u hu
      apply setThread_of_ne hu
    · intro q hq
      rw [setThread_self] at hq
      cases hq
      refine ⟨call, mem_push.mpr (.inr rfl), ?_⟩
      rw [accessesOf_push_of_none rfl, (h.fresh c.next (Nat.le_refl _)).1]
      intro bs a hbs
      apply hbs
  | @access u op next r s hthread _ =>
    apply h.push (t := u)
    · rfl
    · apply h.lt_next hthread
    · apply Nat.le_refl
    · intro v hv
      apply setThread_of_ne hv
    · intro q hq
      rw [setThread_self] at hq
      cases hq
      obtain ⟨call, hcall, hrest⟩ := h.running u _ hthread
      refine ⟨call, mem_push.mpr (.inl hcall), ?_⟩
      rw [accessesOf_push]
      apply hrest.access r
  | @finish u a hthread =>
    apply h.push (t := u)
    · rfl
    · apply h.lt_next hthread
    · apply Nat.le_refl
    · intro v hv
      apply setThread_of_ne hv
    · intro q hq
      rw [setThread_self] at hq
      cases hq
  | restart =>
    constructor
    case fresh =>
      intro u hu
      rw [accessesOf_push_of_none rfl]
      exact ⟨(h.fresh u hu).1, rfl⟩
    case running => rintro u q ⟨⟩

/-- A run from a system without threads. -/
theorem traced_of_run {s : σ} (hrun : Run (Step sys) (.initial s) history c) :
  Traced sys history c
  := by
  apply hrun.invariant_history (P := Traced sys)
  · constructor
    case fresh =>
      intro t _
      exact ⟨rfl, rfl⟩
    case running => rintro t q ⟨⟩
  · intro ks c l d _ hc hl
    apply hc.step hl

/-- A thread that makes an access has a call, and goes on with the rest of it. -/
theorem rest_of_access {s : σ} {op : Op} {r : Res op}
    (hrun : Run (Step sys) (.initial s) history c) (hstep : Step sys c (.access t op r) d) :
  ∃ call q, .start t call ∈ history ∧ d.threads t = some q ∧ t < d.next
    ∧ Rest (sys.program call) (accessesOf t history ++ [⟨op, r⟩]) q
  := by
  obtain _ | ⟨hthread, _⟩ := hstep
  have htraced := traced_of_run hrun
  obtain ⟨call, hcall, hrest⟩ := htraced.running t _ hthread
  exact ⟨call, _, hcall, setThread_self, htraced.lt_next hthread, hrest.access r⟩

/-- What a thread does belongs to a trace of its call, after what it has done before. -/
theorem exists_trace_of_access [∀ op, Nonempty (Res op)] {s : σ} {op : Op} {r : Res op}
    (hrun : Run (Step sys) (.initial s) history c) (hstep : Step sys c (.access t op r) d) :
  ∃ call bs a, .start t call ∈ history
    ∧ Trace (sys.program call) (accessesOf t history ++ ⟨op, r⟩ :: bs) a
  := by
  obtain ⟨call, q, hcall, _, _, hrest⟩ := rest_of_access hrun hstep
  obtain ⟨bs, a, h⟩ := exists_trace q
  refine ⟨call, bs, a, hcall, ?_⟩
  rw [List.append_cons]
  apply hrest bs a h

/-- The system executes the accesses, one after the other. -/
inductive Execs (sys : System Op Res σ κ α) : σ → List ((op : Op) × Res op) → σ → Prop
  | nil (s : σ) : Execs sys s [] s
  | cons {s s' s'' : σ} {op : Op} {r : Res op} {as : List ((op : Op) × Res op)} :
      sys.exec s op r s' → Execs sys s' as s'' → Execs sys s (⟨op, r⟩ :: as) s''

/-- The labels of a thread that makes some accesses and returns. -/
def solo (t : ℕ) (as : List ((op : Op) × Res op)) (a : α) : List (Label Op Res κ α) :=
  as.map (fun access => .access t access.1 access.2) ++ [.finish t a]

theorem finish_mem_solo {a : α} :
  (.finish t a : Label Op Res κ α) ∈ solo t as a
  := List.mem_append_right _ (List.mem_singleton_self _)

theorem mem_solo {op : Op} {r : Res op} {a : α} :
  (.access t op r : Label Op Res κ α) ∈ solo t as a ↔ ⟨op, r⟩ ∈ as
  := by
  rw [solo, List.mem_append, List.mem_map]
  constructor
  · rintro (⟨access, hmem, heq⟩ | hfinish)
    · cases heq
      apply hmem
    · cases List.mem_singleton.mp hfinish
  · intro hmem
    exact .inl ⟨⟨op, r⟩, hmem, rfl⟩

/-- A thread can do what a trace of its program says, if the system executes it. -/
theorem run_of_trace {p : Program Op Res α} {a : α} {s : σ} (htrace : Trace p as a)
    (hthread : c.threads t = some p) (hexecs : Execs sys c.shared as s) :
  ∃ d, Run (Step sys) c (solo t as a) d ∧ d.shared = s ∧ d.next = c.next
  := by
  induction htrace generalizing c with
  | done a =>
    cases hexecs
    exact ⟨_, .single (.finish hthread), rfl, rfl⟩
  | @access op next r as a _ ih =>
    obtain _ | @⟨_, s', _, _, _, _, hexec, hexecs⟩ := hexecs
    have hstep : Step sys c (.access t op r)
        (Config.setThread { c with shared := s' } t (some (next r))) := .access hthread hexec
    obtain ⟨d, hrun, hshared, hnext⟩ := ih (c := Config.setThread { c with shared := s' } t
      (some (next r))) setThread_self hexecs
    exact ⟨d, (Run.single hstep).append hrun, hshared, hnext⟩

/-- A call can do what a trace of its program says, if the system executes it. -/
theorem run_of_call {call : κ} {a : α} {s : σ} (htrace : Trace (sys.program call) as a)
    (hexecs : Execs sys c.shared as s) :
  ∃ d, Run (Step sys) c (.start c.next call :: solo c.next as a) d ∧ d.shared = s
  := by
  have hstart : Step sys c (.start c.next call)
      (Config.setThread { c with next := c.next + 1 } c.next (some (sys.program call))) :=
    .start call
  obtain ⟨d, hrun, hshared, _⟩ := run_of_trace (c := Config.setThread { c with next := c.next + 1 }
    c.next (some (sys.program call))) htrace setThread_self hexecs
  exact ⟨d, (Run.single hstart).append hrun, hshared⟩

end Concurrent
