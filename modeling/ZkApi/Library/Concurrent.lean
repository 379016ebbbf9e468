import Mathlib.Data.List.Basic
import Mathlib.Logic.Function.Basic
import Mathlib.Order.Basic
import ZkApi.Library.Run

/-!
# Concurrent programs over shared state

A program returns a value, or makes an access to the shared state and goes on with its
result.  A system runs any number of calls at the same time, each in a thread of its own and
one access after the other, in any order; a restart ends all threads and leaves of the
state what survives.

The rules are those of rely and guarantee.  A protocol has an invariant and a relation that
says how a state may change in time; a program keeps the protocol when each of its accesses
does, whatever the other threads do in between as long as they keep it too (`wp`).  When
all calls keep the protocol, the invariant holds along every run, the states of a run are
related, and every value that was returned is as its call has promised (`Kept.run`).
-/

namespace Concurrent

/-! ### Programs -/

/-- A program. -/
inductive Program (Op : Type) (Res : Op → Type) (α : Type) where
  | done (value : α)
  | access (op : Op) (next : Res op → Program Op Res α)

variable {Op : Type} {Res : Op → Type} {σ κ ε α β : Type}

/-- Sequential composition. -/
def Program.bind : Program Op Res α → (α → Program Op Res β) → Program Op Res β
  | .done a, f => f a
  | .access op next, f => .access op fun r => (next r).bind f

instance : Monad (Program Op Res) where
  pure := .done
  bind := Program.bind

/-- A single access. -/
def perform (op : Op) : Program Op Res (Res op) :=
  .access op .done

/-! ### Systems -/

/-- A system: the programs of its calls, what an access may return and change, and what a
restart leaves. -/
structure System (Op : Type) (Res : Op → Type) (σ κ α : Type) where
  program : κ → Program Op Res α
  exec : σ → (op : Op) → Res op → σ → Prop
  restart : σ → σ → Prop

/-- What happens in a system. -/
inductive Label (Op : Type) (Res : Op → Type) (κ α : Type) where
  | start (t : ℕ) (call : κ)
  | access (t : ℕ) (op : Op) (res : Res op)
  | finish (t : ℕ) (value : α)
  | restart

/-- The thread that a label belongs to. -/
def Label.thread : Label Op Res κ α → Option ℕ
  | .start t _ => some t
  | .access t _ _ => some t
  | .finish t _ => some t
  | .restart => none

/-- The labels of a thread. -/
def own (t : ℕ) (history : List (Label Op Res κ α)) : List (Label Op Res κ α) :=
  history.filter (fun l => l.thread = some t)

/-- The shared state, the threads that run, and the number of the next thread. -/
structure Config (Op : Type) (Res : Op → Type) (σ α : Type) where
  shared : σ
  threads : ℕ → Option (Program Op Res α)
  next : ℕ

/-- A system without threads. -/
def Config.initial (s : σ) : Config Op Res σ α where
  shared := s
  threads _ := none
  next := 0

/-- The configuration after a thread was changed. -/
def Config.setThread (c : Config Op Res σ α) (t : ℕ) (p : Option (Program Op Res α)) :
    Config Op Res σ α :=
  { c with threads := Function.update c.threads t p }

@[simp]
theorem setThread_self {c : Config Op Res σ α} {t : ℕ} {p : Option (Program Op Res α)} :
  (c.setThread t p).threads t = p
  := by
  simp only [Config.setThread, Function.update_self]

theorem setThread_of_ne {c : Config Op Res σ α} {t u : ℕ} {p : Option (Program Op Res α)}
    (h : u ≠ t) :
  (c.setThread t p).threads u = c.threads u
  := by
  simp only [Config.setThread, Function.update_of_ne h]

/-- One step of a system. -/
inductive Step (sys : System Op Res σ κ α) (c : Config Op Res σ α) :
    Label Op Res κ α → Config Op Res σ α → Prop
  | start (call : κ) :
      Step sys c (.start c.next call)
        ({ c with next := c.next + 1 }.setThread c.next (some (sys.program call)))
  | access {t : ℕ} {op : Op} {next : Res op → Program Op Res α} {r : Res op} {s : σ} :
      c.threads t = some (.access op next) → sys.exec c.shared op r s →
      Step sys c (.access t op r) ({ c with shared := s }.setThread t (some (next r)))
  | finish {t : ℕ} {a : α} :
      c.threads t = some (.done a) → Step sys c (.finish t a) (c.setThread t none)
  | restart {s : σ} :
      sys.restart c.shared s → Step sys c .restart { c with shared := s, threads := fun _ => none }

/-! ### Protocols -/

/-- What has happened so far, and the shared state. -/
structure View (Op : Type) (Res : Op → Type) (σ κ α : Type) where
  history : List (Label Op Res κ α)
  shared : σ

/-- The view after one more label. -/
def View.push (v : View Op Res σ κ α) (l : Label Op Res κ α) (s : σ) : View Op Res σ κ α where
  history := v.history ++ [l]
  shared := s

/-- An invariant, and a relation between a view and a later one. -/
structure Protocol (Op : Type) (Res : Op → Type) (σ κ α : Type) where
  Inv : View Op Res σ κ α → Prop
  Rel : View Op Res σ κ α → View Op Res σ κ α → Prop
  refl : ∀ v, Rel v v
  trans : ∀ {u v w}, Rel u v → Rel v w → Rel u w

variable {sys : System Op Res σ κ α} (P : Protocol Op Res σ κ α)

/-- One more label keeps the protocol. -/
def Protocol.Keeps (v : View Op Res σ κ α) (l : Label Op Res κ α) (s : σ) : Prop :=
  P.Inv (v.push l s) ∧ P.Rel v (v.push l s)

/-- What the other threads of a system may do while a thread waits. -/
structure Protocol.Rely (t : ℕ) (v w : View Op Res σ κ α) : Prop where
  inv : P.Inv w
  rel : P.Rel v w
  history : v.history <+: w.history
  own_eq : own t w.history = own t v.history

variable {P} {t : ℕ} {u v w : View Op Res σ κ α}

theorem Protocol.Rely.refl (h : P.Inv v) :
  P.Rely t v v
  where
  inv := h
  rel := P.refl v
  history := List.prefix_refl _
  own_eq := rfl

theorem Protocol.Rely.trans (h : P.Rely t u v) (k : P.Rely t v w) :
  P.Rely t u w
  where
  inv := k.inv
  rel := P.trans h.rel k.rel
  history := h.history.trans k.history
  own_eq := k.own_eq.trans h.own_eq

theorem Protocol.Rely.mem {l : Label Op Res κ α} (h : P.Rely t v w) (hl : l ∈ v.history) :
  l ∈ w.history
  := h.history.subset hl

/-- A label of another thread is something to rely on. -/
theorem Protocol.Keeps.rely {l : Label Op Res κ α} {s : σ} (h : P.Keeps v l s)
    (hl : l.thread ≠ some t) :
  P.Rely t v (v.push l s)
  := by
  constructor
  case inv => apply h.1
  case rel => apply h.2
  case history => apply List.prefix_append
  case own_eq =>
    rw [View.push, own, List.filter_append, List.filter_singleton, decide_eq_false hl]
    apply List.append_nil

variable (sys P)

/-- From the view on, every access of the program keeps the protocol, and the value that it
returns satisfies `Q`, whatever the other threads do. -/
def wp (t : ℕ) : Program Op Res β → (β → View Op Res σ κ α → Prop) → View Op Res σ κ α → Prop
  | .done b, Q, v => ∀ w, P.Rely t v w → Q b w
  | .access op next, Q, v =>
      ∀ w, P.Rely t v w → ∀ r s, sys.exec w.shared op r s →
        P.Keeps w (.access t op r) s ∧ wp t (next r) Q (w.push (.access t op r) s)

variable {sys P}

theorem wp_rely {p : Program Op Res β} {Q : β → View Op Res σ κ α → Prop}
    (h : wp sys P t p Q v) (hrely : P.Rely t v w) :
  wp sys P t p Q w
  := by
  cases p with
  | done b =>
    intro x hx
    apply h x (hrely.trans hx)
  | access op next =>
    intro x hx
    apply h x (hrely.trans hx)

theorem wp_pure {b : β} {Q : β → View Op Res σ κ α → Prop} (h : ∀ w, P.Rely t v w → Q b w) :
  wp sys P t (pure b) Q v
  := h

theorem wp_mono {p : Program Op Res β} {Q R : β → View Op Res σ κ α → Prop}
    (h : wp sys P t p Q v) (hQ : ∀ b w, Q b w → R b w) :
  wp sys P t p R v
  := by
  induction p generalizing v with
  | done b =>
    intro w hw
    apply hQ b w (h w hw)
  | access op next ih =>
    intro w hw r s hexec
    obtain ⟨hkeeps, hnext⟩ := h w hw r s hexec
    exact ⟨hkeeps, ih r hnext⟩

theorem wp_bind {γ : Type} {p : Program Op Res β} {f : β → Program Op Res γ}
    {Q : γ → View Op Res σ κ α → Prop} (hv : P.Inv v)
    (h : wp sys P t p (fun b w => P.Inv w → wp sys P t (f b) Q w) v) :
  wp sys P t (p >>= f) Q v
  := by
  induction p generalizing v with
  | done b => apply h v (.refl hv) hv
  | access op next ih =>
    intro w hw r s hexec
    obtain ⟨hkeeps, hnext⟩ := h w hw r s hexec
    exact ⟨hkeeps, ih r hkeeps.1 hnext⟩

theorem wp_perform {op : Op} {Q : Res op → View Op Res σ κ α → Prop}
    (h : ∀ w, P.Rely t v w → ∀ r s, sys.exec w.shared op r s →
      P.Keeps w (.access t op r) s ∧ ∀ x, P.Rely t (w.push (.access t op r) s) x → Q r x) :
  wp sys P t (perform op) Q v
  := h

/-! ### Programs that can fail -/

/-- A program that returns a value or an error. -/
abbrev Fallible (Op : Type) (Res : Op → Type) (ε α : Type) : Type :=
  ExceptT ε (Program Op Res) α

/-- A single access of a program that can fail. -/
def attempt (op : Op) : Fallible Op Res ε (Res op) :=
  ExceptT.lift (perform op)

/-- What is left to show after the first part of a composition. -/
def andThen {γ : Type} (sys : System Op Res σ κ α) (P : Protocol Op Res σ κ α) (t : ℕ)
    (f : β → Fallible Op Res ε γ) (Q : Except ε γ → View Op Res σ κ α → Prop) :
    Except ε β → View Op Res σ κ α → Prop
  | .ok b, w => P.Inv w → wp sys P t (f b).run Q w
  | .error e, w => ∀ x, P.Rely t w x → Q (.error e) x

theorem wp_run_bind {γ : Type} {p : Fallible Op Res ε β} {f : β → Fallible Op Res ε γ}
    {Q : Except ε γ → View Op Res σ κ α → Prop} (hv : P.Inv v)
    (h : wp sys P t p.run (andThen sys P t f Q) v) :
  wp sys P t (p >>= f).run Q v
  := by
  apply wp_bind hv
  apply wp_mono h
  intro r w hr hw
  cases r with
  | ok b => apply hr hw
  | error e => apply hr

theorem wp_run_attempt {op : Op} {Q : Except ε (Res op) → View Op Res σ κ α → Prop}
    (h : ∀ w, P.Rely t v w → ∀ r s, sys.exec w.shared op r s →
      P.Keeps w (.access t op r) s ∧ ∀ x, P.Rely t (w.push (.access t op r) s) x → Q (.ok r) x) :
  wp sys P t (attempt op).run Q v
  := h

theorem wp_run_throw {e : ε} {Q : Except ε β → View Op Res σ κ α → Prop}
    (h : ∀ w, P.Rely t v w → Q (.error e) w) :
  wp sys P t (throw e : Fallible Op Res ε β).run Q v
  := h

theorem wp_run_pure {b : β} {Q : Except ε β → View Op Res σ κ α → Prop}
    (h : ∀ w, P.Rely t v w → Q (.ok b) w) :
  wp sys P t (pure b : Fallible Op Res ε β).run Q v
  := h

/-- What is asked of a result that may be an error. -/
def onOk (R : β → View Op Res σ κ α → Prop) : Except ε β → View Op Res σ κ α → Prop
  | .ok b, v => R b v
  | .error _, _ => True

/-- The program keeps the protocol, and a value that it returns satisfies `R`. -/
def gives (sys : System Op Res σ κ α) (P : Protocol Op Res σ κ α) (t : ℕ)
    (p : Fallible Op Res ε β) (R : β → View Op Res σ κ α → Prop) (v : View Op Res σ κ α) : Prop :=
  wp sys P t p.run (onOk R) v

section

variable {p : Fallible Op Res ε β} {R S : β → View Op Res σ κ α → Prop}

theorem gives_rely (h : gives sys P t p R v) (hrely : P.Rely t v w) :
  gives sys P t p R w
  := wp_rely h hrely

theorem gives_mono (h : gives sys P t p R v) (hS : ∀ b w, R b w → S b w) :
  gives sys P t p S v
  := by
  apply wp_mono h
  intro r w hr
  cases r with
  | ok b => apply hS b w hr
  | error e => trivial

theorem gives_bind {γ : Type} {f : β → Fallible Op Res ε γ} {S : γ → View Op Res σ κ α → Prop}
    (hv : P.Inv v) (h : gives sys P t p R v)
    (hf : ∀ b w, R b w → P.Inv w → gives sys P t (f b) S w) :
  gives sys P t (p >>= f) S v
  := by
  apply wp_run_bind hv
  apply wp_mono h
  intro r w hr
  cases r with
  | ok b =>
    intro hw
    apply hf b w hr hw
  | error e =>
    intro x _
    trivial

theorem gives_pure {b : β} (h : ∀ w, P.Rely t v w → R b w) :
  gives sys P t (pure b : Fallible Op Res ε β) R v
  := wp_run_pure h

theorem gives_throw {e : ε} :
  gives sys P t (throw e : Fallible Op Res ε β) R v
  := by
  apply wp_run_throw
  intro w _
  trivial

theorem gives_attempt {op : Op} {R : Res op → View Op Res σ κ α → Prop}
    (h : ∀ w, P.Rely t v w → ∀ r s, sys.exec w.shared op r s →
      P.Keeps w (.access t op r) s ∧ ∀ x, P.Rely t (w.push (.access t op r) s) x → R r x) :
  gives sys P t (attempt op : Fallible Op Res ε (Res op)) R v
  := wp_run_attempt h

end

/-! ### Soundness -/

/-- What a protocol asks of a system: starts, returns and restarts keep it, and every call
keeps it and returns a value as promised, a promise that stays kept. -/
structure Protocol.Sound (P : Protocol Op Res σ κ α) (sys : System Op Res σ κ α)
    (Q : ℕ → κ → α → View Op Res σ κ α → Prop) : Prop where
  start : ∀ t call v, P.Inv v → own t v.history = [] →
    P.Keeps v (.start t call) v.shared
      ∧ wp sys P t (sys.program call) (Q t call) (v.push (.start t call) v.shared)
  finish : ∀ t a v, P.Inv v → P.Keeps v (.finish t a) v.shared
  restart : ∀ s v, P.Inv v → sys.restart v.shared s → P.Keeps v .restart s
  stable : ∀ t call a v w, Q t call a v → P.Rel v w → v.history <+: w.history → Q t call a w

/-- No thread returns twice. -/
def ReturnsOnce (history : List (Label Op Res κ α)) : Prop :=
  ∀ (t : ℕ) (a b : α) (i j : ℕ),
    history[i]? = some (.finish t a) → history[j]? = some (.finish t b) → i = j

variable (P) in
/-- What holds along a run: the invariant, that the threads keep the protocol, that the
values that were returned are as promised, and that a thread returns once. -/
structure Kept (sys : System Op Res σ κ α) (Q : ℕ → κ → α → View Op Res σ κ α → Prop)
    (history : List (Label Op Res κ α)) (c : Config Op Res σ α) : Prop where
  inv : P.Inv ⟨history, c.shared⟩
  fresh : ∀ t, c.next ≤ t → own t history = [] ∧ c.threads t = none
  running : ∀ t p, c.threads t = some p →
    ∃ call, .start t call ∈ history ∧ wp sys P t p (Q t call) ⟨history, c.shared⟩
  unfinished : ∀ t p, c.threads t = some p → ∀ a, .finish t a ∉ history
  finished : ∀ t a, .finish t a ∈ history →
    ∃ call, .start t call ∈ history ∧ Q t call a ⟨history, c.shared⟩
  once : ReturnsOnce history
  started : ∀ t call call', .start t call ∈ history → .start t call' ∈ history → call = call'

variable {Q : ℕ → κ → α → View Op Res σ κ α → Prop} {history : List (Label Op Res κ α)}
  {c d : Config Op Res σ α}

theorem mem_own {l : Label Op Res κ α} (hl : l ∈ history) (ht : l.thread = some t) :
  l ∈ own t history
  := List.mem_filter.mpr ⟨hl, decide_eq_true ht⟩

theorem own_push_of_ne {l : Label Op Res κ α} (hl : l.thread ≠ some t) :
  own t (history ++ [l]) = own t history
  := by
  rw [own, List.filter_append, List.filter_singleton, decide_eq_false hl]
  apply List.append_nil

theorem mem_push {l k : Label Op Res κ α} :
  k ∈ history ++ [l] ↔ k ∈ history ∨ k = l
  := by
  rw [List.mem_append, List.mem_singleton]

theorem getElem?_push {l k : Label Op Res κ α} {i : ℕ} (h : (history ++ [l])[i]? = some k) :
  history[i]? = some k ∨ i = history.length ∧ k = l
  := by
  rw [List.getElem?_append] at h
  split at h
  · left
    apply h
  · right
    obtain ⟨hi, hk⟩ := List.getElem?_eq_some_iff.mp h
    rw [List.length_singleton] at hi
    constructor
    · omega
    · rw [← hk, List.getElem_singleton]

theorem Kept.lt_next {p : Program Op Res α} (h : Kept P sys Q history c)
    (hp : c.threads t = some p) :
  t < c.next
  := by
  by_contra hnot
  rw [(h.fresh t (Nat.le_of_not_lt hnot)).2] at hp
  cases hp

/-- The values returned before stay as promised. -/
theorem Kept.finished_push {l : Label Op Res κ α} {s : σ} (h : Kept P sys Q history c)
    (hsound : P.Sound sys Q) (hkeeps : P.Keeps ⟨history, c.shared⟩ l s) :
  ∀ t a, .finish t a ∈ history →
    ∃ call, .start t call ∈ history ++ [l] ∧ Q t call a ⟨history ++ [l], s⟩
  := by
  intro t a ha
  obtain ⟨call, hcall, hQ⟩ := h.finished t a ha
  exact ⟨call, mem_push.mpr (.inl hcall), hsound.stable t call a _ _ hQ hkeeps.2
    (List.prefix_append _ _)⟩

/-- A label that is not a return of a thread that has returned keeps the returns apart. -/
theorem ReturnsOnce.push {l : Label Op Res κ α} (h : ReturnsOnce history)
    (hl : ∀ (t : ℕ) (a : α), l = .finish t a → ∀ b, .finish t b ∉ history) :
  ReturnsOnce (history ++ [l])
  := by
  intro t a b i j hi hj
  obtain hi | ⟨hilast, hi⟩ := getElem?_push hi <;> obtain hj | ⟨hjlast, hj⟩ := getElem?_push hj
  · apply h t a b i j hi hj
  · cases hl t b hj.symm a (List.mem_of_getElem? hi)
  · cases hl t a hi.symm b (List.mem_of_getElem? hj)
  · rw [hilast, hjlast]

/-- A thread starts once, if its start is its first label. -/
theorem started_push {l : Label Op Res κ α}
    (h : ∀ t call call', .start t call ∈ history → .start t call' ∈ history → call = call')
    (hl : ∀ t call, l = .start t call → own t history = []) :
  ∀ t call call', .start t call ∈ history ++ [l] → .start t call' ∈ history ++ [l] → call = call'
  := by
  intro t call call' hcall hcall'
  obtain hcall | heq := mem_push.mp hcall <;> obtain hcall' | heq' := mem_push.mp hcall'
  · apply h t call call' hcall hcall'
  · have hmem := mem_own hcall rfl
    rw [hl t call' heq'.symm] at hmem
    cases hmem
  · have hmem := mem_own hcall' rfl
    rw [hl t call heq.symm] at hmem
    cases hmem
  · rw [← heq] at heq'
    cases heq'
    rfl

/-- A label of a thread changes that thread and the shared state. -/
theorem Kept.push {l : Label Op Res κ α} {s : σ} {n : ℕ} {p : Option (Program Op Res α)}
    (h : Kept P sys Q history c) (hsound : P.Sound sys Q)
    (hkeeps : P.Keeps ⟨history, c.shared⟩ l s) (hl : l.thread = some t) (hn : c.next ≤ n)
    (ht : t < n)
    (hrunning : ∀ q, p = some q →
      ∃ call, .start t call ∈ history ++ [l] ∧ wp sys P t q (Q t call) ⟨history ++ [l], s⟩)
    (hunfinished : ∀ q, p = some q → ∀ a, .finish t a ∉ history ++ [l])
    (hfinished : ∀ a, l = .finish t a →
      ∃ call, .start t call ∈ history ++ [l] ∧ Q t call a ⟨history ++ [l], s⟩)
    (honce : ∀ a, l = .finish t a → ∀ b, .finish t b ∉ history)
    (hstart : ∀ call, l = .start t call → own t history = []) :
  Kept P sys Q (history ++ [l]) (Config.setThread { c with shared := s, next := n } t p)
  := by
  have hother : ∀ u ≠ t, l.thread ≠ some u := by
    intro u hu heq
    apply hu
    rw [hl] at heq
    apply (Option.some.inj heq).symm
  have hself : ∀ u a, l = .finish u a → u = t := by
    rintro u a rfl
    apply Option.some.inj hl
  constructor
  case inv => apply hkeeps.1
  case fresh =>
    intro u hu
    have hne : u ≠ t := Nat.ne_of_gt (Nat.lt_of_lt_of_le ht hu)
    rw [own_push_of_ne (hother u hne), setThread_of_ne hne]
    apply h.fresh u (Nat.le_trans hn hu)
  case running =>
    intro u q hq
    by_cases hu : u = t
    · rw [hu, setThread_self] at hq
      rw [hu]
      apply hrunning q hq
    · rw [setThread_of_ne hu] at hq
      obtain ⟨call, hcall, hwp⟩ := h.running u q hq
      exact ⟨call, mem_push.mpr (.inl hcall), wp_rely hwp (hkeeps.rely (hother u hu))⟩
  case unfinished =>
    intro u q hq a ha
    by_cases hu : u = t
    · rw [hu, setThread_self] at hq
      rw [hu] at ha
      apply hunfinished q hq a ha
    · rw [setThread_of_ne hu] at hq
      obtain ha | ha := mem_push.mp ha
      · apply h.unfinished u q hq a ha
      · apply hu (hself u a ha.symm)
  case finished =>
    intro u a ha
    obtain ha | ha := mem_push.mp ha
    · apply h.finished_push hsound hkeeps u a ha
    · have hu := hself u a ha.symm
      rw [hu] at ha ⊢
      apply hfinished a ha.symm
  case once =>
    apply h.once.push
    intro u a ha
    have hu := hself u a ha
    rw [hu] at ha ⊢
    apply honce a ha
  case started =>
    apply started_push h.started
    rintro u call rfl
    obtain rfl := Option.some.inj hl
    apply hstart call rfl

/-- Every step keeps the protocol. -/
theorem Kept.step {l : Label Op Res κ α} (h : Kept P sys Q history c) (hsound : P.Sound sys Q)
    (hstep : Step sys c l d) :
  Kept P sys Q (history ++ [l]) d ∧ P.Keeps ⟨history, c.shared⟩ l d.shared
  := by
  cases hstep with
  | start call =>
    have hfresh := h.fresh c.next (Nat.le_refl _)
    obtain ⟨hkeeps, hwp⟩ := hsound.start c.next call _ h.inv hfresh.1
    refine ⟨h.push hsound hkeeps rfl (Nat.le_succ _) (Nat.lt_succ_self _) ?_ ?_ ?_ ?_ ?_, hkeeps⟩
    · rintro q ⟨⟩
      exact ⟨call, mem_push.mpr (.inr rfl), hwp⟩
    · intro q _ a ha
      obtain ha | ha := mem_push.mp ha
      · have hmem := mem_own ha rfl
        rw [hfresh.1] at hmem
        cases hmem
      · cases ha
    · rintro a ⟨⟩
    · rintro a ⟨⟩
    · rintro call' ⟨⟩
      apply hfresh.1
  | @access t op next r s hthread hexec =>
    obtain ⟨call, hcall, hwp⟩ := h.running t _ hthread
    obtain ⟨hkeeps, hnext⟩ := hwp _ (.refl h.inv) r s hexec
    refine ⟨h.push hsound hkeeps rfl (Nat.le_refl _) (h.lt_next hthread) ?_ ?_ ?_ ?_ ?_, hkeeps⟩
    · rintro q ⟨⟩
      exact ⟨call, mem_push.mpr (.inl hcall), hnext⟩
    · intro q _ a ha
      obtain ha | ha := mem_push.mp ha
      · apply h.unfinished t _ hthread a ha
      · cases ha
    · rintro a ⟨⟩
    · rintro a ⟨⟩
    · rintro call' ⟨⟩
  | @finish t a hthread =>
    obtain ⟨call, hcall, hwp⟩ := h.running t _ hthread
    have hkeeps := hsound.finish t a _ h.inv
    refine ⟨h.push hsound hkeeps rfl (Nat.le_refl _) (h.lt_next hthread) ?_ ?_ ?_ ?_ ?_, hkeeps⟩
    · rintro q ⟨⟩
    · rintro q ⟨⟩
    · rintro b ⟨⟩
      exact ⟨call, mem_push.mpr (.inl hcall), hsound.stable t call a _ _
        (hwp _ (.refl h.inv)) hkeeps.2 (List.prefix_append _ _)⟩
    · rintro b ⟨⟩
      apply h.unfinished t _ hthread
    · rintro call' ⟨⟩
  | @restart s hrestart =>
    have hkeeps := hsound.restart s _ h.inv hrestart
    refine ⟨?_, hkeeps⟩
    constructor
    case inv => apply hkeeps.1
    case fresh =>
      intro u hu
      constructor
      · rw [own_push_of_ne (by rintro ⟨⟩)]
        apply (h.fresh u hu).1
      · rfl
    case running => rintro u p ⟨⟩
    case unfinished => rintro u p ⟨⟩
    case finished =>
      intro u a ha
      obtain ha | ha := mem_push.mp ha
      · apply h.finished_push hsound hkeeps u a ha
      · cases ha
    case once =>
      apply h.once.push
      rintro u a ⟨⟩
    case started =>
      apply started_push h.started
      rintro u call ⟨⟩

/-- A system without threads that satisfies the invariant. -/
theorem Kept.initial {s : σ} (h : P.Inv ⟨[], s⟩) :
  Kept P sys Q [] (.initial s)
  := by
  constructor
  case inv => apply h
  case fresh =>
    intro t _
    exact ⟨rfl, rfl⟩
  case running => rintro t p ⟨⟩
  case unfinished => rintro t p ⟨⟩
  case finished => rintro t a ⟨⟩
  case once => rintro t a b i j ⟨⟩
  case started => rintro t call call' ⟨⟩

/-- The protocol is kept along every run, and relates its two ends. -/
theorem Kept.run {labels : List (Label Op Res κ α)} (h : Kept P sys Q history c)
    (hsound : P.Sound sys Q) (hrun : Run (Step sys) c labels d) :
  Kept P sys Q (history ++ labels) d ∧ P.Rel ⟨history, c.shared⟩ ⟨history ++ labels, d.shared⟩
  := by
  apply hrun.invariant_history (P := fun ls e => Kept P sys Q (history ++ ls) e
    ∧ P.Rel ⟨history, c.shared⟩ ⟨history ++ ls, e.shared⟩)
  · rw [List.append_nil]
    exact ⟨h, P.refl _⟩
  · intro ks e l e' _ he hl
    obtain ⟨hkept, hkeeps⟩ := he.1.step hsound hl
    rw [← List.append_assoc]
    exact ⟨hkept, P.trans he.2 hkeeps.2⟩

end Concurrent
