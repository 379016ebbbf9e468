import Mathlib.Data.List.Basic

/-!
# Programs whose accesses can fail

A program runs on a state and accesses it step by step.  Every access takes the next fault
of a list: it goes through, it fails with an error and has no effect, or the process ends
before it.  `wp p Q s` holds when every run of `p` from `s`, whatever the faults are, ends
in an outcome and a state that satisfy `Q`; it is computed by the rules of a weakest
precondition.
-/

namespace FaultIO

/-- What happens at an access. -/
inductive Fault where
  | none
  | error
  | crash
  deriving DecidableEq

/-- How a program ends. -/
inductive Outcome (ε α : Type) where
  | ok (value : α)
  | error (e : ε)
  | crash
  deriving DecidableEq

/-- The end of a run: the outcome, the state and the faults that are left. -/
structure Result (σ ε α : Type) where
  outcome : Outcome ε α
  state : σ
  faults : List Fault

/-- A program. -/
def Program (σ ε α : Type) : Type :=
  σ → List Fault → Result σ ε α

variable {σ ε α β : Type}

/-- Sequential composition.  After an error or a crash nothing more is done. -/
def Program.bind (p : Program σ ε α) (f : α → Program σ ε β) : Program σ ε β :=
  fun s faults =>
    match p s faults with
    | ⟨.ok a, t, rest⟩ => f a t rest
    | ⟨.error e, t, rest⟩ => ⟨.error e, t, rest⟩
    | ⟨.crash, t, rest⟩ => ⟨.crash, t, rest⟩

instance : Monad (Program σ ε) where
  pure a := fun s faults => ⟨.ok a, s, faults⟩
  bind := Program.bind

/-- Read the state without an access. -/
def get : Program σ ε σ :=
  fun s faults => ⟨.ok s, s, faults⟩

/-- Change the state without an access. -/
def modify (f : σ → σ) : Program σ ε Unit :=
  fun s faults => ⟨.ok (), f s, faults⟩

/-- Continue with a value, or fail. -/
def ofExcept (x : Except ε α) : Program σ ε α :=
  fun s faults =>
    match x with
    | .ok a => ⟨.ok a, s, faults⟩
    | .error e => ⟨.error e, s, faults⟩

/-- An access that changes the state when it goes through. -/
def access (e : ε) (f : σ → σ) : Program σ ε Unit :=
  fun s faults =>
    match faults with
    | [] => ⟨.ok (), f s, []⟩
    | .none :: rest => ⟨.ok (), f s, rest⟩
    | .error :: rest => ⟨.error e, s, rest⟩
    | .crash :: rest => ⟨.crash, s, rest⟩

/-- A question to the state, which is answered no when the access fails. -/
def probe (f : σ → Bool) : Program σ ε Bool :=
  fun s faults =>
    match faults with
    | [] => ⟨.ok (f s), s, []⟩
    | .none :: rest => ⟨.ok (f s), s, rest⟩
    | .error :: rest => ⟨.ok false, s, rest⟩
    | .crash :: rest => ⟨.crash, s, rest⟩

/-- Run a program and take its error as a value. -/
def attempt (p : Program σ ε α) : Program σ ε (Except ε α) :=
  fun s faults =>
    match p s faults with
    | ⟨.ok a, t, rest⟩ => ⟨.ok (.ok a), t, rest⟩
    | ⟨.error e, t, rest⟩ => ⟨.ok (.error e), t, rest⟩
    | ⟨.crash, t, rest⟩ => ⟨.crash, t, rest⟩

/-! ### Weakest preconditions -/

/-- Every run from the state ends as `Q` says. -/
def wp (p : Program σ ε α) (Q : Outcome ε α → σ → Prop) (s : σ) : Prop :=
  ∀ faults, Q (p s faults).outcome (p s faults).state

variable {Q R : Outcome ε α → σ → Prop} {s : σ}

/-- What the end of the first part of a composition has to satisfy. -/
@[reducible]
def andThen (f : α → Program σ ε β) (Q : Outcome ε β → σ → Prop) : Outcome ε α → σ → Prop
  | .ok a, t => wp (f a) Q t
  | .error e, t => Q (.error e) t
  | .crash, t => Q .crash t

theorem wp_bind {p : Program σ ε α} {f : α → Program σ ε β} {Q : Outcome ε β → σ → Prop}
    (h : wp p (andThen f Q) s) :
  wp (p >>= f) Q s
  := by
  intro faults
  have hp := h faults
  simp only [Bind.bind, Program.bind]
  generalize p s faults = result at hp ⊢
  obtain ⟨outcome, t, rest⟩ := result
  cases outcome with
  | ok a => apply hp rest
  | error e => apply hp
  | crash => apply hp

theorem wp_mono {p : Program σ ε α} (h : wp p Q s) (hQ : ∀ o t, Q o t → R o t) :
  wp p R s
  := by
  intro faults
  apply hQ
  apply h

theorem wp_pure {a : α} (h : Q (.ok a) s) :
  wp (pure a) Q s
  := fun _ => h

theorem wp_get {Q : Outcome ε σ → σ → Prop} (h : Q (.ok s) s) :
  wp get Q s
  := fun _ => h

theorem wp_modify {f : σ → σ} {Q : Outcome ε Unit → σ → Prop} (h : Q (.ok ()) (f s)) :
  wp (modify f) Q s
  := fun _ => h

theorem wp_ofExcept {x : Except ε α} (hok : ∀ a, x = .ok a → Q (.ok a) s)
    (herror : ∀ e, x = .error e → Q (.error e) s) :
  wp (ofExcept x) Q s
  := by
  intro _
  cases x with
  | ok a => apply hok a rfl
  | error e => apply herror e rfl

theorem wp_access {e : ε} {f : σ → σ} {Q : Outcome ε Unit → σ → Prop} (hok : Q (.ok ()) (f s))
    (herror : Q (.error e) s) (hcrash : Q .crash s) :
  wp (access e f) Q s
  := by
  intro faults
  cases faults with
  | nil => apply hok
  | cons fault rest =>
    cases fault with
    | none => apply hok
    | error => apply herror
    | crash => apply hcrash

theorem wp_probe {f : σ → Bool} {Q : Outcome ε Bool → σ → Prop} (hyes : f s = true → Q (.ok true) s)
    (hno : Q (.ok false) s) (hcrash : Q .crash s) :
  wp (probe f) Q s
  := by
  intro faults
  have hanswer : Q (.ok (f s)) s := by
    cases hf : f s with
    | true => apply hyes hf
    | false => apply hno
  cases faults with
  | nil => apply hanswer
  | cons fault rest =>
    cases fault with
    | none => apply hanswer
    | error => apply hno
    | crash => apply hcrash

/-- What the end of a program has to satisfy so that the end with its error as a value does. -/
@[reducible]
def caught (Q : Outcome ε (Except ε α) → σ → Prop) : Outcome ε α → σ → Prop
  | .ok a, t => Q (.ok (.ok a)) t
  | .error e, t => Q (.ok (.error e)) t
  | .crash, t => Q .crash t

theorem wp_attempt {p : Program σ ε α} {Q : Outcome ε (Except ε α) → σ → Prop}
    (h : wp p (caught Q) s) :
  wp (attempt p) Q s
  := by
  intro faults
  have hp := h faults
  rw [attempt]
  generalize p s faults = result at hp ⊢
  obtain ⟨outcome, t, rest⟩ := result
  cases outcome with
  | ok a => apply hp
  | error e => apply hp
  | crash => apply hp

/-! ### Runs -/

/-- The next accesses of a run go through. -/
def Clear (n : ℕ) (faults : List Fault) : Prop :=
  ∀ fault ∈ faults.take n, fault = .none

theorem clear_nil (n : ℕ) :
  Clear n []
  := by simp [Clear]

theorem clear_replicate (n : ℕ) (faults : List Fault) :
  Clear n (List.replicate n .none ++ faults)
  := by
  intro fault hfault
  rw [List.take_left' List.length_replicate] at hfault
  apply List.eq_of_mem_replicate hfault

variable {n : ℕ} {faults rest : List Fault} {t : σ} {a : α} {e : ε}

theorem Clear.tail (h : Clear (n + 1) faults) :
  Clear n faults.tail
  := by
  intro fault hfault
  apply h
  cases faults with
  | nil => simp at hfault
  | cons => apply List.mem_cons_of_mem _ hfault

theorem access_of_clear (h : Clear (n + 1) faults) (f : σ → σ) :
  access e f s faults = ⟨.ok (), f s, faults.tail⟩
  := by
  cases faults with
  | nil => rfl
  | cons fault rest =>
    obtain rfl : fault = .none := by
      apply h
      simp
    rfl

theorem probe_of_clear (h : Clear (n + 1) faults) (f : σ → Bool) :
  (probe f : Program σ ε Bool) s faults = ⟨.ok (f s), s, faults.tail⟩
  := by
  cases faults with
  | nil => rfl
  | cons fault rest =>
    obtain rfl : fault = .none := by
      apply h
      simp
    rfl

theorem probe_of_crash (f : σ → Bool) :
  (probe f : Program σ ε Bool) s (.crash :: rest) = ⟨.crash, s, rest⟩
  := rfl

theorem get_run :
  (get : Program σ ε σ) s faults = ⟨.ok s, s, faults⟩
  := rfl

theorem modify_run (f : σ → σ) :
  (modify f : Program σ ε Unit) s faults = ⟨.ok (), f s, faults⟩
  := rfl

theorem ofExcept_of_ok {x : Except ε α} (h : x = .ok a) :
  ofExcept x s faults = ⟨.ok a, s, faults⟩
  := by
  rw [h]
  rfl

theorem ofExcept_of_error {x : Except ε α} (h : x = .error e) :
  ofExcept x s faults = ⟨.error e, s, faults⟩
  := by
  rw [h]
  rfl

theorem bind_of_ok {p : Program σ ε α} (h : p s faults = ⟨.ok a, t, rest⟩)
    (f : α → Program σ ε β) :
  (p >>= f) s faults = f a t rest
  := by
  simp only [Bind.bind, Program.bind, h]

theorem bind_of_error {p : Program σ ε α} (h : p s faults = ⟨.error e, t, rest⟩)
    (f : α → Program σ ε β) :
  (p >>= f) s faults = ⟨.error e, t, rest⟩
  := by
  simp only [Bind.bind, Program.bind, h]

theorem bind_of_crash {p : Program σ ε α} (h : p s faults = ⟨.crash, t, rest⟩)
    (f : α → Program σ ε β) :
  (p >>= f) s faults = ⟨.crash, t, rest⟩
  := by
  simp only [Bind.bind, Program.bind, h]

/-- Without a value, nothing more is done. -/
theorem bind_of_not_ok {p : Program σ ε α} (h : ∀ a, (p s faults).outcome ≠ .ok a)
    (f : α → Program σ ε β) :
  ((p >>= f) s faults).state = (p s faults).state ∧ ∀ b, ((p >>= f) s faults).outcome ≠ .ok b
  := by
  simp only [Bind.bind, Program.bind]
  generalize p s faults = result at h ⊢
  obtain ⟨outcome, t, rest⟩ := result
  cases outcome with
  | ok a => exact absurd rfl (h a)
  | error e =>
    constructor
    · rfl
    · rintro _ ⟨⟩
  | crash =>
    constructor
    · rfl
    · rintro _ ⟨⟩

/-- A value that is computed from that of a program changes nothing. -/
theorem state_bind_pure (p : Program σ ε α) (f : α → β) :
  ((p >>= fun a => pure (f a)) s faults).state = (p s faults).state
  := by
  simp only [Bind.bind, Program.bind]
  generalize p s faults = result
  obtain ⟨outcome, t, rest⟩ := result
  cases outcome <;> rfl

theorem attempt_of_ok {p : Program σ ε α} (h : p s faults = ⟨.ok a, t, rest⟩) :
  attempt p s faults = ⟨.ok (.ok a), t, rest⟩
  := by
  simp only [attempt, h]

theorem attempt_of_error {p : Program σ ε α} (h : p s faults = ⟨.error e, t, rest⟩) :
  attempt p s faults = ⟨.ok (.error e), t, rest⟩
  := by
  simp only [attempt, h]

theorem attempt_of_crash {p : Program σ ε α} (h : p s faults = ⟨.crash, t, rest⟩) :
  attempt p s faults = ⟨.crash, t, rest⟩
  := by
  simp only [attempt, h]

end FaultIO
