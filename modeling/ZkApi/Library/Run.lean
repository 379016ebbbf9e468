import Mathlib.Data.List.Basic

/-!
# Runs of a transition system

A transition system is a relation `step s ℓ t` between states, labelled by what was done.
`Run step s ls t` holds when the labels `ls`, in the order of time, lead from `s` to `t`.
The rules are those of an invariant: a property of the state, or of the state and the
history so far, that every step preserves holds at the end of every run.  A property of an entry
of a history and of what came before it is shown for one entry after the other.
-/

variable {σ ℓ : Type*}

/-- The labels `ls` lead from one state to another. -/
inductive Run (step : σ → ℓ → σ → Prop) (s : σ) : List ℓ → σ → Prop
  | nil : Run step s [] s
  | snoc {ls : List ℓ} {t u : σ} {l : ℓ} :
      Run step s ls t → step t l u → Run step s (ls ++ [l]) u

namespace Run

variable {step : σ → ℓ → σ → Prop} {s t u : σ} {ls ks : List ℓ}

theorem single {l : ℓ} (h : step s l t) :
  Run step s [l] t
  := by
  have hrun : Run step s ([] ++ [l]) t := .snoc .nil h
  apply hrun

theorem append (h : Run step s ls t) (k : Run step t ks u) :
  Run step s (ls ++ ks) u
  := by
  induction k with
  | nil =>
    rw [List.append_nil]
    exact h
  | snoc _ hstep ih =>
    rw [← List.append_assoc]
    exact .snoc ih hstep

theorem eq_of_nil (h : Run step s [] t) :
  t = s
  := by
  generalize hhistory : [] = history at h
  obtain _ | ⟨_, _⟩ := h
  · rfl
  · cases (List.append_eq_nil_iff.mp hhistory.symm).2

theorem step_of_single {l : ℓ} (h : Run step s [l] t) :
  step s l t
  := by
  generalize hhistory : [l] = history at h
  obtain _ | @⟨ks, _, _, k, hrun, hstep⟩ := h
  · cases hhistory
  · have hsplit : [] ++ [l] = ks ++ [k] := hhistory
    obtain ⟨rfl, hlast⟩ := List.append_inj' hsplit rfl
    obtain rfl := List.singleton_inj.mp hlast
    rw [← eq_of_nil hrun]
    exact hstep

/-- A run passes through a state between any two parts of its history. -/
theorem split {bs : List ℓ} (h : Run step s (ls ++ bs) t) :
  ∃ u, Run step s ls u ∧ Run step u bs t
  := by
  generalize hhistory : ls ++ bs = history at h
  induction h generalizing bs with
  | nil =>
    obtain ⟨rfl, rfl⟩ := List.append_eq_nil_iff.mp hhistory
    exact ⟨s, .nil, .nil⟩
  | @snoc ks v w l hrun hstep ih =>
    -- the last step belongs to the second part, unless that is empty
    obtain rfl | ⟨bs, b, rfl⟩ := bs.eq_nil_or_concat'
    · rw [List.append_nil] at hhistory
      rw [hhistory]
      exact ⟨w, .snoc hrun hstep, .nil⟩
    · rw [← List.append_assoc] at hhistory
      obtain ⟨hhistory, hlast⟩ := List.append_inj' hhistory rfl
      obtain ⟨u, hu, hv⟩ := ih hhistory
      obtain rfl := List.singleton_inj.mp hlast
      exact ⟨u, hu, .snoc hv hstep⟩

/-- Every label of a run is a step between two parts of it. -/
theorem exists_step {l : ℓ} (h : Run step s ls t) (hl : l ∈ ls) :
  ∃ as bs u v, ls = as ++ l :: bs ∧ Run step s as u ∧ step u l v ∧ Run step v bs t
  := by
  induction h with
  | nil => cases hl
  | @snoc ks v w k hrun hstep ih =>
    obtain hl | hl := List.mem_append.mp hl
    · obtain ⟨as, bs, u, u', rfl, hu, hu', hrest⟩ := ih hl
      use as, bs ++ [k], u, u'
      rw [List.append_assoc, List.cons_append]
      exact ⟨rfl, hu, hu', .snoc hrest hstep⟩
    · obtain rfl := List.mem_singleton.mp hl
      exact ⟨ks, [], v, w, rfl, hrun, hstep, .nil⟩

/-- A property of state and history that every step preserves holds along every run. -/
theorem invariant_history {P : List ℓ → σ → Prop} (h : Run step s ls t)
    (h0 : P [] s)
    (hstep : ∀ ks t l u, Run step s ks t → P ks t → step t l u → P (ks ++ [l]) u) :
  P ls t
  := by
  induction h with
  | nil => exact h0
  | snoc hrun hl ih => exact hstep _ _ _ _ hrun ih hl

/-- A property of the state that every step preserves holds along every run. -/
theorem invariant {P : σ → Prop} (h : Run step s ls t) (h0 : P s)
    (hstep : ∀ t l u, P t → step t l u → P u) :
  P t
  := h.invariant_history (P := fun _ => P) h0 fun _ t l u _ ht hl => hstep t l u ht hl

/-- A quantity of the state that no step changes is the same at both ends of a run. -/
theorem const {α : Type*} (f : σ → α) (h : Run step s ls t)
    (hstep : ∀ t l u, step t l u → f u = f t) :
  f t = f s
  := h.invariant (P := fun t => f t = f s) rfl fun t l u ht hl => (hstep t l u hl).trans ht

end Run

/-! ### Histories -/

/-- Every entry of a history has a property, given what came before it. -/
def EachEntry {α : Type*} (P : List α → α → Prop) (history : List α) : Prop :=
  ∀ before a after, history = before ++ a :: after → P before a

section

variable {α : Type*} {P Q : List α → α → Prop} {history : List α}

theorem eachEntry_nil :
  EachEntry P []
  := by
  intro before a after h
  cases before <;> cases h

theorem eachEntry_concat {a : α} :
  EachEntry P (history ++ [a]) ↔ EachEntry P history ∧ P history a
  := by
  constructor
  · intro h
    constructor
    · rintro before b after rfl
      apply h before b (after ++ [a])
      rw [List.append_assoc, List.cons_append]
    · apply h history a []
      rfl
  · rintro ⟨h, ha⟩ before b after hsplit
    obtain rfl | ⟨after, c, rfl⟩ := after.eq_nil_or_concat'
    · obtain ⟨rfl, hlast⟩ := List.append_inj' hsplit rfl
      obtain rfl := List.singleton_inj.mp hlast
      exact ha
    · rw [← List.cons_append, ← List.append_assoc] at hsplit
      obtain ⟨hbefore, _⟩ := List.append_inj' hsplit rfl
      exact h before b after hbefore

theorem EachEntry.of_prefix {past : List α} (h : EachEntry P history) (hpast : past <+: history) :
  EachEntry P past
  := by
  obtain ⟨rest, rfl⟩ := hpast
  rintro before a after rfl
  apply h before a (after ++ rest)
  rw [List.append_assoc, List.cons_append]

theorem EachEntry.mono (h : EachEntry P history) (hPQ : ∀ before a, P before a → Q before a) :
  EachEntry Q history
  := fun before a after hsplit => hPQ before a (h before a after hsplit)

end
