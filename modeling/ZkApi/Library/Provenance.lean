import Mathlib.Data.List.Induction
import ZkApi.Library.Run

/-!
# Provenance of issued tokens

An issuer issues tokens one after the other, each in exchange for a token that is spent.
When every token that is spent is a root or was made by an earlier issue, every such token
is at the end of a run of issues that starts at a root, in the order of issuing
(`exists_run`).
-/

namespace Provenance

variable {τ ε : Type*} (root : τ → Prop) (spent : ε → τ) (made : ε → τ → Prop)

/-- A token is a root or was made by one of the issues. -/
def Covered (es : List ε) (t : τ) : Prop :=
  root t ∨ ∃ e ∈ es, made e t

/-- The token that an issue spends is covered by the issues before it. -/
def Justified (es : List ε) : Prop :=
  ∀ pre e, pre ++ [e] <+: es → Covered root made pre (spent e)

/-- An issue leads from the token that it spends to a token that it makes. -/
def Exchange (s : τ) (e : ε) (t : τ) : Prop :=
  spent e = s ∧ made e t

variable {root spent made} {es : List ε} {e : ε} {t : τ}

/-- The first of justified issues are justified. -/
theorem Justified.of_prefix {pre : List ε} (h : Justified root spent made es)
    (hpre : pre <+: es) :
  Justified root spent made pre
  := by
  intro pre' e' hpre'
  apply h
  apply hpre'.trans hpre

/-- The issues before a justified one are justified. -/
theorem Justified.init (h : Justified root spent made (es ++ [e])) :
  Justified root spent made es
  := h.of_prefix (List.prefix_append es [e])

/-- The token that the last issue spends is covered. -/
theorem Justified.last (h : Justified root spent made (es ++ [e])) :
  Covered root made es (spent e)
  := h es e List.prefix_rfl

/-- A covered token is at the end of a run of issues that starts at a root. -/
theorem exists_run (h : Justified root spent made es) (ht : Covered root made es t) :
  ∃ s chain, root s ∧ chain.Sublist es ∧ Run (Exchange spent made) s chain t
  := by
  induction es using List.reverseRecOn generalizing t with
  | nil =>
    obtain hroot | ⟨_, hmem, _⟩ := ht
    · use t, []
      exact ⟨hroot, List.nil_sublist _, .nil⟩
    · cases hmem
  | append_singleton es e ih =>
    obtain hroot | ⟨e', hmem, hmade⟩ := ht
    · use t, []
      exact ⟨hroot, List.nil_sublist _, .nil⟩
    · obtain hearlier | rfl : e' ∈ es ∨ e' = e := by
        simpa only [List.mem_append, List.mem_singleton] using hmem
      · -- the token was made before the last issue
        obtain ⟨s, chain, hs, hsub, hrun⟩ := ih h.init (.inr ⟨e', hearlier, hmade⟩)
        use s, chain, hs
        constructor
        · apply hsub.trans (List.sublist_append_left es [e])
        · apply hrun
      · -- the last issue made it from the token it spends
        obtain ⟨s, chain, hs, hsub, hrun⟩ := ih h.init h.last
        use s, chain ++ [e'], hs
        constructor
        · apply hsub.append_right
        · exact .snoc hrun ⟨rfl, hmade⟩

/-! ### Tokens with keys

Every token has a key, and an issue fixes the key of the tokens that it makes.  When no two
issues spend tokens of one key, the runs from roots of one key are parts of a single run. -/

section

variable {κ : Type*} {key : τ → κ} {s s' t' : τ} {chain chain' : List ε}

/-- The end of a run has the key that the issues give it. -/
theorem key_of_run (hmade : ∀ e u u', made e u → made e u' → key u = key u')
    (h : Run (Exchange spent made) s chain t) (h' : Run (Exchange spent made) s' chain t')
    (hkey : key s = key s') :
  key t = key t'
  := by
  obtain rfl | ⟨chain, e, rfl⟩ := chain.eq_nil_or_concat'
  · rw [h.eq_of_nil, h'.eq_of_nil, hkey]
  · obtain ⟨_, _, hlast⟩ := h.split
    obtain ⟨_, _, hlast'⟩ := h'.split
    exact hmade e _ _ hlast.step_of_single.2 hlast'.step_of_single.2

/-- The first issue of the rest of a run spends a token with the key that the run has
reached. -/
theorem key_of_next {rest : List ε} (hmade : ∀ e u u', made e u → made e u' → key u = key u')
    (h : Run (Exchange spent made) s (chain ++ e :: rest) t)
    (h' : Run (Exchange spent made) s' chain t') (hkey : key s = key s') :
  key (spent e) = key t'
  := by
  obtain ⟨u, hu, hrest⟩ := h.split
  rw [← List.singleton_append] at hrest
  obtain ⟨_, hnext, _⟩ := hrest.split
  rw [hnext.step_of_single.1]
  exact key_of_run hmade hu h' hkey

/-- Of two runs from one key, the second is a part of the first, unless it goes on from the
key in which the first ends. -/
theorem prefix_of_run (hmade : ∀ e u u', made e u → made e u' → key u = key u')
    (hinj : ∀ e ∈ es, ∀ e' ∈ es, key (spent e) = key (spent e') → e = e')
    (h : Run (Exchange spent made) s chain t) (h' : Run (Exchange spent made) s' chain' t')
    (hkey : key s = key s') (hmem : ∀ e ∈ chain, e ∈ es) (hmem' : ∀ e ∈ chain', e ∈ es)
    (hend : ∀ e ∈ es, key (spent e) ≠ key t) :
  chain' <+: chain
  := by
  induction h' with
  | nil => exact List.nil_prefix
  | @snoc ks u _ e hrun hstep ih =>
    have he : e ∈ es := hmem' e (List.mem_append_right _ (List.mem_singleton_self e))
    obtain ⟨rest, rfl⟩ := ih fun e he => hmem' e (List.mem_append_left _ he)
    cases rest with
    | nil =>
      rw [List.append_nil] at h
      have hnext := key_of_run hmade h hrun hkey
      rw [← hstep.1] at hnext
      exact absurd hnext.symm (hend e he)
    | cons e' rest =>
      have hnext := key_of_next hmade h hrun hkey
      have he' : e' ∈ es := hmem e' (List.mem_append_right _ (List.mem_cons_self))
      rw [← hstep.1] at hnext
      obtain rfl := hinj e' he' e he hnext
      use rest
      rw [List.append_assoc, List.singleton_append]

/-- An issue that spends a token of the run's note is in the run. -/
theorem mem_of_run (hmade : ∀ e u u', made e u → made e u' → key u = key u')
    (hinj : ∀ e ∈ es, ∀ e' ∈ es, key (spent e) = key (spent e') → e = e')
    (h : Run (Exchange spent made) s chain t)
    (h' : Run (Exchange spent made) s' chain' (spent e)) (hkey : key s = key s')
    (hmem : ∀ e ∈ chain, e ∈ es) (hmem' : ∀ e ∈ chain', e ∈ es)
    (hend : ∀ e ∈ es, key (spent e) ≠ key t) (he : e ∈ es) :
  e ∈ chain
  := by
  obtain ⟨rest, rfl⟩ := prefix_of_run hmade hinj h h' hkey hmem hmem' hend
  cases rest with
  | nil =>
    rw [List.append_nil] at h
    exact absurd (key_of_run hmade h' h hkey.symm) (hend e he)
  | cons e' rest =>
    have he' : e' ∈ es := hmem e' (List.mem_append_right _ (List.mem_cons_self))
    obtain rfl := hinj e' he' e he (key_of_next hmade h h' hkey)
    exact List.mem_append_right _ (List.mem_cons_self)

end

end Provenance
