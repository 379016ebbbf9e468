import ZkApi.Proof.SpendChain

/-!
# The charges of a note

The chain behind a proved state has only signatures for its note.  The converse needs that
the server serves a nullifier once and that the state is not spent yet: then the chain is
all that was ever signed for the note, and the proved balance is the deposit less every
charge (`balance_add_charges`).
-/

namespace ZkApi

open Poseidon

/-- The signatures for the note with a leaf. -/
def signedFor (es : List Signing) (leaf : Fr) : List Signing :=
  es.filter fun e => e.spent.leaf = leaf

/-- What was charged to the note with a leaf. -/
def chargedTo (es : List Signing) (leaf : Fr) : ℕ :=
  ((signedFor es leaf).map fun e => e.charge.toNat).sum

variable {stateKey : EdwardsAffine} {es : List Signing} {s t u : Spend} {e : Signing}

/-- A signature fixes the nullifier of the state that it makes. -/
theorem Makes.nullifier_eq (h : Makes e t) (h' : Makes e u) :
  t.nullifier = u.nullifier
  := by
  rw [Spend.nullifier, Spend.nullifier, ← h.note.secret, ← h'.note.secret, h.anchor, h'.anchor]

/-- The first states of one note have one nullifier. -/
theorem Spend.Genesis.nullifier_eq (hs : s.Genesis) (ht : t.Genesis)
    (hsecret : s.secret = t.secret) :
  s.nullifier = t.nullifier
  := by rw [Spend.nullifier, Spend.nullifier, hs.anchor, ht.anchor, hsecret]

/-- Every state that a request of the run spends is covered by the signatures before it. -/
theorem Assumptions.justified (h : Assumptions stateKey es t) (hkey : stateKey ∈ primeSubgroup)
    (hallowed : ∀ e ∈ es, e.Allowed stateKey) :
  Provenance.Justified Spend.Genesis Signing.spent Makes es
  := by
  intro pre e hpre
  have he : e ∈ es := hpre.subset (List.mem_append_right pre (List.mem_singleton_self e))
  apply h.covered hkey hallowed ((List.prefix_append pre [e]).trans hpre)
    (spent_mem_presented he) (hallowed e he).proved (h.unforged pre e hpre)

/-- Requests with pairwise different nullifiers spend different states. -/
theorem eq_of_nullifier_eq (hallowed : ∀ e ∈ es, e.Allowed stateKey)
    (hserved : (es.map fun e => e.input.requestNullifier).Nodup) :
  ∀ e ∈ es, ∀ e' ∈ es, e.spent.nullifier = e'.spent.nullifier → e = e'
  := by
  intro e he e' he' hnullifier
  rw [(hallowed e he).nullifier, (hallowed e' he').nullifier] at hnullifier
  exact List.inj_on_of_nodup_map hserved he he' hnullifier

/-- A state that no request has spent is at the end of a chain of all signatures for its
note. -/
theorem exists_chain_signedFor (hkey : stateKey ∈ primeSubgroup)
    (hallowed : ∀ e ∈ es, e.Allowed stateKey) (hassume : Assumptions stateKey es t)
    (hserved : (es.map fun e => e.input.requestNullifier).Nodup) (ht : Proved stateKey t)
    (hunspent : ∀ e ∈ es, e.input.requestNullifier ≠ t.nullifier) :
  ∃ s, s.Genesis
    ∧ Run (Provenance.Exchange Signing.spent Makes) s (signedFor es t.leaf) t
  := by
  have hjustified := hassume.justified hkey hallowed
  have hcovered : Provenance.Covered Spend.Genesis Makes es t := by
    apply hassume.covered hkey hallowed List.prefix_rfl last_mem_presented ht
      hassume.unforged_last
  obtain ⟨s, chain, hs, hsub, hchain⟩ := Provenance.exists_run hjustified hcovered
  obtain ⟨hnotes, hnote, -⟩ := chain_accounting hs hchain
  have hchainSub : chain.Sublist (signedFor es t.leaf) := by
    have hfilter : chain.filter (fun e => e.spent.leaf = t.leaf) = chain := by
      rw [List.filter_eq_self]
      intro e he
      exact decide_eq_true (hnotes e he).leaf
    rw [← hfilter]
    exact hsub.filter _
  have hall : signedFor es t.leaf ⊆ chain := by
    intro e he
    rw [signedFor, List.mem_filter, decide_eq_true_eq] at he
    obtain ⟨he, hleaf⟩ := he
    obtain ⟨pre, post, rfl⟩ := List.append_of_mem he
    have hpre : pre ++ [e] <+: pre ++ e :: post := by
      use post
      rw [List.append_assoc, List.singleton_append]
    have hbefore := hjustified.of_prefix (List.prefix_append pre (e :: post))
    obtain ⟨s', chain', hs', hsub', hchain'⟩ :=
      Provenance.exists_run hbefore (hjustified pre e hpre)
    obtain ⟨-, hnote', -⟩ := chain_accounting hs' hchain'
    have hsame := hassume.sameNote (spent_mem_presented he) last_mem_presented hleaf
    -- both chains start at the first state of the note
    have hstart : s.nullifier = s'.nullifier := by
      apply hs.nullifier_eq hs'
      rw [hnote.secret, hnote'.secret, hsame.secret]
    have hmade : ∀ e u u', Makes e u → Makes e u' → u.nullifier = u'.nullifier :=
      fun _ _ _ => Makes.nullifier_eq
    apply Provenance.mem_of_run hmade (eq_of_nullifier_eq hallowed hserved) hchain hchain' hstart
      (fun f hf => hsub.subset hf) (fun f hf => List.mem_append_left _ (hsub'.subset hf)) _ he
    intro f hf
    rw [(hallowed f hf).nullifier]
    exact hunspent f hf
  have hnodup : (signedFor es t.leaf).Nodup := (List.Nodup.of_map _ hserved).filter _
  have hlength := (List.subperm_of_subset hnodup hall).length_le
  rw [hchainSub.eq_of_length_le hlength] at hchain
  exact ⟨s, hs, hchain⟩

/-- The balance of a state that no request has spent is the deposit less all that was charged
to its note. -/
theorem balance_add_charges (hkey : stateKey ∈ primeSubgroup)
    (hallowed : ∀ e ∈ es, e.Allowed stateKey) (hassume : Assumptions stateKey es t)
    (hserved : (es.map fun e => e.input.requestNullifier).Nodup) (ht : Proved stateKey t)
    (hunspent : ∀ e ∈ es, e.input.requestNullifier ≠ t.nullifier) :
  t.balance.toNat + chargedTo es t.leaf = t.depositAmount.toNat
  := by
  obtain ⟨s, hs, hchain⟩ :=
    exists_chain_signedFor hkey hallowed hassume hserved ht hunspent
  exact (chain_accounting hs hchain).2.2

/-! ### One signature -/

/-- The assumptions hold of the first request of a note and the state that its answer makes,
when the two states have different commitments. -/
theorem assumptions_single (hnote : e.spent.SameNote t) (hgenesis : e.spent.isGenesis = true)
    (hmessage : t.messagePreimage = e.messagePreimage) (hopening : e.opening = t.opening)
    (hne : e.spent.opening.commitment ≠ t.opening.commitment) :
  Assumptions stateKey [e] t
  := by
  have hpresented : ∀ s ∈ presented [e] t, s = e.spent ∨ s = t := by
    intro s hs
    simpa [presented] using hs
  have hsame : ∀ s ∈ presented [e] t, s.SameNote t := by
    intro s hs
    obtain rfl | rfl := hpresented s hs
    · exact hnote
    · exact Spend.SameNote.refl _
  have hopenings : ∀ o ∈ openings [e] t, o = e.spent.opening ∨ o = t.opening := by
    intro o ho
    simpa [openings, presented, hopening, or_assoc] using ho
  have hmessages : ∀ x ∈ messagePreimages [e] t, x = e.messagePreimage := by
    intro x hx
    obtain hx | hx := List.mem_append.mp hx
    · obtain ⟨s, hs, rfl⟩ := List.mem_map.mp hx
      obtain ⟨hs, hlast⟩ := List.mem_filter.mp hs
      obtain rfl | rfl := hpresented s hs
      · rw [hgenesis] at hlast
        cases hlast
      · exact hmessage
    · exact List.mem_singleton.mp hx
  constructor
  case messages =>
    intro x hx y hy _
    rw [hmessages x hx, hmessages y hy]
  case leaves =>
    rintro _ hx _ hy _
    obtain ⟨s, hs, rfl⟩ := List.mem_map.mp hx
    obtain ⟨u, hu, rfl⟩ := List.mem_map.mp hy
    have hs := hsame s hs
    have hu := hsame u hu
    rw [Spend.leafPreimage, Spend.leafPreimage, hs.secret, hs.noteId, hs.depositAmount,
      hs.expiry, hu.secret, hu.noteId, hu.depositAmount, hu.expiry]
  case registrations =>
    rintro _ hx _ hy _
    obtain ⟨s, hs, rfl⟩ := List.mem_map.mp hx
    obtain ⟨u, hu, rfl⟩ := List.mem_map.mp hy
    rw [Spend.registrationPreimage, Spend.registrationPreimage, (hsame s hs).secret,
      (hsame u hu).secret]
  case unforged =>
    intro pre f hpre hlast
    have hf : f ∈ [e] := hpre.subset (List.mem_append_right pre (List.mem_singleton_self f))
    obtain rfl := List.mem_singleton.mp hf
    rw [hgenesis] at hlast
    cases hlast
  case unforged_last =>
    intro _ _
    rw [List.map_singleton, List.mem_singleton]
    exact congrArg poseidonHash hmessage
  case binding =>
    intro o ho o' ho' h
    obtain rfl | rfl := hopenings o ho <;> obtain rfl | rfl := hopenings o' ho'
    · exact ⟨rfl, rfl, rfl⟩
    · exact absurd h hne
    · exact absurd h.symm hne
    · exact ⟨rfl, rfl, rfl⟩
  case leaves_differ =>
    intro s hs u hu _
    rw [(hsame s hs).leaf, (hsame u hu).leaf]

end ZkApi
