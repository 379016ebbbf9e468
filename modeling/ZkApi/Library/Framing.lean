import Mathlib.Data.List.Basic
import Mathlib.Data.Set.Function

/-!
# Framing

Byte strings that are put together without separators.  A frame is a label, the length of a
payload, the payload, and a trailer.  It can be taken apart again when no label is a prefix of
another and the width of what is around the payload is fixed: the length of the whole then
tells the length of the payload, whatever its encoding says.  A string of chunks of one width is
taken apart by counting.
-/

namespace Framing

variable {α β : Type}

/-- No label is a prefix of another. -/
def PrefixFree (labels : Set (List α)) : Prop :=
  ∀ l ∈ labels, ∀ l' ∈ labels, l <+: l' → l = l'

/-- A label and what follows it can be told apart. -/
theorem PrefixFree.append_inj {labels : Set (List α)} (h : PrefixFree labels)
    {l l' rest rest' : List α} (hl : l ∈ labels) (hl' : l' ∈ labels)
    (happend : l ++ rest = l' ++ rest') :
  l = l' ∧ rest = rest'
  := by
  have hsame : l = l' := by
    obtain hprefix | hprefix := List.prefix_or_prefix_of_prefix (List.prefix_append l rest)
      (happend ▸ List.prefix_append l' rest')
    · apply h l hl l' hl' hprefix
    · exact (h l' hl' l hl hprefix).symm
  rw [hsame] at happend
  exact ⟨hsame, List.append_cancel_left happend⟩

/-- A payload with its length between a label and a trailer. -/
def frame (encodeLength : ℕ → List α) (label payload trailer : List α) : List α :=
  label ++ (encodeLength payload.length ++ (payload ++ trailer))

/-- The parts of a frame can be told apart. -/
theorem frame_inj {encodeLength : ℕ → List α} {width : ℕ}
    (hwidth : ∀ n, (encodeLength n).length = width) {labels : Set (List α)}
    (hlabels : PrefixFree labels) {label label' payload payload' trailer trailer' : List α}
    (hlabel : label ∈ labels) (hlabel' : label' ∈ labels)
    (htrailer : trailer.length = trailer'.length)
    (h : frame encodeLength label payload trailer = frame encodeLength label' payload' trailer') :
  label = label' ∧ payload = payload' ∧ trailer = trailer'
  := by
  obtain ⟨hsame, hrest⟩ := hlabels.append_inj hlabel hlabel' h
  have hlength := congrArg List.length hrest
  rw [List.length_append, List.length_append, List.length_append, List.length_append, hwidth,
    hwidth, htrailer] at hlength
  have hpayload : payload.length = payload'.length := by omega
  rw [hpayload] at hrest
  have hbody := List.append_cancel_left hrest
  obtain ⟨hpayload, htrailer⟩ := List.append_inj hbody hpayload
  exact ⟨hsame, hpayload, htrailer⟩

/-! ### Chunks -/

/-- A chunk of a width, by its index. -/
def chunk (width : ℕ) (as : List α) (i : ℕ) : List α :=
  (as.drop (width * i)).take width

/-- The chunks of a string make it up. -/
theorem flatMap_chunk (width : ℕ) {as : List α} :
  ∀ {count}, as.length = width * count → (List.range count).flatMap (chunk width as) = as
  := by
  intro count h
  have htake : ∀ k, (List.range k).flatMap (chunk width as) = as.take (width * k) := by
    intro k
    induction k with
    | zero => rw [Nat.mul_zero, List.range_zero, List.take_zero, List.flatMap_nil]
    | succ k ih =>
      rw [List.range_succ, List.flatMap_append, ih, List.flatMap_singleton, chunk, Nat.mul_succ,
        List.take_add]
  rw [htake, ← h, List.take_length]

theorem length_flatMap_of_width {f : α → List β} {width : ℕ} {as : List α}
    (hwidth : ∀ a ∈ as, (f a).length = width) :
  (as.flatMap f).length = width * as.length
  := by
  induction as with
  | nil => rfl
  | cons a as ih =>
    rw [List.forall_mem_cons] at hwidth
    rw [List.flatMap_cons, List.length_append, hwidth.1, ih hwidth.2, List.length_cons,
      Nat.mul_succ, Nat.add_comm]

/-- The chunks of a string are what it was put together from. -/
theorem chunk_flatMap {f : α → List β} {width : ℕ} {as : List α}
    (hwidth : ∀ a ∈ as, (f a).length = width) {i : ℕ} (hi : i < as.length) :
  chunk width (as.flatMap f) i = f as[i]
  := by
  have hsplit : as.take i ++ as[i] :: as.drop (i + 1) = as := by
    rw [List.getElem_cons_drop, List.take_append_drop]
  have hskip : ((as.take i).flatMap f).length = width * i := by
    rw [length_flatMap_of_width fun a ha => hwidth a (List.mem_of_mem_take ha), List.length_take,
      min_eq_left hi.le]
  rw [chunk]
  conv_lhs => rw [← hsplit]
  rw [List.flatMap_append, List.flatMap_cons, List.drop_left' hskip,
    List.take_left' (hwidth _ (List.getElem_mem hi))]

/-- Chunks of one width can be told apart. -/
theorem flatMap_inj {f : α → List β} {width : ℕ} (hwidth : ∀ a, (f a).length = width)
    (hpos : 0 < width) (hf : Function.Injective f) {as as' : List α}
    (h : as.flatMap f = as'.flatMap f) :
  as = as'
  := by
  induction as generalizing as' with
  | nil =>
    cases as' with
    | nil => rfl
    | cons a' as' =>
      have hlength := congrArg List.length h
      rw [List.flatMap_nil, List.flatMap_cons, List.length_append, hwidth, List.length_nil]
        at hlength
      omega
  | cons a as ih =>
    cases as' with
    | nil =>
      have hlength := congrArg List.length h
      rw [List.flatMap_nil, List.flatMap_cons, List.length_append, hwidth, List.length_nil]
        at hlength
      omega
    | cons a' as' =>
      rw [List.flatMap_cons, List.flatMap_cons] at h
      obtain ⟨hhead, htail⟩ := List.append_inj h (by rw [hwidth, hwidth])
      rw [hf hhead, ih htail]

end Framing
