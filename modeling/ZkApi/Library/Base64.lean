import Mathlib.Data.List.Basic

/-!
# Base64

The standard alphabet, with padding.  An engine is canonical when it decodes a text exactly if
it is the encoding of some bytes, and then to these bytes.  `standard` rejects missing padding
and trailing bits that are not zero, which makes it canonical.
-/

namespace Base64

/-- A canonical engine. -/
structure Engine where
  encode : List UInt8 → String
  decode : String → Option (List UInt8)
  decode_eq_some_iff : ∀ text bytes, decode text = some bytes ↔ encode bytes = text

theorem Engine.decode_encode (engine : Engine) (bytes : List UInt8) :
  engine.decode (engine.encode bytes) = some bytes
  := (engine.decode_eq_some_iff _ _).mpr rfl

/-! ### Digits -/

/-- The alphabet. -/
def alphabet : List Char :=
  "ABCDEFGHIJKLMNOPQRSTUVWXYZabcdefghijklmnopqrstuvwxyz0123456789+/".toList

/-- The padding. -/
def pad : Char := '='

/-- The character of six bits. -/
def digit (n : ℕ) : Char :=
  alphabet.getD n pad

/-- The six bits of a character. -/
def value (c : Char) : Option ℕ :=
  (List.range 64).find? fun n => digit n = c

theorem digit_inj {m n : ℕ} (hm : m < 64) (hn : n < 64) :
  digit m = digit n ↔ m = n
  := by
  have hinj : ∀ m n : Fin 64, digit m = digit n → m = n := by decide +kernel
  constructor
  · intro h
    exact Fin.mk.inj (hinj ⟨m, hm⟩ ⟨n, hn⟩ h)
  · rintro rfl
    rfl

theorem digit_ne_pad {n : ℕ} (hn : n < 64) :
  digit n ≠ pad
  := by
  have hne : ∀ n : Fin 64, digit n ≠ pad := by decide +kernel
  exact hne ⟨n, hn⟩

theorem value_eq_some {c : Char} {n : ℕ} :
  value c = some n ↔ n < 64 ∧ digit n = c
  := by
  rw [value]
  constructor
  · intro h
    have hdigit := List.find?_some h
    exact ⟨List.mem_range.mp (List.mem_of_find?_eq_some h), of_decide_eq_true hdigit⟩
  · rintro ⟨hn, rfl⟩
    rcases h : (List.range 64).find? fun m => digit m = digit n with _ | m
    · have hnone := List.find?_eq_none.mp h n (List.mem_range.mpr hn)
      simp at hnone
    · have hm := List.mem_range.mp (List.mem_of_find?_eq_some h)
      have hdigit := List.find?_some h
      rw [(digit_inj hm hn).mp (of_decide_eq_true hdigit)]

/-! ### Groups -/

/-- The encoding of one byte. -/
def encodeOne (a : UInt8) : List Char :=
  [digit (a.toNat / 4), digit (a.toNat % 4 * 16), pad, pad]

/-- The encoding of two bytes. -/
def encodeTwo (a b : UInt8) : List Char :=
  [digit (a.toNat / 4), digit (a.toNat % 4 * 16 + b.toNat / 16), digit (b.toNat % 16 * 4), pad]

/-- The encoding of three bytes. -/
def encodeThree (a b c : UInt8) : List Char :=
  [digit (a.toNat / 4), digit (a.toNat % 4 * 16 + b.toNat / 16),
    digit (b.toNat % 16 * 4 + c.toNat / 64), digit (c.toNat % 64)]

/-- The byte of two characters, whose trailing bits are zero. -/
def decodeOne (w x : Char) : Option (List UInt8) := do
  let w ← value w
  let x ← value x
  if x % 16 = 0 then some [UInt8.ofNat (w * 4 + x / 16)] else none

/-- The bytes of three characters, whose trailing bits are zero. -/
def decodeTwo (w x y : Char) : Option (List UInt8) := do
  let w ← value w
  let x ← value x
  let y ← value y
  if y % 4 = 0 then some [UInt8.ofNat (w * 4 + x / 16), UInt8.ofNat (x % 16 * 16 + y / 4)]
  else none

/-- The bytes of four characters. -/
def decodeThree (w x y z : Char) : Option (List UInt8) := do
  let w ← value w
  let x ← value x
  let y ← value y
  let z ← value z
  return [UInt8.ofNat (w * 4 + x / 16), UInt8.ofNat (x % 16 * 16 + y / 4),
    UInt8.ofNat (y % 4 * 64 + z)]

/-- A byte has the value that it is made from. -/
theorem toNat_ofNat {n : ℕ} (hn : n < 256) :
  (UInt8.ofNat n).toNat = n
  := UInt8.toNat_ofNat_of_lt' hn

theorem ofNat_eq_iff {n : ℕ} {a : UInt8} (hn : n < 256) :
  UInt8.ofNat n = a ↔ n = a.toNat
  := by rw [← UInt8.toNat_inj, toNat_ofNat hn]

theorem decodeOne_eq_some {w x : Char} {bytes : List UInt8} :
  decodeOne w x = some bytes ↔ ∃ a, bytes = [a] ∧ encodeOne a = [w, x, pad, pad]
  := by
  simp only [decodeOne, encodeOne, bind, Option.bind_eq_some_iff, value_eq_some,
    Option.ite_none_right_eq_some, Option.some.injEq, List.cons.injEq, and_true]
  constructor
  · rintro ⟨w, ⟨hw, rfl⟩, x, ⟨hx, rfl⟩, htrailing, rfl⟩
    refine ⟨_, rfl, ?_⟩
    rw [toNat_ofNat (by omega)]
    constructor <;> congr 1 <;> omega
  · rintro ⟨a, rfl, rfl, rfl⟩
    have ha := a.toNat_lt
    refine ⟨_, ⟨by omega, rfl⟩, _, ⟨by omega, rfl⟩, by omega, ?_⟩
    rw [List.singleton_inj, ofNat_eq_iff (by omega)]
    omega

theorem decodeTwo_eq_some {w x y : Char} {bytes : List UInt8} :
  decodeTwo w x y = some bytes ↔ ∃ a b, bytes = [a, b] ∧ encodeTwo a b = [w, x, y, pad]
  := by
  simp only [decodeTwo, encodeTwo, bind, Option.bind_eq_some_iff, value_eq_some,
    Option.ite_none_right_eq_some, Option.some.injEq, List.cons.injEq, and_true]
  constructor
  · rintro ⟨w, ⟨hw, rfl⟩, x, ⟨hx, rfl⟩, y, ⟨hy, rfl⟩, htrailing, rfl⟩
    refine ⟨_, _, rfl, ?_⟩
    rw [toNat_ofNat (by omega), toNat_ofNat (by omega)]
    refine ⟨?_, ?_, ?_⟩ <;> congr 1 <;> omega
  · rintro ⟨a, b, rfl, rfl, rfl, rfl⟩
    have ha := a.toNat_lt
    have hb := b.toNat_lt
    refine ⟨_, ⟨by omega, rfl⟩, _, ⟨by omega, rfl⟩, _, ⟨by omega, rfl⟩, by omega, ?_⟩
    rw [List.cons.injEq, List.singleton_inj, ofNat_eq_iff (by omega), ofNat_eq_iff (by omega)]
    omega

theorem decodeThree_eq_some {w x y z : Char} {bytes : List UInt8} :
  decodeThree w x y z = some bytes
    ↔ ∃ a b c, bytes = [a, b, c] ∧ encodeThree a b c = [w, x, y, z]
  := by
  simp only [decodeThree, encodeThree, bind, pure, Option.bind_eq_some_iff, value_eq_some,
    Option.some.injEq, List.cons.injEq, and_true]
  constructor
  · rintro ⟨w, ⟨hw, rfl⟩, x, ⟨hx, rfl⟩, y, ⟨hy, rfl⟩, z, ⟨hz, rfl⟩, rfl⟩
    refine ⟨_, _, _, rfl, ?_⟩
    rw [toNat_ofNat (by omega), toNat_ofNat (by omega),
      toNat_ofNat (by omega)]
    refine ⟨?_, ?_, ?_, ?_⟩ <;> congr 1 <;> omega
  · rintro ⟨a, b, c, rfl, rfl, rfl, rfl, rfl⟩
    have ha := a.toNat_lt
    have hb := b.toNat_lt
    have hc := c.toNat_lt
    refine ⟨_, ⟨by omega, rfl⟩, _, ⟨by omega, rfl⟩, _, ⟨by omega, rfl⟩, _, ⟨by omega, rfl⟩, ?_⟩
    rw [List.cons.injEq, List.cons.injEq, List.singleton_inj, ofNat_eq_iff (by omega),
      ofNat_eq_iff (by omega), ofNat_eq_iff (by omega)]
    omega

/-! ### Texts -/

/-- The characters of some bytes. -/
def encodeChars : List UInt8 → List Char
  | [] => []
  | [a] => encodeOne a
  | [a, b] => encodeTwo a b
  | a :: b :: c :: rest => encodeThree a b c ++ encodeChars rest

/-- The bytes of some characters.  Only the last group can be padded. -/
def decodeChars : List Char → Option (List UInt8)
  | [] => some []
  | w :: x :: y :: z :: rest =>
    if rest = [] ∧ z = pad then
      if y = pad then decodeOne w x else decodeTwo w x y
    else do
      let head ← decodeThree w x y z
      let tail ← decodeChars rest
      return head ++ tail
  | _ => none

theorem decodeChars_encodeChars (bytes : List UInt8) :
  decodeChars (encodeChars bytes) = some bytes
  := by
  induction bytes using encodeChars.induct with
  | case1 => rw [encodeChars, decodeChars]
  | case2 a =>
    have hone := decodeOne_eq_some.mpr ⟨a, rfl, rfl⟩
    rw [encodeChars, encodeOne, decodeChars, if_pos ⟨rfl, rfl⟩, if_pos rfl, hone]
  | case3 a b =>
    have hdigit : digit (b.toNat % 16 * 4) ≠ pad := digit_ne_pad (by omega)
    have htwo := decodeTwo_eq_some.mpr ⟨a, b, rfl, rfl⟩
    rw [encodeChars, encodeTwo, decodeChars, if_pos ⟨rfl, rfl⟩, if_neg hdigit, htwo]
  | case4 a b c rest ih =>
    have hdigit : digit (c.toNat % 64) ≠ pad := digit_ne_pad (by omega)
    have hthree := decodeThree_eq_some.mpr ⟨a, b, c, rfl, rfl⟩
    rw [encodeChars, encodeThree, List.cons_append, List.cons_append, List.cons_append,
      List.cons_append, List.nil_append, decodeChars, if_neg (fun h => hdigit h.2), hthree, ih]
    rfl

theorem encodeChars_of_decodeChars {chars : List Char} {bytes : List UInt8}
    (h : decodeChars chars = some bytes) :
  encodeChars bytes = chars
  := by
  induction chars using decodeChars.induct generalizing bytes with
  | case1 =>
    obtain rfl := Option.some.inj h
    rfl
  | case2 w x z rest hlast =>
    obtain ⟨rfl, rfl⟩ := hlast
    rw [decodeChars, if_pos ⟨rfl, rfl⟩, if_pos rfl, decodeOne_eq_some] at h
    obtain ⟨a, rfl, ha⟩ := h
    rw [encodeChars, ha]
  | case3 w x y z rest hlast hy =>
    obtain ⟨rfl, rfl⟩ := hlast
    rw [decodeChars, if_pos ⟨rfl, rfl⟩, if_neg hy, decodeTwo_eq_some] at h
    obtain ⟨a, b, rfl, hab⟩ := h
    rw [encodeChars, hab]
  | case4 w x y z rest hlast ih =>
    rw [decodeChars, if_neg hlast] at h
    obtain ⟨head, hhead, h⟩ := Option.bind_eq_some_iff.mp h
    obtain ⟨tail, htail, h⟩ := Option.bind_eq_some_iff.mp h
    obtain rfl := Option.some.inj h
    obtain ⟨a, b, c, rfl, habc⟩ := decodeThree_eq_some.mp hhead
    have hsplit : encodeChars ([a, b, c] ++ tail) = encodeThree a b c ++ encodeChars tail := rfl
    rw [hsplit, habc, ih htail]
    rfl
  | case5 chars hnil hcons =>
    rw [decodeChars] at h
    · cases h
    · exact hnil
    · exact hcons

/-- The standard engine. -/
def standard : Engine where
  encode bytes := .ofList (encodeChars bytes)
  decode text := decodeChars text.toList
  decode_eq_some_iff text bytes := by
    constructor
    · intro h
      rw [encodeChars_of_decodeChars h, String.ofList_toList]
    · rintro rfl
      rw [String.toList_ofList, decodeChars_encodeChars]

end Base64
