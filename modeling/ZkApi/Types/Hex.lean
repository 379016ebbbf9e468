import ZkApi.Types.Felt252

/-!
# The strings that are read as field elements

`from_hex_checked` pads a string by characters and then reads it in slices of two bytes, each
as a number with an optional sign.  On strings of hexadecimal digits this reads the number that
they spell.  On other strings it can also panic, where a slice cuts a character, and it can
read a sign or a second prefix.  These are its only faults (`from_hex_exact_iff`).
-/

namespace ZkApi.Felt252

/-! ### The bytes of a character -/

/-- A byte that is not the first of a character. -/
def Continues (byte : UInt8) : Prop :=
  128 ≤ byte ∧ byte < 192

instance (byte : UInt8) : Decidable (Continues byte) :=
  inferInstanceAs (Decidable (_ ∧ _))

theorem continues_of_mod (n : ℕ) :
  Continues (UInt8.ofNat (n % 64 + 128))
  := by
  have hall : ∀ m < 64, Continues (UInt8.ofNat (m + 128)) := by decide
  apply hall _ (Nat.mod_lt _ (by norm_num))

/-- A character is a first byte and one continuation byte less than its size.  The first byte
is below 128 for a character of one byte only. -/
theorem utf8EncodeChar_eq_cons (c : Char) :
  ∃ first rest, String.utf8EncodeChar c = first :: rest ∧ rest.length + 1 = c.utf8Size
    ∧ ¬ Continues first ∧ (∀ byte ∈ rest, Continues byte)
    ∧ (rest = [] → first = UInt8.ofNat c.toNat ∧ c.toNat < 128)
    ∧ (rest ≠ [] → 192 ≤ first ∧ 128 ≤ c.toNat)
  := by
  have hlength := String.length_utf8EncodeChar c
  have hone : ∀ m ≤ 127, ¬ Continues (UInt8.ofNat m) := by decide
  have hlead : ∀ m < 32, 192 ≤ UInt8.ofNat (m + 192) ∧ ¬ Continues (UInt8.ofNat (m + 192)) := by
    decide
  have hlead' : ∀ m < 16, 192 ≤ UInt8.ofNat (m + 224) ∧ ¬ Continues (UInt8.ofNat (m + 224)) := by
    decide
  have hlead'' : ∀ m < 8, 192 ≤ UInt8.ofNat (m + 240) ∧ ¬ Continues (UInt8.ofNat (m + 240)) := by
    decide
  revert hlength
  fun_cases String.utf8EncodeChar c with
  | case1 v h =>
    intro hlength
    refine ⟨_, _, rfl, hlength, hone _ h, by simp, fun _ => ⟨rfl, ?_⟩, absurd rfl⟩
    apply Nat.lt_succ_of_le h
  | case2 v h h' =>
    intro hlength
    obtain ⟨hge, hfirst⟩ := hlead _ (Nat.mod_lt (v / 64) (by norm_num))
    refine ⟨_, _, rfl, hlength, hfirst, ?_, nofun, fun _ => ⟨hge, not_le.mp h⟩⟩
    simp only [List.forall_mem_singleton]
    apply continues_of_mod
  | case3 v h h' h'' =>
    intro hlength
    obtain ⟨hge, hfirst⟩ := hlead' _ (Nat.mod_lt (v / 4096) (by norm_num))
    refine ⟨_, _, rfl, hlength, hfirst, ?_, nofun, fun _ => ⟨hge, not_le.mp h⟩⟩
    simp only [List.forall_mem_cons, List.not_mem_nil, false_imp_iff, implies_true, and_true]
    exact ⟨continues_of_mod _, continues_of_mod _⟩
  | case4 v h h' h'' =>
    intro hlength
    obtain ⟨hge, hfirst⟩ := hlead'' _ (Nat.mod_lt (v / 262144) (by norm_num))
    refine ⟨_, _, rfl, hlength, hfirst, ?_, nofun, fun _ => ⟨hge, not_le.mp h⟩⟩
    simp only [List.forall_mem_cons, List.not_mem_nil, false_imp_iff, implies_true, and_true]
    exact ⟨continues_of_mod _, continues_of_mod _, continues_of_mod _⟩

/-! ### Hexadecimal digits -/

/-- The value of a hexadecimal digit. -/
def hexValue (c : Char) : Option ℕ :=
  if '0' ≤ c ∧ c ≤ '9' then some (c.toNat - 48)
  else if 'a' ≤ c ∧ c ≤ 'f' then some (c.toNat - 87)
  else if 'A' ≤ c ∧ c ≤ 'F' then some (c.toNat - 55)
  else none

/-- The value of two characters that are read as one byte: two digits, or a sign and one. -/
def pairValue (pair : Char × Char) : Option ℕ :=
  if pair.1 = '+' then hexValue pair.2
  else (hexValue pair.1).bind fun high => (hexValue pair.2).map fun low => high * 16 + low

theorem toNat_lt_of_hexValue {c : Char} {v : ℕ} (h : hexValue c = some v) :
  c.toNat < 128 ∧ v < 16
  := by
  have hle : ∀ a b : Char, a ≤ b → a.toNat ≤ b.toNat := fun _ _ h => h
  rw [hexValue] at h
  split at h
  case isTrue hc =>
    have hlo := hle _ _ hc.1
    have hhi := hle _ _ hc.2
    obtain rfl := Option.some.inj h
    simp only [Char.reduceToNat] at hlo hhi
    omega
  case isFalse =>
    split at h
    case isTrue hc =>
      have hlo := hle _ _ hc.1
      have hhi := hle _ _ hc.2
      obtain rfl := Option.some.inj h
      simp only [Char.reduceToNat] at hlo hhi
      omega
    case isFalse =>
      split at h
      case isTrue hc =>
        have hlo := hle _ _ hc.1
        have hhi := hle _ _ hc.2
        obtain rfl := Option.some.inj h
        simp only [Char.reduceToNat] at hlo hhi
        omega
      case isFalse => cases h

/-- Digits and signs are characters of one byte. -/
theorem lt_of_pairValue {pair : Char × Char} {v : ℕ} (h : pairValue pair = some v) :
  pair.1.toNat < 128 ∧ pair.2.toNat < 128
  := by
  rw [pairValue] at h
  split at h
  case isTrue hsign =>
    rw [hsign]
    exact ⟨by decide, (toNat_lt_of_hexValue h).1⟩
  case isFalse =>
    obtain ⟨high, hhigh, hlow⟩ := Option.bind_eq_some_iff.mp h
    obtain ⟨low, hlow, _⟩ := Option.map_eq_some_iff.mp hlow
    exact ⟨(toNat_lt_of_hexValue hhigh).1, (toNat_lt_of_hexValue hlow).1⟩

theorem pairValue_of_le {pair : Char × Char} (h : 128 ≤ pair.1.toNat) :
  pairValue pair = none
  := by
  cases hv : pairValue pair with
  | none => rfl
  | some v =>
    have hlt := (lt_of_pairValue hv).1
    omega

/-- A byte of one character is read as the digit that the character is. -/
theorem toDigit16_ofNat {c : Char} (h : c.toNat < 128) :
  toDigit16 (UInt8.ofNat c.toNat) = hexValue c
  := by
  have hall : ∀ n < 128, toDigit16 (UInt8.ofNat n) = hexValue (Char.ofNat n) := by
    decide +kernel
  rw [hall _ h, Char.ofNat_toNat]

/-- What is read from two bytes. -/
theorem fromStrRadix16_pair {a b : Char} (ha : a.toNat < 128) (hb : b.toNat < 128) :
  fromStrRadix16 [UInt8.ofNat a.toNat, UInt8.ofNat b.toNat] = pairValue (a, b)
  := by
  have hsign : UInt8.ofNat a.toNat = 43 ↔ a = '+' := by
    have hall : ∀ n < 128, UInt8.ofNat n = 43 ↔ Char.ofNat n = '+' := by decide +kernel
    rw [hall _ ha, Char.ofNat_toNat]
  have hread : fromStrRadix16 [UInt8.ofNat a.toNat, UInt8.ofNat b.toNat]
      = if UInt8.ofNat a.toNat = 43 then digits16 [UInt8.ofNat b.toNat]
        else digits16 [UInt8.ofNat a.toNat, UInt8.ofNat b.toNat] := rfl
  rw [hread, pairValue]
  split
  case isTrue h =>
    rw [if_pos (hsign.mp h), digits16, List.foldlM_cons, toDigit16_ofNat hb]
    cases hv : hexValue b with
    | none => rfl
    | some v =>
      have hlt := (toNat_lt_of_hexValue hv).2
      simp only [Option.bind_some, Option.bind_eq_bind, zero_mul, zero_add,
        if_pos (hlt.trans (by norm_num : 16 < 256))]
      rfl
  case isFalse h =>
    rw [if_neg (mt hsign.mpr h), digits16, List.foldlM_cons, toDigit16_ofNat ha]
    cases hu : hexValue a with
    | none => rfl
    | some u =>
      have hltu := (toNat_lt_of_hexValue hu).2
      simp only [Option.bind_some, Option.bind_eq_bind, zero_mul, zero_add,
        if_pos (hltu.trans (by norm_num : 16 < 256)), List.foldlM_cons, List.foldlM_nil,
        toDigit16_ofNat hb]
      cases hv : hexValue b with
      | none => rfl
      | some v =>
        have hltv := (toNat_lt_of_hexValue hv).2
        have hlt : u * 16 + v < 256 := by omega
        simp only [Option.bind_some, if_pos hlt, Option.map_some]
        rfl

/-- Only bytes of characters of one byte are read. -/
theorem lt_of_fromStrRadix16 {x y : UInt8} {v : ℕ} (h : fromStrRadix16 [x, y] = some v) :
  x < 128 ∧ y < 128
  := by
  have hall : ∀ n < 256, toDigit16 (UInt8.ofNat n) ≠ none → UInt8.ofNat n < 128 := by
    decide +kernel
  have hdigit : ∀ byte : UInt8, toDigit16 byte ≠ none → byte < 128 := by
    intro byte hbyte
    rw [← UInt8.ofNat_toNat (x := byte)] at hbyte ⊢
    apply hall _ byte.toNat_lt hbyte
  have hread : fromStrRadix16 [x, y] = if x = 43 then digits16 [y] else digits16 [x, y] := rfl
  rw [hread] at h
  split at h
  case isTrue hsign =>
    rw [hsign]
    refine ⟨by decide, hdigit y ?_⟩
    intro hnone
    rw [digits16, List.foldlM_cons, hnone] at h
    cases h
  case isFalse =>
    rw [digits16, List.foldlM_cons] at h
    obtain ⟨w, hw, h⟩ := Option.bind_eq_some_iff.mp h
    rw [List.foldlM_cons] at h
    constructor
    · apply hdigit x
      intro hnone
      rw [hnone] at hw
      cases hw
    · apply hdigit y
      intro hnone
      rw [hnone] at h
      cases h

/-! ### Pairs of characters -/

/-- The slice of two bytes at a pair of characters ends inside of one of them. -/
def Cuts (pair : Char × Char) : Prop :=
  3 ≤ pair.1.utf8Size ∨ (pair.1.utf8Size = 1 ∧ 2 ≤ pair.2.utf8Size)

instance (pair : Char × Char) : Decidable (Cuts pair) :=
  inferInstanceAs (Decidable (_ ∨ _))

/-- What the parser makes of a pair of characters. -/
def readPair (pair : Char × Char) : Except Failure ℕ :=
  if Cuts pair then
    .error .panic
  else
    match pairValue pair with
    | none => .error (.message "invalid hex: invalid digit found in string")
    | some byte => .ok byte

theorem isCharBoundary_append (bytes rest : List UInt8) (k : ℕ) :
  isCharBoundary (bytes ++ rest) (bytes.length + k) = isCharBoundary rest k
  := by
  rw [isCharBoundary, isCharBoundary, List.getElem?_append_right (Nat.le_add_right _ _),
    Nat.add_sub_cancel_left, List.length_append]
  cases rest[k]? with
  | none => simp
  | some byte => rfl

theorem isCharBoundary_of_getElem? {bytes : List UInt8} {i : ℕ} {byte : UInt8}
    (h : bytes[i]? = some byte) :
  isCharBoundary bytes i = !decide (Continues byte)
  := by
  have hand : decide (Continues byte) = (decide (128 ≤ byte) && decide (byte < 192)) :=
    Bool.decide_and ..
  rw [hand, isCharBoundary, h]

/-- The first byte of a string is the first of a character. -/
theorem isCharBoundary_utf8 (cs : List Char) :
  isCharBoundary (utf8 cs) 0 = true
  := by
  cases cs with
  | nil => rfl
  | cons c cs =>
    obtain ⟨first, rest, hc, _, hfirst, _⟩ := utf8EncodeChar_eq_cons c
    rw [utf8, List.flatMap_cons, hc, List.cons_append, isCharBoundary_of_getElem? rfl]
    simp [hfirst]

/-- The parser reads the pair of characters that stands at its index. -/
theorem parseByte_pair {bytes : List UInt8} {i : ℕ} (hi : bytes.length = i * 2) (a b : Char)
    (cs : List Char) :
  parseByte (bytes ++ utf8 (a :: b :: cs)) i = readPair (a, b)
  := by
  obtain ⟨fa, ra, ha, hsizea, hfa, hra, honea, hmorea⟩ := utf8EncodeChar_eq_cons a
  obtain ⟨fb, rb, hb, hsizeb, hfb, hrb, honeb, hmoreb⟩ := utf8EncodeChar_eq_cons b
  have hutf8 : utf8 (a :: b :: cs) = fa :: (ra ++ fb :: (rb ++ utf8 cs)) := by
    rw [utf8, List.flatMap_cons, List.flatMap_cons, ha, hb]
    rfl
  have hcuts : Cuts (a, b) ↔ 3 ≤ a.utf8Size ∨ (a.utf8Size = 1 ∧ 2 ≤ b.utf8Size) := Iff.rfl
  have hstart : isCharBoundary (bytes ++ utf8 (a :: b :: cs)) (i * 2) = true := by
    rw [← hi, ← Nat.add_zero bytes.length, isCharBoundary_append, isCharBoundary_utf8]
  have hend : isCharBoundary (bytes ++ utf8 (a :: b :: cs)) (i * 2 + 2)
      = isCharBoundary (fa :: (ra ++ fb :: (rb ++ utf8 cs))) 2 := by
    rw [← hi, isCharBoundary_append, hutf8]
  have hslice : ((bytes ++ utf8 (a :: b :: cs)).drop (i * 2)).take 2
      = (fa :: (ra ++ fb :: (rb ++ utf8 cs))).take 2 := by
    rw [← hi, List.drop_left, hutf8]
  -- a slice that does not end at a boundary is cut
  have hcut : isCharBoundary (fa :: (ra ++ fb :: (rb ++ utf8 cs))) 2 = false → Cuts (a, b) →
      parseByte (bytes ++ utf8 (a :: b :: cs)) i = readPair (a, b) := by
    intro hfalse hcuts
    rw [parseByte, slice2, hstart, hend, hfalse, readPair, if_pos hcuts]
    rfl
  have hread : isCharBoundary (fa :: (ra ++ fb :: (rb ++ utf8 cs))) 2 = true → ¬ Cuts (a, b) →
      fromStrRadix16 ((fa :: (ra ++ fb :: (rb ++ utf8 cs))).take 2) = pairValue (a, b) →
      parseByte (bytes ++ utf8 (a :: b :: cs)) i = readPair (a, b) := by
    intro htrue hcuts hvalue
    rw [parseByte, slice2, hstart, hend, htrue, hslice, readPair, if_neg hcuts, ← hvalue]
    rfl
  obtain _ | ⟨x, _ | ⟨y, ra⟩⟩ := ra
  · -- the first character is one byte, and the slice goes on into the second
    obtain _ | ⟨y, rb⟩ := rb
    · obtain ⟨rfl, hlta⟩ := honea rfl
      obtain ⟨rfl, hltb⟩ := honeb rfl
      apply hread
      · apply (isCharBoundary_append [_, _] (utf8 cs) 0).trans (isCharBoundary_utf8 cs)
      · rw [List.length_nil] at hsizea hsizeb
        rw [hcuts]
        omega
      · apply fromStrRadix16_pair hlta hltb
    · apply hcut
      · rw [@isCharBoundary_of_getElem? _ _ y rfl,
          decide_eq_true (hrb y List.mem_cons_self), Bool.not_true]
      · rw [List.length_nil] at hsizea
        rw [List.length_cons] at hsizeb
        rw [hcuts]
        omega
  · -- the first character is the slice
    obtain ⟨hge, hle⟩ := hmorea (List.cons_ne_nil _ _)
    apply hread
    · rw [@isCharBoundary_of_getElem? _ _ fb rfl, decide_eq_false hfb, Bool.not_false]
    · rw [List.length_singleton] at hsizea
      rw [hcuts]
      omega
    · rw [pairValue_of_le hle]
      cases hv : fromStrRadix16 ((fa :: ([x] ++ fb :: (rb ++ utf8 cs))).take 2) with
      | none => rfl
      | some v =>
        have hlt := (lt_of_fromStrRadix16 hv).1
        exact absurd (UInt8.lt_of_le_of_lt hge hlt) (by decide)
  · -- the first character is cut
    apply hcut
    · rw [@isCharBoundary_of_getElem? _ _ y rfl,
        decide_eq_true (hra y (List.mem_cons_of_mem _ List.mem_cons_self)), Bool.not_true]
    · rw [List.length_cons, List.length_cons] at hsizea
      rw [hcuts]
      omega

/-! ### The whole string -/

/-- The characters of a list in pairs. -/
def pairs : List Char → List (Char × Char)
  | a :: b :: cs => (a, b) :: pairs cs
  | _ => []

theorem utf8_append (cs ds : List Char) :
  utf8 (cs ++ ds) = utf8 cs ++ utf8 ds
  := List.flatMap_append

/-- Characters that are read as bytes are of one byte each. -/
theorem length_utf8_pair {a b : Char} {v : ℕ} (h : readPair (a, b) = .ok v) :
  (utf8 [a, b]).length = 2
  := by
  obtain ⟨fa, ra, ha, hsizea, _, _, _, hmorea⟩ := utf8EncodeChar_eq_cons a
  obtain ⟨fb, rb, hb, hsizeb, _, _, _, hmoreb⟩ := utf8EncodeChar_eq_cons b
  rw [readPair] at h
  split at h
  case isTrue => cases h
  case isFalse hcuts =>
    have hra : ra = [] := by
      by_contra hne
      rw [@pairValue_of_le (a, b) (hmorea hne).2] at h
      cases h
    have hcuts : ¬ (3 ≤ a.utf8Size ∨ (a.utf8Size = 1 ∧ 2 ≤ b.utf8Size)) := hcuts
    rw [hra, List.length_nil] at hsizea
    rw [utf8, List.flatMap_cons, List.flatMap_singleton, ha, hb, hra, List.length_append,
      List.length_singleton, List.length_cons]
    omega

/-- The parser reads the string by pairs of characters, until one of them is not read. -/
theorem mapM_parseByte_pairs (bytes : List UInt8) (i n : ℕ) (cs : List Char)
    (hbytes : bytes.length = i * 2) (hcs : cs.length = n * 2) :
  (List.range' i n).mapM (parseByte (bytes ++ utf8 cs)) = (pairs cs).mapM readPair
  := by
  induction n generalizing bytes i cs with
  | zero =>
    obtain rfl := List.eq_nil_of_length_eq_zero (hcs.trans (Nat.zero_mul 2))
    rfl
  | succ n ih =>
    obtain _ | ⟨a, _ | ⟨b, cs⟩⟩ := cs
    · rw [List.length_nil] at hcs
      omega
    · rw [List.length_singleton] at hcs
      omega
    · rw [List.range'_succ, pairs, List.mapM_cons, List.mapM_cons, parseByte_pair hbytes]
      cases hread : readPair (a, b) with
      | error e => rfl
      | ok v =>
        have hpair := length_utf8_pair hread
        have hsplit : bytes ++ utf8 (a :: b :: cs) = (bytes ++ utf8 [a, b]) ++ utf8 cs := by
          rw [List.append_assoc, ← utf8_append]
          rfl
        have hrest := ih (bytes ++ utf8 [a, b]) (i + 1) cs
          (by rw [List.length_append, hbytes, hpair]; ring)
          (by rw [List.length_cons, List.length_cons] at hcs; omega)
        rw [hsplit, hrest]

/-- A pair that has a value is not cut. -/
theorem not_cuts_of_pairValue {pair : Char × Char} {v : ℕ} (h : pairValue pair = some v) :
  ¬ Cuts pair
  := by
  have hsize : ∀ c : Char, c.toNat < 128 → c.utf8Size = 1 := by
    intro c hc
    rw [Char.utf8Size_eq_one_iff]
    apply Nat.le_of_lt_succ hc
  obtain ⟨hfirst, hsecond⟩ := lt_of_pairValue h
  rw [Cuts, hsize _ hfirst, hsize _ hsecond]
  decide

theorem readPair_eq_ok {pair : Char × Char} {v : ℕ} :
  readPair pair = .ok v ↔ pairValue pair = some v
  := by
  rw [readPair]
  constructor
  · intro h
    split at h
    case isTrue => cases h
    case isFalse =>
      cases hv : pairValue pair with
      | none =>
        rw [hv] at h
        cases h
      | some w =>
        rw [hv] at h
        rw [Except.ok.inj h]
  · intro h
    rw [if_neg (not_cuts_of_pairValue h), h]

theorem readPair_eq_panic {pair : Char × Char} :
  readPair pair = .error .panic ↔ Cuts pair
  := by
  rw [readPair]
  constructor
  · intro h
    by_contra hcuts
    rw [if_neg hcuts] at h
    split at h
    · cases h
    · cases h
  · intro h
    rw [if_pos h]

/-- The number that pairs of characters are read as. -/
def pairsNumber (ps : List (Char × Char)) : ℕ :=
  Digits.ofDigits 256 (ps.map fun pair => (pairValue pair).getD 0)

theorem mapM_readPair_eq_ok {ps : List (Char × Char)} {vs : List ℕ} :
  ps.mapM readPair = .ok vs
    ↔ (∀ pair ∈ ps, (pairValue pair).isSome = true)
      ∧ vs = ps.map fun pair => (pairValue pair).getD 0
  := by
  induction ps generalizing vs with
  | nil =>
    constructor
    · intro h
      exact ⟨fun _ hpair => absurd hpair List.not_mem_nil, (Except.ok.inj h).symm⟩
    · rintro ⟨_, rfl⟩
      rfl
  | cons pair ps ih =>
    rw [List.mapM_cons, bind_eq_ok, List.forall_mem_cons, List.map_cons]
    constructor
    · rintro ⟨v, hv, h⟩
      obtain ⟨ws, hws, h⟩ := bind_eq_ok.mp h
      obtain rfl := Except.ok.inj h
      obtain ⟨hall, rfl⟩ := ih.mp hws
      rw [readPair_eq_ok] at hv
      rw [hv]
      exact ⟨⟨rfl, hall⟩, rfl⟩
    · rintro ⟨⟨hpair, hall⟩, rfl⟩
      obtain ⟨v, hv⟩ := Option.isSome_iff_exists.mp hpair
      refine ⟨v, readPair_eq_ok.mpr hv, bind_eq_ok.mpr ⟨_, ih.mpr ⟨hall, rfl⟩, ?_⟩⟩
      rw [hv]
      rfl

/-- Reading panics at a pair that is cut, when all pairs before it are read. -/
theorem mapM_readPair_eq_panic {ps : List (Char × Char)} :
  ps.mapM readPair = .error .panic
    ↔ ∃ before pair after, ps = before ++ pair :: after
      ∧ (∀ q ∈ before, (pairValue q).isSome = true) ∧ Cuts pair
  := by
  induction ps with
  | nil =>
    constructor
    · intro h
      cases h
    · rintro ⟨before, pair, after, h, _⟩
      cases before <;> cases h
  | cons p ps ih =>
    rw [List.mapM_cons]
    constructor
    · intro h
      cases hp : readPair p with
      | error e =>
        rw [hp] at h
        obtain rfl := Except.error.inj h
        exact ⟨[], p, ps, rfl, fun _ hq => absurd hq List.not_mem_nil, readPair_eq_panic.mp hp⟩
      | ok v =>
        rw [hp] at h
        have hps : ps.mapM readPair = .error .panic := by
          cases hps : ps.mapM readPair with
          | error e =>
            rw [hps] at h
            exact h
          | ok vs =>
            rw [hps] at h
            cases h
        obtain ⟨before, pair, after, rfl, hbefore, hcuts⟩ := ih.mp hps
        refine ⟨p :: before, pair, after, rfl, ?_, hcuts⟩
        rw [List.forall_mem_cons, readPair_eq_ok.mp hp]
        exact ⟨rfl, hbefore⟩
    · rintro ⟨before, pair, after, h, hbefore, hcuts⟩
      cases before with
      | nil =>
        obtain ⟨rfl, rfl⟩ := List.cons.inj h
        rw [readPair_eq_panic.mpr hcuts]
        rfl
      | cons q before =>
        obtain ⟨rfl, rfl⟩ := List.cons.inj h
        rw [List.forall_mem_cons] at hbefore
        obtain ⟨v, hv⟩ := Option.isSome_iff_exists.mp hbefore.1
        rw [readPair_eq_ok.mpr hv, ih.mpr ⟨before, pair, after, rfl, hbefore.2, hcuts⟩]
        rfl

/-! ### What the parser returns -/

/-- The characters that are left after the two prefixes are taken off. -/
def stripped (s : String) : List Char :=
  stripPrefix ['0', 'X'] (stripPrefix ['0', 'x'] s.toList)

/-- The pairs of characters that are read, after padding. -/
def readPairs (s : String) : List (Char × Char) :=
  pairs (List.leftpad 64 '0' (stripped s))

theorem length_le_utf8 (cs : List Char) :
  cs.length ≤ (utf8 cs).length
  := by
  induction cs with
  | nil => rfl
  | cons c cs ih =>
    obtain ⟨first, rest, hc, _⟩ := utf8EncodeChar_eq_cons c
    rw [utf8, List.flatMap_cons, hc, List.length_append, List.length_cons, List.length_cons]
    rw [utf8] at ih
    omega

theorem fromHexChecked_of_le {s : String} (h : (utf8 (stripped s)).length ≤ 64) :
  fromHexChecked s = (readPairs s).mapM readPair >>= tryFromBytesBe
  := by
  have hle := (length_le_utf8 (stripped s)).trans h
  have hlength : (List.leftpad 64 '0' (stripped s)).length = 32 * 2 := by
    rw [List.leftpad, List.length_append, List.length_replicate]
    omega
  have hread := mapM_parseByte_pairs [] 0 32 _ rfl hlength
  rw [List.nil_append, ← List.range_eq_range'] at hread
  have hshort : ¬ 64 < (utf8 (stripped s)).length := not_lt.mpr h
  rw [stripped] at hshort
  rw [readPairs, ← hread, fromHexChecked, stripped]
  simp only [if_neg hshort]

theorem fromHexChecked_of_lt {s : String} (h : 64 < (utf8 (stripped s)).length) :
  fromHexChecked s = .error (.message "hex string too long for felt252")
  := by
  rw [stripped] at h
  rw [fromHexChecked]
  simp only [if_pos h]
  rfl

/-- All pairs of a string are read, as a number below the modulus. -/
structure Reads (s : String) : Prop where
  length_le : (utf8 (stripped s)).length ≤ 64
  read : ∀ pair ∈ readPairs s, (pairValue pair).isSome = true
  lt : pairsNumber (readPairs s) < fieldModulus

theorem fromHexChecked_eq_ok {s : String} {f : Felt252} :
  fromHexChecked s = .ok f ↔ Reads s ∧ f.toNat = pairsNumber (readPairs s)
  := by
  have hp : fieldModulus < 2 ^ 256 := by norm_num [fieldModulus]
  obtain hle | hlt := (Nat.lt_or_ge 64 (utf8 (stripped s)).length).symm
  · rw [fromHexChecked_of_le hle, bind_eq_ok]
    constructor
    · rintro ⟨bytes, hbytes, h⟩
      obtain ⟨hread, rfl⟩ := mapM_readPair_eq_ok.mp hbytes
      rw [tryFromBytesBe] at h
      split at h
      case isTrue => cases h
      case isFalse hlt =>
        obtain rfl := Except.ok.inj h
        refine ⟨⟨hle, hread, not_le.mp hlt⟩, ?_⟩
        rw [BitVec.toNat_ofNat]
        apply Nat.mod_eq_of_lt ((not_le.mp hlt).trans hp)
    · rintro ⟨⟨_, hread, hlt⟩, hf⟩
      refine ⟨_, mapM_readPair_eq_ok.mpr ⟨hread, rfl⟩, ?_⟩
      rw [tryFromBytesBe, ← pairsNumber, if_neg (not_le.mpr hlt)]
      congr 1
      apply BitVec.eq_of_toNat_eq
      rw [hf, BitVec.toNat_ofNat]
      apply Nat.mod_eq_of_lt (hlt.trans hp)
  · rw [fromHexChecked_of_lt hlt]
    constructor
    · intro h
      cases h
    · rintro ⟨⟨hle, _⟩, _⟩
      omega

/-- A slice cuts a character, and all slices before it are read. -/
structure CutsCharacter (s : String) : Prop where
  length_le : (utf8 (stripped s)).length ≤ 64
  cut : ∃ before pair after, readPairs s = before ++ pair :: after
    ∧ (∀ q ∈ before, (pairValue q).isSome = true) ∧ Cuts pair

theorem fromHexChecked_eq_panic {s : String} :
  fromHexChecked s = .error .panic ↔ CutsCharacter s
  := by
  obtain hle | hlt := (Nat.lt_or_ge 64 (utf8 (stripped s)).length).symm
  · have hbytes : ∀ bytes, tryFromBytesBe bytes ≠ .error .panic := by
      intro bytes h
      rw [tryFromBytesBe] at h
      split at h
      · cases h
      · cases h
    rw [fromHexChecked_of_le hle]
    constructor
    · intro h
      refine ⟨hle, mapM_readPair_eq_panic.mp ?_⟩
      cases hread : (readPairs s).mapM readPair with
      | error e =>
        rw [hread] at h
        rw [Except.error.inj h]
      | ok bytes =>
        rw [hread] at h
        exact absurd h (hbytes bytes)
    · rintro ⟨_, hcut⟩
      rw [mapM_readPair_eq_panic.mpr hcut]
      rfl
  · rw [fromHexChecked_of_lt hlt]
    constructor
    · intro h
      cases h
    · rintro ⟨hle, _⟩
      omega

/-! ### The strings that spell an element -/

/-- The number that hexadecimal digits stand for. -/
def hexNumber (digits : List Char) : ℕ :=
  Digits.ofDigits 16 (digits.map fun c => (hexValue c).getD 0)

/-- A string spells an element: after at most one prefix it has at most 64 hexadecimal digits,
which stand for the element, a number below the modulus. -/
structure Spells (s : String) (f : Felt252) (digits : List Char) : Prop where
  layout : s.toList = digits ∨ s.toList = '0' :: 'x' :: digits ∨ s.toList = '0' :: 'X' :: digits
  length_le : digits.length ≤ 64
  digit : ∀ c ∈ digits, (hexValue c).isSome = true
  lt : hexNumber digits < fieldModulus
  value : f.toNat = hexNumber digits

/-- A string is read although it does not spell an element: a pair has a sign, or there are
two prefixes. -/
def Loose (s : String) : Prop :=
  (∃ pair ∈ readPairs s, pair.1 = '+') ∨ ['0', 'x', '0', 'X'] <+: s.toList

/-- Digits in pairs stand for the number that they stand for one by one. -/
theorem foldl_pairs (n x : ℕ) (cs : List Char) (hcs : cs.length = n * 2)
    (hdigit : ∀ c ∈ cs, (hexValue c).isSome = true) :
  ((pairs cs).map fun pair => (pairValue pair).getD 0).foldl (fun x d => x * 256 + d) x
    = (cs.map fun c => (hexValue c).getD 0).foldl (fun x d => x * 16 + d) x
  := by
  induction n generalizing x cs with
  | zero =>
    obtain rfl := List.eq_nil_of_length_eq_zero (hcs.trans (Nat.zero_mul 2))
    rfl
  | succ n ih =>
    obtain _ | ⟨a, _ | ⟨b, cs⟩⟩ := cs
    · rfl
    · rw [List.length_singleton] at hcs
      omega
    · rw [List.forall_mem_cons, List.forall_mem_cons] at hdigit
      obtain ⟨ha, hb, hdigit⟩ := hdigit
      obtain ⟨u, hu⟩ := Option.isSome_iff_exists.mp ha
      obtain ⟨v, hv⟩ := Option.isSome_iff_exists.mp hb
      have hvalue : pairValue (a, b) = some (u * 16 + v) := by
        have hsign : a ≠ '+' := by
          rintro rfl
          cases hu
        rw [pairValue, if_neg hsign, hu, hv]
        rfl
      rw [List.length_cons, List.length_cons] at hcs
      rw [pairs, List.map_cons, List.foldl_cons, ih _ cs (by omega) hdigit, List.map_cons,
        List.map_cons, List.foldl_cons, List.foldl_cons, hvalue, hu, hv]
      simp only [Option.getD_some]
      congr 1
      ring

/-- The pairs of a string are read without a sign exactly when all characters are digits. -/
theorem forall_pairs_iff (n : ℕ) (cs : List Char) (hcs : cs.length = n * 2) :
  (∀ pair ∈ pairs cs, (pairValue pair).isSome = true ∧ pair.1 ≠ '+')
    ↔ ∀ c ∈ cs, (hexValue c).isSome = true
  := by
  induction n generalizing cs with
  | zero =>
    obtain rfl := List.eq_nil_of_length_eq_zero (hcs.trans (Nat.zero_mul 2))
    simp [pairs]
  | succ n ih =>
    obtain _ | ⟨a, _ | ⟨b, cs⟩⟩ := cs
    · simp [pairs]
    · rw [List.length_singleton] at hcs
      omega
    · rw [List.length_cons, List.length_cons] at hcs
      have hpair : ((pairValue (a, b)).isSome = true ∧ a ≠ '+')
          ↔ (hexValue a).isSome = true ∧ (hexValue b).isSome = true := by
        by_cases hsign : a = '+'
        · subst hsign
          simp [hexValue]
        · rw [pairValue, if_neg hsign, Option.isSome_bind, Option.any_eq_true_iff_get]
          simp [hsign, Option.isSome_iff_exists]
      rw [pairs, List.forall_mem_cons, List.forall_mem_cons, List.forall_mem_cons,
        ih cs (by omega), hpair, and_assoc]

/-- Zeros in front of a number do not change it. -/
theorem hexNumber_leftpad (n : ℕ) (cs : List Char) :
  hexNumber (List.leftpad n '0' cs) = hexNumber cs
  := by
  rw [List.leftpad]
  generalize n - cs.length = k
  induction k with
  | zero => rfl
  | succ k ih =>
    rw [← ih, List.replicate_succ, List.cons_append, hexNumber, hexNumber, List.map_cons]
    rfl

theorem forall_leftpad {n : ℕ} {cs : List Char} :
  (∀ c ∈ List.leftpad n '0' cs, (hexValue c).isSome = true)
    ↔ ∀ c ∈ cs, (hexValue c).isSome = true
  := by
  rw [List.leftpad, List.forall_mem_append]
  apply and_iff_right
  intro c hc
  rw [List.eq_of_mem_replicate hc]
  rfl

/-- Digits are characters of one byte. -/
theorem length_utf8_of_digits {cs : List Char} (h : ∀ c ∈ cs, (hexValue c).isSome = true) :
  (utf8 cs).length = cs.length
  := by
  induction cs with
  | nil => rfl
  | cons c cs ih =>
    rw [List.forall_mem_cons] at h
    obtain ⟨first, rest, hc, _, _, _, _, hmore⟩ := utf8EncodeChar_eq_cons c
    obtain ⟨v, hv⟩ := Option.isSome_iff_exists.mp h.1
    have hrest : rest = [] := by
      by_contra hne
      have hle := (hmore hne).2
      have hlt := (toNat_lt_of_hexValue hv).1
      omega
    have hcs := ih h.2
    rw [utf8] at hcs
    rw [utf8, List.flatMap_cons, hc, hrest, List.length_append, hcs, List.length_singleton,
      List.length_cons, Nat.add_comm]

/-- Digits do not begin with a prefix. -/
theorem stripPrefix_digits {c : Char} (hc : hexValue c = none) {cs : List Char}
    (h : ∀ d ∈ cs, (hexValue d).isSome = true) :
  stripPrefix ['0', c] cs = cs
  := by
  rw [stripPrefix]
  split
  case isTrue hpre =>
    obtain ⟨rest, rfl⟩ := List.isPrefixOf_iff_prefix.mp hpre
    have hdigit := h c (by simp)
    rw [hc] at hdigit
    cases hdigit
  case isFalse => rfl

/-- The digits that a string spells an element with are what is left of it. -/
theorem stripped_of_layout {s : String} {digits : List Char}
    (hlayout : s.toList = digits ∨ s.toList = '0' :: 'x' :: digits
      ∨ s.toList = '0' :: 'X' :: digits)
    (hdigit : ∀ c ∈ digits, (hexValue c).isSome = true) :
  stripped s = digits ∧ ¬ ['0', 'x', '0', 'X'] <+: s.toList
  := by
  have hx : stripPrefix ['0', 'x'] digits = digits := stripPrefix_digits rfl hdigit
  have hX : stripPrefix ['0', 'X'] digits = digits := stripPrefix_digits rfl hdigit
  have hnot : ∀ rest, digits ≠ '0' :: 'X' :: rest := by
    rintro rest rfl
    have hdigit := hdigit 'X' (by simp)
    cases hdigit
  rw [stripped]
  obtain h | h | h := hlayout
  · rw [h, hx, hX]
    refine ⟨rfl, ?_⟩
    rintro ⟨rest, rfl⟩
    have hdigit := hdigit 'x' (by simp)
    cases hdigit
  · have hstrip : stripPrefix ['0', 'x'] ('0' :: 'x' :: digits) = digits := rfl
    rw [h, hstrip, hX]
    refine ⟨rfl, ?_⟩
    rintro ⟨rest, hrest⟩
    apply hnot rest
    simpa using hrest.symm
  · have hstrip : stripPrefix ['0', 'X'] (stripPrefix ['0', 'x'] ('0' :: 'X' :: digits))
        = digits := rfl
    rw [h, hstrip]
    refine ⟨rfl, ?_⟩
    rintro ⟨rest, hrest⟩
    simp at hrest

/-- What is left of a string without two prefixes follows at most one. -/
theorem layout_stripped {s : String} (h : ¬ ['0', 'x', '0', 'X'] <+: s.toList) :
  s.toList = stripped s ∨ s.toList = '0' :: 'x' :: stripped s
    ∨ s.toList = '0' :: 'X' :: stripped s
  := by
  rw [stripped]
  by_cases hx : ['0', 'x'] <+: s.toList
  · obtain ⟨rest, hrest⟩ := hx
    rw [← hrest] at h ⊢
    have hstrip : stripPrefix ['0', 'x'] (['0', 'x'] ++ rest) = rest := rfl
    have hX : ¬ ['0', 'X'].isPrefixOf rest = true := by
      rw [List.isPrefixOf_iff_prefix]
      rintro ⟨tail, rfl⟩
      apply h
      exact ⟨tail, rfl⟩
    right
    left
    rw [hstrip, stripPrefix, if_neg hX]
    rfl
  · have hstrip : stripPrefix ['0', 'x'] s.toList = s.toList := by
      rw [stripPrefix, if_neg]
      rw [List.isPrefixOf_iff_prefix]
      apply hx
    rw [hstrip]
    by_cases hX : ['0', 'X'] <+: s.toList
    · obtain ⟨rest, hrest⟩ := hX
      right
      right
      rw [← hrest]
      rfl
    · left
      rw [stripPrefix, if_neg]
      rw [List.isPrefixOf_iff_prefix]
      apply hX

/-- A string that is read spells what it is read as, unless it is read loosely. -/
theorem exists_spells_iff {s : String} {f : Felt252} :
  (∃ digits, Spells s f digits)
    ↔ (Reads s ∧ f.toNat = pairsNumber (readPairs s)) ∧ ¬ Loose s
  := by
  have hpadded : ∀ {cs : List Char}, cs.length ≤ 64 →
      (List.leftpad 64 '0' cs).length = 32 * 2 := by
    intro cs hle
    rw [List.leftpad, List.length_append, List.length_replicate]
    omega
  have hnumber : ∀ {cs : List Char}, cs.length ≤ 64 →
      (∀ c ∈ cs, (hexValue c).isSome = true) →
      pairsNumber (pairs (List.leftpad 64 '0' cs)) = hexNumber cs := by
    intro cs hle hdigit
    rw [← hexNumber_leftpad 64 cs]
    apply foldl_pairs 32 0 _ (hpadded hle) (forall_leftpad.mpr hdigit)
  constructor
  · rintro ⟨digits, hlayout, hle, hdigit, hlt, hvalue⟩
    obtain ⟨hstripped, hprefix⟩ := stripped_of_layout hlayout hdigit
    have hpairs := (forall_pairs_iff 32 _ (hpadded hle)).mpr (forall_leftpad.mpr hdigit)
    have hread : readPairs s = pairs (List.leftpad 64 '0' digits) := by
      rw [readPairs, hstripped]
    rw [Loose, hread, hnumber hle hdigit]
    refine ⟨⟨⟨?_, ?_, ?_⟩, hvalue⟩, ?_⟩
    · rw [hstripped, length_utf8_of_digits hdigit]
      apply hle
    · rw [hread]
      intro pair hpair
      apply (hpairs pair hpair).1
    · rw [hread, hnumber hle hdigit]
      apply hlt
    · rintro (⟨pair, hpair, hsign⟩ | h)
      · apply (hpairs pair hpair).2 hsign
      · apply hprefix h
  · rintro ⟨⟨⟨hlength, hread, hlt⟩, hvalue⟩, hloose⟩
    rw [Loose, not_or] at hloose
    obtain ⟨hsign, hprefix⟩ := hloose
    have hle := (length_le_utf8 (stripped s)).trans hlength
    have hdigit : ∀ c ∈ stripped s, (hexValue c).isSome = true := by
      rw [← forall_leftpad (n := 64), ← forall_pairs_iff 32 _ (hpadded hle)]
      intro pair hpair
      refine ⟨hread pair hpair, ?_⟩
      intro h
      apply hsign
      exact ⟨pair, hpair, h⟩
    rw [readPairs, hnumber hle hdigit] at hlt hvalue
    exact ⟨stripped s, layout_stripped hprefix, hle, hdigit, hlt, hvalue⟩

/-! ### When parsing is exact -/

/-- Parsing does not panic, and returns exactly the elements that the string spells. -/
def ParsedExactly (s : String) : Prop :=
  fromHexChecked s ≠ .error .panic
    ∧ ∀ f, fromHexChecked s = .ok f ↔ ∃ digits, Spells s f digits

/-- Parsing is exact unless a slice cuts a character, or a sign or a second prefix is read.
What is printed of a canonical element is read back as the element. -/
theorem from_hex_exact_iff (s : String) :
  (ParsedExactly s ↔ ¬ CutsCharacter s ∧ ¬ (Reads s ∧ Loose s))
    ∧ ∀ f : Felt252, f.Canonical → fromHex f.toHex = .ok f
  := by
  constructor
  · rw [ParsedExactly, ne_eq, fromHexChecked_eq_panic]
    apply and_congr_right
    intro _
    simp only [fromHexChecked_eq_ok, exists_spells_iff]
    constructor
    · rintro h ⟨hreads, hloose⟩
      have hp : fieldModulus < 2 ^ 256 := by norm_num [fieldModulus]
      have hvalue : (BitVec.ofNat 256 (pairsNumber (readPairs s))).toNat
          = pairsNumber (readPairs s) := by
        rw [BitVec.toNat_ofNat]
        apply Nat.mod_eq_of_lt (hreads.lt.trans hp)
      apply ((h _).mp ⟨hreads, hvalue⟩).2 hloose
    · intro h f
      constructor
      · rintro ⟨hreads, hvalue⟩
        exact ⟨⟨hreads, hvalue⟩, fun hloose => h ⟨hreads, hloose⟩⟩
      · intro hf
        apply hf.1
  · intro f hf
    apply fromHex_toHex_canonical hf

/-- A character of two bytes makes the parser panic, and a sign and a second prefix are read
as if they were not there. -/
theorem from_hex_not_exact :
  ¬ ParsedExactly "é" ∧ ¬ ParsedExactly "+1" ∧ ¬ ParsedExactly "0x0X1"
  := by
  have hpanic : fromHexChecked "é" = .error .panic := by decide +kernel
  have hsign : fromHexChecked "+1" = .ok 1 := by decide +kernel
  have hdouble : fromHexChecked "0x0X1" = .ok 1 := by decide +kernel
  refine ⟨fun h => h.1 hpanic, fun h => ?_, fun h => ?_⟩
  · obtain ⟨digits, hspells⟩ := (h.2 1).mp hsign
    apply (exists_spells_iff.mp ⟨digits, hspells⟩).2
    left
    exact ⟨('+', '1'), by decide +kernel, rfl⟩
  · obtain ⟨digits, hspells⟩ := (h.2 1).mp hdouble
    apply (exists_spells_iff.mp ⟨digits, hspells⟩).2
    right
    exact ⟨['1'], by decide +kernel⟩

end ZkApi.Felt252
