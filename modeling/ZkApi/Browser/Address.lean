import ZkApi.Browser.Core
import ZkApi.Types.Hex

/-!
# The address of a withdrawal

The browser reads the destination of a withdrawal in chunks of two bytes.  It never panics and
it reads every address, but each chunk is read as a number with an optional sign, so that some
strings with a sign are read as an address too (`parse_address_exact_iff`).
-/

namespace ZkApi.Browser

open Felt252 (stripPrefix utf8 fromStrRadix16 hexValue pairValue pairs)

/-- The chunks of two bytes. -/
def chunks : List UInt8 → List (UInt8 × UInt8)
  | a :: b :: bytes => (a, b) :: chunks bytes
  | _ => []

/-- `from_utf8` of two bytes: two characters of one byte each, or one character. -/
def isUtf8Chunk (chunk : UInt8 × UInt8) : Bool :=
  (chunk.1 < 128 && chunk.2 < 128)
    || (194 ≤ chunk.1 && chunk.1 < 224 && 128 ≤ chunk.2 && chunk.2 < 192)

/-- The byte that is read from a chunk. -/
def parseChunk (chunk : UInt8 × UInt8) : Except Failure ℕ := do
  failIf (isUtf8Chunk chunk = false) (.message "address is not UTF-8")
  okOrElse (fromStrRadix16 [chunk.1, chunk.2]) "address contains non-hex characters"

/-- `parse_address`. -/
def parseAddress (value : String) : Except Failure (List ℕ) := do
  let raw := utf8 (stripPrefix ['0', 'x'] value.toList)
  failIf (raw.length ≠ 40) (.message "destination must be a 20-byte hex address")
  (chunks raw).mapM parseChunk

/-! ### What is read -/

theorem parseChunk_ne_panic (chunk : UInt8 × UInt8) :
  parseChunk chunk ≠ .error .panic
  := by
  rw [parseChunk, failIf]
  split
  · intro h
    cases h
  · intro h
    cases hread : fromStrRadix16 [chunk.1, chunk.2] with
    | none =>
      rw [hread] at h
      cases h
    | some v =>
      rw [hread] at h
      cases h

theorem mapM_parseChunk_ne_panic (cs : List (UInt8 × UInt8)) :
  cs.mapM parseChunk ≠ .error .panic
  := by
  induction cs with
  | nil => exact nofun
  | cons chunk cs ih =>
    rw [List.mapM_cons]
    cases hchunk : parseChunk chunk with
    | error e =>
      intro h
      apply parseChunk_ne_panic chunk
      rw [hchunk, Except.error.inj h]
    | ok v =>
      cases hcs : cs.mapM parseChunk with
      | error e =>
        intro h
        apply ih
        rw [hcs, Except.error.inj h]
      | ok vs => exact nofun

/-- A chunk is read from two characters of one byte each. -/
theorem parseChunk_eq_ok {a b : Char} (ha : a.toNat < 128) (hb : b.toNat < 128) {v : ℕ} :
  parseChunk (UInt8.ofNat a.toNat, UInt8.ofNat b.toNat) = .ok v ↔ pairValue (a, b) = some v
  := by
  have hsmall : ∀ n < 128, UInt8.ofNat n < 128 := by decide
  have hchunk : ¬ isUtf8Chunk (UInt8.ofNat a.toNat, UInt8.ofNat b.toNat) = false := by
    simp [isUtf8Chunk, hsmall _ ha, hsmall _ hb]
  rw [parseChunk, failIf, if_neg hchunk, Felt252.fromStrRadix16_pair ha hb]
  cases pairValue (a, b) with
  | none => simp [okOrElse, bail, bind, Except.bind]
  | some w => simp [okOrElse, bind, Except.bind]

theorem lt_of_parseChunk {x y : UInt8} {v : ℕ} (h : parseChunk (x, y) = .ok v) :
  x < 128 ∧ y < 128
  := by
  obtain ⟨_, _, h⟩ := bind_eq_ok.mp h
  cases hread : fromStrRadix16 [x, y] with
  | none =>
    rw [hread] at h
    cases h
  | some w => apply Felt252.lt_of_fromStrRadix16 hread

/-- A character whose first byte is read is of one byte. -/
theorem utf8_of_lt {c : Char} {first : UInt8} {rest : List UInt8}
    (hc : String.utf8EncodeChar c = first :: rest) (h : first < 128) :
  rest = [] ∧ first = UInt8.ofNat c.toNat ∧ c.toNat < 128
  := by
  obtain ⟨first', rest', hc', _, _, _, hone, hmore⟩ := Felt252.utf8EncodeChar_eq_cons c
  obtain ⟨rfl, rfl⟩ := List.cons.inj (hc.symm.trans hc')
  have hrest : rest = [] := by
    by_contra hne
    exact absurd (UInt8.lt_of_le_of_lt (hmore hne).1 h) (by decide)
  exact ⟨hrest, hone hrest⟩

/-- Chunks are read one after the other. -/
theorem mapM_parseChunk_cons {chunk : UInt8 × UInt8} {rest : List (UInt8 × UInt8)}
    {vs : List ℕ} :
  (chunk :: rest).mapM parseChunk = .ok vs
    ↔ ∃ v ws, parseChunk chunk = .ok v ∧ rest.mapM parseChunk = .ok ws ∧ vs = v :: ws
  := by
  rw [List.mapM_cons, bind_eq_ok]
  constructor
  · rintro ⟨v, hv, h⟩
    obtain ⟨ws, hws, h⟩ := bind_eq_ok.mp h
    exact ⟨v, ws, hv, hws, (Except.ok.inj h).symm⟩
  · rintro ⟨v, ws, hv, hws, rfl⟩
    exact ⟨v, hv, bind_eq_ok.mpr ⟨ws, hws, rfl⟩⟩

/-- The chunks that are read are those of characters of one byte each. -/
theorem mapM_parseChunk_eq_ok (cs : List Char) (vs : List ℕ) (heven : (utf8 cs).length % 2 = 0) :
  (chunks (utf8 cs)).mapM parseChunk = .ok vs
    ↔ cs.length % 2 = 0 ∧ (∀ pair ∈ pairs cs, (pairValue pair).isSome = true)
      ∧ vs = (pairs cs).map fun pair => (pairValue pair).getD 0
  := by
  induction cs using Felt252.pairs.induct generalizing vs with
  | case1 a b cs ih =>
    obtain ⟨fa, ra, ha, _, _, _, honea, hmorea⟩ := Felt252.utf8EncodeChar_eq_cons a
    obtain ⟨fb, rb, hb, _, _, _, honeb, hmoreb⟩ := Felt252.utf8EncodeChar_eq_cons b
    have hutf8 : utf8 (a :: b :: cs) = fa :: (ra ++ fb :: (rb ++ utf8 cs)) := by
      rw [utf8, List.flatMap_cons, List.flatMap_cons, ha, hb]
      rfl
    have hlength : (a :: b :: cs).length % 2 = cs.length % 2 := by
      rw [List.length_cons, List.length_cons]
      omega
    rw [hutf8] at heven ⊢
    rw [pairs, List.forall_mem_cons, List.map_cons, hlength]
    constructor
    · intro h
      obtain ⟨x, rest, hsplit⟩ : ∃ x rest, ra ++ fb :: (rb ++ utf8 cs) = x :: rest :=
        List.exists_cons_of_ne_nil (by simp)
      rw [hsplit, chunks] at h
      obtain ⟨v, ws, hv, hws, rfl⟩ := mapM_parseChunk_cons.mp h
      obtain ⟨hfa, hx⟩ := lt_of_parseChunk hv
      obtain ⟨rfl, rfl, hlta⟩ := utf8_of_lt ha hfa
      obtain ⟨rfl, rfl⟩ := List.cons.inj hsplit
      obtain ⟨rfl, rfl, hltb⟩ := utf8_of_lt hb hx
      rw [List.nil_append] at hws
      have hcs : (utf8 cs).length % 2 = 0 := by
        rw [List.nil_append, List.nil_append, List.length_cons, List.length_cons] at heven
        omega
      obtain ⟨heven, hall, rfl⟩ := (ih ws hcs).mp hws
      have hvalue := (parseChunk_eq_ok hlta hltb).mp hv
      rw [hvalue]
      exact ⟨heven, ⟨rfl, hall⟩, rfl⟩
    · rintro ⟨hevencs, ⟨hpair, hall⟩, rfl⟩
      obtain ⟨v, hv⟩ := Option.isSome_iff_exists.mp hpair
      obtain ⟨hlta, hltb⟩ := Felt252.lt_of_pairValue hv
      have hra : ra = [] := by
        by_contra hne
        exact absurd (hmorea hne).2 (not_le.mpr hlta)
      have hrb : rb = [] := by
        by_contra hne
        exact absurd (hmoreb hne).2 (not_le.mpr hltb)
      obtain ⟨rfl, _⟩ := honea hra
      obtain ⟨rfl, _⟩ := honeb hrb
      rw [hra, hrb, List.nil_append, List.nil_append] at heven ⊢
      rw [List.length_cons, List.length_cons] at heven
      rw [chunks, hv]
      apply mapM_parseChunk_cons.mpr
      exact ⟨v, _, (parseChunk_eq_ok hlta hltb).mpr hv,
        (ih _ (by omega)).mpr ⟨hevencs, hall, rfl⟩, rfl⟩
  | case2 cs hcs =>
    obtain _ | ⟨a, _ | ⟨b, cs⟩⟩ := cs
    · constructor
      · intro h
        exact ⟨rfl, fun _ hpair => absurd hpair List.not_mem_nil, (Except.ok.inj h).symm⟩
      · rintro ⟨_, _, rfl⟩
        rfl
    · -- one character of an even number of bytes
      obtain ⟨first, rest, ha, _⟩ := Felt252.utf8EncodeChar_eq_cons a
      have hutf8 : utf8 [a] = first :: rest := by
        rw [utf8, List.flatMap_singleton, ha]
      rw [hutf8] at heven ⊢
      constructor
      · intro h
        obtain _ | ⟨x, rest⟩ := rest
        · rw [List.length_singleton] at heven
          omega
        · obtain ⟨v, _, hv, _⟩ := mapM_parseChunk_cons.mp h
          have hrest := (utf8_of_lt ha (lt_of_parseChunk hv).1).1
          cases hrest
      · rintro ⟨hodd, _⟩
        rw [List.length_singleton] at hodd
        omega
    · exact absurd rfl (hcs a b cs)

/-! ### When an address is read -/

/-- A string spells an address: after an optional prefix it has 40 hexadecimal digits, and the
address is the bytes that they stand for in pairs. -/
structure SpellsAddress (s : String) (address : List ℕ) (digits : List Char) : Prop where
  layout : s.toList = digits ∨ s.toList = '0' :: 'x' :: digits
  length_eq : digits.length = 40
  digit : ∀ c ∈ digits, (hexValue c).isSome = true
  bytes : address = (pairs digits).map fun pair => (pairValue pair).getD 0

/-- The characters after the prefix. -/
def rawAddress (s : String) : List Char :=
  stripPrefix ['0', 'x'] s.toList

/-- Forty characters are read in pairs, each of them two digits or a sign and a digit. -/
structure ReadsAddress (s : String) : Prop where
  length_eq : (rawAddress s).length = 40
  read : ∀ pair ∈ pairs (rawAddress s), (pairValue pair).isSome = true

/-- Characters that are read in pairs are of one byte each. -/
theorem length_utf8_of_pairs (cs : List Char) (heven : cs.length % 2 = 0)
    (h : ∀ pair ∈ pairs cs, (pairValue pair).isSome = true) :
  (utf8 cs).length = cs.length
  := by
  induction cs using Felt252.pairs.induct with
  | case1 a b cs ih =>
    rw [pairs, List.forall_mem_cons] at h
    obtain ⟨v, hv⟩ := Option.isSome_iff_exists.mp h.1
    rw [List.length_cons, List.length_cons] at heven
    have hpair := Felt252.length_utf8_pair (Felt252.readPair_eq_ok.mpr hv)
    have hsplit : utf8 (a :: b :: cs) = utf8 [a, b] ++ utf8 cs := Felt252.utf8_append [a, b] cs
    rw [hsplit, List.length_append, hpair, ih (by omega) h.2, List.length_cons, List.length_cons]
    omega
  | case2 cs hcs =>
    obtain _ | ⟨a, _ | ⟨b, cs⟩⟩ := cs
    · rfl
    · rw [List.length_singleton] at heven
      omega
    · exact absurd rfl (hcs a b cs)

theorem parseAddress_eq_ok {s : String} {address : List ℕ} :
  parseAddress s = .ok address
    ↔ ReadsAddress s
      ∧ address = (pairs (rawAddress s)).map fun pair => (pairValue pair).getD 0
  := by
  rw [parseAddress, bind_eq_ok, ← rawAddress]
  simp only [failIf_eq_ok, not_not, exists_const]
  constructor
  · rintro ⟨hlength, h⟩
    obtain ⟨heven, hread, rfl⟩ := (mapM_parseChunk_eq_ok _ _ (by rw [hlength])).mp h
    rw [length_utf8_of_pairs _ heven hread] at hlength
    exact ⟨⟨hlength, hread⟩, rfl⟩
  · rintro ⟨⟨hlength, hread⟩, rfl⟩
    have heven : (rawAddress s).length % 2 = 0 := by rw [hlength]
    have hutf8 := length_utf8_of_pairs _ heven hread
    refine ⟨hutf8.trans hlength, ?_⟩
    apply (mapM_parseChunk_eq_ok _ _ (by rw [hutf8, heven])).mpr ⟨heven, hread, rfl⟩

/-- A string that is read spells what it is read as, unless a pair has a sign. -/
theorem exists_spellsAddress_iff {s : String} {address : List ℕ} :
  (∃ digits, SpellsAddress s address digits)
    ↔ parseAddress s = .ok address ∧ ∀ pair ∈ pairs (rawAddress s), pair.1 ≠ '+'
  := by
  rw [parseAddress_eq_ok]
  constructor
  · rintro ⟨digits, hlayout, hlength, hdigit, hbytes⟩
    have hraw : rawAddress s = digits := by
      rw [rawAddress]
      obtain h | h := hlayout
      · rw [h]
        apply Felt252.stripPrefix_digits rfl hdigit
      · rw [h]
        rfl
    have hpairs := (Felt252.forall_pairs_iff 20 digits hlength).mpr hdigit
    rw [hraw]
    refine ⟨⟨⟨?_, ?_⟩, hbytes⟩, fun pair hpair => (hpairs pair hpair).2⟩
    · rw [hraw, hlength]
    · rw [hraw]
      intro pair hpair
      apply (hpairs pair hpair).1
  · rintro ⟨⟨⟨hlength, hread⟩, hbytes⟩, hsign⟩
    have hdigit := (Felt252.forall_pairs_iff 20 _ hlength).mp
      fun pair hpair => ⟨hread pair hpair, hsign pair hpair⟩
    refine ⟨rawAddress s, ?_, hlength, hdigit, hbytes⟩
    rw [rawAddress, stripPrefix]
    split
    case isTrue h =>
      obtain ⟨rest, hrest⟩ := List.isPrefixOf_iff_prefix.mp h
      right
      rw [← hrest]
      rfl
    case isFalse =>
      left
      rfl

/-- Parsing does not panic, and returns exactly the addresses that the string spells. -/
def AddressParsedExactly (s : String) : Prop :=
  parseAddress s ≠ .error .panic
    ∧ ∀ address, parseAddress s = .ok address ↔ ∃ digits, SpellsAddress s address digits

theorem parseAddress_ne_panic (s : String) :
  parseAddress s ≠ .error .panic
  := by
  rw [parseAddress, failIf]
  split
  · intro h
    cases h
  · apply mapM_parseChunk_ne_panic

/-- An address is parsed exactly unless it is read with a sign in one of its pairs. -/
theorem parse_address_exact_iff (s : String) :
  AddressParsedExactly s
    ↔ ¬ (ReadsAddress s ∧ ∃ pair ∈ pairs (rawAddress s), pair.1 = '+')
  := by
  rw [AddressParsedExactly, and_iff_right (parseAddress_ne_panic s)]
  simp only [exists_spellsAddress_iff]
  constructor
  · rintro h ⟨hread, pair, hpair, hsign⟩
    apply ((h _).mp (parseAddress_eq_ok.mpr ⟨hread, rfl⟩)).2 pair hpair hsign
  · intro h address
    constructor
    · intro hok
      refine ⟨hok, fun pair hpair hsign => h ⟨(parseAddress_eq_ok.mp hok).1, pair, hpair, hsign⟩⟩
    · intro hok
      apply hok.1

/-- Twenty times a sign and a digit are read as an address. -/
theorem parse_address_not_exact :
  ¬ AddressParsedExactly "0x+1+1+1+1+1+1+1+1+1+1+1+1+1+1+1+1+1+1+1+1"
  := by
  have hread :
      parseAddress "0x+1+1+1+1+1+1+1+1+1+1+1+1+1+1+1+1+1+1+1+1" = .ok (List.replicate 20 1) := by
    decide +kernel
  intro h
  apply (exists_spellsAddress_iff.mp ((h.2 _).mp hread)).2 ('+', '1')
  · decide +kernel
  · rfl

end ZkApi.Browser
