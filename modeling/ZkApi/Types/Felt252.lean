import Mathlib.Data.List.GetD
import Mathlib.Data.List.TakeWhile
import ZkApi.Library.Digits
import ZkApi.Library.Framing
import ZkApi.Poseidon.Bn254Poseidon

/-!
# Field elements on the wire

`Felt252` is 32 bytes, most significant first, which a word of 256 bits stands for.  In JSON
it is a string of hexadecimal digits.  The parser works on the bytes of a string of Unicode
characters, so it can panic where a slice of two bytes cuts a character.
-/

namespace ZkApi

/-- A field element of the Rust crates, as the 256-bit word that its bytes spell.  The type
does not exclude words that are not below the modulus. -/
abbrev Felt252 : Type := U256

/-- An error with its text, or a panic. -/
inductive Failure where
  | message (text : String)
  | panic
  deriving DecidableEq

/-- The rest of a computation goes on with the value of its first part. -/
theorem bind_eq_ok {ε α β : Type} {x : Except ε α} {f : α → Except ε β} {b : β} :
  (x >>= f) = .ok b ↔ ∃ a, x = .ok a ∧ f a = .ok b
  := by
  cases x with
  | error e =>
    constructor
    · intro h
      cases h
    · rintro ⟨_, h, _⟩
      cases h
  | ok a =>
    constructor
    · intro h
      exact ⟨a, rfl, h⟩
    · rintro ⟨_, h, hf⟩
      cases h
      apply hf

/-- An early return with an error, under a condition. -/
def failIf {ε : Type} (condition : Prop) [Decidable condition] (e : ε) : Except ε Unit :=
  if condition then .error e else .ok ()

@[simp]
theorem failIf_eq_ok {ε : Type} {condition : Prop} [Decidable condition] {e : ε} {u : Unit} :
  failIf condition e = .ok u ↔ ¬ condition
  := by
  by_cases h : condition <;> simp [failIf, h]

namespace Felt252

/-- The element is below the modulus. -/
def Canonical (x : Felt252) : Prop :=
  x.toNat < fieldModulus

instance (x : Felt252) : Decidable x.Canonical :=
  inferInstanceAs (Decidable (_ < _))

/-- The bytes, most significant first. -/
def asBytes (x : Felt252) : List ℕ :=
  Digits.toDigits 256 32 x.toNat

/-- `try_from_bytes_be`. -/
def tryFromBytesBe (bytes : List ℕ) : Except Failure Felt252 :=
  if fieldModulus ≤ Digits.ofDigits 256 bytes then
    .error (.message "field element must be below the BN254 scalar modulus")
  else
    .ok (BitVec.ofNat 256 (Digits.ofDigits 256 bytes))

/-! ### Printing -/

/-- A byte in the format `{:02x}`. -/
def hexByte (byte : ℕ) : List Char :=
  (Digits.toDigits 16 2 byte).map Nat.digitChar

/-- All the digits of an element. -/
def hexDigits (x : Felt252) : List Char :=
  x.asBytes.flatMap hexByte

/-- `to_hex`. -/
def toHex (x : Felt252) : String :=
  let trimmed := x.hexDigits.dropWhile (· == '0')
  if trimmed.isEmpty then "0x0" else String.ofList ('0' :: 'x' :: trimmed)

/-! ### Parsing -/

/-- `strip_prefix`, or the string itself. -/
def stripPrefix (pre s : List Char) : List Char :=
  if pre.isPrefixOf s then s.drop pre.length else s

/-- The bytes of a string. -/
def utf8 (s : List Char) : List UInt8 :=
  s.flatMap String.utf8EncodeChar

/-- `is_char_boundary`. -/
def isCharBoundary (bytes : List UInt8) (i : ℕ) : Bool :=
  match bytes[i]? with
  | none => i == bytes.length
  | some byte => !(128 ≤ byte && byte < 192)

/-- The slice of two bytes at an index, which panics off the boundaries of characters. -/
def slice2 (bytes : List UInt8) (i : ℕ) : Except Failure (List UInt8) :=
  if isCharBoundary bytes i && isCharBoundary bytes (i + 2) then
    .ok ((bytes.drop i).take 2)
  else
    .error .panic

/-- `to_digit(16)`. -/
def toDigit16 (byte : UInt8) : Option ℕ :=
  if 48 ≤ byte ∧ byte ≤ 57 then some (byte.toNat - 48)
  else if 97 ≤ byte ∧ byte ≤ 102 then some (byte.toNat - 87)
  else if 65 ≤ byte ∧ byte ≤ 70 then some (byte.toNat - 55)
  else none

/-- The digits of a number that fits in a byte. -/
def digits16 (src : List UInt8) : Option ℕ :=
  src.foldlM
    (fun value byte =>
      (toDigit16 byte).bind fun digit =>
        if value * 16 + digit < 256 then some (value * 16 + digit) else none)
    0

/-- `u8::from_str_radix` in base 16, which lets a sign `+` through. -/
def fromStrRadix16 : List UInt8 → Option ℕ
  | [] => none
  | [byte] => if byte = 43 ∨ byte = 45 then none else digits16 [byte]
  | byte :: rest => if byte = 43 then digits16 rest else digits16 (byte :: rest)

/-- The byte that the parser reads at an index. -/
def parseByte (padded : List UInt8) (i : ℕ) : Except Failure ℕ := do
  let src ← slice2 padded (i * 2)
  match fromStrRadix16 src with
  | none => .error (.message "invalid hex: invalid digit found in string")
  | some byte => .ok byte

/-- `from_hex_checked`. -/
def fromHexChecked (s : String) : Except Failure Felt252 := do
  let s := stripPrefix ['0', 'x'] s.toList
  let s := stripPrefix ['0', 'X'] s
  if 64 < (utf8 s).length then
    .error (.message "hex string too long for felt252")
  let bytes ← (List.range 32).mapM (parseByte (utf8 (List.leftpad 64 '0' s)))
  tryFromBytesBe bytes

/-- `from_hex`. -/
def fromHex (s : String) : Except Failure Felt252 :=
  fromHexChecked s

/-! ### Reading what was printed -/

theorem leftpad_dropWhile (n : ℕ) (l : List Char) (h : l.length = n) :
  List.leftpad n '0' (l.dropWhile (· == '0')) = l
  := by
  have htake : l.takeWhile (· == '0') = List.replicate (l.takeWhile (· == '0')).length '0' := by
    apply List.eq_replicate_of_mem
    intro c hc
    have heq : (c == '0') = true := List.mem_takeWhile_imp (p := (· == '0')) hc
    apply eq_of_beq heq
  have hlen := congrArg List.length (List.takeWhile_append_dropWhile (p := (· == '0')) (l := l))
  rw [List.length_append, h] at hlen
  have hcount : n - (l.dropWhile (· == '0')).length = (l.takeWhile (· == '0')).length := by omega
  rw [List.leftpad, hcount, ← htake, List.takeWhile_append_dropWhile]

theorem isCharBoundary_ascii {bytes : List UInt8} (h : ∀ byte ∈ bytes, byte < 128) {i : ℕ}
    (hi : i ≤ bytes.length) :
  isCharBoundary bytes i = true
  := by
  rw [isCharBoundary]
  obtain hi | rfl := Nat.lt_or_eq_of_le hi
  · rw [List.getElem?_eq_getElem hi]
    have hlt := h _ (List.getElem_mem hi)
    have hle : ¬ 128 ≤ bytes[i] := UInt8.not_le.mpr hlt
    simp only [hle, decide_false, Bool.false_and, Bool.not_false]
  · rw [List.getElem?_eq_none le_rfl]
    exact beq_self_eq_true _

/-- The bytes of the two digits of a byte. -/
theorem utf8_hexByte :
  ∀ byte < 256, (utf8 (hexByte byte)).length = 2 ∧ (∀ b ∈ utf8 (hexByte byte), b < 128)
    ∧ fromStrRadix16 (utf8 (hexByte byte)) = some byte
  := by
  have hall : ∀ byte < 256, (utf8 (hexByte byte)).length = 2
      ∧ (utf8 (hexByte byte)).all (fun b => decide (b < 128)) = true
      ∧ fromStrRadix16 (utf8 (hexByte byte)) = some byte := by decide +kernel
  intro byte hbyte
  obtain ⟨hlength, hascii, hparse⟩ := hall byte hbyte
  rw [List.all_eq_true] at hascii
  exact ⟨hlength, fun b hb => of_decide_eq_true (hascii b hb), hparse⟩

theorem mapM_eq_ok {α β : Type} {f : α → Except Failure β} {g : α → β} :
  ∀ l : List α, (∀ a ∈ l, f a = .ok (g a)) → l.mapM f = .ok (l.map g)
  | [], _ => rfl
  | a :: l, h => by
      rw [List.forall_mem_cons] at h
      rw [List.mapM_cons, h.1, mapM_eq_ok l h.2]
      rfl

theorem lt_of_mem_asBytes {x : Felt252} {byte : ℕ} (h : byte ∈ x.asBytes) :
  byte < 256
  := Digits.lt_of_mem_toDigits (by norm_num) h

theorem length_hexDigits (x : Felt252) :
  x.hexDigits.length = 64
  := by
  have hlen : ∀ bytes : List ℕ, (bytes.flatMap hexByte).length = bytes.length * 2 := by
    intro bytes
    induction bytes with
    | nil => rfl
    | cons byte bytes ih =>
      rw [List.flatMap_cons, List.length_append, ih, hexByte, List.length_map,
        Digits.length_toDigits, List.length_cons]
      omega
  rw [hexDigits, hlen, asBytes, Digits.length_toDigits]

/-- The two digits of every byte are read back as the byte. -/
theorem mapM_parseByte (bytes : List ℕ) (hlt : ∀ byte ∈ bytes, byte < 256) :
  (List.range bytes.length).mapM (parseByte (bytes.flatMap fun byte => utf8 (hexByte byte)))
    = .ok bytes
  := by
  have hlen : ∀ byte ∈ bytes, (utf8 (hexByte byte)).length = 2 := by
    intro byte hbyte
    apply (utf8_hexByte byte (hlt byte hbyte)).1
  have hascii : ∀ b ∈ bytes.flatMap fun byte => utf8 (hexByte byte), b < 128 := by
    intro b hb
    obtain ⟨byte, hbyte, hb⟩ := List.mem_flatMap.mp hb
    apply (utf8_hexByte byte (hlt byte hbyte)).2.1 b hb
  have hsize : (bytes.flatMap fun byte => utf8 (hexByte byte)).length = bytes.length * 2 := by
    rw [Framing.length_flatMap_of_width hlen, Nat.mul_comm]
  have hparse : ∀ i ∈ List.range bytes.length,
      parseByte (bytes.flatMap fun byte => utf8 (hexByte byte)) i = .ok (bytes.getD i 0) := by
    intro i hi
    have hi : i < bytes.length := List.mem_range.mp hi
    have hchunk := Framing.chunk_flatMap hlen hi
    rw [Framing.chunk, Nat.mul_comm] at hchunk
    have hslice : slice2 (bytes.flatMap fun byte => utf8 (hexByte byte)) (i * 2)
        = .ok (utf8 (hexByte bytes[i])) := by
      rw [slice2, isCharBoundary_ascii hascii (by omega), isCharBoundary_ascii hascii (by omega),
        hchunk]
      rfl
    have hbyte := (utf8_hexByte _ (hlt _ (List.getElem_mem hi))).2.2
    rw [parseByte, hslice, List.getD_eq_getElem _ _ hi]
    simp only [bind, Except.bind, hbyte]
  rw [mapM_eq_ok _ hparse]
  congr 1
  apply List.ext_getElem
  · rw [List.length_map, List.length_range]
  · intro i _ h
    rw [List.getElem_map, List.getElem_range, List.getD_eq_getElem _ _ h]

/-- Without its prefix, the text of an element is padded to all its digits. -/
theorem leftpad_stripPrefix_toHex (x : Felt252) :
  List.leftpad 64 '0' (stripPrefix ['0', 'X'] (stripPrefix ['0', 'x'] x.toHex.toList))
    = x.hexDigits
  := by
  have hpad := leftpad_dropWhile 64 x.hexDigits x.length_hexDigits
  rw [toHex]
  cases htrim : x.hexDigits.dropWhile (· == '0') with
  | nil =>
    rw [htrim] at hpad
    rw [← hpad]
    rfl
  | cons c cs =>
    have hc : ¬ (c == '0') = true := by
      have hne : x.hexDigits.dropWhile (· == '0') ≠ [] := by
        rw [htrim]
        apply List.cons_ne_nil
      have hhead := List.head_dropWhile_not (p := (· == '0')) hne
      simp only [htrim, List.head_cons] at hhead
      rw [hhead]
      apply Bool.false_ne_true
    have hupper : (['0', 'X'] : List Char).isPrefixOf (c :: cs) = false := by
      rw [List.isPrefixOf, Bool.and_eq_false_iff]
      left
      rw [beq_iff_eq] at hc
      rw [beq_eq_false_iff_ne]
      apply Ne.symm hc
    rw [List.isEmpty_cons, if_neg Bool.false_ne_true, String.toList_ofList]
    have hstrip : stripPrefix ['0', 'x'] ('0' :: 'x' :: c :: cs) = c :: cs := rfl
    rw [hstrip, stripPrefix, if_neg (by rw [hupper]; exact Bool.false_ne_true), ← htrim, hpad]

/-- The digits are parsed back into the bytes. -/
theorem mapM_parseByte_hexDigits (x : Felt252) :
  (List.range 32).mapM (parseByte (utf8 x.hexDigits)) = .ok x.asBytes
  := by
  have hutf8 : utf8 x.hexDigits = x.asBytes.flatMap fun byte => utf8 (hexByte byte) :=
    List.flatMap_assoc
  have hbytes : x.asBytes.length = 32 := Digits.length_toDigits _ _
  have hparse := mapM_parseByte x.asBytes fun _ h => lt_of_mem_asBytes h
  rw [hbytes, ← hutf8] at hparse
  apply hparse

/-- Elements with one text are equal. -/
theorem toHex_injective :
  Function.Injective toHex
  := by
  intro x y h
  have hdigits : x.hexDigits = y.hexDigits := by
    rw [← leftpad_stripPrefix_toHex x, ← leftpad_stripPrefix_toHex y, h]
  have hbytes : x.asBytes = y.asBytes := by
    apply Except.ok.inj
    rw [← mapM_parseByte_hexDigits x, ← mapM_parseByte_hexDigits y, hdigits]
  have hvalue : ∀ z : Felt252, Digits.ofDigits 256 z.asBytes = z.toNat := fun z =>
    Digits.ofDigits_toDigits (z.isLt.trans_eq (by norm_num))
  apply BitVec.eq_of_toNat_eq
  rw [← hvalue x, ← hvalue y, hbytes]

/-- What was printed is read back, up to the check against the modulus. -/
theorem fromHex_toHex (x : Felt252) :
  fromHex x.toHex = tryFromBytesBe x.asBytes
  := by
  have hpad := leftpad_stripPrefix_toHex x
  have hutf8 : utf8 x.hexDigits = x.asBytes.flatMap fun byte => utf8 (hexByte byte) :=
    List.flatMap_assoc
  have hbytes : x.asBytes.length = 32 := Digits.length_toDigits _ _
  have hparse := mapM_parseByte_hexDigits x
  rw [fromHex, fromHexChecked]
  generalize stripPrefix ['0', 'X'] (stripPrefix ['0', 'x'] x.toHex.toList) = s at hpad ⊢
  have hlen : ¬ 64 < (utf8 s).length := by
    have hall : (utf8 x.hexDigits).length = 64 := by
      rw [hutf8, List.length_flatMap, List.map_congr_left (g := fun _ => 2), List.map_const',
        List.sum_replicate, hbytes]
      · rfl
      · intro byte hbyte
        apply (utf8_hexByte byte (lt_of_mem_asBytes hbyte)).1
    rw [← hpad, List.leftpad, utf8, List.flatMap_append, List.length_append] at hall
    rw [utf8]
    omega
  rw [hpad, if_neg hlen]
  simp only [bind, Except.bind, hparse]

/-- A canonical element is read back as it was printed. -/
theorem fromHex_toHex_canonical {x : Felt252} (h : x.Canonical) :
  fromHex x.toHex = .ok x
  := by
  have hvalue : Digits.ofDigits 256 x.asBytes = x.toNat :=
    Digits.ofDigits_toDigits (x.isLt.trans_eq (by norm_num))
  rw [fromHex_toHex, tryFromBytesBe, hvalue, if_neg (not_le.mpr h), BitVec.ofNat_toNat,
    BitVec.setWidth_eq]

theorem canonical_of_tryFromBytesBe {bytes : List ℕ} {x : Felt252}
    (h : tryFromBytesBe bytes = .ok x) :
  x.Canonical
  := by
  rw [tryFromBytesBe] at h
  split at h
  · cases h
  · next hlt =>
    obtain rfl := Except.ok.inj h
    have hp : fieldModulus < 2 ^ 256 := by norm_num [fieldModulus]
    rw [Canonical, BitVec.toNat_ofNat, Nat.mod_eq_of_lt (by omega)]
    omega

/-- Only a canonical element is read back. -/
theorem canonical_of_fromHex_toHex {x y : Felt252} (h : fromHex x.toHex = .ok y) :
  x.Canonical
  := by
  have hvalue : Digits.ofDigits 256 x.asBytes = x.toNat :=
    Digits.ofDigits_toDigits (x.isLt.trans_eq (by norm_num))
  rw [fromHex_toHex, tryFromBytesBe, hvalue] at h
  split at h
  · cases h
  · next hlt =>
    apply not_le.mp hlt

/-- What was printed and read back is the element. -/
theorem eq_of_fromHex_toHex {x y : Felt252} (h : fromHex x.toHex = .ok y) :
  y = x
  := by
  rw [fromHex_toHex_canonical (canonical_of_fromHex_toHex h)] at h
  apply (Except.ok.inj h).symm

attribute [irreducible] toHex

end Felt252

end ZkApi
