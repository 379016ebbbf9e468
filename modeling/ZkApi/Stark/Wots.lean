import ZkApi.Library.Winternitz
import ZkApi.Stark.Xmss

/-!
# The digits of one-time signatures

The digits that `message_to_base_w` cuts out of the bytes of a digest are those of its low
248 bits, and the digits after them are those of their checksum.  They tell how far the
chains of a signature are walked by the signer, and how much of them is left to the verifier.
-/

namespace ZkApi.Stark

/-! ### Digits -/

/-- The digits of a message, and after them those of its checksum. -/
def wotsDigits (message : Felt) : List ℕ :=
  (messageToBaseW message).1 ++ (messageToBaseW message).2

theorem toNat_fieldToFelt (x : Felt) :
  (fieldToFelt x).toNat = x.val
  := by
  have hword : fieldPrime < 2 ^ 256 := by norm_num [fieldPrime]
  rw [fieldToFelt, BitVec.toNat_ofNat, Nat.mod_eq_of_lt (x.isLt.trans hword)]

/-- The byte of a field element at a position. -/
theorem getD_bytes (x : Felt) {i : ℕ} (hi : i < 32) :
  (((fieldToFelt x).asBytes.map UInt8.ofNat).getD i 0).toNat = x.val / 256 ^ (31 - i) % 256
  := by
  have hlen : i < (Digits.toDigits 256 32 x.val).length := by
    rw [Digits.length_toDigits]
    exact hi
  have hbyte : (Digits.toDigits 256 32 x.val).getD i 0 < 256 := by
    rw [List.getD_eq_getElem _ _ hlen]
    apply Digits.lt_of_mem_toDigits (by norm_num) (List.getElem_mem hlen)
  have hmap : ((fieldToFelt x).asBytes.map UInt8.ofNat).getD i 0
      = UInt8.ofNat ((Digits.toDigits 256 32 x.val).getD i 0) := by
    rw [Felt252.asBytes, toNat_fieldToFelt]
    apply List.getD_map (f := UInt8.ofNat)
  rw [hmap, UInt8.toNat_ofNat_of_lt' hbyte, Digits.getD_toDigits x.val hi]

theorem toNat_and_nibble (byte : UInt8) :
  (byte &&& 0x0F).toNat = byte.toNat % 16
  := by
  rw [UInt8.toNat_and]
  apply Nat.and_two_pow_sub_one_eq_mod _ 4

/-- The digit that is cut out of the bytes is that of the number. -/
theorem messageDigit_eq (message : Felt) {i : ℕ} (hi : i < WOTS_LEN1) :
  messageDigit ((fieldToFelt message).asBytes.map UInt8.ofNat) i
    = message.val / 16 ^ (61 - i) % 16
  := by
  have hi : i < 62 := hi
  have hbase : ∀ n, 256 ^ n = 16 ^ (2 * n) := fun n => (pow_mul 16 2 n).symm
  rw [messageDigit]
  rcases Nat.mod_two_eq_zero_or_one i with h0 | h1
  · -- the high half of a byte
    have hbyte : (8 + i * 4) / 8 = 1 + i / 2 := by omega
    have hbit : (8 + i * 4) % 8 = 0 := by omega
    have hexp : 61 - i = 2 * (31 - (1 + i / 2)) + 1 := by omega
    dsimp only
    rw [hbyte, hbit, if_pos (by norm_num), toNat_and_nibble, UInt8.toNat_shiftRight,
      getD_bytes message (by omega), hbase, hexp, pow_succ, ← Nat.div_div_eq_div_mul]
    have hshift : (UInt8.ofNat (4 - 0)).toNat % 8 = 4 := rfl
    rw [hshift, Nat.shiftRight_eq_div_pow]
    omega
  · -- the low half
    have hbyte : (8 + i * 4) / 8 = 1 + i / 2 := by omega
    have hbit : (8 + i * 4) % 8 = 4 := by omega
    have hexp : 61 - i = 2 * (31 - (1 + i / 2)) := by omega
    dsimp only
    rw [hbyte, hbit, if_pos (by norm_num), toNat_and_nibble, UInt8.toNat_shiftRight,
      getD_bytes message (by omega), hbase, hexp]
    have hshift : (UInt8.ofNat (4 - 4)).toNat % 8 = 0 := rfl
    rw [hshift, Nat.shiftRight_eq_div_pow]
    omega

/-- The digits of a message are those of its low 248 bits. -/
theorem messageToBaseW_fst (message : Felt) :
  (messageToBaseW message).1 = Digits.toDigits WOTS_W WOTS_LEN1 message.val
  := by
  apply List.ext_getElem
  · rw [messageToBaseW, List.length_map, List.length_range, Digits.length_toDigits]
  · intro i hi hi'
    have hlt : i < WOTS_LEN1 := by
      rw [Digits.length_toDigits] at hi'
      exact hi'
    rw [← List.getD_eq_getElem _ 0 hi', Digits.getD_toDigits _ hlt]
    simp only [messageToBaseW, List.getElem_map, List.getElem_range]
    apply messageDigit_eq message hlt

theorem checksumDigits_eq (n checksum : ℕ) :
  checksumDigits n checksum = Digits.toDigits WOTS_W n checksum
  := by
  induction n generalizing checksum with
  | zero => rfl
  | succ n ih => rw [checksumDigits, ih, Digits.toDigits]

/-- The digits that are signed are those of the message with their checksum. -/
theorem wotsDigits_eq (message : Felt) :
  wotsDigits message
    = Winternitz.encode WOTS_W WOTS_LEN2 (Digits.toDigits WOTS_W WOTS_LEN1 message.val)
  := by
  rw [Winternitz.encode, ← messageToBaseW_fst, wotsDigits, ← checksumDigits_eq]
  rfl

/-- The digit that the chain of an index is walked to. -/
theorem getD_wotsDigits (message : Felt) (i : ℕ) :
  (wotsDigits message).getD i 0 = if i < WOTS_LEN1 then (messageToBaseW message).1.getD i 0
    else (messageToBaseW message).2.getD (i - WOTS_LEN1) 0
  := by
  have hlen : (messageToBaseW message).1.length = WOTS_LEN1 := by
    rw [messageToBaseW_fst, Digits.length_toDigits]
  rw [wotsDigits]
  split
  case isTrue hi => apply List.getD_append _ _ _ _ (hlen.symm ▸ hi)
  case isFalse hi =>
    rw [List.getD_append_right _ _ _ _ (hlen.symm ▸ Nat.not_lt.mp hi), hlen]

theorem lt_of_mem_wotsDigits {message : Felt} {digit : ℕ} (h : digit ∈ wotsDigits message) :
  digit < WOTS_W
  := by
  rw [wotsDigits_eq] at h
  obtain h | h := List.mem_append.mp h
  · apply Digits.lt_of_mem_toDigits (by decide) h
  · apply Digits.lt_of_mem_toDigits (by decide) h

theorem getD_wotsDigits_lt (message : Felt) (i : ℕ) :
  (wotsDigits message).getD i 0 < WOTS_W
  := by
  obtain hi | hi := Nat.lt_or_ge i (wotsDigits message).length
  · rw [List.getD_eq_getElem _ _ hi]
    apply lt_of_mem_wotsDigits (List.getElem_mem hi)
  · rw [List.getD_eq_default _ _ hi]
    decide

/-- What the digits of a message leave can be written with the digits of a checksum. -/
theorem checksum_lt :
  WOTS_LEN1 * (WOTS_W - 1) < WOTS_W ^ WOTS_LEN2
  := by decide

/-- Messages that differ in their low 248 bits have different digits. -/
theorem toDigits_ne {message message' : Felt}
    (h : message.val % 2 ^ 248 ≠ message'.val % 2 ^ 248) :
  Digits.toDigits WOTS_W WOTS_LEN1 message.val ≠ Digits.toDigits WOTS_W WOTS_LEN1 message'.val
  := by
  intro heq
  apply h
  have hvalue := congrArg (Digits.ofDigits WOTS_W) heq
  rw [Digits.ofDigits_toDigits_mod, Digits.ofDigits_toDigits_mod] at hvalue
  exact hvalue

/-- Of two messages that differ in their low 248 bits, each has a larger digit somewhere. -/
theorem exists_wotsDigits_lt {message message' : Felt}
    (h : message.val % 2 ^ 248 ≠ message'.val % 2 ^ 248) :
  ∃ i < WOTS_LEN, (wotsDigits message').getD i 0 < (wotsDigits message).getD i 0
  := by
  rw [wotsDigits_eq, wotsDigits_eq]
  have hlt := @Winternitz.exists_encode_lt WOTS_W WOTS_LEN2
    (Digits.toDigits WOTS_W WOTS_LEN1 message.val) (Digits.toDigits WOTS_W WOTS_LEN1 message'.val)
    (by rw [Digits.length_toDigits, Digits.length_toDigits])
    (fun _ hd => Digits.lt_of_mem_toDigits (by decide) hd)
    (by rw [Digits.length_toDigits]; exact checksum_lt) (toDigits_ne h)
  rw [Digits.length_toDigits] at hlt
  exact hlt

/-- The digits of every message stand for its low 248 bits, and those of the checksum for what
the digits leave, which is 930 at most.  For two messages that differ in these bits, each has
a larger digit at some position, so that no steps along the chains lead from the digits of
one to those of the other. -/
theorem digits_antichain :
  (∀ message, (messageToBaseW message).1.length = 62 ∧ (messageToBaseW message).2.length = 3
    ∧ (∀ digit ∈ wotsDigits message, digit < 16)
    ∧ Digits.ofDigits 16 (messageToBaseW message).1 = message.val % 2 ^ 248
    ∧ Digits.ofDigits 16 (messageToBaseW message).2
      = ((messageToBaseW message).1.map fun digit => 15 - digit).sum
    ∧ ((messageToBaseW message).1.map fun digit => 15 - digit).sum ≤ 930)
  ∧ ∀ message message' : Felt, message.val % 2 ^ 248 ≠ message'.val % 2 ^ 248 →
    (∃ i < 65, (wotsDigits message').getD i 0 < (wotsDigits message).getD i 0)
    ∧ (∃ i < 65, (wotsDigits message).getD i 0 < (wotsDigits message').getD i 0)
    ∧ ¬ ∃ steps : ℕ → ℕ, ∀ i < 65,
      (wotsDigits message).getD i 0 + steps i = (wotsDigits message').getD i 0
  := by
  constructor
  · intro message
    have hfst := messageToBaseW_fst message
    have hsnd : (messageToBaseW message).2 = Digits.toDigits WOTS_W WOTS_LEN2
        (Winternitz.checksum WOTS_W (messageToBaseW message).1) := checksumDigits_eq _ _
    have hle := Winternitz.checksum_le WOTS_W (messageToBaseW message).1
    have hlen : (messageToBaseW message).1.length = WOTS_LEN1 := by
      rw [hfst, Digits.length_toDigits]
    rw [hlen] at hle
    refine ⟨hlen, ?_, fun _ hdigit => lt_of_mem_wotsDigits hdigit, ?_, ?_, hle⟩
    · rw [hsnd, Digits.length_toDigits]
      rfl
    · rw [hfst]
      apply Digits.ofDigits_toDigits_mod
    · rw [hsnd]
      apply Digits.ofDigits_toDigits (hle.trans_lt checksum_lt)
  · intro message message' h
    obtain ⟨i, hi, hlt⟩ := exists_wotsDigits_lt h
    refine ⟨⟨i, hi, hlt⟩, exists_wotsDigits_lt (Ne.symm h), ?_⟩
    rintro ⟨steps, hsteps⟩
    have hsum := hsteps i hi
    omega

/-- The digests zero and one differ in their last digit, and in that of their checksum. -/
theorem digits_antichain_one :
  (∃ i < 65, (wotsDigits 1).getD i 0 < (wotsDigits 0).getD i 0)
    ∧ ∃ i < 65, (wotsDigits 0).getD i 0 < (wotsDigits 1).getD i 0
  := by
  obtain ⟨hlt, hgt, _⟩ := digits_antichain.2 0 1 (by decide)
  exact ⟨hlt, hgt⟩

end ZkApi.Stark
