import ZkApi.Stark.Verifier

/-!
# Verification of XMSS signatures in Cairo

The programs in Cairo verify the signatures again, and panic where a signature is wrong.  Their
verifier cuts the digits of a digest from its low end, and the digits of the checksum by other
divisions; it counts the steps of a chain from where the chain starts; and it rejects an index
that the tree has no leaf for only after it has climbed.  It panics on the same signatures as
the verifier in Rust rejects, as long as the authentication path has one sibling or more and at
most 20.
-/

namespace ZkApi.Cairo

open Stark (Felt XmssSignature feltToField fieldToFelt)

/-! ### The language -/

/-- `assert`. -/
def assert (condition : Bool) (message : String) : Except String Unit :=
  if condition then .ok () else .error message

/-- Addition of `u32`. -/
def u32Add (a b : U32) : Except String U32 :=
  if a.toNat + b.toNat < 2 ^ 32 then .ok (a + b) else .error "u32_add Overflow"

/-- Subtraction of `u32`. -/
def u32Sub (a b : U32) : Except String U32 :=
  if b ≤ a then .ok (a - b) else .error "u32_sub Overflow"

/-- The conversion of a `u256` to a `u32`. -/
def u256ToU32 (a : U256) : Except String U32 :=
  if a.toNat < 2 ^ 32 then .ok (a.setWidth 32) else .error "Option::unwrap failed."

/-- The conversion of a `u32` to a field element. -/
def u32ToFelt (a : U32) : Felt :=
  feltToField (a.setWidth 256)

/-- The element of an array or a span at an index. -/
def elementAt {α : Type} (xs : List α) (i : U32) : Except String α :=
  match xs[i.toNat]? with
  | some x => .ok x
  | none => .error "Index out of bounds"

/-- The loop `while i < n` whose body ends with `i += 1`, over the variables that the body
assigns. -/
def whileBelow {σ : Type} (n : ℕ) (body : U32 → σ → Except String σ) (state : σ) :
    Except String σ :=
  (List.range n).foldlM (fun state i => body (BitVec.ofNat 32 i) state) state

/-! ### Constants -/

def WOTS_W : U32 := 16

def XMSS_TREE_HEIGHT : ℕ := 20

def DOMAIN_XMSS_LEAF : Felt := 0x7a6b6170692e786d73732e6c656166

def DOMAIN_XMSS_NODE : Felt := 0x7a6b6170692e786d73732e6e6f6465

def DOMAIN_XMSS_CHAIN : Felt := 0x7a6b6170692e786d73732e636861696e

def DOMAIN_XMSS_MSG : Felt := 0x7a6b6170692e786d73732e6d7367

/-! ### Digits -/

/-- The body of the loop of `message_to_base_w` that cuts off the lowest digit. -/
def nibbleStep (state : U256 × List U32) : Except String (U256 × List U32) := do
  let (remaining, lsbNibbles) := state
  let digit ← u256ToU32 (remaining % 16)
  return (remaining / 16, lsbNibbles ++ [digit])

/-- The body of the loop of `message_to_base_w` that turns the digits round. -/
def digitStep (lsbNibbles : List U32) (i : U32) (state : List U32 × U32) :
    Except String (List U32 × U32) := do
  let (digits, checksum) := state
  let digit ← elementAt lsbNibbles (← u32Sub 61 i)
  let checksum ← u32Add checksum (← u32Sub (← u32Sub WOTS_W 1) digit)
  return (digits ++ [digit], checksum)

/-- `message_to_base_w`. -/
def messageToBaseW (message : Felt) : Except String (List U32) := do
  let (_, lsbNibbles) ← whileBelow 62 (fun _ => nibbleStep) (fieldToFelt message, [])
  let (digits, checksum) ← whileBelow 62 (digitStep lsbNibbles) ([], 0)
  return digits ++ [checksum / 256, checksum % 256 / 16, checksum % 16]

section

variable (poseidonHashSpan : List Felt → Felt)

/-! ### One-time signatures -/

/-- `chain_step`. -/
def chainStep (value step : Felt) : Felt :=
  poseidonHashSpan [DOMAIN_XMSS_CHAIN, value, step]

/-- `chain`. -/
def chain (value : Felt) (start steps : U32) : Except String Felt :=
  let body := fun i current => do
    let stepIndex := u32ToFelt (← u32Add start i)
    return chainStep poseidonHashSpan current stepIndex
  whileBelow steps.toNat body value

/-- The body of the loop of `wots_verify`. -/
def recoverStep (wotsSig : List Felt) (digits : List U32) (i : U32) (pkValues : List Felt) :
    Except String (List Felt) := do
  let digit ← elementAt digits i
  let steps ← u32Sub (← u32Sub WOTS_W 1) digit
  let recovered ← chain poseidonHashSpan (← elementAt wotsSig i) digit steps
  return pkValues ++ [recovered]

/-- `wots_verify`. -/
def wotsVerify (wotsSig : List Felt) (message : Felt) : Except String (List Felt) := do
  assert (wotsSig.length = 65) "invalid wots sig len"
  let digits ← messageToBaseW message
  whileBelow 65 (recoverStep poseidonHashSpan wotsSig digits) []

/-- `wots_pk_to_leaf`. -/
def wotsPkToLeaf (pkValues : List Felt) : Except String Felt := do
  assert (pkValues.length = 65) "invalid pk values len"
  let append := fun i preimage => return preimage ++ [← elementAt pkValues i]
  let preimage ← whileBelow 65 append [DOMAIN_XMSS_LEAF]
  return poseidonHashSpan preimage

/-! ### Authentication paths -/

/-- `xmss_node_hash`. -/
def xmssNodeHash (left right : Felt) : Felt :=
  poseidonHashSpan [DOMAIN_XMSS_NODE, left, right]

/-- The body of the loop of `verify_auth_path`. -/
def pathStep (authPath : List Felt) (i : U32) (state : Felt × U32) :
    Except String (Felt × U32) := do
  let (current, idx) := state
  let sibling ← elementAt authPath i
  let bit := idx % 2
  let current := if bit = 0 then xmssNodeHash poseidonHashSpan current sibling
    else xmssNodeHash poseidonHashSpan sibling current
  return (current, idx / 2)

/-- `verify_auth_path`. -/
def verifyAuthPath (leaf : Felt) (leafIndex : U32) (authPath : List Felt) (root : Felt) :
    Except String Unit := do
  let treeHeight := authPath.length
  assert (0 < treeHeight) "empty auth path"
  assert (treeHeight ≤ XMSS_TREE_HEIGHT) "auth path too long"
  let (current, idx) ← whileBelow treeHeight (pathStep poseidonHashSpan authPath)
    (leaf, leafIndex)
  assert (idx = 0) "leaf index exceeds tree"
  assert (current = root) "xmss auth path invalid"

/-- `verify_xmss`. -/
def verifyXmss (root message : Felt) (leafIndex : U32) (wotsSig authPath : List Felt) :
    Except String Unit := do
  let digest := poseidonHashSpan [DOMAIN_XMSS_MSG, message]
  let pkValues ← wotsVerify poseidonHashSpan wotsSig digest
  let leaf ← wotsPkToLeaf poseidonHashSpan pkValues
  verifyAuthPath poseidonHashSpan leaf leafIndex authPath root

end

/-! ### Running the language -/

section

variable {α σ : Type}

/-- What follows an assertion runs where it holds. -/
theorem assert_bind {condition : Bool} {message : String} {next : Unit → Except String α} {x : α} :
  (assert condition message >>= next) = .ok x ↔ condition = true ∧ next () = .ok x
  := by
  rw [assert]
  split
  case isTrue h => exact (and_iff_right h).symm
  case isFalse h =>
    constructor
    · rintro ⟨⟩
    · rintro ⟨hcondition, _⟩
      exact absurd hcondition h

theorem assert_eq_ok {condition : Bool} {message : String} :
  assert condition message = .ok () ↔ condition = true
  := by
  rw [← bind_pure (assert condition message), assert_bind]
  exact and_iff_left rfl

theorem ok_bind {x : α} {next : α → Except String σ} :
  (Except.ok x >>= next) = next x
  := rfl

theorem u32Add_ofNat {a b : ℕ} (h : a + b < 2 ^ 32) :
  u32Add (BitVec.ofNat 32 a) (BitVec.ofNat 32 b) = .ok (BitVec.ofNat 32 (a + b))
  := by
  have ha : a % 2 ^ 32 = a := Nat.mod_eq_of_lt (by omega)
  have hb : b % 2 ^ 32 = b := Nat.mod_eq_of_lt (by omega)
  rw [u32Add, BitVec.toNat_ofNat, BitVec.toNat_ofNat, ha, hb, if_pos h, BitVec.ofNat_add]

theorem u32Sub_ofNat {a b : ℕ} (hle : b ≤ a) (ha : a < 2 ^ 32) :
  u32Sub (BitVec.ofNat 32 a) (BitVec.ofNat 32 b) = .ok (BitVec.ofNat 32 (a - b))
  := by
  have hb : b < 2 ^ 32 := hle.trans_lt ha
  have hword : BitVec.ofNat 32 b ≤ BitVec.ofNat 32 a := by
    rw [BitVec.le_def, BitVec.toNat_ofNat, BitVec.toNat_ofNat, Nat.mod_eq_of_lt ha,
      Nat.mod_eq_of_lt hb]
    exact hle
  rw [u32Sub, if_pos hword, BitVec.ofNat_sub_ofNat_of_le a b hb hle]

theorem u256ToU32_ofNat {a : ℕ} (ha : a < 2 ^ 32) :
  u256ToU32 (BitVec.ofNat 256 a) = .ok (BitVec.ofNat 32 a)
  := by
  have hword : (BitVec.ofNat 256 a).toNat = a := by
    rw [BitVec.toNat_ofNat]
    apply Nat.mod_eq_of_lt (ha.trans (by norm_num))
  rw [u256ToU32, hword, if_pos ha, ← BitVec.ofNat_toNat, hword]

theorem u32ToFelt_ofNat {a : ℕ} (ha : a < 2 ^ 32) :
  u32ToFelt (BitVec.ofNat 32 a) = feltToField (BitVec.ofNat 256 a)
  := by
  rw [u32ToFelt, ← BitVec.ofNat_toNat, BitVec.toNat_ofNat, Nat.mod_eq_of_lt ha]

theorem elementAt_ofNat {xs : List α} {i : ℕ} (hi : i < xs.length) (hword : i < 2 ^ 32) :
  elementAt xs (BitVec.ofNat 32 i) = .ok xs[i]
  := by
  rw [elementAt, BitVec.toNat_ofNat, Nat.mod_eq_of_lt hword, List.getElem?_eq_getElem hi]

/-- A loop goes through the states that its body leads through. -/
theorem whileBelow_eq_ok {n : ℕ} {body : U32 → σ → Except String σ} (states : ℕ → σ)
    (hbody : ∀ i < n, body (BitVec.ofNat 32 i) (states i) = .ok (states (i + 1))) :
  whileBelow n body (states 0) = .ok (states n)
  := by
  rw [whileBelow]
  induction n with
  | zero => rfl
  | succ n ih =>
    rw [List.range_succ, List.foldlM_append, ih fun i hi => hbody i (hi.trans n.lt_succ_self)]
    simp only [List.foldlM_cons, List.foldlM_nil, bind_pure]
    apply hbody n n.lt_succ_self

end

/-! ### Digits -/

/-- The digit of a message that is the given number of places from its low end. -/
def nibble (message : Felt) (place : ℕ) : ℕ :=
  message.val / 16 ^ place % 16

theorem nibble_lt (message : Felt) (place : ℕ) :
  nibble message place < 16
  := Nat.mod_lt _ (by norm_num)

/-- The digits of a message, lowest first. -/
def lsbNibbles (message : Felt) (n : ℕ) : List U32 :=
  (List.range n).map fun place => BitVec.ofNat 32 (nibble message place)

/-- The first digits of a message, highest first. -/
def msbNibbles (message : Felt) (n : ℕ) : List ℕ :=
  (List.range n).map fun i => nibble message (61 - i)

/-- The checksum of the first digits of a message. -/
def nibbleChecksum (message : Felt) (n : ℕ) : ℕ :=
  Winternitz.checksum Stark.WOTS_W (msbNibbles message n)

theorem nibbleChecksum_le (message : Felt) (n : ℕ) :
  nibbleChecksum message n ≤ n * 15
  := by
  have hle := Winternitz.checksum_le Stark.WOTS_W (msbNibbles message n)
  rw [msbNibbles, List.length_map, List.length_range] at hle
  exact hle

theorem nibbleChecksum_succ (message : Felt) (n : ℕ) :
  nibbleChecksum message (n + 1) = nibbleChecksum message n + (15 - nibble message (61 - n))
  := by
  rw [nibbleChecksum, nibbleChecksum, msbNibbles, List.range_succ, List.map_append,
    Winternitz.checksum, List.map_append, List.sum_append]
  rfl

/-- A round of the first loop cuts off a digit. -/
theorem nibbleStep_eq (message : Felt) (i : ℕ) :
  nibbleStep (BitVec.ofNat 256 (message.val / 16 ^ i), lsbNibbles message i)
    = .ok (BitVec.ofNat 256 (message.val / 16 ^ (i + 1)), lsbNibbles message (i + 1))
  := by
  have hlt : message.val / 16 ^ i < 2 ^ 256 :=
    (Nat.div_le_self _ _).trans_lt (message.isLt.trans (by norm_num [Stark.fieldPrime]))
  have hmod : BitVec.ofNat 256 (message.val / 16 ^ i) % 16 = BitVec.ofNat 256 (nibble message i) := by
    apply BitVec.eq_of_toNat_eq
    rw [BitVec.toNat_umod, BitVec.toNat_ofNat, Nat.mod_eq_of_lt hlt, BitVec.toNat_ofNat,
      Nat.mod_eq_of_lt ((nibble_lt message i).trans (by norm_num))]
    rfl
  have hdiv : BitVec.ofNat 256 (message.val / 16 ^ i) / 16
      = BitVec.ofNat 256 (message.val / 16 ^ (i + 1)) := by
    apply BitVec.eq_of_toNat_eq
    rw [BitVec.toNat_udiv, BitVec.toNat_ofNat, Nat.mod_eq_of_lt hlt, BitVec.toNat_ofNat, pow_succ,
      ← Nat.div_div_eq_div_mul, Nat.mod_eq_of_lt ((Nat.div_le_self _ _).trans_lt hlt)]
    rfl
  have hdigit := u256ToU32_ofNat ((nibble_lt message i).trans (by norm_num))
  rw [nibbleStep]
  simp only [hmod, hdiv, hdigit, lsbNibbles, List.range_succ, List.map_append]
  rfl

/-- A round of the second loop appends the highest digit that is left. -/
theorem digitStep_eq (message : Felt) {i : ℕ} (hi : i < 62) :
  digitStep (lsbNibbles message 62) (BitVec.ofNat 32 i)
      ((msbNibbles message i).map (BitVec.ofNat 32), BitVec.ofNat 32 (nibbleChecksum message i))
    = .ok ((msbNibbles message (i + 1)).map (BitVec.ofNat 32),
      BitVec.ofNat 32 (nibbleChecksum message (i + 1)))
  := by
  have hlt := nibble_lt message (61 - i)
  have hchecksum := nibbleChecksum_le message i
  have hindex : u32Sub 61 (BitVec.ofNat 32 i) = .ok (BitVec.ofNat 32 (61 - i)) :=
    @u32Sub_ofNat 61 i (by omega) (by norm_num)
  have hlen : 61 - i < (lsbNibbles message 62).length := by
    rw [lsbNibbles, List.length_map, List.length_range]
    omega
  have hdigit := elementAt_ofNat hlen (by omega)
  have hnibble : (lsbNibbles message 62)[61 - i] = BitVec.ofNat 32 (nibble message (61 - i)) := by
    simp only [lsbNibbles, List.getElem_map, List.getElem_range]
  have hlast : u32Sub WOTS_W 1 = .ok (BitVec.ofNat 32 15) := rfl
  have hrest := @u32Sub_ofNat 15 (nibble message (61 - i)) (by omega) (by norm_num)
  have hsum := @u32Add_ofNat (nibbleChecksum message i) (15 - nibble message (61 - i)) (by omega)
  rw [hnibble] at hdigit
  rw [digitStep]
  simp only [hindex, hdigit, hlast, hrest, hsum, nibbleChecksum_succ, ok_bind, msbNibbles,
    List.range_succ, List.map_append]
  rfl

theorem msbNibbles_eq (message : Felt) :
  msbNibbles message 62 = (Stark.messageToBaseW message).1
  := by
  apply List.map_congr_left
  intro i hi
  exact (Stark.messageDigit_eq message (List.mem_range.mp hi)).symm

/-- The two ways of writing a checksum. -/
theorem checksumDigits_eq {checksum : ℕ} (h : checksum ≤ 930) :
  [BitVec.ofNat 32 checksum / 256, BitVec.ofNat 32 checksum % 256 / 16,
      BitVec.ofNat 32 checksum % 16]
    = (Stark.checksumDigits 3 checksum).map (BitVec.ofNat 32)
  := by
  have hword : (BitVec.ofNat 32 checksum).toNat = checksum := by
    rw [BitVec.toNat_ofNat]
    apply Nat.mod_eq_of_lt (h.trans_lt (by norm_num))
  have h256 : (256 : U32).toNat = 256 := rfl
  have h16 : (16 : U32).toNat = 16 := rfl
  have hhigh : BitVec.ofNat 32 checksum / 256 = BitVec.ofNat 32 (checksum / 16 / 16 % 16) := by
    apply BitVec.eq_of_toNat_eq
    rw [BitVec.toNat_udiv, hword, h256, BitVec.toNat_ofNat]
    omega
  have hmiddle : BitVec.ofNat 32 checksum % 256 / 16 = BitVec.ofNat 32 (checksum / 16 % 16) := by
    apply BitVec.eq_of_toNat_eq
    rw [BitVec.toNat_udiv, BitVec.toNat_umod, hword, h256, h16, BitVec.toNat_ofNat]
    omega
  have hlow : BitVec.ofNat 32 checksum % 16 = BitVec.ofNat 32 (checksum % 16) := by
    apply BitVec.eq_of_toNat_eq
    rw [BitVec.toNat_umod, hword, h16, BitVec.toNat_ofNat]
    omega
  rw [hhigh, hmiddle, hlow]
  rfl

/-- The digits are those of the signer, for every digest. -/
theorem messageToBaseW_eq (message : Felt) :
  messageToBaseW message = .ok ((Stark.wotsDigits message).map (BitVec.ofNat 32))
  := by
  have hlow : whileBelow 62 (fun _ => nibbleStep) (fieldToFelt message, [])
      = .ok (BitVec.ofNat 256 (message.val / 16 ^ 62), lsbNibbles message 62) := by
    have hloop := @whileBelow_eq_ok _ 62 (fun _ => nibbleStep)
      (fun i => (BitVec.ofNat 256 (message.val / 16 ^ i), lsbNibbles message i))
      fun i _ => nibbleStep_eq message i
    rw [pow_zero, Nat.div_one] at hloop
    exact hloop
  have hhigh : whileBelow 62 (digitStep (lsbNibbles message 62)) ([], 0)
      = .ok ((msbNibbles message 62).map (BitVec.ofNat 32),
        BitVec.ofNat 32 (nibbleChecksum message 62)) :=
    whileBelow_eq_ok (fun i => ((msbNibbles message i).map (BitVec.ofNat 32),
      BitVec.ofNat 32 (nibbleChecksum message i))) fun _ hi => digitStep_eq message hi
  rw [messageToBaseW, hlow, ok_bind]
  dsimp only
  rw [hhigh, ok_bind]
  dsimp only
  rw [checksumDigits_eq (nibbleChecksum_le message 62), ← List.map_append, nibbleChecksum,
    msbNibbles_eq]
  rfl

theorem length_wotsDigits (message : Felt) :
  (Stark.wotsDigits message).length = 65
  := by
  rw [Stark.wotsDigits_eq, Winternitz.length_encode, Digits.length_toDigits]
  rfl

theorem map_toNat_wotsDigits (message : Felt) :
  ((Stark.wotsDigits message).map (BitVec.ofNat 32)).map BitVec.toNat = Stark.wotsDigits message
  := by
  have hself : ∀ digit ∈ Stark.wotsDigits message,
      (BitVec.toNat ∘ BitVec.ofNat 32) digit = id digit := by
    intro digit hdigit
    have hlt : digit < 16 := Stark.lt_of_mem_wotsDigits hdigit
    rw [Function.comp_apply, BitVec.toNat_ofNat]
    apply Nat.mod_eq_of_lt (by omega)
  rw [List.map_map, List.map_congr_left hself, List.map_id]

/-! ### One-time signatures -/

/-- The domains are those of the verifier in Rust. -/
theorem domains_eq :
  DOMAIN_XMSS_LEAF = feltToField (Stark.domainFelt "zkapi.xmss.leaf")
    ∧ DOMAIN_XMSS_NODE = feltToField (Stark.domainFelt "zkapi.xmss.node")
    ∧ DOMAIN_XMSS_CHAIN = feltToField (Stark.domainFelt "zkapi.xmss.chain")
    ∧ DOMAIN_XMSS_MSG = feltToField (Stark.domainFelt "zkapi.xmss.msg")
  := by decide

section

variable {poseidonHashSpan : List Felt → Felt}

theorem chainStep_eq (value step : Felt) :
  chainStep poseidonHashSpan value step
    = Stark.hashUnder poseidonHashSpan "zkapi.xmss.chain" [value, step]
  := by
  obtain ⟨_, _, hchain, _⟩ := domains_eq
  rw [chainStep, hchain]
  rfl

theorem xmssNodeHash_eq :
  xmssNodeHash poseidonHashSpan = Stark.xmssNodeHash poseidonHashSpan
  := by
  obtain ⟨_, hnode, _⟩ := domains_eq
  funext left right
  rw [xmssNodeHash, hnode]
  rfl

/-- The chains are the same, though their steps are counted from their start. -/
theorem chain_eq (value : Felt) {start steps : ℕ} (h : start + steps < 2 ^ 32) :
  chain poseidonHashSpan value (BitVec.ofNat 32 start) (BitVec.ofNat 32 steps)
    = .ok (Stark.chain poseidonHashSpan value start steps)
  := by
  have hsteps : (BitVec.ofNat 32 steps).toNat = steps := by
    rw [BitVec.toNat_ofNat]
    apply Nat.mod_eq_of_lt (by omega)
  rw [chain, hsteps]
  apply whileBelow_eq_ok (Stark.chain poseidonHashSpan value start)
  intro i hi
  rw [u32Add_ofNat (by omega), ok_bind, u32ToFelt_ofNat (by omega)]
  dsimp only
  rw [chainStep_eq]
  rfl

/-- The public key that the verifier in Rust recovers, as a list. -/
def recoveredValues (poseidonHashSpan : List Felt → Felt) (wotsSig : List Felt) (message : Felt) :
    List Felt :=
  List.ofFn (Stark.wotsVerify poseidonHashSpan (fun i => wotsSig.getD i 0) message)

theorem length_recoveredValues {wotsSig : List Felt} {message : Felt} :
  (recoveredValues poseidonHashSpan wotsSig message).length = 65
  := List.length_ofFn

theorem getElem_recoveredValues {wotsSig : List Felt} {message : Felt} {i : ℕ}
    (hi : i < (recoveredValues poseidonHashSpan wotsSig message).length) :
  (recoveredValues poseidonHashSpan wotsSig message)[i]
    = Stark.chain poseidonHashSpan (wotsSig.getD i 0) ((Stark.wotsDigits message).getD i 0)
      (15 - (Stark.wotsDigits message).getD i 0)
  := by
  simp only [recoveredValues, List.getElem_ofFn, Stark.wotsVerify, Stark.getD_wotsDigits]
  rfl

/-- A round walks a chain to its end. -/
theorem recoverStep_eq {wotsSig : List Felt} (hlen : wotsSig.length = 65) (message : Felt) {i : ℕ}
    (hi : i < 65) :
  recoverStep poseidonHashSpan wotsSig ((Stark.wotsDigits message).map (BitVec.ofNat 32))
      (BitVec.ofNat 32 i) ((recoveredValues poseidonHashSpan wotsSig message).take i)
    = .ok ((recoveredValues poseidonHashSpan wotsSig message).take (i + 1))
  := by
  have hlt : (Stark.wotsDigits message).getD i 0 < 16 := Stark.getD_wotsDigits_lt message i
  have hdigits : i < (Stark.wotsDigits message).length := by
    rw [length_wotsDigits]
    exact hi
  have hdigit := @elementAt_ofNat _ ((Stark.wotsDigits message).map (BitVec.ofNat 32)) i
    (by rwa [List.length_map]) (by omega)
  have hvalue := @elementAt_ofNat _ wotsSig i (by omega) (by omega)
  rw [List.getElem_map, ← List.getD_eq_getElem _ 0] at hdigit
  rw [← List.getD_eq_getElem _ 0] at hvalue
  have hlast : u32Sub WOTS_W 1 = .ok (BitVec.ofNat 32 15) := rfl
  have hsteps := @u32Sub_ofNat 15 ((Stark.wotsDigits message).getD i 0) (by omega) (by norm_num)
  have hchain := @chain_eq poseidonHashSpan (wotsSig.getD i 0) ((Stark.wotsDigits message).getD i 0)
    (15 - (Stark.wotsDigits message).getD i 0) (by omega)
  rw [recoverStep, hdigit, ok_bind, hlast, ok_bind, hsteps, ok_bind, hvalue, ok_bind, hchain,
    ok_bind, ← List.take_append_getElem (length_recoveredValues.symm ▸ hi), getElem_recoveredValues]
  rfl

/-- The ends of the chains are those that the verifier in Rust recovers. -/
theorem wotsVerify_eq {wotsSig : List Felt} (hlen : wotsSig.length = 65) (message : Felt) :
  wotsVerify poseidonHashSpan wotsSig message
    = .ok (recoveredValues poseidonHashSpan wotsSig message)
  := by
  have hassert : assert (wotsSig.length = 65) "invalid wots sig len" = .ok () :=
    assert_eq_ok.mpr (decide_eq_true hlen)
  have hall := List.take_of_length_le
    (Nat.le_of_eq (@length_recoveredValues poseidonHashSpan wotsSig message))
  rw [wotsVerify, hassert, ok_bind, messageToBaseW_eq, ok_bind, ← hall]
  apply whileBelow_eq_ok fun i => (recoveredValues poseidonHashSpan wotsSig message).take i
  intro i hi
  apply recoverStep_eq hlen message hi

/-- A public key is hashed to the leaf that Rust hashes it to. -/
theorem wotsPkToLeaf_eq (publicKey : Fin Stark.WOTS_LEN → Felt) :
  wotsPkToLeaf poseidonHashSpan (List.ofFn publicKey)
    = .ok (Stark.wotsPkToLeaf poseidonHashSpan publicKey)
  := by
  have hlen : (List.ofFn publicKey).length = 65 := List.length_ofFn
  have hassert : assert ((List.ofFn publicKey).length = 65) "invalid pk values len" = .ok () :=
    assert_eq_ok.mpr (decide_eq_true hlen)
  obtain ⟨hleaf, _⟩ := domains_eq
  have hloop := @whileBelow_eq_ok _ 65
    (fun i preimage => return preimage ++ [← elementAt (List.ofFn publicKey) i])
    (fun i => DOMAIN_XMSS_LEAF :: (List.ofFn publicKey).take i) (by
      intro i hi
      have hi' : i < (List.ofFn publicKey).length := hlen.symm ▸ hi
      rw [elementAt_ofNat hi' (by omega), ok_bind, ← List.take_append_getElem hi']
      rfl)
  rw [List.take_zero, List.take_of_length_le (Nat.le_of_eq hlen)] at hloop
  rw [wotsPkToLeaf, hassert, ok_bind]
  dsimp only
  rw [hloop, hleaf]
  rfl

/-! ### Authentication paths -/

/-- A round hashes with a sibling, on the side that the index tells. -/
theorem pathStep_eq (leaf : Felt) (leafIndex : U32) {authPath : List Felt} {i : ℕ}
    (hi : i < authPath.length) (hword : i < 2 ^ 32) :
  pathStep poseidonHashSpan authPath (BitVec.ofNat 32 i)
      (SparseMerkle.climb (Stark.xmssNodeHash poseidonHashSpan) leafIndex.toNat leaf
        (authPath.take i), BitVec.ofNat 32 (leafIndex.toNat / 2 ^ i))
    = .ok (SparseMerkle.climb (Stark.xmssNodeHash poseidonHashSpan) leafIndex.toNat leaf
        (authPath.take (i + 1)), BitVec.ofNat 32 (leafIndex.toNat / 2 ^ (i + 1)))
  := by
  have hlen : (authPath.take i).length = i := by
    rw [List.length_take]
    apply Nat.min_eq_left hi.le
  have hidx : (BitVec.ofNat 32 (leafIndex.toNat / 2 ^ i)).toNat = leafIndex.toNat / 2 ^ i := by
    rw [BitVec.toNat_ofNat]
    apply Nat.mod_eq_of_lt ((Nat.div_le_self _ _).trans_lt leafIndex.isLt)
  have htwo : (2 : U32).toNat = 2 := rfl
  have hhalf : BitVec.ofNat 32 (leafIndex.toNat / 2 ^ i) / 2
      = BitVec.ofNat 32 (leafIndex.toNat / 2 ^ (i + 1)) := by
    apply BitVec.eq_of_toNat_eq
    rw [BitVec.toNat_udiv, hidx, htwo, Nat.div_div_eq_div_mul, ← pow_succ, BitVec.toNat_ofNat,
      Nat.mod_eq_of_lt ((Nat.div_le_self _ _).trans_lt leafIndex.isLt)]
  have hbit : BitVec.ofNat 32 (leafIndex.toNat / 2 ^ i) % 2 = 0
      ↔ leafIndex.toNat / 2 ^ i % 2 = 0 := by
    rw [← BitVec.toNat_inj, BitVec.toNat_umod, hidx, htwo]
    rfl
  rw [pathStep, elementAt_ofNat hi hword, ok_bind]
  simp only [hbit, hhalf]
  rw [← List.take_append_getElem hi, SparseMerkle.climb_append, hlen, SparseMerkle.climb,
    SparseMerkle.climb, SparseMerkle.ordered, xmssNodeHash_eq]
  split
  · rfl
  · rfl

/-- An authentication path is verified as in Rust, as long as its length is allowed. -/
theorem verifyAuthPath_eq_ok {leaf : Felt} {leafIndex : U32} {authPath : List Felt} {root : Felt} :
  verifyAuthPath poseidonHashSpan leaf leafIndex authPath root = .ok ()
    ↔ 0 < authPath.length ∧ authPath.length ≤ 20 ∧ leafIndex.toNat < 2 ^ authPath.length
      ∧ SparseMerkle.climb (Stark.xmssNodeHash poseidonHashSpan) leafIndex.toNat leaf authPath
        = root
  := by
  dsimp only [verifyAuthPath]
  rw [assert_bind, assert_bind, decide_eq_true_iff, decide_eq_true_iff]
  apply and_congr_right
  intro _
  apply and_congr_right
  intro (hlen : authPath.length ≤ 20)
  have hloop := @whileBelow_eq_ok _ authPath.length (pathStep poseidonHashSpan authPath) _
    fun i hi => pathStep_eq leaf leafIndex hi (by omega)
  have hidx : BitVec.ofNat 32 (leafIndex.toNat / 2 ^ authPath.length) = 0
      ↔ leafIndex.toNat < 2 ^ authPath.length := by
    rw [← BitVec.toNat_inj, BitVec.toNat_ofNat,
      Nat.mod_eq_of_lt ((Nat.div_le_self _ _).trans_lt leafIndex.isLt)]
    apply Nat.div_eq_zero_iff_lt (by positivity)
  rw [pow_zero, Nat.div_one, BitVec.ofNat_toNat, BitVec.setWidth_eq, List.take_zero,
    SparseMerkle.climb, List.take_length] at hloop
  rw [hloop, ok_bind]
  dsimp only
  rw [assert_bind, assert_eq_ok, decide_eq_true_iff, decide_eq_true_iff, hidx]

/-! ### Signatures -/

/-- What Rust verifies, for the same values. -/
def signatureOf (epoch leafIndex : U32) (wotsSig authPath : List Felt) : XmssSignature where
  epoch := epoch
  leafIndex := leafIndex
  wotsSig := wotsSig.map fieldToFelt
  authPath := authPath.map fieldToFelt

theorem map_feltToField (xs : List Felt) :
  (xs.map fieldToFelt).map feltToField = xs
  := by
  rw [List.map_map]
  apply List.map_id'' Stark.feltToField_fieldToFelt

theorem getD_map_fieldToFelt (xs : List Felt) (i : ℕ) :
  feltToField ((xs.map fieldToFelt).getD i 0) = xs.getD i 0
  := by
  have hzero : (0 : Felt252) = fieldToFelt 0 := rfl
  rw [hzero, List.getD_map, Stark.feltToField_fieldToFelt]

/-- The verifier in Rust climbs from the leaf that Cairo recovers. -/
theorem verifyInner_signatureOf {root message : Felt} {epoch leafIndex : U32}
    {wotsSig authPath : List Felt} :
  Stark.XmssVerifier.verifyInner poseidonHashSpan (fieldToFelt root) (fieldToFelt message)
      (signatureOf epoch leafIndex wotsSig authPath) = true
    ↔ SparseMerkle.climb (Stark.xmssNodeHash poseidonHashSpan) leafIndex.toNat
      (Stark.wotsPkToLeaf poseidonHashSpan (Stark.wotsVerify poseidonHashSpan
        (fun i => wotsSig.getD i 0) (poseidonHashSpan [DOMAIN_XMSS_MSG, message]))) authPath = root
  := by
  obtain ⟨_, _, _, hmsg⟩ := domains_eq
  have hdigest : Stark.xmssHashMessage poseidonHashSpan (fieldToFelt message)
      = poseidonHashSpan [DOMAIN_XMSS_MSG, message] := by
    rw [Stark.xmssHashMessage, Stark.hashUnder, Stark.feltToField_fieldToFelt, hmsg]
  simp only [Stark.XmssVerifier.verifyInner, beq_iff_eq, Stark.fieldToFelt_inj,
    Stark.climbAuthPath_eq, Stark.recoveredLeaf, Stark.recoveredKey, signatureOf, map_feltToField,
    getD_map_fieldToFelt, hdigest]

/-- Whatever the lengths, the verifier runs to its end where that in Rust accepts and the path
has one sibling or more and at most 20. -/
theorem verifyXmss_eq_ok {root message : Felt} {leafIndex : U32} {wotsSig authPath : List Felt}
    (epoch : U32) :
  verifyXmss poseidonHashSpan root message leafIndex wotsSig authPath = .ok ()
    ↔ 0 < authPath.length ∧ authPath.length ≤ 20
      ∧ Stark.XmssVerifier.verifyForHeight poseidonHashSpan (fieldToFelt root)
        (fieldToFelt message) (signatureOf epoch leafIndex wotsSig authPath) authPath.length = true
  := by
  have hwots : (signatureOf epoch leafIndex wotsSig authPath).wotsSig.length = wotsSig.length :=
    List.length_map _
  have hpath : (signatureOf epoch leafIndex wotsSig authPath).authPath.length = authPath.length :=
    List.length_map _
  rw [Stark.XmssVerifier.verifyForHeight_iff, Stark.XmssSignature.validateForHeight_eq_ok, hwots,
    verifyInner_signatureOf]
  by_cases hlen : wotsSig.length = 65
  case pos =>
    rw [verifyXmss, wotsVerify_eq hlen, ok_bind, recoveredValues, wotsPkToLeaf_eq, ok_bind,
      verifyAuthPath_eq_ok]
    constructor
    · rintro ⟨hpos, hle, hindex, hroot⟩
      exact ⟨hpos, hle, ⟨hlen, hpath, by omega, hindex⟩, hroot⟩
    · rintro ⟨hpos, hle, ⟨_, _, _, hindex⟩, hroot⟩
      exact ⟨hpos, hle, hindex, hroot⟩
  case neg =>
    constructor
    · intro hverify
      dsimp only [verifyXmss, wotsVerify] at hverify
      rw [bind_assoc, assert_bind, decide_eq_true_iff] at hverify
      exact absurd hverify.1 hlen
    · rintro ⟨_, _, ⟨hsig, _⟩, _⟩
      exact absurd hsig hlen

/-- The verifiers agree: for authentication paths of 1 to 20 siblings, the verifier in Cairo does
not panic if and only if the one in Rust returns true; and the digits of every digest are the
same. -/
theorem verifyXmss_agrees {root message : Felt} {leafIndex : U32} {wotsSig authPath : List Felt}
    (epoch : U32) (hpos : 1 ≤ authPath.length) (hle : authPath.length ≤ 20) :
  (verifyXmss poseidonHashSpan root message leafIndex wotsSig authPath = .ok ()
    ↔ Stark.XmssVerifier.verifyForHeight poseidonHashSpan (fieldToFelt root) (fieldToFelt message)
      (signatureOf epoch leafIndex wotsSig authPath) authPath.length = true)
  ∧ ∀ digest, ∃ digits, messageToBaseW digest = .ok digits ∧ digits.length = 65
    ∧ digits.map BitVec.toNat = (Stark.messageToBaseW digest).1 ++ (Stark.messageToBaseW digest).2
  := by
  constructor
  · rw [verifyXmss_eq_ok epoch, and_iff_right (Nat.lt_of_succ_le hpos), and_iff_right hle]
  · intro digest
    refine ⟨_, messageToBaseW_eq digest, ?_, map_toNat_wotsDigits digest⟩
    rw [List.length_map, length_wotsDigits]

end

namespace XmssExample

open Stark.XmssExample (sumHash)

/-- Both verifiers accept a signature at the second leaf of a tree with two. -/
theorem verifyXmss_agrees_example :
  verifyXmss sumHash 122043796938404598299256239060815462251768 7 1 (List.replicate 65 0) [5]
    = .ok ()
  := (verifyXmss_agrees 0 (by decide) (by decide)).1.mpr (by decide +kernel)

end XmssExample

end ZkApi.Cairo
