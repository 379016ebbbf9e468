import ZkApi.Stark.Hashes

/-!
# XMSS signatures

One-time signatures of Winternitz chains, and a Merkle tree over their public keys.  A leaf
of the tree must sign once at most: the key pair itself keeps a cursor, but signs with any
index below its capacity that it is told was reserved.
-/

namespace ZkApi.Stark

def WOTS_W : ℕ := 16

def WOTS_LEN1 : ℕ := 62

def WOTS_LEN2 : ℕ := 3

def WOTS_LEN : ℕ := 65

section

variable (poseidonHashMany : List Felt → Felt)

/-- The hash of field elements under a domain. -/
def hashUnder (label : String) (inputs : List Felt) : Felt :=
  poseidonHashMany (feltToField (domainFelt label) :: inputs)

/-! ### One-time signatures -/

/-- `chain_step`. -/
def chainStep (value : Felt) (step : ℕ) : Felt :=
  hashUnder poseidonHashMany "zkapi.xmss.chain" [value, feltToField (BitVec.ofNat 256 step)]

/-- `chain`. -/
def chain (value : Felt) (start : ℕ) : ℕ → Felt
  | 0 => value
  | steps + 1 => chainStep poseidonHashMany (chain value start steps) (start + steps)

/-- `wots_keygen`. -/
def wotsKeygen (secretKey : Fin WOTS_LEN → Felt) (i : Fin WOTS_LEN) : Felt :=
  chain poseidonHashMany (secretKey i) 0 (WOTS_W - 1)

/-- `wots_pk_to_leaf`. -/
def wotsPkToLeaf (publicKey : Fin WOTS_LEN → Felt) : Felt :=
  hashUnder poseidonHashMany "zkapi.xmss.leaf" (List.ofFn publicKey)

/-- The digit of a message at a position, four bits of its bytes. -/
def messageDigit (bytes : List UInt8) (i : ℕ) : ℕ :=
  let bitOffset := 8 + i * 4
  let byteIdx := bitOffset / 8
  let bitInByte := bitOffset % 8
  if bitInByte ≤ 4 then
    ((bytes.getD byteIdx 0 >>> UInt8.ofNat (4 - bitInByte)) &&& 0x0F).toNat
  else
    -- the digit spans two bytes
    let high := (bytes.getD byteIdx 0 <<< UInt8.ofNat (bitInByte - 4)) &&& 0x0F
    let low := bytes.getD (byteIdx + 1) 0 >>> UInt8.ofNat (12 - bitInByte)
    (high ||| low).toNat

/-- The digits of a checksum, most significant first. -/
def checksumDigits : ℕ → ℕ → List ℕ
  | 0, _ => []
  | n + 1, checksum => checksumDigits n (checksum / WOTS_W) ++ [checksum % WOTS_W]

/-- `message_to_base_w`. -/
def messageToBaseW (message : Felt) : List ℕ × List ℕ :=
  let bytes := (fieldToFelt message).asBytes.map UInt8.ofNat
  let msgDigits := (List.range WOTS_LEN1).map (messageDigit bytes)
  let checksum := (msgDigits.map (fun digit => WOTS_W - 1 - digit)).sum
  (msgDigits, checksumDigits WOTS_LEN2 checksum)

/-- `wots_sign`. -/
def wotsSign (secretKey : Fin WOTS_LEN → Felt) (message : Felt) (i : Fin WOTS_LEN) : Felt :=
  let digits := messageToBaseW message
  chain poseidonHashMany (secretKey i) 0
    (if i.val < WOTS_LEN1 then digits.1.getD i 0 else digits.2.getD (i - WOTS_LEN1) 0)

/-! ### Key pairs -/

/-- `xmss_node_hash`. -/
def xmssNodeHash (left right : Felt) : Felt :=
  hashUnder poseidonHashMany "zkapi.xmss.node" [left, right]

/-- `xmss_hash_message`. -/
def xmssHashMessage (message : Felt252) : Felt :=
  hashUnder poseidonHashMany "zkapi.xmss.msg" [feltToField message]

/-- The secret key of a leaf. -/
def secretKeyOf (seed : Felt) (i : ℕ) (j : Fin WOTS_LEN) : Felt :=
  hashUnder poseidonHashMany "zkapi.xmss.sk"
    [seed, feltToField (BitVec.ofNat 256 i), feltToField (BitVec.ofNat 256 j)]

/-- A level of the tree from the level below. -/
def parents : List Felt → List Felt
  | left :: right :: nodes => xmssNodeHash poseidonHashMany left right :: parents nodes
  | _ => []

/-- The levels of the tree from the leaves up. -/
def levelsFrom (nodes : List Felt) : ℕ → List (List Felt)
  | 0 => [nodes]
  | height + 1 => nodes :: levelsFrom (parents poseidonHashMany nodes) height

/-- A key pair.  A tree of height 32 or more cannot be built. -/
structure XmssKeypair where
  secretKeys : List (Fin WOTS_LEN → Felt)
  tree : List (List Felt)
  root : Felt
  height : ℕ
  height_lt : height < 32

/-- `generate_with_height`, which panics at heights that a `u32` cannot be shifted by. -/
def generateWithHeight (seed : Felt) (height : ℕ) : Option XmssKeypair :=
  if h : height < 32 then
    let secretKeys := (List.range (2 ^ height)).map (secretKeyOf poseidonHashMany seed)
    let leaves := secretKeys.map fun sk =>
      wotsPkToLeaf poseidonHashMany (wotsKeygen poseidonHashMany sk)
    let tree := levelsFrom poseidonHashMany leaves height
    some {
      secretKeys := secretKeys
      tree := tree
      root := (tree.getD height []).getD 0 0
      height := height
      height_lt := h }
  else
    none

/-- A signature. -/
structure XmssSignature where
  epoch : U32
  leafIndex : U32
  wotsSig : List Felt252
  authPath : List Felt252
  deriving DecidableEq

namespace XmssKeypair

/-- `root_felt`. -/
def rootFelt (keypair : XmssKeypair) : Felt252 :=
  fieldToFelt keypair.root

/-- `capacity`. -/
def capacity (keypair : XmssKeypair) : U32 :=
  (1 : U32) <<< keypair.height

/-- The authentication path of a node, for the levels that are left. -/
def authPathFrom (keypair : XmssKeypair) (level nodeIdx : ℕ) : ℕ → List Felt252
  | 0 => []
  | left + 1 =>
      fieldToFelt ((keypair.tree.getD level []).getD (nodeIdx ^^^ 1) 0)
        :: keypair.authPathFrom (level + 1) (nodeIdx / 2) left

/-- `sign_reserved`, with the cursor of the key pair before and after. -/
def signReserved (keypair : XmssKeypair) (nextIndex index : U32) (message : Felt252) :
    Option XmssSignature × U32 :=
  if keypair.capacity ≤ index then
    (none, nextIndex)
  else if index = BitVec.allOnes 32 then
    (none, nextIndex)
  else
    let secretKey := keypair.secretKeys.getD index.toNat fun _ => 0
    let wotsSig := wotsSign poseidonHashMany secretKey (xmssHashMessage poseidonHashMany message)
    (some {
        epoch := 0
        leafIndex := index
        wotsSig := (List.ofFn wotsSig).map fieldToFelt
        authPath := keypair.authPathFrom 0 index.toNat keypair.height },
      if nextIndex < index + 1 then index + 1 else nextIndex)

end XmssKeypair

end

/-! ### Signatures of a key pair -/

/-- The elements of a signature can be read back from JSON. -/
structure XmssSignature.Canonical (s : XmssSignature) : Prop where
  wotsSig : ∀ x ∈ s.wotsSig, x.Canonical
  authPath : ∀ x ∈ s.authPath, x.Canonical

namespace XmssKeypair

variable {poseidonHashMany : List Felt → Felt} {keypair : XmssKeypair}

theorem height_of_generateWithHeight {seed : Felt} {height : ℕ}
    (h : generateWithHeight poseidonHashMany seed height = some keypair) :
  keypair.height = height
  := by
  rw [generateWithHeight] at h
  split at h
  case isFalse => cases h
  case isTrue =>
    cases h
    rfl

theorem toNat_capacity :
  keypair.capacity.toNat = 2 ^ keypair.height
  := by
  have hlt : 2 ^ keypair.height < 2 ^ 32 := Nat.pow_lt_pow_right (by norm_num) keypair.height_lt
  have hone : (1 : U32).toNat = 1 := rfl
  rw [capacity, BitVec.toNat_shiftLeft, hone, Nat.shiftLeft_eq, Nat.one_mul]
  apply Nat.mod_eq_of_lt hlt

theorem canonical_of_mem_authPathFrom {level nodeIdx left : ℕ} {x : Felt252}
    (h : x ∈ keypair.authPathFrom level nodeIdx left) :
  x.Canonical
  := by
  induction left generalizing level nodeIdx with
  | zero => cases h
  | succ left ih =>
    obtain rfl | h := List.mem_cons.mp h
    · apply canonical_fieldToFelt
    · apply ih h

/-- What is signed is signed at the index, below the capacity. -/
theorem signReserved_eq_some {nextIndex index : U32} {message : Felt252} {s : XmssSignature}
    (h : (keypair.signReserved poseidonHashMany nextIndex index message).1 = some s) :
  index < keypair.capacity ∧ s.leafIndex = index ∧ s.Canonical
  := by
  rw [signReserved] at h
  split at h
  case isTrue => cases h
  case isFalse hcapacity =>
    split at h
    case isTrue => cases h
    case isFalse =>
      cases h
      constructor
      · apply BitVec.not_le.mp hcapacity
      constructor
      · rfl
      constructor
      case wotsSig =>
        intro x hx
        obtain ⟨y, _, rfl⟩ := List.mem_map.mp hx
        apply canonical_fieldToFelt
      case authPath =>
        intro x hx
        apply canonical_of_mem_authPathFrom hx

/-- A key pair signs below its capacity. -/
theorem signReserved_isSome {nextIndex index : U32} {message : Felt252}
    (h : index < keypair.capacity) :
  (keypair.signReserved poseidonHashMany nextIndex index message).1.isSome
  := by
  have hlt : index.toNat < 2 ^ keypair.height := toNat_capacity ▸ BitVec.lt_def.mp h
  have hpow : 2 ^ keypair.height ≤ 2 ^ 31 :=
    Nat.pow_le_pow_right (by norm_num) (Nat.le_of_lt_succ keypair.height_lt)
  have hne : index ≠ BitVec.allOnes 32 := by
    rintro rfl
    rw [BitVec.toNat_allOnes] at hlt
    omega
  rw [signReserved, if_neg (BitVec.not_le.mpr h), if_neg hne]
  rfl

end XmssKeypair

end ZkApi.Stark
