import ZkApi.Library.SparseMerkle
import ZkApi.Stark.Wots

/-!
# Verification of XMSS signatures

The verifier walks the chains of a signature to their ends, hashes these to a leaf, and climbs
from the leaf along the authentication path.  It accepts every signature of a key pair.  It
takes the height of the tree from the signature, but the root binds it: a path that is too
short would have to start at a node, and one that is too long would have to pass a leaf.
-/

namespace ZkApi.Stark

open SparseMerkle

section

variable (poseidonHashMany : List Felt → Felt)

/-! ### Verification -/

/-- `wots_verify`. -/
def wotsVerify (signature : Fin WOTS_LEN → Felt) (message : Felt) (i : Fin WOTS_LEN) : Felt :=
  let digits := messageToBaseW message
  let digit := if i.val < WOTS_LEN1 then digits.1.getD i 0 else digits.2.getD (i - WOTS_LEN1) 0
  chain poseidonHashMany (signature i) digit (WOTS_W - 1 - digit)

/-- `validate_for_height`. -/
def XmssSignature.validateForHeight (sig : XmssSignature) (expectedHeight : ℕ) :
    Except String Unit :=
  let height := sig.authPath.length
  if sig.wotsSig.length ≠ WOTS_LEN then
    .error (s!"WOTS+ signature length mismatch: expected {WOTS_LEN}, "
      ++ s!"got {sig.wotsSig.length}")
  else if height ≠ expectedHeight then
    .error s!"XMSS auth path length mismatch: expected {expectedHeight}, got {height}"
  else if 32 ≤ expectedHeight then
    .error "XMSS tree height too large for u32 leaf index"
  else if (1 : U32) <<< expectedHeight ≤ sig.leafIndex then
    .error (s!"XMSS leaf index {sig.leafIndex.toNat} exceeds tree capacity "
      ++ s!"{((1 : U32) <<< expectedHeight).toNat}")
  else
    .ok ()

/-- The public key that a signature of the right length recovers. -/
def recoveredKey (message : Felt252) (sig : XmssSignature) : Fin WOTS_LEN → Felt :=
  wotsVerify poseidonHashMany (fun i => feltToField (sig.wotsSig.getD i 0))
    (xmssHashMessage poseidonHashMany message)

/-- The leaf that a signature recovers. -/
def recoveredLeaf (message : Felt252) (sig : XmssSignature) : Felt :=
  wotsPkToLeaf poseidonHashMany (recoveredKey poseidonHashMany message sig)

/-- The loop of `verify_inner` over the authentication path. -/
def climbAuthPath (leaf : Felt) (leafIndex : U32) (authPath : List Felt252) : Felt :=
  let step := fun (state : Felt × U32) sibling =>
    let (current, idx) := state
    let sibling := feltToField sibling
    (if idx &&& 1 = 0 then xmssNodeHash poseidonHashMany current sibling
      else xmssNodeHash poseidonHashMany sibling current, idx / 2)
  (authPath.foldl step (leaf, leafIndex)).1

namespace XmssVerifier

/-- `verify_inner`. -/
def verifyInner (root message : Felt252) (sig : XmssSignature) : Bool :=
  let current := climbAuthPath poseidonHashMany (recoveredLeaf poseidonHashMany message sig)
    sig.leafIndex sig.authPath
  fieldToFelt current == root

/-- `verify_for_height`. -/
def verifyForHeight (root message : Felt252) (sig : XmssSignature) (height : ℕ) : Bool :=
  match sig.validateForHeight height with
  | .error _ => false
  | .ok () => verifyInner poseidonHashMany root message sig

/-- `verify`. -/
def verify (root message : Felt252) (sig : XmssSignature) : Bool :=
  match sig.validateForHeight sig.authPath.length with
  | .error _ => false
  | .ok () => verifyInner poseidonHashMany root message sig

end XmssVerifier

namespace XmssKeypair

/-- `sign_with_index`, with the cursor of the key pair before and after. -/
def signWithIndex (keypair : XmssKeypair) (nextIndex : U32) (buildMessage : U32 → Felt252) :
    Option (XmssSignature × U32 × Felt252) × U32 :=
  if keypair.capacity ≤ nextIndex then
    (none, nextIndex)
  else
    let message := buildMessage nextIndex
    let secretKey := keypair.secretKeys.getD nextIndex.toNat fun _ => 0
    let wotsSig := wotsSign poseidonHashMany secretKey (xmssHashMessage poseidonHashMany message)
    (some ({
        epoch := 0
        leafIndex := nextIndex
        wotsSig := (List.ofFn wotsSig).map fieldToFelt
        authPath := keypair.authPathFrom 0 nextIndex.toNat keypair.height },
      nextIndex, message), nextIndex + 1)

end XmssKeypair

/-! ### What is hashed -/

/-- The input of the hash of a leaf. -/
def leafPreimage (publicKey : Fin WOTS_LEN → Felt) : List Felt :=
  feltToField (domainFelt "zkapi.xmss.leaf") :: List.ofFn publicKey

/-- The input of the hash of a node. -/
def nodePreimage (children : Felt × Felt) : List Felt :=
  [feltToField (domainFelt "zkapi.xmss.node"), children.1, children.2]

/-- The nodes of a level, two and two. -/
def siblingPairs : List Felt → List (Felt × Felt)
  | left :: right :: nodes => (left, right) :: siblingPairs nodes
  | _ => []

/-- What is hashed to the leaves and nodes of the tree of a key pair. -/
def XmssKeypair.preimages (keypair : XmssKeypair) : List (List Felt) :=
  keypair.secretKeys.map (fun sk => leafPreimage (wotsKeygen poseidonHashMany sk))
    ++ (keypair.tree.flatMap siblingPairs).map nodePreimage

/-- What the verifier hashes to a leaf and to nodes. -/
def verifierPreimages (message : Felt252) (sig : XmssSignature) : List (List Felt) :=
  leafPreimage (recoveredKey poseidonHashMany message sig)
    :: (climbPairs (xmssNodeHash poseidonHashMany) sig.leafIndex.toNat
      (recoveredLeaf poseidonHashMany message sig) (sig.authPath.map feltToField)).map nodePreimage

/-- The hash has no collision among what is hashed to leaves and nodes by the key pair and
by the verifier. -/
def CollisionFree (keypair : XmssKeypair) (message : Felt252) (sig : XmssSignature) : Prop :=
  Set.InjOn poseidonHashMany
    {x | x ∈ keypair.preimages poseidonHashMany ∨ x ∈ verifierPreimages poseidonHashMany message sig}

end

/-! ### Field elements and indices -/

@[simp]
theorem feltToField_fieldToFelt (x : Felt) :
  feltToField (fieldToFelt x) = x
  := by
  apply Fin.ext
  calc (feltToField (fieldToFelt x)).val
    _ = (fieldToFelt x).toNat % fieldPrime := rfl
    _ = x.val := by rw [toNat_fieldToFelt, Nat.mod_eq_of_lt x.isLt]

theorem fieldToFelt_inj {x y : Felt} :
  fieldToFelt x = fieldToFelt y ↔ x = y
  := by
  constructor
  · intro h
    rw [← feltToField_fieldToFelt x, h, feltToField_fieldToFelt]
  · rintro rfl
    rfl

theorem and_one_eq_zero_iff (idx : U32) :
  idx &&& 1 = 0 ↔ idx.toNat % 2 = 0
  := by
  rw [← BitVec.toNat_inj, BitVec.toNat_and, ← Nat.and_one_is_mod]
  rfl

variable {poseidonHashMany : List Felt → Felt}

/-- The loop of the verifier is a climb. -/
theorem climbAuthPath_eq (leaf : Felt) (leafIndex : U32) (authPath : List Felt252) :
  climbAuthPath poseidonHashMany leaf leafIndex authPath
    = climb (xmssNodeHash poseidonHashMany) leafIndex.toNat leaf (authPath.map feltToField)
  := by
  rw [climbAuthPath]
  induction authPath generalizing leaf leafIndex with
  | nil => rfl
  | cons sibling authPath ih =>
    have hhalf : (leafIndex / 2).toNat = leafIndex.toNat / 2 := BitVec.toNat_udiv
    rw [List.foldl_cons, ih, List.map_cons, climb, hhalf]
    congr 1
    rw [ordered]
    split
    case isTrue h => rw [if_pos ((and_one_eq_zero_iff leafIndex).mp h)]
    case isFalse h => rw [if_neg fun heven => h ((and_one_eq_zero_iff leafIndex).mpr heven)]

/-! ### The tree of a key pair -/

section

variable {nodes : List Felt}

theorem parents_eq (nodes : List Felt) :
  parents poseidonHashMany nodes
    = (siblingPairs nodes).map fun pair => xmssNodeHash poseidonHashMany pair.1 pair.2
  := by
  induction nodes using siblingPairs.induct with
  | case1 left right nodes ih => rw [parents, siblingPairs, List.map_cons, ih]
  | case2 nodes hnodes =>
    rw [parents, siblingPairs]
    · rfl
    · apply hnodes
    · apply hnodes

/-- The pairs of a level that a function gives. -/
theorem siblingPairs_range (f : ℕ → Felt) (n : ℕ) :
  siblingPairs ((List.range (2 * n)).map f)
    = (List.range n).map fun i => (f (2 * i), f (2 * i + 1))
  := by
  induction n generalizing f with
  | zero => rfl
  | succ n ih =>
    have htwo : 2 * (n + 1) = 2 * n + 1 + 1 := by omega
    rw [htwo, List.range_succ_eq_map, List.map_cons, List.map_map, List.range_succ_eq_map,
      List.map_cons, List.map_map, siblingPairs, ih, List.range_succ_eq_map, List.map_cons,
      List.map_map]
    congr 1

/-- The leaf of an index, which need not be below the capacity. -/
def leafAt (poseidonHashMany : List Felt → Felt) (seed : Felt) (i : ℕ) : Felt :=
  wotsPkToLeaf poseidonHashMany
    (wotsKeygen poseidonHashMany (secretKeyOf poseidonHashMany seed i))

/-- The level above nodes of a level. -/
theorem parents_node (f : ℕ → Felt) (k n : ℕ) :
  parents poseidonHashMany
      ((List.range (2 ^ (n + 1))).map (node (xmssNodeHash poseidonHashMany) f k))
    = (List.range (2 ^ n)).map (node (xmssNodeHash poseidonHashMany) f (k + 1))
  := by
  rw [pow_succ', parents_eq, siblingPairs_range, List.map_map]
  rfl

/-- The levels that are built are those of the tree. -/
theorem getD_levelsFrom (f : ℕ → Felt) (k : ℕ) {height level : ℕ} (hlevel : level ≤ height) :
  (levelsFrom poseidonHashMany
      ((List.range (2 ^ height)).map (node (xmssNodeHash poseidonHashMany) f k)) height).getD level []
    = (List.range (2 ^ (height - level))).map
      (node (xmssNodeHash poseidonHashMany) f (k + level))
  := by
  induction height generalizing k level with
  | zero =>
    obtain rfl : level = 0 := Nat.le_zero.mp hlevel
    rfl
  | succ height ih =>
    cases level with
    | zero => rfl
    | succ level =>
      have hk : k + (level + 1) = k + 1 + level := by omega
      rw [levelsFrom, List.getD_cons_succ, parents_node, ih (k + 1) (by omega), hk,
        Nat.succ_sub_succ]

end

/-- What a key pair holds after it was generated. -/
structure XmssKeypair.Generated (poseidonHashMany : List Felt → Felt) (seed : Felt)
    (keypair : XmssKeypair) : Prop where
  secretKeys : keypair.secretKeys
    = (List.range (2 ^ keypair.height)).map (secretKeyOf poseidonHashMany seed)
  tree : ∀ level ≤ keypair.height, keypair.tree.getD level []
    = (List.range (2 ^ (keypair.height - level))).map
      (node (xmssNodeHash poseidonHashMany) (leafAt poseidonHashMany seed) level)
  root : keypair.root = SparseMerkle.root (xmssNodeHash poseidonHashMany) keypair.height
    (leafAt poseidonHashMany seed)

theorem generateWithHeight_eq_some {seed : Felt} {height : ℕ} (hheight : height < 32) :
  ∃ keypair, generateWithHeight poseidonHashMany seed height = some keypair
    ∧ keypair.height = height ∧ keypair.Generated poseidonHashMany seed
  := by
  have hleaves : ((List.range (2 ^ height)).map (secretKeyOf poseidonHashMany seed)).map
      (fun sk => wotsPkToLeaf poseidonHashMany (wotsKeygen poseidonHashMany sk))
      = (List.range (2 ^ height)).map (node (xmssNodeHash poseidonHashMany)
        (leafAt poseidonHashMany seed) 0) := by
    rw [List.map_map]
    rfl
  have htree := fun level => @getD_levelsFrom poseidonHashMany (leafAt poseidonHashMany seed) 0
    height level
  rw [generateWithHeight, dif_pos hheight]
  refine ⟨_, rfl, rfl, ?_⟩
  constructor
  case secretKeys => rfl
  case tree =>
    intro level hlevel
    dsimp only
    rw [hleaves, htree level hlevel, Nat.zero_add]
  case root =>
    dsimp only
    rw [hleaves, htree height (Nat.le_refl height), Nat.sub_self, Nat.zero_add]
    rfl

/-! ### Completeness -/

theorem chain_eq (value : Felt) (start steps : ℕ) :
  chain poseidonHashMany value start steps
    = Winternitz.chain (chainStep poseidonHashMany) value start steps
  := by
  induction steps with
  | zero => rfl
  | succ steps ih => rw [chain, Winternitz.chain, ih]

/-- The verifier walks the chains from where the signer has left them. -/
theorem wotsVerify_wotsSign (secretKey : Fin WOTS_LEN → Felt) (message : Felt) :
  wotsVerify poseidonHashMany (wotsSign poseidonHashMany secretKey message) message
    = wotsKeygen poseidonHashMany secretKey
  := by
  funext i
  have hlt := getD_wotsDigits_lt message i
  simp only [wotsVerify, wotsSign, ← getD_wotsDigits, wotsKeygen, chain_eq]
  generalize (wotsDigits message).getD i 0 = digit at hlt
  have hchain := Winternitz.chain_chain (chainStep poseidonHashMany) (secretKey i) 0 digit
    (WOTS_W - 1 - digit)
  have hsteps : digit + (WOTS_W - 1 - digit) = WOTS_W - 1 := by omega
  rw [Nat.zero_add, hsteps] at hchain
  apply hchain

theorem sibling_lt {i n : ℕ} (hi : i < 2 ^ (n + 1)) :
  sibling i < 2 ^ (n + 1)
  := by
  rw [pow_succ] at hi ⊢
  rw [sibling]
  split <;> omega

namespace XmssKeypair

variable {keypair : XmssKeypair} {seed : Felt}

/-- The node of a level at a position. -/
theorem Generated.getD_tree (h : keypair.Generated poseidonHashMany seed) {level i : ℕ}
    (hlevel : level ≤ keypair.height) (hi : i < 2 ^ (keypair.height - level)) :
  (keypair.tree.getD level []).getD i 0
    = node (xmssNodeHash poseidonHashMany) (leafAt poseidonHashMany seed) level i
  := by
  have hlen : i < ((List.range (2 ^ (keypair.height - level))).map (node
      (xmssNodeHash poseidonHashMany) (leafAt poseidonHashMany seed) level)).length := by
    rw [List.length_map, List.length_range]
    exact hi
  rw [h.tree level hlevel, List.getD_eq_getElem _ _ hlen, List.getElem_map, List.getElem_range]

theorem Generated.getD_secretKeys (h : keypair.Generated poseidonHashMany seed) {i : ℕ}
    (hi : i < 2 ^ keypair.height) :
  (keypair.secretKeys.getD i fun _ => 0) = secretKeyOf poseidonHashMany seed i
  := by
  have hlen : i < ((List.range (2 ^ keypair.height)).map
      (secretKeyOf poseidonHashMany seed)).length := by
    rw [List.length_map, List.length_range]
    exact hi
  rw [h.secretKeys, List.getD_eq_getElem _ _ hlen, List.getElem_map, List.getElem_range]

/-- The authentication path holds the siblings of the tree. -/
theorem Generated.authPathFrom_eq (h : keypair.Generated poseidonHashMany seed) (left : ℕ)
    {level nodeIdx : ℕ} (hleft : level + left = keypair.height) (hidx : nodeIdx < 2 ^ left) :
  (keypair.authPathFrom level nodeIdx left).map feltToField
    = pathFrom (xmssNodeHash poseidonHashMany) (leafAt poseidonHashMany seed) level nodeIdx left
  := by
  induction left generalizing level nodeIdx with
  | zero => rfl
  | succ left ih =>
    have hlevel : keypair.height - level = left + 1 := by omega
    have hhalf : nodeIdx / 2 < 2 ^ left := by
      rw [pow_succ] at hidx
      omega
    rw [authPathFrom, List.map_cons, feltToField_fieldToFelt, xor_one,
      h.getD_tree (by omega) (hlevel ▸ sibling_lt hidx), pathFrom, ih (by omega) hhalf]

theorem length_authPathFrom (level nodeIdx left : ℕ) :
  (keypair.authPathFrom level nodeIdx left).length = left
  := by
  induction left generalizing level nodeIdx with
  | zero => rfl
  | succ left ih => rw [authPathFrom, List.length_cons, ih]

/-- The signature that both functions build for an index. -/
def signatureAt (poseidonHashMany : List Felt → Felt) (keypair : XmssKeypair) (index : U32)
    (message : Felt252) : XmssSignature where
  epoch := 0
  leafIndex := index
  wotsSig := (List.ofFn (wotsSign poseidonHashMany
    (keypair.secretKeys.getD index.toNat fun _ => 0)
      (xmssHashMessage poseidonHashMany message))).map fieldToFelt
  authPath := keypair.authPathFrom 0 index.toNat keypair.height

theorem signReserved_fst {nextIndex index : U32} (message : Felt252)
    (hindex : index.toNat < 2 ^ keypair.height) :
  (keypair.signReserved poseidonHashMany nextIndex index message).1
    = some (keypair.signatureAt poseidonHashMany index message)
  := by
  have hcapacity : ¬ keypair.capacity ≤ index := by
    rw [BitVec.le_def, toNat_capacity]
    exact Nat.not_le.mpr hindex
  have hlast : index ≠ BitVec.allOnes 32 := by
    have hpow : 2 ^ keypair.height ≤ 2 ^ 31 :=
      Nat.pow_le_pow_right (by norm_num) (Nat.le_of_lt_succ keypair.height_lt)
    rintro rfl
    rw [BitVec.toNat_allOnes] at hindex
    omega
  rw [signReserved, if_neg hcapacity, if_neg hlast]
  rfl

theorem signWithIndex_fst {nextIndex : U32} (buildMessage : U32 → Felt252)
    (hindex : nextIndex.toNat < 2 ^ keypair.height) :
  (keypair.signWithIndex poseidonHashMany nextIndex buildMessage).1
    = some (keypair.signatureAt poseidonHashMany nextIndex (buildMessage nextIndex), nextIndex,
      buildMessage nextIndex)
  := by
  have hcapacity : ¬ keypair.capacity ≤ nextIndex := by
    rw [BitVec.le_def, toNat_capacity]
    exact Nat.not_le.mpr hindex
  rw [signWithIndex, if_neg hcapacity]
  rfl

/-- A signature of a key pair recovers its public key. -/
theorem Generated.recoveredKey_signatureAt (h : keypair.Generated poseidonHashMany seed)
    {index : U32} (hindex : index.toNat < 2 ^ keypair.height) (message : Felt252) :
  recoveredKey poseidonHashMany message (keypair.signatureAt poseidonHashMany index message)
    = wotsKeygen poseidonHashMany (secretKeyOf poseidonHashMany seed index.toNat)
  := by
  rw [recoveredKey, ← wotsVerify_wotsSign _ (xmssHashMessage poseidonHashMany message)]
  congr 1
  funext i
  have hlen : i.val < (List.ofFn (wotsSign poseidonHashMany
      (secretKeyOf poseidonHashMany seed index.toNat)
        (xmssHashMessage poseidonHashMany message))).length := by
    rw [List.length_ofFn]
    exact i.isLt
  rw [signatureAt, h.getD_secretKeys hindex, List.getD_eq_getElem?_getD, List.getElem?_map,
    List.getElem?_eq_getElem hlen, Option.map_some, Option.getD_some, feltToField_fieldToFelt,
    List.getElem_ofFn]

end XmssKeypair

theorem XmssSignature.validateForHeight_eq_ok {sig : XmssSignature} {height : ℕ} :
  sig.validateForHeight height = .ok ()
    ↔ sig.wotsSig.length = WOTS_LEN ∧ sig.authPath.length = height ∧ height < 32
      ∧ sig.leafIndex.toNat < 2 ^ height
  := by
  have hcapacity : height < 32 → ((1 : U32) <<< height).toNat = 2 ^ height := by
    intro hheight
    have hone : (1 : U32).toNat = 1 := rfl
    rw [BitVec.toNat_shiftLeft, hone, Nat.shiftLeft_eq, Nat.one_mul]
    apply Nat.mod_eq_of_lt
    apply Nat.pow_lt_pow_right (by norm_num) hheight
  rw [validateForHeight]
  split
  case isTrue hwots => simp only [hwots, reduceCtorEq, false_and]
  case isFalse hwots =>
    rw [not_not] at hwots
    split
    case isTrue hpath => simp only [hpath, reduceCtorEq, false_and, and_false]
    case isFalse hpath =>
      rw [not_not] at hpath
      split
      case isTrue hheight => simp only [Nat.not_lt.mpr hheight, reduceCtorEq, false_and, and_false]
      case isFalse hheight =>
        rw [Nat.not_le] at hheight
        split
        case isTrue hindex =>
          rw [BitVec.le_def, hcapacity hheight] at hindex
          simp only [Nat.not_lt.mpr hindex, reduceCtorEq, and_false]
        case isFalse hindex =>
          rw [BitVec.le_def, hcapacity hheight, Nat.not_le] at hindex
          simp only [hwots, hpath, hheight, hindex, and_self]

namespace XmssVerifier

variable {root message : Felt252} {sig : XmssSignature} {height : ℕ}

theorem verifyForHeight_iff :
  verifyForHeight poseidonHashMany root message sig height = true
    ↔ sig.validateForHeight height = .ok () ∧ verifyInner poseidonHashMany root message sig = true
  := by
  rw [verifyForHeight]
  cases sig.validateForHeight height with
  | ok => simp only [true_and]
  | error => simp only [Bool.false_eq_true, reduceCtorEq, false_and]

theorem verify_iff :
  verify poseidonHashMany root message sig = true
    ↔ sig.validateForHeight sig.authPath.length = .ok ()
      ∧ verifyInner poseidonHashMany root message sig = true
  := verifyForHeight_iff

end XmssVerifier

namespace XmssKeypair

variable {keypair : XmssKeypair} {seed : Felt}

/-- The verifier accepts the signatures of a key pair. -/
theorem Generated.verifyInner_signatureAt (h : keypair.Generated poseidonHashMany seed)
    {index : U32} (hindex : index.toNat < 2 ^ keypair.height) (message : Felt252) :
  XmssVerifier.verifyInner poseidonHashMany keypair.rootFelt message
    (keypair.signatureAt poseidonHashMany index message) = true
  := by
  have hpath := h.authPathFrom_eq keypair.height (Nat.zero_add _) hindex
  have hleaf : recoveredLeaf poseidonHashMany message
      (keypair.signatureAt poseidonHashMany index message)
        = leafAt poseidonHashMany seed index.toNat := by
    rw [recoveredLeaf, h.recoveredKey_signatureAt hindex, leafAt]
  have hclimb := climb_path_self (xmssNodeHash poseidonHashMany) (leafAt poseidonHashMany seed)
    hindex
  rw [XmssVerifier.verifyInner, hleaf, climbAuthPath_eq, rootFelt, h.root, beq_iff_eq,
    fieldToFelt_inj, ← hclimb, path, ← hpath]
  rfl

theorem validateForHeight_signatureAt {index : U32}
    (hindex : index.toNat < 2 ^ keypair.height) (message : Felt252) :
  (keypair.signatureAt poseidonHashMany index message).validateForHeight keypair.height = .ok ()
  := by
  rw [XmssSignature.validateForHeight_eq_ok]
  refine ⟨?_, length_authPathFrom _ _ _, keypair.height_lt, hindex⟩
  rw [signatureAt, List.length_map, List.length_ofFn]

/-! ### Soundness -/

/-- The pairs of children of the tree are hashed by the key pair. -/
theorem Generated.children_mem (h : keypair.Generated poseidonHashMany seed) {level i : ℕ}
    (hlevel : level < keypair.height) (hi : i < 2 ^ (keypair.height - level - 1)) :
  nodePreimage
    (children (xmssNodeHash poseidonHashMany) (leafAt poseidonHashMany seed) level i)
      ∈ keypair.preimages poseidonHashMany
  := by
  have hpow : keypair.height - level = keypair.height - level - 1 + 1 := by omega
  have hnodes := h.tree level hlevel.le
  rw [hpow, pow_succ'] at hnodes
  -- the level is there, since it is not empty
  obtain ⟨nodes, hmem, hsame⟩ : ∃ nodes ∈ keypair.tree, nodes = keypair.tree.getD level [] := by
    rw [List.getD_eq_getElem?_getD] at hnodes ⊢
    cases hget : keypair.tree[level]? with
    | none =>
      rw [hget, Option.getD_none, eq_comm, List.map_eq_nil_iff, List.range_eq_nil] at hnodes
      have hpos : 0 < 2 ^ (keypair.height - level - 1) := Nat.two_pow_pos _
      omega
    | some nodes => exact ⟨nodes, List.mem_of_getElem? hget, rfl⟩
  apply List.mem_append_right
  apply List.mem_map_of_mem
  apply List.mem_flatMap.mpr
  refine ⟨nodes, hmem, ?_⟩
  rw [hsame, hnodes, siblingPairs_range]
  apply List.mem_map.mpr
  exact ⟨i, List.mem_range.mpr hi, rfl⟩

theorem Generated.climbPairs_mem (h : keypair.Generated poseidonHashMany seed) {level i n : ℕ}
    (hlevel : level + n = keypair.height) (hi : i < 2 ^ n) {pair : Felt × Felt}
    (hpair : pair ∈ climbPairs (xmssNodeHash poseidonHashMany) i
      (node (xmssNodeHash poseidonHashMany) (leafAt poseidonHashMany seed) level i)
      (pathFrom (xmssNodeHash poseidonHashMany) (leafAt poseidonHashMany seed) level i n)) :
  nodePreimage pair ∈ keypair.preimages poseidonHashMany
  := by
  obtain ⟨j, hj, rfl⟩ := (mem_climbPairs_pathFrom _ _ _ _ _ _).mp hpair
  have hexp : keypair.height - (level + j) - 1 = n - (j + 1) := by omega
  have hn : n - (j + 1) + (j + 1) = n := by omega
  apply h.children_mem (by omega)
  rw [hexp]
  apply Nat.div_lt_of_lt_mul
  rw [← pow_add, Nat.add_comm, hn]
  exact hi

/-- The public keys of the leaves are hashed by the key pair. -/
theorem Generated.leaf_mem (h : keypair.Generated poseidonHashMany seed) {i : ℕ}
    (hi : i < 2 ^ keypair.height) :
  leafPreimage (wotsKeygen poseidonHashMany (secretKeyOf poseidonHashMany seed i))
    ∈ keypair.preimages poseidonHashMany
  := by
  apply List.mem_append_left
  rw [h.secretKeys, List.map_map]
  apply List.mem_map.mpr
  exact ⟨i, List.mem_range.mpr hi, rfl⟩

end XmssKeypair

theorem leafPreimage_ne_nodePreimage (publicKey : Fin WOTS_LEN → Felt) (pair : Felt × Felt) :
  leafPreimage publicKey ≠ nodePreimage pair
  := by
  intro h
  have hlen := congrArg List.length h
  rw [leafPreimage, List.length_cons, List.length_ofFn] at hlen
  cases hlen

theorem leafPreimage_inj {publicKey publicKey' : Fin WOTS_LEN → Felt} :
  leafPreimage publicKey = leafPreimage publicKey' ↔ publicKey = publicKey'
  := by
  rw [leafPreimage, leafPreimage, List.cons_inj_right, List.ofFn_inj]

section

variable {keypair : XmssKeypair} {seed : Felt} {message : Felt252} {sig : XmssSignature}

theorem CollisionFree.injOn (h : CollisionFree poseidonHashMany keypair message sig) :
  Set.InjOn (Function.uncurry (xmssNodeHash poseidonHashMany))
    {pair | nodePreimage pair ∈ keypair.preimages poseidonHashMany
      ∨ nodePreimage pair ∈ verifierPreimages poseidonHashMany message sig}
  := by
  rintro ⟨a, b⟩ hab ⟨c, d⟩ hcd heq
  have hsame : nodePreimage (a, b) = nodePreimage (c, d) := h hab hcd heq
  cases hsame
  rfl

/-- No leaf that is hashed is a node that is hashed. -/
theorem CollisionFree.leaf_ne (h : CollisionFree poseidonHashMany keypair message sig)
    {publicKey : Fin WOTS_LEN → Felt} {pair : Felt × Felt}
    (hkey : leafPreimage publicKey ∈ keypair.preimages poseidonHashMany
      ∨ leafPreimage publicKey ∈ verifierPreimages poseidonHashMany message sig)
    (hpair : nodePreimage pair ∈ keypair.preimages poseidonHashMany
      ∨ nodePreimage pair ∈ verifierPreimages poseidonHashMany message sig) :
  wotsPkToLeaf poseidonHashMany publicKey ≠ xmssNodeHash poseidonHashMany pair.1 pair.2
  := by
  intro heq
  apply leafPreimage_ne_nodePreimage publicKey pair
  apply h hkey hpair heq

/-- The recovered key is hashed by the verifier. -/
theorem recoveredKey_mem :
  leafPreimage (recoveredKey poseidonHashMany message sig)
    ∈ verifierPreimages poseidonHashMany message sig
  := List.mem_cons_self

/-- Where an accepted path starts in the tree of a key pair, if it is not too long. -/
theorem XmssKeypair.Generated.recoveredLeaf_eq (h : keypair.Generated poseidonHashMany seed)
    (hcollision : CollisionFree poseidonHashMany keypair message sig)
    (hindex : sig.leafIndex.toNat < 2 ^ sig.authPath.length)
    (hclimb : climb (xmssNodeHash poseidonHashMany) sig.leafIndex.toNat
      (recoveredLeaf poseidonHashMany message sig) (sig.authPath.map feltToField)
        = SparseMerkle.root (xmssNodeHash poseidonHashMany) keypair.height
          (leafAt poseidonHashMany seed))
    {level : ℕ} (hlevel : level + sig.authPath.length = keypair.height) :
  recoveredLeaf poseidonHashMany message sig
    = node (xmssNodeHash poseidonHashMany) (leafAt poseidonHashMany seed) level
      sig.leafIndex.toNat
  := by
  have hlen : (sig.authPath.map feltToField).length = sig.authPath.length := List.length_map ..
  refine (climb_soundAlong _ hcollision.injOn (leafAt poseidonHashMany seed)
    (sig.authPath.map feltToField) level sig.leafIndex.toNat _ ?_ ?_ ?_).1
  · intro pair hpair
    rw [hlen] at hpair
    exact .inl (h.climbPairs_mem hlevel hindex hpair)
  · intro pair hpair
    exact .inr (List.mem_cons_of_mem _ (List.mem_map_of_mem hpair))
  · rw [hclimb, hlen, hlevel, Nat.div_eq_of_lt hindex, SparseMerkle.root]

/-- An accepted path is not longer than the tree is high. -/
theorem XmssKeypair.Generated.length_le (h : keypair.Generated poseidonHashMany seed)
    (hcollision : CollisionFree poseidonHashMany keypair message sig)
    (hindex : sig.leafIndex.toNat < 2 ^ sig.authPath.length)
    (hclimb : climb (xmssNodeHash poseidonHashMany) sig.leafIndex.toNat
      (recoveredLeaf poseidonHashMany message sig) (sig.authPath.map feltToField)
        = SparseMerkle.root (xmssNodeHash poseidonHashMany) keypair.height
          (leafAt poseidonHashMany seed)) :
  sig.authPath.length ≤ keypair.height
  := by
  by_contra hlong
  rw [Nat.not_le] at hlong
  -- the last part of the path is as long as the tree is high
  obtain ⟨first, last, hpath, hlast⟩ : ∃ first last, sig.authPath.map feltToField = first ++ last
      ∧ last.length = keypair.height := by
    refine ⟨_, _, (List.take_append_drop (sig.authPath.length - keypair.height) _).symm, ?_⟩
    rw [List.length_drop, List.length_map]
    omega
  have hlen : first.length + keypair.height = sig.authPath.length := by
    rw [← hlast, ← List.length_append, ← hpath, List.length_map]
  have hhashed : ∀ pair ∈ climbPairs (xmssNodeHash poseidonHashMany) sig.leafIndex.toNat
      (recoveredLeaf poseidonHashMany message sig) (first ++ last),
        nodePreimage pair ∈ verifierPreimages poseidonHashMany message sig := by
    intro pair hpair
    rw [← hpath] at hpair
    apply List.mem_cons_of_mem _ (List.mem_map_of_mem hpair)
  have hstart : sig.leafIndex.toNat / 2 ^ first.length < 2 ^ keypair.height := by
    apply Nat.div_lt_of_lt_mul
    rw [← pow_add, hlen]
    exact hindex
  rw [climbPairs_append] at hhashed
  rw [hpath, climb_append, SparseMerkle.root] at hclimb
  -- so the first part leads to a leaf, although it is the hash of a pair
  have hleaf := (climb_soundAlong _ hcollision.injOn (leafAt poseidonHashMany seed) last 0
    (sig.leafIndex.toNat / 2 ^ first.length) _ (by
      intro pair hpair
      rw [hlast] at hpair
      exact .inl (h.climbPairs_mem (Nat.zero_add _) hstart hpair)) (by
      intro pair hpair
      exact .inr (hhashed pair (List.mem_append_right _ hpair))) (by
      rw [hclimb, hlast, Nat.zero_add, Nat.div_eq_of_lt hstart])).1
  have hfirst : first ≠ [] := by
    rintro rfl
    rw [List.length_nil] at hlen
    omega
  obtain ⟨pair, hpair, hnode⟩ := @exists_climbPairs _ (xmssNodeHash poseidonHashMany)
    sig.leafIndex.toNat (recoveredLeaf poseidonHashMany message sig) first hfirst
  rw [hnode] at hleaf
  apply hcollision.leaf_ne (.inl (h.leaf_mem hstart))
    (.inr (hhashed pair (List.mem_append_left _ hpair))) hleaf.symm

/-- A signature whose recovered leaf leads to the root of a key pair has the height of its
tree, and recovers the public key of its leaf. -/
theorem XmssKeypair.Generated.sound (h : keypair.Generated poseidonHashMany seed)
    (hcollision : CollisionFree poseidonHashMany keypair message sig)
    (hindex : sig.leafIndex.toNat < 2 ^ sig.authPath.length)
    (hverify : XmssVerifier.verifyInner poseidonHashMany keypair.rootFelt message sig = true) :
  sig.authPath.length = keypair.height
    ∧ recoveredKey poseidonHashMany message sig
      = wotsKeygen poseidonHashMany (secretKeyOf poseidonHashMany seed sig.leafIndex.toNat)
  := by
  rw [XmssVerifier.verifyInner, beq_iff_eq, XmssKeypair.rootFelt, fieldToFelt_inj,
    climbAuthPath_eq, h.root] at hverify
  have hle := h.length_le hcollision hindex hverify
  obtain ⟨level, hlevel⟩ := Nat.exists_eq_add_of_le' hle
  have hleaf := h.recoveredLeaf_eq hcollision hindex hverify hlevel.symm
  cases level with
  | zero =>
    rw [Nat.zero_add] at hlevel
    refine ⟨hlevel.symm, ?_⟩
    rw [← leafPreimage_inj]
    apply hcollision (.inr recoveredKey_mem) (.inl (h.leaf_mem (hlevel ▸ hindex))) hleaf
  | succ level =>
    -- the path would start at a node
    have hexp : keypair.height - level - 1 = sig.authPath.length := by omega
    cases hcollision.leaf_ne (.inr recoveredKey_mem)
      (.inl (h.children_mem (by omega) (hexp.symm ▸ hindex))) hleaf

end

/-- What a key pair signs at an index below its capacity is accepted against its root. -/
theorem XmssKeypair.Generated.accepts {keypair : XmssKeypair} {seed : Felt}
    (h : keypair.Generated poseidonHashMany seed) {index : U32}
    (hindex : index.toNat < 2 ^ keypair.height) (message : Felt252) :
  XmssVerifier.verify poseidonHashMany keypair.rootFelt message
      (keypair.signatureAt poseidonHashMany index message) = true
    ∧ XmssVerifier.verifyForHeight poseidonHashMany keypair.rootFelt message
      (keypair.signatureAt poseidonHashMany index message) keypair.height = true
  := by
  have hinner := h.verifyInner_signatureAt hindex message
  have hvalid := @XmssKeypair.validateForHeight_signatureAt poseidonHashMany keypair index hindex
    message
  have hlen : (keypair.signatureAt poseidonHashMany index message).authPath.length
      = keypair.height := XmssKeypair.length_authPathFrom _ _ _
  rw [XmssVerifier.verify_iff, hlen, XmssVerifier.verifyForHeight_iff]
  exact ⟨⟨hvalid, hinner⟩, hvalid, hinner⟩

/-- Every key pair signs, below its capacity and whatever its cursor is, what the verifier
accepts against its root; and a signature that the verifier accepts against the root, without
being told the height, has an authentication path of the height of the tree, and recovers the
public key and the leaf that the key pair holds at its index, as long as the hash has no
collision among the leaves and nodes that are hashed. -/
theorem xmss_exact (seed : Felt) {height : ℕ} (hheight : height < 32) :
  ∃ keypair, generateWithHeight poseidonHashMany seed height = some keypair
    ∧ (∀ nextIndex index message, index.toNat < 2 ^ height →
      ∃ sig, (keypair.signReserved poseidonHashMany nextIndex index message).1 = some sig
        ∧ sig.leafIndex = index
        ∧ XmssVerifier.verify poseidonHashMany keypair.rootFelt message sig = true
        ∧ XmssVerifier.verifyForHeight poseidonHashMany keypair.rootFelt message sig height = true)
    ∧ (∀ nextIndex buildMessage, nextIndex.toNat < 2 ^ height →
      ∃ sig, (keypair.signWithIndex poseidonHashMany nextIndex buildMessage).1
          = some (sig, nextIndex, buildMessage nextIndex)
        ∧ sig.leafIndex = nextIndex
        ∧ XmssVerifier.verify poseidonHashMany keypair.rootFelt (buildMessage nextIndex) sig = true
        ∧ XmssVerifier.verifyForHeight poseidonHashMany keypair.rootFelt (buildMessage nextIndex)
          sig height = true)
    ∧ ∀ message sig, CollisionFree poseidonHashMany keypair message sig →
      XmssVerifier.verify poseidonHashMany keypair.rootFelt message sig = true →
      sig.authPath.length = height
        ∧ recoveredKey poseidonHashMany message sig = wotsKeygen poseidonHashMany
          (keypair.secretKeys.getD sig.leafIndex.toNat fun _ => 0)
        ∧ (keypair.tree.getD 0 [])[sig.leafIndex.toNat]?
          = some (recoveredLeaf poseidonHashMany message sig)
  := by
  obtain ⟨keypair, hkeypair, rfl, hgenerated⟩ :=
    @generateWithHeight_eq_some poseidonHashMany seed height hheight
  refine ⟨keypair, hkeypair, ?_, ?_, ?_⟩
  · intro nextIndex index message hindex
    exact ⟨_, keypair.signReserved_fst message hindex, rfl, hgenerated.accepts hindex message⟩
  · intro nextIndex buildMessage hindex
    exact ⟨_, keypair.signWithIndex_fst buildMessage hindex, rfl,
      hgenerated.accepts hindex (buildMessage nextIndex)⟩
  · intro message sig hcollision hverify
    obtain ⟨hvalid, hinner⟩ := XmssVerifier.verify_iff.mp hverify
    obtain ⟨_, _, _, hindex⟩ := XmssSignature.validateForHeight_eq_ok.mp hvalid
    obtain ⟨hlength, hkey⟩ := hgenerated.sound hcollision hindex hinner
    rw [hlength] at hindex
    refine ⟨hlength, ?_, ?_⟩
    · rw [hkey, hgenerated.getD_secretKeys hindex]
    · have hlen : sig.leafIndex.toNat < ((List.range (2 ^ (keypair.height - 0))).map
          (node (xmssNodeHash poseidonHashMany) (leafAt poseidonHashMany seed) 0)).length := by
        rw [List.length_map, List.length_range]
        exact hindex
      rw [hgenerated.tree 0 (Nat.zero_le _), List.getElem?_eq_getElem hlen, List.getElem_map,
        List.getElem_range, recoveredLeaf, hkey]
      rfl

namespace XmssExample

/-- A stand-in for the hash. -/
def sumHash (inputs : List Felt) : Felt :=
  inputs.sum

/-- In a tree with two leaves, nothing that is hashed for a signature collides. -/
theorem no_collision :
  ∀ keypair ∈ generateWithHeight sumHash 1 1, ∀ sig ∈ (keypair.signReserved sumHash 0 1 7).1,
    ∀ x ∈ keypair.preimages sumHash ++ verifierPreimages sumHash 7 sig,
      ∀ y ∈ keypair.preimages sumHash ++ verifierPreimages sumHash 7 sig,
        sumHash x = sumHash y → x = y
  := by decide +kernel

theorem xmss_exact_example :
  ∃ keypair sig, generateWithHeight sumHash 1 1 = some keypair
    ∧ (keypair.signReserved sumHash 0 1 7).1 = some sig
    ∧ XmssVerifier.verify sumHash keypair.rootFelt 7 sig = true
    ∧ sig.authPath.length = 1
    ∧ (keypair.tree.getD 0 [])[1]? = some (recoveredLeaf sumHash 7 sig)
  := by
  obtain ⟨keypair, hkeypair, hsign, _, hsound⟩ := @xmss_exact sumHash 1 1 (by norm_num)
  obtain ⟨sig, hsig, hindex, hverify, _⟩ := hsign 0 1 7 (by decide)
  have hcollision : CollisionFree sumHash keypair 7 sig := by
    intro x hx y hy
    exact no_collision keypair hkeypair sig hsig x (List.mem_append.mpr hx) y
      (List.mem_append.mpr hy)
  obtain ⟨hlength, _, hleaf⟩ := hsound 7 sig hcollision hverify
  rw [hindex] at hleaf
  exact ⟨keypair, sig, hkeypair, hsig, hverify, hlength, hleaf⟩

end XmssExample

end ZkApi.Stark
