import Mathlib.Data.List.FinRange
import Mathlib.Data.Nat.Bitwise
import Mathlib.Data.Set.Function
import Mathlib.Logic.Function.Basic
import Mathlib.Tactic.Ring

/-!
# Sparse Merkle trees

A binary Merkle tree of a fixed depth over a compression function `h`, with its leaves
given by a function on the natural numbers.  `node h f k i` is the node of level `k` at
position `i`, the leaves being level zero, and `root h n f` is the root of the tree of
depth `n`.

A verifier sees neither the leaves nor the nodes, only a root and a list of siblings:
`climb h i x ss` is the root it computes from the leaf `x` at position `i`.  Along the
tree's own siblings `path h f i n` it computes the root of the tree in which `x` is put at
`i` (`climb_path`), and when `h` is injective on the pairs that are hashed, a list of
siblings that leads to the root of the tree is that of the tree (`climb_sound`).
-/

namespace SparseMerkle

variable {α β : Type*} (h : α → α → α)

/-- The node of level `k` at position `i`. -/
def node (f : ℕ → α) : ℕ → ℕ → α
  | 0, i => f i
  | k + 1, i => h (node f k (2 * i)) (node f k (2 * i + 1))

/-- The root of the tree of depth `n`. -/
def root (n : ℕ) (f : ℕ → α) : α :=
  node h f n 0

/-- The pair that is hashed when the siblings `x` and `s` are put together and `x` is at
position `i`. -/
def ordered (i : ℕ) (x s : α) : α × α :=
  if i % 2 = 0 then (x, s) else (s, x)

/-- The node that is reached from `x` at position `i` along a list of siblings. -/
def climb : ℕ → α → List α → α
  | _, x, [] => x
  | i, x, s :: ss => climb (i / 2) (h (ordered i x s).1 (ordered i x s).2) ss

/-- The pairs that are hashed by `climb`. -/
def climbPairs : ℕ → α → List α → List (α × α)
  | _, _, [] => []
  | i, x, s :: ss =>
      ordered i x s :: climbPairs (i / 2) (h (ordered i x s).1 (ordered i x s).2) ss

/-- The position of the sibling of a node. -/
def sibling (i : ℕ) : ℕ :=
  if i % 2 = 0 then i + 1 else i - 1

/-- The position of the sibling differs in the last bit. -/
theorem xor_one (i : ℕ) :
  i ^^^ 1 = sibling i
  := by
  rw [sibling]
  split
  case isTrue heven => rw [Nat.xor_one_of_even (Nat.even_iff.mpr heven)]
  case isFalse hodd =>
    rw [Nat.xor_one_of_odd (Nat.odd_iff.mpr (Nat.mod_two_ne_zero.mp hodd))]

/-- The siblings of the tree that lie along the way up from position `i` of level `k`,
for `n` levels. -/
def pathFrom (f : ℕ → α) : ℕ → ℕ → ℕ → List α
  | _, _, 0 => []
  | k, i, n + 1 => node h f k (sibling i) :: pathFrom f (k + 1) (i / 2) n

/-- The siblings of the tree along the way up from the leaf at position `i`. -/
def path (f : ℕ → α) (i n : ℕ) : List α :=
  pathFrom h f 0 i n

/-- The pair of children of the node of level `k + 1` at position `i`. -/
def children (f : ℕ → α) (k i : ℕ) : α × α :=
  (node h f k (2 * i), node h f k (2 * i + 1))

/-! ### Climbing -/

theorem climb_append :
  ∀ (i : ℕ) (x : α) (ss ts : List α),
    climb h i x (ss ++ ts) = climb h (i / 2 ^ ss.length) (climb h i x ss) ts
  | i, x, [], ts => by
      rw [List.nil_append, List.length_nil, pow_zero, Nat.div_one]
      rfl
  | i, x, s :: ss, ts => by
      rw [List.cons_append, climb, climb_append (i / 2), climb, List.length_cons,
        Nat.div_div_eq_div_mul, ← pow_succ']

theorem climbPairs_append :
  ∀ (i : ℕ) (x : α) (ss ts : List α),
    climbPairs h i x (ss ++ ts)
      = climbPairs h i x ss ++ climbPairs h (i / 2 ^ ss.length) (climb h i x ss) ts
  | i, x, [], ts => by
      rw [List.nil_append, List.length_nil, pow_zero, Nat.div_one]
      rfl
  | i, x, s :: ss, ts => by
      rw [List.cons_append, climbPairs, climbPairs_append (i / 2), climbPairs, List.length_cons,
        climb, Nat.div_div_eq_div_mul, ← pow_succ', List.cons_append]

/-- What a climb over some siblings leads to is the hash of a pair. -/
theorem exists_climbPairs {i : ℕ} {x : α} {ss : List α} (hss : ss ≠ []) :
  ∃ p ∈ climbPairs h i x ss, climb h i x ss = h p.1 p.2
  := by
  induction ss generalizing i x with
  | nil => cases hss rfl
  | cons s ss ih =>
    rw [climb, climbPairs]
    obtain rfl | hss := eq_or_ne ss []
    · exact ⟨_, List.mem_cons_self, rfl⟩
    · obtain ⟨p, hp, heq⟩ := ih hss
      exact ⟨p, List.mem_cons_of_mem _ hp, heq⟩

/-! ### Climbing along the siblings of the tree -/

@[simp]
theorem length_pathFrom (f : ℕ → α) :
  ∀ k i n, (pathFrom h f k i n).length = n
  | _, _, 0 => rfl
  | k, i, n + 1 => by rw [pathFrom, List.length_cons, length_pathFrom]

@[simp]
theorem length_path (f : ℕ → α) (i n : ℕ) :
  (path h f i n).length = n
  := length_pathFrom h f 0 i n

/-- A node and its sibling are the children of their parent. -/
theorem ordered_node (f : ℕ → α) (k i : ℕ) :
  ordered i (node h f k i) (node h f k (sibling i)) = children h f k (i / 2)
  := by
  rcases Nat.mod_two_eq_zero_or_one i with h0 | h1
  · have hi : 2 * (i / 2) = i := by omega
    rw [ordered, if_pos h0, sibling, if_pos h0, children, hi]
  · have hi : 2 * (i / 2) = i - 1 := by omega
    have hi' : i - 1 + 1 = i := by omega
    have hne : ¬ i % 2 = 0 := by omega
    rw [ordered, if_neg hne, sibling, if_neg hne, children, hi, hi']

theorem climb_pathFrom (f : ℕ → α) :
  ∀ k i n, climb h i (node h f k i) (pathFrom h f k i n) = node h f (k + n) (i / 2 ^ n)
  | k, i, 0 => by rw [pathFrom, climb, pow_zero, Nat.div_one, Nat.add_zero]
  | k, i, n + 1 => by
      have hi : i / 2 / 2 ^ n = i / 2 ^ (n + 1) := by rw [Nat.div_div_eq_div_mul, ← pow_succ']
      have hk : k + 1 + n = k + (n + 1) := by omega
      rw [pathFrom, climb, ordered_node, ← hi, ← hk, ← climb_pathFrom f (k + 1) (i / 2) n]
      rfl

/-- From the leaf of the tree, its own siblings lead to the root. -/
theorem climb_path_self (f : ℕ → α) {i n : ℕ} (hi : i < 2 ^ n) :
  climb h i (f i) (path h f i n) = root h n f
  := by
  have hclimb := climb_pathFrom h f 0 i n
  rw [Nat.zero_add, Nat.div_eq_of_lt hi] at hclimb
  exact hclimb

/-- The pairs that are hashed along the tree's own siblings are the pairs of children of
the nodes on the way. -/
theorem mem_climbPairs_pathFrom (f : ℕ → α) (p : α × α) :
  ∀ k i n, p ∈ climbPairs h i (node h f k i) (pathFrom h f k i n)
    ↔ ∃ j < n, p = children h f (k + j) (i / 2 ^ (j + 1))
  | k, i, 0 => by simp [pathFrom, climbPairs]
  | k, i, n + 1 => by
      have ih := mem_climbPairs_pathFrom f p (k + 1) (i / 2) n
      have hshift : ∀ j, children h f (k + (j + 1)) (i / 2 ^ (j + 1 + 1))
          = children h f (k + 1 + j) (i / 2 / 2 ^ (j + 1)) := by
        intro j
        have hk : k + 1 + j = k + (j + 1) := by omega
        rw [hk, Nat.div_div_eq_div_mul, ← pow_succ']
      rw [pathFrom, climbPairs, ordered_node, List.mem_cons]
      constructor
      · rintro (rfl | hp)
        · exact ⟨0, Nat.succ_pos n, by rw [Nat.add_zero, zero_add, pow_one]⟩
        · obtain ⟨j, hj, hpj⟩ := ih.mp hp
          exact ⟨j + 1, by omega, by rw [hshift, hpj]⟩
      · rintro ⟨j, hj, hpj⟩
        cases j with
        | zero =>
          left
          rw [hpj, Nat.add_zero, zero_add, pow_one]
        | succ j =>
          right
          exact ih.mpr ⟨j, by omega, by rw [hpj, hshift]⟩

/-! ### Changing one leaf -/

/-- A node that does not lie above a leaf does not depend on it. -/
theorem node_update_of_ne (f : ℕ → α) (i : ℕ) (x : α) :
  ∀ k j, i / 2 ^ k ≠ j → node h (Function.update f i x) k j = node h f k j
  | 0, j, hne => by
      rw [pow_zero, Nat.div_one] at hne
      rw [node, node, Function.update_of_ne hne.symm]
  | k + 1, j, hne => by
      have hdiv : i / 2 ^ (k + 1) = i / 2 ^ k / 2 := by rw [Nat.div_div_eq_div_mul, pow_succ]
      rw [node, node, node_update_of_ne f i x k (2 * j) (by omega),
        node_update_of_ne f i x k (2 * j + 1) (by omega)]

theorem pathFrom_update (f : ℕ → α) (i : ℕ) (x : α) :
  ∀ k n, pathFrom h (Function.update f i x) k (i / 2 ^ k) n = pathFrom h f k (i / 2 ^ k) n
  | _, 0 => rfl
  | k, n + 1 => by
      have hne : i / 2 ^ k ≠ sibling (i / 2 ^ k) := by
        unfold sibling
        split <;> omega
      have hdiv : i / 2 ^ k / 2 = i / 2 ^ (k + 1) := by rw [Nat.div_div_eq_div_mul, pow_succ]
      rw [pathFrom, pathFrom, node_update_of_ne h f i x k _ hne, hdiv,
        pathFrom_update f i x (k + 1) n]

/-- The siblings along the way up from a leaf do not depend on the leaf. -/
theorem path_update (f : ℕ → α) (i n : ℕ) (x : α) :
  path h (Function.update f i x) i n = path h f i n
  := by
  have hpath := pathFrom_update h f i x 0 n
  rw [pow_zero, Nat.div_one] at hpath
  exact hpath

/-- From another leaf, the siblings of the tree lead to the root of the tree with that leaf
in place. -/
theorem climb_path (f : ℕ → α) {i n : ℕ} (hi : i < 2 ^ n) (x : α) :
  climb h i x (path h f i n) = root h n (Function.update f i x)
  := by
  have hself := climb_path_self h (Function.update f i x) hi
  rw [Function.update_self, path_update] at hself
  exact hself

/-- The pairs of children of the tree with one leaf changed are those of the tree, and
those that are hashed on the way up from the changed leaf. -/
theorem children_update_mem {D : Set (α × α)} (f : ℕ → α) {i n : ℕ} (x : α)
    (hf : ∀ k < n, ∀ j, children h f k j ∈ D)
    (hx : ∀ p ∈ climbPairs h i x (path h f i n), p ∈ D) :
  ∀ k < n, ∀ j, children h (Function.update f i x) k j ∈ D
  := by
  intro k hk j
  by_cases hj : i / 2 ^ (k + 1) = j
  · -- the node lies above the changed leaf: its pair is one of those hashed on the way up
    apply hx
    have hmem := (mem_climbPairs_pathFrom h (Function.update f i x)
      (children h (Function.update f i x) k j) 0 i n).mpr
    rw [node, Function.update_self, ← path, path_update] at hmem
    exact hmem ⟨k, hk, by rw [Nat.zero_add, hj]⟩
  · have hdiv : i / 2 ^ (k + 1) = i / 2 ^ k / 2 := by rw [Nat.div_div_eq_div_mul, pow_succ]
    rw [children, node_update_of_ne h f i x k (2 * j) (by omega),
      node_update_of_ne h f i x k (2 * j + 1) (by omega)]
    apply hf k hk j

/-! ### The empty tree -/

/-- The node of level `k` of the tree all of whose leaves are `z`. -/
def emptyNode (z : α) : ℕ → α
  | 0 => z
  | k + 1 => h (emptyNode z k) (emptyNode z k)

theorem node_const (z : α) :
  ∀ k i, node h (fun _ => z) k i = emptyNode h z k
  | 0, _ => rfl
  | k + 1, i => by rw [node, emptyNode, node_const z k, node_const z k]

/-- The siblings in a tree whose leaves are all the same are nodes of that tree. -/
theorem path_const (z : α) (i n : ℕ) :
  path h (fun _ => z) i n = (List.range n).map (emptyNode h z)
  := by
  have hfrom : ∀ n k i, pathFrom h (fun _ => z) k i n
      = (List.range' k n).map (emptyNode h z) := by
    intro n
    induction n with
    | zero =>
      intro k i
      rfl
    | succ n ih =>
      intro k i
      rw [pathFrom, node_const, ih, List.range'_succ, List.map_cons]
  rw [path, hfrom, List.range_eq_range']

/-- A node above leaves that are all the same is a node of the empty tree. -/
theorem node_eq_emptyNode {f : ℕ → α} {z : α} :
  ∀ k j, (∀ i, 2 ^ k * j ≤ i → i < 2 ^ k * (j + 1) → f i = z) → node h f k j = emptyNode h z k
  | 0, j, hf => by
      rw [node, emptyNode]
      apply hf j <;> omega
  | k + 1, j, hf => by
      have hlow : 2 ^ (k + 1) * j = 2 ^ k * (2 * j) := by ring
      have hhigh : 2 ^ (k + 1) * (j + 1) = 2 ^ k * (2 * j + 1 + 1) := by ring
      have hmid : 2 ^ k * (2 * j) ≤ 2 ^ k * (2 * j + 1) := Nat.mul_le_mul_left _ (by omega)
      have hmid' : 2 ^ k * (2 * j + 1) ≤ 2 ^ k * (2 * j + 1 + 1) :=
        Nat.mul_le_mul_left _ (by omega)
      rw [hlow, hhigh] at hf
      rw [node, emptyNode, node_eq_emptyNode k (2 * j), node_eq_emptyNode k (2 * j + 1)]
      · intro i hlo hhi
        apply hf i (hmid.trans hlo) hhi
      · intro i hlo hhi
        apply hf i hlo (hhi.trans_le hmid')

/-- In a tree that is empty but for its first two leaves, the siblings of one of these are
the other one and nodes of the empty tree. -/
theorem path_pair {f : ℕ → α} {z : α} (hf : ∀ i, 2 ≤ i → f i = z) {i : ℕ} (hi : i < 2) (n : ℕ) :
  path h f i (n + 1) = f (1 - i) :: (List.range' 1 n).map (emptyNode h z)
  := by
  have hfrom : ∀ n k, 1 ≤ k → pathFrom h f k 0 n = (List.range' k n).map (emptyNode h z) := by
    intro n
    induction n with
    | zero =>
      intro k _
      rfl
    | succ n ih =>
      intro k hk
      have hnode : node h f k 1 = emptyNode h z k := by
        apply node_eq_emptyNode
        intro i hlo _
        apply hf
        have htwo : 2 ^ 1 ≤ 2 ^ k := Nat.pow_le_pow_right (by norm_num) hk
        omega
      rw [pathFrom, ih (k + 1) (by omega), List.range'_succ, List.map_cons, ← hnode]
      rfl
  have hdiv : i / 2 = 0 := by omega
  have hsibling : sibling i = 1 - i := by
    unfold sibling
    split <;> omega
  rw [path, pathFrom, hdiv, hfrom n 1 le_rfl, hsibling, node]

/-! ### Soundness -/

/-- When `h` is injective on the pairs hashed by a climb and on those hashed along the tree's
own siblings, and the climb leads to the tree's node, then it starts at the tree's node and
follows the tree's siblings. -/
theorem climb_soundAlong {D : Set (α × α)} (hinj : Set.InjOn (Function.uncurry h) D)
    (f : ℕ → α) :
  ∀ (ss : List α) (k i : ℕ) (x : α),
    (∀ p ∈ climbPairs h i (node h f k i) (pathFrom h f k i ss.length), p ∈ D) →
    (∀ p ∈ climbPairs h i x ss, p ∈ D) →
    climb h i x ss = node h f (k + ss.length) (i / 2 ^ ss.length) →
      x = node h f k i ∧ ss = pathFrom h f k i ss.length
  | [], k, i, x, _, _, hroot => by
      rw [climb, List.length_nil, Nat.add_zero, pow_zero, Nat.div_one] at hroot
      exact ⟨hroot, rfl⟩
  | s :: ss, k, i, x, htree, hD, hroot => by
      rw [List.length_cons] at htree hroot
      have hk : k + (ss.length + 1) = k + 1 + ss.length := by omega
      have hdiv : i / 2 ^ (ss.length + 1) = i / 2 / 2 ^ ss.length := by
        rw [Nat.div_div_eq_div_mul, ← pow_succ']
      rw [climb, hk, hdiv] at hroot
      rw [climbPairs, List.forall_mem_cons] at hD
      rw [pathFrom, climbPairs, ordered_node, List.forall_mem_cons] at htree
      obtain ⟨hnode, hss⟩ :=
        climb_soundAlong hinj f ss (k + 1) (i / 2) _ htree.2 hD.2 hroot
      -- the parents agree, so the pairs under them do
      have hpair : ordered i x s = children h f k (i / 2) := hinj hD.1 htree.1 hnode
      rw [← ordered_node h f k i] at hpair
      have hxs : x = node h f k i ∧ s = node h f k (sibling i) := by
        unfold ordered at hpair
        split at hpair
        · exact Prod.mk.inj hpair
        · exact (Prod.mk.inj hpair).symm
      refine ⟨hxs.1, ?_⟩
      rw [List.length_cons, pathFrom, ← hss, ← hxs.2]

/-- The same, when `h` is injective on all pairs of the tree. -/
theorem climb_soundFrom {D : Set (α × α)} (hinj : Set.InjOn (Function.uncurry h) D)
    (f : ℕ → α) {N : ℕ} (hf : ∀ k < N, ∀ j, children h f k j ∈ D) (ss : List α) (k i : ℕ) (x : α)
    (hN : k + ss.length ≤ N) (hD : ∀ p ∈ climbPairs h i x ss, p ∈ D)
    (hroot : climb h i x ss = node h f (k + ss.length) (i / 2 ^ ss.length)) :
  x = node h f k i ∧ ss = pathFrom h f k i ss.length
  := by
  apply climb_soundAlong h hinj f ss k i x _ hD hroot
  intro p hp
  obtain ⟨j, hj, rfl⟩ := (mem_climbPairs_pathFrom h f p k i ss.length).mp hp
  apply hf (k + j) (by omega)

/-- A climb that leads to the root of the tree starts at the tree's leaf and follows the
tree's siblings. -/
theorem climb_sound {D : Set (α × α)} (hinj : Set.InjOn (Function.uncurry h) D)
    {f : ℕ → α} {i : ℕ} {x : α} {ss : List α} (hi : i < 2 ^ ss.length)
    (hf : ∀ k < ss.length, ∀ j, children h f k j ∈ D)
    (hD : ∀ p ∈ climbPairs h i x ss, p ∈ D)
    (hroot : climb h i x ss = root h ss.length f) :
  x = f i ∧ ss = path h f i ss.length
  := by
  rw [root, ← Nat.div_eq_of_lt hi, ← Nat.zero_add ss.length] at hroot
  rw [Nat.zero_add ss.length] at hroot
  have hsound := climb_soundFrom h hinj f hf ss 0 i x (by omega) hD
  rw [Nat.zero_add] at hsound
  exact hsound hroot

/-- Trees with one root have the same leaves and the same siblings. -/
theorem eq_of_root_eq {D : Set (α × α)} (hinj : Set.InjOn (Function.uncurry h) D) {f g : ℕ → α}
    {n : ℕ} (hf : ∀ k < n, ∀ j, children h f k j ∈ D) (hg : ∀ k < n, ∀ j, children h g k j ∈ D)
    (hroot : root h n f = root h n g) {i : ℕ} (hi : i < 2 ^ n) :
  f i = g i ∧ path h f i n = path h g i n
  := by
  have hlen := length_path h f i n
  have hself := climb_path_self h f hi
  rw [hroot] at hself
  have hpairs : ∀ p ∈ climbPairs h i (f i) (path h f i n), p ∈ D := by
    intro p hp
    obtain ⟨j, hj, rfl⟩ := (mem_climbPairs_pathFrom h f p 0 i n).mp hp
    apply hf (0 + j) (by omega)
  have hsound := climb_sound h (f := g) hinj (hlen.symm ▸ hi) (hlen.symm ▸ hg) hpairs
  rw [hlen] at hsound
  exact hsound hself

/-! ### Images of trees -/

variable {h} {h' : β → β → β} {φ : α → β}

theorem map_node (hφ : ∀ a b, φ (h a b) = h' (φ a) (φ b)) (f : ℕ → α) :
  ∀ k i, φ (node h f k i) = node h' (fun j => φ (f j)) k i
  | 0, _ => rfl
  | k + 1, i => by rw [node, node, hφ, map_node hφ f k, map_node hφ f k]

theorem map_ordered (i : ℕ) (x s : α) :
  ordered i (φ x) (φ s) = (φ (ordered i x s).1, φ (ordered i x s).2)
  := by
  unfold ordered
  split <;> rfl

theorem map_climb (hφ : ∀ a b, φ (h a b) = h' (φ a) (φ b)) :
  ∀ i x ss, φ (climb h i x ss) = climb h' i (φ x) (ss.map φ)
  | _, _, [] => rfl
  | i, x, s :: ss => by
      rw [climb, List.map_cons, climb, map_climb hφ, map_ordered, hφ]

theorem map_pathFrom (hφ : ∀ a b, φ (h a b) = h' (φ a) (φ b)) (f : ℕ → α) :
  ∀ k i n, (pathFrom h f k i n).map φ = pathFrom h' (fun j => φ (f j)) k i n
  | _, _, 0 => rfl
  | k, i, n + 1 => by
      rw [pathFrom, List.map_cons, pathFrom, map_pathFrom hφ f, map_node hφ f]

theorem map_path (hφ : ∀ a b, φ (h a b) = h' (φ a) (φ b)) (f : ℕ → α) (i n : ℕ) :
  (path h f i n).map φ = path h' (fun j => φ (f j)) i n
  := map_pathFrom hφ f 0 i n

/-- A compression function that depends on its arguments only through `φ` leads to the same
node along siblings that are the same under `φ`. -/
theorem climb_congr (hφ : ∀ a b c d, φ a = φ c → φ b = φ d → h a b = h c d) :
  ∀ i x ss ss', ss.map φ = ss'.map φ → climb h i x ss = climb h i x ss'
  | _, _, [], ss', hss => by
      rw [List.map_nil, eq_comm, List.map_eq_nil_iff] at hss
      rw [hss]
  | i, x, s :: ss, ss', hss => by
      obtain ⟨s', ss', rfl⟩ : ∃ t ts, ss' = t :: ts := by
        cases ss' with
        | nil => simp at hss
        | cons t ts => exact ⟨t, ts, rfl⟩
      rw [List.map_cons, List.map_cons, List.cons.injEq] at hss
      have hstep : h (ordered i x s).1 (ordered i x s).2
          = h (ordered i x s').1 (ordered i x s').2 := by
        unfold ordered
        split
        · exact hφ _ _ _ _ rfl hss.1
        · exact hφ _ _ _ _ hss.1 rfl
      rw [climb, climb, hstep, climb_congr hφ (i / 2) _ ss ss' hss.2]

/-! ### The climb as a loop over levels -/

/-- A loop over the levels of the tree that puts the node to the left or right of the
sibling by the bit of the index is a climb. -/
theorem foldl_finRange (h : α → α → α) :
  ∀ (n i : ℕ) (x : α) (s : Fin n → α),
    (List.finRange n).foldl
        (fun y (level : Fin n) =>
          if i.testBit level.val then h (s level) y else h y (s level)) x
      = climb h i x (List.ofFn s)
  | 0, _, _, _ => rfl
  | n + 1, i, x, s => by
      have hbit : i.testBit (0 : Fin (n + 1)).val = decide (i % 2 = 1) := by
        rw [Fin.val_zero, Nat.testBit_zero]
      have hbits : ∀ l : Fin n, i.testBit l.succ.val = (i / 2).testBit l.val := by
        intro l
        rw [Fin.val_succ, Nat.testBit_succ]
      rw [List.finRange_succ, List.foldl_cons, List.foldl_map, List.ofFn_succ, climb,
        ← foldl_finRange h n (i / 2)]
      simp only [hbits, hbit]
      congr 1
      rcases Nat.mod_two_eq_zero_or_one i with h0 | h1
      · simp [ordered, h0]
      · simp [ordered, h1]

end SparseMerkle
