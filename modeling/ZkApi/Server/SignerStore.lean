import ZkApi.Server.Types

/-!
# The signer and its leaf counters

A signer has a key pair for states and one for clearances.  The index of the next leaf of
each is a row of a table of SQLite, which a reservation increments before the leaf signs.
-/

namespace ZkApi.Server

open Stark

/-! ### The table -/

/-- `SignerTree`. -/
inductive SignerTree where
  | state
  | clear
  deriving DecidableEq

/-- `as_str`. -/
def SignerTree.asStr : SignerTree → String
  | .state => "state"
  | .clear => "clear"

/-- A row of the table, but for its key. -/
structure SignerRow where
  epoch : ℤ
  root : String
  nextLeaf : ℤ
  deriving DecidableEq

/-- The table, by its primary key. -/
abbrev SignerTable : Type :=
  SignerTree → Option SignerRow

/-- `u32::try_from`. -/
def tryFromI64 (n : ℤ) : Option U32 :=
  if 0 ≤ n ∧ n < 2 ^ 32 then some (BitVec.ofInt 32 n) else none

/-- The row was written for the tree with the epoch and the root. -/
def SignerRow.Matches (row : SignerRow) (epoch : U32) (root : Felt252) : Prop :=
  row.epoch = epoch.toNat ∧ row.root = root.toHex

/-- The row that a tree starts with. -/
def SignerRow.initial (epoch : U32) (root : Felt252) : SignerRow where
  epoch := epoch.toNat
  root := root.toHex
  nextLeaf := 0

theorem SignerRow.initial_matches (epoch : U32) (root : Felt252) :
  (SignerRow.initial epoch root).Matches epoch root
  := by
  rw [SignerRow.Matches, SignerRow.initial]
  constructor <;> rfl

instance (row : SignerRow) (epoch : U32) (root : Felt252) : Decidable (row.Matches epoch root) :=
  inferInstanceAs (Decidable (_ ∧ _))

namespace SignerTable

/-- `ensure_tree`. -/
def ensureTree (table : SignerTable) (tree : SignerTree) (epoch : U32) (root : Felt252) :
    Except ServerError SignerTable :=
  match table tree with
  | some row =>
      if row.Matches epoch root then
        .ok table
      else
        .error (.database (s!"signer_state {tree.asStr} mismatch: db has epoch={row.epoch} "
          ++ s!"root={row.root}, config has epoch={epoch.toNat} root={root.toHex}"))
  | none => .ok (Function.update table tree (some (SignerRow.initial epoch root)))

/-- `next_leaf`. -/
def nextLeaf (table : SignerTable) (tree : SignerTree) : Except ServerError U32 :=
  match table tree with
  | none => .error (.database "signer_state lookup failed: Query returned no rows")
  | some row =>
      match tryFromI64 row.nextLeaf with
      | some next => .ok next
      | none => .error (.database "signer_state next_leaf out of range")

/-- The transaction of `reserve_leaf`. -/
def reserveLeaf (table : SignerTable) (tree : SignerTree) (epoch : U32) (root : Felt252)
    (capacity : U32) : Except ServerError U32 × SignerTable :=
  match table tree with
  | none => (.error (.database "signer_state reserve lookup failed: Query returned no rows"), table)
  | some row =>
      if ¬ row.Matches epoch root then
        (.error (.database (s!"signer_state {tree.asStr} changed: db has epoch={row.epoch} "
          ++ s!"root={row.root}, signer has epoch={epoch.toNat} root={root.toHex}")), table)
      else
        match tryFromI64 row.nextLeaf with
        | none => (.error (.database "signer_state next_leaf out of range"), table)
        | some next =>
            if capacity ≤ next then
              (.error .capacityExhausted, table)
            else
              (.ok next, Function.update table tree (some {
                row with nextLeaf := (next + 1).toNat }))

end SignerTable

/-! ### The signer -/

/-- `ServerSigner` with its counters in the table. -/
structure ServerSigner where
  stateKeypair : XmssKeypair
  clearKeypair : XmssKeypair
  stateEpoch : U32
  clearEpoch : U32

namespace ServerSigner

/-- The key pair of a tree. -/
def keypair (signer : ServerSigner) : SignerTree → XmssKeypair
  | .state => signer.stateKeypair
  | .clear => signer.clearKeypair

/-- The epoch of a tree. -/
def treeEpoch (signer : ServerSigner) : SignerTree → U32
  | .state => signer.stateEpoch
  | .clear => signer.clearEpoch

/-- `state_root` and `clear_root`. -/
def root (signer : ServerSigner) (tree : SignerTree) : Felt252 :=
  (signer.keypair tree).rootFelt

/-- `capacity` of the key pair of a tree. -/
def capacity (signer : ServerSigner) (tree : SignerTree) : U32 :=
  (signer.keypair tree).capacity

/-- `with_height_durable`, with the table before and after. -/
def withHeightDurable (poseidonHashMany : List Felt → Felt) (stateSeed clearSeed : Felt)
    (epoch : U32) (height : ℕ) (table : SignerTable) :
    Except Abort (ServerSigner × SignerTable) :=
  match generateWithHeight poseidonHashMany stateSeed height,
      generateWithHeight poseidonHashMany clearSeed height with
  | some stateKeypair, some clearKeypair =>
      match (do
        let table ← table.ensureTree .state epoch stateKeypair.rootFelt
        table.ensureTree .clear epoch clearKeypair.rootFelt) with
      | .error e => .error (.error e)
      | .ok table =>
          .ok ({
            stateKeypair := stateKeypair
            clearKeypair := clearKeypair
            stateEpoch := epoch
            clearEpoch := epoch }, table)
  | _, _ => .error .panic

end ServerSigner

/-! ### What the operations of the table do -/

namespace SignerTable

variable {table later : SignerTable} {tree tree' : SignerTree} {epoch capacity next : U32}
  {root : Felt252} {row : SignerRow}

/-- The rows that a table holds are in the later one, with counters that have not moved back. -/
def Continues (later table : SignerTable) : Prop :=
  ∀ tree row, table tree = some row →
    ∃ row', later tree = some row' ∧ row'.epoch = row.epoch ∧ row'.root = row.root
      ∧ row.nextLeaf ≤ row'.nextLeaf

theorem Continues.refl :
  table.Continues table
  := by
  intro tree row hrow
  exact ⟨row, hrow, rfl, rfl, le_refl _⟩

theorem Continues.trans {last : SignerTable} (h : last.Continues later) (k : later.Continues table) :
  last.Continues table
  := by
  intro tree row hrow
  obtain ⟨row', hrow', hepoch, hroot, hnext⟩ := k tree row hrow
  obtain ⟨row'', hrow'', hepoch', hroot', hnext'⟩ := h tree row' hrow'
  exact ⟨row'', hrow'', hepoch'.trans hepoch, hroot'.trans hroot, hnext.trans hnext'⟩

/-- A reservation fails and changes nothing, or it returns the counter, below the capacity,
and increments it. -/
theorem reserveLeaf_cases (capacity : U32) (hrow : table tree = some row) (hmatch : row.Matches epoch root) :
  (table.reserveLeaf tree epoch root capacity
      = (.error (.database "signer_state next_leaf out of range"), table)
    ∧ tryFromI64 row.nextLeaf = none)
  ∨ ∃ next, tryFromI64 row.nextLeaf = some next
    ∧ ((capacity ≤ next
        ∧ table.reserveLeaf tree epoch root capacity = (.error .capacityExhausted, table))
      ∨ (next < capacity
        ∧ table.reserveLeaf tree epoch root capacity
          = (.ok next, Function.update table tree (some {
            row with nextLeaf := (next + 1).toNat }))))
  := by
  rw [reserveLeaf, hrow]
  dsimp only
  rw [if_neg (not_not.mpr hmatch)]
  cases hnext : tryFromI64 row.nextLeaf with
  | none =>
    left
    exact ⟨rfl, rfl⟩
  | some next =>
    right
    use next, rfl
    by_cases hcapacity : capacity ≤ next
    · left
      exact ⟨hcapacity, if_pos hcapacity⟩
    · right
      exact ⟨BitVec.not_le.mp hcapacity, if_neg hcapacity⟩

theorem reserveLeaf_of_lt (hrow : table tree = some row) (hmatch : row.Matches epoch root)
    (hnext : tryFromI64 row.nextLeaf = some next) (hlt : next < capacity) :
  table.reserveLeaf tree epoch root capacity
    = (.ok next, Function.update table tree (some { row with nextLeaf := (next + 1).toNat }))
  := by
  obtain ⟨_, hnone⟩ | ⟨next', hnext', ⟨hcapacity, _⟩ | ⟨_, heq⟩⟩ :=
    reserveLeaf_cases capacity hrow hmatch
  · rw [hnext] at hnone
    cases hnone
  · rw [hnext] at hnext'
    cases hnext'
    cases BitVec.not_le.mpr hlt hcapacity
  · rw [hnext] at hnext'
    cases hnext'
    apply heq

/-- A counter at the capacity. -/
def Exhausted (table : SignerTable) (tree : SignerTree) (capacity : U32) (row : SignerRow) : Prop :=
  table tree = some row ∧ ∃ next, tryFromI64 row.nextLeaf = some next ∧ capacity ≤ next

theorem Exhausted.reserveLeaf (h : table.Exhausted tree capacity row)
    (hmatch : row.Matches epoch root) :
  table.reserveLeaf tree epoch root capacity = (.error .capacityExhausted, table)
  := by
  obtain ⟨hrow, next, hnext, hcapacity⟩ := h
  obtain ⟨_, hnone⟩ | ⟨next', hnext', ⟨_, heq⟩ | ⟨hlt, _⟩⟩ :=
    reserveLeaf_cases capacity hrow hmatch
  · rw [hnext] at hnone
    cases hnone
  · apply heq
  · rw [hnext] at hnext'
    cases hnext'
    cases BitVec.not_le.mpr hlt hcapacity

end SignerTable

end ZkApi.Server
