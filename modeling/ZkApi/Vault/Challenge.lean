import ZkApi.Vault.Nullifiers
import ZkApi.Vault.Ownership

/-!
# A stale escape can be challenged

In a reachable state the siblings that the tree of the notes has are accepted, so that a
call whose other checks pass goes through with them.  For a challenge these checks are only
that the withdrawal is pending, that its deadline has not come, that the request is bound to
the vault and has the nullifier, and that its proof is valid: neither the root that the
request was proved for nor a pause matters (`stale_escape_challengeable`).
-/

namespace ZkApi.Vault

open SparseMerkle MerkleUpdateLib

variable {v : Deployment} {env : Env} {w w' : World} {r : Receipt} {actions : List Action}

/-! ### Updates along the siblings of the tree -/

/-- The root of the tree of the notes with one leaf replaced. -/
def Ledger.rootWith (l : Ledger) (n : U32) (x : U256) : U256 :=
  root poseidonNodeHash MERKLE_DEPTH (Function.update (leaves l) n.toNat x)

theorem verify_rootWith {l : Ledger} {n : U32} {oldLeaf : U256} (newLeaf : U256)
    (hroot : l.currentRoot = treeRoot l) (hold : noteLeafAt l n = oldLeaf) :
  verifyAndUpdate l.currentRoot n oldLeaf newLeaf (siblingPath l n) = .ok (l.rootWith n newLeaf)
  := by
  rw [hroot, ← hold, verifyAndUpdate_siblingPath, Ledger.rootWith]

/-- The ledger after the leaf of a note was replaced along the siblings of the tree stores
the root of its own tree. -/
theorem treeRoot_of_rootWith {l l' : Ledger} {n : U32} {x : U256}
    (hroot : l'.currentRoot = l.rootWith n x) (hother : ∀ m ≠ n, l'.notes m = l.notes m)
    (hself : noteLeafAt l' n = x) :
  l'.currentRoot = treeRoot l'
  := by
  rw [hroot, treeRoot, leaves_update hother hself, Ledger.rootWith]

/-- The siblings of a note do not depend on the note. -/
theorem siblingPath_congr {l l' : Ledger} {n : U32} (hother : ∀ m ≠ n, l'.notes m = l.notes m) :
  siblingPath l' n = siblingPath l n
  := by
  have hpath : path poseidonNodeHash (leaves l') n.toNat MERKLE_DEPTH
      = path poseidonNodeHash (leaves l) n.toNat MERKLE_DEPTH := by
    rw [leaves_update hother rfl, path_update]
  rw [← ofFn_siblingPath, ← ofFn_siblingPath] at hpath
  apply List.ofFn_injective hpath

/-- An update hashes the same pairs as the one that takes it back. -/
theorem mem_updatePairs_comm {n : U32} {x y : U256} {siblings : Fin 32 → U256} {p : Fr × Fr}
    (h : p ∈ updatePairs n x y siblings) :
  p ∈ updatePairs n y x siblings
  := by
  rw [updatePairs, List.mem_append] at h ⊢
  apply h.symm

/-! ### Calls that go through -/

/-- A deposit of tokens goes through when the vault is not paused, the amount and the
commitment pass their checks and the token is transferred. -/
theorem deposit_siblingPath {commitment : U256} {amount : U128} {expiryTs : U64}
    (hroot : w.ledger.currentRoot = treeRoot w.ledger)
    (hfresh : w.ledger.notes w.ledger.nextNoteId = .empty)
    (hnext : w.ledger.nextNoteId.toNat + 1 < 2 ^ 32) (hpaused : w.admin.paused = false)
    (htoken : ¬ v.isNative) (hvalue : env.value = 0) (hamount : amount ≠ 0)
    (hcommitment : commitment ≠ 0) (hfield : commitment.toNat < fieldModulus)
    (hexpiry : bucketedExpiry v env = .ok expiryTs) (hsuccess : (env.reply 0).success = true) :
  execute v env w
      (.deposit commitment amount (siblingPath w.ledger w.ledger.nextNoteId))
    = .ok
      { world :=
          { w with
            admin := runNested w.admin (env.reply 0).nested
            ledger := w.ledger.deposited commitment amount expiryTs
              (w.ledger.rootWith w.ledger.nextNoteId
                (NoteLeafLib.computeLeaf w.ledger.nextNoteId commitment amount expiryTs))
            held := w.held + amount.toNat + (env.reply 0).donation }
        sent := []
        events := [.noteDeposited w.ledger.nextNoteId commitment amount expiryTs
          (w.ledger.rootWith w.ledger.nextNoteId
            (NoteLeafLib.computeLeaf w.ledger.nextNoteId commitment amount expiryTs))] }
  := by
  have hold : noteLeafAt w.ledger w.ledger.nextNoteId = 0 :=
    noteLeafAt_of_status (by rw [hfresh]; simp [Note.empty])
  have hverify := verify_rootWith
    (NoteLeafLib.computeLeaf w.ledger.nextNoteId commitment amount expiryTs) hroot hold
  have hzero : env.value.toNat = 0 := by rw [hvalue]; rfl
  simp only [execute, deposit, whenNotPaused, requireField, checkDepositValue, if_neg htoken,
    transferFrom, bind_eq_ok, revertIf_eq_ok, exists_const, checkedAdd_eq_ok, pure_eq_ok]
  refine ⟨by simp [hpaused], not_not.mpr hvalue, hamount, hcommitment, not_le.mpr hfield, _,
    hexpiry, _, hverify, _, ⟨hnext, rfl⟩, _, ⟨by simp [hsuccess], rfl⟩, ?_⟩
  simp only [hzero, add_zero]
  rfl

/-- The ledger after an escape along the siblings of the tree. -/
def Ledger.escaped (l : Ledger) (inputs : WithdrawalPublicInputs) (deadline : U64) : Ledger :=
  ((l.consumed inputs.withdrawalNullifier).moved inputs.noteId .pendingWithdrawal
    (l.rootWith inputs.noteId 0)).setPending inputs.noteId
    { present := true
      activeRoot := l.currentRoot
      withdrawalNullifier := inputs.withdrawalNullifier
      finalBalance := inputs.finalBalance
      destination := inputs.destination
      challengeDeadline := deadline }

theorem Ledger.leaves_escaped (l : Ledger) (inputs : WithdrawalPublicInputs) (deadline : U64) :
  leaves (l.escaped inputs deadline) = Function.update (leaves l) inputs.noteId.toNat 0
  := by
  apply leaves_update
  · intro m hm
    rw [escaped, setPending_notes, moved_notes, Function.update_of_ne hm, consumed_notes]
  · simp [escaped, noteLeafAt]

/-- An escape of an active note goes through when the vault is not paused, its inputs are
those of the vault and its proof is valid. -/
theorem escape_siblingPath {inputs : WithdrawalPublicInputs} {proof : Bytes} {deadline : U64}
    (hroot : w.ledger.currentRoot = treeRoot w.ledger) (hvalue : env.value = 0)
    (hpaused : w.admin.paused = false) (hbound : ¬ withdrawalMismatch v env inputs)
    (hclearance : inputs.hasClearance = false)
    (hactiveRoot : inputs.activeRoot = w.ledger.currentRoot)
    (hvalid : v.proofAdapter.assertValidWithdrawal inputs proof = true)
    (hactive : (w.ledger.notes inputs.noteId).status = .active)
    (hbalance : inputs.finalBalance.toNat
      ≤ (w.ledger.notes inputs.noteId).depositAmount.toNat)
    (hunused : w.ledger.usedNullifiers inputs.withdrawalNullifier = false)
    (hdeadline : checkedAdd (env.timestamp.setWidth 64) v.challengePeriod = .ok deadline) :
  execute v env w
      (.initiateEscapeWithdrawal inputs proof (siblingPath w.ledger inputs.noteId))
    = .ok
      { world := { w with ledger := w.ledger.escaped inputs deadline }
        sent := []
        events := [.escapeWithdrawalInitiated inputs.noteId inputs.withdrawalNullifier
          inputs.finalBalance inputs.destination deadline
          (w.ledger.rootWith inputs.noteId 0)] }
  := by
  have hverify := verify_rootWith 0 hroot (noteLeafAt_active hactive)
  simp only [execute, nonPayable, initiateEscapeWithdrawal, checkWithdrawal, whenNotPaused,
    validateWithdrawalBinding, consumeNullifier, bind_eq_ok, revertIf_eq_ok, exists_const,
    pure_eq_ok]
  refine ⟨not_not.mpr hvalue, ⟨by simp [hpaused], hbound, not_not.mpr hclearance,
    not_not.mpr hactiveRoot, by simp [hvalid]⟩, not_not.mpr hactive, not_lt.mpr hbalance, _,
    ⟨by simp [hunused], rfl⟩, _, hverify, _, hdeadline, rfl⟩

/-- The ledger after a challenge along the siblings of the tree. -/
def Ledger.restored (l : Ledger) (n : U32) : Ledger :=
  (l.moved n .active (l.rootWith n (leaf n (l.notes n)))).setPending n .empty

theorem Ledger.leaves_restored (l : Ledger) (n : U32) :
  leaves (l.restored n) = Function.update (leaves l) n.toNat (leaf n (l.notes n))
  := by
  apply leaves_update
  · intro m hm
    rw [restored, setPending_notes, moved_notes, Function.update_of_ne hm]
  · simp [restored, noteLeafAt, leaf]

theorem challenge_siblingPath {n : U32} {inputs : RequestPublicInputs} {proof : Bytes}
    (hroot : w.ledger.currentRoot = treeRoot w.ledger) (hvalue : env.value = 0)
    (hstatus : (w.ledger.notes n).status = .pendingWithdrawal)
    (hpresent : (w.ledger.pendingWithdrawals n).present = true)
    (htime : env.timestamp.toNat < (w.ledger.pendingWithdrawals n).challengeDeadline.toNat)
    (hbound : ¬ requestMismatch v env inputs)
    (hnullifier : inputs.requestNullifier
      = (w.ledger.pendingWithdrawals n).withdrawalNullifier)
    (hvalid : v.proofAdapter.assertValidRequest inputs proof = true) :
  execute v env w (.challengeEscapeWithdrawal n inputs proof (siblingPath w.ledger n))
    = .ok
      { world := { w with ledger := w.ledger.restored n }
        sent := []
        events := [.escapeWithdrawalChallenged n
          (w.ledger.pendingWithdrawals n).withdrawalNullifier
          (w.ledger.rootWith n (leaf n (w.ledger.notes n)))] }
  := by
  have hold : noteLeafAt w.ledger n = 0 := noteLeafAt_of_status (by rw [hstatus]; simp)
  have hverify := verify_rootWith (leaf n (w.ledger.notes n)) hroot hold
  apply bind_eq_ok.mpr ⟨(), revertIf_eq_ok.mpr (not_not.mpr hvalue), _⟩
  apply bind_eq_ok.mpr
    ⟨(), revertIf_eq_ok.mpr (not_notPending.mpr ⟨hstatus, hpresent⟩), _⟩
  apply bind_eq_ok.mpr ⟨(), revertIf_eq_ok.mpr (not_le.mpr htime), _⟩
  apply bind_eq_ok.mpr ⟨(), revertIf_eq_ok.mpr hbound, _⟩
  apply bind_eq_ok.mpr ⟨(), revertIf_eq_ok.mpr (not_not.mpr hnullifier), _⟩
  apply bind_eq_ok.mpr ⟨(), revertIf_eq_ok.mpr (by rw [hvalid]; simp), _⟩
  refine bind_eq_ok.mpr ⟨_, hverify, ?_⟩
  rfl

/-- A withdrawal that is not pending cannot be finalized. -/
theorem finalize_error {n : U32} (h : (w.ledger.notes n).status ≠ .pendingWithdrawal) :
  ∀ r, execute v env w (.finalizeEscapeWithdrawal n) ≠ .ok r
  := by
  intro r hexecute
  cases execute_effect hexecute with
  | finalizeEscapeWithdrawal hstatus => apply h hstatus

/-! ### The challenge of a stale escape -/

/-- In a reachable state in which a note is pending with the nullifier of a request whose
proof is valid, whenever and for whatever root it was made, there are siblings with which a
challenge succeeds before the deadline.  It leaves the note active, the stored root is that
of the tree with the leaf of the note put back, which is the one it had in every earlier
state in which it was active, nothing is pending, the withdrawal cannot be finalized, and
the nullifier stays used. -/
theorem stale_escape_challengeable {n : U32} {inputs : RequestPublicInputs} {proof : Bytes}
    (h : Reachable v actions w)
    (hcollision : CollisionFree { p | p ∈ hashedPairs v actions })
    (hbound : ¬ requestMismatch v env inputs)
    (hvalid : v.proofAdapter.assertValidRequest inputs proof = true)
    (hstatus : (w.ledger.notes n).status = .pendingWithdrawal)
    (hnullifier : (w.ledger.pendingWithdrawals n).withdrawalNullifier
      = inputs.requestNullifier)
    (htime : env.timestamp.toNat < (w.ledger.pendingWithdrawals n).challengeDeadline.toNat)
    (hvalue : env.value = 0) :
  ∃ siblings r,
    execute v env w (.challengeEscapeWithdrawal n inputs proof siblings) = .ok r
      ∧ (r.world.ledger.notes n).status = .active
      ∧ r.world.ledger.currentRoot
        = root poseidonNodeHash MERKLE_DEPTH (leaves r.world.ledger)
      ∧ leaves r.world.ledger
        = Function.update (leaves w.ledger) n.toNat (leaf n (w.ledger.notes n))
      ∧ (∀ as u bs, Reachable v as u → Run (Step v) u bs w →
        (u.ledger.notes n).status = .active →
        noteLeafAt u.ledger n = leaf n (w.ledger.notes n))
      ∧ r.world.ledger.pendingWithdrawals n = .empty
      ∧ (∀ env' r', execute v env' r.world (.finalizeEscapeWithdrawal n) ≠ .ok r')
      ∧ r.world.ledger.usedNullifiers inputs.requestNullifier = true
      ∧ ∀ as w', Run (Step v) { r.world with now := env.timestamp } as w' →
        w'.ledger.usedNullifiers inputs.requestNullifier = true
  := by
  have hroot := (h.rooted hcollision fun _ hp => hp).root_eq
  have hpresent := (h.conserved.pending n).mpr hstatus
  have hexecute := challenge_siblingPath hroot hvalue hstatus hpresent htime hbound
    hnullifier.symm hvalid
  have hactive : ((w.ledger.restored n).notes n).status = .active := by
    simp [Ledger.restored]
  have hused : (w.ledger.restored n).usedNullifiers inputs.requestNullifier = true := by
    rw [← hnullifier]
    apply h.recorded.pending n hstatus
  refine ⟨siblingPath w.ledger n, _, hexecute, ?_⟩
  constructor
  · apply hactive
  constructor
  · rw [w.ledger.leaves_restored n]
    rfl
  constructor
  · apply w.ledger.leaves_restored n
  constructor
  · intro as u bs hu hrun hactive
    have hlt := hu.conserved.lt_next (n := n) (by rw [hactive]; simp)
    have hrecord := (record_of_run hrun hlt).2
    rw [noteLeafAt_active hactive, leaf_eq_of_record hrecord]
  constructor
  · apply Function.update_self
  constructor
  · intro env' r'
    apply finalize_error
    rw [hactive]
    simp
  constructor
  · apply hused
  · intro as w' hrun
    apply used_of_run hrun hused

/-! ### An escape that is challenged -/

namespace ChallengeExample

open OwnershipExample (commitment block newRoot ledger witness rooted)

/-- A request for a note of ten units with the secret one, in its first state. -/
def requestOf (activeRoot : U256) (noteId : U32) : RequestPublicInputs where
  protocolVersion := 2
  chainId := 1
  contractAddress := 9
  activeRoot
  stateSigningKeyX := OwnershipExample.inputs.stateSigningKeyX
  stateSigningKeyY := OwnershipExample.inputs.stateSigningKeyY
  requestTime := 1700000000
  solvencyBound := 5
  requestNullifier := word (requestNullifier 1 1)
  authorizationTag := word (authorizationTag (requestNullifier 1 1) 0)
  anonymousCommitmentX := word (balanceCommitment 10 0 (witness.leaf noteId)).x
  anonymousCommitmentY := word (balanceCommitment 10 0 (witness.leaf noteId)).y

/-- The request that the owner of the note had made before. -/
def request : RequestPublicInputs :=
  requestOf newRoot 0

/-- A vault that accepts this request and the escape. -/
def vault : Deployment :=
  { OwnershipExample.vault with
    proofAdapter :=
      { assertValidRequest := fun x _ => decide (x = request)
        assertValidWithdrawal := fun x _ => decide (x = OwnershipExample.inputs) } }

/-- The arguments of its constructor. -/
def args : ConstructorArgs :=
  { OwnershipExample.args with proofAdapter := vault.proofAdapter }

/-- The deposit of the note. -/
def deposit : Action :=
  .call block (.deposit commitment 10 (siblingPath .initial 0)) OwnershipExample.receipt

/-- The ledger while the note is pending. -/
def pendingLedger : Ledger :=
  ledger.escaped OwnershipExample.inputs 1700086400

/-- The outcome of the escape. -/
def escapeReceipt : Receipt where
  world := { OwnershipExample.deposited with ledger := pendingLedger }
  sent := []
  events := [.escapeWithdrawalInitiated 0 OwnershipExample.inputs.withdrawalNullifier 10 11
    1700086400 (ledger.rootWith 0 0)]

/-- The escape of the note. -/
def escape : Action :=
  .call block (.initiateEscapeWithdrawal OwnershipExample.inputs [] (siblingPath ledger 0))
    escapeReceipt

/-- The state while the note is pending. -/
def pendingWorld : World :=
  { escapeReceipt.world with now := 1700000000 }

theorem newRoot_eq :
  newRoot = Ledger.initial.rootWith 0 (NoteLeafLib.computeLeaf 0 commitment 10 1700092800)
  := by
  have hlt : (0 : U32).toNat < 2 ^ MERKLE_DEPTH := by decide
  have hclimb := climb_path poseidonNodeHash (leaves .initial) hlt
    (NoteLeafLib.computeLeaf 0 commitment 10 1700092800)
  rw [newRoot, hash3PairPath32_eq, ofFn_siblingPath, hclimb, Ledger.rootWith]

/-- The deposit goes through whatever the adapter is. -/
theorem deposit_ok (adapter : ProofAdapter) :
  execute { OwnershipExample.vault with proofAdapter := adapter } block tokenWorld
      (.deposit commitment 10 (siblingPath .initial 0))
    = .ok OwnershipExample.receipt
  := by
  have hcommitment : commitment ≠ 0 := by decide +kernel
  have hfield : commitment.toNat < fieldModulus := by
    rw [commitment, word_toNat]
    apply val_lt
  have hexpiry : bucketedExpiry { OwnershipExample.vault with proofAdapter := adapter } block
      = .ok 1700092800 := by
    have hsame : bucketedExpiry { OwnershipExample.vault with proofAdapter := adapter } block
        = bucketedExpiry OwnershipExample.vault block := rfl
    rw [hsame]
    rfl
  have hdeposit := deposit_siblingPath (w := tokenWorld) rooted.root_eq rfl
    (by decide) rfl (fun h => h rfl) rfl (show (10 : U128) ≠ 0 by decide) hcommitment hfield hexpiry rfl
  rw [OwnershipExample.receipt, ledger, newRoot_eq]
  apply hdeposit

theorem ledger_root :
  ledger.currentRoot = treeRoot ledger
  := by
  have hnotes : ledger.notes = Function.update Ledger.initial.notes 0
      { commitment, depositAmount := 10, expiryTs := 1700092800, status := .active } := rfl
  apply treeRoot_of_rootWith (l := .initial) (n := 0) newRoot_eq
  · intro m hm
    apply Function.update_of_ne hm
  · have hactive : (ledger.notes 0).status = .active := by rw [hnotes, Function.update_self]
    rw [noteLeafAt_active hactive, hnotes, Function.update_self, leaf]

theorem escape_ok :
  execute vault block OwnershipExample.deposited
      (.initiateEscapeWithdrawal OwnershipExample.inputs [] (siblingPath ledger 0))
    = .ok escapeReceipt
  := by
  have hvalid : vault.proofAdapter.assertValidWithdrawal OwnershipExample.inputs [] = true :=
    decide_eq_true rfl
  have hdeadline : checkedAdd (block.timestamp.setWidth 64) vault.challengePeriod
      = .ok 1700086400 := rfl
  apply escape_siblingPath (w := OwnershipExample.deposited) ledger_root rfl rfl (by decide) rfl
    rfl hvalid rfl (by decide) rfl hdeadline

theorem reachable :
  Reachable vault [deposit, escape] pendingWorld
  := by
  have hok : execute vault block tokenWorld (.deposit commitment 10 (siblingPath .initial 0))
      = .ok OwnershipExample.receipt := deposit_ok _
  have hdeposit : Step vault tokenWorld deposit OwnershipExample.deposited :=
    .call (by decide) (by decide) hok
  have hescape : Step vault OwnershipExample.deposited escape pendingWorld :=
    .call (by decide) (by decide) escape_ok
  exact ⟨9, 1700000000, 0, args, tokenWorld, rfl, (Run.single hdeposit).append (.single hescape)⟩

/-! #### The pairs that are hashed -/

theorem siblingPath_ledger :
  siblingPath ledger 0 = siblingPath .initial 0
  := by
  apply siblingPath_congr
  intro m hm
  apply Function.update_of_ne hm

/-- The pairs of the deposit. -/
def depositPairs : List (Fr × Fr) :=
  updatePairs 0 0 (NoteLeafLib.computeLeaf 0 commitment 10 1700092800) (siblingPath .initial 0)

theorem hashedPairs_eq :
  hashedPairs vault [deposit, escape]
    = emptyPairs ++ (depositPairs
      ++ updatePairs 0 (NoteLeafLib.computeLeaf 0 commitment 10 1700092800) 0
        (siblingPath .initial 0))
  := by
  have hdeposit : (deposit.update vault .initial).map Update.pairs = some depositPairs := rfl
  have hescape : (escape.update vault ledger).map Update.pairs
      = some (updatePairs 0 (NoteLeafLib.computeLeaf 0 commitment 10 1700092800) 0
        (siblingPath ledger 0)) := rfl
  have hledger : deposit.ledger .initial = ledger := rfl
  rw [hashedPairs, runPairs, runPairs, runPairs, hledger, hdeposit, hescape, Option.getD_some,
    Option.getD_some, List.append_nil, siblingPath_ledger]

/-- The escape and the challenge hash no pair that the deposit has not hashed. -/
theorem hashed_subset {p : Fr × Fr} (h : p ∈ hashedPairs vault [deposit, escape]) :
  p ∈ hashedPairs OwnershipExample.vault [OwnershipExample.deposit]
  := by
  have hsame : hashedPairs OwnershipExample.vault [OwnershipExample.deposit]
      = emptyPairs ++ (depositPairs ++ []) := rfl
  rw [hashedPairs_eq, List.mem_append, List.mem_append] at h
  rw [hsame, List.append_nil, List.mem_append]
  obtain h | h | h := h
  · left
    apply h
  · right
    apply h
  · right
    apply mem_updatePairs_comm h

theorem collisionFree :
  CollisionFree { p | p ∈ hashedPairs vault [deposit, escape] }
  := by
  apply OwnershipExample.noCollision.nodes.mono
  intro p hp
  apply List.mem_append_left _ (hashed_subset hp)

/-- The challenge of the escape with the request that was made before. -/
theorem stale_escape_challengeable_request :
  ∃ siblings r,
    execute vault block pendingWorld (.challengeEscapeWithdrawal 0 request [] siblings) = .ok r
      ∧ (r.world.ledger.notes 0).status = .active
  := by
  have hvalid : vault.proofAdapter.assertValidRequest request [] = true := decide_eq_true rfl
  have hbound : ¬ requestMismatch vault block request := by decide
  obtain ⟨siblings, r, hexecute, hactive, -⟩ := stale_escape_challengeable (n := 0)
    reachable collisionFree hbound hvalid rfl rfl (by decide) rfl
  use siblings, r

end ChallengeExample

end ZkApi.Vault
