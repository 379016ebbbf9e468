import ZkApi.Proof.WithdrawalCircuit
import ZkApi.Vault.Roots

/-!
# Who can close a note

A withdrawal names a note in its public inputs, and its proof speaks of a leaf that is
private.  The two are linked by the root: as long as what is hashed does not collide, a
path that leads to the stored root ends in the leaf that the vault computes from its record
of the note, so that every witness of the proof holds the secret under which the note was
registered (`close_ownership`).
-/

namespace ZkApi.Vault

open SparseMerkle MerkleUpdateLib Poseidon

variable {v : Deployment} {env : Env} {w w' : World} {r : Receipt} {actions : List Action}

/-! ### The public inputs of a proof -/

/-- The field elements that the verifier is given for the public inputs of a withdrawal. -/
def WithdrawalPublicInputs.toFieldElements (inputs : WithdrawalPublicInputs) :
    WithdrawalInputs where
  protocolVersion := inputs.protocolVersion.toNat
  chainId := inputs.chainId.toNat
  contractAddress := inputs.contractAddress.toNat
  activeRoot := residue inputs.activeRoot
  stateSigningKeyX := residue inputs.stateSigningKeyX
  stateSigningKeyY := residue inputs.stateSigningKeyY
  clearanceSigningKeyX := residue inputs.clearanceSigningKeyX
  clearanceSigningKeyY := residue inputs.clearanceSigningKeyY
  noteId := inputs.noteId.toNat
  finalBalance := inputs.finalBalance.toNat
  destination := inputs.destination.toNat
  withdrawalNullifier := residue inputs.withdrawalNullifier
  hasClearance := inputs.hasClearance.toNat
  withdrawalTag := residue inputs.withdrawalTag

/-- The adapter lets a withdrawal through only when the circuit can be satisfied. -/
def ProofAdapter.WithdrawalSound (adapter : ProofAdapter) : Prop :=
  ∀ inputs proof, adapter.assertValidWithdrawal inputs proof = true →
    ∃ a, WithdrawalConstraints inputs.toFieldElements a

/-! ### The commitments of the notes -/

theorem Effect.commitment {call : Call} (h : Effect v env w call r)
    (hw : ∀ n, (w.ledger.notes n).commitment.toNat < fieldModulus) :
  ∀ n, (r.world.ledger.notes n).commitment.toNat < fieldModulus
  := by
  have hstatus : ∀ m status n,
      (Function.update w.ledger.notes m { w.ledger.notes m with status } n).commitment.toNat
        < fieldModulus := by
    intro m status n
    by_cases hn : n = m
    · rw [hn, Function.update_self]
      apply hw
    · rw [Function.update_of_ne hn]
      apply hw
  intro n
  cases h with
  | deposit _ _ _ hfield _ _ _ hledger _ =>
    rw [hledger, Ledger.deposited_notes]
    by_cases hn : n = w.ledger.nextNoteId
    · rw [hn, Function.update_self]
      apply hfield
    · rw [Function.update_of_ne hn]
      apply hw
  | mutualClose _ hledger _ _ =>
    rw [hledger]
    apply hstatus
  | initiateEscapeWithdrawal _ _ => apply hstatus
  | challengeEscapeWithdrawal => apply hstatus
  | finalizeEscapeWithdrawal _ _ _ _ hledger _ _ =>
    rw [hledger]
    apply hstatus
  | claimExpired _ _ _ hledger _ _ =>
    rw [hledger]
    apply hstatus
  | administer _ => apply hw

/-- The commitments of the notes are reduced. -/
theorem Reachable.commitment_lt (h : Reachable v actions w) (n : U32) :
  (w.ledger.notes n).commitment.toNat < fieldModulus
  := by
  obtain ⟨address, timestamp, held, args, w₀, hconstruct, hrun⟩ := h
  have hinitial : w₀.ledger = .initial := (construct_ok hconstruct).2
  revert n
  apply hrun.invariant (P := fun w => ∀ n, (w.ledger.notes n).commitment.toNat < fieldModulus)
  · intro n
    have hzero : (Ledger.initial.notes n).commitment = 0 := rfl
    rw [hinitial, hzero]
    decide
  · intro t a u ht hstep
    cases hstep with
    | call _ _ hexecute => apply (execute_effect hexecute).commitment ht
    | donation => apply ht

/-! ### The leaf of a proof -/

/-- The pairs that the circuit hashes from its leaf to the root. -/
def pathPairs (a : WithdrawalAssignment) : List (Fr × Fr) :=
  climbPairs merkleNode a.noteId.toNat a.leaf (List.ofFn a.siblings)

/-- What the circuit hashes to its leaf. -/
def leafPreimage (noteId : U32) (registration : Fr) (depositAmount : U128) (expiry : U64) :
    List Fr :=
  [domain "zkapi.v2.leaf", noteId.toNat, registration, depositAmount.toNat, expiry.toNat]

/-- No two pairs that the vault has hashed or that the circuit hashes on its path collide,
and the leaf of the circuit does not collide with that of the note. -/
structure NoCollision (v : Deployment) (actions : List Action) (note : Note) (n : U32)
    (a : WithdrawalAssignment) : Prop where
  nodes : CollisionFree { p | p ∈ hashedPairs v actions ++ pathPairs a }
  leaves : Set.InjOn poseidonHash
    { leafPreimage a.noteId (registrationCommitment a.secret) a.depositAmount a.expiry,
      leafPreimage n (residue note.commitment) note.depositAmount note.expiryTs }

/-- A path that leads to the stored root starts at the leaf of the tree. -/
theorem Rooted.leaf_of_path {D : Set (Fr × Fr)} {l : Ledger} {n : U32} {x : Fr}
    {siblings : Fin 32 → Fr} (h : Rooted D l) (hD : CollisionFree D)
    (hpairs : ∀ p ∈ climbPairs merkleNode n.toNat x (List.ofFn siblings), p ∈ D)
    (hroot : merkleRoot n x siblings = residue l.currentRoot) :
  x = residue (noteLeafAt l n)
  := by
  rw [merkleRoot_eq_climb, h.root_eq, treeRoot, root, map_node residue_poseidonNodeHash,
    ← root] at hroot
  have hlen : (List.ofFn siblings).length = MERKLE_DEPTH := List.length_ofFn
  have hlt : n.toNat < 2 ^ MERKLE_DEPTH := n.isLt
  have hchildren := h.children
  unfold Children at hchildren
  rw [← hlen] at hroot hlt hchildren
  have hleaf := (climb_sound merkleNode hD hlt hchildren hpairs hroot).1
  rw [hleaf, leaves_toNat]

/-- A satisfying assignment for the stored root has the leaf that the tree has at the index
of the note. -/
theorem Rooted.leaf_eq {D : Set (Fr × Fr)} {l : Ledger} {input : WithdrawalInputs}
    {a : WithdrawalAssignment} (h : Rooted D l) (hD : CollisionFree D)
    (hpairs : ∀ p ∈ pathPairs a, p ∈ D) (ha : WithdrawalConstraints input a)
    (hroot : input.activeRoot = residue l.currentRoot) :
  a.leaf = residue (noteLeafAt l a.noteId)
  := by
  apply h.leaf_of_path hD hpairs
  rw [← rootVar_eq, ha.activeRoot, hroot]

/-- A withdrawal that does not revert was authorized. -/
theorem execute_authorized {inputs : WithdrawalPublicInputs} {proof : Bytes}
    {siblings : Fin 32 → U256} {c : Call}
    (hclose : c = .mutualClose inputs proof siblings
      ∨ c = .initiateEscapeWithdrawal inputs proof siblings)
    (h : execute v env w c = .ok r) :
  ∃ hasClearance newRoot, Authorized v env w hasClearance inputs proof siblings newRoot
  := by
  obtain rfl | rfl := hclose
  · cases execute_effect h with
    | mutualClose hauth _ _ _ => exact ⟨_, _, hauth⟩
  · cases execute_effect h with
    | initiateEscapeWithdrawal hauth _ => exact ⟨_, _, hauth⟩

/-! ### Ownership -/

/-- A mutual close or an escape that succeeds in a reachable state is of an active note, and
there is a witness of its proof.  Every such witness that brings about no collision is of
the note that is named: its registration, deposit and expiry are those on record, so that it
holds a secret under which the note was registered, and the final balance is within the
deposit. -/
theorem close_ownership {inputs : WithdrawalPublicInputs} {proof : Bytes}
    {siblings : Fin 32 → U256} {c : Call} (h : Reachable v actions w)
    (hsound : v.proofAdapter.WithdrawalSound)
    (hclose : c = .mutualClose inputs proof siblings
      ∨ c = .initiateEscapeWithdrawal inputs proof siblings)
    (hexecute : execute v env w c = .ok r) :
  (w.ledger.notes inputs.noteId).status = .active
    ∧ (∃ a, WithdrawalConstraints inputs.toFieldElements a)
    ∧ ∀ a, WithdrawalConstraints inputs.toFieldElements a →
      NoCollision v actions (w.ledger.notes inputs.noteId) inputs.noteId a →
      a.noteId = inputs.noteId
        ∧ word (registrationCommitment a.secret) = (w.ledger.notes inputs.noteId).commitment
        ∧ a.depositAmount = (w.ledger.notes inputs.noteId).depositAmount
        ∧ a.expiry = (w.ledger.notes inputs.noteId).expiryTs
        ∧ inputs.finalBalance.toNat ≤ (w.ledger.notes inputs.noteId).depositAmount.toNat
  := by
  obtain ⟨hasClearance, newRoot, hauth⟩ := execute_authorized hclose hexecute
  constructor
  · apply hauth.active
  constructor
  · apply hsound inputs proof hauth.valid
  · intro a ha hnone
    have hnote : a.noteId = inputs.noteId := (toNat_cast_inj (by norm_num)).mp ha.noteId
    have hbalance : a.finalBalance = inputs.finalBalance := balance_cast_inj.mp ha.finalBalance
    have hrooted := h.rooted hnone.nodes fun _ hp => List.mem_append_left _ hp
    -- the path of the proof ends in the leaf on record
    have hleaf := hrooted.leaf_eq hnone.nodes (fun _ hp => List.mem_append_right _ hp) ha
      (congrArg residue hauth.root)
    rw [hnote, noteLeafAt_active hauth.active, leaf, residue_computeLeaf] at hleaf
    have hpreimage : leafPreimage a.noteId (registrationCommitment a.secret) a.depositAmount
        a.expiry = leafPreimage inputs.noteId
          (residue (w.ledger.notes inputs.noteId).commitment)
          (w.ledger.notes inputs.noteId).depositAmount
          (w.ledger.notes inputs.noteId).expiryTs := by
      apply hnone.leaves (Set.mem_insert _ _) (Set.mem_insert_of_mem _ rfl) hleaf
    simp only [leafPreimage, List.cons.injEq] at hpreimage
    obtain ⟨_, _, hregistration, hdeposit, hexpiry, _⟩ := hpreimage
    have hdeposit := balance_cast_inj.mp hdeposit
    constructor
    · apply hnote
    constructor
    · rw [hregistration, word_residue (h.commitment_lt inputs.noteId)]
    constructor
    · apply hdeposit
    constructor
    · apply (toNat_cast_inj (by norm_num)).mp hexpiry
    · rw [← hbalance, ← hdeposit]
      apply ha.depositAmount

/-! ### A note that is withdrawn -/

namespace OwnershipExample

/-- The commitment of a note with the secret one. -/
def commitment : U256 :=
  word (registrationCommitment 1)

/-- The environment of the calls. -/
def block : Env where
  timestamp := 1700000000
  chainid := 1
  sender := 10
  value := 0
  reply _ := { success := true, nested := [], donation := 0 }

/-- The root after the deposit. -/
def newRoot : U256 :=
  (Bn254Poseidon.hash3PairPath32 DOMAIN_NODE 0 0
    (NoteLeafLib.computeLeaf 0 commitment 10 1700092800) (siblingPath .initial 0)).2

/-- The ledger after the deposit. -/
def ledger : Ledger :=
  Ledger.initial.deposited commitment 10 1700092800 newRoot

/-- The public inputs of the withdrawal of the whole deposit. -/
def inputs : WithdrawalPublicInputs where
  protocolVersion := 2
  chainId := 1
  contractAddress := 9
  activeRoot := newRoot
  stateSigningKeyX :=
    19698561148652590122159747500897617769866003486955115824547446575314762165298
  stateSigningKeyY :=
    19298250018296453272277890825869354524455968081175474282777126169995084727839
  clearanceSigningKeyX :=
    19698561148652590122159747500897617769866003486955115824547446575314762165298
  clearanceSigningKeyY :=
    19298250018296453272277890825869354524455968081175474282777126169995084727839
  noteId := 0
  finalBalance := 10
  destination := 11
  withdrawalNullifier := word (requestNullifier 1 1)
  hasClearance := false
  withdrawalTag := word (withdrawalTag (requestNullifier 1 1) 11 10 false)

/-- The witness of the withdrawal. -/
def witness : WithdrawalWitness where
  secret := 1
  depositAmount := 10
  expiry := 1700092800
  merkleSiblings level := residue (siblingPath .initial 0 level)
  finalBlinding := 0
  currentAnchor := 1
  isGenesis := true
  stateSignature := { r := 0, s := 0 }
  clearanceSignature := { r := 0, s := 0 }

/-- The typed inputs of the withdrawal. -/
def typed : WithdrawalTyped where
  stateSigningKey := generator
  clearanceSigningKey := generator
  noteId := 0
  finalBalance := 10
  hasClearance := false

/-- A vault that accepts the one withdrawal. -/
def vault : Deployment :=
  { tokenVault with
    proofAdapter :=
      { assertValidRequest := fun _ _ => false
        assertValidWithdrawal := fun x _ => decide (x = inputs) }
    stateSigningKeyX := inputs.stateSigningKeyX
    stateSigningKeyY := inputs.stateSigningKeyY
    clearanceSigningKeyX := inputs.clearanceSigningKeyX
    clearanceSigningKeyY := inputs.clearanceSigningKeyY }

/-- The arguments of its constructor. -/
def args : ConstructorArgs :=
  { tokenArgs with
    proofAdapter := vault.proofAdapter
    stateSigningKeyX := inputs.stateSigningKeyX
    stateSigningKeyY := inputs.stateSigningKeyY
    clearanceSigningKeyX := inputs.clearanceSigningKeyX
    clearanceSigningKeyY := inputs.clearanceSigningKeyY }

/-- The outcome of the deposit. -/
def receipt : Receipt where
  world := { tokenWorld with ledger, held := 10 }
  sent := []
  events := [.noteDeposited 0 commitment 10 1700092800 newRoot]

/-- The state after the deposit. -/
def deposited : World :=
  { receipt.world with now := 1700000000 }

/-- The deposit. -/
def deposit : Action :=
  .call block (.deposit commitment 10 (siblingPath .initial 0)) receipt

theorem construct_eq :
  construct 9 1700000000 0 args = .ok (vault, tokenWorld)
  := rfl

theorem rooted :
  Rooted { p | p ∈ emptyPairs } .initial
  := Rooted.initial fun _ hp => hp

theorem verify_deposit :
  verifyAndUpdate computeEmptyTreeRoot 0 0
    (NoteLeafLib.computeLeaf 0 commitment 10 1700092800) (siblingPath .initial 0)
    = .ok newRoot
  := by
  have hzero : noteLeafAt .initial 0 = 0 := rfl
  have h := verifyAndUpdate_siblingPath .initial 0
    (NoteLeafLib.computeLeaf 0 commitment 10 1700092800)
  rw [hzero, ← rooted.root_eq] at h
  have hroot := (verifyAndUpdate_eq_ok.mp h).2
  rw [← hroot] at h
  rw [newRoot, hash3PairPath32_eq]
  apply h

theorem deposit_ok :
  execute vault block tokenWorld (.deposit commitment 10 (siblingPath .initial 0))
    = .ok receipt
  := by
  have hcommitment : commitment ≠ 0 := by decide +kernel
  have hfield : ¬ fieldModulus ≤ commitment.toNat := by
    rw [commitment, word_toNat, not_le]
    apply val_lt
  apply bind_eq_ok.mpr ⟨(), rfl, _⟩
  apply bind_eq_ok.mpr ⟨(), rfl, _⟩
  apply bind_eq_ok.mpr ⟨(), rfl, _⟩
  apply bind_eq_ok.mpr ⟨(), revertIf_eq_ok.mpr hcommitment, _⟩
  apply bind_eq_ok.mpr ⟨(), revertIf_eq_ok.mpr hfield, _⟩
  apply bind_eq_ok.mpr ⟨1700092800, rfl, _⟩
  apply bind_eq_ok.mpr ⟨newRoot, verify_deposit, _⟩
  rfl

theorem reachable :
  Reachable vault [deposit] deposited
  := by
  have hstep : Step vault tokenWorld deposit deposited :=
    .call (by decide) (by decide) deposit_ok
  exact ⟨9, 1700000000, 0, args, tokenWorld, construct_eq, Run.single hstep⟩

theorem leaf_ledger :
  residue (leaf 0 (ledger.notes 0)) = witness.leaf 0
  := by
  have hnote : ledger.notes 0
      = { commitment, depositAmount := 10, expiryTs := 1700092800, status := .active } := rfl
  rw [hnote, leaf, residue_computeLeaf, commitment, residue_word]
  rfl

theorem residue_newRoot :
  residue newRoot = merkleRoot 0 (witness.leaf 0) witness.merkleSiblings
  := by
  have hmap : (List.ofFn (siblingPath .initial 0)).map residue = List.ofFn witness.merkleSiblings :=
    List.map_ofFn
  rw [newRoot, hash3PairPath32_eq, map_climb residue_poseidonNodeHash, hmap,
    merkleRoot_eq_climb, ← leaf_ledger]
  rfl

theorem statement :
  WithdrawalStatement inputs.toFieldElements typed witness
  := by
  constructor
  case root_eq => apply residue_newRoot.symm
  case secret_ne_zero => apply one_ne_zero
  case finalBalance_le => decide
  case genesis => exact fun _ => ⟨rfl, rfl⟩
  case signed =>
    intro h
    cases h
  case cleared =>
    intro h
    cases h
  case nullifier_eq => apply (residue_word _).symm
  case tag_eq =>
    simp only [WithdrawalPublicInputs.toFieldElements, inputs, residue_word]
    rfl
  all_goals rfl

theorem constraints :
  WithdrawalConstraints inputs.toFieldElements (witness.wires typed)
  := by
  have hx : generator.x = residue inputs.stateSigningKeyX := by decide +kernel
  have hy : generator.y = residue inputs.stateSigningKeyY := by decide +kernel
  apply statement.constraints generator_mem generator_mem hx hy hx hy primeSubgroup.zero_mem
    primeSubgroup.zero_mem

theorem vault_sound :
  vault.proofAdapter.WithdrawalSound
  := by
  intro x _ hx
  obtain rfl := of_decide_eq_true hx
  use witness.wires typed
  apply constraints

theorem escape_ok :
  ∃ r, execute vault block deposited
    (.initiateEscapeWithdrawal inputs [] (siblingPath .initial 0)) = .ok r
  := by
  have hverify : ∃ root, verifyAndUpdate newRoot 0 (leaf 0 (ledger.notes 0)) 0
      (siblingPath .initial 0) = .ok root := by
    use climb poseidonNodeHash 0 0 (List.ofFn (siblingPath .initial 0))
    rw [verifyAndUpdate_eq_ok, newRoot, hash3PairPath32_eq]
    exact ⟨rfl, rfl⟩
  obtain ⟨root, hroot⟩ := hverify
  use
    { world :=
        { deposited with
          ledger :=
            ((ledger.consumed inputs.withdrawalNullifier).moved 0 .pendingWithdrawal
              root).setPending 0
              { present := true
                activeRoot := newRoot
                withdrawalNullifier := inputs.withdrawalNullifier
                finalBalance := 10
                destination := 11
                challengeDeadline := 1700086400 } }
      sent := []
      events := [.escapeWithdrawalInitiated 0 inputs.withdrawalNullifier 10 11 1700086400
        root] }
  refine bind_eq_ok.mpr ⟨(), rfl, bind_eq_ok.mpr ⟨(), ?_, ?_⟩⟩
  · apply bind_eq_ok.mpr ⟨(), rfl, _⟩
    apply bind_eq_ok.mpr ⟨(), revertIf_eq_ok.mpr (by decide), _⟩
    apply bind_eq_ok.mpr ⟨(), rfl, _⟩
    apply bind_eq_ok.mpr ⟨(), revertIf_eq_ok.mpr (not_not.mpr rfl), _⟩
    apply revertIf_eq_ok.mpr
    have hvalid : vault.proofAdapter.assertValidWithdrawal inputs [] = true :=
      decide_eq_true rfl
    rw [hvalid]
    decide
  · have hconsume : consumeNullifier ledger inputs.withdrawalNullifier
        = .ok (ledger.consumed inputs.withdrawalNullifier) := rfl
    have hdeadline : checkedAdd (block.timestamp.setWidth 64) vault.challengePeriod
        = .ok 1700086400 := rfl
    refine bind_eq_ok.mpr ⟨(), rfl, ?_⟩
    refine bind_eq_ok.mpr ⟨(), rfl, ?_⟩
    refine bind_eq_ok.mpr ⟨_, hconsume, ?_⟩
    refine bind_eq_ok.mpr ⟨root, hroot, ?_⟩
    refine bind_eq_ok.mpr ⟨_, hdeadline, rfl⟩

/-! #### The pairs that are hashed do not collide -/

/-- The siblings of the first note, as field elements. -/
theorem residue_siblingPath :
  (List.ofFn fun level => residue (siblingPath .initial 0 level))
    = (List.range 32).map fun k => zeroHashes.getD k 0
  := by
  have hmap : (List.ofFn (siblingPath .initial 0)).map residue
      = List.ofFn fun level => residue (siblingPath .initial 0 level) := List.map_ofFn
  rw [← hmap, ofFn_siblingPath, map_path residue_poseidonNodeHash, leaves_initial]
  simp only [residue_zero, path_const]
  apply List.map_congr_left
  intro k hk
  apply emptyNode_eq
  apply (List.mem_range.mp hk).le

/-- The nodes on the way from the leaf of the first note to the root. -/
def pathNodes : List Fr :=
  [ 0x2fd7ee89c15de644272bef3def7a7d847b8ae61ea1349ad47d752a16ae6a6f54,
    0x2690b045e6f1c3da49eb50ba12690bd1ff3bab8c4a90f54046d83c975ff758b8,
    0x2e970335b8b7c109885578f26af2f0b07e680a69f0d92fcd0f031c77b48edc94,
    0x1ac59e099f016832503ad5e43ee7609ec8c7e588220184aaf21ebfa0704f8116,
    0x175fe5947b3c696e5b82c60c9ac967074d58ce2f6364084ffc28cf85dc38869c,
    0x119fcac43adc37645553eb7fa0e8f97f90d6852fed2fc998865347eda317f622,
    0x0d62318bff371a3c00cbfabcf9a6ed44346fb2c41d18640fdcbfdb1f63e237e5,
    0x23cef6a018b10ae2c2e420ad727ff0678dd733485d4a31af6b36d73bb1eaa0fe,
    0x18fb79601e48998e226edf5650b46cd0c890208aea50bb043b4e311d5c1507c5,
    0x0acc456533d558b5dc05deb06c07a1b9fc4aae36ec12904d4bb31fcf8498e2cf,
    0x2ebb204bbd1159737e840d457b3dbfdbaa0612520dc0584e21e5524966a5b2b9,
    0x124ac5828eb910c07087fced5b7a28ab9874a891e35fcc3a1704a4308d9b9732,
    0x0ef0b4f5e9d36d6e225abc3152c87dd8d6ea44b1259a8b04506739b79469032a,
    0x027e84aa472aa5102cf2b634cb3e1fa3e2f6dee109c424bd85c9ba7632552ae7,
    0x0a3c2c48d921f90fab411367633ec249f19843576aee8e9b63f5b7ab70deeba1,
    0x06df711dbc39a90c1afcb914ff343fe17c13977f1097db39741b3a07c2693d0c,
    0x15f763b959b4fc6e04d016a47b1b4cdd17aa5830dc35e10fadb6c455c399d09a,
    0x10034b60674186454929b20f26c063bdb922ca6ea9ae5288c6b388b79f13d9b2,
    0x2418211c38a53f176c6f20bdc5f8faf7b717b495d016963ee1f7ab7729f63ab3,
    0x07d242d342a1aeda6d24d07c3ae218ef2bd22551834e327a114149b180f4be4f,
    0x0dacf745040d14578eb92728aa2ab353c298e4dd314872344ade3f4a5ed85796,
    0x10de7b5ce2638bb4f53ce4df004d958acf31b1b7458b5580f12fce98914ba04d,
    0x0726e6c5e420885c1d0cb2f5d7f6cf80e02fa28f0ace3856d41195e439cd3231,
    0x2448866f1b347cc61d9f5ec59851008d0580639077ac7445147008239877d8e1,
    0x1f286e58619f0b4accb682307aa5f3bcab3b1472306e0dcbbf2b4d42c3234c5e,
    0x0549ebe2fd81b449e2cccf10b1742970298df9d4899d949600746e8976c6422d,
    0x1ae3421014e95d7e86a141a6a3e4876533a037d9048066bdb99dd19526b6a344,
    0x1237193ea41db1cb0014f49d4892ee91c97e5989bb93a23df1b95e555b272216,
    0x125f189a405938a263a5c9913d8f7e092ef3adf2a28c6b328aa168f59f599f99,
    0x108e4682def8d782a1397af9e38a58ab48b392986d85b00754b97684dd6b93d4,
    0x22e5b1762e20c349120ba4f4d0cea1a3411912be13abe34578d306b48e91b3ce,
    0x1877b670800029638a8cca7aef433ee7a435eece67d7a1c275972704f01eae13,
    0x16a083caa417f43f04592ac749b49ffd991404e9a94af07b108b1841c37d4037 ]

theorem pathNodes_step :
  ∀ k < 32, merkleNode (pathNodes.getD k 0) (zeroHashes.getD k 0) = pathNodes.getD (k + 1) 0
  := by
  have hvalue : ∀ k < 32,
      hashValue [(domain "zkapi.v2.node").val, (pathNodes.getD k 0).val,
        (zeroHashes.getD k 0).val] % fieldModulus
      = (pathNodes.getD (k + 1) 0).val := by decide +kernel
  intro k hk
  apply merkleNode_eq_of_value (hvalue k hk)

/-- The commitment that the secret one is registered under. -/
theorem registrationCommitment_one :
  registrationCommitment 1 = 0x100a0602048a7ac00522364acfb6f891f46e46761267ad79cb3e0e8ec738057d
  := by
  apply poseidonHash_eq_of_value
  decide +kernel

theorem witness_leaf :
  witness.leaf 0 = pathNodes.getD 0 0
  := by
  rw [WithdrawalWitness.leaf, witness, registrationCommitment_one]
  apply poseidonHash_eq_of_value
  decide +kernel

/-- The pairs that are hashed on the way up the left edge, from a level on. -/
theorem climbPairs_zeroHashes_from {x : List Fr} {n k : ℕ} (hk : k + n ≤ 32)
    (hx : ∀ j, k ≤ j → j < 32 →
      merkleNode (x.getD j 0) (zeroHashes.getD j 0) = x.getD (j + 1) 0) :
  ∀ p ∈ climbPairs merkleNode 0 (x.getD k 0)
      ((List.range' k n).map fun j => zeroHashes.getD j 0),
    ∃ j, k ≤ j ∧ j < 32 ∧ p = (x.getD j 0, zeroHashes.getD j 0)
  := by
  induction n generalizing k with
  | zero =>
    intro p hp
    cases hp
  | succ n ih =>
    intro p hp
    rw [List.range'_succ, List.map_cons, climbPairs, List.mem_cons] at hp
    obtain rfl | hp := hp
    · use k, le_rfl
      exact ⟨by omega, rfl⟩
    · obtain ⟨j, hj, hlt, rfl⟩ := ih (k := k + 1) (by omega)
        (fun j hj => hx j (by omega)) p (by
          rw [← hx k le_rfl (by omega)]
          apply hp)
      exact ⟨j, by omega, hlt, rfl⟩

/-- The climbs along the siblings of the empty tree. -/
theorem climbPairs_zeroHashes {x : List Fr}
    (hx : ∀ k < 32, merkleNode (x.getD k 0) (zeroHashes.getD k 0) = x.getD (k + 1) 0) :
  ∀ p ∈ climbPairs merkleNode 0 (x.getD 0 0) ((List.range 32).map fun k => zeroHashes.getD k 0),
    ∃ k < 32, p = (x.getD k 0, zeroHashes.getD k 0)
  := by
  intro p hp
  rw [List.range_eq_range'] at hp
  obtain ⟨k, _, hk, rfl⟩ := climbPairs_zeroHashes_from (le_refl 32) (fun j _ => hx j) p hp
  use k

/-- The pairs that are hashed by the deposit and by the proof of the withdrawal. -/
theorem hashed {p : Fr × Fr}
    (hp : p ∈ hashedPairs vault [deposit] ++ pathPairs (witness.wires typed)) :
  ∃ k < 32, p = (zeroHashes.getD k 0, zeroHashes.getD k 0)
    ∨ p = (pathNodes.getD k 0, zeroHashes.getD k 0)
  := by
  have hzero := climbPairs_zeroHashes zeroHashes_step
  have hpath := climbPairs_zeroHashes pathNodes_step
  have hleaf : residue (NoteLeafLib.computeLeaf 0 commitment 10 1700092800)
      = pathNodes.getD 0 0 := by
    rw [← witness_leaf, ← leaf_ledger]
    rfl
  have hupdate : (deposit.update vault .initial).map Update.pairs
      = some (updatePairs 0 0 (NoteLeafLib.computeLeaf 0 commitment 10 1700092800)
        (siblingPath .initial 0)) := rfl
  have hclimb : pathPairs (witness.wires typed)
      = climbPairs merkleNode 0 (witness.leaf 0)
        (List.ofFn fun level => residue (siblingPath .initial 0 level)) := rfl
  rw [hashedPairs, runPairs, runPairs, hupdate, Option.getD_some, List.append_nil, updatePairs,
    hclimb, residue_siblingPath, hleaf, residue_zero, witness_leaf] at hp
  simp only [List.mem_append] at hp
  obtain (hp | hp | hp) | hp := hp
  · obtain ⟨k, hk, rfl⟩ := List.mem_map.mp hp
    have hk : k < 32 := List.mem_range.mp hk
    use k, hk
    left
    rw [emptyNode_eq k hk.le]
  · obtain ⟨k, hk, rfl⟩ := hzero p hp
    use k, hk
    left
    rfl
  · obtain ⟨k, hk, rfl⟩ := hpath p hp
    use k, hk
    right
    rfl
  · obtain ⟨k, hk, rfl⟩ := hpath p hp
    use k, hk
    right
    rfl

theorem noCollision :
  NoCollision vault [deposit] (ledger.notes 0) 0 (witness.wires typed)
  := by
  constructor
  case nodes =>
    have hzero : ∀ j < 32, ∀ k < 32,
        zeroHashes.getD (j + 1) 0 = zeroHashes.getD (k + 1) 0 → j = k := by decide +kernel
    have hpath : ∀ j < 32, ∀ k < 32,
        pathNodes.getD (j + 1) 0 = pathNodes.getD (k + 1) 0 → j = k := by decide +kernel
    have hne : ∀ j < 32, ∀ k < 32,
        zeroHashes.getD (j + 1) 0 ≠ pathNodes.getD (k + 1) 0 := by decide +kernel
    intro p hp q hq h
    obtain ⟨j, hj, rfl | rfl⟩ := hashed hp <;> obtain ⟨k, hk, rfl | rfl⟩ := hashed hq <;>
      simp only [Function.uncurry, zeroHashes_step, pathNodes_step, hj, hk] at h
    · rw [hzero j hj k hk h]
    · cases hne j hj k hk h
    · cases hne k hk j hj h.symm
    · rw [hpath j hj k hk h]
  case leaves =>
    have hsame : residue (ledger.notes 0).commitment = registrationCommitment 1 :=
      residue_word _
    have hpreimage : leafPreimage 0 (registrationCommitment 1) 10 1700092800
        = leafPreimage (witness.wires typed).noteId
          (registrationCommitment (witness.wires typed).secret)
          (witness.wires typed).depositAmount (witness.wires typed).expiry := rfl
    have hrecord : (ledger.notes 0).depositAmount = 10 ∧ (ledger.notes 0).expiryTs = 1700092800 :=
      ⟨rfl, rfl⟩
    rw [hsame, hrecord.1, hrecord.2, hpreimage, Set.pair_eq_singleton]
    apply Set.injOn_singleton

/-- The escape of a note of ten units. -/
theorem close_ownership_escape :
  (ledger.notes 0).status = .active
    ∧ (∃ a, WithdrawalConstraints inputs.toFieldElements a)
    ∧ (witness.wires typed).noteId = 0
    ∧ word (registrationCommitment (witness.wires typed).secret) = (ledger.notes 0).commitment
    ∧ (witness.wires typed).depositAmount = (ledger.notes 0).depositAmount
    ∧ (witness.wires typed).expiry = (ledger.notes 0).expiryTs
    ∧ inputs.finalBalance.toNat ≤ (ledger.notes 0).depositAmount.toNat
  := by
  obtain ⟨r, hexecute⟩ := escape_ok
  obtain ⟨hactive, hexists, hall⟩ := close_ownership reachable vault_sound (.inr rfl) hexecute
  constructor
  · apply hactive
  constructor
  · apply hexists
  · apply hall _ constraints noCollision

end OwnershipExample

end ZkApi.Vault
