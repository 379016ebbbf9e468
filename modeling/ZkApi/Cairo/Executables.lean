import ZkApi.Cairo.Programs
import ZkApi.Library.Segment

/-!
# The executables in Cairo

What is proved is the run of an executable on a list of field elements, in which the arguments of a
program have their places.  An executable returns what the program returns for the arguments that
the list is laid out of, and panics on every other list.
-/

namespace ZkApi.Cairo

open Stark (Felt)

/-! ### Reading -/

/-- The conversion of a field element to a `u32`. -/
def feltToU32 (a : Felt) (message : String) : Except String U32 :=
  if a.val < 2 ^ 32 then .ok (BitVec.ofNat 32 a.val) else .error message

/-- `read_felt`. -/
def readFelt (args : List Felt) (index : U32) : Except String Felt :=
  elementAt args index

/-- `read_u32`. -/
def readU32 (args : List Felt) (index : U32) : Except String U32 := do
  feltToU32 (← readFelt args index) "arg must fit u32"

/-- `copy_felts`. -/
def copyFelts (args : List Felt) (start len : U32) : Except String (List Felt) :=
  whileBelow len.toNat (fun i out => do return out ++ [← readFelt args (← u32Add start i)]) []

section

variable (poseidonHashSpan : List Felt → Felt)

/-- `request_from_args`. -/
def requestFromArgs (args : List Felt) : Except String (List Felt) := do
  assert (args.length = 167) "bad request arg count"
  let merkleIndexBits ← copyFelts args 9 (BitVec.ofNat 32 MERKLE_DEPTH)
  let merkleSiblings ← copyFelts args (9 + BitVec.ofNat 32 MERKLE_DEPTH)
    (BitVec.ofNat 32 MERKLE_DEPTH)
  let wotsStart : U32 := 81
  let authLenIndex := wotsStart + 65
  let authStart := authLenIndex + 1
  let authLen ← readU32 args authLenIndex
  assert (authLen.toNat ≤ XMSS_TREE_HEIGHT) "auth path too long"
  let wotsSig ← copyFelts args wotsStart 65
  let authPath ← copyFelts args authStart authLen
  let protocolVersion ← readFelt args 0
  let chainId ← readFelt args 1
  let contractAddress ← readFelt args 2
  let activeRoot ← readFelt args 3
  let solvencyBound ← readFelt args 4
  let secretS ← readFelt args 5
  let noteId ← readFelt args 6
  let depositAmount ← readFelt args 7
  let expiryTs ← readFelt args 8
  let balance ← readFelt args 73
  let blinding ← readFelt args 74
  let userRerandomization ← readFelt args 75
  let anchor ← readFelt args 76
  let isGenesis ← readFelt args 77
  let sigRoot ← readFelt args 78
  let sigEpoch ← readU32 args 79
  let sigLeafIndex ← readU32 args 80
  runRequestProgram poseidonHashSpan {
    context := { protocolVersion, chainId, contractAddress, activeRoot }
    solvencyBound
    note := { secretS, noteId, depositAmount, expiryTs, merkleIndexBits, merkleSiblings }
    current := {
      balance, blinding, anchor, isGenesis
      stateSig := { sigRoot, sigEpoch, sigLeafIndex, wotsSig, authPath } }
    userRerandomization }

/-- `withdrawal_from_args`. -/
def withdrawalFromArgs (args : List Felt) : Except String (List Felt) := do
  assert (args.length = 256) "bad withdrawal arg count"
  let merkleIndexBits ← copyFelts args 9 (BitVec.ofNat 32 MERKLE_DEPTH)
  let merkleSiblings ← copyFelts args (9 + BitVec.ofNat 32 MERKLE_DEPTH)
    (BitVec.ofNat 32 MERKLE_DEPTH)
  let stateWotsStart : U32 := 80
  let stateAuthLenIndex := stateWotsStart + 65
  let stateAuthStart := stateAuthLenIndex + 1
  let clearWotsStart : U32 := 170
  let clearAuthLenIndex := clearWotsStart + 65
  let clearAuthStart := clearAuthLenIndex + 1
  let stateAuthLen ← readU32 args stateAuthLenIndex
  let clearAuthLen ← readU32 args clearAuthLenIndex
  assert (stateAuthLen.toNat ≤ XMSS_TREE_HEIGHT) "state path too long"
  assert (clearAuthLen.toNat ≤ XMSS_TREE_HEIGHT) "clear path too long"
  let stateWotsSig ← copyFelts args stateWotsStart 65
  let stateAuthPath ← copyFelts args stateAuthStart stateAuthLen
  let clearWotsSig ← copyFelts args clearWotsStart 65
  let clearAuthPath ← copyFelts args clearAuthStart clearAuthLen
  let protocolVersion ← readFelt args 0
  let chainId ← readFelt args 1
  let contractAddress ← readFelt args 2
  let activeRoot ← readFelt args 3
  let destination ← readFelt args 4
  let secretS ← readFelt args 5
  let noteId ← readFelt args 6
  let depositAmount ← readFelt args 7
  let expiryTs ← readFelt args 8
  let balance ← readFelt args 73
  let blinding ← readFelt args 74
  let anchor ← readFelt args 75
  let isGenesis ← readFelt args 76
  let stateSigRoot ← readFelt args 77
  let stateSigEpoch ← readU32 args 78
  let stateSigLeafIndex ← readU32 args 79
  let hasClearance ← readFelt args 166
  let clearSigRoot ← readFelt args 167
  let clearSigEpoch ← readU32 args 168
  let clearSigLeafIndex ← readU32 args 169
  runWithdrawalProgram poseidonHashSpan {
    context := { protocolVersion, chainId, contractAddress, activeRoot }
    destination
    note := { secretS, noteId, depositAmount, expiryTs, merkleIndexBits, merkleSiblings }
    final := {
      balance, blinding, anchor, isGenesis
      stateSig := {
        sigRoot := stateSigRoot
        sigEpoch := stateSigEpoch
        sigLeafIndex := stateSigLeafIndex
        wotsSig := stateWotsSig
        authPath := stateAuthPath } }
    hasClearance
    clearSig := {
      sigRoot := clearSigRoot
      sigEpoch := clearSigEpoch
      sigLeafIndex := clearSigLeafIndex
      wotsSig := clearWotsSig
      authPath := clearAuthPath } }

end

/-! ### Layouts -/

/-- The elements that name the deployment and the tree. -/
def contextFelts (context : ContextArgs) : List Felt :=
  [context.protocolVersion, context.chainId, context.contractAddress, context.activeRoot]

/-- The elements that open a note. -/
def noteFelts (note : NoteArgs) : List Felt :=
  [note.secretS, note.noteId, note.depositAmount, note.expiryTs]
    ++ (note.merkleIndexBits ++ note.merkleSiblings)

/-- The elements of a signature.  The path is told by its length, and padded. -/
def signatureFelts (sig : SignatureArgs) (padding : List Felt) : List Felt :=
  [sig.sigRoot, u32ToFelt sig.sigEpoch, u32ToFelt sig.sigLeafIndex]
    ++ (sig.wotsSig ++ (u32ToFelt (BitVec.ofNat 32 sig.authPath.length)
      :: (sig.authPath ++ padding)))

/-- The list that the arguments of a request are laid out in. -/
def requestFelts (args : RequestArgs) (padding : List Felt) : List Felt :=
  contextFelts args.context ++ (args.solvencyBound :: (noteFelts args.note
    ++ ([args.current.balance, args.current.blinding, args.userRerandomization,
      args.current.anchor, args.current.isGenesis]
      ++ signatureFelts args.current.stateSig padding)))

/-- The list that the arguments of a withdrawal are laid out in. -/
def withdrawalFelts (args : WithdrawalArgs) (statePadding clearPadding : List Felt) : List Felt :=
  contextFelts args.context ++ (args.destination :: (noteFelts args.note
    ++ ([args.final.balance, args.final.blinding, args.final.anchor, args.final.isGenesis]
      ++ (signatureFelts args.final.stateSig statePadding
        ++ (args.hasClearance :: signatureFelts args.clearSig clearPadding)))))

/-- A path that leads to a root has its place. -/
structure NoteArgs.Sized (note : NoteArgs) : Prop where
  indexBits : note.merkleIndexBits.length = MERKLE_DEPTH
  siblings : note.merkleSiblings.length = MERKLE_DEPTH

/-- A signature has its place, with what it is padded with. -/
structure SignatureArgs.Sized (sig : SignatureArgs) (padding : List Felt) : Prop where
  wotsSig : sig.wotsSig.length = 65
  authPath : sig.authPath.length + padding.length = XMSS_TREE_HEIGHT

/-! ### What is read -/

section

variable {args out : List Felt} {index start len : U32} {a : Felt} {u : U32}

theorem feltToU32_eq_ok {message : String} :
  feltToU32 a message = .ok u ↔ a = u32ToFelt u
  := by
  have hu : (u32ToFelt u).val = u.toNat := by
    have hlt : u.toNat < Stark.fieldPrime :=
      u.isLt.trans (by norm_num [Stark.fieldPrime])
    calc (u32ToFelt u).val
      _ = (u.setWidth 256).toNat % Stark.fieldPrime := rfl
      _ = u.toNat := by rw [BitVec.toNat_setWidth_of_le (by norm_num), Nat.mod_eq_of_lt hlt]
  rw [feltToU32, Fin.ext_iff, hu]
  split
  case isTrue hlt =>
    rw [Except.ok.injEq, ← BitVec.toNat_inj, BitVec.toNat_ofNat, Nat.mod_eq_of_lt hlt]
  case isFalse hle =>
    constructor
    · rintro ⟨⟩
    · intro ha
      exact absurd (ha ▸ u.isLt) hle

theorem readFelt_eq_ok :
  readFelt args index = .ok a ↔ args[index.toNat]? = some a
  := by
  rw [readFelt, elementAt]
  cases args[index.toNat]? with
  | none => simp only [reduceCtorEq]
  | some b => rw [Except.ok.injEq, Option.some_inj]

theorem readU32_eq_ok :
  readU32 args index = .ok u ↔ args[index.toNat]? = some (u32ToFelt u)
  := by
  simp only [readU32, bind_eq_ok, readFelt_eq_ok, feltToU32_eq_ok, exists_eq_right]

theorem whileBelow_succ {σ : Type} {n : ℕ} {body : U32 → σ → Except String σ} {state state' : σ} :
  whileBelow (n + 1) body state = .ok state'
    ↔ ∃ s, whileBelow n body state = .ok s ∧ body (BitVec.ofNat 32 n) s = .ok state'
  := by
  rw [whileBelow, List.range_succ, List.foldlM_append, bind_eq_ok]
  simp only [List.foldlM_cons, List.foldlM_nil, bind_pure]
  rfl

/-- What is copied is a segment of the length that was asked for. -/
theorem copyFelts_eq_ok (h : start.toNat + len.toNat < 2 ^ 32) :
  copyFelts args start len = .ok out
    ↔ out.length = len.toNat ∧ Segment args start.toNat out
  := by
  rw [copyFelts]
  generalize len.toNat = n at h
  induction n generalizing out with
  | zero =>
    rw [List.length_eq_zero_iff, whileBelow, List.range_zero, List.foldlM_nil]
    constructor
    · rintro ⟨⟩
      exact ⟨rfl, Segment.nil⟩
    · rintro ⟨rfl, -⟩
      rfl
  | succ n ih =>
    have hadd : u32Add start (BitVec.ofNat 32 n) = .ok (BitVec.ofNat 32 (start.toNat + n)) := by
      have hsum := @u32Add_ofNat start.toNat n (by omega)
      rw [BitVec.ofNat_toNat, BitVec.setWidth_eq] at hsum
      exact hsum
    have hindex : (BitVec.ofNat 32 (start.toNat + n)).toNat = start.toNat + n := by
      rw [BitVec.toNat_ofNat, Nat.mod_eq_of_lt (by omega)]
    rw [whileBelow_succ]
    constructor
    · rintro ⟨s, hbefore, hread⟩
      obtain ⟨hlength, hsegment⟩ := (ih (by omega)).mp hbefore
      rw [hadd, ok_bind, bind_eq_ok] at hread
      obtain ⟨b, hb, ⟨⟩⟩ := hread
      rw [readFelt_eq_ok, hindex] at hb
      rw [List.length_append, hlength, Segment.append_iff, Segment.cons_iff, hlength]
      exact ⟨rfl, hsegment, hb, Segment.nil⟩
    · rintro ⟨hlength, hsegment⟩
      obtain rfl | ⟨s, b, rfl⟩ := List.eq_nil_or_concat out
      · cases hlength
      rw [List.concat_eq_append] at hlength hsegment ⊢
      rw [List.length_append, List.length_singleton] at hlength
      have hs : s.length = n := Nat.succ.inj hlength
      rw [Segment.append_iff, Segment.cons_iff, hs] at hsegment
      obtain ⟨hsegment, hb, -⟩ := hsegment
      have hread : readFelt args (BitVec.ofNat 32 (start.toNat + n)) = .ok b := by
        rw [readFelt_eq_ok, hindex]
        exact hb
      refine ⟨s, (ih (by omega)).mpr ⟨hs, hsegment⟩, ?_⟩
      rw [hadd, ok_bind, hread]
      rfl

/-- The bits of the index are copied from behind the first nine arguments. -/
theorem copyFelts_indexBits :
  copyFelts args 9 (BitVec.ofNat 32 MERKLE_DEPTH) = .ok out
    ↔ out.length = MERKLE_DEPTH ∧ Segment args 9 out
  := copyFelts_eq_ok (by decide)

/-- The siblings are copied from behind the bits. -/
theorem copyFelts_siblings :
  copyFelts args (9 + BitVec.ofNat 32 MERKLE_DEPTH) (BitVec.ofNat 32 MERKLE_DEPTH) = .ok out
    ↔ out.length = MERKLE_DEPTH ∧ Segment args 41 out
  := copyFelts_eq_ok (by decide)

/-- Nothing overflows where an authentication path is copied. -/
theorem copyFelts_authPath (hstart : start.toNat ≤ 256) (hle : len.toNat ≤ XMSS_TREE_HEIGHT) :
  copyFelts args start len = .ok out
    ↔ out.length = len.toNat ∧ Segment args start.toNat out
  := by
  apply copyFelts_eq_ok
  rw [XMSS_TREE_HEIGHT] at hle
  omega

/-! ### What is laid out -/

theorem length_signatureFelts {sig : SignatureArgs} {padding : List Felt} (h : sig.Sized padding) :
  (signatureFelts sig padding).length = 89
  := by
  have hpath : sig.authPath.length + padding.length = 20 := h.authPath
  simp only [signatureFelts, List.length_append, List.length_cons, List.length_nil, h.wotsSig, hpath]

theorem segment_signatureFelts {start : ℕ} {sig : SignatureArgs} {padding : List Felt}
    (h : sig.wotsSig.length = 65) :
  Segment args start (signatureFelts sig padding)
    ↔ args[start]? = some sig.sigRoot ∧ args[start + 1]? = some (u32ToFelt sig.sigEpoch)
      ∧ args[start + 2]? = some (u32ToFelt sig.sigLeafIndex)
      ∧ Segment args (start + 3) sig.wotsSig
      ∧ args[start + 68]? = some (u32ToFelt (BitVec.ofNat 32 sig.authPath.length))
      ∧ Segment args (start + 69) sig.authPath
      ∧ Segment args (start + 69 + sig.authPath.length) padding
  := by
  simp only [signatureFelts, List.cons_append, List.nil_append, Segment.cons_iff, Segment.append_iff,
    h, Nat.add_assoc, Nat.reduceAdd]

theorem segment_noteFelts {start : ℕ} {note : NoteArgs} (h : note.Sized) :
  Segment args start (noteFelts note)
    ↔ args[start]? = some note.secretS ∧ args[start + 1]? = some note.noteId
      ∧ args[start + 2]? = some note.depositAmount ∧ args[start + 3]? = some note.expiryTs
      ∧ Segment args (start + 4) note.merkleIndexBits
      ∧ Segment args (start + 36) note.merkleSiblings
  := by
  have hbits : note.merkleIndexBits.length = 32 := h.indexBits
  simp only [noteFelts, List.cons_append, List.nil_append, Segment.cons_iff, Segment.append_iff,
    hbits, Nat.add_assoc, Nat.reduceAdd]

theorem length_noteFelts {note : NoteArgs} (h : note.Sized) :
  (noteFelts note).length = 68
  := by
  have hbits : note.merkleIndexBits.length = 32 := h.indexBits
  have hsiblings : note.merkleSiblings.length = 32 := h.siblings
  simp only [noteFelts, List.length_append, List.length_cons, List.length_nil, hbits, hsiblings]

/-- Where the arguments of a request have their places. -/
theorem segment_requestFelts {r : RequestArgs} {padding : List Felt} (hnote : r.note.Sized) :
  Segment args 0 (requestFelts r padding)
    ↔ Segment args 0 (contextFelts r.context) ∧ args[4]? = some r.solvencyBound
      ∧ Segment args 5 (noteFelts r.note)
      ∧ args[73]? = some r.current.balance ∧ args[74]? = some r.current.blinding
      ∧ args[75]? = some r.userRerandomization ∧ args[76]? = some r.current.anchor
      ∧ args[77]? = some r.current.isGenesis
      ∧ Segment args 78 (signatureFelts r.current.stateSig padding)
  := by
  have hcontext : (contextFelts r.context).length = 4 := rfl
  simp only [requestFelts, List.cons_append, List.nil_append, Segment.cons_iff, Segment.append_iff,
    hcontext, length_noteFelts hnote, Nat.reduceAdd]

theorem segment_withdrawalFelts {r : WithdrawalArgs} {statePadding clearPadding : List Felt}
    (hnote : r.note.Sized) (hsig : r.final.stateSig.Sized statePadding) :
  Segment args 0 (withdrawalFelts r statePadding clearPadding)
    ↔ Segment args 0 (contextFelts r.context) ∧ args[4]? = some r.destination
      ∧ Segment args 5 (noteFelts r.note)
      ∧ args[73]? = some r.final.balance ∧ args[74]? = some r.final.blinding
      ∧ args[75]? = some r.final.anchor ∧ args[76]? = some r.final.isGenesis
      ∧ Segment args 77 (signatureFelts r.final.stateSig statePadding)
      ∧ args[166]? = some r.hasClearance
      ∧ Segment args 167 (signatureFelts r.clearSig clearPadding)
  := by
  have hcontext : (contextFelts r.context).length = 4 := rfl
  simp only [withdrawalFelts, List.cons_append, List.nil_append, Segment.cons_iff,
    Segment.append_iff, hcontext, length_noteFelts hnote, length_signatureFelts hsig,
    Nat.reduceAdd]

theorem length_requestFelts {r : RequestArgs} {padding : List Felt} (hnote : r.note.Sized)
    (hsig : r.current.stateSig.Sized padding) :
  (requestFelts r padding).length = 167
  := by
  simp only [requestFelts, contextFelts, List.length_append, List.length_cons, List.length_nil,
    length_noteFelts hnote, length_signatureFelts hsig]

theorem length_withdrawalFelts {r : WithdrawalArgs} {statePadding clearPadding : List Felt}
    (hnote : r.note.Sized) (hstate : r.final.stateSig.Sized statePadding)
    (hclear : r.clearSig.Sized clearPadding) :
  (withdrawalFelts r statePadding clearPadding).length = 256
  := by
  simp only [withdrawalFelts, contextFelts, List.length_append, List.length_cons, List.length_nil,
    length_noteFelts hnote, length_signatureFelts hstate, length_signatureFelts hclear]

theorem segment_contextFelts {context : ContextArgs} :
  Segment args 0 (contextFelts context)
    ↔ args[0]? = some context.protocolVersion ∧ args[1]? = some context.chainId
      ∧ args[2]? = some context.contractAddress ∧ args[3]? = some context.activeRoot
  := by
  simp only [contextFelts, Segment.cons_iff, Segment.nil, and_true, Nat.reduceAdd]

/-- A signature has its place with some padding when it is what is read. -/
theorem exists_padding {start : ℕ} {sig : SignatureArgs} (hlength : start + 89 ≤ args.length) :
  (∃ padding, sig.Sized padding ∧ Segment args start (signatureFelts sig padding))
    ↔ args[start]? = some sig.sigRoot ∧ args[start + 1]? = some (u32ToFelt sig.sigEpoch)
      ∧ args[start + 2]? = some (u32ToFelt sig.sigLeafIndex)
      ∧ (sig.wotsSig.length = 65 ∧ Segment args (start + 3) sig.wotsSig)
      ∧ ∃ authLen : U32, args[start + 68]? = some (u32ToFelt authLen)
        ∧ authLen.toNat ≤ XMSS_TREE_HEIGHT
        ∧ sig.authPath.length = authLen.toNat ∧ Segment args (start + 69) sig.authPath
  := by
  constructor
  · rintro ⟨padding, hsized, hsegment⟩
    obtain ⟨hroot, hepoch, hleaf, hwots, hlen, hpath, -⟩ :=
      (segment_signatureFelts hsized.wotsSig).mp hsegment
    have hle : sig.authPath.length ≤ 20 := Nat.le.intro hsized.authPath
    have hword : (BitVec.ofNat 32 sig.authPath.length).toNat = sig.authPath.length := by
      rw [BitVec.toNat_ofNat, Nat.mod_eq_of_lt (by omega)]
    refine ⟨hroot, hepoch, hleaf, ⟨hsized.wotsSig, hwots⟩, _, hlen, ?_, ?_, hpath⟩
    · rw [hword]
      exact hle
    · exact hword.symm
  · rintro ⟨hroot, hepoch, hleaf, ⟨hwotsLength, hwots⟩, authLen, hlen, hle, hpathLength, hpath⟩
    have hle : authLen.toNat ≤ 20 := hle
    have hword : BitVec.ofNat 32 sig.authPath.length = authLen := by
      rw [hpathLength, BitVec.ofNat_toNat, BitVec.setWidth_eq]
    -- the padding is what is left of the 20 places of the path
    refine ⟨(args.drop (start + 69 + sig.authPath.length)).take (20 - sig.authPath.length),
      ⟨hwotsLength, ?_⟩, ?_⟩
    · rw [List.length_take, List.length_drop, XMSS_TREE_HEIGHT]
      omega
    · rw [segment_signatureFelts hwotsLength, hword]
      exact ⟨hroot, hepoch, hleaf, hwots, hlen, hpath, List.take_prefix _ _⟩

end

section

variable {poseidonHashSpan : List Felt → Felt} {felts outputs : List Felt}

/-- The executable for requests runs the program on the arguments that its own are laid out of, and
panics if there are none. -/
theorem requestFromArgs_eq :
  requestFromArgs poseidonHashSpan felts = .ok outputs
    ↔ ∃ args padding, args.note.Sized ∧ args.current.stateSig.Sized padding
      ∧ felts = requestFelts args padding
      ∧ runRequestProgram poseidonHashSpan args = .ok outputs
  := by
  have hwots : ∀ {out}, copyFelts felts 81 65 = .ok out
      ↔ out.length = 65 ∧ Segment felts 81 out := copyFelts_eq_ok (by decide)
  have hpath : ∀ {authLen : U32} {out}, authLen.toNat ≤ XMSS_TREE_HEIGHT →
      (copyFelts felts (81 + 65 + 1) authLen = .ok out
        ↔ out.length = authLen.toNat ∧ Segment felts 147 out) := by
    intro authLen out hle
    exact copyFelts_authPath (by decide) hle
  rw [requestFromArgs]
  simp only [↓assert_bind, bind_eq_ok, decide_eq_true_iff, copyFelts_indexBits,
    copyFelts_siblings, hwots, readFelt_eq_ok, readU32_eq_ok]
  constructor
  · rintro ⟨hlength, bits, hbits, siblings, hsiblings, authLen, hlen, hle, wotsSig, hwots, authPath,
      hauthPath, pv, hpv, chainId, hchainId, contract, hcontract, root, hroot, bound, hbound, secret,
      hsecret, noteId, hnoteId, deposit, hdeposit, expiry, hexpiry, balance, hbalance, blinding,
      hblinding, rho, hrho, anchor, hanchor, isGenesis, hisGenesis, sigRoot, hsigRoot, epoch, hepoch,
      leaf, hleaf, hrun⟩
    rw [hpath hle] at hauthPath
    obtain ⟨padding, hsized, hsig⟩ := (@exists_padding felts 78 ⟨sigRoot, epoch, leaf, wotsSig,
      authPath⟩ hlength.ge).mpr ⟨hsigRoot, hepoch, hleaf, hwots, authLen, hlen, hle, hauthPath⟩
    have hnote : NoteArgs.Sized ⟨secret, noteId, deposit, expiry, bits, siblings⟩ :=
      ⟨hbits.1, hsiblings.1⟩
    refine ⟨_, padding, hnote, hsized, ?_, hrun⟩
    rw [Segment.eq_iff, segment_requestFelts hnote, length_requestFelts hnote hsized,
      segment_contextFelts, segment_noteFelts hnote]
    exact ⟨hlength, ⟨hpv, hchainId, hcontract, hroot⟩, hbound, ⟨hsecret, hnoteId, hdeposit, hexpiry,
      hbits.2, hsiblings.2⟩, hbalance, hblinding, hrho, hanchor, hisGenesis, hsig⟩
  · rintro ⟨args, padding, hnote, hsized, hfelts, hrun⟩
    rw [Segment.eq_iff, segment_requestFelts hnote, length_requestFelts hnote hsized,
      segment_contextFelts, segment_noteFelts hnote] at hfelts
    obtain ⟨hlength, ⟨hpv, hchainId, hcontract, hroot⟩, hbound, ⟨hsecret, hnoteId, hdeposit,
      hexpiry, hbits, hsiblings⟩, hbalance, hblinding, hrho, hanchor, hisGenesis, hsig⟩ := hfelts
    obtain ⟨hsigRoot, hepoch, hleaf, hwots, authLen, hlen, hle, hauthPath⟩ :=
      (exists_padding hlength.ge).mp ⟨padding, hsized, hsig⟩
    exact ⟨hlength, _, ⟨hnote.indexBits, hbits⟩, _, ⟨hnote.siblings, hsiblings⟩, authLen, hlen, hle,
      _, hwots, _, (hpath hle).mpr hauthPath, _, hpv, _, hchainId, _, hcontract, _, hroot, _, hbound,
      _, hsecret, _, hnoteId, _, hdeposit, _, hexpiry, _, hbalance, _, hblinding, _, hrho, _,
      hanchor, _, hisGenesis, _, hsigRoot, _, hepoch, _, hleaf, hrun⟩

/-- The executable for withdrawals runs the program on the arguments that its own are laid out of,
and panics if there are none. -/
theorem withdrawalFromArgs_eq :
  withdrawalFromArgs poseidonHashSpan felts = .ok outputs
    ↔ ∃ args statePadding clearPadding, args.note.Sized
      ∧ args.final.stateSig.Sized statePadding ∧ args.clearSig.Sized clearPadding
      ∧ felts = withdrawalFelts args statePadding clearPadding
      ∧ runWithdrawalProgram poseidonHashSpan args = .ok outputs
  := by
  have hstateWots : ∀ {out}, copyFelts felts 80 65 = .ok out
      ↔ out.length = 65 ∧ Segment felts 80 out := copyFelts_eq_ok (by decide)
  have hclearWots : ∀ {out}, copyFelts felts 170 65 = .ok out
      ↔ out.length = 65 ∧ Segment felts 170 out := copyFelts_eq_ok (by decide)
  rw [withdrawalFromArgs]
  simp only [↓assert_bind, bind_eq_ok, decide_eq_true_iff, copyFelts_indexBits,
    copyFelts_siblings, hstateWots, hclearWots, readFelt_eq_ok, readU32_eq_ok]
  constructor
  · rintro ⟨hlength, bits, hbits, siblings, hsiblings, stateLen, hstateLen, clearLen, hclearLen,
      hstateLe, hclearLe, stateWots, hstateWots, statePath, hstatePath, clearWots, hclearWots,
      clearPath, hclearPath, pv, hpv, chainId, hchainId, contract, hcontract, root, hroot,
      destination, hdestination, secret, hsecret, noteId, hnoteId, deposit, hdeposit, expiry,
      hexpiry, balance, hbalance, blinding, hblinding, anchor, hanchor, isGenesis, hisGenesis,
      stateRoot, hstateRoot, stateEpoch, hstateEpoch, stateLeaf, hstateLeaf, cleared, hcleared,
      clearRoot, hclearRoot, clearEpoch, hclearEpoch, clearLeaf, hclearLeaf, hrun⟩
    rw [copyFelts_authPath (by decide) hstateLe] at hstatePath
    rw [copyFelts_authPath (by decide) hclearLe] at hclearPath
    obtain ⟨statePadding, hstate, hstateSig⟩ := (@exists_padding felts 77 ⟨stateRoot, stateEpoch,
      stateLeaf, stateWots, statePath⟩ (by omega)).mpr
        ⟨hstateRoot, hstateEpoch, hstateLeaf, hstateWots, stateLen, hstateLen, hstateLe, hstatePath⟩
    obtain ⟨clearPadding, hclear, hclearSig⟩ := (@exists_padding felts 167 ⟨clearRoot, clearEpoch,
      clearLeaf, clearWots, clearPath⟩ hlength.ge).mpr
        ⟨hclearRoot, hclearEpoch, hclearLeaf, hclearWots, clearLen, hclearLen, hclearLe, hclearPath⟩
    have hnote : NoteArgs.Sized ⟨secret, noteId, deposit, expiry, bits, siblings⟩ :=
      ⟨hbits.1, hsiblings.1⟩
    refine ⟨_, statePadding, clearPadding, hnote, hstate, hclear, ?_, hrun⟩
    rw [Segment.eq_iff, segment_withdrawalFelts hnote hstate,
      length_withdrawalFelts hnote hstate hclear, segment_contextFelts, segment_noteFelts hnote]
    exact ⟨hlength, ⟨hpv, hchainId, hcontract, hroot⟩, hdestination, ⟨hsecret, hnoteId, hdeposit,
      hexpiry, hbits.2, hsiblings.2⟩, hbalance, hblinding, hanchor, hisGenesis, hstateSig, hcleared,
      hclearSig⟩
  · rintro ⟨args, statePadding, clearPadding, hnote, hstate, hclear, hfelts, hrun⟩
    rw [Segment.eq_iff, segment_withdrawalFelts hnote hstate,
      length_withdrawalFelts hnote hstate hclear, segment_contextFelts, segment_noteFelts hnote]
      at hfelts
    obtain ⟨hlength, ⟨hpv, hchainId, hcontract, hroot⟩, hdestination, ⟨hsecret, hnoteId, hdeposit,
      hexpiry, hbits, hsiblings⟩, hbalance, hblinding, hanchor, hisGenesis, hstateSig, hcleared,
      hclearSig⟩ := hfelts
    obtain ⟨hstateRoot, hstateEpoch, hstateLeaf, hstateWots, stateLen, hstateLen, hstateLe,
      hstatePath⟩ := (exists_padding (by omega)).mp ⟨statePadding, hstate, hstateSig⟩
    obtain ⟨hclearRoot, hclearEpoch, hclearLeaf, hclearWots, clearLen, hclearLen, hclearLe,
      hclearPath⟩ := (exists_padding hlength.ge).mp ⟨clearPadding, hclear, hclearSig⟩
    exact ⟨hlength, _, ⟨hnote.indexBits, hbits⟩, _, ⟨hnote.siblings, hsiblings⟩, stateLen,
      hstateLen, clearLen, hclearLen, hstateLe, hclearLe, _, hstateWots, _,
      (copyFelts_authPath (by decide) hstateLe).mpr hstatePath, _, hclearWots, _,
      (copyFelts_authPath (by decide) hclearLe).mpr hclearPath, _, hpv, _, hchainId, _, hcontract,
      _, hroot, _, hdestination, _, hsecret, _, hnoteId, _, hdeposit, _, hexpiry, _, hbalance, _,
      hblinding, _, hanchor, _, hisGenesis, _, hstateRoot, _, hstateEpoch, _, hstateLeaf, _,
      hcleared, _, hclearRoot, _, hclearEpoch, _, hclearLeaf, hrun⟩

/-- The executable for requests returns the public inputs of a statement exactly on the lists that a
witness of this statement is laid out in, and panics on every other list. -/
theorem requestFromArgs_eq_ok :
  requestFromArgs poseidonHashSpan felts = .ok outputs
    ↔ ∃ args padding anonX anonY, args.current.stateSig.Sized padding
      ∧ felts = requestFelts args padding
      ∧ RequestValid poseidonHashSpan args anonX anonY
      ∧ outputs = requestOutputs poseidonHashSpan args anonX anonY
  := by
  rw [requestFromArgs_eq]
  constructor
  · rintro ⟨args, padding, -, hsized, hfelts, hrun⟩
    obtain ⟨anonX, anonY, hvalid, houtputs⟩ := runRequestProgram_eq_ok.mp hrun
    exact ⟨args, padding, anonX, anonY, hsized, hfelts, hvalid, houtputs⟩
  · rintro ⟨args, padding, anonX, anonY, hsized, hfelts, hvalid, houtputs⟩
    exact ⟨args, padding, ⟨hvalid.note.length_indexBits, hvalid.note.length_siblings⟩, hsized,
      hfelts, runRequestProgram_eq_ok.mpr ⟨anonX, anonY, hvalid, houtputs⟩⟩

/-- The executable for withdrawals returns the public inputs of a statement exactly on the lists
that a witness of this statement is laid out in, and panics on every other list. -/
theorem withdrawalFromArgs_eq_ok :
  withdrawalFromArgs poseidonHashSpan felts = .ok outputs
    ↔ ∃ args statePadding clearPadding, args.final.stateSig.Sized statePadding
      ∧ args.clearSig.Sized clearPadding
      ∧ felts = withdrawalFelts args statePadding clearPadding
      ∧ WithdrawalValid poseidonHashSpan args
      ∧ outputs = withdrawalOutputs poseidonHashSpan args
  := by
  rw [withdrawalFromArgs_eq]
  constructor
  · rintro ⟨args, statePadding, clearPadding, -, hstate, hclear, hfelts, hrun⟩
    obtain ⟨hvalid, houtputs⟩ := runWithdrawalProgram_eq_ok.mp hrun
    exact ⟨args, statePadding, clearPadding, hstate, hclear, hfelts, hvalid, houtputs⟩
  · rintro ⟨args, statePadding, clearPadding, hstate, hclear, hfelts, hvalid, houtputs⟩
    exact ⟨args, statePadding, clearPadding,
      ⟨hvalid.note.length_indexBits, hvalid.note.length_siblings⟩, hstate, hclear, hfelts,
      runWithdrawalProgram_eq_ok.mpr ⟨hvalid, houtputs⟩⟩

end

end ZkApi.Cairo
