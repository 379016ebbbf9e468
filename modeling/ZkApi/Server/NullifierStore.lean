import ZkApi.Server.Types

/-!
# The store of nullifiers and transcripts

A table of SQLite with one row for each nullifier.  The columns hold field elements as
hexadecimal text and numbers as signed integers; a signature is held as JSON.
-/

namespace ZkApi.Server

open Stark

/-! ### Records -/

/-- `NullifierStatus`. -/
inductive NullifierStatus where
  | reserved
  | finalized
  | clearanceReserved
  deriving DecidableEq

/-- `status_to_str`. -/
def statusToStr : NullifierStatus → String
  | .reserved => "Reserved"
  | .finalized => "Finalized"
  | .clearanceReserved => "ClearanceReserved"

/-- `str_to_status`. -/
def strToStatus (s : String) : NullifierStatus :=
  if s = "Reserved" then .reserved
  else if s = "Finalized" then .finalized
  else if s = "ClearanceReserved" then .clearanceReserved
  else .reserved

/-- `TranscriptRecord`. -/
structure TranscriptRecord where
  nullifier : Felt252
  status : NullifierStatus
  clientRequestId : Option String
  payloadHash : Option Felt252
  chargeApplied : Option U128
  responseCode : Option U16
  responsePayload : Option String
  responseHash : Option Felt252
  nextCommitmentX : Option Felt252
  nextCommitmentY : Option Felt252
  nextAnchor : Option Felt252
  blindDeltaSrv : Option Felt252
  nextStateSigEpoch : Option U32
  nextStateSigRoot : Option Felt252
  nextStateSig : Option XmssSignature
  policyReasonCode : Option U32
  policyEvidenceHash : Option Felt252
  proofBlob : Option (List UInt8)
  requestInputs : Option RequestPublicInputs
  createdAt : U64
  finalizedAt : Option U64

/-! ### Rows -/

/-- What the JSON of a signature says. -/
structure XmssSignatureJson where
  epoch : U32
  leafIndex : U32
  wotsSig : List String
  authPath : List String
  deriving DecidableEq

/-- `to_string` of `serde_json`. -/
def XmssSignatureJson.ofSignature (s : XmssSignature) : XmssSignatureJson where
  epoch := s.epoch
  leafIndex := s.leafIndex
  wotsSig := s.wotsSig.map Felt252.toHex
  authPath := s.authPath.map Felt252.toHex

/-- `from_str` of `serde_json`. -/
def XmssSignatureJson.toSignature (json : XmssSignatureJson) : Except Failure XmssSignature := do
  let wotsSig ← json.wotsSig.mapM Felt252.fromHexChecked
  let authPath ← json.authPath.mapM Felt252.fromHexChecked
  pure {
    epoch := json.epoch
    leafIndex := json.leafIndex
    wotsSig := wotsSig
    authPath := authPath }

/-- A row of the table, but for its key. -/
structure NullifierRow where
  status : String
  clientRequestId : Option String
  payloadHash : Option String
  chargeApplied : Option (BitVec 64)
  responseCode : Option (BitVec 32)
  responsePayload : Option String
  responseHash : Option String
  nextCommitmentX : Option String
  nextCommitmentY : Option String
  nextAnchor : Option String
  blindDeltaSrv : Option String
  nextStateSigEpoch : Option (BitVec 32)
  nextStateSigRoot : Option String
  nextStateSigJson : Option XmssSignatureJson
  policyReasonCode : Option (BitVec 32)
  policyEvidenceHash : Option String
  proofBlob : Option (List UInt8)
  requestInputs : Option RequestPublicInputs
  createdAt : U64
  finalizedAt : Option U64
  deriving DecidableEq

/-- A row whose columns are null but for those of every row. -/
def NullifierRow.blank (status : String) (createdAt : U64) : NullifierRow where
  status := status
  clientRequestId := none
  payloadHash := none
  chargeApplied := none
  responseCode := none
  responsePayload := none
  responseHash := none
  nextCommitmentX := none
  nextCommitmentY := none
  nextAnchor := none
  blindDeltaSrv := none
  nextStateSigEpoch := none
  nextStateSigRoot := none
  nextStateSigJson := none
  policyReasonCode := none
  policyEvidenceHash := none
  proofBlob := none
  requestInputs := none
  createdAt := createdAt
  finalizedAt := none

/-- The value of a result, unless it is an error.  A panic goes on. -/
def okOrNone {α : Type} : Except Failure α → Except Failure (Option α)
  | .ok a => .ok (some a)
  | .error (.message _) => .ok none
  | .error .panic => .error .panic

/-- A column parsed by a function that can fail. -/
def parseColumn {α β : Type} (parse : α → Except Failure β) :
    Option α → Except Failure (Option β)
  | none => .ok none
  | some a => okOrNone (parse a)

/-- `parse_opt_felt`. -/
def parseOptFelt (s : Option String) : Except Failure (Option Felt252) :=
  parseColumn Felt252.fromHex s

/-- `row_to_record`. -/
def rowToRecord (nullifierHex : String) (row : NullifierRow) :
    Except Failure TranscriptRecord := do
  let nextStateSig ← parseColumn XmssSignatureJson.toSignature row.nextStateSigJson
  let nullifier ← okOrNone (Felt252.fromHex nullifierHex)
  let payloadHash ← parseOptFelt row.payloadHash
  let responseHash ← parseOptFelt row.responseHash
  let nextCommitmentX ← parseOptFelt row.nextCommitmentX
  let nextCommitmentY ← parseOptFelt row.nextCommitmentY
  let nextAnchor ← parseOptFelt row.nextAnchor
  let blindDeltaSrv ← parseOptFelt row.blindDeltaSrv
  let nextStateSigRoot ← parseOptFelt row.nextStateSigRoot
  let policyEvidenceHash ← parseOptFelt row.policyEvidenceHash
  pure {
    nullifier := nullifier.getD 0
    status := strToStatus row.status
    clientRequestId := row.clientRequestId
    payloadHash := payloadHash
    chargeApplied := row.chargeApplied.map (BitVec.signExtend 128)
    responseCode := row.responseCode.map (BitVec.setWidth 16)
    responsePayload := row.responsePayload
    responseHash := responseHash
    nextCommitmentX := nextCommitmentX
    nextCommitmentY := nextCommitmentY
    nextAnchor := nextAnchor
    blindDeltaSrv := blindDeltaSrv
    nextStateSigEpoch := row.nextStateSigEpoch
    nextStateSigRoot := nextStateSigRoot
    nextStateSig := nextStateSig
    policyReasonCode := row.policyReasonCode
    policyEvidenceHash := policyEvidenceHash
    proofBlob := row.proofBlob
    requestInputs := row.requestInputs
    createdAt := row.createdAt
    finalizedAt := row.finalizedAt }

/-! ### The table -/

/-- The table, by its primary key. -/
abbrev NullifierTable : Type :=
  String → Option NullifierRow

/-- The insertion of a row, which violates the constraint of the primary key when the row
exists. -/
def NullifierTable.insert (table : NullifierTable) (violation : ServerError) (key : String)
    (row : NullifierRow) : Except ServerError Unit × NullifierTable :=
  match table key with
  | some _ => (.error violation, table)
  | none => (.ok (), Function.update table key (some row))

/-- `reserve`. -/
def NullifierTable.reserve (table : NullifierTable) (nullifier : Felt252)
    (clientRequestId : String) (payloadHash : Felt252) (now : U64) :
    Except ServerError Unit × NullifierTable :=
  table.insert .replay nullifier.toHex
    { NullifierRow.blank (statusToStr .reserved) now with
      clientRequestId := some clientRequestId
      payloadHash := some payloadHash.toHex }

/-- `reserve_clearance`. -/
def NullifierTable.reserveClearance (table : NullifierTable) (nullifier : Felt252) (now : U64) :
    Except ServerError Unit × NullifierTable :=
  table.insert .nullifierUsed nullifier.toHex
    (NullifierRow.blank (statusToStr .clearanceReserved) now)

/-- The columns that `finalize` sets. -/
def NullifierRow.finalized (row : NullifierRow) (transcript : TranscriptRecord) (now : U64) :
    NullifierRow :=
  { row with
    status := statusToStr .finalized
    chargeApplied := transcript.chargeApplied.map (BitVec.setWidth 64)
    responseCode := transcript.responseCode.map (BitVec.setWidth 32)
    responsePayload := transcript.responsePayload
    responseHash := transcript.responseHash.map Felt252.toHex
    nextCommitmentX := transcript.nextCommitmentX.map Felt252.toHex
    nextCommitmentY := transcript.nextCommitmentY.map Felt252.toHex
    nextAnchor := transcript.nextAnchor.map Felt252.toHex
    blindDeltaSrv := transcript.blindDeltaSrv.map Felt252.toHex
    nextStateSigEpoch := transcript.nextStateSigEpoch
    nextStateSigRoot := transcript.nextStateSigRoot.map Felt252.toHex
    nextStateSigJson := transcript.nextStateSig.map XmssSignatureJson.ofSignature
    policyReasonCode := transcript.policyReasonCode
    policyEvidenceHash := transcript.policyEvidenceHash.map Felt252.toHex
    proofBlob := transcript.proofBlob
    requestInputs := transcript.requestInputs
    finalizedAt := some now }

/-- `finalize`. -/
def NullifierTable.finalize (table : NullifierTable) (nullifier : Felt252)
    (transcript : TranscriptRecord) (now : U64) : Except ServerError Unit × NullifierTable :=
  match table nullifier.toHex with
  | some row =>
      if row.status = statusToStr .reserved then
        (.ok (), Function.update table nullifier.toHex (some (row.finalized transcript now)))
      else
        (.error (.internal "nullifier not in Reserved state or does not exist"), table)
  | none => (.error (.internal "nullifier not in Reserved state or does not exist"), table)

/-- `lookup_by_nullifier`. -/
def NullifierTable.lookupByNullifier (table : NullifierTable) (nullifier : Felt252) :
    Except Failure (Option TranscriptRecord) :=
  match table nullifier.toHex with
  | none => .ok none
  | some row => (rowToRecord nullifier.toHex row).map some

/-! ### Settled rows -/

/-- A row that no update of the store touches. -/
def NullifierRow.Settled (row : NullifierRow) : Prop :=
  row.status ≠ statusToStr .reserved

/-- Rows stay, and settled rows stay as they are. -/
def NullifierTable.Extends (table before : NullifierTable) : Prop :=
  ∀ key row, before key = some row → ∃ row', table key = some row' ∧ (row.Settled → row' = row)

namespace NullifierTable

variable {table before later : NullifierTable}

theorem Extends.refl :
  table.Extends table
  := by
  intro key row hrow
  use row, hrow
  intro _
  rfl

theorem Extends.trans (h : later.Extends table) (k : table.Extends before) :
  later.Extends before
  := by
  intro key row hrow
  obtain ⟨row', hrow', hsettled⟩ := k key row hrow
  obtain ⟨row'', hrow'', hsettled'⟩ := h key row' hrow'
  use row'', hrow''
  intro hs
  have heq := hsettled hs
  rw [heq] at hsettled'
  apply hsettled' hs

theorem Extends.settled {key : String} {row : NullifierRow} (h : table.Extends before)
    (hrow : before key = some row) (hsettled : row.Settled) :
  table key = some row
  := by
  obtain ⟨row', hrow', heq⟩ := h key row hrow
  rw [hrow', heq hsettled]

/-- A row written over one that is not settled, or where there was none. -/
theorem extends_update {key : String} {row : NullifierRow}
    (h : ∀ old, table key = some old → ¬ old.Settled) :
  Extends (Function.update table key (some row)) table
  := by
  intro key' row' hrow'
  by_cases hkey : key' = key
  · rw [hkey] at hrow'
    rw [hkey, Function.update_self]
    use row, rfl
    intro hsettled
    cases h row' hrow' hsettled
  · rw [Function.update_of_ne hkey]
    use row', hrow'
    intro _
    rfl

section

variable {violation : ServerError} {key : String} {row old : NullifierRow}

theorem insert_of_some (h : table key = some old) :
  table.insert violation key row = (.error violation, table)
  := by
  rw [NullifierTable.insert, h]

theorem insert_of_none (h : table key = none) :
  table.insert violation key row = (.ok (), Function.update table key (some row))
  := by
  rw [NullifierTable.insert, h]

theorem insert_extends :
  (table.insert violation key row).2.Extends table
  := by
  cases hkey : table key with
  | some old =>
    rw [insert_of_some hkey]
    apply Extends.refl
  | none =>
    rw [insert_of_none hkey]
    apply extends_update
    intro old hold
    rw [hkey] at hold
    cases hold

/-- A row is inserted where there was none. -/
theorem insert_eq_ok (h : (table.insert violation key row).1 = .ok ()) :
  table key = none ∧ (table.insert violation key row).2 key = some row
  := by
  cases hkey : table key with
  | some old =>
    rw [insert_of_some hkey] at h
    cases h
  | none =>
    rw [insert_of_none hkey]
    constructor
    · rfl
    · apply Function.update_self

end

section

variable {nullifier payloadHash : Felt252} {clientRequestId : String} {now : U64}
  {transcript : TranscriptRecord} {row : NullifierRow}

theorem reserve_extends :
  (table.reserve nullifier clientRequestId payloadHash now).2.Extends table
  := insert_extends

theorem reserveClearance_extends :
  (table.reserveClearance nullifier now).2.Extends table
  := insert_extends

theorem reserveClearance_eq_ok (h : (table.reserveClearance nullifier now).1 = .ok ()) :
  table nullifier.toHex = none
    ∧ (table.reserveClearance nullifier now).2 nullifier.toHex
      = some (NullifierRow.blank (statusToStr .clearanceReserved) now)
  := insert_eq_ok h

theorem finalize_of_reserved (h : table nullifier.toHex = some row) (hrow : ¬ row.Settled) :
  table.finalize nullifier transcript now
    = (.ok (), Function.update table nullifier.toHex (some (row.finalized transcript now)))
  := by
  rw [NullifierTable.finalize, h]
  apply if_pos (not_not.mp hrow)

theorem finalize_of_settled (h : ∀ row, table nullifier.toHex = some row → row.Settled) :
  table.finalize nullifier transcript now
    = (.error (.internal "nullifier not in Reserved state or does not exist"), table)
  := by
  rw [NullifierTable.finalize]
  cases hkey : table nullifier.toHex with
  | none => rfl
  | some row => apply if_neg (h row hkey)

/-- A transcript is finalized where a row was reserved, and nowhere else. -/
theorem finalize_cases (table : NullifierTable) (nullifier : Felt252)
    (transcript : TranscriptRecord) (now : U64) :
  (∃ row : NullifierRow, ¬ row.Settled ∧ table nullifier.toHex = some row
    ∧ table.finalize nullifier transcript now
      = (.ok (), Function.update table nullifier.toHex (some (row.finalized transcript now))))
  ∨ table.finalize nullifier transcript now
    = (.error (.internal "nullifier not in Reserved state or does not exist"), table)
  := by
  by_cases h : ∀ row, table nullifier.toHex = some row → row.Settled
  · right
    apply finalize_of_settled h
  · left
    push Not at h
    obtain ⟨row, hkey, hrow⟩ := h
    exact ⟨row, hrow, hkey, finalize_of_reserved hkey hrow⟩

theorem finalize_extends :
  (table.finalize nullifier transcript now).2.Extends table
  := by
  obtain ⟨row, hrow, hkey, heq⟩ | heq :=
    finalize_cases table nullifier transcript now
  · rw [heq]
    dsimp only
    apply extends_update
    intro old hold
    rw [hkey] at hold
    cases hold
    apply hrow
  · rw [heq]
    apply Extends.refl

theorem finalize_eq_ok (h : (table.finalize nullifier transcript now).1 = .ok ()) :
  ∃ row : NullifierRow,
    (table.finalize nullifier transcript now).2 nullifier.toHex
      = some (row.finalized transcript now)
  := by
  obtain ⟨row, hrow, hkey, heq⟩ | heq := finalize_cases table nullifier transcript now
  · rw [heq]
    use row
    dsimp only
    rw [Function.update_self]
  · rw [heq] at h
    cases h

end

end NullifierTable

/-! ### Reading back a transcript -/

theorem okOrNone_fromHex_toHex {x : Felt252} (h : x.Canonical) :
  okOrNone (Felt252.fromHex x.toHex) = .ok (some x)
  := by
  rw [Felt252.fromHex_toHex_canonical h]
  rfl

theorem parseOptFelt_toHex {x : Felt252} (h : x.Canonical) :
  parseOptFelt (some x.toHex) = .ok (some x)
  := by
  rw [parseOptFelt, parseColumn, okOrNone_fromHex_toHex h]

theorem mapM_fromHexChecked {xs : List Felt252} (h : ∀ x ∈ xs, x.Canonical) :
  (xs.map Felt252.toHex).mapM Felt252.fromHexChecked = .ok xs
  := by
  induction xs with
  | nil => rfl
  | cons x xs ih =>
    have hx : Felt252.fromHexChecked x.toHex = .ok x :=
      Felt252.fromHex_toHex_canonical (h x List.mem_cons_self)
    have hxs := ih fun y hy => h y (List.mem_cons_of_mem x hy)
    rw [List.map_cons, List.mapM_cons, hx, hxs]
    rfl

/-- A signature is read back from its JSON. -/
theorem toSignature_ofSignature {s : XmssSignature} (h : s.Canonical) :
  (XmssSignatureJson.ofSignature s).toSignature = .ok s
  := by
  rw [XmssSignatureJson.toSignature, XmssSignatureJson.ofSignature,
    mapM_fromHexChecked h.wotsSig, mapM_fromHexChecked h.authPath]
  rfl

end ZkApi.Server
