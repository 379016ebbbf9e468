import ZkApi.Stark.Curve

/-!
# Pedersen commitments

A balance is committed to with a blinding.  The client rerandomizes a commitment, the server takes a
charge off it and adds a blinding of its own, and the client follows with blindings that are added
modulo the order of the curve, not of the field.  Whatever implements the curve, the commitment that
comes out of any number of updates is that to what is left of the balance.
-/

namespace ZkApi.Stark

/-! ### Blindings -/

/-- `add_blinding`. -/
def addBlinding (a b : Felt) : Felt where
  val := (a.val + b.val) % curveOrder
  isLt := (Nat.mod_lt _ (by decide)).trans curveOrder_lt

/-- A blinding counts modulo the order of the curve. -/
theorem mod_smul_blindPoint (n : ℕ) :
  (n % curveOrder) • blindPoint = n • blindPoint
  := by
  conv_rhs => rw [← Nat.mod_add_div n curveOrder, add_smul, mul_comm, mul_smul,
    curveOrder_smul_blindPoint, smul_zero, add_zero]

theorem commitment_addBlinding (balance : ℕ) (a b : Felt) :
  commitment balance (addBlinding a b).val = commitment balance a.val + b.val • blindPoint
  := by
  rw [commitment, addBlinding, mod_smul_blindPoint, add_smul, ← add_assoc, commitment]

/-! ### Commitments -/

section

variable (curve : Curve)

/-- `commit`.  A constant off the curve is a panic. -/
def commit (balance : U128) (blinding : Felt) : Option curve.Point := do
  let bg := scalarMul curve (← G_BALANCE curve) (feltToField (balance.setWidth 256))
  let rh := scalarMul curve (← H_BLIND curve) blinding
  some (curve.add bg rh)

/-- `rerandomize`. -/
def rerandomize (point : curve.Point) (rho : Felt) : Option curve.Point := do
  let rhoH := scalarMul curve (← H_BLIND curve) rho
  some (curve.add point rhoH)

/-- What a request does to a commitment. -/
structure Update where
  rho : Felt
  charge : U128
  blindDelta : Felt

/-- The client rerandomizes a commitment and the server updates it. -/
def applyUpdate (point : curve.Point) (update : Update) : Option curve.Point := do
  serverUpdate curve (← rerandomize curve point update.rho) update.charge update.blindDelta

/-- The blinding after an update. -/
def blindingAfter (blinding : Felt) (update : Update) : Felt :=
  addBlinding (addBlinding blinding update.rho) update.blindDelta

/-- What updates charge. -/
def charged (updates : List Update) : ℕ :=
  (updates.map fun update => update.charge.toNat).sum

end

/-! ### The group -/

section

variable {curve : Curve} {toPoint : curve.Point → CurvePoint}

/-- The loop adds the multiple of a point that the bits tell. -/
theorem toPoint_scalarMulBits (h : curve.Implements toPoint) (k n : ℕ) (result temp : curve.Point) :
  toPoint (scalarMulBits curve ((List.range k).map n.testBit) result temp)
    = toPoint result + (n % 2 ^ k) • toPoint temp
  := by
  induction k generalizing n result temp with
  | zero =>
    rw [pow_zero, Nat.mod_one, zero_smul, add_zero, List.range_zero, List.map_nil, scalarMulBits]
  | succ k ih =>
    have hbits : n.testBit ∘ Nat.succ = (n / 2).testBit := by
      funext i
      apply Nat.testBit_succ
    have hmod : n % 2 ^ (k + 1) = n % 2 + 2 * (n / 2 % 2 ^ k) := by
      rw [pow_succ', Nat.mod_mul]
    rw [List.range_succ_eq_map, List.map_cons, List.map_map, hbits, scalarMulBits, ih, h.add,
      Nat.testBit_zero, hmod, add_smul, mul_comm, mul_smul, two_smul, ← add_assoc]
    congr 1
    obtain heven | hodd := Nat.mod_two_eq_zero_or_one n
    · rw [heven, zero_smul, add_zero]
      rfl
    · rw [hodd, one_smul]
      apply h.add

theorem toPoint_scalarMul (h : curve.Implements toPoint) (point : curve.Point) (scalar : Felt) :
  toPoint (scalarMul curve point scalar) = scalar.val • toPoint point
  := by
  have hlt : scalar.val < 2 ^ 256 := scalar.isLt.trans (by norm_num [fieldPrime])
  rw [scalarMul, toPoint_scalarMulBits h, h.identity, zero_add, Nat.mod_eq_of_lt hlt]

theorem exists_balancePoint (h : curve.Implements toPoint) :
  ∃ G, G_BALANCE curve = some G ∧ toPoint G = balancePoint
  := by
  apply Option.map_eq_some_iff.mp
  rw [G_BALANCE, generator, h.fromAffine, pointAt]
  exact dif_pos balance_onCurve

theorem exists_blindPoint (h : curve.Implements toPoint) :
  ∃ H, H_BLIND curve = some H ∧ toPoint H = blindPoint
  := by
  apply Option.map_eq_some_iff.mp
  rw [H_BLIND, generator, h.fromAffine, pointAt]
  exact dif_pos blind_onCurve

/-- An amount in the field. -/
theorem val_amount (amount : U128) :
  (feltToField (amount.setWidth 256)).val = amount.toNat
  := by
  have hlt : amount.toNat < fieldPrime := amount.isLt.trans (by norm_num [fieldPrime])
  calc (feltToField (amount.setWidth 256)).val
    _ = (amount.setWidth 256).toNat % fieldPrime := rfl
    _ = amount.toNat := by
      rw [BitVec.toNat_setWidth_of_le (by norm_num), Nat.mod_eq_of_lt hlt]

theorem exists_commit (h : curve.Implements toPoint) (balance : U128) (blinding : Felt) :
  ∃ P, commit curve balance blinding = some P ∧ toPoint P = commitment balance.toNat blinding.val
  := by
  obtain ⟨G, hG, hbalance⟩ := exists_balancePoint h
  obtain ⟨H, hH, hblind⟩ := exists_blindPoint h
  refine ⟨curve.add (scalarMul curve G (feltToField (balance.setWidth 256)))
    (scalarMul curve H blinding), ?_, ?_⟩
  · rw [commit, hG, hH]
    rfl
  · rw [h.add, toPoint_scalarMul h, toPoint_scalarMul h, val_amount, hbalance, hblind, commitment]

theorem exists_rerandomize (h : curve.Implements toPoint) (point : curve.Point) (rho : Felt) :
  ∃ P, rerandomize curve point rho = some P ∧ toPoint P = toPoint point + rho.val • blindPoint
  := by
  obtain ⟨H, hH, hblind⟩ := exists_blindPoint h
  refine ⟨curve.add point (scalarMul curve H rho), ?_, ?_⟩
  · rw [rerandomize, hH]
    rfl
  · rw [h.add, toPoint_scalarMul h, hblind]

theorem exists_serverUpdate (h : curve.Implements toPoint) (point : curve.Point) (charge : U128)
    (blindDelta : Felt) :
  ∃ P, serverUpdate curve point charge blindDelta = some P
    ∧ toPoint P = toPoint point - charge.toNat • balancePoint + blindDelta.val • blindPoint
  := by
  obtain ⟨G, hG, hbalance⟩ := exists_balancePoint h
  obtain ⟨H, hH, hblind⟩ := exists_blindPoint h
  refine ⟨curve.add (curve.add point (curve.neg (scalarMul curve G
    (feltToField (charge.setWidth 256))))) (scalarMul curve H blindDelta), ?_, ?_⟩
  · rw [serverUpdate, hG, hH]
    rfl
  · rw [h.add, h.add, h.neg, toPoint_scalarMul h, toPoint_scalarMul h, val_amount, hbalance, hblind,
      sub_eq_add_neg]

/-- A charge that the balance covers is taken off the commitment. -/
theorem commitment_sub {balance charge : ℕ} (hle : charge ≤ balance) (blinding delta : Felt) :
  commitment balance blinding.val - charge • balancePoint + delta.val • blindPoint
    = commitment (balance - charge) (addBlinding blinding delta).val
  := by
  rw [commitment_addBlinding, commitment, commitment]
  conv_lhs => rw [← Nat.sub_add_cancel hle, add_smul]
  abel

/-- An update of a commitment to a balance that covers the charge. -/
theorem exists_applyUpdate (h : curve.Implements toPoint) {point : curve.Point} {balance : ℕ}
    {blinding : Felt} {update : Update} (hpoint : toPoint point = commitment balance blinding.val)
    (hle : update.charge.toNat ≤ balance) :
  ∃ P, applyUpdate curve point update = some P
    ∧ toPoint P = commitment (balance - update.charge.toNat) (blindingAfter blinding update).val
  := by
  obtain ⟨P, hrerandomized, hP⟩ := exists_rerandomize h point update.rho
  obtain ⟨Q, hupdated, hQ⟩ := exists_serverUpdate h P update.charge update.blindDelta
  refine ⟨Q, ?_, ?_⟩
  · rw [applyUpdate, hrerandomized, Option.bind_eq_bind, Option.bind_some, hupdated]
  · rw [hQ, hP, hpoint, ← commitment_addBlinding, commitment_sub hle, blindingAfter]

theorem exists_applyUpdates (h : curve.Implements toPoint) {point : curve.Point} {balance : ℕ}
    {blinding : Felt} {updates : List Update}
    (hpoint : toPoint point = commitment balance blinding.val) (hle : charged updates ≤ balance) :
  ∃ P, updates.foldlM (applyUpdate curve) point = some P
    ∧ toPoint P = commitment (balance - charged updates) (updates.foldl blindingAfter blinding).val
  := by
  induction updates generalizing point balance blinding with
  | nil => exact ⟨point, rfl, hpoint⟩
  | cons update updates ih =>
    rw [charged, List.map_cons, List.sum_cons] at hle
    have hfirst : update.charge.toNat ≤ balance := by omega
    have hrest : charged updates ≤ balance - update.charge.toNat := by
      rw [charged]
      omega
    obtain ⟨P, hupdated, hP⟩ := exists_applyUpdate h hpoint hfirst
    obtain ⟨Q, hlast, hQ⟩ := ih hP hrest
    refine ⟨Q, ?_, ?_⟩
    · rw [List.foldlM_cons, hupdated, Option.bind_eq_bind, Option.bind_some, hlast]
    · rw [hQ, Nat.sub_sub]
      rfl

/-- Whatever implements the curve, any number of updates that charge no more than the balance take a
commitment to that of what is left, with the blinding that the client has calculated; the two have
the same coordinates. -/
theorem updates_commit (h : curve.Implements toPoint) (balance : U128) (blinding : Felt)
    {updates : List Update} (hle : charged updates ≤ balance.toNat) :
  ∃ P Q R, commit curve balance blinding = some P
    ∧ updates.foldlM (applyUpdate curve) P = some Q
    ∧ commit curve (balance - BitVec.ofNat 128 (charged updates))
      (updates.foldl blindingAfter blinding) = some R
    ∧ toPoint Q = toPoint R ∧ curve.toAffine Q = curve.toAffine R
  := by
  obtain ⟨P, hcommit, hP⟩ := exists_commit h balance blinding
  obtain ⟨Q, hupdated, hQ⟩ := exists_applyUpdates h hP hle
  obtain ⟨R, hlast, hR⟩ := exists_commit h (balance - BitVec.ofNat 128 (charged updates))
    (updates.foldl blindingAfter blinding)
  have hleft : (balance - BitVec.ofNat 128 (charged updates)).toNat
      = balance.toNat - charged updates := by
    have hlt : charged updates < 2 ^ 128 := hle.trans_lt balance.isLt
    rw [BitVec.toNat_sub_of_le, BitVec.toNat_ofNat, Nat.mod_eq_of_lt hlt]
    rw [BitVec.le_def, BitVec.toNat_ofNat, Nat.mod_eq_of_lt hlt]
    exact hle
  have hsame : toPoint Q = toPoint R := by rw [hQ, hR, hleft]
  refine ⟨P, Q, R, hcommit, hupdated, hlast, hsame, ?_⟩
  rw [h.toAffine, h.toAffine, hsame]

end

namespace PedersenExample

/-- A balance of 1000 after a request that charges 100 and one that charges nothing. -/
theorem updates_commit_example :
  ∃ P Q R, commit groupCurve 1000 42 = some P
    ∧ [⟨7, 100, 13⟩, ⟨0, 0, 5⟩].foldlM (applyUpdate groupCurve) P = some Q
    ∧ commit groupCurve 900 67 = some R ∧ groupCurve.toAffine Q = groupCurve.toAffine R
  := by
  obtain ⟨P, Q, R, hcommit, hupdated, hlast, -, hsame⟩ :=
    @updates_commit _ _ groupCurve_implements 1000 42 [⟨7, 100, 13⟩, ⟨0, 0, 5⟩] (by decide)
  exact ⟨P, Q, R, hcommit, hupdated, hlast, hsame⟩

end PedersenExample

end ZkApi.Stark
