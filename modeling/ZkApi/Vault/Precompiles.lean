import ZkApi.Bn254
import ZkApi.Library.Pairing
import ZkApi.Vault.Groth16Adapter

/-!
# The precompiled contracts

What the contracts 6, 7 and 8 compute on words: a pair of words, or two pairs for the second
group, stands for a point when it consists of reduced coordinates of a point of the group, or
of zeros for the point at infinity.  With these contracts the adapter accepts a proof exactly
when its words stand for points that satisfy the equation of the verifying key
(`assertValid_iff`).
-/

namespace ZkApi.Vault.Groth16

open Bn254 ShortWeierstrass

/-! ### Coordinates -/

/-- The element of the base field that a word stands for, when it is reduced. -/
def coordinate (w : U256) : Option Fq :=
  if w.toNat < baseModulus then some w.toNat else none

/-- The word of an element of the base field. -/
def baseWord (x : Fq) : U256 :=
  BitVec.ofNat 256 x.val

theorem baseWord_toNat (x : Fq) :
  (baseWord x).toNat = x.val
  := by
  have hlt : x.val < 2 ^ 256 := (ZMod.val_lt x).trans (by decide)
  rw [baseWord, BitVec.toNat_ofNat, Nat.mod_eq_of_lt hlt]

theorem coordinate_eq_some {w : U256} {x : Fq} :
  coordinate w = some x ↔ baseWord x = w
  := by
  rw [coordinate, Option.ite_none_right_eq_some, Option.some.injEq]
  constructor
  · rintro ⟨hlt, rfl⟩
    apply BitVec.eq_of_toNat_eq
    rw [baseWord_toNat, ZMod.val_natCast, Nat.mod_eq_of_lt hlt]
  · rintro rfl
    rw [baseWord_toNat]
    exact ⟨ZMod.val_lt x, ZMod.natCast_zmod_val x⟩

theorem baseWord_inj {x y : Fq} :
  baseWord x = baseWord y ↔ x = y
  := by
  constructor
  · intro h
    have hx := coordinate_eq_some.mpr h
    rw [coordinate_eq_some.mpr rfl] at hx
    exact (Option.some.inj hx).symm
  · rintro rfl
    rfl

theorem baseWord_zero :
  baseWord 0 = 0
  := by rw [baseWord, ZMod.val_zero]; rfl

/-! ### Points -/

/-- The point of the first group that two words stand for. -/
def G1Point.decode (p : G1Point) : Option G1 := do
  let x ← coordinate p.x
  let y ← coordinate p.y
  if x = 0 ∧ y = 0 then some 0
  else if h : OnCurve g1Config x y then some (.ofOnCurve h)
  else none

/-- The point of the second group that four words stand for. -/
def G2Point.decode (p : G2Point) : Option G2 := do
  let xRe ← coordinate p.x.1
  let xIm ← coordinate p.x.2
  let yRe ← coordinate p.y.1
  let yIm ← coordinate p.y.2
  let x : Fq2 := ⟨xRe, xIm⟩
  let y : Fq2 := ⟨yRe, yIm⟩
  if x = 0 ∧ y = 0 then some 0
  else if h : OnCurve g2Config x y then
    if hr : fieldModulus • Point.ofOnCurve h = 0 then some ⟨.ofOnCurve h, hr⟩ else none
  else none

/-- The words of a point of the first group. -/
def G1Point.encode : G1 → G1Point
  | .zero => { x := 0, y := 0 }
  | .some x y _ => { x := baseWord x, y := baseWord y }

/-- The words of a point of the second curve. -/
def G2Point.encode : Point g2Config → G2Point
  | .zero => { x := (0, 0), y := (0, 0) }
  | .some x y _ => { x := (baseWord x.re, baseWord x.im), y := (baseWord y.re, baseWord y.im) }

theorem not_onCurve_zero {F : Type} [Field F] {E : Curve F} (h : E.coeffB ≠ 0) :
  ¬ OnCurve E 0 0
  := by
  intro hcurve
  rw [OnCurve, zero_pow two_ne_zero, zero_pow three_ne_zero, mul_zero, zero_add, zero_add] at hcurve
  exact h hcurve.symm

/-- Words stand for a point exactly when they are its words. -/
theorem G1Point.decode_eq_some {p : G1Point} {P : G1} :
  p.decode = some P ↔ G1Point.encode P = p
  := by
  simp only [G1Point.decode, Option.bind_eq_bind, Option.bind_eq_some_iff, coordinate_eq_some]
  constructor
  · rintro ⟨x, hx, y, hy, h⟩
    have hp : p = { x := baseWord x, y := baseWord y } := by rw [hx, hy]
    split at h
    · next hzero =>
      rcases hzero with ⟨rfl, rfl⟩
      obtain rfl := Option.some.inj h
      rw [hp, baseWord_zero]
      rfl
    · split at h
      · obtain rfl := Option.some.inj h
        rw [hp]
        rfl
      · cases h
  · rintro rfl
    cases P with
    | zero => exact ⟨0, baseWord_zero, 0, baseWord_zero, if_pos ⟨rfl, rfl⟩⟩
    | some x y hxy =>
      have hcurve := nonsingular_iff.mp hxy
      have hzero : ¬ (x = 0 ∧ y = 0) := by
        rintro ⟨rfl, rfl⟩
        exact not_onCurve_zero (by decide +kernel) hcurve
      refine ⟨x, rfl, y, rfl, ?_⟩
      rw [if_neg hzero, dif_pos hcurve]
      rfl

/-- Words stand for a point of the subgroup exactly when they are its words. -/
theorem G2Point.decode_eq_some {p : G2Point} {P : G2} :
  p.decode = some P ↔ G2Point.encode P = p
  := by
  simp only [G2Point.decode, Option.bind_eq_bind, Option.bind_eq_some_iff, coordinate_eq_some]
  constructor
  · rintro ⟨xRe, hxRe, xIm, hxIm, yRe, hyRe, yIm, hyIm, h⟩
    have hp : p = { x := (baseWord xRe, baseWord xIm), y := (baseWord yRe, baseWord yIm) } := by
      rw [hxRe, hxIm, hyRe, hyIm]
    split at h
    · next hzero =>
      rw [QuadraticAlgebra.ext_iff, QuadraticAlgebra.ext_iff] at hzero
      rcases hzero with ⟨⟨rfl, rfl⟩, rfl, rfl⟩
      obtain rfl := Option.some.inj h
      rw [hp, QuadraticAlgebra.re_zero, QuadraticAlgebra.im_zero, baseWord_zero]
      rfl
    · split at h
      · split at h
        · obtain rfl := Option.some.inj h
          rw [hp]
          rfl
        · cases h
      · cases h
  · obtain ⟨P, hP⟩ := P
    rintro rfl
    cases P with
    | zero =>
      exact ⟨0, baseWord_zero, 0, baseWord_zero, 0, baseWord_zero, 0, baseWord_zero,
        if_pos ⟨rfl, rfl⟩⟩
    | some x y hxy =>
      have hcurve := nonsingular_iff.mp hxy
      have hzero : ¬ (x = 0 ∧ y = 0) := by
        rintro ⟨rfl, rfl⟩
        exact not_onCurve_zero (by decide +kernel) hcurve
      refine ⟨x.re, rfl, x.im, rfl, y.re, rfl, y.im, rfl, ?_⟩
      have hmem : fieldModulus • Point.ofOnCurve hcurve = 0 := hP
      rw [if_neg hzero, dif_pos hcurve, dif_pos hmem]
      rfl

/-! ### Negation -/

/-- The word that the contract computes for a coordinate is that of its opposite. -/
theorem baseWord_neg {y : Fq} (hy : y ≠ 0) :
  baseWord (-y) = BASE_MODULUS - baseWord y % BASE_MODULUS
  := by
  have hmodulus : BASE_MODULUS.toNat = baseModulus := rfl
  have hmod : (baseWord y % BASE_MODULUS).toNat = y.val := by
    rw [BitVec.toNat_umod, baseWord_toNat, hmodulus, Nat.mod_eq_of_lt (ZMod.val_lt y)]
  have hle : baseWord y % BASE_MODULUS ≤ BASE_MODULUS := by
    rw [BitVec.le_def, hmod, hmodulus]
    exact (ZMod.val_lt y).le
  apply BitVec.eq_of_toNat_eq
  rw [baseWord_toNat, BitVec.toNat_sub_of_le hle, hmod, hmodulus, ZMod.neg_val, if_neg hy]

theorem negate_baseWord (x : U256) {y : Fq} (hy : y ≠ 0) :
  negate { x, y := baseWord y } = { x, y := baseWord (-y) }
  := by
  have hword : ¬ (x = 0 ∧ baseWord y = 0) := by
    rintro ⟨-, hzero⟩
    rw [← baseWord_zero] at hzero
    exact hy (baseWord_inj.mp hzero)
  rw [negate, if_neg hword, baseWord_neg hy]

theorem negate_encode (P : G1) :
  negate (G1Point.encode P) = G1Point.encode (-P)
  := by
  cases P with
  | zero => rfl
  | some x y hxy =>
    rw [WeierstrassCurve.Affine.Point.neg_some, G1Point.encode, G1Point.encode, negY_eq]
    exact negate_baseWord _ (y_ne_zero (nonsingular_iff.mp hxy))

/-- What the contract makes of reduced words are the words of a point only when it was given the
words of the opposite. -/
theorem encode_neg_of_negate {p : G1Point} {Q : G1} (hy : p.y.toNat < baseModulus)
    (h : G1Point.encode Q = negate p) :
  G1Point.encode (-Q) = p
  := by
  rcases p with ⟨x, w⟩
  obtain ⟨y, rfl⟩ : ∃ y, baseWord y = w := ⟨w.toNat, coordinate_eq_some.mp (if_pos hy)⟩
  rw [← negate_encode, h]
  by_cases hzero : y = 0
  · subst hzero
    rw [baseWord_zero] at h ⊢
    by_cases hx : x = 0
    · have hnegate : negate { x := 0, y := 0 } = { x := 0, y := 0 } := if_pos ⟨rfl, rfl⟩
      rw [hx]
      exact (congrArg negate hnegate).trans hnegate
    · -- the modulus is not the word of a coordinate
      have hmodulus : BASE_MODULUS - (0 : U256) % BASE_MODULUS = BASE_MODULUS := by decide
      have hnegate : negate { x, y := 0 } = { x, y := BASE_MODULUS } := by
        rw [negate, if_neg fun hzero => hx hzero.1, hmodulus]
      rw [hnegate] at h
      cases Q with
      | zero =>
        have hword : (0 : U256) = BASE_MODULUS := congrArg G1Point.y h
        exact absurd hword (by decide)
      | some x' y' hxy =>
        have hword : baseWord y' = BASE_MODULUS := congrArg G1Point.y h
        have hlt := ZMod.val_lt y'
        rw [← baseWord_toNat, hword] at hlt
        exact absurd hlt (lt_irrefl _)
  · rw [negate_baseWord x hzero, negate_baseWord x (neg_ne_zero.mpr hzero), neg_neg]

/-- The contract negates points, and makes none of words that do not stand for one. -/
theorem decode_negate {p : G1Point} (hy : p.y.toNat < baseModulus) :
  (negate p).decode = p.decode.map fun P => -P
  := by
  ext Q
  rw [Option.map_eq_some_iff, G1Point.decode_eq_some]
  constructor
  · intro h
    exact ⟨-Q, G1Point.decode_eq_some.mpr (encode_neg_of_negate hy h), neg_neg Q⟩
  · rintro ⟨P, hP, rfl⟩
    rw [G1Point.decode_eq_some] at hP
    rw [← negate_encode, hP]

/-! ### The contracts -/

variable {T : Type} [AddCommGroup T]

/-- The value of the pairing on the points that a pair of words stands for. -/
def pairValue (e : G1 →+ G2 →+ T) (pair : G1Point × G2Point) : Option T := do
  let P ← pair.1.decode
  let Q ← pair.2.decode
  some (e P Q)

open Classical in
/-- The precompiled contracts add and multiply points of the first group and check whether a
product of pairings is one, and fail on words that do not stand for points. -/
structure Precompiles.Implements (pre : Precompiles) (e : G1 →+ G2 →+ T) : Prop where
  ecAdd : ∀ a b, pre.ecAdd a b = do
    let P ← a.decode
    let Q ← b.decode
    some (G1Point.encode (P + Q))
  ecMul : ∀ a s, pre.ecMul a s = do
    let P ← a.decode
    some (G1Point.encode (s.toNat • P))
  ecPairing : ∀ pairs : List (G1Point × G2Point),
    pre.ecPairing (pairs.flatMap fun pair => writePair pair.1 pair.2) = do
      let values ← pairs.mapM (pairValue e)
      some (if values.sum = 0 then 1 else 0)

variable {pre : Precompiles} {e : G1 →+ G2 →+ T} {n : ℕ} {vk : VerifyingKey n}
  {key : Pairing.VerifyingKey G1 G2 n} {values : Fin n → U256}

/-- The words of the contract stand for the points of a verifying key. -/
structure VerifyingKey.Encodes (vk : VerifyingKey n) (key : Pairing.VerifyingKey G1 G2 n) :
    Prop where
  alpha : vk.alpha = G1Point.encode key.alpha
  beta : vk.beta = G2Point.encode key.beta
  gamma : vk.gamma = G2Point.encode key.gamma
  delta : vk.delta = G2Point.encode key.delta
  ic : ∀ i, vk.ic i = G1Point.encode (key.ic i)

theorem decode_encode (P : G1) :
  (G1Point.encode P).decode = some P
  := G1Point.decode_eq_some.mpr rfl

/-- One round of the loop adds the multiple of a point of the verifying key. -/
theorem foldInput_encode (himplements : pre.Implements e) (hkey : vk.Encodes key) (P : G1)
    (i : Fin n) :
  foldInput pre vk values (G1Point.encode P) i
    = if (values i).toNat < fieldModulus then
        some (G1Point.encode (P + (values i).toNat • key.ic i.succ))
      else none
  := by
  rw [foldInput, himplements.ecMul, hkey.ic, decode_encode]
  by_cases hlt : (values i).toNat < fieldModulus
  · rw [if_neg (not_le.mpr hlt), if_pos hlt]
    show pre.ecAdd _ _ = _
    rw [himplements.ecAdd, decode_encode, decode_encode]
    rfl
  · rw [if_pos (not_lt.mp hlt), if_neg hlt]

/-- The loop goes through exactly when all values are reduced, and then it has folded them. -/
theorem foldlM_foldInput (himplements : pre.Implements e) (hkey : vk.Encodes key)
    {is : List (Fin n)} {P : G1} {accumulator : G1Point} :
  is.foldlM (foldInput pre vk values) (G1Point.encode P) = some accumulator
    ↔ (∀ i ∈ is, (values i).toNat < fieldModulus)
      ∧ accumulator = G1Point.encode
        (is.foldl (fun P i => P + (values i).toNat • key.ic i.succ) P)
  := by
  induction is generalizing P with
  | nil =>
    rw [List.foldlM_nil, List.foldl_nil]
    simp only [List.not_mem_nil, false_imp_iff, implies_true, true_and]
    exact ⟨fun h => (Option.some.inj h).symm, fun h => congrArg some h.symm⟩
  | cons i is ih =>
    rw [List.foldlM_cons, foldInput_encode himplements hkey, List.forall_mem_cons,
      List.foldl_cons]
    by_cases hlt : (values i).toNat < fieldModulus
    · rw [if_pos hlt, and_iff_right hlt, ← ih]
      rfl
    · rw [if_neg hlt]
      constructor
      · intro h
        cases h
      · rintro ⟨⟨h, -⟩, -⟩
        exact absurd h hlt

/-- The check of pairings passes exactly when all words stand for points and the product is
one. -/
theorem pairing_eq_true (himplements : pre.Implements e) {pairs : List (G1Point × G2Point)} :
  pairing pre pairs = true ↔ ∃ values, pairs.mapM (pairValue e) = some values ∧ values.sum = 0
  := by
  rw [pairing, himplements.ecPairing, beq_iff_eq, Option.bind_eq_bind, Option.bind_eq_some_iff]
  apply exists_congr
  intro values
  apply and_congr_right
  intro _
  split
  · next hsum => exact ⟨fun _ => hsum, fun _ => rfl⟩
  · next hsum =>
    constructor
    · intro h
      exact absurd (Option.some.inj h) (by decide)
    · intro h
      exact absurd h hsum

/-- With these contracts the adapter accepts exactly the words of points that satisfy the
equation, for reduced values. -/
theorem verify_eq_true (himplements : pre.Implements e) (hkey : vk.Encodes key) {proof : Proof}
    (hy : proof.a.y.toNat < baseModulus) :
  verify pre vk values proof = true
    ↔ (∀ i, (values i).toNat < fieldModulus)
      ∧ ∃ p : Pairing.Proof G1 G2, proof.a.decode = some p.a ∧ proof.b.decode = some p.b
        ∧ proof.c.decode = some p.c ∧ key.Accepts e (fun i => (values i).toNat) p
  := by
  have hbeta : vk.beta.decode = some key.beta := G2Point.decode_eq_some.mpr hkey.beta.symm
  have hgamma : vk.gamma.decode = some key.gamma := G2Point.decode_eq_some.mpr hkey.gamma.symm
  have hdelta : vk.delta.decode = some key.delta := G2Point.decode_eq_some.mpr hkey.delta.symm
  have hfold : ∀ accumulator, (List.finRange n).foldlM (foldInput pre vk values) (vk.ic 0)
      = some accumulator ↔ (∀ i, (values i).toNat < fieldModulus)
        ∧ accumulator = G1Point.encode (key.prepareInputs fun i => (values i).toNat) := by
    intro accumulator
    rw [hkey.ic, foldlM_foldInput himplements hkey, ← Pairing.VerifyingKey.foldl_ic]
    simp only [List.mem_finRange, forall_const]
  have hequation : pairing pre
      [(negate proof.a, proof.b), (vk.alpha, vk.beta),
        (G1Point.encode (key.prepareInputs fun i => (values i).toNat), vk.gamma),
        (proof.c, vk.delta)] = true
      ↔ ∃ p : Pairing.Proof G1 G2, proof.a.decode = some p.a ∧ proof.b.decode = some p.b
        ∧ proof.c.decode = some p.c ∧ key.Accepts e (fun i => (values i).toNat) p := by
    simp only [pairing_eq_true himplements, Pairing.VerifyingKey.accepts_iff,
      Pairing.VerifyingKey.pairs, List.mapM_cons, List.mapM_nil, pairValue, decode_negate hy,
      hkey.alpha, hbeta, hgamma, hdelta, decode_encode, Option.bind_eq_bind, Option.bind_some,
      Option.bind_eq_some_iff, Option.map_eq_some_iff, Option.pure_def, Option.some.injEq,
      List.map_cons, List.map_nil]
    constructor
    · rintro ⟨_, ⟨_, ⟨_, ⟨a, ha, rfl⟩, b, hb, rfl⟩, _, ⟨_, ⟨_, ⟨_, ⟨c, hc, rfl⟩, rfl⟩, rfl⟩,
        rfl⟩, rfl⟩, hsum⟩
      exact ⟨⟨a, b, c⟩, ha, hb, hc, hsum⟩
    · rintro ⟨p, ha, hb, hc, hsum⟩
      exact ⟨_, ⟨_, ⟨_, ⟨p.a, ha, rfl⟩, p.b, hb, rfl⟩, _, ⟨_, ⟨_, ⟨_, ⟨p.c, hc, rfl⟩, rfl⟩, rfl⟩,
        rfl⟩, rfl⟩, hsum⟩
  rw [verify]
  split
  · next hnone =>
    constructor
    · intro h
      cases h
    · rintro ⟨hlt, -⟩
      rw [(hfold _).mpr ⟨hlt, rfl⟩] at hnone
      cases hnone
  · next accumulator hsome =>
    obtain ⟨hlt, rfl⟩ := (hfold _).mp hsome
    rw [hequation, and_iff_right hlt]

/-! ### Proofs -/

/-- The points that the words of a proof are taken for. -/
def proofOfWords (encoded : Bytes) : Proof where
  a := { x := proofWord encoded 0, y := proofWord encoded 1 }
  b :=
    { x := (proofWord encoded 2, proofWord encoded 3)
      y := (proofWord encoded 4, proofWord encoded 5) }
  c := { x := proofWord encoded 6, y := proofWord encoded 7 }

theorem decodeProof_eq_some {encoded : Bytes} {proof : Proof} :
  decodeProof encoded = some proof
    ↔ encoded.length = 256 ∧ (∀ i < 8, (proofWord encoded i).toNat < baseModulus)
      ∧ proofOfWords encoded = proof
  := by
  have hmodulus : BASE_MODULUS.toNat = baseModulus := rfl
  rw [decodeProof, Option.ite_none_left_eq_some, Option.ite_none_left_eq_some, not_not, not_not,
    Option.some.injEq, hmodulus]
  simp only [List.mem_range]
  rfl

theorem G1Point.lt_of_decode {p : G1Point} {P : G1} (h : p.decode = some P) :
  p.x.toNat < baseModulus ∧ p.y.toNat < baseModulus
  := by
  rw [G1Point.decode_eq_some] at h
  subst h
  cases P with
  | zero => decide
  | some x y hxy =>
    rw [encode, baseWord_toNat, baseWord_toNat]
    exact ⟨ZMod.val_lt x, ZMod.val_lt y⟩

theorem G2Point.lt_of_decode {p : G2Point} {P : G2} (h : p.decode = some P) :
  p.x.1.toNat < baseModulus ∧ p.x.2.toNat < baseModulus ∧ p.y.1.toNat < baseModulus
    ∧ p.y.2.toNat < baseModulus
  := by
  rw [G2Point.decode_eq_some] at h
  subst h
  obtain ⟨P, hP⟩ := P
  cases P with
  | zero =>
    have hpos : (0 : U256).toNat < baseModulus := by decide
    exact ⟨hpos, hpos, hpos, hpos⟩
  | some x y hxy =>
    simp only [encode, baseWord_toNat]
    exact ⟨ZMod.val_lt _, ZMod.val_lt _, ZMod.val_lt _, ZMod.val_lt _⟩

/-- With these contracts the adapter accepts exactly the 256 bytes whose words stand for points
that satisfy the equation, for reduced values. -/
theorem assertValid_iff (himplements : pre.Implements e) (hkey : vk.Encodes key)
    {encoded : Bytes} :
  assertValid pre vk values encoded = true
    ↔ encoded.length = 256 ∧ (∀ i, (values i).toNat < fieldModulus)
      ∧ ∃ p : Pairing.Proof G1 G2, (proofOfWords encoded).a.decode = some p.a
        ∧ (proofOfWords encoded).b.decode = some p.b ∧ (proofOfWords encoded).c.decode = some p.c
        ∧ key.Accepts e (fun i => (values i).toNat) p
  := by
  have hvalid : assertValid pre vk values encoded = true
      ↔ ∃ proof, decodeProof encoded = some proof ∧ verify pre vk values proof = true := by
    rw [assertValid]
    cases decodeProof encoded with
    | none => simp
    | some proof => simp
  rw [hvalid]
  simp only [decodeProof_eq_some]
  constructor
  · rintro ⟨proof, ⟨hlength, hwords, rfl⟩, hverify⟩
    rw [verify_eq_true himplements hkey (hwords 1 (by norm_num))] at hverify
    exact ⟨hlength, hverify⟩
  · rintro ⟨hlength, hlt, p, ha, hb, hc, haccepts⟩
    obtain ⟨h0, h1⟩ := G1Point.lt_of_decode ha
    obtain ⟨h2, h3, h4, h5⟩ := G2Point.lt_of_decode hb
    obtain ⟨h6, h7⟩ := G1Point.lt_of_decode hc
    refine ⟨_, ⟨hlength, ?_, rfl⟩, ?_⟩
    · intro i hi
      interval_cases i <;> assumption
    · exact (verify_eq_true himplements hkey h1).mpr ⟨hlt, p, ha, hb, hc, haccepts⟩

end ZkApi.Vault.Groth16
