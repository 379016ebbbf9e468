import ZkApi.Bn254
import ZkApi.Library.Base64
import ZkApi.Types.Wire

/-!
# Groth16 proofs on the wire

A proof is three points, whose eight coordinates are written as bytes and then in base64.  What
is decoded is checked to be canonical and to consist of finite points of the right order, so
that every proof has one encoding.
-/

namespace ZkApi.Compact

open Bn254 Framing

/-- `Proof`. -/
structure Proof where
  a : G1Affine
  b : G2Affine
  c : G1Affine
  deriving DecidableEq

/-! ### Encoding -/

/-- `prime_field_bytes`. -/
def primeFieldBytes (value : Fq) : List UInt8 :=
  beBytes 32 value.val

/-- The coordinates of a proof, in the order of the wire. -/
def Proof.coordinates (proof : Proof) : List Fq :=
  [proof.a.x, proof.a.y, proof.b.x.re, proof.b.x.im, proof.b.y.re, proof.b.y.im, proof.c.x,
    proof.c.y]

/-- `proof_to_wire`. -/
def proofToWire (engine : Base64.Engine) (proof : Proof) : Groth16ProofWire where
  backend := .groth16Bn254
  proof := engine.encode (proof.coordinates.flatMap primeFieldBytes)

/-! ### Decoding -/

/-- `canonical_fq`. -/
def canonicalFq (bytes : List UInt8) : Except Failure Fq := do
  let value : Fq := Digits.ofDigits 256 (bytes.map UInt8.toNat)
  failIf (primeFieldBytes value ≠ bytes) (.message "non-canonical BN254 base-field coordinate")
  return value

/-- The points of a proof are finite, on their curves, and of the right order. -/
structure Proof.Valid (proof : Proof) : Prop where
  a_finite : proof.a.infinity = false
  a_onCurve : proof.a.IsOnCurve g1Config
  a_inSubgroup : proof.a.IsInCorrectSubgroupAssumingOnCurve g1Config
  b_finite : proof.b.infinity = false
  b_onCurve : proof.b.IsOnCurve g2Config
  b_inSubgroup : proof.b.IsInCorrectSubgroupAssumingOnCurve g2Config
  c_finite : proof.c.infinity = false
  c_onCurve : proof.c.IsOnCurve g1Config
  c_inSubgroup : proof.c.IsInCorrectSubgroupAssumingOnCurve g1Config

/-- The points that `proof_from_wire` makes of eight coordinates. -/
def proofOfCoordinates (coordinates : List Fq) : Except Failure Proof :=
  match coordinates with
  | [ax, ay, bx0, bx1, by0, by1, cx, cy] => do
    let a := Affine.newUnchecked ax ay
    let b := Affine.newUnchecked (⟨bx0, bx1⟩ : Fq2) ⟨by0, by1⟩
    let c := Affine.newUnchecked cx cy
    failIf (¬ a.IsOnCurve g1Config ∨ ¬ a.IsInCorrectSubgroupAssumingOnCurve g1Config
        ∨ ¬ b.IsOnCurve g2Config ∨ ¬ b.IsInCorrectSubgroupAssumingOnCurve g2Config
        ∨ ¬ c.IsOnCurve g1Config ∨ ¬ c.IsInCorrectSubgroupAssumingOnCurve g1Config)
      (.message "Groth16 proof contains an invalid curve point")
    return { a, b, c }
  | _ => .error .panic

/-- `context`, an error with a text in place of nothing. -/
def context {α : Type} (text : String) (x : Option α) : Except Failure α :=
  match x with
  | some a => .ok a
  | none => .error (.message text)

/-- `proof_from_wire`. -/
def proofFromWire (engine : Base64.Engine) (proof : Groth16ProofWire) : Except Failure Proof := do
  let bytes ← context "decode Groth16 proof base64" (engine.decode proof.proof)
  failIf (bytes.length ≠ 256) (.message "Groth16 proof must contain eight 32-byte coordinates")
  let coordinates ← ((List.range 8).map (chunk 32 bytes)).mapM canonicalFq
  proofOfCoordinates coordinates

/-! ### One encoding for every proof -/

theorem context_eq_ok {α : Type} {text : String} {x : Option α} {a : α} :
  context text x = .ok a ↔ x = some a
  := by
  cases x <;> simp [context]

theorem length_primeFieldBytes (value : Fq) :
  (primeFieldBytes value).length = 32
  := length_beBytes _ _

/-- A coordinate is decoded exactly from its bytes. -/
theorem canonicalFq_eq_ok {bytes : List UInt8} {value : Fq} :
  canonicalFq bytes = .ok value ↔ primeFieldBytes value = bytes
  := by
  have hlt : value.val < 256 ^ 32 :=
    (ZMod.val_lt value).trans (by decide)
  simp only [canonicalFq, bind_eq_ok, failIf_eq_ok, not_not, exists_const, pure, Except.pure,
    Except.ok.injEq]
  constructor
  · rintro ⟨hbytes, rfl⟩
    exact hbytes
  · rintro rfl
    have hvalue : (Digits.ofDigits 256 ((primeFieldBytes value).map UInt8.toNat) : Fq) = value := by
      rw [primeFieldBytes, map_toNat_beBytes, Digits.ofDigits_toDigits hlt, ZMod.natCast_zmod_val]
    rw [hvalue]
    exact ⟨rfl, rfl⟩

theorem mapM_canonicalFq_eq_ok {chunks : List (List UInt8)} {coordinates : List Fq} :
  chunks.mapM canonicalFq = .ok coordinates ↔ coordinates.map primeFieldBytes = chunks
  := by
  induction chunks generalizing coordinates with
  | nil =>
    rw [List.mapM_nil, List.map_eq_nil_iff]
    constructor
    · intro h
      exact (Except.ok.inj h).symm
    · rintro rfl
      rfl
  | cons bytes chunks ih =>
    simp only [List.mapM_cons, bind_eq_ok, canonicalFq_eq_ok, ih, pure, Except.pure,
      Except.ok.injEq, List.map_eq_cons_iff]
    constructor
    · rintro ⟨value, hvalue, values, hvalues, rfl⟩
      exact ⟨value, values, rfl, hvalue, hvalues⟩
    · rintro ⟨value, values, rfl, hvalue, hvalues⟩
      exact ⟨value, hvalue, values, hvalues, rfl⟩

/-- Eight coordinates are written to the chunks that make up the bytes. -/
theorem map_primeFieldBytes_eq_iff {bytes : List UInt8} {coordinates : List Fq} :
  bytes.length = 256 ∧ coordinates.map primeFieldBytes = (List.range 8).map (chunk 32 bytes)
    ↔ coordinates.length = 8 ∧ coordinates.flatMap primeFieldBytes = bytes
  := by
  constructor
  · rintro ⟨hlen, h⟩
    constructor
    · have hcount := congrArg List.length h
      rwa [List.length_map, List.length_map, List.length_range] at hcount
    · rw [List.flatMap_def, h, ← List.flatMap_def]
      exact flatMap_chunk 32 hlen
  · rintro ⟨hcount, rfl⟩
    constructor
    · rw [length_flatMap_of_width fun value _ => length_primeFieldBytes value, hcount]
    · apply List.ext_getElem
      · rw [List.length_map, List.length_map, List.length_range, hcount]
      · intro i hi _
        rw [List.length_map] at hi
        rw [List.getElem_map, List.getElem_map, List.getElem_range,
          chunk_flatMap (fun value _ => length_primeFieldBytes value) hi]

/-- The coordinates of a valid proof are accepted, and no others. -/
theorem proofOfCoordinates_eq_ok {coordinates : List Fq} {proof : Proof} :
  proofOfCoordinates coordinates = .ok proof ↔ proof.coordinates = coordinates ∧ proof.Valid
  := by
  constructor
  · intro h
    unfold proofOfCoordinates at h
    split at h
    · simp only [bind_eq_ok, failIf_eq_ok, not_or, not_not, exists_const, pure, Except.pure,
        Except.ok.injEq] at h
      obtain ⟨⟨ha, ha', hb, hb', hc, hc'⟩, rfl⟩ := h
      exact ⟨rfl, rfl, ha, ha', rfl, hb, hb', rfl, hc, hc'⟩
    · cases h
  · obtain ⟨⟨ax, ay, _⟩, ⟨bx, bY, _⟩, ⟨cx, cy, _⟩⟩ := proof
    rintro ⟨rfl, hvalid⟩
    obtain rfl := hvalid.a_finite
    obtain rfl := hvalid.b_finite
    obtain rfl := hvalid.c_finite
    have hinvalid : ¬ (¬ (Affine.newUnchecked ax ay).IsOnCurve g1Config
        ∨ ¬ (Affine.newUnchecked ax ay).IsInCorrectSubgroupAssumingOnCurve g1Config
        ∨ ¬ (Affine.newUnchecked bx bY).IsOnCurve g2Config
        ∨ ¬ (Affine.newUnchecked bx bY).IsInCorrectSubgroupAssumingOnCurve g2Config
        ∨ ¬ (Affine.newUnchecked cx cy).IsOnCurve g1Config
        ∨ ¬ (Affine.newUnchecked cx cy).IsInCorrectSubgroupAssumingOnCurve g1Config) := by
      simp only [not_or, not_not]
      exact ⟨hvalid.a_onCurve, hvalid.a_inSubgroup, hvalid.b_onCurve, hvalid.b_inSubgroup,
        hvalid.c_onCurve, hvalid.c_inSubgroup⟩
    show (failIf _ _ >>= fun _ => _) = _
    rw [failIf, if_neg hinvalid]
    rfl

/-- What is decoded is what a valid proof is encoded to. -/
theorem proofFromWire_eq_ok {engine : Base64.Engine} {wire : Groth16ProofWire} {proof : Proof} :
  proofFromWire engine wire = .ok proof
    ↔ engine.encode (proof.coordinates.flatMap primeFieldBytes) = wire.proof ∧ proof.Valid
  := by
  simp only [proofFromWire, bind_eq_ok, context_eq_ok, engine.decode_eq_some_iff, failIf_eq_ok,
    not_not, exists_const, mapM_canonicalFq_eq_ok, proofOfCoordinates_eq_ok]
  constructor
  · rintro ⟨bytes, hdecode, hlen, _, hchunks, rfl, hvalid⟩
    obtain ⟨_, hbytes⟩ := map_primeFieldBytes_eq_iff.mp ⟨hlen, hchunks⟩
    rw [hbytes]
    exact ⟨hdecode, hvalid⟩
  · rintro ⟨hwire, hvalid⟩
    obtain ⟨hlen, hchunks⟩ := map_primeFieldBytes_eq_iff.mpr
      ⟨rfl, (rfl : proof.coordinates.flatMap primeFieldBytes = _)⟩
    exact ⟨_, hwire, hlen, _, hchunks, rfl, hvalid⟩

/-! ### What is accepted -/

/-- The number that the bytes of a coordinate spell. -/
def coordinateAt (bytes : List UInt8) (i : ℕ) : ℕ :=
  Digits.ofDigits 256 ((chunk 32 bytes i).map UInt8.toNat)

/-- The points whose coordinates are spelled. -/
def proofAt (bytes : List UInt8) : Proof where
  a := .newUnchecked (coordinateAt bytes 0) (coordinateAt bytes 1)
  b := .newUnchecked ⟨coordinateAt bytes 2, coordinateAt bytes 3⟩
    ⟨coordinateAt bytes 4, coordinateAt bytes 5⟩
  c := .newUnchecked (coordinateAt bytes 6) (coordinateAt bytes 7)

/-- Bytes spell a valid proof: eight reduced coordinates of finite points that are on their curves
and of the right order. -/
structure SpellsProof (bytes : List UInt8) : Prop where
  length : bytes.length = 256
  reduced : ∀ i < 8, coordinateAt bytes i < baseModulus
  valid : (proofAt bytes).Valid

/-- The bytes of a coordinate are those that spell it, reduced. -/
theorem primeFieldBytes_eq_iff {bytes : List UInt8} (hlen : bytes.length = 32) {value : Fq} :
  primeFieldBytes value = bytes
    ↔ Digits.ofDigits 256 (bytes.map UInt8.toNat) < baseModulus
      ∧ (Digits.ofDigits 256 (bytes.map UInt8.toNat) : Fq) = value
  := by
  have hlt : value.val < 256 ^ 32 := (ZMod.val_lt value).trans (by decide)
  constructor
  · rintro rfl
    rw [primeFieldBytes, map_toNat_beBytes, Digits.ofDigits_toDigits hlt]
    exact ⟨ZMod.val_lt value, ZMod.natCast_zmod_val value⟩
  · rintro ⟨hreduced, rfl⟩
    rw [primeFieldBytes, ZMod.val_natCast, Nat.mod_eq_of_lt hreduced]
    exact beBytes_ofDigits hlen

theorem proofAt_eq_iff {bytes : List UInt8} {proof : Proof} (hvalid : proof.Valid) :
  proofAt bytes = proof
    ↔ (List.range 8).map (fun i => (coordinateAt bytes i : Fq)) = proof.coordinates
  := by
  obtain ⟨⟨ax, ay, _⟩, ⟨⟨bx0, bx1⟩, ⟨by0, by1⟩, _⟩, ⟨cx, cy, _⟩⟩ := proof
  obtain rfl := hvalid.a_finite
  obtain rfl := hvalid.b_finite
  obtain rfl := hvalid.c_finite
  simp only [proofAt, Affine.newUnchecked, Proof.coordinates, List.range_succ, List.range_zero,
    List.map_nil, List.map_cons, List.nil_append, List.cons_append,
    Proof.mk.injEq, Affine.mk.injEq, QuadraticAlgebra.mk.injEq, List.cons.injEq, and_true,
    and_assoc]

theorem map_primeFieldBytes_eq_range {bytes : List UInt8} (hlen : bytes.length = 256)
    {coordinates : List Fq} (hcount : coordinates.length = 8) :
  coordinates.map primeFieldBytes = (List.range 8).map (chunk 32 bytes)
    ↔ (∀ i < 8, coordinateAt bytes i < baseModulus)
      ∧ (List.range 8).map (fun i => (coordinateAt bytes i : Fq)) = coordinates
  := by
  have hchunk : ∀ i < 8, (chunk 32 bytes i).length = 32 := by
    intro i hi
    rw [chunk, List.length_take, List.length_drop]
    omega
  constructor
  · intro h
    have hspelled : ∀ i (hi : i < coordinates.length), coordinateAt bytes i < baseModulus
        ∧ (coordinateAt bytes i : Fq) = coordinates[i] := by
      intro i hi
      rw [coordinateAt, ← primeFieldBytes_eq_iff (hchunk i (hcount ▸ hi))]
      have hi' : i < (coordinates.map primeFieldBytes).length := by rwa [List.length_map]
      have hget := List.getElem_of_eq h hi'
      rwa [List.getElem_map, List.getElem_map, List.getElem_range] at hget
    constructor
    · intro i hi
      exact (hspelled i (hcount ▸ hi)).1
    · apply List.ext_getElem
      · rw [List.length_map, List.length_range, hcount]
      · intro i _ hi
        rw [List.getElem_map, List.getElem_range]
        exact (hspelled i hi).2
  · rintro ⟨hreduced, rfl⟩
    rw [List.map_map]
    apply List.map_congr_left
    intro i hi
    have hi := List.mem_range.mp hi
    rw [Function.comp_apply, primeFieldBytes_eq_iff (hchunk i hi)]
    exact ⟨hreduced i hi, rfl⟩

/-- Eight coordinates are written to the bytes that spell them, reduced. -/
theorem flatMap_primeFieldBytes_eq_iff {bytes : List UInt8} {proof : Proof} (hvalid : proof.Valid) :
  proof.coordinates.flatMap primeFieldBytes = bytes
    ↔ bytes.length = 256 ∧ (∀ i < 8, coordinateAt bytes i < baseModulus) ∧ proofAt bytes = proof
  := by
  have hcount : proof.coordinates.length = 8 := rfl
  have hwritten := @map_primeFieldBytes_eq_iff bytes proof.coordinates
  rw [and_iff_right hcount] at hwritten
  rw [← hwritten, proofAt_eq_iff hvalid, and_congr_right_iff]
  intro hlen
  exact map_primeFieldBytes_eq_range hlen hcount

/-- The codec is a bijection between the valid proofs and the texts that are accepted, which are
the encodings of the bytes that spell a valid proof. -/
theorem proof_codec (engine : Base64.Engine) :
  (∀ proof : Proof, proof.Valid → proofFromWire engine (proofToWire engine proof) = .ok proof)
    ∧ (∀ wire proof, proofFromWire engine wire = .ok proof →
      proof.Valid ∧ wire.proof = (proofToWire engine proof).proof)
    ∧ ∀ wire, (∃ proof, proofFromWire engine wire = .ok proof)
      ↔ ∃ bytes, engine.decode wire.proof = some bytes ∧ SpellsProof bytes
  := by
  refine ⟨?_, ?_, ?_⟩
  · intro proof hvalid
    exact proofFromWire_eq_ok.mpr ⟨rfl, hvalid⟩
  · intro wire proof h
    obtain ⟨hwire, hvalid⟩ := proofFromWire_eq_ok.mp h
    exact ⟨hvalid, hwire.symm⟩
  · intro wire
    simp only [proofFromWire_eq_ok, engine.decode_eq_some_iff]
    constructor
    · rintro ⟨proof, hwire, hvalid⟩
      obtain ⟨hlength, hreduced, hproof⟩ := (flatMap_primeFieldBytes_eq_iff hvalid).mp rfl
      rw [← hproof] at hvalid
      exact ⟨_, hwire, hlength, hreduced, hvalid⟩
    · rintro ⟨bytes, hwire, hlength, hreduced, hvalid⟩
      have hbytes := (flatMap_primeFieldBytes_eq_iff hvalid).mpr ⟨hlength, hreduced, rfl⟩
      rw [← hbytes] at hwire
      exact ⟨_, hwire, hvalid⟩

namespace GeneratorExample

/-- A proof made of the generators and of the inverse of one. -/
def proof : Proof where
  a := g1Generator
  b := g2Generator
  c := .newUnchecked 1 (-(2 : ℕ))

theorem proof_valid :
  proof.Valid
  where
  a_finite := rfl
  a_onCurve _ := g1Generator_onCurve
  a_inSubgroup := g1_annihilated _
  b_finite := rfl
  b_onCurve _ := g2Generator_onCurve
  b_inSubgroup := by
    have hpoint := Affine.toPoint_newUnchecked g2Generator_onCurve
    exact (congrArg (fieldModulus • ·) hpoint).trans g2Generator_annihilated
  c_finite := rfl
  c_onCurve _ := (by decide +kernel : ShortWeierstrass.OnCurve g1Config 1 (-(2 : ℕ)))
  c_inSubgroup := g1_annihilated _

theorem proofFromWire_proofToWire :
  proofFromWire Base64.standard (proofToWire Base64.standard proof) = .ok proof
  := (proof_codec Base64.standard).1 proof proof_valid

end GeneratorExample

end ZkApi.Compact
