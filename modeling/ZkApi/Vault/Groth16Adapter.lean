import Mathlib.Data.Fin.VecNotation
import ZkApi.Library.Digits
import ZkApi.Vault.Contract

/-!
# The Groth16 proof adapter

The contract `Groth16ProofAdapter`: the public inputs are laid out as field elements, the
proof is decoded from its 256 bytes, and both go into the pairing equation of the verifying
key.  The arithmetic of the curve is done by precompiled contracts, which are a parameter;
a call of theirs that fails is `none`.  The verifying keys of the two circuits are
parameters as well.
-/

namespace ZkApi.Vault

namespace Groth16

/-- The modulus of the field that the coordinates are from. -/
def BASE_MODULUS : U256 :=
  21888242871839275222246405745257275088696311157297823662689037894645226208583

/-- A point of the first group. -/
structure G1Point where
  x : U256
  y : U256
  deriving DecidableEq

/-- A point of the second group, the real part of a coordinate before the imaginary part. -/
structure G2Point where
  x : U256 × U256
  y : U256 × U256
  deriving DecidableEq

structure Proof where
  a : G1Point
  b : G2Point
  c : G1Point
  deriving DecidableEq

/-- The verifying key of a circuit with `n` public inputs. -/
structure VerifyingKey (n : ℕ) where
  alpha : G1Point
  beta : G2Point
  gamma : G2Point
  delta : G2Point
  ic : Fin (n + 1) → G1Point

/-- The precompiled contracts 6, 7 and 8: addition and multiplication in the first group,
and the check of a product of pairings. -/
structure Precompiles where
  ecAdd : G1Point → G1Point → Option G1Point
  ecMul : G1Point → U256 → Option G1Point
  ecPairing : List U256 → Option U256

/-! ### The encoding of proofs -/

/-- The word at an offset of the proof. -/
def calldataload (encoded : Bytes) (offset : ℕ) : U256 :=
  BitVec.ofNat 256 (Digits.ofDigits 256 (((encoded.drop offset).take 32).map BitVec.toNat))

/-- One of the eight words of a proof. -/
def proofWord (encoded : Bytes) (i : ℕ) : U256 :=
  calldataload encoded (32 * i)

/-- `_decodeProof`. -/
def decodeProof (encoded : Bytes) : Option Proof :=
  if encoded.length ≠ 256 then none
  else if ¬ ∀ i ∈ List.range 8, (proofWord encoded i).toNat < BASE_MODULUS.toNat then none
  else some
    { a := { x := proofWord encoded 0, y := proofWord encoded 1 }
      b :=
        { x := (proofWord encoded 2, proofWord encoded 3)
          y := (proofWord encoded 4, proofWord encoded 5) }
      c := { x := proofWord encoded 6, y := proofWord encoded 7 } }

/-! ### The equation -/

/-- `_negate`. -/
def negate (point : G1Point) : G1Point :=
  if point.x = 0 ∧ point.y = 0 then { x := 0, y := 0 }
  else { x := point.x, y := BASE_MODULUS - point.y % BASE_MODULUS }

/-- `_writePair`: a pair is passed on with the imaginary parts first. -/
def writePair (g1 : G1Point) (g2 : G2Point) : List U256 :=
  [g1.x, g1.y, g2.x.2, g2.x.1, g2.y.2, g2.y.1]

variable (pre : Precompiles)

/-- `_pairing`. -/
def pairing (pairs : List (G1Point × G2Point)) : Bool :=
  pre.ecPairing (pairs.flatMap fun pair => writePair pair.1 pair.2) == some 1

variable {n : ℕ} (vk : VerifyingKey n) (values : Fin n → U256)

/-- One round of the loop that folds the public inputs into a point. -/
def foldInput (accumulator : G1Point) (i : Fin n) : Option G1Point :=
  if fieldModulus ≤ (values i).toNat then none
  else do
    let term ← pre.ecMul (vk.ic i.succ) (values i)
    pre.ecAdd accumulator term

/-- `_verifyRequest` and `_verifyWithdrawal`. -/
def verify (proof : Proof) : Bool :=
  match (List.finRange n).foldlM (foldInput pre vk values) (vk.ic 0) with
  | none => false
  | some accumulator =>
      pairing pre
        [(negate proof.a, proof.b), (vk.alpha, vk.beta), (accumulator, vk.gamma),
          (proof.c, vk.delta)]

/-- What the two external functions do with the values of the public inputs. -/
def assertValid (encoded : Bytes) : Bool :=
  match decodeProof encoded with
  | none => false
  | some proof => verify pre vk values proof

end Groth16

/-! ### The adapter -/

/-- The values of a request. -/
def RequestPublicInputs.values (inputs : RequestPublicInputs) : Fin 12 → U256 :=
  ![inputs.protocolVersion.setWidth 256, inputs.chainId.setWidth 256,
    inputs.contractAddress.setWidth 256, inputs.activeRoot, inputs.stateSigningKeyX,
    inputs.stateSigningKeyY, inputs.requestTime.setWidth 256,
    inputs.solvencyBound.setWidth 256, inputs.requestNullifier, inputs.authorizationTag,
    inputs.anonymousCommitmentX, inputs.anonymousCommitmentY]

/-- The values of a withdrawal. -/
def WithdrawalPublicInputs.values (inputs : WithdrawalPublicInputs) : Fin 14 → U256 :=
  ![inputs.protocolVersion.setWidth 256, inputs.chainId.setWidth 256,
    inputs.contractAddress.setWidth 256, inputs.activeRoot, inputs.stateSigningKeyX,
    inputs.stateSigningKeyY, inputs.clearanceSigningKeyX, inputs.clearanceSigningKeyY,
    inputs.noteId.setWidth 256, inputs.finalBalance.setWidth 256,
    inputs.destination.setWidth 256, inputs.withdrawalNullifier,
    if inputs.hasClearance then 1 else 0, inputs.withdrawalTag]

open Groth16

/-- `Groth16ProofAdapter`. -/
def groth16ProofAdapter (pre : Precompiles) (requestKey : VerifyingKey 12)
    (withdrawalKey : VerifyingKey 14) : ProofAdapter where
  assertValidRequest inputs proof := assertValid pre requestKey inputs.values proof
  assertValidWithdrawal inputs proof := assertValid pre withdrawalKey inputs.values proof

namespace Groth16

variable {pre : Precompiles} {n : ℕ} {vk : VerifyingKey n} {values : Fin n → U256}

end Groth16

end ZkApi.Vault
