import ZkApi.BabyJubjub
import ZkApi.Proof.Hashes

/-!
# Commitments and signatures

The native functions of the proof crate that compute on the curve: the commitment to a
balance, its rerandomization and its update by the server, the messages that are signed,
and the Schnorr signatures over them.
-/

namespace ZkApi

open Poseidon

/-! ### Commitments -/

/-- The commitment to a balance, a blinding and the leaf of a note. -/
def balanceCommitment (balance : U128) (blinding : EdwardsScalarField) (leaf : Fr) :
    EdwardsAffine :=
  (balance.toNat : EdwardsScalarField).val • generator
    + blinding.val • balanceBlindingGenerator
    + leaf.val • noteBindingGenerator

/-- The commitment with a scalar added to its blinding. -/
def rerandomizeCommitment (commitment : EdwardsAffine) (rerandomization : EdwardsScalarField) :
    EdwardsAffine :=
  commitment + rerandomization.val • balanceBlindingGenerator

/-- The commitment with a charge taken from its balance and a scalar added to its blinding,
as the server computes it without an opening. -/
def serverUpdate (anonymous : EdwardsAffine) (charge : U128) (blindDelta : EdwardsScalarField) :
    EdwardsAffine :=
  anonymous - (charge.toNat : EdwardsScalarField).val • generator
    + blindDelta.val • balanceBlindingGenerator

theorem balance_lt_subgroupOrder (balance : U128) :
  balance.toNat < subgroupOrder
  := balance.isLt.trans (by decide)

/-- Balances are smaller than the order of the subgroup. -/
theorem val_balance (balance : U128) :
  (balance.toNat : EdwardsScalarField).val = balance.toNat
  := ZMod.val_natCast_of_lt (balance_lt_subgroupOrder balance)

theorem balanceCommitment_mem (balance : U128) (blinding : EdwardsScalarField) (leaf : Fr) :
  balanceCommitment balance blinding leaf ∈ primeSubgroup
  := by
  apply primeSubgroup.add_mem
  · apply primeSubgroup.add_mem
    · apply nsmul_mem_primeSubgroup generator_mem
    · apply nsmul_mem_primeSubgroup balanceBlindingGenerator_mem
  · apply nsmul_mem_primeSubgroup noteBindingGenerator_mem

theorem rerandomizeCommitment_mem {commitment : EdwardsAffine}
    (h : commitment ∈ primeSubgroup) (rerandomization : EdwardsScalarField) :
  rerandomizeCommitment commitment rerandomization ∈ primeSubgroup
  := primeSubgroup.add_mem h (nsmul_mem_primeSubgroup balanceBlindingGenerator_mem _)

theorem serverUpdate_mem {anonymous : EdwardsAffine} (h : anonymous ∈ primeSubgroup)
    (charge : U128) (blindDelta : EdwardsScalarField) :
  serverUpdate anonymous charge blindDelta ∈ primeSubgroup
  := by
  apply primeSubgroup.add_mem
  · apply primeSubgroup.sub_mem h
    apply nsmul_mem_primeSubgroup generator_mem
  · apply nsmul_mem_primeSubgroup balanceBlindingGenerator_mem

/-- Rerandomizing and then charging a commitment gives the commitment to what is left of the
balance, under the sum of the blindings. -/
theorem serverUpdate_rerandomize (balance charge : U128)
    (blinding rerandomization blindDelta : EdwardsScalarField) (leaf : Fr)
    (h : charge.toNat ≤ balance.toNat) :
  serverUpdate (rerandomizeCommitment (balanceCommitment balance blinding leaf) rerandomization)
      charge blindDelta
    = balanceCommitment (balance - charge) (blinding + rerandomization + blindDelta) leaf
  := by
  have hsub : (balance - charge).toNat + charge.toNat = balance.toNat := by
    rw [BitVec.toNat_sub_of_le (BitVec.le_def.mpr h)]
    omega
  simp only [serverUpdate, rerandomizeCommitment, balanceCommitment, val_balance,
    val_add_smul balanceBlindingGenerator_mem]
  rw [← hsub, add_smul]
  abel

/-! ### Messages -/

/-- The message that the server signs for a state. -/
def stateMessage (protocolVersion chainId contractAddress : Fr) (commitment : EdwardsAffine)
    (anchor : Fr) : Fr :=
  poseidonHash
    [domain "zkapi.v2.state", protocolVersion, chainId, contractAddress, commitment.x,
      commitment.y, anchor]

/-- The message that the server signs for a clearance. -/
def clearanceMessage (protocolVersion chainId contractAddress withdrawalNullifier : Fr) : Fr :=
  poseidonHash
    [domain "zkapi.v2.clear", protocolVersion, chainId, contractAddress, withdrawalNullifier]

/-! ### Signatures -/

/-- A Schnorr signature. -/
structure StateSignature where
  r : EdwardsAffine
  s : EdwardsScalarField
  deriving DecidableEq

/-- The hash of the nonce point and the message. -/
def challengeHash (r : EdwardsAffine) (message : Fr) : Fr :=
  poseidonHash [domain "zkapi.v2.sig", r.x, r.y, message]

/-- The challenge, the hash reduced to a scalar. -/
def signatureChallenge (r : EdwardsAffine) (message : Fr) : EdwardsScalarField :=
  ((challengeHash r message).val : EdwardsScalarField)

/-- The verification of a signature. -/
def verifyStateSignature (publicKey : EdwardsAffine) (message : Fr)
    (signature : StateSignature) : Prop :=
  signature.s.val • generator
    = signature.r + (signatureChallenge signature.r message).val • publicKey

/-- The nonce point of a signature that verifies under a key of the subgroup is in the
subgroup. -/
theorem verifyStateSignature_mem {publicKey : EdwardsAffine} {message : Fr}
    {signature : StateSignature} (hkey : publicKey ∈ primeSubgroup)
    (h : verifyStateSignature publicKey message signature) :
  signature.r ∈ primeSubgroup
  := by
  rw [eq_sub_of_add_eq h.symm]
  apply primeSubgroup.sub_mem
  · apply nsmul_mem_primeSubgroup generator_mem
  · apply nsmul_mem_primeSubgroup hkey

end ZkApi
