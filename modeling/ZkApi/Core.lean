import ZkApi.Proof.Native
import ZkApi.Types.Wire

/-!
# The hashes of the protocol on wire elements

The functions of the core crate, which take and return wire elements: they hash the
residues of their arguments under a domain.
-/

namespace ZkApi.Core

open Poseidon

/-- `hash_domain`. -/
def hashDomain (label : String) (inputs : List Felt252) : Felt252 :=
  word (poseidonHash (domain label :: inputs.map residue))

def registrationCommitment (secret : Felt252) : Felt252 :=
  hashDomain "zkapi.v2.reg" [secret, 0]

def noteLeaf (noteId : U32) (registration : Felt252) (depositAmount : U128) (expiry : U64) :
    Felt252 :=
  hashDomain "zkapi.v2.leaf"
    [noteId.setWidth 256, registration, depositAmount.setWidth 256, expiry.setWidth 256]

def merkleNode (left right : Felt252) : Felt252 :=
  hashDomain "zkapi.v2.node" [left, right]

def nullifier (secret anchor : Felt252) : Felt252 :=
  hashDomain "zkapi.v2.null" [secret, anchor]

def authorizationTag (nullifier requestContext : Felt252) : Felt252 :=
  hashDomain "zkapi.v2.auth" [nullifier, requestContext]

def stateMessage (protocolVersion : U16) (chainId : U64)
    (contractAddress commitmentX commitmentY anchor : Felt252) : Felt252 :=
  hashDomain "zkapi.v2.state"
    [protocolVersion.setWidth 256, chainId.setWidth 256, contractAddress, commitmentX,
      commitmentY, anchor]

def clearanceMessage (protocolVersion : U16) (chainId : U64)
    (contractAddress withdrawalNullifier : Felt252) : Felt252 :=
  hashDomain "zkapi.v2.clear"
    [protocolVersion.setWidth 256, chainId.setWidth 256, contractAddress, withdrawalNullifier]

def withdrawalTag (nullifier destination : Felt252) (finalBalance : U128)
    (hasClearance : Bool) : Felt252 :=
  hashDomain "zkapi.v2.withdraw"
    [nullifier, destination, finalBalance.setWidth 256,
      BitVec.ofNat 256 hasClearance.toNat]

/-! ### Their residues -/

@[simp]
theorem residue_hashDomain (label : String) (inputs : List Felt252) :
  residue (hashDomain label inputs) = poseidonHash (domain label :: inputs.map residue)
  := residue_word _

theorem canonical_hashDomain (label : String) (inputs : List Felt252) :
  (hashDomain label inputs).Canonical
  := by
  rw [Felt252.Canonical, hashDomain, word_toNat]
  apply val_lt

theorem residue_registrationCommitment (secret : Felt252) :
  residue (registrationCommitment secret) = ZkApi.registrationCommitment (residue secret)
  := by
  simp only [registrationCommitment, residue_hashDomain, List.map_cons, List.map_nil,
    residue_zero]
  rfl

theorem residue_noteLeaf (noteId : U32) (registration : Felt252) (depositAmount : U128)
    (expiry : U64) :
  residue (noteLeaf noteId registration depositAmount expiry)
    = ZkApi.noteLeaf noteId (residue registration) depositAmount expiry
  := by
  simp only [noteLeaf, residue_hashDomain, List.map_cons, List.map_nil,
    residue_setWidth (show 32 ≤ 256 by norm_num), residue_setWidth (show 128 ≤ 256 by norm_num),
    residue_setWidth (show 64 ≤ 256 by norm_num)]
  rfl

theorem residue_merkleNode (left right : Felt252) :
  residue (merkleNode left right) = ZkApi.merkleNode (residue left) (residue right)
  := by
  rw [merkleNode, residue_hashDomain]
  rfl

theorem residue_nullifier (secret anchor : Felt252) :
  residue (nullifier secret anchor) = requestNullifier (residue secret) (residue anchor)
  := by
  rw [nullifier, residue_hashDomain]
  rfl

theorem residue_authorizationTag (nullifier requestContext : Felt252) :
  residue (authorizationTag nullifier requestContext)
    = ZkApi.authorizationTag (residue nullifier) (residue requestContext)
  := by
  rw [authorizationTag, residue_hashDomain]
  rfl

theorem residue_clearanceMessage (protocolVersion : U16) (chainId : U64)
    (contractAddress withdrawalNullifier : Felt252) :
  residue (clearanceMessage protocolVersion chainId contractAddress withdrawalNullifier)
    = ZkApi.clearanceMessage protocolVersion.toNat chainId.toNat (residue contractAddress)
      (residue withdrawalNullifier)
  := by
  simp only [clearanceMessage, residue_hashDomain, List.map_cons, List.map_nil,
    residue_setWidth (show 16 ≤ 256 by norm_num), residue_setWidth (show 64 ≤ 256 by norm_num)]
  rfl

theorem residue_withdrawalTag (nullifier destination : Felt252) (finalBalance : U128)
    (hasClearance : Bool) :
  residue (withdrawalTag nullifier destination finalBalance hasClearance)
    = ZkApi.withdrawalTag (residue nullifier) (residue destination) finalBalance hasClearance
  := by
  have hbit : residue (BitVec.ofNat 256 hasClearance.toNat) = (hasClearance.toNat : Fr) := by
    apply residue_ofNat
    cases hasClearance <;> norm_num
  simp only [withdrawalTag, residue_hashDomain, List.map_cons, List.map_nil, hbit,
    residue_setWidth (show 128 ≤ 256 by norm_num)]
  rfl

end ZkApi.Core
