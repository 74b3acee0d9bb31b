import AccountAbstraction.Abi.Encode

/-!
# What the contracts use of the chain

The integer types of Solidity, hashes and signatures. `keccak256` and `ECDSA.recover` of
OpenZeppelin are parameters; a chain of 2^256 hashes has collisions, so a statement
that needs distinct hashes names the texts that were hashed, and assumes
`Set.InjOn keccak256` of them.

* `encodeUint_injective`: integers of a type are told apart by their word.
-/

namespace AccountAbstraction.Contracts

open Js Abi

/-- `uintN`. -/
abbrev Uint (bits : ℕ) := Fin (2 ^ bits)

abbrev Address := Uint 160

instance neZero_uint48 : NeZero (2 ^ 48) := ⟨by decide⟩
instance neZero_uint64 : NeZero (2 ^ 64) := ⟨by decide⟩
instance neZero_uint128 : NeZero (2 ^ 128) := ⟨by decide⟩
instance neZero_uint160 : NeZero (2 ^ 160) := ⟨by decide⟩
instance neZero_uint256 : NeZero (2 ^ 256) := ⟨by decide⟩

/-- `bytes32`. -/
abbrev Word := {b : Bytes // b.length = 32}

/-- A `bytes32` by its value. -/
def asWord (n : ℕ) : Word := ⟨bigEndian 32 n, length_bigEndian 32 n⟩

/-- The hash function and the signature scheme. -/
structure Evm where
  keccak256 : Bytes → Word
  /-- `ECDSA.recover(hash, signature)`; `none` where it reverts. -/
  recover : Word → Bytes → Option Address

/-- The word of an integer in `abi.encode`. -/
def encodeUint {bits : ℕ} (n : Uint bits) : Bytes := bigEndian 32 n.val

@[simp] theorem length_encodeUint {bits : ℕ} (n : Uint bits) : (encodeUint n).length = 32 := by
  simp [encodeUint]

theorem Uint.lt_word {bits : ℕ} (hbits : bits ≤ 256) (n : Uint bits) : n.val < 256 ^ 32 :=
  calc n.val < 2 ^ bits := n.isLt
    _ ≤ 2 ^ 256 := Nat.pow_le_pow_right (by decide) hbits
    _ = 256 ^ 32 := by norm_num

theorem encodeUint_injective {bits : ℕ} (hbits : bits ≤ 256) {m n : Uint bits}
    (h : encodeUint m = encodeUint n) : m = n :=
  Fin.ext (bigEndian_injective (m.lt_word hbits) (n.lt_word hbits) h)

/-- ASCII text as bytes. -/
def asciiBytes (s : String) : Bytes := s.toList.map fun c => Fin.ofNat 256 c.toNat

/-- The text that `MessageHashUtils` puts before a hash. -/
def signedMessagePrefix : Bytes := asciiBytes "\x19Ethereum Signed Message:\n32"

/-- `MessageHashUtils.toEthSignedMessageHash(hash)`. -/
def Evm.toEthSignedMessageHash (evm : Evm) (hash : Word) : Word :=
  evm.keccak256 (signedMessagePrefix ++ hash.val)

/-- A user operation of the EntryPoint v0.7. -/
structure PackedUserOperation where
  sender : Address
  nonce : Uint 256
  initCode : Bytes
  callData : Bytes
  accountGasLimits : Word
  preVerificationGas : Uint 256
  gasFees : Word
  paymasterAndData : Bytes
  signature : Bytes
deriving DecidableEq

end AccountAbstraction.Contracts
