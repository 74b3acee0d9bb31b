import AccountAbstraction.Contracts.Evm
import AccountAbstraction.Js.HexBuild

/-!
# The verifying paymaster

`LnetVerifyingPaymaster` (`src/LnetVerifyingPaymaster.sol`), and the off-chain code that
builds the `paymasterAndData` of a sponsored op: `_sponsor` of the Solidity test and
script (`test/LnetStack.t.sol:71-90`, `script/E2ELive.s.sol`) and the `ethers` script
(`script/directE2E.cjs:123-136`). A call that reverts is `none`.

* `parsePaymasterAndData_eq_some`: what is parsed from which bytes, and that nothing of
  them is lost.
* `sponsorship_codec`: the paymaster reads back what the builders wrote, and hashes the op
  that carries the signature as they hashed the op without it.
-/

namespace AccountAbstraction.Contracts

open Js Abi

/-! ## The contract -/

/-- `UserOperationLib.PAYMASTER_VALIDATION_GAS_OFFSET`. -/
def paymasterValidationGasOffset : ℕ := 20

/-- `UserOperationLib.PAYMASTER_DATA_OFFSET`. -/
def paymasterDataOffset : ℕ := 52

/-- `VALID_TIMESTAMP_OFFSET` (line 31). -/
def validTimestampOffset : ℕ := paymasterDataOffset

/-- `SIGNATURE_OFFSET` (line 32). -/
def signatureOffset : ℕ := validTimestampOffset + 64

/-- The state that the validation reads. -/
structure LnetVerifyingPaymaster where
  address : Address
  verifyingSigner : Address

/-- `data[start:]` on calldata, which reverts beyond the end. -/
def sliceFrom (data : Bytes) (start : ℕ) : Option Bytes :=
  if start ≤ data.length then some (data.drop start) else none

/-- `data[start:stop]` on calldata. -/
def sliceTo (data : Bytes) (start stop : ℕ) : Option Bytes :=
  if start ≤ stop ∧ stop ≤ data.length then some ((data.drop start).take (stop - start)) else none

/-- The words that `getHash` encodes (lines 61-72), where `gas` are the bytes with the gas limits
    of the paymaster. -/
def hashWords (evm : Evm) (chainid : Uint 256) (self : Address) (op : PackedUserOperation)
    (gas : Bytes) (validUntil validAfter : Uint 48) : List Bytes :=
  [encodeUint op.sender, encodeUint op.nonce, (evm.keccak256 op.initCode).val,
   (evm.keccak256 op.callData).val, op.accountGasLimits.val, bigEndian 32 (bytesValue gas),
   encodeUint op.preVerificationGas, op.gasFees.val, encodeUint chainid, encodeUint self,
   encodeUint validUntil, encodeUint validAfter]

/-- `getHash(userOp, validUntil, validAfter)` (lines 53-75) of the paymaster at `self`. -/
def getHash (evm : Evm) (chainid : Uint 256) (self : Address) (op : PackedUserOperation)
    (validUntil validAfter : Uint 48) : Option Word := do
  let gas ← sliceTo op.paymasterAndData paymasterValidationGasOffset paymasterDataOffset
  return evm.keccak256 (hashWords evm chainid self op gas validUntil validAfter).flatten

/-- `parsePaymasterAndData(paymasterAndData)` (lines 106-113). -/
def parsePaymasterAndData (paymasterAndData : Bytes) : Option (Uint 48 × Uint 48 × Bytes) := do
  let window ← sliceFrom paymasterAndData validTimestampOffset
  let validUntil ← uint? 48 window 0
  let validAfter ← uint? 48 window 32
  let signature ← sliceFrom paymasterAndData signatureOffset
  return (validUntil, validAfter, signature)

/-- `_packValidationData(sigFailed, validUntil, validAfter)` of the EntryPoint's helpers. -/
def packValidationData (sigFailed : Bool) (validUntil validAfter : Uint 48) : ℕ :=
  (if sigFailed then 1 else 0) ||| (validUntil.val <<< 160) ||| (validAfter.val <<< (160 + 48))

/-- `_validatePaymasterUserOp(userOp, …)` (lines 85-104), which returns no context. -/
def validatePaymasterUserOp (evm : Evm) (chainid : Uint 256) (paymaster : LnetVerifyingPaymaster)
    (op : PackedUserOperation) : Option ℕ := do
  let (validUntil, validAfter, signature) ← parsePaymasterAndData op.paymasterAndData
  if signature.length = 64 ∨ signature.length = 65 then
    let hash ← getHash evm chainid paymaster.address op validUntil validAfter
    let signer ← evm.recover (evm.toEthSignedMessageHash hash) signature
    return packValidationData (paymaster.verifyingSigner ≠ signer) validUntil validAfter
  else none

/-! ## The builders -/

/-- `pmHeader` in Solidity: `abi.encodePacked(paymaster, uint128, uint128, abi.encode(…))`. -/
def pmHeader (paymaster : Address) (verificationGas postOpGas : Uint 128)
    (validUntil validAfter : Uint 48) : Bytes :=
  bigEndian 20 paymaster.val ++ bigEndian 16 verificationGas.val ++ bigEndian 16 postOpGas.val ++
    (encodeUint validUntil ++ encodeUint validAfter)

/-- `pmHeader` of the `ethers` script. -/
def scriptHeader (paymaster : AddressText) (verificationGas postOpGas : Uint 128)
    (validUntil validAfter : Uint 48) : Option String := do
  let verification ← zeroPadValue (toBeHex verificationGas.val) 16
  let postOp ← zeroPadValue (toBeHex postOpGas.val) 16
  concat [paymaster.val, verification, postOp,
    hexlify (Abi.encode [.uint validUntil.val, .uint validAfter.val])]

/-- `op.paymasterAndData` of the `ethers` script, once it is signed. -/
def scriptSponsorship (paymaster : AddressText) (verificationGas postOpGas : Uint 128)
    (validUntil validAfter : Uint 48) (pmSig : String) : Option String := do
  let header ← scriptHeader paymaster verificationGas postOpGas validUntil validAfter
  concat [header, pmSig]

/-- The op that carries `paymasterAndData`. -/
def PackedUserOperation.sponsored (op : PackedUserOperation) (paymasterAndData : Bytes) :
    PackedUserOperation := { op with paymasterAndData := paymasterAndData }

/-! ## Parsing -/

theorem sliceFrom_eq_some {data text : Bytes} {start : ℕ} :
    sliceFrom data start = some text ↔ start ≤ data.length ∧ data.drop start = text := by
  unfold sliceFrom
  split_ifs with h <;> simp [h]

/-- Two words and a rest. -/
theorem words_append (data : Bytes) (h : 64 ≤ data.length) :
    bigEndian 32 (bytesValue ((data.drop 0).take 32)) ++
      bigEndian 32 (bytesValue ((data.drop 32).take 32)) ++ data.drop 64 = data := by
  have hword : ∀ start, start + 32 ≤ data.length →
      bigEndian 32 (bytesValue ((data.drop start).take 32)) = (data.drop start).take 32 := by
    intro start hstart
    have hlength : ((data.drop start).take 32).length = 32 := by simp; omega
    have hbytes := bigEndian_bytesValue ((data.drop start).take 32)
    rwa [hlength] at hbytes
  rw [hword 0 (by omega), hword 32 (by omega), List.drop_zero, ← List.take_add, List.take_append_drop]

/-- The parser succeeds exactly on texts with two words below `2^48` from byte 52 on, and what it
    returns and the first 52 bytes make up the text. -/
theorem parsePaymasterAndData_eq_some {data signature : Bytes} {validUntil validAfter : Uint 48} :
    parsePaymasterAndData data = some (validUntil, validAfter, signature) ↔
      116 ≤ data.length ∧
        data = data.take 52 ++ (encodeUint validUntil ++ encodeUint validAfter) ++ signature := by
  simp only [parsePaymasterAndData, validTimestampOffset, signatureOffset, paymasterDataOffset,
    Option.bind_eq_bind, Option.bind_eq_some_iff, sliceFrom_eq_some, uint?_eq_some, Option.pure_def,
    Option.some.injEq, Prod.mk.injEq]
  constructor
  · rintro ⟨_, ⟨-, rfl⟩, u, ⟨-, hu⟩, a, ⟨hlength, ha⟩, s, ⟨-, rfl⟩, rfl, rfl, rfl⟩
    rw [List.length_drop] at hlength
    refine ⟨by omega, ?_⟩
    have hwords := words_append (data.drop 52) (by simp; omega)
    rw [hu, ha, List.drop_drop] at hwords
    rw [List.append_assoc, encodeUint, encodeUint, hwords, List.take_append_drop]
  · rintro ⟨hlength, hdata⟩
    have htake : (data.take 52).length = 52 := by simp; omega
    have hwindow : data.drop 52 = encodeUint validUntil ++ (encodeUint validAfter ++ signature) := by
      rw [hdata, List.append_assoc, List.append_assoc, List.drop_left' htake]
    have hsignature : data.drop (52 + 64) = signature := by
      rw [← List.drop_drop, hwindow, ← List.append_assoc]
      exact List.drop_left' (by simp)
    have hbefore : validUntil.val < 256 ^ 32 := validUntil.lt_word (by decide)
    have hafter : validAfter.val < 256 ^ 32 := validAfter.lt_word (by decide)
    refine ⟨_, ⟨by omega, rfl⟩, validUntil, ⟨by simp; omega, ?_⟩, validAfter, ⟨by simp; omega, ?_⟩,
      _, ⟨by omega, rfl⟩, rfl, rfl, hsignature⟩
    · rw [hwindow, List.drop_zero, List.take_left' (length_encodeUint validUntil), encodeUint,
        bytesValue_bigEndian hbefore]
    · rw [hwindow, List.drop_left' (length_encodeUint validUntil),
        List.take_left' (length_encodeUint validAfter), encodeUint, bytesValue_bigEndian hafter]

/-- The signature is what follows byte 116. -/
theorem signature_eq_of_parsed {data signature : Bytes} {validUntil validAfter : Uint 48}
    (h : parsePaymasterAndData data = some (validUntil, validAfter, signature)) :
    signature = data.drop signatureOffset := by
  obtain ⟨hlength, hdata⟩ := parsePaymasterAndData_eq_some.mp h
  have htake : (data.take 52).length = 52 := by simp; omega
  conv_rhs => rw [hdata]
  exact (List.drop_left' (by simp [htake, signatureOffset, validTimestampOffset, paymasterDataOffset])).symm

theorem isSome_parsePaymasterAndData_iff (data : Bytes) :
    (parsePaymasterAndData data).isSome = true ↔ 116 ≤ data.length ∧
      bytesValue ((data.drop 52).take 32) < 2 ^ 48 ∧ bytesValue ((data.drop 84).take 32) < 2 ^ 48 := by
  constructor
  · intro h
    obtain ⟨⟨validUntil, validAfter, signature⟩, hs⟩ := Option.isSome_iff_exists.mp h
    simp only [parsePaymasterAndData, validTimestampOffset, signatureOffset, paymasterDataOffset,
      Option.bind_eq_bind, Option.bind_eq_some_iff, sliceFrom_eq_some, uint?_eq_some] at hs
    obtain ⟨_, ⟨-, rfl⟩, u, ⟨-, hu⟩, a, ⟨-, ha⟩, _, ⟨hlength, -⟩, -⟩ := hs
    rw [List.drop_zero] at hu
    rw [List.drop_drop] at ha
    exact ⟨hlength, hu ▸ u.isLt, ha ▸ a.isLt⟩
  · rintro ⟨hlength, hu, ha⟩
    have hparse : parsePaymasterAndData data = some (⟨_, hu⟩, ⟨_, ha⟩, data.drop 116) := by
      refine parsePaymasterAndData_eq_some.mpr ⟨hlength, ?_⟩
      have hwords := words_append (data.drop 52) (by simp; omega)
      simp only [List.drop_drop] at hwords
      rw [List.append_assoc, encodeUint, encodeUint, hwords, List.take_append_drop]
    rw [hparse]
    rfl

/-! ## Validation -/

theorem validatePaymasterUserOp_of_parsed {evm : Evm} {chainid : Uint 256}
    {paymaster : LnetVerifyingPaymaster} {op : PackedUserOperation} {validUntil validAfter : Uint 48}
    {signature : Bytes} {hash : Word}
    (hparse : parsePaymasterAndData op.paymasterAndData = some (validUntil, validAfter, signature))
    (hhash : getHash evm chainid paymaster.address op validUntil validAfter = some hash) :
    validatePaymasterUserOp evm chainid paymaster op =
      if signature.length = 64 ∨ signature.length = 65 then
        (evm.recover (evm.toEthSignedMessageHash hash) signature).map fun signer =>
          packValidationData (paymaster.verifyingSigner ≠ signer) validUntil validAfter
      else none := by
  simp only [validatePaymasterUserOp, hparse, hhash, Option.bind_eq_bind, Option.bind_some,
    Option.map_eq_bind]
  rfl

/-! ## The round trip -/

/-- The header is 116 bytes long, and a text that starts with it has its gas limits. -/
theorem length_pmHeader (paymaster : Address) (verificationGas postOpGas : Uint 128)
    (validUntil validAfter : Uint 48) :
    (pmHeader paymaster verificationGas postOpGas validUntil validAfter).length = 116 := by
  simp [pmHeader]

theorem take_pmHeader (paymaster : Address) (verificationGas postOpGas : Uint 128)
    (validUntil validAfter : Uint 48) (signature : Bytes) :
    (pmHeader paymaster verificationGas postOpGas validUntil validAfter ++ signature).take 52 =
      bigEndian 20 paymaster.val ++ bigEndian 16 verificationGas.val ++ bigEndian 16 postOpGas.val := by
  rw [pmHeader, List.append_assoc]
  exact List.take_left' (by simp)

/-- The gas limits stand in the first 52 bytes. -/
theorem sliceTo_of_take {data data' : Bytes} (h : data.take 52 = data'.take 52)
    (hlength : 52 ≤ data.length) (hlength' : 52 ≤ data'.length) :
    sliceTo data paymasterValidationGasOffset paymasterDataOffset =
      sliceTo data' paymasterValidationGasOffset paymasterDataOffset := by
  have hslice : ∀ d : Bytes, (d.drop 20).take (52 - 20) = (d.take 52).drop 20 := fun d => by
    rw [List.drop_take]
  simp only [sliceTo, paymasterValidationGasOffset, paymasterDataOffset, hslice, h, hlength, hlength']

/-- The hash covers the first 52 bytes of `paymasterAndData` only. -/
theorem getHash_of_take (evm : Evm) (chainid : Uint 256) (self : Address) (op : PackedUserOperation)
    (validUntil validAfter : Uint 48) {data data' : Bytes} (h : data.take 52 = data'.take 52)
    (hlength : 52 ≤ data.length) (hlength' : 52 ≤ data'.length) :
    getHash evm chainid self (op.sponsored data) validUntil validAfter =
      getHash evm chainid self (op.sponsored data') validUntil validAfter := by
  simp only [getHash, PackedUserOperation.sponsored, sliceTo_of_take h hlength hlength']
  rfl

theorem exists_getHash (evm : Evm) (chainid : Uint 256) (self : Address) (op : PackedUserOperation)
    (validUntil validAfter : Uint 48) (hlength : 52 ≤ op.paymasterAndData.length) :
    ∃ hash, getHash evm chainid self op validUntil validAfter = some hash := by
  rw [getHash, sliceTo, if_pos ⟨by decide, hlength⟩]
  exact ⟨_, rfl⟩

/-- The script writes the header that the Solidity builders write. -/
theorem scriptHeader_eq (paymaster : AddressText) (self : Address)
    (haddress : getBytes paymaster.val = some (bigEndian 20 self.val))
    (verificationGas postOpGas : Uint 128) (validUntil validAfter : Uint 48) :
    scriptHeader paymaster verificationGas postOpGas validUntil validAfter =
      some (hexlify (pmHeader self verificationGas postOpGas validUntil validAfter)) := by
  have hgas : ∀ gas : Uint 128, zeroPadValue (toBeHex gas.val) 16 = some (hexlify (bigEndian 16 gas.val)) :=
    fun gas => zeroPadValue_toBeHex (by decide) (lt_of_lt_of_eq gas.isLt (by norm_num))
  have hparts : List.Forall₂ (fun data bs => getBytes data = some bs)
      [paymaster.val, hexlify (bigEndian 16 verificationGas.val), hexlify (bigEndian 16 postOpGas.val),
        hexlify (Abi.encode [.uint validUntil.val, .uint validAfter.val])]
      [bigEndian 20 self.val, bigEndian 16 verificationGas.val, bigEndian 16 postOpGas.val,
        encodeUint validUntil ++ encodeUint validAfter] :=
    .cons haddress (.cons (getBytes_hexlify _) (.cons (getBytes_hexlify _)
      (.cons (getBytes_hexlify _) .nil)))
  simp only [scriptHeader, hgas, Option.bind_eq_bind, Option.bind_some, concat_eq_some hparts]
  simp [pmHeader]

theorem scriptSponsorship_eq (paymaster : AddressText) (self : Address)
    (haddress : getBytes paymaster.val = some (bigEndian 20 self.val))
    (verificationGas postOpGas : Uint 128) (validUntil validAfter : Uint 48) {pmSig : String}
    {signature : Bytes} (hsig : getBytes pmSig = some signature) :
    scriptSponsorship paymaster verificationGas postOpGas validUntil validAfter pmSig =
      some (hexlify (pmHeader self verificationGas postOpGas validUntil validAfter ++ signature)) := by
  have hparts := concat_eq_some (.cons (getBytes_hexlify
    (pmHeader self verificationGas postOpGas validUntil validAfter)) (.cons hsig .nil))
  rw [scriptSponsorship, scriptHeader_eq paymaster self haddress, Option.bind_eq_bind, Option.bind_some,
    hparts]
  simp

/-- For every op, all gas limits, every window and every signature: the paymaster parses what the
    builders wrote to the window and the signature, and the hash that it checks the signature
    against is that of the op with the header only, which the builders sign. The parser
    succeeds on no other texts than those of at least 116 bytes with two words below `2^48`
    from byte 52 on, and its result and the first 52 bytes make up the text. -/
theorem sponsorship_codec (evm : Evm) (chainid : Uint 256) (paymaster : LnetVerifyingPaymaster)
    (op : PackedUserOperation) (verificationGas postOpGas : Uint 128) (validUntil validAfter : Uint 48)
    (signature : Bytes) :
    let header := pmHeader paymaster.address verificationGas postOpGas validUntil validAfter
    let full := header ++ signature
    parsePaymasterAndData full = some (validUntil, validAfter, signature) ∧
    (∃ hash, getHash evm chainid paymaster.address (op.sponsored header) validUntil validAfter = some hash ∧
      getHash evm chainid paymaster.address (op.sponsored full) validUntil validAfter = some hash ∧
      validatePaymasterUserOp evm chainid paymaster (op.sponsored full) =
        if signature.length = 64 ∨ signature.length = 65 then
          (evm.recover (evm.toEthSignedMessageHash hash) signature).map fun signer =>
            packValidationData (paymaster.verifyingSigner ≠ signer) validUntil validAfter
        else none) ∧
    (∀ (text : AddressText) (pmSig : String), getBytes text.val = some (bigEndian 20 paymaster.address.val) →
      getBytes pmSig = some signature →
      scriptHeader text verificationGas postOpGas validUntil validAfter = some (hexlify header) ∧
        scriptSponsorship text verificationGas postOpGas validUntil validAfter pmSig =
          some (hexlify full)) ∧
    (∀ data, (parsePaymasterAndData data).isSome = true ↔ 116 ≤ data.length ∧
      bytesValue ((data.drop 52).take 32) < 2 ^ 48 ∧ bytesValue ((data.drop 84).take 32) < 2 ^ 48) ∧
    (∀ data u a s, parsePaymasterAndData data = some (u, a, s) →
      data.take 52 ++ (encodeUint u ++ encodeUint a) ++ s = data) := by
  intro header full
  have htake := take_pmHeader paymaster.address verificationGas postOpGas validUntil validAfter
  have hheader : header.length = 116 := length_pmHeader _ _ _ _ _
  have hfull : 116 ≤ full.length := by
    rw [List.length_append, hheader]
    omega
  have hparse : parsePaymasterAndData full = some (validUntil, validAfter, signature) := by
    refine parsePaymasterAndData_eq_some.mpr ⟨hfull, ?_⟩
    rw [htake signature]
    rfl
  have hsame : header.take 52 = full.take 52 := by
    rw [htake signature, ← htake [], List.append_nil]
  refine ⟨hparse, ?_, ?_, ?_, ?_⟩
  · obtain ⟨hash, hhash⟩ := exists_getHash evm chainid paymaster.address (op.sponsored header)
      validUntil validAfter (by show 52 ≤ header.length; omega)
    have hhash' := hhash
    rw [getHash_of_take evm chainid paymaster.address op validUntil validAfter hsame (by omega) (by omega)]
      at hhash'
    exact ⟨hash, hhash, hhash', validatePaymasterUserOp_of_parsed hparse hhash'⟩
  · intro text pmSig htext hsig
    exact ⟨scriptHeader_eq text paymaster.address htext verificationGas postOpGas validUntil validAfter,
      scriptSponsorship_eq text paymaster.address htext verificationGas postOpGas validUntil validAfter hsig⟩
  · exact isSome_parsePaymasterAndData_iff
  · intro data u a s h
    exact (parsePaymasterAndData_eq_some.mp h).2.symm

end AccountAbstraction.Contracts
