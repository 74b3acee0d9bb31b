import AccountAbstraction.Contracts.Sponsorship

/-!
# The verdict of the paymaster

`_validatePaymasterUserOp` (`src/LnetVerifyingPaymaster.sol:85-104`) with `recover` of
OpenZeppelin 5.0.2, which was written apart from it: the paymaster admits signatures of 64
and 65 bytes, `recover` takes 65 and reverts where there is no signer. The precompile
`ecrecover` is a parameter, with address zero where there is no signer.

* `validatePaymasterUserOp_verdict_iff`: the signatures on which the paymaster gives a
  verdict.
-/

namespace AccountAbstraction.Contracts

open Js Abi

/-! ## `ECDSA.recover` -/

/-- `ecrecover(hash, v, r, s)` -/
abbrev Ecrecover := (hash : Word) → (v r s : ℕ) → Address

/-- Half the order of the curve, the greatest `s` that is not malleable. -/
def halfOrder : ℕ := 0x7FFFFFFFFFFFFFFFFFFFFFFFFFFFFFFF5D576E7357A4501DDFE92F46681B20A0

/-- `r`, the first word of a signature. -/
def signatureR (signature : Bytes) : ℕ := bytesValue (signature.take 32)

/-- `s`, its second word. -/
def signatureS (signature : Bytes) : ℕ := bytesValue ((signature.drop 32).take 32)

/-- `v`, the byte after them. -/
def signatureV (signature : Bytes) : ℕ := bytesValue ((signature.drop 64).take 1)

/-- `ECDSA.recover(bytes32, bytes)` of OpenZeppelin 5.0.2; `none` where it reverts: with
    `ECDSAInvalidSignatureLength`, `ECDSAInvalidSignatureS` or `ECDSAInvalidSignature`. -/
def recoverV5 (ecrecover : Ecrecover) (hash : Word) (signature : Bytes) : Option Address :=
  if signature.length ≠ 65 then none
  else if halfOrder < signatureS signature then none
  else
    let signer := ecrecover hash (signatureV signature) (signatureR signature) (signatureS signature)
    if signer = 0 then none else some signer

/-- A signature that `recover` finds a signer for. -/
def Recoverable (ecrecover : Ecrecover) (hash : Word) (signature : Bytes) : Prop :=
  signature.length = 65 ∧ signatureS signature ≤ halfOrder ∧
    ecrecover hash (signatureV signature) (signatureR signature) (signatureS signature) ≠ 0

theorem isSome_recoverV5_iff (ecrecover : Ecrecover) (hash : Word) (signature : Bytes) :
    (∃ signer, recoverV5 ecrecover hash signature = some signer) ↔
      Recoverable ecrecover hash signature := by
  unfold recoverV5 Recoverable
  by_cases hlength : signature.length = 65
  · by_cases hs : halfOrder < signatureS signature
    · simp [hlength, hs, not_le.mpr hs]
    · by_cases hsigner :
          ecrecover hash (signatureV signature) (signatureR signature) (signatureS signature) = 0
      · simp [hs, hsigner]
      · simp [hlength, hs, not_lt.mp hs, hsigner]
  · simp [hlength]

/-! ## The verdict -/

/-- The signature that a `paymasterAndData` ends with. -/
def signatureTail (paymasterAndData : Bytes) : Bytes := paymasterAndData.drop signatureOffset

/-- The first word of the window of a `paymasterAndData`. -/
def untilWord (paymasterAndData : Bytes) : ℕ := bytesValue ((paymasterAndData.drop 52).take 32)

/-- The second one. -/
def afterWord (paymasterAndData : Bytes) : ℕ := bytesValue ((paymasterAndData.drop 84).take 32)

/-- What the signer signs for an op: the hash of the op with its own window, as a message. -/
def signedMessage (evm : Evm) (chainid : Uint 256) (self : Address) (op : PackedUserOperation) :
    Option Word := do
  let (validUntil, validAfter, _) ← parsePaymasterAndData op.paymasterAndData
  let hash ← getHash evm chainid self op validUntil validAfter
  return evm.toEthSignedMessageHash hash

/-- The validation returns: with authorizer 0 when the signature is that of the signer and 1
    otherwise, and with the window of the op. -/
def Verdict (evm : Evm) (chainid : Uint 256) (paymaster : LnetVerifyingPaymaster)
    (op : PackedUserOperation) : Prop :=
  ∃ validationData message,
    validatePaymasterUserOp evm chainid paymaster op = some validationData ∧
    signedMessage evm chainid paymaster.address op = some message ∧
    (authorizer validationData = 0 ↔
      evm.recover message (signatureTail op.paymasterAndData) = some paymaster.verifyingSigner) ∧
    (authorizer validationData = 0 ∨ authorizer validationData = 1) ∧
    validUntilOf validationData = untilWord op.paymasterAndData ∧
    validAfterOf validationData = afterWord op.paymasterAndData

section Verdict

variable {evm : Evm} {chainid : Uint 256} {paymaster : LnetVerifyingPaymaster}
  {op : PackedUserOperation}

/-- The parser on an op whose window fits. -/
theorem parsePaymasterAndData_of_words {data : Bytes} (hlength : 116 ≤ data.length)
    (huntil : untilWord data < 2 ^ 48) (hafter : afterWord data < 2 ^ 48) :
    parsePaymasterAndData data = some (⟨_, huntil⟩, ⟨_, hafter⟩, signatureTail data) := by
  refine parsePaymasterAndData_eq_some.mpr ⟨hlength, ?_⟩
  have hwords := words_append (data.drop 52) (by simp; omega)
  simp only [List.drop_drop] at hwords
  rw [List.append_assoc, encodeUint, encodeUint, signatureTail]
  show data = data.take 52 ++ (bigEndian 32 (untilWord data) ++ bigEndian 32 (afterWord data) ++
    data.drop (52 + 64))
  rw [untilWord, afterWord, hwords, List.take_append_drop]

/-- On a window that fits and a tail of an admitted length, the validation is the recovery of
    the signer and the packing of its verdict. -/
theorem validatePaymasterUserOp_eq (hlength : 116 ≤ op.paymasterAndData.length)
    (huntil : untilWord op.paymasterAndData < 2 ^ 48) (hafter : afterWord op.paymasterAndData < 2 ^ 48)
    (htail : (signatureTail op.paymasterAndData).length = 64 ∨
      (signatureTail op.paymasterAndData).length = 65) :
    ∃ message, signedMessage evm chainid paymaster.address op = some message ∧
      validatePaymasterUserOp evm chainid paymaster op =
        (evm.recover message (signatureTail op.paymasterAndData)).map fun signer =>
          packValidationData (paymaster.verifyingSigner ≠ signer) ⟨_, huntil⟩ ⟨_, hafter⟩ := by
  have hparse := parsePaymasterAndData_of_words hlength huntil hafter
  obtain ⟨hash, hhash⟩ := exists_getHash evm chainid paymaster.address op
    ⟨untilWord op.paymasterAndData, huntil⟩ ⟨afterWord op.paymasterAndData, hafter⟩ (by omega)
  refine ⟨evm.toEthSignedMessageHash hash, ?_, ?_⟩
  · simp only [signedMessage, hparse, hhash, Option.bind_eq_bind, Option.bind_some]
    rfl
  · rw [validatePaymasterUserOp_of_parsed hparse hhash, if_pos htail]

/-- A verdict is given exactly when `recover` returns. -/
theorem verdict_iff_recover (hlength : 116 ≤ op.paymasterAndData.length)
    (huntil : untilWord op.paymasterAndData < 2 ^ 48) (hafter : afterWord op.paymasterAndData < 2 ^ 48)
    (htail : (signatureTail op.paymasterAndData).length = 64 ∨
      (signatureTail op.paymasterAndData).length = 65) :
    Verdict evm chainid paymaster op ↔
      ∃ message, signedMessage evm chainid paymaster.address op = some message ∧
        ∃ signer, evm.recover message (signatureTail op.paymasterAndData) = some signer := by
  obtain ⟨message, hmessage, hvalidate⟩ :=
    @validatePaymasterUserOp_eq evm chainid paymaster op hlength huntil hafter htail
  constructor
  · rintro ⟨validationData, _, hdata, -⟩
    rw [hvalidate] at hdata
    obtain ⟨signer, hsigner, -⟩ := Option.map_eq_some_iff.mp hdata
    exact ⟨message, hmessage, signer, hsigner⟩
  · rintro ⟨message', hmessage', signer, hsigner⟩
    cases hmessage.symm.trans hmessage'
    rw [hsigner] at hvalidate
    refine ⟨_, message, hvalidate, hmessage, ?_, ?_, validUntilOf_pack _ _ _, validAfterOf_pack _ _ _⟩
    · rw [authorizer_pack, hsigner, Option.some.injEq, eq_comm (a := signer)]
      by_cases hsame : paymaster.verifyingSigner = signer <;> simp [hsame]
    · rw [authorizer_pack]
      split
      · exact Or.inr rfl
      · exact Or.inl rfl

/-! ## The result -/

/-- On every op with a window that fits and a tail of 64 or 65 bytes, the paymaster gives a
    verdict if and only if the tail is a signature of 65 bytes, not malleable, for which
    `ecrecover` finds a signer. -/
theorem validatePaymasterUserOp_verdict_iff {ecrecover : Ecrecover}
    (hrecover : ∀ hash signature, evm.recover hash signature = recoverV5 ecrecover hash signature)
    (hlength : 116 ≤ op.paymasterAndData.length) (huntil : untilWord op.paymasterAndData < 2 ^ 48)
    (hafter : afterWord op.paymasterAndData < 2 ^ 48)
    (htail : (signatureTail op.paymasterAndData).length = 64 ∨
      (signatureTail op.paymasterAndData).length = 65) :
    Verdict evm chainid paymaster op ↔
      ∃ message, signedMessage evm chainid paymaster.address op = some message ∧
        Recoverable ecrecover message (signatureTail op.paymasterAndData) := by
  rw [verdict_iff_recover hlength huntil hafter htail]
  simp only [hrecover, isSome_recoverV5_iff]

end Verdict

/-! ## Samples -/

/-- `ecrecover` on the sample. -/
def sampleEcrecover : Ecrecover := fun hash v r s =>
  if hash = sampleSignedHash ∧ v = 0x1b ∧
      r = 0x80ef0b8fb121cd454ac58326421041743f7e33aa319896d9f04a21ad1143a081 ∧
      s = 0x59392654a7fb8fd43e9727eeecde9c41d0f0cfa92b2cad08cc3f4045d1a50098 then sampleSigner
  else 0

/-- The sample chain with `recover` as it is. -/
def recoveringEvm : Evm := { sampleEvm with recover := recoverV5 sampleEcrecover }

/-- The sample op with the sample signature. -/
def sampleSponsored : PackedUserOperation := sampleUnsigned.sponsored (sampleHeader ++ sampleSignature)

/-- The sample op with the same signature in its compact form, whose words are `r` and `s` where
    `v` is 27. -/
def sampleCompact : PackedUserOperation :=
  sampleUnsigned.sponsored (sampleHeader ++ sampleSignature.take 64)

/-- A signature of 64 bytes passes the paymaster's own check, and the validation reverts. -/
theorem compact_signature_reverts :
    116 ≤ sampleCompact.paymasterAndData.length ∧ untilWord sampleCompact.paymasterAndData < 2 ^ 48 ∧
    afterWord sampleCompact.paymasterAndData < 2 ^ 48 ∧
    (signatureTail sampleCompact.paymasterAndData).length = 64 ∧
    validatePaymasterUserOp recoveringEvm 648540 samplePaymaster sampleCompact = none ∧
    ¬Verdict recoveringEvm 648540 samplePaymaster sampleCompact := by
  have hreverts : validatePaymasterUserOp recoveringEvm 648540 samplePaymaster sampleCompact = none := by
    decide +kernel
  refine ⟨by decide +kernel, by decide +kernel, by decide +kernel, by decide +kernel, hreverts, ?_⟩
  rintro ⟨_, _, hdata, -⟩
  rw [hreverts] at hdata
  cases hdata

/-- The sample op gets its verdict. -/
theorem sampleSponsored_verdict : Verdict recoveringEvm 648540 samplePaymaster sampleSponsored := by
  refine (validatePaymasterUserOp_verdict_iff (fun _ _ => rfl) (by decide +kernel)
    (by decide +kernel) (by decide +kernel) (Or.inr (by decide +kernel))).mpr
    ⟨sampleSignedHash, by decide +kernel, ?_⟩
  unfold Recoverable
  decide +kernel

end AccountAbstraction.Contracts
