import AccountAbstraction.Contracts.Paymaster

/-!
# What a sponsorship is bound to

The hash that the signer of the paymaster signs covers every field of the op but the
signature and the paymaster's own data, which it covers up to the gas limits. So an op
that the paymaster accepts is one that the signer was asked about, on the same chain, for
the same paymaster and the same window.

* `hashWords_injective`: the words of the hash determine what they encode.
* `accepted_sponsored`: the op of an accepted validation is that of a signed sponsorship.
-/

namespace AccountAbstraction.Contracts

open Js Abi

/-! ## The packed result -/

/-- The authorizer in the validation data; `0` accepts. -/
def authorizer (validationData : ℕ) : ℕ := validationData % 2 ^ 160

/-- The `validUntil` in the validation data. -/
def validUntilOf (validationData : ℕ) : ℕ := validationData / 2 ^ 160 % 2 ^ 48

/-- The `validAfter` in the validation data. -/
def validAfterOf (validationData : ℕ) : ℕ := validationData / 2 ^ (160 + 48)

theorem packValidationData_eq (sigFailed : Bool) (validUntil validAfter : Uint 48) :
    packValidationData sigFailed validUntil validAfter =
      (if sigFailed then 1 else 0) + validUntil.val * 2 ^ 160 + validAfter.val * 2 ^ (160 + 48) := by
  have hu := validUntil.isLt
  have hflag : (if sigFailed then 1 else 0) < 2 ^ 160 := by split <;> norm_num
  have hlow : (if sigFailed then 1 else 0) ||| validUntil.val <<< 160 =
      validUntil.val * 2 ^ 160 + (if sigFailed then 1 else 0) := by
    rw [Nat.or_comm, ← Nat.shiftLeft_add_eq_or_of_lt hflag, Nat.shiftLeft_eq]
  have hbound : validUntil.val * 2 ^ 160 + (if sigFailed then 1 else 0) < 2 ^ (160 + 48) := by
    rw [pow_add]
    have : validUntil.val + 1 ≤ 2 ^ 48 := hu
    nlinarith
  rw [packValidationData, hlow, Nat.or_comm, ← Nat.shiftLeft_add_eq_or_of_lt hbound, Nat.shiftLeft_eq]
  ring

theorem validUntilOf_pack (sigFailed : Bool) (validUntil validAfter : Uint 48) :
    validUntilOf (packValidationData sigFailed validUntil validAfter) = validUntil.val := by
  have hu := validUntil.isLt
  have hflag : (if sigFailed then 1 else 0) < 2 ^ 160 := by split <;> norm_num
  rw [validUntilOf, packValidationData_eq]
  generalize (if sigFailed then 1 else 0) = flag at hflag
  omega

theorem validAfterOf_pack (sigFailed : Bool) (validUntil validAfter : Uint 48) :
    validAfterOf (packValidationData sigFailed validUntil validAfter) = validAfter.val := by
  have hu := validUntil.isLt
  have hflag : (if sigFailed then 1 else 0) < 2 ^ 160 := by split <;> norm_num
  rw [validAfterOf, packValidationData_eq]
  generalize (if sigFailed then 1 else 0) = flag at hflag
  omega

theorem authorizer_pack (sigFailed : Bool) (validUntil validAfter : Uint 48) :
    authorizer (packValidationData sigFailed validUntil validAfter) = if sigFailed then 1 else 0 := by
  have hu := validUntil.isLt
  have hflag : (if sigFailed then 1 else 0) < 2 ^ 160 := by split <;> norm_num
  rw [authorizer, packValidationData_eq]
  generalize (if sigFailed then 1 else 0) = flag at hflag ⊢
  omega

/-! ## The hash determines what it covers -/

/-- Words in a row determine each of them. -/
theorem flatten_injective_of_length {size : ℕ} {ws ws' : List Bytes} (hsame : ws.length = ws'.length)
    (hws : ∀ w ∈ ws, w.length = size) (hws' : ∀ w ∈ ws', w.length = size)
    (h : ws.flatten = ws'.flatten) : ws = ws' := by
  induction ws generalizing ws' with
  | nil => exact (List.length_eq_zero_iff.mp hsame.symm).symm
  | cons w ws ih =>
    cases ws' with
    | nil => cases hsame
    | cons w' ws' =>
      rw [List.flatten_cons, List.flatten_cons] at h
      have hlength : w.length = w'.length :=
        (hws w List.mem_cons_self).trans (hws' w' List.mem_cons_self).symm
      obtain ⟨rfl, hrest⟩ := List.append_inj h hlength
      rw [ih (Nat.succ.inj hsame) (fun v hv => hws v (List.mem_cons_of_mem _ hv))
        (fun v hv => hws' v (List.mem_cons_of_mem _ hv)) hrest]

theorem length_of_mem_hashWords {evm : Evm} {chainid : Uint 256} {self : Address}
    {op : PackedUserOperation} {gas : Bytes} {validUntil validAfter : Uint 48} {w : Bytes}
    (h : w ∈ hashWords evm chainid self op gas validUntil validAfter) : w.length = 32 := by
  simp only [hashWords, List.mem_cons, List.not_mem_nil, or_false] at h
  rcases h with rfl | rfl | rfl | rfl | rfl | rfl | rfl | rfl | rfl | rfl | rfl | rfl
  · exact length_encodeUint _
  · exact length_encodeUint _
  · exact (evm.keccak256 op.initCode).property
  · exact (evm.keccak256 op.callData).property
  · exact op.accountGasLimits.property
  · exact length_bigEndian _ _
  · exact length_encodeUint _
  · exact op.gasFees.property
  · exact length_encodeUint _
  · exact length_encodeUint _
  · exact length_encodeUint _
  · exact length_encodeUint _

/-- A sponsorship that the signer may sign: an op with its window, for a paymaster on a chain. -/
structure Sponsorship where
  op : PackedUserOperation
  validUntil : Uint 48
  validAfter : Uint 48
  chainid : Uint 256
  paymaster : Address

namespace Sponsorship

/-- The bytes of `paymasterAndData` with both gas limits. -/
def gas (t : Sponsorship) : Bytes := (t.op.paymasterAndData.drop 20).take 32

/-- The text under the hash of the paymaster. -/
def encoded (evm : Evm) (t : Sponsorship) : Bytes :=
  (hashWords evm t.chainid t.paymaster t.op t.gas t.validUntil t.validAfter).flatten

/-- The hash that is signed; `none` where `getHash` reverts. -/
def signedHash (evm : Evm) (t : Sponsorship) : Option Word :=
  (getHash evm t.chainid t.paymaster t.op t.validUntil t.validAfter).map evm.toEthSignedMessageHash

/-- The texts that are hashed for the signature. -/
def preimages (evm : Evm) (t : Sponsorship) : Set Bytes :=
  {t.op.initCode, t.op.callData, t.encoded evm, signedMessagePrefix ++ (evm.keccak256 (t.encoded evm)).val}

theorem signedHash_eq_some {evm : Evm} {t : Sponsorship} {hash : Word}
    (h : t.signedHash evm = some hash) : 52 ≤ t.op.paymasterAndData.length ∧
      hash = evm.keccak256 (signedMessagePrefix ++ (evm.keccak256 (t.encoded evm)).val) := by
  obtain ⟨inner, hinner, rfl⟩ := Option.map_eq_some_iff.mp h
  simp only [getHash, sliceTo, Option.bind_eq_bind, Option.bind_eq_some_iff] at hinner
  obtain ⟨gas, hgas, heq⟩ := hinner
  split_ifs at hgas with hlength
  cases hgas
  cases heq
  exact ⟨hlength.2, rfl⟩

end Sponsorship

/-- The fields of an op that a sponsorship covers. -/
structure PackedUserOperation.AgreesWith (op op' : PackedUserOperation) : Prop where
  sender : op.sender = op'.sender
  nonce : op.nonce = op'.nonce
  initCode : op.initCode = op'.initCode
  callData : op.callData = op'.callData
  accountGasLimits : op.accountGasLimits = op'.accountGasLimits
  preVerificationGas : op.preVerificationGas = op'.preVerificationGas
  gasFees : op.gasFees = op'.gasFees
  /-- The paymaster's gas limit for the validation. -/
  verificationGas : (op.paymasterAndData.drop 20).take 16 = (op'.paymasterAndData.drop 20).take 16
  /-- The paymaster's gas limit for `postOp`. -/
  postOpGas : (op.paymasterAndData.drop 36).take 16 = (op'.paymasterAndData.drop 36).take 16

/-- Two texts of 32 bytes with one value are the same. -/
theorem bytes_eq_of_word {bs bs' : Bytes} (hbs : bs.length = 32) (hbs' : bs'.length = 32)
    (h : bigEndian 32 (bytesValue bs) = bigEndian 32 (bytesValue bs')) : bs = bs' := by
  have hleft := bigEndian_bytesValue bs
  have hright := bigEndian_bytesValue bs'
  rw [hbs] at hleft
  rw [hbs'] at hright
  rw [← hleft, ← hright, h]

/-- The halves of the gas limits. -/
theorem gas_halves {data data' : Bytes} (h : (data.drop 20).take 32 = (data'.drop 20).take 32) :
    (data.drop 20).take 16 = (data'.drop 20).take 16 ∧
      (data.drop 36).take 16 = (data'.drop 36).take 16 := by
  constructor
  · have := congrArg (List.take 16) h
    simpa [List.take_take] using this
  · have := congrArg (List.drop 16) h
    simpa [List.drop_take, List.drop_drop] using this

/-- Where the two hashed texts of an op and of another are told apart by their hashes, the words
    of the hash determine all that they encode. -/
theorem hashWords_injective {evm : Evm} {t t' : Sponsorship} (hlength : 52 ≤ t.op.paymasterAndData.length)
    (hlength' : 52 ≤ t'.op.paymasterAndData.length)
    (hinit : evm.keccak256 t.op.initCode = evm.keccak256 t'.op.initCode → t.op.initCode = t'.op.initCode)
    (hcall : evm.keccak256 t.op.callData = evm.keccak256 t'.op.callData → t.op.callData = t'.op.callData)
    (h : t.encoded evm = t'.encoded evm) :
    t.op.AgreesWith t'.op ∧ t.validUntil = t'.validUntil ∧ t.validAfter = t'.validAfter ∧
      t.chainid = t'.chainid ∧ t.paymaster = t'.paymaster := by
  have hwords : hashWords evm t.chainid t.paymaster t.op t.gas t.validUntil t.validAfter =
      hashWords evm t'.chainid t'.paymaster t'.op t'.gas t'.validUntil t'.validAfter :=
    flatten_injective_of_length rfl (fun _ => length_of_mem_hashWords)
      (fun _ => length_of_mem_hashWords) h
  simp only [hashWords, List.cons.injEq, and_true] at hwords
  obtain ⟨hsender, hnonce, hinitCode, hcallData, hlimits, hgas, hpreVerification, hfees, hchain,
    hpaymaster, huntil, hafter⟩ := hwords
  have hgasBytes := bytes_eq_of_word (by simp [Sponsorship.gas]; omega) (by simp [Sponsorship.gas]; omega)
    hgas
  obtain ⟨hverification, hpostOp⟩ := gas_halves hgasBytes
  refine ⟨?_, encodeUint_injective (by decide) huntil, encodeUint_injective (by decide) hafter,
    encodeUint_injective (by decide) hchain, encodeUint_injective (by decide) hpaymaster⟩
  exact {
    sender := encodeUint_injective (by decide) hsender
    nonce := encodeUint_injective (by decide) hnonce
    initCode := hinit (Subtype.ext hinitCode)
    callData := hcall (Subtype.ext hcallData)
    accountGasLimits := Subtype.ext hlimits
    preVerificationGas := encodeUint_injective (by decide) hpreVerification
    gasFees := Subtype.ext hfees
    verificationGas := hverification
    postOpGas := hpostOp }

/-! ## The result -/

/-- An accepted validation found the signature of the verifying signer under the hash of the op,
    with the window that it returns. -/
theorem validatePaymasterUserOp_accepted {evm : Evm} {chainid : Uint 256}
    {paymaster : LnetVerifyingPaymaster} {op : PackedUserOperation} {validationData : ℕ}
    (h : validatePaymasterUserOp evm chainid paymaster op = some validationData)
    (haccepted : authorizer validationData = 0) :
    ∃ (validUntil validAfter : Uint 48) (hash : Word),
      validUntil.val = validUntilOf validationData ∧ validAfter.val = validAfterOf validationData ∧
      (Sponsorship.mk op validUntil validAfter chainid paymaster.address).signedHash evm = some hash ∧
      evm.recover hash (op.paymasterAndData.drop signatureOffset) = some paymaster.verifyingSigner := by
  simp only [validatePaymasterUserOp, Option.bind_eq_bind, Option.bind_eq_some_iff] at h
  obtain ⟨⟨validUntil, validAfter, signature⟩, hparse, h⟩ := h
  obtain rfl := signature_eq_of_parsed hparse
  split_ifs at h
  simp only [Option.bind_eq_some_iff] at h
  obtain ⟨inner, hinner, signer, hsigner, heq⟩ := h
  cases heq
  rw [authorizer_pack] at haccepted
  have hsame : paymaster.verifyingSigner = signer := by
    by_contra hne
    simp [hne] at haccepted
  refine ⟨validUntil, validAfter, evm.toEthSignedMessageHash inner,
    (validUntilOf_pack _ _ _).symm, (validAfterOf_pack _ _ _).symm, ?_, ?_⟩
  · rw [Sponsorship.signedHash, hinner, Option.map_some]
  · rw [hsigner, hsame]

/-- No sponsorship can be moved. Let the verifying signer have signed the sponsorships `S` only, so
    that the signature which the op carries recovers to it under no other hash, and let
    keccak-256 have no collision among the texts `known`, to which those hashed for `S` and for
    the op belong. Then an op that a paymaster accepts, on some chain and with some window, is
    that of a sponsorship in `S` for this window, chain and paymaster, up to what follows the
    gas limits in `paymasterAndData` and to its own signature. -/
theorem accepted_sponsored {evm : Evm} {S : Set Sponsorship} {known : Set Bytes}
    {chainid : Uint 256} {paymaster : LnetVerifyingPaymaster} {op : PackedUserOperation}
    {validationData : ℕ}
    (hsigned : ∀ hash, evm.recover hash (op.paymasterAndData.drop signatureOffset) =
      some paymaster.verifyingSigner → ∃ t ∈ S, t.signedHash evm = some hash)
    (hcollision : Set.InjOn evm.keccak256 known)
    (hknown : ∀ t ∈ S, t.preimages evm ⊆ known)
    (hop : ∀ validUntil validAfter : Uint 48, validUntil.val = validUntilOf validationData →
      validAfter.val = validAfterOf validationData →
      (Sponsorship.mk op validUntil validAfter chainid paymaster.address).preimages evm ⊆ known)
    (h : validatePaymasterUserOp evm chainid paymaster op = some validationData)
    (haccepted : authorizer validationData = 0) :
    ∃ t ∈ S, t.validUntil.val = validUntilOf validationData ∧
      t.validAfter.val = validAfterOf validationData ∧ t.chainid = chainid ∧
      t.paymaster = paymaster.address ∧ t.op.AgreesWith op := by
  obtain ⟨validUntil, validAfter, hash, huntil, hafter, hhash, hrecover⟩ :=
    validatePaymasterUserOp_accepted h haccepted
  obtain ⟨t, ht, hthash⟩ := hsigned hash hrecover
  obtain ⟨hlength, hpreimage⟩ := Sponsorship.signedHash_eq_some hhash
  obtain ⟨htlength, htpreimage⟩ := Sponsorship.signedHash_eq_some hthash
  have hmem := hop validUntil validAfter huntil hafter
  have htmem := hknown t ht
  simp only [Sponsorship.preimages, Set.insert_subset_iff, Set.singleton_subset_iff] at hmem htmem
  obtain ⟨hinit, hcall, hencoded, houter⟩ := hmem
  obtain ⟨htinit, htcall, htencoded, htouter⟩ := htmem
  have hinner := List.append_cancel_left (hcollision htouter houter (htpreimage.symm.trans hpreimage))
  have hsame := hcollision htencoded hencoded (Subtype.ext hinner)
  obtain ⟨hagrees, hu, ha, hchain, hpaymaster⟩ := hashWords_injective htlength hlength
    (fun heq => hcollision htinit hinit heq) (fun heq => hcollision htcall hcall heq) hsame
  exact ⟨t, ht, by rw [hu, huntil], by rw [ha, hafter], hchain, hpaymaster, hagrees⟩

/-! ## A sample sponsorship -/

/-- The hash of the encoded sample. -/
def sampleInnerHash : Word :=
  asWord 0x9358e8db465c9baa1e2f05d5a75c23f1c4f48dcf6de4155a0d64cc10c666336a

/-- The hash under the sample signature. -/
def sampleSignedHash : Word :=
  asWord 0xf0ef37235ffd97546e550f792830c3502731af3bf1618826109d39b8fb2b0347

def sampleSignature : Bytes :=
  bigEndian 65
    0x80ef0b8fb121cd454ac58326421041743f7e33aa319896d9f04a21ad1143a08159392654a7fb8fd43e9727eeecde9c41d0f0cfa92b2cad08cc3f4045d1a500981b

def sampleSigner : Address := 0x6e9972213bf459853fa33e28ab7219e9157c8d02

def samplePaymaster : LnetVerifyingPaymaster where
  address := 0x3333333333333333333333333333333333333333
  verifyingSigner := sampleSigner

def sampleHeader : Bytes := pmHeader samplePaymaster.address 500000 100000 1800000000 0

/-- The op as the signer sees it. -/
def sampleUnsigned : PackedUserOperation where
  sender := 0x2222222222222222222222222222222222222222
  nonce := 0
  initCode := []
  callData := bigEndian 4 0xb61d27f6
  accountGasLimits := asWord (3000000 <<< 128 ||| 1000000)
  preVerificationGas := 100000
  gasFees := asWord 0
  paymasterAndData := sampleHeader
  signature := []

def sampleSponsorship : Sponsorship where
  op := sampleUnsigned
  validUntil := 1800000000
  validAfter := 0
  chainid := 648540
  paymaster := samplePaymaster.address

/-- The words that are hashed for the sample. -/
def sampleEncoded : Bytes :=
  [0x2222222222222222222222222222222222222222, 0,
   0xc5d2460186f7233c927e7db2dcc703c0e500b653ca82273b7bfad8045d85a470,
   0xd516d1b747d4a044c1b2b69c7976eb0a042b0a76e67ef6fcfc4f46b8efa9093c, 3000000 <<< 128 ||| 1000000,
   500000 <<< 128 ||| 100000, 100000, 0, 648540, 0x3333333333333333333333333333333333333333,
   1800000000, 0].flatMap (bigEndian 32)

/-- keccak-256 and the recovery on the texts of the sample. -/
def sampleEvm : Evm where
  keccak256 b :=
    if b = [] then asWord 0xc5d2460186f7233c927e7db2dcc703c0e500b653ca82273b7bfad8045d85a470
    else if b = bigEndian 4 0xb61d27f6 then
      asWord 0xd516d1b747d4a044c1b2b69c7976eb0a042b0a76e67ef6fcfc4f46b8efa9093c
    else if b = sampleEncoded then sampleInnerHash
    else if b = signedMessagePrefix ++ sampleInnerHash.val then sampleSignedHash
    else asWord 0
  recover hash signature :=
    if hash = sampleSignedHash ∧ signature = sampleSignature then some sampleSigner else none

/-- The texts that are hashed for the sample. -/
def sampleTexts : List Bytes :=
  [[], bigEndian 4 0xb61d27f6, sampleEncoded, signedMessagePrefix ++ sampleInnerHash.val]

theorem sampleEncoded_eq : sampleSponsorship.encoded sampleEvm = sampleEncoded := by decide +kernel

theorem sampleTexts_injOn : Set.InjOn sampleEvm.keccak256 {b | b ∈ sampleTexts} := by
  have hnodup : (sampleTexts.map sampleEvm.keccak256).Nodup := by decide +kernel
  intro a ha b hb h
  exact List.inj_on_of_nodup_map hnodup ha hb h

theorem preimages_subset_sampleTexts {t : Sponsorship} (hinit : t.op.initCode = [])
    (hcall : t.op.callData = bigEndian 4 0xb61d27f6) (hencoded : t.encoded sampleEvm = sampleEncoded) :
    t.preimages sampleEvm ⊆ {b | b ∈ sampleTexts} := by
  have hhash : sampleEvm.keccak256 sampleEncoded = sampleInnerHash := by decide +kernel
  rintro b (rfl | rfl | rfl | rfl)
  · simp [sampleTexts, hinit]
  · simp [sampleTexts, hcall]
  · simp [sampleTexts, hencoded]
  · simp [sampleTexts, hencoded, hhash]

/-- The sample op is accepted, and it is the one that was signed. -/
theorem accepted_sponsored_sample :
    validatePaymasterUserOp sampleEvm 648540 samplePaymaster
        (sampleUnsigned.sponsored (sampleHeader ++ sampleSignature)) =
      some (packValidationData false 1800000000 0) ∧
    ∃ t ∈ ({sampleSponsorship} : Set Sponsorship),
      t.op.AgreesWith (sampleUnsigned.sponsored (sampleHeader ++ sampleSignature)) := by
  have haccepted : validatePaymasterUserOp sampleEvm 648540 samplePaymaster
      (sampleUnsigned.sponsored (sampleHeader ++ sampleSignature)) =
      some (packValidationData false 1800000000 0) := by decide +kernel
  have hsigned : ∀ hash, sampleEvm.recover hash
      ((sampleUnsigned.sponsored (sampleHeader ++ sampleSignature)).paymasterAndData.drop signatureOffset) =
      some samplePaymaster.verifyingSigner →
      ∃ t ∈ ({sampleSponsorship} : Set Sponsorship), t.signedHash sampleEvm = some hash := by
    intro hash h
    simp only [sampleEvm] at h
    split_ifs at h with hhash
    refine ⟨sampleSponsorship, rfl, ?_⟩
    rw [hhash.1]
    decide +kernel
  obtain ⟨t, ht, -, -, -, -, hagrees⟩ := accepted_sponsored hsigned sampleTexts_injOn
    (by
      rintro t rfl
      exact preimages_subset_sampleTexts rfl rfl sampleEncoded_eq)
    (by
      intro validUntil validAfter huntil hafter
      rw [validUntilOf_pack] at huntil
      rw [validAfterOf_pack] at hafter
      cases Fin.ext huntil
      cases Fin.ext hafter
      exact preimages_subset_sampleTexts rfl rfl (by decide +kernel))
    haccepted (authorizer_pack _ _ _)
  exact ⟨haccepted, t, ht, hagrees⟩

end AccountAbstraction.Contracts
