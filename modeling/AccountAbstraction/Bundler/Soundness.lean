import AccountAbstraction.Bundler.Estimate
import AccountAbstraction.Bundler.RoundTrip
import AccountAbstraction.Failure

/-!
# What the normalizers let through

`normalizeUserOp` (`bundler/src/index.js:169-182`) stands in front of every call of the
EntryPoint and of the estimate. An op that it returns is one that can be packed exactly if the
integers of the input are those of 256 bits and its hex strings have whole bytes: neither is
checked.

* `normalizeUserOp_code`: a refusal has the code of invalid parameters.
* `exists_normalizeUserOp_iff`: the inputs that are not refused.
* `normalizeUserOp_sound_iff`: the inputs for which the normalizer is a sound check.
-/

namespace AccountAbstraction.Bundler

open Js

/-! ## The fields of an input -/

/-- The integer of a field that goes to `BigInt`; a missing one is zero. -/
def quantityOf : Option Json → Option ℤ
  | none => some 0
  | some .null => some 0
  | some (.num x) => x.integer?
  | some (.str s) => bigIntOfText s
  | some _ => none

/-- A byte field; a missing one is empty. -/
def dataOf (value : Option Json) : Option HexString :=
  if isNullish value then some emptyHex else isHexString value

/-- A packed word; a missing one is zero. -/
def wordOf (value : Option Json) : Option Bytes32 :=
  if isNullish value then some zeroBytes32 else isHexString32 value

theorem normalizeBigInt_eq_ok {value : Option Json} {field : String} {n : ℤ} :
    normalizeBigInt (nullish value (some (.num (.int 0)))) field = .ok n ↔ quantityOf value = some n := by
  cases value with
  | none => simp [normalizeBigInt, nullish, quantityOf, bigInt, JsNumber.integer?]
  | some v =>
    cases v with
    | num x =>
      simp only [normalizeBigInt, nullish, quantityOf, bigInt]
      cases x.integer? <;> simp
    | str s =>
      simp only [normalizeBigInt, nullish, quantityOf, bigInt]
      cases bigIntOfText s <;> simp
    | _ => simp [normalizeBigInt, nullish, quantityOf, bigInt, JsNumber.integer?]

theorem normalizeHex_eq_ok {value : Option Json} {field : String} {hex : HexString} :
    normalizeHex value field = .ok hex ↔ dataOf value = some hex := by
  unfold normalizeHex dataOf
  split_ifs
  · simp
  · cases isHexString value <;> simp

theorem normalizeBytes32_eq_ok {value : Option Json} {field : String} {word : Bytes32} :
    normalizeBytes32 (nullish value (some (.str zeroBytes32.val))) field = .ok word ↔
      wordOf value = some word := by
  have hpresent : ∀ v : Option Json, normalizeBytes32 v field = .ok word ↔ isHexString32 v = some word := by
    intro v
    unfold normalizeBytes32
    cases isHexString32 v <;> simp
  rw [hpresent]
  cases value with
  | none => rfl
  | some v => cases v <;> rfl

theorem normalizeAddress_eq_ok {E : Ethers} {value : Option Json} {field : String} {a : AddressText} :
    normalizeAddress E value field = .ok a ↔ E.address? value = some a := by
  unfold normalizeAddress
  cases E.address? value <;> simp

/-! ## Refusals -/

/-- The code of `rpcError(-32602, …)`. -/
def InvalidParams (err : JsError) : Prop := err.code = some (.num (.int (-32602)))

/-- The computation fails with an error of another code. -/
abbrev FailsOtherwise {α : Type} (x : Except JsError α) : Prop := Fails (fun err => ¬InvalidParams err) x

@[simp] theorem invalidParams_rpcError (message : String) : InvalidParams (rpcError (-32602) message) := rfl

@[simp] theorem failsOtherwise_normalizeAddress (E : Ethers) (value : Option Json) (field : String) :
    FailsOtherwise (normalizeAddress E value field) ↔ False := by
  unfold normalizeAddress
  cases E.address? value <;> simp

@[simp] theorem failsOtherwise_normalizeBigInt (value : Option Json) (field : String) :
    FailsOtherwise (normalizeBigInt value field) ↔ False := by
  cases value with
  | none => simp [normalizeBigInt]
  | some v =>
    cases v with
    | num x =>
      simp only [normalizeBigInt]
      cases bigInt (some (.num x)) <;> simp
    | str s =>
      simp only [normalizeBigInt]
      cases bigInt (some (.str s)) <;> simp
    | _ => simp [normalizeBigInt]

@[simp] theorem failsOtherwise_normalizeHex (value : Option Json) (field : String) :
    FailsOtherwise (normalizeHex value field) ↔ False := by
  unfold normalizeHex
  split_ifs
  · simp
  · cases isHexString value <;> simp

@[simp] theorem failsOtherwise_normalizeBytes32 (value : Option Json) (field : String) :
    FailsOtherwise (normalizeBytes32 value field) ↔ False := by
  unfold normalizeBytes32
  cases isHexString32 value <;> simp

/-- Every refusal of `normalizeUserOp` has the code of invalid parameters. -/
theorem normalizeUserOp_code {E : Ethers} {input : Option Json} {err : JsError}
    (h : normalizeUserOp E input = .error err) : InvalidParams err := by
  have hread : ∀ op : Json, ¬FailsOtherwise (normalizeUserOp.read E op) := by
    intro op
    simp only [normalizeUserOp.read, fails_bind, failsOtherwise_normalizeAddress,
      failsOtherwise_normalizeBigInt, failsOtherwise_normalizeHex, failsOtherwise_normalizeBytes32,
      fails_pure, and_false, exists_false, or_false, not_false_eq_true]
  have hall : ¬FailsOtherwise (normalizeUserOp E input) := by
    unfold normalizeUserOp
    split
    · exact hread _
    · exact hread _
    · simp
  exact not_not.mp (not_fails_iff.mp hall err h)

/-! ## Inputs that are read -/

/-- The input has a value of the right kind in every field. -/
structure Readable (E : Ethers) (input : Option Json) : Prop where
  object : (∃ items, input = some (.arr items)) ∨ ∃ fields, input = some (.obj fields)
  sender : (E.address? (optProp input "sender")).isSome
  nonce : (quantityOf (optProp input "nonce")).isSome
  initCode : (dataOf (optProp input "initCode")).isSome
  callData : (dataOf (optProp input "callData")).isSome
  accountGasLimits : (wordOf (optProp input "accountGasLimits")).isSome
  preVerificationGas : (quantityOf (optProp input "preVerificationGas")).isSome
  gasFees : (wordOf (optProp input "gasFees")).isSome
  paymasterAndData : (dataOf (optProp input "paymasterAndData")).isSome
  signature : (dataOf (optProp input "signature")).isSome

/-- The fields of an op are read from those of the input. -/
structure ReadsTo (E : Ethers) (input : Option Json) (op : UserOp) : Prop where
  sender : E.address? (optProp input "sender") = some op.sender
  nonce : quantityOf (optProp input "nonce") = some op.nonce
  initCode : dataOf (optProp input "initCode") = some op.initCode
  callData : dataOf (optProp input "callData") = some op.callData
  accountGasLimits : wordOf (optProp input "accountGasLimits") = some op.accountGasLimits
  preVerificationGas : quantityOf (optProp input "preVerificationGas") = some op.preVerificationGas
  gasFees : wordOf (optProp input "gasFees") = some op.gasFees
  paymasterAndData : dataOf (optProp input "paymasterAndData") = some op.paymasterAndData
  signature : dataOf (optProp input "signature") = some op.signature

theorem readsTo_of_normalizeUserOp {E : Ethers} {input : Option Json} {op : UserOp}
    (h : normalizeUserOp E input = .ok op) : ReadsTo E input op := by
  cases input with
  | none => cases h
  | some json =>
    obtain ⟨hsender, hnonce, hinitCode, hcallData, hlimits, hgas, hfees, hpaymaster, hsignature⟩ :=
      normalizeUserOp_ok h
    exact ⟨normalizeAddress_eq_ok.mp hsender, normalizeBigInt_eq_ok.mp hnonce, normalizeHex_eq_ok.mp hinitCode,
      normalizeHex_eq_ok.mp hcallData, normalizeBytes32_eq_ok.mp hlimits, normalizeBigInt_eq_ok.mp hgas,
      normalizeBytes32_eq_ok.mp hfees, normalizeHex_eq_ok.mp hpaymaster, normalizeHex_eq_ok.mp hsignature⟩

theorem read_of_readsTo {E : Ethers} {json : Json} {op : UserOp} (h : ReadsTo E (some json) op) :
    normalizeUserOp.read E json = .ok op := by
  obtain ⟨hsender, hnonce, hinitCode, hcallData, hlimits, hgas, hfees, hpaymaster, hsignature⟩ := h
  simp only [normalizeUserOp.read, bind_eq_ok]
  exact ⟨_, normalizeAddress_eq_ok.mpr hsender, _, normalizeBigInt_eq_ok.mpr hnonce,
    _, normalizeHex_eq_ok.mpr hinitCode, _, normalizeHex_eq_ok.mpr hcallData,
    _, normalizeBytes32_eq_ok.mpr hlimits, _, normalizeBigInt_eq_ok.mpr hgas,
    _, normalizeBytes32_eq_ok.mpr hfees, _, normalizeHex_eq_ok.mpr hpaymaster,
    _, normalizeHex_eq_ok.mpr hsignature, rfl⟩

/-- The inputs that are not refused. -/
theorem exists_normalizeUserOp_iff {E : Ethers} {input : Option Json} :
    (∃ op, normalizeUserOp E input = .ok op) ↔ Readable E input := by
  constructor
  · rintro ⟨op, hop⟩
    have hobject : (∃ items, input = some (.arr items)) ∨ ∃ fields, input = some (.obj fields) := by
      unfold normalizeUserOp at hop
      split at hop
      · exact Or.inl ⟨_, rfl⟩
      · exact Or.inr ⟨_, rfl⟩
      · cases hop
    obtain ⟨hsender, hnonce, hinitCode, hcallData, hlimits, hgas, hfees, hpaymaster, hsignature⟩ :=
      readsTo_of_normalizeUserOp hop
    refine ⟨hobject, ?_, ?_, ?_, ?_, ?_, ?_, ?_, ?_, ?_⟩ <;> simp [*]
  · rintro ⟨hobject, hsender, hnonce, hinitCode, hcallData, hlimits, hgas, hfees, hpaymaster, hsignature⟩
    obtain ⟨sender, hsender⟩ := Option.isSome_iff_exists.mp hsender
    obtain ⟨nonce, hnonce⟩ := Option.isSome_iff_exists.mp hnonce
    obtain ⟨initCode, hinitCode⟩ := Option.isSome_iff_exists.mp hinitCode
    obtain ⟨callData, hcallData⟩ := Option.isSome_iff_exists.mp hcallData
    obtain ⟨accountGasLimits, hlimits⟩ := Option.isSome_iff_exists.mp hlimits
    obtain ⟨preVerificationGas, hgas⟩ := Option.isSome_iff_exists.mp hgas
    obtain ⟨gasFees, hfees⟩ := Option.isSome_iff_exists.mp hfees
    obtain ⟨paymasterAndData, hpaymaster⟩ := Option.isSome_iff_exists.mp hpaymaster
    obtain ⟨signature, hsignature⟩ := Option.isSome_iff_exists.mp hsignature
    refine ⟨{ sender, nonce, initCode, callData, accountGasLimits, preVerificationGas, gasFees,
              paymasterAndData, signature }, ?_⟩
    rcases hobject with ⟨items, rfl⟩ | ⟨fields, rfl⟩
    · exact read_of_readsTo
        ⟨hsender, hnonce, hinitCode, hcallData, hlimits, hgas, hfees, hpaymaster, hsignature⟩
    · exact read_of_readsTo
        ⟨hsender, hnonce, hinitCode, hcallData, hlimits, hgas, hfees, hpaymaster, hsignature⟩

/-! ## Ops that can be packed -/

/-- The integers of the input are those of 256 bits, and its hex strings have whole bytes. -/
structure InRange (input : Option Json) : Prop where
  quantities : ∀ field ∈ ["nonce", "preVerificationGas"], ∀ n, quantityOf (optProp input field) = some n →
    0 ≤ n ∧ n < 2 ^ 256
  data : ∀ field ∈ ["initCode", "callData", "paymasterAndData", "signature"], ∀ s,
    optProp input field = some (.str s) → s.toList.length % 2 = 0

/-- The op is a packed UserOperation: besides what the encoder demands of its integers and its byte
    fields, the sender has 20 bytes and each of the two words has 32. -/
structure UserOp.IsPacked (op : UserOp) : Prop extends op.Encodable where
  sender : ∃ bs, getBytes op.sender.val = some bs ∧ bs.length = 20
  words : ∀ word ∈ [op.accountGasLimits, op.gasFees], ∃ bs, getBytes word.val = some bs ∧ bs.length = 32

theorem isPacked_of_encodable {op : UserOp} (h : op.Encodable) : op.IsPacked where
  toEncodable := h
  sender := exists_getBytes op.sender.property
  words word _ := exists_getBytes word.property

/-- A byte field has whole bytes exactly when the digits of its text come in pairs. -/
theorem wholeBytes_iff {value : Option Json} {hex : HexString} (h : dataOf value = some hex) :
    (∃ bs, getBytes hex.val = some bs) ↔ ∀ s, value = some (.str s) → s.toList.length % 2 = 0 := by
  rw [exists_getBytes_iff hex.property]
  unfold dataOf at h
  split_ifs at h with hnullish
  · cases h
    refine iff_of_true rfl ?_
    rintro s rfl
    cases hnullish
  · rw [isHexString_eq_some h]
    simp

/-- What was read can be packed exactly when the input is in range. -/
theorem encodable_iff {E : Ethers} {input : Option Json} {op : UserOp} (h : ReadsTo E input op) :
    op.Encodable ↔ InRange input := by
  constructor
  · intro hop
    refine ⟨?_, ?_⟩
    · simp only [List.mem_cons, List.not_mem_nil, or_false, forall_eq_or_imp, forall_eq, h.nonce,
        h.preVerificationGas, Option.some.injEq, forall_eq']
      exact ⟨hop.nonce, hop.preVerificationGas⟩
    · simp only [List.mem_cons, List.not_mem_nil, or_false, forall_eq_or_imp, forall_eq,
        ← wholeBytes_iff h.initCode, ← wholeBytes_iff h.callData, ← wholeBytes_iff h.paymasterAndData,
        ← wholeBytes_iff h.signature]
      simpa using hop.bytes
  · rintro ⟨hquantities, hdata⟩
    simp only [List.mem_cons, List.not_mem_nil, or_false, forall_eq_or_imp, forall_eq, h.nonce,
      h.preVerificationGas, Option.some.injEq, forall_eq'] at hquantities
    simp only [List.mem_cons, List.not_mem_nil, or_false, forall_eq_or_imp, forall_eq,
      ← wholeBytes_iff h.initCode, ← wholeBytes_iff h.callData, ← wholeBytes_iff h.paymasterAndData,
      ← wholeBytes_iff h.signature] at hdata
    exact ⟨hquantities.1, hquantities.2, by simpa using hdata⟩

/-! ## The result -/

/-- The normalizer is a sound check of the input: it refuses it with the code of invalid parameters,
    or what it returns can be packed. So can the op of every call with this input whose checks pass,
    which `getUserOpHash`, `simulateValidation` and the estimate are asked with. -/
structure SoundFor (E : Ethers) (input : Option Json) : Prop where
  refused : ∀ err, normalizeUserOp E input = .error err → InvalidParams err
  returned : ∀ op, normalizeUserOp E input = .ok op → op.IsPacked
  accepted : ∀ (config : Config) (params : Json) (entryPointAddress : Option Json) (entryPoint : AddressText)
    (op : UserOp), destructure params = .ok (input, entryPointAddress) →
    acceptParams E config params = .ok (entryPoint, op) → op.IsPacked
  estimated : ∀ (config : Config) (params : Json) (entryPointAddress : Option Json) (op : UserOp),
    destructure params = .ok (input, entryPointAddress) → estimateParams E config params = .ok op → op.IsPacked

/-- The op of an accepted call of `sendUserOperation` is a normalized one. -/
theorem normalized_of_acceptParams {E : Ethers} {config : Config} {params : Json}
    {input entryPointAddress : Option Json} {entryPoint : AddressText} {op : UserOp}
    (hparams : destructure params = .ok (input, entryPointAddress))
    (h : acceptParams E config params = .ok (entryPoint, op)) : normalizeUserOp E input = .ok op := by
  simp only [acceptParams, hparams, ok_bind, bind_eq_ok] at h
  obtain ⟨_, -, hrest⟩ := h
  split_ifs at hrest
  · cases hrest
  · obtain ⟨op', hop, hrest⟩ := bind_eq_ok.mp hrest
    split_ifs at hrest
    · cases hrest
    · cases hrest
      exact hop

theorem normalized_of_estimateParams {E : Ethers} {config : Config} {params : Json}
    {input entryPointAddress : Option Json} {op : UserOp}
    (hparams : destructure params = .ok (input, entryPointAddress))
    (h : estimateParams E config params = .ok op) : normalizeUserOp E input = .ok op := by
  simp only [estimateParams, hparams, ok_bind, bind_eq_ok] at h
  obtain ⟨_, -, hrest⟩ := h
  split_ifs at hrest
  · cases hrest
  · exact hrest

/-- The normalizer is a sound check of an input exactly when the input has a field that it refuses,
    or its integers are those of 256 bits and its hex strings have whole bytes. -/
theorem normalizeUserOp_sound_iff (E : Ethers) (input : Option Json) :
    SoundFor E input ↔ (Readable E input → InRange input) := by
  constructor
  · intro hsound hreadable
    obtain ⟨op, hop⟩ := exists_normalizeUserOp_iff.mpr hreadable
    exact (encodable_iff (readsTo_of_normalizeUserOp hop)).mp (hsound.returned op hop).toEncodable
  · intro hrange
    have hpacked : ∀ op, normalizeUserOp E input = .ok op → op.IsPacked := by
      intro op hop
      have hinRange := hrange (exists_normalizeUserOp_iff.mp ⟨op, hop⟩)
      exact isPacked_of_encodable ((encodable_iff (readsTo_of_normalizeUserOp hop)).mpr hinRange)
    refine ⟨fun err h => normalizeUserOp_code h, hpacked, ?_, ?_⟩
    · intro config params entryPointAddress entryPoint op hparams h
      exact hpacked op (normalized_of_acceptParams hparams h)
    · intro config params entryPointAddress op hparams h
      exact hpacked op (normalized_of_estimateParams hparams h)

/-- An op with the nonce `-1`. -/
def negativeInput : Json := .obj
  [("sender", .str "0x1111111111111111111111111111111111111111"), ("nonce", .str "-1")]

/-- What is made of it. -/
def negativeOp : UserOp := { sampleOp with nonce := -1 }

/-- An op with half a byte of `callData`. -/
def oddInput : Json := .obj
  [("sender", .str "0x1111111111111111111111111111111111111111"), ("callData", .str "0x1")]

/-- A negative nonce and half a byte are let through, and the estimate is given for the one. -/
theorem normalizeUserOp_unsound :
    (∃ op, normalizeUserOp sampleEthers (some negativeInput) = .ok op ∧ op.nonce = -1) ∧
      ¬ SoundFor sampleEthers (some negativeInput) ∧ ¬ SoundFor sampleEthers (some oddInput) ∧
      ∃ estimate, estimateUserOperationGas sampleEthers (sampleEnv .disabled).config (fun _ => noSimulation)
        (.arr [negativeInput, .str "0x2222222222222222222222222222222222222222"]) = .ok estimate := by
  have hnegative : normalizeUserOp sampleEthers (some negativeInput) = .ok negativeOp := rfl
  have hodd : normalizeUserOp sampleEthers (some oddInput) =
      .ok { sampleOp with callData := ⟨"0x1", by decide⟩ } := rfl
  refine ⟨⟨_, hnegative, rfl⟩, ?_, ?_, ?_⟩
  · intro hsound
    have hnonce := (hsound.returned _ hnegative).nonce.1
    exact absurd hnonce (by decide)
  · intro hsound
    obtain ⟨bs, hbs⟩ := (hsound.returned _ hodd).bytes ⟨"0x1", by decide⟩ (by decide)
    cases hbs
  · have hparams : estimateParams sampleEthers (sampleEnv .disabled).config
        (.arr [negativeInput, .str "0x2222222222222222222222222222222222222222"]) =
          .ok negativeOp := rfl
    have hword : bigIntOfText negativeOp.accountGasLimits.val = some ((0 * 2 ^ 128 + 0 : ℕ) : ℤ) := by
      decide +kernel
    have hgas : toHex (orBigInt negativeOp.preVerificationGas 100000) = .ok (toQuantity 100000) :=
      toHex_of_nonneg (by decide)
    have hestimate := gasEstimate_of_word (show (0 : ℕ) < 2 ^ 128 by norm_num) hword
    rw [hgas] at hestimate
    have hskipped : simulateValidation (sampleEnv .disabled).config.simulationMode noSimulation = .ok () := rfl
    rw [estimateUserOperationGas, hparams, ok_bind, hskipped, ok_bind, hestimate]
    exact ⟨_, rfl⟩

end AccountAbstraction.Bundler
