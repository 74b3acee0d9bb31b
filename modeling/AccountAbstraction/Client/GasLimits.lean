import AccountAbstraction.Bundler.Estimate
import AccountAbstraction.Bundler.System
import AccountAbstraction.Client.UserOp
import AccountAbstraction.Proxy.FailsClosed
import AccountAbstraction.Proxy.Refinement

/-!
# The packed gas limits

One writer and two readers of `accountGasLimits`: `pack128` of the browser
(`examples/privy-google-aa/src/userOp.ts:103-105`), the gas checks of the policy
(`server/userop-policy.mjs:97-101`) and the estimate of the bundler.

* `checkOp_eq`: where the gas checks stand in the check of an operation.
* `gasLimits_codec`: all three agree on the two halves of the word.
-/

namespace AccountAbstraction.Client

open Js Abi Proxy Bundler

/-! ## The gas checks of the policy -/

/-- The part of `check` on the two limits (lines 97-101). -/
def checkGasLimits (policy : UserOpPolicy) (op : Json) : Except PolicyFailure Unit := do
  let gasLimits ← word (op.field "accountGasLimits") "accountGasLimits"
  let verificationGasLimit ← toBigInt (← slice gasLimits 0 (some 16))
  let callGasLimit ← toBigInt (← slice gasLimits 16 (some 32))
  ceiling "verificationGasLimit" verificationGasLimit policy.caps.verificationGasLimit
  ceiling "callGasLimit" callGasLimit policy.caps.callGasLimit

/-- The part in front of it (lines 89-95). -/
def checkSender (E : Ethers) (op : Json) : Except PolicyFailure AddressText := do
  let sender ← normalize E (op.field "sender") "sender"
  if (← word (op.field "gasFees") "gasFees") ≠ zeroWord then
    refuse "gasFees must be zero on LNET (maxFeePerGas = maxPriorityFeePerGas = 0)"
  return sender

/-- The part behind it (lines 102-113). -/
def checkCalls (E : Ethers) (policy : UserOpPolicy) (method : String) (op : Json) (sender : AddressText) :
    Except PolicyFailure Checked := do
  ceiling "preVerificationGas" (← quantity (op.field "preVerificationGas") "preVerificationGas")
    policy.caps.preVerificationGas
  if truthy (op.field "paymasterAndData") && !isText (op.field "paymasterAndData") "0x" then
    refuse "paymasterAndData must be empty for this app"
  let owner ← policy.checkInitCode E (op.field "initCode")
  let (target, inner) ← policy.checkCallData E (op.field "callData")
  return { method, sender, target, owner, inner }

/-- The check of an operation in its three parts. -/
theorem checkOp_eq (E : Ethers) (policy : UserOpPolicy) (method : String) (op : Json) :
    policy.checkOp E method op = (do
      let sender ← checkSender E op
      checkGasLimits policy op
      checkCalls E policy method op sender) := by
  unfold UserOpPolicy.checkOp checkSender checkGasLimits checkCalls
  cases normalize E (op.field "sender") "sender" with
  | error failure => rfl
  | ok sender =>
    rw [ok_bind, ok_bind]
    cases word (op.field "gasFees") "gasFees" with
    | error failure => rfl
    | ok fees =>
      rw [ok_bind, ok_bind]
      by_cases hzero : fees ≠ zeroWord
      · rw [if_pos hzero, if_pos hzero]
        rfl
      · rw [if_neg hzero, if_neg hzero, pure_bind]
        simp only [bind_assoc]

/-! ## The word -/

theorem gasLimitsWord_isHexTextOf (hi lo : ℕ) :
    isHexTextOf 32 (hexlify (bigEndian 32 (hi * 2 ^ 128 + lo))) = true := by
  have h := isHexTextOf_hexlify (bigEndian 32 (hi * 2 ^ 128 + lo))
  rwa [length_bigEndian] at h

/-- The word of two limits. -/
def gasLimitsWord (hi lo : ℕ) : Bytes32 :=
  ⟨hexlify (bigEndian 32 (hi * 2 ^ 128 + lo)), gasLimitsWord_isHexTextOf hi lo⟩

theorem shift_or {hi lo : ℕ} (hlo : lo < 2 ^ 128) : hi <<< 128 ||| lo = hi * 2 ^ 128 + lo := by
  rw [← Nat.shiftLeft_add_eq_or_of_lt hlo, Nat.shiftLeft_eq]

theorem word_lt {hi lo : ℕ} (hhi : hi < 2 ^ 128) (hlo : lo < 2 ^ 128) : hi * 2 ^ 128 + lo < 256 ^ 32 := by
  rw [show (256 : ℕ) ^ 32 = 2 ^ 128 * 2 ^ 128 by norm_num]
  nlinarith

theorem pack128_eq_word {hi lo : ℕ} (hhi : hi < 2 ^ 128) (hlo : lo < 2 ^ 128) :
    pack128 hi lo = some (gasLimitsWord hi lo).val := by
  rw [pack128_eq_some (by rw [shift_or hlo]; exact word_lt hhi hlo), shift_or hlo]
  rfl

/-- The halves that the policy slices out of the word. -/
theorem slices_word {hi lo : ℕ} (hhi : hi < 2 ^ 128) (hlo : lo < 2 ^ 128) :
    (slice (lower (gasLimitsWord hi lo).val) 0 (some 16) >>= toBigInt) = .ok (hi : ℤ) ∧
      (slice (lower (gasLimitsWord hi lo).val) 16 (some 32) >>= toBigInt) = .ok (lo : ℤ) := by
  obtain ⟨bs, hbs, hfirst, hsecond, hverification, hcall⟩ := gasLimits_halves (gasLimitsWord hi lo)
  have hword : getBytes (gasLimitsWord hi lo).val = some (bigEndian 32 (hi * 2 ^ 128 + lo)) :=
    getBytes_hexlify _
  cases hword.symm.trans hbs
  have hpow : (256 : ℕ) ^ 16 = 2 ^ 128 := by norm_num
  have htake : bytesValue ((bigEndian 32 (hi * 2 ^ 128 + lo)).take 16) = hi := by
    rw [take_bigEndian 16 16, hpow, bytesValue_bigEndian (by rw [hpow]; omega)]
    omega
  have hdrop : bytesValue ((bigEndian 32 (hi * 2 ^ 128 + lo)).drop 16) = lo := by
    rw [drop_bigEndian 16 16, bytesValue_bigEndian_mod, hpow]
    omega
  rw [htake] at hverification
  rw [hdrop] at hcall
  rw [hfirst, ok_bind, hverification, hsecond, ok_bind, hcall]
  exact ⟨rfl, rfl⟩

theorem bigIntOfText_word {hi lo : ℕ} (hhi : hi < 2 ^ 128) (hlo : lo < 2 ^ 128) :
    bigIntOfText (gasLimitsWord hi lo).val = some ((hi * 2 ^ 128 + lo : ℕ) : ℤ) := by
  have hne : bigEndian 32 (hi * 2 ^ 128 + lo) ≠ [] :=
    List.ne_nil_of_length_eq_add_one (length_bigEndian 32 _)
  rw [gasLimitsWord, bigIntOfText_hexlify hne, bytesValue_bigEndian (word_lt hhi hlo)]

/-- The policy's verdict on two limits. -/
def limitsVerdict (caps : Caps) (hi lo : ℤ) : Except PolicyFailure Unit := do
  ceiling "verificationGasLimit" hi caps.verificationGasLimit
  ceiling "callGasLimit" lo caps.callGasLimit

theorem limitsVerdict_eq_ok {caps : Caps} {hi lo : ℤ} :
    limitsVerdict caps hi lo = .ok () ↔ hi ≤ caps.verificationGasLimit ∧ lo ≤ caps.callGasLimit := by
  simp only [limitsVerdict, bind_eq_ok, ceiling_eq_ok, exists_and_left, exists_const]

/-- A limit above its cap is refused by the policy itself. -/
theorem limitsVerdict_refuses {caps : Caps} {hi lo : ℤ} :
    (∃ message, limitsVerdict caps hi lo = refuse message) ↔
      caps.verificationGasLimit < hi ∨ caps.callGasLimit < lo := by
  unfold limitsVerdict ceiling
  by_cases hhi : hi > caps.verificationGasLimit
  · rw [if_pos hhi]
    exact iff_of_true ⟨_, rfl⟩ (Or.inl hhi)
  rw [if_neg hhi, ok_bind]
  by_cases hlo : lo > caps.callGasLimit
  · rw [if_pos hlo]
    exact iff_of_true ⟨_, rfl⟩ (Or.inr hlo)
  · rw [if_neg hlo]
    refine iff_of_false ?_ (by omega)
    rintro ⟨message, h⟩
    cases h

theorem checkGasLimits_word {policy : UserOpPolicy} {op : Json} {hi lo : ℕ} (hhi : hi < 2 ^ 128)
    (hlo : lo < 2 ^ 128) (hop : op.field "accountGasLimits" = some (.str (gasLimitsWord hi lo).val)) :
    checkGasLimits policy op = limitsVerdict policy.caps hi lo := by
  obtain ⟨hverification, hcall⟩ := slices_word hhi hlo
  have hword : word (op.field "accountGasLimits") "accountGasLimits" =
      .ok (lower (gasLimitsWord hi lo).val) := word_eq_ok.mpr ⟨_, hop, rfl⟩
  unfold checkGasLimits
  rw [hword, ok_bind, ← bind_assoc, hverification, ok_bind, ← bind_assoc, hcall, ok_bind]
  rfl

/-! ## The result -/

/-- The word that the browser packs from two limits has 32 bytes. The slices of the policy are the
    two limits, the estimate of the bundler gives them back with its defaults for zeros, and the
    policy refuses the word exactly when one of them is above its cap. -/
theorem gasLimits_codec {hi lo : ℕ} (hhi : hi < 2 ^ 128) (hlo : lo < 2 ^ 128) :
    ∃ gasLimits : Bytes32, pack128 hi lo = some gasLimits.val ∧
      (slice (lower gasLimits.val) 0 (some 16) >>= toBigInt) = .ok (hi : ℤ) ∧
      (slice (lower gasLimits.val) 16 (some 32) >>= toBigInt) = .ok (lo : ℤ) ∧
      (∀ (E : Ethers) (config : Config) (simulate : UserOp → Except JsError SimulationResult)
          (params : Json) (op : UserOp),
        estimateParams E config params = .ok op → op.accountGasLimits = gasLimits →
        simulateValidation config.simulationMode (simulate op) = .ok () →
        estimateUserOperationGas E config simulate params =
          (toHex (orBigInt op.preVerificationGas 100000)).map fun preVerificationGas =>
            { preVerificationGas, verificationGasLimit := toQuantity (orDefault hi 3000000),
              callGasLimit := toQuantity (orDefault lo 1000000) }) ∧
      (∀ (E : Ethers) (policy : UserOpPolicy) (method : String) (op : Json),
        op.field "accountGasLimits" = some (.str gasLimits.val) →
        policy.checkOp E method op = (do
          let sender ← checkSender E op
          limitsVerdict policy.caps hi lo
          checkCalls E policy method op sender) ∧
        (limitsVerdict policy.caps hi lo = .ok () ↔
          hi ≤ policy.caps.verificationGasLimit ∧ lo ≤ policy.caps.callGasLimit) ∧
        ((∃ message, limitsVerdict policy.caps hi lo = refuse message) ↔
          policy.caps.verificationGasLimit < hi ∨ policy.caps.callGasLimit < lo)) := by
  obtain ⟨hverification, hcall⟩ := slices_word hhi hlo
  refine ⟨gasLimitsWord hi lo, pack128_eq_word hhi hlo, hverification, hcall, ?_, ?_⟩
  · intro E config simulate params op hparams hword hsimulate
    rw [estimateUserOperationGas, hparams, ok_bind, hsimulate, ok_bind]
    apply gasEstimate_of_word hlo
    rw [hword]
    exact bigIntOfText_word hhi hlo
  · intro E policy method op hop
    refine ⟨?_, limitsVerdict_eq_ok, limitsVerdict_refuses⟩
    rw [checkOp_eq, checkGasLimits_word hhi hlo hop]

/-- A request for an estimate with this word. -/
def limitsParams (gasLimits : String) : Json := .arr
  [.obj [("sender", .str "0x1111111111111111111111111111111111111111"),
    ("accountGasLimits", .str gasLimits)], .str "0x2222222222222222222222222222222222222222"]

/-- One above the default cap and a zero. -/
theorem gasLimits_codec_sample :
    ∃ gasLimits : Bytes32, pack128 5000001 0 = some gasLimits.val ∧
      (slice (lower gasLimits.val) 0 (some 16) >>= toBigInt) = .ok 5000001 ∧
      estimateUserOperationGas sampleEthers (sampleEnv .disabled).config (fun _ => noSimulation)
          (limitsParams gasLimits.val) =
        .ok { preVerificationGas := "0x186a0", verificationGasLimit := "0x4c4b41", callGasLimit := "0xf4240" } ∧
      ∃ message, limitsVerdict samplePolicy.caps 5000001 0 = refuse message := by
  obtain ⟨gasLimits, hpack, hverification, -, hestimate, hpolicy⟩ :=
    gasLimits_codec (show 5000001 < 2 ^ 128 by norm_num) (show 0 < 2 ^ 128 by norm_num)
  have hword : gasLimits = gasLimitsWord 5000001 0 := by
    apply Subtype.ext
    exact Option.some.inj (hpack.symm.trans (pack128_eq_word (by norm_num) (by norm_num)))
  refine ⟨gasLimits, hpack, hverification, ?_, ?_⟩
  · have hparams : estimateParams sampleEthers (sampleEnv .disabled).config (limitsParams gasLimits.val) =
        .ok { Bundler.sampleOp with accountGasLimits := gasLimits } := by
      rw [hword]
      rfl
    have hgas : toHex (orBigInt 0 100000) = .ok "0x186a0" := congrArg Except.ok (by decide +kernel)
    have hhi : toQuantity (orDefault 5000001 3000000) = "0x4c4b41" := by decide +kernel
    have hlo : toQuantity (orDefault 0 1000000) = "0xf4240" := by decide +kernel
    rw [hestimate _ _ (fun _ => noSimulation) _ _ hparams rfl rfl, hhi, hlo]
    exact congrArg _ hgas
  · have hrefuse := (hpolicy sampleEthers samplePolicy "eth_sendUserOperation"
      (.obj [("accountGasLimits", .str gasLimits.val)]) rfl).2.2
    exact hrefuse.mpr (Or.inl (by decide))

end AccountAbstraction.Client
