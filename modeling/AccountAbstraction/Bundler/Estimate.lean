import AccountAbstraction.Bundler.State
import Mathlib.Data.Int.Bitwise

/-!
# The gas estimate

`estimateUserOperationGas` (`bundler/src/index.js:307-324`). Its checks are those of
`sendUserOperation`, the one on the fees apart; then it takes the two limits out of the
packed word and puts a default in the place of a zero.

* `gasEstimate_of_word`: the estimate for a word of two halves.
-/

namespace AccountAbstraction.Bundler

open Js Abi

/-! ## Model -/

/-- `estimateUserOperationGas` up to `simulateValidation` (`bundler/src/index.js:308-313`). -/
def estimateParams (E : Ethers) (config : Config) (params : Json) : Except JsError UserOp := do
  let (rawOp, entryPointAddress) ← destructure params
  let entryPoint ← normalizeAddress E entryPointAddress "entryPoint"
  if lower entryPoint.val ≠ lower config.entryPoint then
    throw (rpcError (-32602) s!"unsupported EntryPoint {entryPoint.val}")
  normalizeUserOp E rawOp

/-- The reply of `estimateUserOperationGas`. -/
structure GasEstimate where
  preVerificationGas : String
  verificationGasLimit : String
  callGasLimit : String
  paymasterVerificationGasLimit : String := "0x0"
  paymasterPostOpGasLimit : String := "0x0"
deriving DecidableEq

/-- `a || b` on integers. -/
def orBigInt (a b : ℤ) : ℤ := if a = 0 then b else a

/-- `BigInt(text)`. -/
def readBigInt (text : String) : Except JsError ℤ :=
  match bigIntOfText text with
  | some n => .ok n
  | none => .error { name := "SyntaxError", message := s!"Cannot convert {text} to a BigInt" }

/-- `(1n << 128n) - 1n`. -/
def lowHalf : ℤ := 2 ^ 128 - 1

/-- The object that is returned (`bundler/src/index.js:316-323`). -/
def gasEstimate (op : UserOp) : Except JsError GasEstimate := do
  let accountGas ← readBigInt op.accountGasLimits.val
  let preVerificationGas ← toHex (orBigInt op.preVerificationGas 100000)
  let verificationGasLimit ← toHex (orBigInt (accountGas >>> (128 : ℕ)) 3000000)
  let callGasLimit ← toHex (orBigInt (accountGas.land lowHalf) 1000000)
  return { preVerificationGas, verificationGasLimit, callGasLimit }

/-- `estimateUserOperationGas(params)` (`bundler/src/index.js:307-324`), where `simulate` is the
    outcome of the static call for an op. -/
def estimateUserOperationGas (E : Ethers) (config : Config)
    (simulate : UserOp → Except JsError SimulationResult) (params : Json) :
    Except JsError GasEstimate := do
  let op ← estimateParams E config params
  simulateValidation config.simulationMode (simulate op)
  gasEstimate op

/-! ## The halves of the word -/

/-- `value || fallback` for a value that is not negative. -/
def orDefault (value fallback : ℕ) : ℕ := if value = 0 then fallback else value

theorem toHex_natCast (n : ℕ) : toHex n = .ok (toQuantity n) := by
  simp [toHex, toQuantity?]

theorem toHex_orBigInt {value fallback : ℕ} {b : ℤ} (hb : b = fallback) :
    toHex (orBigInt value b) = .ok (toQuantity (orDefault value fallback)) := by
  rw [← toHex_natCast, orBigInt, orDefault, hb]
  by_cases h : value = 0
  · simp [h]
  · rw [if_neg h, if_neg (by exact_mod_cast h)]

/-- `word >> 128n` and `word & ((1n << 128n) - 1n)`. -/
theorem word_halves (hi : ℕ) {lo : ℕ} (hlo : lo < 2 ^ 128) :
    ((hi * 2 ^ 128 + lo : ℕ) : ℤ) >>> (128 : ℕ) = hi ∧ ((hi * 2 ^ 128 + lo : ℕ) : ℤ).land lowHalf = lo := by
  constructor
  · rw [← Int.natCast_shiftRight, Nat.shiftRight_eq_div_pow]
    congr 1
    omega
  · have hmask : lowHalf = ((2 ^ 128 - 1 : ℕ) : ℤ) := by norm_num [lowHalf]
    have hland : ∀ m n : ℕ, (m : ℤ).land n = (m &&& n : ℕ) := fun m n => rfl
    rw [hmask, hland, Nat.and_two_pow_sub_one_eq_mod]
    congr 1
    omega

/-- The limits of an estimate are the halves of the word, with a default for a zero. -/
theorem gasEstimate_of_word {op : UserOp} {hi lo : ℕ} (hlo : lo < 2 ^ 128)
    (hword : bigIntOfText op.accountGasLimits.val = some ((hi * 2 ^ 128 + lo : ℕ) : ℤ)) :
    gasEstimate op = (toHex (orBigInt op.preVerificationGas 100000)).map fun preVerificationGas =>
      { preVerificationGas, verificationGasLimit := toQuantity (orDefault hi 3000000),
        callGasLimit := toQuantity (orDefault lo 1000000) } := by
  obtain ⟨hshift, hmask⟩ := word_halves hi hlo
  have hread : readBigInt op.accountGasLimits.val = .ok ((hi * 2 ^ 128 + lo : ℕ) : ℤ) := by
    rw [readBigInt, hword]
  have hverification : toHex (orBigInt (hi : ℤ) 3000000) = .ok (toQuantity (orDefault hi 3000000)) :=
    toHex_orBigInt (by norm_num)
  have hcall : toHex (orBigInt (lo : ℤ) 1000000) = .ok (toQuantity (orDefault lo 1000000)) :=
    toHex_orBigInt (by norm_num)
  rw [gasEstimate, hread, ok_bind, hshift, hmask, hverification, hcall]
  cases toHex (orBigInt op.preVerificationGas 100000) <;> rfl

end AccountAbstraction.Bundler
