import AccountAbstraction.Bundler.UserOp

/-!
# The simulation gate

`decodeKnownError` (`bundler/src/index.js:220-227`) and `simulateValidation`
(284-305). The outcome of the static call to the EntryPoint is a parameter: a result,
or the error it threw.

The `try` block of `simulateValidation` also throws the bundler's own rejection of
signature aggregators, which its `catch` then classifies like an error of the call.
-/

namespace AccountAbstraction.Bundler

open Js

/-! ## Reading an error -/

/-- `a || b` on texts. -/
def orText (a : Option String) (b : String) : String :=
  match a with
  | some s => if s ≠ "" then s else b
  | none => b

/-- `/pattern/i.test(text)` for a pattern without operators, given in lower case. -/
def mentions (pattern text : String) : Bool :=
  (text.toList.map Char.toLower).tails.any (pattern.toList.isPrefixOf ·)

/-- `code === n`. -/
def isCode (code : Option Json) (n : ℤ) : Bool :=
  match code with
  | some (.num (.int m)) => m == n
  | _ => false

/-- `decodeKnownError(err)` (`bundler/src/index.js:220-227`). -/
def decodeKnownError (err : JsError) : String :=
  let code := nullish err.code (nullish (err.infoError.bind (·.code)) (err.error.bind (·.code)))
  let msg := orText (some err.message)
    (orText (err.infoError.bind (·.message)) (orText (err.error.bind (·.message)) err.text))
  if isCode code (-32007) || mentions "not authorized" msg then
    "LNET rejected the direct handleOps tx: relayer lacks direct raw-tx writer permission"
  else msg

/-! ## `simulateValidation` -/

/-- `config.simulationMode`; `assertConfig` (`bundler/src/index.js:119-121`) admits no other. -/
inductive SimulationMode
  | try'
  | required
  | disabled
deriving DecidableEq

/-- The result of the EntryPoint's `simulateValidation` call: the verdicts in `returnInfo` and
    `aggregatorInfo.aggregator`, which is missing when the result has no such field. -/
structure SimulationResult where
  accountValidationData : ℕ
  paymasterValidationData : ℕ
  aggregator : Option AddressText

/-- `aggregator && aggregator !== ZERO_ADDRESS`. -/
def SimulationResult.hasAggregator (result : SimulationResult) : Bool :=
  match result.aggregator with
  | some aggregator => aggregator ≠ zeroAddress
  | none => false

/-- The `try` block (`bundler/src/index.js:286-291`). -/
def checkAggregator (outcome : Except JsError SimulationResult) : Except JsError Unit :=
  match outcome with
  | .error err => .error err
  | .ok result =>
    if result.hasAggregator then
      .error (rpcError (-32602) "signature aggregators are not supported by this LNET bundler")
    else .ok ()

/-- `err?.data || err?.info?.error?.data || err?.error?.data`. -/
def revertData (err : JsError) : Option Json :=
  jsOr err.data (jsOr (err.infoError.bind (·.data)) (err.error.bind (·.data)))

/-- `unsupported` (`bundler/src/index.js:293-298`): the error says that the EntryPoint has no
    simulation method. -/
def isUnsupported (err : JsError) : Bool :=
  isText err.code "BAD_DATA" ||
  (isNullish (revertData err) || isText (revertData err) "0x") ||
  ["could not decode result data", "function selector was not recognized", "missing revert data",
    "no data present", "require(false)"].any (mentions · err.message)

/-- `simulateValidation(op)` (`bundler/src/index.js:284-305`), with the outcome of the static
    call for `op`. Mode `disabled` makes no call. -/
def simulateValidation (mode : SimulationMode) (outcome : Except JsError SimulationResult) :
    Except JsError Unit :=
  if mode = .disabled then .ok ()
  else match checkAggregator outcome with
    | .ok () => .ok ()
    | .error err =>
      if isUnsupported err && mode = .try' then .ok ()
      else .error (rpcError (-32602) "simulateValidation failed" (some (.str (decodeKnownError err))))

/-- The rejection of an aggregator carries no `data`, so it counts as "unsupported". -/
theorem isUnsupported_rpcError (code : ℤ) (message : String) :
    isUnsupported (rpcError code message) = true := by
  simp [isUnsupported, rpcError, revertData, jsOr, isNullish]

/-- Mode `required` rethrows every error of the call. -/
theorem simulateValidation_required_error (err : JsError) :
    ∃ failure, simulateValidation .required (.error err) = .error failure := by
  simp [simulateValidation, checkAggregator]

/-- A result with an aggregator is rejected exactly in mode `required`. -/
theorem simulateValidation_aggregator_iff {mode : SimulationMode} {result : SimulationResult}
    (h : result.hasAggregator = true) :
    (∃ failure, simulateValidation mode (.ok result) = .error failure) ↔ mode = .required := by
  cases mode <;> simp [simulateValidation, checkAggregator, h, isUnsupported_rpcError]

end AccountAbstraction.Bundler
