import AccountAbstraction.Ethers
import AccountAbstraction.Js.OrderedMap

/-!
# The write policy of the bundler proxy

`createUserOpPolicy` and its `check`
(`examples/privy-google-aa/server/userop-policy.mjs`), which decides on an untrusted
JSON-RPC request. A refusal is a `PolicyError`; a helper of `ethers` may also throw an
error of its own, which the caller tells apart.
-/

namespace AccountAbstraction.Proxy

open Js Abi

/-! ## Errors -/

/-- What `check` throws: a `PolicyError` with its message (status 403), or another error. -/
inductive PolicyFailure
  | policyError (message : String)
  | other (err : JsError)

/-- `PolicyError.status`. -/
def policyStatus : ℕ := 403

/-- `throw new PolicyError(message)`. -/
def refuse {α : Type} (message : String) : Except PolicyFailure α := .error (.policyError message)

/-- `dataSlice(data, start, end)` with its errors. -/
def slice (data : String) (start : ℕ) (stop : Option ℕ := none) : Except PolicyFailure String :=
  match dataSlice data start stop with
  | some text => .ok text
  | none =>
    match getBytes data with
    | none => .error (.other { name := "TypeError", message := "invalid BytesLike value",
                               code := some (.str "INVALID_ARGUMENT") })
    | some _ => .error (.other { name := "RangeError", message := "cannot slice beyond data bounds",
                                 code := some (.str "BUFFER_OVERRUN") })

/-- `getAddress(text)`. -/
def checksum (E : Ethers) (text : String) : Except PolicyFailure AddressText :=
  match E.getAddress text with
  | some address => .ok address
  | none => .error (.other { name := "TypeError", message := "invalid address",
                             code := some (.str "INVALID_ARGUMENT") })

/-- `BigInt(text)`. -/
def toBigInt (text : String) : Except PolicyFailure ℤ :=
  match bigIntOfText text with
  | some n => .ok n
  | none => .error (.other { name := "SyntaxError", message := s!"Cannot convert {text} to a BigInt" })

/-- `normalize(value, what)` (lines 202-209). -/
def normalize (E : Ethers) (value : Option Json) (what : String) :
    Except PolicyFailure AddressText :=
  match E.address? value with
  | some address => .ok address
  | none => refuse s!"{what} must be an address"

/-- `word(value, what)` (lines 211-214). -/
def word (value : Option Json) (what : String) : Except PolicyFailure String :=
  match isHexString32 value with
  | some w => .ok (lower w.val)
  | none => refuse s!"{what} must be a 32-byte hex value"

/-- `quantity(value, what)` (lines 216-222). -/
def quantity (value : Option Json) (what : String) : Except PolicyFailure ℤ :=
  match bigInt value with
  | some n => .ok n
  | none => refuse s!"{what} must be a number"

/-- `ceiling(what, actual, cap)` (lines 224-226). -/
def ceiling (what : String) (actual cap : ℤ) : Except PolicyFailure Unit :=
  if actual > cap then refuse s!"{what} {actual} exceeds the allowed {cap}" else .ok ()

/-! ## The policy -/

/-- A `Number` as a bound, with its text. Nothing exceeds `NaN` and `Infinity`, whose bound is
    `none`. -/
structure NumberCap where
  bound : Option ℚ
  text : String

/-- `caps` (lines 55-60). -/
structure Caps where
  verificationGasLimit : ℤ
  callGasLimit : ℤ
  preVerificationGas : ℤ
  callDataBytes : NumberCap

/-- The `limits` of the configuration, `none` for one that is not set. -/
structure PolicyLimits where
  verificationGasLimit : Option ℤ := none
  callGasLimit : Option ℤ := none
  preVerificationGas : Option ℤ := none
  callDataBytes : Option NumberCap := none

/-- The caps for some limits, with the defaults of lines 55-60. -/
def PolicyLimits.caps (limits : PolicyLimits) : Caps where
  verificationGasLimit := limits.verificationGasLimit.getD 5000000
  callGasLimit := limits.callGasLimit.getD 2000000
  preVerificationGas := limits.preVerificationGas.getD 500000
  callDataBytes := limits.callDataBytes.getD { bound := some 4096, text := "4096" }

/-- The arguments of `createUserOpPolicy`. -/
structure PolicyConfig where
  entryPoint : String
  factory : Option String := none
  allowedTargets : List String := []
  allowedInnerSignatures : List String := ["set(uint256)"]
  limits : PolicyLimits := {}

/-- What the functions of a policy close over (lines 42-60). -/
structure UserOpPolicy where
  expectedEntryPoint : AddressText
  expectedFactory : Option AddressText
  anyTarget : Bool
  targets : List AddressText
  anySelector : Bool
  innerSelectors : OrderedMap String String
  caps : Caps

/-- `ALLOWED_METHODS` (line 23). -/
def allowedMethods : List String := ["eth_sendUserOperation"]

/-- The signature of the account's `execute`. -/
def executeSig : String := "execute(address,uint256,bytes)"

/-- The signature of the factory's `createAccount`. -/
def createAccountSig : String := "createAccount(address,uint256)"

/-- `EXECUTE_SELECTOR` (line 28). -/
def executeSelector (E : Ethers) : String := E.selectorText executeSig

/-- `CREATE_ACCOUNT_SELECTOR` (line 29). -/
def createAccountSelector (E : Ethers) : String := E.selectorText createAccountSig

/-- `ZERO_WORD` (line 30). -/
def zeroWord : String := "0x0000000000000000000000000000000000000000000000000000000000000000"

/-- `[id(sig).slice(0, 10).toLowerCase(), sig]`, put into the map (lines 51-53). -/
def addSelector (E : Ethers) (selectors : OrderedMap String String) (sig : String) :
    OrderedMap String String :=
  selectors.set (lower (E.selectorText sig)) sig

/-- `factory ? normalize(factory, "factory") : null` (line 43). -/
def expectedFactoryOf (E : Ethers) (factory : Option String) :
    Except PolicyFailure (Option AddressText) :=
  match factory.filter (· ≠ "") with
  | some text => some <$> normalize E (some (.str text)) "factory"
  | none => .ok none

/-- `anyTarget` (line 45). -/
def anyTargetOf (allowedTargets : List String) : Bool :=
  allowedTargets.isEmpty || allowedTargets.contains "*"

/-- The members of `targets` (line 46). -/
def targetsOf (E : Ethers) (allowedTargets : List String) : Except PolicyFailure (List AddressText) :=
  if anyTargetOf allowedTargets then .ok []
  else allowedTargets.mapM fun t => normalize E (some (.str t)) "allowed target"

/-- `createUserOpPolicy(…)` up to the functions it returns (lines 34-60). -/
def createUserOpPolicy (E : Ethers) (config : PolicyConfig) : Except PolicyFailure UserOpPolicy := do
  let expectedEntryPoint ← normalize E (some (.str config.entryPoint)) "entryPoint"
  let expectedFactory ← expectedFactoryOf E config.factory
  let targets ← targetsOf E config.allowedTargets
  return {
    expectedEntryPoint, expectedFactory, targets
    anyTarget := anyTargetOf config.allowedTargets
    anySelector := config.allowedInnerSignatures.contains "*"
    innerSelectors := (config.allowedInnerSignatures.filter (· ≠ "*")).foldl (addSelector E) ∅
    caps := config.limits.caps }

/-! ## The check -/

/-- The `inner` of a checked request. -/
structure InnerCall where
  selector : String
  signature : Option String
  value : Option String
deriving DecidableEq

/-- What `check` returns. -/
structure Checked where
  method : String
  sender : AddressText
  target : AddressText
  owner : Option AddressText
  inner : InnerCall

/-- `[A-Za-z_]`. -/
def isNameStart (c : Char) : Bool := c.isAlpha || c == '_'

/-- `SINGLE_UINT.test(signature)` (line 190). -/
def isSingleUint (signature : String) : Bool :=
  let cs := signature.toList
  let argument := "(uint256)".toList
  argument.isSuffixOf cs &&
    match cs.take (cs.length - argument.length) with
    | c :: name => isNameStart c && name.all fun c => isNameStart c || c.isDigit
    | [] => false

/-- `decodeSingleUint(signature, innerCalldata)` (lines 192-200). -/
def decodeSingleUint (E : Ethers) (signature : Option String) (innerCalldata : String) :
    Option String :=
  match signature with
  | none => none
  | some sig =>
    if isSingleUint sig then
      match (dataSlice innerCalldata 4).bind fun args => (getBytes args).bind (E.decode [.uint256]) with
      | some [.bigint n] => some (toString n)
      | _ => none
    else none

/-- The argument of `execute` that is `inner === "0x"` has no selector (line 163). -/
def innerSelector (inner : String) : Except PolicyFailure String :=
  if inner = "0x" then .ok "0x" else lower <$> slice inner 0 (some 4)

/-- The test on the factory of an `initCode` (lines 120-122). -/
def pinFactory (expectedFactory : Option AddressText) (usedFactory : AddressText) :
    Except PolicyFailure Unit :=
  match expectedFactory with
  | some expected =>
    if usedFactory ≠ expected then refuse s!"initCode must deploy through {expected.val}" else .ok ()
  | none => .ok ()

/-- The owner of a `createAccount` call (lines 127-132). -/
def decodeOwner (E : Ethers) (call : String) : Except PolicyFailure AddressText :=
  match E.decodeFunctionData createAccountSig [.address, .uint256] call with
  | some (.address ownerArg :: _) =>
    match E.getAddress ownerArg.val with
    | some owner => .ok owner
    | none => refuse "initCode createAccount arguments are malformed"
  | _ => refuse "initCode createAccount arguments are malformed"

/-- The test on the length of the calldata (lines 137-139). -/
def checkLength (cap : NumberCap) (callData : String) : Except PolicyFailure Unit :=
  match cap.bound with
  | some bound =>
    if ((callData.toList.length : ℚ) - 2) / 2 > bound then
      refuse s!"callData exceeds {cap.text} bytes"
    else .ok ()
  | none => .ok ()

/-- The arguments of an `execute` call (lines 147-151). -/
def decodeExecute (E : Ethers) (callData : String) :
    Except PolicyFailure (AddressText × ℕ × String) :=
  match E.decodeFunctionData executeSig [.address, .uint256, .bytes] callData with
  | some [.address dest, .bigint value, .hex inner] => .ok (dest, value, inner)
  | _ => refuse "callData execute arguments are malformed"

namespace UserOpPolicy

/-- `checkInitCode(initCode, expectedFactoryAddress)` (lines 116-133). -/
def checkInitCode (E : Ethers) (policy : UserOpPolicy) (initCode : Option Json) :
    Except PolicyFailure (Option AddressText) :=
  if !truthy initCode || isText initCode "0x" then .ok none
  else match isHexString initCode with
    | none => refuse "initCode is malformed"
    | some code => do
      if code.val.toList.length < 2 + 40 then refuse "initCode is malformed"
      let usedFactory ← normalize E (some (.str (← slice code.val 0 (some 20)))) "initCode factory"
      pinFactory policy.expectedFactory usedFactory
      let call ← slice code.val 20
      if lower (← slice call 0 (some 4)) ≠ lower (createAccountSelector E) then
        refuse "initCode must call createAccount(address,uint256)"
      let owner ← decodeOwner E call
      return some owner

/-- `checkCallData(callData)` (lines 135-172). -/
def checkCallData (E : Ethers) (policy : UserOpPolicy) (callData : Option Json) :
    Except PolicyFailure (AddressText × InnerCall) :=
  match isHexString callData with
  | none => refuse "callData must be hex"
  | some data => do
    checkLength policy.caps.callDataBytes data.val
    if lower (← slice data.val 0 (some 4)) ≠ lower (executeSelector E) then
      refuse "callData must be LnetAccount.execute(address,uint256,bytes)"
    let (dest, value, inner) ← decodeExecute E data.val
    if value ≠ 0 then refuse "execute value must be 0"
    let target ← checksum E dest.val
    if !policy.anyTarget && !policy.targets.contains target then
      refuse s!"target {target.val} is not allowed — add it to ALLOWED_CALL_TARGETS (or set ALLOWED_CALL_TARGETS=* to allow any)"
    let selector ← innerSelector inner
    let allowed := String.intercalate ", " policy.innerSelectors.values
    if !policy.anySelector && !policy.innerSelectors.has selector then
      refuse s!"inner call {selector} is not allowed — allowed: {allowed}"
    let signature := (policy.innerSelectors.get selector).filter (· ≠ "")
    return (target, { selector, signature, value := decodeSingleUint E signature inner })

/-- `${method || "(none)"}`; the conversion of an object may throw. -/
def methodText (method : Option Json) : Except PolicyFailure String :=
  match ((jsOr method none).getD (.str "(none)")).text? with
  | some text => .ok text
  | none => .error (.other { name := "TypeError",
                             message := "Cannot convert object to primitive value" })

/-- The method of a request, if `ALLOWED_METHODS` has it. -/
def allowedMethod? (method : Option Json) : Option String :=
  allowedMethods.find? fun name => isText method name

/-- The part of `check` on the operation (lines 89-113). -/
def checkOp (E : Ethers) (policy : UserOpPolicy) (method : String) (op : Json) :
    Except PolicyFailure Checked := do
  let sender ← normalize E (op.field "sender") "sender"
  if (← word (op.field "gasFees") "gasFees") ≠ zeroWord then
    refuse "gasFees must be zero on LNET (maxFeePerGas = maxPriorityFeePerGas = 0)"
  let gasLimits ← word (op.field "accountGasLimits") "accountGasLimits"
  let verificationGasLimit ← toBigInt (← slice gasLimits 0 (some 16))
  let callGasLimit ← toBigInt (← slice gasLimits 16 (some 32))
  ceiling "verificationGasLimit" verificationGasLimit policy.caps.verificationGasLimit
  ceiling "callGasLimit" callGasLimit policy.caps.callGasLimit
  ceiling "preVerificationGas" (← quantity (op.field "preVerificationGas") "preVerificationGas")
    policy.caps.preVerificationGas
  if truthy (op.field "paymasterAndData") && !isText (op.field "paymasterAndData") "0x" then
    refuse "paymasterAndData must be empty for this app"
  let owner ← policy.checkInitCode E (op.field "initCode")
  let (target, inner) ← policy.checkCallData E (op.field "callData")
  return { method, sender, target, owner, inner }

/-- `check(request)` (lines 66-114). -/
def check (E : Ethers) (policy : UserOpPolicy) (request : Json) : Except PolicyFailure Checked :=
  match request with
  | .arr _ => refuse "batched JSON-RPC is not allowed on this endpoint"
  | .obj fields =>
    match allowedMethod? (fields.lookup "method") with
    | none => do
      let text ← methodText (fields.lookup "method")
      let methods := String.intercalate ", " allowedMethods
      refuse s!"method {text} is not allowed here — this endpoint only proxies {methods}"
    | some method =>
      match fields.lookup "params" with
      | some (.arr [op, entryPoint]) => do
        if (← normalize E (some entryPoint) "entryPoint") ≠ policy.expectedEntryPoint then
          refuse s!"entryPoint must be {policy.expectedEntryPoint.val}"
        match op with
        | .arr items => policy.checkOp E method (.arr items)
        | .obj opFields => policy.checkOp E method (.obj opFields)
        | _ => refuse "userOp must be an object"
      | _ => refuse s!"{method} takes [userOp, entryPoint]"
  | _ => refuse "request body must be a JSON-RPC object"

end UserOpPolicy

/-! ## What a helper that did not throw returned -/

theorem slice_eq_ok {data text : String} {start : ℕ} {stop : Option ℕ} :
    slice data start stop = .ok text ↔ dataSlice data start stop = some text := by
  unfold slice
  cases dataSlice data start stop with
  | some text' => simp
  | none => cases getBytes data <;> simp

theorem checksum_eq_ok {E : Ethers} {text : String} {a : AddressText} :
    checksum E text = .ok a ↔ E.getAddress text = some a := by
  unfold checksum
  cases E.getAddress text <;> simp

theorem toBigInt_eq_ok {text : String} {n : ℤ} :
    toBigInt text = .ok n ↔ bigIntOfText text = some n := by
  unfold toBigInt
  cases bigIntOfText text <;> simp

theorem normalize_eq_ok {E : Ethers} {value : Option Json} {what : String} {a : AddressText} :
    normalize E value what = .ok a ↔ E.address? value = some a := by
  unfold normalize refuse
  cases E.address? value <;> simp

theorem word_eq_ok {value : Option Json} {what text : String} :
    word value what = .ok text ↔ ∃ w : Bytes32, value = some (.str w.val) ∧ lower w.val = text := by
  unfold word refuse
  constructor
  · intro h
    cases hw : isHexString32 value with
    | none => simp [hw] at h
    | some w =>
      rw [hw] at h
      cases h
      exact ⟨w, isHexString32_eq_some hw, rfl⟩
  · rintro ⟨w, rfl, rfl⟩
    rw [isHexString32_str]

theorem quantity_eq_ok {value : Option Json} {what : String} {n : ℤ} :
    quantity value what = .ok n ↔ bigInt value = some n := by
  unfold quantity refuse
  cases bigInt value <;> simp

theorem ceiling_eq_ok {what : String} {actual cap : ℤ} {u : Unit} :
    ceiling what actual cap = .ok u ↔ actual ≤ cap := by
  unfold ceiling refuse
  split_ifs with h
  · simp [h]
  · simpa using h

/-- A statement `if p then throw …` was passed. -/
theorem unless_refused {α β : Type} {p : Prop} [Decidable p] {message : String}
    {f : α → Except PolicyFailure β} {rest : Except PolicyFailure β} {b : β} :
    (if p then refuse message >>= f else rest) = .ok b ↔ ¬ p ∧ rest = .ok b := by
  split_ifs with h <;> simp [h, refuse, bind, Except.bind]

theorem pinFactory_eq_ok {expectedFactory : Option AddressText} {usedFactory : AddressText} {u : Unit} :
    pinFactory expectedFactory usedFactory = .ok u ↔
      ∀ expected, expectedFactory = some expected → usedFactory = expected := by
  unfold pinFactory refuse
  cases expectedFactory with
  | none => simp
  | some expected => by_cases h : usedFactory = expected <;> simp [h]

theorem decodeExecute_eq_ok {E : Ethers} {callData inner : String} {dest : AddressText} {value : ℕ} :
    decodeExecute E callData = .ok (dest, value, inner) ↔
      E.decodeFunctionData executeSig [.address, .uint256, .bytes] callData =
        some [.address dest, .bigint value, .hex inner] := by
  unfold decodeExecute refuse
  constructor
  · intro h
    split at h
    · rename_i heq
      cases h
      exact heq
    · cases h
  · intro h
    rw [h]

end AccountAbstraction.Proxy
