import AccountAbstraction.Ethers

/-!
# UserOperations of the bundler

`normalizeUserOp` and its field normalizers (`bundler/src/index.js:140-182`), which
read an untrusted JSON value, and `serializeUserOp` (184-196), which writes an
accepted op back. A field that passed a check carries it: `sender` is an
`AddressText`, the byte fields are `HexString`s, the two packed words `Bytes32`s.
-/

namespace AccountAbstraction.Bundler

open Js

/-- `rpcError(code, message, data)` (`bundler/src/index.js:198-203`). -/
def rpcError (code : ℤ) (message : String) (data : Option Json := none) : JsError :=
  { message := message, code := some (.num (.int code)), data := data }

/-- `ZERO_BYTES32` (`bundler/src/index.js:24`). -/
def zeroBytes32 : Bytes32 :=
  ⟨"0x0000000000000000000000000000000000000000000000000000000000000000", by decide⟩

/-- `ZERO_ADDRESS` (`bundler/src/index.js:25`). -/
def zeroAddress : AddressText := ⟨"0x0000000000000000000000000000000000000000", by decide⟩

/-- `"0x"`, the default of the byte fields. -/
def emptyHex : HexString := ⟨"0x", by decide⟩

/-- A packed UserOperation, as `normalizeUserOp` returns it. -/
structure UserOp where
  sender : AddressText
  nonce : ℤ
  initCode : HexString
  callData : HexString
  accountGasLimits : Bytes32
  preVerificationGas : ℤ
  gasFees : Bytes32
  paymasterAndData : HexString
  signature : HexString
deriving DecidableEq

/-! ## Field normalizers -/

/-- `normalizeHex(value, field)` (`bundler/src/index.js:140-146`), with `empty = "0x"`. -/
def normalizeHex (value : Option Json) (field : String) : Except JsError HexString :=
  if isNullish value then .ok emptyHex
  else match isHexString value with
    | some hex => .ok hex
    | none => .error (rpcError (-32602) s!"{field} must be a 0x-prefixed hex string")

/-- `normalizeAddress(value, field)` (`bundler/src/index.js:148-151`). -/
def normalizeAddress (E : Ethers) (value : Option Json) (field : String) :
    Except JsError AddressText :=
  match E.address? value with
  | some address => .ok address
  | none => .error (rpcError (-32602) s!"{field} must be an address")

/-- `normalizeBytes32(value, field)` (`bundler/src/index.js:153-156`). -/
def normalizeBytes32 (value : Option Json) (field : String) : Except JsError Bytes32 :=
  match isHexString32 value with
  | some word => .ok word
  | none => .error (rpcError (-32602) s!"{field} must be bytes32")

/-- `normalizeBigInt(value, field)` (`bundler/src/index.js:158-167`): only a number or a
    string is converted, and a failing conversion has the same error as a value of
    another type. No `bigint` comes out of `JSON.parse`. -/
def normalizeBigInt (value : Option Json) (field : String) : Except JsError ℤ :=
  let converted := match value with
    | some (.num x) => bigInt (some (.num x))
    | some (.str s) => bigInt (some (.str s))
    | _ => none
  match converted with
  | some n => .ok n
  | none => .error (rpcError (-32602) s!"{field} must be a uint256 quantity")

/-- `normalizeUserOp(input)` (`bundler/src/index.js:169-182`). The fields are read in
    this order and the first bad one is reported. -/
def normalizeUserOp (E : Ethers) (input : Option Json) : Except JsError UserOp :=
  match input with
  | some (.arr items) => read (.arr items)
  | some (.obj fields) => read (.obj fields)
  | _ => .error (rpcError (-32602) "UserOperation must be an object")
where
  read (op : Json) : Except JsError UserOp := do
    let sender ← normalizeAddress E (op.field "sender") "sender"
    let nonce ← normalizeBigInt (nullish (op.field "nonce") (some (.num (.int 0)))) "nonce"
    let initCode ← normalizeHex (op.field "initCode") "initCode"
    let callData ← normalizeHex (op.field "callData") "callData"
    let accountGasLimits ← normalizeBytes32
      (nullish (op.field "accountGasLimits") (some (.str zeroBytes32.val))) "accountGasLimits"
    let preVerificationGas ← normalizeBigInt
      (nullish (op.field "preVerificationGas") (some (.num (.int 0)))) "preVerificationGas"
    let gasFees ← normalizeBytes32
      (nullish (op.field "gasFees") (some (.str zeroBytes32.val))) "gasFees"
    let paymasterAndData ← normalizeHex (op.field "paymasterAndData") "paymasterAndData"
    let signature ← normalizeHex (op.field "signature") "signature"
    return { sender, nonce, initCode, callData, accountGasLimits, preVerificationGas, gasFees,
             paymasterAndData, signature }

@[simp] theorem normalizeHex_str (hex : HexString) (field : String) :
    normalizeHex (some (.str hex.val)) field = .ok hex := by
  rw [normalizeHex, if_neg (by simp [isNullish]), isHexString_str]

theorem normalizeBytes32_val (word : Bytes32) (field : String) :
    normalizeBytes32 (some (.str word.val)) field = .ok word := by
  rw [normalizeBytes32, isHexString32_str]

@[simp] theorem normalizeBytes32_str (word : Bytes32) (default : Option Json) (field : String) :
    normalizeBytes32 (nullish (some (.str word.val)) default) field = .ok word := by
  have hpresent : nullish (some (.str word.val)) default = some (.str word.val) := by simp [nullish]
  rw [hpresent, normalizeBytes32_val]

/-- The fields of an accepted op are those of the input, each through its normalizer. -/
structure NormalizedFrom (E : Ethers) (input : Json) (op : UserOp) : Prop where
  sender : normalizeAddress E (input.field "sender") "sender" = .ok op.sender
  nonce : normalizeBigInt (nullish (input.field "nonce") (some (.num (.int 0)))) "nonce" = .ok op.nonce
  initCode : normalizeHex (input.field "initCode") "initCode" = .ok op.initCode
  callData : normalizeHex (input.field "callData") "callData" = .ok op.callData
  accountGasLimits : normalizeBytes32
    (nullish (input.field "accountGasLimits") (some (.str zeroBytes32.val))) "accountGasLimits" =
      .ok op.accountGasLimits
  preVerificationGas : normalizeBigInt
    (nullish (input.field "preVerificationGas") (some (.num (.int 0)))) "preVerificationGas" =
      .ok op.preVerificationGas
  gasFees : normalizeBytes32
    (nullish (input.field "gasFees") (some (.str zeroBytes32.val))) "gasFees" = .ok op.gasFees
  paymasterAndData : normalizeHex (input.field "paymasterAndData") "paymasterAndData" =
    .ok op.paymasterAndData
  signature : normalizeHex (input.field "signature") "signature" = .ok op.signature

theorem normalizeUserOp_ok {E : Ethers} {input : Json} {op : UserOp}
    (h : normalizeUserOp E (some input) = .ok op) : NormalizedFrom E input op := by
  have hread : normalizeUserOp.read E input = .ok op := by
    cases input with
    | arr items => exact h
    | obj fields => exact h
    | _ => cases h
  simp only [normalizeUserOp.read, bind_eq_ok] at hread
  obtain ⟨sender, hsender, nonce, hnonce, initCode, hinitCode, callData, hcallData, limits, hlimits,
    gas, hgas, fees, hfees, paymaster, hpaymaster, signature, hsignature, heq⟩ := hread
  cases heq
  exact ⟨hsender, hnonce, hinitCode, hcallData, hlimits, hgas, hfees, hpaymaster, hsignature⟩

/-! ## Serialization -/

/-- `toHex(value)` (`bundler/src/index.js:136-138`); `toQuantity` throws on a negative
    value. -/
def toHex (value : ℤ) : Except JsError String :=
  match toQuantity? value with
  | some text => .ok text
  | none => .error { name := "RangeError", message := "unsigned value cannot be negative",
                     code := some (.str "NUMERIC_FAULT") }

/-- `serializeUserOp(op)` (`bundler/src/index.js:184-196`). -/
def serializeUserOp (op : UserOp) : Except JsError Json := do
  let nonce ← toHex op.nonce
  let preVerificationGas ← toHex op.preVerificationGas
  return .obj
    [("sender", .str op.sender.val), ("nonce", .str nonce), ("initCode", .str op.initCode.val),
     ("callData", .str op.callData.val), ("accountGasLimits", .str op.accountGasLimits.val),
     ("preVerificationGas", .str preVerificationGas), ("gasFees", .str op.gasFees.val),
     ("paymasterAndData", .str op.paymasterAndData.val), ("signature", .str op.signature.val)]

end AccountAbstraction.Bundler
