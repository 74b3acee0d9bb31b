import AccountAbstraction.Js.HexBuild
import AccountAbstraction.Proxy.Admission

/-!
# The write that the browser sends

The request that `sendExecuteUserOp` builds (`examples/privy-google-aa/src/userOp.ts:103-125`
and `246-266`), as the server parses it. The ABI encoder of `ethers` is that of Solidity.

* `decodeFunctionData_encode`: the server's decoder reads what the browser's encoder wrote.
-/

namespace AccountAbstraction.Client

open Js Abi Proxy

/-- The addresses that the browser is configured with (`src/lnet.ts`). -/
structure LnetConfig where
  entryPoint : AddressText
  factory : AddressText

/-- `PackedUserOperation` (lines 33-43). -/
structure PackedUserOperation where
  sender : String
  nonce : ℕ
  initCode : String
  callData : String
  accountGasLimits : String
  preVerificationGas : ℕ
  gasFees : String
  paymasterAndData : String
  signature : String

/-! ## The builder -/

/-- `pack128(hi, lo)` (lines 103-105). -/
def pack128 (hi lo : ℕ) : Option String := zeroPadValue (toBeHex (hi <<< 128 ||| lo)) 32

/-- `iface.encodeFunctionData(name, values)` for the function with signature `sig`. -/
def encodeFunctionData (E : Ethers) (sig : String) (values : List AbiValue) : String :=
  hexlify (E.selector sig ++ encode values)

/-- The ABI value of an address argument, which goes through `getAddress`. -/
def addressValue (E : Ethers) (text : String) : Option AbiValue :=
  (E.getAddress text).map fun a => .address (bytesValue (addressBytes a))

/-- `initCode` (line 248). -/
def buildInitCode (E : Ethers) (lnet : LnetConfig) (owner : String) (salt : ℕ) : Option String := do
  let ownerArg ← addressValue E owner
  concat [lnet.factory.val, encodeFunctionData E createAccountSig [ownerArg, .uint salt]]

/-- `callData` (line 249). -/
def buildCallData (E : Ethers) (target targetCalldata : String) : Option String := do
  let dest ← addressValue E target
  let func ← getBytes targetCalldata
  return encodeFunctionData E executeSig [dest, .uint 0, .bytes func]

/-- `op` with its signature (lines 251-264). -/
def buildOp (E : Ethers) (lnet : LnetConfig) (owner : String) (salt : ℕ)
    (smartAccount target targetCalldata signature : String) : Option PackedUserOperation := do
  let initCode ← buildInitCode E lnet owner salt
  let callData ← buildCallData E target targetCalldata
  let accountGasLimits ← pack128 3000000 1000000
  let gasFees ← pack128 0 0
  return { sender := smartAccount, nonce := 0, initCode, callData, accountGasLimits,
           preVerificationGas := 100000, gasFees, paymasterAndData := "0x", signature }

/-- `serializeUserOp(op)` (lines 113-125). -/
def serializeUserOp (op : PackedUserOperation) : Json := .obj
  [("sender", .str op.sender), ("nonce", .str (toBeHex op.nonce)), ("initCode", .str op.initCode),
   ("callData", .str op.callData), ("accountGasLimits", .str op.accountGasLimits),
   ("preVerificationGas", .str (toBeHex op.preVerificationGas)), ("gasFees", .str op.gasFees),
   ("paymasterAndData", .str op.paymasterAndData), ("signature", .str op.signature)]

section Fields

variable (op : PackedUserOperation)

@[simp] theorem field_sender : (serializeUserOp op).field "sender" = some (.str op.sender) := rfl

@[simp] theorem field_initCode : (serializeUserOp op).field "initCode" = some (.str op.initCode) := rfl

@[simp] theorem field_callData : (serializeUserOp op).field "callData" = some (.str op.callData) := rfl

@[simp] theorem field_accountGasLimits :
    (serializeUserOp op).field "accountGasLimits" = some (.str op.accountGasLimits) := rfl

@[simp] theorem field_preVerificationGas :
    (serializeUserOp op).field "preVerificationGas" = some (.str (toBeHex op.preVerificationGas)) := rfl

@[simp] theorem field_gasFees : (serializeUserOp op).field "gasFees" = some (.str op.gasFees) := rfl

@[simp] theorem field_paymasterAndData :
    (serializeUserOp op).field "paymasterAndData" = some (.str op.paymasterAndData) := rfl

end Fields

/-- The body of `rpc(url, "eth_sendUserOperation", params)` (lines 131-138), with the time as its
    `id`. -/
def rpcBody (now : ℤ) (method : String) (params : List Json) : Json := .obj
  [("jsonrpc", .str "2.0"), ("id", .num (.int now)), ("method", .str method), ("params", .arr params)]

/-- The request of `sendExecuteUserOp` (lines 237-266). -/
def sendExecuteUserOp (E : Ethers) (lnet : LnetConfig) (owner : String) (salt : ℕ)
    (smartAccount target targetCalldata signature : String) (now : ℤ) : Option Json := do
  let op ← buildOp E lnet owner salt smartAccount target targetCalldata signature
  return rpcBody now "eth_sendUserOperation" [serializeUserOp op, .str lnet.entryPoint.val]

/-! ## What the encoder writes -/

/-- The documented behaviour of `ethers` on texts and data that are well formed: any hex text of
    20 bytes in lower case is an address, and the decoder reads what the encoder wrote. A text of
    JavaScript has less than 2^53 characters. -/
structure Canonical (E : Ethers) : Prop extends E.Documented where
  getAddress_hexlify : ∀ bs : Bytes, bs.length = 20 → (E.getAddress (hexlify bs)).isSome
  decode_encode : ∀ vs : List AbiValue, (∀ v ∈ vs, v.Fits) → (encode vs).length < 2 ^ 53 →
    ∃ rs, E.decode (vs.map AbiValue.type) (encode vs) = some rs ∧
      List.Forall₂ (Decoded.Denotes E) rs vs

variable {E : Ethers}

theorem length_addressBytes (a : AddressText) : (addressBytes a).length = 20 := by
  obtain ⟨bs, hbs, hlength⟩ := exists_getBytes a.property
  rw [addressBytes, hbs, Option.getD_some, hlength]

theorem fits_address (a : AddressText) : (AbiValue.address (bytesValue (addressBytes a))).Fits := by
  have h := bytesValue_lt (addressBytes a)
  rw [length_addressBytes] at h
  show _ < 2 ^ 160
  calc _ < 256 ^ 20 := h
    _ = 2 ^ 160 := by norm_num

/-- An address is determined by its number. -/
theorem eq_of_denotes (hE : E.Documented) {a b : AddressText} (ha : E.getAddress a.val = some a)
    (hb : (Decoded.address b).Denotes E (.address (bytesValue (addressBytes a)))) : b = a := by
  obtain ⟨hb, hvalue⟩ := hb
  have hbytes : addressBytes b = addressBytes a := by
    have hb' := bigEndian_bytesValue (addressBytes b)
    have ha' := bigEndian_bytesValue (addressBytes a)
    rw [length_addressBytes] at ha' hb'
    rw [← hb', ← ha', hvalue]
  refine hE.getAddress_unique _ _ b a hb ha ?_
  rw [lower_addressText, lower_addressText, hbytes]

/-- The arguments of an encoded call are read back. -/
theorem decodeFunctionData_encode (hE : Canonical E) (sig : String) {vs : List AbiValue}
    (hfits : ∀ v ∈ vs, v.Fits) (hsize : (encode vs).length < 2 ^ 53) :
    ∃ rs, E.decodeFunctionData sig (vs.map AbiValue.type) (encodeFunctionData E sig vs) = some rs ∧
      List.Forall₂ (Decoded.Denotes E) rs vs := by
  obtain ⟨rs, hrs, hdenotes⟩ := hE.decode_encode vs hfits hsize
  refine ⟨rs, ?_, hdenotes⟩
  have htake : (E.selector sig ++ encode vs).take 4 = E.selector sig :=
    List.take_left' (E.length_selector sig)
  have hdrop : (E.selector sig ++ encode vs).drop 4 = encode vs :=
    List.drop_left' (E.length_selector sig)
  rw [Ethers.decodeFunctionData, encodeFunctionData, getBytes_hexlify, Option.bind_some, if_pos htake,
    hdrop, hrs]

/-- The server reads the owner of a `createAccount` call. -/
theorem decode_createAccount (hE : Canonical E) {owner : AddressText} {salt : ℕ}
    (howner : E.getAddress owner.val = some owner) (hsalt : salt < 2 ^ 256) :
    decodeOwner E (encodeFunctionData E createAccountSig
      [.address (bytesValue (addressBytes owner)), .uint salt]) = .ok owner := by
  have hfits : ∀ v ∈ [AbiValue.address (bytesValue (addressBytes owner)), AbiValue.uint salt],
      v.Fits := by
    intro v hv
    rcases List.mem_pair.mp hv with rfl | rfl
    · exact fits_address owner
    · exact hsalt
  have hsize : (encode [AbiValue.address (bytesValue (addressBytes owner)), .uint salt]).length < 2 ^ 53 := by
    simp [encode, length_heads, AbiValue.tail]
  obtain ⟨rs, hrs, hdenotes⟩ := decodeFunctionData_encode hE createAccountSig hfits hsize
  simp only [List.forall₂_cons_right_iff, List.forall₂_nil_right_iff] at hdenotes
  obtain ⟨ownerArg, rest, hownerArg, -, rfl⟩ := hdenotes
  cases ownerArg with
  | bigint n => exact hownerArg.elim
  | hex text => exact hownerArg.elim
  | address a =>
    obtain rfl := eq_of_denotes hE.toDocumented howner hownerArg
    have hdecode : E.decodeFunctionData createAccountSig [.address, .uint256]
        (encodeFunctionData E createAccountSig
          [.address (bytesValue (addressBytes a)), .uint salt]) = some (.address a :: rest) := hrs
    rw [decodeOwner, hdecode]
    simp only [howner]

/-- The server reads the arguments of an `execute` call. -/
theorem decode_execute (hE : Canonical E) {dest : AddressText} {func : Bytes}
    (hdest : E.getAddress dest.val = some dest)
    (hsize : (encode [.address (bytesValue (addressBytes dest)), .uint 0, .bytes func]).length < 2 ^ 53) :
    decodeExecute E (encodeFunctionData E executeSig
      [.address (bytesValue (addressBytes dest)), .uint 0, .bytes func]) =
        .ok (dest, 0, hexlify func) := by
  have hfits : ∀ v ∈ [AbiValue.address (bytesValue (addressBytes dest)), .uint 0, .bytes func],
      v.Fits := by
    intro v hv
    simp only [List.mem_cons, List.not_mem_nil, or_false] at hv
    rcases hv with rfl | rfl | rfl
    · exact fits_address dest
    · show 0 < 2 ^ 256
      norm_num
    · trivial
  obtain ⟨rs, hrs, hdenotes⟩ := decodeFunctionData_encode hE executeSig hfits hsize
  simp only [List.forall₂_cons_right_iff, List.forall₂_nil_right_iff] at hdenotes
  obtain ⟨destArg, -, hdestArg, ⟨valueArg, -, hvalueArg, ⟨innerArg, -, hinnerArg, rfl, rfl⟩, rfl⟩, rfl⟩ :=
    hdenotes
  cases destArg with
  | bigint n => exact hdestArg.elim
  | hex text => exact hdestArg.elim
  | address a =>
    obtain rfl := eq_of_denotes hE.toDocumented hdest hdestArg
    cases valueArg with
    | address _ => exact hvalueArg.elim
    | hex text => exact hvalueArg.elim
    | bigint n =>
      cases innerArg with
      | address _ => exact hinnerArg.elim
      | bigint n => exact hinnerArg.elim
      | hex text =>
        cases (show n = 0 from hvalueArg)
        cases (show text = hexlify func from hinnerArg)
        exact decodeExecute_eq_ok.mpr hrs

/-! ## The parts of the operation -/

theorem getBytes_addressText (a : AddressText) : getBytes a.val = some (addressBytes a) := by
  obtain ⟨bs, hbs, -⟩ := exists_getBytes a.property
  rw [addressBytes, hbs, Option.getD_some]

theorem pack128_eq_some {hi lo : ℕ} (h : hi <<< 128 ||| lo < 256 ^ 32) :
    pack128 hi lo = some (hexlify (bigEndian 32 (hi <<< 128 ||| lo))) :=
  zeroPadValue_toBeHex (by decide) h

/-- The bytes of `initCode`. -/
def initCodeBytes (E : Ethers) (lnet : LnetConfig) (owner : AddressText) (salt : ℕ) : Bytes :=
  addressBytes lnet.factory ++ (E.selector createAccountSig ++
    encode [.address (bytesValue (addressBytes owner)), .uint salt])

/-- The bytes of `callData`. -/
def callDataBytes (E : Ethers) (dest : AddressText) (func : Bytes) : Bytes :=
  E.selector executeSig ++ encode [.address (bytesValue (addressBytes dest)), .uint 0, .bytes func]

theorem buildInitCode_eq {lnet : LnetConfig} {owner : AddressText} {salt : ℕ}
    (howner : E.getAddress owner.val = some owner) :
    buildInitCode E lnet owner.val salt = some (hexlify (initCodeBytes E lnet owner salt)) := by
  have hconcat := concat_eq_some (.cons (getBytes_addressText lnet.factory) (.cons (getBytes_hexlify
    (E.selector createAccountSig ++ encode [.address (bytesValue (addressBytes owner)), .uint salt])) .nil))
  simp only [buildInitCode, addressValue, howner, Option.map_some, Option.bind_eq_bind, Option.bind_some]
  rw [encodeFunctionData, hconcat]
  simp [initCodeBytes]

theorem buildCallData_eq {target targetCalldata : String} {dest : AddressText} {func : Bytes}
    (htarget : E.getAddress target = some dest) (hcalldata : getBytes targetCalldata = some func) :
    buildCallData E target targetCalldata = some (hexlify (callDataBytes E dest func)) := by
  simp only [buildCallData, addressValue, htarget, hcalldata, Option.map_some, Option.bind_eq_bind,
    Option.bind_some]
  rfl

end AccountAbstraction.Client
