import AccountAbstraction.Contracts.Evm

/-!
# The smart account

`src/LnetAccount.sol` with what it inherits from `BaseAccount` v0.7, `Initializable` and
`UUPSUpgradeable` 5.0.2, behind an `ERC1967Proxy`. A function of the account gives the
storage that it leaves and the calls that it then makes, one after the other; the effect
of these calls is that of the chain around it. The dispatcher that the compiler generates
is a parameter.

* `fallback_of_stranger`: what a call does that comes neither from the owner nor from the
  account, and not from the EntryPoint but for the validation of an op the owner did not sign.
-/

namespace AccountAbstraction.Contracts

open Js Abi

/-- The functions that can be called from outside, with their arguments. -/
inductive AccountCall
  | receive
  | execute (dest : Address) (value : Uint 256) (func : Bytes)
  | executeBatch (dest : List Address) (value : List (Uint 256)) (func : List Bytes)
  /-- `initialize`, a name that Lean reserves. -/
  | initializeProxy (anOwner : Address)
  | validateUserOp (userOp : PackedUserOperation) (userOpHash : Word) (missingAccountFunds : Uint 256)
  | addDeposit
  | withdrawDepositTo (withdrawAddress : Address) (amount : Uint 256)
  | upgradeToAndCall (newImplementation : Address) (data : Bytes)
  | proxiableUUID
  /-- A function that only reads: `owner`, `entryPoint`, `getDeposit`, `getNonce`,
      `UPGRADE_INTERFACE_VERSION`, `supportsInterface` and the callbacks of `TokenCallbackHandler`. -/
  | view
deriving DecidableEq

/-- A call that the account makes. -/
inductive OutCall
  /-- `target.call{value: value}(data)` in `_call`. -/
  | call (target : Address) (value : ℕ) (data : Bytes)
  /-- `entryPoint().depositTo{value: value}(address(this))`. -/
  | depositTo (value : ℕ)
  /-- `entryPoint().withdrawTo(withdrawAddress, amount)`. -/
  | withdrawTo (withdrawAddress : Address) (amount : ℕ)
  /-- The payment of `BaseAccount._payPrefund`, whose failure is ignored. -/
  | payPrefund (missingAccountFunds : ℕ)
  /-- The delegate call of `ERC1967Utils.upgradeToAndCall`. -/
  | functionDelegateCall (target : Address) (data : Bytes)
deriving DecidableEq

/-- The deployed implementation, which every proxy delegates to. -/
structure Logic extends Evm where
  /-- `__self` of `UUPSUpgradeable`. -/
  address : Address
  entryPoint : Address
  /-- The function that some calldata calls; `none` where there is none, or where its arguments
      are malformed. -/
  dispatch : Bytes → Option AccountCall
  /-- Whether there is code at an address which gives the implementation slot as its
      `proxiableUUID`. -/
  proxiable : Address → Bool

/-- An account: its proxy's address and storage. -/
structure LnetAccount where
  address : Address
  owner : Address
  /-- The implementation slot of ERC-1967. -/
  implementation : Address
  /-- `_initialized` -/
  initialized : Uint 64
  /-- `_initializing` -/
  initializing : Bool
  /-- Whether `address(this).code.length` is positive, as it is once the constructor is done. -/
  hasCode : Bool
deriving DecidableEq

/-- What a call of the account does: the storage after its own writes, the calls that it makes
    then, and for `validateUserOp` the op with the result. -/
structure Plan where
  account : LnetAccount
  calls : List OutCall
  validation : Option (PackedUserOperation × ℕ)
deriving DecidableEq

/-- `SIG_VALIDATION_FAILED` -/
def sigValidationFailed : ℕ := 1

/-- `SIG_VALIDATION_SUCCESS` -/
def sigValidationSuccess : ℕ := 0

namespace LnetAccount

/-! ## The functions of the account -/

/-- `_onlyOwner` (lines 48-51). -/
def onlyOwner (account : LnetAccount) (sender : Address) : Bool :=
  sender = account.owner || sender = account.address

/-- `_requireFromEntryPointOrOwner` (lines 91-93). -/
def requireFromEntryPointOrOwner (logic : Logic) (account : LnetAccount) (sender : Address) : Bool :=
  sender = logic.entryPoint || sender = account.owner

/-- `execute` (lines 57-60). -/
def execute (logic : Logic) (account : LnetAccount) (sender dest : Address) (value : Uint 256)
    (func : Bytes) : Option Plan :=
  if account.requireFromEntryPointOrOwner logic sender then
    some ⟨account, [.call dest value.val func], none⟩
  else none

/-- The calls of `executeBatch`; without values they all send 0 wei. -/
def batchCalls (dest : List Address) (value : List (Uint 256)) (func : List Bytes) : List OutCall :=
  if value = [] then List.zipWith (fun d f => .call d 0 f) dest func
  else List.zipWith (fun d vf => .call d vf.1.val vf.2) dest (value.zip func)

/-- `executeBatch` (lines 65-78). -/
def executeBatch (logic : Logic) (account : LnetAccount) (sender : Address) (dest : List Address)
    (value : List (Uint 256)) (func : List Bytes) : Option Plan :=
  if account.requireFromEntryPointOrOwner logic sender then
    if dest.length = func.length ∧ (value.length = 0 ∨ value.length = func.length) then
      some ⟨account, batchCalls dest value func, none⟩
    else none
  else none

/-- `initialize` under the modifier `initializer` (lines 82-89). -/
def initializeProxy (account : LnetAccount) (anOwner : Address) : Option Plan :=
  let isTopLevelCall := !account.initializing
  let initialSetup := account.initialized = 0 ∧ isTopLevelCall
  let construction := account.initialized = 1 ∧ account.hasCode = false
  if initialSetup ∨ construction then
    some ⟨{ account with
      owner := anOwner
      initialized := 1
      initializing := if isTopLevelCall then false else account.initializing }, [], none⟩
  else none

/-- `_validateSignature` (lines 96-107); `ECDSA.recover` reverts on a malformed signature. -/
def validateSignature (logic : Logic) (account : LnetAccount) (userOp : PackedUserOperation)
    (userOpHash : Word) : Option ℕ := do
  let signer ← logic.recover (logic.toEthSignedMessageHash userOpHash) userOp.signature
  return if account.owner ≠ signer then sigValidationFailed else sigValidationSuccess

/-- `BaseAccount._payPrefund`. -/
def payPrefund (missingAccountFunds : Uint 256) : List OutCall :=
  if missingAccountFunds ≠ 0 then [.payPrefund missingAccountFunds.val] else []

/-- `BaseAccount.validateUserOp`; its `_validateNonce` is empty. -/
def validateUserOp (logic : Logic) (account : LnetAccount) (sender : Address)
    (userOp : PackedUserOperation) (userOpHash : Word) (missingAccountFunds : Uint 256) :
    Option Plan := do
  if sender = logic.entryPoint then
    let validationData ← account.validateSignature logic userOp userOpHash
    return ⟨account, payPrefund missingAccountFunds, some (userOp, validationData)⟩
  else none

/-- `withdrawDepositTo` (lines 131-133). -/
def withdrawDepositTo (account : LnetAccount) (sender withdrawAddress : Address)
    (amount : Uint 256) : Option Plan :=
  if account.onlyOwner sender then some ⟨account, [.withdrawTo withdrawAddress amount.val], none⟩
  else none

/-- `UUPSUpgradeable.upgradeToAndCall`, with `_authorizeUpgrade` (lines 135-138). -/
def upgradeToAndCall (logic : Logic) (account : LnetAccount) (sender : Address) (msgValue : ℕ)
    (newImplementation : Address) (data : Bytes) : Option Plan :=
  let onlyProxy := account.address ≠ logic.address ∧ account.implementation = logic.address
  if onlyProxy ∧ account.onlyOwner sender ∧ logic.proxiable newImplementation then
    let account := { account with implementation := newImplementation }
    if data.length > 0 then some ⟨account, [.functionDelegateCall newImplementation data], none⟩
    else if msgValue > 0 then none
    else some ⟨account, [], none⟩
  else none

/-- A call with `msg.sender`, `msg.value` and `msg.data`. Only `receive`, `addDeposit` and
    `upgradeToAndCall` are payable, and `proxiableUUID` is `notDelegated`. -/
def fallback (logic : Logic) (account : LnetAccount) (sender : Address) (value : ℕ) (data : Bytes) :
    Option Plan := do
  match ← logic.dispatch data with
  | .receive => return ⟨account, [], none⟩
  | .addDeposit => return ⟨account, [.depositTo value], none⟩
  | .upgradeToAndCall newImplementation data =>
    account.upgradeToAndCall logic sender value newImplementation data
  | .proxiableUUID => none
  | .execute dest amount func =>
    if value = 0 then account.execute logic sender dest amount func else none
  | .executeBatch dest amounts func =>
    if value = 0 then account.executeBatch logic sender dest amounts func else none
  | .initializeProxy anOwner => if value = 0 then account.initializeProxy anOwner else none
  | .validateUserOp userOp userOpHash missingAccountFunds =>
    if value = 0 then account.validateUserOp logic sender userOp userOpHash missingAccountFunds
    else none
  | .withdrawDepositTo withdrawAddress amount =>
    if value = 0 then account.withdrawDepositTo sender withdrawAddress amount else none
  | .view => if value = 0 then return ⟨account, [], none⟩ else none

/-! ## The dispatcher -/

/-- `abi.encodeCall(LnetAccount.initialize, (owner))`. -/
def encodeInitialize (owner : Address) : Bytes :=
  bigEndian 4 0xc4d66de8 ++ encode [.address owner.val]

/-- The dispatcher, for the functions whose arguments are addresses, integers and bytes. -/
def plainDispatch (data : Bytes) : Option AccountCall :=
  match decodeCall (bigEndian 4 0xc4d66de8) [.address] data,
    decodeCall (bigEndian 4 0xb61d27f6) [.address, .uint256, .bytes] data with
  | some [.address anOwner], _ => some (.initializeProxy (Fin.ofNat _ anOwner))
  | _, some [.address dest, .uint value, .bytes func] =>
    some (.execute (Fin.ofNat _ dest) (Fin.ofNat _ value) func)
  | _, _ =>
    if data = [] then some .receive
    else if data.take 4 = bigEndian 4 0x4a58db19 then some .addDeposit
    else if data.take 4 = bigEndian 4 0x52d1902d then some .proxiableUUID
    else if data.take 4 = bigEndian 4 0x8da5cb5b then some .view
    else none

theorem plainDispatch_encodeInitialize (owner : Address) :
    plainDispatch (encodeInitialize owner) = some (.initializeProxy owner) := by
  have hselector : (encodeInitialize owner).take 4 = bigEndian 4 0xc4d66de8 :=
    List.take_left' (length_bigEndian 4 _)
  have harguments : (encodeInitialize owner).drop 4 = encode [.address owner.val] :=
    List.drop_left' (length_bigEndian 4 _)
  have hfits : ∀ v ∈ [AbiValue.address owner.val], v.Fits := by
    intro v hv
    rw [List.mem_singleton.mp hv]
    exact owner.isLt
  have hdecode := decode_encode hfits [] (by simp [encode, length_heads, AbiValue.tail])
  rw [List.append_nil] at hdecode
  have hcall : decodeCall (bigEndian 4 0xc4d66de8) [.address] (encodeInitialize owner) =
      some [.address owner.val] := by
    rw [decodeCall, if_pos hselector, harguments]
    exact hdecode
  rw [plainDispatch, hcall]
  show some (AccountCall.initializeProxy (Fin.ofNat _ owner.val)) = _
  rw [Fin.ofNat_eq_cast, Fin.cast_val_eq_self]

/-! ## The proxy's constructor -/

/-- The storage of a proxy at the start of its constructor. -/
def fresh (address implementation : Address) : LnetAccount where
  address := address
  owner := 0
  implementation := implementation
  initialized := 0
  initializing := false
  hasCode := false

/-- The constructor of `ERC1967Proxy`, which sets the implementation and delegates `data` to it. -/
def construct (logic : Logic) (address sender : Address) (data : Bytes) : Option Plan :=
  (fresh address logic.address).fallback logic sender 0 data

/-- The account once its code is there. -/
def deployed (account : LnetAccount) : LnetAccount := { account with hasCode := true }

/-- An account that a proxy's constructor has initialized for an owner, and that has not been
    upgraded. -/
structure IsInitialized (logic : Logic) (owner : Address) (account : LnetAccount) : Prop where
  owner : account.owner = owner
  implementation : account.implementation = logic.address
  initialized : account.initialized = 1
  initializing : account.initializing = false
  hasCode : account.hasCode = true

theorem construct_initialize {logic : Logic} {data : Bytes} {owner : Address}
    (h : logic.dispatch data = some (.initializeProxy owner)) (address sender : Address) :
    ∃ account, construct logic address sender data = some ⟨account, [], none⟩ ∧
      account.address = address ∧ account.deployed.IsInitialized logic owner := by
  refine ⟨{ fresh address logic.address with owner := owner, initialized := 1 }, ?_, rfl, ?_⟩
  · simp [construct, fallback, h, initializeProxy, fresh]
  · constructor <;> rfl

/-! ## Calls by strangers -/

/-- The owner signed an op, as far as its signature tells. -/
def SignedBy (logic : Logic) (owner : Address) (userOp : PackedUserOperation) (userOpHash : Word) :
    Prop :=
  logic.recover (logic.toEthSignedMessageHash userOpHash) userOp.signature = some owner

/-- What a stranger's call may do: nothing, forward its value to the deposit, or fail as a
    validation. -/
inductive Harmless (account : LnetAccount) (value : ℕ) : Plan → Prop
  | idle : Harmless account value ⟨account, [], none⟩
  | addDeposit : Harmless account value ⟨account, [.depositTo value], none⟩
  | failed (userOp : PackedUserOperation) (missingAccountFunds : Uint 256) :
    Harmless account value
      ⟨account, payPrefund missingAccountFunds, some (userOp, sigValidationFailed)⟩

theorem initializeProxy_eq_none {logic : Logic} {owner : Address} {account : LnetAccount}
    (h : account.IsInitialized logic owner) (anOwner : Address) : account.initializeProxy anOwner = none := by
  rw [initializeProxy, if_neg]
  rw [h.initialized, h.hasCode]
  simp

theorem onlyOwner_eq_false {account : LnetAccount} {sender : Address} (howner : sender ≠ account.owner)
    (hself : sender ≠ account.address) : account.onlyOwner sender = false := by
  simp [onlyOwner, howner, hself]

/-- The validation of an op that the owner did not sign fails. -/
theorem validateUserOp_unsigned {logic : Logic} {account : LnetAccount} {sender : Address}
    {userOp : PackedUserOperation} {userOpHash : Word} {missingAccountFunds : Uint 256} {plan : Plan}
    (hunsigned : ¬SignedBy logic account.owner userOp userOpHash)
    (h : account.validateUserOp logic sender userOp userOpHash missingAccountFunds = some plan)
    (value : ℕ) : Harmless account value plan := by
  rw [validateUserOp] at h
  split_ifs at h
  obtain ⟨validationData, hdata, heq⟩ := Option.bind_eq_some_iff.mp h
  obtain ⟨signer, hsigner, hresult⟩ := Option.bind_eq_some_iff.mp hdata
  have hne : account.owner ≠ signer := by
    rintro rfl
    exact hunsigned hsigner
  rw [if_pos hne] at hresult
  cases hresult
  cases heq
  exact .failed userOp missingAccountFunds

/-- A call by anyone but the owner and the account, where the EntryPoint only asks for the
    validation of ops that the owner did not sign. -/
theorem fallback_of_stranger {logic : Logic} {owner sender : Address} {account : LnetAccount}
    {value : ℕ} {data : Bytes} {plan : Plan} (hinit : account.IsInitialized logic owner)
    (howner : sender ≠ owner) (hself : sender ≠ account.address)
    (hentry : sender = logic.entryPoint → ∃ userOp userOpHash missingAccountFunds,
      logic.dispatch data = some (.validateUserOp userOp userOpHash missingAccountFunds) ∧
        ¬SignedBy logic owner userOp userOpHash)
    (h : account.fallback logic sender value data = some plan) : Harmless account value plan := by
  have howner' : sender ≠ account.owner := by
    rw [hinit.owner]
    exact howner
  have honly := onlyOwner_eq_false howner' hself
  obtain ⟨call, hcall, hplan⟩ := Option.bind_eq_some_iff.mp h
  by_cases hsender : sender = logic.entryPoint
  · obtain ⟨userOp, userOpHash, missing, hdispatch, hunsigned⟩ := hentry hsender
    cases hcall.symm.trans hdispatch
    split_ifs at hplan
    rw [← hinit.owner] at hunsigned
    exact validateUserOp_unsigned hunsigned hplan value
  · have hrequire : account.requireFromEntryPointOrOwner logic sender = false := by
      simp [requireFromEntryPointOrOwner, hsender, howner']
    cases call with
    | receive => cases hplan; exact .idle
    | addDeposit => cases hplan; exact .addDeposit
    | view => split_ifs at hplan; cases hplan; exact .idle
    | proxiableUUID => cases hplan
    | execute dest amount func => simp [execute, hrequire] at hplan
    | executeBatch dest amounts func => simp [executeBatch, hrequire] at hplan
    | initializeProxy anOwner => simp [initializeProxy_eq_none hinit] at hplan
    | validateUserOp userOp userOpHash missing => simp [validateUserOp, hsender] at hplan
    | withdrawDepositTo withdrawAddress amount => simp [withdrawDepositTo, honly] at hplan
    | upgradeToAndCall newImplementation data => simp [upgradeToAndCall, honly] at hplan

end LnetAccount

end AccountAbstraction.Contracts
