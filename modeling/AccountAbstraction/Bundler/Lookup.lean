import AccountAbstraction.Bundler.State

/-!
# Looking up an accepted op

`getUserOperationByHash` and `getUserOperationReceipt` (`bundler/src/index.js:326-367`),
which only read the history.

* `get_eventsOf`: the event an item gets is that of the last log of the receipt that
  decodes to a `UserOperationEvent` of its hash.
* `receiptReply_reports_iff`: the reply carries the values of an event exactly when it is
  the one the item got.
-/

namespace AccountAbstraction.Bundler

open Js

/-! ## Model -/

/-- `params[i]`. -/
def elementAt (params : Json) (i : ℕ) : Except JsError (Option Json) :=
  match params with
  | .null => .error (readNullError "null" (toString i))
  | .arr items => .ok items[i]?
  | .str s => .ok (s.toList[i]?.map fun c => .str (String.singleton c))
  | v => .ok (v.field (toString i))

/-- The reply of `getUserOperationByHash`. -/
structure UserOperationReply where
  userOperation : Json
  entryPoint : AddressText
  transactionHash : Option String
  blockHash : Option String
  blockNumber : Option String

/-- The `receipt` of a receipt reply. -/
structure ReceiptReply where
  transactionHash : Option String
  transactionIndex : String
  blockHash : Option String
  blockNumber : String
  from' : Option String
  to' : Option String
  cumulativeGasUsed : String
  gasUsed : String
  effectiveGasPrice : String
  status : String

/-- The reply of `getUserOperationReceipt`. -/
structure UserOperationReceipt where
  userOpHash : Bytes32
  entryPoint : AddressText
  sender : AddressText
  nonce : String
  paymaster : AddressText
  actualGasCost : String
  actualGasUsed : String
  success : Bool
  logs : List LogReply
  receipt : ReceiptReply

/-- `this.history.get(hash)`. -/
def LnetBundler.historyItem? (b : LnetBundler) (hash : Bytes32) : Option Item :=
  (b.history.get hash).bind fun i => b.items[i]?

/-- `getUserOperationByHash(params)` (`bundler/src/index.js:326-337`). -/
def LnetBundler.getUserOperationByHash (b : LnetBundler) (params : Json) :
    Except JsError (Option UserOperationReply) := do
  let hash ← normalizeBytes32 (← elementAt params 0) "userOpHash"
  match b.historyItem? hash with
  | none => return none
  | some item =>
    let userOperation ← serializeUserOp item.op
    return some
      { userOperation := userOperation, entryPoint := item.entryPoint,
        transactionHash := item.transactionHash,
        blockHash := (item.receipt.bind (·.receipt.blockHash)).filter (· ≠ ""),
        blockNumber := (item.receipt.bind (·.receipt.blockNumber)).map toQuantity }

/-- The object that `getUserOperationReceipt` builds (`bundler/src/index.js:344-366`). -/
def receiptReply (hash : Bytes32) (item : Item) (r : ItemReceipt) :
    Except JsError UserOperationReceipt := do
  let event := r.userOperationEvent
  let nonce ← toHex item.op.nonce
  let blockNumber ← toHexField r.receipt.blockNumber
  let cumulativeGasUsed ← toHexField r.receipt.cumulativeGasUsed
  let gasUsed ← toHexField r.receipt.gasUsed
  return {
    userOpHash := hash
    entryPoint := item.entryPoint
    sender := item.op.sender
    nonce := nonce
    paymaster := (event.map (·.paymaster)).getD zeroAddress
    actualGasCost := toQuantity ((event.map (·.actualGasCost)).getD 0)
    actualGasUsed := toQuantity ((event.map (·.actualGasUsed)).getD 0)
    success := (event.map (·.success)).getD (r.receipt.status == some 1)
    logs := r.logs
    receipt := {
      transactionHash := txHashOf r.receipt
      transactionIndex := toQuantity (r.receipt.index.getD 0)
      blockHash := r.receipt.blockHash
      blockNumber := blockNumber
      from' := r.receipt.from'
      to' := r.receipt.to'
      cumulativeGasUsed := cumulativeGasUsed
      gasUsed := gasUsed
      effectiveGasPrice := toQuantity (r.receipt.gasPrice.getD 0)
      status := toQuantity (r.receipt.status.getD 0) } }

/-- `getUserOperationReceipt(params)` (`bundler/src/index.js:339-367`). -/
def LnetBundler.getUserOperationReceipt (b : LnetBundler) (params : Json) :
    Except JsError (Option UserOperationReceipt) := do
  let hash ← normalizeBytes32 (← elementAt params 0) "userOpHash"
  match (b.historyItem? hash).bind fun item => item.receipt.map fun r => (item, r) with
  | none => return none
  | some (item, r) => return some (← receiptReply hash item r)

/-- The lookup of a hash in the form in which the bundler returned it. -/
theorem getUserOperationReceipt_of_item {b : LnetBundler} {hash : Bytes32} {item : Item}
    {r : ItemReceipt} (hitem : b.historyItem? hash = some item) (hr : item.receipt = some r) :
    b.getUserOperationReceipt (.arr [.str hash.val]) = (receiptReply hash item r).map some := by
  simp only [LnetBundler.getUserOperationReceipt, elementAt, List.getElem?_cons_zero, bind,
    Except.bind, normalizeBytes32_val, hitem, hr, Option.bind_some, Option.map_some]
  cases receiptReply hash item r <;> rfl

/-! ## The event of an op -/

/-- The event that a log contributes for `hash`. -/
def eventFor (parseLog : ParseLog) (hash : Bytes32) (log : LogItem) : Option UserOperationEvent :=
  match parseLog log.topics log.data with
  | some (userOpHash, event) => if userOpHash = hash then some event else none
  | none => none

theorem get_collectEvent (parseLog : ParseLog) (events : OrderedMap Bytes32 UserOperationEvent)
    (log : LogItem) (hash : Bytes32) :
    (collectEvent parseLog events log).get hash =
      (eventFor parseLog hash log).or (events.get hash) := by
  unfold collectEvent eventFor
  cases parseLog log.topics log.data with
  | none => rfl
  | some found =>
    obtain ⟨userOpHash, event⟩ := found
    simp only [OrderedMap.get_set]
    by_cases h : hash = userOpHash
    · simp [h]
    · simp [h, Ne.symm h]

theorem get_foldl_collectEvent (parseLog : ParseLog) (hash : Bytes32) :
    ∀ (logs : List LogItem) (events : OrderedMap Bytes32 UserOperationEvent),
      (logs.foldl (collectEvent parseLog) events).get hash =
        (logs.filterMap (eventFor parseLog hash)).getLast?.or (events.get hash) := by
  intro logs
  induction logs with
  | nil => intro events; rfl
  | cons log logs ih =>
    intro events
    rw [List.foldl_cons, ih, get_collectEvent]
    cases hlog : eventFor parseLog hash log with
    | none => rw [List.filterMap_cons_none hlog, Option.none_or]
    | some event =>
      rw [List.filterMap_cons_some hlog, List.getLast?_cons]
      cases (logs.filterMap (eventFor parseLog hash)).getLast? <;> rfl

/-- Later logs overwrite earlier ones. -/
theorem get_eventsOf (parseLog : ParseLog) (receipt : Receipt) (hash : Bytes32) :
    (eventsOf parseLog receipt).get hash =
      (receipt.logs.filterMap (eventFor parseLog hash)).getLast? := by
  rw [eventsOf, get_foldl_collectEvent, OrderedMap.get_empty, Option.or_none]

/-! ## The reported outcome -/

/-- The reply carries the outcome of `event`. -/
def UserOperationReceipt.Reports (reply : UserOperationReceipt) (event : UserOperationEvent) :
    Prop :=
  reply.success = event.success ∧ reply.paymaster = event.paymaster ∧
    reply.actualGasCost = toQuantity event.actualGasCost ∧
    reply.actualGasUsed = toQuantity event.actualGasUsed

theorem receiptReply_eq {hash : Bytes32} {item : Item} {r : ItemReceipt}
    {reply : UserOperationReceipt} (h : receiptReply hash item r = .ok reply) :
    reply.paymaster = (r.userOperationEvent.map (·.paymaster)).getD zeroAddress ∧
    reply.actualGasCost = toQuantity ((r.userOperationEvent.map (·.actualGasCost)).getD 0) ∧
    reply.actualGasUsed = toQuantity ((r.userOperationEvent.map (·.actualGasUsed)).getD 0) ∧
    reply.success = (r.userOperationEvent.map (·.success)).getD (r.receipt.status == some 1) := by
  simp only [receiptReply, bind, Except.bind, pure, Except.pure] at h
  split at h
  · cases h
  · split at h
    · cases h
    · split at h
      · cases h
      · split at h
        · cases h
        · cases h
          exact ⟨rfl, rfl, rfl, rfl⟩

theorem receiptReply_reports_iff {hash : Bytes32} {item : Item} {r : ItemReceipt}
    {reply : UserOperationReceipt} (h : receiptReply hash item r = .ok reply)
    {event : UserOperationEvent} (hevent : r.userOperationEvent = some event)
    (other : UserOperationEvent) : reply.Reports other ↔ event = other := by
  obtain ⟨hpaymaster, hcost, hused, hsuccess⟩ := receiptReply_eq h
  simp only [hevent, Option.map_some, Option.getD_some] at hpaymaster hcost hused hsuccess
  rw [UserOperationReceipt.Reports, hpaymaster, hcost, hused, hsuccess]
  constructor
  · rintro ⟨h₁, h₂, h₃, h₄⟩
    obtain ⟨paymaster, success, actualGasCost, actualGasUsed⟩ := event
    obtain ⟨paymaster', success', actualGasCost', actualGasUsed'⟩ := other
    simp only at h₁ h₂ h₃ h₄
    rw [h₁, h₂, toQuantity_injective h₃, toQuantity_injective h₄]
  · rintro rfl
    exact ⟨rfl, rfl, rfl, rfl⟩

end AccountAbstraction.Bundler
