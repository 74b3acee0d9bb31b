import AccountAbstraction.Bundler.Simulation
import AccountAbstraction.Js.OrderedMap

/-!
# The state of `LnetBundler` and its synchronous steps

An `async` method runs without interruption from one `await` to the next, so each
method of `LnetBundler` (`bundler/src/index.js:229-444`) is modelled as the pieces
between its `await`s, functions on the state `LnetBundler`. How the pieces of
concurrent calls interleave is the subject of `AccountAbstraction.Bundler.System`.

The two maps and the snapshot of a bundle share the item objects, which the code
mutates. An object is a position in `LnetBundler.items`, and the maps hold positions.
The `addedAt` time of an item and the console output are left out: nothing reads them.

* `enqueue_item?`: what an accepted op adds.
* `settles_abandon`, `complete_ok`, `complete_error`: however a bundle ends, its items get one final
  status and leave the mempool, and nothing else changes.
-/

namespace AccountAbstraction.Bundler

open Js

/-! ## Data -/

/-- The part of `config` that the methods read. -/
structure Config where
  entryPoint : String
  beneficiary : String
  simulationMode : SimulationMode
  /-- The integer to which `slice` truncates `config.maxBundleSize`. -/
  maxBundleSize : ℤ
  bundleGasLimit : ℤ
  enforceZeroGasFees : Bool

/-- A log of a transaction receipt; a number may be missing. -/
structure LogItem where
  address : String
  topics : List String
  data : String
  blockHash : String
  blockNumber : Option ℕ
  transactionHash : String
  transactionIndex : Option ℕ
  index : Option ℕ
  removed : Bool
deriving DecidableEq

/-- A log as `markIncluded` stores it (`bundler/src/index.js:428-438`). -/
structure LogReply where
  address : String
  topics : List String
  data : String
  blockHash : String
  blockNumber : String
  transactionHash : String
  transactionIndex : String
  logIndex : String
  removed : Bool
deriving DecidableEq

/-- What `markIncluded` keeps of a `UserOperationEvent` (`bundler/src/index.js:411-416`). -/
structure UserOperationEvent where
  paymaster : AddressText
  success : Bool
  actualGasCost : ℕ
  actualGasUsed : ℕ
deriving DecidableEq

/-- The receipt with which `tx.wait()` resolves. -/
structure Receipt where
  hash : Option String
  transactionHash : Option String
  index : Option ℕ
  blockHash : Option String
  blockNumber : Option ℕ
  from' : Option String
  to' : Option String
  cumulativeGasUsed : Option ℕ
  gasUsed : Option ℕ
  gasPrice : Option ℕ
  status : Option ℕ
  logs : List LogItem
deriving DecidableEq

/-- `{ ...receipt, logs, userOperationEvent }`. -/
structure ItemReceipt where
  receipt : Receipt
  logs : List LogReply
  userOperationEvent : Option UserOperationEvent
deriving DecidableEq

inductive ItemStatus
  | pending
  | included
  | failed
deriving DecidableEq

/-- An entry of the mempool and of the history (`bundler/src/index.js:267-276`). -/
structure Item where
  userOpHash : Bytes32
  op : UserOp
  entryPoint : AddressText
  status : ItemStatus
  transactionHash : Option String
  receipt : Option ItemReceipt
  error : Option String
deriving DecidableEq

/-- The fields of the class that change. -/
structure LnetBundler where
  /-- The item objects allocated so far, in the order of their allocation. -/
  items : List Item
  mempool : OrderedMap Bytes32 ℕ
  history : OrderedMap Bytes32 ℕ
  bundling : Bool

/-- `ethers.parseLog` for the bundler's ABI, on the topics and the data of a log: the hash
    and the values of a `UserOperationEvent`, `none` where it throws or returns `null`. -/
abbrev ParseLog := List String → String → Option (Bytes32 × UserOperationEvent)

namespace LnetBundler

/-- The state after the constructor (`bundler/src/index.js:230-238`). -/
def init : LnetBundler := { items := [], mempool := ∅, history := ∅, bundling := false }

/-- `item.userOpHash`. -/
def hashOf (b : LnetBundler) (i : ℕ) : Option Bytes32 := b.items[i]?.map Item.userOpHash

/-- `item.status`. -/
def statusOf (b : LnetBundler) (i : ℕ) : Option ItemStatus := b.items[i]?.map Item.status

/-- `item.receipt`. -/
def receiptOf (b : LnetBundler) (i : ℕ) : Option ItemReceipt := b.items[i]?.bind Item.receipt

/-- `item.op`. -/
def opOf (b : LnetBundler) (i : ℕ) : Option UserOp := b.items[i]?.map Item.op

/-- Assign to fields of an item object. -/
def modifyItem (b : LnetBundler) (i : ℕ) (f : Item → Item) : LnetBundler :=
  { b with items := b.items.modify i f }

/-- `this.mempool.delete(item.userOpHash)`. -/
def dropItem (b : LnetBundler) (i : ℕ) : LnetBundler :=
  match b.hashOf i with
  | some hash => { b with mempool := b.mempool.delete hash }
  | none => b

end LnetBundler

/-! ## `sendUserOperation` -/

/-- `const [rawOp, entryPointAddress] = params`; a string is iterated by characters and any
    other non-array is not iterable. -/
def destructure (params : Json) : Except JsError (Option Json × Option Json) :=
  match params with
  | .arr items => .ok (items[0]?, items[1]?)
  | .str s =>
    let chars := s.toList.map fun c => Json.str (String.singleton c)
    .ok (chars[0]?, chars[1]?)
  | _ => .error { name := "TypeError", message := "params is not iterable" }

/-- `sendUserOperation` up to the `await` of `getUserOpHash` (`bundler/src/index.js:252-262`). -/
def acceptParams (E : Ethers) (config : Config) (params : Json) :
    Except JsError (AddressText × UserOp) := do
  let (rawOp, entryPointAddress) ← destructure params
  let entryPoint ← normalizeAddress E entryPointAddress "entryPoint"
  if lower entryPoint.val ≠ lower config.entryPoint then
    throw (rpcError (-32602) s!"unsupported EntryPoint {entryPoint.val}")
  let op ← normalizeUserOp E rawOp
  if config.enforceZeroGasFees ∧ op.gasFees ≠ zeroBytes32 then
    throw (rpcError (-32602) "LNET requires packed gasFees = 0x00..00")
  return (entryPoint, op)

/-- `this.history.has(userOpHash) || this.mempool.has(userOpHash)` (`bundler/src/index.js:264`). -/
def LnetBundler.isKnown (b : LnetBundler) (userOpHash : Bytes32) : Bool :=
  b.history.has userOpHash || b.mempool.has userOpHash

/-- A new item object (`bundler/src/index.js:267-276`). -/
def newItem (userOpHash : Bytes32) (op : UserOp) (entryPoint : AddressText) : Item :=
  { userOpHash, op, entryPoint, status := .pending, transactionHash := none, receipt := none,
    error := none }

/-- `sendUserOperation` after `simulateValidation` returned (`bundler/src/index.js:267-278`):
    the item goes into both maps, whatever they hold by then. -/
def LnetBundler.enqueue (b : LnetBundler) (item : Item) : LnetBundler :=
  { b with
    items := b.items ++ [item]
    mempool := b.mempool.set item.userOpHash b.items.length
    history := b.history.set item.userOpHash b.items.length }

/-! ## `bundleNow` -/

/-- `list.slice(0, stop)`. -/
def sliceTo {α : Type*} (list : List α) (stop : ℤ) : List α :=
  if 0 ≤ stop then list.take stop.toNat else list.take (list.length + stop).toNat

/-- `[...this.mempool.values()].slice(0, this.config.maxBundleSize)`. -/
def LnetBundler.snapshot (b : LnetBundler) (config : Config) : List ℕ :=
  sliceTo b.mempool.values config.maxBundleSize

/-- The `handleOps` call of `submitDirect` (`bundler/src/index.js:398-403`). -/
structure HandleOps where
  ops : List UserOp
  beneficiary : String
  gasPrice : ℤ
  gasLimit : ℤ

/-- `submitDirect(items.map((item) => item.op))`. -/
def submitDirect (config : Config) (b : LnetBundler) (items : List ℕ) : HandleOps :=
  { ops := items.filterMap b.opOf, beneficiary := config.beneficiary, gasPrice := 0,
    gasLimit := config.bundleGasLimit }

/-- A loop over the items of a bundle that assigns to the fields of an item and deletes its
    hash from the mempool. -/
def settleItems (assign : Item → Item) : List ℕ → LnetBundler → LnetBundler
  | [], b => b
  | i :: items, b => settleItems assign items ((b.modifyItem i assign).dropItem i)

/-- `item.status = "failed"; item.error = reason`. -/
def setFailed (reason : String) (item : Item) : Item :=
  { item with status := .failed, error := some reason }

/-- The loop of the `catch` block (`bundler/src/index.js:387-391`). -/
def failItems (reason : String) (items : List ℕ) (b : LnetBundler) : LnetBundler :=
  settleItems (setFailed reason) items b

/-- `toHex(value)` for a number of a receipt; a missing one throws. -/
def toHexField (value : Option ℕ) : Except JsError String :=
  match value with
  | some n => .ok (toQuantity n)
  | none => .error { name := "TypeError", message := "invalid BigNumberish value",
                     code := some (.str "INVALID_ARGUMENT") }

/-- One element of `receipt.logs.map(…)` (`bundler/src/index.js:428-438`). -/
def logReply (log : LogItem) : Except JsError LogReply := do
  let blockNumber ← toHexField log.blockNumber
  let transactionIndex ← toHexField log.transactionIndex
  let logIndex ← toHexField log.index
  return { address := log.address, topics := log.topics, data := log.data,
           blockHash := log.blockHash, blockNumber := blockNumber,
           transactionHash := log.transactionHash, transactionIndex := transactionIndex,
           logIndex := logIndex, removed := log.removed }

/-- `txHashOf(receipt)` (`bundler/src/index.js:52-54`). -/
def txHashOf (receipt : Receipt) : Option String :=
  match receipt.hash with
  | some hash => if hash ≠ "" then some hash else receipt.transactionHash
  | none => receipt.transactionHash

/-- The body of the scan over `receipt.logs` (`bundler/src/index.js:407-421`). -/
def collectEvent (parseLog : ParseLog) (events : OrderedMap Bytes32 UserOperationEvent)
    (log : LogItem) : OrderedMap Bytes32 UserOperationEvent :=
  match parseLog log.topics log.data with
  | some (userOpHash, event) => events.set userOpHash event
  | none => events

/-- The `events` map of `markIncluded`. -/
def eventsOf (parseLog : ParseLog) (receipt : Receipt) : OrderedMap Bytes32 UserOperationEvent :=
  receipt.logs.foldl (collectEvent parseLog) ∅

/-- `item.receipt` (`bundler/src/index.js:426-440`). -/
def itemReceipt (receipt : Receipt) (event : Option UserOperationEvent) :
    Except JsError ItemReceipt := do
  let logs ← receipt.logs.mapM logReply
  return { receipt, logs, userOperationEvent := event }

/-- `item.status = "included"; item.transactionHash = txHashOf(receipt)`. -/
def setIncluded (receipt : Receipt) (item : Item) : Item :=
  { item with status := .included, transactionHash := txHashOf receipt }

/-- `item.receipt = …`. -/
def setReceipt (receipt : ItemReceipt) (item : Item) : Item := { item with receipt := some receipt }

/-- The loop of `markIncluded` over the items (`bundler/src/index.js:422-442`). An item is
    already `included` when the construction of its receipt throws. -/
def includeItems (events : OrderedMap Bytes32 UserOperationEvent) (receipt : Receipt) :
    List ℕ → LnetBundler → LnetBundler × Except JsError Unit
  | [], b => (b, .ok ())
  | i :: items, b =>
    let b := b.modifyItem i (setIncluded receipt)
    match itemReceipt receipt ((b.hashOf i).bind events.get) with
    | .error err => (b, .error err)
    | .ok r => includeItems events receipt items ((b.modifyItem i (setReceipt r)).dropItem i)

/-- `markIncluded(items, receipt)` (`bundler/src/index.js:405-443`), on what `tx.wait()`
    resolved to: `null` has no `logs`. -/
def markIncluded (parseLog : ParseLog) (b : LnetBundler) (items : List ℕ) (receipt : Option Receipt) :
    LnetBundler × Except JsError Unit :=
  match receipt with
  | none => (b, .error (readNullError "null" "logs"))
  | some receipt => includeItems (eventsOf parseLog receipt) receipt items b

/-- The `catch` and `finally` blocks of `bundleNow` (`bundler/src/index.js:385-395`). -/
def abandon (b : LnetBundler) (items : List ℕ) (err : JsError) : LnetBundler :=
  { failItems (decodeKnownError err) items b with bundling := false }

/-- `bundleNow` after `tx.wait()` resolved (`bundler/src/index.js:382-395`), with the error it
    throws, if any. -/
def complete (parseLog : ParseLog) (b : LnetBundler) (items : List ℕ) (receipt : Option Receipt) :
    LnetBundler × Except JsError Unit :=
  match markIncluded parseLog b items receipt with
  | (b, .ok ()) => ({ b with bundling := false }, .ok ())
  | (b, .error err) => (abandon b items err, .error err)

/-! ## What the steps change -/

namespace LnetBundler

variable {b b' : LnetBundler} {i k : ℕ} {hash : Bytes32}

theorem hashOf_eq_some : b.hashOf i = some hash ↔ ∃ item, b.items[i]? = some item ∧
    item.userOpHash = hash := by
  simp [hashOf, Option.map_eq_some_iff]

theorem statusOf_eq_some {status : ItemStatus} : b.statusOf i = some status ↔
    ∃ item, b.items[i]? = some item ∧ item.status = status := by
  simp [statusOf, Option.map_eq_some_iff]

theorem lt_length_of_hashOf (h : b.hashOf i = some hash) : i < b.items.length := by
  obtain ⟨item, hitem, -⟩ := hashOf_eq_some.mp h
  exact (List.getElem?_eq_some_iff.mp hitem).1

/-- Every item has a status. -/
theorem exists_statusOf (h : b.hashOf i = some hash) : ∃ status, b.statusOf i = some status := by
  obtain ⟨item, hitem, -⟩ := hashOf_eq_some.mp h
  exact ⟨item.status, statusOf_eq_some.mpr ⟨item, hitem, rfl⟩⟩

theorem exists_opOf (h : b.hashOf i = some hash) : ∃ op, b.opOf i = some op := by
  obtain ⟨item, hitem, -⟩ := hashOf_eq_some.mp h
  exact ⟨item.op, by rw [opOf, hitem, Option.map_some]⟩

theorem enqueue_item? (b : LnetBundler) (item : Item) (i : ℕ) :
    (b.enqueue item).items[i]? = if i = b.items.length then some item else b.items[i]? := by
  simp only [enqueue]
  split_ifs with h
  · rw [h, List.getElem?_concat_length]
  · rcases Nat.lt_or_gt_of_ne h with hlt | hgt
    · rw [List.getElem?_append_left hlt]
    · rw [List.getElem?_eq_none (by simp; omega), List.getElem?_eq_none (by omega)]

theorem hashOf_enqueue (b : LnetBundler) (item : Item) (i : ℕ) :
    (b.enqueue item).hashOf i =
      if i = b.items.length then some item.userOpHash else b.hashOf i := by
  rw [hashOf, enqueue_item?]
  split_ifs <;> rfl

theorem statusOf_enqueue (b : LnetBundler) (item : Item) (i : ℕ) :
    (b.enqueue item).statusOf i =
      if i = b.items.length then some item.status else b.statusOf i := by
  rw [statusOf, enqueue_item?]
  split_ifs <;> rfl

theorem opOf_enqueue (b : LnetBundler) (item : Item) (i : ℕ) :
    (b.enqueue item).opOf i = if i = b.items.length then some item.op else b.opOf i := by
  rw [opOf, enqueue_item?]
  split_ifs <;> rfl

theorem item?_modifyItem (b : LnetBundler) (i k : ℕ) (f : Item → Item) :
    (b.modifyItem i f).items[k]? = if i = k then b.items[k]?.map f else b.items[k]? := by
  rw [modifyItem, List.getElem?_modify]
  split_ifs <;> simp

theorem hashOf_modifyItem (b : LnetBundler) (i k : ℕ) {f : Item → Item}
    (hf : ∀ item, (f item).userOpHash = item.userOpHash) :
    (b.modifyItem i f).hashOf k = b.hashOf k := by
  rw [hashOf, item?_modifyItem]
  split_ifs
  · rw [Option.map_map]
    exact congrArg (Option.map · _) (funext hf)
  · rfl

theorem receiptOf_modifyItem (b : LnetBundler) (i k : ℕ) {f : Item → Item}
    (hf : ∀ item, (f item).receipt = item.receipt) :
    (b.modifyItem i f).receiptOf k = b.receiptOf k := by
  rw [receiptOf, item?_modifyItem, receiptOf]
  split_ifs
  · cases b.items[k]? with
    | none => rfl
    | some item => exact hf item
  · rfl

theorem dropItem_items (b : LnetBundler) (i : ℕ) : (b.dropItem i).items = b.items := by
  unfold dropItem
  split <;> rfl

theorem dropItem_history (b : LnetBundler) (i : ℕ) : (b.dropItem i).history = b.history := by
  unfold dropItem
  split <;> rfl

theorem get_mempool_dropItem (b : LnetBundler) (i : ℕ) (hash : Bytes32) :
    (b.dropItem i).mempool.get hash =
      if b.hashOf i = some hash then none else b.mempool.get hash := by
  unfold dropItem
  split
  · rename_i h hi
    rw [OrderedMap.get_delete, hi]
    simp only [Option.some.injEq, eq_comm]
  · rename_i hi
    simp [hi]

end LnetBundler

open LnetBundler

/-- Only the items of a bundle change, what they are stays, and only their hashes may leave
    the mempool. -/
structure Frame (items : List ℕ) (b b' : LnetBundler) : Prop where
  history_eq : b'.history = b.history
  hashOf_eq : ∀ i, b'.hashOf i = b.hashOf i
  opOf_eq : ∀ i, b'.opOf i = b.opOf i
  unlisted : ∀ i ∉ items, b'.items[i]? = b.items[i]?
  mempool_unlisted : ∀ hash, (∀ i ∈ items, b.hashOf i ≠ some hash) →
    b'.mempool.get hash = b.mempool.get hash
  mempool_none : ∀ hash, b.mempool.get hash = none → b'.mempool.get hash = none

namespace Frame

variable {items : List ℕ} {b b' b'' : LnetBundler}

theorem refl (items : List ℕ) (b : LnetBundler) : Frame items b b :=
  ⟨rfl, fun _ => rfl, fun _ => rfl, fun _ _ => rfl, fun _ _ => rfl, fun _ h => h⟩

theorem trans (h : Frame items b b') (h' : Frame items b' b'') : Frame items b b'' where
  history_eq := h'.history_eq.trans h.history_eq
  hashOf_eq i := (h'.hashOf_eq i).trans (h.hashOf_eq i)
  opOf_eq i := (h'.opOf_eq i).trans (h.opOf_eq i)
  unlisted i hi := (h'.unlisted i hi).trans (h.unlisted i hi)
  mempool_unlisted hash hhash := by
    have hhash' : ∀ i ∈ items, b'.hashOf i ≠ some hash := by
      intro i hi
      rw [h.hashOf_eq]
      exact hhash i hi
    rw [h'.mempool_unlisted hash hhash', h.mempool_unlisted hash hhash]
  mempool_none hash hnone := h'.mempool_none hash (h.mempool_none hash hnone)

theorem setBundling (h : Frame items b b') (bundling : Bool) :
    Frame items b { b' with bundling := bundling } :=
  ⟨h.history_eq, h.hashOf_eq, h.opOf_eq, h.unlisted, h.mempool_unlisted, h.mempool_none⟩

theorem statusOf_unlisted (h : Frame items b b') {i : ℕ} (hi : i ∉ items) :
    b'.statusOf i = b.statusOf i := by
  rw [statusOf, statusOf, h.unlisted i hi]

end Frame

theorem frame_modifyItem {items : List ℕ} (b : LnetBundler) {i : ℕ} (hi : i ∈ items)
    {f : Item → Item} (hhash : ∀ item, (f item).userOpHash = item.userOpHash)
    (hop : ∀ item, (f item).op = item.op) : Frame items b (b.modifyItem i f) where
  history_eq := rfl
  hashOf_eq k := hashOf_modifyItem b i k hhash
  opOf_eq k := by
    rw [opOf, item?_modifyItem]
    split_ifs
    · rw [Option.map_map]
      exact congrArg (Option.map · _) (funext hop)
    · rfl
  unlisted k hk := by
    rw [item?_modifyItem, if_neg]
    rintro rfl
    exact hk hi
  mempool_unlisted _ _ := rfl
  mempool_none _ h := h

theorem frame_dropItem {items : List ℕ} (b : LnetBundler) {i : ℕ} (hi : i ∈ items) :
    Frame items b (b.dropItem i) where
  history_eq := dropItem_history b i
  hashOf_eq k := by rw [hashOf, dropItem_items, hashOf]
  opOf_eq k := by rw [opOf, dropItem_items, opOf]
  unlisted k _ := by rw [dropItem_items]
  mempool_unlisted hash h := by rw [get_mempool_dropItem, if_neg (h i hi)]
  mempool_none hash h := by
    rw [get_mempool_dropItem, h]
    split_ifs <;> rfl

/-! ## A settled bundle -/

/-- The items of a bundle got their final status and left the mempool. -/
structure Settles (items : List ℕ) (status : ItemStatus) (b b' : LnetBundler) : Prop
    extends Frame items b b' where
  bundling_eq : b'.bundling = false
  statusOf_listed : ∀ i ∈ items, ∀ hash, b.hashOf i = some hash → b'.statusOf i = some status
  mempool_listed : ∀ i ∈ items, ∀ hash, b.hashOf i = some hash → b'.mempool.get hash = none

section settleItems

variable {f : Item → Item} (hhash : ∀ item, (f item).userOpHash = item.userOpHash)
  (hop : ∀ item, (f item).op = item.op)

include hhash hop

theorem frame_settleItems {all : List ℕ} : ∀ (items : List ℕ) (b : LnetBundler),
    (∀ i ∈ items, i ∈ all) → Frame all b (settleItems f items b) := by
  intro items
  induction items with
  | nil => intro b _; exact Frame.refl all b
  | cons i items ih =>
    intro b hall
    have hi : i ∈ all := hall i List.mem_cons_self
    have hmodify : Frame all b (b.modifyItem i f) := frame_modifyItem b hi hhash hop
    have hdrop : Frame all b ((b.modifyItem i f).dropItem i) := hmodify.trans (frame_dropItem _ hi)
    exact hdrop.trans (ih _ fun k hk => hall k (List.mem_cons_of_mem i hk))

/-- The loop gives every listed item its assignment and takes its hash out of the mempool. -/
theorem settleItems_listed (hidem : ∀ item, f (f item) = f item) :
    ∀ (items : List ℕ) (b : LnetBundler), ∀ i ∈ items,
      (settleItems f items b).items[i]? = b.items[i]?.map f ∧
      ∀ hash, b.hashOf i = some hash → (settleItems f items b).mempool.get hash = none := by
  intro items
  induction items with
  | nil => intro b i hi; cases hi
  | cons k items ih =>
    intro b i hi
    have hframe : Frame items ((b.modifyItem k f).dropItem k)
        (settleItems f items ((b.modifyItem k f).dropItem k)) :=
      frame_settleItems hhash hop items _ fun _ h => h
    have hitem : ((b.modifyItem k f).dropItem k).items[i]? =
        if k = i then b.items[i]?.map f else b.items[i]? := by
      rw [dropItem_items, item?_modifyItem]
    have hhashOf : ((b.modifyItem k f).dropItem k).hashOf i = b.hashOf i := by
      rw [hashOf, dropItem_items, ← hashOf, hashOf_modifyItem b k i hhash]
    by_cases hmem : i ∈ items
    · obtain ⟨hmap, hnone⟩ := ih ((b.modifyItem k f).dropItem k) i hmem
      rw [hhashOf] at hnone
      refine ⟨?_, hnone⟩
      rw [settleItems, hmap, hitem]
      split_ifs
      · rw [Option.map_map]
        exact congrArg (Option.map · _) (funext hidem)
      · rfl
    · have hik : i = k := (List.mem_cons.mp hi).resolve_right hmem
      subst hik
      refine ⟨?_, ?_⟩
      · rw [settleItems, hframe.unlisted i hmem, hitem, if_pos rfl]
      · intro hash h
        rw [settleItems]
        refine hframe.mempool_none hash ?_
        rw [get_mempool_dropItem, hashOf_modifyItem b i i hhash, if_pos h]

/-- Where the assignment sets the status, the loop settles the items. -/
theorem settles_settleItems (hidem : ∀ item, f (f item) = f item) {status : ItemStatus}
    (hstatus : ∀ item, (f item).status = status) {items : List ℕ} {b₀ b : LnetBundler}
    (h : Frame items b₀ b) :
    Settles items status b₀ { settleItems f items b with bundling := false } := by
  have hframe : Frame items b (settleItems f items b) :=
    frame_settleItems hhash hop items b fun _ hi => hi
  have hlisted := settleItems_listed hhash hop hidem items b
  refine { toFrame := (h.trans hframe).setBundling false, bundling_eq := rfl, statusOf_listed := ?_,
           mempool_listed := ?_ }
  · intro i hi hash hi'
    rw [← h.hashOf_eq] at hi'
    obtain ⟨item, hitem, -⟩ := hashOf_eq_some.mp hi'
    refine statusOf_eq_some.mpr ⟨f item, ?_, hstatus item⟩
    show (settleItems f items b).items[i]? = some (f item)
    rw [(hlisted i hi).1, hitem, Option.map_some]
  · intro i hi hash hi'
    rw [← h.hashOf_eq] at hi'
    exact (hlisted i hi).2 hash hi'

end settleItems

theorem receiptOf_settleItems {f : Item → Item} (hf : ∀ item, (f item).receipt = item.receipt)
    (k : ℕ) : ∀ (items : List ℕ) (b : LnetBundler),
      (settleItems f items b).receiptOf k = b.receiptOf k := by
  intro items
  induction items with
  | nil => intro b; rfl
  | cons i items ih =>
    intro b
    rw [settleItems, ih, receiptOf, dropItem_items, ← receiptOf, receiptOf_modifyItem b i k hf]

/-- The `catch` block settles the bundle as failed, whatever the `try` block left behind. -/
theorem settles_abandon {items : List ℕ} {b₀ b : LnetBundler} (h : Frame items b₀ b)
    (err : JsError) : Settles items .failed b₀ (abandon b items err) :=
  settles_settleItems (f := setFailed (decodeKnownError err)) (fun _ => rfl) (fun _ => rfl)
    (fun _ => rfl) (fun _ => rfl) h

/-- The `catch` block leaves the receipts alone. -/
theorem receiptOf_abandon (b : LnetBundler) (items : List ℕ) (err : JsError) (k : ℕ) :
    (abandon b items err).receiptOf k = b.receiptOf k :=
  receiptOf_settleItems (f := setFailed (decodeKnownError err)) (fun _ => rfl) k items b

/-- Every log of the receipt has its numbers. -/
def Receipt.WellFormed (receipt : Receipt) : Prop :=
  ∀ log ∈ receipt.logs,
    log.blockNumber.isSome ∧ log.transactionIndex.isSome ∧ log.index.isSome

instance (receipt : Receipt) : Decidable receipt.WellFormed :=
  inferInstanceAs (Decidable (∀ log ∈ receipt.logs, _))

theorem logReply_ok {log : LogItem}
    (h : log.blockNumber.isSome ∧ log.transactionIndex.isSome ∧ log.index.isSome) :
    ∃ reply, logReply log = .ok reply := by
  obtain ⟨hblock, htx, hindex⟩ := h
  obtain ⟨block, hblock⟩ := Option.isSome_iff_exists.mp hblock
  obtain ⟨tx, htx⟩ := Option.isSome_iff_exists.mp htx
  obtain ⟨index, hindex⟩ := Option.isSome_iff_exists.mp hindex
  exact ⟨_, by simp only [logReply, hblock, htx, hindex, toHexField]; rfl⟩

theorem logReplies_ok {logs : List LogItem} (h : ∀ log ∈ logs,
    log.blockNumber.isSome ∧ log.transactionIndex.isSome ∧ log.index.isSome) :
    ∃ replies, logs.mapM logReply = .ok replies := by
  induction logs with
  | nil => exact ⟨[], rfl⟩
  | cons log logs ih =>
    obtain ⟨reply, hreply⟩ := logReply_ok (h log List.mem_cons_self)
    obtain ⟨replies, hreplies⟩ := ih fun l hl => h l (List.mem_cons_of_mem _ hl)
    exact ⟨reply :: replies, by rw [List.mapM_cons, hreply, hreplies]; rfl⟩

/-- What `markIncluded` makes of an item when nothing throws. -/
def includeItem (events : OrderedMap Bytes32 UserOperationEvent) (receipt : Receipt)
    (replies : List LogReply) (item : Item) : Item :=
  setReceipt { receipt, logs := replies, userOperationEvent := events.get item.userOpHash }
    (setIncluded receipt item)

theorem modifyItem_congr {b : LnetBundler} {i : ℕ} {f g : Item → Item}
    (h : ∀ item, b.items[i]? = some item → f item = g item) :
    b.modifyItem i f = b.modifyItem i g := by
  have hitems : b.items.modify i f = b.items.modify i g := by
    apply List.ext_getElem?
    intro k
    rw [List.getElem?_modify, List.getElem?_modify]
    split_ifs with hik
    · subst hik
      cases hitem : b.items[i]? with
      | none => rfl
      | some item => simp [h item hitem]
    · rfl
  rw [modifyItem, modifyItem, hitems]

theorem modifyItem_modifyItem (b : LnetBundler) (i : ℕ) (f g : Item → Item) :
    (b.modifyItem i f).modifyItem i g = b.modifyItem i (g ∘ f) := by
  simp only [modifyItem, List.modify_modify_eq]

theorem includeItems_eq (events : OrderedMap Bytes32 UserOperationEvent) {receipt : Receipt}
    {replies : List LogReply} (h : receipt.logs.mapM logReply = .ok replies) :
    ∀ (items : List ℕ) (b : LnetBundler), includeItems events receipt items b =
      (settleItems (includeItem events receipt replies) items b, .ok ()) := by
  intro items
  induction items with
  | nil => intro b; rfl
  | cons i items ih =>
    intro b
    have hreceipt : ∀ event, itemReceipt receipt event =
        .ok { receipt, logs := replies, userOperationEvent := event } := by
      intro event
      rw [itemReceipt, h]
      rfl
    have hmodify : (b.modifyItem i (setIncluded receipt)).modifyItem i
          (setReceipt { receipt, logs := replies, userOperationEvent :=
            ((b.modifyItem i (setIncluded receipt)).hashOf i).bind events.get }) =
        b.modifyItem i (includeItem events receipt replies) := by
      rw [modifyItem_modifyItem, hashOf_modifyItem b i i (f := setIncluded receipt) (fun _ => rfl)]
      apply modifyItem_congr
      intro item hitem
      simp only [hashOf, hitem, Function.comp_apply, Option.map_some, Option.bind_some,
        includeItem]
    rw [includeItems]
    simp only [hreceipt]
    rw [hmodify, ih, settleItems]

/-- However far `markIncluded` comes, it touches the items of the bundle only. -/
theorem frame_includeItems (events : OrderedMap Bytes32 UserOperationEvent) (receipt : Receipt)
    {all : List ℕ} : ∀ (items : List ℕ) (b : LnetBundler), (∀ i ∈ items, i ∈ all) →
      Frame all b (includeItems events receipt items b).1 := by
  intro items
  induction items with
  | nil => intro b _; exact Frame.refl all b
  | cons i items ih =>
    intro b hall
    have hi : i ∈ all := hall i List.mem_cons_self
    have hstatus : Frame all b (b.modifyItem i (setIncluded receipt)) :=
      frame_modifyItem b hi (fun _ => rfl) (fun _ => rfl)
    rw [includeItems]
    split
    · exact hstatus
    · rename_i r _
      have hreceipt := frame_modifyItem (b.modifyItem i (setIncluded receipt)) hi
        (f := setReceipt r) (fun _ => rfl) (fun _ => rfl)
      exact ((hstatus.trans hreceipt).trans (frame_dropItem _ hi)).trans
        (ih _ fun k hk => hall k (List.mem_cons_of_mem i hk))

theorem frame_markIncluded (parseLog : ParseLog) (b : LnetBundler) (items : List ℕ)
    (receipt : Option Receipt) : Frame items b (markIncluded parseLog b items receipt).1 := by
  cases receipt with
  | none => exact Frame.refl items b
  | some receipt => exact frame_includeItems _ receipt items b fun _ h => h

/-- A malformed log stops `markIncluded` at the first item, before it gets its receipt. -/
theorem includeItems_error (events : OrderedMap Bytes32 UserOperationEvent) {receipt : Receipt}
    {err : JsError} (h : receipt.logs.mapM logReply = .error err) (i : ℕ) (items : List ℕ)
    (b : LnetBundler) : includeItems events receipt (i :: items) b =
      (b.modifyItem i (setIncluded receipt), .error err) := by
  have hreceipt : ∀ event, itemReceipt receipt event = .error err := by
    intro event
    rw [itemReceipt, h]
    rfl
  rw [includeItems]
  simp only [hreceipt]

theorem receiptOf_markIncluded_error {parseLog : ParseLog} {b b' : LnetBundler} {items : List ℕ}
    {receipt : Option Receipt} {err : JsError}
    (h : markIncluded parseLog b items receipt = (b', .error err)) (k : ℕ) :
    b'.receiptOf k = b.receiptOf k := by
  cases receipt with
  | none =>
    cases h
    rfl
  | some r =>
    cases items with
    | nil => cases h
    | cons i items =>
      cases hlogs : r.logs.mapM logReply with
      | error err' =>
        rw [markIncluded, includeItems_error _ hlogs] at h
        cases h
        exact receiptOf_modifyItem b i k fun _ => rfl
      | ok replies =>
        rw [markIncluded, includeItems_eq _ hlogs] at h
        cases h

/-- `bundleNow` returns: every item of the bundle is included with the transaction and the
    logs of the receipt. -/
theorem complete_ok {parseLog : ParseLog} {b b' : LnetBundler} {items : List ℕ}
    {receipt : Option Receipt} (h : complete parseLog b items receipt = (b', .ok ())) :
    ∃ r, receipt = some r ∧ Settles items .included b b' ∧
      ∀ i ∈ items, ∀ item, b.items[i]? = some item → ∃ replies,
        r.logs.mapM logReply = .ok replies ∧
        b'.items[i]? = some (includeItem (eventsOf parseLog r) r replies item) := by
  cases receipt with
  | none => simp [complete, markIncluded] at h
  | some r =>
    refine ⟨r, rfl, ?_⟩
    cases hlogs : r.logs.mapM logReply with
    | error err =>
      cases items with
      | nil =>
        simp only [complete, markIncluded, includeItems, Prod.mk.injEq, and_true] at h
        subst h
        exact ⟨{ toFrame := (Frame.refl [] b).setBundling false, bundling_eq := rfl,
                 statusOf_listed := by simp, mempool_listed := by simp }, by simp⟩
      | cons i items =>
        simp [complete, markIncluded, includeItems_error (eventsOf parseLog r) hlogs i items b] at h
    | ok replies =>
      have hmark : markIncluded parseLog b items (some r) =
          (settleItems (includeItem (eventsOf parseLog r) r replies) items b, .ok ()) :=
        includeItems_eq _ hlogs items b
      simp only [complete, hmark, Prod.mk.injEq, and_true] at h
      subst h
      have hsettles := settles_settleItems (f := includeItem (eventsOf parseLog r) r replies)
        (fun _ => rfl) (fun _ => rfl) (fun _ => rfl) (fun _ => rfl) (Frame.refl items b)
      have hlisted := settleItems_listed (f := includeItem (eventsOf parseLog r) r replies)
        (fun _ => rfl) (fun _ => rfl) (fun _ => rfl) items b
      refine ⟨hsettles, ?_⟩
      intro i hi item hitem
      refine ⟨replies, rfl, ?_⟩
      show (settleItems _ items b).items[i]? = _
      rw [(hlisted i hi).1, hitem, Option.map_some]

/-- `bundleNow` throws: every item of the bundle is failed, and gets no receipt. -/
theorem complete_error {parseLog : ParseLog} {b b' : LnetBundler} {items : List ℕ}
    {receipt : Option Receipt} {err : JsError}
    (h : complete parseLog b items receipt = (b', .error err)) :
    Settles items .failed b b' ∧ ∀ k, b'.receiptOf k = b.receiptOf k := by
  have hframe := frame_markIncluded parseLog b items receipt
  unfold complete at h
  split at h
  · simp at h
  · rename_i b₁ err₁ hmark
    rw [hmark] at hframe
    cases h
    refine ⟨settles_abandon hframe err, ?_⟩
    intro k
    rw [receiptOf_abandon, receiptOf_markIncluded_error hmark]

/-- A well-formed receipt makes `bundleNow` return. -/
theorem complete_wellFormed (parseLog : ParseLog) (b : LnetBundler) (items : List ℕ)
    {receipt : Receipt} (h : receipt.WellFormed) :
    ∃ b', complete parseLog b items (some receipt) = (b', .ok ()) := by
  obtain ⟨replies, hreplies⟩ := logReplies_ok h
  exact ⟨_, by rw [complete, markIncluded, includeItems_eq _ hreplies]⟩

end AccountAbstraction.Bundler
