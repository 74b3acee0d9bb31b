import AccountAbstraction.Bundler.Invariant
import AccountAbstraction.Bundler.Lookup

/-!
# Whose event a receipt reports

`markIncluded` collects every log of the receipt that decodes to a `UserOperationEvent`,
whichever contract emitted it: the topics and the data decide, and a later log overwrites
an earlier one. A contract that an op of the bundle calls can emit a log with the topics of
the EntryPoint's event.

* `reported_outcome_iff`: what `getUserOperationReceipt` reports for an op is the outcome
  in the EntryPoint's event exactly when no log of another contract overrides it.
* `reported_outcome_forged`: a run in which one does.
-/

namespace AccountAbstraction.Bundler

open Js LnetBundler

/-! ## Logs of the EntryPoint and of others -/

/-- The log was emitted by the configured EntryPoint. -/
def ofEntryPoint (config : Config) (log : LogItem) : Bool :=
  lower log.address == lower config.entryPoint

/-- The events of the EntryPoint for `hash`. -/
def entryPointEvents (config : Config) (parseLog : ParseLog) (hash : Bytes32)
    (logs : List LogItem) : List UserOperationEvent :=
  (logs.filter (ofEntryPoint config)).filterMap (eventFor parseLog hash)

/-- Another contract's log for `hash` with other values is the last one for `hash`. -/
def Overridden (config : Config) (parseLog : ParseLog) (hash : Bytes32)
    (event : UserOperationEvent) (logs : List LogItem) : Prop :=
  ∃ before log after other, logs = before ++ log :: after ∧ ofEntryPoint config log = false ∧
    eventFor parseLog hash log = some other ∧ other ≠ event ∧
    ∀ l ∈ after, eventFor parseLog hash l = none

/-- The last value of a list that `f` maps to one. -/
theorem getLast?_filterMap_iff {α β : Type*} {f : α → Option β} {l : List α} {b : β} :
    (l.filterMap f).getLast? = some b ↔
      ∃ before a after, l = before ++ a :: after ∧ f a = some b ∧ ∀ x ∈ after, f x = none := by
  rw [List.getLast?_filterMap, List.findSome?_eq_some_iff]
  constructor
  · rintro ⟨l₁, a, l₂, hl, ha, hnone⟩
    refine ⟨l₂.reverse, a, l₁.reverse, ?_, ha, ?_⟩
    · have := congrArg List.reverse hl
      simpa using this
    · intro x hx
      exact hnone x (List.mem_reverse.mp hx)
  · rintro ⟨before, a, after, rfl, ha, hnone⟩
    refine ⟨after.reverse, a, before.reverse, by simp, ha, ?_⟩
    intro x hx
    exact hnone x (List.mem_reverse.mp hx)

/-- Where the EntryPoint emitted one event for the hash, the last event for the hash is that
    one, or a log of another contract overrides it. -/
theorem last_event_iff {config : Config} {parseLog : ParseLog} {hash : Bytes32}
    {logs : List LogItem} {event last : UserOperationEvent}
    (hevents : entryPointEvents config parseLog hash logs = [event])
    (hlast : (logs.filterMap (eventFor parseLog hash)).getLast? = some last) :
    last = event ↔ ¬ Overridden config parseLog hash event logs := by
  constructor
  · rintro rfl ⟨before, log, after, other, hlogs, -, hother, hne, hnone⟩
    have hlast' := getLast?_filterMap_iff.mpr ⟨before, log, after, hlogs, hother, hnone⟩
    rw [hlast] at hlast'
    exact hne (Option.some.inj hlast').symm
  · intro hnot
    by_contra hne
    obtain ⟨before, log, after, hlogs, hlog, hnone⟩ := getLast?_filterMap_iff.mp hlast
    refine hnot ⟨before, log, after, last, hlogs, ?_, hlog, hne, hnone⟩
    -- The EntryPoint has no other event for the hash.
    rw [← Bool.not_eq_true]
    intro hep
    have hmem : last ∈ entryPointEvents config parseLog hash logs := by
      refine List.mem_filterMap.mpr ⟨log, List.mem_filter.mpr ⟨?_, hep⟩, hlog⟩
      rw [hlogs]
      exact List.mem_append_right _ List.mem_cons_self
    rw [hevents] at hmem
    exact hne (List.mem_singleton.mp hmem)

/-! ## Where the receipts of the items come from -/

/-- The receipt of an item is that of its bundle, with the last event for its hash. -/
def Sourced (parseLog : ParseLog) (calls : List BundleCall) (i : ℕ) (hash : Bytes32)
    (r : ItemReceipt) : Prop :=
  ∃ (j : ℕ) (call : BundleCall) (receipt : Receipt), calls[j]? = some call ∧ i ∈ call.items ∧
    call.minedReceipt = some receipt ∧
    r.userOperationEvent = (eventsOf parseLog receipt).get hash

/-- Every receipt of an item has its source. -/
def ReceiptsSourced (parseLog : ParseLog) (b : LnetBundler) (calls : List BundleCall) : Prop :=
  ∀ i hash r, b.hashOf i = some hash → b.receiptOf i = some r → Sourced parseLog calls i hash r

theorem Sourced.append {parseLog : ParseLog} {calls : List BundleCall} {i : ℕ} {hash : Bytes32}
    {r : ItemReceipt} (h : Sourced parseLog calls i hash r) (call : BundleCall) :
    Sourced parseLog (calls ++ [call]) i hash r := by
  obtain ⟨j, callj, receipt, hcall, hi, hmined, hevent⟩ := h
  refine ⟨j, callj, receipt, ?_, hi, hmined, hevent⟩
  rw [List.getElem?_append_left (List.getElem?_eq_some_iff.mp hcall).1, hcall]

/-- A mined receipt stays. -/
theorem Sourced.set {parseLog : ParseLog} {calls : List BundleCall} {i : ℕ} {hash : Bytes32}
    {r : ItemReceipt} (h : Sourced parseLog calls i hash r) {j : ℕ} {call call' : BundleCall}
    (hcall : calls[j]? = some call) (hitems : call'.items = call.items)
    (hmined : ∀ receipt, call.minedReceipt = some receipt → call'.minedReceipt = some receipt) :
    Sourced parseLog (calls.set j call') i hash r := by
  obtain ⟨k, callk, receipt, hk, hi, hreceipt, hevent⟩ := h
  obtain ⟨new, hnew, hitems', hmined'⟩ := exists_getElem?_set
    (R := fun old new : BundleCall => new.items = old.items ∧
      ∀ receipt, old.minedReceipt = some receipt → new.minedReceipt = some receipt)
    (fun _ => ⟨rfl, fun _ h => h⟩) hcall ⟨hitems, hmined⟩ hk
  exact ⟨k, new, receipt, hnew, hitems' ▸ hi, hmined' receipt hreceipt, hevent⟩

theorem receiptOf_enqueue (b : LnetBundler) (item : Item) (i : ℕ) :
    (b.enqueue item).receiptOf i =
      if i = b.items.length then item.receipt else b.receiptOf i := by
  rw [receiptOf, enqueue_item?]
  split_ifs <;> rfl

/-- `bundleNow` returns: the items of the bundle get the receipt of its transaction. -/
theorem receiptsSourced_complete {parseLog : ParseLog} {b b' : LnetBundler}
    {calls : List BundleCall} (hs : ReceiptsSourced parseLog b calls) {j : ℕ} {call : BundleCall}
    (hcall : calls[j]? = some call) {call' : BundleCall} (hitems : call'.items = call.items)
    (htx : call'.tx = call.tx) {receipt : Receipt} (hmined : call.minedReceipt = some receipt)
    (hcomplete : complete parseLog b call.items (some receipt) = (b', .ok ())) :
    ReceiptsSourced parseLog b' (calls.set j call') := by
  obtain ⟨r, hr, hsettles, hincluded⟩ := complete_ok hcomplete
  cases hr
  have hmined' : call'.minedReceipt = some receipt := by rw [BundleCall.minedReceipt, htx]; exact hmined
  intro i hash ir hhash hir
  rw [hsettles.hashOf_eq] at hhash
  by_cases hi : i ∈ call.items
  · obtain ⟨item, hitem, hitemhash⟩ := hashOf_eq_some.mp hhash
    obtain ⟨replies, -, hitem'⟩ := hincluded i hi item hitem
    rw [receiptOf, hitem'] at hir
    cases hir
    refine ⟨j, call', receipt, by rw [getElem?_set_of_some hcall, if_pos rfl], hitems ▸ hi,
      hmined', ?_⟩
    rw [← hitemhash]
  · rw [receiptOf, hsettles.unlisted i hi] at hir
    refine (hs i hash ir hhash hir).set hcall hitems ?_
    intro receipt' h
    rw [BundleCall.minedReceipt, htx]
    exact h

theorem receiptsSourced_step {env : Env} {s s' : System} {e : Event}
    (hs : ReceiptsSourced env.parseLog s.bundler s.bundles) (h : Effect env s e s') :
    ReceiptsSourced env.parseLog s'.bundler s'.bundles := by
  cases h with
  | inserted k entryPoint op userOpHash reply _ _ =>
    intro i hash r hhash hr
    have hr' : (s.bundler.enqueue (newItem userOpHash op entryPoint)).receiptOf i = some r := hr
    have hhash' : (s.bundler.enqueue (newItem userOpHash op entryPoint)).hashOf i = some hash :=
      hhash
    rw [receiptOf_enqueue] at hr'
    rw [hashOf_enqueue] at hhash'
    split_ifs at hr' hhash' with hi
    · cases hr'
    · exact hs i hash r hhash' hr'
  | started _ _ =>
    intro i hash r hhash hr
    exact (hs i hash r hhash hr).append _
  | sent j call hash hcall _ htx =>
    intro i hash' r hhash hr
    refine (hs i hash' r hhash hr).set hcall rfl ?_
    intro receipt h
    simp [BundleCall.minedReceipt, htx] at h
  | mined j call hash receipt hcall htx _ =>
    intro i hash' r hhash hr
    refine (hs i hash' r hhash hr).set hcall rfl ?_
    intro receipt' h
    simp [BundleCall.minedReceipt, htx] at h
  | submitted j call hcall _ _ =>
    intro i hash r hhash hr
    exact (hs i hash r hhash hr).set hcall rfl fun _ h => h
  | returned j call tx receipt b hcall _ htx hreceipt hcomplete =>
    have hmined : call.minedReceipt = some receipt := by
      rw [BundleCall.minedReceipt, htx, Option.bind_some, hreceipt]
    exact receiptsSourced_complete hs hcall rfl rfl hmined hcomplete
  | threw _ j call b err hcall _ _ hsettles hreceipts =>
    intro i hash r hhash hr
    have hr' : b.receiptOf i = some r := hr
    have hhash' : b.hashOf i = some hash := hhash
    rw [hreceipts] at hr'
    rw [hsettles.hashOf_eq] at hhash'
    exact (hs i hash r hhash' hr').set hcall rfl fun _ h => h
  | _ => exact hs

theorem receiptsSourced_of_reach {env : Env} {s : System}
    (h : Reachable (step env) System.init s) :
    ReceiptsSourced env.parseLog s.bundler s.bundles :=
  h.invariant (I := fun s => ReceiptsSourced env.parseLog s.bundler s.bundles)
    (fun _ _ _ hhash => by cases hhash)
    fun _ _ _ hs _ hstep => receiptsSourced_step hs (step_effect hstep)

/-! ## The result -/

/-- A reply comes from the history's item. -/
theorem getUserOperationReceipt_eq_some {b : LnetBundler} {hash : Bytes32}
    {reply : UserOperationReceipt}
    (h : b.getUserOperationReceipt (.arr [.str hash.val]) = .ok (some reply)) :
    ∃ i item r, b.history.get hash = some i ∧ b.items[i]? = some item ∧
      b.receiptOf i = some r ∧ receiptReply hash item r = .ok reply := by
  simp only [LnetBundler.getUserOperationReceipt, elementAt, List.getElem?_cons_zero, bind,
    Except.bind, normalizeBytes32_val] at h
  split at h
  · cases h
  · rename_i item r hfound
    obtain ⟨item', hitem, hr⟩ := Option.bind_eq_some_iff.mp hfound
    obtain ⟨r', hr', heq⟩ := Option.map_eq_some_iff.mp hr
    cases heq
    obtain ⟨i, hget, hitem⟩ := Option.bind_eq_some_iff.mp hitem
    refine ⟨i, item, r, hget, hitem, by rw [receiptOf, hitem]; exact hr', ?_⟩
    cases hreply : receiptReply hash item r with
    | error err =>
      rw [hreply] at h
      cases h
    | ok reply' =>
      rw [hreply] at h
      cases h
      rfl

/-- In every reachable state, what the bundler reports for a hash comes from the receipt of the
    mined bundle of one of its items; and where the EntryPoint emitted one event for the hash,
    the report is that event's outcome exactly when no log of another contract overrides it. -/
theorem reported_outcome_iff {env : Env} {s : System} (h : Reachable (step env) System.init s)
    {hash : Bytes32} {reply : UserOperationReceipt}
    (hreply : s.bundler.getUserOperationReceipt (.arr [.str hash.val]) = .ok (some reply)) :
    ∃ call ∈ s.bundles, ∃ i ∈ call.items, ∃ receipt, s.bundler.hashOf i = some hash ∧
      s.bundler.history.get hash = some i ∧ call.minedReceipt = some receipt ∧
      ∀ event, entryPointEvents env.config env.parseLog hash receipt.logs = [event] →
        (reply.Reports event ↔
          ¬ Overridden env.config env.parseLog hash event receipt.logs) := by
  obtain ⟨i, item, r, hget, -, hr, hreplyeq⟩ := getUserOperationReceipt_eq_some hreply
  have hhash := (consistent_of_reach h).history_hash hash i hget
  obtain ⟨j, call, receipt, hcall, hi, hmined, hevent⟩ :=
    receiptsSourced_of_reach h i hash r hhash hr
  refine ⟨call, List.mem_of_getElem? hcall, i, hi, receipt, hhash, hget, hmined, ?_⟩
  intro event hevents
  rw [get_eventsOf] at hevent
  cases hlast : (receipt.logs.filterMap (eventFor env.parseLog hash)).getLast? with
  | none =>
    have hmem : event ∈ receipt.logs.filterMap (eventFor env.parseLog hash) := by
      have : event ∈ entryPointEvents env.config env.parseLog hash receipt.logs := by
        rw [hevents]
        exact List.mem_singleton_self event
      obtain ⟨log, hlog, heq⟩ := List.mem_filterMap.mp this
      exact List.mem_filterMap.mpr ⟨log, (List.mem_filter.mp hlog).1, heq⟩
    rw [List.getLast?_eq_none_iff.mp hlast] at hmem
    cases hmem
  | some last =>
    rw [hlast] at hevent
    rw [receiptReply_reports_iff hreplyeq hevent, last_event_iff hevents hlast]

/-- The receipt of a transaction in which another contract emits a log as well. -/
def crowdedReceipt : Receipt :=
  sampleReceipt sampleTx 1
    [sampleLog "0x2222222222222222222222222222222222222222" sampleData,
     sampleLog "0x4444444444444444444444444444444444444444" "0x"]

/-- A log of another contract that is no event of the op does not change what is reported. -/
theorem reported_outcome_sample : ∃ (s : System) (reply : UserOperationReceipt),
    s.bundler.getUserOperationReceipt (.arr [.str sampleHash.val]) = .ok (some reply) ∧
      reply.Reports sampleEvent := by
  obtain ⟨s, hreach, hs⟩ := Reach.exists_of_run (step (sampleEnv .try')) System.init
    (sampleBundle ++ [.mine 0 crowdedReceipt, .waitReply 0 (.ok (some crowdedReceipt))])
    (fun s => (s.bundler.getUserOperationReceipt (.arr [.str sampleHash.val])).toOption.join.isSome &&
      s.bundles.all fun call => call.minedReceipt == some crowdedReceipt) (by decide +kernel)
  rw [Bool.and_eq_true] at hs
  obtain ⟨reply, hreply⟩ := Option.isSome_iff_exists.mp hs.1
  cases hlookup : s.bundler.getUserOperationReceipt (.arr [.str sampleHash.val]) with
  | error err =>
    rw [hlookup] at hreply
    cases hreply
  | ok found =>
    rw [hlookup] at hreply
    cases (show found = some reply from hreply)
    refine ⟨s, reply, hlookup, ?_⟩
    obtain ⟨call, hcall, i, -, receipt, -, -, hmined, hiff⟩ := reported_outcome_iff hreach hlookup
    have hreceipt := List.all_eq_true.mp hs.2 call hcall
    rw [hmined, beq_iff_eq] at hreceipt
    cases hreceipt
    have hevents : entryPointEvents (sampleEnv .try').config (sampleEnv .try').parseLog
        sampleHash crowdedReceipt.logs = [sampleEvent] := by decide +kernel
    have hlast : (crowdedReceipt.logs.filterMap
        (eventFor (sampleEnv .try').parseLog sampleHash)).getLast? = some sampleEvent := by
      decide +kernel
    exact (hiff sampleEvent hevents).mpr ((last_event_iff hevents hlast).mp rfl)

/-- The receipt of a transaction in which another contract copies the event. -/
def forgedReceipt : Receipt :=
  sampleReceipt sampleTx 1
    [sampleLog "0x2222222222222222222222222222222222222222" sampleData,
     sampleLog "0x4444444444444444444444444444444444444444" forgedData]

/-- The gas cost in the answer to `eth_getUserOperationReceipt`. -/
def reportedCost? (answer : Except JsError (Option UserOperationReceipt)) : Option String :=
  answer.toOption.join.map (·.actualGasCost)

theorem reportedCost?_eq_some {answer : Except JsError (Option UserOperationReceipt)} {cost : String}
    (h : reportedCost? answer = some cost) :
    ∃ reply, answer = .ok (some reply) ∧ reply.actualGasCost = cost := by
  obtain ⟨reply, hjoin, hcost⟩ := Option.map_eq_some_iff.mp h
  rcases answer with err | _ | reply'
  · cases hjoin
  · cases hjoin
  · cases hjoin
    exact ⟨reply, rfl, hcost⟩

/-- The report has the values of the other contract. -/
theorem reported_outcome_forged : ∃ s reply, Reachable (step (sampleEnv .try')) System.init s ∧
    s.bundler.getUserOperationReceipt (.arr [.str sampleHash.val]) = .ok (some reply) ∧
    (∃ call ∈ s.bundles, call.items = [0] ∧ call.minedReceipt = some forgedReceipt) ∧
    entryPointEvents (sampleEnv .try').config (sampleEnv .try').parseLog sampleHash
      forgedReceipt.logs = [sampleEvent] ∧
    ¬ reply.Reports sampleEvent := by
  obtain ⟨s, hreach, hs⟩ := Reach.exists_of_run (step (sampleEnv .try')) System.init
    (sampleBundle ++ [.mine 0 forgedReceipt, .waitReply 0 (.ok (some forgedReceipt))])
    (fun s =>
      reportedCost? (s.bundler.getUserOperationReceipt (.arr [.str sampleHash.val])) == some "0x7" &&
      s.bundles.any fun call => call.items == [0] && call.minedReceipt == some forgedReceipt)
    (by decide +kernel)
  simp only [Bool.and_eq_true, List.any_eq_true, beq_iff_eq] at hs
  obtain ⟨hreply, hbundle⟩ := hs
  obtain ⟨reply, hlookup, hseven⟩ := reportedCost?_eq_some hreply
  refine ⟨s, reply, hreach, hlookup, hbundle, by decide +kernel, ?_⟩
  rintro ⟨-, -, hcost, -⟩
  rw [hseven] at hcost
  revert hcost
  decide

end AccountAbstraction.Bundler
