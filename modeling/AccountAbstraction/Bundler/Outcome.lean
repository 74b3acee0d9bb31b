import AccountAbstraction.Bundler.Invariant
import AccountAbstraction.Bundler.Lookup

/-!
# What the history knows about a mined bundle

The `catch` block of `bundleNow` marks every item of its bundle as failed, also when
`tx.wait()` rejected for a transaction that was sent and is mined all the same. And a
copy of an op that is filed late takes the place of the included item in the history.

* `outcome_recorded`: in a run without these two accidents, the history knows every op of
  a successful transaction as included.
* `outcome_lost`: the run in which `tx.wait()` rejects and the transaction is mined.
-/

namespace AccountAbstraction.Bundler

open Js LnetBundler

/-! ## Statements -/

/-- Once a call has ended and its transaction was mined with status 1, the history has for
    every op of the bundle an included item with the hash of the transaction, and the receipt
    lookup does not answer `null`. -/
def OutcomeRecorded (s : System) : Prop :=
  ∀ call ∈ s.bundles, call.outstanding = false → ∀ tx receipt, call.tx = some tx →
    tx.receipt = some receipt → receipt.status = some 1 → ∀ i ∈ call.items, ∃ hash item,
      s.bundler.hashOf i = some hash ∧ s.bundler.history.get hash = some i ∧
      s.bundler.items[i]? = some item ∧ item.status = .included ∧
      item.transactionHash = some tx.hash.val ∧
      s.bundler.getUserOperationReceipt (.arr [.str hash.val]) ≠ .ok none

/-- The call whose transaction the event mines with status 1. -/
def Event.succeeding : Event → Option ℕ
  | .mine j receipt => if receipt.status = some 1 then some j else none
  | _ => none

/-- The call threw. -/
def BundlePhase.threw : BundlePhase → Bool
  | .rejected _ => true
  | _ => false

/-- No copy of an op is filed while another one is in flight or after one was included, and
    the `try` block of `bundleNow` throws only for a transaction that is not mined with
    status 1, neither before nor later. -/
def OutcomeSafe (env : Env) (s : System) (e : Event) : Prop :=
  NotInFlight env s e ∧
  (∀ hash ∈ filedHash env s e, ∀ k ∈ s.bundler.history.get hash,
    s.bundler.statusOf k ≠ some .included) ∧
  (∀ j ∈ e.failing, ∀ call ∈ s.bundles[j]?, call.succeeded = false) ∧
  (∀ j ∈ e.succeeding, ∀ call ∈ s.bundles[j]?, call.phase.threw = false)

instance (env : Env) (s : System) (e : Event) : Decidable (OutcomeSafe env s e) :=
  inferInstanceAs (Decidable (_ ∧ _ ∧ _ ∧ _))

/-! ## The invariant -/

/-- The item is included with the transaction, and the history's item of its hash. -/
def Recorded (b : LnetBundler) (tx : BundleTx) (i : ℕ) : Prop :=
  ∃ item, b.items[i]? = some item ∧ item.status = .included ∧
    item.transactionHash = some tx.hash.val ∧ item.receipt.isSome = true ∧
    b.history.get item.userOpHash = some i

/-- What the history knows of the calls of `bundleNow`. -/
structure Outcomes (b : LnetBundler) (calls : List BundleCall) : Prop where
  resolved : ∀ (j : ℕ) call, calls[j]? = some call → call.phase = .resolved →
    ∃ tx receipt, call.tx = some tx ∧ tx.receipt = some receipt ∧
      ∀ i ∈ call.items, Recorded b tx i
  threw : ∀ (j : ℕ) call, calls[j]? = some call → call.phase.threw = true →
    call.succeeded = false
  receipt_hash : ∀ (j : ℕ) call, calls[j]? = some call → ∀ tx receipt, call.tx = some tx →
    tx.receipt = some receipt → receipt.hash = some tx.hash.val

theorem outcomes_init : Outcomes LnetBundler.init [] where
  resolved _ _ h := by cases h
  threw _ _ h := by cases h
  receipt_hash _ _ h := by cases h

theorem Outcomes.enqueue {b : LnetBundler} {calls : List BundleCall} (ho : Outcomes b calls)
    {item : Item} (hfree : ∀ k ∈ b.history.get item.userOpHash, b.statusOf k ≠ some .included) :
    Outcomes (b.enqueue item) calls where
  resolved j call hcall hphase := by
    obtain ⟨tx, receipt, htx, hreceipt, hrecorded⟩ := ho.resolved j call hcall hphase
    refine ⟨tx, receipt, htx, hreceipt, ?_⟩
    intro i hi
    obtain ⟨old, hold, hstatus, htxhash, hr, hhistory⟩ := hrecorded i hi
    refine ⟨old, ?_, hstatus, htxhash, hr, ?_⟩
    · rw [enqueue_item?, if_neg, hold]
      exact Nat.ne_of_lt (List.getElem?_eq_some_iff.mp hold).1
    · rw [get_history_enqueue, if_neg]
      · exact hhistory
      · intro heq
        rw [heq] at hhistory
        exact hfree i hhistory (statusOf_eq_some.mpr ⟨old, hold, hstatus⟩)
  threw := ho.threw
  receipt_hash := ho.receipt_hash

/-- A new call changes nothing for the others. -/
theorem Outcomes.start {b : LnetBundler} {calls : List BundleCall} (ho : Outcomes b calls)
    {call : BundleCall} (hphase : call.phase = .submitting) (htx : call.tx = none)
    (bundling : Bool) : Outcomes { b with bundling := bundling } (calls ++ [call]) where
  resolved j callj hcall hresolved := by
    rcases of_getElem?_append hcall with hold | ⟨-, rfl⟩
    · exact ho.resolved j callj hold hresolved
    · rw [hphase] at hresolved
      cases hresolved
  threw j callj hcall hthrew := by
    rcases of_getElem?_append hcall with hold | ⟨-, rfl⟩
    · exact ho.threw j callj hold hthrew
    · rw [hphase] at hthrew
      cases hthrew
  receipt_hash j callj hcall tx receipt htx' := by
    rcases of_getElem?_append hcall with hold | ⟨-, rfl⟩
    · exact ho.receipt_hash j callj hold tx receipt htx'
    · rw [htx] at htx'
      cases htx'

/-- Progress of a call that did not resolve. -/
theorem Outcomes.progress {b : LnetBundler} {calls : List BundleCall} (ho : Outcomes b calls)
    {j : ℕ} {call call' : BundleCall} (hcall : calls[j]? = some call)
    (hresolved : call'.phase ≠ .resolved)
    (hthrew : call'.phase.threw = true → call'.succeeded = false)
    (hhash : ∀ tx receipt, call'.tx = some tx → tx.receipt = some receipt →
      receipt.hash = some tx.hash.val) : Outcomes b (calls.set j call') where
  resolved k callk hk hphase := by
    rcases of_getElem?_set hcall hk with ⟨rfl, rfl⟩ | ⟨-, hold⟩
    · exact absurd hphase hresolved
    · exact ho.resolved k callk hold hphase
  threw k callk hk hphase := by
    rcases of_getElem?_set hcall hk with ⟨rfl, rfl⟩ | ⟨-, hold⟩
    · exact hthrew hphase
    · exact ho.threw k callk hold hphase
  receipt_hash k callk hk := by
    rcases of_getElem?_set hcall hk with ⟨rfl, rfl⟩ | ⟨-, hold⟩
    · exact hhash
    · exact ho.receipt_hash k callk hold

/-- What is recorded of one bundle does not change when another one ends. -/
theorem Recorded.settles {b b' : LnetBundler} {items : List ℕ} {status : ItemStatus}
    (h : Settles items status b b') {tx : BundleTx} {i : ℕ} (hi : i ∉ items)
    (hr : Recorded b tx i) : Recorded b' tx i := by
  obtain ⟨item, hitem, hstatus, htx, hreceipt, hhistory⟩ := hr
  exact ⟨item, (h.unlisted i hi).trans hitem, hstatus, htx, hreceipt, h.history_eq ▸ hhistory⟩

/-- The end of the call in flight, with what it leaves behind for its own bundle. -/
theorem Outcomes.settles {b b' : LnetBundler} {calls : List BundleCall} (ho : Outcomes b calls)
    (hf : Flight b calls) {j : ℕ} {call call' : BundleCall} (hcall : calls[j]? = some call)
    (htx : call'.tx = call.tx) {status : ItemStatus} (h : Settles call.items status b b')
    (hresolved : call'.phase = .resolved → ∃ tx receipt, call'.tx = some tx ∧
      tx.receipt = some receipt ∧ ∀ i ∈ call'.items, Recorded b' tx i)
    (hthrew : call'.phase.threw = true → call'.succeeded = false) :
    Outcomes b' (calls.set j call') where
  resolved k callk hk hphase := by
    rcases of_getElem?_set hcall hk with ⟨-, rfl⟩ | ⟨hne, hold⟩
    · exact hresolved hphase
    · obtain ⟨tx, receipt, htx, hreceipt, hrecorded⟩ := ho.resolved k callk hold hphase
      refine ⟨tx, receipt, htx, hreceipt, ?_⟩
      intro i hi
      exact (hrecorded i hi).settles h (hf.not_mem_of_ne hcall hold hne hi)
  threw k callk hk hphase := by
    rcases of_getElem?_set hcall hk with ⟨-, rfl⟩ | ⟨-, hold⟩
    · exact hthrew hphase
    · exact ho.threw k callk hold hphase
  receipt_hash k callk hk := by
    rcases of_getElem?_set hcall hk with ⟨-, rfl⟩ | ⟨-, hold⟩
    · rw [htx]
      exact ho.receipt_hash j call hcall
    · exact ho.receipt_hash k callk hold

theorem txHashOf_eq {receipt : Receipt} {hash : Bytes32} (h : receipt.hash = some hash.val) :
    txHashOf receipt = some hash.val := by
  simp [txHashOf, h, isHexTextOf_ne_empty hash.property]

/-- `bundleNow` returns: what the history has for the bundle. -/
theorem recorded_of_complete {parseLog : ParseLog} {b b' : LnetBundler} {calls : List BundleCall}
    (ho : Outcomes b calls) (hf : Flight b calls) (hc : Current b calls) {j : ℕ}
    {call : BundleCall} (hcall : calls[j]? = some call) (hout : call.outstanding = true)
    {tx : BundleTx} (htx : call.tx = some tx) {receipt : Receipt} (hreceipt : tx.receipt = some receipt)
    (hcomplete : complete parseLog b call.items (some receipt) = (b', .ok ())) :
    ∀ i ∈ call.items, Recorded b' tx i := by
  obtain ⟨r, hr, hsettles, hitems⟩ := complete_ok hcomplete
  cases hr
  intro i hi
  obtain ⟨hash, hhash⟩ := hf.listed j call hcall i hi
  obtain ⟨item, hitem, hitemhash⟩ := hashOf_eq_some.mp hhash
  obtain ⟨replies, -, hitem'⟩ := hitems i hi item hitem
  have htxhash := txHashOf_eq (ho.receipt_hash j call hcall tx receipt htx hreceipt)
  refine ⟨_, hitem', rfl, htxhash, rfl, ?_⟩
  rw [hsettles.history_eq]
  exact hc j call hcall hout i hi _ (hhash.trans (congrArg some hitemhash.symm))

theorem outcomes_step {env : Env} {s s' : System} {e : Event} (hf : Flight s.bundler s.bundles)
    (hc : Current s.bundler s.bundles) (ho : Outcomes s.bundler s.bundles)
    (hok : OutcomeSafe env s e) (h : Effect env s e s') : Outcomes s'.bundler s'.bundles := by
  obtain ⟨-, hfiled, hfailing, hsucceeding⟩ := hok
  cases h with
  | inserted i entryPoint op userOpHash reply hcall hvalid =>
    exact ho.enqueue (hfiled userOpHash (filedHash_eq hcall hvalid))
  | started _ _ => exact ho.start rfl rfl true
  | sent j call hash hcall hphase _ =>
    refine ho.progress hcall (by simp [hphase]) (by simp [hphase, BundlePhase.threw]) ?_
    intro tx receipt htx hreceipt
    cases htx
    cases hreceipt
  | mined j call hash receipt hcall htx hhash =>
    refine ho.progress hcall ?_ ?_ ?_
    · intro hphase
      obtain ⟨tx, r, htx', hr, -⟩ := ho.resolved j call hcall hphase
      rw [htx] at htx'
      cases htx'
      cases hr
    · intro hthrew
      simp only [BundleCall.succeeded, BundleCall.minedReceipt, Option.bind_some]
      by_contra hstatus
      have hstatus : receipt.status = some 1 := by simpa using hstatus
      have hnot := hsucceeding j (by simp [Event.succeeding, hstatus]) call (by simp [hcall])
      rw [hnot] at hthrew
      cases hthrew
    · intro tx r htx' hr
      cases htx'
      cases hr
      exact hhash
  | submitted j call hcall hphase _ =>
    exact ho.progress hcall (by simp) (by simp [BundlePhase.threw]) (ho.receipt_hash j call hcall)
  | returned j call tx receipt b hcall hphase htx hreceipt hcomplete =>
    have hout : call.outstanding = true := BundleCall.outstanding_of hphase rfl
    obtain ⟨_, _, hsettles, _⟩ := complete_ok hcomplete
    refine ho.settles hf hcall rfl hsettles ?_ (by simp [BundlePhase.threw])
    intro _
    exact ⟨tx, receipt, htx, hreceipt,
      recorded_of_complete ho hf hc hcall hout htx hreceipt hcomplete⟩
  | threw e j call b err hcall hout he hsettles _ =>
    refine ho.settles hf hcall rfl hsettles (by simp) ?_
    intro _
    exact hfailing j he call hcall
  | _ => exact ho

theorem outcomes_of_reach {env : Env} {s : System}
    (h : Reach (step env) (OutcomeSafe env) System.init s) : Outcomes s.bundler s.bundles :=
  h.invariant_of (I := fun s => Outcomes s.bundler s.bundles)
    (fun _ hr => And.intro (flight_of_reach hr) (current_of_reach (fun _ _ hok => hok.1) hr))
    outcomes_init
    fun _ _ _ hs ho hok hstep => outcomes_step hs.1 hs.2 ho hok (step_effect hstep)

/-! ## The result -/

theorem Recorded.not_null {b : LnetBundler} {tx : BundleTx} {i : ℕ} (h : Recorded b tx i) :
    ∃ hash item, b.hashOf i = some hash ∧ b.history.get hash = some i ∧
      b.items[i]? = some item ∧ item.status = .included ∧
      item.transactionHash = some tx.hash.val ∧
      b.getUserOperationReceipt (.arr [.str hash.val]) ≠ .ok none := by
  obtain ⟨item, hitem, hstatus, htx, hreceipt, hhistory⟩ := h
  obtain ⟨r, hr⟩ := Option.isSome_iff_exists.mp hreceipt
  refine ⟨item.userOpHash, item, hashOf_eq_some.mpr ⟨item, hitem, rfl⟩, hhistory, hitem, hstatus,
    htx, ?_⟩
  have hlookup : b.historyItem? item.userOpHash = some item := by
    rw [historyItem?, hhistory, Option.bind_some, hitem]
  rw [getUserOperationReceipt_of_item hlookup hr]
  cases receiptReply item.userOpHash item r with
  | error err => intro h; cases h
  | ok reply => intro h; cases h

/-- In a run in which no op is filed over a copy that is in flight or included, and in which
    `bundleNow` throws only for transactions that are never mined with status 1, the outcome of
    every successful transaction is recorded. -/
theorem outcome_recorded {env : Env} {s : System}
    (h : Reach (step env) (OutcomeSafe env) System.init s) : OutcomeRecorded s := by
  have ho := outcomes_of_reach h
  intro call hcall hended tx receipt htx hreceipt hstatus i hi
  obtain ⟨j, hj⟩ := List.mem_iff_getElem?.mp hcall
  rcases call.phase_of_ended hended with hphase | ⟨err, hphase⟩
  · obtain ⟨tx', _, htx', _, hrecorded⟩ := ho.resolved j call hj hphase
    rw [htx] at htx'
    cases htx'
    exact (hrecorded i hi).not_null
  · have := ho.threw j call hj (by rw [hphase]; rfl)
    simp [BundleCall.succeeded, BundleCall.minedReceipt, htx, hreceipt, hstatus] at this

/-- An op whose transaction succeeded is recorded. -/
theorem outcome_recorded_sample : ∃ s : System, s.bundles.any BundleCall.succeeded = true ∧
    OutcomeRecorded s := by
  obtain ⟨s, hreach, hs⟩ := Reach.exists_of_guardedRun (step (sampleEnv .try'))
    (OutcomeSafe (sampleEnv .try')) System.init
    (sampleBundle ++ [.mine 0 sampleSuccess, .waitReply 0 (.ok (some sampleSuccess))])
    (fun s => s.bundles.any BundleCall.succeeded) (by decide +kernel)
  exact ⟨s, hs, outcome_recorded hreach⟩

/-- `tx.wait()` rejects, and the transaction is mined with status 1. -/
theorem outcome_lost : ∃ s, Reachable (step (sampleEnv .try')) System.init s ∧
    ¬ OutcomeRecorded s := by
  obtain ⟨s, hreach, hs⟩ := Reach.exists_of_run (step (sampleEnv .try')) System.init
    (sampleBundle ++ [.waitReply 0 (.error { message := "request timeout" }), .mine 0 sampleSuccess])
    (fun s => s.bundler.statusOf 0 == some .failed && s.bundles.any fun call =>
      !call.outstanding && call.succeeded && call.items == [0]) (by decide +kernel)
  simp only [Bool.and_eq_true, beq_iff_eq, Bool.not_eq_true', List.any_eq_true] at hs
  obtain ⟨hfailed, call, hcall, ⟨hended, hsucceeded⟩, hitems⟩ := hs
  refine ⟨s, hreach, ?_⟩
  intro hrecorded
  unfold BundleCall.succeeded at hsucceeded
  split at hsucceeded
  · rename_i receipt hreceipt
    obtain ⟨tx, htx, hreceipt⟩ := Option.bind_eq_some_iff.mp hreceipt
    obtain ⟨hash, item, -, -, hitem, hstatus, -⟩ := hrecorded call hcall hended tx receipt htx
      hreceipt (by simpa using hsucceeded) 0 (by rw [hitems]; exact List.mem_singleton_self 0)
    rw [statusOf_eq_some.mpr ⟨item, hitem, hstatus⟩] at hfailed
    cases hfailed
  · cases hsucceeded

end AccountAbstraction.Bundler
