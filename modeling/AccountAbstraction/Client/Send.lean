import AccountAbstraction.Client.RevertData
import AccountAbstraction.Client.Session

/-!
# From a signed op to its outcome

The rest of `sendExecuteUserOp` (`examples/privy-google-aa/src/userOp.ts:266-284`) behind the
signature, with `rpc`, `bundlerSend` and `waitForUserOpReceipt` (lines 131-193) that it calls.
Each `await` is a phase: the session, the write and its one repetition, the receipt and the
pause before it is asked for again. What comes back is an event, of any content.

* `follows_of_next`: what one answer does.
* `ordered_of_reach`: the phases come in the order of their ranks.
* `sending_run`: how often what is asked, and what is known then, whatever the answers.
-/

namespace AccountAbstraction.Client

open Js

/-! ## `rpc` -/

/-- A response whose body is read with `response.text()`. -/
structure HttpResponse where
  status : ℕ
  text : Except JsError String

/-- `UNAUTHORIZED` (line 129). -/
def unauthorizedCode : Json := .num (.int (-32001))

/-- `response.status === 401 ? UNAUTHORIZED : undefined`. -/
def statusCode (status : ℕ) : Option Json := if status = 401 then some unauthorizedCode else none

/-- A value in a template literal. -/
def templateText : Option Json → Except JsError String
  | none => .ok "undefined"
  | some v => match v.text? with
    | some text => .ok text
    | none => .error notPrimitive

/-- The error that is made of a JSON-RPC `error` (lines 157-159), or what making it throws. -/
def replyError (error : Json) : JsError :=
  match templateText (error.field "message") with
  | .error err => err
  | .ok message =>
    match (if truthy (error.field "data") then (templateText (error.field "data")).map ("\n" ++ ·)
        else .ok "") with
    | .error err => err
    | .ok data => { message := message ++ data, code := error.field "code" }

/-- `rpc` behind the `await` of `fetch` (lines 140-162). -/
def rpcReply (url : String) (response : HttpResponse) : Except JsError (Option Json) := do
  let text ← response.text
  match parseJson text with
  | none => .error { message := s!"{url} returned a non-JSON {response.status} response",
                     code := statusCode response.status }
  | some payload =>
    match ← payload.prop "error" with
    | none => .ok (payload.field "result")
    | some (.str error) => .error { message := error, code := statusCode response.status }
    | some error => if error.truthy then .error (replyError error) else .ok (payload.field "result")

/-- `err.code === UNAUTHORIZED`. -/
def isUnauthorized (err : JsError) : Bool :=
  match err.code with
  | some (.num x) => x == .int (-32001)
  | _ => false

/-! ## `revertReasonFromReceipt` -/

/-- `v.toLowerCase()` for `v` of this name. -/
def lowerCase (name : String) : Option Json → Except JsError String
  | some (.str s) => .ok (lower s)
  | none => .error (readNullError "undefined" "toLowerCase")
  | some .null => .error (readNullError "null" "toLowerCase")
  | some _ => .error { name := "TypeError", message := s!"{name}.toLowerCase is not a function" }

/-- `v?.toLowerCase()`. -/
def optLowerCase (name : String) : Option Json → Except JsError (Option String)
  | none => .ok none
  | some .null => .ok none
  | some v => (lowerCase name (some v)).map some

/-- `topics[i]`, where `topics` is not falsy. -/
def topicAt (topics : Json) (i : ℕ) : Option Json :=
  match topics with
  | .arr items => items[i]?
  | .str s => (s.toList[i]?).map fun c => .str (String.singleton c)
  | v => v.field (toString i)

/-- What `parseLog({ topics: [...topics], data })` gives: a throw, `null`, or the `revertReason`. -/
abbrev ParseLogReason := Json → Json → Except Unit (Option String)

section Reason

variable (E : Ethers) (parseLog : ParseLogReason) (userOpHash : String)

/-- The loop of `revertReasonFromReceipt` (lines 223-233). -/
def reasonInLogs : List Json → Except JsError (Option String)
  | [] => .ok none
  | log :: logs => do
    let topics := (jsOr (← log.prop "topics") (some (.arr []))).getD (.arr [])
    if (← optLowerCase "topics[0]" (topicAt topics 0)) ≠ some (Proxy.revertReasonTopic E) then
      reasonInLogs logs
    else if (← optLowerCase "topics[1]" (topicAt topics 1)) ≠ some (lower userOpHash) then
      reasonInLogs logs
    else
      match parseLog topics ((jsOr (log.field "data") (some (.str "0x"))).getD (.str "0x")) with
      | .error () => .ok none
      | .ok none => reasonInLogs logs
      | .ok (some reason) => .ok (decodeRevertData E reason)

/-- `revertReasonFromReceipt(receipt, userOpHash)` (lines 220-235). -/
def revertReasonFromReceipt (receipt : Json) : Except JsError (Option String) :=
  match (jsOr (receipt.field "logs") (some (.arr []))).getD (.arr []) with
  | .arr logs => reasonInLogs E parseLog userOpHash logs
  | .str s => reasonInLogs E parseLog userOpHash (s.toList.map fun c => .str (String.singleton c))
  | _ => .error { name := "TypeError", message := "receipt.logs is not iterable" }

end Reason

/-! ## The run -/

/-- The op that is sent, with what the browser knows of it, and the two servers. -/
structure Write where
  proxyEndpoint : String
  bundlerUrl : String
  entryPoint : AddressText
  op : PackedUserOperation
  owner : String
  userOpHash : String

/-- `SendUserOpResult` (lines 57-64). -/
structure SendUserOpResult where
  owner : String
  smartAccount : String
  userOpHash : String
  receipt : Json
  success : Bool
  revertReason : Option String

/-- Where the call stands: `await ensureSession()` and the write, `await ensureSession(true)` and its
    repetition, the `i`-th receipt and the pause behind it, or the end. -/
inductive Phase
  | ensuring
  | posting
  | renewing
  | reposting
  | polling (i : ℕ)
  | pausing (i : ℕ)
  | resolved (result : SendUserOpResult)
  | rejected (err : JsError)

/-- What an `await` gives. -/
inductive Answer
  | session (outcome : Except JsError Unit)
  | response (outcome : Except JsError HttpResponse)
  | timer

/-- A call of another function of the module or of `session.ts`. -/
inductive Call
  | ensureSession (forceRefresh : Bool)
  | rpc (url method : String) (params : List Json) (authed : Bool)

namespace Write

variable (E : Ethers) (parseLog : ParseLogReason) (w : Write)

/-- The call that is awaited. -/
def call : Phase → Option Call
  | .ensuring => some (.ensureSession false)
  | .renewing => some (.ensureSession true)
  | .posting => some (.rpc w.proxyEndpoint "eth_sendUserOperation"
      [serializeUserOp w.op, .str w.entryPoint.val] true)
  | .reposting => some (.rpc w.proxyEndpoint "eth_sendUserOperation"
      [serializeUserOp w.op, .str w.entryPoint.val] true)
  | .polling _ => some (.rpc w.bundlerUrl "eth_getUserOperationReceipt" [.str w.userOpHash] false)
  | _ => none

/-- What `rpc` gives for the write. -/
def writeReply (outcome : Except JsError HttpResponse) : Except JsError (Option Json) :=
  outcome.bind (rpcReply w.proxyEndpoint)

/-- What `rpc` gives for a receipt. -/
def receiptReply (outcome : Except JsError HttpResponse) : Except JsError (Option Json) :=
  outcome.bind (rpcReply w.bundlerUrl)

/-- The comparison of the hashes (lines 267-269). -/
def afterWrite (returnedHash : Option Json) : Phase :=
  match lowerCase "returnedHash" returnedHash with
  | .error err => .rejected err
  | .ok hash =>
    if hash ≠ lower w.userOpHash then
      match templateText returnedHash with
      | .error err => .rejected err
      | .ok text => .rejected { message := s!"Bundler returned {text}, expected {w.userOpHash}" }
    else .polling 0

/-- `receipt.success !== false` (line 274). -/
def succeeded (receipt : Json) : Bool :=
  match receipt.field "success" with
  | some (.bool false) => false
  | _ => true

/-- The outcome of a receipt (lines 274-283). -/
def finish (receipt : Json) : Phase :=
  match (if succeeded receipt then .ok none else revertReasonFromReceipt E parseLog w.userOpHash receipt) with
  | .error err => .rejected err
  | .ok revertReason => .resolved
      { owner := w.owner, smartAccount := w.op.sender, userOpHash := w.userOpHash, receipt,
        success := succeeded receipt, revertReason }

/-- What follows on an `await`; `none` for an answer to something else. -/
def next : Phase → Answer → Option Phase
  | .ensuring, .session (.ok ()) => some .posting
  | .ensuring, .session (.error err) => some (.rejected err)
  | .posting, .response outcome => some (match w.writeReply outcome with
    | .ok returnedHash => w.afterWrite returnedHash
    | .error err => if isUnauthorized err then .renewing else .rejected err)
  | .renewing, .session (.ok ()) => some .reposting
  | .renewing, .session (.error err) => some (.rejected err)
  | .reposting, .response outcome => some (match w.writeReply outcome with
    | .ok returnedHash => w.afterWrite returnedHash
    | .error err => .rejected err)
  | .polling i, .response outcome => some (match w.receiptReply outcome with
    | .ok receipt => if truthy receipt then w.finish E parseLog (receipt.getD .null) else .pausing i
    | .error err => .rejected err)
  | .pausing i, .timer => some (if i + 1 < 60 then .polling (i + 1)
      else .rejected { message := s!"Timed out waiting for {w.userOpHash}" })
  | _, _ => none

end Write

/-- A phase with the answers before it, each with the phase that awaited it. -/
structure Sending where
  phase : Phase
  trace : List (Phase × Answer)

def Sending.start : Sending := { phase := .ensuring, trace := [] }

/-- One answer. -/
def sendingStep (E : Ethers) (parseLog : ParseLogReason) (w : Write) (s : Sending) (answer : Answer) :
    Option Sending :=
  (w.next E parseLog s.phase answer).map fun phase =>
    { phase, trace := s.trace ++ [(s.phase, answer)] }

/-! ## What one answer does -/

section Step

variable {E : Ethers} {parseLog : ParseLogReason} {w : Write}

/-- The bundler acknowledged the op: `rpc` gave its hash for the write. -/
def Write.Acknowledges (w : Write) (outcome : Except JsError HttpResponse) : Prop :=
  ∃ text, w.writeReply outcome = .ok (some (.str text)) ∧ lower text = lower w.userOpHash

/-- The write was refused for want of a session. -/
def Write.Refuses (w : Write) (outcome : Except JsError HttpResponse) : Prop :=
  ∃ err, w.writeReply outcome = .error err ∧ isUnauthorized err = true

/-- The result tells what a receipt says. -/
structure Write.Reports (E : Ethers) (parseLog : ParseLogReason) (w : Write)
    (outcome : Except JsError HttpResponse) (result : SendUserOpResult) : Prop where
  receipt : w.receiptReply outcome = .ok (some result.receipt)
  truthy : result.receipt.truthy = true
  op : result.userOpHash = w.userOpHash ∧ result.smartAccount = w.op.sender ∧ result.owner = w.owner
  success : result.success = false ↔ result.receipt.field "success" = some (.bool false)
  reason : if result.success then result.revertReason = none
    else revertReasonFromReceipt E parseLog w.userOpHash result.receipt = .ok result.revertReason

/-- The steps from one phase to the next. -/
inductive Follows (E : Ethers) (parseLog : ParseLogReason) (w : Write) : Phase → Answer → Phase → Prop
  | opened : Follows E parseLog w .ensuring (.session (.ok ())) .posting
  | refused {outcome : Except JsError HttpResponse} (h : w.Refuses outcome) :
      Follows E parseLog w .posting (.response outcome) .renewing
  | renewed : Follows E parseLog w .renewing (.session (.ok ())) .reposting
  | written {phase : Phase} {outcome : Except JsError HttpResponse}
      (hphase : phase = .posting ∨ phase = .reposting) (h : w.Acknowledges outcome) :
      Follows E parseLog w phase (.response outcome) (.polling 0)
  | pending (i : ℕ) (outcome : Except JsError HttpResponse) :
      Follows E parseLog w (.polling i) (.response outcome) (.pausing i)
  | again {i : ℕ} (h : i + 1 < 60) : Follows E parseLog w (.pausing i) .timer (.polling (i + 1))
  | resolved {i : ℕ} {outcome : Except JsError HttpResponse} {result : SendUserOpResult}
      (h : w.Reports E parseLog outcome result) :
      Follows E parseLog w (.polling i) (.response outcome) (.resolved result)
  | rejected {phase : Phase} (answer : Answer) (err : JsError) (h : ∀ result, phase ≠ .resolved result)
      (h' : ∀ err, phase ≠ .rejected err) : Follows E parseLog w phase answer (.rejected err)

/-- Behind the write, the receipt is awaited, or the call fails. -/
theorem afterWrite_cases (w : Write) (returnedHash : Option Json) :
    (∃ text, returnedHash = some (.str text) ∧ lower text = lower w.userOpHash ∧
      w.afterWrite returnedHash = .polling 0) ∨
    ∃ err, w.afterWrite returnedHash = .rejected err := by
  unfold Write.afterWrite
  cases returnedHash with
  | none => exact .inr ⟨_, rfl⟩
  | some v =>
    cases v with
    | str text =>
      simp only [lowerCase, templateText, Json.text?]
      split_ifs with h
      · exact .inr ⟨_, rfl⟩
      · exact .inl ⟨text, rfl, not_not.mp h, rfl⟩
    | _ => exact .inr ⟨_, rfl⟩

/-- A receipt is reported as it is, or its logs cannot be read. -/
theorem finish_cases {outcome : Except JsError HttpResponse} {receipt : Json}
    (hreply : w.receiptReply outcome = .ok (some receipt)) (htruthy : receipt.truthy = true) :
    (∃ result, w.finish E parseLog receipt = .resolved result ∧ w.Reports E parseLog outcome result) ∨
    ∃ err, w.finish E parseLog receipt = .rejected err := by
  have hsuccess : Write.succeeded receipt = false ↔ receipt.field "success" = some (.bool false) := by
    unfold Write.succeeded
    split <;> simp_all
  unfold Write.finish
  cases hok : Write.succeeded receipt with
  | true =>
    refine .inl ⟨_, rfl, hreply, htruthy, ⟨rfl, rfl, rfl⟩, ?_, rfl⟩
    rw [← hsuccess, hok]
  | false =>
    cases hreason : revertReasonFromReceipt E parseLog w.userOpHash receipt with
    | error err => exact .inr ⟨err, rfl⟩
    | ok reason =>
      refine .inl ⟨_, rfl, hreply, htruthy, ⟨rfl, rfl, rfl⟩, ?_, hreason⟩
      rw [← hsuccess, hok]

/-- What follows on an answer to the write that was not an error. -/
theorem follows_written {phase : Phase} (hphase : phase = .posting ∨ phase = .reposting)
    {outcome : Except JsError HttpResponse} {returnedHash : Option Json}
    (hreply : w.writeReply outcome = .ok returnedHash) :
    Follows E parseLog w phase (.response outcome) (w.afterWrite returnedHash) := by
  rcases afterWrite_cases w returnedHash with ⟨text, rfl, hhash, hnext⟩ | ⟨err, hnext⟩
  · rw [hnext]
    exact .written hphase ⟨text, hreply, hhash⟩
  · rw [hnext]
    rcases hphase with rfl | rfl
    · exact .rejected _ err (by simp) (by simp)
    · exact .rejected _ err (by simp) (by simp)

theorem follows_polled (i : ℕ) {outcome : Except JsError HttpResponse} {receipt : Option Json}
    (hreply : w.receiptReply outcome = .ok receipt) (htruthy : truthy receipt = true) :
    Follows E parseLog w (.polling i) (.response outcome) (w.finish E parseLog (receipt.getD .null)) := by
  cases receipt with
  | none => cases htruthy
  | some receipt =>
    rcases finish_cases hreply htruthy with ⟨result, hnext, hreports⟩ | ⟨err, hnext⟩
    · rw [Option.getD_some, hnext]
      exact .resolved hreports
    · rw [Option.getD_some, hnext]
      exact .rejected _ err (by simp) (by simp)

theorem follows_of_next {phase phase' : Phase} {answer : Answer}
    (h : w.next E parseLog phase answer = some phase') : Follows E parseLog w phase answer phase' := by
  unfold Write.next at h
  split at h
  · cases h
    exact .opened
  · cases h
    exact .rejected _ _ (by simp) (by simp)
  · rename_i outcome
    cases hreply : w.writeReply outcome with
    | ok returnedHash =>
      simp only [hreply, Option.some.injEq] at h
      exact h ▸ follows_written (.inl rfl) hreply
    | error err =>
      simp only [hreply] at h
      split_ifs at h with hrefused
      · cases h
        exact .refused ⟨err, hreply, hrefused⟩
      · cases h
        exact .rejected _ _ (by simp) (by simp)
  · cases h
    exact .renewed
  · cases h
    exact .rejected _ _ (by simp) (by simp)
  · rename_i outcome
    cases hreply : w.writeReply outcome with
    | ok returnedHash =>
      simp only [hreply, Option.some.injEq] at h
      exact h ▸ follows_written (.inr rfl) hreply
    | error err =>
      simp only [hreply] at h
      cases h
      exact .rejected _ _ (by simp) (by simp)
  · rename_i i outcome
    cases hreply : w.receiptReply outcome with
    | ok receipt =>
      simp only [hreply] at h
      split_ifs at h with htruthy
      · cases h
        exact follows_polled i hreply htruthy
      · cases h
        exact .pending i outcome
    | error err =>
      simp only [hreply] at h
      cases h
      exact .rejected _ _ (by simp) (by simp)
  · split_ifs at h with hi
    · cases h
      exact .again hi
    · cases h
      exact .rejected _ _ (by simp) (by simp)
  · cases h

theorem sendingStep_eq {s s' : Sending} {answer : Answer}
    (h : sendingStep E parseLog w s answer = some s') :
    Follows E parseLog w s.phase answer s'.phase ∧ s'.trace = s.trace ++ [(s.phase, answer)] := by
  obtain ⟨phase, hphase, rfl⟩ := Option.map_eq_some_iff.mp h
  exact ⟨follows_of_next hphase, rfl⟩

/-! ## The order of the phases -/

/-- The answers that may still come. -/
def Phase.rank : Phase → ℕ
  | .ensuring => 124
  | .posting => 123
  | .renewing => 122
  | .reposting => 121
  | .polling i => 2 * (60 - i)
  | .pausing i => 2 * (60 - i) - 1
  | .resolved _ => 0
  | .rejected _ => 0

/-- The number of a receipt is one of the sixty. -/
def Phase.InLoop : Phase → Prop
  | .polling i => i < 60
  | .pausing i => i < 60
  | _ => True

/-- Every answer leads to a later phase. -/
theorem Follows.rank_lt {phase phase' : Phase} {answer : Answer}
    (h : Follows E parseLog w phase answer phase') (hloop : phase.InLoop) :
    phase'.rank < phase.rank ∧ phase'.InLoop := by
  cases h with
  | opened => exact ⟨by decide, trivial⟩
  | refused => exact ⟨by decide, trivial⟩
  | renewed => exact ⟨by decide, trivial⟩
  | written hphase =>
    rcases hphase with rfl | rfl
    · exact ⟨by decide, by show 0 < 60; omega⟩
    · exact ⟨by decide, by show 0 < 60; omega⟩
  | pending i =>
    simp only [Phase.InLoop] at hloop
    exact ⟨by simp only [Phase.rank]; omega, hloop⟩
  | again hi => exact ⟨by simp only [Phase.rank]; omega, hi⟩
  | resolved =>
    simp only [Phase.InLoop] at hloop
    exact ⟨by simp only [Phase.rank]; omega, trivial⟩
  | rejected answer err hresolved hrejected =>
    refine ⟨?_, trivial⟩
    cases phase with
    | resolved result => exact absurd rfl (hresolved result)
    | rejected err => exact absurd rfl (hrejected err)
    | polling i => simp only [Phase.rank, Phase.InLoop] at hloop ⊢; omega
    | pausing i => simp only [Phase.rank, Phase.InLoop] at hloop ⊢; omega
    | _ => exact Nat.succ_pos _

/-- The phases so far. -/
def Sending.phases (s : Sending) : List Phase := s.trace.map Prod.fst ++ [s.phase]

theorem phases_step {s s' : Sending} {phase : Phase} {answer : Answer}
    (htrace : s'.trace = s.trace ++ [(s.phase, answer)]) (hphase : s'.phase = phase) :
    s'.phases = s.phases ++ [phase] := by
  simp [Sending.phases, htrace, hphase]

/-- The phases come in the order of their ranks, so none comes twice. -/
structure Sending.Ordered (s : Sending) : Prop where
  inLoop : ∀ phase ∈ s.phases, phase.InLoop
  falls : (s.phases.map Phase.rank).Pairwise (· > ·)
  left : s.trace.length + s.phase.rank ≤ 124

theorem Sending.Ordered.rank_le {s : Sending} (hs : s.Ordered) : ∀ n ∈ s.phases.map Phase.rank, s.phase.rank ≤ n := by
  have hfalls := hs.falls
  rw [Sending.phases, List.map_append, List.pairwise_append] at hfalls
  intro n hn
  rw [Sending.phases, List.map_append] at hn
  rcases List.mem_append.mp hn with hn | hn
  · exact (hfalls.2.2 n hn _ (List.mem_singleton.mpr rfl)).le
  · exact (List.mem_singleton.mp hn).ge

theorem ordered_of_reach {s : Sending} (h : Reachable (sendingStep E parseLog w) .start s) : s.Ordered := by
  refine h.invariant ⟨by simp [Sending.phases, Sending.start, Phase.InLoop],
    by simp [Sending.phases, Sending.start], by simp [Sending.start, Phase.rank]⟩ ?_
  intro s answer s' hs _ hstep
  obtain ⟨hfollows, htrace⟩ := sendingStep_eq hstep
  have hmem : s.phase ∈ s.phases := List.mem_append_right _ (List.mem_singleton.mpr rfl)
  obtain ⟨hrank, hloop⟩ := hfollows.rank_lt (hs.inLoop _ hmem)
  have hphases := phases_step htrace rfl
  refine ⟨?_, ?_, ?_⟩
  · rw [hphases]
    intro phase hphase
    rcases List.mem_append.mp hphase with hphase | hphase
    · exact hs.inLoop phase hphase
    · rwa [List.mem_singleton.mp hphase]
  · rw [hphases, List.map_append, List.pairwise_append]
    refine ⟨hs.falls, List.pairwise_singleton _ _, fun n hn m hm => ?_⟩
    rw [List.mem_singleton.mp hm]
    exact hrank.trans_le (hs.rank_le n hn)
  · have := hs.left
    rw [htrace, List.length_append, List.length_singleton]
    omega

/-- As many phases of a kind are possible as there are ranks for it. -/
theorem Sending.Ordered.countP_le {s : Sending} (hs : s.Ordered) (kind : Phase → Bool) (ranks : List ℕ)
    (hranks : ∀ phase ∈ s.phases, kind phase = true → phase.rank ∈ ranks) :
    s.phases.countP kind ≤ ranks.length := by
  have hnodup : ((s.phases.filter kind).map Phase.rank).Nodup :=
    (hs.falls.sublist (List.filter_sublist.map _)).imp fun h => Nat.ne_of_gt h
  have hsubset : (s.phases.filter kind).map Phase.rank ⊆ ranks := by
    intro n hn
    obtain ⟨phase, hphase, rfl⟩ := List.mem_map.mp hn
    obtain ⟨hmem, hkind⟩ := List.mem_filter.mp hphase
    exact hranks phase hmem hkind
  have hlength := (List.subperm_of_subset hnodup hsubset).length_le
  rwa [List.length_map, ← List.countP_eq_length_filter] at hlength

/-! ## How a phase is reached -/

/-- A phase of some kind is entered from another kind by one answer. -/
theorem entered_of_reach (kind : Phase → Prop) (entry : Phase × Answer → Prop) (hstart : ¬kind .ensuring)
    (hentry : ∀ phase answer phase', Follows E parseLog w phase answer phase' → kind phase' →
      kind phase ∨ entry (phase, answer)) {s : Sending}
    (h : Reachable (sendingStep E parseLog w) .start s) :
    (∃ phase ∈ s.phases, kind phase) → ∃ p ∈ s.trace, entry p := by
  refine Reach.invariant (I := fun s => (∃ phase ∈ s.phases, kind phase) → ∃ p ∈ s.trace, entry p) h ?_ ?_
  · rintro ⟨phase, hphase, hkind⟩
    rw [List.mem_singleton.mp hphase] at hkind
    exact absurd hkind hstart
  · rintro s answer s' hs - hstep ⟨phase, hphase, hkind⟩
    obtain ⟨hfollows, htrace⟩ := sendingStep_eq hstep
    rw [phases_step htrace rfl] at hphase
    rw [htrace]
    have hbefore : (∃ phase ∈ s.phases, kind phase) → ∃ p ∈ s.trace ++ [(s.phase, answer)], entry p := by
      intro hin
      obtain ⟨p, hp, hentered⟩ := hs hin
      exact ⟨p, List.mem_append_left _ hp, hentered⟩
    rcases List.mem_append.mp hphase with hphase | hphase
    · exact hbefore ⟨phase, hphase, hkind⟩
    · rw [List.mem_singleton.mp hphase] at hkind
      rcases hentry _ _ _ hfollows hkind with hkind | hentered
      · exact hbefore ⟨_, List.mem_append_right _ (List.mem_singleton.mpr rfl), hkind⟩
      · exact ⟨_, List.mem_append_right _ (List.mem_singleton.mpr rfl), hentered⟩

variable {s : Sending}

/-- The session is renewed when the first write was refused. -/
theorem refused_of_renewing (h : Reachable (sendingStep E parseLog w) .start s)
    (hmem : .renewing ∈ s.phases) :
    ∃ outcome, (.posting, .response outcome) ∈ s.trace ∧ w.Refuses outcome := by
  obtain ⟨p, hp, outcome, rfl, hrefuses⟩ := entered_of_reach (· = .renewing)
    (fun p => ∃ outcome, p = (.posting, .response outcome) ∧ w.Refuses outcome) (by simp)
    (by
      intro phase answer phase' hfollows hkind
      cases hfollows with
      | refused hrefuses => exact .inr ⟨_, rfl, hrefuses⟩
      | _ => cases hkind) h ⟨_, hmem, rfl⟩
  exact ⟨outcome, hp, hrefuses⟩

/-- The write is repeated when the session was renewed. -/
theorem renewed_of_reposting (h : Reachable (sendingStep E parseLog w) .start s)
    (hmem : .reposting ∈ s.phases) : (.renewing, .session (.ok ())) ∈ s.trace := by
  obtain ⟨p, hp, rfl⟩ := entered_of_reach (· = .reposting) (· = (.renewing, .session (.ok ()))) (by simp)
    (by
      intro phase answer phase' hfollows hkind
      cases hfollows with
      | renewed => exact .inr rfl
      | _ => cases hkind) h ⟨_, hmem, rfl⟩
  exact hp

/-- A receipt is awaited, or will be again. -/
def Phase.isLoop : Phase → Bool
  | .polling _ => true
  | .pausing _ => true
  | _ => false

/-- Receipts are asked for when the write was acknowledged. -/
theorem acknowledged_of_loop (h : Reachable (sendingStep E parseLog w) .start s) {phase : Phase}
    (hmem : phase ∈ s.phases) (hloop : phase.isLoop = true) :
    ∃ phase outcome, (phase = .posting ∨ phase = .reposting) ∧ (phase, .response outcome) ∈ s.trace ∧
      w.Acknowledges outcome := by
  obtain ⟨p, hp, phase, outcome, rfl, hphase, hack⟩ := entered_of_reach (fun phase => phase.isLoop = true)
    (fun p => ∃ phase outcome, p = (phase, .response outcome) ∧ (phase = .posting ∨ phase = .reposting) ∧
      w.Acknowledges outcome) (by simp [Phase.isLoop])
    (by
      intro phase answer phase' hfollows hkind
      cases hfollows with
      | written hphase hack => exact .inr ⟨_, _, rfl, hphase, hack⟩
      | pending => exact .inl rfl
      | again => exact .inl rfl
      | _ => cases hkind) h ⟨_, hmem, hloop⟩
  exact ⟨phase, outcome, hphase, hp, hack⟩

/-- The call resolves with what a receipt says. -/
theorem reported_of_resolved (h : Reachable (sendingStep E parseLog w) .start s) {result : SendUserOpResult}
    (hphase : s.phase = .resolved result) :
    ∃ i outcome, (.polling i, .response outcome) ∈ s.trace ∧ w.Reports E parseLog outcome result := by
  obtain ⟨p, hp, i, outcome, rfl, hreports⟩ := entered_of_reach (· = .resolved result)
    (fun p => ∃ i outcome, p = (.polling i, .response outcome) ∧ w.Reports E parseLog outcome result)
    (by simp)
    (by
      intro phase answer phase' hfollows hkind
      cases hfollows with
      | resolved hreports =>
        cases hkind
        exact .inr ⟨_, _, rfl, hreports⟩
      | _ => cases hkind) h ⟨_, List.mem_append_right _ (List.mem_singleton.mpr rfl), hphase⟩
  exact ⟨i, outcome, hp, hreports⟩

/-! ## The result -/

def Phase.isWrite : Phase → Bool
  | .posting => true
  | .reposting => true
  | _ => false

def Phase.isPoll : Phase → Bool
  | .polling _ => true
  | _ => false

theorem trace_length {answers : List Answer} {s s' : Sending}
    (h : run (sendingStep E parseLog w) s answers = some s') :
    s'.trace.length = s.trace.length + answers.length := by
  induction answers generalizing s with
  | nil =>
    cases h
    rfl
  | cons answer answers ih =>
    obtain ⟨s₁, hstep, hrun⟩ := Option.bind_eq_some_iff.mp h
    rw [ih hrun, (sendingStep_eq hstep).2, List.length_append, List.length_singleton, List.length_cons]
    omega

/-- Whatever the session, the servers and the clock answer, sending an op ends after at most 124
    answers. It is written at most twice, and twice only if the first answer was a refusal for want
    of a session and the session was then renewed; its receipt is asked for at most 60 times, and
    only if an answer to a write was the op's own hash; and what the call resolves with is what an
    answer to that question says. -/
theorem sending_run {answers : List Answer} (hrun : run (sendingStep E parseLog w) .start answers = some s) :
    answers.length ≤ 124 ∧ s.phases.countP Phase.isWrite ≤ 2 ∧ s.phases.countP Phase.isPoll ≤ 60 ∧
    (2 ≤ s.phases.countP Phase.isWrite → (.renewing, .session (.ok ())) ∈ s.trace ∧
      ∃ outcome, (.posting, .response outcome) ∈ s.trace ∧ w.Refuses outcome) ∧
    (1 ≤ s.phases.countP Phase.isPoll → ∃ phase outcome, (phase = .posting ∨ phase = .reposting) ∧
      (phase, .response outcome) ∈ s.trace ∧ w.Acknowledges outcome) ∧
    ∀ result, s.phase = .resolved result →
      ∃ i outcome, (.polling i, .response outcome) ∈ s.trace ∧ w.Reports E parseLog outcome result := by
  have h := Reach.of_run hrun
  have hordered := ordered_of_reach h
  have hlength := trace_length hrun
  refine ⟨?_, ?_, ?_, ?_, ?_, fun result hphase => reported_of_resolved h hphase⟩
  · have := hordered.left
    simp only [Sending.start, List.length_nil] at hlength
    omega
  · refine hordered.countP_le _ [123, 121] fun phase _ hkind => ?_
    cases phase with
    | posting => exact List.mem_cons_self
    | reposting => exact List.mem_cons_of_mem _ List.mem_cons_self
    | _ => cases hkind
  · have hranks := hordered.countP_le Phase.isPoll ((List.range 60).map fun i => 2 * (60 - i))
      fun phase hmem hkind => ?_
    · simpa using hranks
    · cases phase with
      | polling i => exact List.mem_map.mpr ⟨i, List.mem_range.mpr (hordered.inLoop _ hmem), rfl⟩
      | _ => cases hkind
  · intro htwice
    have hmem : .reposting ∈ s.phases := by
      by_contra hnot
      have honce := hordered.countP_le Phase.isWrite [123] fun phase hmem hkind => ?_
      · exact absurd (htwice.trans honce) (by decide)
      · cases phase with
        | posting => simp [Phase.rank]
        | reposting => exact absurd hmem hnot
        | _ => cases hkind
    have hrenewed := renewed_of_reposting h hmem
    exact ⟨hrenewed, refused_of_renewing h (List.mem_append_left _ (List.mem_map.mpr ⟨_, hrenewed, rfl⟩))⟩
  · intro hpolled
    obtain ⟨phase, hmem, hkind⟩ := List.countP_pos_iff.mp hpolled
    refine acknowledged_of_loop h hmem ?_
    cases phase with
    | polling i => rfl
    | _ => cases hkind

end Step

/-! ## A sample run -/

/-- The `result` of a reply without an `error`. -/
theorem rpcReply_result {reply : Json} (hplain : reply.Plain) (hnull : reply ≠ .null)
    (herror : reply.field "error" = none) (url : String) (status : ℕ) :
    rpcReply url { status, text := .ok reply.stringify } = .ok (reply.field "result") := by
  simp only [rpcReply, ok_bind, parseJson_stringify hplain, Json.prop_of_ne_null hnull, herror]

def sentHash : String := "0xab"

def sentWrite : Write where
  proxyEndpoint := "/api/bundler"
  bundlerUrl := "https://bundler.l-net.io"
  entryPoint := sampleLnet.entryPoint
  op := builtOp lowerEthers sampleLnet sampleOwner 0 sampleSender.val sampleDest sampleFunc "0x"
  owner := sampleOwner.val
  userOpHash := sentHash

def resultReply (result : Json) : HttpResponse where
  status := 200
  text := .ok (Json.obj [("jsonrpc", .str "2.0"), ("result", result)]).stringify

theorem rpcReply_resultReply (url : String) {result : Json} (hplain : result.Plain) :
    rpcReply url (resultReply result) = .ok (some result) := by
  have hreply : (Json.obj [("jsonrpc", .str "2.0"), ("result", result)]).Plain := by
    simp [Json.Plain, PlainFields, hplain]
  exact rpcReply_result hreply (by simp) rfl url 200

def sentReceipt : Json := .obj [("success", .bool true)]

/-- The write is acknowledged, the receipt is there when it is asked for the second time. -/
def sentAnswers : List Answer :=
  [.session (.ok ()), .response (.ok (resultReply (.str "0xAB"))), .response (.ok (resultReply .null)), .timer,
   .response (.ok (resultReply sentReceipt))]

def sentResult : SendUserOpResult where
  owner := sampleOwner.val
  smartAccount := sampleSender.val
  userOpHash := sentHash
  receipt := sentReceipt
  success := true
  revertReason := none

theorem sent_run (parseLog : ParseLogReason) : ∃ s,
    run (sendingStep lowerEthers parseLog sentWrite) .start sentAnswers = some s ∧
      s.phase = .resolved sentResult := by
  have hhash := rpcReply_resultReply sentWrite.proxyEndpoint (show (Json.str "0xAB").Plain from trivial)
  have hnull := rpcReply_resultReply sentWrite.bundlerUrl (show Json.null.Plain from trivial)
  have hreceipt := rpcReply_resultReply sentWrite.bundlerUrl
    (show sentReceipt.Plain by simp [sentReceipt, Json.Plain, PlainFields])
  have hwritten : sentWrite.next lowerEthers parseLog .posting (.response (.ok (resultReply (.str "0xAB")))) =
      some (.polling 0) := by
    have hlower : lower "0xAB" = lower sentWrite.userOpHash := by decide +kernel
    simp [Write.next, Write.writeReply, Except.bind, hhash, Write.afterWrite, lowerCase, hlower]
  have hpending : sentWrite.next lowerEthers parseLog (.polling 0) (.response (.ok (resultReply .null))) =
      some (.pausing 0) := by
    simp [Write.next, Write.receiptReply, Except.bind, hnull, truthy, Json.truthy]
  have hresolved : sentWrite.next lowerEthers parseLog (.polling 1) (.response (.ok (resultReply sentReceipt))) =
      some (.resolved sentResult) := by
    have htruthy : sentReceipt.truthy = true := rfl
    simp only [Write.next, Write.receiptReply, Except.bind, hreceipt, truthy, htruthy]
    rfl
  have hopened : sentWrite.next lowerEthers parseLog .ensuring (.session (.ok ())) = some .posting := rfl
  have hagain : sentWrite.next lowerEthers parseLog (.pausing 0) .timer = some (.polling 1) := rfl
  simp only [sentAnswers, run, sendingStep, Sending.start, hopened, hwritten, hpending, hagain, hresolved,
    Option.map_some, Option.bind_some, Option.some.injEq]
  exact ⟨_, rfl, rfl⟩

/-- The sample resolves with the receipt of a poll. -/
theorem sending_run_sample : ∃ s i outcome,
    run (sendingStep lowerEthers (fun _ _ => .ok none) sentWrite) .start sentAnswers = some s ∧
    s.phase = .resolved sentResult ∧ (.polling i, .response outcome) ∈ s.trace ∧
    sentWrite.Reports lowerEthers (fun _ _ => .ok none) outcome sentResult := by
  obtain ⟨s, hrun, hphase⟩ := sent_run fun _ _ => .ok none
  obtain ⟨-, -, -, -, -, hresolved⟩ := sending_run hrun
  obtain ⟨i, outcome, hmem, hreports⟩ := hresolved sentResult hphase
  exact ⟨s, i, outcome, hrun, hphase, hmem, hreports⟩

end AccountAbstraction.Client
