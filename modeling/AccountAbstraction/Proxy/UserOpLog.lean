import AccountAbstraction.Proxy.Refinement

/-!
# The write log

`createUserOpLog` (`examples/privy-google-aa/server/userop-log.mjs`) as far as
`handleBundler` uses it: one entry becomes one row, unless the conversion of a value to
text throws. The database is open and takes what it is given.

* `handleBundler_audited_iff`: the requests that leave exactly the row they should.
-/

namespace AccountAbstraction.Proxy

open Js

/-! ## Rows -/

/-- `MAX_FIELD` (line 57). -/
def maxField : ℕ := 200

/-- `text.length`, in units of UTF-16. -/
def utf16Length (text : String) : ℕ :=
  (text.toList.map fun c => if c.toNat < 0x10000 then 1 else 2).sum

/-- The first `n` units of UTF-16. Half a pair is stored as the replacement character. -/
def utf16Take (n : ℕ) : List Char → List Char
  | [] => []
  | c :: cs =>
    if n = 0 then []
    else if c.toNat < 0x10000 then c :: utf16Take (n - 1) cs
    else if n = 1 then ['\uFFFD']
    else c :: utf16Take (n - 2) cs

/-- The text that a field keeps of a longer one (line 62). -/
def clipText (text : String) : String :=
  if utf16Length text > maxField then String.ofList (utf16Take maxField text.toList) ++ "…" else text

/-- `clip(value)` (lines 59-63). -/
def clip (value : Option Json) : Except JsError (Option String) :=
  match value with
  | none => .ok none
  | some .null => .ok none
  | some v =>
    match v.text? with
    | some text => .ok (some (clipText text))
    | none => .error { name := "TypeError", message := "Cannot convert object to primitive value" }

/-- A row of `userop_log` as `record` writes it. -/
structure LogRow where
  createdAt : ℤ
  userSub : Option String
  status : WriteStatus
  method : Option String
  userOpHash : Option String
  sender : Option String
  target : Option String
  owner : Option String
  innerCall : Option String
  storedValue : Option String
  httpStatus : ℕ
  error : Option String
deriving DecidableEq

/-- `record(entry)` (lines 90-106), by the row that it inserts. -/
def record (now : ℤ) (entry : LogEntry) : Except JsError LogRow := do
  let userSub ← clip (some (.str entry.userSub))
  let method ← clip entry.method
  let userOpHash ← clip (entry.userOpHash.map .str)
  let sender ← clip entry.sender
  let target ← clip (entry.target.map .str)
  let owner ← clip (entry.owner.map .str)
  let innerCall ← clip (entry.innerCall.map .str)
  let storedValue ← clip (entry.storedValue.map .str)
  let error ← clip entry.error
  return { createdAt := now, userSub, status := entry.status, method, userOpHash, sender, target,
           owner, innerCall, storedValue, httpStatus := entry.httpStatus, error }

/-- The proxy with its log open. -/
def ProxyEnv.withLog (env : ProxyEnv) (now : ℤ) : ProxyEnv :=
  { env with record := fun entry => (Proxy.record now entry).map fun _ => () }

/-- The rows that a request appends: each call of `record` inserts one or throws. -/
def ProxyRun.rows (now : ℤ) (run : ProxyRun) : List LogRow :=
  run.records.filterMap fun entry => (record now entry).toOption

/-! ## What the log should have -/

/-- A value that `clip` can write. -/
def Writable (value : Option Json) : Prop := ∀ v, value = some v → v.text?.isSome

section Audit

variable (E : Ethers) (env : ProxyEnv) (policy : UserOpPolicy) (session : Session) (body : Body)
  (request : Json)

/-- The policy refused the request. -/
def Refused : Prop := ∃ message, policy.check E request = .error (.policyError message)

/-- The bundler gave a 2xx answer without a JSON-RPC error. -/
def Sent : Prop :=
  ∃ checked upstream text, policy.check E request = .ok checked ∧
    env.fetch (forwardOf env session body) = .ok upstream ∧ upstream.text = .ok text ∧
    200 ≤ upstream.status ∧ upstream.status ≤ 299 ∧ truthy (optProp text.parsed "error") = false

/-- Exactly one row, with the subject of the session as the log keeps texts and the status that
    says what became of the write. -/
def Audited (rows : List LogRow) : Prop :=
  ∃ row, rows = [row] ∧ row.userSub = some (clipText session.sub) ∧
    (row.status = .rejected ↔ Refused E policy request) ∧
    (row.status = .sent ↔ Sent E env policy session body request) ∧
    (row.status = .failed ↔ ¬Refused E policy request ∧ ¬Sent E env policy session body request)

/-- The request leaves its row: a refused one claims a sender that has a text; the answer to a
    forwarded one can be read, and the message of its JSON-RPC error, where it is truthy, has a
    text. -/
def Loggable : Prop :=
  (Refused E policy request → Writable (claimedSender request)) ∧
  ∀ checked upstream, policy.check E request = .ok checked →
    env.fetch (forwardOf env session body) = .ok upstream →
    ∃ text, upstream.text = .ok text ∧ ∀ error message, optProp text.parsed "error" = some error →
      error.truthy = true → error.field "message" = some message → message.truthy = true →
      message.text?.isSome

end Audit

/-! ## Entries that become rows -/

theorem clip_eq_ok {value : Option Json} : (∃ text, clip value = .ok text) ↔ Writable value := by
  unfold Writable
  cases value with
  | none => simp [clip]
  | some v =>
    simp only [Option.some.injEq, forall_eq']
    cases v with
    | null => simp [clip, Json.text?]
    | _ =>
      unfold clip
      simp only
      split <;> simp_all

theorem clip_str (text : String) : clip (some (.str text)) = .ok (some (clipText text)) := rfl

theorem writable_map_str (text : Option String) : Writable (text.map .str) := by
  intro v hv
  obtain ⟨s, -, rfl⟩ := Option.map_eq_some_iff.mp hv
  rfl

/-- An entry becomes a row when the values of its untyped fields have a text. -/
theorem record_eq_ok (now : ℤ) {entry : LogEntry} :
    (∃ row, record now entry = .ok row) ↔
      Writable entry.method ∧ Writable entry.sender ∧ Writable entry.error := by
  constructor
  · rintro ⟨row, h⟩
    simp only [record, bind_eq_ok] at h
    obtain ⟨_, -, method, hmethod, _, -, sender, hsender, _, -, _, -, _, -, _, -, error, herror, -⟩ := h
    exact ⟨clip_eq_ok.mp ⟨_, hmethod⟩, clip_eq_ok.mp ⟨_, hsender⟩, clip_eq_ok.mp ⟨_, herror⟩⟩
  · rintro ⟨hmethod, hsender, herror⟩
    obtain ⟨method, hmethod⟩ := clip_eq_ok.mpr hmethod
    obtain ⟨sender, hsender⟩ := clip_eq_ok.mpr hsender
    obtain ⟨error, herror⟩ := clip_eq_ok.mpr herror
    obtain ⟨userOpHash, huserOpHash⟩ := clip_eq_ok.mpr (writable_map_str entry.userOpHash)
    obtain ⟨target, htarget⟩ := clip_eq_ok.mpr (writable_map_str entry.target)
    obtain ⟨owner, howner⟩ := clip_eq_ok.mpr (writable_map_str entry.owner)
    obtain ⟨innerCall, hinnerCall⟩ := clip_eq_ok.mpr (writable_map_str entry.innerCall)
    obtain ⟨storedValue, hstoredValue⟩ := clip_eq_ok.mpr (writable_map_str entry.storedValue)
    simp only [record, bind_eq_ok, hmethod, hsender, herror, huserOpHash, htarget, howner, hinnerCall,
      hstoredValue, clip_str]
    exact ⟨_, _, rfl, _, rfl, _, rfl, _, rfl, _, rfl, _, rfl, _, rfl, _, rfl, _, rfl, rfl⟩

theorem record_ok {now : ℤ} {entry : LogEntry} {row : LogRow} (h : record now entry = .ok row) :
    row.userSub = some (clipText entry.userSub) ∧ row.status = entry.status := by
  simp only [record, bind_eq_ok] at h
  obtain ⟨userSub, hsub, _, -, _, -, _, -, _, -, _, -, _, -, _, -, _, -, heq⟩ := h
  rw [clip_str] at hsub
  cases hsub
  cases heq
  exact ⟨rfl, rfl⟩

/-- What an entry that is given to the log leaves there. -/
theorem rows_of_entry (now : ℤ) {run : ProxyRun} {entry : LogEntry} (hrun : run.records = [entry]) :
    (∃ row, run.rows now = [row]) ↔
      Writable entry.method ∧ Writable entry.sender ∧ Writable entry.error := by
  rw [← record_eq_ok now, ProxyRun.rows, hrun]
  cases hrecord : record now entry with
  | error err => simp [hrecord, Except.toOption]
  | ok row => simp [hrecord, Except.toOption]

theorem row_of_entry {now : ℤ} {run : ProxyRun} {entry : LogEntry} {row : LogRow}
    (hrun : run.records = [entry]) (hrow : run.rows now = [row]) :
    row.userSub = some (clipText entry.userSub) ∧ row.status = entry.status := by
  rw [ProxyRun.rows, hrun] at hrow
  cases hrecord : record now entry with
  | error err => simp [hrecord, Except.toOption] at hrow
  | ok row' =>
    simp [hrecord, Except.toOption] at hrow
    exact hrow ▸ record_ok hrecord

/-! ## The policy's refusals -/

theorem text?_of_falsy {v : Json} (h : v.truthy = false) : v.text?.isSome := by
  cases v with
  | arr items => cases h
  | obj fields => cases h
  | _ => rfl

/-- The method is quoted only where it has a text. -/
theorem methodText_of_text?_eq_none {v : Json} (h : v.text? = none) :
    ∃ err, UserOpPolicy.methodText (some v) = .error (.other err) := by
  have htruthy : v.truthy = true := by
    by_contra hfalse
    have hsome := text?_of_falsy (Bool.not_eq_true _ ▸ hfalse)
    rw [h] at hsome
    cases hsome
  simp [UserOpPolicy.methodText, jsOr, truthy, htruthy, h]

/-- The method of a request that the policy refused has a text: the message of the refusal
    quotes it where it is not the allowed one. -/
theorem writable_method {E : Ethers} {policy : UserOpPolicy} {request : Json} {message : String}
    (h : policy.check E request = .error (.policyError message)) : Writable (request.field "method") := by
  intro v hv
  cases request with
  | obj fields =>
    have hlookup : fields.lookup "method" = some v := hv
    simp only [UserOpPolicy.check, hlookup] at h
    cases hmethod : UserOpPolicy.allowedMethod? (some v) with
    | some method =>
      have hfound := List.find?_some hmethod
      have hv := Option.some.inj (isText_iff.mp hfound)
      rw [hv]
      rfl
    | none =>
      by_contra hnone
      obtain ⟨err, herr⟩ := methodText_of_text?_eq_none (Option.not_isSome_iff_eq_none.mp hnone)
      rw [hmethod, herr] at h
      cases h
  | _ => cases hv

/-! ## Requests that leave a row -/

variable {E : Ethers} {env : ProxyEnv} {policy : UserOpPolicy} {session : Session} {body : Body}
  {request : Json} {now : ℤ}

/-- One entry with the right status is audited when it becomes a row. -/
theorem audited_of_entry {run : ProxyRun} {entry : LogEntry} (hrun : run.records = [entry])
    (hsub : entry.userSub = session.sub)
    (hrejected : entry.status = .rejected ↔ Refused E policy request)
    (hsent : entry.status = .sent ↔ Sent E env policy session body request)
    (hfailed : entry.status = .failed ↔
      ¬Refused E policy request ∧ ¬Sent E env policy session body request) :
    Audited E env policy session body request (run.rows now) ↔
      Writable entry.method ∧ Writable entry.sender ∧ Writable entry.error := by
  rw [← rows_of_entry now hrun]
  constructor
  · rintro ⟨row, hrow, -⟩
    exact ⟨row, hrow⟩
  · rintro ⟨row, hrow⟩
    obtain ⟨hrowSub, hstatus⟩ := row_of_entry hrun hrow
    rw [hsub] at hrowSub
    exact ⟨row, hrow, hrowSub, by rw [hstatus]; exact hrejected, by rw [hstatus]; exact hsent,
      by rw [hstatus]; exact hfailed⟩

/-- The error of an answer can be written where its message can. -/
theorem writable_answerError {answer : Option Json} :
    Writable ((answerError answer).map answerMessage) ↔
      ∀ error message, optProp answer "error" = some error → error.truthy = true →
        error.field "message" = some message → message.truthy = true → message.text?.isSome := by
  unfold Writable answerError
  constructor
  · intro h error message herror htruthy hmessage htruthy'
    have hvalue := h (answerMessage error) (by simp [herror, htruthy])
    simpa [answerMessage, jsOr, truthy, hmessage, htruthy'] using hvalue
  · intro h v hv
    obtain ⟨error, herror, rfl⟩ := Option.map_eq_some_iff.mp hv
    obtain ⟨herror, htruthy⟩ := Option.filter_eq_some_iff.mp herror
    cases hmessage : error.field "message" with
    | none => simp [answerMessage, jsOr, hmessage, Json.text?]
    | some message =>
      by_cases htruthy' : message.truthy = true
      · simpa [answerMessage, jsOr, truthy, hmessage, htruthy'] using
          h error message herror htruthy hmessage htruthy'
      · simp [answerMessage, jsOr, truthy, hmessage, htruthy', Json.text?]

theorem isSome_answerError {answer : Option Json} :
    (answerError answer).isSome = truthy (optProp answer "error") := by
  unfold answerError
  cases optProp answer "error" with
  | none => rfl
  | some error => cases herror : error.truthy <;> simp [truthy, herror]

theorem writable_str {text : String} : Writable (some (.str text)) := writable_map_str (some text)

/-- A write that was refused. -/
theorem audited_of_refused {message : String}
    (hcheck : policy.check E request = .error (.policyError message)) (reply : ProxyReply) :
    Audited E env policy session body request
        ((recordThen env none (rejectedEntry session request message) reply).rows now) ↔
      Loggable E env policy session body request := by
  have hrefused : Refused E policy request := ⟨message, hcheck⟩
  have hnotSent : ¬Sent E env policy session body request := by
    rintro ⟨checked, _, _, hok, -⟩
    rw [hcheck] at hok
    cases hok
  rw [audited_of_entry rfl rfl (by simp [rejectedEntry, hrefused]) (by simp [rejectedEntry, hnotSent])
    (by simp [rejectedEntry, hrefused])]
  constructor
  · rintro ⟨-, hsender, -⟩
    refine ⟨fun _ => hsender, fun checked _ hok => ?_⟩
    rw [hcheck] at hok
    cases hok
  · rintro ⟨hsender, -⟩
    exact ⟨writable_method hcheck, hsender hrefused, writable_str⟩

theorem not_refused {checked : Checked} (hcheck : policy.check E request = .ok checked) :
    ¬Refused E policy request := by
  rintro ⟨message, herror⟩
  rw [hcheck] at herror
  cases herror

/-- A write that did not reach the bundler. -/
theorem audited_of_unreachable {req : ProxyRequest} {checked : Checked} {err : JsError}
    (hcheck : policy.check E request = .ok checked)
    (hfetch : env.fetch (forwardOf env session body) = .error err) :
    Audited E env policy session body request ((forward env req session body checked).rows now) ↔
      Loggable E env policy session body request := by
  have hnotRefused := not_refused hcheck
  have hnotSent : ¬Sent E env policy session body request := by
    rintro ⟨_, _, _, -, hok, -⟩
    rw [hfetch] at hok
    cases hok
  simp only [forward, hfetch]
  rw [audited_of_entry rfl rfl (by simp [checkedEntry, hnotRefused])
    (by simp [checkedEntry, hnotSent]) (by simp [checkedEntry, hnotRefused, hnotSent])]
  constructor
  · intro _
    refine ⟨fun h => absurd h hnotRefused, fun _ upstream _ hok => ?_⟩
    rw [hfetch] at hok
    cases hok
  · intro _
    exact ⟨writable_str, writable_str, writable_str⟩

theorem sent_iff {checked : Checked} {upstream : Upstream} {text : Body}
    (hcheck : policy.check E request = .ok checked)
    (hfetch : env.fetch (forwardOf env session body) = .ok upstream) (htext : upstream.text = .ok text) :
    Sent E env policy session body request ↔
      (answerError text.parsed).isSome = false ∧ upstream.ok = true := by
  rw [isSome_answerError]
  constructor
  · rintro ⟨_, upstream', text', -, hfetch', htext', hlow, hhigh, herror⟩
    cases hfetch.symm.trans hfetch'
    cases htext.symm.trans htext'
    exact ⟨herror, by simp [Upstream.ok, hlow, hhigh]⟩
  · rintro ⟨herror, hok⟩
    simp only [Upstream.ok, Bool.and_eq_true, decide_eq_true_eq] at hok
    exact ⟨checked, upstream, text, hcheck, hfetch, htext, hok.1, hok.2, herror⟩

/-- A write that was answered. -/
theorem audited_of_answered {req : ProxyRequest} {checked : Checked} {upstream : Upstream} {text : Body}
    (hcheck : policy.check E request = .ok checked)
    (hfetch : env.fetch (forwardOf env session body) = .ok upstream) (htext : upstream.text = .ok text) :
    Audited E env policy session body request ((forward env req session body checked).rows now) ↔
      Loggable E env policy session body request := by
  have hnotRefused := not_refused hcheck
  have hsent := sent_iff hcheck hfetch htext
  have hstatus : (answeredEntry session checked upstream text).status =
      if (answerError text.parsed).isSome || !upstream.ok then .failed else .sent := rfl
  simp only [forward, hfetch, htext]
  rw [audited_of_entry rfl rfl]
  · show Writable _ ∧ Writable _ ∧ Writable ((answerError text.parsed).map answerMessage) ↔ _
    rw [writable_answerError]
    constructor
    · rintro ⟨-, -, herror⟩
      refine ⟨fun h => absurd h hnotRefused, fun _ upstream' _ hfetch' => ?_⟩
      cases hfetch.symm.trans hfetch'
      exact ⟨text, htext, herror⟩
    · rintro ⟨-, hread⟩
      obtain ⟨text', htext', herror⟩ := hread checked upstream hcheck hfetch
      cases htext.symm.trans htext'
      exact ⟨writable_str, writable_str, herror⟩
  · rw [hstatus]
    split <;> simp [hnotRefused]
  · rw [hstatus, hsent]
    cases (answerError text.parsed).isSome <;> cases upstream.ok <;> simp
  · rw [hstatus, hsent]
    cases (answerError text.parsed).isSome <;> cases upstream.ok <;> simp [hnotRefused]

/-- A write that was forwarded. -/
theorem audited_of_checked {req : ProxyRequest} {checked : Checked}
    (hcheck : policy.check E request = .ok checked) :
    Audited E env policy session body request ((forward env req session body checked).rows now) ↔
      Loggable E env policy session body request := by
  cases hfetch : env.fetch (forwardOf env session body) with
  | error err => exact audited_of_unreachable hcheck hfetch
  | ok upstream =>
    cases htext : upstream.text with
    | ok text => exact audited_of_answered hcheck hfetch htext
    | error err =>
      -- nothing is recorded
      simp only [forward, hfetch, htext]
      constructor
      · rintro ⟨row, hrow, -⟩
        cases hrow
      · rintro ⟨-, hread⟩
        obtain ⟨text, hok, -⟩ := hread checked upstream hcheck hfetch
        rw [htext] at hok
        cases hok

theorem policyCheck_of_created (hpolicy : createUserOpPolicy E env.policy = .ok policy) :
    policyCheck E (env.withLog now) request = policy.check E request := by
  unfold policyCheck
  show createUserOpPolicy E env.policy >>= _ = _
  rw [hpolicy]
  rfl

/-- The request passes every test up to the policy, which refuses it. -/
theorem handleBundler_of_refused {req : ProxyRequest} {message : String} (hmethod : req.method = "POST")
    (hsession : req.session = some session) (hbody : req.body = .ok body)
    (hparsed : body.parsed = some request)
    (hcheck : policyCheck E env request = .error (.policyError message)) :
    handleBundler E env req = recordThen env none (rejectedEntry session request message)
      (errorReply env req policyStatus s!"rejected by policy: {message}") := by
  simp only [handleBundler, hmethod, ne_eq, not_true_eq_false, if_false, hsession, hbody, hparsed, hcheck]

/-- The request passes every test up to the policy, which throws an error of another kind. -/
theorem handleBundler_of_thrown {req : ProxyRequest} {err : JsError} (hmethod : req.method = "POST")
    (hsession : req.session = some session) (hbody : req.body = .ok body) (hparsed : body.parsed = some request)
    (hcheck : policyCheck E env request = .error (.other err)) :
    handleBundler E env req = { outcome := .error err } := by
  simp only [handleBundler, hmethod, ne_eq, not_true_eq_false, if_false, hsession, hbody, hparsed, hcheck]

/-! ## Samples -/

/-- The sample write with an object as its sender, which has a `toString` of its own. -/
def forgedRequest : Json := .obj
  [("jsonrpc", .str "2.0"), ("method", .str "eth_sendUserOperation"),
   ("params", .arr [.obj [("sender", .obj [("toString", .null)])], .str sampleAddress.val])]

def forgedWrite : ProxyRequest :=
  { sampleWrite with body := .ok { text := forgedRequest.stringify, parsed := some forgedRequest } }

theorem forgedRequest_refused :
    samplePolicy.check sampleEthers forgedRequest = .error (.policyError "sender must be an address") := by
  have hentryPoint : normalize sampleEthers (some (.str sampleAddress.val)) "entryPoint" =
      .ok sampleAddress := normalize_eq_ok.mpr (by decide +kernel)
  show (normalize sampleEthers (some (.str sampleAddress.val)) "entryPoint" >>= _) = _
  have hsame : ¬sampleAddress ≠ samplePolicy.expectedEntryPoint := by simp [samplePolicy]
  rw [hentryPoint]
  simp only [bind, Except.bind, if_neg hsame]
  rfl

/-- The bundler's answer has status 200 and cannot be read. -/
def unreadable : ProxyEnv :=
  { sampleProxy with fetch := fun _ => .ok {
      status := 200, contentType := none, text := .error { message := "terminated" } } }

/-- A refused write, and one that the bundler took, without a row. -/
theorem write_unlogged :
    (samplePolicy.check sampleEthers forgedRequest = .error (.policyError "sender must be an address") ∧
      (handleBundler sampleEthers (sampleProxy.withLog 0) forgedWrite).rows 0 = []) ∧
    (samplePolicy.check sampleEthers sampleRequest = .ok sampleChecked ∧
      (handleBundler sampleEthers (unreadable.withLog 0) sampleWrite).rows 0 = []) := by
  refine ⟨⟨forgedRequest_refused, ?_⟩, sampleRequest_accepted, ?_⟩
  · rw [handleBundler_of_refused rfl rfl rfl rfl
      ((policyCheck_of_created samplePolicy_created).trans forgedRequest_refused)]
    rfl
  · have hcheck : policyCheck sampleEthers (unreadable.withLog 0) sampleRequest =
        samplePolicy.check sampleEthers sampleRequest := policyCheck_of_created samplePolicy_created
    rw [handleBundler_of_checked rfl rfl rfl rfl (hcheck.trans sampleRequest_accepted)]
    rfl

/-! ## The result -/

/-- A request with a valid session and a JSON body, on which the policy's `check` returns or
    throws a `PolicyError`, leaves exactly the row that it should if and only if what goes into
    the row has a text and the answer of the bundler, where there is one, can be read. -/
theorem handleBundler_audited_iff {req : ProxyRequest} (hmethod : req.method = "POST")
    (hsession : req.session = some session) (hbody : req.body = .ok body)
    (hparsed : body.parsed = some request) (hpolicy : createUserOpPolicy E env.policy = .ok policy)
    (hcheck : ∀ err, policy.check E request ≠ .error (.other err)) :
    Audited E env policy session body request ((handleBundler E (env.withLog now) req).rows now) ↔
      Loggable E env policy session body request := by
  -- opening the log leaves the rest of the environment alone
  show Audited E (env.withLog now) policy session body request _ ↔
    Loggable E (env.withLog now) policy session body request
  cases hresult : policy.check E request with
  | ok checked =>
    rw [handleBundler_of_checked hmethod hsession hbody hparsed ((policyCheck_of_created hpolicy).trans hresult)]
    exact audited_of_checked hresult
  | error failure =>
    cases failure with
    | other err => exact absurd hresult (hcheck err)
    | policyError message =>
      rw [handleBundler_of_refused hmethod hsession hbody hparsed
        ((policyCheck_of_created hpolicy).trans hresult)]
      exact audited_of_refused hresult _

/-- The sample write leaves its row when the bundler cannot be reached. -/
theorem handleBundler_audited_sample : Audited sampleEthers sampleProxy samplePolicy sampleSession
    sampleBody sampleRequest ((handleBundler sampleEthers (sampleProxy.withLog 0) sampleWrite).rows 0) := by
  have haccepted : ∀ err, samplePolicy.check sampleEthers sampleRequest ≠ .error (.other err) := by
    intro err herr
    cases sampleRequest_accepted.symm.trans herr
  refine (handleBundler_audited_iff rfl rfl rfl rfl samplePolicy_created haccepted).mpr ⟨?_, ?_⟩
  · rintro ⟨message, hrefused⟩
    cases sampleRequest_accepted.symm.trans hrefused
  · intro checked upstream _ hfetch
    cases hfetch

end AccountAbstraction.Proxy
