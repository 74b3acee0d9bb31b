import AccountAbstraction.Proxy.Policy

/-!
# The route `/api/bundler`

`handleBundler` (`examples/privy-google-aa/server/api.mjs:433-534`). One request gives
one `ProxyRun`: what was sent to the bundler, the entries given to the write log in
order, and the reply or the error that leaves the handler. `session.parse`, `readBody`,
`fetch` and the log's `record` are inputs, each by its outcome.

* `handleBundler_forwarded`: what holds of a request whose body was forwarded.
-/

namespace AccountAbstraction.Proxy

open Js

/-! ## Requests and replies -/

/-- What `session.parse` returns for a valid cookie. -/
structure Session where
  accessToken : String
  sub : String

/-- A body with the outcome of `JSON.parse` on its text, `none` where it throws. -/
structure Body where
  text : String
  parsed : Option Json

/-- What `readBody` rejects with. -/
structure BodyError where
  status : Option ℕ := none
  message : String

/-- A request as `handleBundler` reads it. -/
structure ProxyRequest where
  method : String
  origin : Option String
  session : Option Session
  body : Except BodyError Body

/-- The `POST` that `fetch` sends. -/
structure Forward where
  url : String
  headers : List (String × String)
  body : Body

/-- The response of the bundler; reading its text may fail. -/
structure Upstream where
  status : ℕ
  contentType : Option String
  text : Except JsError Body

/-- `upstream.ok`. -/
def Upstream.ok (upstream : Upstream) : Bool := 200 ≤ upstream.status && upstream.status ≤ 299

inductive ReplyBody
  | json (payload : Json)
  | text (text : String)

structure ProxyReply where
  status : ℕ
  headers : List (String × String)
  body : ReplyBody

/-! ## The write log -/

/-- The `status` of a log entry. -/
inductive WriteStatus
  | rejected
  | failed
  | sent
deriving DecidableEq, Repr

/-- The argument of `record`. -/
structure LogEntry where
  userSub : String
  status : WriteStatus
  method : Option Json
  userOpHash : Option String := none
  sender : Option Json
  target : Option String := none
  owner : Option String := none
  innerCall : Option String := none
  storedValue : Option String := none
  httpStatus : ℕ
  error : Option Json := none

/-! ## The handler -/

/-- The configuration of the process and the services that it calls. -/
structure ProxyEnv where
  policy : PolicyConfig
  bundlerUrl : String
  allowedOrigins : List String
  fetch : Forward → Except JsError Upstream
  record : LogEntry → Except JsError Unit

/-- What one request does. An `error` is handed to the caller of the handler. -/
structure ProxyRun where
  forwarded : Option Forward := none
  records : List LogEntry := []
  outcome : Except JsError ProxyReply

/-- `corsHeaders(req)` (lines 312-322). -/
def corsHeaders (env : ProxyEnv) (origin : Option String) : List (String × String) :=
  match origin with
  | some origin =>
    if origin ≠ "" && env.allowedOrigins.contains origin then
      [("access-control-allow-origin", origin),
       ("access-control-allow-methods", "GET,POST,DELETE,OPTIONS"),
       ("access-control-allow-headers", "content-type,authorization"),
       ("access-control-allow-credentials", "true"), ("vary", "Origin")]
    else []
  | none => []

/-- `json(res, status, { error }, req)` (lines 324-334). -/
def errorReply (env : ProxyEnv) (req : ProxyRequest) (status : ℕ) (error : String) : ProxyReply where
  status := status
  headers := [("content-type", "application/json"), ("cache-control", "no-store")] ++
    corsHeaders env req.origin
  body := .json (.obj [("error", .str error)])

/-- `writePolicy().check(request)`. The policy is built from the configuration inside the
    `try` block, once. -/
def policyCheck (E : Ethers) (env : ProxyEnv) (request : Json) : Except PolicyFailure Checked := do
  let policy ← createUserOpPolicy E env.policy
  policy.check E request

/-- `request?.params?.[0]?.sender`. -/
def claimedSender (request : Json) : Option Json :=
  match request.field "params" with
  | some (.arr items) => optProp items[0]? "sender"
  | some (.obj fields) => optProp (fields.lookup "0") "sender"
  | _ => none

/-- The entry of a write that the policy refused (lines 471-478). -/
def rejectedEntry (session : Session) (request : Json) (message : String) : LogEntry where
  userSub := session.sub
  status := .rejected
  method := request.field "method"
  sender := claimedSender request
  httpStatus := policyStatus
  error := some (.str message)

/-- The entry of a write that was checked, up to what became of it. -/
def checkedEntry (session : Session) (checked : Checked) (status : WriteStatus) (httpStatus : ℕ)
    (userOpHash : Option String) (error : Option Json) : LogEntry where
  userSub := session.sub
  status := status
  method := some (.str checked.method)
  userOpHash := userOpHash
  sender := some (.str checked.sender.val)
  target := some checked.target.val
  owner := checked.owner.map Subtype.val
  innerCall := some (checked.inner.signature.getD checked.inner.selector)
  storedValue := checked.inner.value
  httpStatus := httpStatus
  error := error

/-- `answer?.error` where it is truthy. -/
def answerError (answer : Option Json) : Option Json := (optProp answer "error").filter Json.truthy

/-- `typeof answer?.result === "string" ? answer.result : null`. -/
def answerHash (answer : Option Json) : Option String :=
  match optProp answer "result" with
  | some (.str userOpHash) => some userOpHash
  | _ => none

/-- `answer.error.message || JSON.stringify(answer.error)`. -/
def answerMessage (error : Json) : Json :=
  (jsOr (error.field "message") none).getD (.str error.stringify)

/-- The entry of a write that the bundler answered (lines 511-524). -/
def answeredEntry (session : Session) (checked : Checked) (upstream : Upstream) (text : Body) :
    LogEntry :=
  checkedEntry session checked
    (if (answerError text.parsed).isSome || !upstream.ok then .failed else .sent) upstream.status
    (answerHash text.parsed) ((answerError text.parsed).map answerMessage)

/-- The reply that passes on the answer of the bundler (lines 528-533). -/
def relay (env : ProxyEnv) (req : ProxyRequest) (upstream : Upstream) (text : Body) : ProxyReply where
  status := upstream.status
  headers :=
    [("content-type", (upstream.contentType.filter (· ≠ "")).getD "application/json"),
     ("cache-control", "no-store")] ++ corsHeaders env req.origin
  body := .text text.text

/-- Call `record`, then reply. -/
def recordThen (env : ProxyEnv) (forwarded : Option Forward) (entry : LogEntry) (reply : ProxyReply) :
    ProxyRun where
  forwarded := forwarded
  records := [entry]
  outcome := (env.record entry).map fun _ => reply

/-- The request that goes to the bundler (lines 487-491). -/
def forwardOf (env : ProxyEnv) (session : Session) (body : Body) : Forward where
  url := env.bundlerUrl
  headers := [("content-type", "application/json"),
              ("authorization", s!"Bearer {session.accessToken}")]
  body := body

/-- The part of `handleBundler` behind the policy (lines 485-533). -/
def forward (env : ProxyEnv) (req : ProxyRequest) (session : Session) (body : Body)
    (checked : Checked) : ProxyRun :=
  let request := forwardOf env session body
  match env.fetch request with
  | .error err =>
    recordThen env (some request)
      (checkedEntry session checked .failed 502 none (some (.str s!"bundler unreachable: {err.message}")))
      (errorReply env req 502 s!"bundler unreachable at {env.bundlerUrl}: {err.message}")
  | .ok upstream =>
    match upstream.text with
    | .error err => { forwarded := some request, outcome := .error err }
    | .ok text =>
      recordThen env (some request) (answeredEntry session checked upstream text)
        (relay env req upstream text)

/-- `handleBundler(req, res)`. -/
def handleBundler (E : Ethers) (env : ProxyEnv) (req : ProxyRequest) : ProxyRun :=
  if req.method ≠ "POST" then { outcome := .ok (errorReply env req 405 "use POST") }
  else match req.session with
    | none => { outcome := .ok (errorReply env req 401 "no session — POST /api/session first") }
    | some session =>
      match req.body with
      | .error err =>
        { outcome := .ok (errorReply env req ((err.status.filter (· ≠ 0)).getD 400) err.message) }
      | .ok body =>
        match body.parsed with
        | none => { outcome := .ok (errorReply env req 400 "request body must be JSON") }
        | some request =>
          match policyCheck E env request with
          | .error (.policyError message) =>
            recordThen env none (rejectedEntry session request message)
              (errorReply env req policyStatus s!"rejected by policy: {message}")
          | .error (.other err) => { outcome := .error err }
          | .ok checked => forward env req session body checked

/-- `apiHandler` (lines 671-679): an error that leaves a handler is answered with 500. -/
def apiHandler (env : ProxyEnv) (req : ProxyRequest) : Except JsError ProxyReply → ProxyReply
  | .ok reply => reply
  | .error _ => errorReply env req 500 "internal error"

/-! ## What is forwarded -/

/-- The request passes every test up to the policy. -/
theorem handleBundler_of_checked {E : Ethers} {env : ProxyEnv} {req : ProxyRequest} {session : Session}
    {body : Body} {request : Json} {checked : Checked} (hmethod : req.method = "POST")
    (hsession : req.session = some session) (hbody : req.body = .ok body)
    (hparsed : body.parsed = some request) (hcheck : policyCheck E env request = .ok checked) :
    handleBundler E env req = forward env req session body checked := by
  simp only [handleBundler, hmethod, ne_eq, not_true_eq_false, if_false, hsession, hbody, hparsed, hcheck]

theorem forward_forwarded (env : ProxyEnv) (req : ProxyRequest) (session : Session) (body : Body)
    (checked : Checked) :
    (forward env req session body checked).forwarded = some (forwardOf env session body) := by
  simp only [forward]
  split
  · rfl
  · split <;> rfl

/-- A body is forwarded as it came, with the token of a valid session, and only when the
    policy returned for the value it parses to. -/
theorem handleBundler_forwarded {E : Ethers} {env : ProxyEnv} {req : ProxyRequest} {fwd : Forward}
    (h : (handleBundler E env req).forwarded = some fwd) :
    ∃ session request policy checked, req.session = some session ∧ req.body = .ok fwd.body ∧
      fwd = forwardOf env session fwd.body ∧ fwd.body.parsed = some request ∧
      createUserOpPolicy E env.policy = .ok policy ∧ policy.check E request = .ok checked := by
  unfold handleBundler at h
  split at h
  · cases h
  split at h
  · cases h
  rename_i session hsession
  split at h
  · cases h
  rename_i body hbody
  split at h
  · cases h
  rename_i request hparsed
  split at h
  · cases h
  · cases h
  · rename_i checked hcheck
    rw [forward_forwarded] at h
    cases h
    unfold policyCheck at hcheck
    cases hpolicy : createUserOpPolicy E env.policy with
    | error err =>
      rw [hpolicy] at hcheck
      cases hcheck
    | ok policy =>
      rw [hpolicy] at hcheck
      exact ⟨session, request, policy, checked, hsession, hbody, rfl, hparsed, rfl, hcheck⟩

end AccountAbstraction.Proxy
