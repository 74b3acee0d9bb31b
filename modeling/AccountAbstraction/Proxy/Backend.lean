import AccountAbstraction.Proxy.Guards
import AccountAbstraction.Proxy.History
import AccountAbstraction.Proxy.Receipt
import AccountAbstraction.Proxy.Token
import AccountAbstraction.Run

/-!
# The backend

`handleApi` of `server/api.mjs` for any number of requests at the same time. A call is
suspended at its awaits (`verify`, the request to Keycloak, `readBody`, the request to the
bundler and its `text()`, the receipts of `settlePending`), and an event resumes one call. The
calls share the cached token and the write log.

Replies of `/api/health` are a parameter. A cookie whose MAC is right and whose payload is no
session is outside the model.

* `openCall`: what a request comes to before its first await.
* `step`: what one event does.
-/

namespace AccountAbstraction.Proxy.Backend

open Js WriteLog

variable {κ : Type}

/-! ## Calls -/

/-- What `handleApi` reads of a request. -/
structure Request where
  method : String
  url : String
  headers : GuardHeaders := {}
  cookie : Option String := none
  authorization : Option String := none

/-- What a request is answered with. -/
inductive Reply
  /-- `next()`. -/
  | next
  | preflight (headers : List (String × String))
  | proxy (reply : ProxyReply)
  | page (reply : HistoryReply)

inductive Phase
  /-- At `privyVerifier().verify(...)` (line 408). -/
  | verifying
  /-- At the request to Keycloak (lines 214-219), sent at `startedAt`. -/
  | fetching (identity : Auth.Identity) (startedAt : ℤ)
  /-- At `readBody(req)` (line 448). -/
  | readingBody (session : Session)
  /-- At `fetch(BUNDLER_URL, ...)` (line 487). -/
  | forwarding (session : Session) (checked : Checked)
  /-- At `upstream.text()` (line 509). -/
  | readingText (session : Session) (checked : Checked) (status : ℕ) (contentType : Option String)
  /-- At `settlePending(limit)` (line 574), with the rows whose receipt is awaited. -/
  | settling (limit : JsNumber) (asked : List (ℕ × Option String))
  | answered (reply : Reply)

/-- A request with the clock when it came in. -/
structure Call where
  request : Request
  openedAt : ℤ
  phase : Phase

/-! ## State -/

/-- The configuration of the process, and the code that it is linked with. -/
structure Env (κ : Type) where
  ethers : Ethers
  parseUrl : ParseUrl
  guards : GuardConfig
  /-- Whether the host passes `next`. -/
  hasNext : Bool
  missing : List String
  health : Except JsError Json
  codec : Auth.SessionCodec
  privy : Auth.PrivyVerifier κ
  policy : PolicyConfig
  bundlerUrl : String
  userOpLogLimit : Option String
  historyDbPath : String
  parseLog : ParseRevertReason

/-- A session that a call was given. -/
structure Minting where
  call : ℕ
  identity : Auth.Identity
  token : CachedToken
  mintedAt : ℤ
  session : Minted

/-- An answer of Keycloak to the request that a call sent. -/
structure Answer where
  call : ℕ
  startedAt : ℤ
  reply : TokenReply

/-- A body that was forwarded to the bundler. -/
structure Forwarding where
  call : ℕ
  session : Session
  request : Json
  checked : Checked
  forward : Forward

/-- A row that the log was given for a call. -/
structure Recording where
  call : ℕ
  row : ℕ

/-- What the await of a write or of a receipt came to. -/
inductive Received
  | body (body : Except BodyError Body)
  | upstream (reply : Except JsError (ℕ × Option String))
  | text (text : Except JsError Body)
  | receipt (row : ℕ × Option String) (receipt : Option UserOpReceipt)

/-- What a call received, and when. -/
structure Hearing where
  call : ℕ
  now : ℤ
  received : Received

/-- The state of the process, with the sessions that were made before its start (they outlive it
    if `SESSION_SECRET` is kept), and what has happened so far: the answers of Keycloak, the
    sessions, what the calls received, the bodies sent to the bundler and the rows of the log. -/
structure State where
  now : ℤ
  cache : Option CachedToken
  log : HistoryLog
  calls : List Call
  earlier : List Minted
  answers : List Answer
  minted : List Minting
  heard : List Hearing
  forwarded : List Forwarding
  recorded : List Recording

/-- The process after its start. -/
def init (now : ℤ) (log : HistoryLog) (earlier : List Minted) : State where
  now := now
  cache := none
  log := log
  calls := []
  earlier := earlier
  answers := []
  minted := []
  heard := []
  forwarded := []
  recorded := []

/-- What the call `i` has received, in order. -/
def State.heardBy (s : State) (i : ℕ) : List (ℤ × Received) :=
  (s.heard.filter (·.call == i)).map fun h => (h.now, h.received)

/-- The call `i` receives something. -/
def State.hear (s : State) (i : ℕ) (received : Received) : State :=
  { s with heard := s.heard ++ [⟨i, s.now, received⟩] }

/-- The call `i` goes on to `phase`. -/
def State.resume (s : State) (i : ℕ) (call : Call) (phase : Phase) : State :=
  { s with calls := s.calls.set i { call with phase } }

/-! ## Replies -/

/-- The part of the environment that a reply depends on. -/
def Env.proxy (env : Env κ) : ProxyEnv where
  policy := env.policy
  bundlerUrl := env.bundlerUrl
  allowedOrigins := env.guards.allowedOrigins
  fetch := fun _ => .error { message := "fetch failed" }
  record := fun _ => .ok ()

def Env.history (env : Env κ) : HistoryEnv where
  toProxyEnv := env.proxy
  userOpLogLimit := env.userOpLogLimit
  historyDbPath := env.historyDbPath
  deployed := env.guards.deployed

/-- The part of a request that a reply depends on. -/
def Request.proxy (req : Request) : ProxyRequest where
  method := req.method
  origin := req.headers.origin
  session := none
  body := .error { message := "" }

def Request.history (req : Request) : HistoryRequest where
  toProxyRequest := req.proxy
  url := req.url

/-- `json(res, status, { error }, req)`. -/
def Env.refuse (env : Env κ) (req : Request) (status : ℕ) (error : String) : Phase :=
  .answered (.proxy (errorReply env.proxy req.proxy status error))

/-- What `apiHandler` makes of a throw (lines 671-679). -/
def Env.crash (env : Env κ) (req : Request) : Phase := env.refuse req 500 "internal error"

def Env.answer (env : Env κ) (req : Request) (status : ℕ) (payload : Json)
    (extraHeaders : List (String × String)) : Phase :=
  .answered (.proxy (json env.proxy req.proxy status payload extraHeaders))

/-- `json(res, status, { error })`, without the CORS headers (lines 612 and 616). -/
def bare (status : ℕ) (error : String) : Phase :=
  .answered (.proxy {
    status := status
    headers := [("content-type", "application/json"), ("cache-control", "no-store")]
    body := .json (.obj [("error", .str error)]) })

/-! ## Up to the first await -/

/-- `session.parse(req.headers.cookie)`. -/
def Env.current (env : Env κ) (now : ℤ) (req : Request) : Option Auth.Parsed :=
  env.codec.parse req.cookie now

/-- The token and the subject of a session, which are texts unless a payload is no session. -/
def sessionOf (parsed : Auth.Parsed) : Option Session :=
  match parsed.accessToken, parsed.sub with
  | .value (.str accessToken), .value (.str sub) => some ⟨accessToken, sub⟩
  | _, _ => none

/-- `current?.sub ?? null` in a payload; `JSON.stringify` leaves a method out. -/
def userField (current : Option Auth.Parsed) : List (String × Json) :=
  match current.map Auth.Parsed.sub with
  | some (.value v) => [("user", v)]
  | some .method => []
  | _ => [("user", .null)]

/-- `handleSession` up to its first await (lines 381-408). -/
def openSession (env : Env κ) (now : ℤ) (req : Request) : Phase :=
  if req.method = "GET" then
    let current := env.current now req
    env.answer req 200 (.obj ([("authenticated", .bool current.isSome),
      ("expires_at", (current.map Auth.Parsed.expiresAt).getD .null)] ++ userField current)) []
  else if req.method = "DELETE" then
    env.answer req 200 (.obj [("authenticated", .bool false)]) [("set-cookie", env.codec.clear)]
  else if req.method ≠ "POST" then
    env.refuse req 405 "use POST to create, GET to inspect, DELETE to end the session"
  else if env.missing ≠ [] then
    let missing := String.intercalate ", " env.missing
    env.refuse req 500 s!"missing env: {missing}"
  else .verifying

/-- `handleBundler` up to its first await (lines 433-448). -/
def openBundler (env : Env κ) (now : ℤ) (req : Request) : Option Phase :=
  if req.method ≠ "POST" then some (env.refuse req 405 "use POST")
  else
    match env.current now req with
    | none => some (env.refuse req 401 "no session — POST /api/session first")
    | some parsed => (sessionOf parsed).map .readingBody

/-- The rows of `pending(limit)`. -/
def pendingRows (limit : JsNumber) : HistoryLog → Except JsError (List (ℕ × Option String))
  | .opened store => do store.pending (← sqlLimit limit)
  | .disabled _ => .ok []

/-- `handleHistory` up to its first await (lines 559-574). -/
def openHistory (env : Env κ) (now : ℤ) (log : HistoryLog) (req : Request) : Phase :=
  if req.method ≠ "GET" then
    .answered (.page (historyError env.history req.history 405 "use GET"))
  else if (env.current now req).isNone then
    .answered (.page (historyError env.history req.history 401 "no session — POST /api/session first"))
  else
    let limit := limitOf env.userOpLogLimit req.url
    match pendingRows limit log with
    | .error _ => env.crash req
    | .ok asked => .settling limit asked

/-- `handleApi` up to its first await (lines 602-668). -/
def openCall (env : Env κ) (s : State) (req : Request) : Option Phase :=
  match route env.parseUrl env.guards req.headers req.method req.url with
  | .elsewhere => some (if env.hasNext then .answered .next else env.refuse req 404 "not found")
  | .misdirected => some (bare 421 "unexpected Host — this server only answers on loopback")
  | .forbidden => some (bare 403 "cross-origin requests are not allowed")
  | .preflight => some (.answered (.preflight (corsHeaders env.proxy req.headers.origin)))
  | .health =>
    match env.health with
    | .ok report => some (env.answer req 200 report [])
    | .error _ => some (env.crash req)
  | .session => some (openSession env s.now req)
  | .bundler => openBundler env s.now req
  | .history => some (openHistory env s.now s.log req)
  | .token => some (env.refuse req 410
      "/api/token was removed — the token now lives in an HttpOnly cookie; use POST /api/session + POST /api/bundler")
  | .notFound => some (env.refuse req 404 "not found")

/-! ## Sessions -/

/-- Lines 418-427, with the token that `fetchToken` returned. -/
def issue (env : Env κ) (s : State) (i : ℕ) (call : Call) (identity : Auth.Identity)
    (token : CachedToken) : State :=
  match token.accessToken with
  | .str accessToken =>
    let session := mint accessToken identity.sub s.now
    { s.resume i call (env.answer call.request 200
        (.obj [("authenticated", .bool true), ("expires_at", session.expiryJson),
          ("user", .str identity.sub)])
        [("set-cookie", session.cookie env.codec)]) with
      minted := s.minted ++ [⟨i, identity, token, s.now, session⟩] }
  | _ => s.resume i call (env.refuse call.request 502 "token.split is not a function")

/-- What follows on `verify` (lines 408-418): the identity, and the cached token if it is fresh. -/
def afterVerify (env : Env κ) (s : State) (i : ℕ) (call : Call) :
    Except Auth.VerifyError Auth.Identity → State
  | .error (.auth message) => s.resume i call (env.refuse call.request authStatus message)
  | .error (.other _) => s.resume i call (env.crash call.request)
  | .ok identity =>
    match s.cache.filter (·.fresh s.now) with
    | some token => issue env s i call identity token
    | none => s.resume i call (.fetching identity s.now)

/-- What follows on Keycloak's answer (lines 219-234 and 418-430). -/
def afterToken (env : Env κ) (s : State) (i : ℕ) (call : Call) (identity : Auth.Identity)
    (startedAt : ℤ) (reply : TokenReply) : State :=
  let s : State := { s with answers := s.answers ++ [⟨i, startedAt, reply⟩] }
  match readToken startedAt reply with
  | .error err =>
    s.resume i call (env.refuse call.request ((err.status.filter (· ≠ 0)).getD 502) err.message)
  | .ok token => issue env { s with cache := some token } i call identity token

/-! ## Writes -/

/-- `record(entry)` on the log, with the id of the row if there is one. -/
def recordEntry (now : ℤ) (entry : LogEntry) : HistoryLog → Except JsError (Option ℕ × HistoryLog)
  | .opened store =>
    (store.record now (ofLogEntry entry)).map fun (id, store) => (some id, .opened store)
  | .disabled reason => .ok (none, .disabled reason)

/-- A row is recorded, and the call is answered. -/
def State.recordThen (env : Env κ) (s : State) (i : ℕ) (call : Call) (entry : LogEntry)
    (reply : ProxyReply) : State :=
  match recordEntry s.now entry s.log with
  | .ok (id, log) =>
    { s.resume i call (.answered (.proxy reply)) with
      log := log, recorded := s.recorded ++ (id.map fun row => ⟨i, row⟩).toList }
  | .error _ => s.resume i call (env.crash call.request)

/-- What follows on `readBody` (lines 446-491). -/
def afterBody (env : Env κ) (s : State) (i : ℕ) (call : Call) (session : Session) :
    Except BodyError Body → State
  | .error err =>
    s.resume i call (env.refuse call.request ((err.status.filter (· ≠ 0)).getD 400) err.message)
  | .ok body =>
    match body.parsed with
    | none => s.resume i call (env.refuse call.request 400 "request body must be JSON")
    | some request =>
      match policyCheck env.ethers env.proxy request with
      | .error (.policyError message) =>
        s.recordThen env i call (rejectedEntry session request message)
          (errorReply env.proxy call.request.proxy policyStatus s!"rejected by policy: {message}")
      | .error (.other _) => s.resume i call (env.crash call.request)
      | .ok checked =>
        { s.resume i call (.forwarding session checked) with
          forwarded := s.forwarded ++
            [⟨i, session, request, checked, forwardOf env.proxy session body⟩] }

/-- What follows on `fetch(BUNDLER_URL)` (lines 485-509). -/
def afterUpstream (env : Env κ) (s : State) (i : ℕ) (call : Call) (session : Session)
    (checked : Checked) : Except JsError (ℕ × Option String) → State
  | .error err =>
    s.recordThen env i call
      (checkedEntry session checked .failed 502 none (some (.str s!"bundler unreachable: {err.message}")))
      (errorReply env.proxy call.request.proxy 502
        s!"bundler unreachable at {env.bundlerUrl}: {err.message}")
  | .ok (status, contentType) => s.resume i call (.readingText session checked status contentType)

/-- What follows on `upstream.text()` (lines 509-533). -/
def afterText (env : Env κ) (s : State) (i : ℕ) (call : Call) (session : Session) (checked : Checked)
    (status : ℕ) (contentType : Option String) : Except JsError Body → State
  | .error _ => s.resume i call (env.crash call.request)
  | .ok text =>
    let upstream : Upstream := { status := status, contentType := contentType, text := .ok text }
    s.recordThen env i call (answeredEntry session checked upstream text)
      (relay env.proxy call.request.proxy upstream text)

/-! ## Receipts -/

def settlementOf (outcome : ReceiptOutcome) : Settlement where
  success := some (.bool outcome.success)
  revertReason := outcome.revertReason.map .str
  transactionHash := outcome.transactionHash.map .str

/-- `settle(id, outcome)` on the log; a throw is caught (lines 551-554). -/
def settleRow (now : ℤ) (id : ℕ) (outcome : ReceiptOutcome) : HistoryLog → HistoryLog
  | .opened store =>
    match store.settle now id (settlementOf outcome) with
    | .ok store => .opened store
    | .error _ => .opened store
  | .disabled reason => .disabled reason

/-- What follows on the receipt of one row (lines 550-554); `none` where there is none yet, or
    where the request fails. -/
def afterReceipt (env : Env κ) (s : State) (i : ℕ) (call : Call) (limit : JsNumber)
    (asked : List (ℕ × Option String)) (row : ℕ × Option String) (receipt : Option UserOpReceipt) : State :=
  let s := s.resume i call (.settling limit (asked.erase row))
  match receipt, outcomeFromReceipt env.ethers env.parseLog (row.2.getD "") receipt with
  | some _, some outcome => { s with log := settleRow s.now row.1 outcome s.log }
  | _, _ => s

/-- The page, once every receipt has been waited for (lines 575-589). -/
def answerPage (env : Env κ) (s : State) (req : Request) (limit : JsNumber) : Phase :=
  match s.log.recent limit with
  | .ok entries =>
    .answered (.page (pageReply env.history req.history (pageOf env.history s.log entries)))
  | .error _ => env.crash req

/-! ## Steps -/

inductive Event (κ : Type)
  | clock (now : ℤ)
  | request (req : Request)
  /-- `verify` settles, with the key set that it found and what it read on the way. -/
  | verified (i : ℕ) (jwks : Auth.Jwks κ) (keys : Auth.KeyReadings)
  | token (i : ℕ) (reply : TokenReply)
  | body (i : ℕ) (body : Except BodyError Body)
  | upstream (i : ℕ) (reply : Except JsError (ℕ × Option String))
  | text (i : ℕ) (text : Except JsError Body)
  | receipt (i : ℕ) (row : ℕ × Option String) (receipt : Option UserOpReceipt)
  | page (i : ℕ)

def step (env : Env κ) (s : State) : Event κ → Option State
  | .clock now => some { s with now }
  | .request req =>
    (openCall env s req).map fun phase => { s with calls := s.calls ++ [⟨req, s.now, phase⟩] }
  | .verified i jwks keys =>
    match s.calls[i]? with
    | some ⟨req, openedAt, .verifying⟩ =>
      some (afterVerify env s i ⟨req, openedAt, .verifying⟩
        (Auth.verify env.privy jwks ⟨keys, s.now⟩ req.authorization))
    | _ => none
  | .token i reply =>
    match s.calls[i]? with
    | some ⟨req, openedAt, .fetching identity startedAt⟩ =>
      some (afterToken env s i ⟨req, openedAt, .fetching identity startedAt⟩ identity startedAt reply)
    | _ => none
  | .body i body =>
    match s.calls[i]? with
    | some ⟨req, openedAt, .readingBody session⟩ =>
      some (afterBody env (s.hear i (.body body)) i ⟨req, openedAt, .readingBody session⟩ session body)
    | _ => none
  | .upstream i reply =>
    match s.calls[i]? with
    | some ⟨req, openedAt, .forwarding session checked⟩ =>
      some (afterUpstream env (s.hear i (.upstream reply)) i ⟨req, openedAt, .forwarding session checked⟩
        session checked reply)
    | _ => none
  | .text i text =>
    match s.calls[i]? with
    | some ⟨req, openedAt, .readingText session checked status contentType⟩ =>
      some (afterText env (s.hear i (.text text)) i
        ⟨req, openedAt, .readingText session checked status contentType⟩ session checked status contentType text)
    | _ => none
  | .receipt i row receipt =>
    match s.calls[i]? with
    | some ⟨req, openedAt, .settling limit asked⟩ =>
      if row ∈ asked then
        some (afterReceipt env (s.hear i (.receipt row receipt)) i ⟨req, openedAt, .settling limit asked⟩
          limit asked row receipt)
      else none
    | _ => none
  | .page i =>
    match s.calls[i]? with
    | some ⟨req, openedAt, .settling limit []⟩ =>
      some (s.resume i ⟨req, openedAt, .settling limit []⟩ (answerPage env s req limit))
    | _ => none

variable {env : Env κ} {s : State} {i : ℕ} {call : Call}

theorem afterBody_of_checked {session : Session} {body : Body} {request : Json} {checked : Checked}
    (hparsed : body.parsed = some request)
    (hcheck : policyCheck env.ethers env.proxy request = .ok checked) :
    afterBody env s i call session (.ok body) =
      { s.resume i call (.forwarding session checked) with
        forwarded := s.forwarded ++
          [⟨i, session, request, checked, forwardOf env.proxy session body⟩] } := by
  simp only [afterBody, hparsed, hcheck]

theorem step_body {session : Session} (hcall : s.calls[i]? = some call)
    (hphase : call.phase = .readingBody session) (body : Except BodyError Body) :
    step env s (.body i body) = some (afterBody env (s.hear i (.body body)) i call session body) := by
  obtain ⟨req, openedAt, phase⟩ := call
  cases hphase
  simp only [step, hcall]

end AccountAbstraction.Proxy.Backend
