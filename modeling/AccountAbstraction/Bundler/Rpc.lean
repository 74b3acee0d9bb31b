import AccountAbstraction.Bundler.UserOp

/-!
# The JSON-RPC front of the bundler

`handleRpc` (`bundler/src/index.js:451-491`) and the HTTP server around it (493-563).
`handleRpc` is modelled up to the bundler method it calls, an `RpcCall`; what such a
call returns or throws is the parameter `perform` of the server, for every position
of a batch on its own.

* `onEnd_answers_iff`: the `end` handler answers every element of a body, in order,
  exactly when no element is `null`.
* `write_gate`: with authentication on, a write method of the bundler is called only
  for a request whose token was verified, and every other element of a body is
  dispatched as if authentication were off.
-/

namespace AccountAbstraction.Bundler

open Js

/-- A call of a bundler method out of the `switch` in `handleRpc`. -/
inductive RpcCall
  | chainId
  | proxyRpc (method : String) (params : Json)
  | supportedEntryPoints
  | sendUserOperation (params : Json)
  | estimateUserOperationGas (params : Json)
  | getUserOperationByHash (params : Json)
  | getUserOperationReceipt (params : Json)
  /-- `lnet_bundlerStatus`, which only reads. -/
  | bundlerStatus
  | bundleNow

/-- The calls that submit transactions to LNET. -/
def RpcCall.isWrite : RpcCall → Bool
  | .sendUserOperation _ => true
  | .bundleNow => true
  | _ => false

/-- `PROTECTED_METHODS` (`bundler/src/index.js:449`). -/
def protectedMethods : List String := ["eth_sendUserOperation", "lnet_bundleNow"]

/-- The `authContext` of one HTTP request (`bundler/src/index.js:538`). -/
structure AuthContext where
  enabled : Bool
  ok : Bool
  claims : Option Json
  error : Option String

/-- `err.code && Number.isInteger(err.code) ? err.code : -32000`. -/
def errorCode (err : JsError) : Json :=
  match err.code with
  | some (.num x) => if x.integer?.isSome && x ≠ .int 0 then .num x else .num (.int (-32000))
  | _ => .num (.int (-32000))

/-- `formatRpcError(err)` (`bundler/src/index.js:205-211`). -/
def formatRpcError (err : JsError) : Json :=
  .obj ([("code", errorCode err), ("message", .str (if err.message ≠ "" then err.message else err.text))] ++
    (err.data.map fun data => ("data", data)).toList)

/-- The method of a payload that passes the first check of `handleRpc`. -/
def methodOf? (payload : Json) : Option String :=
  if payload.truthy && isText (payload.field "jsonrpc") "2.0" then
    match payload.field "method" with
    | some (.str method) => some method
    | _ => none
  else none

/-- The `switch` of `handleRpc` (`bundler/src/index.js:459-490`). -/
def dispatch (method : String) (params : Json) : Except JsError RpcCall :=
  match method with
  | "eth_chainId" => .ok .chainId
  | "eth_call" => .ok (.proxyRpc method params)
  | "eth_getCode" => .ok (.proxyRpc method params)
  | "eth_blockNumber" => .ok (.proxyRpc method params)
  | "eth_getBalance" => .ok (.proxyRpc method params)
  | "eth_getTransactionReceipt" => .ok (.proxyRpc method params)
  | "eth_supportedEntryPoints" => .ok .supportedEntryPoints
  | "eth_sendUserOperation" => .ok (.sendUserOperation params)
  | "eth_estimateUserOperationGas" => .ok (.estimateUserOperationGas params)
  | "eth_getUserOperationByHash" => .ok (.getUserOperationByHash params)
  | "eth_getUserOperationReceipt" => .ok (.getUserOperationReceipt params)
  | "lnet_bundlerStatus" => .ok .bundlerStatus
  | "lnet_bundleNow" => .ok .bundleNow
  | _ => .error (rpcError (-32601) s!"method not found: {method}")

/-- `payload.params || []`. -/
def paramsOf (payload : Json) : Json := (jsOr (payload.field "params") (some (.arr []))).getD (.arr [])

/-- `auth.error || "valid Keycloak bearer token required"`. -/
def authReason (auth : AuthContext) : String :=
  match auth.error with
  | some error => if error ≠ "" then error else "valid Keycloak bearer token required"
  | none => "valid Keycloak bearer token required"

/-- `handleRpc(bundler, payload, auth)` (`bundler/src/index.js:451-491`), up to the call
    of the bundler method. -/
def handleRpc (payload : Json) (auth : AuthContext) : Except JsError RpcCall :=
  match methodOf? payload with
  | none => .error (rpcError (-32600) "invalid JSON-RPC request")
  | some method =>
    if auth.enabled && protectedMethods.contains method && !auth.ok then
      .error (rpcError (-32001) s!"unauthorized: {authReason auth}")
    else dispatch method (paramsOf payload)

/-! ## The server -/

/-- What `createAuthenticator` returns: whether authentication is on, and the outcome
    of `verifyRequest` on the headers of a request. -/
structure Authenticator where
  enabled : Bool
  verifyRequest : List (String × String) → Except JsError Json

/-- A request as the server sees it; `body` is the outcome of `JSON.parse` on the text
    that arrived, `none` where it throws. -/
structure HttpRequest where
  method : String
  url : String
  headers : List (String × String)
  body : Option Json

structure HttpReply where
  status : ℕ
  headers : List (String × String)
  /-- What `JSON.stringify` is applied to; `none` for an empty body. -/
  body : Option Json

/-- `corsHeaders` (`bundler/src/index.js:496-500`). -/
def corsHeaders : List (String × String) :=
  [("access-control-allow-origin", "*"), ("access-control-allow-methods", "GET,POST,OPTIONS"),
   ("access-control-allow-headers", "content-type,authorization")]

/-- `res.writeHead(status, { ...corsHeaders, "content-type": … })` and
    `res.end(JSON.stringify(body))`. -/
def jsonReply (status : ℕ) (body : Json) : HttpReply :=
  { status := status, headers := corsHeaders ++ [("content-type", "application/json")],
    body := some body }

/-- `Array.isArray(payload) ? payload : [payload]`. -/
def requestsOf : Json → List Json
  | .arr items => items
  | payload => [payload]

/-- `r && PROTECTED_METHODS.has(r.method)`. -/
def asksForAuth (r : Json) : Bool := r.truthy && protectedMethods.any (isText (r.field "method"))

/-- The `authContext` after `verifyRequest`, which is asked once for the HTTP request and
    only when some element names a protected method (`bundler/src/index.js:538-547`). -/
def authContext (auth : Authenticator) (headers : List (String × String)) (requests : List Json) :
    AuthContext :=
  if auth.enabled && requests.any asksForAuth then
    match auth.verifyRequest headers with
    | .ok claims => { enabled := auth.enabled, ok := true, claims := some claims, error := none }
    | .error err =>
      { enabled := auth.enabled, ok := false, claims := none, error := some err.message }
  else { enabled := auth.enabled, ok := false, claims := none, error := none }

/-- The context of a server whose authentication is off. -/
def authDisabled : AuthContext := { enabled := false, ok := false, claims := none, error := none }

/-- `request.id ?? null`, which throws on `null`. -/
def requestId (request : Json) : Except JsError Json :=
  match request.prop "id" with
  | .ok id => .ok ((nullish id (some .null)).getD .null)
  | .error err => .error err

/-- `{ jsonrpc: "2.0", id, … }`; `JSON.stringify` leaves out an `undefined` result. -/
def response (id : Json) (outcome : Except JsError (Option Json)) : Json :=
  .obj ([("jsonrpc", .str "2.0"), ("id", id)] ++
    match outcome with
    | .ok result => (result.map fun result => ("result", result)).toList
    | .error err => [("error", formatRpcError err)])

/-- What `await handleRpc(…)` gives for one element, where `perform` is the outcome of the
    bundler method. -/
def rpcOutcome (auth : AuthContext) (perform : RpcCall → Except JsError (Option Json))
    (request : Json) : Except JsError (Option Json) :=
  (handleRpc request auth).bind perform

/-- The `async` function that answers one element (`bundler/src/index.js:550-557`). Both the
    `try` block and the `catch` block read `request.id`. -/
def respond (auth : AuthContext) (perform : RpcCall → Except JsError (Option Json))
    (request : Json) : Except JsError Json :=
  let attempt : Except JsError Json := do
    let result ← rpcOutcome auth perform request
    let id ← requestId request
    return response id (.ok result)
  match attempt with
  | .ok reply => .ok reply
  | .error err => do
    let id ← requestId request
    return response id (.error err)

/-- `Promise.all(requests.map(…))`; it rejects when one of the promises does. -/
def respondAll (auth : AuthContext) (perform : ℕ → RpcCall → Except JsError (Option Json)) :
    ℕ → List Json → Except JsError (List Json)
  | _, [] => .ok []
  | i, request :: requests => do
    let reply ← respond auth (perform i) request
    let replies ← respondAll auth perform (i + 1) requests
    return reply :: replies

/-- The part of the `end` handler behind `JSON.parse` (`bundler/src/index.js:534-560`). -/
def onEnd (auth : Authenticator) (headers : List (String × String))
    (perform : ℕ → RpcCall → Except JsError (Option Json)) (payload : Json) :
    Except JsError HttpReply := do
  let requests := requestsOf payload
  let replies ← respondAll (authContext auth headers requests) perform 0 requests
  return jsonReply 200 (match payload with
    | .arr _ => .arr replies
    | _ => replies.headD .null)

/-- The bundler methods that the `end` handler calls for a body, in order. -/
def callsOf (auth : Authenticator) (headers : List (String × String)) (payload : Json) :
    List RpcCall :=
  (requestsOf payload).filterMap fun request =>
    (handleRpc request (authContext auth headers (requestsOf payload))).toOption

/-- What the server does with a request: the bundler methods it calls and its reply. -/
structure Exchange where
  calls : List RpcCall
  reply : Except JsError HttpReply

/-- The listener of `createServer` (`bundler/src/index.js:495-562`); `pending` is
    `bundler.pendingCount()`. -/
def serve (auth : Authenticator) (pending : ℕ)
    (perform : ℕ → RpcCall → Except JsError (Option Json)) (req : HttpRequest) : Exchange :=
  if req.method = "OPTIONS" then
    { calls := [], reply := .ok { status := 204, headers := corsHeaders, body := none } }
  else if req.method = "GET" ∧ req.url = "/health" then
    { calls := [],
      reply := .ok (jsonReply 200 (.obj [("ok", .bool true), ("pending", .num (.int pending))])) }
  else if req.method ≠ "POST" then
    { calls := [], reply := .ok (jsonReply 405 (.obj [("error", .str "method not allowed")])) }
  else match req.body with
    | none =>
      { calls := [],
        reply := .ok (jsonReply 400 (.obj [("jsonrpc", .str "2.0"), ("id", .null),
          ("error", .obj [("code", .num (.int (-32700))), ("message", .str "parse error")])])) }
    | some payload =>
      { calls := callsOf auth req.headers payload, reply := onEnd auth req.headers perform payload }

/-! ## Every element is answered -/

/-- `request.id ?? null` where the request is not `null`. -/
def idOf (request : Json) : Json := (nullish (request.field "id") (some .null)).getD .null

/-- The answer that one element is due: its own `id`, and the result of its own call or the
    formatted error. -/
def answer (auth : AuthContext) (perform : RpcCall → Except JsError (Option Json))
    (request : Json) : Json :=
  response (idOf request) (rpcOutcome auth perform request)

/-- The body that is due: an array for an array, with one answer per element in the same
    order, and a single answer otherwise. -/
def dueBody (auth : AuthContext) (perform : ℕ → RpcCall → Except JsError (Option Json)) :
    Json → Json
  | .arr items => .arr (items.mapIdx fun i request => answer auth (perform i) request)
  | payload => answer auth (perform 0) payload

theorem requestId_of_ne_null {request : Json} (h : request ≠ .null) :
    requestId request = .ok (idOf request) := by
  simp [requestId, Json.prop_of_ne_null h, idOf]

theorem respond_of_ne_null (auth : AuthContext) (perform : RpcCall → Except JsError (Option Json))
    {request : Json} (h : request ≠ .null) :
    respond auth perform request = .ok (answer auth perform request) := by
  unfold respond answer
  rw [requestId_of_ne_null h]
  cases rpcOutcome auth perform request <;> rfl

/-- The `catch` block reads `request.id` on the same `null` that made `handleRpc` throw. -/
theorem respond_null (auth : AuthContext) (perform : RpcCall → Except JsError (Option Json)) :
    respond auth perform .null = .error (readNullError "null" "id") := rfl

theorem respondAll_of_ne_null (auth : AuthContext)
    (perform : ℕ → RpcCall → Except JsError (Option Json)) :
    ∀ (requests : List Json) (i : ℕ), (∀ request ∈ requests, request ≠ .null) →
      respondAll auth perform i requests =
        .ok (requests.mapIdx fun k request => answer auth (perform (i + k)) request) := by
  intro requests
  induction requests with
  | nil => intro i _; rfl
  | cons request requests ih =>
    intro i h
    rw [respondAll, respond_of_ne_null _ _ (h request List.mem_cons_self),
      ih (i + 1) fun r hr => h r (List.mem_cons_of_mem _ hr), List.mapIdx_cons]
    simp only [Nat.add_assoc, Nat.add_comm 1]
    rfl

theorem respondAll_error_of_null (auth : AuthContext)
    (perform : ℕ → RpcCall → Except JsError (Option Json)) :
    ∀ (requests : List Json) (i : ℕ), Json.null ∈ requests →
      ∃ err, respondAll auth perform i requests = .error err := by
  intro requests
  induction requests with
  | nil => intro i h; cases h
  | cons request requests ih =>
    intro i h
    rw [respondAll]
    by_cases hnull : request = .null
    · exact ⟨_, by rw [hnull, respond_null]; rfl⟩
    · obtain ⟨err, herr⟩ := ih (i + 1) ((List.mem_cons.mp h).resolve_left (Ne.symm hnull))
      exact ⟨err, by rw [respond_of_ne_null _ _ hnull, herr]; rfl⟩

/-- The `end` handler answers a body as it is due exactly when no element of it is `null`,
    whatever the bundler methods return or throw. -/
theorem onEnd_answers_iff (auth : Authenticator) (headers : List (String × String))
    (perform : ℕ → RpcCall → Except JsError (Option Json)) (payload : Json) :
    onEnd auth headers perform payload =
        .ok (jsonReply 200
          (dueBody (authContext auth headers (requestsOf payload)) perform payload)) ↔
      ∀ request ∈ requestsOf payload, request ≠ .null := by
  constructor
  · intro h request hmem hnull
    subst hnull
    obtain ⟨err, herr⟩ := respondAll_error_of_null
      (authContext auth headers (requestsOf payload)) perform _ 0 hmem
    rw [onEnd, herr] at h
    cases h
  · intro h
    rw [onEnd, respondAll_of_ne_null _ _ _ 0 h]
    cases payload <;> simp [dueBody, requestsOf, bind, Except.bind, pure, Except.pure]

/-- A batch of `null` and a well-formed request is not answered at all. -/
theorem onEnd_null_unanswered :
    ¬ ∃ reply, onEnd { enabled := false, verifyRequest := fun _ => .ok .null } []
        (fun _ _ => .ok (some (.str "0x9e57c")))
        (.arr [.null, .obj [("jsonrpc", .str "2.0"), ("id", .num (.int 1)),
          ("method", .str "eth_chainId")]]) = .ok reply := by
  rintro ⟨reply, h⟩
  cases h

/-! ## The write gate -/

/-- The element is a valid JSON-RPC 2.0 request for a protected method. -/
def IsProtected (request : Json) : Prop :=
  ∃ fields, request = .obj fields ∧ fields.lookup "jsonrpc" = some (.str "2.0") ∧
    ∃ method ∈ protectedMethods, fields.lookup "method" = some (.str method)

/-- The first check of `handleRpc` passes only JSON objects. -/
theorem methodOf?_eq_some {payload : Json} {method : String} (h : methodOf? payload = some method) :
    ∃ fields, payload = .obj fields ∧ fields.lookup "jsonrpc" = some (.str "2.0") ∧
      fields.lookup "method" = some (.str method) := by
  unfold methodOf? at h
  split_ifs at h with hif
  obtain ⟨-, hversion⟩ := Bool.and_eq_true_iff.mp hif
  rw [isText_iff] at hversion
  cases payload with
  | obj fields =>
    refine ⟨fields, rfl, hversion, ?_⟩
    split at h
    · rename_i m hm
      cases h
      exact hm
    · cases h
  | _ => cases hversion

theorem methodOf?_obj {fields : List (String × Json)} {method : String}
    (hversion : fields.lookup "jsonrpc" = some (.str "2.0"))
    (hmethod : fields.lookup "method" = some (.str method)) :
    methodOf? (.obj fields) = some method := by
  simp [methodOf?, Json.truthy, Json.field, hversion, hmethod, isText]

theorem isProtected_iff {request : Json} :
    IsProtected request ↔ ∃ method ∈ protectedMethods, methodOf? request = some method := by
  constructor
  · rintro ⟨fields, rfl, hversion, method, hmem, hmethod⟩
    exact ⟨method, hmem, methodOf?_obj hversion hmethod⟩
  · rintro ⟨method, hmem, h⟩
    obtain ⟨fields, rfl, hversion, hmethod⟩ := methodOf?_eq_some h
    exact ⟨fields, rfl, hversion, method, hmem, hmethod⟩

/-- Only the two protected methods lead to a write. -/
theorem dispatch_isWrite {method : String} {params : Json} {call : RpcCall}
    (h : dispatch method params = .ok call) (hw : call.isWrite = true) :
    method ∈ protectedMethods := by
  unfold dispatch at h
  split at h <;> cases h <;> simp_all [RpcCall.isWrite, protectedMethods]

/-- With authentication on, an unverified context lets no write through. -/
theorem handleRpc_isWrite {request : Json} {auth : AuthContext} {call : RpcCall}
    (henabled : auth.enabled = true) (h : handleRpc request auth = .ok call)
    (hw : call.isWrite = true) : IsProtected request ∧ auth.ok = true := by
  unfold handleRpc at h
  split at h
  · cases h
  · rename_i method hmethod
    split_ifs at h with hgate
    have hmem := dispatch_isWrite h hw
    refine ⟨isProtected_iff.mpr ⟨method, hmem, hmethod⟩, ?_⟩
    simpa [henabled, hmem] using hgate

theorem handleRpc_of_isProtected {request : Json} {auth : AuthContext}
    (henabled : auth.enabled = true) (hok : auth.ok = false) (h : IsProtected request) :
    handleRpc request auth = .error (rpcError (-32001) s!"unauthorized: {authReason auth}") := by
  obtain ⟨method, hmem, hmethod⟩ := isProtected_iff.mp h
  simp [handleRpc, hmethod, henabled, hok, hmem]

theorem handleRpc_of_not_isProtected {request : Json} (auth : AuthContext)
    (h : ¬ IsProtected request) : handleRpc request auth = handleRpc request authDisabled := by
  unfold handleRpc
  cases hmethod : methodOf? request with
  | none => rfl
  | some method =>
    have hmem : method ∉ protectedMethods := fun hmem => h (isProtected_iff.mpr ⟨method, hmem, hmethod⟩)
    simp [hmem, authDisabled]

/-- The context is verified only if some element asked for it and `verifyRequest`
    resolved. -/
theorem authContext_ok {auth : Authenticator} {headers : List (String × String)}
    {requests : List Json} (h : (authContext auth headers requests).ok = true) :
    ∃ claims, auth.verifyRequest headers = .ok claims := by
  unfold authContext at h
  split_ifs at h with hif
  split at h
  · rename_i claims hclaims
    exact ⟨claims, hclaims⟩
  · cases h

theorem authContext_enabled (auth : Authenticator) (headers : List (String × String))
    (requests : List Json) : (authContext auth headers requests).enabled = auth.enabled := by
  unfold authContext
  split_ifs
  · split <;> rfl
  · rfl

/-- The calls of the server come from an element of a POST body. -/
theorem mem_serve_calls {auth : Authenticator} {pending : ℕ}
    {perform : ℕ → RpcCall → Except JsError (Option Json)} {req : HttpRequest} {call : RpcCall}
    (h : call ∈ (serve auth pending perform req).calls) :
    ∃ payload, req.body = some payload ∧ ∃ request ∈ requestsOf payload,
      handleRpc request (authContext auth req.headers (requestsOf payload)) = .ok call := by
  unfold serve at h
  split_ifs at h
  · cases h
  · cases h
  · cases h
  · split at h
    · cases h
    · rename_i payload hbody
      obtain ⟨request, hmem, hcall⟩ := List.mem_filterMap.mp h
      refine ⟨payload, hbody, request, hmem, ?_⟩
      cases hr : handleRpc request (authContext auth req.headers (requestsOf payload)) with
      | error err => rw [hr] at hcall; cases hcall
      | ok call' => rw [hr] at hcall; cases hcall; rfl

/-- A body that is an object calls one method at most. -/
theorem serve_calls_length {auth : Authenticator} {pending : ℕ}
    {perform : ℕ → RpcCall → Except JsError (Option Json)} {req : HttpRequest}
    {fields : List (String × Json)} (h : req.body = some (.obj fields)) :
    (serve auth pending perform req).calls.length ≤ 1 := by
  unfold serve
  split_ifs
  · exact Nat.zero_le _
  · exact Nat.zero_le _
  · exact Nat.zero_le _
  · rw [h]
    exact List.length_filterMap_le _ _

/-- The write gate. With authentication on, the server calls `sendUserOperation` or
    `bundleNow` only if `verifyRequest` resolved for the HTTP request; where it rejects,
    every valid request for a protected method fails with `-32001`, and every other element
    of the body is dispatched as with authentication off. -/
theorem write_gate (auth : Authenticator) (henabled : auth.enabled = true) (pending : ℕ)
    (perform : ℕ → RpcCall → Except JsError (Option Json)) (req : HttpRequest) :
    (∀ call ∈ (serve auth pending perform req).calls, call.isWrite = true →
      ∃ claims, auth.verifyRequest req.headers = .ok claims) ∧
    (∀ err, auth.verifyRequest req.headers = .error err →
      ∀ payload, req.body = some payload → ∀ request ∈ requestsOf payload,
        (IsProtected request → ∃ failure,
          handleRpc request (authContext auth req.headers (requestsOf payload)) = .error failure ∧
            failure.code = some (.num (.int (-32001)))) ∧
        (¬ IsProtected request →
          handleRpc request (authContext auth req.headers (requestsOf payload)) =
            handleRpc request authDisabled)) := by
  constructor
  · intro call hcall hw
    obtain ⟨payload, -, request, -, hr⟩ := mem_serve_calls hcall
    obtain ⟨-, hok⟩ := handleRpc_isWrite (by rw [authContext_enabled, henabled]) hr hw
    exact authContext_ok hok
  · intro err herr payload _ request _
    have hok : (authContext auth req.headers (requestsOf payload)).ok = false := by
      by_contra hok
      obtain ⟨claims, hclaims⟩ := authContext_ok (Bool.of_not_eq_false hok)
      rw [herr] at hclaims
      cases hclaims
    constructor
    · intro hp
      exact ⟨_, handleRpc_of_isProtected (by rw [authContext_enabled, henabled]) hok hp, rfl⟩
    · exact handleRpc_of_not_isProtected _

/-- An authenticator that knows one token. -/
def oneToken (token : String) : Authenticator :=
  { enabled := true
    verifyRequest := fun headers =>
      if headers.lookup "authorization" = some ("Bearer " ++ token) then .ok (.obj [])
      else .error { message := "missing bearer token" } }

/-- `lnet_bundleNow` passes the gate with the token and is refused without it. -/
theorem write_gate_bundleNow :
    let body := Json.obj [("jsonrpc", .str "2.0"), ("method", .str "lnet_bundleNow")]
    let token := [("authorization", "Bearer t")]
    (∃ claims, (oneToken "t").verifyRequest token = .ok claims) ∧
      ∃ failure, handleRpc body (authContext (oneToken "t") [] [body]) = .error failure ∧
        failure.code = some (.num (.int (-32001))) := by
  intro body token
  have hp : IsProtected body := ⟨_, rfl, rfl, "lnet_bundleNow", by decide, rfl⟩
  constructor
  · exact (write_gate (oneToken "t") rfl 0 (fun _ _ => .ok none)
      { method := "POST", url := "/", headers := token, body := some body }).1
        .bundleNow (by simp [serve, callsOf, requestsOf, body, token]; rfl) rfl
  · exact ((write_gate (oneToken "t") rfl 0 (fun _ _ => .ok none)
      { method := "POST", url := "/", headers := [], body := some body }).2 _ rfl body rfl body
        (by simp [requestsOf, body])).1 hp

end AccountAbstraction.Bundler
