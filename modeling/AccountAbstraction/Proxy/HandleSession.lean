import AccountAbstraction.Auth.Rejection
import AccountAbstraction.Proxy.HandleBundler

/-!
# The route `/api/session`

`handleSession` (`examples/privy-google-aa/server/api.mjs:381-431`), which gives a session to
a caller whom `verify` knows. `session.parse`, `session.serialize`, `session.clear`, `fetchToken`
and `tokenExpiryMs` are inputs, each by its outcome.

* `createSession_rejects_iff`: the headers on which a caller without a valid token gets 401.
-/

namespace AccountAbstraction.Proxy

open Js

/-! ## The handler -/

/-- `AuthError.status` (`privy-auth.mjs:14`). -/
def authStatus : ℕ := 401

/-- A request as `handleSession` reads it; `current` is the subject and the expiry of its
    session. -/
structure SessionRequest extends ProxyRequest where
  authorization : Option String
  current : Option (String × JsNumber)

/-- What `fetchToken` rejects with. -/
structure TokenError where
  status : Option ℕ := none
  message : String

/-- The configuration of the process, the state of its verifier and the services that it calls. -/
structure SessionEnv (κ : Type) extends ProxyEnv where
  missing : List String
  privy : Auth.PrivyVerifier κ
  jwks : Auth.Jwks κ
  readings : Auth.Readings
  fetchToken : Except TokenError String
  tokenExpiryMs : String → Option JsNumber
  serialize : (accessToken sub : String) → JsNumber → String
  clear : String
  now : ℤ

/-- `json(res, status, payload, req, extraHeaders)` (lines 324-334). -/
def json (env : ProxyEnv) (req : ProxyRequest) (status : ℕ) (payload : Json)
    (extraHeaders : List (String × String)) : ProxyReply where
  status := status
  headers := [("content-type", "application/json"), ("cache-control", "no-store")] ++
    corsHeaders env req.origin ++ extraHeaders
  body := .json payload

section Handler

variable {κ : Type} (env : SessionEnv κ) (req : SessionRequest)

/-- The identity of the caller (lines 404-408). -/
def SessionEnv.verify : Except Auth.VerifyError Auth.Identity :=
  Auth.verify env.privy env.jwks env.readings req.authorization

/-- The session of a known caller (lines 417-430). -/
def issueSession (identity : Auth.Identity) : ProxyReply :=
  match env.fetchToken with
  | .ok accessToken =>
    let expiresAt := (env.tokenExpiryMs accessToken).getD (.int (env.now + 60000))
    let cookie := env.serialize accessToken identity.sub expiresAt
    json env.toProxyEnv req.toProxyRequest 200
      (.obj [("authenticated", .bool true), ("expires_at", .num expiresAt), ("user", .str identity.sub)])
      [("set-cookie", cookie)]
  | .error err =>
    errorReply env.toProxyEnv req.toProxyRequest ((err.status.filter (· ≠ 0)).getD 502) err.message

/-- The creation of a session (lines 393-430). -/
def createSession : Except JsError ProxyReply :=
  if env.missing ≠ [] then
    let missing := String.intercalate ", " env.missing
    .ok (errorReply env.toProxyEnv req.toProxyRequest 500 s!"missing env: {missing}")
  else
    match env.verify req with
    | .error (.auth message) => .ok (errorReply env.toProxyEnv req.toProxyRequest authStatus message)
    | .error (.other err) => .error err
    | .ok identity => .ok (issueSession env req identity)

/-- `handleSession(req, res)`. -/
def handleSession : Except JsError ProxyReply :=
  if req.method = "GET" then
    .ok (json env.toProxyEnv req.toProxyRequest 200 (.obj
      [("authenticated", .bool req.current.isSome),
       ("expires_at", req.current.elim .null fun current => .num current.2),
       ("user", req.current.elim .null fun current => .str current.1)]) [])
  else if req.method = "DELETE" then
    .ok (json env.toProxyEnv req.toProxyRequest 200 (.obj [("authenticated", .bool false)])
      [("set-cookie", env.clear)])
  else if req.method ≠ "POST" then
    .ok (errorReply env.toProxyEnv req.toProxyRequest 405
      "use POST to create, GET to inspect, DELETE to end the session")
  else createSession env req

end Handler

/-! ## Callers without a valid token -/

section Rejection

variable {κ : Type} {env : SessionEnv κ} {req : SessionRequest}

/-- `verify` resolves or rejects with an `AuthError`, and a caller for whom it does not resolve
    is answered with 401. -/
structure Rejects (env : SessionEnv κ) (req : SessionRequest) : Prop where
  authError : ∀ e, env.verify req = .error e → ∃ message, e = .auth message
  answered : (∀ identity, env.verify req ≠ .ok identity) →
    ∃ message, apiHandler env.toProxyEnv req.toProxyRequest (handleSession env req) =
      errorReply env.toProxyEnv req.toProxyRequest 401 message

theorem handleSession_post (hmethod : req.method = "POST") (hmissing : env.missing = []) :
    handleSession env req = match env.verify req with
      | .error (.auth message) => .ok (errorReply env.toProxyEnv req.toProxyRequest authStatus message)
      | .error (.other err) => .error err
      | .ok identity => .ok (issueSession env req identity) := by
  have hget : req.method ≠ "GET" := by simp [hmethod]
  have hdelete : req.method ≠ "DELETE" := by simp [hmethod]
  rw [handleSession, if_neg hget, if_neg hdelete, if_neg (not_not.mpr hmethod), createSession,
    if_neg (not_not.mpr hmissing)]

/-- With well-formed keys and nothing missing from the configuration, `POST /api/session` rejects
    its callers as it should exactly on the headers with a token that does not trip. -/
theorem createSession_rejects_iff (hkeys : Auth.WellFormed env.privy env.jwks env.readings.toKeyReadings)
    (hmethod : req.method = "POST") (hmissing : env.missing = []) :
    Rejects env req ↔ ¬Auth.Trips env.privy env.jwks env.readings req.authorization := by
  rw [← Auth.verify_throws hkeys, not_fails_iff]
  constructor
  · rintro ⟨hauth, -⟩ e hverify
    obtain ⟨message, rfl⟩ := hauth e hverify
    exact id
  · intro h
    have hauth : ∀ e, env.verify req = .error e → ∃ message, e = .auth message := by
      intro e he
      cases e with
      | auth message => exact ⟨message, rfl⟩
      | other err => exact absurd trivial (h _ he)
    refine ⟨hauth, fun hno => ?_⟩
    rw [handleSession_post hmethod hmissing]
    cases hverify : env.verify req with
    | ok identity => exact absurd hverify (hno identity)
    | error e =>
      obtain ⟨message, rfl⟩ := hauth e hverify
      exact ⟨message, rfl⟩

end Rejection

/-! ## Samples -/

theorem sampleVerifier_verifies (key : Unit) : Auth.sampleVerifier.crypto.Verifies key :=
  fun _ _ => ⟨_, rfl⟩

theorem sampleReadings_wellFormed :
    Auth.WellFormed Auth.sampleVerifier {} Auth.sampleReadings.toKeyReadings := by
  have hfetch : Auth.sampleKeys.WellFormed Auth.sampleVerifier := by
    rintro ok status body jwks ⟨⟩ hjwks jwk hmem
    cases hjwks
    rw [List.mem_singleton.mp hmem]
    exact ⟨by simp, fun key _ => sampleVerifier_verifies key⟩
  exact {
    known := by
      intro e he
      cases he
    stale := hfetch
    refetched := hfetch }

/-- The sample proxy with the sample key set of Privy. -/
def sampleSessions : SessionEnv Unit where
  toProxyEnv :=
    { policy := { entryPoint := "" }, bundlerUrl := "https://bundler.l-net.io", allowedOrigins := []
      fetch := fun _ => .error { message := "fetch failed" }, record := fun _ => .ok () }
  missing := []
  privy := Auth.sampleVerifier
  jwks := {}
  readings := Auth.sampleReadings
  fetchToken := .ok "t"
  tokenExpiryMs := fun _ => none
  serialize := fun _ sub _ => sub
  clear := ""
  now := 0

def samplePost (authorization : Option String) : SessionRequest where
  method := "POST"
  origin := none
  session := none
  body := .error { message := "" }
  authorization := authorization
  current := none

/-- A token with this JOSE header, and segments behind it that hold nothing. -/
def headerLine (header : Json) : List Char := Auth.encodeSegment header ++ '.' :: ['e', '.', 'e']

def headerPost (header : Json) : SessionRequest :=
  samplePost (some ("Bearer " ++ String.ofList (headerLine header)))

theorem headerLine_bears (header : Json) :
    Auth.Bears ("Bearer " ++ String.ofList (headerLine header)).toList (headerLine header) := by
  refine Auth.bears_of_noSpace (by simp [headerLine]) fun c hc => ?_
  rcases List.mem_append.mp hc with hc | hc
  · exact (Auth.digit_of_mem_encodeSegment hc).2
  · have hrest : ['.', 'e', '.', 'e'].all (fun c => !isSpace c) = true := by decide
    simpa using List.all_eq_true.mp hrest c hc

theorem headerLine_splitOn (header : Json) :
    (headerLine header).splitOn '.' = [Auth.encodeSegment header, ['e'], ['e']] := by
  have hnot : '.' ∉ Auth.encodeSegment header := fun h => (Auth.digit_of_mem_encodeSegment h).1 rfl
  rw [headerLine, List.splitOn_append_cons_self_of_not_mem hnot]
  rfl

/-- The header of a token that is signed with a shared secret. -/
def hmacHeader : Json := .obj [("alg", .str "HS256"), ("kid", .str "test-key-1")]

/-- A token with the wrong algorithm is answered with 401. -/
theorem createSession_rejects_sample : ∃ message,
    apiHandler sampleSessions.toProxyEnv (headerPost hmacHeader).toProxyRequest
      (handleSession sampleSessions (headerPost hmacHeader)) =
        errorReply sampleSessions.toProxyEnv (headerPost hmacHeader).toProxyRequest 401 message := by
  have hsegments : Auth.segments (headerPost hmacHeader).authorization =
      .ok (Auth.encodeSegment hmacHeader, ['e'], ['e']) :=
    Auth.segments_eq_ok.mpr ⟨_, headerLine_bears hmacHeader, headerLine_splitOn hmacHeader⟩
  have hread : Auth.readSegment (Auth.encodeSegment hmacHeader) "header" = .ok hmacHeader :=
    Auth.readSegment_eq_ok.mpr (Auth.segmentJson_encodeSegment (by simp [hmacHeader, Json.Plain, PlainFields]))
  have hheader : Auth.readHeader (Auth.encodeSegment hmacHeader) =
      .error (.auth "privy token alg must be ES256, got HS256") := by
    rw [Auth.readHeader, hread]
    rfl
  have hverify : sampleSessions.verify (headerPost hmacHeader) =
      .error (.auth "privy token alg must be ES256, got HS256") := by
    rw [SessionEnv.verify, Auth.verify, hsegments, ok_bind]
    simp only [hheader]
    rfl
  have hnot : ¬Auth.Trips Auth.sampleVerifier {} Auth.sampleReadings (headerPost hmacHeader).authorization := by
    rw [← Auth.verify_throws sampleReadings_wellFormed]
    rintro ⟨e, he, hother⟩
    cases he.symm.trans hverify
    exact hother
  obtain ⟨-, hanswered⟩ : Rejects sampleSessions (headerPost hmacHeader) :=
    (createSession_rejects_iff sampleReadings_wellFormed rfl rfl).mpr hnot
  refine hanswered fun identity hidentity => ?_
  cases hidentity.symm.trans hverify

/-- A token whose JOSE header is `null`. -/
def nullPost : SessionRequest := headerPost .null

/-- A token whose JOSE header is `null` is answered with 500. -/
theorem nullHeader_internal : ∃ err, sampleSessions.verify nullPost = .error (.other err) ∧
    apiHandler sampleSessions.toProxyEnv nullPost.toProxyRequest (handleSession sampleSessions nullPost) =
      errorReply sampleSessions.toProxyEnv nullPost.toProxyRequest 500 "internal error" := by
  have htrips : Auth.Trips Auth.sampleVerifier {} Auth.sampleReadings nullPost.authorization :=
    ⟨headerLine .null, _, _, _, .null, headerLine_bears .null, headerLine_splitOn .null,
      Auth.segmentJson_encodeSegment trivial, Or.inl (Or.inl rfl)⟩
  obtain ⟨e, he, hother⟩ := (Auth.verify_throws sampleReadings_wellFormed _).mpr htrips
  have hverify : sampleSessions.verify nullPost = .error e := he
  cases e with
  | auth message => exact absurd hother id
  | other err =>
    refine ⟨err, hverify, ?_⟩
    rw [handleSession_post rfl rfl, hverify]
    rfl

end AccountAbstraction.Proxy
