import AccountAbstraction.Auth.Cookie
import AccountAbstraction.Auth.Privy
import AccountAbstraction.Proxy.HandleSession

/-!
# The Keycloak token and the session that carries it

`fetchToken` and `tokenExpiryMs` of `server/api.mjs` (lines 194-249), and the session that
`handleSession` makes of a token (lines 417-427). Arithmetic on the clock is exact: the
rounding of doubles is left out where a time is compared with the clock.

* `readPayload_minted`: what the backend reads back from the cookie of a session.
-/

namespace AccountAbstraction.Proxy

open Js Auth

/-! ## fetchToken -/

/-- `cache` (lines 199 and 228-233): the token, the clock when it was asked for, and its
    `ttlMs`, `none` for `NaN`. -/
structure CachedToken where
  accessToken : Json
  startedAt : ℤ
  ttlMs : Option JsNumber
  truthy : accessToken.truthy = true

/-- `now < cache.expiresAt` (line 203), for the `expiresAt` of line 231. -/
def CachedToken.fresh (cached : CachedToken) (now : ℤ) : Bool :=
  match cached.ttlMs with
  | some ttlMs => now < cached.startedAt + 5000 || ttlMs.exceeds (now - cached.startedAt + 30000)
  | none => false

/-- What becomes of the request to Keycloak: `fetch` rejects, or there is an answer, with the
    JSON of its body (`none` where `res.json()` rejects). -/
inductive TokenReply
  | unreachable (err : JsError)
  | answer (ok : Bool) (status : ℕ) (data : Option Json)

/-- The `TypeError` of a conversion that finds no primitive value. -/
def notPrimitive : TokenError := { message := "Cannot convert object to primitive value" }

/-- Lines 221-224. -/
def tokenRefusal (status : ℕ) (data : Json) : TokenError :=
  match data.prop "error_description" with
  | .error err => { message := err.message }
  | .ok description =>
    let other := jsOr (data.field "error") (some (.str s!"token endpoint returned {status}"))
    match ((jsOr description other).getD .null).text? with
    | some reason => { status := some (if status = 0 then 502 else status), message := reason }
    | none => notPrimitive

/-- Line 227. The outer `none` is a `TypeError`, the inner one `NaN`. -/
def ttlMsOf (data : Json) : Option (Option JsNumber) :=
  let expiresIn := (jsOr (data.field "expires_in") (some (.num (.int 60)))).getD .null
  if expiresIn.text?.isNone then none else some (expiresIn.toNumber?.map (·.times 1000))

/-- Lines 214-234, for a request that was sent at `startedAt`. -/
def readToken (startedAt : ℤ) : TokenReply → Except TokenError CachedToken
  | .unreachable err => .error { message := err.message }
  | .answer ok status body =>
    let data := body.getD (.obj [])
    if !ok then .error (tokenRefusal status data)
    else
      match data.prop "access_token" with
      | .error err => .error { message := err.message }
      | .ok none => .error (tokenRefusal status data)
      | .ok (some accessToken) =>
        if htoken : accessToken.truthy = true then
          match ttlMsOf data with
          | some ttlMs => .ok ⟨accessToken, startedAt, ttlMs, htoken⟩
          | none => .error notPrimitive
        else .error (tokenRefusal status data)

/-- `tokenExpiryMs` (lines 240-249): the outer `none` is `null`, the inner one `NaN`. -/
def tokenExpiryMs (token : String) : Option (Option JsNumber) :=
  match token.toList.splitOn '.' with
  | [_, payload, _] =>
    match (segmentJson payload).bind (·.field "exp") with
    | some exp =>
      if exp.truthy && exp.text?.isSome then some (exp.toNumber?.map (·.times 1000)) else none
    | none => none
  | _ => none

/-! ## The session -/

/-- What `session.serialize` is given (line 420). An `expiresAt` that is no finite number
    has no text in JSON. -/
structure Minted where
  accessToken : String
  sub : String
  expiresAt : Option { x : JsNumber // x.Finite }

/-- A number that is finite. -/
def finite? (x : Option JsNumber) : Option { x : JsNumber // x.Finite } :=
  x.bind fun x => if h : x.Finite then some ⟨x, h⟩ else none

/-- Lines 419-420. -/
def mint (accessToken sub : String) (now : ℤ) : Minted where
  accessToken := accessToken
  sub := sub
  expiresAt := finite? ((tokenExpiryMs accessToken).getD (some (.int (now + 60000))))

def Minted.expiryJson (m : Minted) : Json := m.expiresAt.elim .null fun x => .num x.val

/-- What `serialize` puts into the cookie (`session-cookie.mjs:36-38`). -/
def Minted.json (m : Minted) : Json :=
  .obj [("at", .str m.accessToken), ("sub", .str m.sub), ("exp", m.expiryJson)]

def Minted.payload (m : Minted) : String := base64urlEncode (utf8Encode m.json.stringify)

/-- `session.serialize(m)`. -/
def Minted.cookie (codec : SessionCodec) (m : Minted) : String :=
  codec.attributes (m.payload ++ "." ++ codec.mac m.payload) false

/-- No text that the header carries is a MAC of another text that it carries, unless this one
    is the payload of a minted session. -/
def UnforgedBy (codec : SessionCodec) (minted : Set Minted) (header : String) : Prop :=
  ∀ payloadB64 tag, Carries header payloadB64 → Carries header tag →
    base64urlDecode tag = base64urlDecode (codec.mac payloadB64) →
    ∃ m ∈ minted, payloadB64 = m.payload

/-! ## What the cookie carries -/

theorem Minted.plain (m : Minted) : m.json.Plain := by
  have hexp : m.expiryJson.Plain := by
    unfold Minted.expiryJson
    cases m.expiresAt with
    | none => simp [Json.Plain]
    | some x => simpa [Json.Plain] using x.property
  simp only [Minted.json, Json.Plain, PlainFields, true_and, and_true]
  exact ⟨by simp, hexp⟩

/-- What the backend reads back is the session that was minted, and it has not expired. -/
theorem readPayload_minted {m : Minted} {now : ℤ} {session : Parsed}
    (h : readPayload m.payload now = some session) :
    session.accessToken = .value (.str m.accessToken) ∧ session.sub = .value (.str m.sub) ∧
      ∀ x, m.expiresAt = some x → x.val.exceeds (now + expirySkewMs) = true := by
  have hparse : parseJson (utf8Decode (base64urlDecode m.payload)) = some m.json := by
    rw [Minted.payload, base64urlDecode_base64urlEncode, utf8Decode_utf8Encode]
    exact parseJson_stringify m.plain
  rw [readPayload, hparse] at h
  have hat : readAt m.json = .value (.str m.accessToken) := rfl
  have hsub : readSub m.json = .value (.str m.sub) := rfl
  have hexp : m.json.field "exp" = some m.expiryJson := rfl
  simp only [hat, hsub, hexp] at h
  split_ifs at h
  cases hexpiry : m.expiresAt with
  | none =>
    rw [Minted.expiryJson, hexpiry] at h
    cases h
    exact ⟨rfl, rfl, by simp⟩
  | some x =>
    rw [Minted.expiryJson, hexpiry] at h
    simp only [Option.elim_some] at h
    split_ifs at h with hfresh
    cases h
    refine ⟨rfl, rfl, fun y hy => ?_⟩
    cases hy
    exact hfresh

/-- A session that `parse` returns is one that was minted, whole. -/
theorem parse_minted {codec : SessionCodec} {minted : Set Minted} {header : String}
    (hunforged : UnforgedBy codec minted header) {now : ℤ} {session : Parsed}
    (h : codec.parse (some header) now = some session) :
    ∃ m ∈ minted, session.accessToken = .value (.str m.accessToken) ∧
      session.sub = .value (.str m.sub) ∧
      ∀ x, m.expiresAt = some x → x.val.exceeds (now + expirySkewMs) = true := by
  obtain ⟨payloadB64, tag, hpayload, htag, hmac, hread⟩ := parse_eq_some h
  obtain ⟨m, hm, rfl⟩ := hunforged payloadB64 tag hpayload htag hmac
  exact ⟨m, hm, readPayload_minted hread⟩

end AccountAbstraction.Proxy
