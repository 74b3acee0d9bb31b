import AccountAbstraction.Auth.Privy
import AccountAbstraction.Bundler.Rpc

/-!
# Which Keycloak tokens the bundler accepts

`createAuthenticator` (`bundler/src/auth.js`): the token of the header, `jwtVerify`, the
authorized party and the required role. The functions of `jose` are inputs; the payload that
`jwtVerify` returns is an object with claims of any kind.

* `verifyRequest_accepts_iff`: on which tokens it decides as it should.
-/

namespace AccountAbstraction.Bundler

open Js

/-- The configuration of authentication (`bundler/src/index.js:103-110`). A setting that is
    empty is off. -/
structure KeycloakAuth where
  enabled : Bool
  issuer : String
  jwksUri : String
  clientId : String
  audience : String
  requiredRole : String

/-- The third argument of `jwtVerify`. -/
structure VerifyOptions where
  issuer : String
  audience : Option String
  algorithms : List String

/-- The payload of a token: its claims by their names. -/
abbrev Claims := List (String × Json)

/-- The functions of `jose`, with the URL that `createRemoteJWKSet` is given. -/
structure Jose (κ : Type) where
  createRemoteJWKSet : String → Except JsError κ
  jwtVerify : String → κ → VerifyOptions → Except JsError Claims

/-! ## The token of a request -/

/-- `req.headers["authorization"] || req.headers["Authorization"]`, where it is not empty. -/
def authorizationOf (headers : List (String × String)) : Option String :=
  (headers.lookup "authorization").filter (· ≠ "") <|>
    (headers.lookup "Authorization").filter (· ≠ "")

/-- `bearerToken(req)` (lines 6-11). -/
def bearerToken (headers : List (String × String)) : Option (List Char) :=
  (authorizationOf headers).bind fun header => (Auth.matchBearer (trim header.toList)).map trim

/-! ## Roles -/

/-- `v?.[key]` for a key of the configuration, as far as it is an own property of an object or
    an element of an array. -/
def member (v : Option Json) (key : String) : Option Json :=
  match v with
  | some (.arr items) => (items.zipIdx.find? fun item => toString item.2 == key).map Prod.fst
  | v => optProp v key

/-- The values that `tokenRoles` goes through (lines 37-40): `realm_access?.roles` and, with a
    client, `resource_access?.[clientId]?.roles`. -/
def rolePlaces (auth : KeycloakAuth) (payload : Claims) : List (Option Json) :=
  let realm := optProp (payload.lookup "realm_access") "roles"
  let client := optProp (member (payload.lookup "resource_access") auth.clientId) "roles"
  if auth.clientId ≠ "" then [realm, client] else [realm]

/-- What `for (const r of v || [])` goes through: the elements of an array or the characters
    of a text. The words of the error are the engine's. -/
def iterate (v : Option Json) : Except JsError (List Json) :=
  match v.filter Json.truthy with
  | none => .ok []
  | some (.arr items) => .ok items
  | some (.str text) => .ok (text.toList.map fun c => .str (String.singleton c))
  | some _ => .error { name := "TypeError", message := "roles is not iterable" }

/-- `tokenRoles(payload)` (lines 35-42). -/
def tokenRoles (auth : KeycloakAuth) (payload : Claims) : Except JsError (List Json) :=
  ((rolePlaces auth payload).mapM iterate).map List.flatten

/-! ## `verifyRequest` -/

/-- `new Error` of a text around `${v}`; the conversion may throw instead. -/
def errorAround (before : String) (v : Json) (after : String) : JsError :=
  match v.text? with
  | some text => { message := before ++ text ++ after }
  | none => { name := "TypeError", message := "Cannot convert object to primitive value" }

/-- The options that go to `jwtVerify` (lines 53-55). -/
def verifyOptions (auth : KeycloakAuth) : VerifyOptions where
  issuer := auth.issuer
  audience := if auth.audience ≠ "" then some auth.audience else none
  algorithms := ["RS256"]

/-- The check of the authorized party (lines 61-65). -/
def checkParty (auth : KeycloakAuth) (payload : Claims) : Except JsError Unit :=
  match (payload.lookup "azp").filter Json.truthy with
  | some azp =>
    if auth.clientId ≠ "" ∧ isText (some azp) auth.clientId = false then
      .error (errorAround "token azp '" azp s!"' is not the allowed client '{auth.clientId}'")
    else .ok ()
  | none => .ok ()

/-- The check of the required role (lines 67-70). -/
def checkRole (auth : KeycloakAuth) (payload : Claims) : Except JsError Unit :=
  if auth.requiredRole ≠ "" then do
    let roles ← tokenRoles auth payload
    if roles.any fun r => isText (some r) auth.requiredRole then .ok ()
    else .error { message := s!"token missing required role '{auth.requiredRole}'" }
  else .ok ()

variable {κ : Type}

/-- `verifyRequest(req)` (lines 44-73). -/
def verifyRequest (jose : Jose κ) (auth : KeycloakAuth) (jwks : κ) (headers : List (String × String)) :
    Except JsError Json :=
  match (bearerToken headers).filter (· ≠ []) with
  | none =>
    .error { message := "missing bearer token: send 'Authorization: Bearer <access_token>'" }
  | some token =>
    match jose.jwtVerify (String.ofList token) jwks (verifyOptions auth) with
    | .error err =>
      .error (errorAround "invalid token: " ((jsOr err.code none).getD (.str err.message)) "")
    | .ok payload => do
      checkParty auth payload
      checkRole auth payload
      return .obj payload

/-- `createAuthenticator(auth)` (lines 17-76). -/
def createAuthenticator (jose : Jose κ) (auth : KeycloakAuth) : Except JsError Authenticator :=
  if !auth.enabled then
    .ok { enabled := false, verifyRequest := fun _ => .error { message := "authentication is disabled" } }
  else if auth.issuer = "" then
    .error { message := "Keycloak auth enabled but issuer is missing" }
  else if auth.jwksUri = "" then
    .error { message := "Keycloak auth enabled but jwksUri is missing" }
  else do
    let jwks ← jose.createRemoteJWKSet auth.jwksUri
    return { enabled := true, verifyRequest := verifyRequest jose auth jwks }

/-! ## The tokens that should be accepted -/

/-- The header is the scheme, white space and a token on one line. -/
def Presents (headers : List (String × String)) (token : List Char) : Prop :=
  ∃ header, authorizationOf headers = some header ∧ Auth.Bears (trim header.toList) token ∧ token ≠ []

/-- With authentication on, the token of the request is one that `jwtVerify` accepts. -/
def Verified (jose : Jose κ) (auth : KeycloakAuth) (headers : List (String × String)) (payload : Claims) :
    Prop :=
  auth.enabled = true ∧ ∃ token jwks, Presents headers token ∧
    jose.createRemoteJWKSet auth.jwksUri = .ok jwks ∧
    jose.jwtVerify (String.ofList token) jwks (verifyOptions auth) = .ok payload

/-- The token was issued to the client, where one is configured. -/
def IssuedToClient (auth : KeycloakAuth) (payload : Claims) : Prop :=
  auth.clientId ≠ "" → payload.lookup "azp" = some (.str auth.clientId)

/-- A list of roles with this one. -/
def Lists (role : String) (roles : Option Json) : Prop := ∃ items, roles = some (.arr items) ∧ .str role ∈ items

/-- The required role, where one is configured, is among the roles of the realm or of the
    client. -/
def HasRole (auth : KeycloakAuth) (payload : Claims) : Prop :=
  auth.requiredRole ≠ "" → ∃ roles ∈ rolePlaces auth payload, Lists auth.requiredRole roles

/-- `verifyRequest` resolves with the payload of a verified token of the client with the role,
    and with nothing else. -/
def AcceptsOnly (jose : Jose κ) (auth : KeycloakAuth) (authenticator : Authenticator)
    (headers : List (String × String)) : Prop :=
  ∀ claims, authenticator.verifyRequest headers = .ok claims ↔
    ∃ payload, Verified jose auth headers payload ∧ claims = .obj payload ∧
      IssuedToClient auth payload ∧ HasRole auth payload

/-! ## The tokens on which the code decides otherwise -/

/-- A text that has the role as one of its characters. -/
def Spells (role : String) (roles : Option Json) : Prop :=
  ∃ text, roles = some (.str text) ∧ ∃ c ∈ text.toList, role = String.singleton c

/-- A number other than 0, `true` or an object. -/
def NotIterable (roles : Option Json) : Prop :=
  ∃ v, roles = some v ∧ v.truthy = true ∧ (∀ items, v ≠ .arr items) ∧ ∀ text, v ≠ .str text

/-- A client is configured, but the claim `azp` is missing, `null`, empty, 0 or `false`. -/
def NoParty (auth : KeycloakAuth) (payload : Claims) : Prop :=
  auth.clientId ≠ "" ∧ truthy (payload.lookup "azp") = false

/-- The required role is a character of a text in place of the roles, and in no list. -/
def RoleSpelled (auth : KeycloakAuth) (payload : Claims) : Prop :=
  auth.requiredRole ≠ "" ∧ (∃ roles ∈ rolePlaces auth payload, Spells auth.requiredRole roles) ∧
    ∀ roles ∈ rolePlaces auth payload, ¬Lists auth.requiredRole roles ∧ ¬NotIterable roles

/-- The required role is in one list, and the other place has a value that is no list. -/
def RoleHidden (auth : KeycloakAuth) (payload : Claims) : Prop :=
  auth.requiredRole ≠ "" ∧ (∃ roles ∈ rolePlaces auth payload, Lists auth.requiredRole roles) ∧
    ∃ roles ∈ rolePlaces auth payload, NotIterable roles

/-- The role is not what the token is refused for. -/
def RolePasses (auth : KeycloakAuth) (payload : Claims) : Prop :=
  (HasRole auth payload ∧ ¬RoleHidden auth payload) ∨ RoleSpelled auth payload

/-- The token of no party passes the check of the role, or the roles of a token of the client
    are not lists. -/
def Departs (auth : KeycloakAuth) (payload : Claims) : Prop :=
  (NoParty auth payload ∧ RolePasses auth payload) ∨
  (IssuedToClient auth payload ∧ (RoleSpelled auth payload ∨ RoleHidden auth payload))

/-! ## The checks of a payload -/

theorem iterate_cases (role : String) (v : Option Json) :
    (NotIterable v ∧ ∃ e, iterate v = .error e) ∨
    (¬NotIterable v ∧ ∃ items, iterate v = .ok items ∧ (.str role ∈ items ↔ Lists role v ∨ Spells role v)) := by
  unfold iterate
  cases h : v.filter Json.truthy with
  | none =>
    refine Or.inr ⟨?_, [], rfl, ?_⟩
    · rintro ⟨w, rfl, hw, -⟩
      rw [Option.filter_some_pos hw] at h
      cases h
    · simp only [List.not_mem_nil, false_iff, not_or]
      constructor
      · rintro ⟨items, rfl, -⟩
        cases h
      · rintro ⟨text, rfl, c, hc, -⟩
        have htext : text ≠ "" := by
          rintro rfl
          cases hc
        rw [Option.filter_some_pos (by simpa [Json.truthy] using htext)] at h
        cases h
  | some w =>
    obtain ⟨rfl, hw⟩ := Option.filter_eq_some_iff.mp h
    cases w with
    | arr items => exact Or.inr ⟨by simp [NotIterable], items, rfl, by simp [Lists, Spells]⟩
    | str text =>
      refine Or.inr ⟨by simp [NotIterable], _, rfl, ?_⟩
      simp [Lists, Spells, eq_comm]
    | _ => exact Or.inl ⟨⟨_, rfl, hw, by simp, by simp⟩, _, rfl⟩

theorem mapM_iterate_cases (role : String) (places : List (Option Json)) :
    ((∃ v ∈ places, NotIterable v) ∧ ∃ e, places.mapM iterate = .error e) ∨
    ((∀ v ∈ places, ¬NotIterable v) ∧ ∃ lists, places.mapM iterate = .ok lists ∧
      (.str role ∈ lists.flatten ↔ ∃ v ∈ places, Lists role v ∨ Spells role v)) := by
  induction places with
  | nil => exact Or.inr ⟨by simp, [], rfl, by simp⟩
  | cons v places ih =>
    rw [List.mapM_cons]
    obtain ⟨hv, e, he⟩ | ⟨hv, items, hitems, hmem⟩ := iterate_cases role v
    · refine Or.inl ⟨⟨v, List.mem_cons_self, hv⟩, e, ?_⟩
      rw [he]
      rfl
    rw [hitems, ok_bind]
    obtain ⟨⟨w, hw, hnot⟩, e, he⟩ | ⟨hall, lists, hlists, hrest⟩ := ih
    · refine Or.inl ⟨⟨w, List.mem_cons_of_mem _ hw, hnot⟩, e, ?_⟩
      rw [he]
      rfl
    · refine Or.inr ⟨List.forall_mem_cons.mpr ⟨hv, hall⟩, items :: lists, ?_, ?_⟩
      · rw [hlists]
        rfl
      · rw [List.flatten_cons, List.mem_append, hmem, hrest]
        simp only [List.mem_cons, exists_eq_or_imp]

theorem checkRole_eq_ok {auth : KeycloakAuth} {payload : Claims} :
    checkRole auth payload = .ok () ↔ RolePasses auth payload := by
  unfold checkRole RolePasses RoleHidden RoleSpelled HasRole
  by_cases hrole : auth.requiredRole = ""
  · simp [hrole]
  rw [if_pos hrole, tokenRoles]
  simp only [ne_eq, hrole, not_false_eq_true, forall_const, true_and]
  obtain ⟨⟨v, hv, hnot⟩, e, he⟩ | ⟨hall, lists, hlists, hmem⟩ :=
    mapM_iterate_cases auth.requiredRole (rolePlaces auth payload)
  · -- neither disjunct holds where a place cannot be gone through
    rw [he]
    refine iff_of_false (by rintro ⟨⟩) ?_
    rintro (⟨hlist, hhidden⟩ | ⟨-, hnone⟩)
    · exact hhidden ⟨hlist, v, hv, hnot⟩
    · exact (hnone v hv).2 hnot
  · have hany : (lists.flatten.any fun r => isText (some r) auth.requiredRole) = true ↔
        .str auth.requiredRole ∈ lists.flatten := by
      simp [List.any_eq_true, isText_iff]
    have hok : ((lists.flatten.any fun r => isText (some r) auth.requiredRole) = true) ↔
        ((∃ roles ∈ rolePlaces auth payload, Lists auth.requiredRole roles) ∨
          ∃ roles ∈ rolePlaces auth payload, Spells auth.requiredRole roles) := by
      rw [hany, hmem]
      simp only [and_or_left, exists_or]
    rw [hlists, Except.map, ok_bind]
    by_cases hc : (lists.flatten.any fun r => isText (some r) auth.requiredRole) = true
    · refine iff_of_true (if_pos hc) ?_
      by_cases hlist : ∃ roles ∈ rolePlaces auth payload, Lists auth.requiredRole roles
      · exact Or.inl ⟨hlist, fun ⟨_, v, hv, hnot⟩ => hall v hv hnot⟩
      · refine Or.inr ⟨(hok.mp hc).resolve_left hlist, fun v hv => ⟨fun hv' => ?_, hall v hv⟩⟩
        exact hlist ⟨v, hv, hv'⟩
    · refine iff_of_false (by rw [if_neg hc]; rintro ⟨⟩) fun h => hc (hok.mpr ?_)
      exact h.imp And.left And.left

theorem checkParty_eq_ok {auth : KeycloakAuth} {payload : Claims} :
    checkParty auth payload = .ok () ↔ IssuedToClient auth payload ∨ NoParty auth payload := by
  unfold checkParty IssuedToClient NoParty
  by_cases hclient : auth.clientId = ""
  · simp only [hclient, ne_eq, not_true_eq_false, false_and, if_false, IsEmpty.forall_iff, true_or, iff_true]
    split <;> rfl
  cases h : (payload.lookup "azp").filter Json.truthy with
  | none =>
    refine iff_of_true rfl (Or.inr ⟨hclient, ?_⟩)
    cases hazp : payload.lookup "azp" with
    | none => rfl
    | some azp => simpa [hazp, truthy] using h
  | some azp =>
    obtain ⟨hazp, htruthy⟩ := Option.filter_eq_some_iff.mp h
    have hparty : ¬truthy (some azp) = false := by simpa [truthy] using htruthy
    simp only [hazp, ne_eq, hclient, not_false_eq_true, true_and, forall_const, hparty]
    rw [← isText_iff]
    cases isText (some azp) auth.clientId with
    | true => simp
    | false => simp

/-! ## `verifyRequest` -/

theorem bearerToken_eq_some {headers : List (String × String)} {token : List Char} :
    (bearerToken headers).filter (· ≠ []) = some token ↔ Presents headers token := by
  unfold bearerToken Presents
  rw [Option.filter_eq_some_iff]
  simp only [← Auth.bearer_iff, Option.bind_eq_some_iff, Option.map_eq_some_iff, decide_eq_true_eq]
  constructor
  · rintro ⟨⟨header, hheader, hcapture⟩, hne⟩
    exact ⟨header, hheader, hcapture, hne⟩
  · rintro ⟨header, hheader, hcapture, hne⟩
    exact ⟨⟨header, hheader, hcapture⟩, hne⟩

variable {jose : Jose κ} {auth : KeycloakAuth} {headers : List (String × String)}

theorem verifyRequest_eq_ok {jwks : κ} {claims : Json} :
    verifyRequest jose auth jwks headers = .ok claims ↔
      ∃ token payload, Presents headers token ∧
        jose.jwtVerify (String.ofList token) jwks (verifyOptions auth) = .ok payload ∧
        claims = .obj payload ∧ (IssuedToClient auth payload ∨ NoParty auth payload) ∧
        RolePasses auth payload := by
  simp only [← bearerToken_eq_some]
  unfold verifyRequest
  cases (bearerToken headers).filter (· ≠ []) with
  | none => simp
  | some token =>
    simp only [Option.some.injEq, exists_and_left, exists_eq_left']
    cases jose.jwtVerify (String.ofList token) jwks (verifyOptions auth) with
    | error err => simp
    | ok payload =>
      constructor
      · intro h
        obtain ⟨_, hparty, h⟩ := bind_eq_ok.mp h
        obtain ⟨_, hrole, h⟩ := bind_eq_ok.mp h
        cases h
        exact ⟨payload, rfl, rfl, checkParty_eq_ok.mp hparty, checkRole_eq_ok.mp hrole⟩
      · rintro ⟨payload, ⟨⟩, rfl, hparty, hrole⟩
        show (do checkParty auth payload; checkRole auth payload; return Json.obj payload) = _
        rw [checkParty_eq_ok.mpr hparty, ok_bind, checkRole_eq_ok.mpr hrole]
        rfl

/-- What an authenticator accepts: a token of the client or of no party, whose role passes. -/
theorem authenticator_eq_ok {authenticator : Authenticator} {claims : Json}
    (h : createAuthenticator jose auth = .ok authenticator) :
    authenticator.verifyRequest headers = .ok claims ↔
      ∃ payload, Verified jose auth headers payload ∧ claims = .obj payload ∧
        (IssuedToClient auth payload ∨ NoParty auth payload) ∧ RolePasses auth payload := by
  unfold createAuthenticator at h
  split_ifs at h with henabled
  · cases h
    have hoff : auth.enabled = false := by simpa using henabled
    simp [Verified, hoff]
  · obtain ⟨jwks, hjwks, h⟩ := bind_eq_ok.mp h
    cases h
    have hon : auth.enabled = true := by simpa using henabled
    rw [verifyRequest_eq_ok]
    unfold Verified
    constructor
    · rintro ⟨token, payload, hpresents, hjwt, hclaims, hparty, hrole⟩
      exact ⟨payload, ⟨hon, token, jwks, hpresents, hjwks, hjwt⟩, hclaims, hparty, hrole⟩
    · rintro ⟨payload, ⟨-, token, jwks', hpresents, hjwks', hjwt⟩, hclaims, hparty, hrole⟩
      rw [hjwks] at hjwks'
      cases hjwks'
      exact ⟨token, payload, hpresents, hjwt, hclaims, hparty, hrole⟩

theorem not_issued_of_noParty {payload : Claims} (h : NoParty auth payload) : ¬IssuedToClient auth payload := by
  intro hissued
  have hfalsy := h.2
  rw [hissued h.1] at hfalsy
  exact h.1 (by simpa [truthy, Json.truthy] using hfalsy)

/-- An authenticator accepts the tokens that it should exactly on the requests whose verified
    token is none of those on which the code departs. -/
theorem verifyRequest_accepts_iff {authenticator : Authenticator}
    (h : createAuthenticator jose auth = .ok authenticator) (headers : List (String × String)) :
    AcceptsOnly jose auth authenticator headers ↔
      ¬∃ payload, Verified jose auth headers payload ∧ Departs auth payload := by
  unfold AcceptsOnly
  simp only [authenticator_eq_ok h]
  constructor
  · rintro hiff ⟨payload, hverified, ⟨hno, hrole⟩ | ⟨hissued, hspelled | hhidden⟩⟩
    · obtain ⟨_, -, ⟨⟩, hissued, -⟩ := (hiff _).mp ⟨payload, hverified, rfl, Or.inr hno, hrole⟩
      exact not_issued_of_noParty hno hissued
    · obtain ⟨_, -, ⟨⟩, -, hrole⟩ := (hiff _).mp ⟨payload, hverified, rfl, Or.inl hissued, Or.inr hspelled⟩
      obtain ⟨roles, hmem, hlists⟩ := hrole hspelled.1
      exact (hspelled.2.2 roles hmem).1 hlists
    · obtain ⟨_, -, ⟨⟩, -, hpasses⟩ :=
        (hiff _).mpr ⟨payload, hverified, rfl, hissued, fun _ => hhidden.2.1⟩
      obtain ⟨-, hnot⟩ | hspelled := hpasses
      · exact hnot hhidden
      · obtain ⟨roles, hmem, hlists⟩ := hhidden.2.1
        exact (hspelled.2.2 roles hmem).1 hlists
  · intro hnone claims
    refine exists_congr fun payload => and_congr_right fun hverified => and_congr_right fun _ => ?_
    have hdeparts : ¬Departs auth payload := fun hdeparts => hnone ⟨payload, hverified, hdeparts⟩
    constructor
    · rintro ⟨hissued | hno, hpasses⟩
      · refine ⟨hissued, ?_⟩
        obtain ⟨hrole, -⟩ | hspelled := hpasses
        · exact hrole
        · exact absurd (Or.inr ⟨hissued, Or.inl hspelled⟩) hdeparts
      · exact absurd (Or.inl ⟨hno, hpasses⟩) hdeparts
    · rintro ⟨hissued, hrole⟩
      refine ⟨Or.inl hissued, Or.inl ⟨hrole, fun hhidden => ?_⟩⟩
      exact hdeparts (Or.inr ⟨hissued, Or.inr hhidden⟩)

/-! ## Samples -/

/-- A bundler that takes writes from one client and one role only. -/
def sampleKeycloak : KeycloakAuth where
  enabled := true
  issuer := "https://auth.l-net.io/realms/naas-realm"
  jwksUri := "https://auth.l-net.io/realms/naas-realm/protocol/openid-connect/certs"
  clientId := "lnet-bundler"
  audience := ""
  requiredRole := "bundler-writer"

/-- One valid token, with this payload. -/
def sampleJose (payload : Claims) : Jose Unit where
  createRemoteJWKSet := fun _ => .ok ()
  jwtVerify := fun token _ _ =>
    if token = "e.e.e" then .ok payload
    else .error { code := some (.str "ERR_JWS_INVALID"), message := "Invalid Compact JWS" }

def sampleAuthenticator (payload : Claims) : Authenticator where
  enabled := true
  verifyRequest := verifyRequest (sampleJose payload) sampleKeycloak ()

theorem createAuthenticator_sample (payload : Claims) :
    createAuthenticator (sampleJose payload) sampleKeycloak = .ok (sampleAuthenticator payload) := rfl

def bearerHeaders : List (String × String) := [("authorization", "Bearer e.e.e")]

theorem presents_bearerHeaders : Presents bearerHeaders ['e', '.', 'e', '.', 'e'] :=
  bearerToken_eq_some.mp (by decide +kernel)

/-- A writer's token without the claim `azp`. -/
def writerClaims : Claims :=
  [("realm_access", .obj [("roles", .arr [.str "offline_access", .str "bundler-writer"])])]

/-- A writer's token of the client. -/
def clientClaims : Claims := ("azp", .str "lnet-bundler") :: writerClaims

theorem rolePlaces_writer (payload : Claims) (h : payload = writerClaims ∨ payload = clientClaims) :
    rolePlaces sampleKeycloak payload =
      [some (.arr [.str "offline_access", .str "bundler-writer"]), none] := by
  rcases h with rfl | rfl <;> rfl

theorem verified_eq {payload payload' : Claims}
    (h : Verified (sampleJose payload) sampleKeycloak bearerHeaders payload') : payload' = payload := by
  obtain ⟨-, token, jwks, -, -, h⟩ := h
  by_cases htoken : String.ofList token = "e.e.e"
  · exact (Except.ok.inj ((if_pos htoken).symm.trans h)).symm
  · cases (if_neg htoken).symm.trans h

/-- The token of the client is accepted as it should be. -/
theorem verifyRequest_accepts_sample :
    AcceptsOnly (sampleJose clientClaims) sampleKeycloak (sampleAuthenticator clientClaims) bearerHeaders := by
  refine (verifyRequest_accepts_iff (createAuthenticator_sample clientClaims) bearerHeaders).mpr ?_
  rintro ⟨payload, hverified, hdeparts⟩
  rw [verified_eq hverified] at hdeparts
  have hplaces := rolePlaces_writer clientClaims (Or.inr rfl)
  rcases hdeparts with ⟨⟨-, hno⟩, -⟩ | ⟨-, ⟨-, -, hnone⟩ | ⟨-, -, v, hv, w, rfl, htruthy, hnot, -⟩⟩
  · cases hno
  · rw [hplaces] at hnone
    exact (hnone _ List.mem_cons_self).1 ⟨_, rfl, by simp [sampleKeycloak]⟩
  · rw [hplaces] at hv
    simp only [List.mem_cons, Option.some.injEq, reduceCtorEq, List.not_mem_nil, or_false] at hv
    exact hnot _ hv

/-- A token that names no authorized party is accepted. -/
theorem noParty_accepted :
    (sampleAuthenticator writerClaims).verifyRequest bearerHeaders = .ok (.obj writerClaims) ∧
    ¬AcceptsOnly (sampleJose writerClaims) sampleKeycloak (sampleAuthenticator writerClaims) bearerHeaders := by
  have hok : (sampleAuthenticator writerClaims).verifyRequest bearerHeaders = .ok (.obj writerClaims) := by
    show verifyRequest (sampleJose writerClaims) sampleKeycloak () bearerHeaders = _
    refine verifyRequest_eq_ok.mpr ⟨_, writerClaims, presents_bearerHeaders, ?_, rfl, ?_, ?_⟩
    · have htoken : String.ofList ['e', '.', 'e', '.', 'e'] = "e.e.e" := rfl
      simp only [sampleJose, htoken, if_true]
    · exact Or.inr ⟨by decide, rfl⟩
    · exact checkRole_eq_ok.mp (by rfl)
  refine ⟨hok, fun h => ?_⟩
  obtain ⟨payload, -, ⟨⟩, hissued, -⟩ := (h _).mp hok
  cases hissued (by decide)

end AccountAbstraction.Bundler
