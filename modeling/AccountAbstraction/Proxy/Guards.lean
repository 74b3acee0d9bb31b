import AccountAbstraction.Js.BigInt
import AccountAbstraction.Js.Url

/-!
# The guards of the backend

`handleApi` of `server/api.mjs` answers a request only if it was addressed to this machine
(unless deployed) and if no foreign page sent it. `new URL` is a parameter: a function that
gives the authority of a text, if the text is a URL.

* `admitted_iff`: which requests come through. On this machine the comparison of the
  `Origin` with the `Host` admits nothing that the list of loopback names does not.
* `route_iff`: where a request goes, and that a refused one goes nowhere.
-/

namespace AccountAbstraction.Proxy

open Js

/-- `new URL(text)`. -/
abbrev ParseUrl := String → Option UrlHost

/-- The configuration that the guards read: `DEPLOYED` and `ALLOWED_ORIGINS`. -/
structure GuardConfig where
  deployed : Bool
  allowedOrigins : List String

/-- The headers that the guards read. -/
structure GuardHeaders where
  host : Option String := none
  forwardedHost : Option String := none
  origin : Option String := none
  secFetchSite : Option String := none

/-- `LOOPBACK_HOSTNAMES` (line 259). -/
def loopbackHostnames : List String := ["127.0.0.1", "localhost", "::1", "[::1]"]

/-- `requestHost` (lines 266-269). -/
def requestHost (config : GuardConfig) (headers : GuardHeaders) : Option String :=
  let entry := ((headers.forwardedHost.getD "").toList.takeWhile (· ≠ ','))
  let forwarded := if config.deployed then String.ofList (trim entry) else ""
  if forwarded ≠ "" then some forwarded else headers.host

/-- `hostnameOf` (lines 271-276) on the characters of a header. Without the closing bracket
    the slice is empty. -/
def hostnameChars : List Char → List Char
  | '[' :: cs => if ']' ∈ cs then '[' :: (cs.takeWhile (· ≠ ']') ++ [']']) else []
  | cs => cs.takeWhile (· ≠ ':')

def hostnameOf (hostHeader : Option String) : Option String :=
  (hostHeader.filter (· ≠ "")).map fun host => String.ofList (hostnameChars host.toList)

/-- `hostAllowed` (lines 285-288). -/
def hostAllowed (config : GuardConfig) (headers : GuardHeaders) : Bool :=
  config.deployed || (hostnameOf (requestHost config headers)).any loopbackHostnames.contains

/-- `originAllowed` (lines 290-303). -/
def originAllowed (parseUrl : ParseUrl) (config : GuardConfig) (headers : GuardHeaders) : Bool :=
  match headers.origin.filter (· ≠ "") with
  | none => true
  | some origin =>
    config.allowedOrigins.contains origin ||
      match parseUrl origin with
      | none => false
      | some url =>
        some url.host == requestHost config headers ||
          (!config.deployed && loopbackHostnames.contains url.hostname)

/-- `crossSite` (lines 306-308). -/
def crossSite (headers : GuardHeaders) : Bool := headers.secFetchSite == some "cross-site"

/-- Where `handleApi` sends a request (lines 602-668). -/
inductive Route
  /-- Not a path of this backend: `next()`, or 404. -/
  | elsewhere
  /-- 421. -/
  | misdirected
  /-- 403. -/
  | forbidden
  | preflight
  | health
  | session
  | bundler
  | history
  /-- 410. -/
  | token
  | notFound
deriving DecidableEq, Repr

/-- The routes behind the guards (lines 620-667). -/
def handlerOf (method path : String) : Route :=
  if method = "OPTIONS" then .preflight
  else if method = "GET" ∧ path = "/api/health" then .health
  else if path = "/api/session" then .session
  else if path = "/api/bundler" then .bundler
  else if path = "/api/history" then .history
  else if path = "/api/token" then .token
  else .notFound

/-- `(req.url || "").split("?")[0]` (line 603). -/
def pathOf (url : String) : String := String.ofList (url.toList.takeWhile (· ≠ '?'))

def route (parseUrl : ParseUrl) (config : GuardConfig) (headers : GuardHeaders)
    (method url : String) : Route :=
  if !(pathOf url).startsWith "/api" then .elsewhere
  else if !hostAllowed config headers then .misdirected
  else if crossSite headers || !originAllowed parseUrl config headers then .forbidden
  else handlerOf method (pathOf url)

/-! ## Who comes through -/

/-- The page that sent the request, if one did: it stands on the allow-list, or it is served
    under the name that the request was addressed to, which on this machine is a name of
    this machine. -/
def TrustedPage (parseUrl : ParseUrl) (config : GuardConfig) (headers : GuardHeaders) : Prop :=
  ∀ origin, headers.origin = some origin → origin ≠ "" → origin ∈ config.allowedOrigins ∨
    ∃ url, parseUrl origin = some url ∧
      if config.deployed then requestHost config headers = some url.host
      else url.hostname ∈ loopbackHostnames

/-- A request that passes the guards. -/
structure Admitted (parseUrl : ParseUrl) (config : GuardConfig) (headers : GuardHeaders) : Prop where
  host : config.deployed = false →
    ∃ name ∈ loopbackHostnames, hostnameOf headers.host = some name
  sameSite : headers.secFetchSite ≠ some "cross-site"
  page : TrustedPage parseUrl config headers

variable {parseUrl : ParseUrl} {config : GuardConfig} {headers : GuardHeaders}

/-- The host name in front of a port, or of nothing. -/
theorem hostnameChars_append {hostname rest : List Char} (h : IsHostname hostname)
    (hrest : ∀ c ∈ rest.head?, c = ':') : hostnameChars (hostname ++ rest) = hostname := by
  rcases h with ⟨hcolon, hbracket⟩ | ⟨address, rfl, haddress⟩
  · have htake : (hostname ++ rest).takeWhile (· ≠ ':') = hostname := by
      rw [List.takeWhile_append_of_pos fun c hc => by simpa using ne_of_mem_of_not_mem hc hcolon]
      cases rest with
      | nil => simp
      | cons c rest => simp [hrest c (by simp)]
    unfold hostnameChars
    split
    · rename_i cs hcs
      cases hostname with
      | nil =>
        rw [List.nil_append] at hcs
        have hc := hrest '[' (by rw [hcs]; rfl)
        simp at hc
      | cons c hostname =>
        cases hcs
        simp at hbracket
    · exact htake
  · have htake : (address ++ ']' :: rest).takeWhile (· ≠ ']') = address := by
      rw [List.takeWhile_append_of_pos fun c hc => by simpa using ne_of_mem_of_not_mem hc haddress]
      simp
    show hostnameChars ('[' :: (address ++ [']'] ++ rest)) = '[' :: (address ++ [']'])
    rw [List.append_assoc, List.singleton_append, hostnameChars, if_pos (by simp), htake]

/-- The name that a request was addressed to is the name in the URL of its authority. -/
theorem hostnameOf_host {url : UrlHost} (hne : url.host ≠ "") :
    hostnameOf (some url.host) = some url.hostname := by
  have hchars : hostnameChars url.host.toList = url.hostname.toList := by
    unfold UrlHost.host
    cases url.port with
    | none =>
      have h : hostnameChars (url.hostname.toList ++ []) = url.hostname.toList :=
        hostnameChars_append url.wellFormed (by simp)
      rwa [List.append_nil] at h
    | some port =>
      simp only [String.toList_append, List.append_assoc]
      exact hostnameChars_append url.wellFormed (by simp)
  rw [hostnameOf, Option.filter_some_pos (by simpa using hne), Option.map_some, hchars,
    String.ofList_toList]

theorem requestHost_local (h : config.deployed = false) : requestHost config headers = headers.host := by
  simp [requestHost, h]

theorem hostAllowed_iff : hostAllowed config headers = true ↔
    (config.deployed = false → ∃ name ∈ loopbackHostnames, hostnameOf headers.host = some name) := by
  cases h : config.deployed with
  | true => simp [hostAllowed, h]
  | false =>
    rw [hostAllowed, h, requestHost_local h, Bool.false_or, Option.any_eq_true]
    simp only [List.contains_iff_mem, true_imp_iff]
    exact ⟨fun ⟨name, hname, hmem⟩ => ⟨name, hmem, hname⟩, fun ⟨name, hmem, hname⟩ => ⟨name, hname, hmem⟩⟩

/-- What the guard asks of the origin, once the host is allowed. -/
theorem originAllowed_iff (hhost : hostAllowed config headers = true) :
    originAllowed parseUrl config headers = true ↔ TrustedPage parseUrl config headers := by
  unfold originAllowed TrustedPage
  cases horigin : headers.origin with
  | none => simp
  | some origin =>
    by_cases hempty : origin = ""
    · simp [hempty, Option.filter]
    · rw [Option.filter_some_pos (by simpa using hempty)]
      simp only [Bool.or_eq_true, List.contains_iff_mem, Option.some.injEq, forall_eq', hempty,
        ne_eq, not_false_eq_true, true_imp_iff]
      refine or_congr_right ?_
      cases hurl : parseUrl origin with
      | none => simp
      | some url =>
        simp only [Bool.or_eq_true, beq_iff_eq, Bool.and_eq_true, Bool.not_eq_true',
          List.contains_iff_mem, Option.some.injEq, exists_eq_left']
        cases hdeployed : config.deployed with
        | true =>
          simp only [Bool.true_eq_false, false_and, or_false, if_true]
          exact eq_comm
        | false =>
          simp only [true_and, Bool.false_eq_true, if_false]
          refine ⟨?_, Or.inr⟩
          rintro (hsame | hloopback)
          · -- the page is served under the name in the `Host`, which the host check has seen
            obtain ⟨name, hname, hhostname⟩ := hostAllowed_iff.mp hhost hdeployed
            rw [requestHost_local hdeployed] at hsame
            rw [← hsame] at hhostname
            have hne : url.host ≠ "" := by
              intro h
              simp [hostnameOf, h] at hhostname
            rw [hostnameOf_host hne] at hhostname
            cases hhostname
            exact hname
          · exact hloopback

theorem admitted_iff : (hostAllowed config headers && !crossSite headers &&
    originAllowed parseUrl config headers) = true ↔ Admitted parseUrl config headers := by
  simp only [Bool.and_eq_true, Bool.not_eq_true', and_assoc]
  have hcross : crossSite headers = false ↔ headers.secFetchSite ≠ some "cross-site" := by
    simp [crossSite]
  constructor
  · rintro ⟨hhost, hsite, horigin⟩
    exact ⟨hostAllowed_iff.mp hhost, hcross.mp hsite, (originAllowed_iff hhost).mp horigin⟩
  · intro h
    have hhost := hostAllowed_iff.mpr h.host
    exact ⟨hhost, hcross.mpr h.sameSite, (originAllowed_iff hhost).mpr h.page⟩

/-- The routes of refused requests. -/
def Route.refused : Route → Bool
  | .elsewhere => true
  | .misdirected => true
  | .forbidden => true
  | _ => false

theorem handlerOf_not_refused (method path : String) : (handlerOf method path).refused = false := by
  unfold handlerOf
  split_ifs <;> rfl

theorem admitted_of_route {method url : String} {r : Route}
    (h : route parseUrl config headers method url = r) (hr : r.refused = false) :
    Admitted parseUrl config headers ∧ handlerOf method (pathOf url) = r := by
  unfold route at h
  split_ifs at h with _ hhost hpage
  · subst h
    simp [Route.refused] at hr
  · subst h
    simp [Route.refused] at hr
  · subst h
    simp [Route.refused] at hr
  · refine ⟨admitted_iff.mp ?_, h⟩
    simp only [Bool.or_eq_true, Bool.not_eq_true', not_or, Bool.not_eq_true, Bool.not_eq_false] at hhost hpage
    simp [hhost, hpage]

theorem handlerOf_session {method path : String} (h : handlerOf method path = .session) :
    path = "/api/session" := by
  unfold handlerOf at h
  split_ifs at h
  assumption

theorem handlerOf_bundler {method path : String} (h : handlerOf method path = .bundler) :
    path = "/api/bundler" := by
  unfold handlerOf at h
  split_ifs at h
  assumption

/-- A request comes to a handler exactly if its path is one of the backend's, it was
    addressed to this machine unless deployed, and no foreign page sent it. -/
theorem route_iff (parseUrl : ParseUrl) (config : GuardConfig) (headers : GuardHeaders)
    (method url : String) :
    ((route parseUrl config headers method url).refused = false ↔
      (pathOf url).startsWith "/api" = true ∧ Admitted parseUrl config headers) ∧
    ((route parseUrl config headers method url).refused = false →
      route parseUrl config headers method url = handlerOf method (pathOf url)) := by
  unfold route
  by_cases hpath : (pathOf url).startsWith "/api" = true
  · by_cases hhost : hostAllowed config headers = true
    · by_cases hpage : (crossSite headers || !originAllowed parseUrl config headers) = true
      · have hnot : ¬Admitted parseUrl config headers := by
          rw [← admitted_iff]
          simp only [Bool.or_eq_true, Bool.not_eq_true'] at hpage
          rcases hpage with h | h <;> simp [h]
        simp [hpath, hhost, hpage, Route.refused, hnot]
      · have hadmitted : Admitted parseUrl config headers := by
          rw [← admitted_iff]
          simp only [Bool.or_eq_true, Bool.not_eq_true', not_or, Bool.not_eq_true,
            Bool.not_eq_false] at hpage
          simp [hhost, hpage]
        simp [hpath, hhost, hpage, handlerOf_not_refused, hadmitted]
    · have hnot : ¬Admitted parseUrl config headers := fun h => hhost (hostAllowed_iff.mpr h.host)
      simp [hpath, hhost, Route.refused, hnot]
  · simp [hpath, Route.refused]

end AccountAbstraction.Proxy
