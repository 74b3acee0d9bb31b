import AccountAbstraction.Js.Number
import AccountAbstraction.Js.Url
import AccountAbstraction.Proxy.HandleBundler
import AccountAbstraction.Proxy.WriteLog

/-!
# The route `/api/history`

`handleHistory` (`examples/privy-google-aa/server/api.mjs:559-590`), which shows the newest
rows of the write log. The number of rows comes from the query of the request or from
`USEROP_LOG_LIMIT`, goes through two bounds and is bound to the `LIMIT` of two queries, one
before and one after the receipts of pending writes are asked for. What happens to the log
while the handler waits is an input.

* `handleHistory_answers_iff`: a page is shown unless the number is a fraction between the
  bounds.
-/

namespace AccountAbstraction.Proxy

open Js WriteLog

/-! ## The number of rows -/

/-- `Math.max(k, x)` for an `x` other than `NaN`. -/
def atLeast (k : ℤ) (x : JsNumber) : JsNumber := if x.exceeds k then x else .int k

/-- `Math.min(k, x)` for an `x` other than `NaN`. -/
def atMost (k : ℤ) (x : JsNumber) : JsNumber := if x.exceeds k then .int k else x

/-- `Number.isFinite(x)`. -/
def isFinite (x : JsNumber) : Bool := x.text != "Infinity" && x.text != "-Infinity"

/-- `Number(USEROP_LOG_LIMIT)`, with the default of the setting (line 89). -/
def configuredLimit (userOpLogLimit : Option String) : Option JsNumber :=
  numberOfText (userOpLogLimit.getD "10")

/-- `HISTORY_LIMIT` (line 133). -/
def historyLimit (userOpLogLimit : Option String) : JsNumber :=
  atLeast 1 (((configuredLimit userOpLogLimit).filter (· ≠ .int 0)).getD (.int 10))

/-- `requested` (line 571): the number of the parameter `limit`, or `none` for `NaN`. -/
def requestedLimit (url : String) : Option JsNumber :=
  (searchParam url "limit").elim (some (.int 0)) numberOfText

/-- `requested` where it is finite and positive. -/
def usableLimit (url : String) : Option JsNumber :=
  (requestedLimit url).filter fun requested => isFinite requested && requested.exceeds 0

/-- `limit` (line 572). -/
def limitOf (userOpLogLimit : Option String) (url : String) : JsNumber :=
  atMost 100 (atLeast 1 ((usableLimit url).getD (historyLimit userOpLogLimit)))

/-- The parameter of a `LIMIT ?`. The database takes an integer only. -/
def sqlLimit (limit : JsNumber) : Except JsError ℤ :=
  match limit.integer? with
  | some n => .ok n
  | none => .error (sqliteError "datatype mismatch")

/-! ## The log -/

/-- `userOpLog()` (lines 171-192): a log on an open file, or `disabledLog(reason)`. -/
inductive HistoryLog
  | opened (store : Store)
  | disabled (reason : String)

def HistoryLog.rows : HistoryLog → List Row
  | .opened store => store.rows
  | .disabled _ => []

/-- `store.unavailable ?? null`. -/
def HistoryLog.unavailable : HistoryLog → Option String
  | .opened _ => none
  | .disabled reason => some reason

/-- The requests of `settlePending(limit)`. -/
def HistoryLog.settlePending (limit : JsNumber) : HistoryLog → Except JsError (List (ℕ × Json))
  | .opened store => do store.settlePending (← sqlLimit limit)
  | .disabled _ => .ok []

/-- `recent(limit)`. -/
def HistoryLog.recent (limit : JsNumber) : HistoryLog → Except JsError (List HistoryEntry)
  | .opened store => do store.recent (← sqlLimit limit)
  | .disabled _ => .ok []

/-- The log after calls of `record` and `settle`. -/
def HistoryLog.after (calls : List Call) : HistoryLog → HistoryLog
  | .opened store => .opened (store.after calls)
  | .disabled reason => .disabled reason

/-! ## The handler -/

/-- The configuration of the process. -/
structure HistoryEnv extends ProxyEnv where
  userOpLogLimit : Option String
  historyDbPath : String
  deployed : Bool

/-- A request as `handleHistory` reads it. The path of its URL is `/api/history`. -/
structure HistoryRequest extends ProxyRequest where
  url : String

/-- The page (lines 579-587). -/
structure HistoryPage where
  entries : List HistoryEntry
  db : String
  unavailable : Option String
  ephemeral : Bool

structure HistoryReply where
  status : ℕ
  headers : List (String × String)
  body : ReplyBody ⊕ HistoryPage

/-- What one request does: the receipts that it asks for, each with the row that the answer
    settles, and the reply. -/
structure HistoryRun where
  asked : List (ℕ × Json) := []
  outcome : Except JsError HistoryReply

section Handler

variable (env : HistoryEnv) (req : HistoryRequest) (log : HistoryLog)

/-- `json(res, status, { error }, req)`. -/
def historyError (status : ℕ) (error : String) : HistoryReply where
  status := status
  headers := (errorReply env.toProxyEnv req.toProxyRequest status error).headers
  body := .inl (errorReply env.toProxyEnv req.toProxyRequest status error).body

/-- `json(res, 200, page, req)`. -/
def pageReply (page : HistoryPage) : HistoryReply where
  status := 200
  headers := [("content-type", "application/json"), ("cache-control", "no-store")] ++
    corsHeaders env.toProxyEnv req.origin
  body := .inr page

/-- The page with these entries. -/
def pageOf (entries : List HistoryEntry) : HistoryPage where
  entries := entries
  db := env.historyDbPath
  unavailable := log.unavailable
  ephemeral := env.deployed && env.historyDbPath.startsWith "/tmp/"

/-- `handleHistory(req, res)`. The `calls` are those that the log gets, from this request and
    from others, until the receipts are there. -/
def handleHistory (calls : List Call) : HistoryRun :=
  if req.method ≠ "GET" then { outcome := .ok (historyError env req 405 "use GET") }
  else if req.session.isNone then
    { outcome := .ok (historyError env req 401 "no session — POST /api/session first") }
  else
    let limit := limitOf env.userOpLogLimit req.url
    match log.settlePending limit with
    | .error err => { outcome := .error err }
    | .ok asked =>
      { asked := asked
        outcome := ((log.after calls).recent limit).map fun entries =>
          pageReply env req (pageOf env log entries) }

/-- The reply that leaves the server: an error of the handler is answered with 500. -/
def historyRoute (calls : List Call) : HistoryReply :=
  match (handleHistory env req log calls).outcome with
  | .ok reply => reply
  | .error _ => historyError env req 500 "internal error"

end Handler

/-! ## What a request should get -/

/-- Whatever happens meanwhile, the reply is a page with the newest `n` rows of the log. -/
def ShowsNewest (env : HistoryEnv) (req : HistoryRequest) (log : HistoryLog) (n : ℕ) : Prop :=
  ∀ calls, ∃ shown, IsNewest (·.id) n (log.after calls).rows shown ∧
    shown.length = min n (log.after calls).rows.length ∧
    historyRoute env req log calls = pageReply env req (pageOf env log (shown.map toEntry))

/-- The request is answered with a page of at most 100 rows. -/
def Answers (env : HistoryEnv) (req : HistoryRequest) (log : HistoryLog) : Prop :=
  ∃ n, 1 ≤ n ∧ n ≤ 100 ∧ ShowsNewest env req log n

/-- A fraction between 1 and 100. -/
def Fractional (x : JsNumber) : Prop := x.integer? = none ∧ x.exceeds 1 = true ∧ x.exceeds 100 = false

/-- The number that counts is a fraction between 1 and 100: the one of the query where that is
    finite and positive, the one of the setting otherwise. -/
def FractionalLimit (userOpLogLimit : Option String) (url : String) : Prop :=
  (∃ x, usableLimit url = some x ∧ Fractional x) ∨
  (usableLimit url = none ∧ ∃ x, configuredLimit userOpLogLimit = some x ∧ Fractional x)

/-! ## The bounds -/

theorem not_fractional_int (n : ℤ) : ¬Fractional (.int n) := by
  rintro ⟨h, -⟩
  cases h

theorem exceeds_of_integer? {x : JsNumber} {n : ℤ} (h : x.integer? = some n) (k : ℤ) :
    x.exceeds k = decide (k < n) := by
  cases x with
  | nonint text => cases h
  | _ => cases h; rfl

/-- The lower bound makes no fraction and hides none. -/
theorem fractional_atLeast (x : JsNumber) : Fractional (atLeast 1 x) ↔ Fractional x := by
  unfold atLeast
  by_cases hx : x.exceeds 1 = true
  · rw [if_pos hx]
  · rw [if_neg hx]
    exact iff_of_false (not_fractional_int 1) fun h => hx h.2.1

/-- Between the bounds a number is an integer or the fraction that it was. -/
theorem bounded_cases (x : JsNumber) :
    (Fractional x ∧ (atMost 100 (atLeast 1 x)).integer? = none) ∨
    (¬Fractional x ∧ ∃ n : ℕ, 1 ≤ n ∧ n ≤ 100 ∧ (atMost 100 (atLeast 1 x)).integer? = some (n : ℤ)) := by
  by_cases hlow : x.exceeds 1 = true
  · have hatLeast : atLeast 1 x = x := if_pos hlow
    by_cases hhigh : x.exceeds 100 = true
    · refine Or.inr ⟨fun h => ?_, 100, by omega, le_refl _, ?_⟩
      · rw [h.2.2] at hhigh
        cases hhigh
      · rw [hatLeast, atMost, if_pos hhigh]
        rfl
    · have hatMost : atMost 100 x = x := if_neg hhigh
      rw [hatLeast, hatMost]
      cases hx : x.integer? with
      | none => exact Or.inl ⟨⟨hx, hlow, by simpa using hhigh⟩, rfl⟩
      | some n =>
        rw [exceeds_of_integer? hx, decide_eq_true_eq] at hlow hhigh
        refine Or.inr ⟨fun h => ?_, n.toNat, by omega, by omega, ?_⟩
        · rw [h.1] at hx
          cases hx
        · rw [Int.toNat_of_nonneg (by omega)]
  · refine Or.inr ⟨fun h => hlow h.2.1, 1, le_refl _, by omega, ?_⟩
    rw [atLeast, if_neg hlow]
    rfl

/-- The default is a fraction only where the setting is one. -/
theorem fractional_historyLimit (userOpLogLimit : Option String) :
    Fractional (historyLimit userOpLogLimit) ↔
      ∃ x, configuredLimit userOpLogLimit = some x ∧ Fractional x := by
  rw [historyLimit, fractional_atLeast]
  cases h : configuredLimit userOpLogLimit with
  | none => simpa using not_fractional_int 10
  | some x =>
    by_cases hx : x = .int 0
    · subst hx
      rw [Option.filter_some_neg (by simp)]
      simpa using iff_of_false (not_fractional_int 10) (not_fractional_int 0)
    · rw [Option.filter_some_pos (by simpa using hx)]
      simp

/-- The number of rows is an integer unless the number that counts is a fraction. -/
theorem limitOf_cases (userOpLogLimit : Option String) (url : String) :
    (FractionalLimit userOpLogLimit url ∧ (limitOf userOpLogLimit url).integer? = none) ∨
    (¬FractionalLimit userOpLogLimit url ∧
      ∃ n : ℕ, 1 ≤ n ∧ n ≤ 100 ∧ (limitOf userOpLogLimit url).integer? = some (n : ℤ)) := by
  have hiff : FractionalLimit userOpLogLimit url ↔
      Fractional ((usableLimit url).getD (historyLimit userOpLogLimit)) := by
    unfold FractionalLimit
    cases usableLimit url with
    | none => simp [fractional_historyLimit]
    | some x => simp
  rw [hiff]
  exact bounded_cases _

/-! ## The queries -/

variable {env : HistoryEnv} {req : HistoryRequest}

theorem handleHistory_of_session (hmethod : req.method = "GET") (hsession : req.session.isSome)
    (log : HistoryLog) (calls : List Call) :
    handleHistory env req log calls =
      match log.settlePending (limitOf env.userOpLogLimit req.url) with
      | .error err => { outcome := .error err }
      | .ok asked =>
        { asked := asked
          outcome := ((log.after calls).recent (limitOf env.userOpLogLimit req.url)).map fun entries =>
            pageReply env req (pageOf env log entries) } := by
  have hsome : ¬req.session.isNone = true := by
    rw [Option.isNone_iff_eq_none]
    exact Option.isSome_iff_ne_none.mp hsession
  rw [handleHistory, if_neg (not_not.mpr hmethod), if_neg hsome]

/-- A fraction between the bounds is answered with 500, whatever the log holds. -/
theorem historyRoute_fractional (hmethod : req.method = "GET") (hsession : req.session.isSome)
    (h : FractionalLimit env.userOpLogLimit req.url) (store : Store) (calls : List Call) :
    historyRoute env req (.opened store) calls = historyError env req 500 "internal error" := by
  have hlimit := (limitOf_cases env.userOpLogLimit req.url).resolve_right fun hnot => hnot.1 h
  have hpending : (HistoryLog.opened store).settlePending (limitOf env.userOpLogLimit req.url) =
      .error (sqliteError "datatype mismatch") := by
    show (sqlLimit _ >>= fun n => store.settlePending n) = _
    rw [sqlLimit, hlimit.2]
    rfl
  rw [historyRoute, handleHistory_of_session hmethod hsession, hpending]

/-- The rows that a query with the limit `n` gives. -/
theorem newest_spec (store : Store) (n : ℕ) :
    IsNewest (·.id) n store.rows (newest (·.id) n store.rows) ∧
      (newest (·.id) n store.rows).length = min n store.rows.length := by
  refine ⟨isNewest_newest store.nodup n, ?_⟩
  rw [newest, List.length_take, (sortDesc_perm _ _).length_eq]

theorem sqlLimit_of_integer {limit : JsNumber} {n : ℤ} (h : limit.integer? = some n) :
    sqlLimit limit = .ok n := by
  rw [sqlLimit, h]

/-- A query takes a limit between 1 and 100. -/
theorem selectNewest_of_le {n : ℕ} (hpos : 1 ≤ n) (hle : n ≤ 100) (rows : List Row) :
    selectNewest rows n = .ok (newest (·.id) n rows) := by
  rw [selectNewest_of_pos (by omega) (by omega), Int.toNat_natCast]

theorem recent_eq {limit : JsNumber} {n : ℕ} (h : limit.integer? = some (n : ℤ)) (hpos : 1 ≤ n) (hle : n ≤ 100)
    (store : Store) :
    (HistoryLog.opened store).recent limit = .ok ((newest (·.id) n store.rows).map toEntry) := by
  rw [HistoryLog.recent, sqlLimit_of_integer h, ok_bind, Store.recent, selectNewest_of_le hpos hle]
  rfl

theorem settlePending_eq {limit : JsNumber} {n : ℕ} (h : limit.integer? = some (n : ℤ)) (hpos : 1 ≤ n)
    (hle : n ≤ 100) (store : Store) :
    ∃ asked, (HistoryLog.opened store).settlePending limit = .ok asked := by
  rw [HistoryLog.settlePending, sqlLimit_of_integer h, ok_bind, Store.settlePending, Store.pending,
    selectNewest_of_le hpos hle]
  exact ⟨_, rfl⟩

theorem showsNewest_opened (hmethod : req.method = "GET") (hsession : req.session.isSome) {n : ℕ}
    (hpos : 1 ≤ n) (hle : n ≤ 100) (h : (limitOf env.userOpLogLimit req.url).integer? = some (n : ℤ))
    (store : Store) : ShowsNewest env req (.opened store) n := by
  intro calls
  obtain ⟨hnewest, hlength⟩ := newest_spec (store.after calls) n
  refine ⟨_, hnewest, hlength, ?_⟩
  obtain ⟨asked, hasked⟩ := settlePending_eq h hpos hle store
  rw [historyRoute, handleHistory_of_session hmethod hsession, hasked, HistoryLog.after,
    recent_eq h hpos hle]
  rfl

theorem showsNewest_disabled (hmethod : req.method = "GET") (hsession : req.session.isSome) (n : ℕ)
    (reason : String) : ShowsNewest env req (.disabled reason) n := by
  intro calls
  refine ⟨[], ?_, (min_eq_right (Nat.zero_le n)).symm, ?_⟩
  · exact ⟨List.Pairwise.nil, by simp, Nat.zero_le n, fun a ha => by cases ha⟩
  · rw [historyRoute, handleHistory_of_session hmethod hsession]
    rfl

/-- With a valid session, `GET /api/history` shows the newest rows exactly where the log could
    not be opened or the number of rows is no fraction between the bounds. -/
theorem handleHistory_answers_iff (hmethod : req.method = "GET") (hsession : req.session.isSome)
    (log : HistoryLog) :
    Answers env req log ↔
      (∃ reason, log = .disabled reason) ∨ ¬FractionalLimit env.userOpLogLimit req.url := by
  cases log with
  | disabled reason =>
    refine iff_of_true ⟨1, le_refl _, by omega, ?_⟩ (Or.inl ⟨reason, rfl⟩)
    exact showsNewest_disabled hmethod hsession 1 reason
  | opened store =>
    constructor
    · rintro ⟨n, -, -, h⟩
      refine Or.inr fun hrefused => ?_
      obtain ⟨shown, -, -, hreply⟩ := h []
      rw [historyRoute_fractional hmethod hsession hrefused] at hreply
      cases congrArg HistoryReply.status hreply
    · intro h
      have hnot : ¬FractionalLimit env.userOpLogLimit req.url := h.resolve_left fun ⟨_, hlog⟩ => by cases hlog
      obtain ⟨hrefused, -⟩ | ⟨-, n, hpos, hle, hlimit⟩ := limitOf_cases env.userOpLogLimit req.url
      · exact absurd hrefused hnot
      · exact ⟨n, hpos, hle, showsNewest_opened hmethod hsession hpos hle hlimit store⟩

/-! ## Samples -/

/-- A local server with the default setting. -/
def sampleHistory : HistoryEnv where
  policy := { entryPoint := "" }
  bundlerUrl := "https://bundler.l-net.io"
  allowedOrigins := []
  fetch := fun _ => .error { message := "fetch failed" }
  record := fun _ => .ok ()
  userOpLogLimit := none
  historyDbPath := "userops.db"
  deployed := false

/-- A request for this many rows. -/
def limitRequest (limit : String) : HistoryRequest where
  method := "GET"
  origin := none
  session := some { accessToken := "t", sub := "did:privy:1" }
  body := .error { message := "" }
  url := encodedUrl "/api/history" "limit" limit

/-- Every text reaches the server, as the number that it is to the language. -/
theorem requestedLimit_limitRequest (limit : String) :
    requestedLimit (limitRequest limit).url = numberOfText limit := by
  have hall : ("/api/history" : String).toList.all (fun c => c != '?' && c != '#') = true := rfl
  have hpath : ∀ c ∈ ("/api/history" : String).toList, c ≠ '?' ∧ c ≠ '#' := by
    intro c hc
    simpa using List.all_eq_true.mp hall c hc
  rw [requestedLimit, limitRequest, searchParam_percentEncode hpath]
  rfl

theorem usableLimit_limitRequest {limit : String} {x : JsNumber} (h : numberOfText limit = some x)
    (hfinite : isFinite x = true) (hpos : x.exceeds 0 = true) :
    usableLimit (limitRequest limit).url = some x := by
  rw [usableLimit, requestedLimit_limitRequest, h, Option.filter_some_pos (by rw [hfinite, hpos]; rfl)]

def sentRow : Row where
  id := 1
  createdAt := 0
  userSub := some "did:privy:test-user"
  status := "sent"
  method := some "eth_sendUserOperation"
  userOpHash := some "0x00"
  sender := none
  target := none
  owner := none
  innerCall := none
  storedValue := none
  httpStatus := some 200
  error := none

def threeRows : Store := ((Store.empty.insert sentRow).insert sentRow).insert sentRow

/-- Two of three rows are asked for in scientific notation. -/
theorem handleHistory_answers_sample :
    Answers sampleHistory (limitRequest "0.2e1") (.opened threeRows) := by
  have husable : usableLimit (limitRequest "0.2e1").url = some (.int 2) :=
    usableLimit_limitRequest (by decide +kernel) (by decide +kernel) rfl
  refine (handleHistory_answers_iff rfl rfl _).mpr (Or.inr ?_)
  rintro (⟨x, hx, hfraction⟩ | ⟨hnone, -⟩)
  · rw [husable] at hx
    cases hx
    exact not_fractional_int 2 hfraction
  · rw [husable] at hnone
    cases hnone

/-- One and a half rows are asked for: no row is shown, and the reply is 500. -/
theorem fractional_limit :
    ¬Answers sampleHistory (limitRequest "1.5") (.opened Store.empty) ∧
    ∀ store calls, historyRoute sampleHistory (limitRequest "1.5") (.opened store) calls =
      historyError sampleHistory (limitRequest "1.5") 500 "internal error" := by
  have husable : usableLimit (limitRequest "1.5").url = some (.nonint "1.5") :=
    usableLimit_limitRequest (by decide +kernel) (by decide +kernel) (by decide +kernel)
  have hfraction : FractionalLimit sampleHistory.userOpLogLimit (limitRequest "1.5").url :=
    Or.inl ⟨_, husable, rfl, by decide +kernel, by decide +kernel⟩
  have hroute : ∀ store calls, historyRoute sampleHistory (limitRequest "1.5") (.opened store) calls =
      historyError sampleHistory (limitRequest "1.5") 500 "internal error" :=
    historyRoute_fractional rfl rfl hfraction
  refine ⟨?_, hroute⟩
  rintro ⟨n, -, -, h⟩
  obtain ⟨shown, -, -, hreply⟩ := h []
  rw [hroute] at hreply
  cases congrArg HistoryReply.status hreply

end AccountAbstraction.Proxy
