import AccountAbstraction.Proxy.UserOpLog

/-!
# The write log and the answer of the proxy

`handleBundler` (`examples/privy-google-aa/server/api.mjs:433-534`) calls `record` at three
sites before it answers. This module compares its run with that of the same process whose log
is disabled (`disabledLog`, lines 183-192).

* `forwarded_disabled`: the log never changes what is forwarded.
* `answered_disabled_iff`: the answers differ where `record` throws, which becomes a 500.
-/

namespace AccountAbstraction.Proxy

open Js

/-! ## Runs -/

/-- The proxy with `disabledLog`. -/
def ProxyEnv.disabled (env : ProxyEnv) : ProxyEnv := { env with record := fun _ => .ok () }

def ReplyBody.toText : ReplyBody → String
  | .json payload => payload.stringify
  | .text content => content

/-- The status and the body of a reply. -/
def ProxyReply.answer (reply : ProxyReply) : ℕ × String := (reply.status, reply.body.toText)

/-- What the client gets for an error that leaves the handler. -/
def internalError : ℕ × String := (500, (Json.obj [("error", .str "internal error")]).stringify)

/-- The answer to a request. -/
def answered (E : Ethers) (env : ProxyEnv) (req : ProxyRequest) : ℕ × String :=
  (apiHandler env req (handleBundler E env req).outcome).answer

/-- The three sites of `record`: what was forwarded before, the entry, and the reply that
    follows. -/
inductive RecordSite (E : Ethers) (env : ProxyEnv) (req : ProxyRequest) (session : Session) (body : Body)
    (request : Json) : Option Forward → LogEntry → ProxyReply → Prop
  /-- The policy refuses the request. -/
  | refused {message : String} (hcheck : policyCheck E env request = .error (.policyError message)) :
      RecordSite E env req session body request none (rejectedEntry session request message)
        (errorReply env req policyStatus s!"rejected by policy: {message}")
  /-- The bundler cannot be reached. -/
  | unreachable {checked : Checked} {err : JsError} (hcheck : policyCheck E env request = .ok checked)
      (hfetch : env.fetch (forwardOf env session body) = .error err) :
      RecordSite E env req session body request (some (forwardOf env session body))
        (checkedEntry session checked .failed 502 none
          (some (.str s!"bundler unreachable: {err.message}")))
        (errorReply env req 502 s!"bundler unreachable at {env.bundlerUrl}: {err.message}")
  /-- The bundler answers. -/
  | answered {checked : Checked} {upstream : Upstream} {text : Body}
      (hcheck : policyCheck E env request = .ok checked)
      (hfetch : env.fetch (forwardOf env session body) = .ok upstream) (htext : upstream.text = .ok text) :
      RecordSite E env req session body request (some (forwardOf env session body))
        (answeredEntry session checked upstream text) (relay env req upstream text)

/-- A `POST` with a valid session and a JSON body. -/
structure Reads (req : ProxyRequest) (session : Session) (body : Body) (request : Json) : Prop where
  isPost : req.method = "POST"
  hasSession : req.session = some session
  hasBody : req.body = .ok body
  isJson : body.parsed = some request

section Runs

variable {E : Ethers} {env : ProxyEnv} {req : ProxyRequest} {session : Session} {body : Body} {request : Json}
  {fwd : Option Forward} {entry : LogEntry} {reply : ProxyReply}

/-- A request that comes to one of the sites. -/
theorem handleBundler_of_site (hreads : Reads req session body request)
    (hsite : RecordSite E env req session body request fwd entry reply) :
    handleBundler E env req = recordThen env fwd entry reply := by
  cases hsite with
  | refused hcheck =>
    exact handleBundler_of_refused hreads.isPost hreads.hasSession hreads.hasBody hreads.isJson hcheck
  | unreachable hcheck hfetch =>
    rw [handleBundler_of_checked hreads.isPost hreads.hasSession hreads.hasBody hreads.isJson hcheck]
    simp only [forward, hfetch]
  | answered hcheck hfetch htext =>
    rw [handleBundler_of_checked hreads.isPost hreads.hasSession hreads.hasBody hreads.isJson hcheck]
    simp only [forward, hfetch, htext]

/-- The sites do not depend on the log. -/
theorem RecordSite.disabled (hsite : RecordSite E env req session body request fwd entry reply) :
    RecordSite E env.disabled req session body request fwd entry reply := by
  cases hsite with
  | refused hcheck => exact .refused hcheck
  | unreachable hcheck hfetch => exact .unreachable hcheck hfetch
  | answered hcheck hfetch htext => exact .answered hcheck hfetch htext

/-- A request comes to one of the sites, or its run does not depend on the log. -/
theorem site_or_disabled (E : Ethers) (env : ProxyEnv) (req : ProxyRequest) :
    (∃ session body request fwd entry reply, Reads req session body request ∧
      RecordSite E env req session body request fwd entry reply) ∨
    handleBundler E env req = handleBundler E env.disabled req := by
  by_cases hmethod : req.method = "POST"
  swap
  · right
    simp only [handleBundler, if_pos hmethod]
    rfl
  cases hsession : req.session with
  | none =>
    right
    simp only [handleBundler, hsession]
    rfl
  | some session =>
    cases hbody : req.body with
    | error err =>
      right
      simp only [handleBundler, hsession, hbody]
      rfl
    | ok body =>
      cases hparsed : body.parsed with
      | none =>
        right
        simp only [handleBundler, hsession, hbody, hparsed]
        rfl
      | some request =>
        have hreads : Reads req session body request := ⟨hmethod, hsession, hbody, hparsed⟩
        have hpolicy : policyCheck E env.disabled request = policyCheck E env request := rfl
        cases hcheck : policyCheck E env request with
        | error failure =>
          cases failure with
          | policyError message => exact Or.inl ⟨_, _, _, _, _, _, hreads, .refused hcheck⟩
          | other err =>
            right
            rw [handleBundler_of_thrown hmethod hsession hbody hparsed hcheck,
              handleBundler_of_thrown hmethod hsession hbody hparsed (hpolicy.trans hcheck)]
        | ok checked =>
          cases hfetch : env.fetch (forwardOf env session body) with
          | error err => exact Or.inl ⟨_, _, _, _, _, _, hreads, .unreachable hcheck hfetch⟩
          | ok upstream =>
            cases htext : upstream.text with
            | ok text => exact Or.inl ⟨_, _, _, _, _, _, hreads, .answered hcheck hfetch htext⟩
            | error err =>
              right
              have hfetch' : env.disabled.fetch (forwardOf env.disabled session body) = .ok upstream := hfetch
              rw [handleBundler_of_checked hmethod hsession hbody hparsed hcheck,
                handleBundler_of_checked hmethod hsession hbody hparsed (hpolicy.trans hcheck)]
              simp only [forward, hfetch, hfetch', htext]
              rfl

/-! ## What does not depend on the log -/

/-- The same request is forwarded, if any. -/
theorem forwarded_disabled (E : Ethers) (env : ProxyEnv) (req : ProxyRequest) :
    (handleBundler E env req).forwarded = (handleBundler E env.disabled req).forwarded := by
  rcases site_or_disabled E env req with ⟨_, _, _, _, _, _, hreads, hsite⟩ | hsame
  · rw [handleBundler_of_site hreads hsite, handleBundler_of_site hreads hsite.disabled]
    rfl
  · rw [hsame]

/-- The answer behind a site. -/
theorem answered_of_site (hreads : Reads req session body request)
    (hsite : RecordSite E env req session body request fwd entry reply) :
    answered E env req = if (env.record entry).isOk then reply.answer else internalError := by
  unfold answered
  rw [handleBundler_of_site hreads hsite]
  unfold recordThen
  cases hrecord : env.record entry with
  | ok u => simp [Except.map, apiHandler, Except.isOk, Except.toBool]
  | error err => simp [Except.map, apiHandler, Except.isOk, Except.toBool, errorReply, ProxyReply.answer,
      internalError, ReplyBody.toText]

/-- The answer with the log disabled is the reply of the site. -/
theorem answered_disabled_of_site (hreads : Reads req session body request)
    (hsite : RecordSite E env req session body request fwd entry reply) :
    answered E env.disabled req = reply.answer := by
  rw [answered_of_site hreads hsite.disabled]
  rfl

/-! ## The result -/

/-- The log makes no difference to what is forwarded, and none to the answer if and only if
    `record` returns at the site that the request comes to, or the answer there is the internal
    error anyway. -/
theorem answered_disabled_iff (E : Ethers) (env : ProxyEnv) (req : ProxyRequest) :
    ((handleBundler E env req).forwarded = (handleBundler E env.disabled req).forwarded ∧
        answered E env req = answered E env.disabled req) ↔
      ∀ session body request fwd entry reply, Reads req session body request →
        RecordSite E env req session body request fwd entry reply →
          (∃ u, env.record entry = .ok u) ∨ reply.answer = internalError := by
  constructor
  · rintro ⟨-, hsame⟩ session body request fwd entry reply hreads hsite
    rw [answered_of_site hreads hsite, answered_disabled_of_site hreads hsite] at hsame
    cases hrecord : env.record entry with
    | ok u => exact Or.inl ⟨u, rfl⟩
    | error err =>
      rw [hrecord] at hsame
      exact Or.inr hsame.symm
  · intro h
    refine ⟨forwarded_disabled E env req, ?_⟩
    rcases site_or_disabled E env req with ⟨_, _, _, _, _, _, hreads, hsite⟩ | hsame
    · rw [answered_of_site hreads hsite, answered_disabled_of_site hreads hsite]
      rcases h _ _ _ _ _ _ hreads hsite with ⟨u, hrecord⟩ | hinternal
      · rw [hrecord]
        rfl
      · rw [hinternal, ite_self]
    · unfold answered
      rw [hsame]
      rfl

end Runs

/-! ## Logs that throw -/

/-- The bundler takes the write, and the database has no space for its row. -/
def fullDisk : ProxyEnv :=
  { sampleProxy with
    fetch := fun _ => .ok { status := 200, contentType := none,
                            text := .ok { text := "\x7b\x7d", parsed := some (.obj []) } }
    record := fun _ => .error { message := "database or disk is full" } }

/-- A write that was forwarded and taken is answered as failed, and so is a refused one whose
    sender has no text. -/
theorem write_answered_as_failed :
    ((handleBundler sampleEthers fullDisk sampleWrite).forwarded =
        some (forwardOf fullDisk sampleSession sampleBody) ∧
      answered sampleEthers fullDisk sampleWrite = internalError ∧
      answered sampleEthers fullDisk.disabled sampleWrite = (200, "\x7b\x7d")) ∧
    answered sampleEthers (sampleProxy.withLog 0) forgedWrite = internalError ∧
    (answered sampleEthers (sampleProxy.withLog 0).disabled forgedWrite).1 = 403 := by
  have hwrite : Reads sampleWrite sampleSession sampleBody sampleRequest := ⟨rfl, rfl, rfl, rfl⟩
  have hchecked : policyCheck sampleEthers fullDisk sampleRequest = .ok sampleChecked :=
    bind_eq_ok.mpr ⟨_, samplePolicy_created, sampleRequest_accepted⟩
  have hforged : Reads forgedWrite sampleSession
      { text := forgedRequest.stringify, parsed := some forgedRequest } forgedRequest := ⟨rfl, rfl, rfl, rfl⟩
  have hrefused : policyCheck sampleEthers (sampleProxy.withLog 0) forgedRequest =
      .error (.policyError "sender must be an address") :=
    (policyCheck_of_created samplePolicy_created).trans forgedRequest_refused
  refine ⟨⟨?_, ?_, ?_⟩, ?_, ?_⟩
  · rw [handleBundler_of_site hwrite (.answered hchecked rfl rfl)]
    rfl
  · rw [answered_of_site hwrite (.answered hchecked rfl rfl)]
    rfl
  · rw [answered_disabled_of_site hwrite (.answered hchecked rfl rfl)]
    rfl
  · rw [answered_of_site hforged (.refused hrefused)]
    rfl
  · rw [answered_disabled_of_site hforged (.refused hrefused)]
    rfl

end AccountAbstraction.Proxy
