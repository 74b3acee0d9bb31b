import AccountAbstraction.Proxy.Ledger
import AccountAbstraction.Proxy.SignedWrites

/-!
# One write among others

The steps of a write, whatever happens between them, are together what `handleBundler` does at
once: the model in which calls run at the same time refines the one in which a request is one
function call.

* `Served`: what a write has come to, by the events that it was resumed with.
* `write_run`: the reply, the forwarded body and the events of a write that has been answered.
-/

namespace AccountAbstraction.Proxy.Backend

open Js WriteLog

variable {κ : Type}

/-! ## Statements -/

/-- The call that an event resumes. -/
def Event.target : Event κ → Option ℕ
  | .clock _ => none
  | .request _ => none
  | .verified i _ _ => some i
  | .token i _ => some i
  | .body i _ => some i
  | .upstream i _ => some i
  | .text i _ => some i
  | .receipt i _ _ => some i
  | .page i => some i

/-- The events of one call. -/
def own (i : ℕ) (es : List (Event κ)) : List (Event κ) := es.filter fun e => e.target == some i

/-- The environment of `handleBundler` in which the bundler answers with `fetch`. -/
def Env.serving (env : Env κ) (log : HistoryLog) (fetch : Except JsError Upstream) : ProxyEnv :=
  { env.proxy with
    fetch := fun _ => fetch
    record := fun entry => (recordEntry 0 entry log).map fun _ => () }

def Request.serving (req : Request) (session : Session) (body : Except BodyError Body) : ProxyRequest where
  method := "POST"
  origin := req.headers.origin
  session := some session
  body := body

/-- The answer of the bundler as it arrives at call `i`. -/
def replies (i : ℕ) : Except JsError Upstream → List (Event κ)
  | .error err => [.upstream i (.error err)]
  | .ok upstream => [.upstream i (.ok (upstream.status, upstream.contentType)), .text i upstream.text]

/-- The events that a write waits for: its body, and what the bundler answers if the body was
    forwarded. -/
def awaited (i : ℕ) (body : Except BodyError Body) (served : ProxyRun) (fetch : Except JsError Upstream) :
    List (Event κ) :=
  .body i body :: if served.forwarded.isSome then replies i fetch else []

/-! ## The refinement relation -/

/-- What a write has come to: its events so far, what was forwarded for it, and its phase. -/
inductive Served (env : Env κ) (log : HistoryLog) (i : ℕ) (req : Request) (session : Session) :
    List (Event κ) → List Forward → Phase → Prop
  | waiting : Served env log i req session [] [] (.readingBody session)
  | forwarding {body : Body} {request : Json} {checked : Checked} : body.parsed = some request →
      policyCheck env.ethers env.proxy request = .ok checked →
      Served env log i req session [.body i (.ok body)] [forwardOf env.proxy session body]
        (.forwarding session checked)
  | reading {body : Body} {request : Json} {checked : Checked} {status : ℕ} {contentType : Option String} :
      body.parsed = some request → policyCheck env.ethers env.proxy request = .ok checked →
      Served env log i req session [.body i (.ok body), .upstream i (.ok (status, contentType))]
        [forwardOf env.proxy session body] (.readingText session checked status contentType)
  | answered {body : Except BodyError Body} {fetch : Except JsError Upstream} {served : ProxyRun} :
      served = handleBundler env.ethers (env.serving log fetch) (req.serving session body) →
      Served env log i req session (awaited i body served fetch) served.forwarded.toList
        (.answered (.proxy (apiHandler (env.serving log fetch) (req.serving session body) served.outcome)))

variable {env : Env κ} {s s' : State} {log : HistoryLog} {i : ℕ} {call : Backend.Call}

/-! ## What is recorded does not matter to the reply -/

/-- Whether a row can be written depends on the entry, and on whether there is a log. -/
theorem recordEntry_map (now : ℤ) (entry : LogEntry) {log' : HistoryLog}
    (hlog : log'.unavailable = none ↔ log.unavailable = none) :
    (recordEntry now entry log').map (fun _ => ()) = (recordEntry 0 entry log).map fun _ => () := by
  have hrecord : ∀ (store : Store) (t : ℤ), (recordEntry t entry (.opened store)).map (fun _ => ()) =
      (Proxy.record 0 entry).map fun _ => () := by
    intro store t
    rw [recordEntry, record_ofLogEntry]
    unfold Proxy.record
    simp only [bind, Except.bind, clip_str]
    cases clip entry.method with
    | error err => rfl
    | ok method =>
    cases clip (entry.userOpHash.map .str) with
    | error err => rfl
    | ok userOpHash =>
    cases clip entry.sender with
    | error err => rfl
    | ok sender =>
    cases clip (entry.target.map .str) with
    | error err => rfl
    | ok target =>
    cases clip (entry.owner.map .str) with
    | error err => rfl
    | ok owner =>
    cases clip (entry.innerCall.map .str) with
    | error err => rfl
    | ok innerCall =>
    cases clip (entry.storedValue.map .str) with
    | error err => rfl
    | ok storedValue =>
    cases clip entry.error with
    | error err => rfl
    | ok error => rfl
  cases log with
  | opened store =>
    cases log' with
    | opened store' => rw [hrecord, hrecord]
    | disabled reason => simp [HistoryLog.unavailable] at hlog
  | disabled reason =>
    cases log' with
    | opened store' => simp [HistoryLog.unavailable] at hlog
    | disabled reason' => rfl

/-- A call that is answered after its row was recorded. -/
theorem calls_recordThen {session : Session} {body : Except BodyError Body}
    (fetch : Except JsError Upstream) (hlog : s.log.unavailable = none ↔ log.unavailable = none)
    (entry : LogEntry) (reply : ProxyReply) (forwarded : Option Forward) :
    (s.recordThen env i call entry reply).calls = s.calls.set i { call with
      phase := .answered (.proxy (apiHandler (env.serving log fetch) (call.request.serving session body)
        (recordThen (env.serving log fetch) forwarded entry reply).outcome)) } := by
  have hrecorded : (env.serving log fetch).record entry = (recordEntry s.now entry s.log).map fun _ => () :=
    (recordEntry_map s.now entry hlog).symm
  unfold State.recordThen
  rw [recordThen]
  simp only [hrecorded]
  cases recordEntry s.now entry s.log <;> rfl

theorem forwarded_recordThen (entry : LogEntry) (reply : ProxyReply) :
    (s.recordThen env i call entry reply).forwarded = s.forwarded := by
  unfold State.recordThen
  split <;> rfl

/-! ## The events of one write -/

/-- What was forwarded for the call. -/
def State.sent (s : State) (i : ℕ) : List Forward := (s.forwarded.filter (·.call == i)).map (·.forward)

/-- A step of the write leads from `s` to `s'`, and its events so far are `es`. -/
def Steps (env : Env κ) (log : HistoryLog) (s s' : State) (i : ℕ) (call : Backend.Call)
    (session : Session) (es : List (Event κ)) : Prop :=
  ∃ phase, s'.calls = s.calls.set i { call with phase } ∧
    Served env log i call.request session es (s'.sent i) phase

section Write

theorem Steps.of_hear {received : Received} {session : Session} {es : List (Event κ)}
    (h : Steps env log (s.hear i received) s' i call session es) : Steps env log s s' i call session es := h

variable {session : Session} {body : Except BodyError Body} {fetch : Except JsError Upstream}

/-- The step answers the write, as `handleBundler` does with the events so far. -/
theorem steps_answered (fetch : Except JsError Upstream) {served : ProxyRun} {es : List (Event κ)}
    (hserved : handleBundler env.ethers (env.serving log fetch) (call.request.serving session body) = served)
    (hforwarded : s'.forwarded = s.forwarded) (hsent : s.sent i = served.forwarded.toList)
    (hes : es = awaited i body served fetch)
    (hcalls : s'.calls = s.calls.set i { call with
      phase := .answered (.proxy (apiHandler (env.serving log fetch) (call.request.serving session body)
        served.outcome)) }) :
    Steps env log s s' i call session es := by
  refine ⟨_, hcalls, ?_⟩
  rw [State.sent, hforwarded, ← State.sent, hsent, hes]
  exact .answered hserved.symm

theorem steps_body (hlog : s.log.unavailable = none ↔ log.unavailable = none) (hnone : s.sent i = []) :
    Steps env log s (afterBody env s i call session body) i call session [.body i body] := by
  -- the bundler is not asked before the body is forwarded, so any answer will do
  let fetch : Except JsError Upstream := .error { message := "" }
  cases body with
  | error err =>
    have hserved : handleBundler env.ethers (env.serving log fetch) (call.request.serving session (.error err)) =
        { outcome := .ok (errorReply (env.serving log fetch) (call.request.serving session (.error err))
            ((err.status.filter (· ≠ 0)).getD 400) err.message) } := rfl
    exact steps_answered fetch hserved rfl hnone rfl rfl
  | ok body =>
    have hpolicy : ∀ request, policyCheck env.ethers (env.serving log fetch) request =
        policyCheck env.ethers env.proxy request := fun _ => rfl
    cases hparsed : body.parsed with
    | none =>
      have hserved : handleBundler env.ethers (env.serving log fetch) (call.request.serving session (.ok body)) =
          { outcome := .ok (errorReply (env.serving log fetch) (call.request.serving session (.ok body)) 400
              "request body must be JSON") } := by
        simp [handleBundler, Request.serving, hparsed]
      have hafter : afterBody env s i call session (.ok body) =
          s.resume i call (env.refuse call.request 400 "request body must be JSON") := by
        simp only [afterBody, hparsed]
      rw [hafter]
      exact steps_answered fetch hserved rfl hnone rfl rfl
    | some request =>
      cases hcheck : policyCheck env.ethers env.proxy request with
      | error failure =>
        cases failure with
        | policyError message =>
          have hserved : handleBundler env.ethers (env.serving log fetch)
              (call.request.serving session (.ok body)) =
              recordThen (env.serving log fetch) none (rejectedEntry session request message)
                (errorReply (env.serving log fetch) (call.request.serving session (.ok body)) policyStatus
                  s!"rejected by policy: {message}") := by
            simp [handleBundler, Request.serving, hparsed, hpolicy, hcheck]
          have hafter : afterBody env s i call session (.ok body) =
              s.recordThen env i call (rejectedEntry session request message)
                (errorReply env.proxy call.request.proxy policyStatus s!"rejected by policy: {message}") := by
            simp only [afterBody, hparsed, hcheck]
          rw [hafter]
          exact steps_answered fetch hserved (forwarded_recordThen _ _) hnone rfl
            (calls_recordThen fetch hlog _ _ none)
        | other err =>
          have hserved : handleBundler env.ethers (env.serving log fetch)
              (call.request.serving session (.ok body)) = { outcome := .error err } := by
            simp [handleBundler, Request.serving, hparsed, hpolicy, hcheck]
          have hafter : afterBody env s i call session (.ok body) = s.resume i call (env.crash call.request) := by
            simp only [afterBody, hparsed, hcheck]
          rw [hafter]
          exact steps_answered fetch hserved rfl hnone rfl rfl
      | ok checked =>
        refine ⟨.forwarding session checked, ?_, ?_⟩
        · rw [afterBody_of_checked hparsed hcheck]
          rfl
        · have hsent : (afterBody env s i call session (.ok body)).sent i = [forwardOf env.proxy session body] := by
            rw [afterBody_of_checked hparsed hcheck]
            simp only [State.sent, List.filter_append, List.map_append]
            rw [← State.sent, hnone]
            simp
          rw [hsent]
          exact .forwarding hparsed hcheck

/-- What `handleBundler` does with a body that passes the policy. -/
theorem handleBundler_serving {body : Body} {request : Json} {checked : Checked}
    (hparsed : body.parsed = some request) (hcheck : policyCheck env.ethers env.proxy request = .ok checked)
    (fetch : Except JsError Upstream) :
    handleBundler env.ethers (env.serving log fetch) (call.request.serving session (.ok body)) =
      forward (env.serving log fetch) (call.request.serving session (.ok body)) session body checked :=
  handleBundler_of_checked rfl rfl rfl hparsed hcheck

theorem steps_upstream (hlog : s.log.unavailable = none ↔ log.unavailable = none) {checked : Checked}
    {es : List (Event κ)} (h : Served env log i call.request session es (s.sent i) (.forwarding session checked))
    (reply : Except JsError (ℕ × Option String)) :
    Steps env log s (afterUpstream env s i call session checked reply) i call session
      (es ++ [.upstream i reply]) := by
  generalize hsent : s.sent i = sent at h
  cases h with
  | forwarding hparsed hcheck =>
    cases reply with
    | error err =>
      exact steps_answered (.error err) (handleBundler_serving hparsed hcheck _) (forwarded_recordThen _ _)
        hsent rfl (calls_recordThen _ hlog _ _ _)
    | ok reply =>
      refine ⟨.readingText session checked reply.1 reply.2, rfl, ?_⟩
      show Served env log i call.request session _ (s.sent i) _
      rw [hsent]
      exact .reading hparsed hcheck

theorem steps_text (hlog : s.log.unavailable = none ↔ log.unavailable = none) {checked : Checked}
    {status : ℕ} {contentType : Option String} {es : List (Event κ)}
    (h : Served env log i call.request session es (s.sent i) (.readingText session checked status contentType))
    (text : Except JsError Body) :
    Steps env log s (afterText env s i call session checked status contentType text) i call session
      (es ++ [.text i text]) := by
  generalize hsent : s.sent i = sent at h
  cases h with
  | reading hparsed hcheck =>
    cases text with
    | error err =>
      exact steps_answered (.ok ⟨status, contentType, .error err⟩) (handleBundler_serving hparsed hcheck _)
        rfl hsent rfl rfl
    | ok text =>
      exact steps_answered (.ok ⟨status, contentType, .ok text⟩) (handleBundler_serving hparsed hcheck _)
        (forwarded_recordThen _ _) hsent rfl (calls_recordThen _ hlog _ _ _)

end Write

/-! ## The events of other calls -/

/-- A step that concerns one call. -/
structure Confined (s s' : State) (i : ℕ) : Prop where
  calls : ∃ call, s'.calls = s.calls.set i call
  forwarded : ∃ new, s'.forwarded = s.forwarded ++ new ∧ ∀ f ∈ new, f.call = i
  unavailable : s'.log.unavailable = s.log.unavailable

theorem Confined.of_calls (hcalls : ∃ call, s'.calls = s.calls.set i call)
    (hforwarded : s'.forwarded = s.forwarded) (hlog : s'.log.unavailable = s.log.unavailable) :
    Confined s s' i :=
  ⟨hcalls, ⟨[], by rw [hforwarded, List.append_nil], by simp⟩, hlog⟩

theorem confined_resume (phase : Phase) : Confined s (s.resume i call phase) i := .of_calls ⟨_, rfl⟩ rfl rfl

theorem confined_recordThen (entry : LogEntry) (reply : ProxyReply) :
    Confined s (s.recordThen env i call entry reply) i := by
  unfold State.recordThen
  split
  · rename_i hrecord
    refine .of_calls ⟨_, rfl⟩ rfl ?_
    rcases recordEntry_eq_ok hrecord with ⟨-, rfl, -⟩ | ⟨store, written, hlog, -, -, rfl⟩
    · rfl
    · rw [hlog]
      rfl
  · exact confined_resume _

theorem confined_issue (identity : Auth.Identity) (token : CachedToken) :
    Confined s (issue env s i call identity token) i := by
  unfold issue
  split
  · exact .of_calls ⟨_, rfl⟩ rfl rfl
  · exact confined_resume _

theorem confined_afterVerify (result : Except Auth.VerifyError Auth.Identity) :
    Confined s (afterVerify env s i call result) i := by
  unfold afterVerify
  split
  · exact confined_resume _
  · exact confined_resume _
  · split
    · exact confined_issue _ _
    · exact confined_resume _

theorem confined_afterToken (identity : Auth.Identity) (startedAt : ℤ) (reply : TokenReply) :
    Confined s (afterToken env s i call identity startedAt reply) i := by
  unfold afterToken
  simp only
  split
  · exact .of_calls ⟨_, rfl⟩ rfl rfl
  · unfold issue
    split <;> exact .of_calls ⟨_, rfl⟩ rfl rfl

theorem confined_afterBody (session : Session) (body : Except BodyError Body) :
    Confined s (afterBody env s i call session body) i := by
  unfold afterBody
  split
  · exact confined_resume _
  split
  · exact confined_resume _
  split
  · exact confined_recordThen _ _
  · exact confined_resume _
  · exact ⟨⟨_, rfl⟩, ⟨_, rfl, by simp⟩, rfl⟩

theorem confined_afterUpstream (session : Session) (checked : Checked)
    (reply : Except JsError (ℕ × Option String)) :
    Confined s (afterUpstream env s i call session checked reply) i := by
  unfold afterUpstream
  split
  · exact confined_recordThen _ _
  · exact confined_resume _

theorem confined_afterText (session : Session) (checked : Checked) (status : ℕ) (contentType : Option String)
    (text : Except JsError Body) :
    Confined s (afterText env s i call session checked status contentType text) i := by
  unfold afterText
  split
  · exact confined_resume _
  · exact confined_recordThen _ _

theorem confined_afterReceipt (limit : JsNumber) (asked : List (ℕ × Option String)) (row : ℕ × Option String)
    (receipt : Option UserOpReceipt) : Confined s (afterReceipt env s i call limit asked row receipt) i := by
  unfold afterReceipt
  simp only
  split
  · exact .of_calls ⟨_, rfl⟩ rfl (unavailable_settleRow _ _ _ _)
  · exact confined_resume _

theorem Confined.of_hear {received : Received} (h : Confined (s.hear i received) s' i) : Confined s s' i :=
  ⟨h.calls, h.forwarded, h.unavailable⟩

/-- An event with a target is one step of that call. -/
theorem confined_step {e : Event κ} {j : ℕ} (hstep : step env s e = some s') (htarget : e.target = some j) :
    Confined s s' j := by
  cases e with
  | clock now => cases htarget
  | request req => cases htarget
  | verified i jwks keys =>
    cases htarget
    simp only [step] at hstep
    split at hstep <;> cases hstep
    exact confined_afterVerify _
  | token i reply =>
    cases htarget
    simp only [step] at hstep
    split at hstep <;> cases hstep
    exact confined_afterToken _ _ _
  | body i body =>
    cases htarget
    simp only [step] at hstep
    split at hstep <;> cases hstep
    exact (confined_afterBody _ _).of_hear
  | upstream i reply =>
    cases htarget
    simp only [step] at hstep
    split at hstep <;> cases hstep
    exact (confined_afterUpstream _ _ _).of_hear
  | text i text =>
    cases htarget
    simp only [step] at hstep
    split at hstep <;> cases hstep
    exact (confined_afterText _ _ _ _ _).of_hear
  | receipt i row receipt =>
    cases htarget
    simp only [step] at hstep
    split at hstep
    · split_ifs at hstep
      cases hstep
      exact (confined_afterReceipt _ _ _ _).of_hear
    · cases hstep
  | page i =>
    cases htarget
    simp only [step] at hstep
    split at hstep <;> cases hstep
    exact confined_resume _

/-- An event without a target leaves every call as it is. -/
theorem untargeted_step {e : Event κ} (hstep : step env s e = some s') (htarget : e.target = none) :
    (∃ new, s'.calls = s.calls ++ new) ∧ s'.forwarded = s.forwarded ∧ s'.log.unavailable = s.log.unavailable := by
  cases e with
  | clock now =>
    cases hstep
    exact ⟨⟨[], (List.append_nil _).symm⟩, rfl, rfl⟩
  | request req =>
    obtain ⟨phase, -, rfl⟩ := Option.map_eq_some_iff.mp hstep
    exact ⟨⟨_, rfl⟩, rfl, rfl⟩
  | verified i jwks keys => cases htarget
  | token i reply => cases htarget
  | body i body => cases htarget
  | upstream i reply => cases htarget
  | text i text => cases htarget
  | receipt i row receipt => cases htarget
  | page i => cases htarget

/-- What a step that does not concern the call `i` leaves as it is. -/
theorem foreign_step {e : Event κ} (hstep : step env s e = some s') (htarget : e.target ≠ some i)
    (hcall : s.calls[i]? = some call) :
    s'.calls[i]? = some call ∧ s'.sent i = s.sent i ∧ s'.log.unavailable = s.log.unavailable := by
  cases hj : e.target with
  | none =>
    obtain ⟨⟨new, hcalls⟩, hforwarded, hlog⟩ := untargeted_step hstep hj
    refine ⟨?_, by rw [State.sent, hforwarded, State.sent], hlog⟩
    rw [hcalls, List.getElem?_append_left (List.getElem?_eq_some_iff.mp hcall).1, hcall]
  | some j =>
    obtain ⟨⟨call', hcalls⟩, ⟨new, hforwarded, hnew⟩, hlog⟩ := confined_step hstep hj
    have hne : j ≠ i := fun h => htarget (h ▸ hj)
    refine ⟨by rw [hcalls, List.getElem?_set_ne hne, hcall], ?_, hlog⟩
    have hforeign : new.filter (·.call == i) = [] := by
      rw [List.filter_eq_nil_iff]
      intro f hf
      simp [hnew f hf, hne]
    rw [State.sent, hforwarded, List.filter_append, hforeign, List.append_nil, State.sent]

/-! ## Runs -/

theorem Steps.next {req : Request} {openedAt : ℤ} {phase : Phase} {session : Session} {es : List (Event κ)}
    (h : Steps env log s s' i ⟨req, openedAt, phase⟩ session es)
    (hcall : s.calls[i]? = some ⟨req, openedAt, phase⟩) :
    ∃ phase', s'.calls[i]? = some ⟨req, openedAt, phase'⟩ ∧
      Served env log i req session es (s'.sent i) phase' := by
  obtain ⟨phase', hcalls, hserved⟩ := h
  refine ⟨phase', ?_, hserved⟩
  rw [hcalls, List.getElem?_set_self (List.getElem?_eq_some_iff.mp hcall).1]

/-- An event of the write takes it from one phase to the next. -/
theorem served_step {e : Event κ} {req : Request} {openedAt : ℤ} {phase : Phase} {session : Session}
    {es : List (Event κ)} (hlog : s.log.unavailable = none ↔ log.unavailable = none)
    (hcall : s.calls[i]? = some ⟨req, openedAt, phase⟩)
    (hserved : Served env log i req session es (s.sent i) phase)
    (hstep : step env s e = some s') (htarget : e.target = some i) :
    ∃ phase', s'.calls[i]? = some ⟨req, openedAt, phase'⟩ ∧
      Served env log i req session (es ++ [e]) (s'.sent i) phase' := by
  have hbefore := hserved
  generalize hsent : s.sent i = sent at hserved
  cases e with
  | clock now => cases htarget
  | request req => cases htarget
  | body j body =>
    cases htarget
    cases hserved with
    | waiting =>
      rw [step_body hcall rfl] at hstep
      cases hstep
      exact (Steps.of_hear (steps_body (s := s.hear i (.body body)) hlog hsent)).next hcall
    | _ => simp [step, hcall] at hstep
  | upstream j reply =>
    cases htarget
    cases hserved with
    | forwarding _ _ =>
      simp only [step, hcall, Option.some.injEq] at hstep
      subst hstep
      exact (Steps.of_hear (steps_upstream (s := s.hear i (.upstream reply)) hlog hbefore reply)).next hcall
    | _ => simp [step, hcall] at hstep
  | text j text =>
    cases htarget
    cases hserved with
    | reading _ _ =>
      simp only [step, hcall, Option.some.injEq] at hstep
      subst hstep
      exact (Steps.of_hear (steps_text (s := s.hear i (.text text)) hlog hbefore text)).next hcall
    | _ => simp [step, hcall] at hstep
  -- a write waits for nothing else
  | _ =>
    cases htarget
    cases hserved <;> simp [step, hcall] at hstep

/-- A write after any events: what it has come to depends on its own events only. -/
theorem served_run {es : List (Event κ)} {req : Request} {openedAt : ℤ} {session : Session}
    (hcall : s.calls[i]? = some ⟨req, openedAt, .readingBody session⟩) (hsent : s.sent i = [])
    (hrun : run (step env) s es = some s') :
    ∃ phase, s'.calls[i]? = some ⟨req, openedAt, phase⟩ ∧
      Served env s.log i req session (own i es) (s'.sent i) phase := by
  suffices h : ∀ (es before : List (Event κ)) (s₁ : State) (phase : Phase),
      s₁.calls[i]? = some ⟨req, openedAt, phase⟩ → (s₁.log.unavailable = none ↔ s.log.unavailable = none) →
      Served env s.log i req session before (s₁.sent i) phase → run (step env) s₁ es = some s' →
      ∃ phase', s'.calls[i]? = some ⟨req, openedAt, phase'⟩ ∧
        Served env s.log i req session (before ++ own i es) (s'.sent i) phase' from
    h es [] s (.readingBody session) hcall Iff.rfl (hsent ▸ .waiting) hrun
  intro es
  induction es with
  | nil =>
    intro before s₁ phase hcall hlog hserved hrun
    cases hrun
    exact ⟨phase, hcall, by rwa [own, List.filter_nil, List.append_nil]⟩
  | cons e es ih =>
    intro before s₁ phase hcall hlog hserved hrun
    obtain ⟨s₂, hstep, hrun⟩ := Option.bind_eq_some_iff.mp hrun
    by_cases htarget : e.target = some i
    · obtain ⟨phase', hcall', hserved'⟩ := served_step hlog hcall hserved hstep htarget
      have hlog' := (confined_step hstep htarget).unavailable
      obtain ⟨phase'', hcall'', hserved''⟩ :=
        ih (before ++ [e]) s₂ phase' hcall' (by rw [hlog', hlog]) hserved' hrun
      refine ⟨phase'', hcall'', ?_⟩
      rwa [List.append_assoc, List.singleton_append, own, ← List.filter_cons_of_pos (by simpa using htarget)]
        at hserved''
    · obtain ⟨hcall', hsent', hlog'⟩ := foreign_step hstep htarget hcall
      obtain ⟨phase'', hcall'', hserved''⟩ :=
        ih before s₂ phase hcall' (by rw [hlog', hlog]) (by rwa [hsent']) hrun
      refine ⟨phase'', hcall'', ?_⟩
      rwa [own, List.filter_cons_of_neg (by simpa using htarget)]

/-- Whatever happens between the steps of a write, it is answered as `handleBundler` answers
    one request: with the same reply and the same forwarded body, for the same events. -/
theorem write_run {es : List (Event κ)} {session : Session} {reply : Reply} {call' : Backend.Call}
    (hcall : s.calls[i]? = some call) (hphase : call.phase = .readingBody session)
    (hsent : s.sent i = []) (hrun : run (step env) s es = some s') (hcall' : s'.calls[i]? = some call')
    (hreply : call'.phase = .answered reply) :
    ∃ body fetch served,
      served = handleBundler env.ethers (env.serving s.log fetch) (call.request.serving session body) ∧
      own i es = awaited i body served fetch ∧ s'.sent i = served.forwarded.toList ∧
      reply = .proxy (apiHandler (env.serving s.log fetch) (call.request.serving session body) served.outcome) := by
  obtain ⟨req, openedAt, phase⟩ := call
  cases hphase
  obtain ⟨phase', hcall'', hserved⟩ := served_run hcall hsent hrun
  rw [hcall'] at hcall''
  cases hcall''
  have hphase : phase' = .answered reply := hreply
  rw [hphase] at hserved
  generalize own i es = events at hserved ⊢
  generalize s'.sent i = sent at hserved ⊢
  cases hserved with
  | answered hrun => exact ⟨_, _, _, hrun, rfl, rfl, rfl⟩

/-! ## A write between two requests -/

/-- The state in which the write is `phase`, with what it received and what was sent for it. -/
def writing (now : ℤ) (phase : Phase) (others : List Backend.Call) (heard : List Hearing)
    (forwarded : List Forwarding) : State :=
  { init now (.disabled "no file") [] with
    calls := ⟨writeRequest, sampleNow, phase⟩ :: others, heard := heard, forwarded := forwarded }

def sampleForwarding : Forwarding :=
  ⟨0, sampleOwner, sampleRequest, sampleChecked, forwardOf sampleBackend.proxy sampleOwner sampleBody⟩

def writeEvents : List (Event Unit) :=
  [.body 0 (.ok sampleBody), .request sessionRequest, .upstream 0 (.ok (200, none)), .clock (sampleNow + 1000),
   .text 0 (.ok sampleAnswer)]

theorem write_run_sample : ∃ s' call' reply body fetch served,
    run (step sampleBackend) (writing sampleNow (.readingBody sampleOwner) [] [] []) writeEvents = some s' ∧
    s'.calls[0]? = some call' ∧ call'.phase = .answered reply ∧
    served = handleBundler sampleBackend.ethers (sampleBackend.serving (.disabled "no file") fetch)
      (writeRequest.serving sampleOwner body) ∧
    own 0 writeEvents = awaited 0 body served fetch ∧ s'.sent 0 = served.forwarded.toList ∧
    reply = .proxy (apiHandler (sampleBackend.serving (.disabled "no file") fetch)
      (writeRequest.serving sampleOwner body) served.outcome) := by
  let heard : List Hearing := [⟨0, sampleNow, .body (.ok sampleBody)⟩]
  have hbody : step sampleBackend (writing sampleNow (.readingBody sampleOwner) [] [] [])
      (.body 0 (.ok sampleBody)) =
      some (writing sampleNow (.forwarding sampleOwner sampleChecked) [] heard [sampleForwarding]) := by
    rw [step_body rfl rfl, afterBody_of_checked rfl sampleBody_checked]
    rfl
  have hrequest : step sampleBackend
      (writing sampleNow (.forwarding sampleOwner sampleChecked) [] heard [sampleForwarding])
      (.request sessionRequest) = some (writing sampleNow (.forwarding sampleOwner sampleChecked)
        [⟨sessionRequest, sampleNow, .verifying⟩] heard [sampleForwarding]) := by
    rw [step, sessionRequest_opens]
    rfl
  let heard' := heard ++ [⟨0, sampleNow, .upstream (.ok (200, none))⟩,
    ⟨0, sampleNow + 1000, .text (.ok sampleAnswer)⟩]
  let reply : Reply := .proxy (relay sampleBackend.proxy writeRequest.proxy ⟨200, none, .ok sampleAnswer⟩
    sampleAnswer)
  have hrun : run (step sampleBackend) (writing sampleNow (.readingBody sampleOwner) [] [] []) writeEvents =
      some (writing (sampleNow + 1000) (.answered reply) [⟨sessionRequest, sampleNow, .verifying⟩] heard'
        [sampleForwarding]) := by
    simp only [writeEvents, run, hbody, hrequest, Option.bind_some]
    rfl
  have hcall : (writing sampleNow (.readingBody sampleOwner) [] [] []).calls[0]? =
      some ⟨writeRequest, sampleNow, .readingBody sampleOwner⟩ := rfl
  have hcall' : (writing (sampleNow + 1000) (.answered reply) [⟨sessionRequest, sampleNow, .verifying⟩] heard'
      [sampleForwarding]).calls[0]? = some ⟨writeRequest, sampleNow, .answered reply⟩ := rfl
  obtain ⟨body, fetch, served, hserved⟩ := write_run hcall rfl rfl hrun hcall' rfl
  exact ⟨_, _, _, body, fetch, served, hrun, hcall', rfl, hserved⟩

end AccountAbstraction.Proxy.Backend
