import AccountAbstraction.Proxy.Authority

/-!
# How the rows of the write log come about

The rows are written and settled by calls that run at the same time.

* `Ledger`: a row is added for one call, says what became of that call, and gets the outcome of
  its own operation.
* `ledger_run`: it holds in every state of every interleaving.
-/

namespace AccountAbstraction.Proxy.Backend

open Js WriteLog

variable {κ : Type}

/-! ## Statements -/

/-- The call is a write behind the guards, with the session that its cookie holds. -/
structure Writes (env : Env κ) (call : Backend.Call) (session : Session) : Prop where
  posts : Posts env "/api/bundler" call.request
  session : (env.current call.openedAt call.request).bind sessionOf = some session

/-- The call is a write whose body passed the policy and was forwarded. -/
structure Forwards (env : Env κ) (s : State) (i : ℕ) (session : Session) (body : Body) (checked : Checked) :
    Prop where
  writes : ∃ call, s.calls[i]? = some call ∧ Writes env call session
  forwarded : ∃ request, body.parsed = some request ∧
    policyCheck env.ethers env.proxy request = .ok checked ∧
    ⟨i, session, request, checked, forwardOf env.proxy session body⟩ ∈ s.forwarded

/-- What an entry of the time `now` says of the call `i`, by all that this call has received: its
    body, which the policy refused; or its body, which was forwarded, and that the bundler could
    not be reached; or its body and the two parts of the bundler's answer. -/
inductive Describes (env : Env κ) (s : State) (i : ℕ) (now : ℤ) : LogEntry → Prop
  | rejected {call : Backend.Call} {session : Session} {body : Body} {request : Json} {message : String} :
      s.calls[i]? = some call → Writes env call session →
      s.heardBy i = [(now, .body (.ok body))] → body.parsed = some request →
      policyCheck env.ethers env.proxy request = .error (.policyError message) →
      Describes env s i now (rejectedEntry session request message)
  | unreachable {session : Session} {body : Body} {checked : Checked} {sentAt : ℤ} {err : JsError} :
      Forwards env s i session body checked →
      s.heardBy i = [(sentAt, .body (.ok body)), (now, .upstream (.error err))] →
      Describes env s i now (checkedEntry session checked .failed 502 none
        (some (.str s!"bundler unreachable: {err.message}")))
  | answered {session : Session} {body : Body} {checked : Checked} {sentAt answeredAt : ℤ} {status : ℕ}
      {contentType : Option String} {text : Body} :
      Forwards env s i session body checked →
      s.heardBy i = [(sentAt, .body (.ok body)), (answeredAt, .upstream (.ok (status, contentType))),
        (now, .text (.ok text))] →
      Describes env s i now (answeredEntry session checked ⟨status, contentType, .ok text⟩ text)

/-- The row is what `record` made of an entry about the call, but for the columns of `settle`. -/
def Told (env : Env κ) (s : State) (i : ℕ) (row : Row) : Prop :=
  ∃ now entry written, Describes env s i now entry ∧ Proxy.record now entry = .ok written ∧
    SameRequest (ofLogRow row.id written) row

/-- The columns of `settle` are the outcome in a receipt that the bundler gave when it was asked
    for the hash in the row. -/
def SettledBy (env : Env κ) (s : State) (row : Row) : Prop :=
  ∃ h ∈ s.heard, ∃ receipt outcome,
    h.received = .receipt (row.id, row.userOpHash) (some receipt) ∧
    outcomeFromReceipt env.ethers env.parseLog (row.userOpHash.getD "") (some receipt) = some outcome ∧
    row.success = some (if outcome.success then 1 else 0) ∧
    row.revertReason = outcome.revertReason.map clipText ∧
    row.txHash = outcome.transactionHash.map clipText ∧
    row.settledAt = some h.now

/-- A reply that passes on the answer of the bundler. -/
def Reply.relays : Reply → Bool
  | .proxy ⟨_, _, .text _⟩ => true
  | _ => false

/-! ## What was received -/

variable {env : Env κ} {s s' s₁ : State} {start : HistoryLog} {i : ℕ} {call call' : Backend.Call}

theorem heardBy_hear (received : Received) :
    (s.hear i received).heardBy i = s.heardBy i ++ [(s.now, received)] := by
  simp [State.heardBy, State.hear]

/-- Nothing was done but that the call `i` received something, or went on. -/
structure Quiet (s s' : State) (i : ℕ) : Prop where
  log : s'.log = s.log
  recorded : s'.recorded = s.recorded
  forwarded : s.forwarded ⊆ s'.forwarded
  heard : ∃ new, s'.heard = s.heard ++ new ∧ ∀ h ∈ new, h.call = i

theorem quiet_refl (s : State) (i : ℕ) : Quiet s s i :=
  ⟨rfl, rfl, List.Subset.refl _, [], (List.append_nil _).symm, by simp⟩

theorem quiet_hear (s : State) (i : ℕ) (received : Received) : Quiet s (s.hear i received) i :=
  ⟨rfl, rfl, List.Subset.refl _, [_], rfl, by simp⟩

theorem Quiet.resume (h : Quiet s s₁ i) (phase : Phase) : Quiet s (s₁.resume i call phase) i :=
  ⟨h.log, h.recorded, h.forwarded, h.heard⟩

theorem Quiet.heardBy (h : Quiet s s' i) {j : ℕ} (hj : j ≠ i) : s'.heardBy j = s.heardBy j := by
  obtain ⟨new, hheard, hnew⟩ := h.heard
  have hforeign : new.filter (·.call == j) = [] := by
    rw [List.filter_eq_nil_iff]
    intro x hx
    simp [hnew x hx, Ne.symm hj]
  rw [State.heardBy, hheard, List.filter_append, hforeign, List.append_nil, State.heardBy]

/-! ## The invariant -/

/-- A write has received what its phase says, the rows that are asked for are there, and an answer
    that was passed on has its row. -/
def PhaseTold (env : Env κ) (s : State) (i : ℕ) (call : Backend.Call) : Prop :=
  match call.phase with
  | .readingBody session => Writes env call session ∧ s.heardBy i = []
  | .forwarding session checked => ∃ body sentAt, Forwards env s i session body checked ∧
      s.heardBy i = [(sentAt, .body (.ok body))]
  | .readingText session checked status contentType => ∃ body sentAt answeredAt,
      Forwards env s i session body checked ∧
      s.heardBy i = [(sentAt, .body (.ok body)), (answeredAt, .upstream (.ok (status, contentType)))]
  | .settling _ asked => ∀ p ∈ asked, ∃ row ∈ s.log.rows, row.id = p.1 ∧ row.userOpHash = p.2
  | .answered reply => reply.relays = true → s.log.unavailable = none → ∃ r ∈ s.recorded, r.call = i
  | _ => True

structure Ledger (env : Env κ) (start : HistoryLog) (s : State) : Prop where
  /-- The rows are those of the start, in order, and one for each recording. -/
  ids : s.log.rows.map (·.id) = start.rows.map (·.id) ++ s.recorded.map (·.row)
  inherited : ∀ row ∈ s.log.rows, (∃ row₀ ∈ start.rows, SameRequest row₀ row) ∨
    ∃ r ∈ s.recorded, r.row = row.id ∧ Told env s r.call row
  settled : ∀ row ∈ s.log.rows, row ∈ start.rows ∨ row.settledAt = none ∨ SettledBy env s row
  phases : ∀ (i : ℕ) (call : Backend.Call), s.calls[i]? = some call → PhaseTold env s i call
  heard : ∀ h ∈ s.heard, h.call < s.calls.length
  ended : ∀ r ∈ s.recorded, ∃ call, s.calls[r.call]? = some call ∧ ∃ reply, call.phase = .answered reply
  once : (s.recorded.map (·.call)).Nodup

/-- What later states keep of the log and of what was done. -/
structure Continues (s s' : State) : Prop where
  calls : ∀ (i : ℕ) (call : Backend.Call), s.calls[i]? = some call → ∃ call', s'.calls[i]? = some call' ∧
    call'.request = call.request ∧ call'.openedAt = call.openedAt
  heard : s.heard ⊆ s'.heard
  forwarded : s.forwarded ⊆ s'.forwarded
  recorded : s.recorded ⊆ s'.recorded
  rows : ∀ row ∈ s.log.rows, ∃ row' ∈ s'.log.rows, SameRequest row row'
  unavailable : s'.log.unavailable = s.log.unavailable

theorem Writes.same {session : Session} (hrequest : call'.request = call.request)
    (hopened : call'.openedAt = call.openedAt) (h : Writes env call session) : Writes env call' session where
  posts := hrequest ▸ h.posts
  session := by rw [hrequest, hopened]; exact h.session

theorem Forwards.mono (h : Continues s s') {session : Session} {body : Body} {checked : Checked}
    (hf : Forwards env s i session body checked) : Forwards env s' i session body checked where
  writes := by
    obtain ⟨call, hcall, hwrites⟩ := hf.writes
    obtain ⟨call', hcall', hrequest, hopened⟩ := h.calls i call hcall
    exact ⟨call', hcall', hwrites.same hrequest hopened⟩
  forwarded := by
    obtain ⟨request, hparsed, hcheck, hmem⟩ := hf.forwarded
    exact ⟨request, hparsed, hcheck, h.forwarded hmem⟩

theorem Describes.mono (h : Continues s s') (hheard : s'.heardBy i = s.heardBy i) {now : ℤ} {entry : LogEntry}
    (hd : Describes env s i now entry) : Describes env s' i now entry := by
  cases hd with
  | rejected hcall hwrites hbody hparsed hrefused =>
    obtain ⟨call', hcall', hrequest, hopened⟩ := h.calls _ _ hcall
    exact .rejected hcall' (hwrites.same hrequest hopened) (hheard.trans hbody) hparsed hrefused
  | unreachable hforwards hbody => exact .unreachable (hforwards.mono h) (hheard.trans hbody)
  | answered hforwards hbody => exact .answered (hforwards.mono h) (hheard.trans hbody)

theorem Told.mono (h : Continues s s') (hheard : s'.heardBy i = s.heardBy i) {row : Row}
    (ht : Told env s i row) : Told env s' i row := by
  obtain ⟨now, entry, written, hdescribes, hrecord⟩ := ht
  exact ⟨now, entry, written, hdescribes.mono h hheard, hrecord⟩

theorem Told.settled {row row' : Row} (ht : Told env s i row) (h : SameRequest row row') :
    Told env s i row' := by
  obtain ⟨now, entry, written, hdescribes, hrecord, hsame⟩ := ht
  exact ⟨now, entry, written, hdescribes, hrecord, by rw [h.id_eq]; exact hsame.trans h⟩

theorem SettledBy.mono (h : Continues s s') {row : Row} (hs : SettledBy env s row) : SettledBy env s' row := by
  obtain ⟨x, hx, houtcome⟩ := hs
  exact ⟨x, h.heard hx, houtcome⟩

theorem PhaseTold.mono (h : Continues s s') (hheard : s'.heardBy i = s.heardBy i)
    (ht : PhaseTold env s i call) : PhaseTold env s' i call := by
  unfold PhaseTold at ht ⊢
  split at ht
  · exact ⟨ht.1, hheard.trans ht.2⟩
  · obtain ⟨body, sentAt, hforwards, hbody⟩ := ht
    exact ⟨body, sentAt, hforwards.mono h, hheard.trans hbody⟩
  · obtain ⟨body, sentAt, answeredAt, hforwards, hbody⟩ := ht
    exact ⟨body, sentAt, answeredAt, hforwards.mono h, hheard.trans hbody⟩
  · intro p hp
    obtain ⟨row, hrow, hid, hhash⟩ := ht p hp
    obtain ⟨row', hrow', hsame⟩ := h.rows row hrow
    exact ⟨row', hrow', by rw [hsame.id_eq, hid], by rw [hsame.userOpHash_eq, hhash]⟩
  · intro hrelays hopen
    obtain ⟨r, hr, hcall⟩ := ht hrelays (by rwa [h.unavailable] at hopen)
    exact ⟨r, h.recorded hr, hcall⟩
  · trivial

theorem ledger_init (now : ℤ) (log : HistoryLog) (earlier : List Minted) :
    Ledger env log (init now log earlier) where
  ids := by simp [init]
  inherited row hrow := .inl ⟨row, hrow, sameRequest_refl row⟩
  settled row hrow := .inl hrow
  phases _ _ h := by simp [init] at h
  heard _ h := by simp [init] at h
  ended _ h := by simp [init] at h
  once := by simp [init]

/-! ## One call goes on -/

theorem Quiet.continues (h : Quiet s s' i) (hcalls : ∀ (j : ℕ) (call : Backend.Call), s.calls[j]? = some call →
      ∃ call', s'.calls[j]? = some call' ∧ call'.request = call.request ∧ call'.openedAt = call.openedAt) :
    Continues s s' where
  calls := hcalls
  heard := by
    obtain ⟨new, hheard, -⟩ := h.heard
    rw [hheard]
    exact List.subset_append_left _ _
  forwarded := h.forwarded
  recorded := by rw [h.recorded]; exact List.Subset.refl _
  rows row hrow := ⟨row, by rw [h.log]; exact hrow, sameRequest_refl row⟩
  unavailable := by rw [h.log]

/-- The invariant without the phases is kept by a quiet step, if the call that it is about had no
    row. -/
theorem Ledger.keep (hs : Ledger env start s) (h : Quiet s s' i) (hcontinues : Continues s s')
    (hother : ∀ r ∈ s.recorded, r.call ≠ i) (hheard : ∀ h ∈ s'.heard, h.call < s'.calls.length)
    (hphases : ∀ (j : ℕ) (call : Backend.Call), s'.calls[j]? = some call → PhaseTold env s' j call)
    (hended : ∀ r ∈ s.recorded, ∃ call, s'.calls[r.call]? = some call ∧ ∃ reply, call.phase = .answered reply) :
    Ledger env start s' where
  ids := by rw [h.log, h.recorded, hs.ids]
  inherited row hrow := by
    rw [h.log] at hrow
    rcases hs.inherited row hrow with hold | ⟨r, hr, hid, htold⟩
    · exact .inl hold
    · exact .inr ⟨r, hcontinues.recorded hr, hid, htold.mono hcontinues (h.heardBy (hother r hr))⟩
  settled row hrow := by
    rw [h.log] at hrow
    rcases hs.settled row hrow with hold | hnone | hsettled
    · exact .inl hold
    · exact .inr (.inl hnone)
    · exact .inr (.inr (hsettled.mono hcontinues))
  phases := hphases
  heard := hheard
  ended r hr := by
    rw [h.recorded] at hr
    exact hended r hr
  once := by rw [h.recorded]; exact hs.once

/-- The call is not answered yet. -/
def Phase.Running (phase : Phase) : Prop := ∀ reply, phase ≠ .answered reply

/-- A call that is not answered has no row. -/
theorem Ledger.not_recorded (hs : Ledger env start s) (hcall : s.calls[i]? = some call)
    (hrunning : call.phase.Running) : ∀ r ∈ s.recorded, r.call ≠ i := by
  rintro r hr rfl
  obtain ⟨callᵣ, hcallᵣ, reply, hreply⟩ := hs.ended r hr
  rw [hcall] at hcallᵣ
  cases hcallᵣ
  exact hrunning reply hreply

/-- A recorded call is answered, and stays so when another one goes on. -/
theorem Advances.ended (h : Advances s s' i call call') (hs : Ledger env start s)
    (hother : ∀ r ∈ s.recorded, r.call ≠ i) :
    ∀ r ∈ s.recorded, ∃ callᵣ, s'.calls[r.call]? = some callᵣ ∧ ∃ reply, callᵣ.phase = .answered reply := by
  intro r hr
  rw [h.getElem?, if_neg (hother r hr)]
  exact hs.ended r hr

theorem Advances.told (h : Advances s s' i call call') (hcontinues : Continues s s')
    (hs : Ledger env start s) (hheard : ∀ j, j ≠ i → s'.heardBy j = s.heardBy j)
    (htold : PhaseTold env s' i call') :
    ∀ (j : ℕ) (callⱼ : Backend.Call), s'.calls[j]? = some callⱼ → PhaseTold env s' j callⱼ := by
  intro j callⱼ hj
  rw [h.getElem?] at hj
  split_ifs at hj with hij
  · cases hj
    rw [hij]
    exact htold
  · exact (hs.phases j callⱼ hj).mono hcontinues (hheard j hij)

/-- What has been received was received by calls, also after a step of one of them. -/
theorem Advances.heard (h : Advances s s' i call call') (hs : Ledger env start s)
    (hheard : ∃ new, s'.heard = s.heard ++ new ∧ ∀ x ∈ new, x.call = i) :
    ∀ x ∈ s'.heard, x.call < s'.calls.length := by
  obtain ⟨new, heq, hnew⟩ := hheard
  intro x hx
  rw [h.calls, List.length_set]
  rw [heq] at hx
  rcases List.mem_append.mp hx with hold | hx
  · exact hs.heard x hold
  · rw [hnew x hx]
    exact (List.getElem?_eq_some_iff.mp h.here).1

theorem Ledger.advance (hs : Ledger env start s) (h : Advances s s' i call call') (hquiet : Quiet s s' i)
    (hrunning : call.phase.Running) (htold : PhaseTold env s' i call') : Ledger env start s' := by
  have hcontinues := hquiet.continues h.kept
  have hother := hs.not_recorded h.here hrunning
  exact hs.keep hquiet hcontinues hother (h.heard hs hquiet.heard)
    (h.told hcontinues hs (fun _ => hquiet.heardBy) htold) (h.ended hs hother)

/-- The call is answered with something else than the bundler's answer. -/
theorem Ledger.answer (hs : Ledger env start s) (hquiet : Quiet s s₁ i) (hcalls : s₁.calls = s.calls)
    (hcall : s.calls[i]? = some call) (hrunning : call.phase.Running) {reply : Reply}
    (hreply : reply.relays = false) : Ledger env start (s₁.resume i call (.answered reply)) := by
  have hadv : Advances s (s₁.resume i call (.answered reply)) i call { call with phase := .answered reply } :=
    ⟨hcall, by rw [State.resume, hcalls], rfl, rfl⟩
  refine hs.advance hadv (hquiet.resume _) hrunning fun h => ?_
  rw [hreply] at h
  cases h

/-- Calls may come in while the others stand still. -/
theorem Ledger.stand (hs : Ledger env start s) (hlog : s'.log = s.log) (hrecorded : s'.recorded = s.recorded)
    (hforwarded : s'.forwarded = s.forwarded) (hheard : s'.heard = s.heard) {new : List Backend.Call}
    (hcalls : s'.calls = s.calls ++ new)
    (htold : ∀ (j : ℕ) (call : Backend.Call), s.calls.length ≤ j → s'.calls[j]? = some call →
      PhaseTold env s j call) : Ledger env start s' := by
  have hkept : ∀ (j : ℕ) (call : Backend.Call), s.calls[j]? = some call → s'.calls[j]? = some call := by
    intro j call hj
    rw [hcalls, List.getElem?_append_left (List.getElem?_eq_some_iff.mp hj).1, hj]
  have hquiet : Quiet s s' s.calls.length :=
    ⟨hlog, hrecorded, by rw [hforwarded]; exact List.Subset.refl _, [], by rw [hheard, List.append_nil], by simp⟩
  have hcontinues := hquiet.continues fun j call hj => ⟨call, hkept j call hj, rfl, rfl⟩
  have hby : ∀ j, s'.heardBy j = s.heardBy j := fun j => by rw [State.heardBy, hheard, State.heardBy]
  refine hs.keep hquiet hcontinues ?_ ?_ ?_ ?_
  · intro r hr hlength
    obtain ⟨callᵣ, hcall, -⟩ := hs.ended r hr
    have := (List.getElem?_eq_some_iff.mp hcall).1
    omega
  · intro x hx
    rw [hheard] at hx
    rw [hcalls, List.length_append]
    exact Nat.lt_add_right _ (hs.heard x hx)
  · intro j call hj
    by_cases hlt : j < s.calls.length
    · have hold : s.calls[j]? = some call := by rwa [hcalls, List.getElem?_append_left hlt] at hj
      exact (hs.phases j call hold).mono hcontinues (hby j)
    · exact (htold j call (by omega) hj).mono hcontinues (hby j)
  · intro r hr
    obtain ⟨callᵣ, hcall, hanswered⟩ := hs.ended r hr
    exact ⟨callᵣ, hkept _ _ hcall, hanswered⟩

/-! ## Rows -/

theorem recordEntry_eq_ok {now : ℤ} {entry : LogEntry} {log log' : HistoryLog} {id : Option ℕ}
    (h : recordEntry now entry log = .ok (id, log')) :
    (id = none ∧ log' = log ∧ log.unavailable ≠ none) ∨
    ∃ store written, log = .opened store ∧ Proxy.record now entry = .ok written ∧
      id = some (store.seq + 1) ∧ log' = .opened (store.insert (ofLogRow (store.seq + 1) written)) := by
  cases log with
  | disabled reason =>
    cases h
    exact .inl ⟨rfl, rfl, fun h => by cases h⟩
  | opened store =>
    right
    rw [recordEntry, record_ofLogEntry] at h
    cases hrecord : Proxy.record now entry with
    | error err =>
      rw [hrecord] at h
      cases h
    | ok written =>
      rw [hrecord] at h
      cases h
      exact ⟨store, written, rfl, rfl, rfl, rfl⟩

/-- A row for a call that had none, after it has received something. -/
theorem Ledger.insert (hs : Ledger env start s) (hcall : s.calls[i]? = some call)
    (hrunning : call.phase.Running) (received : Received) {entry : LogEntry}
    (hdescribes : Describes env (s.hear i received) i s.now entry) {store : Store} (hlog : s.log = .opened store)
    {written : LogRow} (hwritten : Proxy.record s.now entry = .ok written) (reply : Reply) :
    Ledger env start { (s.hear i received).resume i call (.answered reply) with
      log := .opened (store.insert (ofLogRow (store.seq + 1) written)),
      recorded := s.recorded ++ [⟨i, store.seq + 1⟩] } := by
  set row := ofLogRow (store.seq + 1) written with hrow
  set s' : State := { (s.hear i received).resume i call (.answered reply) with
    log := .opened (store.insert row), recorded := s.recorded ++ [⟨i, store.seq + 1⟩] } with hs'
  have hadv : Advances s s' i call { call with phase := .answered reply } := ⟨hcall, rfl, rfl, rfl⟩
  have hrows : s'.log.rows = s.log.rows ++ [row] := by
    rw [hlog]
    rfl
  have hcontinues : Continues s s' := {
    calls := hadv.kept
    heard := List.subset_append_left _ _
    forwarded := List.Subset.refl _
    recorded := List.subset_append_left _ _
    rows := fun r hr => ⟨r, by rw [hrows]; exact List.mem_append_left _ hr, sameRequest_refl r⟩
    unavailable := by rw [hlog]; rfl }
  have hhears : Continues (s.hear i received) s' := { hcontinues with
    calls := hadv.kept
    heard := List.Subset.refl _ }
  have hother := hs.not_recorded hcall hrunning
  have hby : ∀ j, j ≠ i → s'.heardBy j = s.heardBy j := fun j hj => (quiet_hear s i received).heardBy hj
  exact {
    ids := by
      rw [hrows, hs', List.map_append, List.map_append, hs.ids, List.append_assoc]
      rfl
    inherited := by
      intro r hr
      rw [hrows] at hr
      rcases List.mem_append.mp hr with hold | hnew
      · rcases hs.inherited r hold with hstart | ⟨r', hr', hid, htold⟩
        · exact .inl hstart
        · exact .inr ⟨r', hcontinues.recorded hr', hid, htold.mono hcontinues (hby _ (hother r' hr'))⟩
      · rw [List.mem_singleton.mp hnew]
        exact .inr ⟨⟨i, store.seq + 1⟩, by simp [hs'], rfl, s.now, entry, written,
          hdescribes.mono hhears rfl, hwritten, sameRequest_refl row⟩
    settled := by
      intro r hr
      rw [hrows] at hr
      rcases List.mem_append.mp hr with hold | hnew
      · rcases hs.settled r hold with hstart | hnone | hsettled
        · exact .inl hstart
        · exact .inr (.inl hnone)
        · exact .inr (.inr (hsettled.mono hcontinues))
      · rw [List.mem_singleton.mp hnew]
        exact .inr (.inl rfl)
    phases := hadv.told hcontinues hs hby fun _ _ => ⟨⟨i, store.seq + 1⟩, by simp [hs'], rfl⟩
    heard := hadv.heard hs (quiet_hear s i received).heard
    ended := by
      intro r hr
      rcases List.mem_append.mp hr with hold | hnew
      · exact hadv.ended hs hother r hold
      · rw [List.mem_singleton.mp hnew]
        exact ⟨_, hadv.here', reply, rfl⟩
    once := by
      rw [hs', List.map_append, List.nodup_append]
      refine ⟨hs.once, List.nodup_singleton _, ?_⟩
      intro j hj k hk hjk
      obtain ⟨r, hr, rfl⟩ := List.mem_map.mp hj
      rw [List.map_singleton, List.mem_singleton] at hk
      exact hother r hr (hjk.trans hk) }

theorem Ledger.recordThen (hs : Ledger env start s) (hcall : s.calls[i]? = some call)
    (hrunning : call.phase.Running) (received : Received) {entry : LogEntry}
    (hdescribes : Describes env (s.hear i received) i s.now entry) (reply : ProxyReply) :
    Ledger env start ((s.hear i received).recordThen env i call entry reply) := by
  unfold State.recordThen
  split
  · rename_i id log hrecord
    have hrecord : recordEntry s.now entry s.log = .ok (id, log) := hrecord
    rcases recordEntry_eq_ok hrecord with ⟨rfl, rfl, hdisabled⟩ | ⟨store, written, hlog, hwritten, rfl, rfl⟩
    · have hadv : Advances s { (s.hear i received).resume i call (.answered (.proxy reply)) with
          log := s.log, recorded := s.recorded ++ [] } i call { call with phase := .answered (.proxy reply) } :=
        ⟨hcall, rfl, rfl, rfl⟩
      have hquiet : Quiet s { (s.hear i received).resume i call (.answered (.proxy reply)) with
          log := s.log, recorded := s.recorded ++ [] } i :=
        ⟨rfl, List.append_nil _, List.Subset.refl _, (quiet_hear s i received).heard⟩
      exact hs.advance hadv hquiet hrunning fun _ hopen => absurd hopen hdisabled
    · exact hs.insert hcall hrunning received hdescribes hlog hwritten (.proxy reply)
  · exact hs.answer (quiet_hear s i received) rfl hcall hrunning rfl

/-! ## Outcomes -/

/-- What `settle` writes for an outcome. -/
def writtenOutcome (now : ℤ) (outcome : ReceiptOutcome) : Outcome where
  success := if outcome.success then 1 else 0
  revertReason := outcome.revertReason.map clipText
  txHash := outcome.transactionHash.map clipText
  settledAt := now

theorem clip_map_str (text : Option String) : clip (text.map .str) = .ok (text.map clipText) := by
  cases text <;> rfl

theorem settleRow_opened (now : ℤ) (id : ℕ) (outcome : ReceiptOutcome) (store : Store) :
    settleRow now id outcome (.opened store) = .opened (store.update id (writtenOutcome now outcome)) := by
  have hsettle : store.settle now id (settlementOf outcome) =
      .ok (store.update id (writtenOutcome now outcome)) := by
    simp only [Store.settle, settlementOf, clip_map_str]
    rfl
  rw [settleRow, hsettle]

theorem rows_settleRow (now : ℤ) (id : ℕ) (outcome : ReceiptOutcome) (log : HistoryLog) :
    (settleRow now id outcome log).rows =
      log.rows.map fun row => row.settledAs id (writtenOutcome now outcome) := by
  cases log with
  | opened store =>
    rw [settleRow_opened]
    rfl
  | disabled reason => rfl

theorem unavailable_settleRow (now : ℤ) (id : ℕ) (outcome : ReceiptOutcome) (log : HistoryLog) :
    (settleRow now id outcome log).unavailable = log.unavailable := by
  cases log with
  | opened store =>
    rw [settleRow_opened]
    rfl
  | disabled reason => rfl

theorem HistoryLog.eq_of_id {log : HistoryLog} {row row' : Row} (h : row ∈ log.rows) (h' : row' ∈ log.rows)
    (hid : row.id = row'.id) : row = row' := by
  cases log with
  | opened store => exact List.inj_on_of_nodup_map store.nodup h h' hid
  | disabled reason => cases h

theorem settledAs_of_ne {row : Row} {id : ℕ} (outcome : Outcome) (h : row.id ≠ id) :
    row.settledAs id outcome = row := by
  rw [Row.settledAs, if_neg h]

/-- A receipt settles the row of its own operation. -/
theorem Ledger.settle (hs : Ledger env start s) (hcall : s.calls[i]? = some call) {limit : JsNumber}
    {asked : List (ℕ × Option String)} (hphase : call.phase = .settling limit asked)
    {row : ℕ × Option String} (hrow : row ∈ asked) {receipt : UserOpReceipt} {outcome : ReceiptOutcome}
    (houtcome : outcomeFromReceipt env.ethers env.parseLog (row.2.getD "") (some receipt) = some outcome) :
    Ledger env start
      { (s.hear i (.receipt row (some receipt))).resume i call (.settling limit (asked.erase row)) with
        log := settleRow s.now row.1 outcome s.log } := by
  have hquiet := quiet_hear s i (.receipt row (some receipt))
  set s' : State :=
    { (s.hear i (.receipt row (some receipt))).resume i call (.settling limit (asked.erase row)) with
      log := settleRow s.now row.1 outcome s.log } with hs'
  have hadv : Advances s s' i call { call with phase := .settling limit (asked.erase row) } :=
    ⟨hcall, rfl, rfl, rfl⟩
  have hrows : s'.log.rows = s.log.rows.map fun r => r.settledAs row.1 (writtenOutcome s.now outcome) :=
    rows_settleRow _ _ _ _
  have hcontinues : Continues s s' := {
    calls := hadv.kept
    heard := List.subset_append_left _ _
    forwarded := List.Subset.refl _
    recorded := List.Subset.refl _
    rows := fun r hr => ⟨_, by rw [hrows]; exact List.mem_map_of_mem hr, sameRequest_settledAs r _ _⟩
    unavailable := unavailable_settleRow _ _ _ _ }
  have hother := hs.not_recorded hcall (by rw [hphase]; exact fun _ h => by cases h)
  have hby : ∀ j, j ≠ i → s'.heardBy j = s.heardBy j := fun j hj => hquiet.heardBy hj
  have hasked : ∀ p ∈ asked, ∃ r ∈ s.log.rows, r.id = p.1 ∧ r.userOpHash = p.2 := by
    have htold := hs.phases i call hcall
    rwa [PhaseTold, hphase] at htold
  exact {
    ids := by
      rw [hrows, List.map_map]
      exact (List.map_congr_left fun r _ => Row.settledAs_id r _ _).trans hs.ids
    inherited := by
      intro r' hr'
      rw [hrows] at hr'
      obtain ⟨r, hr, rfl⟩ := List.mem_map.mp hr'
      have hsame := sameRequest_settledAs r row.1 (writtenOutcome s.now outcome)
      rcases hs.inherited r hr with ⟨row₀, hrow₀, hsame₀⟩ | ⟨rec, hrec, hid, htold⟩
      · exact .inl ⟨row₀, hrow₀, hsame₀.trans hsame⟩
      · exact .inr ⟨rec, hrec, by rw [hid, hsame.id_eq],
          (htold.mono hcontinues (hby _ (hother rec hrec))).settled hsame⟩
    settled := by
      intro r' hr'
      rw [hrows] at hr'
      obtain ⟨r, hr, rfl⟩ := List.mem_map.mp hr'
      by_cases hid : r.id = row.1
      · -- the row that was asked for is the one with this id
        obtain ⟨r₁, hr₁, hid₁, hhash⟩ := hasked row hrow
        have heq := HistoryLog.eq_of_id hr hr₁ (hid.trans hid₁.symm)
        right
        right
        rw [Row.settledAs, if_pos hid]
        refine ⟨⟨i, s.now, .receipt row (some receipt)⟩, by simp [hs', State.resume, State.hear], receipt, outcome,
          ?_, ?_, rfl, rfl, rfl, rfl⟩
        · show Received.receipt row _ = .receipt (r.id, r.userOpHash) _
          rw [heq, hid₁, hhash]
        · show outcomeFromReceipt _ _ (r.userOpHash.getD "") _ = _
          rw [heq, hhash]
          exact houtcome
      · rw [settledAs_of_ne _ hid]
        rcases hs.settled r hr with hstart | hnone | hsettled
        · exact .inl hstart
        · exact .inr (.inl hnone)
        · exact .inr (.inr (hsettled.mono hcontinues))
    phases := hadv.told hcontinues hs hby fun p hp => by
      obtain ⟨r, hr, hid, hhash⟩ := hasked p (List.mem_of_mem_erase hp)
      obtain ⟨r', hr', hsame⟩ := hcontinues.rows r hr
      exact ⟨r', hr', by rw [hsame.id_eq, hid], by rw [hsame.userOpHash_eq, hhash]⟩
    heard := hadv.heard hs hquiet.heard
    ended := hadv.ended hs hother
    once := hs.once }

theorem Ledger.afterReceipt (hs : Ledger env start s) (hcall : s.calls[i]? = some call) {limit : JsNumber}
    {asked : List (ℕ × Option String)} (hphase : call.phase = .settling limit asked)
    {row : ℕ × Option String} (hrow : row ∈ asked) (receipt : Option UserOpReceipt) :
    Ledger env start (afterReceipt env (s.hear i (.receipt row receipt)) i call limit asked row receipt) := by
  unfold Backend.afterReceipt
  simp only
  split
  · rename_i receipt outcome houtcome
    exact hs.settle hcall hphase hrow houtcome
  · refine hs.advance ⟨hcall, rfl, rfl, rfl⟩ ((quiet_hear s i _).resume _)
      (by rw [hphase]; exact fun _ h => by cases h) ?_
    have htold := hs.phases i call hcall
    rw [PhaseTold, hphase] at htold
    exact fun p hp => htold p (List.mem_of_mem_erase hp)

/-! ## Requests -/

theorem mem_selectNewest {rows selected : List Row} {limit : ℤ} (h : selectNewest rows limit = .ok selected)
    {row : Row} (hrow : row ∈ selected) : row ∈ rows := by
  unfold selectNewest at h
  split_ifs at h with hrange hneg
  · cases h
    exact mem_sortDesc.mp hrow
  · cases h
    exact mem_sortDesc.mp (List.mem_of_mem_take hrow)

/-- The rows that are asked for stand in the log. -/
theorem pendingRows_told {limit : JsNumber} {log : HistoryLog} {asked : List (ℕ × Option String)}
    (h : pendingRows limit log = .ok asked) :
    ∀ p ∈ asked, ∃ row ∈ log.rows, row.id = p.1 ∧ row.userOpHash = p.2 := by
  cases log with
  | disabled reason =>
    cases h
    simp
  | opened store =>
    obtain ⟨n, -, hpending⟩ := bind_eq_ok.mp h
    unfold Store.pending at hpending
    cases hselect : selectNewest (store.rows.filter Row.awaiting) n with
    | error err =>
      rw [hselect] at hpending
      cases hpending
    | ok selected =>
      rw [hselect] at hpending
      cases hpending
      intro p hp
      obtain ⟨row, hrow, rfl⟩ := List.mem_map.mp hp
      exact ⟨row, (List.mem_filter.mp (mem_selectNewest hselect hrow)).1, rfl, rfl⟩

/-- The phases that a request may start in. -/
theorem openCall_told {req : Request} {phase : Phase} (h : openCall env s req = some phase) {i : ℕ}
    (hheard : s.heardBy i = []) : PhaseTold env s i ⟨req, s.now, phase⟩ := by
  have hanswer : ∀ {reply : Reply}, reply.relays = false → PhaseTold env s i ⟨req, s.now, .answered reply⟩ := by
    intro reply hreply hrelays
    rw [hreply] at hrelays
    cases hrelays
  unfold openCall at h
  split at h
  · cases h
    split <;> exact hanswer rfl
  · cases h
    exact hanswer rfl
  · cases h
    exact hanswer rfl
  · cases h
    exact hanswer rfl
  · split at h <;> cases h <;> exact hanswer rfl
  · cases h
    unfold openSession
    split_ifs
    · exact hanswer rfl
    · exact hanswer rfl
    · exact hanswer rfl
    · exact hanswer rfl
    · trivial
  · rename_i hroute
    unfold openBundler at h
    split_ifs at h with hmethod
    · cases h
      exact hanswer rfl
    split at h
    · cases h
      exact hanswer rfl
    · rename_i parsed hparsed
      obtain ⟨session, hsession, rfl⟩ := Option.map_eq_some_iff.mp h
      obtain ⟨hadmitted, hhandler⟩ := admitted_of_route hroute rfl
      refine ⟨⟨⟨not_not.mp hmethod, handlerOf_bundler hhandler, hadmitted⟩, ?_⟩, hheard⟩
      show (env.current s.now req).bind sessionOf = some session
      rw [hparsed, Option.bind_some, hsession]
  · cases h
    unfold openHistory
    split_ifs
    · exact hanswer rfl
    · exact hanswer rfl
    · simp only
      split
      · exact hanswer rfl
      · rename_i asked hpending
        exact pendingRows_told hpending
  · cases h
    exact hanswer rfl
  · cases h
    exact hanswer rfl

theorem Ledger.opened (hs : Ledger env start s) {req : Request} {phase : Phase}
    (hopen : openCall env s req = some phase) :
    Ledger env start { s with calls := s.calls ++ [⟨req, s.now, phase⟩] } := by
  refine hs.stand rfl rfl rfl rfl rfl fun j call hj hcall => ?_
  have hlast : j = s.calls.length := by
    have := (List.getElem?_eq_some_iff.mp hcall).1
    simp at this
    omega
  subst hlast
  rw [List.getElem?_concat_length] at hcall
  cases hcall
  -- nothing was received by a call that was not there
  have hheard : s.heardBy s.calls.length = [] := by
    rw [State.heardBy, List.map_eq_nil_iff, List.filter_eq_nil_iff]
    intro x hx
    have := hs.heard x hx
    simp
    omega
  exact openCall_told hopen hheard

theorem Ledger.clock (hs : Ledger env start s) (now : ℤ) : Ledger env start { s with now := now } := by
  refine hs.stand rfl rfl rfl rfl (List.append_nil _).symm fun j call hj hcall => ?_
  have := (List.getElem?_eq_some_iff.mp hcall).1
  exact absurd this (by simpa using hj)

/-! ## The awaits -/

theorem Ledger.issue (hs : Ledger env start s) (hcall : s.calls[i]? = some call)
    (hrunning : call.phase.Running) (identity : Auth.Identity) (token : CachedToken) :
    Ledger env start (issue env s i call identity token) := by
  unfold Backend.issue
  split
  · obtain ⟨hlog, hrecorded, hforwarded, hheard⟩ := quiet_refl s i
    exact hs.advance ⟨hcall, rfl, rfl, rfl⟩ ⟨hlog, hrecorded, hforwarded, hheard⟩ hrunning (fun h => by cases h)
  · exact hs.answer (quiet_refl s i) rfl hcall hrunning rfl

theorem Ledger.afterVerify (hs : Ledger env start s) (hcall : s.calls[i]? = some call)
    (hrunning : call.phase.Running) (result : Except Auth.VerifyError Auth.Identity) :
    Ledger env start (afterVerify env s i call result) := by
  unfold Backend.afterVerify
  split
  · exact hs.answer (quiet_refl s i) rfl hcall hrunning rfl
  · exact hs.answer (quiet_refl s i) rfl hcall hrunning rfl
  · split
    · exact hs.issue hcall hrunning _ _
    · exact hs.advance (advances_resume hcall _) ((quiet_refl s i).resume _) hrunning trivial

theorem Ledger.afterToken (hs : Ledger env start s) (hcall : s.calls[i]? = some call)
    (hrunning : call.phase.Running) (identity : Auth.Identity) (startedAt : ℤ) (reply : TokenReply) :
    Ledger env start (afterToken env s i call identity startedAt reply) := by
  have hnoted : ∀ cache : Option CachedToken, Ledger env start
      { s with answers := s.answers ++ [⟨i, startedAt, reply⟩], cache := cache } := by
    intro cache
    refine hs.stand rfl rfl rfl rfl (List.append_nil _).symm fun j call hj hcall => ?_
    have := (List.getElem?_eq_some_iff.mp hcall).1
    exact absurd this (by simpa using hj)
  unfold Backend.afterToken
  simp only
  split
  · exact (hnoted s.cache).answer (quiet_refl _ i) rfl hcall hrunning rfl
  · exact (hnoted _).issue hcall hrunning _ _

theorem Ledger.afterBody (hs : Ledger env start s) (hcall : s.calls[i]? = some call) {session : Session}
    (hphase : call.phase = .readingBody session) (body : Except BodyError Body) :
    Ledger env start (afterBody env (s.hear i (.body body)) i call session body) := by
  have hrunning : call.phase.Running := by
    rw [hphase]
    intro _ h
    cases h
  have htold := hs.phases i call hcall
  rw [PhaseTold, hphase] at htold
  obtain ⟨hwrites, hnone⟩ := htold
  have hheard : (s.hear i (.body body)).heardBy i = [(s.now, .body body)] := by
    rw [heardBy_hear, hnone, List.nil_append]
  unfold Backend.afterBody
  split
  · exact hs.answer (quiet_hear s i _) rfl hcall hrunning rfl
  rename_i body
  split
  · exact hs.answer (quiet_hear s i _) rfl hcall hrunning rfl
  rename_i request hparsed
  split
  · rename_i message hrefused
    exact hs.recordThen hcall hrunning _ (.rejected hcall hwrites hheard hparsed hrefused) _
  · exact hs.answer (quiet_hear s i _) rfl hcall hrunning rfl
  · rename_i checked hcheck
    set s' : State := { (s.hear i (.body (.ok body))).resume i call (.forwarding session checked) with
      forwarded := s.forwarded ++ [⟨i, session, request, checked, forwardOf env.proxy session body⟩] }
    have hadv : Advances s s' i call { call with phase := .forwarding session checked } := ⟨hcall, rfl, rfl, rfl⟩
    have hforwards : Forwards env s' i session body checked :=
      ⟨⟨_, hadv.here', hwrites.posts, hwrites.session⟩, request, hparsed, hcheck,
        List.mem_append_right _ (List.mem_singleton.mpr rfl)⟩
    exact hs.advance hadv ⟨rfl, rfl, List.subset_append_left _ _, (quiet_hear s i _).heard⟩ hrunning
      ⟨body, s.now, hforwards, hheard⟩

/-- A call that has received something is the one that forwarded its body. -/
theorem Forwards.hear {session : Session} {body : Body} {checked : Checked}
    (h : Forwards env s i session body checked) (j : ℕ) (received : Received) :
    Forwards env (s.hear j received) i session body checked := ⟨h.writes, h.forwarded⟩

theorem Ledger.afterUpstream (hs : Ledger env start s) (hcall : s.calls[i]? = some call) {session : Session}
    {checked : Checked} (hphase : call.phase = .forwarding session checked)
    (reply : Except JsError (ℕ × Option String)) :
    Ledger env start (afterUpstream env (s.hear i (.upstream reply)) i call session checked reply) := by
  have hrunning : call.phase.Running := by
    rw [hphase]
    intro _ h
    cases h
  have htold := hs.phases i call hcall
  rw [PhaseTold, hphase] at htold
  obtain ⟨body, sentAt, hforwards, hbody⟩ := htold
  have hheard : (s.hear i (.upstream reply)).heardBy i =
      [(sentAt, .body (.ok body)), (s.now, .upstream reply)] := by
    rw [heardBy_hear, hbody, List.singleton_append]
  unfold Backend.afterUpstream
  split
  · exact hs.recordThen hcall hrunning _ (.unreachable (hforwards.hear i _) hheard) _
  · rename_i status contentType
    have hadv : Advances s ((s.hear i (.upstream (.ok (status, contentType)))).resume i call
        (.readingText session checked status contentType)) i call
        { call with phase := .readingText session checked status contentType } := ⟨hcall, rfl, rfl, rfl⟩
    have hquiet : Quiet s ((s.hear i (.upstream (.ok (status, contentType)))).resume i call
        (.readingText session checked status contentType)) i := (quiet_hear s i _).resume _
    exact hs.advance hadv hquiet hrunning
      ⟨body, sentAt, s.now, hforwards.mono (hquiet.continues hadv.kept), hheard⟩

theorem Ledger.afterText (hs : Ledger env start s) (hcall : s.calls[i]? = some call) {session : Session}
    {checked : Checked} {status : ℕ} {contentType : Option String}
    (hphase : call.phase = .readingText session checked status contentType) (text : Except JsError Body) :
    Ledger env start (afterText env (s.hear i (.text text)) i call session checked status contentType text) := by
  have hrunning : call.phase.Running := by
    rw [hphase]
    intro _ h
    cases h
  have htold := hs.phases i call hcall
  rw [PhaseTold, hphase] at htold
  obtain ⟨body, sentAt, answeredAt, hforwards, hbody⟩ := htold
  have hheard : (s.hear i (.text text)).heardBy i = [(sentAt, .body (.ok body)),
      (answeredAt, .upstream (.ok (status, contentType))), (s.now, .text text)] := by
    rw [heardBy_hear, hbody]
    rfl
  unfold Backend.afterText
  split
  · exact hs.answer (quiet_hear s i _) rfl hcall hrunning rfl
  · exact hs.recordThen hcall hrunning _ (.answered (hforwards.hear i _) hheard) _

/-! ## Runs -/

theorem ledger_step {e : Event κ} (hs : Ledger env start s) (hstep : step env s e = some s') :
    Ledger env start s' := by
  cases e with
  | clock now =>
    cases hstep
    exact hs.clock now
  | request req =>
    obtain ⟨phase, hphase, rfl⟩ := Option.map_eq_some_iff.mp hstep
    exact hs.opened hphase
  | verified i jwks keys =>
    simp only [step] at hstep
    split at hstep
    · rename_i hcall
      cases hstep
      exact hs.afterVerify hcall (fun _ h => by cases h) _
    · cases hstep
  | token i reply =>
    simp only [step] at hstep
    split at hstep
    · rename_i hcall
      cases hstep
      exact hs.afterToken hcall (fun _ h => by cases h) _ _ reply
    · cases hstep
  | body i body =>
    simp only [step] at hstep
    split at hstep
    · rename_i hcall
      cases hstep
      exact hs.afterBody hcall rfl body
    · cases hstep
  | upstream i reply =>
    simp only [step] at hstep
    split at hstep
    · rename_i hcall
      cases hstep
      exact hs.afterUpstream hcall rfl reply
    · cases hstep
  | text i text =>
    simp only [step] at hstep
    split at hstep
    · rename_i hcall
      cases hstep
      exact hs.afterText hcall rfl text
    · cases hstep
  | receipt i row receipt =>
    simp only [step] at hstep
    split at hstep
    · rename_i hcall
      split_ifs at hstep with hrow
      cases hstep
      exact hs.afterReceipt hcall rfl hrow receipt
    · cases hstep
  | page i =>
    simp only [step] at hstep
    split at hstep
    · rename_i hcall
      cases hstep
      unfold answerPage
      split <;> exact hs.answer (quiet_refl s i) rfl hcall (fun _ h => by cases h) rfl
    · cases hstep

theorem ledger_run {now : ℤ} {log : HistoryLog} {earlier : List Minted}
    (h : Reachable (step env) (init now log earlier) s) : Ledger env log s :=
  h.invariant (ledger_init now log earlier) fun _ _ _ hs _ hstep => ledger_step hs hstep

end AccountAbstraction.Proxy.Backend
