import AccountAbstraction.Proxy.Ledger
import AccountAbstraction.Proxy.SignedWrites

/-!
# What the write log says of a run

* `rows_told`: each row was added for one call and tells what became of it, and an answer of the
  bundler that was passed on has its row.
* `rows_settled`: a row has the outcome of its own operation.
-/

namespace AccountAbstraction.Proxy.Backend

open Js WriteLog

variable {κ : Type} {env : Env κ} {s : State}

/-! ## Rows -/

/-- In every run, the rows of the log are those that it had, in their order, and one for each
    call that was recorded. Such a row is about a write with a session: what `record` makes of the
    refusal of its body by the policy, or of what it received after its body was forwarded. An
    answer of the bundler is passed on only after its row was written. -/
theorem rows_told {now : ℤ} {log : HistoryLog} {earlier : List Minted}
    (h : Reachable (step env) (init now log earlier) s) :
    s.log.rows.map (·.id) = log.rows.map (·.id) ++ s.recorded.map (·.row) ∧
    (s.recorded.map (·.call)).Nodup ∧
    (∀ row ∈ s.log.rows, (∃ row₀ ∈ log.rows, SameRequest row₀ row) ∨
      ∃ r ∈ s.recorded, r.row = row.id ∧ Told env s r.call row) ∧
    ∀ (i : ℕ) (call : Backend.Call) (reply : Reply), s.calls[i]? = some call →
      call.phase = .answered reply → reply.relays = true → s.log.unavailable = none →
      ∃ r ∈ s.recorded, r.call = i := by
  have hs := ledger_run h
  refine ⟨hs.ids, hs.once, hs.inherited, fun i call reply hcall hphase => ?_⟩
  have htold := hs.phases i call hcall
  rwa [PhaseTold, hphase] at htold

/-- A write that the bundler has answered, and its row. -/
theorem rows_told_sample : ∃ s row r, s.log.rows = [row] ∧ s.recorded = [r] ∧ r.row = row.id ∧
    Told sampleBackend s r.call row := by
  obtain ⟨s, f, hreach, hcall, -, -, hrecorded, hlog⟩ := user_writes (.opened Store.empty)
  have hreachable : Reachable (step sampleBackend) (init 0 (.opened Store.empty) []) s :=
    hreach.mono fun _ _ _ => trivial
  -- the answer comes in two parts
  let call : Backend.Call := ⟨writeRequest, sampleNow, .forwarding sampleOwner sampleChecked⟩
  let reading : Backend.Call := ⟨writeRequest, sampleNow, .readingText sampleOwner sampleChecked 200 none⟩
  obtain ⟨s₁, hupstream, hcall₁, hrecorded₁, hlog₁⟩ : ∃ s₁, step sampleBackend s (.upstream 1 (.ok (200, none))) =
      some s₁ ∧ s₁.calls[1]? = some reading ∧ s₁.recorded = [] ∧ s₁.log = .opened Store.empty := by
    refine ⟨(s.hear 1 (.upstream (.ok (200, none)))).resume 1 call reading.phase, ?_, ?_, hrecorded, hlog⟩
    · simp only [step, hcall]
      rfl
    · exact List.getElem?_set_self (List.getElem?_eq_some_iff.mp hcall).1
  let entry := answeredEntry sampleOwner sampleChecked ⟨200, none, .ok sampleAnswer⟩ sampleAnswer
  obtain ⟨written, hwritten⟩ : ∃ written, Proxy.record s₁.now entry = .ok written :=
    (Proxy.record_eq_ok s₁.now).mpr ⟨writable_str, writable_str, writable_map_str none⟩
  have hentry : recordEntry s₁.now entry s₁.log =
      .ok (some 1, .opened (Store.empty.insert (ofLogRow 1 written))) := by
    rw [hlog₁, recordEntry, record_ofLogEntry, hwritten]
    rfl
  obtain ⟨s₂, htext, hrows, hrecorded₂⟩ : ∃ s₂, step sampleBackend s₁ (.text 1 (.ok sampleAnswer)) = some s₂ ∧
      s₂.log.rows = [ofLogRow 1 written] ∧ s₂.recorded = [⟨1, 1⟩] := by
    have hafter : step sampleBackend s₁ (.text 1 (.ok sampleAnswer)) =
        some ((s₁.hear 1 (.text (.ok sampleAnswer))).recordThen sampleBackend 1 reading entry
          (relay sampleBackend.proxy writeRequest.proxy ⟨200, none, .ok sampleAnswer⟩ sampleAnswer)) := by
      simp only [step, hcall₁]
      rfl
    have hheard : recordEntry (s₁.hear 1 (.text (.ok sampleAnswer))).now entry
        (s₁.hear 1 (.text (.ok sampleAnswer))).log = _ := hentry
    rw [State.recordThen, hheard] at hafter
    exact ⟨_, hafter, rfl, congrArg (fun rows : List Recording => rows ++ [⟨1, 1⟩]) hrecorded₁⟩
  have hreach₂ := Reach.next (Event.text 1 (.ok sampleAnswer))
    (Reach.next (Event.upstream 1 (.ok (200, none))) hreachable trivial hupstream) trivial htext
  obtain ⟨-, -, htold, -⟩ := rows_told hreach₂
  refine ⟨s₂, ofLogRow 1 written, ⟨1, 1⟩, hrows, hrecorded₂, rfl, ?_⟩
  rcases htold (ofLogRow 1 written) (by rw [hrows]; exact List.mem_singleton.mpr rfl) with
    ⟨row₀, hrow₀, -⟩ | ⟨r, hr, -, htold⟩
  · cases hrow₀
  · rw [hrecorded₂, List.mem_singleton] at hr
    rwa [hr] at htold

/-- In every run, a row is as it was at the start, has no outcome yet, or has the outcome in a
    receipt that the bundler gave for the hash in that row. -/
theorem rows_settled {now : ℤ} {log : HistoryLog} {earlier : List Minted}
    (h : Reachable (step env) (init now log earlier) s) :
    ∀ row ∈ s.log.rows, row ∈ log.rows ∨ row.settledAt = none ∨ SettledBy env s row :=
  (ledger_run h).settled

/-! ## A row that is settled -/

def sentStore : Store := Store.empty.insert sentRow

def historyUrl : String := encodedUrl "/api/history" "limit" "1"

def historyRequest : Request where
  method := "GET"
  url := historyUrl
  headers := { host := some "localhost:5173" }
  cookie := some writeCookie

theorem historyRequest_opens {s : State} (hnow : s.now = sampleNow) (hlog : s.log = .opened sentStore) :
    ∃ limit, openCall sampleBackend s historyRequest = some (.settling limit [(1, some "0x00")]) := by
  have hroute : route sampleBackend.parseUrl sampleBackend.guards historyRequest.headers
      historyRequest.method historyRequest.url = .history := by decide +kernel
  have hcurrent : sampleBackend.current s.now historyRequest = some Auth.sampleSession.parsed := by
    rw [hnow]
    exact write_parsed
  have husable : usableLimit historyUrl = some (.int 1) :=
    usableLimit_limitRequest (by decide +kernel) (by decide +kernel) rfl
  have hlimit : limitOf none historyUrl = .int 1 := by
    rw [limitOf, husable]
    rfl
  have hpending : pendingRows (.int 1) (.opened sentStore) = .ok [(1, some "0x00")] := rfl
  refine ⟨.int 1, ?_⟩
  rw [openCall, hroute]
  simp only [openHistory, hcurrent, hlog]
  rw [show sampleBackend.userOpLogLimit = none from rfl, show historyRequest.url = historyUrl from rfl, hlimit,
    hpending]
  rfl

/-- The user asks for the history, and the bundler has the receipt. -/
theorem rows_settled_sample : ∃ s row, row ∈ s.log.rows ∧ row ∉ sentStore.rows ∧ row.settledAt ≠ none ∧
    SettledBy sampleBackend s row := by
  obtain ⟨s, m, hreach, hsigned⟩ := signed_in (.opened sentStore)
  obtain ⟨limit, hopen⟩ := historyRequest_opens hsigned.now hsigned.log
  obtain ⟨s₁, hreach₁, hcall, -, -, hlog⟩ := user_requests hreach hsigned rfl hopen
  let asked : ℕ × Option String := (1, some "0x00")
  let receipt : Option UserOpReceipt := some { success := some true }
  have hstep : step sampleBackend s₁ (.receipt 1 asked receipt) =
      some (afterReceipt sampleBackend (s₁.hear 1 (.receipt asked receipt)) 1
        ⟨historyRequest, sampleNow, .settling limit [asked]⟩ limit [asked] asked receipt) := by
    simp only [step, hcall]
    rfl
  have hreachable : Reachable (step sampleBackend) (init 0 (.opened sentStore) []) s₁ :=
    hreach₁.mono fun _ _ _ => trivial
  have hreach₂ := Reach.next (Event.receipt 1 asked receipt) hreachable trivial hstep
  let row := sentRow.settled (writtenOutcome s₁.now ⟨true, none, none⟩)
  obtain ⟨s₂, hs₂, hrows⟩ : ∃ s₂, Reachable (step sampleBackend) (init 0 (.opened sentStore) []) s₂ ∧
      s₂.log.rows = [row] := by
    refine ⟨_, hreach₂, ?_⟩
    show (settleRow s₁.now 1 ⟨true, none, none⟩ s₁.log).rows = [row]
    rw [hlog, rows_settleRow]
    rfl
  have hrow : row ∈ s₂.log.rows := by
    rw [hrows]
    exact List.mem_singleton.mpr rfl
  have hnew : row ∉ sentStore.rows := by
    intro h
    have hsettled := congrArg Row.settledAt (List.mem_singleton.mp h)
    cases hsettled
  rcases rows_settled hs₂ row hrow with h | h | h
  · exact absurd h hnew
  · cases h
  · exact ⟨s₂, row, hrow, hnew, (fun h => by cases h), h⟩

end AccountAbstraction.Proxy.Backend
