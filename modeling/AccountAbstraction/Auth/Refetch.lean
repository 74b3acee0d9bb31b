import AccountAbstraction.Auth.Privy
import AccountAbstraction.Run
import AccountAbstraction.SingleFlight

/-!
# How often the JWKS is fetched

The verifier of `server/privy-auth.mjs` under concurrent calls. A call runs without a
pause from one `await` to the next; a load is a fetch, the reading of its body, the
settlement of its promise and, in a step of its own, the `finally` that gives up
`inFlight`. The clock is set by an event of its own, to any time.

`JWKS_MIN_REFETCH_MS` is promised between any two fetches (lines 21-23). A fetch that
fails leaves `fetchedAt` and the keys as they were, so that the next call with an
unknown `kid` fetches again at once.

* `fetches_again`: two fetches without any time between them.
* `single_fetch`: one fetch is under way at a time, in every run.
* `refetch_bound`: if no call asks for a fetch within the time after a fetch that
  failed, and no load ends at a clock before its start, then one fetch is
  under way at a time and any two in a row start more than the minimum apart.
-/

namespace AccountAbstraction.Auth

open Js

variable {κ : Type}

/-! ## Loads and calls -/

/-- Where a load stands: `await fetchImpl(url)` (line 51), `await res.json()` (line 56),
    settled, or past the `finally` (lines 70-72). -/
inductive LoadPhase
  | fetching
  | reading (status : ℕ)
  | settled (result : Except VerifyError Unit)
  | finished (result : Except VerifyError Unit)

structure Load where
  startedAt : ℤ
  phase : LoadPhase

/-- The request or its body is outstanding. -/
def Load.underWay (l : Load) : Bool :=
  match l.phase with
  | .fetching => true
  | .reading _ => true
  | _ => false

def Load.ended (l : Load) : Bool :=
  match l.phase with
  | .finished _ => true
  | _ => false

def Load.failed (l : Load) : Bool :=
  match l.phase with
  | .settled (.error _) => true
  | .finished (.error _) => true
  | _ => false

def Load.succeeded (l : Load) : Bool :=
  match l.phase with
  | .settled (.ok _) => true
  | .finished (.ok _) => true
  | _ => false

/-- The parts of a token whose header has been read (lines 94-103). -/
structure Token where
  p₀ : List Char
  p₁ : List Char
  p₂ : List Char
  kid : Json

/-- Lines 94-103. -/
def readToken (authorization : Option String) : Except VerifyError Token := do
  let (p₀, p₁, p₂) ← segments authorization
  let kid ← readHeader p₀
  .ok ⟨p₀, p₁, p₂, kid⟩

/-- Where a call of `verify` stands: at the `await` of line 78, at that of line 82, or
    settled. -/
inductive CallState
  | staleWait (token : Token) (load : ℕ)
  | refetchWait (token : Token) (load : ℕ)
  | done (result : Except VerifyError Identity)

/-- The state of a verifier (lines 42-44): `loads.current` is `inFlight`. -/
structure Verifying (κ : Type) where
  now : ℤ := 0
  jwks : Jwks κ := {}
  loads : Flights Load := .empty
  calls : List CallState := []

/-! ## What a call does without a pause -/

/-- `loadJwks` (lines 46-74) up to its first `await`. -/
def Verifying.loadJwks (s : Verifying κ) : Verifying κ × ℕ :=
  let (loads, i) := s.loads.join ⟨s.now, .fetching⟩
  ({ s with loads }, i)

/-- The rest of `verify` once the key is known (lines 106-125). -/
def finish (v : PrivyVerifier κ) (t : Token) (key : κ) (now : ℤ) : Except VerifyError Identity := do
  checkSignature v key t.p₀ t.p₁ t.p₂
  readClaims v t.p₁ now

/-- The key is not there, and the keys are old enough (line 80). -/
def Verifying.refetches (s : Verifying κ) (t : Token) : Bool :=
  (s.jwks.keys.get t.kid).isNone && s.now - s.jwks.fetchedAt > jwksMinRefetchMs

/-- The lookup of line 83 and the rest of `verify`. -/
def Verifying.lookup (v : PrivyVerifier κ) (s : Verifying κ) (t : Token) : CallState :=
  match s.jwks.keys.get t.kid with
  | some key => .done (finish v t key s.now)
  | none => .done (.error (unknownKey t.kid))

/-- `keyFor` from line 79 on. -/
def Verifying.afterStale (v : PrivyVerifier κ) (s : Verifying κ) (t : Token) :
    Verifying κ × CallState :=
  if s.refetches t then (s.loadJwks.1, .refetchWait t s.loadJwks.2) else (s, s.lookup v t)

/-- `keyFor` (lines 76-87) up to its first `await`. -/
def Verifying.keyFor (v : PrivyVerifier κ) (s : Verifying κ) (t : Token) : Verifying κ × CallState :=
  if s.jwks.outdated s.now then (s.loadJwks.1, .staleWait t s.loadJwks.2) else s.afterStale v t

/-- A load settles with the answer to its fetch. -/
def Verifying.settle (v : PrivyVerifier κ) (s : Verifying κ) (i : ℕ) (l : Load) (fetch : JwksFetch) :
    Verifying κ :=
  match readKeys v fetch with
  | .ok keys =>
    { s with
      jwks := ⟨keys, s.now⟩
      loads := s.loads.update i { l with phase := .settled (.ok ()) } }
  | .error e => { s with loads := s.loads.update i { l with phase := .settled (.error e) } }

/-! ## Events -/

inductive VerifierEvent
  | clock (now : ℤ)
  /-- A request reaches `verify`. -/
  | verify (authorization : Option String)
  /-- `fetchImpl` rejects. -/
  | unreachable (load : ℕ) (message : String)
  /-- `fetchImpl` resolves. -/
  | answer (load : ℕ) (ok : Bool) (status : ℕ)
  /-- `res.json()` ends; `none` where it rejects. -/
  | body (load : ℕ) (body : Option Json)
  /-- The `finally` of line 70 runs. -/
  | release (load : ℕ)
  /-- A call goes on after the load that it waits for. -/
  | resume (call : ℕ)

def step (v : PrivyVerifier κ) (s : Verifying κ) : VerifierEvent → Option (Verifying κ)
  | .clock now => some { s with now }
  | .verify authorization =>
    match readToken authorization with
    | .error e => some { s with calls := s.calls ++ [.done (.error e)] }
    | .ok t => some { (s.keyFor v t).1 with calls := s.calls ++ [(s.keyFor v t).2] }
  | .unreachable i message =>
    match s.loads.jobs[i]? with
    | some ⟨startedAt, .fetching⟩ => some (s.settle v i ⟨startedAt, .fetching⟩ (.unreachable message))
    | _ => none
  | .answer i ok status =>
    match s.loads.jobs[i]? with
    | some ⟨startedAt, .fetching⟩ =>
      if ok then some { s with loads := s.loads.update i ⟨startedAt, .reading status⟩ }
      else some (s.settle v i ⟨startedAt, .fetching⟩ (.answer false status none))
    | _ => none
  | .body i body =>
    match s.loads.jobs[i]? with
    | some ⟨startedAt, .reading status⟩ =>
      some (s.settle v i ⟨startedAt, .reading status⟩ (.answer true status body))
    | _ => none
  | .release i =>
    match s.loads.jobs[i]? with
    | some ⟨startedAt, .settled result⟩ =>
      some { s with loads := s.loads.finish i ⟨startedAt, .finished result⟩ }
    | _ => none
  | .resume c =>
    match s.calls[c]? with
    | some (.staleWait t i) =>
      match s.loads.jobs[i]? with
      | some ⟨_, .finished (.ok _)⟩ =>
        some { (s.afterStale v t).1 with calls := s.calls.set c (s.afterStale v t).2 }
      | some ⟨_, .finished (.error e)⟩ =>
        some { s with calls := s.calls.set c (.done (.error e)) }
      | _ => none
    | some (.refetchWait t i) =>
      match s.loads.jobs[i]? with
      | some ⟨_, .finished (.ok _)⟩ => some { s with calls := s.calls.set c (s.lookup v t) }
      | some ⟨_, .finished (.error e)⟩ =>
        some { s with calls := s.calls.set c (.done (.error e)) }
      | _ => none
    | _ => none

/-! ## What is promised, and when it is kept -/

/-- At most one fetch is under way. -/
def SingleFetch (s : Verifying κ) : Prop :=
  ∀ (i j : ℕ) (a b : Load), s.loads.jobs[i]? = some a → s.loads.jobs[j]? = some b →
    a.underWay = true → b.underWay = true → i = j

/-- Two fetches in a row start more than the minimum apart. -/
def Spaced (s : Verifying κ) : Prop :=
  (s.loads.jobs.map Load.startedAt).IsChain fun a b => jwksMinRefetchMs < b - a

/-- The event makes a call ask for a load. -/
def asksForLoad (s : Verifying κ) : VerifierEvent → Bool
  | .verify authorization =>
    match readToken authorization with
    | .ok t => s.jwks.outdated s.now || s.refetches t
    | .error _ => false
  | .resume c =>
    match s.calls[c]? with
    | some (.staleWait t i) => (s.loads.jobs[i]?).any Load.succeeded && s.refetches t
    | _ => false
  | _ => false

/-- No load is asked for within the minimum after the start of one that failed, and
    no load succeeds at a clock before its start. -/
def Calm (v : PrivyVerifier κ) (s : Verifying κ) (e : VerifierEvent) : Prop :=
  (∀ l, s.loads.jobs.getLast? = some l → l.failed = true → asksForLoad s e = true →
    s.loads.current = none → jwksMinRefetchMs < s.now - l.startedAt) ∧
  ∀ i body status keys l, e = .body i body → readKeys v (.answer true status body) = .ok keys →
    s.loads.jobs[i]? = some l → l.startedAt ≤ s.now

/-! ## What an event does to the loads -/

theorem Load.ended_of_underWay {l : Load} (h : l.underWay = true) : l.ended = false := by
  obtain ⟨startedAt, phase⟩ := l
  cases phase <;> first | rfl | cases h

/-- A call resumes after a load that succeeded, or ends with the error of the load. -/
theorem resume_cases {v : PrivyVerifier κ} {s s' : Verifying κ} {c : ℕ}
    (h : step v s (.resume c) = some s') :
    (∃ t i, s.calls[c]? = some (.staleWait t i) ∧ (s.loads.jobs[i]?).any Load.succeeded = true ∧
      s' = { (s.afterStale v t).1 with calls := s.calls.set c (s.afterStale v t).2 }) ∨
    ∃ calls, s' = { s with calls } := by
  simp only [step] at h
  split at h
  · rename_i t i hcall
    split at h
    · rename_i hload
      cases h
      exact Or.inl ⟨t, i, hcall, by rw [hload]; rfl, rfl⟩
    · cases h
      exact Or.inr ⟨_, rfl⟩
    · cases h
  · rename_i t i hcall
    split at h
    · cases h
      exact Or.inr ⟨_, rfl⟩
    · cases h
      exact Or.inr ⟨_, rfl⟩
    · cases h
  · cases h

/-- An event leaves the loads and the keys alone, joins or starts a load because a call
    asks for one, takes a load further, makes it succeed or ends it. -/
inductive Effect (v : PrivyVerifier κ) (s : Verifying κ) (e : VerifierEvent) (s' : Verifying κ) : Prop
  | kept (hloads : s'.loads = s.loads) (hjwks : s'.jwks = s.jwks)
  | joined (hask : asksForLoad s e = true)
      (hold : s.jwks.outdated s.now = true ∨ jwksMinRefetchMs < s.now - s.jwks.fetchedAt)
      (hloads : s'.loads = (s.loads.join ⟨s.now, .fetching⟩).1) (hjwks : s'.jwks = s.jwks)
  | updated (i : ℕ) (l : Load) (phase : LoadPhase) (hi : s.loads.jobs[i]? = some l)
      (hl : l.ended = false) (hphase : (Load.mk l.startedAt phase).succeeded = false)
      (hloads : s'.loads = s.loads.update i ⟨l.startedAt, phase⟩) (hjwks : s'.jwks = s.jwks)
  | succeeded (i : ℕ) (l : Load) (body : Option Json) (status : ℕ) (keys : KeySet κ)
      (he : e = .body i body) (hkeys : readKeys v (.answer true status body) = .ok keys)
      (hi : s.loads.jobs[i]? = some l) (hl : l.ended = false)
      (hloads : s'.loads = s.loads.update i ⟨l.startedAt, .settled (.ok ())⟩)
      (hjwks : s'.jwks = ⟨keys, s.now⟩)
  | finished (i : ℕ) (startedAt : ℤ) (result : Except VerifyError Unit)
      (hi : s.loads.jobs[i]? = some ⟨startedAt, .settled result⟩)
      (hloads : s'.loads = s.loads.finish i ⟨startedAt, .finished result⟩)
      (hjwks : s'.jwks = s.jwks)

theorem Effect.calls {v : PrivyVerifier κ} {s s' : Verifying κ} {e : VerifierEvent}
    (h : Effect v s e s') (calls : List CallState) : Effect v s e { s' with calls } := by
  cases h with
  | kept hloads hjwks => exact .kept hloads hjwks
  | joined hask hold hloads hjwks => exact .joined hask hold hloads hjwks
  | updated i l phase hi hl hphase hloads hjwks => exact .updated i l phase hi hl hphase hloads hjwks
  | succeeded i l body status keys he hkeys hi hl hloads hjwks =>
    exact .succeeded i l body status keys he hkeys hi hl hloads hjwks
  | finished i startedAt result hi hloads hjwks => exact .finished i startedAt result hi hloads hjwks

theorem afterStale_effect (v : PrivyVerifier κ) {s : Verifying κ} {e : VerifierEvent} {t : Token}
    (hask : s.refetches t = true → asksForLoad s e = true) : Effect v s e (s.afterStale v t).1 := by
  unfold Verifying.afterStale
  split_ifs with hrefetch
  · have hold : jwksMinRefetchMs < s.now - s.jwks.fetchedAt := by
      simp only [Verifying.refetches, Bool.and_eq_true, decide_eq_true_eq] at hrefetch
      exact hrefetch.2
    exact .joined (hask hrefetch) (Or.inr hold) rfl rfl
  · exact .kept rfl rfl

theorem keyFor_effect (v : PrivyVerifier κ) {s : Verifying κ} {e : VerifierEvent} {t : Token}
    (hask : (s.jwks.outdated s.now || s.refetches t) = asksForLoad s e) :
    Effect v s e (s.keyFor v t).1 := by
  unfold Verifying.keyFor
  split_ifs with hout
  · exact .joined (by rw [← hask, hout]; rfl) (Or.inl hout) rfl rfl
  · exact afterStale_effect v fun hrefetch => by rw [← hask, hrefetch, Bool.or_true]

/-- A fetch that does not answer with a body is not a success. -/
theorem settle_effect {v : PrivyVerifier κ} {s : Verifying κ} {e : VerifierEvent} {i : ℕ} {l : Load}
    {fetch : JwksFetch} (hi : s.loads.jobs[i]? = some l) (hl : l.ended = false)
    (hfetch : ∀ keys, readKeys v fetch = .ok keys →
      ∃ body status, e = .body i body ∧ fetch = .answer true status body) :
    Effect v s e (s.settle v i l fetch) := by
  unfold Verifying.settle
  split
  · rename_i keys hkeys
    obtain ⟨body, status, he, rfl⟩ := hfetch keys hkeys
    exact .succeeded i l body status keys he hkeys hi hl rfl rfl
  · exact .updated i l _ hi hl rfl rfl rfl

theorem step_effect {v : PrivyVerifier κ} {s s' : Verifying κ} {e : VerifierEvent}
    (hs : step v s e = some s') : Effect v s e s' := by
  cases e with
  | clock now =>
    cases hs
    exact .kept rfl rfl
  | verify authorization =>
    simp only [step] at hs
    split at hs
    · cases hs
      exact .kept rfl rfl
    · rename_i t ht
      cases hs
      exact (keyFor_effect v (by rw [asksForLoad, ht])).calls _
  | unreachable i message =>
    simp only [step] at hs
    split at hs
    · rename_i hi
      cases hs
      exact settle_effect hi rfl fun keys hkeys => by cases hkeys
    · cases hs
  | answer i ok status =>
    simp only [step] at hs
    split at hs
    · rename_i hi
      split_ifs at hs
      · cases hs
        exact .updated i _ _ hi rfl rfl rfl rfl
      · cases hs
        exact settle_effect hi rfl fun keys hkeys => by cases hkeys
    · cases hs
  | body i body =>
    simp only [step] at hs
    split at hs
    · rename_i status hi
      cases hs
      exact settle_effect hi rfl fun keys _ => ⟨body, status, rfl, rfl⟩
    · cases hs
  | release i =>
    simp only [step] at hs
    split at hs
    · rename_i hi
      cases hs
      exact .finished i _ _ hi rfl rfl
    · cases hs
  | resume c =>
    rcases resume_cases hs with ⟨t, i, hcall, hload, rfl⟩ | ⟨calls, rfl⟩
    · exact (afterStale_effect v fun hrefetch => by simp [asksForLoad, hcall, hload, hrefetch]).calls _
    · exact .kept rfl rfl

theorem single_of_reachable {v : PrivyVerifier κ} {s : Verifying κ} (h : Reachable (step v) {} s) :
    s.loads.Single Load.ended := by
  refine Reach.invariant (I := fun s => s.loads.Single Load.ended) h Flights.Single.empty ?_
  intro s e s' hs _ hstep
  cases step_effect hstep with
  | kept hloads _ => exact hloads ▸ hs
  | joined _ _ hloads _ => exact hloads ▸ hs.join _
  | updated i l phase hi hl _ hloads _ => exact hloads ▸ hs.update hi hl _
  | succeeded i l body status keys _ _ hi hl hloads _ => exact hloads ▸ hs.update hi hl _
  | finished i startedAt result hi hloads _ => exact hloads ▸ hs.finish hi rfl rfl

/-! ## The invariant -/

/-- The last load, if it succeeded, started no later than the keys were fetched. -/
structure RefetchInv (s : Verifying κ) : Prop where
  fresh : ∀ l, s.loads.jobs.getLast? = some l → l.succeeded = true →
    l.startedAt ≤ s.jwks.fetchedAt ∧ s.jwks.keys.entries ≠ []
  spaced : Spaced s

theorem refetchInv_init : RefetchInv ({} : Verifying κ) where
  fresh := fun l h => by cases h
  spaced := List.IsChain.nil

/-- A load that has ended has failed or succeeded. -/
theorem Load.failed_or_succeeded {l : Load} (h : l.ended = true) :
    l.failed = true ∨ l.succeeded = true := by
  obtain ⟨startedAt, phase⟩ := l
  cases phase with
  | finished result => cases result <;> simp [Load.failed, Load.succeeded]
  | _ => cases h

/-- Keys that are asked for again are old enough, unless the last load failed. -/
theorem RefetchInv.due {v : PrivyVerifier κ} {s : Verifying κ} {e : VerifierEvent} (h : RefetchInv s)
    (hsingle : s.loads.Single Load.ended) (hcalm : Calm v s e) (hask : asksForLoad s e = true)
    (hold : s.jwks.outdated s.now = true ∨ jwksMinRefetchMs < s.now - s.jwks.fetchedAt)
    (hfree : s.loads.current = none) {l : Load} (hl : s.loads.jobs.getLast? = some l) :
    jwksMinRefetchMs < s.now - l.startedAt := by
  have hended : l.ended = true := by
    by_contra hne
    rw [List.getLast?_eq_getElem?] at hl
    rw [hsingle.flight _ l hl (Bool.eq_false_iff.mpr hne)] at hfree
    cases hfree
  rcases Load.failed_or_succeeded hended with hfail | hsucceeded
  · exact hcalm.1 l hl hfail hask hfree
  · obtain ⟨hle, hne⟩ := h.fresh l hl hsucceeded
    have hmin : jwksMinRefetchMs < s.now - s.jwks.fetchedAt := by
      rcases hold with hout | hold
      · have hstale := (Jwks.outdated_iff.mp hout).resolve_left hne
        unfold jwksTtlMs at hstale
        unfold jwksMinRefetchMs
        omega
      · exact hold
    omega

/-- Loads whose starts are those from before. -/
theorem RefetchInv.spaced_set {s s' : Verifying κ} (h : RefetchInv s) {i : ℕ} {l : Load}
    (hi : s.loads.jobs[i]? = some l) {phase : LoadPhase}
    (hjobs : s'.loads.jobs = s.loads.jobs.set i ⟨l.startedAt, phase⟩) : Spaced s' := by
  have hstarts := Flights.map_set hi (show Load.startedAt ⟨l.startedAt, phase⟩ = l.startedAt from rfl)
  unfold Spaced
  rw [hjobs, hstarts]
  exact h.spaced

/-- A call that asks for a load keeps the invariant if the time has come. -/
theorem RefetchInv.join {s s' : Verifying κ} (h : RefetchInv s)
    (hdue : s.loads.current = none → ∀ l, s.loads.jobs.getLast? = some l →
      jwksMinRefetchMs < s.now - l.startedAt)
    (hloads : s'.loads = (s.loads.join ⟨s.now, .fetching⟩).1) (hjwks : s'.jwks = s.jwks) :
    RefetchInv s' := by
  cases hcurrent : s.loads.current with
  | some i =>
    rw [Flights.join_of_current hcurrent] at hloads
    exact ⟨by rw [hloads, hjwks]; exact h.fresh, by unfold Spaced; rw [hloads]; exact h.spaced⟩
  | none =>
    rw [Flights.join_of_free hcurrent] at hloads
    refine ⟨fun l hl hsucceeded => ?_, ?_⟩
    · rw [hloads, List.getLast?_append_cons, List.getLast?_singleton] at hl
      cases hl
      cases hsucceeded
    · unfold Spaced
      rw [hloads, List.map_append]
      refine h.spaced.append (List.IsChain.singleton _) fun a ha b hb => ?_
      rw [List.getLast?_map, Option.mem_def, Option.map_eq_some_iff] at ha
      obtain ⟨l, hl, rfl⟩ := ha
      cases hb
      exact hdue hcurrent l hl

theorem refetchInv_step {v : PrivyVerifier κ} {s s' : Verifying κ} {e : VerifierEvent}
    (hsingle : s.loads.Single Load.ended) (h : RefetchInv s) (hcalm : Calm v s e)
    (hs : step v s e = some s') : RefetchInv s' := by
  cases step_effect hs with
  | kept hloads hjwks =>
    exact ⟨by rw [hloads, hjwks]; exact h.fresh, by unfold Spaced; rw [hloads]; exact h.spaced⟩
  | joined hask hold hloads hjwks =>
    exact h.join (fun hfree l hl => h.due hsingle hcalm hask hold hfree hl) hloads hjwks
  | updated i l phase hi hl hphase hloads hjwks =>
    refine ⟨fun l' hl' hsucceeded => ?_, h.spaced_set hi (by rw [hloads]; rfl)⟩
    rw [hloads] at hl'
    cases (hsingle.getLast?_set hi hl ⟨l.startedAt, phase⟩).symm.trans hl'
    rw [hphase] at hsucceeded
    cases hsucceeded
  | succeeded i l body status keys he hkeys hi hl hloads hjwks =>
    refine ⟨fun l' hl' _ => ?_, h.spaced_set hi (by rw [hloads]; rfl)⟩
    rw [hloads] at hl'
    cases (hsingle.getLast?_set hi hl ⟨l.startedAt, .settled (.ok ())⟩).symm.trans hl'
    rw [hjwks]
    exact ⟨hcalm.2 i body status keys l he hkeys hi, readKeys_ne_nil hkeys⟩
  | finished i startedAt result hi hloads hjwks =>
    have hl : (Load.mk startedAt (.settled result)).ended = false := rfl
    refine ⟨fun l' hl' hsucceeded => ?_, h.spaced_set hi (by rw [hloads]; rfl)⟩
    rw [hloads] at hl'
    cases (hsingle.getLast?_set hi hl ⟨startedAt, .finished result⟩).symm.trans hl'
    have hbefore : (Load.mk startedAt (.settled result)).succeeded = true := by
      cases result with
      | ok _ => rfl
      | error e => cases hsucceeded
    rw [hjwks]
    exact h.fresh ⟨startedAt, .settled result⟩ (hsingle.getLast? hi hl) hbefore

/-! ## The bound -/

/-- At most one fetch is under way, in every run. -/
theorem single_fetch (v : PrivyVerifier κ) {s : Verifying κ} (h : Reachable (step v) {} s) :
    SingleFetch s := fun _ _ _ _ hi hj ha hb =>
  (single_of_reachable h).unique hi hj (Load.ended_of_underWay ha) (Load.ended_of_underWay hb)

/-- In a run in which no load is asked for too soon after one that failed, and no load
    succeeds at a clock before its start, at most one fetch is under way and any
    two in a row start more than the minimum apart. -/
theorem refetch_bound (v : PrivyVerifier κ) {s : Verifying κ}
    (h : Reach (step v) (Calm v) {} s) : SingleFetch s ∧ Spaced s := by
  have hany : ∀ s, Reach (step v) (Calm v) {} s → Reachable (step v) {} s :=
    fun s hs => hs.mono fun _ _ _ => trivial
  have hinv : RefetchInv s := h.invariant_of (fun s hs => single_of_reachable (hany s hs))
    refetchInv_init fun s e s' hsingle hs hcalm hstep => refetchInv_step hsingle hs hcalm hstep
  exact ⟨single_fetch v (hany s h), hinv.spaced⟩

/-! ## Two runs -/

instance (s : Verifying κ) : Decidable (Spaced s) := inferInstanceAs (Decidable (List.IsChain _ _))

/-- `Calm` as far as it can be computed: every body counts as one that succeeds. -/
def calmCheck (s : Verifying κ) (e : VerifierEvent) : Bool :=
  (s.loads.jobs.getLast?.all fun l =>
    !(l.failed && asksForLoad s e && s.loads.current.isNone) || jwksMinRefetchMs < s.now - l.startedAt) &&
  match e with
  | .body i _ => (s.loads.jobs[i]?).all fun l => l.startedAt ≤ s.now
  | _ => true

theorem calm_of_calmCheck {v : PrivyVerifier κ} {s : Verifying κ} {e : VerifierEvent}
    (h : calmCheck s e = true) : Calm v s e := by
  unfold calmCheck at h
  rw [Bool.and_eq_true] at h
  obtain ⟨hlast, hbody⟩ := h
  constructor
  · intro l hl hfail hask hfree
    rw [hl] at hlast
    simpa [hfail, hask, hfree] using hlast
  · rintro i body status keys l rfl - hi
    simpa [hi] using hbody

/-- Tokens with the `kid`s `a` and `b`, which no key has. -/
def unknownToken (kid : String) : String :=
  "Bearer " ++ base64urlEncode (utf8Encode ("\x7b\"alg\":\"ES256\",\"kid\":\"" ++ kid ++ "\"\x7d")) ++
    ".e30.AA"

/-- The network is down: each of two calls has a fetch of its own, at the same time. -/
def failedRun : List VerifierEvent :=
  [.clock 1800000000000, .verify (some (unknownToken "a")), .unreachable 0 "fetch failed", .release 0,
    .resume 0, .verify (some (unknownToken "b"))]

theorem fetches_again :
    ∃ s, Reachable (step sampleVerifier) {} s ∧ ¬(SingleFetch s ∧ Spaced s) := by
  obtain ⟨s, hs, hspaced⟩ := Reach.exists_of_run (step sampleVerifier) {} failedRun
    (fun s => decide ¬Spaced s) (by decide +kernel)
  exact ⟨s, hs, fun h => of_decide_eq_true hspaced h.2⟩

/-- A first call finds the network down, one that comes 30001 ms later fetches the keys, and a
    call with a `kid` that is unknown fetches them again after another 30001 ms. -/
def calmRun : List VerifierEvent :=
  [.clock 1800000000000, .verify (some (unknownToken "a")), .unreachable 0 "fetch failed", .release 0,
    .resume 0, .clock 1800000030001, .verify (some (unknownToken "a")), .answer 1 true 200,
    .body 1 (some (.obj [("keys", .arr [.obj [("kty", .str "EC"), ("kid", .str "test-key-1")]])])),
    .release 1, .resume 1, .clock 1800000060002, .verify (some (unknownToken "b"))]

theorem refetch_bound_sample : ∃ s, Reach (step sampleVerifier) (Calm sampleVerifier) {} s ∧
    s.loads.jobs.map Load.failed = [true, false, false] ∧ SingleFetch s ∧ Spaced s := by
  obtain ⟨s, hs, hfailed⟩ := Reach.exists_of_guardedRun (step sampleVerifier)
    (fun s e => calmCheck s e = true) {} calmRun
    (fun s => s.loads.jobs.map Load.failed == [true, false, false]) (by decide +kernel)
  have hreach := hs.mono fun s e h => calm_of_calmCheck (v := sampleVerifier) h
  exact ⟨s, hreach, beq_iff_eq.mp hfailed, refetch_bound sampleVerifier hreach⟩

end AccountAbstraction.Auth
