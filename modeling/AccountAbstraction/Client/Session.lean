import AccountAbstraction.Js.JsonParse
import AccountAbstraction.Run
import AccountAbstraction.SingleFlight

/-!
# The session of the current login

`src/session.ts`: `setPrivyTokenProvider`, `createSession`, `ensureSession` and
`endSession`, which share the registered provider, the expiry hint and the
promise of the creation in flight. Every `await` of `createSession` is a step of
its own, and so are the `finally` that gives up `inFlight` and the return of a
waiting `ensureSession`. A provider stands for the function that was registered,
together with the user it gives tokens of.

A change of the provider resets the hint ("a different user must not inherit the
previous session"), but not the creation in flight: it is shared with calls
under the new provider, and it sets the hint when it is done.

* `inherits_session`: a call under the second provider resolves with the session of
  the first.
* `session_of_login`: if no creation succeeds, or is shared after its success, while
  a provider other than its own is registered, every call resolves with a
  session of its own provider, unless the provider changes before.
-/

namespace AccountAbstraction.Client

open Js

/-! ## The reply of the backend -/

/-- `BACKEND_DOWN` (line 34). -/
def backendDown (apiBase : String) : String :=
  s!"session backend not reachable at {apiBase} — it is part of this same app (server/api.mjs, " ++
    "mounted by Vite in dev and deployed as api/[...path].js), so check the dev server output"

def notPrimitive : JsError :=
  { name := "TypeError", message := "Cannot convert object to primitive value" }

/-- The error of line 84. -/
def refusal (status : ℕ) (data : Json) : JsError :=
  match data.prop "error" with
  | .error err => err
  | .ok error =>
    match error with
    | some v =>
      if v.truthy then
        match v.text? with
        | some message => { message }
        | none => notPrimitive
      else { message := s!"session backend returned {status} without a session" }
    | none => { message := s!"session backend returned {status} without a session" }

/-- `expires_at` of an accepted reply, or what `createSession` rejects with (lines
    74-88). -/
def readReply (apiBase : String) (ok : Bool) (status : ℕ) (body : String) :
    Except JsError (Option Json) :=
  match parseJson body with
  | none => .error { message := s!"{backendDown apiBase} (got a non-JSON {status} response)" }
  | some data =>
    match (if ok then data.prop "authenticated" else .ok none) with
    | .error err => .error err
    | .ok authenticated =>
      if !truthy authenticated then .error (refusal status data)
      else
        match data.field "expires_at" with
        | some v => if v.truthy && v.text?.isNone then .error notPrimitive else .ok (some v)
        | none => .ok none

/-! ## State -/

/-- Where a creation stands: `await privyToken()` (line 54), `await fetch` (line 59),
    `await res.text()` (line 74), settled, or past the `finally` (lines 96-98). -/
inductive CreationPhase
  | token
  | response
  | text (ok : Bool) (status : ℕ)
  | settled (result : Except JsError Unit)
  | finished (result : Except JsError Unit)

/-- A run of `createSession`, with the provider that it asks for its token. -/
structure Creation (π : Type) where
  provider : Option π
  phase : CreationPhase

variable {π : Type}

def Creation.ended (c : Creation π) : Bool :=
  match c.phase with
  | .finished _ => true
  | _ => false

def Creation.succeeded (c : Creation π) : Bool :=
  match c.phase with
  | .settled (.ok _) => true
  | .finished (.ok _) => true
  | _ => false

def Creation.failed (c : Creation π) : Bool :=
  match c.phase with
  | .settled (.error _) => true
  | .finished (.error _) => true
  | _ => false

/-- `createSession` up to its first `await` (lines 53-54). -/
def createSession (provider : Option π) : Creation π :=
  match provider with
  | some p => ⟨some p, .token⟩
  | none =>
    ⟨none, .settled (.error
      { message := "not logged in — sign in with Google before sending a UserOperation" })⟩

/-- An `expiresAt` other than 0 (lines 88-89): the creation that set it, its `expires_at`
    and the clock. -/
structure ExpiryHint where
  creation : ℕ
  expiresAt : Option Json
  renewedAt : ℕ

/-- `Date.now() < expiresAt` (line 94), for
    `expiresAt = renewedAt + max(ttl - 30000, 5000)`. -/
def ExpiryHint.fresh (h : ExpiryHint) (now : ℕ) : Bool :=
  match h.expiresAt with
  | some v =>
    if v.truthy then
      match v.toNumber? with
      | some x => decide (now < h.renewedAt + 5000) || x.exceeds (now + 30000)
      | none => false
    else now < h.renewedAt + 30000
  | none => now < h.renewedAt + 30000

/-- Where a call of `ensureSession` stands. When it resolves, the creation that it vouches
    for and the number of provider changes so far are kept. -/
inductive EnsureState
  | waiting (creation : ℕ)
  | resolved (creation : ℕ) (changes : ℕ)
  | rejected (err : JsError)

/-- A call of `ensureSession`, with the provider that was registered when it was issued
    and the number of provider changes before it. -/
structure EnsureCall (π : Type) where
  provider : Option π
  changes : ℕ
  state : EnsureState

/-- The state of the module (lines 36-44): `creations.current` is `inFlight`. -/
structure SessionClient (π : Type) where
  now : ℕ := 0
  privyToken : Option π := none
  expiresAt : Option ExpiryHint := none
  creations : Flights (Creation π) := .empty
  changes : ℕ := 0
  calls : List (EnsureCall π) := []

/-! ## Events -/

inductive SessionEvent (π : Type)
  | clock (now : ℕ)
  | setPrivyTokenProvider (provider : Option π)
  | ensureSession (forceRefresh : Bool)
  | endSession
  /-- `privyToken()` resolves. -/
  | token (creation : ℕ) (identity : Option String)
  | tokenFails (creation : ℕ) (err : JsError)
  /-- `fetch` resolves. -/
  | response (creation : ℕ) (ok : Bool) (status : ℕ)
  | responseFails (creation : ℕ)
  /-- `res.text()` resolves. -/
  | text (creation : ℕ) (body : String)
  | textFails (creation : ℕ) (err : JsError)
  /-- The `finally` of line 96 runs. -/
  | release (creation : ℕ)
  /-- A call returns from the creation that it waits for. -/
  | resume (call : ℕ)

/-- `ensureSession` (lines 93-101). -/
def SessionClient.ensureSession (s : SessionClient π) (forceRefresh : Bool) : SessionClient π :=
  match (if forceRefresh then none else s.expiresAt.filter fun h => h.fresh s.now) with
  | some h =>
    { s with calls := s.calls ++ [⟨s.privyToken, s.changes, .resolved h.creation s.changes⟩] }
  | none =>
    { s with
      creations := (s.creations.join (createSession s.privyToken)).1
      calls := s.calls ++ [⟨s.privyToken, s.changes,
        .waiting (s.creations.join (createSession s.privyToken)).2⟩] }

/-- A creation goes on. -/
def SessionClient.advance (s : SessionClient π) (i : ℕ) (c : Creation π) (phase : CreationPhase) :
    SessionClient π :=
  { s with creations := s.creations.update i { c with phase } }

variable (apiBase : String)

def sessionStep (s : SessionClient π) : SessionEvent π → Option (SessionClient π)
  | .clock now => some { s with now }
  | .setPrivyTokenProvider provider =>
    some { s with privyToken := provider, expiresAt := none, changes := s.changes + 1 }
  | .ensureSession forceRefresh => some (s.ensureSession forceRefresh)
  | .endSession => some { s with expiresAt := none }
  | .token i identity =>
    match s.creations.jobs[i]? with
    | some ⟨provider, .token⟩ =>
      some (s.advance i ⟨provider, .token⟩
        (if identity.getD "" = "" then
          .settled (.error { message := "Privy returned no access token — sign in with Google again" })
        else .response))
    | _ => none
  | .tokenFails i err =>
    match s.creations.jobs[i]? with
    | some ⟨provider, .token⟩ => some (s.advance i ⟨provider, .token⟩ (.settled (.error err)))
    | _ => none
  | .response i ok status =>
    match s.creations.jobs[i]? with
    | some ⟨provider, .response⟩ => some (s.advance i ⟨provider, .response⟩ (.text ok status))
    | _ => none
  | .responseFails i =>
    match s.creations.jobs[i]? with
    | some ⟨provider, .response⟩ =>
      some (s.advance i ⟨provider, .response⟩ (.settled (.error { message := backendDown apiBase })))
    | _ => none
  | .text i body =>
    match s.creations.jobs[i]? with
    | some ⟨provider, .text ok status⟩ =>
      match readReply apiBase ok status body with
      | .ok expiresAt =>
        some { s.advance i ⟨provider, .text ok status⟩ (.settled (.ok ())) with
          expiresAt := some ⟨i, expiresAt, s.now⟩ }
      | .error err => some (s.advance i ⟨provider, .text ok status⟩ (.settled (.error err)))
    | _ => none
  | .textFails i err =>
    match s.creations.jobs[i]? with
    | some ⟨provider, .text ok status⟩ =>
      some (s.advance i ⟨provider, .text ok status⟩ (.settled (.error err)))
    | _ => none
  | .release i =>
    match s.creations.jobs[i]? with
    | some ⟨provider, .settled result⟩ =>
      some { s with creations := s.creations.finish i ⟨provider, .finished result⟩ }
    | _ => none
  | .resume k =>
    match s.calls[k]? with
    | some ⟨provider, changes, .waiting i⟩ =>
      match s.creations.jobs[i]? with
      | some ⟨_, .finished (.ok _)⟩ =>
        some { s with calls := s.calls.set k ⟨provider, changes, .resolved i s.changes⟩ }
      | some ⟨_, .finished (.error err)⟩ =>
        some { s with calls := s.calls.set k ⟨provider, changes, .rejected err⟩ }
      | _ => none
    | _ => none

/-! ## What is promised, and when it is kept -/

/-- A call that resolves before the provider changes again vouches for a session that
    was created with a token of its provider. -/
def Vouched (s : SessionClient π) : Prop :=
  ∀ call ∈ s.calls, ∀ i, call.state = .resolved i call.changes →
    ∃ p c, call.provider = some p ∧ s.creations.jobs[i]? = some c ∧ c.provider = some p ∧
      c.succeeded = true

/-- No creation succeeds, and none that has succeeded is shared, while a provider other
    than its own is registered. -/
def Unmixed (s : SessionClient π) (e : SessionEvent π) : Prop :=
  (∀ i body provider ok status expiresAt, e = .text i body →
    s.creations.jobs[i]? = some ⟨provider, .text ok status⟩ →
    readReply apiBase ok status body = .ok expiresAt → provider = s.privyToken) ∧
  ∀ forceRefresh i c, e = .ensureSession forceRefresh → s.creations.current = some i →
    s.creations.jobs[i]? = some c → c.succeeded = true → c.provider = s.privyToken

/-! ## What an event does -/

/-- An event moves the clock or drops the hint, changes the provider, issues a call that
    the hint answers or that waits for a creation, takes a creation further, makes it
    succeed or ends it, or settles a call that waits. -/
inductive SessionEffect (s : SessionClient π) (e : SessionEvent π) : SessionClient π → Prop
  | kept (now : ℕ) (expiresAt : Option ExpiryHint)
      (hhint : expiresAt = s.expiresAt ∨ expiresAt = none) : SessionEffect s e { s with now, expiresAt }
  | changed (provider : Option π) : SessionEffect s e
      { s with privyToken := provider, expiresAt := none, changes := s.changes + 1 }
  | answered (h : ExpiryHint) (hhint : s.expiresAt = some h) : SessionEffect s e
      { s with calls := s.calls ++ [⟨s.privyToken, s.changes, .resolved h.creation s.changes⟩] }
  | joined (forceRefresh : Bool) (he : e = .ensureSession forceRefresh) : SessionEffect s e
      { s with
        creations := (s.creations.join (createSession s.privyToken)).1
        calls := s.calls ++ [⟨s.privyToken, s.changes,
          .waiting (s.creations.join (createSession s.privyToken)).2⟩] }
  | advanced (i : ℕ) (c : Creation π) (phase : CreationPhase) (hi : s.creations.jobs[i]? = some c)
      (hended : c.ended = false) (hfailed : c.failed = false) (hsucceeded : c.succeeded = false)
      (hphase : (Creation.mk c.provider phase).succeeded = false) :
      SessionEffect s e (s.advance i c phase)
  | succeeded (i : ℕ) (provider : Option π) (ok : Bool) (status : ℕ) (body : String)
      (expiresAt : Option Json) (he : e = .text i body)
      (hi : s.creations.jobs[i]? = some ⟨provider, .text ok status⟩)
      (hreply : readReply apiBase ok status body = .ok expiresAt) : SessionEffect s e
      { s.advance i ⟨provider, .text ok status⟩ (.settled (.ok ())) with
        expiresAt := some ⟨i, expiresAt, s.now⟩ }
  | released (i : ℕ) (provider : Option π) (result : Except JsError Unit)
      (hi : s.creations.jobs[i]? = some ⟨provider, .settled result⟩) : SessionEffect s e
      { s with creations := s.creations.finish i ⟨provider, .finished result⟩ }
  | resumed (k i : ℕ) (call : EnsureCall π) (c : Creation π) (hk : s.calls[k]? = some call)
      (hwaiting : call.state = .waiting i) (hi : s.creations.jobs[i]? = some c)
      (hsucceeded : c.succeeded = true) : SessionEffect s e
      { s with calls := s.calls.set k { call with state := .resolved i s.changes } }
  | rejected (k : ℕ) (call : EnsureCall π) (err : JsError) (hk : s.calls[k]? = some call) :
      SessionEffect s e { s with calls := s.calls.set k { call with state := .rejected err } }

variable {apiBase} {s s' : SessionClient π} {e : SessionEvent π}

theorem ensureSession_effect (forceRefresh : Bool) (he : e = .ensureSession forceRefresh) :
    SessionEffect apiBase s e (s.ensureSession forceRefresh) := by
  unfold SessionClient.ensureSession
  split
  · rename_i h hhint
    split_ifs at hhint
    rw [Option.filter_eq_some_iff] at hhint
    exact .answered h hhint.1
  · exact .joined forceRefresh he

/-- The steps of a creation that do not make it succeed. -/
theorem advance_effect {i : ℕ} {provider : Option π} {before phase : CreationPhase}
    (hi : s.creations.jobs[i]? = some ⟨provider, before⟩)
    (hended : (Creation.mk provider before).ended = false)
    (hfailed : (Creation.mk provider before).failed = false)
    (hsucceeded : (Creation.mk provider before).succeeded = false)
    (hphase : (Creation.mk provider phase).succeeded = false) :
    SessionEffect apiBase s e (s.advance i ⟨provider, before⟩ phase) :=
  .advanced i ⟨provider, before⟩ phase hi hended hfailed hsucceeded hphase

theorem resume_effect {k : ℕ} (hs : sessionStep apiBase s (.resume k) = some s') :
    SessionEffect apiBase s e s' := by
  simp only [sessionStep] at hs
  split at hs
  · rename_i provider changes i hcall
    split at hs
    · rename_i p u hi
      cases hs
      exact .resumed k i ⟨provider, changes, .waiting i⟩ ⟨p, .finished (.ok u)⟩ hcall rfl hi rfl
    · rename_i p err hi
      cases hs
      exact .rejected k ⟨provider, changes, .waiting i⟩ err hcall
    · cases hs
  · cases hs

theorem session_effect (hs : sessionStep apiBase s e = some s') : SessionEffect apiBase s e s' := by
  cases e with
  | clock now =>
    cases hs
    exact .kept now s.expiresAt (Or.inl rfl)
  | setPrivyTokenProvider provider =>
    cases hs
    exact .changed provider
  | ensureSession forceRefresh =>
    cases hs
    exact ensureSession_effect forceRefresh rfl
  | endSession =>
    cases hs
    exact .kept s.now none (Or.inr rfl)
  | token i identity =>
    simp only [sessionStep] at hs
    split at hs
    · rename_i provider hi
      cases hs
      exact advance_effect hi rfl rfl rfl (by split_ifs <;> rfl)
    · cases hs
  | tokenFails i err =>
    simp only [sessionStep] at hs
    split at hs
    · rename_i provider hi
      cases hs
      exact advance_effect hi rfl rfl rfl rfl
    · cases hs
  | response i ok status =>
    simp only [sessionStep] at hs
    split at hs
    · rename_i provider hi
      cases hs
      exact advance_effect hi rfl rfl rfl rfl
    · cases hs
  | responseFails i =>
    simp only [sessionStep] at hs
    split at hs
    · rename_i provider hi
      cases hs
      exact advance_effect hi rfl rfl rfl rfl
    · cases hs
  | text i body =>
    simp only [sessionStep] at hs
    split at hs
    · rename_i provider ok status hi
      split at hs
      · rename_i expiresAt hreply
        cases hs
        exact .succeeded i provider ok status body expiresAt rfl hi hreply
      · cases hs
        exact advance_effect hi rfl rfl rfl rfl
    · cases hs
  | textFails i err =>
    simp only [sessionStep] at hs
    split at hs
    · rename_i provider ok status hi
      cases hs
      exact advance_effect hi rfl rfl rfl rfl
    · cases hs
  | release i =>
    simp only [sessionStep] at hs
    split at hs
    · rename_i provider result hi
      cases hs
      exact .released i provider result hi
    · cases hs
  | resume k => exact resume_effect hs

/-! ## Creations go on -/

/-- Creations keep their providers and their success, and succeed under their own
    provider only. -/
def Keeps (registered : Option π) (f f' : Flights (Creation π)) : Prop :=
  ∀ (i : ℕ) (c : Creation π), f.jobs[i]? = some c → ∃ c', f'.jobs[i]? = some c' ∧
    c'.provider = c.provider ∧ (c.succeeded = true → c'.succeeded = true) ∧
    (c'.succeeded = true → c.succeeded = true ∨ c.provider = registered)

theorem Keeps.join (registered : Option π) (f : Flights (Creation π)) (c : Creation π) :
    Keeps registered f (f.join c).1 := by
  intro j d hj
  cases hcurrent : f.current with
  | some i =>
    rw [Flights.join_of_current hcurrent]
    exact ⟨d, hj, rfl, id, Or.inl⟩
  | none =>
    rw [Flights.join_of_free hcurrent]
    refine ⟨d, ?_, rfl, id, Or.inl⟩
    rw [List.getElem?_append_left (List.getElem?_eq_some_iff.mp hj).1]
    exact hj

/-- One creation takes a step. -/
theorem Keeps.set {registered : Option π} {f f' : Flights (Creation π)} {i : ℕ} {c : Creation π}
    {phase : CreationPhase} (hi : f.jobs[i]? = some c) (hjobs : f'.jobs = f.jobs.set i { c with phase })
    (hkept : c.succeeded = true → (Creation.mk c.provider phase).succeeded = true)
    (hnew : (Creation.mk c.provider phase).succeeded = true →
      c.succeeded = true ∨ c.provider = registered) : Keeps registered f f' := by
  intro j d hj
  rw [hjobs, List.getElem?_set]
  by_cases hij : i = j
  · subst hij
    rw [hi] at hj
    cases hj
    rw [if_pos rfl, if_pos (List.getElem?_eq_some_iff.mp hi).1]
    exact ⟨_, rfl, rfl, hkept, hnew⟩
  · rw [if_neg hij]
    exact ⟨d, hj, rfl, id, Or.inl⟩

/-! ## The invariant -/

/-- Creation `i` succeeded with a token of `provider`. -/
def Backed (s : SessionClient π) (i : ℕ) (provider : Option π) : Prop :=
  ∃ c, s.creations.jobs[i]? = some c ∧ c.provider = provider ∧ c.succeeded = true

/-- A call that waits, if the provider is still that of the call, can only see its creation
    succeed with that provider; one that has resolved, if the provider was still that of
    the call, is backed by it. -/
def CallOk (s : SessionClient π) (call : EnsureCall π) : Prop :=
  call.changes ≤ s.changes ∧
  match call.state with
  | .waiting i => call.changes = s.changes → call.provider = s.privyToken ∧
      ∃ c, s.creations.jobs[i]? = some c ∧ (c.succeeded = true → c.provider = s.privyToken)
  | .resolved i changes => changes = call.changes → Backed s i call.provider
  | .rejected _ => True

structure SessionInv (s : SessionClient π) : Prop where
  single : s.creations.Single Creation.ended
  named : ∀ c ∈ s.creations.jobs, c.failed = false → c.provider.isSome = true
  hint : ∀ h, s.expiresAt = some h → Backed s h.creation s.privyToken
  calls : ∀ call ∈ s.calls, CallOk s call

theorem sessionInv_init : SessionInv ({} : SessionClient π) where
  single := .empty
  named := fun c h => by cases h
  hint := fun h hh => by cases hh
  calls := fun call h => by cases h

theorem Backed.mono {i : ℕ} {provider : Option π} (h : Backed s i provider) (s' : SessionClient π)
    (hkeeps : Keeps s.privyToken s.creations s'.creations) : Backed s' i provider := by
  obtain ⟨c, hi, hprovider, hsucceeded⟩ := h
  obtain ⟨c', hi', hsame, hkept, -⟩ := hkeeps i c hi
  exact ⟨c', hi', hsame.trans hprovider, hkept hsucceeded⟩

theorem CallOk.mono {call : EnsureCall π} (h : CallOk s call) (s' : SessionClient π)
    (hkeeps : Keeps s.privyToken s.creations s'.creations) (hprovider : s'.privyToken = s.privyToken)
    (hchanges : s'.changes = s.changes) : CallOk s' call := by
  obtain ⟨provider, changes, state⟩ := call
  obtain ⟨hle, hstate⟩ := h
  refine ⟨hchanges ▸ hle, ?_⟩
  cases state with
  | waiting i =>
    intro hnow
    obtain ⟨hsame, c, hi, hc⟩ := hstate (hnow.trans hchanges)
    obtain ⟨c', hi', hkept, -, hnew⟩ := hkeeps i c hi
    rw [hprovider]
    exact ⟨hsame, c', hi', fun h => hkept.trans ((hnew h).elim hc id)⟩
  | resolved i n => exact fun hn => (hstate hn).mono s' hkeeps
  | rejected err => trivial

namespace SessionInv

/-- Creations go on, under the same provider. -/
theorem progress (h : SessionInv s) {creations : Flights (Creation π)}
    (hkeeps : Keeps s.privyToken s.creations creations) (hsingle : creations.Single Creation.ended)
    (hnamed : ∀ c ∈ creations.jobs, c.failed = false → c.provider.isSome = true) :
    SessionInv { s with creations } where
  single := hsingle
  named := hnamed
  hint := fun hint hh => (h.hint hint hh).mono { s with creations } hkeeps
  calls := fun call hcall => (h.calls call hcall).mono { s with creations } hkeeps rfl rfl

/-- A creation that can still succeed takes a step. -/
theorem named_set (h : SessionInv s) {i : ℕ} {c : Creation π} {phase : CreationPhase}
    (hi : s.creations.jobs[i]? = some c)
    (hfailed : (Creation.mk c.provider phase).failed = false → c.failed = false) :
    ∀ d ∈ s.creations.jobs.set i ⟨c.provider, phase⟩, d.failed = false → d.provider.isSome = true := by
  intro d hd hdf
  rcases List.mem_or_eq_of_mem_set hd with hd | rfl
  · exact h.named d hd hdf
  · exact h.named c (List.mem_of_getElem? hi) (hfailed hdf)

theorem advance (h : SessionInv s) {i : ℕ} {c : Creation π} {phase : CreationPhase}
    (hi : s.creations.jobs[i]? = some c) (hended : c.ended = false) (hfailed : c.failed = false)
    (hkept : c.succeeded = true → (Creation.mk c.provider phase).succeeded = true)
    (hnew : (Creation.mk c.provider phase).succeeded = true →
      c.succeeded = true ∨ c.provider = s.privyToken) : SessionInv (s.advance i c phase) :=
  h.progress (.set hi rfl hkept hnew) (h.single.update hi hended _) (h.named_set hi fun _ => hfailed)

theorem release (h : SessionInv s) {i : ℕ} {provider : Option π} {result : Except JsError Unit}
    (hi : s.creations.jobs[i]? = some ⟨provider, .settled result⟩) :
    SessionInv { s with creations := s.creations.finish i ⟨provider, .finished result⟩ } := by
  have hsame : (Creation.mk provider (.finished result)).succeeded =
      (Creation.mk provider (.settled result)).succeeded := by
    cases result <;> rfl
  have hfailed : (Creation.mk provider (.finished result)).failed =
      (Creation.mk provider (.settled result)).failed := by
    cases result <;> rfl
  exact h.progress (.set hi rfl (fun hs => hsame.trans hs) fun hs => Or.inl (hsame.symm.trans hs))
    (h.single.finish hi rfl rfl) (h.named_set hi fun hf => hfailed.symm.trans hf)

theorem join (h : SessionInv s) :
    SessionInv { s with creations := (s.creations.join (createSession s.privyToken)).1 } := by
  refine h.progress (.join _ _ _) (h.single.join _) fun c hc hfailed => ?_
  cases hcurrent : s.creations.current with
  | some i =>
    rw [Flights.join_of_current hcurrent] at hc
    exact h.named c hc hfailed
  | none =>
    rw [Flights.join_of_free hcurrent] at hc
    rcases List.mem_append.mp hc with hc | hc
    · exact h.named c hc hfailed
    · rw [List.mem_singleton.mp hc] at hfailed ⊢
      cases hprovider : s.privyToken with
      | some p => rfl
      | none =>
        rw [hprovider] at hfailed
        cases hfailed

/-- A call is issued. -/
theorem call (h : SessionInv s) {call : EnsureCall π} (hcall : CallOk s call) :
    SessionInv { s with calls := s.calls ++ [call] } where
  single := h.single
  named := h.named
  hint := h.hint
  calls := fun d hd => (List.mem_append.mp hd).elim (h.calls d) fun hd => by
    rw [List.mem_singleton.mp hd]
    exact hcall

/-- A call is settled. -/
theorem settle (h : SessionInv s) {k : ℕ} {call : EnsureCall π} (hcall : CallOk s call) :
    SessionInv { s with calls := s.calls.set k call } where
  single := h.single
  named := h.named
  hint := h.hint
  calls := fun d hd => (List.mem_or_eq_of_mem_set hd).elim (h.calls d) fun hd => by
    rw [hd]
    exact hcall

end SessionInv

theorem createSession_not_succeeded (provider : Option π) :
    (createSession provider).succeeded = false := by
  cases provider <;> rfl

/-- A call that joins a creation waits for one that can only succeed with its provider. -/
theorem joined_callOk (h : SessionInv s) {forceRefresh : Bool}
    (hunmixed : Unmixed apiBase s (.ensureSession forceRefresh)) :
    CallOk { s with creations := (s.creations.join (createSession s.privyToken)).1 }
      ⟨s.privyToken, s.changes, .waiting (s.creations.join (createSession s.privyToken)).2⟩ := by
  refine ⟨le_rfl, fun _ => ⟨rfl, ?_⟩⟩
  cases hcurrent : s.creations.current with
  | some i =>
    rw [Flights.join_of_current hcurrent]
    have hlt : i < s.creations.jobs.length := by
      have := h.single.last i hcurrent
      omega
    refine ⟨s.creations.jobs[i], List.getElem?_eq_getElem hlt, ?_⟩
    exact hunmixed.2 forceRefresh i _ rfl hcurrent (List.getElem?_eq_getElem hlt)
  | none =>
    rw [Flights.join_of_free hcurrent]
    refine ⟨createSession s.privyToken, by simp, fun hsucceeded => ?_⟩
    rw [createSession_not_succeeded] at hsucceeded
    cases hsucceeded

theorem sessionInv_step (h : SessionInv s) (hunmixed : Unmixed apiBase s e)
    (hs : sessionStep apiBase s e = some s') : SessionInv s' := by
  cases session_effect hs with
  | kept now expiresAt hhint =>
    refine ⟨h.single, h.named, fun hint hh => ?_, h.calls⟩
    rcases hhint with rfl | rfl
    · exact h.hint hint hh
    · cases hh
  | changed provider =>
    refine ⟨h.single, h.named, fun hint hh => (by cases hh), fun call hcall => ?_⟩
    obtain ⟨hle, hstate⟩ := h.calls call hcall
    refine ⟨Nat.le_succ_of_le hle, ?_⟩
    -- the calls so far are of a provider before
    cases hcase : call.state with
    | waiting i => exact fun hnow => absurd (hnow ▸ hle) (Nat.not_succ_le_self _)
    | resolved i n =>
      rw [hcase] at hstate
      exact hstate
    | rejected err => trivial
  | answered hint hhint => exact h.call ⟨le_rfl, fun _ => h.hint hint hhint⟩
  | joined forceRefresh he =>
    subst he
    exact h.join.call (joined_callOk h hunmixed)
  | advanced i c phase hi hended hfailed hsucceeded hphase =>
    refine h.advance hi hended hfailed (fun hc => ?_) fun hc => ?_
    · rw [hsucceeded] at hc
      cases hc
    · rw [hphase] at hc
      cases hc
  | succeeded i provider ok status body expiresAt he hi hreply =>
    have hprovider := hunmixed.1 i body provider ok status expiresAt he hi hreply
    have hadvance : SessionInv (s.advance i ⟨provider, .text ok status⟩ (.settled (.ok ()))) :=
      h.advance hi rfl rfl (fun _ => rfl) fun _ => Or.inr hprovider
    refine ⟨hadvance.single, hadvance.named, fun hint hh => ?_, hadvance.calls⟩
    cases hh
    refine ⟨⟨provider, .settled (.ok ())⟩, ?_, hprovider, rfl⟩
    exact List.getElem?_set_self (List.getElem?_eq_some_iff.mp hi).1
  | released i provider result hi => exact h.release hi
  | resumed k i call c hk hwaiting hi hsucceeded =>
    obtain ⟨hle, hstate⟩ := h.calls call (List.mem_of_getElem? hk)
    rw [hwaiting] at hstate
    refine h.settle ⟨hle, fun hnow => ?_⟩
    obtain ⟨hsame, d, hd, hbacked⟩ := hstate hnow.symm
    cases hi.symm.trans hd
    exact ⟨c, hi, (hbacked hsucceeded).trans hsame.symm, hsucceeded⟩
  | rejected k call err hk => exact h.settle ⟨(h.calls call (List.mem_of_getElem? hk)).1, trivial⟩

/-! ## The session of the login -/

theorem Creation.not_failed_of_succeeded {c : Creation π} (h : c.succeeded = true) :
    c.failed = false := by
  obtain ⟨provider, phase⟩ := c
  unfold Creation.succeeded at h
  split at h
  · rename_i hphase
    simp only at hphase
    subst hphase
    rfl
  · rename_i hphase
    simp only at hphase
    subst hphase
    rfl
  · cases h

/-- In a run in which no creation succeeds, or is shared after its success, while a
    provider other than its own is registered, a call that resolves before the provider
    changes again vouches for a session of its own provider. -/
theorem session_of_login (apiBase : String) {s : SessionClient π}
    (h : Reach (sessionStep apiBase) (Unmixed apiBase) {} s) : Vouched s := by
  have hinv : SessionInv s := h.invariant sessionInv_init fun s e s' hs hunmixed hstep =>
    sessionInv_step hs hunmixed hstep
  intro call hcall i hresolved
  obtain ⟨-, hstate⟩ := hinv.calls call hcall
  rw [hresolved] at hstate
  obtain ⟨c, hi, hprovider, hsucceeded⟩ := hstate rfl
  have hnamed := hinv.named c (List.mem_of_getElem? hi) (Creation.not_failed_of_succeeded hsucceeded)
  obtain ⟨p, hp⟩ := Option.isSome_iff_exists.mp hnamed
  exact ⟨p, c, hprovider.symm.trans hp, hi, hp, hsucceeded⟩

/-! ## Two runs -/

/-- The call resolved before the provider changed again. -/
def EnsureCall.current (call : EnsureCall π) : Bool :=
  match call.state with
  | .resolved _ changes => changes == call.changes
  | _ => false

variable [DecidableEq π]

/-- The call vouches for a creation of another provider. -/
def inherits (s : SessionClient π) (call : EnsureCall π) : Bool :=
  match call.state with
  | .resolved i changes =>
    changes == call.changes && (s.creations.jobs[i]?).any fun c => c.provider != call.provider
  | _ => false

theorem not_vouched_of_inherits (h : s.calls.any (inherits s) = true) : ¬Vouched s := by
  intro hvouched
  obtain ⟨call, hcall, hinherits⟩ := List.any_eq_true.mp h
  unfold inherits at hinherits
  split at hinherits
  · rename_i i changes hstate
    rw [Bool.and_eq_true, beq_iff_eq] at hinherits
    obtain ⟨hchanges, hother⟩ := hinherits
    obtain ⟨p, c, hp, hi, hprovider, -⟩ := hvouched call hcall i (hchanges ▸ hstate)
    simp [hi, hprovider, hp] at hother
  · cases hinherits

/-- `Unmixed` as far as it can be computed: every reply counts as a success. -/
def unmixedCheck (s : SessionClient π) (e : SessionEvent π) : Bool :=
  match e with
  | .text i _ => (s.creations.jobs[i]?).all fun c => c.provider == s.privyToken
  | .ensureSession _ => s.creations.current.all fun i =>
    (s.creations.jobs[i]?).all fun c => !c.succeeded || c.provider == s.privyToken
  | _ => true

theorem unmixed_of_unmixedCheck (apiBase : String) (h : unmixedCheck s e = true) :
    Unmixed apiBase s e := by
  constructor
  · rintro i body provider ok status expiresAt rfl hi -
    simpa [unmixedCheck, hi] using h
  · rintro forceRefresh i c rfl hcurrent hi hsucceeded
    simpa [unmixedCheck, hcurrent, hi, hsucceeded] using h

/-- The second user logs in while the session of the first is being created. -/
def switchedRun : List (SessionEvent ℕ) :=
  [.setPrivyTokenProvider (some 1), .ensureSession false, .setPrivyTokenProvider (some 2),
    .ensureSession false, .token 0 (some "identity"), .response 0 true 200,
    .text 0 "\x7b\"authenticated\":true\x7d", .release 0, .resume 1]

theorem inherits_session :
    ∃ s, Reachable (sessionStep "/api") ({} : SessionClient ℕ) s ∧ ¬Vouched s := by
  obtain ⟨s, hs, hinherits⟩ := Reach.exists_of_run (sessionStep "/api") ({} : SessionClient ℕ)
    switchedRun (fun s => s.calls.any (inherits s)) (by decide +kernel)
  exact ⟨s, hs, not_vouched_of_inherits hinherits⟩

/-- The second user logs in after the session of the first was created and used. -/
def orderlyRun : List (SessionEvent ℕ) :=
  [.setPrivyTokenProvider (some 1), .ensureSession false, .token 0 (some "identity"),
    .response 0 true 200, .text 0 "\x7b\"authenticated\":true\x7d", .release 0, .resume 0,
    .ensureSession false, .setPrivyTokenProvider (some 2), .ensureSession false,
    .token 1 (some "identity"), .response 1 true 200, .text 1 "\x7b\"authenticated\":true\x7d",
    .release 1, .resume 2]

theorem session_of_login_sample : ∃ s, Reach (sessionStep "/api") (Unmixed "/api")
    ({} : SessionClient ℕ) s ∧ s.calls.countP EnsureCall.current = 3 ∧ Vouched s := by
  obtain ⟨s, hs, hcalls⟩ := Reach.exists_of_guardedRun (sessionStep "/api")
    (fun s e => unmixedCheck s e = true) ({} : SessionClient ℕ) orderlyRun
    (fun s => s.calls.countP EnsureCall.current == 3) (by decide +kernel)
  have hreach := hs.mono fun s e h => unmixed_of_unmixedCheck "/api" h
  exact ⟨s, hreach, by simpa using hcalls, session_of_login "/api" hreach⟩

end AccountAbstraction.Client
