import AccountAbstraction.Proxy.Backend

/-!
# Where the rights of a call come from

The cookies are assumed to hold no MAC but those of sessions that were minted, and `verify` to
use keys that Privy published.

* `Authority`: where the sessions, the tokens and the forwarded bodies of a state come from.
* `authority_run`: it holds in every state of every interleaving.
-/

namespace AccountAbstraction.Proxy.Backend

open Js

variable {κ : Type}

/-! ## Statements -/

/-- A `POST` to a path, behind the guards. -/
structure Posts (env : Env κ) (path : String) (req : Request) : Prop where
  method : req.method = "POST"
  path : pathOf req.url = path
  admitted : Admitted env.parseUrl env.guards req.headers

/-- The header carries a token that a key of Privy signed for the subject. -/
def SignedIn (v : Auth.PrivyVerifier κ) (published : Set κ) (authorization : Option String)
    (sub : String) (now : ℤ) : Prop :=
  ∃ token p₀ p₁ p₂ key claims, Auth.Bears (authorization.getD "").toList token ∧
    token.splitOn '.' = [p₀, p₁, p₂] ∧ key ∈ published ∧
    v.crypto.verifySignature key (utf8Encode (String.ofList (p₀ ++ '.' :: p₁))) (Auth.decodeSegment p₂) =
      .ok true ∧
    Auth.segmentJson p₁ = some claims ∧ Auth.ClaimsHold claims v.appId sub now

/-- The request is one for a session, of a caller who is signed in by Privy at the time `now`. -/
def Welcome (env : Env κ) (published : Set κ) (req : Request) (sub : String) (now : ℤ) : Prop :=
  Posts env "/api/session" req ∧ SignedIn env.privy published req.authorization sub now

/-- A session is that of a caller who was signed in when `verify` looked. Its token was granted
    by Keycloak: to this call, which asked for it at that time, or to an earlier one, and was still
    given out at that time, which is when the session was made. -/
structure Issued (env : Env κ) (published : Set κ) (s : State) (m : Minting) : Prop where
  session : m.token.accessToken = .str m.session.accessToken ∧
    m.session = mint m.session.accessToken m.identity.sub m.mintedAt
  granted : ∃ call answer, s.calls[m.call]? = some call ∧ answer ∈ s.answers ∧
    readToken answer.startedAt answer.reply = .ok m.token ∧
    (answer.call = m.call ∧ Welcome env published call.request m.identity.sub answer.startedAt ∨
      m.token.fresh m.mintedAt = true ∧ Welcome env published call.request m.identity.sub m.mintedAt)

/-- The sessions made so far, also those before the start. -/
def State.sessions (s : State) : List Minted := s.earlier ++ s.minted.map (·.session)

/-- The call is a write, with a session that had not expired when it came in. -/
def Entitled (env : Env κ) (s : State) (call : Call) (session : Session) : Prop :=
  Posts env "/api/bundler" call.request ∧ ∃ m ∈ s.sessions,
    session = ⟨m.accessToken, m.sub⟩ ∧
    ∀ x, m.expiresAt = some x → x.val.exceeds (call.openedAt + Auth.expirySkewMs) = true

/-- The body of an entitled call passes the policy, and goes out with the token of its session. -/
structure Authorized (env : Env κ) (s : State) (f : Forwarding) : Prop where
  entitled : ∃ call, s.calls[f.call]? = some call ∧ Entitled env s call f.session
  checked : policyCheck env.ethers env.proxy f.request = .ok f.checked
  sent : ∃ body, body.parsed = some f.request ∧ f.forward = forwardOf env.proxy f.session body

/-! ## The invariant -/

/-- Whether the call has neither got a session nor forwarded its body. -/
def Phase.before : Phase → Bool
  | .verifying => true
  | .fetching _ _ => true
  | .readingBody _ => true
  | _ => false

def PhaseSound (env : Env κ) (published : Set κ) (s : State) (call : Call) : Prop :=
  match call.phase with
  | .verifying => Posts env "/api/session" call.request
  | .fetching identity startedAt => Welcome env published call.request identity.sub startedAt
  | .readingBody session => Entitled env s call session
  | .forwarding session _ => Entitled env s call session
  | .readingText session _ _ _ => Entitled env s call session
  | .settling _ _ => True
  | .answered _ => True

/-- The calls that got a session or forwarded a body. -/
def State.spent (s : State) : List ℕ := s.minted.map (·.call) ++ s.forwarded.map (·.call)

structure Authority (env : Env κ) (published : Set κ) (earlier : List Minted) (s : State) : Prop where
  earlier : s.earlier = earlier
  cached : ∀ token, s.cache = some token →
    ∃ answer ∈ s.answers, readToken answer.startedAt answer.reply = .ok token
  calls : ∀ (i : ℕ) (call : Call), s.calls[i]? = some call → PhaseSound env published s call
  minted : ∀ m ∈ s.minted, Issued env published s m
  forwarded : ∀ f ∈ s.forwarded, Authorized env s f
  spent : ∀ i ∈ s.spent, ∃ call, s.calls[i]? = some call ∧ call.phase.before = false
  once : s.spent.Nodup

/-- What later states keep of a state. -/
structure Extends (s s' : State) : Prop where
  earlier : s'.earlier = s.earlier
  answers : s.answers ⊆ s'.answers
  minted : s.minted ⊆ s'.minted
  calls : ∀ (i : ℕ) (call : Call), s.calls[i]? = some call → ∃ call', s'.calls[i]? = some call' ∧
    call'.request = call.request ∧ call'.openedAt = call.openedAt

variable {env : Env κ} {published : Set κ} {earlier : List Minted} {s s' : State}

theorem Extends.sessions (hext : Extends s s') : s.sessions ⊆ s'.sessions := by
  intro m hm
  rcases List.mem_append.mp hm with hearlier | hminted
  · exact List.mem_append_left _ (hext.earlier ▸ hearlier)
  · exact List.mem_append_right _ (List.map_subset _ hext.minted hminted)

theorem Entitled.mono (hext : Extends s s') {call call' : Call} {session : Session}
    (hrequest : call'.request = call.request) (hopened : call'.openedAt = call.openedAt)
    (h : Entitled env s call session) : Entitled env s' call' session := by
  obtain ⟨hposts, m, hm, hsession, hexpiry⟩ := h
  refine ⟨hrequest ▸ hposts, m, hext.sessions hm, hsession, ?_⟩
  rwa [hopened]

theorem PhaseSound.mono (hext : Extends s s') {call : Call} (h : PhaseSound env published s call) :
    PhaseSound env published s' call := by
  unfold PhaseSound at h ⊢
  split at h
  all_goals first | exact h | exact Entitled.mono hext rfl rfl h

theorem Issued.mono (hext : Extends s s') {m : Minting} (h : Issued env published s m) :
    Issued env published s' m where
  session := h.session
  granted := by
    obtain ⟨call, answer, hcall, hanswer, hread, hwelcome⟩ := h.granted
    obtain ⟨call', hcall', hrequest, -⟩ := hext.calls _ call hcall
    exact ⟨call', answer, hcall', hext.answers hanswer, hread, hrequest ▸ hwelcome⟩

theorem Authorized.mono (hext : Extends s s') {f : Forwarding} (h : Authorized env s f) :
    Authorized env s' f where
  entitled := by
    obtain ⟨call, hcall, hentitled⟩ := h.entitled
    obtain ⟨call', hcall', hrequest, hopened⟩ := hext.calls _ call hcall
    exact ⟨call', hcall', hentitled.mono hext hrequest hopened⟩
  checked := h.checked
  sent := h.sent

/-- What holds of every state that a run starts in. -/
theorem authority_init (now : ℤ) (log : HistoryLog) :
    Authority env published earlier (init now log earlier) where
  earlier := rfl
  cached _ h := by cases h
  calls _ _ h := by simp [init] at h
  minted _ h := by simp [init] at h
  forwarded _ h := by simp [init] at h
  spent _ h := by simp [State.spent, init] at h
  once := by simp [State.spent, init]

/-! ## One call goes on -/

/-- The call `i` of a state, and the call that it is after a step. -/
structure Advances (s s' : State) (i : ℕ) (call call' : Call) : Prop where
  here : s.calls[i]? = some call
  calls : s'.calls = s.calls.set i call'
  request : call'.request = call.request
  openedAt : call'.openedAt = call.openedAt

theorem advances_resume {i : ℕ} {call : Call} (h : s.calls[i]? = some call) (phase : Phase) :
    Advances s (s.resume i call phase) i call { call with phase } :=
  ⟨h, rfl, rfl, rfl⟩

theorem Advances.getElem? {i : ℕ} {call call' : Call} (h : Advances s s' i call call') (j : ℕ) :
    s'.calls[j]? = if j = i then some call' else s.calls[j]? := by
  obtain ⟨hlt, -⟩ := List.getElem?_eq_some_iff.mp h.here
  rw [h.calls, List.getElem?_set]
  by_cases hij : i = j
  · simp [hij, hij ▸ hlt]
  · simp [hij, Ne.symm hij]

theorem Advances.here' {i : ℕ} {call call' : Call} (h : Advances s s' i call call') :
    s'.calls[i]? = some call' := by
  rw [h.getElem?, if_pos rfl]

/-- Every call is still there. -/
theorem Advances.kept {i : ℕ} {call call' : Call} (h : Advances s s' i call call') (j : ℕ) (old : Call)
    (hj : s.calls[j]? = some old) : ∃ new, s'.calls[j]? = some new ∧ new.request = old.request ∧
      new.openedAt = old.openedAt := by
  rw [h.getElem?]
  split_ifs with hij
  · rw [hij, h.here] at hj
    cases hj
    exact ⟨call', rfl, h.request, h.openedAt⟩
  · exact ⟨old, hj, rfl, rfl⟩

theorem Advances.extends {i : ℕ} {call call' : Call} (h : Advances s s' i call call')
    (hearlier : s'.earlier = s.earlier) (hanswers : s.answers ⊆ s'.answers) (hminted : s.minted ⊆ s'.minted) :
    Extends s s' where
  earlier := hearlier
  answers := hanswers
  minted := hminted
  calls := h.kept

/-- The spent calls of a step that spends none, or the one that goes on. -/
theorem Advances.spent {i : ℕ} {call call' : Call} (h : Advances s s' i call call')
    (hs : Authority env published earlier s) (hafter : call.phase.before = false → call'.phase.before = false)
    {spent : List ℕ} (hspent : ∀ j ∈ spent, j ∈ s.spent ∨ (j = i ∧ call'.phase.before = false)) :
    ∀ j ∈ spent, ∃ callⱼ, s'.calls[j]? = some callⱼ ∧ callⱼ.phase.before = false := by
  intro j hj
  rcases hspent j hj with hold | ⟨rfl, hbefore⟩
  · obtain ⟨callⱼ, hcall, hbefore⟩ := hs.spent j hold
    rw [h.getElem?]
    split_ifs with hij
    · rw [hij, h.here] at hcall
      cases hcall
      exact ⟨call', rfl, hafter hbefore⟩
    · exact ⟨callⱼ, hcall, hbefore⟩
  · exact ⟨call', h.here', hbefore⟩

/-- A call that has neither got a session nor forwarded its body is not spent. -/
theorem Authority.not_spent (hs : Authority env published earlier s) {i : ℕ} {call : Call}
    (hcall : s.calls[i]? = some call) (hbefore : call.phase.before = true) : i ∉ s.spent := by
  intro hi
  obtain ⟨call', hcall', hafter⟩ := hs.spent i hi
  rw [hcall] at hcall'
  cases hcall'
  simp [hbefore] at hafter

theorem Advances.phases {i : ℕ} {call call' : Call} (h : Advances s s' i call call')
    (hext : Extends s s') (hs : Authority env published earlier s) (hsound : PhaseSound env published s' call') :
    ∀ (j : ℕ) (callⱼ : Call), s'.calls[j]? = some callⱼ → PhaseSound env published s' callⱼ := by
  intro j callⱼ hj
  rw [h.getElem?] at hj
  split_ifs at hj
  · cases hj
    exact hsound
  · exact (hs.calls j callⱼ hj).mono hext

/-- A step that spends nothing keeps the invariant, if the phase that it leads to is sound. -/
theorem Authority.advance (hs : Authority env published earlier s) {i : ℕ} {call call' : Call}
    (h : Advances s s' i call call') (hearlier : s'.earlier = s.earlier) (hanswers : s.answers ⊆ s'.answers)
    (hcached : ∀ token, s'.cache = some token →
      ∃ answer ∈ s'.answers, readToken answer.startedAt answer.reply = .ok token)
    (hminted : s'.minted = s.minted) (hforwarded : s'.forwarded = s.forwarded)
    (hafter : call.phase.before = false → call'.phase.before = false)
    (hsound : PhaseSound env published s' call') : Authority env published earlier s' := by
  have hext := h.extends hearlier hanswers (by rw [hminted]; exact List.Subset.refl _)
  have hspent : s'.spent = s.spent := by rw [State.spent, State.spent, hminted, hforwarded]
  exact {
    earlier := hearlier.trans hs.earlier
    cached := hcached
    calls := h.phases hext hs hsound
    minted := fun m hm => (hs.minted m (hminted ▸ hm)).mono hext
    forwarded := fun f hf => (hs.forwarded f (hforwarded ▸ hf)).mono hext
    spent := h.spent hs hafter fun j hj => .inl (hspent ▸ hj)
    once := hspent ▸ hs.once }

/-- A step in which no call goes on keeps the invariant, if the cached token is one that Keycloak
    gave. -/
theorem Authority.rest (hs : Authority env published earlier s) (hearlier : s'.earlier = s.earlier)
    (hcalls : s'.calls = s.calls) (hanswers : s.answers ⊆ s'.answers)
    (hcached : ∀ token, s'.cache = some token →
      ∃ answer ∈ s'.answers, readToken answer.startedAt answer.reply = .ok token)
    (hminted : s'.minted = s.minted) (hforwarded : s'.forwarded = s.forwarded) :
    Authority env published earlier s' := by
  have hext : Extends s s' :=
    ⟨hearlier, hanswers, by rw [hminted]; exact List.Subset.refl _,
      fun i call h => ⟨call, by rw [hcalls, h], rfl, rfl⟩⟩
  have hspent : s'.spent = s.spent := by rw [State.spent, State.spent, hminted, hforwarded]
  exact {
    earlier := hearlier.trans hs.earlier
    cached := hcached
    calls := fun i call h => (hs.calls i call (hcalls ▸ h)).mono hext
    minted := fun m hm => (hs.minted m (hminted ▸ hm)).mono hext
    forwarded := fun f hf => (hs.forwarded f (hforwarded ▸ hf)).mono hext
    spent := fun i hi => by
      rw [hcalls]
      exact hs.spent i (hspent ▸ hi)
    once := hspent ▸ hs.once }

/-- A call receives something. -/
theorem Authority.hear (hs : Authority env published earlier s) (i : ℕ) (received : Received) :
    Authority env published earlier (s.hear i received) :=
  hs.rest rfl rfl (List.Subset.refl _) hs.cached rfl rfl

/-- A call is answered, and the log may be written. -/
theorem Authority.answered (hs : Authority env published earlier s) {i : ℕ} {call : Call}
    (hcall : s.calls[i]? = some call) (reply : Reply) (log : HistoryLog) (recorded : List Recording) :
    Authority env published earlier
      { s.resume i call (.answered reply) with log := log, recorded := recorded } := by
  have hadv : Advances s { s.resume i call (.answered reply) with log := log, recorded := recorded }
      i call { call with phase := .answered reply } := ⟨hcall, rfl, rfl, rfl⟩
  exact hs.advance hadv rfl (List.Subset.refl _) hs.cached rfl rfl (fun _ => rfl) trivial

theorem Authority.refuse (hs : Authority env published earlier s) {i : ℕ} {call : Call}
    (hcall : s.calls[i]? = some call) (status : ℕ) (error : String) :
    Authority env published earlier (s.resume i call (env.refuse call.request status error)) :=
  hs.answered hcall _ s.log s.recorded

theorem Authority.crash (hs : Authority env published earlier s) {i : ℕ} {call : Call}
    (hcall : s.calls[i]? = some call) :
    Authority env published earlier (s.resume i call (env.crash call.request)) :=
  hs.refuse hcall 500 _

theorem Authority.recordThen (hs : Authority env published earlier s) {i : ℕ} {call : Call}
    (hcall : s.calls[i]? = some call) (entry : LogEntry) (reply : ProxyReply) :
    Authority env published earlier (s.recordThen env i call entry reply) := by
  unfold State.recordThen
  split
  · exact hs.answered hcall _ _ _
  · exact hs.crash hcall

/-! ## Sessions -/

/-- The keys that `verify` may use were published. -/
def KeysPublished (v : Auth.PrivyVerifier κ) (published : Set κ) (jwks : Auth.Jwks κ)
    (readings : Auth.KeyReadings) : Prop :=
  ∀ kid jwks', Auth.Refetched v jwks readings kid jwks' →
    ∀ key, jwks'.keys.get kid = some key → key ∈ published

/-- A caller whom `verify` knows was signed in. -/
theorem signedIn_of_verify {v : Auth.PrivyVerifier κ} {jwks : Auth.Jwks κ} {readings : Auth.Readings}
    {authorization : Option String} {identity : Auth.Identity}
    (hpublished : KeysPublished v published jwks readings.toKeyReadings)
    (h : Auth.verify v jwks readings authorization = .ok identity) :
    SignedIn v published authorization identity.sub readings.claimsAt := by
  simp only [Auth.verify, bind_eq_ok] at h
  obtain ⟨⟨p₀, p₁, p₂⟩, hsegments, kid, -, key, hkey, ⟨⟩, hsignature, hclaims⟩ := h
  obtain ⟨token, hbears, hsplit⟩ := Auth.segments_eq_ok.mp hsegments
  obtain ⟨s', hrefetched, hget⟩ := Auth.keyFor_eq_ok.mp hkey
  simp only [Auth.readClaims, bind_eq_ok, Auth.readSegment_eq_ok, Auth.orThrow_eq_ok] at hclaims
  obtain ⟨claims, hread, iss, hiss, hclaims⟩ := hclaims
  split_ifs at hclaims with hissuer haudience
  obtain ⟨exp, hexp, hidentity⟩ := bind_eq_ok.mp hclaims
  obtain ⟨hfield, hexceeds, hnbf⟩ := Auth.checkTimes_eq_ok.mp hexp
  obtain ⟨w, -, hsub, htruthy, htext, -, -⟩ := Auth.readIdentity_eq_ok.mp hidentity
  have hissuer' := isText_iff.mp (by simpa using hissuer)
  refine ⟨token, p₀, p₁, p₂, key, claims, hbears, hsplit, hpublished kid s' hrefetched key hget,
    Auth.checkSignature_eq_ok.mp hsignature, hread, ?_⟩
  exact {
    iss := by rw [Auth.field_of_prop hiss, hissuer']; rfl
    aud := Auth.audienceMatches_iff.mp (by simpa using haudience)
    exp := ⟨exp, hfield, hexceeds⟩
    nbf := hnbf
    sub := ⟨w, hsub, htruthy, htext⟩ }

/-- A session is made for a welcome caller, of a token that Keycloak granted. -/
theorem Authority.issue (hs : Authority env published earlier s) {i : ℕ} {call : Call}
    (hcall : s.calls[i]? = some call) (hbefore : call.phase.before = true) {identity : Auth.Identity}
    {token : CachedToken} (hgranted : ∃ answer ∈ s.answers,
      readToken answer.startedAt answer.reply = .ok token ∧
      (answer.call = i ∧ Welcome env published call.request identity.sub answer.startedAt ∨
        token.fresh s.now = true ∧ Welcome env published call.request identity.sub s.now)) :
    Authority env published earlier (issue env s i call identity token) := by
  unfold Backend.issue
  split
  · rename_i accessToken htoken
    simp only
    set m : Minting := ⟨i, identity, token, s.now, mint accessToken identity.sub s.now⟩ with hm
    set s' : State := { s.resume i call (env.answer call.request 200 _ _) with
      minted := s.minted ++ [m] } with hs'
    have hadv : Advances s s' i call { call with phase := _ } := ⟨hcall, rfl, rfl, rfl⟩
    have hext : Extends s s' :=
      hadv.extends rfl (List.Subset.refl _) (List.subset_append_left _ _)
    have hspent : s'.spent.Perm (i :: s.spent) := by
      simp only [State.spent, hs', List.map_append, List.map_cons, List.map_nil, hm,
        List.append_assoc, List.singleton_append]
      exact List.perm_middle
    exact {
      earlier := hs.earlier
      cached := hs.cached
      calls := hadv.phases hext hs trivial
      minted := by
        intro x hx
        rcases List.mem_append.mp hx with hold | hnew
        · exact (hs.minted x hold).mono hext
        · rw [List.mem_singleton.mp hnew]
          obtain ⟨answer, hanswer, hread, hwelcome⟩ := hgranted
          exact ⟨⟨htoken, rfl⟩, _, answer, hadv.here', hanswer, hread, hwelcome⟩
      forwarded := fun f hf => (hs.forwarded f hf).mono hext
      spent := hadv.spent hs (fun _ => rfl) fun j hj => by
        rcases List.mem_cons.mp (hspent.mem_iff.mp hj) with rfl | hold
        · exact .inr ⟨rfl, rfl⟩
        · exact .inl hold
      once := hspent.nodup_iff.mpr (List.nodup_cons.mpr ⟨hs.not_spent hcall hbefore, hs.once⟩) }
  · exact hs.refuse hcall _ _

theorem Authority.afterVerify (hs : Authority env published earlier s) {i : ℕ} {call : Call}
    (hcall : s.calls[i]? = some call) (hphase : call.phase = .verifying)
    {result : Except Auth.VerifyError Auth.Identity}
    (hsigned : ∀ identity, result = .ok identity →
      SignedIn env.privy published call.request.authorization identity.sub s.now) :
    Authority env published earlier (afterVerify env s i call result) := by
  have hposts : Posts env "/api/session" call.request := by
    have hsound := hs.calls i call hcall
    rwa [PhaseSound, hphase] at hsound
  unfold Backend.afterVerify
  split
  · exact hs.refuse hcall _ _
  · exact hs.crash hcall
  · rename_i identity
    have hwelcome : Welcome env published call.request identity.sub s.now :=
      ⟨hposts, hsigned identity rfl⟩
    split
    · rename_i token htoken
      obtain ⟨hcache, hfresh⟩ := Option.filter_eq_some_iff.mp htoken
      obtain ⟨answer, hanswer, hread⟩ := hs.cached token hcache
      exact hs.issue hcall (by rw [hphase]; rfl) ⟨answer, hanswer, hread, .inr ⟨hfresh, hwelcome⟩⟩
    · exact hs.advance (advances_resume hcall _) rfl (List.Subset.refl _) hs.cached rfl rfl
        (fun h => by simp [hphase, Phase.before] at h) hwelcome

/-- Keycloak's answer is noted, and the token may be cached. -/
theorem Authority.noted (hs : Authority env published earlier s) (answer : Answer) {cache : Option CachedToken}
    (hcached : ∀ token, cache = some token → s.cache = some token ∨
      readToken answer.startedAt answer.reply = .ok token) :
    Authority env published earlier { s with answers := s.answers ++ [answer], cache := cache } := by
  refine hs.rest rfl rfl (List.subset_append_left _ _) (fun token htoken => ?_) rfl rfl
  rcases hcached token htoken with hold | hnew
  · obtain ⟨answer', hmem, hread⟩ := hs.cached token hold
    exact ⟨answer', List.mem_append_left _ hmem, hread⟩
  · exact ⟨answer, by simp, hnew⟩

theorem Authority.afterToken (hs : Authority env published earlier s) {i : ℕ} {call : Call}
    (hcall : s.calls[i]? = some call) {identity : Auth.Identity} {startedAt : ℤ}
    (hphase : call.phase = .fetching identity startedAt) (reply : TokenReply) :
    Authority env published earlier (afterToken env s i call identity startedAt reply) := by
  have hwelcome : Welcome env published call.request identity.sub startedAt := by
    have hsound := hs.calls i call hcall
    rwa [PhaseSound, hphase] at hsound
  unfold Backend.afterToken
  simp only
  split
  · exact (hs.noted ⟨i, startedAt, reply⟩ fun _ h => .inl h).refuse hcall _ _
  · rename_i token hread
    have hcached : ∀ token', some token = some token' → s.cache = some token' ∨
        readToken startedAt reply = .ok token' := fun _ h => .inr (by cases h; exact hread)
    have hnoted := hs.noted ⟨i, startedAt, reply⟩ hcached
    exact hnoted.issue hcall (by rw [hphase]; rfl)
      ⟨⟨i, startedAt, reply⟩, by simp, hread, .inl ⟨rfl, hwelcome⟩⟩

/-! ## Writes -/

theorem Authority.afterBody (hs : Authority env published earlier s) {i : ℕ} {call : Call}
    (hcall : s.calls[i]? = some call) {session : Session} (hphase : call.phase = .readingBody session)
    (body : Except BodyError Body) : Authority env published earlier (afterBody env s i call session body) := by
  have hentitled : Entitled env s call session := by
    have hsound := hs.calls i call hcall
    rwa [PhaseSound, hphase] at hsound
  unfold Backend.afterBody
  split
  · exact hs.refuse hcall _ _
  rename_i body
  split
  · exact hs.refuse hcall _ _
  rename_i request hparsed
  split
  · exact hs.recordThen hcall _ _
  · exact hs.crash hcall
  rename_i checked hcheck
  set f : Forwarding := ⟨i, session, request, checked, forwardOf env.proxy session body⟩ with hf
  set s' : State := { s.resume i call (.forwarding session checked) with
    forwarded := s.forwarded ++ [f] } with hs'
  have hadv : Advances s s' i call { call with phase := .forwarding session checked } :=
    ⟨hcall, rfl, rfl, rfl⟩
  have hext : Extends s s' := hadv.extends rfl (List.Subset.refl _) (List.Subset.refl _)
  have hentitled' : Entitled env s' { call with phase := .forwarding session checked } session :=
    hentitled.mono hext rfl rfl
  have hspent : s'.spent.Perm (i :: s.spent) := by
    simp only [State.spent, hs', List.map_append, List.map_cons, List.map_nil, hf, ← List.append_assoc]
    exact List.perm_append_singleton i _
  show Authority env published earlier s'
  exact {
    earlier := hs.earlier
    cached := hs.cached
    calls := hadv.phases hext hs hentitled'
    minted := fun m hm => (hs.minted m hm).mono hext
    forwarded := by
      intro x hx
      rcases List.mem_append.mp hx with hold | hnew
      · exact (hs.forwarded x hold).mono hext
      · rw [List.mem_singleton.mp hnew]
        exact ⟨⟨_, hadv.here', hentitled'⟩, hcheck, body, hparsed, rfl⟩
    spent := hadv.spent hs (fun _ => rfl) fun j hj => by
      rcases List.mem_cons.mp (hspent.mem_iff.mp hj) with rfl | hold
      · exact .inr ⟨rfl, rfl⟩
      · exact .inl hold
    once := hspent.nodup_iff.mpr (List.nodup_cons.mpr
      ⟨hs.not_spent hcall (by rw [hphase]; rfl), hs.once⟩) }

theorem Authority.afterUpstream (hs : Authority env published earlier s) {i : ℕ} {call : Call}
    (hcall : s.calls[i]? = some call) {session : Session} {checked : Checked}
    (hphase : call.phase = .forwarding session checked) (reply : Except JsError (ℕ × Option String)) :
    Authority env published earlier (afterUpstream env s i call session checked reply) := by
  have hentitled : Entitled env s call session := by
    have hsound := hs.calls i call hcall
    rwa [PhaseSound, hphase] at hsound
  unfold Backend.afterUpstream
  split
  · exact hs.recordThen hcall _ _
  · rename_i status contentType
    have hadv := advances_resume hcall (.readingText session checked status contentType)
    exact hs.advance hadv rfl (List.Subset.refl _) hs.cached rfl rfl (fun _ => rfl)
      (hentitled.mono (hadv.extends rfl (List.Subset.refl _) (List.Subset.refl _)) rfl rfl)

theorem Authority.afterText (hs : Authority env published earlier s) {i : ℕ} {call : Call}
    (hcall : s.calls[i]? = some call) (session : Session) (checked : Checked) (status : ℕ)
    (contentType : Option String) (text : Except JsError Body) :
    Authority env published earlier (afterText env s i call session checked status contentType text) := by
  unfold Backend.afterText
  split
  · exact hs.crash hcall
  · exact hs.recordThen hcall _ _

theorem Authority.afterReceipt (hs : Authority env published earlier s) {i : ℕ} {call : Call}
    (hcall : s.calls[i]? = some call) (limit : JsNumber) (asked : List (ℕ × Option String))
    (row : ℕ × Option String) (receipt : Option UserOpReceipt) :
    Authority env published earlier (afterReceipt env s i call limit asked row receipt) := by
  unfold Backend.afterReceipt
  simp only
  split
  all_goals
    exact hs.advance ⟨hcall, rfl, rfl, rfl⟩ rfl (List.Subset.refl _) hs.cached rfl rfl (fun _ => rfl) trivial

/-! ## Requests -/

/-- The header of a request holds no session that was not minted. -/
def Unforged (env : Env κ) (s : State) (req : Request) : Prop :=
  ∀ header, req.cookie = some header → UnforgedBy env.codec { m | m ∈ s.sessions } header

theorem openSession_sound {req : Request} (hposts : req.method = "POST" → Posts env "/api/session" req) :
    PhaseSound env published s ⟨req, s.now, openSession env s.now req⟩ := by
  unfold openSession
  split_ifs with hget hdelete hpost hmissing
  · trivial
  · trivial
  · trivial
  · trivial
  · exact hposts (not_not.mp hpost)

theorem openBundler_sound {req : Request} (hposts : req.method = "POST" → Posts env "/api/bundler" req)
    (hunforged : Unforged env s req) {phase : Phase} (h : openBundler env s.now req = some phase) :
    PhaseSound env published s ⟨req, s.now, phase⟩ := by
  unfold openBundler at h
  split_ifs at h with hpost
  · cases h
    trivial
  split at h
  · cases h
    trivial
  rename_i parsed hparsed
  obtain ⟨header, hcookie⟩ : ∃ header, req.cookie = some header := by
    cases hcookie : req.cookie with
    | none => simp [Env.current, hcookie, Auth.SessionCodec.parse, Auth.readCookie] at hparsed
    | some header => exact ⟨header, rfl⟩
  rw [Env.current, hcookie] at hparsed
  obtain ⟨m, hm, htoken, hsub, hexpiry⟩ := parse_minted (hunforged header hcookie) hparsed
  rw [sessionOf, htoken, hsub] at h
  cases h
  exact ⟨hposts (not_not.mp hpost), m, hm, rfl, hexpiry⟩

theorem openHistory_sound (req : Request) (log : HistoryLog) :
    PhaseSound env published s ⟨req, s.now, openHistory env s.now log req⟩ := by
  unfold openHistory
  split_ifs
  · trivial
  · trivial
  · simp only
    split <;> trivial

theorem openCall_sound {req : Request} (hunforged : Unforged env s req) {phase : Phase}
    (h : openCall env s req = some phase) : PhaseSound env published s ⟨req, s.now, phase⟩ := by
  unfold openCall at h
  split at h
  · cases h
    split <;> trivial
  · cases h
    trivial
  · cases h
    trivial
  · cases h
    trivial
  · split at h <;> cases h <;> trivial
  · rename_i hroute
    cases h
    refine openSession_sound fun hmethod => ?_
    obtain ⟨hadmitted, hhandler⟩ := admitted_of_route hroute rfl
    exact ⟨hmethod, handlerOf_session hhandler, hadmitted⟩
  · rename_i hroute
    refine openBundler_sound (fun hmethod => ?_) hunforged h
    obtain ⟨hadmitted, hhandler⟩ := admitted_of_route hroute rfl
    exact ⟨hmethod, handlerOf_bundler hhandler, hadmitted⟩
  · cases h
    exact openHistory_sound req s.log
  · cases h
    trivial
  · cases h
    trivial

theorem Authority.opened (hs : Authority env published earlier s) {call : Call}
    (hsound : PhaseSound env published s call) :
    Authority env published earlier { s with calls := s.calls ++ [call] } := by
  set s' : State := { s with calls := s.calls ++ [call] } with hs'
  have hkept : ∀ (i : ℕ) (callᵢ : Call), s.calls[i]? = some callᵢ → s'.calls[i]? = some callᵢ := by
    intro i callᵢ h
    rw [← h]
    exact List.getElem?_append_left (List.getElem?_eq_some_iff.mp h).1
  have hext : Extends s s' :=
    ⟨rfl, List.Subset.refl _, List.Subset.refl _, fun i callᵢ h => ⟨callᵢ, hkept i callᵢ h, rfl, rfl⟩⟩
  exact {
    earlier := hs.earlier
    cached := hs.cached
    calls := by
      intro i callᵢ hi
      rw [List.getElem?_append] at hi
      split_ifs at hi
      · exact (hs.calls i callᵢ hi).mono hext
      · rw [List.mem_singleton.mp (List.mem_of_getElem? hi)]
        exact hsound.mono hext
    minted := fun m hm => (hs.minted m hm).mono hext
    forwarded := fun f hf => (hs.forwarded f hf).mono hext
    spent := by
      intro i hi
      obtain ⟨callᵢ, hcall, hbefore⟩ := hs.spent i hi
      exact ⟨callᵢ, hkept i callᵢ hcall, hbefore⟩
    once := hs.once }

theorem Authority.clock (hs : Authority env published earlier s) (now : ℤ) :
    Authority env published earlier { s with now := now } :=
  hs.rest rfl rfl (List.Subset.refl _) hs.cached rfl rfl

/-! ## Runs -/

/-- What is assumed of the world: nobody makes a MAC without the key, and the keys that `verify`
    uses were published by Privy. -/
def Honest (env : Env κ) (published : Set κ) (s : State) : Event κ → Prop
  | .request req => Unforged env s req
  | .verified _ jwks keys => KeysPublished env.privy published jwks keys
  | _ => True

theorem authority_step {e : Event κ} (hs : Authority env published earlier s) (hhonest : Honest env published s e)
    (hstep : step env s e = some s') : Authority env published earlier s' := by
  cases e with
  | clock now =>
    cases hstep
    exact hs.clock now
  | request req =>
    obtain ⟨phase, hphase, rfl⟩ := Option.map_eq_some_iff.mp hstep
    exact hs.opened (openCall_sound hhonest hphase)
  | verified i jwks keys =>
    simp only [step] at hstep
    split at hstep
    · rename_i hcall
      cases hstep
      refine hs.afterVerify hcall rfl fun identity h => ?_
      have hpublished : KeysPublished env.privy published jwks keys := hhonest
      exact signedIn_of_verify hpublished h
    · cases hstep
  | token i reply =>
    simp only [step] at hstep
    split at hstep
    · rename_i hcall
      cases hstep
      exact hs.afterToken hcall rfl reply
    · cases hstep
  | body i body =>
    simp only [step] at hstep
    split at hstep
    · rename_i hcall
      cases hstep
      exact (hs.hear i _).afterBody hcall rfl body
    · cases hstep
  | upstream i reply =>
    simp only [step] at hstep
    split at hstep
    · rename_i hcall
      cases hstep
      exact (hs.hear i _).afterUpstream hcall rfl reply
    · cases hstep
  | text i text =>
    simp only [step] at hstep
    split at hstep
    · rename_i hcall
      cases hstep
      exact (hs.hear i _).afterText hcall _ _ _ _ text
    · cases hstep
  | receipt i row receipt =>
    simp only [step] at hstep
    split at hstep
    · rename_i hcall
      split_ifs at hstep
      cases hstep
      exact (hs.hear i _).afterReceipt hcall _ _ row receipt
    · cases hstep
  | page i =>
    simp only [step] at hstep
    split at hstep
    · rename_i hcall
      cases hstep
      unfold answerPage
      split
      · exact hs.answered hcall _ s.log s.recorded
      · exact hs.crash hcall
    · cases hstep

theorem authority_run {now : ℤ} {log : HistoryLog}
    (h : Reach (step env) (Honest env published) (init now log earlier) s) : Authority env published earlier s :=
  h.invariant (authority_init now log) fun _ _ _ hs hhonest hstep => authority_step hs hhonest hstep

end AccountAbstraction.Proxy.Backend
