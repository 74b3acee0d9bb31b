import AccountAbstraction.Auth.CookieRoundTrip
import AccountAbstraction.Proxy.Authority
import AccountAbstraction.Proxy.Refinement

/-!
# Who writes through the backend

In every interleaving of requests, a body goes to the bundler only for a caller whom Privy has
signed in.

* `forwarded_authorized`: every body that is forwarded in a run carries the token and the
  subject of one session, minted for a signed-in caller, and passes the policy; each request is
  forwarded once at most.
-/

namespace AccountAbstraction.Proxy.Backend

open Js

variable {κ : Type} {env : Env κ} {published : Set κ} {s : State}

/-- In every run, what goes to the bundler goes once for each request, with the token and the
    subject of one session. The session is one from before the start, or was made for a caller
    signed in by Privy, of a token granted by Keycloak. -/
theorem forwarded_authorized {now : ℤ} {log : HistoryLog} {earlier : List Minted}
    (h : Reach (step env) (Honest env published) (init now log earlier) s) :
    s.earlier = earlier ∧ (s.forwarded.map (·.call)).Nodup ∧ (∀ f ∈ s.forwarded, Authorized env s f) ∧
      (s.minted.map (·.call)).Nodup ∧ ∀ m ∈ s.minted, Issued env published s m := by
  have hs := authority_run h
  have honce := List.nodup_append.mp hs.once
  exact ⟨hs.earlier, honce.2.1, hs.forwarded, honce.1, hs.minted⟩

/-! ## A write -/

def sampleBackend : Env Unit where
  ethers := sampleEthers
  parseUrl := fun _ => none
  guards := { deployed := false, allowedOrigins := [] }
  hasNext := false
  missing := []
  health := .ok (.obj [("ok", .bool true)])
  codec := Auth.sampleCodec
  privy := Auth.sampleVerifier
  policy := sampleProxy.policy
  bundlerUrl := sampleProxy.bundlerUrl
  userOpLogLimit := none
  historyDbPath := "userops.db"
  parseLog := plainParseLog

/-- The time of the run, a minute before `sampleSession` expires. -/
def sampleNow : ℤ := 1767225840000

def sessionRequest : Request where
  method := "POST"
  url := "/api/session"
  headers := { host := some "localhost:5173" }
  authorization := some Auth.sampleAuthorization

def writeCookie : String := String.ofList (Auth.sampleCodec.pair Auth.sampleSession)

def writeRequest : Request where
  method := "POST"
  url := "/api/bundler"
  headers := { host := some "localhost:5173" }
  cookie := some writeCookie

/-- What the cookie says. -/
def sampleOwner : Session := ⟨"keycloak.access.token", "did:privy:test-user"⟩

def sampleGrant : TokenReply :=
  .answer true 200 (some (.obj
    [("access_token", .str "keycloak.access.token"), ("expires_in", .num (.int 60))]))

def sampleAnswer : Body where
  text := "\x7b\"result\":\"0x00\"\x7d"
  parsed := some (.obj [("result", .str "0x00")])

theorem sample_verified : ∃ identity, Auth.verify Auth.sampleVerifier {}
      ⟨Auth.sampleReadings.toKeyReadings, sampleNow⟩ (some Auth.sampleAuthorization) = .ok identity ∧
    identity.sub = "did:privy:test-user" := by
  have hsegments : Auth.segments (some Auth.sampleAuthorization) = .ok (Auth.encodeSegment Auth.sampleHeader,
      Auth.encodeSegment Auth.sampleClaims, Auth.sampleSignature) :=
    Auth.segments_eq_ok.mpr ⟨_, Auth.sampleLine_bears, Auth.sampleLine_splitOn⟩
  have hkid : Auth.readHeader (Auth.encodeSegment Auth.sampleHeader) = .ok (.str "test-key-1") :=
    Auth.readHeader_eq_ok.mpr ⟨_, Auth.segmentJson_encodeSegment Auth.sampleHeader_plain, rfl, rfl, rfl⟩
  have hkey : (Auth.keyFor Auth.sampleVerifier {} Auth.sampleReadings.toKeyReadings (.str "test-key-1")).1 =
      .ok () := Auth.keyFor_eq_ok.mpr ⟨_, ⟨_, rfl, rfl⟩, rfl⟩
  have hsignature : Auth.checkSignature Auth.sampleVerifier () (Auth.encodeSegment Auth.sampleHeader)
      (Auth.encodeSegment Auth.sampleClaims) Auth.sampleSignature = .ok () :=
    Auth.checkSignature_eq_ok.mpr (by simp [Auth.sampleVerifier])
  have hhold : Auth.ClaimsHold Auth.sampleClaims Auth.sampleVerifier.appId "did:privy:test-user" sampleNow :=
    ⟨rfl, Or.inl rfl, ⟨.int 1800000600, rfl, rfl⟩, (fun _ h => by cases h), ⟨_, rfl, rfl, rfl⟩⟩
  have hplain : ∀ claims, Auth.segmentJson (Auth.encodeSegment Auth.sampleClaims) = some claims →
      Auth.IsPlainClaim (claims.field "sid") := by
    intro claims h
    rw [Auth.segmentJson_encodeSegment Auth.sampleClaims_plain] at h
    cases h
    exact fun w hw => .inl ⟨_, (Option.some.inj hw).symm⟩
  obtain ⟨identity, hclaims, hsub⟩ := (Auth.readClaims_sub_iff hplain).mpr
    ⟨_, Auth.segmentJson_encodeSegment Auth.sampleClaims_plain, hhold⟩
  refine ⟨identity, ?_, hsub⟩
  unfold Auth.verify
  exact bind_eq_ok.mpr ⟨_, hsegments, bind_eq_ok.mpr ⟨_, hkid, bind_eq_ok.mpr ⟨(), hkey,
    bind_eq_ok.mpr ⟨(), hsignature, hclaims⟩⟩⟩⟩

theorem sampleMint_payload :
    (mint "keycloak.access.token" "did:privy:test-user" sampleNow).payload = Auth.samplePayload := by
  decide +kernel

theorem writeCookie_toList : writeCookie.toList =
    Auth.sampleCodec.name.toList ++ '=' :: Auth.sampleCodec.value Auth.sampleSession := by
  rw [writeCookie, String.toList_ofList, Auth.pair_eq Auth.sampleCodec_plainName Auth.sampleCodec_digests]

theorem write_parsed : Auth.sampleCodec.parse (some writeCookie) sampleNow =
    some Auth.sampleSession.parsed := by
  have hheader : Auth.HoldsFirst Auth.sampleCodec Auth.sampleSession writeCookie [] [] [] [] :=
    ⟨by simp [writeCookie], by simp, by simp, by simp⟩
  have hread := Auth.readCookie_of_holds Auth.sampleCodec_plainName Auth.sampleCodec_digests hheader
  have hvalue : String.ofList (Auth.sampleCodec.value Auth.sampleSession) ≠ "" := by
    intro hempty
    have hnil := congrArg String.toList hempty
    rw [String.toList_ofList] at hnil
    simp [Auth.SessionCodec.value] at hnil
  have hdot : '.' ∉ (Auth.sampleCodec.mac Auth.sampleSession.payload).toList := by
    obtain ⟨digest, hdigest⟩ := Auth.sampleCodec_digests Auth.sampleSession.payload
    rw [hdigest]
    exact fun h => (Auth.plain_of_mem_base64url h).2.1 rfl
  have hsplit : Auth.splitLast (String.ofList (Auth.sampleCodec.value Auth.sampleSession)).toList =
      some (Auth.sampleSession.payload.toList, (Auth.sampleCodec.mac Auth.sampleSession.payload).toList) := by
    rw [String.toList_ofList]
    exact Auth.splitLast_append hdot
  rw [Auth.SessionCodec.parse, hread]
  simp only [if_neg hvalue, hsplit, if_neg (Auth.payload_ne_empty _), String.ofList_toList, if_true]
  rw [Auth.readPayload_of_payload (by decide) (by decide)]
  rfl

/-- The state after the user has signed in. -/
structure SignedInAs (s : State) (m : Minting) (log : HistoryLog) : Prop where
  now : s.now = sampleNow
  calls : s.calls.length = 1
  forwarded : s.forwarded = []
  recorded : s.recorded = []
  log : s.log = log
  minted : m ∈ s.minted
  payload : m.session.payload = Auth.samplePayload

theorem user_unforged {s : State} {m : Minting} {log : HistoryLog} (h : SignedInAs s m log) {req : Request}
    (hcookie : req.cookie = some writeCookie) : Unforged sampleBackend s req := by
  intro header hheader payloadB64 tag _ htag hmac
  refine ⟨m.session, List.mem_append_right _ (List.mem_map_of_mem h.minted), ?_⟩
  rw [h.payload]
  by_contra hne
  have hother : sampleBackend.codec.mac payloadB64 = Auth.otherMac := if_neg hne
  have hdecode := length_base64urlDecode tag
  have hcarried := htag.length_le
  have hlength : writeCookie.toList.length < 300 := by
    rw [writeCookie_toList, Auth.SessionCodec.value, Auth.sampleSession_payload]
    decide +kernel
  rw [← Option.some.inj (hcookie.symm.trans hheader)] at hcarried
  rw [hmac, hother, Auth.length_otherMac] at hdecode
  omega

theorem sessionRequest_opens (s : State) : openCall sampleBackend s sessionRequest = some .verifying := by
  have hroute : route sampleBackend.parseUrl sampleBackend.guards sessionRequest.headers
      sessionRequest.method sessionRequest.url = .session := by decide +kernel
  rw [openCall, hroute]
  rfl

theorem writeRequest_opens {s : State} (hnow : s.now = sampleNow) : openCall sampleBackend s writeRequest =
    some (.readingBody sampleOwner) := by
  have hroute : route sampleBackend.parseUrl sampleBackend.guards writeRequest.headers
      writeRequest.method writeRequest.url = .bundler := by decide +kernel
  have hcurrent : sampleBackend.current s.now writeRequest = some Auth.sampleSession.parsed := by
    rw [hnow]
    exact write_parsed
  rw [openCall, hroute]
  simp only [openBundler, hcurrent]
  rfl

theorem sampleBody_checked :
    policyCheck sampleBackend.ethers sampleBackend.proxy sampleRequest = .ok sampleChecked :=
  bind_eq_ok.mpr ⟨_, samplePolicy_created, sampleRequest_accepted⟩

/-- The state with the request for a session. -/
def signingIn (log : HistoryLog) (phase : Phase) : State :=
  { init sampleNow log [] with calls := [⟨sessionRequest, sampleNow, phase⟩] }

theorem step_sessionRequest (log : HistoryLog) :
    step sampleBackend (init sampleNow log []) (.request sessionRequest) = some (signingIn log .verifying) := by
  rw [step, sessionRequest_opens]
  rfl

theorem step_verified (log : HistoryLog) : ∃ identity, identity.sub = "did:privy:test-user" ∧
    step sampleBackend (signingIn log .verifying) (.verified 0 {} Auth.sampleReadings.toKeyReadings) =
      some (signingIn log (.fetching identity sampleNow)) := by
  obtain ⟨identity, hverified, hsub⟩ := sample_verified
  refine ⟨identity, hsub, ?_⟩
  show some (afterVerify sampleBackend (signingIn log .verifying) 0 _ (Auth.verify Auth.sampleVerifier {}
    ⟨Auth.sampleReadings.toKeyReadings, sampleNow⟩ (some Auth.sampleAuthorization))) = _
  rw [hverified]
  rfl

theorem sample_granted : ∃ token, readToken sampleNow sampleGrant = .ok token ∧
    token.accessToken = .str "keycloak.access.token" := by
  have hgrant : (readToken sampleNow sampleGrant).toOption.any
      (fun token => isText (some token.accessToken) "keycloak.access.token") = true := by decide +kernel
  cases hread : readToken sampleNow sampleGrant with
  | error err =>
    rw [hread] at hgrant
    cases hgrant
  | ok token =>
    rw [hread] at hgrant
    exact ⟨token, rfl, Option.some.inj (isText_iff.mp hgrant)⟩

theorem step_token (log : HistoryLog) {identity : Auth.Identity} (hsub : identity.sub = "did:privy:test-user") :
    ∃ s m, step sampleBackend (signingIn log (.fetching identity sampleNow)) (.token 0 sampleGrant) = some s ∧
      SignedInAs s m log := by
  obtain ⟨token, hread, htoken⟩ := sample_granted
  have hafter : afterToken sampleBackend (signingIn log (.fetching identity sampleNow)) 0
      ⟨sessionRequest, sampleNow, .fetching identity sampleNow⟩ identity sampleNow sampleGrant =
      issue sampleBackend { signingIn log (.fetching identity sampleNow) with
        cache := some token, answers := [⟨0, sampleNow, sampleGrant⟩] } 0
      ⟨sessionRequest, sampleNow, .fetching identity sampleNow⟩ identity token := by
    simp only [afterToken, hread]
    rfl
  refine ⟨_, ⟨0, identity, token, sampleNow, mint "keycloak.access.token" identity.sub sampleNow⟩,
    congrArg some hafter, ?_⟩
  rw [issue, htoken]
  exact ⟨rfl, rfl, rfl, rfl, rfl, List.mem_singleton.mpr rfl, hsub ▸ sampleMint_payload⟩

/-- A user signs in. -/
theorem signed_in (log : HistoryLog) : ∃ s m,
    Reach (step sampleBackend) (Honest sampleBackend Set.univ) (init 0 log []) s ∧ SignedInAs s m log := by
  have h₀ : Reach (step sampleBackend) (Honest sampleBackend Set.univ) (init 0 log []) (init sampleNow log []) :=
    .next (.clock sampleNow) .start trivial rfl
  have hcookieless : Unforged sampleBackend (init sampleNow log []) sessionRequest := by
    intro _ h
    cases h
  have h₁ := Reach.next (Event.request sessionRequest) h₀ hcookieless (step_sessionRequest log)
  obtain ⟨identity, hsub, hverified⟩ := step_verified log
  have hkeys : KeysPublished Auth.sampleVerifier Set.univ {} Auth.sampleReadings.toKeyReadings :=
    fun _ _ _ key _ => Set.mem_univ key
  have h₂ := Reach.next (Event.verified 0 {} Auth.sampleReadings.toKeyReadings) h₁ hkeys hverified
  obtain ⟨s, m, hstep, hsigned⟩ := step_token log hsub
  exact ⟨s, m, Reach.next (Event.token 0 sampleGrant) h₂ trivial hstep, hsigned⟩

/-- A request of the user is the second call. -/
theorem user_requests {log : HistoryLog} {s : State} {m : Minting} {req : Request} {phase : Phase}
    (hreach : Reach (step sampleBackend) (Honest sampleBackend Set.univ) (init 0 log []) s)
    (hsigned : SignedInAs s m log) (hcookie : req.cookie = some writeCookie)
    (hopen : openCall sampleBackend s req = some phase) :
    ∃ s', Reach (step sampleBackend) (Honest sampleBackend Set.univ) (init 0 log []) s' ∧
      s'.calls[1]? = some ⟨req, sampleNow, phase⟩ ∧ s'.forwarded = [] ∧ s'.recorded = [] ∧ s'.log = log := by
  have hstep : step sampleBackend s (.request req) =
      some { s with calls := s.calls ++ [⟨req, s.now, phase⟩] } := by
    rw [step, hopen]
    rfl
  refine ⟨_, Reach.next (Event.request req) hreach (user_unforged hsigned hcookie) hstep, ?_, hsigned.forwarded,
    hsigned.recorded, hsigned.log⟩
  have hlength := hsigned.calls
  rw [← hlength, List.getElem?_concat_length, hsigned.now]

/-- The user writes, and the body is forwarded. -/
theorem user_writes (log : HistoryLog) : ∃ s f,
    Reach (step sampleBackend) (Honest sampleBackend Set.univ) (init 0 log []) s ∧
    s.calls[1]? = some ⟨writeRequest, sampleNow, .forwarding sampleOwner sampleChecked⟩ ∧
    s.forwarded = [f] ∧ f.request = sampleRequest ∧ s.recorded = [] ∧ s.log = log := by
  obtain ⟨s, m, hreach, hsigned⟩ := signed_in log
  obtain ⟨s', hreach', hcall, hforwarded, hrecorded, hlog⟩ :=
    user_requests hreach hsigned rfl (writeRequest_opens hsigned.now)
  have hbody : step sampleBackend s' (.body 1 (.ok sampleBody)) = _ := step_body hcall rfl (.ok sampleBody)
  rw [afterBody_of_checked rfl sampleBody_checked] at hbody
  refine ⟨_, ⟨1, sampleOwner, sampleRequest, sampleChecked, forwardOf sampleBackend.proxy sampleOwner sampleBody⟩,
    Reach.next (Event.body 1 (.ok sampleBody)) hreach' trivial hbody, ?_, ?_, rfl, hrecorded, hlog⟩
  · exact List.getElem?_set_self (List.getElem?_eq_some_iff.mp hcall).1
  · show s'.forwarded ++ _ = _
    rw [hforwarded]
    rfl

theorem forwarded_authorized_sample : ∃ s f, s.forwarded = [f] ∧ f.request = sampleRequest ∧
    Authorized sampleBackend s f ∧ ∀ m ∈ s.minted, Issued sampleBackend Set.univ s m := by
  obtain ⟨s, f, hreach, -, hforwarded, hrequest, -⟩ := user_writes (.disabled "no file")
  obtain ⟨-, -, hauthorized, -, hissued⟩ := forwarded_authorized hreach
  exact ⟨s, f, hforwarded, hrequest, hauthorized f (by rw [hforwarded]; exact List.mem_singleton.mpr rfl), hissued⟩

end AccountAbstraction.Proxy.Backend
