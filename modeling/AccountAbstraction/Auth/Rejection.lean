import AccountAbstraction.Auth.Privy
import AccountAbstraction.Failure

/-!
# How `verify` rejects

The caller of `verify` (`server/privy-auth.mjs:93-126`) answers an `AuthError` with 401 and
passes on any other error. With keys that are well formed, an error of another kind comes from
the JSON of the token: a property of `null` is read, or a value without a text is put into
a message or converted.

* `keyFor_throws`: a `kid` without a text is quoted by the error for an unknown key.
* `readClaims_throws`: the payloads behind a valid signature.
* `verify_throws`: the tokens on which `verify` rejects with another error.
-/

namespace AccountAbstraction.Auth

open Js

/-- An error other than an `AuthError`. -/
def VerifyError.IsOther : VerifyError → Prop
  | .auth _ => False
  | .other _ => True

/-- A computation that throws an error other than an `AuthError`. -/
abbrev Throws {α : Type} (x : Except VerifyError α) : Prop := Fails VerifyError.IsOther x

/-! ## Well-formed keys -/

section WellFormed

variable {κ : Type}

/-- The check of a signature under the key gives a verdict. -/
def Crypto.Verifies (crypto : Crypto κ) (key : κ) : Prop :=
  ∀ data signature, ∃ ok, crypto.verifySignature key data signature = .ok ok

def KeySet.WellFormed (v : PrivyVerifier κ) (keys : KeySet κ) : Prop :=
  ∀ e ∈ keys.entries, v.crypto.Verifies e.2

/-- The members of an answered key set are not `null`, and what is imported from them verifies. -/
def JwksFetch.WellFormed (v : PrivyVerifier κ) (fetch : JwksFetch) : Prop :=
  ∀ ok status body jwks, fetch = .answer ok status body → optProp body "keys" = some (.arr jwks) →
    ∀ jwk ∈ jwks, jwk ≠ .null ∧
      ∀ key, v.crypto.createPublicKey jwk = some key → v.crypto.Verifies key

/-- The keys at hand and those of both loads are well formed. -/
structure WellFormed (v : PrivyVerifier κ) (s : Jwks κ) (r : KeyReadings) : Prop where
  known : s.keys.WellFormed v
  stale : r.staleLoad.1.WellFormed v
  refetched : r.refetchLoad.1.WellFormed v

end WellFormed

/-! ## The tokens -/

section Trips

variable {κ : Type} (v : PrivyVerifier κ) (s : Jwks κ) (r : Readings)

/-- The JOSE header is `null`, or its algorithm has no text. -/
def TripsHeader (header : Json) : Prop :=
  header = .null ∨ ∃ alg, header.field "alg" = some alg ∧ alg.text? = none

/-- The claims in front of the subject are those for this app at the clock. -/
structure ClaimsPass (claims : Json) (appId : String) (now : ℤ) : Prop where
  iss : claims.field "iss" = some (.str privyIssuer)
  aud : IsAudience (claims.field "aud") appId
  exp : ∃ exp, claims.field "exp" = some (.num exp) ∧ exp.exceeds (now / 1000 - clockSkewSec) = true
  nbf : ∀ nbf, claims.field "nbf" = some (.num nbf) → nbf.exceeds (now / 1000 + clockSkewSec) = false

/-- There is a subject, and the subject or the session has no text. -/
def UntoldIdentity (claims : Json) : Prop :=
  ∃ sub, claims.field "sub" = some sub ∧ sub.truthy = true ∧
    (sub.text? = none ∨ ∃ sid, claims.field "sid" = some sid ∧ sid.text? = none)

/-- The payload is `null`, or has an identity without a text behind claims that pass. -/
def TripsClaims (appId : String) (now : ℤ) (claims : Json) : Prop :=
  claims = .null ∨ (ClaimsPass claims appId now ∧ UntoldIdentity claims)

/-- A token whose JOSE header trips; or that is signed with a `kid` without a text, when the
    keys can be loaded; or that has a valid signature and a payload that trips. -/
def Trips (authorization : Option String) : Prop :=
  ∃ token p₀ p₁ p₂ header, Bears (authorization.getD "").toList token ∧
    token.splitOn '.' = [p₀, p₁, p₂] ∧ segmentJson p₀ = some header ∧
    (TripsHeader header ∨
      ∃ kid s', header.field "alg" = some (.str "ES256") ∧ header.field "kid" = some kid ∧
        Refetched v s r.toKeyReadings kid s' ∧
        (kid.text? = none ∨
          ∃ key claims, s'.keys.get kid = some key ∧
            v.crypto.verifySignature key (utf8Encode (String.ofList (p₀ ++ '.' :: p₁)))
              (decodeSegment p₂) = .ok true ∧
            segmentJson p₁ = some claims ∧ TripsClaims v.appId r.claimsAt claims))

end Trips

variable {κ : Type} {v : PrivyVerifier κ}

/-! ## Errors -/

@[simp] theorem not_isOther_auth (message : String) : VerifyError.IsOther (.auth message) ↔ False := Iff.rfl

@[simp] theorem isOther_other (err : JsError) : VerifyError.IsOther (.other err) ↔ True := Iff.rfl

/-- A message quotes a value unless it has no text. -/
theorem isOther_authErrorWith {before after : String} {w : Option Json} :
    (authErrorWith before w after).IsOther ↔ ∃ v, w = some v ∧ v.text? = none := by
  unfold authErrorWith
  cases w with
  | none => simp
  | some v => cases htext : v.text? <;> simp [htext]

theorem throws_orThrow {α : Type} {x : Except JsError α} : Throws (orThrow x) ↔ ∃ err, x = .error err := by
  cases x <;> simp [orThrow, Except.mapError]

/-- Only a property of `null` cannot be read. -/
theorem prop_eq_error {w : Json} {key : String} : (∃ err, w.prop key = .error err) ↔ w = .null := by
  cases w <;> simp [Json.prop]

/-! ## The keys -/

theorem KeySet.WellFormed.set {keys : KeySet κ} (h : keys.WellFormed v) {kid : Json} (hkid : kid.truthy = true)
    {key : κ} (hkey : v.crypto.Verifies key) : (keys.set kid hkid key).WellFormed v := by
  unfold KeySet.set
  split_ifs
  · intro e he
    obtain ⟨e', he', rfl⟩ := List.mem_map.mp he
    split_ifs
    · exact hkey
    · exact h e' he'
  · intro e he
    rcases List.mem_append.mp he with he | he
    · exact h e he
    · rw [List.mem_singleton.mp he]
      exact hkey

/-- One round of the loop over well-formed keys. -/
theorem addKey_wellFormed {next : KeySet κ} {jwk : Json} (hnext : next.WellFormed v) (hjwk : jwk ≠ .null)
    (hkey : ∀ key, v.crypto.createPublicKey jwk = some key → v.crypto.Verifies key) :
    ∃ next', addKey v next jwk = .ok next' ∧ next'.WellFormed v := by
  unfold addKey
  rw [Json.prop_of_ne_null hjwk]
  cases hkid : jwk.field "kid" with
  | none => exact ⟨next, rfl, hnext⟩
  | some kid =>
    show ∃ next', Except.ok _ = Except.ok next' ∧ _
    by_cases htruthy : kid.truthy = true
    · cases hcreate : v.crypto.createPublicKey jwk with
      | none => exact ⟨next, by simp [htruthy], hnext⟩
      | some key =>
        exact ⟨next.set kid htruthy key, by simp [htruthy], hnext.set htruthy (hkey key hcreate)⟩
    · exact ⟨next, by simp [htruthy], hnext⟩

theorem foldlM_addKey_wellFormed {jwks : List Json} {next : KeySet κ} (hnext : next.WellFormed v)
    (hjwks : ∀ jwk ∈ jwks, jwk ≠ .null ∧
      ∀ key, v.crypto.createPublicKey jwk = some key → v.crypto.Verifies key) :
    ∃ next', jwks.foldlM (addKey v) next = .ok next' ∧ next'.WellFormed v := by
  induction jwks generalizing next with
  | nil => exact ⟨next, rfl, hnext⟩
  | cons jwk jwks ih =>
    obtain ⟨hjwk, hkey⟩ := hjwks jwk List.mem_cons_self
    obtain ⟨next', hadd, hnext'⟩ := addKey_wellFormed hnext hjwk hkey
    rw [List.foldlM_cons, hadd]
    exact ih hnext' fun jwk' hmem => hjwks jwk' (List.mem_cons_of_mem _ hmem)

/-- A load of well-formed keys succeeds with them or fails with an `AuthError`. -/
theorem readKeys_wellFormed {fetch : JwksFetch} (h : fetch.WellFormed v) :
    ¬Throws (readKeys v fetch) ∧ ∀ keys, readKeys v fetch = .ok keys → keys.WellFormed v := by
  cases fetch with
  | unreachable message => simp [readKeys]
  | answer ok status body =>
    have hempty : (KeySet.empty : KeySet κ).WellFormed v := by
      intro e he
      cases he
    rw [readKeys.eq_def]
    simp only
    split_ifs
    · simp
    split
    · rename_i jwks hkeys
      obtain ⟨next, hnext, hwell⟩ := foldlM_addKey_wellFormed hempty (h ok status body jwks rfl hkeys)
      rw [hnext]
      simp only [Except.bind]
      split_ifs
      · simp
      · refine ⟨by simp, fun keys hkeys => ?_⟩
        cases hkeys
        exact hwell
    · simp

theorem loadJwks_wellFormed {load : JwksFetch × ℤ} (h : load.1.WellFormed v) :
    ¬Throws (loadJwks v load) ∧ ∀ s, loadJwks v load = .ok s → s.keys.WellFormed v := by
  obtain ⟨hthrows, hkeys⟩ := readKeys_wellFormed h
  unfold loadJwks
  refine ⟨by rwa [Throws, fails_map], fun s hs => ?_⟩
  cases hread : readKeys v load.1 with
  | error e =>
    rw [hread] at hs
    cases hs
  | ok keys =>
    rw [hread] at hs
    cases hs
    exact hkeys keys hread

/-! ## The key of a `kid` -/

/-- A value without a text is an object or an array, which is no key of a map that was read
    from another text. -/
theorem KeySet.get_of_text?_eq_none {kid : Json} (h : kid.text? = none) (keys : KeySet κ) :
    keys.get kid = none := by
  have hsame : ∀ a : Json, sameKey a kid = false := by
    intro a
    cases kid with
    | arr items => cases a <;> rfl
    | obj fields => cases a <;> rfl
    | _ => cases h
  simp [KeySet.get, hsame]

/-- The key sets in which a `kid` is looked up are well formed, and the loads in front of it
    fail with an `AuthError` only. -/
theorem keyFor_cases {s : Jwks κ} {r : KeyReadings} (hkeys : WellFormed v s r) (kid : Json) :
    (¬Throws (keyFor v s r kid).1 ∧ ¬∃ s', Refetched v s r kid s') ∨
      ∃ s', Refetched v s r kid s' ∧ s'.keys.WellFormed v ∧
        (keyFor v s r kid).1 = (s'.keys.get kid).elim (.error (unknownKey kid)) .ok := by
  obtain ⟨hstale, hstaleKeys⟩ := loadJwks_wellFormed hkeys.stale
  obtain ⟨hrefetch, hrefetchKeys⟩ := loadJwks_wellFormed hkeys.refetched
  have hfirst : ∀ s₁, (if s.outdated r.staleAt then loadJwks v r.staleLoad else .ok s) = .ok s₁ →
      s₁.keys.WellFormed v := by
    intro s₁ hs₁
    split_ifs at hs₁
    · exact hstaleKeys s₁ hs₁
    · cases hs₁
      exact hkeys.known
  unfold Refetched keyFor
  simp only [upToDate_iff]
  cases hload : (if s.outdated r.staleAt then loadJwks v r.staleLoad else .ok s) with
  | error e =>
    left
    have he : ¬e.IsOther := by
      split_ifs at hload
      · rwa [hload, Throws, fails_error] at hstale
    simpa using he
  | ok s₁ =>
    have hs₁ := hfirst s₁ hload
    simp only [Except.ok.injEq, exists_eq_left']
    cases hkey : s₁.keys.get kid with
    | some key => exact Or.inr ⟨s₁, by simp, hs₁, by simp [hkey]⟩
    | none =>
      by_cases hold : r.refetchAt - s₁.fetchedAt > jwksMinRefetchMs
      · cases hload₂ : loadJwks v r.refetchLoad with
        | error e =>
          left
          rw [hload₂, Throws, fails_error] at hrefetch
          simpa [hold] using hrefetch
        | ok s₂ =>
          right
          refine ⟨s₂, by simp [hold], hrefetchKeys s₂ hload₂, ?_⟩
          simp only [hold, if_true]
          cases s₂.keys.get kid <;> rfl
      · exact Or.inr ⟨s₁, by simp [hold], hs₁, by simp [hold, hkey]⟩

/-- `keyFor` throws another error exactly where it quotes a `kid` without a text. -/
theorem keyFor_throws {s : Jwks κ} {r : KeyReadings} (hkeys : WellFormed v s r) {kid : Json} :
    Throws (keyFor v s r kid).1 ↔ kid.text? = none ∧ ∃ s', Refetched v s r kid s' := by
  rcases keyFor_cases hkeys kid with ⟨hthrows, hno⟩ | ⟨s', hs', -, hresult⟩
  · simp only [hthrows, hno, and_false]
  · rw [hresult]
    constructor
    · intro h
      cases hkey : s'.keys.get kid with
      | some key =>
        rw [hkey] at h
        simp at h
      | none =>
        rw [hkey] at h
        obtain ⟨w, hw, htext⟩ := isOther_authErrorWith.mp ((fails_error _).mp h)
        cases hw
        exact ⟨htext, s', hs'⟩
    · rintro ⟨htext, -⟩
      rw [KeySet.get_of_text?_eq_none htext]
      exact (fails_error _).mpr (isOther_authErrorWith.mpr ⟨kid, rfl, htext⟩)

/-- A key that `keyFor` found verifies. -/
theorem keyFor_verifies {s : Jwks κ} {r : KeyReadings} (hkeys : WellFormed v s r) {kid : Json} {key : κ}
    (h : (keyFor v s r kid).1 = .ok key) : v.crypto.Verifies key := by
  rcases keyFor_cases hkeys kid with ⟨-, hno⟩ | ⟨s', -, hwell, hresult⟩
  · obtain ⟨s', hs', -⟩ := keyFor_eq_ok.mp h
    exact absurd ⟨s', hs'⟩ hno
  · rw [hresult] at h
    cases hkey : s'.keys.get kid with
    | none =>
      rw [hkey] at h
      cases h
    | some found =>
      rw [hkey] at h
      cases h
      obtain ⟨e, he, rfl⟩ := Option.map_eq_some_iff.mp hkey
      exact hwell e (List.mem_of_find?_eq_some he)

/-! ## The segments -/

@[simp] theorem throws_readSegment (segment : List Char) (what : String) :
    Throws (readSegment segment what) ↔ False := by
  unfold readSegment
  cases segmentJson segment <;> simp

@[simp] theorem throws_segments (authorization : Option String) :
    Throws (segments authorization) ↔ False := by
  unfold segments
  split
  · simp
  · split <;> simp

/-- `readHeader` throws another error exactly on the headers that trip. -/
theorem readHeader_throws {p₀ : List Char} :
    Throws (readHeader p₀) ↔ ∃ header, segmentJson p₀ = some header ∧ TripsHeader header := by
  simp only [readHeader, fails_bind, throws_readSegment, false_or, readSegment_eq_ok, throws_orThrow,
    prop_eq_error, orThrow_eq_ok]
  refine exists_congr fun header => and_congr_right fun _ => or_congr_right ?_
  constructor
  · rintro ⟨alg, halg, h⟩
    rw [← field_of_prop halg] at h
    split_ifs at h with hes
    · exact isOther_authErrorWith.mp ((fails_error _).mp h)
    · split at h
      · split_ifs at h <;> simp at h
      · simp at h
  · rintro ⟨alg, halg, htext⟩
    have hes : isText (some alg) "ES256" = false := by
      by_contra hes
      rw [Bool.not_eq_false, isText_iff] at hes
      cases hes
      cases htext
    refine ⟨_, prop_eq_of_field halg, ?_⟩
    rw [hes, Bool.not_false, if_pos rfl, fails_error]
    exact isOther_authErrorWith.mpr ⟨alg, rfl, htext⟩

/-- The check of a signature under a key that verifies. -/
theorem not_throws_checkSignature {key : κ} (hkey : v.crypto.Verifies key) (p₀ p₁ p₂ : List Char) :
    ¬Throws (checkSignature v key p₀ p₁ p₂) := by
  obtain ⟨ok, hok⟩ := hkey (utf8Encode (signedText p₀ p₁)) (decodeSegment p₂)
  unfold checkSignature
  rw [hok]
  show ¬Throws (if ok = true then .ok () else .error (.auth "privy token signature is invalid"))
  split_ifs <;> simp

/-! ## The claims -/

@[simp] theorem throws_checkTimes (claims : Json) (now : ℤ) : Throws (checkTimes claims now) ↔ False := by
  unfold checkTimes
  split
  · simp only
    split_ifs
    · split
      · split_ifs <;> simp
      · simp
    · simp
  · simp

theorem throws_claimText {w : Json} : Throws (claimText w) ↔ w.text? = none := by
  unfold claimText
  cases w.text? <;> simp

/-- A value without a text is truthy. -/
theorem truthy_of_text?_eq_none {w : Json} (h : w.text? = none) : w.truthy = true := by
  cases w with
  | arr items => rfl
  | obj fields => rfl
  | _ => cases h

theorem throws_readSid {claims : Json} :
    Throws (readSid claims) ↔ ∃ sid, claims.field "sid" = some sid ∧ sid.text? = none := by
  unfold readSid
  cases claims.field "sid" with
  | none => simp
  | some sid =>
    simp only [Option.some.injEq, exists_eq_left']
    by_cases htruthy : sid.truthy = true
    · rw [if_pos htruthy, Throws, fails_map]
      exact throws_claimText
    · rw [if_neg htruthy]
      simp only [fails_ok, false_iff]
      exact fun h => htruthy (truthy_of_text?_eq_none h)

theorem readIdentity_throws {claims : Json} {exp : JsNumber} :
    Throws (readIdentity claims exp) ↔ UntoldIdentity claims := by
  unfold readIdentity UntoldIdentity
  cases claims.field "sub" with
  | none => simp
  | some sub =>
    simp only [Option.some.injEq, exists_eq_left']
    by_cases htruthy : sub.truthy = true
    · simp only [htruthy, if_true, true_and, fails_bind, throws_claimText, throws_readSid, fails_ok,
        and_false, exists_false, or_false, claimText_eq_ok]
      cases htext : sub.text? <;> simp
    · rw [if_neg htruthy]
      simp [htruthy]

/-- `readClaims` throws another error exactly on the payloads that trip. -/
theorem readClaims_throws {p₁ : List Char} {now : ℤ} :
    Throws (readClaims v p₁ now) ↔
      ∃ claims, segmentJson p₁ = some claims ∧ TripsClaims v.appId now claims := by
  simp only [readClaims, fails_bind, throws_readSegment, false_or, readSegment_eq_ok, throws_orThrow,
    prop_eq_error, orThrow_eq_ok]
  refine exists_congr fun claims => and_congr_right fun _ => or_congr_right ?_
  constructor
  · rintro ⟨iss, hiss, h⟩
    split_ifs at h with hissuer haud
    · simp at h
    · simp at h
    simp only [fails_bind, throws_checkTimes, false_or, readIdentity_throws, checkTimes_eq_ok] at h
    obtain ⟨exp, ⟨hexp, hexceeds, hnbf⟩, hidentity⟩ := h
    have hissuer' := isText_iff.mp (by simpa using hissuer)
    exact ⟨⟨by rw [field_of_prop hiss, hissuer'], audienceMatches_iff.mp (by simpa using haud),
      ⟨exp, hexp, hexceeds⟩, hnbf⟩, hidentity⟩
  · rintro ⟨hpass, hidentity⟩
    obtain ⟨exp, hexp, hexceeds⟩ := hpass.exp
    refine ⟨_, prop_eq_of_field hpass.iss, ?_⟩
    rw [isText_iff.mpr rfl, audienceMatches_iff.mpr hpass.aud]
    simp only [Bool.not_true, Bool.false_eq_true, if_false, fails_bind, throws_checkTimes, false_or,
      readIdentity_throws, checkTimes_eq_ok]
    exact ⟨exp, ⟨hexp, hexceeds, hpass.nbf⟩, hidentity⟩

/-! ## The token -/

/-- With well-formed keys, `verify` rejects with another error exactly on the tokens that trip. -/
theorem verify_throws {s : Jwks κ} {r : Readings} (hkeys : WellFormed v s r.toKeyReadings)
    (authorization : Option String) :
    Throws (verify v s r authorization) ↔ Trips v s r authorization := by
  constructor
  · intro h
    simp only [verify, fails_bind, throws_segments, false_or, readHeader_throws, keyFor_throws hkeys,
      readClaims_throws] at h
    obtain ⟨⟨p₀, p₁, p₂⟩, hsegments, h⟩ := h
    obtain ⟨token, hbears, hsplit⟩ := segments_eq_ok.mp hsegments
    rcases h with ⟨header, hheader, htrips⟩ | ⟨kid, hkid, h⟩
    · exact ⟨token, p₀, p₁, p₂, header, hbears, hsplit, hheader, Or.inl htrips⟩
    obtain ⟨header, hheader, halg, hfield, -⟩ := readHeader_eq_ok.mp hkid
    refine ⟨token, p₀, p₁, p₂, header, hbears, hsplit, hheader, Or.inr ⟨kid, ?_⟩⟩
    rcases h with ⟨htext, s', hs'⟩ | ⟨key, hkey, hsignature | ⟨_, hsignature, claims, hclaims, htrips⟩⟩
    · exact ⟨s', halg, hfield, hs', Or.inl htext⟩
    · exact absurd hsignature (not_throws_checkSignature (keyFor_verifies hkeys hkey) p₀ p₁ p₂)
    · obtain ⟨s', hs', hget⟩ := keyFor_eq_ok.mp hkey
      exact ⟨s', halg, hfield, hs', Or.inr ⟨key, claims, hget, checkSignature_eq_ok.mp hsignature, hclaims,
        htrips⟩⟩
  · rintro ⟨token, p₀, p₁, p₂, header, hbears, hsplit, hheader, h⟩
    simp only [verify, fails_bind, throws_segments, false_or, readHeader_throws, keyFor_throws hkeys,
      readClaims_throws]
    refine ⟨(p₀, p₁, p₂), segments_eq_ok.mpr ⟨token, hbears, hsplit⟩, ?_⟩
    rcases h with htrips | ⟨kid, s', halg, hfield, hs', hkid⟩
    · exact Or.inl ⟨header, hheader, htrips⟩
    have htruthy : kid.truthy = true := by
      rcases hkid with htext | ⟨key, _, hget, -⟩
      · exact truthy_of_text?_eq_none htext
      · exact KeySet.truthy_of_get hget
    refine Or.inr ⟨kid, readHeader_eq_ok.mpr ⟨header, hheader, halg, hfield, htruthy⟩, ?_⟩
    rcases hkid with htext | ⟨key, claims, hget, hsignature, hclaims, htrips⟩
    · exact Or.inl ⟨htext, s', hs'⟩
    · exact Or.inr ⟨key, keyFor_eq_ok.mpr ⟨s', hs', hget⟩, Or.inr ⟨(), checkSignature_eq_ok.mpr hsignature,
        claims, hclaims, htrips⟩⟩

end AccountAbstraction.Auth
