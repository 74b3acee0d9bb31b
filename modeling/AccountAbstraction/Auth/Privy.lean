import AccountAbstraction.Auth.Keys

/-!
# Verifying a Privy access token

`verify` of `server/privy-auth.mjs` (lines 89-139) as the source runs it: the regular
expression for the header, the three segments, the JOSE header, the key, the
signature and the claims, each with its error. `Accepts` states the intended
predicate on its own.

* `bearer_iff`: the regular expression finds the token of a header that consists of
  the scheme, white space and one line.
* `audienceMatches_iff`: the comparison of bytes is one of texts.
* `verify_ok_iff`: `verify` resolves with a subject if and only if the predicate
  holds of it.
-/

namespace AccountAbstraction.Auth

open Js

/-- `PRIVY_ISSUER` (line 18). -/
def privyIssuer : String := "privy.io"

/-- `CLOCK_SKEW_SEC` (line 20). -/
def clockSkewSec : ℤ := 30

variable {κ : Type}

/-! ## The header -/

/-- What `.` does not match. -/
def isLineTerminator (c : Char) : Bool :=
  let n := c.toNat
  n == 10 || n == 13 || n == 0x2028 || n == 0x2029

/-- `Bearer` in any case of its letters. -/
def isBearer (cs : List Char) : Bool := cs.map Char.toLower == ['b', 'e', 'a', 'r', 'e', 'r']

/-- What `(.+)$` matches. -/
def isLine (cs : List Char) : Bool := cs ≠ [] && cs.all fun c => !isLineTerminator c

/-- The text that `(.+)` captures in `/^Bearer\s+(.+)$/i` (line 94): `\s+` takes as much
    white space as it can and gives some back where the rest does not match. -/
def matchBearer (cs : List Char) : Option (List Char) :=
  if isBearer (cs.take 6) then
    let rest := cs.drop 6
    ((List.range' 1 (rest.takeWhile isSpace).length).reverse.map rest.drop).find? isLine
  else none

/-- `parts` (lines 94-98). -/
def segments (authorization : Option String) :
    Except VerifyError (List Char × List Char × List Char) :=
  match matchBearer (authorization.getD "").toList with
  | none => .error (.auth "missing Privy access token — log in with Google first")
  | some token =>
    match (trim token).splitOn '.' with
    | [p₀, p₁, p₂] => .ok (p₀, p₁, p₂)
    | _ => .error (.auth "privy token is not a JWT")

/-! ## Segments -/

/-- `decodeSegment` (lines 26-28). -/
def decodeSegment (segment : List Char) : Bytes := base64urlDecode (String.ofList segment)

/-- The JSON value of a segment. -/
def segmentJson (segment : List Char) : Option Json :=
  parseJson (utf8Decode (decodeSegment segment))

/-- `parseJson` (lines 30-36) of a decoded segment. -/
def readSegment (segment : List Char) (what : String) : Except VerifyError Json :=
  match segmentJson segment with
  | some v => .ok v
  | none => .error (.auth s!"privy token has an unreadable {what}")

/-- The `kid` of the JOSE header (lines 100-103). -/
def readHeader (p₀ : List Char) : Except VerifyError Json := do
  let header ← readSegment p₀ "header"
  let alg ← orThrow (header.prop "alg")
  if !isText alg "ES256" then .error (authErrorWith "privy token alg must be ES256, got " alg "")
  else
    match header.field "kid" with
    | some kid => if kid.truthy then .ok kid else .error (.auth "privy token has no kid")
    | none => .error (.auth "privy token has no kid")

/-- The text that is signed (line 110). -/
def signedText (p₀ p₁ : List Char) : String := String.ofList (p₀ ++ '.' :: p₁)

/-- The check of the signature (lines 106-114). -/
def checkSignature (v : PrivyVerifier κ) (key : κ) (p₀ p₁ p₂ : List Char) :
    Except VerifyError Unit := do
  let ok ← orThrow (v.crypto.verifySignature key (utf8Encode (signedText p₀ p₁)) (decodeSegment p₂))
  if ok then .ok () else .error (.auth "privy token signature is invalid")

/-! ## Claims -/

/-- One candidate of `audienceMatches` (lines 134-138). -/
def entryMatches (expected : Bytes) (entry : Option Json) : Bool :=
  match entry with
  | some (.str text) => utf8Encode text == expected
  | _ => false

/-- `audienceMatches` (lines 131-139). -/
def audienceMatches (aud : Option Json) (appId : String) : Bool :=
  match aud with
  | some (.arr entries) => entries.any fun entry => entryMatches (utf8Encode appId) (some entry)
  | aud => entryMatches (utf8Encode appId) aud

/-- What `verify` resolves with. -/
structure Identity where
  sub : String
  sid : Option String
  expiresAt : JsNumber

/-- `String(v)` of a claim. -/
def claimText (v : Json) : Except VerifyError String :=
  match v.text? with
  | some text => .ok text
  | none =>
    .error (.other { name := "TypeError", message := "Cannot convert object to primitive value" })

/-- The claims about time (lines 117, 121-122). -/
def checkTimes (claims : Json) (now : ℤ) : Except VerifyError JsNumber :=
  let nowSec := now / 1000
  match claims.field "exp" with
  | some (.num exp) =>
    if exp.exceeds (nowSec - clockSkewSec) then
      match claims.field "nbf" with
      | some (.num nbf) =>
        if nbf.exceeds (nowSec + clockSkewSec) then .error (.auth "privy token is not valid yet")
        else .ok exp
      | _ => .ok exp
    else .error (.auth "privy token is expired")
  | _ => .error (.auth "privy token is expired")

/-- `claims.sid ? String(claims.sid) : undefined` (line 125). -/
def readSid (claims : Json) : Except VerifyError (Option String) :=
  match claims.field "sid" with
  | some sid => if sid.truthy then (claimText sid).map some else .ok none
  | none => .ok none

/-- The subject and the session (lines 123-125). -/
def readIdentity (claims : Json) (exp : JsNumber) : Except VerifyError Identity :=
  match claims.field "sub" with
  | some sub =>
    if sub.truthy then do
      let subText ← claimText sub
      let sid ← readSid claims
      .ok ⟨subText, sid, exp.times 1000⟩
    else .error (.auth "privy token has no subject")
  | none => .error (.auth "privy token has no subject")

/-- The checks of the payload (lines 116-125). -/
def readClaims (v : PrivyVerifier κ) (p₁ : List Char) (now : ℤ) : Except VerifyError Identity := do
  let claims ← readSegment p₁ "payload"
  let iss ← orThrow (claims.prop "iss")
  if !isText iss privyIssuer then .error (.auth s!"privy token issuer must be {privyIssuer}")
  else if !audienceMatches (claims.field "aud") v.appId then
    .error (.auth "privy token audience is not this app id")
  else do
    let exp ← checkTimes claims now
    readIdentity claims exp

/-! ## `verify` -/

/-- What one call of `verify` reads: the readings of `keyFor` and the clock of line
    117. -/
structure Readings extends KeyReadings where
  claimsAt : ℤ

/-- `verify` (lines 93-126), for a call on its own. -/
def verify (v : PrivyVerifier κ) (s : Jwks κ) (r : Readings) (authorization : Option String) :
    Except VerifyError Identity := do
  let (p₀, p₁, p₂) ← segments authorization
  let kid ← readHeader p₀
  let key ← (keyFor v s r.toKeyReadings kid).1
  checkSignature v key p₀ p₁ p₂
  readClaims v p₁ r.claimsAt

/-! ## The predicate -/

/-- The header is the scheme, white space and one line with the token. -/
def Bears (authorization token : List Char) : Prop :=
  ∃ scheme space line, authorization = scheme ++ (space ++ line) ∧ isBearer scheme = true ∧
    space ≠ [] ∧ (∀ c ∈ space, isSpace c = true) ∧ isLine line = true ∧ trim line = token

/-- The audience is the app, or a list with it. -/
def IsAudience (aud : Option Json) (appId : String) : Prop :=
  aud = some (.str appId) ∨ ∃ entries, aud = some (.arr entries) ∧ .str appId ∈ entries

/-- The claims are those of `sub` for this app at the clock. -/
structure ClaimsHold (claims : Json) (appId sub : String) (now : ℤ) : Prop where
  iss : claims.field "iss" = some (.str "privy.io")
  aud : IsAudience (claims.field "aud") appId
  exp : ∃ exp, claims.field "exp" = some (.num exp) ∧ exp.exceeds (now / 1000 - 30) = true
  nbf : ∀ nbf, claims.field "nbf" = some (.num nbf) → nbf.exceeds (now / 1000 + 30) = false
  sub : ∃ v, claims.field "sub" = some v ∧ v.truthy = true ∧ v.text? = some sub

/-- The predicate that `verify` decides. -/
def Accepts (v : PrivyVerifier κ) (s : Jwks κ) (r : Readings) (authorization : Option String)
    (sub : String) : Prop :=
  ∃ token p₀ p₁ p₂ header kid key claims,
    Bears (authorization.getD "").toList token ∧ token.splitOn '.' = [p₀, p₁, p₂] ∧
    segmentJson p₀ = some header ∧ header.field "alg" = some (.str "ES256") ∧
    header.field "kid" = some kid ∧
    (∃ s', Refetched v s r.toKeyReadings kid s' ∧ s'.keys.get kid = some key) ∧
    v.crypto.verifySignature key (utf8Encode (String.ofList (p₀ ++ '.' :: p₁))) (decodeSegment p₂) = .ok true ∧
    segmentJson p₁ = some claims ∧ ClaimsHold claims v.appId sub r.claimsAt

/-- A claim that is absent, a string or a number. -/
def IsPlainClaim (v : Option Json) : Prop := ∀ w, v = some w → (∃ s, w = .str s) ∨ ∃ x, w = .num x

/-- The `sub` and `sid` of the token in a header are strings or numbers, if there
    are any. -/
def PlainSubjects (authorization : Option String) : Prop :=
  ∀ token p₀ p₁ p₂ claims, Bears (authorization.getD "").toList token →
    token.splitOn '.' = [p₀, p₁, p₂] → segmentJson p₁ = some claims →
    IsPlainClaim (claims.field "sub") ∧ IsPlainClaim (claims.field "sid")

/-! ## The header is read as intended -/

/-- The start of the white space at the start of a text is white space. -/
theorem isSpace_of_mem_take {cs : List Char} {k : ℕ} (h : k ≤ (cs.takeWhile isSpace).length) :
    ∀ c ∈ cs.take k, isSpace c = true := by
  have hstart : cs.take k <+: cs.takeWhile isSpace :=
    List.prefix_of_prefix_length_le (List.take_prefix k cs) (List.takeWhile_prefix _)
      ((List.length_take_le k cs).trans h)
  intro c hc
  exact List.mem_takeWhile_imp (hstart.subset hc)

/-- White space that is given back to the line is trimmed from it. -/
theorem trim_drop {cs : List Char} {k : ℕ} (h : k ≤ (cs.takeWhile isSpace).length) :
    trim (cs.drop k) = trim cs := by
  conv_rhs => rw [← List.take_append_drop k cs]
  rw [trim_of_spaces (isSpace_of_mem_take h)]

theorem mem_captures {rest capture : List Char} {n : ℕ} :
    capture ∈ (List.range' 1 n).reverse.map rest.drop ↔
      ∃ k, 1 ≤ k ∧ k ≤ n ∧ rest.drop k = capture := by
  simp only [List.mem_map, List.mem_reverse, List.mem_range'_1, and_assoc]
  constructor
  · rintro ⟨k, h1, hk, rfl⟩
    exact ⟨k, h1, by omega, rfl⟩
  · rintro ⟨k, h1, hk, rfl⟩
    exact ⟨k, h1, by omega, rfl⟩

theorem bears_of_matchBearer {cs capture : List Char} (h : matchBearer cs = some capture) :
    Bears cs (trim capture) := by
  rw [matchBearer] at h
  split_ifs at h with hscheme
  have hline : isLine capture = true := List.find?_some h
  obtain ⟨k, h1, hk, hdrop⟩ := mem_captures.mp (List.mem_of_find?_eq_some h)
  have hlength := (List.takeWhile_sublist isSpace (l := cs.drop 6)).length_le
  refine ⟨cs.take 6, (cs.drop 6).take k, capture, ?_, hscheme, ?_, isSpace_of_mem_take hk, hline,
    rfl⟩
  · rw [← hdrop, List.take_append_drop, List.take_append_drop]
  · intro hnil
    have hzero := congrArg List.length hnil
    rw [List.length_take, List.length_nil] at hzero
    omega

theorem matchBearer_of_bears {cs token : List Char} (h : Bears cs token) :
    ∃ capture, matchBearer cs = some capture ∧ trim capture = token := by
  obtain ⟨scheme, space, line, rfl, hscheme, hne, hspace, hline, rfl⟩ := h
  have hsix : scheme.length = 6 := by
    have := congrArg List.length (eq_of_beq hscheme)
    simpa using this
  have htake : (scheme ++ (space ++ line)).take 6 = scheme := by rw [← hsix, List.take_left]
  have hdrop : (scheme ++ (space ++ line)).drop 6 = space ++ line := by rw [← hsix, List.drop_left]
  have hspaces : space.length ≤ ((space ++ line).takeWhile isSpace).length := by
    rw [List.takeWhile_append_of_pos hspace, List.length_append]
    omega
  rw [matchBearer, htake, if_pos hscheme, hdrop]
  simp only
  have hmem : line ∈ (List.range' 1 ((space ++ line).takeWhile isSpace).length).reverse.map
      (space ++ line).drop :=
    mem_captures.mpr ⟨space.length, List.length_pos_iff.mpr hne, hspaces, List.drop_left⟩
  obtain ⟨capture, hcapture⟩ := Option.isSome_iff_exists.mp
    (List.find?_isSome.mpr ⟨line, hmem, hline⟩)
  obtain ⟨k, -, hk, rfl⟩ := mem_captures.mp (List.mem_of_find?_eq_some hcapture)
  exact ⟨_, hcapture, by rw [trim_drop hk, trim_of_spaces hspace]⟩

theorem bearer_iff {cs token : List Char} :
    (∃ capture, matchBearer cs = some capture ∧ trim capture = token) ↔ Bears cs token := by
  constructor
  · rintro ⟨capture, hcapture, rfl⟩
    exact bears_of_matchBearer hcapture
  · exact matchBearer_of_bears

theorem segments_eq_ok {authorization : Option String} {p₀ p₁ p₂ : List Char} :
    segments authorization = .ok (p₀, p₁, p₂) ↔
      ∃ token, Bears (authorization.getD "").toList token ∧ token.splitOn '.' = [p₀, p₁, p₂] := by
  simp only [← bearer_iff]
  rw [segments]
  cases hcapture : matchBearer (authorization.getD "").toList with
  | none => simp
  | some capture =>
    simp only [Option.some.injEq, exists_eq_left']
    split
    · rename_i q₀ q₁ q₂ hsplit
      simp [hsplit]
    · rename_i hsplit
      simp only [reduceCtorEq, false_iff]
      exact hsplit p₀ p₁ p₂

theorem audienceMatches_iff {aud : Option Json} {appId : String} :
    audienceMatches aud appId = true ↔ IsAudience aud appId := by
  have hentry : ∀ entry, entryMatches (utf8Encode appId) entry = true ↔ entry = some (.str appId) := by
    intro entry
    unfold entryMatches
    split
    · simp [utf8Encode_injective.eq_iff]
    · rename_i hne
      simp only [Bool.false_eq_true, false_iff]
      rintro rfl
      exact hne _ rfl
  unfold audienceMatches IsAudience
  split
  · rename_i entries
    simp [List.any_eq_true, hentry]
  · rename_i haud
    rw [hentry]
    constructor
    · exact Or.inl
    · rintro (h | ⟨entries, h, -⟩)
      · exact h
      · exact absurd h (haud entries)

/-! ## The segments are read as intended -/

theorem readSegment_eq_ok {segment : List Char} {what : String} {v : Json} :
    readSegment segment what = .ok v ↔ segmentJson segment = some v := by
  rw [readSegment]
  cases segmentJson segment <;> simp

/-- A property of a value that is not null, under a key that has a value. -/
theorem prop_eq_of_field {v w : Json} {key : String} (h : v.field key = some w) :
    v.prop key = .ok (some w) := by
  cases v with
  | null => cases h
  | _ => rw [← h]; rfl

theorem field_of_prop {v : Json} {key : String} {w : Option Json} (h : v.prop key = .ok w) :
    v.field key = w := by
  cases v with
  | null => cases h
  | _ => exact Except.ok.inj h

theorem readHeader_eq_ok {p₀ : List Char} {kid : Json} :
    readHeader p₀ = .ok kid ↔ ∃ header, segmentJson p₀ = some header ∧
      header.field "alg" = some (.str "ES256") ∧ header.field "kid" = some kid ∧
      kid.truthy = true := by
  simp only [readHeader, bind_eq_ok, readSegment_eq_ok, orThrow_eq_ok]
  constructor
  · rintro ⟨header, hheader, alg, halg, h⟩
    split_ifs at h with hes
    have hes' := isText_iff.mp (by simpa using hes)
    split at h
    · rename_i kid' hkid
      split_ifs at h with htruthy
      cases h
      exact ⟨header, hheader, by rw [field_of_prop halg, hes'], hkid, htruthy⟩
    · cases h
  · rintro ⟨header, hheader, halg, hkid, htruthy⟩
    refine ⟨header, hheader, _, prop_eq_of_field halg, ?_⟩
    rw [isText_iff.mpr rfl]
    simp [hkid, htruthy]

theorem checkSignature_eq_ok {v : PrivyVerifier κ} {key : κ} {p₀ p₁ p₂ : List Char} :
    checkSignature v key p₀ p₁ p₂ = .ok () ↔ v.crypto.verifySignature key
      (utf8Encode (String.ofList (p₀ ++ '.' :: p₁))) (decodeSegment p₂) = .ok true := by
  simp only [checkSignature, signedText, bind_eq_ok, orThrow_eq_ok]
  constructor
  · rintro ⟨ok, hok, h⟩
    split_ifs at h with htrue
    rw [hok, htrue]
  · intro h
    exact ⟨true, h, rfl⟩

/-! ## The claims are checked as intended -/

theorem checkTimes_eq_ok {claims : Json} {now : ℤ} {exp : JsNumber} :
    checkTimes claims now = .ok exp ↔ claims.field "exp" = some (.num exp) ∧
      exp.exceeds (now / 1000 - 30) = true ∧
      ∀ nbf, claims.field "nbf" = some (.num nbf) → nbf.exceeds (now / 1000 + 30) = false := by
  rw [checkTimes]
  split
  · rename_i exp' hexp
    rw [hexp]
    simp only [Option.some.injEq, Json.num.injEq]
    by_cases hexceeds : exp'.exceeds (now / 1000 - clockSkewSec) = true
    · rw [if_pos hexceeds]
      split
      · rename_i nbf hnbf
        rw [hnbf]
        simp only [Option.some.injEq, Json.num.injEq, forall_eq']
        by_cases hlater : nbf.exceeds (now / 1000 + clockSkewSec) = true
        · rw [if_pos hlater]
          simp only [reduceCtorEq, false_iff]
          rintro ⟨-, -, hearlier⟩
          exact Bool.eq_false_iff.mp hearlier hlater
        · rw [if_neg hlater, Except.ok.injEq]
          constructor
          · rintro rfl
            exact ⟨rfl, hexceeds, Bool.eq_false_iff.mpr hlater⟩
          · exact fun h => h.1
      · rename_i hnbf
        rw [Except.ok.injEq]
        constructor
        · rintro rfl
          exact ⟨rfl, hexceeds, fun nbf h => absurd h (hnbf nbf)⟩
        · exact fun h => h.1
    · rw [if_neg hexceeds]
      simp only [reduceCtorEq, false_iff]
      rintro ⟨rfl, h, -⟩
      exact hexceeds h
  · rename_i hexp
    simp only [reduceCtorEq, false_iff]
    rintro ⟨h, -⟩
    exact hexp exp h

theorem claimText_eq_ok {v : Json} {text : String} :
    claimText v = .ok text ↔ v.text? = some text := by
  rw [claimText]
  cases v.text? <;> simp

/-- A claim that is a string or a number has a text. -/
theorem exists_readSid {claims : Json} (h : IsPlainClaim (claims.field "sid")) :
    ∃ sid, readSid claims = .ok sid := by
  rw [readSid]
  split
  · rename_i v hv
    split_ifs
    · rcases h v hv with ⟨s, rfl⟩ | ⟨x, rfl⟩
      · exact ⟨some s, rfl⟩
      · exact ⟨some x.text, rfl⟩
    · exact ⟨none, rfl⟩
  · exact ⟨none, rfl⟩

theorem readIdentity_eq_ok {claims : Json} {exp : JsNumber} {identity : Identity} :
    readIdentity claims exp = .ok identity ↔
      ∃ v sid, claims.field "sub" = some v ∧ v.truthy = true ∧ v.text? = some identity.sub ∧
        readSid claims = .ok sid ∧ identity = ⟨identity.sub, sid, exp.times 1000⟩ := by
  rw [readIdentity]
  constructor
  · intro h
    split at h
    · rename_i v hv
      split_ifs at h with htruthy
      obtain ⟨text, htext, h⟩ := bind_eq_ok.mp h
      obtain ⟨sid, hsid, h⟩ := bind_eq_ok.mp h
      cases h
      exact ⟨v, sid, hv, htruthy, claimText_eq_ok.mp htext, hsid, rfl⟩
    · cases h
  · rintro ⟨v, sid, hv, htruthy, htext, hsid, hidentity⟩
    rw [hv]
    simp only [htruthy, if_true, claimText_eq_ok.mpr htext, hsid]
    rw [hidentity]
    rfl

theorem readClaims_sub_iff {v : PrivyVerifier κ} {p₁ : List Char} {now : ℤ} {sub : String}
    (hplain : ∀ claims, segmentJson p₁ = some claims → IsPlainClaim (claims.field "sid")) :
    (∃ identity, readClaims v p₁ now = .ok identity ∧ identity.sub = sub) ↔
      ∃ claims, segmentJson p₁ = some claims ∧ ClaimsHold claims v.appId sub now := by
  constructor
  · rintro ⟨identity, h, rfl⟩
    simp only [readClaims, bind_eq_ok, readSegment_eq_ok, orThrow_eq_ok] at h
    obtain ⟨claims, hclaims, iss, hiss, h⟩ := h
    split_ifs at h with hissuer haud
    obtain ⟨exp, hexp, h⟩ := bind_eq_ok.mp h
    obtain ⟨hfield, hexceeds, hnbf⟩ := checkTimes_eq_ok.mp hexp
    obtain ⟨w, sid, hsub, htruthy, htext, -, -⟩ := readIdentity_eq_ok.mp h
    have hissuer' := isText_iff.mp (by simpa using hissuer)
    exact ⟨claims, hclaims, by rw [field_of_prop hiss, hissuer']; rfl,
      audienceMatches_iff.mp (by simpa using haud), ⟨exp, hfield, hexceeds⟩, hnbf,
      ⟨w, hsub, htruthy, htext⟩⟩
  · rintro ⟨claims, hclaims, h⟩
    obtain ⟨exp, hfield, hexceeds⟩ := h.exp
    obtain ⟨w, hsub, htruthy, htext⟩ := h.sub
    obtain ⟨sid, hsid⟩ := exists_readSid (hplain claims hclaims)
    have hexp := checkTimes_eq_ok.mpr ⟨hfield, hexceeds, h.nbf⟩
    have hidentity : readIdentity claims exp = .ok ⟨sub, sid, exp.times 1000⟩ :=
      readIdentity_eq_ok.mpr ⟨w, sid, hsub, htruthy, htext, hsid, rfl⟩
    refine ⟨⟨sub, sid, exp.times 1000⟩, ?_, rfl⟩
    simp only [readClaims, bind_eq_ok, readSegment_eq_ok, orThrow_eq_ok]
    refine ⟨claims, hclaims, _, prop_eq_of_field h.iss, ?_⟩
    have hissuer : isText (some (.str "privy.io")) privyIssuer = true := isText_iff.mpr rfl
    rw [hissuer, audienceMatches_iff.mpr h.aud]
    exact bind_eq_ok.mpr ⟨exp, hexp, hidentity⟩

/-! ## `verify` decides the predicate -/

/-- `verify` resolves with the subject `sub` if and only if the header, the key set
    and the clock accept the token for `sub`. -/
theorem verify_ok_iff (v : PrivyVerifier κ) (s : Jwks κ) (r : Readings)
    (authorization : Option String) (sub : String) (hplain : PlainSubjects authorization) :
    (∃ identity, verify v s r authorization = .ok identity ∧ identity.sub = sub) ↔
      Accepts v s r authorization sub := by
  constructor
  · rintro ⟨identity, h, rfl⟩
    simp only [verify, bind_eq_ok] at h
    obtain ⟨⟨p₀, p₁, p₂⟩, hsegments, kid, hkid, key, hkey, ⟨⟩, hsignature, hclaims⟩ := h
    obtain ⟨token, hbears, hsplit⟩ := segments_eq_ok.mp hsegments
    obtain ⟨header, hheader, halg, hfield, -⟩ := readHeader_eq_ok.mp hkid
    obtain ⟨claims, hread, hhold⟩ := (readClaims_sub_iff fun claims hread =>
      (hplain token p₀ p₁ p₂ claims hbears hsplit hread).2).mp ⟨identity, hclaims, rfl⟩
    exact ⟨token, p₀, p₁, p₂, header, kid, key, claims, hbears, hsplit, hheader, halg, hfield,
      keyFor_eq_ok.mp hkey, checkSignature_eq_ok.mp hsignature, hread, hhold⟩
  · rintro ⟨token, p₀, p₁, p₂, header, kid, key, claims, hbears, hsplit, hheader, halg, hfield,
      hkey, hsignature, hread, hhold⟩
    have hsegments := segments_eq_ok.mpr ⟨token, hbears, hsplit⟩
    obtain ⟨s', hrefetched, hget⟩ := hkey
    have hkid := readHeader_eq_ok.mpr
      ⟨header, hheader, halg, hfield, KeySet.truthy_of_get hget⟩
    obtain ⟨identity, hclaims, hsub⟩ := (readClaims_sub_iff fun claims hread =>
      (hplain token p₀ p₁ p₂ claims hbears hsplit hread).2).mpr ⟨claims, hread, hhold⟩
    refine ⟨identity, ?_, hsub⟩
    simp only [verify, bind_eq_ok]
    exact ⟨(p₀, p₁, p₂), hsegments, kid, hkid, key, keyFor_eq_ok.mpr ⟨s', hrefetched, hget⟩, (),
      checkSignature_eq_ok.mpr hsignature, hclaims⟩

/-! ## A token that is accepted -/

/-- The segment of a JSON value. -/
def encodeSegment (v : Json) : List Char := (base64urlEncode (utf8Encode v.stringify)).toList

theorem segmentJson_encodeSegment {v : Json} (h : v.Plain) :
    segmentJson (encodeSegment v) = some v := by
  rw [segmentJson, decodeSegment, encodeSegment, String.ofList_toList,
    base64urlDecode_base64urlEncode, utf8Decode_utf8Encode, parseJson_stringify h]

def sampleHeader : Json :=
  .obj [("alg", .str "ES256"), ("kid", .str "test-key-1"), ("typ", .str "JWT")]

def sampleClaims : Json :=
  .obj [("iss", .str "privy.io"), ("aud", .str "test-app-id"), ("sub", .str "did:privy:test-user"),
    ("sid", .str "session-1"), ("iat", .num (.int 1799999990)), ("exp", .num (.int 1800000600))]

theorem sampleHeader_plain : sampleHeader.Plain :=
  ⟨by decide, trivial, trivial, trivial, trivial⟩

theorem sampleClaims_plain : sampleClaims.Plain :=
  ⟨by decide, trivial, trivial, trivial, trivial, finite_int (by decide), finite_int (by decide),
    trivial⟩

/-- The ES256 signature of the two segments under a key made for the purpose. -/
def sampleSignature : List Char :=
  "_Buv8jkzGuAsx0ICsZA17zKypK5KyUlcNF2rW0WWRAgjwmBxzLJ2X9lUxLZAGY0zfKmZ0uPr4beTa-5VLiIsrA".toList

def sampleLine : List Char :=
  encodeSegment sampleHeader ++ '.' :: (encodeSegment sampleClaims ++ '.' :: sampleSignature)

/-- One key, whose only signature is the one above. -/
def sampleVerifier : PrivyVerifier Unit where
  appId := "test-app-id"
  url := "https://jwks.test/keys"
  crypto := {
    createPublicKey := fun jwk => if isText (jwk.field "kty") "EC" then some () else none
    verifySignature := fun _ data signature =>
      .ok (data == utf8Encode
          (String.ofList (encodeSegment sampleHeader ++ '.' :: encodeSegment sampleClaims)) &&
        signature == decodeSegment sampleSignature) }

def sampleKeys : JwksFetch :=
  .answer true 200 (some (.obj [("keys", .arr [.obj [("kty", .str "EC"), ("kid", .str "test-key-1")]])]))

/-- A first call: no keys are known yet, and the load succeeds. -/
def sampleReadings : Readings where
  staleAt := 1800000000000
  staleLoad := (sampleKeys, 1800000000000)
  refetchAt := 1800000000000
  refetchLoad := (sampleKeys, 1800000000000)
  claimsAt := 1800000000000

def sampleAuthorization : String := "Bearer " ++ String.ofList sampleLine

/-- A digit of base64url is neither a dot nor white space. -/
theorem digit_of_mem_encodeSegment {v : Json} {c : Char} (h : c ∈ encodeSegment v) :
    c ≠ '.' ∧ isSpace c = false := by
  obtain ⟨n, hn, rfl⟩ := mem_base64urlEncode h
  have hall : ∀ i : Fin 64, base64urlDigit i ≠ '.' ∧ isSpace (base64urlDigit i) = false := by
    decide +kernel
  exact hall ⟨n, hn⟩

theorem sampleSignature_digits : ∀ c ∈ sampleSignature, c ≠ '.' ∧ isSpace c = false := by
  have hall : sampleSignature.all (fun c => c != '.' && !isSpace c) = true := by decide +kernel
  intro c hc
  simpa using List.all_eq_true.mp hall c hc

theorem sampleLine_noSpace : ∀ c ∈ sampleLine, isSpace c = false := by
  intro c hc
  simp only [sampleLine, List.mem_append, List.mem_cons] at hc
  rcases hc with hc | rfl | hc | rfl | hc
  · exact (digit_of_mem_encodeSegment hc).2
  · rfl
  · exact (digit_of_mem_encodeSegment hc).2
  · rfl
  · exact (sampleSignature_digits c hc).2

/-- A line terminator is white space. -/
theorem isSpace_of_isLineTerminator {c : Char} (h : isLineTerminator c = true) : isSpace c = true := by
  simp only [isLineTerminator, Bool.or_eq_true, beq_iff_eq] at h
  simp only [isSpace]
  rcases h with ((h | h) | h) | h <;> rw [h] <;> rfl

/-- A token without white space, behind the scheme. -/
theorem bears_of_noSpace {line : List Char} (hne : line ≠ []) (hspace : ∀ c ∈ line, isSpace c = false) :
    Bears ("Bearer " ++ String.ofList line).toList line := by
  have hline : isLine line = true := by
    rw [isLine, Bool.and_eq_true, List.all_eq_true]
    refine ⟨by simpa using hne, fun c hc => ?_⟩
    by_contra hterminator
    have htrue := isSpace_of_isLineTerminator (c := c) (by simpa using hterminator)
    rw [hspace c hc] at htrue
    cases htrue
  refine ⟨['B', 'e', 'a', 'r', 'e', 'r'], [' '], line, ?_, rfl, by simp, List.all_eq_true.mp rfl, hline,
    trim_of_no_space hspace⟩
  simp

theorem sampleLine_bears : Bears sampleAuthorization.toList sampleLine :=
  bears_of_noSpace (by simp [sampleLine]) sampleLine_noSpace

theorem sampleLine_splitOn : sampleLine.splitOn '.' =
    [encodeSegment sampleHeader, encodeSegment sampleClaims, sampleSignature] := by
  have hsegment : ∀ v, '.' ∉ encodeSegment v := fun v h => (digit_of_mem_encodeSegment h).1 rfl
  rw [sampleLine, List.splitOn_append_cons_self_of_not_mem (hsegment _),
    List.splitOn_append_cons_self_of_not_mem (hsegment _),
    List.splitOn_eq_singleton fun h => (sampleSignature_digits _ h).1 rfl]

theorem sample_plainSubjects :
    PlainSubjects (some sampleAuthorization) := by
  intro token p₀ p₁ p₂ claims hbears hsplit hclaims
  have hsample : segments (some sampleAuthorization) =
      .ok (encodeSegment sampleHeader, encodeSegment sampleClaims, sampleSignature) :=
    segments_eq_ok.mpr ⟨sampleLine, sampleLine_bears, sampleLine_splitOn⟩
  have hsegments := segments_eq_ok.mpr ⟨token, hbears, hsplit⟩
  rw [hsample, Except.ok.injEq, Prod.mk.injEq, Prod.mk.injEq] at hsegments
  rw [← hsegments.2.1, segmentJson_encodeSegment sampleClaims_plain] at hclaims
  cases hclaims
  constructor
  · rintro w hw
    cases hw
    exact Or.inl ⟨_, rfl⟩
  · rintro w hw
    cases hw
    exact Or.inl ⟨_, rfl⟩

theorem sample_accepts : Accepts sampleVerifier {} sampleReadings
    (some sampleAuthorization) "did:privy:test-user" := by
  have hclaims : ClaimsHold sampleClaims "test-app-id" "did:privy:test-user" 1800000000000 :=
    ⟨rfl, Or.inl rfl, ⟨.int 1800000600, rfl, rfl⟩, (fun _ h => nomatch h), ⟨_, rfl, rfl, rfl⟩⟩
  refine ⟨sampleLine, _, _, _, sampleHeader, .str "test-key-1", (), sampleClaims, sampleLine_bears,
    sampleLine_splitOn, segmentJson_encodeSegment sampleHeader_plain, rfl, rfl, ?_, ?_,
    segmentJson_encodeSegment sampleClaims_plain, hclaims⟩
  · exact ⟨_, ⟨_, rfl, rfl⟩, rfl⟩
  · simp [sampleVerifier]

theorem verify_ok_sample : ∃ identity,
    verify sampleVerifier {} sampleReadings (some sampleAuthorization) = .ok identity ∧
      identity.sub = "did:privy:test-user" :=
  (verify_ok_iff sampleVerifier {} sampleReadings _ _ sample_plainSubjects).mpr sample_accepts

end AccountAbstraction.Auth
