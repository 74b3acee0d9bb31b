import AccountAbstraction.Js.Base64
import AccountAbstraction.Js.BigInt
import AccountAbstraction.Js.JsonParse
import Mathlib.Data.Set.Basic

/-!
# The session cookie

`server/session-cookie.mjs`: `serialize` writes a session as base64url JSON with
an HMAC over that text, `parse` finds the cookie in a `Cookie` header, checks
the HMAC and reads the session back.

The HMAC is a parameter. What it protects is the text of the payload, so
`parse` may be as lenient as it is about the text around it: an attacker may
quote, escape and pad, but the payload that passes is one that was issued, and
base64url, UTF-8 and JSON read it back to the session it was written from.

* `readCookie_carried`: whatever `parse` looks at stands in the header.
* `readPayload_payload`: the payload of a session is read back to it.
* `parse_authentic`: a session that `parse` returns is one that was issued, and has
  not expired.
-/

namespace AccountAbstraction.Auth

open Js

/-! ## The codec -/

/-- `EXPIRY_SKEW_MS` (line 16). -/
def expirySkewMs : ℤ := 5000

/-- A session as `serialize` takes it (line 34). -/
structure Session where
  accessToken : String
  sub : String
  expiresAt : JsNumber
  finite : expiresAt.Finite

/-- The options of `createSessionCodec` (line 18), with `mac` (lines 23-25) for the
    HMAC-SHA256 under the key, as base64url text. -/
structure SessionCodec where
  name : String
  path : String := "/api"
  sameSite : String := "Strict"
  secure : Bool := false
  mac : String → String

/-- `attributes` (lines 27-32). -/
def SessionCodec.attributes (codec : SessionCodec) (value : String) (expire : Bool) : String :=
  String.intercalate "; "
    ([s!"{codec.name}={value}", "HttpOnly", s!"Path={codec.path}", s!"SameSite={codec.sameSite}"] ++
      (if codec.secure then ["Secure"] else []) ++ (if expire then ["Max-Age=0"] else []))

/-- The object whose JSON text is the payload (line 37). -/
def Session.json (s : Session) : Json :=
  .obj [("at", .str s.accessToken), ("sub", .str s.sub), ("exp", .num s.expiresAt)]

/-- The payload (lines 36-38). -/
def Session.payload (s : Session) : String := base64urlEncode (utf8Encode s.json.stringify)

/-- `serialize` (lines 35-40). -/
def SessionCodec.serialize (codec : SessionCodec) (s : Session) : String :=
  codec.attributes (s.payload ++ "." ++ codec.mac s.payload) false

/-- `clear` (lines 42-44). -/
def SessionCodec.clear (codec : SessionCodec) : String := codec.attributes "" true

/-! ## Finding the cookie -/

/-- The value of one part of the header, if the part has the name (lines 75-83). A
    value that cannot be percent-decoded is taken as it stands. -/
def cookieValue? (name : String) (part : List Char) : Option String :=
  match part.dropWhile (· ≠ '=') with
  | [] => none
  | _ :: rest =>
    if String.ofList (trim (part.takeWhile (· ≠ '='))) = name then
      let value := String.ofList (trim rest)
      some ((decodeURIComponent value).getD value)
    else none

/-- `readCookie` (lines 72-86): the first part with the name. -/
def readCookie (header : Option String) (name : String) : Option String :=
  match header with
  | none => none
  | some header =>
    if header = "" then none
    else (header.toList.splitOn ';').findSome? (cookieValue? name)

/-- The text before the last dot and the text after it (lines 51-54). -/
def splitLast : List Char → Option (List Char × List Char)
  | [] => none
  | c :: cs =>
    match splitLast cs with
    | some (before, after) => some (c :: before, after)
    | none => if c = '.' then some ([], cs) else none

/-! ## Reading the payload -/

/-- What a property read gives. A string and an array have a method `at`, a string
    has a method `sub`. -/
inductive Property
  | undefined
  | method
  | value (v : Json)
deriving Repr

def Property.truthy : Property → Bool
  | .undefined => false
  | .method => true
  | .value v => v.truthy

/-- `payload?.at` (line 64). -/
def readAt : Json → Property
  | .str _ => .method
  | .arr _ => .method
  | v => (v.field "at").elim .undefined .value

/-- `payload?.sub` (line 64). -/
def readSub : Json → Property
  | .str _ => .method
  | v => (v.field "sub").elim .undefined .value

/-- The session that `parse` returns. -/
structure Parsed where
  accessToken : Property
  sub : Property
  expiresAt : Json
deriving Repr

/-- Lines 58-66: the session of a payload whose MAC is right. -/
def readPayload (payloadB64 : String) (now : ℤ) : Option Parsed :=
  match parseJson (utf8Decode (base64urlDecode payloadB64)) with
  | none => none
  | some payload =>
    if !(readAt payload).truthy || !(readSub payload).truthy then none
    else
      match payload.field "exp" with
      | some (.num exp) =>
        if exp.exceeds (now + expirySkewMs) then
          some ⟨readAt payload, readSub payload, .num exp⟩
        else none
      | exp => some ⟨readAt payload, readSub payload, (nullish exp none).getD .null⟩

/-- `parse` (lines 47-67) at the clock `now`. -/
def SessionCodec.parse (codec : SessionCodec) (cookieHeader : Option String) (now : ℤ) :
    Option Parsed :=
  match readCookie cookieHeader codec.name with
  | none => none
  | some raw =>
    if raw = "" then none
    else
      match splitLast raw.toList with
      | none => none
      | some (before, after) =>
        if before = [] then none
        else
          let payloadB64 := String.ofList before
          let provided := base64urlDecode (String.ofList after)
          let expected := base64urlDecode (codec.mac payloadB64)
          if provided = expected then readPayload payloadB64 now else none

/-! ## What a header carries -/

/-- A text that stands in a header, or in a part of it after percent-decoding. -/
def Carries (header text : String) : Prop :=
  ∃ part : String, part.toList <:+: header.toList ∧
    (text.toList <:+: part.toList ∨
      ∃ decoded, decodeURIComponent part = some decoded ∧ text.toList <:+: decoded.toList)

/-- No text that the header carries is a MAC of another text that it carries, unless
    this one was issued. -/
def Unforged (codec : SessionCodec) (issued : Set Session) (header : String) : Prop :=
  ∀ payloadB64 tag, Carries header payloadB64 → Carries header tag →
    base64urlDecode tag = base64urlDecode (codec.mac payloadB64) →
    ∃ s ∈ issued, payloadB64 = s.payload

theorem Carries.of_infix {header part : String} (h : Carries header part) {text : String}
    (htext : text.toList <:+: part.toList) : Carries header text := by
  obtain ⟨p, hp, hpart | ⟨decoded, hdecoded, hpart⟩⟩ := h
  · exact ⟨p, hp, Or.inl (htext.trans hpart)⟩
  · exact ⟨p, hp, Or.inr ⟨decoded, hdecoded, htext.trans hpart⟩⟩

/-- What a header carries is not longer than the header. -/
theorem Carries.length_le {header text : String} (h : Carries header text) :
    text.toList.length ≤ header.toList.length := by
  obtain ⟨part, hpart, htext | ⟨decoded, hdecoded, htext⟩⟩ := h
  · exact htext.length_le.trans hpart.length_le
  · exact htext.length_le.trans ((length_decodeURIComponent hdecoded).trans hpart.length_le)

theorem splitLast_eq_some : ∀ {cs before after : List Char},
    splitLast cs = some (before, after) → cs = before ++ '.' :: after := by
  intro cs
  induction cs with
  | nil =>
    intro before after h
    cases h
  | cons c cs ih =>
    intro before after h
    rw [splitLast] at h
    split at h
    · rename_i b a hsplit
      cases h
      rw [List.cons_append, ← ih hsplit]
    · split_ifs at h with hc
      cases h
      rw [hc]
      rfl

theorem trim_isInfix (cs : List Char) : trim cs <:+: cs := by
  have hfront : cs.dropWhile isSpace <:+: cs := (List.dropWhile_suffix _).isInfix
  have hback := (List.dropWhile_suffix (p := isSpace) (l := (cs.dropWhile isSpace).reverse)).isInfix
  have htrim : trim cs <:+: cs.dropWhile isSpace := by
    rw [trim, ← List.reverse_infix, List.reverse_reverse]
    exact hback
  exact htrim.trans hfront

/-- A part of a header between semicolons stands in the header. -/
theorem isInfix_of_mem_splitOn {cs part : List Char} {c : Char} (h : part ∈ cs.splitOn c) :
    part <:+: cs := by
  have hjoin : ∀ parts : List (List Char), part ∈ parts → part <:+: [c].intercalate parts := by
    intro parts
    induction parts with
    | nil => intro hmem; cases hmem
    | cons p parts ih =>
      intro hmem
      cases parts with
      | nil =>
        rw [List.mem_singleton] at hmem
        rw [hmem, List.intercalate_singleton]
      | cons q parts =>
        rw [List.intercalate_cons_cons]
        rcases List.mem_cons.mp hmem with rfl | hrest
        · exact (List.prefix_append part _).isInfix.trans (List.prefix_append _ _).isInfix
        · exact (ih hrest).trans (List.suffix_append _ _).isInfix
  have hwhole : [c].intercalate (cs.splitOn c) = cs := List.intercalate_splitOn c
  exact hwhole ▸ hjoin _ h

theorem cookieValue?_carried {header name value : String} {part : List Char}
    (hpart : part <:+: header.toList) (h : cookieValue? name part = some value) :
    Carries header value := by
  rw [cookieValue?] at h
  split at h
  · cases h
  · rename_i c rest hdrop
    split_ifs at h
    have hrest : trim rest <:+: header.toList := by
      have hsuffix := List.dropWhile_suffix (p := (· ≠ '=')) (l := part)
      rw [hdrop] at hsuffix
      exact (trim_isInfix rest).trans
        (((List.suffix_cons c rest).trans hsuffix).isInfix.trans hpart)
    refine ⟨String.ofList (trim rest), by simpa using hrest, ?_⟩
    simp only at h
    cases hdecode : decodeURIComponent (String.ofList (trim rest)) with
    | none =>
      rw [hdecode] at h
      cases h
      exact Or.inl (List.infix_refl _)
    | some decoded =>
      rw [hdecode] at h
      cases h
      exact Or.inr ⟨decoded, rfl, List.infix_refl _⟩

theorem readCookie_carried {header name raw : String} (h : readCookie (some header) name = some raw) :
    Carries header raw := by
  simp only [readCookie] at h
  split_ifs at h
  obtain ⟨part, hpart, hvalue⟩ := List.exists_of_findSome?_eq_some h
  exact cookieValue?_carried (isInfix_of_mem_splitOn hpart) hvalue

/-! ## Authenticity -/

/-- What `parse` returns for a session. -/
def Session.parsed (s : Session) : Parsed :=
  ⟨.value (.str s.accessToken), .value (.str s.sub), .num s.expiresAt⟩

theorem parseJson_payload (s : Session) :
    parseJson (utf8Decode (base64urlDecode s.payload)) = some s.json := by
  have hplain : s.json.Plain :=
    ⟨by simp, trivial, trivial, s.finite, trivial⟩
  rw [Session.payload, base64urlDecode_base64urlEncode, utf8Decode_utf8Encode]
  exact parseJson_stringify hplain

/-- A payload is read to the session it was written from, and only before it
    expires. -/
theorem readPayload_payload {s : Session} {now : ℤ} {session : Parsed}
    (h : readPayload s.payload now = some session) :
    session = s.parsed ∧ s.expiresAt.exceeds (now + expirySkewMs) = true := by
  have hat : readAt s.json = .value (.str s.accessToken) := rfl
  have hsub : readSub s.json = .value (.str s.sub) := rfl
  have hexp : s.json.field "exp" = some (.num s.expiresAt) := rfl
  rw [readPayload, parseJson_payload] at h
  simp only [hat, hsub, hexp] at h
  split_ifs at h with htruthy hexceeds
  cases h
  exact ⟨rfl, hexceeds⟩

/-- The payload that `parse` reads stands in the header, next to its MAC. -/
theorem parse_eq_some {codec : SessionCodec} {header : String} {now : ℤ} {session : Parsed}
    (h : codec.parse (some header) now = some session) :
    ∃ payloadB64 tag, Carries header payloadB64 ∧ Carries header tag ∧
      base64urlDecode tag = base64urlDecode (codec.mac payloadB64) ∧
      readPayload payloadB64 now = some session := by
  rw [SessionCodec.parse] at h
  split at h
  · cases h
  rename_i raw hraw
  split_ifs at h
  split at h
  · cases h
  rename_i before after hsplit
  simp only at h
  split_ifs at h with _ hmac
  have hcarries := readCookie_carried hraw
  have htext := splitLast_eq_some hsplit
  refine ⟨_, _, hcarries.of_infix ?_, hcarries.of_infix ?_, hmac, h⟩
  · rw [htext, String.toList_ofList]
    exact (List.prefix_append before _).isInfix
  · rw [htext, String.toList_ofList]
    exact ((List.suffix_cons '.' after).trans (List.suffix_append before _)).isInfix

/-- A session that `parse` returns is one session that was issued, with its own
    token, subject and expiry, and has not expired. -/
theorem parse_authentic {codec : SessionCodec} {issued : Set Session} {header : String}
    (hunforged : Unforged codec issued header) {now : ℤ} {session : Parsed}
    (h : codec.parse (some header) now = some session) :
    ∃ s ∈ issued, session = s.parsed ∧ s.expiresAt.exceeds (now + expirySkewMs) = true := by
  obtain ⟨payloadB64, tag, hpayload, htag, hmac, hread⟩ := parse_eq_some h
  obtain ⟨s, hs, rfl⟩ := hunforged payloadB64 tag hpayload htag hmac
  exact ⟨s, hs, readPayload_payload hread⟩

/-! ## A session that is accepted -/

def sampleSession : Session where
  accessToken := "keycloak.access.token"
  sub := "did:privy:test-user"
  expiresAt := .int 1767225900000
  finite := finite_int (by decide)

def samplePayload : String :=
  "eyJhdCI6ImtleWNsb2FrLmFjY2Vzcy50b2tlbiIsInN1YiI6ImRpZDpwcml2eTp0ZXN0LXVzZXIiLCJleHAiOjE3NjcyMjU5" ++
    "MDAwMDB9"

/-- The text that stands for every other HMAC. -/
def otherMac : String := base64urlEncode (List.replicate 750 0)

/-- The HMAC-SHA256 of the payload under the key `test-secret`, and for every other
    text one that is longer than any text at hand. -/
def sampleMac (payloadB64 : String) : String :=
  if payloadB64 = samplePayload then "Fc4c303GWlKOhXuO8cv_rd1Se5C5WcbeTYS0CnUuT7k" else otherMac

def sampleCodec : SessionCodec where
  name := "naas_session"
  mac := sampleMac

/-- The cookie with a part before it, its first dot escaped. -/
def sampleCookieHeader : String :=
  "theme=dark; naas_session=" ++ samplePayload ++ "%2EFc4c303GWlKOhXuO8cv_rd1Se5C5WcbeTYS0CnUuT7k="

theorem sampleSession_payload : sampleSession.payload = samplePayload := by decide +kernel

theorem length_otherMac : (base64urlDecode otherMac).length = 750 := by
  rw [otherMac, base64urlDecode_base64urlEncode, List.length_replicate]

theorem length_sampleCookieHeader : sampleCookieHeader.toList.length < 300 := by decide +kernel

theorem sampleHeader_unforged : Unforged sampleCodec {sampleSession} sampleCookieHeader := by
  intro payloadB64 tag _ htag hmac
  refine ⟨sampleSession, rfl, ?_⟩
  rw [sampleSession_payload]
  by_contra hne
  have hother : sampleCodec.mac payloadB64 = otherMac := if_neg hne
  have hdecode := length_base64urlDecode tag
  have hcarried := htag.length_le
  have hheader := length_sampleCookieHeader
  rw [hmac, hother, length_otherMac] at hdecode
  omega

theorem parse_authentic_sample : ∃ session,
    sampleCodec.parse (some sampleCookieHeader) 1767225600000 = some session ∧
    ∃ s ∈ ({sampleSession} : Set Session), session = s.parsed ∧
      s.expiresAt.exceeds (1767225600000 + expirySkewMs) = true := by
  have hsome : (sampleCodec.parse (some sampleCookieHeader) 1767225600000).isSome = true := by
    decide +kernel
  obtain ⟨session, hsession⟩ := Option.isSome_iff_exists.mp hsome
  exact ⟨session, hsession, parse_authentic sampleHeader_unforged hsession⟩

end AccountAbstraction.Auth
