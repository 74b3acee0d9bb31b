import AccountAbstraction.Auth.Cookie

/-!
# Reading a session cookie back

What `parse` of `server/session-cookie.mjs` makes of the cookie that `serialize` wrote, when it
comes back in a `Cookie` header among others. A payload and its MAC are base64url: none of
their characters is a separator, white space or an escape, so that splitting, trimming and
percent-decoding leave them alone, whatever the session contains.

* `readCookie_of_holds`: the header gives the value of the cookie.
* `readPayload_of_payload`: the payload gives the session, until it expires.
* `parse_serialize`: both together.
-/

namespace AccountAbstraction.Auth

open Js

/-! ## Headers -/

/-- A name without white space, `=` and `;`. -/
def PlainName (name : String) : Prop := ∀ c ∈ name.toList, isSpace c = false ∧ c ≠ '=' ∧ c ≠ ';'

/-- A part of a header with another name, or without `=`. -/
def OtherPart (name : String) (part : List Char) : Prop :=
  '=' ∉ part ∨ ∃ key value, part = key ++ '=' :: value ∧ '=' ∉ key ∧ String.ofList (trim key) ≠ name

/-- The pair of name and value in front of the attributes that `serialize` adds. -/
def SessionCodec.pair (codec : SessionCodec) (s : Session) : List Char :=
  (codec.serialize s).toList.takeWhile (· ≠ ';')

/-- A header of parts between semicolons; the one with the cookie of `s`, in white space, is the
    first one with its name. -/
structure HoldsFirst (codec : SessionCodec) (s : Session) (header : String)
    (before after : List (List Char)) (pre post : List Char) : Prop where
  header_eq : header.toList = [';'].intercalate (before ++ (pre ++ codec.pair s ++ post) :: after)
  parts : ∀ part ∈ before ++ after, ';' ∉ part
  others : ∀ part ∈ before, OtherPart codec.name part
  spaces : ∀ c ∈ pre ++ post, isSpace c = true

/-- The MAC is base64url of a digest. -/
def SessionCodec.Digests (codec : SessionCodec) : Prop := ∀ text, ∃ digest, codec.mac text = base64urlEncode digest

/-! ## The value of the cookie -/

/-- No character of base64url is a separator, white space or an escape. -/
theorem plain_of_mem_base64url {bs : Bytes} {c : Char} (h : c ∈ (base64urlEncode bs).toList) :
    isSpace c = false ∧ c ≠ '.' ∧ c ≠ ';' ∧ c ≠ '=' ∧ c ≠ '%' := by
  obtain ⟨n, hn, rfl⟩ := mem_base64urlEncode h
  have hall : ∀ i : Fin 64, isSpace (base64urlDigit i) = false ∧ base64urlDigit i ≠ '.' ∧
      base64urlDigit i ≠ ';' ∧ base64urlDigit i ≠ '=' ∧ base64urlDigit i ≠ '%' := by decide +kernel
  exact hall ⟨n, hn⟩

variable {codec : SessionCodec} {s : Session}

/-- The value of the cookie: the payload, a dot and its MAC. -/
def SessionCodec.value (codec : SessionCodec) (s : Session) : List Char :=
  s.payload.toList ++ '.' :: (codec.mac s.payload).toList

theorem plain_of_mem_value (hmac : codec.Digests) {c : Char} (h : c ∈ codec.value s) :
    isSpace c = false ∧ c ≠ ';' ∧ c ≠ '=' ∧ c ≠ '%' := by
  rcases List.mem_append.mp h with hpayload | hrest
  · obtain ⟨hspace, -, hsemicolon, heq, hpercent⟩ := plain_of_mem_base64url hpayload
    exact ⟨hspace, hsemicolon, heq, hpercent⟩
  · rcases List.mem_cons.mp hrest with rfl | htag
    · decide
    · obtain ⟨digest, hdigest⟩ := hmac s.payload
      rw [hdigest] at htag
      obtain ⟨hspace, -, hsemicolon, heq, hpercent⟩ := plain_of_mem_base64url htag
      exact ⟨hspace, hsemicolon, heq, hpercent⟩

theorem toList_intercalate_cons (first second : String) (rest : List String) :
    (String.intercalate "; " (first :: second :: rest)).toList =
      first.toList ++ ';' :: ' ' :: (String.intercalate "; " (second :: rest)).toList := by
  rw [String.toList_intercalate, String.toList_intercalate, List.map_cons, List.map_cons,
    List.intercalate_cons_cons, List.append_assoc]
  rfl

/-- The attributes stand behind a semicolon. -/
theorem serialize_eq (codec : SessionCodec) (s : Session) :
    ∃ rest, (codec.serialize s).toList = (codec.name.toList ++ '=' :: codec.value s) ++ ';' :: rest := by
  have hpair : ∀ value : String, (s!"{codec.name}={value}").toList =
      codec.name.toList ++ '=' :: value.toList := by
    intro value
    show (codec.name ++ "=" ++ value).toList = _
    simp
  have hvalue : (s.payload ++ "." ++ codec.mac s.payload).toList = codec.value s := by
    simp [SessionCodec.value]
  unfold SessionCodec.serialize SessionCodec.attributes
  exact ⟨_, (toList_intercalate_cons _ _ _).trans (by rw [hpair, hvalue])⟩

/-- The pair that the browser sends back. -/
theorem pair_eq (hname : PlainName codec.name) (hmac : codec.Digests) :
    codec.pair s = codec.name.toList ++ '=' :: codec.value s := by
  have hpair : ∀ c ∈ codec.name.toList ++ '=' :: codec.value s, c ≠ ';' := by
    intro c hc
    rcases List.mem_append.mp hc with hc | hc
    · exact (hname c hc).2.2
    · rcases List.mem_cons.mp hc with rfl | hc
      · decide
      · exact (plain_of_mem_value hmac hc).2.1
  obtain ⟨rest, hrest⟩ := serialize_eq codec s
  rw [SessionCodec.pair, hrest, List.takeWhile_append_of_pos (by simpa using hpair)]
  simp

/-! ## Finding the cookie -/

/-- A part with another name is passed. -/
theorem cookieValue?_of_other {name : String} {part : List Char} (h : OtherPart name part) :
    cookieValue? name part = none := by
  rcases h with hno | ⟨key, value, rfl, hkey, hname⟩
  · have hdrop : part.dropWhile (· ≠ '=') = [] := by
      rw [List.dropWhile_eq_nil_iff]
      intro c hc
      rw [decide_eq_true_eq]
      rintro rfl
      exact hno hc
    rw [cookieValue?, hdrop]
  · have hpos : ∀ c ∈ key, decide (c ≠ '=') = true := by
      intro c hc
      rw [decide_eq_true_eq]
      rintro rfl
      exact hkey hc
    rw [cookieValue?, List.dropWhile_append_of_pos hpos, List.takeWhile_append_of_pos hpos]
    simp [hname]

/-- The part with the cookie gives its value. -/
theorem cookieValue?_of_pair (hname : PlainName codec.name) (hmac : codec.Digests) {pre post : List Char}
    (hpre : ∀ c ∈ pre, isSpace c = true) (hpost : ∀ c ∈ post, isSpace c = true) :
    cookieValue? codec.name (pre ++ codec.pair s ++ post) = some (String.ofList (codec.value s)) := by
  have hkey : ∀ c ∈ pre ++ codec.name.toList, decide (c ≠ '=') = true := by
    intro c hc
    rw [decide_eq_true_eq]
    rintro rfl
    rcases List.mem_append.mp hc with hc | hc
    · cases hpre _ hc
    · exact (hname _ hc).2.1 rfl
  have hpart : pre ++ codec.pair s ++ post = (pre ++ codec.name.toList) ++ '=' :: (codec.value s ++ post) := by
    rw [pair_eq hname hmac]
    simp
  have htrimKey : trim (pre ++ codec.name.toList) = codec.name.toList := by
    rw [trim_of_spaces hpre, trim_of_no_space fun c hc => (hname c hc).1]
  have htrimValue : trim (codec.value s ++ post) = codec.value s :=
    trim_append_spaces (fun c hc => (plain_of_mem_value hmac hc).1) hpost
  have hdecode : decodeURIComponent (String.ofList (codec.value s)) = some (String.ofList (codec.value s)) := by
    refine decodeURIComponent_of_not_mem fun hpercent => ?_
    rw [String.toList_ofList] at hpercent
    exact (plain_of_mem_value hmac hpercent).2.2.2 rfl
  rw [hpart, cookieValue?, List.dropWhile_append_of_pos hkey, List.takeWhile_append_of_pos hkey]
  simp [htrimKey, htrimValue, hdecode]

theorem readCookie_of_holds (hname : PlainName codec.name) (hmac : codec.Digests) {header : String}
    {before after : List (List Char)} {pre post : List Char}
    (h : HoldsFirst codec s header before after pre post) :
    readCookie (some header) codec.name = some (String.ofList (codec.value s)) := by
  have hpre : ∀ c ∈ pre, isSpace c = true := fun c hc => h.spaces c (List.mem_append_left _ hc)
  have hpost : ∀ c ∈ post, isSpace c = true := fun c hc => h.spaces c (List.mem_append_right _ hc)
  have hown : ';' ∉ pre ++ codec.pair s ++ post := by
    rw [pair_eq hname hmac]
    intro hc
    simp only [List.mem_append, List.mem_cons] at hc
    rcases hc with (hc | hc | hc | hc) | hc
    · cases hpre _ hc
    · exact (hname _ hc).2.2 rfl
    · cases hc
    · exact (plain_of_mem_value hmac hc).2.1 rfl
    · cases hpost _ hc
  have hsplit : header.toList.splitOn ';' = before ++ (pre ++ codec.pair s ++ post) :: after := by
    rw [h.header_eq]
    refine List.splitOn_intercalate ';' ?_ (by simp)
    intro part hpart
    rcases List.mem_append.mp hpart with hbefore | hrest
    · exact h.parts part (List.mem_append_left _ hbefore)
    · rcases List.mem_cons.mp hrest with rfl | hafter
      · exact hown
      · exact h.parts part (List.mem_append_right _ hafter)
  have hnone : before.findSome? (cookieValue? codec.name) = none := by
    rw [List.findSome?_eq_none_iff]
    exact fun part hpart => cookieValue?_of_other (h.others part hpart)
  have hne : header ≠ "" := by
    rintro rfl
    have hempty : ("" : String).toList.splitOn ';' = [[]] := rfl
    have hmem : pre ++ codec.pair s ++ post ∈ [([] : List Char)] := by
      rw [← hempty, hsplit]
      simp
    have hnil := List.mem_singleton.mp hmem
    rw [pair_eq hname hmac] at hnil
    simp at hnil
  rw [readCookie, if_neg hne, hsplit, List.findSome?_append, hnone, Option.none_or,
    List.findSome?_cons, cookieValue?_of_pair hname hmac hpre hpost]

/-! ## The last dot -/

theorem splitLast_of_not_mem {cs : List Char} (h : '.' ∉ cs) : splitLast cs = none := by
  induction cs with
  | nil => rfl
  | cons c cs ih =>
    rw [List.mem_cons, not_or] at h
    rw [splitLast, ih h.2]
    simp [Ne.symm h.1]

theorem splitLast_append {before after : List Char} (h : '.' ∉ after) :
    splitLast (before ++ '.' :: after) = some (before, after) := by
  induction before with
  | nil => simp [splitLast, splitLast_of_not_mem h]
  | cons c before ih =>
    rw [List.cons_append, splitLast, ih]

/-! ## The session -/

/-- A payload is the JSON text of an object, and not empty. -/
theorem payload_ne_empty (s : Session) : s.payload.toList ≠ [] := by
  intro hnil
  have hparse := parseJson_payload s
  have hempty : s.payload = base64urlEncode [] := String.toList_injective (hnil.trans rfl)
  rw [hempty, base64urlDecode_base64urlEncode] at hparse
  cases hparse

/-- The session in a payload, when its texts are not empty. -/
theorem readPayload_of_payload (htoken : s.accessToken ≠ "") (hsub : s.sub ≠ "") (now : ℤ) :
    readPayload s.payload now =
      if s.expiresAt.exceeds (now + expirySkewMs) then some s.parsed else none := by
  have hat : readAt s.json = .value (.str s.accessToken) := rfl
  have hsub' : readSub s.json = .value (.str s.sub) := rfl
  have hexp : s.json.field "exp" = some (.num s.expiresAt) := rfl
  rw [readPayload, parseJson_payload]
  simp only [hat, hsub', hexp]
  have htruthy : (!(Property.value (.str s.accessToken)).truthy ||
      !(Property.value (.str s.sub)).truthy) = false := by
    simp [Property.truthy, Json.truthy, htoken, hsub]
  rw [htruthy]
  rfl

/-- A session with an integer expiry. -/
theorem exceeds_of_integer {x : JsNumber} {n : ℤ} (h : x.integer? = some n) (m : ℤ) :
    x.exceeds m = decide (m < n) := by
  cases x with
  | int k =>
    cases h
    rfl
  | large k text =>
    cases h
    rfl
  | nonint text => cases h

/-- A cookie that comes back in a header, as the first one with its name, is read to the session
    that it was written from as long as that expires in more than five seconds, and to nothing
    from then on. -/
theorem parse_serialize (hname : PlainName codec.name) (hmac : codec.Digests) (htoken : s.accessToken ≠ "")
    (hsub : s.sub ≠ "") {expiry : ℤ} (hexpiry : s.expiresAt.integer? = some expiry) {header : String}
    {before after : List (List Char)} {pre post : List Char}
    (hheader : HoldsFirst codec s header before after pre post) (now : ℤ) :
    codec.parse (some header) now = if now + 5000 < expiry then some s.parsed else none := by
  have hvalue : String.ofList (codec.value s) ≠ "" := by
    intro hempty
    have hnil := congrArg String.toList hempty
    rw [String.toList_ofList] at hnil
    simp [SessionCodec.value] at hnil
  have hdot : '.' ∉ (codec.mac s.payload).toList := by
    obtain ⟨digest, hdigest⟩ := hmac s.payload
    rw [hdigest]
    exact fun hc => (plain_of_mem_base64url hc).2.1 rfl
  have hsplit : splitLast (String.ofList (codec.value s)).toList =
      some (s.payload.toList, (codec.mac s.payload).toList) := by
    rw [String.toList_ofList]
    exact splitLast_append hdot
  rw [SessionCodec.parse, readCookie_of_holds hname hmac hheader]
  simp only [if_neg hvalue, hsplit, if_neg (payload_ne_empty s), String.ofList_toList, if_true]
  rw [readPayload_of_payload htoken hsub, exceeds_of_integer hexpiry, expirySkewMs]
  by_cases hlive : now + 5000 < expiry
  · rw [if_pos hlive, if_pos (decide_eq_true hlive)]
  · rw [if_neg hlive, if_neg (by simpa using hlive)]

/-! ## A header -/

theorem sampleCodec_digests : sampleCodec.Digests := by
  intro text
  by_cases htext : text = samplePayload
  · refine ⟨base64urlDecode "Fc4c303GWlKOhXuO8cv_rd1Se5C5WcbeTYS0CnUuT7k", ?_⟩
    subst htext
    decide +kernel
  · exact ⟨List.replicate 750 0, if_neg htext⟩

theorem sampleCodec_plainName : PlainName sampleCodec.name := by
  have hall : sampleCodec.name.toList.all (fun c => !isSpace c && c != '=' && c != ';') = true := by
    decide +kernel
  intro c hc
  simpa [and_assoc] using List.all_eq_true.mp hall c hc

/-- The sample session in a header between two others, a second before the time at which it is
    taken as gone. -/
theorem parse_serialize_sample :
    sampleCodec.parse (some (String.ofList
        ([';'].intercalate ["theme=dark".toList, ' ' :: sampleCodec.pair sampleSession, " x".toList])))
      1767225894000 = some sampleSession.parsed := by
  have hheader : HoldsFirst sampleCodec sampleSession (String.ofList
      ([';'].intercalate ["theme=dark".toList, ' ' :: sampleCodec.pair sampleSession, " x".toList]))
      ["theme=dark".toList] [" x".toList] [' '] [] := by
    refine ⟨?_, ?_, ?_, ?_⟩
    · rw [String.toList_ofList]
      simp
    · have hall : (["theme=dark".toList] ++ [" x".toList]).all (fun part => !part.contains ';') = true := by
        decide +kernel
      intro part hpart
      simpa using List.all_eq_true.mp hall part hpart
    · intro part hpart
      rw [List.mem_singleton.mp hpart]
      exact Or.inr ⟨"theme".toList, "dark".toList, by decide +kernel, by decide +kernel, by decide +kernel⟩
    · exact List.all_eq_true.mp rfl
  have hread := parse_serialize sampleCodec_plainName sampleCodec_digests (by decide) (by decide) rfl hheader
    1767225894000
  rw [hread, if_pos (by norm_num)]

end AccountAbstraction.Auth
