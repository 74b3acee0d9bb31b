import AccountAbstraction.Js.Text
import Mathlib.Data.List.TakeWhile

/-!
# The query of a URL

`new URL(url, base).searchParams`: the part between `?` and `#`, cut at `&` and at the
first `=`, with `+` for a space and escapes for bytes. Bytes that are no UTF-8 become
replacement characters.

* `searchParam_percentEncode`: a value that a client encodes is what the server reads.

The authority of a URL: `hostname` and `host`, which has the port unless it is the default
one. An IPv6 address stands in brackets, and no other host has a colon or a bracket.
-/

namespace AccountAbstraction.Js

/-- The bytes of a text. A `%` without two hex digits stands for itself. -/
def percentDecode : List Char → Bytes
  | '%' :: a :: b :: cs =>
    match hexDigit? a, hexDigit? b with
    | some x, some y => Fin.ofNat 256 (16 * x + y) :: percentDecode cs
    | _, _ => utf8Char '%' ++ percentDecode (a :: b :: cs)
  | c :: cs => utf8Char c ++ percentDecode cs
  | [] => []

/-- A name or a value of a query. -/
def formDecode (cs : List Char) : String :=
  utf8Decode (percentDecode (cs.map fun c => if c = '+' then ' ' else c))

/-- The name and the value of a part. -/
def formPair (part : List Char) : String × String :=
  (formDecode (part.takeWhile (· ≠ '=')), formDecode ((part.dropWhile (· ≠ '=')).drop 1))

/-- `new URLSearchParams(query)`. -/
def searchParams (query : List Char) : List (String × String) :=
  ((query.splitOn '&').filter (· ≠ [])).map formPair

/-- The query of a URL. -/
def queryOf (url : String) : List Char :=
  ((url.toList.takeWhile (· ≠ '#')).dropWhile (· ≠ '?')).drop 1

/-- `new URL(url, base).searchParams.get(name)`. -/
def searchParam (url name : String) : Option String := (searchParams (queryOf url)).lookup name

/-! ## A text that a client encodes -/

/-- A character that stands for itself in an encoded text. -/
def isUnreserved (c : Char) : Bool := c.isAlphanum || c == '-' || c == '_' || c == '.' || c == '~'

/-- The escapes of a character, or the character itself. -/
def percentEncodeChar (c : Char) : List Char :=
  if isUnreserved c then [c] else (utf8Char c).flatMap fun b => '%' :: byteDigits b

def percentEncode (s : String) : List Char := s.toList.flatMap percentEncodeChar

/-- A character of an encoded text. -/
def IsEncoded (c : Char) : Prop := isUnreserved c = true ∨ c = '%'

theorem isUnreserved_digitChar {d : ℕ} (h : d < 16) : isUnreserved d.digitChar = true := by
  interval_cases d <;> rfl

theorem isEncoded_of_mem {cs : List Char} {c : Char} (h : c ∈ cs.flatMap percentEncodeChar) :
    IsEncoded c := by
  obtain ⟨d, -, hc⟩ := List.mem_flatMap.mp h
  unfold percentEncodeChar at hc
  split_ifs at hc with hd
  · rw [List.mem_singleton.mp hc]
    exact Or.inl hd
  · obtain ⟨b, -, hc⟩ := List.mem_flatMap.mp hc
    have hb := b.isLt
    simp only [byteDigits, List.mem_cons, List.not_mem_nil, or_false] at hc
    rcases hc with rfl | rfl | rfl
    · exact Or.inr rfl
    · exact Or.inl (isUnreserved_digitChar (by omega))
    · exact Or.inl (isUnreserved_digitChar (by omega))

theorem IsEncoded.ne {c d : Char} (h : IsEncoded c) (hd : isUnreserved d = false) (hpercent : d ≠ '%') :
    c ≠ d := by
  rintro rfl
  rcases h with h | h
  · rw [hd] at h
    cases h
  · exact hpercent h

theorem percentDecode_cons {c : Char} (h : c ≠ '%') (cs : List Char) :
    percentDecode (c :: cs) = utf8Char c ++ percentDecode cs := by
  rw [percentDecode.eq_2]
  intro a b ds hc
  exact absurd hc h

theorem percentDecode_byte (b : Byte) (cs : List Char) :
    percentDecode ('%' :: byteDigits b ++ cs) = b :: percentDecode cs := by
  have hb := b.isLt
  simp only [byteDigits, List.cons_append, List.nil_append, percentDecode,
    hexDigit?_digitChar (show b.val / 16 < 16 by omega),
    hexDigit?_digitChar (show b.val % 16 < 16 by omega)]
  congr 1
  ext
  rw [val_ofNat (by omega)]
  omega

theorem percentDecode_bytes (bs : Bytes) (cs : List Char) :
    percentDecode ((bs.flatMap fun b => '%' :: byteDigits b) ++ cs) = bs ++ percentDecode cs := by
  induction bs with
  | nil => rfl
  | cons b bs ih =>
    rw [List.flatMap_cons, List.append_assoc, percentDecode_byte, ih]
    rfl

theorem percentDecode_encoded (cs : List Char) :
    percentDecode (cs.flatMap percentEncodeChar) = cs.flatMap utf8Char := by
  induction cs with
  | nil => rfl
  | cons c cs ih =>
    rw [List.flatMap_cons, List.flatMap_cons]
    by_cases hc : isUnreserved c = true
    · have hne : c ≠ '%' := by
        rintro rfl
        cases hc
      rw [percentEncodeChar, if_pos hc, List.singleton_append, percentDecode_cons hne, ih]
    · rw [percentEncodeChar, if_neg hc, percentDecode_bytes, ih]

theorem formDecode_percentEncode (s : String) : formDecode (percentEncode s) = s := by
  have hplus : (percentEncode s).map (fun c => if c = '+' then ' ' else c) = percentEncode s := by
    rw [List.map_congr_left (g := id), List.map_id]
    intro c hc
    exact if_neg ((isEncoded_of_mem hc).ne rfl (by decide))
  rw [formDecode, hplus, percentEncode, percentDecode_encoded, utf8Decode, decodeFrom_flatMap,
    String.ofList_toList]

theorem percentEncode_ne_of_mem {s : String} {d : Char} (hd : isUnreserved d = false) (hpercent : d ≠ '%') :
    ∀ c ∈ percentEncode s, c ≠ d :=
  fun _ hc => (isEncoded_of_mem hc).ne hd hpercent

/-- The URL of a path and one pair. -/
def encodedUrl (path name value : String) : String :=
  path ++ String.ofList ('?' :: percentEncode name ++ '=' :: percentEncode value)

theorem queryOf_encodedUrl {path : String} (h : ∀ c ∈ path.toList, c ≠ '?' ∧ c ≠ '#') (name value : String) :
    queryOf (encodedUrl path name value) = percentEncode name ++ '=' :: percentEncode value := by
  have hpair : ∀ c ∈ '?' :: percentEncode name ++ '=' :: percentEncode value, c ≠ '#' := by
    intro c hc
    rcases List.mem_append.mp hc with hc | hc <;> rcases List.mem_cons.mp hc with rfl | hc
    · decide
    · exact percentEncode_ne_of_mem rfl (by decide) c hc
    · decide
    · exact percentEncode_ne_of_mem rfl (by decide) c hc
  have htake : (encodedUrl path name value).toList.takeWhile (· ≠ '#') =
      (encodedUrl path name value).toList := by
    rw [List.takeWhile_eq_self_iff]
    intro c hc
    rw [encodedUrl, String.toList_append, String.toList_ofList, List.mem_append] at hc
    simpa using hc.elim (fun hc => (h c hc).2) (hpair c)
  rw [queryOf, htake, encodedUrl, String.toList_append, String.toList_ofList,
    List.dropWhile_append_of_pos (by simpa using fun c hc => (h c hc).1)]
  rfl

theorem formPair_encoded (name value : String) :
    formPair (percentEncode name ++ '=' :: percentEncode value) = (name, value) := by
  have hne : ∀ c ∈ percentEncode name, decide (c ≠ '=') = true := fun c hc =>
    decide_eq_true (percentEncode_ne_of_mem rfl (by decide) c hc)
  rw [formPair, List.takeWhile_append_of_pos hne, List.dropWhile_append_of_pos hne]
  simp [formDecode_percentEncode]

theorem searchParam_percentEncode {path : String} (h : ∀ c ∈ path.toList, c ≠ '?' ∧ c ≠ '#')
    (name value : String) : searchParam (encodedUrl path name value) name = some value := by
  have hnot : '&' ∉ percentEncode name ++ '=' :: percentEncode value := by
    rw [List.mem_append, List.mem_cons]
    rintro (hc | hc | hc)
    · exact percentEncode_ne_of_mem rfl (by decide) _ hc rfl
    · cases hc
    · exact percentEncode_ne_of_mem rfl (by decide) _ hc rfl
  have hparams : searchParams (percentEncode name ++ '=' :: percentEncode value) = [(name, value)] := by
    rw [searchParams, List.splitOn_eq_singleton hnot]
    simp [formPair_encoded]
  rw [searchParam, queryOf_encodedUrl h, hparams, List.lookup_cons, beq_self_eq_true]

/-! ## The authority -/

/-- A host as the URL standard serializes it. -/
def IsHostname (hostname : List Char) : Prop :=
  (':' ∉ hostname ∧ '[' ∉ hostname) ∨
    ∃ address, hostname = '[' :: (address ++ [']']) ∧ ']' ∉ address

instance (hostname : List Char) : Decidable (IsHostname hostname) :=
  decidable_of_iff ((':' ∉ hostname ∧ '[' ∉ hostname) ∨
      (hostname = '[' :: (hostname.tail.dropLast ++ [']']) ∧ ']' ∉ hostname.tail.dropLast)) (by
    refine or_congr_right ⟨fun h => ⟨_, h.1, h.2⟩, ?_⟩
    rintro ⟨address, rfl, h⟩
    simpa using h)

/-- What `new URL(text)` says about the authority. -/
structure UrlHost where
  hostname : String
  /-- `none` for the default port of the scheme. -/
  port : Option ℕ
  wellFormed : IsHostname hostname.toList

/-- `url.host`. -/
def UrlHost.host (u : UrlHost) : String :=
  match u.port with
  | some port => u.hostname ++ ":" ++ toString port
  | none => u.hostname

end AccountAbstraction.Js
