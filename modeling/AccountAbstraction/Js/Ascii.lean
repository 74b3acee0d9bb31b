import AccountAbstraction.Js.Shape

/-!
# Values that are written in ASCII

`JSON.stringify` writes a character beyond ASCII as it is, and no other. So the text of a value
whose strings and names are ASCII has one byte for a character, which no way of cutting it can
part.

* `isAscii_stringify`: the text of such a value.
* `pieces_ascii`: an ASCII text is decoded from its bytes however they are cut.
-/

namespace AccountAbstraction.Js

/-! ## Texts -/

theorem isAscii_append (s t : String) : isAscii (s ++ t) = (isAscii s && isAscii t) := by
  rw [isAscii, String.toList_append, List.all_append, isAscii, isAscii]

theorem isAscii_join {texts : List String} (h : ∀ t ∈ texts, isAscii t = true) :
    isAscii (String.join texts) = true := by
  induction texts with
  | nil => rfl
  | cons t texts ih =>
    rw [String.join_cons, isAscii_append, h t List.mem_cons_self,
      ih fun u hu => h u (List.mem_cons_of_mem _ hu)]
    rfl

theorem isAscii_intercalate {sep : String} (hsep : isAscii sep = true) {texts : List String}
    (h : ∀ t ∈ texts, isAscii t = true) : isAscii (String.intercalate sep texts) = true := by
  induction texts with
  | nil => rfl
  | cons t texts ih =>
    have ht := h t List.mem_cons_self
    have hrest := ih fun u hu => h u (List.mem_cons_of_mem _ hu)
    cases texts with
    | nil => rwa [String.intercalate_singleton]
    | cons u texts =>
      rw [String.intercalate_cons_cons, isAscii_append, isAscii_append, ht, hsep, hrest]
      rfl

/-- The escapes are ASCII. -/
theorem isAscii_escapeChar {c : Char} (hc : c.toNat < 0x80) : isAscii (escapeChar c) = true := by
  have hall : ∀ n < 0x80, isAscii (escapeChar (Char.ofNat n)) = true := by decide +kernel
  have h := hall c.toNat hc
  rwa [Char.ofNat_toNat] at h

theorem isAscii_quote {s : String} (hs : isAscii s = true) : isAscii (quote s) = true := by
  have hbody : isAscii (String.join (s.toList.map escapeChar)) = true := by
    apply isAscii_join
    intro t ht
    obtain ⟨c, hc, rfl⟩ := List.mem_map.mp ht
    exact isAscii_escapeChar (by simpa using List.all_eq_true.mp hs c hc)
  rw [quote, isAscii_append, isAscii_append, hbody]
  rfl

/-! ## Values -/

mutual

/-- The strings and names of a value are ASCII. -/
def Json.Ascii : Json → Prop
  | .str s => isAscii s = true
  | .arr items => AsciiItems items
  | .obj fields => AsciiFields fields
  | _ => True

def AsciiItems : List Json → Prop
  | [] => True
  | v :: items => v.Ascii ∧ AsciiItems items

def AsciiFields : List (String × Json) → Prop
  | [] => True
  | (key, v) :: fields => isAscii key = true ∧ v.Ascii ∧ AsciiFields fields

end

/-- A finite number is written in ASCII. -/
theorem isAscii_number {x : JsNumber} (hx : x.Finite) : isAscii x.stringify = true := by
  obtain ⟨htext, -, hchars, -⟩ := finite_word hx
  rw [htext, isAscii_iff]
  intro c hc hunread
  have hword := isWordChar_unread hunread
  rw [hchars c hc] at hword
  cases hword

mutual

theorem isAscii_stringify (v : Json) (hv : v.Plain) (h : v.Ascii) : isAscii v.stringify = true := by
  match v with
  | .null => rfl
  | .bool true => rfl
  | .bool false => rfl
  | .num x => exact isAscii_number hv
  | .str s => exact isAscii_quote h
  | .arr items =>
    rw [Json.stringify, isAscii_append, isAscii_append,
      isAscii_intercalate rfl (isAscii_stringifyItems items hv h)]
    rfl
  | .obj fields =>
    rw [Json.stringify, isAscii_append, isAscii_append,
      isAscii_intercalate rfl (isAscii_stringifyFields fields hv.2 h)]
    rfl

theorem isAscii_stringifyItems (items : List Json) (hv : PlainItems items) (h : AsciiItems items) :
    ∀ t ∈ stringifyItems items, isAscii t = true := by
  match items with
  | [] => simp [stringifyItems]
  | v :: items =>
    rw [stringifyItems]
    exact List.forall_mem_cons.mpr
      ⟨isAscii_stringify v hv.1 h.1, isAscii_stringifyItems items hv.2 h.2⟩

theorem isAscii_stringifyFields (fields : List (String × Json)) (hv : PlainFields fields)
    (h : AsciiFields fields) : ∀ t ∈ stringifyFields fields, isAscii t = true := by
  match fields with
  | [] => simp [stringifyFields]
  | (key, v) :: fields =>
    rw [stringifyFields]
    refine List.forall_mem_cons.mpr ⟨?_, isAscii_stringifyFields fields hv.2 h.2.2⟩
    rw [isAscii_append, isAscii_append, isAscii_quote h.1, isAscii_stringify v hv.1 h.2.1]
    rfl

end

/-! ## Bytes -/

/-- However the bytes of an ASCII text are cut, the pieces are decoded to it. -/
theorem pieces_ascii {text : String} (htext : isAscii text = true) {pieces : List Bytes}
    (h : pieces.flatten = utf8Encode text) :
    String.ofList (pieces.flatMap (decodeFrom none)) = text := by
  refine (eq_of_textOutline htext ?_).symm
  rw [textOutline, textOutline, String.toList_ofList, outline_pieces, h]
  have hdecode := congrArg String.toList (utf8Decode_utf8Encode text)
  rw [utf8Decode, String.toList_ofList] at hdecode
  rw [hdecode]

end AccountAbstraction.Js
