import AccountAbstraction.Js.Text
import AccountAbstraction.Js.Number
import AccountAbstraction.Js.OrderedMap

/-!
# `JSON.parse`

The grammar of a JSON text as two machines that read from left to right: one
cuts the text into tokens, the other keeps the arrays and objects that are still
open on a stack. Neither needs a bound on the nesting. A name that occurs again
in an object replaces the value in its place.

* `parseJson_stringify`: a value that `JSON.stringify` wrote is read back, as long
  as its numbers are finite and the names of each of its objects are distinct.
-/

namespace AccountAbstraction.Js

/-! ## Tokens -/

inductive Token
  | openBrace
  | closeBrace
  | openBracket
  | closeBracket
  | comma
  | colon
  | text (s : String)
  /-- A number, `true`, `false` or `null`. -/
  | word (cs : List Char)

def punctuation? (c : Char) : Option Token :=
  match c with
  | '\x7b' => some .openBrace
  | '\x7d' => some .closeBrace
  | '[' => some .openBracket
  | ']' => some .closeBracket
  | ',' => some .comma
  | ':' => some .colon
  | _ => none

def isJsonSpace (c : Char) : Bool := c == ' ' || c == '\t' || c == '\n' || c == '\r'

/-- A character of a word. -/
def isWordChar (c : Char) : Bool := isNumberChar c || c.isLower

/-- The code unit after a backslash other than `u`. -/
def escape? (c : Char) : Option ℕ :=
  match c with
  | '"' => some 34
  | '\\' => some 92
  | '/' => some 47
  | 'b' => some 8
  | 'f' => some 12
  | 'n' => some 10
  | 'r' => some 13
  | 't' => some 9
  | _ => none

/-- Where the reader stands: between tokens, in a word or in a string, of which the
    code units are kept. In a `\u` escape, `left` more digits follow the next one. -/
inductive Lexer
  | between
  | word (cs : List Char)
  | string (units : List ℕ)
  | escape (units : List ℕ)
  | unicode (units : List ℕ) (left value : ℕ)

/-- The word that ends here. -/
def Lexer.pending : Lexer → List Token
  | .word cs => [.word cs]
  | _ => []

/-- A character outside a string. -/
def outside (s : Lexer) (c : Char) : Option (List Token × Lexer) :=
  if isJsonSpace c then some (s.pending, .between)
  else if c = '"' then some (s.pending, .string [])
  else if isWordChar c then
    match s with
    | .word cs => some ([], .word (cs ++ [c]))
    | _ => some ([], .word [c])
  else (punctuation? c).map fun t => (s.pending ++ [t], .between)

/-- The tokens that a character completes, and where the reader stands then. -/
def lexStep (s : Lexer) (c : Char) : Option (List Token × Lexer) :=
  match s with
  | .between => outside s c
  | .word _ => outside s c
  | .string units =>
    if c = '"' then some ([.text (String.ofList (utf16Decode units))], .between)
    else if c = '\\' then some ([], .escape units)
    else if c.toNat < 32 then none
    else some ([], .string (units ++ utf16Units c))
  | .escape units =>
    if c = 'u' then some ([], .unicode units 3 0)
    else (escape? c).map fun u => ([], .string (units ++ [u]))
  | .unicode units left value =>
    (hexDigit? c).map fun d =>
      match left with
      | 0 => ([], .string (units ++ [16 * value + d]))
      | left + 1 => ([], .unicode units left (16 * value + d))

/-- The tokens of a text. -/
def lex (s : Lexer) : List Char → Option (List Token)
  | [] =>
    match s with
    | .between => some []
    | .word cs => some [.word cs]
    | _ => none
  | c :: cs => (lexStep s c).bind fun (ts, s') => (lex s' cs).map (ts ++ ·)

/-! ## Values -/

/-- An array or object that is still open: the items before this one, or the fields
    before this one and its name. -/
inductive JsonFrame
  | arr (items : List Json)
  | obj (fields : List (String × Json)) (key : String)

/-- What may follow. -/
inductive JsonState
  | value (stack : List JsonFrame)
  /-- After `[`. -/
  | firstItem (stack : List JsonFrame)
  | afterItem (items : List Json) (stack : List JsonFrame)
  /-- After an opening brace. -/
  | firstKey (stack : List JsonFrame)
  | key (fields : List (String × Json)) (stack : List JsonFrame)
  | colon (fields : List (String × Json)) (key : String) (stack : List JsonFrame)
  | afterField (fields : List (String × Json)) (stack : List JsonFrame)
  | done (v : Json)

/-- Define a property of an object. Unlike the language, which puts the names that are array
    indices in front and in ascending order, this keeps all of them in the order of the text. -/
def setField (fields : List (String × Json)) (key : String) (v : Json) : List (String × Json) :=
  if (fields.lookup key).isSome then fields.map (OrderedMap.replaceEntry key v)
  else fields ++ [(key, v)]

/-- A value is complete. -/
def complete (v : Json) : List JsonFrame → JsonState
  | [] => .done v
  | .arr items :: stack => .afterItem (items ++ [v]) stack
  | .obj fields key :: stack => .afterField (setField fields key v) stack

/-- The value of a word. -/
def wordValue (cs : List Char) : Option Json :=
  if cs = ['t', 'r', 'u', 'e'] then some (.bool true)
  else if cs = ['f', 'a', 'l', 's', 'e'] then some (.bool false)
  else if cs = ['n', 'u', 'l', 'l'] then some .null
  else (number? cs).map .num

/-- A token where a value must stand. -/
def startValue (stack : List JsonFrame) : Token → Option JsonState
  | .text s => some (complete (.str s) stack)
  | .word cs => (wordValue cs).map fun v => complete v stack
  | .openBracket => some (.firstItem stack)
  | .openBrace => some (.firstKey stack)
  | _ => none

def parseStep : JsonState → Token → Option JsonState
  | .value stack, t => startValue stack t
  | .firstItem stack, .closeBracket => some (complete (.arr []) stack)
  | .firstItem stack, t => startValue (.arr [] :: stack) t
  | .afterItem items stack, .comma => some (.value (.arr items :: stack))
  | .afterItem items stack, .closeBracket => some (complete (.arr items) stack)
  | .firstKey stack, .closeBrace => some (complete (.obj []) stack)
  | .firstKey stack, .text key => some (.colon [] key stack)
  | .key fields stack, .text key => some (.colon fields key stack)
  | .colon fields key stack, .colon => some (.value (.obj fields key :: stack))
  | .afterField fields stack, .comma => some (.key fields stack)
  | .afterField fields stack, .closeBrace => some (complete (.obj fields) stack)
  | _, _ => none

/-- The value that the tokens spell. -/
def parseTokens (s : JsonState) : List Token → Option Json
  | [] =>
    match s with
    | .done v => some v
    | _ => none
  | t :: ts => (parseStep s t).bind fun s' => parseTokens s' ts

/-- `JSON.parse(text)`, or `none` where it throws. -/
def parseJson (text : String) : Option Json :=
  (lex .between text.toList).bind (parseTokens (.value []))

/-! ## The tokens of a value -/

mutual

/-- The tokens that `JSON.stringify` writes for a value. -/
def Json.tokens : Json → List Token
  | .null => [.word ['n', 'u', 'l', 'l']]
  | .bool true => [.word ['t', 'r', 'u', 'e']]
  | .bool false => [.word ['f', 'a', 'l', 's', 'e']]
  | .num x => [.word x.stringify.toList]
  | .str s => [.text s]
  | .arr items => .openBracket :: (itemTokens items ++ [.closeBracket])
  | .obj fields => .openBrace :: (fieldTokens fields ++ [.closeBrace])

def itemTokens : List Json → List Token
  | [] => []
  | [v] => v.tokens
  | v :: w :: items => v.tokens ++ .comma :: itemTokens (w :: items)

def fieldTokens : List (String × Json) → List Token
  | [] => []
  | [(key, v)] => .text key :: .colon :: v.tokens
  | (key, v) :: e :: fields => .text key :: .colon :: (v.tokens ++ .comma :: fieldTokens (e :: fields))

end

mutual

/-- A value whose numbers are finite and whose objects have distinct names. -/
def Json.Plain : Json → Prop
  | .num x => x.Finite
  | .arr items => PlainItems items
  | .obj fields => (fields.map Prod.fst).Nodup ∧ PlainFields fields
  | _ => True

def PlainItems : List Json → Prop
  | [] => True
  | v :: items => v.Plain ∧ PlainItems items

def PlainFields : List (String × Json) → Prop
  | [] => True
  | (_, v) :: fields => v.Plain ∧ PlainFields fields

end

/-! ## Cutting a written value into tokens -/

/-- The reader of `cs` is at the end of a word. -/
def EndsWord (cs : List Char) : Prop := ∀ c ∈ cs.head?, isWordChar c = false

theorem lex_cons {s : Lexer} {c : Char} (ts : List Token) (s' : Lexer)
    (h : lexStep s c = some (ts, s')) (cs : List Char) : lex s (c :: cs) = (lex s' cs).map (ts ++ ·) := by
  rw [lex, h, Option.bind_some]

theorem lex_cons_nil {s : Lexer} {c : Char} (s' : Lexer) (h : lexStep s c = some ([], s'))
    (cs : List Char) :
    lex s (c :: cs) = lex s' cs := by
  rw [lex_cons [] s' h]
  simp

theorem isWordChar_ne {c : Char} (h : isWordChar c = true) : isJsonSpace c = false ∧ c ≠ '"' := by
  constructor
  · by_contra hspace
    simp only [Bool.not_eq_false, isJsonSpace, Bool.or_eq_true, beq_iff_eq] at hspace
    rcases hspace with ((rfl | rfl) | rfl) | rfl <;> cases h
  · rintro rfl
    cases h

theorem lex_word {cs : List Char} (acc : List Char) (h : ∀ c ∈ cs, isWordChar c = true)
    (rest : List Char) : lex (.word acc) (cs ++ rest) = lex (.word (acc ++ cs)) rest := by
  induction cs generalizing acc with
  | nil => simp
  | cons c cs ih =>
    have hc := h c List.mem_cons_self
    obtain ⟨hspace, hquote⟩ := isWordChar_ne hc
    have hstep : lexStep (.word acc) c = some ([], .word (acc ++ [c])) := by
      simp [lexStep, outside, hspace, hquote, hc]
    rw [List.cons_append, lex_cons_nil _ hstep, ih _ fun d hd => h d (List.mem_cons_of_mem _ hd)]
    simp

/-- A word that is followed by something else is a token. -/
theorem lex_endWord {rest : List Char} (h : EndsWord rest) (cs : List Char) :
    lex (.word cs) rest = (lex .between rest).map (.word cs :: ·) := by
  cases rest with
  | nil => rfl
  | cons c rest =>
    have hc : isWordChar c = false := h c rfl
    have hstep : lexStep (.word cs) c =
        (lexStep .between c).map fun p => (.word cs :: p.1, p.2) := by
      simp only [lexStep, outside, Lexer.pending, hc, Bool.false_eq_true, if_false]
      split_ifs
      · rfl
      · rfl
      · cases punctuation? c <;> rfl
    rw [lex, lex, hstep, Option.bind_map, Option.map_bind]
    congr 1
    funext p
    simp [Function.comp_def]

theorem lex_wordText {cs : List Char} (hne : cs ≠ []) (h : ∀ c ∈ cs, isWordChar c = true)
    {rest : List Char} (hrest : EndsWord rest) :
    lex .between (cs ++ rest) = (lex .between rest).map (.word cs :: ·) := by
  obtain ⟨c, cs, rfl⟩ := List.exists_cons_of_ne_nil hne
  have hc := h c List.mem_cons_self
  obtain ⟨hspace, hquote⟩ := isWordChar_ne hc
  have hstep : lexStep .between c = some ([], .word [c]) := by
    simp [lexStep, outside, hspace, hquote, hc]
  rw [List.cons_append, lex_cons_nil _ hstep,
    lex_word [c] (fun d hd => h d (List.mem_cons_of_mem _ hd)), lex_endWord hrest]
  rfl

/-- An escape with two hex digits. -/
theorem lex_unicode {n : ℕ} (h : n < 256) (units : List ℕ) (rest : List Char) :
    lex (.string units)
        ('\\' :: 'u' :: '0' :: '0' :: (n / 16).digitChar :: (n % 16).digitChar :: rest) =
      lex (.string (units ++ [n])) rest := by
  have hhigh := hexDigit?_digitChar (show n / 16 < 16 by omega)
  have hlow := hexDigit?_digitChar (show n % 16 < 16 by omega)
  have hzero : hexDigit? '0' = some 0 := rfl
  rw [lex_cons_nil (.escape units) rfl, lex_cons_nil (.unicode units 3 0) rfl,
    lex_cons_nil (.unicode units 2 0) (by simp [lexStep, hzero]),
    lex_cons_nil (.unicode units 1 0) (by simp [lexStep, hzero]),
    lex_cons_nil (.unicode units 0 (n / 16)) (by simp [lexStep, hhigh]),
    lex_cons_nil (.string (units ++ [n])) (by simp [lexStep, hlow, Nat.div_add_mod])]

/-- An escape with one character. -/
theorem lex_escape {e : Char} {u : ℕ} (h : escape? e = some u) (units : List ℕ) (rest : List Char) :
    lex (.string units) ('\\' :: e :: rest) = lex (.string (units ++ [u])) rest := by
  have hu : e ≠ 'u' := by
    rintro rfl
    cases h
  rw [lex_cons_nil (.escape units) rfl,
    lex_cons_nil (.string (units ++ [u])) (by simp [lexStep, hu, h])]

/-- A character is written with a short escape, as four hex digits or as itself. -/
theorem toList_escapeChar (c : Char) :
    (∃ e, escape? e = some c.toNat ∧ (escapeChar c).toList = ['\\', e]) ∨
    (c.toNat < 32 ∧ (escapeChar c).toList =
      ['\\', 'u', '0', '0', (c.toNat / 16).digitChar, (c.toNat % 16).digitChar]) ∨
    (¬c.toNat < 32 ∧ c ≠ '"' ∧ c ≠ '\\' ∧ (escapeChar c).toList = [c]) := by
  unfold escapeChar
  split
  case h_8 _ _ _ _ _ h34 h92 =>
    split_ifs with h32
    · refine Or.inr (Or.inl ⟨h32, ?_⟩)
      rw [String.toList_append, String.toList_ofList, String.toList_ofList]
      rfl
    · have hquote : c ≠ '"' := by
        rintro rfl
        exact h34 rfl
      have hbackslash : c ≠ '\\' := by
        rintro rfl
        exact h92 rfl
      exact Or.inr (Or.inr ⟨h32, hquote, hbackslash, String.toList_singleton c⟩)
  case h_1 h => exact Or.inl ⟨'b', by rw [h]; rfl, by decide +kernel⟩
  case h_2 h => exact Or.inl ⟨'t', by rw [h]; rfl, by decide +kernel⟩
  case h_3 h => exact Or.inl ⟨'n', by rw [h]; rfl, by decide +kernel⟩
  case h_4 h => exact Or.inl ⟨'f', by rw [h]; rfl, by decide +kernel⟩
  case h_5 h => exact Or.inl ⟨'r', by rw [h]; rfl, by decide +kernel⟩
  case h_6 h => exact Or.inl ⟨'"', by rw [h]; rfl, by decide +kernel⟩
  case h_7 h => exact Or.inl ⟨'\\', by rw [h]; rfl, by decide +kernel⟩

theorem escape?_lt {e : Char} {u : ℕ} (h : escape? e = some u) : u < 128 := by
  unfold escape? at h
  split at h <;> cases h <;> decide

theorem lex_escapeChar (c : Char) (units : List ℕ) (rest : List Char) :
    lex (.string units) ((escapeChar c).toList ++ rest) =
      lex (.string (units ++ utf16Units c)) rest := by
  have hsmall : c.toNat < 128 → utf16Units c = [c.toNat] := fun h => if_pos (by omega)
  rcases toList_escapeChar c with ⟨e, he, htext⟩ | ⟨h32, htext⟩ | ⟨h32, hquote, hbackslash, htext⟩
  · rw [htext, hsmall (escape?_lt he)]
    exact lex_escape he units rest
  · rw [htext, hsmall (by omega)]
    exact lex_unicode (by omega) units rest
  · have hstep : lexStep (.string units) c = some ([], .string (units ++ utf16Units c)) := by
      simp [lexStep, hquote, hbackslash, h32]
    rw [htext, List.singleton_append, lex_cons_nil _ hstep]

theorem lex_quote (s : String) (rest : List Char) :
    lex .between ((quote s).toList ++ rest) = (lex .between rest).map (.text s :: ·) := by
  have hbody : ∀ (cs : List Char) (units : List ℕ),
      lex (.string units) (cs.flatMap (fun c => (escapeChar c).toList) ++ '"' :: rest) =
        lex (.string (units ++ cs.flatMap utf16Units)) ('"' :: rest) := by
    intro cs
    induction cs with
    | nil => simp
    | cons c cs ih =>
      intro units
      rw [List.flatMap_cons, List.append_assoc, lex_escapeChar, ih]
      simp
  have hopen : lexStep .between '"' = some ([], .string []) := rfl
  have hclose : lexStep (.string (s.toList.flatMap utf16Units)) '"' = some ([.text s], .between) := by
    simp [lexStep]
  have htext : (quote s).toList = '"' :: (s.toList.flatMap (fun c => (escapeChar c).toList) ++ ['"']) := by
    simp [quote, String.toList_join, List.flatMap_map]
  rw [htext, List.cons_append, lex_cons_nil _ hopen, List.append_assoc, List.cons_append,
    List.nil_append, hbody, List.nil_append, lex_cons _ _ hclose]
  rfl

/-- A finite number is one word, and not one of the names. -/
theorem finite_word {x : JsNumber} (h : x.Finite) :
    x.stringify = x.text ∧ x.text.toList ≠ [] ∧ (∀ c ∈ x.text.toList, isWordChar c = true) ∧
      wordValue x.text.toList = some (.num x) := by
  obtain ⟨l, hl, -⟩ := Option.map_eq_some_iff.mp (show number? x.text.toList = some x from h)
  have hchars : ∀ c ∈ x.text.toList, isNumberChar c = true := fun c hc => decimalLiteral?_chars hl hc
  have hne : x.text.toList ≠ [] := by
    intro hnil
    rw [hnil] at hl
    cases hl
  have hname : ∀ cs : List Char, (∃ c ∈ cs, isNumberChar c = false) → x.text.toList ≠ cs := by
    rintro cs ⟨c, hc, hword⟩ rfl
    rw [hchars c hc] at hword
    cases hword
  refine ⟨?_, hne, fun c hc => by simp [isWordChar, hchars c hc], ?_⟩
  · unfold JsNumber.stringify
    split
    · rename_i text
      have hinfinite : ¬(text = "Infinity" ∨ text = "-Infinity") := by
        rintro (rfl | rfl)
        · exact hname _ ⟨'I', by decide +kernel, rfl⟩ rfl
        · exact hname _ ⟨'I', by decide +kernel, rfl⟩ rfl
      rw [if_neg hinfinite]
      rfl
    · rfl
  · rw [wordValue, if_neg (hname _ ⟨'t', by simp, rfl⟩), if_neg (hname _ ⟨'f', by simp, rfl⟩),
      if_neg (hname _ ⟨'n', by simp, rfl⟩), show number? x.text.toList = some x from h]
    rfl

theorem endsWord_cons {c : Char} (h : isWordChar c = false) (cs : List Char) : EndsWord (c :: cs) := by
  intro d hd
  cases hd
  exact h

theorem toList_stringify_arr (items : List Json) :
    (Json.arr items).stringify.toList =
      '[' :: ([','].intercalate ((stringifyItems items).map String.toList) ++ [']']) := by
  simp [Json.stringify]

theorem toList_stringify_obj (fields : List (String × Json)) :
    (Json.obj fields).stringify.toList =
      '\x7b' :: ([','].intercalate ((stringifyFields fields).map String.toList) ++ ['\x7d']) := by
  simp [Json.stringify]

/-- A field is cut where its value is. -/
theorem lex_field {v : Json} {rest : List Char}
    (hv : lex .between (v.stringify.toList ++ rest) = (lex .between rest).map (v.tokens ++ ·))
    (key : String) :
    lex .between ((quote key ++ ":" ++ v.stringify).toList ++ rest) =
      (lex .between rest).map (.text key :: .colon :: v.tokens ++ ·) := by
  have hcolon : ":".toList = [':'] := by decide +kernel
  rw [String.toList_append, String.toList_append, hcolon, List.append_assoc, List.append_assoc,
    lex_quote, List.singleton_append, lex_cons [.colon] .between rfl, hv]
  cases lex .between rest <;> rfl

/-- Two results of cutting a text, one after the other. -/
theorem map_append {ts us : List Token} {r : Option (List Token)} :
    (r.map (us ++ ·)).map (ts ++ ·) = r.map ((ts ++ us) ++ ·) := by
  cases r <;> simp

mutual

theorem lex_stringify (v : Json) (hv : v.Plain) {rest : List Char} (hrest : EndsWord rest) :
    lex .between (v.stringify.toList ++ rest) = (lex .between rest).map (v.tokens ++ ·) := by
  match v with
  | .null => exact lex_wordText (List.cons_ne_nil _ ['u', 'l', 'l']) (List.all_eq_true.mp rfl) hrest
  | .bool true => exact lex_wordText (List.cons_ne_nil _ ['r', 'u', 'e']) (List.all_eq_true.mp rfl) hrest
  | .bool false =>
    exact lex_wordText (List.cons_ne_nil _ ['a', 'l', 's', 'e']) (List.all_eq_true.mp rfl) hrest
  | .num x =>
    obtain ⟨htext, hne, hchars, -⟩ := finite_word hv
    rw [Json.stringify, Json.tokens, htext]
    exact lex_wordText hne hchars hrest
  | .str s => exact lex_quote s rest
  | .arr items =>
    rw [toList_stringify_arr, List.cons_append, List.append_assoc, List.singleton_append, Json.tokens,
      lex_cons [.openBracket] .between rfl,
      lex_items items hv (endsWord_cons (c := ']') rfl rest),
      lex_cons [.closeBracket] .between rfl, map_append, map_append]
    rfl
  | .obj fields =>
    rw [toList_stringify_obj, List.cons_append, List.append_assoc, List.singleton_append, Json.tokens,
      lex_cons [.openBrace] .between rfl,
      lex_fields fields hv.2 (endsWord_cons (c := '\x7d') rfl rest),
      lex_cons [.closeBrace] .between rfl, map_append, map_append]
    rfl

theorem lex_items (items : List Json) (hv : PlainItems items) {rest : List Char}
    (hrest : EndsWord rest) :
    lex .between ([','].intercalate ((stringifyItems items).map String.toList) ++ rest) =
      (lex .between rest).map (itemTokens items ++ ·) := by
  match items with
  | [] => simp [stringifyItems, itemTokens, List.intercalate]
  | [v] =>
    simp only [stringifyItems, itemTokens, List.map_cons, List.map_nil, List.intercalate_singleton]
    exact lex_stringify v hv.1 hrest
  | v :: w :: items =>
    have htail := lex_items (w :: items) hv.2 hrest
    simp only [stringifyItems, itemTokens, List.map_cons] at htail ⊢
    rw [List.intercalate_cons_cons, List.append_assoc, List.append_assoc, List.singleton_append,
      lex_stringify v hv.1 (endsWord_cons (c := ',') rfl _),
      lex_cons [.comma] .between rfl, htail, map_append, map_append]
    simp

theorem lex_fields (fields : List (String × Json)) (hv : PlainFields fields) {rest : List Char}
    (hrest : EndsWord rest) :
    lex .between ([','].intercalate ((stringifyFields fields).map String.toList) ++ rest) =
      (lex .between rest).map (fieldTokens fields ++ ·) := by
  match fields with
  | [] => simp [stringifyFields, fieldTokens, List.intercalate]
  | [(key, v)] =>
    simp only [stringifyFields, fieldTokens, List.map_cons, List.map_nil, List.intercalate_singleton]
    exact lex_field (lex_stringify v hv.1 hrest) key
  | (key, v) :: (key', w) :: fields =>
    have htail := lex_fields ((key', w) :: fields) hv.2 hrest
    simp only [stringifyFields, fieldTokens, List.map_cons] at htail ⊢
    rw [List.intercalate_cons_cons, List.append_assoc, List.append_assoc, List.singleton_append,
      lex_field (lex_stringify v hv.1 (endsWord_cons (c := ',') rfl _)),
      lex_cons [.comma] .between rfl, htail, map_append, map_append]
    simp

end

/-! ## Reading the tokens of a value -/

/-- No value starts with a closing bracket. -/
theorem tokens_cons (v : Json) : ∃ t ts, v.tokens = t :: ts ∧ t ≠ .closeBracket := by
  cases v with
  | bool b => cases b <;> exact ⟨_, _, rfl, by simp⟩
  | _ => exact ⟨_, _, rfl, by simp⟩

/-- The first item of an array stands where a value must stand. -/
theorem parseTokens_firstItem (v : Json) (stack : List JsonFrame) (ts : List Token) :
    parseTokens (.firstItem stack) (v.tokens ++ ts) =
      parseTokens (.value (.arr [] :: stack)) (v.tokens ++ ts) := by
  obtain ⟨t, us, htokens, ht⟩ := tokens_cons v
  have hstep : parseStep (.firstItem stack) t = parseStep (.value (.arr [] :: stack)) t := by
    cases t <;> first | rfl | exact absurd rfl ht
  rw [htokens, List.cons_append, parseTokens, parseTokens, hstep]

/-- A property under a new name comes last. -/
theorem setField_of_not_mem {fields : List (String × Json)} {key : String}
    (h : key ∉ fields.map Prod.fst) (v : Json) : setField fields key v = fields ++ [(key, v)] := by
  have hnone : fields.lookup key = none := by
    rw [List.lookup_eq_none_iff]
    intro e he
    have hne : key ≠ e.1 := by
      rintro rfl
      exact h (List.mem_map_of_mem he)
    simpa using hne
  rw [setField, hnone]
  rfl

theorem not_mem_before {before fields : List (String × Json)} {key : String} {v : Json}
    (h : ((before ++ (key, v) :: fields).map Prod.fst).Nodup) : key ∉ before.map Prod.fst := by
  rw [List.map_append, List.map_cons, List.nodup_append] at h
  intro hmem
  exact h.2.2 key hmem key List.mem_cons_self rfl

mutual

theorem parseTokens_tokens (v : Json) (hv : v.Plain) (stack : List JsonFrame) (ts : List Token) :
    parseTokens (.value stack) (v.tokens ++ ts) = parseTokens (complete v stack) ts := by
  match v with
  | .null => rfl
  | .bool true => rfl
  | .bool false => rfl
  | .num x =>
    obtain ⟨htext, -, -, hword⟩ := finite_word hv
    rw [Json.tokens, htext, List.singleton_append, parseTokens, parseStep, startValue, hword]
    rfl
  | .str s => rfl
  | .arr [] => rfl
  | .arr (v :: items) =>
    have hitems := parseTokens_items (v :: items) (List.cons_ne_nil _ _) hv [] stack ts
    rw [Json.tokens, List.cons_append, List.append_assoc, List.singleton_append]
    show parseTokens (.firstItem stack) (itemTokens (v :: items) ++ .closeBracket :: ts) = _
    have hfirst : ∃ us, itemTokens (v :: items) = v.tokens ++ us := by
      cases items with
      | nil => exact ⟨[], by rw [itemTokens, List.append_nil]⟩
      | cons w items => exact ⟨_, by rw [itemTokens]⟩
    obtain ⟨us, hus⟩ := hfirst
    rw [hus, List.append_assoc] at hitems ⊢
    rw [parseTokens_firstItem, hitems, List.nil_append]
  | .obj [] => rfl
  | .obj ((key, v) :: fields) =>
    have hfields := parseTokens_fields ((key, v) :: fields) (List.cons_ne_nil _ _) hv.2 []
      hv.1 stack ts
    have hfirst : ∃ us, fieldTokens ((key, v) :: fields) = .text key :: us := by
      cases fields with
      | nil => exact ⟨_, by rw [fieldTokens]⟩
      | cons e fields => exact ⟨_, by rw [fieldTokens]⟩
    obtain ⟨us, hus⟩ := hfirst
    rw [Json.tokens, List.cons_append, List.append_assoc, List.singleton_append]
    show parseTokens (.firstKey stack) (fieldTokens ((key, v) :: fields) ++ .closeBrace :: ts) = _
    rw [hus] at hfields ⊢
    exact hfields

theorem parseTokens_items (items : List Json) (hne : items ≠ []) (hv : PlainItems items)
    (before : List Json) (stack : List JsonFrame) (ts : List Token) :
    parseTokens (.value (.arr before :: stack)) (itemTokens items ++ .closeBracket :: ts) =
      parseTokens (complete (.arr (before ++ items)) stack) ts := by
  match items with
  | [] => exact absurd rfl hne
  | [v] =>
    rw [itemTokens, parseTokens_tokens v hv.1]
    rfl
  | v :: w :: items =>
    have htail := parseTokens_items (w :: items) (List.cons_ne_nil _ _) hv.2 (before ++ [v]) stack ts
    rw [List.append_assoc, List.singleton_append] at htail
    rw [itemTokens, List.append_assoc, parseTokens_tokens v hv.1]
    exact htail

theorem parseTokens_fields (fields : List (String × Json)) (hne : fields ≠ [])
    (hv : PlainFields fields) (before : List (String × Json))
    (hnodup : ((before ++ fields).map Prod.fst).Nodup) (stack : List JsonFrame) (ts : List Token) :
    parseTokens (.key before stack) (fieldTokens fields ++ .closeBrace :: ts) =
      parseTokens (complete (.obj (before ++ fields)) stack) ts := by
  match fields with
  | [] => exact absurd rfl hne
  | [(key, v)] =>
    show parseTokens (.value (.obj before key :: stack)) (v.tokens ++ .closeBrace :: ts) = _
    rw [parseTokens_tokens v hv.1, complete, setField_of_not_mem (not_mem_before hnodup)]
    rfl
  | (key, v) :: (key', w) :: fields =>
    have htail := parseTokens_fields ((key', w) :: fields) (List.cons_ne_nil _ _) hv.2
      (before ++ [(key, v)]) (by simpa using hnodup) stack ts
    rw [List.append_assoc, List.singleton_append] at htail
    show parseTokens (.value (.obj before key :: stack))
      (v.tokens ++ .comma :: fieldTokens ((key', w) :: fields) ++ .closeBrace :: ts) = _
    rw [List.append_assoc, parseTokens_tokens v hv.1, complete,
      setField_of_not_mem (not_mem_before hnodup)]
    exact htail

end

theorem parseJson_stringify {v : Json} (hv : v.Plain) : parseJson v.stringify = some v := by
  have hend : EndsWord [] := by simp [EndsWord]
  have hlex := lex_stringify v hv hend
  have hparse := parseTokens_tokens v hv [] []
  rw [List.append_nil] at hlex hparse
  rw [parseJson, hlex]
  simpa [lex, complete, parseTokens] using hparse

example : (parseJson "\x7b\"a\": [1, -2.50e1, \"\\ud83d\\ude00\"], \"b\": true, \"a\": [2.50]\x7d").map
    Json.stringify = some "\x7b\"a\":[2.5],\"b\":true\x7d" := by decide +kernel

end AccountAbstraction.Js
