import AccountAbstraction.Js.BigInt
import AccountAbstraction.Js.Legible

/-!
# The shape of a value

What two readers of the same bytes agree on: a value without the fields whose names are not
ASCII, with the outlines of its strings.

* `parseJson_similar`: texts with the same outline are both parsed, to values of the same
  shape, or neither is.
* `field_similar`: properties with an ASCII name are read alike.
* `eq_str_of_shape`, `bigIntOfText_similar`: where the two readers have the same value.
-/

namespace AccountAbstraction.Js

/-! ## ASCII -/

/-- All characters of a text are ASCII. -/
def isAscii (s : String) : Bool := s.toList.all fun c => decide (c.toNat < 0x80)

theorem isAscii_iff {s : String} : isAscii s = true ↔ ∀ c ∈ s.toList, charKey c ≠ none := by
  simp [isAscii, charKey, asciiKey_eq_none]

/-- An ASCII text is the only one of its outline. -/
theorem eq_of_textOutline {s s' : String} (hs : isAscii s = true) (h : textOutline s = textOutline s') :
    s = s' :=
  String.toList_injective (eq_of_outline charKey_inj (isAscii_iff.mp hs) h)

theorem isAscii_congr {s s' : String} (h : textOutline s = textOutline s') : isAscii s = isAscii s' := by
  rw [Bool.eq_iff_iff]
  constructor
  · intro hs
    rwa [← eq_of_textOutline hs h]
  · intro hs
    rwa [← eq_of_textOutline hs h.symm]

/-! ## Shapes -/

inductive Shape
  | null
  | bool (b : Bool)
  | num (x : JsNumber)
  | str (text : List (Option ℕ))
  | arr (items : List Shape)
  | obj (fields : List (String × Shape))

mutual

def Json.shape : Json → Shape
  | .null => .null
  | .bool b => .bool b
  | .num x => .num x
  | .str s => .str (textOutline s)
  | .arr items => .arr (itemShapes items)
  | .obj fields => .obj (fieldShapes fields)

def itemShapes : List Json → List Shape
  | [] => []
  | v :: items => v.shape :: itemShapes items

/-- Two names that are not ASCII may be one name to the other reader. -/
def fieldShapes : List (String × Json) → List (String × Shape)
  | [] => []
  | (key, v) :: fields => if isAscii key then (key, v.shape) :: fieldShapes fields else fieldShapes fields

end

theorem itemShapes_append (items items' : List Json) :
    itemShapes (items ++ items') = itemShapes items ++ itemShapes items' := by
  induction items with
  | nil => rw [itemShapes]; rfl
  | cons v items ih => rw [List.cons_append, itemShapes, itemShapes, ih, List.cons_append]

theorem fieldShapes_append (fields fields' : List (String × Json)) :
    fieldShapes (fields ++ fields') = fieldShapes fields ++ fieldShapes fields' := by
  induction fields with
  | nil => rw [fieldShapes]; rfl
  | cons field fields ih =>
    obtain ⟨key, v⟩ := field
    rw [List.cons_append, fieldShapes, fieldShapes, ih]
    split_ifs <;> rfl

/-! ## Fields -/

theorem lookup_fieldShapes {key : String} (hkey : isAscii key = true) (fields : List (String × Json)) :
    (fieldShapes fields).lookup key = (fields.lookup key).map Json.shape := by
  induction fields with
  | nil => rw [fieldShapes]; rfl
  | cons field fields ih =>
    obtain ⟨name, v⟩ := field
    rw [fieldShapes, List.lookup_cons]
    by_cases h : key = name
    · subst h
      simp [hkey]
    · have hbeq : (key == name) = false := beq_eq_false_iff_ne.mpr h
      rw [hbeq]
      split_ifs
      · rw [List.lookup_cons, hbeq, ih]
      · rw [ih]

/-- A new value for a name that is not ASCII leaves the other fields. -/
theorem fieldShapes_replace {key : String} (v : Json) (fields : List (String × Json)) :
    fieldShapes (fields.map (OrderedMap.replaceEntry key v)) =
      if isAscii key then (fieldShapes fields).map (OrderedMap.replaceEntry key v.shape)
      else fieldShapes fields := by
  induction fields with
  | nil => simp [fieldShapes]
  | cons field fields ih =>
    obtain ⟨name, w⟩ := field
    rw [List.map_cons, OrderedMap.replaceEntry]
    by_cases h : name = key
    · subst h
      rw [if_pos rfl, fieldShapes, fieldShapes, ih]
      split_ifs <;> simp [OrderedMap.replaceEntry]
    · rw [if_neg h, fieldShapes, fieldShapes, ih]
      split_ifs <;> simp [OrderedMap.replaceEntry, h]

/-- A property of an object is defined for its shape. -/
def setShape (fields : List (String × Shape)) (key : String) (v : Shape) : List (String × Shape) :=
  if isAscii key then
    if (fields.lookup key).isSome then fields.map (OrderedMap.replaceEntry key v)
    else fields ++ [(key, v)]
  else fields

theorem fieldShapes_setField (fields : List (String × Json)) (key : String) (v : Json) :
    fieldShapes (setField fields key v) = setShape (fieldShapes fields) key v.shape := by
  unfold setField setShape
  by_cases hkey : isAscii key = true
  · rw [if_pos hkey, lookup_fieldShapes hkey, Option.isSome_map]
    split_ifs
    · rw [fieldShapes_replace, if_pos hkey]
    · simp [fieldShapes_append, fieldShapes, hkey]
  · rw [if_neg hkey]
    split_ifs
    · rw [fieldShapes_replace, if_neg hkey]
    · simp [fieldShapes_append, fieldShapes, hkey]

theorem setField_similar {fields fields' : List (String × Json)} {key key' : String} {v v' : Json}
    (hfields : fieldShapes fields = fieldShapes fields') (hkey : textOutline key = textOutline key')
    (hv : v.shape = v'.shape) :
    fieldShapes (setField fields key v) = fieldShapes (setField fields' key' v') := by
  rw [fieldShapes_setField, fieldShapes_setField, hfields, hv]
  by_cases h : isAscii key = true
  · rw [eq_of_textOutline h hkey]
  · have h' : ¬isAscii key' = true := isAscii_congr hkey ▸ h
    rw [setShape, setShape, if_neg h, if_neg h']

/-! ## Parsing -/

inductive JsonFrame.Similar : JsonFrame → JsonFrame → Prop
  | arr {items items' : List Json} (hitems : itemShapes items = itemShapes items') :
      Similar (.arr items) (.arr items')
  | obj {fields fields' : List (String × Json)} {key key' : String}
      (hfields : fieldShapes fields = fieldShapes fields') (hkey : textOutline key = textOutline key') :
      Similar (.obj fields key) (.obj fields' key')

/-- What is open has the same shape. -/
abbrev SimilarStack : List JsonFrame → List JsonFrame → Prop := List.Forall₂ JsonFrame.Similar

inductive JsonState.Similar : JsonState → JsonState → Prop
  | value {stack stack' : List JsonFrame} (h : SimilarStack stack stack') :
      Similar (.value stack) (.value stack')
  | firstItem {stack stack' : List JsonFrame} (h : SimilarStack stack stack') :
      Similar (.firstItem stack) (.firstItem stack')
  | afterItem {items items' : List Json} {stack stack' : List JsonFrame}
      (hitems : itemShapes items = itemShapes items') (h : SimilarStack stack stack') :
      Similar (.afterItem items stack) (.afterItem items' stack')
  | firstKey {stack stack' : List JsonFrame} (h : SimilarStack stack stack') :
      Similar (.firstKey stack) (.firstKey stack')
  | key {fields fields' : List (String × Json)} {stack stack' : List JsonFrame}
      (hfields : fieldShapes fields = fieldShapes fields') (h : SimilarStack stack stack') :
      Similar (.key fields stack) (.key fields' stack')
  | colon {fields fields' : List (String × Json)} {key key' : String} {stack stack' : List JsonFrame}
      (hfields : fieldShapes fields = fieldShapes fields') (hkey : textOutline key = textOutline key')
      (h : SimilarStack stack stack') : Similar (.colon fields key stack) (.colon fields' key' stack')
  | afterField {fields fields' : List (String × Json)} {stack stack' : List JsonFrame}
      (hfields : fieldShapes fields = fieldShapes fields') (h : SimilarStack stack stack') :
      Similar (.afterField fields stack) (.afterField fields' stack')
  | done {v v' : Json} (h : v.shape = v'.shape) : Similar (.done v) (.done v')

theorem complete_similar {v v' : Json} {stack stack' : List JsonFrame} (hv : v.shape = v'.shape)
    (h : SimilarStack stack stack') : (complete v stack).Similar (complete v' stack') := by
  cases h with
  | nil => exact .done hv
  | cons hframe hrest =>
    cases hframe with
    | arr hitems =>
      refine .afterItem ?_ hrest
      rw [itemShapes_append, itemShapes_append, hitems, itemShapes, itemShapes, hv]
      rfl
    | obj hfields hkey => exact .afterField (setField_similar hfields hkey hv) hrest

theorem startValue_similar {stack stack' : List JsonFrame} (h : SimilarStack stack stack') {t t' : Token}
    (ht : Token.Similar t t') :
    Option.Rel JsonState.Similar (startValue stack t) (startValue stack' t') := by
  cases ht with
  | text htext => exact .some (complete_similar (by rw [Json.shape, Json.shape, htext]) h)
  | same t =>
    cases t with
    | text s => exact .some (complete_similar rfl h)
    | word cs =>
      simp only [startValue]
      cases wordValue cs with
      | none => exact .none
      | some v => exact .some (complete_similar rfl h)
    | openBracket => exact .some (.firstItem h)
    | openBrace => exact .some (.firstKey h)
    | _ => exact .none

/-- Similar tokens keep two parsers at the same place. -/
theorem parseStep_similar {s s' : JsonState} (hs : s.Similar s') {t t' : Token} (ht : Token.Similar t t') :
    Option.Rel JsonState.Similar (parseStep s t) (parseStep s' t') := by
  cases hs with
  | value h => exact startValue_similar h ht
  | firstItem h =>
    have hstart := startValue_similar (.cons (.arr (rfl : itemShapes [] = itemShapes [])) h) ht
    cases ht with
    | text _ => exact hstart
    | same t =>
      cases t with
      | closeBracket => exact .some (complete_similar rfl h)
      | _ => exact hstart
  | afterItem hitems h =>
    cases ht with
    | text _ => exact .none
    | same t =>
      cases t with
      | comma => exact .some (.value (.cons (.arr hitems) h))
      | closeBracket => exact .some (complete_similar (by rw [Json.shape, Json.shape, hitems]) h)
      | _ => exact .none
  | firstKey h =>
    cases ht with
    | text htext => exact .some (.colon rfl htext h)
    | same t =>
      cases t with
      | closeBrace => exact .some (complete_similar rfl h)
      | text key => exact .some (.colon rfl rfl h)
      | _ => exact .none
  | key hfields h =>
    cases ht with
    | text htext => exact .some (.colon hfields htext h)
    | same t =>
      cases t with
      | text key => exact .some (.colon hfields rfl h)
      | _ => exact .none
  | colon hfields hkey h =>
    cases ht with
    | text _ => exact .none
    | same t =>
      cases t with
      | colon => exact .some (.value (.cons (.obj hfields hkey) h))
      | _ => exact .none
  | afterField hfields h =>
    cases ht with
    | text _ => exact .none
    | same t =>
      cases t with
      | comma => exact .some (.key hfields h)
      | closeBrace => exact .some (complete_similar (by rw [Json.shape, Json.shape, hfields]) h)
      | _ => exact .none
  | done h =>
    cases ht with
    | text _ => exact .none
    | same t => cases t <;> exact .none

theorem parseTokens_similar {ts ts' : List Token} (hts : List.Forall₂ Token.Similar ts ts') :
    ∀ {s s' : JsonState}, s.Similar s' →
      (parseTokens s ts).map Json.shape = (parseTokens s' ts').map Json.shape := by
  induction hts with
  | nil =>
    intro s s' hs
    cases hs with
    | done h => exact congrArg some h
    | _ => rfl
  | cons ht _ ih =>
    intro s s' hs
    rw [parseTokens, parseTokens]
    exact map_bind_eq (parseStep_similar hs ht) fun _ _ hnext => ih hnext

/-- Texts of the same outline are parsed to values of the same shape, or neither is parsed. -/
theorem parseJson_similar {text text' : String} (h : textOutline text = textOutline text') :
    (parseJson text).map Json.shape = (parseJson text').map Json.shape := by
  unfold parseJson
  exact map_bind_eq (lex_similar (blurred_of_outline h) .between) fun _ _ hts =>
    parseTokens_similar hts (.value .nil)

/-! ## Reading a value -/

/-- `v.key` on shapes. -/
def Shape.field (v : Shape) (key : String) : Option Shape :=
  match v with
  | .obj fields => fields.lookup key
  | _ => none

theorem field_shape {key : String} (hkey : isAscii key = true) (v : Json) :
    (v.field key).map Json.shape = v.shape.field key := by
  cases v with
  | obj fields => rw [Json.field, Json.shape, Shape.field, lookup_fieldShapes hkey]
  | _ => rfl

/-- A property with an ASCII name is read alike from values of the same shape. -/
theorem field_similar {v v' : Json} (h : v.shape = v'.shape) {key : String} (hkey : isAscii key = true) :
    (v.field key).map Json.shape = (v'.field key).map Json.shape := by
  rw [field_shape hkey, field_shape hkey, h]

/-- An ASCII string is the only value of its shape. -/
theorem eq_str_of_shape {s : String} (hs : isAscii s = true) {v : Json}
    (h : v.shape = (Json.str s).shape) : v = .str s := by
  cases v with
  | str s' =>
    rw [Json.shape, Json.shape, Shape.str.injEq] at h
    rw [eq_of_textOutline hs h.symm]
  | _ => cases h

theorem exists_arr_of_shape {items : List Json} {v : Json} (h : v.shape = (Json.arr items).shape) :
    ∃ items', v = .arr items' ∧ itemShapes items' = itemShapes items := by
  cases v with
  | arr items' => exact ⟨items', rfl, Shape.arr.inj h⟩
  | _ => cases h

theorem exists_obj_of_shape {fields : List (String × Json)} {v : Json}
    (h : v.shape = (Json.obj fields).shape) :
    ∃ fields', v = .obj fields' ∧ fieldShapes fields' = fieldShapes fields := by
  cases v with
  | obj fields' => exact ⟨fields', rfl, Shape.obj.inj h⟩
  | _ => cases h

/-- `Boolean(v)` on shapes. -/
def Shape.truthy : Shape → Bool
  | .null => false
  | .bool b => b
  | .num x => x ≠ .int 0
  | .str text => text ≠ []
  | _ => true

theorem textOutline_eq_nil {s : String} : textOutline s = [] ↔ s = "" := by
  constructor
  · intro h
    exact (eq_of_textOutline (s := "") rfl h.symm).symm
  · rintro rfl
    rfl

theorem truthy_shape (v : Json) : v.truthy = v.shape.truthy := by
  cases v with
  | str s => simp [Json.truthy, Json.shape, Shape.truthy, textOutline_eq_nil]
  | _ => rfl

theorem truthy_similar {v v' : Option Json} (h : v.map Json.shape = v'.map Json.shape) :
    truthy v = truthy v' := by
  have hshape : ∀ w : Option Json, truthy w = (w.map Json.shape).elim false Shape.truthy := by
    intro w
    cases w with
    | none => rfl
    | some v => exact truthy_shape v
  rw [hshape, hshape, h]

/-! ## Integers -/

/-- A character that can stand in a numeral. -/
def isCore (c : Char) : Bool := !isSpace c && decide (c.toNat < 0x80)

theorem isCore_of_hexDigit? {c : Char} (h : hexDigit? c ≠ none) : isCore c = true := by
  obtain ⟨d, hd⟩ := Option.ne_none_iff_exists'.mp h
  have hascii : c.toNat < 0x80 := by
    unfold hexDigit? at hd
    split_ifs at hd <;> omega
  simp [isCore, isSpace_of_hexDigit? hd, hascii]

theorem hexDigit?_of_digitsValue? {base : ℕ} {ds : List Char} {n : ℕ} (h : digitsValue? base ds = some n) :
    ∀ c ∈ ds, hexDigit? c ≠ none := by
  induction ds using List.reverseRecOn generalizing n with
  | nil => simp
  | append_singleton ds d ih =>
    rw [digitsValue?, List.foldl_append, List.foldl_cons, List.foldl_nil, ← digitsValue?] at h
    cases hfront : digitsValue? base ds with
    | none => rw [hfront] at h; cases h
    | some m =>
      cases hd : hexDigit? d with
      | none => simp [hfront, pushDigit?, hd] at h
      | some k =>
        intro c hc
        rcases List.mem_append.mp hc with hc | hc
        · exact ih hfront c hc
        · rw [List.mem_singleton.mp hc, hd]
          exact Option.some_ne_none k

theorem isCore_of_literal? {base : ℕ} {ds : List Char} {n : ℤ} (h : literal? base ds = some n) :
    ∀ c ∈ ds, isCore c = true := by
  unfold literal? at h
  split_ifs at h
  cases hm : digitsValue? base ds with
  | none => rw [hm] at h; cases h
  | some m => exact fun c hc => isCore_of_hexDigit? (hexDigit?_of_digitsValue? hm c hc)

/-- What is left of a numeral when it is trimmed. -/
theorem isCore_of_bigIntOfText {s : String} {n : ℤ} (h : bigIntOfText s = some n) :
    ∀ c ∈ trim s.toList, isCore c = true := by
  unfold bigIntOfText at h
  split at h
  · rename_i hnil
    simp [hnil]
  · rename_i ds hds
    cases hm : literal? 10 ds with
    | none => rw [hm] at h; cases h
    | some m =>
      rw [hds]
      exact List.forall_mem_cons.mpr ⟨by decide, isCore_of_literal? hm⟩
  · rename_i ds hds
    rw [hds]
    exact List.forall_mem_cons.mpr ⟨by decide, isCore_of_literal? h⟩
  · rename_i p ds hds
    rw [hds]
    split at h
    · rename_i base hbase
      have hp : isCore p = true := by
        unfold radix? at hbase
        split_ifs at hbase with hx ho hb
        · rcases hx with rfl | rfl <;> decide
        · rcases ho with rfl | rfl <;> decide
        · rcases hb with rfl | rfl <;> decide
      exact List.forall_mem_cons.mpr ⟨by decide, List.forall_mem_cons.mpr ⟨hp, isCore_of_literal? h⟩⟩
    · exact isCore_of_literal? h
  · exact isCore_of_literal? h

theorem filter_dropWhile {p q : Char → Bool} (h : ∀ c, p c = true → q c = false) (cs : List Char) :
    (cs.dropWhile p).filter q = cs.filter q := by
  induction cs with
  | nil => rfl
  | cons c cs ih =>
    by_cases hc : p c = true
    · rw [List.dropWhile_cons_of_pos hc, ih, List.filter_cons_of_neg (by simp [h c hc])]
    · rw [List.dropWhile_cons_of_neg hc]

theorem filter_trim (cs : List Char) : (trim cs).filter isCore = cs.filter isCore := by
  have hspace : ∀ c, isSpace c = true → isCore c = false := fun c hc => by simp [isCore, hc]
  rw [trim, List.filter_reverse, filter_dropWhile hspace, List.filter_reverse, List.reverse_reverse,
    filter_dropWhile hspace]

/-- The characters of a text that can stand in a numeral are seen in its outline. -/
theorem filter_similar {blank : Bool} {cs cs' : List Char} (h : Blurred charKey charKey blank cs cs') :
    cs.filter isCore = cs'.filter isCore := by
  have hoff : ∀ c, charKey c = none → isCore c = false := fun c hc => by
    have := asciiKey_eq_none.mp hc
    simp [isCore, this]
  induction h with
  | nil => rfl
  | keep _ ha hb _ ih =>
    obtain rfl := charKey_inj _ _ _ ha hb
    rw [List.filter_cons, List.filter_cons, ih]
  | blot ha hb _ ih =>
    rw [List.filter_cons_of_neg (by simp [hoff _ ha]), List.filter_cons_of_neg (by simp [hoff _ hb]), ih]
  | left ha _ ih => rw [List.filter_cons_of_neg (by simp [hoff _ ha]), ih]
  | right hb _ ih => rw [List.filter_cons_of_neg (by simp [hoff _ hb]), ih]

/-- Two texts of the same outline are the same integer, if both are one: what is not ASCII in
    them is white space. -/
theorem bigIntOfText_similar {s s' : String} (h : textOutline s = textOutline s') {m n : ℤ}
    (hm : bigIntOfText s = some m) (hn : bigIntOfText s' = some n) : m = n := by
  have hcore : ∀ {t : String} {k : ℤ}, bigIntOfText t = some k → trim t.toList = t.toList.filter isCore := by
    intro t k ht
    rw [← filter_trim, List.filter_eq_self.mpr (isCore_of_bigIntOfText ht)]
  have htrim : trim s.toList = trim s'.toList := by
    rw [hcore hm, hcore hn, filter_similar (blurred_of_outline h)]
  rw [bigIntOfText, htrim, ← bigIntOfText, hn] at hm
  exact (Option.some.inj hm).symm

end AccountAbstraction.Js
