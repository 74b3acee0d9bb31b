import AccountAbstraction.Js.Chunks
import AccountAbstraction.Js.JsonParse
import AccountAbstraction.Outline

/-!
# What survives a bad decoding

A decoder that is started in the middle of a character puts replacement characters in its
place. The ASCII characters around it are read as ever, so the outline of a text, with a
blank for each run beyond ASCII, is that of its bytes, however they are cut. `JSON.parse`
reads the outline of a text: of two texts with the same one, it accepts both or neither, and
the values differ only inside strings and names that are not ASCII. Here are the decoder and
the tokens; the values follow with their shapes.

* `outline_decodeFrom`, `outline_pieces`: the outline of what is decoded.
* `lex_similar`: the tokens of texts with the same outline.
-/

namespace AccountAbstraction.Js

/-! ## Keys -/

/-- A code below 128 is known. -/
def asciiKey (n : ℕ) : Option ℕ := if n < 0x80 then some n else none

def charKey (c : Char) : Option ℕ := asciiKey c.toNat

def byteKey (b : Byte) : Option ℕ := asciiKey b.val

theorem asciiKey_eq_some {n k : ℕ} : asciiKey n = some k ↔ n < 0x80 ∧ n = k := by
  simp [asciiKey]

theorem asciiKey_eq_none {n : ℕ} : asciiKey n = none ↔ 0x80 ≤ n := by
  simp [asciiKey]

theorem charKey_inj (c d : Char) (k : ℕ) (hc : charKey c = some k) (hd : charKey d = some k) :
    c = d := by
  obtain ⟨-, hc⟩ := asciiKey_eq_some.mp hc
  obtain ⟨-, hd⟩ := asciiKey_eq_some.mp hd
  rw [← Char.ofNat_toNat c, ← Char.ofNat_toNat d, hc, hd]

theorem charKey_none {c : Char} (h : 0x80 ≤ c.toNat) : charKey c = none := asciiKey_eq_none.mpr h

theorem byteKey_none {b : Byte} (h : 0x80 ≤ b.val) : byteKey b = none := asciiKey_eq_none.mpr h

theorem charKey_replacement : charKey replacement = none := rfl

/-! ## UTF-8 -/

/-- The smallest code that an unfinished character can have. -/
def Unfinished.least (u : Unfinished) : ℕ := (u.bits * 64 + (u.lower - 0x80)) * 64 ^ u.more

/-- The first code beyond those that it can have. -/
def Unfinished.bound (u : Unfinished) : ℕ := (u.bits * 64 + (u.upper - 0x80) + 1) * 64 ^ u.more

/-- It becomes a character beyond ASCII, whatever follows. -/
structure Unfinished.Legal (u : Unfinished) : Prop where
  range : u.InRange
  least : 0x80 ≤ u.least
  valid : u.bound ≤ 0xD800 ∨ 0xE000 ≤ u.least ∧ u.bound ≤ 0x110000

theorem firstByte_char {b : Byte} {c : Char} (h : firstByte b = .char c) :
    b.val < 0x80 ∧ c = Char.ofNat b.val := by
  simp only [firstByte] at h
  split_ifs at h with hb
  exact ⟨hb, (Utf8Step.char.inj h).symm⟩

theorem firstByte_invalid {b : Byte} (h : firstByte b = .invalid) : 0x80 ≤ b.val := by
  by_contra hb
  rw [firstByte] at h
  simp only [if_pos (not_le.mp hb)] at h
  cases h

theorem firstByte_wait {b : Byte} {u : Unfinished} (h : firstByte b = .wait u) :
    u.Legal ∧ 0x80 ≤ b.val := by
  have hb := b.isLt
  simp only [firstByte] at h
  split_ifs at h
  all_goals
    cases h
    refine ⟨⟨⟨by simp, by simp⟩, ?_, ?_⟩, by omega⟩ <;>
      simp only [Unfinished.least, Unfinished.bound] <;> omega

theorem toNat_ofNat {n : ℕ} (h : n < 0xD800 ∨ 0xE000 ≤ n ∧ n < 0x110000) : (Char.ofNat n).toNat = n := by
  have hvalid : n.isValidChar := by
    rcases h with h | ⟨hge, hlt⟩
    · exact .inl (by omega)
    · exact .inr ⟨by omega, by omega⟩
  rw [Char.ofNat, dif_pos hvalid]
  rfl

/-- The codes that remain possible behind a byte in range. -/
theorem nextByte_codes {u : Unfinished} {b : ℕ} (hlower : u.lower ≤ b) (hupper : b ≤ u.upper)
    (hrange : u.InRange) : u.least ≤ (u.bits * 64 + (b - 0x80)) * 64 ^ u.more ∧
      (u.bits * 64 + (b - 0x80) + 1) * 64 ^ u.more ≤ u.bound := by
  obtain ⟨hge, -⟩ := hrange
  exact ⟨Nat.mul_le_mul_right _ (by omega), Nat.mul_le_mul_right _ (by omega)⟩

theorem nextByte_char {u : Unfinished} (hu : u.Legal) {b : Byte} {c : Char}
    (h : nextByte u b = .char c) : 0x80 ≤ c.toNat ∧ 0x80 ≤ b.val := by
  unfold nextByte at h
  split_ifs at h with hb
  obtain ⟨hlow, hhigh⟩ := nextByte_codes hb.1 hb.2 hu.range
  obtain ⟨more, lower, upper, bits⟩ := u
  obtain ⟨⟨hge, -⟩, hleast, hvalid⟩ := hu
  cases more with
  | succ more => cases h
  | zero =>
    obtain rfl := Utf8Step.char.inj h
    simp only [pow_zero, mul_one] at hlow hhigh
    refine ⟨?_, hge.trans hb.1⟩
    show 0x80 ≤ (Char.ofNat (bits * 64 + (b.val - 0x80))).toNat
    rw [toNat_ofNat (by omega)]
    omega

theorem nextByte_wait {u u' : Unfinished} (hu : u.Legal) {b : Byte} (h : nextByte u b = .wait u') :
    u'.Legal ∧ 0x80 ≤ b.val := by
  unfold nextByte at h
  split_ifs at h with hb
  obtain ⟨hlow, hhigh⟩ := nextByte_codes hb.1 hb.2 hu.range
  obtain ⟨more, lower, upper, bits⟩ := u
  obtain ⟨⟨hge, -⟩, hleast, hvalid⟩ := hu
  cases more with
  | zero => cases h
  | succ more =>
    obtain rfl := Utf8Step.wait.inj h
    -- the next byte adds six bits, and may be any continuation byte
    have hfirst : (bits * 64 + (b.val - 0x80)) * 64 * 64 ^ more =
        (bits * 64 + (b.val - 0x80)) * 64 ^ (more + 1) := by rw [pow_succ']; ring
    have hlast : ((bits * 64 + (b.val - 0x80)) * 64 + 63 + 1) * 64 ^ more =
        (bits * 64 + (b.val - 0x80) + 1) * 64 ^ (more + 1) := by rw [pow_succ']; ring
    refine ⟨⟨⟨le_refl _, show 0xBF < 0xC0 by decide⟩, ?_, ?_⟩, hge.trans hb.1⟩ <;>
      simp only [Unfinished.least, Unfinished.bound, Nat.sub_self, add_zero, Nat.reduceSub, hfirst, hlast] at hlow hhigh ⊢ <;>
      simp only [Unfinished.least, Unfinished.bound] at hleast hvalid <;> omega

/-- The outline of what is decoded is that of the bytes. An unfinished character has its blank
    already, as far as the bytes are concerned. -/
theorem outline_decodeFrom (bs : Bytes) :
    (∀ blank, outline charKey blank (decodeFrom none bs) = outline byteKey blank bs) ∧
    ∀ u : Unfinished, u.Legal → ∀ blank, outline charKey blank (decodeFrom (some u) bs) =
      (if blank then [] else [none]) ++ outline byteKey true bs := by
  induction bs with
  | nil => exact ⟨fun _ => rfl, fun _ _ blank => by cases blank <;> rfl⟩
  | cons b bs ih =>
    obtain ⟨ihnone, ihsome⟩ := ih
    have hnone : ∀ blank, outline charKey blank (decodeFrom none (b :: bs)) =
        outline byteKey blank (b :: bs) := by
      intro blank
      cases hfirst : firstByte b with
      | char c =>
        obtain ⟨hb, rfl⟩ := firstByte_char hfirst
        have hc : charKey (Char.ofNat b.val) = some b.val :=
          asciiKey_eq_some.mpr ⟨by rwa [toNat_ofNat (by omega)], toNat_ofNat (by omega)⟩
        rw [decodeFrom_char hfirst, outline_some hc,
          outline_some (show byteKey b = some b.val from asciiKey_eq_some.mpr ⟨hb, rfl⟩), ihnone]
      | wait u =>
        obtain ⟨hu, hb⟩ := firstByte_wait hfirst
        rw [decodeFrom_first hfirst, ihsome u hu, outline_none (byteKey_none hb)]
      | invalid =>
        have hread : decodeFrom none (b :: bs) = replacement :: decodeFrom none bs := by
          simp [decodeFrom, feed, startWith, hfirst]
        rw [hread, outline_none charKey_replacement, ihnone,
          outline_none (byteKey_none (firstByte_invalid hfirst))]
    refine ⟨hnone, fun u hu blank => ?_⟩
    cases hnext : nextByte u b with
    | char c =>
      obtain ⟨hc, hb⟩ := nextByte_char hu hnext
      have hread : decodeFrom (some u) (b :: bs) = c :: decodeFrom none bs := by
        simp [decodeFrom, feed, hnext]
      rw [hread, outline_none (charKey_none hc), ihnone, outline_none (byteKey_none hb)]
      rfl
    | wait u' =>
      obtain ⟨hu', hb⟩ := nextByte_wait hu hnext
      have hread : decodeFrom (some u) (b :: bs) = decodeFrom (some u') bs := by
        simp [decodeFrom, feed, hnext]
      rw [hread, ihsome u' hu', outline_none (byteKey_none hb)]
      rfl
    | invalid =>
      rw [decodeFrom_invalid hnext, outline_none charKey_replacement, hnone]

/-- A text keeps its outline if its bytes are decoded piece by piece. -/
theorem outline_pieces (pieces : List Bytes) :
    outline charKey false (pieces.flatMap (decodeFrom none)) =
      outline charKey false (decodeFrom none pieces.flatten) := by
  rw [(outline_decodeFrom _).1]
  induction pieces with
  | nil => rfl
  | cons piece pieces ih =>
    rw [List.flatMap_cons, List.flatten_cons]
    exact outline_append ((outline_decodeFrom piece).1 false) ih

/-! ## UTF-16 -/

theorem charKey_unitChar {u : ℕ} (hu : u < 0x10000) : charKey (unitChar u) = asciiKey u := by
  unfold unitChar
  split_ifs with h
  · rw [charKey_replacement, asciiKey_eq_none.mpr (by omega)]
  · rw [charKey, toNat_ofNat (by omega)]

/-- The outline of the characters is that of their code units. -/
theorem outline_utf16Decode (us : List ℕ) (hus : ∀ u ∈ us, u < 0x10000) (blank : Bool) :
    outline charKey blank (utf16Decode us) = outline asciiKey blank us := by
  induction us using utf16Decode.induct generalizing blank with
  | case1 => rfl
  | case2 u => exact outline_cons (charKey_unitChar (hus u List.mem_cons_self)) (fun _ => rfl) blank
  | case3 u v us h ih =>
    have hrest := ih fun x hx => hus x (List.mem_cons_of_mem _ (List.mem_cons_of_mem _ hx))
    rw [utf16Decode, if_pos h, outline_none (charKey_none (by rw [toNat_ofNat (by omega)]; omega)),
      outline_none (asciiKey_eq_none.mpr (by omega)), outline_none (asciiKey_eq_none.mpr (by omega)), hrest]
    rfl
  | case4 u v us h ih =>
    rw [utf16Decode, if_neg h]
    exact outline_cons (charKey_unitChar (hus u List.mem_cons_self))
      (ih fun x hx => hus x (List.mem_cons_of_mem _ hx)) blank

theorem utf16Units_unread {c : Char} (h : charKey c = none) : ∀ u ∈ utf16Units c, asciiKey u = none := by
  have hc := asciiKey_eq_none.mp h
  intro u hu
  unfold utf16Units at hu
  split_ifs at hu
  · rw [List.mem_singleton.mp hu]
    exact h
  · apply asciiKey_eq_none.mpr
    have := List.mem_pair.mp hu
    omega

theorem utf16Units_lt (c : Char) : ∀ u ∈ utf16Units c, u < 0x10000 := by
  have hbounds := toNat_bounds c
  intro u hu
  unfold utf16Units at hu
  split_ifs at hu
  · rw [List.mem_singleton.mp hu]
    assumption
  · have := List.mem_pair.mp hu
    omega

theorem utf16Units_ne_nil (c : Char) : utf16Units c ≠ [] := by
  unfold utf16Units
  split_ifs <;> simp

/-! ## Partial results in a relation -/

theorem rel_bind {α β γ δ : Type} {r : α → β → Prop} {q : γ → δ → Prop} {x : Option α} {y : Option β}
    {f : α → Option γ} {g : β → Option δ} (h : Option.Rel r x y)
    (hfg : ∀ a b, r a b → Option.Rel q (f a) (g b)) : Option.Rel q (x.bind f) (y.bind g) := by
  cases h with
  | none => exact .none
  | some hab => exact hfg _ _ hab

theorem rel_map {α β γ δ : Type} {r : α → β → Prop} {q : γ → δ → Prop} {x : Option α} {y : Option β}
    {f : α → γ} {g : β → δ} (h : Option.Rel r x y) (hfg : ∀ a b, r a b → q (f a) (g b)) :
    Option.Rel q (x.map f) (y.map g) := by
  cases h with
  | none => exact .none
  | some hab => exact .some (hfg _ _ hab)

theorem map_bind_eq {α β γ δ : Type} {r : α → β → Prop} {x : Option α} {y : Option β}
    {f : α → Option γ} {g : β → Option γ} {p : γ → δ} (h : Option.Rel r x y)
    (hfg : ∀ a b, r a b → (f a).map p = (g b).map p) : (x.bind f).map p = (y.bind g).map p := by
  cases h with
  | none => rfl
  | some hab => exact hfg _ _ hab

/-! ## Tokens -/

/-- The text of a string, up to what is not ASCII. -/
def textOutline (s : String) : List (Option ℕ) := outline charKey false s.toList

inductive Token.Similar : Token → Token → Prop
  | text {s s' : String} (h : textOutline s = textOutline s') : Similar (.text s) (.text s')
  | same (t : Token) : Similar t t

/-- The code units of two strings so far. -/
structure SameUnits (us us' : List ℕ) : Prop where
  outline : outline asciiKey false us = outline asciiKey false us'
  first : ∀ u ∈ us, u < 0x10000
  second : ∀ u ∈ us', u < 0x10000

theorem SameUnits.append {us us' vs vs' : List ℕ} (h : SameUnits us us') (h' : SameUnits vs vs') :
    SameUnits (us ++ vs) (us' ++ vs') where
  outline := outline_append h.outline h'.outline
  first u hu := (List.mem_append.mp hu).elim (h.first u) (h'.first u)
  second u hu := (List.mem_append.mp hu).elim (h.second u) (h'.second u)

theorem SameUnits.refl {us : List ℕ} (h : ∀ u ∈ us, u < 0x10000) : SameUnits us us := ⟨rfl, h, h⟩

theorem SameUnits.text {us us' : List ℕ} (h : SameUnits us us') :
    Token.Similar (.text (String.ofList (utf16Decode us))) (.text (String.ofList (utf16Decode us'))) := by
  refine .text ?_
  rw [textOutline, textOutline, String.toList_ofList, String.toList_ofList,
    outline_utf16Decode us h.first, outline_utf16Decode us' h.second, h.outline]

/-- Two readers at the same place, in the middle of a run beyond ASCII or not; such a run stands
    inside a string. -/
inductive Lexer.Similar : Bool → Lexer → Lexer → Prop
  | between : Similar false .between .between
  | word (cs : List Char) : Similar false (.word cs) (.word cs)
  | string (blank : Bool) {us us' : List ℕ} (h : SameUnits us us')
      (hblank : blank = true → endsBlank asciiKey false us = true) :
      Similar blank (.string us) (.string us')
  | escape {us us' : List ℕ} (h : SameUnits us us') : Similar false (.escape us) (.escape us')
  | unicode {us us' : List ℕ} (h : SameUnits us us') (left value : ℕ)
      (hvalue : (value + 1) * 16 ^ (left + 1) ≤ 0x10000) :
      Similar false (.unicode us left value) (.unicode us' left value)

theorem isWordChar_unread {c : Char} (hc : charKey c = none) : isWordChar c = false := by
  have hascii : 0x80 ≤ c.val.toNat := asciiKey_eq_none.mp hc
  have hdigit : c.isDigit = false := by
    rw [Char.isDigit, Bool.and_eq_false_iff, decide_eq_false_iff_not, decide_eq_false_iff_not]
    exact .inr fun h => by simpa using hascii.trans (UInt32.le_iff_toNat_le.mp h)
  have hlower : c.isLower = false := by
    show (decide (c.val ≥ 'a'.val) && decide (c.val ≤ 'z'.val)) = false
    rw [Bool.and_eq_false_iff, decide_eq_false_iff_not, decide_eq_false_iff_not]
    exact .inr fun h => by simpa using hascii.trans (UInt32.le_iff_toNat_le.mp h)
  have hoff : ∀ d : Char, charKey d ≠ none → (c == d) = false := by
    intro d hd
    rw [beq_eq_false_iff_ne]
    rintro rfl
    exact hd hc
  rw [isWordChar, isNumberChar, hdigit, hlower, hoff '-' (by decide), hoff '+' (by decide),
    hoff '.' (by decide), hoff 'e' (by decide), hoff 'E' (by decide)]
  rfl

/-- Only strings have characters beyond ASCII. -/
theorem lexStep_unread {c : Char} (hc : charKey c = none) {s : Lexer} (hs : ∀ us, s ≠ .string us) :
    lexStep s c = none := by
  have hascii := asciiKey_eq_none.mp hc
  have hoff : ∀ d : Char, charKey d ≠ none → c ≠ d := by
    rintro d hd rfl
    exact hd hc
  have houtside : outside s c = none := by
    have hspace : isJsonSpace c = false := by
      simp [isJsonSpace, hoff ' ' (by decide), hoff '\t' (by decide), hoff '\n' (by decide),
        hoff '\r' (by decide)]
    have hpunctuation : punctuation? c = none := by
      unfold punctuation?
      split <;> first | rfl | cases hc
    unfold outside
    rw [hspace, if_neg Bool.false_ne_true, if_neg (hoff '"' (by decide)), isWordChar_unread hc,
      if_neg Bool.false_ne_true, hpunctuation]
    rfl
  cases s with
  | between => exact houtside
  | word cs => exact houtside
  | string us => exact absurd rfl (hs us)
  | escape us =>
    have hescape : escape? c = none := by
      unfold escape?
      split <;> first | rfl | cases hc
    rw [lexStep, if_neg (hoff 'u' (by decide)), hescape]
    rfl
  | unicode us left value =>
    have hdigit : hexDigit? c = none := by
      unfold hexDigit?
      rw [if_neg (by omega), if_neg (by omega), if_neg (by omega)]
    rw [lexStep, hdigit]
    rfl

theorem lexStep_string_unread {c : Char} (hc : charKey c = none) (us : List ℕ) :
    lexStep (.string us) c = some ([], .string (us ++ utf16Units c)) := by
  have hascii := asciiKey_eq_none.mp hc
  have hquote : c ≠ '"' := by
    rintro rfl
    cases hc
  have hslash : c ≠ '\\' := by
    rintro rfl
    cases hc
  rw [lexStep, if_neg hquote, if_neg hslash, if_neg (by omega)]

/-- The tokens are similar, and so is where the readers stand then, outside of a run. -/
def SimilarStep (p p' : List Token × Lexer) : Prop :=
  List.Forall₂ Token.Similar p.1 p'.1 ∧ Lexer.Similar false p.2 p'.2

theorem similar_refl (ts : List Token) : List.Forall₂ Token.Similar ts ts :=
  List.forall₂_same.mpr fun t _ => .same t

theorem outside_similar (s : Lexer) (c : Char) :
    Option.Rel SimilarStep (outside s c) (outside s c) := by
  unfold outside
  split_ifs
  · exact .some ⟨similar_refl _, .between⟩
  · exact .some ⟨similar_refl _, .string false (.refl (by simp)) (by simp)⟩
  · split
    · exact .some ⟨similar_refl _, .word _⟩
    · exact .some ⟨similar_refl _, .word _⟩
  · cases punctuation? c with
    | none => exact .none
    | some t => exact .some ⟨similar_refl _, .between⟩

/-- Two readers at the same place take the same character. -/
theorem lexStep_similar {blank : Bool} {s s' : Lexer} (hs : Lexer.Similar blank s s') (c : Char) :
    Option.Rel SimilarStep (lexStep s c) (lexStep s' c) := by
  cases hs with
  | between => exact outside_similar .between c
  | word cs => exact outside_similar (.word cs) c
  | string _ h _ =>
    simp only [lexStep]
    split_ifs
    · exact .some ⟨.cons h.text .nil, .between⟩
    · exact .some ⟨.nil, .escape h⟩
    · exact .none
    · exact .some ⟨.nil, .string false (h.append (.refl (utf16Units_lt c))) (by simp)⟩
  | escape h =>
    simp only [lexStep]
    split_ifs
    · exact .some ⟨.nil, .unicode h 3 0 (by norm_num)⟩
    · cases hu : escape? c with
      | none => exact .none
      | some u =>
        have hlt := escape?_lt hu
        have hunit : ∀ v ∈ [u], v < 0x10000 := by simp; omega
        exact .some ⟨.nil, .string false (h.append (.refl hunit)) (by simp)⟩
  | unicode h left value hvalue =>
    simp only [lexStep]
    cases hd : hexDigit? c with
    | none => exact .none
    | some d =>
      have hlt := hexDigit?_lt hd
      cases left with
      | zero =>
        have hunit : ∀ v ∈ [16 * value + d], v < 0x10000 := by simp; omega
        exact .some ⟨.nil, .string false (h.append (.refl hunit)) (by simp)⟩
      | succ left =>
        refine .some ⟨.nil, .unicode h left (16 * value + d) ?_⟩
        calc (16 * value + d + 1) * 16 ^ (left + 1) ≤ ((value + 1) * 16) * 16 ^ (left + 1) :=
              Nat.mul_le_mul_right _ (by omega)
          _ = (value + 1) * 16 ^ (left + 1 + 1) := by rw [Nat.mul_assoc, pow_succ' 16 (left + 1)]
          _ ≤ 0x10000 := hvalue

theorem lex_nil_similar {blank : Bool} {s s' : Lexer} (hs : Lexer.Similar blank s s') :
    Option.Rel (List.Forall₂ Token.Similar) (lex s []) (lex s' []) := by
  cases hs with
  | between => exact .some .nil
  | word cs => exact .some (similar_refl _)
  | _ => exact .none

/-- Texts with the same outline have similar tokens, or neither has any. -/
theorem lex_similar {blank : Bool} {cs cs' : List Char} (h : Blurred charKey charKey blank cs cs') :
    ∀ {s s' : Lexer}, Lexer.Similar blank s s' →
      Option.Rel (List.Forall₂ Token.Similar) (lex s cs) (lex s' cs') := by
  induction h with
  | nil blank => exact lex_nil_similar
  | keep blank ha hb _ ih =>
    intro s s' hs
    obtain rfl := charKey_inj _ _ _ ha hb
    rw [lex, lex]
    refine rel_bind (lexStep_similar hs _) fun p p' hp => ?_
    exact rel_map (ih hp.2) fun ts ts' hts => List.rel_append hp.1 hts
  | @blot c c' cs cs' ha hb _ ih =>
    intro s s' hs
    cases hs with
    | string _ hunits _ =>
      rw [lex_cons_nil _ (lexStep_string_unread ha _), lex_cons_nil _ (lexStep_string_unread hb _)]
      have hrun : ∀ c, charKey c = none → outline asciiKey false (utf16Units c) = [none] :=
        fun c hc => outline_run (utf16Units_ne_nil c) (utf16Units_unread hc)
      refine ih (.string true (hunits.append ⟨(hrun c ha).trans (hrun c' hb).symm, utf16Units_lt c,
        utf16Units_lt c'⟩) fun _ => ?_)
      rw [endsBlank_append]
      exact endsBlank_run (utf16Units_ne_nil c) (utf16Units_unread ha) _
    | _ =>
      rw [lex, lex, lexStep_unread ha (by simp), lexStep_unread hb (by simp)]
      exact .none
  | @left c cs cs' ha _ ih =>
    intro s s' hs
    cases hs with
    | string _ hunits hblank =>
      rw [lex_cons_nil _ (lexStep_string_unread ha _)]
      have hrun := outline_append_run (hblank rfl) (utf16Units_unread ha)
      refine ih (.string true ⟨hrun.trans hunits.outline, ?_, hunits.second⟩ fun _ => ?_)
      · exact fun u hu => (List.mem_append.mp hu).elim (hunits.first u) (utf16Units_lt c u)
      · rw [endsBlank_append]
        exact endsBlank_run (utf16Units_ne_nil c) (utf16Units_unread ha) _
  | @right c' cs cs' hb _ ih =>
    intro s s' hs
    cases hs with
    | string _ hunits hblank =>
      rw [lex_cons_nil _ (lexStep_string_unread hb _)]
      have hblank' := hblank rfl
      rw [endsBlank_eq, hunits.outline, ← endsBlank_eq] at hblank'
      have hrun := outline_append_run hblank' (utf16Units_unread hb)
      refine ih (.string true ⟨hunits.outline.trans hrun.symm, hunits.first, ?_⟩ hblank)
      exact fun u hu => (List.mem_append.mp hu).elim (hunits.second u) (utf16Units_lt c' u)

end AccountAbstraction.Js
