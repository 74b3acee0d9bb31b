import AccountAbstraction.Brackets
import AccountAbstraction.Js.BigInt

/-!
# The text of a function signature

A signature is a name and the types of the arguments, separated by commas inside
parentheses. A tuple type has the same form without a name.

* `Signature.comma_iff`: a comma stands in the text of every signature but those with at most
  one type wherever types are listed.
* `Signature.enclosed`: every comma stands inside the parentheses.
-/

namespace AccountAbstraction.Abi

/-! ## Types -/

/-- A character of a name. -/
def isWordChar (c : Char) : Bool := c.isAlphanum || c == '_' || c == '$'

/-- A name of a function or of an elementary type. -/
abbrev Word := {cs : List Char // cs ≠ [] ∧ cs.all isWordChar = true}

/-- The type of an argument. -/
inductive SolType
  | elementary (name : Word)
  | array (element : SolType)
  | fixedArray (element : SolType) (length : ℕ)
  | tuple (components : List SolType)

mutual

/-- The canonical text of a type. -/
def SolType.text : SolType → List Char
  | .elementary name => name.val
  | .array element => element.text ++ ['[', ']']
  | .fixedArray element length => element.text ++ ('[' :: Nat.toDigits 10 length ++ [']'])
  | .tuple components => '(' :: [','].intercalate (typeTexts components) ++ [')']

def typeTexts : List SolType → List (List Char)
  | [] => []
  | t :: ts => t.text :: typeTexts ts

end

/-- A function signature. -/
structure Signature where
  name : Word
  arguments : List SolType

/-- The canonical text of a signature. -/
def Signature.text (sig : Signature) : List Char :=
  sig.name.val ++ ('(' :: [','].intercalate (typeTexts sig.arguments) ++ [')'])

mutual

/-- No tuple in the type has more than one component. -/
def SolType.single : SolType → Bool
  | .elementary _ => true
  | .array element => element.single
  | .fixedArray element _ => element.single
  | .tuple components => components.length ≤ 1 && allSingle components

def allSingle : List SolType → Bool
  | [] => true
  | t :: ts => t.single && allSingle ts

end

/-- At most one argument, and no tuple with more than one component. -/
def Signature.single (sig : Signature) : Bool := sig.arguments.length ≤ 1 && allSingle sig.arguments

/-! ## Induction over types -/

theorem typeTexts_eq_map (ts : List SolType) : typeTexts ts = ts.map SolType.text := by
  induction ts with
  | nil => rfl
  | cons t ts ih => rw [typeTexts, ih, List.map_cons]

theorem allSingle_iff {ts : List SolType} : allSingle ts = true ↔ ∀ t ∈ ts, t.single = true := by
  induction ts with
  | nil => simp [allSingle]
  | cons t ts ih => simp [allSingle, ih]

/-- Induction with one hypothesis for all components of a tuple. -/
@[elab_as_elim]
theorem SolType.induct {P : SolType → Prop} (elementary : ∀ name, P (.elementary name))
    (array : ∀ element, P element → P (.array element))
    (fixedArray : ∀ element length, P element → P (.fixedArray element length))
    (tuple : ∀ components, (∀ t ∈ components, P t) → P (.tuple components)) (t : SolType) : P t :=
  @SolType.rec P (fun ts => ∀ t ∈ ts, P t) elementary array fixedArray tuple (by simp)
    (fun _ _ ht hts => List.forall_mem_cons.mpr ⟨ht, hts⟩) t

/-! ## Characters -/

/-- A character of a signature. -/
def isSignatureChar (c : Char) : Bool :=
  isWordChar c || c == '(' || c == ')' || c == '[' || c == ']' || c == ','

theorem isSpace_of_isWordChar {c : Char} (h : isWordChar c = true) : Js.isSpace c = false := by
  have hval : c.val.toNat = c.toNat := rfl
  delta isWordChar Char.isAlphanum Char.isAlpha Char.isUpper Char.isLower Char.isDigit at h
  simp only [Bool.or_eq_true, Bool.and_eq_true, decide_eq_true_eq, beq_iff_eq, ge_iff_le,
    UInt32.le_iff_toNat_le, hval] at h
  rcases h with (h | rfl) | rfl
  · have hrange : 48 ≤ c.toNat ∧ c.toNat ≤ 122 := by
      simp at h
      omega
    simp [Js.isSpace]
    omega
  · rfl
  · rfl

theorem isSpace_of_isSignatureChar {c : Char} (h : isSignatureChar c = true) : Js.isSpace c = false := by
  simp only [isSignatureChar, Bool.or_eq_true, beq_iff_eq] at h
  rcases h with ((((h | rfl) | rfl) | rfl) | rfl) | rfl
  · exact isSpace_of_isWordChar h
  all_goals rfl

/-- A character of parts that are put together. -/
theorem mem_intercalate {α : Type} {sep c : α} {parts : List (List α)} (h : c ∈ [sep].intercalate parts) :
    c = sep ∨ ∃ part ∈ parts, c ∈ part := by
  induction parts with
  | nil => cases h
  | cons part parts ih =>
    cases parts with
    | nil => exact Or.inr ⟨part, List.mem_cons_self, by simpa using h⟩
    | cons next parts =>
      rw [List.intercalate_cons_cons, List.mem_append, List.mem_append] at h
      rcases h with (h | h) | h
      · exact Or.inr ⟨part, List.mem_cons_self, h⟩
      · exact Or.inl (List.mem_singleton.mp h)
      · obtain h | ⟨other, hother, h⟩ := ih h
        · exact Or.inl h
        · exact Or.inr ⟨other, List.mem_cons_of_mem _ hother, h⟩

/-- The separator stands between two parts or inside of one. -/
theorem sep_mem_intercalate {α : Type} {sep : α} {parts : List (List α)} :
    sep ∈ [sep].intercalate parts ↔ 2 ≤ parts.length ∨ ∃ part ∈ parts, sep ∈ part := by
  cases parts with
  | nil => simp
  | cons part parts =>
    cases parts with
    | nil => simp
    | cons next parts =>
      rw [List.intercalate_cons_cons]
      refine iff_of_true ?_ (Or.inl ?_)
      · simp
      · simp

theorem Word.chars (name : Word) {c : Char} (h : c ∈ name.val) : isWordChar c = true :=
  List.all_eq_true.mp name.property.2 c h

theorem isSignatureChar_of_isWordChar {c : Char} (h : isWordChar c = true) : isSignatureChar c = true := by
  simp [isSignatureChar, h]

theorem isWordChar_of_digit {n : ℕ} {c : Char} (h : c ∈ Nat.toDigits 10 n) : isWordChar c = true := by
  have hdigit := Nat.isDigit_of_mem_toDigits (by norm_num) (by norm_num) h
  simp [isWordChar, Char.isAlphanum, hdigit]

theorem Word.not_mem (name : Word) {c : Char} (h : isWordChar c = false) : c ∉ name.val := by
  intro hc
  rw [name.chars hc] at h
  cases h

theorem not_mem_toDigits (n : ℕ) {c : Char} (h : isWordChar c = false) : c ∉ Nat.toDigits 10 n := by
  intro hc
  rw [isWordChar_of_digit hc] at h
  cases h

/-- The characters of types between commas and parentheses. -/
theorem chars_listed {ts : List SolType} (h : ∀ t ∈ ts, ∀ c ∈ t.text, isSignatureChar c = true) :
    ∀ c ∈ '(' :: [','].intercalate (typeTexts ts) ++ [')'], isSignatureChar c = true := by
  intro c hc
  rw [List.mem_append, List.mem_cons, List.mem_singleton] at hc
  rcases hc with (rfl | hc) | rfl
  · rfl
  · obtain rfl | ⟨text, htext, hc⟩ := mem_intercalate hc
    · rfl
    · rw [typeTexts_eq_map] at htext
      obtain ⟨t, ht, rfl⟩ := List.mem_map.mp htext
      exact h t ht c hc
  · rfl

theorem SolType.chars (t : SolType) : ∀ c ∈ t.text, isSignatureChar c = true := by
  induction t using SolType.induct with
  | elementary name => exact fun c hc => isSignatureChar_of_isWordChar (name.chars hc)
  | array element ih =>
    intro c hc
    rcases List.mem_append.mp hc with hc | hc
    · exact ih c hc
    · fin_cases hc <;> rfl
  | fixedArray element length ih =>
    intro c hc
    simp only [SolType.text, List.mem_append, List.mem_cons, List.not_mem_nil, or_false] at hc
    rcases hc with hc | (rfl | hc) | rfl
    · exact ih c hc
    · rfl
    · exact isSignatureChar_of_isWordChar (isWordChar_of_digit hc)
    · rfl
  | tuple components ih => exact chars_listed ih

theorem Signature.noSpace (sig : Signature) {c : Char} (hc : c ∈ sig.text) : Js.isSpace c = false := by
  apply isSpace_of_isSignatureChar
  rcases List.mem_append.mp hc with hc | hc
  · exact isSignatureChar_of_isWordChar (sig.name.chars hc)
  · exact chars_listed (fun t _ => t.chars) c hc

/-! ## Commas -/

/-- A comma of listed types stands between two of them or inside of one. -/
theorem comma_listed {ts : List SolType} (h : ∀ t ∈ ts, ',' ∈ t.text ↔ t.single = false) :
    ',' ∈ '(' :: [','].intercalate (typeTexts ts) ++ [')'] ↔
      (decide (ts.length ≤ 1) && allSingle ts) = false := by
  have hsome : (∃ text ∈ typeTexts ts, ',' ∈ text) ↔ allSingle ts = false := by
    rw [typeTexts_eq_map, ← Bool.not_eq_true, allSingle_iff]
    simp only [List.mem_map, exists_exists_and_eq_and, not_forall, Bool.not_eq_true]
    constructor
    · rintro ⟨t, ht, hcomma⟩
      exact ⟨t, ht, (h t ht).mp hcomma⟩
    · rintro ⟨t, ht, hsingle⟩
      exact ⟨t, ht, (h t ht).mpr hsingle⟩
  have hlength : (typeTexts ts).length = ts.length := by rw [typeTexts_eq_map, List.length_map]
  have hopening : ',' ∉ ['('] := by decide
  have hclosing : ',' ∉ [')'] := by decide
  rw [Bool.and_eq_false_iff, decide_eq_false_iff_not, not_le, ← hsome, ← List.singleton_append,
    List.mem_append, List.mem_append, or_iff_left hclosing, or_iff_right hopening, sep_mem_intercalate,
    hlength]
  rfl

theorem SolType.comma_iff (t : SolType) : ',' ∈ t.text ↔ t.single = false := by
  induction t using SolType.induct with
  | elementary name => exact iff_of_false (name.not_mem rfl) (by simp [SolType.single])
  | array element ih => simpa [SolType.text, SolType.single] using ih
  | fixedArray element length ih =>
    have hdigits : ',' ∉ Nat.toDigits 10 length := not_mem_toDigits length rfl
    simpa [SolType.text, SolType.single, hdigits] using ih
  | tuple components ih => exact comma_listed ih

theorem Signature.comma_iff (sig : Signature) : ',' ∈ sig.text ↔ sig.single = false := by
  have hname : ',' ∉ sig.name.val := sig.name.not_mem rfl
  rw [Signature.text, List.mem_append, or_iff_right hname]
  exact comma_listed fun t _ => t.comma_iff

/-! ## Parentheses -/

/-- A text that closes what it opens and has its commas inside. -/
def Enclosed (cs : List Char) : Prop := depth '(' ')' cs = 0 ∧ Above '(' ')' 1 ',' cs

theorem enclosed_of_not_mem {cs : List Char} (ho : '(' ∉ cs) (hc : ')' ∉ cs) (hcomma : ',' ∉ cs) :
    Enclosed cs :=
  ⟨depth_of_not_mem ho hc, Above.of_not_mem hcomma⟩

theorem Enclosed.append {cs ds : List Char} (hcs : Enclosed cs) (hds : Enclosed ds) : Enclosed (cs ++ ds) :=
  ⟨by rw [depth_append, hcs.1, hds.1]; rfl, hcs.2.append_closed hcs.1 hds.2⟩

theorem enclosed_word (name : Word) : Enclosed name.val :=
  enclosed_of_not_mem (name.not_mem rfl) (name.not_mem rfl) (name.not_mem rfl)

theorem enclosed_listed {ts : List SolType} (h : ∀ t ∈ ts, Enclosed t.text) :
    Enclosed ('(' :: [','].intercalate (typeTexts ts) ++ [')']) := by
  have hparts : ∀ text ∈ typeTexts ts, depth '(' ')' text = 0 ∧ Above '(' ')' 0 ',' text := by
    intro text htext
    rw [typeTexts_eq_map] at htext
    obtain ⟨t, ht, rfl⟩ := List.mem_map.mp htext
    exact ⟨(h t ht).1, (h t ht).2.weaken (by norm_num)⟩
  constructor
  · rw [depth_enclose (by decide), depth_intercalate (by decide) (by decide) fun text ht => (hparts text ht).1]
  · exact (Above.intercalate (by decide) (by decide) hparts).enclose (by decide) (by decide) (by decide)

theorem SolType.enclosed (t : SolType) : Enclosed t.text := by
  induction t using SolType.induct with
  | elementary name => exact enclosed_word name
  | array element ih =>
    exact ih.append (enclosed_of_not_mem (by decide) (by decide) (by decide))
  | fixedArray element length ih =>
    refine ih.append (enclosed_of_not_mem ?_ ?_ ?_) <;> simpa using not_mem_toDigits length rfl
  | tuple components ih => exact enclosed_listed ih

theorem Signature.enclosed (sig : Signature) : Enclosed sig.text :=
  (enclosed_word sig.name).append (enclosed_listed fun t _ => t.enclosed)

end AccountAbstraction.Abi
