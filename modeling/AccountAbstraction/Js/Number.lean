import AccountAbstraction.Js.BigInt
import Mathlib.Data.List.TakeWhile
import Mathlib.Data.Nat.Log

/-!
# Number literals and the doubles they denote

A JSON number is a decimal literal; its value is the double closest to it, ties
to even. `String(x)` prints the shortest digits that read back as `x`. Both
conversions are exact integer arithmetic here.

* `Literal.number_of_small`: an integer of at most `2^53` is a double.
* `finite_int`: it is what its own digits denote.
-/

namespace AccountAbstraction.Js

/-! ## Literals -/

/-- A decimal literal: `±mantissa · 10^exponent`. -/
structure Literal where
  negative : Bool
  mantissa : ℕ
  exponent : ℤ
deriving DecidableEq, Repr

/-- The number that decimal digits write. -/
def decimal (ds : List Char) : ℕ := Nat.ofDigitChars 10 ds 0

/-- The digits at the start of a text, and what follows them. -/
def spanDigits (cs : List Char) : List Char × List Char :=
  (cs.takeWhile Char.isDigit, cs.dropWhile Char.isDigit)

/-- A minus sign at the start of a text. -/
def spanMinus : List Char → Bool × List Char
  | '-' :: cs => (true, cs)
  | cs => (false, cs)

/-- The digits after a decimal point; `none` when a point has none. -/
def spanFraction : List Char → Option (List Char × List Char)
  | '.' :: cs => if (spanDigits cs).1 = [] then none else some (spanDigits cs)
  | cs => some ([], cs)

/-- The sign of an exponent. -/
def spanSign : List Char → Bool × List Char
  | '-' :: cs => (true, cs)
  | '+' :: cs => (false, cs)
  | cs => (false, cs)

/-- The exponent that is the rest of a literal; `none` when the rest is none. -/
def readExponent : List Char → Option ℤ
  | [] => some 0
  | c :: cs =>
    if c = 'e' ∨ c = 'E' then
      let (negative, rest) := spanSign cs
      let (ds, rest) := spanDigits rest
      if ds ≠ [] ∧ rest = [] then some (if negative then -(decimal ds : ℤ) else decimal ds)
      else none
    else none

/-- A JSON number: no plus sign, no leading zero, digits on both sides of a point. -/
def decimalLiteral? (text : List Char) : Option Literal :=
  let (negative, rest) := spanMinus text
  let (whole, rest) := spanDigits rest
  if whole = [] ∨ (whole.head? = some '0' ∧ whole.length ≠ 1) then none
  else
    (spanFraction rest).bind fun (fraction, rest) =>
      (readExponent rest).map fun exponent =>
        ⟨negative, decimal (whole ++ fraction), exponent - fraction.length⟩

/-! ## Rounding to a double -/

/-- The integer closest to `a / b`, ties to even. -/
def roundHalfEven (a b : ℕ) : ℕ :=
  if 2 * (a % b) < b ∨ (2 * (a % b) = b ∧ a / b % 2 = 0) then a / b else a / b + 1

/-- `num / den · 2^shift` as a quotient. -/
def scale (num den : ℕ) (shift : ℤ) : ℕ × ℕ :=
  (num * 2 ^ shift.toNat, den * 2 ^ (-shift).toNat)

/-- The power of two of the last of 53 bits of `num / den`, or of a subnormal
    double. -/
def lastBit (num den : ℕ) : ℤ :=
  let guess : ℤ := (num.log2 : ℤ) - den.log2
  let (a, b) := scale num den (-guess)
  max ((if b ≤ a then guess else guess - 1) - 52) (-1074)

/-- The double closest to `num / den > 0`, as a quotient; the range of the exponent
    is not bounded above. -/
def roundToDouble (num den : ℕ) : ℕ × ℕ :=
  let last := lastBit num den
  let (a, b) := scale num den (-last)
  scale (roundHalfEven a b) 1 last

/-! ## Printing a double -/

/-- The place of the decimal point of `num / den > 0`: the `p` with
    `10^(p-1) ≤ num / den < 10^p`. -/
def pointPlace (num den : ℕ) : ℤ :=
  if den ≤ num then Nat.log 10 (num / den) + 1
  else 1 - Nat.clog 10 ((den + num - 1) / num)

/-- `s · 10^shift` as a quotient. -/
def decimalQuotient (s : ℕ) (shift : ℤ) : ℕ × ℕ := (s * 10 ^ shift.toNat, 10 ^ (-shift).toNat)

/-- The two decimals of `k` digits around `num / den`, the closer one first. -/
def candidates (num den k : ℕ) (place : ℤ) : List ℕ :=
  let (a, b) := (num * 10 ^ (k - place).toNat, den * 10 ^ (place - k).toNat)
  if roundHalfEven a b = a / b then [a / b, a / b + 1] else [a / b + 1, a / b]

/-- The shortest digits that denote the double `num / den`, with the place of
    their point. The next power of ten may be such a decimal. -/
def shortestDigits (num den : ℕ) (place : ℤ) : Option (ℕ × ℤ) :=
  (List.range' 1 17).findSome? fun k =>
    ((candidates num den k place).find? fun s =>
      let (a, b) := decimalQuotient s (place - k)
      let (c, d) := roundToDouble a b
      c * den == num * d).map fun s => if s = 10 ^ k then (1, place + 1) else (s, place)

/-- `Number.prototype.toString` of a positive double with the digits `s`. -/
def printDigits (s : ℕ) (place : ℤ) : String :=
  let ds := (toString s).toList
  let k : ℤ := ds.length
  if k ≤ place ∧ place ≤ 21 then
    String.ofList (ds ++ List.replicate (place - k).toNat '0')
  else if 0 < place ∧ place ≤ 21 then
    String.ofList (ds.take place.toNat ++ '.' :: ds.drop place.toNat)
  else if -6 < place ∧ place ≤ 0 then
    String.ofList ('0' :: '.' :: List.replicate (-place).toNat '0' ++ ds)
  else
    let exponent := (if 0 < place then "e+" else "e-") ++ toString (place - 1).natAbs
    match ds with
    | [d] => String.singleton d ++ exponent
    | d :: ds => String.ofList (d :: '.' :: ds) ++ exponent
    | [] => ""

/-- `String(num / den)` of a positive double. -/
def printDouble (num den : ℕ) : String :=
  match shortestDigits num den (pointPlace num den) with
  | some (s, place) => printDigits s place
  | none => ""

/-! ## The value of a literal -/

def signed (negative : Bool) (n : ℕ) : ℤ := if negative then -(n : ℤ) else n

def signedText (negative : Bool) (text : String) : String := if negative then "-" ++ text else text

/-- The double of a quotient that is one. -/
def ofDouble (negative : Bool) (num den : ℕ) : JsNumber :=
  if 2 ^ 1024 * den ≤ num then .nonint (signedText negative "Infinity")
  else
    let text := signedText negative (printDouble num den)
    if num % den = 0 then
      let n := signed negative (num / den)
      if toString n = text then .int n else .large n text
    else .nonint text

/-- The double closest to `num / den`. -/
def nearest (negative : Bool) (num den : ℕ) : JsNumber :=
  if num = 0 then .int 0
  else
    let (a, b) := roundToDouble num den
    if a = 0 then .int 0 else ofDouble negative a b

/-- The double that a literal denotes. The exponent of a literal far outside the
    range of a double is not worked out. -/
def Literal.number (l : Literal) : JsNumber :=
  let size : ℤ := (toString l.mantissa).length + l.exponent
  if l.mantissa = 0 then .int 0
  else if 0 ≤ l.exponent ∧ l.exponent ≤ 15 ∧ l.mantissa * 10 ^ l.exponent.toNat ≤ 2 ^ 53 then
    .int (signed l.negative (l.mantissa * 10 ^ l.exponent.toNat))
  else if 400 < size then .nonint (signedText l.negative "Infinity")
  else if size < -400 then .int 0
  else
    nearest l.negative (decimalQuotient l.mantissa l.exponent).1
      (decimalQuotient l.mantissa l.exponent).2

/-- The value of a JSON number. -/
def number? (text : List Char) : Option JsNumber := (decimalLiteral? text).map Literal.number

/-- A finite double: the text it prints denotes it. -/
def JsNumber.Finite (x : JsNumber) : Prop := number? x.text.toList = some x

instance (x : JsNumber) : Decidable x.Finite := inferInstanceAs (Decidable (_ = _))

/-! ## `Number(v)` -/

/-- A decimal literal of the language, with a sign, leading zeros or an empty side of
    its point. -/
def strLiteral? (cs : List Char) : Option Literal :=
  let (negative, rest) := spanSign cs
  let (whole, rest) := spanDigits rest
  let (fraction, rest) := match rest with
    | '.' :: rest => spanDigits rest
    | rest => ([], rest)
  if whole ++ fraction = [] then none
  else
    (readExponent rest).map fun exponent =>
      ⟨negative, decimal (whole ++ fraction), exponent - fraction.length⟩

/-- `Number(s)`, or `none` for `NaN`. -/
def numberOfText (s : String) : Option JsNumber :=
  match trim s.toList with
  | [] => some (.int 0)
  | '0' :: p :: ds =>
    match radix? p with
    | some base => (literal? base ds).map fun n => (Literal.mk false n.toNat 0).number
    | none => (strLiteral? ('0' :: p :: ds)).map Literal.number
  | cs =>
    if (spanSign cs).2 = ['I', 'n', 'f', 'i', 'n', 'i', 't', 'y'] then
      some (.nonint (signedText (spanSign cs).1 "Infinity"))
    else (strLiteral? cs).map Literal.number

/-- `Number(v)`, or `none` for `NaN` and where the conversion throws. -/
def Json.toNumber? : Json → Option JsNumber
  | .null => some (.int 0)
  | .bool b => some (.int (if b then 1 else 0))
  | .num x => some x
  | v => v.text?.bind numberOfText

/-! ## Comparison with an integer -/

/-- The value of the literal is greater than `n`. -/
def Literal.exceeds (l : Literal) (n : ℤ) : Bool :=
  n * 10 ^ (-l.exponent).toNat < signed l.negative (l.mantissa * 10 ^ l.exponent.toNat)

/-- `n < x`, for an `n` that is a double. A fraction and the decimal it prints lie
    between the same two integers. -/
def JsNumber.exceeds (x : JsNumber) (n : ℤ) : Bool :=
  match x with
  | .int m => n < m
  | .large m _ => n < m
  | .nonint text => text == "Infinity" || (decimalLiteral? text.toList).any (·.exceeds n)

/-! ## Products -/

/-- `x * k` for a positive integer `k` that is a double. -/
def JsNumber.times (x : JsNumber) (k : ℕ) : JsNumber :=
  match x with
  | .int m => nearest (m < 0) (m.natAbs * k) 1
  | .large m _ => nearest (m < 0) (m.natAbs * k) 1
  | .nonint text =>
    match decimalLiteral? text.toList with
    | some l =>
      let (a, b) := decimalQuotient l.mantissa l.exponent
      let (num, den) := roundToDouble a b
      nearest l.negative (num * k) den
    | none => x

/-! ## The characters of a literal -/

/-- A character that a JSON number may have. -/
def isNumberChar (c : Char) : Bool :=
  c.isDigit || c == '-' || c == '+' || c == '.' || c == 'e' || c == 'E'

theorem mem_spanDigits {c : Char} {cs : List Char} (h : c ∈ cs) :
    c.isDigit = true ∨ c ∈ (spanDigits cs).2 := by
  rw [← List.takeWhile_append_dropWhile (p := Char.isDigit) (l := cs), List.mem_append] at h
  exact h.imp List.mem_takeWhile_imp id

theorem mem_spanMinus {c : Char} {cs : List Char} (h : c ∈ cs) :
    c = '-' ∨ c ∈ (spanMinus cs).2 := by
  unfold spanMinus
  split
  · exact List.mem_cons.mp h
  · exact Or.inr h

theorem mem_spanFraction {c : Char} {cs : List Char} {p : List Char × List Char}
    (hp : spanFraction cs = some p) (h : c ∈ cs) : c = '.' ∨ c.isDigit = true ∨ c ∈ p.2 := by
  unfold spanFraction at hp
  split at hp
  · split_ifs at hp
    cases hp
    exact (List.mem_cons.mp h).imp id mem_spanDigits
  · cases hp
    exact Or.inr (Or.inr h)

theorem mem_spanSign {c : Char} {cs : List Char} (h : c ∈ cs) :
    c = '-' ∨ c = '+' ∨ c ∈ (spanSign cs).2 := by
  unfold spanSign
  split
  · exact (List.mem_cons.mp h).imp id Or.inr
  · exact Or.inr (List.mem_cons.mp h)
  · exact Or.inr (Or.inr h)

theorem mem_readExponent {c : Char} {cs : List Char} {e : ℤ} (he : readExponent cs = some e)
    (h : c ∈ cs) : isNumberChar c = true := by
  cases cs with
  | nil => cases h
  | cons d cs =>
    simp only [readExponent] at he
    rw [Option.ite_none_right_eq_some, Option.ite_none_right_eq_some] at he
    obtain ⟨hd, hrest, -⟩ := he
    rcases List.mem_cons.mp h with rfl | hc
    · rcases hd with rfl | rfl <;> rfl
    rcases mem_spanSign hc with rfl | rfl | hc
    · rfl
    · rfl
    rcases mem_spanDigits hc with hdigit | hc
    · simp [isNumberChar, hdigit]
    · rw [hrest.2] at hc
      cases hc

theorem decimalLiteral?_chars {text : List Char} {l : Literal} (hl : decimalLiteral? text = some l) {c : Char}
    (h : c ∈ text) : isNumberChar c = true := by
  simp only [decimalLiteral?] at hl
  split_ifs at hl
  obtain ⟨p, hp, hexponent⟩ := Option.bind_eq_some_iff.mp hl
  obtain ⟨e, he, -⟩ := Option.map_eq_some_iff.mp hexponent
  rcases mem_spanMinus h with rfl | hc
  · rfl
  rcases mem_spanDigits hc with hdigit | hc
  · simp [isNumberChar, hdigit]
  rcases mem_spanFraction hp hc with rfl | hdigit | hc
  · rfl
  · simp [isNumberChar, hdigit]
  · exact mem_readExponent he hc

/-! ## Integers are what their digits denote -/

/-- Only zero starts with the digit zero. -/
theorem head?_toDigits (n : ℕ) (h : (Nat.toDigits 10 n).head? = some '0') : n = 0 := by
  induction n using Nat.strong_induction_on with
  | _ n ih =>
    rw [Nat.toDigits_eq_if (by norm_num)] at h
    split_ifs at h with hn
    · interval_cases n <;> simp_all [Nat.digitChar]
    · rw [List.head?_append_of_ne_nil _ Nat.toDigits_ne_nil] at h
      have := ih (n / 10) (by omega) h
      omega

theorem spanDigits_toDigits (n : ℕ) : spanDigits (Nat.toDigits 10 n) = (Nat.toDigits 10 n, []) := by
  have hdigits : ∀ c ∈ Nat.toDigits 10 n, c.isDigit = true := fun c hc =>
    Nat.isDigit_of_mem_toDigits (by norm_num) (by norm_num) hc
  rw [spanDigits, List.takeWhile_eq_self_iff.mpr hdigits, List.dropWhile_eq_nil_iff.mpr hdigits]

/-- The literal of digits after a possible minus sign. -/
theorem decimalLiteral?_of_digits {text : List Char} {negative : Bool} {n : ℕ}
    (h : spanMinus text = (negative, Nat.toDigits 10 n)) :
    decimalLiteral? text = some ⟨negative, n, 0⟩ := by
  have hzero : ¬(Nat.toDigits 10 n = [] ∨
      ((Nat.toDigits 10 n).head? = some '0' ∧ (Nat.toDigits 10 n).length ≠ 1)) := by
    rintro (hnil | ⟨hhead, hlength⟩)
    · exact Nat.toDigits_ne_nil hnil
    · have := head?_toDigits n hhead
      subst this
      exact hlength rfl
  simp only [decimalLiteral?, h, spanDigits_toDigits]
  rw [if_neg hzero]
  simp [spanFraction, readExponent, decimal]

theorem Literal.number_of_small {negative : Bool} {n : ℕ} (h : n ≤ 2 ^ 53) :
    (Literal.mk negative n 0).number = .int (signed negative n) := by
  unfold Literal.number
  by_cases hn : n = 0
  · subst hn
    cases negative <;> rfl
  · simp only [hn, if_false, Int.toNat_zero, pow_zero, mul_one]
    rw [if_pos ⟨le_refl 0, by norm_num, h⟩]

theorem finite_int {n : ℤ} (h : n.natAbs ≤ 2 ^ 53) : (JsNumber.int n).Finite := by
  have hspan : spanMinus (toString n).toList = (decide (n < 0), Nat.toDigits 10 n.natAbs) := by
    rw [Int.toString_eq_repr, Int.repr_eq_if]
    split_ifs with hn
    · have hne : ∀ cs, Nat.toDigits 10 n.toNat ≠ '-' :: cs := by
        intro cs hcs
        have := Nat.isDigit_of_mem_toDigits (b := 10) (n := n.toNat) (c := '-') (by norm_num)
          (by norm_num) (by rw [hcs]; exact List.mem_cons_self)
        cases this
      rw [Nat.toList_repr, spanMinus.eq_2 _ hne, show n.toNat = n.natAbs by omega]
      simp [not_lt.mpr hn]
    · rw [String.toList_append, Nat.toList_repr, show (-n).toNat = n.natAbs by omega]
      simp [spanMinus, not_le.mp hn]
  show number? (toString n).toList = _
  rw [number?, decimalLiteral?_of_digits hspan, Option.map_some, Literal.number_of_small h]
  simp only [signed, decide_eq_true_eq]
  split_ifs <;> congr 2 <;> omega

end AccountAbstraction.Js
