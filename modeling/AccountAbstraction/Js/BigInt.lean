import AccountAbstraction.Js.Hex

/-!
# The conversion `BigInt(v)`

`BigInt` reads integers from text in decimal, hex, octal and binary, after
trimming white space and with the empty text as `0`; a boolean is `0` or `1`, a
double must be integral, an array goes through its `String` conversion. Every
other value makes it throw.

* `bigIntOfText_hexlify`: the big-endian value of some bytes is what `BigInt`
  reads from their hex string.
* `bigIntOfText_toQuantity`: `BigInt` reads a quantity back.
-/

namespace AccountAbstraction.Js

/-! ## Text -/

/-- White space and line terminators of the language. -/
def isSpace (c : Char) : Bool :=
  let n := c.toNat
  (9 ≤ n && n ≤ 13) || n == 0x20 || n == 0xA0 || n == 0x1680 || (0x2000 ≤ n && n ≤ 0x200A) ||
    n == 0x2028 || n == 0x2029 || n == 0x202F || n == 0x205F || n == 0x3000 || n == 0xFEFF

/-- `s.trim()` on the characters of `s`. -/
def trim (cs : List Char) : List Char :=
  ((cs.dropWhile isSpace).reverse.dropWhile isSpace).reverse

/-- A non-empty run of digits of base `base`. -/
def literal? (base : ℕ) (ds : List Char) : Option ℤ :=
  if ds = [] then none else (digitsValue? base ds).map fun n => (n : ℤ)

/-- The prefix letter of a literal in another base. -/
def radix? (c : Char) : Option ℕ :=
  if c = 'x' ∨ c = 'X' then some 16
  else if c = 'o' ∨ c = 'O' then some 8
  else if c = 'b' ∨ c = 'B' then some 2
  else none

/-- `BigInt(s)` for a string; `none` where it throws a `SyntaxError`. -/
def bigIntOfText (s : String) : Option ℤ :=
  match trim s.toList with
  | [] => some 0
  | '-' :: ds => (literal? 10 ds).map Neg.neg
  | '+' :: ds => literal? 10 ds
  | '0' :: p :: ds =>
    match radix? p with
    | some base => literal? base ds
    | none => literal? 10 ('0' :: p :: ds)
  | ds => literal? 10 ds

/-- `BigInt(v)` for a value that may be `undefined`; `none` where it throws. -/
def bigInt : Option Json → Option ℤ
  | some (.bool b) => some (if b then 1 else 0)
  | some (.num x) => x.integer?
  | some (.str s) => bigIntOfText s
  | some (.arr items) => (Json.text? (.arr items)).bind bigIntOfText
  -- `undefined` and `null` are a `TypeError`, the text of an object is not a number
  | _ => none

/-! ## Reading hex -/

theorem isSpace_of_hexDigit? {c : Char} {d : ℕ} (h : hexDigit? c = some d) : isSpace c = false := by
  unfold hexDigit? at h
  split_ifs at h <;> simp [isSpace] <;> omega

theorem dropWhile_of_all {p : Char → Bool} {cs : List Char} (h : ∀ c ∈ cs, p c = false) :
    cs.dropWhile p = cs := by
  cases cs with
  | nil => rfl
  | cons c cs => simp [h c List.mem_cons_self]

theorem trim_of_no_space {cs : List Char} (h : ∀ c ∈ cs, isSpace c = false) : trim cs = cs := by
  rw [trim, dropWhile_of_all h, dropWhile_of_all (by simpa using h), List.reverse_reverse]

theorem trim_of_spaces {space cs : List Char} (h : ∀ c ∈ space, isSpace c = true) :
    trim (space ++ cs) = trim cs := by
  rw [trim, List.dropWhile_append_of_pos h, ← trim]

/-- White space behind a text without any is trimmed from it. -/
theorem trim_append_spaces {cs space : List Char} (h : ∀ c ∈ cs, isSpace c = false)
    (hspace : ∀ c ∈ space, isSpace c = true) : trim (cs ++ space) = cs := by
  have hback : ∀ c ∈ space.reverse, isSpace c = true := fun c hc => hspace c (List.mem_reverse.mp hc)
  cases cs with
  | nil =>
    rw [List.nil_append, ← List.append_nil space, trim_of_spaces hspace]
    rfl
  | cons c cs =>
    have hfront : (c :: cs ++ space).dropWhile isSpace = c :: cs ++ space := by
      rw [List.cons_append, List.dropWhile_cons_of_neg (by simp [h c List.mem_cons_self])]
    rw [trim, hfront, List.reverse_append, List.dropWhile_append_of_pos hback,
      dropWhile_of_all fun d hd => h d (List.mem_reverse.mp hd), List.reverse_reverse]

/-- The big-endian value of a byte string. -/
def bytesValue (bs : Bytes) : ℕ := bs.foldl (fun n b => 256 * n + b.val) 0

theorem bytesValue_append_singleton (bs : Bytes) (b : Byte) :
    bytesValue (bs ++ [b]) = 256 * bytesValue bs + b.val := by
  simp [bytesValue]

theorem digitsValue?_flatMap (bs : Bytes) :
    digitsValue? 16 (bs.flatMap byteDigits) = some (bytesValue bs) := by
  induction bs using List.reverseRecOn with
  | nil => rfl
  | append_singleton bs b ih =>
    have hb := b.isLt
    rw [digitsValue?, List.flatMap_append, List.foldl_append, ← digitsValue?, ih,
      bytesValue_append_singleton]
    simp only [List.flatMap_cons, List.flatMap_nil, List.append_nil, byteDigits, List.foldl_cons,
      List.foldl_nil, pushDigit?_digitChar (show b.val / 16 < 16 by omega),
      pushDigit?_digitChar (show b.val % 16 < 16 by omega), Option.some.injEq]
    omega

/-- What has a value in some base is written with hex digits. -/
theorem exists_hexDigit?_of_digitsValue? {base : ℕ} {ds : List Char} {n : ℕ} (h : digitsValue? base ds = some n)
    {c : Char} (hc : c ∈ ds) : ∃ d, hexDigit? c = some d := by
  induction ds using List.reverseRecOn generalizing n with
  | nil => cases hc
  | append_singleton ds last ih =>
    rw [digitsValue?, List.foldl_append, ← digitsValue?, List.foldl_cons, List.foldl_nil] at h
    unfold pushDigit? at h
    split at h
    · rename_i m d hm hd
      rcases List.mem_append.mp hc with hinit | hlast
      · exact ih hm hinit
      · rw [List.mem_singleton.mp hlast]
        exact ⟨d, hd⟩
    · cases h

/-- `BigInt` of `0x` and the hex digits of a number. -/
theorem bigIntOfText_hexDigits {ds : List Char} {n : ℕ} (hne : ds ≠ []) (h : digitsValue? 16 ds = some n) :
    bigIntOfText (String.ofList ('0' :: 'x' :: ds)) = some (n : ℤ) := by
  have hspace : ∀ c ∈ '0' :: 'x' :: ds, isSpace c = false := by
    intro c hc
    simp only [List.mem_cons] at hc
    rcases hc with rfl | rfl | hc
    · rfl
    · rfl
    · obtain ⟨d, hd⟩ := exists_hexDigit?_of_digitsValue? h hc
      exact isSpace_of_hexDigit? hd
  rw [bigIntOfText, String.toList_ofList, trim_of_no_space hspace]
  simp [radix?, literal?, hne, h]

/-- `BigInt(hexlify(bytes))` is the big-endian value of a non-empty byte string. -/
theorem bigIntOfText_hexlify {bs : Bytes} (h : bs ≠ []) :
    bigIntOfText (hexlify bs) = some (bytesValue bs : ℤ) := by
  have hne : bs.flatMap byteDigits ≠ [] := by
    obtain ⟨b, bs', rfl⟩ := List.exists_cons_of_ne_nil h
    simp [byteDigits]
  exact bigIntOfText_hexDigits hne (digitsValue?_flatMap bs)

/-- `BigInt(toQuantity(n))`. -/
theorem bigIntOfText_toQuantity (n : ℕ) : bigIntOfText (toQuantity n) = some (n : ℤ) :=
  bigIntOfText_hexDigits Nat.toDigits_ne_nil (digitsValue?_toDigits n)

end AccountAbstraction.Js
