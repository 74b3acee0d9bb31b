import AccountAbstraction.Js.Json

/-!
# Hex strings

The hex helpers of the `ethers` package on JavaScript strings: `isHexString`,
`getBytes`, `hexlify`, `dataSlice`, `toQuantity`. A string is a data hex string
when it is `0x` followed by an even number of hex digits of either case;
`getBytes` reads it, `hexlify` writes bytes back in lower case.

* `getBytes_hexlify`: reading what was written.
* `exists_getBytes`: a text of the length of `n` bytes is read to `n` bytes.
* `lower_of_getBytes`: the lower case of a data hex string is what `hexlify`
  writes for its bytes.
* `toQuantity_injective`: distinct integers have distinct quantities.
-/

namespace AccountAbstraction.Js

abbrev Byte := Fin 256
abbrev Bytes := List Byte

instance neZero_byte : NeZero 256 := ⟨by decide⟩

/-- `s.toLowerCase()` on ASCII text. -/
def lower (s : String) : String := String.ofList (s.toList.map Char.toLower)

@[simp] theorem toList_lower (s : String) : (lower s).toList = s.toList.map Char.toLower := by
  simp [lower]

/-! ## Digits -/

/-- The value of a hex digit of either case. -/
def hexDigit? (c : Char) : Option ℕ :=
  if 48 ≤ c.toNat ∧ c.toNat ≤ 57 then some (c.toNat - 48)
  else if 97 ≤ c.toNat ∧ c.toNat ≤ 102 then some (c.toNat - 87)
  else if 65 ≤ c.toNat ∧ c.toNat ≤ 70 then some (c.toNat - 55)
  else none

theorem hexDigit?_digitChar {d : ℕ} (h : d < 16) : hexDigit? d.digitChar = some d := by
  interval_cases d <;> rfl

theorem hexDigit?_lt {c : Char} {d : ℕ} (h : hexDigit? c = some d) : d < 16 := by
  unfold hexDigit? at h
  split_ifs at h <;> simp only [Option.some.injEq] at h <;> omega

/-- The lower case of a hex digit is the digit character of its value. -/
theorem toLower_of_hexDigit? {c : Char} {d : ℕ} (h : hexDigit? c = some d) :
    c.toLower = d.digitChar := by
  have hc : c = Char.ofNat c.toNat := (Char.ofNat_toNat c).symm
  unfold hexDigit? at h
  split_ifs at h with h1 h2 h3 <;> simp only [Option.some.injEq] at h <;> subst h <;> rw [hc]
  · obtain ⟨ha, hb⟩ := h1
    interval_cases c.toNat <;> rfl
  · obtain ⟨ha, hb⟩ := h2
    interval_cases c.toNat <;> rfl
  · obtain ⟨ha, hb⟩ := h3
    interval_cases c.toNat <;> rfl

/-- Append one digit to a number written in base `base`; `none` when the character
    is not a digit of that base. -/
def pushDigit? (base : ℕ) (acc : Option ℕ) (c : Char) : Option ℕ :=
  match acc, hexDigit? c with
  | some n, some d => if d < base then some (base * n + d) else none
  | _, _ => none

/-- The number that a list of digits writes in base `base ≤ 16`. -/
def digitsValue? (base : ℕ) (ds : List Char) : Option ℕ := ds.foldl (pushDigit? base) (some 0)

/-- Two digits a byte. -/
def digitsBytes? : List Char → Option Bytes
  | [] => some []
  | [_] => none
  | hi :: lo :: ds =>
    match hexDigit? hi, hexDigit? lo, digitsBytes? ds with
    | some a, some b, some bs => some (Fin.ofNat 256 (16 * a + b) :: bs)
    | _, _, _ => none

/-- The two digits of a byte. -/
def byteDigits (b : Byte) : List Char := [(b.val / 16).digitChar, (b.val % 16).digitChar]

theorem digitsBytes?_flatMap (bs : Bytes) : digitsBytes? (bs.flatMap byteDigits) = some bs := by
  induction bs with
  | nil => rfl
  | cons b bs ih =>
    have hb := b.isLt
    simp only [List.flatMap_cons, byteDigits, List.cons_append, List.nil_append, digitsBytes?,
      hexDigit?_digitChar (show b.val / 16 < 16 by omega),
      hexDigit?_digitChar (show b.val % 16 < 16 by omega)]
    rw [ih]
    simp only [Option.some.injEq, List.cons.injEq, and_true]
    ext
    simp only [Fin.ofNat]
    omega

/-- Reading digits and writing the bytes back gives the digits in lower case. -/
theorem flatMap_of_digitsBytes? : ∀ {ds : List Char} {bs : Bytes},
    digitsBytes? ds = some bs → ds.map Char.toLower = bs.flatMap byteDigits
  | [], bs, h => by cases h; rfl
  | [_], _, h => by cases h
  | hi :: lo :: ds, bs, h => by
    simp only [digitsBytes?] at h
    split at h
    · rename_i a b bs' ha hb hds
      cases h
      have ha16 := hexDigit?_lt ha
      have hb16 := hexDigit?_lt hb
      have hval : (Fin.ofNat 256 (16 * a + b)).val = 16 * a + b := by
        simp only [Fin.ofNat]; omega
      simp only [List.map_cons, List.flatMap_cons, byteDigits, hval, List.cons_append,
        List.nil_append, flatMap_of_digitsBytes? hds, toLower_of_hexDigit? ha,
        toLower_of_hexDigit? hb]
      rw [show (16 * a + b) / 16 = a by omega, show (16 * a + b) % 16 = b by omega]
    · cases h

/-! ## `isHexString` -/

/-- The characters behind the `0x`. -/
def hexBody? (s : String) : Option (List Char) :=
  match s.toList with
  | '0' :: 'x' :: ds => some ds
  | _ => none

/-- `isHexString(s)` for a string: `/^0x[0-9A-Fa-f]*$/`. -/
def isHexText (s : String) : Bool :=
  match hexBody? s with
  | some ds => ds.all fun c => (hexDigit? c).isSome
  | none => false

/-- `isHexString(s, n)` for a string. -/
def isHexTextOf (n : ℕ) (s : String) : Bool := isHexText s && s.toList.length == 2 + 2 * n

/-- A string that passed `isHexString(s)`. -/
abbrev HexString := {s : String // isHexText s = true}

/-- A string that passed `isHexString(s, 32)`. -/
abbrev Bytes32 := {s : String // isHexTextOf 32 s = true}

/-- `0x` and forty hex digits, the form in which `getAddress` returns an address. -/
abbrev AddressText := {s : String // isHexTextOf 20 s = true}

/-- `isHexString(v)` for a value of any type. -/
def isHexString : Option Json → Option HexString
  | some (.str s) => if h : isHexText s = true then some ⟨s, h⟩ else none
  | _ => none

/-- `isHexString(v, 32)` for a value of any type. -/
def isHexString32 : Option Json → Option Bytes32
  | some (.str s) => if h : isHexTextOf 32 s = true then some ⟨s, h⟩ else none
  | _ => none

theorem isHexString_eq_some {v : Option Json} {x : HexString} (h : isHexString v = some x) :
    v = some (.str x.val) := by
  unfold isHexString at h
  split at h
  · split_ifs at h
    cases h; rfl
  · cases h

theorem isHexString32_eq_some {v : Option Json} {x : Bytes32} (h : isHexString32 v = some x) :
    v = some (.str x.val) := by
  unfold isHexString32 at h
  split at h
  · split_ifs at h
    cases h; rfl
  · cases h

@[simp] theorem isHexString_str (x : HexString) : isHexString (some (.str x.val)) = some x := by
  simp [isHexString, x.property]

@[simp] theorem isHexString32_str (x : Bytes32) : isHexString32 (some (.str x.val)) = some x := by
  simp [isHexString32, x.property]

theorem isHexTextOf_ne_empty {n : ℕ} {s : String} (h : isHexTextOf n s = true) : s ≠ "" := by
  rintro rfl
  simp [isHexTextOf, isHexText, hexBody?] at h

/-! ## Bytes -/

/-- `getBytes(s)`; it throws (`none`) unless `s` is a data hex string. -/
def getBytes (s : String) : Option Bytes := (hexBody? s).bind digitsBytes?

/-- `hexlify(bytes)`. -/
def hexlify (bs : Bytes) : String := String.ofList ('0' :: 'x' :: bs.flatMap byteDigits)

@[simp] theorem toList_hexlify (bs : Bytes) :
    (hexlify bs).toList = '0' :: 'x' :: bs.flatMap byteDigits := by
  simp [hexlify]

@[simp] theorem getBytes_hexlify (bs : Bytes) : getBytes (hexlify bs) = some bs := by
  simp [getBytes, hexBody?, digitsBytes?_flatMap]

theorem mem_flatMap_byteDigits {bs : Bytes} {c : Char} (h : c ∈ bs.flatMap byteDigits) :
    ∃ d < 16, c = d.digitChar := by
  obtain ⟨b, -, hc⟩ := List.mem_flatMap.mp h
  have hb := b.isLt
  simp only [byteDigits, List.mem_cons, List.not_mem_nil, or_false] at hc
  rcases hc with rfl | rfl
  · exact ⟨b.val / 16, by omega, rfl⟩
  · exact ⟨b.val % 16, by omega, rfl⟩

/-- `hexlify` writes two digits for a byte. -/
theorem isHexTextOf_hexlify (bs : Bytes) : isHexTextOf bs.length (hexlify bs) = true := by
  have hlength : (bs.flatMap byteDigits).length = 2 * bs.length := by
    simp [List.length_flatMap, byteDigits, mul_comm]
  have hall : (bs.flatMap byteDigits).all (fun c => (hexDigit? c).isSome) = true := by
    rw [List.all_eq_true]
    intro c hc
    obtain ⟨d, hd, rfl⟩ := mem_flatMap_byteDigits hc
    rw [hexDigit?_digitChar hd]
    rfl
  simp only [isHexTextOf, isHexText, hexBody?, toList_hexlify, hall, List.length_cons, hlength,
    Bool.true_and, beq_iff_eq]
  omega

theorem isHexText_hexlify (bs : Bytes) : isHexText (hexlify bs) = true :=
  (Bool.and_eq_true_iff.mp (isHexTextOf_hexlify bs)).1

theorem length_hexlify (bs : Bytes) : (hexlify bs).toList.length = 2 + 2 * bs.length :=
  beq_iff_eq.mp (Bool.and_eq_true_iff.mp (isHexTextOf_hexlify bs)).2

theorem hexlify_injective : Function.Injective hexlify := by
  intro a b h
  have := getBytes_hexlify a
  rw [h, getBytes_hexlify] at this
  exact (Option.some.inj this).symm

theorem hexBody?_eq_some {s : String} {ds : List Char} (h : hexBody? s = some ds) :
    s.toList = '0' :: 'x' :: ds := by
  unfold hexBody? at h
  split at h
  · rename_i ds' hs
    cases h; exact hs
  · cases h

/-- The lower case of a data hex string is what `hexlify` writes for its bytes. -/
theorem lower_of_getBytes {s : String} {bs : Bytes} (h : getBytes s = some bs) :
    lower s = hexlify bs := by
  obtain ⟨ds, hds, hbs⟩ := Option.bind_eq_some_iff.mp h
  apply String.toList_inj.mp
  rw [toList_lower, hexBody?_eq_some hds, toList_hexlify, List.map_cons, List.map_cons,
    flatMap_of_digitsBytes? hbs]
  rfl

theorem lower_hexlify (bs : Bytes) : lower (hexlify bs) = hexlify bs :=
  lower_of_getBytes (getBytes_hexlify bs)

/-- `dataSlice(s, start, end)`; it throws when `s` is not a data hex string or
    `end` is beyond it. Without an `end` it goes to the end of the data. -/
def dataSlice (s : String) (start : ℕ) (stop : Option ℕ := none) : Option String :=
  (getBytes s).bind fun bs =>
    match stop with
    | none => some (hexlify (bs.drop start))
    | some stop => if stop > bs.length then none else some (hexlify ((bs.take stop).drop start))

theorem dataSlice_to_eq_some {s text : String} {start stop : ℕ} :
    dataSlice s start (some stop) = some text ↔
      ∃ bs, getBytes s = some bs ∧ stop ≤ bs.length ∧ hexlify ((bs.take stop).drop start) = text := by
  simp only [dataSlice, Option.bind_eq_some_iff]
  constructor
  · rintro ⟨bs, hbs, h⟩
    split_ifs at h with hstop
    cases h
    exact ⟨bs, hbs, not_lt.mp hstop, rfl⟩
  · rintro ⟨bs, hbs, hstop, rfl⟩
    exact ⟨bs, hbs, if_neg (not_lt.mpr hstop)⟩

theorem dataSlice_from_eq_some {s text : String} {start : ℕ} :
    dataSlice s start = some text ↔ ∃ bs, getBytes s = some bs ∧ hexlify (bs.drop start) = text := by
  simp [dataSlice, Option.bind_eq_some_iff]

/-- An even number of hex digits is read. -/
theorem exists_digitsBytes? : ∀ (n : ℕ) (ds : List Char), ds.length = 2 * n →
    (∀ c ∈ ds, (hexDigit? c).isSome) → ∃ bs, digitsBytes? ds = some bs ∧ bs.length = n
  | 0, ds, hlength, _ => by
    rw [List.length_eq_zero_iff.mp hlength]
    exact ⟨[], rfl, rfl⟩
  | n + 1, [], hlength, _ => by simp at hlength
  | n + 1, [_], hlength, _ => by simp at hlength; omega
  | n + 1, hi :: lo :: ds, hlength, hdigits => by
    obtain ⟨a, ha⟩ := Option.isSome_iff_exists.mp (hdigits hi (by simp))
    obtain ⟨b, hb⟩ := Option.isSome_iff_exists.mp (hdigits lo (by simp))
    obtain ⟨bs, hbs, hn⟩ := exists_digitsBytes? n ds (by simp at hlength; omega)
      fun c hc => hdigits c (by simp [hc])
    exact ⟨_, by rw [digitsBytes?, ha, hb, hbs], by simp [hn]⟩

/-- A text of `n` bytes has `n` bytes. -/
theorem exists_getBytes {n : ℕ} {s : String} (h : isHexTextOf n s = true) :
    ∃ bs, getBytes s = some bs ∧ bs.length = n := by
  simp only [isHexTextOf, isHexText, Bool.and_eq_true, beq_iff_eq] at h
  obtain ⟨hdigits, hlength⟩ := h
  cases hbody : hexBody? s with
  | none => simp [hbody] at hdigits
  | some ds =>
    simp only [hbody, List.all_eq_true] at hdigits
    rw [hexBody?_eq_some hbody] at hlength
    obtain ⟨bs, hbs, hn⟩ := exists_digitsBytes? n ds (by simp at hlength; omega) hdigits
    exact ⟨bs, by rw [getBytes, hbody, Option.bind_some, hbs], hn⟩

theorem length_of_getBytes {text : String} {bs : Bytes} (h : getBytes text = some bs) :
    text.toList.length = 2 + 2 * bs.length := by
  rw [← length_hexlify, ← lower_of_getBytes h, toList_lower, List.length_map]

/-- A hex string is read to bytes exactly when its digits come in pairs. -/
theorem exists_getBytes_iff {text : String} (h : isHexText text = true) :
    (∃ bs, getBytes text = some bs) ↔ text.toList.length % 2 = 0 := by
  constructor
  · rintro ⟨bs, hbs⟩
    rw [length_of_getBytes hbs]
    omega
  · intro heven
    have hlong : 2 ≤ text.toList.length := by
      cases hbody : hexBody? text with
      | none => simp [isHexText, hbody] at h
      | some ds => simp [hexBody?_eq_some hbody]
    have hof : isHexTextOf ((text.toList.length - 2) / 2) text = true := by
      rw [isHexTextOf, h, Bool.true_and, beq_iff_eq]
      omega
    obtain ⟨bs, hbs, -⟩ := exists_getBytes hof
    exact ⟨bs, hbs⟩

/-! ## Quantities -/

/-- `toQuantity(n)` for a non-negative integer: hex without leading zeros. -/
def toQuantity (n : ℕ) : String := String.ofList ('0' :: 'x' :: Nat.toDigits 16 n)

/-- `toQuantity(v)` for a `bigint`; negative values throw. -/
def toQuantity? (v : ℤ) : Option String := if 0 ≤ v then some (toQuantity v.toNat) else none

theorem pushDigit?_digitChar {n d : ℕ} (h : d < 16) :
    pushDigit? 16 (some n) d.digitChar = some (16 * n + d) := by
  simp [pushDigit?, hexDigit?_digitChar h, h]

theorem digitsValue?_toDigits (n : ℕ) : digitsValue? 16 (Nat.toDigits 16 n) = some n := by
  induction n using Nat.strong_induction_on with
  | _ n ih =>
    rw [Nat.toDigits_eq_if (by norm_num)]
    split_ifs with h
    · simp [digitsValue?, pushDigit?_digitChar h]
    · rw [digitsValue?, List.foldl_append, ← digitsValue?, ih (n / 16) (by omega), List.foldl_cons,
        List.foldl_nil, pushDigit?_digitChar (Nat.mod_lt n (by norm_num)), Nat.div_add_mod]

theorem toQuantity_injective : Function.Injective toQuantity := by
  intro a b h
  have hl := congrArg String.toList h
  simp only [toQuantity, String.toList_ofList, List.cons.injEq, true_and] at hl
  have ha := digitsValue?_toDigits a
  rw [hl, digitsValue?_toDigits] at ha
  exact (Option.some.inj ha).symm

end AccountAbstraction.Js
