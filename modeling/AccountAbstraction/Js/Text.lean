import AccountAbstraction.Js.Hex

/-!
# Strings as code units and as bytes

A JavaScript string is a sequence of UTF-16 code units. The model holds the
characters they spell; this module gives the code units and the UTF-8 bytes of
a string, and reads both back. Reading bytes follows the WHATWG decoder that
`buffer.toString("utf8")` and `decodeURIComponent` share: a state of at most
three outstanding bytes, with the range of the next one.

* `utf16Decode_flatMap`: the characters of the code units of a text.
* `utf8Decode_utf8Encode`: decoding what was encoded.
* `utf8Encode_injective`: strings with the same bytes are the same.
* `length_decodeURIComponent`: percent-decoding does not make a text longer.
-/

namespace AccountAbstraction.Js

/-! ## UTF-16 -/

/-- The replacement character, for what is not a character. -/
def replacement : Char := '\uFFFD'

/-- The code units of a character. -/
def utf16Units (c : Char) : List ℕ :=
  if c.toNat < 0x10000 then [c.toNat]
  else [0xD800 + (c.toNat - 0x10000) / 1024, 0xDC00 + (c.toNat - 0x10000) % 1024]

/-- A code unit that stands for a character by itself. -/
def unitChar (u : ℕ) : Char := if 0xD800 ≤ u ∧ u < 0xE000 then replacement else Char.ofNat u

/-- The text that code units spell. A surrogate without its partner, which no
    character stands for, is read as the replacement character. -/
def utf16Decode : List ℕ → List Char
  | [] => []
  | [u] => [unitChar u]
  | u :: v :: us =>
    if 0xD800 ≤ u ∧ u < 0xDC00 ∧ 0xDC00 ≤ v ∧ v < 0xE000 then
      Char.ofNat (0x10000 + (u - 0xD800) * 1024 + (v - 0xDC00)) :: utf16Decode us
    else unitChar u :: utf16Decode (v :: us)

/-- A character is not a surrogate. -/
theorem toNat_bounds (c : Char) : c.toNat < 0xD800 ∨ 0xE000 ≤ c.toNat ∧ c.toNat < 0x110000 := by
  have hvalid : c.toNat < 0xD800 ∨ 0xDFFF < c.toNat ∧ c.toNat < 0x110000 := c.valid
  omega

theorem length_utf16Units (c : Char) : (utf16Units c).length ≤ 2 := by
  unfold utf16Units
  split_ifs <;> simp

theorem utf16Decode_units (c : Char) (us : List ℕ) :
    utf16Decode (utf16Units c ++ us) = c :: utf16Decode us := by
  have hbounds := toNat_bounds c
  unfold utf16Units
  split_ifs with hc
  · have hunit : unitChar c.toNat = c := by
      rw [unitChar, if_neg (by omega), Char.ofNat_toNat]
    cases us with
    | nil =>
      show [unitChar c.toNat] = [c]
      rw [hunit]
    | cons u us =>
      rw [List.cons_append, List.nil_append, utf16Decode, if_neg (by omega), hunit]
  · rw [List.cons_append, List.cons_append, List.nil_append, utf16Decode, if_pos (by omega)]
    have hnat : 0x10000 + (0xD800 + (c.toNat - 0x10000) / 1024 - 0xD800) * 1024 +
        (0xDC00 + (c.toNat - 0x10000) % 1024 - 0xDC00) = c.toNat := by omega
    rw [hnat, Char.ofNat_toNat]

@[simp] theorem utf16Decode_flatMap (cs : List Char) :
    utf16Decode (cs.flatMap utf16Units) = cs := by
  induction cs with
  | nil => rfl
  | cons c cs ih => rw [List.flatMap_cons, utf16Decode_units, ih]

/-! ## Writing UTF-8 -/

/-- The byte after the first one with the six bits of `n`. -/
def continuation (n : ℕ) : Byte := Fin.ofNat 256 (0x80 + n % 64)

/-- The bytes of a character. -/
def utf8Char (c : Char) : Bytes :=
  let n := c.toNat
  if n < 0x80 then [Fin.ofNat 256 n]
  else if n < 0x800 then [Fin.ofNat 256 (0xC0 + n / 64), continuation n]
  else if n < 0x10000 then
    [Fin.ofNat 256 (0xE0 + n / 4096), continuation (n / 64), continuation n]
  else
    [Fin.ofNat 256 (0xF0 + n / 262144), continuation (n / 4096), continuation (n / 64),
      continuation n]

/-- `Buffer.from(s)`. -/
def utf8Encode (s : String) : Bytes := s.toList.flatMap utf8Char

/-! ## Reading UTF-8 -/

/-- A character of which some bytes are read: how many follow the next byte, the
    range of the next byte and the bits so far. -/
structure Unfinished where
  more : ℕ
  lower : ℕ
  upper : ℕ
  bits : ℕ

/-- What a byte adds. -/
inductive Utf8Step
  | char (c : Char)
  | wait (u : Unfinished)
  | invalid

/-- A byte where a character starts. -/
def firstByte (b : Byte) : Utf8Step :=
  let n := b.val
  if n < 0x80 then .char (Char.ofNat n)
  else if n < 0xC2 then .invalid
  else if n < 0xE0 then .wait ⟨0, 0x80, 0xBF, n - 0xC0⟩
  else if n = 0xE0 then .wait ⟨1, 0xA0, 0xBF, 0⟩
  else if n = 0xED then .wait ⟨1, 0x80, 0x9F, 13⟩
  else if n < 0xF0 then .wait ⟨1, 0x80, 0xBF, n - 0xE0⟩
  else if n = 0xF0 then .wait ⟨2, 0x90, 0xBF, 0⟩
  else if n < 0xF4 then .wait ⟨2, 0x80, 0xBF, n - 0xF0⟩
  else if n = 0xF4 then .wait ⟨2, 0x80, 0x8F, 4⟩
  else .invalid

/-- A byte in the middle of a character. -/
def nextByte (u : Unfinished) (b : Byte) : Utf8Step :=
  if u.lower ≤ b.val ∧ b.val ≤ u.upper then
    let bits := u.bits * 64 + (b.val - 0x80)
    match u.more with
    | 0 => .char (Char.ofNat bits)
    | more + 1 => .wait ⟨more, 0x80, 0xBF, bits⟩
  else .invalid

/-- The characters that a byte completes where a character starts, and the state
    after it. -/
def startWith (b : Byte) : List Char × Option Unfinished :=
  match firstByte b with
  | .char c => ([c], none)
  | .wait u => ([], some u)
  | .invalid => ([replacement], none)

/-- The same in any state. A byte that cannot continue a character ends it as
    invalid and is then read as a first one. -/
def feed (state : Option Unfinished) (b : Byte) : List Char × Option Unfinished :=
  match state with
  | none => startWith b
  | some u =>
    match nextByte u b with
    | .char c => ([c], none)
    | .wait u' => ([], some u')
    | .invalid => (replacement :: (startWith b).1, (startWith b).2)

/-- The characters of the bytes that follow a state. -/
def decodeFrom (state : Option Unfinished) : Bytes → List Char
  | [] => if state.isSome then [replacement] else []
  | b :: bs => (feed state b).1 ++ decodeFrom (feed state b).2 bs

/-- `buffer.toString("utf8")`. -/
def utf8Decode (bs : Bytes) : String := String.ofList (decodeFrom none bs)

/-! ## Reading what was written -/

theorem val_continuation (n : ℕ) : (continuation n).val = 0x80 + n % 64 := by
  simp only [continuation, Fin.ofNat]
  omega

theorem decodeFrom_char {b : Byte} {c : Char} (h : firstByte b = .char c) (bs : Bytes) :
    decodeFrom none (b :: bs) = c :: decodeFrom none bs := by
  simp [decodeFrom, feed, startWith, h]

theorem decodeFrom_first {b : Byte} {u : Unfinished} (h : firstByte b = .wait u) (bs : Bytes) :
    decodeFrom none (b :: bs) = decodeFrom (some u) bs := by
  simp [decodeFrom, feed, startWith, h]

/-- A continuation byte in range, with more to come. -/
theorem decodeFrom_next {more lower upper bits n : ℕ} (hlower : lower ≤ 0x80 + n % 64)
    (hupper : 0x80 + n % 64 ≤ upper) (bs : Bytes) :
    decodeFrom (some ⟨more + 1, lower, upper, bits⟩) (continuation n :: bs) =
      decodeFrom (some ⟨more, 0x80, 0xBF, bits * 64 + n % 64⟩) bs := by
  simp [decodeFrom, feed, nextByte, val_continuation, hlower, hupper]

/-- A continuation byte in range that is the last one. -/
theorem decodeFrom_last {lower upper bits n : ℕ} (hlower : lower ≤ 0x80 + n % 64)
    (hupper : 0x80 + n % 64 ≤ upper) (bs : Bytes) :
    decodeFrom (some ⟨0, lower, upper, bits⟩) (continuation n :: bs) =
      Char.ofNat (bits * 64 + n % 64) :: decodeFrom none bs := by
  simp [decodeFrom, feed, nextByte, val_continuation, hlower, hupper]

theorem val_ofNat {n : ℕ} (h : n < 256) : (Fin.ofNat 256 n : Byte).val = n := Nat.mod_eq_of_lt h

theorem decodeFrom_utf8Char (c : Char) (bs : Bytes) :
    decodeFrom none (utf8Char c ++ bs) = c :: decodeFrom none bs := by
  have hbounds := toNat_bounds c
  have hchar : ∀ n, n = c.toNat → Char.ofNat n = c := by
    rintro n rfl
    exact Char.ofNat_toNat c
  unfold utf8Char
  simp only
  split_ifs with h1 h2 h3
  · have hfirst : firstByte (Fin.ofNat 256 c.toNat) = .char c := by
      simp only [firstByte, val_ofNat (show c.toNat < 256 by omega)]
      rw [if_pos h1, Char.ofNat_toNat]
    exact decodeFrom_char hfirst bs
  · have hfirst : firstByte (Fin.ofNat 256 (0xC0 + c.toNat / 64)) =
        .wait ⟨0, 0x80, 0xBF, c.toNat / 64⟩ := by
      simp only [firstByte, val_ofNat (show 0xC0 + c.toNat / 64 < 256 by omega)]
      rw [if_neg (by omega), if_neg (by omega), if_pos (by omega), Nat.add_sub_cancel_left]
    rw [List.cons_append, decodeFrom_first hfirst, List.cons_append,
      decodeFrom_last (by omega) (by omega), List.nil_append, hchar _ (by omega)]
  · -- The second byte of `E0` and `ED` has a smaller range.
    obtain ⟨lower, upper, hfirst, hlower, hupper⟩ : ∃ lower upper,
        firstByte (Fin.ofNat 256 (0xE0 + c.toNat / 4096)) =
          .wait ⟨1, lower, upper, c.toNat / 4096⟩ ∧
        lower ≤ 0x80 + c.toNat / 64 % 64 ∧ 0x80 + c.toNat / 64 % 64 ≤ upper := by
      simp only [firstByte, val_ofNat (show 0xE0 + c.toNat / 4096 < 256 by omega)]
      rw [if_neg (by omega), if_neg (by omega), if_neg (by omega)]
      split_ifs with he0 hed
      · exact ⟨0xA0, 0xBF, by rw [show c.toNat / 4096 = 0 by omega], by omega, by omega⟩
      · exact ⟨0x80, 0x9F, by rw [show c.toNat / 4096 = 13 by omega], by omega, by omega⟩
      · exact ⟨0x80, 0xBF, by rw [Nat.add_sub_cancel_left], by omega, by omega⟩
      all_goals omega
    rw [List.cons_append, decodeFrom_first hfirst, List.cons_append,
      decodeFrom_next hlower hupper, List.cons_append, decodeFrom_last (by omega) (by omega),
      List.nil_append, hchar _ (by omega)]
  · -- So has that of `F0` and `F4`.
    obtain ⟨lower, upper, hfirst, hlower, hupper⟩ : ∃ lower upper,
        firstByte (Fin.ofNat 256 (0xF0 + c.toNat / 262144)) =
          .wait ⟨2, lower, upper, c.toNat / 262144⟩ ∧
        lower ≤ 0x80 + c.toNat / 4096 % 64 ∧ 0x80 + c.toNat / 4096 % 64 ≤ upper := by
      simp only [firstByte, val_ofNat (show 0xF0 + c.toNat / 262144 < 256 by omega)]
      rw [if_neg (by omega), if_neg (by omega), if_neg (by omega), if_neg (by omega),
        if_neg (by omega), if_neg (by omega)]
      split_ifs with hf0 hf3 hf4
      · exact ⟨0x90, 0xBF, by rw [show c.toNat / 262144 = 0 by omega], by omega, by omega⟩
      · exact ⟨0x80, 0xBF, by rw [Nat.add_sub_cancel_left], by omega, by omega⟩
      · exact ⟨0x80, 0x8F, by rw [show c.toNat / 262144 = 4 by omega], by omega, by omega⟩
      · omega
    rw [List.cons_append, decodeFrom_first hfirst, List.cons_append,
      decodeFrom_next hlower hupper, List.cons_append, decodeFrom_next (by omega) (by omega),
      List.cons_append, decodeFrom_last (by omega) (by omega), List.nil_append,
      hchar _ (by omega)]

theorem decodeFrom_flatMap (cs : List Char) : decodeFrom none (cs.flatMap utf8Char) = cs := by
  induction cs with
  | nil => rfl
  | cons c cs ih => rw [List.flatMap_cons, decodeFrom_utf8Char, ih]

@[simp] theorem utf8Decode_utf8Encode (s : String) : utf8Decode (utf8Encode s) = s := by
  rw [utf8Decode, utf8Encode, decodeFrom_flatMap, String.ofList_toList]

theorem utf8Encode_injective : Function.Injective utf8Encode :=
  Function.LeftInverse.injective utf8Decode_utf8Encode

/-! ## `decodeURIComponent` -/

/-- The text with the bytes of its escapes, or `none` for a `%` without two hex
    digits. -/
def unescape : List Char → Option (List (Char ⊕ Byte))
  | [] => some []
  | '%' :: a :: b :: cs =>
    match hexDigit? a, hexDigit? b with
    | some x, some y => (unescape cs).map (.inr (Fin.ofNat 256 (16 * x + y)) :: ·)
    | _, _ => none
  | '%' :: _ => none
  | c :: cs => (unescape cs).map (.inl c :: ·)

/-- A byte in any state. -/
def readByte (state : Option Unfinished) (b : Byte) : Utf8Step :=
  match state with
  | none => firstByte b
  | some u => nextByte u b

/-- The characters of a text whose escapes spell whole characters. -/
def decodeEscapes (state : Option Unfinished) : List (Char ⊕ Byte) → Option (List Char)
  | [] => if state.isSome then none else some []
  | .inl c :: us => if state.isSome then none else (decodeEscapes none us).map (c :: ·)
  | .inr b :: us =>
    match readByte state b with
    | .char c => (decodeEscapes none us).map (c :: ·)
    | .wait u => decodeEscapes (some u) us
    | .invalid => none

/-- `decodeURIComponent(s)`, or `none` where it throws. -/
def decodeURIComponent (s : String) : Option String :=
  ((unescape s.toList).bind (decodeEscapes none)).map String.ofList

theorem length_unescape : ∀ {cs : List Char} {us : List (Char ⊕ Byte)},
    unescape cs = some us → us.length ≤ cs.length := by
  intro cs
  fun_induction unescape cs with
  | case1 => simp
  | case2 a b cs x y _ _ ih =>
    intro us h
    obtain ⟨vs, hvs, rfl⟩ := Option.map_eq_some_iff.mp h
    have := ih hvs
    simp only [List.length_cons]
    omega
  | case3 => intro us h; cases h
  | case4 => intro us h; cases h
  | case5 c cs _ _ ih =>
    intro us h
    obtain ⟨vs, hvs, rfl⟩ := Option.map_eq_some_iff.mp h
    have := ih hvs
    simp only [List.length_cons]
    omega

theorem length_decodeEscapes {us : List (Char ⊕ Byte)} : ∀ {state : Option Unfinished}
    {cs : List Char}, decodeEscapes state us = some cs → cs.length ≤ us.length := by
  induction us with
  | nil =>
    intro state cs h
    rw [decodeEscapes] at h
    split_ifs at h
    cases h
    simp
  | cons u us ih =>
    intro state cs h
    have hstep : ∃ state' cs', decodeEscapes state' us = some cs' ∧ cs.length ≤ cs'.length + 1 := by
      cases u with
      | inl c =>
        rw [decodeEscapes] at h
        split_ifs at h
        obtain ⟨cs', hcs', rfl⟩ := Option.map_eq_some_iff.mp h
        exact ⟨none, cs', hcs', by simp⟩
      | inr b =>
        rw [decodeEscapes] at h
        split at h
        · obtain ⟨cs', hcs', rfl⟩ := Option.map_eq_some_iff.mp h
          exact ⟨none, cs', hcs', by simp⟩
        · exact ⟨_, cs, h, by simp⟩
        · cases h
    obtain ⟨state', cs', hcs', hle⟩ := hstep
    have := ih hcs'
    simp only [List.length_cons]
    omega

theorem length_decodeURIComponent {s t : String} (h : decodeURIComponent s = some t) :
    t.toList.length ≤ s.toList.length := by
  obtain ⟨cs, hcs, rfl⟩ := Option.map_eq_some_iff.mp h
  obtain ⟨us, hus, hdecode⟩ := Option.bind_eq_some_iff.mp hcs
  rw [String.toList_ofList]
  exact (length_decodeEscapes hdecode).trans (length_unescape hus)

theorem unescape_of_not_mem {cs : List Char} (h : '%' ∉ cs) : unescape cs = some (cs.map .inl) := by
  induction cs with
  | nil => rfl
  | cons c cs ih =>
    rw [List.mem_cons, not_or] at h
    have hc : c ≠ '%' := Ne.symm h.1
    rw [unescape.eq_4 c cs (fun _ _ _ hpercent _ => hc hpercent) hc, ih h.2]
    rfl

theorem decodeEscapes_inl (cs : List Char) : decodeEscapes none (cs.map .inl) = some cs := by
  induction cs with
  | nil => rfl
  | cons c cs ih => simp [decodeEscapes, ih]

/-- A text without `%` stands for itself. -/
theorem decodeURIComponent_of_not_mem {s : String} (h : '%' ∉ s.toList) : decodeURIComponent s = some s := by
  rw [decodeURIComponent, unescape_of_not_mem h, Option.bind_some, decodeEscapes_inl, Option.map_some,
    String.ofList_toList]

example : decodeURIComponent "a%2Fb%C3%A9" = some "a/bé" ∧ decodeURIComponent "%E0%80%80" = none ∧
    decodeURIComponent "100%" = none := by decide +kernel

end AccountAbstraction.Js
