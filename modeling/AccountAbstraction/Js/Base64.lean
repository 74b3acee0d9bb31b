import AccountAbstraction.Js.Text

/-!
# Base64 as Node's `Buffer` writes and reads it

`buffer.toString("base64url")` writes groups of six bits without padding.
`Buffer.from(s, "base64url")` is a lenient reader: it looks at the low byte of every
code unit, accepts both alphabets, stops at the first `=`, skips whatever is
not a digit and drops a last group that is too short for a byte.

* `base64urlDecode_base64urlEncode`: reading what was written.
* `length_base64urlDecode`: a text spells at most two bytes for each character.
-/

namespace AccountAbstraction.Js

/-! ## Digits -/

/-- The digit for six bits. -/
def base64urlDigit (n : ℕ) : Char :=
  if n < 26 then Char.ofNat (65 + n)
  else if n < 52 then Char.ofNat (97 + (n - 26))
  else if n < 62 then Char.ofNat (48 + (n - 52))
  else if n = 62 then '-' else '_'

/-- The six bits of a byte that is a digit of one of the alphabets. -/
def sextet? (u : ℕ) : Option ℕ :=
  if 65 ≤ u ∧ u ≤ 90 then some (u - 65)
  else if 97 ≤ u ∧ u ≤ 122 then some (u - 71)
  else if 48 ≤ u ∧ u ≤ 57 then some (u + 4)
  else if u = 43 ∨ u = 45 then some 62
  else if u = 47 ∨ u = 95 then some 63
  else none

/-- A digit is one code unit, which is not `=` and is read as its six bits. -/
theorem base64urlDigit_spec {n : ℕ} (h : n < 64) :
    utf16Units (base64urlDigit n) = [(base64urlDigit n).toNat] ∧
      (base64urlDigit n).toNat < 256 ∧ (base64urlDigit n).toNat ≠ 61 ∧
      sextet? (base64urlDigit n).toNat = some n := by
  have hall : ∀ i : Fin 64, utf16Units (base64urlDigit i) = [(base64urlDigit i).toNat] ∧
      (base64urlDigit i).toNat < 256 ∧ (base64urlDigit i).toNat ≠ 61 ∧
      sextet? (base64urlDigit i).toNat = some i.val := by decide +kernel
  exact hall ⟨n, h⟩

/-! ## Writing -/

/-- The six-bit groups of some bytes; the last group is filled up with zeros. -/
def toSextets : Bytes → List ℕ
  | a :: b :: c :: bs =>
    a.val / 4 :: (a.val % 4 * 16 + b.val / 16) :: (b.val % 16 * 4 + c.val / 64) :: c.val % 64 ::
      toSextets bs
  | [a, b] => [a.val / 4, a.val % 4 * 16 + b.val / 16, b.val % 16 * 4]
  | [a] => [a.val / 4, a.val % 4 * 16]
  | [] => []

/-- `buffer.toString("base64url")`. -/
def base64urlEncode (bs : Bytes) : String := String.ofList ((toSextets bs).map base64urlDigit)

/-! ## Reading -/

/-- The bytes of six-bit groups. -/
def ofSextets : List ℕ → Bytes
  | a :: b :: c :: d :: ss =>
    Fin.ofNat 256 (a * 4 + b / 16) :: Fin.ofNat 256 (b % 16 * 16 + c / 4) ::
      Fin.ofNat 256 (c % 4 * 64 + d) :: ofSextets ss
  | [a, b, c] => [Fin.ofNat 256 (a * 4 + b / 16), Fin.ofNat 256 (b % 16 * 16 + c / 4)]
  | [a, b] => [Fin.ofNat 256 (a * 4 + b / 16)]
  | _ => []

/-- The six-bit groups that a text spells. -/
def sextets (s : String) : List ℕ :=
  (((s.toList.flatMap utf16Units).map (· % 256)).takeWhile (· ≠ 61)).filterMap sextet?

/-- `Buffer.from(s, "base64url")`. -/
def base64urlDecode (s : String) : Bytes := ofSextets (sextets s)

/-! ## Reading what was written -/

theorem toSextets_lt (bs : Bytes) : ∀ n ∈ toSextets bs, n < 64 := by
  fun_induction toSextets bs with
  | case1 a b c bs ih =>
    intro n hn
    simp only [List.mem_cons] at hn
    rcases hn with rfl | rfl | rfl | rfl | hn
    · omega
    · omega
    · omega
    · omega
    · exact ih n hn
  | case2 a b =>
    intro n hn
    simp only [List.mem_cons, List.not_mem_nil, or_false] at hn
    omega
  | case3 a =>
    intro n hn
    simp only [List.mem_cons, List.not_mem_nil, or_false] at hn
    omega
  | case4 => simp

theorem ofSextets_toSextets (bs : Bytes) : ofSextets (toSextets bs) = bs := by
  have hbyte : ∀ (b : Byte) (n : ℕ), n = b.val → Fin.ofNat 256 n = b := by
    rintro b n rfl
    exact Fin.ext (Nat.mod_eq_of_lt b.isLt)
  fun_induction toSextets bs with
  | case1 a b c bs ih =>
    rw [ofSextets, ih, hbyte a _ (by omega), hbyte b _ (by omega), hbyte c _ (by omega)]
  | case2 a b => rw [ofSextets, hbyte a _ (by omega), hbyte b _ (by omega)]
  | case3 a => rw [ofSextets, hbyte a _ (by omega)]
  | case4 => rfl

theorem sextets_digits {ns : List ℕ} (h : ∀ n ∈ ns, n < 64) :
    sextets (String.ofList (ns.map base64urlDigit)) = ns := by
  unfold sextets
  rw [String.toList_ofList]
  induction ns with
  | nil => rfl
  | cons n ns ih =>
    obtain ⟨hunit, hlt, hne, hsextet⟩ := base64urlDigit_spec (h n List.mem_cons_self)
    have hns := ih fun m hm => h m (List.mem_cons_of_mem _ hm)
    rw [List.map_cons, List.flatMap_cons, hunit, List.singleton_append, List.map_cons,
      Nat.mod_eq_of_lt hlt, List.takeWhile_cons_of_pos (by simpa using hne),
      List.filterMap_cons_some hsextet, hns]

@[simp] theorem base64urlDecode_base64urlEncode (bs : Bytes) :
    base64urlDecode (base64urlEncode bs) = bs := by
  rw [base64urlDecode, base64urlEncode, sextets_digits (toSextets_lt bs), ofSextets_toSextets]

/-- A text in base64url consists of digits. -/
theorem mem_base64urlEncode {bs : Bytes} {c : Char} (h : c ∈ (base64urlEncode bs).toList) :
    ∃ n < 64, base64urlDigit n = c := by
  rw [base64urlEncode, String.toList_ofList] at h
  obtain ⟨n, hn, rfl⟩ := List.mem_map.mp h
  exact ⟨n, toSextets_lt bs n hn, rfl⟩

/-! ## Lengths -/

theorem length_ofSextets (ss : List ℕ) : (ofSextets ss).length ≤ ss.length := by
  fun_induction ofSextets ss with
  | case1 a b c d ss ih =>
    simp only [List.length_cons]
    omega
  | case2 => simp
  | case3 => simp
  | case4 => simp

theorem length_flatMap_utf16Units (cs : List Char) :
    (cs.flatMap utf16Units).length ≤ 2 * cs.length := by
  induction cs with
  | nil => simp
  | cons c cs ih =>
    have := length_utf16Units c
    rw [List.flatMap_cons, List.length_append, List.length_cons]
    omega

theorem length_base64urlDecode (s : String) :
    (base64urlDecode s).length ≤ 2 * s.toList.length := by
  have hunits := length_flatMap_utf16Units s.toList
  have htake := (List.takeWhile_sublist (· ≠ 61)
    (l := (s.toList.flatMap utf16Units).map (· % 256))).length_le
  rw [List.length_map] at htake
  calc (base64urlDecode s).length ≤ (sextets s).length := length_ofSextets _
    _ ≤ _ := List.length_filterMap_le _ _
    _ ≤ 2 * s.toList.length := htake.trans hunits

example : base64urlDecode "TWE" = [77, 97] ∧ base64urlDecode "T.W E=xyz" = [77, 97] := by
  decide +kernel

end AccountAbstraction.Js
