import AccountAbstraction.Abi.Encode

/-!
# Building hex strings

The helpers of the `ethers` package that put hex strings together: `toBeHex`,
`zeroPadValue` and `concat`.

* `bigIntOfText_toBeHex`: `BigInt` reads an integer back.
* `zeroPadValue_toBeHex`: the big-endian text of an integer in a given number of bytes.
* `concat_eq_some`: the text of some byte strings in a row.
-/

namespace AccountAbstraction.Js

open Abi

/-- `toBeHex(n)`: the shortest text of `n` in whole bytes. -/
def toBeHex (n : ℕ) : String := hexlify (bigEndian (n.log2 / 8 + 1) n)

/-- `zeroPadValue(data, length)`; `none` where it throws. -/
def zeroPadValue (data : String) (length : ℕ) : Option String :=
  (getBytes data).bind fun bs =>
    if bs.length ≤ length then some (hexlify (List.replicate (length - bs.length) 0 ++ bs)) else none

/-- `concat(datas)`; `none` where it throws. -/
def concat (datas : List String) : Option String :=
  (datas.mapM getBytes).map fun bytes => hexlify bytes.flatten

theorem bigEndian_replicate {size : ℕ} {n : ℕ} (h : n < 256 ^ size) (zeros : ℕ) :
    bigEndian (zeros + size) n = List.replicate zeros 0 ++ bigEndian size n := by
  have hvalue : bytesValue (List.replicate zeros 0 ++ bigEndian size n) = n := by
    induction zeros with
    | zero => rw [List.replicate_zero, List.nil_append, bytesValue_bigEndian h]
    | succ zeros ih => simpa [bytesValue, List.replicate_succ] using ih
  conv_lhs => rw [← hvalue]
  have hlength : zeros + size = (List.replicate zeros (0 : Byte) ++ bigEndian size n).length := by
    simp
  rw [hlength, bigEndian_bytesValue]

theorem lt_pow_log2 (n : ℕ) : n < 256 ^ (n.log2 / 8 + 1) := by
  rw [show (256 : ℕ) = 2 ^ 8 by norm_num, ← pow_mul]
  exact lt_of_lt_of_le Nat.lt_log2_self (Nat.pow_le_pow_right (by decide) (by omega))

theorem log2_div_lt {n size : ℕ} (hsize : 0 < size) (h : n < 256 ^ size) : n.log2 / 8 + 1 ≤ size := by
  by_cases hn : n = 0
  · subst hn
    exact hsize
  · rw [show (256 : ℕ) = 2 ^ 8 by norm_num, ← pow_mul] at h
    have := (Nat.log2_lt hn).mpr h
    omega

/-- `BigInt(toBeHex(n))`. -/
theorem bigIntOfText_toBeHex (n : ℕ) : bigIntOfText (toBeHex n) = some (n : ℤ) := by
  have hne : bigEndian (n.log2 / 8 + 1) n ≠ [] := List.ne_nil_of_length_eq_add_one (length_bigEndian _ _)
  rw [toBeHex, bigIntOfText_hexlify hne, bytesValue_bigEndian (lt_pow_log2 n)]

/-- An integer in a given number of bytes. -/
theorem zeroPadValue_toBeHex {n size : ℕ} (hsize : 0 < size) (h : n < 256 ^ size) :
    zeroPadValue (toBeHex n) size = some (hexlify (bigEndian size n)) := by
  have hle := log2_div_lt hsize h
  have hpad := bigEndian_replicate (lt_pow_log2 n) (size - (n.log2 / 8 + 1))
  rw [Nat.sub_add_cancel hle] at hpad
  rw [zeroPadValue, toBeHex, getBytes_hexlify, Option.bind_some, if_pos (by simpa using hle), hpad,
    length_bigEndian]

theorem concat_eq_some {datas : List String} {bytes : List Bytes}
    (h : List.Forall₂ (fun data bs => getBytes data = some bs) datas bytes) :
    concat datas = some (hexlify bytes.flatten) := by
  have hmap : datas.mapM getBytes = some bytes := by
    induction h with
    | nil => rfl
    | cons hdata _ ih =>
      rw [List.mapM_cons, hdata, ih]
      rfl
  rw [concat, hmap, Option.map_some]

end AccountAbstraction.Js
