import AccountAbstraction.Abi

/-!
# Encoding arguments as Solidity does

Big-endian words of a fixed size, `abi.encode` for the types of
`AccountAbstraction.Abi`, and the words of the shorter unsigned integers.

* `bytesValue_bigEndian`, `bigEndian_bytesValue`: a word and its value determine
  each other.
* `decode_encode`: decoding what was encoded.
* `uint?_eq_some`: the words that decode to an unsigned integer of some size.
-/

namespace AccountAbstraction

open Js

/-- The big-endian text of `n` in `size` bytes. -/
def bigEndian (size n : ℕ) : Bytes :=
  (List.range size).reverse.map fun k => ⟨n / 256 ^ k % 256, Nat.mod_lt _ (by decide)⟩

namespace Abi

/-! ## Words -/

@[simp] theorem length_bigEndian (size n : ℕ) : (bigEndian size n).length = size := by
  simp [bigEndian]

theorem bigEndian_succ (size n : ℕ) :
    bigEndian (size + 1) n = bigEndian size (n / 256) ++ [Fin.ofNat 256 n] := by
  unfold bigEndian
  rw [List.range_succ_eq_map, List.reverse_cons, List.map_append, ← List.map_reverse, List.map_map]
  congr 1
  · apply List.map_congr_left
    intro k _
    apply Fin.ext
    show n / 256 ^ (k + 1) % 256 = n / 256 / 256 ^ k % 256
    rw [Nat.div_div_eq_div_mul, pow_succ']
  · simp [Fin.ofNat]

/-- The last bytes of a longer word. -/
theorem drop_bigEndian (more size n : ℕ) : (bigEndian (more + size) n).drop more = bigEndian size n := by
  induction size generalizing n with
  | zero => simp [bigEndian]
  | succ size ih =>
    have hlength : more ≤ (bigEndian (more + size) (n / 256)).length := by
      rw [length_bigEndian]
      omega
    rw [← Nat.add_assoc, bigEndian_succ, bigEndian_succ, List.drop_append_of_le_length hlength, ih]

/-- The first bytes of a longer word. -/
theorem take_bigEndian (size more n : ℕ) :
    (bigEndian (size + more) n).take size = bigEndian size (n / 256 ^ more) := by
  induction more generalizing n with
  | zero => simp [List.take_of_length_le]
  | succ more ih =>
    have hlength : size ≤ (bigEndian (size + more) (n / 256)).length := by
      rw [length_bigEndian]
      omega
    rw [← Nat.add_assoc, bigEndian_succ, List.take_append_of_le_length hlength, ih, Nat.div_div_eq_div_mul,
      pow_succ']

theorem bytesValue_bigEndian_mod (size n : ℕ) : bytesValue (bigEndian size n) = n % 256 ^ size := by
  induction size generalizing n with
  | zero => simp [bigEndian, bytesValue, Nat.mod_one]
  | succ size ih =>
    rw [bigEndian_succ, bytesValue_append_singleton, ih]
    show 256 * (n / 256 % 256 ^ size) + n % 256 = n % 256 ^ (size + 1)
    rw [pow_succ', Nat.mod_mul]
    omega

theorem bytesValue_bigEndian {size n : ℕ} (h : n < 256 ^ size) :
    bytesValue (bigEndian size n) = n := by
  rw [bytesValue_bigEndian_mod, Nat.mod_eq_of_lt h]

theorem bigEndian_bytesValue (bs : Bytes) : bigEndian bs.length (bytesValue bs) = bs := by
  induction bs using List.reverseRecOn with
  | nil => rfl
  | append_singleton bs b ih =>
    have hb := b.isLt
    rw [List.length_append, List.length_singleton, bigEndian_succ, bytesValue_append_singleton]
    have hdiv : (256 * bytesValue bs + b.val) / 256 = bytesValue bs := by omega
    rw [hdiv, ih]
    congr 2
    apply Fin.ext
    show (256 * bytesValue bs + b.val) % 256 = b.val
    omega

theorem bytesValue_lt (bs : Bytes) : bytesValue bs < 256 ^ bs.length := by
  have h := bytesValue_bigEndian_mod bs.length (bytesValue bs)
  rw [bigEndian_bytesValue] at h
  rw [h]
  exact Nat.mod_lt _ (by positivity)

theorem bigEndian_injective {size m n : ℕ} (hm : m < 256 ^ size) (hn : n < 256 ^ size)
    (h : bigEndian size m = bigEndian size n) : m = n := by
  rw [← bytesValue_bigEndian hm, h, bytesValue_bigEndian hn]

/-- The word behind a prefix. -/
theorem word?_append {pre word rest : Bytes} {pos : ℕ} (hpos : pre.length = pos)
    (hword : word.length = 32) : word? (pre ++ (word ++ rest)) pos = some (bytesValue word) := by
  subst hpos
  rw [word?, if_pos (by simp; omega), List.drop_left, ← hword, List.take_left]

/-! ## Unsigned integers of a size -/

/-- The word at `pos`, decoded as an unsigned integer of `bits`. -/
def uint? (bits : ℕ) (data : Bytes) (pos : ℕ) : Option (Fin (2 ^ bits)) :=
  (word? data pos).bind fun w => if h : w < 2 ^ bits then some ⟨w, h⟩ else none

theorem uint?_eq_some {bits : ℕ} {data : Bytes} {pos : ℕ} {n : Fin (2 ^ bits)} :
    uint? bits data pos = some n ↔
      pos + 32 ≤ data.length ∧ bytesValue ((data.drop pos).take 32) = n.val := by
  rw [uint?, word?]
  split_ifs with hlength
  · rw [Option.bind_some]
    constructor
    · intro h
      split_ifs at h with hlt
      cases h
      exact ⟨hlength, rfl⟩
    · rintro ⟨-, hn⟩
      have hlt : bytesValue ((data.drop pos).take 32) < 2 ^ bits := hn ▸ n.isLt
      rw [dif_pos hlt]
      exact congrArg some (Fin.ext hn)
  · simp [hlength]

/-! ## `abi.encode` -/

/-- Zeros up to the next multiple of 32 bytes. -/
def pad32 (b : Bytes) : Bytes := b ++ List.replicate ((32 - b.length % 32) % 32) 0

theorem length_pad32 (b : Bytes) : (pad32 b).length = b.length + (32 - b.length % 32) % 32 := by
  simp [pad32]

namespace AbiValue

def type : AbiValue → AbiType
  | .address _ => .address
  | .uint _ => .uint256
  | .bytes _ => .bytes

/-- The word of a value in the head, where its tail stands at `offset`. -/
def head (offset : ℕ) : AbiValue → Bytes
  | .address n => bigEndian 32 n
  | .uint n => bigEndian 32 n
  | .bytes _ => bigEndian 32 offset

/-- The tail of a value: a length and the padded content for `bytes`, nothing for the others. -/
def tail : AbiValue → Bytes
  | .bytes b => bigEndian 32 b.length ++ pad32 b
  | _ => []

/-- The value is one of its type. -/
def Fits : AbiValue → Prop
  | .address n => n < 2 ^ 160
  | .uint n => n < 2 ^ 256
  | .bytes _ => True

theorem length_head (offset : ℕ) (v : AbiValue) : (v.head offset).length = 32 := by
  cases v <;> simp [head]

end AbiValue

/-- The heads of some values, whose tails start at `offset`. -/
def heads : ℕ → List AbiValue → Bytes
  | _, [] => []
  | offset, v :: vs => v.head offset ++ heads (offset + v.tail.length) vs

/-- `abi.encode(…)`. -/
def encode (vs : List AbiValue) : Bytes := heads (32 * vs.length) vs ++ vs.flatMap AbiValue.tail

theorem length_heads (offset : ℕ) (vs : List AbiValue) : (heads offset vs).length = 32 * vs.length := by
  induction vs generalizing offset with
  | nil => rfl
  | cons v vs ih =>
    rw [heads, List.length_append, AbiValue.length_head, ih, List.length_cons]
    omega

/-- The tail of a `bytes` value is found at its offset. -/
theorem tail?_append {pre b : Bytes} {offset : ℕ} (rest : Bytes) (hoffset : pre.length = offset)
    (hsize : offset + b.length < 2 ^ 64) :
    tail? (pre ++ (AbiValue.tail (.bytes b) ++ rest)) offset = some b := by
  have hlength : b.length < 256 ^ 32 := lt_of_lt_of_le (by omega) (show 2 ^ 64 ≤ 256 ^ 32 by norm_num)
  rw [tail?, if_pos (by omega), AbiValue.tail, List.append_assoc,
    word?_append hoffset (length_bigEndian 32 b.length), bytesValue_bigEndian hlength]
  have hbounds : b.length < 2 ^ 64 ∧
      offset + 32 + b.length ≤ (pre ++ (bigEndian 32 b.length ++ (pad32 b ++ rest))).length := by
    simp only [List.length_append, length_bigEndian, length_pad32]
    omega
  have hdrop : (pre ++ (bigEndian 32 b.length ++ (pad32 b ++ rest))).drop (offset + 32) =
      pad32 b ++ rest := by
    rw [← List.append_assoc]
    exact List.drop_left' (by simp [hoffset])
  show (if _ then some (List.take b.length (List.drop (offset + 32) _)) else none) = some b
  rw [if_pos hbounds, hdrop, pad32, List.append_assoc, List.take_left]

/-- A value is decoded from its word in the head and, where it has one, its tail. -/
theorem decodeAt_head {v : AbiValue} (hfits : v.Fits) (pre between rest : Bytes) {offset : ℕ}
    (hoffset : pre.length + 32 + between.length = offset) (hsize : offset + v.tail.length < 2 ^ 64) :
    decodeAt (pre ++ (v.head offset ++ (between ++ (v.tail ++ rest)))) pre.length v.type = some v := by
  cases v with
  | address n =>
    have haddress : n < 2 ^ 160 := hfits
    have hn : n < 256 ^ 32 := lt_of_lt_of_le haddress (by norm_num)
    rw [AbiValue.type, AbiValue.head, decodeAt, word?_append rfl (length_bigEndian 32 n),
      bytesValue_bigEndian hn, Option.bind_some, if_pos haddress]
  | uint n =>
    have hn : n < 256 ^ 32 := lt_of_lt_of_le hfits (by norm_num)
    rw [AbiValue.type, AbiValue.head, decodeAt, word?_append rfl (length_bigEndian 32 n),
      bytesValue_bigEndian hn, Option.map_some]
  | bytes b =>
    have hn : offset < 256 ^ 32 := lt_of_lt_of_le (by omega) (show 2 ^ 64 ≤ 256 ^ 32 by norm_num)
    have hcontent : b.length ≤ (AbiValue.tail (.bytes b)).length := by
      simp only [AbiValue.tail, List.length_append, length_pad32]
      omega
    have hpre : (pre ++ (bigEndian 32 offset ++ between)).length = offset := by
      simp only [List.length_append, length_bigEndian]
      omega
    have htail := tail?_append rest hpre (show offset + b.length < 2 ^ 64 by omega)
    simp only [List.append_assoc] at htail
    rw [AbiValue.type, AbiValue.head, decodeAt, word?_append rfl (length_bigEndian 32 offset),
      bytesValue_bigEndian hn, Option.bind_some, htail, Option.map_some]

/-- The induction over the arguments: `pre` are the heads read so far, `read` their tails. -/
theorem decodeFrom_heads {vs : List AbiValue} (hfits : ∀ v ∈ vs, v.Fits) (pre read rest : Bytes)
    {offset : ℕ} (hoffset : pre.length + 32 * vs.length + read.length = offset)
    (hsize : offset + (vs.flatMap AbiValue.tail).length < 2 ^ 64) :
    decodeFrom (pre ++ (heads offset vs ++ (read ++ (vs.flatMap AbiValue.tail ++ rest)))) pre.length
      (vs.map AbiValue.type) = some vs := by
  induction vs generalizing pre read offset with
  | nil => rfl
  | cons v vs ih =>
    rw [List.length_cons] at hoffset
    rw [List.flatMap_cons, List.length_append] at hsize
    have hhead := v.length_head offset
    have hbetween : pre.length + 32 + (heads (offset + v.tail.length) vs ++ read).length = offset := by
      rw [List.length_append, length_heads]
      omega
    have hread : (pre ++ v.head offset).length + 32 * vs.length + (read ++ v.tail).length =
        offset + v.tail.length := by
      rw [List.length_append, List.length_append, hhead]
      omega
    have hfirst := decodeAt_head (hfits v List.mem_cons_self) pre
      (heads (offset + v.tail.length) vs ++ read) (vs.flatMap AbiValue.tail ++ rest) hbetween (by omega)
    have hrest := ih (fun w hw => hfits w (List.mem_cons_of_mem _ hw)) (pre ++ v.head offset)
      (read ++ v.tail) hread (by omega)
    rw [List.length_append, hhead] at hrest
    simp only [List.append_assoc] at hfirst hrest
    simp only [heads, List.flatMap_cons, List.append_assoc, List.map_cons, decodeFrom, hfirst, hrest]

/-- Decoding what was encoded, whatever follows it. -/
theorem decode_encode {vs : List AbiValue} (hfits : ∀ v ∈ vs, v.Fits) (rest : Bytes)
    (hsize : (encode vs).length < 2 ^ 64) :
    decode (vs.map AbiValue.type) (encode vs ++ rest) = some vs := by
  rw [encode, List.length_append, length_heads] at hsize
  have hoffset : ([] : Bytes).length + 32 * vs.length + ([] : Bytes).length = 32 * vs.length := by simp
  have h := decodeFrom_heads hfits [] [] rest hoffset hsize
  simpa [decode, encode] using h

end Abi

end AccountAbstraction
