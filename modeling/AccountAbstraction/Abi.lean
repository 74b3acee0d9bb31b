import AccountAbstraction.Js.BigInt

/-!
# Decoding calldata as Solidity does

The Solidity ABI (version 2 of the coder) for argument lists of `address`,
`uint256` and `bytes`. Every argument has one 32-byte word in the head; the word
of a `bytes` argument is the offset of its tail, which starts with its length.
Offsets count from the start of the arguments. The decoder reverts (`none`)
on a word outside the type's range and on any read beyond the data; it asks
neither for padding nor for a canonical order of the tails.
-/

namespace AccountAbstraction.Abi

open Js

inductive AbiType
  | address
  | uint256
  | bytes
deriving DecidableEq, Repr

inductive AbiValue
  | address (n : ℕ)
  | uint (n : ℕ)
  | bytes (b : Bytes)
deriving DecidableEq, Repr

/-- The 32-byte word at `pos`. -/
def word? (data : Bytes) (pos : ℕ) : Option ℕ :=
  if pos + 32 ≤ data.length then some (bytesValue ((data.drop pos).take 32)) else none

/-- The tail of a `bytes` argument: a length word at `offset`, then the content.
    Both words are bounded by `2^64 - 1`. -/
def tail? (data : Bytes) (offset : ℕ) : Option Bytes :=
  if offset < 2 ^ 64 then
    match word? data offset with
    | some len =>
      if len < 2 ^ 64 ∧ offset + 32 + len ≤ data.length then
        some ((data.drop (offset + 32)).take len)
      else none
    | none => none
  else none

/-- The argument whose head word stands at `pos`. -/
def decodeAt (data : Bytes) (pos : ℕ) : AbiType → Option AbiValue
  | .address => (word? data pos).bind fun w => if w < 2 ^ 160 then some (.address w) else none
  | .uint256 => (word? data pos).map .uint
  | .bytes => ((word? data pos).bind (tail? data)).map .bytes

/-- The arguments whose head words start at `pos`. -/
def decodeFrom (data : Bytes) : ℕ → List AbiType → Option (List AbiValue)
  | _, [] => some []
  | pos, t :: ts =>
    match decodeAt data pos t, decodeFrom data (pos + 32) ts with
    | some v, some vs => some (v :: vs)
    | _, _ => none

/-- The arguments of a function with parameter types `ts`. -/
def decode (ts : List AbiType) (data : Bytes) : Option (List AbiValue) := decodeFrom data 0 ts

/-- What the dispatcher of a contract does with the calldata of a function: match
    the selector, then decode the arguments behind it. -/
def decodeCall (selector : Bytes) (ts : List AbiType) (callData : Bytes) : Option (List AbiValue) :=
  if callData.take 4 = selector then decode ts (callData.drop 4) else none

/-- A single `uint256` argument is the first word; anything may follow it. -/
theorem decode_uint256 {data : Bytes} {vs : List AbiValue} (h : decode [.uint256] data = some vs) :
    ∃ n, vs = [.uint n] ∧ word? data 0 = some n := by
  simp only [decode, decodeFrom, decodeAt] at h
  cases hw : word? data 0 with
  | none => simp [hw] at h
  | some w =>
    simp only [hw, Option.map_some, Option.some.injEq] at h
    exact ⟨w, h.symm, rfl⟩

end AccountAbstraction.Abi
