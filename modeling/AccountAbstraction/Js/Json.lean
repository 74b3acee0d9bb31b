import Mathlib.Data.Nat.Notation
import Mathlib.Data.Int.Notation
import Mathlib.Tactic

/-!
# JavaScript values that come out of `JSON.parse`

The values a server reads from a request body, and the operations of the
language that inspect them: truthiness, `??`, `||`, property reads and
`String(v)`. A value that may be `undefined` (a missing property, an absent
argument) is an `Option Json`, with `none` for `undefined`.

A property read on `null` or `undefined` throws, which is why `Json.prop` is
partial; on every other non-object it gives `undefined`.
-/

namespace AccountAbstraction.Js

/-- A double as `JSON.parse` yields it, by what the code asks of it: the integer
    it is (if it is one) and the text `String(x)` prints. `large` carries the text
    of an integer where `String(x)` is not its digits: beyond `2^53` the last ones
    are zeros, from `10^21` on there is an exponent. `-0` is `int 0`: it is falsy,
    `BigInt(-0)` is `0n` and `JSON.stringify(-0)` is `0`. -/
inductive JsNumber
  | int (n : ℤ)
  | large (n : ℤ) (text : String)
  /-- A fraction, or a literal beyond the range of a double. -/
  | nonint (text : String)
deriving DecidableEq, Repr

/-- `String(x)`. -/
def JsNumber.text : JsNumber → String
  | .int n => toString n
  | .large _ text => text
  | .nonint text => text

/-- `Number.isInteger(x)`, with the integer. -/
def JsNumber.integer? : JsNumber → Option ℤ
  | .int n => some n
  | .large n _ => some n
  | .nonint _ => none

/-- A value `JSON.parse` returns. -/
inductive Json
  | null
  | bool (b : Bool)
  | num (x : JsNumber)
  | str (s : String)
  | arr (items : List Json)
  | obj (fields : List (String × Json))
deriving Repr

instance : Inhabited Json := ⟨.null⟩

/-- The `error` object of a JSON-RPC reply, as a library attaches it to an
    exception. -/
structure RpcErrorBody where
  code : Option Json
  message : Option String
  data : Option Json

/-- A thrown `Error`, with the fields that the handlers read: `name` and
    `message`, and `code`, `data`, `info.error` and `error` where a library or the
    program itself sets them. -/
structure JsError where
  name : String := "Error"
  message : String
  code : Option Json := none
  data : Option Json := none
  infoError : Option RpcErrorBody := none
  error : Option RpcErrorBody := none

/-- `String(err)`: `Error.prototype.toString`. -/
def JsError.text (err : JsError) : String :=
  if err.message = "" then err.name else err.name ++ ": " ++ err.message

/-- The `TypeError` of a property read on `null` or `undefined`. -/
def readNullError (base key : String) : JsError :=
  { name := "TypeError", message := s!"Cannot read properties of {base} (reading '{key}')" }

/-- A computation that did not throw ran every part of itself. -/
theorem bind_eq_ok {ε α β : Type} {x : Except ε α} {f : α → Except ε β} {b : β} :
    x >>= f = .ok b ↔ ∃ a, x = .ok a ∧ f a = .ok b := by
  cases x <;> simp [bind, Except.bind]

theorem ok_bind {ε α β : Type} (a : α) (f : α → Except ε β) : (Except.ok a >>= f) = f a := rfl

/-! ## Truthiness -/

/-- `Boolean(v)`. -/
def Json.truthy : Json → Bool
  | .null => false
  | .bool b => b
  | .num x => x ≠ .int 0
  | .str s => s ≠ ""
  | .arr _ => true
  | .obj _ => true

/-- `Boolean(v)` where `v` may be `undefined`. -/
def truthy : Option Json → Bool
  | none => false
  | some v => v.truthy

/-- `a || b`. -/
def jsOr (a b : Option Json) : Option Json := if truthy a then a else b

/-- `a ?? b`. -/
def nullish (a b : Option Json) : Option Json :=
  match a with
  | none => b
  | some .null => b
  | some v => some v

/-- `v == null`. -/
def isNullish : Option Json → Bool
  | none => true
  | some .null => true
  | some _ => false

/-- `v === s` for a string `s`. -/
def isText (v : Option Json) (s : String) : Bool :=
  match v with
  | some (.str t) => t == s
  | _ => false

theorem isText_iff {v : Option Json} {s : String} : isText v s = true ↔ v = some (.str s) := by
  unfold isText
  split
  · simp
  · rename_i h
    simp only [Bool.false_eq_true, false_iff]
    rintro rfl
    exact h s rfl

@[simp] theorem truthy_none : truthy none = false := rfl

/-! ## Property reads -/

/-- `v.key` for a `v` that is neither `null` nor `undefined`. No primitive or array
    prototype has a property under the keys the program reads, `at` and `sub` of
    the session cookie apart. -/
def Json.field (v : Json) (key : String) : Option Json :=
  match v with
  | .obj fields => fields.lookup key
  | _ => none

/-- `v.key`. -/
def Json.prop (v : Json) (key : String) : Except JsError (Option Json) :=
  match v with
  | .null => .error (readNullError "null" key)
  | v => .ok (v.field key)

/-- `v?.key`. -/
def optProp (v : Option Json) (key : String) : Option Json := v.bind (·.field key)

theorem Json.prop_of_ne_null {v : Json} (h : v ≠ .null) (key : String) :
    v.prop key = .ok (v.field key) := by
  cases v <;> simp_all [Json.prop]

/-! ## `String(v)` -/

mutual

/-- `String(v)`, or `none` where the conversion throws: an object's own `toString`
    comes from JSON and is not callable. -/
def Json.text? : Json → Option String
  | .null => some "null"
  | .bool b => some (if b then "true" else "false")
  | .num x => some x.text
  | .str s => some s
  | .arr items => (itemTexts? items).map (String.intercalate ",")
  | .obj fields => if (fields.lookup "toString").isSome then none else some "[object Object]"

/-- The texts `Array.prototype.join` puts together: `null` is the empty text. -/
def itemTexts? : List Json → Option (List String)
  | [] => some []
  | .null :: items => (itemTexts? items).map ("" :: ·)
  | v :: items =>
    match v.text?, itemTexts? items with
    | some text, some texts => some (text :: texts)
    | _, _ => none

end

/-! ## `JSON.stringify(v)` -/

/-- A character as it stands in a JSON text. -/
def escapeChar (c : Char) : String :=
  match c.toNat with
  | 8 => "\\b"
  | 9 => "\\t"
  | 10 => "\\n"
  | 12 => "\\f"
  | 13 => "\\r"
  | 34 => "\\\""
  | 92 => "\\\\"
  | n =>
    if n < 32 then "\\u00" ++ String.ofList [(n / 16).digitChar, (n % 16).digitChar]
    else String.singleton c

/-- A string in quotes. -/
def quote (s : String) : String := "\"" ++ String.join (s.toList.map escapeChar) ++ "\""

/-- A double in a JSON text; an infinite one is `null`. -/
def JsNumber.stringify : JsNumber → String
  | .nonint text => if text = "Infinity" ∨ text = "-Infinity" then "null" else text
  | x => x.text

mutual

/-- `JSON.stringify(v)`. -/
def Json.stringify : Json → String
  | .null => "null"
  | .bool b => if b then "true" else "false"
  | .num x => x.stringify
  | .str s => quote s
  | .arr items => "[" ++ String.intercalate "," (stringifyItems items) ++ "]"
  | .obj fields => "\x7b" ++ String.intercalate "," (stringifyFields fields) ++ "\x7d"

def stringifyItems : List Json → List String
  | [] => []
  | v :: items => v.stringify :: stringifyItems items

def stringifyFields : List (String × Json) → List String
  | [] => []
  | (key, v) :: fields => (quote key ++ ":" ++ v.stringify) :: stringifyFields fields

end

example : (Json.obj [("a", .arr [.null, .num (.int 1)]), ("b", .str "x")]).stringify =
    "\x7b\"a\":[null,1],\"b\":\"x\"\x7d" := by decide +kernel

end AccountAbstraction.Js
