import AccountAbstraction.Bundler.Rpc
import AccountAbstraction.Js.Chunks
import AccountAbstraction.Js.JsonParse

/-!
# Receiving a request body

The listeners of the request in `createServer` (`bundler/src/index.js:519-533`). A body comes in
chunks that are cut anywhere, and each is turned into text by itself.

* `receive_eq_some`: a body of at most 2000000 bytes is received, whatever its chunks.
* `receive_iff`: the text is that of the body exactly when no chunk starts inside a character.
* `body_chunking`: the bodies that do not depend on their chunks.
-/

namespace AccountAbstraction.Bundler

open Js

/-! ## Model -/

/-- `s.length`, in code units. -/
def utf16Length (s : String) : ℕ := (s.toList.flatMap utf16Units).length

/-- The listener of `data` (`bundler/src/index.js:520-523`); `none` for a request that was
    destroyed. -/
def onData (body : Option String) (chunk : Bytes) : Option String :=
  match body with
  | none => none
  | some body =>
    let body := body ++ utf8Decode chunk
    if utf16Length body > 2000000 then none else some body

/-- `body` when the `end` event comes, which a destroyed request has none of. -/
def receive (chunks : List Bytes) : Option String := chunks.foldl onData (some "")

/-- The exchange of a request whose body comes in these chunks. -/
def serveChunks (auth : Authenticator) (pending : ℕ) (perform : ℕ → RpcCall → Except JsError (Option Json))
    (method url : String) (headers : List (String × String)) (chunks : List Bytes) : Option Exchange :=
  (receive chunks).map fun body =>
    serve auth pending perform { method, url, headers, body := parseJson body }

/-! ## The text of a body -/

/-- The text of the chunks. -/
def chunksText (chunks : List Bytes) : String := String.ofList (chunks.flatMap (decodeFrom none))

theorem utf16Length_chunksText (chunks : List Bytes) : utf16Length (chunksText chunks) ≤ chunks.flatten.length := by
  rw [utf16Length, chunksText, String.toList_ofList]
  induction chunks with
  | nil => exact le_refl 0
  | cons chunk chunks ih =>
    have := (length_units_decodeFrom chunk).1
    rw [List.flatMap_cons, List.flatMap_append, List.length_append, List.flatten_cons, List.length_append]
    omega

/-- A body that is not too long is received, with the text of its chunks. -/
theorem receive_eq_some {chunks : List Bytes} (h : chunks.flatten.length ≤ 2000000) :
    receive chunks = some (chunksText chunks) := by
  induction chunks using List.reverseRecOn with
  | nil => rfl
  | append_singleton chunks chunk ih =>
    have hshort : chunks.flatten.length ≤ 2000000 := by
      rw [List.flatten_append, List.length_append] at h
      omega
    have htext : chunksText chunks ++ utf8Decode chunk = chunksText (chunks ++ [chunk]) := by
      simp [chunksText, utf8Decode]
    have hlength := utf16Length_chunksText (chunks ++ [chunk])
    rw [receive, List.foldl_append, ← receive, ih hshort, List.foldl_cons, List.foldl_nil, onData]
    simp only [htext]
    rw [if_neg (by omega)]

/-- The text of a body is what its bytes are decoded to exactly when no chunk starts inside a
    character. -/
theorem receive_iff {body : String} {chunks : List Bytes} (hlength : (utf8Encode body).length ≤ 2000000)
    (h : chunks.flatten = utf8Encode body) :
    receive chunks = some (utf8Decode (utf8Encode body)) ↔ ∀ chunk ∈ chunks, startsInside chunk = false := by
  rw [receive_eq_some (by rw [h]; exact hlength), utf8Decode_utf8Encode, Option.some.injEq, chunksText,
    ← flatMap_decode_iff h, String.ext_iff, String.toList_ofList]

/-! ## The result -/

/-- A body is received as its text when no chunk starts inside a character, and only then; two such
    ways to cut it have the same exchange. However it is cut, its text and its exchange are the same
    exactly if it is ASCII. -/
theorem body_chunking {body : String} (hlength : (utf8Encode body).length ≤ 2000000) :
    (∀ chunks : List Bytes, chunks.flatten = utf8Encode body →
      (receive chunks = some (utf8Decode (utf8Encode body)) ↔ ∀ chunk ∈ chunks, startsInside chunk = false)) ∧
    (∀ (auth : Authenticator) (pending : ℕ) (perform : ℕ → RpcCall → Except JsError (Option Json))
        (method url : String) (headers : List (String × String)) (chunks chunks' : List Bytes),
      chunks.flatten = utf8Encode body → chunks'.flatten = utf8Encode body →
      (∀ chunk ∈ chunks, startsInside chunk = false) → (∀ chunk ∈ chunks', startsInside chunk = false) →
      serveChunks auth pending perform method url headers chunks =
        serveChunks auth pending perform method url headers chunks') ∧
    (((∀ chunks : List Bytes, chunks.flatten = utf8Encode body →
        receive chunks = some (utf8Decode (utf8Encode body))) ∧
      (∀ (auth : Authenticator) (pending : ℕ) (perform : ℕ → RpcCall → Except JsError (Option Json))
          (method url : String) (headers : List (String × String)) (chunks chunks' : List Bytes),
        chunks.flatten = utf8Encode body → chunks'.flatten = utf8Encode body →
        serveChunks auth pending perform method url headers chunks =
          serveChunks auth pending perform method url headers chunks')) ↔
      ∀ c ∈ body.toList, c.toNat < 0x80) := by
  have hiff := fun (chunks : List Bytes) (h : chunks.flatten = utf8Encode body) => receive_iff hlength h
  refine ⟨hiff, ?_, ?_⟩
  · intro auth pending perform method url headers chunks chunks' h h' haligned haligned'
    rw [serveChunks, serveChunks, (hiff chunks h).mpr haligned, (hiff chunks' h').mpr haligned']
  · rw [← always_aligned_iff]
    constructor
    · rintro ⟨htext, -⟩ chunks h
      exact (hiff chunks h).mp (htext chunks h)
    · intro haligned
      have htext : ∀ chunks : List Bytes, chunks.flatten = utf8Encode body →
          receive chunks = some (utf8Decode (utf8Encode body)) :=
        fun chunks h => (hiff chunks h).mpr (haligned chunks h)
      refine ⟨htext, ?_⟩
      intro auth pending perform method url headers chunks chunks' h h'
      rw [serveChunks, serveChunks, htext chunks h, htext chunks' h']

/-- A request whose `id` has two bytes. -/
def accentedBody : String := "\x7b\"jsonrpc\":\"2.0\",\"id\":\"é\",\"method\":\"eth_chainId\"\x7d"

/-- In three chunks that are cut before and after these two bytes it is received as its text. -/
theorem body_chunking_sample : receive [(utf8Encode accentedBody).take 23,
    ((utf8Encode accentedBody).drop 23).take 2, ((utf8Encode accentedBody).drop 23).drop 2] =
      some accentedBody := by
  have hlength : (utf8Encode accentedBody).length ≤ 2000000 := by decide +kernel
  have hcut := (body_chunking hlength).1 [(utf8Encode accentedBody).take 23,
    ((utf8Encode accentedBody).drop 23).take 2, ((utf8Encode accentedBody).drop 23).drop 2] (by decide +kernel)
  rw [utf8Decode_utf8Encode] at hcut
  exact hcut.mpr (by decide +kernel)

/-- The `id` of the request that is read from a text. -/
def idText (text : String) : Option String :=
  (parseJson text).bind fun request => (request.field "id").map Json.stringify

/-- In two chunks that are cut between these two bytes it has another `id`. -/
theorem accented_chunks : ∃ chunks : List Bytes, chunks.flatten = utf8Encode accentedBody ∧
    receive chunks ≠ some accentedBody ∧
    (receive chunks).bind idText = some (quote (String.ofList [replacement, replacement])) ∧
    (receive [utf8Encode accentedBody]).bind idText = some (quote "é") := by
  refine ⟨[(utf8Encode accentedBody).take 24, (utf8Encode accentedBody).drop 24], ?_, ?_, ?_, ?_⟩
  · simp
  all_goals decide +kernel

end AccountAbstraction.Bundler
