import AccountAbstraction.Client.Agreement
import AccountAbstraction.Proxy.Receipt

/-!
# Revert data in words

`decodeRevertData` in its two copies, that of the server (`server/userop-log.mjs:163-177`) and that
of the browser (`src/userOp.ts:201-215`). All that can throw stands in a `try` block, behind which
the data itself is shown.

* `decodeRevertData_error`, `decodeRevertData_panic`: the two encodings that Solidity knows are read.
* `decodeRevertData_custom`: all other data is shown, also where its payload is malformed.
* `decodeRevertData_spec`: the result for all data, and the agreement of the copies.
-/

namespace AccountAbstraction.Client

open Js Abi Proxy

/-! ## The copy of the browser -/

/-- Hex data, cut to 66 characters (`src/userOp.ts:214`). -/
def clipData (data : String) : String :=
  if data.toList.length > 66 then String.ofList (data.toList.take 66) ++ "..." else data

/-- `decodeRevertData(data)` (`src/userOp.ts:201-215`); its `try` block is that of the server. -/
def decodeRevertData (E : Ethers) (data : String) : Option String :=
  if !isHexText data || data = "0x" then none
  else some ((knownRevert E data).getD ("custom error " ++ clipData data))

/-! ## Payloads -/

/-- The two selectors are those of `Error(string)` and of `Panic(uint256)`. -/
structure RevertSelectors (E : Ethers) : Prop where
  error : E.selectorText "Error(string)" = errorStringSelector
  panic : E.selectorText "Panic(uint256)" = panicSelector

/-- The decoder of `ethers` rejects what stands behind the selector. -/
def PayloadRejected (E : Ethers) (data : String) : Prop :=
  (startsWith data errorStringSelector = true ∧ (revertPayload data).bind (decodeString E) = none) ∨
    (startsWith data panicSelector = true ∧ (revertPayload data).bind (decodeUint256 E) = none)

variable {E : Ethers}

theorem revertPayload_eq (data : String) : revertPayload data = (getBytes data).map (·.drop 4) := by
  unfold revertPayload dataSlice
  cases getBytes data <;> simp

/-- Data that starts with one selector does not start with the other. -/
theorem not_panic_of_error {data : String} (h : startsWith data errorStringSelector = true) :
    startsWith data panicSelector = false := by
  rw [startsWith, List.isPrefixOf_iff_prefix] at h
  rw [startsWith, ← Bool.not_eq_true, List.isPrefixOf_iff_prefix]
  intro hpanic
  have heq := (List.prefix_of_prefix_length_le h hpanic (by decide)).eq_of_length (by decide)
  exact absurd heq (by decide)

/-- The payload of a known error is rejected where its bytes are incomplete, where the Solidity ABI
    has no such value, and where the text is not UTF-8. -/
theorem payloadRejected_of_error (hE : E.Documented) {data : String}
    (hselector : startsWith data errorStringSelector = true)
    (h : ∀ bs b, getBytes data = some bs → Abi.decode [.bytes] (bs.drop 4) = some [.bytes b] →
      utf8Encode (utf8Decode b) ≠ b) : PayloadRejected E data := by
  refine Or.inl ⟨hselector, ?_⟩
  rw [revertPayload_eq]
  cases hbs : getBytes data with
  | none => rfl
  | some bs =>
    rw [Option.map_some, Option.bind_some, decodeString]
    split
    · rename_i text htext
      obtain ⟨vs, hvs, hdenotes⟩ := hE.decode_sound _ _ _ htext
      simp only [List.forall₂_cons_left_iff, List.forall₂_nil_left_iff, Decoded.denotes_hex] at hdenotes
      obtain ⟨-, -, ⟨b, rfl, rfl⟩, rfl, rfl⟩ := hdenotes
      rw [getBytes_hexlify, Option.bind_some, toUtf8String, if_neg (h bs b hbs hvs)]
    · rfl

/-- That of a panic is rejected where its bytes are incomplete or less than a word. -/
theorem payloadRejected_of_panic (hE : E.Documented) {data : String}
    (hselector : startsWith data panicSelector = true)
    (h : ∀ bs, getBytes data = some bs → bs.length < 36) : PayloadRejected E data := by
  refine Or.inr ⟨hselector, ?_⟩
  rw [revertPayload_eq]
  cases hbs : getBytes data with
  | none => rfl
  | some bs =>
    rw [Option.map_some, Option.bind_some, decodeUint256]
    split
    · rename_i n hn
      obtain ⟨vs, hvs, -⟩ := hE.decode_sound _ _ _ hn
      obtain ⟨n, -, hword⟩ := decode_uint256 hvs
      have hlength := h bs hbs
      rw [word?, if_neg (by rw [List.length_drop]; omega)] at hword
      cases hword
    · rfl

/-! ## The results -/

theorem startsWith_encode (sig : String) (values : List AbiValue) :
    startsWith (encodeFunctionData E sig values) (E.selectorText sig) = true := by
  rw [startsWith, List.isPrefixOf_iff_prefix, encodeFunctionData, Ethers.selectorText, toList_hexlify,
    toList_hexlify, List.flatMap_append]
  exact ⟨_, rfl⟩

theorem payload_encode (sig : String) (values : List AbiValue) :
    revertPayload (encodeFunctionData E sig values) = some (encode values) := by
  rw [revertPayload_eq, encodeFunctionData, getBytes_hexlify, Option.map_some,
    List.drop_left' (E.length_selector sig)]

/-- Encoded calls are hex data with a selector. -/
theorem decodeRevertData_of_known {data text : String} (hhex : isHexText data = true) (hne : data ≠ "0x")
    (h : knownRevert E data = some text) : Proxy.decodeRevertData E data = some text := by
  rw [Proxy.decodeRevertData, if_neg (by simp [hhex, hne]), h, Option.getD_some]

theorem encode_ne_empty (sig : String) (values : List AbiValue) :
    encodeFunctionData E sig values ≠ "0x" := by
  intro h
  have hlength := length_hexlify (E.selector sig ++ encode values)
  rw [← encodeFunctionData, h, List.length_append, Ethers.length_selector] at hlength
  simp at hlength

/-- The message of `Error(s)` is read. -/
theorem decodeRevertData_error (hE : Canonical E) (hselectors : RevertSelectors E) {s : String}
    (hsize : (encode [.bytes (utf8Encode s)]).length < 2 ^ 53) :
    Proxy.decodeRevertData E (encodeFunctionData E "Error(string)" [.bytes (utf8Encode s)]) = some s := by
  obtain ⟨rs, hrs, hdenotes⟩ := hE.decode_encode [.bytes (utf8Encode s)] (by simp [AbiValue.Fits]) hsize
  simp only [List.forall₂_cons_right_iff, List.forall₂_nil_right_iff] at hdenotes
  obtain ⟨text, -, htext, rfl, rfl⟩ := hdenotes
  obtain ⟨b, hb, rfl⟩ : ∃ b, AbiValue.bytes (utf8Encode s) = .bytes b ∧ text = .hex (hexlify b) := by
    cases text with
    | address _ => exact htext.elim
    | bigint _ => exact htext.elim
    | hex text => exact ⟨_, rfl, congrArg Decoded.hex htext⟩
  cases hb
  have hdecode : E.decode [.bytes] (encode [.bytes (utf8Encode s)]) = some [.hex (hexlify (utf8Encode s))] := hrs
  refine decodeRevertData_of_known (isHexText_hexlify _) (encode_ne_empty _ _) ?_
  rw [knownRevert, ← hselectors.error, if_pos (startsWith_encode _ _), payload_encode, Option.bind_some,
    decodeString, hdecode]
  show (getBytes (hexlify (utf8Encode s))).bind toUtf8String = some s
  rw [getBytes_hexlify, Option.bind_some, toUtf8String, utf8Decode_utf8Encode, if_pos rfl]

/-- The code of `Panic(n)` is read. -/
theorem decodeRevertData_panic (hE : Canonical E) (hselectors : RevertSelectors E) {n : ℕ} (hn : n < 2 ^ 256) :
    Proxy.decodeRevertData E (encodeFunctionData E "Panic(uint256)" [.uint n]) =
      some ("Panic(" ++ toQuantity n ++ ")") := by
  have hsize : (encode [.uint n]).length < 2 ^ 53 := by simp [encode, length_heads, AbiValue.tail]
  obtain ⟨rs, hrs, hdenotes⟩ := hE.decode_encode [.uint n] (by simpa [AbiValue.Fits] using hn) hsize
  simp only [List.forall₂_cons_right_iff, List.forall₂_nil_right_iff] at hdenotes
  obtain ⟨code, -, hcode, rfl, rfl⟩ := hdenotes
  obtain rfl : code = .bigint n := by
    cases code with
    | address _ => exact hcode.elim
    | bigint m => exact congrArg Decoded.bigint hcode
    | hex _ => exact hcode.elim
  have hdecode : E.decode [.uint256] (encode [.uint n]) = some [.bigint n] := hrs
  have hstart := startsWith_encode (E := E) "Panic(uint256)" [.uint n]
  rw [hselectors.panic] at hstart
  have hother : startsWith (encodeFunctionData E "Panic(uint256)" [.uint n]) errorStringSelector = false := by
    by_contra herror
    rw [not_panic_of_error (Bool.of_not_eq_false herror)] at hstart
    cases hstart
  refine decodeRevertData_of_known (isHexText_hexlify _) (encode_ne_empty _ _) ?_
  rw [knownRevert, hother, if_neg Bool.false_ne_true, if_pos hstart, payload_encode, Option.bind_some,
    decodeUint256, hdecode, Option.map_some]

/-- Other data is shown, and so is data with a payload that is rejected. -/
theorem decodeRevertData_custom {data : String} (hhex : isHexText data = true) (hne : data ≠ "0x")
    (h : (startsWith data errorStringSelector = false ∧ startsWith data panicSelector = false) ∨
      PayloadRejected E data) :
    Proxy.decodeRevertData E data = some ("custom error " ++ Proxy.clipData data) := by
  have hunknown : knownRevert E data = none := by
    unfold knownRevert
    rcases h with ⟨herror, hpanic⟩ | ⟨herror, hrejected⟩ | ⟨hpanic, hrejected⟩
    · rw [herror, hpanic, if_neg Bool.false_ne_true, if_neg Bool.false_ne_true]
    · rw [if_pos herror, hrejected]
    · have herror : ¬startsWith data errorStringSelector = true := by
        intro herror
        rw [not_panic_of_error herror] at hpanic
        cases hpanic
      rw [if_neg herror, if_pos hpanic, hrejected, Option.map_none]
  rw [Proxy.decodeRevertData, if_neg (by simp [hhex, hne]), hunknown, Option.getD_none]

theorem decodeRevertData_eq_none {data : String} :
    Proxy.decodeRevertData E data = none ↔ isHexText data = false ∨ data = "0x" := by
  unfold Proxy.decodeRevertData
  split_ifs with h
  · simpa using h
  · simpa using h

/-- The copies agree, up to the mark behind data that is cut. -/
theorem decodeRevertData_agree (E : Ethers) (data : String) :
    decodeRevertData E data = Proxy.decodeRevertData E data ∨ 66 < data.toList.length ∧
      Proxy.decodeRevertData E data = some ("custom error " ++ (String.ofList (data.toList.take 66) ++ "…")) ∧
      decodeRevertData E data = some ("custom error " ++ (String.ofList (data.toList.take 66) ++ "...")) := by
  unfold decodeRevertData Proxy.decodeRevertData
  split_ifs with hnull
  · exact Or.inl rfl
  cases hknown : knownRevert E data with
  | some text => exact Or.inl rfl
  | none =>
    rw [Option.getD_none, Option.getD_none, clipData, Proxy.clipData]
    split_ifs with hlong
    · exact Or.inr ⟨hlong, rfl, rfl⟩
    · exact Or.inl rfl

/-- The reading of revert data: `Error(s)` is its message and `Panic(n)` its code in hex; hex data
    with another selector, or with a payload that the decoder rejects, is shown, cut to 66
    characters; there is no text exactly for what is not hex and for `0x`; and the browser's copy
    agrees. -/
theorem decodeRevertData_spec (hE : Canonical E) (hselectors : RevertSelectors E) :
    (∀ s : String, (encode [.bytes (utf8Encode s)]).length < 2 ^ 53 →
      Proxy.decodeRevertData E (encodeFunctionData E "Error(string)" [.bytes (utf8Encode s)]) = some s) ∧
    (∀ n < 2 ^ 256, Proxy.decodeRevertData E (encodeFunctionData E "Panic(uint256)" [.uint n]) =
      some ("Panic(" ++ toQuantity n ++ ")")) ∧
    (∀ data, isHexText data = true → data ≠ "0x" →
      (startsWith data errorStringSelector = false ∧ startsWith data panicSelector = false) ∨
        PayloadRejected E data →
      Proxy.decodeRevertData E data = some ("custom error " ++ Proxy.clipData data)) ∧
    (∀ data, startsWith data errorStringSelector = true →
      (∀ bs b, getBytes data = some bs → Abi.decode [.bytes] (bs.drop 4) = some [.bytes b] →
        utf8Encode (utf8Decode b) ≠ b) → PayloadRejected E data) ∧
    (∀ data, startsWith data panicSelector = true → (∀ bs, getBytes data = some bs → bs.length < 36) →
      PayloadRejected E data) ∧
    (∀ data, Proxy.decodeRevertData E data = none ↔ isHexText data = false ∨ data = "0x") ∧
    (∀ data, decodeRevertData E data = Proxy.decodeRevertData E data ∨ 66 < data.toList.length ∧
      Proxy.decodeRevertData E data = some ("custom error " ++ (String.ofList (data.toList.take 66) ++ "…")) ∧
      decodeRevertData E data = some ("custom error " ++ (String.ofList (data.toList.take 66) ++ "..."))) := by
  refine ⟨?_, ?_, ?_, ?_, ?_, ?_, decodeRevertData_agree E⟩
  · intro s hsize
    exact decodeRevertData_error hE hselectors hsize
  · intro n hn
    exact decodeRevertData_panic hE hselectors hn
  · intro data hhex hne h
    exact decodeRevertData_custom hhex hne h
  · intro data hselector h
    exact payloadRejected_of_error hE.toDocumented hselector h
  · intro data hselector h
    exact payloadRejected_of_panic hE.toDocumented hselector h
  · intro data
    exact decodeRevertData_eq_none

/-! ## A sample -/

/-- `lowerEthers` with the hashes of the two known errors. -/
def revertEthers : Ethers := { lowerEthers with
  id := fun s =>
    if s = "Error(string)" then
      ⟨bigEndian 32 0x08c379a0afcc32b1a39302f7cb8073359698411ab5fd6e3edb2c02c0b5fba8aa, length_bigEndian 32 _⟩
    else if s = "Panic(uint256)" then
      ⟨bigEndian 32 0x4e487b71539e0164c9d29506cc725e49342bcac15e0927282bf30fedfe1c7268, length_bigEndian 32 _⟩
    else lowerEthers.id s }

theorem revertEthers_canonical : Canonical revertEthers where
  getAddress_lower := lowerEthers_canonical.getAddress_lower
  getAddress_unique := lowerEthers_canonical.getAddress_unique
  getAddress_idem := lowerEthers_canonical.getAddress_idem
  decode_sound := lowerEthers_canonical.decode_sound
  getAddress_hexlify := lowerEthers_canonical.getAddress_hexlify
  decode_encode := lowerEthers_canonical.decode_encode

theorem revertEthers_selectors : RevertSelectors revertEthers where
  error := by decide +kernel
  panic := by decide +kernel

/-- A message, a panic, half a message and no data. -/
theorem decodeRevertData_spec_sample :
    Proxy.decodeRevertData revertEthers
        (encodeFunctionData revertEthers "Error(string)" [.bytes (utf8Encode "é!")]) = some "é!" ∧
      Proxy.decodeRevertData revertEthers (encodeFunctionData revertEthers "Panic(uint256)" [.uint 17]) =
        some "Panic(0x11)" ∧
      Proxy.decodeRevertData revertEthers "0x08c379a00" = some "custom error 0x08c379a00" ∧
      Proxy.decodeRevertData revertEthers "0x4e487b7100" = some "custom error 0x4e487b7100" ∧
      Proxy.decodeRevertData revertEthers "0x" = none := by
  obtain ⟨herror, hpanic, hcustom, hodd, hshort, hnone, -⟩ :=
    decodeRevertData_spec revertEthers_canonical revertEthers_selectors
  refine ⟨herror "é!" ?_, hpanic 17 (by norm_num), ?_, ?_, (hnone "0x").mpr (Or.inr rfl)⟩
  · simp [encode, length_heads, AbiValue.tail, length_pad32, utf8Encode, utf8Char]
  · refine hcustom "0x08c379a00" (by decide) (by decide) (Or.inr (hodd _ (by decide) ?_))
    intro bs b hbs
    cases hbs
  · refine hcustom "0x4e487b7100" (by decide) (by decide) (Or.inr (hshort _ (by decide) ?_))
    intro bs hbs
    cases hbs
    decide

end AccountAbstraction.Client
