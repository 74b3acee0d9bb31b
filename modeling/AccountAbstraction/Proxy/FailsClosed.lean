import AccountAbstraction.Failure
import AccountAbstraction.Proxy.UserOpLog

/-!
# Refusals of the write policy

A request that `check` (`examples/privy-google-aa/server/userop-policy.mjs:66-172`) does
not let through should end in a `PolicyError`, which `handleBundler` answers with 403. Some
helpers throw errors of their own: the conversion of the method to text, and `dataSlice` on
hex strings with an odd number of digits or too few bytes.

* `checkInitCode_throws`, `checkCallData_throws`, `checkOp_throws`, `check_throws`: on which
  arguments each part throws another error.
* `check_failsClosed_iff`: the requests that are let through or refused as they should.
-/

namespace AccountAbstraction.Proxy

open Js Abi

/-- An error other than a `PolicyError`. -/
def PolicyFailure.IsOther : PolicyFailure → Prop
  | .policyError _ => False
  | .other _ => True

/-- A computation that throws an error other than a `PolicyError`. -/
abbrev Throws {α : Type} (x : Except PolicyFailure α) : Prop := Fails PolicyFailure.IsOther x

/-! ## The requests -/

section Slips

variable (E : Ethers) (policy : UserOpPolicy)

/-- Hex text with an odd number of digits, or of fewer than `n` bytes. -/
def TooShort (n : ℕ) (text : String) : Prop := ∀ bs, getBytes text = some bs → bs.length < n

/-- The factory of an `initCode` is the expected one, if there is one. -/
def PinsFactory (bs : Bytes) : Prop :=
  ∃ factory, E.getAddress (hexlify (bs.take 20)) = some factory ∧
    ∀ expected, policy.expectedFactory = some expected → factory = expected

/-- An `initCode` of at least 42 characters that has an odd number of digits, or has the right
    factory with fewer than four bytes behind it. -/
def SlipsInitCode (initCode : Option Json) : Prop :=
  ∃ code : HexString, initCode = some (.str code.val) ∧ 42 ≤ code.val.toList.length ∧
    ∀ bs, getBytes code.val = some bs → bs.length < 24 ∧ PinsFactory E policy bs

/-- An `initCode` that is absent, or calls `createAccount` of the expected factory. -/
def AdmitsInitCode (initCode : Option Json) : Prop :=
  truthy initCode = false ∨ initCode = some (.str "0x") ∨
    ∃ (code : HexString) (bs : Bytes) (ownerArg owner : AddressText) (rest : List Decoded),
      initCode = some (.str code.val) ∧ getBytes code.val = some bs ∧ 24 ≤ bs.length ∧
      PinsFactory E policy bs ∧ (bs.drop 20).take 4 = E.selector createAccountSig ∧
      E.decode [.address, .uint256] (bs.drop 24) = some (.address ownerArg :: rest) ∧
      E.getAddress ownerArg.val = some owner

/-- The calldata is within the length cap. -/
def WithinCap (data : String) : Prop :=
  ∀ bound, policy.caps.callDataBytes.bound = some bound → ((data.toList.length : ℚ) - 2) / 2 ≤ bound

/-- Calldata within the cap that has an odd number of digits or fewer than four bytes, or that
    is an `execute` without value on an allowed target whose inner call has one to three bytes. -/
def SlipsCallData (callData : Option Json) : Prop :=
  ∃ data : HexString, callData = some (.str data.val) ∧ WithinCap policy data.val ∧
    (TooShort 4 data.val ∨
      ∃ (bs inner : Bytes) (dest : AddressText), getBytes data.val = some bs ∧
        bs.take 4 = E.selector executeSig ∧
        E.decode [.address, .uint256, .bytes] (bs.drop 4) =
          some [.address dest, .bigint 0, .hex (hexlify inner)] ∧
        (policy.anyTarget = true ∨ dest ∈ policy.targets) ∧ inner ≠ [] ∧ inner.length < 4)

/-- The fields of an operation that are checked before `initCode` and `callData`. -/
structure PassesGas (op : Json) : Prop where
  sender : ∃ sender, E.address? (op.field "sender") = some sender
  gasFees : ∃ fees : Bytes32, op.field "gasFees" = some (.str fees.val) ∧ lower fees.val = zeroWord
  gasLimits : ∃ (limits : Bytes32) (bs : Bytes), op.field "accountGasLimits" = some (.str limits.val) ∧
    getBytes limits.val = some bs ∧ bytesValue (bs.take 16) ≤ policy.caps.verificationGasLimit ∧
    bytesValue (bs.drop 16) ≤ policy.caps.callGasLimit
  preVerificationGas : ∃ gas, bigInt (op.field "preVerificationGas") = some gas ∧
    gas ≤ policy.caps.preVerificationGas
  paymasterAndData : truthy (op.field "paymasterAndData") = false ∨
    op.field "paymasterAndData" = some (.str "0x")

/-- An operation that passes every check before the `initCode` or the calldata that slips. -/
def SlipsOp (op : Json) : Prop :=
  PassesGas E policy op ∧
    (SlipsInitCode E policy (op.field "initCode") ∨
      (AdmitsInitCode E policy (op.field "initCode") ∧ SlipsCallData E policy (op.field "callData")))

/-- A request with a method that has no text, or with an operation that slips. -/
def Slips (request : Json) : Prop :=
  ∃ fields, request = .obj fields ∧
    ((∃ method, fields.lookup "method" = some method ∧ method.text? = none) ∨
      (fields.lookup "method" = some (.str "eth_sendUserOperation") ∧
        ∃ op entryPoint, fields.lookup "params" = some (.arr [op, entryPoint]) ∧
          E.address? (some entryPoint) = some policy.expectedEntryPoint ∧ SlipsOp E policy op))

end Slips

/-! ## The helpers -/

variable {E : Ethers} {policy : UserOpPolicy}

@[simp] theorem throws_refuse {α : Type} (message : String) :
    Throws (refuse message : Except PolicyFailure α) ↔ False := by
  simp [refuse, PolicyFailure.IsOther]

theorem throws_slice {data : String} {start : ℕ} {stop : Option ℕ} :
    Throws (slice data start stop) ↔ dataSlice data start stop = none := by
  unfold slice
  cases dataSlice data start stop with
  | some text => simp
  | none => cases getBytes data <;> simp [PolicyFailure.IsOther]

theorem throws_checksum {text : String} : Throws (checksum E text) ↔ E.getAddress text = none := by
  unfold checksum
  cases E.getAddress text <;> simp [PolicyFailure.IsOther]

@[simp] theorem throws_normalize (value : Option Json) (what : String) :
    Throws (normalize E value what) ↔ False := by
  unfold normalize
  cases E.address? value <;> simp

@[simp] theorem throws_word (value : Option Json) (what : String) : Throws (word value what) ↔ False := by
  unfold word
  cases isHexString32 value <;> simp

@[simp] theorem throws_quantity (value : Option Json) (what : String) :
    Throws (quantity value what) ↔ False := by
  unfold quantity
  cases bigInt value <;> simp

@[simp] theorem throws_ceiling (what : String) (actual cap : ℤ) :
    Throws (ceiling what actual cap) ↔ False := by
  unfold ceiling
  split_ifs <;> simp

@[simp] theorem throws_pinFactory (expectedFactory : Option AddressText) (usedFactory : AddressText) :
    Throws (pinFactory expectedFactory usedFactory) ↔ False := by
  unfold pinFactory
  cases expectedFactory with
  | none => simp
  | some expected =>
    simp only
    split_ifs <;> simp

@[simp] theorem throws_decodeOwner (call : String) : Throws (decodeOwner E call) ↔ False := by
  unfold decodeOwner
  split
  · split <;> simp
  · simp

@[simp] theorem throws_checkLength (cap : NumberCap) (callData : String) :
    Throws (checkLength cap callData) ↔ False := by
  unfold checkLength
  cases cap.bound with
  | none => simp
  | some bound =>
    simp only
    split_ifs <;> simp

@[simp] theorem throws_decodeExecute (callData : String) : Throws (decodeExecute E callData) ↔ False := by
  unfold decodeExecute
  split <;> simp

/-- A statement `if p then throw …` followed by the rest. -/
theorem throws_unless {α β : Type} {p : Prop} [Decidable p] {message : String}
    {f : α → Except PolicyFailure β} {rest : Except PolicyFailure β} :
    Throws (if p then refuse message >>= f else rest) ↔ ¬p ∧ Throws rest := by
  split_ifs with h
  · simp [h, refuse, bind, Except.bind, PolicyFailure.IsOther]
  · simp [h]

theorem checkLength_eq_ok {data : String} {u : Unit} :
    checkLength policy.caps.callDataBytes data = .ok u ↔ WithinCap policy data := by
  unfold checkLength WithinCap refuse
  cases policy.caps.callDataBytes.bound with
  | none => simp
  | some bound =>
    simp only [Option.some.injEq, forall_eq']
    split_ifs with h
    · simp [h]
    · simpa using h

/-! ## Slices -/

theorem dataSlice_to_of_getBytes {text : String} {bs : Bytes} (h : getBytes text = some bs)
    (start stop : ℕ) :
    dataSlice text start (some stop) =
      if stop ≤ bs.length then some (hexlify ((bs.take stop).drop start)) else none := by
  simp only [dataSlice, h, Option.bind_some]
  split_ifs <;> first | rfl | omega

theorem dataSlice_to_eq_none {text : String} {start stop : ℕ} :
    dataSlice text start (some stop) = none ↔ TooShort stop text := by
  unfold TooShort
  cases hbs : getBytes text with
  | none => simp [dataSlice, hbs]
  | some bs =>
    rw [dataSlice_to_of_getBytes hbs]
    simp

/-! ## The parts of an operation -/

/-- The factory of the first twenty bytes passes `normalize` and `pinFactory`. -/
theorem pinsFactory_iff {bs : Bytes} :
    PinsFactory E policy bs ↔
      ∃ usedFactory, normalize E (some (.str (hexlify (bs.take 20)))) "initCode factory" = .ok usedFactory ∧
        ∃ u, pinFactory policy.expectedFactory usedFactory = .ok u := by
  unfold PinsFactory
  simp only [normalize_eq_ok, pinFactory_eq_ok, Ethers.address?, exists_const]

/-- `checkInitCode` behind its first tests. -/
theorem checkInitCode_of_long {code : HexString} (hlength : 42 ≤ code.val.toList.length) :
    policy.checkInitCode E (some (.str code.val)) = (do
      let usedFactory ← normalize E (some (.str (← slice code.val 0 (some 20)))) "initCode factory"
      pinFactory policy.expectedFactory usedFactory
      let call ← slice code.val 20
      if lower (← slice call 0 (some 4)) ≠ lower (createAccountSelector E) then
        refuse "initCode must call createAccount(address,uint256)"
      let owner ← decodeOwner E call
      return some owner) := by
  have hempty : code.val ≠ "" := by
    intro h
    rw [h] at hlength
    simp at hlength
  have hnone : code.val ≠ "0x" := by
    intro h
    rw [h] at hlength
    have htwo : "0x".toList.length = 2 := rfl
    omega
  have htruthy : (!truthy (some (.str code.val)) || isText (some (.str code.val)) "0x") = false := by
    simp [truthy, Json.truthy, hempty, isText, hnone]
  rw [UserOpPolicy.checkInitCode, if_neg (by simp [htruthy]), isHexString_str]
  simp only [if_neg (show ¬code.val.toList.length < 2 + 40 by omega)]

/-- On a text that has bytes, nothing but the selector is sliced out of bounds. -/
theorem checkInitCode_of_getBytes {code : HexString} {bs : Bytes} (hbs : getBytes code.val = some bs)
    (hlength : 42 ≤ code.val.toList.length) :
    policy.checkInitCode E (some (.str code.val)) = (do
      let usedFactory ← normalize E (some (.str (hexlify (bs.take 20)))) "initCode factory"
      pinFactory policy.expectedFactory usedFactory
      if lower (← slice (hexlify (bs.drop 20)) 0 (some 4)) ≠ lower (createAccountSelector E) then
        refuse "initCode must call createAccount(address,uint256)"
      let owner ← decodeOwner E (hexlify (bs.drop 20))
      return some owner) := by
  have hbytes := length_of_getBytes hbs
  have hto : slice code.val 0 (some 20) = .ok (hexlify (bs.take 20)) := by
    rw [slice_eq_ok, dataSlice_to_of_getBytes hbs, if_pos (by omega), List.drop_zero]
  have hfrom : slice code.val 20 = .ok (hexlify (bs.drop 20)) :=
    slice_eq_ok.mpr (dataSlice_from_eq_some.mpr ⟨bs, hbs, rfl⟩)
  rw [checkInitCode_of_long hlength]
  simp only [hto, hfrom]
  rfl

/-- A text that has bytes slips where its factory is the right one and no selector follows. -/
theorem checkInitCode_throws_of_getBytes {code : HexString} {bs : Bytes} (hbs : getBytes code.val = some bs)
    (hlength : 42 ≤ code.val.toList.length) :
    Throws (policy.checkInitCode E (some (.str code.val))) ↔ bs.length < 24 ∧ PinsFactory E policy bs := by
  have hshort : TooShort 4 (hexlify (bs.drop 20)) ↔ bs.length < 24 := by
    rw [TooShort, getBytes_hexlify]
    simp only [Option.some.injEq, forall_eq', List.length_drop]
    omega
  rw [checkInitCode_of_getBytes hbs hlength, pinsFactory_iff, ← hshort]
  simp only [fails_bind, throws_normalize, throws_pinFactory, false_or, throws_unless, throws_slice,
    throws_decodeOwner, fails_pure, and_false, exists_false, or_false, dataSlice_to_eq_none]
  constructor
  · rintro ⟨usedFactory, hused, u, hpinned, hslice⟩
    exact ⟨hslice, usedFactory, hused, u, hpinned⟩
  · rintro ⟨hslice, usedFactory, hused, u, hpinned⟩
    exact ⟨usedFactory, hused, u, hpinned, hslice⟩

/-- `checkInitCode` throws another error exactly on the `initCode`s that slip. -/
theorem checkInitCode_throws {initCode : Option Json} :
    Throws (policy.checkInitCode E initCode) ↔ SlipsInitCode E policy initCode := by
  constructor
  · intro h
    have hcheck := h
    unfold UserOpPolicy.checkInitCode at h
    split at h
    · simp at h
    split at h
    · simp at h
    rename_i code hcode
    rw [throws_unless] at h
    obtain rfl := isHexString_eq_some hcode
    have hlength : 42 ≤ code.val.toList.length := by
      have := h.1
      omega
    exact ⟨code, rfl, hlength, fun bs hbs => (checkInitCode_throws_of_getBytes hbs hlength).mp hcheck⟩
  · rintro ⟨code, rfl, hlength, hslips⟩
    cases hbs : getBytes code.val with
    | none =>
      have hshort : TooShort 20 code.val := fun bs h => by rw [hbs] at h; cases h
      rw [checkInitCode_of_long hlength]
      exact fails_bind.mpr (Or.inl (throws_slice.mpr (dataSlice_to_eq_none.mpr hshort)))
    | some bs => exact (checkInitCode_throws_of_getBytes hbs hlength).mpr (hslips bs hbs)

/-- The owner of a call with the selector. -/
theorem decodeOwner_eq_ok {call : Bytes} {owner : AddressText}
    (hselector : call.take 4 = E.selector createAccountSig) :
    decodeOwner E (hexlify call) = .ok owner ↔
      ∃ ownerArg rest, E.decode [.address, .uint256] (call.drop 4) = some (.address ownerArg :: rest) ∧
        E.getAddress ownerArg.val = some owner := by
  have hdecode : E.decodeFunctionData createAccountSig [.address, .uint256] (hexlify call) =
      E.decode [.address, .uint256] (call.drop 4) := by
    rw [Ethers.decodeFunctionData, getBytes_hexlify, Option.bind_some, if_pos hselector]
  unfold decodeOwner
  rw [hdecode]
  split
  · rename_i ownerArg rest heq
    cases hget : E.getAddress ownerArg.val with
    | none => simp [heq, refuse, hget]
    | some owner' => simp [heq, hget]
  · rename_i hne
    simp only [refuse, reduceCtorEq, false_iff]
    rintro ⟨ownerArg, rest, heq, -⟩
    exact hne ownerArg rest heq

/-- `checkInitCode` returns exactly on what it should. -/
theorem checkInitCode_eq_ok_iff {initCode : Option Json} :
    (∃ owner, policy.checkInitCode E initCode = .ok owner) ↔ AdmitsInitCode E policy initCode := by
  constructor
  · rintro ⟨owner, h⟩
    have hcheck := h
    rcases checkInitCode_ok h with hempty | hempty |
      ⟨code, bs, usedFactory, rfl, hbs, -, hused, hpinned, hselector⟩
    · exact Or.inl hempty
    · exact Or.inr (Or.inl hempty)
    · have hlength : 24 ≤ bs.length := by
        have hfour := E.four_le_of_take hselector
        rw [List.length_drop] at hfour
        omega
      rw [checkInitCode_of_getBytes hbs (by rw [length_of_getBytes hbs]; omega)] at hcheck
      simp only [bind_eq_ok, unless_refused] at hcheck
      obtain ⟨_, -, _, -, _, -, -, owner', howner, -⟩ := hcheck
      obtain ⟨ownerArg, rest, hdecode, hget⟩ := (decodeOwner_eq_ok hselector).mp howner
      rw [List.drop_drop] at hdecode
      exact Or.inr (Or.inr ⟨code, bs, ownerArg, owner', rest, rfl, hbs, hlength, ⟨usedFactory, hused, hpinned⟩,
        hselector, hdecode, hget⟩)
  · rintro (hempty | rfl | ⟨code, bs, ownerArg, owner, rest, rfl, hbs, hlength, hpins, hselector, hdecode, hget⟩)
    · exact ⟨none, by rw [UserOpPolicy.checkInitCode, if_pos (by simp [hempty])]⟩
    · exact ⟨none, rfl⟩
    · obtain ⟨usedFactory, hused, u, hpinned⟩ := pinsFactory_iff.mp hpins
      rw [checkInitCode_of_getBytes hbs (by rw [length_of_getBytes hbs]; omega)]
      simp only [bind_eq_ok, unless_refused]
      refine ⟨some owner, usedFactory, hused, u, hpinned, hexlify ((bs.drop 20).take 4), ?_, ?_, owner, ?_, rfl⟩
      · rw [slice_eq_ok, dataSlice_to_of_getBytes (getBytes_hexlify _), List.length_drop,
          if_pos (by omega), List.drop_zero]
      · rw [not_not, createAccountSelector, lower_hexlify_eq_selectorText]
        exact hselector
      · refine (decodeOwner_eq_ok hselector).mpr ⟨ownerArg, rest, ?_, hget⟩
        rw [List.drop_drop]
        exact hdecode

/-- An inner call of one to three bytes has no selector. -/
theorem throws_innerSelector (inner : Bytes) :
    Throws (innerSelector (hexlify inner)) ↔ inner ≠ [] ∧ inner.length < 4 := by
  have hempty : hexlify inner = "0x" ↔ inner = [] := hexlify_injective.eq_iff (b := [])
  rw [innerSelector]
  split_ifs with h
  · simp [hempty.mp h]
  · have hne : inner ≠ [] := fun hnil => h (hempty.mpr hnil)
    show Throws ((slice (hexlify inner) 0 (some 4)).map lower) ↔ _
    rw [Throws, fails_map]
    show Throws _ ↔ _
    rw [throws_slice, dataSlice_to_of_getBytes (getBytes_hexlify inner)]
    simp [hne]

/-- The `execute` call that calldata decodes to. -/
theorem decodeExecute_of_getBytes {data : String} {bs : Bytes} (hbs : getBytes data = some bs)
    {dest : AddressText} {value : ℕ} {inner : String} :
    decodeExecute E data = .ok (dest, value, inner) ↔
      bs.take 4 = E.selector executeSig ∧
        E.decode [.address, .uint256, .bytes] (bs.drop 4) =
          some [.address dest, .bigint value, .hex inner] := by
  rw [decodeExecute_eq_ok, Ethers.decodeFunctionData, hbs, Option.bind_some]
  split_ifs with h <;> simp [h]

/-- What the decoder gives for an `execute` call: an address in checksum form, and bytes. -/
theorem decode_execute (hE : E.Documented) {bs : Bytes} {dest : AddressText} {value : ℕ} {inner : String}
    (h : E.decode [.address, .uint256, .bytes] bs = some [.address dest, .bigint value, .hex inner]) :
    E.getAddress dest.val = some dest ∧ ∃ b, inner = hexlify b := by
  obtain ⟨vs, -, hdenotes⟩ := hE.decode_sound _ _ _ h
  simp only [List.forall₂_cons_left_iff, List.forall₂_nil_left_iff, Decoded.denotes_address,
    Decoded.denotes_bigint, Decoded.denotes_hex] at hdenotes
  obtain ⟨-, -, ⟨-, hdest⟩, ⟨-, -, -, ⟨-, -, ⟨b, -, rfl⟩, -⟩, -⟩, -⟩ := hdenotes
  exact ⟨hdest, b, rfl⟩

/-- The steps of `checkCallData` on hex text, up to the one that throws. -/
theorem checkCallData_throws_str {data : HexString} :
    Throws (policy.checkCallData E (some (.str data.val))) ↔ WithinCap policy data.val ∧
      (TooShort 4 data.val ∨ ∃ selector, slice data.val 0 (some 4) = .ok selector ∧
        lower selector = lower (executeSelector E) ∧ ∃ call, decodeExecute E data.val = .ok call ∧
          call.2.1 = 0 ∧ (E.getAddress call.1.val = none ∨
            ∃ target, E.getAddress call.1.val = some target ∧
              (policy.anyTarget = true ∨ target ∈ policy.targets) ∧ Throws (innerSelector call.2.2))) := by
  have htarget : ∀ target, ¬(!policy.anyTarget && !policy.targets.contains target) = true ↔
      policy.anyTarget = true ∨ target ∈ policy.targets := by
    intro target
    cases policy.anyTarget <;> simp
  rw [UserOpPolicy.checkCallData, isHexString_str]
  simp only [fails_bind, throws_checkLength, false_or, throws_slice, throws_unless, throws_decodeExecute,
    throws_checksum, fails_pure, and_false, exists_false, or_false, checkLength_eq_ok, exists_const,
    dataSlice_to_eq_none, checksum_eq_ok, htarget, not_not, ne_eq]

/-- `checkCallData` throws another error exactly on the calldata that slips. -/
theorem checkCallData_throws (hE : E.Documented) {callData : Option Json} :
    Throws (policy.checkCallData E callData) ↔ SlipsCallData E policy callData := by
  constructor
  · intro h
    cases hdata : isHexString callData with
    | none =>
      rw [UserOpPolicy.checkCallData, hdata] at h
      simp at h
    | some data =>
      obtain rfl := isHexString_eq_some hdata
      obtain ⟨hcap, h⟩ := checkCallData_throws_str.mp h
      refine ⟨data, rfl, hcap, ?_⟩
      rcases h with hshort | ⟨_, hslice, -, ⟨dest, value, text⟩, hexecute, hvalue, h⟩
      · exact Or.inl hshort
      right
      obtain ⟨bs, hbs, -, -⟩ := dataSlice_to_eq_some.mp (slice_eq_ok.mp hslice)
      obtain ⟨hselector, hdecode⟩ := (decodeExecute_of_getBytes hbs).mp hexecute
      obtain ⟨hdest, inner, rfl⟩ := decode_execute hE hdecode
      obtain rfl := hvalue
      rcases h with hnone | ⟨target, htarget, hallowed, hinner⟩
      · rw [hdest] at hnone
        cases hnone
      · rw [hdest] at htarget
        cases htarget
        obtain ⟨hne, hlt⟩ := (throws_innerSelector inner).mp hinner
        exact ⟨bs, inner, dest, hbs, hselector, hdecode, hallowed, hne, hlt⟩
  · rintro ⟨data, rfl, hcap, hslips⟩
    refine checkCallData_throws_str.mpr ⟨hcap, ?_⟩
    rcases hslips with hshort | ⟨bs, inner, dest, hbs, hselector, hdecode, htarget, hne, hlt⟩
    · exact Or.inl hshort
    right
    obtain ⟨hdest, -⟩ := decode_execute hE hdecode
    obtain ⟨selector, hslice, hlower⟩ := slice_selector hbs hselector
    refine ⟨selector, hslice, hlower, (dest, 0, hexlify inner), ?_, rfl, ?_⟩
    · exact (decodeExecute_of_getBytes hbs).mpr ⟨hselector, hdecode⟩
    · exact Or.inr ⟨dest, hdest, htarget, (throws_innerSelector inner).mpr ⟨hne, hlt⟩⟩

/-! ## The operation -/

/-- The limits that `checkOp` slices out of a word. -/
theorem gasLimits_halves (limits : Bytes32) :
    ∃ bs, getBytes limits.val = some bs ∧
      slice (lower limits.val) 0 (some 16) = .ok (hexlify (bs.take 16)) ∧
      slice (lower limits.val) 16 (some 32) = .ok (hexlify (bs.drop 16)) ∧
      toBigInt (hexlify (bs.take 16)) = .ok (bytesValue (bs.take 16)) ∧
      toBigInt (hexlify (bs.drop 16)) = .ok (bytesValue (bs.drop 16)) := by
  obtain ⟨bs, hbs, hlength⟩ := exists_getBytes limits.property
  have hhexlify : getBytes (lower limits.val) = some bs := by
    rw [lower_of_getBytes hbs, getBytes_hexlify]
  have hfirst : (bs.take 16).length = 16 := by simp [hlength]
  have hsecond : (bs.drop 16).length = 16 := by simp [hlength]
  refine ⟨bs, hbs, ?_, ?_, ?_, ?_⟩
  · rw [slice_eq_ok, dataSlice_to_of_getBytes hhexlify, if_pos (by omega), List.drop_zero]
  · rw [slice_eq_ok, dataSlice_to_of_getBytes hhexlify, if_pos (by omega),
      List.take_of_length_le (by omega)]
  · rw [toBigInt_eq_ok]
    exact bigIntOfText_hexlify (by rintro h; rw [h] at hfirst; cases hfirst)
  · rw [toBigInt_eq_ok]
    exact bigIntOfText_hexlify (by rintro h; rw [h] at hsecond; cases hsecond)

/-- Every step of `checkOp` in front of the `initCode`: it throws another error only behind them. -/
theorem checkOp_throws_iff {method : String} {op : Json} :
    Throws (policy.checkOp E method op) ↔ PassesGas E policy op ∧
      (Throws (policy.checkInitCode E (op.field "initCode")) ∨
        (∃ owner, policy.checkInitCode E (op.field "initCode") = .ok owner) ∧
          Throws (policy.checkCallData E (op.field "callData"))) := by
  simp only [UserOpPolicy.checkOp, fails_bind, throws_unless, throws_normalize, throws_word, throws_quantity,
    throws_ceiling, false_or, normalize_eq_ok, word_eq_ok, quantity_eq_ok, ceiling_eq_ok, exists_const,
    fails_pure, and_false, exists_false, or_false]
  constructor
  · rintro ⟨sender, hsender, _, ⟨fees, hfees, rfl⟩, hzero, _, ⟨limits, hlimits, rfl⟩, h⟩
    obtain ⟨bs, hbs, hfirst, hsecond, hvgl, hcgl⟩ := gasLimits_halves limits
    simp only [hfirst, hsecond, hvgl, hcgl, fails_ok, Except.ok.injEq, exists_eq_left', false_or] at h
    obtain ⟨hvcap, hccap, gas, hgas, hpcap, hpaymaster, h⟩ := h
    refine ⟨⟨⟨sender, hsender⟩, ⟨fees, hfees, not_not.mp hzero⟩, ⟨limits, bs, hlimits, hbs, hvcap, hccap⟩,
      ⟨gas, hgas, hpcap⟩, ?_⟩, ?_⟩
    · by_cases htruthy : truthy (op.field "paymasterAndData") = true
      · exact Or.inr (isText_iff.mp (by simpa [htruthy] using hpaymaster))
      · exact Or.inl (by simpa using htruthy)
    · rcases h with hinit | ⟨owner, howner, hcall⟩
      · exact Or.inl hinit
      · exact Or.inr ⟨⟨owner, howner⟩, hcall⟩
  · rintro ⟨⟨⟨sender, hsender⟩, ⟨fees, hfees, hzero⟩, ⟨limits, bs, hlimits, hbs, hvcap, hccap⟩,
      ⟨gas, hgas, hpcap⟩, hpaymaster⟩, h⟩
    obtain ⟨bs', hbs', hfirst, hsecond, hvgl, hcgl⟩ := gasLimits_halves limits
    cases hbs.symm.trans hbs'
    refine ⟨sender, hsender, _, ⟨fees, hfees, rfl⟩, not_not.mpr hzero, _, ⟨limits, hlimits, rfl⟩, ?_⟩
    simp only [hfirst, hsecond, hvgl, hcgl, fails_ok, Except.ok.injEq, exists_eq_left', false_or]
    refine ⟨hvcap, hccap, gas, hgas, hpcap, ?_, ?_⟩
    · rcases hpaymaster with hfalsy | hnone
      · simp [hfalsy]
      · simp [hnone, isText]
    · rcases h with hinit | ⟨⟨owner, howner⟩, hcall⟩
      · exact Or.inl hinit
      · exact Or.inr ⟨owner, howner, hcall⟩

theorem checkOp_throws (hE : E.Documented) {method : String} {op : Json} :
    Throws (policy.checkOp E method op) ↔ SlipsOp E policy op := by
  rw [checkOp_throws_iff, checkInitCode_throws, checkInitCode_eq_ok_iff, checkCallData_throws hE]
  rfl

/-! ## The request -/

/-- The method of a refusal is quoted unless it has no text. -/
theorem throws_methodText {method : Option Json} :
    Throws (UserOpPolicy.methodText method) ↔ ∃ v, method = some v ∧ v.text? = none := by
  constructor
  · intro h
    by_contra hnot
    have hwritable : ∀ v, method = some v → v.text? ≠ none := fun v hv hnone => hnot ⟨v, hv, hnone⟩
    unfold UserOpPolicy.methodText at h
    cases htext : ((jsOr method none).getD (.str "(none)")).text? with
    | some text =>
      rw [htext] at h
      simp at h
    | none =>
      unfold jsOr at htext
      split_ifs at htext with htruthy
      · cases method with
        | none => cases htruthy
        | some v => exact hwritable v rfl htext
      · cases htext
  · rintro ⟨v, rfl, hnone⟩
    obtain ⟨err, herr⟩ := methodText_of_text?_eq_none hnone
    rw [herr]
    simp [PolicyFailure.IsOther]

theorem allowedMethod?_of_send {method : Option Json} (h : method = some (.str "eth_sendUserOperation")) :
    UserOpPolicy.allowedMethod? method = some "eth_sendUserOperation" := by
  rw [h]
  rfl

/-- `check` throws an error that is not a `PolicyError` exactly on the requests that slip. -/
theorem check_throws (hE : E.Documented) {request : Json} :
    Throws (policy.check E request) ↔ Slips E policy request := by
  constructor
  · intro h
    unfold UserOpPolicy.check at h
    split at h
    · simp at h
    · rename_i fields
      refine ⟨fields, rfl, ?_⟩
      split at h
      · simp only [fails_bind, throws_methodText, throws_refuse, and_false, exists_false, or_false] at h
        exact Or.inl h
      rename_i name hmethod
      obtain ⟨rfl, hmethod⟩ := allowedMethod?_eq_some hmethod
      split at h
      · rename_i op entryPoint hparams
        simp only [fails_bind, throws_normalize, false_or, throws_unless, normalize_eq_ok] at h
        obtain ⟨a, hentryPoint, hsame, h⟩ := h
        obtain rfl := not_not.mp hsame
        refine Or.inr ⟨hmethod, op, entryPoint, hparams, hentryPoint, ?_⟩
        split at h
        · exact (checkOp_throws hE).mp h
        · exact (checkOp_throws hE).mp h
        · simp at h
      · simp at h
    · simp at h
  · rintro ⟨fields, rfl, ⟨method, hmethod, hnone⟩ | ⟨hmethod, op, entryPoint, hparams, hentryPoint, hslips⟩⟩
    · cases hallowed : UserOpPolicy.allowedMethod? (fields.lookup "method") with
      | some name =>
        -- the allowed method has a text
        obtain ⟨-, hstr⟩ := allowedMethod?_eq_some hallowed
        rw [hmethod] at hstr
        cases hstr
        cases hnone
      | none =>
        simp only [UserOpPolicy.check, hallowed, fails_bind, throws_methodText]
        exact Or.inl ⟨method, hmethod, hnone⟩
    · obtain ⟨sender, hsender⟩ := hslips.1.sender
      simp only [UserOpPolicy.check, allowedMethod?_of_send hmethod, hparams, fails_bind, throws_normalize,
        false_or, throws_unless, normalize_eq_ok]
      refine ⟨_, hentryPoint, not_not.mpr rfl, ?_⟩
      cases op with
      | obj opFields => exact (checkOp_throws hE).mpr hslips
      | arr items => exact (checkOp_throws hE).mpr hslips
      | _ => cases hsender

/-- An accepted request names its sender with a text. -/
theorem writable_sender {request : Json} {checked : Checked} (h : policy.check E request = .ok checked) :
    Writable (claimedSender request) := by
  obtain ⟨fields, op, entryPoint, rfl, hmethod, hparams, hentryPoint, -, -⟩ := check_ok h
  simp only [UserOpPolicy.check, allowedMethod?_of_send hmethod, hparams, bind_eq_ok, unless_refused] at h
  obtain ⟨_, -, -, h⟩ := h
  have hop : policy.checkOp E "eth_sendUserOperation" op = .ok checked := by
    split at h
    · exact h
    · exact h
    · cases h
  simp only [UserOpPolicy.checkOp, bind_eq_ok, normalize_eq_ok] at hop
  obtain ⟨sender, hsender, -⟩ := hop
  have hclaimed : claimedSender (.obj fields) = op.field "sender" := by
    have hfield : (Json.obj fields).field "params" = some (.arr [op, entryPoint]) := hparams
    unfold claimedSender
    rw [hfield]
    rfl
  intro v hv
  rw [hclaimed] at hv
  rw [hv] at hsender
  cases v with
  | str text => rfl
  | _ => cases hsender

/-! ## The result -/

/-- `check` returns or throws a `PolicyError`, and a request that it refuses gets 403 and its
    row in the log. -/
structure FailsClosed (E : Ethers) (env : ProxyEnv) (policy : UserOpPolicy) (req : ProxyRequest)
    (session : Session) (request : Json) (now : ℤ) : Prop where
  policyError : ∀ failure, policy.check E request = .error failure → ∃ message, failure = .policyError message
  answered : ∀ message, policy.check E request = .error (.policyError message) →
    ((handleBundler E (env.withLog now) req).forwarded = none ∧
      (handleBundler E (env.withLog now) req).outcome =
        .ok (errorReply env req policyStatus s!"rejected by policy: {message}") ∧
      ∃ row, record now (rejectedEntry session request message) = .ok row ∧
        (handleBundler E (env.withLog now) req).rows now = [row])

/-- A request that was refused, with the log open. -/
theorem answered_iff {env : ProxyEnv} {req : ProxyRequest} {session : Session} {request : Json} {now : ℤ}
    {message : String} {run : ProxyRun} (hwritable : Writable (request.field "method"))
    (hrun : run = recordThen (env.withLog now) none (rejectedEntry session request message)
      (errorReply env req policyStatus s!"rejected by policy: {message}")) :
    (run.forwarded = none ∧
        run.outcome = .ok (errorReply env req policyStatus s!"rejected by policy: {message}") ∧
        ∃ row, record now (rejectedEntry session request message) = .ok row ∧ run.rows now = [row]) ↔
      Writable (claimedSender request) := by
  have hrecord : (∃ row, record now (rejectedEntry session request message) = .ok row) ↔ _ := record_eq_ok now
  subst hrun
  constructor
  · rintro ⟨-, -, row, hrow, -⟩
    exact (hrecord.mp ⟨row, hrow⟩).2.1
  · intro hsender
    obtain ⟨row, hrow⟩ := hrecord.mpr ⟨hwritable, hsender, writable_str⟩
    refine ⟨rfl, ?_, row, hrow, ?_⟩
    · show (Except.map _ (Except.map _ (record now _))) = _
      rw [hrow]
      rfl
    · simp [ProxyRun.rows, recordThen, hrow, Except.toOption]

/-- The policy fails closed on a request exactly when the request does not slip, and claims a
    sender that the log can write. -/
theorem check_failsClosed_iff (hE : E.Documented) {env : ProxyEnv} {req : ProxyRequest} {session : Session}
    {body : Body} {request : Json} {now : ℤ} (hmethod : req.method = "POST")
    (hsession : req.session = some session) (hbody : req.body = .ok body)
    (hparsed : body.parsed = some request) (hpolicy : createUserOpPolicy E env.policy = .ok policy) :
    FailsClosed E env policy req session request now ↔
      ¬Slips E policy request ∧ Writable (claimedSender request) := by
  have hcheck : policyCheck E (env.withLog now) request = policy.check E request :=
    policyCheck_of_created hpolicy
  rw [← check_throws hE, Throws, not_fails_iff]
  constructor
  · rintro ⟨hpolicyError, hanswered⟩
    constructor
    · intro failure hresult
      obtain ⟨message, rfl⟩ := hpolicyError failure hresult
      exact id
    · cases hresult : policy.check E request with
      | ok checked => exact writable_sender hresult
      | error failure =>
        obtain ⟨message, rfl⟩ := hpolicyError failure hresult
        have hrun := handleBundler_of_refused hmethod hsession hbody hparsed (hcheck.trans hresult)
        exact (answered_iff (writable_method hresult) hrun).mp (hanswered message hresult)
  · rintro ⟨hkind, hsender⟩
    constructor
    · intro failure hresult
      cases failure with
      | policyError message => exact ⟨message, rfl⟩
      | other err => exact absurd trivial (hkind _ hresult)
    · intro message hresult
      have hrun := handleBundler_of_refused hmethod hsession hbody hparsed (hcheck.trans hresult)
      exact (answered_iff (writable_method hresult) hrun).mpr hsender

def oneWord : String := "0x0000000000000000000000000000000000000000000000000000000000000001"

/-- An operation that would pay a fee of one. -/
def payingOp : Json := .obj
  [("sender", .str sampleAddress.val), ("gasFees", .str oneWord)]

def payingRequest : Json := .obj
  [("jsonrpc", .str "2.0"), ("method", .str "eth_sendUserOperation"),
   ("params", .arr [payingOp, .str sampleAddress.val])]

def payingWrite : ProxyRequest :=
  { sampleWrite with body := .ok { text := payingRequest.stringify, parsed := some payingRequest } }

/-- It is refused with 403, and the refusal is the one row of the log. -/
theorem check_failsClosed_sample : ∃ message row,
    samplePolicy.check sampleEthers payingRequest = .error (.policyError message) ∧
    (handleBundler sampleEthers (sampleProxy.withLog 0) payingWrite).outcome =
      .ok (errorReply sampleProxy payingWrite policyStatus s!"rejected by policy: {message}") ∧
    (handleBundler sampleEthers (sampleProxy.withLog 0) payingWrite).rows 0 = [row] := by
  have hslips : ¬Slips sampleEthers samplePolicy payingRequest := by
    rintro ⟨_, ⟨⟩, ⟨method, hmethod, hnone⟩ | ⟨-, op, entryPoint, hparams, -, ⟨hgas, -⟩⟩⟩
    · cases hmethod
      cases hnone
    · cases hparams
      obtain ⟨fees, hfees, hzero⟩ := hgas.gasFees
      have hone : fees.val = oneWord := (Json.str.inj (Option.some.inj hfees)).symm
      rw [hone] at hzero
      exact absurd hzero (by decide +kernel)
  have hsender : Writable (claimedSender payingRequest) := writable_str
  obtain ⟨hpolicyError, hanswered⟩ :
      FailsClosed sampleEthers sampleProxy samplePolicy payingWrite sampleSession payingRequest 0 :=
    (check_failsClosed_iff sampleEthers_documented rfl rfl rfl rfl samplePolicy_created).mpr ⟨hslips, hsender⟩
  cases hcheck : samplePolicy.check sampleEthers payingRequest with
  | ok checked =>
    have hrefused : (samplePolicy.check sampleEthers payingRequest).toOption.isNone = true := by rfl
    rw [hcheck] at hrefused
    cases hrefused
  | error failure =>
    obtain ⟨message, rfl⟩ := hpolicyError failure hcheck
    obtain ⟨-, houtcome, row, -, hrows⟩ := hanswered message hcheck
    exact ⟨message, row, rfl, houtcome, hrows⟩

/-- The sample operation with one hex digit as its calldata. -/
def oddOp : Json := .obj
  [("sender", .str sampleAddress.val), ("callData", .str "0x1"),
   ("accountGasLimits", .str sampleGasLimits.val),
   ("preVerificationGas", .num (.int 100000)), ("gasFees", .str zeroWord)]

def oddRequest : Json := .obj
  [("jsonrpc", .str "2.0"), ("method", .str "eth_sendUserOperation"),
   ("params", .arr [oddOp, .str sampleAddress.val])]

def oddWrite : ProxyRequest :=
  { sampleWrite with body := .ok { text := oddRequest.stringify, parsed := some oddRequest } }

theorem oddOp_slips : SlipsOp sampleEthers samplePolicy oddOp := by
  refine ⟨?_, Or.inr ⟨Or.inl rfl, ⟨"0x1", by decide⟩, rfl, ?_, Or.inl ?_⟩⟩
  · exact {
      sender := ⟨sampleAddress, by decide +kernel⟩
      gasFees := ⟨Bundler.zeroBytes32, rfl, by decide +kernel⟩
      gasLimits := ⟨sampleGasLimits, (getBytes sampleGasLimits.val).getD [], rfl, by decide +kernel,
        by decide +kernel, by decide +kernel⟩
      preVerificationGas := ⟨100000, rfl, by decide⟩
      paymasterAndData := Or.inl rfl }
  · intro bound hbound
    cases hbound
    have hlength : "0x1".toList.length = 3 := rfl
    rw [hlength]
    norm_num
  · intro bs hodd
    cases hodd

/-- Calldata with an odd number of digits makes `check` throw an error that is not a
    `PolicyError`: it leaves the handler, and nothing is logged. -/
theorem oddRequest_unlogged :
    ∃ err, samplePolicy.check sampleEthers oddRequest = .error (.other err) ∧
      (handleBundler sampleEthers (sampleProxy.withLog 0) oddWrite).outcome = .error err ∧
      (handleBundler sampleEthers (sampleProxy.withLog 0) oddWrite).rows 0 = [] := by
  have hslips : Slips sampleEthers samplePolicy oddRequest :=
    ⟨_, rfl, Or.inr ⟨rfl, oddOp, .str sampleAddress.val, rfl, by decide +kernel, oddOp_slips⟩⟩
  obtain ⟨failure, hfailure, hother⟩ := (check_throws sampleEthers_documented).mpr hslips
  cases failure with
  | policyError message => exact absurd hother id
  | other err =>
    have hcheck : policyCheck sampleEthers (sampleProxy.withLog 0) oddRequest = .error (.other err) :=
      (policyCheck_of_created samplePolicy_created).trans hfailure
    have hrun : handleBundler sampleEthers (sampleProxy.withLog 0) oddWrite = { outcome := .error err } :=
      handleBundler_of_thrown rfl rfl rfl rfl hcheck
    exact ⟨err, hfailure, by rw [hrun], by rw [hrun]; rfl⟩

end AccountAbstraction.Proxy
