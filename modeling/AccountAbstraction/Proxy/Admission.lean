import AccountAbstraction.Proxy.Policy

/-!
# What an accepted request has passed

One lemma for each function of the write policy: what holds of the arguments of a call
that returned.

* `createUserOpPolicy_ok`: the policy of a configuration.
* `checkInitCode_ok`, `checkCallData_ok`, `checkOp_ok`: the parts of an operation.
* `check_ok`: the request.
-/

namespace AccountAbstraction.Proxy

open Js Abi

variable {E : Ethers}

/-! ## Selectors -/

theorem lower_selectorText (E : Ethers) (sig : String) :
    lower (E.selectorText sig) = hexlify (E.selector sig) := lower_hexlify _

/-- The first four bytes of some text, compared as the policy does. -/
theorem lower_hexlify_eq_selectorText {bs : Bytes} {sig : String} :
    lower (hexlify bs) = lower (E.selectorText sig) ↔ bs = E.selector sig := by
  rw [lower_hexlify, lower_selectorText, hexlify_injective.eq_iff]

/-- The map of selectors has the signatures that were put into it, under their selectors. -/
theorem get_foldl_addSelector {sigs : List String} {m : OrderedMap String String}
    {selector sig : String} (h : (sigs.foldl (addSelector E) m).get selector = some sig) :
    (sig ∈ sigs ∧ selector = hexlify (E.selector sig)) ∨ m.get selector = some sig := by
  induction sigs generalizing m with
  | nil => exact .inr h
  | cons first sigs ih =>
    rcases ih h with ⟨hmem, hselector⟩ | hget
    · exact .inl ⟨List.mem_cons_of_mem _ hmem, hselector⟩
    · rw [addSelector, OrderedMap.get_set, lower_selectorText] at hget
      split_ifs at hget with hselector
      · cases hget
        exact .inl ⟨List.mem_cons_self, hselector⟩
      · exact .inr hget

/-- The selectors of the map are those of the signatures that were put into it. -/
theorem has_addSelector {m : OrderedMap String String} {sig selector : String} :
    (addSelector E m sig).has selector = true ↔
      selector = hexlify (E.selector sig) ∨ m.has selector = true := by
  rw [OrderedMap.has_iff, OrderedMap.has_iff, addSelector, OrderedMap.get_set, lower_selectorText]
  split_ifs with h
  · simp [h]
  · simp [h]

theorem has_foldl_addSelector {sigs : List String} {m : OrderedMap String String} {selector : String} :
    (sigs.foldl (addSelector E) m).has selector = true ↔
      (∃ sig ∈ sigs, selector = hexlify (E.selector sig)) ∨ m.has selector = true := by
  induction sigs generalizing m with
  | nil => simp
  | cons first sigs ih =>
    rw [List.foldl_cons, ih, has_addSelector, ← or_assoc, or_comm (a := ∃ sig ∈ sigs, _)]
    simp only [List.mem_cons, exists_eq_or_imp]

/-- Data that starts with the selector of a function passes the comparison with it. -/
theorem slice_selector {text sig : String} {bs : Bytes} (hbs : getBytes text = some bs)
    (h : bs.take 4 = E.selector sig) :
    ∃ selector, slice text 0 (some 4) = .ok selector ∧ lower selector = lower (E.selectorText sig) :=
  ⟨hexlify (bs.take 4), slice_eq_ok.mpr (dataSlice_to_eq_some.mpr ⟨bs, hbs, E.four_le_of_take h, rfl⟩),
   lower_hexlify_eq_selectorText.mpr h⟩

/-! ## The policy of a configuration -/

/-- What a policy keeps of its configuration. -/
structure UserOpPolicy.Of (E : Ethers) (config : PolicyConfig) (policy : UserOpPolicy) : Prop where
  entryPoint : E.getAddress config.entryPoint = some policy.expectedEntryPoint
  factory : ∀ text, config.factory = some text → text ≠ "" →
    ∃ expected, E.getAddress text = some expected ∧ policy.expectedFactory = some expected
  anyTarget : policy.anyTarget = true → config.allowedTargets = [] ∨ "*" ∈ config.allowedTargets
  targets : ∀ target ∈ policy.targets, ∃ text ∈ config.allowedTargets, E.getAddress text = some target
  anySelector : policy.anySelector = true → "*" ∈ config.allowedInnerSignatures
  innerSelectors : ∀ selector sig, policy.innerSelectors.get selector = some sig →
    sig ∈ config.allowedInnerSignatures ∧ sig ≠ "*" ∧ selector = hexlify (E.selector sig)
  caps : policy.caps = config.limits.caps

theorem expectedFactoryOf_eq_ok {factory : Option String} {expectedFactory : Option AddressText}
    (h : expectedFactoryOf E factory = .ok expectedFactory) {text : String} (hfactory : factory = some text)
    (hne : text ≠ "") :
    ∃ expected, E.getAddress text = some expected ∧ expectedFactory = some expected := by
  subst hfactory
  simp only [expectedFactoryOf, Option.filter_some, hne, ne_eq, not_false_eq_true, decide_true,
    if_true] at h
  cases hn : normalize E (some (.str text)) "factory" with
  | error err => rw [hn] at h; cases h
  | ok expected =>
    rw [hn] at h
    cases h
    exact ⟨expected, normalize_eq_ok.mp hn, rfl⟩

theorem anyTargetOf_iff {allowedTargets : List String} :
    anyTargetOf allowedTargets = true ↔ allowedTargets = [] ∨ "*" ∈ allowedTargets := by
  simp [anyTargetOf]

theorem mapM_normalize_eq_ok {texts : List String} {what : String} {targets : List AddressText}
    (h : texts.mapM (fun t => normalize E (some (.str t)) what) = .ok targets) :
    ∀ target ∈ targets, ∃ text ∈ texts, E.getAddress text = some target := by
  induction texts generalizing targets with
  | nil =>
    cases h
    simp
  | cons text texts ih =>
    simp only [List.mapM_cons, bind_eq_ok, normalize_eq_ok] at h
    obtain ⟨first, hfirst, rest, hrest, heq⟩ := h
    cases heq
    intro target hmem
    rcases List.mem_cons.mp hmem with rfl | hmem
    · exact ⟨text, List.mem_cons_self, hfirst⟩
    · obtain ⟨text', hmem', htext'⟩ := ih hrest target hmem
      exact ⟨text', List.mem_cons_of_mem _ hmem', htext'⟩

theorem targetsOf_eq_ok {allowedTargets : List String} {targets : List AddressText}
    (h : targetsOf E allowedTargets = .ok targets) :
    ∀ target ∈ targets, ∃ text ∈ allowedTargets, E.getAddress text = some target := by
  unfold targetsOf at h
  split_ifs at h
  · cases h
    simp
  · exact mapM_normalize_eq_ok h

theorem createUserOpPolicy_ok {config : PolicyConfig} {policy : UserOpPolicy}
    (h : createUserOpPolicy E config = .ok policy) : policy.Of E config := by
  simp only [createUserOpPolicy, bind_eq_ok, normalize_eq_ok] at h
  obtain ⟨entryPoint, hentryPoint, factory, hfactory, targets, htargets, heq⟩ := h
  cases heq
  exact {
    entryPoint := hentryPoint
    factory := fun text htext hne => expectedFactoryOf_eq_ok hfactory htext hne
    anyTarget := anyTargetOf_iff.mp
    targets := targetsOf_eq_ok htargets
    anySelector := fun h => by simpa using h
    innerSelectors := fun selector sig hget => by
      rcases get_foldl_addSelector hget with ⟨hmem, hselector⟩ | hempty
      · rw [List.mem_filter] at hmem
        exact ⟨hmem.1, by simpa using hmem.2, hselector⟩
      · cases hempty
    caps := rfl }

theorem anySelector_eq {config : PolicyConfig} {policy : UserOpPolicy}
    (h : createUserOpPolicy E config = .ok policy) :
    policy.anySelector = config.allowedInnerSignatures.contains "*" := by
  simp only [createUserOpPolicy, bind_eq_ok] at h
  obtain ⟨_, _, _, _, _, _, heq⟩ := h
  cases heq
  rfl

theorem innerSelectors_eq {config : PolicyConfig} {policy : UserOpPolicy}
    (h : createUserOpPolicy E config = .ok policy) :
    policy.innerSelectors = (config.allowedInnerSignatures.filter (· ≠ "*")).foldl (addSelector E) ∅ := by
  simp only [createUserOpPolicy, bind_eq_ok] at h
  obtain ⟨_, _, _, _, _, _, heq⟩ := h
  cases heq
  rfl

/-- The selectors of a policy are those of the configured signatures. -/
theorem has_innerSelectors {config : PolicyConfig} {policy : UserOpPolicy}
    (h : createUserOpPolicy E config = .ok policy) {selector : String} :
    policy.innerSelectors.has selector = true ↔
      ∃ sig ∈ config.allowedInnerSignatures, sig ≠ "*" ∧ selector = hexlify (E.selector sig) := by
  rw [innerSelectors_eq h, has_foldl_addSelector]
  simp [OrderedMap.has, and_assoc]

/-! ## The parts of an operation -/

/-- An accepted `initCode` is empty, or calls `createAccount` of the expected factory. -/
theorem checkInitCode_ok {policy : UserOpPolicy} {initCode : Option Json} {owner : Option AddressText}
    (h : policy.checkInitCode E initCode = .ok owner) :
    truthy initCode = false ∨ initCode = some (.str "0x") ∨
      ∃ (code : HexString) (bs : Bytes) (usedFactory : AddressText),
        initCode = some (.str code.val) ∧ getBytes code.val = some bs ∧ 20 ≤ bs.length ∧
        E.getAddress (hexlify (bs.take 20)) = some usedFactory ∧
        (∀ expected, policy.expectedFactory = some expected → usedFactory = expected) ∧
        (bs.drop 20).take 4 = E.selector createAccountSig := by
  unfold UserOpPolicy.checkInitCode at h
  split at h
  · rename_i hempty
    rw [Bool.or_eq_true, isText_iff, Bool.not_eq_true'] at hempty
    exact hempty.imp_right .inl
  split at h
  · cases h
  rename_i code hcode
  simp only [bind_eq_ok, normalize_eq_ok, slice_eq_ok, unless_refused, pinFactory_eq_ok,
    dataSlice_to_eq_some, dataSlice_from_eq_some] at h
  obtain ⟨-, -, ⟨bs, hbs, hlength, rfl⟩, usedFactory, hused, -, hpinned, -, ⟨bs', hbs', rfl⟩, -,
    ⟨call, hcall, -, rfl⟩, hselector, -⟩ := h
  rw [hbs] at hbs'
  cases hbs'
  rw [getBytes_hexlify] at hcall
  cases hcall
  rw [not_not, createAccountSelector, List.drop_zero, lower_hexlify_eq_selectorText] at hselector
  exact .inr (.inr ⟨code, bs, usedFactory, isHexString_eq_some hcode, hbs, hlength, hused, hpinned,
    hselector⟩)

/-- The selector of an inner call is that of its first four bytes, if there are any bytes. -/
theorem innerSelector_hexlify {inner : Bytes} {selector : String} :
    innerSelector (hexlify inner) = .ok selector ↔
      (inner = [] ∨ 4 ≤ inner.length) ∧ hexlify (inner.take 4) = selector := by
  have hempty : hexlify inner = "0x" ↔ inner = [] := hexlify_injective.eq_iff (b := [])
  rw [innerSelector]
  split_ifs with h
  · rw [hempty] at h
    subst h
    simp [hexlify]
  · have hne : inner ≠ [] := fun hnil => h (hempty.mpr hnil)
    simp only [hne, false_or]
    constructor
    · intro hmap
      cases hs : slice (hexlify inner) 0 (some 4) with
      | error err => rw [hs] at hmap; cases hmap
      | ok text =>
        rw [hs] at hmap
        cases hmap
        obtain ⟨bs, hbs, hlength, rfl⟩ := dataSlice_to_eq_some.mp (slice_eq_ok.mp hs)
        rw [getBytes_hexlify] at hbs
        cases hbs
        exact ⟨hlength, by rw [List.drop_zero, lower_hexlify]⟩
    · rintro ⟨hlength, rfl⟩
      have hs : slice (hexlify inner) 0 (some 4) = .ok (hexlify (inner.take 4)) :=
        slice_eq_ok.mpr (dataSlice_to_eq_some.mpr ⟨_, getBytes_hexlify _, hlength, rfl⟩)
      rw [hs]
      show Except.ok (lower (hexlify (inner.take 4))) = _
      rw [lower_hexlify]

/-- The decoded argument of an inner call is the first word behind the selector. -/
theorem decodeSingleUint_hexlify (hE : E.Documented) {signature : Option String} {inner : Bytes}
    {value : String} (h : decodeSingleUint E signature (hexlify inner) = some value) :
    ∃ n, Abi.decode [.uint256] (inner.drop 4) = some [.uint n] ∧ value = toString n := by
  unfold decodeSingleUint at h
  split at h
  · cases h
  split_ifs at h
  split at h
  · rename_i n hdecode
    cases h
    simp only [dataSlice, getBytes_hexlify, Option.bind_some] at hdecode
    obtain ⟨vs, hvs, hdenotes⟩ := hE.decode_sound _ _ _ hdecode
    obtain ⟨m, rfl, -⟩ := decode_uint256 hvs
    cases hdenotes with
    | cons hn _ => exact ⟨m, hvs, by rw [show n = m from hn]⟩
  · cases h

/-- What holds of accepted calldata, which the account decodes to a call of `target` with the
    bytes `inner`. -/
structure AdmittedCall (E : Ethers) (policy : UserOpPolicy) (callData inner : Bytes)
    (target : AddressText) (call : InnerCall) : Prop where
  decoded : Abi.decodeCall (E.selector executeSig) [.address, .uint256, .bytes] callData =
    some [.address (bytesValue (addressBytes target)), .uint 0, .bytes inner]
  target : policy.anyTarget = true ∨ target ∈ policy.targets
  selector : call.selector = hexlify (inner.take 4)
  allowed : policy.anySelector = true ∨ ∃ sig, policy.innerSelectors.get call.selector = some sig
  signature : ∀ sig, call.signature = some sig → policy.innerSelectors.get call.selector = some sig
  value : call.value = decodeSingleUint E call.signature (hexlify inner)

theorem checkCallData_ok (hE : E.Documented) {policy : UserOpPolicy} {callData : Option Json}
    {target : AddressText} {call : InnerCall} (h : policy.checkCallData E callData = .ok (target, call)) :
    ∃ (data : HexString) (bs inner : Bytes), callData = some (.str data.val) ∧
      getBytes data.val = some bs ∧ AdmittedCall E policy bs inner target call := by
  unfold UserOpPolicy.checkCallData at h
  split at h
  · cases h
  rename_i data hdata
  simp only [bind_eq_ok, slice_eq_ok, unless_refused, checksum_eq_ok] at h
  obtain ⟨-, -, -, -, -, ⟨dest, value, text⟩, hexecute, hvalue, target', htarget, hallowed, selector,
    hselector, hinner, heq⟩ := h
  cases heq
  obtain ⟨bs, vs, hbs, hvs, hdenotes⟩ :=
    hE.decodeFunctionData_sound (decodeExecute_eq_ok.mp hexecute)
  simp only [List.forall₂_cons_left_iff, List.forall₂_nil_left_iff, Decoded.denotes_address,
    Decoded.denotes_bigint, Decoded.denotes_hex] at hdenotes
  obtain ⟨-, -, ⟨rfl, hdest⟩, ⟨-, -, rfl, ⟨-, -, ⟨inner, rfl, rfl⟩, rfl, rfl⟩, rfl⟩, rfl⟩ := hdenotes
  rw [hdest] at htarget
  cases htarget
  obtain rfl := not_not.mp hvalue
  obtain ⟨-, rfl⟩ := innerSelector_hexlify.mp hselector
  refine ⟨data, bs, inner, isHexString_eq_some hdata, hbs, ?_⟩
  exact {
    decoded := hvs
    target := by
      by_cases h : policy.anyTarget = true
      · exact .inl h
      · exact .inr (by simpa [h] using hallowed)
    selector := rfl
    allowed := by
      by_cases h : policy.anySelector = true
      · exact .inl h
      · exact .inr (OrderedMap.has_iff.mp (by simpa [h] using hinner))
    signature := fun sig hsig => (Option.filter_eq_some_iff.mp hsig).1
    value := rfl }

/-- What holds of an accepted operation, which is still the JSON value of the request. -/
structure AdmittedOp (E : Ethers) (policy : UserOpPolicy) (op : Json) (checked : Checked) : Prop where
  gasFees : ∃ fees : Bytes32, op.field "gasFees" = some (.str fees.val) ∧ lower fees.val = zeroWord
  gasLimits : ∃ (limits : Bytes32) (bs : Bytes), op.field "accountGasLimits" = some (.str limits.val) ∧
    getBytes limits.val = some bs ∧ bytesValue (bs.take 16) ≤ policy.caps.verificationGasLimit ∧
    bytesValue (bs.drop 16) ≤ policy.caps.callGasLimit
  preVerificationGas : ∃ gas, bigInt (op.field "preVerificationGas") = some gas ∧
    gas ≤ policy.caps.preVerificationGas
  paymasterAndData : truthy (op.field "paymasterAndData") = false ∨
    op.field "paymasterAndData" = some (.str "0x")
  initCode : policy.checkInitCode E (op.field "initCode") = .ok checked.owner
  callData : policy.checkCallData E (op.field "callData") = .ok (checked.target, checked.inner)

/-- A slice of 16 bytes, read as an integer. -/
theorem bigIntOfText_half {bs : Bytes} {n : ℤ} (hlength : bs.length = 16)
    (h : bigIntOfText (hexlify bs) = some n) : n = bytesValue bs := by
  rw [bigIntOfText_hexlify (by rintro rfl; cases hlength)] at h
  exact (Option.some.inj h).symm

theorem checkOp_ok {policy : UserOpPolicy} {method : String} {op : Json} {checked : Checked}
    (h : policy.checkOp E method op = .ok checked) :
    checked.method = method ∧ AdmittedOp E policy op checked := by
  simp only [UserOpPolicy.checkOp, bind_eq_ok, unless_refused, normalize_eq_ok, word_eq_ok, slice_eq_ok,
    toBigInt_eq_ok, ceiling_eq_ok, quantity_eq_ok, dataSlice_to_eq_some] at h
  obtain ⟨sender, -, fees, ⟨w, hw, rfl⟩, hzero, limits, ⟨w', hw', rfl⟩, -, ⟨bs, hbs, hle, rfl⟩, vgl, hvgl,
    -, ⟨bs', hbs', hle', rfl⟩, cgl, hcgl, -, hvcap, -, hccap, pvg, hpvg, -, hpcap, hpaymaster, owner, howner,
    ⟨target, inner⟩, hcall, heq⟩ := h
  cases heq
  rw [hbs] at hbs'
  cases hbs'
  obtain ⟨raw, hraw, hlength⟩ := exists_getBytes w'.property
  rw [lower_of_getBytes hraw, getBytes_hexlify] at hbs
  cases hbs
  rw [List.take_of_length_le (by omega)] at hcgl
  rw [List.drop_zero] at hvgl
  obtain rfl := bigIntOfText_half (by simp; omega) hvgl
  obtain rfl := bigIntOfText_half (by simp; omega) hcgl
  refine ⟨rfl, ?_⟩
  exact {
    gasFees := ⟨w, hw, not_not.mp hzero⟩
    gasLimits := ⟨w', bs, hw', hraw, hvcap, hccap⟩
    preVerificationGas := ⟨pvg, hpvg, hpcap⟩
    paymasterAndData := by
      by_cases h : truthy (op.field "paymasterAndData") = true
      · exact .inr (isText_iff.mp (by simpa [h] using hpaymaster))
      · exact .inl (by simpa using h)
    initCode := howner
    callData := hcall }

/-! ## The request -/

theorem allowedMethod?_eq_some {method : Option Json} {name : String}
    (h : UserOpPolicy.allowedMethod? method = some name) :
    name = "eth_sendUserOperation" ∧ method = some (.str name) := by
  have hmem := List.mem_of_find?_eq_some h
  have htext := List.find?_some h
  rw [allowedMethods, List.mem_singleton] at hmem
  exact ⟨hmem, isText_iff.mp htext⟩

/-- An accepted request is one `eth_sendUserOperation` on the expected EntryPoint. -/
theorem check_ok {policy : UserOpPolicy} {request : Json} {checked : Checked}
    (h : policy.check E request = .ok checked) :
    ∃ fields op entryPoint, request = .obj fields ∧
      fields.lookup "method" = some (.str "eth_sendUserOperation") ∧
      fields.lookup "params" = some (.arr [op, entryPoint]) ∧
      E.address? (some entryPoint) = some policy.expectedEntryPoint ∧
      checked.method = "eth_sendUserOperation" ∧ AdmittedOp E policy op checked := by
  unfold UserOpPolicy.check at h
  split at h
  · cases h
  · rename_i fields
    split at h
    · obtain ⟨text, -, hrefuse⟩ := bind_eq_ok.mp h
      cases hrefuse
    rename_i name hmethod
    obtain ⟨rfl, hmethod⟩ := allowedMethod?_eq_some hmethod
    split at h
    · rename_i op entryPoint hparams
      simp only [bind_eq_ok, unless_refused, normalize_eq_ok] at h
      obtain ⟨a, hentryPoint, heq, h⟩ := h
      obtain rfl := not_not.mp heq
      have hop : policy.checkOp E "eth_sendUserOperation" op = .ok checked := by
        split at h
        · exact h
        · exact h
        · cases h
      obtain ⟨hname, hadmitted⟩ := checkOp_ok hop
      exact ⟨fields, op, entryPoint, rfl, hmethod, hparams, hentryPoint, hname, hadmitted⟩
    · cases h
  · cases h

end AccountAbstraction.Proxy
