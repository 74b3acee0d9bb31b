import AccountAbstraction.Client.UserOp

/-!
# The browser and the policy agree

The policy of the server on the requests that the browser builds. For a policy with the
browser's EntryPoint and factory, an allow-list of selectors and gas caps that admit the
browser's gas values, only the length of the calldata and the selector of the inner call
matter, and what `check` returns is what the browser was asked to send.

* `checkInitCode_built`, `checkCallData_built`, `checkOp_built`: the parts of the check.
* `client_accepted_iff`: the request.
-/

namespace AccountAbstraction.Client

open Js Abi Proxy

variable {E : Ethers} {config : PolicyConfig} {policy : UserOpPolicy}

/-! ## The policy of a configuration -/

/-- A target that the configuration allows. -/
def AllowsTarget (E : Ethers) (config : PolicyConfig) (dest : AddressText) : Prop :=
  anyTargetOf config.allowedTargets = true ∨ ∃ text ∈ config.allowedTargets, E.getAddress text = some dest

theorem mem_of_mapM_normalize {texts : List String} {what : String} {targets : List AddressText}
    (h : texts.mapM (fun t => normalize E (some (.str t)) what) = .ok targets) {text : String}
    {dest : AddressText} (hmem : text ∈ texts) (hdest : E.getAddress text = some dest) :
    dest ∈ targets := by
  induction texts generalizing targets with
  | nil => cases hmem
  | cons first texts ih =>
    simp only [List.mapM_cons, bind_eq_ok, normalize_eq_ok] at h
    obtain ⟨a, ha, rest, hrest, heq⟩ := h
    cases heq
    rcases List.mem_cons.mp hmem with rfl | hmem
    · have ha' : E.getAddress text = some a := ha
      cases hdest.symm.trans ha'
      exact List.mem_cons_self
    · exact List.mem_cons_of_mem _ (ih hrest hmem)

/-- The target passes the policy's test. -/
theorem target_passes (h : createUserOpPolicy E config = .ok policy) {dest : AddressText}
    (hdest : AllowsTarget E config dest) : policy.anyTarget = true ∨ dest ∈ policy.targets := by
  simp only [createUserOpPolicy, bind_eq_ok] at h
  obtain ⟨_, _, _, _, targets, htargets, heq⟩ := h
  cases heq
  unfold targetsOf at htargets
  by_cases hany : anyTargetOf config.allowedTargets = true
  · exact .inl hany
  · rw [if_neg hany] at htargets
    obtain ⟨text, hmem, htext⟩ := hdest.resolve_left hany
    exact .inr (mem_of_mapM_normalize htargets hmem htext)

/-- The selectors in the policy's map are those of the listed signatures. -/
theorem get_innerSelectors_iff (h : createUserOpPolicy E config = .ok policy)
    (hnamed : "*" ∉ config.allowedInnerSignatures) {b : Bytes} :
    (∃ sig, policy.innerSelectors.get (hexlify b) = some sig) ↔
      ∃ sig ∈ config.allowedInnerSignatures, b = E.selector sig := by
  rw [← OrderedMap.has_iff, has_innerSelectors h]
  constructor
  · rintro ⟨sig, hmem, -, hselector⟩
    exact ⟨sig, hmem, hexlify_injective hselector⟩
  · rintro ⟨sig, hmem, rfl⟩
    exact ⟨sig, hmem, fun hstar => hnamed (hstar ▸ hmem), rfl⟩

/-- A selector stands for the last signature that is listed with it. -/
theorem get_innerSelectors (h : createUserOpPolicy E config = .ok policy)
    (hnamed : "*" ∉ config.allowedInnerSignatures) (b : Bytes) :
    policy.innerSelectors.get (hexlify b) =
      (config.allowedInnerSignatures.filter fun sig => E.selector sig = b).getLast? := by
  have hall : config.allowedInnerSignatures.filter (· ≠ "*") = config.allowedInnerSignatures := by
    rw [List.filter_eq_self]
    intro sig hmem
    have hne : sig ≠ "*" := fun hstar => hnamed (hstar ▸ hmem)
    simpa using hne
  have hkey : ∀ sig, (lower (E.selectorText sig) = hexlify b) ↔ E.selector sig = b := by
    intro sig
    rw [lower_selectorText, hexlify_injective.eq_iff]
  have hget := OrderedMap.get_foldl_set (fun sig => lower (E.selectorText sig)) id (hexlify b)
    config.allowedInnerSignatures ∅
  simp only [hkey, OrderedMap.get_empty, Option.or_none, Option.map_id_fun, id_eq] at hget
  rw [innerSelectors_eq h, hall, ← hget]
  rfl

/-! ## `initCode` -/

/-- An address and the hex text of its bytes are one address. -/
theorem getAddress_addressBytes (hE : Canonical E) {a expected : AddressText}
    (h : E.getAddress a.val = some expected) :
    E.getAddress (hexlify (addressBytes a)) = some expected := by
  obtain ⟨c, hc⟩ := Option.isSome_iff_exists.mp (hE.getAddress_hexlify _ (length_addressBytes a))
  rw [hc, hE.getAddress_unique _ _ c expected hc h]
  have hlength := length_addressBytes a
  rw [hE.getAddress_lower _ _ (hlength ▸ isHexTextOf_hexlify _) hc, hE.getAddress_lower _ _ a.property h,
    lower_hexlify, lower_addressText]

/-- Data of some length is neither a falsy value nor `"0x"`. -/
theorem hexText_ne_empty {bs : Bytes} (h : 0 < bs.length) :
    (!truthy (some (.str (hexlify bs))) || isText (some (.str (hexlify bs))) "0x") = false := by
  have hne : hexlify bs ≠ "0x" := by
    intro heq
    have hnil : bs = [] := hexlify_injective (heq.trans (by decide))
    rw [hnil] at h
    exact absurd h (by decide)
  have hne' : hexlify bs ≠ "" := isHexTextOf_ne_empty (isHexTextOf_hexlify bs)
  simp [truthy, Json.truthy, isText, hne, hne']

/-- The policy accepts the browser's `initCode` and returns the owner. -/
theorem checkInitCode_built (hE : Canonical E) {lnet : LnetConfig} {owner : AddressText} {salt : ℕ}
    (howner : E.getAddress owner.val = some owner) (hsalt : salt < 2 ^ 256)
    (hfactory : ∀ expected, policy.expectedFactory = some expected →
      E.getAddress lnet.factory.val = some expected) (hvalid : (E.getAddress lnet.factory.val).isSome) :
    policy.checkInitCode E (some (.str (hexlify (initCodeBytes E lnet owner salt)))) = .ok (some owner) := by
  have hlength := length_addressBytes lnet.factory
  have hsize : 20 ≤ (initCodeBytes E lnet owner salt).length := by
    rw [initCodeBytes, List.length_append, hlength]
    omega
  have htake : (initCodeBytes E lnet owner salt).take 20 = addressBytes lnet.factory :=
    List.take_left' hlength
  have hdrop : (initCodeBytes E lnet owner salt).drop 20 = E.selector createAccountSig ++
      encode [.address (bytesValue (addressBytes owner)), .uint salt] := List.drop_left' hlength
  have hcall : decodeOwner E (hexlify ((initCodeBytes E lnet owner salt).drop 20)) = .ok owner := by
    rw [hdrop]
    exact decode_createAccount hE howner hsalt
  obtain ⟨used, hused⟩ := Option.isSome_iff_exists.mp hvalid
  have husedBytes := getAddress_addressBytes hE hused
  rw [UserOpPolicy.checkInitCode, if_neg (by rw [hexText_ne_empty (by omega)]; decide),
    isHexString_str ⟨_, isHexText_hexlify _⟩]
  simp only [bind_eq_ok, normalize_eq_ok, slice_eq_ok, unless_refused, pinFactory_eq_ok,
    dataSlice_to_eq_some, dataSlice_from_eq_some, getBytes_hexlify]
  refine ⟨by rw [length_hexlify]; omega, _, ⟨_, rfl, hsize, rfl⟩, used, ?_, (), ?_, _, ⟨_, rfl, rfl⟩, _,
    ⟨_, getBytes_hexlify _, ?_, rfl⟩, ?_, owner, hcall, rfl⟩
  · rw [List.drop_zero, htake]
    exact husedBytes
  · intro expected hexpected
    exact Option.some.inj (hused.symm.trans (hfactory expected hexpected))
  · rw [hdrop, List.length_append, Ethers.length_selector]
    omega
  · rw [not_not, createAccountSelector, List.drop_zero, hdrop, List.take_left' (E.length_selector _),
      lower_hexlify_eq_selectorText]

/-! ## `callData` -/

/-- The inner call that the policy reports for some bytes. -/
def reportedCall (E : Ethers) (policy : UserOpPolicy) (func : Bytes) : InnerCall :=
  let selector := hexlify (func.take 4)
  let signature := (policy.innerSelectors.get selector).filter (· ≠ "")
  { selector, signature, value := decodeSingleUint E signature (hexlify func) }

/-- The calldata is not longer than the cap. -/
def WithinCap (cap : NumberCap) (callData : Bytes) : Prop :=
  ∀ bound, cap.bound = some bound → (callData.length : ℚ) ≤ bound

theorem checkLength_hexlify {cap : NumberCap} {callData : Bytes} {u : Unit} :
    checkLength cap (hexlify callData) = .ok u ↔ WithinCap cap callData := by
  have hhalf : (((hexlify callData).toList.length : ℚ) - 2) / 2 = callData.length := by
    rw [length_hexlify]
    push_cast
    ring
  unfold checkLength WithinCap refuse
  cases cap.bound with
  | none => simp
  | some bound =>
    simp only [hhalf, Option.some.injEq, forall_eq']
    split_ifs with h
    · simpa using h
    · simpa using h

/-- The policy accepts the browser's calldata where it is not too long and the inner selector is
    listed, and returns the target with the inner call. -/
theorem checkCallData_built (hE : Canonical E) (hpolicy : createUserOpPolicy E config = .ok policy)
    (hnamed : "*" ∉ config.allowedInnerSignatures) {dest target : AddressText} {func : Bytes}
    {call : InnerCall} (hdest : E.getAddress dest.val = some dest) (hallowed : AllowsTarget E config dest)
    (hsize : (callDataBytes E dest func).length < 2 ^ 53) :
    policy.checkCallData E (some (.str (hexlify (callDataBytes E dest func)))) = .ok (target, call) ↔
      WithinCap policy.caps.callDataBytes (callDataBytes E dest func) ∧
      (∃ sig ∈ config.allowedInnerSignatures, func.take 4 = E.selector sig) ∧
      target = dest ∧ call = reportedCall E policy func := by
  have hselector : (callDataBytes E dest func).take 4 = E.selector executeSig :=
    List.take_left' (E.length_selector _)
  have hencode : (encode [.address (bytesValue (addressBytes dest)), .uint 0, .bytes func]).length <
      2 ^ 53 := by
    rw [callDataBytes, List.length_append] at hsize
    omega
  have hexecute := decode_execute hE hdest hencode
  have hany : policy.anySelector = false := by
    by_contra h
    exact hnamed ((createUserOpPolicy_ok hpolicy).anySelector (by simpa using h))
  have htarget : ¬(!policy.anyTarget && !policy.targets.contains dest) = true := by
    rcases target_passes hpolicy hallowed with h | h <;> simp [h]
  have hselectors := get_innerSelectors_iff hpolicy hnamed (b := func.take 4)
  rw [UserOpPolicy.checkCallData, isHexString_str ⟨_, isHexText_hexlify _⟩]
  simp only [bind_eq_ok, slice_eq_ok, unless_refused, checksum_eq_ok, dataSlice_to_eq_some,
    getBytes_hexlify, checkLength_hexlify]
  constructor
  · rintro ⟨_, hlength, _, -, -, ⟨dest', value, inner⟩, hdecode, -, target', htarget', -, selector, hinner,
      hlisted, heq⟩
    cases hexecute.symm.trans hdecode
    cases hdest.symm.trans htarget'
    obtain ⟨-, rfl⟩ := innerSelector_hexlify.mp hinner
    cases heq
    refine ⟨hlength, hselectors.mp (OrderedMap.has_iff.mp ?_), rfl, rfl⟩
    simpa [hany] using hlisted
  · rintro ⟨hlength, hlisted, rfl, rfl⟩
    have hhas := OrderedMap.has_iff.mpr (hselectors.mpr hlisted)
    have hfour : 4 ≤ func.length := by
      obtain ⟨sig, -, hsig⟩ := hlisted
      exact E.four_le_of_take hsig
    refine ⟨(), hlength, _, ⟨_, rfl, ?_, rfl⟩, ?_, _, hexecute, by simp, target, hdest, htarget,
      hexlify (func.take 4), innerSelector_hexlify.mpr ⟨.inr hfour, rfl⟩, ?_, rfl⟩
    · rw [callDataBytes, List.length_append, Ethers.length_selector]
      omega
    · rw [not_not, executeSelector, List.drop_zero, hselector, lower_hexlify_eq_selectorText]
    · simp [hhas]

/-! ## The operation -/

/-- Gas caps that the browser's fixed gas values meet. -/
structure AdmitsGas (caps : Caps) : Prop where
  verificationGasLimit : 3000000 ≤ caps.verificationGasLimit
  callGasLimit : 1000000 ≤ caps.callGasLimit
  preVerificationGas : 100000 ≤ caps.preVerificationGas

/-- `pack128(3_000_000, 1_000_000)`. -/
def gasLimitBytes : Bytes := bigEndian 32 (3000000 <<< 128 ||| 1000000)

/-- `pack128(0, 0)`. -/
def gasFeeBytes : Bytes := bigEndian 32 0

/-- The operation that is built. -/
def builtOp (E : Ethers) (lnet : LnetConfig) (owner : AddressText) (salt : ℕ) (sender : String)
    (dest : AddressText) (func : Bytes) (signature : String) : PackedUserOperation where
  sender := sender
  nonce := 0
  initCode := hexlify (initCodeBytes E lnet owner salt)
  callData := hexlify (callDataBytes E dest func)
  accountGasLimits := hexlify gasLimitBytes
  preVerificationGas := 100000
  gasFees := hexlify gasFeeBytes
  paymasterAndData := "0x"
  signature := signature

theorem buildOp_eq {lnet : LnetConfig} {owner dest : AddressText} {salt : ℕ}
    {sender target targetCalldata signature : String} {func : Bytes}
    (howner : E.getAddress owner.val = some owner) (htarget : E.getAddress target = some dest)
    (hcalldata : getBytes targetCalldata = some func) :
    buildOp E lnet owner.val salt sender target targetCalldata signature =
      some (builtOp E lnet owner salt sender dest func signature) := by
  have hlimits : pack128 3000000 1000000 = some (hexlify gasLimitBytes) :=
    pack128_eq_some (by decide)
  have hfees : pack128 0 0 = some (hexlify gasFeeBytes) := pack128_eq_some (by decide)
  simp only [buildOp, buildInitCode_eq howner, buildCallData_eq htarget hcalldata, hlimits, hfees,
    Option.bind_eq_bind, Option.bind_some]
  rfl

theorem word_hexlify {bs : Bytes} (h : bs.length = 32) (what : String) :
    word (some (.str (hexlify bs))) what = .ok (hexlify bs) := by
  have hword : isHexTextOf 32 (hexlify bs) = true := h ▸ isHexTextOf_hexlify bs
  rw [word_eq_ok]
  exact ⟨⟨hexlify bs, hword⟩, rfl, lower_hexlify bs⟩

/-- On the browser's operation the check comes down to that of the calldata. -/
theorem checkOp_built (hE : Canonical E) {lnet : LnetConfig} {owner sender dest : AddressText} {salt : ℕ}
    {func : Bytes} {signature method : String} {checked : Checked}
    (howner : E.getAddress owner.val = some owner) (hsender : E.getAddress sender.val = some sender)
    (hsalt : salt < 2 ^ 256)
    (hfactory : ∀ expected, policy.expectedFactory = some expected →
      E.getAddress lnet.factory.val = some expected) (hvalid : (E.getAddress lnet.factory.val).isSome)
    (hgas : AdmitsGas policy.caps) :
    policy.checkOp E method
        (serializeUserOp (builtOp E lnet owner salt sender.val dest func signature)) = .ok checked ↔
      ∃ target call, policy.checkCallData E (some (.str (hexlify (callDataBytes E dest func)))) =
        .ok (target, call) ∧ checked = ⟨method, sender, target, some owner, call⟩ := by
  have hinit := checkInitCode_built hE howner hsalt hfactory hvalid
  have hsender' : E.address? (some (.str sender.val)) = some sender := hsender
  have hfees := word_hexlify (length_bigEndian 32 0) "gasFees"
  have hlimits := word_hexlify (length_bigEndian 32 (3000000 <<< 128 ||| 1000000)) "accountGasLimits"
  have hverificationText : slice (hexlify gasLimitBytes) 0 (some 16) = .ok (hexlify (bigEndian 16 3000000)) := by
    rw [slice_eq_ok]
    decide +kernel
  have hverification : toBigInt (hexlify (bigEndian 16 3000000)) = .ok 3000000 := by
    rw [toBigInt_eq_ok]
    decide +kernel
  have hcallText : slice (hexlify gasLimitBytes) 16 (some 32) = .ok (hexlify (bigEndian 16 1000000)) := by
    rw [slice_eq_ok]
    decide +kernel
  have hcall : toBigInt (hexlify (bigEndian 16 1000000)) = .ok 1000000 := by
    rw [toBigInt_eq_ok]
    decide +kernel
  have hquantity : quantity (some (.str (toBeHex 100000))) "preVerificationGas" = .ok 100000 := by
    rw [quantity_eq_ok]
    decide +kernel
  have hzero : hexlify gasFeeBytes = zeroWord := by decide +kernel
  have hpaymaster : (truthy (some (.str "0x")) && !isText (some (.str "0x")) "0x") = false := by decide
  unfold UserOpPolicy.checkOp
  simp only [field_sender, field_gasFees, field_accountGasLimits, field_preVerificationGas,
    field_paymasterAndData, field_initCode, field_callData, builtOp, bind_eq_ok, unless_refused,
    normalize_eq_ok, hpaymaster, Bool.false_eq_true, if_false]
  constructor
  · rintro ⟨sender₁, hsender₁, _, -, -, _, -, _, -, _, -, _, -, _, -, _, -, _, -, _, -, _, -, owner₁,
      howner₁, ⟨target, call⟩, hcallData, heq⟩
    cases hsender'.symm.trans hsender₁
    cases hinit.symm.trans howner₁
    cases heq
    exact ⟨target, call, hcallData, rfl⟩
  · rintro ⟨target, call, hcallData, rfl⟩
    exact ⟨sender, hsender', hexlify gasFeeBytes, hfees, by rw [hzero, not_not], hexlify gasLimitBytes,
      hlimits, _, hverificationText, _, hverification, _, hcallText, _, hcall, (),
      ceiling_eq_ok.mpr hgas.verificationGasLimit, (), ceiling_eq_ok.mpr hgas.callGasLimit, _, hquantity,
      (), ceiling_eq_ok.mpr hgas.preVerificationGas, some owner, hinit, (target, call), hcallData, rfl⟩

/-! ## The request -/

theorem check_built {lnet : LnetConfig} {op : PackedUserOperation} {now : ℤ}
    (hentryPoint : E.getAddress lnet.entryPoint.val = some policy.expectedEntryPoint) :
    policy.check E (rpcBody now "eth_sendUserOperation" [serializeUserOp op, .str lnet.entryPoint.val]) =
      policy.checkOp E "eth_sendUserOperation" (serializeUserOp op) := by
  have hnormalize : normalize E (some (.str lnet.entryPoint.val)) "entryPoint" =
      .ok policy.expectedEntryPoint := normalize_eq_ok.mpr hentryPoint
  have hsame : ¬policy.expectedEntryPoint ≠ policy.expectedEntryPoint := by simp
  show (normalize E (some (.str lnet.entryPoint.val)) "entryPoint" >>= _) = _
  rw [hnormalize]
  simp only [bind, Except.bind, if_neg hsame]
  rfl

/-- The argument of a `set(uint256)` call. -/
theorem decodeSingleUint_set (hE : Canonical E) {v : ℕ} (hv : v < 2 ^ 256) :
    decodeSingleUint E (some "set(uint256)")
      (hexlify (E.selector "set(uint256)" ++ bigEndian 32 v)) = some (toString v) := by
  have hfits : ∀ w ∈ [AbiValue.uint v], w.Fits := by
    intro w hw
    rw [List.mem_singleton.mp hw]
    exact hv
  have hencode : encode [AbiValue.uint v] = bigEndian 32 v := by
    simp [encode, heads, AbiValue.head, AbiValue.tail]
  obtain ⟨rs, hrs, hdenotes⟩ := hE.decode_encode _ hfits (by rw [hencode, length_bigEndian]; norm_num)
  simp only [List.forall₂_cons_right_iff, List.forall₂_nil_right_iff] at hdenotes
  obtain ⟨value, rest, hvalue, rfl, rfl⟩ := hdenotes
  have hdrop : (E.selector "set(uint256)" ++ bigEndian 32 v).drop 4 = bigEndian 32 v :=
    List.drop_left' (E.length_selector _)
  have hdecode : E.decode [.uint256] (bigEndian 32 v) = some [value] := hencode ▸ hrs
  have hsingle : isSingleUint "set(uint256)" = true := by decide +kernel
  cases value with
  | address a => exact hvalue.elim
  | hex text => exact hvalue.elim
  | bigint n =>
    cases (show n = v from hvalue)
    simp only [decodeSingleUint, hsingle, if_true, dataSlice, getBytes_hexlify, Option.bind_some, hdrop,
      hdecode]

/-- No signature that is listed behind this one has its selector. -/
def LastListed (E : Ethers) (config : PolicyConfig) (signature : String) : Prop :=
  (config.allowedInnerSignatures.filter fun sig => E.selector sig = E.selector signature).getLast? =
    some signature

instance (E : Ethers) (config : PolicyConfig) (signature : String) :
    Decidable (LastListed E config signature) := inferInstanceAs (Decidable (_ = _))

/-- The inner call that is reported for a `set(uint256)` call. -/
theorem reportedCall_set (hE : Canonical E) (hpolicy : createUserOpPolicy E config = .ok policy)
    (hnamed : "*" ∉ config.allowedInnerSignatures)
    (hlast : LastListed E config "set(uint256)") {v : ℕ} (hv : v < 2 ^ 256) :
    reportedCall E policy (E.selector "set(uint256)" ++ bigEndian 32 v) =
      { selector := hexlify (E.selector "set(uint256)"), signature := some "set(uint256)",
        value := some (toString v) } := by
  have htake : (E.selector "set(uint256)" ++ bigEndian 32 v).take 4 = E.selector "set(uint256)" :=
    List.take_left' (E.length_selector _)
  have hget : policy.innerSelectors.get (hexlify (E.selector "set(uint256)")) = some "set(uint256)" := by
    rw [get_innerSelectors hpolicy hnamed]
    exact hlast
  have hsignature : (some "set(uint256)").filter (· ≠ "") = some "set(uint256)" := by decide
  unfold reportedCall
  simp only [htake, hget, hsignature, decodeSingleUint_set hE hv]

/-- What `check` returns for the browser's request, if it returns. -/
structure ReturnsAsked (E : Ethers) (config : PolicyConfig) (sender dest owner : AddressText) (func : Bytes)
    (checked : Checked) : Prop where
  sender : checked.sender = sender
  target : checked.target = dest
  owner : checked.owner = some owner
  /-- The number of a `set(uint256)` call. -/
  value : LastListed E config "set(uint256)" → ∀ v < 2 ^ 256, func = E.selector "set(uint256)" ++ bigEndian 32 v →
    checked.inner.signature = some "set(uint256)" ∧ checked.inner.value = some (toString v)

/-- The request that is built. -/
def builtRequest (E : Ethers) (lnet : LnetConfig) (owner : AddressText) (salt : ℕ) (sender dest : AddressText)
    (func : Bytes) (signature : String) (now : ℤ) : Json :=
  rpcBody now "eth_sendUserOperation"
    [serializeUserOp (builtOp E lnet owner salt sender.val dest func signature), .str lnet.entryPoint.val]

theorem sendExecuteUserOp_eq {lnet : LnetConfig} {owner sender dest : AddressText} {salt : ℕ}
    {target targetCalldata signature : String} {func : Bytes} {now : ℤ}
    (howner : E.getAddress owner.val = some owner) (htarget : E.getAddress target = some dest)
    (hcalldata : getBytes targetCalldata = some func) :
    sendExecuteUserOp E lnet owner.val salt sender.val target targetCalldata signature now =
      some (builtRequest E lnet owner salt sender dest func signature now) := by
  rw [sendExecuteUserOp, buildOp_eq howner htarget hcalldata]
  rfl

section Request

variable {lnet : LnetConfig} {owner sender dest : AddressText} {salt : ℕ} {func : Bytes}
  {signature : String} {now : ℤ}

/-- The check of the request, in one equation. -/
theorem check_builtRequest (hE : Canonical E) (hpolicy : createUserOpPolicy E config = .ok policy)
    (hnamed : "*" ∉ config.allowedInnerSignatures)
    (hentryPoint : E.getAddress lnet.entryPoint.val = E.getAddress config.entryPoint)
    (hfactory : ∃ text, config.factory = some text ∧ text ≠ "" ∧
      E.getAddress lnet.factory.val = E.getAddress text)
    (hgas : AdmitsGas config.limits.caps)
    (howner : E.getAddress owner.val = some owner) (hsender : E.getAddress sender.val = some sender)
    (hsalt : salt < 2 ^ 256) (hdest : E.getAddress dest.val = some dest)
    (hallowed : AllowsTarget E config dest) (hsize : (callDataBytes E dest func).length < 2 ^ 53)
    {checked : Checked} :
    policy.check E (builtRequest E lnet owner salt sender dest func signature now) = .ok checked ↔
      WithinCap config.limits.caps.callDataBytes (callDataBytes E dest func) ∧
      (∃ sig ∈ config.allowedInnerSignatures, func.take 4 = E.selector sig) ∧
      checked = ⟨"eth_sendUserOperation", sender, dest, some owner, reportedCall E policy func⟩ := by
  have hof := createUserOpPolicy_ok hpolicy
  obtain ⟨text, htext, hne, hsame⟩ := hfactory
  obtain ⟨expected, hexpected, hpinned⟩ := hof.factory text htext hne
  rw [hexpected] at hsame
  rw [← hof.caps] at hgas ⊢
  have hfactory : ∀ other, policy.expectedFactory = some other →
      E.getAddress lnet.factory.val = some other := by
    intro other hother
    rw [hsame, ← hpinned, hother]
  rw [builtRequest, check_built (hentryPoint.trans hof.entryPoint),
    checkOp_built hE howner hsender hsalt hfactory (Option.isSome_of_eq_some hsame) hgas]
  simp only [checkCallData_built hE hpolicy hnamed hdest hallowed hsize]
  constructor
  · rintro ⟨_, _, ⟨hlength, hlisted, rfl, rfl⟩, rfl⟩
    exact ⟨hlength, hlisted, rfl⟩
  · rintro ⟨hlength, hlisted, rfl⟩
    exact ⟨_, _, ⟨hlength, hlisted, rfl, rfl⟩, rfl⟩

variable (signature now) in
/-- For a policy that names its selectors and has the browser's EntryPoint and factory and caps
    that admit its gas values, the request that the browser builds for an owner, a salt, a
    sender, an allowed target and calldata is accepted if and only if the calldata of the account
    is not too long and the inner calldata starts with a listed selector. What `check` then
    returns are that sender, target and owner, and for `set(uint256)`, where no other listed
    signature has its selector, the signature and the number. -/
theorem client_accepted_iff (hE : Canonical E) (hpolicy : createUserOpPolicy E config = .ok policy)
    (hnamed : "*" ∉ config.allowedInnerSignatures)
    (hentryPoint : E.getAddress lnet.entryPoint.val = E.getAddress config.entryPoint)
    (hfactory : ∃ text, config.factory = some text ∧ text ≠ "" ∧
      E.getAddress lnet.factory.val = E.getAddress text)
    (hgas : AdmitsGas config.limits.caps) {target targetCalldata : String}
    (howner : E.getAddress owner.val = some owner) (hsender : E.getAddress sender.val = some sender)
    (hsalt : salt < 2 ^ 256) (htarget : E.getAddress target = some dest)
    (hallowed : AllowsTarget E config dest) (hcalldata : getBytes targetCalldata = some func)
    (hsize : (callDataBytes E dest func).length < 2 ^ 53) :
    ∃ request, sendExecuteUserOp E lnet owner.val salt sender.val target targetCalldata signature now =
        some request ∧
      ((∃ checked, policy.check E request = .ok checked) ↔
        WithinCap config.limits.caps.callDataBytes (callDataBytes E dest func) ∧
        ∃ sig ∈ config.allowedInnerSignatures, E.selector sig <+: func) ∧
      ∀ checked, policy.check E request = .ok checked →
        ReturnsAsked E config sender dest owner func checked := by
  have hcheck : ∀ checked,
      policy.check E (builtRequest E lnet owner salt sender dest func signature now) = .ok checked ↔ _ :=
    fun _ => check_builtRequest hE hpolicy hnamed hentryPoint hfactory hgas howner hsender hsalt
      (hE.getAddress_idem _ _ htarget) hallowed hsize
  have hstarts : ∀ sig, E.selector sig <+: func ↔ func.take 4 = E.selector sig := by
    intro sig
    rw [List.prefix_iff_eq_take, Ethers.length_selector, eq_comm]
  refine ⟨_, sendExecuteUserOp_eq howner htarget hcalldata, ?_⟩
  simp only [hstarts, hcheck]
  refine ⟨⟨fun ⟨_, hlength, hlisted, _⟩ => ⟨hlength, hlisted⟩,
    fun ⟨hlength, hlisted⟩ => ⟨_, hlength, hlisted, rfl⟩⟩, ?_⟩
  rintro checked ⟨-, ⟨sig, hmem, hsig⟩, rfl⟩
  refine ⟨rfl, rfl, rfl, fun hlast v hv hfunc => ?_⟩
  subst hfunc
  have hreported := reportedCall_set hE hpolicy hnamed hlast hv
  exact ⟨by rw [hreported], by rw [hreported]⟩

end Request

/-! ## A sample instance of `ethers` -/

/-- An address in lower case, which is its checksum form where all of its digits are decimal. -/
def lowerAddress? (s : String) : Option AddressText :=
  (getBytes s).bind fun bs =>
    if h : bs.length = 20 then some ⟨hexlify bs, h ▸ isHexTextOf_hexlify bs⟩ else none

/-- The JavaScript form of an ABI value. -/
def lowerDecoded? : AbiValue → Option Decoded
  | .address n =>
    if n < 2 ^ 160 then
      some (.address ⟨hexlify (bigEndian 20 n), (length_bigEndian 20 n) ▸ isHexTextOf_hexlify _⟩)
    else none
  | .uint n => some (.bigint n)
  | .bytes b => some (.hex (hexlify b))

/-- The hashes of the known signatures, and of one with the selector of `set(uint256)`. -/
def collidingId (s : String) : {b : Bytes // b.length = 32} :=
  if s = "put6662596854(uint256)" then
    ⟨bigEndian 32 0x60fe47b19045c76b4684117dc76d7d57f779d019cd1a1217539db950dc5a13e4,
      length_bigEndian 32 _⟩
  else knownId s

def lowerEthers : Ethers where
  getAddress := lowerAddress?
  id := collidingId
  decode types data := (Abi.decode types data).bind fun vs => vs.mapM lowerDecoded?

theorem lowerAddress?_eq_some {s : String} {a : AddressText} :
    lowerAddress? s = some a ↔ ∃ bs, getBytes s = some bs ∧ bs.length = 20 ∧ a.val = hexlify bs := by
  unfold lowerAddress?
  rw [Option.bind_eq_some_iff]
  constructor
  · rintro ⟨bs, hbs, h⟩
    split_ifs at h with hlength
    cases h
    exact ⟨bs, hbs, hlength, rfl⟩
  · rintro ⟨bs, hbs, hlength, ha⟩
    refine ⟨bs, hbs, ?_⟩
    rw [dif_pos hlength, Option.some.injEq]
    exact Subtype.ext ha.symm

theorem addressBytes_of_val {a : AddressText} {bs : Bytes} (h : a.val = hexlify bs) : addressBytes a = bs := by
  rw [addressBytes, h, getBytes_hexlify, Option.getD_some]

theorem lowerDecoded?_denotes {v : AbiValue} {r : Decoded} (h : lowerDecoded? v = some r) :
    r.Denotes lowerEthers v := by
  cases v with
  | address n =>
    simp only [lowerDecoded?] at h
    split_ifs at h with hn
    cases h
    have hlt : n < 256 ^ 20 := lt_of_lt_of_le hn (by norm_num)
    refine ⟨lowerAddress?_eq_some.mpr ⟨_, getBytes_hexlify _, length_bigEndian 20 n, rfl⟩, ?_⟩
    rw [addressBytes_of_val rfl, bytesValue_bigEndian hlt]
  | uint n => cases h; rfl
  | bytes b => cases h; rfl

theorem lowerDecoded?_of_fits {v : AbiValue} (h : v.Fits) : ∃ r, lowerDecoded? v = some r := by
  cases v with
  | address n => exact ⟨_, if_pos h⟩
  | uint n => exact ⟨_, rfl⟩
  | bytes b => exact ⟨_, rfl⟩

theorem mapM_lowerDecoded? {vs : List AbiValue} {rs : List Decoded} (h : vs.mapM lowerDecoded? = some rs) :
    List.Forall₂ (Decoded.Denotes lowerEthers) rs vs := by
  induction vs generalizing rs with
  | nil => cases h; exact .nil
  | cons v vs ih =>
    rw [List.mapM_cons] at h
    obtain ⟨r, hr, hrest⟩ := Option.bind_eq_some_iff.mp h
    obtain ⟨rs', hrs', heq⟩ := Option.bind_eq_some_iff.mp hrest
    cases heq
    exact .cons (lowerDecoded?_denotes hr) (ih hrs')

theorem exists_mapM_lowerDecoded? {vs : List AbiValue} (h : ∀ v ∈ vs, v.Fits) :
    ∃ rs, vs.mapM lowerDecoded? = some rs := by
  induction vs with
  | nil => exact ⟨[], rfl⟩
  | cons v vs ih =>
    obtain ⟨r, hr⟩ := lowerDecoded?_of_fits (h v List.mem_cons_self)
    obtain ⟨rs, hrs⟩ := ih fun w hw => h w (List.mem_cons_of_mem _ hw)
    exact ⟨r :: rs, by rw [List.mapM_cons, hr, hrs]; rfl⟩

theorem lowerEthers_canonical : Canonical lowerEthers where
  getAddress_lower s a _ h := by
    obtain ⟨bs, hbs, -, ha⟩ := lowerAddress?_eq_some.mp h
    rw [ha, lower_hexlify, lower_of_getBytes hbs]
  getAddress_unique s t a b ha hb h := by
    obtain ⟨bs, -, -, ha⟩ := lowerAddress?_eq_some.mp ha
    obtain ⟨bs', -, -, hb⟩ := lowerAddress?_eq_some.mp hb
    rw [ha, hb, lower_hexlify, lower_hexlify] at h
    exact Subtype.ext (ha.trans (h.trans hb.symm))
  getAddress_idem s a h := by
    obtain ⟨bs, -, hlength, ha⟩ := lowerAddress?_eq_some.mp h
    exact lowerAddress?_eq_some.mpr ⟨bs, by rw [ha, getBytes_hexlify], hlength, ha⟩
  decode_sound types data rs h := by
    obtain ⟨vs, hvs, hmap⟩ := Option.bind_eq_some_iff.mp h
    exact ⟨vs, hvs, mapM_lowerDecoded? hmap⟩
  getAddress_hexlify bs h := by
    let a : AddressText := ⟨hexlify bs, h ▸ isHexTextOf_hexlify bs⟩
    have hlower : lowerAddress? (hexlify bs) = some a :=
      lowerAddress?_eq_some.mpr ⟨bs, getBytes_hexlify bs, h, rfl⟩
    exact Option.isSome_of_eq_some hlower
  decode_encode vs hfits hsize := by
    obtain ⟨rs, hrs⟩ := exists_mapM_lowerDecoded? hfits
    have hdecode := Abi.decode_encode hfits [] (lt_trans hsize (by norm_num))
    rw [List.append_nil] at hdecode
    exact ⟨rs, by show (Abi.decode _ _).bind _ = _; rw [hdecode]; exact hrs, mapM_lowerDecoded? hrs⟩

/-! ## A sample write -/

def sampleLnet : LnetConfig where
  entryPoint := ⟨"0x5555555555555555555555555555555555555555", by decide +kernel⟩
  factory := ⟨"0x8888888888888888888888888888888888888888", by decide +kernel⟩

def sampleOwner : AddressText := ⟨"0x9999999999999999999999999999999999999999", by decide +kernel⟩

def sampleSender : AddressText := ⟨"0xaaaaaaaaaaaaaaaaaaaaaaaaaaaaaaaaaaaaaaaa", by decide +kernel⟩

def sampleDest : AddressText := ⟨"0xbbbbbbbbbbbbbbbbbbbbbbbbbbbbbbbbbbbbbbbb", by decide +kernel⟩

def sampleConfig (signatures : List String) (limits : PolicyLimits) : PolicyConfig where
  entryPoint := sampleLnet.entryPoint.val
  factory := some sampleLnet.factory.val
  allowedTargets := [sampleDest.val]
  allowedInnerSignatures := signatures
  limits := limits

/-- `set(7)`. -/
def sampleFunc : Bytes := lowerEthers.selector "set(uint256)" ++ bigEndian 32 7

theorem getAddress_sample : ∀ a ∈ [sampleLnet.entryPoint, sampleLnet.factory, sampleOwner, sampleSender,
    sampleDest], lowerEthers.getAddress a.val = some a := by
  decide +kernel

section Sample

variable (signatures : List String) (limits : PolicyLimits)

theorem sampleConfig_created :
    ∃ policy, createUserOpPolicy lowerEthers (sampleConfig signatures limits) = .ok policy := by
  have hentryPoint : normalize lowerEthers (some (.str sampleLnet.entryPoint.val)) "entryPoint" =
      .ok sampleLnet.entryPoint :=
    normalize_eq_ok.mpr (getAddress_sample sampleLnet.entryPoint (by simp))
  have hfactory : normalize lowerEthers (some (.str sampleLnet.factory.val)) "factory" =
      .ok sampleLnet.factory := normalize_eq_ok.mpr (getAddress_sample sampleLnet.factory (by simp))
  have hexpected : expectedFactoryOf lowerEthers (some sampleLnet.factory.val) =
      .ok (some sampleLnet.factory) := by
    have hne : sampleLnet.factory.val ≠ "" := by decide +kernel
    simp only [expectedFactoryOf, Option.filter_some, hne, ne_eq, not_false_eq_true, decide_true, if_true,
      hfactory]
    rfl
  have htargets : targetsOf lowerEthers [sampleDest.val] = .ok [sampleDest] := by
    rw [targetsOf, if_neg (by decide +kernel)]
    simp only [List.mapM_cons, List.mapM_nil, bind_eq_ok, normalize_eq_ok]
    exact ⟨sampleDest, getAddress_sample sampleDest (by simp), [], rfl, rfl⟩
  simp only [createUserOpPolicy, sampleConfig, hentryPoint, hexpected, htargets]
  exact ⟨_, rfl⟩

theorem sampleTarget_allowed : AllowsTarget lowerEthers (sampleConfig signatures limits) sampleDest :=
  .inr ⟨_, List.mem_singleton.mpr rfl, getAddress_sample sampleDest (by simp)⟩

theorem sampleFactory_expected : ∃ text, (sampleConfig signatures limits).factory = some text ∧ text ≠ "" ∧
    lowerEthers.getAddress sampleLnet.factory.val = lowerEthers.getAddress text :=
  ⟨_, rfl, by decide +kernel, rfl⟩

/-- The sample's calldata is within the default cap. -/
theorem sampleFunc_within : WithinCap (PolicyLimits.caps {}).callDataBytes
    (callDataBytes lowerEthers sampleDest sampleFunc) := by
  intro bound hbound
  cases hbound
  rw [show (callDataBytes lowerEthers sampleDest sampleFunc).length = 196 by decide +kernel]
  norm_num

end Sample

/-- The write of 7 is accepted, with a signature of the same selector listed in front. -/
theorem client_accepted_sample : ∃ policy request checked,
    createUserOpPolicy lowerEthers (sampleConfig ["put6662596854(uint256)", "set(uint256)"] {}) = .ok policy ∧
    policy.check lowerEthers request = .ok checked ∧ checked.owner = some sampleOwner ∧
    checked.inner.value = some "7" := by
  obtain ⟨policy, hpolicy⟩ := sampleConfig_created ["put6662596854(uint256)", "set(uint256)"] {}
  have hdest := getAddress_sample sampleDest (by simp)
  have hnamed : "*" ∉ (sampleConfig ["put6662596854(uint256)", "set(uint256)"] {}).allowedInnerSignatures := by
    decide +kernel
  have hgas : AdmitsGas (PolicyLimits.caps {}) := ⟨by decide, by decide, by decide⟩
  have hsize : (callDataBytes lowerEthers sampleDest sampleFunc).length < 2 ^ 53 := by decide +kernel
  have hsalt : (0 : ℕ) < 2 ^ 256 := by decide
  obtain ⟨request, -, hiff, hreturns⟩ := client_accepted_iff "0x" 0 lowerEthers_canonical hpolicy hnamed
    (Eq.refl (lowerEthers.getAddress sampleLnet.entryPoint.val)) (sampleFactory_expected _ _) hgas
    (getAddress_sample sampleOwner (by simp)) (getAddress_sample sampleSender (by simp)) hsalt hdest
    (sampleTarget_allowed _ _) (getBytes_hexlify sampleFunc) hsize
  obtain ⟨checked, hchecked⟩ := hiff.mpr ⟨sampleFunc_within, "set(uint256)", by decide,
    List.prefix_append _ _⟩
  have hasked := hreturns checked hchecked
  obtain ⟨-, hvalue⟩ := hasked.value (by decide +kernel) 7 (by decide) rfl
  exact ⟨policy, request, checked, hpolicy, hchecked, hasked.owner, hvalue⟩

/-! ## Where the agreement as such fails -/

/-- An accepted request has met the cap for its validation gas. -/
theorem verificationGas_of_accepted {lnet : LnetConfig} {owner sender dest : AddressText} {salt : ℕ}
    {func : Bytes} {signature : String} {now : ℤ} {checked : Checked}
    (hpolicy : createUserOpPolicy E config = .ok policy)
    (hentryPoint : E.getAddress lnet.entryPoint.val = E.getAddress config.entryPoint)
    (h : policy.check E (builtRequest E lnet owner salt sender dest func signature now) = .ok checked) :
    3000000 ≤ config.limits.caps.verificationGasLimit := by
  have hof := createUserOpPolicy_ok hpolicy
  rw [builtRequest, check_built (hentryPoint.trans hof.entryPoint)] at h
  obtain ⟨-, hop⟩ := checkOp_ok h
  obtain ⟨limits, bs, hlimits, hbs, hcap, -⟩ := hop.gasLimits
  rw [field_accountGasLimits] at hlimits
  have hval : hexlify gasLimitBytes = limits.val := by simpa [builtOp] using hlimits
  rw [← hval, getBytes_hexlify] at hbs
  cases hbs
  have hvalue : bytesValue (gasLimitBytes.take 16) = 3000000 := by decide +kernel
  rw [hvalue, hof.caps] at hcap
  exact hcap

/-- With a cap below the browser's gas limit nothing is accepted; with another listed signature
    for the selector of `set(uint256)` that one is reported. -/
theorem client_disagrees :
    (∃ policy, createUserOpPolicy lowerEthers
        (sampleConfig ["set(uint256)"] { verificationGasLimit := some 2999999 }) = .ok policy ∧
      ∃ request, sendExecuteUserOp lowerEthers sampleLnet sampleOwner.val 0 sampleSender.val
          sampleDest.val (hexlify sampleFunc) "0x" 0 = some request ∧
        WithinCap (PolicyLimits.caps { verificationGasLimit := some 2999999 }).callDataBytes
          (callDataBytes lowerEthers sampleDest sampleFunc) ∧
        lowerEthers.selector "set(uint256)" <+: sampleFunc ∧
        ∀ checked, policy.check lowerEthers request ≠ .ok checked) ∧
    ∃ policy checked, createUserOpPolicy lowerEthers
        (sampleConfig ["set(uint256)", "put6662596854(uint256)"] {}) = .ok policy ∧
      ∃ request, sendExecuteUserOp lowerEthers sampleLnet sampleOwner.val 0 sampleSender.val
          sampleDest.val (hexlify sampleFunc) "0x" 0 = some request ∧
        policy.check lowerEthers request = .ok checked ∧
        checked.inner.signature = some "put6662596854(uint256)" := by
  have hdest := getAddress_sample sampleDest (by simp)
  have howner := getAddress_sample sampleOwner (by simp)
  have hbuilt : sendExecuteUserOp lowerEthers sampleLnet sampleOwner.val 0 sampleSender.val sampleDest.val
      (hexlify sampleFunc) "0x" 0 = some (builtRequest lowerEthers sampleLnet sampleOwner 0 sampleSender
        sampleDest sampleFunc "0x" 0) := sendExecuteUserOp_eq howner hdest (getBytes_hexlify sampleFunc)
  constructor
  · obtain ⟨policy, hpolicy⟩ :=
      sampleConfig_created ["set(uint256)"] { verificationGasLimit := some 2999999 }
    refine ⟨policy, hpolicy, _, hbuilt, sampleFunc_within, List.prefix_append _ _, fun checked h => ?_⟩
    have hcap := verificationGas_of_accepted hpolicy rfl h
    exact absurd hcap (by decide)
  · have hnamed : "*" ∉ (sampleConfig ["set(uint256)", "put6662596854(uint256)"] {}).allowedInnerSignatures := by
      decide +kernel
    have hsize : (callDataBytes lowerEthers sampleDest sampleFunc).length < 2 ^ 53 := by decide +kernel
    have hselector : sampleFunc.take 4 = lowerEthers.selector "set(uint256)" := by decide +kernel
    obtain ⟨policy, hpolicy⟩ := sampleConfig_created ["set(uint256)", "put6662596854(uint256)"] {}
    have hsignature : (reportedCall lowerEthers policy sampleFunc).signature =
        some "put6662596854(uint256)" := by
      unfold reportedCall
      rw [innerSelectors_eq hpolicy]
      decide +kernel
    refine ⟨policy, _, hpolicy, _, hbuilt, (check_builtRequest lowerEthers_canonical hpolicy hnamed rfl
      (sampleFactory_expected _ _) ⟨by decide, by decide, by decide⟩ howner
      (getAddress_sample sampleSender (by simp)) (by decide) hdest (sampleTarget_allowed _ _) hsize).mpr
      ⟨sampleFunc_within, ⟨"set(uint256)", by decide, hselector⟩, rfl⟩, hsignature⟩

end AccountAbstraction.Client
