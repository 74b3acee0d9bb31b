import AccountAbstraction.Bundler.Rpc
import AccountAbstraction.Proxy.Admission
import AccountAbstraction.Proxy.HandleBundler

/-!
# What the proxy forwards is within the policy for the bundler and for the contract

Three readers look at one untrusted JSON body: the policy of the proxy, the normalizers of
the bundler (`bundler/src/index.js:140-182`) and, for the calldata, the Solidity ABI decoder
of the account.

* `normalizeHex_of_empty`, `normalizeBigInt_of_bigInt`: a field that passed the policy is read
  by the bundler to the same value, or is rejected.
* `forwarded_complies`: a forwarded body is one `eth_sendUserOperation` on the configured
  EntryPoint, and an op that the bundler makes of it is within the policy.
-/

namespace AccountAbstraction.Proxy

open Js Abi

variable {E : Ethers}

/-! ## Two readers of one field -/

/-- What the policy takes for empty is `0x` for the bundler, or no hex string. -/
theorem normalizeHex_of_empty {value : Option Json} {field : String} {x : HexString}
    (hempty : truthy value = false ∨ value = some (.str "0x"))
    (h : Bundler.normalizeHex value field = .ok x) : x = Bundler.emptyHex := by
  unfold Bundler.normalizeHex at h
  split_ifs at h with hnullish
  · cases h
    rfl
  split at h
  · rename_i hex hhex
    cases h
    obtain rfl := isHexString_eq_some hhex
    rcases hempty with hfalsy | htext
    · have : x.val = "" := by simpa [truthy, Json.truthy] using hfalsy
      have hproperty := x.property
      rw [this] at hproperty
      cases hproperty
    · have : x.val = "0x" := by simpa using htext
      exact Subtype.ext this
  · cases h

/-- Where both convert, both call `BigInt` on the same value. -/
theorem normalizeBigInt_of_bigInt {value default : Option Json} {field : String} {m n : ℤ}
    (hvalue : bigInt value = some n)
    (h : Bundler.normalizeBigInt (nullish value default) field = .ok m) : m = n := by
  cases value with
  | none => cases hvalue
  | some v =>
    cases v with
    | num x =>
      simp only [nullish, Bundler.normalizeBigInt, hvalue] at h
      exact (Except.ok.inj h).symm
    | str s =>
      simp only [nullish, Bundler.normalizeBigInt, hvalue] at h
      exact (Except.ok.inj h).symm
    | null => cases hvalue
    | bool b => cases h
    | arr items => cases h
    | obj fields => cases h

theorem eq_zero_of_toLower {c : Char} (h : c.toLower = '0') : c = '0' := by
  unfold Char.toLower at h
  split at h
  · rename_i hupper
    have hval := congrArg UInt32.toNat (congrArg Char.val h)
    have hge := UInt32.le_iff_toNat_le.mp hupper.1
    have hle := UInt32.le_iff_toNat_le.mp hupper.2
    simp only [UInt32.toNat_add, Char.reduceVal, UInt32.reduceSub, UInt32.reduceToNat] at hval hge hle
    omega
  · exact h

theorem toList_zeroWord : zeroWord.toList = '0' :: 'x' :: List.replicate 64 '0' := by decide +kernel

/-- The zero word has no letter, so it is its own only spelling. -/
theorem eq_zeroBytes32_of_lower {w : Bytes32} (h : lower w.val = zeroWord) :
    w = Bundler.zeroBytes32 := by
  have hlist := congrArg String.toList h
  cases hbody : hexBody? w.val with
  | none =>
    have hhex := w.property
    simp [isHexTextOf, isHexText, hbody] at hhex
  | some ds =>
    rw [toList_lower, hexBody?_eq_some hbody, toList_zeroWord] at hlist
    simp only [List.map_cons, List.cons.injEq] at hlist
    obtain ⟨hlength, hall⟩ := List.eq_replicate_iff.mp hlist.2.2
    have hzero : ds = List.replicate 64 '0' :=
      List.eq_replicate_iff.mpr ⟨by simpa using hlength,
        fun c hc => eq_zero_of_toLower (hall _ (List.mem_map_of_mem hc))⟩
    apply Subtype.ext
    apply String.toList_injective
    rw [hexBody?_eq_some hbody, hzero, ← toList_zeroWord]
    rfl

/-! ## Two readers of the request -/

/-- The forwarded request as the server of the bundler receives it. -/
def Forward.received (fwd : Forward) (url : String) : Bundler.HttpRequest where
  method := "POST"
  url := url
  headers := fwd.headers
  body := fwd.body.parsed

/-- The bundler makes one call of an accepted request, or answers it with an error. -/
theorem calls_of_received {fwd : Forward} {fields : List (String × Json)} {items : List Json}
    (hparsed : fwd.body.parsed = some (.obj fields))
    (hmethod : fields.lookup "method" = some (.str "eth_sendUserOperation"))
    (hparams : fields.lookup "params" = some (.arr items)) (auth : Bundler.Authenticator) (pending : ℕ)
    (perform : ℕ → Bundler.RpcCall → Except JsError (Option Json)) (url : String) :
    ∀ call ∈ (Bundler.serve auth pending perform (fwd.received url)).calls,
      call = .sendUserOperation (.arr items) := by
  intro call hcall
  obtain ⟨payload, hpayload, request, hrequest, hr⟩ := Bundler.mem_serve_calls hcall
  rw [Forward.received, hparsed] at hpayload
  cases hpayload
  obtain rfl := List.mem_singleton.mp hrequest
  unfold Bundler.handleRpc at hr
  split at hr
  · cases hr
  · rename_i method hmethod'
    split_ifs at hr
    obtain ⟨fields', heq, -, hlookup⟩ := Bundler.methodOf?_eq_some hmethod'
    cases heq
    rw [hmethod] at hlookup
    cases hlookup
    have hparamsOf : Bundler.paramsOf (.obj fields) = .arr items := by
      simp [Bundler.paramsOf, Json.field, hparams, jsOr, truthy, Json.truthy]
    rw [hparamsOf] at hr
    exact (Except.ok.inj hr).symm

/-! ## The terms of a configuration -/

/-- The factories that the configuration allows: the configured one, if there is one. -/
def PolicyConfig.AllowsFactory (E : Ethers) (config : PolicyConfig) (factory : Bytes) : Prop :=
  ∀ text, config.factory = some text → text ≠ "" →
    ∃ a, E.getAddress text = some a ∧ factory = addressBytes a

/-- The targets that the configuration allows: all, or those on the list. -/
def PolicyConfig.AllowsTarget (E : Ethers) (config : PolicyConfig) (target : ℕ) : Prop :=
  config.allowedTargets = [] ∨ "*" ∈ config.allowedTargets ∨
    ∃ text ∈ config.allowedTargets, ∃ a, E.getAddress text = some a ∧
      bytesValue (addressBytes a) = target

/-- The inner calls that the configuration allows: all, or those that start with the selector
    of a listed signature. -/
def PolicyConfig.AllowsInner (E : Ethers) (config : PolicyConfig) (inner : Bytes) : Prop :=
  "*" ∈ config.allowedInnerSignatures ∨
    ∃ sig ∈ config.allowedInnerSignatures, sig ≠ "*" ∧ inner.take 4 = E.selector sig

/-- What `check` returned is what the contracts decode: the target and the bytes of `execute`,
    and the argument of the inner call. -/
structure Checked.Reports (E : Ethers) (checked : Checked) (target : ℕ) (inner : Bytes) : Prop where
  target : bytesValue (addressBytes checked.target) = target
  selector : checked.inner.selector = hexlify (inner.take 4)
  value : ∀ value, checked.inner.value = some value → ∃ sig n, checked.inner.signature = some sig ∧
    Abi.decodeCall (E.selector sig) [.uint256] inner = some [.uint n] ∧ value = toString n

/-- The calldata of an op is an `execute` within the policy, as the account decodes it. -/
structure CallComplies (E : Ethers) (config : PolicyConfig) (checked : Checked) (callData : Bytes)
    (target : ℕ) (inner : Bytes) : Prop where
  decoded : Abi.decodeCall (E.selector executeSig) [.address, .uint256, .bytes] callData =
    some [.address target, .uint 0, .bytes inner]
  target_allowed : config.AllowsTarget E target
  inner_allowed : config.AllowsInner E inner
  reported : checked.Reports E target inner

/-- An op of the bundler is within the policy. -/
structure Complies (E : Ethers) (config : PolicyConfig) (checked : Checked) (op : Bundler.UserOp) :
    Prop where
  gasFees : op.gasFees = Bundler.zeroBytes32
  accountGasLimits : ∃ bs, getBytes op.accountGasLimits.val = some bs ∧
    bytesValue (bs.take 16) ≤ config.limits.caps.verificationGasLimit ∧
    bytesValue (bs.drop 16) ≤ config.limits.caps.callGasLimit
  preVerificationGas : op.preVerificationGas ≤ config.limits.caps.preVerificationGas
  paymasterAndData : op.paymasterAndData = Bundler.emptyHex
  initCode : op.initCode = Bundler.emptyHex ∨ ∃ bs, getBytes op.initCode.val = some bs ∧
    config.AllowsFactory E (bs.take 20) ∧ (bs.drop 20).take 4 = E.selector createAccountSig
  callData : ∃ bs target inner, getBytes op.callData.val = some bs ∧
    CallComplies E config checked bs target inner

/-! ## A sample write -/

/-- `set(7)` on a storage contract, called through `execute`. -/
def sampleInner : Bytes := sampleEthers.selector "set(uint256)" ++ bigEndian 32 7

def sampleCallData : Bytes :=
  sampleEthers.selector executeSig ++ bigEndian 32 0x7777777777777777777777777777777777777777 ++
    bigEndian 32 0 ++ bigEndian 32 96 ++ bigEndian 32 36 ++ sampleInner ++ bigEndian 28 0

def sampleAddress : AddressText := ⟨"0x6666666666666666666666666666666666666666", by decide +kernel⟩

def sampleTarget : AddressText := ⟨"0x7777777777777777777777777777777777777777", by decide +kernel⟩

/-- `pack128(3000000, 1000000)`. -/
def sampleGasLimits : Bytes32 :=
  ⟨"0x000000000000000000000000002dc6c0000000000000000000000000000f4240", by decide +kernel⟩

def sampleOp : Json := .obj
  [("sender", .str sampleAddress.val), ("callData", .str (hexlify sampleCallData)),
   ("accountGasLimits", .str sampleGasLimits.val),
   ("preVerificationGas", .num (.int 100000)), ("gasFees", .str zeroWord)]

def sampleRequest : Json := .obj
  [("jsonrpc", .str "2.0"), ("method", .str "eth_sendUserOperation"),
   ("params", .arr [sampleOp, .str sampleAddress.val])]

def sampleProxy : ProxyEnv where
  policy := { entryPoint := sampleAddress.val, allowedTargets := [sampleTarget.val] }
  bundlerUrl := "https://bundler.l-net.io"
  allowedOrigins := []
  fetch := fun _ => .error { message := "fetch failed" }
  record := fun _ => .ok ()

def sampleSession : Session := { accessToken := "t", sub := "did:privy:1" }

def sampleBody : Body := { text := sampleRequest.stringify, parsed := some sampleRequest }

def sampleWrite : ProxyRequest :=
  { method := "POST", origin := none, session := some sampleSession, body := .ok sampleBody }

def samplePolicy : UserOpPolicy where
  expectedEntryPoint := sampleAddress
  expectedFactory := none
  anyTarget := false
  targets := [sampleTarget]
  anySelector := false
  innerSelectors := addSelector sampleEthers ∅ "set(uint256)"
  caps := PolicyLimits.caps {}

def sampleCall : InnerCall where
  selector := hexlify (sampleInner.take 4)
  signature := some "set(uint256)"
  value := some "7"

theorem samplePolicy_created : createUserOpPolicy sampleEthers sampleProxy.policy = .ok samplePolicy := by
  simp only [createUserOpPolicy, bind_eq_ok, normalize_eq_ok]
  refine ⟨sampleAddress, by decide +kernel, none, rfl, [sampleTarget], ?_, rfl⟩
  rw [targetsOf, if_neg (by decide +kernel), sampleProxy]
  simp only [List.mapM_cons, List.mapM_nil, bind_eq_ok, normalize_eq_ok]
  exact ⟨sampleTarget, by decide +kernel, [], rfl, rfl⟩

theorem sampleCallData_accepted :
    samplePolicy.checkCallData sampleEthers (some (.str (hexlify sampleCallData))) =
      .ok (sampleTarget, sampleCall) := by
  rw [UserOpPolicy.checkCallData, isHexString, dif_pos (isHexText_hexlify _)]
  simp only [bind_eq_ok, slice_eq_ok, unless_refused, checksum_eq_ok, dataSlice_to_eq_some,
    getBytes_hexlify]
  refine ⟨(), ?_, _, ⟨_, rfl, by decide +kernel, rfl⟩, ?_, (sampleTarget, 0, hexlify sampleInner), ?_,
    by decide, sampleTarget, by decide +kernel, by decide +kernel, sampleCall.selector, ?_,
    by decide +kernel, ?_⟩
  · rw [checkLength]
    show (if (((hexlify sampleCallData).toList.length : ℚ) - 2) / 2 > 4096 then _ else _) = _
    rw [length_hexlify, show sampleCallData.length = 196 by decide +kernel, if_neg (by norm_num)]
  · rw [List.drop_zero, not_not, executeSelector, lower_hexlify_eq_selectorText]
    decide +kernel
  · rw [decodeExecute_eq_ok, Ethers.decodeFunctionData, getBytes_hexlify, Option.bind_some]
    decide +kernel
  · exact innerSelector_hexlify.mpr ⟨by decide +kernel, rfl⟩
  · have hsignature : (samplePolicy.innerSelectors.get sampleCall.selector).filter (· ≠ "") =
        sampleCall.signature := by decide +kernel
    have hvalue : decodeSingleUint sampleEthers sampleCall.signature (hexlify sampleInner) =
        sampleCall.value := by decide +kernel
    rw [hsignature, hvalue]
    rfl

def sampleChecked : Checked where
  method := "eth_sendUserOperation"
  sender := sampleAddress
  target := sampleTarget
  owner := none
  inner := sampleCall

theorem sampleOp_accepted :
    samplePolicy.checkOp sampleEthers "eth_sendUserOperation" sampleOp = .ok sampleChecked := by
  simp only [UserOpPolicy.checkOp, bind_eq_ok, unless_refused, normalize_eq_ok, word_eq_ok, slice_eq_ok,
    toBigInt_eq_ok, ceiling_eq_ok, quantity_eq_ok]
  refine ⟨sampleAddress, by decide +kernel, zeroWord, ⟨Bundler.zeroBytes32, rfl, by decide +kernel⟩,
    by simp, sampleGasLimits.val, ⟨sampleGasLimits, rfl, by decide +kernel⟩,
    "0x000000000000000000000000002dc6c0", by decide +kernel, 3000000, by decide +kernel,
    "0x000000000000000000000000000f4240", by decide +kernel, 1000000, by decide +kernel, (), by decide,
    (), by decide, 100000, rfl, (), by decide, by decide, none, rfl, (sampleTarget, sampleCall),
    sampleCallData_accepted, rfl⟩

theorem sampleRequest_accepted : samplePolicy.check sampleEthers sampleRequest = .ok sampleChecked := by
  have hentryPoint : normalize sampleEthers (some (.str sampleAddress.val)) "entryPoint" =
      .ok sampleAddress := normalize_eq_ok.mpr (by decide +kernel)
  show (normalize sampleEthers (some (.str sampleAddress.val)) "entryPoint" >>= _) = _
  rw [bind_eq_ok]
  refine ⟨_, hentryPoint, ?_⟩
  rw [if_neg (by simp [samplePolicy])]
  exact sampleOp_accepted

theorem sampleWrite_forwarded : (handleBundler sampleEthers sampleProxy sampleWrite).forwarded =
    some (forwardOf sampleProxy sampleSession sampleBody) := by
  have hcheck : policyCheck sampleEthers sampleProxy sampleRequest = .ok sampleChecked :=
    bind_eq_ok.mpr ⟨_, samplePolicy_created, sampleRequest_accepted⟩
  rw [handleBundler_of_checked rfl rfl rfl rfl hcheck]
  exact forward_forwarded _ _ _ _ _

/-- The op that the bundler makes of it. -/
def sampleUserOp : Bundler.UserOp where
  sender := sampleAddress
  nonce := 0
  initCode := Bundler.emptyHex
  callData := ⟨hexlify sampleCallData, isHexText_hexlify _⟩
  accountGasLimits := sampleGasLimits
  preVerificationGas := 100000
  gasFees := Bundler.zeroBytes32
  paymasterAndData := Bundler.emptyHex
  signature := Bundler.emptyHex

theorem sampleOp_normalized :
    Bundler.normalizeUserOp sampleEthers (some sampleOp) = .ok sampleUserOp := by
  show Bundler.normalizeUserOp.read sampleEthers sampleOp = _
  simp only [Bundler.normalizeUserOp.read, bind_eq_ok]
  refine ⟨sampleAddress, ?_, 0, rfl, Bundler.emptyHex, rfl, sampleUserOp.callData, ?_, sampleGasLimits, ?_,
    100000, rfl, Bundler.zeroBytes32, ?_, Bundler.emptyHex, rfl, Bundler.emptyHex, rfl, rfl⟩
  · have hsender : sampleEthers.address? (sampleOp.field "sender") = some sampleAddress := by
      decide +kernel
    rw [Bundler.normalizeAddress, hsender]
  · have hcallData : sampleOp.field "callData" = some (.str sampleUserOp.callData.val) := rfl
    rw [hcallData, Bundler.normalizeHex_str]
  · exact Bundler.normalizeBytes32_str _ _ _
  · exact Bundler.normalizeBytes32_str Bundler.zeroBytes32 _ _

/-! ## Refinement -/

/-- The terms of the policy on a call are those of its configuration. -/
theorem AdmittedCall.complies (hE : E.Documented) {config : PolicyConfig} {policy : UserOpPolicy}
    {checked : Checked} {callData inner : Bytes} (hpolicy : policy.Of E config)
    (h : AdmittedCall E policy callData inner checked.target checked.inner) :
    CallComplies E config checked callData (bytesValue (addressBytes checked.target)) inner where
  decoded := h.decoded
  target_allowed := by
    rcases h.target with hany | hmem
    · rcases hpolicy.anyTarget hany with hempty | hstar
      · exact .inl hempty
      · exact .inr (.inl hstar)
    · obtain ⟨text, htext, ha⟩ := hpolicy.targets _ hmem
      exact .inr (.inr ⟨text, htext, _, ha, rfl⟩)
  inner_allowed := by
    rcases h.allowed with hany | ⟨sig, hsig⟩
    · exact .inl (hpolicy.anySelector hany)
    · obtain ⟨hmem, hne, hselector⟩ := hpolicy.innerSelectors _ _ hsig
      rw [h.selector] at hselector
      exact .inr ⟨sig, hmem, hne, hexlify_injective hselector⟩
  reported := {
    target := rfl
    selector := h.selector
    value := fun value hvalue => by
      rw [h.value] at hvalue
      cases hsig : checked.inner.signature with
      | none =>
        rw [hsig] at hvalue
        cases hvalue
      | some sig =>
        obtain ⟨n, hn, rfl⟩ := decodeSingleUint_hexlify hE hvalue
        obtain ⟨-, -, hselector⟩ := hpolicy.innerSelectors _ _ (h.signature sig hsig)
        rw [h.selector] at hselector
        exact ⟨sig, n, rfl, by rw [decodeCall, if_pos (hexlify_injective hselector), hn], rfl⟩ }

/-- An op that the bundler makes of an accepted operation is within the policy. -/
theorem AdmittedOp.complies (hE : E.Documented) {config : PolicyConfig} {policy : UserOpPolicy}
    {rawOp : Json} {checked : Checked} {op : Bundler.UserOp} (hpolicy : policy.Of E config)
    (h : AdmittedOp E policy rawOp checked) (hop : Bundler.NormalizedFrom E rawOp op) :
    Complies E config checked op where
  gasFees := by
    obtain ⟨fees, hfees, hzero⟩ := h.gasFees
    have hnormalized := hop.gasFees
    rw [hfees, Bundler.normalizeBytes32_str] at hnormalized
    rw [← Except.ok.inj hnormalized, eq_zeroBytes32_of_lower hzero]
  accountGasLimits := by
    obtain ⟨limits, bs, hlimits, hbs, hv, hc⟩ := h.gasLimits
    have hnormalized := hop.accountGasLimits
    rw [hlimits, Bundler.normalizeBytes32_str] at hnormalized
    rw [← Except.ok.inj hnormalized, ← hpolicy.caps]
    exact ⟨bs, hbs, hv, hc⟩
  preVerificationGas := by
    obtain ⟨gas, hgas, hcap⟩ := h.preVerificationGas
    rw [normalizeBigInt_of_bigInt hgas hop.preVerificationGas, ← hpolicy.caps]
    exact hcap
  paymasterAndData := normalizeHex_of_empty h.paymasterAndData hop.paymasterAndData
  initCode := by
    rcases checkInitCode_ok h.initCode with hempty | hempty |
      ⟨code, bs, usedFactory, hcode, hbs, hlength, hused, hpinned, hselector⟩
    · exact .inl (normalizeHex_of_empty (.inl hempty) hop.initCode)
    · exact .inl (normalizeHex_of_empty (.inr hempty) hop.initCode)
    · have hnormalized := hop.initCode
      rw [hcode, Bundler.normalizeHex_str] at hnormalized
      rw [← Except.ok.inj hnormalized]
      refine .inr ⟨bs, hbs, ?_, hselector⟩
      intro text htext hne
      obtain ⟨expected, hexpected, hpolicyFactory⟩ := hpolicy.factory text htext hne
      have hbytes := hE.addressBytes_eq (by simp [hlength]) hused
      rw [hpinned expected hpolicyFactory] at hbytes
      exact ⟨expected, hexpected, hbytes.symm⟩
  callData := by
    obtain ⟨data, bs, inner, hdata, hbs, hadmitted⟩ := checkCallData_ok hE h.callData
    have hnormalized := hop.callData
    rw [hdata, Bundler.normalizeHex_str] at hnormalized
    rw [← Except.ok.inj hnormalized]
    exact ⟨bs, _, inner, hbs, hadmitted.complies hE hpolicy⟩

/-- A body is forwarded only with a valid session and after `check` returned. The server of the
    bundler makes of it at most a `sendUserOperation` on the configured EntryPoint, and
    `normalizeUserOp` either rejects its operation or returns one within the policy. -/
theorem forwarded_complies (hE : E.Documented) {env : ProxyEnv} {req : ProxyRequest} {fwd : Forward}
    (h : (handleBundler E env req).forwarded = some fwd) :
    ∃ session request policy checked rawOp entryPoint address,
      req.session = some session ∧ req.body = .ok fwd.body ∧ fwd.body.parsed = some request ∧
      createUserOpPolicy E env.policy = .ok policy ∧ policy.check E request = .ok checked ∧
      checked.method = "eth_sendUserOperation" ∧
      (∀ auth pending perform url,
        ∀ call ∈ (Bundler.serve auth pending perform (fwd.received url)).calls,
          call = .sendUserOperation (.arr [rawOp, entryPoint])) ∧
      E.getAddress env.policy.entryPoint = some address ∧
      Bundler.normalizeAddress E (some entryPoint) "entryPoint" = .ok address ∧
      ∀ op, Bundler.normalizeUserOp E (some rawOp) = .ok op → Complies E env.policy checked op := by
  obtain ⟨session, request, policy, checked, hsession, hbody, -, hparsed, hcreate, hcheck⟩ :=
    handleBundler_forwarded h
  obtain ⟨fields, rawOp, entryPoint, rfl, hmethod, hparams, hentryPoint, hname, hadmitted⟩ :=
    check_ok hcheck
  have hpolicy := createUserOpPolicy_ok hcreate
  refine ⟨session, _, policy, checked, rawOp, entryPoint, policy.expectedEntryPoint, hsession, hbody,
    hparsed, hcreate, hcheck, hname, ?_, hpolicy.entryPoint, ?_, ?_⟩
  · intro auth pending perform url
    exact calls_of_received hparsed hmethod hparams auth pending perform url
  · rw [Bundler.normalizeAddress, hentryPoint]
  · intro op hop
    exact hadmitted.complies hE hpolicy (Bundler.normalizeUserOp_ok hop)

/-- The sample write, `set(7)`, is forwarded, and the bundler's op complies with the policy. -/
theorem forwarded_complies_sample :
    Bundler.normalizeUserOp sampleEthers (some sampleOp) = .ok sampleUserOp ∧
      sampleChecked.inner.value = some "7" ∧
      Complies sampleEthers sampleProxy.policy sampleChecked sampleUserOp := by
  obtain ⟨session, request, policy, checked, rawOp, entryPoint, address, -, -, hparsed, hcreate, hcheck, -,
    hcalls, -, -, hcomplies⟩ := forwarded_complies sampleEthers_documented sampleWrite_forwarded
  have hcall := hcalls { enabled := false, verifyRequest := fun _ => .ok .null } 0
    (fun _ _ => .ok none) "/" (.sendUserOperation (.arr [sampleOp, .str sampleAddress.val]))
    (List.mem_singleton.mpr rfl)
  cases hparsed
  rw [samplePolicy_created] at hcreate
  cases hcreate
  rw [sampleRequest_accepted] at hcheck
  cases hcheck
  cases hcall
  exact ⟨sampleOp_normalized, rfl, hcomplies _ sampleOp_normalized⟩

end AccountAbstraction.Proxy
