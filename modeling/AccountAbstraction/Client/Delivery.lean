import AccountAbstraction.Bundler.RoundTrip
import AccountAbstraction.Client.Agreement
import AccountAbstraction.Js.Ascii
import AccountAbstraction.Proxy.Wire

/-!
# A write on its way from the browser to the bundler

`sendExecuteUserOp` and `rpc` (`examples/privy-google-aa/src/userOp.ts:131-138` and `237-266`)
write the op as JSON, the proxy reads and checks the bytes, and the bundler reads them again. All
of the text is ASCII, so the chunks of either connection do not matter.

* `builtRequest_ascii`, `receive_ascii`: the text of the request arrives as it was written.
* `acceptParams_built`: the bundler reads the op that the browser signed.
* `built_delivered`: what becomes of a write that the browser builds, up to the bundler's first
  question to the EntryPoint.
-/

namespace AccountAbstraction.Client

open Js Abi Proxy

variable {E : Ethers}

/-! ## The text of the request -/

section Text

variable {lnet : LnetConfig} {owner sender dest : AddressText} {salt : ℕ} {func : Bytes} {now : ℤ}

theorem builtRequest_plain {signature : String} (hnow : now.natAbs ≤ 2 ^ 53) :
    (builtRequest E lnet owner salt sender dest func signature now).Plain := by
  have hid : (JsNumber.int now).Finite := finite_int hnow
  simp [builtRequest, rpcBody, serializeUserOp, Json.Plain, PlainItems, PlainFields, hid]

theorem builtRequest_ascii (signature : HexString) :
    (builtRequest E lnet owner salt sender dest func signature.val now).Ascii := by
  have haddress : ∀ a : AddressText, isAscii a.val = true := fun a => isAscii_of_isHexTextOf a.property
  have hhex : ∀ bs, isAscii (hexlify bs) = true := fun bs => isAscii_of_isHexText (isHexText_hexlify bs)
  have hsignature := isAscii_of_isHexText signature.property
  have hnonce : isAscii (toBeHex 0) = true := by decide +kernel
  have hgas : isAscii (toBeHex 100000) = true := by decide +kernel
  simp [builtRequest, rpcBody, serializeUserOp, builtOp, Json.Ascii, AsciiItems, AsciiFields, haddress,
    hhex, hsignature, hnonce, hgas]
  decide

end Text

/-- A text of ASCII is received as it was written, however its bytes are cut. -/
theorem receive_ascii {request : Json} (hplain : request.Plain) (hascii : request.Ascii)
    {chunks : List Bytes} (hchunks : chunks.flatten = utf8Encode request.stringify)
    (hlength : chunks.flatten.length ≤ 2000000) : Bundler.receive chunks = some request.stringify := by
  rw [Bundler.receive_eq_some hlength, Bundler.chunksText,
    pieces_ascii (isAscii_stringify request hplain hascii) hchunks]

/-! ## The call of the bundler -/

/-- A single `eth_sendUserOperation` is one call, if the token is accepted where one is needed. -/
theorem callsOf_send (auth : Bundler.Authenticator) (headers : List (String × String)) {request : Json}
    (hmethod : Bundler.methodOf? request = some "eth_sendUserOperation") :
    (auth.enabled = false ∨ (∃ claims, auth.verifyRequest headers = .ok claims) →
      Bundler.callsOf auth headers request = [.sendUserOperation (Bundler.paramsOf request)]) ∧
    (auth.enabled = true → ∀ err, auth.verifyRequest headers = .error err →
      Bundler.callsOf auth headers request = []) := by
  obtain ⟨fields, rfl, -, hlookup⟩ := Bundler.methodOf?_eq_some hmethod
  have hsingle : Bundler.requestsOf (.obj fields) = [.obj fields] := rfl
  have hasks : Bundler.asksForAuth (.obj fields) = true := by
    simp [Bundler.asksForAuth, Json.truthy, Json.field, hlookup, Bundler.protectedMethods, isText]
  have hprotected : Bundler.protectedMethods.contains "eth_sendUserOperation" = true := by decide
  have hcalls : ∀ ctx, Bundler.handleRpc (.obj fields) ctx =
      if ctx.enabled && !ctx.ok then .error (Bundler.rpcError (-32001) s!"unauthorized: {Bundler.authReason ctx}")
      else .ok (.sendUserOperation (Bundler.paramsOf (.obj fields))) := by
    intro ctx
    simp only [Bundler.handleRpc, hmethod, hprotected, Bool.and_true]
    rfl
  constructor
  · intro hauth
    rw [Bundler.callsOf, hsingle, List.filterMap_cons, hcalls, if_neg]
    · rfl
    · rw [Bundler.authContext]
      rcases hauth with hoff | ⟨claims, hclaims⟩
      · simp [hoff]
      · simp only [List.any_cons, hasks, Bool.true_or, Bool.and_true, hclaims]
        split_ifs <;> simp_all
  · intro hon err herr
    rw [Bundler.callsOf, hsingle, List.filterMap_cons, hcalls, if_pos]
    · rfl
    · simp [Bundler.authContext, hon, hasks, herr]

/-- The calls that the bundler makes of a request in ASCII do not depend on its chunks. -/
theorem serveChunks_ascii {request : Json} (hplain : request.Plain) (hascii : request.Ascii)
    {chunks : List Bytes} (hchunks : chunks.flatten = utf8Encode request.stringify)
    (hlength : chunks.flatten.length ≤ 2000000) (auth : Bundler.Authenticator) (pending : ℕ)
    (perform : ℕ → Bundler.RpcCall → Except JsError (Option Json)) (url : String)
    (headers : List (String × String)) :
    ∃ exchange, Bundler.serveChunks auth pending perform "POST" url headers chunks = some exchange ∧
      exchange.calls = Bundler.callsOf auth headers request := by
  refine ⟨_, by rw [Bundler.serveChunks, receive_ascii hplain hascii hchunks hlength]; rfl, ?_⟩
  simp [Bundler.serve, parseJson_stringify hplain]

/-! ## The op of the bundler -/

/-- The op that was built, in the types of the bundler. -/
def deliveredOp (E : Ethers) (lnet : LnetConfig) (owner : AddressText) (salt : ℕ)
    (sender dest : AddressText) (func : Bytes) (signature : HexString) : Bundler.UserOp where
  sender := sender
  nonce := 0
  initCode := ⟨hexlify (initCodeBytes E lnet owner salt), isHexText_hexlify _⟩
  callData := ⟨hexlify (callDataBytes E dest func), isHexText_hexlify _⟩
  accountGasLimits := ⟨hexlify gasLimitBytes, length_bigEndian 32 _ ▸ isHexTextOf_hexlify gasLimitBytes⟩
  preVerificationGas := 100000
  gasFees := ⟨hexlify gasFeeBytes, length_bigEndian 32 _ ▸ isHexTextOf_hexlify gasFeeBytes⟩
  paymasterAndData := Bundler.emptyHex
  signature := signature

section Op

variable {lnet : LnetConfig} {owner sender dest : AddressText} {salt : ℕ} {func : Bytes}
  {signature : HexString}

theorem packed_deliveredOp : (deliveredOp E lnet owner salt sender dest func signature).packed =
    builtOp E lnet owner salt sender.val dest func signature.val := rfl

theorem encodable_deliveredOp {sig : Bytes} (hsignature : getBytes signature.val = some sig) :
    (deliveredOp E lnet owner salt sender dest func signature).Encodable where
  nonce := ⟨le_refl 0, show (0 : ℤ) < 2 ^ 256 by decide⟩
  preVerificationGas := ⟨show (0 : ℤ) ≤ 100000 by decide, show (100000 : ℤ) < 2 ^ 256 by decide⟩
  bytes := by
    intro data hdata
    simp only [deliveredOp, List.mem_cons, List.not_mem_nil, or_false] at hdata
    rcases hdata with rfl | rfl | rfl | rfl
    · exact ⟨_, getBytes_hexlify _⟩
    · exact ⟨_, getBytes_hexlify _⟩
    · exact ⟨[], rfl⟩
    · exact ⟨sig, hsignature⟩

/-- The bundler reads the op that the browser wrote. -/
theorem acceptParams_built {config : Bundler.Config} {address : AddressText} {sig : Bytes}
    (haddress : E.getAddress lnet.entryPoint.val = some address)
    (hconfig : lower address.val = lower config.entryPoint)
    (hsender : E.getAddress sender.val = some sender) (hsignature : getBytes signature.val = some sig) :
    Bundler.acceptParams E config (.arr [serializeUserOp (builtOp E lnet owner salt sender.val dest func
      signature.val), .str lnet.entryPoint.val]) =
        .ok (address, deliveredOp E lnet owner salt sender dest func signature) := by
  have hentryPoint : Bundler.normalizeAddress E (some (.str lnet.entryPoint.val)) "entryPoint" =
      .ok address := by
    have hread : E.address? (some (.str lnet.entryPoint.val)) = some address := haddress
    rw [Bundler.normalizeAddress, hread]
  have hop := @Bundler.normalizeUserOp_packed E (deliveredOp E lnet owner salt sender dest func signature)
    hsender (encodable_deliveredOp hsignature)
  rw [packed_deliveredOp] at hop
  have hfees : (deliveredOp E lnet owner salt sender dest func signature).gasFees = Bundler.zeroBytes32 :=
    Subtype.ext (show hexlify gasFeeBytes = Bundler.zeroBytes32.val by decide +kernel)
  have hparams : Bundler.destructure (.arr [serializeUserOp (builtOp E lnet owner salt sender.val dest func
      signature.val), .str lnet.entryPoint.val]) =
      .ok (some (serializeUserOp (builtOp E lnet owner salt sender.val dest func signature.val)),
        some (.str lnet.entryPoint.val)) := rfl
  simp only [Bundler.acceptParams, hparams, ok_bind, hentryPoint, hconfig, ne_eq, not_true_eq_false, if_false,
    hop, hfees, and_false]
  rfl

end Op

/-! ## The result -/

/-- What the browser, the proxy and the bundler must be configured with for the same network. -/
structure Agreed (E : Ethers) (lnet : LnetConfig) (config : PolicyConfig) (bundler : Bundler.Config) :
    Prop where
  entryPoint : E.getAddress lnet.entryPoint.val = E.getAddress config.entryPoint
  bundlerEntryPoint : lower lnet.entryPoint.val = lower bundler.entryPoint
  factory : ∃ text, config.factory = some text ∧ text ≠ "" ∧
    E.getAddress lnet.factory.val = E.getAddress text
  named : "*" ∉ config.allowedInnerSignatures
  gas : AdmitsGas config.limits.caps

/-- The write as `handleBundler` gets it, with the outcome of `readBody`. -/
def postWrite (origin : Option String) (session : Session) (read : Except BodyError Bytes) : ProxyRequest where
  method := "POST"
  origin := origin
  session := some session
  body := read.map bodyOf

theorem postWrite_refused (E : Ethers) (env : ProxyEnv) (origin : Option String) (session : Session) (err : BodyError) :
    (handleBundler E env (postWrite origin session (.error err))).forwarded = none := by
  simp [handleBundler, postWrite, Except.map]

/-- A `POST` with a session is forwarded when its body was read and `check` accepts it. -/
theorem postWrite_forwarded_iff {env : ProxyEnv} {policy : UserOpPolicy} {request : Json}
    (hpolicy : createUserOpPolicy E env.policy = .ok policy) {bytes : Bytes}
    (hparsed : (bodyOf bytes).parsed = some request) (origin : Option String) (session : Session)
    {fwd : Forward} :
    (handleBundler E env (postWrite origin session (.ok bytes))).forwarded = some fwd ↔
      (∃ checked, policy.check E request = .ok checked) ∧ fwd = forwardOf env session (bodyOf bytes) := by
  constructor
  · intro h
    obtain ⟨session', request', policy', checked, hsession, hbody, hfwd, hparsed', hcreate, hcheck⟩ :=
      handleBundler_forwarded h
    cases hsession
    rw [← show bodyOf bytes = fwd.body from Except.ok.inj hbody] at hfwd hparsed'
    cases hparsed.symm.trans hparsed'
    cases hpolicy.symm.trans hcreate
    exact ⟨⟨checked, hcheck⟩, hfwd⟩
  · rintro ⟨⟨checked, hchecked⟩, rfl⟩
    have hcheck : policyCheck E env request = .ok checked := bind_eq_ok.mpr ⟨policy, hpolicy, hchecked⟩
    rw [handleBundler_of_checked rfl rfl rfl hparsed hcheck, forward_forwarded]

section Delivery

variable {env : ProxyEnv} {benv : Bundler.Env} {lnet : LnetConfig} {policy : UserOpPolicy}
  {owner sender dest : AddressText} {salt : ℕ} {func sig : Bytes} {signature : HexString} {now : ℤ}
  {target targetCalldata : String}

/-- A write that the browser builds for an agreed network, posted with a session in any chunks, is
    forwarded if and only if its body is at most 1000000 bytes long, the calldata of the account is
    within the cap and the inner calldata starts with a listed selector. However the forwarded body
    is cut, a bundler that accepts the token makes one call of it, which asks the EntryPoint for
    the hash of the very op that the browser signed; one that rejects the token makes none. -/
theorem built_delivered (hE : Canonical E) (hethers : benv.ethers = E)
    (hagreed : Agreed E lnet env.policy benv.config) (hpolicy : createUserOpPolicy E env.policy = .ok policy)
    (howner : E.getAddress owner.val = some owner) (hsender : E.getAddress sender.val = some sender)
    (hsalt : salt < 2 ^ 256) (htarget : E.getAddress target = some dest)
    (hallowed : AllowsTarget E env.policy dest) (hcalldata : getBytes targetCalldata = some func)
    (hsize : (callDataBytes E dest func).length < 2 ^ 53) (hsignature : getBytes signature.val = some sig)
    (hnow : now.natAbs ≤ 2 ^ 53) (origin : Option String) (session : Session) :
    ∃ request, sendExecuteUserOp E lnet owner.val salt sender.val target targetCalldata signature.val now =
        some request ∧
      ∀ cut : List Bytes, cut.flatten = utf8Encode request.stringify →
        ∃ read, readBody none (cut.map BodyEvent.data ++ [.finish]) = some read ∧
          ((∃ fwd, (handleBundler E env (postWrite origin session read)).forwarded = some fwd) ↔
            cut.flatten.length ≤ maxBodyBytes ∧
            WithinCap env.policy.limits.caps.callDataBytes (callDataBytes E dest func) ∧
            ∃ sig ∈ env.policy.allowedInnerSignatures, E.selector sig <+: func) ∧
          ∀ fwd, (handleBundler E env (postWrite origin session read)).forwarded = some fwd →
            ∀ chunks : List Bytes, chunks.flatten = cut.flatten → ∀ auth pending perform url,
              ∃ exchange params address op,
                Bundler.serveChunks auth pending perform "POST" url fwd.headers chunks = some exchange ∧
                (auth.enabled = false ∨ (∃ claims, auth.verifyRequest fwd.headers = .ok claims) →
                  exchange.calls = [.sendUserOperation params]) ∧
                (auth.enabled = true → ∀ err, auth.verifyRequest fwd.headers = .error err →
                  exchange.calls = []) ∧
                E.getAddress lnet.entryPoint.val = some address ∧
                Bundler.openSend benv params = .hashing address op ∧
                op.packed = builtOp E lnet owner salt sender.val dest func signature.val := by
  have hdest := hE.getAddress_idem _ _ htarget
  obtain ⟨address, haddress⟩ : ∃ address, E.getAddress lnet.entryPoint.val = some address :=
    ⟨_, hagreed.entryPoint.trans (createUserOpPolicy_ok hpolicy).entryPoint⟩
  have hstarts : ∀ sig, E.selector sig <+: func ↔ func.take 4 = E.selector sig := by
    intro sig
    rw [List.prefix_iff_eq_take, Ethers.length_selector, eq_comm]
  refine ⟨_, sendExecuteUserOp_eq howner htarget hcalldata, fun cut hcut => ?_⟩
  generalize hrequest : builtRequest E lnet owner salt sender dest func signature.val now = request at hcut
  have hplain : request.Plain := hrequest ▸ builtRequest_plain hnow
  have hascii : request.Ascii := hrequest ▸ builtRequest_ascii signature
  have haccepted : (∃ checked, policy.check E request = .ok checked) ↔
      WithinCap env.policy.limits.caps.callDataBytes (callDataBytes E dest func) ∧
      ∃ sig ∈ env.policy.allowedInnerSignatures, E.selector sig <+: func := by
    simp only [hstarts, ← hrequest, check_builtRequest hE hpolicy hagreed.named hagreed.entryPoint
      hagreed.factory hagreed.gas howner hsender hsalt hdest hallowed hsize]
    exact ⟨fun ⟨_, hlength, hlisted, _⟩ => ⟨hlength, hlisted⟩,
      fun ⟨hlength, hlisted⟩ => ⟨_, hlength, hlisted, rfl⟩⟩
  have hparsed : (bodyOf cut.flatten).parsed = some request := by
    rw [hcut, bodyOf, utf8Decode_utf8Encode, parseJson_stringify hplain]
  rw [readBody_chunks]
  by_cases hshort : cut.flatten.length ≤ maxBodyBytes
  · rw [if_pos hshort]
    refine ⟨_, rfl, ?_, ?_⟩
    · simp only [postWrite_forwarded_iff hpolicy hparsed, exists_and_left, exists_eq, and_true, haccepted,
        hshort, true_and]
    · intro fwd _ chunks hchunks auth pending perform url
      have hmethod : Bundler.methodOf? request = some "eth_sendUserOperation" := by
        rw [← hrequest]
        rfl
      have hlength : chunks.flatten.length ≤ 2000000 := by
        rw [hchunks]
        exact hshort.trans (by decide)
      obtain ⟨exchange, hexchange, hcalls⟩ := serveChunks_ascii hplain hascii (hchunks.trans hcut) hlength
        auth pending perform url fwd.headers
      obtain ⟨haccepts, hrejects⟩ := callsOf_send auth fwd.headers hmethod
      have hconfig : lower address.val = lower benv.config.entryPoint :=
        (hE.getAddress_lower _ _ lnet.entryPoint.property haddress).trans hagreed.bundlerEntryPoint
      refine ⟨exchange, _, address, _, hexchange, fun hauth => hcalls.trans (haccepts hauth),
        fun hon err herr => hcalls.trans (hrejects hon err herr), haddress, ?_, packed_deliveredOp⟩
      have hparamsOf : Bundler.paramsOf request = .arr [serializeUserOp (builtOp E lnet owner salt sender.val
          dest func signature.val), .str lnet.entryPoint.val] := by
        rw [← hrequest]
        rfl
      rw [Bundler.openSend, hethers, hparamsOf, acceptParams_built haddress hconfig hsender hsignature]
  · rw [if_neg hshort]
    have hrefused := postWrite_refused E env origin session
      { status := some 413, message := "request body too large" }
    refine ⟨_, rfl, ⟨?_, fun h => absurd h.1 hshort⟩, ?_⟩
    · rintro ⟨fwd, hfwd⟩
      rw [hrefused] at hfwd
      cases hfwd
    · intro fwd hfwd
      rw [hrefused] at hfwd
      cases hfwd

end Delivery

/-! ## A sample write -/

def sampleServer : ProxyEnv := { sampleProxy with policy := sampleConfig ["set(uint256)"] {} }

def sampleBundler : Bundler.Env where
  ethers := lowerEthers
  config := { (Bundler.sampleEnv .required).config with entryPoint := sampleLnet.entryPoint.val }
  parseLog := Bundler.sampleParseLog

theorem sample_agreed : Agreed lowerEthers sampleLnet sampleServer.policy sampleBundler.config where
  entryPoint := rfl
  bundlerEntryPoint := rfl
  factory := sampleFactory_expected _ _
  named := by decide +kernel
  gas := ⟨by decide, by decide, by decide⟩

/-- The write of 7 is forwarded if it is not too long, and delivered in any chunks. -/
theorem built_delivered_sample : ∃ request,
    sendExecuteUserOp lowerEthers sampleLnet sampleOwner.val 0 sampleSender.val sampleDest.val
      (hexlify sampleFunc) "0x" 0 = some request ∧
    ∀ cut : List Bytes, cut.flatten = utf8Encode request.stringify → cut.flatten.length ≤ maxBodyBytes →
      ∃ read fwd, readBody none (cut.map BodyEvent.data ++ [.finish]) = some read ∧
        (handleBundler lowerEthers sampleServer (postWrite none sampleSession read)).forwarded = some fwd ∧
        ∀ chunks : List Bytes, chunks.flatten = cut.flatten → ∃ params address op,
          Bundler.openSend sampleBundler params = .hashing address op ∧
          op.packed = builtOp lowerEthers sampleLnet sampleOwner 0 sampleSender.val sampleDest sampleFunc "0x" := by
  obtain ⟨policy, hpolicy⟩ := sampleConfig_created ["set(uint256)"] {}
  have hdest := getAddress_sample sampleDest (by simp)
  have hsize : (callDataBytes lowerEthers sampleDest sampleFunc).length < 2 ^ 53 := by decide +kernel
  have hsalt : (0 : ℕ) < 2 ^ 256 := by decide
  have hsignature : getBytes Bundler.emptyHex.val = some [] := by decide
  have hnow : (0 : ℤ).natAbs ≤ 2 ^ 53 := by decide
  obtain ⟨request, hrequest, hdelivered⟩ := built_delivered lowerEthers_canonical (Eq.refl sampleBundler.ethers)
    sample_agreed hpolicy (getAddress_sample sampleOwner (by simp)) (getAddress_sample sampleSender (by simp))
    hsalt hdest (sampleTarget_allowed _ _) (getBytes_hexlify sampleFunc) hsize hsignature hnow none
    sampleSession
  refine ⟨request, hrequest, fun cut hcut hshort => ?_⟩
  obtain ⟨read, hread, hiff, hcalls⟩ := hdelivered cut hcut
  obtain ⟨fwd, hfwd⟩ := hiff.mpr ⟨hshort, sampleFunc_within, "set(uint256)", by decide,
    List.prefix_append _ _⟩
  refine ⟨read, fwd, hread, hfwd, fun chunks hchunks => ?_⟩
  obtain ⟨-, params, address, op, -, -, -, -, hopen, hop⟩ := hcalls fwd hfwd chunks hchunks
    { enabled := false, verifyRequest := fun _ => .ok .null } 0 (fun _ _ => .ok none) "/"
  exact ⟨params, address, op, hopen, hop⟩

end AccountAbstraction.Client
