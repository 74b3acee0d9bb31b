import AccountAbstraction.Bundler.Body
import AccountAbstraction.Js.Shape
import AccountAbstraction.Proxy.Refinement

/-!
# A write on its way through two servers

The proxy reads the bytes of a body as a whole (`readBody`,
`examples/privy-google-aa/server/api.mjs:338-363`), checks the text they are decoded to, and
sends the bytes on. The bundler decodes them again, chunk by chunk, so where a chunk starts
inside a character it has another text than the one that was checked.

* `readBody_chunks`: what the proxy reads from a stream does not depend on its chunks.
* `chunked_complies`: what the bundler makes of a forwarded body is within the policy, however
  the body is cut on its way there.
-/

namespace AccountAbstraction.Proxy

open Js

variable {E : Ethers}

/-! ## Model -/

/-- `req.body` where an adapter has set it: a buffer, or what it parsed. -/
inductive Attached
  | buffer (bytes : Bytes)
  | value (v : Json)

/-- What the listeners of `readBody` are called with. -/
inductive BodyEvent
  | data (chunk : Bytes)
  | finish
  | error (err : BodyError)

/-- `MAX_BODY_BYTES` (line 336). -/
def maxBodyBytes : ℕ := 1000000

/-- The listeners of `readBody` (lines 347-362); `none` while the promise is pending. Once it is
    settled, the events that follow are ignored. -/
def readStream (chunks : Bytes) : List BodyEvent → Option (Except BodyError Bytes)
  | [] => none
  | .data chunk :: events =>
    if (chunks ++ chunk).length > maxBodyBytes then
      some (.error { status := some 413, message := "request body too large" })
    else readStream (chunks ++ chunk) events
  | .finish :: _ => some (.ok chunks)
  | .error err :: _ => some (.error err)

/-- `readBody(req)` (lines 338-363). -/
def readBody (attached : Option Attached) (events : List BodyEvent) : Option (Except BodyError Bytes) :=
  match attached with
  | none => readStream [] events
  | some (.value .null) => readStream [] events
  | some (.buffer bytes) => some (.ok bytes)
  | some (.value (.str s)) => some (.ok (utf8Encode s))
  | some (.value v) => some (.ok (utf8Encode v.stringify))

/-- The bytes of a body with `body.toString("utf8")` and the `JSON.parse` of it (line 456). -/
def bodyOf (bytes : Bytes) : Body where
  text := utf8Decode bytes
  parsed := parseJson (utf8Decode bytes)

/-! ## Reading a body -/

theorem readStream_data {chunks : Bytes} {cut : List Bytes} (h : chunks.length ≤ maxBodyBytes) :
    readStream chunks (cut.map BodyEvent.data ++ [.finish]) =
      if (chunks ++ cut.flatten).length ≤ maxBodyBytes then some (.ok (chunks ++ cut.flatten))
      else some (.error { status := some 413, message := "request body too large" }) := by
  induction cut generalizing chunks with
  | nil => simp [readStream, h]
  | cons chunk cut ih =>
    rw [List.map_cons, List.cons_append, readStream, List.flatten_cons, ← List.append_assoc]
    split_ifs with hlong hall hall
    · rw [List.length_append] at hall
      omega
    · rfl
    · rw [ih (not_lt.mp hlong), if_pos hall]
    · rw [ih (not_lt.mp hlong), if_neg hall]

/-- A body is read as a whole, or refused with 413, by its length alone. -/
theorem readBody_chunks (cut : List Bytes) :
    readBody none (cut.map BodyEvent.data ++ [.finish]) =
      if cut.flatten.length ≤ maxBodyBytes then some (.ok cut.flatten)
      else some (.error { status := some 413, message := "request body too large" }) := by
  rw [readBody, readStream_data (by simp)]
  rfl

theorem readBody_buffer (bytes : Bytes) (events : List BodyEvent) :
    readBody (some (.buffer bytes)) events = some (.ok bytes) := rfl

/-- A body that an adapter parsed is read as the same value as its text. -/
theorem readBody_value {v : Json} (hv : v.Plain) (hnull : v ≠ .null) (hstr : ∀ s, v ≠ .str s)
    (events : List BodyEvent) : ∃ bytes, readBody (some (.value v)) events = some (.ok bytes) ∧
      (bodyOf bytes).parsed = some v := by
  refine ⟨utf8Encode v.stringify, ?_, ?_⟩
  · cases v with
    | null => exact absurd rfl hnull
    | str s => exact absurd rfl (hstr s)
    | _ => rfl
  · rw [bodyOf, utf8Decode_utf8Encode, parseJson_stringify hv]

theorem readStream_length {chunks bytes : Bytes} {events : List BodyEvent}
    (h : readStream chunks events = some (.ok bytes)) (hchunks : chunks.length ≤ maxBodyBytes) :
    bytes.length ≤ maxBodyBytes := by
  induction events generalizing chunks with
  | nil => cases h
  | cons event events ih =>
    cases event with
    | data chunk =>
      rw [readStream] at h
      split_ifs at h with hlong
      · cases h
      · exact ih h (not_lt.mp hlong)
    | finish =>
      cases h
      exact hchunks
    | error err => cases h

/-! ## Two readers of the bytes -/

theorem textOutline_chunks (chunks : List Bytes) :
    textOutline (Bundler.chunksText chunks) = textOutline (utf8Decode chunks.flatten) := by
  rw [textOutline, textOutline, Bundler.chunksText, utf8Decode, String.toList_ofList,
    String.toList_ofList]
  exact outline_pieces chunks

/-- The text that the bundler receives, if it does, is that of the chunks. -/
theorem receive_text {chunks : List Bytes} {body : String} (h : Bundler.receive chunks = some body) :
    body = Bundler.chunksText chunks := by
  induction chunks using List.reverseRecOn generalizing body with
  | nil =>
    cases h
    rfl
  | append_singleton chunks chunk ih =>
    rw [Bundler.receive, List.foldl_append, ← Bundler.receive, List.foldl_cons, List.foldl_nil] at h
    cases hfront : Bundler.receive chunks with
    | none => rw [hfront] at h; cases h
    | some front =>
      rw [hfront, Bundler.onData] at h
      split_ifs at h
      rw [← Option.some.inj h, ih hfront]
      simp [Bundler.chunksText, utf8Decode]

/-- The value that the bundler parses has the shape of the one that was checked. -/
theorem shape_chunks {bytes : Bytes} {request : Json} (hparsed : (bodyOf bytes).parsed = some request)
    {chunks : List Bytes} (hchunks : chunks.flatten = bytes) :
    ∃ request', parseJson (Bundler.chunksText chunks) = some request' ∧ request'.shape = request.shape := by
  have hsimilar := parseJson_similar (textOutline_chunks chunks)
  rw [hchunks, show parseJson (utf8Decode bytes) = some request from hparsed] at hsimilar
  exact Option.map_eq_some_iff.mp hsimilar

/-! ## Two readers of an operation -/

theorem isAscii_of_isHexText {s : String} (h : isHexText s = true) : isAscii s = true := by
  cases hbody : hexBody? s with
  | none => simp [isHexText, hbody] at h
  | some ds =>
    simp only [isHexText, hbody, List.all_eq_true] at h
    rw [isAscii, hexBody?_eq_some hbody, List.all_cons, List.all_cons, List.all_eq_true.mpr]
    · rfl
    · intro c hc
      have hcore := isCore_of_hexDigit? (Option.isSome_iff_ne_none.mp (h c hc))
      exact (Bool.and_eq_true_iff.mp hcore).2

theorem isAscii_of_isHexTextOf {n : ℕ} {s : String} (h : isHexTextOf n s = true) : isAscii s = true :=
  isAscii_of_isHexText (Bool.and_eq_true_iff.mp h).1

section TwoReaders

variable {rawOp rawOp' : Json}

theorem field_str {key s : String} (hop : rawOp'.shape = rawOp.shape) (hkey : isAscii key = true)
    (hs : isAscii s = true) (h : rawOp.field key = some (.str s)) : rawOp'.field key = some (.str s) := by
  have hfield := field_similar hop hkey
  rw [h, Option.map_some, Option.map_eq_some_iff] at hfield
  obtain ⟨v, hv, hshape⟩ := hfield
  rw [hv, eq_str_of_shape hs hshape]

theorem field_empty {key : String} (hop : rawOp'.shape = rawOp.shape) (hkey : isAscii key = true)
    (h : truthy (rawOp.field key) = false ∨ rawOp.field key = some (.str "0x")) :
    truthy (rawOp'.field key) = false ∨ rawOp'.field key = some (.str "0x") := by
  rcases h with hfalsy | hempty
  · exact .inl ((truthy_similar (field_similar hop hkey)).trans hfalsy)
  · exact .inr (field_str hop hkey (by decide) hempty)

/-- An integer that the policy read is the one that the bundler reads, if it does. -/
theorem bigInt_field {key name : String} {default : Option Json} {m n : ℤ} (hop : rawOp'.shape = rawOp.shape)
    (hkey : isAscii key = true) (hm : bigInt (rawOp.field key) = some m)
    (hn : Bundler.normalizeBigInt (nullish (rawOp'.field key) default) name = .ok n) :
    bigInt (rawOp'.field key) = some m := by
  have hfield := field_similar hop hkey
  cases hv : rawOp.field key with
  | none => rw [hv] at hm; cases hm
  | some v =>
    rw [hv, Option.map_some, Option.map_eq_some_iff] at hfield
    obtain ⟨v', hv', hshape⟩ := hfield
    rw [hv] at hm
    rw [hv'] at hn ⊢
    cases v with
    | null => cases hm
    | obj fields => cases hm
    | bool b =>
      cases v' with
      | bool b' => rwa [Shape.bool.inj hshape]
      | _ => cases hshape
    | num x =>
      cases v' with
      | num x' => rwa [Shape.num.inj hshape]
      | _ => cases hshape
    | arr items =>
      obtain ⟨items', rfl, -⟩ := exists_arr_of_shape hshape
      cases hn
    | str s =>
      cases v' with
      | str s' =>
        cases hs' : bigIntOfText s' with
        | none => simp [nullish, Bundler.normalizeBigInt, bigInt, hs'] at hn
        | some k =>
          rw [bigInt, hs', bigIntOfText_similar (Shape.str.inj hshape) hs' hm]
      | _ => cases hshape

theorem checkInitCode_similar {policy : UserOpPolicy} {owner : Option AddressText}
    (hop : rawOp'.shape = rawOp.shape) (h : policy.checkInitCode E (rawOp.field "initCode") = .ok owner) :
    policy.checkInitCode E (rawOp'.field "initCode") = .ok owner := by
  have hempty : ∀ {v : Option Json}, truthy v = false ∨ v = some (.str "0x") →
      policy.checkInitCode E v = .ok none := by
    intro v hv
    rw [UserOpPolicy.checkInitCode, if_pos]
    rcases hv with hfalsy | rfl
    · rw [hfalsy]
      rfl
    · rfl
  rcases checkInitCode_ok h with hfalsy | hzero | ⟨code, -, -, hcode, -⟩
  · rw [hempty (.inl hfalsy)] at h
    rw [hempty (field_empty hop (by decide) (.inl hfalsy)), h]
  · rw [hempty (.inr hzero)] at h
    rw [hempty (field_empty hop (by decide) (.inr hzero)), h]
  · rw [field_str hop (by decide) (isAscii_of_isHexText code.property) hcode, ← hcode, h]

/-- An operation of the same shape, of which the bundler makes an op, is accepted like the one
    that was checked. -/
theorem AdmittedOp.similar (hE : E.Documented) {policy : UserOpPolicy} {checked : Checked}
    {op : Bundler.UserOp} (hop : rawOp'.shape = rawOp.shape) (h : AdmittedOp E policy rawOp checked)
    (hnormalized : Bundler.NormalizedFrom E rawOp' op) : AdmittedOp E policy rawOp' checked where
  gasFees := by
    obtain ⟨fees, hfees, hzero⟩ := h.gasFees
    exact ⟨fees, field_str hop (by decide) (isAscii_of_isHexTextOf fees.property) hfees, hzero⟩
  gasLimits := by
    obtain ⟨limits, bs, hlimits, hcaps⟩ := h.gasLimits
    exact ⟨limits, bs, field_str hop (by decide) (isAscii_of_isHexTextOf limits.property) hlimits, hcaps⟩
  preVerificationGas := by
    obtain ⟨gas, hgas, hcap⟩ := h.preVerificationGas
    exact ⟨gas, bigInt_field hop (by decide) hgas hnormalized.preVerificationGas, hcap⟩
  paymasterAndData := field_empty hop (by decide) h.paymasterAndData
  initCode := checkInitCode_similar hop h.initCode
  callData := by
    obtain ⟨data, -, -, hdata, -⟩ := checkCallData_ok hE h.callData
    have hcall := h.callData
    rw [hdata] at hcall
    rw [field_str hop (by decide) (isAscii_of_isHexText data.property) hdata, hcall]

end TwoReaders

/-- A field of an object is read alike by the two readers. -/
theorem lookup_similar {fields fields' : List (String × Json)} {key : String} {v : Json}
    (h : fieldShapes fields' = fieldShapes fields) (hkey : isAscii key = true)
    (hv : fields.lookup key = some v) : ∃ v', fields'.lookup key = some v' ∧ v'.shape = v.shape := by
  have hlookup := congrArg (List.lookup key) h
  rw [lookup_fieldShapes hkey, lookup_fieldShapes hkey, hv] at hlookup
  exact Option.map_eq_some_iff.mp hlookup

theorem exists_pair_of_shapes {items' : List Json} {v w : Json} (h : itemShapes items' = itemShapes [v, w]) :
    ∃ v' w', items' = [v', w'] ∧ v'.shape = v.shape ∧ w'.shape = w.shape := by
  cases items' with
  | nil => cases h
  | cons v' items' =>
    cases items' with
    | nil => cases (List.cons.inj h).2
    | cons w' items' =>
      cases items' with
      | nil =>
        obtain ⟨hv, hw⟩ := List.cons.inj h
        exact ⟨v', w', rfl, hv, (List.cons.inj hw).1⟩
      | cons x items' => cases (List.cons.inj (List.cons.inj h).2).2

/-! ## The result -/

/-- The proxy forwards the bytes that it read, and only after the policy accepted what they are
    decoded to. However these bytes are cut on their way to the bundler, and whatever its decoder
    then makes of the characters that are cut, the bundler makes one call at most, of
    `sendUserOperation` on the configured EntryPoint, and the op of it, if there is one, is within
    the policy. It never destroys a request whose body the proxy read from a stream. -/
theorem chunked_complies (hE : E.Documented) (hascii : ∀ s a, E.getAddress s = some a → isAscii s = true)
    {env : ProxyEnv} {req : ProxyRequest} {attached : Option Attached} {events : List BodyEvent}
    {read : Except BodyError Bytes} {fwd : Forward} (hread : readBody attached events = some read)
    (h : (handleBundler E env { req with body := read.map bodyOf }).forwarded = some fwd) :
    ∃ bytes policy request checked address, read = .ok bytes ∧ fwd.body = bodyOf bytes ∧
      fwd.body.parsed = some request ∧ createUserOpPolicy E env.policy = .ok policy ∧
      policy.check E request = .ok checked ∧ E.getAddress env.policy.entryPoint = some address ∧
      ∀ chunks : List Bytes, chunks.flatten = bytes →
        (attached = none → ∃ body, Bundler.receive chunks = some body) ∧
        ∃ rawOp entryPoint,
          (∀ auth pending perform url exchange,
            Bundler.serveChunks auth pending perform "POST" url fwd.headers chunks = some exchange →
            exchange.calls.length ≤ 1 ∧
              ∀ call ∈ exchange.calls, call = .sendUserOperation (.arr [rawOp, entryPoint])) ∧
          Bundler.normalizeAddress E (some entryPoint) "entryPoint" = .ok address ∧
          ∀ op, Bundler.normalizeUserOp E (some rawOp) = .ok op → Complies E env.policy checked op := by
  obtain ⟨session, request, policy, checked, -, hbody, -, hparsed, hcreate, hcheck⟩ :=
    handleBundler_forwarded h
  obtain ⟨fields, op, entryPoint, rfl, hmethod, hparams, hentryPoint, -, hadmitted⟩ := check_ok hcheck
  have hpolicy := createUserOpPolicy_ok hcreate
  cases read with
  | error err => cases hbody
  | ok bytes =>
    have hbytes : bodyOf bytes = fwd.body := Except.ok.inj hbody
    refine ⟨bytes, policy, _, checked, policy.expectedEntryPoint, rfl, hbytes.symm, hparsed, hcreate,
      hcheck, hpolicy.entryPoint, ?_⟩
    rw [← hbytes] at hparsed
    intro chunks hchunks
    refine ⟨?_, ?_⟩
    · rintro rfl
      have hlength := readStream_length hread (Nat.zero_le _)
      exact ⟨_, Bundler.receive_eq_some (by rw [hchunks]; exact hlength.trans (by decide))⟩
    · obtain ⟨request', hrequest', hshape⟩ := shape_chunks hparsed hchunks
      obtain ⟨fields', rfl, hfields⟩ := exists_obj_of_shape hshape
      obtain ⟨method', hmethod', hmethodShape⟩ := lookup_similar hfields (by decide) hmethod
      obtain rfl := eq_str_of_shape (by decide) hmethodShape
      obtain ⟨params', hparams', hparamsShape⟩ := lookup_similar hfields (by decide) hparams
      obtain ⟨items', rfl, hitems⟩ := exists_arr_of_shape hparamsShape
      obtain ⟨rawOp, entryPoint', rfl, hop, hentryPointShape⟩ := exists_pair_of_shapes hitems
      refine ⟨rawOp, entryPoint', ?_, ?_, ?_⟩
      · intro auth pending perform url exchange hexchange
        obtain ⟨body, hreceive, rfl⟩ := Option.map_eq_some_iff.mp hexchange
        rw [receive_text hreceive]
        let cut : Forward := { fwd with body.parsed := parseJson (Bundler.chunksText chunks) }
        have hcut : cut.body.parsed = some (.obj fields') := hrequest'
        exact ⟨Bundler.serve_calls_length hrequest',
          calls_of_received hcut hmethod' hparams' auth pending perform url⟩
      · cases entryPoint with
        | str s =>
          obtain rfl := eq_str_of_shape (hascii s _ hentryPoint) hentryPointShape
          rw [Bundler.normalizeAddress, hentryPoint]
        | _ => cases hentryPoint
      · intro userOp huserOp
        have hnormalized := Bundler.normalizeUserOp_ok huserOp
        exact (hadmitted.similar hE hop hnormalized).complies hE hpolicy hnormalized

/-! ## A body that is cut inside a character -/

/-- The sample write with an `id` that has two bytes. -/
def accentedRequest : Json := .obj
  [("jsonrpc", .str "2.0"), ("id", .str "é"), ("method", .str "eth_sendUserOperation"),
   ("params", .arr [sampleOp, .str sampleAddress.val])]

def accentedBytes : Bytes := utf8Encode accentedRequest.stringify

def accentedWrite : ProxyRequest := { sampleWrite with body := .ok (bodyOf accentedBytes) }

theorem accentedRequest_plain : accentedRequest.Plain := by
  have hgas : (JsNumber.int 100000).Finite := by decide +kernel
  simp [accentedRequest, sampleOp, Json.Plain, PlainItems, PlainFields, hgas]

theorem accentedRequest_accepted : samplePolicy.check sampleEthers accentedRequest = .ok sampleChecked := by
  have hentryPoint : normalize sampleEthers (some (.str sampleAddress.val)) "entryPoint" =
      .ok sampleAddress := normalize_eq_ok.mpr (by decide +kernel)
  show (normalize sampleEthers (some (.str sampleAddress.val)) "entryPoint" >>= _) = _
  rw [bind_eq_ok]
  refine ⟨_, hentryPoint, ?_⟩
  rw [if_neg (by simp [samplePolicy])]
  exact sampleOp_accepted

theorem accentedBytes_parsed : (bodyOf accentedBytes).parsed = some accentedRequest := by
  rw [bodyOf, accentedBytes, utf8Decode_utf8Encode, parseJson_stringify accentedRequest_plain]

theorem accentedWrite_forwarded : (handleBundler sampleEthers sampleProxy accentedWrite).forwarded =
    some (forwardOf sampleProxy sampleSession (bodyOf accentedBytes)) := by
  have hcheck : policyCheck sampleEthers sampleProxy accentedRequest = .ok sampleChecked :=
    bind_eq_ok.mpr ⟨_, samplePolicy_created, accentedRequest_accepted⟩
  rw [handleBundler_of_checked rfl rfl rfl accentedBytes_parsed hcheck]
  exact forward_forwarded _ _ _ _ _

/-- An address that `sampleEthers` accepts is a hex string. -/
theorem isAscii_of_sampleEthers (s : String) (a : AddressText) (h : sampleEthers.getAddress s = some a) :
    isAscii s = true := by
  change plainAddress? s = some a at h
  unfold plainAddress? at h
  split_ifs at h with hs
  exact isAscii_of_isHexTextOf hs

/-- Cut between the two bytes of its `id`, the sample write complies as well. -/
theorem chunked_complies_sample : ∃ rawOp entryPoint,
    (∀ auth pending perform url exchange,
      Bundler.serveChunks auth pending perform "POST" url
        (forwardOf sampleProxy sampleSession (bodyOf accentedBytes)).headers
        [accentedBytes.take 24, accentedBytes.drop 24] = some exchange →
      exchange.calls.length ≤ 1 ∧
        ∀ call ∈ exchange.calls, call = .sendUserOperation (.arr [rawOp, entryPoint])) ∧
    ∀ op, Bundler.normalizeUserOp sampleEthers (some rawOp) = .ok op →
      Complies sampleEthers sampleProxy.policy sampleChecked op := by
  obtain ⟨bytes, policy, request, checked, address, hread, -, hparsed, hcreate, hcheck, -, hchunks⟩ :=
    chunked_complies sampleEthers_documented isAscii_of_sampleEthers
      (readBody_buffer accentedBytes []) accentedWrite_forwarded
  cases Except.ok.inj hread
  have hrequest := accentedBytes_parsed.symm.trans hparsed
  rw [← Option.some.inj hrequest] at hcheck
  rw [samplePolicy_created] at hcreate
  cases hcreate
  rw [accentedRequest_accepted] at hcheck
  cases hcheck
  have hcut : [accentedBytes.take 24, accentedBytes.drop 24].flatten = accentedBytes := by simp
  obtain ⟨-, rawOp, entryPoint, hcalls, -, hcomplies⟩ := hchunks _ hcut
  exact ⟨rawOp, entryPoint, hcalls, hcomplies⟩

end AccountAbstraction.Proxy
