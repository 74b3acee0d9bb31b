import AccountAbstraction.Bundler.State
import AccountAbstraction.Run

/-!
# Interleavings of the bundler

The calls of `sendUserOperation` and `bundleNow` that are under way, the transactions
they sent, and the state they share. One event is one step of one call: a new call, or
the continuation of a suspended one with the outcome of its `await`. Every trigger of
`bundleNow` (the `setImmediate` of an accepted op, the interval timer, the
`lnet_bundleNow` request) is the event `bundleNow`, which may come at any time.

The chain is seen through two more events. `broadcast` is the moment at which the signed
transaction leaves the bundler, inside the awaited `submitDirect`; from then on `mine`
may happen at any time, whatever the awaited calls report.

* `step`: the system, executable.
* `step_effect`: what a step can do, guards included.
-/

namespace AccountAbstraction.Bundler

open Js

/-! ## The system -/

/-- A call of `sendUserOperation`, by the `await` at which it is suspended. -/
inductive SendCall
  /-- At `getUserOpHash`. -/
  | hashing (entryPoint : AddressText) (op : UserOp)
  /-- At `simulateValidation`. -/
  | simulating (entryPoint : AddressText) (op : UserOp) (userOpHash : Bytes32)
  | resolved (userOpHash : Bytes32)
  | rejected (err : JsError)

/-- A transaction that left the bundler, with its receipt once it is mined. -/
structure BundleTx where
  hash : Bytes32
  receipt : Option Receipt

/-- Where a call of `bundleNow` stands. -/
inductive BundlePhase
  /-- At `submitDirect`. -/
  | submitting
  /-- At `tx.wait()`. -/
  | waiting
  | resolved
  | rejected (err : JsError)

/-- The call has not reached the end of its `finally`. -/
def BundlePhase.outstanding : BundlePhase → Bool
  | .submitting => true
  | .waiting => true
  | _ => false

/-- A call of `bundleNow` that took a snapshot of the mempool. -/
structure BundleCall where
  items : List ℕ
  submission : HandleOps
  phase : BundlePhase
  tx : Option BundleTx

/-- The call is suspended. -/
def BundleCall.outstanding (call : BundleCall) : Bool := call.phase.outstanding

theorem BundleCall.outstanding_of {call : BundleCall} {phase : BundlePhase}
    (hphase : call.phase = phase) (h : phase.outstanding = true) : call.outstanding = true := by
  rw [BundleCall.outstanding, hphase, h]

theorem BundleCall.phase_of_ended {call : BundleCall} (h : call.outstanding = false) :
    call.phase = .resolved ∨ ∃ err, call.phase = .rejected err := by
  rw [BundleCall.outstanding] at h
  cases hphase : call.phase with
  | submitting => rw [hphase] at h; cases h
  | waiting => rw [hphase] at h; cases h
  | resolved => exact .inl rfl
  | rejected err => exact .inr ⟨err, rfl⟩

/-- The bundler with its calls, in the order in which they were made. -/
structure System where
  bundler : LnetBundler
  sends : List SendCall
  bundles : List BundleCall

/-- What does not change while the bundler runs. -/
structure Env where
  ethers : Ethers
  config : Config
  parseLog : ParseLog

/-- A step of the system; `i` is a call of `sendUserOperation`, `j` one of `bundleNow`. -/
inductive Event
  | sendUserOperation (params : Json)
  | hashReply (i : ℕ) (reply : Except JsError Bytes32)
  | simulateReply (i : ℕ) (reply : Except JsError SimulationResult)
  | bundleNow
  | broadcast (j : ℕ) (hash : Bytes32)
  | mine (j : ℕ) (receipt : Receipt)
  | submitReply (j : ℕ) (reply : Except JsError Unit)
  | waitReply (j : ℕ) (reply : Except JsError (Option Receipt))

namespace System

/-- The state after the start of the process. -/
def init : System := { bundler := LnetBundler.init, sends := [], bundles := [] }

/-- The next state of the `i`-th call of `sendUserOperation`. -/
def setSend (s : System) (i : ℕ) (call : SendCall) : System :=
  { s with sends := s.sends.set i call }

/-- The next state of the `j`-th call of `bundleNow`. -/
def setBundle (s : System) (j : ℕ) (call : BundleCall) : System :=
  { s with bundles := s.bundles.set j call }

/-- The `j`-th call of `bundleNow` ends, with the state of the bundler behind its `finally`. -/
def settle (s : System) (j : ℕ) (call : BundleCall) (b : LnetBundler) (phase : BundlePhase) :
    System :=
  { s with bundler := b, bundles := s.bundles.set j { call with phase } }

end System

/-- A new call of `sendUserOperation`. -/
def openSend (env : Env) (params : Json) : SendCall :=
  match acceptParams env.ethers env.config params with
  | .ok (entryPoint, op) => .hashing entryPoint op
  | .error err => .rejected err

/-- `sendUserOperation` behind the `await` of `getUserOpHash` (`bundler/src/index.js:263-266`). -/
def afterHash (s : System) (i : ℕ) (entryPoint : AddressText) (op : UserOp)
    (reply : Except JsError Bytes32) : System :=
  match reply with
  | .error err => s.setSend i (.rejected err)
  | .ok userOpHash =>
    if s.bundler.isKnown userOpHash then s.setSend i (.resolved userOpHash)
    else s.setSend i (.simulating entryPoint op userOpHash)

/-- `sendUserOperation` behind the `await` of `simulateValidation`
    (`bundler/src/index.js:266-281`). -/
def afterSimulation (env : Env) (s : System) (i : ℕ) (entryPoint : AddressText) (op : UserOp)
    (userOpHash : Bytes32) (reply : Except JsError SimulationResult) : System :=
  match simulateValidation env.config.simulationMode reply with
  | .error err => s.setSend i (.rejected err)
  | .ok () =>
    { s.setSend i (.resolved userOpHash) with
      bundler := s.bundler.enqueue (newItem userOpHash op entryPoint) }

/-- `bundleNow` up to the `await` of `submitDirect` (`bundler/src/index.js:374-380`). -/
def startBundle (env : Env) (s : System) : System :=
  if s.bundler.bundling || s.bundler.mempool.size == 0 then s
  else
    let items := s.bundler.snapshot env.config
    { s with
      bundler := { s.bundler with bundling := true }
      bundles := s.bundles ++
        [{ items, submission := submitDirect env.config s.bundler items, phase := .submitting,
           tx := none }] }

/-- `bundleNow` behind the `await` of `submitDirect`. -/
def afterSubmit (s : System) (j : ℕ) (call : BundleCall) (reply : Except JsError Unit) : System :=
  match reply with
  | .ok () => s.setBundle j { call with phase := .waiting }
  | .error err => s.settle j call (abandon s.bundler call.items err) (.rejected err)

/-- `bundleNow` behind the `await` of `tx.wait()`. -/
def afterWait (env : Env) (s : System) (j : ℕ) (call : BundleCall)
    (reply : Except JsError (Option Receipt)) : System :=
  match reply with
  | .error err => s.settle j call (abandon s.bundler call.items err) (.rejected err)
  | .ok receipt =>
    match complete env.parseLog s.bundler call.items receipt with
    | (b, .ok ()) => s.settle j call b .resolved
    | (b, .error err) => s.settle j call b (.rejected err)

/-- `tx.wait()` resolves with the receipt of the transaction, or with `null`. -/
def BundleTx.waitsTo (tx : BundleTx) (receipt : Option Receipt) : Bool :=
  match receipt with
  | some r => tx.receipt = some r
  | none => true

/-- One event; `none` where it cannot happen. -/
def step (env : Env) (s : System) : Event → Option System
  | .sendUserOperation params => some { s with sends := s.sends ++ [openSend env params] }
  | .hashReply i reply =>
    match s.sends[i]? with
    | some (.hashing entryPoint op) => some (afterHash s i entryPoint op reply)
    | _ => none
  | .simulateReply i reply =>
    match s.sends[i]? with
    | some (.simulating entryPoint op userOpHash) =>
      some (afterSimulation env s i entryPoint op userOpHash reply)
    | _ => none
  | .bundleNow => some (startBundle env s)
  | .broadcast j hash =>
    match s.bundles[j]? with
    | some { items, submission, phase := .submitting, tx := none } =>
      some (s.setBundle j
        { items, submission, phase := .submitting, tx := some { hash, receipt := none } })
    | _ => none
  | .mine j receipt =>
    match s.bundles[j]? with
    | some { items, submission, phase, tx := some { hash, receipt := none } } =>
      if receipt.hash = some hash.val then
        some (s.setBundle j
          { items, submission, phase, tx := some { hash, receipt := some receipt } })
      else none
    | _ => none
  | .submitReply j reply =>
    match s.bundles[j]? with
    | some call =>
      match call.phase, call.tx, reply with
      | .submitting, some _, .ok () => some (afterSubmit s j call reply)
      | .submitting, _, .error _ => some (afterSubmit s j call reply)
      | _, _, _ => none
    | none => none
  | .waitReply j reply =>
    match s.bundles[j]? with
    | some call =>
      match call.phase, call.tx, reply with
      | .waiting, some tx, .ok receipt =>
        if tx.waitsTo receipt then some (afterWait env s j call reply) else none
      | .waiting, _, .error _ => some (afterWait env s j call reply)
      | _, _, _ => none
    | none => none

/-! ## Observations -/

/-- The submission is in flight, or its transaction left the bundler and is pending on the
    chain or mined. -/
def BundleCall.live (call : BundleCall) : Bool := call.outstanding || call.tx.isSome

/-- The receipt of the bundle's transaction. -/
def BundleCall.minedReceipt (call : BundleCall) : Option Receipt := call.tx.bind BundleTx.receipt

/-- The transaction of the bundle was mined with status 1. -/
def BundleCall.succeeded (call : BundleCall) : Bool :=
  match call.minedReceipt with
  | some receipt => receipt.status == some 1
  | none => false

/-- The submission has an op with this hash. -/
def BundleCall.Contains (b : LnetBundler) (call : BundleCall) (hash : Bytes32) : Prop :=
  ∃ i ∈ call.items, b.hashOf i = some hash

instance (b : LnetBundler) (call : BundleCall) (hash : Bytes32) : Decidable (call.Contains b hash) :=
  inferInstanceAs (Decidable (∃ i ∈ call.items, b.hashOf i = some hash))

/-- The hash under which the event files a new op, if it does. -/
def filedHash (env : Env) (s : System) : Event → Option Bytes32
  | .simulateReply i reply =>
    match s.sends[i]? with
    | some (.simulating _ _ userOpHash) =>
      if (simulateValidation env.config.simulationMode reply).isOk then some userOpHash else none
    | _ => none
  | _ => none

theorem filedHash_eq {env : Env} {s : System} {i : ℕ} {entryPoint : AddressText} {op : UserOp}
    {userOpHash : Bytes32} {reply : Except JsError SimulationResult}
    (hcall : s.sends[i]? = some (.simulating entryPoint op userOpHash))
    (hvalid : simulateValidation env.config.simulationMode reply = .ok ()) :
    filedHash env s (.simulateReply i reply) = some userOpHash := by
  simp [filedHash, hcall, hvalid, Except.isOk, Except.toBool]

/-! ## What a step can do -/

/-- The call of `bundleNow` whose `try` block the event makes throw. -/
def Event.failing : Event → Option ℕ
  | .submitReply j (.error _) => some j
  | .waitReply j (.error _) => some j
  | .waitReply j (.ok none) => some j
  | .waitReply j (.ok (some receipt)) => if receipt.WellFormed then none else some j
  | _ => none

/-- The effect of an event. -/
inductive Effect (env : Env) (s : System) : Event → System → Prop
  | called (params : Json) :
    Effect env s (.sendUserOperation params) { s with sends := s.sends ++ [openSend env params] }
  | unhashed (i : ℕ) (entryPoint : AddressText) (op : UserOp) (err : JsError)
      (hcall : s.sends[i]? = some (.hashing entryPoint op)) :
    Effect env s (.hashReply i (.error err)) (s.setSend i (.rejected err))
  /-- The hash is known, and the call resolves to it. -/
  | known (i : ℕ) (entryPoint : AddressText) (op : UserOp) (userOpHash : Bytes32)
      (hcall : s.sends[i]? = some (.hashing entryPoint op))
      (hknown : s.bundler.isKnown userOpHash = true) :
    Effect env s (.hashReply i (.ok userOpHash)) (s.setSend i (.resolved userOpHash))
  | checked (i : ℕ) (entryPoint : AddressText) (op : UserOp) (userOpHash : Bytes32)
      (hcall : s.sends[i]? = some (.hashing entryPoint op))
      (hnew : s.bundler.isKnown userOpHash = false) :
    Effect env s (.hashReply i (.ok userOpHash)) (s.setSend i (.simulating entryPoint op userOpHash))
  /-- The simulation refuses the op. -/
  | refused (i : ℕ) (entryPoint : AddressText) (op : UserOp) (userOpHash : Bytes32)
      (reply : Except JsError SimulationResult) (err : JsError)
      (hcall : s.sends[i]? = some (.simulating entryPoint op userOpHash))
      (hinvalid : simulateValidation env.config.simulationMode reply = .error err) :
    Effect env s (.simulateReply i reply) (s.setSend i (.rejected err))
  /-- The op is accepted. -/
  | inserted (i : ℕ) (entryPoint : AddressText) (op : UserOp) (userOpHash : Bytes32)
      (reply : Except JsError SimulationResult)
      (hcall : s.sends[i]? = some (.simulating entryPoint op userOpHash))
      (hvalid : simulateValidation env.config.simulationMode reply = .ok ()) :
    Effect env s (.simulateReply i reply)
      { s.setSend i (.resolved userOpHash) with
        bundler := s.bundler.enqueue (newItem userOpHash op entryPoint) }
  /-- `bundleNow` returns `null`. -/
  | idle (h : s.bundler.bundling = true ∨ s.bundler.mempool.size = 0) : Effect env s .bundleNow s
  | started (hbundling : s.bundler.bundling = false) (hsize : s.bundler.mempool.size ≠ 0) :
    Effect env s .bundleNow
      { s with
        bundler := { s.bundler with bundling := true }
        bundles := s.bundles ++
          [{ items := s.bundler.snapshot env.config,
             submission := submitDirect env.config s.bundler (s.bundler.snapshot env.config),
             phase := .submitting, tx := none }] }
  | sent (j : ℕ) (call : BundleCall) (hash : Bytes32) (hcall : s.bundles[j]? = some call)
      (hphase : call.phase = .submitting) (htx : call.tx = none) :
    Effect env s (.broadcast j hash)
      (s.setBundle j { call with tx := some { hash, receipt := none } })
  | mined (j : ℕ) (call : BundleCall) (hash : Bytes32) (receipt : Receipt)
      (hcall : s.bundles[j]? = some call) (htx : call.tx = some { hash, receipt := none })
      (hhash : receipt.hash = some hash.val) :
    Effect env s (.mine j receipt)
      (s.setBundle j { call with tx := some { hash, receipt := some receipt } })
  | submitted (j : ℕ) (call : BundleCall) (hcall : s.bundles[j]? = some call)
      (hphase : call.phase = .submitting) (htx : call.tx ≠ none) :
    Effect env s (.submitReply j (.ok ())) (s.setBundle j { call with phase := .waiting })
  /-- `bundleNow` returns. -/
  | returned (j : ℕ) (call : BundleCall) (tx : BundleTx) (receipt : Receipt) (b : LnetBundler)
      (hcall : s.bundles[j]? = some call) (hphase : call.phase = .waiting)
      (htx : call.tx = some tx) (hreceipt : tx.receipt = some receipt)
      (hcomplete : complete env.parseLog s.bundler call.items (some receipt) = (b, .ok ())) :
    Effect env s (.waitReply j (.ok (some receipt))) (s.settle j call b .resolved)
  /-- `bundleNow` throws. -/
  | threw (e : Event) (j : ℕ) (call : BundleCall) (b : LnetBundler) (err : JsError)
      (hcall : s.bundles[j]? = some call) (hphase : call.outstanding = true) (he : e.failing = some j)
      (hsettles : Settles call.items .failed s.bundler b)
      (hreceipts : ∀ k, b.receiptOf k = s.bundler.receiptOf k) :
    Effect env s e (s.settle j call b (.rejected err))

theorem afterHash_effect (env : Env) {s : System} {i : ℕ} {entryPoint : AddressText} {op : UserOp}
    (hcall : s.sends[i]? = some (.hashing entryPoint op)) (reply : Except JsError Bytes32) :
    Effect env s (.hashReply i reply) (afterHash s i entryPoint op reply) := by
  cases reply with
  | error err => exact .unhashed i entryPoint op err hcall
  | ok userOpHash =>
    simp only [afterHash]
    split_ifs with hknown
    · exact .known i entryPoint op userOpHash hcall hknown
    · exact .checked i entryPoint op userOpHash hcall (by simpa using hknown)

theorem afterSimulation_effect (env : Env) {s : System} {i : ℕ} {entryPoint : AddressText}
    {op : UserOp} {userOpHash : Bytes32}
    (hcall : s.sends[i]? = some (.simulating entryPoint op userOpHash))
    (reply : Except JsError SimulationResult) :
    Effect env s (.simulateReply i reply)
      (afterSimulation env s i entryPoint op userOpHash reply) := by
  unfold afterSimulation
  split
  · rename_i err hinvalid
    exact .refused i entryPoint op userOpHash reply err hcall hinvalid
  · rename_i hvalid
    exact .inserted i entryPoint op userOpHash reply hcall hvalid

theorem startBundle_effect (env : Env) (s : System) :
    Effect env s .bundleNow (startBundle env s) := by
  unfold startBundle
  split_ifs with h
  · exact .idle (by simpa using h)
  · simp only [Bool.or_eq_true, beq_iff_eq, not_or, Bool.not_eq_true] at h
    exact .started h.1 h.2

theorem afterWait_effect (env : Env) {s : System} {j : ℕ} {call : BundleCall} {tx : BundleTx}
    {receipt : Option Receipt} (hcall : s.bundles[j]? = some call)
    (hphase : call.phase = .waiting) (htx : call.tx = some tx) (hwait : tx.waitsTo receipt = true) :
    Effect env s (.waitReply j (.ok receipt)) (afterWait env s j call (.ok receipt)) := by
  have hout : call.outstanding = true := BundleCall.outstanding_of hphase rfl
  unfold afterWait
  simp only
  split
  · rename_i b hcomplete
    obtain ⟨r, rfl, -⟩ := complete_ok hcomplete
    exact .returned j call tx r b hcall hphase htx (by simpa [BundleTx.waitsTo] using hwait) hcomplete
  · rename_i b err hcomplete
    obtain ⟨hsettles, hreceipts⟩ := complete_error hcomplete
    refine .threw _ j call b err hcall hout ?_ hsettles hreceipts
    cases receipt with
    | none => rfl
    | some r =>
      refine if_neg ?_
      intro hwf
      obtain ⟨b', hok⟩ := complete_wellFormed env.parseLog s.bundler call.items hwf
      rw [hcomplete] at hok
      cases hok

/-- An awaited call rejects. -/
theorem abandon_effect (env : Env) {s : System} {e : Event} {j : ℕ} {call : BundleCall}
    (hcall : s.bundles[j]? = some call) (hout : call.outstanding = true) (he : e.failing = some j)
    (err : JsError) :
    Effect env s e (s.settle j call (abandon s.bundler call.items err) (.rejected err)) :=
  .threw e j call _ err hcall hout he (settles_abandon (Frame.refl call.items s.bundler) err)
    (receiptOf_abandon s.bundler call.items err)

/-- Every step is one of the effects. -/
theorem step_effect {env : Env} {s s' : System} {e : Event} (h : step env s e = some s') :
    Effect env s e s' := by
  cases e with
  | sendUserOperation params =>
    cases h
    exact .called params
  | hashReply i reply =>
    simp only [step] at h
    split at h
    · rename_i entryPoint op hcall
      cases h
      exact afterHash_effect env hcall reply
    · cases h
  | simulateReply i reply =>
    simp only [step] at h
    split at h
    · rename_i entryPoint op userOpHash hcall
      cases h
      exact afterSimulation_effect env hcall reply
    · cases h
  | bundleNow =>
    cases h
    exact startBundle_effect env s
  | broadcast j hash =>
    simp only [step] at h
    split at h
    · rename_i items submission hcall
      cases h
      exact .sent j _ hash hcall rfl rfl
    · cases h
  | mine j receipt =>
    simp only [step] at h
    split at h
    · rename_i items submission phase hash hcall
      split_ifs at h with hhash
      cases h
      exact .mined j _ hash receipt hcall rfl hhash
    · cases h
  | submitReply j reply =>
    simp only [step] at h
    split at h
    · rename_i call hcall
      split at h
      · rename_i tx hphase htx
        cases h
        exact .submitted j call hcall hphase (by simp [htx])
      · rename_i err hphase
        cases h
        exact abandon_effect env hcall (BundleCall.outstanding_of hphase rfl) rfl err
      · cases h
    · cases h
  | waitReply j reply =>
    simp only [step] at h
    split at h
    · rename_i call hcall
      split at h
      · rename_i tx receipt hphase htx
        split_ifs at h with hwait
        cases h
        exact afterWait_effect env hcall hphase htx hwait
      · rename_i err hphase
        cases h
        exact abandon_effect env hcall (BundleCall.outstanding_of hphase rfl) rfl err
      · cases h
    · cases h

/-! ## A sample environment -/

/-- The hash of the op of `0x11…11`. -/
def sampleHash : Bytes32 :=
  ⟨"0x0000000000000000000000000000000000000000000000000000000000000001", by decide⟩

/-- The hash of the op of `0x55…55`. -/
def otherHash : Bytes32 :=
  ⟨"0x0000000000000000000000000000000000000000000000000000000000000002", by decide⟩

/-- The hash of a transaction. -/
def sampleTx : Bytes32 :=
  ⟨"0x0000000000000000000000000000000000000000000000000000000000000008", by decide⟩

/-- The topics of the event of the op of `0x11…11` without a paymaster; the first one is the
    hash of the event's signature. -/
def sampleTopics : List String :=
  ["0x49628fd1471006c1482da88028e9ce4dbb080b815c9b0344d39e5a8e6ec1419f", sampleHash.val,
   "0x0000000000000000000000001111111111111111111111111111111111111111",
   "0x0000000000000000000000000000000000000000000000000000000000000000"]

/-- The log of an op of `0x11…11` without a paymaster, emitted by `address`. -/
def sampleLog (address data : String) : LogItem where
  address := address
  topics := sampleTopics
  data := data
  blockHash := "0x0000000000000000000000000000000000000000000000000000000000000007"
  blockNumber := some 7
  transactionHash := sampleTx.val
  transactionIndex := some 0
  index := some 0
  removed := false

/-- The words of an event: nonce 0, success, cost 5 and gas 6. -/
def sampleData : String :=
  "0x0000000000000000000000000000000000000000000000000000000000000000000000000000000000000000000000000000000000000000000000000000000100000000000000000000000000000000000000000000000000000000000000050000000000000000000000000000000000000000000000000000000000000006"

/-- The words of an event: nonce 0, success, cost 7 and gas 8. -/
def forgedData : String :=
  "0x0000000000000000000000000000000000000000000000000000000000000000000000000000000000000000000000000000000000000000000000000000000100000000000000000000000000000000000000000000000000000000000000070000000000000000000000000000000000000000000000000000000000000008"

/-- The outcome in `sampleData`. -/
def sampleEvent : UserOperationEvent :=
  { paymaster := zeroAddress, success := true, actualGasCost := 5, actualGasUsed := 6 }

/-- `ethers.parseLog` on the logs of the samples. -/
def sampleParseLog (topics : List String) (data : String) : Option (Bytes32 × UserOperationEvent) :=
  if topics = sampleTopics then
    if data = sampleData then some (sampleHash, sampleEvent)
    else if data = forgedData then
      some (sampleHash, { sampleEvent with actualGasCost := 7, actualGasUsed := 8 })
    else none
  else none

/-- A bundler for the EntryPoint `0x22…22`. -/
def sampleEnv (mode : SimulationMode) : Env where
  ethers := sampleEthers
  config := { entryPoint := "0x2222222222222222222222222222222222222222",
              beneficiary := "0x3333333333333333333333333333333333333333",
              simulationMode := mode, maxBundleSize := 10, bundleGasLimit := 8000000,
              enforceZeroGasFees := true }
  parseLog := sampleParseLog

/-- The parameters of a request with an op of `sender` in which all else has its default. -/
def sampleParams (sender : String) : Json :=
  .arr [.obj [("sender", .str sender)], .str "0x2222222222222222222222222222222222222222"]

/-- What `normalizeUserOp` makes of the op of `0x11…11`. -/
def sampleOp : UserOp where
  sender := ⟨"0x1111111111111111111111111111111111111111", by decide⟩
  nonce := 0
  initCode := emptyHex
  callData := emptyHex
  accountGasLimits := zeroBytes32
  preVerificationGas := 0
  gasFees := zeroBytes32
  paymasterAndData := emptyHex
  signature := emptyHex

/-- The receipt of a transaction. -/
def sampleReceipt (hash : Bytes32) (status : ℕ) (logs : List LogItem) : Receipt where
  hash := some hash.val
  transactionHash := none
  index := some 0
  blockHash := some "0x0000000000000000000000000000000000000000000000000000000000000007"
  blockNumber := some 7
  from' := some "0x3333333333333333333333333333333333333333"
  to' := some "0x2222222222222222222222222222222222222222"
  cumulativeGasUsed := some 21000
  gasUsed := some 21000
  gasPrice := some 0
  status := some status
  logs := logs

/-- The error of an EntryPoint without a simulation method. -/
def noSimulation : Except JsError SimulationResult := .error { message := "missing revert data" }

/-- One op is accepted and sent in a bundle. -/
def sampleBundle : List Event :=
  [.sendUserOperation (sampleParams "0x1111111111111111111111111111111111111111"),
   .hashReply 0 (.ok sampleHash), .simulateReply 0 noSimulation, .bundleNow,
   .broadcast 0 sampleTx, .submitReply 0 (.ok ())]

/-- A bundler whose bundles have one op. -/
def singleEnv : Env :=
  { sampleEnv .try' with config := { (sampleEnv .try').config with maxBundleSize := 1 } }

/-- Two ops are filed, and the first one is taken. -/
def twoFiled : List Event :=
  [.sendUserOperation (sampleParams "0x1111111111111111111111111111111111111111"),
   .sendUserOperation (sampleParams "0x5555555555555555555555555555555555555555"),
   .hashReply 0 (.ok sampleHash), .hashReply 1 (.ok otherHash),
   .simulateReply 0 noSimulation, .simulateReply 1 noSimulation, .bundleNow]

/-- The receipt of the transaction of `sampleBundle` when the op succeeds. -/
def sampleSuccess : Receipt :=
  sampleReceipt sampleTx 1
    [sampleLog "0x2222222222222222222222222222222222222222" sampleData]

end AccountAbstraction.Bundler
