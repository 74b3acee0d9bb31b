import AccountAbstraction.Ethers
import AccountAbstraction.Js.Text

/-!
# The outcome of a write

`decodeRevertData` and `outcomeFromReceipt`
(`examples/privy-google-aa/server/userop-log.mjs:151-212`): what the write log keeps of the
answer to `eth_getUserOperationReceipt`. The receipt has every log of its transaction, in the
order in which the contracts emitted them.

* `scanLogs_eq`: the loop reads the first log with the topic of the event and the hash of the op.
* `revertReason_attributed`: the receipts of failed ops whose reason is the EntryPoint's.
-/

namespace AccountAbstraction.Proxy

open Js Abi

/-! ## Revert data -/

/-- `ERROR_STRING_SELECTOR` (line 158). -/
def errorStringSelector : String := "0x08c379a0"

/-- `PANIC_SELECTOR` (line 159). -/
def panicSelector : String := "0x4e487b71"

/-- `data.startsWith(prefix)`. -/
def startsWith (data start : String) : Bool := start.toList.isPrefixOf data.toList

/-- `toUtf8String(bytes)`, which throws where the bytes are not UTF-8. -/
def toUtf8String (bs : Bytes) : Option String :=
  if utf8Encode (utf8Decode bs) = bs then some (utf8Decode bs) else none

/-- `AbiCoder.decode(["string"], data)[0]`: bytes that are read as text. -/
def decodeString (E : Ethers) (bs : Bytes) : Option String :=
  match E.decode [.bytes] bs with
  | some [.hex text] => (getBytes text).bind toUtf8String
  | _ => none

/-- `AbiCoder.decode(["uint256"], data)[0]`. -/
def decodeUint256 (E : Ethers) (bs : Bytes) : Option ℕ :=
  match E.decode [.uint256] bs with
  | some [.bigint n] => some n
  | _ => none

/-- `dataSlice(data, 4)`, as bytes. -/
def revertPayload (data : String) : Option Bytes := (dataSlice data 4).bind getBytes

/-- The `try` block of `decodeRevertData` (lines 166-173), `none` where it does not return. -/
def knownRevert (E : Ethers) (data : String) : Option String :=
  if startsWith data errorStringSelector then (revertPayload data).bind (decodeString E)
  else if startsWith data panicSelector then
    ((revertPayload data).bind (decodeUint256 E)).map fun code => "Panic(" ++ toQuantity code ++ ")"
  else none

/-- Hex data, cut to 66 characters (line 176). -/
def clipData (data : String) : String :=
  if data.toList.length > 66 then String.ofList (data.toList.take 66) ++ "…" else data

/-- `decodeRevertData(data)` (lines 163-177). -/
def decodeRevertData (E : Ethers) (data : String) : Option String :=
  if !isHexText data || data = "0x" then none
  else some ((knownRevert E data).getD ("custom error " ++ clipData data))

/-! ## The receipt -/

/-- A log of a receipt. -/
structure ReceiptLog where
  address : String
  topics : List String := []
  data : Option String := none
  transactionHash : Option String := none

/-- The answer to `eth_getUserOperationReceipt`; `transactionHash` is that of the nested receipt. -/
structure UserOpReceipt where
  success : Option Bool := none
  logs : List ReceiptLog := []
  transactionHash : Option String := none

/-- What `outcomeFromReceipt` returns. -/
structure ReceiptOutcome where
  success : Bool
  revertReason : Option String
  transactionHash : Option String
deriving DecidableEq

/-- The signature of the event. -/
def revertReasonSig : String := "UserOperationRevertReason(bytes32,address,uint256,bytes)"

/-- `REVERT_REASON_TOPIC` (line 156). -/
def revertReasonTopic (E : Ethers) : String := lower (hexlify (E.id revertReasonSig).val)

/-- `entryPointIface.parseLog({ topics, data }).args.revertReason`, `none` where a step throws. -/
abbrev ParseRevertReason := List String → String → Option String

/-- `transactionHashOf(receipt)` (lines 181-183). -/
def transactionHashOf (receipt : UserOpReceipt) : Option String :=
  (receipt.transactionHash.filter (· ≠ "")).or
    ((receipt.logs[0]?.bind ReceiptLog.transactionHash).filter (· ≠ ""))

section Outcome

variable (E : Ethers) (parseLog : ParseRevertReason) (userOpHash : String)

/-- The reason in a log: `decodeRevertData` of what `parseLog` finds in it. -/
def ReceiptLog.reason? (log : ReceiptLog) : Option String :=
  (parseLog log.topics ((log.data.filter (· ≠ "")).getD "0x")).bind (decodeRevertData E)

/-- The loop of `outcomeFromReceipt` (lines 196-208). -/
def scanLogs : List ReceiptLog → Option String
  | [] => none
  | log :: logs =>
    if log.topics[0]?.map lower ≠ some (revertReasonTopic E) then scanLogs logs
    else if log.topics[1]?.map lower ≠ some (lower userOpHash) then scanLogs logs
    else log.reason? E parseLog

/-- `outcomeFromReceipt(receipt, userOpHash)` (lines 190-212). -/
def outcomeFromReceipt (receipt : Option UserOpReceipt) : Option ReceiptOutcome :=
  receipt.map fun receipt =>
    { success := receipt.success ≠ some false
      revertReason := if receipt.success ≠ some false then none else scanLogs E parseLog userOpHash receipt.logs
      transactionHash := transactionHashOf receipt }

end Outcome

/-! ## What the reason should be -/

section Attribution

variable (E : Ethers) (entryPoint : AddressText) (userOpHash : String)

/-- A `UserOperationRevertReason` log that the EntryPoint emitted for the op, with the revert
    data `reason`. It emits none where the revert carried no data. -/
structure Emitted (log : ReceiptLog) (reason : Bytes) : Prop where
  ne_nil : reason ≠ []
  address : lower log.address = lower entryPoint.val
  topics : ∃ (event hash : Bytes32) (sender : ℕ), lower event.val = revertReasonTopic E ∧
    lower hash.val = lower userOpHash ∧ sender < 2 ^ 160 ∧
    log.topics = [event.val, hash.val, hexlify (bigEndian 32 sender)]
  data : ∃ (data : String) (nonce : ℕ), log.data = some data ∧ nonce < 2 ^ 256 ∧
    (encode [.uint nonce, .bytes reason]).length < 2 ^ 64 ∧
    getBytes data = some (encode [.uint nonce, .bytes reason])

/-- The EntryPoint reports a reason for the op. -/
def Told (logs : List ReceiptLog) (reason : String) : Prop :=
  ∃ log ∈ logs, ∃ bs, Emitted E entryPoint userOpHash log bs ∧ decodeRevertData E (hexlify bs) = some reason

/-- The reason is one that the EntryPoint reports, and the only one. -/
structure Attributed (logs : List ReceiptLog) (revertReason : Option String) : Prop where
  only : ∀ reason, revertReason = some reason → Told E entryPoint userOpHash logs reason
  present : ∀ reason, Told E entryPoint userOpHash logs reason → revertReason = some reason

/-- The EntryPoint reports one reason at most. -/
def SpeaksOnce (logs : List ReceiptLog) : Prop :=
  ∀ reason other, Told E entryPoint userOpHash logs reason → Told E entryPoint userOpHash logs other →
    reason = other

/-- The topics of a log are those of the event for the op. -/
def ReceiptLog.looksLike (log : ReceiptLog) : Bool :=
  log.topics[0]?.map lower == some (revertReasonTopic E) &&
    log.topics[1]?.map lower == some (lower userOpHash)

/-- The first log with these topics, where there is one, is the EntryPoint's. -/
def Leads (logs : List ReceiptLog) : Prop :=
  ∀ log, logs.find? (·.looksLike E userOpHash) = some log → ∃ bs, Emitted E entryPoint userOpHash log bs

/-- `parseLog` reads the event as the EntryPoint emits it. -/
def ParseRevertReason.Documented (parseLog : ParseRevertReason) : Prop :=
  ∀ (event hash : Bytes32) (sender nonce : ℕ) (reason : Bytes) (data : String),
    lower event.val = revertReasonTopic E → sender < 2 ^ 160 → nonce < 2 ^ 256 →
    (encode [.uint nonce, .bytes reason]).length < 2 ^ 64 →
    getBytes data = some (encode [.uint nonce, .bytes reason]) →
    parseLog [event.val, hash.val, hexlify (bigEndian 32 sender)] data = some (hexlify reason)

end Attribution

variable {E : Ethers} {parseLog : ParseRevertReason} {entryPoint : AddressText} {userOpHash : String}

/-- The loop reads the first log that looks like the event. -/
theorem scanLogs_eq (logs : List ReceiptLog) :
    scanLogs E parseLog userOpHash logs =
      (logs.find? (·.looksLike E userOpHash)).bind (·.reason? E parseLog) := by
  induction logs with
  | nil => rfl
  | cons log logs ih =>
    unfold scanLogs
    by_cases htopic : log.topics[0]?.map lower = some (revertReasonTopic E)
    · by_cases hhash : log.topics[1]?.map lower = some (lower userOpHash)
      · have hlooks : log.looksLike E userOpHash = true := by
          simp [ReceiptLog.looksLike, htopic, hhash]
        rw [if_neg (not_not.mpr htopic), if_neg (not_not.mpr hhash), List.find?_cons_of_pos hlooks]
        rfl
      · have hlooks : ¬log.looksLike E userOpHash = true := by simp [ReceiptLog.looksLike, hhash]
        rw [if_neg (not_not.mpr htopic), if_pos hhash, List.find?_cons_of_neg hlooks, ih]
    · have hlooks : ¬log.looksLike E userOpHash = true := by simp [ReceiptLog.looksLike, htopic]
      rw [if_pos htopic, List.find?_cons_of_neg hlooks, ih]

/-- The outcome of an op that failed. -/
theorem outcomeFromReceipt_of_failed {receipt : UserOpReceipt} (hfailed : receipt.success = some false) :
    outcomeFromReceipt E parseLog userOpHash (some receipt) =
      some { success := false, revertReason := scanLogs E parseLog userOpHash receipt.logs,
             transactionHash := transactionHashOf receipt } := by
  simp [outcomeFromReceipt, hfailed]

/-- A log of the EntryPoint for the op has the topics. -/
theorem Emitted.looksLike {log : ReceiptLog} {reason : Bytes}
    (h : Emitted E entryPoint userOpHash log reason) : log.looksLike E userOpHash = true := by
  obtain ⟨event, hash, sender, hevent, hhash, -, htopics⟩ := h.topics
  simp [ReceiptLog.looksLike, htopics, hevent, hhash]

/-- The reason in a log of the EntryPoint is that of its revert data. -/
theorem Emitted.reason? {log : ReceiptLog} {reason : Bytes} (hparse : parseLog.Documented E)
    (h : Emitted E entryPoint userOpHash log reason) :
    log.reason? E parseLog = decodeRevertData E (hexlify reason) := by
  obtain ⟨event, hash, sender, hevent, -, hsender, htopics⟩ := h.topics
  obtain ⟨data, nonce, hdata, hnonce, hsize, hbytes⟩ := h.data
  have hfilter : (some data).filter (· ≠ "") = some data := by
    refine Option.filter_some_pos ?_
    rw [decide_eq_true_eq]
    rintro rfl
    cases hbytes
  have hfound := hparse event hash sender nonce reason data hevent hsender hnonce hsize hbytes
  rw [ReceiptLog.reason?, htopics, hdata, hfilter, Option.getD_some, hfound, Option.bind_some]

/-- A log of the EntryPoint tells its reason. -/
theorem Emitted.exists_reason {log : ReceiptLog} {logs : List ReceiptLog} {bs : Bytes}
    (hparse : parseLog.Documented E) (hmem : log ∈ logs) (h : Emitted E entryPoint userOpHash log bs) :
    ∃ reason, log.reason? E parseLog = some reason ∧ Told E entryPoint userOpHash logs reason := by
  have hne : hexlify bs ≠ "0x" := fun heq => h.ne_nil (hexlify_injective (heq.trans rfl : _ = hexlify []))
  have hdecode : ∃ reason, decodeRevertData E (hexlify bs) = some reason := by
    rw [decodeRevertData, if_neg (by simp [isHexText_hexlify, hne])]
    exact ⟨_, rfl⟩
  obtain ⟨reason, hreason⟩ := hdecode
  exact ⟨reason, (h.reason? hparse).trans hreason, log, hmem, bs, h, hreason⟩

/-- The reason that the scan finds is the EntryPoint's if the first log with the topics is. -/
theorem attributed_of_leads (hparse : parseLog.Documented E) {logs : List ReceiptLog}
    (honce : SpeaksOnce E entryPoint userOpHash logs) (hleads : Leads E entryPoint userOpHash logs) :
    Attributed E entryPoint userOpHash logs (scanLogs E parseLog userOpHash logs) := by
  rw [scanLogs_eq]
  cases hfirst : logs.find? (·.looksLike E userOpHash) with
  | none =>
    -- the EntryPoint's log would have been found
    constructor
    · intro reason hreason
      cases hreason
    · rintro reason ⟨log, hmem, bs, hemitted, -⟩
      exact absurd hemitted.looksLike (List.find?_eq_none.mp hfirst log hmem)
  | some log =>
    obtain ⟨bs, hemitted⟩ := hleads log hfirst
    obtain ⟨reason, hreason, htold⟩ := hemitted.exists_reason hparse (List.mem_of_find?_eq_some hfirst)
    rw [Option.bind_some, hreason]
    constructor
    · rintro _ ⟨⟩
      exact htold
    · intro other hother
      rw [honce reason other htold hother]

/-- Whoever emitted the first log with the topics, if it is well formed then the EntryPoint reports
    the reason in it. -/
theorem told_of_attributed (hparse : parseLog.Documented E) {logs : List ReceiptLog}
    (h : Attributed E entryPoint userOpHash logs (scanLogs E parseLog userOpHash logs))
    {log : ReceiptLog} (hfirst : logs.find? (·.looksLike E userOpHash) = some log) {emitter : AddressText}
    {bs : Bytes} (hemitted : Emitted E emitter userOpHash log bs) :
    ∃ reason, decodeRevertData E (hexlify bs) = some reason ∧ Told E entryPoint userOpHash logs reason := by
  obtain ⟨reason, hreason, -⟩ := hemitted.exists_reason hparse (List.mem_of_find?_eq_some hfirst)
  refine ⟨reason, (hemitted.reason? hparse).symm.trans hreason, h.only reason ?_⟩
  rw [scanLogs_eq, hfirst, Option.bind_some, hreason]

/-- The reason of a failed op is the EntryPoint's if the EntryPoint reports one at most and the first
    log with the topics of the event, where there is one, is the EntryPoint's. Conversely it is so
    only if the EntryPoint reports one at most, and reports what a well-formed event of another
    contract in front of its own says. -/
theorem revertReason_attributed (hparse : parseLog.Documented E) {receipt : UserOpReceipt}
    (hfailed : receipt.success = some false) :
    (SpeaksOnce E entryPoint userOpHash receipt.logs → Leads E entryPoint userOpHash receipt.logs →
      ∃ outcome, outcomeFromReceipt E parseLog userOpHash (some receipt) = some outcome ∧
        outcome.success = false ∧
        Attributed E entryPoint userOpHash receipt.logs outcome.revertReason) ∧
    ∀ outcome, outcomeFromReceipt E parseLog userOpHash (some receipt) = some outcome →
      Attributed E entryPoint userOpHash receipt.logs outcome.revertReason →
      SpeaksOnce E entryPoint userOpHash receipt.logs ∧
      ∀ log emitter bs, receipt.logs.find? (·.looksLike E userOpHash) = some log →
        Emitted E emitter userOpHash log bs →
        ∃ reason, decodeRevertData E (hexlify bs) = some reason ∧
          Told E entryPoint userOpHash receipt.logs reason := by
  rw [outcomeFromReceipt_of_failed hfailed]
  refine ⟨fun honce hleads => ⟨_, rfl, rfl, attributed_of_leads hparse honce hleads⟩, ?_⟩
  rintro _ ⟨⟩ hattributed
  refine ⟨fun reason other hreason hother => ?_, fun log emitter bs hfirst hemitted =>
    told_of_attributed hparse hattributed hfirst hemitted⟩
  exact Option.some.inj ((hattributed.present reason hreason).symm.trans (hattributed.present other hother))

/-! ## Samples -/

/-- The revert data among the values of an event. -/
def revertDataOf : List AbiValue → Option String
  | [.uint _, .bytes reason] => some (hexlify reason)
  | _ => none

/-- `parseLog` by the ABI decoder of the model. -/
def plainParseLog : ParseRevertReason := fun _ data =>
  ((getBytes data).bind (Abi.decode [.uint256, .bytes])).bind revertDataOf

theorem plainParseLog_documented (E : Ethers) : plainParseLog.Documented E := by
  intro event hash sender nonce reason data _ _ hnonce hsize hbytes
  have hfits : ∀ v ∈ [AbiValue.uint nonce, .bytes reason], v.Fits := by
    intro v hv
    simp only [List.mem_cons, List.not_mem_nil, or_false] at hv
    rcases hv with rfl | rfl
    · exact hnonce
    · trivial
  have hdecode := decode_encode hfits [] hsize
  rw [List.append_nil] at hdecode
  show ((getBytes data).bind (Abi.decode [.uint256, .bytes])).bind revertDataOf = _
  rw [hbytes, Option.bind_some]
  show (Abi.decode ([AbiValue.uint nonce, .bytes reason].map AbiValue.type) _).bind revertDataOf = _
  rw [hdecode]
  rfl

theorem isHexTextOf_revertReasonTopic (E : Ethers) : isHexTextOf 32 (revertReasonTopic E) = true := by
  have htext := isHexTextOf_hexlify (E.id revertReasonSig).val
  rwa [(E.id revertReasonSig).property, ← lower_hexlify] at htext

theorem lower_revertReasonTopic (E : Ethers) : lower (revertReasonTopic E) = revertReasonTopic E := by
  rw [revertReasonTopic, lower_hexlify, lower_hexlify]

def sampleEntryPoint : AddressText := ⟨"0x3434343434343434343434343434343434343434", by decide +kernel⟩

def sampleHash : Bytes32 :=
  ⟨"0x5656565656565656565656565656565656565656565656565656565656565656", by decide +kernel⟩

/-- The event for the op of `sampleHash`, as the contract at the address emits it. -/
def sampleRevertLog (address : String) (reason : Bytes) : ReceiptLog where
  address := address
  topics := [revertReasonTopic sampleEthers, sampleHash.val, hexlify (bigEndian 32 7)]
  data := some (hexlify (encode [.uint 1, .bytes reason]))

theorem sampleRevertLog_emitted {reason : Bytes} (hne : reason ≠ [])
    (hsize : (encode [.uint 1, .bytes reason]).length < 2 ^ 64) :
    Emitted sampleEthers sampleEntryPoint sampleHash.val (sampleRevertLog sampleEntryPoint.val reason) reason where
  ne_nil := hne
  address := rfl
  topics := ⟨⟨_, isHexTextOf_revertReasonTopic sampleEthers⟩, sampleHash, 7,
    lower_revertReasonTopic sampleEthers, rfl, by norm_num, rfl⟩
  data := ⟨_, 1, rfl, by norm_num, hsize, getBytes_hexlify _⟩

/-- What the loop makes of the event, whoever emits it. -/
theorem sampleRevertLog_reason? (address : String) {reason : Bytes} (hne : reason ≠ [])
    (hsize : (encode [.uint 1, .bytes reason]).length < 2 ^ 64) :
    (sampleRevertLog address reason).reason? sampleEthers plainParseLog =
      decodeRevertData sampleEthers (hexlify reason) := by
  show (sampleRevertLog sampleEntryPoint.val reason).reason? sampleEthers plainParseLog = _
  exact (sampleRevertLog_emitted hne hsize).reason? (plainParseLog_documented sampleEthers)

/-- The EntryPoint's log behind one without topics. -/
def sampleReceipt : UserOpReceipt where
  success := some false
  logs := [{ address := "0x9898989898989898989898989898989898989898" },
           sampleRevertLog sampleEntryPoint.val [0x12, 0x34, 0x56, 0x78]]

theorem sampleReceipt_attributed :
    ∃ outcome, outcomeFromReceipt sampleEthers plainParseLog sampleHash.val (some sampleReceipt) = some outcome ∧
      outcome.success = false ∧
      Attributed sampleEthers sampleEntryPoint sampleHash.val sampleReceipt.logs outcome.revertReason := by
  have hdocumented := plainParseLog_documented sampleEthers
  have hown : Emitted sampleEthers sampleEntryPoint sampleHash.val
      (sampleRevertLog sampleEntryPoint.val [0x12, 0x34, 0x56, 0x78]) [0x12, 0x34, 0x56, 0x78] :=
    sampleRevertLog_emitted (by simp) (by decide +kernel)
  refine (revertReason_attributed hdocumented rfl).1 ?_ ?_
  · -- what is told is told by the one log
    have htold : ∀ reason, Told sampleEthers sampleEntryPoint sampleHash.val sampleReceipt.logs reason →
        (sampleRevertLog sampleEntryPoint.val [0x12, 0x34, 0x56, 0x78]).reason? sampleEthers plainParseLog =
          some reason := by
      rintro reason ⟨log, hmem, bs, hemitted, hreason⟩
      simp only [sampleReceipt, List.mem_cons, List.not_mem_nil, or_false] at hmem
      rcases hmem with rfl | rfl
      · cases hemitted.looksLike
      · exact (hemitted.reason? hdocumented).trans hreason
    intro reason other hreason hother
    exact Option.some.inj ((htold reason hreason).symm.trans (htold other hother))
  · intro log hfirst
    have hlog : log = sampleRevertLog sampleEntryPoint.val [0x12, 0x34, 0x56, 0x78] := by
      rw [sampleReceipt, List.find?_cons_of_neg (by decide +kernel),
        List.find?_cons_of_pos hown.looksLike] at hfirst
      exact (Option.some.inj hfirst).symm
    rw [hlog]
    exact ⟨_, hown⟩

/-- A log of another contract with the same topics, in front of the EntryPoint's. -/
def impostorReceipt : UserOpReceipt where
  success := some false
  logs := [sampleRevertLog "0x9898989898989898989898989898989898989898" [0xde, 0xad, 0xbe, 0xef],
           sampleRevertLog sampleEntryPoint.val [0x12, 0x34, 0x56, 0x78]]

/-- The other contract supplies the reason, and the EntryPoint's is suppressed. -/
theorem impostor_supplies_reason :
    outcomeFromReceipt sampleEthers plainParseLog sampleHash.val (some impostorReceipt) =
        some ⟨false, some "custom error 0xdeadbeef", none⟩ ∧
      Told sampleEthers sampleEntryPoint sampleHash.val impostorReceipt.logs "custom error 0x12345678" := by
  have hown : Emitted sampleEthers sampleEntryPoint sampleHash.val
      (sampleRevertLog sampleEntryPoint.val [0x12, 0x34, 0x56, 0x78]) [0x12, 0x34, 0x56, 0x78] :=
    sampleRevertLog_emitted (by simp) (by decide +kernel)
  constructor
  · have hlooks : (sampleRevertLog "0x9898989898989898989898989898989898989898"
        [0xde, 0xad, 0xbe, 0xef]).looksLike sampleEthers sampleHash.val = true := hown.looksLike
    have hreason : (sampleRevertLog "0x9898989898989898989898989898989898989898"
        [0xde, 0xad, 0xbe, 0xef]).reason? sampleEthers plainParseLog = some "custom error 0xdeadbeef" := by
      rw [sampleRevertLog_reason? _ (by simp) (by decide +kernel)]
      decide +kernel
    have hscan : scanLogs sampleEthers plainParseLog sampleHash.val impostorReceipt.logs =
        some "custom error 0xdeadbeef" := by
      rw [scanLogs_eq, impostorReceipt, List.find?_cons_of_pos hlooks, Option.bind_some, hreason]
    rw [outcomeFromReceipt_of_failed rfl, hscan]
    rfl
  · exact ⟨_, by simp [impostorReceipt], _, hown, by decide +kernel⟩

end AccountAbstraction.Proxy
