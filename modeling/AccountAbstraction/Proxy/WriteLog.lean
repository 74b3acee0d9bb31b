import AccountAbstraction.Newest
import AccountAbstraction.Proxy.UserOpLog

/-!
# The table behind the write log

`createUserOpLog` (`examples/privy-google-aa/server/userop-log.mjs:65-124`) over the rows
of the SQLite table, and `settlePending` (`api.mjs:539-558`), which reads them. A file
has room for fewer than `2^53` rows, so an id is a number of the language; the writes that
fail for want of room are left out, as are a locked and a closed database. A row holds the
texts as they were written, and the queries give them back whole, where `node:sqlite` reads a
text only up to its first U+0000.

* `writeLog_spec`: ids, what `record` and `settle` do to the rows, and what the two
  queries show, after any calls and between any two states.
-/

namespace AccountAbstraction.WriteLog

open Js Proxy

/-! ## The table -/

/-- The argument of `record`. A field is text or null, or a value of a request body. -/
structure Entry where
  userSub : Option Json
  status : Option String
  method : Option Json
  userOpHash : Option Json
  sender : Option Json
  target : Option Json
  owner : Option Json
  innerCall : Option Json
  storedValue : Option Json
  httpStatus : Option ℕ
  error : Option Json

/-- The fields that go through `clip`. -/
def Entry.texts (entry : Entry) : List (Option Json) :=
  [entry.userSub, entry.method, entry.userOpHash, entry.sender, entry.target, entry.owner,
   entry.innerCall, entry.storedValue, entry.error]

/-- A row of `userop_log` (lines 17-37). -/
structure Row where
  id : ℕ
  createdAt : ℤ
  userSub : Option String
  status : String
  method : Option String
  userOpHash : Option String
  sender : Option String
  target : Option String
  owner : Option String
  innerCall : Option String
  storedValue : Option String
  httpStatus : Option ℕ
  error : Option String
  success : Option ℕ := none
  revertReason : Option String := none
  txHash : Option String := none
  settledAt : Option ℤ := none
deriving DecidableEq

def Row.texts (row : Row) : List (Option String) :=
  [row.userSub, row.method, row.userOpHash, row.sender, row.target, row.owner, row.innerCall,
   row.storedValue, row.error]

/-- The table, with its rows in the order of their insertion and the counter of
    `AUTOINCREMENT`. -/
structure Store where
  rows : List Row
  seq : ℕ
  increasing : (rows.map (·.id)).Pairwise (· < ·)
  id_le : ∀ row ∈ rows, row.id ≤ seq

/-- A new file. -/
def Store.empty : Store := ⟨[], 0, List.Pairwise.nil, by simp⟩

theorem Store.id_lt (log : Store) {row : Row} (h : row ∈ log.rows) : row.id < log.seq + 1 :=
  Nat.lt_succ_of_le (log.id_le row h)

theorem Store.pairwise_append (log : Store) (row : Row) (hid : row.id = log.seq + 1) :
    ((log.rows ++ [row]).map (·.id)).Pairwise (· < ·) := by
  rw [List.map_append, List.pairwise_append]
  refine ⟨log.increasing, List.pairwise_singleton _ _, ?_⟩
  simp only [List.mem_map, List.map_cons, List.map_nil, List.mem_singleton]
  rintro _ ⟨earlier, hearlier, rfl⟩ _ rfl
  rw [hid]
  exact log.id_lt hearlier

theorem Store.le_of_mem_append (log : Store) (row : Row) (hid : row.id = log.seq + 1) :
    ∀ r ∈ log.rows ++ [row], r.id ≤ log.seq + 1 := by
  intro r hr
  rcases List.mem_append.mp hr with hr | hr
  · exact (log.id_lt hr).le
  · rw [List.mem_singleton.mp hr, hid]

/-- `INSERT INTO userop_log`: the database chooses the id. -/
def Store.insert (log : Store) (row : Row) : Store where
  rows := log.rows ++ [{ row with id := log.seq + 1 }]
  seq := log.seq + 1
  increasing := log.pairwise_append { row with id := log.seq + 1 } rfl
  id_le := log.le_of_mem_append { row with id := log.seq + 1 } rfl

/-- The columns that `settle` writes. -/
structure Outcome where
  success : ℕ
  revertReason : Option String
  txHash : Option String
  settledAt : ℤ

def Row.settled (row : Row) (outcome : Outcome) : Row :=
  { row with
    success := some outcome.success
    revertReason := outcome.revertReason
    txHash := outcome.txHash
    settledAt := some outcome.settledAt }

def Row.settledAs (row : Row) (id : ℕ) (outcome : Outcome) : Row :=
  if row.id = id then row.settled outcome else row

@[simp] theorem Row.settledAs_id (row : Row) (id : ℕ) (outcome : Outcome) :
    (row.settledAs id outcome).id = row.id := by
  unfold settledAs
  split <;> rfl

/-- `UPDATE userop_log SET … WHERE id = ?`. -/
def Store.update (log : Store) (id : ℕ) (outcome : Outcome) : Store where
  rows := log.rows.map fun row => row.settledAs id outcome
  seq := log.seq
  increasing := by
    rw [List.map_map]
    simpa [Function.comp_def] using log.increasing
  id_le := by
    intro row hrow
    obtain ⟨row', hrow', rfl⟩ := List.mem_map.mp hrow
    simpa using log.id_le row' hrow'

/-! ## The functions of the log -/

/-- The error of the database. -/
def sqliteError (message : String) : JsError :=
  { code := some (.str "ERR_SQLITE_ERROR"), message := message }

/-- `record(entry)` (lines 90-106). -/
def Store.record (log : Store) (now : ℤ) (entry : Entry) : Except JsError (ℕ × Store) := do
  let userSub ← clip entry.userSub
  let method ← clip entry.method
  let userOpHash ← clip entry.userOpHash
  let sender ← clip entry.sender
  let target ← clip entry.target
  let owner ← clip entry.owner
  let innerCall ← clip entry.innerCall
  let storedValue ← clip entry.storedValue
  let error ← clip entry.error
  match entry.status with
  | none => .error (sqliteError "NOT NULL constraint failed: userop_log.status")
  | some status =>
    return (log.seq + 1, log.insert {
      id := log.seq + 1, createdAt := now, userSub, status, method, userOpHash, sender, target,
      owner, innerCall, storedValue, httpStatus := entry.httpStatus, error })

/-- The second argument of `settle`; a missing field is null. -/
structure Settlement where
  success : Option Json
  revertReason : Option Json := none
  transactionHash : Option Json := none

/-- `settle(id, { success, revertReason, transactionHash })` (lines 113-115). -/
def Store.settle (log : Store) (now : ℤ) (id : ℕ) (outcome : Settlement) : Except JsError Store := do
  let revertReason ← clip outcome.revertReason
  let txHash ← clip outcome.transactionHash
  return log.update id { success := if truthy outcome.success then 1 else 0, revertReason, txHash,
                         settledAt := now }

/-- `SELECT … ORDER BY id DESC LIMIT ?` with an integer. A negative one is no limit, and one
    of more than 64 bits is refused, as is `-2^63`: a number of the language is bound as a
    double, which SQLite takes for an integer only strictly between the two bounds. -/
def selectNewest (rows : List Row) (limit : ℤ) : Except JsError (List Row) :=
  if -2 ^ 63 < limit ∧ limit < 2 ^ 63 then
    .ok (if limit < 0 then sortDesc (·.id) rows else newest (·.id) limit.toNat rows)
  else .error (sqliteError "datatype mismatch")

/-- The condition of `selectPending` (line 80). -/
def Row.awaiting (row : Row) : Bool :=
  row.status == "sent" && row.userOpHash.isSome && (row.success.isNone || row.txHash.isNone)

/-- `pending(limit)` (lines 109-111). -/
def Store.pending (log : Store) (limit : ℤ) : Except JsError (List (ℕ × Option String)) :=
  (selectNewest (log.rows.filter Row.awaiting) limit).map
    (·.map fun row => (row.id, row.userOpHash))

/-- An entry of the history. A moment stands for its ISO text. -/
structure HistoryEntry where
  id : ℕ
  createdAt : ℤ
  user : Option String
  status : String
  method : Option String
  userOpHash : Option String
  sender : Option String
  target : Option String
  owner : Option String
  innerCall : Option String
  storedValue : Option String
  httpStatus : Option ℕ
  error : Option String
  success : Option Bool
  revertReason : Option String
  txHash : Option String
  settledAt : Option ℤ
deriving DecidableEq

/-- `toEntry(row)` (lines 127-149). -/
def toEntry (row : Row) : HistoryEntry where
  id := row.id
  createdAt := row.createdAt
  user := row.userSub
  status := row.status
  method := row.method
  userOpHash := row.userOpHash
  sender := row.sender
  target := row.target
  owner := row.owner
  innerCall := row.innerCall
  storedValue := row.storedValue
  httpStatus := row.httpStatus
  error := row.error
  success := row.success.map (· == 1)
  revertReason := row.revertReason
  txHash := row.txHash
  settledAt := row.settledAt.filter (· ≠ 0)

/-- `recent(limit)` (lines 117-119). -/
def Store.recent (log : Store) (limit : ℤ) : Except JsError (List HistoryEntry) :=
  (selectNewest log.rows limit).map (·.map toEntry)

/-- The requests of `settlePending(limit)`, each with the row that its answer settles
    (`api.mjs:540-551`). -/
def Store.settlePending (log : Store) (limit : ℤ) : Except JsError (List (ℕ × Json)) :=
  (log.pending limit).map (·.map fun (id, userOpHash) =>
    (id, .obj [("jsonrpc", .str "2.0"), ("id", .num (.int 1)),
      ("method", .str "eth_getUserOperationReceipt"),
      ("params", .arr [(userOpHash.map Json.str).getD .null])]))

/-! ## Sequences of calls -/

inductive Call
  | record (now : ℤ) (entry : Entry)
  | settle (now : ℤ) (id : ℕ) (outcome : Settlement)

/-- One call. A call that throws leaves the table as it is. -/
def Store.perform (log : Store) : Call → Store
  | .record now entry =>
    match log.record now entry with
    | .ok (_, log') => log'
    | .error _ => log
  | .settle now id outcome =>
    match log.settle now id outcome with
    | .ok log' => log'
    | .error _ => log

def Store.after (log : Store) (calls : List Call) : Store := calls.foldl Store.perform log

/-! ## What the log should do -/

/-- A field that is text or null. -/
def TextOrNull (v : Option Json) : Prop := v = none ∨ v = some .null ∨ ∃ text, v = some (.str text)

/-- The row of an entry: `log` with one more row, whose id is greater than every id before
    it and whose texts are those of the entry, cut to at most 201 units. -/
structure Records (log : Store) (now : ℤ) (entry : Entry) (row : Row) (log' : Store) : Prop where
  rows : log'.rows = log.rows ++ [row]
  fresh : ∀ other ∈ log.rows, other.id < row.id
  createdAt : row.createdAt = now
  status : entry.status = some row.status
  httpStatus : row.httpStatus = entry.httpStatus
  texts : List.Forall₂ (fun v text => clip v = .ok text) entry.texts row.texts
  short : ∀ text, some text ∈ row.texts → utf16Length text ≤ 201
  unsettled : row.success = none ∧ row.revertReason = none ∧ row.txHash = none ∧ row.settledAt = none

/-- Two rows that differ at most in the columns that `settle` writes. -/
def SameRequest (row row' : Row) : Prop :=
  row' = { row with success := row'.success, revertReason := row'.revertReason,
                    txHash := row'.txHash, settledAt := row'.settledAt }

/-- Row by row, `settle` changes only the row with the id, and there only its own columns. -/
def Settles (id : ℕ) (log log' : Store) : Prop :=
  List.Forall₂ (fun row row' => SameRequest row row' ∧ (row.id ≠ id → row' = row)) log.rows log'.rows

/-- A call that leaves the row without a transaction hash. -/
def Call.TakesBack (id : ℕ) : Call → Prop
  | .record _ _ => False
  | .settle _ id' outcome => id' = id ∧ clip outcome.transactionHash = .ok none

/-! ## Texts -/

theorem utf16Length_append (a b : String) : utf16Length (a ++ b) = utf16Length a + utf16Length b := by
  simp [utf16Length]

theorem utf16Length_utf16Take (n : ℕ) (cs : List Char) :
    utf16Length (String.ofList (utf16Take n cs)) ≤ n := by
  induction cs generalizing n with
  | nil => simp [utf16Take, utf16Length]
  | cons c cs ih =>
    unfold utf16Take
    split_ifs with hzero hsmall hone
    · simp [utf16Length]
    · have := ih (n - 1)
      simp only [utf16Length, String.toList_ofList] at this
      simp only [utf16Length, String.toList_ofList, List.map_cons, List.sum_cons, hsmall, if_true]
      omega
    · -- half a pair is one unit, the replacement character
      rw [hone]
      exact le_refl 1
    · have := ih (n - 2)
      simp only [utf16Length, String.toList_ofList] at this
      simp only [utf16Length, String.toList_ofList, List.map_cons, List.sum_cons, hsmall, if_false]
      omega

theorem utf16Length_clipText (text : String) : utf16Length (clipText text) ≤ 201 := by
  unfold clipText
  split_ifs with h
  · have htake := utf16Length_utf16Take maxField text.toList
    have hmark : utf16Length "…" = 1 := rfl
    have hmax : maxField = 200 := rfl
    rw [utf16Length_append, hmark]
    omega
  · have hmax : maxField = 200 := rfl
    omega

/-- Every text that `clip` returns fits. -/
theorem utf16Length_of_clip {v : Option Json} {text : String} (h : clip v = .ok (some text)) :
    utf16Length text ≤ 201 := by
  unfold clip at h
  split at h
  · cases h
  · cases h
  · split at h
    · cases h
      exact utf16Length_clipText _
    · cases h

theorem TextOrNull.writable {v : Option Json} (h : TextOrNull v) : Writable v := by
  rintro w rfl
  rcases h with h | h | ⟨text, h⟩
  · cases h
  · cases h
    rfl
  · cases h
    rfl

/-! ## One call -/

theorem exists_of_mem_right {α β : Type} {R : α → β → Prop} {as : List α} {bs : List β} {b : β}
    (h : List.Forall₂ R as bs) (hb : b ∈ bs) : ∃ a, R a b := by
  induction h with
  | nil => cases hb
  | cons hab _ ih =>
    rcases List.mem_cons.mp hb with rfl | hb
    · exact ⟨_, hab⟩
    · exact ih hb

variable {log log' : Store} {now : ℤ} {entry : Entry}

theorem record_spec {id : ℕ} (h : log.record now entry = .ok (id, log')) :
    ∃ row, row.id = id ∧ Records log now entry row log' := by
  simp only [Store.record, bind_eq_ok] at h
  obtain ⟨userSub, hsub, method, hmethod, userOpHash, hhash, sender, hsender, target, htarget, owner,
    howner, innerCall, hinner, storedValue, hstored, error, herror, h⟩ := h
  split at h
  · cases h
  rename_i status hstatus
  cases h
  have htexts : List.Forall₂ (fun v text => clip v = .ok text) entry.texts
      [userSub, method, userOpHash, sender, target, owner, innerCall, storedValue, error] := by
    simp only [Entry.texts, List.forall₂_cons]
    exact ⟨hsub, hmethod, hhash, hsender, htarget, howner, hinner, hstored, herror, List.Forall₂.nil⟩
  refine ⟨_, rfl, { rows := rfl, fresh := ?_, createdAt := rfl, status := hstatus, httpStatus := rfl,
                    texts := htexts, short := ?_, unsettled := ⟨rfl, rfl, rfl, rfl⟩ }⟩
  · intro other hother
    have := log.id_le other hother
    show other.id < log.seq + 1
    omega
  · intro text htext
    obtain ⟨v, hv⟩ := exists_of_mem_right htexts htext
    exact utf16Length_of_clip hv

theorem record_eq_ok (now : ℤ) (hstatus : entry.status ≠ none)
    (htexts : ∀ v ∈ entry.texts, TextOrNull v) : ∃ id log', log.record now entry = .ok (id, log') := by
  have hclip : ∀ v ∈ entry.texts, ∃ text, clip v = .ok text := fun v hv =>
    clip_eq_ok.mpr (htexts v hv).writable
  simp only [Entry.texts, List.forall_mem_cons] at hclip
  obtain ⟨⟨_, hsub⟩, ⟨_, hmethod⟩, ⟨_, hhash⟩, ⟨_, hsender⟩, ⟨_, htarget⟩, ⟨_, howner⟩, ⟨_, hinner⟩,
    ⟨_, hstored⟩, ⟨_, herror⟩, -⟩ := hclip
  obtain ⟨status, hstatus⟩ := Option.ne_none_iff_exists'.mp hstatus
  simp only [Store.record, hsub, hmethod, hhash, hsender, htarget, howner, hinner, hstored, herror,
    hstatus]
  exact ⟨_, _, rfl⟩

theorem record_of_texts (now : ℤ) (hstatus : entry.status ≠ none)
    (htexts : ∀ v ∈ entry.texts, TextOrNull v) :
    ∃ row log', log.record now entry = .ok (row.id, log') ∧ Records log now entry row log' := by
  obtain ⟨id, log', h⟩ := record_eq_ok now hstatus htexts
  obtain ⟨row, rfl, hrecords⟩ := record_spec h
  exact ⟨row, log', h, hrecords⟩

theorem sameRequest_refl (row : Row) : SameRequest row row := rfl

theorem sameRequest_settledAs (row : Row) (id : ℕ) (outcome : Outcome) :
    SameRequest row (row.settledAs id outcome) := by
  unfold Row.settledAs
  split <;> rfl

theorem SameRequest.id_eq {a b : Row} (h : SameRequest a b) : b.id = a.id := by
  rw [h]

theorem SameRequest.status_eq {a b : Row} (h : SameRequest a b) : b.status = a.status := by
  rw [h]

theorem SameRequest.userOpHash_eq {a b : Row} (h : SameRequest a b) :
    b.userOpHash = a.userOpHash := by
  rw [h]

theorem SameRequest.trans {a b c : Row} (hab : SameRequest a b) (hbc : SameRequest b c) :
    SameRequest a c := by
  unfold SameRequest at *
  rw [hbc, hab]

/-- What a call of `settle` that returns has done. -/
theorem settle_eq_ok {id : ℕ} {outcome : Settlement} (h : log.settle now id outcome = .ok log') :
    ∃ written : Outcome, log' = log.update id written ∧ clip outcome.transactionHash = .ok written.txHash := by
  simp only [Store.settle, bind_eq_ok] at h
  obtain ⟨revertReason, -, txHash, htx, h⟩ := h
  cases h
  exact ⟨_, rfl, htx⟩

theorem settle_spec {id : ℕ} {outcome : Settlement} (h : log.settle now id outcome = .ok log') :
    Settles id log log' := by
  obtain ⟨written, rfl, -⟩ := settle_eq_ok h
  show List.Forall₂ _ log.rows (log.rows.map _)
  rw [List.forall₂_map_right_iff, List.forall₂_same]
  intro row _
  refine ⟨sameRequest_settledAs row id written, fun hid => ?_⟩
  rw [Row.settledAs, if_neg hid]

/-! ## The queries -/

theorem Store.nodup (log : Store) : (log.rows.map (·.id)).Nodup :=
  log.increasing.imp fun h => h.ne

theorem nodup_awaiting (log : Store) : ((log.rows.filter Row.awaiting).map (·.id)).Nodup :=
  log.nodup.sublist (List.filter_sublist.map _)

theorem selectNewest_of_pos {rows : List Row} {n : ℤ} (hpos : 1 ≤ n) (hlt : n < 2 ^ 63) :
    selectNewest rows n = .ok (newest (·.id) n.toNat rows) := by
  unfold selectNewest
  rw [if_pos ⟨by omega, hlt⟩, if_neg (by omega)]

/-! ## Two states of the log -/

/-- A row and what it was. -/
structure Kept (calls : List Call) (row row' : Row) : Prop where
  request : SameRequest row row'
  success : row'.success = none → row.success = none
  txHash : row'.txHash = none →
    row.txHash = none ∨ (row'.success ≠ none ∧ ∃ call ∈ calls, call.TakesBack row.id)

/-- What `calls` made of a log: its rows are still there, and the others are new. -/
structure Since (calls : List Call) (log log' : Store) : Prop where
  seq_le : log.seq ≤ log'.seq
  ids : log.rows.map (·.id) <+: log'.rows.map (·.id)
  rows : ∀ row' ∈ log'.rows, log.seq < row'.id ∨ ∃ row ∈ log.rows, row.id = row'.id ∧ Kept calls row row'

theorem Kept.refl (calls : List Call) (row : Row) : Kept calls row row :=
  ⟨sameRequest_refl row, id, Or.inl⟩

theorem Kept.trans {calls calls' : List Call} {a b c : Row} (hab : Kept calls a b)
    (hbc : Kept calls' b c) : Kept (calls ++ calls') a c where
  request := hab.request.trans hbc.request
  success h := hab.success (hbc.success h)
  txHash h := by
    rcases hbc.txHash h with hb | ⟨hsuccess, call, hcall, htakes⟩
    · rcases hab.txHash hb with ha | ⟨hsuccess, call, hcall, htakes⟩
      · exact Or.inl ha
      · exact Or.inr ⟨fun hc => hsuccess (hbc.success hc), call, List.mem_append_left _ hcall, htakes⟩
    · rw [hab.request.id_eq] at htakes
      exact Or.inr ⟨hsuccess, call, List.mem_append_right _ hcall, htakes⟩

theorem Since.refl (calls : List Call) (log : Store) : Since calls log log :=
  ⟨le_refl _, List.prefix_rfl, fun row hrow => Or.inr ⟨row, hrow, rfl, Kept.refl calls row⟩⟩

theorem Since.trans {calls calls' : List Call} {a b c : Store} (hab : Since calls a b)
    (hbc : Since calls' b c) : Since (calls ++ calls') a c where
  seq_le := hab.seq_le.trans hbc.seq_le
  ids := hab.ids.trans hbc.ids
  rows row hrow := by
    have hle := hab.seq_le
    rcases hbc.rows row hrow with hnew | ⟨row', hrow', hid', hkept'⟩
    · exact Or.inl (by omega)
    · rcases hab.rows row' hrow' with hnew | ⟨row'', hrow'', hid'', hkept''⟩
      · exact Or.inl (by omega)
      · exact Or.inr ⟨row'', hrow'', hid''.trans hid', hkept''.trans hkept'⟩

theorem since_insert (calls : List Call) (log : Store) (row : Row) :
    Since calls log (log.insert row) where
  seq_le := Nat.le_succ _
  ids := by
    show _ <+: (log.rows ++ [_]).map _
    rw [List.map_append]
    exact List.prefix_append _ _
  rows row' hrow' := by
    rcases List.mem_append.mp hrow' with hrow' | hrow'
    · exact Or.inr ⟨row', hrow', rfl, Kept.refl calls row'⟩
    · cases List.mem_singleton.mp hrow'
      exact Or.inl (Nat.lt_succ_self _)

theorem since_update {id : ℕ} {outcome : Settlement} {written : Outcome}
    (htx : clip outcome.transactionHash = .ok written.txHash) :
    Since [.settle now id outcome] log (log.update id written) where
  seq_le := le_refl _
  ids := by
    show _ <+: (log.rows.map _).map _
    rw [List.map_map]
    simp only [Function.comp_def, Row.settledAs_id]
    exact List.prefix_rfl
  rows row' hrow' := by
    obtain ⟨row, hrow, rfl⟩ := List.mem_map.mp hrow'
    refine Or.inr ⟨row, hrow, by simp, sameRequest_settledAs row id written, ?_, ?_⟩
    · intro hnone
      by_cases hid : row.id = id
      · simp [Row.settledAs, hid, Row.settled] at hnone
      · rwa [Row.settledAs, if_neg hid] at hnone
    · intro hnone
      by_cases hid : row.id = id
      · right
        rw [Row.settledAs, if_pos hid] at hnone ⊢
        have hwritten : written.txHash = none := hnone
        refine ⟨by simp [Row.settled], _, List.mem_singleton_self _, hid.symm, ?_⟩
        rw [htx, hwritten]
      · left
        rwa [Row.settledAs, if_neg hid] at hnone

theorem since_perform (log : Store) (call : Call) : Since [call] log (log.perform call) := by
  cases call with
  | record now entry =>
    simp only [Store.perform]
    split
    · rename_i id log' h
      -- a row is inserted, whatever it holds
      simp only [Store.record, bind_eq_ok] at h
      obtain ⟨_, -, _, -, _, -, _, -, _, -, _, -, _, -, _, -, _, -, h⟩ := h
      split at h
      · cases h
      · cases h
        exact since_insert _ log _
    · exact Since.refl _ log
  | settle now id outcome =>
    simp only [Store.perform]
    split
    · rename_i log' h
      obtain ⟨written, rfl, htx⟩ := settle_eq_ok h
      exact since_update htx
    · exact Since.refl _ log

/-- What any calls made of the log, by induction on the calls. -/
theorem since_after (log : Store) (calls : List Call) : Since calls log (log.after calls) := by
  induction calls generalizing log with
  | nil => exact Since.refl [] log
  | cons call calls ih => exact (since_perform log call).trans (ih (log.perform call))

/-- A row that the history shows and that was there before is one of the newest rows of then
    that meet `p`, if it met `p`. -/
theorem mem_newest_before {calls : List Call} {n : ℕ} {row row' : Row} (h : Since calls log log')
    (p : Row → Bool) (hshown : row' ∈ newest (·.id) n log'.rows) (hrow : row ∈ log.rows)
    (hid : row.id = row'.id) (hp : p row = true) :
    row ∈ newest (·.id) n (log.rows.filter p) := by
  have hsub : ((log.rows.filter p).map (·.id)).Sublist (log'.rows.map (·.id)) :=
    (List.filter_sublist.map _).trans h.ids.sublist
  exact mem_newest_of_sublist log'.nodup hsub hshown (List.mem_filter.mpr ⟨hrow, hp⟩) hid

/-- A row that awaits its receipt awaited it before, unless its transaction was taken back. -/
theorem Kept.awaiting {calls : List Call} {row row' : Row} (h : Kept calls row row')
    (hawaiting : row'.awaiting = true) :
    row.awaiting = true ∨ (row'.success ≠ none ∧ ∃ call ∈ calls, call.TakesBack row.id) := by
  simp only [Row.awaiting, Bool.and_eq_true, Bool.or_eq_true, Option.isNone_iff_eq_none,
    h.request.status_eq, h.request.userOpHash_eq] at hawaiting ⊢
  obtain ⟨hsent, hopen⟩ := hawaiting
  rcases hopen with hsuccess | htx
  · exact Or.inl ⟨hsent, Or.inl (h.success hsuccess)⟩
  · rcases h.txHash htx with htx | htaken
    · exact Or.inl ⟨hsent, Or.inr htx⟩
    · exact Or.inr htaken

/-! ## The result -/

/-- What the log shows for a limit `n`: `shown` are the newest rows, `tried` the newest rows
    that await a receipt, and a row of the former that awaits one is among the latter. -/
structure Shows (log : Store) (n : ℤ) (shown tried : List Row) : Prop where
  recent : log.recent n = .ok (shown.map toEntry)
  newest : IsNewest (·.id) n.toNat log.rows shown
  pending : log.pending n = .ok (tried.map fun row => (row.id, row.userOpHash))
  newestAwaiting : IsNewest (·.id) n.toNat (log.rows.filter Row.awaiting) tried
  covered : ∀ row ∈ shown, row.awaiting = true → row ∈ tried

theorem shows_newest (log : Store) {n : ℤ} (hpos : 1 ≤ n) (hlt : n < 2 ^ 63) :
    Shows log n (newest (·.id) n.toNat log.rows)
      (newest (·.id) n.toNat (log.rows.filter Row.awaiting)) where
  recent := by rw [Store.recent, selectNewest_of_pos hpos hlt]; rfl
  newest := isNewest_newest log.nodup _
  pending := by rw [Store.pending, selectNewest_of_pos hpos hlt]; rfl
  newestAwaiting := isNewest_newest (nodup_awaiting log) _
  covered row hrow hawaiting :=
    mem_newest_before (Since.refl [] log) Row.awaiting hrow ((mem_newest log.nodup).mp hrow).1 rfl
      hawaiting

/-- The requests of `settlePending` are those of the rows that `pending` gives. -/
theorem Shows.settlePending {n : ℤ} {shown tried : List Row} (h : Shows log n shown tried) :
    (log.settlePending n).map (·.map Prod.fst) = .ok (tried.map (·.id)) := by
  rw [Store.settlePending, h.pending]
  simp [Except.map]

/-- A row that the history shows after any calls was tried before them, or is new, or its
    transaction hash was taken back by one of them. -/
theorem tried_of_shown (log : Store) (calls : List Call) (n : ℕ) {row' : Row}
    (hshown : row' ∈ newest (·.id) n (log.after calls).rows) (hawaiting : row'.awaiting = true) :
    row'.id ∉ log.rows.map (·.id) ∨
      (∃ row ∈ newest (·.id) n (log.rows.filter Row.awaiting),
        row.id = row'.id ∧ row.userOpHash = row'.userOpHash) ∨
      (row'.success ≠ none ∧ ∃ call ∈ calls, call.TakesBack row'.id) := by
  have hsince := since_after log calls
  rcases hsince.rows row' ((mem_newest (log.after calls).nodup).mp hshown).1 with hnew | hold
  · left
    intro hmem
    obtain ⟨row, hrow, hid⟩ := List.mem_map.mp hmem
    have := log.id_le row hrow
    omega
  · right
    obtain ⟨row, hrow, hid, hkept⟩ := hold
    rcases hkept.awaiting hawaiting with hbefore | ⟨hsuccess, htaken⟩
    · exact Or.inl ⟨row, mem_newest_before hsince _ hshown hrow hid hbefore, hid,
        hkept.request.userOpHash_eq.symm⟩
    · exact Or.inr ⟨hsuccess, hid ▸ htaken⟩

/-- The log after any calls, whatever the file held: ids only grow and keep their rows, `record`
    of texts adds its row, `settle` changes its row, the queries show what they should, and
    what the history shows after any further calls has been tried before them. -/
theorem writeLog_spec (start : Store) (calls : List Call) :
    start.rows.map (·.id) <+: (start.after calls).rows.map (·.id) ∧
    ((start.after calls).rows.map (·.id)).Pairwise (· < ·) ∧
    (∀ (now : ℤ) (entry : Entry), entry.status ≠ none → (∀ v ∈ entry.texts, TextOrNull v) →
      ∃ row log', (start.after calls).record now entry = .ok (row.id, log') ∧
        Records (start.after calls) now entry row log') ∧
    (∀ (now : ℤ) (id : ℕ) (outcome : Settlement) (log' : Store),
      (start.after calls).settle now id outcome = .ok log' → Settles id (start.after calls) log') ∧
    ∀ n : ℤ, 1 ≤ n → n < 2 ^ 63 → ∃ shown tried, Shows (start.after calls) n shown tried ∧
      ((start.after calls).settlePending n).map (·.map Prod.fst) = .ok (tried.map (·.id)) ∧
      ∀ further : List Call, ∃ shown' tried',
        Shows ((start.after calls).after further) n shown' tried' ∧
        ∀ row' ∈ shown', row'.awaiting = true →
          row'.id ∉ (start.after calls).rows.map (·.id) ∨
          (∃ row ∈ tried, row.id = row'.id ∧ row.userOpHash = row'.userOpHash) ∨
          (row'.success ≠ none ∧ ∃ call ∈ further, call.TakesBack row'.id) := by
  refine ⟨(since_after start calls).ids, (start.after calls).increasing,
    fun now entry hstatus htexts => record_of_texts now hstatus htexts,
    fun now id outcome log' h => settle_spec h, ?_⟩
  intro n hpos hlt
  have hshows := shows_newest (start.after calls) hpos hlt
  refine ⟨_, _, hshows, hshows.settlePending, fun further => ?_⟩
  refine ⟨_, _, shows_newest _ hpos hlt, fun row' hshown hawaiting => ?_⟩
  exact tried_of_shown _ further _ hshown hawaiting

/-! ## What the log does not do -/

/-- An entry with a user operation hash. -/
def sampleEntry (status : Option String) : Entry where
  userSub := some (.str "user")
  status := status
  method := none
  userOpHash := some (.str "0xf1")
  sender := none
  target := none
  owner := none
  innerCall := none
  storedValue := none
  httpStatus := some 200
  error := none

/-- A write that was sent and settled, with the hash of its transaction. -/
def settledLog : Store := Store.empty.after
  [.record 1 (sampleEntry (some "sent")),
   .settle 2 1 { success := some (.bool true), transactionHash := some (.str "0xf2") }]

/-- A second request settles the same row from a receipt without a transaction hash. -/
def secondSettle : List Call := [.settle 3 1 { success := some (.bool true) }]

/-- An entry with a null status is not recorded, a limit of more than 64 bits is refused, and a
    row that was not pending is displayed as one that awaits its receipt. -/
theorem writeLog_exceptions :
    Store.empty.record 0 (sampleEntry none) =
      .error (sqliteError "NOT NULL constraint failed: userop_log.status") ∧
    Store.empty.recent (2 ^ 63) = .error (sqliteError "datatype mismatch") ∧
    (settledLog.pending 1 = .ok [] ∧ settledLog.rows.map (·.id) = [1] ∧
      ∃ row, (settledLog.after secondSettle).recent 1 = .ok [toEntry row] ∧ row.id = 1 ∧
        row.awaiting = true) := by
  refine ⟨rfl, ?_, ?_, rfl, ?_⟩
  · rw [Store.recent, selectNewest, if_neg (by norm_num)]
    rfl
  · rw [Store.pending, selectNewest_of_pos (by norm_num) (by norm_num)]
    rfl
  · rw [Store.recent, selectNewest_of_pos (by norm_num) (by norm_num)]
    exact ⟨_, rfl, rfl, rfl⟩

/-! ## The entries of the proxy -/

/-- The texts that `handleBundler` writes. -/
def statusText : WriteStatus → String
  | .rejected => "rejected"
  | .failed => "failed"
  | .sent => "sent"

/-- An entry as `handleBundler` passes it. -/
def ofLogEntry (entry : LogEntry) : Entry where
  userSub := some (.str entry.userSub)
  status := some (statusText entry.status)
  method := entry.method
  userOpHash := entry.userOpHash.map .str
  sender := entry.sender
  target := entry.target.map .str
  owner := entry.owner.map .str
  innerCall := entry.innerCall.map .str
  storedValue := entry.storedValue.map .str
  httpStatus := some entry.httpStatus
  error := entry.error

/-- The row of the table for a row of `record`. -/
def ofLogRow (id : ℕ) (row : LogRow) : Row where
  id := id
  createdAt := row.createdAt
  userSub := row.userSub
  status := statusText row.status
  method := row.method
  userOpHash := row.userOpHash
  sender := row.sender
  target := row.target
  owner := row.owner
  innerCall := row.innerCall
  storedValue := row.storedValue
  httpStatus := some row.httpStatus
  error := row.error

/-- An entry of the proxy is inserted as the row that the proxy's `record` makes of it, and is
    refused where that throws. -/
theorem record_ofLogEntry (log : Store) (now : ℤ) (entry : LogEntry) :
    log.record now (ofLogEntry entry) = (Proxy.record now entry).map fun row =>
      (log.seq + 1, log.insert (ofLogRow (log.seq + 1) row)) := by
  unfold Store.record Proxy.record ofLogEntry
  simp only [bind, Except.bind, clip_str]
  cases clip entry.method with
  | error err => rfl
  | ok method =>
  cases clip (entry.userOpHash.map .str) with
  | error err => rfl
  | ok userOpHash =>
  cases clip entry.sender with
  | error err => rfl
  | ok sender =>
  cases clip (entry.target.map .str) with
  | error err => rfl
  | ok target =>
  cases clip (entry.owner.map .str) with
  | error err => rfl
  | ok owner =>
  cases clip (entry.innerCall.map .str) with
  | error err => rfl
  | ok innerCall =>
  cases clip (entry.storedValue.map .str) with
  | error err => rfl
  | ok storedValue =>
  cases clip entry.error with
  | error err => rfl
  | ok error => rfl

end AccountAbstraction.WriteLog
