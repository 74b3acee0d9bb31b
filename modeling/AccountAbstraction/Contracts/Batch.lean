import AccountAbstraction.Contracts.Account
import AccountAbstraction.Sequence

/-!
# Batches of calls

`executeBatch` (`src/LnetAccount.sol:65-77`) on a world with arbitrary callees, which may
call the account again. A call is `msg.sender`, the arguments and the world before it;
gas is not modelled.

* `executeBatch_spec`: when a batch succeeds, and what it leaves and returns in each case.
-/

namespace AccountAbstraction.Contracts

open Js Abi

/-! ## Calls and reverts -/

/-- The account on a chain with the worlds `σ`. -/
structure Setting (σ : Type) where
  /-- The storage of the account. -/
  account : σ → LnetAccount
  /-- `target.call{value: value}(data)`: the data it returns and the world it leaves, or the
      data it reverts with. -/
  callee : (target : Address) → (value : ℕ) → (data : Bytes) → σ → Except Bytes (Bytes × σ)

/-- The body of a function: it may revert with some data, after effects on the world. -/
abbrev Exec (σ : Type) := EStateM Bytes σ

/-- What a call gives its caller. -/
structure Outcome (σ : Type) where
  success : Bool
  returnData : Bytes
  world : σ

/-- A call of a function that returns nothing. A revert undoes its effects. -/
def external {σ : Type} (body : Exec σ PUnit) (world : σ) : Outcome σ :=
  match body world with
  | .ok _ world' => ⟨true, [], world'⟩
  | .error data _ => ⟨false, data, world⟩

/-- `abi.encodeWithSignature("Error(string)", reason)`. -/
def errorData (reason : String) : Bytes := bigEndian 4 0x08c379a0 ++ encode [.bytes (asciiBytes reason)]

/-- `abi.encodeWithSignature("Panic(uint256)", code)`. -/
def panicData (code : ℕ) : Bytes := bigEndian 4 0x4e487b71 ++ encode [.uint code]

/-- `require(condition, reason)`. -/
def require {σ : Type} (condition : Bool) (reason : String) : Exec σ PUnit :=
  if condition then pure ⟨⟩ else throw (errorData reason)

/-- `xs[i]` -/
def index {σ α : Type} (xs : List α) (i : ℕ) : Exec σ α :=
  match xs[i]? with
  | some x => pure x
  | none => throw (panicData 0x32)

variable {σ : Type} (logic : Logic) (chain : Setting σ) (sender : Address)

/-- `target.call{value: value}(data)`. A call that reverts leaves the world as it was. -/
def Setting.lowLevelCall (target : Address) (value : ℕ) (data : Bytes) : Exec σ (Bool × Bytes) :=
  fun world =>
    match chain.callee target value data world with
    | .ok (result, world') => .ok (true, result) world'
    | .error result => .ok (false, result) world

/-! ## The account -/

/-- `_call` (lines 109-116). -/
def Setting.call (target : Address) (value : ℕ) (data : Bytes) : Exec σ PUnit := do
  let (success, result) ← chain.lowLevelCall target value data
  if !success then throw result

/-- `_requireFromEntryPointOrOwner` (lines 91-93). -/
def Setting.requireFromEntryPointOrOwner : Exec σ PUnit := do
  let account := chain.account (← get)
  require (account.requireFromEntryPointOrOwner logic sender) "account: not Owner or EntryPoint"

/-- `executeBatch` (lines 65-77). -/
def Setting.executeBatch (dest : List Address) (value : List (Uint 256)) (func : List Bytes) :
    Exec σ PUnit := do
  chain.requireFromEntryPointOrOwner logic sender
  require (dest.length = func.length && (value.length = 0 || value.length = func.length))
    "wrong array lengths"
  if value.length = 0 then
    forM (List.range dest.length) fun i => do
      chain.call (← index dest i) 0 (← index func i)
  else
    forM (List.range dest.length) fun i => do
      chain.call (← index dest i) (← index value i).val (← index func i)

/-! ## Specification -/

/-- The calls of a batch: the target, the value, or 0 where there are no values, and the data. -/
def batch (dest : List Address) (value : List (Uint 256)) (func : List Bytes) :
    List (Address × ℕ × Bytes) :=
  dest.zip (if value = [] then func.map fun data => (0, data) else (value.map Fin.val).zip func)

/-- One call of a batch. -/
def Setting.perform (c : Address × ℕ × Bytes) : Exec σ PUnit := chain.call c.1 c.2.1 c.2.2

/-- The calls take one world to another, in order and each once. -/
def Setting.Performs (calls : List (Address × ℕ × Bytes)) (world world' : σ) : Prop :=
  Sequence chain.perform calls world world'

/-- The arrays have the lengths that `executeBatch` asks for. -/
def ArrayLengths (dest : List Address) (value : List (Uint 256)) (func : List Bytes) : Prop :=
  dest.length = func.length ∧ (value = [] ∨ value.length = func.length)

instance arrayLengths_decidable (dest : List Address) (value : List (Uint 256)) (func : List Bytes) :
    Decidable (ArrayLengths dest value func) := inferInstanceAs (Decidable (_ ∧ _))

/-! ## Calls -/

variable {logic chain sender} {dest : List Address} {value : List (Uint 256)} {func : List Bytes}
  {world world' : σ}

theorem call_run (target : Address) (amount : ℕ) (data : Bytes) (world : σ) :
    chain.call target amount data world =
      match chain.callee target amount data world with
      | .ok (_, world') => .ok ⟨⟩ world'
      | .error result => .error result world := by
  show EStateM.bind (chain.lowLevelCall target amount data) _ world = _
  unfold EStateM.bind Setting.lowLevelCall
  cases chain.callee target amount data world with
  | error result => rfl
  | ok p => rfl

/-- A call fails with what its callee returns, and leaves the world as it was. -/
theorem call_eq_error {target : Address} {amount : ℕ} {data revertData : Bytes} :
    chain.call target amount data world = .error revertData world' ↔
      chain.callee target amount data world = .error revertData ∧ world' = world := by
  rw [call_run]
  cases chain.callee target amount data world with
  | error result => simp [eq_comm]
  | ok p => simp

/-! ## The loops -/

theorem index_of_lt {α : Type} {xs : List α} {i : ℕ} (h : i < xs.length) :
    (index xs i : Exec σ α) = pure xs[i] := by
  rw [index, List.getElem?_eq_getElem h]

theorem batch_nil (dest : List Address) (func : List Bytes) :
    batch dest [] func = dest.zip (func.map fun data => (0, data)) := by
  rw [batch, if_pos rfl]

theorem batch_of_ne_nil (dest : List Address) (func : List Bytes) (h : value ≠ []) :
    batch dest value func = dest.zip ((value.map Fin.val).zip func) := by
  rw [batch, if_neg h]

/-- A batch has a call for every target. -/
theorem length_batch (h : ArrayLengths dest value func) :
    (batch dest value func).length = dest.length := by
  obtain ⟨hfunc, hvalue⟩ := h
  by_cases hnil : value = []
  · subst hnil
    simp [batch_nil, hfunc]
  · have hlength := hvalue.resolve_left hnil
    simp [batch_of_ne_nil dest func hnil, hfunc, hlength]

/-- The loop without values. -/
theorem loop_nil (h : dest.length = func.length) :
    (forM (List.range dest.length) fun i => do
      chain.call (← index dest i) 0 (← index func i) : Exec σ PUnit) =
      forM (batch dest [] func) chain.perform := by
  refine forM_range (length_batch ⟨h, Or.inl rfl⟩) fun i hi => ?_
  rw [length_batch ⟨h, Or.inl rfl⟩] at hi
  rw [index_of_lt hi, index_of_lt (h ▸ hi)]
  simp only [batch_nil, List.getElem_zip, List.getElem_map]
  rfl

/-- The loop with values. -/
theorem loop_values (hnil : value ≠ []) (h : dest.length = func.length)
    (hvalue : value.length = func.length) :
    (forM (List.range dest.length) fun i => do
      chain.call (← index dest i) (← index value i).val (← index func i) : Exec σ PUnit) =
      forM (batch dest value func) chain.perform := by
  refine forM_range (length_batch ⟨h, Or.inr hvalue⟩) fun i hi => ?_
  rw [length_batch ⟨h, Or.inr hvalue⟩] at hi
  rw [index_of_lt hi, index_of_lt (show i < value.length by omega), index_of_lt (h ▸ hi)]
  simp only [batch_of_ne_nil dest func hnil, List.getElem_zip, List.getElem_map]
  rfl

/-- The two loops are the loop over the batch. -/
theorem loop_eq (h : ArrayLengths dest value func) :
    (if value.length = 0 then
      forM (List.range dest.length) fun i => do
        chain.call (← index dest i) 0 (← index func i)
    else
      forM (List.range dest.length) fun i => do
        chain.call (← index dest i) (← index value i).val (← index func i) : Exec σ PUnit) =
      forM (batch dest value func) chain.perform := by
  by_cases hnil : value = []
  · subst hnil
    rw [if_pos List.length_nil]
    exact loop_nil h.1
  · rw [if_neg (by simpa using hnil)]
    exact loop_values hnil h.1 (h.2.resolve_left hnil)

theorem require_run (condition : Bool) (reason : String) (world : σ) :
    (require condition reason : Exec σ PUnit) world =
      if condition then .ok ⟨⟩ world else .error (errorData reason) world := by
  cases condition <;> rfl

theorem requireFromEntryPointOrOwner_run (world : σ) :
    chain.requireFromEntryPointOrOwner logic sender world =
      if (chain.account world).requireFromEntryPointOrOwner logic sender then .ok ⟨⟩ world
      else .error (errorData "account: not Owner or EntryPoint") world :=
  require_run _ _ world

theorem bind_run {α β : Type} (x : Exec σ α) (k : α → Exec σ β) (world : σ) :
    (x >>= k) world =
      match x world with
      | .ok a world' => k a world'
      | .error data world' => .error data world' := by
  show EStateM.bind x k world = _
  unfold EStateM.bind
  cases x world <;> rfl

/-- `executeBatch` after its checks is a loop over the batch. -/
theorem executeBatch_run (world : σ) :
    chain.executeBatch logic sender dest value func world =
      if (chain.account world).requireFromEntryPointOrOwner logic sender then
        if ArrayLengths dest value func then
          (forM (batch dest value func) chain.perform : Exec σ PUnit) world
        else .error (errorData "wrong array lengths") world
      else .error (errorData "account: not Owner or EntryPoint") world := by
  have hlengths : (dest.length = func.length && (value.length = 0 || value.length = func.length)) = true ↔
      ArrayLengths dest value func := by
    simp [ArrayLengths]
  rw [Setting.executeBatch, bind_run, requireFromEntryPointOrOwner_run]
  by_cases hsender : (chain.account world).requireFromEntryPointOrOwner logic sender = true
  · rw [if_pos hsender, if_pos hsender]
    show ((require _ _ : Exec σ PUnit) >>= _) world = _
    rw [bind_run, require_run]
    by_cases hok : ArrayLengths dest value func
    · rw [if_pos (hlengths.mpr hok), if_pos hok]
      exact congrFun (loop_eq hok) world
    · rw [if_neg (fun h => hok (hlengths.mp h)), if_neg hok]
  · rw [if_neg hsender, if_neg hsender]

/-! ## The result -/

theorem perform_eq_error {c : Address × ℕ × Bytes} {data : Bytes} :
    chain.perform c world = .error data world' ↔
      chain.callee c.1 c.2.1 c.2.2 world = .error data ∧ world' = world := call_eq_error

theorem external_of_ok {body : Exec σ PUnit} (h : body world = .ok ⟨⟩ world') :
    external body world = ⟨true, [], world'⟩ := by
  rw [external, h]

theorem external_of_error {body : Exec σ PUnit} {data : Bytes} (h : body world = .error data world') :
    external body world = ⟨false, data, world⟩ := by
  rw [external, h]

/-- A call that fails leaves the world as it was. -/
theorem external_world_of_failure {body : Exec σ PUnit} (h : (external body world).success = false) :
    (external body world).world = world := by
  unfold external at *
  split at h
  · cases h
  · rfl

theorem external_success_iff {body : Exec σ PUnit} :
    (external body world).success = true ↔ ∃ world', body world = .ok ⟨⟩ world' := by
  unfold external
  cases body world with
  | ok _ world' => simp
  | error data world' => simp

/-- The sender that `_requireFromEntryPointOrOwner` lets pass. -/
def FromEntryPointOrOwner (logic : Logic) (chain : Setting σ) (sender : Address) (world : σ) : Prop :=
  sender = logic.entryPoint ∨ sender = (chain.account world).owner

theorem requireFromEntryPointOrOwner_iff :
    (chain.account world).requireFromEntryPointOrOwner logic sender = true ↔
      FromEntryPointOrOwner logic chain sender world := by
  simp [LnetAccount.requireFromEntryPointOrOwner, FromEntryPointOrOwner]

/-- A batch ends without a revert when it passes the checks and its calls succeed. -/
theorem executeBatch_eq_ok :
    chain.executeBatch logic sender dest value func world = .ok ⟨⟩ world' ↔
      FromEntryPointOrOwner logic chain sender world ∧ ArrayLengths dest value func ∧
        chain.Performs (batch dest value func) world world' := by
  rw [executeBatch_run, ← requireFromEntryPointOrOwner_iff]
  split_ifs with hsender hlengths
  · rw [forM_eq_ok]
    simp [hsender, hlengths, Setting.Performs]
  · simp [hlengths]
  · simp [hsender]

/-- The call at an index of a batch. -/
theorem getElem?_batch (h : ArrayLengths dest value func) {i : ℕ} (hi : i < dest.length) :
    (batch dest value func)[i]? =
      some (dest[i], (value[i]?.map Fin.val).getD 0, func.get ⟨i, h.1 ▸ hi⟩) := by
  have hbatch : i < (batch dest value func).length := by
    rw [length_batch h]
    exact hi
  rw [List.getElem?_eq_getElem hbatch]
  by_cases hnil : value = []
  · subst hnil
    simp [batch_nil]
  · have hvalue : i < value.length := by
      have := h.2.resolve_left hnil
      have := h.1
      omega
    simp [batch_of_ne_nil dest func hnil, hvalue]

/-- A batch succeeds exactly when the EntryPoint or the owner calls, the arrays match and the
    calls succeed one after the other, and leaves what they leave. Otherwise the world stays as
    it was, and the first call that fails supplies the revert data. -/
theorem executeBatch_spec (logic : Logic) (chain : Setting σ) (sender : Address) (dest : List Address)
    (value : List (Uint 256)) (func : List Bytes) (world : σ) :
    ((external (chain.executeBatch logic sender dest value func) world).success = true ↔
      FromEntryPointOrOwner logic chain sender world ∧ ArrayLengths dest value func ∧
        ∃ world', chain.Performs (batch dest value func) world world') ∧
    ((external (chain.executeBatch logic sender dest value func) world).success = true →
      chain.Performs (batch dest value func) world
        (external (chain.executeBatch logic sender dest value func) world).world) ∧
    ((external (chain.executeBatch logic sender dest value func) world).success = false →
      (external (chain.executeBatch logic sender dest value func) world).world = world) ∧
    (FromEntryPointOrOwner logic chain sender world → ArrayLengths dest value func →
      (∀ (i : ℕ) (hi : i < dest.length) (hfunc : i < func.length),
        (batch dest value func)[i]? = some (dest[i], (value[i]?.map Fin.val).getD 0, func[i])) ∧
      (batch dest value func).length = dest.length ∧
      ∀ (k : ℕ) (c : Address × ℕ × Bytes) (worldₖ : σ) (data : Bytes),
        (batch dest value func)[k]? = some c →
        chain.Performs ((batch dest value func).take k) world worldₖ →
        chain.callee c.1 c.2.1 c.2.2 worldₖ = .error data →
        external (chain.executeBatch logic sender dest value func) world = ⟨false, data, world⟩) := by
  refine ⟨?_, ?_, external_world_of_failure, ?_⟩
  · rw [external_success_iff]
    simp only [executeBatch_eq_ok, exists_and_left]
  · intro hsuccess
    obtain ⟨world', hrun⟩ := external_success_iff.mp hsuccess
    rw [external_of_ok hrun]
    exact (executeBatch_eq_ok.mp hrun).2.2
  · intro hsender hlengths
    refine ⟨fun i hi _ => getElem?_batch hlengths hi, length_batch hlengths, ?_⟩
    intro k c worldₖ data hc hbefore hfail
    have hloop : (forM (batch dest value func) chain.perform : Exec σ PUnit) world =
        .error data worldₖ :=
      forM_eq_error.mpr ⟨k, c, worldₖ, hc, hbefore, perform_eq_error.mpr ⟨hfail, rfl⟩⟩
    have hrun : chain.executeBatch logic sender dest value func world = .error data worldₖ := by
      rw [executeBatch_run, if_pos (requireFromEntryPointOrOwner_iff.mpr hsender), if_pos hlengths,
        hloop]
    exact external_of_error hrun

/-! ## The plan of a batch -/

/-- The calls that the account plans for a batch are those that it performs. -/
theorem executeBatch_plan (logic : Logic) (account : LnetAccount) (sender : Address)
    (dest : List Address) (value : List (Uint 256)) (func : List Bytes) :
    account.executeBatch logic sender dest value func =
      if account.requireFromEntryPointOrOwner logic sender ∧ ArrayLengths dest value func then
        some ⟨account, (batch dest value func).map fun c => .call c.1 c.2.1 c.2.2, none⟩
      else none := by
  have hcalls : LnetAccount.batchCalls dest value func =
      (batch dest value func).map fun c => .call c.1 c.2.1 c.2.2 := by
    unfold LnetAccount.batchCalls batch
    split_ifs
    · rw [List.zip_eq_zipWith, List.map_zipWith, List.zipWith_map_right]
    · rw [List.zip_map_left]
      show List.zipWith _ dest _ = (List.zipWith Prod.mk dest _).map _
      rw [List.map_zipWith, List.zipWith_map_right]
      rfl
  unfold LnetAccount.executeBatch
  split_ifs with h₁ h₂ h₃ h₃ h₃ <;> simp_all [ArrayLengths]

end AccountAbstraction.Contracts
