import AccountAbstraction.Bundler.Invariant

/-!
# What an accepted op stands for

`sendUserOperation` resolves in two places: at once, when its hash is known, and behind
the simulation, when it filed the op. The first place asks neither what became of the item
it found nor whether it holds this op, and the second may file the op under a hash that is
in flight, whose end takes it out of the mempool again.

* `accepted_queued`: in a run in which a known hash never stands for a failed item or for
  another op, and no op is filed under a hash in flight, a call that resolves leaves its op
  in the mempool or included.
* `accepted_failed`: the resubmission of an op whose bundle failed.
* `rejectsAggregator_iff`: the rejection of signature aggregators holds in mode `required`
  and not in mode `try`.
-/

namespace AccountAbstraction.Bundler

open Js LnetBundler

/-! ## Resolved calls -/

/-- The op is in the mempool under the hash, or the history has it as included. -/
def Honoured (b : LnetBundler) (op : UserOp) (hash : Bytes32) : Prop :=
  (∃ k, b.mempool.get hash = some k ∧ b.opOf k = some op) ∨
    ∃ k, b.history.get hash = some k ∧ b.statusOf k = some .included ∧ b.opOf k = some op

/-- Every call of `sendUserOperation` that resolves in the step from `s` to `s'` has its op queued
    or included under the hash that it resolves to. -/
def ResolvesTruly (s s' : System) : Prop :=
  ∀ op hash, (op, hash) ∈ resolvedOps s s' → Honoured s'.bundler op hash

/-- The op that the event brings to the check for a known op, with its hash. -/
def checkedOp (s : System) : Event → Option (UserOp × Bytes32)
  | .hashReply i (.ok userOpHash) =>
    match s.sends[i]? with
    | some (.hashing _ op) => some (op, userOpHash)
    | _ => none
  | _ => none

/-- The check meets neither a failed item nor one of another op, and no op is filed under a hash
    in flight. -/
def AcceptanceSafe (env : Env) (s : System) (e : Event) : Prop :=
  NotInFlight env s e ∧
  ∀ checked ∈ checkedOp s e, ∀ k ∈ s.bundler.history.get checked.2,
    s.bundler.statusOf k ≠ some .failed ∧ s.bundler.opOf k = some checked.1

instance (env : Env) (s : System) (e : Event) : Decidable (AcceptanceSafe env s e) :=
  inferInstanceAs (Decidable (_ ∧ _))

/-- A pending item of the history is in the mempool. -/
def PendingQueued (b : LnetBundler) : Prop :=
  ∀ hash k, b.history.get hash = some k → b.statusOf k = some .pending →
    b.mempool.get hash = some k

theorem PendingQueued.enqueue {b : LnetBundler} (hp : PendingQueued b) (hb : Consistent b)
    (item : Item) : PendingQueued (b.enqueue item) := by
  intro hash k hget hstatus
  rw [get_history_enqueue] at hget
  rw [get_mempool_enqueue]
  split_ifs at hget ⊢ with heq
  · exact hget
  · rw [statusOf_enqueue_of_hashOf item (hb.history_hash hash k hget)] at hstatus
    exact hp hash k hget hstatus

/-- The end of a bundle takes no pending item of the history out of the mempool: what it takes
    out are the hashes of its own items, which are the history's. -/
theorem PendingQueued.settles {b b' : LnetBundler} {calls : List BundleCall} (hp : PendingQueued b)
    (hb : Consistent b) (hc : Current b calls) {j : ℕ} {call : BundleCall}
    (hcall : calls[j]? = some call) (hout : call.outstanding = true) {status : ItemStatus}
    (hstatus : status ≠ .pending) (h : Settles call.items status b b') : PendingQueued b' := by
  intro hash k hget hpending
  rw [h.history_eq] at hget
  have hhash := hb.history_hash hash k hget
  have hk : k ∉ call.items := by
    intro hk
    rw [h.statusOf_listed k hk hash hhash] at hpending
    exact hstatus (Option.some.inj hpending)
  rw [h.statusOf_unlisted hk] at hpending
  rw [h.mempool_unlisted hash]
  · exact hp hash k hget hpending
  · intro i hi hhash'
    have := hc j call hcall hout i hi hash hhash'
    rw [hget] at this
    cases this
    exact hk hi

theorem pendingQueued_step {env : Env} {s s' : System} {e : Event} (hb : Consistent s.bundler)
    (hc : Current s.bundler s.bundles) (hp : PendingQueued s.bundler) (h : Effect env s e s') :
    PendingQueued s'.bundler := by
  cases h with
  | inserted i entryPoint op userOpHash reply _ _ => exact hp.enqueue hb _
  | returned j call tx receipt b hcall hphase _ _ hcomplete =>
    obtain ⟨_, _, hsettles, _⟩ := complete_ok hcomplete
    exact hp.settles hb hc hcall (BundleCall.outstanding_of hphase rfl) (by simp) hsettles
  | threw _ j call b err hcall hout _ hsettles _ =>
    exact hp.settles hb hc hcall hout (by simp) hsettles
  | _ => exact hp

theorem pendingQueued_of_reach {env : Env} {s : System}
    (h : Reach (step env) (AcceptanceSafe env) System.init s) : PendingQueued s.bundler :=
  h.invariant_of (I := fun s => PendingQueued s.bundler)
    (fun _ hr => And.intro (consistent_of_reach hr) (current_of_reach (fun _ _ hok => hok.1) hr))
    (fun _ _ hget => by cases hget)
    fun _ _ _ hs hp _ hstep => pendingQueued_step hs.1 hs.2 hp (step_effect hstep)

/-- A known hash whose item is this op and not failed stands for it. -/
theorem honoured_of_known {b : LnetBundler} (hb : Consistent b) (hp : PendingQueued b) {op : UserOp}
    {hash : Bytes32} (hknown : b.isKnown hash = true)
    (hsame : ∀ k ∈ b.history.get hash, b.statusOf k ≠ some .failed ∧ b.opOf k = some op) :
    Honoured b op hash := by
  obtain ⟨k, hget⟩ : ∃ k, b.history.get hash = some k := by
    rw [isKnown, Bool.or_eq_true, OrderedMap.has_iff, OrderedMap.has_iff] at hknown
    rcases hknown with hhistory | ⟨k, hmempool⟩
    · exact hhistory
    · exact ⟨k, hb.mempool_history hash k hmempool⟩
  obtain ⟨hfailed, hop⟩ := hsame k hget
  obtain ⟨status, hstatus⟩ := exists_statusOf (hb.history_hash hash k hget)
  cases status with
  | pending => exact .inl ⟨k, hp hash k hget hstatus, hop⟩
  | included => exact .inr ⟨k, hget, hstatus, hop⟩
  | failed => exact absurd hstatus hfailed

/-- An op that was just filed is queued. -/
theorem honoured_enqueue (b : LnetBundler) (userOpHash : Bytes32) (op : UserOp) (entryPoint : AddressText) :
    Honoured (b.enqueue (newItem userOpHash op entryPoint)) op userOpHash :=
  .inl ⟨_, OrderedMap.get_set_self _ _ _, by rw [opOf_enqueue, if_pos rfl]; rfl⟩

/-- In a run in which the check never meets a failed item or one of another op, and no op is filed
    under a hash in flight, a call of `sendUserOperation` resolves only if its op is queued or
    included. -/
theorem accepted_queued {env : Env} {s s' : System} {e : Event}
    (h : Reach (step env) (AcceptanceSafe env) System.init s) (hok : AcceptanceSafe env s e)
    (hstep : step env s e = some s') : ResolvesTruly s s' := by
  have hb := consistent_of_reach h
  have hp := pendingQueued_of_reach h
  intro op hash hmem
  have heffect := step_effect hstep
  rw [mem_resolvedOps_iff heffect] at hmem
  cases heffect with
  | known i entryPoint op' hash' hcall hknown =>
    simp only [acceptedOp, hcall, hknown, if_true, Option.some.injEq, Prod.mk.injEq] at hmem
    obtain ⟨rfl, rfl⟩ := hmem
    refine honoured_of_known hb hp hknown (hok.2 (op', hash') ?_)
    simp [checkedOp, hcall]
  | checked i entryPoint op' hash' hcall hnew => simp [acceptedOp, hcall, hnew] at hmem
  | refused i entryPoint op' hash' reply err hcall hinvalid =>
    simp [acceptedOp, hcall, hinvalid, Except.isOk, Except.toBool] at hmem
  | inserted i entryPoint op' hash' reply hcall hvalid =>
    simp [acceptedOp, hcall, hvalid, Except.isOk, Except.toBool] at hmem
    obtain ⟨rfl, rfl⟩ := hmem
    exact honoured_enqueue s.bundler hash' op' entryPoint
  | threw e j call b err hcall hphase he =>
    cases e with
    | submitReply _ _ => cases hmem
    | waitReply _ _ => cases hmem
    | _ => cases he
  | _ => cases hmem

/-- The op is submitted again while its bundle is in flight: the call resolves at once, and the op
    is in the mempool. -/
theorem accepted_queued_sample : ∃ s s' : System,
    step (sampleEnv .try') s (.hashReply 1 (.ok sampleHash)) = some s' ∧
    (sampleOp, sampleHash) ∈ resolvedOps s s' ∧ Honoured s'.bundler sampleOp sampleHash := by
  obtain ⟨s, hreach, hs⟩ := Reach.exists_of_guardedRun (step (sampleEnv .try'))
    (AcceptanceSafe (sampleEnv .try')) System.init
    (sampleBundle ++ [.sendUserOperation (sampleParams "0x1111111111111111111111111111111111111111")])
    (fun s => AcceptanceSafe (sampleEnv .try') s (.hashReply 1 (.ok sampleHash)) &&
      (step (sampleEnv .try') s (.hashReply 1 (.ok sampleHash))).any fun s' =>
        (resolvedOps s s').contains (sampleOp, sampleHash)) (by decide +kernel)
  rw [Bool.and_eq_true, decide_eq_true_iff] at hs
  obtain ⟨s', hs', hresolved⟩ := (Option.any_eq_true _ _).mp hs.2
  have hmem := List.contains_iff_mem.mp hresolved
  exact ⟨s, s', hs', hmem, accepted_queued hreach hs.1 hs' _ _ hmem⟩

/-- The node refuses the bundle of an op; the op is submitted again and its hash returned. -/
theorem accepted_failed : ∃ s s', Reachable (step (sampleEnv .try')) System.init s ∧
    step (sampleEnv .try') s (.hashReply 1 (.ok sampleHash)) = some s' ∧
    ¬ ResolvesTruly s s' := by
  let refused : JsError := { message := "connection refused" }
  obtain ⟨s, hreach, hs⟩ := Reach.exists_of_run (step (sampleEnv .try')) System.init
    (sampleBundle.take 4 ++ [.submitReply 0 (.error refused),
      .sendUserOperation (sampleParams "0x1111111111111111111111111111111111111111")])
    (fun s => (step (sampleEnv .try') s (.hashReply 1 (.ok sampleHash))).any fun s' : System =>
      (resolvedOps s s').contains (sampleOp, sampleHash) &&
      s'.bundler.mempool.get sampleHash == none &&
      s'.bundler.history.get sampleHash == some 0 &&
      s'.bundler.statusOf 0 == some .failed) (by decide +kernel)
  obtain ⟨s', hs', hs⟩ := (Option.any_eq_true _ _).mp hs
  simp only [Bool.and_eq_true, beq_iff_eq] at hs
  obtain ⟨⟨⟨hresolved, hmempool⟩, hhistory⟩, hfailed⟩ := hs
  refine ⟨s, s', hreach, hs', ?_⟩
  intro htruly
  rcases htruly _ _ (List.contains_iff_mem.mp hresolved) with ⟨k, hget, -⟩ | ⟨k, hget, hstatus, -⟩
  · rw [hmempool] at hget
    cases hget
  · rw [hhistory] at hget
    cases hget
    rw [hfailed] at hstatus
    cases hstatus

/-! ## The rejection of aggregators -/

/-- The call throws, and the maps stay as they were. -/
def Rejects (env : Env) (outcome : Except JsError SimulationResult) (s s' : System) : Prop :=
  (∃ failure, simulateValidation env.config.simulationMode outcome = .error failure) ∧
    s'.bundler.mempool = s.bundler.mempool ∧ s'.bundler.history = s.bundler.history

/-- A result with a signature aggregator is rejected, and so is every error in mode
    `required`. -/
def RejectsAggregator (env : Env) (outcome : Except JsError SimulationResult) (s s' : System) :
    Prop :=
  (∀ result, outcome = .ok result → result.hasAggregator = true → Rejects env outcome s s') ∧
    (env.config.simulationMode = .required →
      ∀ err, outcome = .error err → Rejects env outcome s s')

theorem rejects_of_error {env : Env} {s s' : System} {i : ℕ}
    {outcome : Except JsError SimulationResult}
    (hstep : step env s (.simulateReply i outcome) = some s')
    (h : ∃ failure, simulateValidation env.config.simulationMode outcome = .error failure) :
    Rejects env outcome s s' := by
  obtain ⟨failure, hfailure⟩ := h
  refine ⟨⟨failure, hfailure⟩, ?_⟩
  simp only [step] at hstep
  split at hstep
  · cases hstep
    rw [afterSimulation, hfailure]
    exact ⟨rfl, rfl⟩
  · cases hstep

/-- In the simulating modes, for every state and every outcome of the static call: aggregators
    are rejected exactly when the mode is `required` or the call returned no aggregator. -/
theorem rejectsAggregator_iff {env : Env} (hmode : env.config.simulationMode ≠ .disabled)
    {s s' : System} {i : ℕ} {outcome : Except JsError SimulationResult}
    (hstep : step env s (.simulateReply i outcome) = some s') :
    RejectsAggregator env outcome s s' ↔
      ¬ (env.config.simulationMode = .try' ∧
        ∃ result, outcome = .ok result ∧ result.hasAggregator = true) := by
  constructor
  · rintro ⟨haggregator, -⟩ ⟨htry, result, rfl, hhas⟩
    have hrequired := (simulateValidation_aggregator_iff hhas).mp (haggregator result rfl hhas).1
    rw [htry] at hrequired
    cases hrequired
  · intro hnot
    refine ⟨?_, ?_⟩
    · intro result hresult hhas
      apply rejects_of_error hstep
      rw [hresult, simulateValidation_aggregator_iff hhas]
      cases hm : env.config.simulationMode with
      | try' => exact absurd ⟨hm, result, hresult, hhas⟩ hnot
      | required => rfl
      | disabled => exact absurd hm hmode
    · intro hrequired err herr
      apply rejects_of_error hstep
      rw [hrequired, herr]
      exact simulateValidation_required_error err

/-- A result that names an aggregator. -/
def withAggregator : SimulationResult where
  accountValidationData := 0
  paymasterValidationData := 0
  aggregator := some ⟨"0x4444444444444444444444444444444444444444", by decide⟩

/-- Mode `required` rejects an aggregator. -/
theorem rejectsAggregator_required : ∃ s s' : System,
    step (sampleEnv .required) s (.simulateReply 0 (.ok withAggregator)) = some s' ∧
    RejectsAggregator (sampleEnv .required) (.ok withAggregator) s s' := by
  obtain ⟨s, -, hs⟩ := Reach.exists_of_run (step (sampleEnv .required)) System.init
    (sampleBundle.take 2)
    (fun s => (step (sampleEnv .required) s (.simulateReply 0 (.ok withAggregator))).isSome)
    (by decide +kernel)
  obtain ⟨s', hs'⟩ := Option.isSome_iff_exists.mp hs
  have hmode : (sampleEnv .required).config.simulationMode ≠ .disabled := by decide
  exact ⟨s, s', hs', (rejectsAggregator_iff hmode hs').mpr (by rintro ⟨h, -⟩; cases h)⟩

/-- Mode `try` accepts an op with an aggregator. -/
theorem aggregator_accepted : ∃ s s', Reachable (step (sampleEnv .try')) System.init s ∧
    step (sampleEnv .try') s (.simulateReply 0 (.ok withAggregator)) = some s' ∧
    s'.bundler.mempool.get sampleHash = some 0 ∧
    ¬ RejectsAggregator (sampleEnv .try') (.ok withAggregator) s s' := by
  obtain ⟨s, hreach, hs⟩ := Reach.exists_of_run (step (sampleEnv .try')) System.init
    (sampleBundle.take 2)
    (fun s => s.bundler.mempool.get sampleHash == none &&
      (step (sampleEnv .try') s (.simulateReply 0 (.ok withAggregator))).any fun s' =>
        s'.bundler.mempool.get sampleHash == some 0) (by decide +kernel)
  rw [Bool.and_eq_true, beq_iff_eq] at hs
  obtain ⟨s', hs', hget⟩ := (Option.any_eq_true _ _).mp hs.2
  rw [beq_iff_eq] at hget
  refine ⟨s, s', hreach, hs', hget, ?_⟩
  rintro ⟨hrejects, -⟩
  obtain ⟨-, hmempool, -⟩ := hrejects withAggregator rfl (by decide)
  rw [hmempool, hs.1] at hget
  cases hget

end AccountAbstraction.Bundler
