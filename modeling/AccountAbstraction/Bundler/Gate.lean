import AccountAbstraction.Bundler.Invariant
import AccountAbstraction.Contracts.Sponsorship

/-!
# The verdicts of the simulation

In mode `required` an op waits for `simulateValidation`, whose result carries the verdicts
on the signatures of the account and of the paymaster: the EntryPoint of version 0.7
returns a failed signature, it does not revert on it. `simulateValidation`
(`bundler/src/index.js:284-305`) reads the aggregator of the result and nothing else.

* `required_gates_iff`: the outcomes on which the mode gates the signatures, and what holds
  of the history in a run that has no others.
-/

namespace AccountAbstraction.Bundler

open Js LnetBundler Contracts

/-! ## What the gate should do -/

/-- Both verdicts of the result carry authorizer 0. -/
def SimulationResult.SignaturesHold (result : SimulationResult) : Prop :=
  authorizer result.accountValidationData = 0 ∧ authorizer result.paymasterValidationData = 0

/-- The event ends a simulation with a result in which both signatures hold. -/
def Event.Admits (e : Event) : Prop :=
  ∃ i result, e = .simulateReply i (.ok result) ∧ result.SignaturesHold

/-- The step from `s` to `s'` files an op under `hash`, in the mempool and in the history. -/
structure Files (s s' : System) (hash : Bytes32) : Prop where
  mempool : s'.bundler.mempool.get hash = some s.bundler.items.length
  history : s'.bundler.history.get hash = some s.bundler.items.length

/-- The step files an op only with a result in which both signatures hold. -/
def GatesSignatures (e : Event) (s s' : System) : Prop := ∀ hash, Files s s' hash → e.Admits

/-- The event is not the result of a simulation without an aggregator in which a signature
    failed. -/
def Event.VerdictsHold (e : Event) : Prop :=
  ∀ i result, e = .simulateReply i (.ok result) → result.hasAggregator = false → result.SignaturesHold

/-! ## One step -/

/-- Mode `required` accepts the results without an aggregator, and nothing else. -/
theorem simulateValidation_required_ok_iff {outcome : Except JsError SimulationResult} :
    simulateValidation .required outcome = .ok () ↔
      ∃ result, outcome = .ok result ∧ result.hasAggregator = false := by
  cases outcome with
  | error err =>
    obtain ⟨failure, hfailure⟩ := simulateValidation_required_error err
    simp [hfailure]
  | ok result =>
    cases haggregator : result.hasAggregator with
    | true =>
      obtain ⟨failure, hfailure⟩ := (simulateValidation_aggregator_iff haggregator).mpr rfl
      simp [hfailure, haggregator]
    | false => simp [simulateValidation, checkAggregator, haggregator]

/-- A step that files an op is the end of a simulation that was accepted. -/
theorem Files.outcome {env : Env} {s s' : System} {e : Event} {hash : Bytes32}
    (hs : Consistent s'.bundler) (h : Effect env s e s') (hfiles : Files s s' hash) :
    ∃ i outcome, e = .simulateReply i outcome ∧
      simulateValidation env.config.simulationMode outcome = .ok () := by
  have hnew : s'.bundler.hashOf s.bundler.items.length = some hash := hs.mempool_hash _ _ hfiles.mempool
  have hold : s.bundler.hashOf s.bundler.items.length ≠ some hash := fun hhash =>
    ne_length_of_hashOf hhash rfl
  cases h with
  | inserted i entryPoint op userOpHash reply _ hvalid => exact ⟨i, reply, rfl, hvalid⟩
  | returned j call tx receipt b _ _ _ _ hcomplete =>
    obtain ⟨_, _, hsettles, _⟩ := complete_ok hcomplete
    exact absurd ((hsettles.hashOf_eq _).symm.trans hnew) hold
  | threw _ j call b err _ _ _ hsettles _ =>
    exact absurd ((hsettles.hashOf_eq _).symm.trans hnew) hold
  | _ => exact absurd hnew hold

theorem files_enqueue (s : System) (i : ℕ) (userOpHash : Bytes32) (op : UserOp)
    (entryPoint : AddressText) :
    Files s { s.setSend i (.resolved userOpHash) with
      bundler := s.bundler.enqueue (newItem userOpHash op entryPoint) } userOpHash :=
  ⟨OrderedMap.get_set_self _ _ _, OrderedMap.get_set_self _ _ _⟩

/-- For every state that can be reached, in mode `required`. -/
theorem gatesSignatures_iff {env : Env} (hmode : env.config.simulationMode = .required)
    {ok : System → Event → Prop} {s s' : System} {e : Event}
    (h : Reach (step env) ok System.init s) (hstep : step env s e = some s') :
    GatesSignatures e s s' ↔ e.VerdictsHold := by
  have heffect := step_effect hstep
  constructor
  · rintro hgates i result rfl haggregator
    have hvalid : simulateValidation env.config.simulationMode (.ok result) = .ok () := by
      rw [hmode]
      exact simulateValidation_required_ok_iff.mpr ⟨result, rfl, haggregator⟩
    cases heffect with
    | refused _ entryPoint op userOpHash _ err _ hinvalid =>
      rw [hvalid] at hinvalid
      cases hinvalid
    | inserted _ entryPoint op userOpHash _ _ _ =>
      obtain ⟨_, _, heq, hhold⟩ := hgates userOpHash (files_enqueue s i userOpHash op entryPoint)
      cases heq
      exact hhold
    | threw _ j call b err _ _ he _ _ => cases he
  · intro hverdicts hash hfiles
    have hconsistent := consistent_step (consistent_of_reach h) heffect
    obtain ⟨i, outcome, rfl, hvalid⟩ := hfiles.outcome hconsistent heffect
    rw [hmode] at hvalid
    obtain ⟨result, rfl, haggregator⟩ := simulateValidation_required_ok_iff.mp hvalid
    exact ⟨i, result, rfl, hverdicts i result rfl haggregator⟩

/-! ## Runs -/

/-- A step of the run, from `s₁` to `s₂`, filed an op under `hash` with a result in which both
    signatures hold. -/
def Admitted (env : Env) (ok : System → Event → Prop) (s : System) (hash : Bytes32) : Prop :=
  ∃ s₁ e s₂, Reach (step env) ok System.init s₁ ∧ step env s₁ e = some s₂ ∧ Files s₁ s₂ hash ∧
    e.Admits ∧ Reach (step env) ok s₂ s

theorem Admitted.next {env : Env} {ok : System → Event → Prop} {s s' : System} {e : Event}
    {hash : Bytes32} (h : Admitted env ok s hash) (hok : ok s e) (hstep : step env s e = some s') :
    Admitted env ok s' hash := by
  obtain ⟨s₁, e₁, s₂, hreach, hstep₁, hfiles, hadmits, hafter⟩ := h
  exact ⟨s₁, e₁, s₂, hreach, hstep₁, hfiles, hadmits, .next e hafter hok hstep⟩

/-- A hash of the history was there before or is filed by the step. -/
theorem history_step {env : Env} {s s' : System} {e : Event} {hash : Bytes32} {k : ℕ}
    (h : Effect env s e s') (hget : s'.bundler.history.get hash = some k) :
    s.bundler.history.get hash = some k ∨ Files s s' hash := by
  cases h with
  | inserted i entryPoint op userOpHash reply _ _ =>
    have hget' := hget
    rw [get_history_enqueue] at hget'
    split_ifs at hget' with heq
    · have heq' : hash = userOpHash := heq
      subst heq'
      exact Or.inr (files_enqueue s i hash op entryPoint)
    · exact Or.inl hget'
  | returned j call tx receipt b _ _ _ _ hcomplete =>
    obtain ⟨_, _, hsettles, _⟩ := complete_ok hcomplete
    exact Or.inl (hsettles.history_eq ▸ hget)
  | threw _ j call b err _ _ _ hsettles _ => exact Or.inl (hsettles.history_eq ▸ hget)
  | _ => exact Or.inl hget

/-- In mode `required`, where no result has a failed signature without an aggregator, every op of
    the history was admitted. -/
theorem admitted_of_reach {env : Env} (hmode : env.config.simulationMode = .required) {s : System}
    (h : Reach (step env) (fun _ e => e.VerdictsHold) System.init s) {hash : Bytes32} {k : ℕ}
    (hget : s.bundler.history.get hash = some k) :
    Admitted env (fun _ e => e.VerdictsHold) s hash := by
  induction h generalizing k with
  | start => cases hget
  | next e hreach hok hstep ih =>
    rcases history_step (step_effect hstep) hget with hold | hfiles
    · exact (ih hold).next hok hstep
    · exact ⟨_, e, _, hreach, hstep, hfiles, (gatesSignatures_iff hmode hreach hstep).mpr hok hash hfiles,
        .start⟩

/-- In mode `required`: a step from any state that can be reached gates the signatures exactly
    when it is not the result of a simulation, without an aggregator, in which a signature failed.
    In a run without such steps, every op of the history got in with both signatures. -/
theorem required_gates_iff {env : Env} (hmode : env.config.simulationMode = .required) :
    (∀ s e s', Reachable (step env) System.init s → step env s e = some s' →
      (GatesSignatures e s s' ↔ e.VerdictsHold)) ∧
    ∀ s, Reach (step env) (fun _ e => e.VerdictsHold) System.init s →
      ∀ hash k, s.bundler.history.get hash = some k →
        Admitted env (fun _ e => e.VerdictsHold) s hash :=
  ⟨fun _ _ _ h hstep => gatesSignatures_iff hmode h hstep,
   fun _ h _ _ hget => admitted_of_reach hmode h hget⟩

/-! ## Samples -/

/-- The result for an op with an account signature that failed. -/
def failedSignature : SimulationResult where
  accountValidationData := 1
  paymasterValidationData := 0
  aggregator := some zeroAddress

/-- The result for an op whose signatures hold. -/
def goodSignatures : SimulationResult where
  accountValidationData := 0
  paymasterValidationData := 0
  aggregator := some zeroAddress

/-- An op with a bad signature is accepted in mode `required`. -/
theorem failedSignature_accepted : ∃ s s', Reachable (step (sampleEnv .required)) System.init s ∧
    step (sampleEnv .required) s (.simulateReply 0 (.ok failedSignature)) = some s' ∧
    Files s s' sampleHash ∧ authorizer failedSignature.accountValidationData = 1 ∧
    ¬GatesSignatures (.simulateReply 0 (.ok failedSignature)) s s' := by
  obtain ⟨s, hreach, hs⟩ := Reach.exists_of_run (step (sampleEnv .required)) System.init
    (sampleBundle.take 2)
    (fun s => (step (sampleEnv .required) s (.simulateReply 0 (.ok failedSignature))).any fun s' =>
        s'.bundler.mempool.get sampleHash == some s.bundler.items.length &&
        s'.bundler.history.get sampleHash == some s.bundler.items.length) (by decide +kernel)
  obtain ⟨s', hs', hget⟩ := (Option.any_eq_true _ _).mp hs
  rw [Bool.and_eq_true, beq_iff_eq, beq_iff_eq] at hget
  have hfiles : Files s s' sampleHash := ⟨hget.1, hget.2⟩
  refine ⟨s, s', hreach, hs', hfiles, rfl, ?_⟩
  intro hgates
  obtain ⟨_, _, heq, haccount, -⟩ := hgates sampleHash hfiles
  cases heq
  cases haccount

/-- An op whose signatures hold is accepted, and that is what the mode asks for. -/
theorem goodSignatures_gated : ∃ s s',
    step (sampleEnv .required) s (.simulateReply 0 (.ok goodSignatures)) = some s' ∧
    GatesSignatures (.simulateReply 0 (.ok goodSignatures)) s s' := by
  obtain ⟨s, hreach, hs⟩ := Reach.exists_of_run (step (sampleEnv .required)) System.init
    (sampleBundle.take 2)
    (fun s => (step (sampleEnv .required) s (.simulateReply 0 (.ok goodSignatures))).isSome)
    (by decide +kernel)
  obtain ⟨s', hs'⟩ := Option.isSome_iff_exists.mp hs
  refine ⟨s, s', hs', ((required_gates_iff rfl).1 s _ s' hreach hs').mpr ?_⟩
  rintro i result heq -
  cases heq
  exact ⟨rfl, rfl⟩

end AccountAbstraction.Bundler
