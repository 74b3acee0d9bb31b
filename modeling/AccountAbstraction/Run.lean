import Mathlib.Tactic

/-!
# Runs of a deterministic event system

A system is a partial step function: `step s e = some s'` says that the event
`e` can happen in `s` and leads to `s'`, `none` that it cannot. An interleaving of
concurrent activities is a list of events, so a statement about every
interleaving is one about every list.

* `Reach step ok s₀ s`: `s` is reached from `s₀` by steps that all meet `ok`.
* `Reach.invariant`: what holds initially and is kept by every step holds of
  every state reached.
* `Reach.of_run`, `Reach.of_guardedRun`: a list of events leads to a state that is
  reached.
* `Reach.exists_of_run`, `Reach.exists_of_guardedRun`: states reached by evaluation.
-/

namespace AccountAbstraction

variable {σ ε : Type*}

/-- Perform a list of events. -/
def run (step : σ → ε → Option σ) : σ → List ε → Option σ
  | s, [] => some s
  | s, e :: es => (step s e).bind fun s' => run step s' es

/-- Perform a list of events as long as `ok` holds. -/
def guardedRun (step : σ → ε → Option σ) (ok : σ → ε → Prop) [∀ s e, Decidable (ok s e)] :
    σ → List ε → Option σ
  | s, [] => some s
  | s, e :: es => if ok s e then (step s e).bind fun s' => guardedRun step ok s' es else none

/-- The states reached from `s₀` by steps whose pre-state and event meet `ok`. -/
inductive Reach (step : σ → ε → Option σ) (ok : σ → ε → Prop) (s₀ : σ) : σ → Prop
  | start : Reach step ok s₀ s₀
  | next {s s' : σ} (e : ε) : Reach step ok s₀ s → ok s e → step s e = some s' →
      Reach step ok s₀ s'

/-- Reachability by any steps. -/
abbrev Reachable (step : σ → ε → Option σ) (s₀ : σ) : σ → Prop :=
  Reach step (fun _ _ => True) s₀

variable {step : σ → ε → Option σ} {ok : σ → ε → Prop} {s₀ s : σ}

/-! ## The induction over a run -/

namespace Reach

/-- A predicate that holds of `s₀` and is kept by every step that meets `ok`
    holds of every state reached. -/
theorem invariant {I : σ → Prop} (h : Reach step ok s₀ s) (h₀ : I s₀)
    (hstep : ∀ s e s', I s → ok s e → step s e = some s' → I s') : I s := by
  induction h with
  | start => exact h₀
  | next e _ hok hs ih => exact hstep _ e _ ih hok hs

/-- The same where the step may also use an invariant `J` that is known already. -/
theorem invariant_of {I J : σ → Prop} (h : Reach step ok s₀ s)
    (hJ : ∀ s, Reach step ok s₀ s → J s) (h₀ : I s₀)
    (hstep : ∀ s e s', J s → I s → ok s e → step s e = some s' → I s') : I s := by
  induction h with
  | start => exact h₀
  | next e hr hok hs ih => exact hstep _ e _ (hJ _ hr) ih hok hs

theorem mono {ok' : σ → ε → Prop} (h : Reach step ok s₀ s) (hok : ∀ s e, ok s e → ok' s e) :
    Reach step ok' s₀ s := by
  induction h with
  | start => exact start
  | next e _ he hs ih => exact next e ih (hok _ e he) hs

/-- What every state before a step is known to meet, and the last one, the first one meets. -/
theorem of_guard {P : σ → Prop} (h : Reach step (fun s _ => P s) s₀ s) (hs : P s) : P s₀ := by
  induction h with
  | start => exact hs
  | next e _ hok _ ih => exact ih hok

theorem trans {s' : σ} (h : Reach step ok s₀ s) (h' : Reach step ok s s') : Reach step ok s₀ s' := by
  induction h' with
  | start => exact h
  | next e _ hok hs ih => exact next e ih hok hs

theorem of_run {es : List ε} (h : run step s₀ es = some s) : Reachable step s₀ s := by
  induction es generalizing s₀ with
  | nil => cases h; exact start
  | cons e es ih =>
    obtain ⟨s₁, hs₁, hrun⟩ := Option.bind_eq_some_iff.mp h
    exact (next e start trivial hs₁).trans (ih hrun)

/-- A state with a property, by the evaluation of a run. -/
theorem exists_of_run (step : σ → ε → Option σ) (s₀ : σ) (es : List ε) (p : σ → Bool)
    (h : (run step s₀ es).any p = true) : ∃ s, Reachable step s₀ s ∧ p s = true := by
  obtain ⟨s, hrun, hp⟩ := (Option.any_eq_true p _).mp h
  exact ⟨s, of_run hrun, hp⟩

theorem of_guardedRun [∀ s e, Decidable (ok s e)] {es : List ε}
    (h : guardedRun step ok s₀ es = some s) : Reach step ok s₀ s := by
  induction es generalizing s₀ with
  | nil => cases h; exact start
  | cons e es ih =>
    rw [guardedRun] at h
    split_ifs at h with hok
    obtain ⟨s₁, hs₁, hrun⟩ := Option.bind_eq_some_iff.mp h
    exact (next e start hok hs₁).trans (ih hrun)

theorem exists_of_guardedRun (step : σ → ε → Option σ) (ok : σ → ε → Prop)
    [∀ s e, Decidable (ok s e)] (s₀ : σ) (es : List ε) (p : σ → Bool)
    (h : (guardedRun step ok s₀ es).any p = true) : ∃ s, Reach step ok s₀ s ∧ p s = true := by
  obtain ⟨s, hrun, hp⟩ := (Option.any_eq_true p _).mp h
  exact ⟨s, of_guardedRun hrun, hp⟩

end Reach

end AccountAbstraction
