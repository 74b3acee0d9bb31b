import Mathlib.Tactic

/-!
# Effects one after the other

A loop over effects that transform a state or fail with an error. The state in which an
effect fails is part of its result, so what a caller does with it is not fixed here.

* `forM_eq_ok`: a loop ends when its effects succeed in order, each once.
* `forM_eq_error`: it fails with the error of the first effect that fails.
* `forM_range`: a loop over indices is the loop over what stands there.
-/

namespace AccountAbstraction

variable {ε σ α : Type}

/-- The effects of `as` take `s` to the last state, one after the other. -/
inductive Sequence (f : α → EStateM ε σ PUnit) : List α → σ → σ → Prop
  | nil (s : σ) : Sequence f [] s s
  | cons {a : α} {as : List α} {s s' s'' : σ} : f a s = .ok ⟨⟩ s' → Sequence f as s' s'' →
      Sequence f (a :: as) s s''

variable {f : α → EStateM ε σ PUnit} {as : List α} {s s' : σ} {e : ε}

theorem forM_cons_run (f : α → EStateM ε σ PUnit) (a : α) (as : List α) (s : σ) :
    (forM (a :: as) f : EStateM ε σ PUnit) s =
      match f a s with
      | .ok _ s' => (forM as f : EStateM ε σ PUnit) s'
      | .error e s' => .error e s' := by
  rw [List.forM_cons]
  show EStateM.bind (f a) (fun _ => forM as f) s = _
  unfold EStateM.bind
  cases f a s <;> rfl

theorem forM_eq_ok : (forM as f : EStateM ε σ PUnit) s = .ok ⟨⟩ s' ↔ Sequence f as s s' := by
  induction as generalizing s with
  | nil =>
    constructor
    · intro h
      cases h
      exact Sequence.nil _
    · intro h
      cases h
      rfl
  | cons a as ih =>
    rw [forM_cons_run]
    constructor
    · intro h
      split at h
      · rename_i _ s₁ ha
        exact Sequence.cons ha (ih.mp h)
      · cases h
    · intro h
      cases h with
      | cons ha has =>
        rw [ha]
        exact ih.mpr has

/-- The effects before the first one that fails took place, and then it failed. -/
theorem forM_eq_error : (forM as f : EStateM ε σ PUnit) s = .error e s' ↔
    ∃ k a sₖ, as[k]? = some a ∧ Sequence f (as.take k) s sₖ ∧ f a sₖ = .error e s' := by
  induction as generalizing s with
  | nil =>
    constructor
    · intro h
      cases h
    · rintro ⟨k, a, sₖ, ha, -⟩
      cases ha
  | cons a as ih =>
    rw [forM_cons_run]
    constructor
    · intro h
      split at h
      · rename_i _ s₁ ha
        obtain ⟨k, b, sₖ, hb, hbefore, hfail⟩ := ih.mp h
        exact ⟨k + 1, b, sₖ, hb, Sequence.cons ha hbefore, hfail⟩
      · rename_i _ _ ha
        cases h
        exact ⟨0, a, s, rfl, Sequence.nil s, ha⟩
    · rintro ⟨k, b, sₖ, hb, hbefore, hfail⟩
      cases k with
      | zero =>
        cases hb
        cases hbefore
        rw [hfail]
      | succ k =>
        cases hbefore with
        | cons ha has =>
          rw [ha]
          exact ih.mpr ⟨k, b, sₖ, hb, has, hfail⟩

/-- A loop ends in one way. -/
theorem Sequence.unique {t : σ} (h : Sequence f as s s') (h' : Sequence f as s t) : s' = t := by
  have hrun := (forM_eq_ok.mpr h).symm.trans (forM_eq_ok.mpr h')
  cases hrun
  rfl

theorem forM_range {n : ℕ} {body : ℕ → EStateM ε σ PUnit} (hlength : as.length = n)
    (hbody : ∀ (i : ℕ) (hi : i < as.length), body i = f as[i]) :
    (forM (List.range n) body : EStateM ε σ PUnit) = forM as f := by
  induction as generalizing n body with
  | nil =>
    cases hlength
    rfl
  | cons a as ih =>
    cases hlength
    funext s
    have hrest : (forM ((List.range as.length).map Nat.succ) body : EStateM ε σ PUnit) = forM as f := by
      rw [List.forM_map]
      exact ih rfl fun i hi => hbody (i + 1) (Nat.succ_lt_succ hi)
    rw [List.length_cons, List.range_succ_eq_map, forM_cons_run, forM_cons_run, hrest,
      hbody 0 (Nat.succ_pos _)]
    rfl

end AccountAbstraction
