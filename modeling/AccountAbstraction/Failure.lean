import Mathlib.Tactic

/-!
# Computations that fail with an error of some kind

A program that tells its errors apart has to know which of its steps can fail with which.
`Fails p x` says that `x` fails with an error that meets `p`; the rules are one for each
way to put computations together, so that they reduce it to the steps.

* `fails_bind`: a sequence fails where its first step does, or behind it.
-/

namespace AccountAbstraction

variable {ε α β : Type}

/-- `x` fails with an error that meets `p`. -/
def Fails (p : ε → Prop) (x : Except ε α) : Prop := ∃ e, x = .error e ∧ p e

variable {p : ε → Prop} {x : Except ε α} {f : α → Except ε β}

@[simp] theorem fails_ok (a : α) : Fails p (.ok a : Except ε α) ↔ False := by simp [Fails]

@[simp] theorem fails_pure (a : α) : Fails p (pure a : Except ε α) ↔ False := fails_ok a

@[simp] theorem fails_error (e : ε) : Fails p (.error e : Except ε α) ↔ p e := by simp [Fails]

theorem fails_bind : Fails p (x >>= f) ↔ Fails p x ∨ ∃ a, x = .ok a ∧ Fails p (f a) := by
  cases x with
  | error e => simp [bind, Except.bind]
  | ok a => simp [bind, Except.bind]

theorem fails_map {g : α → β} : Fails p (x.map g) ↔ Fails p x := by
  cases x with
  | error e => simp [Except.map]
  | ok a => simp [Except.map]

theorem not_fails_iff : ¬Fails p x ↔ ∀ e, x = .error e → ¬p e := by
  simp only [Fails, not_exists, not_and]

end AccountAbstraction
