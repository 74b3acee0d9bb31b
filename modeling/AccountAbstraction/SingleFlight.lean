import Mathlib.Data.List.Basic
import Mathlib.Tactic

/-!
# One job at a time, shared by its callers

The pattern `current ??= job().finally(() => current = null)`: a caller joins the
job that is under way or starts one, and the job gives up its place in a step
of its own, after it has settled. The model keeps every job that was started,
in order, and the place of the current one.

* `Flights.join`: join or start.
* `Flights.Single`: a job that has not ended is the current one and the last one.
* `Single.join`, `Single.update`, `Single.finish`: the operations keep it.
-/

namespace AccountAbstraction

/-- The jobs that were started, and the one that callers join. -/
structure Flights (α : Type*) where
  jobs : List α
  current : Option ℕ

namespace Flights

variable {α : Type*}

def empty : Flights α := ⟨[], none⟩

/-- The job to wait for: the current one, or else a new one. -/
def join (f : Flights α) (job : α) : Flights α × ℕ :=
  match f.current with
  | some i => (f, i)
  | none => (⟨f.jobs ++ [job], some f.jobs.length⟩, f.jobs.length)

/-- A job makes progress. -/
def update (f : Flights α) (i : ℕ) (job : α) : Flights α := { f with jobs := f.jobs.set i job }

/-- A job has ended, and nobody joins it any more. -/
def finish (f : Flights α) (i : ℕ) (job : α) : Flights α := ⟨f.jobs.set i job, none⟩

theorem join_of_current {f : Flights α} {i : ℕ} (h : f.current = some i) (job : α) :
    f.join job = (f, i) := by
  rw [join, h]

theorem join_of_free {f : Flights α} (h : f.current = none) (job : α) :
    f.join job = (⟨f.jobs ++ [job], some f.jobs.length⟩, f.jobs.length) := by
  rw [join, h]

theorem getElem?_set_eq_some {l : List α} {i j : ℕ} {a b : α} (h : (l.set i a)[j]? = some b) :
    (j = i ∧ b = a) ∨ (j ≠ i ∧ l[j]? = some b) := by
  rw [List.getElem?_set] at h
  by_cases hij : i = j
  · subst hij
    rw [if_pos rfl] at h
    split_ifs at h
    exact Or.inl ⟨rfl, (Option.some.inj h).symm⟩
  · rw [if_neg hij] at h
    exact Or.inr ⟨fun hji => hij hji.symm, h⟩

/-- A job that has not ended is the current one, which is the last one. -/
structure Single (ended : α → Bool) (f : Flights α) : Prop where
  flight : ∀ i job, f.jobs[i]? = some job → ended job = false → f.current = some i
  last : ∀ i, f.current = some i → i + 1 = f.jobs.length

namespace Single

variable {ended : α → Bool} {f : Flights α}

theorem empty : Single ended (Flights.empty : Flights α) where
  flight := fun i job h => by simp [Flights.empty] at h
  last := fun i h => by simp [Flights.empty] at h

/-- Two jobs that have not ended are the same job. -/
theorem unique (h : Single ended f) {i j : ℕ} {a b : α} (hi : f.jobs[i]? = some a)
    (hj : f.jobs[j]? = some b) (ha : ended a = false) (hb : ended b = false) : i = j := by
  have hcurrent := h.flight i a hi ha
  rw [h.flight j b hj hb, Option.some.injEq] at hcurrent
  exact hcurrent.symm

/-- A job that has not ended comes last. -/
theorem getLast? (h : Single ended f) {i : ℕ} {job : α} (hi : f.jobs[i]? = some job)
    (hjob : ended job = false) : f.jobs.getLast? = some job := by
  have hlast := h.last i (h.flight i job hi hjob)
  rw [List.getLast?_eq_getElem?, ← hlast, Nat.add_sub_cancel, hi]

/-- So does its replacement. -/
theorem getLast?_set (h : Single ended f) {i : ℕ} {a : α} (hi : f.jobs[i]? = some a)
    (ha : ended a = false) (job : α) : (f.jobs.set i job).getLast? = some job := by
  have hlast := h.last i (h.flight i a hi ha)
  rw [List.getLast?_eq_getElem?, List.length_set, ← hlast, Nat.add_sub_cancel]
  exact List.getElem?_set_self (by omega)

theorem join (h : Single ended f) (job : α) : Single ended (f.join job).1 := by
  cases hcurrent : f.current with
  | some i =>
    rw [join_of_current hcurrent]
    exact h
  | none =>
    rw [join_of_free hcurrent]
    refine ⟨fun i a hi ha => ?_, fun i hi => ?_⟩
    · show some f.jobs.length = some i
      rw [List.getElem?_append] at hi
      split_ifs at hi with hlt
      · have := h.flight i a hi ha
        rw [hcurrent] at this
        cases this
      · have hzero : i - f.jobs.length = 0 := by
          by_contra hne
          rw [List.getElem?_eq_none (by simp; omega)] at hi
          cases hi
        congr 1
        omega
    · cases hi
      simp

/-- Progress of a job that has not ended. -/
theorem update (h : Single ended f) {i : ℕ} {a : α} (hi : f.jobs[i]? = some a) (ha : ended a = false)
    (job : α) : Single ended (f.update i job) := by
  refine ⟨fun j b hj hb => ?_, fun j hj => ?_⟩
  · rcases getElem?_set_eq_some hj with ⟨rfl, -⟩ | ⟨-, hj⟩
    · exact h.flight j a hi ha
    · exact h.flight j b hj hb
  · rw [Flights.update, List.length_set]
    exact h.last j hj

/-- The end of the job that has not ended. -/
theorem finish (h : Single ended f) {i : ℕ} {a job : α} (hi : f.jobs[i]? = some a)
    (ha : ended a = false) (hjob : ended job = true) : Single ended (f.finish i job) := by
  refine ⟨fun j b hj hb => ?_, fun j hj => by cases hj⟩
  rcases getElem?_set_eq_some hj with ⟨rfl, rfl⟩ | ⟨hne, hj⟩
  · rw [hjob] at hb
    cases hb
  · exact absurd (h.unique hj hi hb ha) hne

end Single

/-- A value that a job keeps is kept by all of them. -/
theorem map_set {β : Type*} {f : α → β} {l : List α} {i : ℕ} {a b : α} (hi : l[i]? = some a)
    (hab : f b = f a) : (l.set i b).map f = l.map f := by
  apply List.ext_getElem?
  intro j
  rw [List.map_set, List.getElem?_set]
  split_ifs with hij hlt
  · rw [← hij, List.getElem?_map, hi, hab]
    rfl
  · subst hij
    rw [List.getElem?_eq_none (not_lt.mp hlt)]
  · rfl

end Flights

end AccountAbstraction
