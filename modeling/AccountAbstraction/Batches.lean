import Mathlib.Tactic

/-!
# A queue that is served in batches

Elements join at the back. When no batch is in hand, the first `n` elements that wait are
taken, all of them if there are fewer; they leave the queue when the batch is finished.
Elements may join while a batch is in hand, and they wait for the next one.

* `Batches.Step`: a move of the queue.
* `Batches.served_le`: while `a` waits, the number of batches finished meanwhile is at most
  its turn, which its place at the start of the wait determines.
* `Batches.served_eq`: `a` leaves with the batch of its turn, neither earlier nor later.

The rank of a waiting element is its place, counted in full batches: the room that a batch
in hand leaves unused is added for the elements that it does not hold. Then `n` times the
batches finished plus the rank is the same all along the wait (`Batches.rank_run`).
-/

namespace AccountAbstraction

/-- The elements that have not left, in the order of their arrival, the length of the batch
    in hand, which is taken from the front, and the number of batches finished. -/
structure Batches (α : Type*) where
  waiting : List α
  taken : Option ℕ
  served : ℕ

namespace Batches

variable {α : Type*}

/-- A move of a queue with batches of at most `n`. -/
inductive Step (n : ℕ) (q : Batches α) : Batches α → Prop
  | idle : Step n q q
  | join (a : α) (hnew : a ∉ q.waiting) : Step n q { q with waiting := q.waiting ++ [a] }
  | take (hfree : q.taken = none) : Step n q { q with taken := some (min n q.waiting.length) }
  | finish (k : ℕ) (htaken : q.taken = some k) :
    Step n q { waiting := q.waiting.drop k, taken := none, served := q.served + 1 }

/-- What every queue meets that starts empty. -/
structure Lawful (n : ℕ) (q : Batches α) : Prop where
  nodup : q.waiting.Nodup
  taken_le : ∀ k, q.taken = some k → k ≤ n ∧ k ≤ q.waiting.length

theorem Lawful.step {n : ℕ} {q q' : Batches α} (hq : Lawful n q) (h : Step n q q') :
    Lawful n q' := by
  cases h with
  | idle => exact hq
  | join a hnew =>
    refine ⟨List.nodup_append.mpr ⟨hq.nodup, by simp, ?_⟩, ?_⟩
    · intro x hx y hy hxy
      rw [List.mem_singleton.mp hy] at hxy
      exact hnew (hxy ▸ hx)
    · intro k hk
      obtain ⟨hn, hlen⟩ := hq.taken_le k hk
      exact ⟨hn, by rw [List.length_append]; omega⟩
  | take hfree =>
    refine ⟨hq.nodup, ?_⟩
    intro k hk
    cases hk
    exact ⟨Nat.min_le_left _ _, Nat.min_le_right _ _⟩
  | finish k htaken =>
    exact ⟨hq.nodup.sublist (List.drop_sublist _ _), fun _ hk => by cases hk⟩

/-! ## The rank of an element -/

variable [DecidableEq α]

/-- The room of the batch in hand that is left unused, for an element outside of it. -/
def slack (n : ℕ) (q : Batches α) (a : α) : ℕ :=
  match q.taken with
  | none => 0
  | some k => if q.waiting.idxOf a < k then 0 else n - k

/-- The place of an element, in full batches. -/
def rank (n : ℕ) (q : Batches α) (a : α) : ℕ := q.waiting.idxOf a + q.slack n a

/-- The number of batches that are finished before the one that holds the element. -/
def turn (n : ℕ) (q : Batches α) (a : α) : ℕ := q.rank n a / n

theorem idxOf_drop {l : List α} (hl : l.Nodup) {k : ℕ} {a : α} (h : a ∈ l.drop k) :
    l.idxOf a = k + (l.drop k).idxOf a := by
  have hlt : (l.drop k).idxOf a < (l.drop k).length := List.idxOf_lt_length_iff.mpr h
  have hk : k + (l.drop k).idxOf a < l.length := by rw [List.length_drop] at hlt; omega
  have hget : l[k + (l.drop k).idxOf a] = a := by
    have := List.getElem_idxOf hlt
    rwa [List.getElem_drop] at this
  calc l.idxOf a = l.idxOf l[k + (l.drop k).idxOf a] := by rw [hget]
    _ = k + (l.drop k).idxOf a := hl.idxOf_getElem _ hk

/-- A move that leaves `a` in the queue changes its rank by the batches it finishes. -/
theorem rank_step {n : ℕ} {q q' : Batches α} {a : α} (hq : Lawful n q) (h : Step n q q')
    (ha : a ∈ q.waiting) (ha' : a ∈ q'.waiting) :
    n * q'.served + q'.rank n a = n * q.served + q.rank n a := by
  cases h with
  | idle => rfl
  | join b hnew => simp only [rank, slack, List.idxOf_append_of_mem ha]
  | take hfree =>
    have hlt : q.waiting.idxOf a < q.waiting.length := List.idxOf_lt_length_iff.mpr ha
    have hslack : q.slack n a = 0 := by rw [slack, hfree]
    -- a short batch holds all that wait, and `a` is one of them
    have hslack' : slack n { q with taken := some (min n q.waiting.length) } a = 0 := by
      simp only [slack]
      split_ifs with hidx
      · rfl
      · omega
    rw [rank, rank, hslack, hslack']
  | finish k htaken =>
    obtain ⟨hn, -⟩ := hq.taken_le k htaken
    have hidx : q.waiting.idxOf a = k + (q.waiting.drop k).idxOf a := idxOf_drop hq.nodup ha'
    have hslack : q.slack n a = n - k := by
      simp only [slack, htaken]
      exact if_neg (by omega)
    have hrank : q.rank n a = k + (q.waiting.drop k).idxOf a + (n - k) := by
      rw [rank, hslack, hidx]
    have hrank' : rank n ⟨q.waiting.drop k, none, q.served + 1⟩ a = (q.waiting.drop k).idxOf a :=
      rfl
    rw [hrank, hrank', Nat.mul_add, Nat.mul_one]
    omega

/-- An element leaves the queue with a batch that holds it. -/
theorem leave_step {n : ℕ} {q q' : Batches α} {a : α} (hq : Lawful n q) (h : Step n q q')
    (ha : a ∈ q.waiting) (ha' : a ∉ q'.waiting) :
    (∃ k, q.taken = some k ∧ a ∈ q.waiting.take k) ∧ q'.served = q.served + 1 ∧
      q.rank n a < n := by
  cases h with
  | idle => exact absurd ha ha'
  | join b hnew => exact absurd (List.mem_append_left _ ha) ha'
  | take hfree => exact absurd ha ha'
  | finish k htaken =>
    have hmem : a ∈ q.waiting.take k := by
      rw [← List.take_append_drop k q.waiting] at ha
      exact (List.mem_append.mp ha).resolve_right ha'
    obtain ⟨hn, -⟩ := hq.taken_le k htaken
    have hidx : q.waiting.idxOf a < k := by
      have hlt := List.idxOf_lt_length_iff.mpr hmem
      rw [← List.take_append_drop k q.waiting, List.idxOf_append_of_mem hmem]
      rw [List.length_take] at hlt
      omega
    refine ⟨⟨k, htaken, hmem⟩, rfl, ?_⟩
    rw [rank, slack, htaken]
    simp only [if_pos hidx]
    omega

/-! ## A whole wait -/

/-- A move during which `a` stays in the queue. -/
def Waits (n : ℕ) (a : α) (q q' : Batches α) : Prop := Step n q q' ∧ a ∈ q'.waiting

theorem rank_run {n : ℕ} {q₀ q : Batches α} {a : α} (hq : Lawful n q₀) (ha : a ∈ q₀.waiting)
    (h : Relation.ReflTransGen (Waits n a) q₀ q) :
    (Lawful n q ∧ a ∈ q.waiting) ∧
      n * q.served + q.rank n a = n * q₀.served + q₀.rank n a := by
  induction h with
  | refl => exact ⟨⟨hq, ha⟩, rfl⟩
  | tail _ hstep ih =>
    obtain ⟨⟨hlawful, hmem⟩, heq⟩ := ih
    exact ⟨⟨hlawful.step hstep.1, hstep.2⟩, (rank_step hlawful hstep.1 hmem hstep.2).trans heq⟩

/-- While `a` waits, no more batches are finished than its turn. -/
theorem served_le {n : ℕ} (hn : 0 < n) {q₀ q : Batches α} {a : α} (hq : Lawful n q₀)
    (ha : a ∈ q₀.waiting) (h : Relation.ReflTransGen (Waits n a) q₀ q) :
    q.served ≤ q₀.served + q₀.turn n a := by
  have heq := (rank_run hq ha h).2
  have hdiv : q.served ≤ (n * q₀.served + q₀.rank n a) / n :=
    (Nat.le_div_iff_mul_le hn).mpr (by rw [Nat.mul_comm]; omega)
  rwa [Nat.mul_add_div hn] at hdiv

/-- `a` leaves with the batch of its turn. -/
theorem served_eq {n : ℕ} (hn : 0 < n) {q₀ q q' : Batches α} {a : α} (hq : Lawful n q₀)
    (ha : a ∈ q₀.waiting) (h : Relation.ReflTransGen (Waits n a) q₀ q) (hstep : Step n q q')
    (ha' : a ∉ q'.waiting) : q'.served = q₀.served + q₀.turn n a + 1 := by
  obtain ⟨⟨hlawful, hmem⟩, heq⟩ := rank_run hq ha h
  obtain ⟨-, hserved, hlt⟩ := leave_step hlawful hstep hmem ha'
  have hdiv : q.served = (n * q₀.served + q₀.rank n a) / n := by
    rw [← heq, Nat.mul_add_div hn, Nat.div_eq_of_lt hlt, Nat.add_zero]
  rw [Nat.mul_add_div hn] at hdiv
  rw [hserved, hdiv, turn]

end Batches

end AccountAbstraction
