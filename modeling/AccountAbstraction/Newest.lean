import Mathlib.Data.List.Sort

/-!
# The newest rows of a table

`ORDER BY key DESC LIMIT n` over a table whose keys differ. A row is shown when
fewer than `n` keys of the table are greater than its own, so a row that is shown
stays shown when other rows are left out.

* `isNewest_newest`: the query gives the `n` rows with the greatest keys.
* `mem_newest_of_sublist`: a row of a table is shown if a table with more keys shows
  a row with its key.
-/

namespace AccountAbstraction

variable {α κ : Type*} [LinearOrder κ]

/-! ## Specification -/

/-- `shown` are the `n` rows with the greatest keys, or all rows where there are fewer,
    in descending order of their keys. -/
structure IsNewest (key : α → κ) (n : ℕ) (rows shown : List α) : Prop where
  descending : shown.Pairwise fun a b => key b < key a
  subset : ∀ a ∈ shown, a ∈ rows
  length_le : shown.length ≤ n
  rest : ∀ a ∈ rows, a ∉ shown → shown.length = n ∧ ∀ b ∈ shown, key a < key b

/-! ## The query -/

/-- `ORDER BY key DESC`. -/
def sortDesc (key : α → κ) (rows : List α) : List α :=
  rows.insertionSort fun a b => key b ≤ key a

/-- `ORDER BY key DESC LIMIT n`. -/
def newest (key : α → κ) (n : ℕ) (rows : List α) : List α := (sortDesc key rows).take n

/-- How many keys are greater than `k`. -/
def ahead (keys : List κ) (k : κ) : ℕ := keys.countP fun k' => k < k'

variable {key : α → κ} {n : ℕ} {rows : List α} {a : α}

theorem sortDesc_perm (key : α → κ) (rows : List α) : (sortDesc key rows).Perm rows :=
  List.perm_insertionSort _ rows

@[simp] theorem mem_sortDesc : a ∈ sortDesc key rows ↔ a ∈ rows := (sortDesc_perm key rows).mem_iff

theorem pairwise_sortDesc (h : (rows.map key).Nodup) :
    (sortDesc key rows).Pairwise fun a b => key b < key a := by
  have htotal : Std.Total fun a b : α => key b ≤ key a := ⟨fun a b => le_total (key b) (key a)⟩
  have htrans : IsTrans α fun a b => key b ≤ key a := ⟨fun _ _ _ hab hbc => hbc.trans hab⟩
  have hle : (sortDesc key rows).Pairwise fun a b => key b ≤ key a :=
    List.pairwise_insertionSort _ rows
  have hne : ((sortDesc key rows).map key).Nodup := ((sortDesc_perm key rows).map key).nodup_iff.mpr h
  exact (hle.and (List.pairwise_map.mp hne)).imp fun hab => lt_of_le_of_ne hab.1 (Ne.symm hab.2)

/-- In a descending list, the first `n` rows are those with fewer than `n` keys ahead. -/
theorem mem_take_iff (h : rows.Pairwise fun a b => key b < key a) (ha : a ∈ rows) :
    a ∈ rows.take n ↔ ahead (rows.map key) (key a) < n := by
  induction rows generalizing n with
  | nil => cases ha
  | cons b rows ih =>
    obtain ⟨hb, hrows⟩ := List.pairwise_cons.mp h
    cases n with
    | zero => simp
    | succ n =>
      rcases List.mem_cons.mp ha with rfl | ha'
      · have hnone : ahead (rows.map key) (key a) = 0 := by
          rw [ahead, List.countP_eq_zero]
          intro k hk
          obtain ⟨c, hc, rfl⟩ := List.mem_map.mp hk
          simpa using (hb c hc).le
        have hahead : ahead ((a :: rows).map key) (key a) = 0 := by
          rw [List.map_cons, ahead, List.countP_cons_of_neg (by simp)]
          exact hnone
        rw [hahead, List.take_succ_cons]
        simp
      · have hlt := hb a ha'
        have hne : a ≠ b := fun hab => (hab ▸ hlt).ne rfl
        have hahead : ahead ((b :: rows).map key) (key a) = ahead (rows.map key) (key a) + 1 := by
          rw [List.map_cons, ahead, List.countP_cons_of_pos (by simpa using hlt)]
          rfl
        rw [List.take_succ_cons, List.mem_cons, hahead, ih hrows ha']
        simp [hne]

/-- A row is shown when fewer than `n` keys are ahead of its own. -/
theorem mem_newest (h : (rows.map key).Nodup) :
    a ∈ newest key n rows ↔ a ∈ rows ∧ ahead (rows.map key) (key a) < n := by
  have hahead : ahead ((sortDesc key rows).map key) (key a) = ahead (rows.map key) (key a) :=
    ((sortDesc_perm key rows).map key).countP_eq _
  constructor
  · intro ha
    have hmem := List.mem_of_mem_take ha
    exact ⟨mem_sortDesc.mp hmem, hahead ▸ (mem_take_iff (pairwise_sortDesc h) hmem).mp ha⟩
  · rintro ⟨ha, hlt⟩
    exact (mem_take_iff (pairwise_sortDesc h) (mem_sortDesc.mpr ha)).mpr (hahead ▸ hlt)

/-- The query gives what it should. -/
theorem isNewest_newest (h : (rows.map key).Nodup) (n : ℕ) :
    IsNewest key n rows (newest key n rows) where
  descending := (pairwise_sortDesc h).sublist (List.take_sublist n _)
  subset a ha := ((mem_newest h).mp ha).1
  length_le := List.length_take_le n _
  rest a ha hnot := by
    have hdesc := pairwise_sortDesc h
    rw [← List.take_append_drop n (sortDesc key rows)] at hdesc
    have hdrop : a ∈ (sortDesc key rows).drop n := by
      have hmem : a ∈ sortDesc key rows := mem_sortDesc.mpr ha
      rw [← List.take_append_drop n (sortDesc key rows), List.mem_append] at hmem
      exact hmem.resolve_left hnot
    have hlength : n ≤ (sortDesc key rows).length := by
      by_contra hlt
      rw [List.drop_of_length_le (by omega)] at hdrop
      cases hdrop
    refine ⟨List.length_take_of_le hlength, fun b hb => ?_⟩
    exact (List.pairwise_append.mp hdesc).2.2 b hb a hdrop

/-- A table with more keys shows a row with the key of `a`: the smaller one shows `a`. -/
theorem mem_newest_of_sublist {rows' : List α} {a' : α} (h : (rows'.map key).Nodup)
    (hsub : (rows.map key).Sublist (rows'.map key)) (ha' : a' ∈ newest key n rows') (ha : a ∈ rows)
    (hkey : key a = key a') : a ∈ newest key n rows := by
  have hlt := ((mem_newest h).mp ha').2
  refine (mem_newest (h.sublist hsub)).mpr ⟨ha, ?_⟩
  calc ahead (rows.map key) (key a) ≤ ahead (rows'.map key) (key a) := hsub.countP_le
    _ = ahead (rows'.map key) (key a') := by rw [hkey]
    _ < n := hlt

end AccountAbstraction
