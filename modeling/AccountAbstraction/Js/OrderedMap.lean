import Mathlib.Data.List.Basic
import Mathlib.Data.List.Nodup
import Mathlib.Tactic

/-!
# The JavaScript `Map`

A `Map` iterates over its entries in the order in which their keys were first
inserted; `set` on a key that is present replaces the value and keeps the
place. The model is the list of entries, and a map carries the proof that its
keys are distinct.

* `get_set`, `get_delete`: lookups after an update.
* `mem_entries_iff`: the entries are the pairs that `get` finds.
-/

namespace AccountAbstraction.Js

/-- A `Map` with its entries in iteration order. -/
structure OrderedMap (κ α : Type*) where
  entries : List (κ × α)
  nodup : (entries.map Prod.fst).Nodup

namespace OrderedMap

variable {κ α : Type*}

/-- `new Map()`. -/
def empty : OrderedMap κ α := ⟨[], by simp⟩

instance : EmptyCollection (OrderedMap κ α) := ⟨empty⟩

/-- `map.size`. -/
def size (m : OrderedMap κ α) : ℕ := m.entries.length

/-- `[...map.values()]`. -/
def values (m : OrderedMap κ α) : List α := m.entries.map Prod.snd

theorem length_values (m : OrderedMap κ α) : m.values.length = m.size := by
  simp [values, size]

/-- `[...map.keys()]`. -/
def keys (m : OrderedMap κ α) : List κ := m.entries.map Prod.fst

theorem length_keys (m : OrderedMap κ α) : m.keys.length = m.size := by
  simp [keys, size]

variable [DecidableEq κ]

/-- `map.get(key)`. -/
def get (m : OrderedMap κ α) (key : κ) : Option α := m.entries.lookup key

/-- `map.has(key)`. -/
def has (m : OrderedMap κ α) (key : κ) : Bool := (m.get key).isSome

/-! ## Entries and lookups -/

theorem mem_of_lookup {l : List (κ × α)} {key : κ} {v : α} (h : l.lookup key = some v) :
    (key, v) ∈ l := by
  induction l with
  | nil => cases h
  | cons e l ih =>
    obtain ⟨k, w⟩ := e
    rw [List.lookup_cons] at h
    by_cases hk : key = k
    · subst hk
      simp only [beq_self_eq_true] at h
      cases h
      exact List.mem_cons_self
    · rw [beq_false_of_ne hk] at h
      exact List.mem_cons_of_mem _ (ih h)

theorem lookup_of_mem {l : List (κ × α)} (hl : (l.map Prod.fst).Nodup) {key : κ} {v : α}
    (h : (key, v) ∈ l) : l.lookup key = some v := by
  induction l with
  | nil => cases h
  | cons e l ih =>
    obtain ⟨k, w⟩ := e
    rw [List.map_cons, List.nodup_cons] at hl
    rw [List.lookup_cons]
    rcases List.mem_cons.mp h with heq | hmem
    · cases heq
      simp
    · have hne : key ≠ k := by
        rintro rfl
        exact hl.1 (List.mem_map.mpr ⟨_, hmem, rfl⟩)
      rw [beq_false_of_ne hne]
      exact ih hl.2 hmem

theorem mem_entries_iff {m : OrderedMap κ α} {key : κ} {v : α} :
    (key, v) ∈ m.entries ↔ m.get key = some v :=
  ⟨lookup_of_mem m.nodup, mem_of_lookup⟩

theorem mem_values_iff {m : OrderedMap κ α} {v : α} :
    v ∈ m.values ↔ ∃ key, m.get key = some v := by
  simp only [values, List.mem_map, Prod.exists, mem_entries_iff, exists_eq_right]

@[simp] theorem get_empty (key : κ) : (∅ : OrderedMap κ α).get key = none := rfl

theorem has_iff {m : OrderedMap κ α} {key : κ} : m.has key = true ↔ ∃ v, m.get key = some v := by
  simp [has, Option.isSome_iff_exists]

theorem has_eq_false_iff {m : OrderedMap κ α} {key : κ} : m.has key = false ↔ m.get key = none := by
  simp [has]

/-! ## `set` -/

/-- Replace the value of `key` where it stands. -/
def replaceEntry (key : κ) (v : α) (e : κ × α) : κ × α := if e.1 = key then (key, v) else e

theorem map_fst_replaceEntry (key : κ) (v : α) (l : List (κ × α)) :
    (l.map (replaceEntry key v)).map Prod.fst = l.map Prod.fst := by
  rw [List.map_map]
  apply List.map_congr_left
  intro e _
  simp only [Function.comp_apply, replaceEntry]
  split_ifs with h
  · exact h.symm
  · rfl

theorem lookup_map_replaceEntry (key : κ) (v : α) (l : List (κ × α)) (k : κ) :
    (l.map (replaceEntry key v)).lookup k =
      if k = key ∧ key ∈ l.map Prod.fst then some v else l.lookup k := by
  induction l with
  | nil => simp
  | cons e l ih =>
    obtain ⟨k', w⟩ := e
    by_cases hk : k' = key
    · subst hk
      by_cases hkk : k = k'
      · subst hkk; simp [replaceEntry]
      · simp only [List.map_cons, replaceEntry, if_true, List.lookup_cons, beq_false_of_ne hkk, ih,
          hkk, false_and, if_false]
    · simp only [List.map_cons, replaceEntry, hk, if_false, List.lookup_cons, ih, List.mem_cons,
        Ne.symm hk, false_or]
      by_cases hkk : k = k'
      · subst hkk; simp [hk]
      · rw [beq_false_of_ne hkk]

theorem mem_keys_iff {m : OrderedMap κ α} {key : κ} :
    key ∈ m.entries.map Prod.fst ↔ m.has key = true := by
  simp only [List.mem_map, Prod.exists, exists_and_right, exists_eq_right, mem_entries_iff, has_iff]

/-- `map.set(key, v)`. -/
def set (m : OrderedMap κ α) (key : κ) (v : α) : OrderedMap κ α :=
  if h : m.has key then
    ⟨m.entries.map (replaceEntry key v), by rw [map_fst_replaceEntry]; exact m.nodup⟩
  else
    ⟨m.entries ++ [(key, v)], by
      rw [List.map_append, List.nodup_append]
      refine ⟨m.nodup, by simp, ?_⟩
      intro a ha b hb hab
      simp only [List.map_cons, List.map_nil, List.mem_singleton] at hb
      subst hb hab
      exact h (mem_keys_iff.mp ha)⟩

theorem get_set (m : OrderedMap κ α) (key : κ) (v : α) (k : κ) :
    (m.set key v).get k = if k = key then some v else m.get k := by
  unfold set
  split_ifs with h hk hk
  · subst hk
    simp only [get, lookup_map_replaceEntry, true_and]
    rw [if_pos (mem_keys_iff.mpr h)]
  · simp only [get, lookup_map_replaceEntry, hk, false_and, if_false]
  · subst hk
    have hnone : m.entries.lookup k = none := has_eq_false_iff.mp (by simpa using h)
    simp [get, List.lookup_append, hnone]
  · simp [get, List.lookup_append, List.lookup_cons, beq_false_of_ne hk]

@[simp] theorem get_set_self (m : OrderedMap κ α) (key : κ) (v : α) :
    (m.set key v).get key = some v := by
  rw [get_set, if_pos rfl]

/-- After `set` on the keys of a list, a key has the last value that was set for it. -/
theorem get_foldl_set {β : Type*} (key : β → κ) (value : β → α) (k : κ) (l : List β) (m : OrderedMap κ α) :
    (l.foldl (fun m x => m.set (key x) (value x)) m).get k =
      ((l.filter fun x => key x = k).getLast?.map value).or (m.get k) := by
  induction l generalizing m with
  | nil => rfl
  | cons x l ih =>
    rw [List.foldl_cons, ih, get_set]
    by_cases hx : key x = k
    · rw [if_pos hx.symm, List.filter_cons_of_pos (by simpa using hx), List.getLast?_cons]
      cases (l.filter fun x => key x = k).getLast? <;> rfl
    · rw [if_neg (Ne.symm hx), List.filter_cons_of_neg (by simpa using hx)]

theorem keys_set (m : OrderedMap κ α) (key : κ) (v : α) :
    (m.set key v).keys = if m.has key then m.keys else m.keys ++ [key] := by
  unfold set
  split_ifs with h
  · exact map_fst_replaceEntry key v m.entries
  · simp [keys]

/-! ## `delete` -/

/-- `map.delete(key)`. -/
def delete (m : OrderedMap κ α) (key : κ) : OrderedMap κ α :=
  ⟨m.entries.filter (fun e => e.1 ≠ key),
    m.nodup.sublist (List.Sublist.map _ List.filter_sublist)⟩

theorem get_delete (m : OrderedMap κ α) (key k : κ) :
    (m.delete key).get k = if k = key then none else m.get k := by
  apply Option.ext
  intro v
  rw [← mem_entries_iff (m := m.delete key)]
  simp only [delete, List.mem_filter, mem_entries_iff]
  by_cases hk : k = key <;> simp [hk]

theorem keys_delete_sublist (m : OrderedMap κ α) (key : κ) : (m.delete key).keys.Sublist m.keys :=
  List.Sublist.map _ List.filter_sublist

end OrderedMap

end AccountAbstraction.Js
