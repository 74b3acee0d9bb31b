import Mathlib.Data.Int.Basic
import Mathlib.Data.List.Basic
import Mathlib.Tactic

/-!
# Separators between brackets

A text is cut at a separator that may also stand inside brackets. What matters is how many
brackets are open where the separator stands.

* `Above.append`, `Above.intercalate`: the depth of the separators of a text that is put
  together from parts.
-/

namespace AccountAbstraction

variable {α : Type*} [DecidableEq α]

/-- The brackets that a text opens and does not close. -/
def depth (opening closing : α) (cs : List α) : ℤ := cs.count opening - cs.count closing

/-- At least `k` brackets are open wherever the separator stands. -/
def Above (opening closing : α) (k : ℤ) (sep : α) (cs : List α) : Prop :=
  ∀ before after, cs = before ++ sep :: after → k ≤ depth opening closing before

variable {opening closing sep : α} {k : ℤ} {cs ds : List α}

@[simp] theorem depth_nil : depth opening closing [] = 0 := rfl

@[simp] theorem depth_append :
    depth opening closing (cs ++ ds) = depth opening closing cs + depth opening closing ds := by
  simp only [depth, List.count_append]
  omega

/-- A text without brackets. -/
theorem depth_of_not_mem (ho : opening ∉ cs) (hc : closing ∉ cs) : depth opening closing cs = 0 := by
  rw [depth, List.count_eq_zero_of_not_mem ho, List.count_eq_zero_of_not_mem hc]
  rfl

theorem depth_opening (h : opening ≠ closing) : depth opening closing [opening] = 1 := by
  simp [depth, h]

theorem depth_closing (h : opening ≠ closing) : depth opening closing [closing] = -1 := by
  simp [depth, h.symm]

theorem Above.of_not_mem (h : sep ∉ cs) : Above opening closing k sep cs := by
  rintro before after rfl
  exact absurd (List.mem_append_right _ List.mem_cons_self) h

theorem Above.weaken {l : ℤ} (h : Above opening closing k sep cs) (hle : l ≤ k) :
    Above opening closing l sep cs :=
  fun before after heq => hle.trans (h before after heq)

theorem Above.append (hcs : Above opening closing k sep cs)
    (hds : Above opening closing (k - depth opening closing cs) sep ds) :
    Above opening closing k sep (cs ++ ds) := by
  intro before after h
  rcases List.append_eq_append_iff.mp h with ⟨rest, rfl, hrest⟩ | ⟨rest, rfl, hrest⟩
  · -- the separator stands in the second text
    have := hds rest after hrest
    rw [depth_append]
    omega
  · cases rest with
    | nil =>
      have := hds [] after hrest.symm
      rw [List.append_nil, depth_nil] at *
      omega
    | cons c rest =>
      obtain rfl := (List.cons.inj hrest).1
      exact hcs before rest rfl

/-- A part behind a closed one. -/
theorem Above.append_closed (hcs : Above opening closing k sep cs) (hclosed : depth opening closing cs = 0)
    (hds : Above opening closing k sep ds) : Above opening closing k sep (cs ++ ds) :=
  hcs.append (by rwa [hclosed, sub_zero])

/-- Brackets around a text lift its separators. -/
theorem Above.enclose (h : Above opening closing k sep cs) (hne : opening ≠ closing) (ho : sep ≠ opening)
    (hc : sep ≠ closing) : Above opening closing (k + 1) sep (opening :: cs ++ [closing]) := by
  have hopening : Above opening closing (k + 1) sep [opening] := Above.of_not_mem (by simpa using ho)
  have hclosing : Above opening closing (k + 1 - depth opening closing (opening :: cs)) sep [closing] :=
    Above.of_not_mem (by simpa using hc)
  refine Above.append ?_ hclosing
  rw [← List.singleton_append]
  refine hopening.append ?_
  rw [depth_opening hne, add_sub_cancel_right]
  exact h

theorem depth_enclose (hne : opening ≠ closing) (cs : List α) :
    depth opening closing (opening :: cs ++ [closing]) = depth opening closing cs := by
  rw [depth_append, ← List.singleton_append, depth_append, depth_opening hne, depth_closing hne]
  omega

variable {parts : List (List α)}

theorem depth_intercalate (ho : sep ≠ opening) (hc : sep ≠ closing)
    (hparts : ∀ part ∈ parts, depth opening closing part = 0) :
    depth opening closing ([sep].intercalate parts) = 0 := by
  induction parts with
  | nil => rfl
  | cons part parts ih =>
    obtain ⟨hpart, hrest⟩ := List.forall_mem_cons.mp hparts
    cases parts with
    | nil => simpa using hpart
    | cons next parts =>
      have hsep : depth opening closing [sep] = 0 :=
        depth_of_not_mem (by simpa using ho.symm) (by simpa using hc.symm)
      rw [List.intercalate_cons_cons, depth_append, depth_append, hpart, hsep, ih hrest]
      rfl

/-- Between closed parts no bracket is open. -/
theorem Above.intercalate (ho : sep ≠ opening) (hc : sep ≠ closing)
    (hparts : ∀ part ∈ parts, depth opening closing part = 0 ∧ Above opening closing 0 sep part) :
    Above opening closing 0 sep ([sep].intercalate parts) := by
  induction parts with
  | nil => exact Above.of_not_mem List.not_mem_nil
  | cons part parts ih =>
    obtain ⟨⟨hclosed, hpart⟩, hrest⟩ := List.forall_mem_cons.mp hparts
    cases parts with
    | nil => simpa using hpart
    | cons next parts =>
      have hsep : depth opening closing [sep] = 0 :=
        depth_of_not_mem (by simpa using ho.symm) (by simpa using hc.symm)
      have hself : Above opening closing 0 sep [sep] := by
        intro before after h
        cases before with
        | nil => exact le_refl _
        | cons c before => simp at h
      rw [List.intercalate_cons_cons, List.append_assoc]
      exact hpart.append_closed hclosed (hself.append_closed hsep (ih hrest))

end AccountAbstraction
