import Mathlib.Tactic

/-!
# Sequences up to what cannot be read in them

Some elements have a key, by which a reader tells them. The outline of a sequence is the
sequence of these keys, with one blank for every run of elements without a key. So two
sequences have the same outline if they agree but for runs that cannot be read, whatever
the length of these runs.

* `outline_append`: outlines of pieces that match are put together.
* `Blurred`, `blurred_of_outline`: sequences of the same outline, read side by side.
* `eq_of_outline`: a sequence that can be read throughout is the only one of its outline.
-/

namespace AccountAbstraction

variable {α β κ : Type*} {key : α → Option κ} {key' : β → Option κ}

/-! ## Outlines -/

/-- The outline of a list behind a blank or not; a run that goes on adds no second blank. -/
def outline (key : α → Option κ) : Bool → List α → List (Option κ)
  | _, [] => []
  | blank, a :: as =>
    match key a with
    | some k => some k :: outline key false as
    | none => if blank then outline key true as else none :: outline key true as

/-- Whether an outline ends with a blank. -/
def endsBlank (key : α → Option κ) : Bool → List α → Bool
  | blank, [] => blank
  | _, a :: as => endsBlank key (key a).isNone as

@[simp] theorem outline_nil (blank : Bool) : outline key blank [] = [] := rfl

theorem outline_some {a : α} {k : κ} (h : key a = some k) (blank : Bool) (as : List α) :
    outline key blank (a :: as) = some k :: outline key false as := by
  rw [outline, h]

theorem outline_none {a : α} (h : key a = none) (blank : Bool) (as : List α) :
    outline key blank (a :: as) = (if blank then [] else [none]) ++ outline key true as := by
  rw [outline, h]
  cases blank <;> rfl

theorem outline_cons {a : α} {b : β} (h : key a = key' b) {as : List α} {bs : List β}
    (hrest : ∀ blank, outline key blank as = outline key' blank bs) (blank : Bool) :
    outline key blank (a :: as) = outline key' blank (b :: bs) := by
  rw [outline, outline, h, hrest, hrest]

theorem outline_append_eq (blank : Bool) (as bs : List α) :
    outline key blank (as ++ bs) = outline key blank as ++ outline key (endsBlank key blank as) bs := by
  induction as generalizing blank with
  | nil => rfl
  | cons a as ih =>
    cases h : key a with
    | some k => rw [List.cons_append, outline_some h, outline_some h, endsBlank, h, ih]; rfl
    | none =>
      rw [List.cons_append, outline_none h, outline_none h, endsBlank, h, ih, List.append_assoc]
      rfl

/-- Behind a blank, a blank at the start is left out. -/
def dropBlank : List (Option κ) → List (Option κ)
  | none :: ks => ks
  | ks => ks

theorem outline_true (as : List α) : outline key true as = dropBlank (outline key false as) := by
  cases as with
  | nil => rfl
  | cons a as =>
    cases h : key a with
    | some k => rw [outline_some h, outline_some h]; rfl
    | none => rw [outline_none h, outline_none h]; rfl

theorem outline_congr {as : List α} {bs : List β} (h : outline key false as = outline key' false bs)
    (blank : Bool) : outline key blank as = outline key' blank bs := by
  cases blank with
  | false => exact h
  | true => rw [outline_true, outline_true, h]

/-- An outline shows whether it ends with a blank. -/
theorem endsBlank_eq (blank : Bool) (as : List α) :
    endsBlank key blank as = ((outline key blank as).getLast?.elim blank Option.isNone) := by
  induction as generalizing blank with
  | nil => rfl
  | cons a as ih =>
    cases h : key a with
    | some k =>
      rw [endsBlank, h, Option.isNone_some, ih, outline_some h, List.getLast?_cons]
      cases (outline key false as).getLast? <;> rfl
    | none =>
      rw [endsBlank, h, Option.isNone_none, ih, outline_none h]
      cases blank with
      | true => rfl
      | false =>
        rw [if_neg Bool.false_ne_true, List.singleton_append, List.getLast?_cons]
        cases (outline key true as).getLast? <;> rfl

theorem outline_append {as as' : List α} {bs bs' : List β}
    (h : outline key false as = outline key' false bs)
    (h' : outline key false as' = outline key' false bs') :
    outline key false (as ++ as') = outline key' false (bs ++ bs') := by
  rw [outline_append_eq, outline_append_eq, endsBlank_eq, endsBlank_eq, h, outline_congr h']

theorem endsBlank_append (blank : Bool) (as bs : List α) :
    endsBlank key blank (as ++ bs) = endsBlank key (endsBlank key blank as) bs := by
  induction as generalizing blank with
  | nil => rfl
  | cons a as ih => rw [List.cons_append, endsBlank, endsBlank, ih]

/-- A run without keys adds nothing behind a blank. -/
theorem outline_true_run {run : List α} (hrun : ∀ a ∈ run, key a = none) : outline key true run = [] := by
  induction run with
  | nil => rfl
  | cons a run ih =>
    rw [outline_none (hrun a List.mem_cons_self), ih fun x hx => hrun x (List.mem_cons_of_mem _ hx)]
    rfl

theorem outline_run {run : List α} (hne : run ≠ []) (hrun : ∀ a ∈ run, key a = none) :
    outline key false run = [none] := by
  cases run with
  | nil => exact absurd rfl hne
  | cons a run =>
    rw [outline_none (hrun a List.mem_cons_self),
      outline_true_run fun x hx => hrun x (List.mem_cons_of_mem _ hx)]
    rfl

theorem outline_append_run {as run : List α} (h : endsBlank key false as = true)
    (hrun : ∀ a ∈ run, key a = none) : outline key false (as ++ run) = outline key false as := by
  rw [outline_append_eq, h, outline_true_run hrun, List.append_nil]

theorem endsBlank_run {run : List α} (hne : run ≠ []) (hrun : ∀ a ∈ run, key a = none) (blank : Bool) :
    endsBlank key blank run = true := by
  induction run generalizing blank with
  | nil => exact absurd rfl hne
  | cons a run ih =>
    rw [endsBlank, hrun a List.mem_cons_self]
    cases run with
    | nil => rfl
    | cons b run => exact ih (List.cons_ne_nil b run) (fun x hx => hrun x (List.mem_cons_of_mem _ hx)) _

/-! ## Two lists side by side -/

/-- The lists have the same outline behind a blank or not, element by element. -/
inductive Blurred (key : α → Option κ) (key' : β → Option κ) : Bool → List α → List β → Prop
  | nil (blank : Bool) : Blurred key key' blank [] []
  | keep {a : α} {b : β} {k : κ} {as : List α} {bs : List β} (blank : Bool) (ha : key a = some k)
      (hb : key' b = some k) : Blurred key key' false as bs → Blurred key key' blank (a :: as) (b :: bs)
  /-- A run starts on both sides. -/
  | blot {a : α} {b : β} {as : List α} {bs : List β} (ha : key a = none) (hb : key' b = none) :
      Blurred key key' true as bs → Blurred key key' false (a :: as) (b :: bs)
  /-- A run goes on in the first list. -/
  | left {a : α} {as : List α} {bs : List β} (ha : key a = none) :
      Blurred key key' true as bs → Blurred key key' true (a :: as) bs
  | right {b : β} {as : List α} {bs : List β} (hb : key' b = none) :
      Blurred key key' true as bs → Blurred key key' true as (b :: bs)

theorem blurred_of_outline {blank : Bool} {as : List α} {bs : List β}
    (h : outline key blank as = outline key' blank bs) : Blurred key key' blank as bs := by
  induction as generalizing blank bs with
  | nil =>
    induction bs with
    | nil => exact .nil blank
    | cons b bs ih =>
      cases hb : key' b with
      | some k => rw [outline_some hb] at h; cases h
      | none =>
        rw [outline_none hb] at h
        cases blank with
        | false => cases h
        | true => exact .right hb (ih h)
  | cons a as ih =>
    cases ha : key a with
    | none =>
      rw [outline_none ha] at h
      cases blank with
      | true => exact .left ha (ih h)
      | false =>
        cases bs with
        | nil => cases h
        | cons b bs =>
          cases hb : key' b with
          | some k => rw [outline_some hb] at h; cases h
          | none =>
            rw [outline_none hb] at h
            exact .blot ha hb (ih (List.cons.inj h).2)
    | some k =>
      rw [outline_some ha] at h
      induction bs with
      | nil => cases h
      | cons b bs ihbs =>
        cases hb : key' b with
        | some k' =>
          rw [outline_some hb] at h
          obtain ⟨heq, htail⟩ := List.cons.inj h
          cases heq
          exact .keep blank ha hb (ih htail)
        | none =>
          rw [outline_none hb] at h
          cases blank with
          | false => cases h
          | true => exact .right hb (ihbs h)

/-- A list whose elements can all be read, and are known by their keys, is determined. -/
theorem eq_of_outline {as bs : List α} (hkey : ∀ a b k, key a = some k → key b = some k → a = b)
    (hall : ∀ a ∈ as, key a ≠ none) (h : outline key false as = outline key false bs) : as = bs := by
  have hblur := blurred_of_outline h
  clear h
  induction as generalizing bs with
  | nil => cases hblur with | nil => rfl
  | cons a as ih =>
    cases hblur with
    | keep _ ha hb hrest =>
      rw [hkey _ _ _ ha hb, ih (fun x hx => hall x (List.mem_cons_of_mem _ hx)) hrest]
    | blot ha _ _ => exact absurd ha (hall a List.mem_cons_self)

end AccountAbstraction
