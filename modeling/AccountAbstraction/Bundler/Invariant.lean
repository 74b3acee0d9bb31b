import AccountAbstraction.Bundler.System

/-!
# Invariants of the bundler

What holds in every state that the bundler can reach, whatever the order of the steps
and the outcomes of the awaited calls.

* `Consistent`: the maps point to items with the hash under which they are filed, every
  item of the mempool is pending and is the history's item of its hash.
* `Flight`: at most one bundle is in flight, `bundling` says whether one is, its items are
  pending, the items of an ended bundle are not, and no item is in two bundles.

`Consistent` and `Flight` are kept by the four ways in which a step touches the bundler
(an insertion, the start of a bundle, progress of a bundle, its end), and from this
`consistent_of_reach` and `flight_of_reach` follow by `step_effect`.

* `Current`: the items in flight are those of the history, as long as no op is filed whose
  hash is in flight.
* `mem_resolvedOps_iff`: the calls of `sendUserOperation` that resolve in a step.
-/

namespace AccountAbstraction.Bundler

open Js LnetBundler

/-! ## The two maps -/

/-- The maps and the items fit together. -/
structure Consistent (b : LnetBundler) : Prop where
  mempool_hash : ∀ hash i, b.mempool.get hash = some i → b.hashOf i = some hash
  mempool_pending : ∀ hash i, b.mempool.get hash = some i → b.statusOf i = some .pending
  mempool_history : ∀ hash i, b.mempool.get hash = some i → b.history.get hash = some i
  history_hash : ∀ hash i, b.history.get hash = some i → b.hashOf i = some hash
  history_known : ∀ hash i, b.hashOf i = some hash → ∃ k, b.history.get hash = some k

theorem consistent_init : Consistent LnetBundler.init where
  mempool_hash _ _ h := by cases h
  mempool_pending _ _ h := by cases h
  mempool_history _ _ h := by cases h
  history_hash _ _ h := by cases h
  history_known _ _ h := by cases h

theorem Consistent.setBundling {b : LnetBundler} (hb : Consistent b) (bundling : Bool) :
    Consistent { b with bundling := bundling } :=
  ⟨hb.mempool_hash, hb.mempool_pending, hb.mempool_history, hb.history_hash, hb.history_known⟩

/-- An index that some lookup finds is not the next one. -/
theorem ne_length_of_hashOf {b : LnetBundler} {i : ℕ} {hash : Bytes32}
    (h : b.hashOf i = some hash) : i ≠ b.items.length := by
  have := lt_length_of_hashOf h
  omega

theorem get_mempool_enqueue (b : LnetBundler) (item : Item) (hash : Bytes32) :
    (b.enqueue item).mempool.get hash =
      if hash = item.userOpHash then some b.items.length else b.mempool.get hash :=
  OrderedMap.get_set _ _ _ _

theorem get_history_enqueue (b : LnetBundler) (item : Item) (hash : Bytes32) :
    (b.enqueue item).history.get hash =
      if hash = item.userOpHash then some b.items.length else b.history.get hash :=
  OrderedMap.get_set _ _ _ _

theorem hashOf_enqueue_of_some {b : LnetBundler} (item : Item) {i : ℕ} {hash : Bytes32}
    (h : b.hashOf i = some hash) : (b.enqueue item).hashOf i = some hash := by
  rw [hashOf_enqueue, if_neg (ne_length_of_hashOf h), h]

theorem statusOf_enqueue_of_hashOf {b : LnetBundler} (item : Item) {i : ℕ} {hash : Bytes32}
    (h : b.hashOf i = some hash) : (b.enqueue item).statusOf i = b.statusOf i := by
  rw [statusOf_enqueue, if_neg (ne_length_of_hashOf h)]

theorem opOf_enqueue_of_hashOf {b : LnetBundler} (item : Item) {i : ℕ} {hash : Bytes32}
    (h : b.hashOf i = some hash) : (b.enqueue item).opOf i = b.opOf i := by
  rw [opOf_enqueue, if_neg (ne_length_of_hashOf h)]

theorem Consistent.enqueue {b : LnetBundler} (hb : Consistent b) {item : Item}
    (hpending : item.status = .pending) : Consistent (b.enqueue item) where
  mempool_hash hash i h := by
    rw [get_mempool_enqueue] at h
    split_ifs at h with heq
    · cases h
      rw [hashOf_enqueue, if_pos rfl, heq]
    · exact hashOf_enqueue_of_some item (hb.mempool_hash hash i h)
  mempool_pending hash i h := by
    rw [get_mempool_enqueue] at h
    split_ifs at h with heq
    · cases h
      rw [statusOf_enqueue, if_pos rfl, hpending]
    · rw [statusOf_enqueue_of_hashOf item (hb.mempool_hash hash i h)]
      exact hb.mempool_pending hash i h
  mempool_history hash i h := by
    rw [get_mempool_enqueue] at h
    rw [get_history_enqueue]
    split_ifs at h ⊢ with heq
    · exact h
    · exact hb.mempool_history hash i h
  history_hash hash i h := by
    rw [get_history_enqueue] at h
    split_ifs at h with heq
    · cases h
      rw [hashOf_enqueue, if_pos rfl, heq]
    · exact hashOf_enqueue_of_some item (hb.history_hash hash i h)
  history_known hash i h := by
    by_cases heq : hash = item.userOpHash
    · exact ⟨_, by rw [get_history_enqueue, if_pos heq]⟩
    · rw [hashOf_enqueue] at h
      split_ifs at h with hi
      · cases h
        exact absurd rfl heq
      · obtain ⟨k, hk⟩ := hb.history_known hash i h
        exact ⟨k, by rw [get_history_enqueue, if_neg heq, hk]⟩

/-- What the mempool still holds after a bundle ended was there before and is not of the
    bundle. -/
theorem Settles.get_mempool {items : List ℕ} {status : ItemStatus} {b b' : LnetBundler}
    (h : Settles items status b b') {hash : Bytes32} {i : ℕ}
    (hget : b'.mempool.get hash = some i) :
    b.mempool.get hash = some i ∧ ∀ k ∈ items, b.hashOf k ≠ some hash := by
  have hunlisted : ∀ k ∈ items, b.hashOf k ≠ some hash := by
    intro k hk hhash
    rw [h.mempool_listed k hk hash hhash] at hget
    cases hget
  exact ⟨(h.mempool_unlisted hash hunlisted).symm.trans hget, hunlisted⟩

theorem Consistent.settles {b b' : LnetBundler} (hb : Consistent b) {items : List ℕ}
    {status : ItemStatus} (h : Settles items status b b') : Consistent b' where
  mempool_hash hash i hget := by
    rw [h.hashOf_eq]
    exact hb.mempool_hash hash i (h.get_mempool hget).1
  mempool_pending hash i hget := by
    obtain ⟨hbefore, hunlisted⟩ := h.get_mempool hget
    have hi : i ∉ items := fun hi => hunlisted i hi (hb.mempool_hash hash i hbefore)
    rw [h.statusOf_unlisted hi]
    exact hb.mempool_pending hash i hbefore
  mempool_history hash i hget := by
    rw [h.history_eq]
    exact hb.mempool_history hash i (h.get_mempool hget).1
  history_hash hash i hget := by
    rw [h.history_eq] at hget
    rw [h.hashOf_eq]
    exact hb.history_hash hash i hget
  history_known hash i hhash := by
    rw [h.hashOf_eq] at hhash
    rw [h.history_eq]
    exact hb.history_known hash i hhash

theorem consistent_step {env : Env} {s s' : System} {e : Event} (hs : Consistent s.bundler)
    (h : Effect env s e s') : Consistent s'.bundler := by
  cases h with
  | inserted i entryPoint op userOpHash reply _ _ => exact hs.enqueue rfl
  | started _ _ => exact hs.setBundling true
  | returned j call tx receipt b _ _ _ _ hcomplete =>
    obtain ⟨_, _, hsettles, _⟩ := complete_ok hcomplete
    exact hs.settles hsettles
  | threw _ j call b err _ _ _ hsettles _ => exact hs.settles hsettles
  | _ => exact hs

theorem consistent_of_reach {env : Env} {ok : System → Event → Prop} {s : System}
    (h : Reach (step env) ok System.init s) : Consistent s.bundler :=
  h.invariant (I := fun s => Consistent s.bundler) consistent_init
    fun _ _ _ hs _ hstep => consistent_step hs (step_effect hstep)

/-! ## The bundle in flight -/

/-- The calls of `bundleNow` and the state they share fit together. -/
structure Flight (b : LnetBundler) (calls : List BundleCall) : Prop where
  listed : ∀ (j : ℕ) call, calls[j]? = some call → ∀ i ∈ call.items, ∃ hash, b.hashOf i = some hash
  nodup : ∀ (j : ℕ) call, calls[j]? = some call → call.items.Nodup
  disjoint : ∀ (j k : ℕ) callj callk, calls[j]? = some callj → calls[k]? = some callk →
    ∀ i ∈ callj.items, i ∈ callk.items → j = k
  single : ∀ (j k : ℕ) callj callk, calls[j]? = some callj → calls[k]? = some callk →
    callj.outstanding = true → callk.outstanding = true → j = k
  bundling_iff : b.bundling = true ↔ ∃ call ∈ calls, call.outstanding = true
  outstanding_pending : ∀ (j : ℕ) call, calls[j]? = some call → call.outstanding = true →
    ∀ i ∈ call.items, b.statusOf i = some .pending
  ended_final : ∀ (j : ℕ) call, calls[j]? = some call → call.outstanding = false →
    ∀ i ∈ call.items, b.statusOf i ≠ some .pending

theorem flight_init : Flight LnetBundler.init [] where
  listed _ _ h := by cases h
  nodup _ _ h := by cases h
  disjoint _ _ _ _ h := by cases h
  single _ _ _ _ h := by cases h
  bundling_iff := by simp [LnetBundler.init]
  outstanding_pending _ _ h := by cases h
  ended_final _ _ h := by cases h

theorem Flight.enqueue {b : LnetBundler} {calls : List BundleCall} (hf : Flight b calls)
    (item : Item) : Flight (b.enqueue item) calls where
  listed j call hcall i hi := by
    obtain ⟨hash, hhash⟩ := hf.listed j call hcall i hi
    exact ⟨hash, hashOf_enqueue_of_some item hhash⟩
  nodup := hf.nodup
  disjoint := hf.disjoint
  single := hf.single
  bundling_iff := hf.bundling_iff
  outstanding_pending j call hcall hout i hi := by
    obtain ⟨hash, hhash⟩ := hf.listed j call hcall i hi
    rw [statusOf_enqueue_of_hashOf item hhash]
    exact hf.outstanding_pending j call hcall hout i hi
  ended_final j call hcall hout i hi := by
    obtain ⟨hash, hhash⟩ := hf.listed j call hcall i hi
    rw [statusOf_enqueue_of_hashOf item hhash]
    exact hf.ended_final j call hcall hout i hi

/-- The entries of a list after an update of an entry that exists. -/
theorem getElem?_set_of_some {α : Type*} {l : List α} {j : ℕ} {a : α} (h : l[j]? = some a) (a' : α)
    (k : ℕ) : (l.set j a')[k]? = if k = j then some a' else l[k]? := by
  have hj : j < l.length := (List.getElem?_eq_some_iff.mp h).1
  rw [List.getElem?_set]
  split_ifs with h₁ h₂ h₂
  · rfl
  · exact absurd h₁.symm h₂
  · exact absurd h₂.symm h₁
  · rfl

/-- An entry after the update is the new one or an old one at another place. -/
theorem of_getElem?_set {α : Type*} {l : List α} {j k : ℕ} {a a' x : α} (h : l[j]? = some a)
    (hx : (l.set j a')[k]? = some x) : (k = j ∧ x = a') ∨ (k ≠ j ∧ l[k]? = some x) := by
  rw [getElem?_set_of_some h] at hx
  split_ifs at hx with hk
  · exact .inl ⟨hk, by cases hx; rfl⟩
  · exact .inr ⟨hk, hx⟩

/-- An entry before the update has a counterpart after it, related as the two entries at `j`. -/
theorem exists_getElem?_set {α : Type*} {R : α → α → Prop} (hrefl : ∀ x, R x x) {l : List α} {j k : ℕ}
    {a a' x : α} (h : l[j]? = some a) (ha : R a a') (hx : l[k]? = some x) :
    ∃ x', (l.set j a')[k]? = some x' ∧ R x x' := by
  rw [getElem?_set_of_some h]
  split_ifs with hkj
  · subst hkj
    rw [h] at hx
    cases hx
    exact ⟨a', rfl, ha⟩
  · exact ⟨x, hx, hrefl x⟩

/-- An entry after the update has a counterpart before it. -/
theorem exists_of_getElem?_set {α : Type*} {R : α → α → Prop} (hrefl : ∀ x, R x x) {l : List α}
    {j k : ℕ} {a a' x : α} (h : l[j]? = some a) (ha : R a a') (hx : (l.set j a')[k]? = some x) :
    ∃ old, l[k]? = some old ∧ R old x := by
  rcases of_getElem?_set h hx with ⟨rfl, rfl⟩ | ⟨-, hold⟩
  · exact ⟨a, h, ha⟩
  · exact ⟨x, hold, hrefl x⟩

/-- An entry of an extended list is an old one or the new one at the end. -/
theorem of_getElem?_append {α : Type*} {l : List α} {k : ℕ} {a x : α}
    (hx : (l ++ [a])[k]? = some x) : l[k]? = some x ∨ (k = l.length ∧ x = a) := by
  rw [List.getElem?_append] at hx
  split_ifs at hx with hlt
  · exact .inl hx
  · obtain ⟨hlen, heq⟩ := List.getElem?_eq_some_iff.mp hx
    rw [List.length_singleton] at hlen
    rw [List.getElem_singleton] at heq
    exact .inr ⟨by omega, heq.symm⟩

theorem exists_mem_iff_getElem? {calls : List BundleCall} :
    (∃ call ∈ calls, call.outstanding = true) ↔
      ∃ (j : ℕ) (call : BundleCall), calls[j]? = some call ∧ call.outstanding = true := by
  constructor
  · rintro ⟨call, hmem, hout⟩
    obtain ⟨j, hj⟩ := List.mem_iff_getElem?.mp hmem
    exact ⟨j, call, hj, hout⟩
  · rintro ⟨j, call, hj, hout⟩
    exact ⟨call, List.mem_iff_getElem?.mpr ⟨j, hj⟩, hout⟩

/-- Progress of a call that leaves it outstanding, or ended, keeps everything. -/
theorem Flight.progress {b : LnetBundler} {calls : List BundleCall} (hf : Flight b calls) {j : ℕ}
    {call call' : BundleCall} (hcall : calls[j]? = some call) (hitems : call'.items = call.items)
    (hout : call'.outstanding = call.outstanding) : Flight b (calls.set j call') := by
  let R (old new : BundleCall) : Prop := new.items = old.items ∧ new.outstanding = old.outstanding
  have back : ∀ (k : ℕ) callk, (calls.set j call')[k]? = some callk →
      ∃ old, calls[k]? = some old ∧ R old callk :=
    fun _ _ hk => exists_of_getElem?_set (R := R) (fun _ => ⟨rfl, rfl⟩) hcall ⟨hitems, hout⟩ hk
  refine ⟨?_, ?_, ?_, ?_, ?_, ?_, ?_⟩
  · intro k callk hk i hi
    obtain ⟨old, hold, hitems, -⟩ := back k callk hk
    exact hf.listed k old hold i (hitems ▸ hi)
  · intro k callk hk
    obtain ⟨old, hold, hitems, -⟩ := back k callk hk
    exact hitems ▸ hf.nodup k old hold
  · intro k l callk calll hk hl i hik hil
    obtain ⟨oldk, holdk, hitemsk, -⟩ := back k callk hk
    obtain ⟨oldl, holdl, hitemsl, -⟩ := back l calll hl
    exact hf.disjoint k l oldk oldl holdk holdl i (hitemsk ▸ hik) (hitemsl ▸ hil)
  · intro k l callk calll hk hl houtk houtl
    obtain ⟨oldk, holdk, -, hk'⟩ := back k callk hk
    obtain ⟨oldl, holdl, -, hl'⟩ := back l calll hl
    exact hf.single k l oldk oldl holdk holdl (hk' ▸ houtk) (hl' ▸ houtl)
  · rw [hf.bundling_iff, exists_mem_iff_getElem?, exists_mem_iff_getElem?]
    constructor
    · rintro ⟨k, old, hk, hold⟩
      obtain ⟨callk, hk', -, hout'⟩ :=
        exists_getElem?_set (R := R) (fun _ => ⟨rfl, rfl⟩) hcall ⟨hitems, hout⟩ hk
      exact ⟨k, callk, hk', hout'.trans hold⟩
    · rintro ⟨k, callk, hk, houtk⟩
      obtain ⟨old, hold, -, hout'⟩ := back k callk hk
      exact ⟨k, old, hold, hout' ▸ houtk⟩
  · intro k callk hk houtk i hi
    obtain ⟨old, hold, hitems, hout'⟩ := back k callk hk
    exact hf.outstanding_pending k old hold (hout' ▸ houtk) i (hitems ▸ hi)
  · intro k callk hk houtk i hi
    obtain ⟨old, hold, hitems, hout'⟩ := back k callk hk
    exact hf.ended_final k old hold (hout' ▸ houtk) i (hitems ▸ hi)

/-! ### The snapshot -/

theorem sliceTo_sublist {α : Type*} (list : List α) (stop : ℤ) : (sliceTo list stop).Sublist list := by
  unfold sliceTo
  split_ifs
  · exact List.take_sublist _ _
  · exact List.take_sublist _ _

theorem mem_snapshot {b : LnetBundler} {config : Config} {i : ℕ} (h : i ∈ b.snapshot config) :
    ∃ hash, b.mempool.get hash = some i :=
  OrderedMap.mem_values_iff.mp ((sliceTo_sublist _ _).subset h)

/-- No item is twice in the mempool: its hash is its key. -/
theorem Consistent.nodup_values {b : LnetBundler} (hb : Consistent b) : b.mempool.values.Nodup := by
  have hkeys : (b.mempool.values.map b.hashOf) = b.mempool.entries.map fun e => some e.1 := by
    rw [OrderedMap.values, List.map_map]
    apply List.map_congr_left
    rintro ⟨hash, i⟩ hmem
    exact hb.mempool_hash hash i (OrderedMap.mem_entries_iff.mp hmem)
  have hnodup : (b.mempool.entries.map fun e => some e.1).Nodup := by
    have := b.mempool.nodup.map (Option.some_injective Bytes32)
    rwa [List.map_map] at this
  rw [← hkeys] at hnodup
  exact hnodup.of_map b.hashOf

theorem Flight.start {b : LnetBundler} {calls : List BundleCall} (hf : Flight b calls)
    (hb : Consistent b) (config : Config) (hbundling : b.bundling = false) {call : BundleCall}
    (hitems : call.items = b.snapshot config) (hout : call.outstanding = true) :
    Flight { b with bundling := true } (calls ++ [call]) := by
  have hended : ∀ (k : ℕ) callk, calls[k]? = some callk → callk.outstanding = false := by
    intro k callk hk
    rw [← Bool.not_eq_true]
    intro houtk
    have := hf.bundling_iff.mpr ⟨callk, List.mem_iff_getElem?.mpr ⟨k, hk⟩, houtk⟩
    rw [hbundling] at this
    cases this
  have hpending : ∀ i ∈ call.items, ∃ hash, b.hashOf i = some hash ∧
      b.statusOf i = some .pending := by
    intro i hi
    obtain ⟨hash, hget⟩ := mem_snapshot (hitems ▸ hi)
    exact ⟨hash, hb.mempool_hash hash i hget, hb.mempool_pending hash i hget⟩
  refine ⟨?_, ?_, ?_, ?_, ?_, ?_, ?_⟩
  · intro k callk hk i hi
    rcases of_getElem?_append hk with hold | ⟨-, rfl⟩
    · exact hf.listed k callk hold i hi
    · obtain ⟨hash, hhash, -⟩ := hpending i hi
      exact ⟨hash, hhash⟩
  · intro k callk hk
    rcases of_getElem?_append hk with hold | ⟨-, rfl⟩
    · exact hf.nodup k callk hold
    · rw [hitems]
      exact hb.nodup_values.sublist (sliceTo_sublist _ _)
  · intro k l callk calll hk hl i hik hil
    rcases of_getElem?_append hk with holdk | ⟨rfl, rfl⟩ <;>
      rcases of_getElem?_append hl with holdl | ⟨rfl, rfl⟩
    · exact hf.disjoint k l callk calll holdk holdl i hik hil
    · obtain ⟨-, -, hstatus⟩ := hpending i hil
      exact absurd hstatus (hf.ended_final k callk holdk (hended k callk holdk) i hik)
    · obtain ⟨-, -, hstatus⟩ := hpending i hik
      exact absurd hstatus (hf.ended_final l calll holdl (hended l calll holdl) i hil)
    · rfl
  · intro k l callk calll hk hl houtk houtl
    rcases of_getElem?_append hk with hk | ⟨rfl, -⟩
    · rw [hended k callk hk] at houtk
      cases houtk
    · rcases of_getElem?_append hl with hl | ⟨rfl, -⟩
      · rw [hended l calll hl] at houtl
        cases houtl
      · rfl
  · simp only [List.mem_append, List.mem_singleton, true_iff]
    exact ⟨call, .inr rfl, hout⟩
  · intro k callk hk houtk i hi
    rcases of_getElem?_append hk with hold | ⟨-, rfl⟩
    · exact hf.outstanding_pending k callk hold houtk i hi
    · obtain ⟨hash, -, hstatus⟩ := hpending i hi
      exact hstatus
  · intro k callk hk houtk i hi
    rcases of_getElem?_append hk with hold | ⟨-, rfl⟩
    · exact hf.ended_final k callk hold houtk i hi
    · rw [hout] at houtk
      cases houtk

/-! ### The end of a bundle -/

/-- While a call is in flight every other one has ended. -/
theorem Flight.ended_of_ne {b : LnetBundler} {calls : List BundleCall} (hf : Flight b calls) {j k : ℕ}
    {call callk : BundleCall} (hcall : calls[j]? = some call) (hout : call.outstanding = true)
    (hk : calls[k]? = some callk) (hne : k ≠ j) : callk.outstanding = false := by
  rw [← Bool.not_eq_true]
  intro houtk
  exact hne (hf.single k j callk call hk hcall houtk hout)

/-- No item of another bundle is in this one. -/
theorem Flight.not_mem_of_ne {b : LnetBundler} {calls : List BundleCall} (hf : Flight b calls)
    {j k i : ℕ} {call callk : BundleCall} (hcall : calls[j]? = some call)
    (hk : calls[k]? = some callk) (hne : k ≠ j) (hi : i ∈ callk.items) : i ∉ call.items :=
  fun hmem => hne (hf.disjoint k j callk call hk hcall i hi hmem)

theorem Flight.settles {b b' : LnetBundler} {calls : List BundleCall} (hf : Flight b calls) {j : ℕ}
    {call call' : BundleCall} (hcall : calls[j]? = some call) (hout : call.outstanding = true)
    (hitems : call'.items = call.items) (hended : call'.outstanding = false) {status : ItemStatus}
    (hstatus : status ≠ .pending) (h : Settles call.items status b b') :
    Flight b' (calls.set j call') := by
  have hothers : ∀ (k : ℕ) callk, (calls.set j call')[k]? = some callk →
      callk.outstanding = false := by
    intro k callk hk
    rcases of_getElem?_set hcall hk with ⟨-, rfl⟩ | ⟨hne, hold⟩
    · exact hended
    · exact hf.ended_of_ne hcall hout hold hne
  have back : ∀ (k : ℕ) callk, (calls.set j call')[k]? = some callk →
      ∃ old, calls[k]? = some old ∧ callk.items = old.items :=
    fun _ _ hk => exists_of_getElem?_set (R := fun old new => new.items = old.items) (fun _ => rfl)
      hcall hitems hk
  refine ⟨?_, ?_, ?_, ?_, ?_, ?_, ?_⟩
  · intro k callk hk i hi
    obtain ⟨old, hold, hitems⟩ := back k callk hk
    rw [h.hashOf_eq]
    exact hf.listed k old hold i (hitems ▸ hi)
  · intro k callk hk
    obtain ⟨old, hold, hitems⟩ := back k callk hk
    exact hitems ▸ hf.nodup k old hold
  · intro k l callk calll hk hl i hik hil
    obtain ⟨oldk, holdk, hitemsk⟩ := back k callk hk
    obtain ⟨oldl, holdl, hitemsl⟩ := back l calll hl
    exact hf.disjoint k l oldk oldl holdk holdl i (hitemsk ▸ hik) (hitemsl ▸ hil)
  · intro k l callk calll hk hl houtk
    rw [hothers k callk hk] at houtk
    cases houtk
  · rw [h.bundling_eq, exists_mem_iff_getElem?]
    constructor
    · intro hfalse
      cases hfalse
    · rintro ⟨k, callk, hk, houtk⟩
      rw [hothers k callk hk] at houtk
      cases houtk
  · intro k callk hk houtk
    rw [hothers k callk hk] at houtk
    cases houtk
  · intro k callk hk _ i hi
    rcases of_getElem?_set hcall hk with ⟨-, rfl⟩ | ⟨hne, hold⟩
    · rw [hitems] at hi
      obtain ⟨hash, hhash⟩ := hf.listed j call hcall i hi
      rw [h.statusOf_listed i hi hash hhash]
      simpa using hstatus
    · rw [h.statusOf_unlisted (hf.not_mem_of_ne hcall hold hne hi)]
      exact hf.ended_final k callk hold (hf.ended_of_ne hcall hout hold hne) i hi

theorem flight_step {env : Env} {s s' : System} {e : Event} (hb : Consistent s.bundler)
    (hf : Flight s.bundler s.bundles) (h : Effect env s e s') : Flight s'.bundler s'.bundles := by
  cases h with
  | inserted i entryPoint op userOpHash reply _ _ => exact hf.enqueue _
  | started hbundling _ => exact hf.start hb env.config hbundling rfl rfl
  | sent j call hash hcall hphase _ => exact hf.progress hcall rfl rfl
  | mined j call hash receipt hcall _ _ => exact hf.progress hcall rfl rfl
  | submitted j call hcall hphase _ =>
    exact hf.progress hcall rfl (BundleCall.outstanding_of hphase rfl).symm
  | returned j call tx receipt b hcall hphase _ _ hcomplete =>
    obtain ⟨_, _, hsettles, _⟩ := complete_ok hcomplete
    exact hf.settles hcall (BundleCall.outstanding_of hphase rfl) rfl rfl (by simp) hsettles
  | threw _ j call b err hcall hout _ hsettles _ =>
    exact hf.settles hcall hout rfl rfl (by simp) hsettles
  | _ => exact hf

theorem flight_of_reach {env : Env} {ok : System → Event → Prop} {s : System}
    (h : Reach (step env) ok System.init s) : Flight s.bundler s.bundles :=
  h.invariant_of (I := fun s => Flight s.bundler s.bundles) (fun _ hr => consistent_of_reach hr)
    flight_init fun _ _ _ hb hf _ hstep => flight_step hb hf (step_effect hstep)

/-! ## The history of the bundle in flight -/

/-- No op is filed whose hash is in the bundle in flight. -/
def NotInFlight (env : Env) (s : System) (e : Event) : Prop :=
  ∀ hash ∈ filedHash env s e, ∀ call ∈ s.bundles, call.outstanding = true →
    ¬ call.Contains s.bundler hash

instance (env : Env) (s : System) (e : Event) : Decidable (NotInFlight env s e) :=
  inferInstanceAs (Decidable (∀ hash ∈ filedHash env s e, _))

/-- The items in flight are the history's items of their hashes. -/
def Current (b : LnetBundler) (calls : List BundleCall) : Prop :=
  ∀ (j : ℕ) call, calls[j]? = some call → call.outstanding = true →
    ∀ i ∈ call.items, ∀ hash, b.hashOf i = some hash → b.history.get hash = some i

theorem Current.enqueue {b : LnetBundler} {calls : List BundleCall} (hc : Current b calls)
    (hf : Flight b calls) {item : Item}
    (hfree : ∀ call ∈ calls, call.outstanding = true → ¬ call.Contains b item.userOpHash) :
    Current (b.enqueue item) calls := by
  intro j call hcall hout i hi hash hhash
  obtain ⟨hash', hhash'⟩ := hf.listed j call hcall i hi
  rw [hashOf_enqueue_of_some item hhash'] at hhash
  have hold := hc j call hcall hout i hi hash (hhash'.trans hhash)
  rw [get_history_enqueue, if_neg]
  · exact hold
  · rintro rfl
    exact hfree call (List.mem_of_getElem? hcall) hout ⟨i, hi, hhash'.trans hhash⟩

theorem Current.start {b : LnetBundler} {calls : List BundleCall} (hc : Current b calls)
    (hb : Consistent b) (config : Config) {call : BundleCall}
    (hitems : call.items = b.snapshot config) :
    Current { b with bundling := true } (calls ++ [call]) := by
  intro j callj hcall hout i hi hash hhash
  rcases of_getElem?_append hcall with hold | ⟨-, rfl⟩
  · exact hc j callj hold hout i hi hash hhash
  · obtain ⟨hash', hget⟩ := mem_snapshot (hitems ▸ hi)
    have hsame : some hash' = some hash := (hb.mempool_hash hash' i hget).symm.trans hhash
    cases hsame
    exact hb.mempool_history hash i hget

theorem Current.progress {b : LnetBundler} {calls : List BundleCall} (hc : Current b calls) {j : ℕ}
    {call call' : BundleCall} (hcall : calls[j]? = some call) (hitems : call'.items = call.items)
    (hout : call'.outstanding = call.outstanding) : Current b (calls.set j call') := by
  intro k callk hk houtk i hi
  rcases of_getElem?_set hcall hk with ⟨rfl, rfl⟩ | ⟨-, hold⟩
  · exact hc k call hcall (hout ▸ houtk) i (hitems ▸ hi)
  · exact hc k callk hold houtk i hi

/-- After the end of a bundle nothing is in flight. -/
theorem Current.settles {b b' : LnetBundler} {calls : List BundleCall} (hf : Flight b calls)
    {j : ℕ} {call call' : BundleCall} (hcall : calls[j]? = some call)
    (hout : call.outstanding = true) (hended : call'.outstanding = false) :
    Current b' (calls.set j call') := by
  intro k callk hk houtk
  rcases of_getElem?_set hcall hk with ⟨-, rfl⟩ | ⟨hne, hold⟩
  · rw [hended] at houtk
    cases houtk
  · rw [hf.ended_of_ne hcall hout hold hne] at houtk
    cases houtk

theorem current_step {env : Env} {s s' : System} {e : Event} (hb : Consistent s.bundler)
    (hf : Flight s.bundler s.bundles) (hc : Current s.bundler s.bundles)
    (hok : NotInFlight env s e) (h : Effect env s e s') : Current s'.bundler s'.bundles := by
  cases h with
  | inserted i entryPoint op userOpHash reply hcall hvalid =>
    exact hc.enqueue hf (hok userOpHash (filedHash_eq hcall hvalid))
  | started _ _ => exact hc.start hb env.config rfl
  | sent j call hash hcall _ _ => exact hc.progress hcall rfl rfl
  | mined j call hash receipt hcall _ _ => exact hc.progress hcall rfl rfl
  | submitted j call hcall hphase _ =>
    exact hc.progress hcall rfl (BundleCall.outstanding_of hphase rfl).symm
  | returned j call tx receipt b hcall hphase _ _ _ =>
    exact Current.settles hf hcall (BundleCall.outstanding_of hphase rfl) rfl
  | threw _ j call b err hcall hout _ _ _ => exact Current.settles hf hcall hout rfl
  | _ => exact hc

theorem current_of_reach {env : Env} {ok : System → Event → Prop} {s : System}
    (hok : ∀ s e, ok s e → NotInFlight env s e) (h : Reach (step env) ok System.init s) :
    Current s.bundler s.bundles :=
  h.invariant_of (I := fun s => Current s.bundler s.bundles)
    (fun _ hr => And.intro (consistent_of_reach hr) (flight_of_reach hr))
    (fun _ _ hcall => by cases hcall)
    fun s e _ hs hc hstep hok' => current_step hs.1 hs.2 hc (hok s e hstep) (step_effect hok')

/-! ## Calls that resolve -/

/-- The op of a call of `sendUserOperation` that is suspended. -/
def SendCall.op? : SendCall → Option UserOp
  | .hashing _ op => some op
  | .simulating _ op _ => some op
  | _ => none

/-- The op of a call that resolves between two states, with what it resolves to. -/
def resolvedOp (before after : SendCall) : Option (UserOp × Bytes32) :=
  match before.op?, after with
  | some op, .resolved hash => some (op, hash)
  | _, _ => none

/-- The ops of all calls that resolve between two states. -/
def resolvedOps (s s' : System) : List (UserOp × Bytes32) :=
  (s.sends.zip s'.sends).filterMap fun calls => resolvedOp calls.1 calls.2

/-- The op whose call the event makes resolve, with its hash: the hash is known, or the simulation
    lets the op pass. -/
def acceptedOp (env : Env) (s : System) : Event → Option (UserOp × Bytes32)
  | .hashReply i (.ok hash) =>
    match s.sends[i]? with
    | some (.hashing _ op) => if s.bundler.isKnown hash then some (op, hash) else none
    | _ => none
  | .simulateReply i reply =>
    match s.sends[i]? with
    | some (.simulating _ op hash) =>
      if (simulateValidation env.config.simulationMode reply).isOk then some (op, hash) else none
    | _ => none
  | _ => none

theorem resolvedOp_eq_some {before after : SendCall} {op : UserOp} {hash : Bytes32} :
    resolvedOp before after = some (op, hash) ↔ before.op? = some op ∧ after = .resolved hash := by
  unfold resolvedOp
  split
  · rename_i op' hash' hop
    simp [hop]
  · rename_i hnone
    refine iff_of_false (fun h => by cases h) ?_
    rintro ⟨hop, rfl⟩
    exact hnone op hash hop rfl

theorem mem_resolvedOps {s s' : System} {op : UserOp} {hash : Bytes32} : (op, hash) ∈ resolvedOps s s' ↔
    ∃ (i : ℕ) (call : SendCall), s.sends[i]? = some call ∧ call.op? = some op ∧
      s'.sends[i]? = some (.resolved hash) := by
  simp only [resolvedOps, List.mem_filterMap, resolvedOp_eq_some]
  constructor
  · rintro ⟨⟨before, after⟩, hmem, hop, rfl⟩
    obtain ⟨i, hi⟩ := List.mem_iff_getElem?.mp hmem
    obtain ⟨hbefore, hafter⟩ := List.getElem?_zip_eq_some.mp hi
    exact ⟨i, before, hbefore, hop, hafter⟩
  · rintro ⟨i, call, hcall, hop, hresolved⟩
    have hi : (s.sends.zip s'.sends)[i]? = some (call, .resolved hash) :=
      List.getElem?_zip_eq_some.mpr ⟨hcall, hresolved⟩
    exact ⟨(call, .resolved hash), List.mem_of_getElem? hi, hop, rfl⟩

/-- A call that is neither resumed nor made in a step does not resolve in it. -/
theorem not_mem_resolvedOps_of_sends {s s' : System} (h : s'.sends = s.sends) (op : UserOp) (hash : Bytes32) :
    (op, hash) ∉ resolvedOps s s' := by
  rw [mem_resolvedOps, h]
  rintro ⟨i, call, hcall, hop, hresolved⟩
  rw [hcall] at hresolved
  cases hresolved
  cases hop

/-- Only the call that is resumed can resolve. -/
theorem mem_resolvedOps_setSend {s s' : System} {k : ℕ} {call next : SendCall} {op₀ : UserOp}
    (hcall : s.sends[k]? = some call) (hop₀ : call.op? = some op₀) (hsends : s'.sends = s.sends.set k next)
    {op : UserOp} {hash : Bytes32} : (op, hash) ∈ resolvedOps s s' ↔ op₀ = op ∧ next = .resolved hash := by
  rw [mem_resolvedOps, hsends]
  constructor
  · rintro ⟨i, call', hcall', hop, hresolved⟩
    rcases of_getElem?_set hcall hresolved with ⟨rfl, hnext⟩ | ⟨-, hold⟩
    · rw [hcall] at hcall'
      cases hcall'
      exact ⟨Option.some.inj (hop₀.symm.trans hop), hnext.symm⟩
    · rw [hcall'] at hold
      cases hold
      cases hop
  · rintro ⟨rfl, rfl⟩
    refine ⟨k, call, hcall, hop₀, ?_⟩
    rw [getElem?_set_of_some hcall, if_pos rfl]

/-- The calls that resolve in a step are those that the event makes resolve. -/
theorem mem_resolvedOps_iff {env : Env} {s s' : System} {e : Event} (h : Effect env s e s') {op : UserOp}
    {hash : Bytes32} : (op, hash) ∈ resolvedOps s s' ↔ acceptedOp env s e = some (op, hash) := by
  cases h with
  | called params =>
    refine iff_of_false ?_ (fun h => by cases h)
    rw [mem_resolvedOps]
    rintro ⟨i, call, hcall, hop, hresolved⟩
    rcases of_getElem?_append hresolved with hold | ⟨hi, -⟩
    · rw [hcall] at hold
      cases hold
      cases hop
    · have := (List.getElem?_eq_some_iff.mp hcall).1
      omega
  | unhashed k entryPoint op' err hcall =>
    exact (mem_resolvedOps_setSend hcall rfl rfl).trans (by simp [acceptedOp])
  | known k entryPoint op' hash' hcall hknown =>
    exact (mem_resolvedOps_setSend hcall rfl rfl).trans (by simp [acceptedOp, hcall, hknown])
  | checked k entryPoint op' hash' hcall hnew =>
    exact (mem_resolvedOps_setSend hcall rfl rfl).trans (by simp [acceptedOp, hcall, hnew])
  | refused k entryPoint op' hash' reply err hcall hinvalid =>
    exact (mem_resolvedOps_setSend hcall rfl rfl).trans
      (by simp [acceptedOp, hcall, hinvalid, Except.isOk, Except.toBool])
  | inserted k entryPoint op' hash' reply hcall hvalid =>
    exact (mem_resolvedOps_setSend hcall rfl rfl).trans
      (by simp [acceptedOp, hcall, hvalid, Except.isOk, Except.toBool])
  | threw e j call b err hcall hphase he =>
    refine iff_of_false (not_mem_resolvedOps_of_sends rfl op hash) ?_
    cases e with
    | submitReply _ _ => exact fun h => by cases h
    | waitReply _ _ => exact fun h => by cases h
    | _ => cases he
  | _ => exact iff_of_false (not_mem_resolvedOps_of_sends rfl op hash) fun h => by cases h

end AccountAbstraction.Bundler
