import AccountAbstraction.Batches
import AccountAbstraction.Bundler.Invariant

/-!
# The order in which ops are bundled

The mempool is a `Map`, so a bundle takes the ops whose hashes are in it the longest, and
an op that is sent again keeps its place. However the calls interleave, and whether bundles
succeed or fail, the mempool is a queue that is served in batches.

* `batches_step`: every step of the bundler is a move of that queue.
* `bundled_in_turn`: how many bundles end before the one that takes an op out of the mempool
  is determined when the op is looked at, by its place and the bundle in flight.
-/

namespace AccountAbstraction.Bundler

open Js LnetBundler

/-! ## What leaves the mempool -/

theorem keys_dropItem_sublist (b : LnetBundler) (i : ℕ) :
    (b.dropItem i).mempool.keys.Sublist b.mempool.keys := by
  unfold dropItem
  split
  · exact OrderedMap.keys_delete_sublist _ _
  · exact List.Sublist.refl _

theorem keys_settleItems_sublist (assign : Item → Item) : ∀ (items : List ℕ) (b : LnetBundler),
    (settleItems assign items b).mempool.keys.Sublist b.mempool.keys
  | [], _ => List.Sublist.refl _
  | i :: items, b =>
    (keys_settleItems_sublist assign items _).trans (keys_dropItem_sublist (b.modifyItem i assign) i)

theorem keys_abandon_sublist (b : LnetBundler) (items : List ℕ) (err : JsError) :
    (abandon b items err).mempool.keys.Sublist b.mempool.keys :=
  keys_settleItems_sublist _ items b

theorem keys_includeItems_sublist (events : OrderedMap Bytes32 UserOperationEvent)
    (receipt : Receipt) : ∀ (items : List ℕ) (b : LnetBundler),
    (includeItems events receipt items b).1.mempool.keys.Sublist b.mempool.keys
  | [], _ => List.Sublist.refl _
  | i :: items, b => by
    rw [includeItems]
    split
    · exact List.Sublist.refl _
    · rename_i r hr
      exact (keys_includeItems_sublist events receipt items _).trans
        (keys_dropItem_sublist ((b.modifyItem i (setIncluded receipt)).modifyItem i (setReceipt r)) i)

theorem keys_markIncluded_sublist (parseLog : ParseLog) (b : LnetBundler) (items : List ℕ)
    (receipt : Option Receipt) :
    (markIncluded parseLog b items receipt).1.mempool.keys.Sublist b.mempool.keys := by
  cases receipt with
  | none => exact List.Sublist.refl _
  | some receipt => exact keys_includeItems_sublist _ receipt items b

theorem keys_complete_sublist (parseLog : ParseLog) (b : LnetBundler) (items : List ℕ)
    (receipt : Option Receipt) :
    (complete parseLog b items receipt).1.mempool.keys.Sublist b.mempool.keys := by
  have hmark := keys_markIncluded_sublist parseLog b items receipt
  unfold complete
  split
  · rename_i b' heq
    rw [heq] at hmark
    exact hmark
  · rename_i b' err heq
    rw [heq] at hmark
    exact (keys_abandon_sublist b' items err).trans hmark

theorem keys_afterWait_sublist (env : Env) (s : System) (j : ℕ) (call : BundleCall)
    (reply : Except JsError (Option Receipt)) :
    (afterWait env s j call reply).bundler.mempool.keys.Sublist s.bundler.mempool.keys := by
  cases reply with
  | error err => exact keys_abandon_sublist s.bundler call.items err
  | ok receipt =>
    have hcomplete := keys_complete_sublist env.parseLog s.bundler call.items receipt
    simp only [afterWait]
    split
    · rename_i b heq
      rw [heq] at hcomplete
      exact hcomplete
    · rename_i b err heq
      rw [heq] at hcomplete
      exact hcomplete

/-- Where a call of `bundleNow` throws, keys leave the mempool, and the others keep their order. -/
theorem keys_sublist_of_failing {env : Env} {s s' : System} {e : Event} {j : ℕ}
    (h : step env s e = some s') (he : e.failing = some j) :
    s'.bundler.mempool.keys.Sublist s.bundler.mempool.keys := by
  cases e with
  | submitReply k reply =>
    simp only [step] at h
    split at h
    · rename_i call _
      split at h
      · cases he
      · rename_i err _
        cases h
        exact keys_abandon_sublist s.bundler call.items err
      · cases h
    · cases h
  | waitReply k reply =>
    simp only [step] at h
    split at h
    · rename_i call _
      split at h
      · split_ifs at h
        cases h
        exact keys_afterWait_sublist env s k call _
      · cases h
        exact keys_afterWait_sublist env s k call _
      · cases h
    · cases h
  | _ => cases he

/-! ## The bundle in flight is the front of the mempool -/

/-- The items of the call that is suspended are filed under the first keys of the mempool. -/
def Fronted (b : LnetBundler) (calls : List BundleCall) : Prop :=
  ∀ (j : ℕ) call, calls[j]? = some call → call.outstanding = true →
    call.items.map b.hashOf = (b.mempool.keys.take call.items.length).map some

theorem Fronted.length_le {b : LnetBundler} {calls : List BundleCall} (hq : Fronted b calls) {j : ℕ}
    {call : BundleCall} (hcall : calls[j]? = some call) (hout : call.outstanding = true) :
    call.items.length ≤ b.mempool.keys.length := by
  have := congrArg List.length (hq j call hcall hout)
  simp only [List.length_map, List.length_take] at this
  omega

/-- The keys of the bundle are the hashes of its items. -/
theorem Fronted.mem_take {b : LnetBundler} {calls : List BundleCall} (hq : Fronted b calls) {j : ℕ}
    {call : BundleCall} (hcall : calls[j]? = some call) (hout : call.outstanding = true)
    (hash : Bytes32) :
    hash ∈ b.mempool.keys.take call.items.length ↔ ∃ i ∈ call.items, b.hashOf i = some hash := by
  rw [← List.mem_map_of_injective (Option.some_injective Bytes32), ← hq j call hcall hout,
    List.mem_map]

theorem Fronted.enqueue {b : LnetBundler} {calls : List BundleCall} (hq : Fronted b calls)
    (hf : Flight b calls) (item : Item) : Fronted (b.enqueue item) calls := by
  intro j call hcall hout
  have hlen := hq.length_le hcall hout
  have hhash : call.items.map (b.enqueue item).hashOf = call.items.map b.hashOf := by
    apply List.map_congr_left
    intro i hi
    obtain ⟨hash, hhash⟩ := hf.listed j call hcall i hi
    rw [hashOf_enqueue_of_some item hhash, hhash]
  have hkeys : (b.enqueue item).mempool.keys.take call.items.length =
      b.mempool.keys.take call.items.length := by
    simp only [LnetBundler.enqueue, OrderedMap.keys_set]
    split_ifs
    · rfl
    · exact List.take_append_of_le_length hlen
  rw [hhash, hkeys]
  exact hq j call hcall hout

/-- The values of the mempool are filed under its keys. -/
theorem Consistent.map_hashOf_values {b : LnetBundler} (hb : Consistent b) :
    b.mempool.values.map b.hashOf = b.mempool.keys.map some := by
  rw [OrderedMap.values, OrderedMap.keys, List.map_map, List.map_map]
  apply List.map_congr_left
  rintro ⟨hash, i⟩ hmem
  exact hb.mempool_hash hash i (OrderedMap.mem_entries_iff.mp hmem)

theorem sliceTo_eq_take {α : Type*} (list : List α) (stop : ℤ) :
    ∃ k, sliceTo list stop = list.take k := by
  unfold sliceTo
  split_ifs
  · exact ⟨_, rfl⟩
  · exact ⟨_, rfl⟩

theorem Fronted.start {b : LnetBundler} {calls : List BundleCall} (hb : Consistent b)
    (hf : Flight b calls) (config : Config) (hbundling : b.bundling = false) {call : BundleCall}
    (hitems : call.items = b.snapshot config) :
    Fronted { b with bundling := true } (calls ++ [call]) := by
  intro j callj hcall hout
  rcases of_getElem?_append hcall with hold | ⟨-, rfl⟩
  · have hbusy : b.bundling = true :=
      hf.bundling_iff.mpr (exists_mem_iff_getElem?.mpr ⟨j, callj, hold, hout⟩)
    rw [hbundling] at hbusy
    cases hbusy
  · obtain ⟨k, hk⟩ := sliceTo_eq_take b.mempool.values config.maxBundleSize
    have hitems' : callj.items = b.mempool.values.take k := hitems.trans hk
    have hlen : b.mempool.values.length = b.mempool.keys.length := by
      rw [OrderedMap.length_values, OrderedMap.length_keys]
    calc callj.items.map b.hashOf = (b.mempool.values.map b.hashOf).take k := by
          rw [hitems', List.map_take]
      _ = (b.mempool.keys.take k).map some := by rw [hb.map_hashOf_values, List.map_take]
      _ = (b.mempool.keys.take callj.items.length).map some := by
          rw [hitems', List.length_take, hlen, ← List.take_eq_take_min]

theorem Fronted.progress {b : LnetBundler} {calls : List BundleCall} (hq : Fronted b calls) {j : ℕ}
    {call call' : BundleCall} (hcall : calls[j]? = some call) (hitems : call'.items = call.items)
    (hout : call'.outstanding = call.outstanding) : Fronted b (calls.set j call') := by
  intro k callk hk houtk
  rcases of_getElem?_set hcall hk with ⟨rfl, rfl⟩ | ⟨-, hold⟩
  · rw [hitems]
    exact hq k call hcall (hout ▸ houtk)
  · exact hq k callk hold houtk

theorem Fronted.settles {b b' : LnetBundler} {calls : List BundleCall} (hf : Flight b calls) {j : ℕ}
    {call call' : BundleCall} (hcall : calls[j]? = some call) (hout : call.outstanding = true)
    (hended : call'.outstanding = false) : Fronted b' (calls.set j call') := by
  intro k callk hk houtk
  rcases of_getElem?_set hcall hk with ⟨rfl, rfl⟩ | ⟨hne, hold⟩
  · rw [hended] at houtk
    cases houtk
  · rw [hf.ended_of_ne hcall hout hold hne] at houtk
    cases houtk

theorem fronted_step {env : Env} {s s' : System} {e : Event} (hb : Consistent s.bundler)
    (hf : Flight s.bundler s.bundles) (hq : Fronted s.bundler s.bundles) (h : Effect env s e s') :
    Fronted s'.bundler s'.bundles := by
  cases h with
  | inserted i entryPoint op userOpHash reply _ _ => exact hq.enqueue hf _
  | started hbundling _ => exact Fronted.start hb hf env.config hbundling rfl
  | sent j call hash hcall _ _ => exact hq.progress hcall rfl rfl
  | mined j call hash receipt hcall _ _ => exact hq.progress hcall rfl rfl
  | submitted j call hcall hphase _ =>
    exact hq.progress hcall rfl (BundleCall.outstanding_of hphase rfl).symm
  | returned j call tx receipt b hcall hphase _ _ _ =>
    exact Fronted.settles hf hcall (BundleCall.outstanding_of hphase rfl) rfl
  | threw _ j call b err hcall hout _ _ _ => exact Fronted.settles hf hcall hout rfl
  | _ => exact hq

theorem fronted_of_reach {env : Env} {ok : System → Event → Prop} {s : System}
    (h : Reach (step env) ok System.init s) : Fronted s.bundler s.bundles :=
  h.invariant_of (I := fun s => Fronted s.bundler s.bundles)
    (J := fun s => Consistent s.bundler ∧ Flight s.bundler s.bundles)
    (fun _ hr => ⟨consistent_of_reach hr, flight_of_reach hr⟩)
    (fun _ _ hcall => by cases hcall)
    fun _ _ _ hs hq _ hstep => fronted_step hs.1 hs.2 hq (step_effect hstep)

/-! ## The queue -/

/-- The calls of `bundleNow` that reached the end of their `finally`. -/
def ended (calls : List BundleCall) : ℕ := calls.countP fun call => !call.outstanding

/-- The call of `bundleNow` that is suspended. -/
def inFlight (calls : List BundleCall) : Option BundleCall := calls.find? BundleCall.outstanding

/-- The mempool with the bundle in flight, as a queue. -/
def System.batches (s : System) : Batches Bytes32 where
  waiting := s.bundler.mempool.keys
  taken := (inFlight s.bundles).map fun call => call.items.length
  served := ended s.bundles

theorem inFlight_eq_some {b : LnetBundler} {calls : List BundleCall} (hf : Flight b calls) {j : ℕ}
    {call : BundleCall} (hcall : calls[j]? = some call) (hout : call.outstanding = true) :
    inFlight calls = some call := by
  obtain ⟨c, hc⟩ : ∃ c, inFlight calls = some c := by
    rw [← Option.isSome_iff_exists, inFlight, List.find?_isSome]
    exact ⟨call, List.mem_of_getElem? hcall, hout⟩
  obtain ⟨k, hk⟩ := List.mem_iff_getElem?.mp (List.mem_of_find?_eq_some hc)
  have hkj : k = j := hf.single k j c call hk hcall (List.find?_some hc) hout
  rw [hkj, hcall] at hk
  rw [hc, hk]

theorem inFlight_eq_none {calls : List BundleCall}
    (h : ∀ (j : ℕ) call, calls[j]? = some call → call.outstanding = false) :
    inFlight calls = none := by
  rw [inFlight, List.find?_eq_none]
  intro call hmem
  obtain ⟨j, hj⟩ := List.mem_iff_getElem?.mp hmem
  simp [h j call hj]

theorem map_find?_set {α β : Type*} {p : α → Bool} {g : α → β} {l : List α} {j : ℕ} {a a' : α}
    (h : l[j]? = some a) (hp : p a' = p a) (hg : g a' = g a) :
    ((l.set j a').find? p).map g = (l.find? p).map g := by
  induction l generalizing j with
  | nil => cases h
  | cons x l ih =>
    cases j with
    | zero =>
      cases h
      simp only [List.set_cons_zero, List.find?_cons, hp]
      split
      · simp [hg]
      · rfl
    | succ j =>
      simp only [List.set_cons_succ, List.find?_cons]
      split
      · rfl
      · exact ih h

theorem countP_set_of_some {α : Type*} (p : α → Bool) {l : List α} {j : ℕ} {a : α}
    (h : l[j]? = some a) (a' : α) :
    (l.set j a').countP p + (if p a then 1 else 0) = l.countP p + if p a' then 1 else 0 := by
  obtain ⟨hlt, rfl⟩ := List.getElem?_eq_some_iff.mp h
  rw [List.countP_set hlt]
  have hle : (if p l[j] then 1 else 0) ≤ l.countP p := by
    split_ifs with hp
    · exact List.countP_pos_iff.mpr ⟨_, List.getElem_mem hlt, hp⟩
    · exact Nat.zero_le _
  omega

/-- A bundle that makes progress leaves the queue as it is. -/
theorem batches_progress {s : System} {n j : ℕ} {call call' : BundleCall}
    (hcall : s.bundles[j]? = some call) (hitems : call'.items = call.items)
    (hout : call'.outstanding = call.outstanding) :
    Batches.Step n s.batches (s.setBundle j call').batches := by
  have htaken := map_find?_set (p := BundleCall.outstanding) (g := fun c => c.items.length) hcall
    hout (congrArg List.length hitems)
  have hserved := countP_set_of_some (fun c => !c.outstanding) hcall call'
  rw [hout] at hserved
  have hbatches : (s.setBundle j call').batches = s.batches := by
    simp only [System.batches, System.setBundle, inFlight, ended, Batches.mk.injEq, true_and]
    exact ⟨htaken, Nat.add_right_cancel hserved⟩
  rw [hbatches]
  exact .idle

/-- A sublist without duplicates that lost exactly the first `k` elements. -/
theorem eq_drop_of_sublist {α : Type*} {l l' : List α} (hl : l.Nodup) (h : l'.Sublist l) {k : ℕ}
    (hgone : ∀ a ∈ l.take k, a ∉ l') (hkept : ∀ a ∈ l.drop k, a ∈ l') : l' = l.drop k := by
  rw [← List.take_append_drop k l, List.sublist_append_iff] at h
  obtain ⟨x, y, rfl, hx, hy⟩ := h
  have hnil : x = [] := by
    rw [List.eq_nil_iff_forall_not_mem]
    intro a ha
    exact hgone a (hx.subset ha) (List.mem_append_left _ ha)
  subst hnil
  rw [List.nil_append] at hkept ⊢
  exact hy.eq_of_length_le ((hl.sublist (List.drop_sublist _ _)).subperm hkept).length_le

/-- The end of a bundle takes its hashes off the front of the mempool. -/
theorem keys_settled {b b' : LnetBundler} {calls : List BundleCall} (hq : Fronted b calls) {j : ℕ}
    {call : BundleCall} (hcall : calls[j]? = some call) (hout : call.outstanding = true)
    {status : ItemStatus} (h : Settles call.items status b b')
    (hsub : b'.mempool.keys.Sublist b.mempool.keys) :
    b'.mempool.keys = b.mempool.keys.drop call.items.length := by
  refine eq_drop_of_sublist b.mempool.nodup hsub ?_ ?_
  · intro hash hmem hmem'
    obtain ⟨i, hi, hhash⟩ := (hq.mem_take hcall hout hash).mp hmem
    have hnone := h.mempool_listed i hi hash hhash
    obtain ⟨k, hk⟩ := OrderedMap.has_iff.mp (OrderedMap.mem_keys_iff.mp hmem')
    rw [hnone] at hk
    cases hk
  · intro hash hmem
    have hold : b.mempool.has hash = true :=
      OrderedMap.mem_keys_iff.mp (List.mem_of_mem_drop hmem)
    have hout' : ∀ i ∈ call.items, b.hashOf i ≠ some hash := by
      intro i hi hhash
      have hfront := (hq.mem_take hcall hout hash).mpr ⟨i, hi, hhash⟩
      exact List.disjoint_take_drop b.mempool.nodup le_rfl hfront hmem
    apply OrderedMap.mem_keys_iff.mpr
    obtain ⟨k, hk⟩ := OrderedMap.has_iff.mp hold
    exact OrderedMap.has_iff.mpr ⟨k, (h.mempool_unlisted hash hout').trans hk⟩

/-- The end of a bundle finishes the batch in hand. -/
theorem batches_settled {s : System} (hf : Flight s.bundler s.bundles)
    (hq : Fronted s.bundler s.bundles) {n j : ℕ} {call : BundleCall} {phase : BundlePhase}
    (hcall : s.bundles[j]? = some call) (hout : call.outstanding = true)
    (hended : phase.outstanding = false) {b : LnetBundler} {status : ItemStatus}
    (h : Settles call.items status s.bundler b)
    (hsub : b.mempool.keys.Sublist s.bundler.mempool.keys) :
    Batches.Step n s.batches (s.settle j call b phase).batches := by
  have htaken : inFlight (s.bundles.set j { call with phase }) = none := by
    apply inFlight_eq_none
    intro k callk hk
    rcases of_getElem?_set hcall hk with ⟨-, rfl⟩ | ⟨hne, hold⟩
    · exact hended
    · exact hf.ended_of_ne hcall hout hold hne
  have hserved : ended (s.bundles.set j { call with phase }) = ended s.bundles + 1 := by
    have := countP_set_of_some (fun c => !c.outstanding) hcall { call with phase }
    simpa [ended, hout, show BundleCall.outstanding { call with phase } = false from hended] using this
  have hbatches : (s.settle j call b phase).batches =
      { waiting := s.batches.waiting.drop call.items.length, taken := none,
        served := s.batches.served + 1 } := by
    simp only [System.batches, System.settle, keys_settled hq hcall hout h hsub, htaken, hserved,
      Option.map_none]
  rw [hbatches]
  exact .finish _ (by rw [System.batches, inFlight_eq_some hf hcall hout, Option.map_some])

theorem batches_enqueue {s : System} {n i : ℕ} {send : SendCall} (item : Item) :
    Batches.Step n s.batches
      { s.setSend i send with bundler := s.bundler.enqueue item : System }.batches := by
  have hbatches : { s.setSend i send with bundler := s.bundler.enqueue item : System }.batches =
      { s.batches with
        waiting := if s.bundler.mempool.has item.userOpHash then s.bundler.mempool.keys
          else s.bundler.mempool.keys ++ [item.userOpHash] } := by
    simp only [System.batches, System.setSend, LnetBundler.enqueue, OrderedMap.keys_set]
  rw [hbatches]
  split_ifs with hhas
  · exact .idle
  · exact .join item.userOpHash fun hmem => hhas (OrderedMap.mem_keys_iff.mp hmem)

theorem batches_started {env : Env} (hsize : 0 < env.config.maxBundleSize) {s : System}
    (hf : Flight s.bundler s.bundles) (hbundling : s.bundler.bundling = false) {call : BundleCall}
    (hitems : call.items = s.bundler.snapshot env.config) (hout : call.outstanding = true) :
    Batches.Step env.config.maxBundleSize.toNat s.batches
      { s with bundler := { s.bundler with bundling := true },
               bundles := s.bundles ++ [call] : System }.batches := by
  have hidle : ∀ call ∈ s.bundles, call.outstanding = false := by
    intro c hc
    rw [← Bool.not_eq_true]
    intro hbusy
    rw [hf.bundling_iff.mpr ⟨c, hc, hbusy⟩] at hbundling
    cases hbundling
  have hfree : inFlight s.bundles = none :=
    inFlight_eq_none fun j c hc => hidle c (List.mem_of_getElem? hc)
  have htaken : inFlight (s.bundles ++ [call]) = some call := by
    rw [inFlight, List.find?_append, ← inFlight, hfree, List.find?_singleton, if_pos hout]
    rfl
  have hlen : call.items.length =
      min env.config.maxBundleSize.toNat s.bundler.mempool.keys.length := by
    rw [hitems, LnetBundler.snapshot, sliceTo, if_pos hsize.le, List.length_take,
      OrderedMap.length_values, OrderedMap.length_keys]
  have hserved : ended (s.bundles ++ [call]) = ended s.bundles := by
    rw [ended, List.countP_append, List.countP_singleton, hout]
    rfl
  have hbatches : { s with bundler := { s.bundler with bundling := true },
                           bundles := s.bundles ++ [call] : System }.batches =
      { s.batches with
        taken := some (min env.config.maxBundleSize.toNat s.batches.waiting.length) } := by
    simp only [System.batches, htaken, hserved, Option.map_some, hlen]
  rw [hbatches]
  exact .take (by rw [System.batches, hfree, Option.map_none])

/-- Every step of the bundler is a move of the queue. -/
theorem batches_step {env : Env} (hsize : 0 < env.config.maxBundleSize) {s s' : System} {e : Event}
    (hf : Flight s.bundler s.bundles) (hq : Fronted s.bundler s.bundles)
    (h : step env s e = some s') :
    Batches.Step env.config.maxBundleSize.toNat s.batches s'.batches := by
  cases step_effect h with
  | inserted i entryPoint op userOpHash reply _ _ => exact batches_enqueue _
  | started hbundling _ => exact batches_started hsize hf hbundling rfl rfl
  | sent j call hash hcall _ _ => exact batches_progress hcall rfl rfl
  | mined j call hash receipt hcall _ _ => exact batches_progress hcall rfl rfl
  | submitted j call hcall hphase _ =>
    exact batches_progress hcall rfl (BundleCall.outstanding_of hphase rfl).symm
  | returned j call tx receipt b hcall hphase _ _ hcomplete =>
    obtain ⟨_, _, hsettles, _⟩ := complete_ok hcomplete
    refine batches_settled hf hq hcall (BundleCall.outstanding_of hphase rfl) rfl hsettles ?_
    have := keys_complete_sublist env.parseLog s.bundler call.items (some receipt)
    rwa [hcomplete] at this
  | threw _ j call b err hcall hout he hsettles _ =>
    exact batches_settled hf hq hcall hout rfl hsettles (keys_sublist_of_failing h he)
  | _ => exact .idle

/-! ## The wait of an op -/

theorem mem_waiting {s : System} {hash : Bytes32} :
    hash ∈ s.batches.waiting ↔ s.bundler.mempool.has hash = true :=
  OrderedMap.mem_keys_iff

/-- The call `j` is suspended in `s` with the op in its bundle, and in `s'` it has ended. -/
def EndsWith (s s' : System) (hash : Bytes32) : Prop :=
  ∃ (j : ℕ) (call call' : BundleCall), s.bundles[j]? = some call ∧ call.outstanding = true ∧
    call.Contains s.bundler hash ∧ s'.bundles = s.bundles.set j call' ∧ call'.items = call.items ∧
    call'.outstanding = false

/-- The bundle whose end takes an op out of the mempool has the op. -/
theorem endsWith_settle {s : System} {j : ℕ} {call : BundleCall} {phase : BundlePhase}
    (hcall : s.bundles[j]? = some call) (hbusy : call.outstanding = true)
    (hended : phase.outstanding = false) {b : LnetBundler} {status : ItemStatus}
    (h : Settles call.items status s.bundler b) {hash : Bytes32}
    (hin : s.bundler.mempool.has hash = true) (hout : b.mempool.has hash = false) :
    EndsWith s (s.settle j call b phase) hash := by
  refine ⟨j, call, { call with phase }, hcall, hbusy, ?_, rfl, rfl, hended⟩
  by_contra hno
  have hlisted : ∀ i ∈ call.items, s.bundler.hashOf i ≠ some hash :=
    fun i hi hhash => hno ⟨i, hi, hhash⟩
  rw [OrderedMap.has, h.mempool_unlisted hash hlisted, ← OrderedMap.has, hin] at hout
  cases hout

theorem endsWith_of_gone {env : Env} {s s' : System} {e : Event} (h : Effect env s e s')
    {hash : Bytes32} (hin : s.bundler.mempool.has hash = true)
    (hout : s'.bundler.mempool.has hash = false) : EndsWith s s' hash := by
  cases h with
  | inserted i entryPoint op userOpHash reply _ _ =>
    have hkept : (s.bundler.enqueue (newItem userOpHash op entryPoint)).mempool.has hash = true := by
      rw [OrderedMap.has, get_mempool_enqueue]
      split_ifs
      · rfl
      · exact hin
    rw [hkept] at hout
    cases hout
  | returned j call tx receipt b hcall hphase _ _ hcomplete =>
    obtain ⟨_, _, hsettles, _⟩ := complete_ok hcomplete
    exact endsWith_settle hcall (BundleCall.outstanding_of hphase rfl) rfl hsettles hin hout
  | threw _ j call b err hcall hbusy _ hsettles _ =>
    exact endsWith_settle hcall hbusy rfl hsettles hin hout
  | _ => exact absurd (hin.symm.trans hout) (by simp)

/-- The number of bundles that end before the one with the op: the ops ahead of it, and the
    room that a bundle in flight without it leaves unused, counted in bundles. -/
def System.turn (s : System) (config : Config) (hash : Bytes32) : ℕ :=
  s.batches.turn config.maxBundleSize.toNat hash

/-- The state is reached while the op is in the mempool, and the queue moves with the op in it. -/
theorem waits_of_reach {env : Env} (hsize : 0 < env.config.maxBundleSize) {s₀ s : System}
    {hash : Bytes32} (h₀ : Reachable (step env) System.init s₀)
    (h : Reach (step env) (fun s _ => s.bundler.mempool.has hash = true) s₀ s)
    (hhas : s.bundler.mempool.has hash = true) :
    Relation.ReflTransGen (Batches.Waits env.config.maxBundleSize.toNat hash) s₀.batches
      s.batches := by
  induction h with
  | start => exact .refl
  | next e hr hok hstep ih =>
    have hreach := h₀.trans (hr.mono fun _ _ _ => trivial)
    exact (ih hok).tail ⟨batches_step hsize (flight_of_reach hreach) (fronted_of_reach hreach) hstep,
      mem_waiting.mpr hhas⟩

theorem lawful_of_reach {env : Env} (hsize : 0 < env.config.maxBundleSize) {s : System}
    (h : Reachable (step env) System.init s) :
    Batches.Lawful env.config.maxBundleSize.toNat s.batches :=
  h.invariant_of (I := fun s => Batches.Lawful _ s.batches)
    (J := fun s => Flight s.bundler s.bundles ∧ Fronted s.bundler s.bundles)
    (fun _ hr => ⟨flight_of_reach hr, fronted_of_reach hr⟩)
    ⟨List.nodup_nil, fun _ hk => by cases hk⟩
    fun _ _ _ hs hl _ hstep => hl.step (batches_step hsize hs.1 hs.2 hstep)

/-- While an op is in the mempool, no more bundles end than its turn, and a step that takes it out
    of the mempool ends the next one, which has it. -/
theorem bundled_in_turn {env : Env} (hsize : 0 < env.config.maxBundleSize) {s₀ s : System}
    {hash : Bytes32} (h₀ : Reachable (step env) System.init s₀)
    (h : Reach (step env) (fun s _ => s.bundler.mempool.has hash = true) s₀ s)
    (hin : s.bundler.mempool.has hash = true) :
    ended s.bundles ≤ ended s₀.bundles + s₀.turn env.config hash ∧
    ∀ e s', step env s e = some s' → s'.bundler.mempool.has hash = false →
      ended s.bundles = ended s₀.bundles + s₀.turn env.config hash ∧
      ended s'.bundles = ended s.bundles + 1 ∧ EndsWith s s' hash := by
  have hn : 0 < env.config.maxBundleSize.toNat := by omega
  have hlawful := lawful_of_reach hsize h₀
  have hin₀ : hash ∈ s₀.batches.waiting :=
    mem_waiting.mpr (h.of_guard (P := fun s : System => s.bundler.mempool.has hash = true) hin)
  have hwaits := waits_of_reach hsize h₀ h hin
  refine ⟨Batches.served_le hn hlawful hin₀ hwaits, ?_⟩
  intro e s' hstep hgone
  have hreach := h₀.trans (h.mono fun _ _ _ => trivial)
  have hmove := batches_step hsize (flight_of_reach hreach) (fronted_of_reach hreach) hstep
  have hleft : hash ∉ s'.batches.waiting := by
    rw [mem_waiting, hgone]
    exact Bool.false_ne_true
  have hends := endsWith_of_gone (step_effect hstep) hin hgone
  have hserved : ended s'.bundles = ended s₀.bundles + s₀.turn env.config hash + 1 :=
    Batches.served_eq hn hlawful hin₀ hwaits hmove hleft
  have hone : ended s'.bundles = ended s.bundles + 1 := by
    obtain ⟨j, call, call', hcall, hbusy, -, hbundles, -, hended⟩ := hends
    have := countP_set_of_some (fun c => !c.outstanding) hcall call'
    rw [hbundles]
    simpa [ended, hbusy, hended] using this
  exact ⟨by omega, hone, hends⟩

/-- The bundle of the first op fails, and the second one is taken and sent. -/
def secondSent : List Event :=
  [.submitReply 0 (.error { message := "connection refused" }), .bundleNow, .broadcast 1 sampleTx,
   .submitReply 1 (.ok ()), .mine 1 (sampleReceipt sampleTx 1 [])]

/-- The second of two ops waits for one bundle, and leaves the mempool with the next one. -/
theorem bundled_in_turn_sample : ∃ s₀ s s' : System, s₀.turn singleEnv.config otherHash = 1 ∧
    ended s₀.bundles = 0 ∧ ended s.bundles = 1 ∧ ended s'.bundles = 2 ∧ EndsWith s s' otherHash := by
  let last : Event := .waitReply 1 (.ok (some (sampleReceipt sampleTx 1 [])))
  obtain ⟨s₀, hs₀, hp⟩ := Reach.exists_of_run (step singleEnv) System.init twoFiled
    (fun s₀ => decide (s₀.turn singleEnv.config otherHash = 1) && decide (ended s₀.bundles = 0) &&
      (guardedRun (step singleEnv) (fun s _ => s.bundler.mempool.has otherHash = true) s₀ secondSent).any
        fun s => s.bundler.mempool.has otherHash &&
          (step singleEnv s last).any fun s' => !s'.bundler.mempool.has otherHash) (by decide +kernel)
  simp only [Bool.and_eq_true, decide_eq_true_eq] at hp
  obtain ⟨⟨hturn, hended⟩, hrun⟩ := hp
  obtain ⟨s, hs, hp⟩ := Reach.exists_of_guardedRun _ _ s₀ _ _ hrun
  rw [Bool.and_eq_true] at hp
  obtain ⟨s', hs', hgone⟩ := (Option.any_eq_true _ _).mp hp.2
  obtain ⟨-, hlast⟩ := bundled_in_turn (by decide) hs₀ hs hp.1
  obtain ⟨hbefore, hafter, hends⟩ := hlast last s' hs' (by simpa using hgone)
  rw [hended, hturn] at hbefore
  exact ⟨s₀, s, s', hturn, hended, hbefore, by rw [hafter, hbefore], hends⟩

end AccountAbstraction.Bundler
