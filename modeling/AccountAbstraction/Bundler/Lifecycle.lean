import AccountAbstraction.Bundler.Invariant

/-!
# Bundles and items over whole runs

* `Effect.keeps_call`: a call of `bundleNow` keeps its items, and ends once.
* `status_step`: the status of an item changes at most once, away from `pending`.
* `bundle_lifecycle`: one bundle in flight at a time, bundles in the order of the mempool,
  and the life of an item.
-/

namespace AccountAbstraction.Bundler

open Js LnetBundler

/-! ## Steps of a bundle -/

/-- The items and the submission of a bundle never change, and an ended call does not go on. -/
theorem Effect.keeps_call {env : Env} {s s' : System} {e : Event} (h : Effect env s e s') {j : ℕ}
    {call : BundleCall} (hcall : s.bundles[j]? = some call) :
    ∃ call', s'.bundles[j]? = some call' ∧ call'.items = call.items ∧
      call'.submission = call.submission ∧
      (call'.outstanding = true → call.outstanding = true) := by
  have replaced : ∀ {k : ℕ} {old new : BundleCall}, s.bundles[k]? = some old →
      new.items = old.items → new.submission = old.submission →
      (new.outstanding = true → old.outstanding = true) →
      ∃ call', (s.bundles.set k new)[j]? = some call' ∧ call'.items = call.items ∧
        call'.submission = call.submission ∧
        (call'.outstanding = true → call.outstanding = true) := by
    intro k old new hold hitems hsubmission hout
    exact exists_getElem?_set
      (R := fun old new => new.items = old.items ∧ new.submission = old.submission ∧
        (new.outstanding = true → old.outstanding = true))
      (fun _ => ⟨rfl, rfl, id⟩) hold ⟨hitems, hsubmission, hout⟩ hcall
  cases h with
  | started _ _ =>
    refine ⟨call, ?_, rfl, rfl, id⟩
    rw [List.getElem?_append_left (List.getElem?_eq_some_iff.mp hcall).1, hcall]
  | sent k old hash hold _ _ => exact replaced hold rfl rfl id
  | mined k old hash receipt hold _ _ => exact replaced hold rfl rfl id
  | submitted k old hold hphase _ =>
    exact replaced hold rfl rfl fun _ => BundleCall.outstanding_of hphase rfl
  | returned k old tx receipt b hold _ _ _ _ => exact replaced hold rfl rfl (by intro h; cases h)
  | threw _ k old b err hold _ _ _ _ => exact replaced hold rfl rfl (by intro h; cases h)
  | _ => exact ⟨call, hcall, rfl, rfl, id⟩

/-- `s'` follows on `s` by the start of a bundle. -/
def StartsBundle (env : Env) (s s' : System) : Prop :=
  s.bundler.bundling = false ∧ s'.bundler.bundling = true ∧
    ∃ call, s'.bundles = s.bundles ++ [call] ∧ call.outstanding = true ∧ call.items ≠ [] ∧
      call.items = s.bundler.mempool.values.take
        (min env.config.maxBundleSize.toNat s.bundler.mempool.size) ∧
      call.submission = submitDirect env.config s.bundler call.items

theorem snapshot_eq_take {config : Config} (hsize : 1 ≤ config.maxBundleSize) (b : LnetBundler) :
    b.snapshot config = b.mempool.values.take (min config.maxBundleSize.toNat b.mempool.size) := by
  rw [LnetBundler.snapshot, sliceTo, if_pos (by omega), ← OrderedMap.length_values, List.take_eq_take_iff]
  omega

/-- Only `bundleNow` makes a bundle. -/
theorem Effect.starts {env : Env} (hsize : 1 ≤ env.config.maxBundleSize) {s s' : System}
    {e : Event} (h : Effect env s e s') :
    s'.bundles.length = s.bundles.length ∨ (e = .bundleNow ∧ StartsBundle env s s') := by
  cases h with
  | started hbundling hne =>
    right
    refine ⟨rfl, hbundling, rfl, _, rfl, rfl, ?_, snapshot_eq_take hsize _, rfl⟩
    intro hempty
    have hlength : (s.bundler.snapshot env.config).length = 0 := by
      rw [show s.bundler.snapshot env.config = [] from hempty, List.length_nil]
    rw [snapshot_eq_take hsize, List.length_take, OrderedMap.length_values] at hlength
    omega
  | sent _ _ _ _ _ _ => exact .inl List.length_set
  | mined _ _ _ _ _ _ _ => exact .inl List.length_set
  | submitted _ _ _ _ _ => exact .inl List.length_set
  | returned _ _ _ _ _ _ _ _ _ _ => exact .inl List.length_set
  | threw _ _ _ _ _ _ _ _ _ _ => exact .inl List.length_set
  | _ => exact .inl rfl

/-! ## The life of an item -/

/-- The end of a bundle takes its items from `pending` to their final status. -/
theorem status_settles {b b' : LnetBundler} {calls : List BundleCall} (hf : Flight b calls) {j : ℕ}
    {call : BundleCall} (hcall : calls[j]? = some call) (hout : call.outstanding = true)
    {final : ItemStatus} (h : Settles call.items final b b') {i : ℕ} {status : ItemStatus}
    (hstatus : b.statusOf i = some status) :
    b'.statusOf i = some status ∨ (status = .pending ∧ b'.statusOf i = some final) := by
  by_cases hi : i ∈ call.items
  · obtain ⟨hash, hhash⟩ := hf.listed j call hcall i hi
    have hpending := hf.outstanding_pending j call hcall hout i hi
    rw [hstatus] at hpending
    cases hpending
    exact .inr ⟨rfl, h.statusOf_listed i hi hash hhash⟩
  · exact .inl (by rw [h.statusOf_unlisted hi, hstatus])

theorem status_step {env : Env} {s s' : System} {e : Event} (hf : Flight s.bundler s.bundles)
    (h : Effect env s e s') {i : ℕ} {status : ItemStatus}
    (hstatus : s.bundler.statusOf i = some status) :
    s'.bundler.statusOf i = some status ∨ (status = .pending ∧
      (s'.bundler.statusOf i = some .included ∨ s'.bundler.statusOf i = some .failed)) := by
  cases h with
  | inserted k entryPoint op userOpHash reply _ _ =>
    left
    obtain ⟨item, hitem, -⟩ := statusOf_eq_some.mp hstatus
    show (s.bundler.enqueue _).statusOf i = some status
    rw [statusOf_enqueue, if_neg, hstatus]
    exact Nat.ne_of_lt (List.getElem?_eq_some_iff.mp hitem).1
  | returned j call tx receipt b hcall hphase _ _ hcomplete =>
    obtain ⟨_, _, hsettles, _⟩ := complete_ok hcomplete
    rcases status_settles hf hcall (BundleCall.outstanding_of hphase rfl) hsettles hstatus
      with hsame | ⟨hpending, hfinal⟩
    · exact .inl hsame
    · exact .inr ⟨hpending, .inl hfinal⟩
  | threw _ j call b err hcall hout _ hsettles _ =>
    rcases status_settles hf hcall hout hsettles hstatus with hsame | ⟨hpending, hfinal⟩
    · exact .inl hsame
    · exact .inr ⟨hpending, .inr hfinal⟩
  | _ => exact .inl hstatus

/-- An item starts as `pending`. -/
theorem status_born {env : Env} {s s' : System} {e : Event} (h : Effect env s e s') {i : ℕ}
    (hnone : s.bundler.statusOf i = none) {status : ItemStatus}
    (hstatus : s'.bundler.statusOf i = some status) : status = .pending := by
  -- A settled bundle has no new items.
  have settled : ∀ {items : List ℕ} {final : ItemStatus} {b : LnetBundler},
      Settles items final s.bundler b → b.statusOf i ≠ some status := by
    intro items final b hsettles hb
    obtain ⟨item, hitem, -⟩ := statusOf_eq_some.mp hb
    have hhash : s.bundler.hashOf i = some item.userOpHash := by
      rw [← hsettles.hashOf_eq]
      exact hashOf_eq_some.mpr ⟨item, hitem, rfl⟩
    obtain ⟨_, hsome⟩ := exists_statusOf hhash
    rw [hnone] at hsome
    cases hsome
  have same : s.bundler.statusOf i ≠ some status := by simp [hnone]
  cases h with
  | inserted k entryPoint op userOpHash reply _ _ =>
    have hstatus : (s.bundler.enqueue (newItem userOpHash op entryPoint)).statusOf i = some status :=
      hstatus
    rw [statusOf_enqueue] at hstatus
    split_ifs at hstatus with hi
    · cases hstatus
      rfl
    · exact absurd hstatus same
  | returned j call tx receipt b _ _ _ _ hcomplete =>
    obtain ⟨_, _, hsettles, _⟩ := complete_ok hcomplete
    exact absurd hstatus (settled hsettles)
  | threw _ j call b err _ _ _ hsettles _ => exact absurd hstatus (settled hsettles)
  | _ => exact absurd hstatus same

/-- A well-formed receipt takes every item of its bundle to `included`. -/
theorem included_of_waitReply {env : Env} {s s' : System} (hf : Flight s.bundler s.bundles) {j : ℕ}
    {receipt : Receipt} (hwf : receipt.WellFormed)
    (hstep : step env s (.waitReply j (.ok (some receipt))) = some s') {call : BundleCall}
    (hcall : s.bundles[j]? = some call) {i : ℕ} (hi : i ∈ call.items) :
    s'.bundler.statusOf i = some .included := by
  obtain ⟨hash, hhash⟩ := hf.listed j call hcall i hi
  have heffect := step_effect hstep
  generalize he : Event.waitReply j (.ok (some receipt)) = e at heffect
  cases heffect with
  | returned k call' tx r b hcall' _ _ _ hcomplete =>
    cases he
    rw [hcall] at hcall'
    cases hcall'
    obtain ⟨_, _, hsettles, _⟩ := complete_ok hcomplete
    exact hsettles.statusOf_listed i hi hash hhash
  | threw _ k call' b err _ _ hfails _ _ =>
    subst he
    simp [Event.failing, hwf] at hfails
  | _ => cases he

/-- The bundler over every run. One bundle is in flight at a time and `bundling` says whether
    one is; a bundle is the front of the mempool at its start and keeps its items; an item is
    in one bundle at most and leaves `pending` once, for `included` or `failed`; what the
    mempool holds is pending. -/
theorem bundle_lifecycle {env : Env} (hsize : 1 ≤ env.config.maxBundleSize) {s : System}
    (h : Reachable (step env) System.init s) :
    (∀ (j k : ℕ) callj callk, s.bundles[j]? = some callj → s.bundles[k]? = some callk →
      callj.outstanding = true → callk.outstanding = true → j = k) ∧
    (s.bundler.bundling = true ↔ ∃ call ∈ s.bundles, call.outstanding = true) ∧
    (∀ e s', step env s e = some s' →
      s'.bundles.length = s.bundles.length ∨ (e = .bundleNow ∧ StartsBundle env s s')) ∧
    (∀ e s', step env s e = some s' → ∀ (j : ℕ) call, s.bundles[j]? = some call →
      ∃ call', s'.bundles[j]? = some call' ∧ call'.items = call.items ∧
        call'.submission = call.submission ∧
        (call'.outstanding = true → call.outstanding = true)) ∧
    (∀ (j k : ℕ) callj callk, s.bundles[j]? = some callj → s.bundles[k]? = some callk →
      callj.items.Nodup ∧ ∀ i ∈ callj.items, i ∈ callk.items → j = k) ∧
    (∀ e s', step env s e = some s' → ∀ i status,
      (s.bundler.statusOf i = none → s'.bundler.statusOf i = some status → status = .pending) ∧
      (s.bundler.statusOf i = some status → s'.bundler.statusOf i = some status ∨
        (status = .pending ∧ (s'.bundler.statusOf i = some .included ∨
          s'.bundler.statusOf i = some .failed)))) ∧
    (∀ (j : ℕ) receipt s', receipt.WellFormed →
      step env s (.waitReply j (.ok (some receipt))) = some s' →
      ∀ call, s.bundles[j]? = some call → ∀ i ∈ call.items,
        s'.bundler.statusOf i = some .included) ∧
    (∀ hash i, s.bundler.mempool.get hash = some i → s.bundler.statusOf i = some .pending) := by
  have hb := consistent_of_reach h
  have hf := flight_of_reach h
  refine ⟨hf.single, hf.bundling_iff, ?_, ?_, ?_, ?_, ?_, hb.mempool_pending⟩
  · intro e s' hstep
    exact (step_effect hstep).starts hsize
  · intro e s' hstep j call hcall
    exact (step_effect hstep).keeps_call hcall
  · intro j k callj callk hj hk
    exact ⟨hf.nodup j callj hj, hf.disjoint j k callj callk hj hk⟩
  · intro e s' hstep i status
    exact ⟨fun hnone => status_born (step_effect hstep) hnone,
      fun hstatus => status_step hf (step_effect hstep) hstatus⟩
  · intro j receipt s' hwf hstep call hcall i hi
    exact included_of_waitReply hf hwf hstep hcall hi

/-- Two ops and bundles of one: the bundler is bundling the first, and both are pending. -/
theorem bundle_lifecycle_sample : ∃ s : System, s.bundles.map BundleCall.items = [[0]] ∧
    s.bundler.bundling = true ∧ s.bundler.statusOf 0 = some .pending ∧ s.bundler.statusOf 1 = some .pending := by
  obtain ⟨s, hreach, hs⟩ := Reach.exists_of_run (step singleEnv) System.init twoFiled
    (fun s => s.bundles.map BundleCall.items == [[0]] && s.bundles.any BundleCall.outstanding &&
      s.bundler.mempool.get sampleHash == some 0 && s.bundler.mempool.get otherHash == some 1)
    (by decide +kernel)
  simp only [Bool.and_eq_true, beq_iff_eq] at hs
  obtain ⟨⟨⟨hitems, hany⟩, hfirst⟩, hsecond⟩ := hs
  have hsize : 1 ≤ singleEnv.config.maxBundleSize := by decide
  have hlife := bundle_lifecycle hsize hreach
  have hpending := hlife.2.2.2.2.2.2.2
  exact ⟨s, hitems, hlife.2.1.mpr (List.any_eq_true.mp hany), hpending _ _ hfirst, hpending _ _ hsecond⟩

end AccountAbstraction.Bundler
