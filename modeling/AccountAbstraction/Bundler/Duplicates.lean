import AccountAbstraction.Bundler.Invariant

/-!
# One op, two submissions

`sendUserOperation` looks for a known hash before it suspends at `simulateValidation` and
files the op when it goes on, without a second look. Two calls with the same op can both
pass the check; the second one files the op again, even while the first copy is in flight
or after it was mined.

* `submits_once`: in a run in which no op is filed while another copy is pending, included
  or on its way to the chain, no hash is submitted twice and no two items of one hash are
  pending or included.
* `submits_twice`: the run in which the second copy is submitted after the first was mined.
-/

namespace AccountAbstraction.Bundler

open Js LnetBundler

/-! ## Statements -/

/-- The next bundle has no hash of an earlier live submission. -/
def SubmitsOnce (env : Env) (s : System) : Prop :=
  ∀ e s' new, step env s e = some s' → s'.bundles = s.bundles ++ [new] →
    ∀ hash, new.Contains s.bundler hash →
      ∀ call ∈ s.bundles, call.live = true → ¬ call.Contains s.bundler hash

/-- At most one item of a hash is pending or included. -/
def OneActive (b : LnetBundler) : Prop :=
  ∀ hash i k, b.hashOf i = some hash → b.hashOf k = some hash →
    b.statusOf i ≠ some .failed → b.statusOf k ≠ some .failed → i = k

/-- No copy of the op is pending, included or in a live submission. -/
def Fresh (s : System) (hash : Bytes32) : Prop :=
  (∀ k ∈ s.bundler.history.get hash, s.bundler.statusOf k = some .failed) ∧
    ∀ call ∈ s.bundles, call.live = true → ¬ call.Contains s.bundler hash

instance (s : System) (hash : Bytes32) : Decidable (Fresh s hash) :=
  inferInstanceAs (Decidable (_ ∧ _))

/-- An op is filed only when no other copy is under way. -/
def FreshInsertion (env : Env) (s : System) (e : Event) : Prop :=
  ∀ hash ∈ filedHash env s e, Fresh s hash

instance (env : Env) (s : System) (e : Event) : Decidable (FreshInsertion env s e) :=
  inferInstanceAs (Decidable (∀ hash ∈ filedHash env s e, Fresh s hash))

/-! ## The invariant -/

/-- What the mempool holds is in no live submission other than the one in flight, and an
    item that is not failed is the history's item of its hash. -/
structure Unique (b : LnetBundler) (calls : List BundleCall) : Prop where
  live_outstanding : ∀ hash i, b.mempool.get hash = some i → ∀ call ∈ calls, call.live = true →
    call.Contains b hash → call.outstanding = true
  active_history : ∀ hash i, b.hashOf i = some hash → b.statusOf i ≠ some .failed →
    b.history.get hash = some i

theorem unique_init : Unique LnetBundler.init [] where
  live_outstanding _ _ h := by cases h
  active_history _ _ h := by cases h

/-- A bundle that was there before an insertion contains what it contained. -/
theorem contains_enqueue {b : LnetBundler} {calls : List BundleCall} (hf : Flight b calls)
    {call : BundleCall} (hcall : call ∈ calls) {item : Item} {hash : Bytes32}
    (h : call.Contains (b.enqueue item) hash) : call.Contains b hash := by
  obtain ⟨i, hi, hhash⟩ := h
  obtain ⟨j, hj⟩ := List.mem_iff_getElem?.mp hcall
  obtain ⟨hash', hhash'⟩ := hf.listed j call hj i hi
  rw [hashOf_enqueue_of_some item hhash'] at hhash
  exact ⟨i, hi, hhash'.trans hhash⟩

theorem Unique.enqueue {b : LnetBundler} {calls : List BundleCall} (hu : Unique b calls)
    (hf : Flight b calls) {item : Item}
    (hhistory : ∀ k, b.history.get item.userOpHash = some k → b.statusOf k = some .failed)
    (hlive : ∀ call ∈ calls, call.live = true → ¬ call.Contains b item.userOpHash) :
    Unique (b.enqueue item) calls where
  live_outstanding hash i hget call hcall hl hcontains := by
    have hcontains := contains_enqueue hf hcall hcontains
    rw [get_mempool_enqueue] at hget
    split_ifs at hget with heq
    · subst heq
      exact absurd hcontains (hlive call hcall hl)
    · exact hu.live_outstanding hash i hget call hcall hl hcontains
  active_history hash i hhash hstatus := by
    rw [hashOf_enqueue] at hhash
    rw [statusOf_enqueue] at hstatus
    rw [get_history_enqueue]
    split_ifs at hhash hstatus with hi
    · cases hhash
      rw [if_pos rfl, hi]
    · have hold := hu.active_history hash i hhash hstatus
      rw [if_neg]
      · exact hold
      · rintro rfl
        exact hstatus (hhistory i hold)

theorem Unique.start {b : LnetBundler} {calls : List BundleCall} (hu : Unique b calls)
    {call : BundleCall} (hout : call.outstanding = true) (bundling : Bool) :
    Unique { b with bundling := bundling } (calls ++ [call]) where
  live_outstanding hash i hget callk hcallk hl hcontains := by
    rcases List.mem_append.mp hcallk with hold | hnew
    · exact hu.live_outstanding hash i hget callk hold hl hcontains
    · rw [List.mem_singleton.mp hnew]
      exact hout
  active_history := hu.active_history

/-- A live submission stays in flight or not, whatever becomes of its transaction. -/
theorem Unique.progress {b : LnetBundler} {calls : List BundleCall} (hu : Unique b calls) {j : ℕ}
    {call call' : BundleCall} (hcall : calls[j]? = some call) (hitems : call'.items = call.items)
    (hout : call'.outstanding = call.outstanding) (hlive : call.live = true) :
    Unique b (calls.set j call') where
  live_outstanding hash i hget callk hcallk hl hcontains := by
    rcases List.mem_or_eq_of_mem_set hcallk with hold | rfl
    · exact hu.live_outstanding hash i hget callk hold hl hcontains
    · rw [hout]
      refine hu.live_outstanding hash i hget call (List.mem_of_getElem? hcall) hlive ?_
      obtain ⟨k, hk, hhash⟩ := hcontains
      exact ⟨k, hitems ▸ hk, hhash⟩
  active_history := hu.active_history

theorem Unique.settles {b b' : LnetBundler} {calls : List BundleCall} (hu : Unique b calls)
    (hf : Flight b calls) {j : ℕ} {call call' : BundleCall} (hcall : calls[j]? = some call)
    (hout : call.outstanding = true) (hitems : call'.items = call.items) {status : ItemStatus}
    (h : Settles call.items status b b') : Unique b' (calls.set j call') where
  live_outstanding hash i hget callk hcallk hl hcontains := by
    obtain ⟨hbefore, hunlisted⟩ := h.get_mempool hget
    have hcontains : callk.Contains b hash := by
      obtain ⟨k, hk, hhash⟩ := hcontains
      exact ⟨k, hk, (h.hashOf_eq k).symm.trans hhash⟩
    rcases List.mem_or_eq_of_mem_set hcallk with hold | rfl
    · exact hu.live_outstanding hash i hbefore callk hold hl hcontains
    · obtain ⟨k, hk, hhash⟩ := hcontains
      exact absurd hhash (hunlisted k (hitems ▸ hk))
  active_history hash i hhash hstatus := by
    rw [h.hashOf_eq] at hhash
    rw [h.history_eq]
    refine hu.active_history hash i hhash ?_
    by_cases hi : i ∈ call.items
    · rw [hf.outstanding_pending j call hcall hout i hi]
      simp
    · rwa [h.statusOf_unlisted hi] at hstatus

theorem unique_step {env : Env} {s s' : System} {e : Event} (hf : Flight s.bundler s.bundles)
    (hu : Unique s.bundler s.bundles) (hok : FreshInsertion env s e) (h : Effect env s e s') :
    Unique s'.bundler s'.bundles := by
  have live_of_outstanding : ∀ {call : BundleCall}, call.outstanding = true → call.live = true := by
    intro call hout
    rw [BundleCall.live, hout, Bool.true_or]
  cases h with
  | inserted i entryPoint op userOpHash reply hcall hvalid =>
    obtain ⟨hhistory, hlive⟩ := hok userOpHash (filedHash_eq hcall hvalid)
    exact hu.enqueue hf hhistory hlive
  | started _ _ => exact hu.start rfl true
  | sent j call hash hcall hphase _ =>
    exact hu.progress hcall rfl rfl
      (live_of_outstanding (BundleCall.outstanding_of hphase rfl))
  | mined j call hash receipt hcall htx _ =>
    exact hu.progress hcall rfl rfl (by simp [BundleCall.live, htx])
  | submitted j call hcall hphase _ =>
    have hout : call.outstanding = true := BundleCall.outstanding_of hphase rfl
    exact hu.progress hcall rfl (by rw [hout]; rfl) (live_of_outstanding hout)
  | returned j call tx receipt b hcall hphase _ _ hcomplete =>
    obtain ⟨_, _, hsettles, _⟩ := complete_ok hcomplete
    exact hu.settles hf hcall (BundleCall.outstanding_of hphase rfl) rfl hsettles
  | threw _ j call b err hcall hout _ hsettles _ => exact hu.settles hf hcall hout rfl hsettles
  | _ => exact hu

theorem unique_of_reach {env : Env} {s : System}
    (h : Reach (step env) (FreshInsertion env) System.init s) : Unique s.bundler s.bundles :=
  h.invariant_of (I := fun s => Unique s.bundler s.bundles) (fun _ hr => flight_of_reach hr)
    unique_init fun _ _ _ hf hu hok hstep => unique_step hf hu hok (step_effect hstep)

/-! ## The result -/

theorem Unique.oneActive {b : LnetBundler} {calls : List BundleCall} (hu : Unique b calls) :
    OneActive b := by
  intro hash i k hi hk hstatusi hstatusk
  have hgeti := hu.active_history hash i hi hstatusi
  have hgetk := hu.active_history hash k hk hstatusk
  rw [hgeti] at hgetk
  exact Option.some.inj hgetk

theorem append_singleton_ne_self {α : Type*} (l : List α) (a : α) : l ≠ l ++ [a] := by
  intro h
  have := congrArg List.length h
  rw [List.length_append, List.length_singleton] at this
  omega

/-- The new bundle of a step is a snapshot of the mempool. -/
theorem Effect.new_bundle {env : Env} {s s' : System} {e : Event} (h : Effect env s e s')
    {new : BundleCall} (hnew : s'.bundles = s.bundles ++ [new]) :
    s.bundler.bundling = false ∧ new.items = s.bundler.snapshot env.config := by
  have length_eq : ∀ {l : List BundleCall}, l.length = s.bundles.length →
      l ≠ s.bundles ++ [new] := by
    intro l hl heq
    rw [heq, List.length_append, List.length_singleton] at hl
    omega
  cases h with
  | started hbundling _ =>
    cases List.append_cancel_left hnew
    exact ⟨hbundling, rfl⟩
  | sent _ _ _ _ _ _ => exact absurd hnew (length_eq List.length_set)
  | mined _ _ _ _ _ _ _ => exact absurd hnew (length_eq List.length_set)
  | submitted _ _ _ _ _ => exact absurd hnew (length_eq List.length_set)
  | returned _ _ _ _ _ _ _ _ _ _ => exact absurd hnew (length_eq List.length_set)
  | threw _ _ _ _ _ _ _ _ _ _ => exact absurd hnew (length_eq List.length_set)
  | _ => exact absurd hnew (append_singleton_ne_self _ _)

/-- In a run in which no op is filed while another copy of it is pending, included or in a
    live submission, no hash is put into a second submission, and at most one item of a hash
    is pending or included. -/
theorem submits_once {env : Env} {s : System}
    (h : Reach (step env) (FreshInsertion env) System.init s) :
    SubmitsOnce env s ∧ OneActive s.bundler := by
  have hb := consistent_of_reach h
  have hf := flight_of_reach h
  have hu := unique_of_reach h
  refine ⟨?_, hu.oneActive⟩
  intro e s' new hstep hnew hash hcontains call hcall hlive hcontains'
  obtain ⟨hbundling, hitems⟩ := (step_effect hstep).new_bundle hnew
  obtain ⟨i, hi, hhash⟩ := hcontains
  obtain ⟨hash', hget⟩ := mem_snapshot (hitems ▸ hi)
  have hsame : some hash' = some hash := (hb.mempool_hash hash' i hget).symm.trans hhash
  cases hsame
  have hout := hu.live_outstanding hash i hget call hcall hlive hcontains'
  rw [hf.bundling_iff.mpr ⟨call, hcall, hout⟩] at hbundling
  cases hbundling

/-- Two calls with one op pass the check, and the node refuses the bundle of the first copy before
    the second one is filed and bundled. -/
def refilledCopy : List Event :=
  let op := sampleParams "0x1111111111111111111111111111111111111111"
  [.sendUserOperation op, .sendUserOperation op, .hashReply 0 (.ok sampleHash),
   .hashReply 1 (.ok sampleHash), .simulateReply 0 noSimulation, .bundleNow,
   .submitReply 0 (.error { message := "connection refused" }), .simulateReply 1 noSimulation,
   .bundleNow]

theorem submits_once_sample : ∃ s : System, s.bundles.map BundleCall.items = [[0], [1]] ∧
    s.bundler.hashOf 0 = s.bundler.hashOf 1 ∧ SubmitsOnce (sampleEnv .try') s ∧ OneActive s.bundler := by
  obtain ⟨s, hreach, hs⟩ := Reach.exists_of_guardedRun (step (sampleEnv .try'))
    (FreshInsertion (sampleEnv .try')) System.init refilledCopy
    (fun s => s.bundles.map BundleCall.items == [[0], [1]] && s.bundler.hashOf 0 == s.bundler.hashOf 1)
    (by decide +kernel)
  simp only [Bool.and_eq_true, beq_iff_eq] at hs
  exact ⟨s, hs.1, hs.2, submits_once hreach⟩

/-- Two calls with one op pass the check; the first copy is bundled and mined before the
    second is filed. -/
def racingCalls : List Event :=
  let op := sampleParams "0x1111111111111111111111111111111111111111"
  [.sendUserOperation op, .sendUserOperation op, .hashReply 0 (.ok sampleHash),
   .hashReply 1 (.ok sampleHash), .simulateReply 0 noSimulation, .bundleNow,
   .broadcast 0 sampleTx, .submitReply 0 (.ok ()), .mine 0 sampleSuccess,
   .waitReply 0 (.ok (some sampleSuccess)), .simulateReply 1 noSimulation]

theorem startBundle_bundles (env : Env) {s : System}
    (h : (s.bundler.bundling || s.bundler.mempool.size == 0) = false) :
    ∃ new, (startBundle env s).bundles = s.bundles ++ [new] ∧
      new.items = s.bundler.snapshot env.config := by
  rw [startBundle, if_neg (by rw [h]; exact Bool.false_ne_true)]
  exact ⟨_, rfl, rfl⟩

theorem submits_twice : ∃ s, Reachable (step (sampleEnv .try')) System.init s ∧
    ¬ SubmitsOnce (sampleEnv .try') s ∧ ¬ OneActive s.bundler := by
  let hash := sampleHash
  obtain ⟨s, hreach, hs⟩ := Reach.exists_of_run (step (sampleEnv .try')) System.init racingCalls
    (fun s => !(s.bundler.bundling || s.bundler.mempool.size == 0) &&
      s.bundler.snapshot (sampleEnv .try').config == [1] &&
      s.bundler.hashOf 0 == some hash && s.bundler.hashOf 1 == some hash &&
      s.bundler.statusOf 0 == some .included && s.bundler.statusOf 1 == some .pending &&
      s.bundles.any fun call => call.live && call.items == [0]) (by decide +kernel)
  simp only [Bool.and_eq_true, beq_iff_eq, Bool.not_eq_true', List.any_eq_true] at hs
  obtain ⟨⟨⟨⟨⟨⟨hstarts, hsnapshot⟩, hhash₀⟩, hhash₁⟩, hincluded⟩, hpending⟩, call, hcall, hlive,
    hitems⟩ := hs
  obtain ⟨new, hnew, hnewitems⟩ := startBundle_bundles (sampleEnv .try') hstarts
  refine ⟨s, hreach, ?_, ?_⟩
  · intro honce
    refine honce .bundleNow _ new rfl hnew hash ⟨1, ?_, hhash₁⟩ call hcall hlive ⟨0, ?_, hhash₀⟩
    · rw [hnewitems, hsnapshot]
      exact List.mem_singleton_self 1
    · rw [hitems]
      exact List.mem_singleton_self 0
  · intro hone
    have := hone hash 0 1 hhash₀ hhash₁ (by simp [hincluded]) (by simp [hpending])
    omega

end AccountAbstraction.Bundler
