import AccountAbstraction.Bundler.Lifecycle

/-!
# All or nothing

The canonical EntryPoint reverts `handleOps` as a whole when one op fails its validation
phase, and `bundleNow` puts every op of a bundle into one `handleOps`. The verdict of a
bundle is therefore that of all its ops together.

`passes j op` is the verdict of the validation phase on `op` in the transaction of the
`j`-th bundle.

* `bundle_all_or_nothing`: every bundle that ended was included as a whole, if all its ops
  pass, or failed and dropped as a whole; all other items are pending.
* `valid_op_dropped`: a valid op is dropped with an invalid one, and included alone.
-/

namespace AccountAbstraction.Bundler

open Js LnetBundler

/-! ## The canonical EntryPoint -/

/-- The node takes the transaction, it is mined with status 1 exactly when all ops of the
    bundle pass, and `tx.wait()` resolves for a status of 1 and rejects otherwise. -/
def Canonical (passes : ℕ → UserOp → Prop) (s : System) : Event → Prop
  | .submitReply _ (.error _) => False
  | .mine j receipt => ∀ call ∈ s.bundles[j]?,
    (receipt.status = some 1 ↔ ∀ op ∈ call.submission.ops, passes j op)
  | .waitReply _ (.ok (some receipt)) => receipt.status = some 1 ∧ receipt.WellFormed
  | .waitReply _ (.ok none) => False
  | .waitReply j (.error _) => ∀ call ∈ s.bundles[j]?,
    call.minedReceipt.isSome = true ∧ call.succeeded = false
  | _ => True

instance (passes : ℕ → UserOp → Prop) [∀ j op, Decidable (passes j op)] (s : System) (e : Event) :
    Decidable (Canonical passes s e) :=
  match e with
  | .submitReply _ (.error _) => inferInstanceAs (Decidable False)
  | .submitReply _ (.ok _) => inferInstanceAs (Decidable True)
  | .mine j receipt => inferInstanceAs (Decidable (∀ call ∈ s.bundles[j]?,
      (receipt.status = some 1 ↔ ∀ op ∈ call.submission.ops, passes j op)))
  | .waitReply _ (.ok (some receipt)) =>
    inferInstanceAs (Decidable (receipt.status = some 1 ∧ receipt.WellFormed))
  | .waitReply _ (.ok none) => inferInstanceAs (Decidable False)
  | .waitReply j (.error _) => inferInstanceAs (Decidable (∀ call ∈ s.bundles[j]?,
      call.minedReceipt.isSome = true ∧ call.succeeded = false))
  | .sendUserOperation _ => inferInstanceAs (Decidable True)
  | .hashReply _ _ => inferInstanceAs (Decidable True)
  | .simulateReply _ _ => inferInstanceAs (Decidable True)
  | .bundleNow => inferInstanceAs (Decidable True)
  | .broadcast _ _ => inferInstanceAs (Decidable True)

variable {passes : ℕ → UserOp → Prop}

/-- What the chain and the bundler know of every bundle. -/
structure Verdicts (passes : ℕ → UserOp → Prop) (b : LnetBundler) (calls : List BundleCall) :
    Prop where
  ops : ∀ (j : ℕ) call, calls[j]? = some call → call.submission.ops = call.items.filterMap b.opOf
  mined : ∀ (j : ℕ) call, calls[j]? = some call → ∀ receipt, call.minedReceipt = some receipt →
    (receipt.status = some 1 ↔ ∀ op ∈ call.submission.ops, passes j op)
  included : ∀ (j : ℕ) call, calls[j]? = some call → call.phase = .resolved →
    (∀ op ∈ call.submission.ops, passes j op) ∧
      ∀ i ∈ call.items, b.statusOf i = some .included
  failed : ∀ (j : ℕ) call err, calls[j]? = some call → call.phase = .rejected err →
    (¬ ∀ op ∈ call.submission.ops, passes j op) ∧
      ∀ i ∈ call.items, b.statusOf i = some .failed
  others : ∀ i status, b.statusOf i = some status → status ≠ .pending →
    ∃ (j : ℕ) (call : BundleCall), calls[j]? = some call ∧ call.outstanding = false ∧
      i ∈ call.items

theorem verdicts_init : Verdicts passes LnetBundler.init [] where
  ops _ _ h := by cases h
  mined _ _ h := by cases h
  included _ _ h := by cases h
  failed _ _ _ h := by cases h
  others _ _ h := by cases h

theorem Verdicts.enqueue {b : LnetBundler} {calls : List BundleCall} (hv : Verdicts passes b calls)
    (hf : Flight b calls) {item : Item} (hpending : item.status = .pending) :
    Verdicts passes (b.enqueue item) calls where
  ops j call hcall := by
    rw [hv.ops j call hcall]
    apply List.filterMap_congr
    intro i hi
    obtain ⟨hash, hhash⟩ := hf.listed j call hcall i hi
    exact (opOf_enqueue_of_hashOf item hhash).symm
  mined := hv.mined
  included j call hcall hphase := by
    obtain ⟨hpass, hstatus⟩ := hv.included j call hcall hphase
    refine ⟨hpass, ?_⟩
    intro i hi
    obtain ⟨hash, hhash⟩ := hf.listed j call hcall i hi
    rw [statusOf_enqueue_of_hashOf item hhash]
    exact hstatus i hi
  failed j call err hcall hphase := by
    obtain ⟨hpass, hstatus⟩ := hv.failed j call err hcall hphase
    refine ⟨hpass, ?_⟩
    intro i hi
    obtain ⟨hash, hhash⟩ := hf.listed j call hcall i hi
    rw [statusOf_enqueue_of_hashOf item hhash]
    exact hstatus i hi
  others i status hstatus hne := by
    rw [statusOf_enqueue] at hstatus
    split_ifs at hstatus with hi
    · rw [hpending] at hstatus
      exact absurd (Option.some.inj hstatus).symm hne
    · exact hv.others i status hstatus hne

theorem Verdicts.start {b : LnetBundler} {calls : List BundleCall} (hv : Verdicts passes b calls)
    {call : BundleCall} (hops : call.submission.ops = call.items.filterMap b.opOf)
    (hphase : call.phase = .submitting) (htx : call.tx = none) (bundling : Bool) :
    Verdicts passes { b with bundling := bundling } (calls ++ [call]) where
  ops j callj hcall := by
    rcases of_getElem?_append hcall with hold | ⟨-, rfl⟩
    · exact hv.ops j callj hold
    · exact hops
  mined j callj hcall receipt hreceipt := by
    rcases of_getElem?_append hcall with hold | ⟨-, rfl⟩
    · exact hv.mined j callj hold receipt hreceipt
    · rw [BundleCall.minedReceipt, htx] at hreceipt
      cases hreceipt
  included j callj hcall hresolved := by
    rcases of_getElem?_append hcall with hold | ⟨-, rfl⟩
    · exact hv.included j callj hold hresolved
    · rw [hphase] at hresolved
      cases hresolved
  failed j callj err hcall hrejected := by
    rcases of_getElem?_append hcall with hold | ⟨-, rfl⟩
    · exact hv.failed j callj err hold hrejected
    · rw [hphase] at hrejected
      cases hrejected
  others i status hstatus hne := by
    obtain ⟨j, callj, hcall, hended, hi⟩ := hv.others i status hstatus hne
    refine ⟨j, callj, ?_, hended, hi⟩
    rw [List.getElem?_append_left (List.getElem?_eq_some_iff.mp hcall).1, hcall]

/-- A call that goes on, or whose transaction goes on. -/
theorem Verdicts.progress {b : LnetBundler} {calls : List BundleCall} (hv : Verdicts passes b calls)
    {j : ℕ} {call call' : BundleCall} (hcall : calls[j]? = some call)
    (hitems : call'.items = call.items) (hsubmission : call'.submission = call.submission)
    (hout : call'.outstanding = call.outstanding)
    (hphase : call'.phase = call.phase ∨ call'.outstanding = true)
    (hmined : ∀ receipt, call'.minedReceipt = some receipt →
      (receipt.status = some 1 ↔ ∀ op ∈ call.submission.ops, passes j op)) :
    Verdicts passes b (calls.set j call') where
  ops k callk hk := by
    rcases of_getElem?_set hcall hk with ⟨rfl, rfl⟩ | ⟨-, hold⟩
    · rw [hsubmission, hitems]
      exact hv.ops k call hcall
    · exact hv.ops k callk hold
  mined k callk hk receipt hreceipt := by
    rcases of_getElem?_set hcall hk with ⟨rfl, rfl⟩ | ⟨-, hold⟩
    · rw [hsubmission]
      exact hmined receipt hreceipt
    · exact hv.mined k callk hold receipt hreceipt
  included k callk hk hresolved := by
    rcases of_getElem?_set hcall hk with ⟨rfl, rfl⟩ | ⟨-, hold⟩
    · rw [hsubmission, hitems]
      rcases hphase with hsame | hgoes
      · exact hv.included k call hcall (hsame ▸ hresolved)
      · rw [BundleCall.outstanding, hresolved] at hgoes
        cases hgoes
    · exact hv.included k callk hold hresolved
  failed k callk err hk hrejected := by
    rcases of_getElem?_set hcall hk with ⟨rfl, rfl⟩ | ⟨-, hold⟩
    · rw [hsubmission, hitems]
      rcases hphase with hsame | hgoes
      · exact hv.failed k call err hcall (hsame ▸ hrejected)
      · rw [BundleCall.outstanding, hrejected] at hgoes
        cases hgoes
    · exact hv.failed k callk err hold hrejected
  others i status hstatus hne := by
    obtain ⟨k, callk, hk, hended, hi⟩ := hv.others i status hstatus hne
    obtain ⟨new, hnew, hout', hitems'⟩ := exists_getElem?_set
      (R := fun old new => new.outstanding = old.outstanding ∧ new.items = old.items)
      (fun _ => ⟨rfl, rfl⟩) hcall ⟨hout, hitems⟩ hk
    exact ⟨k, new, hnew, hout'.trans hended, hitems' ▸ hi⟩

theorem Verdicts.settles {b b' : LnetBundler} {calls : List BundleCall}
    (hv : Verdicts passes b calls) (hf : Flight b calls) {j : ℕ} {call call' : BundleCall}
    (hcall : calls[j]? = some call) (hitems : call'.items = call.items)
    (hsubmission : call'.submission = call.submission) (htx : call'.tx = call.tx)
    {status : ItemStatus} (h : Settles call.items status b b')
    (hended : (call'.phase = .resolved ∧ status = .included ∧
        ∀ op ∈ call.submission.ops, passes j op) ∨
      (call'.phase.outstanding = false ∧ call'.phase ≠ .resolved ∧ status = .failed ∧
        ¬ ∀ op ∈ call.submission.ops, passes j op)) :
    Verdicts passes b' (calls.set j call') := by
  have hstatus : ∀ i ∈ call.items, b'.statusOf i = some status := by
    intro i hi
    obtain ⟨hash, hhash⟩ := hf.listed j call hcall i hi
    exact h.statusOf_listed i hi hash hhash
  have hothers : ∀ (k : ℕ) callk, k ≠ j → calls[k]? = some callk → ∀ i ∈ callk.items,
      b'.statusOf i = b.statusOf i := by
    intro k callk hne hk i hi
    exact h.statusOf_unlisted (hf.not_mem_of_ne hcall hk hne hi)
  have houtstanding : call'.outstanding = false := by
    rcases hended with ⟨hphase, -⟩ | ⟨hphase, -⟩
    · rw [BundleCall.outstanding, hphase]
      rfl
    · exact hphase
  refine ⟨?_, ?_, ?_, ?_, ?_⟩
  · intro k callk hk
    have hops : ∀ items : List ℕ, items.filterMap b'.opOf = items.filterMap b.opOf :=
      fun items => List.filterMap_congr fun i _ => h.opOf_eq i
    rcases of_getElem?_set hcall hk with ⟨rfl, rfl⟩ | ⟨-, hold⟩
    · rw [hsubmission, hitems, hops]
      exact hv.ops k call hcall
    · rw [hops]
      exact hv.ops k callk hold
  · intro k callk hk receipt hreceipt
    rcases of_getElem?_set hcall hk with ⟨rfl, rfl⟩ | ⟨-, hold⟩
    · rw [hsubmission]
      rw [BundleCall.minedReceipt, htx] at hreceipt
      exact hv.mined k call hcall receipt hreceipt
    · exact hv.mined k callk hold receipt hreceipt
  · intro k callk hk hresolved
    rcases of_getElem?_set hcall hk with ⟨rfl, rfl⟩ | ⟨hne, hold⟩
    · rcases hended with ⟨-, rfl, hpass⟩ | ⟨-, hnot, -⟩
      · rw [hsubmission, hitems]
        exact ⟨hpass, hstatus⟩
      · exact absurd hresolved hnot
    · obtain ⟨hpass, hincluded⟩ := hv.included k callk hold hresolved
      exact ⟨hpass, fun i hi => (hothers k callk hne hold i hi).trans (hincluded i hi)⟩
  · intro k callk err hk hrejected
    rcases of_getElem?_set hcall hk with ⟨rfl, rfl⟩ | ⟨hne, hold⟩
    · rcases hended with ⟨hresolved, -⟩ | ⟨-, -, rfl, hnot⟩
      · rw [hresolved] at hrejected
        cases hrejected
      · rw [hsubmission, hitems]
        exact ⟨hnot, hstatus⟩
    · obtain ⟨hnot, hfailed⟩ := hv.failed k callk err hold hrejected
      exact ⟨hnot, fun i hi => (hothers k callk hne hold i hi).trans (hfailed i hi)⟩
  · intro i st hst hne
    by_cases hi : i ∈ call.items
    · exact ⟨j, call', by rw [getElem?_set_of_some hcall, if_pos rfl], houtstanding, hitems ▸ hi⟩
    · rw [h.statusOf_unlisted hi] at hst
      obtain ⟨k, callk, hk, hendedk, hik⟩ := hv.others i st hst hne
      have hkj : k ≠ j := by
        rintro rfl
        rw [hcall] at hk
        cases hk
        exact hi hik
      exact ⟨k, callk, by rw [getElem?_set_of_some hcall, if_neg hkj, hk], hendedk, hik⟩

theorem verdicts_step {env : Env} {s s' : System} {e : Event} (hf : Flight s.bundler s.bundles)
    (hv : Verdicts passes s.bundler s.bundles) (hok : Canonical passes s e)
    (h : Effect env s e s') : Verdicts passes s'.bundler s'.bundles := by
  cases h with
  | inserted i entryPoint op userOpHash reply _ _ => exact hv.enqueue hf rfl
  | started _ _ => exact hv.start rfl rfl rfl true
  | sent j call hash hcall _ htx =>
    refine hv.progress hcall rfl rfl rfl (.inl rfl) ?_
    intro receipt h
    cases h
  | mined j call hash receipt hcall htx _ =>
    refine hv.progress hcall rfl rfl rfl (.inl rfl) ?_
    intro receipt' h
    cases h
    exact hok call hcall
  | submitted j call hcall hphase _ =>
    have hout : call.outstanding = true := BundleCall.outstanding_of hphase rfl
    exact hv.progress hcall rfl rfl hout.symm (.inr rfl) (hv.mined j call hcall)
  | returned j call tx receipt b hcall hphase htx hreceipt hcomplete =>
    obtain ⟨_, _, hsettles, _⟩ := complete_ok hcomplete
    have hmined : call.minedReceipt = some receipt := by
      rw [BundleCall.minedReceipt, htx, Option.bind_some, hreceipt]
    exact hv.settles hf hcall rfl rfl rfl hsettles
      (.inl ⟨rfl, rfl, (hv.mined j call hcall receipt hmined).mp hok.1⟩)
  | threw e j call b err hcall hout he hsettles _ =>
    refine hv.settles hf hcall rfl rfl rfl hsettles (.inr ⟨rfl, by simp, rfl, ?_⟩)
    -- Of the events that make `bundleNow` throw, only a reverted transaction is canonical.
    cases e with
    | submitReply k reply =>
      cases reply with
      | ok _ => cases he
      | error err' => exact hok.elim
    | waitReply k reply =>
      cases reply with
      | ok receipt =>
        cases receipt with
        | none => exact hok.elim
        | some receipt => simp [Event.failing, hok.2] at he
      | error err' =>
        cases he
        obtain ⟨hsome, hnot⟩ := hok call hcall
        obtain ⟨receipt, hreceipt⟩ := Option.isSome_iff_exists.mp hsome
        intro hpass
        have hstatus := (hv.mined _ call hcall receipt hreceipt).mpr hpass
        simp [BundleCall.succeeded, hreceipt, hstatus] at hnot
    | _ => cases he
  | _ => exact hv

theorem verdicts_of_reach {env : Env} {s : System}
    (h : Reach (step env) (Canonical passes) System.init s) : Verdicts passes s.bundler s.bundles :=
  h.invariant_of (I := fun s => Verdicts passes s.bundler s.bundles)
    (fun _ hr => flight_of_reach hr) verdicts_init
    fun _ _ _ hf hv hok hstep => verdicts_step hf hv hok (step_effect hstep)

/-! ## The result -/

/-- A bundle whose call ended is included if all its ops pass, and failed and out of the mempool
    if one does not; the items of all other bundles, and those in none, are pending. So it
    is the validity of the ops of its own bundle that decides what becomes of an op. -/
theorem bundle_all_or_nothing {env : Env} {s : System}
    (h : Reach (step env) (Canonical passes) System.init s) :
    (∀ (j : ℕ) call, s.bundles[j]? = some call →
      call.submission.ops = call.items.filterMap s.bundler.opOf) ∧
    (∀ (j : ℕ) call, s.bundles[j]? = some call → call.outstanding = false →
      ((∀ op ∈ call.submission.ops, passes j op) →
        ∀ i ∈ call.items, s.bundler.statusOf i = some .included) ∧
      ((¬ ∀ op ∈ call.submission.ops, passes j op) → ∀ i ∈ call.items,
        s.bundler.statusOf i = some .failed ∧ ∀ hash, s.bundler.mempool.get hash ≠ some i)) ∧
    (∀ i status, s.bundler.statusOf i = some status →
      (∀ call ∈ s.bundles, i ∈ call.items → call.outstanding = true) → status = .pending) := by
  have hb := consistent_of_reach h
  have hv := verdicts_of_reach h
  refine ⟨hv.ops, ?_, ?_⟩
  · intro j call hcall hended
    rcases call.phase_of_ended hended with hphase | ⟨err, hphase⟩
    · obtain ⟨hpass, hincluded⟩ := hv.included j call hcall hphase
      exact ⟨fun _ => hincluded, fun hnot => absurd hpass hnot⟩
    · obtain ⟨hnot, hfailed⟩ := hv.failed j call err hcall hphase
      refine ⟨fun hpass => absurd hpass hnot, ?_⟩
      intro _ i hi
      refine ⟨hfailed i hi, ?_⟩
      intro hash hget
      have hpending := hb.mempool_pending hash i hget
      rw [hfailed i hi] at hpending
      cases hpending
  · intro i status hstatus hin
    by_contra hne
    obtain ⟨j, call, hcall, hended, hi⟩ := hv.others i status hstatus hne
    rw [hin call (List.mem_of_getElem? hcall) hi] at hended
    cases hended

/-- A validation phase that only the ops of one sender do not pass. -/
def passesUnlessFives (_ : ℕ) (op : UserOp) : Prop :=
  op.sender.val ≠ "0x5555555555555555555555555555555555555555"

instance (j : ℕ) (op : UserOp) : Decidable (passesUnlessFives j op) :=
  inferInstanceAs (Decidable (_ ≠ _))

/-- A valid op alone in its bundle is included. -/
def validAlone : List Event :=
  sampleBundle ++ [.mine 0 sampleSuccess, .waitReply 0 (.ok (some sampleSuccess))]

/-- The same op in one bundle with an invalid one. -/
def validWithInvalid : List Event :=
  [.sendUserOperation (sampleParams "0x1111111111111111111111111111111111111111"),
   .sendUserOperation (sampleParams "0x5555555555555555555555555555555555555555"),
   .hashReply 0 (.ok sampleHash), .hashReply 1 (.ok otherHash),
   .simulateReply 0 noSimulation, .simulateReply 1 noSimulation, .bundleNow,
   .broadcast 0 sampleTx, .submitReply 0 (.ok ()),
   .mine 0 (sampleReceipt sampleTx 0 []),
   .waitReply 0 (.error { message := "transaction execution reverted",
                          code := some (.str "CALL_EXCEPTION") })]

/-- Both ops of the bundle fail, and neither is left in the mempool. -/
theorem bundle_all_or_nothing_sample : ∃ s : System, ∀ i ∈ [0, 1],
    s.bundler.statusOf i = some .failed ∧ ∀ hash, s.bundler.mempool.get hash ≠ some i := by
  obtain ⟨s, hreach, hs⟩ := Reach.exists_of_guardedRun (step (sampleEnv .try'))
    (Canonical passesUnlessFives) System.init validWithInvalid
    (fun s => (s.bundles[0]?).any fun call : BundleCall => !call.outstanding && call.items == [0, 1] &&
      decide (¬ ∀ op ∈ call.submission.ops, passesUnlessFives 0 op)) (by decide +kernel)
  obtain ⟨call, hcall, hs⟩ := (Option.any_eq_true _ _).mp hs
  simp only [Bool.and_eq_true, Bool.not_eq_true', beq_iff_eq, decide_eq_true_iff] at hs
  obtain ⟨⟨hended, hitems⟩, hfails⟩ := hs
  have hverdict := ((bundle_all_or_nothing hreach).2.1 0 call hcall hended).2 hfails
  exact ⟨s, fun i hi => hverdict i (hitems ▸ hi)⟩

/-- Two runs under the canonical EntryPoint: the op passes in both, is included alone, and
    failed and dropped with an invalid op of another sender. -/
theorem valid_op_dropped : ∃ s s', Reach (step (sampleEnv .try')) (Canonical passesUnlessFives)
      System.init s ∧
    Reach (step (sampleEnv .try')) (Canonical passesUnlessFives) System.init s' ∧
    s.bundler.opOf 0 = s'.bundler.opOf 0 ∧ (∃ op ∈ s.bundler.opOf 0, passesUnlessFives 0 op) ∧
    s.bundler.statusOf 0 = some .included ∧
    s'.bundler.statusOf 0 = some .failed ∧ s'.bundler.mempool.size = 0 := by
  obtain ⟨s, hreach, hs⟩ := Reach.exists_of_guardedRun (step (sampleEnv .try'))
    (Canonical passesUnlessFives) System.init validAlone
    (fun s => s.bundler.opOf 0 == some sampleOp && s.bundler.statusOf 0 == some .included)
    (by decide +kernel)
  obtain ⟨s', hreach', hs'⟩ := Reach.exists_of_guardedRun (step (sampleEnv .try'))
    (Canonical passesUnlessFives) System.init validWithInvalid
    (fun s => s.bundler.opOf 0 == some sampleOp && s.bundler.statusOf 0 == some .failed &&
      s.bundler.mempool.size == 0) (by decide +kernel)
  simp only [Bool.and_eq_true, beq_iff_eq] at hs hs'
  obtain ⟨hop, hincluded⟩ := hs
  obtain ⟨⟨hop', hfailed⟩, hsize⟩ := hs'
  exact ⟨s, s', hreach, hreach', hop.trans hop'.symm, ⟨sampleOp, hop, by decide⟩, hincluded, hfailed,
    hsize⟩

end AccountAbstraction.Bundler
