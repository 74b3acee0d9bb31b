import AccountAbstraction.Contracts.Calls
import AccountAbstraction.Run

/-!
# Who may act for an account

The guards of the account, over whole runs. As long as the owner does not call, and the
EntryPoint only asks for validations of ops that the owner did not sign and calls with
validated ops, nobody can do more to the account than fund it, however calls are nested
and whatever is undone.

* `step_inv`: what one step leaves as it was.
* `unauthorized_run`: owner and implementation stay, balance and deposit never decrease,
  and the account makes no call but the one in `addDeposit`.
-/

namespace AccountAbstraction.Contracts

open Js Abi

variable {logic : Logic} {owner : Address} {base : World}

/-! ## The condition on the calls -/

/-- The steps of a run in which nobody acts for the owner: no call comes from it, and the
    EntryPoint only calls `validateUserOp`, for ops that the owner did not sign, and the call
    data of ops whose validation has succeeded. -/
def Unauthorized (logic : Logic) (owner : Address) (m : Machine) : CallEvent → Prop
  | .call sender _ data => sender ≠ owner ∧ (sender = logic.entryPoint →
      (∃ userOp userOpHash missingAccountFunds,
        logic.dispatch data = some (.validateUserOp userOp userOpHash missingAccountFunds) ∧
          ¬LnetAccount.SignedBy logic owner userOp userOpHash) ∨
      ∃ userOp ∈ m.world.validated, data = userOp.callData)
  | _ => True

/-! ## The invariant -/

/-- A call that passes the caller's value on to the deposit, as `addDeposit` does. -/
def Sent.IsForward (s : Sent) : Prop := s.call = .depositTo s.msgValue

/-- What holds of the world between the account's calls; `base` is an earlier one. -/
structure World.Kept (logic : Logic) (owner : Address) (w base : World) : Prop where
  account : w.account.IsInitialized logic owner
  balance : base.balance ≤ w.balance
  deposit : base.deposit ≤ w.deposit
  sent : ∀ s ∈ w.sent, s.IsForward
  validated : w.validated = []

/-- The calls under way are those of code outside the account. -/
def Frame.Kept (logic : Logic) (owner : Address) (base : World) : Frame → Prop
  | .callee .outside saved => saved.Kept logic owner base
  | _ => False

/-- How far a call of the account has come. -/
inductive Running (logic : Logic) (owner : Address) (base w : World) (msgValue : ℕ) :
    Option (PackedUserOperation × ℕ) → List OutCall → Prop
  | idle (hw : w.Kept logic owner base) : Running logic owner base w msgValue none []
  /-- `addDeposit` has yet to pass the value on. -/
  | addDeposit (hw : w.Kept logic owner base) (hvalue : base.balance + msgValue ≤ w.balance) :
    Running logic owner base w msgValue none [.depositTo msgValue]
  /-- A validation that will be undone may have paid the EntryPoint. -/
  | failed (userOp : PackedUserOperation) (rest : List OutCall)
      (haccount : w.account.IsInitialized logic owner)
      (hrest : rest = [] ∨ ∃ missing, rest = [.payPrefund missing]) :
    Running logic owner base w msgValue (some (userOp, sigValidationFailed)) rest

/-- The invariant. A call of the account is only ever the innermost one. -/
inductive Inv (logic : Logic) (owner : Address) (base : World) : Machine → Prop
  | outside {w : World} {stack : List Frame} (hw : w.Kept logic owner base)
      (hstack : ∀ f ∈ stack, f.Kept logic owner base) : Inv logic owner base ⟨w, stack⟩
  | running {w saved : World} {msgValue : ℕ} {validation : Option (PackedUserOperation × ℕ)}
      {rest : List OutCall} {stack : List Frame} (hsaved : saved.Kept logic owner base)
      (hstack : ∀ f ∈ stack, f.Kept logic owner base)
      (hrun : Running logic owner base w msgValue validation rest) :
    Inv logic owner base ⟨w, .account saved msgValue validation rest :: stack⟩

theorem not_kept_account {saved : World} {msgValue : ℕ}
    {validation : Option (PackedUserOperation × ℕ)} {rest : List OutCall} :
    ¬(Frame.account saved msgValue validation rest).Kept logic owner base := id

/-- Where no call of the account waits, a failure ends with the call that failed. -/
theorem abort_of_kept {saved : World} {stack : List Frame}
    (hstack : ∀ f ∈ stack, f.Kept logic owner base) : Machine.abort saved stack = ⟨saved, stack⟩ := by
  cases stack with
  | nil => rfl
  | cons f stack =>
    cases f with
    | callee who saved' => rfl
    | account => exact absurd (hstack _ List.mem_cons_self) not_kept_account

theorem World.Kept.refl_of {w : World} (h : w.Kept logic owner base) : w.Kept logic owner w :=
  ⟨h.account, le_rfl, le_rfl, h.sent, h.validated⟩

/-- Ether and deposits that arrive. -/
theorem World.Kept.receive {w : World} (h : w.Kept logic owner base) (value amount : ℕ) :
    World.Kept logic owner
      { w with balance := w.balance + value, deposit := w.deposit + amount } base := by
  have hbalance := h.balance
  have hdeposit := h.deposit
  exact ⟨h.account, by show _ ≤ w.balance + value; omega, by show _ ≤ w.deposit + amount; omega,
    h.sent, h.validated⟩

/-- Where code outside the account runs, the world is kept. -/
theorem Inv.kept {m : Machine} (h : Inv logic owner base m) (hout : m.isOutside = true) :
    m.world.Kept logic owner base ∧ ∀ f ∈ m.stack, f.Kept logic owner base := by
  cases h with
  | outside hw hstack => exact ⟨hw, hstack⟩
  | running => cases hout

theorem Inv.account {m : Machine} (h : Inv logic owner base m) :
    m.world.account.IsInitialized logic owner := by
  cases h with
  | outside hw => exact hw.account
  | running _ _ hrun =>
    cases hrun with
    | idle hw => exact hw.account
    | addDeposit hw => exact hw.account
    | failed _ _ haccount => exact haccount

/-! ## One step -/

/-- A stranger's call of the account. -/
theorem enterAccount_inv {sender : Address} {value : ℕ} {data : Bytes} {w : World}
    {stack : List Frame} (hw : w.Kept logic owner base) (hstack : ∀ f ∈ stack, f.Kept logic owner base)
    (howner : sender ≠ owner) (hself : sender ≠ w.account.address)
    (hentry : sender = logic.entryPoint → ∃ userOp userOpHash missingAccountFunds,
      logic.dispatch data = some (.validateUserOp userOp userOpHash missingAccountFunds) ∧
        ¬LnetAccount.SignedBy logic owner userOp userOpHash) :
    Inv logic owner base (Machine.enterAccount logic w sender value data w stack) := by
  have hpaid := hw.receive value 0
  have himpl : w.account.implementation = logic.address := hw.account.implementation
  unfold Machine.enterAccount
  simp only
  rw [if_pos himpl]
  cases hplan : w.account.fallback logic sender value data with
  | none =>
    show Inv logic owner base (Machine.abort w stack)
    rw [abort_of_kept hstack]
    exact .outside hw hstack
  | some plan =>
    -- the three outcomes that a stranger's call can have
    cases LnetAccount.fallback_of_stranger hw.account howner hself hentry hplan with
    | idle => exact .running hw hstack (.idle hpaid)
    | addDeposit =>
      have hbalance := hw.balance
      exact .running hw hstack
        (.addDeposit hpaid (by show base.balance + value ≤ w.balance + value; omega))
    | failed userOp missing =>
      refine .running hw hstack (.failed userOp _ hw.account ?_)
      by_cases hmissing : missing ≠ 0
      · exact .inr ⟨missing.val, by rw [LnetAccount.payPrefund, if_pos hmissing]⟩
      · exact .inl (by rw [LnetAccount.payPrefund, if_neg hmissing])

/-- A step of the account through its own call. -/
theorem proceed_inv {m m' : Machine} (h : Inv logic owner base m)
    (hstep : Machine.step logic m .proceed = some m') : Inv logic owner base m' := by
  cases h with
  | outside hw hstack =>
    rename_i w stack
    cases stack with
    | nil => cases hstep
    | cons f stack =>
      cases f with
      | callee => cases hstep
      | account => exact absurd (hstack _ List.mem_cons_self) not_kept_account
  | running hsaved hstack hrun =>
    rename_i w saved msgValue validation rest stack
    cases hrun with
    | idle hw =>
      cases hstep
      exact .outside hw hstack
    | addDeposit hw hvalue =>
      cases hstep
      have hdeposit := hw.deposit
      unfold Machine.perform
      simp only
      rw [if_neg (by omega)]
      refine .running hsaved hstack (.idle ⟨hw.account, ?_, ?_, ?_, hw.validated⟩)
      · show base.balance ≤ w.balance - msgValue
        omega
      · show base.deposit ≤ w.deposit + msgValue
        omega
      · intro s hs
        rcases List.mem_append.mp hs with hs | hs
        · exact hw.sent s hs
        · rw [List.mem_singleton.mp hs]
          rfl
    | failed userOp rest haccount hrest =>
      rcases hrest with rfl | ⟨missing, rfl⟩
      · -- the EntryPoint undoes the validation
        cases hstep
        exact .outside hsaved hstack
      · cases hstep
        unfold Machine.perform
        simp only
        by_cases hbalance : w.balance < missing
        · rw [if_pos hbalance]
          exact .running hsaved hstack (.failed userOp [] haccount (.inl rfl))
        · rw [if_neg hbalance]
          exact .running hsaved hstack (.failed userOp [] haccount (.inl rfl))

/-- The end of a call of code outside the account. -/
theorem leave_inv {m m' : Machine} {reverts : Bool} (h : Inv logic owner base m)
    (hstep : Machine.step logic m (.leave reverts) = some m') : Inv logic owner base m' := by
  cases h with
  | running => cases hstep
  | outside hw hstack =>
    rename_i w stack
    cases stack with
    | nil => cases hstep
    | cons f stack =>
      cases f with
      | account => cases hstep
      | callee who saved =>
        have hrest : ∀ f ∈ stack, f.Kept logic owner base :=
          fun f hf => hstack f (List.mem_cons_of_mem _ hf)
        cases who with
        | entryPoint => exact (hstack _ List.mem_cons_self).elim
        | inPlace => exact (hstack _ List.mem_cons_self).elim
        | outside =>
          have hsaved : saved.Kept logic owner base := hstack _ List.mem_cons_self
          cases reverts with
          | false => cases hstep; exact .outside hw hrest
          | true =>
            cases hstep
            show Inv logic owner base (Machine.abort saved stack)
            rw [abort_of_kept hrest]
            exact .outside hsaved hrest

/-- No code but the account's own runs in its place or for it. -/
theorem Inv.callee_outside {w : World} {who : Callee} {saved : World} {stack : List Frame}
    (h : Inv logic owner base ⟨w, .callee who saved :: stack⟩) : who = .outside := by
  cases h with
  | outside _ hstack =>
    have hf := hstack _ List.mem_cons_self
    cases who with
    | outside => rfl
    | entryPoint => exact hf.elim
    | inPlace => exact hf.elim

/-- One step of a run in which nobody acts for the owner. -/
theorem step_inv {m m' : Machine} {e : CallEvent} (h : Inv logic owner base m)
    (hok : Unauthorized logic owner m e) (hstep : Machine.step logic m e = some m') :
    Inv logic owner base m' := by
  cases e with
  | proceed => exact proceed_inv h hstep
  | leave reverts => exact leave_inv h hstep
  | call sender value data =>
    simp only [Machine.step] at hstep
    split_ifs at hstep with hcond
    cases hstep
    obtain ⟨hw, hstack⟩ := h.kept hcond.1
    obtain ⟨howner, hentry⟩ := hok
    refine enterAccount_inv hw hstack howner hcond.2 fun hsender => ?_
    rcases hentry hsender with hvalidate | ⟨userOp, hmem, -⟩
    · exact hvalidate
    · -- no op has been validated
      rw [hw.validated] at hmem
      cases hmem
  | enter =>
    simp only [Machine.step] at hstep
    split_ifs at hstep with hcond
    cases hstep
    obtain ⟨hw, hstack⟩ := h.kept hcond
    exact .outside hw (List.forall_mem_cons.mpr ⟨hw, hstack⟩)
  | fund amount =>
    simp only [Machine.step] at hstep
    split_ifs at hstep with hcond
    cases hstep
    obtain ⟨hw, hstack⟩ := h.kept hcond
    exact .outside (hw.receive amount 0) hstack
  | depositTo amount =>
    simp only [Machine.step] at hstep
    split_ifs at hstep with hcond
    cases hstep
    obtain ⟨hw, hstack⟩ := h.kept hcond
    exact .outside (hw.receive 0 amount) hstack
  | charge userOp amount =>
    simp only [Machine.step] at hstep
    split_ifs at hstep with hcond
    obtain ⟨hw, -⟩ := h.kept hcond.1
    have hmem := hcond.2.1
    rw [hw.validated] at hmem
    cases hmem
  | settle deposit =>
    obtain ⟨w, stack⟩ := m
    simp only [Machine.step] at hstep
    split at hstep
    · cases h.callee_outside
    · cases hstep
  | rewrite world =>
    obtain ⟨w, stack⟩ := m
    simp only [Machine.step] at hstep
    split at hstep
    · cases h.callee_outside
    · cases hstep

/-! ## The run -/

theorem Inv.of_reach {m m' : Machine} (h : Inv logic owner base m)
    (hreach : Reach (Machine.step logic) (Unauthorized logic owner) m m') : Inv logic owner base m' :=
  hreach.invariant h fun _ _ _ hinv hok hstep => step_inv hinv hok hstep

/-- Where no call is under way, the world is kept from there on. -/
theorem Inv.rebase {m : Machine} (h : Inv logic owner base m) (hidle : m.stack = []) :
    Inv logic owner m.world m := by
  obtain ⟨w, stack⟩ := m
  cases hidle
  exact .outside (h.kept rfl).1.refl_of (by simp)

theorem start_inv {account : LnetAccount} (h : account.IsInitialized logic owner)
    (balance deposit : ℕ) :
    Inv logic owner ⟨account, balance, deposit, [], []⟩ (Machine.start account balance deposit) := by
  refine .outside ⟨h, le_rfl, le_rfl, ?_, rfl⟩ ?_
  · intro s hs
    cases hs
  · intro f hf
    cases hf

/-- Let an account be deployed for an owner. In a run of any steps in which nobody acts for the
    owner, owner and implementation stay. Whenever code outside the account runs, balance and
    deposit are no less than they were at any earlier time with no call under way, and the
    account has made no call, of those that were not undone, but the forwarding of a caller's
    value to the deposit. -/
theorem unauthorized_run {address creator : Address} {data : Bytes} {plan : Plan} {balance deposit : ℕ}
    {m₁ m₂ : Machine} (hdata : logic.dispatch data = some (.initializeProxy owner))
    (hconstruct : LnetAccount.construct logic address creator data = some plan)
    (h₁ : Reach (Machine.step logic) (Unauthorized logic owner)
      (Machine.start plan.account.deployed balance deposit) m₁)
    (hidle : m₁.stack = [])
    (h₂ : Reach (Machine.step logic) (Unauthorized logic owner) m₁ m₂) :
    m₂.world.account.owner = owner ∧ m₂.world.account.implementation = logic.address ∧
    (m₂.isOutside = true → m₁.world.balance ≤ m₂.world.balance ∧
      m₁.world.deposit ≤ m₂.world.deposit ∧ ∀ s ∈ m₂.world.sent, s.IsForward) := by
  obtain ⟨account, haccount, -, hinit⟩ := LnetAccount.construct_initialize hdata address creator
  cases hconstruct.symm.trans haccount
  have hinv := ((start_inv hinit balance deposit).of_reach h₁).rebase hidle
  have hinv₂ := hinv.of_reach h₂
  refine ⟨hinv₂.account.owner, hinv₂.account.implementation, fun hout => ?_⟩
  obtain ⟨hw, -⟩ := hinv₂.kept hout
  exact ⟨hw.balance, hw.deposit, hw.sent⟩

/-! ## A sample run -/

def sampleLogic : Logic where
  keccak256 _ := asWord 0
  recover _ _ := none
  address := 0x4444444444444444444444444444444444444444
  entryPoint := 0x5555555555555555555555555555555555555555
  dispatch := LnetAccount.plainDispatch
  proxiable _ := false

def sampleOwner : Address := 0x6666666666666666666666666666666666666666

def sampleAccount : LnetAccount where
  address := 0x7777777777777777777777777777777777777777
  owner := sampleOwner
  implementation := sampleLogic.address
  initialized := 1
  initializing := false
  hasCode := false

/-- A stranger tops up the deposit, and fails to make the account call. -/
def sampleEvents : List CallEvent :=
  [.call 9 5 (bigEndian 4 0x4a58db19), .proceed, .proceed, .enter,
    .call 8 0 (bigEndian 4 0xb61d27f6 ++ encode [.address 8, .uint 1, .bytes []]), .fund 2,
    .leave false]

/-- A call, if it is one, by neither the sample's owner nor the EntryPoint. -/
def sampleStranger : CallEvent → Bool
  | .call sender _ _ => sender ≠ sampleOwner ∧ sender ≠ sampleLogic.entryPoint
  | _ => true

theorem unauthorized_run_sample : ∃ m : Machine, m.world.balance = 102 ∧ m.world.deposit = 35 ∧
    m.world.account.owner = sampleOwner ∧ ∀ s ∈ m.world.sent, s.IsForward := by
  have hconstruct : LnetAccount.construct sampleLogic sampleAccount.address 1
      (LnetAccount.encodeInitialize sampleOwner) = some ⟨sampleAccount, [], none⟩ := by decide +kernel
  obtain ⟨m, hreach, hm⟩ := Reach.exists_of_guardedRun (Machine.step sampleLogic)
    (fun _ e => sampleStranger e = true) (Machine.start sampleAccount.deployed 100 30) sampleEvents
    (fun m => m.world.balance = 102 ∧ m.world.deposit = 35 ∧ m.isOutside) (by decide +kernel)
  have hstrangers : ∀ (m : Machine) (e : CallEvent), sampleStranger e = true →
      Unauthorized sampleLogic sampleOwner m e := by
    intro m e he
    cases e with
    | call sender value data =>
      have hne := of_decide_eq_true he
      exact ⟨hne.1, fun h => absurd h hne.2⟩
    | _ => trivial
  have hm := of_decide_eq_true hm
  obtain ⟨howner, -, hkept⟩ := unauthorized_run (LnetAccount.plainDispatch_encodeInitialize sampleOwner) hconstruct
    .start rfl (hreach.mono hstrangers)
  exact ⟨m, hm.1, hm.2.1, howner, (hkept hm.2.2).2.2⟩

end AccountAbstraction.Contracts
