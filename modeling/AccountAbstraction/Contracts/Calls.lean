import AccountAbstraction.Contracts.Account

/-!
# Calls around an account

One account on a chain, as a machine whose steps are those of anyone: calls of the account
from outside, at the top or from inside the code that the account has called, ether and
deposits for it, and the account's own steps through the calls it makes. A stack holds the
calls under way, each with the world before it, which a revert restores.

The EntryPoint is known by what it does for the account: it keeps the deposit, it undoes a
validation that has failed, and it charges the deposit for an op that was validated.
-/

namespace AccountAbstraction.Contracts

open Js

/-- A call that the account made, with the `msg.value` of the call in which it made it. -/
structure Sent where
  msgValue : ℕ
  call : OutCall
deriving DecidableEq

/-- The account with what it owns, the calls it has made and the ops it has validated. -/
structure World where
  account : LnetAccount
  balance : ℕ
  /-- The account's deposit at the EntryPoint. -/
  deposit : ℕ
  sent : List Sent
  validated : List PackedUserOperation
deriving DecidableEq

/-- Who runs in a call that the account waits for. -/
inductive Callee
  | outside
  /-- The EntryPoint, which may change the deposit. -/
  | entryPoint
  /-- Other code in the account's place: a delegate call, or the code it was upgraded to. -/
  | inPlace
deriving DecidableEq

/-- A call under way. -/
inductive Frame
  | callee (who : Callee) (saved : World)
  /-- A call of the account that has yet to make the calls `rest`. -/
  | account (saved : World) (msgValue : ℕ) (validation : Option (PackedUserOperation × ℕ))
      (rest : List OutCall)
deriving DecidableEq

/-- The world and the calls under way, the innermost first. -/
structure Machine where
  world : World
  stack : List Frame
deriving DecidableEq

/-- The steps. -/
inductive CallEvent
  /-- Code outside the account calls it. -/
  | call (sender : Address) (value : ℕ) (data : Bytes)
  /-- Code outside the account makes a call, and undoes its effects should it fail. -/
  | enter
  /-- The innermost call of code outside the account ends. -/
  | leave (reverts : Bool)
  /-- The account makes its next call, or returns. -/
  | proceed
  /-- Ether arrives without a call. -/
  | fund (amount : ℕ)
  /-- Somebody's `depositTo` for the account. -/
  | depositTo (amount : ℕ)
  /-- The EntryPoint charges the account for a validated op. -/
  | charge (userOp : PackedUserOperation) (amount : ℕ)
  /-- The EntryPoint serves a call of the account that changes its deposit. -/
  | settle (deposit : ℕ)
  /-- What code in the account's place makes of it. -/
  | rewrite (world : World)

namespace Machine

/-- A call has failed, with `saved` as the world before it. The account gives up on every call
    that it waits in (`_call`, lines 109-116). -/
def abort (saved : World) : List Frame → Machine
  | .account saved _ _ _ :: stack => abort saved stack
  | stack => ⟨saved, stack⟩

/-- The account is called; `saved` is the world before the call. -/
def enterAccount (logic : Logic) (saved : World) (sender : Address) (value : ℕ) (data : Bytes)
    (world : World) (stack : List Frame) : Machine :=
  let world := { world with balance := world.balance + value }
  if world.account.implementation = logic.address then
    match world.account.fallback logic sender value data with
    | none => abort saved stack
    | some plan =>
      ⟨{ world with account := plan.account }, .account saved value plan.validation plan.calls :: stack⟩
  else ⟨world, .callee .inPlace saved :: stack⟩

/-- A call that the account makes, with the frame `waiting` for the rest of the account's call. -/
def perform (logic : Logic) (world : World) (msgValue : ℕ) (call : OutCall) (waiting : Frame)
    (stack : List Frame) : Machine :=
  let logged := { world with sent := world.sent ++ [⟨msgValue, call⟩] }
  match call with
  | .call target value data =>
    if world.balance < value then abort world (waiting :: stack)
    else
      let paid := { logged with balance := world.balance - value }
      if target = world.account.address then
        enterAccount logic world world.account.address value data paid (waiting :: stack)
      else
        ⟨paid, .callee (if target = logic.entryPoint then .entryPoint else .outside) world ::
          waiting :: stack⟩
  | .depositTo value =>
    if world.balance < value then abort world (waiting :: stack)
    else
      ⟨{ logged with balance := world.balance - value, deposit := world.deposit + value },
        waiting :: stack⟩
  | .withdrawTo _ amount =>
    if world.deposit < amount then abort world (waiting :: stack)
    else ⟨{ logged with deposit := world.deposit - amount }, .callee .outside world :: waiting :: stack⟩
  | .payPrefund value =>
    if world.balance < value then ⟨world, waiting :: stack⟩
    else
      ⟨{ logged with balance := world.balance - value, deposit := world.deposit + value },
        waiting :: stack⟩
  | .functionDelegateCall _ _ => ⟨logged, .callee .inPlace world :: waiting :: stack⟩

/-- A call of the account returns. The EntryPoint undoes a validation that has failed. -/
def complete (world saved : World) (validation : Option (PackedUserOperation × ℕ))
    (stack : List Frame) : Machine :=
  match validation with
  | none => ⟨world, stack⟩
  | some (userOp, validationData) =>
    if validationData = sigValidationSuccess then
      ⟨{ world with validated := world.validated ++ [userOp] }, stack⟩
    else ⟨saved, stack⟩

/-- Whether code outside the account runs. -/
def isOutside (m : Machine) : Bool :=
  match m.stack with
  | .account _ _ _ _ :: _ => false
  | _ => true

/-- One step. -/
def step (logic : Logic) (m : Machine) : CallEvent → Option Machine
  | .call sender value data =>
    if m.isOutside ∧ sender ≠ m.world.account.address then
      some (enterAccount logic m.world sender value data m.world m.stack)
    else none
  | .enter => if m.isOutside then some ⟨m.world, .callee .outside m.world :: m.stack⟩ else none
  | .leave reverts =>
    match m.stack with
    | .callee _ saved :: stack => some (if reverts then abort saved stack else ⟨m.world, stack⟩)
    | _ => none
  | .proceed =>
    match m.stack with
    | .account saved msgValue validation (call :: rest) :: stack =>
      some (perform logic m.world msgValue call (.account saved msgValue validation rest) stack)
    | .account saved _ validation [] :: stack => some (complete m.world saved validation stack)
    | _ => none
  | .fund amount =>
    if m.isOutside then some { m with world := { m.world with balance := m.world.balance + amount } }
    else none
  | .depositTo amount =>
    if m.isOutside then some { m with world := { m.world with deposit := m.world.deposit + amount } }
    else none
  | .charge userOp amount =>
    if m.isOutside ∧ userOp ∈ m.world.validated ∧ amount ≤ m.world.deposit then
      some { m with world := { m.world with deposit := m.world.deposit - amount } }
    else none
  | .settle deposit =>
    match m.stack with
    | .callee .entryPoint _ :: _ => some { m with world := { m.world with deposit := deposit } }
    | _ => none
  | .rewrite world =>
    match m.stack with
    | .callee .inPlace _ :: _ =>
      if world.account.address = m.world.account.address then some { m with world := world } else none
    | _ => none

/-- An account right after its deployment, with no call under way. -/
def start (account : LnetAccount) (balance deposit : ℕ) : Machine :=
  ⟨⟨account, balance, deposit, [], []⟩, []⟩

end Machine

end AccountAbstraction.Contracts
