import Mathlib.Logic.Basic

/-!
# Transactions that end by themselves

A script awaits one thing after another. A request on its transaction is answered by an
event, in which further requests may be placed. Whenever control goes back to the event
loop while no request is pending, the transaction ends: it commits what was written, and
a later request on it throws. Other promises settle in the same task or in a later one.
-/

namespace Semantics

/-- Stores with what a transaction has written, and the state of that transaction. `late`
says that a request was placed on it after it had ended. -/
structure Transaction (Stores : Type) where
  stores : Stores
  pending : Nat := 0
  finished : Bool := false
  late : Bool := false

/-- When a promise settles that is not about the transaction. -/
inductive Timing where
  | soon
  | later
deriving DecidableEq

/-- A script on a transaction; an exception leaves what was written. -/
abbrev Script (Failure Stores Value : Type) := EStateM Failure (Transaction Stores) Value

section Scripts

variable {Failure Stores Value Result : Type}

def Transaction.yield (tx : Transaction Stores) : Transaction Stores :=
  if tx.pending = 0 then { tx with finished := true } else tx

namespace Script

def place (refused : Failure) : Script Failure Stores Unit := fun tx =>
  if tx.finished then .error refused { tx with late := true }
  else .ok () { tx with pending := tx.pending + 1 }

def event (effect : Stores → Value × Stores) : Script Failure Stores Value := fun tx =>
  .ok (effect tx.stores).1 { tx with stores := (effect tx.stores).2, pending := tx.pending - 1 }

def request (refused : Failure) (effect : Stores → Value × Stores) : Script Failure Stores Value := do
  place refused
  modify Transaction.yield
  event effect

def pause : Timing → Script Failure Stores Unit
  | .soon => pure ()
  | .later => modify Transaction.yield

/-- In a callback that nobody awaits, an exception becomes another failure. -/
def callback (lost : Failure) (script : Script Failure Stores Value) : Script Failure Stores Value :=
  fun tx =>
    match script tx with
    | .ok value next => .ok value next
    | .error _ next => .error lost next

def after (script : Script Failure Stores Value) (tx : Transaction Stores) : Transaction Stores :=
  match script tx with
  | .ok _ next => next
  | .error _ next => next

def inTransaction (script : Script Failure Stores Value) (stores : Stores) :
    Except Failure Value × Stores :=
  match script { stores } with
  | .ok value next => (.ok value, next.stores)
  | .error err next => (.error err, next.stores)

def Timely (script : Script Failure Stores Value) (stores : Stores) : Prop :=
  (script.after { stores }).late = false

variable {refused : Failure} {effect : Stores → Value × Stores} {tx next : Transaction Stores}
  {script : Script Failure Stores Value} {following : Value → Script Failure Stores Result}
  {value : Value} {err : Failure}

theorem bind_ok (ran : script tx = .ok value next) : (script >>= following) tx = following value next := by
  change EStateM.bind script following tx = _
  rw [EStateM.bind, ran]

theorem bind_error (ran : script tx = .error err next) :
    (script >>= following) tx = .error err next := by
  change EStateM.bind script following tx = _
  rw [EStateM.bind, ran]

theorem request_of_open (unfinished : tx.finished = false) :
    (request refused effect : Script Failure Stores Value) tx =
      .ok (effect tx.stores).1 { tx with stores := (effect tx.stores).2 } := by
  have placed : (place refused : Script Failure Stores Unit) tx =
      .ok () { tx with pending := tx.pending + 1 } := by simp [place, unfinished]
  rw [request, bind_ok placed]
  rfl

theorem request_of_finished (finished : tx.finished = true) :
    (request refused effect : Script Failure Stores Value) tx =
      .error refused { tx with late := true } := by
  have placed : (place refused : Script Failure Stores Unit) tx = .error refused { tx with late := true } :=
    if_pos finished
  rw [request, bind_error placed]

theorem pause_later (idle : tx.pending = 0) :
    (pause .later : Script Failure Stores Unit) tx = .ok () { tx with finished := true } := by
  change EStateM.Result.ok () tx.yield = _
  rw [Transaction.yield, if_pos idle]

end Script

end Scripts

end Semantics
