import Mathlib.Data.List.Basic

/-!
# Trace monitors and exiting loops

A program that records what it does in an append-only log is specified by a
`Monitor`: an observer that reads the log from the left, keeps a state of its
own, and says in that state which event may come next. `Accepts` is the safety
property of whole logs; `accepts_snoc` reduces it to the events a program
appends, so a simulation between program and observer is proved one event at a
time.

`Loop` is the shape of a connection or polling loop: a body that either asks to
continue or ends the run. A run may be restricted to iterations whose starting
state meets a condition, which is how results that hold only for well-behaved
peers are stated.
-/

namespace Semantics

universe u v

/-- An observer of a log: its state, how each event moves it, and which events
it admits in each state. -/
structure Monitor (Event : Type u) where
  State : Type v
  initial : State
  advance : State → Event → State
  Admits : State → Event → Prop

namespace Monitor

variable {Event : Type u} (monitor : Monitor.{u, v} Event)

def observe (log : List Event) : monitor.State :=
  log.foldl monitor.advance monitor.initial

/-- Every event of the log was admitted in the state reached before it. -/
def Accepts (log : List Event) : Prop :=
  ∀ before event after, log = before ++ event :: after →
    monitor.Admits (monitor.observe before) event

@[simp] theorem observe_nil : monitor.observe [] = monitor.initial := rfl

@[simp] theorem observe_snoc (log : List Event) (event : Event) :
    monitor.observe (log ++ [event]) = monitor.advance (monitor.observe log) event := by
  simp [observe]

theorem accepts_nil : monitor.Accepts [] := by
  intro before event after split
  cases before <;> cases split

theorem accepts_snoc (log : List Event) (event : Event) :
    monitor.Accepts (log ++ [event]) ↔
      monitor.Accepts log ∧ monitor.Admits (monitor.observe log) event := by
  constructor
  · intro accepts
    refine ⟨?_, accepts log event [] rfl⟩
    intro before earlier after split
    exact accepts before earlier (after ++ [event]) (by simp [split])
  · rintro ⟨accepts, admitted⟩ before other after split
    rcases List.eq_nil_or_concat after with rfl | ⟨rest, last, rfl⟩
    · obtain ⟨rfl, rfl⟩ : log = before ∧ event = other := by
        simpa using List.append_inj' split rfl
      exact admitted
    · rw [List.concat_eq_append, ← List.cons_append, ← List.append_assoc] at split
      obtain ⟨rfl, -⟩ := List.append_inj' split rfl
      exact accepts before other rest rfl

end Monitor

/-- States a loop passes through, with whether it has ended. Iterations start
only in states that are `allowed`. -/
inductive Loop.Runs {State : Type u} (body : State → Bool × State) (allowed : State → Prop)
    (start : State) : Bool → State → Prop where
  | start : Loop.Runs body allowed start false start
  | iterate {state} (prior : Loop.Runs body allowed start false state) (may : allowed state) :
      Loop.Runs body allowed start (body state).1 (body state).2

theorem Loop.Runs.invariant {State : Type u} {body : State → Bool × State}
    {allowed : State → Prop} {start : State} {Inv : Bool → State → Prop} (initial : Inv false start)
    (preserved : ∀ state, Inv false state → allowed state → Inv (body state).1 (body state).2)
    {done : Bool} {state : State} (runs : Loop.Runs body allowed start done state) :
    Inv done state := by
  induction runs with
  | start => exact initial
  | iterate _ may ih => exact preserved _ ih may

/-- The state after at most `count` iterations. -/
def Loop.after {State : Type u} (body : State → Bool × State) (start : State) : Nat → Bool × State
  | 0 => (false, start)
  | count + 1 =>
    match Loop.after body start count with
    | (true, state) => (true, state)
    | (false, state) => body state

theorem Loop.after_runs {State : Type u} {body : State → Bool × State} {allowed : State → Prop}
    {start : State} (count : Nat)
    (may : ∀ index < count, allowed (Loop.after body start index).2) :
    Loop.Runs body allowed start (Loop.after body start count).1 (Loop.after body start count).2 := by
  induction count with
  | zero => exact .start
  | succ count ih =>
    have prior := ih fun index earlier => may index (Nat.lt_succ_of_lt earlier)
    have allowedHere := may count (Nat.lt_succ_self count)
    rw [Loop.after]
    generalize Loop.after body start count = reached at prior allowedHere
    obtain ⟨done, state⟩ := reached
    cases done with
    | true => exact prior
    | false => exact .iterate prior allowedHere

end Semantics
