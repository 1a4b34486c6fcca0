import Mathlib.Data.List.Basic

/-!
# Guarded machines

A machine is a partial step function: an action either has no effect in a state
because it is not possible there, or leads to one next state. Concurrency enters
through the choice of actions, of which nothing is assumed except what a run is
restricted to by a guard on the state and the action.

`Runs.invariant` is the rule for invariants of all states reached, and
`Runs.stable` the one for properties that, once reached, are never lost.
-/

namespace Semantics

universe u v

structure Machine (State : Type u) (Action : Type v) where
  step : State → Action → Option State

namespace Machine

variable {State : Type u} {Action : Type v} {machine : Machine State Action}
  {allowed : State → Action → Prop} {start middle final : State}

inductive Runs (machine : Machine State Action) (allowed : State → Action → Prop)
    (start : State) : State → Prop where
  | refl : Runs machine allowed start start
  | step {state next : State} {action : Action} (prior : Runs machine allowed start state)
      (may : allowed state action) (taken : machine.step state action = some next) :
      Runs machine allowed start next

theorem Runs.trans (first : machine.Runs allowed start middle)
    (second : machine.Runs allowed middle final) : machine.Runs allowed start final := by
  induction second with
  | refl => exact first
  | step _ may taken ih => exact .step ih may taken

theorem Runs.invariant (Inv : State → Prop) (initial : Inv start)
    (preserved : ∀ {state action next}, Inv state → allowed state action →
      machine.step state action = some next → Inv next)
    (runs : machine.Runs allowed start final) : Inv final := by
  induction runs with
  | refl => exact initial
  | step _ may taken ih => exact preserved ih may taken

theorem Runs.stable (Inv Holds : State → Prop) (initial : Inv start) (reached : Holds start)
    (preserved : ∀ {state action next}, Inv state → allowed state action →
      machine.step state action = some next → Inv next)
    (kept : ∀ {state action next}, Inv state → allowed state action →
      machine.step state action = some next → Holds state → Holds next)
    (runs : machine.Runs allowed start final) : Holds final := by
  have both : Inv final ∧ Holds final :=
    Runs.invariant (fun state => Inv state ∧ Holds state) ⟨initial, reached⟩
      (fun inv may taken => ⟨preserved inv.1 may taken, kept inv.1 may taken inv.2⟩) runs
  exact both.2

def after (machine : Machine State Action) : List Action → State → State
  | [], state => state
  | action :: rest, state => machine.after rest ((machine.step state action).getD state)

def Permits (machine : Machine State Action) (allowed : State → Action → Prop) :
    List Action → State → Prop
  | [], _ => True
  | action :: rest, state =>
    allowed state action ∧ machine.Permits allowed rest ((machine.step state action).getD state)

/-- Whether a guard that can be checked is met along a list of actions. -/
instance decidablePermits [∀ state action, Decidable (allowed state action)] :
    (actions : List Action) → (state : State) → Decidable (machine.Permits allowed actions state)
  | [], _ => .isTrue trivial
  | action :: rest, state =>
    have := decidablePermits rest ((machine.step state action).getD state)
    inferInstanceAs (Decidable (allowed state action ∧ machine.Permits allowed rest _))

theorem after_runs (actions : List Action) (permits : machine.Permits allowed actions start) :
    machine.Runs allowed start (machine.after actions start) := by
  induction actions generalizing start with
  | nil => exact .refl
  | cons action rest ih =>
    have onward := ih permits.2
    rw [after]
    cases taken : machine.step start action with
    | none =>
      rw [taken] at onward
      exact onward
    | some next =>
      rw [taken] at onward
      have first : machine.Runs allowed start next := .step .refl permits.1 taken
      exact first.trans onward

theorem permits_of_forall (always : ∀ state action, allowed state action) (actions : List Action)
    (state : State) : machine.Permits allowed actions state := by
  induction actions generalizing state with
  | nil => trivial
  | cons action rest ih =>
    exact ⟨always state action, ih _⟩

/-- A machine beside a log, to which an observer adds what it notes of each step. -/
def recorded {Event : Type*} (machine : Machine State Action) (note : State → Action → List Event) :
    Machine (State × List Event) Action where
  step := fun (state, log) action =>
    (machine.step state action).map fun next => (next, log ++ note state action)

theorem recorded_step {Event : Type*} {note : State → Action → List Event} {state : State}
    {log : List Event} {action : Action} {next : State × List Event}
    (taken : (machine.recorded note).step (state, log) action = some next) :
    machine.step state action = some next.1 ∧ next.2 = log ++ note state action := by
  obtain ⟨reached, step, rfl⟩ := Option.map_eq_some_iff.mp taken
  exact ⟨step, rfl⟩

theorem Runs.unrecorded {Event : Type*} {note : State → Action → List Event}
    {may : State × List Event → Action → Prop} {start final : State × List Event}
    (runs : (machine.recorded note).Runs may start final)
    (admits : ∀ state log action, may (state, log) action → allowed state action) :
    machine.Runs allowed start.1 final.1 := by
  induction runs with
  | refl => exact .refl
  | @step state next action _ permitted taken ih =>
    exact .step ih (admits state.1 state.2 action permitted) (recorded_step taken).1

theorem Runs.silent {Event : Type*} {note : State → Action → List Event}
    {may : State × List Event → Action → Prop} {start final : State × List Event}
    (runs : (machine.recorded note).Runs may start final) :
    ∃ more, final.2 = start.2 ++ more ∧ (more = [] →
      machine.Runs (fun state action => note state action = []) start.1 final.1) := by
  induction runs with
  | refl => exact ⟨[], (List.append_nil _).symm, fun _ => .refl⟩
  | @step state next action _ _ taken ih =>
    obtain ⟨more, log, before⟩ := ih
    obtain ⟨took, noted⟩ := recorded_step taken
    refine ⟨more ++ note state.1 action, by rw [noted, log, List.append_assoc], fun none => ?_⟩
    obtain ⟨nothing, silent⟩ := List.append_eq_nil_iff.mp none
    exact .step (before nothing) silent took

end Machine

end Semantics
