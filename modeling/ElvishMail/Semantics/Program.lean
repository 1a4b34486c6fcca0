import Mathlib.Logic.Function.Basic
import ElvishMail.Semantics.Machine

/-!
# Programs that ask

A program asks queries one at a time and goes on with the reply. Asked of a state,
a query may change it. `run` asks all queries of one program in a row; `race` lets
several programs take turns on one state, one query at a time. What else decides
a reply is an environment that comes with each query.
-/

namespace Semantics

universe u v w x y

inductive Program (Query : Type u) (Reply : Query → Type v) (Value : Type w) where
  | done (value : Value)
  | ask (query : Query) (next : Reply query → Program Query Reply Value)

namespace Program

variable {Query : Type u} {Reply : Query → Type v} {Value Result : Type w}

def andThen (first : Program Query Reply Value) (next : Value → Program Query Reply Result) :
    Program Query Reply Result :=
  match first with
  | done value => next value
  | ask query following => ask query fun reply => (following reply).andThen next

instance : Monad (Program Query Reply) where
  pure := done
  bind := andThen

@[simp] theorem pure_bind (value : Value) (next : Value → Program Query Reply Result) :
    (done value >>= next) = next value := rfl

@[simp] theorem ask_bind (query : Query) (following : Reply query → Program Query Reply Value)
    (next : Value → Program Query Reply Result) :
    (ask query following >>= next) = ask query fun reply => following reply >>= next := rfl

theorem bind_assoc {Final : Type w} (first : Program Query Reply Value)
    (next : Value → Program Query Reply Result) (last : Result → Program Query Reply Final) :
    ((first >>= next) >>= last) = (first >>= fun value => next value >>= last) := by
  induction first with
  | done value => rfl
  | ask query following ih =>
    rw [ask_bind, ask_bind, ask_bind]
    congr 1
    funext reply
    exact ih reply

def query? : Program Query Reply Value → Option Query
  | done _ => none
  | ask query _ => some query

def Only (may : Query → Prop) : Program Query Reply Value → Prop
  | done _ => True
  | ask query next => may query ∧ ∀ reply, (next reply).Only may

theorem Only.mono {may others : Query → Prop} {program : Program Query Reply Value}
    (only : program.Only may) (fewer : ∀ query, may query → others query) : program.Only others := by
  induction program with
  | done value => trivial
  | ask query next ih =>
    exact ⟨fewer query only.1, fun reply => ih reply (only.2 reply)⟩

theorem Only.bind {may : Query → Prop} {first : Program Query Reply Value}
    {next : Value → Program Query Reply Result} (only : first.Only may)
    (later : ∀ value, (next value).Only may) : (first >>= next).Only may := by
  induction first with
  | done value => exact later value
  | ask query following ih =>
    exact ⟨only.1, fun reply => ih reply (only.2 reply)⟩

variable {State : Type x} {Env : Type y}
  (answer : Env → (query : Query) → State → Reply query × State)

def run : Program Query Reply Value → (Nat → Env) → State → Value × State
  | done value, _, state => (value, state)
  | ask query next, env, state =>
    run (next (answer (env 0) query state).1) (fun count => env (count + 1))
      (answer (env 0) query state).2

@[simp] theorem run_done (value : Value) (env : Nat → Env) (state : State) :
    (done value : Program Query Reply Value).run answer env state = (value, state) := rfl

theorem run_ask (query : Query) (next : Reply query → Program Query Reply Value) (env : Nat → Env)
    (state : State) :
    (ask query next).run answer env state =
      (next (answer (env 0) query state).1).run answer (fun count => env (count + 1))
        (answer (env 0) query state).2 := rfl

def asked : Program Query Reply Value → (Nat → Env) → State → Nat
  | done _, _, _ => 0
  | ask query next, env, state =>
    asked (next (answer (env 0) query state).1) (fun count => env (count + 1))
      (answer (env 0) query state).2 + 1

theorem run_bind (first : Program Query Reply Value) (next : Value → Program Query Reply Result)
    (env : Nat → Env) (state : State) :
    (first >>= next).run answer env state =
      (next (first.run answer env state).1).run answer
        (fun count => env (count + first.asked answer env state))
        (first.run answer env state).2 := by
  induction first generalizing env state with
  | done value => rfl
  | ask query following ih => exact ih _ _ _

theorem asked_bind (first : Program Query Reply Value) (next : Value → Program Query Reply Result)
    (env : Nat → Env) (state : State) :
    (first >>= next).asked answer env state =
      (next (first.run answer env state).1).asked answer
          (fun count => env (count + first.asked answer env state))
          (first.run answer env state).2 +
        first.asked answer env state := by
  induction first generalizing env state with
  | done value => rfl
  | ask query following ih =>
    exact congrArg (· + 1) (ih _ _ _)

def queries : Program Query Reply Value → (Nat → Env) → State → List Query
  | done _, _, _ => []
  | ask query next, env, state =>
    query :: queries (next (answer (env 0) query state).1) (fun count => env (count + 1))
      (answer (env 0) query state).2

theorem queries_bind (first : Program Query Reply Value) (next : Value → Program Query Reply Result)
    (env : Nat → Env) (state : State) :
    (first >>= next).queries answer env state =
      first.queries answer env state ++
        (next (first.run answer env state).1).queries answer
          (fun count => env (count + first.asked answer env state))
          (first.run answer env state).2 := by
  induction first generalizing env state with
  | done value => rfl
  | ask query following ih =>
    exact congrArg (query :: ·) (ih _ _ _)

theorem Only.queries {may : Query → Prop} {program : Program Query Reply Value}
    (only : program.Only may) (env : Nat → Env) (state : State) :
    ∀ query ∈ program.queries answer env state, may query := by
  induction program generalizing env state with
  | done value => simp [Program.queries]
  | ask query next ih =>
    rw [Program.queries, List.forall_mem_cons]
    exact ⟨only.1, ih _ (only.2 _) _ _⟩

theorem run_map (first : Program Query Reply Value) (change : Value → Result) (env : Nat → Env)
    (state : State) :
    (first >>= fun value => done (change value)).run answer env state =
      (change (first.run answer env state).1, (first.run answer env state).2) := by
  induction first generalizing env state with
  | done value => rfl
  | ask query next ih => exact ih _ _ _

/-- Run from a state, a program ends as wanted, whatever environments its queries meet. -/
def Ensures : Program Query Reply Value → State → (Value → State → Prop) → Prop
  | done value, state, wanted => wanted value state
  | ask query next, state, wanted =>
    ∀ env, Ensures (next (answer env query state).1) (answer env query state).2 wanted

variable {answer} {state : State}

@[simp] theorem ensures_done {value : Value} {wanted : Value → State → Prop} :
    (done value : Program Query Reply Value).Ensures answer state wanted ↔ wanted value state :=
  Iff.rfl

theorem ensures_bind {first : Program Query Reply Value} {next : Value → Program Query Reply Result}
    {wanted : Result → State → Prop} :
    (first >>= next).Ensures answer state wanted ↔
      first.Ensures answer state fun value state => (next value).Ensures answer state wanted := by
  induction first generalizing state with
  | done value => rfl
  | ask query following ih =>
    rw [ask_bind]
    exact forall_congr' fun env => ih _

theorem Ensures.weaken {program : Program Query Reply Value} {wanted weaker : Value → State → Prop}
    (ensures : program.Ensures answer state wanted)
    (implies : ∀ value state, wanted value state → weaker value state) :
    program.Ensures answer state weaker := by
  induction program generalizing state with
  | done value => exact implies value state ensures
  | ask query next ih =>
    intro env
    exact ih _ (ensures env)

theorem Ensures.run {program : Program Query Reply Value} {wanted : Value → State → Prop}
    (ensures : program.Ensures answer state wanted) (env : Nat → Env) :
    wanted (program.run answer env state).1 (program.run answer env state).2 := by
  induction program generalizing env state with
  | done value => exact ensures
  | ask query next ih =>
    rw [run_ask]
    exact ih _ (ensures (env 0)) _

theorem Only.ensures {asks : Query → Prop} {program : Program Query Reply Value}
    (only : program.Only asks) (Holds : State → Prop)
    (kept : ∀ env query state, asks query → Holds state → Holds (answer env query state).2)
    (initial : Holds state) : program.Ensures answer state fun _ next => Holds next := by
  induction program generalizing state with
  | done value => exact initial
  | ask query next ih =>
    intro env
    exact ih _ (only.2 _) (kept _ _ _ only.1 initial)

theorem Only.run_holds {asks : Query → Prop} {program : Program Query Reply Value}
    (only : program.Only asks) (Holds : State → Prop)
    (kept : ∀ env query state, asks query → Holds state → Holds (answer env query state).2)
    (initial : Holds state) (env : Nat → Env) : Holds (program.run answer env state).2 :=
  (only.ensures Holds kept initial).run env

theorem ensures_of_run [Nonempty Env] {program : Program Query Reply Value}
    {wanted : Value → State → Prop}
    (runs : ∀ env, wanted (program.run answer env state).1 (program.run answer env state).2) :
    program.Ensures answer state wanted := by
  induction program generalizing state with
  | done value => exact runs fun _ => Classical.arbitrary Env
  | ask query next ih =>
    intro env
    apply ih
    intro later
    exact runs fun index => index.casesOn env later

section Errors

variable {Error Item : Type w} (answer)

def check (first next : Program Query Reply (Option Error)) : Program Query Reply (Option Error) :=
  first >>= fun
    | some err => done (some err)
    | none => next

def forEach (body : Item → Program Query Reply (Option Error)) :
    List Item → Program Query Reply (Option Error)
  | [] => done none
  | item :: rest => (body item).check (forEach body rest)

theorem Only.check {may : Query → Prop} {first next : Program Query Reply (Option Error)}
    (only : first.Only may) (later : next.Only may) : (first.check next).Only may := by
  refine Only.bind only fun err => ?_
  cases err with
  | some err => trivial
  | none => exact later

theorem Only.forEach {may : Query → Prop} {body : Item → Program Query Reply (Option Error)}
    (each : ∀ item, (body item).Only may) (items : List Item) : (forEach body items).Only may := by
  induction items with
  | nil => trivial
  | cons item rest ih => exact (each item).check ih

def Performs (program : Program Query Reply (Option Error)) (change : State → State) : Prop :=
  ∀ state, program.Ensures answer state fun err next => err = none → next = change state

variable {answer} {first next : Program Query Reply (Option Error)} {change later : State → State}

theorem performs_done : (done none : Program Query Reply (Option Error)).Performs answer id :=
  fun _ _ => rfl

theorem performs_failed (err : Error) :
    (done (some err) : Program Query Reply (Option Error)).Performs answer change := by
  intro state reported
  cases reported

theorem Performs.check (performs : first.Performs answer change) (onward : next.Performs answer later) :
    (first.check next).Performs answer (later ∘ change) := by
  intro state
  unfold Program.check
  rw [ensures_bind]
  apply (performs state).weaken
  intro err middle changed
  cases err with
  | some err =>
    intro reported
    cases reported
  | none =>
    cases changed rfl
    exact onward (change state)

theorem performs_forEach {body : Item → Program Query Reply (Option Error)} {step : State → Item → State}
    (each : ∀ item, (body item).Performs answer fun state => step state item) (items : List Item) :
    (forEach body items).Performs answer fun state => items.foldl step state := by
  induction items with
  | nil => exact performs_done
  | cons item rest ih => exact (each item).check ih

end Errors

end Program

structure Race (Index : Type*) (Query : Type u) (Reply : Query → Type v) (Value : Type w)
    (State : Type x) where
  thread : Index → Program Query Reply Value
  state : State

def race {Index Query : Type*} {Reply : Query → Type*} {Value State Env : Type*} [DecidableEq Index]
    (answer : Env → (query : Query) → State → Reply query × State) :
    Machine (Race Index Query Reply Value State) (Index × Env) where
  step := fun system (index, env) =>
    match system.thread index with
    | .done _ => none
    | .ask query next =>
      let (reply, state) := answer env query system.state
      some ⟨Function.update system.thread index (next reply), state⟩

theorem race_step {Index Query : Type*} {Reply : Query → Type*} {Value State Env : Type*}
    [DecidableEq Index] {answer : Env → (query : Query) → State → Reply query × State}
    {system next : Race Index Query Reply Value State} {index : Index} {env : Env}
    (taken : (race answer).step system (index, env) = some next) :
    ∃ query following, system.thread index = .ask query following ∧
      next.thread =
        Function.update system.thread index (following (answer env query system.state).1) ∧
      next.state = (answer env query system.state).2 := by
  simp only [race] at taken
  split at taken
  · cases taken
  next query following asking =>
    cases taken
    exact ⟨query, following, asking, rfl, rfl⟩

end Semantics
