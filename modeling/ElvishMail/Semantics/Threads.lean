import ElvishMail.Semantics.Program

/-!
# Requests that take turns

Requests are programs on one store. Their queries are executed one at a time, and between
two queries of one request come those of others and changes from elsewhere. A request
remembers something of what it was told.

`Follows` says that a program asks and returns only what its memory allows. It is shown of
each request alone, and then holds of every request in every run (`Runs.sound`).
-/

namespace Semantics

universe u v w

structure Thread (Request : Type*) (Query : Type u) (Reply : Query → Type v) (Value : Type w)
    (Memory : Type*) where
  request : Request
  program : Program Query Reply Value
  memory : Memory

/-- A service: the program of each request, how the store answers, what is remembered of an
answer, and which requests and changes the store admits. -/
structure Service (Index Request : Type*) (Query : Type u) (Reply : Query → Type v) (Value : Type w)
    (Memory Store Env Change : Type*) where
  program : Request → Program Query Reply Value
  blank : Memory
  answer : Index → Env → (query : Query) → Store → Reply query × Store
  remember : Store → (query : Query) → Reply query → Memory → Memory
  enter : Request → Store → Option Store
  change : Change → Store → Option Store

namespace Service

variable {Index Request : Type*} {Query : Type u} {Reply : Query → Type v} {Value : Type w}
  {Memory Store Env Change : Type*}

structure State (Index Request : Type*) (Query : Type u) (Reply : Query → Type v) (Value : Type w)
    (Memory Store : Type*) where
  store : Store
  threads : Index → Option (Thread Request Query Reply Value Memory)

/-- What happens: a request begins, its next query is executed, or the store changes. -/
inductive Event (Index Request Env Change : Type*) where
  | begin (index : Index) (request : Request)
  | advance (index : Index) (env : Env)
  | change (change : Change)

section Steps

variable [DecidableEq Index] (service : Service Index Request Query Reply Value Memory Store Env Change)
  (state : State Index Request Query Reply Value Memory Store)

def begin (index : Index) (request : Request) (store : Store) :
    State Index Request Query Reply Value Memory Store where
  store := store
  threads := Function.update state.threads index
    (some ⟨request, service.program request, service.blank⟩)

def execute (index : Index) (thread : Thread Request Query Reply Value Memory) (env : Env) (query : Query)
    (next : Reply query → Program Query Reply Value) :
    State Index Request Query Reply Value Memory Store :=
  let answered := service.answer index env query state.store
  { store := answered.2
    threads := Function.update state.threads index
      (some ⟨thread.request, next answered.1,
        service.remember state.store query answered.1 thread.memory⟩) }

def step : Event Index Request Env Change → Option (State Index Request Query Reply Value Memory Store)
  | .begin index request =>
    match state.threads index with
    | some _ => none
    | none => (service.enter request state.store).map (service.begin state index request)
  | .advance index env =>
    match state.threads index with
    | none => none
    | some thread =>
      match thread.program with
      | .done _ => none
      | .ask query next => some (service.execute state index thread env query next)
  | .change change => (service.change change state.store).map fun store => { state with store }

def machine : Machine (State Index Request Query Reply Value Memory Store)
    (Event Index Request Env Change) := ⟨service.step⟩

variable {service state} {next : State Index Request Query Reply Value Memory Store} {index other : Index}
  {request : Request} {store : Store} {thread : Thread Request Query Reply Value Memory} {env : Env}
  {query : Query} {following : Reply query → Program Query Reply Value}

@[simp] theorem begin_self : (service.begin state index request store).threads index =
    some ⟨request, service.program request, service.blank⟩ := Function.update_self ..

theorem begin_other (different : other ≠ index) :
    (service.begin state index request store).threads other = state.threads other :=
  Function.update_of_ne different ..

@[simp] theorem execute_self : (service.execute state index thread env query following).threads index =
    some ⟨thread.request, following (service.answer index env query state.store).1,
      service.remember state.store query (service.answer index env query state.store).1 thread.memory⟩ :=
  Function.update_self ..

theorem execute_other (different : other ≠ index) :
    (service.execute state index thread env query following).threads other = state.threads other :=
  Function.update_of_ne different ..

theorem step_cases {event : Event Index Request Env Change}
    (taken : service.machine.step state event = some next) :
    (∃ index request store, event = .begin index request ∧ state.threads index = none ∧
      service.enter request state.store = some store ∧ next = service.begin state index request store) ∨
    (∃ index thread env query following, event = .advance index env ∧
      state.threads index = some thread ∧ thread.program = .ask query following ∧
      next = service.execute state index thread env query following) ∨
    (∃ change store, event = .change change ∧ service.change change state.store = some store ∧
      next = { state with store }) := by
  cases event with
  | begin index request =>
    change service.step state (.begin index request) = some next at taken
    rw [step] at taken
    split at taken
    · cases taken
    next absent =>
      obtain ⟨store, entered, rfl⟩ := Option.map_eq_some_iff.mp taken
      exact .inl ⟨index, request, store, rfl, absent, entered, rfl⟩
  | advance index env =>
    change service.step state (.advance index env) = some next at taken
    rw [step] at taken
    split at taken
    · cases taken
    next thread present =>
      split at taken
      · cases taken
      next query following asking =>
        cases taken
        exact .inr (.inl ⟨index, thread, env, query, following, rfl, present, asking, rfl⟩)
  | change change =>
    obtain ⟨store, changed, rfl⟩ := Option.map_eq_some_iff.mp taken
    exact .inr (.inr ⟨change, store, rfl, changed, rfl⟩)

end Steps

section Rules

variable (service : Service Index Request Query Reply Value Memory Store Env Change)
  (Holds : Store → Prop)
  (asks : Memory → (query : Query) → (Reply query → Program Query Reply Value) → Prop)
  (ends : Memory → Value → Prop)

/-- A program asks and returns only what its memory allows, told by stores like these. -/
def Follows : Program Query Reply Value → Memory → Prop
  | .done value, memory => ends memory value
  | .ask query next, memory =>
    asks memory query next ∧ ∀ index env store, Holds store →
      Follows (next (service.answer index env query store).1)
        (service.remember store query (service.answer index env query store).1 memory)

end Rules

section Runs

variable [DecidableEq Index] {service : Service Index Request Query Reply Value Memory Store Env Change}
  {Holds : Store → Prop}
  {asks : Request → Memory → (query : Query) → (Reply query → Program Query Reply Value) → Prop}
  {ends : Request → Memory → Value → Prop}
  {allowed : State Index Request Query Reply Value Memory Store →
    Event Index Request Env Change → Prop}
  {start final : State Index Request Query Reply Value Memory Store}

def AllFollow (service : Service Index Request Query Reply Value Memory Store Env Change)
    (Holds : Store → Prop)
    (asks : Request → Memory → (query : Query) → (Reply query → Program Query Reply Value) → Prop)
    (ends : Request → Memory → Value → Prop)
    (state : State Index Request Query Reply Value Memory Store) : Prop :=
  ∀ index thread, state.threads index = some thread →
    service.Follows Holds (asks thread.request) (ends thread.request) thread.program thread.memory

/-- An invariant of the store and the requests is shown of each kind of step, given that
requests follow the rule. -/
structure Preserves (service : Service Index Request Query Reply Value Memory Store Env Change)
    (asks : Request → Memory → (query : Query) → (Reply query → Program Query Reply Value) → Prop)
    (allowed : State Index Request Query Reply Value Memory Store →
      Event Index Request Env Change → Prop)
    (Inv : State Index Request Query Reply Value Memory Store → Prop) : Prop where
  begin : ∀ {state index request store}, Inv state → allowed state (.begin index request) →
    state.threads index = none → service.enter request state.store = some store →
    Inv (service.begin state index request store)
  execute : ∀ {state index thread env query next}, Inv state → allowed state (.advance index env) →
    state.threads index = some thread → thread.program = .ask query next →
    asks thread.request thread.memory query next →
    Inv (service.execute state index thread env query next)
  change : ∀ {state change store}, Inv state → allowed state (.change change) →
    service.change change state.store = some store → Inv { state with store }

theorem AllFollow.step {state next : State Index Request Query Reply Value Memory Store}
    {event : Event Index Request Env Change} (follow : AllFollow service Holds asks ends state)
    (holds : Holds state.store)
    (starts : ∀ request, service.Follows Holds (asks request) (ends request) (service.program request)
      service.blank)
    (taken : service.machine.step state event = some next) : AllFollow service Holds asks ends next := by
  rcases step_cases taken with ⟨index, request, store, rfl, -, -, rfl⟩ |
    ⟨index, thread, env, query, following, rfl, present, asking, rfl⟩ | ⟨change, store, rfl, -, rfl⟩
  · intro other thread found
    by_cases same : other = index
    · subst same
      rw [begin_self] at found
      cases found
      exact starts request
    · rw [begin_other same] at found
      exact follow other thread found
  · intro other advanced found
    by_cases same : other = index
    · subst same
      rw [execute_self] at found
      cases found
      have follows := follow other thread present
      rw [asking] at follows
      exact follows.2 other env state.store holds
    · rw [execute_other same] at found
      exact follow other advanced found
  · exact follow

theorem Preserves.sound {Inv : State Index Request Query Reply Value Memory Store → Prop}
    (preserves : Preserves service asks allowed Inv) (holds : ∀ state, Inv state → Holds state.store)
    (starts : ∀ request, service.Follows Holds (asks request) (ends request) (service.program request)
      service.blank)
    (initial : Inv start) (idle : ∀ index, start.threads index = none)
    (runs : service.machine.Runs allowed start final) :
    Inv final ∧ AllFollow service Holds asks ends final := by
  refine Machine.Runs.invariant (fun state => Inv state ∧ AllFollow service Holds asks ends state)
    ⟨initial, fun index thread found => ?_⟩ ?_ runs
  · cases (idle index).symm.trans found
  · rintro state event next ⟨inv, follow⟩ may taken
    refine ⟨?_, follow.step (holds state inv) starts taken⟩
    rcases step_cases taken with ⟨index, request, store, rfl, absent, entered, rfl⟩ |
      ⟨index, thread, env, query, following, rfl, present, asking, rfl⟩ | ⟨change, store, rfl, changed, rfl⟩
    · exact preserves.begin inv may absent entered
    · have follows := follow index thread present
      rw [asking] at follows
      exact preserves.execute inv may present asking follows.1
    · exact preserves.change inv may changed

end Runs

end Service

end Semantics
