import ElvishMail.Semantics.Program

/-!
# Programs in terms of other programs

A handler turns each query into a program of other queries, and a program into one that
does so for each of its queries. What the handled queries ask, the program asks.
-/

namespace Semantics.Program

universe u v w

variable {Query : Type u} {Reply : Query → Type w} {Other : Type v} {Answer : Other → Type w}
  {Value Result : Type w} (handler : (query : Query) → Program Other Answer (Reply query))

def handle : Program Query Reply Value → Program Other Answer Value
  | done value => done value
  | ask query next => handler query >>= fun reply => (next reply).handle

variable {handler} {may : Other → Prop}

theorem Only.handle {program : Program Query Reply Value} {asks : Query → Prop}
    (only : program.Only asks) (handled : ∀ query, asks query → (handler query).Only may) :
    (program.handle handler).Only may := by
  induction program with
  | done value => trivial
  | ask query next ih =>
    exact (handled query only.1).bind fun reply => ih reply (only.2 reply)

theorem only_true (program : Program Query Reply Value) : program.Only fun _ => True := by
  induction program with
  | done value => trivial
  | ask query next ih => exact ⟨trivial, ih⟩

theorem handle_only (program : Program Query Reply Value)
    (handled : ∀ query, (handler query).Only may) : (program.handle handler).Only may :=
  (only_true program).handle fun query _ => handled query

def Returns (wanted : Value → Prop) : Program Query Reply Value → Prop
  | done value => wanted value
  | ask _ next => ∀ reply, (next reply).Returns wanted

theorem Returns.bind {middle : Value → Prop} {wanted : Result → Prop}
    {first : Program Query Reply Value} {next : Value → Program Query Reply Result}
    (returns : first.Returns middle) (later : ∀ value, middle value → (next value).Returns wanted) :
    (first >>= next).Returns wanted := by
  induction first with
  | done value => exact later value returns
  | ask query following ih => exact fun reply => ih reply (returns reply)

theorem returns_true (program : Program Query Reply Value) : program.Returns fun _ => True := by
  induction program with
  | done value => trivial
  | ask query next ih => exact ih

theorem Returns.handle {wanted : Value → Prop} {program : Program Query Reply Value}
    (returns : program.Returns wanted) : (program.handle handler).Returns wanted := by
  induction program with
  | done value => exact returns
  | ask query next ih =>
    exact (returns_true (handler query)).bind fun reply _ => ih reply (returns reply)

theorem Only.ensures_returns {State Env : Type*}
    {answer : Env → (query : Query) → State → Reply query × State} {state : State} {asks : Query → Prop}
    {wanted : Value → Prop} {program : Program Query Reply Value} (only : program.Only asks)
    (returns : program.Returns wanted) (Holds : State → Prop)
    (kept : ∀ env query state, asks query → Holds state → Holds (answer env query state).2)
    (initial : Holds state) :
    program.Ensures answer state fun value next => wanted value ∧ Holds next := by
  induction program generalizing state with
  | done value => exact ⟨returns, initial⟩
  | ask query next ih =>
    intro env
    exact ih _ (only.2 _) (returns _) (kept _ _ _ only.1 initial)

/-- Where queries are replied to like this, a program asks only these queries, and returns
one of these values. -/
def Under (gives : (query : Query) → Reply query → Prop) (asks : Query → Prop) (wanted : Value → Prop) :
    Program Query Reply Value → Prop
  | done value => wanted value
  | ask query next => asks query ∧ ∀ reply, gives query reply → (next reply).Under gives asks wanted

variable {gives : (query : Query) → Reply query → Prop} {asks : Query → Prop}

theorem Under.mono {wanted weaker : Value → Prop} {program : Program Query Reply Value}
    (under : program.Under gives asks wanted) (implies : ∀ value, wanted value → weaker value) :
    program.Under gives asks weaker := by
  induction program with
  | done value => exact implies value under
  | ask query next ih =>
    exact ⟨under.1, fun reply given => ih reply (under.2 reply given)⟩

theorem Only.under {fewer : Query → Prop} {program : Program Query Reply Value}
    (only : program.Only fewer) (may : ∀ query, fewer query → asks query) :
    program.Under gives asks fun _ => True := by
  induction program with
  | done value => trivial
  | ask query next ih =>
    exact ⟨may query only.1, fun reply _ => ih reply (only.2 reply)⟩

theorem Under.bind {middle : Value → Prop} {wanted : Result → Prop}
    {first : Program Query Reply Value} {next : Value → Program Query Reply Result}
    (under : first.Under gives asks middle)
    (later : ∀ value, middle value → (next value).Under gives asks wanted) :
    (first >>= next).Under gives asks wanted := by
  induction first with
  | done value => exact later value under
  | ask query following ih =>
    exact ⟨under.1, fun reply given => ih reply (under.2 reply given)⟩

theorem Under.handle {wanted : Value → Prop} {program : Program Query Reply Value}
    {others : (query : Other) → Answer query → Prop} (under : program.Under gives asks wanted)
    (handled : ∀ query, asks query → (handler query).Under others may (gives query)) :
    (program.handle handler).Under others may wanted := by
  induction program with
  | done value => exact under
  | ask query next ih =>
    exact (handled query under.1).bind fun reply given => ih reply (under.2 reply given)

theorem Under.run {State Env : Type*} {answer : Env → (query : Query) → State → Reply query × State}
    {fine : Env → Prop} {wanted : Value → Prop} {program : Program Query Reply Value}
    (under : program.Under gives asks wanted) (Holds : State → Prop)
    (given : ∀ env query state, fine env → Holds state → gives query (answer env query state).1)
    (kept : ∀ env query state, fine env → asks query → Holds state → Holds (answer env query state).2)
    {envs : Nat → Env} (all : ∀ index, fine (envs index)) {state : State} (initial : Holds state) :
    wanted (program.run answer envs state).1 ∧ Holds (program.run answer envs state).2 := by
  induction program generalizing envs state with
  | done value => exact ⟨under, initial⟩
  | ask query next ih =>
    exact ih _ (under.2 _ (given _ _ _ (all 0) initial)) (fun index => all (index + 1))
      (kept _ _ _ (all 0) under.1 initial)

theorem Ensures.and {State Env : Type*} {answer : Env → (query : Query) → State → Reply query × State}
    {program : Program Query Reply Value} {state : State} {wanted other : Value → State → Prop}
    (ensures : program.Ensures answer state wanted) (also : program.Ensures answer state other) :
    program.Ensures answer state fun value after => wanted value after ∧ other value after := by
  induction program generalizing state with
  | done value => exact ⟨ensures, also⟩
  | ask query next ih => exact fun env => ih _ (ensures env) (also env)

theorem Ensures.handle {Part Whole Env Setting : Type*} {part : Whole → Part}
    {answer : Env → (query : Query) → Part → Reply query × Part}
    {respond : Setting → (query : Other) → Whole → Answer query × Whole}
    (handled : ∀ query whole (wanted : Reply query → Part → Prop),
      (∀ env, wanted (answer env query (part whole)).1 (answer env query (part whole)).2) →
      (handler query).Ensures respond whole fun reply after => wanted reply (part after))
    {program : Program Query Reply Value} {wanted : Value → Part → Prop} {whole : Whole}
    (ensures : program.Ensures answer (part whole) wanted) :
    (program.handle handler).Ensures respond whole fun value after => wanted value (part after) := by
  induction program generalizing whole with
  | done value => exact ensures
  | ask query next ih =>
    unfold Program.handle
    rw [ensures_bind]
    exact (handled query whole (fun reply part => (next reply).Ensures answer part wanted) ensures).weaken
      fun reply after onward => ih reply onward

end Semantics.Program
