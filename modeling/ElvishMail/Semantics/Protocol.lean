import ElvishMail.Semantics.Program

/-!
# Protocols of queries

A protocol says which queries a program may ask in each stage, and where a reply
leads. An observer who sees the queries of a program and their replies knows its
stage; what holds of the state in each stage is then a matter of single queries,
however other programs come in between.
-/

namespace Semantics

universe u v w x

structure Protocol (Query : Type u) (Reply : Query → Type v) (Stage : Type x) where
  May : Stage → Query → Prop
  advance : Stage → (query : Query) → Reply query → Stage

namespace Program

variable {Query Wider : Type u} {Reply : Query → Type v} {Answer : Wider → Type v}
  {Value Result : Type w} {Stage : Type x}

def embed (into : Query → Wider) :
    Program Query (fun query => Answer (into query)) Value → Program Wider Answer Value
  | done value => done value
  | ask query next => ask (into query) fun reply => (next reply).embed into

def Follows (protocol : Protocol Query Reply Stage) :
    Program Query Reply Value → Stage → (Value → Stage → Prop) → Prop
  | done value, stage, wanted => wanted value stage
  | ask query next, stage, wanted =>
    protocol.May stage query ∧
      ∀ reply, (next reply).Follows protocol (protocol.advance stage query reply) wanted

variable {protocol : Protocol Query Reply Stage} {stage : Stage}

theorem follows_bind {first : Program Query Reply Value} {next : Value → Program Query Reply Result}
    {wanted : Result → Stage → Prop} :
    (first >>= next).Follows protocol stage wanted ↔
      first.Follows protocol stage fun value stage =>
        (next value).Follows protocol stage wanted := by
  induction first generalizing stage with
  | done value => rfl
  | ask query following ih =>
    exact and_congr_right fun _ => forall_congr' fun reply => ih reply

theorem Follows.weaken {program : Program Query Reply Value} {wanted weaker : Value → Stage → Prop}
    (follows : program.Follows protocol stage wanted)
    (implies : ∀ value stage, wanted value stage → weaker value stage) :
    program.Follows protocol stage weaker := by
  induction program generalizing stage with
  | done value => exact implies value stage follows
  | ask query next ih =>
    exact ⟨follows.1, fun reply => ih reply (follows.2 reply)⟩

theorem Only.follows {may : Query → Prop} {program : Program Query Reply Value}
    (only : program.Only may) (allowed : ∀ query, may query → protocol.May stage query ∧
      ∀ reply, protocol.advance stage query reply = stage) :
    program.Follows protocol stage fun _ after => after = stage := by
  induction program with
  | done value => rfl
  | ask query next ih =>
    refine ⟨(allowed query only.1).1, fun reply => ?_⟩
    rw [(allowed query only.1).2 reply]
    exact ih reply (only.2 reply)

theorem Only.embed {into : Query → Wider} {may : Wider → Prop}
    {program : Program Query (fun query => Answer (into query)) Value}
    (only : program.Only fun query => may (into query)) : (program.embed into).Only may := by
  induction program with
  | done value => trivial
  | ask query next ih =>
    exact ⟨only.1, fun reply => ih reply (only.2 reply)⟩

def narrowed (protocol : Protocol Wider Answer Stage) (into : Query → Wider) :
    Protocol Query (fun query => Answer (into query)) Stage where
  May := fun stage query => protocol.May stage (into query)
  advance := fun stage query reply => protocol.advance stage (into query) reply

theorem follows_embed {into : Query → Wider} {protocol : Protocol Wider Answer Stage}
    {program : Program Query (fun query => Answer (into query)) Value}
    {wanted : Value → Stage → Prop} :
    (program.embed into).Follows protocol stage wanted ↔
      program.Follows (narrowed protocol into) stage wanted := by
  induction program generalizing stage with
  | done value => rfl
  | ask query next ih =>
    exact and_congr_right fun _ => forall_congr' fun reply => ih reply

end Program

end Semantics
