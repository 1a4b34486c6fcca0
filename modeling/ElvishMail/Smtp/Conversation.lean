import ElvishMail.Smtp.Client

/-!
# Outbound conversations

What the events of a connection say about the error an operation returned. A
conversation that is still `Going` has seen only events that let it continue;
one that `Halts` ends in exactly one event that does not, and that event decides
whether the error is a typed reply error. The client has a single source of
typed errors, the line it refuses to write: every reply a host gives, whatever
its code, ends up in a plain error.
-/

namespace ElvishMail.Smtp

open Go

def Command.isRcpt : Command → Bool
  | .rcpt _ => true
  | _ => false

namespace WireEvent

def command : WireEvent → Command
  | .tooLong command => command
  | .broken command => command
  | .reply command _ _ => command

def Passes : WireEvent → Prop
  | .reply .mail code _ => code = 250
  | .reply (.rcpt _) code _ => hundreds code = 2
  | .reply .data code _ => code = 354
  | .reply .message _ _ => False
  | .reply _ _ _ => True
  | .broken command => command = .ehlo
  | .tooLong _ => False

/-- The event ends a conversation with this error. A HELO too long to write is
reported as the error of the EHLO before it. -/
def Fails (err : GoError) : WireEvent → Prop
  | .tooLong .helo => err.asSMTP = none
  | .tooLong _ => err.asSMTP = some errLineTooLong
  | .broken _ => err.asSMTP = none
  | .reply .message _ _ => False
  | .reply _ _ _ => err.asSMTP = none

def acceptedRcpt : WireEvent → Option GoString
  | .reply (.rcpt addr) code _ => if hundreds code = 2 then some addr else none
  | _ => none

def accepts : WireEvent → Bool
  | .reply .message code _ => hundreds code == 2
  | _ => false

def rejects : WireEvent → Bool
  | .reply .message code _ => hundreds code == 5
  | _ => false

/-- The host answers MAIL, RCPT or the DATA command itself with a 5xx code. -/
def refuses : WireEvent → Bool
  | .reply .mail code _ => hundreds code == 5
  | .reply (.rcpt _) code _ => hundreds code == 5
  | .reply .data code _ => hundreds code == 5
  | _ => false

/-- The client refuses to write a line; a HELO is never the first such line. -/
def overlong : WireEvent → Bool
  | .tooLong .helo => false
  | .tooLong _ => true
  | _ => false

theorem Passes.plain {event : WireEvent} (passes : event.Passes) :
    event.accepts = false ∧ event.rejects = false ∧ event.refuses = false ∧
      event.overlong = false := by
  cases event with
  | tooLong command => exact absurd passes id
  | broken command => exact ⟨rfl, rfl, rfl, rfl⟩
  | reply command code text =>
    cases command with
    | mail =>
      obtain rfl : code = 250 := passes
      exact ⟨rfl, rfl, rfl, rfl⟩
    | rcpt addr =>
      have accepted : hundreds code = 2 := passes
      exact ⟨rfl, rfl, by simp [refuses, accepted], rfl⟩
    | data =>
      obtain rfl : code = 354 := passes
      exact ⟨rfl, rfl, rfl, rfl⟩
    | message => exact absurd passes id
    | _ => exact ⟨rfl, rfl, rfl, rfl⟩

end WireEvent

/-- The recipients of an accepted DATA transaction: those whose RCPT was accepted
on a connection whose message was answered 2xx. -/
def acceptedBy (events : List WireEvent) : List GoString :=
  if events.any WireEvent.accepts then events.filterMap WireEvent.acceptedRcpt else []

theorem acceptedBy_of_unaccepted {events : List WireEvent}
    (silent : events.any WireEvent.accepts = false) : acceptedBy events = [] := by
  rw [acceptedBy, silent]
  rfl

theorem readReply_asSMTP {lib : Library} {ended : GoString} {lines : List GoString} {firstCode : Int}
    {text : GoString} {err : GoError}
    (failed : readReply lib ended lines firstCode text = .error err) : err.asSMTP = none := by
  induction lines generalizing firstCode text with
  | nil =>
    cases failed
    rfl
  | cons line rest ih =>
    rw [readReply] at failed
    dsimp only at failed
    split at failed
    · cases failed
      rfl
    split at failed
    · cases failed
      rfl
    split at failed
    · cases failed
    · exact ih failed

namespace Conn

variable {lib : Library} {c : Conn} {acc : List GoString} {command : Command}

/-- The conversation has met no obstacle, and these recipients were accepted. -/
structure Going (c : Conn) (acc : List GoString) : Prop where
  passes : ∀ event ∈ c.events, event.Passes
  accepted : c.events.filterMap WireEvent.acceptedRcpt = acc

/-- The conversation ended with this error at its last event, which is about an
RCPT or not. -/
def Halts (c : Conn) (rcpt : Bool) (err : GoError) : Prop :=
  ∃ (passed : List WireEvent) (last : WireEvent), c.events = passed ++ [last] ∧
    (∀ event ∈ passed, event.Passes) ∧
    last.command.isRcpt = rcpt ∧ last.Fails err

theorem Halts.wrap {rcpt : Bool} {err : GoError} (halts : c.Halts rcpt err) (start : GoString) :
    c.Halts rcpt (.wrap start err) := by
  obtain ⟨passed, last, split, passes, about, fails⟩ := halts
  refine ⟨passed, last, split, passes, about, ?_⟩
  unfold WireEvent.Fails at fails ⊢
  split at fails <;> exact fails

def Reaches (rcpt : Bool) (acc : List GoString) : Option GoError × Conn → Prop
  | (none, c) => c.Going acc
  | (some err, c) => c.Halts rcpt err

def RcptReaches (acc : List GoString) (addr : GoString) : (Result × Option GoError) × Conn → Prop
  | ((_, none), c) => c.Going (acc ++ [addr])
  | ((_, some err), c) => c.Halts true err

/-- What DATA achieves: the reply to the message ends the conversation, or an
error does. -/
def DataReaches (acc : List GoString) : (Int × GoString × Option GoError) × Conn → Prop
  | ((code, text, none), c) =>
    ∃ passed, c.events = passed ++ [.reply .message code text] ∧
      (∀ event ∈ passed, event.Passes) ∧ passed.filterMap WireEvent.acceptedRcpt = acc
  | ((code, _, some err), c) => code = 0 ∧ c.Halts false err

namespace Going

theorem recordAccepting (going : c.Going acc) (event : WireEvent) (passes : event.Passes) :
    (c.record event).Going (acc ++ event.acceptedRcpt.toList) where
  passes := by
    intro other member
    rcases List.mem_append.mp member with earlier | last
    · exact going.passes other earlier
    · rw [List.mem_singleton.mp last]
      exact passes
  accepted := by
    show List.filterMap WireEvent.acceptedRcpt (c.events ++ [event]) = _
    rw [List.filterMap_append, going.accepted]
    cases accepts : event.acceptedRcpt <;> simp [accepts]

theorem record (going : c.Going acc) (event : WireEvent) (passes : event.Passes)
    (nobody : event.acceptedRcpt = none) : (c.record event).Going acc := by
  have recorded := going.recordAccepting event passes
  rw [nobody, Option.toList_none, List.append_nil] at recorded
  exact recorded

theorem wrote (going : c.Going acc) (line : GoString) : (c.wrote line).Going acc :=
  ⟨going.passes, going.accepted⟩

theorem halt (going : c.Going acc) {event : WireEvent} {err : GoError} (fails : event.Fails err) :
    (c.record event).Halts event.command.isRcpt err :=
  ⟨c.events, event, rfl, going.passes, rfl, fails⟩

end Going

theorem cmdf_cases (c : Conn) (command : Command) (line : GoString) :
    c.cmdf command line = (none, c.wrote line) ∨
    c.cmdf command line = (some (.smtp errLineTooLong), c.record (.tooLong command)) ∨
    ∃ text, c.cmdf command line = (some (.plain text), (c.wrote line).record (.broken command)) := by
  unfold cmdf
  split
  · exact .inr (.inl rfl)
  dsimp only
  split
  · rename_i text _
    exact .inr (.inr ⟨text, rfl⟩)
  · exact .inl rfl

theorem read_cases (lib : Library) (c : Conn) (command : Command) (stream : Stream) :
    (∃ code text, c.read lib command stream =
      (.ok (code, text), c.record (.reply command code text))) ∨
    ∃ err, c.read lib command stream = (.error err, c.record (.broken command)) ∧
      err.asSMTP = none := by
  unfold read
  split
  · rename_i err failed
    exact .inr ⟨err, rfl, readReply_asSMTP failed⟩
  · rename_i code text _
    exact .inl ⟨code, text, rfl⟩

theorem expect_cases (lib : Library) (c : Conn) (command : Command) (stream : Stream) (want : Int) :
    (∃ text, c.expect lib command stream want =
      (.ok (want, text), c.record (.reply command want text))) ∨
    ∃ err event, c.expect lib command stream want = (.error err, c.record event) ∧
      err.asSMTP = none ∧
      (event = .broken command ∨ ∃ code text, code ≠ want ∧ event = .reply command code text) := by
  unfold expect
  rcases c.read_cases lib command stream with ⟨code, text, read⟩ | ⟨err, read, untyped⟩
  · rw [read]
    by_cases wanted : code = want
    · subst wanted
      exact .inl ⟨text, by simp⟩
    · exact .inr ⟨_, .reply command code text, if_pos wanted, rfl, .inr ⟨code, text, wanted, rfl⟩⟩
  · rw [read]
    exact .inr ⟨err, .broken command, rfl, untyped, .inl rfl⟩

theorem unexpected_fails {event : WireEvent} {err : GoError} {want : Int} (untyped : err.asSMTP = none)
    (other : command ≠ .message)
    (seen : event = .broken command ∨ ∃ code text, code ≠ want ∧ event = .reply command code text) :
    event.command = command ∧ event.Fails err := by
  rcases seen with rfl | ⟨code, text, -, rfl⟩
  · exact ⟨rfl, untyped⟩
  · cases command with
    | message => exact absurd rfl other
    | _ => exact ⟨rfl, untyped⟩

theorem Going.expect (going : c.Going acc) (lib : Library) (command : Command) (stream : Stream)
    (want : Int) (other : command ≠ .message)
    (passes : ∀ text, (WireEvent.reply command want text).Passes)
    (nobody : ∀ text, (WireEvent.reply command want text).acceptedRcpt = none) :
    match c.expect lib command stream want with
    | (.error err, c) => c.Halts command.isRcpt err
    | (.ok _, c) => c.Going acc := by
  rcases c.expect_cases lib command stream want with
    ⟨text, expected⟩ | ⟨err, event, failed, untyped, seen⟩
  · rw [expected]
    exact going.record _ (passes text) (nobody text)
  · rw [failed]
    obtain ⟨about, fails⟩ := unexpected_fails untyped other seen
    rw [← about]
    exact going.halt fails

theorem Going.cmdf (going : c.Going acc) (command : Command) (line : GoString)
    (other : command ≠ .helo) :
    Reaches command.isRcpt acc (c.cmdf command line) := by
  rcases c.cmdf_cases command line with written | tooLong | ⟨text, broken⟩
  · rw [written]
    exact going.wrote line
  · rw [tooLong]
    refine going.halt ?_
    cases command with
    | helo => exact absurd rfl other
    | _ => rfl
  · rw [broken]
    exact (going.wrote line).halt rfl

theorem Going.fallback (going : c.Going acc) {refusal : GoError} (untyped : refusal.asSMTP = none) :
    Reaches false acc
      (match c.cmdf .helo (ascii "HELO " ++ c.hostname) with
      | (some _, c) => (some refusal, c)
      | (none, c) =>
        match c.expect lib .helo c.response 250 with
        | (.error err, c) => (some err, c)
        | (.ok _, c) => (none, c)) := by
  rcases c.cmdf_cases .helo (ascii "HELO " ++ c.hostname) with written | tooLong | ⟨text, broken⟩
  · rw [written]
    have reached := (going.wrote (ascii "HELO " ++ c.hostname)).expect lib .helo
      (c.wrote (ascii "HELO " ++ c.hostname)).response 250 (by simp) (fun _ => trivial)
      (fun _ => rfl)
    revert reached
    dsimp only
    split <;> exact id
  · rw [tooLong]
    exact going.halt untyped
  · rw [broken]
    exact (going.wrote _).halt untyped

theorem Going.ehlo (going : c.Going acc) : Reaches false acc (c.ehlo lib) := by
  unfold Conn.ehlo
  have asked := going.cmdf .ehlo (ascii "EHLO " ++ c.hostname) (by simp)
  split
  · rename_i err ended failed
    rw [failed] at asked
    exact asked
  rename_i waiting written
  rw [written] at asked
  have waitingGoing : waiting.Going acc := asked
  rcases waiting.expect_cases lib .ehlo waiting.response 250 with
    ⟨text, expected⟩ | ⟨err, event, failed, untyped, seen⟩
  · rw [expected]
    have answered := waitingGoing.record (.reply .ehlo 250 text) trivial rfl
    exact ⟨answered.passes, answered.accepted⟩
  · rw [failed]
    -- whatever answered EHLO, the conversation goes on with HELO
    have refused : (waiting.record event).Going acc := by
      rcases seen with rfl | ⟨code, text, -, rfl⟩
      · exact waitingGoing.record _ rfl rfl
      · exact waitingGoing.record _ trivial rfl
    exact refused.fallback untyped

theorem Going.greet (going : c.Going acc) : Reaches false acc (c.greet lib) := by
  unfold Conn.greet
  have greeted := going.expect lib .greeting c.host.greeting 220 (by simp) (fun _ => trivial) (fun _ => rfl)
  split
  · rename_i err ended failed
    rw [failed] at greeted
    exact greeted.wrap (ascii "greeting: ")
  · rename_i reply waiting expected
    rw [expected] at greeted
    exact Going.ehlo greeted

theorem Going.startTLS (going : c.Going acc) : Reaches false acc (c.startTLS lib) := by
  unfold Conn.startTLS
  have asked := going.cmdf .starttls (ascii "STARTTLS") (by simp)
  split
  · rename_i err ended failed
    rw [failed] at asked
    exact asked
  rename_i waiting written
  rw [written] at asked
  have ready := Going.expect asked lib .starttls waiting.response 220 (by simp)
    (fun _ => trivial) (fun _ => rfl)
  split
  · rename_i err ended failed
    rw [failed] at ready
    exact ready.wrap (ascii "starttls: ")
  rename_i reply negotiating expected
  rw [expected] at ready
  have negotiatingGoing : negotiating.Going acc := ready
  split
  · exact negotiatingGoing.halt rfl
  · exact Going.ehlo ⟨negotiatingGoing.passes, negotiatingGoing.accepted⟩

theorem dial_reaches (lib : Library) (host : Host) (opt : DialOptions) :
    Reaches false [] (dial lib host opt) := by
  have fresh (c : Conn) (untouched : c.events = []) : c.Going [] := by
    constructor <;> simp [untouched]
  unfold dial
  dsimp only
  split
  · exact (fresh _ rfl).halt rfl
  split
  · split
    · exact (fresh _ rfl).halt rfl
    split
    · exact (fresh _ rfl).halt rfl
    · exact (fresh _ rfl).greet
  · have greeted : Reaches false [] (Conn.greet lib
        { host
          hostname := if opt.hostname = [] then ascii "localhost" else opt.hostname }) :=
      (fresh _ rfl).greet
    split
    · rename_i err ended failed
      rw [failed] at greeted
      exact greeted
    rename_i connected succeeded
    rw [succeeded] at greeted
    split
    · exact Going.startTLS greeted
    · exact greeted

theorem Going.mail (going : c.Going acc) (lib : Library) (fromAddr : GoString) :
    Reaches false acc (c.mail lib fromAddr) := by
  unfold Conn.mail
  have asked := going.cmdf .mail (ascii "MAIL FROM:<" ++ fromAddr ++ ascii ">") (by simp)
  split
  · rename_i err ended failed
    rw [failed] at asked
    exact asked
  rename_i waiting written
  rw [written] at asked
  have answered := Going.expect asked lib .mail waiting.response 250 (by simp) (fun _ => rfl) (fun _ => rfl)
  split
  · rename_i err ended failed
    rw [failed] at answered
    exact answered
  · rename_i reply accepted expected
    rw [expected] at answered
    exact answered

theorem Going.rcpt (going : c.Going acc) (lib : Library) (addr : GoString) :
    RcptReaches acc addr (c.rcpt lib addr) := by
  unfold Conn.rcpt
  have asked := going.cmdf (.rcpt addr) (ascii "RCPT TO:<" ++ addr ++ ascii ">") (by simp)
  dsimp only
  split
  · rename_i err ended failed
    rw [failed] at asked
    exact asked
  rename_i waiting written
  rw [written] at asked
  have waitingGoing : waiting.Going acc := asked
  rcases waiting.read_cases lib (.rcpt addr) waiting.response with
    ⟨code, text, read⟩ | ⟨err, read, untyped⟩
  · rw [read]
    by_cases accepted : hundreds code = 2
    · simp only [accepted, ne_eq, not_true_eq_false, if_false]
      have recorded := waitingGoing.recordAccepting (.reply (.rcpt addr) code text) accepted
      simp only [WireEvent.acceptedRcpt, accepted, if_true, Option.toList_some] at recorded
      exact recorded
    · simp only [accepted, ne_eq, not_false_eq_true, if_true]
      exact waitingGoing.halt rfl
  · rw [read]
    exact waitingGoing.halt untyped

theorem Going.data (going : c.Going acc) (lib : Library) (payload : GoString) :
    DataReaches acc (c.data lib payload) := by
  unfold Conn.data
  have asked := going.cmdf .data (ascii "DATA") (by simp)
  split
  · rename_i err ended failed
    rw [failed] at asked
    exact ⟨rfl, asked⟩
  rename_i waiting written
  rw [written] at asked
  have ready := Going.expect asked lib .data waiting.response 354 (by simp) (fun _ => rfl) (fun _ => rfl)
  split
  · rename_i err ended failed
    rw [failed] at ready
    exact ⟨rfl, ready⟩
  rename_i reply sending expected
  rw [expected] at ready
  have sendingGoing : sending.Going acc := ready
  split
  · exact ⟨rfl, sendingGoing.halt rfl⟩
  rcases sending.read_cases lib .message (sending.host.message sending.sent payload) with
    ⟨code, text, read⟩ | ⟨err, read, untyped⟩
  · rw [read]
    exact ⟨sending.events, rfl, sendingGoing.passes, sendingGoing.accepted⟩
  · rw [read]
    exact ⟨rfl, sendingGoing.halt untyped⟩

end Conn

end ElvishMail.Smtp
