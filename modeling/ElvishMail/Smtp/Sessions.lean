import Mathlib.Data.List.Induction
import ElvishMail.Smtp.Simulation

/-!
# What a session guarantees its backend

Results about every run of one session: who a submission is attributed to, which
transaction the backend is handed, and what a TLS handshake leaves of the
dialogue before it.
-/

namespace ElvishMail.Smtp

open Go Semantics

def Event.acceptedUser : Event → Option GoString
  | .authenticate credentials true => some credentials.username
  | _ => none

def lastPrincipal (log : Log) : Option GoString := (log.filterMap Event.acceptedUser).getLast?

theorem lastPrincipal_snoc (log : Log) (event : Event) :
    lastPrincipal (log ++ [event]) = event.acceptedUser.or (lastPrincipal log) := by
  unfold lastPrincipal
  rw [List.filterMap_append, List.getLast?_append]
  cases accepted : event.acceptedUser <;> simp [accepted]

def Event.handed : Event → Option (GoString × List GoString)
  | .inbound fromAddr rcpt _ _ _ => some (fromAddr, rcpt)
  | .submission _ fromAddr rcpt _ _ => some (fromAddr, rcpt)
  | _ => none

namespace Dialogue

variable {lib : Library} (dialogue : Dialogue)

theorem advance_principal (event : Event) :
    (dialogue.advance lib false event).principal = event.acceptedUser.or dialogue.principal := by
  cases event with
  | reply code lines =>
    by_cases accepted : code = 250 <;> simp [advance, accepted, Event.acceptedUser]
  | authenticate credentials accepted => cases accepted <;> rfl
  | lookup rcpt accepted => cases accepted <;> rfl
  | _ => rfl

theorem advance_secured {fresh : Bool} (event : Event) :
    (dialogue.advance lib fresh event).secured = true ↔
      dialogue.secured = true ∨ .handshake = event := by
  cases event with
  | handshake => cases fresh <;> simp [advance, upgrade]
  | reply code lines => by_cases accepted : code = 250 <;> simp [advance, accepted]
  | authenticate credentials accepted => cases accepted <;> simp [advance]
  | lookup rcpt accepted => cases accepted <;> simp [advance]
  | _ => simp [advance, closeTransaction]

end Dialogue

namespace Server

variable {srv : Server} {conn : Stream} {peer : GoString} {done : Bool} {st : Session}

/-- A listener that accepts everybody and everything, for concrete sessions. -/
def sample (mode : Mode) (afterTLS : GoString) : Server where
  cfg := Config.new
    { hostname := [], mode, maxMessageBytes := 0, maxRecipients := 0, tlsConfig := true,
      allowPlainAuth := true }
  be :=
    { handleInbound := fun _ _ _ _ _ _ => none
      handleSubmission := fun _ _ _ _ _ _ => none
      lookupRecipient := fun _ _ => none
      authenticator := fun _ => some fun _ => none
      lookupRefuses := by simp }
  net := { writeFails := fun _ => false, handshake := fun _ => some ⟨afterTLS, false⟩ }
  lib := .plain

def lines (text : List String) : Stream := ⟨text.flatMap fun line => ascii line ++ [0x0D, 0x0A], false⟩

/-- Serve `count` lines of a concrete session, with the lines sent before and
after a handshake. -/
def sampleRun (mode : Mode) (plaintext afterTLS : List String) (count : Nat) : Bool × Session :=
  Loop.after (sample mode (lines afterTLS).bytes).serveLine
    ((sample mode (lines afterTLS).bytes).start (lines plaintext) []) count

theorem sampleRun_runs (mode : Mode) (plaintext afterTLS : List String) (count : Nat) :
    (sample mode (lines afterTLS).bytes).Runs (fun _ => True) (lines plaintext) []
      (sampleRun mode plaintext afterTLS count).1 (sampleRun mode plaintext afterTLS count).2 :=
  Loop.after_runs count fun _ _ => trivial

theorem observe_principal (srv : Server) (log : Log) :
    Dialogue.principal ((srv.observer false).observe log) = lastPrincipal log := by
  induction log using List.reverseRecOn with
  | nil => rfl
  | append_singleton log event ih =>
    rw [Monitor.observe_snoc, lastPrincipal_snoc, ← ih]
    exact Dialogue.advance_principal _ event

theorem observe_secured (srv : Server) (fresh : Bool) (log : Log) :
    Dialogue.secured ((srv.observer fresh).observe log) = true ↔ .handshake ∈ log := by
  induction log using List.reverseRecOn with
  | nil => simp [observer]
  | append_singleton log event ih =>
    rw [Monitor.observe_snoc, List.mem_append, List.mem_singleton, ← ih]
    exact Dialogue.advance_secured _ event

/-- Every submission is attributed to the user of the most recent accepted AUTH,
and credentials are only ever evaluated after a TLS handshake or where plaintext
AUTH is allowed. -/
theorem submission_authenticated (runs : srv.Runs (fun _ => True) conn peer done st) :
    (∀ before principal fromAddr rcpt body client after,
      st.log = before ++ Event.submission principal fromAddr rcpt body client :: after →
        lastPrincipal before = some principal) ∧
    (∀ before credentials accepted after,
      st.log = before ++ Event.authenticate credentials accepted :: after →
        Event.handshake ∈ before ∨ srv.cfg.allowPlainAuth = true) := by
  have accepts : (srv.observer false).Accepts st.log := runs_sound (by simp) runs
  constructor
  · intro before principal fromAddr rcpt body client after split
    have sound := accepts before _ after split
    rw [← observe_principal srv]
    exact sound.2
  · intro before credentials accepted after split
    have sound := accepts before _ after split
    rw [← observe_secured srv false]
    exact sound

/-- A submission after AUTH PLAIN as `alice`. -/
theorem submission_authenticated_sample :
    let log := (sampleRun .submission ["EHLO c", "AUTH PLAIN AGFsaWNlAHB3", "MAIL FROM:<a@x.org>",
      "RCPT TO:<b@y.org>", "DATA", "hi", "."] [] 5).2.log
    log[12]? = some (Event.submission (ascii "alice") (ascii "a@x.org") [ascii "b@y.org"]
      (ascii "hi\n") []) ∧
    lastPrincipal (log.take 12) = some (ascii "alice") := by
  refine ⟨by decide, ?_⟩
  exact (submission_authenticated (sampleRun_runs .submission ["EHLO c",
    "AUTH PLAIN AGFsaWNlAHB3", "MAIL FROM:<a@x.org>", "RCPT TO:<b@y.org>", "DATA", "hi", "."] []
    5)).1 _ _ (ascii "a@x.org")
    [ascii "b@y.org"] (ascii "hi\n") [] [.reply 250 [ascii "Message accepted"]] (by decide)

/-- The backend is handed exactly the open transaction of the dialogue: the
address of the last MAIL answered 250 and, in order, the lower-cased addresses
of the RCPTs answered 250 since, which are not empty, at most `MaxRecipients`,
and on an MX listener each looked up since that MAIL. -/
theorem handed_transaction (runs : srv.Runs (fun _ => True) conn peer done st)
    {before after : Log} {event : Event} {fromAddr : GoString} {rcpt : List GoString}
    (split : st.log = before ++ event :: after) (handed : event.handed = some (fromAddr, rcpt)) :
    Dialogue.Hands srv.cfg ((srv.observer false).observe before) fromAddr rcpt := by
  have accepts : (srv.observer false).Accepts st.log := runs_sound (by simp) runs
  have sound := accepts before event after split
  cases event with
  | inbound sender recipients body client hello =>
    cases handed
    exact sound.1
  | submission principal sender recipients body client =>
    cases handed
    exact sound.1
  | _ => cases handed

/-- Two recipients, the second named in capitals. -/
theorem handed_transaction_sample :
    let log := (sampleRun .mx ["EHLO c", "MAIL FROM:<a@x.org>", "RCPT TO:<b@y.org>",
      "RCPT TO:<C@y.org>", "DATA", "hi", "."] [] 5).2.log
    log[13]? = some (Event.inbound (ascii "a@x.org") [ascii "b@y.org", ascii "c@y.org"] (ascii "hi\n") []
      (ascii "c")) ∧
    Dialogue.Hands (sample .mx []).cfg (((sample .mx []).observer false).observe (log.take 13))
      (ascii "a@x.org") [ascii "b@y.org", ascii "c@y.org"] := by
  refine ⟨by decide, ?_⟩
  exact @handed_transaction _ _ _ _ _ (sampleRun_runs .mx ["EHLO c", "MAIL FROM:<a@x.org>",
    "RCPT TO:<b@y.org>", "RCPT TO:<C@y.org>", "DATA", "hi", "."] [] 5) _
    [.reply 250 [ascii "Message accepted"]] (.inbound _ _ (ascii "hi\n") [] (ascii "c")) _ _
    (by decide) rfl

/-- What RFC 3207 §4.2 asks of the log: after a handshake, whatever is handed to
the backend was received since that handshake, and MAIL, RCPT and DATA are
refused until a greeting has been answered since. -/
def DiscardsPlaintext (srv : Server) (log : Log) : Prop :=
  ∀ (before : Log) (event : Event) (after : Log), log = before ++ event :: after →
    let dialogue : Dialogue := (srv.observer true).observe before
    dialogue.secured = true →
      match event with
      | .inbound fromAddr rcpt _ _ hello =>
        dialogue.fromAddr = some fromAddr ∧ dialogue.rcpt = rcpt ∧ dialogue.hello = some hello
      | .submission principal fromAddr rcpt _ _ =>
        dialogue.fromAddr = some fromAddr ∧ dialogue.rcpt = rcpt ∧
          dialogue.principal = some principal
      | .reply code _ => dialogue.greeted = false → dialogue.Transacting → code = 503
      | _ => True

/-- In every run whose successful STARTTLS commands all find no sender set and
nobody authenticated, nothing received in plaintext outlives the handshake. -/
theorem starttls_discards
    (runs : srv.Runs (fun st => srv.Upgrades st → Unburdened st) conn peer done st) :
    srv.DiscardsPlaintext st.log := by
  have accepts : (srv.observer true).Accepts st.log :=
    runs_sound (fun _ _ allowed => allowed) runs
  intro before event after split dialogue _
  have sound := accepts before event after split
  cases event with
  | inbound fromAddr rcpt body client hello =>
    exact ⟨sound.1.sender, sound.1.recipients, sound.2⟩
  | submission principal fromAddr rcpt body client =>
    exact ⟨sound.1.sender, sound.1.recipients, sound.2⟩
  | reply code lines => exact sound rfl
  | _ => trivial

/-- A run that greets, secures the connection, and only then sends a message. -/
theorem starttls_discards_sample :
    let log := (sampleRun .mx ["EHLO c", "STARTTLS"]
      ["EHLO d", "MAIL FROM:<a@x.org>", "RCPT TO:<b@y.org>", "DATA", "hi", "."] 6).2.log
    .handshake ∈ log ∧
    DiscardsPlaintext (sample .mx (lines ["EHLO d", "MAIL FROM:<a@x.org>", "RCPT TO:<b@y.org>",
      "DATA", "hi", "."]).bytes) log := by
  refine ⟨by decide, starttls_discards (Loop.after_runs 6 ?_)⟩
  intro index early
  by_cases plaintext : index < 2
  · have clean : ∀ index < 2, Unburdened (sampleRun .mx ["EHLO c", "STARTTLS"]
        ["EHLO d", "MAIL FROM:<a@x.org>", "RCPT TO:<b@y.org>", "DATA", "hi", "."] index).2 := by
      unfold Unburdened
      decide
    exact fun _ => clean index plaintext
  · have later : ∀ index < 6, 2 ≤ index →
        ∀ line ∈ (sampleRun .mx ["EHLO c", "STARTTLS"]
          ["EHLO d", "MAIL FROM:<a@x.org>", "RCPT TO:<b@y.org>", "DATA", "hi", "."]
          index).2.r.readLine.1.toOption,
        (parseCommand .plain line).1 ≠ ascii "STARTTLS" := by decide
    rintro ⟨line, rest, read, verb, _⟩
    refine absurd verb (later index early (by omega) line ?_)
    exact congrArg (fun outcome => outcome.1.toOption) read

/-- A client that opens its transaction in plaintext, secures the connection and
then sends only DATA has the plaintext transaction accepted over TLS. -/
theorem starttls_keeps_plaintext_transaction :
    ∃ done st, (sample .mx (lines ["DATA", "hi", "."]).bytes).Runs (fun _ => True)
        (lines ["EHLO c", "MAIL FROM:<a@x.org>", "RCPT TO:<b@y.org>", "STARTTLS"]) [] done st ∧
      ¬ DiscardsPlaintext (sample .mx (lines ["DATA", "hi", "."]).bytes) st.log := by
  refine ⟨_, _, sampleRun_runs .mx ["EHLO c", "MAIL FROM:<a@x.org>", "RCPT TO:<b@y.org>",
    "STARTTLS"] ["DATA", "hi", "."] 5, fun discards => ?_⟩
  have handed := discards
    ((sampleRun .mx ["EHLO c", "MAIL FROM:<a@x.org>", "RCPT TO:<b@y.org>", "STARTTLS"]
      ["DATA", "hi", "."] 5).2.log.take 13)
    (.inbound (ascii "a@x.org") [ascii "b@y.org"] (ascii "hi\n") [] (ascii "c"))
    [.reply 250 [ascii "Message accepted"]] (by decide) (by decide)
  revert handed
  decide

end Server

end ElvishMail.Smtp
