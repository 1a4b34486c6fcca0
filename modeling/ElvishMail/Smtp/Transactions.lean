import ElvishMail.Smtp.Sessions

/-!
# When a transaction is open

A session keeps its transaction in two fields: the sender, which `cmdRCPT` takes to be set
when it is not empty, and the recipients. This module says what each command does to the two
and what follows for two promises: that DATA leaves them empty, however it ends, and that
after an accepted MAIL a recipient is judged on its own merits. The first fails for messages
that are too large, the second for the null reverse path.
-/

namespace ElvishMail.Smtp

open Go Semantics

namespace Session

def next (st : Session) : Option (GoString × Session) :=
  match st.r.readLine with
  | (.ok line, rest) => some (line, ({ st with r := rest } : Session).record (.command line))
  | (.error _, _) => none

def envelope (st : Session) : GoString × List GoString := (st.fromAddr, st.rcpt)

theorem next_envelope {st opened : Session} {line : GoString} (reads : st.next = some (line, opened)) :
    opened.envelope = st.envelope := by
  rw [next] at reads
  split at reads
  · cases reads
    rfl
  · cases reads

end Session

namespace Server

variable {srv : Server} {st opened later : Session} {line verb args : GoString}

/-- The next line, if there is one, is none of these commands. -/
def Avoids (srv : Server) (verbs : List GoString) (st : Session) : Prop :=
  ∀ reading ∈ st.next, (parseCommand srv.lib reading.1).1 ∉ verbs

instance (verbs : List GoString) : DecidablePred (srv.Avoids verbs) := fun st =>
  inferInstanceAs (Decidable (∀ reading ∈ st.next, _))

theorem serveLine_next (reads : st.next = some (line, opened)) :
    srv.serveLine st =
      match srv.handleLine opened line with
      | (true, st) => (true, st)
      | (false, st) => (false, srv.installTLS st) := by
  rw [Session.next] at reads
  rw [serveLine]
  split at reads
  next found =>
    cases reads
    rewrite [found]
    rfl
  · cases reads

theorem serveLine_end (ends : st.next = none) :
    (srv.serveLine st).1 = true ∧ (srv.serveLine st).2.envelope = st.envelope := by
  rw [Session.next] at ends
  rw [serveLine]
  split at ends
  · cases ends
  next found => rw [found]; exact ⟨rfl, rfl⟩

@[simp] theorem installTLS_envelope (srv : Server) (st : Session) :
    (srv.installTLS st).envelope = st.envelope := by
  unfold installTLS
  split <;> rfl

theorem handleLine_mail (parsed : parseCommand srv.lib line = (ascii "MAIL", args)) :
    srv.handleLine st line = srv.cmdMAIL st args := by
  rw [handleLine, parsed]
  rfl

theorem handleLine_rcpt (parsed : parseCommand srv.lib line = (ascii "RCPT", args)) :
    srv.handleLine st line = srv.cmdRCPT st args := by
  rw [handleLine, parsed]
  rfl

theorem handleLine_data (parsed : parseCommand srv.lib line = (ascii "DATA", args)) :
    srv.handleLine st line = srv.cmdDATA st := by
  rw [handleLine, parsed]
  rfl

theorem readResponse_envelope : st.readResponse.2.envelope = st.envelope := by
  unfold Session.readResponse
  split <;> rfl

theorem authenticate_envelope (auth : Credentials → Option GoError) (credentials : Credentials) :
    (authenticate auth st credentials).2.envelope = st.envelope := by
  unfold authenticate
  split <;> rfl

theorem authPLAIN_envelope (auth : Credentials → Option GoError) (rest : GoString) :
    (srv.authPLAIN auth st rest).2.envelope = st.envelope := by
  unfold authPLAIN
  dsimp only
  split
  · split
    · rfl
    · exact authenticate_envelope auth _
  split
  · rfl
  have read := @readResponse_envelope (st.reply 334 [])
  split
  next answered =>
    rw [answered] at read
    exact read
  next line after answered =>
    rw [answered] at read
    refine Eq.trans ?_ read
    split
    · rfl
    · exact authenticate_envelope auth _

theorem authLOGIN_envelope (auth : Credentials → Option GoError) :
    (srv.authLOGIN auth st).2.envelope = st.envelope := by
  unfold authLOGIN
  dsimp only
  split
  · rfl
  have user := @readResponse_envelope (st.reply 334 (ascii "VXNlcm5hbWU6"))
  split
  next answered =>
    rw [answered] at user
    exact user
  next userLine after answered =>
    rw [answered] at user
    split
    · exact user
    split
    · exact user
    have pass := @readResponse_envelope (after.reply 334 (ascii "UGFzc3dvcmQ6"))
    split
    next answered =>
      rw [answered] at pass
      exact pass.trans user
    next passLine last answered =>
      rw [answered] at pass
      split
      · exact pass.trans user
      · exact (authenticate_envelope auth _).trans (pass.trans user)

theorem cmdAUTH_envelope : (srv.cmdAUTH st args).2.envelope = st.envelope := by
  unfold cmdAUTH
  split
  · rfl
  split
  · rfl
  split
  · rfl
  split
  · rfl
  dsimp only
  split
  · exact authPLAIN_envelope _ _
  split
  · exact authLOGIN_envelope _
  · rfl

theorem cmdSTARTTLS_envelope : (srv.cmdSTARTTLS st).2.envelope = st.envelope := by
  unfold cmdSTARTTLS
  split
  · rfl
  split
  · rfl
  dsimp only
  split
  · rfl
  split <;> rfl

theorem cmdEHLO_envelope : (srv.cmdEHLO st args).2.envelope = st.envelope := by
  unfold cmdEHLO
  split <;> rfl

theorem cmdHELO_envelope : (srv.cmdHELO st args).2.envelope = st.envelope := by
  unfold cmdHELO
  split <;> rfl

theorem handleLine_envelope
    (other : (parseCommand srv.lib line).1 ∉ [ascii "MAIL", ascii "RCPT", ascii "DATA", ascii "RSET"]) :
    (srv.handleLine st line).2.envelope = st.envelope := by
  simp only [List.mem_cons, List.not_mem_nil, or_false, not_or] at other
  obtain ⟨mail, rcpt, data, rset⟩ := other
  unfold handleLine
  dsimp only
  split
  · exact cmdEHLO_envelope
  split
  · exact cmdHELO_envelope
  split
  · exact cmdSTARTTLS_envelope
  split
  · exact cmdAUTH_envelope
  repeat' split
  all_goals rfl

theorem cmdRCPT_fromAddr : (srv.cmdRCPT st args).2.fromAddr = st.fromAddr := by
  unfold cmdRCPT
  dsimp only
  repeat' split
  all_goals rfl

theorem serveLine_preserves {Holds : Session → Prop} (st : Session)
    (stays : ∀ {st st' : Session}, st'.envelope = st.envelope → Holds st → Holds st')
    (handles : ∀ line opened, st.next = some (line, opened) → Holds opened →
      Holds (srv.handleLine opened line).2) (holds : Holds st) : Holds (srv.serveLine st).2 := by
  cases reads : st.next with
  | none => exact stays (serveLine_end reads).2 holds
  | some reading =>
    obtain ⟨line, opened⟩ := reading
    have handled := handles line opened reads (stays (Session.next_envelope reads) holds)
    rw [serveLine_next reads]
    split
    next after ends =>
      rw [ends] at handled
      exact handled
    next after goesOn =>
      rw [goesOn] at handled
      exact stays (installTLS_envelope srv after) handled

/-- The transaction is closed: nothing is left of it, and until the next MAIL every DATA is
answered 503. -/
structure Closed (srv : Server) (st : Session) : Prop where
  fromAddr : st.fromAddr = []
  rcpt : st.rcpt = []
  refuses : ∀ later line opened args, Loop.Runs srv.serveLine (srv.Avoids [ascii "MAIL"])
    (srv.installTLS st) false later → later.next = some (line, opened) →
    parseCommand srv.lib line = (ascii "DATA", args) →
    srv.handleLine opened line = (false, opened.replyErr (.smtp errBadSequence))

theorem handleLine_empty (empty : st.envelope = ([], []))
    (other : (parseCommand srv.lib line).1 ≠ ascii "MAIL") :
    (srv.handleLine st line).2.envelope = ([], []) := by
  obtain ⟨fromAddr, rcpt⟩ := Prod.mk.inj empty
  by_cases changes : (parseCommand srv.lib line).1 ∈ [ascii "MAIL", ascii "RCPT", ascii "DATA", ascii "RSET"]
  · obtain ⟨verb, args, parsed⟩ : ∃ verb args, parseCommand srv.lib line = (verb, args) := ⟨_, _, rfl⟩
    rw [parsed] at changes other
    simp only [List.mem_cons, List.not_mem_nil, or_false] at changes
    rcases changes with rfl | rfl | rfl | rfl
    · exact absurd rfl other
    · rw [handleLine_rcpt parsed, cmdRCPT, if_pos fromAddr]
      exact empty
    · rw [handleLine_data parsed, cmdDATA, if_pos (by rw [rcpt]; rfl)]
      exact empty
    · rw [handleLine, parsed]
      rfl
  · exact (handleLine_envelope changes).trans empty

theorem closed_of_empty (empty : st.envelope = ([], [])) : srv.Closed st where
  fromAddr := (Prod.mk.inj empty).1
  rcpt := (Prod.mk.inj empty).2
  refuses := by
    intro later line opened args runs reads parsed
    have still : later.envelope = ([], []) := by
      refine @Loop.Runs.invariant _ _ _ _ (fun _ st => st.envelope = ([], []))
        ((installTLS_envelope srv st).trans empty) (fun state empty avoids => ?_) _ _ runs
      refine serveLine_preserves state (fun same => same.trans) (fun line opened reads empty => ?_) empty
      refine handleLine_empty empty fun mail => avoids (line, opened) reads ?_
      rw [mail]
      exact List.mem_singleton_self _
    have none : opened.rcpt = [] := (Prod.mk.inj ((Session.next_envelope reads).trans still)).2
    rw [handleLine_data parsed, cmdDATA, if_pos (by rw [none]; rfl)]

/-- A message that was read to its end closes the transaction, unless it is too large. -/
theorem cmdDATA_closes {body rest : GoString} (accepted : st.rcpt ≠ [])
    (answered : srv.net.writeFails (st.reply 354 (ascii "End data with <CR><LF>.<CR><LF>")).log = false)
    (read : readDotBytes .beginLine st.r.bytes = some (body, rest)) :
    srv.Closed (srv.cmdDATA st).2 ↔
      ¬(srv.cfg.maxMessageBytes > 0 ∧ (body.length : Int) > srv.cfg.maxMessageBytes) := by
  have some' : st.rcpt.length ≠ 0 := fun none => accepted (List.eq_nil_of_length_eq_zero none)
  have bytes : (st.reply 354 (ascii "End data with <CR><LF>.<CR><LF>")).r.bytes = st.r.bytes := rfl
  rw [cmdDATA, if_neg some']
  dsimp only
  rw [answered, if_neg Bool.false_ne_true, Stream.readDATA, bytes, read]
  dsimp only
  by_cases large : srv.cfg.maxMessageBytes > 0 ∧ (body.length : Int) > srv.cfg.maxMessageBytes
  · rw [if_pos large]
    exact ⟨fun closed => absurd closed.rcpt accepted, fun fits => absurd large fits⟩
  · rw [if_neg large]
    refine ⟨fun _ => large, fun _ => closed_of_empty ?_⟩
    dsimp only
    split
    · rfl
    · rfl

def small : Server :=
  let srv := sample .mx []
  { srv with cfg := { srv.cfg with maxMessageBytes := 4 } }

def beforeDATA (text : List String) : Session :=
  ((Loop.after small.serveLine (small.start
    (lines (["EHLO c", "MAIL FROM:<a@x.org>", "RCPT TO:<b@y.org>", "DATA"] ++ text)) []) 3).2.next.map
      Prod.snd).getD (small.start ⟨[], false⟩ [])

/-- A message that fits. -/
theorem cmdDATA_closes_small : ¬(small.cfg.maxMessageBytes > 0 ∧
      (List.length (ascii "hi\n") : Int) > small.cfg.maxMessageBytes) ∧
    small.Closed (small.cmdDATA (beforeDATA ["hi", "."])).2 := by
  have fits : ¬(small.cfg.maxMessageBytes > 0 ∧
      (List.length (ascii "hi\n") : Int) > small.cfg.maxMessageBytes) := by decide
  exact ⟨fits, (@cmdDATA_closes small (beforeDATA ["hi", "."]) (ascii "hi\n") [] (by decide)
    (by decide) (by decide)).mpr fits⟩

/-- A message that does not leaves its transaction to the next DATA. -/
theorem cmdDATA_leaves : ¬∀ (srv : Server) (st : Session) (body rest : GoString), st.rcpt ≠ [] →
    srv.net.writeFails (st.reply 354 (ascii "End data with <CR><LF>.<CR><LF>")).log = false →
    readDotBytes .beginLine st.r.bytes = some (body, rest) → srv.Closed (srv.cmdDATA st).2 := by
  intro closes
  have closed := closes small (beforeDATA ["hello", "."]) (ascii "hello\n") [] (by decide)
    (by decide) (by decide)
  have left : (small.cmdDATA (beforeDATA ["hello", "."])).2.rcpt = [ascii "b@y.org"] := by decide
  cases left.symm.trans closed.rcpt

/-- How a recipient is judged on its own: by its syntax, by the number of recipients, and by
the backend. -/
inductive Judged (srv : Server) (st : Session) (args : GoString) : Bool × Session → Prop where
  | syntaxError (failed : parseMailFromOrRcptTo srv.lib args = .error errSyntax) :
      Judged srv st args (false, st.replyErr (.smtp errSyntax))
  | badAddress {addr} (read : parseMailFromOrRcptTo srv.lib args = .ok addr)
      (bad : (srv.lib.parseAddress addr).getD [] = []) :
      Judged srv st args (false, st.reply 553 (ascii "bad recipient address"))
  | tooMany {addr parsed} (read : parseMailFromOrRcptTo srv.lib args = .ok addr)
      (valid : srv.lib.parseAddress addr = some parsed)
      (full : (st.rcpt.length : Int) ≥ srv.cfg.maxRecipients) :
      Judged srv st args (false, st.replyErr (.smtp errTooManyRcpts))
  | refused {addr parsed err} (read : parseMailFromOrRcptTo srv.lib args = .ok addr)
      (valid : srv.lib.parseAddress addr = some parsed)
      (unknown : srv.be.lookupRecipient st.log (toLower srv.lib (trimSpace parsed)) = some err) :
      Judged srv st args
        (false, (st.record (.lookup (toLower srv.lib (trimSpace parsed)) false)).replyErr err)
  | accepted {addr parsed looked} (read : parseMailFromOrRcptTo srv.lib args = .ok addr)
      (valid : srv.lib.parseAddress addr = some parsed)
      (known : looked = st ∨ looked = st.record (.lookup (toLower srv.lib (trimSpace parsed)) true)) :
      Judged srv st args (false,
        ({ looked with rcpt := looked.rcpt ++ [toLower srv.lib (trimSpace parsed)] } : Session).reply 250
          (ascii "Recipient OK"))

theorem judged_ne {outcome : Bool × Session} (judged : Judged srv st args outcome) :
    outcome ≠ (false, st.replyErr (.smtp errBadSequence)) := by
  intro same
  have logs := congrArg (fun outcome : Bool × Session => outcome.2.log.drop st.log.length) same
  revert logs
  cases judged with
  | accepted read valid known =>
    rcases known with rfl | rfl <;>
      simp [Session.replyErr, Session.reply, Session.record, replyErr, GoError.asSMTP, errBadSequence]
  | _ =>
    simp [Session.replyErr, Session.reply, Session.record, replyErr, GoError.asSMTP, errBadSequence,
      errSyntax, errTooManyRcpts]

theorem cmdRCPT_judged : Judged srv st args (srv.cmdRCPT st args) ↔ st.fromAddr ≠ [] := by
  constructor
  · rintro judged empty
    refine judged_ne judged ?_
    rw [cmdRCPT, if_pos empty]
  · intro sender
    rw [cmdRCPT, if_neg sender]
    split
    next err failed =>
      obtain rfl := parseMailFromOrRcptTo_error failed
      exact .syntaxError failed
    next addr read =>
      split
      next invalid => exact .badAddress read (by rw [invalid]; rfl)
      next parsed valid =>
        split
        next empty => exact .badAddress read (by rw [valid, empty]; rfl)
        dsimp only
        split
        next full => exact .tooMany read valid full
        split
        · split
          next err unknown => exact .refused read valid unknown
          · exact .accepted read valid (.inr rfl)
        · exact .accepted read valid (.inl rfl)

theorem cmdMAIL_accepted {text : List GoString}
    (ok : (srv.cmdMAIL st args).2.log = st.log ++ [Event.reply 250 text]) :
    parseMailFromOrRcptTo srv.lib args = .ok (srv.cmdMAIL st args).2.fromAddr := by
  revert ok
  unfold cmdMAIL
  split
  · simp [Session.replyErr, Session.reply, Session.record, replyErr, GoError.asSMTP, errBadSequence]
  split
  · simp [Session.replyErr, Session.reply, Session.record, replyErr, GoError.asSMTP, errAuthRequired]
  split
  next err failed =>
    obtain rfl := parseMailFromOrRcptTo_error failed
    simp [Session.replyErr, Session.reply, Session.record, replyErr, GoError.asSMTP, errSyntax]
  next addr read =>
    split
    · simp [Session.reply, Session.record]
    · exact fun _ => read

/-- The commands after which a sender need not be set any more. -/
def closing : List GoString :=
  [ascii "RSET", ascii "MAIL", ascii "EHLO", ascii "STARTTLS", ascii "DATA"]

theorem handleLine_fromAddr (other : (parseCommand srv.lib line).1 ∉ closing) :
    (srv.handleLine st line).2.fromAddr = st.fromAddr := by
  by_cases rcpt : (parseCommand srv.lib line).1 = ascii "RCPT"
  · rw [handleLine_rcpt (Prod.ext rcpt rfl)]
    exact cmdRCPT_fromAddr
  · refine congrArg Prod.fst (handleLine_envelope fun changes => other ?_)
    simp only [closing, List.mem_cons, List.not_mem_nil, or_false] at changes ⊢
    rcases changes with mail | same | data | rset
    · exact .inr (.inl mail)
    · exact absurd same rcpt
    · exact .inr (.inr (.inr (.inr data)))
    · exact .inl rset

/-- After a MAIL that was answered 250 a recipient is judged on its own, if and only if the
MAIL named a sender: after the null reverse path it is answered 503. -/
theorem rcpt_judged {before opened' : Session} {line' args' : GoString} {text : List GoString}
    (reads : before.next = some (line, opened))
    (mail : parseCommand srv.lib line = (ascii "MAIL", args))
    (ok : (srv.serveLine before).2.log = opened.log ++ [Event.reply 250 text])
    (runs : Loop.Runs srv.serveLine (srv.Avoids closing) (srv.serveLine before).2 false later)
    (reads' : later.next = some (line', opened'))
    (rcpt : parseCommand srv.lib line' = (ascii "RCPT", args')) :
    Judged srv opened' args' (srv.handleLine opened' line') ↔
      parseMailFromOrRcptTo srv.lib args ≠ .ok [] := by
  have served : (srv.serveLine before).2.log = (srv.cmdMAIL opened args).2.log ∧
      (srv.serveLine before).2.fromAddr = (srv.cmdMAIL opened args).2.fromAddr := by
    rw [serveLine_next reads, handleLine_mail mail]
    split
    next after ends => exact ⟨by rw [ends], by rw [ends]⟩
    next after goesOn =>
      rw [goesOn, installTLS]
      split <;> exact ⟨rfl, rfl⟩
  have named := cmdMAIL_accepted (served.1.symm.trans ok)
  have still : later.fromAddr = (srv.cmdMAIL opened args).2.fromAddr := by
    refine @Loop.Runs.invariant _ _ _ _ (fun _ st => st.fromAddr = (srv.cmdMAIL opened args).2.fromAddr)
      served.2 (fun state sender avoids => ?_) _ _ runs
    refine serveLine_preserves state (fun same => (congrArg Prod.fst same).trans)
      (fun line opened reads sender => ?_) sender
    exact (handleLine_fromAddr (avoids (line, opened) reads)).trans sender
  have same : opened'.fromAddr = (srv.cmdMAIL opened args).2.fromAddr :=
    (congrArg Prod.fst (Session.next_envelope reads')).trans still
  rw [handleLine_rcpt rcpt, cmdRCPT_judged, same, named]
  exact ⟨fun sender null => sender (Except.ok.inj null), fun sender empty => sender (by rw [empty])⟩

def greeted (text : List String) : Session := (sampleRun .mx ("EHLO c" :: text) [] 1).2

def opening (st : Session) : Session := (st.next.map Prod.snd).getD st

/-- The same session when it has served this line and `count` more. -/
def further (st : Session) (count : Nat) : Session :=
  (Loop.after (sample .mx []).serveLine ((sample .mx []).serveLine st).2 count).2

theorem further_runs {st : Session} {count : Nat}
    (goesOn : (Loop.after (sample .mx []).serveLine ((sample .mx []).serveLine st).2 count).1 = false)
    (avoids : ∀ index < count, (sample .mx []).Avoids closing (further st index)) :
    Loop.Runs (sample .mx []).serveLine ((sample .mx []).Avoids closing)
      ((sample .mx []).serveLine st).2 false (further st count) := by
  have runs := Loop.after_runs count avoids
  rw [goesOn] at runs
  exact runs

/-- A recipient after a sender and a NOOP. -/
theorem rcpt_judged_sender :
    let text := ["MAIL FROM:<a@x.org>", "NOOP", "RCPT TO:<b@y.org>"]
    Judged (sample .mx []) (opening (further (greeted text) 1)) (ascii "TO:<b@y.org>")
      ((sample .mx []).handleLine (opening (further (greeted text) 1)) (ascii "RCPT TO:<b@y.org>")) := by
  intro text
  exact (@rcpt_judged (sample .mx []) (opening (greeted text)) (further (greeted text) 1)
    (ascii "MAIL FROM:<a@x.org>") (ascii "FROM:<a@x.org>") (greeted text)
    (opening (further (greeted text) 1)) (ascii "RCPT TO:<b@y.org>") (ascii "TO:<b@y.org>")
    [ascii "Sender OK"] (by decide) (by decide) (by decide)
    (further_runs (by decide) (by decide)) (by decide)
    (by decide)).mpr (by decide)

/-- After the null reverse path a well-formed recipient is answered 503. -/
theorem rcpt_unjudged : ¬∀ (srv : Server) (before opened later opened' : Session)
    (line line' args args' addr parsed : GoString) (text : List GoString),
    before.next = some (line, opened) → parseCommand srv.lib line = (ascii "MAIL", args) →
    (srv.serveLine before).2.log = opened.log ++ [Event.reply 250 text] →
    Loop.Runs srv.serveLine (srv.Avoids closing) (srv.serveLine before).2 false later →
    later.next = some (line', opened') → parseCommand srv.lib line' = (ascii "RCPT", args') →
    parseMailFromOrRcptTo srv.lib args' = .ok addr → srv.lib.parseAddress addr = some parsed →
    parsed ≠ [] → Judged srv opened' args' (srv.handleLine opened' line') := by
  intro judges
  let text := ["MAIL FROM:<>", "RCPT TO:<b@y.org>"]
  have judged := judges (sample .mx []) (greeted text) (opening (greeted text)) (further (greeted text) 0)
    (opening (further (greeted text) 0)) (ascii "MAIL FROM:<>") (ascii "RCPT TO:<b@y.org>")
    (ascii "FROM:<>") (ascii "TO:<b@y.org>") (ascii "b@y.org") (ascii "b@y.org") [ascii "Sender OK"]
    (by decide) (by decide) (by decide)
    (further_runs (by decide) (by decide)) (by decide) (by decide)
    (by decide) (by decide) (by decide)
  exact judged_ne judged (by decide)

end Server

end ElvishMail.Smtp
