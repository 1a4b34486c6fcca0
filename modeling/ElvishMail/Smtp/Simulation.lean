import ElvishMail.Smtp.Dialogue

/-!
# Every line keeps the dialogue in step

One lemma per command handler: started in step with the observer, it ends in
step with him. `serveLine_follows` collects them into the step lemma of the
connection loop, and `runs_follow` is the run lemma behind every result about
sessions.
-/

namespace ElvishMail.Smtp

open Go Semantics

namespace Server

variable {srv : Server} {fresh : Bool} {st : Session} {dialogue : Dialogue}

/-- The session is in step with the observer, whose last command is `verb args`. -/
structure Handling (srv : Server) (fresh : Bool) (st : Session) (verb args : GoString)
    (dialogue : Dialogue) : Prop extends Follows srv fresh st dialogue where
  pending : dialogue.pending = some (verb, args)
  settled : st.upgradedConn = none

def InStep (srv : Server) (fresh : Bool) (outcome : Bool × Session) : Prop :=
  ∃ dialogue, Follows srv fresh outcome.2 dialogue

theorem Handling.free {verb args : GoString} (handling : Handling srv fresh st verb args dialogue)
    (outside : verb ≠ ascii "MAIL" ∧ verb ≠ ascii "RCPT" ∧ verb ≠ ascii "DATA") (code : Int) :
    fresh → dialogue.greeted = false → dialogue.Transacting → code = 503 := by
  rintro - - ⟨other, transacting⟩
  rw [handling.pending] at transacting
  rcases transacting with same | same | same <;> injection same with same <;>
    injection same with same _
  · exact absurd same outside.1
  · exact absurd same outside.2.1
  · exact absurd same outside.2.2

theorem free_of_greeted (greeted : dialogue.greeted = true) (code : Int) :
    fresh → dialogue.greeted = false → dialogue.Transacting → code = 503 := by
  intro _ ungreeted
  rw [greeted] at ungreeted
  cases ungreeted

theorem greeting_follows {verb args name : GoString}
    (handling : Handling srv fresh st verb args dialogue)
    (greeting : verb = ascii "EHLO" ∨ verb = ascii "HELO")
    (parsed : parseHelloName args = .ok name) (lines : List GoString) :
    Follows srv fresh
      (({ st with hello := name, greeted := true } : Session).record (.reply 250 lines))
      { dialogue with greeted := true, hello := some name } := by
  have outside : verb ≠ ascii "MAIL" ∧ verb ≠ ascii "RCPT" ∧ verb ≠ ascii "DATA" := by
    rcases greeting with rfl | rfl <;> decide
  have known : dialogue.advance srv.lib fresh (.reply 250 lines) =
      { dialogue with greeted := true, hello := some name } := by
    rw [Dialogue.advance_reply_ok, Dialogue.answered_hello handling.pending greeting, parsed]
    rfl
  have tracks := handling.tracks
  rw [← known]
  refine handling.toFollows.extend _ rfl (handling.free outside 250) ?_
  rw [known]
  exact {
    secured := tracks.secured
    greeted := by simp [Session.record, handling.settled]
    hello := fun _ => rfl
    principal := tracks.principal
    authed := tracks.authed
    sender := tracks.sender
    senderHello := fun _ => rfl
    senderGreeted := fun _ _ => rfl
    rcpt := tracks.rcpt
    opened := tracks.opened
    bounded := tracks.bounded
    lookedUp := tracks.lookedUp }

theorem Handling.refuse {verb args text : GoString} {code : Int}
    (handling : Handling srv fresh st verb args dialogue)
    (outside : verb ≠ ascii "MAIL" ∧ verb ≠ ascii "RCPT" ∧ verb ≠ ascii "DATA")
    (refusal : code ≠ 250) {done : Bool} : InStep srv fresh (done, st.reply code text) :=
  ⟨dialogue, handling.toFollows.refused refusal (handling.free outside code)⟩

theorem parseHelloName_error {args : GoString} {err : SMTPError}
    (failed : parseHelloName args = .error err) : err = errSyntax := by
  unfold parseHelloName at failed
  dsimp only at failed
  split at failed
  · exact (Except.error.inj failed).symm
  · split at failed
    · exact (Except.error.inj failed).symm
    · cases failed

theorem cmdEHLO_inStep {args : GoString}
    (handling : Handling srv fresh st (ascii "EHLO") args dialogue) :
    InStep srv fresh (srv.cmdEHLO st args) := by
  unfold cmdEHLO
  cases parsed : parseHelloName args with
  | error err =>
    rw [parseHelloName_error parsed]
    exact handling.refuse (by decide) (by decide)
  | ok name => exact ⟨_, greeting_follows handling (.inl rfl) parsed _⟩

theorem cmdHELO_inStep {args : GoString}
    (handling : Handling srv fresh st (ascii "HELO") args dialogue) :
    InStep srv fresh (srv.cmdHELO st args) := by
  unfold cmdHELO
  cases parsed : parseHelloName args with
  | error err =>
    rw [parseHelloName_error parsed]
    exact handling.refuse (by decide) (by decide)
  | ok name => exact ⟨_, greeting_follows handling (.inr rfl) parsed _⟩

/-- What STARTTLS must find for the forgetful observer to stay in step. -/
def Unburdened (st : Session) : Prop := st.fromAddr = [] ∧ st.authed = false

theorem handshake_follows {args : GoString} (conn : Stream)
    (handling : Handling srv fresh st (ascii "STARTTLS") args dialogue)
    (clean : fresh → Unburdened st) :
    Follows srv fresh
      { st.record .handshake with tlsActive := true, upgradedConn := some conn }
      (dialogue.upgrade fresh) := by
  have tracks := handling.tracks
  refine handling.toFollows.extend .handshake rfl trivial ?_
  change Tracks srv.cfg fresh _ (dialogue.upgrade fresh)
  cases fresh with
  | false => exact {
      secured := rfl
      greeted := by simp [Dialogue.upgrade]
      hello := by simp [Dialogue.upgrade]
      principal := tracks.principal
      authed := tracks.authed
      sender := tracks.sender
      senderHello := tracks.senderHello
      senderGreeted := by simp
      rcpt := tracks.rcpt
      opened := tracks.opened
      bounded := tracks.bounded
      lookedUp := tracks.lookedUp }
  | true =>
    obtain ⟨noSender, noPrincipal⟩ := clean rfl
    have noRcpt : st.rcpt = [] := by
      by_contra some
      exact tracks.opened some noSender
    exact {
      secured := rfl
      greeted := by simp [Dialogue.upgrade]
      hello := by simp [Dialogue.upgrade]
      principal := by simp [Session.record, noPrincipal]
      authed := by simp [Session.record, noSender]
      sender := by simp [Session.record, noSender]
      senderHello := by simp [Session.record, noSender]
      senderGreeted := by simp [Session.record, noSender]
      rcpt := by simp [Session.record, Dialogue.upgrade, noRcpt]
      opened := by simp [Session.record, noRcpt]
      bounded := by simp [Session.record, noRcpt]
      lookedUp := by simp [Session.record, noRcpt] }

def Secures (srv : Server) (st : Session) : Prop :=
  let ready := st.reply 220 (ascii "Ready to start TLS")
  st.greeted ∧ srv.cfg.tlsConfig ∧ srv.net.writeFails ready.log = false ∧
    ∃ conn, srv.net.handshake ready.log = some conn

theorem cmdSTARTTLS_inStep {args : GoString}
    (handling : Handling srv fresh st (ascii "STARTTLS") args dialogue)
    (clean : fresh → srv.Secures st → Unburdened st) :
    InStep srv fresh (srv.cmdSTARTTLS st) := by
  unfold cmdSTARTTLS
  split
  · exact handling.refuse (by decide) (by decide)
  rename_i greeted
  split
  · exact handling.refuse (by decide) (by decide)
  rename_i available
  have ready : Handling srv fresh (st.reply 220 (ascii "Ready to start TLS")) (ascii "STARTTLS")
      args dialogue :=
    ⟨handling.toFollows.refused (by decide) (handling.free (by decide) 220), handling.pending,
      handling.settled⟩
  dsimp only
  split
  · exact ⟨dialogue, ready.toFollows⟩
  rename_i written
  cases outcome : srv.net.handshake (st.reply 220 (ascii "Ready to start TLS")).log with
  | none => exact ⟨dialogue, ready.toFollows⟩
  | some conn =>
    refine ⟨_, handshake_follows conn ready fun isFresh => ?_⟩
    exact clean isFresh ⟨by simpa using greeted, by simpa using available,
      by simpa using written, conn, outcome⟩

theorem Handling.readResponse {verb args line : GoString} {next : Session}
    (handling : Handling srv fresh st verb args dialogue)
    (read : st.readResponse = (some line, next)) :
    Handling srv fresh next verb args dialogue := by
  unfold Session.readResponse at read
  split at read
  · cases read
  · rename_i rest _
    cases read
    refine ⟨(handling.toFollows.withReader rest).extend (.response _) rfl trivial ?_,
      handling.pending, handling.settled⟩
    exact (handling.tracks.withReader rest).record _

theorem Handling.readFailed {verb args : GoString} {next : Session}
    (handling : Handling srv fresh st verb args dialogue)
    (read : st.readResponse = (none, next)) : Follows srv fresh next dialogue := by
  unfold Session.readResponse at read
  split at read
  · cases read
    exact handling.toFollows.withReader _
  · cases read

theorem authenticate_inStep {args : GoString} (auth : Credentials → Option GoError)
    (credentials : Credentials) (handling : Handling srv fresh st (ascii "AUTH") args dialogue)
    (permitted : st.tlsActive ∨ srv.cfg.allowPlainAuth) :
    InStep srv fresh (authenticate auth st credentials) := by
  have tracks := handling.tracks
  have sound : dialogue.Sound srv.cfg fresh (.authenticate credentials true) := by
    simpa [Dialogue.Sound, tracks.secured] using permitted
  unfold authenticate
  cases auth credentials with
  | some err =>
    have rejected : Handling srv fresh (st.record (.authenticate credentials false))
        (ascii "AUTH") args dialogue :=
      ⟨handling.toFollows.extend (.authenticate credentials false) rfl sound (tracks.record _),
        handling.pending, handling.settled⟩
    exact rejected.refuse (by decide) (by decide)
  | none =>
    have accepted : Handling srv fresh
        { st.record (.authenticate credentials true) with
          authed := true, principal := credentials.username }
        (ascii "AUTH") args { dialogue with principal := some credentials.username } := by
      refine ⟨handling.toFollows.extend (.authenticate credentials true) rfl sound ?_,
        handling.pending, handling.settled⟩
      exact {
        secured := tracks.secured
        greeted := tracks.greeted
        hello := tracks.hello
        principal := fun _ => rfl
        authed := fun _ _ => rfl
        sender := tracks.sender
        senderHello := tracks.senderHello
        senderGreeted := tracks.senderGreeted
        rcpt := tracks.rcpt
        opened := tracks.opened
        bounded := tracks.bounded
        lookedUp := tracks.lookedUp }
    exact accepted.refuse (by decide) (by decide)

theorem Handling.asked {verb args : GoString}
    (handling : Handling srv fresh st verb args dialogue) (text : GoString)
    (outside : verb ≠ ascii "MAIL" ∧ verb ≠ ascii "RCPT" ∧ verb ≠ ascii "DATA") :
    Handling srv fresh (st.reply 334 text) verb args dialogue :=
  ⟨handling.toFollows.refused (by decide) (handling.free outside 334), handling.pending,
    handling.settled⟩

theorem readResponse_tlsActive {line : Option GoString} {next : Session}
    (read : st.readResponse = (line, next)) : next.tlsActive = st.tlsActive := by
  unfold Session.readResponse at read
  split at read <;> cases read <;> rfl

theorem authPLAIN_inStep {args rest : GoString} (auth : Credentials → Option GoError)
    (handling : Handling srv fresh st (ascii "AUTH") args dialogue)
    (permitted : st.tlsActive ∨ srv.cfg.allowPlainAuth) :
    InStep srv fresh (srv.authPLAIN auth st rest) := by
  unfold authPLAIN
  dsimp only
  split
  · split
    · exact handling.refuse (by decide) (by decide)
    · exact authenticate_inStep auth _ handling permitted
  have asked := handling.asked [] (by decide)
  split
  · exact ⟨dialogue, asked.toFollows⟩
  split
  · rename_i read
    exact ⟨dialogue, asked.readFailed read⟩
  · rename_i read
    have answered := asked.readResponse read
    split
    · exact answered.refuse (by decide) (by decide)
    · refine authenticate_inStep auth _ answered ?_
      rw [readResponse_tlsActive read]
      exact permitted

theorem authLOGIN_inStep {args : GoString} (auth : Credentials → Option GoError)
    (handling : Handling srv fresh st (ascii "AUTH") args dialogue)
    (permitted : st.tlsActive ∨ srv.cfg.allowPlainAuth) :
    InStep srv fresh (srv.authLOGIN auth st) := by
  unfold authLOGIN
  dsimp only
  have askedUser := handling.asked (ascii "VXNlcm5hbWU6") (by decide)
  split
  · exact ⟨dialogue, askedUser.toFollows⟩
  split
  · rename_i read
    exact ⟨dialogue, askedUser.readFailed read⟩
  rename_i readUser
  have userRead := askedUser.readResponse readUser
  split
  · exact userRead.refuse (by decide) (by decide)
  have askedPass := userRead.asked (ascii "UGFzc3dvcmQ6") (by decide)
  split
  · exact ⟨dialogue, askedPass.toFollows⟩
  split
  · rename_i read
    exact ⟨dialogue, askedPass.readFailed read⟩
  rename_i readPass
  have passRead := askedPass.readResponse readPass
  split
  · exact passRead.refuse (by decide) (by decide)
  · refine authenticate_inStep auth _ passRead ?_
    have userKept := readResponse_tlsActive readUser
    have passKept := readResponse_tlsActive readPass
    simp only [Session.reply, Session.record] at userKept passKept
    rw [passKept, userKept]
    exact permitted

theorem cmdAUTH_inStep {args : GoString}
    (handling : Handling srv fresh st (ascii "AUTH") args dialogue) :
    InStep srv fresh (srv.cmdAUTH st args) := by
  unfold cmdAUTH
  split
  · exact handling.refuse (by decide) (by decide)
  split
  · exact handling.refuse (by decide) (by decide)
  split
  · exact handling.refuse (by decide) (by decide)
  rename_i permitted
  have permitted : st.tlsActive ∨ srv.cfg.allowPlainAuth := by
    by_contra neither
    simp only [not_or, Bool.not_eq_true] at neither
    simp [neither] at permitted
  split
  · exact handling.refuse (by decide) (by decide)
  dsimp only
  split
  · exact authPLAIN_inStep _ handling permitted
  split
  · exact authLOGIN_inStep _ handling permitted
  · exact handling.refuse (by decide) (by decide)

theorem parseMailFromOrRcptTo_error {lib : Library} {args : GoString} {err : SMTPError}
    (failed : parseMailFromOrRcptTo lib args = .error err) : err = errSyntax := by
  unfold parseMailFromOrRcptTo at failed
  dsimp only at failed
  split at failed
  · exact (Except.error.inj failed).symm
  split at failed
  · split at failed
    · exact (Except.error.inj failed).symm
    · split at failed
      · exact (Except.error.inj failed).symm
      · cases failed
  split at failed
  · split at failed
    · exact (Except.error.inj failed).symm
    · split at failed
      · exact (Except.error.inj failed).symm
      · cases failed
  · exact (Except.error.inj failed).symm

theorem cmdMAIL_inStep {args : GoString}
    (handling : Handling srv fresh st (ascii "MAIL") args dialogue) :
    InStep srv fresh (srv.cmdMAIL st args) := by
  have tracks := handling.tracks
  unfold cmdMAIL
  split
  · exact ⟨dialogue, handling.toFollows.refused (by decide) fun _ _ _ => rfl⟩
  rename_i notUngreeted
  have greeted : dialogue.greeted = true := by
    rw [tracks.greeted, handling.settled]
    simpa using notUngreeted
  have refuse : ∀ {code : Int} {text : GoString}, code ≠ 250 →
      InStep srv fresh (false, st.reply code text) := fun refusal =>
    ⟨dialogue, handling.toFollows.refused refusal (free_of_greeted greeted _)⟩
  split
  · exact refuse (by decide)
  rename_i authed
  cases parsed : parseMailFromOrRcptTo srv.lib args with
  | error err =>
    rw [parseMailFromOrRcptTo_error parsed]
    exact refuse (by decide)
  | ok addr =>
    dsimp only
    split
    · exact refuse (by decide)
    refine ⟨_, handling.toFollows.extend (.reply 250 [ascii "Sender OK"]) rfl
      (free_of_greeted greeted _) ?_⟩
    have known : dialogue.advance srv.lib fresh (.reply 250 [ascii "Sender OK"]) =
        { dialogue with fromAddr := some addr, rcpt := [], lookedUp := [] } := by
      rw [Dialogue.advance_reply_ok, Dialogue.answered_mail handling.pending, mailAddress, parsed]
      rfl
    rw [known]
    exact {
      secured := tracks.secured
      greeted := tracks.greeted
      hello := tracks.hello
      principal := tracks.principal
      authed := fun submission _ => by
        by_contra unauthed
        exact authed ⟨submission, by simpa [Session.reply, Session.record] using unauthed⟩
      sender := fun _ => rfl
      senderHello := fun _ => tracks.hello greeted
      senderGreeted := fun _ _ => greeted
      rcpt := rfl
      opened := by simp [Session.reply, Session.record]
      bounded := by simp [Session.reply, Session.record]
      lookedUp := by simp [Session.reply, Session.record] }

theorem rcptAccepted_inStep {args em : GoString}
    (handling : Handling srv fresh st (ascii "RCPT") args dialogue)
    (opened : st.fromAddr ≠ []) (named : rcptAddress srv.lib args = some em)
    (room : (st.rcpt.length : Int) < srv.cfg.maxRecipients)
    (lookedUp : srv.cfg.mode = .mx → em ∈ dialogue.lookedUp) :
    InStep srv fresh
      (false, ({ st with rcpt := st.rcpt ++ [em] } : Session).reply 250 (ascii "Recipient OK")) := by
  have tracks := handling.tracks
  have sound : dialogue.Sound srv.cfg fresh (.reply 250 [ascii "Recipient OK"]) := fun isFresh =>
    free_of_greeted (tracks.senderGreeted isFresh opened) _ isFresh
  have known : dialogue.advance srv.lib fresh (.reply 250 [ascii "Recipient OK"]) =
      { dialogue with rcpt := dialogue.rcpt ++ [em] } := by
    rw [Dialogue.advance_reply_ok, Dialogue.answered_rcpt handling.pending, named]
    rfl
  refine ⟨_, handling.toFollows.extend (.reply 250 [ascii "Recipient OK"]) rfl sound ?_⟩
  rw [known]
  exact {
    secured := tracks.secured
    greeted := tracks.greeted
    hello := tracks.hello
    principal := tracks.principal
    authed := tracks.authed
    sender := tracks.sender
    senderHello := tracks.senderHello
    senderGreeted := tracks.senderGreeted
    rcpt := by simp [Session.reply, Session.record, tracks.rcpt]
    opened := fun _ => opened
    bounded := fun _ => by
      simp only [Session.reply, Session.record, List.length_append, List.length_singleton]
      omega
    lookedUp := by
      intro mx addr member
      simp only [Session.reply, Session.record, List.mem_append, List.mem_singleton] at member
      rcases member with old | rfl
      · exact tracks.lookedUp mx addr old
      · exact lookedUp mx }

theorem cmdRCPT_inStep {args : GoString}
    (handling : Handling srv fresh st (ascii "RCPT") args dialogue) :
    InStep srv fresh (srv.cmdRCPT st args) := by
  have tracks := handling.tracks
  unfold cmdRCPT
  split
  · exact ⟨dialogue, handling.toFollows.refused (by decide) fun _ _ _ => rfl⟩
  rename_i opened
  have sound : ∀ code : Int, fresh → dialogue.greeted = false → dialogue.Transacting →
      code = 503 := fun code isFresh =>
    free_of_greeted (tracks.senderGreeted isFresh opened) code isFresh
  have refuse : ∀ {code : Int} {text : GoString}, code ≠ 250 →
      InStep srv fresh (false, st.reply code text) := fun refusal =>
    ⟨dialogue, handling.toFollows.refused refusal (sound _)⟩
  cases parsed : parseMailFromOrRcptTo srv.lib args with
  | error err =>
    rw [parseMailFromOrRcptTo_error parsed]
    exact refuse (by decide)
  | ok addr =>
    dsimp only
    cases address : srv.lib.parseAddress addr with
    | none => exact refuse (by decide)
    | some mailbox =>
      dsimp only
      split
      · exact refuse (by decide)
      split
      · exact refuse (by decide)
      rename_i room
      have named : rcptAddress srv.lib args = some (toLower srv.lib (trimSpace mailbox)) := by
        simp [rcptAddress, parsed, Except.toOption, address]
      split
      · cases answer : srv.be.lookupRecipient st.log (toLower srv.lib (trimSpace mailbox)) with
        | some err =>
          have looked : Follows srv fresh
              (st.record (.lookup (toLower srv.lib (trimSpace mailbox)) false)) dialogue :=
            handling.toFollows.extend (.lookup (toLower srv.lib (trimSpace mailbox)) false) rfl
              trivial (tracks.record _)
          exact ⟨dialogue, looked.refused (srv.be.lookupRefuses _ _ _ answer) (sound _)⟩
        | none =>
          have looked : Handling srv fresh
              (st.record (.lookup (toLower srv.lib (trimSpace mailbox)) true))
              (ascii "RCPT") args
              { dialogue with
                lookedUp := toLower srv.lib (trimSpace mailbox) :: dialogue.lookedUp } := by
            refine ⟨handling.toFollows.extend (.lookup _ true) rfl trivial ?_,
              handling.pending, handling.settled⟩
            exact { tracks.record (.lookup (toLower srv.lib (trimSpace mailbox)) true) with
              lookedUp := fun mx addr member =>
                List.mem_cons_of_mem _ (tracks.lookedUp mx addr member) }
          exact rcptAccepted_inStep looked opened named (by
            simp only [Session.record]
            omega) fun _ => List.mem_cons_self
      · rename_i notMX
        exact rcptAccepted_inStep handling opened named (by omega) fun mx => absurd mx notMX

theorem Tracks.closed (tracks : Tracks srv.cfg fresh st dialogue) (event : Event) :
    Tracks srv.cfg fresh { st.record event with fromAddr := [], rcpt := [] }
      dialogue.closeTransaction where
  secured := tracks.secured
  greeted := tracks.greeted
  hello := tracks.hello
  principal := tracks.principal
  authed := by simp
  sender := by simp
  senderHello := by simp
  senderGreeted := by simp
  rcpt := rfl
  opened := by simp
  bounded := by simp
  lookedUp := by simp

theorem backendCall_follows {body : GoString} {answer : Option GoError} {next : Session}
    (follows : Follows srv fresh st dialogue) (filled : st.rcpt ≠ [])
    (call : srv.deliverToBackend st body = (answer, next)) :
    Follows srv fresh { next with fromAddr := [], rcpt := [] } dialogue.closeTransaction := by
  have tracks := follows.tracks
  have opened := tracks.opened filled
  have hands : dialogue.Hands srv.cfg st.fromAddr st.rcpt :=
    ⟨tracks.sender opened, tracks.rcpt, filled, tracks.bounded filled, tracks.lookedUp⟩
  unfold deliverToBackend at call
  split at call
  · cases call
    exact follows.extend (.inbound _ _ _ _ _) rfl ⟨hands, tracks.senderHello opened⟩
      (Tracks.closed tracks _)
  · rename_i submission
    cases call
    exact follows.extend (.submission _ _ _ _ _) rfl
      ⟨hands, tracks.principal (tracks.authed submission opened)⟩ (Tracks.closed tracks _)

theorem dataAnswered_follows {args text : GoString} {code : Int}
    (follows : Follows srv fresh st dialogue)
    (pending : dialogue.pending = some (ascii "DATA", args))
    (greeted : fresh → dialogue.greeted = true) :
    Follows srv fresh (st.reply code text) dialogue := by
  have unchanged : dialogue.advance srv.lib fresh (.reply code [text]) = dialogue := by
    simp [Dialogue.advance, Dialogue.answered_other pending (by decide)]
  have sound : dialogue.Sound srv.cfg fresh (.reply code [text]) := fun isFresh =>
    free_of_greeted (greeted isFresh) _ isFresh
  have extended (tracks : Tracks srv.cfg fresh (st.reply code text) _) :=
    follows.extend (.reply code [text]) rfl sound tracks
  rw [unchanged] at extended
  exact extended (follows.tracks.record _)

theorem cmdDATA_inStep {args : GoString}
    (handling : Handling srv fresh st (ascii "DATA") args dialogue) :
    InStep srv fresh (srv.cmdDATA st) := by
  have tracks := handling.tracks
  unfold cmdDATA
  split
  · exact ⟨dialogue, handling.toFollows.refused (by decide) fun _ _ _ => rfl⟩
  rename_i counted
  have filled : st.rcpt ≠ [] := fun none => counted (by simp [none])
  have greeted : fresh → dialogue.greeted = true := fun isFresh =>
    tracks.senderGreeted isFresh (tracks.opened filled)
  have ready : Follows srv fresh (st.reply 354 (ascii "End data with <CR><LF>.<CR><LF>")) dialogue :=
    dataAnswered_follows handling.toFollows handling.pending greeted
  dsimp only
  split
  · exact ⟨dialogue, ready⟩
  split
  · rename_i rest _
    exact ⟨dialogue, dataAnswered_follows (ready.withReader rest) handling.pending greeted⟩
  · rename_i rest _
    split <;> rename_i call
    · exact ⟨_, dataAnswered_follows (backendCall_follows (ready.withReader rest) filled call)
        handling.pending greeted⟩
    · exact ⟨_, dataAnswered_follows (backendCall_follows (ready.withReader rest) filled call)
        handling.pending greeted⟩

theorem rset_inStep {args : GoString}
    (handling : Handling srv fresh st (ascii "RSET") args dialogue) :
    InStep srv fresh
      (false, ({ st with fromAddr := [], rcpt := [] } : Session).reply 250 (ascii "Reset")) := by
  refine ⟨_, handling.toFollows.extend (.reply 250 [ascii "Reset"]) rfl
    (handling.free (by decide) _) ?_⟩
  have known : dialogue.advance srv.lib fresh (.reply 250 [ascii "Reset"]) =
      dialogue.closeTransaction := by
    rw [Dialogue.advance_reply_ok, Dialogue.answered_rset handling.pending]
  rw [known]
  exact Tracks.closed handling.tracks (.reply 250 [ascii "Reset"])

theorem noop_inStep {args : GoString}
    (handling : Handling srv fresh st (ascii "NOOP") args dialogue) :
    InStep srv fresh (false, st.reply 250 (ascii "OK")) := by
  have unchanged : dialogue.advance srv.lib fresh (.reply 250 [ascii "OK"]) = dialogue := by
    rw [Dialogue.advance_reply_ok, Dialogue.answered_other handling.pending (by decide)]
  refine ⟨_, handling.toFollows.extend (.reply 250 [ascii "OK"]) rfl
    (handling.free (by decide) _) ?_⟩
  rw [unchanged]
  exact handling.tracks.record _

theorem handleLine_inStep {line : GoString}
    (handling : Handling srv fresh st (parseCommand srv.lib line).1 (parseCommand srv.lib line).2
      dialogue)
    (clean : fresh → (parseCommand srv.lib line).1 = ascii "STARTTLS" → srv.Secures st →
      Unburdened st) :
    InStep srv fresh (srv.handleLine st line) := by
  unfold handleLine
  generalize parseCommand srv.lib line = command at handling clean
  obtain ⟨verb, args⟩ := command
  dsimp only at handling clean ⊢
  by_cases ehlo : verb = ascii "EHLO"
  · rw [if_pos ehlo]
    subst verb
    exact cmdEHLO_inStep handling
  rw [if_neg ehlo]
  by_cases helo : verb = ascii "HELO"
  · rw [if_pos helo]
    subst verb
    exact cmdHELO_inStep handling
  rw [if_neg helo]
  by_cases starttls : verb = ascii "STARTTLS"
  · rw [if_pos starttls]
    subst verb
    exact cmdSTARTTLS_inStep handling fun isFresh => clean isFresh rfl
  rw [if_neg starttls]
  by_cases auth : verb = ascii "AUTH"
  · rw [if_pos auth]
    subst verb
    exact cmdAUTH_inStep handling
  rw [if_neg auth]
  by_cases mail : verb = ascii "MAIL"
  · rw [if_pos mail]
    subst verb
    exact cmdMAIL_inStep handling
  rw [if_neg mail]
  by_cases rcpt : verb = ascii "RCPT"
  · rw [if_pos rcpt]
    subst verb
    exact cmdRCPT_inStep handling
  rw [if_neg rcpt]
  by_cases data : verb = ascii "DATA"
  · rw [if_pos data]
    subst verb
    exact cmdDATA_inStep handling
  rw [if_neg data]
  by_cases rset : verb = ascii "RSET"
  · rw [if_pos rset]
    subst verb
    exact rset_inStep handling
  rw [if_neg rset]
  split
  · exact handling.refuse ⟨mail, rcpt, data⟩ (by decide)
  split
  · subst verb
    exact noop_inStep handling
  split
  · exact handling.refuse ⟨mail, rcpt, data⟩ (by decide)
  · exact handling.refuse ⟨mail, rcpt, data⟩ (by decide)

theorem installTLS_follows (follows : Follows srv fresh st dialogue) :
    Follows srv fresh (srv.installTLS st) dialogue ∧ (srv.installTLS st).upgradedConn = none := by
  have tracks := follows.tracks
  unfold installTLS
  cases upgraded : st.upgradedConn with
  | none => exact ⟨follows, upgraded⟩
  | some conn =>
    have ungreeted : dialogue.greeted = false := by simp [tracks.greeted, upgraded]
    refine ⟨⟨follows.observed, follows.accepted, ?_⟩, rfl⟩
    exact { tracks with greeted := by simpa using ungreeted }

/-- The next line is a STARTTLS whose handshake succeeds. -/
def Upgrades (srv : Server) (st : Session) : Prop :=
  ∃ line rest, st.r.readLine = (.ok line, rest) ∧
    (parseCommand srv.lib line).1 = ascii "STARTTLS" ∧
    srv.Secures (({ st with r := rest } : Session).record (.command line))

/-- In step, with no connection waiting to be installed while the loop runs. -/
def Steady (srv : Server) (fresh done : Bool) (st : Session) : Prop :=
  (∃ dialogue, Follows srv fresh st dialogue) ∧ (done = false → st.upgradedConn = none)

theorem serveLine_steady (steady : Steady srv fresh false st)
    (clean : fresh → srv.Upgrades st → Unburdened st) :
    Steady srv fresh (srv.serveLine st).1 (srv.serveLine st).2 := by
  obtain ⟨⟨dialogue, follows⟩, settled⟩ := steady
  unfold serveLine
  cases read : st.r.readLine with
  | mk outcome rest =>
    cases outcome with
    | error err => exact ⟨⟨dialogue, follows.withReader rest⟩, by simp⟩
    | ok line =>
      have commanded : Handling srv fresh
          (({ st with r := rest } : Session).record (.command line))
          (parseCommand srv.lib line).1 (parseCommand srv.lib line).2
          { dialogue with pending := some (parseCommand srv.lib line) } := by
        refine ⟨(follows.withReader rest).extend (.command line) rfl trivial ?_, rfl,
          settled rfl⟩
        exact { (follows.tracks.withReader rest).record (.command line) with }
      have handled := handleLine_inStep commanded fun isFresh starttls secures =>
        clean isFresh ⟨line, rest, read, starttls, secures⟩
      dsimp only
      generalize srv.handleLine _ line = outcome at handled
      obtain ⟨done, next⟩ := outcome
      obtain ⟨later, handled⟩ := handled
      cases done with
      | true => exact ⟨⟨later, handled⟩, by simp⟩
      | false =>
        have installed := installTLS_follows handled
        exact ⟨⟨later, installed.1⟩, fun _ => installed.2⟩

theorem start_steady (conn : Stream) (peer : GoString) :
    Steady srv fresh false (srv.start conn peer) := by
  have initial : Follows srv fresh
      { r := conn, peer := peer, extensions := srv.advertiseExtensions false } {} := by
    refine ⟨rfl, Monitor.accepts_nil _, ?_⟩
    constructor <;> simp
  refine ⟨⟨{}, initial.refused (by decide) ?_⟩, fun _ => rfl⟩
  rintro - - ⟨args, transacting⟩
  simp at transacting

theorem runs_follow {allowed : Session → Prop}
    (clean : fresh → ∀ st, allowed st → srv.Upgrades st → Unburdened st)
    {conn : Stream} {peer : GoString} {done : Bool} {st : Session}
    (runs : srv.Runs allowed conn peer done st) : ∃ dialogue, Follows srv fresh st dialogue := by
  have steady : Steady srv fresh done st :=
    Loop.Runs.invariant (start_steady conn peer)
      (fun state steady may => serveLine_steady steady fun isFresh => clean isFresh state may) runs
  exact steady.1

theorem runs_sound {allowed : Session → Prop}
    (clean : fresh → ∀ st, allowed st → srv.Upgrades st → Unburdened st)
    {conn : Stream} {peer : GoString} {done : Bool} {st : Session}
    (runs : srv.Runs allowed conn peer done st) : (srv.observer fresh).Accepts st.log := by
  obtain ⟨_, follows⟩ := runs_follow clean runs
  exact follows.accepted

end Server

end ElvishMail.Smtp
