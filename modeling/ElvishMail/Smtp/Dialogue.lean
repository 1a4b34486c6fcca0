import ElvishMail.Smtp.Server

/-!
# The dialogue a session conducts

`Dialogue` is what an observer of one session knows who reads only the client's
lines, the replies to them and the backend calls: the open transaction, the
name given in the last accepted greeting, and the user name of the last accepted
AUTH. It never looks at the session's own fields, so agreement between the two
is a statement about the session.

An observer may read a TLS handshake in two ways. Reading it as `fresh`, he
forgets all he knew, as RFC 3207 asks of the server; otherwise he keeps it.
`Server.serveLine_steady` shows that the session's fields agree with the
observer's after every line, for the forgetful observer as long as each handshake finds
the session without transaction and without principal.
-/

namespace ElvishMail.Smtp

open Go Semantics

structure Dialogue where
  pending : Option (GoString × GoString) := none
  secured : Bool := false
  greeted : Bool := false
  hello : Option GoString := none
  principal : Option GoString := none
  fromAddr : Option GoString := none
  rcpt : List GoString := []
  lookedUp : List GoString := []
deriving DecidableEq

def mailAddress (lib : Library) (args : GoString) : Option GoString :=
  (parseMailFromOrRcptTo lib args).toOption

def rcptAddress (lib : Library) (args : GoString) : Option GoString := do
  let addr ← (parseMailFromOrRcptTo lib args).toOption
  let parsed ← lib.parseAddress addr
  some (toLower lib (trimSpace parsed))

namespace Dialogue

def closeTransaction (dialogue : Dialogue) : Dialogue :=
  { dialogue with fromAddr := none, rcpt := [], lookedUp := [] }

def answered (lib : Library) (dialogue : Dialogue) : Dialogue :=
  match dialogue.pending with
  | none => dialogue
  | some (verb, args) =>
    if verb = ascii "MAIL" then
      { dialogue with fromAddr := mailAddress lib args, rcpt := [], lookedUp := [] }
    else if verb = ascii "RCPT" then
      { dialogue with rcpt := dialogue.rcpt ++ (rcptAddress lib args).toList }
    else if verb = ascii "RSET" then dialogue.closeTransaction
    else if verb = ascii "EHLO" ∨ verb = ascii "HELO" then
      { dialogue with greeted := true, hello := (parseHelloName args).toOption }
    else dialogue

section Answered

variable {lib : Library} {dialogue : Dialogue} {verb args : GoString}

theorem answered_mail (pending : dialogue.pending = some (ascii "MAIL", args)) :
    dialogue.answered lib =
      { dialogue with fromAddr := mailAddress lib args, rcpt := [], lookedUp := [] } := by
  simp [answered, pending]

theorem answered_rcpt (pending : dialogue.pending = some (ascii "RCPT", args)) :
    dialogue.answered lib =
      { dialogue with rcpt := dialogue.rcpt ++ (rcptAddress lib args).toList } := by
  have notMail : ascii "RCPT" ≠ ascii "MAIL" := by decide
  simp [answered, pending, notMail]

theorem answered_rset (pending : dialogue.pending = some (ascii "RSET", args)) :
    dialogue.answered lib = dialogue.closeTransaction := by
  have notMail : ascii "RSET" ≠ ascii "MAIL" := by decide
  have notRcpt : ascii "RSET" ≠ ascii "RCPT" := by decide
  simp [answered, pending, notMail, notRcpt]

theorem answered_hello (pending : dialogue.pending = some (verb, args))
    (greeting : verb = ascii "EHLO" ∨ verb = ascii "HELO") :
    dialogue.answered lib =
      { dialogue with greeted := true, hello := (parseHelloName args).toOption } := by
  have apart : verb ≠ ascii "MAIL" ∧ verb ≠ ascii "RCPT" ∧ verb ≠ ascii "RSET" := by
    rcases greeting with rfl | rfl <;> decide
  simp [answered, pending, apart.1, apart.2.1, apart.2.2, greeting]

theorem answered_other (pending : dialogue.pending = some (verb, args))
    (other : verb ∉ [ascii "MAIL", ascii "RCPT", ascii "RSET", ascii "EHLO", ascii "HELO"]) :
    dialogue.answered lib = dialogue := by
  simp only [List.mem_cons, List.not_mem_nil, or_false, not_or] at other
  obtain ⟨notMail, notRcpt, notRset, notEhlo, notHelo⟩ := other
  simp [answered, pending, notMail, notRcpt, notRset, notEhlo, notHelo]

@[simp] theorem answered_secured : (dialogue.answered lib).secured = dialogue.secured := by
  unfold answered closeTransaction
  cases dialogue.pending with
  | none => rfl
  | some command => simp only [apply_ite Dialogue.secured, ite_self]

@[simp] theorem answered_principal : (dialogue.answered lib).principal = dialogue.principal := by
  unfold answered closeTransaction
  cases dialogue.pending with
  | none => rfl
  | some command => simp only [apply_ite Dialogue.principal, ite_self]

end Answered

def upgrade (fresh : Bool) (dialogue : Dialogue) : Dialogue :=
  if fresh then { secured := true } else { dialogue with secured := true, greeted := false }

def advance (lib : Library) (fresh : Bool) (dialogue : Dialogue) : Event → Dialogue
  | .command line => { dialogue with pending := some (parseCommand lib line) }
  | .response _ => dialogue
  | .reply code _ => if code = 250 then dialogue.answered lib else dialogue
  | .handshake => dialogue.upgrade fresh
  | .authenticate credentials accepted =>
    if accepted then { dialogue with principal := some credentials.username } else dialogue
  | .lookup rcpt accepted =>
    if accepted then { dialogue with lookedUp := rcpt :: dialogue.lookedUp } else dialogue
  | .inbound .. => dialogue.closeTransaction
  | .submission .. => dialogue.closeTransaction

theorem advance_reply_ok (lib : Library) (fresh : Bool) (dialogue : Dialogue)
    (lines : List GoString) :
    dialogue.advance lib fresh (.reply 250 lines) = dialogue.answered lib := by
  simp [advance]

def Transacting (dialogue : Dialogue) : Prop :=
  ∃ args, dialogue.pending = some (ascii "MAIL", args) ∨
    dialogue.pending = some (ascii "RCPT", args) ∨ dialogue.pending = some (ascii "DATA", args)

/-- The transaction handed to the backend is the one the observer has seen. -/
structure Hands (cfg : Config) (dialogue : Dialogue) (fromAddr : GoString)
    (rcpt : List GoString) : Prop where
  sender : dialogue.fromAddr = some fromAddr
  recipients : dialogue.rcpt = rcpt
  nonempty : rcpt ≠ []
  bounded : (rcpt.length : Int) ≤ cfg.maxRecipients
  lookedUp : cfg.mode = .mx → ∀ addr ∈ rcpt, addr ∈ dialogue.lookedUp

/-- What a session never breaks. For the forgetful observer this includes that
MAIL, RCPT and DATA are refused until a greeting has been answered. -/
def Sound (cfg : Config) (fresh : Bool) (dialogue : Dialogue) : Event → Prop
  | .reply code _ => fresh → dialogue.greeted = false → dialogue.Transacting → code = 503
  | .authenticate _ _ => dialogue.secured ∨ cfg.allowPlainAuth
  | .inbound fromAddr rcpt _ _ hello =>
    dialogue.Hands cfg fromAddr rcpt ∧ dialogue.hello = some hello
  | .submission principal fromAddr rcpt _ _ =>
    dialogue.Hands cfg fromAddr rcpt ∧ dialogue.principal = some principal
  | _ => True

end Dialogue

def Server.observer (srv : Server) (fresh : Bool) : Monitor Event where
  State := Dialogue
  initial := {}
  advance := Dialogue.advance srv.lib fresh
  Admits := Dialogue.Sound srv.cfg fresh

/-- The session's fields agree with what the observer knows. Between a handshake
and the installation of the new connection the greeting no longer counts. -/
structure Tracks (cfg : Config) (fresh : Bool) (st : Session) (dialogue : Dialogue) : Prop where
  secured : dialogue.secured = st.tlsActive
  greeted : dialogue.greeted = (st.greeted && st.upgradedConn.isNone)
  hello : dialogue.greeted → dialogue.hello = some st.hello
  principal : st.authed → dialogue.principal = some st.principal
  authed : cfg.mode = .submission → st.fromAddr ≠ [] → st.authed
  sender : st.fromAddr ≠ [] → dialogue.fromAddr = some st.fromAddr
  senderHello : st.fromAddr ≠ [] → dialogue.hello = some st.hello
  senderGreeted : fresh → st.fromAddr ≠ [] → dialogue.greeted
  rcpt : dialogue.rcpt = st.rcpt
  opened : st.rcpt ≠ [] → st.fromAddr ≠ []
  bounded : st.rcpt ≠ [] → (st.rcpt.length : Int) ≤ cfg.maxRecipients
  lookedUp : cfg.mode = .mx → ∀ addr ∈ st.rcpt, addr ∈ dialogue.lookedUp

namespace Tracks

variable {cfg : Config} {fresh : Bool} {st : Session} {dialogue : Dialogue}

theorem record (tracks : Tracks cfg fresh st dialogue) (event : Event) :
    Tracks cfg fresh (st.record event) dialogue :=
  ⟨tracks.secured, tracks.greeted, tracks.hello, tracks.principal, tracks.authed, tracks.sender,
    tracks.senderHello, tracks.senderGreeted, tracks.rcpt, tracks.opened, tracks.bounded,
    tracks.lookedUp⟩

theorem withReader (tracks : Tracks cfg fresh st dialogue) (rest : Stream) :
    Tracks cfg fresh { st with r := rest } dialogue :=
  ⟨tracks.secured, tracks.greeted, tracks.hello, tracks.principal, tracks.authed, tracks.sender,
    tracks.senderHello, tracks.senderGreeted, tracks.rcpt, tracks.opened, tracks.bounded,
    tracks.lookedUp⟩

end Tracks

/-- The session's log is sound and its fields agree with the observer's. -/
structure Follows (srv : Server) (fresh : Bool) (st : Session) (dialogue : Dialogue) : Prop where
  observed : (srv.observer fresh).observe st.log = dialogue
  accepted : (srv.observer fresh).Accepts st.log
  tracks : Tracks srv.cfg fresh st dialogue

namespace Follows

variable {srv : Server} {fresh : Bool} {st next : Session} {dialogue : Dialogue}

theorem extend (follows : Follows srv fresh st dialogue) (event : Event)
    (logged : next.log = st.log ++ [event]) (sound : dialogue.Sound srv.cfg fresh event)
    (tracks : Tracks srv.cfg fresh next (dialogue.advance srv.lib fresh event)) :
    Follows srv fresh next (dialogue.advance srv.lib fresh event) where
  observed := by
    rw [logged, Monitor.observe_snoc, follows.observed]
    rfl
  accepted := by
    rw [logged, Monitor.accepts_snoc, follows.observed]
    exact ⟨follows.accepted, sound⟩
  tracks := tracks

theorem refused (follows : Follows srv fresh st dialogue) {code : Int} {text : GoString}
    (refusal : code ≠ 250)
    (sound : fresh → dialogue.greeted = false → dialogue.Transacting → code = 503) :
    Follows srv fresh (st.reply code text) dialogue := by
  have unchanged : dialogue.advance srv.lib fresh (.reply code [text]) = dialogue := by
    simp [Dialogue.advance, refusal]
  have extended (tracks : Tracks srv.cfg fresh (st.reply code text) _) :=
    follows.extend (.reply code [text]) rfl sound tracks
  rw [unchanged] at extended
  exact extended (follows.tracks.record _)

theorem withReader (follows : Follows srv fresh st dialogue) (rest : Stream) :
    Follows srv fresh { st with r := rest } dialogue :=
  ⟨follows.observed, follows.accepted, follows.tracks.withReader rest⟩

end Follows

end ElvishMail.Smtp
