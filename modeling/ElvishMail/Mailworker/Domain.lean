import ElvishMail.Smtp.Conversation

/-!
# Delivery to one domain

`deliverDomain` of `internal/mailworker`: try the mail exchangers of a domain in
turn until one takes the message, refuses it for good, or none is left. Beside
its error the model returns the conversation held with each host tried; the QUIT
that follows a transmitted message has no bearing on the outcome and is left
out.
-/

namespace ElvishMail.Mailworker

open Go Smtp

structure Config where
  lib : Library
  hostname : GoString
  clientTLSConfig : Bool

/-- The network at the time of a delivery: the resolver, and the behaviour of each
host a domain names. -/
structure Network where
  resolve : Resolver
  host : (domain hostname : GoString) → Host

structure Envelope where
  fromAddr : GoString
  rcpt : List GoString
  payload : GoString
deriving DecidableEq

def isSMTP (err : GoError) (digit : Int) : Bool :=
  match err.asSMTP with
  | some serr => hundreds serr.code == digit
  | none => false

def isSMTPCodePermanent (code : Int) : Bool := hundreds code == 5

/-- What one host makes of the loop over hosts: the message was taken, it is
refused for good, or the next host is tried with this as the last error. -/
inductive Verdict where
  | delivered
  | permanent (err : SMTPError)
  | next (err : GoError)
deriving DecidableEq

/-- The loop over recipients: it stops at the first error, with the permanent fault
made of it if it is a 5xx reply error. -/
def rcptAll (lib : Library) : List GoString → Conn → Option (GoError × Option SMTPError) × Conn
  | [], c => (none, c)
  | addr :: rest, c =>
    match c.rcpt lib addr with
    | ((_, some err), c) =>
      (some (err, if isSMTP err 5 then some { code := 550, message := err.text } else none), c)
    | ((_, none), c) => rcptAll lib rest c

def tryHost (cfg : Config) (envelope : Envelope) (host : Host) : Verdict × List WireEvent :=
  match Conn.dial cfg.lib host
      { hostname := cfg.hostname, tlsConfig := cfg.clientTLSConfig, useSTARTTLS := true } with
  | (some err, c) => (.next err, c.events)
  | (none, c) =>
    match c.mail cfg.lib envelope.fromAddr with
    | (some err, c) => (.next err, c.events)
    | (none, c) =>
      match rcptAll cfg.lib envelope.rcpt c with
      | (some (_, some fault), c) => (.permanent fault, c.events)
      | (some (err, none), c) => (.next err, c.events)
      | (none, c) =>
        match c.data cfg.lib envelope.payload with
        | ((code, text, some err), c) =>
          (if isSMTPCodePermanent code then .permanent { code, message := text }
            else .next err, c.events)
        | ((code, text, none), c) =>
          (if hundreds code = 2 then .delivered
            else if isSMTPCodePermanent code then .permanent { code, message := text }
            else .next (.plain (ascii "smtp data " ++ itoa code ++ ascii ": " ++ text)),
            c.events)

def tryHosts (cfg : Config) (envelope : Envelope) :
    List Host → Option GoError → Option GoError × List (List WireEvent)
  | [], lastErr => (some (lastErr.getD (.plain (ascii "no MX hosts available"))), [])
  | host :: rest, _ =>
    match tryHost cfg envelope host with
    | (.delivered, events) => (none, [events])
    | (.permanent err, events) => (some (.smtp err), [events])
    | (.next err, events) =>
      let (result, conversations) := tryHosts cfg envelope rest (some err)
      (result, events :: conversations)

/-- `deliverDomain`: its error, if any, and the conversations held. -/
def deliverDomain (cfg : Config) (net : Network) (domain : GoString) (envelope : Envelope) :
    Option GoError × List (List WireEvent) :=
  match lookupMX net.resolve domain with
  | (hosts, err) =>
    match err with
    | some err =>
      if hosts = [] then (some (.wrap (ascii "mx lookup: ") err), [])
      else tryHosts cfg envelope (hosts.map (net.host domain)) none
    | none => tryHosts cfg envelope (hosts.map (net.host domain)) none

def Network.hosts (net : Network) (domain : GoString) : List Host :=
  (lookupMX net.resolve domain).1.map (net.host domain)

theorem Network.hosts_ne_nil (net : Network) (domain : GoString) : net.hosts domain ≠ [] := by
  intro empty
  exact lookupMX_ne_nil net.resolve domain (List.map_eq_nil_iff.mp empty)

theorem deliverDomain_eq (cfg : Config) (net : Network) (domain : GoString) (envelope : Envelope) :
    deliverDomain cfg net domain envelope = tryHosts cfg envelope (net.hosts domain) none := by
  have nonempty := lookupMX_ne_nil net.resolve domain
  unfold deliverDomain Network.hosts
  generalize lookupMX net.resolve domain = found at nonempty ⊢
  obtain ⟨hosts, err⟩ := found
  cases err with
  | none => rfl
  | some err => exact if_neg nonempty

/-- What the last event of a conversation makes of it. An over-long RCPT is a
permanent fault; any other error leaves the decision to the next host. -/
def Settles (verdict : Verdict) : WireEvent → Prop
  | .reply .message code _ =>
    if hundreds code = 2 then verdict = .delivered
    else if hundreds code = 5 then ∃ err, verdict = .permanent err ∧ err.isPermanent = true
    else ∃ err, verdict = .next err ∧ err.asSMTP = none
  | .tooLong (.rcpt _) => ∃ err, verdict = .permanent err ∧ err.isPermanent = true
  | event => ∃ err, verdict = .next err ∧ event.Fails err

/-- A conversation passes up to its last event, which settles it; a message is only
delivered with every recipient accepted. -/
structure Concludes (rcpt : List GoString) (verdict : Verdict) (passed : List WireEvent)
    (last : WireEvent) : Prop where
  passes : ∀ event ∈ passed, event.Passes
  settles : Settles verdict last
  accepted : verdict = .delivered → passed.filterMap WireEvent.acceptedRcpt = rcpt

section TryHost

variable {lib : Library} {cfg : Config} {envelope : Envelope} {host : Host}

def RcptAllReaches (acc : List GoString) : Option (GoError × Option SMTPError) × Conn → Prop
  | (none, c) => c.Going acc
  | (some (err, fault), c) =>
    c.Halts true err ∧
      fault = if isSMTP err 5 then some { code := 550, message := err.text } else none

theorem rcptAll_reaches (lib : Library) (rcpt : List GoString) {acc : List GoString} {c : Conn}
    (going : c.Going acc) :
    RcptAllReaches (acc ++ rcpt) (rcptAll lib rcpt c) := by
  induction rcpt generalizing acc c with
  | nil =>
    rw [List.append_nil]
    exact going
  | cons addr rest ih =>
    have answered := going.rcpt lib addr
    rw [rcptAll]
    split
    · rename_i result err ended failed
      rw [failed] at answered
      exact ⟨answered, rfl⟩
    · rename_i result accepted succeeded
      rw [succeeded] at answered
      have onward := ih answered
      rw [List.append_assoc] at onward
      exact onward

theorem concludes_of_halts {c : Conn} {err : GoError} (halts : c.Halts false err)
    (rcpt : List GoString) :
    ∃ passed last, c.events = passed ++ [last] ∧ Concludes rcpt (.next err) passed last := by
  obtain ⟨passed, last, split, passes, about, fails⟩ := halts
  refine ⟨passed, last, split, passes, ?_, by simp⟩
  unfold Settles
  split
  · exact absurd fails id
  · cases about
  · exact ⟨err, rfl, fails⟩

theorem concludes_of_rcptHalts {c : Conn} {err : GoError} (halts : c.Halts true err)
    (rcpt : List GoString) :
    ∃ passed last, c.events = passed ++ [last] ∧
      Concludes rcpt
        (if isSMTP err 5 then .permanent { code := 550, message := err.text } else .next err)
        passed last := by
  obtain ⟨passed, last, split, passes, about, fails⟩ := halts
  refine ⟨passed, last, split, passes, ?_, by split <;> simp⟩
  have harmless (untyped : err.asSMTP = none) : isSMTP err 5 = false := by rw [isSMTP, untyped]
  cases last with
  | tooLong command =>
    cases command with
    | rcpt addr =>
      have typed : err.asSMTP = some errLineTooLong := fails
      have fatal : isSMTP err 5 = true := by
        rw [isSMTP, typed]
        decide
      rw [fatal]
      exact ⟨_, rfl, rfl⟩
    | _ => cases about
  | broken command =>
    rw [harmless fails]
    exact ⟨err, rfl, fails⟩
  | reply command code text =>
    cases command with
    | rcpt addr =>
      rw [harmless fails]
      exact ⟨err, rfl, fails⟩
    | _ => cases about

theorem tryHost_concludes (cfg : Config) (envelope : Envelope) (host : Host) :
    ∃ passed last, (tryHost cfg envelope host).2 = passed ++ [last] ∧
      Concludes envelope.rcpt (tryHost cfg envelope host).1 passed last := by
  have dialled := Conn.dial_reaches cfg.lib host
    { hostname := cfg.hostname, tlsConfig := cfg.clientTLSConfig, useSTARTTLS := true }
  unfold tryHost
  split
  · rename_i err c failed
    rw [failed] at dialled
    exact concludes_of_halts dialled _
  rename_i connected succeeded
  rw [succeeded] at dialled
  have opened := Conn.Going.mail dialled cfg.lib envelope.fromAddr
  split
  · rename_i err c failed
    rw [failed] at opened
    exact concludes_of_halts opened _
  rename_i mailed succeeded
  rw [succeeded] at opened
  have addressed := rcptAll_reaches cfg.lib envelope.rcpt opened
  rw [List.nil_append] at addressed
  split
  · rename_i err fault c failed
    rw [failed] at addressed
    obtain ⟨halts, isFault⟩ := addressed
    have concluded := concludes_of_rcptHalts halts envelope.rcpt
    split at isFault
    · rename_i fatal
      rw [if_pos fatal] at concluded
      cases isFault
      exact concluded
    · cases isFault
  · rename_i err c failed
    rw [failed] at addressed
    obtain ⟨halts, isFault⟩ := addressed
    have concluded := concludes_of_rcptHalts halts envelope.rcpt
    split at isFault
    · cases isFault
    · rename_i harmless
      rw [if_neg harmless] at concluded
      exact concluded
  rename_i ready succeeded
  rw [succeeded] at addressed
  have sent := Conn.Going.data addressed cfg.lib envelope.payload
  split
  · rename_i code text err c failed
    rw [failed] at sent
    obtain ⟨rfl, halts⟩ := sent
    exact concludes_of_halts halts _
  · rename_i code text c answered
    rw [answered] at sent
    obtain ⟨passed, split, passes, accepted⟩ := sent
    refine ⟨passed, _, split, passes, ?_, fun _ => accepted⟩
    unfold Settles isSMTPCodePermanent
    by_cases taken : hundreds code = 2
    · simp [taken]
    · by_cases refused : hundreds code = 5
      · simp [refused, SMTPError.isPermanent]
      · simp [taken, refused, GoError.asSMTP]

end TryHost

def conversation (cfg : Config) (envelope : Envelope) (host : Host) : List WireEvent :=
  (tryHost cfg envelope host).2

/-- The event ends the loop over hosts: the message is answered for good, or an
RCPT line is too long. -/
def stops : WireEvent → Bool
  | .tooLong (.rcpt _) => true
  | event => event.accepts || event.rejects

/-- The event makes the error of its conversation a permanent one. -/
def reports (event : WireEvent) : Bool := event.rejects || event.overlong

def tried (cfg : Config) (envelope : Envelope) : List Host → List Host
  | [] => []
  | host :: rest =>
    host :: if (conversation cfg envelope host).any stops then [] else tried cfg envelope rest

def Permanent (result : Option GoError) : Prop :=
  ∃ err serr, result = some err ∧ err.asSMTP = some serr ∧ serr.isPermanent = true

theorem permanent_some {err : GoError} :
    Permanent (some err) ↔ ∃ serr, err.asSMTP = some serr ∧ serr.isPermanent = true := by
  constructor
  · rintro ⟨other, serr, same, typed, fatal⟩
    cases same
    exact ⟨serr, typed, fatal⟩
  · rintro ⟨serr, typed, fatal⟩
    exact ⟨err, serr, rfl, typed, fatal⟩

section TryHosts

variable {cfg : Config} {envelope : Envelope} {hosts : List Host} {lastErr : Option GoError}

theorem any_of_passes {passed : List WireEvent} (last : WireEvent) {shows : WireEvent → Bool}
    (passes : ∀ event ∈ passed, event.Passes)
    (plain : ∀ event : WireEvent, event.Passes → shows event = false) :
    (passed ++ [last]).any shows = shows last := by
  have none : passed.any shows = false := by
    rw [List.any_eq_false]
    intro event member
    rw [plain event (passes event member)]
    exact Bool.false_ne_true
  simp [none]

theorem stops_of_passes {event : WireEvent} (passes : event.Passes) : stops event = false := by
  obtain ⟨notAccepts, notRejects, -, -⟩ := passes.plain
  unfold stops
  split
  · exact absurd passes id
  · rw [notAccepts, notRejects]
    rfl

theorem reports_of_passes {event : WireEvent} (passes : event.Passes) : reports event = false := by
  obtain ⟨-, notRejects, -, notOverlong⟩ := passes.plain
  rw [reports, notRejects, notOverlong]
  rfl

theorem tryHost_cases (cfg : Config) (envelope : Envelope) (host : Host) :
    let shows := (conversation cfg envelope host).any
    ((tryHost cfg envelope host).1 = .delivered ∧ shows WireEvent.accepts = true ∧ shows stops = true ∧
      shows reports = false ∧ acceptedBy (conversation cfg envelope host) = envelope.rcpt) ∨
    (∃ err, (tryHost cfg envelope host).1 = .permanent err ∧ err.isPermanent = true ∧
      shows WireEvent.accepts = false ∧ shows stops = true ∧ shows reports = true) ∨
    (∃ err, (tryHost cfg envelope host).1 = .next err ∧ shows WireEvent.accepts = false ∧
      shows stops = false ∧
      (shows reports = true ∧ err.asSMTP = some errLineTooLong ∨
        shows reports = false ∧ err.asSMTP = none)) := by
  obtain ⟨passed, last, split, passes, settles, accepted⟩ := tryHost_concludes cfg envelope host
  have conversationEq : conversation cfg envelope host = passed ++ [last] := split
  dsimp only
  have acceptsEq := any_of_passes last passes fun event passing => (passing.plain).1
  rw [acceptedBy, conversationEq, acceptsEq,
    any_of_passes last passes fun event passing => stops_of_passes passing,
    any_of_passes last passes fun event passing => reports_of_passes passing]
  generalize (tryHost cfg envelope host).1 = verdict at settles accepted
  cases last with
  | tooLong command =>
    cases command with
    | rcpt addr =>
      obtain ⟨err, rfl, fatal⟩ := settles
      exact .inr (.inl ⟨err, rfl, fatal, rfl, rfl, rfl⟩)
    | helo =>
      obtain ⟨err, rfl, untyped⟩ := settles
      exact .inr (.inr ⟨err, rfl, rfl, rfl, .inr ⟨rfl, untyped⟩⟩)
    | _ =>
      obtain ⟨err, rfl, typed⟩ := settles
      exact .inr (.inr ⟨err, rfl, rfl, rfl, .inl ⟨rfl, typed⟩⟩)
  | broken command =>
    obtain ⟨err, rfl, untyped⟩ := settles
    exact .inr (.inr ⟨err, rfl, rfl, rfl, .inr ⟨rfl, untyped⟩⟩)
  | reply command code text =>
    cases command with
    | message =>
      by_cases taken : hundreds code = 2
      · obtain rfl : verdict = .delivered := by simpa [Settles, taken] using settles
        refine .inl ⟨rfl, by simp [WireEvent.accepts, taken], by simp [stops, WireEvent.accepts,
          taken], by simp [reports, WireEvent.rejects, WireEvent.overlong, taken], ?_⟩
        simp [WireEvent.accepts, taken, WireEvent.acceptedRcpt, accepted rfl]
      by_cases refused : hundreds code = 5
      · obtain ⟨err, rfl, fatal⟩ : ∃ err, verdict = .permanent err ∧ err.isPermanent = true := by
          simpa [Settles, taken, refused] using settles
        exact .inr (.inl ⟨err, rfl, fatal, by simp [WireEvent.accepts, taken],
          by simp [stops, WireEvent.rejects, refused],
          by simp [reports, WireEvent.rejects, refused]⟩)
      · obtain ⟨err, rfl, untyped⟩ : ∃ err, verdict = .next err ∧ err.asSMTP = none := by
          simpa [Settles, taken, refused] using settles
        exact .inr (.inr ⟨err, rfl, by simp [WireEvent.accepts, taken],
          by simp [stops, WireEvent.accepts, WireEvent.rejects, taken, refused],
          .inr ⟨by simp [reports, WireEvent.rejects, WireEvent.overlong, refused], untyped⟩⟩)
    | _ =>
      obtain ⟨err, rfl, untyped⟩ := settles
      exact .inr (.inr ⟨err, rfl, rfl, rfl, .inr ⟨rfl, untyped⟩⟩)

theorem tryHosts_cons (cfg : Config) (envelope : Envelope) (host : Host) (rest : List Host)
    (lastErr : Option GoError) :
    let held := conversation cfg envelope host
    (tryHosts cfg envelope (host :: rest) lastErr = (none, [held]) ∧
      tried cfg envelope (host :: rest) = [host] ∧ held.any WireEvent.accepts = true ∧
      held.any reports = false ∧ acceptedBy held = envelope.rcpt) ∨
    (∃ err, tryHosts cfg envelope (host :: rest) lastErr = (some (.smtp err), [held]) ∧
      err.isPermanent = true ∧ tried cfg envelope (host :: rest) = [host] ∧
      held.any WireEvent.accepts = false ∧ held.any reports = true) ∨
    (∃ err, tryHosts cfg envelope (host :: rest) lastErr =
        ((tryHosts cfg envelope rest (some err)).1,
          held :: (tryHosts cfg envelope rest (some err)).2) ∧
      tried cfg envelope (host :: rest) = host :: tried cfg envelope rest ∧
      held.any WireEvent.accepts = false ∧
      (held.any reports = true ∧ err.asSMTP = some errLineTooLong ∨
        held.any reports = false ∧ err.asSMTP = none)) := by
  have decided := tryHost_cases cfg envelope host
  have heldEq : (tryHost cfg envelope host).2 = conversation cfg envelope host := rfl
  dsimp only at decided ⊢
  rw [tryHosts, tried]
  generalize tryHost cfg envelope host = outcome at decided heldEq
  obtain ⟨verdict, events⟩ := outcome
  dsimp only at decided heldEq ⊢
  subst heldEq
  rcases decided with ⟨rfl, accepts, stopped, silent, accepted⟩ |
    ⟨err, rfl, fatal, unaccepted, stopped, reported⟩ | ⟨err, rfl, unaccepted, goesOn, reported⟩
  · exact .inl ⟨rfl, by rw [if_pos stopped], accepts, silent, accepted⟩
  · exact .inr (.inl ⟨err, rfl, fatal, by rw [if_pos stopped], unaccepted, reported⟩)
  · refine .inr (.inr ⟨err, rfl, ?_, unaccepted, reported⟩)
    rw [goesOn, if_neg Bool.false_ne_true]

theorem tryHosts_conversations (cfg : Config) (envelope : Envelope) (hosts : List Host)
    (lastErr : Option GoError) :
    (tryHosts cfg envelope hosts lastErr).2 =
      (tried cfg envelope hosts).map (conversation cfg envelope) := by
  induction hosts generalizing lastErr with
  | nil => rfl
  | cons host rest ih =>
    rcases tryHosts_cons cfg envelope host rest lastErr with ⟨looped, hostsTried, -⟩ |
      ⟨err, looped, -, hostsTried, -⟩ | ⟨err, looped, hostsTried, -⟩
    · rw [looped, hostsTried]
      rfl
    · rw [looped, hostsTried]
      rfl
    · rw [looped, hostsTried, ih]
      rfl

theorem tryHosts_delivered (cfg : Config) (envelope : Envelope) (hosts : List Host)
    (lastErr : Option GoError) :
    (tryHosts cfg envelope hosts lastErr).1 = none ↔
      ∃ host ∈ tried cfg envelope hosts,
        (conversation cfg envelope host).any WireEvent.accepts = true := by
  induction hosts generalizing lastErr with
  | nil => simp [tryHosts, tried]
  | cons host rest ih =>
    rcases tryHosts_cons cfg envelope host rest lastErr with ⟨looped, hostsTried, accepts, -⟩ |
      ⟨err, looped, -, hostsTried, unaccepted, -⟩ | ⟨err, looped, hostsTried, unaccepted, -⟩
    · simp [looped, hostsTried, accepts, -List.any_eq_true]
    · simp [looped, hostsTried, unaccepted, -List.any_eq_true]
    · simp [looped, hostsTried, unaccepted, ih, -List.any_eq_true]

theorem tried_ne_nil (nonempty : hosts ≠ []) : tried cfg envelope hosts ≠ [] := by
  cases hosts with
  | nil => exact absurd rfl nonempty
  | cons host rest => simp [tried]

theorem tryHosts_permanent (cfg : Config) (envelope : Envelope) (lastErr : Option GoError)
    (nonempty : hosts ≠ []) :
    Permanent (tryHosts cfg envelope hosts lastErr).1 ↔
      ∃ host, (tried cfg envelope hosts).getLast? = some host ∧
        (conversation cfg envelope host).any reports = true := by
  induction hosts generalizing lastErr with
  | nil => exact absurd rfl nonempty
  | cons host rest ih =>
    rcases tryHosts_cons cfg envelope host rest lastErr with
      ⟨looped, hostsTried, -, silent, -⟩ | ⟨err, looped, fatal, hostsTried, -, reported⟩ |
      ⟨err, looped, hostsTried, -, reported⟩
    · simp [looped, hostsTried, silent, Permanent, -List.any_eq_true]
    · simp [looped, hostsTried, reported, Permanent, GoError.asSMTP, fatal, -List.any_eq_true]
    · rw [looped, hostsTried]
      rcases List.eq_nil_or_concat rest with rfl | ⟨before, lastHost, rfl⟩
      · rcases reported with ⟨reported, typed⟩ | ⟨silent, untyped⟩
        · have fatal : errLineTooLong.isPermanent = true := by decide
          simp [tryHosts, tried, Permanent, reported, typed, fatal, -List.any_eq_true]
        · simp [tryHosts, tried, Permanent, silent, untyped, -List.any_eq_true]
      · have more : before.concat lastHost ≠ [] := by simp
        have onward := ih (some err) more
        rw [onward, List.getLast?_cons_of_ne_nil (tried_ne_nil more)]

theorem tryHosts_accepted :
    (tryHosts cfg envelope hosts lastErr).2.flatMap acceptedBy =
      if (tryHosts cfg envelope hosts lastErr).1 = none then envelope.rcpt else [] := by
  induction hosts generalizing lastErr with
  | nil => simp [tryHosts]
  | cons host rest ih =>
    rcases tryHosts_cons cfg envelope host rest lastErr with ⟨looped, -, -, -, accepted⟩ |
      ⟨err, looped, -, -, unaccepted, -⟩ | ⟨err, looped, -, unaccepted, -⟩
    · simp [looped, accepted]
    · simp [looped, acceptedBy_of_unaccepted unaccepted]
    · simp [looped, acceptedBy_of_unaccepted unaccepted, ih]

theorem tryHosts_accepts_once (addr : GoString) :
    ((tryHosts cfg envelope hosts lastErr).2.countP fun held => addr ∈ acceptedBy held) ≤
      if addr ∈ envelope.rcpt then 1 else 0 := by
  induction hosts generalizing lastErr with
  | nil => simp [tryHosts]
  | cons host rest ih =>
    rcases tryHosts_cons cfg envelope host rest lastErr with ⟨looped, -, -, -, accepted⟩ |
      ⟨err, looped, -, -, unaccepted, -⟩ | ⟨err, looped, -, unaccepted, -⟩
    · simp [looped, accepted, List.countP_cons]
    · simp [looped, acceptedBy_of_unaccepted unaccepted]
    · simpa [looped, acceptedBy_of_unaccepted unaccepted] using ih

end TryHosts

end ElvishMail.Mailworker
