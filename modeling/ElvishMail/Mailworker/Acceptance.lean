import ElvishMail.Mailworker.Deliver

/-!
# Envelopes a host can accept

The client refuses to write a line longer than the limit, so an envelope whose
lines do not fit is never accepted by any host. Whether they fit is all there is
to it: `exists_delivered_iff`.
-/

namespace ElvishMail.Mailworker

open Go Smtp Mailmeta Semantics

def LineFits (line : GoString) : Prop := line.length + 2 ≤ maxLineBytes

instance (line : GoString) : Decidable (LineFits line) :=
  inferInstanceAs (Decidable (line.length + 2 ≤ maxLineBytes))

def Config.ehloName (cfg : Config) : GoString :=
  if cfg.hostname = [] then ascii "localhost" else cfg.hostname

structure Fits (cfg : Config) (fromAddr : GoString) (rcpt : List GoString) : Prop where
  ehlo : LineFits (ascii "EHLO " ++ cfg.ehloName)
  mail : LineFits (ascii "MAIL FROM:<" ++ fromAddr ++ ascii ">")
  rcpt : ∀ addr ∈ rcpt, LineFits (ascii "RCPT TO:<" ++ addr ++ ascii ">")

def replyLine (text : String) : Stream := ⟨ascii text ++ [0x0D, 0x0A], false⟩

/-- A host that greets, advertises nothing, and gives fixed replies to MAIL, RCPT,
DATA and the message. -/
def scripted (mail rcpt data message : String) : Host where
  connectErr := none
  greeting := replyLine "220 ready"
  exchange sent :=
    let line := sent.getLast?.getD []
    { response :=
        if hasPrefix line (ascii "MAIL") then replyLine mail
        else if hasPrefix line (ascii "RCPT") then replyLine rcpt
        else if hasPrefix line (ascii "DATA") then replyLine data
        else replyLine "250 ok" }
  handshake _ := none
  transmit _ _ := none
  message _ _ := replyLine message

def accepting : Host := scripted "250 ok" "250 ok" "354 go" "250 ok"

def unreachable : Host := { accepting with connectErr := some (ascii "connection refused") }

def Config.sample : Config := ⟨.plain, ascii "mx.elvish", false⟩

/-- An attempt that finds a relay payload with a readable sender and no DKIM key. -/
def Material.sample : Material where
  blob _ := .ok (ascii "wrapped")
  relayKey := some fun _ => .ok (ascii "From: s@y.org\r\n\r\nhi\r\n")
  dkim :=
    { signer := none, selector := [], domain := [], domainsDir := [],
      getDomainDKIMByName := fun _ => none, cachedDomainSigner := fun _ _ => none }
  armored _ := false
  boundaryUUID := []
  messageUUID := []
  date := []
  stamp := []
  ingestSentCopy _ _ := none

def sampleRow (recipientSummary : String) : OutboxRow :=
  insertOutboxMeta 0 1 1 .plaintextRelay (ascii "outbox/1") 7 (ascii recipientSummary) [] 0 none

def Network.single (host : GoString → Host) : Network where
  resolve _ := ([], none)
  host domain _ := host domain

section Fits

variable {lib : Library} {cfg : Config} {envelope : Envelope} {c : Conn} {command : Command}
  {line : GoString}

theorem fits_of_cmdf (written : (c.cmdf command line).1 = none) : LineFits line := by
  unfold Conn.cmdf at written
  split at written
  · cases written
  · rename_i short
    exact Nat.not_lt.mp short

theorem fits_of_ehlo (answered : (c.ehlo lib).1 = none) : LineFits (ascii "EHLO " ++ c.hostname) := by
  unfold Conn.ehlo at answered
  split at answered
  · cases answered
  · rename_i waiting written
    exact fits_of_cmdf (congrArg Prod.fst written)

theorem fits_of_greet (greeted : (c.greet lib).1 = none) :
    LineFits (ascii "EHLO " ++ c.hostname) := by
  unfold Conn.greet at greeted
  rcases c.expect_cases lib .greeting c.host.greeting 220 with ⟨text, expected⟩ | ⟨err, event, failed, -⟩
  · rw [expected] at greeted
    exact @fits_of_ehlo lib (c.record (.reply .greeting 220 text)) greeted
  · rw [failed] at greeted
    cases greeted

theorem fits_of_dial {host : Host}
    (connected : (Conn.dial lib host
      { hostname := cfg.hostname, tlsConfig := cfg.clientTLSConfig, useSTARTTLS := true }).1 = none) :
    LineFits (ascii "EHLO " ++ cfg.ehloName) := by
  unfold Conn.dial at connected
  dsimp only at connected
  split at connected
  · cases connected
  · rw [if_neg Bool.false_ne_true] at connected
    split at connected
    · cases connected
    · rename_i greeted
      exact fits_of_greet (congrArg Prod.fst greeted)

theorem fits_of_mail {fromAddr : GoString} (answered : (c.mail lib fromAddr).1 = none) :
    LineFits (ascii "MAIL FROM:<" ++ fromAddr ++ ascii ">") := by
  unfold Conn.mail at answered
  split at answered
  · cases answered
  · rename_i waiting written
    exact fits_of_cmdf (congrArg Prod.fst written)

theorem fits_of_rcpt {addr : GoString} (answered : (c.rcpt lib addr).1.2 = none) :
    LineFits (ascii "RCPT TO:<" ++ addr ++ ascii ">") := by
  unfold Conn.rcpt at answered
  dsimp only at answered
  split at answered
  · cases answered
  · rename_i waiting written
    exact fits_of_cmdf (congrArg Prod.fst written)

theorem fits_of_rcptAll {rcpt : List GoString} (answered : (rcptAll lib rcpt c).1 = none) :
    ∀ addr ∈ rcpt, LineFits (ascii "RCPT TO:<" ++ addr ++ ascii ">") := by
  induction rcpt generalizing c with
  | nil => simp
  | cons first rest ih =>
    rw [rcptAll] at answered
    split at answered
    · cases answered
    · rename_i result next accepted
      intro addr member
      rcases List.mem_cons.mp member with rfl | later
      · exact fits_of_rcpt (congrArg (fun outcome => outcome.1.2) accepted)
      · exact ih answered addr later

theorem fits_of_delivered {host : Host} (delivered : (tryHost cfg envelope host).1 = .delivered) :
    Fits cfg envelope.fromAddr envelope.rcpt := by
  unfold tryHost at delivered
  split at delivered
  · cases delivered
  rename_i connected dialled
  split at delivered
  · cases delivered
  rename_i mailed opened
  split at delivered
  · cases delivered
  · cases delivered
  rename_i ready addressed
  exact ⟨fits_of_dial (congrArg Prod.fst dialled), fits_of_mail (congrArg Prod.fst opened),
    fits_of_rcptAll (congrArg Prod.fst addressed)⟩

theorem cmdf_accepting (host : c.host = accepting) (fits : LineFits line) :
    c.cmdf command line = (none, c.wrote line) := by
  unfold Conn.cmdf
  rw [if_neg (Nat.not_lt.mpr fits)]
  dsimp only
  rw [show (c.wrote line).host = accepting from host]
  rfl

theorem expect_replyLine {stream : Stream} {want : Int} (text : GoString)
    (found : stream.readReply lib = .ok (want, text)) :
    c.expect lib command stream want = (.ok (want, text), c.record (.reply command want text)) := by
  simp [Conn.expect, Conn.read, found]

theorem response_accepting (host : c.host = accepting) (rest : GoString) :
    (c.wrote (ascii "EHLO " ++ rest)).response = replyLine "250 ok" ∧
    (c.wrote (ascii "MAIL FROM:<" ++ rest)).response = replyLine "250 ok" ∧
    (c.wrote (ascii "RCPT TO:<" ++ rest)).response = replyLine "250 ok" ∧
    (c.wrote (ascii "DATA")).response = replyLine "354 go" := by
  have exchanged (line : GoString) :
      (c.wrote line).response = (accepting.exchange (c.sent ++ [line])).response := by
    rw [Conn.response, show (c.wrote line).host = accepting from host]
    rfl
  refine ⟨?_, ?_, ?_, ?_⟩
  all_goals
    rw [exchanged]
    simp only [accepting, scripted, List.getLast?_append, List.getLast?_singleton, Option.some_or,
      Option.getD_some]
    rfl

theorem ehlo_accepting (host : c.host = accepting) (fits : LineFits (ascii "EHLO " ++ c.hostname)) :
    c.ehlo lib = (none, { (c.wrote (ascii "EHLO " ++ c.hostname)).record
      (.reply .ehlo 250 (ascii "ok")) with exts := parseExtensions lib (ascii "ok") }) := by
  unfold Conn.ehlo
  rw [cmdf_accepting host fits]
  dsimp only
  rw [(response_accepting host c.hostname).1, expect_replyLine (ascii "ok") rfl]

theorem dial_accepting (lib : Library) (fits : LineFits (ascii "EHLO " ++ cfg.ehloName)) :
    ∃ c, Conn.dial lib accepting
        { hostname := cfg.hostname, tlsConfig := cfg.clientTLSConfig, useSTARTTLS := true } =
      (none, c) ∧ c.host = accepting := by
  have greeted : (Conn.greet lib { host := accepting, hostname := cfg.ehloName }) =
      (none, { (({ host := accepting, hostname := cfg.ehloName } : Conn).record
        (.reply .greeting 220 (ascii "ready"))).wrote (ascii "EHLO " ++ cfg.ehloName) |>.record
          (.reply .ehlo 250 (ascii "ok")) with exts := parseExtensions lib (ascii "ok") }) := by
    unfold Conn.greet
    rw [expect_replyLine (ascii "ready") rfl]
    exact ehlo_accepting rfl fits
  unfold Conn.dial
  rw [show accepting.connectErr = none from rfl]
  dsimp only
  rw [if_neg Bool.false_ne_true, show (if cfg.hostname = [] then ascii "localhost" else
    cfg.hostname) = cfg.ehloName from rfl, greeted]
  refine ⟨_, if_neg ?_, rfl⟩
  rintro ⟨-, -, advertised⟩
  exact Bool.false_ne_true advertised

theorem mail_accepting (lib : Library) {fromAddr : GoString} (host : c.host = accepting)
    (fits : LineFits (ascii "MAIL FROM:<" ++ fromAddr ++ ascii ">")) :
    ∃ next, c.mail lib fromAddr = (none, next) ∧ next.host = accepting := by
  unfold Conn.mail
  rw [cmdf_accepting host fits]
  dsimp only
  rw [List.append_assoc, (response_accepting host (fromAddr ++ ascii ">")).2.1,
    expect_replyLine (ascii "ok") rfl]
  exact ⟨_, rfl, host⟩

theorem rcpt_accepting (lib : Library) {addr : GoString} (host : c.host = accepting)
    (fits : LineFits (ascii "RCPT TO:<" ++ addr ++ ascii ">")) :
    ∃ result next, c.rcpt lib addr = ((result, none), next) ∧ next.host = accepting := by
  unfold Conn.rcpt
  dsimp only
  rw [cmdf_accepting host fits]
  dsimp only
  rw [List.append_assoc, (response_accepting host (addr ++ ascii ">")).2.2.1, Conn.read,
    show (replyLine "250 ok").readReply lib = .ok (250, ascii "ok") from rfl]
  exact ⟨_, _, rfl, host⟩

theorem rcptAll_accepting (lib : Library) {rcpt : List GoString} (host : c.host = accepting)
    (fits : ∀ addr ∈ rcpt, LineFits (ascii "RCPT TO:<" ++ addr ++ ascii ">")) :
    ∃ next, rcptAll lib rcpt c = (none, next) ∧ next.host = accepting := by
  induction rcpt generalizing c with
  | nil => exact ⟨c, rfl, host⟩
  | cons addr rest ih =>
    obtain ⟨result, next, accepted, onward⟩ :=
      rcpt_accepting lib host (fits addr List.mem_cons_self)
    rw [rcptAll, accepted]
    exact ih onward fun other member => fits other (List.mem_cons_of_mem addr member)

theorem data_accepting (lib : Library) (payload : GoString) (host : c.host = accepting) :
    ∃ next, c.data lib payload = ((250, ascii "ok", none), next) := by
  unfold Conn.data
  rw [cmdf_accepting host (by decide)]
  dsimp only
  rw [(response_accepting host []).2.2.2, expect_replyLine (ascii "go") rfl]
  dsimp only
  have sameHost : ((c.wrote (ascii "DATA")).record (.reply .data 354 (ascii "go"))).host = accepting :=
    host
  rw [sameHost]
  exact ⟨_, rfl⟩

theorem tryHost_accepting (fits : Fits cfg envelope.fromAddr envelope.rcpt) :
    (tryHost cfg envelope accepting).1 = .delivered := by
  obtain ⟨connected, dialled, host⟩ := dial_accepting cfg.lib fits.ehlo
  obtain ⟨opened, mailed, host⟩ := mail_accepting cfg.lib host fits.mail
  obtain ⟨ready, addressed, host⟩ := rcptAll_accepting cfg.lib host fits.rcpt
  obtain ⟨ended, answered⟩ := data_accepting cfg.lib envelope.payload host
  unfold tryHost
  rw [dialled]
  dsimp only
  rw [mailed]
  dsimp only
  rw [addressed]
  dsimp only
  rw [answered]
  rfl

theorem serve_single (host : GoString → Host) (fromAddr payload : GoString)
    (group : GoString × List GoString) :
    serve cfg (.single host) fromAddr payload group =
      tryHosts cfg { fromAddr, rcpt := group.2, payload } [host group.1] none :=
  deliverDomain_eq cfg (.single host) group.1 { fromAddr, rcpt := group.2, payload }

theorem serve_accepting {host : GoString → Host} {fromAddr payload : GoString}
    {group : GoString × List GoString} (fits : Fits cfg fromAddr group.2)
    (accepts : host group.1 = accepting) :
    (serve cfg (.single host) fromAddr payload group).1 = none := by
  have delivered : (tryHost cfg { fromAddr, rcpt := group.2, payload } accepting).1 = .delivered :=
    tryHost_accepting fits
  rw [serve_single, accepts, tryHosts]
  generalize tryHost cfg { fromAddr, rcpt := group.2, payload } accepting = outcome at delivered
  obtain ⟨verdict, events⟩ := outcome
  obtain rfl : verdict = .delivered := delivered
  rfl

theorem serve_unreachable {host : GoString → Host} {fromAddr payload : GoString}
    {group : GoString × List GoString} (down : host group.1 = unreachable) :
    (serve cfg (.single host) fromAddr payload group).1 =
      some (.plain (ascii "connection refused")) := by
  rw [serve_single, down]
  rfl

theorem fits_of_served {net : Network} {fromAddr payload : GoString}
    {group : GoString × List GoString} (served : (serve cfg net fromAddr payload group).1 = none) :
    Fits cfg fromAddr group.2 := by
  rw [serve, deliverDomain_eq, tryHosts_delivered] at served
  obtain ⟨host, -, accepts⟩ := served
  rcases tryHost_cases cfg { fromAddr, rcpt := group.2, payload } host with
    ⟨delivered, -⟩ | ⟨err, -, -, unaccepted, -⟩ | ⟨err, -, unaccepted, -⟩
  · exact fits_of_delivered delivered
  · rw [unaccepted] at accepts
    cases accepts
  · rw [unaccepted] at accepts
    cases accepts

end Fits

end ElvishMail.Mailworker
