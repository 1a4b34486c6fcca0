import Mathlib.Data.Finset.Dedup
import Mathlib.Data.Finset.Basic
import ElvishMail.Mailworker.Domain
import ElvishMail.Mailworker.Payload

/-!
# Delivery of one row

`deliver` of `internal/mailworker`: prepare the message, deliver it domain by
domain in the iteration order of a Go map, and record the outcome. A delivery is
the list of statements it issues on the outbox tables, none of which it reads
back, and the conversations it held.
-/

namespace ElvishMail.Mailworker

open Go Smtp Mailmeta Semantics

/-- The age at which `runOnce` has a row in `sending` reset. -/
def recoverAfter : Time := 15 * 60 * second

/-- An iteration order of the `groupByDomain` map. -/
abbrev MapOrder := Iteration (GoString × List GoString)

/-- What a delivery does: statements on the outbox tables and conversations with
hosts, both in order. -/
structure Delivery where
  statements : List Statement
  conversations : List (List WireEvent)
deriving DecidableEq

def Delivery.accepted (delivery : Delivery) : List GoString :=
  delivery.conversations.flatMap acceptedBy

def bouncesFor (row : OutboxRow) (addrs : List GoString) (serr : SMTPError) : List Bounce :=
  addrs.map fun addr =>
    { outboxID := row.id, recipient := addr, code := serr.code, reason := serr.message }

def permanentFailure (row : OutboxRow) (addrs : List GoString) (serr : SMTPError) : List Statement :=
  (bouncesFor row addrs serr).map Statement.insertBounce ++
    [Statement.markOutboxFailed row.id serr.code serr.message false]

def failDomain (row : OutboxRow) (addrs : List GoString) (err : GoError) : List Statement :=
  let transient := [.markOutboxFailed row.id 0 err.text true]
  match err.asSMTP with
  | none => transient
  | some serr => if serr.isPermanent then permanentFailure row addrs serr else transient

/-- The statements after every domain was served: the row is marked and the staged
copy of the sender, if there is one, recorded. -/
def recordSuccess (material : Material) (row : OutboxRow) : List Statement :=
  .markOutboxSent row.id 250 ::
    if row.sentCopyBodyBlobRef ≠ [] ∧ 0 < row.sentCopyHeaderCiphertext.length ∧
        row.sentCopyMessageID = 0 then
      match material.ingestSentCopy row (recipients row) with
      | some messageID => [.recordSentCopy row.id messageID]
      | none => []
    else []

/-- Delivery of a prepared message to one entry of the map. -/
def serve (cfg : Config) (net : Network) (fromAddr payload : GoString)
    (group : GoString × List GoString) : Option GoError × List (List WireEvent) :=
  deliverDomain cfg net group.1 { fromAddr, rcpt := group.2, payload }

def domains (cfg : Config) (row : OutboxRow) : List (GoString × List GoString) :=
  groupByDomain cfg.lib (recipients row)

def deliver (cfg : Config) (material : Material) (net : Network) (order : MapOrder)
    (row : OutboxRow) : Delivery :=
  match prepare cfg.lib material row with
  | .crashed => ⟨[], []⟩
  | .failed code text transient => ⟨[.markOutboxFailed row.id code text transient], []⟩
  | .ready fromAddr payload =>
    match untilFailure (serve cfg net fromAddr payload) (order.arrange (domains cfg row)) with
    | (some (group, err), held) => ⟨failDomain row group.2 err, held⟩
    | (none, held) => ⟨recordSuccess material row, held⟩

section Domains

variable {cfg : Config} {row : OutboxRow} {group other : GoString × List GoString}

theorem mem_domains :
    group ∈ domains cfg row ↔
      group.2 = (recipients row).filter (mailDomain cfg.lib · = some group.1) ∧ group.2 ≠ [] := by
  obtain ⟨domain, addrs⟩ := group
  exact mem_groupOn (mailDomain cfg.lib) (recipients row)

theorem domains_nodup (cfg : Config) (row : OutboxRow) : (domains cfg row).Nodup :=
  (nodup_keys_groupOn (mailDomain cfg.lib) (recipients row)).of_map

theorem mailDomain_of_mem (member : group ∈ domains cfg row) {addr : GoString}
    (inGroup : addr ∈ group.2) : mailDomain cfg.lib addr = some group.1 := by
  rw [(mem_domains.mp member).1] at inGroup
  simpa using (List.mem_filter.mp inGroup).2

theorem domains_disjoint (member : group ∈ domains cfg row) (otherMember : other ∈ domains cfg row)
    {addr : GoString} (inGroup : addr ∈ group.2) (inOther : addr ∈ other.2) : group = other := by
  have sameDomain : some group.1 = some other.1 :=
    (mailDomain_of_mem member inGroup).symm.trans (mailDomain_of_mem otherMember inOther)
  have domainEq : group.1 = other.1 := Option.some.inj sameDomain
  have addrsEq : group.2 = other.2 := by
    rw [(mem_domains.mp member).1, (mem_domains.mp otherMember).1, domainEq]
  exact Prod.ext domainEq addrsEq

theorem exists_domain {addr domain : GoString} (member : addr ∈ recipients row)
    (located : mailDomain cfg.lib addr = some domain) :
    ∃ group ∈ domains cfg row, addr ∈ group.2 := by
  have inFilter : addr ∈ (recipients row).filter (mailDomain cfg.lib · = some domain) :=
    List.mem_filter.mpr ⟨member, by simpa using located⟩
  exact ⟨(domain, (recipients row).filter (mailDomain cfg.lib · = some domain)),
    mem_domains.mpr ⟨rfl, List.ne_nil_of_mem inFilter⟩, inFilter⟩

end Domains

section Deliver

variable {cfg : Config} {material : Material} {net : Network} {order : MapOrder} {row : OutboxRow}
  {fromAddr payload : GoString} {group : GoString × List GoString}

theorem serve_accepted :
    (serve cfg net fromAddr payload group).2.flatMap acceptedBy =
      if (serve cfg net fromAddr payload group).1 = none then group.2 else [] := by
  rw [serve, deliverDomain_eq]
  exact tryHosts_accepted

theorem flatMap_serve_accepted {groups : List (GoString × List GoString)}
    (served : ∀ group ∈ groups, (serve cfg net fromAddr payload group).1 = none) :
    (groups.flatMap fun group => (serve cfg net fromAddr payload group).2).flatMap acceptedBy =
      groups.flatMap Prod.snd := by
  induction groups with
  | nil => rfl
  | cons group rest ih =>
    have here := served group List.mem_cons_self
    have later := ih fun other member =>
      served other (List.mem_cons_of_mem group member)
    rw [List.flatMap_cons, List.flatMap_append, later, serve_accepted, if_pos here,
      List.flatMap_cons]

theorem deliver_cases (net : Network) (order : MapOrder)
    (ready : prepare cfg.lib material row = .ready fromAddr payload) :
    ((∀ group ∈ domains cfg row, (serve cfg net fromAddr payload group).1 = none) ∧
      (deliver cfg material net order row).statements = recordSuccess material row ∧
      (deliver cfg material net order row).accepted =
        (order.arrange (domains cfg row)).flatMap Prod.snd) ∨
    ∃ (before : List (GoString × List GoString)) (group : GoString × List GoString)
      (after : List (GoString × List GoString)) (err : GoError),
      order.arrange (domains cfg row) = before ++ group :: after ∧
      (∀ earlier ∈ before, (serve cfg net fromAddr payload earlier).1 = none) ∧
      (serve cfg net fromAddr payload group).1 = some err ∧
      (deliver cfg material net order row).statements = failDomain row group.2 err ∧
      (deliver cfg material net order row).accepted = before.flatMap Prod.snd := by
  unfold Delivery.accepted deliver
  rw [ready]
  dsimp only
  rcases untilFailure_cases (serve cfg net fromAddr payload) (order.arrange (domains cfg row)) with
    ⟨served, looped⟩ | ⟨before, group, after, err, split, served, fails, looped⟩
  · rw [looped]
    refine .inl ⟨?_, rfl, flatMap_serve_accepted served⟩
    intro group member
    exact served group (order.mem_arrange.mpr member)
  · rw [looped]
    refine .inr ⟨before, group, after, err, split, served, fails, rfl, ?_⟩
    rw [List.flatMap_append, flatMap_serve_accepted served, serve_accepted, fails]
    simp

theorem deliver_failing {before after : List (GoString × List GoString)} {err : GoError}
    (ready : prepare cfg.lib material row = .ready fromAddr payload)
    (split : order.arrange (domains cfg row) = before ++ group :: after)
    (served : ∀ earlier ∈ before, (serve cfg net fromAddr payload earlier).1 = none)
    (fails : (serve cfg net fromAddr payload group).1 = some err) :
    (deliver cfg material net order row).statements = failDomain row group.2 err ∧
      (deliver cfg material net order row).accepted = before.flatMap Prod.snd := by
  unfold Delivery.accepted deliver
  rw [ready]
  dsimp only
  rw [split, untilFailure_append_failing served fails]
  refine ⟨rfl, ?_⟩
  rw [List.flatMap_append, flatMap_serve_accepted served, serve_accepted, fails]
  simp

theorem deliver_unprepared
    (unready : ∀ fromAddr payload, prepare cfg.lib material row ≠ .ready fromAddr payload) :
    (deliver cfg material net order row).conversations = [] ∧
      ∀ code, .markOutboxSent row.id code ∉ (deliver cfg material net order row).statements := by
  unfold deliver
  split
  · exact ⟨rfl, by simp⟩
  · exact ⟨rfl, by simp⟩
  · rename_i fromAddr payload ready
    exact absurd ready (unready fromAddr payload)

theorem failDomain_permanent {err : GoError} {serr : SMTPError} (typed : err.asSMTP = some serr)
    (fatal : serr.isPermanent = true) (addrs : List GoString) :
    failDomain row addrs err = permanentFailure row addrs serr := by
  simp [failDomain, typed, fatal]

theorem failDomain_transient {err : GoError} (harmless : ¬ Permanent (some err))
    (addrs : List GoString) :
    failDomain row addrs err = [.markOutboxFailed row.id 0 err.text true] := by
  unfold failDomain
  split
  · rfl
  · rename_i serr typed
    rw [if_neg]
    intro fatal
    exact harmless ⟨err, serr, rfl, typed, fatal⟩

end Deliver

end ElvishMail.Mailworker
