import Mathlib.Data.Finset.Image
import ElvishMail.Mailworker.Acceptance

/-!
# What a delivery leaves behind

Two results about a whole delivery of one row: whether a row marked as sent has
reached every recipient it names, and whether the outcome depends on the
iteration order of the domain map.
-/

namespace ElvishMail.Mailworker

open Go Smtp Mailmeta Semantics

def Delivery.marksSent (delivery : Delivery) (row : OutboxRow) : Prop :=
  ∃ code, .markOutboxSent row.id code ∈ delivery.statements

/-- The row can be sent at all: its message can be prepared, and every line to
every domain fits. -/
def Sendable (cfg : Config) (material : Material) (row : OutboxRow) : Prop :=
  ∃ fromAddr payload, prepare cfg.lib material row = .ready fromAddr payload ∧
    ∀ group ∈ domains cfg row, Fits cfg fromAddr group.2

section Sent

variable {cfg : Config} {material : Material} {net : Network} {order : MapOrder} {row : OutboxRow}

theorem failDomain_not_sent (row : OutboxRow) (addrs : List GoString) (err : GoError) (code : Int) :
    .markOutboxSent row.id code ∉ failDomain row addrs err := by
  unfold failDomain permanentFailure
  split
  · simp
  · split <;> simp

theorem served_of_marksSent (sent : (deliver cfg material net order row).marksSent row) :
    ∃ fromAddr payload, prepare cfg.lib material row = .ready fromAddr payload ∧
      (∀ group ∈ domains cfg row, (serve cfg net fromAddr payload group).1 = none) ∧
      (deliver cfg material net order row).accepted =
        (order.arrange (domains cfg row)).flatMap Prod.snd := by
  obtain ⟨code, mark⟩ := sent
  by_cases prepared : ∃ fromAddr payload, prepare cfg.lib material row = .ready fromAddr payload
  · obtain ⟨fromAddr, payload, ready⟩ := prepared
    refine ⟨fromAddr, payload, ready, ?_⟩
    rcases deliver_cases net order ready with
      ⟨served, -, accepted⟩ | ⟨before, group, after, err, -, -, -, statements, -⟩
    · exact ⟨served, accepted⟩
    · rw [statements] at mark
      exact absurd mark (failDomain_not_sent row group.2 err code)
  · have unready : ∀ fromAddr payload, prepare cfg.lib material row ≠ .ready fromAddr payload :=
      fun fromAddr payload ready => prepared ⟨fromAddr, payload, ready⟩
    exact absurd mark ((deliver_unprepared unready).2 code)

/-- A row is only ever marked as sent with every recipient accepted, whatever the
network and the iteration order, exactly when every recipient of a sendable row
has a domain. -/
theorem sent_accepted_iff (cfg : Config) (material : Material) (row : OutboxRow) :
    (∀ net order, (deliver cfg material net order row).marksSent row →
      ∀ addr ∈ recipients row, addr ∈ (deliver cfg material net order row).accepted) ↔
    (Sendable cfg material row → ∀ addr ∈ recipients row, (mailDomain cfg.lib addr).isSome) := by
  constructor
  · rintro complete ⟨fromAddr, payload, ready, fits⟩ addr member
    -- a network that accepts everything marks the row as sent
    have served : ∀ group ∈ domains cfg row,
        (serve cfg (.single fun _ => accepting) fromAddr payload group).1 = none :=
      fun group inside => serve_accepting (fits group inside) rfl
    have marked : (deliver cfg material (.single fun _ => accepting) .asBuilt row).marksSent row := by
      rcases deliver_cases (.single fun _ => accepting) .asBuilt ready with
        ⟨-, statements, -⟩ | ⟨before, group, after, err, split, -, fails, -⟩
      · rw [Delivery.marksSent, statements]
        exact ⟨250, List.mem_cons_self⟩
      · have inside : group ∈ domains cfg row := by
          rw [← Iteration.mem_arrange .asBuilt, split]
          simp
        rw [served group inside] at fails
        cases fails
    have reached := complete _ _ marked addr member
    obtain ⟨-, -, -, -, accepted⟩ := served_of_marksSent marked
    rw [accepted, List.mem_flatMap] at reached
    obtain ⟨group, inside, inGroup⟩ := reached
    rw [mailDomain_of_mem ((Iteration.mem_arrange _).mp inside) inGroup]
    rfl
  · intro located net order marked addr member
    obtain ⟨fromAddr, payload, ready, served, accepted⟩ := served_of_marksSent marked
    have sendable : Sendable cfg material row :=
      ⟨fromAddr, payload, ready, fun group inside => fits_of_served (served group inside)⟩
    obtain ⟨domain, hasDomain⟩ := Option.isSome_iff_exists.mp (located sendable addr member)
    obtain ⟨group, inside, inGroup⟩ := exists_domain member hasDomain
    rw [accepted, List.mem_flatMap]
    exact ⟨group, (Iteration.mem_arrange order).mpr inside, inGroup⟩

/-- A row for `a@x.org` and `bob` is marked as sent after a delivery to `a@x.org`
alone. -/
theorem sent_without_bob :
    ¬ (∀ net order, (deliver .sample .sample net order (sampleRow "a@x.org, bob")).marksSent
        (sampleRow "a@x.org, bob") →
      ∀ addr ∈ recipients (sampleRow "a@x.org, bob"),
        addr ∈ (deliver .sample .sample net order (sampleRow "a@x.org, bob")).accepted) := by
  intro complete
  have reached := complete (.single fun _ => accepting) .asBuilt ⟨250, by decide⟩ (ascii "bob")
    (by decide)
  revert reached
  decide

end Sent

/-- What a delivery leaves: the status of the row, the recipients accepted and the
bounces written. -/
structure Outcome where
  status : OutboxStatus
  accepted : Finset GoString
  bounces : Finset Bounce
deriving DecidableEq

/-- The outcome of a delivery whose statements execute at the times of a clock. -/
def outcome (cfg : Config) (material : Material) (net : Network) (order : MapOrder)
    (clock : Statement → Time) (row : OutboxRow) : Outcome where
  status := (settled clock (deliver cfg material net order row).statements row).status
  accepted := (deliver cfg material net order row).accepted.toFinset
  bounces := ((deliver cfg material net order row).statements.filterMap Statement.bounce?).toFinset

def FailsTransiently (cfg : Config) (net : Network) (fromAddr payload : GoString)
    (group : GoString × List GoString) : Prop :=
  (serve cfg net fromAddr payload group).1 ≠ none ∧
    ¬ Permanent (serve cfg net fromAddr payload group).1

/-- The order of the domains cannot matter: no message is prepared, there is at most
one domain, all are served, or all fail transiently. -/
def OrderImmaterial (cfg : Config) (material : Material) (net : Network) (row : OutboxRow) : Prop :=
  ∀ fromAddr payload, prepare cfg.lib material row = .ready fromAddr payload →
    (domains cfg row).length ≤ 1 ∨
    (∀ group ∈ domains cfg row, (serve cfg net fromAddr payload group).1 = none) ∨
    ∀ group ∈ domains cfg row, FailsTransiently cfg net fromAddr payload group

section Order

variable {cfg : Config} {material : Material} {net : Network} {order other : MapOrder}
  {clock : Statement → Time} {row : OutboxRow} {fromAddr payload : GoString} {err : GoError}
  {group : GoString × List GoString}

theorem settled_bounces (bounces : List Bounce) (row : OutboxRow) :
    settled clock (bounces.map .insertBounce) row = row := by
  induction bounces with
  | nil => rfl
  | cons bounce rest ih => exact ih

theorem outcome_served (ready : prepare cfg.lib material row = .ready fromAddr payload)
    (served : ∀ group ∈ domains cfg row, (serve cfg net fromAddr payload group).1 = none) :
    outcome cfg material net order clock row =
      ⟨.sent, ((domains cfg row).flatMap Prod.snd).toFinset, ∅⟩ := by
  rcases deliver_cases net order ready with
    ⟨-, statements, accepted⟩ | ⟨before, group, after, err, split, -, fails, -⟩
  · have sameAccepted : ((order.arrange (domains cfg row)).flatMap Prod.snd).toFinset =
        ((domains cfg row).flatMap Prod.snd).toFinset := by
      ext addr
      simp only [List.mem_toFinset, List.mem_flatMap, order.mem_arrange]
    unfold outcome
    rw [statements, accepted, sameAccepted]
    unfold recordSuccess
    split
    · split <;> simp [settled, Statement.onRow, Statement.bounce?]
    · simp [settled, Statement.onRow, Statement.bounce?]
  · have inside : group ∈ domains cfg row := by
      rw [← order.mem_arrange, split]
      simp
    rw [served group inside] at fails
    cases fails

section Failing

variable {before after : List (GoString × List GoString)}

theorem outcome_permanent (ready : prepare cfg.lib material row = .ready fromAddr payload)
    (split : order.arrange (domains cfg row) = before ++ group :: after)
    (served : ∀ earlier ∈ before, (serve cfg net fromAddr payload earlier).1 = none)
    (fails : (serve cfg net fromAddr payload group).1 = some err) {serr : SMTPError}
    (typed : err.asSMTP = some serr) (fatal : serr.isPermanent = true) :
    outcome cfg material net order clock row =
      ⟨.failed, (before.flatMap Prod.snd).toFinset, (bouncesFor row group.2 serr).toFinset⟩ := by
  obtain ⟨statements, accepted⟩ := deliver_failing ready split served fails
  unfold outcome
  rw [statements, accepted, failDomain_permanent typed fatal, permanentFailure, settled_append,
    settled_bounces, List.filterMap_append, List.filterMap_map]
  have kept : (bouncesFor row group.2 serr).filterMap (Statement.bounce? ∘ .insertBounce) =
      bouncesFor row group.2 serr := List.filterMap_some
  have mark : [Statement.markOutboxFailed row.id serr.code serr.message false].filterMap
      Statement.bounce? = [] := rfl
  rw [kept, mark, List.append_nil]
  simp [settled, Statement.onRow]

theorem outcome_transient (ready : prepare cfg.lib material row = .ready fromAddr payload)
    (split : order.arrange (domains cfg row) = before ++ group :: after)
    (served : ∀ earlier ∈ before, (serve cfg net fromAddr payload earlier).1 = none)
    (fails : (serve cfg net fromAddr payload group).1 = some err)
    (harmless : ¬ Permanent (some err)) :
    outcome cfg material net order clock row = ⟨.pending, (before.flatMap Prod.snd).toFinset, ∅⟩ := by
  obtain ⟨statements, accepted⟩ := deliver_failing ready split served fails
  unfold outcome
  rw [statements, accepted, failDomain_transient harmless]
  simp [settled, Statement.onRow, Statement.bounce?]

theorem outcome_leading_failing (clock : Statement → Time)
    (ready : prepare cfg.lib material row = .ready fromAddr payload)
    (member : group ∈ domains cfg row)
    (fails : (serve cfg net fromAddr payload group).1 = some err) :
    (outcome cfg material net (.leading group) clock row).accepted = ∅ ∧
      (Permanent (some err) →
        (outcome cfg material net (.leading group) clock row).status = .failed ∧
        (outcome cfg material net (.leading group) clock row).bounces.image Bounce.recipient =
          group.2.toFinset) ∧
      (¬ Permanent (some err) →
        (outcome cfg material net (.leading group) clock row).status = .pending) := by
  have split := Iteration.leading_arrange member
  have noneBefore : ∀ earlier ∈ ([] : List (GoString × List GoString)),
      (serve cfg net fromAddr payload earlier).1 = none := by simp
  refine ⟨?_, ?_, ?_⟩
  · by_cases fatal : Permanent (some err)
    · obtain ⟨serr, typed, isFatal⟩ := permanent_some.mp fatal
      rw [outcome_permanent ready split noneBefore fails typed isFatal]
      rfl
    · rw [outcome_transient ready split noneBefore fails fatal]
      rfl
  · intro fatal
    obtain ⟨serr, typed, isFatal⟩ := permanent_some.mp fatal
    rw [outcome_permanent ready split noneBefore fails typed isFatal]
    refine ⟨rfl, ?_⟩
    ext addr
    simp [bouncesFor]
  · intro harmless
    rw [outcome_transient ready split noneBefore fails harmless]

end Failing

theorem outcome_leading_served (clock : Statement → Time)
    (ready : prepare cfg.lib material row = .ready fromAddr payload)
    (member : group ∈ domains cfg row)
    (served : (serve cfg net fromAddr payload group).1 = none) {addr : GoString}
    (inGroup : addr ∈ group.2) :
    addr ∈ (outcome cfg material net (.leading group) clock row).accepted := by
  rw [outcome, List.mem_toFinset]
  rcases deliver_cases net (.leading group) ready with
    ⟨-, -, accepted⟩ | ⟨before, failing, after, err, split, -, fails, -, accepted⟩
  · rw [accepted, List.mem_flatMap]
    exact ⟨group, (Iteration.mem_arrange _).mpr member, inGroup⟩
  · rw [accepted, List.mem_flatMap]
    rw [Iteration.leading_arrange member] at split
    cases before with
    | nil =>
      rw [List.nil_append, List.cons.injEq] at split
      rw [← split.1, served] at fails
      cases fails
    | cons first before =>
      rw [List.cons_append, List.cons.injEq] at split
      rw [← split.1]
      exact ⟨group, List.mem_cons_self, inGroup⟩

theorem outcome_eq_of_immaterial (immaterial : OrderImmaterial cfg material net row) :
    outcome cfg material net order clock row = outcome cfg material net other clock row := by
  by_cases prepared : ∃ fromAddr payload, prepare cfg.lib material row = .ready fromAddr payload
  swap
  · have sameDelivery : deliver cfg material net order row = deliver cfg material net other row := by
      unfold deliver
      split
      · rfl
      · rfl
      · rename_i fromAddr payload ready
        exact absurd ⟨fromAddr, payload, ready⟩ prepared
    rw [outcome, outcome, sameDelivery]
  obtain ⟨fromAddr, payload, ready⟩ := prepared
  rcases immaterial fromAddr payload ready with few | served | transient
  · have arranged (order : MapOrder) : order.arrange (domains cfg row) = domains cfg row := by
      have permuted := order.perm (domains cfg row)
      generalize domains cfg row = groups at few permuted ⊢
      match groups with
      | [] => exact permuted.eq_nil
      | [group] => exact List.perm_singleton.mp permuted
      | _ :: _ :: _ => simp at few
    have sameDelivery : deliver cfg material net order row = deliver cfg material net other row := by
      rw [deliver, deliver, ready]
      dsimp only
      rw [arranged order, arranged other]
    rw [outcome, outcome, sameDelivery]
  · rw [outcome_served ready served, outcome_served ready served]
  · have pending (order : MapOrder) (some : domains cfg row ≠ []) :
        outcome cfg material net order clock row = ⟨.pending, ∅, ∅⟩ := by
      obtain ⟨group, rest, split⟩ :=
        List.exists_cons_of_ne_nil fun empty : order.arrange (domains cfg row) = [] =>
          some (List.Perm.nil_eq (empty ▸ order.perm (domains cfg row))).symm
      have member : group ∈ domains cfg row := by
        rw [← order.mem_arrange, split]
        exact List.mem_cons_self
      obtain ⟨fails, harmless⟩ := transient group member
      obtain ⟨err, failed⟩ := Option.ne_none_iff_exists'.mp fails
      rw [failed] at harmless
      rw [← List.nil_append (group :: rest)] at split
      exact outcome_transient ready split (by simp) failed harmless
    by_cases empty : domains cfg row = []
    · have served : ∀ group ∈ domains cfg row, (serve cfg net fromAddr payload group).1 = none := by
        rw [empty]
        simp
      rw [outcome_served ready served, outcome_served ready served]
    · rw [pending order empty, pending other empty]

theorem exists_other_domain (several : 1 < (domains cfg row).length)
    (group : GoString × List GoString) : ∃ other ∈ domains cfg row, other ≠ group := by
  have distinct := domains_nodup cfg row
  generalize domains cfg row = groups at several distinct
  match groups with
  | first :: second :: rest =>
    by_cases same : first = group
    · subst same
      refine ⟨second, by simp, ?_⟩
      rintro rfl
      simp at distinct
    · exact ⟨first, by simp, same⟩
  | [_] => simp at several
  | [] => simp at several

/-- The outcome is the same for every iteration order exactly when the order cannot
matter. -/
theorem outcome_order_independent_iff (cfg : Config) (material : Material) (net : Network)
    (clock : Statement → Time) (row : OutboxRow) :
    (∀ order other, outcome cfg material net order clock row =
      outcome cfg material net other clock row) ↔ OrderImmaterial cfg material net row := by
  constructor
  · intro independent fromAddr payload ready
    by_contra matters
    push Not at matters
    obtain ⟨several, ⟨failing, failingMember, fails⟩, notAllTransient⟩ := matters
    obtain ⟨err, failed⟩ := Option.ne_none_iff_exists'.mp fails
    obtain ⟨noneAccepted, -⟩ :=
      outcome_leading_failing clock ready failingMember failed
    -- a served domain beside a failing one is accepted or not with the order
    have noneServed : ∀ group ∈ domains cfg row, (serve cfg net fromAddr payload group).1 ≠ none := by
      intro group member served
      obtain ⟨addr, inGroup⟩ := List.exists_mem_of_ne_nil _ (mem_domains.mp member).2
      have accepted := outcome_leading_served clock ready member served inGroup
      rw [independent (.leading group) (.leading failing), noneAccepted] at accepted
      exact absurd accepted (Finset.notMem_empty addr)
    -- so all fail, and one of them for good
    obtain ⟨fatal, fatalMember, isFatal⟩ : ∃ group ∈ domains cfg row,
        Permanent (serve cfg net fromAddr payload group).1 := by
      obtain ⟨group, member, notTransient⟩ := notAllTransient
      refine ⟨group, member, ?_⟩
      by_contra harmless
      exact notTransient ⟨noneServed group member, harmless⟩
    obtain ⟨second, secondMember, different⟩ := exists_other_domain several fatal
    obtain ⟨fatalErr, fatalFailed⟩ := Option.ne_none_iff_exists'.mp (noneServed fatal fatalMember)
    obtain ⟨secondErr, secondFailed⟩ :=
      Option.ne_none_iff_exists'.mp (noneServed second secondMember)
    rw [fatalFailed] at isFatal
    obtain ⟨-, fatalFirst, -⟩ :=
      outcome_leading_failing clock ready fatalMember fatalFailed
    obtain ⟨-, secondFirst, secondHarmless⟩ :=
      outcome_leading_failing clock ready secondMember secondFailed
    obtain ⟨fatalStatus, fatalBounces⟩ := fatalFirst isFatal
    have same := independent (.leading fatal) (.leading second)
    by_cases secondFatal : Permanent (some secondErr)
    · -- two permanent failures bounce different recipients
      obtain ⟨-, secondBounces⟩ := secondFirst secondFatal
      obtain ⟨addr, inSecond⟩ := List.exists_mem_of_ne_nil _ (mem_domains.mp secondMember).2
      have inFatal : addr ∈ fatal.2.toFinset := by
        rw [← fatalBounces, same, secondBounces, List.mem_toFinset]
        exact inSecond
      exact different (domains_disjoint secondMember fatalMember inSecond (List.mem_toFinset.mp inFatal))
    · -- a permanent and a transient failure leave different statuses
      rw [same, secondHarmless secondFatal] at fatalStatus
      cases fatalStatus
  · intro immaterial order other
    exact outcome_eq_of_immaterial immaterial

/-- With `y.org` refusing the message for good, `a@x.org` gets it or not depending on
which domain comes first. -/
theorem outcome_depends_on_order :
    ¬ ∀ order other : MapOrder,
      outcome .sample .sample
        (.single fun domain =>
          if domain = ascii "x.org" then accepting
          else scripted "250 ok" "250 ok" "354 go" "554 rejected")
        order (fun _ => 0) (sampleRow "a@x.org b@y.org") =
      outcome .sample .sample
        (.single fun domain =>
          if domain = ascii "x.org" then accepting
          else scripted "250 ok" "250 ok" "354 go" "554 rejected")
        other (fun _ => 0) (sampleRow "a@x.org b@y.org") := by
  intro independent
  have same := independent .asBuilt (.leading (ascii "y.org", [ascii "b@y.org"]))
  revert same
  decide

end Order

end ElvishMail.Mailworker
