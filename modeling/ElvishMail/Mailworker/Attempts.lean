import ElvishMail.Mailworker.Outcomes

/-!
# Repeated attempts at one row

One worker's attempts at a row over its whole life: recover, lease, deliver and
mark, again and again, each time with a payload store, keys, a network and an
iteration order of its own. The row remembers of an attempt only that it failed,
not which domains took the message, so a second domain is all it takes for a
recipient to be sent the message twice.
-/

namespace ElvishMail.Mailworker

open Go Smtp Mailmeta Semantics

/-- What one attempt finds and when it happens: the clock reading of the recovery
and of the lease, and those of the statements at the end. -/
structure Attempt where
  material : Material
  net : Network
  order : MapOrder
  leasedAt : Time
  clock : Statement → Time

/-- The part of `runOnce` that concerns one row. A row that is not due is left
alone. -/
def Attempt.on (cfg : Config) (attempt : Attempt) (row : OutboxRow) :
    OutboxRow × List (List WireEvent) :=
  let row := row.recover attempt.leasedAt (recoveryCutoff attempt.leasedAt recoverAfter)
  if row.due attempt.leasedAt then
    let delivery := deliver cfg attempt.material attempt.net attempt.order row
    (settled attempt.clock delivery.statements (row.lease attempt.leasedAt [row.id]),
      delivery.conversations)
  else (row, [])

def history (cfg : Config) : List Attempt → OutboxRow → List (List WireEvent)
  | [], _ => []
  | attempt :: rest, row => (attempt.on cfg row).2 ++ history cfg rest (attempt.on cfg row).1

/-- The number of accepted DATA transactions a recipient is part of. -/
def acceptances (addr : GoString) (conversations : List (List WireEvent)) : Nat :=
  conversations.countP fun held => addr ∈ acceptedBy held

/-- No sequence of attempts has a recipient accepted twice. -/
def AtMostOnce (cfg : Config) (row : OutboxRow) : Prop :=
  ∀ attempts addr, acceptances addr (history cfg attempts row) ≤ 1

/-- The row has two domains, and the message can be sent to one of them. -/
def Redeliverable (cfg : Config) (row : OutboxRow) : Prop :=
  ∃ material fromAddr payload, prepare cfg.lib material row = .ready fromAddr payload ∧
    ∃ first ∈ domains cfg row, ∃ second ∈ domains cfg row, first ≠ second ∧
      Fits cfg fromAddr first.2

structure SameMessage (row other : OutboxRow) : Prop where
  kind : other.kind = row.kind
  blob : other.payloadBlobRef = row.payloadBlobRef
  summary : other.recipientSummary = row.recipientSummary
  sender : other.sentCopyFromAddr = row.sentCopyFromAddr

section Attempts

variable {cfg : Config} {material : Material} {net : Network} {order : MapOrder} {row other : OutboxRow}
  {fromAddr payload addr : GoString} {clock : Statement → Time} {attempt : Attempt}

theorem acceptances_append (addr : GoString) (first second : List (List WireEvent)) :
    acceptances addr (first ++ second) = acceptances addr first + acceptances addr second :=
  List.countP_append

theorem acceptances_pos {delivery : Delivery} :
    0 < acceptances addr delivery.conversations ↔ addr ∈ delivery.accepted := by
  simp [acceptances, List.countP_pos_iff, Delivery.accepted, List.mem_flatMap]

theorem acceptances_serve (cfg : Config) (net : Network) (fromAddr payload addr : GoString)
    (group : GoString × List GoString) :
    acceptances addr (serve cfg net fromAddr payload group).2 ≤ if addr ∈ group.2 then 1 else 0 := by
  rw [serve, deliverDomain_eq]
  exact tryHosts_accepts_once addr

theorem acceptances_flatMap_serve (cfg : Config) (net : Network) (fromAddr payload addr : GoString)
    {groups : List (GoString × List GoString)} (distinct : groups.Nodup)
    (disjoint : ∀ group ∈ groups, ∀ other ∈ groups, addr ∈ group.2 → addr ∈ other.2 →
      group = other) :
    acceptances addr (groups.flatMap fun group => (serve cfg net fromAddr payload group).2) ≤
      if ∃ group ∈ groups, addr ∈ group.2 then 1 else 0 := by
  induction groups with
  | nil => simp [acceptances]
  | cons group rest ih =>
    rw [List.nodup_cons] at distinct
    have later := ih distinct.2 fun one oneMember other otherMember =>
      disjoint one (List.mem_cons_of_mem group oneMember) other
        (List.mem_cons_of_mem group otherMember)
    have here := acceptances_serve cfg net fromAddr payload addr group
    rw [List.flatMap_cons, acceptances_append]
    by_cases inside : addr ∈ group.2
    · have elsewhere : ¬ ∃ other ∈ rest, addr ∈ other.2 := by
        rintro ⟨other, otherMember, inOther⟩
        have same := disjoint group List.mem_cons_self other
          (List.mem_cons_of_mem group otherMember) inside inOther
        exact distinct.1 (same ▸ otherMember)
      have anywhere : ∃ other ∈ group :: rest, addr ∈ other.2 :=
        ⟨group, List.mem_cons_self, inside⟩
      rw [if_neg elsewhere] at later
      rw [if_pos inside] at here
      rw [if_pos anywhere]
      omega
    · rw [if_neg inside] at here
      have sameQuestion : (∃ other ∈ group :: rest, addr ∈ other.2) ↔
          ∃ other ∈ rest, addr ∈ other.2 := by simp [inside]
      simp only [sameQuestion]
      omega

theorem acceptances_deliver (cfg : Config) (material : Material) (net : Network) (order : MapOrder)
    (row : OutboxRow) (addr : GoString) :
    acceptances addr (deliver cfg material net order row).conversations ≤ 1 := by
  unfold deliver
  split
  · exact Nat.zero_le 1
  · exact Nat.zero_le 1
  rename_i fromAddr payload ready
  have initial := untilFailure_trace_initial (serve cfg net fromAddr payload)
    (order.arrange (domains cfg row))
  have whole := acceptances_flatMap_serve cfg net fromAddr payload addr
    ((order.perm _).nodup_iff.mpr (domains_nodup cfg row))
    (fun one oneMember other otherMember => domains_disjoint (order.mem_arrange.mp oneMember)
      (order.mem_arrange.mp otherMember))
  have bounded : acceptances addr (untilFailure (serve cfg net fromAddr payload)
      (order.arrange (domains cfg row))).2 ≤ 1 := by
    refine (initial.sublist.countP_le).trans (whole.trans ?_)
    split <;> omega
  split
  · rename_i group err held looped
    rw [looped] at bounded
    exact bounded
  · rename_i held looped
    rw [looped] at bounded
    exact bounded

theorem SameMessage.prepare_eq (same : SameMessage row other) (material : Material) :
    prepare cfg.lib material other = prepare cfg.lib material row :=
  prepare_congr cfg.lib same.kind same.blob same.summary same.sender

theorem SameMessage.domains_eq (same : SameMessage row other) : domains cfg other = domains cfg row := by
  rw [domains, recipients, same.summary, domains, recipients]

theorem SameMessage.redeliverable (same : SameMessage row other)
    (again : Redeliverable cfg other) : Redeliverable cfg row := by
  obtain ⟨material, fromAddr, payload, ready, first, firstMember, second, secondMember, different,
    fits⟩ := again
  rw [same.prepare_eq] at ready
  rw [same.domains_eq] at firstMember secondMember
  exact ⟨material, fromAddr, payload, ready, first, firstMember, second, secondMember, different,
    fits⟩

theorem SameMessage.trans {third : OutboxRow} (first : SameMessage row other)
    (second : SameMessage other third) : SameMessage row third :=
  ⟨second.kind.trans first.kind, second.blob.trans first.blob, second.summary.trans first.summary,
    second.sender.trans first.sender⟩

theorem recover_sameMessage (now cutoff : Time) (row : OutboxRow) :
    SameMessage row (row.recover now cutoff) := by
  unfold OutboxRow.recover
  split <;> exact ⟨rfl, rfl, rfl, rfl⟩

theorem lease_sameMessage (now : Time) (ids : List Nat) (row : OutboxRow) :
    SameMessage row (row.lease now ids) := by
  unfold OutboxRow.lease
  split <;> exact ⟨rfl, rfl, rfl, rfl⟩

theorem settled_sameMessage {statements : List Statement}
    (noCopy : ∀ id messageID, .recordSentCopy id messageID ∉ statements) (row : OutboxRow) :
    SameMessage row (settled clock statements row) := by
  induction statements generalizing row with
  | nil => exact ⟨rfl, rfl, rfl, rfl⟩
  | cons statement rest ih =>
    have here : SameMessage row (statement.onRow (clock statement) row) := by
      cases statement with
      | insertBounce bounce => exact ⟨rfl, rfl, rfl, rfl⟩
      | markOutboxSent id smtpCode =>
        unfold Statement.onRow
        dsimp only
        split <;> exact ⟨rfl, rfl, rfl, rfl⟩
      | markOutboxFailed id smtpCode errMsg transient =>
        unfold Statement.onRow
        dsimp only
        split
        · split <;> exact ⟨rfl, rfl, rfl, rfl⟩
        · exact ⟨rfl, rfl, rfl, rfl⟩
      | recordSentCopy id messageID => exact absurd List.mem_cons_self (noCopy id messageID)
    have later := ih
      (fun id messageID inside => noCopy id messageID (List.mem_cons_of_mem statement inside))
      (statement.onRow (clock statement) row)
    exact here.trans later

theorem failDomain_noCopy (row : OutboxRow) (addrs : List GoString) (err : GoError)
    (id messageID : Nat) : .recordSentCopy id messageID ∉ failDomain row addrs err := by
  unfold failDomain permanentFailure
  split
  · simp
  · split <;> simp

theorem recordSuccess_status {leased : OutboxRow} (sameID : leased.id = row.id) :
    (settled clock (recordSuccess material row) leased).status = .sent := by
  unfold recordSuccess
  split
  · split <;> simp [settled, Statement.onRow, sameID]
  · simp [settled, Statement.onRow, sameID]

theorem settled_deliver (cfg : Config) (material : Material) (net : Network) (order : MapOrder)
    (clock : Statement → Time) {leased : OutboxRow} (sameID : leased.id = row.id) :
    (settled clock (deliver cfg material net order row).statements leased).status = .sent ∨
      SameMessage leased (settled clock (deliver cfg material net order row).statements leased) := by
  by_cases prepared : ∃ fromAddr payload, prepare cfg.lib material row = .ready fromAddr payload
  · obtain ⟨fromAddr, payload, ready⟩ := prepared
    rcases deliver_cases net order ready with
      ⟨-, statements, -⟩ | ⟨before, group, after, err, -, -, -, statements, -⟩
    · rw [statements]
      exact .inl (recordSuccess_status sameID)
    · rw [statements]
      exact .inr (settled_sameMessage (failDomain_noCopy row group.2 err) leased)
  · refine .inr (settled_sameMessage ?_ leased)
    intro id messageID
    unfold deliver
    split
    · simp
    · simp
    · rename_i fromAddr payload ready
      exact absurd ⟨fromAddr, payload, ready⟩ prepared

def Closed (row : OutboxRow) : Prop := row.status = .sent ∨ row.status = .failed

theorem recover_of_closed (closed : Closed row) (now cutoff : Time) :
    row.recover now cutoff = row := by
  unfold OutboxRow.recover OutboxRow.stuck
  rcases closed with sent | failed
  · simp [sent]
  · simp [failed]

theorem history_of_closed (closed : Closed row) (attempts : List Attempt) :
    history cfg attempts row = [] := by
  induction attempts with
  | nil => rfl
  | cons attempt rest ih =>
    have untouched : attempt.on cfg row = (row, []) := by
      unfold Attempt.on
      dsimp only
      rw [recover_of_closed closed, if_neg]
      unfold OutboxRow.due
      rcases closed with sent | failed
      · simp [sent]
      · simp [failed]
    rw [history, untouched, ih, List.append_nil]

theorem sent_of_accepted (clock : Statement → Time) (notAgain : ¬ Redeliverable cfg row) {leased : OutboxRow}
    (sameID : leased.id = row.id)
    (accepted : addr ∈ (deliver cfg material net order row).accepted) :
    (settled clock (deliver cfg material net order row).statements leased).status = .sent := by
  by_cases prepared : ∃ fromAddr payload, prepare cfg.lib material row = .ready fromAddr payload
  · obtain ⟨fromAddr, payload, ready⟩ := prepared
    rcases deliver_cases net order ready with
      ⟨-, statements, -⟩ | ⟨before, group, after, err, split, served, fails, -, acceptedEq⟩
    · rw [statements]
      exact recordSuccess_status sameID
    · rw [acceptedEq, List.mem_flatMap] at accepted
      obtain ⟨earlier, earlierMember, -⟩ := accepted
      have inside {member : GoString × List GoString} (placed : member ∈ before ++ group :: after) :
          member ∈ domains cfg row := by
        rw [← split] at placed
        exact order.mem_arrange.mp placed
      have earlierServed := served earlier earlierMember
      refine absurd ⟨material, fromAddr, payload, ready, earlier, inside (by simp [earlierMember]),
        group, inside (by simp), ?_, fits_of_served earlierServed⟩ notAgain
      rintro rfl
      rw [earlierServed] at fails
      cases fails
  · have unready : ∀ fromAddr payload, prepare cfg.lib material row ≠ .ready fromAddr payload :=
      fun fromAddr payload ready => prepared ⟨fromAddr, payload, ready⟩
    rw [Delivery.accepted, (deliver_unprepared unready).1] at accepted
    cases accepted

theorem acceptances_history_le (notAgain : ¬ Redeliverable cfg row) (attempts : List Attempt) :
    acceptances addr (history cfg attempts row) ≤ 1 := by
  induction attempts generalizing row with
  | nil => simp [history, acceptances]
  | cons attempt rest ih =>
    rw [history, acceptances_append]
    unfold Attempt.on
    dsimp only
    have recovered := recover_sameMessage attempt.leasedAt
      (recoveryCutoff attempt.leasedAt recoverAfter) row
    generalize row.recover attempt.leasedAt
      (recoveryCutoff attempt.leasedAt recoverAfter) = ready at recovered
    have stillNot : ¬ Redeliverable cfg ready := fun again => notAgain (recovered.redeliverable again)
    split
    swap
    · have onward := ih stillNot
      simpa [acceptances] using onward
    dsimp only
    have here := acceptances_deliver cfg attempt.material attempt.net attempt.order ready addr
    have leased := lease_sameMessage attempt.leasedAt [ready.id] ready
    by_cases accepted : addr ∈ (deliver cfg attempt.material attempt.net attempt.order ready).accepted
    · have sent := sent_of_accepted attempt.clock stillNot
        (OutboxRow.lease_id attempt.leasedAt [ready.id] ready) accepted
      rw [history_of_closed (.inl sent)]
      simpa [acceptances] using here
    · have nothing : acceptances addr
          (deliver cfg attempt.material attempt.net attempt.order ready).conversations = 0 :=
        Nat.eq_zero_of_not_pos fun positive => accepted (acceptances_pos.mp positive)
      rw [nothing, Nat.zero_add]
      rcases settled_deliver cfg attempt.material attempt.net attempt.order attempt.clock
          (OutboxRow.lease_id attempt.leasedAt [ready.id] ready) with sent | same
      · rw [history_of_closed (.inl sent)]
        exact Nat.zero_le 1
      · exact ih fun again =>
          stillNot ((leased.trans same).redeliverable again)

/-- An attempt that reaches one domain and finds the others unreachable. -/
def interruptedAttempt (material : Material) (first : GoString × List GoString) (now : Time) : Attempt where
  material
  net := .single fun domain => if domain = first.1 then accepting else unreachable
  order := .leading first
  leasedAt := now
  clock _ := now

theorem deliver_interrupted {first second : GoString × List GoString} (now : Time)
    (ready : prepare cfg.lib material row = .ready fromAddr payload)
    (firstMember : first ∈ domains cfg row) (secondMember : second ∈ domains cfg row)
    (different : first ≠ second) (fits : Fits cfg fromAddr first.2) (inFirst : addr ∈ first.2) :
    ∃ text, (deliver cfg material (interruptedAttempt material first now).net
        (interruptedAttempt material first now).order row).statements =
          [.markOutboxFailed row.id 0 text true] ∧
      addr ∈ (deliver cfg material (interruptedAttempt material first now).net
        (interruptedAttempt material first now).order row).accepted := by
  have firstServed : (serve cfg (interruptedAttempt material first now).net fromAddr payload first).1 =
      none := serve_accepting fits (if_pos rfl)
  have othersFail {group : GoString × List GoString} (member : group ∈ domains cfg row)
      (other : group ≠ first) :
      (serve cfg (interruptedAttempt material first now).net fromAddr payload group).1 =
        some (.plain (ascii "connection refused")) := by
    refine serve_unreachable (if_neg ?_)
    intro sameDomain
    refine other (Prod.ext sameDomain ?_)
    rw [(mem_domains.mp member).1, (mem_domains.mp firstMember).1, sameDomain]
  rcases deliver_cases (interruptedAttempt material first now).net
      (interruptedAttempt material first now).order ready with
    ⟨served, -⟩ | ⟨before, group, after, err, split, -, fails, statements, accepted⟩
  · have secondServed := served second secondMember
    rw [othersFail secondMember (Ne.symm different)] at secondServed
    cases secondServed
  · have arranged := split
    rw [show (interruptedAttempt material first now).order = .leading first from rfl,
      Iteration.leading_arrange firstMember] at arranged
    have groupMember : group ∈ domains cfg row := by
      rw [← (interruptedAttempt material first now).order.mem_arrange, split]
      simp
    have notFirst : group ≠ first := by
      rintro rfl
      rw [firstServed] at fails
      cases fails
    rw [othersFail groupMember notFirst] at fails
    cases fails
    refine ⟨_, statements, ?_⟩
    cases before with
    | nil =>
      rw [List.nil_append, List.cons.injEq] at arranged
      exact absurd arranged.1.symm notFirst
    | cons earliest before =>
      rw [List.cons_append, List.cons.injEq] at arranged
      rw [accepted, ← arranged.1, List.flatMap_cons]
      exact List.mem_append_left _ inFirst

theorem exists_late (next updated : Int) :
    ∃ now : Int, next ≤ now ∧ updated < recoveryCutoff now recoverAfter := by
  have cutoff (now : Int) : recoveryCutoff now recoverAfter = now - 900000000 := by
    simp [recoveryCutoff, recoverAfter, second]
  refine ⟨max next (updated + 900000001), by omega, ?_⟩
  rw [cutoff]
  omega

theorem exists_due (unclosed : ¬ Closed row) :
    ∃ now, (row.recover now (recoveryCutoff now recoverAfter)).due now = true := by
  obtain ⟨now, late, stale⟩ := exists_late row.nextAttemptAt row.updatedAt
  refine ⟨now, ?_⟩
  generalize recoveryCutoff now recoverAfter = cutoff at stale
  unfold OutboxRow.recover OutboxRow.stuck OutboxRow.due
  cases status : row.status with
  | pending => simp [status, late]
  | sending => simp [stale, late]
  | sent => exact absurd (.inl status) unclosed
  | failed => exact absurd (.inr status) unclosed

theorem exists_redelivery (unclosed : ¬ Closed row) {first second : GoString × List GoString}
    (ready : prepare cfg.lib material row = .ready fromAddr payload)
    (firstMember : first ∈ domains cfg row) (secondMember : second ∈ domains cfg row)
    (different : first ≠ second) (fits : Fits cfg fromAddr first.2) (inFirst : addr ∈ first.2) :
    ∃ attempt : Attempt, 0 < acceptances addr (attempt.on cfg row).2 ∧
      ¬ Closed (attempt.on cfg row).1 ∧ SameMessage row (attempt.on cfg row).1 := by
  obtain ⟨now, due⟩ := exists_due unclosed
  refine ⟨interruptedAttempt material first now, ?_⟩
  unfold Attempt.on
  dsimp only
  rw [show (interruptedAttempt material first now).leasedAt = now from rfl]
  have recovered := recover_sameMessage now (recoveryCutoff now recoverAfter) row
  generalize row.recover now (recoveryCutoff now recoverAfter) = waiting at due recovered
  rw [← recovered.prepare_eq] at ready
  rw [← recovered.domains_eq] at firstMember secondMember
  obtain ⟨text, statements, accepted⟩ :=
    deliver_interrupted now ready firstMember secondMember different fits inFirst
  rw [if_pos due, show (interruptedAttempt material first now).material = material from rfl, statements]
  refine ⟨acceptances_pos.mpr accepted, ?_, ?_⟩
  · simp [Closed, settled, Statement.onRow]
  · have leased := lease_sameMessage now [waiting.id] waiting
    exact recovered.trans (leased.trans (settled_sameMessage (by simp) _))

/-- A recipient is accepted at most once over the life of a row exactly when an open
row cannot be redelivered: it has at most one domain, or cannot be sent. -/
theorem atMostOnce_iff (cfg : Config) (row : OutboxRow) :
    AtMostOnce cfg row ↔ (¬ Closed row → ¬ Redeliverable cfg row) := by
  constructor
  · rintro once unclosed ⟨material, fromAddr, payload, ready, first, firstMember, second,
      secondMember, different, fits⟩
    obtain ⟨addr, inFirst⟩ := List.exists_mem_of_ne_nil _ (mem_domains.mp firstMember).2
    obtain ⟨attempt, accepted, stillOpen, same⟩ :=
      exists_redelivery unclosed ready firstMember secondMember different fits inFirst
    rw [← same.prepare_eq] at ready
    rw [← same.domains_eq] at firstMember secondMember
    obtain ⟨again, acceptedAgain, -, -⟩ :=
      exists_redelivery stillOpen ready firstMember secondMember different fits inFirst
    have bounded := once [attempt, again] addr
    rw [history, history, history, List.append_nil, acceptances_append] at bounded
    omega
  · intro notAgain attempts addr
    by_cases closed : Closed row
    · rw [history_of_closed closed]
      exact Nat.zero_le 1
    · exact acceptances_history_le (notAgain closed) attempts

/-- `x.org` takes the message, `y.org` is down: the retry sends it to `x.org` again. -/
theorem accepted_twice : ¬ AtMostOnce .sample (sampleRow "a@x.org b@y.org") := by
  intro once
  have bounded := once
    [interruptedAttempt .sample (ascii "x.org", [ascii "a@x.org"]) 0,
      interruptedAttempt .sample (ascii "x.org", [ascii "a@x.org"]) (60 * second)] (ascii "a@x.org")
  revert bounded
  decide

end Attempts

end ElvishMail.Mailworker
