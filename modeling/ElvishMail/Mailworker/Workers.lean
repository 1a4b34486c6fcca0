import Mathlib.Logic.Function.Basic
import ElvishMail.Mailworker.Acceptance
import ElvishMail.Semantics.Machine

/-!
# Workers sharing one outbox

Any number of mail workers, each going through `runOnce` again and again on one
outbox. A step is one statement or one transaction of one worker, or the part of
a delivery that touches no table; between two steps a worker may stall for any
time, and each step reads clocks of its own. A statement may fail, in which case
the worker goes on as `runOnce` and `deliver` do, and a worker may crash.

A worker claims a row from its lease to the mark that ends its delivery. Claims
are exclusive as long as no recovery resets a claimed row: `step_exclusive`.
-/

namespace ElvishMail.Mailworker

open Go Smtp Mailmeta Semantics

/-- Where a worker is in `runOnce`: before it, after the recovery, or with
statements of the current delivery and leased rows still ahead of it. -/
inductive Phase where
  | idle
  | recovered
  | busy (statements : List Statement) (queue : List OutboxRow)
deriving DecidableEq

def Phase.claims : Phase → List Nat
  | .busy statements queue =>
    (statements.filterMap Statement.marks).map Prod.fst ++ queue.map OutboxRow.id
  | _ => []

structure System where
  outbox : Table
  bounces : List Bounce
  phase : Nat → Phase

/-- One step of one worker, with the clock readings and the outcomes it meets. -/
inductive Action where
  | recover (worker : Nat) (clock now : Time) (ok : Bool)
  | lease (worker : Nat) (now : Time) (limit : Int) (scan : List OutboxRow) (ok : Bool)
  | deliver (worker : Nat) (material : Material) (net : Network) (order : MapOrder)
  | execute (worker : Nat) (now : Time) (ok : Bool)
  | finish (worker : Nat)
  | crash (worker : Nat)

namespace System

variable (system : System)

def enter (worker : Nat) (phase : Phase) : System :=
  { system with phase := Function.update system.phase worker phase }

/-- An `UPDATE` of the outbox. -/
def update (change : OutboxRow → OutboxRow) (keeps : ∀ row, (change row).id = row.id) : System :=
  { system with outbox := system.outbox.update change keeps }

def run (now : Time) (statement : Statement) : System :=
  { system.update (fun row => statement.onRow now row) (fun row => statement.onRow_id now row) with
    bounces := system.bounces ++ statement.bounce?.toList }

/-- What a step does. A lease reads the table in any order; a delivery that panics
takes its worker down. -/
def step (cfg : Config) : Action → Option System
  | .recover worker clock now ok =>
    match system.phase worker with
    | .idle =>
      let cutoff := recoveryCutoff clock recoverAfter
      let recovered :=
        if ok then system.update (·.recover now cutoff) (OutboxRow.recover_id now cutoff)
        else system
      some (recovered.enter worker .recovered)
    | _ => none
  | .lease worker now limit scan ok =>
    match system.phase worker with
    | .recovered =>
      if scan.isPerm system.outbox.rows then
        let leased := leasePendingOutbox now limit scan
        let ids := leased.map OutboxRow.id
        if ok then
          some ((system.update (·.lease now ids) (OutboxRow.lease_id now ids)).enter worker
            (.busy [] leased))
        else some (system.enter worker .idle)
      else none
    | _ => none
  | .deliver worker material net order =>
    match system.phase worker with
    | .busy [] (row :: queue) =>
      match prepare cfg.lib material row with
      | .crashed => some (system.enter worker .idle)
      | _ =>
        some (system.enter worker
          (.busy (Mailworker.deliver cfg material net order row).statements queue))
    | _ => none
  | .execute worker now ok =>
    match system.phase worker with
    | .busy (statement :: rest) queue =>
      some ((if ok then system.run now statement else system).enter worker (.busy rest queue))
    | _ => none
  | .finish worker =>
    match system.phase worker with
    | .busy [] [] => some (system.enter worker .idle)
    | _ => none
  | .crash worker => some (system.enter worker .idle)

end System

def workers (cfg : Config) : Machine System Action := ⟨fun system => system.step cfg⟩

/-- Claims are exclusive, and a claimed row is in `sending`. -/
structure Exclusive (system : System) : Prop where
  once : ∀ worker, (system.phase worker).claims.Nodup
  apart : ∀ worker other, worker ≠ other →
    ∀ id ∈ (system.phase worker).claims, id ∉ (system.phase other).claims
  leased : ∀ worker, ∀ row ∈ system.outbox.rows, row.id ∈ (system.phase worker).claims →
    row.status = .sending

/-- A recovery resets no row that a worker still claims. -/
def Careful (system : System) : Action → Prop
  | .recover _ clock _ ok => ok = true →
      ∀ row ∈ system.outbox.rows, row.stuck (recoveryCutoff clock recoverAfter) = true →
        ∀ worker, row.id ∉ (system.phase worker).claims
  | _ => True

section Exclusive

variable {cfg : Config} {system next : System} {action : Action} {worker : Nat} {phase : Phase}

@[simp] theorem enter_phase_self : (system.enter worker phase).phase worker = phase :=
  Function.update_self ..

theorem enter_phase_of_ne {other : Nat} (different : other ≠ worker) :
    (system.enter worker phase).phase other = system.phase other :=
  Function.update_of_ne different ..

theorem mem_claims_enter {holder id : Nat} (fewer : phase.claims.Sublist (system.phase worker).claims)
    (claimed : id ∈ ((system.enter worker phase).phase holder).claims) :
    id ∈ (system.phase holder).claims := by
  by_cases same : holder = worker
  · subst same
    rw [enter_phase_self] at claimed
    exact fewer.subset claimed
  · rw [enter_phase_of_ne same] at claimed
    exact claimed

theorem Exclusive.enter (exclusive : Exclusive system)
    (fewer : phase.claims.Sublist (system.phase worker).claims) :
    Exclusive (system.enter worker phase) where
  once holder := by
    by_cases same : holder = worker
    · subst same
      rw [enter_phase_self]
      exact (exclusive.once holder).sublist fewer
    · rw [enter_phase_of_ne same]
      exact exclusive.once holder
  apart holder other different id claimed claimedToo :=
    exclusive.apart holder other different id (mem_claims_enter fewer claimed)
      (mem_claims_enter fewer claimedToo)
  leased holder row member claimed :=
    exclusive.leased holder row member (mem_claims_enter fewer claimed)

theorem Exclusive.update (exclusive : Exclusive system) {change : OutboxRow → OutboxRow}
    {keeps : ∀ row, (change row).id = row.id}
    (kept : ∀ holder, ∀ row ∈ system.outbox.rows, row.id ∈ (system.phase holder).claims →
      (change row).status = .sending) :
    Exclusive (system.update change keeps) where
  once := exclusive.once
  apart := exclusive.apart
  leased holder row member claimed := by
    obtain ⟨old, oldMember, rfl⟩ := List.mem_map.mp member
    rw [keeps] at claimed
    exact kept holder old oldMember claimed

theorem deliver_marks (cfg : Config) (material : Material) (net : Network) (order : MapOrder)
    (row : OutboxRow) :
    (((Mailworker.deliver cfg material net order row).statements.filterMap Statement.marks).map
      Prod.fst).Sublist [row.id] := by
  have failing (addrs : List GoString) (err : GoError) :
      ((failDomain row addrs err).filterMap Statement.marks).map Prod.fst = [row.id] := by
    unfold failDomain permanentFailure
    split
    · rfl
    · split
      · have noMarks (bounces : List Bounce) :
            (bounces.map Statement.insertBounce).filterMap Statement.marks = [] := by
          induction bounces with
          | nil => rfl
          | cons bounce rest ih => exact ih
        rw [List.filterMap_append, noMarks]
        rfl
      · rfl
  have succeeding : ((recordSuccess material row).filterMap Statement.marks).map Prod.fst =
      [row.id] := by
    unfold recordSuccess
    split
    · split <;> rfl
    · rfl
  unfold Mailworker.deliver
  split
  · exact List.nil_sublist _
  · exact List.Sublist.refl _
  · split
    · rw [failing]
    · rw [succeeding]

theorem claims_deliver {row : OutboxRow} {queue : List OutboxRow} (material : Material)
    (net : Network) (order : MapOrder) :
    (Phase.busy (Mailworker.deliver cfg material net order row).statements queue).claims.Sublist
      (Phase.busy [] (row :: queue)).claims := by
  have marked := deliver_marks cfg material net order row
  exact (marked.append_right (queue.map OutboxRow.id))

theorem Exclusive.lease (exclusive : Exclusive system) (free : (system.phase worker).claims = [])
    {now : Time} {limit : Int} {scan : List OutboxRow} (permuted : scan.Perm system.outbox.rows) :
    let leased := leasePendingOutbox now limit scan
    let ids := leased.map OutboxRow.id
    Exclusive ((system.update (·.lease now ids) (OutboxRow.lease_id now ids)).enter worker
      (.busy [] leased)) := by
  intro leased ids
  have claimsEq : (Phase.busy [] leased).claims = ids := rfl
  have pending {row : OutboxRow} (member : row ∈ system.outbox.rows) (among : row.id ∈ ids) :
      row.status = .pending := by
    obtain ⟨taken, takenMember, sameID⟩ := List.mem_map.mp among
    obtain ⟨scanned, isPending, -⟩ := mem_leasePendingOutbox takenMember
    rw [← Table.eq_of_id (permuted.mem_iff.mp scanned) member sameID]
    exact isPending
  have unclaimed {id : Nat} (among : id ∈ ids) (holder : Nat) :
      id ∉ (system.phase holder).claims := by
    intro claimed
    obtain ⟨taken, takenMember, rfl⟩ := List.mem_map.mp among
    obtain ⟨scanned, isPending, -⟩ := mem_leasePendingOutbox takenMember
    have sending := exclusive.leased holder taken (permuted.mem_iff.mp scanned) claimed
    rw [isPending] at sending
    cases sending
  constructor
  · intro holder
    by_cases same : holder = worker
    · subst same
      rw [enter_phase_self, claimsEq]
      exact nodup_leasePendingOutbox
        ((permuted.map OutboxRow.id).nodup_iff.mpr system.outbox.distinct)
    · rw [enter_phase_of_ne same]
      exact exclusive.once holder
  · intro holder other different id claimed claimedToo
    by_cases isHolder : holder = worker
    · subst isHolder
      rw [enter_phase_self, claimsEq] at claimed
      rw [enter_phase_of_ne (Ne.symm different)] at claimedToo
      exact unclaimed claimed other claimedToo
    · rw [enter_phase_of_ne isHolder] at claimed
      by_cases isOther : other = worker
      · subst isOther
        rw [enter_phase_self, claimsEq] at claimedToo
        exact unclaimed claimedToo holder claimed
      · rw [enter_phase_of_ne isOther] at claimedToo
        exact exclusive.apart holder other different id claimed claimedToo
  · intro holder row member claimed
    obtain ⟨old, oldMember, rfl⟩ := List.mem_map.mp member
    rw [OutboxRow.lease_id] at claimed
    by_cases same : holder = worker
    · subst same
      rw [enter_phase_self, claimsEq] at claimed
      rw [OutboxRow.lease, if_pos ⟨claimed, pending oldMember claimed⟩]
    · rw [enter_phase_of_ne same] at claimed
      have sending := exclusive.leased holder old oldMember claimed
      rw [OutboxRow.lease, if_neg (by simp [sending])]
      exact sending

theorem Exclusive.run {statement : Statement} {rest : List Statement} {queue : List OutboxRow}
    (exclusive : Exclusive system) (at' : system.phase worker = .busy (statement :: rest) queue)
    (now : Time) : Exclusive ((system.run now statement).enter worker (.busy rest queue)) := by
  have claimsEq : (system.phase worker).claims =
      (statement.marks.map Prod.fst).toList ++ (Phase.busy rest queue).claims := by
    rw [at', Phase.claims, Phase.claims, List.filterMap_cons]
    cases statement.marks <;> rfl
  have fewer : (Phase.busy rest queue).claims.Sublist (system.phase worker).claims := by
    rw [claimsEq]
    exact List.sublist_append_right _ _
  have released := exclusive.enter fewer
  have updated : Exclusive ((system.enter worker (.busy rest queue)).update
      (fun row => statement.onRow now row) (fun row => statement.onRow_id now row)) := by
    refine released.update ?_
    intro holder row member claimed
    have sending := released.leased holder row member claimed
    rw [statement.onRow_status]
    cases marking : statement.marks with
    | none => exact sending
    | some mark =>
      obtain ⟨id, status⟩ := mark
      dsimp only
      rw [if_neg]
      · exact sending
      -- the marked row was claimed by this worker and by nobody else
      rintro rfl
      rw [marking] at claimsEq
      by_cases same : holder = worker
      · subst same
        rw [enter_phase_self] at claimed
        have once := exclusive.once holder
        rw [claimsEq] at once
        exact (List.nodup_cons.mp once).1 claimed
      · rw [enter_phase_of_ne same] at claimed
        refine exclusive.apart holder worker same row.id claimed ?_
        rw [claimsEq]
        exact List.mem_cons_self
  exact ⟨updated.once, updated.apart, updated.leased⟩

theorem step_cases (taken : system.step cfg action = some next) :
    (∃ worker clock now, action = .recover worker clock now true ∧
      next = (system.update (·.recover now (recoveryCutoff clock recoverAfter))
        (OutboxRow.recover_id now (recoveryCutoff clock recoverAfter))).enter worker .recovered) ∨
    (∃ worker now limit scan, (system.phase worker).claims = [] ∧
      scan.Perm system.outbox.rows ∧
      next = (system.update
        (·.lease now ((leasePendingOutbox now limit scan).map OutboxRow.id))
        (OutboxRow.lease_id now ((leasePendingOutbox now limit scan).map OutboxRow.id))).enter worker
          (.busy [] (leasePendingOutbox now limit scan))) ∨
    (∃ worker statement rest queue now, action = .execute worker now true ∧
      system.phase worker = .busy (statement :: rest) queue ∧
      next = (system.run now statement).enter worker (.busy rest queue)) ∨
    ∃ worker phase, phase.claims.Sublist (system.phase worker).claims ∧
      next = system.enter worker phase := by
  cases action with
  | recover worker clock now ok =>
    simp only [System.step] at taken
    split at taken
    · cases taken
      cases ok with
      | false => exact .inr (.inr (.inr ⟨worker, .recovered, List.nil_sublist _, rfl⟩))
      | true => exact .inl ⟨worker, clock, now, rfl, rfl⟩
    · cases taken
  | lease worker now limit scan ok =>
    simp only [System.step] at taken
    split at taken
    · rename_i recovered
      split at taken
      · rename_i permuted
        cases ok with
        | false =>
          cases taken
          exact .inr (.inr (.inr ⟨worker, .idle, List.nil_sublist _, rfl⟩))
        | true =>
          cases taken
          refine .inr (.inl ⟨worker, now, limit, scan, ?_, List.isPerm_iff.mp permuted, rfl⟩)
          rw [recovered]
          rfl
      · cases taken
    · cases taken
  | deliver worker material net order =>
    simp only [System.step] at taken
    split at taken
    · rename_i row queue busy
      split at taken
      · cases taken
        exact .inr (.inr (.inr ⟨worker, .idle, List.nil_sublist _, rfl⟩))
      · cases taken
        refine .inr (.inr (.inr ⟨worker, _, ?_, rfl⟩))
        rw [busy]
        exact claims_deliver material net order
    · cases taken
  | execute worker now ok =>
    simp only [System.step] at taken
    split at taken
    · rename_i statement rest queue busy
      cases taken
      cases ok with
      | false =>
        refine .inr (.inr (.inr ⟨worker, .busy rest queue, ?_, rfl⟩))
        rw [busy, Phase.claims, Phase.claims]
        exact (((List.sublist_cons_self statement rest).filterMap _).map _).append_right _
      | true => exact .inr (.inr (.inl ⟨worker, statement, rest, queue, now, rfl, busy, rfl⟩))
    · cases taken
  | finish worker =>
    simp only [System.step] at taken
    split at taken
    · cases taken
      exact .inr (.inr (.inr ⟨worker, .idle, List.nil_sublist _, rfl⟩))
    · cases taken
  | crash worker =>
    cases taken
    exact .inr (.inr (.inr ⟨worker, .idle, List.nil_sublist _, rfl⟩))

theorem step_exclusive (exclusive : Exclusive system) (careful : Careful system action)
    (taken : system.step cfg action = some next) : Exclusive next := by
  rcases step_cases taken with ⟨worker, clock, now, rfl, rfl⟩ |
    ⟨worker, now, limit, scan, free, permuted, rfl⟩ | ⟨worker, statement, rest, queue, now, -, busy, rfl⟩ |
    ⟨worker, phase, fewer, rfl⟩
  · refine (exclusive.update ?_).enter (List.nil_sublist _)
    intro holder row member claimed
    have unstuck : ¬ row.stuck (recoveryCutoff clock recoverAfter) = true :=
      fun stuck => careful rfl row member stuck holder claimed
    rw [OutboxRow.recover, if_neg unstuck]
    exact exclusive.leased holder row member claimed
  · exact exclusive.lease free permuted
  · exact exclusive.run busy now
  · exact exclusive.enter fewer

theorem step_sent {id : Nat} (exclusive : Exclusive system)
    (taken : system.step cfg action = some next) (sent : system.outbox.statusOf id = some .sent) :
    next.outbox.statusOf id = some .sent := by
  rcases step_cases taken with ⟨worker, clock, now, -, rfl⟩ |
    ⟨worker, now, limit, scan, -, -, rfl⟩ | ⟨worker, statement, rest, queue, now, -, busy, rfl⟩ |
    ⟨worker, phase, -, rfl⟩
  · refine Table.statusOf_update (OutboxRow.recover_id now (recoveryCutoff clock recoverAfter)) sent ?_
    intro row member named isSent
    rw [OutboxRow.recover, if_neg (by simp [OutboxRow.stuck, isSent])]
    exact isSent
  · refine Table.statusOf_update
      (OutboxRow.lease_id now ((leasePendingOutbox now limit scan).map OutboxRow.id)) sent ?_
    intro row member named isSent
    rw [OutboxRow.lease, if_neg (by simp [isSent])]
    exact isSent
  · refine Table.statusOf_update (fun row => statement.onRow_id now row) sent ?_
    intro row member named isSent
    rw [statement.onRow_status]
    cases marking : statement.marks with
    | none => exact isSent
    | some mark =>
      obtain ⟨marked, status⟩ := mark
      dsimp only
      rw [if_neg]
      · exact isSent
      -- the worker claims the row it marks, and a claimed row is in `sending`
      rintro rfl
      have claimed : row.id ∈ (system.phase worker).claims := by
        rw [busy, Phase.claims, List.filterMap_cons, marking]
        exact List.mem_cons_self
      have sending := exclusive.leased worker row member claimed
      rw [isSent] at sending
      cases sending
  · exact sent

theorem exclusive_of_idle (idle : ∀ worker, system.phase worker = .idle) : Exclusive system where
  once worker := by
    rw [idle]
    exact List.nodup_nil
  apart worker other different id claimed := by
    rw [idle] at claimed
    cases claimed
  leased worker row member claimed := by
    rw [idle] at claimed
    cases claimed

/-- As long as no recovery resets a claimed row, no row is claimed twice, whichever workers take
their turns, and a claimed row is in `sending`. -/
theorem claims_exclusive {start reached : System} (idle : ∀ worker, start.phase worker = .idle)
    (runs : (workers cfg).Runs Careful start reached) : Exclusive reached :=
  runs.invariant Exclusive (exclusive_of_idle idle) fun exclusive careful taken =>
    step_exclusive exclusive careful taken

/-- In every run in which no recovery resets a row that some worker still claims, a
row that has become sent stays sent. -/
theorem sent_is_final {start reached later : System} {id : Nat}
    (idle : ∀ worker, start.phase worker = .idle)
    (before : (workers cfg).Runs Careful start reached)
    (after : (workers cfg).Runs Careful reached later)
    (sent : reached.outbox.statusOf id = some .sent) : later.outbox.statusOf id = some .sent := by
  have exclusive : Exclusive reached :=
    before.invariant Exclusive (exclusive_of_idle idle) fun exclusive careful taken =>
      step_exclusive exclusive careful taken
  exact after.stable Exclusive (fun system => system.outbox.statusOf id = some .sent) exclusive sent
    (fun exclusive careful taken => step_exclusive exclusive careful taken)
    (fun exclusive _ taken sent => step_sent exclusive taken sent)

end Exclusive

def sampleSystem : System where
  outbox := ⟨[sampleRow "a@x.org"], by decide⟩
  bounces := []
  phase _ := .idle

def leasedOnce : System :=
  (workers .sample).after [.recover 0 0 0 false, .lease 0 0 10 [sampleRow "a@x.org"] true] sampleSystem

theorem claims_exclusive_leased : (leasedOnce.phase 0).claims = [1] ∧ Exclusive leasedOnce :=
  ⟨by decide, claims_exclusive (fun _ => rfl) (Machine.after_runs _
    ⟨fun fails => Bool.noConfusion fails, trivial, trivial⟩)⟩

def sampleDelivery (worker : Nat) (now : Time) (row : OutboxRow) (host : Host) : List Action :=
  [.recover worker now now true, .lease worker now 10 [row] true,
    .deliver worker .sample (.single fun _ => host) .asBuilt]

/-- The first worker delivers the row and marks it. -/
def sampleSent : System :=
  (workers .sample).after
    (sampleDelivery 0 0 (sampleRow "a@x.org") accepting ++ [Action.execute 0 0 true]) sampleSystem

/-- One worker sends the row; another one looks for stuck rows an hour later. -/
theorem sent_is_final_sample :
    sampleSent.outbox.statusOf 1 = some .sent ∧
    ((workers .sample).after [.recover 1 (3600 * second) (3600 * second) true]
      sampleSent).outbox.statusOf 1 = some .sent := by
  have noneStuck {system : System} {worker : Nat} {clock now : Time}
      (fresh : ∀ row ∈ system.outbox.rows, row.status ≠ .sending) :
      Careful system (.recover worker clock now true) := by
    intro _ row member stuck
    simp [OutboxRow.stuck, fresh row member] at stuck
  have before : (workers .sample).Runs Careful sampleSystem sampleSent :=
    Machine.after_runs _ ⟨noneStuck (by decide), trivial, trivial, trivial, trivial⟩
  have after : (workers .sample).Runs Careful sampleSent
      ((workers .sample).after [.recover 1 (3600 * second) (3600 * second) true] sampleSent) :=
    Machine.after_runs _ ⟨noneStuck (by decide), trivial⟩
  have sent : sampleSent.outbox.statusOf 1 = some .sent := by decide
  exact ⟨sent, sent_is_final (fun _ => rfl) before after sent⟩

/-- The first worker stalls with a failed delivery; an hour later the second one
recovers the row, delivers it and marks it. -/
def sampleOvertaken : System :=
  (workers .sample).after
    (sampleDelivery 0 0 (sampleRow "a@x.org") unreachable ++
      sampleDelivery 1 (3600 * second) { sampleRow "a@x.org" with updatedAt := 3600 * second }
        accepting ++
      [Action.execute 1 (3600 * second) true]) sampleSystem

/-- The mark of the stalled worker takes the row out of `sent`. -/
theorem sent_reverts_to_pending :
    ∃ reached later, (workers .sample).Runs (fun _ _ => True) sampleSystem reached ∧
      (workers .sample).Runs (fun _ _ => True) reached later ∧
      reached.outbox.statusOf 1 = some .sent ∧ later.outbox.statusOf 1 = some .pending := by
  have always (actions : List Action) (system : System) :
      (workers .sample).Permits (fun _ _ => True) actions system :=
    Machine.permits_of_forall (fun _ _ => trivial) actions system
  refine ⟨sampleOvertaken, (workers .sample).after [.execute 0 (3601 * second) true] sampleOvertaken,
    Machine.after_runs _ (always _ _), Machine.after_runs _ (always _ _), ?_, ?_⟩
  · decide
  · decide

end ElvishMail.Mailworker
