import ElvishMail.Httpserver.InactivityWindow
import ElvishMail.Mailops.Sweeping
import Mathlib.Order.MinMax

/-!
# Whom a sweep deletes

A sweep goes by the lists that it has read. What a user does between the list and the purge
of the account is not looked at, so an account is deleted although its owner has cancelled
the deletion or come back. As long as no such user waits to be purged, and no window ends
beyond the times that a `Time` can hold, every purge is right when it begins.
-/

namespace ElvishMail.Httpserver.Deletion

open Go Smtp Mailmeta Mailstore Mailops Semantics

/-- A purge is right when it begins: the user is due, has not cancelled the deletion, and was
not active on the day of the sweep or later. -/
structure Purge.Justified (lib : Library) (purge : Purge) : Prop where
  due : purge.row.Due lib purge.now
  kept : purge.standing.cancelled = false
  away : ∀ time ∈ purge.standing.activeAt, activityDay time < activityDay purge.now

/-- Every purge that has begun was right. -/
def Server.Spares (lib : Library) (server : Server) : Prop :=
  ∀ purge ∈ server.purges, purge.Justified lib

/-- A sweep that goes by this time has listed the user and not begun the purge. -/
def Server.Awaits (server : Server) (userID : Nat) (now : Time) : Prop :=
  ∃ index thread marks, server.threads index = some thread ∧ thread.marks = some marks ∧
    userID ∈ marks.waiting ∧ marks.now = now

/-- An update leaves its user with a window that fits, does not store an activity before the last
one, and leaves whom a sweep has listed due: it is no cancellation, and no activity on the day
of the sweep or later. -/
structure Server.Allows (lib : Library) (server : Server) (userID : Nat) (change : Update) : Prop where
  fits : (change.onRow (server.population.lifecycle userID)).Fits lib
  forward : ∀ time, change = .lastActivity time →
    (server.population.lifecycle userID).lastActivityAt ≤ normalizeActivityDay time
  waiting : ∀ now, server.Awaits userID now →
    (change.onRow (server.population.lifecycle userID)).Due lib now ∧ change ≠ .cancelDeletion ∧
      ∀ time, change = .lastActivity time → activityDay time < activityDay now

/-- Updates are allowed, and a sweep lists no user for the one reason whom the other should
spare: for a scheduled deletion, nobody who was active on its day or later; for inactivity,
nobody who has cancelled a deletion. -/
def Server.Harmless (lib : Library) (server : Server) (outcome : Outcome GoError) : Query → Prop
  | .update userID change => outcome.applied = true →
      server.population.premises.users.contains userID = true → server.Allows lib userID change
  | .selectDueScheduled now limit =>
    ∀ userID ∈ server.population.listUsersDueForScheduledDeletion now limit,
      activityDay (server.population.lifecycle userID).lastActivityAt < activityDay now
  | .selectDueInactive now limit =>
    ∀ userID ∈ server.population.listUsersDueForInactivityDeletion lib now limit,
      (server.standing userID).cancelled = false
  | _ => True

/-- The next statement of the call does no harm. -/
def Server.Undisturbed (lib : Library) (server : Server) : Event → Prop
  | .begin .. => True
  | .advance index outcome => ∀ query, server.asks index = some query → server.Harmless lib outcome query

section Reasons

variable {lib : Library} {row : Lifecycle} {now time : Time}

theorem activityDay_le (stored : normalizeActivityDay time ≤ row.lastActivityAt) :
    activityDay time ≤ activityDay row.lastActivityAt :=
  Int.le_ediv_of_mul_le (by decide) stored

theorem listed_scheduled {population : Population} {limit : Int} {userID : Nat}
    (listed : userID ∈ population.listUsersDueForScheduledDeletion now limit) :
    (population.lifecycle userID).dueScheduled now = true := by
  obtain ⟨row, member, rfl⟩ := List.mem_map.mp listed
  have sorted := List.mem_of_mem_take member
  rw [List.mem_insertionSort, List.mem_filter] at sorted
  obtain ⟨there, due⟩ := sorted
  obtain ⟨userID, -, rfl⟩ := List.mem_map.mp there
  exact due

theorem listed_inactive {population : Population} {limit : Int} {userID : Nat}
    (listed : userID ∈ population.listUsersDueForInactivityDeletion lib now limit) :
    userID ∈ population.premises.users ∧ (population.lifecycle userID).dueInactive lib now = true := by
  obtain ⟨row, member, rfl⟩ := List.mem_map.mp listed
  obtain ⟨taken, due⟩ := List.mem_filter.mp member
  have sorted := List.mem_of_mem_take taken
  rw [List.mem_insertionSort, List.mem_filter] at sorted
  obtain ⟨userID, there, rfl⟩ := List.mem_map.mp sorted.1
  exact ⟨there, due⟩

end Reasons

def Marks.May (marks : Marks) : Query → Prop
  | .purge userID .listUserOwnedAddresses => ∃ rest, marks.waiting = userID :: rest
  | .selectDueScheduled now _ | .selectDueInactive now _ => now = marks.now
  | .update .. => False
  | _ => True

def sweepProtocol : Protocol Query Query.Answer Marks where
  May := Marks.May
  advance := Marks.advance

section Programs

variable {backends : Backends} {userID : Nat}

abbrev Later (statement : PurgeStatement) : Prop := statement ≠ .listUserOwnedAddresses

theorem deleteBlobIfPresent_later (key : GoString) : (deleteBlobIfPresent backends key).Only Later := by
  unfold deleteBlobIfPresent
  split
  · trivial
  · split
    · trivial
    · refine ⟨nofun, fun reply => ?_⟩
      rcases reply with _ | _ | _ <;> trivial

theorem deleteMessage_later (row : IngestLedger) : (deleteMessage backends userID row).Only Later := by
  refine (deleteBlobIfPresent_later _).check ⟨nofun, fun reply => ?_⟩
  rcases reply with _ | _ | mf
  · trivial
  · trivial
  · dsimp only
    split
    · trivial
    · exact Program.Only.check ⟨nofun, fun _ => trivial⟩ ⟨nofun, fun _ => trivial⟩

theorem deleteUserMailboxData_later (folders : Except GoError (List GoString))
    (rows : List IngestLedger) : (deleteUserMailboxData backends userID folders rows).Only Later := by
  unfold deleteUserMailboxData
  split
  · trivial
  have partition (folder : GoString) : Program.Only Later (.ask (.deleteMailboxPartition folder)
      .done : PurgeStatements (Option GoError)) := ⟨nofun, fun _ => trivial⟩
  refine Program.Only.check (Program.Only.forEach deleteMessage_later rows) ?_
  split
  · trivial
  · exact Program.Only.check ⟨nofun, fun _ => trivial⟩
      (Program.Only.check ⟨nofun, fun _ => trivial⟩
        (Program.Only.check ⟨nofun, fun _ => trivial⟩
          (Program.Only.forEach partition _)))

theorem deleteUserRow_later : (deleteUserRow backends).Only Later := by
  have own : Later .deleteUser := fun same => by cases same
  unfold deleteUserRow
  dsimp only
  split
  · refine Program.Only.check ⟨fun same => (by cases same), fun _ => trivial⟩ ⟨own, fun reply => ?_⟩
    rcases reply with _ | _ | _ <;> trivial
  · refine ⟨own, fun reply => ?_⟩
    rcases reply with _ | _ | _ <;> trivial

theorem deleteDomain_later (domain : GoString) : (deleteDomain domain).Only Later := by
  refine ⟨nofun, fun reply => ?_⟩
  rcases reply with _ | _ | _ <;> trivial

theorem purgeMail_later (folders : Except GoError (List GoString)) :
    (purgeMail backends userID folders).Only Later := by
  have finish (rows : List IngestLedger) : Program.Only Later
      (.check (deleteUserMailboxData backends userID folders rows) (deleteUserRow backends)) :=
    (deleteUserMailboxData_later folders rows).check deleteUserRow_later
  unfold purgeMail
  dsimp only
  split
  · exact finish []
  refine ⟨nofun, fun reply => ?_⟩
  cases reply with
  | error err => trivial
  | ok ingestRows =>
  refine ⟨nofun, fun reply => ?_⟩
  cases reply with
  | error err => trivial
  | ok outboxRows =>
  refine Program.Only.check (Program.Only.forEach (fun _ => deleteBlobIfPresent_later _) outboxRows) ?_
  refine ⟨nofun, fun reply => ?_⟩
  cases reply with
  | error err => trivial
  | ok domains =>
    exact Program.Only.check (Program.Only.forEach deleteDomain_later domains) (finish ingestRows)

theorem deleteUserProtectedLinks_later : (deleteUserProtectedLinks backends).Only Later := by
  unfold deleteUserProtectedLinks
  split
  · trivial
  refine ⟨nofun, fun reply => ?_⟩
  cases reply with
  | error err => trivial
  | ok rows =>
    refine Program.Only.forEach (fun row => ?_) rows
    exact (deleteBlobIfPresent_later _).check ⟨nofun, fun _ => trivial⟩

theorem purge_follows {marks : Marks} {rest : List Nat} (folders : Except GoError (List GoString))
    (next : marks.waiting = userID :: rest) :
    ((purgeUserAccount backends userID folders).embed (Query.purge userID)).Follows sweepProtocol
      marks fun _ after => after = { marks with waiting := rest } := by
  rw [Program.follows_embed]
  refine ⟨⟨rest, next⟩, fun reply => ?_⟩
  have taken : (Program.narrowed sweepProtocol (Query.purge userID)).advance marks
      .listUserOwnedAddresses reply = { marks with waiting := rest } := by
    simp [Program.narrowed, sweepProtocol, Marks.advance, next]
  rw [taken]
  cases reply with
  | some err => rfl
  | none =>
    have later : Program.Only Later (.check (.ask .listUserOwnedDomains .done)
        (.check (.ask .reserveDeletedAddresses .done)
          (.check (deleteUserProtectedLinks backends) (purgeMail backends userID folders)))) :=
      Program.Only.check ⟨fun same => (by cases same), fun _ => trivial⟩
        (Program.Only.check ⟨fun same => (by cases same), fun _ => trivial⟩
          (deleteUserProtectedLinks_later.check (purgeMail_later folders)))
    refine later.follows fun statement other => ?_
    cases statement <;> first | exact absurd rfl other | exact ⟨trivial, fun _ => rfl⟩

theorem purgeEach_follows {folders : Nat → Except GoError (List GoString)}
    {next : Queries (Option GoError)} {marks : Marks}
    (follows : next.Follows sweepProtocol { marks with waiting := [] } fun _ _ => True) :
    (purgeEach backends folders next marks.waiting).Follows sweepProtocol marks fun _ _ => True := by
  obtain ⟨now, seen, waiting⟩ := marks
  dsimp only at follows ⊢
  induction waiting with
  | nil => exact follows
  | cons userID rest ih =>
    rw [purgeEach, Program.follows_bind]
    apply (purge_follows (folders userID) rfl).weaken
    rintro err after rfl
    exact ih

theorem sweep_follows (folders : Nat → Except GoError (List GoString)) (limit : Int) (now : Time) :
    ((Call.sweep folders limit now).program backends).Follows sweepProtocol { now } fun _ _ => True := by
  rw [Call.program, Program.follows_bind]
  refine ⟨rfl, fun reply => ?_⟩
  cases reply with
  | error err => trivial
  | ok scheduled =>
    refine Program.Follows.weaken (@purgeEach_follows _ _ _ ⟨now, scheduled, scheduled⟩
      ⟨rfl, fun reply => ?_⟩) fun _ _ _ => trivial
    cases reply with
    | error err => trivial
    | ok inactive =>
      refine @purgeEach_follows _ _ _ ⟨now, scheduled, inactive.filter (· ∉ scheduled)⟩ ?_
      exact ⟨trivial, fun reply => trivial⟩

end Programs

/-- The purge that would begin if the sweep came to a user now. -/
def Server.purge (server : Server) (userID : Nat) (now : Time) : Purge :=
  ⟨userID, now, server.population.lifecycle userID, server.standing userID⟩

/-- What is kept of the users is right, their windows fit, sweeps keep to their protocol and
may purge whoever they have listed, and the purges were right. -/
structure Watched (lib : Library) (server : Server) : Prop where
  fits : server.population.Fits lib
  cancelled : ∀ userID, (server.standing userID).cancelled = true →
    (server.population.lifecycle userID).scheduledDeleteAt = none
  active : ∀ userID, ∀ time ∈ (server.standing userID).activeAt,
    normalizeActivityDay time ≤ (server.population.lifecycle userID).lastActivityAt
  sweeping : ∀ {index thread marks}, server.threads index = some thread → thread.marks = some marks →
    thread.program.Follows sweepProtocol marks (fun _ _ => True) ∧
      ∀ userID ∈ marks.waiting, (server.purge userID marks.now).Justified lib
  spares : server.Spares lib

namespace Watched

variable {backends : Backends} {lib : Library} {server after : Server} {index : Nat}
  {outcome : Outcome GoError} {thread : Thread} {query : Query} {next : query.Answer → Queries Result}
  {userID : Nat} {now : Time}

theorem scheduled (watched : Watched lib server) {limit : Int}
    (listed : userID ∈ server.population.listUsersDueForScheduledDeletion now limit)
    (away : activityDay (server.population.lifecycle userID).lastActivityAt < activityDay now) :
    (server.purge userID now).Justified lib := by
  have due := listed_scheduled listed
  refine ⟨.inl due, Bool.eq_false_iff.mpr fun cancelled => ?_, fun time known =>
    Int.lt_of_le_of_lt (activityDay_le (watched.active userID time known)) away⟩
  rw [Lifecycle.dueScheduled, watched.cancelled userID cancelled] at due
  cases due

theorem inactive (watched : Watched lib server) {limit : Int}
    (listed : userID ∈ server.population.listUsersDueForInactivityDeletion lib now limit)
    (kept : (server.standing userID).cancelled = false) :
    (server.purge userID now).Justified lib := by
  obtain ⟨member, due⟩ := listed_inactive listed
  refine ⟨.inr due, kept, fun time known => ?_⟩
  by_contra used
  have used : activityDay now ≤ activityDay time := Int.not_lt.mp used
  have last := activityDay_le (watched.active userID time known)
  rw [(watched.fits userID member).not_due (Int.le_trans used last)] at due
  cases due

theorem answer_cases (lib : Library) (outcome : Outcome GoError) (query : Query) (server : Server) :
    (query.answer lib outcome server.population).2.lifecycle = server.population.lifecycle ∧
        server.noted outcome query = server.standing ∨
      ∃ userID change, query = .update userID change ∧ outcome.applied = true ∧
        server.population.premises.users.contains userID = true ∧
        (query.answer lib outcome server.population).2.lifecycle =
          Function.update server.population.lifecycle userID
            (change.onRow (server.population.lifecycle userID)) ∧
        server.noted outcome query =
          Function.update server.standing userID (change.note (server.standing userID)) := by
  cases query with
  | update userID change =>
    simp only [Query.answer, Outcome.exec, Server.noted]
    cases exists? : server.population.premises.users.contains userID with
    | false => exact .inl ⟨rfl, if_neg (by simp)⟩
    | true =>
      cases applied : outcome.applied with
      | false => exact .inl ⟨rfl, rfl⟩
      | true => exact .inr ⟨userID, change, rfl, rfl, exists?, rfl, rfl⟩
  | _ => exact .inl ⟨rfl, rfl⟩

theorem note_right {row : Lifecycle} {standing : Standing} (change : Update)
    (cancelled : standing.cancelled = true → row.scheduledDeleteAt = none)
    (active : ∀ time ∈ standing.activeAt, normalizeActivityDay time ≤ row.lastActivityAt)
    (forward : ∀ time, change = .lastActivity time → row.lastActivityAt ≤ normalizeActivityDay time) :
    ((change.note standing).cancelled = true → (change.onRow row).scheduledDeleteAt = none) ∧
      ∀ time ∈ (change.note standing).activeAt,
        normalizeActivityDay time ≤ (change.onRow row).lastActivityAt := by
  cases change with
  | cancelDeletion => exact ⟨fun _ => rfl, active⟩
  | scheduleDeletion deleteAt reason => exact ⟨nofun, active⟩
  | setInactivity value unit => exact ⟨cancelled, active⟩
  | lastActivity time =>
    refine ⟨cancelled, fun latest member => ?_⟩
    cases member
    cases before : standing.activeAt with
    | none => exact le_of_eq (by rw [Option.getD_none, max_self]; rfl)
    | some earlier =>
      rcases max_choice time earlier with same | same
      · exact le_of_eq (by rw [Option.getD_some, same]; rfl)
      · rw [Option.getD_some, same]
        exact Int.le_trans (active earlier before) (forward time rfl)

theorem note_justified {purge : Purge} {change : Update} (justified : purge.Justified lib)
    (due : (change.onRow purge.row).Due lib purge.now) (kept : change ≠ .cancelDeletion)
    (away : ∀ time, change = .lastActivity time → activityDay time < activityDay purge.now) :
    Purge.Justified lib ⟨purge.userID, purge.now, change.onRow purge.row, change.note purge.standing⟩ := by
  refine ⟨due, ?_, ?_⟩
  · cases change with
    | cancelDeletion => exact absurd rfl kept
    | scheduleDeletion deleteAt reason => rfl
    | setInactivity value unit => exact justified.kept
    | lastActivity time => exact justified.kept
  · cases change with
    | lastActivity time =>
      intro latest member
      cases member
      have now := away time rfl
      cases before : purge.standing.activeAt with
      | none => rwa [Option.getD_none, max_self]
      | some earlier =>
        rcases max_choice time earlier with same | same
        · rwa [Option.getD_some, same]
        · rw [Option.getD_some, same]
          exact justified.away earlier before
    | _ => exact justified.away

theorem users_answer (outcome : Outcome GoError) (query : Query) (population : Population) :
    (query.answer lib outcome population).2.premises.users ⊆ population.premises.users := by
  cases query with
  | purge userID statement =>
    change (statement.answer userID outcome population.premises).2.users ⊆ population.premises.users
    cases statement with
    | deleteUser =>
      rw [PurgeStatement.answer, PurgeStatement.remove_snd]
      split
      · exact fun other member => List.mem_of_mem_filter member
      · exact fun other member => member
    | deleteOwnedDomain | deleteBlob =>
      rw [PurgeStatement.answer, PurgeStatement.remove_snd]
      split <;> exact fun other member => member
    | _ =>
      simp only [PurgeStatement.answer, Outcome.exec]
      try split
      all_goals exact fun other member => member
  | update userID change =>
    dsimp only [Query.answer]
    split <;> exact fun other member => member
  | _ => exact fun other member => member

theorem launched {population : Population} (fits : population.Fits lib) :
    Watched lib (.launched population) where
  fits := fits
  cancelled := nofun
  active := nofun
  sweeping := nofun
  spares := nofun

theorem begin (watched : Watched lib server) (call : Call) :
    Watched lib { server with
      threads := Function.update server.threads index (some ⟨call.marks, call.program backends⟩) } := by
  refine ⟨watched.fits, watched.cancelled, watched.active, ?_, watched.spares⟩
  intro other thread marks there noted
  by_cases same : other = index
  · subst same
    cases (Function.update_self ..).symm.trans there
    cases call with
    | sweep folders limit now =>
      cases noted
      exact ⟨sweep_follows folders limit now, nofun⟩
    | _ => cases noted
  · exact watched.sweeping ((Function.update_of_ne same ..).symm.trans there) noted

theorem advance_waiting (watched : Watched lib server) {marks : Marks} (may : marks.May query)
    (harmless : server.Harmless lib outcome query)
    (stays : ∀ userID ∈ marks.waiting, (server.purge userID marks.now).Justified lib) :
    ∀ userID ∈ (marks.advance query (query.answer lib outcome server.population).1).waiting,
      (server.purge userID (marks.advance query (query.answer lib outcome server.population).1).now).Justified
        lib := by
  cases query with
  | selectDueScheduled now limit =>
    cases may
    rcases Outcome.read_cases outcome (server.population.listUsersDueForScheduledDeletion marks.now limit)
      with same | ⟨err, same⟩
    · rw [Query.answer, same]
      exact fun userID listed => watched.scheduled listed (harmless userID listed)
    · rw [Query.answer, same]
      exact stays
  | selectDueInactive now limit =>
    cases may
    rcases Outcome.read_cases outcome
      (server.population.listUsersDueForInactivityDeletion lib marks.now limit) with same | ⟨err, same⟩
    · rw [Query.answer, same]
      intro userID listed
      have listed := List.mem_of_mem_filter listed
      exact watched.inactive listed (harmless userID listed)
    · rw [Query.answer, same]
      exact stays
  | purge userID statement =>
    cases statement with
    | listUserOwnedAddresses => exact fun userID member => stays userID (List.mem_of_mem_tail member)
    | _ => exact stays
  | update userID change => exact may.elim
  | _ => exact stays

theorem begins_justified (watched : Watched lib server) (found : server.threads index = some thread)
    (asking : thread.program = .ask query next) :
    ∀ purge ∈ server.begins thread query, purge.Justified lib := by
  unfold Server.begins
  split
  next userID =>
    cases noted : thread.marks with
    | none => nofun
    | some marks =>
      obtain ⟨follows, waiting⟩ := watched.sweeping found noted
      rw [asking] at follows
      obtain ⟨⟨rest, first⟩, -⟩ := follows
      dsimp only
      split
      · intro purge member
        cases List.mem_singleton.mp member
        exact waiting userID (first ▸ List.mem_cons_self)
      · nofun
  next => nofun

/-- Whoever waits to be purged may still be purged after the next statement. -/
theorem stays (watched : Watched lib server) (harmless : server.Harmless lib outcome query)
    {other : Nat} {waiting : Thread} {marks : Marks} (there : server.threads other = some waiting)
    (noted : waiting.marks = some marks) : ∀ userID ∈ marks.waiting,
      Purge.Justified lib ⟨userID, marks.now,
        (query.answer lib outcome server.population).2.lifecycle userID,
        server.noted outcome query userID⟩ := by
  intro userID member
  have before := (watched.sweeping there noted).2 userID member
  rcases answer_cases lib outcome query server with
    ⟨same, unnoted⟩ | ⟨owner, change, rfl, applied, present, same, changed⟩
  · rw [same, unnoted]
    exact before
  · rw [same, changed]
    by_cases own : userID = owner
    · subst own
      obtain ⟨due, kept, away⟩ :=
        (harmless applied present).waiting marks.now ⟨other, waiting, marks, there, noted, member, rfl⟩
      rw [Function.update_self, Function.update_self]
      exact note_justified before due kept away
    · rw [Function.update_of_ne own, Function.update_of_ne own]
      exact before

theorem execute (watched : Watched backends.lib server) (found : server.threads index = some thread)
    (asking : thread.program = .ask query next)
    (harmless : server.Harmless backends.lib outcome query) :
    Watched backends.lib (server.execute backends index thread outcome query next) := by
  have right (userID : Nat) : ((server.noted outcome query userID).cancelled = true →
        ((query.answer backends.lib outcome server.population).2.lifecycle userID).scheduledDeleteAt = none) ∧
      ∀ time ∈ (server.noted outcome query userID).activeAt, normalizeActivityDay time ≤
        ((query.answer backends.lib outcome server.population).2.lifecycle userID).lastActivityAt := by
    rcases answer_cases backends.lib outcome query server with
      ⟨same, noted⟩ | ⟨owner, change, rfl, applied, present, same, noted⟩
    · rw [same, noted]
      exact ⟨watched.cancelled userID, watched.active userID⟩
    · rw [same, noted]
      by_cases own : userID = owner
      · subst own
        rw [Function.update_self, Function.update_self]
        exact note_right change (watched.cancelled userID) (watched.active userID)
          (harmless applied present).forward
      · rw [Function.update_of_ne own, Function.update_of_ne own]
        exact ⟨watched.cancelled userID, watched.active userID⟩
  have fits : (query.answer backends.lib outcome server.population).2.Fits backends.lib := by
    intro userID member
    have before := watched.fits userID (users_answer outcome query server.population member)
    rcases answer_cases backends.lib outcome query server with ⟨same, -⟩ |
      ⟨owner, change, rfl, applied, present, same, -⟩
    · rwa [same]
    · rw [same]
      by_cases own : userID = owner
      · subst own
        rw [Function.update_self]
        exact (harmless applied present).fits
      · rwa [Function.update_of_ne own]
  refine ⟨fits, fun userID => (right userID).1, fun userID => (right userID).2, ?_, ?_⟩
  · intro other waiting marks there noted
    by_cases same : other = index
    · subst same
      cases (Function.update_self ..).symm.trans there
      obtain ⟨prior, before, rfl⟩ := Option.map_eq_some_iff.mp noted
      obtain ⟨follows, awaits⟩ := watched.sweeping found before
      rw [asking] at follows
      refine ⟨follows.2 _, fun userID member => ?_⟩
      have justified := watched.advance_waiting follows.1 harmless awaits userID member
      -- a sweep asks for no update
      rcases answer_cases backends.lib outcome query server with ⟨same, unnoted⟩ | ⟨owner, change, rfl, -⟩
      · unfold Server.purge Server.execute
        dsimp only
        rw [same, unnoted]
        exact justified
      · exact follows.1.elim
    · have kept : server.threads other = some waiting :=
        (Function.update_of_ne same ..).symm.trans there
      exact ⟨(watched.sweeping kept noted).1, watched.stays harmless kept noted⟩
  · intro purge member
    rcases List.mem_append.mp member with old | fresh
    · exact watched.spares purge old
    · exact watched.begins_justified found asking purge fresh

theorem step {event : Event} (watched : Watched backends.lib server)
    (undisturbed : server.Undisturbed backends.lib event)
    (taken : server.step backends event = some after) : Watched backends.lib after := by
  cases event with
  | begin index call =>
    dsimp only [Server.step] at taken
    split at taken
    · cases taken
      exact watched.begin call
    · cases taken
  | advance index outcome =>
    dsimp only [Server.step] at taken
    split at taken
    · cases taken
    next thread found =>
    split at taken
    · cases taken
    next query next asking =>
      cases taken
      have asked : server.asks index = some query := by
        rw [Server.asks, found]
        exact congrArg Program.query? asking
      exact watched.execute found asking (undisturbed query asked)

end Watched

/-- As long as the windows fit, no listed user cancels or comes back before the purge begins,
and no list has such a user on it, every purge is right when it begins, in whatever order the
statements of sweeps and requests come and however they end. -/
theorem purges_spare (backends : Backends) (population : Population) (server : Server)
    (fits : population.Fits backends.lib)
    (runs : (deletions backends).Runs (Server.Undisturbed backends.lib) (.launched population) server) :
    server.Spares backends.lib := by
  have watched : Watched backends.lib server :=
    runs.invariant (Watched backends.lib) (.launched fits) fun watched undisturbed taken =>
      watched.step undisturbed taken
  exact watched.spares

def plainBackends : Backends := ⟨false, false, false, false, false, .plain⟩

/-- One user, whose deletion was scheduled for the first second of the clock. -/
def leavingPopulation : Population where
  premises := ⟨{}, [], [], [], [1], List.nodup_nil⟩
  lifecycle := fun _ => ⟨0, some second, ascii "user_requested", 0, []⟩

def sweepListed : List Event := [.begin 0 (.sweep (fun _ => .ok []) 100 day), .advance 0 .done]

def sweepBegun : List Event := [.begin 0 (.sweep (fun _ => .ok []) 100 day), .advance 0 .done,
   .advance 0 .done]

/-- The user is due when the purge begins. -/
theorem purges_spare_due :
    ((deletions plainBackends).after sweepBegun (.launched leavingPopulation)).Spares .plain ∧
      ((deletions plainBackends).after sweepBegun (.launched leavingPopulation)).purges.length = 1 := by
  have permits : (deletions plainBackends).Permits (Server.Undisturbed .plain) sweepBegun
      (.launched leavingPopulation) := by
    refine ⟨trivial, ?_, ?_, trivial⟩
    · rintro query ⟨⟩
      exact (by decide +kernel : ∀ userID ∈ leavingPopulation.listUsersDueForScheduledDeletion day 100,
        activityDay (leavingPopulation.lifecycle userID).lastActivityAt < activityDay day)
    · rintro query ⟨⟩
      trivial
  have fits : leavingPopulation.Fits .plain := fun _ _ => nofun
  exact ⟨purges_spare plainBackends leavingPopulation _ fits (Machine.after_runs sweepBegun permits),
    by decide⟩

def sweepCancelled : List Event :=
  sweepListed ++ [Event.begin 1 (.cancel 1), .advance 1 .done] ++ List.replicate 5 (Event.advance 0 .done)

/-- The request is answered with success, and the user is deleted. -/
theorem cancelled_user_deleted :
    ((deletions plainBackends).after sweepCancelled (.launched leavingPopulation)).returned 1 =
        some (.answered (.ok ())) ∧
      ((deletions plainBackends).after sweepCancelled
        (.launched leavingPopulation)).population.premises.users = [] ∧
      ¬∀ (backends : Backends) (population : Population) (server : Server),
        (deletions backends).Runs (fun _ _ => True) (.launched population) server →
          server.Spares backends.lib := by
  have run : ((deletions plainBackends).after sweepCancelled (.launched leavingPopulation)).returned 1 =
        some (.answered (.ok ())) ∧
      ((deletions plainBackends).after sweepCancelled
        (.launched leavingPopulation)).population.premises.users = [] ∧
      ((deletions plainBackends).after sweepCancelled (.launched leavingPopulation)).purges =
        [⟨1, day, ⟨0, none, [], 0, []⟩, ⟨true, none⟩⟩] := by
    unfold leavingPopulation
    rw [ascii_ofList]
    decide
  obtain ⟨answered, deleted, begun⟩ := run
  refine ⟨answered, deleted, fun spare => ?_⟩
  have spares := spare plainBackends leavingPopulation _
    (Machine.after_runs sweepCancelled (Machine.permits_of_forall (fun _ _ => trivial) _ _))
  cases (spares _ (begun ▸ List.mem_singleton_self _)).kept

end ElvishMail.Httpserver.Deletion
