import ElvishMail.Httpserver.CodeLedger

/-!
# Recovery codes over whole runs

Codes work once, count down and are gone once replaced in every run in which no transaction
commits codes of a user between the deletion and the end of another one. Two regenerations
that overlap leave both sets.
-/

namespace ElvishMail.Httpserver.Recovery

open Go Smtp Semantics

section Ledger

variable {lib : Library} {sha256 : GoString → GoString} {source : Nat → Nat} {server next : Server}
  {index : Nat}

theorem answer_rows {db : Database} (statement : Statement) (outcome : Outcome GoError) {row : CodeRow}
    (member : row ∈ (statement.answer outcome index db).2.rows) :
    (∃ before ∈ db.rows, row.id = before.id) ∨
      ∃ transaction, db.transactions index = some transaction ∧ row ∈ transaction.inserted := by
  have same : ∀ {rows}, row ∈ rows → rows = db.rows → ∃ before ∈ db.rows, row.id = before.id :=
    fun there equal => ⟨row, equal ▸ there, rfl⟩
  have within : ∀ change, (db.within outcome index change).2.rows = db.rows := by
    intro change
    unfold Database.within
    split
    · rfl
    · exact outcome.exec_holds (fun next : Database => next.rows = db.rows) rfl rfl
  cases statement with
  | begin =>
    simp only [Statement.answer] at member
    split at member <;> exact .inl (same member rfl)
  | delete userID => exact .inl (same member (within _))
  | insert userID codeHash =>
    simp only [Statement.answer] at member
    split at member
    · exact .inl (same member rfl)
    split at member
    · exact .inl (same member rfl)
    · exact .inl (same member (within _))
  | commit =>
    simp only [Statement.answer] at member
    split at member
    · exact .inl (same member rfl)
    next mine opened =>
      dsimp only at member
      split at member
      · rcases List.mem_append.mp member with old | new
        · exact .inl ⟨row, (List.mem_filter.mp old).1, rfl⟩
        · exact .inr ⟨mine, opened, new⟩
      · exact .inl (same member rfl)
  | rollback => exact .inl (same member rfl)
  | consume userID codeHash =>
    have used : ∀ row ∈ markUsed (userID, codeHash) db.rows, ∃ before ∈ db.rows, row.id = before.id := by
      intro row there
      obtain ⟨before, present, -, id, -⟩ := mem_markUsed there
      exact ⟨before, present, id⟩
    have either : ∀ row ∈ (outcome.exec (fun db : Database =>
        { db with rows := markUsed (userID, codeHash) db.rows }) db).2.rows,
        ∃ before ∈ db.rows, row.id = before.id :=
      outcome.exec_holds (fun next : Database => ∀ row ∈ next.rows, ∃ before ∈ db.rows, row.id = before.id)
        (fun row there => ⟨row, there, rfl⟩) used
    simp only [Statement.answer] at member
    split at member <;> exact .inl (either row member)

/-- Each open transaction has deleted all rows of the users it cleared. -/
def Marked (db : Database) : Prop :=
  ∀ index transaction, db.transactions index = some transaction → ∀ userID ∈ transaction.cleared,
    ∀ row ∈ db.rows, row.userID = userID → row.id ∈ transaction.deleted

theorem Marked.set {db : Database} (marked : Marked db) {transaction : Option Transaction}
    (own : ∀ mine, transaction = some mine → ∀ userID ∈ mine.cleared,
      ∀ row ∈ db.rows, row.userID = userID → row.id ∈ mine.deleted) :
    Marked (db.set index transaction) := by
  intro other elsewhere found userID cleared row member same
  by_cases here : other = index
  · subst here
    exact own elsewhere ((Database.set_self ..).symm.trans found) userID cleared row member same
  · exact marked other elsewhere ((Database.set_other _ here _).symm.trans found)
      userID cleared row member same

theorem Marked.within {db : Database} (marked : Marked db) (outcome : Outcome GoError)
    {change : Transaction → Transaction}
    (own : ∀ mine, db.transactions index = some mine → ∀ userID ∈ (change mine).cleared,
      ∀ row ∈ db.rows, row.userID = userID → row.id ∈ (change mine).deleted) :
    Marked (db.within outcome index change).2 := by
  unfold Database.within
  split
  · exact marked
  next mine opened =>
    refine outcome.exec_holds Marked marked (marked.set fun changed same => ?_)
    cases same
    exact own mine opened

theorem Marked.answer {db : Database} (marked : Marked db) (statement : Statement) (outcome : Outcome GoError)
    (alone : statement = .commit → ∀ transaction row, db.transactions index = some transaction →
      row ∈ transaction.inserted → ∀ other elsewhere, other ≠ index →
        db.transactions other = some elsewhere → row.userID ∉ elsewhere.cleared) :
    Marked (statement.answer outcome index db).2 := by
  cases statement with
  | begin =>
    simp only [Statement.answer]
    split
    · exact marked
    · refine marked.set fun mine same => ?_
      cases same
      exact fun _ none => nomatch none
  | delete userID =>
    refine marked.within outcome fun mine opened user cleared row member same => ?_
    rcases List.mem_cons.mp cleared with rfl | before
    · refine List.mem_append_right _ (List.mem_map_of_mem (List.mem_filter.mpr ⟨member, ?_⟩))
      exact decide_eq_true same
    · exact List.mem_append_left _ (marked index mine opened user before row member same)
  | insert userID codeHash =>
    simp only [Statement.answer]
    split
    · exact marked
    split
    · exact marked
    · exact marked.within outcome fun mine opened => marked index mine opened
  | commit =>
    simp only [Statement.answer]
    split
    · exact marked
    next mine opened =>
      intro other elsewhere found userID cleared row member same
      have different : other ≠ index := by
        rintro rfl
        cases (Database.set_self ..).symm.trans found
      have before : db.transactions other = some elsewhere :=
        (Database.set_other _ different _).symm.trans found
      dsimp only at member
      split at member
      · rcases List.mem_append.mp member with old | new
        · exact marked other elsewhere before userID cleared row (List.mem_filter.mp old).1 same
        · exact absurd (same ▸ cleared) (alone rfl mine row opened new other elsewhere different before)
      · exact marked other elsewhere before userID cleared row member same
  | rollback => exact marked.set fun _ none => nomatch none
  | consume userID codeHash =>
    have used : Marked { db with rows := markUsed (userID, codeHash) db.rows } := by
      intro other elsewhere found user cleared row member same
      obtain ⟨before, present, place, id, -⟩ := mem_markUsed member
      rw [id]
      exact marked other elsewhere found user cleared before present
        ((congrArg Prod.fst place).symm.trans same)
    have either : Marked (outcome.exec (fun db : Database =>
        { db with rows := markUsed (userID, codeHash) db.rows }) db).2 :=
      outcome.exec_holds Marked marked used
    simp only [Statement.answer]
    split <;> exact either

theorem insertCodes_asks (userID : Nat) (hashes : List GoString) (answer : Option StoreError) :
    insertCodes userID hashes ≠ .done answer := by
  rcases insertCodes_cases userID hashes with past | ⟨hash, rest, -, -, same⟩
  · rw [past]
    exact fun none => nomatch none
  · rw [same]
    exact fun none => nomatch none

theorem Sound.replaced (sound : Sound lib sha256 source server)
    (found : server.threads index = some thread) {statement : Statement}
    {onward : statement.Answer → Statements} (asking : thread.program = .ask statement onward)
    {outcome : Outcome GoError} {userID : Nat} {codes : List GoString}
    (call : thread.call = .regenerate userID codes)
    (success : onward (statement.answer outcome index server.db).1 = .done none) :
    ∃ transaction, server.db.transactions index = some transaction ∧ userID ∈ transaction.cleared ∧
      (server.execute index thread outcome statement onward).db.rows = transaction.commit server.db.rows := by
  have stage := sound.stage index thread found
  generalize opened : server.db.transactions index = transaction at stage
  cases stage with
  | verifies => cases call
  | begins =>
    cases asking
    cases outcome <;> cases success
  | clears =>
    cases asking
    generalize (Statement.answer outcome index _ server.db).1 = reply at success
    cases reply with
    | none => exact absurd success (insertCodes_asks _ _ _)
    | some err => cases success
  | @inserts userID codes rest transaction left cleared kept =>
    rcases insertCodes_cases userID rest with past | ⟨hash, later, -, -, onwards⟩
    · rw [past] at asking
      cases asking
      cases call
      refine ⟨transaction, rfl, cleared ▸ List.mem_singleton_self userID, ?_⟩
      simp only [Server.execute, Statement.answer, opened] at success ⊢
      cases outcome with
      | done => rfl
      | refused err => cases success
      | lost err => cases success
    · rw [onwards] at asking
      cases asking
      generalize (Statement.answer outcome index _ server.db).1 = reply at success
      cases reply with
      | none => exact absurd success (insertCodes_asks _ _ _)
      | some err => cases success
  | undoes =>
    cases asking
    cases success
  | ended => cases asking

/-- What follows a replacement: rows of the user are its own or come from calls that had not
returned. -/
structure Follows (lib : Library) (sha256 : GoString → GoString) (base final : Server)
    (index userID : Nat) : Prop where
  ended : ∀ other, base.Ended other → final.Ended other
  rows : ∀ row ∈ final.db.rows, row.userID = userID → row.storedBy = index ∨ ¬ base.Ended row.storedBy
  replaced : base.Replaced lib sha256 final index userID

theorem marked_step {event : Event} (marked : Marked server.db) (granted : Granted server event)
    (alone : Alone server event) (taken : (codeServer lib sha256).step server event = some next) :
    Marked next.db := by
  rcases step_cases granted taken with ⟨index, call, rfl, absent, rfl⟩ |
    ⟨index, outcome, thread, statement, onward, rfl, found, asking, -, rfl⟩
  · exact marked
  · refine marked.answer statement outcome ?_
    rintro rfl transaction row opened inserted other elsewhere different there
    exact alone thread onward transaction row found asking opened inserted other elsewhere different there

theorem Follows.step {base : Server} {replacer userID : Nat} (sound : Sound lib sha256 source server)
    (follows : Follows lib sha256 base server replacer userID) {event : Event}
    (granted : Granted server event)
    (taken : (codeServer lib sha256).step server event = some next) :
    Follows lib sha256 base next replacer userID := by
  rcases step_cases granted taken with ⟨index, call, rfl, absent, rfl⟩ |
    ⟨index, outcome, thread, statement, onward, rfl, found, asking, -, rfl⟩
  · have keeps : ∀ {other before}, server.threads other = some before →
        (server.begin lib sha256 index call).threads other = some before := by
      intro other before there
      have different : other ≠ index := by
        rintro rfl
        cases absent.symm.trans there
      exact (Function.update_of_ne different _ _).trans there
    refine ⟨fun other ended => ?_, follows.rows, fun verifier code after before => ?_⟩
    · obtain ⟨before, answer, there, returned⟩ := follows.ended other ended
      exact ⟨before, answer, keeps there, returned⟩
    · obtain ⟨thread, there, sameCall, returned⟩ := after
      by_cases here : verifier = index
      · subst here
        cases (Function.update_self ..).symm.trans there
        cases sameCall
        cases returned
      · obtain ⟨storer, ⟨elsewhere, codes, stored, found, stores⟩, which⟩ := follows.replaced verifier code
          ⟨thread, (Function.update_of_ne here _ _).symm.trans there, sameCall, returned⟩ before
        exact ⟨storer, ⟨elsewhere, codes, stored, keeps found, stores⟩, which⟩
  · have moves := execute_moves found asking outcome
    refine ⟨fun other ended => moves.ended (follows.ended other ended), fun row member same => ?_,
      fun verifier code after before => ?_⟩
    · rcases answer_rows statement outcome member with ⟨old, present, id⟩ | ⟨mine, opened, inserted⟩
      · obtain ⟨storedBy, user, -⟩ : row.storedBy = old.storedBy ∧ row.userID = old.userID ∧
            row.codeHash = old.codeHash := by
          simpa [CodeRow.id] using id
        rw [storedBy]
        exact follows.rows old present (user.symm.trans same)
      · -- The call that stores the row has not returned yet.
        refine .inr fun ended => ?_
        obtain ⟨earlier, answer, there, returned⟩ := follows.ended _ ended
        rw [((sound.pending index mine opened).2 row inserted).1] at there
        cases found.symm.trans there
        cases asking.symm.trans returned
    · rcases moves.succeeds after with earlier | ⟨rfl, call, success⟩
      · obtain ⟨storer, stores, which⟩ := follows.replaced verifier code earlier before
        exact ⟨storer, moves.stores stores, which⟩
      · obtain ⟨⟨row, present, place, -⟩, -⟩ := sound.verified found asking call success
        obtain ⟨user, hash⟩ := Prod.mk.inj place
        obtain ⟨storer, answer, there, returned, codes, stored, kept⟩ := sound.stored row present
        obtain ⟨original, among, equal⟩ := List.mem_map.mp (hash ▸ kept)
        refine ⟨row.storedBy, moves.stores ⟨storer, codes, original, there, user ▸ stored, among, equal⟩, ?_⟩
        exact follows.rows row present user

theorem Sound.follows (sound : Sound lib sha256 source server) (marked : Marked server.db) {event : Event}
    (granted : Granted server event) (taken : (codeServer lib sha256).step server event = some next)
    {userID : Nat} (replaces : Replaces server next index userID) :
    Follows lib sha256 next next index userID := by
  refine ⟨fun _ ended => ended, fun row member same => ?_, fun _ _ after before => absurd after before⟩
  obtain ⟨before, thread, codes, there, running, after, call, returned⟩ := replaces
  rcases step_cases granted taken with ⟨actor, newCall, rfl, absent, rfl⟩ |
    ⟨actor, outcome, moving, statement, onward, rfl, found, asking, -, rfl⟩
  · have different : index ≠ actor := by
      rintro rfl
      cases absent.symm.trans there
    cases there.symm.trans ((Function.update_of_ne different _ _).symm.trans after)
    exact absurd returned (running none)
  · have moves := execute_moves found asking outcome
    obtain rfl : index = actor := by
      by_contra different
      cases there.symm.trans ((moves.other different).symm.trans after)
      exact running none returned
    cases moves.self.symm.trans after
    obtain ⟨transaction, opened, cleared, rows⟩ := sound.replaced found asking call returned
    rw [rows, Transaction.commit] at member
    rcases List.mem_append.mp member with old | new
    · obtain ⟨present, unmarked⟩ := List.mem_filter.mp old
      exact absurd (marked index transaction opened userID cleared row present same) (by simpa using unmarked)
    · exact .inl ((sound.pending index transaction opened).2 row new).1

end Ledger

section Runs

variable {lib : Library} {sha256 : GoString → GoString} {server next : Server}

/-- In every run codes work once, count down when used, and do not work once replaced, as long
as no codes of a user are committed while another transaction has deleted those it found. -/
theorem codes_hold (lib : Library) (sha256 : GoString → GoString) :
    CodesHold lib sha256 fun server event => Granted server event ∧ Alone server event := by
  intro server runs
  obtain ⟨⟨source, sound⟩, marked⟩ :
      (∃ source, Sound lib sha256 source server) ∧ Marked server.db :=
    runs.invariant (fun server => (∃ source, Sound lib sha256 source server) ∧ Marked server.db)
      ⟨⟨id, start_sound lib sha256 id⟩, fun _ _ none => nomatch none⟩
      fun ⟨⟨_, sound⟩, marked⟩ may taken =>
        ⟨sound.step may.1 taken, marked_step marked may.1 may.2 taken⟩
  refine ⟨sound.worksOnce, fun event next may taken => ⟨sound.countsDown may.1 taken, ?_⟩⟩
  intro index userID final replaces later
  have follows : (∃ source, Sound lib sha256 source final) ∧ Follows lib sha256 next final index userID :=
    later.invariant (fun final => (∃ source, Sound lib sha256 source final) ∧
        Follows lib sha256 next final index userID)
      ⟨sound.step may.1 taken, sound.follows marked may.1 taken replaces⟩
      fun ⟨⟨_, sound⟩, follows⟩ may taken => ⟨sound.step may.1 taken, follows.step sound may.1 taken⟩
  exact follows.2.replaced

end Runs

def digest (value : Nat) : GoString := (List.range 32).map fun i => (value / 256 ^ (31 - i)).toUInt8

def sampleSHA256 (text : GoString) : GoString :=
  (([(ascii "AAAAAAAAAAAA", digest 0x0592cedeabbf836d8d1c7456417c7653ac208f71e904d3d0ab37faf711021aff),
    (ascii "AQEBAQEBAQEB", digest 0x6661f6b345905101552855667ffcbb34b4b0d9a1eae56afdb909eadb05bd0d47),
    (ascii "AGICAGICAGIC", digest 0x2ac1f64e08a21953eae56a7874b6aa1b76a919c8dbf393f078bf618dafb087cb),
    (ascii "AWMDAWMDAWMD", digest 0x545292e77c89e4750b7222c11c50ee75136c962488c0839d19b6f75622c3cd56),
    (ascii "BAQEBAQEBAQE", digest 0x1f209cba4f74a7e4a6e6318a9bd82370a47bdc5e3d9c9b5033fac93098b6acb6),
    (ascii "BQUFBQUFBQUF", digest 0x88489eff00a28bd4a7648ace88fdde53c50c76400b3d582232c8d2fb01739253),
    (ascii "BGYGBGYGBGYG", digest 0x80656e4ff7a67aee64da69199260396a488b6bfc0bcb67e8894d9b7b2f0c806d),
    (ascii "BWCHBWCHBWCH", digest 0xcab2c7f27402dc409d67b44e7dc3ac75ad03851ab0836207f686319092a14e1c),
    (ascii "CAGICAGICAGI", digest 0x13975dccb9000345b17ea3f629364b83e87a6a0e984847a186bb29b487dd122b),
    (ascii "CQKJCQKJCQKJ", digest 0x8bbb9873e8aa246dc149268f88f15bb9635ddc5759ba6901b3de558814cd2d19),
    (ascii "CGOKCGOKCGOK", digest 0xd6cb30f2b5e58bd7e57c53b5ed94514fc0b9cdc529fcb595ab3ac12483485af1),
    (ascii "CWSLCWSLCWSL", digest 0xc410662cae51a80fa39fbf8b6b6d974e8fdccda7861b707cdb79c0f73a3bffba),
    (ascii "DAWMDAWMDAWM", digest 0xb4ab1b357027bbeb80fb23b6d6bb4a67190729794ec3b23bc365d22ac705fbc7),
    (ascii "DQ0NDQ0NDQ0N", digest 0xca8089cc21ac5dcb426efffd217bc5f79e7b653306c765b49d532157a04232c5),
    (ascii "DG4ODG4ODG4O", digest 0xbfab460f65f32904825159e925fed990707fb33f8cd9e4b79ddabdc8a697eae9),
    (ascii "DW8PDW8PDW8P", digest 0x8cbccc0bcc834c17aa6fc8cb320d0a1d6349f889356ed07a756ad1a2e7ae3d52)].find?
      fun entry => entry.1 = text).map Prod.snd).getD []

def sampleCodes (first : Nat) : List GoString :=
  (List.range 8).map fun i => displayCode .plain (List.replicate 9 (first + i).toUInt8)

/-- The statements of two regenerations for one user up to the last one: the second begins
after the first has deleted, and returns before the first inserts. -/
def overlap : List Event :=
  [Event.begin 0 (.regenerate 1 (sampleCodes 0)), .advance 0 .done, .advance 0 .done,
    .begin 1 (.regenerate 1 (sampleCodes 8))] ++
    List.replicate 11 (Event.advance 1 .done) ++ List.replicate 8 (Event.advance 0 .done)

def useReplaced : List Event := [.begin 2 (.verify 1 (displayCode .plain (List.replicate 9 8))),
   .advance 2 .done]

def sampleServer : Machine Server Event := codeServer .plain sampleSHA256

def Server.summary (server : Server) (index : Nat) : Option (Call × Option (Option StoreError)) :=
  (server.threads index).map fun thread => (thread.call, match thread.program with
    | .done answer => some answer
    | .ask _ _ => none)

def Event.index : Event → Nat
  | .begin index _ | .advance index _ => index

/-- Whether the next statement of a call need not wait for one of the first connections. -/
def Server.grants (server : Server) (count index : Nat) : Bool :=
  match server.threads index with
  | none => true
  | some thread => match thread.program with
    | .done _ => true
    | .ask statement _ => (List.range count).all fun other => other = index ||
        (server.db.transactions other).all fun transaction => !transaction.blocks server.db.rows statement

/-- Whether no statement waits when events on the first connections happen in turn. -/
def grantsAll (count : Nat) : List Event → Server → Bool
  | [], _ => true
  | event :: rest, server => event.index < count && server.grants count event.index &&
      grantsAll count rest ((sampleServer.step server event).getD server)

/-- Nothing has happened on other than the first connections. -/
def Server.Idle (server : Server) (count : Nat) : Prop :=
  ∀ other, count ≤ other → server.threads other = none ∧ server.db.transactions other = none

section Example

variable {server next : Server} {count index : Nat}

theorem answer_other {db : Database} (statement : Statement) (outcome : Outcome GoError) {other : Nat}
    (different : other ≠ index) :
    (statement.answer outcome index db).2.transactions other = db.transactions other := by
  have within : ∀ change, (db.within outcome index change).2.transactions other = db.transactions other := by
    intro change
    unfold Database.within
    split
    · rfl
    · exact outcome.exec_holds (fun next : Database => next.transactions other = db.transactions other) rfl
        (Database.set_other _ different _)
  cases statement with
  | begin =>
    simp only [Statement.answer]
    split
    · rfl
    · exact Database.set_other _ different _
  | delete userID => exact within _
  | insert userID codeHash =>
    simp only [Statement.answer]
    split
    · rfl
    split
    · rfl
    · exact within _
  | commit =>
    simp only [Statement.answer]
    split
    · rfl
    · exact Database.set_other _ different _
  | rollback => exact Database.set_other _ different _
  | consume userID codeHash =>
    have kept : (outcome.exec (fun db : Database =>
        { db with rows := markUsed (userID, codeHash) db.rows }) db).2.transactions other =
          db.transactions other :=
      outcome.exec_holds (fun next : Database => next.transactions other = db.transactions other) rfl rfl
    simp only [Statement.answer]
    split <;> exact kept

theorem Server.Idle.step (idle : server.Idle count) {event : Event} (first : event.index < count)
    (taken : sampleServer.step server event = some next) : next.Idle count := by
  intro other beyond
  have different : other ≠ event.index := by omega
  obtain ⟨thread, transaction⟩ := idle other beyond
  simp only [sampleServer, codeServer, Server.step] at taken
  cases event with
  | begin index call =>
    dsimp only at taken
    split at taken
    · cases taken
      exact ⟨(Function.update_of_ne different _ _).trans thread, transaction⟩
    · cases taken
  | advance index outcome =>
    dsimp only at taken
    split at taken
    · cases taken
    split at taken
    · cases taken
    next statement onward _ =>
      cases taken
      exact ⟨(Function.update_of_ne different _ _).trans thread,
        (answer_other statement outcome different).trans transaction⟩

theorem Server.Idle.granted (idle : server.Idle count) {event : Event}
    (grants : server.grants count event.index = true) : Granted server event := by
  cases event with
  | begin index call => trivial
  | advance index outcome =>
    rintro thread statement onward found asking ⟨other, transaction, different, opened, blocked⟩
    have near : other < count := by
      by_contra beyond
      cases opened.symm.trans (idle other (by omega)).2
    simp only [Server.grants, Event.index, found, asking, List.all_eq_true, List.mem_range] at grants
    have free := grants other near
    simp only [opened, different, decide_false, Bool.false_or, Option.all_some, blocked,
      Bool.not_true] at free
    cases free

theorem permits_of_grantsAll {events : List Event} (idle : server.Idle count)
    (grants : grantsAll count events server = true) :
    sampleServer.Permits Granted events server ∧ (sampleServer.after events server).Idle count := by
  induction events generalizing server with
  | nil => exact ⟨trivial, idle⟩
  | cons event rest ih =>
    simp only [grantsAll, Bool.and_eq_true, decide_eq_true_eq] at grants
    obtain ⟨⟨first, grants⟩, later⟩ := grants
    have onward : ((sampleServer.step server event).getD server).Idle count := by
      cases taken : sampleServer.step server event with
      | none => exact idle
      | some next => exact idle.step first taken
    obtain ⟨permits, final⟩ := ih onward later
    exact ⟨⟨idle.granted grants, permits⟩, final⟩

theorem thread_of_summary {call : Call} {answer : Option (Option StoreError)}
    (summary : server.summary index = some (call, answer)) :
    ∃ thread, server.threads index = some thread ∧ thread.call = call ∧
      ∀ returned, answer = some returned ↔ thread.program = .done returned := by
  unfold Server.summary at summary
  cases found : server.threads index with
  | none =>
    rw [found] at summary
    cases summary
  | some thread =>
    rw [found] at summary
    cases program : thread.program with
    | done returned =>
      simp only [Option.map_some, program, Option.some.injEq, Prod.mk.injEq] at summary
      obtain ⟨rfl, rfl⟩ := summary
      refine ⟨thread, rfl, rfl, fun other => ?_⟩
      rw [program, Option.some.injEq, Program.done.injEq]
    | ask statement onward =>
      simp only [Option.map_some, program, Option.some.injEq, Prod.mk.injEq] at summary
      obtain ⟨rfl, rfl⟩ := summary
      refine ⟨thread, rfl, rfl, fun other => ?_⟩
      rw [program]
      exact ⟨fun same => (nomatch same), fun same => (nomatch same)⟩

end Example

/-- The state before the first regeneration commits, the one after it, and the one after the
code was used. -/
def beforeCommit : Server := sampleServer.after overlap .start
def afterCommit : Server := sampleServer.after [.advance 0 .done] beforeCommit
def afterUse : Server := sampleServer.after useReplaced afterCommit

theorem overlap_comes :
    (grantsAll 3 overlap .start = true ∧ grantsAll 3 [.advance 0 .done] beforeCommit = true ∧
      grantsAll 3 useReplaced afterCommit = true ∧
      (sampleServer.step beforeCommit (.advance 0 .done)).isSome = true ∧
        (afterCommit.threads 2).isNone = true) ∧
    beforeCommit.summary 0 = some (.regenerate 1 (sampleCodes 0), none) ∧
    afterCommit.summary 0 = some (.regenerate 1 (sampleCodes 0), some none) ∧
    afterCommit.summary 1 = some (.regenerate 1 (sampleCodes 8), some none) ∧
    afterUse.summary 2 = some (.verify 1 (displayCode .plain (List.replicate 9 8)), some none) ∧
    afterUse.summary 0 = some (.regenerate 1 (sampleCodes 0), some none) := by
  decide

/-- A code that was committed before another regeneration was done with is still accepted
after that one has replaced the codes. -/
theorem replaced_code_works : ¬ CodesHold .plain sampleSHA256 Granted := by
  intro holds
  obtain ⟨⟨overlaps, commits, uses, possible, absent⟩, first, second, third, fourth, last⟩ := overlap_comes
  have nothing : Server.start.Idle 3 := fun _ _ => ⟨rfl, rfl⟩
  obtain ⟨permits, idle⟩ := permits_of_grantsAll nothing overlaps
  have before : (sampleServer).Runs Granted .start beforeCommit := Machine.after_runs _ permits
  obtain ⟨commits, committed⟩ := @permits_of_grantsAll beforeCommit 3 _ idle commits
  obtain ⟨uses, used⟩ := @permits_of_grantsAll afterCommit 3 _ committed uses
  have taken : sampleServer.step beforeCommit (.advance 0 .done) = some afterCommit := by
    obtain ⟨next, same⟩ := Option.isSome_iff_exists.mp possible
    rw [same, afterCommit, Machine.after, same]
    rfl
  -- What the three calls have come to.
  obtain ⟨running, found, -, unfinished⟩ := thread_of_summary first
  obtain ⟨replacer, replaced, call, finished⟩ := thread_of_summary second
  obtain ⟨storer, stored, storerCall, returned⟩ := thread_of_summary third
  obtain ⟨user, accepted, userCall, success⟩ := thread_of_summary fourth
  have replaces : Replaces beforeCommit afterCommit 0 1 :=
    ⟨running, replacer, sampleCodes 0, found, fun answer past => (by cases (unfinished answer).mpr past),
      replaced, call, (finished none).mp rfl⟩
  have untried : ¬ afterCommit.Succeeded 2 1 (displayCode .plain (List.replicate 9 8)) := by
    rintro ⟨thread, there, -, -⟩
    rw [there] at absent
    cases absent
  -- Only the second regeneration stored the code, and it had returned.
  obtain ⟨other, ⟨thread, codes, code, there, stores, among, same⟩, which⟩ :=
    ((holds beforeCommit before).2 _ afterCommit commits.1 taken).2 0 1 afterUse replaces
      (Machine.after_runs _ uses) 2 _ ⟨user, accepted, userCall, (success none).mp rfl⟩ untried
  have near : other < 3 := by
    by_contra beyond
    have quiet : afterUse.Idle 3 := used
    cases there.symm.trans (quiet other (by omega)).1
  obtain rfl | rfl | rfl : other = 0 ∨ other = 1 ∨ other = 2 := by omega
  · obtain ⟨firstThread, firstFound, firstCall, -⟩ := thread_of_summary last
    cases there.symm.trans firstFound
    obtain ⟨-, rfl⟩ := Call.regenerate.inj (stores.symm.trans firstCall)
    have others : ∀ code ∈ sampleCodes 0, hashRecoveryCode .plain sampleSHA256 code ≠
        hashRecoveryCode .plain sampleSHA256 (displayCode .plain (List.replicate 9 8)) := by decide
    exact others code among same
  · rcases which with first | running
    · cases first
    · exact running ⟨storer, none, stored, (returned none).mp rfl⟩
  · cases there.symm.trans accepted
    cases stores.symm.trans userCall

end ElvishMail.Httpserver.Recovery
