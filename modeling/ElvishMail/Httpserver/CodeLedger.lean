import Mathlib.Data.List.Nodup
import ElvishMail.Httpserver.RecoveryCodes

/-!
# Codes used once

A row that a transaction stored is used by one statement at most, and which row a
successful use consumed is kept beside the run. While no transaction commits codes between
the deletion and the end of another one for the same user, a replacement leaves only the
rows it stored itself.
-/

namespace ElvishMail.Httpserver.Recovery

open Go Smtp Semantics

section Stages

variable (lib : Library) (sha256 : GoString → GoString)

/-- The call is a regeneration that stores this code. -/
def Call.Keeps (call : Call) (userID : Nat) (codeHash : GoString) : Prop :=
  ∃ codes, call = .regenerate userID codes ∧ codeHash ∈ codes.map (hashRecoveryCode lib sha256)

/-- How far a call is, and what its transaction has done by then. -/
inductive Stage : Thread → Option Transaction → Prop where
  | verifies {userID : Nat} {code : GoString} :
      Stage ⟨.verify userID code, consumeHash userID (hashRecoveryCode lib sha256 code)⟩ none
  | begins {userID : Nat} {codes : List GoString} :
      Stage ⟨.regenerate userID codes,
        replaceRecoveryCodes userID (codes.map (hashRecoveryCode lib sha256))⟩ none
  | clears {userID : Nat} {codes : List GoString} :
      Stage ⟨.regenerate userID codes, clearCodes userID (codes.map (hashRecoveryCode lib sha256))⟩
        (some ⟨[], [], []⟩)
  | inserts {userID : Nat} {codes rest : List GoString} {transaction : Transaction}
      (left : rest <:+ codes.map (hashRecoveryCode lib sha256)) (cleared : transaction.cleared = [userID])
      (kept : ∀ row ∈ transaction.inserted,
        (Call.regenerate userID codes).Keeps lib sha256 row.userID row.codeHash) :
      Stage ⟨.regenerate userID codes, insertCodes userID rest⟩ (some transaction)
  | undoes {userID : Nat} {codes : List GoString} {err : GoError} {transaction : Transaction} :
      Stage ⟨.regenerate userID codes, rolledBack err⟩ (some transaction)
  | ended {call : Call} {answer : Option StoreError} : Stage ⟨call, .done answer⟩ none

end Stages

theorem insertCodes_cases (userID : Nat) (hashes : List GoString) :
    insertCodes userID hashes = insertCodes userID [] ∨
      ∃ hash rest, hash ∈ hashes ∧ rest <:+ hashes ∧ insertCodes userID hashes =
        .ask (.insert userID (trimSpace hash)) fun
          | some err => rolledBack err
          | none => insertCodes userID rest := by
  induction hashes with
  | nil => exact .inl rfl
  | cons hash rest ih =>
    by_cases blank : trimSpace hash = []
    · rw [show insertCodes userID (hash :: rest) = insertCodes userID rest from if_pos blank]
      rcases ih with past | ⟨next, later, member, suffix, same⟩
      · exact .inl past
      · exact .inr ⟨next, later, List.mem_cons_of_mem _ member, suffix.trans (List.suffix_cons ..), same⟩
    · exact .inr ⟨hash, rest, List.mem_cons_self, List.suffix_cons .., if_neg blank⟩

theorem trimSpace_hash (lib : Library) (sha256 : GoString → GoString) (code : GoString) :
    trimSpace (hashRecoveryCode lib sha256 code) = hashRecoveryCode lib sha256 code :=
  trimSpace_token (hexEncode_bytes _)

section Marking

variable {place : Nat × GoString} {rows : List CodeRow}

theorem mem_markUsed {row : CodeRow} (member : row ∈ markUsed place rows) :
    ∃ before ∈ rows, row.place = before.place ∧ row.id = before.id ∧ row.storedBy = before.storedBy ∧
      (before.used = true ∨ before.place = place → row.used = true) := by
  obtain ⟨before, stored, rfl⟩ := List.mem_map.mp member
  refine ⟨before, stored, ?_⟩
  split
  · exact ⟨rfl, rfl, rfl, fun _ => rfl⟩
  next other => exact ⟨rfl, rfl, rfl, fun used => used.resolve_right other⟩

theorem markUsed_place : (markUsed place rows).map CodeRow.place = rows.map CodeRow.place := by
  unfold markUsed
  rw [List.map_map]
  refine List.map_congr_left fun row _ => ?_
  change CodeRow.place (if _ then _ else _) = _
  split <;> rfl

theorem count_markUsed (unique : (rows.map CodeRow.place).Nodup)
    (present : ∃ row ∈ rows, row.place = place ∧ row.used = false) :
    ((markUsed place rows).filter fun row => row.userID = place.1 && !row.used).length + 1 =
      (rows.filter fun row => row.userID = place.1 && !row.used).length := by
  induction rows with
  | nil =>
    obtain ⟨row, member, -⟩ := present
    cases member
  | cons row rest ih =>
    rw [List.map_cons, List.nodup_cons] at unique
    obtain ⟨found, member, there, unused⟩ := present
    rw [markUsed, List.map_cons, ← markUsed]
    by_cases here : row.place = place
    · -- No other row is at this place, and the rest keeps its count.
      have alone : ∀ other ∈ rest, other.place ≠ place := fun other stored same =>
        unique.1 (List.mem_map.mpr ⟨other, stored, same.trans here.symm⟩)
      obtain rfl : found = row := by
        rcases List.mem_cons.mp member with same | later
        · exact same
        · exact absurd there (alone found later)
      have kept : markUsed place rest = rest :=
        (List.map_congr_left fun other stored => if_neg (alone other stored)).trans rest.map_id
      have user : found.userID = place.1 := congrArg Prod.fst here
      rw [if_pos here, kept, List.filter_cons_of_neg (by simp),
        List.filter_cons_of_pos (by simp [user, unused])]
      rfl
    · have later : found ∈ rest := (List.mem_cons.mp member).resolve_left fun same => here (same ▸ there)
      have counted := ih unique.2 ⟨found, later, there, unused⟩
      rw [if_neg here, List.filter_cons, List.filter_cons]
      split
      · rw [List.length_cons, List.length_cons, counted]
      · exact counted

end Marking

section Ledger

variable (lib : Library) (sha256 : GoString → GoString)

/-- Calls are at their stages, the index is unique, rows come from calls that have returned,
and each use consumed the row of another such call. -/
structure Sound (source : Nat → Nat) (server : Server) : Prop where
  stage : ∀ index thread, server.threads index = some thread →
    Stage lib sha256 thread (server.db.transactions index)
  idle : ∀ index, server.threads index = none → server.db.transactions index = none
  unique : (server.db.rows.map CodeRow.place).Nodup
  stored : ∀ row ∈ server.db.rows, ∃ thread answer, server.threads row.storedBy = some thread ∧
    thread.program = .done answer ∧ thread.call.Keeps lib sha256 row.userID row.codeHash
  pending : ∀ index transaction, server.db.transactions index = some transaction →
    (transaction.inserted.map CodeRow.place).Nodup ∧
      ∀ row ∈ transaction.inserted, row.storedBy = index ∧
        ∀ other ∈ server.db.rows, other.place = row.place → other.id ∈ transaction.deleted
  apart : ∀ index other transaction elsewhere, index ≠ other →
    server.db.transactions index = some transaction → server.db.transactions other = some elsewhere →
      ∀ row ∈ transaction.inserted, ∀ taken ∈ elsewhere.inserted, row.place ≠ taken.place
  spent : ∀ index userID code, server.Succeeded index userID code → server.Ended (source index) ∧
    server.Stores lib sha256 (source index) userID code ∧
      ∀ row ∈ server.db.rows, row.id = (source index, userID, hashRecoveryCode lib sha256 code) →
        row.used = true
  once : ∀ first second userID code again, first ≠ second → server.Succeeded first userID code →
    server.Succeeded second userID again →
      hashRecoveryCode lib sha256 code = hashRecoveryCode lib sha256 again → source first ≠ source second

theorem start_sound (source : Nat → Nat) : Sound lib sha256 source .start where
  stage := fun _ _ found => nomatch found
  idle := fun _ _ => rfl
  unique := List.nodup_nil
  stored := fun _ member => nomatch member
  pending := fun _ _ found => nomatch found
  apart := fun _ _ _ _ _ found => nomatch found
  spent := fun _ _ _ ⟨_, found, _⟩ => nomatch found
  once := fun _ _ _ _ _ _ ⟨_, found, _⟩ => nomatch found

variable {lib sha256} {source : Nat → Nat} {server next : Server} {index : Nat}

/-- Two uses of one code spend two stored copies of it. -/
theorem Sound.worksOnce (sound : Sound lib sha256 source server) : server.WorksOnce lib sha256 := by
  intro first second userID code again different one other same
  have apart := sound.once first second userID code again different one other same
  obtain ⟨-, stores, -⟩ := sound.spent first userID code one
  obtain ⟨-, storesAgain, -⟩ := sound.spent second userID again other
  refine ⟨source first, source second, apart, stores, ?_⟩
  obtain ⟨thread, codes, stored, found, call, member, hash⟩ := storesAgain
  exact ⟨thread, codes, stored, found, call, member, hash.trans same.symm⟩

/-! ### Threads -/

/-- The thread goes on and every other one stays. -/
structure Moves (server next : Server) (index : Nat) (thread moved : Thread) : Prop where
  found : server.threads index = some thread
  running : ∀ answer, thread.program ≠ .done answer
  threads : next.threads = Function.update server.threads index (some moved)
  call : moved.call = thread.call

variable {thread moved : Thread}

theorem Moves.self (moves : Moves server next index thread moved) : next.threads index = some moved := by
  rw [moves.threads]
  exact Function.update_self ..

theorem Moves.other (moves : Moves server next index thread moved) {other : Nat} (different : other ≠ index) :
    next.threads other = server.threads other := by
  rw [moves.threads]
  exact Function.update_of_ne different ..

theorem Moves.calls (moves : Moves server next index thread moved) {other : Nat} {before : Thread}
    (found : server.threads other = some before) :
    ∃ after, next.threads other = some after ∧ after.call = before.call := by
  by_cases here : other = index
  · subst here
    cases moves.found.symm.trans found
    exact ⟨moved, moves.self, moves.call⟩
  · exact ⟨before, (moves.other here).trans found, rfl⟩

theorem Moves.done (moves : Moves server next index thread moved) {other : Nat} {before : Thread}
    {answer : Option StoreError} (found : server.threads other = some before)
    (returned : before.program = .done answer) : next.threads other = some before := by
  rw [moves.other, found]
  rintro rfl
  cases moves.found.symm.trans found
  exact moves.running answer returned

theorem Moves.ended (moves : Moves server next index thread moved) {other : Nat}
    (ended : server.Ended other) : next.Ended other := by
  obtain ⟨before, answer, found, returned⟩ := ended
  exact ⟨before, answer, moves.done found returned, returned⟩

theorem Moves.stores (moves : Moves server next index thread moved) {other userID : Nat} {code : GoString}
    (stores : server.Stores lib sha256 other userID code) : next.Stores lib sha256 other userID code := by
  obtain ⟨before, codes, stored, found, call, member, hash⟩ := stores
  obtain ⟨after, there, same⟩ := moves.calls found
  exact ⟨after, codes, stored, there, same.trans call, member, hash⟩

theorem Moves.succeeds (moves : Moves server next index thread moved) {other userID : Nat} {code : GoString}
    (succeeded : next.Succeeded other userID code) : server.Succeeded other userID code ∨
      other = index ∧ thread.call = .verify userID code ∧ moved.program = .done none := by
  obtain ⟨after, found, call, returned⟩ := succeeded
  by_cases here : other = index
  · subst here
    cases moves.self.symm.trans found
    exact .inr ⟨rfl, moves.call.symm.trans call, returned⟩
  · exact .inl ⟨after, (moves.other here).symm.trans found, call, returned⟩

theorem Sound.stages (sound : Sound lib sha256 source server) (moves : Moves server next index thread moved)
    (others : ∀ other, other ≠ index → next.db.transactions other = server.db.transactions other)
    (stage : Stage lib sha256 moved (next.db.transactions index)) (other : Nat) (after : Thread)
    (found : next.threads other = some after) : Stage lib sha256 after (next.db.transactions other) := by
  by_cases here : other = index
  · subst here
    cases moves.self.symm.trans found
    exact stage
  · rw [others other here]
    exact sound.stage other after ((moves.other here).symm.trans found)

theorem Sound.idles (sound : Sound lib sha256 source server) (moves : Moves server next index thread moved)
    (others : ∀ other, other ≠ index → next.db.transactions other = server.db.transactions other)
    (other : Nat) (absent : next.threads other = none) : next.db.transactions other = none := by
  have elsewhere : other ≠ index := by
    rintro rfl
    cases moves.self.symm.trans absent
  rw [others other elsewhere]
  exact sound.idle other ((moves.other elsewhere).symm.trans absent)

theorem Moves.stored (moves : Moves server next index thread moved) {row : CodeRow}
    (stored : ∃ thread answer, server.threads row.storedBy = some thread ∧
      thread.program = .done answer ∧ thread.call.Keeps lib sha256 row.userID row.codeHash) :
    ∃ thread answer, next.threads row.storedBy = some thread ∧
      thread.program = .done answer ∧ thread.call.Keeps lib sha256 row.userID row.codeHash := by
  obtain ⟨before, answer, found, returned, keeps⟩ := stored
  exact ⟨before, answer, moves.done found returned, returned, keeps⟩

/-! ### Steps -/

theorem Sound.settle (sound : Sound lib sha256 source server) (moves : Moves server next index thread moved)
    (rows : next.db.rows = server.db.rows)
    (others : ∀ other, other ≠ index → next.db.transactions other = server.db.transactions other)
    (stage : Stage lib sha256 moved (next.db.transactions index))
    (unused : ∀ userID code, thread.call = .verify userID code → moved.program ≠ .done none)
    (pending : ∀ transaction, next.db.transactions index = some transaction →
      (transaction.inserted.map CodeRow.place).Nodup ∧
        ∀ row ∈ transaction.inserted, row.storedBy = index ∧
          (∀ other ∈ server.db.rows, other.place = row.place → other.id ∈ transaction.deleted) ∧
          ∀ other elsewhere, other ≠ index → server.db.transactions other = some elsewhere →
            ∀ taken ∈ elsewhere.inserted, row.place ≠ taken.place) :
    Sound lib sha256 source next where
  stage := sound.stages moves others stage
  idle := sound.idles moves others
  unique := rows ▸ sound.unique
  stored := fun row member => moves.stored (sound.stored row (rows ▸ member))
  pending := by
    intro other transaction found
    rw [rows]
    by_cases here : other = index
    · subst here
      obtain ⟨distinct, each⟩ := pending transaction found
      exact ⟨distinct, fun row member => ⟨(each row member).1, (each row member).2.1⟩⟩
    · exact sound.pending other transaction ((others other here).symm.trans found)
  apart := by
    intro first second transaction elsewhere different one other row member taken there
    by_cases here : first = index
    · subst here
      have untouched := (others second different.symm).symm.trans other
      exact ((pending transaction one).2 row member).2.2 second elsewhere different.symm untouched taken there
    · have untouched := (others first here).symm.trans one
      by_cases also : second = index
      · subst also
        exact (((pending elsewhere other).2 taken there).2.2 first transaction here untouched row member).symm
      · exact sound.apart first second transaction elsewhere different untouched
          ((others second also).symm.trans other) row member taken there
  spent := by
    intro verifier userID code succeeded
    rw [rows]
    rcases moves.succeeds succeeded with before | ⟨-, call, returned⟩
    · obtain ⟨ended, stores, used⟩ := sound.spent verifier userID code before
      exact ⟨moves.ended ended, moves.stores stores, used⟩
    · exact absurd returned (unused userID code call)
  once := by
    intro first second userID code again different one other
    rcases moves.succeeds one with before | ⟨-, call, returned⟩
    · rcases moves.succeeds other with also | ⟨-, call, returned⟩
      · exact sound.once first second userID code again different before also
      · exact absurd returned (unused userID again call)
    · exact absurd returned (unused userID code call)

theorem Sound.commit (sound : Sound lib sha256 source server) (moves : Moves server next index thread moved)
    {transaction : Transaction} (opened : server.db.transactions index = some transaction)
    (rows : next.db.rows = transaction.commit server.db.rows)
    (closed : next.db.transactions index = none)
    (others : ∀ other, other ≠ index → next.db.transactions other = server.db.transactions other)
    {answer : Option StoreError} (returned : moved.program = .done answer)
    (replacement : ∀ userID code, thread.call ≠ .verify userID code)
    (kept : ∀ row ∈ transaction.inserted, thread.call.Keeps lib sha256 row.userID row.codeHash) :
    Sound lib sha256 source next := by
  obtain ⟨distinct, each⟩ := sound.pending index transaction opened
  have succeeds : ∀ {verifier userID code}, next.Succeeded verifier userID code →
      server.Succeeded verifier userID code := fun succeeded =>
    (moves.succeeds succeeded).resolve_right fun ⟨_, call, _⟩ => replacement _ _ call
  have member : ∀ row, row ∈ next.db.rows ↔
      (row ∈ server.db.rows ∧ row.id ∉ transaction.deleted) ∨ row ∈ transaction.inserted := by
    intro row
    rw [rows, Transaction.commit, List.mem_append, List.mem_filter, decide_eq_true_eq]
  have closes : Stage lib sha256 moved (next.db.transactions index) := by
    rw [closed, show moved = ⟨moved.call, .done answer⟩ from returned ▸ rfl]
    exact .ended
  refine
    { stage := sound.stages moves others closes
      idle := sound.idles moves others
      unique := ?_
      stored := ?_
      pending := ?_
      apart := ?_
      spent := ?_
      once := fun first second userID code again different one other =>
        sound.once first second userID code again different (succeeds one) (succeeds other) }
  · -- A row that stays is at no place that the transaction inserted a row at.
    rw [rows, Transaction.commit, List.map_append]
    refine List.nodup_append.mpr ⟨(sound.unique.sublist (List.filter_sublist.map _)), distinct, ?_⟩
    rintro place stays other inserted rfl
    obtain ⟨row, kept, rfl⟩ := List.mem_map.mp stays
    obtain ⟨new, there, same⟩ := List.mem_map.mp inserted
    obtain ⟨present, unmarked⟩ := List.mem_filter.mp kept
    exact absurd ((each new there).2 row present same.symm) (by simpa using unmarked)
  · intro row there
    rcases (member row).mp there with ⟨present, -⟩ | inserted
    · exact moves.stored (sound.stored row present)
    · rw [(each row inserted).1]
      exact ⟨moved, answer, moves.self, returned, moves.call ▸ kept row inserted⟩
  · intro other elsewhere found
    have different : other ≠ index := by
      rintro rfl
      cases closed.symm.trans found
    have before := (others other different).symm.trans found
    obtain ⟨distinctThere, eachThere⟩ := sound.pending other elsewhere before
    refine ⟨distinctThere, fun row inserted => ⟨(eachThere row inserted).1, fun present there same => ?_⟩⟩
    rcases (member present).mp there with ⟨old, -⟩ | new
    · exact (eachThere row inserted).2 present old same
    · exact absurd same (sound.apart index other transaction elsewhere different.symm opened before
        present new row inserted)
  · intro first second one other different here there
    have notFirst : first ≠ index := by
      rintro rfl
      cases closed.symm.trans here
    have notSecond : second ≠ index := by
      rintro rfl
      cases closed.symm.trans there
    exact sound.apart first second one other different ((others first notFirst).symm.trans here)
      ((others second notSecond).symm.trans there)
  · intro verifier userID code succeeded
    obtain ⟨ended, stores, used⟩ := sound.spent verifier userID code (succeeds succeeded)
    refine ⟨moves.ended ended, moves.stores stores, fun row there same => ?_⟩
    rcases (member row).mp there with ⟨old, -⟩ | new
    · exact used row old same
    · -- The call that commits had not returned, and no use consumed a row of it.
      obtain ⟨before, earlier, found, past⟩ := ended
      have here : source verifier = index :=
        (congrArg Prod.fst same).symm.trans (each row new).1
      rw [here] at found
      cases moves.found.symm.trans found
      exact absurd past (moves.running earlier)

/-- Who succeeded before is not the call that moves now. -/
theorem Moves.earlier (moves : Moves server next index thread moved) {verifier userID : Nat}
    {code : GoString} (succeeded : server.Succeeded verifier userID code) : verifier ≠ index := by
  rintro rfl
  obtain ⟨before, found, -, past⟩ := succeeded
  cases moves.found.symm.trans found
  exact moves.running none past

/-- A row comes from a call that has returned and stores its code. -/
theorem Sound.origin (sound : Sound lib sha256 source server) {row : CodeRow} {storer userID : Nat}
    {code : GoString} (present : row ∈ server.db.rows)
    (id : row.id = (storer, userID, hashRecoveryCode lib sha256 code)) :
    server.Ended storer ∧ server.Stores lib sha256 storer userID code := by
  obtain ⟨storedBy, user, hash⟩ : row.storedBy = storer ∧ row.userID = userID ∧
      row.codeHash = hashRecoveryCode lib sha256 code := by
    simpa [CodeRow.id] using id
  obtain ⟨before, earlier, found, past, codes, stored, member⟩ := sound.stored row present
  rw [storedBy] at found
  rw [hash] at member
  rw [user] at stored
  obtain ⟨original, among, equal⟩ := List.mem_map.mp member
  exact ⟨⟨before, earlier, found, past⟩, before, codes, original, found, stored, among, equal⟩

/-- An unused row was consumed by no use. -/
theorem Sound.unspent (sound : Sound lib sha256 source server) {row : CodeRow} {storer userID : Nat}
    {code : GoString} (present : row ∈ server.db.rows) (unused : row.used = false)
    (id : row.id = (storer, userID, hashRecoveryCode lib sha256 code)) {verifier : Nat} {text : GoString}
    (succeeded : server.Succeeded verifier userID text)
    (same : hashRecoveryCode lib sha256 text = hashRecoveryCode lib sha256 code) :
    source verifier ≠ storer := by
  rintro rfl
  have used := (sound.spent verifier userID text succeeded).2.2 row present (same ▸ id)
  cases used.symm.trans unused

/-- A use that finds a row spends a copy nobody spent. -/
theorem Sound.use (sound : Sound lib sha256 source server) (moves : Moves server next index thread moved)
    {userID : Nat} {code : GoString} (call : thread.call = .verify userID code)
    (rows : next.db.rows = markUsed (userID, hashRecoveryCode lib sha256 code) server.db.rows)
    (same : next.db.transactions = server.db.transactions)
    {answer : Option StoreError} (returned : moved.program = .done answer)
    (idle : server.db.transactions index = none)
    (matched : answer = none → ∃ row ∈ server.db.rows,
      row.place = (userID, hashRecoveryCode lib sha256 code) ∧ row.used = false) :
    ∃ source, Sound lib sha256 source next := by
  obtain ⟨storer, now⟩ : ∃ storer, moved.program = .done none → ∃ row ∈ server.db.rows,
      row.id = (storer, userID, hashRecoveryCode lib sha256 code) ∧ row.used = false := by
    by_cases success : answer = none
    · obtain ⟨row, present, there, unused⟩ := matched success
      exact ⟨row.storedBy, fun _ => ⟨row, present, congrArg (row.storedBy, ·) there, unused⟩⟩
    · refine ⟨0, fun ends => absurd ?_ success⟩
      cases returned.symm.trans ends
      rfl
  have others : ∀ other, other ≠ index → next.db.transactions other = server.db.transactions other :=
    fun other _ => congrFun same other
  have closes : Stage lib sha256 moved (next.db.transactions index) := by
    rw [same, idle, show moved = ⟨moved.call, .done answer⟩ from returned ▸ rfl]
    exact .ended
  refine ⟨Function.update source index storer,
    { stage := sound.stages moves others closes
      idle := sound.idles moves others
      unique := by
        rw [rows, markUsed_place]
        exact sound.unique
      stored := ?_
      pending := ?_
      apart := same ▸ sound.apart
      spent := ?_
      once := ?_ }⟩
  · intro row there
    obtain ⟨before, present, place, -, storedBy, -⟩ := mem_markUsed (rows ▸ there)
    obtain ⟨user, hash⟩ := Prod.mk.inj place
    rw [storedBy, user, hash]
    exact moves.stored (sound.stored before present)
  · intro other transaction found
    obtain ⟨distinct, each⟩ := sound.pending other transaction (same ▸ found)
    refine ⟨distinct, fun row inserted => ⟨(each row inserted).1, fun present there place => ?_⟩⟩
    obtain ⟨before, old, samePlace, id, -⟩ := mem_markUsed (rows ▸ there)
    rw [id]
    exact (each row inserted).2 before old (samePlace.symm.trans place)
  · intro verifier user text succeeded
    rcases moves.succeeds succeeded with before | ⟨rfl, also, success⟩
    · rw [Function.update_of_ne (moves.earlier before)]
      obtain ⟨ended, stores, used⟩ := sound.spent verifier user text before
      refine ⟨moves.ended ended, moves.stores stores, fun row there id => ?_⟩
      obtain ⟨old, present, -, sameID, -, marks⟩ := mem_markUsed (rows ▸ there)
      exact marks (.inl (used old present (sameID.symm.trans id)))
    · cases call.symm.trans also
      rw [Function.update_self]
      obtain ⟨row, present, id, -⟩ := now success
      obtain ⟨ended, stores⟩ := sound.origin present id
      refine ⟨moves.ended ended, moves.stores stores, fun row there sameID => ?_⟩
      obtain ⟨old, -, place, -, -, marks⟩ := mem_markUsed (rows ▸ there)
      exact marks (.inr (place.symm.trans (congrArg Prod.snd sameID)))
  · -- What was consumed before is used, and what is consumed now was not.
    intro first second user text again different one other equal
    rcases moves.succeeds one with before | ⟨rfl, also, success⟩
    · rw [Function.update_of_ne (moves.earlier before)]
      rcases moves.succeeds other with after | ⟨rfl, also, success⟩
      · rw [Function.update_of_ne (moves.earlier after)]
        exact sound.once first second user text again different before after equal
      · cases call.symm.trans also
        rw [Function.update_self]
        obtain ⟨row, present, id, unused⟩ := now success
        exact sound.unspent present unused id before equal
    · cases call.symm.trans also
      rw [Function.update_self]
      rcases moves.succeeds other with after | ⟨rfl, -, -⟩
      · rw [Function.update_of_ne (moves.earlier after)]
        obtain ⟨row, present, id, unused⟩ := now success
        exact (sound.unspent present unused id after equal.symm).symm
      · exact absurd rfl different

theorem execute_moves (found : server.threads index = some thread) {statement : Statement}
    {onward : statement.Answer → Statements} (asking : thread.program = .ask statement onward)
    (outcome : Outcome GoError) :
    Moves server (server.execute index thread outcome statement onward) index thread
      { thread with program := onward (statement.answer outcome index server.db).1 } where
  found := found
  running := fun _ past => nomatch asking.symm.trans past
  threads := rfl
  call := rfl

@[simp] theorem Database.set_self (db : Database) (connection : Nat) (transaction : Option Transaction) :
    (db.set connection transaction).transactions connection = transaction := Function.update_self ..

theorem Database.set_other (db : Database) {connection other : Nat} (different : other ≠ connection)
    (transaction : Option Transaction) :
    (db.set connection transaction).transactions other = db.transactions other :=
  Function.update_of_ne different ..

theorem Database.within_cases {db : Database} (outcome : Outcome GoError) {connection : Nat}
    {transaction : Transaction} (opened : db.transactions connection = some transaction)
    (change : Transaction → Transaction) :
    (db.within outcome connection change).1 = outcome.error? ∧
      ((db.within outcome connection change).2 = db.set connection (some (change transaction)) ∨
        (db.within outcome connection change).2 = db ∧ outcome.error? ≠ none) := by
  rw [Database.within, opened]
  cases outcome with
  | done => exact ⟨rfl, .inl rfl⟩
  | refused err => exact ⟨rfl, .inr ⟨rfl, Option.some_ne_none err⟩⟩
  | lost err => exact ⟨rfl, .inl rfl⟩

/-- What a transaction may have inserted, as it is and as another row would fit in. -/
def Fits (server : Server) (index : Nat) (transaction : Transaction) : Prop :=
  (transaction.inserted.map CodeRow.place).Nodup ∧
    ∀ row ∈ transaction.inserted, row.storedBy = index ∧
      (∀ other ∈ server.db.rows, other.place = row.place → other.id ∈ transaction.deleted) ∧
      ∀ other elsewhere, other ≠ index → server.db.transactions other = some elsewhere →
        ∀ taken ∈ elsewhere.inserted, row.place ≠ taken.place

theorem Sound.fits (sound : Sound lib sha256 source server) {transaction : Transaction}
    (opened : server.db.transactions index = some transaction) : Fits server index transaction := by
  obtain ⟨distinct, each⟩ := sound.pending index transaction opened
  exact ⟨distinct, fun row member => ⟨(each row member).1, (each row member).2,
    fun other elsewhere different there taken inserted =>
      sound.apart index other transaction elsewhere different.symm opened there row member taken inserted⟩⟩

theorem fits_empty {transaction : Transaction} (empty : transaction.inserted = []) :
    Fits server index transaction := by
  unfold Fits
  rw [empty]
  exact ⟨List.nodup_nil, fun _ member => nomatch member⟩

theorem Fits.insert {transaction : Transaction} (fits : Fits server index transaction) {userID : Nat}
    {codeHash : GoString} (accepted : transaction.conflicts server.db.rows (userID, codeHash) = false)
    (granted : ¬ server.db.Waits index (.insert userID codeHash)) :
    Fits server index { transaction with
      inserted := transaction.inserted ++ [⟨index, userID, codeHash, false⟩] } := by
  obtain ⟨distinct, each⟩ := fits
  simp only [Transaction.conflicts, Bool.or_eq_false_iff, List.any_eq_false, Bool.and_eq_true,
    decide_eq_true_eq, not_and, not_not] at accepted
  obtain ⟨marked, free⟩ := accepted
  refine ⟨?_, fun row member => ?_⟩
  · rw [List.map_append]
    refine List.nodup_append.mpr ⟨distinct, List.nodup_singleton _, ?_⟩
    rintro place old other new rfl
    obtain ⟨row, inserted, rfl⟩ := List.mem_map.mp old
    exact free row inserted (List.mem_singleton.mp new)
  · rcases List.mem_append.mp member with old | new
    · exact each row old
    · obtain rfl := List.mem_singleton.mp new
      refine ⟨rfl, fun other present same => marked other present same, ?_⟩
      intro other elsewhere different there taken inserted same
      have blocked : elsewhere.inserted.any (fun row => row.place = (userID, codeHash)) = true :=
        List.any_eq_true.mpr ⟨taken, inserted, decide_eq_true same.symm⟩
      exact granted ⟨other, elsewhere, different, there, Bool.or_eq_true_iff.mpr (.inl blocked)⟩

theorem Sound.goOn (sound : Sound lib sha256 source server) (moves : Moves server next index thread moved)
    {transaction : Option Transaction} (changed : next.db = server.db.set index transaction)
    (stage : Stage lib sha256 moved transaction)
    (unused : ∀ userID code, thread.call = .verify userID code → moved.program ≠ .done none)
    (fits : ∀ mine, transaction = some mine → Fits server index mine) :
    Sound lib sha256 source next := by
  have mine : next.db.transactions index = transaction := changed ▸ Database.set_self ..
  refine sound.settle moves (changed ▸ rfl) (fun other different => ?_) (mine ▸ stage) unused
    fun elsewhere there => fits elsewhere (mine.symm.trans there)
  rw [changed]
  exact Database.set_other _ different _

theorem Database.set_same {db : Database} {connection : Nat} {transaction : Option Transaction}
    (opened : db.transactions connection = transaction) : db = db.set connection transaction := by
  rw [Database.set, ← opened, Function.update_eq_self]

theorem Sound.execute (sound : Sound lib sha256 source server) (found : server.threads index = some thread)
    {statement : Statement} {onward : statement.Answer → Statements}
    (asking : thread.program = .ask statement onward) (granted : ¬ server.db.Waits index statement)
    (outcome : Outcome GoError) :
    ∃ source, Sound lib sha256 source (server.execute index thread outcome statement onward) := by
  have moves := execute_moves found asking outcome
  have stage := sound.stage index thread found
  generalize opened : server.db.transactions index = transaction at stage
  have unchanged := Database.set_same opened
  cases stage with
  | @verifies userID code =>
    have trimmed := trimSpace_hash lib sha256 code
    have rows := congrArg (fun hash => markUsed (userID, hash) server.db.rows) trimmed
    cases asking
    cases outcome with
    | refused err =>
      exact ⟨source, sound.goOn moves unchanged .ended
        (fun _ _ _ past => nomatch past) (fun _ none => nomatch none)⟩
    | lost err => exact sound.use moves rfl rows rfl rfl opened (fun none => nomatch none)
    | done =>
      refine sound.use moves rfl rows rfl rfl opened fun success => ?_
      obtain ⟨matched, -⟩ | ⟨-, none⟩ := ite_eq_iff.mp success
      · obtain ⟨row, present, fits⟩ := List.any_eq_true.mp matched
        exact ⟨row, present, by simpa [trimmed] using fits⟩
      · cases none
  | @begins userID codes =>
    cases asking
    cases outcome with
    | done =>
      exact ⟨source, sound.goOn moves rfl .clears (fun _ _ call => nomatch call)
        fun mine same => Option.some.inj same ▸ fits_empty rfl⟩
    | refused err =>
      exact ⟨source, sound.goOn moves unchanged .ended (fun _ _ call => nomatch call)
        (fun _ none => nomatch none)⟩
    | lost err =>
      exact ⟨source, sound.goOn moves unchanged .ended (fun _ _ call => nomatch call)
        (fun _ none => nomatch none)⟩
  | @clears userID codes =>
    cases asking
    obtain ⟨reply, changed⟩ := Database.within_cases outcome opened fun transaction =>
      { cleared := userID :: transaction.cleared
        deleted := transaction.deleted ++
          (server.db.rows.filter fun row => row.userID = userID).map CodeRow.id
        inserted := transaction.inserted.filter fun row => row.userID ≠ userID }
    unfold Server.execute at moves ⊢
    dsimp only [Statement.answer] at moves ⊢
    refine ⟨source, ?_⟩
    rw [reply] at moves ⊢
    rcases changed with made | ⟨kept, failed⟩
    · rw [made] at moves ⊢
      refine sound.goOn moves rfl ?_ (fun _ _ call => nomatch call)
        fun mine same => Option.some.inj same ▸ fits_empty rfl
      cases outcome.error? with
      | none => exact .inserts List.suffix_rfl rfl (fun _ member => nomatch member)
      | some err => exact .undoes
    · rw [kept] at moves ⊢
      refine sound.goOn moves unchanged ?_ (fun _ _ call => nomatch call)
        fun mine same => Option.some.inj same ▸ fits_empty rfl
      cases reported : outcome.error? with
      | none => exact absurd reported failed
      | some err => exact .undoes
  | @inserts userID codes rest transaction left cleared kept =>
    have fits := sound.fits opened
    have same : ∀ mine, some transaction = some mine → Fits server index mine :=
      fun mine same => Option.some.inj same ▸ fits
    rcases insertCodes_cases userID rest with past | ⟨hash, later, member, suffix, onwards⟩
    · rw [past] at asking
      cases asking
      unfold Server.execute at moves ⊢
      dsimp only [Statement.answer] at moves ⊢
      simp only [opened] at moves ⊢
      cases outcome with
      | done =>
        exact ⟨source, sound.commit moves opened rfl (Database.set_self ..)
          (fun _ different => Database.set_other _ different _) rfl (fun _ _ call => nomatch call) kept⟩
      | lost err =>
        exact ⟨source, sound.commit moves opened rfl (Database.set_self ..)
          (fun _ different => Database.set_other _ different _) rfl (fun _ _ call => nomatch call) kept⟩
      | refused err =>
        exact ⟨source, sound.goOn moves rfl .ended (fun _ _ call => nomatch call)
          (fun _ none => nomatch none)⟩
    · obtain ⟨code, among, hashed⟩ := List.mem_map.mp (left.subset member)
      have place : (Call.regenerate userID codes).Keeps lib sha256 userID (trimSpace hash) := by
        rw [← hashed, trimSpace_hash]
        exact ⟨codes, rfl, List.mem_map_of_mem among⟩
      rw [onwards] at asking
      cases asking
      unfold Server.execute at moves ⊢
      dsimp only [Statement.answer] at moves ⊢
      simp only [opened] at moves ⊢
      refine ⟨source, ?_⟩
      split at moves
      next conflict =>
        rw [if_pos conflict]
        exact sound.goOn moves unchanged .undoes (fun _ _ call => nomatch call) same
      next conflict =>
        rw [if_neg conflict]
        have accepted := fits.insert (by simpa using conflict) granted
        obtain ⟨reply, changed⟩ := Database.within_cases outcome opened fun transaction =>
          { transaction with
            inserted := transaction.inserted ++ [⟨index, userID, trimSpace hash, false⟩] }
        rw [reply] at moves ⊢
        rcases changed with made | ⟨kept', failed⟩
        · rw [made] at moves ⊢
          refine sound.goOn moves rfl ?_ (fun _ _ call => nomatch call)
            fun mine same => Option.some.inj same ▸ accepted
          cases outcome.error? with
          | some err => exact .undoes
          | none =>
            refine .inserts (suffix.trans left) cleared fun row inserted => ?_
            rcases List.mem_append.mp inserted with old | new
            · exact kept row old
            · obtain rfl := List.mem_singleton.mp new
              exact place
        · rw [kept'] at moves ⊢
          refine sound.goOn moves unchanged ?_ (fun _ _ call => nomatch call) same
          cases reported : outcome.error? with
          | none => exact absurd reported failed
          | some err => exact .undoes
  | @undoes userID codes err transaction =>
    cases asking
    exact ⟨source, sound.goOn moves rfl .ended (fun _ _ call => nomatch call) (fun _ none => nomatch none)⟩
  | ended => cases asking

theorem Sound.begin (sound : Sound lib sha256 source server) (absent : server.threads index = none)
    (call : Call) : Sound lib sha256 source (server.begin lib sha256 index call) := by
  have self : (server.begin lib sha256 index call).threads index =
      some ⟨call, call.program lib sha256⟩ := Function.update_self ..
  have other : ∀ {other}, other ≠ index →
      (server.begin lib sha256 index call).threads other = server.threads other :=
    fun different => Function.update_of_ne different ..
  have keeps : ∀ {other before}, server.threads other = some before →
      (server.begin lib sha256 index call).threads other = some before := by
    intro elsewhere before found
    rw [other, found]
    rintro rfl
    cases absent.symm.trans found
  have succeeds : ∀ {verifier userID code},
      (server.begin lib sha256 index call).Succeeded verifier userID code →
        server.Succeeded verifier userID code := by
    rintro verifier userID code ⟨after, found, sameCall, returned⟩
    by_cases here : verifier = index
    · subst here
      cases self.symm.trans found
      cases sameCall
      cases returned
    · exact ⟨after, (other here).symm.trans found, sameCall, returned⟩
  refine
    { stage := ?_
      idle := ?_
      unique := sound.unique
      stored := ?_
      pending := sound.pending
      apart := sound.apart
      spent := ?_
      once := fun first second userID code again different one two =>
        sound.once first second userID code again different (succeeds one) (succeeds two) }
  · intro elsewhere after found
    by_cases here : elsewhere = index
    · subst here
      cases self.symm.trans found
      rw [show (server.begin lib sha256 elsewhere call).db.transactions elsewhere = none from
        sound.idle elsewhere absent]
      cases call with
      | verify userID code => exact .verifies
      | regenerate userID codes => exact .begins
    · exact sound.stage elsewhere after ((other here).symm.trans found)
  · intro elsewhere none
    have different : elsewhere ≠ index := by
      rintro rfl
      cases self.symm.trans none
    exact sound.idle elsewhere ((other different).symm.trans none)
  · intro row member
    obtain ⟨before, answer, found, returned, kept⟩ := sound.stored row member
    exact ⟨before, answer, keeps found, returned, kept⟩
  · intro verifier userID code succeeded
    obtain ⟨⟨before, answer, found, returned⟩, ⟨storer, codes, stored, there, stores⟩, used⟩ :=
      sound.spent verifier userID code (succeeds succeeded)
    exact ⟨⟨before, answer, keeps found, returned⟩, ⟨storer, codes, stored, keeps there, stores⟩, used⟩

theorem step_cases {event : Event} (allowed : Granted server event)
    (taken : (codeServer lib sha256).step server event = some next) :
    (∃ index call, event = .begin index call ∧ server.threads index = none ∧
      next = server.begin lib sha256 index call) ∨
    ∃ index outcome thread statement onward, event = .advance index outcome ∧
      server.threads index = some thread ∧ thread.program = .ask statement onward ∧
        ¬ server.db.Waits index statement ∧ next = server.execute index thread outcome statement onward := by
  simp only [codeServer, Server.step] at taken
  cases event with
  | begin index call =>
    dsimp only at taken
    split at taken
    next absent =>
      cases taken
      exact .inl ⟨index, call, rfl, Option.isNone_iff_eq_none.mp absent, rfl⟩
    · cases taken
  | advance index outcome =>
    dsimp only at taken
    split at taken
    · cases taken
    next thread found =>
      split at taken
      · cases taken
      next statement onward asking =>
        cases taken
        exact .inr ⟨index, outcome, thread, statement, onward, rfl, found, asking,
          allowed thread statement onward found asking, rfl⟩

/-- Each granted step keeps the ledger, for some source of the uses. -/
theorem Sound.step (sound : Sound lib sha256 source server) {event : Event} (allowed : Granted server event)
    (taken : (codeServer lib sha256).step server event = some next) :
    ∃ source, Sound lib sha256 source next := by
  rcases step_cases allowed taken with ⟨index, call, -, absent, rfl⟩ |
    ⟨index, outcome, thread, statement, onward, -, found, asking, granted, rfl⟩
  · exact ⟨source, sound.begin absent call⟩
  · exact sound.execute found asking granted outcome

theorem Sound.verified (sound : Sound lib sha256 source server)
    (found : server.threads index = some thread) {statement : Statement}
    {onward : statement.Answer → Statements} (asking : thread.program = .ask statement onward)
    {outcome : Outcome GoError} {userID : Nat} {code : GoString} (call : thread.call = .verify userID code)
    (success : onward (statement.answer outcome index server.db).1 = .done none) :
    (∃ row ∈ server.db.rows, row.place = (userID, hashRecoveryCode lib sha256 code) ∧ row.used = false) ∧
      (server.execute index thread outcome statement onward).db.rows =
        markUsed (userID, hashRecoveryCode lib sha256 code) server.db.rows := by
  have stage := sound.stage index thread found
  generalize server.db.transactions index = transaction at stage
  cases stage with
  | @verifies userID code =>
    have trimmed := trimSpace_hash lib sha256 code
    have rows := congrArg (fun hash => markUsed (userID, hash) server.db.rows) trimmed
    cases call
    cases asking
    cases outcome with
    | refused err => cases success
    | lost err => cases success
    | done =>
      obtain ⟨matched, -⟩ | ⟨-, none⟩ := ite_eq_iff.mp (Program.done.inj success)
      · obtain ⟨row, present, fits⟩ := List.any_eq_true.mp matched
        exact ⟨⟨row, present, by simpa [trimmed] using fits⟩, rows⟩
      · cases none
  | begins => cases call
  | clears => cases call
  | inserts => cases call
  | undoes => cases call
  | ended => cases asking

theorem Sound.countsDown (sound : Sound lib sha256 source server) {event : Event}
    (allowed : Granted server event) (taken : (codeServer lib sha256).step server event = some next) :
    CountsDown server next := by
  intro verifier userID code before after
  rcases step_cases allowed taken with ⟨index, call, -, absent, rfl⟩ |
    ⟨index, outcome, thread, statement, onward, -, found, asking, granted, rfl⟩
  · obtain ⟨other, there, sameCall, returned⟩ := after
    by_cases here : verifier = index
    · subst here
      cases (Function.update_self ..).symm.trans there
      cases sameCall
      cases returned
    · exact absurd ⟨other, (Function.update_of_ne here _ _).symm.trans there, sameCall, returned⟩ before
  · rcases (execute_moves found asking outcome).succeeds after with earlier | ⟨rfl, call, success⟩
    · exact absurd earlier before
    · obtain ⟨present, rows⟩ := sound.verified found asking call success
      rw [Database.countUnused, Database.countUnused, rows]
      exact count_markUsed sound.unique present

end Ledger

end ElvishMail.Httpserver.Recovery
