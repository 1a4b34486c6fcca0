import ElvishMail.Search.Transactions
import ElvishMail.Search.Worker

/-!
# One database for all identities

All identities of a browser share one database, in which rows have plain names and are sealed
under different keys. What is stored under one key would get into the way of the others. But
sealing takes a later task, so that no row is ever stored: each operation is answered as if
every identity had a database of its own, and finds nothing there either.
-/

namespace ElvishMail.Search

open Js Semantics

section Rows

variable {Key Value : Type} [DecidableEq Key]

def Envelope.ownedBy (key : Key) : Envelope Key Value → Bool
  | .sealed sealer _ => sealer = key
  | .other => false

/-- The rows that are sealed under a key. -/
def theirs (key : Key) (rows : List (JsString × Envelope Key Value)) :
    List (JsString × Envelope Key Value) :=
  rows.filter fun row => row.2.ownedBy key

/-- Stores have the same rows under a key. -/
structure Alike (key : Key) (stores own : Stores Key) : Prop where
  metaRows : theirs key own.metaRows = theirs key stores.metaRows
  terms : theirs key own.terms = theirs key stores.terms
  docs : theirs key own.docs = theirs key stores.docs

end Rows

section Operations

variable {Key Score : Type} [DecidableEq Key] {lib : Library Score} {key : Key}

theorem scoreTerms_empty (documents : Nat) (avgdl : Nat × Nat) (entries : List TermEntry) :
    scoreTerms lib .later key documents avgdl entries [] { stores := {} } = .ok [] { stores := {} } := by
  induction entries with
  | nil => rfl
  | cons entry rest ih =>
    have read : get storeTerms entry.term ({ stores := {} } : Transaction (Stores Key)) =
        .ok none { stores := {} } := get_of_open rfl ..
    have opened : openFound .later key (none : Option (Envelope Key TermRow)) { stores := {} } =
        .ok none { stores := {} } := rfl
    rw [scoreTerms, Script.bind_ok read, Script.bind_ok opened]
    exact ih

/-- A search of an empty index finds nothing. -/
theorem handleSearch_empty (q : JsString) (limit : Nat) :
    (handleSearch lib .later key q limit).inTransaction {} = (.ok [], {}) := by
  unfold handleSearch
  cases queryTerms lib q with
  | nil => rfl
  | cons entry rest =>
    have counted : countDocs ({ stores := {} } : Transaction (Stores Key)) = .ok 0 { stores := {} } :=
      Script.request_of_open rfl
    have summed : averageDocLength .later key { stores := {} } = .ok (0, 0) { stores := {} } := rfl
    have none : rank lib (max 1 (min 100 (if limit = 0 then 25 else limit)))
        ([] : List (JsString × Score)) = [] := List.take_nil
    dsimp only
    rw [Script.inTransaction, searchTerms, Script.bind_ok counted, Script.bind_ok summed,
      Script.bind_ok (scoreTerms_empty ..), none]
    rfl

/-- No operation stores anything. -/
theorem Operation.run_empty (indexKey : Option Key) (operation : Operation Key) :
    (operation.run lib .later indexKey {}).2.2 = {} := by
  cases operation with
  | init identityFingerprint key now =>
    rw [run, Script.inTransaction, writeMeta_later]
  | index messageId text now =>
    cases indexKey with
    | none => rfl
    | some key =>
      show (handleIndex lib .later key messageId text now {}).2 = {}
      unfold handleIndex
      split
      · rfl
      have read : (get storeDocs messageId).inTransaction ({} : Stores Key) = (.ok none, {}) := rfl
      rw [read]
      cases text with
      | error err => rfl
      | ok text =>
        dsimp only
        have kept := @writePostings_later_stores Key {} _ key messageId (textTerms lib text)
          (text.take 240) now
        split
        all_goals
          next written =>
          rw [written] at kept
          exact kept
  | search q limit =>
    cases indexKey with
    | none => rfl
    | some key =>
      rw [run, handleSearch_empty]

/-- The one database and the databases of all identities are empty, and the same identity is
at work. -/
structure Unused (browser : Browser Key) (profiles : Profiles Key) : Prop where
  indexKey : profiles.indexKey = browser.indexKey
  shared : browser.stores = {}
  own : profiles.stores = fun _ => {}

theorem Unused.step {browser : Browser Key} {profiles : Profiles Key} (unused : Unused browser profiles)
    (operation : Operation Key) :
    (browser.step lib .later operation).1 = (profiles.step lib .later operation).1 ∧
      Unused (browser.step lib .later operation).2 (profiles.step lib .later operation).2 := by
  obtain ⟨indexKey, stores⟩ := browser
  obtain ⟨ownKey, own⟩ := profiles
  obtain ⟨same, shared, none⟩ := unused
  dsimp only at same shared none
  subst ownKey stores own
  have kept := @Operation.run_empty _ _ _ lib indexKey operation
  unfold Browser.step Profiles.step
  cases under : operation.under indexKey with
  | none =>
    cases operation with
    | init => cases under
    | index messageId text now =>
      cases (show indexKey = none from under)
      exact ⟨rfl, rfl, rfl, rfl⟩
    | search q limit =>
      cases (show indexKey = none from under)
      exact ⟨rfl, rfl, rfl, rfl⟩
  | some key =>
    refine ⟨rfl, rfl, kept, ?_⟩
    dsimp only
    rw [kept]
    exact Function.update_eq_self key _

theorem Unused.perform {browser : Browser Key} {profiles : Profiles Key} (unused : Unused browser profiles)
    (operations : List (Operation Key)) :
    (perform (Browser.step lib .later) browser operations).1 =
        (perform (Profiles.step lib .later) profiles operations).1 ∧
      Unused (perform (Browser.step lib .later) browser operations).2
        (perform (Profiles.step lib .later) profiles operations).2 := by
  induction operations generalizing browser profiles with
  | nil => exact ⟨rfl, unused⟩
  | cons operation rest ih =>
    obtain ⟨answer, after⟩ := @Unused.step _ _ _ lib _ _ unused operation
    obtain ⟨answers, final⟩ := ih after
    refine ⟨?_, final⟩
    rw [Search.perform, Search.perform]
    exact congrArg₂ List.cons answer answers

omit [DecidableEq Key] in
theorem unused_initial : Unused ({} : Browser Key) {} := ⟨rfl, rfl, rfl⟩

end Operations

end ElvishMail.Search
