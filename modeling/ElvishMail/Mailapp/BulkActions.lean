import ElvishMail.Js.Strings

/-!
# Actions on a selection

`bulkMoveSelected`, `bulkTrashSelected` and `bulkPermDeleteSelected` of
`static/mail/mail-app.jsx` issue one request after another and change what is shown only when
the last one has been served. A rejection leaves the loop, and what was done before it stays
shown and selected.

Rows have ids that are compared by equality. The server is a parameter, and a request that it
rejects has not been done. What is shown may have changed since the ids were taken.
-/

namespace ElvishMail.Mailapp

open Js

section Actions

variable {Id Row Server : Type} [DecidableEq Id]

/-- `{ ids, anchorId, focusId }`. -/
structure MailListSelection (Id : Type) where
  ids : List Id
  anchorId : Option Id
  focusId : Option Id

def emptyMailListSelection : MailListSelection Id := ⟨[], none, none⟩

def mailListSelectionAfterRemoving (prev : MailListSelection Id) (removedSet : List Id) :
    MailListSelection Id :=
  let ids := prev.ids.filter (· ∉ removedSet)
  if ids = [] then emptyMailListSelection
  else
    { ids
      focusId := if prev.focusId.any (· ∈ removedSet) then ids.getLast? else prev.focusId
      anchorId :=
        if prev.anchorId.all fun anchor => anchor ∈ removedSet ∨ anchor ∉ ids then ids.head?
        else prev.anchorId }

/-- A message for the user, and whether it is an error. -/
structure Toast where
  message : JsString
  err : Bool

structure ListState (Id Row : Type) where
  messages : List Row
  listSelection : MailListSelection Id
  toast : Option Toast

inductive BulkRequest
  | moveMessage (folder : JsString)
  | deleteMessage (permanent : Bool)

structure BulkAction where
  request : BulkRequest
  /-- Nothing is done if this is not so. -/
  starts : Bool
  /-- The toast, in front of the number and behind it. -/
  verb : JsString
  destination : JsString
  /-- The toast for an error without a message. -/
  failed : JsString

def bulkMoveSelected (targetFolder : JsString) : BulkAction where
  request := .moveMessage targetFolder
  starts := !targetFolder.isEmpty
  verb := lit "Moved "
  destination := lit " to " ++ targetFolder
  failed := lit "Move failed"

def bulkTrashSelected (folder : JsString) : BulkAction where
  request := .deleteMessage false
  starts := folder != lit "trash"
  verb := lit "Moved "
  destination := lit " to trash"
  failed := lit "Move to trash failed"

def bulkPermDeleteSelected : BulkAction where
  request := .deleteMessage true
  starts := true
  verb := lit "Permanently deleted "
  destination := []
  failed := lit "Delete failed"

abbrev Serve (Server Id : Type) := Server → BulkRequest → Id → Except JsString Server

/-- What the loop leaves behind: the server, the ids that were served, and the error. -/
structure Requested (Server Id : Type) where
  server : Server
  removed : List Id
  error : Option JsString

def requestAll (serve : Serve Server Id) (request : BulkRequest) : Server → List Id → Requested Server Id
  | server, [] => ⟨server, [], none⟩
  | server, messageId :: ids =>
    match serve server request messageId with
    | .error message => ⟨server, [], some message⟩
    | .ok next =>
      let later := requestAll serve request next ids
      { later with removed := messageId :: later.removed }

def BulkAction.success (action : BulkAction) (count : Nat) : JsString :=
  action.verb ++ lit (toString count) ++ lit " message" ++ (if count = 1 then [] else lit "s") ++
    action.destination

/-- An action on the ids that were selected, where `prev` is shown once the loop is left. -/
def BulkAction.run (serve : Serve Server Id) (idOf : Row → Id) (action : BulkAction) (server : Server)
    (ids : List Id) (prev : ListState Id Row) : ListState Id Row × Requested Server Id :=
  if ids = [] ∨ action.starts = false then (prev, ⟨server, [], none⟩)
  else
    let requested := requestAll serve action.request server ids
    match requested.error with
    | some message =>
      ({ prev with toast := some ⟨if message = [] then action.failed else message, true⟩ }, requested)
    | none =>
      ({ messages := prev.messages.filter (idOf · ∉ requested.removed)
         listSelection := mailListSelectionAfterRemoving prev.listSelection requested.removed
         toast := some ⟨action.success requested.removed.dedup.length, false⟩ }, requested)

/-- The list and the selection have lost what was done and nothing else, and what is still
selected was not done yet. -/
structure LostExactly (idOf : Row → Id) (prev after : ListState Id Row) (done : List Id) : Prop where
  messages : after.messages = prev.messages.filter (idOf · ∉ done)
  selection : after.listSelection.ids = prev.listSelection.ids.filter (· ∉ done)
  retry : ∀ messageId ∈ after.listSelection.ids, messageId ∉ done

def RejectsAfter (serve : Serve Server Id) (request : BulkRequest) : Server → List Id → List Id → Prop
  | _, [], _ => False
  | server, messageId :: ids, served =>
    match serve server request messageId with
    | .error _ => served = []
    | .ok next => ∃ later, served = messageId :: later ∧ RejectsAfter serve request next ids later

/-- Nothing that is served before a rejection is shown or selected. -/
def Unseen (serve : Serve Server Id) (idOf : Row → Id) (action : BulkAction) (server : Server)
    (ids : List Id) (prev : ListState Id Row) : Prop :=
  action.starts = true → ∀ served, RejectsAfter serve action.request server ids served →
    ∀ messageId ∈ served,
      (∀ row ∈ prev.messages, idOf row ≠ messageId) ∧ messageId ∉ prev.listSelection.ids

variable {serve : Serve Server Id} {request : BulkRequest} {idOf : Row → Id} {action : BulkAction}
  {server : Server} {ids served removed : List Id} {prev : ListState Id Row}

theorem ids_afterRemoving (prev : MailListSelection Id) (removed : List Id) :
    (mailListSelectionAfterRemoving prev removed).ids = prev.ids.filter (· ∉ removed) := by
  unfold mailListSelectionAfterRemoving
  dsimp only
  split
  next none => exact none.symm
  next => rfl

omit [DecidableEq Id] in
/-- What was served before a rejection is what the loop leaves behind. -/
theorem rejectsAfter_iff (serve : Serve Server Id) (request : BulkRequest) (server : Server)
    (ids served : List Id) : RejectsAfter serve request server ids served ↔
      (requestAll serve request server ids).error ≠ none ∧
        served = (requestAll serve request server ids).removed := by
  induction ids generalizing server served with
  | nil => exact iff_of_false id fun both => both.1 rfl
  | cons messageId ids ih =>
    unfold RejectsAfter requestAll
    cases serve server request messageId with
    | error message =>
      dsimp only
      exact ⟨fun none => ⟨nofun, none⟩, And.right⟩
    | ok next =>
      dsimp only
      constructor
      · rintro ⟨later, rfl, rejects⟩
        obtain ⟨failed, same⟩ := (ih next later).mp rejects
        exact ⟨failed, by rw [same]⟩
      · rintro ⟨failed, rfl⟩
        exact ⟨_, rfl, (ih next _).mpr ⟨failed, rfl⟩⟩

/-- What does not change has lost exactly what it does not hold. -/
theorem lostExactly_same {after : ListState Id Row} (messages : after.messages = prev.messages)
    (selection : after.listSelection = prev.listSelection) : LostExactly idOf prev after removed ↔
      ∀ messageId ∈ removed,
        (∀ row ∈ prev.messages, idOf row ≠ messageId) ∧ messageId ∉ prev.listSelection.ids := by
  constructor
  · intro lost messageId done
    have shown := List.filter_eq_self.mp (lost.messages.symm.trans messages)
    refine ⟨fun row present same => ?_, fun selected => ?_⟩
    · have kept := of_decide_eq_true (shown row present)
      exact kept (same ▸ done)
    · exact lost.retry messageId (by rwa [selection]) done
  · intro unseen
    have kept (messageId : Id) (selected : messageId ∈ prev.listSelection.ids) : messageId ∉ removed :=
      fun done => (unseen messageId done).2 selected
    refine ⟨?_, ?_, by rwa [selection]⟩
    · rw [messages, List.filter_eq_self.mpr]
      exact fun row present => decide_eq_true fun done => (unseen _ done).1 row present rfl
    · rw [selection, List.filter_eq_self.mpr]
      exact fun messageId selected => decide_eq_true (kept messageId selected)

/-- The client has lost what the server has done exactly if it shows nothing of what was done
before a rejection. -/
theorem bulk_lost_iff (serve : Serve Server Id) (idOf : Row → Id) (action : BulkAction) (server : Server)
    (ids : List Id) (prev : ListState Id Row) :
    LostExactly idOf prev (action.run serve idOf server ids prev).1
        (action.run serve idOf server ids prev).2.removed ↔
      Unseen serve idOf action server ids prev := by
  unfold BulkAction.run Unseen
  split
  next idle =>
    refine iff_of_true ((lostExactly_same rfl rfl).mpr nofun) fun starts served rejects => ?_
    rcases idle with rfl | off
    · cases rejects
    · rw [starts] at off
      cases off
  next busy =>
    have starts : action.starts = true := by simpa using (not_or.mp busy).2
    simp only [rejectsAfter_iff, starts, forall_const]
    cases error : (requestAll serve action.request server ids).error with
    | some message =>
      dsimp only
      rw [lostExactly_same (by rfl) (by rfl)]
      constructor
      · rintro unseen served ⟨-, rfl⟩
        exact unseen
      · exact fun unseen => unseen _ ⟨nofun, rfl⟩
    | none =>
      refine iff_of_true ⟨rfl, ids_afterRemoving _ _, fun messageId selected => ?_⟩
        fun served both => absurd rfl both.1
      rw [ids_afterRemoving] at selected
      exact of_decide_eq_true (List.mem_filter.mp selected).2

end Actions

def untilSecond (moved : List Nat) (_ : BulkRequest) (messageId : Nat) : Except JsString (List Nat) :=
  if messageId = 2 then .error (lit "mail move 500") else .ok (moved ++ [messageId])

def bothSelected : ListState Nat Nat := ⟨[1, 2], ⟨[1, 2], some 1, some 2⟩, none⟩

/-- The first message is moved and stays in the list, and a retry moves it again. -/
theorem bulk_keeps_moved :
    ((bulkMoveSelected (lit "archive")).run untilSecond id [] [1, 2] bothSelected).2.server = [1] ∧
      ¬LostExactly id bothSelected
        ((bulkMoveSelected (lit "archive")).run untilSecond id [] [1, 2] bothSelected).1
        ((bulkMoveSelected (lit "archive")).run untilSecond id [] [1, 2] bothSelected).2.removed := by
  refine ⟨by decide, fun lost => ?_⟩
  have shown := lost.messages
  revert shown
  decide

end ElvishMail.Mailapp
