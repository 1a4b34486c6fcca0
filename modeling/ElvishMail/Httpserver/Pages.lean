import ElvishMail.Httpserver.Messages

/-!
# Paging through a folder

A client reads a folder page by page, each below the `received_at` of the last message
it was sent. The cutoff says nothing of the ids by which messages of one time are
ordered, and the page is cut before rows without a manifest are passed over, so that
messages are lost at some page boundaries.
-/

namespace ElvishMail.Httpserver

open Go Smtp Mailmeta Mailstore Mailops Mailpipe Semantics

variable (reads : MailReads) (userID : Nat) (folder : GoString) (size : Nat)

def listedName : GoString := ListRequest.folderName reads.lib { folder }

def folderMessages : List ManifestJSON :=
  (mailboxPartition reads.rank reads.tables userID (listedName reads folder)).filterMap
    (messageOf reads userID)

def fetchedPage (before : Option Time) : List ManifestJSON :=
  match fetchManifests reads userID folder size before with
  | .ok messages => messages
  | .error _ => []

/-- Reading on until a page is empty, a client receives every message of the folder
once, newest first. -/
def PagesComplete : Prop :=
  ∃ fuel collected,
    follow (fetchedPage reads userID folder size) (fun last => some last.receivedAt) fuel none =
      some collected ∧
    collected.Perm (folderMessages reads userID folder) ∧
    collected.Pairwise fun first later => later.receivedAt ≤ first.receivedAt

theorem buildManifestJSON_receivedAt {row : MailboxRow} {mf : Manifest} :
    (buildManifestJSON reads userID (some row) mf).receivedAt = row.receivedAt := by
  unfold buildManifestJSON
  cases reads.getOptInMetadata userID mf.messageID with
  | error err => rfl
  | ok opt => rfl

variable {reads userID} in
theorem messageOf_receivedAt {row : MailboxRow} {message : ManifestJSON}
    (shown : messageOf reads userID row = some message) : message.receivedAt = row.receivedAt := by
  unfold messageOf at shown
  split at shown
  · cases shown
  · cases shown
    exact buildManifestJSON_receivedAt reads userID

/-- A folder as a listing by `received_at`. -/
def folderListing : Listing MailboxRow ManifestJSON Time where
  rows := mailboxPartition reads.rank reads.tables userID (listedName reads folder)
  key := MailboxRow.receivedAt
  item := messageOf reads userID
  stamp := ManifestJSON.receivedAt
  descending := mailboxPartition_descending
  stamped := fun _ _ shown => messageOf_receivedAt shown

/-- Whether a time can be a cutoff: it reads back, and is not the zero time. -/
def isCutoff (time : Time) : Bool := readsBack time && time ≠ zeroTime

/-- No message is lost at a page: the page is empty only when no message is left, the
time of its last message can be a cutoff, and no message after it has that time. -/
abbrev PageClean (cutoff : Option Time) : Prop :=
  (folderListing reads userID folder).Clean size isCutoff cutoff

/-- The cutoffs of the pages of a folder, each the time of the last message of the page
before. -/
abbrev PageStart (cutoff : Option Time) : Prop :=
  (folderListing reads userID folder).Reached size cutoff

section Fetch

variable {reads userID folder size}

theorem parse_limit (bounded : size ≤ 200) : parseInt64 (trimSpace (itoa size)) = some (size : Int) := by
  have all : ∀ count ∈ List.range 201, parseInt64 (trimSpace (itoa count)) = some (count : Int) := by
    decide +kernel
  exact all size (List.mem_range.mpr (by omega))

theorem request_count (positive : 0 < size) (bounded : size ≤ 200) {before : Option Time} :
    listLimit (ListRequest.count { folder, limit := itoa size, before }) = size := by
  rw [ListRequest.count, parse_limit bounded]
  dsimp only
  rw [if_pos (by omega), listLimit_of_le positive bounded]

def understood (before : Option Time) : Option Time :=
  (before.filter fun time => isCutoff time).map timestamp

theorem listMailbox_eq {name : GoString} (before : Option Time) {limit : Int} :
    listMailbox reads.rank reads.tables userID name
        ((before.filter fun time => readsBack time).getD zeroTime) limit =
      (match understood before with
        | none => mailboxPartition reads.rank reads.tables userID name
        | some bound =>
          (mailboxPartition reads.rank reads.tables userID name).filter fun row =>
            row.receivedAt < bound).take (listLimit limit) := by
  rw [listMailbox, understood]
  cases before with
  | none => simp
  | some time =>
    by_cases back : readsBack time = true
    · by_cases zero : time = zeroTime
      · subst zero
        simp [isCutoff, Option.filter_some, back]
      · simp [isCutoff, Option.filter_some, back, zero]
    · simp [isCutoff, Option.filter_some, back]

theorem fetchedPage_eq (known : knownFolder reads userID (listedName reads folder) = true)
    (healthy : reads.failing (.mailbox userID (listedName reads folder)) = none)
    (positive : 0 < size) (bounded : size ≤ 200) (before : Option Time) :
    fetchedPage reads userID folder size before =
      (folderListing reads userID folder).page size (understood before) := by
  have name : ListRequest.folderName reads.lib
      { folder, limit := itoa size, before := before.filter fun time => readsBack time } =
      listedName reads folder := rfl
  rw [fetchedPage, fetchManifests, apiMailMessagesList]
  dsimp only
  rw [name, known, MailReads.read, healthy]
  dsimp only
  rw [if_neg (by simp), listMailbox_eq, request_count positive bounded]
  cases understood before <;> rfl

theorem understood_last {cutoff : Option Time} {last : ManifestJSON}
    (ended : ((folderListing reads userID folder).page size cutoff).getLast? = some last) :
    understood (some last.receivedAt) = (folderListing reads userID folder).next isCutoff last := by
  obtain ⟨row, there, -, stamp⟩ := Listing.last_row ended
  have listed := Listing.rest_sublist.subset (List.mem_of_mem_take there)
  have whole : timestamp last.receivedAt = last.receivedAt := by
    have same : last.receivedAt = row.receivedAt := stamp
    rw [same]
    exact receivedAt_mailboxPartition listed
  rw [understood, Listing.next]
  change _ = if isCutoff last.receivedAt = true then some last.receivedAt else none
  by_cases cut : isCutoff last.receivedAt = true
  · simp [cut, whole]
  · simp [cut]

end Fetch

/-- A client that reads page by page receives every message once and newest first
exactly when no message is lost at any of the pages. -/
theorem pages_complete_iff (reads : MailReads) (userID : Nat) (folder : GoString) (size : Nat)
    (known : knownFolder reads userID (listedName reads folder) = true)
    (healthy : reads.failing (.mailbox userID (listedName reads folder)) = none)
    (positive : 0 < size) (bounded : size ≤ 200) :
    PagesComplete reads userID folder size ↔
      ∀ cutoff, PageStart reads userID folder size cutoff → PageClean reads userID folder size cutoff := by
  rw [← Listing.complete_iff]
  have same (fuel : Nat) : follow (fetchedPage reads userID folder size)
      (fun last => some last.receivedAt) fuel none =
      follow ((folderListing reads userID folder).page size)
        ((folderListing reads userID folder).next isCutoff) fuel none :=
    follow_translate understood (fetchedPage_eq known healthy positive bounded)
      (fun _ _ ended => understood_last ended) fuel none
  unfold PagesComplete Listing.Complete
  simp only [same]
  rfl

/-- Two messages in the inbox of one user, received at these times. -/
def sampleReads (first second : Time) : MailReads where
  lib := .plain
  rank := id
  precedes := fun _ _ => true
  tables :=
    { manifests := [⟨1, 1, folderInbox, [], 0, [], [], [], first⟩,
        ⟨2, 1, folderInbox, [], 0, [], [], [], second⟩]
      mailbox := [⟨1, folderInbox, first, 1, 0, [], false⟩,
        ⟨1, folderInbox, second, 2, 0, [], false⟩] }
  folders := []
  failing := fun _ => none

/-- Received a second apart, the two messages are on two pages. -/
theorem pages_complete_apart :
    PagesComplete (sampleReads (1700000000 * second) (1700000001 * second)) 1 folderInbox 1 := by
  refine (pages_complete_iff (sampleReads (1700000000 * second) (1700000001 * second)) 1 folderInbox 1
    (by decide) rfl (by decide) (by decide)).mpr fun cutoff _ => ?_
  refine Listing.clean_of_apart (by decide) ?_ ?_ ?_ <;> decide

/-- Received at the same time, the one with the lower id is never sent on pages of one
message. -/
theorem pages_lose_twin :
    knownFolder (sampleReads (1700000000 * second) (1700000000 * second)) 1
        (listedName (sampleReads (1700000000 * second) (1700000000 * second)) folderInbox) = true ∧
      (sampleReads (1700000000 * second) (1700000000 * second)).failing = (fun _ => none) ∧
      ¬PagesComplete (sampleReads (1700000000 * second) (1700000000 * second)) 1 folderInbox 1 := by
  refine ⟨by decide, rfl, ?_⟩
  rintro ⟨fuel, collected, followed, perm, -⟩
  have first : (fetchedPage (sampleReads (1700000000 * second) (1700000000 * second)) 1 folderInbox 1
      none).map ManifestJSON.receivedAt = [1700000000 * second] := by decide
  have later : fetchedPage (sampleReads (1700000000 * second) (1700000000 * second)) 1 folderInbox 1
      (some (1700000000 * second)) = [] := by decide
  have count : (folderMessages (sampleReads (1700000000 * second) (1700000000 * second)) 1
      folderInbox).length = 2 := by decide
  obtain ⟨last, page, time⟩ := List.map_eq_singleton_iff.mp first
  obtain ⟨earlier, tail, -, onward, rfl⟩ :=
    @follow_split _ _ _ _ _ _ last _ followed (by rw [page]; rfl)
  rw [time] at onward
  cases earlier with
  | zero => cases onward
  | succ fuel =>
    rw [follow_of_empty (by rw [later]; rfl)] at onward
    cases onward
    have lengths := perm.length_eq
    rw [count, page] at lengths
    cases lengths

end ElvishMail.Httpserver
