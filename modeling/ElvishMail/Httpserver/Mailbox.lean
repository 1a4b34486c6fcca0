import ElvishMail.Go.Encoding
import ElvishMail.Httpserver.Messages

/-!
# The folders of a mailbox

`internal/httpserver/api_mailbox.go`: the folders of a user are the standard ones and
those the user has created. Their names are kept apart from the messages, which know
the name of their folder only.
-/

namespace ElvishMail.Httpserver

open Go Smtp Mailmeta Mailstore Semantics

/-- `folderEntryJSON`, without the time of creation. -/
structure FolderEntry where
  name : GoString
  total : Nat
  unread : Nat
  isStandard : Bool
deriving DecidableEq

def folderEntry (reads : MailReads) (userID : Nat) (isStandard : Bool) (name : GoString) :
    FolderEntry where
  name
  total :=
    match reads.read (.count userID name) (.ok (countMailbox reads.rank reads.tables userID name)) with
    | .ok total => total
    | .error _ => 0
  unread := 0
  isStandard

def apiMailboxFoldersList (reads : MailReads) (userID : Nat) : Except Refusal (List FolderEntry) :=
  match reads.listUserFolders userID with
  | .error err => .error (.internal (ascii "folders list") err)
  | .ok custom =>
    .ok (standardFolders.map (folderEntry reads userID true) ++
      custom.map (folderEntry reads userID false))

/-- What `validFolderName` accepts. -/
def isFolderRune (rune : Nat) : Bool :=
  (97 ≤ rune && rune ≤ 122) || (48 ≤ rune && rune ≤ 57) || rune == 0x2D || rune == 0x5F

def validFolderName (text : GoString) : Bool := (runes text).all fun rune => isFolderRune rune.value

def FolderError.internal : FolderError → GoError
  | .failed err => err
  | err => .plain err.text

variable (lib : Library) (outcome : Outcome GoError) (userID : Nat) (name : GoString)
  (stored : List (Nat × GoString))

/-- `apiMailboxFoldersCreate`, which returns the name of the new folder. -/
def apiMailboxFoldersCreate : Except Refusal GoString × List (Nat × GoString) :=
  let name := trimSpace (toLower lib name)
  if name = [] ∨ name.length > 50 then
    (.error (.status 400 (ascii "folder name required (max 50 chars)")), stored)
  else if !validFolderName name then
    (.error (.status 400 (ascii "only letters, numbers, dashes, and underscores")), stored)
  else
    match createUserFolder lib outcome userID name stored with
    | (none, stored) => (.ok name, stored)
    | (some err, stored) =>
      (.error
        (if (index err.text (ascii "reserved")).isSome then .status 400 err.text
        else if err = .duplicateKey then .status 409 (ascii "folder already exists")
        else .internal (ascii "folder create") (FolderError.internal err)), stored)

def apiMailboxFoldersDelete : Except Refusal Unit × List (Nat × GoString) :=
  let name := trimSpace (toLower lib name)
  if name = [] then (.error (.status 400 (ascii "name required")), stored)
  else
    match deleteUserFolder lib outcome userID name stored with
    | (none, stored) => (.ok (), stored)
    | (some err, stored) =>
      (.error
        (if err = .notFound then .status 404 (ascii "folder not found")
        else .internal (ascii "folder delete") (FolderError.internal err)), stored)

variable {lib outcome userID name stored}

structure FolderName (name : GoString) : Prop where
  nonempty : name ≠ []
  short : name.length ≤ 50
  bytes : ∀ byte ∈ name, isFolderRune byte.toNat = true

theorem folderByte (byte : UInt8) (valid : isFolderRune byte.toNat = true) :
    byte.toNat < 0x80 ∧ isSpace byte.toNat = false ∧ lowerByte byte = byte := by
  revert byte
  exact forall_byte (by decide +kernel)

theorem bytes_of_valid (valid : validFolderName name = true) :
    ∀ byte ∈ name, isFolderRune byte.toNat = true := by
  rw [validFolderName, List.all_eq_true] at valid
  induction name using runes_induction with
  | nil => simp
  | cons first rest ih =>
    have lead : isFolderRune (decodeRune first rest).1 = true := by
      apply valid ⟨(decodeRune first rest).1, _⟩
      rw [runes_cons]
      exact List.mem_cons_self
    have below : (decodeRune first rest).1 < 0x80 := by
      simp only [isFolderRune, Bool.or_eq_true, Bool.and_eq_true, decide_eq_true_eq, beq_iff_eq] at lead
      omega
    have small := decodeRune_small below
    have single : decodeRune first rest = (first.toNat, 1) := by simp [decodeRune, small]
    rw [single] at lead ih
    rw [runes_ascii small] at valid
    rw [List.forall_mem_cons]
    exact ⟨lead, ih fun rune member => valid rune (List.mem_cons_of_mem _ member)⟩

namespace FolderName

theorem lowered (kept : FolderName name) (lib : Library) : toLower lib name = name := by
  have small : ∀ byte ∈ name, byte.toNat < 0x80 :=
    fun byte member => (folderByte byte (kept.bytes byte member)).1
  have lower := toLower_ascii lib name [] small
  rw [List.append_nil, toLower_nil, List.append_nil] at lower
  calc toLower lib name
      = name.map lowerByte := lower
    _ = name.map id :=
        List.map_congr_left fun byte member => (folderByte byte (kept.bytes byte member)).2.2
    _ = name := List.map_id name

theorem trimmed (kept : FolderName name) : trimSpace name = name := by
  refine trimSpace_solid fun byte member => ?_
  obtain ⟨small, visible, -⟩ := folderByte byte (kept.bytes byte member)
  exact ⟨small, visible⟩

theorem normalized (kept : FolderName name) (lib : Library) :
    normalizeFolderName lib name = name := by
  rw [normalizeFolderName, kept.lowered, kept.trimmed, List.take_of_length_le kept.short]

theorem listed (kept : FolderName name) (lib : Library) (limit : GoString) (before : Option Time) :
    ListRequest.folderName lib { folder := name, limit, before } = name := by
  rw [ListRequest.folderName, kept.lowered, kept.trimmed, if_neg kept.nonempty]

end FolderName

theorem folderName_standard (standard : name ∈ standardFolders) : FolderName name := by
  have all : ∀ name ∈ standardFolders,
      name ≠ [] ∧ name.length ≤ 50 ∧ ∀ byte ∈ name, isFolderRune byte.toNat = true := by
    decide +kernel
  obtain ⟨nonempty, short, bytes⟩ := all name standard
  exact ⟨nonempty, short, bytes⟩

theorem create_stored (lib : Library) (outcome : Outcome GoError) (userID : Nat) (name : GoString)
    (stored : List (Nat × GoString)) :
    (apiMailboxFoldersCreate lib outcome userID name stored).2 = stored ∨
      ∃ fresh, FolderName fresh ∧
        (apiMailboxFoldersCreate lib outcome userID name stored).2 = stored ++ [(userID, fresh)] := by
  unfold apiMailboxFoldersCreate
  dsimp only
  generalize trimSpace (toLower lib name) = fresh
  split
  · exact .inl rfl
  next fits =>
  split
  · exact .inl rfl
  next valid =>
  rw [Bool.not_eq_true', Bool.not_eq_false] at valid
  push Not at fits
  have kept : FolderName fresh := ⟨fits.1, fits.2, bytes_of_valid valid⟩
  have either : (createUserFolder lib outcome userID fresh stored).2 = stored ∨
      (createUserFolder lib outcome userID fresh stored).2 = stored ++ [(userID, fresh)] := by
    unfold createUserFolder
    dsimp only
    rw [kept.normalized]
    split
    · exact .inl rfl
    split
    · exact .inl rfl
    split
    · exact .inl rfl
    unfold Outcome.exec
    cases outcome with
    | done => exact .inr rfl
    | refused err => exact .inl rfl
    | lost err => exact .inr rfl
  rcases ended : createUserFolder lib outcome userID fresh stored with ⟨err, later⟩
  rw [ended] at either
  cases err with
  | none => exact either.imp id fun same => ⟨fresh, kept, same⟩
  | some err => exact either.imp id fun same => ⟨fresh, kept, same⟩

theorem delete_stored (lib : Library) (outcome : Outcome GoError) (userID : Nat) (name : GoString)
    (stored : List (Nat × GoString)) :
    (apiMailboxFoldersDelete lib outcome userID name stored).2 ⊆ stored := by
  unfold apiMailboxFoldersDelete
  dsimp only
  split
  · exact List.Subset.refl _
  have fewer : (deleteUserFolder lib outcome userID (trimSpace (toLower lib name)) stored).2 ⊆
      stored := by
    unfold deleteUserFolder Outcome.exec
    cases outcome with
    | done => exact List.filter_subset_self _
    | refused err => exact List.Subset.refl _
    | lost err => exact List.filter_subset_self _
  rcases ended : deleteUserFolder lib outcome userID (trimSpace (toLower lib name)) stored with
    ⟨err, later⟩
  rw [ended] at fewer
  cases err with
  | none => exact fewer
  | some err => exact fewer

end ElvishMail.Httpserver
