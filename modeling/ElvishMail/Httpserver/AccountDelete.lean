import ElvishMail.Httpserver.Reply
import ElvishMail.Maillinks.Links
import ElvishMail.Mailstore.Tables

/-!
# Deleting an account

`internal/httpserver/account_delete.go`: `purgeUserAccount` deletes what a user has in
object storage and in the mailbox tables, and then the user, with whom the relational
rows go. It is a program of single statements, each of which may fail, and most errors
end it.

The rows of reserved addresses and of sessions are left out; that their statements fail
is not. In which order the rows of a user are listed makes no difference.
-/

namespace ElvishMail.Httpserver

open Go Smtp Mailmeta Mailstore Semantics

structure Backends where
  hasLinks : Bool
  hasMeta : Bool
  hasScylla : Bool
  hasBlob : Bool
  hasSessions : Bool
  lib : Library

/-- The stores. A message id is the primary key of its manifest. -/
structure Premises where
  tables : Tables
  outbox : List OutboxRow
  links : List Maillinks.Row
  domains : List (Nat × GoString)
  users : List Nat
  keyed : (tables.manifests.map ManifestRow.messageID).Nodup

namespace Premises

/-- `message_manifest_by_id` by its key. -/
def manifest (premises : Premises) (messageID : Nat) : Option ManifestRow :=
  Rows.find ManifestRow.messageID messageID premises.tables.manifests

def withoutBlob (premises : Premises) (key : GoString) : Premises :=
  { premises with tables.blobs := Rows.remove Prod.fst key premises.tables.blobs }

def withoutManifest (premises : Premises) (messageID : Nat) : Premises :=
  { premises with
    tables.manifests := Rows.remove ManifestRow.messageID messageID premises.tables.manifests
    keyed := premises.keyed.sublist (List.filter_sublist.map _) }

def withoutListing (premises : Premises) (userID : Nat) (folder : GoString) (receivedAt : Time)
    (messageID : Nat) : Premises :=
  { premises with
    tables.mailbox := Rows.remove MailboxRow.key (userID, folder, receivedAt, messageID)
      premises.tables.mailbox }

/-- Without a partition of `messages_by_mailbox`. -/
def withoutPartition (premises : Premises) (userID : Nat) (folder : GoString) : Premises :=
  { premises with
    tables.mailbox := premises.tables.mailbox.filter fun row =>
      !(row.userID == userID && row.folder == folder) }

def withoutFlags (premises : Premises) (userID : Nat) : Premises :=
  { premises with tables.flags := premises.tables.flags.filter (·.userID != userID) }

def withoutEvents (premises : Premises) (userID : Nat) : Premises :=
  { premises with tables.events := premises.tables.events.filter (·.userID != userID) }

def withoutOptIn (premises : Premises) (userID : Nat) : Premises :=
  { premises with tables.optIn := premises.tables.optIn.filter (·.userID != userID) }

def withoutLink (premises : Premises) (token : GoString) : Premises :=
  { premises with links := premises.links.filter (·.token != token) }

def withoutDomain (premises : Premises) (userID : Nat) (domain : GoString) : Premises :=
  { premises with domains := premises.domains.filter (· != (userID, domain)) }

/-- Without a user, and the rows that refer to it. A domain loses its owner only. -/
def withoutUser (premises : Premises) (userID : Nat) : Premises :=
  { premises with
    tables.ledger := premises.tables.ledger.filter (·.userID != userID)
    tables.retention := premises.tables.retention.filter (·.userID != userID)
    tables.lifecycle := premises.tables.lifecycle.filter (·.userID != userID)
    outbox := premises.outbox.filter (·.userID != userID)
    links := premises.links.filter (·.userID != userID)
    domains := premises.domains.filter (·.1 != userID)
    users := premises.users.filter (· != userID) }

end Premises

inductive PurgeStatement where
  | listUserOwnedAddresses
  | listUserOwnedDomains
  | reserveDeletedAddresses
  | listAllLinks
  | deleteLink (token : GoString)
  | listIngestLedger
  | listOutbox
  | listOwnedDomains
  | deleteOwnedDomain (domain : GoString)
  | deleteBlob (key : GoString)
  | selectManifest (messageID : Nat)
  | deleteManifestRow (messageID : Nat)
  | deleteMailboxRow (folder : GoString) (receivedAt : Time) (messageID : Nat)
  | deleteUserFlags
  | deleteUserEvents
  | deleteUserOptInMetadata
  | deleteMailboxPartition (folder : GoString)
  | deleteUserSessions
  | deleteUser

namespace PurgeStatement

abbrev Answer : PurgeStatement → Type
  | listAllLinks => Except GoError (List Maillinks.Row)
  | listIngestLedger => Except GoError (List IngestLedger)
  | listOutbox => Except GoError (List OutboxRow)
  | listOwnedDomains => Except GoError (List GoString)
  | selectManifest _ => Except GoError (Option ManifestRow)
  | deleteOwnedDomain _ | deleteBlob _ | deleteUser => Option StoreError
  | _ => Option GoError

/-- A delete that tells whether there was anything to delete. -/
def remove (outcome : Outcome GoError) (present : Bool) (write : Premises → Premises)
    (premises : Premises) : Option StoreError × Premises :=
  let (err, next) := outcome.exec write premises
  match err with
  | some err => (some (.failed err), next)
  | none => (if present then none else some .notFound, next)

def answer (userID : Nat) (outcome : Outcome GoError) :
    (statement : PurgeStatement) → Premises → statement.Answer × Premises
  | listUserOwnedAddresses, premises => (outcome.error?, premises)
  | listUserOwnedDomains, premises => (outcome.error?, premises)
  | reserveDeletedAddresses, premises => (outcome.error?, premises)
  | listAllLinks, premises => (outcome.read (premises.links.filter (·.userID == userID)), premises)
  | deleteLink token, premises => outcome.exec (·.withoutLink token) premises
  | listIngestLedger, premises =>
    (outcome.read (premises.tables.ledger.filter (·.userID == userID)), premises)
  | listOutbox, premises => (outcome.read (premises.outbox.filter (·.userID == userID)), premises)
  | listOwnedDomains, premises =>
    (outcome.read ((premises.domains.filter (·.1 == userID)).map Prod.snd), premises)
  | deleteOwnedDomain domain, premises =>
    remove outcome (premises.domains.contains (userID, domain)) (·.withoutDomain userID domain) premises
  | deleteBlob key, premises =>
    remove outcome (premises.tables.blobs.any (·.1 == key)) (·.withoutBlob key) premises
  | selectManifest messageID, premises => (outcome.read (premises.manifest messageID), premises)
  | deleteManifestRow messageID, premises => outcome.exec (·.withoutManifest messageID) premises
  | deleteMailboxRow folder receivedAt messageID, premises =>
    outcome.exec (·.withoutListing userID folder receivedAt messageID) premises
  | deleteUserFlags, premises => outcome.exec (·.withoutFlags userID) premises
  | deleteUserEvents, premises => outcome.exec (·.withoutEvents userID) premises
  | deleteUserOptInMetadata, premises => outcome.exec (·.withoutOptIn userID) premises
  | deleteMailboxPartition folder, premises => outcome.exec (·.withoutPartition userID folder) premises
  | deleteUserSessions, premises => (outcome.error?, premises)
  | deleteUser, premises =>
    remove outcome (premises.users.contains userID) (·.withoutUser userID) premises

theorem remove_snd {outcome : Outcome GoError} {present : Bool} {write : Premises → Premises}
    {premises : Premises} :
    (remove outcome present write premises).2 =
      if outcome.applied then write premises else premises := by
  unfold remove Outcome.exec
  cases outcome.error? <;> rfl

end PurgeStatement

abbrev PurgeStatements (Value : Type) : Type := Program PurgeStatement PurgeStatement.Answer Value

section Purge

variable (backends : Backends) (userID : Nat)

def deleteBlobIfPresent (key : GoString) : PurgeStatements (Option GoError) :=
  if trimSpace key = [] then .done none
  else if !backends.hasBlob then
    .done (some (.plain (ascii "blobstore required for account purge")))
  else .ask (.deleteBlob (trimSpace key)) fun
    | some (.failed err) => .done (some err)
    | _ => .done none

/-- One link of `deleteUserProtectedLinks`. -/
def deleteProtectedLink (row : Maillinks.Row) : PurgeStatements (Option GoError) :=
  (deleteBlobIfPresent backends row.blobRef).check (.ask (.deleteLink row.token) .done)

def deleteUserProtectedLinks : PurgeStatements (Option GoError) :=
  if !backends.hasLinks then .done none
  else .ask .listAllLinks fun
    | .error err => .done (some err)
    | .ok rows => .forEach (deleteProtectedLink backends) rows

/-- One domain of `purgeUserAccount`; that it is gone already is no error. -/
def deleteDomain (domain : GoString) : PurgeStatements (Option GoError) :=
  .ask (.deleteOwnedDomain domain) fun
    | some (.failed err) => .done (some err)
    | _ => .done none

/-- One ledger row of `deleteUserMailboxData`. -/
def deleteMessage (row : IngestLedger) : PurgeStatements (Option GoError) :=
  (deleteBlobIfPresent backends row.bodyBlobRef).check
    (.ask (.selectManifest row.messageID) fun
      | .error err => .done (some err)
      | .ok none => .done none
      | .ok (some mf) =>
        if mf.userID ≠ userID then .done none
        else .check (.ask (.deleteManifestRow mf.messageID) .done)
          (.ask (.deleteMailboxRow mf.folder mf.createdAt mf.messageID) .done))

/-- `userMailboxFoldersForPurge`, given what `ListUserFolders` returned. -/
def userMailboxFoldersForPurge (folders : Except GoError (List GoString)) : List GoString :=
  let stored :=
    match backends.hasMeta, folders with
    | true, .ok names => (names.map fun name => trimSpace (toLower backends.lib name)).filter (· ≠ [])
    | _, _ => []
  ([folderInbox, folderSent, folderDrafts, folderArchive, folderTrash] ++ stored).dedup

def deleteUserMailboxData (folders : Except GoError (List GoString)) (ingestRows : List IngestLedger) :
    PurgeStatements (Option GoError) :=
  if ingestRows.length > 0 ∧ !backends.hasScylla then
    .done (some (.plain (ascii "mailbox purge requires scylla")))
  else .check (.forEach (deleteMessage backends userID) ingestRows)
    (if !backends.hasScylla then .done none
      else .check (.ask .deleteUserFlags .done)
        (.check (.ask .deleteUserEvents .done)
          (.check (.ask .deleteUserOptInMetadata .done)
            (.forEach (fun folder => .ask (.deleteMailboxPartition folder) .done)
              (userMailboxFoldersForPurge backends folders)))))

/-- The end of `purgeUserAccount`. -/
def deleteUserRow : PurgeStatements (Option GoError) :=
  let delete : PurgeStatements (Option GoError) := .ask .deleteUser fun
    | some (.failed err) => .done (some err)
    | some .notFound => .done (some (.plain (ascii "store: not found")))
    | none => .done none
  if backends.hasSessions then .check (.ask .deleteUserSessions .done) delete else delete

/-- `purgeUserAccount` once the protected links are gone. -/
def purgeMail (folders : Except GoError (List GoString)) : PurgeStatements (Option GoError) :=
  let finish (ingestRows : List IngestLedger) : PurgeStatements (Option GoError) :=
    .check (deleteUserMailboxData backends userID folders ingestRows) (deleteUserRow backends)
  if !backends.hasMeta then finish []
  else .ask .listIngestLedger fun
    | .error err => .done (some err)
    | .ok ingestRows => .ask .listOutbox fun
      | .error err => .done (some err)
      | .ok outboxRows =>
        .check (.forEach (fun row => deleteBlobIfPresent backends row.payloadBlobRef) outboxRows)
          (.ask .listOwnedDomains fun
            | .error err => .done (some err)
            | .ok domains => .check (.forEach deleteDomain domains) (finish ingestRows))

/-- `purgeUserAccount`, given what `ListUserFolders` returns; its error, if there is one. -/
def purgeUserAccount (folders : Except GoError (List GoString)) : PurgeStatements (Option GoError) :=
  .check (.ask .listUserOwnedAddresses .done)
    (.check (.ask .listUserOwnedDomains .done)
      (.check (.ask .reserveDeletedAddresses .done)
        (.check (deleteUserProtectedLinks backends) (purgeMail backends userID folders))))

end Purge

end ElvishMail.Httpserver
