import ElvishMail.Mailmeta.Registry

/-!
# SMTP credentials

`internal/mailmeta/smtp_domains.go`: the table `user_smtp_credentials`, whose user names
are unique, and its statements. A user name is stored as it is given and looked up by
exact comparison.
-/

namespace ElvishMail.Mailmeta

open Go Smtp Semantics

/-- A row of `user_smtp_credentials`. -/
structure SMTPCredential where
  userID : Nat
  credentialID : Nat
  name : GoString
  identityFingerprint : GoString
  username : GoString
  passwordHash : GoString
deriving DecidableEq

def SMTPCredential.key (row : SMTPCredential) : Nat × Nat := (row.userID, row.credentialID)

/-- The table, with its primary key and its unique user names. -/
structure SMTPCredentials where
  rows : List SMTPCredential
  keyed : (rows.map SMTPCredential.key).Nodup
  named : (rows.map SMTPCredential.username).Nodup

namespace SMTPCredentials

variable (table : SMTPCredentials)

def find (key : Nat × Nat) : Option SMTPCredential := table.rows.find? (·.key = key)

def taken (key : Nat × Nat) (username : GoString) : Bool :=
  table.rows.any fun row => row.key ≠ key ∧ row.username = username

def without (gone : SMTPCredential → Bool) : SMTPCredentials where
  rows := table.rows.filter (!gone ·)
  keyed := table.keyed.sublist (List.filter_sublist.map _)
  named := table.named.sublist (List.filter_sublist.map _)

def admits (row : SMTPCredential) : Bool :=
  table.rows.all fun other => other.key ≠ row.key ∧ other.username ≠ row.username

/-- The effect of an `INSERT` that the constraints allow. -/
def withRow (row : SMTPCredential) : SMTPCredentials :=
  if admitted : table.admits row = true then
    { rows := row :: table.rows
      keyed := by
        simp only [admits, List.all_eq_true, decide_eq_true_eq] at admitted
        rw [List.map_cons, List.nodup_cons, List.mem_map]
        exact ⟨fun ⟨other, member, same⟩ => (admitted other member).1 same, table.keyed⟩
      named := by
        simp only [admits, List.all_eq_true, decide_eq_true_eq] at admitted
        rw [List.map_cons, List.nodup_cons, List.mem_map]
        exact ⟨fun ⟨other, member, same⟩ => (admitted other member).2 same, table.named⟩ }
  else table

def replaced (key : Nat × Nat) (username passwordHash : GoString) (row : SMTPCredential) :
    SMTPCredential :=
  if row.key = key then { row with username, passwordHash } else row

@[simp] theorem replaced_key (key : Nat × Nat) (username passwordHash : GoString)
    (row : SMTPCredential) : (replaced key username passwordHash row).key = row.key := by
  unfold replaced
  split <;> rfl

/-- The effect of an `UPDATE` of one row that the constraints allow. -/
def withPassword (key : Nat × Nat) (username passwordHash : GoString) : SMTPCredentials :=
  if free : table.taken key username = false then
    { rows := table.rows.map (replaced key username passwordHash)
      keyed := by
        rw [List.map_map]
        exact (List.map_congr_left fun row _ => replaced_key key username passwordHash row) ▸
          table.keyed
      named := by
        rw [List.map_map]
        simp only [taken, List.any_eq_false, decide_eq_true_eq, not_and] at free
        refine List.Nodup.map_on ?_ (table.keyed.of_map _)
        intro row member other otherMember same
        simp only [Function.comp, replaced] at same
        split at same
        next isKey =>
          split at same
          next otherIsKey =>
            exact List.inj_on_of_nodup_map table.keyed member otherMember
              (isKey.trans otherIsKey.symm)
          next differs => exact absurd same.symm (free other otherMember differs)
        next differs =>
          split at same
          next otherIsKey => exact absurd same (free row member differs)
          next otherDiffers => exact List.inj_on_of_nodup_map table.named member otherMember same }
  else table

theorem eq_of_username {table : SMTPCredentials} {row other : SMTPCredential}
    (member : row ∈ table.rows) (otherMember : other ∈ table.rows)
    (same : row.username = other.username) : row = other :=
  List.inj_on_of_nodup_map table.named member otherMember same

theorem mem_of_find {table : SMTPCredentials} {key : Nat × Nat} {row : SMTPCredential}
    (found : table.find key = some row) : row ∈ table.rows ∧ row.key = key :=
  ⟨List.mem_of_find?_eq_some found, by simpa using List.find?_some found⟩

theorem find_without {table : SMTPCredentials} {key : Nat × Nat} {gone : SMTPCredential → Bool}
    (kept : ∀ row, row.key = key → gone row = false) : (table.without gone).find key = table.find key := by
  rw [find, without, List.find?_filter, find]
  congr 1
  funext row
  by_cases same : row.key = key
  · simp [same, kept row same]
  · simp [same]

theorem find_withRow {table : SMTPCredentials} {key : Nat × Nat} {row found : SMTPCredential}
    (present : table.find key = some found) : (table.withRow row).find key = some found := by
  unfold withRow
  split
  next admitted =>
    obtain ⟨member, rfl⟩ := mem_of_find present
    have other := (of_decide_eq_true (List.all_eq_true.mp admitted found member)).1
    rw [find, List.find?_cons_of_neg (by simpa using other.symm)]
    exact present
  next => exact present

theorem find_withPassword {table : SMTPCredentials} {key other : Nat × Nat}
    {username passwordHash : GoString} (different : other ≠ key) :
    (table.withPassword key username passwordHash).find other = table.find other := by
  have same (row : SMTPCredential) (found : row.key = other) :
      replaced key username passwordHash row = row := if_neg (found ▸ different)
  unfold withPassword
  split
  next =>
    rw [find, find, List.find?_map]
    have unmoved : (fun row : SMTPCredential => decide (row.key = other)) ∘
        replaced key username passwordHash = fun row => decide (row.key = other) := by
      funext row
      simp
    rw [unmoved]
    cases found : table.rows.find? fun row => decide (row.key = other) with
    | none => rfl
    | some row => exact congrArg some (same row (by simpa using List.find?_some found))
  next => rfl

end SMTPCredentials

variable (outcome : Outcome GoError)

def insertSMTPCredential (row : SMTPCredential) (table : SMTPCredentials) :
    Option WriteError × SMTPCredentials :=
  if table.admits row then
    let (err, table) := outcome.exec (·.withRow row) table
    (err.map .failed, table)
  else (some ((outcome.error?.map .failed).getD .duplicateKey), table)

def updateSMTPCredentialPassword (userID credentialID : Nat) (username passwordHash : GoString)
    (table : SMTPCredentials) : Option WriteError × SMTPCredentials :=
  let key := (userID, credentialID)
  if (table.find key).isNone then (some ((outcome.error?.map .failed).getD .notFound), table)
  else if table.taken key username then
    (some ((outcome.error?.map .failed).getD .duplicateKey), table)
  else
    let (err, table) := outcome.exec (·.withPassword key username passwordHash) table
    (err.map .failed, table)

def deleteSMTPCredential (userID credentialID : Nat) (table : SMTPCredentials) :
    Option WriteError × SMTPCredentials :=
  let key := (userID, credentialID)
  if (table.find key).isNone then (some ((outcome.error?.map .failed).getD .notFound), table)
  else
    let (err, table) := outcome.exec (·.without fun row => row.key = key) table
    (err.map .failed, table)

section Frames

variable {outcome} {table : SMTPCredentials} {userID credentialID : Nat} {key : Nat × Nat}

/-- An insertion leaves every row as it is. -/
theorem find_insertSMTPCredential {row found : SMTPCredential} (present : table.find key = some found) :
    (insertSMTPCredential outcome row table).2.find key = some found := by
  unfold insertSMTPCredential Outcome.exec
  dsimp only
  split
  · dsimp only
    split
    · exact SMTPCredentials.find_withRow present
    · exact present
  · exact present

theorem find_updateSMTPCredentialPassword {username passwordHash : GoString}
    (other : key ≠ (userID, credentialID)) :
    (updateSMTPCredentialPassword outcome userID credentialID username passwordHash table).2.find key =
      table.find key := by
  unfold updateSMTPCredentialPassword Outcome.exec
  dsimp only
  split
  · rfl
  split
  · rfl
  dsimp only
  split
  · exact SMTPCredentials.find_withPassword other
  · rfl

theorem find_deleteSMTPCredential (other : key ≠ (userID, credentialID)) :
    (deleteSMTPCredential outcome userID credentialID table).2.find key = table.find key := by
  unfold deleteSMTPCredential Outcome.exec
  dsimp only
  split
  · rfl
  dsimp only
  split
  · refine SMTPCredentials.find_without fun row same => ?_
    simpa [same] using other
  · rfl

end Frames

def smtpCredentialForAuth (username : GoString) (table : SMTPCredentials) :
    Except LookupError (Nat × GoString) :=
  match table.rows.find? (·.username = username) with
  | none => .error .notFound
  | some row => .ok (row.userID, row.passwordHash)

end ElvishMail.Mailmeta
