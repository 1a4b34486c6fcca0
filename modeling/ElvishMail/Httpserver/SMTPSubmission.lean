import ElvishMail.Go.Encoding
import ElvishMail.Httpserver.Reply
import ElvishMail.Mailmeta.Domains
import ElvishMail.Mailmeta.SMTPCredentials

/-!
# SMTP credentials of the API

`internal/httpserver/api_smtp_submission.go`: a user name and a password are drawn,
stored with a hash of the password, and shown once. A random user name is base64 and so
mixes upper and lower case.

What was shown is kept beside the table until a request that names the credential changes
its row.
-/

namespace ElvishMail.Httpserver

open Go Smtp Mailmeta Semantics

/-- `bcrypt`: a hash accepts the password it was made from. -/
structure Bcrypt where
  generateFromPassword : (salt password : GoString) → Except GoError GoString
  accepts : (hash password : GoString) → Bool
  sound : ∀ salt password hash, generateFromPassword salt password = .ok hash →
    accepts hash password = true

abbrev Bytes (count : Nat) := {bytes : GoString // bytes.length = count}

/-- What is random in a request. A read of random bytes may fail, and UUIDs take their
place. -/
structure Random where
  username : Option (Bytes 18)
  usernameUUID : Bytes 16
  password : Option (Bytes 24)
  passwordUUIDs : Bytes 16 × Bytes 16
  salt : GoString
  credentialID : Nat

/-- `strings.TrimRight(text, "=")`. -/
def trimRightPad (text : GoString) : GoString := (text.reverse.dropWhile (· == 0x3D)).reverse

def randomSMTPUsername (random : Random) : GoString :=
  match random.username with
  | none => ascii "smtp_" ++ uuidText random.usernameUUID.1
  | some bytes => ascii "smtp_" ++ trimRightPad (base64RawURLEncode bytes.1)

def randomSMTPPassword (random : Random) : GoString :=
  match random.password with
  | none => uuidText random.passwordUUIDs.1.1 ++ uuidText random.passwordUUIDs.2.1
  | some bytes => base64RawURLEncode bytes.1

structure Issued where
  userID : Nat
  credentialID : Nat
  username : GoString
  password : GoString
deriving DecidableEq

def Issued.key (issued : Issued) : Nat × Nat := (issued.userID, issued.credentialID)

section Requests

variable (lib : Library) (bcrypt : Bcrypt) (random : Random) (outcome : Outcome GoError)

/-- `apiSMTPCreate`, on the decoded name and fingerprint. -/
def apiSMTPCreate (userID : Nat) (body : Option (GoString × GoString)) (table : SMTPCredentials) :
    Except Refusal Issued × SMTPCredentials :=
  match body with
  | none => (.error (.status 400 (ascii "invalid json")), table)
  | some (name, fingerprint) =>
  if trimSpace name = [] then (.error (.status 400 (ascii "name required")), table)
  else
  let fp := trimSpace (toUpper lib fingerprint)
  if fp = [] then (.error (.status 400 (ascii "identity_fingerprint required")), table)
  else
  let plainPass := randomSMTPPassword random
  let user := randomSMTPUsername random
  match bcrypt.generateFromPassword random.salt plainPass with
  | .error err => (.error (.internal (ascii "smtp bcrypt") err), table)
  | .ok hash =>
  match insertSMTPCredential outcome
      { userID
        credentialID := random.credentialID
        name := trimSpace name
        identityFingerprint := trimSpace (toUpper lib fp)
        username := user
        passwordHash := hash } table with
  | (some err, table) => (.error (.internal (ascii "smtp insert") err.error), table)
  | (none, table) => (.ok ⟨userID, random.credentialID, user, plainPass⟩, table)

def apiSMTPRegenerate (userID credentialID : Nat) (table : SMTPCredentials) :
    Except Refusal Issued × SMTPCredentials :=
  let plainPass := randomSMTPPassword random
  let user := randomSMTPUsername random
  match bcrypt.generateFromPassword random.salt plainPass with
  | .error err => (.error (.internal (ascii "smtp bcrypt") err), table)
  | .ok hash =>
  match updateSMTPCredentialPassword outcome userID credentialID user hash table with
  | (some .notFound, table) => (.error (.status 404 (ascii "credential not found")), table)
  | (some err, table) => (.error (.internal (ascii "smtp regenerate") err.error), table)
  | (none, table) => (.ok ⟨userID, credentialID, user, plainPass⟩, table)

def apiSMTPDelete (userID credentialID : Nat) (table : SMTPCredentials) :
    Option Refusal × SMTPCredentials :=
  match deleteSMTPCredential outcome userID credentialID table with
  | (some .notFound, table) => (some (.status 404 (ascii "credential not found")), table)
  | (some err, table) => (some (.internal (ascii "smtp delete") err.error), table)
  | (none, table) => (none, table)

end Requests

/-- What may happen to the table. Deleting an account deletes its credentials. -/
inductive CredentialAction where
  | create (random : Random) (outcome : Outcome GoError) (userID : Nat)
      (body : Option (GoString × GoString))
  | regenerate (random : Random) (outcome : Outcome GoError) (userID credentialID : Nat)
  | delete (outcome : Outcome GoError) (userID credentialID : Nat)
  | deleteUser (outcome : Outcome GoError) (userID : Nat)

structure Shown where
  table : SMTPCredentials
  issued : List Issued

namespace Shown

/-- The table becomes another one. What was shown for a credential that the request names is
void if its row changed. -/
def become (shown : Shown) (names : Nat × Nat → Bool) (new : List Issued) (table : SMTPCredentials) :
    Shown where
  table
  issued := new ++ shown.issued.filter fun issued =>
    !names issued.key || table.find issued.key = shown.table.find issued.key

def step (lib : Library) (bcrypt : Bcrypt) (shown : Shown) : CredentialAction → Shown
  | .create random outcome userID body =>
    let (reply, table) := apiSMTPCreate lib bcrypt random outcome userID body shown.table
    shown.become (fun _ => false) reply.toOption.toList table
  | .regenerate random outcome userID credentialID =>
    let (reply, table) :=
      apiSMTPRegenerate bcrypt random outcome userID credentialID shown.table
    shown.become (· == (userID, credentialID)) reply.toOption.toList table
  | .delete outcome userID credentialID =>
    shown.become (· == (userID, credentialID)) [] (apiSMTPDelete outcome userID credentialID shown.table).2
  | .deleteUser outcome userID =>
    shown.become (·.1 == userID) []
      (outcome.exec (·.without fun row => row.userID = userID) shown.table).2

end Shown

def credentialRequests (lib : Library) (bcrypt : Bcrypt) : Machine Shown CredentialAction :=
  ⟨fun shown action => some (shown.step lib bcrypt action)⟩

/-- The user name and the password are tokens, and the row holds that name and a hash
that accepts the password. -/
structure Issued.Stored (bcrypt : Bcrypt) (table : SMTPCredentials) (issued : Issued) : Prop where
  row : ∃ row, table.find issued.key = some row ∧ row.username = issued.username ∧
    bcrypt.accepts row.passwordHash issued.password = true
  username : issued.username ≠ [] ∧ ∀ byte ∈ issued.username, isTokenByte byte = true
  password : issued.password ≠ [] ∧ ∀ byte ∈ issued.password, isTokenByte byte = true

section Stored

variable {lib : Library} {bcrypt : Bcrypt} {random : Random} {outcome : Outcome GoError}
  {table after : SMTPCredentials}

theorem randomSMTPUsername_token (random : Random) :
    randomSMTPUsername random ≠ [] ∧ ∀ byte ∈ randomSMTPUsername random, isTokenByte byte = true := by
  have start : ∀ byte ∈ ascii "smtp_", isTokenByte byte = true := by decide +kernel
  unfold randomSMTPUsername
  cases random.username with
  | none =>
    refine ⟨by simp [ascii], ?_⟩
    intro byte member
    rcases List.mem_append.mp member with head | rest
    · exact start byte head
    · exact uuidText_bytes _ byte rest
  | some bytes =>
    refine ⟨by simp [ascii], ?_⟩
    intro byte member
    rcases List.mem_append.mp member with head | rest
    · exact start byte head
    · refine base64RawURLEncode_bytes bytes.1 byte ?_
      have kept := (List.dropWhile_sublist _).subset (List.mem_reverse.mp rest)
      exact List.mem_reverse.mp kept

theorem randomSMTPPassword_token (random : Random) :
    randomSMTPPassword random ≠ [] ∧ ∀ byte ∈ randomSMTPPassword random, isTokenByte byte = true := by
  unfold randomSMTPPassword
  cases random.password with
  | none =>
    refine ⟨by simp [uuidText, ascii], ?_⟩
    intro byte member
    rcases List.mem_append.mp member with first | second
    · exact uuidText_bytes _ byte first
    · exact uuidText_bytes _ byte second
  | some bytes =>
    refine ⟨?_, base64RawURLEncode_bytes bytes.1⟩
    obtain ⟨bytes, length⟩ := bytes
    obtain ⟨a, rest, rfl⟩ : ∃ a rest, bytes = a :: rest := List.exists_cons_of_length_pos (by omega)
    obtain ⟨b, rest, rfl⟩ : ∃ b more, rest = b :: more :=
      List.exists_cons_of_length_pos (by simp at length; omega)
    obtain ⟨c, rest, rfl⟩ : ∃ c more, rest = c :: more :=
      List.exists_cons_of_length_pos (by simp at length; omega)
    have bound := a.toNat_lt
    have kept : base64Char (a.toNat / 4) ≠ 0x3D := base64Char_ne_pad (by omega)
    simp [base64RawURLEncode, base64Encode, kept]

theorem find_insert {row : SMTPCredential}
    (inserted : insertSMTPCredential outcome row table = (none, after)) :
    after.find row.key = some row := by
  unfold insertSMTPCredential at inserted
  split at inserted
  next admitted =>
    have reported : outcome.error? = none := by
      have mapped := congrArg Prod.fst inserted
      simpa [Outcome.exec] using mapped
    have reached : after = table.withRow row := by
      have effect := congrArg Prod.snd inserted
      simpa [Outcome.exec, Outcome.applied_of_error?_none reported] using effect.symm
    rw [reached, SMTPCredentials.find, SMTPCredentials.withRow, dif_pos admitted]
    simp
  · cases inserted

theorem find_update {userID credentialID : Nat} {username passwordHash : GoString}
    (updated : updateSMTPCredentialPassword outcome userID credentialID username passwordHash table =
      (none, after)) :
    ∃ row, after.find (userID, credentialID) = some row ∧ row.username = username ∧
      row.passwordHash = passwordHash := by
  unfold updateSMTPCredentialPassword at updated
  dsimp only at updated
  split at updated
  · cases updated
  next present =>
  split at updated
  · cases updated
  next free =>
    have reported : outcome.error? = none := by
      have mapped := congrArg Prod.fst updated
      simpa [Outcome.exec] using mapped
    have reached : after = table.withPassword (userID, credentialID) username passwordHash := by
      have effect := congrArg Prod.snd updated
      simpa [Outcome.exec, Outcome.applied_of_error?_none reported] using effect.symm
    obtain ⟨row, found⟩ := Option.ne_none_iff_exists'.mp (by simpa using present)
    obtain ⟨-, key⟩ := SMTPCredentials.mem_of_find found
    refine ⟨SMTPCredentials.replaced (userID, credentialID) username passwordHash row, ?_, ?_⟩
    · rw [reached, SMTPCredentials.find, SMTPCredentials.withPassword,
        dif_pos (by simpa using free), List.find?_map]
      have same : (fun row : SMTPCredential => decide (row.key = (userID, credentialID))) ∘
          SMTPCredentials.replaced (userID, credentialID) username passwordHash =
            fun row => decide (row.key = (userID, credentialID)) := by
        funext row
        simp
      rw [same]
      exact congrArg _ found
    · rw [SMTPCredentials.replaced, if_pos key]
      exact ⟨rfl, rfl⟩

theorem apiSMTPCreate_stored {userID : Nat} {body : Option (GoString × GoString)} {issued : Issued}
    (created : apiSMTPCreate lib bcrypt random outcome userID body table = (.ok issued, after)) :
    issued.Stored bcrypt after := by
  unfold apiSMTPCreate at created
  split at created
  · cases created
  split at created
  · cases created
  dsimp only at created
  split at created
  · cases created
  split at created
  · cases created
  next hash hashed =>
  split at created
  · cases created
  next inserted =>
    cases created
    exact ⟨⟨_, find_insert inserted, rfl, bcrypt.sound _ _ _ hashed⟩,
      randomSMTPUsername_token random, randomSMTPPassword_token random⟩

theorem apiSMTPRegenerate_stored {userID credentialID : Nat} {issued : Issued}
    (regenerated : apiSMTPRegenerate bcrypt random outcome userID credentialID table =
      (.ok issued, after)) :
    issued.Stored bcrypt after := by
  unfold apiSMTPRegenerate at regenerated
  dsimp only at regenerated
  split at regenerated
  · cases regenerated
  next hash hashed =>
  split at regenerated
  · cases regenerated
  · cases regenerated
  next updated =>
    cases regenerated
    obtain ⟨row, found, username, passwordHash⟩ := find_update updated
    refine ⟨⟨row, found, username, ?_⟩, randomSMTPUsername_token random,
      randomSMTPPassword_token random⟩
    rw [passwordHash]
    exact bcrypt.sound _ _ _ hashed

section Frames

variable {key : Nat × Nat} {found : SMTPCredential} {userID credentialID : Nat}

theorem apiSMTPCreate_find {body : Option (GoString × GoString)} (present : table.find key = some found) :
    (apiSMTPCreate lib bcrypt random outcome userID body table).2.find key = some found := by
  unfold apiSMTPCreate
  split
  · exact present
  split
  · exact present
  dsimp only
  split
  · exact present
  split
  · exact present
  split
  all_goals
    next written =>
    rw [← congrArg Prod.snd written]
    exact find_insertSMTPCredential present

theorem apiSMTPRegenerate_find (other : key ≠ (userID, credentialID)) :
    (apiSMTPRegenerate bcrypt random outcome userID credentialID table).2.find key = table.find key := by
  unfold apiSMTPRegenerate
  dsimp only
  split
  · rfl
  split
  all_goals
    next written =>
    rw [← congrArg Prod.snd written]
    exact find_updateSMTPCredentialPassword other

theorem apiSMTPDelete_find (other : key ≠ (userID, credentialID)) :
    (apiSMTPDelete outcome userID credentialID table).2.find key = table.find key := by
  unfold apiSMTPDelete
  split
  all_goals
    next written =>
    rw [← congrArg Prod.snd written]
    exact find_deleteSMTPCredential other

end Frames

def Shown.Sound (bcrypt : Bcrypt) (shown : Shown) : Prop :=
  ∀ issued ∈ shown.issued, issued.Stored bcrypt shown.table

/-- A request that leaves alone the credentials it does not name keeps what was shown sound. -/
theorem Shown.Sound.become {shown : Shown} (sound : shown.Sound bcrypt) {names : Nat × Nat → Bool}
    (frame : ∀ key found, names key = false → shown.table.find key = some found →
      after.find key = some found)
    {new : List Issued} (stored : ∀ issued ∈ new, issued.Stored bcrypt after) :
    (shown.become names new after).Sound bcrypt := by
  intro issued member
  rcases List.mem_append.mp member with fresh | old
  · exact stored issued fresh
  · obtain ⟨oldMember, stands⟩ := List.mem_filter.mp old
    obtain ⟨⟨row, found, username, accepts⟩, tokens⟩ := sound issued oldMember
    refine ⟨⟨row, ?_, username, accepts⟩, tokens, by assumption⟩
    cases named : names issued.key with
    | false => exact frame _ _ named found
    | true =>
      rw [named] at stands
      exact (of_decide_eq_true stands).trans found

theorem Shown.Sound.step {shown : Shown} (sound : shown.Sound bcrypt) (action : CredentialAction) :
    (shown.step lib bcrypt action).Sound bcrypt := by
  cases action with
  | create random outcome userID body =>
    have frame {key : Nat × Nat} {found : SMTPCredential} (present : shown.table.find key = some found) :=
      @apiSMTPCreate_find lib bcrypt random outcome _ _ _ userID body present
    simp only [Shown.step]
    rcases created : apiSMTPCreate lib bcrypt random outcome userID body shown.table with
      ⟨refusal | issued, after⟩
    all_goals
      rw [created] at frame
      refine sound.become (fun _ _ _ present => frame present) ?_
    · simp [Except.toOption]
    · intro other member
      rw [List.mem_singleton.mp member]
      exact apiSMTPCreate_stored created
  | regenerate random outcome userID credentialID =>
    have frame {key : Nat × Nat} (other : key ≠ (userID, credentialID)) :=
      @apiSMTPRegenerate_find bcrypt random outcome shown.table _ _ _ other
    simp only [Shown.step]
    rcases regenerated : apiSMTPRegenerate bcrypt random outcome userID credentialID shown.table with
      ⟨refusal | issued, after⟩
    all_goals
      rw [regenerated] at frame
      refine sound.become (fun key _ other present => (frame (by simpa using other)).trans present) ?_
    · simp [Except.toOption]
    · intro other member
      rw [List.mem_singleton.mp member]
      exact apiSMTPRegenerate_stored regenerated
  | delete outcome userID credentialID =>
    exact sound.become (fun key _ other present =>
      (apiSMTPDelete_find (by simpa using other)).trans present) (by simp)
  | deleteUser outcome userID =>
    refine sound.become (fun key found other present => ?_) (by simp)
    refine outcome.exec_holds (fun after : SMTPCredentials => after.find key = some found) present
      ((SMTPCredentials.find_without fun row same => ?_).trans present)
    rw [← same] at other
    exact other

theorem shown_stored {start reached : Shown} (empty : start.issued = [])
    (runs : (credentialRequests lib bcrypt).Runs (fun _ _ => True) start reached) :
    reached.Sound bcrypt := by
  refine runs.invariant (Shown.Sound bcrypt) ?_ ?_
  · intro issued member
    rw [empty] at member
    cases member
  · intro shown action next sound _ taken
    cases taken
    exact sound.step action

end Stored

end ElvishMail.Httpserver
