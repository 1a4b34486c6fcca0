import ElvishMail.Elvishserver.Backend
import ElvishMail.Httpserver.SMTPSubmission
import ElvishMail.Smtp.Server

/-!
# Logging in with a shown credential

The authenticator of `cmd/elvishserver/smtp_backend.go` lower-cases the user name it is
given and looks it up in a table that holds it as it was drawn. `shown_works_iff`: a
credential works exactly when its user name has no capital letter in it, or another
credential of the user happens to accept it.
-/

namespace ElvishMail.Elvishserver

open Go Smtp Mailmeta Mailpipe Semantics Httpserver

def encodePlain (identity username password : GoString) : GoString :=
  base64Encode (identity ++ [0] ++ username ++ [0] ++ password)

def encodeLogin (text : GoString) : GoString := base64Encode text

inductive Mechanism where
  | plain
  | login
deriving DecidableEq

def submitted (username password : GoString) : Mechanism → Option Credentials
  | .plain => decodePlain (encodePlain [] username password)
  | .login => do
      let user ← decodeLogin (encodeLogin username)
      let pass ← decodeLogin (encodeLogin password)
      some ⟨[], user, pass⟩

theorem submitted_token {username password : GoString}
    (token : ∀ byte ∈ username, isTokenByte byte = true) (mechanism : Mechanism) :
    submitted username password mechanism = some ⟨[], username, password⟩ := by
  cases mechanism with
  | plain =>
    have noNul : (0 : UInt8) ∉ username := by
      intro member
      exact absurd (token 0 member) (by decide)
    have before : List.findIdx? (· == (0 : UInt8)) username = none := by
      rw [List.findIdx?_eq_none_iff]
      intro byte member
      exact beq_false_of_ne fun same => noNul (same ▸ member)
    have second : indexByte (username ++ 0 :: password) 0 = some username.length := by
      simp [indexByte, List.findIdx?_append, List.findIdx?_cons, before]
    have split : splitNul (0 :: (username ++ 0 :: password)) = some ([], username, password) := by
      have first : indexByte (0 :: (username ++ 0 :: password)) 0 = some 0 := by
        simp [indexByte, List.findIdx?_cons]
      rw [splitNul, first]
      simp only [List.drop_succ_cons, Nat.zero_add, List.drop_zero, List.take_zero]
      rw [second]
      simp
    have joined : ([] ++ [0] ++ username ++ [0] ++ password : GoString) =
        0 :: (username ++ 0 :: password) := by simp
    rw [submitted, decodePlain, encodePlain, base64Decode_encode, Option.bind_eq_bind,
      Option.bind_some, joined, split]
    rfl
  | login =>
    simp only [submitted, decodeLogin, encodeLogin, base64Decode_encode]
    rfl

/-- `sasl.ErrAuthFailed`. -/
def errSASLAuthFailed : GoError := .plain (ascii "sasl: authentication failed")

def SMTPBackend.credentialVerdict (be : SMTPBackend) (bcrypt : Bcrypt) (table : SMTPCredentials)
    (credentials : Credentials) : Option GoError :=
  let user := normalized be.pipe.lib credentials.username
  if user = [] ∨ credentials.password = [] then some errSASLAuthFailed
  else if be.hasMeta then
    match smtpCredentialForAuth user table with
    | .ok (_, hash) =>
      if bcrypt.accepts hash credentials.password then none else some errSASLAuthFailed
    | .error _ => some errSASLAuthFailed
  else some errSASLAuthFailed

def SMTPBackend.authenticator (be : SMTPBackend) (bcrypt : Bcrypt) (table : SMTPCredentials) :
    Option (Credentials → Option GoError) :=
  if !be.submission || !be.hasStore then none else some (be.credentialVerdict bcrypt table)

/-- `UserByEmail`. Every account has an address with an `@` in it: `apiRegister`, which
alone creates accounts, composes it from a user name and a domain. -/
structure AccountLookup where
  userByEmail : GoString → Except GoError GoString
  addressed : ∀ text email, userByEmail text = .ok email → 0x40 ∈ text

def callOn (call : Call) (accounts : AccountLookup) (table : SMTPCredentials) : Call :=
  { call with
    userByEmail := accounts.userByEmail
    smtpCredentialForAuth := fun username => (smtpCredentialForAuth username table).map Prod.fst }

def mailboxOf (call : Call) (userID : Nat) : Except GoError GoString :=
  match call.defaultIdentityForUser userID with
  | .error err => .error err.error
  | .ok identity => .ok identity.email

structure Deployed (be : SMTPBackend) : Prop where
  submission : be.submission = true
  hasStore : be.hasStore = true
  hasMeta : be.hasMeta = true

/-- Submitting a shown credential is accepted, and the principal is its user. -/
structure Works (be : SMTPBackend) (bcrypt : Bcrypt) (call : Call) (accounts : AccountLookup)
    (table : SMTPCredentials) (mechanism : Mechanism) (issued : Issued) : Prop where
  accepted : ∃ auth credentials, be.authenticator bcrypt table = some auth ∧
    submitted issued.username issued.password mechanism = some credentials ∧
    auth credentials = none
  owner : (smtpCredentialForAuth (normalized be.pipe.lib issued.username) table).map Prod.fst =
    .ok issued.userID
  principal : be.resolveSubmissionPrincipal (callOn call accounts table) issued.username =
    mailboxOf call issued.userID

def Uncapitalized (username : GoString) : Prop := username.map lowerByte = username

instance (username : GoString) : Decidable (Uncapitalized username) :=
  inferInstanceAs (Decidable (_ = _))

/-- Another credential of the user is stored under the lower-cased name and accepts the
password. -/
def Doubled (bcrypt : Bcrypt) (table : SMTPCredentials) (issued : Issued) : Prop :=
  ∃ row ∈ table.rows, row.username = issued.username.map lowerByte ∧ row.userID = issued.userID ∧
    bcrypt.accepts row.passwordHash issued.password = true

section Works

variable {be : SMTPBackend} {bcrypt : Bcrypt} {call : Call} {accounts : AccountLookup}
  {table : SMTPCredentials} {issued : Issued} {lib : Library}

theorem smtpCredentialForAuth_eq_ok {username hash : GoString} {userID : Nat} :
    smtpCredentialForAuth username table = .ok (userID, hash) ↔
      ∃ row ∈ table.rows, row.username = username ∧ row.userID = userID ∧ row.passwordHash = hash := by
  unfold smtpCredentialForAuth
  constructor
  · intro found
    split at found
    · cases found
    next row looked =>
      cases found
      exact ⟨row, List.mem_of_find?_eq_some looked, by simpa using List.find?_some looked, rfl, rfl⟩
  · rintro ⟨row, member, rfl, rfl, rfl⟩
    have present : (table.rows.find? (·.username = row.username)).isSome := by
      rw [List.find?_isSome]
      exact ⟨row, member, by simp⟩
    obtain ⟨other, looked⟩ := Option.isSome_iff_exists.mp present
    have same := SMTPCredentials.eq_of_username (List.mem_of_find?_eq_some looked) member
      (by simpa using List.find?_some looked)
    rw [looked, same]

theorem normalized_issued (stored : issued.Stored bcrypt table) (lib : Library) :
    normalized lib issued.username = issued.username.map lowerByte := by
  rw [normalized, trimSpace_token stored.username.2, toLower_token lib stored.username.2]

theorem works_iff_row (deployed : Deployed be) (stored : issued.Stored bcrypt table)
    (mechanism : Mechanism) :
    Works be bcrypt call accounts table mechanism issued ↔ Doubled bcrypt table issued := by
  have lowered := normalized_issued stored be.pipe.lib
  have named : issued.username.map lowerByte ≠ [] := by simpa using stored.username.1
  have carried := @submitted_token issued.username issued.password stored.username.2 mechanism
  constructor
  · intro works
    obtain ⟨auth, credentials, offered, decoded, passed⟩ := works.accepted
    have owner := works.owner
    rw [carried] at decoded
    cases decoded
    rw [SMTPBackend.authenticator, deployed.submission, deployed.hasStore] at offered
    simp only [Bool.not_true, Bool.or_self, Bool.false_eq_true, if_false, Option.some.injEq] at offered
    subst offered
    simp only [SMTPBackend.credentialVerdict, lowered, named, stored.password.1, or_self, if_false,
      deployed.hasMeta, if_true] at passed
    rw [lowered] at owner
    cases looked : smtpCredentialForAuth (issued.username.map lowerByte) table with
    | error err =>
      rw [looked] at owner
      cases owner
    | ok found =>
      obtain ⟨userID, hash⟩ := found
      rw [looked] at owner passed
      cases owner
      obtain ⟨row, member, name, user, rfl⟩ := smtpCredentialForAuth_eq_ok.mp looked
      refine ⟨row, member, name, user, ?_⟩
      by_contra refused
      simp [refused] at passed
  · rintro ⟨row, member, name, user, accepts⟩
    have looked : smtpCredentialForAuth (issued.username.map lowerByte) table =
        .ok (issued.userID, row.passwordHash) :=
      smtpCredentialForAuth_eq_ok.mpr ⟨row, member, name, user, rfl⟩
    refine ⟨⟨be.credentialVerdict bcrypt table, _, ?_, carried, ?_⟩, ?_, ?_⟩
    · rw [SMTPBackend.authenticator, deployed.submission, deployed.hasStore]
      rfl
    · simp [SMTPBackend.credentialVerdict, lowered, stored.username.1, stored.password.1,
        deployed.hasMeta, looked, accepts]
    · rw [lowered, looked]
      rfl
    · have unaddressed : ∃ err, accounts.userByEmail (issued.username.map lowerByte) = .error err := by
        cases found : accounts.userByEmail (issued.username.map lowerByte) with
        | error err => exact ⟨err, rfl⟩
        | ok email =>
          have at' := accounts.addressed _ _ found
          obtain ⟨byte, byteMember, same⟩ := List.mem_map.mp at'
          have none : ∀ byte : UInt8, isTokenByte byte = true → lowerByte byte ≠ 0x40 :=
            forall_byte (by decide +kernel)
          exact absurd same (none byte (stored.username.2 byte byteMember))
      obtain ⟨err, unknown⟩ := unaddressed
      rw [SMTPBackend.resolveSubmissionPrincipal]
      simp only [lowered, named, if_false, deployed.hasStore, deployed.hasMeta, if_true, callOn,
        unknown, looked]
      rfl

/-- In every run of requests, a credential that was shown and whose row stands works
through either mechanism exactly when its user name has no capital letter, or another
credential of its user is stored under the lower-cased name and accepts its password. -/
theorem shown_works_iff (deployed : Deployed be) {start reached : Shown} (empty : start.issued = [])
    (runs : (credentialRequests lib bcrypt).Runs (fun _ _ => True) start reached)
    (shown : issued ∈ reached.issued) (call : Call) (accounts : AccountLookup) (mechanism : Mechanism) :
    Works be bcrypt call accounts reached.table mechanism issued ↔
      Uncapitalized issued.username ∨ Doubled bcrypt reached.table issued := by
  have stored := shown_stored empty runs issued shown
  rw [works_iff_row deployed stored mechanism]
  constructor
  · exact .inr
  · rintro (plain | doubled)
    · obtain ⟨row, found, name, accepts⟩ := stored.row
      obtain ⟨member, key⟩ := SMTPCredentials.mem_of_find found
      exact ⟨row, member, name.trans plain.symm, congrArg Prod.fst key, accepts⟩
    · exact doubled

/-- A credential that was shown and stands is found by its user name and accepts its password,
and no other one that stands has its user name. -/
theorem shown_found {start reached : Shown} (empty : start.issued = [])
    (runs : (credentialRequests lib bcrypt).Runs (fun _ _ => True) start reached)
    (shown : issued ∈ reached.issued) :
    (∃ hash, smtpCredentialForAuth issued.username reached.table = .ok (issued.userID, hash) ∧
      bcrypt.accepts hash issued.password = true) ∧
    ∀ other ∈ reached.issued, other.username = issued.username → other.key = issued.key := by
  have sound := shown_stored empty runs
  obtain ⟨row, found, name, accepts⟩ := (sound issued shown).row
  obtain ⟨member, key⟩ := SMTPCredentials.mem_of_find found
  refine ⟨⟨row.passwordHash, ?_, accepts⟩, fun other otherShown same => ?_⟩
  · exact smtpCredentialForAuth_eq_ok.mpr ⟨row, member, name, congrArg Prod.fst key, rfl⟩
  · obtain ⟨otherRow, otherFound, otherName, -⟩ := (sound other otherShown).row
    obtain ⟨otherMember, otherKey⟩ := SMTPCredentials.mem_of_find otherFound
    rw [← key, ← otherKey, SMTPCredentials.eq_of_username member otherMember
      (name.trans (same.symm.trans otherName.symm))]

end Works

def sampleBcrypt : Bcrypt where
  generateFromPassword _ password := .ok (ascii "$2a$" ++ password)
  accepts hash password := hash = ascii "$2a$" ++ password
  sound := by
    intro _ _ _ hashed
    cases hashed
    simp

/-- Nothing but zeros is drawn; the user name is random bytes or else a UUID. -/
def sampleRandom (username : Option (Bytes 18)) : Random where
  username
  usernameUUID := ⟨List.replicate 16 0, rfl⟩
  password := some ⟨List.replicate 24 0, rfl⟩
  passwordUUIDs := (⟨List.replicate 16 0, rfl⟩, ⟨List.replicate 16 0, rfl⟩)
  salt := []
  credentialID := 1

def noCredentials : Shown := ⟨⟨[], .nil, .nil⟩, []⟩

def sampleCreate (username : Option (Bytes 18)) : CredentialAction :=
  .create (sampleRandom username) .done 7 (some (ascii "phone", ascii "AB"))

def sampleShown (username : Option (Bytes 18)) : Shown :=
  noCredentials.step samplePipe.lib sampleBcrypt (sampleCreate username)

def sampleIssued (username : Option (Bytes 18)) : Issued :=
  ⟨7, 1, randomSMTPUsername (sampleRandom username), randomSMTPPassword (sampleRandom username)⟩

def noAccounts : AccountLookup := ⟨fun _ => .error (.plain (ascii "no rows")), by simp⟩

theorem sampleShown_runs (username : Option (Bytes 18)) :
    (credentialRequests samplePipe.lib sampleBcrypt).Runs (fun _ _ => True) noCredentials
      (sampleShown username) :=
  .step .refl trivial rfl

theorem shown_found_created : ∃ hash, smtpCredentialForAuth (sampleIssued none).username
    (sampleShown none).table = .ok (7, hash) ∧
      sampleBcrypt.accepts hash (sampleIssued none).password = true :=
  (shown_found rfl (sampleShown_runs none) (by decide)).1

theorem sampleBackend_deployed : Deployed (sampleBackend true) := ⟨rfl, rfl, rfl⟩

/-- A user name with a UUID in it has no capital letter. -/
theorem shown_works_uuid :
    Works (sampleBackend true) sampleBcrypt (sampleCall fun _ => none) noAccounts
      (sampleShown none).table .login (sampleIssued none) :=
  (shown_works_iff sampleBackend_deployed rfl (sampleShown_runs none) (by decide)
    (sampleCall fun _ => none) noAccounts .login).mpr (.inl (by decide))

/-- Eighteen random bytes that are all zero give a user name of capital `A`s, and its
credential is refused. -/
theorem shown_refused :
    let zeros : Option (Bytes 18) := some ⟨List.replicate 18 0, rfl⟩
    (credentialRequests samplePipe.lib sampleBcrypt).Runs (fun _ _ => True) noCredentials
      (sampleShown zeros) ∧
    sampleIssued zeros ∈ (sampleShown zeros).issued ∧
    Deployed (sampleBackend true) ∧
    ∀ mechanism, ¬ Works (sampleBackend true) sampleBcrypt (sampleCall fun _ => none) noAccounts
      (sampleShown zeros).table mechanism (sampleIssued zeros) := by
  intro zeros
  have shown : sampleIssued zeros ∈ (sampleShown zeros).issued := by decide
  refine ⟨sampleShown_runs zeros, shown, sampleBackend_deployed, ?_⟩
  intro mechanism works
  obtain ⟨row, member, name, -⟩ := (works_iff_row sampleBackend_deployed
    (shown_stored rfl (sampleShown_runs zeros) _ shown) mechanism).mp works
  have none : ∀ row ∈ (sampleShown zeros).table.rows,
      row.username ≠ (sampleIssued zeros).username.map lowerByte := by decide
  exact none row member name

end ElvishMail.Elvishserver
