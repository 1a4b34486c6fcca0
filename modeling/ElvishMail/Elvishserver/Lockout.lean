import ElvishMail.Elvishserver.Access
import ElvishMail.Httpserver.AuthorizationCodes
import ElvishMail.Httpserver.PasswordChange
import ElvishMail.Session.Revocation

/-!
# Disabled users

`apiAdminUsersDisable` puts a mark in the place of a password hash and deletes the sessions
of the user. The mark is looked at where an SRP login begins, and by no other way in.
`locked_out`: a user stays locked out in every run in which nobody finishes a login of his
that was begun before, redeems a code that was issued for him before, or submits with one of
his SMTP credentials.
-/

namespace ElvishMail.Elvishserver

open Go Smtp Mailmeta Mailpipe Pake Semantics Httpserver

/-- The user is marked, has no session, and his id is not given again. -/
structure Locked (userID : Nat) (store : AccessStore) : Prop where
  marked : ∀ row ∈ store.auth.users, row.userID = userID →
    row.passwordHash = Auth.disabledPasswordSentinel
  outside : ∀ token pay, store.valkey.sessions token = some pay → pay.userID ≠ userID
  given : store.given userID = true

def Elsewhere (userID : Nat) : AccessQuery → Prop
  | .auth (.updateUserSRP other _) => other ≠ userID
  | .session (.set _ payload) => payload.userID ≠ userID
  | .updateUserPasswordHash other _ => other ≠ userID
  | _ => True

section Queries

variable {site : AccessSite} {userID : Nat} {store : AccessStore}

theorem sessions_answer {command : Session.Command} {outcome : Outcome GoError}
    {valkey : Session.Valkey} {token : GoString} {pay : Session.Payload}
    (found : (command.answer outcome valkey).2.sessions token = some pay) :
    valkey.sessions token = some pay ∨ command = .set token pay := by
  rcases Session.sessions_after outcome command valkey token with same | gone | ⟨payload, set, -, now⟩
  · exact .inl (same.symm.trans found)
  · cases gone.symm.trans found
  · cases now.symm.trans found
    exact .inr set

theorem users_answer {command : Auth.Command} {outcome : Outcome GoError} {auth : Auth.AuthStore}
    (apart : Elsewhere userID (.auth command)) {row : Auth.UserAuth}
    (member : row ∈ (command.answer 0 outcome auth).2.users) (own : row.userID = userID) :
    row ∈ auth.users := by
  cases command with
  | set id challenge =>
    simp only [Auth.Command.answer, Outcome.exec] at member
    split at member <;> exact member
  | getDel id =>
    simp only [Auth.Command.answer] at member
    split at member <;> exact member
  | updateAccountKey other wrap =>
    simp only [Auth.Command.answer, Auth.Command.update, Outcome.exec] at member
    split at member
    · split at member <;> exact member
    · exact member
  | updateUserSRP other record =>
    simp only [Auth.Command.answer, Auth.Command.update, Outcome.exec] at member
    split at member
    · split at member
      · obtain ⟨before, there, same⟩ := List.mem_map.mp member
        split at same
        next is =>
          subst same
          exact absurd own (is ▸ apart)
        next =>
          subst same
          exact there
      · exact member
    · exact member
  | now | storeLocal id challenge | takeLocal id | userAuthByEmail email | userByID other => exact member

theorem Locked.without (locked : Locked userID store) (other : Nat) :
    Locked userID (store.withoutUser other) where
  marked row member := locked.marked row (List.mem_filter.mp member).1
  outside := locked.outside
  given := locked.given

theorem Locked.insert (locked : Locked userID store) {row : Auth.UserAuth}
    (fresh : store.given row.userID = false) (name : GoString) : Locked userID (store.withUser row name) := by
  have different : row.userID ≠ userID := by
    rintro rfl
    cases fresh.symm.trans locked.given
  refine ⟨fun other member own => ?_, locked.outside, ?_⟩
  · rcases List.mem_append.mp member with before | now
    · exact locked.marked other before own
    · cases List.mem_singleton.mp now
      exact absurd own different
  · show Function.update store.given row.userID true userID = true
    rw [Function.update_of_ne different.symm]
    exact locked.given

theorem Locked.answer (locked : Locked userID store) {query : AccessQuery}
    (apart : Elsewhere userID query) (outcome : Outcome GoError) :
    Locked userID (query.answer site outcome store).2 := by
  cases query with
  | auth command =>
    exact ⟨fun row member own => locked.marked row (users_answer apart member own) own, locked.outside,
      locked.given⟩
  | session command =>
    refine ⟨locked.marked, fun token pay found => ?_, locked.given⟩
    rcases sessions_answer found with before | rfl
    · exact locked.outside token pay before
    · exact apart
  | updateUserPasswordHash other passwordHash =>
    simp only [AccessQuery.answer]
    split
    · show Locked userID (outcome.exec (·.withPasswordHash other passwordHash) store).2
      refine Outcome.exec_holds (Locked userID) outcome locked ?_
      refine ⟨fun row member own => ?_, locked.outside, locked.given⟩
      obtain ⟨before, there, same⟩ := List.mem_map.mp member
      split at same
      next is =>
        subst same
        exact absurd (is.symm.trans own) apart
      next =>
        subst same
        exact locked.marked before there own
    · exact locked
  | insertUser row name =>
    simp only [AccessQuery.answer]
    split
    next admitted =>
      have fresh : store.given row.userID = false := by
        simp only [AccessStore.admits, Bool.and_eq_true, Bool.not_eq_true'] at admitted
        exact admitted.1
      show Locked userID (outcome.exec (·.withUser row name) store).2
      exact Outcome.exec_holds (Locked userID) outcome locked (locked.insert fresh name)
    · exact locked
  | deleteUser other => exact Outcome.exec_holds (Locked userID) outcome locked (locked.without other)
  | saveLogin id state | deleteLogin id | saveWebAuthn id state | deleteWebAuthn id =>
    exact Outcome.exec_holds (Locked userID) outcome locked ⟨locked.marked, locked.outside, locked.given⟩
  | factor other operation | oidc command | smtp other action =>
    exact ⟨locked.marked, locked.outside, locked.given⟩
  | loadLogin id | loadWebAuthn id | deleteTemporary | heldRow other | authenticate credentials =>
    exact locked

end Queries

section Programs

variable {site : AccessSite} {userID : Nat}

def Apart (userID : Nat) : Session.Command → Prop
  | .set _ payload => payload.userID ≠ userID
  | _ => True

theorem runSession_only {program : Session.Commands} (only : program.Only (Apart userID)) :
    (runSession program).Only (Elsewhere userID) := by
  refine (only.handle fun command apart => ?_).bind fun result => ?_
  · cases command with
    | set token payload => exact ⟨apart, fun _ => trivial⟩
    | _ => exact ⟨trivial, fun _ => trivial⟩
  · cases result <;> trivial

theorem createWithPayload_only {draw : Except GoError GoString} {payload : Session.Payload} {now : Int}
    (apart : payload.userID ≠ userID) :
    (Session.createWithPayload draw payload now).Only (Apart userID) := by
  have stamped : (payload.stamped now).userID ≠ userID := by
    unfold Session.Payload.stamped
    split <;> exact apart
  unfold Session.createWithPayload
  split
  · trivial
  cases draw with
  | error err => trivial
  | ok token =>
    refine ⟨stamped, fun reply => ?_⟩
    cases reply with
    | some err => trivial
    | none =>
      refine ⟨trivial, fun reply => ?_⟩
      cases reply with
      | some err => exact ⟨trivial, fun _ => trivial⟩
      | none => exact ⟨trivial, fun _ => trivial⟩

theorem put_only {token : GoString} {payload : Session.Payload} {now : Int}
    (apart : payload.userID ≠ userID) : (Session.put token payload now).Only (Apart userID) := by
  have stamped : (payload.stamped now).userID ≠ userID := by
    unfold Session.Payload.stamped
    split <;> exact apart
  unfold Session.put
  split
  · trivial
  split
  · trivial
  refine ⟨stamped, fun reply => ?_⟩
  cases reply with
  | some err => trivial
  | none => exact ⟨trivial, fun _ => ⟨trivial, fun _ => trivial⟩⟩

theorem sweep_only (user : Nat) (tokens : List GoString) (err : Option GoError) :
    (Session.sweep user tokens err).Only (Apart userID) := by
  induction tokens generalizing err with
  | nil => exact ⟨trivial, fun _ => trivial⟩
  | cons token rest ih => exact ⟨trivial, fun _ => ih _⟩

theorem deleteUserSessions_only (user : Nat) : (Session.deleteUserSessions user).Only (Apart userID) := by
  refine ⟨trivial, fun reply => ?_⟩
  cases reply with
  | error err => trivial
  | ok tokens =>
    show (if tokens.length = 0 then _ else _ : Session.Commands).Only (Apart userID)
    split
    · trivial
    · exact sweep_only user tokens none

theorem delete_only (token : GoString) : (Session.delete token).Only (Apart userID) := by
  have removed : (Session.remove token).Only (Apart userID) := by
    refine ⟨trivial, fun reply => ?_⟩
    cases reply <;> trivial
  unfold Session.delete
  split
  · trivial
  refine ⟨trivial, fun reply => ?_⟩
  rcases reply with err | (_ | payload)
  · trivial
  · exact removed
  · exact ⟨trivial, fun _ => removed⟩

theorem onFactors_only {user : Auth.UserAuth} (other : user.userID ≠ userID) {firstFactor : GoString}
    {draw : Draw} {session : Option (GoString × Int)} {finished : Option GoString} (operation : Operation) :
    (onFactors user firstFactor draw session finished operation).Only (Elsewhere userID) := by
  cases operation with
  | saveTemporaryJSON =>
    unfold onFactors
    dsimp only
    split
    · trivial
    · exact ⟨trivial, fun _ => trivial⟩
  | deleteTemporaryJSON =>
    unfold onFactors
    dsimp only
    split <;> exact ⟨trivial, fun _ => trivial⟩
  | deleteUserSessions => exact runSession_only (deleteUserSessions_only _)
  | createSession payload => exact runSession_only (createWithPayload_only other)
  | putSession payload =>
    unfold onFactors
    dsimp only
    split
    · trivial
    · exact runSession_only (put_only other)
  | _ => exact ⟨trivial, fun _ => trivial⟩

/-! ### SRP requests -/

def Aside (userID : Nat) (command : Auth.Command) : Prop := Elsewhere userID (.auth command)

theorem runAuth_only {program : Auth.Commands} (only : program.Only (Aside userID)) :
    (runAuth program).Only (Elsewhere userID) :=
  only.handle fun _ apart => ⟨apart, fun _ => trivial⟩

theorem issueSRPChallenge_only {site : Auth.AuthSite} (label : String) (id : GoString)
    (challenge : Auth.SRPChallenge) :
    (Auth.issueSRPChallenge site label id challenge).Only (Aside userID) := by
  refine ⟨trivial, fun createdAt => ?_⟩
  dsimp only
  split
  · split
    · trivial
    · refine ⟨trivial, fun reply => ?_⟩
      cases reply <;> trivial
  · exact ⟨trivial, fun _ => trivial⟩

theorem checkTaken_only {purpose : GoString} {challenge : Auth.SRPChallenge}
    {next : Option Auth.SRPChallenge → Auth.Commands} (onward : ∀ taken, (next taken).Only (Aside userID)) :
    (Auth.checkTaken purpose challenge next).Only (Aside userID) := by
  unfold Auth.checkTaken
  split
  · exact onward none
  · refine ⟨trivial, fun now => ?_⟩
    dsimp only
    split
    · exact onward none
    · exact onward (some challenge)

theorem takeSRPChallenge_only {site : Auth.AuthSite} {label : String} {id purpose : GoString}
    {next : Option Auth.SRPChallenge → Auth.Commands} (onward : ∀ taken, (next taken).Only (Aside userID)) :
    (Auth.takeSRPChallenge site label id purpose next).Only (Aside userID) := by
  have locally : (Auth.takeLocalChallenge id purpose next).Only (Aside userID) := by
    refine ⟨trivial, fun taken => ?_⟩
    cases taken with
    | none => exact onward none
    | some challenge => exact checkTaken_only onward
  unfold Auth.takeSRPChallenge
  split
  · split
    · trivial
    · refine ⟨trivial, fun reply => ?_⟩
      rcases reply with err | (_ | challenge)
      · trivial
      · exact locally
      · exact checkTaken_only onward
  · exact locally

theorem beginSRP_only {site : Auth.AuthSite} (purpose loading storing : String) (draws : Auth.Draws)
    (gate : Option Refusal) (user : Nat) (clientPublic : GoString) :
    (Auth.beginSRP site purpose loading storing draws gate user clientPublic).Only (Aside userID) := by
  unfold Auth.beginSRP
  split
  · trivial
  split
  · trivial
  refine ⟨trivial, fun reply => ?_⟩
  cases reply with
  | error err => trivial
  | ok fresh =>
    dsimp only
    split
    · trivial
    split
    · trivial
    · exact issueSRPChallenge_only ..

theorem verifySRP_only {site : Auth.AuthSite} {label purpose : String} {user : Nat}
    {body : Auth.FinishBody} {next : Auth.SRPChallenge → Auth.Commands}
    (onward : ∀ challenge, (next challenge).Only (Aside userID)) :
    (Auth.verifySRP site label purpose user body next).Only (Aside userID) := by
  refine takeSRPChallenge_only fun taken => ?_
  cases taken with
  | none => trivial
  | some challenge =>
    dsimp only
    split
    · trivial
    split
    · trivial
    · exact onward challenge

theorem passwordFinish_only {site : Auth.AuthSite} (gate : Option Refusal) {user : Nat}
    (other : user ≠ userID) (body : Auth.PasswordChange) :
    (Auth.apiAuthPasswordSRPFinish site gate user body).Only (Aside userID) := by
  unfold Auth.apiAuthPasswordSRPFinish
  split
  · trivial
  refine verifySRP_only fun challenge => ?_
  split
  · trivial
  refine ⟨trivial, fun reply => ?_⟩
  rcases reply with _ | (_ | err)
  · dsimp only
    unfold Auth.updateUserSRP
    split
    · trivial
    · refine ⟨other, fun reply => ?_⟩
      cases reply <;> trivial
  · trivial
  · trivial

theorem deleteFinish_only {site : Auth.AuthSite} (gate : Option Refusal) (user : Nat)
    (confirmation : GoString) (body : Auth.FinishBody) :
    (Auth.decodeVerifiedAccountDeleteAction site gate user confirmation body).Only (Aside userID) := by
  unfold Auth.decodeVerifiedAccountDeleteAction
  split
  · trivial
  split
  · trivial
  · exact verifySRP_only fun _ => trivial

theorem Action.program_only {user : Auth.UserAuth} {pay : Session.Payload}
    (other : user.userID ≠ userID) (same : pay.userID = user.userID) (cookie : GoString)
    (action : Action) : (action.program site cookie user pay).Only (Elsewhere userID) := by
  cases action with
  | passwordBegin draws gate clientPublic =>
    exact (runAuth_only (beginSRP_only ..)).bind fun _ => trivial
  | passwordFinish gate body =>
    exact (runAuth_only (passwordFinish_only gate other body)).bind fun _ => trivial
  | deleteBegin draws gate clientPublic =>
    exact (runAuth_only (beginSRP_only ..)).bind fun _ => trivial
  | deleteFinish gate confirmation body =>
    exact (runAuth_only (deleteFinish_only ..)).bind fun _ => trivial
  | factors request draw =>
    exact ⟨trivial, fun now => (Program.handle_only _ (onFactors_only other)).bind fun _ => trivial⟩
  | verify refused now =>
    cases refused with
    | some refusal => trivial
    | none =>
      refine (runSession_only (put_only ?_)).bind fun err => ?_
      · exact same ▸ other
      · cases err <;> trivial
  | smtp action => exact ⟨trivial, fun _ => trivial⟩
  | elsewhere => trivial

theorem finishLogin_only {user : Auth.UserAuth} (other : user.userID ≠ userID) {firstFactor : GoString}
    {draw : Draw} {finished : Option GoString} (program : Operations MFAReply) :
    (finishLogin user firstFactor draw finished program).Only (Elsewhere userID) := by
  refine (Program.handle_only program (onFactors_only other)).bind fun reply => ?_
  cases reply <;> trivial

end Programs

def ProvesLogin (auth : Auth.AuthStore) (userID : Nat) (body : Auth.FinishBody) : Prop :=
  ∃ kept : Auth.Kept,
    (auth.ephemeral (trimSpace body.sessionID) = some kept ∨
      auth.authChallenges (trimSpace body.sessionID) = some kept) ∧
    kept.challenge.purpose = ascii "login" ∧ kept.challenge.userID = some userID ∧
    auth.clock - kept.challenge.createdAt ≤ Auth.srpChallengeTTL ∧ kept.challenge.dummy = false ∧
    body.proves kept.challenge = true

def Pending (store : AccessStore) (userID : Nat) (id : GoString) : Prop :=
  ∃ state, store.pendingLogins (trimSpace id) = some state ∧ state.userID = userID

structure FitsCredential (site : AccessSite) (table : SMTPCredentials) (userID : Nat)
    (credentials : Credentials) : Prop where
  deployed : Deployed site.backend
  password : credentials.password ≠ []
  row : ∃ row ∈ table.rows, row.userID = userID ∧
    row.username = normalized site.backend.pipe.lib credentials.username ∧
    site.bcrypt.accepts row.passwordHash credentials.password = true

/-- A request finishes a login of a user that was begun, redeems a code that was issued for
him, or submits with a credential of his. -/
def UsesOld (site : AccessSite) (userID : Nat) (store : AccessStore) : AccessRequest → Prop
  | .loginSRPFinish _ body _ => ProvesLogin store.auth userID body
  | .loginTOTP _ id proved _ => proved = true ∧ Pending store userID id
  | .loginRecovery _ id hash _ => Pending store userID id ∧
      ((store.accounts userID).unused.any fun code => code.codeHash = trimSpace hash) = true
  | .loginWebAuthnFinish _ id proved _ => proved = true ∧
      ∃ state, store.webAuthnLogins (trimSpace id) = some state ∧ state.userID = userID
  | .token request => ∃ kept, store.oidc.live (trimSpace request.code) = some kept ∧
      kept.stored.userID = userID ∧ kept.stored.clientID = request.credentials.1 ∧
      kept.stored.redirectURI = trimSpace request.redirectURI
  | .submit credentials => FitsCredential site store.credentials userID credentials
  | _ => False

/-- A user stays locked out, and a request was not answered for him. -/
def Shut (userID : Nat) (store : AccessStore) (request : AccessRequest) (reply : AccessReply)
    (after : AccessStore) : Prop :=
  request.actor store reply ≠ some userID ∧ Locked userID after

section Serving

variable {site : AccessSite} {userID : Nat} {store : AccessStore} {request : AccessRequest}

theorem Locked.shut {before : AccessStore} {program : AccessProgram AccessReply}
    (locked : Locked userID store) (only : program.Only (Elsewhere userID))
    (returns : program.Returns fun reply => request.actor before reply ≠ some userID) :
    program.Ensures (AccessQuery.answer site) store (Shut userID before request) :=
  only.ensures_returns returns (Locked userID)
    (fun outcome _ _ apart locked => locked.answer apart outcome) locked

theorem finishLogin_returns {user : Auth.UserAuth} (other : user.userID ≠ userID) {firstFactor : GoString}
    {draw : Draw} {finished : Option GoString} (program : Operations MFAReply) :
    (finishLogin user firstFactor draw finished program).Returns fun reply =>
      request.actor store reply ≠ some userID := by
  refine (Program.returns_true _).bind fun reply _ => ?_
  cases reply with
  | refused refusal => exact nofun
  | _ => exact fun same => other (Option.some.inj same)

theorem finishLogin_shut {before : AccessStore} {user : Auth.UserAuth} (locked : Locked userID store)
    (other : user.userID ≠ userID) {firstFactor : GoString} {draw : Draw} {finished : Option GoString}
    (program : Operations MFAReply) :
    (finishLogin user firstFactor draw finished program).Ensures (AccessQuery.answer site) store
      (Shut userID before request) :=
  locked.shut (finishLogin_only other program) (finishLogin_returns other program)

theorem deny_shut {before : AccessStore} (locked : Locked userID store) (code : Nat) (text : String) :
    (deny code text).Ensures (AccessQuery.answer site) store (Shut userID before request) :=
  ⟨nofun, locked⟩

theorem failing_shut {before : AccessStore} (locked : Locked userID store) (label : String)
    (err : GoError) :
    (failing label err).Ensures (AccessQuery.answer site) store (Shut userID before request) :=
  ⟨nofun, locked⟩

theorem Locked.ask {Value : Type} {wanted : Value → AccessStore → Prop} {query : AccessQuery}
    {next : query.Answer → AccessProgram Value} (locked : Locked userID store)
    (apart : Elsewhere userID query)
    (onward : ∀ outcome reply after, query.answer site outcome store = (reply, after) →
      Locked userID after → (next reply).Ensures (AccessQuery.answer site) after wanted) :
    (Program.ask query next).Ensures (AccessQuery.answer site) store wanted :=
  fun outcome => onward outcome _ _ rfl (locked.answer apart outcome)

theorem lookup_user {outcome : Outcome GoError} {other : Nat} {row : Auth.UserAuth} {after : AccessStore}
    (found : (AccessQuery.auth (.userByID other)).answer site outcome store = (.ok row, after)) :
    row.userID = other := by
  have read : ((Auth.Command.userByID other).answer 0 outcome store.auth).1 = .ok row :=
    congrArg Prod.fst found
  have credible := Auth.answer_credible 0 outcome (.userByID other) store.auth
  rw [read] at credible
  exact credible

theorem lookup_mem {outcome : Outcome GoError} {email : GoString} {row : Auth.UserAuth}
    {after : AccessStore}
    (found : (AccessQuery.auth (.userAuthByEmail email)).answer site outcome store = (.ok row, after)) :
    row ∈ store.auth.users := by
  have read : Auth.Command.lookup outcome (store.auth.users.find? (·.email = email)) = .ok row :=
    congrArg Prod.fst found
  rcases outcome.read_cases (store.auth.users.find? (·.email = email)) with value | ⟨err, failed⟩
  · rw [Auth.Command.lookup, value] at read
    cases there : store.auth.users.find? (·.email = email) with
    | none =>
      rw [there] at read
      cases read
    | some other =>
      rw [there] at read
      cases read
      exact List.mem_of_find?_eq_some there
  · rw [Auth.Command.lookup, failed] at read
    cases read

/-! ### Logging in with a password -/

def RejectsMark (bcrypt : Bcrypt) : Prop :=
  ∀ password, bcrypt.accepts Auth.disabledPasswordSentinel password = false

theorem login_shut (locked : Locked userID store)
    (rejects : RejectsMark site.bcrypt) (gate : Option Refusal) (username password : GoString) (draw : Draw) :
    (login site gate username password draw).Ensures (AccessQuery.answer site) store
      (Shut userID store request) := by
  unfold login
  split
  · exact ⟨nofun, locked⟩
  dsimp only
  split
  · exact deny_shut locked ..
  refine locked.ask trivial fun outcome reply after answered kept => ?_
  rcases reply with (_ | err) | row
  · exact deny_shut kept ..
  · exact failing_shut kept ..
  · dsimp only
    split
    · exact deny_shut kept ..
    next accepted =>
      refine finishLogin_shut kept (fun own => accepted ?_) _
      rw [locked.marked row (lookup_mem answered) own]
      exact rejects password

/-! ### Pending logins -/

theorem withPending_shut {before : AccessStore} (locked : Locked userID store) {id : GoString}
    {next : PendingLogin → Auth.UserAuth → AccessProgram AccessReply}
    (onward : ∀ state user after, store.pendingLogins (trimSpace id) = some state →
      user.userID = state.userID → Locked userID after → after.accounts = store.accounts →
      (next state user).Ensures (AccessQuery.answer site) after (Shut userID before request)) :
    (withPending id next).Ensures (AccessQuery.answer site) store (Shut userID before request) := by
  unfold withPending loadLogin
  split
  · exact deny_shut locked ..
  refine locked.ask trivial fun outcome reply after answered kept => ?_
  have same : after = store := (congrArg Prod.snd answered).symm
  have read : outcome.read (store.pendingLogins (trimSpace id)) = reply := congrArg Prod.fst answered
  rcases reply with err | (_ | state)
  · exact failing_shut kept ..
  · exact deny_shut kept ..
  subst same
  have found : after.pendingLogins (trimSpace id) = some state := by
    rcases outcome.read_cases (after.pendingLogins (trimSpace id)) with value | ⟨err, failed⟩
    · exact Except.ok.inj (value.symm.trans read)
    · cases failed.symm.trans read
  refine locked.ask trivial fun outcome reply later answered kept => ?_
  cases reply with
  | error err => exact deny_shut kept ..
  | ok user =>
    exact onward state user later found (lookup_user answered) kept
      (congrArg AccessStore.accounts (congrArg Prod.snd answered).symm)

theorem loginTOTP_shut (locked : Locked userID store) {gate : Option Refusal} {id : GoString}
    {proved : Bool} {draw : Draw} (spared : ¬(proved = true ∧ Pending store userID id)) :
    (loginTOTP gate id proved draw).Ensures (AccessQuery.answer site) store
      (Shut userID store request) := by
  unfold loginTOTP
  split
  · exact ⟨nofun, locked⟩
  refine withPending_shut locked fun state user after found own kept _ => ?_
  split
  · exact deny_shut kept ..
  next right =>
    refine kept.ask trivial fun _ _ _ _ kept => finishLogin_shut kept (fun same => spared ⟨?_, ?_⟩) _
    · simpa using right
    · exact ⟨state, found, own.symm.trans same⟩

theorem wrong_code {user : Auth.UserAuth} {firstFactor : GoString} {draw : Draw} {finished : Option GoString}
    {before : AccessStore} {hash : GoString} {methods : List GoString} {now : Int}
    (locked : Locked userID store)
    (wrong : ((store.accounts user.userID).unused.any fun code => code.codeHash = trimSpace hash) = false) :
    (finishLogin user firstFactor draw finished (apiAuth2FALoginRecovery none hash methods now)).Ensures
      (AccessQuery.answer site) store (Shut userID before request) := by
  refine locked.ask trivial fun outcome reply after answered kept => ?_
  have refused : ∃ err, reply = some err := by
    have updated : (Operation.update outcome
        ((store.accounts user.userID).unused.any fun code => code.codeHash = trimSpace hash)
        (fun account => { account with recoveryCodes := Operation.consume hash account.recoveryCodes })
        (store.accounts user.userID)).1 = reply := congrArg Prod.fst answered
    rw [← updated, wrong, Operation.update]
    dsimp only
    split
    · exact ⟨_, rfl⟩
    · exact ⟨_, rfl⟩
  obtain ⟨err, rfl⟩ := refused
  exact ⟨nofun, kept⟩

theorem loginRecovery_shut (locked : Locked userID store) {gate : Option Refusal} {id hash : GoString}
    {draw : Draw}
    (spared : ¬(Pending store userID id ∧
      ((store.accounts userID).unused.any fun code => code.codeHash = trimSpace hash) = true)) :
    (loginRecovery gate id hash draw).Ensures (AccessQuery.answer site) store
      (Shut userID store request) := by
  unfold loginRecovery
  split
  · exact ⟨nofun, locked⟩
  refine withPending_shut locked fun state user after found own kept same => ?_
  by_cases his : user.userID = userID
  · refine wrong_code kept ?_
    rw [his, same]
    simpa using fun has => spared ⟨⟨state, found, own.symm.trans his⟩, has⟩
  · exact finishLogin_shut kept his _

theorem loginWebAuthnBegin_shut (locked : Locked userID store) (gate : Option Refusal) (id : GoString)
    (draw : Draw) :
    (loginWebAuthnBegin gate id draw).Ensures (AccessQuery.answer site) store
      (Shut userID store request) := by
  unfold loginWebAuthnBegin
  split
  · exact ⟨nofun, locked⟩
  unfold loadLogin
  split
  · exact deny_shut locked ..
  refine locked.ask trivial fun _ reply _ _ kept => ?_
  rcases reply with err | (_ | state)
  · exact failing_shut kept ..
  · exact deny_shut kept ..
  refine kept.ask trivial fun _ reply _ _ kept => ?_
  cases reply with
  | error err => exact failing_shut kept ..
  | ok user =>
    dsimp only
    split
    · exact failing_shut kept ..
    · refine kept.ask trivial fun _ reply _ _ kept => ?_
      cases reply with
      | some err => exact failing_shut kept ..
      | none => exact ⟨nofun, kept⟩

theorem finishWebAuthn_shut {before : AccessStore} (locked : Locked userID store) {id : GoString}
    {state : PendingWebAuthn} {proved : Bool} {draw : Draw}
    (spared : proved = true → state.userID ≠ userID) :
    (finishWebAuthn id state proved draw).Ensures (AccessQuery.answer site) store
      (Shut userID before request) := by
  unfold finishWebAuthn loadLogin
  split
  · exact deny_shut locked ..
  refine locked.ask trivial fun _ reply _ _ kept => ?_
  rcases reply with err | (_ | pending)
  · exact failing_shut kept ..
  · exact deny_shut kept ..
  refine kept.ask trivial fun _ reply _ answered kept => ?_
  cases reply with
  | error err => exact failing_shut kept ..
  | ok user =>
    dsimp only
    split
    · exact deny_shut kept ..
    next right =>
      refine kept.ask trivial fun _ _ _ _ kept => kept.ask trivial fun _ _ _ _ kept => ?_
      refine finishLogin_shut kept (fun same => spared ?_ ((lookup_user answered).symm.trans same)) _
      simpa using right

theorem loginWebAuthnFinish_shut (locked : Locked userID store) {gate : Option Refusal}
    {id : GoString} {proved : Bool} {draw : Draw}
    (spared : ¬(proved = true ∧
      ∃ state, store.webAuthnLogins (trimSpace id) = some state ∧ state.userID = userID)) :
    (loginWebAuthnFinish gate id proved draw).Ensures (AccessQuery.answer site) store
      (Shut userID store request) := by
  unfold loginWebAuthnFinish
  split
  · exact ⟨nofun, locked⟩
  split
  · exact deny_shut locked ..
  refine locked.ask trivial fun outcome reply after answered kept => ?_
  have read : outcome.read (store.webAuthnLogins (trimSpace id)) = reply := congrArg Prod.fst answered
  rcases reply with err | (_ | state)
  · exact failing_shut kept ..
  · exact deny_shut kept ..
  refine finishWebAuthn_shut kept fun right own => spared ⟨right, state, ?_, own⟩
  rcases outcome.read_cases (store.webAuthnLogins (trimSpace id)) with value | ⟨err, failed⟩
  · exact Except.ok.inj (value.symm.trans read)
  · cases failed.symm.trans read

/-! ### SRP logins -/

def Unanswered : Auth.AuthReply → Prop
  | .issued _ | .refused _ => True
  | .verified _ _ | .changed _ _ => False

theorem issueSRPChallenge_returns {site : Auth.AuthSite} (label : String) (id : GoString)
    (challenge : Auth.SRPChallenge) :
    (Auth.issueSRPChallenge site label id challenge).Returns Unanswered := by
  intro createdAt
  dsimp only
  split
  · split
    · trivial
    · intro reply
      cases reply <;> trivial
  · exact fun _ => trivial

def Quiet (userID : Nat) (program : Auth.Commands) : Prop :=
  program.Only (Aside userID) ∧ program.Returns Unanswered

theorem issueLogin_quiet {site : Auth.AuthSite} (draws : Auth.Draws) (username clientPublic : GoString)
    (user : Option Auth.UserAuth) (reg : Pake.Registration) :
    Quiet userID (Auth.issueLogin site draws username clientPublic user reg) := by
  unfold Auth.issueLogin
  split
  · exact ⟨trivial, trivial⟩
  split
  · exact ⟨trivial, trivial⟩
  · exact ⟨issueSRPChallenge_only .., issueSRPChallenge_returns _ _ _⟩

theorem loadSRPUserForEmail_quiet {site : Auth.AuthSite} {email : GoString}
    {next : Except GoError (Option Auth.UserAuth) → Auth.Commands}
    (onward : ∀ found, Quiet userID (next found)) :
    Quiet userID (Auth.loadSRPUserForEmail site email next) := by
  have only := fun found => (onward found).1
  have returns := fun found => (onward found).2
  refine ⟨⟨trivial, fun reply => ?_⟩, fun reply => ?_⟩
  · rcases reply with (_ | err) | row
    · exact only _
    · exact only _
    · dsimp only
      split
      · exact only _
      · split <;> exact only _
  · rcases reply with (_ | err) | row
    · exact returns _
    · exact returns _
    · dsimp only
      split
      · exact returns _
      · split <;> exact returns _

theorem loginBegin_quiet {site : Auth.AuthSite} (draws : Auth.Draws) (gate : Option Refusal)
    (body : Auth.LoginBegin) : Quiet userID (Auth.apiLoginSRPBegin site draws gate body) := by
  unfold Auth.apiLoginSRPBegin
  split
  · exact ⟨trivial, trivial⟩
  split
  · exact ⟨trivial, trivial⟩
  split
  · exact ⟨trivial, trivial⟩
  refine loadSRPUserForEmail_quiet fun found => ?_
  rcases found with err | (_ | row)
  · exact ⟨trivial, trivial⟩
  · dsimp only
    split
    · exact ⟨trivial, trivial⟩
    · exact issueLogin_quiet ..
  · exact issueLogin_quiet ..

theorem loginSRPBegin_shut (locked : Locked userID store) (draws : Auth.Draws) (gate : Option Refusal)
    (body : Auth.LoginBegin) :
    (runAuth (Auth.apiLoginSRPBegin site.auth draws gate body) >>= fun reply =>
      (.done (.auth reply) : AccessProgram AccessReply)).Ensures (AccessQuery.answer site) store
      (Shut userID store request) := by
  obtain ⟨only, returns⟩ := @loginBegin_quiet userID site.auth draws gate body
  refine locked.shut ((runAuth_only only).bind fun _ => trivial) ?_
  refine returns.handle.bind fun reply quiet => ?_
  cases reply with
  | issued id => exact nofun
  | refused refusal => exact nofun
  | verified user proof => cases quiet
  | changed user proof => cases quiet

def Unmoved (auth after : Auth.AuthStore) : Prop :=
  after.users = auth.users ∧ after.clock = auth.clock

section Taking

variable {auth : Auth.AuthStore} {next : Option Auth.SRPChallenge → Auth.Commands}
  {wanted : Auth.AuthReply → Auth.AuthStore → Prop} {purpose id : GoString}

theorem checkTaken_ensures {challenge : Auth.SRPChallenge} (named : purpose ≠ [])
    (absent : (next none).Ensures (Auth.Command.answer 0) auth wanted)
    (present : challenge.purpose = purpose → auth.clock - challenge.createdAt ≤ Auth.srpChallengeTTL →
      (next (some challenge)).Ensures (Auth.Command.answer 0) auth wanted) :
    (Auth.checkTaken purpose challenge next).Ensures (Auth.Command.answer 0) auth wanted := by
  unfold Auth.checkTaken
  split
  · exact absent
  next agrees =>
    intro outcome
    show Program.Ensures _ (if auth.clock - challenge.createdAt > Auth.srpChallengeTTL then next none
      else next (some challenge)) auth wanted
    split
    · exact absent
    next fresh =>
      refine present ?_ (Int.not_lt.mp fresh)
      by_contra differs
      exact agrees ⟨named, differs⟩

theorem takeSRPChallenge_ensures {site : Auth.AuthSite} {label : String} (named : purpose ≠ [])
    (failed : ∀ refusal after, Unmoved auth after → wanted (.refused refusal) after)
    (absent : ∀ after, Unmoved auth after → (next none).Ensures (Auth.Command.answer 0) after wanted)
    (present : ∀ (kept : Auth.Kept) after, Unmoved auth after →
      auth.ephemeral (trimSpace id) = some kept ∨ auth.authChallenges id = some kept →
      kept.challenge.purpose = purpose → auth.clock - kept.challenge.createdAt ≤ Auth.srpChallengeTTL →
      (next (some kept.challenge)).Ensures (Auth.Command.answer 0) after wanted) :
    (Auth.takeSRPChallenge site label id purpose next).Ensures (Auth.Command.answer 0) auth wanted := by
  have locally : ∀ before, Unmoved auth before → before.authChallenges = auth.authChallenges →
      (Auth.takeLocalChallenge id purpose next).Ensures (Auth.Command.answer 0) before wanted := by
    intro before unmoved same outcome
    simp only [Auth.Command.answer]
    cases found : before.authChallenges id with
    | none => exact absent _ unmoved
    | some kept =>
      refine checkTaken_ensures named (absent _ unmoved) fun agrees fresh => ?_
      refine present kept _ unmoved (.inr (same ▸ found)) agrees ?_
      rw [← unmoved.2]
      exact fresh
  unfold Auth.takeSRPChallenge
  split
  · split
    · exact failed _ _ ⟨rfl, rfl⟩
    · intro outcome
      have unmoved : Unmoved auth ((Auth.Command.getDel (trimSpace id)).answer 0 outcome auth).2 ∧
          ((Auth.Command.getDel (trimSpace id)).answer 0 outcome auth).2.authChallenges =
            auth.authChallenges := by
        simp only [Auth.Command.answer]
        split <;> exact ⟨⟨rfl, rfl⟩, rfl⟩
      rcases outcome.read_cases ((auth.ephemeral (trimSpace id)).map Auth.Kept.challenge) with
        value | ⟨err, refused⟩
      · simp only [Auth.Command.answer, value] at unmoved ⊢
        cases found : auth.ephemeral (trimSpace id) with
        | none => exact locally _ unmoved.1 unmoved.2
        | some kept =>
          refine checkTaken_ensures named (absent _ unmoved.1) fun agrees fresh => ?_
          refine present kept _ unmoved.1 (.inl found) agrees ?_
          rw [← unmoved.1.2]
          exact fresh
      · simp only [Auth.Command.answer, refused] at unmoved ⊢
        exact failed _ _ unmoved.1
  · exact locally auth ⟨rfl, rfl⟩ rfl

theorem loginFinish_proves {site : Auth.AuthSite} (gate : Option Refusal) (body : Auth.FinishBody) :
    (Auth.apiLoginSRPFinish site gate body).Ensures (Auth.Command.answer 0) auth fun reply after =>
      after.users = auth.users ∧
        ((∃ refusal, reply = .refused refusal) ∨
          ∃ user proof, reply = .verified user proof ∧ ProvesLogin auth user body) := by
  unfold Auth.apiLoginSRPFinish
  split
  · exact ⟨rfl, .inl ⟨_, rfl⟩⟩
  split
  · exact ⟨rfl, .inl ⟨_, rfl⟩⟩
  refine takeSRPChallenge_ensures (by decide) (fun refusal after unmoved => ⟨unmoved.1, .inl ⟨_, rfl⟩⟩)
    (fun after unmoved => ⟨unmoved.1, .inl ⟨_, rfl⟩⟩) fun kept after unmoved found agrees fresh => ?_
  dsimp only
  split
  · exact ⟨unmoved.1, .inl ⟨_, rfl⟩⟩
  next right =>
    split
    · exact ⟨unmoved.1, .inl ⟨_, rfl⟩⟩
    next user named =>
      intro outcome
      cases read : ((Auth.Command.userByID user).answer 0 outcome after).1 with
      | error err => exact ⟨unmoved.1, .inl ⟨_, rfl⟩⟩
      | ok row =>
        have credible := Auth.answer_credible 0 outcome (.userByID user) after
        rw [read] at credible
        refine ⟨unmoved.1, .inr ⟨row.userID, kept.challenge.serverProof, rfl, ?_⟩⟩
        rw [trimSpace_trimSpace] at found
        obtain ⟨proves, real⟩ := not_or.mp right
        refine ⟨kept, found, agrees, ?_, fresh, by simpa using real, by simpa using proves⟩
        exact named.trans (congrArg some (show row.userID = user from credible).symm)

end Taking

theorem runAuth_ensures {program : Auth.Commands} {wanted : Auth.AuthReply → AccessStore → Prop}
    (ensures : program.Ensures (Auth.Command.answer 0) store.auth fun reply after =>
      wanted reply { store with auth := after }) :
    (runAuth program).Ensures (AccessQuery.answer site) store wanted := by
  induction program generalizing store with
  | done reply => exact ensures
  | ask command next ih =>
    intro outcome
    exact ih _ (ensures outcome)

theorem loginSRPFinish_shut (locked : Locked userID store) {gate : Option Refusal}
    {body : Auth.FinishBody} {draw : Draw} (spared : ¬ProvesLogin store.auth userID body) :
    (loginSRPFinish site gate body draw).Ensures (AccessQuery.answer site) store
      (Shut userID store request) := by
  unfold loginSRPFinish
  rw [Program.ensures_bind]
  refine runAuth_ensures ((loginFinish_proves gate body).weaken ?_)
  rintro reply after ⟨users, ⟨refusal, rfl⟩ | ⟨user, proof, rfl, proves⟩⟩
  all_goals
    have kept : Locked userID { store with auth := after } :=
      ⟨fun row member => locked.marked row (users ▸ member), locked.outside, locked.given⟩
  · exact ⟨nofun, kept⟩
  · refine kept.ask trivial fun outcome reply later answered kept => ?_
    cases reply with
    | none => exact deny_shut kept ..
    | some row =>
      have found : after.user user = some row := congrArg Prod.fst answered
      have own : row.userID = user := by simpa using List.find?_some found
      exact finishLogin_shut kept (fun same => spared (same ▸ own ▸ proves)) _

/-! ### Codes, registration and sessions -/

theorem runOIDC_only (program : OIDC.Commands) : (runOIDC program).Only (Elsewhere userID) := by
  refine Program.Only.bind (Program.handle_only program fun command => ?_) fun _ => trivial
  exact ⟨trivial, fun _ => trivial⟩

def Tokenless (reply : OIDC.OIDCReply) : Prop := ∀ claims, reply ≠ .token claims

theorem sessionFromRequest_returns {cookie : GoString}
    {next : Option (OIDC.UserRow × Session.Payload) → OIDC.Commands}
    (onward : ∀ found, (next found).Returns Tokenless) :
    (OIDC.sessionFromRequest cookie next).Returns Tokenless := by
  unfold OIDC.sessionFromRequest
  split
  · exact onward none
  · rintro (err | (_ | pay))
    · exact onward none
    · exact onward none
    · intro reply
      cases reply with
      | ok user => exact onward (some (user, pay))
      | error err => exact onward none

theorem sendToLogin_returns (requestURI : GoString) (status : Nat) (text : String) :
    (OIDC.sendToLogin requestURI status text).Returns Tokenless := by
  unfold OIDC.sendToLogin
  dsimp only
  split <;> exact nofun

theorem oidcRecentMFAGate_returns {sent : OIDC.Authorize} {user : Nat} {next : OIDC.Commands}
    (onward : next.Returns Tokenless) : (OIDC.oidcRecentMFAGate sent user next).Returns Tokenless := by
  unfold OIDC.oidcRecentMFAGate
  refine (Program.returns_true _).bind fun status _ => ?_
  rcases status with err | status
  · exact nofun
  dsimp only
  split
  · exact onward
  refine sessionFromRequest_returns fun found => ?_
  rcases found with _ | ⟨row, pay⟩
  · exact sendToLogin_returns _ _ _
  dsimp only
  split
  · exact nofun
  · intro now
    dsimp only
    split
    · exact nofun
    · exact onward

theorem handleOIDCAuthorize_returns {site : OIDC.OIDCSite} (sent : OIDC.Authorize) :
    (OIDC.handleOIDCAuthorize site sent).Returns Tokenless := by
  unfold OIDC.handleOIDCAuthorize
  split
  · exact nofun
  dsimp only
  iterate 6
    split
    · exact nofun
  refine sessionFromRequest_returns fun found => ?_
  rcases found with _ | ⟨row, pay⟩
  · exact sendToLogin_returns _ _ _
  refine oidcRecentMFAGate_returns ?_
  unfold OIDC.issueCode
  split
  · exact nofun
  dsimp only
  split
  · exact nofun
  intro reply
  cases reply with
  | some err => exact nofun
  | none =>
    dsimp only
    split <;> exact nofun

theorem authorize_shut (locked : Locked userID store) (sent : OIDC.Authorize) :
    (runOIDC (OIDC.handleOIDCAuthorize site.oidc sent)).Ensures (AccessQuery.answer site) store
      (Shut userID store (.authorize sent)) := by
  refine locked.shut (runOIDC_only _)
    ((handleOIDCAuthorize_returns sent).handle.bind fun reply tokenless => ?_)
  cases reply with
  | token claims => exact absurd rfl (tokenless claims)
  | redirect location =>
    intro same
    obtain ⟨pay, found, own⟩ := Option.map_eq_some_iff.mp same
    exact locked.outside _ pay found own
  | _ => exact nofun

theorem redeem_returns {site : OIDC.OIDCSite} (sent : OIDC.TokenRequest) (stored : OIDC.StoredAuthCode) :
    (OIDC.redeem site sent stored).Returns fun reply => ∀ claims, reply = .token claims →
      claims.subject = stored.userID ∧ stored.clientID = sent.credentials.1 ∧
        stored.redirectURI = trimSpace sent.redirectURI := by
  unfold OIDC.redeem
  split
  · exact nofun
  next agrees =>
    obtain ⟨client, redirect⟩ := not_or.mp agrees
    rintro ((_ | err) | row)
    · exact nofun
    · exact nofun
    · dsimp only
      split
      · exact nofun
      · intro now
        dsimp only
        split
        · exact nofun
        · rintro _ ⟨⟩
          exact ⟨rfl, not_not.mp client, not_not.mp redirect⟩

theorem token_shut (locked : Locked userID store) (sent : OIDC.TokenRequest)
    (spared : ¬UsesOld site userID store (.token sent)) :
    (runOIDC (OIDC.handleOIDCToken site.oidc sent)).Ensures (AccessQuery.answer site) store
      (Shut userID store (.token sent)) := by
  unfold OIDC.handleOIDCToken
  split
  · exact ⟨nofun, locked⟩
  split
  · exact ⟨nofun, locked⟩
  dsimp only
  iterate 3
    split
    · exact ⟨nofun, locked⟩
  refine locked.ask trivial fun outcome reply after answered kept => ?_
  rcases reply with err | (_ | stored)
  · exact ⟨nofun, kept⟩
  · exact ⟨nofun, kept⟩
  have read : outcome.read ((store.oidc.live (trimSpace sent.code)).map OIDC.Kept.stored) =
      .ok (some stored) := congrArg Prod.fst answered
  obtain ⟨code, live, rfl⟩ : ∃ code, store.oidc.live (trimSpace sent.code) = some code ∧
      code.stored = stored := by
    rcases outcome.read_cases ((store.oidc.live (trimSpace sent.code)).map OIDC.Kept.stored) with
      value | ⟨err, failed⟩
    · exact Option.map_eq_some_iff.mp (Except.ok.inj (value.symm.trans read))
    · cases failed.symm.trans read
  refine kept.shut (runOIDC_only _) ((redeem_returns sent code.stored).handle.bind fun reply claimed => ?_)
  cases reply with
  | token claims =>
    obtain ⟨subject, client, redirect⟩ := claimed claims rfl
    exact fun same => spared ⟨code, live, subject.symm.trans (Option.some.inj same), client, redirect⟩
  | _ =>
    intro same
    cases same

theorem register_shut (locked : Locked userID store) (gate : Option Refusal) (row : Auth.UserAuth)
    (name : GoString) (bootstrap : Option Refusal) (draw : Draw) :
    (register gate row name bootstrap draw).Ensures (AccessQuery.answer site) store
      (Shut userID store request) := by
  unfold register
  split
  · exact ⟨nofun, locked⟩
  refine locked.ask trivial fun outcome reply after answered kept => ?_
  rcases reply with _ | err
  · -- the row is new, and so is not that of the user
    have different : row.userID ≠ userID := by
      rintro rfl
      have refused : store.admits row = false := by
        simp [AccessStore.admits, locked.given]
      simp [AccessQuery.answer, refused] at answered
    dsimp only
    split
    · exact kept.ask trivial fun _ _ _ _ kept => ⟨nofun, kept⟩
    · refine kept.shut ((runSession_only (createWithPayload_only different)).bind fun err => ?_)
        ((Program.returns_true _).bind fun err _ => ?_)
      · cases err <;> trivial
      · cases err with
        | some err => exact nofun
        | none => exact fun same => different (Option.some.inj same)
  · cases err with
    | duplicateKey => exact deny_shut kept ..
    | _ => exact failing_shut kept ..

theorem fitsCredential_of_accepted {table : SMTPCredentials} {credentials : Credentials}
    (accepted : site.backend.acceptedUser site.bcrypt table credentials = some userID) :
    FitsCredential site table userID credentials := by
  unfold SMTPBackend.acceptedUser SMTPBackend.authenticator at accepted
  cases submission : site.backend.submission with
  | false => simp [submission] at accepted
  | true =>
  cases hasStore : site.backend.hasStore with
  | false => simp [submission, hasStore] at accepted
  | true =>
  simp only [submission, hasStore, Bool.not_true, Bool.or_self, Bool.false_eq_true, if_false] at accepted
  split at accepted
  · cases accepted
  next verdict =>
  cases looked : smtpCredentialForAuth (normalized site.backend.pipe.lib credentials.username) table with
  | error err =>
    rw [looked] at accepted
    cases accepted
  | ok found =>
    obtain ⟨owner, hash⟩ := found
    rw [looked] at accepted
    cases accepted
    obtain ⟨row, member, name, own, rfl⟩ := smtpCredentialForAuth_eq_ok.mp looked
    simp only [SMTPBackend.credentialVerdict, looked] at verdict
    split at verdict
    · exact absurd rfl verdict
    next given =>
    cases hasMeta : site.backend.hasMeta with
    | false => simp [hasMeta] at verdict
    | true =>
    refine ⟨⟨submission, hasStore, hasMeta⟩, (not_or.mp given).2, row, member, own, name, ?_⟩
    simpa [hasMeta] using verdict

theorem withSession_shut (locked : Locked userID store) (cookie : GoString) (action : Action) :
    (withSession site cookie action).Ensures (AccessQuery.answer site) store
      (Shut userID store request) := by
  unfold withSession
  split
  · exact deny_shut locked ..
  refine locked.ask trivial fun outcome reply after answered kept => ?_
  rcases reply with err | (_ | pay)
  · exact deny_shut kept ..
  · exact deny_shut kept ..
  have read : outcome.read (store.valkey.sessions cookie) = .ok (some pay) := congrArg Prod.fst answered
  have found : store.valkey.sessions cookie = some pay := by
    rcases outcome.read_cases (store.valkey.sessions cookie) with value | ⟨err, failed⟩
    · exact Except.ok.inj (value.symm.trans read)
    · cases failed.symm.trans read
  refine kept.ask trivial fun outcome reply after answered kept => ?_
  cases reply with
  | error err => exact deny_shut kept ..
  | ok user =>
    have own : user.userID = pay.userID := lookup_user answered
    have other : user.userID ≠ userID := own ▸ locked.outside cookie pay found
    refine kept.shut ((Action.program_only other own.symm cookie action).bind fun _ => trivial) ?_
    exact (Program.returns_true _).bind fun _ _ same => other (Option.some.inj same)

theorem serve_shut (locked : Locked userID store) (rejects : RejectsMark site.bcrypt)
    (spared : ¬UsesOld site userID store request) :
    (request.program site).Ensures (AccessQuery.answer site) store (Shut userID store request) := by
  cases request with
  | loginSRPBegin draws gate body => exact loginSRPBegin_shut locked draws gate body
  | loginSRPFinish gate body draw => exact loginSRPFinish_shut locked spared
  | login gate username password draw => exact login_shut locked rejects gate username password draw
  | loginTOTP gate id proved draw => exact loginTOTP_shut locked spared
  | loginRecovery gate id hash draw => exact loginRecovery_shut locked spared
  | loginWebAuthnBegin gate id draw => exact loginWebAuthnBegin_shut locked gate id draw
  | loginWebAuthnFinish gate id proved draw => exact loginWebAuthnFinish_shut locked spared
  | register gate row name bootstrap draw => exact register_shut locked gate row name bootstrap draw
  | session cookie action => exact withSession_shut locked cookie action
  | logout cookie =>
    exact locked.shut ((runSession_only (delete_only cookie)).bind fun _ => trivial)
      ((Program.returns_true _).bind fun _ _ => nofun)
  | authorize sent => exact authorize_shut locked sent
  | token sent => exact token_shut locked sent spared
  | submit credentials =>
    refine locked.ask trivial fun outcome reply after answered kept => ?_
    cases reply with
    | none => exact deny_shut kept ..
    | some user =>
      refine ⟨fun same => spared ?_, kept⟩
      cases Option.some.inj same
      have read : (if outcome.error?.isSome then none
          else site.backend.acceptedUser site.bcrypt store.credentials credentials) = some userID :=
        congrArg Prod.fst answered
      split at read
      · cases read
      · exact fitsCredential_of_accepted read

end Serving

section Runs

variable {site : AccessSite} {userID : Nat}

/-- The request uses nothing that the user had before. -/
def Passes (site : AccessSite) (userID : Nat) (state : AccessStore × List Nat) : AccessEvent → Prop
  | .request request _ => ¬UsesOld site userID state.1 request
  | _ => True

theorem Locked.lapsed {store : AccessStore} (locked : Locked userID store) (key : GoString) :
    Locked userID (store.lapsed key) := by
  refine ⟨locked.marked, fun token pay found => ?_, locked.given⟩
  by_cases same : token = key
  · simp [AccessStore.lapsed, same] at found
  · exact locked.outside token pay (by simpa [AccessStore.lapsed, same] using found)

theorem Locked.step {store next : AccessStore} {log later : List Nat} {event : AccessEvent}
    (locked : Locked userID store) (rejects : RejectsMark site.bcrypt)
    (passes : Passes site userID (store, log) event)
    (taken : (accessMachine site).step (store, log) event = some (next, later)) :
    Locked userID next ∧ (userID ∈ later → userID ∈ log) := by
  obtain ⟨moved, added⟩ := Machine.recorded_step taken
  have noted : later = log ++ store.notes site event := added
  cases event with
  | request request outcomes =>
    have shut := (serve_shut locked rejects passes).run outcomes
    cases moved
    refine ⟨shut.2, fun member => ?_⟩
    rw [noted] at member
    rcases List.mem_append.mp member with before | now
    · exact before
    · exact absurd (Option.mem_toList.mp now) shut.1
  | lapse key =>
    cases moved
    exact ⟨locked.lapsed key, by simp [noted, AccessStore.notes]⟩
  | sweep other =>
    cases moved
    exact ⟨locked.without other, by simp [noted, AccessStore.notes]⟩
  | tick clock | lapseIndex other | lose id =>
    cases moved
    exact ⟨⟨locked.marked, locked.outside, locked.given⟩,
      by simp [noted, AccessStore.notes]⟩

theorem Locked.runs {store reached : AccessStore} {log : List Nat} (locked : Locked userID store)
    (rejects : RejectsMark site.bcrypt)
    (runs : (accessMachine site).Runs (Passes site userID) (store, []) (reached, log)) :
    Locked userID reached ∧ userID ∉ log := by
  have invariant : ∀ final : AccessStore × List Nat,
      (accessMachine site).Runs (Passes site userID) (store, []) final →
      Locked userID final.1 ∧ userID ∉ final.2 := by
    intro final
    refine Machine.Runs.invariant
      (fun state : AccessStore × List Nat => Locked userID state.1 ∧ userID ∉ state.2)
      ⟨locked, List.not_mem_nil⟩ ?_
    rintro ⟨before, log⟩ event ⟨after, later⟩ ⟨locked, absent⟩ passes taken
    obtain ⟨kept, noted⟩ := locked.step rejects passes taken
    exact ⟨kept, fun member => absent (noted member)⟩
  exact invariant _ runs

/-! ### Disabling -/

def Indexed (store : AccessStore) (userID : Nat) : Prop :=
  ∀ token pay, store.valkey.sessions token = some pay → pay.userID = userID →
    token ∈ store.valkey.byuid userID

theorem sweep_leaves {tokens : List GoString} {err : Option GoError} {valkey : Session.Valkey} :
    (Session.sweep userID tokens err).Ensures Session.Command.answer valkey fun result after =>
      (∀ err, result ≠ .failed err) → err = none ∧ ∀ token pay, after.sessions token = some pay →
        valkey.sessions token = some pay ∧ token ∉ tokens := by
  induction tokens generalizing err valkey with
  | nil =>
    intro outcome
    refine fun ok => ⟨?_, fun token pay found => ⟨?_, List.not_mem_nil⟩⟩
    · cases err with
      | none => rfl
      | some err => exact absurd rfl (ok err)
    · rcases sessions_answer found with before | set
      · exact before
      · cases set
  | cons first rest ih =>
    intro outcome
    refine ih.weaken fun result after leaves ok => ?_
    obtain ⟨none, kept⟩ := leaves ok
    obtain ⟨before, deleted⟩ := Option.or_eq_none_iff.mp none
    have applied : outcome.applied = true := Outcome.applied_of_error?_none deleted
    refine ⟨before, fun token pay found => ?_⟩
    obtain ⟨there, other⟩ := kept token pay found
    refine ⟨?_, ?_⟩
    · rcases sessions_answer there with before | set
      · exact before
      · cases set
    · rw [List.mem_cons, not_or]
      refine ⟨?_, other⟩
      rintro rfl
      cases (Session.del_after applied).symm.trans there

theorem deleteUserSessions_leaves {valkey : Session.Valkey} :
    (Session.deleteUserSessions userID).Ensures Session.Command.answer valkey fun result after =>
      (∀ err, result ≠ .failed err) → ∀ token pay, after.sessions token = some pay →
        valkey.sessions token = some pay ∧ token ∉ valkey.byuid userID := by
  intro outcome
  rcases outcome.read_cases (valkey.byuid userID) with value | ⟨err, failed⟩
  · simp only [Session.Command.answer, value]
    show Program.Ensures _ (if (valkey.byuid userID).length = 0 then _ else _) valkey _
    split
    next empty =>
      intro _ token pay found
      rw [List.length_eq_zero_iff.mp empty]
      exact ⟨found, List.not_mem_nil⟩
    · exact sweep_leaves.weaken fun result after leaves ok => (leaves ok).2
  · simp only [Session.Command.answer, failed]
    exact fun ok => absurd rfl (ok err)

theorem runSession_ensures {store : AccessStore} {program : Session.Commands}
    {wanted : Option GoError → AccessStore → Prop}
    (ensures : program.Ensures Session.Command.answer store.valkey fun result after =>
      wanted (match result with
        | .failed err => some err
        | _ => none) { store with valkey := after }) :
    (runSession program).Ensures (AccessQuery.answer site) store wanted := by
  unfold runSession
  induction program generalizing store with
  | done result => cases result <;> exact ensures
  | ask command next ih =>
    intro outcome
    exact ih _ (ensures outcome)

theorem disable_locks {store : AccessStore}
    (known : ∀ row ∈ store.auth.users, store.given row.userID = true) (indexed : Indexed store userID) :
    (apiAdminUsersDisable none true (some userID)).Ensures (AccessQuery.answer site) store
      fun reply after => reply = .ok none → Locked userID after := by
  intro outcome
  by_cases there : (store.auth.user userID).isSome
  · obtain ⟨row, found⟩ := Option.isSome_iff_exists.mp there
    have own : row.userID = userID := by simpa using List.find?_some found
    have given : store.given userID = true := own ▸ known row (List.mem_of_find?_eq_some found)
    simp only [AccessQuery.answer, if_pos there]
    cases reported : outcome.error? with
    | some err =>
      simp only [Outcome.exec, reported, Option.map_some]
      exact fun ok => by cases ok
    | none =>
      have applied : outcome.applied = true := Outcome.applied_of_error?_none reported
      simp only [Outcome.exec, reported, applied, Option.map_none, if_true]
      rw [Program.ensures_bind]
      refine runSession_ensures (deleteUserSessions_leaves.weaken fun result after leaves => ?_)
      intro ok
      have swept : ∀ err, result ≠ .failed err := by
        rintro err rfl
        cases ok
      refine ⟨fun row member own => ?_, fun token pay now same => ?_, given⟩
      · obtain ⟨before, -, rfl⟩ := List.mem_map.mp member
        by_cases same : before.userID = userID
        · rw [if_pos same]
        · rw [if_neg same] at own
          exact absurd own same
      · obtain ⟨before, absent⟩ := leaves swept token pay now
        exact absent (indexed token pay before same)
  · simp only [AccessQuery.answer, if_neg there]
    cases outcome.error? <;> exact fun ok => by cases ok

end Runs

def AccessSite.sample : AccessSite := ⟨.sample, OIDC.sampleSite, sampleBcrypt, sampleBackend true⟩

def aliceAlone : AccessStore where
  auth := (Auth.AuthServer.start [Auth.alice] (Function.update (fun _ => none) 7 (some Auth.oldWrap))).store
  names _ := ascii "Alice"
  given userID := userID = 7
  valkey := ⟨fun _ => none, fun _ => []⟩
  accounts _ := .fresh
  pendingLogins _ := none
  webAuthnLogins _ := none
  codes _ := none
  credentials := noCredentials.1

def asked (request : AccessRequest) : AccessEvent := .request request fun _ => .done

def beginsLogin : AccessEvent :=
  asked (.loginSRPBegin ⟨some unitScalar, .ok [], ascii "first"⟩ none
    ⟨ascii "alice", base64Encode [2]⟩)

def goesOn : List AccessEvent :=
  [asked (.loginSRPFinish none ⟨ascii "first", base64Encode (unitHash.sum [])⟩
      ⟨.ok (ascii "token"), .ok [], 0⟩),
    asked (.session (ascii "token")
      (.passwordBegin ⟨some unitScalar, .ok [], ascii "first"⟩ none (base64Encode [2]))),
    asked (.session (ascii "token") (.passwordFinish none Auth.sampleChange))]

def disablesAlice (store : AccessStore) : DisableReply × AccessStore :=
  (apiAdminUsersDisable none true (some 7)).run (AccessQuery.answer .sample) (fun _ => .done) store

theorem rejectsMark_sample : RejectsMark AccessSite.sample.bcrypt := by
  intro password
  show decide (Auth.disabledPasswordSentinel = ascii "$2a$" ++ password) = false
  refine decide_eq_false fun same => ?_
  have second := congrArg (·[1]?) same
  simp [ascii] at second
  revert second
  decide

theorem aliceAlone_indexed : Indexed aliceAlone 7 := nofun

/-- The stores after she has begun to log in, and those after she was disabled then. -/
def loginBegun : AccessStore := ((accessMachine .sample).after [beginsLogin] (aliceAlone, [])).1
def disabledMeanwhile : AccessStore := (disablesAlice loginBegun).2

def wentOn : AccessStore × List Nat := (accessMachine .sample).after goesOn (disabledMeanwhile, [])

theorem loginBegun_indexed : Indexed loginBegun 7 := by
  have only : ((AccessRequest.loginSRPBegin ⟨some unitScalar, .ok [], ascii "first"⟩ none
      ⟨ascii "alice", base64Encode [2]⟩).program .sample).Only fun query =>
      ∃ command, query = .auth command := by
    have handled : ∀ command : Auth.Command,
        (Program.ask (AccessQuery.auth command) Program.done : AccessProgram command.Answer).Only
          fun query => ∃ command, query = .auth command :=
      fun command => ⟨⟨command, rfl⟩, fun _ => trivial⟩
    exact (Program.handle_only _ handled).bind fun _ => trivial
  have same : loginBegun.valkey = aliceAlone.valkey := by
    have kept : ∀ (outcome : Outcome GoError) (query : AccessQuery) (store : AccessStore),
        (∃ command, query = .auth command) → store.valkey = aliceAlone.valkey →
        (query.answer .sample outcome store).2.valkey = aliceAlone.valkey := by
      rintro outcome - store ⟨command, rfl⟩ kept
      exact kept
    exact (only.ensures (fun store : AccessStore => store.valkey = aliceAlone.valkey) kept rfl).run
      fun _ => Outcome.done
  intro token pay found
  rw [same] at found
  cases found

end ElvishMail.Elvishserver
