import ElvishMail.Go.Encoding
import ElvishMail.Httpserver.Challenges
import ElvishMail.Pake.Handshake

/-!
# What logins show of accounts

The replies to begin and finish requests, with their fields, for one user name. A name without an
account is answered with a registration made up on the spot, with a salt of its own each time. Its
replies are those of a registered user exactly if no two of them show different salts.
-/

namespace ElvishMail.Httpserver.Auth

open Go Smtp Mailmeta Pake Semantics

structure LoginParams where
  sessionID : GoString
  saltB64 : GoString
  serverPublicB64 : GoString
  group : GoString
  hash : GoString
deriving DecidableEq

/-- What a request shows: the parameters of a login, a success, or an error. -/
inductive Shown where
  | started (params : LoginParams)
  | accepted
  | refused (code : Nat) (text : GoString)
deriving DecidableEq

def Shown.ofRefusal (refusal : Refusal) : Shown := .refused refusal.code refusal.text

abbrev ShownCommands : Type := Program Command Command.Answer Shown

section Requests

variable (site : AuthSite)

/-- The account and the registration of a begin request, from what the lookup found. -/
def loginRegistration (draws : Draws) (username : GoString) (found : Except StoreError UserAuth) :
    Except GoError (Option UserAuth × Pake.Registration) :=
  match found with
  | .error (.failed err) => .error err
  | .error .notFound => (dummySRPRegistration site draws username).map (none, ·)
  | .ok row =>
    if trimSpace row.passwordHash = disabledPasswordSentinel ∨ row.usesSRP = false then
      (dummySRPRegistration site draws username).map (none, ·)
    else .ok (some row, ⟨row.srpSalt, row.srpVerifier, row.srpGroup, row.srpHash⟩)

def showLogin (draws : Draws) (username clientPublic : GoString) (reg : Pake.Registration) :
    AuthReply → Shown
  | .issued id => .started
      { sessionID := id
        saltB64 := base64Encode reg.salt
        serverPublicB64 := base64Encode
          (((serverSession site draws username reg.salt reg.verifier clientPublic).map
            ServerSession.serverPublic).getD [])
        group := defaultGroup.name
        hash := ascii "sha256" }
  | .refused refusal => .ofRefusal refusal
  | .verified _ _ | .changed _ _ => .accepted

def loginEmail (username : GoString) : GoString :=
  trimLower site.site.lib (composeCanonicalEmail site.site.lib username site.site.effectiveMailDomain)

/-- `apiLoginSRPBegin`, with the fields of its reply. -/
def showLoginBegin (draws : Draws) (gate : Option Refusal) (body : LoginBegin) : ShownCommands :=
  match gate with
  | some refusal => .done (.ofRefusal refusal)
  | none =>
  match normalizeAndValidateUsername site.site.lib body.username with
  | none => .done (.refused 400 (ascii "invalid username"))
  | some user =>
  match decodeB64Field body.clientPublicB64 with
  | none => .done (.refused 400 (ascii "invalid client_public_b64"))
  | some clientPublic =>
  .ask (.userAuthByEmail (loginEmail site user)) fun found =>
    match loginRegistration site draws user found with
    | .error _ => .done (.refused 500 (ascii "internal error"))
    | .ok (authUser, reg) =>
      issueLogin site draws user clientPublic authUser reg >>= fun reply =>
        .done (showLogin site draws user clientPublic reg reply)

/-- `apiLoginSRPFinish`, as far as it fails. -/
def showLoginFinish (gate : Option Refusal) (body : FinishBody) : ShownCommands :=
  apiLoginSRPFinish site gate body >>= fun reply =>
    .done (match reply with
      | .refused refusal => .ofRefusal refusal
      | _ => .accepted)

end Requests

inductive Attempt where
  | start (body : LoginBegin)
  | finish (body : FinishBody)
deriving DecidableEq

/-- What decides a reply beside the request and the stores: the draws, what the request is
checked for first, how its commands end, and the clock. -/
structure Chance where
  draws : Draws
  gate : Option Refusal
  env : Nat → Outcome GoError
  clock : Int

def Attempt.program (site : AuthSite) (chance : Chance) : Attempt → ShownCommands
  | start body => showLoginBegin site chance.draws chance.gate body
  | finish body => showLoginFinish site chance.gate body

def visit (site : AuthSite) (store : AuthStore) (attempt : Attempt) (chance : Chance) :
    Shown × AuthStore :=
  (attempt.program site chance).run (Command.answer 0) chance.env { store with clock := chance.clock }

def shows (site : AuthSite) : AuthStore → List (Attempt × Chance) → List Shown
  | _, [] => []
  | store, (attempt, chance) :: visits =>
    let (shown, store) := visit site store attempt chance
    shown :: shows site store visits

def AuthStore.account (store : AuthStore) (email : GoString) : Option UserAuth :=
  store.users.find? (·.email = email)

def UserAuth.logsIn (row : UserAuth) : Bool :=
  trimSpace row.passwordHash ≠ disabledPasswordSentinel && row.usesSRP

def loginSession (site : AuthSite) (username : GoString) (account : Option UserAuth)
    (body : LoginBegin) (draws : Draws) : Option ServerSession := do
  let clientPublic ← decodeB64Field body.clientPublicB64
  let (_, reg) ← (loginRegistration site draws username
    (account.elim (.error .notFound) .ok)).toOption
  serverSession site draws username reg.salt reg.verifier clientPublic

/-- The proofs that a client with the password could give: those of the stored challenges and
those of the sessions of the attempts. -/
def CouldProve (site : AuthSite) (username : GoString) (store : AuthStore)
    (visits : List (Attempt × Chance)) (proof : GoString) : Prop :=
  (∃ id kept, (store.ephemeral id = some kept ∨ store.authChallenges id = some kept) ∧
    kept.challenge.expectedClientProof = proof) ∨
  ∃ body chance session, (Attempt.start body, chance) ∈ visits ∧
    loginSession site username (store.account (loginEmail site username)) body chance.draws =
      some session ∧ session.expectedClientM1 = proof

def WithoutPassword (site : AuthSite) (username : GoString) (store : AuthStore)
    (visits : List (Attempt × Chance)) : Prop :=
  ∀ body chance, (Attempt.finish body, chance) ∈ visits →
    ∀ proof, decodeB64Field body.clientProofB64 = some proof →
      ¬CouldProve site username store visits proof

/-- The same attempts meet the same checks, ids and times; what else is drawn, and which
commands fail, may differ. -/
def Alike (visit other : Attempt × Chance) : Prop :=
  visit.1 = other.1 ∧ visit.2.gate = other.2.gate ∧ visit.2.draws.id = other.2.draws.id ∧
    visit.2.clock = other.2.clock

/-- A site on which the name has a password shows the same replies. -/
def LooksRegistered (site : AuthSite) (username : GoString) (store : AuthStore)
    (visits : List (Attempt × Chance)) : Prop :=
  ∃ users row others,
    (AuthStore.account { store with users } (loginEmail site username)) = some row ∧
    row.logsIn = true ∧ List.Forall₂ Alike visits others ∧
    WithoutPassword site username { store with users } others ∧
    shows site { store with users } others = shows site store visits

def AuthStore.Keeps (store : AuthStore) (kept : Kept) : Prop :=
  ∃ id, store.ephemeral id = some kept ∨ store.authChallenges id = some kept

def issues (site : AuthSite) (draws : Draws) (outcome : Outcome GoError) : Prop :=
  site.hasSessions = true → trimSpace draws.id ≠ [] ∧ outcome.error? = none

instance (site : AuthSite) (draws : Draws) (outcome : Outcome GoError) :
    Decidable (issues site draws outcome) := inferInstanceAs (Decidable (_ → _))

def registeredShown (site : AuthSite) (username clientPublic : GoString) (reg : Pake.Registration)
    (draws : Draws) (stored : Outcome GoError) : Shown :=
  if parsesGroup reg.groupName reg.hashName = false then .refused 500 (ascii "internal error")
  else if (serverSession site draws username reg.salt reg.verifier clientPublic).isNone then
    .refused 400 (ascii "invalid client public")
  else if issues site draws stored then
    showLogin site draws username clientPublic reg (.issued draws.id)
  else .refused 500 (ascii "internal error")

def beginShown (site : AuthSite) (username : GoString) (account : Option UserAuth) (body : LoginBegin)
    (chance : Chance) : Shown :=
  match chance.gate with
  | some refusal => .ofRefusal refusal
  | none =>
  match decodeB64Field body.clientPublicB64 with
  | none => .refused 400 (ascii "invalid client_public_b64")
  | some clientPublic =>
  match loginRegistration site chance.draws username (Command.lookup (chance.env 0) account) with
  | .error _ => .refused 500 (ascii "internal error")
  | .ok (_, reg) => registeredShown site username clientPublic reg chance.draws (chance.env 2)

def finishShown (site : AuthSite) (body : FinishBody) (chance : Chance) : Shown :=
  match chance.gate with
  | some refusal => .ofRefusal refusal
  | none =>
  if site.hasSessions = false then .refused 503 (ascii "login requires database and Valkey")
  else if trimSpace (trimSpace body.sessionID) = [] then .refused 500 (ascii "internal error")
  else if (chance.env 0).fails then .refused 500 (ascii "internal error")
  else .refused 401 (ascii "invalid credentials")

section Visits

variable {site : AuthSite} {username : GoString} {store : AuthStore} {chance : Chance}

theorem keeps_set {id : GoString} {other kept : Kept}
    (there : AuthStore.Keeps { store with ephemeral := Function.update store.ephemeral id (some other) }
      kept) : store.Keeps kept ∨ kept = other := by
  obtain ⟨place, found | found⟩ := there
  · have found : Function.update store.ephemeral id (some other) place = some kept := found
    by_cases same : place = id
    · rw [same, Function.update_self] at found
      exact .inr (Option.some.inj found).symm
    · rw [Function.update_of_ne same] at found
      exact .inl ⟨place, .inl found⟩
  · exact .inl ⟨place, .inr found⟩

theorem keeps_withLocal {id : GoString} {other kept : Kept}
    (there : (store.withLocal id other).Keeps kept) : store.Keeps kept ∨ kept = other := by
  obtain ⟨place, found | found⟩ := there
  · exact .inl ⟨place, .inl found⟩
  · rw [AuthStore.withLocal] at found
    dsimp only at found
    by_cases same : place = id
    · rw [same, Function.update_self] at found
      exact .inr (Option.some.inj found).symm
    · rw [Function.update_of_ne same] at found
      exact .inl ⟨place, .inr (Option.filter_eq_some_iff.mp found).1⟩

theorem issueSRPChallenge_runs (label : String) (draws : Draws) (challenge : SRPChallenge)
    (env : Nat → Outcome GoError) :
    ∃ reply after, (issueSRPChallenge site label draws.id challenge).run (Command.answer 0) env store =
        (reply, after) ∧
      (if issues site draws (env 1) then reply = .issued draws.id
        else ∃ refusal : Refusal, reply = .refused refusal ∧ refusal.code = 500 ∧
          refusal.text = ascii "internal error") ∧
      after.users = store.users ∧
      ∀ kept, after.Keeps kept →
        store.Keeps kept ∨ kept.challenge.expectedClientProof = challenge.expectedClientProof := by
  unfold issueSRPChallenge
  rw [Program.run_ask]
  dsimp only
  by_cases valkey : site.hasSessions = true
  · rw [if_pos valkey]
    by_cases blank : trimSpace draws.id = []
    · rw [if_pos blank]
      refine ⟨_, _, rfl, ?_, rfl, fun kept there => .inl there⟩
      rw [if_neg fun issued => (issued valkey).1 blank]
      exact ⟨_, rfl, rfl, rfl⟩
    · rw [if_neg blank, Program.run_ask]
      have kept (kept : Kept) (there : AuthStore.Keeps { store with
          ephemeral := Function.update store.ephemeral (trimSpace draws.id)
            (some ⟨0, { challenge with createdAt := store.clock }⟩) } kept) :
          store.Keeps kept ∨ kept.challenge.expectedClientProof = challenge.expectedClientProof :=
        (keeps_set there).imp_right fun same => by rw [same]
      simp only [Nat.zero_add]
      cases ends : env 1 with
      | done =>
        have issued : issues site draws (.done : Outcome GoError) := fun _ => ⟨blank, rfl⟩
        exact ⟨_, _, rfl, by rw [if_pos issued], rfl, kept⟩
      | refused err =>
        have unissued : ¬issues site draws (.refused err) := fun issued => nomatch (issued valkey).2
        refine ⟨_, _, rfl, ?_, rfl, fun kept there => .inl there⟩
        rw [if_neg unissued]
        exact ⟨_, rfl, rfl, rfl⟩
      | lost err =>
        have unissued : ¬issues site draws (.lost err) := fun issued => nomatch (issued valkey).2
        refine ⟨_, _, rfl, ?_, rfl, kept⟩
        rw [if_neg unissued]
        exact ⟨_, rfl, rfl, rfl⟩
  · rw [if_neg valkey, Program.run_ask, Program.run_done]
    have issued : issues site draws (env 1) := fun sessions => absurd sessions valkey
    refine ⟨_, _, rfl, by rw [if_pos issued], rfl, ?_⟩
    intro kept there
    rcases keeps_withLocal there with before | rfl
    · exact .inl before
    · exact .inr rfl

theorem issueLogin_shows (draws : Draws) (clientPublic : GoString) (authUser : Option UserAuth)
    (reg : Pake.Registration) (env : Nat → Outcome GoError) :
    ∃ after, (issueLogin site draws username clientPublic authUser reg >>= fun reply =>
        (.done (showLogin site draws username clientPublic reg reply) : ShownCommands)).run
          (Command.answer 0) env store =
        (registeredShown site username clientPublic reg draws (env 1), after) ∧
      after.users = store.users ∧
      ∀ kept, after.Keeps kept → store.Keeps kept ∨
        ∃ session, serverSession site draws username reg.salt reg.verifier clientPublic = some session ∧
          kept.challenge.expectedClientProof = session.expectedClientM1 := by
  unfold issueLogin registeredShown
  by_cases parses : parsesGroup reg.groupName reg.hashName = false
  · rw [if_pos parses, if_pos parses]
    exact ⟨store, rfl, rfl, fun _ there => .inl there⟩
  · rw [if_neg parses, if_neg parses]
    cases made : serverSession site draws username reg.salt reg.verifier clientPublic with
    | none => exact ⟨store, rfl, rfl, fun _ there => .inl there⟩
    | some session =>
      rw [if_neg (by simp), Program.run_bind]
      obtain ⟨reply, after, ran, ends, users, kept⟩ :=
        @issueSRPChallenge_runs site store "srp challenge store" draws
          { purpose := ascii "login"
            userID := authUser.map UserAuth.userID
            expectedClientProof := session.expectedClientM1
            serverProof := session.serverM2
            createdAt := 0
            dummy := authUser.isNone } env
      rw [ran]
      refine ⟨after, ?_, users, fun kept' there =>
        (kept kept' there).imp_right fun same => ⟨session, rfl, same⟩⟩
      split at ends
      next issued => rw [ends, if_pos issued]; rfl
      next unissued =>
        obtain ⟨refusal, rfl, code, text⟩ := ends
        rw [if_neg unissued]
        dsimp only [showLogin, Shown.ofRefusal]
        rw [code, text]
        rfl

/-- What a reply shows: the id that it issues, or its refusal. -/
def Shown.Of (shown : Shown) : AuthReply → Prop
  | .issued id => ∃ params, shown = .started params ∧ params.sessionID = id
  | .refused refusal => shown = .ofRefusal refusal
  | .verified _ _ | .changed _ _ => shown = .accepted

/-- A program shows the replies of another and changes the stores as it does. -/
def Shows (shown : ShownCommands) (program : Commands) : Prop :=
  ∀ env store, (shown.run (Command.answer 0) env store).1.Of (program.run (Command.answer 0) env store).1 ∧
    (shown.run (Command.answer 0) env store).2 = (program.run (Command.answer 0) env store).2

theorem Shows.ask {command : Command} {shown : command.Answer → ShownCommands}
    {program : command.Answer → Commands} (each : ∀ answer, Shows (shown answer) (program answer)) :
    Shows (.ask command shown) (.ask command program) :=
  fun _ _ => each _ _ _

theorem shows_refused (refusal : Refusal) : Shows (.done (.ofRefusal refusal)) (.done (.refused refusal)) :=
  fun _ _ => ⟨rfl, rfl⟩

theorem shows_issueLogin (draws : Draws) (clientPublic : GoString) (authUser : Option UserAuth)
    (reg : Pake.Registration) :
    Shows (issueLogin site draws username clientPublic authUser reg >>= fun reply =>
        .done (showLogin site draws username clientPublic reg reply))
      (issueLogin site draws username clientPublic authUser reg) := by
  intro env store
  rw [Program.run_map]
  refine ⟨?_, rfl⟩
  cases (Program.run (Command.answer 0) (issueLogin site draws username clientPublic authUser reg)
    env store).1
  case issued id => exact ⟨_, rfl, rfl⟩
  all_goals rfl

/-- The replies that are shown are those of `apiLoginSRPBegin`. -/
theorem showLoginBegin_shows (draws : Draws) (gate : Option Refusal) (body : LoginBegin) :
    Shows (showLoginBegin site draws gate body) (apiLoginSRPBegin site draws gate body) := by
  unfold showLoginBegin apiLoginSRPBegin
  cases gate with
  | some refusal => exact shows_refused refusal
  | none =>
  dsimp only
  cases normalizeAndValidateUsername site.site.lib body.username with
  | none => exact shows_refused (.status 400 (ascii "invalid username"))
  | some user =>
  dsimp only
  cases decodeB64Field body.clientPublicB64 with
  | none => exact shows_refused (.status 400 (ascii "invalid client_public_b64"))
  | some clientPublic =>
  refine Shows.ask fun found => ?_
  rcases found with (_ | err) | row
  · rw [loginRegistration]
    cases dummySRPRegistration site draws user with
    | error err => exact shows_refused (.internal (ascii "srp dummy") err)
    | ok reg => exact shows_issueLogin draws clientPublic none reg
  · exact shows_refused (.internal (ascii "srp begin user lookup") err)
  · rw [loginRegistration]
    by_cases disabled : trimSpace row.passwordHash = disabledPasswordSentinel
    · rw [if_pos (.inl disabled)]
      dsimp only
      rw [if_pos disabled]
      cases dummySRPRegistration site draws user with
      | error err => exact shows_refused (.internal (ascii "srp dummy") err)
      | ok reg => exact shows_issueLogin draws clientPublic none reg
    · by_cases uses : row.usesSRP = true
      · rw [if_neg (by simp [disabled, uses])]
        dsimp only
        rw [if_neg disabled, if_pos uses]
        exact shows_issueLogin draws clientPublic (some row) _
      · rw [if_pos (.inr (Bool.eq_false_iff.mpr uses))]
        dsimp only
        rw [if_neg disabled, if_neg uses]
        cases dummySRPRegistration site draws user with
        | error err => exact shows_refused (.internal (ascii "srp dummy") err)
        | ok reg => exact shows_issueLogin draws clientPublic none reg

theorem lookup_cases (outcome : Outcome GoError) (account : Option UserAuth) :
    (∃ err, outcome.error? = some err ∧ Command.lookup outcome account = .error (.failed err)) ∨
      outcome.error? = none ∧ Command.lookup outcome account = account.elim (.error .notFound) .ok := by
  cases outcome with
  | done => cases account <;> exact .inr ⟨rfl, rfl⟩
  | refused err => exact .inl ⟨err, rfl, rfl⟩
  | lost err => exact .inl ⟨err, rfl, rfl⟩

theorem lookup_error {outcome : Outcome GoError} {err : GoError} {row : UserAuth}
    (fails : outcome.error? = some err) : Command.lookup outcome (some row) = .error (.failed err) := by
  rw [Command.lookup, Outcome.read, fails]

theorem lookup_found {outcome : Outcome GoError} {row : UserAuth} (done : outcome.error? = none) :
    Command.lookup outcome (some row) = .ok row := by
  rw [Command.lookup, Outcome.read, done]

theorem visit_start {body : LoginBegin}
    (named : normalizeAndValidateUsername site.site.lib body.username = some username) :
    ∃ after, visit site store (.start body) chance =
        (beginShown site username (store.account (loginEmail site username)) body chance, after) ∧
      after.users = store.users ∧
      ∀ kept, after.Keeps kept → store.Keeps kept ∨
        ∃ session, loginSession site username (store.account (loginEmail site username)) body
            chance.draws = some session ∧
          kept.challenge.expectedClientProof = session.expectedClientM1 := by
  unfold visit Attempt.program showLoginBegin beginShown loginSession
  cases chance.gate with
  | some refusal => exact ⟨_, rfl, rfl, fun kept there => .inl there⟩
  | none =>
    dsimp only
    rw [named]
    cases decodeB64Field body.clientPublicB64 with
    | none => exact ⟨_, rfl, rfl, fun kept there => .inl there⟩
    | some clientPublic =>
      dsimp only
      rw [Program.run_ask]
      have found : Command.answer 0 (chance.env 0) (.userAuthByEmail (loginEmail site username))
          { store with clock := chance.clock } =
          (Command.lookup (chance.env 0) (store.account (loginEmail site username)),
            { store with clock := chance.clock }) := rfl
      rw [found]
      dsimp only
      cases read : loginRegistration site chance.draws username
          (Command.lookup (chance.env 0) (store.account (loginEmail site username))) with
      | error err => exact ⟨_, rfl, rfl, fun kept there => .inl there⟩
      | ok registered =>
        obtain ⟨authUser, reg⟩ := registered
        obtain ⟨after, ran, users, kept⟩ := @issueLogin_shows site username
          { store with clock := chance.clock } chance.draws clientPublic authUser reg
          (fun count => chance.env (count + 1))
        refine ⟨after, ran, users, fun other there => (kept other there).imp id ?_⟩
        rintro ⟨session, made, same⟩
        refine ⟨session, ?_, same⟩
        rcases lookup_cases (chance.env 0) (store.account (loginEmail site username)) with
          ⟨err, -, failed⟩ | ⟨-, read'⟩
        · rw [failed] at read
          cases read
        · rw [read'] at read
          rw [read]
          exact made

section Taking

variable {next : Option SRPChallenge → Commands} {reply : AuthReply} {id purpose : GoString}
  {env : Nat → Outcome GoError}

theorem checkTaken_run {challenge : SRPChallenge} (missing : next none = .done reply)
    (judged : next (some challenge) = .done reply) :
    (checkTaken purpose challenge next).run (Command.answer 0) env store = (reply, store) := by
  unfold checkTaken
  split
  · rw [missing, Program.run_done]
  · rw [Program.run_ask]
    split
    · rw [missing]
      rfl
    · rw [judged]
      rfl

theorem takeLocal_run (missing : next none = .done reply)
    (judged : ∀ kept, store.Keeps kept → next (some kept.challenge) = .done reply) :
    ∃ after, (takeLocalChallenge id purpose next).run (Command.answer 0) env store = (reply, after) ∧
      after.users = store.users ∧ ∀ kept, after.Keeps kept → store.Keeps kept := by
  let after := { store with authChallenges := Function.update store.authChallenges id none }
  have less (kept : Kept) (there : after.Keeps kept) : store.Keeps kept := by
    obtain ⟨place, found | found⟩ := there
    · exact ⟨place, .inl found⟩
    · have found : Function.update store.authChallenges id none place = some kept := found
      by_cases same : place = id
      · rw [same, Function.update_self] at found
        cases found
      · rw [Function.update_of_ne same] at found
        exact ⟨place, .inr found⟩
  unfold takeLocalChallenge
  rw [Program.run_ask]
  have answered : Command.answer 0 (env 0) (.takeLocal id) store =
      ((store.authChallenges id).map Kept.challenge, after) := rfl
  rw [answered]
  refine ⟨after, ?_, rfl, less⟩
  cases found : store.authChallenges id with
  | none =>
    dsimp only [Option.map_none]
    rw [missing]
    rfl
  | some kept => exact checkTaken_run missing (judged kept ⟨id, .inr found⟩)

theorem take_run {label : String} (valkey : site.hasSessions = true) (named : trimSpace id ≠ [])
    (missing : next none = .done reply)
    (judged : ∀ kept, store.Keeps kept → next (some kept.challenge) = .done reply) :
    ∃ after, (takeSRPChallenge site label id purpose next).run (Command.answer 0) env store =
        (match (env 0).error? with
          | some err => .refused (.internal (ascii label) err)
          | none => reply, after) ∧
      after.users = store.users ∧ ∀ kept, after.Keeps kept → store.Keeps kept := by
  let after := { store with ephemeral := Function.update store.ephemeral (trimSpace id) none }
  have less (kept : Kept) (there : after.Keeps kept) : store.Keeps kept := by
    obtain ⟨place, found | found⟩ := there
    · have found : Function.update store.ephemeral (trimSpace id) none place = some kept := found
      by_cases same : place = trimSpace id
      · rw [same, Function.update_self] at found
        cases found
      · rw [Function.update_of_ne same] at found
        exact ⟨place, .inl found⟩
    · exact ⟨place, .inr found⟩
  unfold takeSRPChallenge
  rw [if_pos valkey, if_neg named, Program.run_ask]
  cases ends : env 0 with
  | refused err => exact ⟨_, rfl, rfl, fun kept there => there⟩
  | lost err => exact ⟨_, rfl, rfl, less⟩
  | done =>
    have answered : Command.answer 0 .done (.getDel (trimSpace id)) store =
        (.ok ((store.ephemeral (trimSpace id)).map Kept.challenge), after) := rfl
    rw [answered]
    cases found : store.ephemeral (trimSpace id) with
    | none =>
      obtain ⟨last, ran, users, kept⟩ := @takeLocal_run after next reply id purpose
        (fun count => env (count + 1)) missing fun kept there => judged kept (less kept there)
      exact ⟨last, ran, users, fun other there => less other (kept other there)⟩
    | some kept =>
      refine ⟨after, ?_, rfl, less⟩
      exact checkTaken_run missing (judged kept ⟨_, .inl found⟩)

end Taking

theorem apiLoginSRPFinish_takes (body : FinishBody) :
    ∃ next, apiLoginSRPFinish site none body =
        (if site.hasSessions = false then refuse 503 "login requires database and Valkey"
        else takeSRPChallenge site "srp challenge load" (trimSpace body.sessionID) (ascii "login") next) ∧
      next none = refuse 401 "invalid credentials" ∧
      ∀ challenge, body.proves challenge = false →
        next (some challenge) = refuse 401 "invalid credentials" :=
  ⟨_, rfl, rfl, fun _ fails => if_pos (.inl fails)⟩

theorem visit_finish {body : FinishBody}
    (without : ∀ kept, store.Keeps kept → body.proves kept.challenge = false) :
    ∃ after, visit site store (.finish body) chance = (finishShown site body chance, after) ∧
      after.users = store.users ∧ ∀ kept, after.Keeps kept → store.Keeps kept := by
  unfold visit Attempt.program showLoginFinish finishShown
  cases chance.gate with
  | some refusal => exact ⟨_, rfl, rfl, fun kept there => there⟩
  | none =>
    obtain ⟨next, takes, missing, fails⟩ := @apiLoginSRPFinish_takes site body
    dsimp only
    rw [takes]
    by_cases sessions : site.hasSessions = false
    · rw [if_pos sessions, if_pos sessions]
      exact ⟨_, rfl, rfl, fun kept there => there⟩
    · have valkey : site.hasSessions = true := by simpa using sessions
      rw [if_neg sessions, if_neg sessions]
      by_cases blank : trimSpace (trimSpace body.sessionID) = []
      · unfold takeSRPChallenge
        rw [if_pos blank, if_pos valkey, if_pos blank]
        exact ⟨_, rfl, rfl, fun kept there => there⟩
      · rw [if_neg blank, Program.run_bind]
        obtain ⟨after, ran, users, kept⟩ := @take_run site { store with clock := chance.clock } next
          (.refused (.status 401 (ascii "invalid credentials"))) (trimSpace body.sessionID)
          (ascii "login") chance.env "srp challenge load" valkey blank missing
          fun kept there => fails kept.challenge (without kept there)
        rw [ran]
        refine ⟨after, ?_, users, kept⟩
        rw [Outcome.fails]
        cases (chance.env 0).error? with
        | some err => rfl
        | none => rfl

end Visits

def attemptShown (site : AuthSite) (username : GoString) (account : Option UserAuth) :
    Attempt × Chance → Shown
  | (.start body, chance) => beginShown site username account body chance
  | (.finish body, chance) => finishShown site body chance

def Named (site : AuthSite) (username : GoString) (visits : List (Attempt × Chance)) : Prop :=
  ∀ body chance, (Attempt.start body, chance) ∈ visits →
    normalizeAndValidateUsername site.site.lib body.username = some username

theorem shows_eq {site : AuthSite} {username : GoString} {store : AuthStore}
    {visits : List (Attempt × Chance)} (named : Named site username visits)
    (without : WithoutPassword site username store visits) :
    shows site store visits =
      visits.map (attemptShown site username (store.account (loginEmail site username))) := by
  have run (reached : AuthStore) (left : List (Attempt × Chance)) (within : ∀ visit ∈ left, visit ∈ visits)
      (users : reached.users = store.users)
      (kept : ∀ kept, reached.Keeps kept →
        CouldProve site username store visits kept.challenge.expectedClientProof) :
      shows site reached left =
        left.map (attemptShown site username (store.account (loginEmail site username))) := by
    induction left generalizing reached with
    | nil => rfl
    | cons visit left ih =>
      obtain ⟨first, later⟩ := List.forall_mem_cons.mp within
      have account : reached.account (loginEmail site username) =
          store.account (loginEmail site username) := by
        rw [AuthStore.account, users]
        rfl
      obtain ⟨attempt, chance⟩ := visit
      cases attempt with
      | start body =>
        obtain ⟨after, ran, same, more⟩ := @visit_start site username reached chance body
          (named body chance first)
        rw [shows, ran, List.map_cons, account]
        refine congrArg _ (ih after later (same.trans users) ?_)
        intro other there
        rcases more other there with before | ⟨session, made, proof⟩
        · exact kept other before
        · exact .inr ⟨body, chance, session, first, account ▸ made, proof.symm⟩
      | finish body =>
        obtain ⟨after, ran, same, fewer⟩ := @visit_finish site reached chance body (by
          intro other there
          refine decide_eq_false fun proves => ?_
          exact without body chance first _ proves (kept other there))
        rw [shows, ran, List.map_cons]
        exact congrArg _ (ih after later (same.trans users)
          fun other there => kept other (fewer other there))
  exact run store visits (fun _ member => member) rfl
    fun kept ⟨id, there⟩ => .inl ⟨id, kept, there, rfl⟩

/-- A begin request gets through with a registration made up with this salt. -/
structure ServedWith (site : AuthSite) (username : GoString) (body : LoginBegin) (chance : Chance)
    (salt : GoString) : Prop where
  gate : chance.gate = none
  found : (chance.env 0).error? = none
  drawn : chance.draws.dummySalt = .ok salt
  session : (loginSession site username none body chance.draws).isSome = true
  stored : issues site chance.draws (chance.env 2)

/-- The begin requests that get through have drawn the same salt. -/
def SaltsAgree (site : AuthSite) (username : GoString) (visits : List (Attempt × Chance)) : Prop :=
  ∀ body chance salt other otherChance otherSalt,
    (Attempt.start body, chance) ∈ visits → (Attempt.start other, otherChance) ∈ visits →
    ServedWith site username body chance salt → ServedWith site username other otherChance otherSalt →
    salt = otherSalt

def Absent (account : Option UserAuth) : Prop := ∀ row, account = some row → row.logsIn = false

section Registered

variable {site : AuthSite} {username : GoString} {account : Option UserAuth} {row : UserAuth}
  {body : LoginBegin} {chance : Chance} {draws : Draws}

theorem loginRegistration_absent (absent : Absent account) :
    loginRegistration site draws username (account.elim (.error .notFound) .ok) =
      (dummySRPRegistration site draws username).map (none, ·) := by
  cases account with
  | none => rfl
  | some row =>
    have out := absent row rfl
    rw [UserAuth.logsIn, Bool.and_eq_false_iff] at out
    refine if_pos (out.imp (fun disabled => ?_) id)
    simpa using disabled

theorem loginRegistration_logsIn (logsIn : row.logsIn = true) :
    loginRegistration site draws username (.ok row) =
      .ok (some row, ⟨row.srpSalt, row.srpVerifier, row.srpGroup, row.srpHash⟩) := by
  rw [UserAuth.logsIn, Bool.and_eq_true] at logsIn
  refine if_neg ?_
  rintro (disabled | unused)
  · simp [disabled] at logsIn
  · simp [unused] at logsIn

theorem padBig_ne_nil (value size : Nat) : padBig value size ≠ [] := by
  have trimmed (bytes : GoString) : trimLeadingZeroes bytes ≠ [] := by
    rw [trimLeadingZeroes]
    split
    · exact List.cons_ne_nil _ _
    · assumption
  rw [padBig, padBytes]
  split
  · exact trimmed _
  · exact fun none => trimmed _ (List.append_eq_nil_iff.mp none).2

theorem parsesGroup_default : parsesGroup defaultGroup.name (ascii "sha256") = true := by
  decide

theorem computeRegistration_ok {hash : Hash} {password salt : GoString} {reg : Pake.Registration}
    (computed : computeRegistration hash username password salt = .ok reg) :
    reg.salt = salt ∧ 16 ≤ salt.length ∧ reg.groupName = defaultGroup.name ∧
      reg.hashName = ascii "sha256" ∧ ∃ value size, reg.verifier = padBig value size := by
  unfold computeRegistration at computed
  split at computed
  · cases computed
  next long =>
    have least : 16 ≤ salt.length := Nat.le_of_not_lt long
    have same := (Except.ok.inj computed).symm
    have salts : reg.salt = salt := congrArg Pake.Registration.salt same
    have group : reg.groupName = defaultGroup.name := congrArg Pake.Registration.groupName same
    have hashed : reg.hashName = ascii "sha256" := congrArg Pake.Registration.hashName same
    have verifier := congrArg Pake.Registration.verifier same
    dsimp only at verifier
    exact ⟨salts, least, group, hashed, _, _, verifier⟩

theorem dummySRPRegistration_ok {reg : Pake.Registration}
    (made : dummySRPRegistration site draws username = .ok reg) :
    draws.dummySalt = .ok reg.salt ∧ reg.salt ≠ [] ∧ reg.verifier ≠ [] ∧
      computeRegistration site.hash username (ascii "dummy-password-for-missing-user") reg.salt =
        .ok reg ∧ parsesGroup reg.groupName reg.hashName = true := by
  unfold dummySRPRegistration at made
  split at made
  · cases made
  next salt drawn =>
    split at made
    · cases made
    next other computed =>
      cases made
      obtain ⟨rfl, long, group, hash, value, size, verifier⟩ := computeRegistration_ok computed
      refine ⟨drawn, ?_, ?_, computed, ?_⟩
      · intro none
        simp [none] at long
      · rw [verifier]
        exact padBig_ne_nil value size
      · rw [group, hash]
        exact parsesGroup_default

theorem loginSession_some {session : ServerSession}
    (made : loginSession site username account body draws = some session) :
    ∃ clientPublic authUser reg, decodeB64Field body.clientPublicB64 = some clientPublic ∧
      loginRegistration site draws username (account.elim (.error .notFound) .ok) = .ok (authUser, reg) ∧
      serverSession site draws username reg.salt reg.verifier clientPublic = some session := by
  obtain ⟨clientPublic, decoded, made⟩ := Option.bind_eq_some_iff.mp made
  obtain ⟨⟨authUser, reg⟩, registered, made⟩ := Option.bind_eq_some_iff.mp made
  refine ⟨clientPublic, authUser, reg, decoded, ?_, made⟩
  cases read : loginRegistration site draws username (account.elim (.error .notFound) .ok) with
  | error err => rw [read] at registered; cases registered
  | ok found => rw [read] at registered; cases registered; rfl

def Shown.saltB64 : Shown → Option GoString
  | .started params => some params.saltB64
  | .accepted | .refused _ _ => none

theorem beginShown_served (absent : Absent account) {salt : GoString}
    (served : ServedWith site username body chance salt) :
    (beginShown site username account body chance).saltB64 = some (base64Encode salt) := by
  obtain ⟨session, made⟩ := Option.isSome_iff_exists.mp served.session
  obtain ⟨clientPublic, authUser, reg, decoded, registered, opened⟩ := loginSession_some made
  have dummy : (dummySRPRegistration site chance.draws username).map (none, ·) = .ok (authUser, reg) :=
    registered
  have read : loginRegistration site chance.draws username (Command.lookup (chance.env 0) account) =
      .ok (authUser, reg) := by
    rcases lookup_cases (chance.env 0) account with ⟨err, fails, -⟩ | ⟨-, read⟩
    · rw [served.found] at fails
      cases fails
    · rw [read, loginRegistration_absent absent, dummy]
  obtain ⟨reg', computed, same⟩ : ∃ reg', dummySRPRegistration site chance.draws username = .ok reg' ∧
      reg' = reg := by
    cases computed : dummySRPRegistration site chance.draws username with
    | error err => rw [computed] at dummy; cases dummy
    | ok reg' => rw [computed] at dummy; cases dummy; exact ⟨_, rfl, rfl⟩
  obtain ⟨drawn, -, -, -, parses⟩ := dummySRPRegistration_ok computed
  subst same
  have salts : reg'.salt = salt := Except.ok.inj (drawn.symm.trans served.drawn)
  unfold beginShown registeredShown
  rw [served.gate]
  dsimp only
  rw [decoded]
  dsimp only
  rw [read]
  dsimp only
  rw [if_neg (by simp [parses]), if_neg (by simp [opened]), if_pos served.stored]
  exact congrArg (fun salt => some (base64Encode salt)) salts

theorem beginShown_logsIn (logsIn : row.logsIn = true) {salt : GoString}
    (shown : (beginShown site username (some row) body chance).saltB64 = some salt) :
    salt = base64Encode row.srpSalt := by
  unfold beginShown at shown
  split at shown
  next refusal gate => cases shown
  next gate =>
    split at shown
    next => cases shown
    next clientPublic decoded =>
      rcases lookup_cases (chance.env 0) (some row) with ⟨err, -, failed⟩ | ⟨-, read⟩
      · rw [failed] at shown
        cases shown
      · rw [read, Option.elim_some, loginRegistration_logsIn logsIn] at shown
        dsimp only at shown
        unfold registeredShown at shown
        split at shown
        · cases shown
        split at shown
        · cases shown
        split at shown
        · exact (Option.some.inj shown).symm
        · cases shown

def registeredRow (email : GoString) (reg : Pake.Registration) : UserAuth where
  userID := 1
  email
  passwordHash := srpPasswordSentinel
  authMethod := ascii "srp"
  srpSalt := reg.salt
  srpVerifier := reg.verifier
  srpGroup := reg.groupName
  srpHash := reg.hashName

theorem registeredRow_logsIn {email : GoString} {reg : Pake.Registration} (salt : reg.salt ≠ [])
    (verifier : reg.verifier ≠ []) : (registeredRow email reg).logsIn = true := by
  have named : trimSpace srpPasswordSentinel ≠ disabledPasswordSentinel ∧
      trimSpace (ascii "srp") = ascii "srp" := by
    decide
  rw [UserAuth.logsIn, Bool.and_eq_true]
  exact ⟨decide_eq_true named.1, decide_eq_true ⟨named.2, salt, verifier⟩⟩

def Mimics (site : AuthSite) (username : GoString) (account : Option UserAuth) (row : UserAuth)
    (visit other : Attempt × Chance) : Prop :=
  Alike visit other ∧
    attemptShown site username (some row) other = attemptShown site username account visit ∧
    ∀ body session, other.1 = .start body →
      loginSession site username (some row) body other.2.draws = some session →
      loginSession site username account body visit.2.draws = some session

theorem mimics_served (absent : Absent account) {reg : Pake.Registration} {email : GoString}
    (logsIn : (registeredRow email reg).logsIn = true)
    (computed : dummySRPRegistration site chance.draws username = .ok reg) :
    Mimics site username account (registeredRow email reg) (.start body, chance) (.start body, chance) := by
  have registered : loginRegistration site chance.draws username (.ok (registeredRow email reg)) =
      .ok (some (registeredRow email reg), reg) := loginRegistration_logsIn logsIn
  have missing : loginRegistration site chance.draws username (account.elim (.error .notFound) .ok) =
      .ok (none, reg) := by
    rw [loginRegistration_absent absent, computed]
    rfl
  refine ⟨⟨rfl, rfl, rfl, rfl⟩, ?_, ?_⟩
  · dsimp only [attemptShown]
    unfold beginShown
    cases chance.gate with
    | some refusal => rfl
    | none =>
      dsimp only
      cases decodeB64Field body.clientPublicB64 with
      | none => rfl
      | some clientPublic =>
        dsimp only
        rcases lookup_cases (chance.env 0) account with ⟨err, fails, failed⟩ | ⟨done, read⟩
        · rw [failed, lookup_error fails]
        · rw [read, lookup_found done, registered, missing]
  · rintro other session same made
    obtain rfl := Attempt.start.inj same
    dsimp only at made ⊢
    unfold loginSession at made ⊢
    rw [Option.elim_some, registered] at made
    rw [missing]
    exact made

theorem beginShown_unserved (absent : Absent account)
    (unserved : ∀ salt, ¬ServedWith site username body chance salt) {clientPublic : GoString}
    (gate : chance.gate = none) (decoded : decodeB64Field body.clientPublicB64 = some clientPublic) :
    beginShown site username account body chance = .refused 500 (ascii "internal error") ∨
      beginShown site username account body chance = .refused 400 (ascii "invalid client public") := by
  unfold beginShown
  rw [gate]
  dsimp only
  rw [decoded]
  dsimp only
  rcases lookup_cases (chance.env 0) account with ⟨err, -, failed⟩ | ⟨done, read⟩
  · rw [failed]
    exact .inl rfl
  · rw [read, loginRegistration_absent absent]
    cases computed : dummySRPRegistration site chance.draws username with
    | error err => exact .inl rfl
    | ok reg =>
      obtain ⟨drawn, -, -, -, parses⟩ := dummySRPRegistration_ok computed
      dsimp only [Except.map]
      unfold registeredShown
      rw [if_neg (by simp [parses])]
      split
      · exact .inr rfl
      next opened =>
        split
        next stored =>
          refine absurd ⟨gate, done, drawn, ?_, stored⟩ (unserved reg.salt)
          have missing : loginRegistration site chance.draws username
              ((none : Option UserAuth).elim (.error .notFound) .ok) = .ok (none, reg) :=
            congrArg (Except.map (none, ·)) computed
          unfold loginSession
          rw [decoded, missing]
          show (serverSession site chance.draws username reg.salt reg.verifier
            clientPublic).isSome = true
          simpa [Option.isSome_iff_ne_none] using opened
        next => exact .inl rfl

theorem mimics_unserved (absent : Absent account)
    (unserved : ∀ salt, ¬ServedWith site username body chance salt) (logsIn : row.logsIn = true)
    (parses : parsesGroup row.srpGroup row.srpHash = true) :
    ∃ other, Mimics site username account row (.start body, chance) (.start body, other) := by
  have mimics (env : Nat → Outcome GoError)
      (same : beginShown site username (some row) body
          ⟨{ chance.draws with exponent := none }, chance.gate, env, chance.clock⟩ =
        beginShown site username account body chance) :
      Mimics site username account row (.start body, chance)
        (.start body, ⟨{ chance.draws with exponent := none }, chance.gate, env, chance.clock⟩) := by
    refine ⟨⟨rfl, rfl, rfl, rfl⟩, same, ?_⟩
    intro other session _ made
    obtain ⟨clientPublic, authUser, reg, -, -, opened⟩ := loginSession_some made
    cases opened
  cases gate : chance.gate with
  | some refusal =>
    refine ⟨_, mimics chance.env ?_⟩
    unfold beginShown
    rw [gate]
  | none =>
    cases decoded : decodeB64Field body.clientPublicB64 with
    | none =>
      refine ⟨_, mimics chance.env ?_⟩
      unfold beginShown
      rw [gate, decoded]
    | some clientPublic =>
      rcases beginShown_unserved absent unserved gate decoded with shown | shown
      · refine ⟨_, mimics (fun _ => .refused (.plain [])) ?_⟩
        rw [shown]
        unfold beginShown
        rw [gate, decoded]
        rfl
      · refine ⟨_, mimics (fun _ => .done) ?_⟩
        rw [shown]
        unfold beginShown
        dsimp only
        rw [gate]
        dsimp only
        rw [decoded]
        dsimp only
        rw [lookup_found rfl, loginRegistration_logsIn logsIn]
        dsimp only
        unfold registeredShown
        rw [if_neg (by simp [parses])]
        rfl

end Registered

section Sequences

variable {site : AuthSite} {username : GoString} {store : AuthStore} {visits : List (Attempt × Chance)}

theorem forall₂_of_forall {Item Other : Type*} {Related : Item → Other → Prop} {items : List Item}
    (each : ∀ item ∈ items, ∃ other, Related item other) : ∃ others, List.Forall₂ Related items others := by
  induction items with
  | nil => exact ⟨[], .nil⟩
  | cons item items ih =>
    obtain ⟨⟨other, first⟩, later⟩ := List.forall_mem_cons.mp each
    obtain ⟨others, related⟩ := ih later
    exact ⟨other :: others, .cons first related⟩

theorem forall₂_mem_right {Item Other : Type*} {Related : Item → Other → Prop} {items : List Item}
    {others : List Other} (related : List.Forall₂ Related items others) {other : Other}
    (member : other ∈ others) : ∃ item ∈ items, Related item other := by
  induction related with
  | nil => cases member
  | cons first rest ih =>
    rcases List.mem_cons.mp member with rfl | member
    · exact ⟨_, List.mem_cons_self, first⟩
    · obtain ⟨item, there, same⟩ := ih member
      exact ⟨item, List.mem_cons_of_mem _ there, same⟩

theorem forall₂_mem_left {Item Other : Type*} {Related : Item → Other → Prop} {items : List Item}
    {others : List Other} (related : List.Forall₂ Related items others) {item : Item}
    (member : item ∈ items) : ∃ other ∈ others, Related item other := by
  obtain ⟨other, there, same⟩ := forall₂_mem_right related.flip member
  exact ⟨other, there, same⟩

theorem forall₂_shown {Item Other Value : Type*} {Related : Item → Other → Prop} {items : List Item}
    {others : List Other} {left : Item → Value} {right : Other → Value}
    (related : List.Forall₂ Related items others) (same : others.map right = items.map left) :
    List.Forall₂ (fun item other => Related item other ∧ right other = left item) items others := by
  induction related with
  | nil => exact .nil
  | cons first rest ih =>
    obtain ⟨head, tail⟩ := List.cons.inj same
    exact .cons ⟨first, head⟩ (ih tail)

theorem exists_registration (agree : SaltsAgree site username visits) :
    ∃ reg draws, dummySRPRegistration site draws username = .ok reg ∧
      ∀ body chance salt, (Attempt.start body, chance) ∈ visits →
        ServedWith site username body chance salt →
        dummySRPRegistration site chance.draws username = .ok reg := by
  have made {body : LoginBegin} {chance : Chance} {salt : GoString}
      (served : ServedWith site username body chance salt) :
      ∃ reg, dummySRPRegistration site chance.draws username = .ok reg := by
    obtain ⟨session, opened⟩ := Option.isSome_iff_exists.mp served.session
    obtain ⟨clientPublic, authUser, reg, -, registered, -⟩ := loginSession_some opened
    have registered : (dummySRPRegistration site chance.draws username).map
        ((none : Option UserAuth), ·) = .ok (authUser, reg) := registered
    cases computed : dummySRPRegistration site chance.draws username with
    | error err => rw [computed] at registered; cases registered
    | ok reg => exact ⟨reg, rfl⟩
  have drawn (draws other : Draws) (same : draws.dummySalt = other.dummySalt) :
      dummySRPRegistration site draws username = dummySRPRegistration site other username := by
    unfold dummySRPRegistration
    rw [same]
  by_cases some : ∃ body chance salt, (Attempt.start body, chance) ∈ visits ∧
      ServedWith site username body chance salt
  · obtain ⟨body, chance, salt, member, served⟩ := some
    obtain ⟨reg, computed⟩ := made served
    refine ⟨reg, chance.draws, computed, ?_⟩
    intro other otherChance otherSalt otherMember otherServed
    have same := agree _ _ _ _ _ _ otherMember member otherServed served
    rw [← computed]
    exact drawn _ _ (by rw [otherServed.drawn, served.drawn, same])
  · refine ⟨_, ⟨none, .ok (List.replicate 16 0), []⟩, rfl, ?_⟩
    intro body chance salt member served
    exact absurd ⟨body, chance, salt, member, served⟩ some

theorem looksRegistered_of_agree (named : Named site username visits)
    (without : WithoutPassword site username store visits)
    (absent : Absent (store.account (loginEmail site username)))
    (agree : SaltsAgree site username visits) : LooksRegistered site username store visits := by
  obtain ⟨reg, draws, computed, serves⟩ := exists_registration agree
  obtain ⟨-, salt, verifier, -, parses⟩ := dummySRPRegistration_ok computed
  let row := registeredRow (loginEmail site username) reg
  have logsIn : row.logsIn = true := registeredRow_logsIn salt verifier
  obtain ⟨others, mimics⟩ : ∃ others, List.Forall₂
      (Mimics site username (store.account (loginEmail site username)) row) visits others := by
    refine forall₂_of_forall fun ⟨attempt, chance⟩ member => ?_
    cases attempt with
    | finish body => exact ⟨(.finish body, chance), ⟨rfl, rfl, rfl, rfl⟩, rfl, nofun⟩
    | start body =>
      by_cases served : ∃ salt, ServedWith site username body chance salt
      · obtain ⟨salt, served⟩ := served
        exact ⟨_, mimics_served absent logsIn (serves body chance salt member served)⟩
      · obtain ⟨other, mimics⟩ := mimics_unserved absent
          (fun salt through => served ⟨salt, through⟩) logsIn parses
        exact ⟨_, mimics⟩
  have account : (AuthStore.account { store with users := [row] } (loginEmail site username)) =
      some row := List.find?_cons_of_pos (decide_eq_true rfl)
  have namedOthers : Named site username others := by
    intro body chance member
    obtain ⟨⟨attempt, other⟩, there, ⟨equal, -⟩, -⟩ := forall₂_mem_right mimics member
    obtain rfl : attempt = .start body := equal
    exact named body other there
  have withoutOthers : WithoutPassword site username { store with users := [row] } others := by
    intro body chance member proof decoded
    obtain ⟨⟨attempt, other⟩, there, ⟨equal, -⟩, -⟩ := forall₂_mem_right mimics member
    obtain rfl : attempt = .finish body := equal
    refine fun could => without body other there proof decoded ?_
    rcases could with stored | ⟨begun, chance', session, member', made, same⟩
    · exact .inl stored
    · obtain ⟨⟨attempt, first⟩, there', ⟨equal, -⟩, -, sessions⟩ := forall₂_mem_right mimics member'
      obtain rfl : attempt = .start begun := equal
      rw [account] at made
      exact .inr ⟨begun, first, session, there', sessions begun session rfl made, same⟩
  refine ⟨[row], row, others, account, logsIn, mimics.imp fun _ _ mimics => mimics.1, withoutOthers, ?_⟩
  rw [shows_eq namedOthers withoutOthers, shows_eq named without, account]
  clear namedOthers withoutOthers agree serves named without
  induction mimics with
  | nil => rfl
  | cons first rest ih => rw [List.map_cons, List.map_cons, first.2.1, ih]

theorem agree_of_looksRegistered (named : Named site username visits)
    (without : WithoutPassword site username store visits)
    (absent : Absent (store.account (loginEmail site username)))
    (looks : LooksRegistered site username store visits) : SaltsAgree site username visits := by
  obtain ⟨users, row, others, account, logsIn, alike, withoutOthers, same⟩ := looks
  have namedOthers : Named site username others := by
    intro body chance member
    obtain ⟨⟨attempt, other⟩, there, equal, -⟩ := forall₂_mem_right alike member
    obtain rfl : attempt = .start body := equal
    exact named body other there
  rw [shows_eq namedOthers withoutOthers, shows_eq named without, account] at same
  have shown := forall₂_shown alike same
  have salt (body : LoginBegin) (chance : Chance) (salt : GoString)
      (member : (Attempt.start body, chance) ∈ visits)
      (served : ServedWith site username body chance salt) :
      base64Encode salt = base64Encode row.srpSalt := by
    obtain ⟨⟨attempt, other⟩, -, ⟨equal, -⟩, reply⟩ := forall₂_mem_left shown member
    obtain rfl : Attempt.start body = attempt := equal
    have reply : beginShown site username (some row) body other =
        beginShown site username (store.account (loginEmail site username)) body chance := reply
    refine @beginShown_logsIn site username row body other logsIn _ ?_
    rw [reply]
    exact beginShown_served absent served
  intro body chance first other otherChance second member otherMember served otherServed
  have equal := (salt body chance first member served).trans
    (salt other otherChance second otherMember otherServed).symm
  have decoded := base64Decode_encode first
  rw [equal, base64Decode_encode] at decoded
  exact (Option.some.inj decoded).symm

/-- What the attempts show is what they show of a registered user exactly if the user is one, or
the begin requests that get through have drawn the same salt. -/
theorem logins_look_registered_iff (named : Named site username visits)
    (without : WithoutPassword site username store visits) :
    LooksRegistered site username store visits ↔
      (∃ row, store.account (loginEmail site username) = some row ∧ row.logsIn = true) ∨
        SaltsAgree site username visits := by
  by_cases there : ∃ row, store.account (loginEmail site username) = some row ∧ row.logsIn = true
  · refine iff_of_true ?_ (.inl there)
    obtain ⟨row, account, logsIn⟩ := there
    exact ⟨store.users, row, visits, account, logsIn,
      List.forall₂_same.mpr fun _ _ => ⟨rfl, rfl, rfl, rfl⟩, without, rfl⟩
  · have absent : Absent (store.account (loginEmail site username)) := by
      intro row account
      exact Bool.eq_false_iff.mpr fun logsIn => there ⟨row, account, logsIn⟩
    constructor
    · exact fun looks => .inr (agree_of_looksRegistered named without absent looks)
    · rintro (present | agree)
      · exact absurd present there
      · exact looksRegistered_of_agree named without absent agree

end Sequences

/-! Nobody has an account, and someone tries to log in as bob. -/

def emptySite : AuthSite := ⟨⟨.plain, [], fun _ => none, fun _ => none, fun _ => none⟩, unitHash, true⟩

def emptyStore : AuthStore := ⟨fun _ => none, fun _ => none, [], fun _ => none, 0⟩

def guess (byte : UInt8) : Attempt × Chance :=
  (.start ⟨ascii "bob", ascii "Ag=="⟩,
    ⟨⟨some unitScalar, .ok (List.replicate 16 byte), ascii "id"⟩, none, fun _ => .done, 0⟩)

def giveUp : Attempt × Chance :=
  (.finish ⟨ascii "id", []⟩, ⟨⟨none, .ok [], []⟩, none, fun _ => .done, 0⟩)

theorem guesses_named (first second : UInt8) :
    Named emptySite (ascii "bob") [guess first, guess second, giveUp] := by
  intro body chance member
  have named : normalizeAndValidateUsername .plain (ascii "bob") = some (ascii "bob") := by
    decide +kernel
  have bob : body.username = ascii "bob" := by
    rcases List.mem_cons.mp member with same | member
    · exact congrArg LoginBegin.username (Attempt.start.inj (Prod.mk.inj same).1)
    · rcases List.mem_cons.mp member with same | member
      · exact congrArg LoginBegin.username (Attempt.start.inj (Prod.mk.inj same).1)
      · cases List.mem_singleton.mp member
  rw [bob]
  exact named

theorem guesses_without (first second : UInt8) :
    WithoutPassword emptySite (ascii "bob") emptyStore [guess first, guess second, giveUp] := by
  intro body chance member proof decoded
  have blank : body.clientProofB64 = [] := by
    rcases List.mem_cons.mp member with same | member
    · cases (Prod.mk.inj same).1
    · rcases List.mem_cons.mp member with same | member
      · cases (Prod.mk.inj same).1
      · exact congrArg FinishBody.clientProofB64
          (Attempt.finish.inj (Prod.mk.inj (List.mem_singleton.mp member)).1)
  rw [blank] at decoded
  cases decoded

theorem equal_salts_look_registered :
    LooksRegistered emptySite (ascii "bob") emptyStore [guess 7, guess 7, giveUp] := by
  refine (logins_look_registered_iff (guesses_named 7 7) (guesses_without 7 7)).mpr (.inr ?_)
  have drawn (body : LoginBegin) (chance : Chance) (salt : GoString)
      (member : (Attempt.start body, chance) ∈ [guess 7, guess 7, giveUp])
      (served : ServedWith emptySite (ascii "bob") body chance salt) : salt = List.replicate 16 7 := by
    have same : chance.draws.dummySalt = .ok (List.replicate 16 7) := by
      rcases List.mem_cons.mp member with same | member
      · rw [(Prod.mk.inj same).2]
      · rcases List.mem_cons.mp member with same | member
        · rw [(Prod.mk.inj same).2]
        · cases (Prod.mk.inj (List.mem_singleton.mp member)).1
    exact Except.ok.inj (served.drawn.symm.trans same)
  intro body chance salt other otherChance otherSalt member otherMember served otherServed
  rw [drawn body chance salt member served, drawn other otherChance otherSalt otherMember otherServed]

theorem guess_served (byte : UInt8)
    (opened : (loginSession emptySite (ascii "bob") none ⟨ascii "bob", ascii "Ag=="⟩
      (guess byte).2.draws).isSome = true) :
    ServedWith emptySite (ascii "bob") ⟨ascii "bob", ascii "Ag=="⟩ (guess byte).2
      (List.replicate 16 byte) where
  gate := rfl
  found := rfl
  drawn := rfl
  session := opened
  stored := fun _ => ⟨show trimSpace (ascii "id") ≠ [] by decide, rfl⟩

/-- Two begin requests for a name without an account show two salts. -/
theorem missing_account_shows_salts :
    (shows emptySite emptyStore [guess 7, guess 8, giveUp]).map Shown.saltB64 =
        [some (base64Encode (List.replicate 16 7)), some (base64Encode (List.replicate 16 8)), none] ∧
      ¬LooksRegistered emptySite (ascii "bob") emptyStore [guess 7, guess 8, giveUp] := by
  have run : (shows emptySite emptyStore [guess 7, guess 8, giveUp]).map Shown.saltB64 =
        [some (base64Encode (List.replicate 16 7)), some (base64Encode (List.replicate 16 8)), none] ∧
      (loginSession emptySite (ascii "bob") none ⟨ascii "bob", ascii "Ag=="⟩
        (guess 7).2.draws).isSome = true ∧
      (loginSession emptySite (ascii "bob") none ⟨ascii "bob", ascii "Ag=="⟩
        (guess 8).2.draws).isSome = true := by
    decide +kernel
  refine ⟨run.1, fun looks => ?_⟩
  have agree := agree_of_looksRegistered (guesses_named 7 8) (guesses_without 7 8)
    (fun row found => by cases found) looks
  have same := agree _ _ _ _ _ _ List.mem_cons_self (List.mem_cons_of_mem _ List.mem_cons_self)
    (guess_served 7 run.2.1) (guess_served 8 run.2.2)
  exact absurd same (by decide)

end ElvishMail.Httpserver.Auth
