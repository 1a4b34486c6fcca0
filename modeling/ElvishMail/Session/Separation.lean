import ElvishMail.Session.Calls

/-!
# No record is a session

Requests run against one Valkey, command by command. Whatever a key of the store holds was
written as a session, as a record or as the tokens of a user; of these only a session has
the user field that `Get` reads. A cookie is accepted only if it is a token that
`CreateWithPayload` drew for the user.
-/

namespace ElvishMail.Session.Keyspace

open Go Smtp Semantics

inductive Call (User : Type) where
  | login (draw : Except GoError GoString) (payload : Payload) (now : Int)
  | logout (cookie : GoString)
  | revoke (user : User)
  | verifyCode (userByID : User → Option GoError) (cookie : GoString) (checked : Option GoError) (now : Int)
  | stepUpBegin (userByID : User → Option GoError) (cookie : GoString) (begun : Except GoError Json)
      (draw : Except GoError GoString) (now : GoString)
  | stepUpFinish (userByID : User → Option GoError) (cookie challengeID : GoString)
      (readable : Fields → Option GoError) (checked : Option GoError) (now : Int)
  | pendingLogin (draw : Except GoError GoString) (state : PendingLogin)
  | totpSetup (draw : Except GoError GoString) (state : PendingTOTPSetup)
  | webAuthnRegister (draw : Except GoError GoString) (userID : GoString) (sessionData : Json)
      (createdAt : GoString)
  | webAuthnLogin (draw : Except GoError GoString) (userID loginStateID : GoString) (sessionData : Json)
      (createdAt : GoString)
  | srpChallenge (id : GoString) (challenge : SRPChallenge)
  | oauthCode (code : GoString) (stored : StoredAuthCode)
  | load (kind : Kind) (id : GoString)
  | discard (kind : Kind) (id : GoString)
  | take (kind : Kind) (id : GoString)

/-- What a call returns: a token or a handle, an error or none, or the JSON it found. -/
inductive Result where
  | issued (answer : Except GoError GoString)
  | ended (err : Option GoError)
  | found (answer : Except GoError (Option Fields))

section Calls

variable {User : Type} (uuids : UUIDs User)

def Call.program : Call User → Commands Result
  | login draw payload now => createWithPayload draw payload now >>= fun answer => .done (.issued answer)
  | logout cookie => clearBrowserSession cookie >>= fun err => .done (.ended err)
  | revoke user => deleteUserSessions (uuids.text user) >>= fun err => .done (.ended err)
  | verifyCode userByID cookie checked now =>
    Keyspace.verifyCode uuids userByID cookie checked now >>= fun err => .done (.ended err)
  | stepUpBegin userByID cookie begun draw now =>
    Keyspace.stepUpBegin uuids userByID cookie begun draw now >>= fun answer => .done (.issued answer)
  | stepUpFinish userByID cookie challengeID readable checked now =>
    Keyspace.stepUpFinish uuids userByID cookie challengeID readable checked now >>= fun err =>
      .done (.ended err)
  | pendingLogin draw state =>
    saveTemporaryJSON Kind.pendingLogin.bucket draw (Record.pendingLogin state).marshal >>= fun answer =>
      .done (.issued answer)
  | totpSetup draw state =>
    saveTemporaryJSON Kind.totpSetup.bucket draw (Record.totpSetup state).marshal >>= fun answer =>
      .done (.issued answer)
  | webAuthnRegister draw userID sessionData createdAt =>
    saveTemporaryJSON Kind.webAuthnRegister.bucket draw
      (Record.webAuthn ⟨userID, [], [], sessionData, createdAt⟩).marshal >>= fun answer =>
      .done (.issued answer)
  | webAuthnLogin draw userID loginStateID sessionData createdAt =>
    saveTemporaryJSON Kind.webAuthnLogin.bucket draw
      (Record.webAuthn ⟨userID, [], loginStateID, sessionData, createdAt⟩).marshal >>= fun answer =>
      .done (.issued answer)
  | srpChallenge id challenge =>
    putEphemeralJSON Kind.srpChallenge.bucket id (Record.srpChallenge challenge).marshal >>= fun err =>
      .done (.ended err)
  | oauthCode code stored =>
    putEphemeralJSON Kind.oauthCode.bucket code (Record.authCode stored).marshal >>= fun err =>
      .done (.ended err)
  | load kind id => loadTemporaryJSON kind.bucket id >>= fun answer => .done (.found answer)
  | discard kind id => deleteTemporaryJSON kind.bucket id >>= fun err => .done (.ended err)
  | take kind id => takeEphemeralJSON kind.bucket id >>= fun answer => .done (.found answer)

structure Thread (User : Type) where
  call : Call User
  program : Commands Result

structure Server (User : Type) where
  valkey : Valkey
  threads : Nat → Option (Thread User)

def Server.start : Server User := ⟨fun _ => none, fun _ => none⟩

/-- What happens: a call begins, its next command is executed, a key lapses or is lost, or
another service changes a key of its own. -/
inductive Event (User : Type) where
  | begin (index : Nat) (call : Call User)
  | advance (index : Nat) (outcome : Outcome GoError)
  | lapse (key : GoString)
  | foreign (key : GoString) (value : Option Stored)

def Server.begin (server : Server User) (index : Nat) (call : Call User) : Server User :=
  { server with threads := Function.update server.threads index (some ⟨call, call.program uuids⟩) }

def Server.execute (server : Server User) (index : Nat) (thread : Thread User) (outcome : Outcome GoError)
    (command : Command) (next : command.Answer → Commands Result) : Server User :=
  let (reply, valkey) := command.answer outcome server.valkey
  ⟨valkey, Function.update server.threads index (some { thread with program := next reply })⟩

def Server.step (server : Server User) : Event User → Option (Server User)
  | .begin index call =>
    if (server.threads index).isNone then some (server.begin uuids index call) else none
  | .advance index outcome =>
    match server.threads index with
    | none => none
    | some thread =>
      match thread.program with
      | .done _ => none
      | .ask command next => some (server.execute index thread outcome command next)
  | .lapse key => some { server with valkey := server.valkey.write key none }
  | .foreign key value =>
    if sessionPrefix <+: key then none else some { server with valkey := server.valkey.write key value }

def keyspaceServer : Machine (Server User) (Event User) := ⟨Server.step uuids⟩

def Call.Issues (call : Call User) (token : GoString) (user : User) : Prop :=
  ∃ random payload now, call = .login (.ok random) payload now ∧ token = hexEncode random ∧
    payload.user uuids = .ok user

/-- A call of `CreateWithPayload` for the user drew the token. -/
def Server.Issued (server : Server User) (token : GoString) (user : User) : Prop :=
  ∃ index thread, server.threads index = some thread ∧ thread.call.Issues uuids token user

abbrev Ledger (User : Type) : Type := GoString → User → Prop

def Grows (ledger later : Ledger User) : Prop := ∀ token user, ledger token user → later token user

/-- Where the value of a key comes from: a session has a token drawn for its user, and so has
the session that a step-up of the user is for. -/
inductive Sound (ledger : Ledger User) : GoString → Stored → Prop where
  | session {token : GoString} {payload : Payload}
      (origin : ∀ user, payload.user uuids = .ok user → ledger token user) :
      Sound ledger (key token) (.json payload.marshal)
  | record {bucket id : GoString} {record : Record}
      (origin : ∀ state user, record = .webAuthn state → state.sessionToken ≠ [] →
        state.userID = uuids.text user → ledger state.sessionToken user) :
      Sound ledger (ephemeralKey bucket id) (.json record.marshal)
  | index {userID : GoString} {members : List GoString} : Sound ledger (userKey userID) (.tokens members)
  | foreign {key : GoString} {value : Stored} (other : ¬ sessionPrefix <+: key) : Sound ledger key value

def Valkey.Sound (valkey : Valkey) (ledger : Ledger User) : Prop :=
  ∀ key value, valkey key = some value → Keyspace.Sound uuids ledger key value

def Allowed (ledger : Ledger User) : Command → Prop
  | .set key fields => Sound uuids ledger key (.json fields)
  | .sadd key _ | .srem key _ => ∃ userID, key = userKey userID
  | _ => True

def Credible (ledger : Ledger User) : (command : Command) → command.Answer → Prop
  | .get key, reply => ∀ fields, reply = .ok (some fields) → Sound uuids ledger key (.json fields)
  | _, _ => True

/-- Every command that a program may come to issue is allowed, whatever is drawn meanwhile,
and it returns as wanted. -/
def Safe {Value : Type} (wanted : Ledger User → Value → Prop) :
    Commands Value → Ledger User → Prop
  | .done value, ledger => wanted ledger value
  | .ask command next, ledger =>
    Allowed uuids ledger command ∧ ∀ later, Grows ledger later → ∀ reply,
      Credible uuids later command reply → Safe wanted (next reply) later

end Calls

section Soundness

variable {User : Type} {uuids : UUIDs User} {ledger later : Ledger User}

theorem Grows.trans {last : Ledger User} (first : Grows ledger later) (second : Grows later last) :
    Grows ledger last := fun token user drawn => second token user (first token user drawn)

theorem Sound.grows {key : GoString} {value : Stored} (sound : Sound uuids ledger key value)
    (grows : Grows ledger later) : Sound uuids later key value := by
  cases sound with
  | session origin => exact .session fun user same => grows _ _ (origin user same)
  | record origin =>
    exact .record fun state user same stored named => grows _ _ (origin state user same stored named)
  | index => exact .index
  | foreign other => exact .foreign other

theorem Allowed.grows {command : Command} (allowed : Allowed uuids ledger command)
    (grows : Grows ledger later) : Allowed uuids later command := by
  cases command with
  | set key fields => exact Sound.grows allowed grows
  | sadd key token => exact allowed
  | srem key token => exact allowed
  | _ => trivial

theorem Safe.grows {Value : Type} {program : Commands Value}
    (safe : Safe uuids (fun _ _ => True) program ledger) (grows : Grows ledger later) :
    Safe uuids (fun _ _ => True) program later := by
  cases program with
  | done value => trivial
  | ask command next =>
    exact ⟨safe.1.grows grows, fun last further => safe.2 last (grows.trans further)⟩

theorem Safe.bind {Value Result : Type} {wanted : Ledger User → Value → Prop}
    {desired : Ledger User → Result → Prop} {first : Commands Value}
    {next : Value → Commands Result} (safe : Safe uuids wanted first ledger)
    (onward : ∀ value later, wanted later value → Safe uuids desired (next value) later) :
    Safe uuids desired (first >>= next) ledger := by
  induction first generalizing ledger with
  | done value => exact onward value ledger safe
  | ask command following ih =>
    exact ⟨safe.1, fun later grows reply credible =>
      ih reply (safe.2 later grows reply credible)⟩

theorem Safe.weaken {Value : Type} {wanted weaker : Ledger User → Value → Prop}
    {program : Commands Value} (safe : Safe uuids wanted program ledger)
    (implies : ∀ ledger value, wanted ledger value → weaker ledger value) :
    Safe uuids weaker program ledger := by
  induction program generalizing ledger with
  | done value => exact implies ledger value safe
  | ask command following ih =>
    exact ⟨safe.1, fun later grows reply credible =>
      ih reply (safe.2 later grows reply credible)⟩

/-! ### Commands -/

theorem Valkey.Sound.grows {valkey : Valkey} (sound : valkey.Sound uuids ledger)
    (grows : Grows ledger later) : valkey.Sound uuids later :=
  fun key value stored => (sound key value stored).grows grows

theorem Valkey.Sound.write {valkey : Valkey} (sound : valkey.Sound uuids ledger) {key : GoString}
    {value : Option Stored} (origin : ∀ stored, value = some stored →
      Keyspace.Sound uuids ledger key stored) :
    (valkey.write key value).Sound uuids ledger := by
  intro other stored found
  unfold Valkey.write at found
  by_cases same : other = key
  · subst same
    rw [Function.update_self] at found
    exact origin stored found
  · rw [Function.update_of_ne same] at found
    exact sound other stored found

theorem Valkey.Sound.change {valkey : Valkey} (sound : valkey.Sound uuids ledger)
    (outcome : Outcome GoError) (userID : GoString) (edit : List GoString → List GoString) :
    (Command.change outcome (userKey userID) edit valkey).2.Sound uuids ledger := by
  unfold Command.change
  split
  · exact sound
  next members _ =>
    refine outcome.exec_holds (Valkey.Sound uuids · ledger) sound (sound.write fun stored written => ?_)
    split at written
    · cases written
    · cases written
      exact .index

theorem answer_sound {valkey : Valkey} (sound : valkey.Sound uuids ledger) (outcome : Outcome GoError)
    {command : Command} (allowed : Allowed uuids ledger command) :
    (command.answer outcome valkey).2.Sound uuids ledger := by
  have emptied : ∀ key, (valkey.write key none).Sound uuids ledger := fun key =>
    sound.write fun stored none => nomatch none
  cases command with
  | get key => exact sound
  | getDel key =>
    simp only [Command.answer]
    split
    · exact sound
    · dsimp only
      split
      · exact emptied key
      · exact sound
  | set key fields =>
    refine outcome.exec_holds (Valkey.Sound uuids · ledger) sound (sound.write fun stored written => ?_)
    cases written
    exact allowed
  | del key => exact outcome.exec_holds (Valkey.Sound uuids · ledger) sound (emptied key)
  | sadd key token =>
    obtain ⟨userID, rfl⟩ := allowed
    exact sound.change outcome userID _
  | srem key token =>
    obtain ⟨userID, rfl⟩ := allowed
    exact sound.change outcome userID _
  | smembers key => exact sound
  | expire key => exact sound

theorem read_text {outcome : Outcome GoError} {valkey : Valkey} {key : GoString} {fields : Fields}
    (read : (outcome.read (valkey.text key) >>= id) = .ok (some fields)) :
    valkey key = some (.json fields) := by
  obtain done | ⟨err, failed⟩ := outcome.read_cases (valkey.text key)
  · rw [done] at read
    change valkey.text key = .ok (some fields) at read
    unfold Valkey.text at read
    split at read
    · cases read
    next stored found =>
      cases read
      exact found
    · cases read
  · rw [failed] at read
    cases read

theorem answer_credible {valkey : Valkey} (sound : valkey.Sound uuids ledger)
    (outcome : Outcome GoError) (command : Command) :
    Credible uuids ledger command (command.answer outcome valkey).1 := by
  cases command with
  | get key => exact fun fields read => sound key _ (read_text read)
  | _ => trivial

/-! ### Sessions and step-ups -/

theorem Sound.accepted (lawful : uuids.Lawful) {token : GoString} {fields : Fields}
    (sound : Sound uuids ledger (key token) (.json fields)) {pay : Payload}
    (read : Payload.unmarshal fields = .ok pay) {user : User} (named : pay.user uuids = .ok user) :
    fields = pay.marshal ∧ ledger token user := by
  generalize stored : key token = place at sound
  cases sound with
  | @session original payload origin =>
    obtain rfl : token = original := List.append_cancel_left stored
    rw [payload.unmarshal_marshal] at read
    cases read
    exact ⟨rfl, origin user named⟩
  | @record bucket id record origin =>
    unfold Payload.user at named
    rw [record.unmarshal_marshal read] at named
    exact absurd named (lawful.parse_empty user)
  | foreign other => exact absurd ⟨token, stored⟩ other

theorem Payload.marshal_at_userID (payload : Payload) : payload.marshal.at "user_id" = [] := by
  unfold Payload.marshal
  by_cases first : payload.amr = [] <;> by_cases second : payload.authenticated = 0 <;>
    by_cases third : payload.mfaVerifiedAt = 0 <;> simp only [first, second, third] <;> rfl

theorem Record.readStepUp_marshal {record : Record} {userID sessionToken : GoString}
    (read : readStepUp record.marshal = .ok (userID, sessionToken)) (present : sessionToken ≠ []) :
    ∃ state, record = .webAuthn state ∧ state.userID = userID ∧ state.sessionToken = sessionToken := by
  have absent : record.marshal.at "session_token" = [] → False := by
    intro none
    rw [readStepUp, none] at read
    cases first : decodeText (record.marshal.at "user_id") with
    | error err =>
      rw [first] at read
      cases read
    | ok text =>
      rw [first] at read
      cases read
      exact present rfl
  cases record with
  | webAuthn state =>
    obtain ⟨user, token⟩ := Record.stepUp_at state
    rw [readStepUp, user, token] at read
    cases read
    exact ⟨state, rfl, rfl, rfl⟩
  | pendingLogin state =>
    refine absurd ?_ absent
    simp only [marshal]
    generalize decide (state.name = []) = unnamed
    cases unnamed <;> rfl
  | totpSetup state => exact absurd rfl absent
  | srpChallenge challenge => exact absurd rfl absent
  | authCode code =>
    refine absurd ?_ absent
    simp only [marshal]
    generalize decide (code.name = []) = unnamed
    cases unnamed <;> rfl

theorem Sound.steppedUp (lawful : uuids.Lawful) {token : GoString} {fields : Fields}
    (sound : Sound uuids ledger (key token) (.json fields)) {user : User} {sessionToken : GoString}
    (read : readStepUp fields = .ok (uuids.text user, sessionToken)) (present : sessionToken ≠ []) :
    ledger sessionToken user := by
  generalize stored : key token = place at sound
  cases sound with
  | @session original payload origin =>
    rw [readStepUp, payload.marshal_at_userID] at read
    cases second : decodeText (payload.marshal.at "session_token") with
    | error err =>
      rw [second] at read
      cases read
    | ok text =>
      rw [second] at read
      have empty : uuids.text user = [] := (congrArg Prod.fst (Except.ok.inj read)).symm
      exact absurd (empty ▸ lawful.parse_text user) (lawful.parse_empty user)
  | @record bucket id record origin =>
    obtain ⟨state, rfl, named, rfl⟩ := Record.readStepUp_marshal read present
    exact origin state user rfl present named
  | foreign other => exact absurd ⟨token, stored⟩ other

/-! ### Requests -/

section Requests

theorem safe_done {Value : Type} (value : Value) :
    Safe uuids (fun _ _ => True) (.done value : Commands Value) ledger := trivial

theorem safe_last {Value : Type} {command : Command} {next : command.Answer → Value}
    (allowed : Allowed uuids ledger command) :
    Safe uuids (fun _ _ => True) (.ask command fun reply => .done (next reply)) ledger :=
  ⟨allowed, fun _ _ _ _ => trivial⟩

theorem indexNew_safe (userID token : GoString) :
    Safe uuids (fun _ _ => True) (indexNew userID token) ledger := by
  refine ⟨⟨userID, rfl⟩, fun later _ reply _ => ?_⟩
  cases reply with
  | some err => exact safe_last trivial
  | none => exact safe_last trivial

theorem Payload.stamped_user (payload : Payload) (now : Int) :
    (payload.stamped now).user uuids = payload.user uuids := by
  unfold Payload.stamped
  split <;> rfl

theorem createWithPayload_safe {draw : Except GoError GoString} {payload : Payload} (now : Int)
    (origin : ∀ random user, draw = .ok random → payload.user uuids = .ok user →
      ledger (hexEncode random) user) :
    Safe uuids (fun _ _ => True) (createWithPayload draw payload now) ledger := by
  unfold createWithPayload
  split
  · trivial
  cases draw with
  | error err => trivial
  | ok random =>
    refine ⟨.session fun user named => ?_, fun later grows reply _ => ?_⟩
    · rw [payload.stamped_user] at named
      exact origin random user rfl named
    · cases reply with
      | some err => trivial
      | none => exact indexNew_safe payload.userID (hexEncode random)

theorem put_safe {token : GoString} {payload : Payload} (now : Int)
    (origin : ∀ user, token ≠ [] → payload.user uuids = .ok user → ledger token user) :
    Safe uuids (fun _ _ => True) (put token payload now) ledger := by
  unfold put
  split
  · trivial
  next present =>
    split
    · trivial
    have nonempty : token ≠ [] := by
      rintro rfl
      exact present rfl
    refine ⟨.session fun user named => ?_, fun later _ reply _ => ?_⟩
    · rw [payload.stamped_user] at named
      exact origin user nonempty named
    · cases reply with
      | some err => trivial
      | none =>
        refine ⟨⟨payload.userID, rfl⟩, fun last _ added _ => ?_⟩
        exact safe_last trivial

theorem remove_safe (token : GoString) : Safe uuids (fun _ _ => True) (remove token) ledger :=
  safe_last trivial

theorem delete_safe (token : GoString) : Safe uuids (fun _ _ => True) (delete token) ledger := by
  unfold delete
  split
  · trivial
  refine ⟨trivial, fun later _ reply _ => ?_⟩
  match reply with
  | .error err => trivial
  | .ok none => exact remove_safe token
  | .ok (some raw) =>
    dsimp only
    split
    · exact remove_safe token
    split
    · exact remove_safe token
    · exact ⟨⟨_, rfl⟩, fun last _ removed _ => remove_safe token⟩

theorem sweep_safe (index : GoString) (tokens : List GoString) (err : Option GoError) :
    Safe uuids (fun _ _ => True) (sweep index tokens err) ledger := by
  induction tokens generalizing err ledger with
  | nil => exact safe_last trivial
  | cons token rest ih =>
    exact ⟨trivial, fun later _ reply _ => ih _⟩

theorem deleteUserSessions_safe (userID : GoString) :
    Safe uuids (fun _ _ => True) (deleteUserSessions userID) ledger := by
  refine ⟨trivial, fun later _ reply _ => ?_⟩
  match reply with
  | .error err => trivial
  | .ok tokens =>
    dsimp only
    split
    · trivial
    · exact sweep_safe _ tokens none

theorem saveTemporaryJSON_safe {kind : GoString} (draw : Except GoError GoString) {value : Fields}
    (origin : ∀ id, Sound uuids ledger (ephemeralKey kind id) (.json value)) :
    Safe uuids (fun _ _ => True) (saveTemporaryJSON kind draw value) ledger := by
  unfold saveTemporaryJSON
  split
  · trivial
  cases draw with
  | error err => trivial
  | ok random =>
    refine ⟨origin (hexEncode random), fun later _ reply _ => ?_⟩
    cases reply <;> trivial

theorem putEphemeralJSON_safe {bucket id : GoString} {value : Fields}
    (origin : Sound uuids ledger (ephemeralKey bucket id) (.json value)) :
    Safe uuids (fun _ _ => True) (putEphemeralJSON bucket id value) ledger := by
  unfold putEphemeralJSON
  split
  · trivial
  · exact safe_last origin

theorem takeEphemeralJSON_safe (bucket id : GoString) :
    Safe uuids (fun _ _ => True) (takeEphemeralJSON bucket id) ledger := by
  unfold takeEphemeralJSON
  split
  · trivial
  · exact safe_last trivial

theorem loadTemporaryJSON_safe (kind id : GoString) :
    Safe uuids (fun later answer => ∀ fields, answer = .ok (some fields) →
        Sound uuids later (ephemeralKey kind id) (.json fields))
      (loadTemporaryJSON kind id) ledger := by
  unfold loadTemporaryJSON
  split
  · exact fun fields found => nomatch found
  · exact ⟨trivial, fun later _ reply credible => credible⟩

theorem deleteTemporaryJSON_safe (kind id : GoString) (Holds : Ledger User → Prop)
    (grows : ∀ ledger later, Grows ledger later → Holds ledger → Holds later) (holds : Holds ledger) :
    Safe uuids (fun later _ => Holds later) (deleteTemporaryJSON kind id) ledger := by
  unfold deleteTemporaryJSON
  split
  · exact holds
  · exact ⟨trivial, fun later onward reply _ => grows _ _ onward holds⟩

theorem sessionFromRequest_safe (lawful : uuids.Lawful) (userByID : User → Option GoError)
    (cookie : GoString) :
    Safe uuids (fun later answer => ∀ context, answer = some context →
        context.pay.user uuids = .ok context.user ∧ later context.token context.user)
      (sessionFromRequest uuids userByID cookie) ledger := by
  unfold sessionFromRequest get
  split
  · exact fun context found => nomatch found
  refine ⟨trivial, fun later _ reply credible => ?_⟩
  match reply, credible with
  | .error err, _ => exact fun context found => nomatch found
  | .ok none, _ => exact fun context found => nomatch found
  | .ok (some raw), credible =>
    have stored : Sound uuids later (key cookie) (.json raw) := credible raw rfl
    dsimp only [Program.andThen]
    cases read : Payload.unmarshal raw with
    | error err => exact fun context found => nomatch found
    | ok pay =>
      dsimp only
      cases named : pay.user uuids with
      | error err => exact fun context found => nomatch found
      | ok user =>
        dsimp only
        split
        · exact fun context found => nomatch found
        · intro context found
          cases found
          exact ⟨named, (stored.accepted lawful read named).2⟩

theorem mark_safe {token : GoString} {pay : Payload} (now : Int)
    (origin : ∀ user, token ≠ [] → pay.user uuids = .ok user → ledger token user) :
    Safe uuids (fun _ _ => True) (markSessionMFAVerified token pay now) ledger :=
  put_safe now origin

theorem verifyCode_safe (lawful : uuids.Lawful) (userByID : User → Option GoError) (cookie : GoString)
    (checked : Option GoError) (now : Int) :
    Safe uuids (fun _ _ => True) (verifyCode uuids userByID cookie checked now) ledger := by
  refine (sessionFromRequest_safe lawful userByID cookie).bind fun answer later known => ?_
  cases answer with
  | none => trivial
  | some context =>
    cases checked with
    | some err => trivial
    | none =>
      obtain ⟨named, drawn⟩ := known context rfl
      refine mark_safe now fun user _ same => ?_
      rw [named] at same
      cases same
      exact drawn

theorem stepUpBegin_safe (lawful : uuids.Lawful) (userByID : User → Option GoError) (cookie : GoString)
    (begun : Except GoError Json) (draw : Except GoError GoString) (now : GoString) :
    Safe uuids (fun _ _ => True) (stepUpBegin uuids userByID cookie begun draw now) ledger := by
  refine (sessionFromRequest_safe lawful userByID cookie).bind fun answer later known => ?_
  cases answer with
  | none => trivial
  | some context =>
    cases begun with
    | error err => trivial
    | ok sessionData =>
      obtain ⟨-, drawn⟩ := known context rfl
      refine saveTemporaryJSON_safe draw fun id => .record fun state user same _ texts => ?_
      cases same
      -- The user is known by its text.
      have first := lawful.parse_text context.user
      rw [show uuids.text context.user = uuids.text user from texts, lawful.parse_text user] at first
      cases first
      exact drawn

theorem stepUpFinish_safe (lawful : uuids.Lawful) (userByID : User → Option GoError)
    (cookie challengeID : GoString) (readable : Fields → Option GoError) (checked : Option GoError)
    (now : Int) :
    Safe uuids (fun _ _ => True)
      (stepUpFinish uuids userByID cookie challengeID readable checked now) ledger := by
  refine (sessionFromRequest_safe lawful userByID cookie).bind fun answer later known => ?_
  cases answer with
  | none => trivial
  | some context =>
    have named := (known context rfl).1
    -- Which bucket it is does not matter: the text that is found is a step-up by its fields.
    generalize Kind.webAuthnStepUp.bucket = kind
    refine (loadTemporaryJSON_safe kind (trimSpace challengeID)).bind fun loaded later found => ?_
    match loaded, found with
    | .error err, _ => exact safe_done _
    | .ok none, _ => exact safe_done _
    | .ok (some raw), found =>
      dsimp only
      split
      · trivial
      · trivial
      next userID sessionToken read _ =>
        split
        · trivial
        next same =>
          cases checked with
          | some err => trivial
          | none =>
            obtain rfl : userID = uuids.text context.user := not_not.mp same
            have drawn : sessionToken ≠ [] → later sessionToken context.user :=
              (found raw rfl).steppedUp lawful read
            refine (deleteTemporaryJSON_safe _ _
              (fun ledger => sessionToken ≠ [] → ledger sessionToken context.user)
              (fun _ _ onward holds present => onward _ _ (holds present)) drawn).bind
              fun _ last kept => mark_safe now fun user present other => ?_
            rw [named] at other
            cases other
            exact kept present

theorem Call.program_safe (lawful : uuids.Lawful) (call : Call User)
    (issues : ∀ token user, call.Issues uuids token user → ledger token user) :
    Safe uuids (fun _ _ => True) (call.program uuids) ledger := by
  have ended : ∀ {Value : Type} {program : Commands Value} (result : Value → Result),
      Safe uuids (fun _ _ => True) program ledger →
        Safe uuids (fun _ _ => True) (program >>= fun value => .done (result value)) ledger :=
    fun result safe => safe.bind fun _ _ _ => trivial
  have plain : ∀ {kind : GoString} {draw : Except GoError GoString} {record : Record},
      (∀ state, record = .webAuthn state → state.sessionToken = []) →
        Safe uuids (fun _ _ => True) (saveTemporaryJSON kind draw record.marshal) ledger :=
    fun none => saveTemporaryJSON_safe _ fun id => .record fun state user same present _ =>
      absurd (none state same) present
  cases call with
  | login draw payload now =>
    refine ended _ (createWithPayload_safe now fun random user drawn named => issues _ _ ?_)
    cases drawn
    exact ⟨random, payload, now, rfl, rfl, named⟩
  | logout cookie =>
    refine ended _ ?_
    unfold clearBrowserSession
    split
    · trivial
    · exact delete_safe cookie
  | revoke user => exact ended _ (deleteUserSessions_safe _)
  | verifyCode userByID cookie checked now =>
    exact ended _ (verifyCode_safe lawful userByID cookie checked now)
  | stepUpBegin userByID cookie begun draw now =>
    exact ended _ (stepUpBegin_safe lawful userByID cookie begun draw now)
  | stepUpFinish userByID cookie challengeID readable checked now =>
    exact ended _ (stepUpFinish_safe lawful userByID cookie challengeID readable checked now)
  | pendingLogin draw state => exact ended _ (plain fun _ same => nomatch same)
  | totpSetup draw state => exact ended _ (plain fun _ same => nomatch same)
  | webAuthnRegister draw userID sessionData createdAt =>
    refine ended _ (plain fun state same => ?_)
    cases same
    rfl
  | webAuthnLogin draw userID loginStateID sessionData createdAt =>
    refine ended _ (plain fun state same => ?_)
    cases same
    rfl
  | srpChallenge id challenge =>
    exact ended _ (putEphemeralJSON_safe (.record fun _ _ same => nomatch same))
  | oauthCode code stored =>
    exact ended _ (putEphemeralJSON_safe (.record fun _ _ same => nomatch same))
  | load kind id => exact ended _ ((loadTemporaryJSON_safe _ _).weaken fun _ _ _ => trivial)
  | discard kind id =>
    exact ended _ (deleteTemporaryJSON_safe _ _ (fun _ => True) (fun _ _ _ _ => trivial) trivial)
  | take kind id => exact ended _ (takeEphemeralJSON_safe _ _)

end Requests

/-- Every key has a value of one of the origins, and every call issues allowed commands. -/
structure Separate (uuids : UUIDs User) (server : Server User) : Prop where
  valkey : server.valkey.Sound uuids (server.Issued uuids)
  threads : ∀ index thread, server.threads index = some thread →
    Safe uuids (fun _ _ => True) thread.program (server.Issued uuids)

theorem start_separate : Separate uuids (Server.start : Server User) where
  valkey := fun _ _ stored => nomatch stored
  threads := fun _ _ found => nomatch found

variable {server : Server User} {index : Nat}

theorem issued_replace {thread replaced : Thread User} (found : server.threads index = some thread)
    (same : replaced.call = thread.call) (valkey : Valkey) :
    Grows (server.Issued uuids)
      (Server.Issued uuids ⟨valkey, Function.update server.threads index (some replaced)⟩) := by
  rintro token user ⟨other, issuer, running, issues⟩
  by_cases here : other = index
  · subst here
    rw [found] at running
    cases running
    exact ⟨other, replaced, Function.update_self .., same ▸ issues⟩
  · exact ⟨other, issuer, (Function.update_of_ne here _ _).trans running, issues⟩

theorem Separate.begin (separate : Separate uuids server) (lawful : uuids.Lawful)
    (idle : server.threads index = none) (call : Call User) :
    Separate uuids (server.begin uuids index call) := by
  have grows : Grows (server.Issued uuids) ((server.begin uuids index call).Issued uuids) := by
    rintro token user ⟨other, issuer, running, issues⟩
    have elsewhere : other ≠ index := by
      rintro rfl
      rw [idle] at running
      cases running
    exact ⟨other, issuer, (Function.update_of_ne elsewhere _ _).trans running, issues⟩
  refine ⟨separate.valkey.grows grows, fun other thread found => ?_⟩
  by_cases here : other = index
  · subst here
    have self : some thread = some ⟨call, call.program uuids⟩ := found.symm.trans (Function.update_self ..)
    cases self
    exact call.program_safe lawful fun token user issues =>
      ⟨other, _, Function.update_self .., issues⟩
  · exact (separate.threads other thread ((Function.update_of_ne here _ _).symm.trans found)).grows grows

theorem Separate.execute (separate : Separate uuids server) {thread : Thread User}
    (found : server.threads index = some thread) (outcome : Outcome GoError) {command : Command}
    {next : command.Answer → Commands Result} (asking : thread.program = .ask command next) :
    Separate uuids (server.execute index thread outcome command next) := by
  have grows := @issued_replace User uuids server index thread
    { thread with program := next (command.answer outcome server.valkey).1 } found rfl
    (command.answer outcome server.valkey).2
  obtain ⟨allowed, onward⟩ : Safe uuids (fun _ _ => True) (.ask command next) (server.Issued uuids) :=
    asking ▸ separate.threads index thread found
  refine ⟨(answer_sound separate.valkey outcome allowed).grows grows, fun other running there => ?_⟩
  by_cases here : other = index
  · subst here
    cases (Function.update_self ..).symm.trans there
    exact onward _ grows _ (answer_credible (separate.valkey.grows grows) outcome command)
  · exact (separate.threads other running ((Function.update_of_ne here _ _).symm.trans there)).grows grows

theorem Separate.write (separate : Separate uuids server) {key : GoString} {value : Option Stored}
    (origin : ∀ stored, value = some stored → Sound uuids (server.Issued uuids) key stored) :
    Separate uuids { server with valkey := server.valkey.write key value } :=
  ⟨separate.valkey.write origin, separate.threads⟩

theorem Separate.step (separate : Separate uuids server) (lawful : uuids.Lawful) {event : Event User}
    {next : Server User} (taken : (keyspaceServer uuids).step server event = some next) :
    Separate uuids next := by
  simp only [keyspaceServer, Server.step] at taken
  cases event with
  | begin index call =>
    dsimp only at taken
    split at taken
    next idle =>
      cases taken
      exact separate.begin lawful (Option.isNone_iff_eq_none.mp idle) call
    · cases taken
  | advance index outcome =>
    dsimp only at taken
    split at taken
    · cases taken
    next thread found =>
      split at taken
      · cases taken
      next command following asking =>
        cases taken
        exact separate.execute found outcome asking
  | lapse key =>
    cases taken
    exact separate.write fun stored none => nomatch none
  | foreign key value =>
    dsimp only at taken
    split at taken
    · cases taken
    next other =>
      cases taken
      exact separate.write fun stored _ => .foreign other

theorem runs_separate (lawful : uuids.Lawful)
    (runs : (keyspaceServer uuids).Runs (fun _ _ => True) .start server) : Separate uuids server :=
  runs.invariant (Separate uuids) start_separate fun separate _ taken => separate.step lawful taken

theorem hexEncode_ne_handle (random bucket id : GoString) :
    hexEncode random ≠ ephemeralHandle bucket id := by
  intro same
  have colon : (58 : UInt8) ∈ hexEncode random := by
    rw [same, ephemeralHandle]
    exact List.mem_append_left _ (List.mem_append_left _ (List.mem_append_left _ (by decide)))
  exact absurd (hexEncode_bytes random 58 colon) (by decide)

/-- Whatever requests ran before, a cookie is accepted for a user only if a call of
`CreateWithPayload` drew it for that user and a session of that user is stored under it; no
handle of a record is accepted. -/
theorem accepted_drawn (lawful : uuids.Lawful)
    (runs : (keyspaceServer uuids).Runs (fun _ _ => True) .start server)
    (userByID : User → Option GoError) (cookie : GoString) (env : Nat → Outcome GoError)
    (context : Context User)
    (accepted : ((sessionFromRequest uuids userByID cookie).run Command.answer env server.valkey).1 =
      some context) :
    context.token = cookie ∧ server.Issued uuids cookie context.user ∧
      server.valkey (key cookie) = some (.json context.pay.marshal) ∧
      context.pay.user uuids = .ok context.user ∧
      ∀ bucket id, cookie ≠ ephemeralHandle bucket id := by
  have separate := runs_separate lawful runs
  unfold sessionFromRequest get at accepted
  split at accepted
  · cases accepted
  rw [Program.ask_bind, Program.run_ask] at accepted
  generalize reading : (Command.answer (env 0) (.get (key cookie)) server.valkey).1 = reply at accepted
  match reply, reading with
  | .error err, _ => cases accepted
  | .ok none, _ => cases accepted
  | .ok (some raw), reading =>
    have stored : server.valkey (key cookie) = some (.json raw) := read_text reading
    dsimp only at accepted
    cases read : Payload.unmarshal raw with
    | error err =>
      rw [read] at accepted
      cases accepted
    | ok pay =>
      rw [read, Program.pure_bind] at accepted
      dsimp only at accepted
      split at accepted
      · cases accepted
      next user named =>
        split at accepted
        · cases accepted
        cases accepted
        obtain ⟨rfl, drawn⟩ := (separate.valkey _ _ stored).accepted lawful read named
        refine ⟨rfl, drawn, stored, named, fun bucket id => ?_⟩
        obtain ⟨_, _, _, random, _, _, _, rfl, _⟩ := drawn
        exact hexEncode_ne_handle random bucket id

end Soundness

def elfID : GoString := ascii "0e1f0000-0000-4000-8000-000000000001"

def elfUUIDs : UUIDs Unit where
  text := fun _ => elfID
  parse := fun text => if text = elfID then .ok () else .error (.plain (ascii "invalid UUID length: 0"))

theorem elfUUIDs_lawful : elfUUIDs.Lawful where
  parse_text := fun user => by simp only [elfUUIDs, if_true]
  parse_empty := by
    intro user
    have other : ([] : GoString) ≠ elfID := by decide
    simp only [elfUUIDs, if_neg other]
    exact fun same => nomatch same

def elfPayload : Payload := ⟨elfID, ascii "elf@example.org", [ascii "pwd"], 3, 0⟩

def elfRandom : GoString := List.replicate 32 0xE1

def elfLogin (outcomes : List (Outcome GoError)) : List (Event Unit) :=
  .begin 0 (.login (.ok elfRandom) elfPayload 3) :: outcomes.map (.advance 0)

def elfServer (outcomes : List (Outcome GoError)) : Server Unit :=
  (keyspaceServer elfUUIDs).after (elfLogin outcomes) .start

theorem elfServer_runs (outcomes : List (Outcome GoError)) :
    (keyspaceServer elfUUIDs).Runs (fun _ _ => True) .start (elfServer outcomes) :=
  Machine.after_runs _ (Machine.permits_of_forall (fun _ _ => trivial) _ _)

theorem accepted_drawn_elf : (elfServer [.done, .done, .done]).Issued elfUUIDs (hexEncode elfRandom) () :=
  (accepted_drawn elfUUIDs_lawful (elfServer_runs [.done, .done, .done]) (fun _ => none)
    (hexEncode elfRandom) (fun _ => .done) ⟨(), elfPayload, hexEncode elfRandom⟩ rfl).2.1

/-- The connection fails after the session was stored. -/
def unreachable : GoError := .plain (ascii "valkey: connection refused")

/-- A session that can be neither indexed nor deleted again is accepted, though
`CreateWithPayload` did not return its token. -/
theorem accepted_unreturned :
    ¬ ∀ server, (keyspaceServer elfUUIDs).Runs (fun _ _ => True) .start server →
      ∀ (userByID : Unit → Option GoError) cookie env (context : Context Unit),
        ((sessionFromRequest elfUUIDs userByID cookie).run Command.answer env server.valkey).1 =
            some context →
          ∃ index thread, server.threads index = some thread ∧
            thread.program = .done (.issued (.ok cookie)) := by
  intro claim
  obtain ⟨index, thread, found, returned⟩ :=
    claim _ (elfServer_runs [.done, .refused unreachable, .refused unreachable]) (fun _ => none)
      (hexEncode elfRandom) (fun _ => .done) ⟨(), elfPayload, hexEncode elfRandom⟩ rfl
  cases index with
  | zero =>
    obtain rfl : thread = ⟨.login (.ok elfRandom) elfPayload 3, .done (.issued (.error unreachable))⟩ :=
      Option.some.inj (found.symm.trans rfl)
    cases returned
  | succ index => cases found

end ElvishMail.Session.Keyspace
