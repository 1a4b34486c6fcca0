import ElvishMail.Httpserver.Oidc

/-!
# Authorization codes

Whatever requests run between each other's commands, a code is in Valkey or with the one
token request that took it away, and what that request gets a token for is what the
authorize request that stored it had made sure of (`codes_bound`).
-/

namespace ElvishMail.Httpserver.OIDC

open Go Smtp Semantics

def RecentMFA (pay : Session.Payload) (now : Int) : Prop :=
  pay.mfaVerifiedAt ≠ 0 ∧ now - pay.mfaVerifiedAt * 1000000000 ≤ mfaRecentVerificationTTL

/-- An authorize request has read its session, and has found that its user has no second
factors enabled, or has proved one a short while ago. -/
def Proved (userID : Nat) (memory : Memory) : Prop :=
  ∃ pay, memory.session = some pay ∧ pay.userID = userID ∧
    (memory.enabled = some (userID, false) ∨
      memory.enabled = some (userID, true) ∧ RecentMFA pay memory.read)

section Rules

variable (site : OIDCSite) (owner : GoString → Nat)

structure Grants (request : Authorize) (memory : Memory) (stored : StoredAuthCode) : Prop where
  client : stored.clientID = trimSpace request.query.clientID
  redirect : stored.redirectURI = trimSpace request.query.redirectURI
  nonce : stored.nonce = trimSpace request.query.nonce
  user : stored.userID = owner request.cookie
  proved : Proved stored.userID memory

structure Redeems (request : TokenRequest) (stored : StoredAuthCode) (claims : IDToken) : Prop where
  client : stored.clientID = request.credentials.1
  redirect : stored.redirectURI = trimSpace request.redirectURI
  subject : claims.subject = stored.userID
  nonce : claims.nonce = stored.nonce

/-- A browser is sent to a configured URI, with the code and the state of its request. -/
def Configured (request : Authorize) (location : URL) : Prop :=
  ∃ uri ∈ site.issuer.redirectURIs, ∃ url code, site.parse (trimSpace uri) = .ok url ∧
    request.code = some code ∧
    location = (url.setQuery (ascii "code") code).setQuery (ascii "state")
      (trimSpace request.query.state)

def Asks : Request → Memory → (command : Command) → (command.Answer → Commands) → Prop
  | .authorize request, memory, .set code stored, next =>
    request.code = some code ∧ Grants owner request memory stored ∧
      ∀ reply, ∃ value, next reply = .done value
  | .authorize _, _, .getDel _, _ => False
  | .token _, _, .set _ _, _ => False
  | .token request, memory, .getDel code, _ => code = trimSpace request.code ∧ memory.met = none
  | _, _, _, _ => True

def Ends : Request → Memory → OIDCReply → Prop
  | .authorize request, _, .redirect location => Configured site request location
  | .authorize _, _, .token _ => False
  | .token _, _, .redirect _ => False
  | .token request, memory, .token claims =>
    ∃ kept at', memory.met = some (kept, at') ∧ Redeems request kept.stored claims
  | _, _, _ => True

def Holds (store : OIDCStore) : Prop := Owned owner store.sessions

abbrev Obeys (request : Request) (program : Commands) (memory : Memory) : Prop :=
  (oidcService site).Follows (Holds owner) (Asks owner request) (Ends site request) program memory

end Rules

section Programs

variable {site : OIDCSite} {owner : GoString → Nat} {memory : Memory}

theorem fail_obeys (request : Request) (status : Nat) (text : String) :
    Obeys site owner request (fail status text) memory := by
  cases request <;> exact trivial

theorem refused_obeys (request : Request) (refusal : Refusal) :
    Obeys site owner request (.done (.refused refusal)) memory := by
  cases request <;> exact trivial

theorem tokenErr_obeys (request : Request) (status : Nat) (code description : String) :
    Obeys site owner request (tokenErr status code description) memory := by
  cases request <;> exact trivial

theorem sendToLogin_obeys (request : Request) (requestURI : GoString) (status : Nat) (text : String) :
    Obeys site owner request (sendToLogin requestURI status text) memory := by
  unfold sendToLogin
  dsimp only
  split
  · exact fail_obeys ..
  · cases request <;> exact trivial

/-! ### Authorize -/

section Authorize

variable {request : Authorize}

theorem sessionFromRequest_obeys {next : Option (UserRow × Session.Payload) → Commands}
    (absent : ∀ memory, Obeys site owner (.authorize request) (next none) memory)
    (present : ∀ user pay, pay.userID = owner request.cookie →
      Obeys site owner (.authorize request) (next (some (user, pay)))
        { memory with session := some pay }) :
    Obeys site owner (.authorize request) (sessionFromRequest request.cookie next) memory := by
  unfold sessionFromRequest
  split
  · exact absent memory
  · refine ⟨trivial, fun index outcome store owned => ?_⟩
    rcases outcome.read_cases (store.sessions request.cookie) with value | ⟨err, failed⟩
    · simp only [oidcService, Command.answer, value]
      cases found : store.sessions request.cookie with
      | none => exact absent memory
      | some pay =>
        refine ⟨trivial, fun index outcome store _ => ?_⟩
        simp only [Command.answer]
        cases Command.lookup outcome (store.users pay.userID) with
        | error err => exact absent _
        | ok user => exact present user pay (owned request.cookie pay found)
    · simp only [oidcService, Command.answer, failed]
      exact absent memory

theorem mfa_obeys {userID : Nat} {operation : Operation} {next : operation.Answer → Commands}
    (onward : ∀ reply store, Obeys site owner (.authorize request) (next reply)
      (memory.after store (.mfa userID operation) reply)) :
    Obeys site owner (.authorize request) (.ask (.mfa userID operation) next) memory :=
  ⟨trivial, fun _ _ store _ => onward _ store⟩

theorem oidcRecentMFAGate_obeys {next : Commands} {pay : Session.Payload}
    (user : pay.userID = owner request.cookie) (session : memory.session = some pay)
    (onward : ∀ memory, Proved pay.userID memory → Obeys site owner (.authorize request) next memory) :
    Obeys site owner (.authorize request) (oidcRecentMFAGate request pay.userID next) memory := by
  refine mfa_obeys fun settings _ => ?_
  cases settings with
  | error err => exact fail_obeys ..
  | ok settings =>
  refine mfa_obeys fun totpFactors _ => ?_
  cases totpFactors with
  | error err => exact fail_obeys ..
  | ok totpFactors =>
  refine mfa_obeys fun webAuthnFactors _ => ?_
  cases webAuthnFactors with
  | error err => exact fail_obeys ..
  | ok webAuthnFactors =>
  refine mfa_obeys fun recoveryRemaining _ => ?_
  cases recoveryRemaining with
  | error err => exact fail_obeys ..
  | ok recoveryRemaining =>
  show Obeys site owner _ (if !settings.enabled then next else _)
    { memory with enabled := some (pay.userID, settings.enabled) }
  cases enabled : settings.enabled with
  | false => exact onward _ ⟨pay, session, rfl, .inl rfl⟩
  | true =>
    rw [if_neg (by decide)]
    refine sessionFromRequest_obeys ?_ ?_
    · intro memory
      exact sendToLogin_obeys ..
    intro _ again same
    dsimp only
    split
    · trivial
    next verified =>
      refine ⟨trivial, fun _ _ store _ => ?_⟩
      show Obeys site owner _ (if store.clock - _ > _ then _ else next) _
      split
      · trivial
      next recent =>
        exact onward _ ⟨again, rfl, same.trans user.symm, .inr ⟨rfl, verified, Int.not_lt.mp recent⟩⟩

theorem issueCode_obeys {userID : Nat} {user : UserRow} (own : userID = owner request.cookie)
    (allowed : site.issuer.redirectAllowed (trimSpace request.query.redirectURI) = true)
    (proved : Proved userID memory) :
    Obeys site owner (.authorize request) (issueCode site request userID user) memory := by
  unfold issueCode
  split
  · exact fail_obeys ..
  next code drawn =>
    obtain ⟨bytes, -, rfl⟩ := Option.map_eq_some_iff.mp drawn
    have solid : trimSpace (hexEncode bytes.1) = hexEncode bytes.1 :=
      trimSpace_token (hexEncode_bytes bytes.1)
    dsimp only
    split
    · exact fail_obeys ..
    · rw [solid]
      refine ⟨⟨drawn, ⟨rfl, rfl, rfl, own, proved⟩, fun reply => ?_⟩, fun _ outcome store _ => ?_⟩
      · cases reply with
        | some err => exact ⟨_, rfl⟩
        | none =>
          dsimp only
          cases site.parse (trimSpace request.query.redirectURI) with
          | error err => exact ⟨_, rfl⟩
          | ok url => exact ⟨_, rfl⟩
      · dsimp only [oidcService]
        split
        · exact fail_obeys ..
        · split
          · exact fail_obeys ..
          next url parsed =>
            obtain ⟨uri, member, same⟩ := List.any_eq_true.mp allowed
            have same : trimSpace request.query.redirectURI = trimSpace uri := by simpa using same
            exact ⟨uri, member, url, hexEncode bytes.1, same ▸ parsed, drawn, rfl⟩

theorem handleOIDCAuthorize_obeys (request : Authorize) :
    Obeys site owner (.authorize request) (handleOIDCAuthorize site request) memory := by
  unfold handleOIDCAuthorize
  split
  · exact refused_obeys ..
  dsimp only
  split
  · exact fail_obeys ..
  split
  · exact fail_obeys ..
  split
  · exact fail_obeys ..
  next redirect =>
  split
  · exact fail_obeys ..
  split
  · exact fail_obeys ..
  split
  · exact fail_obeys ..
  have allowed : site.issuer.redirectAllowed (trimSpace request.query.redirectURI) = true := by
    simpa using fun refused => redirect (.inr refused)
  refine sessionFromRequest_obeys ?_ ?_
  · intro memory
    exact sendToLogin_obeys ..
  intro user pay own
  exact oidcRecentMFAGate_obeys own rfl fun memory proved => issueCode_obeys own allowed proved

end Authorize

/-! ### Token -/

section Token

variable {request : TokenRequest}

theorem redeem_obeys {stored : StoredAuthCode} {kept : Kept} {taken : Int} (same : kept.stored = stored)
    (met : memory.met = some (kept, taken)) :
    Obeys site owner (.token request) (redeem site request stored) memory := by
  unfold redeem
  split
  · exact tokenErr_obeys ..
  next agrees =>
    obtain ⟨client, redirect⟩ := not_or.mp agrees
    refine ⟨trivial, fun _ outcome store _ => ?_⟩
    simp only [oidcService, Command.answer]
    cases Command.lookup outcome (store.users stored.userID) with
    | error err =>
      cases err with
      | notFound => exact tokenErr_obeys ..
      | failed err => exact tokenErr_obeys ..
    | ok user =>
      dsimp only
      split
      · exact tokenErr_obeys ..
      · refine ⟨trivial, fun _ _ store _ => ?_⟩
        dsimp only
        split
        · exact tokenErr_obeys ..
        · subst same
          exact ⟨kept, taken, met, not_not.mp client, not_not.mp redirect, rfl, rfl⟩

theorem handleOIDCToken_obeys (request : TokenRequest) (blank : memory.met = none) :
    Obeys site owner (.token request) (handleOIDCToken site request) memory := by
  unfold handleOIDCToken
  split
  · exact refused_obeys ..
  split
  · exact tokenErr_obeys ..
  dsimp only
  split
  · exact tokenErr_obeys ..
  split
  · exact tokenErr_obeys ..
  split
  · exact tokenErr_obeys ..
  refine ⟨⟨rfl, blank⟩, fun _ outcome store _ => ?_⟩
  simp only [oidcService, Command.answer]
  rcases outcome.read_cases ((store.live (trimSpace request.code)).map Kept.stored) with
    value | ⟨err, failed⟩
  · rw [value]
    cases live : store.live (trimSpace request.code) with
    | none => exact tokenErr_obeys ..
    | some kept =>
      have met : (memory.after store (.getDel (trimSpace request.code)) (.ok (some kept.stored))).met =
          some (kept, store.clock) := by
        simp [Memory.after, live]
      exact redeem_obeys rfl met
  · rw [failed]
    exact tokenErr_obeys ..

end Token

end Programs

inductive Holder where
  | valkey (code : GoString)
  | request (index : Nat)
deriving DecidableEq

def held (state : OIDCState) : Holder → Option Kept
  | .valkey code => state.store.codes code
  | .request index => (state.threads index).bind fun thread => thread.memory.met.map Prod.fst

/-- A code was stored by an authorize request that is answered and was sure of what it
stored. -/
def IssuedBy (owner : GoString → Nat) (state : OIDCState) (kept : Kept) (code : GoString) : Prop :=
  ∃ request reply memory, state.threads kept.issuer = some ⟨.authorize request, .done reply, memory⟩ ∧
    request.code = some code ∧ Grants owner request memory kept.stored

def Draws (state : OIDCState) (index : Nat) (code : GoString) : Prop :=
  ∃ thread request, state.threads index = some thread ∧ thread.request = .authorize request ∧
    request.code = some code

structure Sound (owner : GoString → Nat) (state : OIDCState) : Prop where
  owned : Owned owner state.store.sessions
  stored : ∀ code kept, state.store.codes code = some kept → IssuedBy owner state kept code
  met : ∀ index thread kept taken, state.threads index = some thread →
    thread.memory.met = some (kept, taken) → ∃ request, thread.request = .token request ∧
      taken < kept.setAt + oidcAuthCodeTTL ∧ IssuedBy owner state kept (trimSpace request.code)
  alone : Alone Kept.issuer (held state)
  drawn : ∀ index code, Draws state index code → state.store.drawn code = true
  distinct : ∀ index other code, Draws state index code → Draws state other code → index = other

section Steps

variable {site : OIDCSite} {owner : GoString → Nat} {state : OIDCState} {index : Nat}
  {thread : Thread Request Command Command.Answer OIDCReply Memory} {outcome : Outcome GoError}
  {command : Command} {next : command.Answer → Commands}

theorem Sound.issued (sound : Sound owner state) {place : Holder} {kept : Kept}
    (there : held state place = some kept) : ∃ code, IssuedBy owner state kept code := by
  cases place with
  | valkey code => exact ⟨code, sound.stored code kept there⟩
  | request index =>
    obtain ⟨thread, found, remembered⟩ := Option.bind_eq_some_iff.mp there
    obtain ⟨⟨_, taken⟩, met, same⟩ := Option.map_eq_some_iff.mp remembered
    cases same
    obtain ⟨request, -, -, issued⟩ := sound.met index thread _ taken found met
    exact ⟨_, issued⟩

theorem IssuedBy.ne {kept : Kept} {code : GoString} (issued : IssuedBy owner state kept code)
    (present : state.threads index = some thread) (asking : thread.program = .ask command next) :
    kept.issuer ≠ index := by
  rintro rfl
  obtain ⟨request, reply, memory, found, -⟩ := issued
  cases found.symm.trans present
  cases asking

theorem IssuedBy.execute {kept : Kept} {code : GoString} (issued : IssuedBy owner state kept code)
    (present : state.threads index = some thread) (asking : thread.program = .ask command next) :
    IssuedBy owner ((oidcService site).execute state index thread outcome command next) kept code := by
  have different := issued.ne present asking
  obtain ⟨request, reply, memory, found, rest⟩ := issued
  exact ⟨request, reply, memory, (Service.execute_other different).trans found, rest⟩

theorem codes_after {store : OIDCStore} {code : GoString} {kept : Kept}
    (there : (command.answer index outcome store).2.codes code = some kept) :
    store.codes code = some kept ∨
      ∃ stored, command = .set code stored ∧ kept = ⟨index, stored, store.clock⟩ := by
  cases command with
  | set key stored =>
    cases applied : outcome.applied with
    | false => exact .inl (by simpa [Command.answer, Outcome.exec, applied] using there)
    | true =>
      by_cases same : code = key
      · subst same
        exact .inr ⟨stored, rfl, by simpa [Command.answer, Outcome.exec, applied] using there.symm⟩
      · exact .inl (by simpa [Command.answer, Outcome.exec, applied, same] using there)
  | getDel key =>
    cases applied : outcome.applied with
    | false => exact .inl (by simpa [Command.answer, applied] using there)
    | true =>
      by_cases same : code = key
      · simp [Command.answer, applied, same] at there
      · exact .inl (by simpa [Command.answer, applied, same] using there)
  | _ => exact .inl there

theorem after_met {store : OIDCStore} {memory : Memory} (other : ∀ code, command ≠ .getDel code)
    (reply : command.Answer) : (memory.after store command reply).met = memory.met := by
  cases command with
  | getDel code => exact absurd rfl (other code)
  | get token =>
    cases reply with
    | error err => rfl
    | ok found => cases found <;> rfl
  | mfa userID operation =>
    cases operation with
    | getMFASettings => cases reply <;> rfl
    | _ => rfl
  | _ => rfl

theorem met_after {store : OIDCStore} {memory : Memory} {kept : Kept} {taken : Int}
    (met : (memory.after store command (command.answer index outcome store).1).met = some (kept, taken)) :
    memory.met = some (kept, taken) ∨
      ∃ code, command = .getDel code ∧ outcome.error? = none ∧ store.live code = some kept ∧
        taken = store.clock := by
  cases command with
  | getDel code =>
    cases reported : outcome.error? with
    | some err => exact .inl (by simpa [Memory.after, Command.answer, Outcome.read, reported] using met)
    | none =>
      cases live : store.live code with
      | none =>
        exact .inl (by simpa [Memory.after, Command.answer, Outcome.read, reported, live] using met)
      | some found =>
        have same : found = kept ∧ store.clock = taken := by
          simpa [Memory.after, Command.answer, Outcome.read, reported, live] using met
        obtain ⟨rfl, rfl⟩ := same
        exact .inr ⟨code, rfl, rfl, live, rfl⟩
  | get token => exact .inl (Eq.trans (after_met (by simp) _).symm met)
  | mfa userID operation => exact .inl (Eq.trans (after_met (by simp) _).symm met)
  | _ => exact .inl met

theorem live_codes {store : OIDCStore} {code : GoString} {kept : Kept}
    (live : store.live code = some kept) :
    store.codes code = some kept ∧ store.clock < kept.setAt + oidcAuthCodeTTL := by
  obtain ⟨there, fresh⟩ := Option.mem_filter_iff.mp live
  exact ⟨there, by simpa using fresh⟩

def target (index : Nat) : Command → Holder
  | .set code _ => .valkey code
  | _ => .request index

theorem held_execute (sound : Sound owner state) (present : state.threads index = some thread)
    (asking : thread.program = .ask command next) {place : Holder} {kept : Kept}
    (there : held ((oidcService site).execute state index thread outcome command next) place =
      some kept) :
    Origin Kept.issuer (held state)
      (held ((oidcService site).execute state index thread outcome command next))
      (target index command) place kept := by
  cases place with
  | valkey code =>
    rcases codes_after there with stayed | ⟨stored, rfl, rfl⟩
    · exact .stayed stayed
    · refine .made rfl fun other kept otherThere same => ?_
      obtain ⟨_, issued⟩ := sound.issued otherThere
      exact issued.ne present asking same
  | request other =>
    by_cases same : other = index
    · subst same
      obtain ⟨advanced, found, remembered⟩ := Option.bind_eq_some_iff.mp there
      rw [Service.execute_self] at found
      cases found
      obtain ⟨⟨_, taken⟩, met, equal⟩ := Option.map_eq_some_iff.mp remembered
      cases equal
      rcases met_after met with before | ⟨code, rfl, reported, live, -⟩
      · exact .stayed (by simp [held, present, before])
      · refine .moved rfl (.valkey code) (live_codes live).1 ?_
        simp [held, Service.execute, oidcService, Command.answer,
          Outcome.applied_of_error?_none reported]
    · refine .stayed (Eq.trans ?_ there)
      simp only [held, Service.execute_other same]

theorem sessions_after (outcome : Outcome GoError) (command : Command) (store : OIDCStore) :
    (command.answer index outcome store).2.sessions = store.sessions ∧
      (command.answer index outcome store).2.drawn = store.drawn := by
  cases command with
  | set code stored =>
    simp only [Command.answer, Outcome.exec]
    split <;> exact ⟨rfl, rfl⟩
  | getDel code =>
    simp only [Command.answer]
    split <;> exact ⟨rfl, rfl⟩
  | _ => exact ⟨rfl, rfl⟩

theorem Draws.before {other : Nat} {code : GoString} (present : state.threads index = some thread)
    (draws : Draws ((oidcService site).execute state index thread outcome command next) other code) :
    Draws state other code := by
  obtain ⟨advanced, request, found, is, drawn⟩ := draws
  by_cases same : other = index
  · subst same
    rw [Service.execute_self] at found
    cases found
    exact ⟨thread, request, present, is, drawn⟩
  · rw [Service.execute_other same] at found
    exact ⟨advanced, request, found, is, drawn⟩

theorem IssuedBy.now {code : GoString} {stored : StoredAuthCode}
    {next : (Command.set code stored).Answer → Commands}
    (asks : Asks owner thread.request thread.memory (.set code stored) next) :
    IssuedBy owner ((oidcService site).execute state index thread outcome (.set code stored) next)
      ⟨index, stored, state.store.clock⟩ code := by
  obtain ⟨request, program, memory⟩ := thread
  cases request with
  | token request => cases asks
  | authorize request =>
    obtain ⟨drawn, grants, answered⟩ := asks
    obtain ⟨reply, done⟩ := answered (Command.answer index outcome (.set code stored) state.store).1
    refine ⟨request, reply, memory, ?_, drawn, grants⟩
    rw [Service.execute_self]
    simp only [oidcService, done]
    rfl

theorem Sound.taken (sound : Sound owner state) {code : GoString}
    {next : (Command.getDel code).Answer → Commands} {kept : Kept}
    (present : state.threads index = some thread) (asking : thread.program = .ask (.getDel code) next)
    (asks : Asks owner thread.request thread.memory (.getDel code) next)
    (live : state.store.live code = some kept) :
    ∃ request, thread.request = .token request ∧ state.store.clock < kept.setAt + oidcAuthCodeTTL ∧
      IssuedBy owner ((oidcService site).execute state index thread outcome (.getDel code) next) kept
        (trimSpace request.code) := by
  obtain ⟨there, fresh⟩ := live_codes live
  have issued : IssuedBy owner ((oidcService site).execute state index thread outcome (.getDel code) next)
      kept code := (sound.stored code kept there).execute present asking
  cases which : thread.request with
  | authorize request =>
    rw [which] at asks
    cases asks
  | token request =>
    rw [which] at asks
    exact ⟨request, rfl, fresh, asks.1 ▸ issued⟩

theorem Sound.execute (sound : Sound owner state) (present : state.threads index = some thread)
    (asking : thread.program = .ask command next)
    (asks : Asks owner thread.request thread.memory command next) :
    Sound owner ((oidcService site).execute state index thread outcome command next) where
  owned := by
    show Owned owner (command.answer index outcome state.store).2.sessions
    rw [(sessions_after outcome command state.store).1]
    exact sound.owned
  stored code kept there := by
    rcases codes_after there with stayed | ⟨stored, rfl, rfl⟩
    · exact (sound.stored code kept stayed).execute present asking
    · exact .now asks
  met other advanced kept taken found remembered := by
    by_cases same : other = index
    · subst same
      rw [Service.execute_self] at found
      cases found
      rcases met_after remembered with before | ⟨code, rfl, -, live, rfl⟩
      · obtain ⟨request, is, fresh, issued⟩ := sound.met other thread kept taken present before
        exact ⟨request, is, fresh, issued.execute present asking⟩
      · exact sound.taken present asking asks live
    · rw [Service.execute_other same] at found
      obtain ⟨request, is, fresh, issued⟩ := sound.met other advanced kept taken found remembered
      exact ⟨request, is, fresh, issued.execute present asking⟩
  alone := sound.alone.step fun _ _ there => held_execute sound present asking there
  drawn other code draws := by
    show (command.answer index outcome state.store).2.drawn code = true
    rw [(sessions_after outcome command state.store).2]
    exact sound.drawn other code (draws.before present)
  distinct first second code draws otherDraws :=
    sound.distinct first second code (draws.before present) (otherDraws.before present)

theorem IssuedBy.begin {kept : Kept} {code : GoString} {request : Request} {store : OIDCStore}
    (issued : IssuedBy owner state kept code) (absent : state.threads index = none) :
    IssuedBy owner ((oidcService site).begin state index request store) kept code := by
  obtain ⟨authorize, reply, memory, found, rest⟩ := issued
  refine ⟨authorize, reply, memory, ?_, rest⟩
  rw [Service.begin_other]
  · exact found
  · rintro rfl
    cases absent.symm.trans found

theorem enter_eq {request : Request} {store entered : OIDCStore}
    (enters : store.enter request = some entered) :
    ∃ drawn, entered = { store with drawn } ∧ ∀ code, store.drawn code = true → drawn code = true := by
  unfold OIDCStore.enter at enters
  split at enters
  · cases enters
    exact ⟨_, rfl, fun _ before => before⟩
  · split at enters
    · cases enters
      exact ⟨_, rfl, fun _ before => before⟩
    · split at enters
      · cases enters
      · cases enters
        refine ⟨_, rfl, fun code before => ?_⟩
        rw [Function.update_apply]
        split
        · rfl
        · exact before

theorem enter_draws {request : Authorize} {store entered : OIDCStore} {code : GoString}
    (enters : store.enter (.authorize request) = some entered) (draws : request.code = some code) :
    store.drawn code = false ∧ entered.drawn code = true := by
  simp only [OIDCStore.enter, draws] at enters
  split at enters
  · cases enters
  next fresh =>
    cases enters
    exact ⟨by simpa using fresh, by simp⟩

theorem begin_thread {request : Request} {store : OIDCStore} {other : Nat}
    (found : ((oidcService site).begin state index request store).threads other = some thread) :
    state.threads other = some thread ∨
      other = index ∧ thread.request = request ∧ thread.memory.met = none := by
  by_cases same : other = index
  · subst same
    rw [Service.begin_self] at found
    cases found
    exact .inr ⟨rfl, rfl, rfl⟩
  · rw [Service.begin_other same] at found
    exact .inl found

theorem Draws.begin {request : Request} {store : OIDCStore} {other : Nat} {code : GoString}
    (enters : state.store.enter request = some store)
    (draws : Draws ((oidcService site).begin state index request store) other code) :
    Draws state other code ∨
      other = index ∧ state.store.drawn code = false ∧ store.drawn code = true := by
  obtain ⟨thread, authorize, found, is, drawn⟩ := draws
  rcases begin_thread found with before | ⟨same, began, -⟩
  · exact .inl ⟨thread, authorize, before, is, drawn⟩
  · exact .inr ⟨same, enter_draws (is.symm.trans began ▸ enters) drawn⟩

theorem Sound.begin (sound : Sound owner state) {request : Request} {store : OIDCStore}
    (absent : state.threads index = none) (enters : state.store.enter request = some store) :
    Sound owner ((oidcService site).begin state index request store) := by
  obtain ⟨drawn, same, kept⟩ := enter_eq enters
  refine
    { owned := ?_
      stored := fun code kept there => ?_
      met := fun other thread kept taken found remembered => ?_
      alone := sound.alone.mono fun place kept there => ?_
      drawn := fun other code draws => ?_
      distinct := fun first second code draws otherDraws => ?_ }
  · show Owned owner store.sessions
    rw [same]
    exact sound.owned
  · subst same
    exact (sound.stored code kept there).begin absent
  · rcases begin_thread found with before | ⟨-, -, none⟩
    · obtain ⟨token, is, fresh, issued⟩ := sound.met other thread kept taken before remembered
      exact ⟨token, is, fresh, issued.begin absent⟩
    · cases none.symm.trans remembered
  · cases place with
    | valkey code =>
      subst same
      exact there
    | request other =>
      obtain ⟨thread, found, remembered⟩ := Option.bind_eq_some_iff.mp there
      rcases begin_thread found with before | ⟨-, -, none⟩
      · exact Option.bind_eq_some_iff.mpr ⟨thread, before, remembered⟩
      · rw [none] at remembered
        cases remembered
  · rcases draws.begin enters with before | ⟨-, -, now⟩
    · show store.drawn code = true
      rw [same]
      exact kept code (sound.drawn other code before)
    · exact now
  · rcases draws.begin enters with before | ⟨atFirst, fresh, -⟩
    · rcases otherDraws.begin enters with otherBefore | ⟨-, fresh, -⟩
      · exact sound.distinct first second code before otherBefore
      · cases fresh.symm.trans (sound.drawn first code before)
    · rcases otherDraws.begin enters with otherBefore | ⟨atSecond, -, -⟩
      · cases fresh.symm.trans (sound.drawn second code otherBefore)
      · exact atFirst.trans atSecond.symm

theorem change_codes {change : Change} {store changed : OIDCStore}
    (changes : store.change change = some changed) {code : GoString} {kept : Kept}
    (there : changed.codes code = some kept) : store.codes code = some kept := by
  cases change with
  | lapse key =>
    cases changes
    by_cases same : code = key
    · simp [same] at there
    · simpa [same] using there
  | _ =>
    cases changes
    exact there

theorem Sound.change (sound : Sound owner state) {change : Change} {store : OIDCStore}
    (may : KeepsOwners owner state (.change change)) (changes : state.store.change change = some store) :
    Sound owner { state with store } where
  owned := by
    cases change with
    | sessions sessions =>
      cases changes
      exact may
    | _ =>
      cases changes
      exact sound.owned
  stored code kept there := sound.stored code kept (change_codes changes there)
  met index thread kept taken found remembered := sound.met index thread kept taken found remembered
  alone := sound.alone.mono fun place kept there => by
    cases place with
    | valkey code => exact change_codes changes there
    | request index => exact there
  drawn index code draws := by
    cases change with
    | _ =>
      cases changes
      exact sound.drawn index code draws
  distinct index other code draws otherDraws := sound.distinct index other code draws otherDraws

theorem Idle.sound (idle : Idle owner state) : Sound owner state := by
  have nothing : ∀ index thread, state.threads index ≠ some thread := by
    intro index thread found
    cases (idle.threads index).symm.trans found
  refine
    { owned := idle.owned
      stored := fun code kept there => ?_
      met := fun index thread _ _ found => absurd found (nothing index thread)
      alone := fun place _ kept _ there => ?_
      drawn := fun index code ⟨thread, _, found, _⟩ => absurd found (nothing index thread)
      distinct := fun index _ code ⟨thread, _, found, _⟩ => absurd found (nothing index thread) }
  · cases (idle.codes code).symm.trans there
  · cases place with
    | valkey code => cases (idle.codes code).symm.trans there
    | request index =>
      obtain ⟨thread, found, -⟩ := Option.bind_eq_some_iff.mp there
      exact absurd found (nothing index thread)

end Steps

section Runs

variable {site : OIDCSite} {owner : GoString → Nat} {start reached : OIDCState}

theorem sound_preserves (site : OIDCSite) (owner : GoString → Nat) :
    (oidcService site).Preserves (Asks owner) (KeepsOwners owner) (Sound owner) where
  begin sound _ absent enters := sound.begin absent enters
  execute sound _ present asking asks := sound.execute present asking asks
  change sound may changes := sound.change may changes

theorem program_obeys (request : Request) :
    Obeys site owner request (request.program site) (oidcService site).blank := by
  cases request with
  | authorize request => exact handleOIDCAuthorize_obeys request
  | token request => exact handleOIDCToken_obeys request rfl

theorem runs_sound (idle : Idle owner start)
    (runs : (oidcService site).machine.Runs (KeepsOwners owner) start reached) :
    Sound owner reached ∧
      Service.AllFollow (oidcService site) (Holds owner) (Asks owner) (Ends site) reached :=
  (sound_preserves site owner).sound (fun _ sound => sound.owned) program_obeys idle.sound idle.threads runs

def Answered (state : OIDCState) (index : Nat) (request : Request) (memory : Memory)
    (reply : OIDCReply) : Prop :=
  state.threads index = some ⟨request, .done reply, memory⟩

/-- A token request took away, in time, a code that an authorize request stored for the same
client and redirect URI, and its claims are of the user of that request's session, whose
second factor was proved a short while ago if it was enabled, and of its nonce. -/
structure Exchange (owner : GoString → Nat) (state : OIDCState) (request : TokenRequest)
    (memory : Memory) (claims : IDToken) (kept : Kept) (taken : Int) (authorize : Authorize)
    (issued : Memory) : Prop where
  met : memory.met = some (kept, taken)
  fresh : taken < kept.setAt + oidcAuthCodeTTL
  issuer : ∃ reply, Answered state kept.issuer (.authorize authorize) issued reply
  code : authorize.code = some (trimSpace request.code)
  client : trimSpace authorize.query.clientID = request.credentials.1
  redirect : trimSpace authorize.query.redirectURI = trimSpace request.redirectURI
  subject : claims.subject = owner authorize.cookie
  proved : Proved claims.subject issued
  nonce : claims.nonce = trimSpace authorize.query.nonce

/-- What tokens and codes are bound to, and that a code works once. -/
structure Bound (site : OIDCSite) (owner : GoString → Nat) (state : OIDCState) : Prop where
  once : ∀ index other request same memory otherMemory claims otherClaims,
    Answered state index (.token request) memory (.token claims) →
    Answered state other (.token same) otherMemory (.token otherClaims) →
    trimSpace request.code = trimSpace same.code → index = other
  exchanged : ∀ index request memory claims, Answered state index request memory (.token claims) →
    ∃ token kept taken authorize issued, request = .token token ∧
      Exchange owner state token memory claims kept taken authorize issued
  redirected : ∀ index request memory location,
    Answered state index request memory (.redirect location) →
    ∃ authorize, request = .authorize authorize ∧ Configured site authorize location

theorem exchange {state : OIDCState} {index : Nat} {request : Request} {memory : Memory}
    {claims : IDToken} (sound : Sound owner state)
    (follow : Service.AllFollow (oidcService site) (Holds owner) (Asks owner) (Ends site) state)
    (answered : Answered state index request memory (.token claims)) :
    ∃ token kept taken authorize issued, request = .token token ∧
      Exchange owner state token memory claims kept taken authorize issued := by
  have ends : Ends site request memory (.token claims) := follow index _ answered
  cases request with
  | authorize request => cases ends
  | token token =>
    obtain ⟨kept, taken, met, redeems⟩ := ends
    obtain ⟨same, is, fresh, authorize, reply, issued, issuer, drawn, grants⟩ :=
      sound.met index _ kept taken answered met
    cases is
    refine ⟨token, kept, taken, authorize, issued, rfl, ?_⟩
    exact
      { met
        fresh
        issuer := ⟨reply, issuer⟩
        code := drawn
        client := grants.client.symm.trans redeems.client
        redirect := grants.redirect.symm.trans redeems.redirect
        subject := redeems.subject.trans grants.user
        proved := redeems.subject ▸ grants.proved
        nonce := redeems.nonce.trans grants.nonce }

/-- In every run of requests whose commands are executed in any order, and whatever else
changes the stores meanwhile, a code gets at most one ID token, for a request that presents
it in time with the client and the redirect URI of the authorize request, and with the user
and the nonce of that request; and a browser is sent to a configured URI only. -/
theorem codes_bound (idle : Idle owner start)
    (runs : (oidcService site).machine.Runs (KeepsOwners owner) start reached) :
    Bound site owner reached := by
  obtain ⟨sound, follow⟩ := runs_sound idle runs
  refine ⟨?_, fun index request memory claims answered => exchange sound follow answered, ?_⟩
  · intro index other request same memory otherMemory claims otherClaims answered otherAnswered equal
    obtain ⟨_, kept, taken, authorize, _, ⟨⟩, first⟩ := exchange sound follow answered
    obtain ⟨_, otherKept, otherTaken, otherAuthorize, _, ⟨⟩, second⟩ := exchange sound follow otherAnswered
    -- both codes were drawn by one request, and what it stored is with one request
    obtain ⟨_, issuer⟩ := first.issuer
    obtain ⟨_, otherIssuer⟩ := second.issuer
    have drawer : kept.issuer = otherKept.issuer :=
      sound.distinct _ _ (trimSpace request.code) ⟨_, authorize, issuer, rfl, first.code⟩
        ⟨_, otherAuthorize, otherIssuer, rfl, second.code.trans (congrArg some equal.symm)⟩
    have here : held reached (.request index) = some kept := by
      simp [held, show reached.threads index = _ from answered, first.met]
    have there : held reached (.request other) = some otherKept := by
      simp [held, show reached.threads other = _ from otherAnswered, second.met]
    cases sound.alone _ _ _ _ here there drawer
    rfl
  · intro index request memory location answered
    have ends : Ends site request memory (.redirect location) := follow index _ answered
    cases request with
    | authorize authorize => exact ⟨authorize, rfl, ends⟩
    | token token => cases ends

end Runs

/-- A site with one client; a URL is taken as it is, without a query. -/
def sampleSite : OIDCSite where
  issuer := ⟨ascii "https://mail.example", ascii "net", ascii "secret", [ascii "https://net.example/in"]⟩
  parse text := .ok ⟨text, []⟩

def sampleStart : OIDCState where
  store :=
    { codes := fun _ => none
      sessions := fun token =>
        if token = ascii "s" then some ⟨7, ascii "ann@mail.example", [ascii "pwd"], 0, 0⟩ else none
      users := fun userID => if userID = 7 then some ⟨ascii "ann@mail.example", ascii "Ann"⟩ else none
      accounts := fun _ => .fresh
      clock := 0
      drawn := fun _ => false }
  threads := fun _ => none

def sampleOwner : GoString → Nat := fun _ => 7

def sampleAuthorize : Authorize where
  gate := none
  requestURI := ascii "/oauth/authorize"
  cookie := ascii "s"
  query := ⟨ascii "code", ascii "net", ascii "https://net.example/in", ascii "openid email profile",
    ascii "st", ascii "once"⟩
  codeBytes := some ⟨List.replicate 32 0, rfl⟩

def sampleToken : TokenRequest where
  gate := none
  parsed := true
  authorization := []
  clientID := ascii "net"
  clientSecret := ascii "secret"
  grantType := ascii "authorization_code"
  code := hexEncode (List.replicate 32 0)
  redirectURI := ascii "https://net.example/in"
  signing := none

def sampleEvents : List (Service.Event Nat Request (Outcome GoError) Change) :=
  .begin 0 (.authorize sampleAuthorize) :: List.replicate 7 (.advance 0 .done) ++
    .begin 1 (.token sampleToken) :: List.replicate 3 (.advance 1 .done)

def sampleReached : OIDCState := (oidcService sampleSite).machine.after sampleEvents sampleStart

def replyOf (state : OIDCState) (index : Nat) : Option OIDCReply :=
  (state.threads index).bind fun thread =>
    match thread.program with
    | .done reply => some reply
    | .ask _ _ => none

theorem sampleStart_idle : Idle sampleOwner sampleStart where
  codes _ := rfl
  threads _ := rfl
  owned token pay found := by
    simp only [sampleStart] at found
    split at found
    · cases found
      rfl
    · cases found

theorem sampleReached_runs : (oidcService sampleSite).machine.Runs (KeepsOwners sampleOwner) sampleStart
    sampleReached :=
  Machine.after_runs sampleEvents (by
    simp only [sampleEvents, List.replicate, List.cons_append, List.nil_append, Machine.Permits,
      KeepsOwners, and_self])

/-- The client gets a token for user 7. -/
theorem codes_bound_exchange :
    replyOf sampleReached 1 = some (.token ⟨ascii "https://mail.example", ascii "net", 7, ascii "once",
      ascii "ann@mail.example", ascii "Ann", 0, 3600000000000⟩) ∧
    Bound sampleSite sampleOwner sampleReached :=
  ⟨by decide, codes_bound sampleStart_idle sampleReached_runs⟩

end ElvishMail.Httpserver.OIDC
