import ElvishMail.Httpserver.Factors

/-!
# Factors and settings

A login asks for a second factor where the settings say that there is one. They are
written last, after the factor was added or revoked and after other operations that
can fail. A request that adds the first factor or deletes the last one and stops in
between leaves settings that do not agree with the factors, and no later request that
stops early repairs them.
-/

namespace ElvishMail.Httpserver

open Go Smtp Semantics Operation

def Agrees (account : Account) : Prop := account.enabled = account.hasFactor

/-- The factors are kept, and the settings are kept or made to agree. -/
structure Steady (account next : Account) : Prop where
  factors : next.hasFactor = account.hasFactor
  settings : next.enabled = account.enabled ∨ Agrees next

namespace Steady

variable {account middle next : Account}

theorem refl : Steady account account := ⟨rfl, .inl rfl⟩

theorem agrees (steady : Steady account next) (before : Agrees account) : Agrees next := by
  rcases steady.settings with kept | agrees
  · exact (kept.trans before).trans steady.factors.symm
  · exact agrees

theorem synced (preferred : GoString) : Steady account (synced account preferred) := ⟨rfl, .inr rfl⟩

end Steady

section Adding

variable {account : Account} {kind : FactorKind} {registration : Registration} {payload : Payload}
  {status : MFAStatus} {label : String}

/-- The end of a registration: the settings are synced, and the session is made anew. -/
def settle (kind : FactorKind) (registration : Registration) (payload : Payload) (label : String) :
    Operations MFAReply := do
  match ← syncMFASettings kind.method with
  | some err => return internal "2fa settings" err
  | none =>
    .ask .deleteUserSessions fun _ =>
      issueLoginSession registration.now (appendMFAMethod payload.amr kind.method) true label

theorem finishRegistration_eq :
    finishRegistration kind registration payload status label =
      if status.settings.enabled then settle kind registration payload label
      else match registration.codeHashes with
        | .error err => return internal "recovery codes" err
        | .ok hashes => .ask (.replaceRecoveryCodes hashes) fun
          | some err => .done (internal "recovery save" err)
          | none => settle kind registration payload label := rfl

theorem settle_ensures :
    (settle kind registration payload label).Ensures answer account
      fun _ next => Steady account next := by
  unfold settle
  rw [Program.ensures_bind]
  apply syncMFASettings_ensures
  · intro _
    apply issueLoginSession_ensures
    · exact .synced _
    · intro _ _
      exact .synced _
  · intro err
    exact ⟨.refl, .synced _⟩

theorem settle_agrees {env : Nat → Outcome GoError} (first : env 0 = .done) (second : env 1 = .done)
    (written : (env 2).applied = true) :
    Agrees ((settle kind registration payload label).run answer env account).2 := by
  have settled := syncMFASettings_run account kind.method env first second written
  unfold settle
  rw [Program.run_bind, settled.1, settled.2]
  cases (env 2).error? with
  | some err => exact rfl
  | none =>
    dsimp only
    rw [Program.run_ask, issueLoginSession_state]
    exact rfl

theorem finishRegistration_ensures :
    (finishRegistration kind registration payload status label).Ensures answer account
      fun _ next => Steady account next := by
  rw [finishRegistration_eq]
  split
  · exact settle_ensures
  · cases registration.codeHashes with
    | error err => exact .refl
    | ok hashes =>
      intro outcome
      cases outcome with
      | refused err => exact .refl
      | lost err => exact ⟨rfl, .inl rfl⟩
      | done =>
        apply settle_ensures.weaken
        intro _ next steady
        exact ⟨steady.factors, steady.settings⟩

/-- What the operations that follow the write of a first factor meet: codes are made and
saved, and the settings are written. -/
structure Completes (registration : Registration) (env : Nat → Outcome GoError) : Prop where
  hashes : ∃ hashes, registration.codeHashes = .ok hashes
  codes : env 0 = .done
  first : env 1 = .done
  second : env 2 = .done
  written : (env 3).applied = true

theorem finishRegistration_agrees {env : Nat → Outcome GoError} (off : status.settings.enabled = false)
    (completes : Completes registration env) :
    Agrees ((finishRegistration kind registration payload status label).run answer env account).2 := by
  obtain ⟨⟨hashes, made⟩, codes, first, second, written⟩ := completes
  rw [finishRegistration_eq, off, made]
  dsimp only
  rw [if_neg nofun, Program.run_ask, codes]
  exact settle_agrees first second written

def withFactor (account : Account) (kind : FactorKind) (id : Nat) : Account :=
  account.setFactors kind (⟨id, false⟩ :: account.factors kind)

theorem withFactor_hasFactor (id : Nat) : (withFactor account kind id).hasFactor = true := by
  rw [hasFactor_iff kind, Account.active, withFactor, setFactors_factors, List.filter_cons_of_pos rfl,
    List.length_cons]
  omega

theorem withFactor_enabled (id : Nat) : (withFactor account kind id).enabled = account.enabled := by
  rw [Account.enabled, withFactor, setFactors_settings, Account.enabled]

/-- Nothing is changed, or a factor is there and the settings are kept or made to agree. -/
def Grown (account next : Account) : Prop :=
  next = account ∨ next.hasFactor = true ∧ (next.enabled = account.enabled ∨ Agrees next)

theorem grown_of_steady (kind : FactorKind) (id : Nat) {next : Account}
    (steady : Steady (withFactor account kind id) next) :
    Grown account next := by
  refine .inr ⟨steady.factors.trans (withFactor_hasFactor id), ?_⟩
  exact steady.settings.imp_left fun same => same.trans (withFactor_enabled id)

theorem Grown.agrees {next : Account} (grown : Grown account next) (some : account.hasFactor = true)
    (before : Agrees account) : Agrees next := by
  rcases grown with rfl | ⟨more, kept | agrees⟩
  · exact before
  · exact (kept.trans before).trans (some.trans more.symm)
  · exact agrees

theorem createTOTPFactor_ensures :
    (createTOTPFactor registration payload status).Ensures answer account
      fun _ next => Grown account next := by
  intro outcome
  cases outcome with
  | refused err => exact .inl rfl
  | lost err => exact grown_of_steady .totp registration.id .refl
  | done =>
    intro outcome
    cases outcome with
    | refused err => exact grown_of_steady .totp registration.id .refl
    | lost err => exact grown_of_steady .totp registration.id .refl
    | done => exact finishRegistration_ensures.weaken fun _ _ steady =>
        grown_of_steady .totp registration.id steady

theorem createWebAuthnCredential_ensures :
    (createWebAuthnCredential registration payload status).Ensures answer account
      fun _ next => Grown account next := by
  unfold createWebAuthnCredential
  cases registration.challenged with
  | some refusal => exact .inl rfl
  | none =>
    intro outcome
    cases outcome with
    | refused err => exact .inl rfl
    | lost err => exact grown_of_steady .webauthn registration.id .refl
    | done =>
      intro _
      exact finishRegistration_ensures.weaken fun _ _ steady =>
        grown_of_steady .webauthn registration.id steady

/-- What the operations from the write of a first factor on meet. -/
def Enrols (kind : FactorKind) (registration : Registration) (env : Nat → Outcome GoError) : Prop :=
  (env 0).applied = true →
    env 0 = .done ∧ (kind = .totp → env 1 = .done) ∧
      Completes registration fun count => env (count + 2)

theorem createTOTPFactor_agrees {env : Nat → Outcome GoError} (off : status.settings.enabled = false)
    (before : Agrees account) (enrols : Enrols .totp registration env) :
    Agrees ((createTOTPFactor registration payload status).run answer env account).2 := by
  unfold createTOTPFactor
  rw [Program.run_ask]
  cases applied : (env 0).applied with
  | false =>
    obtain ⟨err, refused⟩ := Outcome.refused_of_applied_false applied
    rw [refused]
    exact before
  | true =>
    obtain ⟨done, cleaned, completes⟩ := enrols applied
    rw [done]
    dsimp only [answer, Outcome.exec, Outcome.error?]
    rw [Program.run_ask, cleaned rfl]
    exact finishRegistration_agrees off completes

theorem createWebAuthnCredential_agrees {env : Nat → Outcome GoError}
    (off : status.settings.enabled = false) (before : Agrees account)
    (enrols : Enrols .webauthn registration env) :
    Agrees ((createWebAuthnCredential registration payload status).run answer env account).2 := by
  unfold createWebAuthnCredential
  cases registration.challenged with
  | some refusal => exact before
  | none =>
    dsimp only
    rw [Program.run_ask]
    cases applied : (env 0).applied with
    | false =>
      obtain ⟨err, refused⟩ := Outcome.refused_of_applied_false applied
      rw [refused]
      exact before
    | true =>
      obtain ⟨done, _, completes⟩ := enrols applied
      rw [done]
      dsimp only [answer, Outcome.exec, Outcome.error?]
      rw [Program.run_ask]
      exact finishRegistration_agrees off completes

theorem loaded_run (account : Account) (label : String) (next : MFAStatus → Operations MFAReply)
    (env : Nat → Outcome GoError) :
    let program : Operations MFAReply := do
      match ← loadMFAStatus with
      | .error err => return internal label err
      | .ok status => next status
    (program.run answer env account).2 = account ∨
      program.run answer env account =
        (next (statusOf account)).run answer (fun count => env (count + 4)) account := by
  dsimp only
  rw [Program.run_bind]
  rcases loadMFAStatus_run account env with ⟨err, same⟩ | ⟨same, count⟩
  · rw [same]
    exact .inl rfl
  · rw [same, count]
    exact .inr rfl

theorem apiAuth2FATOTPConfirm_run (account : Account) (registration : Registration)
    (env : Nat → Outcome GoError) :
    ((apiAuth2FATOTPConfirm registration).run answer env account).2 = account ∨
      ∃ payload, (apiAuth2FATOTPConfirm registration).run answer env account =
        (createTOTPFactor registration payload (statusOf account)).run answer
          (fun count => env (count + 4)) account := by
  unfold apiAuth2FATOTPConfirm
  cases registration.session with
  | none => exact .inl rfl
  | some session =>
    cases registration.checked with
    | some refusal => exact .inl rfl
    | none => exact (loaded_run account _ _ env).imp_right fun same => ⟨session.payload, same⟩

theorem apiAuth2FAWebAuthnRegisterFinish_run (account : Account) (registration : Registration)
    (env : Nat → Outcome GoError) :
    ((apiAuth2FAWebAuthnRegisterFinish registration).run answer env account).2 = account ∨
      ∃ payload, (apiAuth2FAWebAuthnRegisterFinish registration).run answer env account =
        (createWebAuthnCredential registration payload (statusOf account)).run answer
          (fun count => env (count + 4)) account := by
  unfold apiAuth2FAWebAuthnRegisterFinish
  cases registration.session with
  | none => exact .inl rfl
  | some session =>
    cases registration.checked with
    | some refusal => exact .inl rfl
    | none => exact (loaded_run account _ _ env).imp_right fun same => ⟨session.payload, same⟩

end Adding

def Aside : Operation → Prop
  | .createFactor _ _ | .revokeFactor _ _ | .putMFASettings _ _ => False
  | _ => True

theorem aside_answer {account : Account} {operation : Operation} (outcome : Outcome GoError)
    (aside : Aside operation) :
    (answer outcome operation account).2.hasFactor = account.hasFactor ∧
      (answer outcome operation account).2.enabled = account.enabled := by
  cases operation with
  | createFactor kind id => exact aside.elim
  | revokeFactor kind id => exact aside.elim
  | putMFASettings enabled preferredMethod => exact aside.elim
  | replaceRecoveryCodes hashes => cases outcome <;> exact ⟨rfl, rfl⟩
  | consumeRecoveryCode hash => cases outcome <;> exact ⟨rfl, rfl⟩
  | getMFASettings | listFactors kind | countFactors kind | countUnusedRecoveryCodes
  | saveTemporaryJSON | deleteTemporaryJSON | deleteUserSessions | createSession payload
  | putSession payload => exact ⟨rfl, rfl⟩

theorem steady_of_aside {program : Operations MFAReply} (only : program.Only Aside)
    (account : Account) (env : Nat → Outcome GoError) :
    Steady account (program.run answer env account).2 := by
  have kept := only.run_holds
    (fun next : Account => next.hasFactor = account.hasFactor ∧ next.enabled = account.enabled)
    (fun outcome operation next aside same =>
      ⟨(aside_answer outcome aside).1.trans same.1, (aside_answer outcome aside).2.trans same.2⟩)
    ⟨rfl, rfl⟩ env
  exact ⟨kept.1, .inl kept.2⟩

theorem loadMFAStatus_aside : loadMFAStatus.Only Aside := by
  refine ⟨trivial, fun reply => ?_⟩
  cases reply with
  | error err => trivial
  | ok settings =>
    refine ⟨trivial, fun reply => ?_⟩
    cases reply with
    | error err => trivial
    | ok totpFactors =>
      refine ⟨trivial, fun reply => ?_⟩
      cases reply with
      | error err => trivial
      | ok webAuthnFactors =>
        refine ⟨trivial, fun reply => ?_⟩
        cases reply <;> trivial

theorem issueLoginSession_aside (now : Int) (methods : List GoString) (mfaVerified : Bool)
    (label : String) : (issueLoginSession now methods mfaVerified label).Only Aside := by
  refine ⟨trivial, fun reply => ?_⟩
  cases reply <;> trivial

theorem requireRecentMFA_aside (session : RequestSession) : (requireRecentMFA session).Only Aside := by
  apply loadMFAStatus_aside.bind
  intro loaded
  cases loaded with
  | error err => trivial
  | ok status =>
    dsimp only
    split
    · trivial
    · split <;> trivial

theorem recoveryRegenerate_aside (session : Option RequestSession)
    (codeHashes : Except GoError (List GoString)) (now : Int) :
    (apiAuth2FARecoveryRegenerate session codeHashes now).Only Aside := by
  cases session with
  | none => trivial
  | some session =>
    apply (requireRecentMFA_aside session).bind
    intro turned
    cases turned with
    | some reply => trivial
    | none =>
      cases codeHashes with
      | error err => trivial
      | ok hashes =>
        refine ⟨trivial, fun reply => ?_⟩
        cases reply with
        | some err => trivial
        | none => exact ⟨trivial, fun _ => issueLoginSession_aside _ _ _ _⟩

theorem verifyRecovery_aside (session : Option RequestSession) (checked : Option Refusal)
    (hash : GoString) (now : Int) : (apiAuth2FAVerifyRecovery session checked hash now).Only Aside := by
  cases session with
  | none => trivial
  | some session =>
    cases checked with
    | some refusal => trivial
    | none =>
      refine ⟨trivial, fun reply => ?_⟩
      cases reply with
      | some err => trivial
      | none =>
        refine ⟨trivial, fun reply => ?_⟩
        cases reply with
        | some err => trivial
        | none => exact ⟨trivial, fun _ => trivial⟩

theorem loginRecovery_aside (checked : Option Refusal) (hash : GoString) (methods : List GoString)
    (now : Int) : (apiAuth2FALoginRecovery checked hash methods now).Only Aside := by
  cases checked with
  | some refusal => trivial
  | none =>
    refine ⟨trivial, fun reply => ?_⟩
    cases reply with
    | some err => trivial
    | none => exact ⟨trivial, fun _ => issueLoginSession_aside _ _ _ _⟩

theorem finishLogin_aside (amr : List GoString) (pending issuing : String) :
    (finishLogin amr pending issuing).Only Aside := by
  have asked : createPendingLogin.Only Aside := by
    apply loadMFAStatus_aside.bind
    intro loaded
    cases loaded with
    | error err => trivial
    | ok status =>
      dsimp only
      split
      · trivial
      · refine ⟨trivial, fun reply => ?_⟩
        cases reply <;> trivial
  apply asked.bind
  intro needed
  cases needed with
  | error err => trivial
  | ok methods =>
    cases methods with
    | some methods => trivial
    | none => exact issueLoginSession_aside _ _ _ _

def FirstFactor : MFARequest → Prop
  | .login | .loginSRP => True
  | _ => False

/-- A login is not answered with a session, and with a challenge if none of its operations
fails. -/
structure Challenged (env : Nat → Outcome GoError) (reply : MFAReply) : Prop where
  never : NoSession reply
  challenge : (∀ count, env count = .done) → ∃ methods, methods ≠ [] ∧ reply = .challenge methods

theorem methods_nonempty {account : Account} (some : account.hasFactor = true) (agrees : Agrees account) :
    mfaMethodsForStatus (statusOf account) ≠ [] := by
  have on : (statusOf account).settings.enabled = true :=
    statusOf_enabled.trans (agrees.trans some)
  have more := (hasFactor_iff .totp).mp some
  intro empty
  simp only [mfaMethodsForStatus, on, true_and, List.append_eq_nil_iff, ite_eq_right_iff,
    List.cons_ne_nil, imp_false] at empty
  have first : ¬(account.active .totp).length > 0 := empty.1.1
  have second : ¬(account.active .webauthn).length > 0 := empty.1.2
  simp only [FactorKind.other] at more
  omega

theorem finishLogin_challenged {account : Account} (some : account.hasFactor = true)
    (agrees : Agrees account) (amr : List GoString) (pending issuing : String)
    (env : Nat → Outcome GoError) :
    Challenged env ((finishLogin amr pending issuing).run answer env account).1 := by
  have methods := methods_nonempty some agrees
  unfold finishLogin createPendingLogin
  rw [Program.bind_assoc, Program.run_bind]
  rcases loadMFAStatus_run account env with ⟨err, same⟩ | ⟨same, count⟩
  · rw [same]
    refine ⟨internal_noSession _ _, fun all => ?_⟩
    have loaded := (loadMFAStatus_done account env fun count _ => all count).1
    exact absurd (congrArg Prod.fst (same.symm.trans loaded)) nofun
  · rw [same, count]
    dsimp only
    rw [if_neg fun none => methods (List.eq_nil_of_length_eq_zero none), Program.ask_bind, Program.run_ask]
    cases outcome : env (0 + 4) with
    | done =>
      refine ⟨nofun, fun _ => ⟨_, methods, rfl⟩⟩
    | refused err =>
      refine ⟨internal_noSession _ _, fun all => ?_⟩
      exact absurd ((all _).symm.trans outcome) nofun
    | lost err =>
      refine ⟨internal_noSession _ _, fun all => ?_⟩
      exact absurd ((all _).symm.trans outcome) nofun

theorem firstFactor_challenged {account : Account} (some : account.hasFactor = true)
    (agrees : Agrees account) {request : MFARequest} (first : FirstFactor request)
    (env : Nat → Outcome GoError) : Challenged env (request.program.run answer env account).1 := by
  cases request with
  | login => exact finishLogin_challenged some agrees _ _ _ env
  | loginSRP => exact finishLogin_challenged some agrees _ _ _ env
  | totpConfirm _ | webAuthnRegisterFinish _ | totpDelete _ | webAuthnDelete _
  | recoveryRegenerate _ _ _ | verifyRecovery _ _ _ _ | loginRecovery _ _ _ _ => exact first.elim

/-- What the operations of a deletion meet, from its fifth on: where it deletes the last
factor, none fails up to the write of the settings, which takes effect. The first four
load the status. -/
def LeavesSettled (account : Account) (kind : FactorKind) (deletion : Deletion)
    (env : Nat → Outcome GoError) : Prop :=
  ∀ id, deletion.id = some id → (∃ factor ∈ account.active kind, factor.id = id) →
    (account.active kind.other).length = 0 → (remaining account kind id).length = 0 →
      (env 4).applied = true → Reached (fun count => env (count + 4)) ∧ (env 11).applied = true

/-- What those of a request meet: the same where it adds the first factor. -/
def Settles (account : Account) (request : MFARequest) (env : Nat → Outcome GoError) : Prop :=
  match request with
  | .totpConfirm registration =>
    account.hasFactor = false → Enrols .totp registration fun count => env (count + 4)
  | .webAuthnRegisterFinish registration =>
    account.hasFactor = false → Enrols .webauthn registration fun count => env (count + 4)
  | .totpDelete deletion => LeavesSettled account .totp deletion env
  | .webAuthnDelete deletion => LeavesSettled account .webauthn deletion env
  | _ => True

theorem confirm_agrees {account : Account} {registration : Registration} {env : Nat → Outcome GoError}
    (before : Agrees account) (settles : Settles account (.totpConfirm registration) env) :
    Agrees ((apiAuth2FATOTPConfirm registration).run answer env account).2 := by
  rcases apiAuth2FATOTPConfirm_run account registration env with same | ⟨payload, same⟩
  · rw [same]
    exact before
  · rw [same]
    cases has : account.hasFactor with
    | true => exact (createTOTPFactor_ensures.run _).agrees has before
    | false =>
      have off : (statusOf account).settings.enabled = false :=
        statusOf_enabled.trans (before.trans has)
      exact createTOTPFactor_agrees off before (settles has)

theorem register_agrees {account : Account} {registration : Registration} {env : Nat → Outcome GoError}
    (before : Agrees account) (settles : Settles account (.webAuthnRegisterFinish registration) env) :
    Agrees ((apiAuth2FAWebAuthnRegisterFinish registration).run answer env account).2 := by
  rcases apiAuth2FAWebAuthnRegisterFinish_run account registration env with same | ⟨payload, same⟩
  · rw [same]
    exact before
  · rw [same]
    cases has : account.hasFactor with
    | true => exact (createWebAuthnCredential_ensures.run _).agrees has before
    | false =>
      have off : (statusOf account).settings.enabled = false :=
        statusOf_enabled.trans (before.trans has)
      exact createWebAuthnCredential_agrees off before (settles has)

theorem delete_agrees {account : Account} {kind : FactorKind} {deletion : Deletion}
    {env : Nat → Outcome GoError} (invalid missing revoking : String) (before : Agrees account)
    (settles : LeavesSettled account kind deletion env) :
    Agrees ((deleteFactor kind deletion invalid missing revoking).run answer env account).2 := by
  rcases deleteFactor_run env with ⟨same, _⟩ | ⟨session, id, _, parsed, same⟩
  · rw [same]
    exact before
  rw [same]
  cases applied : (env 4).applied with
  | false =>
    rw [revokeFactor_refused account kind deletion session id missing revoking
      (fun count => env (count + 4)) applied]
    exact before
  | true =>
    have ends := (revokeFactor_ensures account kind deletion session id missing revoking).run
      fun count => env (count + 4)
    rcases ends with ⟨kept, _⟩ | revoked
    · rw [kept]
      exact before
    · have has := revoked.before
      by_cases last : (account.active kind.other).length = 0 ∧ (remaining account kind id).length = 0
      · obtain ⟨reached, written⟩ := settles id parsed revoked.target last.1 last.2 applied
        exact revokeFactor_settled account kind deletion session id missing revoking revoked.target
          reached written
      · rcases revoked.settings with kept | agrees
        · have left := revoked.hasFactor_iff.mpr (by omega)
          exact (kept.trans before).trans (has.trans left.symm)
        · exact agrees

theorem program_agrees {account : Account} {request : MFARequest} {env : Nat → Outcome GoError}
    (before : Agrees account) (settles : Settles account request env) :
    Agrees (request.program.run answer env account).2 := by
  cases request with
  | totpConfirm registration => exact confirm_agrees before settles
  | webAuthnRegisterFinish registration => exact register_agrees before settles
  | totpDelete deletion => exact delete_agrees _ _ _ before settles
  | webAuthnDelete deletion => exact delete_agrees _ _ _ before settles
  | recoveryRegenerate session codeHashes now =>
    exact (steady_of_aside (recoveryRegenerate_aside _ _ _) account env).agrees before
  | verifyRecovery session checked hash now =>
    exact (steady_of_aside (verifyRecovery_aside _ _ _ _) account env).agrees before
  | loginRecovery checked hash methods now =>
    exact (steady_of_aside (loginRecovery_aside _ _ _ _) account env).agrees before
  | login => exact (steady_of_aside (finishLogin_aside _ _ _) account env).agrees before
  | loginSRP => exact (steady_of_aside (finishLogin_aside _ _ _) account env).agrees before

section Visits

variable {User : Type} [DecidableEq User]

def SettlesVisit (users : Users User) (visit : Visit User) : Prop :=
  Settles (users.accounts visit.user) visit.request visit.env

theorem serve_accounts (users : Users User) (visit : Visit User) :
    (users.serve visit).accounts = Function.update users.accounts visit.user
      (visit.request.program.run answer visit.env (users.accounts visit.user)).2 := rfl

/-- In every run whose requests are like that, the settings of every user say whether
there is a factor, and a login with a first factor is challenged where there is one. -/
theorem settings_agree {users : Users User} (runs : mfaServer.Runs SettlesVisit .start users)
    (user : User) :
    ((users.accounts user).enabled = true ↔ (users.accounts user).hasFactor = true) ∧
      ((users.accounts user).hasFactor = true → ∀ request, FirstFactor request →
        ∀ env, Challenged env (request.program.run answer env (users.accounts user)).1) := by
  have agrees : ∀ user, Agrees (users.accounts user) := by
    apply runs.invariant fun users => ∀ user, Agrees (users.accounts user)
    · intro user
      exact rfl
    · intro users visit next before settles taken user
      cases Option.some.inj taken
      by_cases same : user = visit.user
      · subst same
        rw [serve_accounts, Function.update_self]
        exact program_agrees (before _) settles
      · rw [serve_accounts, Function.update_of_ne same]
        exact before user
  refine ⟨by rw [agrees user], fun some request first env => ?_⟩
  exact firstFactor_challenged some (agrees user) first env

end Visits

def enrolled : List (Visit Unit) := visitsDone [.totpConfirm (passedRegistration 1)]

theorem settings_agree_enrolled :
    ((mfaServer.after enrolled .start).accounts ()).hasFactor = true ∧
      ∀ env, Challenged env (apiLogin.run answer env ((mfaServer.after enrolled .start).accounts ())).1 := by
  have has : ((mfaServer.after enrolled .start).accounts ()).hasFactor = true := by
    decide
  have permits : mfaServer.Permits SettlesVisit enrolled .start := by
    refine ⟨fun _ _ => ?_, trivial⟩
    exact ⟨rfl, fun _ => rfl, ⟨_, rfl⟩, rfl, rfl, rfl, rfl⟩
  exact ⟨has, (settings_agree (Machine.after_runs _ permits) ()).2 has .login trivial⟩

/-- The setup of a first factor whose pending state cannot be deleted. -/
def interrupted : List (Visit Unit) :=
  [⟨(), .totpConfirm (passedRegistration 1),
    fun count => if count = 5 then .refused (.plain (ascii "valkey")) else .done⟩]

/-- The factor is there, and a password is enough for a session. -/
theorem factor_without_settings :
    ¬∀ users : Users Unit, mfaServer.Runs (fun _ _ => True) .start users → ∀ user,
      ((users.accounts user).enabled = true ↔ (users.accounts user).hasFactor = true) ∧
        ((users.accounts user).hasFactor = true → ∀ request, FirstFactor request →
          ∀ env, Challenged env (request.program.run answer env (users.accounts user)).1) := by
  intro agree
  have permits : mfaServer.Permits (fun _ _ => True) interrupted .start :=
    Machine.permits_of_forall (fun _ _ => trivial) _ _
  have login := (agree _ (Machine.after_runs interrupted permits) ()).2 (by decide) .login
    trivial fun _ => .done
  have issued : (MFARequest.login.program.run answer (fun _ => .done)
      ((mfaServer.after interrupted .start).accounts ())).1 = .session ⟨[ascii "pwd"], 0⟩ := by
    decide
  exact login.never _ issued

end ElvishMail.Httpserver
