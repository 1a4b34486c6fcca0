import ElvishMail.Httpserver.Mfa

/-!
# Factors and recovery codes

What a deletion does to the rows of a user, whatever fails on the way, and where it
gets when nothing fails. It loads the status after it has revoked the factor, and so
takes the last but one factor of a kind for the last: it wipes the recovery codes and
drops the mark of the session while a factor is left.
-/

namespace ElvishMail.Httpserver

open Go Smtp Semantics Operation

section Rows

variable {account : Account} {kind : FactorKind}

@[simp] theorem setFactors_factors (rows : List Factor) :
    (account.setFactors kind rows).factors kind = rows := by cases kind <;> rfl

@[simp] theorem setFactors_factors_other (rows : List Factor) :
    (account.setFactors kind rows).factors kind.other = account.factors kind.other := by
  cases kind <;> rfl

@[simp] theorem setFactors_codes (rows : List Factor) :
    (account.setFactors kind rows).recoveryCodes = account.recoveryCodes := by cases kind <;> rfl

@[simp] theorem setFactors_settings (rows : List Factor) :
    (account.setFactors kind rows).settings = account.settings := by cases kind <;> rfl

theorem hasFactor_iff (kind : FactorKind) :
    account.hasFactor = true ↔
      0 < (account.active kind).length + (account.active kind.other).length := by
  cases kind with
  | totp => simp [Account.hasFactor, FactorKind.other]
  | webauthn =>
    simp [Account.hasFactor, FactorKind.other]
    omega

end Rows

section Parts

variable {account : Account}

def statusOf (account : Account) : MFAStatus where
  settings := account.settings.getD ⟨false, []⟩
  totpFactors := account.active .totp
  webAuthnFactors := account.active .webauthn
  recoveryRemaining := account.unused.length

theorem statusOf_factors (kind : FactorKind) : (statusOf account).factors kind = account.active kind := by
  cases kind <;> rfl

theorem statusOf_enabled : (statusOf account).settings.enabled = account.enabled := by
  unfold statusOf Account.enabled
  cases account.settings <;> rfl

theorem loadMFAStatus_run (account : Account) (env : Nat → Outcome GoError) :
    (∃ err, loadMFAStatus.run answer env account = (.error err, account)) ∨
      loadMFAStatus.run answer env account = (.ok (statusOf account), account) ∧
        loadMFAStatus.asked answer env account = 4 := by
  unfold loadMFAStatus
  simp only [Program.run, Program.asked, answer]
  rcases Outcome.read_cases (env 0) (account.settings.getD ⟨false, []⟩) with same | ⟨err, same⟩
  · rw [same]
    rcases Outcome.read_cases (env 1) (account.active .totp) with same | ⟨err, same⟩
    · simp only [Program.run, Program.asked, answer, Nat.zero_add]
      rw [same]
      rcases Outcome.read_cases (env 2) (account.active .webauthn) with same | ⟨err, same⟩
      · simp only [Program.run, Program.asked, answer, Nat.zero_add]
        rw [same]
        rcases Outcome.read_cases (env 3) account.unused.length with same | ⟨err, same⟩
        · simp only [Program.run, Program.asked, answer, Nat.zero_add]
          rw [same]
          exact .inr ⟨rfl, rfl⟩
        · simp only [Program.run, Program.asked, answer, Nat.zero_add]
          rw [same]
          exact .inl ⟨err, rfl⟩
      · simp only [Program.run, Program.asked, answer, Nat.zero_add]
        rw [same]
        exact .inl ⟨err, rfl⟩
    · simp only [Program.run, Program.asked, answer, Nat.zero_add]
      rw [same]
      exact .inl ⟨err, rfl⟩
  · rw [same]
    exact .inl ⟨err, rfl⟩

theorem loadMFAStatus_done (account : Account) (env : Nat → Outcome GoError)
    (reads : ∀ count < 4, env count = .done) :
    loadMFAStatus.run answer env account = (.ok (statusOf account), account) ∧
      loadMFAStatus.asked answer env account = 4 := by
  have first := reads 0 (by decide)
  have second := reads 1 (by decide)
  have third := reads 2 (by decide)
  have fourth := reads 3 (by decide)
  unfold loadMFAStatus
  simp only [Program.run, Program.asked, answer, first, second, third, fourth,
    Outcome.read_done, Nat.zero_add]
  exact ⟨rfl, trivial⟩

theorem loadMFAStatus_ensures {wanted : Except GoError MFAStatus → Account → Prop}
    (loaded : wanted (.ok (statusOf account)) account)
    (failed : ∀ err, wanted (.error err) account) :
    loadMFAStatus.Ensures answer account wanted := by
  apply Program.ensures_of_run
  intro env
  rcases loadMFAStatus_run account env with ⟨err, same⟩ | ⟨same, _⟩
  · rw [same]
    exact failed err
  · rw [same]
    exact loaded

def synced (account : Account) (preferred : GoString) : Account :=
  { account with settings := some ⟨account.hasFactor, trimSpace (trimSpace preferred)⟩ }

theorem synced_active (preferred : GoString) (kind : FactorKind) :
    (synced account preferred).active kind = account.active kind := by
  cases kind <;> rfl

theorem syncMFASettings_ensures {preferred : GoString} {wanted : Option GoError → Account → Prop}
    (done : wanted none (synced account preferred))
    (failed : ∀ err, wanted (some err) account ∧ wanted (some err) (synced account preferred)) :
    (syncMFASettings preferred).Ensures answer account wanted := by
  intro outcome
  rcases Outcome.read_cases outcome (account.active .totp).length with same | ⟨err, same⟩
  · rw [answer, same]
    intro outcome
    rcases Outcome.read_cases outcome (account.active .webauthn).length with same | ⟨err, same⟩
    · rw [answer, same]
      intro outcome
      cases outcome with
      | done => exact done
      | refused err => exact (failed err).1
      | lost err => exact (failed err).2
    · rw [answer, same]
      exact (failed err).1
  · rw [answer, same]
    exact (failed err).1

theorem syncMFASettings_run (account : Account) (preferred : GoString) (env : Nat → Outcome GoError)
    (first : env 0 = .done) (second : env 1 = .done) (written : (env 2).applied = true) :
    (syncMFASettings preferred).run answer env account =
        ((env 2).error?, synced account preferred) ∧
      (syncMFASettings preferred).asked answer env account = 3 := by
  unfold syncMFASettings
  simp only [Program.run, Program.asked, answer, first, second, Outcome.read_done, Nat.zero_add,
    Outcome.exec, written, if_true]
  exact ⟨rfl, trivial⟩

def NoSession (reply : MFAReply) : Prop := ∀ payload, reply ≠ .session payload

theorem internal_noSession (label : String) (err : GoError) : NoSession (internal label err) := by
  intro payload same
  cases same

theorem refused_noSession (refusal : Refusal) : NoSession (.refused refusal) := by
  intro payload same
  cases same

theorem requireRecentMFA_run (account : Account) (session : RequestSession) (env : Nat → Outcome GoError) :
    (∃ reply, NoSession reply ∧
        (requireRecentMFA session).run answer env account = (some reply, account)) ∨
      (requireRecentMFA session).run answer env account = (none, account) ∧
        (requireRecentMFA session).asked answer env account = 4 := by
  unfold requireRecentMFA
  rw [Program.run_bind, Program.asked_bind]
  rcases loadMFAStatus_run account env with ⟨err, same⟩ | ⟨same, count⟩
  · rw [same]
    exact .inl ⟨_, internal_noSession _ _, rfl⟩
  · rw [same, count]
    dsimp only
    split
    · exact .inr ⟨rfl, rfl⟩
    · split
      · exact .inl ⟨_, refused_noSession _, rfl⟩
      · exact .inr ⟨rfl, rfl⟩

theorem issueLoginSession_ensures {now : Int} {methods : List GoString} {mfaVerified : Bool}
    {label : String} {wanted : MFAReply → Account → Prop}
    (issued : wanted (.session ⟨methods, if mfaVerified then now else 0⟩) account)
    (failed : ∀ reply, NoSession reply → wanted reply account) :
    (issueLoginSession now methods mfaVerified label).Ensures answer account wanted := by
  intro outcome
  cases outcome with
  | done => exact issued
  | refused err => exact failed _ (internal_noSession _ _)
  | lost err => exact failed _ (internal_noSession _ _)

theorem issueLoginSession_state (now : Int) (methods : List GoString) (mfaVerified : Bool)
    (label : String) (env : Nat → Outcome GoError) :
    ((issueLoginSession now methods mfaVerified label).run answer env account).2 = account := by
  have kept : (issueLoginSession now methods mfaVerified label).Ensures answer account
      fun _ next => next = account :=
    issueLoginSession_ensures rfl fun _ _ => rfl
  exact kept.run env

end Parts

section Deleting

variable {account : Account} {kind : FactorKind}

def remaining (account : Account) (kind : FactorKind) (id : Nat) : List Factor :=
  (account.active kind).filter fun factor => factor.id ≠ id

theorem active_revoke (id : Nat) :
    (account.setFactors kind (revoke id (account.factors kind))).active kind =
      remaining account kind id := by
  rw [Account.active, setFactors_factors, remaining, Account.active, revoke]
  induction account.factors kind with
  | nil => rfl
  | cons factor rest ih =>
    rw [List.map_cons, List.filter_cons, List.filter_cons, ih]
    by_cases same : factor.id = id
    · cases factor.revoked <;> simp [same]
    · cases off : factor.revoked <;> simp [same, off]

theorem active_revoke_other (id : Nat) :
    (account.setFactors kind (revoke id (account.factors kind))).active kind.other =
      account.active kind.other := by
  rw [Account.active, setFactors_factors_other, Account.active]

/-- Whether deletions take the factors of a kind that are left for the end of the second
factor. -/
def Few (account : Account) (kind : FactorKind) (id : Nat) : Prop :=
  (account.active kind.other).length = 0 ∧ (remaining account kind id).length ≤ 1

structure Revoked (account : Account) (kind : FactorKind) (id : Nat) (now : Int)
    (payload : Payload) (reply : MFAReply) (next : Account) : Prop where
  target : ∃ factor ∈ account.active kind, factor.id = id
  same : next.active kind = remaining account kind id
  others : next.active kind.other = account.active kind.other
  codes : next.recoveryCodes = account.recoveryCodes ∨ Few account kind id ∧ next.recoveryCodes = []
  mark : ∀ issued, reply = .session issued → ¬Few account kind id →
    0 < payload.mfaVerifiedAt → issued.mfaVerifiedAt = now
  settings : next.enabled = account.enabled ∨ next.enabled = next.hasFactor

def withRevoked (account : Account) (kind : FactorKind) (id : Nat) : Account :=
  account.setFactors kind (revoke id (account.factors kind))

theorem withRevoked_absent {id : Nat} (absent : ¬∃ factor ∈ account.active kind, factor.id = id) :
    withRevoked account kind id = account := by
  have same : revoke id (account.factors kind) = account.factors kind := by
    rw [revoke]
    conv_rhs => rw [← List.map_id (account.factors kind)]
    apply List.map_congr_left
    intro factor member
    split
    next matched =>
      have off : factor.revoked = true := by
        by_contra on
        exact absent ⟨factor, List.mem_filter.mpr ⟨member, by simpa using on⟩, matched⟩
      cases factor
      cases off
      rfl
    next => rfl
  rw [withRevoked, same]
  cases kind <;> rfl

theorem any_active_iff {id : Nat} :
    ((account.active kind).any fun factor => decide (factor.id = id)) = true ↔
      ∃ factor ∈ account.active kind, factor.id = id := by
  simp

theorem revoked_stopped {id : Nat} {now : Int} {payload : Payload} {reply : MFAReply} {next : Account}
    (target : ∃ factor ∈ account.active kind, factor.id = id) (silent : NoSession reply)
    (left : next = withRevoked account kind id ∨
      ∃ preferred, next = synced (withRevoked account kind id) preferred) :
    Revoked account kind id now payload reply next := by
  have active : ∀ other, next.active other = (withRevoked account kind id).active other := by
    intro other
    rcases left with rfl | ⟨preferred, rfl⟩
    · rfl
    · exact synced_active preferred other
  refine
    { target
      same := ?_
      others := ?_
      codes := .inl ?_
      mark := fun issued same => absurd same (silent issued)
      settings := ?_ }
  · rw [active]
    exact active_revoke id
  · rw [active]
    exact active_revoke_other id
  · rcases left with rfl | ⟨preferred, rfl⟩
    · exact setFactors_codes _
    · exact setFactors_codes _
  · rcases left with rfl | ⟨preferred, rfl⟩
    · left
      rw [Account.enabled, withRevoked, setFactors_settings, Account.enabled]
    · right
      rfl

theorem revoked_finished {id : Nat} {now : Int} {payload : Payload} {reply : MFAReply} {next : Account}
    {preferred : GoString} {codes : List RecoveryCode}
    (target : ∃ factor ∈ account.active kind, factor.id = id)
    (left : next = { synced (withRevoked account kind id) preferred with recoveryCodes := codes })
    (kept : codes = account.recoveryCodes ∨ Few account kind id ∧ codes = [])
    (mark : ∀ issued, reply = .session issued → ¬Few account kind id →
      0 < payload.mfaVerifiedAt → issued.mfaVerifiedAt = now) :
    Revoked account kind id now payload reply next := by
  subst left
  refine
    { target
      same := ?_
      others := ?_
      codes := kept
      mark
      settings := .inr rfl }
  · exact (synced_active preferred kind).trans (active_revoke id)
  · exact (synced_active preferred kind.other).trans (active_revoke_other id)

theorem finishDeletion_ensures {deletion : Deletion} {session : RequestSession} {others same : Nat} :
    (finishDeletion deletion session others same).Ensures answer account
      fun reply next => ∃ codes, next = { account with recoveryCodes := codes } ∧
        (codes = account.recoveryCodes ∨ (others = 0 ∧ same ≤ 1) ∧ codes = []) ∧
        ∀ issued, reply = .session issued → ¬(others = 0 ∧ same ≤ 1) →
          0 < session.payload.mfaVerifiedAt → issued.mfaVerifiedAt = deletion.now := by
  unfold finishDeletion
  dsimp only
  split
  next few =>
    have unmarked {reply : MFAReply} : ∀ issued, reply = .session issued →
        ¬(others = 0 ∧ same ≤ 1) → 0 < session.payload.mfaVerifiedAt →
          issued.mfaVerifiedAt = deletion.now :=
      fun _ _ many => absurd few many
    intro outcome
    cases outcome with
    | refused err =>
      intro _
      apply issueLoginSession_ensures
      · exact ⟨_, rfl, .inl rfl, unmarked⟩
      · intro reply _
        exact ⟨_, rfl, .inl rfl, unmarked⟩
    | done | lost err =>
      intro _
      apply issueLoginSession_ensures
      · exact ⟨[], rfl, .inr ⟨few, rfl⟩, unmarked⟩
      · intro reply _
        exact ⟨[], rfl, .inr ⟨few, rfl⟩, unmarked⟩
  next many =>
    intro _
    apply issueLoginSession_ensures
    · refine ⟨_, rfl, .inl rfl, ?_⟩
      intro issued equal _ verified
      cases equal
      have more : others > 0 ∨ same > 1 := by omega
      simp [more, verified]
    · intro reply silent
      exact ⟨_, rfl, .inl rfl, fun issued same => absurd same (silent issued)⟩

theorem finishDeletion_wiped (deletion : Deletion) (session : RequestSession) {others same : Nat}
    {env : Nat → Outcome GoError} (few : others = 0 ∧ same ≤ 1) (wiped : (env 0).applied = true) :
    ((finishDeletion deletion session others same).run answer env account).2.recoveryCodes = [] := by
  unfold finishDeletion
  dsimp only
  rw [if_pos few, Program.run_ask, Program.run_ask, issueLoginSession_state]
  simp only [answer, Outcome.exec, wiped, if_true]
  rfl

theorem revoke_answer {id : Nat} (target : ∃ factor ∈ account.active kind, factor.id = id) :
    answer .done (.revokeFactor kind id) account = (none, withRevoked account kind id) := by
  rw [answer, update, any_active_iff.mpr target]
  rfl

section Written

variable (account kind) (deletion : Deletion) (session : RequestSession) (id : Nat)
  (missing revoking : String)

theorem revokeFactor_ensures :
    (revokeFactor kind deletion session id missing revoking).Ensures answer account
      fun reply next => next = account ∧ NoSession reply ∨
        Revoked account kind id deletion.now session.payload reply next := by
  intro outcome
  by_cases target : ∃ factor ∈ account.active kind, factor.id = id
  · cases outcome with
    | refused err => exact .inl ⟨rfl, internal_noSession _ _⟩
    | lost err => exact .inr (revoked_stopped target (internal_noSession _ _) (.inl rfl))
    | done =>
      rw [revoke_answer target]
      dsimp only
      rw [Program.ensures_bind]
      apply loadMFAStatus_ensures
      · dsimp only
        rw [statusOf_factors, statusOf_factors, withRevoked, active_revoke, active_revoke_other,
          ← withRevoked, Program.ensures_bind]
        apply syncMFASettings_ensures
        · apply finishDeletion_ensures.weaken
          rintro reply next ⟨codes, left, kept, mark⟩
          have unchanged := kept.imp_left fun same => same.trans (setFactors_codes _)
          exact .inr (revoked_finished target left unchanged mark)
        · intro err
          have stopped := internal_noSession "2fa settings" err
          exact ⟨.inr (revoked_stopped target stopped (.inl rfl)),
            .inr (revoked_stopped target stopped (.inr ⟨_, rfl⟩))⟩
      · intro err
        exact .inr (revoked_stopped target (internal_noSession _ _) (.inl rfl))
  · have nothing := withRevoked_absent target
    cases outcome with
    | refused err => exact .inl ⟨rfl, internal_noSession _ _⟩
    | lost err => exact .inl ⟨nothing, internal_noSession _ _⟩
    | done =>
      have replied : answer .done (.revokeFactor kind id) account = (some .notFound, account) := by
        rw [answer, update, Bool.eq_false_iff.mpr fun some => target (any_active_iff.mp some)]
        exact Prod.ext rfl nothing
      rw [replied]
      exact .inl ⟨rfl, refused_noSession _⟩

theorem revokeFactor_failed (env : Nat → Outcome GoError) (failed : env 0 ≠ .done) :
    NoSession ((revokeFactor kind deletion session id missing revoking).run answer env account).1 ∧
      ((revokeFactor kind deletion session id missing revoking).run answer env account).2.recoveryCodes =
        account.recoveryCodes := by
  rw [revokeFactor, Program.run_ask]
  cases outcome : env 0 with
  | done => exact absurd outcome failed
  | refused err => exact ⟨internal_noSession _ _, rfl⟩
  | lost err => exact ⟨internal_noSession _ _, setFactors_codes _⟩

theorem revokeFactor_refused (env : Nat → Outcome GoError) (refused : (env 0).applied = false) :
    ((revokeFactor kind deletion session id missing revoking).run answer env account).2 = account := by
  obtain ⟨err, outcome⟩ := Outcome.refused_of_applied_false refused
  rw [revokeFactor, Program.run_ask, outcome]
  rfl

/-- What has to be reported as done, from the write of the factor on, for a deletion to
reach its write of the settings. -/
def Reached (env : Nat → Outcome GoError) : Prop := ∀ count < 7, env count = .done

theorem revokeFactor_reached {env : Nat → Outcome GoError}
    (target : ∃ factor ∈ account.active kind, factor.id = id) (reached : Reached env)
    (written : (env 7).applied = true) :
    ∃ preferred, (revokeFactor kind deletion session id missing revoking).run answer env account =
      match (env 7).error? with
      | some err => (internal "2fa settings" err, synced (withRevoked account kind id) preferred)
      | none =>
        (finishDeletion deletion session (account.active kind.other).length
          (remaining account kind id).length).run answer (fun count => env (count + 8))
            (synced (withRevoked account kind id) preferred) := by
  have loaded := loadMFAStatus_done (withRevoked account kind id) (fun count => env (count + 1))
    fun count less => reached (count + 1) (by omega)
  unfold revokeFactor
  rw [Program.run_ask, reached 0 (by decide), revoke_answer target]
  dsimp only
  rw [Program.run_bind, loaded.1, loaded.2]
  dsimp only
  rw [statusOf_factors, statusOf_factors, withRevoked, active_revoke, active_revoke_other, ← withRevoked]
  generalize (if (account.active kind.other).length > 0 then kind.other.method else []) = preferred
  have settled := syncMFASettings_run (withRevoked account kind id) preferred
    (fun count => env (count + 4 + 1)) (reached 5 (by decide)) (reached 6 (by decide)) written
  rw [Program.run_bind, settled.1, settled.2]
  refine ⟨preferred, ?_⟩
  cases (env 7).error? <;> rfl

theorem revokeFactor_settled {env : Nat → Outcome GoError}
    (target : ∃ factor ∈ account.active kind, factor.id = id) (reached : Reached env)
    (written : (env 7).applied = true) :
    ((revokeFactor kind deletion session id missing revoking).run answer env account).2.enabled =
      ((revokeFactor kind deletion session id missing revoking).run answer env account).2.hasFactor := by
  obtain ⟨preferred, ends⟩ :=
    revokeFactor_reached account kind deletion session id missing revoking target reached written
  rw [ends]
  cases (env 7).error? with
  | some err => rfl
  | none =>
    dsimp only
    obtain ⟨codes, left, _⟩ := finishDeletion_ensures.run fun count => env (count + 8)
    rw [left]
    rfl

theorem revokeFactor_wiped {env : Nat → Outcome GoError}
    (target : ∃ factor ∈ account.active kind, factor.id = id) (few : Few account kind id)
    (reached : Reached env) (done : env 7 = .done) (wiped : (env 8).applied = true) :
    ((revokeFactor kind deletion session id missing revoking).run answer env account).2.recoveryCodes =
      [] := by
  have written : (env 7).applied = true := by rw [done]; rfl
  obtain ⟨preferred, ends⟩ :=
    revokeFactor_reached account kind deletion session id missing revoking target reached written
  rw [ends, done]
  exact finishDeletion_wiped deletion session few wiped

end Written

theorem deleteFactor_run {deletion : Deletion} {invalid missing revoking : String}
    (env : Nat → Outcome GoError) :
    ((deleteFactor kind deletion invalid missing revoking).run answer env account).2 = account ∧
        NoSession ((deleteFactor kind deletion invalid missing revoking).run answer env account).1 ∨
      ∃ session id, deletion.session = some session ∧ deletion.id = some id ∧
        (deleteFactor kind deletion invalid missing revoking).run answer env account =
          (revokeFactor kind deletion session id missing revoking).run answer
            (fun count => env (count + 4)) account := by
  unfold deleteFactor
  cases present : deletion.session with
  | none => exact .inl ⟨rfl, refused_noSession _⟩
  | some session =>
    dsimp only
    rw [Program.run_bind]
    rcases requireRecentMFA_run account session env with ⟨reply, silent, same⟩ | ⟨same, count⟩
    · rw [same]
      exact .inl ⟨rfl, silent⟩
    · rw [same, count]
      cases parsed : deletion.id with
      | none => exact .inl ⟨rfl, refused_noSession _⟩
      | some id => exact .inr ⟨session, id, rfl, rfl, rfl⟩

end Deleting

def MFARequest.deletion? : MFARequest → Option (FactorKind × Deletion)
  | totpDelete deletion => some (.totp, deletion)
  | webAuthnDelete deletion => some (.webauthn, deletion)
  | _ => none

structure DeletionRecord where
  session : Option RequestSession
  before : Account
  reply : MFAReply
  after : Account

structure Users (User : Type) where
  accounts : User → Account
  deletions : List DeletionRecord

/-- A request of a user, with the outcomes that its operations meet. -/
structure Visit (User : Type) where
  user : User
  request : MFARequest
  env : Nat → Outcome GoError

section Visits

variable {User : Type} [DecidableEq User]

def Users.start : Users User := ⟨fun _ => .fresh, []⟩

def Users.serve (users : Users User) (visit : Visit User) : Users User :=
  let before := users.accounts visit.user
  let (reply, after) := visit.request.program.run answer visit.env before
  { accounts := Function.update users.accounts visit.user after
    deletions :=
      match visit.request.deletion? with
      | some (_, deletion) => users.deletions ++ [⟨deletion.session, before, reply, after⟩]
      | none => users.deletions }

def mfaServer : Machine (Users User) (Visit User) where
  step := fun users visit => some (users.serve visit)

def DeletionRecord.Last (record : DeletionRecord) : Prop :=
  record.before.hasFactor = true ∧ record.after.hasFactor = false

/-- A deletion clears the unused codes if it removes the last factor, and only then; while
one remains, a session that was marked is marked after it. -/
structure DeletionRecord.Right (record : DeletionRecord) : Prop where
  cleared : record.Last → record.after.unused = []
  kept : ¬record.Last → record.after.unused = record.before.unused
  mark : record.after.hasFactor = true → ∀ session issued, record.session = some session →
    record.reply = .session issued → 0 < session.payload.mfaVerifiedAt → 0 < issued.mfaVerifiedAt

/-- A deletion that is reported to have revoked a factor did not leave just one of the
same kind, and one that removes the last factor reaches the write of the codes, which
takes effect. -/
def Spared (account : Account) (kind : FactorKind) (deletion : Deletion)
    (env : Nat → Outcome GoError) : Prop :=
  ∀ id, deletion.id = some id → (∃ factor ∈ account.active kind, factor.id = id) →
    (account.active kind.other).length = 0 →
      ((remaining account kind id).length = 1 → env 4 ≠ .done) ∧
      ((remaining account kind id).length = 0 → (env 4).applied = true →
        Reached (fun count => env (count + 4)) ∧ env 11 = .done ∧ (env 12).applied = true)

def SparedVisit (users : Users User) (visit : Visit User) : Prop :=
  ∀ kind deletion, visit.request.deletion? = some (kind, deletion) →
    Spared (users.accounts visit.user) kind deletion visit.env

end Visits

theorem Revoked.hasFactor_iff {account next : Account} {kind : FactorKind} {id : Nat} {now : Int}
    {payload : Payload} {reply : MFAReply}
    (revoked : Revoked account kind id now payload reply next) :
    next.hasFactor = true ↔
      0 < (remaining account kind id).length + (account.active kind.other).length := by
  rw [Httpserver.hasFactor_iff kind, revoked.same, revoked.others]

theorem Revoked.before {account next : Account} {kind : FactorKind} {id : Nat} {now : Int}
    {payload : Payload} {reply : MFAReply}
    (revoked : Revoked account kind id now payload reply next) : account.hasFactor = true := by
  obtain ⟨factor, member, _⟩ := revoked.target
  have some := List.length_pos_of_mem member
  rw [Httpserver.hasFactor_iff kind]
  omega

theorem right_unchanged {session : Option RequestSession} {account : Account} {reply : MFAReply}
    (silent : NoSession reply) : DeletionRecord.Right ⟨session, account, reply, account⟩ where
  cleared := by
    rintro ⟨some, none⟩
    exact absurd (some.symm.trans none) nofun
  kept := fun _ => rfl
  mark := fun _ _ issued _ same => absurd same (silent issued)

theorem right_left {session : RequestSession} {account next : Account} {reply : MFAReply}
    (left : next.hasFactor = true) (codes : next.recoveryCodes = account.recoveryCodes)
    (mark : ∀ issued, reply = .session issued → 0 < session.payload.mfaVerifiedAt →
      0 < issued.mfaVerifiedAt) :
    DeletionRecord.Right ⟨some session, account, reply, next⟩ where
  cleared := by
    rintro ⟨_, none⟩
    exact absurd (left.symm.trans none) nofun
  kept := by
    intro _
    rw [Account.unused, codes, Account.unused]
  mark := by
    intro _ other issued same
    cases same
    exact mark issued

theorem right_last {session : Option RequestSession} {account next : Account} {reply : MFAReply}
    (before : account.hasFactor = true) (none : next.hasFactor = false)
    (codes : next.recoveryCodes = []) : DeletionRecord.Right ⟨session, account, reply, next⟩ where
  cleared := by
    intro _
    rw [Account.unused, codes]
    rfl
  kept := fun more => absurd ⟨before, none⟩ more
  mark := by
    intro left
    exact absurd (left.symm.trans none) nofun

theorem revokeFactor_right {account : Account} {kind : FactorKind} {deletion : Deletion}
    {env : Nat → Outcome GoError} (session : RequestSession) {id : Nat} (missing revoking : String)
    (present : deletion.session = some session) (parsed : deletion.id = some id)
    (spared : Spared account kind deletion env) :
    DeletionRecord.Right ⟨deletion.session, account,
      ((revokeFactor kind deletion session id missing revoking).run answer
        (fun count => env (count + 4)) account).1,
      ((revokeFactor kind deletion session id missing revoking).run answer
        (fun count => env (count + 4)) account).2⟩ := by
  have ends := (revokeFactor_ensures account kind deletion session id missing revoking).run
    fun count => env (count + 4)
  have failed := revokeFactor_failed account kind deletion session id missing revoking
    fun count => env (count + 4)
  generalize ran : (revokeFactor kind deletion session id missing revoking).run answer
    (fun count => env (count + 4)) account = outcome at ends failed ⊢
  obtain ⟨reply, next⟩ := outcome
  rcases ends with ⟨rfl, silent⟩ | revoked
  · exact right_unchanged silent
  · have after := revoked.hasFactor_iff
    rw [present]
    by_cases few : Few account kind id
    · have others := few.1
      have same := few.2
      obtain ⟨one, none⟩ := spared id parsed revoked.target others
      by_cases gone : (remaining account kind id).length = 0
      · have lost : next.hasFactor = false := by
          rw [Bool.eq_false_iff, ne_eq, after]
          omega
        have applied : (env 4).applied = true := by
          by_contra refused
          have kept := revokeFactor_refused account kind deletion session id missing revoking
            (fun count => env (count + 4)) (Bool.eq_false_iff.mpr refused)
          rw [ran] at kept
          cases kept
          exact absurd (lost.symm.trans revoked.before) nofun
        obtain ⟨reached, done, wiped⟩ := none gone applied
        have empty := revokeFactor_wiped account kind deletion session id missing revoking
          revoked.target few reached done wiped
        rw [ran] at empty
        exact right_last revoked.before lost empty
      · have left : next.hasFactor = true := by
          rw [after]
          omega
        obtain ⟨silent, codes⟩ := failed (one (by omega))
        exact right_left left codes fun issued same => absurd same (silent issued)
    · have left : next.hasFactor = true := by
        rw [after]
        unfold Few at few
        omega
      have codes := revoked.codes.resolve_right fun wiped => few wiped.1
      apply right_left left codes
      intro issued same marked
      rw [revoked.mark issued same few marked]
      exact deletion.now_pos

theorem deleteFactor_right {account : Account} {kind : FactorKind} {deletion : Deletion}
    {env : Nat → Outcome GoError} (invalid missing revoking : String)
    (spared : Spared account kind deletion env) :
    DeletionRecord.Right ⟨deletion.session, account,
      ((deleteFactor kind deletion invalid missing revoking).run answer env account).1,
      ((deleteFactor kind deletion invalid missing revoking).run answer env account).2⟩ := by
  rcases deleteFactor_run env with ⟨same, silent⟩ | ⟨session, id, present, parsed, same⟩
  · rw [same]
    exact right_unchanged silent
  · rw [same]
    exact revokeFactor_right session missing revoking present parsed spared

section Visits

variable {User : Type} [DecidableEq User]

theorem serve_right {users : Users User} {visit : Visit User} (spared : SparedVisit users visit)
    (right : ∀ record ∈ users.deletions, record.Right) :
    ∀ record ∈ (users.serve visit).deletions, record.Right := by
  obtain ⟨user, request, env⟩ := visit
  intro record logged
  cases request with
  | totpDelete deletion =>
    rcases List.mem_append.mp logged with earlier | now
    · exact right record earlier
    · cases List.mem_singleton.mp now
      exact deleteFactor_right _ _ _ (spared .totp deletion rfl)
  | webAuthnDelete deletion =>
    rcases List.mem_append.mp logged with earlier | now
    · exact right record earlier
    · cases List.mem_singleton.mp now
      exact deleteFactor_right _ _ _ (spared .webauthn deletion rfl)
  | totpConfirm _ | webAuthnRegisterFinish _ | recoveryRegenerate _ _ _ | verifyRecovery _ _ _ _
  | loginRecovery _ _ _ _ | login | loginSRP => exact right record logged

/-- In every run whose deletions are like that, each of them clears the codes exactly when
it removes the last factor, and keeps the mark while one remains. -/
theorem deletions_right {users : Users User} (runs : mfaServer.Runs SparedVisit .start users) :
    ∀ record ∈ users.deletions, record.Right := by
  apply runs.invariant fun users => ∀ record ∈ users.deletions, record.Right
  · exact nofun
  · intro users visit next right spared taken
    cases Option.some.inj taken
    exact serve_right spared right

end Visits

def passedRegistration (id : Nat) : Registration :=
  ⟨some ⟨⟨[ascii "pwd"], 5⟩, true⟩, none, none, id, .ok [ascii "code"], 7⟩

def provedDeletion (id : Nat) : Deletion :=
  ⟨some ⟨⟨[ascii "pwd", ascii "totp"], 7⟩, true⟩, some id, 9, by decide⟩

def visitsDone (requests : List MFARequest) : List (Visit Unit) :=
  requests.map fun request => ⟨(), request, fun _ => .done⟩

theorem spared_done {account : Account} {kind : FactorKind} {deletion : Deletion}
    (more : ∀ id, deletion.id = some id →
      ¬((account.active kind.other).length = 0 ∧ (remaining account kind id).length = 1)) :
    Spared account kind deletion fun _ => .done := by
  intro id parsed _ others
  refine ⟨fun one => absurd ⟨others, one⟩ (more id parsed), fun _ _ => ⟨?_, rfl, rfl⟩⟩
  exact fun _ _ => rfl

def bothKinds : List (Visit Unit) :=
  visitsDone [.totpConfirm (passedRegistration 1), .webAuthnRegisterFinish (passedRegistration 2),
    .totpDelete (provedDeletion 1), .webAuthnDelete (provedDeletion 2)]

theorem deletions_right_both_kinds :
    (mfaServer.after bothKinds Users.start).deletions.length = 2 ∧
      ∀ record ∈ (mfaServer.after bothKinds Users.start).deletions, record.Right := by
  refine ⟨by decide, ?_⟩
  apply deletions_right
  apply Machine.after_runs
  refine ⟨nofun, nofun, ?_, ?_, trivial⟩
  · rintro kind deletion ⟨⟩
    apply spared_done
    rintro id ⟨⟩
    decide
  · rintro kind deletion ⟨⟩
    apply spared_done
    rintro id ⟨⟩
    decide

def oneOfTwo : List (Visit Unit) :=
  visitsDone [.totpConfirm (passedRegistration 1), .totpConfirm (passedRegistration 2),
    .totpDelete (provedDeletion 1)]

/-- The codes are wiped by then, though a factor is left. -/
theorem codes_wiped_early :
    ¬∀ users : Users Unit, mfaServer.Runs (fun _ _ => True) .start users →
      ∀ record ∈ users.deletions, record.Right := by
  intro right
  have permits : mfaServer.Permits (fun _ _ => True) oneOfTwo .start :=
    Machine.permits_of_forall (fun _ _ => trivial) _ _
  have wiped : ∃ record ∈ (mfaServer.after oneOfTwo .start).deletions,
      record.after.hasFactor = true ∧ record.after.unused ≠ record.before.unused := by
    decide
  obtain ⟨record, logged, left, changed⟩ := wiped
  have kept := (right _ (Machine.after_runs oneOfTwo permits) record logged).kept
  apply changed
  apply kept
  rintro ⟨_, none⟩
  exact absurd (left.symm.trans none) nofun

end ElvishMail.Httpserver
