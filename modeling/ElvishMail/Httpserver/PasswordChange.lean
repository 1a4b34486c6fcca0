import ElvishMail.Httpserver.SingleUse

/-!
# Changing a password

`apiAuthPasswordSRPFinish` writes the wrapped account key and the verifier by one statement
each. `password_change_atomic`: a request leaves one without the other exactly when the
first takes effect and the second does not, and where that never happens and no two changes
of a user overlap between these statements, every user keeps a key that opens with the
password he logs in with.
-/

namespace ElvishMail.Httpserver.Auth

open Go Smtp Mailmeta Pake Semantics

def UserAuth.record (row : UserAuth) : SRPRecord :=
  ⟨row.srpSalt, row.srpVerifier, row.srpGroup, row.srpHash⟩

/-- The data as `UpdateUserSRP` stores it. -/
def SRPRecord.stored (record : SRPRecord) : SRPRecord :=
  { record with group := trimSpace record.group, hash := trimSpace record.hash }

def AuthStore.passwordData (store : AuthStore) (userID : Nat) : Option AccountKeyWrap × Option SRPRecord :=
  (store.accountKeys userID, (store.user userID).map UserAuth.record)

section Data

variable {store after : AuthStore} {userID other : Nat} {wrap : AccountKeyWrap} {record : SRPRecord}

theorem user_withSRP :
    (store.withSRP userID record).user other =
      if other = userID then (store.user other).map (·.withSRP record) else store.user other := by
  have same (row : UserAuth) :
      (if row.userID = userID then row.withSRP record else row).userID = row.userID := by
    split <;> rfl
  have found : (store.withSRP userID record).user other =
      (store.user other).map fun row => if row.userID = userID then row.withSRP record else row := by
    simp only [AuthStore.user, AuthStore.withSRP, List.find?_map]
    congr 2
    funext row
    simp [Function.comp, same row]
  rw [found]
  cases looked : store.user other with
  | none => simp
  | some row =>
    have named : row.userID = other := by simpa using List.find?_some looked
    rw [Option.map_some, named]
    split <;> rfl

@[simp] theorem passwordData_withSRP (present : (store.user userID).isSome = true) :
    (store.withSRP userID record).passwordData userID = (store.accountKeys userID, some record.stored) := by
  obtain ⟨row, found⟩ := Option.isSome_iff_exists.mp present
  have written : (store.withSRP userID record).user userID = some (row.withSRP record) := by
    rw [user_withSRP, if_pos rfl, found, Option.map_some]
  rw [AuthStore.passwordData, written]
  rfl

theorem passwordData_withSRP_other (different : other ≠ userID) :
    (store.withSRP userID record).passwordData other = store.passwordData other := by
  rw [AuthStore.passwordData, user_withSRP, if_neg different]
  rfl

@[simp] theorem passwordData_withWrap :
    (store.withWrap userID wrap).passwordData userID =
      (some wrap, (store.user userID).map UserAuth.record) :=
  Prod.ext (Function.update_self ..) rfl

theorem passwordData_withWrap_other (different : other ≠ userID) :
    (store.withWrap userID wrap).passwordData other = store.passwordData other :=
  Prod.ext (Function.update_of_ne different ..) rfl

theorem decode_nonempty {body : PasswordChange} (decoded : body.decode = .ok (wrap, record)) :
    record.salt ≠ [] ∧ record.verifier ≠ [] := by
  unfold PasswordChange.decode at decoded
  split at decoded
  · cases decoded
  split at decoded
  · cases decoded
  split at decoded
  · cases decoded
  split at decoded
  · cases decoded
  next salt saltDecoded =>
  split at decoded
  · cases decoded
  next verifier verifierDecoded =>
  split at decoded
  · cases decoded
  cases decoded
  unfold decodeB64Field at saltDecoded verifierDecoded
  exact ⟨by simpa using (Option.mem_filter_iff.mp saltDecoded).2,
    by simpa using (Option.mem_filter_iff.mp verifierDecoded).2⟩

end Data

/-- How each command of a request ends. No request sends a command twice. -/
abbrev Fate : Type := Command → Outcome GoError

def runAlone (index : Nat) (fate : Fate) (program : Commands) (store : AuthStore) :
    AuthReply × AuthStore :=
  program.run (fun (_ : Unit) command store => command.answer index (fate command) store)
    (fun _ => ()) store

section Alone

variable (site : AuthSite) (fate : Fate) (store : AuthStore)

/-- The challenge that a request finds under an id, if it is for a purpose and in time. -/
def offered (id purpose : GoString) : Option SRPChallenge :=
  let kept :=
    if site.hasSessions then
      if trimSpace id = [] ∨ (fate (.getDel (trimSpace id))).fails then none
      else (store.ephemeral (trimSpace id)).or (store.authChallenges id)
    else store.authChallenges id
  (kept.map Kept.challenge).filter fun challenge =>
    challenge.purpose = purpose ∧ store.clock - challenge.createdAt ≤ srpChallengeTTL

/-- Afterwards both are those of the old password, or both are those of the new one. -/
def Atomic (after : AuthStore) (userID : Nat) (body : PasswordChange) : Prop :=
  after.passwordData userID = store.passwordData userID ∨
    ∃ wrap record, body.decode = .ok (wrap, record) ∧
      after.passwordData userID = (some wrap, some record.stored)

/-- A request that gets as far as the account key changes it, and then not the verifier. -/
structure Torn (gate : Option Refusal) (userID : Nat) (body : PasswordChange) (wrap : AccountKeyWrap)
    (record : SRPRecord) : Prop where
  admitted : gate = none
  accepted : ∃ challenge,
    offered site fate store (trimSpace body.proof.sessionID) (ascii "password-change") = some challenge ∧
      challenge.userID = some userID ∧ body.proof.proves challenge = true
  decoded : body.decode = .ok (wrap, record)
  key : ∃ old, store.accountKeys userID = some old ∧ old ≠ wrap
  verifier : (store.user userID).map UserAuth.record ≠ some record.stored
  written : (fate (.updateAccountKey userID wrap)).applied = true
  unwritten : (fate (.updateAccountKey userID wrap)).fails = true ∨ store.user userID = none ∨
    (fate (.updateUserSRP userID record)).applied = false

variable {site fate store} {index : Nat} {gate : Option Refusal} {userID : Nat} {body : PasswordChange}
  {wrap : AccountKeyWrap} {record : SRPRecord} {next : Option SRPChallenge → Commands}

def SameAccounts (store after : AuthStore) : Prop :=
  after.users = store.users ∧ after.accountKeys = store.accountKeys

theorem SameAccounts.passwordData {after : AuthStore} (same : SameAccounts store after) (userID : Nat) :
    after.passwordData userID = store.passwordData userID := by
  rw [AuthStore.passwordData, AuthStore.user, same.1, same.2]
  rfl

theorem checkTaken_alone {purpose : GoString} (named : purpose ≠ []) (challenge : SRPChallenge) :
    runAlone index fate (checkTaken purpose challenge next) store =
      runAlone index fate (next (some challenge |>.filter fun challenge =>
        challenge.purpose = purpose ∧ store.clock - challenge.createdAt ≤ srpChallengeTTL)) store := by
  unfold checkTaken
  by_cases same : challenge.purpose = purpose
  · rw [if_neg (fun wrong => wrong.2 same)]
    show runAlone index fate (if store.clock - challenge.createdAt > srpChallengeTTL then next none
      else next (some challenge)) store = _
    by_cases late : store.clock - challenge.createdAt > srpChallengeTTL
    · rw [if_pos late]
      simp [Option.filter, Int.not_le.mpr late]
    · rw [if_neg late]
      simp [Option.filter, same, Int.not_lt.mp late]
  · rw [if_pos ⟨named, same⟩]
    simp [Option.filter, same]

theorem takeLocal_alone {id purpose : GoString} (named : purpose ≠ []) :
    ∃ after, SameAccounts store after ∧ after.clock = store.clock ∧
      runAlone index fate (takeLocalChallenge id purpose next) store =
        runAlone index fate (next (((store.authChallenges id).map Kept.challenge).filter
          fun challenge => challenge.purpose = purpose ∧
            store.clock - challenge.createdAt ≤ srpChallengeTTL)) after := by
  refine ⟨{ store with authChallenges := Function.update store.authChallenges id none },
    ⟨rfl, rfl⟩, rfl, ?_⟩
  cases found : store.authChallenges id with
  | none =>
    rw [takeLocalChallenge, runAlone, Program.run_ask]
    simp only [Command.answer, found]
    rfl
  | some kept =>
    rw [takeLocalChallenge, runAlone, Program.run_ask]
    simp only [Command.answer, found]
    exact checkTaken_alone named kept.challenge

theorem take_alone {label : String} {id purpose : GoString} (named : purpose ≠ []) :
    ∃ after, SameAccounts store after ∧
      (runAlone index fate (takeSRPChallenge site label id purpose next) store =
          runAlone index fate (next (offered site fate store id purpose)) after ∨
        offered site fate store id purpose = none ∧ ∃ err,
          runAlone index fate (takeSRPChallenge site label id purpose next) store =
            runAlone index fate (fault label err) after) := by
  unfold takeSRPChallenge offered
  cases site.hasSessions with
  | false =>
    obtain ⟨after, same, -, ran⟩ := @takeLocal_alone fate store index next id purpose named
    exact ⟨after, same, .inl ran⟩
  | true =>
    by_cases blank : trimSpace id = []
    · exact ⟨store, ⟨rfl, rfl⟩, .inr ⟨by simp [blank], errEphemeralID, by simp [blank]⟩⟩
    · simp only [if_true, blank, if_false, false_or]
      cases failed : (fate (.getDel (trimSpace id))).error? with
      | some err =>
        have fails : (fate (.getDel (trimSpace id))).fails = true := by
          rw [Outcome.fails, failed]
          rfl
        refine ⟨(Command.answer index (fate (.getDel (trimSpace id))) (.getDel (trimSpace id)) store).2,
          ?_, .inr ⟨by simp [fails], err, ?_⟩⟩
        · simp only [Command.answer]
          split <;> exact ⟨rfl, rfl⟩
        · rw [runAlone, Program.run_ask]
          have told : (Command.answer index (fate (.getDel (trimSpace id))) (.getDel (trimSpace id))
              store).1 = .error err := by
            simp [Command.answer, Outcome.read, failed]
          rw [told]
          rfl
      | none =>
        have fails : (fate (.getDel (trimSpace id))).fails = false := by
          rw [Outcome.fails, failed]
          rfl
        have told : (Command.answer index (fate (.getDel (trimSpace id))) (.getDel (trimSpace id))
            store).1 = .ok ((store.ephemeral (trimSpace id)).map Kept.challenge) := by
          simp [Command.answer, Outcome.read, failed]
        have without : (Command.answer index (fate (.getDel (trimSpace id)))
            (.getDel (trimSpace id)) store).2 =
            { store with ephemeral := Function.update store.ephemeral (trimSpace id) none } := by
          simp [Command.answer, Outcome.applied_of_error?_none failed]
        simp only [fails, Bool.false_eq_true, if_false]
        rw [runAlone, Program.run_ask, told, without]
        cases found : store.ephemeral (trimSpace id) with
        | none =>
          obtain ⟨after, same, -, ran⟩ := @takeLocal_alone fate
            { store with ephemeral := Function.update store.ephemeral (trimSpace id) none }
            index next id purpose named
          exact ⟨after, same, .inl ran⟩
        | some kept =>
          exact ⟨{ store with ephemeral := Function.update store.ephemeral (trimSpace id) none },
            ⟨rfl, rfl⟩, .inl (checkTaken_alone named kept.challenge)⟩

theorem runAlone_ask (command : Command) (following : command.Answer → Commands) :
    runAlone index fate (.ask command following) store =
      runAlone index fate (following (command.answer index (fate command) store).1)
        (command.answer index (fate command) store).2 := rfl

theorem update_store (outcome : Outcome GoError) (present : Bool) (write : AuthStore → AuthStore) :
    (Command.update outcome present write store).2 =
      if present = true ∧ outcome.applied = true then write store else store := by
  unfold Command.update
  cases present with
  | false => simp
  | true => simp [Outcome.exec]

theorem update_reply (outcome : Outcome GoError) (present : Bool) (write : AuthStore → AuthStore) :
    (Command.update outcome present write store).1 = none ↔ present = true ∧ outcome.error? = none := by
  unfold Command.update
  cases present with
  | false => simp
  | true => simp [Outcome.exec]

theorem updateUserSRP_data (nonempty : record.salt ≠ [] ∧ record.verifier ≠ [])
    {following : Option GoError → Commands} (ends : ∀ err, ∃ reply, following err = .done reply) :
    (runAlone index fate (updateUserSRP userID record following) store).2.passwordData userID =
      if store.user userID = none ∨ (fate (.updateUserSRP userID record)).applied = false then
        store.passwordData userID
      else (store.accountKeys userID, some record.stored) := by
  rw [updateUserSRP, if_neg (not_or.mpr nonempty), runAlone_ask]
  obtain ⟨reply, ended⟩ := ends
    (((Command.updateUserSRP userID record).answer index (fate (.updateUserSRP userID record)) store).1.map
      errorOf)
  rw [ended, runAlone, Program.run_done]
  show (Command.update _ _ _ store).2.passwordData userID = _
  rw [update_store]
  cases found : store.user userID with
  | none => simp
  | some row =>
    have present : (store.user userID).isSome = true := by rw [found]; rfl
    cases (fate (.updateUserSRP userID record)).applied with
    | false => simp
    | true => simpa using passwordData_withSRP present

theorem storePassword_data (nonempty : record.salt ≠ [] ∧ record.verifier ≠ []) (serverProof : GoString) :
    (runAlone index fate (storePassword userID wrap record serverProof) store).2.passwordData userID =
      if (store.accountKeys userID).isSome = true ∧ (fate (.updateAccountKey userID wrap)).applied = true then
        if (fate (.updateAccountKey userID wrap)).fails = true ∨ store.user userID = none ∨
            (fate (.updateUserSRP userID record)).applied = false then
          (some wrap, (store.user userID).map UserAuth.record)
        else (some wrap, some record.stored)
      else store.passwordData userID := by
  have effect : ((Command.updateAccountKey userID wrap).answer index
      (fate (.updateAccountKey userID wrap)) store).2 = _ :=
    update_store (fate (.updateAccountKey userID wrap)) (store.accountKeys userID).isSome
      (·.withWrap userID wrap)
  have reported := @update_reply store (fate (.updateAccountKey userID wrap))
    (store.accountKeys userID).isSome (·.withWrap userID wrap)
  rw [storePassword, runAlone_ask, effect]
  cases told : ((Command.updateAccountKey userID wrap).answer index
      (fate (.updateAccountKey userID wrap)) store).1 with
  | some err =>
    -- reported as failed, the first statement is the last
    have stopped : (if (store.accountKeys userID).isSome = true ∧
          (fate (.updateAccountKey userID wrap)).applied = true then store.withWrap userID wrap
        else store).passwordData userID =
        if (store.accountKeys userID).isSome = true ∧
            (fate (.updateAccountKey userID wrap)).applied = true then
          if (fate (.updateAccountKey userID wrap)).fails = true ∨ store.user userID = none ∨
              (fate (.updateUserSRP userID record)).applied = false then
            (some wrap, (store.user userID).map UserAuth.record)
          else (some wrap, some record.stored)
        else store.passwordData userID := by
      split
      next written =>
        have fails : (fate (.updateAccountKey userID wrap)).fails = true := by
          by_contra done
          have done : (fate (.updateAccountKey userID wrap)).error? = none := by
            simpa [Outcome.fails] using done
          cases told.symm.trans (reported.mpr ⟨written.1, done⟩)
        rw [if_pos (.inl fails)]
        exact passwordData_withWrap
      · rfl
    cases err with
    | notFound => exact stopped
    | failed err => exact stopped
  | none =>
    obtain ⟨present, done⟩ := reported.mp told
    have written := Outcome.applied_of_error?_none done
    have fails : (fate (.updateAccountKey userID wrap)).fails = false := by
      rw [Outcome.fails, done]
      rfl
    rw [if_pos ⟨present, written⟩, if_pos ⟨present, written⟩]
    refine (updateUserSRP_data nonempty fun err => ?_).trans ?_
    · cases err with
      | some err => exact ⟨_, rfl⟩
      | none => exact ⟨_, rfl⟩
    · have key : (store.withWrap userID wrap).accountKeys userID = some wrap :=
        Function.update_self ..
      simp only [fails, Bool.false_eq_true, false_or, key, passwordData_withWrap]
      rfl

theorem verify_alone {label purpose : String} (named : ascii purpose ≠ []) {proof : FinishBody}
    {following : SRPChallenge → Commands} :
    ∃ after, SameAccounts store after ∧
      ((∃ challenge, offered site fate store (trimSpace proof.sessionID) (ascii purpose) =
            some challenge ∧ challenge.userID = some userID ∧ proof.proves challenge = true ∧
          runAlone index fate (verifySRP site label purpose userID proof following) store =
            runAlone index fate (following challenge) after) ∨
        (¬∃ challenge, offered site fate store (trimSpace proof.sessionID) (ascii purpose) =
            some challenge ∧ challenge.userID = some userID ∧ proof.proves challenge = true) ∧
          (runAlone index fate (verifySRP site label purpose userID proof following) store).2 = after) := by
  obtain ⟨next, taken, missing, given⟩ : ∃ next : Option SRPChallenge → Commands,
      verifySRP site label purpose userID proof following =
        takeSRPChallenge site label (trimSpace proof.sessionID) (ascii purpose) next ∧
      next none = refuse 401 "invalid credentials" ∧
      ∀ challenge, next (some challenge) =
        if challenge.userID ≠ some userID then refuse 401 "invalid credentials"
        else if proof.proves challenge = false then refuse 401 "invalid credentials"
        else following challenge := ⟨_, rfl, rfl, fun _ => rfl⟩
  rw [taken]
  obtain ⟨after, same, ran | ⟨nothing, err, ran⟩⟩ := @take_alone site fate store index next label _ _ named
  · refine ⟨after, same, ?_⟩
    cases found : offered site fate store (trimSpace proof.sessionID) (ascii purpose) with
    | none =>
      rw [found, missing] at ran
      exact .inr ⟨by simp, congrArg Prod.snd ran⟩
    | some challenge =>
      rw [found, given] at ran
      by_cases own : challenge.userID = some userID
      · rw [if_neg (not_not.mpr own)] at ran
        cases proved : proof.proves challenge with
        | false =>
          rw [if_pos proved] at ran
          refine .inr ⟨?_, congrArg Prod.snd ran⟩
          rintro ⟨_, ⟨⟩, -, proves⟩
          cases proved.symm.trans proves
        | true =>
          rw [if_neg (by simp [proved])] at ran
          exact .inl ⟨challenge, rfl, own, proved, ran⟩
      · rw [if_pos own] at ran
        refine .inr ⟨?_, congrArg Prod.snd ran⟩
        rintro ⟨_, ⟨⟩, named, -⟩
        exact own named
  · refine ⟨after, same, .inr ⟨?_, congrArg Prod.snd ran⟩⟩
    rintro ⟨challenge, found, -⟩
    cases nothing.symm.trans found

theorem stored_atomic_iff {after : AuthStore} (decoded : body.decode = .ok (wrap, record))
    (stored : after.passwordData userID =
      if (store.accountKeys userID).isSome = true ∧ (fate (.updateAccountKey userID wrap)).applied = true then
        if (fate (.updateAccountKey userID wrap)).fails = true ∨ store.user userID = none ∨
            (fate (.updateUserSRP userID record)).applied = false then
          (some wrap, (store.user userID).map UserAuth.record)
        else (some wrap, some record.stored)
      else store.passwordData userID) :
    Atomic store after userID body ↔
      ¬((∃ old, store.accountKeys userID = some old ∧ old ≠ wrap) ∧
        (store.user userID).map UserAuth.record ≠ some record.stored ∧
        (fate (.updateAccountKey userID wrap)).applied = true ∧
        ((fate (.updateAccountKey userID wrap)).fails = true ∨ store.user userID = none ∨
          (fate (.updateUserSRP userID record)).applied = false)) := by
  unfold Atomic
  rw [stored]
  by_cases written : (store.accountKeys userID).isSome = true ∧
      (fate (.updateAccountKey userID wrap)).applied = true
  · rw [if_pos written]
    obtain ⟨old, held⟩ := Option.isSome_iff_exists.mp written.1
    split
    next unwritten =>
      constructor
      · rintro (kept | ⟨_, _, again, new⟩) ⟨⟨other, same, differs⟩, verifier, -⟩
        · have key : some wrap = some old := (congrArg Prod.fst kept).trans held
          cases held.symm.trans same
          exact differs (Option.some.inj key).symm
        · cases decoded.symm.trans again
          exact verifier (congrArg Prod.snd new)
      · intro whole
        by_cases key : old = wrap
        · exact .inl (Prod.ext ((congrArg some key.symm).trans held.symm) rfl)
        · by_cases verifier : (store.user userID).map UserAuth.record = some record.stored
          · exact .inr ⟨wrap, record, decoded, Prod.ext rfl verifier⟩
          · exact absurd ⟨⟨old, held, key⟩, verifier, written.2, unwritten⟩ whole
    next done =>
      refine iff_of_true (.inr ⟨wrap, record, decoded, rfl⟩) ?_
      rintro ⟨-, -, -, unwritten⟩
      exact done unwritten
  · rw [if_neg written]
    refine iff_of_true (.inl rfl) ?_
    rintro ⟨⟨old, held, -⟩, -, applied, -⟩
    exact written ⟨by rw [held]; rfl, applied⟩

theorem finish_atomic_iff :
    Atomic store (runAlone index fate (apiAuthPasswordSRPFinish site gate userID body) store).2
      userID body ↔ ¬∃ wrap record, Torn site fate store gate userID body wrap record := by
  cases gate with
  | some refusal =>
    refine iff_of_true (.inl rfl) ?_
    rintro ⟨wrap, record, torn⟩
    cases torn.admitted
  | none =>
    obtain ⟨following, shape, refused, stores⟩ : ∃ following : SRPChallenge → Commands,
        apiAuthPasswordSRPFinish site none userID body =
          verifySRP site "password srp challenge load" "password-change" userID body.proof following ∧
        (∀ text, body.decode = .error text → ∀ challenge,
          following challenge = .done (.refused (.status 400 text))) ∧
        ∀ wrap record, body.decode = .ok (wrap, record) → ∀ challenge,
          following challenge = storePassword userID wrap record challenge.serverProof := by
      refine ⟨_, rfl, ?_, ?_⟩
      · intro text decoded challenge
        simp only [decoded]
      · intro wrap record decoded challenge
        simp only [decoded]
    rw [shape]
    obtain ⟨after, same, ⟨challenge, found, own, proves, ran⟩ | ⟨nothing, unchanged⟩⟩ :=
      @verify_alone site fate store index userID "password srp challenge load" "password-change"
        (by decide) body.proof following
    · rw [ran]
      cases decoded : body.decode with
      | error text =>
        rw [refused text decoded challenge]
        refine iff_of_true (.inl (same.passwordData userID)) ?_
        rintro ⟨wrap, record, torn⟩
        cases decoded.symm.trans torn.decoded
      | ok pair =>
        obtain ⟨wrap, record⟩ := pair
        rw [stores wrap record decoded challenge]
        have stored := @storePassword_data fate after index userID wrap record
          (decode_nonempty decoded) challenge.serverProof
        have rows : after.user userID = store.user userID := by
          rw [AuthStore.user, same.1]
          rfl
        rw [same.passwordData, same.2, rows] at stored
        rw [stored_atomic_iff decoded stored]
        refine not_congr ⟨?_, ?_⟩
        · rintro ⟨key, verifier, written, unwritten⟩
          exact ⟨wrap, record, rfl, ⟨challenge, found, own, proves⟩, decoded, key, verifier,
            written, unwritten⟩
        · rintro ⟨other, another, torn⟩
          cases decoded.symm.trans torn.decoded
          exact ⟨torn.key, torn.verifier, torn.written, torn.unwritten⟩
    · rw [unchanged]
      refine iff_of_true (.inl (same.passwordData userID)) ?_
      rintro ⟨wrap, record, torn⟩
      exact nothing torn.accepted

end Alone

def Commands.pending : Commands → Option (Nat × SRPRecord)
  | .ask (.updateUserSRP userID record) _ => some (userID, record)
  | _ => none

def AuthServer.pending (server : AuthServer) (index : Nat) : Option (Nat × SRPRecord) :=
  (server.threads index).bind fun thread => Commands.pending thread.program

def AuthServer.Quiet (server : AuthServer) (userID : Nat) : Prop :=
  ∀ index record, server.pending index ≠ some (userID, record)

section Runs

variable (fits : Nat → AccountKeyWrap → SRPRecord → Prop)

/-- The wrapped key of a user opens with the password he logs in with. -/
def Paired (store : AuthStore) (userID : Nat) : Prop :=
  ∀ wrap record, store.passwordData userID = (some wrap, some record) → fits userID wrap record

/-- The first statement of a change is not lost, and comes when no other change of the user
is between its statements; the second takes effect. -/
def WholeCommand (server : AuthServer) (outcome : Outcome GoError) : Command → Prop
  | .updateAccountKey userID _ => (outcome = .done ∨ outcome.applied = false) ∧ server.Quiet userID
  | .updateUserSRP userID _ => outcome.applied = true ∧ (server.store.user userID).isSome = true
  | _ => True

/-- A browser sends a key and a verifier of one password. Other requests leave the data of a
user alone, or leave them those of one password and no change is under way. -/
def WholeEvent (server : AuthServer) : Event → Prop
  | .begin _ (.passwordFinish _ userID body) =>
    ∀ wrap record, body.decode = .ok (wrap, record) → fits userID wrap record.stored
  | .advance index outcome =>
    ∀ thread command, server.threads index = some thread → thread.program.query? = some command →
      WholeCommand server outcome command
  | .accounts users accountKeys =>
    let after := { server.store with users, accountKeys }
    ∀ userID, after.passwordData userID = server.store.passwordData userID ∨
      server.Quiet userID ∧ Paired fits after userID
  | _ => True

structure Whole (server : AuthServer) : Prop where
  changing : ∀ index userID record, server.pending index = some (userID, record) →
    ∃ wrap, server.store.accountKeys userID = some wrap ∧ fits userID wrap record.stored
  one : ∀ index other userID record another, server.pending index = some (userID, record) →
    server.pending other = some (userID, another) → index = other
  paired : ∀ userID, server.Quiet userID → Paired fits server.store userID

/-! ### What requests do next -/

/-- How a request goes on after a command: only after the account key with the verifier. -/
def Continues : (command : Command) → (command.Answer → Commands) → Prop
  | .updateAccountKey userID wrap, next =>
    (∀ err, Commands.pending (next (some err)) = none) ∧
      ∃ record, Commands.pending (next none) = some (userID, record) ∧ fits userID wrap record.stored
  | _, next => ∀ reply, Commands.pending (next reply) = none

def PairsUp : Commands → Prop
  | .done _ => True
  | .ask command next => Continues fits command next ∧ ∀ reply, PairsUp (next reply)

/-- A program that pairs up and is not about to store a verifier. -/
def Calm (program : Commands) : Prop := PairsUp fits program ∧ Commands.pending program = none

def Command.Plain : Command → Prop
  | .updateAccountKey .. | .updateUserSRP .. => False
  | _ => True

variable {fits} {site : AuthSite}

theorem calm_done (reply : AuthReply) : Calm fits (.done reply) := ⟨trivial, rfl⟩

theorem calm_ask {command : Command} {next : command.Answer → Commands} (plain : command.Plain)
    (onward : ∀ reply, Calm fits (next reply)) : Calm fits (.ask command next) := by
  have later : ∀ reply, PairsUp fits (next reply) := fun reply => (onward reply).1
  have quiet : ∀ reply, Commands.pending (next reply) = none := fun reply => (onward reply).2
  cases command with
  | updateAccountKey => exact plain.elim
  | updateUserSRP => exact plain.elim
  | _ => exact ⟨⟨quiet, later⟩, rfl⟩

theorem issue_calm {label : String} {id : GoString} {challenge : SRPChallenge} :
    Calm fits (issueSRPChallenge site label id challenge) := by
  refine calm_ask trivial fun createdAt => ?_
  dsimp only
  split
  · split
    · exact calm_done _
    · refine calm_ask trivial fun reply => ?_
      cases reply <;> exact calm_done _
  · refine calm_ask trivial fun reply => ?_
    exact calm_done _

theorem checkTaken_calm {purpose : GoString} {challenge : SRPChallenge}
    {next : Option SRPChallenge → Commands} (onward : ∀ found, Calm fits (next found)) :
    Calm fits (checkTaken purpose challenge next) := by
  unfold checkTaken
  split
  · exact onward none
  · refine calm_ask trivial fun now => ?_
    split <;> exact onward _

theorem take_calm {label : String} {id purpose : GoString} {next : Option SRPChallenge → Commands}
    (onward : ∀ found, Calm fits (next found)) :
    Calm fits (takeSRPChallenge site label id purpose next) := by
  have locally : Calm fits (takeLocalChallenge id purpose next) := by
    refine calm_ask trivial fun reply => ?_
    cases reply with
    | none => exact onward none
    | some challenge => exact checkTaken_calm onward
  unfold takeSRPChallenge
  split
  · split
    · exact calm_done _
    · refine calm_ask trivial fun reply => ?_
      cases reply with
      | error err => exact calm_done _
      | ok found =>
        cases found with
        | none => exact locally
        | some challenge => exact checkTaken_calm onward
  · exact locally

theorem verify_calm {label purpose : String} {userID : Nat} {body : FinishBody}
    {next : SRPChallenge → Commands} (onward : ∀ challenge, Calm fits (next challenge)) :
    Calm fits (verifySRP site label purpose userID body next) := by
  apply take_calm
  intro found
  cases found with
  | none => exact calm_done _
  | some challenge =>
    dsimp only
    split
    · exact calm_done _
    split
    · exact calm_done _
    · exact onward challenge

theorem beginSRP_calm {purpose loading storing : String} {draws : Draws} {gate : Option Refusal}
    {userID : Nat} {clientPublicB64 : GoString} :
    Calm fits (beginSRP site purpose loading storing draws gate userID clientPublicB64) := by
  unfold beginSRP
  split
  · exact calm_done _
  split
  · exact calm_done _
  refine calm_ask trivial fun reply => ?_
  cases reply with
  | error err => exact calm_done _
  | ok fresh =>
    dsimp only
    split
    · exact calm_done _
    split
    · exact calm_done _
    · exact issue_calm

theorem loginBegin_calm {draws : Draws} {gate : Option Refusal} {body : LoginBegin} :
    Calm fits (apiLoginSRPBegin site draws gate body) := by
  have issued (username clientPublic : GoString) (authUser : Option UserAuth) (reg : Pake.Registration) :
      Calm fits (issueLogin site draws username clientPublic authUser reg) := by
    unfold issueLogin
    split
    · exact calm_done _
    split
    · exact calm_done _
    · exact issue_calm
  unfold apiLoginSRPBegin
  split
  · exact calm_done _
  split
  · exact calm_done _
  next username _ =>
  split
  · exact calm_done _
  next clientPublic _ =>
  refine calm_ask trivial fun reply => ?_
  cases reply with
  | error err =>
    cases err with
    | notFound =>
      dsimp only
      split
      · exact calm_done _
      · exact issued ..
    | failed err => exact calm_done _
  | ok row =>
    dsimp only
    split
    · split
      · exact calm_done _
      · exact issued ..
    split
    · exact issued ..
    · split
      · exact calm_done _
      · exact issued ..

theorem loginFinish_calm {gate : Option Refusal} {body : FinishBody} :
    Calm fits (apiLoginSRPFinish site gate body) := by
  unfold apiLoginSRPFinish
  split
  · exact calm_done _
  split
  · exact calm_done _
  refine take_calm fun found => ?_
  cases found with
  | none => exact calm_done _
  | some challenge =>
    dsimp only
    split
    · exact calm_done _
    split
    · exact calm_done _
    refine calm_ask trivial fun reply => ?_
    cases reply <;> exact calm_done _

theorem storePassword_calm {userID : Nat} {wrap : AccountKeyWrap} {record : SRPRecord}
    {serverProof : GoString} (nonempty : record.salt ≠ [] ∧ record.verifier ≠ [])
    (fit : fits userID wrap record.stored) :
    Calm fits (storePassword userID wrap record serverProof) := by
  have stated : ¬(record.salt = [] ∨ record.verifier = []) := not_or.mpr nonempty
  refine ⟨⟨⟨?_, record, ?_, fit⟩, ?_⟩, rfl⟩
  · intro err
    cases err <;> rfl
  · dsimp only
    rw [updateUserSRP, if_neg stated]
    rfl
  · intro reply
    cases reply with
    | some err => cases err <;> trivial
    | none =>
      dsimp only
      rw [updateUserSRP, if_neg stated]
      refine ⟨fun reply => ?_, fun reply => ?_⟩
      · cases reply <;> rfl
      · cases reply <;> trivial

theorem program_calm {request : Request}
    (fit : ∀ gate userID body, request = .passwordFinish gate userID body →
      ∀ wrap record, body.decode = .ok (wrap, record) → fits userID wrap record.stored) :
    Calm fits (request.program site) := by
  cases request with
  | loginBegin draws gate body => exact loginBegin_calm
  | passwordBegin draws gate userID clientPublicB64 => exact beginSRP_calm
  | deleteBegin draws gate userID clientPublicB64 => exact beginSRP_calm
  | loginFinish gate body => exact loginFinish_calm
  | passwordFinish gate userID body =>
    show Calm fits (apiAuthPasswordSRPFinish site gate userID body)
    unfold apiAuthPasswordSRPFinish
    split
    · exact calm_done _
    refine verify_calm fun challenge => ?_
    cases decoded : body.decode with
    | error text => exact calm_done _
    | ok pair =>
      exact storePassword_calm (decode_nonempty decoded) (fit _ _ _ rfl _ _ decoded)
  | deleteFinish gate userID confirmation body =>
    show Calm fits (decodeVerifiedAccountDeleteAction site gate userID confirmation body)
    unfold decodeVerifiedAccountDeleteAction
    split
    · exact calm_done _
    split
    · exact calm_done _
    · exact verify_calm fun challenge => calm_done _

/-! ### Steps -/

section Steps

variable {server next : AuthServer} {index : Nat} {thread : Thread} {outcome : Outcome GoError}
  {command : Command} {following : command.Answer → Commands} {userID : Nat}

theorem pending_execute (other : Nat) :
    (server.execute index thread outcome command following).pending other =
      if other = index then
        Commands.pending (following (command.answer index outcome server.store).1)
      else server.pending other := by
  by_cases same : other = index
  · rw [if_pos same, same, AuthServer.pending, execute_self]
    rfl
  · rw [if_neg same, AuthServer.pending, execute_other same]
    rfl

theorem pending_asking (present : server.threads index = some thread)
    (asking : thread.program = .ask command following) :
    server.pending index = Commands.pending (.ask command following) := by
  rw [AuthServer.pending, present, Option.bind_some, asking]

theorem Whole.keep (whole : Whole fits server) (pending : ∀ other, next.pending other = server.pending other)
    (data : ∀ userID, next.store.passwordData userID = server.store.passwordData userID ∨
      server.Quiet userID ∧ Paired fits next.store userID) : Whole fits next where
  changing other userID record changes := by
    rw [pending] at changes
    rcases data userID with same | ⟨quiet, -⟩
    · obtain ⟨wrap, held, fit⟩ := whole.changing other userID record changes
      exact ⟨wrap, (congrArg Prod.fst same).trans held, fit⟩
    · exact absurd changes (quiet other record)
  one other another userID record second changes also := by
    rw [pending] at changes also
    exact whole.one other another userID record second changes also
  paired userID quiet := by
    have before : server.Quiet userID := fun other record => by
      rw [← pending]
      exact quiet other record
    rcases data userID with same | ⟨-, paired⟩
    · intro wrap record held
      exact whole.paired userID before wrap record (same.symm.trans held)
    · exact paired

theorem Whole.plain (whole : Whole fits server) (present : server.threads index = some thread)
    (asking : thread.program = .ask command following) (plain : command.Plain)
    (continues : Continues fits command following) :
    Whole fits (server.execute index thread outcome command following) := by
  have idle : server.pending index = none := by
    rw [pending_asking present asking]
    cases command with
    | updateUserSRP => exact plain.elim
    | _ => rfl
  have accounts : SameAccounts server.store (command.answer index outcome server.store).2 := by
    cases command with
    | updateAccountKey => exact plain.elim
    | updateUserSRP => exact plain.elim
    | set id challenge =>
      simp only [Command.answer, Outcome.exec]
      split <;> exact ⟨rfl, rfl⟩
    | getDel id =>
      simp only [Command.answer]
      split <;> exact ⟨rfl, rfl⟩
    | _ => exact ⟨rfl, rfl⟩
  have after : Commands.pending (following (command.answer index outcome server.store).1) = none := by
    cases command with
    | updateAccountKey => exact plain.elim
    | updateUserSRP => exact plain.elim
    | _ => exact continues _
  refine whole.keep (fun other => ?_) fun userID => .inl (accounts.passwordData userID)
  rw [pending_execute]
  split
  next same => rw [same, after, idle]
  · rfl

theorem Whole.first (whole : Whole fits server) {wrap : AccountKeyWrap}
    {following : Option StoreError → Commands} (present : server.threads index = some thread)
    (asking : thread.program = .ask (.updateAccountKey userID wrap) following)
    (continues : Continues fits (.updateAccountKey userID wrap) following)
    (kept : outcome = .done ∨ outcome.applied = false) (quiet : server.Quiet userID) :
    Whole fits (server.execute index thread outcome (.updateAccountKey userID wrap) following) := by
  have idle : server.pending index = none := pending_asking present asking
  obtain ⟨failed, record, started, fit⟩ := continues
  have effect : ((Command.updateAccountKey userID wrap).answer index outcome server.store).2 = _ :=
    update_store outcome (server.store.accountKeys userID).isSome (·.withWrap userID wrap)
  have reported := @update_reply server.store outcome
    (server.store.accountKeys userID).isSome (·.withWrap userID wrap)
  have store : (server.execute index thread outcome (.updateAccountKey userID wrap) following).store =
      _ := effect
  cases told : ((Command.updateAccountKey userID wrap).answer index outcome server.store).1 with
  | some err =>
    have nothing : ¬((server.store.accountKeys userID).isSome = true ∧ outcome.applied = true) := by
      rintro ⟨held, applied⟩
      rcases kept with rfl | refused
      · cases told.symm.trans (reported.mpr ⟨held, rfl⟩)
      · cases refused.symm.trans applied
    rw [if_neg nothing] at store
    refine whole.keep (fun other => ?_) fun other => .inl (by rw [store])
    rw [pending_execute, told]
    split
    next same => rw [same, failed err, idle]
    · rfl
  | none =>
    obtain ⟨held, done⟩ := reported.mp told
    rw [if_pos ⟨held, Outcome.applied_of_error?_none done⟩] at store
    have pending (other : Nat) : (server.execute index thread outcome
        (.updateAccountKey userID wrap) following).pending other =
          if other = index then some (userID, record) else server.pending other := by
      rw [pending_execute, told, started]
    refine ⟨?_, ?_, ?_⟩
    · intro other user another changes
      rw [pending] at changes
      rw [store]
      split at changes
      · cases changes
        exact ⟨wrap, Function.update_self .., fit⟩
      · obtain ⟨old, there, opens⟩ := whole.changing other user another changes
        have different : user ≠ userID := by
          rintro rfl
          exact quiet other another changes
        exact ⟨old, (Function.update_of_ne different ..).trans there, opens⟩
    · intro other further user another second changes also
      rw [pending] at changes also
      split at changes
      next here =>
        cases changes
        split at also
        next there => exact here.trans there.symm
        · exact absurd also (quiet further second)
      · split at also
        · cases also
          exact absurd changes (quiet other another)
        · exact whole.one other further user another second changes also
    · intro user quietAfter
      have different : user ≠ userID := by
        rintro rfl
        exact quietAfter index record (by rw [pending, if_pos rfl])
      have before : server.Quiet user := by
        intro other another changes
        refine quietAfter other another ?_
        rw [pending, if_neg, changes]
        rintro rfl
        cases idle.symm.trans changes
      rw [Paired, store, passwordData_withWrap_other different]
      exact whole.paired user before

theorem Whole.second (whole : Whole fits server) {record : SRPRecord}
    {following : Option StoreError → Commands} (present : server.threads index = some thread)
    (asking : thread.program = .ask (.updateUserSRP userID record) following)
    (continues : Continues fits (.updateUserSRP userID record) following)
    (applied : outcome.applied = true) (listed : (server.store.user userID).isSome = true) :
    Whole fits (server.execute index thread outcome (.updateUserSRP userID record) following) := by
  have busy : server.pending index = some (userID, record) := pending_asking present asking
  obtain ⟨wrap, held, fit⟩ := whole.changing index userID record busy
  have effect : ((Command.updateUserSRP userID record).answer index outcome server.store).2 = _ :=
    update_store outcome (server.store.user userID).isSome (·.withSRP userID record)
  have store : (server.execute index thread outcome (.updateUserSRP userID record) following).store =
      _ := effect
  rw [if_pos ⟨listed, applied⟩] at store
  have pending (other : Nat) : (server.execute index thread outcome
      (.updateUserSRP userID record) following).pending other =
        if other = index then none else server.pending other := by
    rw [pending_execute, continues]
  refine ⟨?_, ?_, ?_⟩
  · intro other user another changes
    rw [pending] at changes
    split at changes
    · cases changes
    · rw [store]
      exact whole.changing other user another changes
  · intro other further user another second changes also
    rw [pending] at changes also
    split at changes
    · cases changes
    split at also
    · cases also
    · exact whole.one other further user another second changes also
  · intro user quietAfter
    by_cases same : user = userID
    · subst same
      rw [Paired, store, passwordData_withSRP listed, held]
      rintro _ _ ⟨⟩
      exact fit
    · have before : server.Quiet user := by
        intro other another changes
        refine quietAfter other another ?_
        rw [pending, if_neg, changes]
        rintro rfl
        cases busy.symm.trans changes
        exact same rfl
      rw [Paired, store, passwordData_withSRP_other same]
      exact whole.paired user before

end Steps

def AllPairUp (fits : Nat → AccountKeyWrap → SRPRecord → Prop) (server : AuthServer) : Prop :=
  ∀ index thread, server.threads index = some thread → PairsUp fits thread.program

theorem Whole.step {server next : AuthServer} {event : Event} (whole : Whole fits server)
    (pairs : AllPairUp fits server) (may : WholeEvent fits server event)
    (taken : server.step site event = some next) : Whole fits next ∧ AllPairUp fits next := by
  cases event with
  | begin index request =>
    simp only [AuthServer.step] at taken
    split at taken
    next idle =>
      cases taken
      have idle : server.threads index = none := by simpa using idle
      have calm : Calm fits (request.program site) := by
        apply program_calm
        rintro gate userID body rfl
        exact may
      refine ⟨whole.keep (fun other => ?_) fun userID => .inl rfl, ?_⟩
      · by_cases same : other = index
        · subst same
          simp only [AuthServer.pending, Function.update_self, idle]
          exact calm.2
        · simp only [AuthServer.pending, Function.update_of_ne same]
      · intro other thread found
        dsimp only at found
        by_cases same : other = index
        · subst same
          rw [Function.update_self] at found
          cases found
          exact calm.1
        · rw [Function.update_of_ne same] at found
          exact pairs other thread found
    · cases taken
  | advance index outcome =>
    simp only [AuthServer.step] at taken
    split at taken
    · cases taken
    next thread present =>
    split at taken
    · cases taken
    next command following asking =>
      cases taken
      have pair := pairs index thread present
      rw [asking] at pair
      have may : WholeCommand server outcome command := may thread command present (by rw [asking]; rfl)
      refine ⟨?_, ?_⟩
      · cases command with
        | updateAccountKey userID wrap => exact whole.first present asking pair.1 may.1 may.2
        | updateUserSRP userID record => exact whole.second present asking pair.1 may.1 may.2
        | _ => exact whole.plain present asking trivial pair.1
      · intro other thread' found
        by_cases same : other = index
        · subst same
          rw [execute_self] at found
          cases found
          exact pair.2 _
        · rw [execute_other same] at found
          exact pairs other thread' found
  | lapse id =>
    cases taken
    exact ⟨whole.keep (fun _ => rfl) fun userID => .inl rfl, pairs⟩
  | lose id =>
    cases taken
    exact ⟨whole.keep (fun _ => rfl) fun userID => .inl rfl, pairs⟩
  | tick clock =>
    cases taken
    exact ⟨whole.keep (fun _ => rfl) fun userID => .inl rfl, pairs⟩
  | accounts users accountKeys =>
    cases taken
    exact ⟨whole.keep (fun _ => rfl) may, pairs⟩

end Runs

/-- A request alone leaves the data of one password unless it is torn. Where no change is
torn and none overlaps another of its user, every key opens with the password that its user
logs in with. -/
theorem password_change_atomic (site : AuthSite) :
    (∀ index fate store gate userID body,
      Atomic store (runAlone index fate (apiAuthPasswordSRPFinish site gate userID body) store).2
        userID body ↔ ¬∃ wrap record, Torn site fate store gate userID body wrap record) ∧
    ∀ fits users accountKeys server,
      (∀ userID, Paired fits (AuthServer.start users accountKeys).store userID) →
      (authServer site).Runs (WholeEvent fits) (.start users accountKeys) server →
      ∀ userID, server.Quiet userID → Paired fits server.store userID := by
  refine ⟨fun _ _ _ _ _ _ => finish_atomic_iff, ?_⟩
  intro fits users accountKeys server paired runs
  have start : Whole fits (.start users accountKeys) := by
    refine ⟨?_, ?_, fun userID _ => paired userID⟩
    · rintro _ _ _ ⟨⟩
    · rintro _ _ _ _ _ ⟨⟩
  have both : Whole fits server ∧ AllPairUp fits server :=
    runs.invariant (fun server => Whole fits server ∧ AllPairUp fits server)
      ⟨start, by rintro _ _ ⟨⟩⟩ fun both may taken => both.1.step both.2 may taken
  exact both.1.paired

def sampleChange : PasswordChange where
  proof := ⟨ascii "first", base64Encode (unitHash.sum [])⟩
  newSRPSaltB64 := base64Encode [2]
  newSRPVerifierB64 := base64Encode [3]
  newSRPGroup := []
  newSRPHash := []
  wrappedSecretB64 := base64Encode [9]
  kdf := ascii "argon2id"
  kdfSaltB64 := base64Encode [8]
  kdfParamsJSON := ascii "{}"

def oldWrap : AccountKeyWrap := ⟨[1], ascii "argon2id", [1], ascii "{}"⟩

def sampleStore : AuthStore where
  ephemeral := Function.update (fun _ => none) (ascii "first")
    (some ⟨0, ⟨ascii "password-change", some 7, unitHash.sum [], [], 0, false⟩⟩)
  authChallenges _ := none
  users := [alice]
  accountKeys := Function.update (fun _ => none) 7 (some oldWrap)
  clock := 0

def newWrap : AccountKeyWrap := ⟨[9], ascii "argon2id", [8], ascii "{}"⟩

def sampleFits (_ : Nat) (wrap : AccountKeyWrap) (record : SRPRecord) : Prop :=
  (wrap, record) ∈ [(oldWrap, alice.record), (newWrap, ⟨[2], [3], [], []⟩)]

theorem sampleChange_decode : sampleChange.decode = .ok (newWrap, ⟨[2], [3], [], []⟩) := by
  decide

/-- The user begins to change her password, and her proof is accepted. -/
def changing : List Event :=
  [.begin 0 (.passwordBegin ⟨some unitScalar, .ok [], ascii "first"⟩ none 7 (base64Encode [2])),
    .advance 0 .done, .advance 0 .done, .advance 0 .done,
    .begin 1 (.passwordFinish none 7 sampleChange), .advance 1 .done, .advance 1 .done]

instance : DecidablePred Command.Plain
  | .updateAccountKey .. | .updateUserSRP .. => .isFalse id
  | .now | .set .. | .getDel .. | .storeLocal .. | .takeLocal .. | .userAuthByEmail .. | .userByID .. =>
    .isTrue trivial

theorem wholeEvent_plain {fits : Nat → AccountKeyWrap → SRPRecord → Prop} {server : AuthServer}
    {index : Nat} {outcome : Outcome GoError}
    (plain : ((server.threads index).bind fun thread => thread.program.query?).all
      (decide <| Command.Plain ·) = true) : WholeEvent fits server (.advance index outcome) := by
  intro thread command present asked
  rw [present, Option.bind_some, asked] at plain
  have plain : command.Plain := by simpa using plain
  cases command with
  | updateAccountKey => exact plain.elim
  | updateUserSRP => exact plain.elim
  | _ => trivial

theorem changing_permitted : (authServer .sample).Permits (WholeEvent sampleFits) changing
    (.start [alice] (Function.update (fun _ => none) 7 (some oldWrap))) := by
  have fit : ∀ wrap record, sampleChange.decode = .ok (wrap, record) →
      sampleFits 7 wrap record.stored := by
    intro wrap record decoded
    cases sampleChange_decode.symm.trans decoded
    exact List.mem_cons_of_mem _ List.mem_cons_self
  refine ⟨trivial, ?_, ?_, ?_, fit, ?_, ?_, trivial⟩
  all_goals exact wholeEvent_plain (by decide)

/-- A change all of whose statements are executed is whole, and so is the server before it. -/
theorem password_change_atomic_alice :
    Atomic sampleStore
        (runAlone 1 (fun _ => .done) (apiAuthPasswordSRPFinish .sample none 7 sampleChange) sampleStore).2
        7 sampleChange ∧
      (((authServer .sample).after changing
          (.start [alice] (Function.update (fun _ => none) 7 (some oldWrap)))).Quiet 7 →
        Paired sampleFits ((authServer .sample).after changing
          (.start [alice] (Function.update (fun _ => none) 7 (some oldWrap)))).store 7) := by
  refine ⟨((password_change_atomic .sample).1 1 _ sampleStore none 7 sampleChange).mpr ?_, ?_⟩
  · rintro ⟨wrap, record, torn⟩
    rcases torn.unwritten with fails | absent | refused
    · cases fails
    · cases absent
    · cases refused
  · refine (password_change_atomic .sample).2 sampleFits _ _ _ ?_
      (Machine.after_runs changing changing_permitted) 7
    intro userID wrap record held
    by_cases own : userID = 7
    · subst own
      cases held
      exact List.mem_cons_self
    · have none : Function.update (fun _ => none) 7 (some oldWrap) userID = none :=
        Function.update_of_ne own ..
      cases none.symm.trans (congrArg Prod.fst held)

def resetFate : Fate
  | .updateUserSRP .. => .refused (.plain (ascii "connection reset"))
  | _ => .done

/-- The user can still log in with the old password, which opens his account key no more. -/
theorem password_change_torn :
    (runAlone 1 resetFate (apiAuthPasswordSRPFinish .sample none 7 sampleChange) sampleStore).2.passwordData
        7 = (some newWrap, some alice.record) ∧
      ¬Atomic sampleStore
        (runAlone 1 resetFate (apiAuthPasswordSRPFinish .sample none 7 sampleChange) sampleStore).2 7
        sampleChange := by
  have reached : (runAlone 1 resetFate (apiAuthPasswordSRPFinish .sample none 7 sampleChange)
      sampleStore).2.passwordData 7 =
        (some newWrap, some alice.record) := by decide
  refine ⟨reached, ?_⟩
  rintro (kept | ⟨wrap, record, decoded, new⟩)
  · rw [reached] at kept
    exact absurd kept (by decide)
  · cases sampleChange_decode.symm.trans decoded
    rw [reached] at new
    exact absurd new (by decide)

end ElvishMail.Httpserver.Auth
