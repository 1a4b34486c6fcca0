import ElvishMail.Session.Store

/-!
# Revoking the sessions of a user

`DeleteUserSessions` reads which tokens a user has, and then deletes them one by one. A
token it does not read is not deleted: one whose session is written already and not
yet indexed, or one that was dropped from the index while its session lived. And a
session that another call writes after the token was deleted is back: `Put` does not
look whether it still exists.

Outside these windows the index covers every session, and what was revoked stays so.
-/

namespace ElvishMail.Session

open Go Smtp Semantics Command

variable (owner : GoString → Nat)

/-- A call that does not revoke is about to index a token, or to delete its session. -/
def Attends (thread : Thread) (token : GoString) : Prop :=
  (∀ userID, thread.call ≠ .revoke userID) ∧
    ((∃ userID, thread.program.query? = some (.sadd userID token)) ∨
      thread.program.query? = some (.del token))

/-- A token is in the index of its user, or a call other than this one attends to it. -/
def Tended (server : Server) (index : Nat) (token : GoString) : Prop :=
  token ∈ server.valkey.byuid (owner token) ∨
    ∃ other thread, other ≠ index ∧ server.threads other = some thread ∧ Attends thread token

/-- A revocation without an error so far has its deletion of a token behind it. -/
def Past (program : Commands) (userID : Nat) (token : GoString) : Prop :=
  (∃ rest, program = sweep userID rest none ∧ token ∉ rest) ∨ program = .done .ok

/-- A token of a user whose login was authenticated, whether it is handed out yet or not. -/
def Old (drawn : GoString → Bool) (userID : Nat) (token : GoString) : Prop :=
  drawn token = true ∧ owner token = userID

/-- Every token of a user that is indexed has no session any more. -/
def Stale (valkey : Valkey) (userID : Nat) : Prop :=
  ∀ token ∈ valkey.byuid userID, valkey.sessions token = none

def Call.IsLogin : Call → Prop
  | .login _ _ _ => True
  | _ => False

/-- What each command must meet in the state before it. -/
def OrderlyCommand (server : Server) (index : Nat) (thread : Thread) (outcome : Outcome GoError) :
    Command → Prop
  -- A session is not written once a revocation is past it, and none is written unseen.
  | .set token _ =>
    (outcome.applied = true → ∀ other revocation userID, server.threads other = some revocation →
      revocation.call = .revoke userID → Old owner revocation.drawn userID token →
        ¬Past revocation.program userID token) ∧
    ((∃ err, outcome = .lost err) → Tended owner server index token)
  -- `Put` ignores that a session could not be indexed; a login deletes it.
  | .sadd _ token =>
    ¬thread.call.IsLogin → outcome.applied = false → server.valkey.sessions token ≠ none →
      Tended owner server index token
  -- A session that is not indexed any more does not outlive its deletion.
  | .del token =>
    (∀ userID, thread.call ≠ .revoke userID) → outcome.applied = false →
      server.valkey.sessions token ≠ none → Tended owner server index token
  -- A revocation reads the index while no other call attends to an old session.
  | .smembers userID =>
    ∀ token, Old owner thread.drawn userID token → server.valkey.sessions token ≠ none →
      ∀ other attending, server.threads other = some attending → ¬Attends attending token
  -- It deletes the index while no session was indexed since.
  | .delIndex userID => outcome.applied = true → Stale server.valkey userID
  | .get _ | .srem _ _ | .expire _ => True

/-- The events of an orderly run. The index of a user does not lapse before the sessions. -/
def Orderly (server : Server) : Event → Prop
  | .begin _ _ | .lapse _ => True
  | .lapseIndex userID => Stale server.valkey userID
  | .advance index outcome =>
    ∀ thread command, server.threads index = some thread → thread.program.query? = some command →
      OrderlyCommand owner server index thread outcome command

def Credible : (command : Command) → command.Answer → Prop
  | .get token, .ok (some payload) => payload.userID = owner token
  | _, _ => True

def Follows (login : Prop) : (command : Command) → (command.Answer → Commands) → Prop
  | .set token payload, next =>
    payload.userID = owner token ∧ (next none).query? = some (.sadd (owner token) token)
  | .sadd userID token, next =>
    userID = owner token ∧ (login → ∀ err, (next (some err)).query? = some (.del token))
  | .srem _ token, next => ∀ reply, (next reply).query? = some (.del token)
  | .smembers _, _ | .delIndex _, _ => False
  | _, _ => True

def Tidy (login : Prop) : Commands → Prop
  | .done _ => True
  | .ask command next =>
    Follows owner login command next ∧
      ∀ reply, Credible owner command reply → Tidy login (next reply)

variable {owner}

theorem put_tidy {login : Prop} {token : GoString} {payload : Payload} {now : Int} (no : ¬login)
    (owned : payload.userID = owner token) : Tidy owner login (put token payload now) := by
  have stamped : (payload.stamped now).userID = owner token := by
    unfold Payload.stamped
    split <;> exact owned
  unfold put
  split
  · trivial
  · split
    · trivial
    · refine ⟨⟨stamped, by rw [owned]; rfl⟩, fun reply _ => ?_⟩
      cases reply with
      | some err => trivial
      | none =>
        refine ⟨⟨owned, fun yes => absurd yes no⟩, fun _ _ => ?_⟩
        exact ⟨trivial, fun _ _ => trivial⟩

theorem createWithPayload_tidy {login : Prop} {draw : Except GoError GoString} {payload : Payload}
    {now : Int} (owned : ∀ token, draw = .ok token → payload.userID = owner token) :
    Tidy owner login (createWithPayload draw payload now) := by
  unfold createWithPayload
  split
  · trivial
  · cases draw with
    | error err => trivial
    | ok token =>
      have owned := owned token rfl
      have stamped : (payload.stamped now).userID = owner token := by
        unfold Payload.stamped
        split <;> exact owned
      refine ⟨⟨stamped, by rw [owned]; rfl⟩, fun reply _ => ?_⟩
      cases reply with
      | some err => trivial
      | none =>
        refine ⟨⟨owned, fun _ _ => rfl⟩, fun reply _ => ?_⟩
        cases reply with
        | some err => exact ⟨trivial, fun _ _ => trivial⟩
        | none => exact ⟨trivial, fun _ _ => trivial⟩

theorem remove_tidy {login : Prop} (token : GoString) : Tidy owner login (remove token) := by
  refine ⟨trivial, fun reply _ => ?_⟩
  cases reply <;> trivial

theorem program_tidy {drawn : GoString → Bool} {call : Call} (fits : call.fits owner drawn = true)
    (other : ∀ userID, call ≠ .revoke userID) : Tidy owner call.IsLogin call.program := by
  cases call with
  | login draw payload now =>
    apply createWithPayload_tidy
    rintro token rfl
    simpa using (Bool.and_eq_true_iff.mp fits).2
  | verify cookie target now =>
    have same : owner target = owner cookie := by simpa [Call.fits] using fits
    show Tidy owner _ (Session.verify cookie target now)
    unfold Session.verify
    split
    · trivial
    · refine ⟨trivial, fun reply credible => ?_⟩
      cases reply with
      | error err => trivial
      | ok found =>
        cases found with
        | none => trivial
        | some pay => exact put_tidy id (Eq.trans credible same.symm)
  | logout token =>
    show Tidy owner _ (delete token)
    unfold delete
    split
    · trivial
    · refine ⟨trivial, fun reply _ => ?_⟩
      cases reply with
      | error err => trivial
      | ok found =>
        cases found with
        | none => exact remove_tidy token
        | some payload => exact ⟨fun _ => rfl, fun _ _ => remove_tidy token⟩
  | revoke userID => exact absurd rfl (other userID)

section Commands

variable {outcome : Outcome GoError} {command : Command} {valkey : Valkey} {token : GoString}
  {userID : Nat}

theorem sessions_after (outcome : Outcome GoError) (command : Command) (valkey : Valkey)
    (token : GoString) :
    (command.answer outcome valkey).2.sessions token = valkey.sessions token ∨
      (command.answer outcome valkey).2.sessions token = none ∨
        ∃ payload, command = .set token payload ∧ outcome.applied = true ∧
          (command.answer outcome valkey).2.sessions token = some payload := by
  cases applied : outcome.applied with
  | false =>
    left
    cases command <;> simp [answer, Outcome.exec, applied]
  | true =>
    cases command with
    | set other payload =>
      by_cases same : token = other
      · subst same
        exact .inr (.inr ⟨payload, rfl, rfl, by simp [answer, Outcome.exec, applied]⟩)
      · left
        simp [answer, Outcome.exec, applied, same]
    | del other =>
      by_cases same : token = other
      · subst same
        exact .inr (.inl (by simp [answer, Outcome.exec, applied]))
      · left
        simp [answer, Outcome.exec, applied, same]
    | get other | sadd user other | srem user other | smembers user | expire user | delIndex user =>
      left
      simp [answer, Outcome.exec, applied, changeIndex]

theorem member_after (outcome : Outcome GoError) (command : Command)
    (member : token ∈ valkey.byuid userID) :
    token ∈ (command.answer outcome valkey).2.byuid userID ∨ command = .srem userID token ∨
      command = .delIndex userID ∧ outcome.applied = true := by
  cases applied : outcome.applied with
  | false =>
    left
    cases command <;> simpa [answer, Outcome.exec, applied] using member
  | true =>
    cases command with
    | sadd user other =>
      left
      by_cases same : userID = user
      · subst same
        simp only [answer, Outcome.exec, applied, if_true, changeIndex, Function.update_self]
        split
        · exact member
        · exact List.mem_append_left _ member
      · simpa [answer, Outcome.exec, applied, changeIndex, same] using member
    | srem user other =>
      by_cases same : userID = user
      · subst same
        by_cases equal : token = other
        · subst equal
          exact .inr (.inl rfl)
        · left
          simpa [answer, Outcome.exec, applied, changeIndex, equal] using member
      · left
        simpa [answer, Outcome.exec, applied, changeIndex, same] using member
    | delIndex user =>
      by_cases same : userID = user
      · subst same
        exact .inr (.inr ⟨rfl, rfl⟩)
      · left
        simpa [answer, Outcome.exec, applied, changeIndex, same] using member
    | get other | set other payload | del other | smembers user | expire user =>
      left
      simpa [answer, Outcome.exec, applied] using member

theorem gone_after (other : ∀ payload, command ≠ .set token payload)
    (gone : valkey.sessions token = none) :
    (command.answer outcome valkey).2.sessions token = none := by
  rcases sessions_after outcome command valkey token with same | none | ⟨payload, set, _⟩
  · exact same.trans gone
  · exact none
  · exact absurd set (other payload)

theorem sadd_after (applied : outcome.applied = true) :
    token ∈ ((Command.sadd userID token).answer outcome valkey).2.byuid userID := by
  simp only [answer, Outcome.exec, applied, if_true, changeIndex, Function.update_self]
  split
  next member => exact member
  next => simp

theorem del_after (applied : outcome.applied = true) :
    ((Command.del token).answer outcome valkey).2.sessions token = none := by
  simp [answer, Outcome.exec, applied]

end Commands

/-- Where a revocation is, and which old sessions are gone by then. -/
inductive Revoking (owner : GoString → Nat) (valkey : Valkey) (drawn : GoString → Bool)
    (userID : Nat) : Commands → Prop where
  | fresh : Revoking owner valkey drawn userID (deleteUserSessions userID)
  | sweeping (rest : List GoString) (err : Option GoError)
      (gone : err = none → ∀ token, Old owner drawn userID token → token ∉ rest →
        valkey.sessions token = none) :
      Revoking owner valkey drawn userID (sweep userID rest err)
  | failed (err : GoError) : Revoking owner valkey drawn userID (.done (.failed err))
  | returned (gone : ∀ token, Old owner drawn userID token → valkey.sessions token = none) :
      Revoking owner valkey drawn userID (.done .ok)

section Revocations

variable {valkey next : Valkey} {drawn : GoString → Bool} {userID : Nat} {program : Commands}

theorem Revoking.keep (revoking : Revoking owner valkey drawn userID program)
    (kept : ∀ token, Old owner drawn userID token → Past program userID token →
      valkey.sessions token = none → next.sessions token = none) :
    Revoking owner next drawn userID program := by
  cases revoking with
  | fresh => exact .fresh
  | sweeping rest err gone =>
    apply Revoking.sweeping
    rintro rfl token old absent
    exact kept token old (.inl ⟨rest, rfl, absent⟩) (gone rfl token old absent)
  | failed err => exact .failed err
  | returned gone =>
    apply Revoking.returned
    intro token old
    exact kept token old (.inr rfl) (gone token old)

theorem Revoking.advance {command : Command} {following : command.Answer → Commands}
    {outcome : Outcome GoError} (revoking : Revoking owner valkey drawn userID (.ask command following))
    (read : command = .smembers userID → ∀ token, Old owner drawn userID token →
      valkey.sessions token ≠ none → token ∈ valkey.byuid userID) :
    Revoking owner (command.answer outcome valkey).2 drawn userID
        (following (command.answer outcome valkey).1) ∧
      (command = .smembers userID ∨ (∃ token, command = .del token) ∨ command = .delIndex userID) := by
  generalize same : Program.ask command following = program at revoking
  cases revoking with
  | fresh =>
    cases same
    refine ⟨?_, .inl rfl⟩
    have listed : ∀ token, Old owner drawn userID token → token ∉ valkey.byuid userID →
        valkey.sessions token = none := by
      intro token old absent
      by_contra some
      exact absent (read rfl token old some)
    cases outcome with
    | refused err => exact .failed err
    | lost err => exact .failed err
    | done =>
      show Revoking owner valkey drawn userID
        (if (valkey.byuid userID).length = 0 then .done .ok else sweep userID (valkey.byuid userID) none)
      split
      next empty =>
        apply Revoking.returned
        intro token old
        apply listed token old
        rw [List.eq_nil_of_length_eq_zero empty]
        exact List.not_mem_nil
      next => exact .sweeping _ _ fun _ => listed
  | sweeping rest err gone =>
    cases rest with
    | nil =>
      cases same
      refine ⟨?_, .inr (.inr rfl)⟩
      dsimp only
      cases all : err.or ((Command.delIndex userID).answer outcome valkey).1 with
      | some first => exact .failed first
      | none =>
        apply Revoking.returned
        intro token old
        apply gone_after
        · exact fun _ => nofun
        · exact gone (Option.or_eq_none_iff.mp all).1 token old List.not_mem_nil
    | cons token rest =>
      cases same
      refine ⟨?_, .inr (.inl ⟨token, rfl⟩)⟩
      apply Revoking.sweeping
      intro all other old absent
      obtain ⟨fine, deleted⟩ := Option.or_eq_none_iff.mp all
      by_cases equal : other = token
      · subst equal
        exact del_after (Outcome.applied_of_error?_none deleted)
      · apply gone_after
        · exact fun _ => nofun
        · exact gone fine other old fun member => (List.mem_cons.mp member).elim equal absent
  | failed err => cases same
  | returned gone => cases same

theorem Revoking.gone (revoking : Revoking owner valkey drawn userID (.done .ok)) (token : GoString)
    (old : Old owner drawn userID token) : valkey.sessions token = none := by
  generalize same : (.done .ok : Commands) = program at revoking
  cases revoking with
  | fresh => cases same
  | sweeping rest err _ => cases rest <;> cases same
  | failed err => cases same
  | returned gone => exact gone token old

end Revocations

def Attended (server : Server) (token : GoString) : Prop :=
  ∃ index thread, server.threads index = some thread ∧ Attends thread token

structure Kept (owner : GoString → Nat) (server : Server) : Prop where
  stored : ∀ token payload, server.valkey.sessions token = some payload → payload.userID = owner token
  indexed : ∀ token, server.valkey.sessions token ≠ none →
    token ∈ server.valkey.byuid (owner token) ∨ Attended server token
  tidy : ∀ index thread, server.threads index = some thread →
    (∀ userID, thread.call ≠ .revoke userID) → Tidy owner thread.call.IsLogin thread.program
  revoking : ∀ index thread userID, server.threads index = some thread →
    thread.call = .revoke userID → Revoking owner server.valkey thread.drawn userID thread.program

section Steps

variable {server : Server} {index : Nat} {thread : Thread} {outcome : Outcome GoError}
  {command : Command} {following : command.Answer → Commands} {token : GoString}

theorem execute_self :
    (server.execute index thread outcome command following).threads index =
      some { thread with program := following (command.answer outcome server.valkey).1 } :=
  Function.update_self ..

theorem execute_other {other : Nat} (different : other ≠ index) :
    (server.execute index thread outcome command following).threads other = server.threads other :=
  Function.update_of_ne different ..

theorem Kept.tended (kept : Kept owner server) (found : server.threads index = some thread)
    (lives : server.valkey.sessions token ≠ none) (elsewhere : ¬Attends thread token) :
    Tended owner server index token := by
  rcases kept.indexed token lives with member | ⟨other, attending, held, attends⟩
  · exact .inl member
  · refine .inr ⟨other, attending, ?_, held, attends⟩
    rintro rfl
    cases Option.some.inj (found.symm.trans held)
    exact elsewhere attends

theorem Tended.after (tended : Tended owner server index token)
    (stays : token ∈ server.valkey.byuid (owner token) →
      token ∈ (command.answer outcome server.valkey).2.byuid (owner token)) :
    token ∈ (server.execute index thread outcome command following).valkey.byuid (owner token) ∨
      Attended (server.execute index thread outcome command following) token := by
  rcases tended with member | ⟨other, attending, different, held, attends⟩
  · exact .inl (stays member)
  · exact .inr ⟨other, attending, (execute_other different).trans held, attends⟩

theorem attended_next (other : ∀ userID, thread.call ≠ .revoke userID)
    (next : (∃ userID, (following (command.answer outcome server.valkey).1).query? =
        some (.sadd userID token)) ∨
      (following (command.answer outcome server.valkey).1).query? = some (.del token)) :
    Attended (server.execute index thread outcome command following) token :=
  ⟨index, _, execute_self, other, next⟩

theorem Kept.indexed_after (kept : Kept owner server) (found : server.threads index = some thread)
    (asking : thread.program = .ask command following)
    (other : ∀ userID, thread.call ≠ .revoke userID)
    (orderly : OrderlyCommand owner server index thread outcome command)
    (lives : (command.answer outcome server.valkey).2.sessions token ≠ none) :
    token ∈ (server.execute index thread outcome command following).valkey.byuid (owner token) ∨
      Attended (server.execute index thread outcome command following) token := by
  have follows : Follows owner thread.call.IsLogin command following := by
    have tidy := kept.tidy index thread found other
    rw [asking] at tidy
    exact tidy.1
  have asked : thread.program.query? = some command := by
    rw [asking]
    rfl
  -- What is left alone by the command was covered by something else before.
  have elsewhere (living : server.valkey.sessions token ≠ none)
      (apart : (∀ userID, command ≠ .sadd userID token) ∧ command ≠ .del token) :
      Tended owner server index token := by
    apply kept.tended found living
    rintro ⟨_, ⟨userID, next⟩ | next⟩
    · exact apart.1 userID (Option.some.inj (asked.symm.trans next))
    · exact apart.2 (Option.some.inj (asked.symm.trans next))
  have stays (apart : command ≠ .srem (owner token) token) (keeps : ∀ userID, command ≠ .delIndex userID)
      (member : token ∈ server.valkey.byuid (owner token)) :
      token ∈ (command.answer outcome server.valkey).2.byuid (owner token) := by
    rcases member_after outcome command member with still | gone | gone
    · exact still
    · exact absurd gone apart
    · exact absurd gone.1 (keeps _)
  have lived (apart : ∀ payload, command ≠ .set token payload) :
      server.valkey.sessions token ≠ none := fun gone => lives (gone_after apart gone)
  cases command with
  | get cookie => exact (elsewhere lives ⟨fun _ => nofun, nofun⟩).after (stays nofun fun _ => nofun)
  | expire userID => exact (elsewhere lives ⟨fun _ => nofun, nofun⟩).after (stays nofun fun _ => nofun)
  | set written payload =>
    by_cases same : token = written
    · subst same
      cases outcome with
      | done => exact .inr (attended_next other (.inl ⟨_, follows.2⟩))
      | refused err =>
        exact (elsewhere lives ⟨fun _ => nofun, nofun⟩).after (stays nofun fun _ => nofun)
      | lost err => exact (orderly.2 ⟨err, rfl⟩).after (stays nofun fun _ => nofun)
    · have apart : ∀ other, Command.set written payload ≠ .set token other := by
        rintro _ ⟨⟩
        exact same rfl
      exact (elsewhere (lived apart) ⟨fun _ => nofun, nofun⟩).after (stays nofun fun _ => nofun)
  | sadd userID added =>
    have living := lived fun _ => nofun
    by_cases same : token = added
    · subst same
      cases applied : outcome.applied with
      | true =>
        left
        show token ∈ ((Command.sadd userID token).answer outcome server.valkey).2.byuid _
        rw [← follows.1]
        exact sadd_after applied
      | false =>
        by_cases login : thread.call.IsLogin
        · obtain ⟨err, rfl⟩ := Outcome.refused_of_applied_false applied
          exact .inr (attended_next other (.inr (follows.2 login err)))
        · exact (orderly login applied living).after (stays nofun fun _ => nofun)
    · refine (elsewhere living ⟨?_, nofun⟩).after (stays nofun fun _ => nofun)
      rintro _ ⟨⟩
      exact same rfl
  | del deleted =>
    have living := lived fun _ => nofun
    by_cases same : token = deleted
    · subst same
      cases applied : outcome.applied with
      | true => exact absurd (del_after applied) lives
      | false => exact (orderly other applied living).after (stays nofun fun _ => nofun)
    · refine (elsewhere living ⟨fun _ => nofun, ?_⟩).after (stays nofun fun _ => nofun)
      rintro ⟨⟩
      exact same rfl
  | srem userID removed =>
    by_cases same : token = removed
    · subst same
      exact .inr (attended_next other (.inr (follows _)))
    · refine (elsewhere (lived fun _ => nofun) ⟨fun _ => nofun, nofun⟩).after
        (stays ?_ fun _ => nofun)
      rintro ⟨⟩
      exact same rfl
  | smembers userID => exact follows.elim
  | delIndex userID => exact follows.elim

theorem Kept.advance (kept : Kept owner server) {userID : Nat}
    (found : server.threads index = some thread) (asking : thread.program = .ask command following)
    (revokes : thread.call = .revoke userID)
    (orderly : OrderlyCommand owner server index thread outcome command) :
    Revoking owner (command.answer outcome server.valkey).2 thread.drawn userID
        (following (command.answer outcome server.valkey).1) ∧
      (command = .smembers userID ∨ (∃ token, command = .del token) ∨ command = .delIndex userID) := by
  have revoking := kept.revoking index thread userID found revokes
  rw [asking] at revoking
  apply revoking.advance
  rintro rfl token old lives
  rcases kept.indexed token lives with member | ⟨other, attending, held, attends⟩
  · rw [old.2] at member
    exact member
  · exact absurd attends (orderly token old lives other attending held)

theorem Kept.indexed_revoked (kept : Kept owner server) {userID : Nat}
    (found : server.threads index = some thread) (revokes : thread.call = .revoke userID)
    (sweeps : command = .smembers userID ∨ (∃ token, command = .del token) ∨ command = .delIndex userID)
    (orderly : OrderlyCommand owner server index thread outcome command)
    (lives : (command.answer outcome server.valkey).2.sessions token ≠ none) :
    token ∈ (server.execute index thread outcome command following).valkey.byuid (owner token) ∨
      Attended (server.execute index thread outcome command following) token := by
  have living : server.valkey.sessions token ≠ none := by
    intro gone
    apply lives
    apply gone_after _ gone
    rintro payload rfl
    rcases sweeps with other | ⟨_, other⟩ | other <;> cases other
  have tended := kept.tended found living fun attends => attends.1 userID revokes
  apply tended.after
  intro member
  rcases member_after outcome command member with still | rfl | ⟨rfl, applied⟩
  · exact still
  · rcases sweeps with other | ⟨_, other⟩ | other <;> cases other
  · exact absurd (orderly applied token member) living

theorem Kept.credible (kept : Kept owner server) (outcome : Outcome GoError) (command : Command) :
    Credible owner command (command.answer outcome server.valkey).1 := by
  cases command with
  | get token =>
    cases outcome with
    | refused err => trivial
    | lost err => trivial
    | done =>
      show Credible owner (.get token) (.ok (server.valkey.sessions token))
      cases held : server.valkey.sessions token with
      | none => trivial
      | some payload => exact kept.stored token payload held
  | set token payload | del token | sadd userID token | srem userID token | smembers userID
  | expire userID | delIndex userID => trivial

theorem Kept.execute (kept : Kept owner server) (found : server.threads index = some thread)
    (asking : thread.program = .ask command following)
    (orderly : OrderlyCommand owner server index thread outcome command) :
    Kept owner (server.execute index thread outcome command following) where
  stored := by
    intro token payload held
    rcases sessions_after outcome command server.valkey token with same | none | ⟨written, rfl, _, now⟩
    · exact kept.stored token payload (same.symm.trans held)
    · exact absurd (none.symm.trans held) nofun
    · cases Option.some.inj (now.symm.trans held)
      by_cases revokes : ∃ userID, thread.call = .revoke userID
      · obtain ⟨userID, revokes⟩ := revokes
        rcases (kept.advance found asking revokes orderly).2 with other | ⟨_, other⟩ | other <;> cases other
      · have tidy := kept.tidy index thread found fun userID same => revokes ⟨userID, same⟩
        rw [asking] at tidy
        exact tidy.1.1
  indexed := by
    intro token lives
    by_cases revokes : ∃ userID, thread.call = .revoke userID
    · obtain ⟨userID, revokes⟩ := revokes
      have sweeps := (kept.advance found asking revokes orderly).2
      exact kept.indexed_revoked found revokes sweeps orderly lives
    · exact kept.indexed_after found asking (fun userID same => revokes ⟨userID, same⟩) orderly lives
  tidy := by
    intro other next held apart
    by_cases same : other = index
    · subst same
      cases Option.some.inj (execute_self.symm.trans held)
      have tidy := kept.tidy other thread found apart
      rw [asking] at tidy
      exact tidy.2 _ (kept.credible outcome command)
    · exact kept.tidy other next ((execute_other same).symm.trans held) apart
  revoking := by
    intro other next userID held revokes
    by_cases same : other = index
    · subst same
      cases Option.some.inj (execute_self.symm.trans held)
      exact (kept.advance found asking revokes orderly).1
    · have before := (execute_other same).symm.trans held
      apply (kept.revoking other next userID before revokes).keep
      intro token old past gone
      rcases sessions_after outcome command server.valkey token with same | none | ⟨payload, rfl, applied, _⟩
      · exact same.trans gone
      · exact none
      · exact absurd past (orderly.1 applied other next userID before revokes old)

theorem begin_self {call : Call} :
    (server.begin index call).threads index = some ⟨call, server.drawn, call.program⟩ :=
  Function.update_self ..

theorem begin_other {call : Call} {other : Nat} (different : other ≠ index) :
    (server.begin index call).threads other = server.threads other :=
  Function.update_of_ne different ..

theorem Kept.begin (kept : Kept owner server) {call : Call} (idle : server.threads index = none)
    (fits : call.fits owner server.drawn = true) : Kept owner (server.begin index call) := by
  have apart {other : Nat} {next : Thread} (held : server.threads other = some next) : other ≠ index := by
    rintro rfl
    exact absurd (idle.symm.trans held) nofun
  refine
    { stored := kept.stored
      indexed := ?_
      tidy := ?_
      revoking := ?_ }
  · intro token lives
    refine (kept.indexed token lives).imp_right ?_
    rintro ⟨other, attending, held, attends⟩
    exact ⟨other, attending, (begin_other (apart held)).trans held, attends⟩
  · intro other next held others
    by_cases same : other = index
    · subst same
      cases Option.some.inj (begin_self.symm.trans held)
      exact program_tidy fits others
    · exact kept.tidy other next ((begin_other same).symm.trans held) others
  · intro other next userID held revokes
    by_cases same : other = index
    · subst same
      cases Option.some.inj (begin_self.symm.trans held)
      cases revokes
      exact .fresh
    · exact kept.revoking other next userID ((begin_other same).symm.trans held) revokes

theorem Kept.lapse (kept : Kept owner server) (token : GoString) :
    Kept owner { server with valkey.sessions := Function.update server.valkey.sessions token none } := by
  have held {other : GoString} {payload : Payload}
      (lives : Function.update server.valkey.sessions token none other = some payload) :
      server.valkey.sessions other = some payload := by
    by_cases same : other = token
    · subst same
      exact absurd ((Function.update_self ..).symm.trans lives) nofun
    · exact (Function.update_of_ne same ..).symm.trans lives
  refine
    { stored := fun other payload lives => kept.stored other payload (held lives)
      indexed := ?_
      tidy := kept.tidy
      revoking := ?_ }
  · intro other lives
    obtain ⟨payload, found⟩ := Option.ne_none_iff_exists'.mp lives
    exact kept.indexed other (by rw [held found]; exact nofun)
  · intro index next userID present revokes
    apply (kept.revoking index next userID present revokes).keep
    intro other _ _ gone
    by_contra lives
    obtain ⟨payload, found⟩ := Option.ne_none_iff_exists'.mp lives
    exact absurd (gone.symm.trans (held found)) nofun

theorem Kept.lapseIndex (kept : Kept owner server) {userID : Nat} (stale : Stale server.valkey userID) :
    Kept owner { server with valkey.byuid := Function.update server.valkey.byuid userID [] } := by
  refine
    { stored := kept.stored
      indexed := ?_
      tidy := kept.tidy
      revoking := ?_ }
  · intro token lives
    rcases kept.indexed token lives with member | attended
    · by_cases same : owner token = userID
      · subst same
        exact absurd (stale token member) lives
      · left
        show token ∈ Function.update server.valkey.byuid userID [] (owner token)
        rw [Function.update_of_ne same]
        exact member
    · exact .inr attended
  · intro index next user present revokes
    exact (kept.revoking index next user present revokes).keep fun _ _ _ gone => gone

theorem Kept.step (kept : Kept owner server) {event : Event} {next : Server}
    (orderly : Orderly owner server event) (taken : server.step owner event = some next) :
    Kept owner next := by
  cases event with
  | begin index call =>
    simp only [Server.step] at taken
    split at taken
    next fresh =>
      cases taken
      exact kept.begin (Option.isNone_iff_eq_none.mp fresh.1) fresh.2
    next => cases taken
  | advance index outcome =>
    simp only [Server.step] at taken
    split at taken
    next => cases taken
    next thread found =>
      split at taken
      next => cases taken
      next command following asking =>
        cases taken
        apply kept.execute found asking
        apply orderly thread command found
        rw [asking]
        rfl
  | lapse token =>
    cases taken
    exact kept.lapse token
  | lapseIndex userID =>
    cases taken
    exact kept.lapseIndex orderly

end Steps

theorem start_kept : Kept owner .start where
  stored := nofun
  indexed := fun _ lives => absurd rfl lives
  tidy := nofun
  revoking := nofun

/-- In every orderly run, once a revocation has returned without an error, no token of the user
that was handed out before it began, or whose login was authenticated before, resolves, then
or later. -/
theorem revoked_unresolved {server : Server}
    (runs : (sessionServer owner).Runs (Orderly owner) .start server) {index : Nat} {thread : Thread}
    {userID : Nat} (found : server.threads index = some thread) (revokes : thread.call = .revoke userID)
    (returned : thread.program = .done .ok) {token : GoString} (drawn : thread.drawn token = true)
    (owned : owner token = userID) : ¬server.valkey.Resolves token := by
  have kept : Kept owner server :=
    runs.invariant (Kept owner) start_kept fun kept orderly taken => kept.step orderly taken
  have revoking := kept.revoking index thread userID found revokes
  rw [returned] at revoking
  rintro ⟨_, lives⟩
  exact lives (revoking.gone token ⟨drawn, owned⟩)

theorem orderly_advance {server : Server} {index : Nat} {outcome : Outcome GoError} {thread : Thread}
    {command : Command} (found : server.threads index = some thread)
    (asks : thread.program.query? = some command)
    (orderly : OrderlyCommand owner server index thread outcome command) :
    Orderly owner server (.advance index outcome) := by
  intro other next held asked
  cases Option.some.inj (found.symm.trans held)
  cases Option.some.inj (asks.symm.trans asked)
  exact orderly

def samplePayload : Payload := ⟨1, ascii "elf@example.org", [ascii "pwd"], 3, 0⟩

def loginThenRevoke : List Event :=
  [.begin 0 (.login (.ok (ascii "a")) samplePayload 3), .advance 0 .done, .advance 0 .done,
    .advance 0 .done, .begin 1 (.revoke 1), .advance 1 .done, .advance 1 .done, .advance 1 .done]

theorem loginThenRevoke_orderly :
    (sessionServer fun _ => 1).Permits (Orderly fun _ => 1) loginThenRevoke .start := by
  refine ⟨trivial, ?_, ?_, ?_, trivial, ?_, ?_, ?_, trivial⟩
  · apply orderly_advance rfl rfl
    refine ⟨fun _ other revocation userID held revokes => ?_, fun lost => nomatch lost⟩
    cases other with
    | zero =>
      cases held
      cases revokes
    | succ other => cases held
  · apply orderly_advance rfl rfl
    exact fun later => absurd trivial later
  · apply orderly_advance rfl rfl
    trivial
  · apply orderly_advance rfl rfl
    intro token _ _ other attending held attends
    match other with
    | 0 =>
      cases held
      rcases attends.2 with ⟨_, next⟩ | next <;> cases next
    | 1 =>
      cases held
      exact attends.1 1 rfl
    | other + 2 => cases held
  · apply orderly_advance rfl rfl
    intro apart
    exact absurd rfl (apart 1)
  · apply orderly_advance rfl rfl
    intro _ token member
    cases List.mem_singleton.mp member
    rfl

theorem revoked_unresolved_once :
    ¬((sessionServer fun _ => 1).after loginThenRevoke .start).valkey.Resolves (ascii "a") :=
  revoked_unresolved (Machine.after_runs loginThenRevoke loginThenRevoke_orderly)
    (rfl : ((sessionServer fun _ => 1).after loginThenRevoke .start).threads 1 = some _) rfl rfl
    (by decide) rfl

/-- A second factor is proved in a session: it is read, revoked, and then written. -/
def latePut : List Event :=
  [.begin 0 (.login (.ok (ascii "a")) samplePayload 3), .advance 0 .done, .advance 0 .done,
    .advance 0 .done, .begin 2 (.verify (ascii "a") (ascii "a") 9), .advance 2 .done,
    .begin 1 (.revoke 1), .advance 1 .done, .advance 1 .done, .advance 1 .done, .advance 2 .done]

/-- The session is back. -/
theorem late_put_resolves :
    ¬∀ (owner : GoString → Nat) (server : Server),
      (sessionServer owner).Runs (fun _ _ => True) .start server → ∀ index thread userID,
        server.threads index = some thread → thread.call = .revoke userID →
          thread.program = .done .ok → ∀ token, thread.drawn token = true → owner token = userID →
            ¬server.valkey.Resolves token := by
  intro gone
  have permits : (sessionServer fun _ => 1).Permits (fun _ _ => True) latePut .start :=
    Machine.permits_of_forall (fun _ _ => trivial) _ _
  have unresolved := gone (fun _ => 1) _ (Machine.after_runs latePut permits) 1 _ 1
    (rfl : ((sessionServer fun _ => 1).after latePut .start).threads 1 = some _) rfl rfl (ascii "a")
    (by decide) rfl
  have lives : ((sessionServer fun _ => 1).after latePut .start).valkey.sessions (ascii "a") ≠ none := by
    decide
  exact unresolved ⟨by decide, lives⟩

end ElvishMail.Session
