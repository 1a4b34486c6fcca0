import ElvishMail.Httpserver.Judging
import ElvishMail.Pake.Handshake

/-!
# A challenge is used once

Whatever requests run between each other's commands, a challenge is at one place: in
Valkey, in the map of the process, or with the one finish request that took it away, which
alone can act on it (`challenges_once`).
-/

namespace ElvishMail.Httpserver.Auth

open Go Smtp Mailmeta Pake Semantics

inductive Holder where
  | valkey (id : GoString)
  | process (id : GoString)
  | request (index : Nat)
deriving DecidableEq

def Thread.memory (thread : Thread) : Memory := ⟨thread.met.map Kept.challenge, thread.read⟩

def AuthServer.holds (server : AuthServer) : Holder → Option Kept
  | .valkey id => server.store.ephemeral id
  | .process id => server.store.authChallenges id
  | .request index => (server.threads index).bind Thread.met

structure Orderly (site : AuthSite) (server : AuthServer) : Prop where
  judges : ∀ index thread, server.threads index = some thread →
    Judges site thread.request thread.program thread.memory
  /-- The request that issued a challenge is answered. -/
  held : ∀ holder kept, server.holds holder = some kept →
    ∃ thread, server.threads kept.issuer = some thread ∧ (∃ reply, thread.program = .done reply) ∧
      Issues site thread.request kept.challenge ∧ kept.challenge.createdAt = thread.read
  alone : ∀ holder other kept same, server.holds holder = some kept →
    server.holds other = some same → kept.issuer = same.issuer → holder = other

section Steps

variable {site : AuthSite} {server next : AuthServer} {index : Nat} {thread : Thread}
  {outcome : Outcome GoError} {command : Command} {following : command.Answer → Commands}

theorem answer_credible (index : Nat) (outcome : Outcome GoError) (command : Command)
    (store : AuthStore) : Credible command (command.answer index outcome store).1 := by
  have read (row : Option UserAuth) (found : UserAuth)
      (looked : Command.lookup outcome row = .ok found) : row = some found := by
    unfold Command.lookup at looked
    cases outcome.read_cases row with
    | inl value =>
      rw [value] at looked
      cases row with
      | none => cases looked
      | some row =>
        cases looked
        rfl
    | inr failed =>
      obtain ⟨err, failed⟩ := failed
      rw [failed] at looked
      cases looked
  cases command with
  | userAuthByEmail email =>
    show Credible (.userAuthByEmail email) (Command.lookup outcome _)
    cases looked : Command.lookup outcome (store.users.find? (·.email = email)) with
    | error err => trivial
    | ok row =>
      have same : row.email = email := by simpa using List.find?_some (read _ _ looked)
      exact same
  | userByID userID =>
    show Credible (.userByID userID) (Command.lookup outcome _)
    cases looked : Command.lookup outcome (store.user userID) with
    | error err => trivial
    | ok row =>
      have same : row.userID = userID := by simpa using List.find?_some (read _ _ looked)
      exact same
  | _ => trivial

theorem next_memory (thread : Thread) (index : Nat) (outcome : Outcome GoError) (command : Command)
    (store : AuthStore) (program : Commands) :
    (thread.next outcome command store program).memory =
      thread.memory.after command (command.answer index outcome store).1 := by
  cases command with
  | now => rfl
  | getDel id =>
    cases outcome <;> cases found : store.ephemeral id <;>
      simp [Thread.next, Thread.memory, Memory.after, Command.found, Command.answer, Outcome.read,
        Outcome.error?, found]
  | takeLocal id =>
    cases found : store.authChallenges id <;>
      simp [Thread.next, Thread.memory, Memory.after, Command.found, Command.answer, found]
  | _ => rfl

theorem execute_self :
    (server.execute index thread outcome command following).threads index =
      some (thread.next outcome command server.store
        (following (command.answer index outcome server.store).1)) :=
  Function.update_self ..

theorem execute_other {other : Nat} (different : other ≠ index) :
    (server.execute index thread outcome command following).threads other = server.threads other :=
  Function.update_of_ne different ..

theorem update_challenges {present : Bool} {write : AuthStore → AuthStore} {store : AuthStore}
    (apart : (write store).ephemeral = store.ephemeral ∧
      (write store).authChallenges = store.authChallenges) :
    (Command.update outcome present write store).2.ephemeral = store.ephemeral ∧
      (Command.update outcome present write store).2.authChallenges = store.authChallenges := by
  unfold Command.update
  split
  · exact Outcome.exec_holds
      (fun after : AuthStore => after.ephemeral = store.ephemeral ∧
        after.authChallenges = store.authChallenges)
      outcome ⟨rfl, rfl⟩ apart
  · exact ⟨rfl, rfl⟩

theorem ephemeral_after {store : AuthStore} {id : GoString} {kept : Kept}
    (there : (command.answer index outcome store).2.ephemeral id = some kept) :
    store.ephemeral id = some kept ∨
      ∃ challenge, command = .set id challenge ∧ kept = ⟨index, challenge⟩ := by
  cases command with
  | set key challenge =>
    cases applied : outcome.applied with
    | false => exact .inl (by simpa [Command.answer, Outcome.exec, applied] using there)
    | true =>
      by_cases same : id = key
      · subst same
        have stored : kept = ⟨index, challenge⟩ := by
          simpa [Command.answer, Outcome.exec, applied] using there.symm
        exact .inr ⟨challenge, rfl, stored⟩
      · exact .inl (by simpa [Command.answer, Outcome.exec, applied, same] using there)
  | getDel key =>
    cases applied : outcome.applied with
    | false => exact .inl (by simpa [Command.answer, applied] using there)
    | true =>
      by_cases same : id = key
      · simp [Command.answer, applied, same] at there
      · exact .inl (by simpa [Command.answer, applied, same] using there)
  | updateAccountKey userID wrap =>
    rw [Command.answer, (update_challenges ⟨rfl, rfl⟩).1] at there
    exact .inl there
  | updateUserSRP userID record =>
    rw [Command.answer, (update_challenges ⟨rfl, rfl⟩).1] at there
    exact .inl there
  | _ => exact .inl there

theorem authChallenges_after {store : AuthStore} {id : GoString} {kept : Kept}
    (there : (command.answer index outcome store).2.authChallenges id = some kept) :
    store.authChallenges id = some kept ∨
      ∃ challenge, command = .storeLocal id challenge ∧ kept = ⟨index, challenge⟩ := by
  cases command with
  | set key challenge =>
    refine .inl (Eq.trans (Eq.symm ?_) there)
    simp only [Command.answer, Outcome.exec]
    split <;> rfl
  | getDel key =>
    refine .inl (Eq.trans (Eq.symm ?_) there)
    simp only [Command.answer]
    split <;> rfl
  | storeLocal key challenge =>
    by_cases same : id = key
    · subst same
      have stored : kept = ⟨index, challenge⟩ := by
        simpa [Command.answer, AuthStore.withLocal] using there.symm
      exact .inr ⟨challenge, rfl, stored⟩
    · simp only [Command.answer, AuthStore.withLocal, Function.update_of_ne same] at there
      exact .inl (Option.mem_filter_iff.mp there).1
  | takeLocal key =>
    by_cases same : id = key
    · simp [Command.answer, same] at there
    · exact .inl (by simpa [Command.answer, same] using there)
  | updateAccountKey userID wrap =>
    rw [Command.answer, (update_challenges ⟨rfl, rfl⟩).2] at there
    exact .inl there
  | updateUserSRP userID record =>
    rw [Command.answer, (update_challenges ⟨rfl, rfl⟩).2] at there
    exact .inl there
  | _ => exact .inl there

theorem found_place {kept : Kept} (found : command.found outcome server.store = some kept) :
    ∃ place, place ≠ .request index ∧ server.holds place = some kept ∧
      (server.execute index thread outcome command following).holds place = none := by
  cases command with
  | getDel id =>
    have reported : outcome.error? = none := by
      by_contra failed
      simp [Command.found, failed] at found
    have held : server.store.ephemeral id = some kept := by
      simpa [Command.found, reported] using found
    refine ⟨.valkey id, by simp, held, ?_⟩
    simp [AuthServer.holds, AuthServer.execute, Command.answer,
      Outcome.applied_of_error?_none reported]
  | takeLocal id =>
    refine ⟨.process id, by simp, found, ?_⟩
    simp [AuthServer.holds, AuthServer.execute, Command.answer]
  | _ => cases found

inductive Origin (before after : AuthServer) (index : Nat) (command : Command) (holder : Holder)
    (kept : Kept) : Prop where
  | stored (id : GoString) (challenge : SRPChallenge) (issued : kept = ⟨index, challenge⟩)
      (stores : command = .set id challenge ∧ holder = .valkey id ∨
        command = .storeLocal id challenge ∧ holder = .process id)
  | stayed (there : before.holds holder = some kept)
  | taken (place : Holder) (different : place ≠ .request index) (now : holder = .request index)
      (there : before.holds place = some kept) (gone : after.holds place = none)

theorem holds_execute (present : server.threads index = some thread) {holder : Holder} {kept : Kept}
    (there : (server.execute index thread outcome command following).holds holder = some kept) :
    Origin server (server.execute index thread outcome command following) index command holder kept := by
  cases holder with
  | valkey id =>
    rcases ephemeral_after there with stayed | ⟨challenge, stores, issued⟩
    · exact .stayed stayed
    · exact .stored id challenge issued (.inl ⟨stores, rfl⟩)
  | process id =>
    rcases authChallenges_after there with stayed | ⟨challenge, stores, issued⟩
    · exact .stayed stayed
    · exact .stored id challenge issued (.inr ⟨stores, rfl⟩)
  | request other =>
    by_cases same : other = index
    · subst same
      rw [AuthServer.holds, execute_self] at there
      have met : (command.found outcome server.store).or thread.met = some kept := there
      cases found : command.found outcome server.store with
      | none =>
        rw [found] at met
        exact .stayed (by rw [AuthServer.holds, present]; exact met)
      | some taken =>
        rw [found] at met
        cases met
        obtain ⟨place, different, held, gone⟩ := found_place found
        exact .taken place different rfl held gone
    · rw [AuthServer.holds, execute_other same] at there
      exact .stayed there

theorem Orderly.issuer_ne (orderly : Orderly site server) (present : server.threads index = some thread)
    (asking : thread.program = .ask command following) {holder : Holder} {kept : Kept}
    (there : server.holds holder = some kept) : kept.issuer ≠ index := by
  rintro rfl
  obtain ⟨issuer, found, ⟨reply, answered⟩, -⟩ := orderly.held holder kept there
  cases found.symm.trans present
  cases answered.symm.trans asking

theorem Orderly.stores (orderly : Orderly site server) (present : server.threads index = some thread)
    (asking : thread.program = .ask command following) {challenge : SRPChallenge}
    (stores : (∃ id, command = .set id challenge) ∨ ∃ id, command = .storeLocal id challenge) :
    Issues site thread.request challenge ∧ challenge.createdAt = thread.read ∧
      (∀ reply, Settled (following reply)) ∧ command ≠ .now := by
  have judges := orderly.judges index thread present
  rw [asking] at judges
  rcases stores with ⟨id, rfl⟩ | ⟨id, rfl⟩
  · exact ⟨judges.1.1, judges.1.2.1, judges.1.2.2, nofun⟩
  · exact ⟨judges.1.1, judges.1.2.1, judges.1.2.2, nofun⟩

theorem Orderly.held_before (orderly : Orderly site server)
    (present : server.threads index = some thread) (asking : thread.program = .ask command following)
    {holder : Holder} {kept : Kept} (there : server.holds holder = some kept) :
    ∃ issuer, (server.execute index thread outcome command following).threads kept.issuer = some issuer ∧
      (∃ reply, issuer.program = .done reply) ∧ Issues site issuer.request kept.challenge ∧
      kept.challenge.createdAt = issuer.read := by
  obtain ⟨issuer, found, rest⟩ := orderly.held holder kept there
  exact ⟨issuer, (execute_other (orderly.issuer_ne present asking there)).trans found, rest⟩

theorem Orderly.execute (orderly : Orderly site server)
    (present : server.threads index = some thread) (asking : thread.program = .ask command following) :
    Orderly site (server.execute index thread outcome command following) where
  judges other advanced found := by
    by_cases same : other = index
    · subst same
      rw [execute_self] at found
      cases found
      have judges := orderly.judges other thread present
      rw [asking] at judges
      rw [next_memory thread other]
      exact judges.2 _ (answer_credible ..)
    · rw [execute_other same] at found
      exact orderly.judges other advanced found
  held holder kept there := by
    cases holds_execute present there with
    | stored id challenge issued stores =>
      subst issued
      obtain ⟨issues, created, settled, notNow⟩ := orderly.stores present asking
        (stores.imp (fun set => ⟨id, set.1⟩) fun locally => ⟨id, locally.1⟩)
      obtain ⟨reply, answered, -⟩ := settled (command.answer index outcome server.store).1
      refine ⟨_, execute_self, ⟨reply, answered⟩, issues, ?_⟩
      rw [created, Thread.next, if_neg notNow]
    | stayed before => exact orderly.held_before present asking before
    | taken place _ _ before => exact orderly.held_before present asking before
  alone holder other kept same there here equal := by
    cases holds_execute present there with
    | stored id challenge issued stores =>
      subst issued
      cases holds_execute present here with
      | stored otherID otherChallenge otherIssued otherStores =>
        rcases stores with ⟨rfl, rfl⟩ | ⟨rfl, rfl⟩
        · rcases otherStores with ⟨⟨⟩, rfl⟩ | ⟨⟨⟩, -⟩
          rfl
        · rcases otherStores with ⟨⟨⟩, -⟩ | ⟨⟨⟩, rfl⟩
          rfl
      | stayed before => exact absurd equal.symm (orderly.issuer_ne present asking before)
      | taken place _ _ before => exact absurd equal.symm (orderly.issuer_ne present asking before)
    | stayed before =>
      cases holds_execute present here with
      | stored _ _ issued _ =>
        subst issued
        exact absurd equal (orderly.issuer_ne present asking before)
      | stayed otherBefore => exact orderly.alone holder other kept same before otherBefore equal
      | taken place _ _ otherBefore gone =>
        -- the place is empty now, so the first challenge is not there
        cases orderly.alone holder place kept same before otherBefore equal
        cases there.symm.trans gone
    | taken place _ now before gone =>
      cases holds_execute present here with
      | stored _ _ issued _ =>
        subst issued
        exact absurd equal (orderly.issuer_ne present asking before)
      | stayed otherBefore =>
        cases orderly.alone place other kept same before otherBefore equal
        cases here.symm.trans gone
      | taken _ _ otherNow _ _ => exact now.trans otherNow.symm

theorem Orderly.shrink (orderly : Orderly site server)
    (judges : ∀ index thread, next.threads index = some thread →
      Judges site thread.request thread.program thread.memory)
    (stay : ∀ index thread, server.threads index = some thread → next.threads index = some thread)
    (fewer : ∀ holder kept, next.holds holder = some kept → server.holds holder = some kept) :
    Orderly site next where
  judges
  held holder kept there := by
    obtain ⟨issuer, found, rest⟩ := orderly.held holder kept (fewer holder kept there)
    exact ⟨issuer, stay _ _ found, rest⟩
  alone holder other kept same there here :=
    orderly.alone holder other kept same (fewer _ _ there) (fewer _ _ here)

theorem Orderly.step (orderly : Orderly site server) {event : Event}
    (taken : server.step site event = some next) : Orderly site next := by
  cases event with
  | advance index outcome =>
    simp only [AuthServer.step] at taken
    split at taken
    · cases taken
    next thread present =>
    split at taken
    · cases taken
    next command following asking =>
      cases taken
      exact orderly.execute present asking
  | begin index request =>
    simp only [AuthServer.step] at taken
    split at taken
    next idle =>
      cases taken
      have idle : server.threads index = none := by simpa using idle
      refine orderly.shrink ?_ ?_ ?_
      · intro other thread found
        dsimp only at found
        by_cases same : other = index
        · subst same
          rw [Function.update_self] at found
          cases found
          exact program_judges request 0
        · rw [Function.update_of_ne same] at found
          exact orderly.judges other thread found
      · intro other thread found
        have different : other ≠ index := by
          rintro rfl
          cases idle.symm.trans found
        exact (Function.update_of_ne different ..).trans found
      · intro holder kept there
        cases holder with
        | valkey id => exact there
        | process id => exact there
        | request other =>
          by_cases same : other = index
          · subst same
            simp [AuthServer.holds] at there
          · simpa [AuthServer.holds, same] using there
    · cases taken
  | lapse id =>
    cases taken
    refine orderly.shrink orderly.judges (fun _ _ found => found) ?_
    intro holder kept there
    cases holder with
    | valkey other =>
      by_cases same : other = id
      · simp [AuthServer.holds, same] at there
      · simpa [AuthServer.holds, same] using there
    | process other => exact there
    | request other => exact there
  | lose id =>
    cases taken
    refine orderly.shrink orderly.judges (fun _ _ found => found) ?_
    intro holder kept there
    cases holder with
    | valkey other => exact there
    | process other =>
      by_cases same : other = id
      · simp [AuthServer.holds, same] at there
      · simpa [AuthServer.holds, same] using there
    | request other => exact there
  | tick clock =>
    cases taken
    refine orderly.shrink orderly.judges (fun _ _ found => found) ?_
    intro holder kept there
    cases holder <;> exact there
  | accounts users accountKeys =>
    cases taken
    refine orderly.shrink orderly.judges (fun _ _ found => found) ?_
    intro holder kept there
    cases holder <;> exact there

theorem start_orderly (users : List UserAuth) (accountKeys : Nat → Option AccountKeyWrap) :
    Orderly site (.start users accountKeys) where
  judges := by
    intro index thread found
    cases found
  held := by
    intro holder kept there
    cases holder <;> cases there
  alone := by
    intro holder other kept same there
    cases holder <;> cases there

end Steps

/-- A finish request acts with a challenge that another request issued for the same purpose
and user, not longer ago than it lives, on the proof that was expected. -/
structure Rightly (site : AuthSite) (server : AuthServer) (thread : Thread) (userID : Nat)
    (kept : Kept) (issuer : Thread) : Prop where
  met : thread.met = some kept
  found : server.threads kept.issuer = some issuer
  issues : Issues site issuer.request kept.challenge
  purpose : issuer.request.purpose = thread.request.purpose
  user : kept.challenge.userID = some userID
  session : ∀ session ∈ thread.request.sessionUser, session = userID
  issuerSession : ∀ session ∈ issuer.request.sessionUser, session = userID
  inTime : thread.read - issuer.read ≤ srpChallengeTTL
  proof : ∃ body, thread.request.finishBody = some body ∧ body.proves kept.challenge = true

/-- Challenges are taken away once, by the request that finds them, whatever it makes of
them, and a request acts only rightly. -/
structure Once (site : AuthSite) (server : AuthServer) : Prop where
  takes : ∀ index thread command following kept, server.threads index = some thread →
    thread.program = .ask command following → command.found .done server.store = some kept →
    (server.execute index thread .done command following).holds (.request index) = some kept
  single : ∀ index other kept same, server.holds (.request index) = some kept →
    server.holds (.request other) = some same → kept.issuer = same.issuer → index = other
  consumed : ∀ index kept, server.holds (.request index) = some kept → ∀ id same,
    server.store.ephemeral id = some same ∨ server.store.authChallenges id = some same →
    same.issuer ≠ kept.issuer
  accepted : ∀ index thread userID, server.threads index = some thread →
    Acting thread.program userID → ∃ kept issuer, Rightly site server thread userID kept issuer

theorem Purpose.text_injective : Function.Injective Purpose.text := by
  intro first second same
  cases first <;> cases second <;> first | rfl | exact absurd same (by decide)

theorem Issues.for_request {site : AuthSite} {request : Request} {challenge : SRPChallenge}
    (issues : Issues site request challenge) :
    challenge.purpose = request.purpose.text ∧
      ∀ session ∈ request.sessionUser, challenge.userID = some session := by
  cases request with
  | loginBegin => exact ⟨issues.1, nofun⟩
  | passwordBegin | deleteBegin =>
    obtain ⟨purpose, row, own, addressed, -⟩ := issues
    refine ⟨purpose, ?_⟩
    rintro _ ⟨⟩
    exact addressed.trans (congrArg some own)
  | loginFinish | passwordFinish | deleteFinish => exact issues.elim

def AuthSite.sample : AuthSite := ⟨⟨.plain, [], some, fun _ => none, fun _ => none⟩, unitHash, true⟩

def alice : UserAuth :=
  ⟨7, ascii "alice@elvish.local", srpPasswordSentinel, ascii "srp", [1], [1], [], []⟩

def deletions : List Event :=
  let proof : FinishBody := ⟨ascii "first", base64Encode (unitHash.sum [])⟩
  [.begin 0 (.deleteBegin ⟨some unitScalar, .ok [], ascii "first"⟩ none 7 (base64Encode [2])),
    .advance 0 .done, .advance 0 .done, .advance 0 .done,
    .begin 1 (.deleteFinish none 7 (ascii "DELETE") proof),
    .begin 2 (.deleteFinish none 7 (ascii "DELETE") proof),
    .advance 1 .done, .advance 2 .done, .advance 1 .done, .advance 2 .done]

def deletionsServer : AuthServer :=
  (authServer .sample).after deletions (.start [alice] fun _ => none)

def AuthServer.reply? (server : AuthServer) (index : Nat) : Option AuthReply :=
  match (server.threads index).map Thread.program with
  | some (.done reply) => some reply
  | _ => none

end ElvishMail.Httpserver.Auth
