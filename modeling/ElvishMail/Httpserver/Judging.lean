import ElvishMail.Httpserver.Challenges

/-!
# What a request has accepted

Of each request alone: a begin request issues one challenge, for its purpose and its user,
and a finish request acts only on a challenge that it took away and found to be for its
purpose, its user and its proof, in time (`program_judges`).
-/

namespace ElvishMail.Httpserver.Auth

open Go Smtp Mailmeta Pake Semantics

inductive Purpose where
  | login
  | passwordChange
  | accountDelete
deriving DecidableEq

def Purpose.text : Purpose → GoString
  | login => ascii "login"
  | passwordChange => ascii "password-change"
  | accountDelete => ascii "account-delete"

namespace Request

def purpose : Request → Purpose
  | loginBegin .. | loginFinish .. => .login
  | passwordBegin .. | passwordFinish .. => .passwordChange
  | deleteBegin .. | deleteFinish .. => .accountDelete

def sessionUser : Request → Option Nat
  | loginBegin .. | loginFinish .. => none
  | passwordBegin _ _ userID _ | deleteBegin _ _ userID _ => some userID
  | passwordFinish _ userID _ | deleteFinish _ userID _ _ => some userID

def finishBody : Request → Option FinishBody
  | loginFinish _ body | deleteFinish _ _ _ body => some body
  | passwordFinish _ _ body => some body.proof
  | _ => none

end Request

inductive Acting : Commands → Nat → Prop where
  | verified (userID : Nat) (serverProof : GoString) : Acting (.done (.verified userID serverProof)) userID
  | changed (userID : Nat) (serverProof : GoString) : Acting (.done (.changed userID serverProof)) userID
  | accountKey (userID : Nat) (wrap : AccountKeyWrap) (next : Option StoreError → Commands) :
      Acting (.ask (.updateAccountKey userID wrap) next) userID
  | verifier (userID : Nat) (record : SRPRecord) (next : Option StoreError → Commands) :
      Acting (.ask (.updateUserSRP userID record) next) userID

section Site

variable (site : AuthSite)

/-- The expected proof is that of a server session on the data of a user. -/
def Computed (draws : Draws) (username : GoString) (row : UserAuth) (clientPublicB64 : GoString)
    (challenge : SRPChallenge) : Prop :=
  challenge.userID = some row.userID ∧
    ∃ clientPublic session, decodeB64Field clientPublicB64 = some clientPublic ∧
      serverSession site draws username row.srpSalt row.srpVerifier clientPublic = some session ∧
      challenge.expectedClientProof = session.expectedClientM1

def Issues : Request → SRPChallenge → Prop
  | .loginBegin draws _ body, challenge =>
    challenge.purpose = Purpose.login.text ∧
      (challenge.userID = none ∨ ∃ username row,
        normalizeAndValidateUsername site.site.lib body.username = some username ∧
        row.email = trimLower site.site.lib
          (composeCanonicalEmail site.site.lib username site.site.effectiveMailDomain) ∧
        Computed site draws username row body.clientPublicB64 challenge)
  | .passwordBegin draws _ userID clientPublicB64, challenge =>
    challenge.purpose = Purpose.passwordChange.text ∧ ∃ row : UserAuth, row.userID = userID ∧
      Computed site draws (usernameFromCanonicalEmail site row.email) row clientPublicB64 challenge
  | .deleteBegin draws _ userID clientPublicB64, challenge =>
    challenge.purpose = Purpose.accountDelete.text ∧ ∃ row : UserAuth, row.userID = userID ∧
      Computed site draws (usernameFromCanonicalEmail site row.email) row clientPublicB64 challenge
  | _, _ => False

structure Accepts (request : Request) (challenge : SRPChallenge) (now : Int) (userID : Nat) : Prop where
  purpose : challenge.purpose = request.purpose.text
  fresh : now - challenge.createdAt ≤ srpChallengeTTL
  user : challenge.userID = some userID
  own : ∀ session ∈ request.sessionUser, session = userID
  proof : ∃ body, request.finishBody = some body ∧ body.proves challenge = true

/-- What a request remembers: the challenge it took away, and its last look at the clock. -/
structure Memory where
  met : Option SRPChallenge
  read : Int

def Memory.after : (command : Command) → command.Answer → Memory → Memory
  | .now, now, memory => { memory with read := now }
  | .getDel _, .ok (some challenge), memory => { memory with met := some challenge }
  | .takeLocal _, some challenge, memory => { memory with met := some challenge }
  | _, _, memory => memory

def Settled (program : Commands) : Prop :=
  ∃ reply, program = .done reply ∧ ∀ userID, ¬Acting program userID

def Credible : (command : Command) → command.Answer → Prop
  | .userAuthByEmail email, .ok row => row.email = email
  | .userByID userID, .ok row => row.userID = userID
  | _, _ => True

def Follows (request : Request) : (command : Command) → Memory → (command.Answer → Commands) → Prop
  | .set _ challenge, memory, next =>
    Issues site request challenge ∧ challenge.createdAt = memory.read ∧
      ∀ reply, Settled (next reply)
  | .storeLocal _ challenge, memory, next =>
    Issues site request challenge ∧ challenge.createdAt = memory.read ∧
      ∀ reply, Settled (next reply)
  | .getDel _, memory, _ | .takeLocal _, memory, _ => memory.met = none
  | .updateAccountKey userID _, memory, _ | .updateUserSRP userID _, memory, _ =>
    ∃ challenge, memory.met = some challenge ∧ Accepts request challenge memory.read userID
  | _, _, _ => True

def Judges (request : Request) : Commands → Memory → Prop
  | .done reply, memory => ∀ userID, Acting (.done reply) userID →
      ∃ challenge, memory.met = some challenge ∧ Accepts request challenge memory.read userID
  | .ask command next, memory =>
    Follows site request command memory next ∧
      ∀ reply, Credible command reply → Judges request (next reply) (memory.after command reply)

theorem Judges.accepted {request : Request} {program : Commands} {memory : Memory} {userID : Nat}
    (judges : Judges site request program memory) (acting : Acting program userID) :
    ∃ challenge, memory.met = some challenge ∧ Accepts request challenge memory.read userID := by
  cases acting with
  | verified serverProof => exact judges _ (.verified ..)
  | changed serverProof => exact judges _ (.changed ..)
  | accountKey wrap next => exact judges.1
  | verifier record next => exact judges.1

section Programs

variable {site} {request : Request} {memory : Memory}

theorem refuse_judges (code : Nat) (text : String) : Judges site request (refuse code text) memory := by
  intro userID acting
  cases acting

theorem fault_judges (label : String) (err : GoError) :
    Judges site request (fault label err) memory := by
  intro userID acting
  cases acting

theorem refused_judges (refusal : Refusal) :
    Judges site request (.done (.refused refusal)) memory := by
  intro userID acting
  cases acting

theorem issued_settled (id : GoString) : Settled (.done (.issued id)) :=
  ⟨_, rfl, fun _ acting => by cases acting⟩

theorem fault_settled (label : String) (err : GoError) : Settled (fault label err) :=
  ⟨_, rfl, fun _ acting => by cases acting⟩

theorem Settled.judges {program : Commands} (settled : Settled program) :
    Judges site request program memory := by
  obtain ⟨reply, rfl, quiet⟩ := settled
  intro userID acting
  exact absurd acting (quiet userID)

theorem issue_judges {label : String} {id : GoString} {challenge : SRPChallenge}
    (issues : ∀ createdAt, Issues site request { challenge with createdAt }) :
    Judges site request (issueSRPChallenge site label id challenge) memory := by
  refine ⟨trivial, fun createdAt _ => ?_⟩
  dsimp only
  split
  · split
    · exact fault_judges _ _
    · refine ⟨⟨issues createdAt, rfl, fun reply => ?_⟩, fun reply _ => Settled.judges ?_⟩
      all_goals
        cases reply with
        | some err => exact fault_settled label err
        | none => exact issued_settled id
  · exact ⟨⟨issues createdAt, rfl, fun _ => issued_settled id⟩,
      fun _ _ => (issued_settled id).judges⟩

section Taking

variable {purpose : GoString} {next : Option SRPChallenge → Commands}
  (refusing : ∀ memory, Judges site request (next none) memory)
  (accepting : ∀ challenge read, challenge.purpose = purpose →
    read - challenge.createdAt ≤ srpChallengeTTL →
    Judges site request (next (some challenge)) ⟨some challenge, read⟩)

include refusing accepting

theorem checkTaken_judges (named : purpose ≠ []) {challenge : SRPChallenge}
    (met : memory.met = some challenge) :
    Judges site request (checkTaken purpose challenge next) memory := by
  unfold checkTaken
  split
  · exact refusing memory
  next same =>
    have equal : challenge.purpose = purpose := by
      by_contra different
      exact same ⟨named, different⟩
    refine ⟨trivial, fun now _ => ?_⟩
    have held : memory.after .now now = ⟨some challenge, now⟩ := by
      rw [← met]
      rfl
    rw [held]
    dsimp only
    split
    · exact refusing _
    next early => exact accepting challenge now equal (Int.not_lt.mp early)

theorem takeLocal_judges (named : purpose ≠ []) {id : GoString} (empty : memory.met = none) :
    Judges site request (takeLocalChallenge id purpose next) memory := by
  refine ⟨empty, fun reply _ => ?_⟩
  cases reply with
  | none => exact refusing _
  | some challenge => exact checkTaken_judges refusing accepting named rfl

theorem take_judges (named : purpose ≠ []) {label : String} {id : GoString}
    (empty : memory.met = none) :
    Judges site request (takeSRPChallenge site label id purpose next) memory := by
  unfold takeSRPChallenge
  split
  · split
    · exact fault_judges _ _
    · refine ⟨empty, fun reply _ => ?_⟩
      cases reply with
      | error err => exact fault_judges _ _
      | ok found =>
        cases found with
        | none => exact takeLocal_judges refusing accepting named empty
        | some challenge => exact checkTaken_judges refusing accepting named rfl
  · exact takeLocal_judges refusing accepting named empty

end Taking

theorem verify_judges {label : String} {purpose : Purpose} {userID : Nat} {body : FinishBody}
    {next : SRPChallenge → Commands} (empty : memory.met = none)
    (toward : request.purpose = purpose) (session : request.sessionUser = some userID)
    (sent : request.finishBody = some body) {text : String} (named : purpose.text = ascii text)
    (accepting : ∀ challenge read, Accepts request challenge read userID →
      Judges site request (next challenge) ⟨some challenge, read⟩) :
    Judges site request (verifySRP site label text userID body next) memory := by
  have nonempty : ascii text ≠ [] := by
    rw [← named]
    cases purpose <;> decide
  refine take_judges (fun _ => refuse_judges _ _) ?_ nonempty empty
  intro challenge read same fresh
  dsimp only
  split
  · exact refuse_judges _ _
  next own =>
  split
  · exact refuse_judges _ _
  next proved =>
    refine accepting challenge read ⟨?_, fresh, by simpa using own, ?_, body, sent, by simpa using proved⟩
    · rw [same, toward, named]
    · rw [session]
      rintro _ ⟨⟩
      rfl

theorem beginSRP_judges {purpose loading storing : String} {draws : Draws} {gate : Option Refusal}
    {userID : Nat} {clientPublicB64 : GoString}
    (issues : ∀ challenge : SRPChallenge, challenge.purpose = ascii purpose →
      (∃ row : UserAuth, row.userID = userID ∧
        Computed site draws (usernameFromCanonicalEmail site row.email) row clientPublicB64 challenge) →
      Issues site request challenge) :
    Judges site request (beginSRP site purpose loading storing draws gate userID clientPublicB64)
      memory := by
  unfold beginSRP
  split
  · exact refused_judges _
  split
  · exact refuse_judges _ _
  next clientPublic decoded =>
  refine ⟨trivial, fun reply credible => ?_⟩
  cases reply with
  | error err => exact fault_judges _ _
  | ok fresh =>
    dsimp only
    split
    · exact refuse_judges _ _
    split
    · exact refuse_judges _ _
    next session opened =>
      apply issue_judges
      intro createdAt
      exact issues _ rfl ⟨fresh, credible, rfl, clientPublic, session, decoded, opened, rfl⟩

theorem issueLogin_judges {draws : Draws} {gate : Option Refusal} {body : LoginBegin}
    {username clientPublic : GoString} {authUser : Option UserAuth} {reg : Pake.Registration}
    (normal : normalizeAndValidateUsername site.site.lib body.username = some username)
    (decoded : decodeB64Field body.clientPublicB64 = some clientPublic)
    (addressed : ∀ row ∈ authUser, row.email = trimLower site.site.lib
      (composeCanonicalEmail site.site.lib username site.site.effectiveMailDomain))
    (registered : ∀ row ∈ authUser, reg.salt = row.srpSalt ∧ reg.verifier = row.srpVerifier) :
    Judges site (.loginBegin draws gate body)
      (issueLogin site draws username clientPublic authUser reg) memory := by
  unfold issueLogin
  split
  · exact fault_judges _ _
  split
  · exact refuse_judges _ _
  next session opened =>
    apply issue_judges
    intro createdAt
    refine ⟨rfl, ?_⟩
    cases authUser with
    | none => exact .inl rfl
    | some row =>
      obtain ⟨salt, verifier⟩ := registered row rfl
      rw [salt, verifier] at opened
      exact .inr ⟨username, row, normal, addressed row rfl, rfl, clientPublic, session, decoded,
        opened, rfl⟩

theorem loginBegin_judges {draws : Draws} {gate : Option Refusal} {body : LoginBegin} :
    Judges site (.loginBegin draws gate body) (apiLoginSRPBegin site draws gate body) memory := by
  unfold apiLoginSRPBegin
  split
  · exact refused_judges _
  split
  · exact refuse_judges _ _
  next username normal =>
  split
  · exact refuse_judges _ _
  next clientPublic decoded =>
  have dummy (reg : Pake.Registration) (memory : Memory) : Judges site (.loginBegin draws none body)
      (issueLogin site draws username clientPublic none reg) memory :=
    issueLogin_judges normal decoded (by simp) (by simp)
  refine ⟨trivial, fun reply credible => ?_⟩
  cases reply with
  | error err =>
    cases err with
    | notFound =>
      dsimp only
      split
      · exact fault_judges _ _
      · exact dummy _ _
    | failed err => exact fault_judges _ _
  | ok row =>
    dsimp only
    split
    · split
      · exact fault_judges _ _
      · exact dummy _ _
    split
    · refine issueLogin_judges normal decoded ?_ ?_
      · rintro _ ⟨⟩
        exact credible
      · rintro _ ⟨⟩
        exact ⟨rfl, rfl⟩
    · split
      · exact fault_judges _ _
      · exact dummy _ _

theorem loginFinish_judges {gate : Option Refusal} {body : FinishBody} (empty : memory.met = none) :
    Judges site (.loginFinish gate body) (apiLoginSRPFinish site gate body) memory := by
  unfold apiLoginSRPFinish
  split
  · exact refused_judges _
  split
  · exact refuse_judges _ _
  refine take_judges (fun _ => refuse_judges _ _) ?_ (by decide) empty
  intro challenge read purpose fresh
  dsimp only
  split
  · exact refuse_judges _ _
  next passed =>
  split
  · exact refuse_judges _ _
  next userID named =>
  have proved : body.proves challenge = true := by
    by_contra failed
    exact passed (.inl (by simpa using failed))
  refine ⟨trivial, fun reply credible => ?_⟩
  cases reply with
  | error err => exact refuse_judges _ _
  | ok user =>
    intro acting acts
    cases acts
    refine ⟨challenge, rfl, purpose, fresh, ?_, by rintro _ ⟨⟩, body, rfl, proved⟩
    exact named.trans (congrArg some credible.symm)

theorem storePassword_judges {userID : Nat} {challenge : SRPChallenge} {read : Int}
    (accepts : Accepts request challenge read userID) (wrap : AccountKeyWrap) (record : SRPRecord)
    (serverProof : GoString) :
    Judges site request (storePassword userID wrap record serverProof) ⟨some challenge, read⟩ := by
  refine ⟨⟨challenge, rfl, accepts⟩, fun reply _ => ?_⟩
  cases reply with
  | some err =>
    cases err with
    | notFound => exact refuse_judges _ _
    | failed err => exact fault_judges _ _
  | none =>
    show Judges site request (updateUserSRP userID record _) _
    unfold updateUserSRP
    split
    · exact fault_judges _ _
    refine ⟨⟨challenge, rfl, accepts⟩, fun reply _ => ?_⟩
    cases reply with
    | some err => exact fault_judges _ _
    | none =>
      intro acting acts
      cases acts
      exact ⟨challenge, rfl, accepts⟩

theorem program_judges (request : Request) (read : Int) :
    Judges site request (request.program site) ⟨none, read⟩ := by
  cases request with
  | loginBegin draws gate body => exact loginBegin_judges
  | passwordBegin draws gate userID clientPublicB64 =>
    exact beginSRP_judges fun challenge purpose computed => ⟨purpose, computed⟩
  | deleteBegin draws gate userID clientPublicB64 =>
    exact beginSRP_judges fun challenge purpose computed => ⟨purpose, computed⟩
  | loginFinish gate body => exact loginFinish_judges rfl
  | passwordFinish gate userID body =>
    show Judges site _ (apiAuthPasswordSRPFinish site gate userID body) _
    unfold apiAuthPasswordSRPFinish
    split
    · exact refused_judges _
    refine verify_judges rfl rfl rfl rfl rfl ?_
    intro challenge read accepts
    split
    · exact refused_judges _
    · exact storePassword_judges accepts _ _ _
  | deleteFinish gate userID confirmation body =>
    show Judges site _ (decodeVerifiedAccountDeleteAction site gate userID confirmation body) _
    unfold decodeVerifiedAccountDeleteAction
    split
    · exact refused_judges _
    split
    · exact refuse_judges _ _
    refine verify_judges rfl rfl rfl rfl rfl ?_
    intro challenge read accepts acting acts
    cases acts
    exact ⟨challenge, rfl, accepts⟩

end Programs

end Site

end ElvishMail.Httpserver.Auth
