import ElvishMail.Keyvault.Vault
import ElvishMail.Semantics.Machine

/-!
# Locking the vault

`zero` forgets every key, but it does not reach the calls that are suspended
somewhere between a password and the assignment of a key. Whether a lock is final
depends on which calls are in flight when it happens.
-/

namespace ElvishMail.Keyvault

open Js Semantics

/-- A call in flight, and how often the vault had been locked when it started. -/
structure Call where
  since : Nat
  task : Task
deriving DecidableEq

/-- The vault with its calls. `locks` counts the locks, `cleared` is their number at the
last one that cleared the storages, and `opened` says whether a call that started
after the last lock has assigned the account key since. -/
structure System where
  vault : Vault
  calls : List Call := []
  locks : Nat := 0
  cleared : Nat := 0
  opened : Bool := true
deriving DecidableEq

/-- What can happen: a call is made, a call goes on, the vault is locked by the user or
by the idle timer. -/
inductive Action where
  | unlockAccount (meRow : AccountRow) (sessionEmail : JsString)
  | tryRestoreAccountFromSession (sessionEmail : JsString)
  | unlockIdentity (row : IdentityRow)
  | ensureIdentityUnlocked (fingerprint : JsString) (rows : Option (List IdentityRow))
  | decryptToResult (fingerprint : JsString) (rows : Option (List IdentityRow))
  | resume (index : Nat) (reply : Reply)
  | zero (clearPersisted clearTrustedDevice : Bool)
  | idle
deriving DecidableEq

namespace System

/-- A call is made, and runs until it awaits something. -/
def start (system : System) (turn : Turn) : System :=
  { system with
    vault := turn.1
    calls := system.calls ++ (turn.2.map (Call.mk system.locks)).toList }

def assigned : Option Task → Bool
  | some (.readPublicKey ..) => true
  | _ => false

def proceed (system : System) (index : Nat) (call : Call) (turn : Turn) : System :=
  { system with
    vault := turn.1
    calls := system.calls.eraseIdx index ++ (turn.2.map (Call.mk call.since)).toList
    opened := system.opened || (call.since == system.locks && assigned turn.2) }

def lock (host : Host) (system : System) (clearPersisted clearTrustedDevice : Bool) : System :=
  { system with
    vault := system.vault.zero host clearPersisted clearTrustedDevice
    locks := system.locks + 1
    cleared := if clearPersisted then system.locks + 1 else system.cleared
    opened := false }

end System

def vaultMachine (host : Host) : Machine System Action where
  step := fun system action =>
    match action with
    | .unlockAccount meRow sessionEmail =>
      some (system.start (system.vault, some (.deriveKEK meRow sessionEmail)))
    | .tryRestoreAccountFromSession sessionEmail =>
      some (system.start (tryRestoreAccountFromSession host system.vault sessionEmail))
    | .unlockIdentity row => some (system.start (unlockIdentity host system.vault row .unlock))
    | .ensureIdentityUnlocked fingerprint rows =>
      some (system.start (ensureIdentityUnlocked host system.vault fingerprint rows .unlock))
    | .decryptToResult fingerprint rows =>
      some (system.start (decryptToResult host system.vault fingerprint rows))
    | .resume index reply => do
        let call ← system.calls[index]?
        let turn ← resume host system.vault call.since call.task reply
        some (system.proceed index call turn)
    | .zero clearPersisted clearTrustedDevice =>
      some (system.lock host clearPersisted clearTrustedDevice)
    | .idle => if system.vault.timer then some (system.lock host false false) else none

def Vault.Holds (vault : Vault) : Prop :=
  vault.accountPrivateKey ≠ none ∨ vault.accountArmoredPriv ≠ [] ∨ vault.identities ≠ []

def Vault.Caches (vault : Vault) (entry : Cached) : Prop :=
  ∃ storage, (vault.sessionStorage = some storage ∨ vault.localStorage = some storage) ∧
    storage.account = some entry

/-- A lock is final: the vault holds a key only once a call that started after the last
lock has assigned one, and what is cached was written by calls that started after
the storages were last cleared. -/
structure Final (system : System) : Prop where
  held : system.vault.Holds → system.opened = true
  cached : ∀ entry, system.vault.Caches entry → system.cleared ≤ entry.writer

def Task.assignsAccount : Task → Bool
  | .deriveKEK .. | .aesUnwrap .. | .readPrivateKey .. | .pgpFingerprint .. | .readPublicKey .. => true
  | _ => false

def Task.assignsIdentity : Task → Bool
  | .decryptKey .. | .readIdentityKey .. | .readIdentityPublicKey .. | .identityFingerprint .. => true
  | _ => false

def Task.writesCache : Task → Bool
  | .deriveKEK .. | .aesUnwrap .. | .hydrated .. => true
  | .readPrivateKey _ _ _ caller | .pgpFingerprint _ _ _ _ caller | .readPublicKey _ _ caller =>
    caller ≠ .tryRestoreAccountFromSession
  | _ => false

/-- No call is in flight that a lock would have to stop. -/
def Quiescent (system : System) (clearPersisted : Bool) : Prop :=
  ∀ call ∈ system.calls, call.task.assignsAccount = false ∧ call.task.assignsIdentity = false ∧
    (clearPersisted = true → call.task.writesCache = false)

/-- The vault is locked only while it is quiescent. -/
def LocksQuiescent (system : System) : Action → Prop
  | .zero clearPersisted _ => Quiescent system clearPersisted
  | .idle => Quiescent system false
  | _ => True

section Turns

variable {host : Host} {vault : Vault}

theorem holds_update {change : Storage → Storage} :
    (vault.update host change).Holds ↔ vault.Holds := by
  unfold Vault.update
  split <;> rfl

theorem caches_update {change : Storage → Storage} {entry : Cached}
    (cached : (vault.update host change).Caches entry) :
    vault.Caches entry ∨
      ∃ storage, (vault.sessionStorage = some storage ∨ vault.localStorage = some storage) ∧
        (change storage).account = some entry := by
  obtain ⟨storage, place, account⟩ := cached
  unfold Vault.update at place
  split at place
  · exact .inl ⟨storage, place, account⟩
  · rcases place with there | changed
    · exact .inl ⟨storage, .inl there, account⟩
    · obtain ⟨before, there, rfl⟩ := Option.map_eq_some_iff.mp changed
      exact .inr ⟨before, .inr there, account⟩
  · rcases place with changed | there
    · obtain ⟨before, there, rfl⟩ := Option.map_eq_some_iff.mp changed
      exact .inr ⟨before, .inl there, account⟩
    · exact .inl ⟨storage, .inr there, account⟩

theorem not_caches_clear {entry : Cached} : ¬vault.clearPersistedAccountCache.Caches entry := by
  rintro ⟨storage, changed | changed, account⟩
  all_goals
    obtain ⟨before, -, rfl⟩ := Option.map_eq_some_iff.mp changed
    cases account

structure TurnSpec (vault : Vault) (since : Nat) (task : Task) (turn : Turn) : Prop where
  held : turn.1.Holds → vault.Holds ∨ System.assigned turn.2 = true ∨
    System.assigned (some task) = true ∨ task.assignsIdentity = true
  cached : ∀ entry, turn.1.Caches entry → vault.Caches entry ∨
    entry.writer = since ∧ task.writesCache = true
  account : ∀ next ∈ turn.2, next.assignsAccount = true → task.assignsAccount = true
  identity : ∀ next ∈ turn.2, next.assignsIdentity = true →
    task.assignsIdentity = true ∨ vault.Holds
  writes : ∀ next ∈ turn.2, next.writesCache = true → task.writesCache = true

theorem TurnSpec.await {since : Nat} {task : Task} {next : Option Task}
    (account : ∀ task' ∈ next, task'.assignsAccount = true → task.assignsAccount = true)
    (identity : ∀ task' ∈ next, task'.assignsIdentity = true →
      task.assignsIdentity = true ∨ vault.Holds)
    (writes : ∀ task' ∈ next, task'.writesCache = true → task.writesCache = true) :
    TurnSpec vault since task (vault, next) :=
  ⟨.inl, fun _ cached => .inl cached, account, identity, writes⟩

theorem TurnSpec.done {since : Nat} {task : Task} : TurnSpec vault since task (vault, none) :=
  .await nofun nofun nofun

theorem TurnSpec.advance {since : Nat} {task next : Task}
    (account : next.assignsAccount = task.assignsAccount)
    (identity : next.assignsIdentity = task.assignsIdentity)
    (writes : next.writesCache = task.writesCache) : TurnSpec vault since task (vault, some next) := by
  refine .await ?_ ?_ ?_ <;> rintro task ⟨⟩ stores
  · exact account ▸ stores
  · exact .inl (identity ▸ stores)
  · exact writes ▸ stores

theorem thrown_spec {since : Nat} {task : Task} {caller : Caller} :
    TurnSpec vault since task (vault, caller.thrown) := by
  cases caller with
  | unlockAccount sessionEmail armoredPub => exact .done
  | tryRestoreAccountFromSession =>
    refine .await ?_ ?_ ?_ <;> rintro task ⟨⟩ stores <;> cases stores

theorem assignPrivateKey_spec {since : Nat} {armoredPriv armoredPub expected fingerprint : JsString}
    {priv : PrivateKey} {caller : Caller} :
    TurnSpec vault since (.pgpFingerprint armoredPriv armoredPub expected priv caller)
      (assignPrivateKey host vault armoredPriv expected fingerprint priv caller) := by
  unfold assignPrivateKey
  dsimp only
  split
  · exact thrown_spec
  split
  · exact thrown_spec
  · refine ⟨fun _ => .inr (.inl rfl), fun _ cached => .inl cached, ?_, ?_, ?_⟩ <;> rintro task ⟨⟩ stores
    · rfl
    · cases stores
    · exact stores

theorem assignAccount_spec {since : Nat} {armoredPriv fingerprint : JsString} {key : PublicKey}
    {caller : Caller} :
    TurnSpec vault since (.readPublicKey armoredPriv fingerprint caller)
      (assignAccount vault armoredPriv fingerprint key caller) := by
  refine ⟨fun _ => .inr (.inr (.inl rfl)), fun _ cached => .inl cached, fun _ _ _ => rfl, ?_, ?_⟩
  · rintro task next stores
    cases caller <;> cases next
    cases stores
  · rintro task next stores
    cases caller <;> cases next
    rfl

theorem purpose_spec {since : Nat} {task : Task} {purpose : Purpose} :
    TurnSpec vault since task (vault, purpose.next) := by
  cases purpose with
  | unlock => exact .done
  | decrypt fingerprint => refine .await ?_ ?_ ?_ <;> rintro task ⟨⟩ stores <;> cases stores

theorem assignIdentity_spec {since : Nat} {row : IdentityRow} {armoredPriv fingerprint : JsString}
    {privateKey : PrivateKey} {publicKey : PublicKey} {purpose : Purpose} :
    TurnSpec vault since (.identityFingerprint row armoredPriv privateKey publicKey purpose)
      (assignIdentity host vault row armoredPriv fingerprint privateKey publicKey purpose) := by
  unfold assignIdentity
  dsimp only
  split
  · exact .done
  split
  · exact .done
  · have next := @purpose_spec vault since
      (.identityFingerprint row armoredPriv privateKey publicKey purpose) purpose
    exact ⟨fun _ => .inr (.inr (.inr rfl)), fun _ cached => .inl cached, next.account, next.identity,
      next.writes⟩

theorem unlockIdentity_spec {since : Nat} {task : Task} {row : IdentityRow} {purpose : Purpose} :
    TurnSpec vault since task (unlockIdentity host vault row purpose) := by
  unfold unlockIdentity
  split
  · exact .done
  · refine .await ?_ ?_ ?_ <;> rintro task ⟨⟩ stores <;> cases stores

theorem unlockRow_spec {since : Nat} {task : Task} {rows : List IdentityRow}
    {fingerprint : JsString} {purpose : Purpose} :
    TurnSpec vault since task (unlockRow host vault rows fingerprint purpose) := by
  unfold unlockRow
  split
  · exact .done
  split
  · exact .done
  · exact unlockIdentity_spec

theorem persistAccountCache_spec {since : Nat} {sessionEmail armoredPub : JsString} :
    TurnSpec vault since (.hydrated sessionEmail armoredPub)
      (vault.persistAccountCache host since sessionEmail armoredPub, none) := by
  unfold Vault.persistAccountCache
  split
  · exact .done
  · refine ⟨fun held => .inl (holds_update.mp held), fun entry cached => ?_, nofun, nofun, nofun⟩
    rcases caches_update cached with there | ⟨storage, -, account⟩
    · exact .inl there
    · cases account
      exact .inr ⟨rfl, rfl⟩

theorem TurnSpec.touched {since : Nat} {task : Task} {next : Option Task}
    (spec : TurnSpec vault since task (vault, next)) : TurnSpec vault since task (vault.touch, next) :=
  ⟨spec.held, spec.cached, spec.account, spec.identity, spec.writes⟩

theorem resume_spec {since : Nat} {task : Task} {reply : Reply} {turn : Turn}
    (resumed : resume host vault since task reply = some turn) :
    TurnSpec vault since task turn := by
  unfold resume at resumed
  split at resumed <;> cases resumed
  · exact .advance rfl rfl rfl
  · exact .advance rfl rfl rfl
  · exact .advance rfl rfl rfl
  · exact assignPrivateKey_spec
  · exact assignAccount_spec
  · exact persistAccountCache_spec
  · refine ⟨fun held => ?_, fun entry cached => absurd cached not_caches_clear, nofun, nofun, nofun⟩
    rcases held with key | armored | identities
    · exact absurd rfl key
    · exact absurd rfl armored
    · exact absurd rfl identities
  · exact unlockRow_spec
  · split
    · exact .done
    next key =>
      -- the account key is there, so the vault holds it
      refine .await ?_ ?_ ?_ <;> rintro task ⟨⟩ stores
      · cases stores
      · exact .inr (.inl key)
      · cases stores
  · exact .advance rfl rfl rfl
  · exact .advance rfl rfl rfl
  · exact .advance rfl rfl rfl
  · exact assignIdentity_spec
  · refine .touched ?_
    split
    · exact .advance rfl rfl rfl
    · exact .done
  · exact .touched .done
  · exact thrown_spec
  · exact thrown_spec
  · exact thrown_spec
  · exact .done

structure StartSpec (vault : Vault) (turn : Turn) : Prop where
  held : turn.1.Holds → vault.Holds
  cached : ∀ entry, turn.1.Caches entry → vault.Caches entry
  identity : ∀ next ∈ turn.2, next.assignsIdentity = false
  assigned : System.assigned turn.2 = false

theorem StartSpec.of_next {next : Option Task}
    (identity : ∀ task ∈ next, task.assignsIdentity = false)
    (assigned : System.assigned next = false) : StartSpec vault (vault, next) :=
  ⟨id, fun _ cached => cached, identity, assigned⟩

theorem StartSpec.done : StartSpec vault (vault, none) := .of_next nofun rfl

theorem unlockIdentity_start {row : IdentityRow} {purpose : Purpose} :
    StartSpec vault (unlockIdentity host vault row purpose) := by
  unfold unlockIdentity
  split
  · exact .done
  · exact .of_next (by rintro task ⟨⟩; rfl) rfl

theorem ensureIdentityUnlocked_start {fingerprint : JsString} {rows : Option (List IdentityRow)}
    {purpose : Purpose} :
    StartSpec vault (ensureIdentityUnlocked host vault fingerprint rows purpose) := by
  unfold ensureIdentityUnlocked
  dsimp only
  split
  · exact .done
  split
  · cases purpose with
    | unlock => exact .done
    | decrypt fingerprint => exact .of_next (by rintro task ⟨⟩; rfl) rfl
  split
  · unfold unlockRow
    split
    · exact .done
    split
    · exact .done
    · exact unlockIdentity_start
  · exact .of_next (by rintro task ⟨⟩; rfl) rfl

theorem tryRestoreAccountFromSession_start {sessionEmail : JsString} :
    StartSpec vault (tryRestoreAccountFromSession host vault sessionEmail) := by
  have cleared : StartSpec vault (vault.clearPersistedAccountCache, none) :=
    ⟨id, fun _ cached => absurd cached not_caches_clear, nofun, rfl⟩
  unfold tryRestoreAccountFromSession Vault.readPersistedAccountCache
  dsimp only
  split
  next read =>
    split at read
    · cases read
    · cases read
      exact cleared
  next read =>
    split at read
    · cases read
      split
      · exact cleared
      · exact .of_next (by rintro task ⟨⟩; rfl) rfl
    · cases read

end Turns

/-- What holds whenever locks happen only in quiescence: calls that may still assign
the account key started after the last lock, and calls that go on to assign an
identity, or have assigned half of the account, do so in an opened vault. -/
structure Guarded (system : System) : Prop where
  final : Final system
  account : ∀ call ∈ system.calls, call.task.assignsAccount = true → call.since = system.locks
  identity : ∀ call ∈ system.calls, call.task.assignsIdentity = true → system.opened = true
  halfway : ∀ call ∈ system.calls, System.assigned (some call.task) = true → system.opened = true
  writes : ∀ call ∈ system.calls, call.task.writesCache = true → system.cleared ≤ call.since
  order : system.cleared ≤ system.locks

section Runs

variable {host : Host} {system next : System}

theorem assignsAccount_of_assigned {task : Task} (assigned : System.assigned (some task) = true) :
    task.assignsAccount = true := by
  cases task <;> first | rfl | cases assigned

theorem mem_suspended {calls : List Call} {since : Nat} {task : Option Task} {call : Call}
    (member : call ∈ calls ++ (task.map (Call.mk since)).toList) :
    call ∈ calls ∨ call.since = since ∧ call.task ∈ task := by
  rcases List.mem_append.mp member with before | added
  · exact .inl before
  · obtain ⟨next, awaited, rfl⟩ := Option.map_eq_some_iff.mp (Option.mem_toList.mp added)
    exact .inr ⟨rfl, awaited⟩

theorem Guarded.start {turn : Turn} (guarded : Guarded system) (spec : StartSpec system.vault turn) :
    Guarded (system.start turn) := by
  constructor
  · exact ⟨fun held => guarded.final.held (spec.held held),
      fun entry cached => guarded.final.cached entry (spec.cached entry cached)⟩
  · intro call member assigns
    rcases mem_suspended member with before | ⟨since, -⟩
    · exact guarded.account call before assigns
    · exact since
  · intro call member assigns
    rcases mem_suspended member with before | ⟨-, task⟩
    · exact guarded.identity call before assigns
    · rw [spec.identity _ task] at assigns
      cases assigns
  · intro call member assigned
    rcases mem_suspended member with before | ⟨-, task⟩
    · exact guarded.halfway call before assigned
    · rw [← Option.mem_def.mp task, spec.assigned] at assigned
      cases assigned
  · intro call member writes
    rcases mem_suspended member with before | ⟨since, -⟩
    · exact guarded.writes call before writes
    · rw [since]
      exact guarded.order
  · exact guarded.order

theorem Guarded.proceed {index : Nat} {call : Call} {turn : Turn} (guarded : Guarded system)
    (member : call ∈ system.calls) (spec : TurnSpec system.vault call.since call.task turn) :
    Guarded (system.proceed index call turn) := by
  have earlier {other : Call} (rest : other ∈ system.calls.eraseIdx index) : other ∈ system.calls :=
    List.mem_of_mem_eraseIdx rest
  have opens (opened : system.opened = true) : (system.proceed index call turn).opened = true := by
    simp [System.proceed, opened]
  -- the account key is assigned by a call that started after the last lock
  have assigns (assigned : System.assigned turn.2 = true) :
      (system.proceed index call turn).opened = true := by
    have kind : call.task.assignsAccount = true := by
      cases task : turn.2 with
      | none =>
        rw [task] at assigned
        cases assigned
      | some next =>
        rw [task] at assigned
        exact spec.account next task (assignsAccount_of_assigned assigned)
    simp [System.proceed, assigned, guarded.account call member kind]
  constructor
  · constructor
    · intro held
      rcases spec.held held with before | assigned | assigned | identity
      · exact opens (guarded.final.held before)
      · exact assigns assigned
      · exact opens (guarded.halfway call member assigned)
      · exact opens (guarded.identity call member identity)
    · intro entry cached
      rcases spec.cached entry cached with before | ⟨writer, writes⟩
      · exact guarded.final.cached entry before
      · rw [writer]
        exact guarded.writes call member writes
  · intro other present kind
    rcases mem_suspended present with rest | ⟨since, task⟩
    · exact guarded.account other (earlier rest) kind
    · rw [since]
      exact guarded.account call member (spec.account _ task kind)
  · intro other present kind
    rcases mem_suspended present with rest | ⟨-, task⟩
    · exact opens (guarded.identity other (earlier rest) kind)
    · rcases spec.identity _ task kind with identity | held
      · exact opens (guarded.identity call member identity)
      · exact opens (guarded.final.held held)
  · intro other present assigned
    rcases mem_suspended present with rest | ⟨-, task⟩
    · exact opens (guarded.halfway other (earlier rest) assigned)
    · rw [← Option.mem_def.mp task] at assigned
      exact assigns assigned
  · intro other present writes
    rcases mem_suspended present with rest | ⟨since, task⟩
    · exact guarded.writes other (earlier rest) writes
    · rw [since]
      exact guarded.writes call member (spec.writes _ task writes)
  · exact guarded.order

theorem not_holds_zero {vault : Vault} {clearPersisted clearTrustedDevice : Bool} :
    ¬(vault.zero host clearPersisted clearTrustedDevice).Holds := by
  have forgotten : ¬vault.forget.Holds := by
    rintro (key | armored | identities)
    · exact key rfl
    · exact armored rfl
    · exact identities rfl
  unfold Vault.zero
  dsimp only
  split
  · split
    · have cleared : ¬vault.forget.clearPersistedAccountCache.Holds := forgotten
      exact fun held => cleared (holds_update.mp held)
    · exact forgotten
  · exact forgotten

theorem caches_zero {vault : Vault} {clearTrustedDevice : Bool} {entry : Cached}
    (cached : (vault.zero host true clearTrustedDevice).Caches entry) : False := by
  unfold Vault.zero at cached
  dsimp only at cached
  rw [if_pos rfl] at cached
  split at cached
  · rcases caches_update cached with there | ⟨storage, there, account⟩
    · exact not_caches_clear there
    · exact not_caches_clear ⟨storage, there, account⟩
  · exact not_caches_clear cached

theorem Guarded.lock {clearPersisted clearTrustedDevice : Bool} (guarded : Guarded system)
    (quiescent : Quiescent system clearPersisted) :
    Guarded (system.lock host clearPersisted clearTrustedDevice) := by
  constructor
  · refine ⟨fun held => absurd held not_holds_zero, fun entry cached => ?_⟩
    cases clearPersisted with
    | true => exact (caches_zero cached).elim
    | false => exact guarded.final.cached entry cached
  · intro call member assigns
    rw [(quiescent call member).1] at assigns
    cases assigns
  · intro call member assigns
    rw [(quiescent call member).2.1] at assigns
    cases assigns
  · intro call member assigned
    have idle := (quiescent call member).1
    rw [assignsAccount_of_assigned assigned] at idle
    cases idle
  · intro call member writes
    cases clearPersisted with
    | true =>
      rw [(quiescent call member).2.2 rfl] at writes
      cases writes
    | false => exact guarded.writes call member writes
  · have order := guarded.order
    cases clearPersisted with
    | true => exact Nat.le_refl _
    | false => exact Nat.le_succ_of_le order

theorem guarded_step {action : Action} (guarded : Guarded system)
    (quiescent : LocksQuiescent system action)
    (taken : (vaultMachine host).step system action = some next) : Guarded next := by
  cases action with
  | unlockAccount meRow sessionEmail =>
    cases taken
    exact guarded.start (.of_next (by rintro task ⟨⟩; rfl) rfl)
  | tryRestoreAccountFromSession sessionEmail =>
    cases taken
    exact guarded.start tryRestoreAccountFromSession_start
  | unlockIdentity row =>
    cases taken
    exact guarded.start unlockIdentity_start
  | ensureIdentityUnlocked fingerprint rows =>
    cases taken
    exact guarded.start ensureIdentityUnlocked_start
  | decryptToResult fingerprint rows =>
    cases taken
    exact guarded.start ensureIdentityUnlocked_start
  | resume index reply =>
    obtain ⟨call, found, taken⟩ := Option.bind_eq_some_iff.mp taken
    obtain ⟨turn, resumed, taken⟩ := Option.bind_eq_some_iff.mp taken
    cases taken
    exact guarded.proceed (List.mem_of_getElem? found) (resume_spec resumed)
  | zero clearPersisted clearTrustedDevice =>
    cases taken
    exact guarded.lock quiescent
  | idle =>
    dsimp only [vaultMachine] at taken
    split at taken <;> cases taken
    exact guarded.lock quiescent

end Runs

def loaded (sessionStorage localStorage : Option Storage) : System :=
  { vault := { sessionStorage, localStorage } }

/-- Locks that happen only in quiescence are final, in every run. -/
theorem lock_final (host : Host) (sessionStorage localStorage : Option Storage) (system : System)
    (runs : (vaultMachine host).Runs LocksQuiescent (loaded sessionStorage localStorage) system) :
    Final system := by
  have guarded : Guarded system := by
    refine runs.invariant Guarded ?_ fun guarded quiescent taken =>
      guarded_step guarded quiescent taken
    constructor
    · exact ⟨fun _ => rfl, fun _ _ => Nat.zero_le _⟩
    · nofun
    · nofun
    · nofun
    · nofun
    · exact Nat.le_refl _
  exact guarded.final

/-- A browser with empty storages, and keys whose fingerprints are short. -/
def sampleHost : Host := ⟨.plain, some, 100⟩

def sampleAccount : AccountRow := ⟨lit "PUB", lit "AB12"⟩

def sampleReplies : List Reply :=
  [.resolved, .text (lit "PRIV"), .privateKey ⟨lit "PRIV", lit "ab12"⟩, .text (lit "ab12"),
    .publicKey ⟨lit "PUB"⟩, .resolved]

def goesOn (replies : List Reply) : List Action := replies.map (.resume 0)

instance (system : System) (clearPersisted : Bool) : Decidable (Quiescent system clearPersisted) :=
  inferInstanceAs (Decidable (∀ call ∈ system.calls, _))

instance (system : System) (action : Action) : Decidable (LocksQuiescent system action) :=
  match action with
  | .zero clearPersisted _ => inferInstanceAs (Decidable (Quiescent system clearPersisted))
  | .idle => inferInstanceAs (Decidable (Quiescent system false))
  | .unlockAccount .. | .tryRestoreAccountFromSession .. | .unlockIdentity .. |
    .ensureIdentityUnlocked .. | .decryptToResult .. | .resume .. => .isTrue trivial

/-- An account is unlocked, the vault is locked, and the account is unlocked again. -/
theorem lock_final_reopened :
    Final ((vaultMachine sampleHost).after
      (.unlockAccount sampleAccount (lit "a@x") :: goesOn sampleReplies ++ [Action.zero true true] ++
        .unlockAccount sampleAccount (lit "a@x") :: goesOn sampleReplies)
      (loaded (some {}) (some {}))) ∧
    ((vaultMachine sampleHost).after
      (.unlockAccount sampleAccount (lit "a@x") :: goesOn sampleReplies ++ [Action.zero true true])
      (loaded (some {}) (some {}))).vault = {} :=
  ⟨lock_final sampleHost (some {}) (some {}) _ (Machine.after_runs _ (by decide)),
    by decide +kernel⟩

/-- An account that is being unlocked when the vault is locked is unlocked and cached all
the same. -/
theorem lock_overtaken :
    ¬Final ((vaultMachine sampleHost).after
      (.unlockAccount sampleAccount (lit "a@x") :: .zero true true :: goesOn sampleReplies)
      (loaded (some {}) (some {}))) ∧
    ((vaultMachine sampleHost).after
      (.unlockAccount sampleAccount (lit "a@x") :: .zero true true :: goesOn sampleReplies)
      (loaded (some {}) (some {}))).vault.sessionStorage =
      some { account := some ⟨lit "a@x", lit "PRIV", lit "PUB", lit "AB12", 0⟩ } := by
  refine ⟨?_, by decide +kernel⟩
  intro final
  have opened := final.held (.inl (by decide +kernel))
  revert opened
  decide

end ElvishMail.Keyvault
