import ElvishMail.Relaykey.KeyPair
import ElvishMail.Semantics.Threads

/-!
# Servers starting on one key file

Any number of processes run `LoadOrGenerate` on one path. Their reads and writes of the file
are taken one at a time, in any order, and any of them may fail. A process that is started
again is one more process.

A process knows of the file what it has read of it or written to it, and the key that it
returns is the one of those contents. `Keeps` says that the file still has them: true until a
process writes its new key over that of another.
-/

namespace ElvishMail.Relaykey

open Go Semantics
open Smtp (GoError)

abbrev Solid (raw : GoString) : Prop := trimSpace raw ≠ []

abbrev Files : Type := GoString → Option GoString

def errNotExist : GoError := .plain (ascii "no such file or directory")

/-- `os.ReadFile` of these contents. -/
def look (fault : Option GoError) (contents : Option GoString) : FileRead :=
  match fault, contents with
  | some err, _ => .failed err
  | none, none => .notExist errNotExist
  | none, some raw => .content raw

/-- What a system call of a process does. One that fails changes nothing, and the randomness
that a process draws is its own. -/
def SystemCall.answer (process : Nat) (fault : Option GoError) :
    (call : SystemCall) → Files → call.Answer × Files
  | readFile path, files => (look fault (files path), files)
  | mkdirAll _, files => (fault, files)
  | random, files => (process, files)
  | writeFile path raw, files =>
    match fault with
    | some err => (some err, files)
    | none => (none, Function.update files path (some raw))

/-- The values that a process passes; both servers pass the same. -/
structure Start where
  uid : GoString
  email : GoString

inductive Knowledge where
  | nothing
  | blank
  | read (raw : GoString)
  | drew (random : Nat)
  | wrote (raw : GoString)
deriving DecidableEq

namespace Knowledge

def content : Knowledge → Option GoString
  | read raw | wrote raw => some raw
  | _ => none

def Fruitless : Knowledge → Prop
  | nothing | read _ => False
  | _ => True

def learn (known : Knowledge) : (call : SystemCall) → call.Answer → Knowledge
  | .readFile _, .content raw => if trimSpace raw = [] then blank else read raw
  | .readFile _, .notExist _ => blank
  | .readFile _, .failed _ => known
  | .mkdirAll _, _ => known
  | .random, random => drew random
  | .writeFile _ raw, none => wrote raw
  | .writeFile _ _, some _ => known

end Knowledge

variable (pgp : OpenPGP) (dirOf : GoString → GoString) (path : GoString)

def starting : Service Nat Start SystemCall SystemCall.Answer Loaded Knowledge Files (Option GoError)
    Empty where
  program start := loadOrGenerate pgp dirOf path start.uid start.email
  blank := .nothing
  answer := SystemCall.answer
  remember _ call reply known := known.learn call reply
  enter _ files := some files
  change := nofun

abbrev Host : Type := Service.State Nat Start SystemCall SystemCall.Answer Loaded Knowledge Files

abbrev HostEvent : Type := Service.Event Nat Start (Option GoError) Empty

def Host.idle (files : Files) : Host := ⟨files, fun _ => none⟩

def overwrites (host : Host) : HostEvent → List GoString
  | .advance index none =>
    match host.threads index with
    | some ⟨_, .ask (.writeFile path _) _, _⟩ =>
      (host.store path).toList.filter fun raw => trimSpace raw ≠ []
    | _ => []
  | _ => []

/-- Only a process that found no key file generates one and writes it, and it writes once. -/
def Asks (start : Start) (known : Knowledge) (call : SystemCall)
    (_ : call.Answer → Calls Loaded) : Prop :=
  match call with
  | .readFile file => file = trimSpace path ∧ known = .nothing
  | .mkdirAll _ => known = .blank
  | .random => known = .blank
  | .writeFile file raw => file = trimSpace path ∧
      ∃ random, known = .drew random ∧ generateArmoredPrivate pgp start.uid start.email random = .ok raw

/-- The key that a process returns is that of the contents it read or wrote. -/
def Ends (known : Knowledge) (loaded : Loaded) : Prop :=
  match known with
  | .read raw => loaded = (load pgp raw).map fun kp => (kp, false)
  | .wrote raw => loaded = (load pgp raw).map fun kp => (kp, true)
  | _ => ∀ returned, loaded ≠ .ok returned

section Programs

variable {pgp dirOf path} {start : Start}

abbrev Obeys (pgp : OpenPGP) (dirOf : GoString → GoString) (path : GoString) (start : Start)
    (program : Calls Loaded) (known : Knowledge) : Prop :=
  (starting pgp dirOf path).Follows (fun _ => True) (Asks pgp path start) (fun known => Ends pgp known)
    program known

theorem generate_obeys :
    Obeys pgp dirOf path start (generate pgp (trimSpace path) start.uid start.email) .blank := by
  refine ⟨rfl, fun process fault files _ => ?_⟩
  simp only [starting, SystemCall.answer, Knowledge.learn]
  cases generated : generateArmoredPrivate pgp start.uid start.email process with
  | error err => exact fun _ none => by cases none
  | ok raw =>
    refine ⟨⟨rfl, process, rfl, generated⟩, fun process fault files _ => ?_⟩
    cases fault with
    | some err => exact fun _ none => by cases none
    | none => exact rfl

theorem generateAt_obeys :
    Obeys pgp dirOf path start (generateAt pgp dirOf (trimSpace path) start.uid start.email) .blank := by
  unfold generateAt
  dsimp only
  split
  · refine ⟨rfl, fun process fault files _ => ?_⟩
    cases fault with
    | some err => exact fun _ => nofun
    | none => exact generate_obeys
  · exact generate_obeys

theorem afterLoad_obeys (raw : GoString) :
    Obeys pgp dirOf path start
      (afterLoad pgp dirOf (trimSpace path) start.uid start.email
        (load pgp raw matches .error .notConfigured) (load pgp raw))
      (if trimSpace raw = [] then .blank else .read raw) := by
  by_cases blank : trimSpace raw = []
  · rw [if_pos blank, load_blank blank]
    exact (generateAt_obeys : Obeys pgp dirOf path start _ .blank)
  · rw [if_neg blank]
    have ends (loaded : Loaded) (same : loaded = (load pgp raw).map fun kp => (kp, false)) :
        Obeys pgp dirOf path start (.done loaded) (.read raw) := same
    cases loads : load pgp raw with
    | ok kp => exact ends _ (by rw [loads]; rfl)
    | error err =>
      cases err with
      | notConfigured => exact absurd (load_notConfigured loads) blank
      | passphraseProtected | noPrivateKey | wrapped => exact ends _ (by rw [loads]; rfl)

theorem loadOrGenerate_obeys :
    Obeys pgp dirOf path start (loadOrGenerate pgp dirOf path start.uid start.email) .nothing := by
  unfold loadOrGenerate
  dsimp only
  split
  · exact fun _ => nofun
  next given =>
    rw [loadFromPath, trimSpace_trimSpace, if_neg given]
    refine ⟨⟨rfl, rfl⟩, fun process fault files _ => ?_⟩
    cases fault with
    | some err => exact fun _ => nofun
    | none =>
      simp only [starting, SystemCall.answer]
      cases files (trimSpace path) with
      | none => exact (generateAt_obeys : Obeys pgp dirOf path start _ .blank)
      | some raw => exact afterLoad_obeys raw

end Programs

section Runs

variable {pgp dirOf path} {files : Files} {host next : Host} {index : Nat}
  {allowed : Host → HostEvent → Prop}

abbrev Follow (pgp : OpenPGP) (dirOf : GoString → GoString) (path : GoString) (host : Host) : Prop :=
  Service.AllFollow (starting pgp dirOf path) (fun _ => True) (Asks pgp path)
    (fun _ known => Ends pgp known) host

def Knows (host : Host) (index : Nat) (start : Start) (known : Knowledge) : Prop :=
  ∃ program, host.threads index = some ⟨start, program, known⟩

theorem knows_execute {thread : Thread Start SystemCall SystemCall.Answer Loaded Knowledge}
    {fault : Option GoError} {call : SystemCall} {following : call.Answer → Calls Loaded}
    {other : Nat} {start : Start} {known : Knowledge}
    (knows : Knows ((starting pgp dirOf path).execute host index thread fault call following) other start
      known) :
    (other = index ∧ start = thread.request ∧
      known = thread.memory.learn call (call.answer index fault host.store).1) ∨
    (other ≠ index ∧ Knows host other start known) := by
  obtain ⟨program, found⟩ := knows
  by_cases same : other = index
  · subst same
    rw [Service.execute_self] at found
    cases found
    exact .inl ⟨rfl, rfl, rfl⟩
  · rw [Service.execute_other same] at found
    exact .inr ⟨same, program, found⟩

theorem knows_begin {start : Start} {store : Files} {other : Nat} {starter : Start} {known : Knowledge}
    (knows : Knows ((starting pgp dirOf path).begin host index start store) other starter known) :
    (other = index ∧ known = .nothing) ∨ Knows host other starter known := by
  obtain ⟨program, found⟩ := knows
  by_cases same : other = index
  · subst same
    rw [Service.begin_self] at found
    cases found
    exact .inl ⟨rfl, rfl⟩
  · rw [Service.begin_other same] at found
    exact .inr ⟨program, found⟩

/-- The contents that the processes have seen are still in the file. -/
def Keeps (path : GoString) (host : Host) : Prop :=
  ∀ index start known raw, Knows host index start known → known.content = some raw → Solid raw →
    host.store (trimSpace path) = some raw

theorem content_learn {process : Nat} {fault : Option GoError} {call : SystemCall} {start : Start}
    {known : Knowledge} {following : call.Answer → Calls Loaded} {store : Files} {raw : GoString}
    (asks : Asks pgp path start known call following)
    (seen : (known.learn call (call.answer process fault store).1).content = some raw) :
    (call.answer process fault store).2 (trimSpace path) = some raw := by
  cases call with
  | readFile file =>
    obtain ⟨rfl, rfl⟩ := asks
    cases fault with
    | some err => cases seen
    | none =>
      simp only [SystemCall.answer] at seen ⊢
      cases found : store (trimSpace path) with
      | none =>
        rw [found] at seen
        cases seen
      | some contents =>
        rw [found] at seen
        dsimp only [look, Knowledge.learn] at seen
        split at seen
        · cases seen
        · exact seen
  | mkdirAll dir =>
    cases asks
    cases seen
  | random => cases seen
  | writeFile file written =>
    obtain ⟨rfl, random, rfl, -⟩ := asks
    cases fault with
    | some err => cases seen
    | none =>
      cases seen
      exact Function.update_self ..

theorem answer_store (process : Nat) (fault : Option GoError) {call : SystemCall} {start : Start}
    {known : Knowledge} {following : call.Answer → Calls Loaded} (store : Files)
    (asks : Asks pgp path start known call following) :
    (call.answer process fault store).2 = store ∨
      ∃ raw random, fault = none ∧ known = .drew random ∧
        generateArmoredPrivate pgp start.uid start.email random = .ok raw ∧
        known.learn call (call.answer process fault store).1 = .wrote raw ∧
        (call.answer process fault store).2 = Function.update store (trimSpace path) (some raw) ∧
        ∃ written, call = .writeFile (trimSpace path) written := by
  cases call with
  | readFile file => exact .inl rfl
  | mkdirAll dir => exact .inl rfl
  | random => exact .inl rfl
  | writeFile file written =>
    obtain ⟨rfl, random, rfl, generated⟩ := asks
    cases fault with
    | some err => exact .inl rfl
    | none => exact .inr ⟨written, random, rfl, rfl, generated, rfl, rfl, written, rfl⟩

theorem overwrites_write {start : Start} {known : Knowledge} {written raw : GoString}
    {following : Option GoError → Calls Loaded}
    (present : host.threads index =
      some ⟨start, .ask (.writeFile (trimSpace path) written) following, known⟩) :
    raw ∈ overwrites host (.advance index none) ↔
      host.store (trimSpace path) = some raw ∧ Solid raw := by
  simp [overwrites, present, Option.mem_toList]

theorem keeps_preserves :
    (starting pgp dirOf path).Preserves (Asks pgp path) (fun host event => overwrites host event = [])
      (Keeps path) where
  begin := by
    rintro host index start store keeps - - entered other starter known raw knows seen solid
    cases entered
    rcases knows_begin knows with ⟨-, rfl⟩ | before
    · cases seen
    · exact keeps other starter known raw before seen solid
  execute := by
    rintro host index ⟨start, program, known⟩ fault call following keeps silent present rfl asks
      other starter learnt raw knows seen solid
    rcases knows_execute knows with ⟨rfl, rfl, rfl⟩ | ⟨different, before⟩
    · exact content_learn asks seen
    · have kept := keeps other starter learnt raw before seen solid
      rcases answer_store index fault host.store asks with same | ⟨-, -, rfl, -, -, -, -, written, rfl⟩
      · exact (congrFun same _).trans kept
      · have member := (overwrites_write present).mpr ⟨kept, solid⟩
        rw [silent] at member
        cases member
  change := nofun

theorem Knows.execute {thread : Thread Start SystemCall SystemCall.Answer Loaded Knowledge}
    {fault : Option GoError} {call : SystemCall} {following : call.Answer → Calls Loaded}
    {other : Nat} {start : Start} {known : Knowledge} (knows : Knows host other start known)
    (different : other ≠ index) :
    Knows ((starting pgp dirOf path).execute host index thread fault call following) other start known := by
  obtain ⟨program, found⟩ := knows
  exact ⟨program, (Service.execute_other different).trans found⟩

theorem Asks.not_wrote {start : Start} {known : Knowledge} {call : SystemCall}
    {following : call.Answer → Calls Loaded} (asks : Asks pgp path start known call following)
    (raw : GoString) : known ≠ .wrote raw := by
  rintro rfl
  cases call with
  | readFile file => cases asks.2
  | mkdirAll dir => cases asks
  | random => cases asks
  | writeFile file written =>
    obtain ⟨-, random, drew, -⟩ := asks
    cases drew

def Unmade (path : GoString) (files : Files) : Prop :=
  ∀ raw, files (trimSpace path) = some raw → ¬Solid raw

structure Origins (pgp : OpenPGP) (path : GoString) (files : Files) (host : Host) : Prop where
  drew : ∀ index start random, Knows host index start (.drew random) → random = index
  wrote : ∀ index start raw, Knows host index start (.wrote raw) →
    generateArmoredPrivate pgp start.uid start.email index = .ok raw
  fruitless : ∀ index start known, Knows host index start known → known.Fruitless → Unmade path files
  kept : ¬Unmade path files → host.store (trimSpace path) = files (trimSpace path)
  origin : ∀ raw, host.store (trimSpace path) = some raw → Solid raw →
    files (trimSpace path) = some raw ∨ ∃ index start, Knows host index start (.wrote raw)

theorem origins_idle : Origins pgp path files (Host.idle files) where
  drew := by rintro index start random ⟨program, found⟩; cases found
  wrote := by rintro index start raw ⟨program, found⟩; cases found
  fruitless := by rintro index start known ⟨program, found⟩; cases found
  kept _ := rfl
  origin _ there _ := .inl there

theorem fruitless_learn {start : Start} {known : Knowledge} {call : SystemCall}
    {following : call.Answer → Calls Loaded} {fault : Option GoError}
    (origins : Origins pgp path files host) (knows : Knows host index start known)
    (asks : Asks pgp path start known call following)
    (fruitless : (known.learn call (call.answer index fault host.store).1).Fruitless) :
    Unmade path files := by
  cases call with
  | readFile file =>
    obtain ⟨rfl, rfl⟩ := asks
    by_contra made
    have kept := origins.kept made
    refine made fun raw there solid => ?_
    cases fault with
    | some err => exact fruitless
    | none =>
      dsimp only [SystemCall.answer] at fruitless
      rw [kept, there] at fruitless
      dsimp only [look, Knowledge.learn] at fruitless
      rw [if_neg solid] at fruitless
      exact fruitless
  | mkdirAll dir =>
    cases asks
    exact origins.fruitless index start .blank knows trivial
  | random =>
    cases asks
    exact origins.fruitless index start .blank knows trivial
  | writeFile file written =>
    obtain ⟨-, random, rfl, -⟩ := asks
    exact origins.fruitless index start (.drew random) knows trivial

theorem learn_readFile (file : GoString) (reply : FileRead) :
    Knowledge.learn .nothing (.readFile file) reply = .nothing ∨
      Knowledge.learn .nothing (.readFile file) reply = .blank ∨
      ∃ raw, Knowledge.learn .nothing (.readFile file) reply = .read raw := by
  cases reply with
  | failed err => exact .inl rfl
  | notExist err => exact .inr (.inl rfl)
  | content raw =>
    dsimp only [Knowledge.learn]
    split
    · exact .inr (.inl rfl)
    · exact .inr (.inr ⟨raw, rfl⟩)

theorem own_learn {start : Start} {known : Knowledge} {call : SystemCall}
    {following : call.Answer → Calls Loaded} {fault : Option GoError}
    (origins : Origins pgp path files host) (knows : Knows host index start known)
    (asks : Asks pgp path start known call following) :
    (∀ random, known.learn call (call.answer index fault host.store).1 = .drew random → random = index) ∧
      ∀ raw, known.learn call (call.answer index fault host.store).1 = .wrote raw →
        generateArmoredPrivate pgp start.uid start.email index = .ok raw := by
  cases call with
  | readFile file =>
    obtain ⟨-, rfl⟩ := asks
    dsimp only [SystemCall.answer]
    rcases learn_readFile file (look fault (host.store file)) with same | same | ⟨raw, same⟩ <;>
      simp [same]
  | mkdirAll dir =>
    cases asks
    exact ⟨nofun, nofun⟩
  | random => exact ⟨fun random drew => by cases drew; rfl, nofun⟩
  | writeFile file written =>
    obtain ⟨-, random, rfl, generated⟩ := asks
    have own := origins.drew index start random knows
    subst own
    cases fault with
    | some err => exact ⟨fun random drew => by cases drew; rfl, nofun⟩
    | none => exact ⟨nofun, fun raw wrote => by cases wrote; exact generated⟩

theorem origins_preserves :
    (starting pgp dirOf path).Preserves (Asks pgp path) allowed (Origins pgp path files) where
  begin := by
    rintro host index start store origins - absent entered
    cases entered
    exact {
      drew := fun other starter random knows => by
        rcases knows_begin knows with ⟨-, new⟩ | before
        · cases new
        · exact origins.drew other starter random before
      wrote := fun other starter raw knows => by
        rcases knows_begin knows with ⟨-, new⟩ | before
        · cases new
        · exact origins.wrote other starter raw before
      fruitless := fun other starter known knows fruitless => by
        rcases knows_begin knows with ⟨-, rfl⟩ | before
        · cases fruitless
        · exact origins.fruitless other starter known before fruitless
      kept := origins.kept
      origin := fun raw there solid => by
        refine (origins.origin raw there solid).imp id ?_
        rintro ⟨other, starter, program, found⟩
        have different : other ≠ index := by
          rintro rfl
          cases absent.symm.trans found
        exact ⟨other, starter, program, (Service.begin_other different).trans found⟩ }
  execute := by
    rintro host index ⟨start, program, known⟩ fault call following origins - present rfl asks
    have knows : Knows host index start known := ⟨_, present⟩
    have changed := answer_store index fault host.store asks
    exact {
      drew := fun other starter random learnt => by
        rcases knows_execute learnt with ⟨rfl, rfl, drew⟩ | ⟨-, before⟩
        · exact (own_learn origins knows asks).1 random drew.symm
        · exact origins.drew other starter random before
      wrote := fun other starter raw learnt => by
        rcases knows_execute learnt with ⟨rfl, rfl, wrote⟩ | ⟨-, before⟩
        · exact (own_learn origins knows asks).2 raw wrote.symm
        · exact origins.wrote other starter raw before
      fruitless := fun other starter learned learnt fruitless => by
        rcases knows_execute learnt with ⟨rfl, rfl, rfl⟩ | ⟨-, before⟩
        · exact fruitless_learn origins knows asks fruitless
        · exact origins.fruitless other starter learned before fruitless
      kept := fun made => by
        rcases changed with same | ⟨-, random, -, rfl, -⟩
        · exact (congrFun same _).trans (origins.kept made)
        · exact absurd (origins.fruitless index start _ knows trivial) made
      origin := fun raw there solid => by
        rcases changed with same | ⟨written, random, -, -, -, wrote, same, -⟩
        · refine (origins.origin raw ((congrFun same _).symm.trans there) solid).imp id ?_
          rintro ⟨other, starter, wrote⟩
          refine ⟨other, starter, wrote.execute ?_⟩
          rintro rfl
          obtain ⟨program, found⟩ := wrote
          cases present.symm.trans found
          exact asks.not_wrote raw rfl
        · right
          have current := (congrFun same _).symm.trans there
          rw [Function.update_self] at current
          cases current
          exact ⟨index, start, following (call.answer index fault host.store).1,
            Service.execute_self.trans (by rw [← wrote]; rfl)⟩ }
  change := nofun

def TwoWriters (host : Host) : Prop :=
  ∃ first second start start' raw raw', first ≠ second ∧ Knows host first start (.wrote raw) ∧
    Knows host second start' (.wrote raw')

theorem wrote_step {event : HostEvent} {start : Start} {raw : GoString} {other : Nat}
    (follow : Follow pgp dirOf path host)
    (taken : (starting pgp dirOf path).machine.step host event = some next)
    (knows : Knows host other start (.wrote raw)) : Knows next other start (.wrote raw) := by
  obtain ⟨program, found⟩ := knows
  rcases Service.step_cases taken with ⟨index, starter, store, rfl, absent, -, rfl⟩ |
    ⟨index, thread, fault, call, following, rfl, present, asking, rfl⟩ | ⟨change, -⟩
  · have different : other ≠ index := by
      rintro rfl
      cases absent.symm.trans found
    exact ⟨program, (Service.begin_other different).trans found⟩
  · refine Knows.execute ⟨program, found⟩ ?_
    rintro rfl
    have follows := follow other thread present
    rw [asking] at follows
    cases present.symm.trans found
    exact follows.1.not_wrote raw rfl
  · cases change

theorem twoWriters_overwrite {event : HostEvent} (origins : Origins pgp path files host)
    (follow : Follow pgp dirOf path host)
    (taken : (starting pgp dirOf path).machine.step host event = some next)
    (overwritten : overwrites host event ≠ []) : TwoWriters next := by
  rcases Service.step_cases taken with ⟨index, starter, store, rfl, -, -, -⟩ |
    ⟨index, ⟨start, program, known⟩, fault, call, following, rfl, present, rfl, rfl⟩ | ⟨change, -⟩
  · exact absurd rfl overwritten
  · have asks : Asks pgp path start known call following := (follow index _ present).1
    cases call with
    | readFile | mkdirAll | random => cases fault <;> simp [overwrites, present] at overwritten
    | writeFile file written =>
      obtain ⟨rfl, random, rfl, -⟩ := asks
      cases fault with
      | some err => exact absurd rfl overwritten
      | none =>
        obtain ⟨raw, member⟩ := List.exists_mem_of_ne_nil _ overwritten
        obtain ⟨there, solid⟩ := (overwrites_write present).mp member
        have unmade := origins.fruitless index start (.drew random) ⟨_, present⟩ trivial
        rcases origins.origin raw there solid with old | ⟨other, other', before⟩
        · exact absurd solid (unmade raw old)
        · have different : index ≠ other := by
            rintro rfl
            obtain ⟨program, found⟩ := before
            cases present.symm.trans found
          exact ⟨index, other, start, other', written, raw, different,
            ⟨following none, Service.execute_self⟩, before.execute different.symm⟩
  · cases change

theorem twoWriters_of_overwritten {overwritten : List GoString}
    (runs : ((starting pgp dirOf path).machine.recorded overwrites).Runs (fun _ _ => True)
      (Host.idle files, []) (host, overwritten)) :
    (Origins pgp path files host ∧ Follow pgp dirOf path host) ∧
      (overwritten ≠ [] → TwoWriters host) := by
  have sound {host : Host} (runs : (starting pgp dirOf path).machine.Runs (fun _ _ => True)
      (Host.idle files) host) : Origins pgp path files host ∧ Follow pgp dirOf path host :=
    origins_preserves.sound (fun _ _ => trivial) (fun _ => loadOrGenerate_obeys) origins_idle
      (fun _ => rfl) runs
  refine ⟨sound (runs.unrecorded fun _ _ _ => id), ?_⟩
  refine (Machine.Runs.invariant (fun state : Host × List GoString =>
    (starting pgp dirOf path).machine.Runs (fun _ _ => True) (Host.idle files) state.1 ∧
      (state.2 ≠ [] → TwoWriters state.1)) ⟨.refl, fun none => absurd rfl none⟩ ?_ runs).2
  rintro ⟨host, log⟩ event next ⟨before, two⟩ - taken
  obtain ⟨step, noted⟩ := Machine.recorded_step taken
  obtain ⟨origins, follow⟩ := sound before
  refine ⟨.step before trivial step, fun some => ?_⟩
  by_cases first : log = []
  · refine twoWriters_overwrite origins follow step fun none => some ?_
    rw [noted, first, none]
    rfl
  · obtain ⟨first, second, start, start', raw, raw', different, one, other⟩ := two first
    exact ⟨first, second, start, start', raw, raw', different, wrote_step follow step one,
      wrote_step follow step other⟩

def outcome (host : Host) (index : Nat) : Option Loaded :=
  match host.threads index with
  | some ⟨_, .done loaded, _⟩ => some loaded
  | _ => none

theorem outcome_eq_some {loaded : Loaded} : outcome host index = some loaded ↔
    ∃ start known, host.threads index = some ⟨start, .done loaded, known⟩ := by
  unfold outcome
  split
  next start value known found => simp [found]
  next other => exact ⟨nofun, fun ⟨start, known, found⟩ => absurd found (other start loaded known)⟩

def Returned (host : Host) (index : Nat) (kp : KeyPair) : Prop :=
  ∃ isNew, outcome host index = some (.ok (kp, isNew))

def Finished (host : Host) : Prop :=
  ∀ index, host.threads index ≠ none → outcome host index ≠ none

/-- Several processes that were given a key hold that of the file, and what one wraps the
others unwrap. -/
def Shared (pgp : OpenPGP) (path : GoString) (host : Host) : Prop :=
  ∀ index other kp kp', index ≠ other → Returned host index kp → Returned host other kp' →
    (∃ raw, host.store (trimSpace path) = some raw ∧ load pgp raw = .ok kp ∧ load pgp raw = .ok kp') ∧
      ∀ random plaintext ciphertext, kp.wrap pgp random plaintext = .ok ciphertext →
        kp'.unwrap pgp ciphertext = .ok plaintext

theorem returned_content {kp : KeyPair} (follow : Follow pgp dirOf path host)
    (returned : Returned host index kp) :
    ∃ start known raw, Knows host index start known ∧ known.content = some raw ∧ load pgp raw = .ok kp := by
  obtain ⟨isNew, done⟩ := returned
  obtain ⟨start, known, found⟩ := outcome_eq_some.mp done
  have ends : Ends pgp known (.ok (kp, isNew)) := follow index _ found
  have loaded {raw : GoString} {new : Bool}
      (same : .ok (kp, isNew) = (load pgp raw).map fun kp => (kp, new)) : load pgp raw = .ok kp := by
    cases loads : load pgp raw with
    | error err =>
      rw [loads] at same
      cases same
    | ok other =>
      rw [loads] at same
      cases same
      rfl
  cases known with
  | read raw => exact ⟨start, _, raw, ⟨_, found⟩, rfl, loaded ends⟩
  | wrote raw => exact ⟨start, _, raw, ⟨_, found⟩, rfl, loaded ends⟩
  | nothing | blank | drew => exact absurd rfl (ends (kp, isNew))

theorem returned_wrote (documented : pgp.Documented) {start : Start} {raw : GoString}
    (origins : Origins pgp path files host) (follow : Follow pgp dirOf path host)
    (finished : Finished host) (knows : Knows host index start (.wrote raw)) :
    ∃ kp name comment address, Returned host index kp ∧
      pgp.newEntity name comment address index = .ok kp.entity := by
  obtain ⟨-, kp, name, comment, address, loads, made⟩ :=
    load_generated documented (origins.wrote index start raw knows)
  obtain ⟨program, found⟩ := knows
  obtain ⟨loaded, done⟩ := Option.ne_none_iff_exists'.mp (finished index (by rw [found]; nofun))
  obtain ⟨start', known, found'⟩ := outcome_eq_some.mp done
  cases found.symm.trans found'
  have ends : loaded = (load pgp raw).map fun kp => (kp, true) := follow index _ found'
  rw [loads] at ends
  subst ends
  exact ⟨kp, name, comment, address, ⟨true, done⟩, made⟩

/-- Servers that start on one key file share its key, in every state that they reach, as
long as none writes its new key over contents that are there; and when all have finished
they share it only if none did. -/
theorem loadOrGenerate_shares (documented : pgp.Documented) {overwritten : List GoString}
    (runs : ((starting pgp dirOf path).machine.recorded overwrites).Runs (fun _ _ => True)
      (Host.idle files, []) (host, overwritten)) :
    (overwritten = [] → Shared pgp path host) ∧
      (Finished host → Shared pgp path host → overwritten = []) := by
  obtain ⟨⟨origins, follow⟩, two⟩ := twoWriters_of_overwritten runs
  refine ⟨fun none index other kp kp' _ returned returned' => ?_, fun finished shared => ?_⟩
  · obtain ⟨more, log, silent⟩ := runs.silent
    have quiet := silent (by simpa [none] using log.symm)
    have keeps : Keeps path host :=
      (keeps_preserves.sound (fun _ _ => trivial) (fun _ => loadOrGenerate_obeys)
        (by rintro index start known raw ⟨program, found⟩; cases found) (fun _ => rfl) quiet).1
    obtain ⟨start, known, raw, knows, seen, loads⟩ := returned_content follow returned
    obtain ⟨start', known', raw', knows', seen', loads'⟩ := returned_content follow returned'
    have solid {raw : GoString} {kp : KeyPair} (loads : load pgp raw = .ok kp) : Solid raw := by
      intro blank
      rw [load_blank blank] at loads
      cases loads
    have there := keeps index start known raw knows seen (solid loads)
    cases there.symm.trans (keeps other start' known' raw' knows' seen' (solid loads'))
    cases loads.symm.trans loads'
    exact ⟨⟨raw, there, loads, loads⟩, fun random plaintext ciphertext => unwrap_wrap documented⟩
  · by_contra some
    obtain ⟨first, second, start, start', raw, raw', different, knows, knows'⟩ := two some
    obtain ⟨kp, name, comment, address, returned, made⟩ :=
      returned_wrote documented origins follow finished knows
    obtain ⟨kp', name', comment', address', returned', made'⟩ :=
      returned_wrote documented origins follow finished knows'
    obtain ⟨⟨raw, -, loads, loads'⟩, -⟩ := shared first second kp kp' different returned returned'
    cases loads.symm.trans loads'
    exact different (documented.fresh made made')

end Runs

/-- A key that is told from others by the length of its fingerprint. -/
def sampleEntity (random : Nat) : Entity where
  fingerprint := List.replicate random 0x41
  identity := ascii "Elvish Plaintext Relay <relay@local>"
  privateKey := some ⟨false, []⟩
  subkeys := [some ⟨false, []⟩]

/-- A library of such keys, whose messages name the key they are for. -/
def samplePGP : OpenPGP where
  readArmoredKeyRing raw :=
    match raw with
    | 0x2D :: fingerprint => .ok [sampleEntity fingerprint.length]
    | _ => .error (.plain (ascii "no armored data found"))
  readKeyRing _ := .error (.plain (ascii "invalid data"))
  armorPublic ent := .ok ent.fingerprint
  newEntity _ _ _ random := .ok (sampleEntity random)
  armorPrivate ent :=
    if ent = sampleEntity ent.fingerprint.length then .ok (0x2D :: ent.fingerprint)
    else .error (.plain (ascii "unsupported key"))
  encrypt ent _ plaintext := .ok (ent.fingerprint ++ 0 :: plaintext)
  armorMessage message := messageHeader ++ message
  armorDecode text := .ok (text.drop messageHeader.length)
  readMessage message ent :=
    if hasPrefix message (ent.fingerprint ++ [0]) then .ok (message.drop (ent.fingerprint.length + 1))
    else .error (.plain (ascii "incorrect key"))

theorem samplePGP_documented : samplePGP.Documented where
  fresh := by
    intro _ _ _ random _ _ _ random' ent made made'
    have same : sampleEntity random = sampleEntity random' :=
      (Except.ok.inj made).trans (Except.ok.inj made').symm
    simpa [sampleEntity] using congrArg (fun ent : Entity => ent.fingerprint.length) same
  unprotected := by
    rintro _ _ _ random _ ⟨⟩
    exact ⟨⟨_, rfl, rfl⟩, fun key member => by cases List.mem_singleton.mp member; rfl⟩
  readsBack := by
    intro ent raw armored
    dsimp only [samplePGP] at armored
    split at armored
    next canonical =>
      cases armored
      refine ⟨congrArg (fun ent => Except.ok [ent]) canonical.symm, fun blank => ?_⟩
      have plain : ∀ byte ∈ (0x2D :: ent.fingerprint : GoString),
          byte.toNat < 0x80 ∧ isSpace byte.toNat = false := by
        rw [canonical]
        intro byte member
        rcases List.mem_cons.mp member with rfl | member
        · decide
        · obtain rfl := List.eq_of_mem_replicate member
          decide
      rw [trimSpace_solid plain] at blank
      cases blank
    · cases armored
  publishes _ := ⟨_, rfl⟩
  armors message := ⟨⟨message, rfl⟩, by simp [samplePGP]⟩
  decrypts := by
    rintro ent random plaintext _ ⟨⟩
    simp [samplePGP, hasPrefix, List.drop_append]

def samplePath : GoString := ascii "relay.key"

def sampleStart : Start := ⟨ascii "Elvish Plaintext Relay", ascii "relay@local"⟩

abbrev sampleServers : Service Nat Start SystemCall SystemCall.Answer Loaded Knowledge Files
    (Option GoError) Empty :=
  starting samplePGP (fun _ => ascii ".") samplePath

/-- A server starts, and a second one when the first has its key. -/
def inTurn : List HostEvent :=
  [.begin 1 sampleStart, .advance 1 none, .advance 1 none, .advance 1 none,
    .begin 2 sampleStart, .advance 2 none]

/-- What becomes of them, and what was written over. -/
def settled : Host × List GoString :=
  (sampleServers.machine.recorded overwrites).after inTurn (Host.idle fun _ => none, [])

theorem settled_runs : (sampleServers.machine.recorded overwrites).Runs (fun _ _ => True)
    (Host.idle fun _ => none, []) (settled.1, settled.2) :=
  Machine.after_runs inTurn (Machine.permits_of_forall (fun _ _ => trivial) _ _)

theorem loadOrGenerate_shares_inTurn : settled.2 = [] ∧ Shared samplePGP samplePath settled.1 := by
  have silent : settled.2 = [] := by decide
  exact ⟨silent, (loadOrGenerate_shares samplePGP_documented settled_runs).1 silent⟩

/-- Both servers look for the key before either has written one. -/
def atOnce : List HostEvent :=
  [.begin 1 sampleStart, .begin 2 sampleStart, .advance 1 none, .advance 2 none,
    .advance 1 none, .advance 1 none, .advance 2 none, .advance 2 none]

def apart : Host := sampleServers.machine.after atOnce (Host.idle fun _ => none)

theorem apart_runs : sampleServers.machine.Runs (fun _ _ => True) (Host.idle fun _ => none) apart :=
  Machine.after_runs atOnce (Machine.permits_of_forall (fun _ _ => trivial) _ _)

theorem apart_returned :
    outcome apart 1 = some (.ok (⟨sampleEntity 1, [0x41], [0x41]⟩, true)) ∧
      outcome apart 2 = some (.ok (⟨sampleEntity 2, [0x41, 0x41], [0x41, 0x41]⟩, true)) := by
  decide

def subject : HostEvent → Nat
  | .begin index _ | .advance index _ => index

theorem after_others {pgp : OpenPGP} {dirOf : GoString → GoString} {path : GoString} {index : Nat}
    (events : List HostEvent) (host : Host) (others : ∀ event ∈ events, subject event ≠ index) :
    ((starting pgp dirOf path).machine.after events host).threads index = host.threads index := by
  induction events generalizing host with
  | nil => rfl
  | cons event events ih =>
    obtain ⟨other, rest⟩ := List.forall_mem_cons.mp others
    rw [Machine.after, ih _ rest]
    cases taken : (starting pgp dirOf path).machine.step host event with
    | none => rfl
    | some next =>
      rcases Service.step_cases taken with ⟨_, _, _, rfl, _, _, rfl⟩ |
        ⟨_, _, _, _, _, rfl, _, _, rfl⟩ | ⟨change, _⟩
      · exact Service.begin_other fun same => other same.symm
      · exact Service.execute_other fun same => other same.symm
      · cases change

/-- Two servers that start at once end up with different keys. -/
theorem loadOrGenerate_diverges : samplePGP.Documented ∧
    ¬∀ files host, sampleServers.machine.Runs (fun _ _ => True) (Host.idle files) host →
      Finished host → Shared samplePGP samplePath host := by
  refine ⟨samplePGP_documented, fun shares => ?_⟩
  have finished : Finished apart := by
    intro index started done
    by_cases one : index = 1
    · subst one
      cases apart_returned.1.symm.trans done
    · by_cases two : index = 2
      · subst two
        cases apart_returned.2.symm.trans done
      · refine started (after_others atOnce _ ?_)
        simp [atOnce, subject, Ne.symm one, Ne.symm two]
  have shared := shares _ apart apart_runs finished
  obtain ⟨⟨raw, -, loads, loads'⟩, -⟩ := shared 1 2 _ _ (by decide) ⟨true, apart_returned.1⟩
    ⟨true, apart_returned.2⟩
  cases loads.symm.trans loads'

end ElvishMail.Relaykey
