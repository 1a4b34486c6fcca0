import ElvishMail.Keyserver.Sources

/-!
# What is remembered of a key that was not found

`Resolver.Lookup` and the cache of `internal/keyserver`. Where no source has a key, the
address is kept in Valkey for five minutes as one without a key, whatever the sources said.
Every source and every lookup has its own remote side. Valkey does what it is told, and the
rows of keys are what a lookup finds of them.
-/

namespace ElvishMail.Keyserver

open Go

/-- The sources of a chain, each with a place that its remote side is known by. -/
abbrev Chain := List (Option (Nat × Source))

/-- `Cache`: whether there is a Valkey and a store of keys. -/
structure Cache where
  valkey : Bool
  persist : Bool

structure Resolver where
  sources : Chain
  cache : Option Cache
  hasLocal : Bool
  protonAutoBoost : Bool

/-- What a lookup meets: the time, the rows that are there, and what requests come back with. -/
structure Call where
  now : Int
  localRow : Option KeyHit
  contactKey : Option KeyHit
  putFails : Bool
  fetch : Nat → GoString → Attempt

abbrev Misses := GoString → Option Int

/-- What comes of a lookup, whether sources were queried, and what is kept. -/
structure Outcome where
  hit : Option KeyHit
  queried : Bool
  stored : Bool
  misses : Misses

/-- `NegTTL`, in nanoseconds. -/
def negTTL : Int := 5 * 60 * 1000000000

/-- What `Cache.Get` says. -/
inductive Cached where
  | hit (hit : KeyHit)
  | miss
  | notFound

section Lookup

variable (tools : Tools) (resolver : Resolver) (call : Call) (misses : Misses) (email : GoString)

def emailKey : GoString := toLower tools.lib (trimSpace email)

def Cache.get (cache : Cache) : Cached :=
  match (if cache.persist then call.contactKey else none) with
  | some hit => .hit hit
  | none =>
    if cache.valkey ∧ (misses (emailKey tools email)).any (call.now < ·) then .miss else .notFound

def Cache.put (cache : Cache) (hit : KeyHit) : Misses :=
  if cache.persist ∧ call.putFails then misses
  else if cache.valkey then Function.update misses (emailKey tools hit.email) none
  else misses

def promoteProton (sources : Chain) : Chain :=
  let isProton : Option (Nat × Source) → Bool := fun
    | some (_, .proton _ _) => true
    | _ => false
  let present := sources.filter Option.isSome
  match present.find? isProton with
  | some proton => proton :: present.eraseP isProton
  | none => present

/-- The sources in the order that they are queried in. -/
def chain : Chain :=
  if resolver.protonAutoBoost ∧ isProtonDomain tools.lib (splitEmail tools.lib email).2 then
    promoteProton resolver.sources
  else resolver.sources

def query : Option (Nat × Source) → Option KeyHit
  | none => none
  | some (place, source) => (source.lookup tools call.now (call.fetch place) email).toOption

def Resolver.lookup : Outcome :=
  let email := emailKey tools email
  if email = [] then ⟨none, false, false, misses⟩
  else
    match (if resolver.hasLocal then call.localRow else none) with
    | some hit => ⟨some hit, false, false, misses⟩
    | none =>
      match resolver.cache.elim .notFound (Cache.get tools call misses email) with
      | .hit hit => ⟨some hit, false, false, misses⟩
      | .miss => ⟨none, false, false, misses⟩
      | .notFound =>
        match (chain tools resolver email).findSome? (query tools call email) with
        | some hit =>
          ⟨some hit, true, false, resolver.cache.elim misses (Cache.put tools call misses · hit)⟩
        | none =>
          if resolver.cache.any Cache.valkey then
            ⟨none, true, true,
              Function.update misses (emailKey tools email) (some (call.now + negTTL))⟩
          else ⟨none, true, false, misses⟩

/-- A source answers that it has no key: every request comes back with a reply that says so, and
there is no other error. `definite` tells these replies. -/
def Absent (definite : Response → Bool) : Option (Nat × Source) → Prop
  | none => True
  | some (place, source) =>
    (∀ url ∈ source.requests tools (emailKey tools email),
      ∃ response, call.fetch place url = .answered response ∧ definite response = true) ∧
    ∀ lookup, source = .other lookup → lookup (emailKey tools email) ≠ .error .failed

/-- A miss is kept only where every source says that it has no key, and after a lookup that failed
otherwise the sources are queried again, unless the key is stored by then. -/
structure HonestMiss (definite : Response → Bool) : Prop where
  stored : (resolver.lookup tools call misses email).stored = true →
    ∀ source ∈ resolver.sources, Absent tools call email definite source
  again : (resolver.lookup tools call misses email).queried = true →
    (resolver.lookup tools call misses email).hit = none →
    (∃ source ∈ resolver.sources, ¬Absent tools call email definite source) →
    ∀ next : Call, call.now ≤ next.now → next.localRow = none → next.contactKey = none →
      (resolver.lookup tools next (resolver.lookup tools call misses email).misses email).queried = true

end Lookup

section Results

variable {tools : Tools} {resolver : Resolver} {call : Call} {misses : Misses} {email : GoString}

/-- Nothing is known of the address without asking. -/
def Unknown (tools : Tools) (resolver : Resolver) (call : Call) (misses : Misses) (email : GoString) :
    Prop :=
  emailKey tools email ≠ [] ∧ (resolver.hasLocal = true → call.localRow = none) ∧
    ∀ cache, resolver.cache = some cache → (cache.persist = true → call.contactKey = none) ∧
      (cache.valkey = true →
        (misses (emailKey tools (emailKey tools email))).any (call.now < ·) = false)

theorem cached_of_unknown (unknown : Unknown tools resolver call misses email) :
    resolver.cache.elim .notFound (Cache.get tools call misses (emailKey tools email)) = .notFound := by
  cases given : resolver.cache with
  | none => rfl
  | some cache =>
    obtain ⟨keys, negative⟩ := unknown.2.2 cache given
    rw [Option.elim_some, Cache.get]
    have row : (if cache.persist = true then call.contactKey else none) = none := by
      split_ifs with persist
      · exact keys persist
      · rfl
    rw [row]
    refine if_neg fun live => ?_
    rw [negative live.1] at live
    cases live.2

theorem lookup_cases (tools : Tools) (resolver : Resolver) (call : Call) (misses : Misses)
    (email : GoString) :
    (¬Unknown tools resolver call misses email ∧
      (resolver.lookup tools call misses email).queried = false ∧
      (resolver.lookup tools call misses email).stored = false) ∨
    Unknown tools resolver call misses email ∧
      resolver.lookup tools call misses email =
        match (chain tools resolver (emailKey tools email)).findSome?
            (query tools call (emailKey tools email)) with
        | some hit =>
          ⟨some hit, true, false, resolver.cache.elim misses (Cache.put tools call misses · hit)⟩
        | none =>
          if resolver.cache.any Cache.valkey then
            ⟨none, true, true, Function.update misses (emailKey tools (emailKey tools email))
              (some (call.now + negTTL))⟩
          else ⟨none, true, false, misses⟩ := by
  by_cases unknown : Unknown tools resolver call misses email
  · refine .inr ⟨unknown, ?_⟩
    have rows : (if resolver.hasLocal = true then call.localRow else none) = none := by
      split_ifs with stored
      · exact unknown.2.1 stored
      · rfl
    unfold Resolver.lookup
    dsimp only
    rw [if_neg unknown.1, rows, cached_of_unknown unknown]
  · refine .inl ⟨unknown, ?_⟩
    unfold Resolver.lookup
    dsimp only
    split
    · exact ⟨rfl, rfl⟩
    next some =>
    split
    · exact ⟨rfl, rfl⟩
    next noRow =>
    split
    · exact ⟨rfl, rfl⟩
    · exact ⟨rfl, rfl⟩
    next nothing =>
      refine absurd ⟨some, fun stored => ?_, fun cache given => ?_⟩ unknown
      · rwa [if_pos stored] at noRow
      · rw [given, Option.elim_some, Cache.get] at nothing
        split at nothing
        · cases nothing
        next noKey =>
          split_ifs at nothing with live
          refine ⟨fun persist => by rwa [if_pos persist] at noKey, fun valkey => ?_⟩
          exact Bool.eq_false_iff.mpr fun kept => live ⟨valkey, kept⟩

/-- With a Valkey, what is not found has to be absent everywhere. -/
theorem honest_miss_iff (definite : Response → Bool) :
    HonestMiss tools resolver call misses email definite ↔
      (Unknown tools resolver call misses email → resolver.cache.any Cache.valkey = true →
        (∀ source ∈ chain tools resolver (emailKey tools email),
          query tools call (emailKey tools email) source = none) →
        ∀ source ∈ resolver.sources, Absent tools call email definite source) := by
  obtain ⟨known, quiet, unstored⟩ | ⟨unknown, looked⟩ := lookup_cases tools resolver call misses email
  · refine iff_of_true ⟨fun stored => ?_, fun queried => ?_⟩ fun unknown => absurd unknown known
    · exact absurd (stored.symm.trans unstored) (by decide)
    · exact absurd (queried.symm.trans quiet) (by decide)
  cases found : (chain tools resolver (emailKey tools email)).findSome?
      (query tools call (emailKey tools email)) with
  | some hit =>
    rw [found] at looked
    obtain ⟨source, member, finds⟩ := List.exists_of_findSome?_eq_some found
    refine iff_of_true ⟨fun stored => ?_, fun _ missed => ?_⟩ fun _ _ none => ?_
    · rw [looked] at stored
      cases stored
    · rw [looked] at missed
      cases missed
    · rw [none source member] at finds
      cases finds
  | none =>
    rw [found] at looked
    dsimp only at looked
    rw [List.findSome?_eq_none_iff] at found
    cases valkey : resolver.cache.any Cache.valkey with
    | true =>
      rw [valkey, if_pos rfl] at looked
      have kept : (resolver.lookup tools call misses email).stored = true := by rw [looked]
      refine ⟨fun honest _ _ _ => honest.stored kept, fun absent => ⟨fun _ => absent unknown rfl found, ?_⟩⟩
      rintro - - ⟨source, member, present⟩
      exact absurd (absent unknown rfl found source member) present
    | false =>
      rw [valkey, if_neg (by decide)] at looked
      refine iff_of_true ⟨fun stored => ?_, fun _ _ _ next _ noRow noKey => ?_⟩ fun _ some => ?_
      · rw [looked] at stored
        cases stored
      · have still : Unknown tools resolver next (resolver.lookup tools call misses email).misses email := by
          refine ⟨unknown.1, fun _ => noRow, fun cache given => ⟨fun _ => noKey, fun live => ?_⟩⟩
          rw [given, Option.any_some, live] at valkey
          cases valkey
        obtain ⟨known, -⟩ | ⟨-, again⟩ := lookup_cases tools resolver next
          (resolver.lookup tools call misses email).misses email
        · exact absurd still known
        · rw [again]
          split
          · rfl
          · rw [valkey]
            rfl
      · cases some

end Results

/-- Libraries that find nothing special in what they are given. -/
def plainTools : Tools where
  pgp := bytePGP
  lib := .plain
  digest := ⟨fun _ => List.replicate 20 0, fun _ => List.length_replicate⟩
  isIP _ := false
  encode values := values.flatMap fun value => value.1 ++ ascii "=" ++ value.2
  text url := url.scheme ++ ascii "://" ++ url.host ++ url.path ++ ascii "?" ++ url.rawQuery
  proton _ := none

def keyServer : Resolver where
  sources := [some (0, .hkp ⟨ascii "https://k.org", ascii "k"⟩)]
  cache := some ⟨true, true⟩
  hasLocal := true
  protonAutoBoost := true

def outage : Call where
  now := 0
  localRow := none
  contactKey := none
  putFails := false
  fetch _ _ := .failed

/-- The outage is kept as a miss, for what a reply with 404 says. -/
theorem miss_of_outage :
    ¬HonestMiss plainTools keyServer outage (fun _ => none) (ascii "a@b.c") (·.status == 404) := by
  intro honest
  obtain ⟨replied, -⟩ := honest.stored (by decide +kernel) _ List.mem_cons_self
  obtain ⟨response, answered, -⟩ := replied _ List.mem_cons_self
  cases answered

end ElvishMail.Keyserver
