import Mathlib.Logic.Function.Basic
import Mathlib.Tactic.Ring
import ElvishMail.Go.Strings
import ElvishMail.Semantics.Machine

/-!
# Limits on requests

`Allow` of `internal/ratelimit` counts the calls for a name and an id in the windows of the
clock: a call reads the clock for its bucket, increments the bucket's counter in Valkey and,
if it is the first, sets when the counter expires. Calls of any number of processes
interleave, and what is between two commands takes any time. A counter lives for ten
seconds longer than its bucket, so that calls which count before these are over find it.

The increments succeed, and clients send `EXPIRE` in whole seconds. The quotient of a window
by a second is that of integers.
-/

namespace ElvishMail.Ratelimit

open Go Semantics

theorem decimal_value {fuel value : Nat} (digits : GoString) (small : value < 10 ^ fuel) :
    (decimal fuel value digits).foldl (fun sum byte => 10 * sum + (byte.toNat - 48)) 0 =
      if fuel = 0 then digits.foldl (fun sum byte => 10 * sum + (byte.toNat - 48)) 0
      else digits.foldl (fun sum byte => 10 * sum + (byte.toNat - 48)) value := by
  induction fuel generalizing value digits with
  | zero => rfl
  | succ fuel ih =>
    have digit : (48 + value % 10).toUInt8.toNat - 48 = value % 10 := by
      rw [Nat.toUInt8, UInt8.toNat_ofNat']
      omega
    rw [decimal, if_neg (Nat.succ_ne_zero fuel)]
    split
    next last =>
      rw [List.foldl_cons, digit, show 10 * 0 + value % 10 = value by omega]
    next more =>
      have smaller : value / 10 < 10 ^ fuel := by
        rw [Nat.pow_succ] at small
        omega
      have some : fuel ≠ 0 := by
        rintro rfl
        omega
      rw [ih _ smaller, if_neg some, List.foldl_cons, digit,
        show 10 * (value / 10) + value % 10 = value by omega]

theorem decimal_digits {fuel value : Nat} {digits : GoString} (plain : (0x3A : UInt8) ∉ digits) :
    (0x3A : UInt8) ∉ decimal fuel value digits := by
  induction fuel generalizing value digits with
  | zero => exact plain
  | succ fuel ih =>
    have digit : (0x3A : UInt8) ∉ (48 + value % 10).toUInt8 :: digits := by
      rw [List.mem_cons, not_or]
      refine ⟨fun same => ?_, plain⟩
      have value := congrArg UInt8.toNat same
      rw [Nat.toUInt8, UInt8.toNat_ofNat'] at value
      have : (0x3A : UInt8).toNat = 58 := rfl
      omega
    rw [decimal]
    split
    · exact digit
    · exact ih digit

theorem itoa_natCast (value : Nat) : itoa value = decimal (value.log2 + 1) value [] := by
  rw [itoa, if_neg (by omega), List.nil_append, Int.natAbs_natCast]

theorem itoa_inj {value other : Nat} (same : itoa value = itoa other) : value = other := by
  have bound (value : Nat) : value < 10 ^ (value.log2 + 1) :=
    Nat.lt_log2_self.trans_le (Nat.pow_le_pow_left (by decide) _)
  have read (value : Nat) :
      (itoa value).foldl (fun sum byte => 10 * sum + (byte.toNat - 48)) 0 = value := by
    rw [itoa_natCast, decimal_value [] (bound value), if_neg (Nat.succ_ne_zero _), List.foldl_nil]
  rw [← read value, same, read]

theorem itoa_digits (value : Nat) : (0x3A : UInt8) ∉ itoa value := by
  rw [itoa_natCast]
  exact decimal_digits List.not_mem_nil

theorem append_mark_inj {front other rest more : GoString} {mark : UInt8} (absent : mark ∉ front)
    (absent' : mark ∉ other) (same : front ++ mark :: rest = other ++ mark :: more) :
    front = other ∧ rest = more := by
  induction front generalizing other with
  | nil =>
    cases other with
    | nil => exact ⟨rfl, (List.cons.inj same).2⟩
    | cons byte other => exact absurd ((List.cons.inj same).1 ▸ List.mem_cons_self) absent'
  | cons byte front ih =>
    cases other with
    | nil => exact absurd ((List.cons.inj same).1 ▸ List.mem_cons_self) absent
    | cons next other =>
      obtain ⟨rfl, tails⟩ := List.cons.inj same
      obtain ⟨rfl, behind⟩ := ih (fun member => absent (List.mem_cons_of_mem _ member))
        (fun member => absent' (List.mem_cons_of_mem _ member)) tails
      exact ⟨rfl, behind⟩

def limiterKey (start name id : GoString) (bucket : Nat) : GoString :=
  start ++ name ++ ascii ":" ++ id ++ ascii ":" ++ itoa bucket

theorem limiterKey_inj {start name id name' id' : GoString} {bucket bucket' : Nat}
    (plain : 0x3A ∉ name) (plain' : 0x3A ∉ name')
    (same : limiterKey start name id bucket = limiterKey start name' id' bucket') :
    (name, id) = (name', id') ∧ bucket = bucket' := by
  have colon : ascii ":" = [0x3A] := by decide
  unfold limiterKey at same
  rw [colon, List.append_assoc, List.append_assoc, List.append_assoc, List.append_assoc,
    List.append_assoc, List.append_assoc, List.append_assoc, List.append_assoc] at same
  obtain ⟨rfl, rest⟩ := append_mark_inj plain plain' (List.append_cancel_left same)
  have backwards : (id ++ 0x3A :: itoa bucket).reverse = (id' ++ 0x3A :: itoa bucket').reverse :=
    congrArg List.reverse rest
  simp only [List.reverse_append, List.reverse_cons, List.append_assoc, List.singleton_append] at backwards
  obtain ⟨digits, ids⟩ := append_mark_inj (by simpa using itoa_digits bucket)
    (by simpa using itoa_digits bucket') backwards
  exact ⟨by rw [List.reverse_inj.mp ids], itoa_inj (List.reverse_inj.mp digits)⟩

/-- How many calls are allowed in a window, in nanoseconds. -/
structure Limit where
  max : Nat
  window : Nat
  positive : 0 < max
  whole : 1000000000 ≤ window

abbrev Pair := GoString × GoString

def Limit.seconds (limit : Limit) : Nat :=
  let sec := limit.window / 1000000000
  if sec < 1 then 1 else sec

def Limit.bucket (limit : Limit) (now : Nat) : Nat := now / 1000000000 / limit.seconds

/-- Ten seconds after a bucket's end. -/
def Limit.ending (limit : Limit) (bucket : Nat) : Nat :=
  (bucket + 1) * limit.seconds * 1000000000 + 10 * 1000000000

/-- How long a counter is kept, as `EXPIRE` is told. -/
def Limit.ttl (limit : Limit) : Nat := (limit.window + 10 * 1000000000) / 1000000000 * 1000000000

structure Counter where
  count : Nat
  deadline : Option Nat

/-- Where a call is: it has read the clock, or it has counted and is the first. -/
inductive Phase where
  | reading (pair : Pair) (read : Nat)
  | first (pair : Pair) (read : Nat)
  | done

structure Entry where
  pair : Pair
  read : Nat
  bucket : Nat
  allowed : Bool
deriving DecidableEq

/-- The clock, Valkey, the calls by number, and those that have counted, the latest first. -/
structure State where
  clock : Nat
  store : GoString → Option Counter
  calls : Nat → Option Phase
  log : List Entry

inductive Action where
  | wait (time : Nat)
  | start (call : Nat) (pair : Pair)
  | incr (call : Nat)
  | expire (call : Nat) (works : Bool)

section Allow

variable (start : GoString) (limits : Pair → Limit)

def State.live (state : State) (key : GoString) : Option Counter :=
  (state.store key).filter fun counter => counter.deadline.all (state.clock < ·)

def keyOf (pair : Pair) (bucket : Nat) : GoString := limiterKey start pair.1 pair.2 bucket

/-- The commands of `Allow`, with the clock. -/
def limiter : Machine State Action where
  step state
    | .wait time => some { state with clock := state.clock + time }
    | .start call pair =>
      match state.calls call with
      | some _ => none
      | none =>
        some { state with calls := Function.update state.calls call (some (.reading pair state.clock)) }
    | .incr call =>
      match state.calls call with
      | some (.reading pair read) =>
        let bucket := (limits pair).bucket read
        let counter : Counter := match state.live (keyOf start pair bucket) with
          | some counter => { counter with count := counter.count + 1 }
          | none => ⟨1, none⟩
        some
          { state with
            store := Function.update state.store (keyOf start pair bucket) (some counter)
            calls := Function.update state.calls call
              (some (if counter.count = 1 then .first pair read else .done))
            log := ⟨pair, read, bucket, counter.count ≤ (limits pair).max⟩ :: state.log }
      | _ => none
    | .expire call works =>
      match state.calls call with
      | some (.first pair read) =>
        let key := keyOf start pair ((limits pair).bucket read)
        some
          { state with
            store :=
              if works then
                Function.update state.store key ((state.live key).map fun counter =>
                  { counter with deadline := some (state.clock + (limits pair).ttl) })
              else state.store
            calls := Function.update state.calls call (some .done) }
      | _ => none

def fresh : State where
  clock := 0
  store _ := none
  calls _ := none
  log := []

def Named (_ : State) : Action → Prop
  | .start _ pair => 0x3A ∉ pair.1
  | .wait _ | .incr _ | .expire _ _ => True

/-- Names have no colon, and a call counts before its bucket has been over for ten seconds. -/
def Prompt (state : State) (action : Action) : Prop :=
  Named state action ∧ ∀ call pair read, action = .incr call →
    state.calls call = some (.reading pair read) →
      state.clock < (limits pair).ending ((limits pair).bucket read)

def occurrences (log : List Entry) (pair : Pair) (bucket : Nat) : Nat :=
  log.countP fun entry => entry.pair = pair ∧ entry.bucket = bucket

/-- At most the limit in a bucket, twice that in any window, and the first ones pass. -/
structure Fair (log : List Entry) : Prop where
  bucket : ∀ pair bucket,
    (log.countP fun entry => (entry.pair = pair ∧ entry.bucket = bucket) ∧ entry.allowed) ≤ (limits pair).max
  interval : ∀ pair opens,
    (log.countP fun entry => (entry.pair = pair ∧ opens ≤ entry.read ∧
      entry.read < opens + (limits pair).seconds * 1000000000) ∧ entry.allowed) ≤ 2 * (limits pair).max
  first : ∀ later entry earlier, log = later ++ entry :: earlier →
    occurrences earlier entry.pair entry.bucket < (limits entry.pair).max → entry.allowed = true

def own (log : List Entry) (pair : Pair) : List Entry := log.filter fun entry => entry.pair = pair

end Allow

section Decisions

variable {limits : Pair → Limit} {log : List Entry} {pair : Pair} {bucket : Nat}

/-- Each call is allowed exactly if fewer than the limit counted in its bucket before it. -/
def Decided (limits : Pair → Limit) : List Entry → Prop
  | [] => True
  | entry :: earlier =>
    entry.bucket = (limits entry.pair).bucket entry.read ∧
      (entry.allowed = true ↔ occurrences earlier entry.pair entry.bucket < (limits entry.pair).max) ∧
      Decided limits earlier

theorem occurrences_cons (entry : Entry) (log : List Entry) (pair : Pair) (bucket : Nat) :
    occurrences (entry :: log) pair bucket =
      occurrences log pair bucket + if entry.pair = pair ∧ entry.bucket = bucket then 1 else 0 := by
  simp only [occurrences, List.countP_cons, decide_eq_true_eq]

theorem Decided.of_append {later earlier : List Entry} (decided : Decided limits (later ++ earlier)) :
    Decided limits earlier := by
  induction later with
  | nil => exact decided
  | cons entry later ih => exact ih decided.2.2

theorem Decided.allowed (decided : Decided limits log) (pair : Pair) (bucket : Nat) :
    (log.countP fun entry => (entry.pair = pair ∧ entry.bucket = bucket) ∧ entry.allowed) =
      min (occurrences log pair bucket) (limits pair).max := by
  induction log with
  | nil => rfl
  | cons entry log ih =>
    obtain ⟨-, rule, before⟩ := decided
    rw [occurrences_cons, List.countP_cons, ih before]
    by_cases same : entry.pair = pair ∧ entry.bucket = bucket
    · obtain ⟨rfl, rfl⟩ := same
      cases allowed : entry.allowed with
      | true =>
        have room := rule.mp allowed
        simp
        omega
      | false =>
        have full : ¬occurrences log entry.pair entry.bucket < (limits entry.pair).max := fun room => by
          rw [rule.mpr room] at allowed
          cases allowed
        simp
        omega
    · have other : ¬decide ((entry.pair = pair ∧ entry.bucket = bucket) ∧ entry.allowed = true) = true :=
        fun both => same (of_decide_eq_true both).1
      rw [if_neg same, if_neg other, Nat.add_zero, Nat.add_zero]

theorem countP_le_add {p q r : Entry → Prop} [DecidablePred p] [DecidablePred q] [DecidablePred r]
    (log : List Entry) (either : ∀ entry ∈ log, p entry → q entry ∨ r entry) :
    (log.countP fun entry => p entry) ≤
      (log.countP fun entry => q entry) + log.countP fun entry => r entry := by
  induction log with
  | nil => exact le_rfl
  | cons entry log ih =>
    obtain ⟨first, others⟩ := List.forall_mem_cons.mp either
    have rest := ih others
    simp only [List.countP_cons, decide_eq_true_eq]
    split_ifs with holds
    all_goals first | omega | exact absurd (first holds) (by simp_all)

theorem Decided.bucket_eq (decided : Decided limits log) :
    ∀ entry ∈ log, entry.bucket = (limits entry.pair).bucket entry.read := by
  induction log with
  | nil => nofun
  | cons entry log ih => exact List.forall_mem_cons.mpr ⟨decided.1, ih decided.2.2⟩

theorem Limit.bucket_within (limit : Limit) {opens read : Nat} (after : opens ≤ read)
    (soon : read < opens + limit.seconds * 1000000000) :
    limit.bucket read = limit.bucket opens ∨ limit.bucket read = limit.bucket opens + 1 := by
  have some : 0 < limit.seconds := by
    unfold Limit.seconds
    dsimp only
    split <;> omega
  have least : limit.bucket opens ≤ limit.bucket read :=
    Nat.div_le_div_right (Nat.div_le_div_right after)
  have most : limit.bucket read ≤ limit.bucket opens + 1 := by
    unfold Limit.bucket
    rw [← Nat.add_div_right _ some]
    exact Nat.div_le_div_right (by omega)
  omega

theorem Decided.fair (decided : Decided limits log) : Fair limits log := by
  have bounded (pair : Pair) (bucket : Nat) :
      (log.countP fun entry => (entry.pair = pair ∧ entry.bucket = bucket) ∧ entry.allowed) ≤
        (limits pair).max := by
    rw [decided.allowed]
    exact Nat.min_le_right _ _
  refine ⟨bounded, fun pair opens => ?_, ?_⟩
  · have parts := countP_le_add (p := fun entry => (entry.pair = pair ∧ opens ≤ entry.read ∧
        entry.read < opens + (limits pair).seconds * 1000000000) ∧ entry.allowed) log
      (q := fun entry => (entry.pair = pair ∧ entry.bucket = (limits pair).bucket opens) ∧ entry.allowed)
      (r := fun entry => (entry.pair = pair ∧ entry.bucket = (limits pair).bucket opens + 1) ∧ entry.allowed)
      fun entry member holds => by
        obtain ⟨⟨rfl, after, soon⟩, allowed⟩ := holds
        rw [decided.bucket_eq entry member]
        exact (Limit.bucket_within _ after soon).imp (fun same => ⟨⟨rfl, same⟩, allowed⟩)
          fun next => ⟨⟨rfl, next⟩, allowed⟩
    have one := bounded pair ((limits pair).bucket opens)
    have two := bounded pair ((limits pair).bucket opens + 1)
    omega
  · rintro later entry earlier rfl room
    exact decided.of_append.2.1.mpr room

def answers (max : Nat) : List Nat → List Bool
  | [] => []
  | bucket :: earlier => decide (earlier.count bucket < max) :: answers max earlier

theorem Decided.answers (decided : Decided limits log) (pair : Pair) :
    (own log pair).map Entry.allowed = answers (limits pair).max ((own log pair).map Entry.bucket) := by
  induction log with
  | nil => rfl
  | cons entry log ih =>
    obtain ⟨-, rule, before⟩ := decided
    have counted (bucket : Nat) :
        occurrences log pair bucket = ((own log pair).map Entry.bucket).count bucket := by
      rw [occurrences, own, List.count, List.countP_map, List.countP_filter]
      refine List.countP_congr fun entry _ => ?_
      simp [and_comm]
    unfold own at ih counted ⊢
    by_cases same : entry.pair = pair
    · subst same
      rw [List.filter_cons_of_pos (by simp), List.map_cons, List.map_cons, Ratelimit.answers,
        ← ih before, ← counted, Bool.eq_iff_iff.mpr (rule.trans decide_eq_true_iff.symm)]
    · rw [List.filter_cons_of_neg (by simpa using same), ih before]

end Decisions

section Runs

variable {start : GoString} {limits : Pair → Limit} {state next : State} {action : Action}

/-- A call under way has a name without a colon, and has read the clock. -/
def Phase.Proper (clock : Nat) : Phase → Prop
  | .reading pair read | .first pair read => 0x3A ∉ pair.1 ∧ read ≤ clock
  | .done => True

/-- A counter has what counted in its bucket, and is not gone before its time. -/
structure Kept (start : GoString) (limits : Pair → Limit) (state : State) : Prop where
  proper : ∀ call phase, state.calls call = some phase → phase.Proper state.clock
  decided : Decided limits state.log
  counted : ∀ pair bucket, 0x3A ∉ pair.1 → state.clock < (limits pair).ending bucket →
    ((state.store (keyOf start pair bucket)).elim 0 Counter.count = occurrences state.log pair bucket) ∧
      ∀ counter deadline, state.store (keyOf start pair bucket) = some counter →
        counter.deadline = some deadline → (limits pair).ending bucket ≤ deadline

theorem Phase.Proper.later {phase : Phase} {clock later : Nat} (proper : phase.Proper clock)
    (after : clock ≤ later) : phase.Proper later := by
  cases phase with
  | reading | first => exact ⟨proper.1, proper.2.trans after⟩
  | done => trivial

theorem Kept.live (kept : Kept start limits state) {pair : Pair} {bucket : Nat} (plain : 0x3A ∉ pair.1)
    (early : state.clock < (limits pair).ending bucket) :
    state.live (keyOf start pair bucket) = state.store (keyOf start pair bucket) := by
  unfold State.live
  cases stored : state.store (keyOf start pair bucket) with
  | none => rfl
  | some counter =>
    refine Option.filter_eq_some_iff.mpr ⟨rfl, ?_⟩
    cases limit : counter.deadline with
    | none => rfl
    | some deadline =>
      have late := (kept.counted pair bucket plain early).2 counter deadline stored limit
      simpa using early.trans_le late

theorem Limit.seconds_le (limit : Limit) : 0 < limit.seconds ∧ limit.seconds = limit.window / 1000000000 := by
  have some := limit.whole
  unfold Limit.seconds
  dsimp only
  split <;> omega

theorem Limit.ending_le (limit : Limit) {read clock : Nat} (after : read ≤ clock) :
    limit.ending (limit.bucket read) ≤ clock + limit.ttl := by
  have begun : limit.bucket read * limit.seconds ≤ read / 1000000000 := Nat.div_mul_le_self _ _
  have seconds := limit.seconds_le.2
  have kept : limit.ttl = limit.seconds * 1000000000 + 10 * 1000000000 := by
    unfold Limit.ttl
    rw [seconds]
    omega
  unfold Limit.ending
  rw [kept, Nat.succ_mul]
  omega

theorem keyOf_ne {pair other : Pair} {bucket more : Nat} (plain : 0x3A ∉ pair.1) (plain' : 0x3A ∉ other.1)
    (differ : ¬(pair = other ∧ bucket = more)) : keyOf start other more ≠ keyOf start pair bucket :=
  fun same => differ ((limiterKey_inj plain' plain same).imp Eq.symm Eq.symm)

theorem proper_update {calls : Nat → Option Phase} {clock call : Nat} {phase : Phase}
    (proper : ∀ call phase, calls call = some phase → phase.Proper clock) (own : phase.Proper clock) :
    ∀ other held, Function.update calls call (some phase) other = some held → held.Proper clock := by
  intro other held found
  by_cases same : other = call
  · subst same
    rw [Function.update_self] at found
    exact Option.some.inj found ▸ own
  · rw [Function.update_of_ne same] at found
    exact proper other held found

theorem Kept.incr (kept : Kept start limits state) {call : Nat} {pair : Pair} {read : Nat}
    (under : state.calls call = some (.reading pair read))
    (early : state.clock < (limits pair).ending ((limits pair).bucket read))
    (taken : (limiter start limits).step state (.incr call) = some next) : Kept start limits next := by
  obtain ⟨plain, after⟩ := kept.proper call _ under
  obtain ⟨count, deadlines⟩ := kept.counted pair ((limits pair).bucket read) plain early
  simp only [limiter, under, kept.live plain early] at taken
  cases taken
  have value : (match state.store (keyOf start pair ((limits pair).bucket read)) with
      | some counter => ({ counter with count := counter.count + 1 } : Counter)
      | none => ⟨1, none⟩).count = occurrences state.log pair ((limits pair).bucket read) + 1 := by
    rw [← count]
    cases state.store (keyOf start pair ((limits pair).bucket read)) <;> rfl
  constructor
  · have advanced (first : Prop) [Decidable first] :
        (if first then Phase.first pair read else .done).Proper state.clock := by
      split
      · exact ⟨plain, after⟩
      · trivial
    exact proper_update kept.proper (advanced _)
  · refine ⟨rfl, ?_, kept.decided⟩
    dsimp only
    rw [value, decide_eq_true_iff, Nat.succ_le_iff]
  · intro other bucket plain' soon
    dsimp only at soon ⊢
    rw [occurrences_cons]
    by_cases same : pair = other ∧ (limits pair).bucket read = bucket
    · obtain ⟨rfl, rfl⟩ := same
      rw [Function.update_self, if_pos ⟨rfl, rfl⟩]
      refine ⟨value, fun counter deadline stored limit => ?_⟩
      cases Option.some.inj stored
      cases held : state.store (keyOf start pair ((limits pair).bucket read)) with
      | none =>
        rw [held] at limit
        cases limit
      | some counter =>
        rw [held] at limit
        exact deadlines counter deadline held limit
    · rw [Function.update_of_ne (keyOf_ne plain plain' same), if_neg same, Nat.add_zero]
      exact kept.counted other bucket plain' soon

theorem Kept.expire (kept : Kept start limits state) {call : Nat} {works : Bool}
    (taken : (limiter start limits).step state (.expire call works) = some next) :
    Kept start limits next := by
  simp only [limiter] at taken
  split at taken
  case h_2 => cases taken
  next pair read under =>
  obtain ⟨plain, after⟩ := kept.proper call _ under
  cases taken
  refine ⟨proper_update kept.proper trivial, kept.decided, fun other bucket plain' soon => ?_⟩
  dsimp only at soon ⊢
  split
  case isFalse => exact kept.counted other bucket plain' soon
  by_cases same : pair = other ∧ (limits pair).bucket read = bucket
  · obtain ⟨rfl, rfl⟩ := same
    obtain ⟨count, deadlines⟩ := kept.counted pair ((limits pair).bucket read) plain' soon
    rw [Function.update_self, kept.live plain' soon]
    refine ⟨?_, fun counter deadline stored limit => ?_⟩
    · rw [← count]
      cases state.store (keyOf start pair ((limits pair).bucket read)) <;> rfl
    · obtain ⟨before, -, rfl⟩ := Option.map_eq_some_iff.mp stored
      cases limit
      exact (limits pair).ending_le after
  · rw [Function.update_of_ne (keyOf_ne plain plain' same)]
    exact kept.counted other bucket plain' soon

theorem kept_step (kept : Kept start limits state) (may : Prompt limits state action)
    (taken : (limiter start limits).step state action = some next) : Kept start limits next := by
  cases action with
  | wait time =>
    cases taken
    refine ⟨fun call phase under => (kept.proper call phase under).later (Nat.le_add_right _ _),
      kept.decided, fun pair bucket plain soon => kept.counted pair bucket plain ?_⟩
    exact (Nat.le_add_right _ _).trans_lt soon
  | start call pair =>
    simp only [limiter] at taken
    split at taken
    · cases taken
    · cases taken
      exact ⟨proper_update kept.proper ⟨may.1, le_rfl⟩, kept.decided, kept.counted⟩
  | incr call =>
    cases under : state.calls call with
    | none => simp [limiter, under] at taken
    | some phase =>
      cases phase with
      | reading pair read => exact kept.incr under (may.2 call pair read rfl under) taken
      | first | done => simp [limiter, under] at taken
  | expire call works => exact kept.expire taken

theorem fresh_kept : Kept start limits fresh where
  proper _ _ under := by cases under
  decided := trivial
  counted _ _ _ _ := ⟨rfl, fun _ _ stored => by cases stored⟩

theorem runs_kept (runs : (limiter start limits).Runs (Prompt limits) fresh state) :
    Kept start limits state :=
  runs.invariant (Kept start limits) fresh_kept fun kept may taken => kept_step kept may taken

/-- Calls that count promptly get what the limits promise, and the answers of a pair are told by the
buckets of its calls alone, whatever other pairs do and are limited to. -/
theorem limits_prompt (runs : (limiter start limits).Runs (Prompt limits) fresh state) :
    Fair limits state.log ∧ ∀ (limits' : Pair → Limit) (other : State),
      (limiter start limits').Runs (Prompt limits') fresh other → ∀ pair, limits' pair = limits pair →
        (own other.log pair).map Entry.bucket = (own state.log pair).map Entry.bucket →
          (own other.log pair).map Entry.allowed = (own state.log pair).map Entry.allowed := by
  refine ⟨(runs_kept runs).decided.fair, fun limits' other others pair same buckets => ?_⟩
  rw [(runs_kept runs).decided.answers, (runs_kept others).decided.answers, buckets, same]

end Runs

def oneASecond (_ : Pair) : Limit := ⟨1, 1000000000, Nat.one_pos, le_rfl⟩

/-- Both read the clock, and the second counts later. -/
def twoCalls (time : Nat) : List Action :=
  [.start 0 (ascii "n", ascii "i"), .start 1 (ascii "n", ascii "i"), .incr 0, .expire 0 true, .wait time,
    .incr 1]

theorem twoCalls_named : (0x3A : UInt8) ∉ ascii "n" := by decide

theorem limits_prompt_two : Fair oneASecond
    ((limiter (ascii "p:") oneASecond).after (twoCalls 0) fresh).log :=
  (limits_prompt (Machine.after_runs (twoCalls 0) (by
    refine ⟨⟨twoCalls_named, nofun⟩, ⟨twoCalls_named, nofun⟩, ⟨trivial, fun _ _ _ _ _ => Nat.succ_pos _⟩,
      ⟨trivial, nofun⟩, ⟨trivial, nofun⟩, ⟨trivial, fun _ _ _ _ _ => Nat.succ_pos _⟩, trivial⟩))).1

/-- A call that counts after its bucket's counter is gone is allowed beyond the limit. -/
theorem limit_exceeded : ¬∀ final, (limiter (ascii "p:") oneASecond).Runs Named fresh final →
    Fair oneASecond final.log := by
  intro always
  have fair := always _ (Machine.after_runs (twoCalls 12000000000)
    ⟨twoCalls_named, twoCalls_named, trivial, trivial, trivial, trivial, trivial⟩)
  have counted := fair.bucket (ascii "n", ascii "i") 0
  revert counted
  decide +kernel

end ElvishMail.Ratelimit
