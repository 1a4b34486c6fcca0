import ElvishMail.Mailapp.FilterPass

/-!
# What a pass of the filters records

`due` is the rule that a message falls under with the fingerprint of its actions, and
`appliedEntries` are the entries that the calls which were applied ought to leave in
the ledger. A callback reads the variables of `pump` after the loop has gone on: it
records the call it belongs to where the last message its invocation looked at is the
one whose actions were applied.
-/

namespace ElvishMail.Mailapp

open Js Semantics

variable (lib : Library) (localeCompare : JsString → JsString → Int)

namespace PassInput

variable (input : PassInput)

def due (message : InboxMessage) : Option (FilterRule × JsString) :=
  if message.id = [] then none
  else
    match input.hitFor lib localeCompare message with
    | none => none
    | some hit =>
      let acts := filterSupportedActions lib hit.actions
      if acts = [] then none else some (hit, actionFingerprint acts)

def entryOf (call : Call) : LedgerEntry :=
  LedgerStore.entryFor call.message.id call.rule.id call.fingerprint (input.rulesHash localeCompare)

def appliedEntries (calls : List Call) : List LedgerEntry :=
  (calls.filter fun call => call.Applied).map (input.entryOf localeCompare)

/-- The ledger has the entry of every call that was applied, and no other that was not
there when the pass began. -/
structure RecordsExactly (before : LedgerStore) (state : Pass) : Prop where
  recorded : ∀ entry ∈ input.appliedEntries localeCompare state.calls,
    Rows.find LedgerEntry.messageId entry.messageId state.ledger.entries = some entry
  nothingElse : ∀ entry ∈ state.ledger.entries,
    entry ∈ before.entries ∨ entry ∈ input.appliedEntries localeCompare state.calls

def DistinctIds : Prop :=
  ∀ left right, some left ∈ input.messages → some right ∈ input.messages → left.id = right.id →
    left = right

/-- The callback of a fulfilled call runs while its invocation of `pump` has looked at no
message after that of the call, `localStorage` takes the entry, and the requests could
be made at all. -/
def Kept (state : Pass) : PassEvent → Prop
  | .fulfilled index _ taken =>
    taken = true ∧ input.manifest = true ∧ ∀ call ∈ state.calls[index]?,
      ∀ scope ∈ state.scopes[call.invocation]?, scope.msg = some call.message
  | _ => True

instance (state : Pass) (event : PassEvent) : Decidable (input.Kept state event) := by
  unfold Kept
  split <;> infer_instance

variable {lib localeCompare input} {ledger : LedgerStore} {scope : Scope} {head : Option InboxMessage}
  {message : InboxMessage} {hit : FilterRule} {fp : JsString}

/-- The variables of an invocation are those of the last message it looked at. -/
def Fits (lib : Library) (localeCompare : JsString → JsString → Int) (input : PassInput)
    (scope : Scope) : Prop :=
  ∀ message ∈ scope.msg, ∀ hit fp, input.due lib localeCompare message = some (hit, fp) →
    scope.hit = some hit ∧ scope.fp = fp

theorem due_spec (falls : input.due lib localeCompare message = some (hit, fp)) :
    message.id ≠ [] ∧ input.hitFor lib localeCompare message = some hit ∧
      filterSupportedActions lib hit.actions ≠ [] ∧
      fp = actionFingerprint (filterSupportedActions lib hit.actions) := by
  unfold due at falls
  split at falls
  next => cases falls
  next identified =>
    split at falls
    next => cases falls
    next rule found =>
      dsimp only at falls
      split at falls
      next => cases falls
      next supported =>
        cases falls
        exact ⟨identified, found, supported, rfl⟩

theorem due_identified (falls : input.due lib localeCompare message = some (hit, fp)) : hit.id ≠ [] :=
  id_of_mem_normalizeRules localeCompare (List.mem_of_find?_eq_some (due_spec falls).2.1)

theorem turn_spec (ledger : LedgerStore) (scope : Scope) (head : Option InboxMessage) :
    let (after, started) := input.turn lib localeCompare ledger scope head
    after.msg = head ∧ Fits lib localeCompare input after ∧
      ∀ message hit fp, started = some (message, hit, fp) →
        head = some message ∧ input.due lib localeCompare message = some (hit, fp) ∧
          ledger.alreadyApplied message.id hit.id fp (input.rulesHash localeCompare) = false := by
  cases head with
  | none => exact ⟨rfl, nofun, nofun⟩
  | some message =>
    have shape : ∀ other ∈ some message, other = message := fun _ same => (Option.some.inj same).symm
    by_cases identified : message.id = []
    · have none : input.due lib localeCompare message = none := by simp [due, identified]
      simp only [turn, identified, if_true]
      refine ⟨trivial, ?_, nofun⟩
      intro other same hit fp falls
      rw [shape other same, none] at falls
      cases falls
    · simp only [turn, identified, if_false]
      cases found : input.hitFor lib localeCompare message with
      | none =>
        have none : input.due lib localeCompare message = none := by simp [due, found]
        refine ⟨rfl, ?_, nofun⟩
        intro other same hit fp falls
        rw [shape other same, none] at falls
        cases falls
      | some rule =>
        by_cases supported : filterSupportedActions lib rule.actions = []
        · have none : input.due lib localeCompare message = none := by
            simp [due, found, supported]
          simp only [supported, if_true]
          refine ⟨trivial, ?_, nofun⟩
          intro other same hit fp falls
          rw [shape other same, none] at falls
          cases falls
        · have falls : input.due lib localeCompare message =
              some (rule, actionFingerprint (filterSupportedActions lib rule.actions)) := by
            simp [due, identified, found, supported]
          simp only [supported, if_false]
          split
          next =>
            refine ⟨rfl, ?_, nofun⟩
            intro other same hit fp again
            rw [shape other same, falls] at again
            cases again
            exact ⟨rfl, rfl⟩
          next fresh =>
            refine ⟨rfl, ?_, ?_⟩
            · intro other same hit fp again
              rw [shape other same, falls] at again
              cases again
              exact ⟨rfl, rfl⟩
            · rintro _ _ _ ⟨⟩
              exact ⟨rfl, falls, by simpa using fresh⟩

structure Begun (lib : Library) (localeCompare : JsString → JsString → Int) (input : PassInput)
    (ledger : LedgerStore) (invocation : Nat) (queue : List (Option InboxMessage)) (call : Call) :
    Prop where
  queued : some call.message ∈ queue
  due : input.due lib localeCompare call.message = some (call.rule, call.fingerprint)
  within : call.invocation = invocation
  fresh : ledger.alreadyApplied call.message.id call.rule.id call.fingerprint
    (input.rulesHash localeCompare) = false
  waiting : ¬call.Applied
  applies : input.manifest = true → call.applies = true

theorem Begun.later {invocation : Nat} {queue : List (Option InboxMessage)} {call : Call}
    (begun : Begun lib localeCompare input ledger invocation queue call) :
    Begun lib localeCompare input ledger invocation (head :: queue) call :=
  { begun with queued := List.mem_cons_of_mem _ begun.queued }

theorem startedCall_waiting {invocation : Nat} :
    ¬(input.startedCall lib invocation message hit fp).Applied := by
  simp [startedCall, Call.Applied]

theorem startedCall_applies {invocation : Nat}
    (falls : input.due lib localeCompare message = some (hit, fp)) (loaded : input.manifest = true) :
    (input.startedCall lib invocation message hit fp).applies = true := by
  obtain ⟨identified, -, supported, -⟩ := due_spec falls
  simp [startedCall, applyActions, loaded, identified, supported]

theorem loop_spec (ledger : LedgerStore) (invocation : Nat) (queue : List (Option InboxMessage))
    (inFlight : Nat) (scope : Scope) (fits : Fits lib localeCompare input scope) :
    let (left, _, after, calls) := input.loop lib localeCompare ledger invocation queue inFlight scope
    (∀ message ∈ left, message ∈ queue) ∧ Fits lib localeCompare input after ∧
      (after.msg = scope.msg ∨ after.msg ∈ queue) ∧
      ∀ call ∈ calls, Begun lib localeCompare input ledger invocation queue call := by
  induction queue generalizing inFlight scope with
  | nil => exact ⟨fun _ member => member, fits, .inl rfl, nofun⟩
  | cons head queue ih =>
    by_cases full : 3 ≤ inFlight
    · rw [loop, if_pos full]
      exact ⟨fun _ member => member, fits, .inl rfl, nofun⟩
    · rw [loop, if_neg full]
      have turned := @turn_spec lib localeCompare input ledger scope head
      revert turned
      rcases input.turn lib localeCompare ledger scope head with ⟨after, _ | ⟨message, hit, fp⟩⟩
      all_goals
        rintro ⟨looked, fitsAfter, begins⟩
        have seen {last : Scope} (either : last.msg = after.msg ∨ last.msg ∈ queue) :
            last.msg = scope.msg ∨ last.msg ∈ head :: queue := by
          rcases either with same | further
          · exact .inr (by simp [same, looked])
          · exact .inr (List.mem_cons_of_mem _ further)
      · obtain ⟨rest, fitsLast, last, calls⟩ := ih inFlight after fitsAfter
        exact ⟨fun message member => List.mem_cons_of_mem _ (rest message member),
          fitsLast, seen last, fun call member => (calls call member).later⟩
      · obtain ⟨rest, fitsLast, last, calls⟩ := ih (inFlight + 1) after fitsAfter
        refine ⟨fun message member => List.mem_cons_of_mem _ (rest message member),
          fitsLast, seen last, ?_⟩
        intro call member
        rcases List.mem_cons.mp member with rfl | later
        · obtain ⟨rfl, falls, fresh⟩ := begins message hit fp rfl
          exact ⟨List.mem_cons_self .., falls, rfl, fresh, startedCall_waiting,
            startedCall_applies falls⟩
        · exact (calls call later).later

variable {state next : Pass} {event : PassEvent} {call : Call} {entry : LedgerEntry}

/-- Queue, variables and calls are of messages of the list. -/
structure Sound (lib : Library) (localeCompare : JsString → JsString → Int) (input : PassInput)
    (state : Pass) : Prop where
  queue : ∀ message ∈ state.queue, message ∈ input.messages
  scopes : ∀ scope ∈ state.scopes, Fits lib localeCompare input scope ∧
    ∀ message ∈ scope.msg, some message ∈ input.messages
  listed : ∀ call ∈ state.calls, some call.message ∈ input.messages
  due : ∀ call ∈ state.calls,
    input.due lib localeCompare call.message = some (call.rule, call.fingerprint)
  within : ∀ call ∈ state.calls, call.invocation < state.scopes.length
  applies : input.manifest = true → ∀ call ∈ state.calls, call.applies = true

theorem pump_spec (state : Pass) : ∃ queue scope calls,
    (input.pump lib localeCompare state).queue = queue ∧
    (input.pump lib localeCompare state).scopes = state.scopes ++ [scope] ∧
    (input.pump lib localeCompare state).calls = state.calls ++ calls ∧
    (input.pump lib localeCompare state).ledger = state.ledger ∧
    (∀ message ∈ queue, message ∈ state.queue) ∧ Fits lib localeCompare input scope ∧
    (∀ message ∈ scope.msg, some message ∈ state.queue) ∧
    ∀ call ∈ calls,
      Begun lib localeCompare input state.ledger state.scopes.length state.queue call := by
  have empty : Fits lib localeCompare input {} := nofun
  have spec := loop_spec state.ledger state.scopes.length state.queue state.inFlight {} empty
  revert spec
  unfold pump
  rcases input.loop lib localeCompare state.ledger state.scopes.length state.queue state.inFlight {}
    with ⟨queue, inFlight, scope, calls⟩
  rintro ⟨rest, fits, last, begun⟩
  refine ⟨queue, scope, calls, rfl, rfl, rfl, rfl, rest, fits, ?_, begun⟩
  intro message same
  rcases last with none | member
  · rw [none] at same
    cases same
  · rwa [Option.mem_def.mp same] at member

theorem Sound.pump (sound : Sound lib localeCompare input state) :
    Sound lib localeCompare input (input.pump lib localeCompare state) := by
  obtain ⟨queue, scope, calls, left, scopes, called, -, rest, fits, seen, begun⟩ :=
    @pump_spec lib localeCompare input state
  have either {call : Call} (member : call ∈ (input.pump lib localeCompare state).calls) :
      call ∈ state.calls ∨ Begun lib localeCompare input state.ledger state.scopes.length state.queue
        call := by
    rw [called, List.mem_append] at member
    exact member.imp_right (begun call)
  constructor
  · intro message member
    rw [left] at member
    exact sound.queue message (rest message member)
  · intro other member
    rw [scopes] at member
    rcases List.mem_append.mp member with old | new
    · exact sound.scopes other old
    · rw [List.mem_singleton.mp new]
      exact ⟨fits, fun message same => sound.queue _ (seen message same)⟩
  · intro call member
    rcases either member with old | new
    · exact sound.listed call old
    · exact sound.queue _ new.queued
  · intro call member
    rcases either member with old | new
    · exact sound.due call old
    · exact new.due
  · intro call member
    rw [scopes, List.length_append, List.length_singleton]
    rcases either member with old | new
    · exact Nat.lt_succ_of_lt (sound.within call old)
    · rw [new.within]
      exact Nat.lt_succ_self _
  · intro loaded call member
    rcases either member with old | new
    · exact sound.applies loaded call old
    · exact new.applies loaded

theorem Sound.set {index : Nat} (sound : Sound lib localeCompare input state)
    (at_ : state.calls[index]? = some call) (phase : Phase) :
    Sound lib localeCompare input
      { state with calls := state.calls.set index { call with phase } } := by
  have old : call ∈ state.calls := List.mem_of_getElem? at_
  have either {other : Call} (member : other ∈ state.calls.set index { call with phase }) :
      other ∈ state.calls ∨ other = { call with phase } := List.mem_or_eq_of_mem_set member
  constructor
  · exact sound.queue
  · exact sound.scopes
  · intro other member
    rcases either member with kept | rfl
    · exact sound.listed other kept
    · exact sound.listed call old
  · intro other member
    rcases either member with kept | rfl
    · exact sound.due other kept
    · exact sound.due call old
  · intro other member
    rcases either member with kept | rfl
    · exact sound.within other kept
    · exact sound.within call old
  · intro loaded other member
    rcases either member with kept | rfl
    · exact sound.applies loaded other kept
    · exact sound.applies loaded call old

structure Proceeds (state : Pass) (index : Nat) (call : Call) (phase : Phase) (next : Pass) :
    Prop where
  found : state.calls[index]? = some call
  state : next = { state with calls := state.calls.set index { call with phase } }

theorem step_cases (taken : input.step lib localeCompare state event = some next) :
    (∃ index call phase, ¬call.Applied ∧ ¬({ call with phase } : Call).Applied ∧
      Proceeds state index call phase next) ∨
    (∃ index call syncTaken taken, event = .fulfilled index syncTaken taken ∧
      state.calls[index]? = some call ∧ ¬call.Applied ∧
      Proceeds (input.onFulfilled localeCompare syncTaken taken
        (state.scopes[call.invocation]?.getD {}) state) index call (.settled call.applies) next) ∨
    ∃ index call applied middle, call.phase = .settled applied ∧
      Proceeds { state with inFlight := state.inFlight - 1 } index call (.released applied) middle ∧
      next = input.pump lib localeCompare middle := by
  cases event with
  | answered index =>
    simp only [step] at taken
    split at taken
    next call found =>
      split at taken
      next request requests running =>
        cases taken
        exact .inl ⟨index, call, .running requests, by simp [Call.Applied, running],
          by simp [Call.Applied], found, rfl⟩
      next => cases taken
    next => cases taken
  | failed index =>
    simp only [step] at taken
    split at taken
    next call found =>
      split at taken
      next request requests running =>
        cases taken
        exact .inl ⟨index, call, .settled false, by simp [Call.Applied, running],
          by simp [Call.Applied], found, rfl⟩
      next => cases taken
    next => cases taken
  | fulfilled index syncTaken stored =>
    simp only [step] at taken
    split at taken
    next call found =>
      split at taken
      next running =>
        cases taken
        refine .inr (.inl ⟨index, call, syncTaken, stored, rfl, found,
          by simp [Call.Applied, running], ?_, rfl⟩)
        unfold onFulfilled
        split
        next => exact found
        next => exact found
      next => cases taken
    next => cases taken
  | finished index =>
    simp only [step] at taken
    split at taken
    next call found =>
      split at taken
      next applied settled =>
        cases taken
        exact .inr (.inr ⟨index, call, applied, _, settled, ⟨found, rfl⟩, rfl⟩)
      next => cases taken
    next => cases taken

theorem onFulfilled_calls {syncTaken taken : Bool} :
    (input.onFulfilled localeCompare syncTaken taken scope state).calls = state.calls := by
  unfold onFulfilled
  split <;> rfl

theorem Sound.onFulfilled {syncTaken taken : Bool} (sound : Sound lib localeCompare input state) :
    Sound lib localeCompare input (input.onFulfilled localeCompare syncTaken taken scope state) := by
  unfold PassInput.onFulfilled
  split
  next => exact ⟨sound.queue, sound.scopes, sound.listed, sound.due, sound.within, sound.applies⟩
  next => exact sound

theorem Sound.initial {syncTaken pruneTaken : Bool} {store : LedgerStore} :
    Sound lib localeCompare input (input.initial localeCompare syncTaken pruneTaken store) :=
  ⟨fun _ member => member, nofun, nofun, nofun, nofun, nofun⟩

theorem mem_appliedEntries {calls : List Call} : entry ∈ input.appliedEntries localeCompare calls ↔
    ∃ call ∈ calls, call.Applied ∧ input.entryOf localeCompare call = entry := by
  simp [appliedEntries, and_assoc]

theorem appliedEntries_append {calls begun : List Call} (waiting : ∀ call ∈ begun, ¬call.Applied) :
    input.appliedEntries localeCompare (calls ++ begun) = input.appliedEntries localeCompare calls := by
  have none : begun.filter (fun call => call.Applied) = [] := by
    simpa [List.filter_eq_nil_iff] using waiting
  rw [appliedEntries, List.filter_append, none, List.append_nil, appliedEntries]

theorem mem_appliedEntries_set {index : Nat} {phase : Phase} (found : state.calls[index]? = some call)
    (kept : call.Applied → ({ call with phase } : Call).Applied) :
    entry ∈ input.appliedEntries localeCompare (state.calls.set index { call with phase }) ↔
      entry ∈ input.appliedEntries localeCompare state.calls ∨
        (({ call with phase } : Call).Applied ∧ entry = input.entryOf localeCompare call) := by
  simp only [mem_appliedEntries]
  obtain ⟨inside, same⟩ := List.getElem?_eq_some_iff.mp found
  constructor
  · rintro ⟨other, member, applied, rfl⟩
    rcases List.mem_or_eq_of_mem_set member with old | rfl
    · exact .inl ⟨other, old, applied, rfl⟩
    · exact .inr ⟨applied, rfl⟩
  · rintro (⟨other, member, applied, rfl⟩ | ⟨applied, rfl⟩)
    · obtain ⟨place, below, rfl⟩ := List.mem_iff_getElem.mp member
      by_cases here : index = place
      · subst here
        rw [same] at applied ⊢
        exact ⟨_, List.mem_set inside _, kept applied, rfl⟩
      · have stays : (state.calls.set index { call with phase })[place]? = some state.calls[place] := by
          rw [List.getElem?_set_ne here, List.getElem?_eq_getElem below]
        exact ⟨_, List.mem_of_getElem? stays, applied, rfl⟩
    · exact ⟨_, List.mem_set inside _, applied, rfl⟩

theorem rulesHash_ne_nil : input.rulesHash localeCompare ≠ [] := stableRulesHash_ne_nil _

theorem record_due {syncTaken taken : Bool}
    (falls : input.due lib localeCompare message = some (hit, fp)) :
    ledger.record syncTaken taken message.id hit.id fp (input.rulesHash localeCompare) =
      LedgerStore.written taken (ledger.syncRulesHash syncTaken (input.rulesHash localeCompare))
        { ledger.ensured (input.rulesHash localeCompare) with
          entries := Rows.upsert LedgerEntry.messageId
            (LedgerStore.entryFor message.id hit.id fp (input.rulesHash localeCompare))
            (ledger.ensured (input.rulesHash localeCompare)).entries } :=
  if_neg (by
    rintro (empty | empty | empty)
    · exact (due_spec falls).1 empty
    · exact due_identified falls empty
    · exact rulesHash_ne_nil empty)

theorem ensured_rulesHash {rulesHash : JsString} : (ledger.ensured rulesHash).rulesHash = rulesHash := by
  unfold LedgerStore.ensured
  split
  next => rfl
  next same => exact not_not.mp same

theorem mem_of_mem_ensured {rulesHash : JsString} (member : entry ∈ (ledger.ensured rulesHash).entries) :
    entry ∈ ledger.entries := by
  unfold LedgerStore.ensured at member
  split at member
  next => cases member
  next => exact member

theorem ensured_eq {rulesHash : JsString} (same : ledger.rulesHash = rulesHash) :
    ledger.ensured rulesHash = ledger :=
  if_neg (not_not.mpr same)

theorem entryOf_eq (sound : Sound lib localeCompare input state) (distinct : input.DistinctIds)
    {left right : Call} (leftMember : left ∈ state.calls) (rightMember : right ∈ state.calls)
    (same : left.message.id = right.message.id) :
    input.entryOf localeCompare left = input.entryOf localeCompare right := by
  have message : left.message = right.message :=
    distinct _ _ (sound.listed left leftMember) (sound.listed right rightMember) same
  have falls := sound.due left leftMember
  rw [message, sound.due right rightMember] at falls
  obtain ⟨rule, fingerprint⟩ := Prod.mk.inj (Option.some.inj falls)
  rw [entryOf, entryOf, message, rule, fingerprint]

/-- What a run keeps while callbacks find the variables of their own message. -/
structure Tally (lib : Library) (localeCompare : JsString → JsString → Int) (input : PassInput)
    (before : LedgerStore) (state : Pass) : Prop
    extends Sound lib localeCompare input state, RecordsExactly localeCompare input before state where
  hashed : ∀ entry ∈ input.appliedEntries localeCompare state.calls,
    state.ledger.rulesHash = input.rulesHash localeCompare

variable {before : LedgerStore}

theorem Tally.of_same (tally : Tally lib localeCompare input before state)
    (sound : Sound lib localeCompare input next) (ledger : next.ledger = state.ledger)
    (applied : ∀ entry, entry ∈ input.appliedEntries localeCompare next.calls ↔
      entry ∈ input.appliedEntries localeCompare state.calls) :
    Tally lib localeCompare input before next where
  toSound := sound
  recorded := by
    intro entry member
    rw [ledger]
    exact tally.recorded entry ((applied entry).mp member)
  nothingElse := by
    intro entry member
    rw [ledger] at member
    exact (tally.nothingElse entry member).imp_right (applied entry).mpr
  hashed := by
    intro entry member
    rw [ledger]
    exact tally.hashed entry ((applied entry).mp member)

theorem Tally.initial {syncTaken pruneTaken : Bool} {store : LedgerStore} :
    Tally lib localeCompare input (input.opened localeCompare syncTaken pruneTaken store)
      (input.initial localeCompare syncTaken pruneTaken store) :=
  ⟨Sound.initial, ⟨fun _ member => absurd member List.not_mem_nil, fun _ member => .inl member⟩,
    fun _ member => absurd member List.not_mem_nil⟩

theorem Tally.pump (tally : Tally lib localeCompare input before state) :
    Tally lib localeCompare input before (input.pump lib localeCompare state) := by
  obtain ⟨_, _, calls, -, -, called, ledger, -, -, -, begun⟩ := @pump_spec lib localeCompare input state
  refine tally.of_same tally.toSound.pump ledger fun entry => ?_
  rw [called, appliedEntries_append fun call member => (begun call member).waiting]

theorem onFulfilled_own (syncTaken : Bool) (sound : Sound lib localeCompare input state)
    (member : call ∈ state.calls) (fits : Fits lib localeCompare input scope)
    (own : scope.msg = some call.message) :
    ∃ ledger, (input.onFulfilled localeCompare syncTaken true scope state).ledger = ledger ∧
      ledger.rulesHash = input.rulesHash localeCompare ∧
      ledger.entries = Rows.upsert LedgerEntry.messageId (input.entryOf localeCompare call)
        (state.ledger.ensured (input.rulesHash localeCompare)).entries := by
  obtain ⟨hit, fp⟩ := fits call.message own _ _ (sound.due call member)
  refine ⟨_, rfl, ?_⟩
  simp only [PassInput.onFulfilled, own, hit, fp]
  rw [record_due (sound.due call member)]
  exact ⟨ensured_rulesHash, rfl⟩

theorem Tally.fulfilled {index : Nat} {syncTaken : Bool} (tally : Tally lib localeCompare input before state)
    (distinct : input.DistinctIds) (found : state.calls[index]? = some call) (waiting : ¬call.Applied)
    (fits : Fits lib localeCompare input scope) (own : scope.msg = some call.message)
    (loaded : input.manifest = true)
    (proceeds : Proceeds (input.onFulfilled localeCompare syncTaken true scope state) index call
      (.settled call.applies) next) :
    Tally lib localeCompare input before next := by
  obtain ⟨foundAfter, rfl⟩ := proceeds
  have member : call ∈ state.calls := List.mem_of_getElem? found
  have sound : Sound lib localeCompare input
      { input.onFulfilled localeCompare syncTaken true scope state with
        calls := (input.onFulfilled localeCompare syncTaken true scope state).calls.set index
          { call with phase := .settled call.applies } } :=
    tally.toSound.onFulfilled.set foundAfter _
  have isApplied : ({ call with phase := .settled call.applies } : Call).Applied := by
    rw [tally.applies loaded call member]
    exact .inl rfl
  have applied (entry : LedgerEntry) : entry ∈ input.appliedEntries localeCompare
      ((input.onFulfilled localeCompare syncTaken true scope state).calls.set index
        { call with phase := .settled call.applies }) ↔
      entry ∈ input.appliedEntries localeCompare state.calls ∨
        entry = input.entryOf localeCompare call := by
    rw [mem_appliedEntries_set foundAfter fun old => absurd old waiting, onFulfilled_calls]
    simp [isApplied]
  obtain ⟨ledger, at_, hash, entries⟩ := onFulfilled_own syncTaken tally.toSound member fits own
  refine ⟨sound, ⟨?_, ?_⟩, fun _ _ => (congrArg _ at_).trans hash⟩
  · intro entry recorded
    show Rows.find _ _ (input.onFulfilled localeCompare syncTaken true scope state).ledger.entries = _
    rw [at_, entries]
    rcases (applied entry).mp recorded with old | rfl
    · by_cases same : entry.messageId = (input.entryOf localeCompare call).messageId
      · obtain ⟨other, otherMember, -, rfl⟩ := mem_appliedEntries.mp old
        rw [entryOf_eq tally.toSound distinct otherMember member same]
        exact Rows.find_upsert_self
      · rw [Rows.find_upsert_of_ne same, ensured_eq (tally.hashed entry old)]
        exact tally.recorded entry old
    · exact Rows.find_upsert_self
  · intro entry listed
    change entry ∈ (input.onFulfilled localeCompare syncTaken true scope state).ledger.entries at listed
    rw [at_, entries] at listed
    rcases Rows.mem_upsert listed with old | rfl
    · exact (tally.nothingElse entry (mem_of_mem_ensured old)).imp_right fun known =>
        (applied entry).mpr (.inl known)
    · exact .inr ((applied _).mpr (.inr rfl))

theorem Tally.step (tally : Tally lib localeCompare input before state) (distinct : input.DistinctIds)
    (kept : input.Kept state event) (taken : input.step lib localeCompare state event = some next) :
    Tally lib localeCompare input before next := by
  obtain ⟨index, call, phase, waiting, still, found, rfl⟩ |
    ⟨index, call, syncTaken, stored, rfl, found, waiting, proceeds⟩ |
    ⟨index, call, applied, middle, settled, ⟨found, rfl⟩, rfl⟩ := step_cases taken
  · refine tally.of_same (tally.toSound.set found phase) rfl fun entry => ?_
    rw [mem_appliedEntries_set found fun old => absurd old waiting]
    exact or_iff_left fun new => still new.1
  · obtain ⟨rfl, loaded, own⟩ := kept
    have inside := tally.within call (List.mem_of_getElem? found)
    have scope := List.getElem?_eq_getElem inside
    rw [scope, Option.getD_some] at proceeds
    exact tally.fulfilled distinct found waiting (tally.scopes _ (List.getElem_mem inside)).1
      (own call found _ scope) loaded proceeds
  · have lowered : Sound lib localeCompare input { state with inFlight := state.inFlight - 1 } :=
      ⟨tally.queue, tally.scopes, tally.listed, tally.due, tally.within, tally.applies⟩
    have known : ({ call with phase := .released applied } : Call).Applied → call.Applied := by
      rintro (same | same)
      · cases same
      · cases same
        exact .inl settled
    refine (tally.of_same (lowered.set found _) rfl fun entry => ?_).pump
    rw [mem_appliedEntries_set found]
    · refine or_iff_left_of_imp fun new => ?_
      exact mem_appliedEntries.mpr ⟨call, List.mem_of_getElem? found, known new.1, new.2.symm⟩
    · rintro (same | same)
      · rw [settled] at same
        cases same
        exact .inr rfl
      · rw [settled] at same
        cases same

/-- The ledger has the entry of a message that is due some actions. -/
structure Standing (lib : Library) (localeCompare : JsString → JsString → Int) (input : PassInput)
    (message : InboxMessage) (hit : FilterRule) (fp : JsString) (ledger : LedgerStore) : Prop where
  inList : some message ∈ input.messages
  falls : input.due lib localeCompare message = some (hit, fp)
  hash : ledger.rulesHash = input.rulesHash localeCompare
  found : Rows.find LedgerEntry.messageId message.id ledger.entries =
    some (LedgerStore.entryFor message.id hit.id fp (input.rulesHash localeCompare))

theorem Standing.alreadyApplied
    (standing : Standing lib localeCompare input message hit fp ledger) :
    ledger.alreadyApplied message.id hit.id fp (input.rulesHash localeCompare) = true := by
  have given : ¬(message.id = [] ∨ hit.id = [] ∨ input.rulesHash localeCompare = []) := by
    rintro (empty | empty | empty)
    · exact (due_spec standing.falls).1 empty
    · exact due_identified standing.falls empty
    · exact rulesHash_ne_nil empty
  rw [LedgerStore.alreadyApplied, if_neg given, if_neg (not_not.mpr standing.hash), standing.found]
  simp [LedgerStore.entryFor]

theorem Standing.opened {syncTaken pruneTaken : Bool}
    (standing : Standing lib localeCompare input message hit fp ledger) :
    Standing lib localeCompare input message hit fp
      (input.opened localeCompare syncTaken pruneTaken ledger) := by
  have synced : ledger.syncRulesHash syncTaken (input.rulesHash localeCompare) = ledger :=
    if_neg (not_not.mpr standing.hash)
  rw [PassInput.opened, synced]
  cases pruneTaken with
  | false => exact standing
  | true =>
    refine ⟨standing.inList, standing.falls, standing.hash, ?_⟩
    rw [← standing.found]
    have listed : message.id ∈ input.messages.filterMap fun message => message.map InboxMessage.id :=
      List.mem_filterMap.mpr ⟨some message, standing.inList, rfl⟩
    show List.find? _ (List.filter _ _) = _
    rw [List.find?_filter, Rows.find]
    congr 1
    funext entry
    by_cases same : entry.messageId = message.id
    · simp only [same, decide_eq_true listed, true_and, Bool.decide_eq_true]
    · simp [same]

theorem Standing.onFulfilled {syncTaken taken : Bool} (distinct : input.DistinctIds)
    (fits : Fits lib localeCompare input scope)
    (seen : ∀ message ∈ scope.msg, some message ∈ input.messages)
    (standing : Standing lib localeCompare input message hit fp state.ledger) :
    Standing lib localeCompare input message hit fp
      (input.onFulfilled localeCompare syncTaken taken scope state).ledger := by
  unfold PassInput.onFulfilled
  split
  next msg rule own has =>
    dsimp only [LedgerStore.record]
    split
    next => exact standing
    next =>
      have synced : state.ledger.syncRulesHash syncTaken (input.rulesHash localeCompare) =
          state.ledger := if_neg (not_not.mpr standing.hash)
      rw [synced, ensured_eq standing.hash]
      cases taken with
      | false => exact standing
      | true =>
        refine ⟨standing.inList, standing.falls, standing.hash, ?_⟩
        show Rows.find _ _ (Rows.upsert _ _ _) = _
        by_cases same : message.id = (LedgerStore.entryFor msg.id rule.id scope.fp
            (input.rulesHash localeCompare)).messageId
        · have one : message = msg := distinct _ _ standing.inList (seen msg own) same
          obtain ⟨rule', fp'⟩ := fits msg own hit fp (one ▸ standing.falls)
          rw [has] at rule'
          cases rule'
          rw [same, Rows.find_upsert_self, fp']
          rfl
        · rw [Rows.find_upsert_of_ne same]
          exact standing.found
  next => exact standing

structure Spared (lib : Library) (localeCompare : JsString → JsString → Int) (input : PassInput)
    (message : InboxMessage) (hit : FilterRule) (fp : JsString) (state : Pass) : Prop
    extends Sound lib localeCompare input state,
      Standing lib localeCompare input message hit fp state.ledger where
  spared : ∀ call ∈ state.calls, call.message.id ≠ message.id

theorem Spared.initial {syncTaken pruneTaken : Bool} {store : LedgerStore}
    (standing : Standing lib localeCompare input message hit fp
      (input.opened localeCompare syncTaken pruneTaken store)) :
    Spared lib localeCompare input message hit fp
      (input.initial localeCompare syncTaken pruneTaken store) :=
  ⟨Sound.initial, standing, fun _ member => absurd member List.not_mem_nil⟩

theorem Spared.pump (distinct : input.DistinctIds)
    (spared : Spared lib localeCompare input message hit fp state) :
    Spared lib localeCompare input message hit fp (input.pump lib localeCompare state) := by
  obtain ⟨_, _, calls, -, -, called, ledger, -, -, -, begun⟩ := @pump_spec lib localeCompare input state
  refine ⟨spared.toSound.pump, ledger ▸ spared.toStanding, ?_⟩
  intro call member same
  rw [called, List.mem_append] at member
  rcases member with old | new
  · exact spared.spared call old same
  · have begins := begun call new
    have one : call.message = message :=
      distinct _ _ (spared.queue _ begins.queued) spared.inList same
    have falls := begins.due
    rw [one, spared.falls] at falls
    obtain ⟨rule, fingerprint⟩ := Prod.mk.inj (Option.some.inj falls)
    have fresh := begins.fresh
    rw [one, ← rule, ← fingerprint, spared.alreadyApplied] at fresh
    cases fresh

theorem Spared.set {index : Nat} (spared : Spared lib localeCompare input message hit fp state)
    (found : state.calls[index]? = some call) (phase : Phase) :
    Spared lib localeCompare input message hit fp
      { state with calls := state.calls.set index { call with phase } } := by
  refine ⟨spared.toSound.set found phase, spared.toStanding, ?_⟩
  intro other member
  rcases List.mem_or_eq_of_mem_set member with old | rfl
  · exact spared.spared other old
  · exact spared.spared call (List.mem_of_getElem? found)

theorem Spared.step (distinct : input.DistinctIds)
    (spared : Spared lib localeCompare input message hit fp state)
    (taken : input.step lib localeCompare state event = some next) :
    Spared lib localeCompare input message hit fp next := by
  obtain ⟨index, call, phase, -, -, found, rfl⟩ |
    ⟨index, call, syncTaken, stored, -, at_, -, found, rfl⟩ |
    ⟨index, call, applied, middle, -, ⟨found, rfl⟩, rfl⟩ := step_cases taken
  · exact spared.set found phase
  · have inside := spared.within call (List.mem_of_getElem? at_)
    rw [List.getElem?_eq_getElem inside, Option.getD_some] at found ⊢
    obtain ⟨fits, seen⟩ := spared.scopes _ (List.getElem_mem inside)
    refine Spared.set ⟨spared.toSound.onFulfilled, spared.toStanding.onFulfilled distinct fits seen, ?_⟩
      found _
    rw [onFulfilled_calls]
    exact spared.spared
  · have lowered : Spared lib localeCompare input message hit fp
        { state with inFlight := state.inFlight - 1 } :=
      ⟨⟨spared.queue, spared.scopes, spared.listed, spared.due, spared.within, spared.applies⟩,
        spared.toStanding, spared.spared⟩
    exact (lowered.set found _).pump distinct

/-- A later pass starts a message of the ledger. -/
def StartedAgain (entries : List LedgerEntry) (later : Pass) : Prop :=
  ∃ call ∈ later.calls, ∃ entry ∈ entries, call.message.id = entry.messageId

/-- While every callback that runs finds its invocation of `pump` at its own message, a
pass records the messages whose actions were applied and no other, and no later pass
over the same messages and rules starts their actions again. -/
theorem runInboxFilterPass_records (lib : Library) (localeCompare : JsString → JsString → Int)
    (input : PassInput) (syncTaken pruneTaken : Bool) (store : LedgerStore) (state : Pass)
    (distinct : input.DistinctIds)
    (runs : (input.machine lib localeCompare).Runs input.Kept
      (input.start lib localeCompare syncTaken pruneTaken store) state) :
    RecordsExactly localeCompare input (input.opened localeCompare syncTaken pruneTaken store) state ∧
      ∀ syncTaken pruneTaken later,
        (input.machine lib localeCompare).Runs (fun _ _ => True)
          (input.start lib localeCompare syncTaken pruneTaken state.ledger) later →
        ¬StartedAgain (input.appliedEntries localeCompare state.calls) later := by
  have tally : Tally lib localeCompare input (input.opened localeCompare syncTaken pruneTaken store)
      state :=
    runs.invariant _ Tally.initial.pump fun tally kept taken => tally.step distinct kept taken
  refine ⟨tally.toRecordsExactly, ?_⟩
  rintro syncAgain pruneAgain later again ⟨call, member, entry, recorded, same⟩
  obtain ⟨first, firstMember, applied, rfl⟩ := mem_appliedEntries.mp recorded
  have standing : Standing lib localeCompare input first.message first.rule first.fingerprint
      state.ledger :=
    ⟨tally.listed first firstMember, tally.due first firstMember, tally.hashed _ recorded,
      tally.recorded _ recorded⟩
  have spared : Spared lib localeCompare input first.message first.rule first.fingerprint later :=
    again.invariant _ ((Spared.initial standing.opened).pump distinct)
      fun spared _ taken => spared.step distinct taken
  exact spared.spared call member same

end PassInput

def markReadRule : FilterRule where
  id := lit "r"
  enabled := some true
  priority := 100
  createdAt := lit "2026"
  conditions := [some ⟨lit "subject", lit "contains", some (lit "x")⟩]
  actions := [⟨lit "mark_read", none⟩]
  conditionsJson := lit "[]"
  actionsJson := lit "[]"

def markReadPass (ids : List String) : PassInput where
  messages := ids.map fun id => some ⟨lit id, lit "x", lit "a@b", [], false, 0⟩
  rawRules := [markReadRule]
  bodyByMessageId _ := none
  manifest := true

def markReadStart (ids : List String) : Pass :=
  (markReadPass ids).start .plain (fun _ _ => 0) true true ⟨[], []⟩

def markReadAfter (ids : List String) (events : List PassEvent) : Pass :=
  ((markReadPass ids).machine .plain fun _ _ => 0).after events (markReadStart ids)

/-- With one message there is nothing to look at after it. -/
theorem runInboxFilterPass_records_one :
    let final := markReadAfter ["1"] [.answered 0, .fulfilled 0 true true, .finished 0]
    final.resolved = true ∧
      PassInput.RecordsExactly (fun _ _ => 0) (markReadPass ["1"])
        ((markReadPass ["1"]).opened (fun _ _ => 0) true true ⟨[], []⟩) final ∧
      ∀ syncTaken pruneTaken later,
        ((markReadPass ["1"]).machine .plain fun _ _ => 0).Runs (fun _ _ => True)
          ((markReadPass ["1"]).start .plain (fun _ _ => 0) syncTaken pruneTaken final.ledger) later →
        ¬PassInput.StartedAgain ((markReadPass ["1"]).appliedEntries (fun _ _ => 0) final.calls)
          later := by
  refine ⟨by decide +kernel, PassInput.runInboxFilterPass_records _ _ _ true true ⟨[], []⟩ _ ?_
    (Machine.after_runs _ (by decide +kernel))⟩
  intro left right leftMember rightMember _
  have only : ∀ message, some message ∈ (markReadPass ["1"]).messages →
      message = ⟨lit "1", lit "x", lit "a@b", [], false, 0⟩ := by
    intro message member
    simpa [markReadPass] using member
  rw [only left leftMember, only right rightMember]

/-- The actions of the first of two messages are applied and those of the second fail. The
second is recorded and the first is not, so another pass starts the first again. -/
theorem second_message_recorded_for_first :
    let input := markReadPass ["1", "2"]
    ∃ state, (input.machine .plain fun _ _ => 0).Runs (fun _ _ => True)
        (markReadStart ["1", "2"]) state ∧
      state.resolved = true ∧
      ¬input.RecordsExactly (fun _ _ => 0) (input.opened (fun _ _ => 0) true true ⟨[], []⟩) state ∧
      state.ledger.entries.map LedgerEntry.messageId = [lit "2"] ∧
      (state.calls.filter fun call => call.Applied).map (fun call => call.message.id) = [lit "1"] ∧
      PassInput.StartedAgain (input.appliedEntries (fun _ _ => 0) state.calls)
        (input.start .plain (fun _ _ => 0) true true state.ledger) := by
  refine ⟨markReadAfter ["1", "2"]
      [.answered 0, .fulfilled 0 true true, .failed 1, .finished 0, .finished 1],
    Machine.after_runs _ (Machine.permits_of_forall (fun _ _ => trivial) _ _), by decide +kernel, ?_,
    by decide +kernel, by decide +kernel, ?_⟩
  · intro exactly
    have recorded := exactly.recorded (LedgerStore.entryFor (lit "1") (lit "r")
      (actionFingerprint markReadRule.actions) ((markReadPass ["1", "2"]).rulesHash fun _ _ => 0))
      (by decide +kernel)
    exact absurd recorded (by decide +kernel)
  · exact ⟨_, List.getElem_mem (by decide +kernel : 0 < _), _,
      List.getElem_mem (by decide +kernel : 0 < _), by decide +kernel⟩

end ElvishMail.Mailapp
