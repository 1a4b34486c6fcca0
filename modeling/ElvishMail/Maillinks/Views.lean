import Mathlib.Data.Finset.Card
import ElvishMail.Maillinks.Links

/-!
# Views are counted

Any number of calls take turns on the table, one statement at a time. The number
of views that were served never exceeds the counter of the row, and the counter
never exceeds the limit; a row is burned exactly when the two meet. A purge only
takes what a view at the same instant would not serve.
-/

namespace ElvishMail.Maillinks

open Go Smtp Mailmeta Semantics

variable {Index : Type} [DecidableEq Index]

abbrev Calls (Index : Type) : Type := Race Index Statement Statement.Answer Result (List Row)

def launched (calls : Index → Call) (table : List Row) : Calls Index :=
  ⟨fun index => (calls index).program, table⟩

/-- A call of `ConsumeView` has returned the row with this token. -/
def Served (token : GoString) (thread : Statements Result) : Prop :=
  ∃ result, thread = .done (.consumed (.ok result)) ∧ result.row.token = token

structure Kept (link : Row) (system : Calls Index) : Prop where
  /-- At most so many calls are served. -/
  limited : 0 < link.maxViews → ∀ indices : Finset Index,
    (∀ index ∈ indices, Served link.token (system.thread index)) → indices.card ≤ link.maxViews
  /-- The counter stays within the limit. -/
  bounded : ∀ row ∈ system.state, row.token = link.token → 0 < link.maxViews →
    row.views ≤ link.maxViews
  /-- The row is burned exactly when the counter has reached the limit. -/
  burned : ∀ row ∈ system.state, row.token = link.token →
    (row.burnedAt.isSome ↔ 0 < link.maxViews ∧ row.views = link.maxViews)
  /-- No call is served at the expiry or later. -/
  timely : ∀ index env next, (race Statement.answer).step system (index, env) = some next →
    Served link.token (next.thread index) → env.now < link.expiresAt
  /-- A purge deletes no row that could be viewed at the same time. -/
  purged : ∀ env limit, ∀ row ∈ system.state,
    row ∉ Statement.effect env system.state (.deleteExpired limit) → row.serves env.now = false

structure Sound (link row : Row) : Prop where
  limit : row.maxViews = link.maxViews
  expiry : row.expiresAt = link.expiresAt
  bounded : 0 < link.maxViews → row.views ≤ link.maxViews
  burned : row.burnedAt.isSome ↔ 0 < link.maxViews ∧ row.views = link.maxViews

section Rows

variable {link row : Row} {now : Time}

@[simp] theorem Row.viewed_token : (row.viewed now).token = row.token := rfl

theorem Row.serves_iff : row.serves now = true ↔
    row.burnedAt = none ∧ now < row.expiresAt ∧ (row.maxViews = 0 ∨ row.views < row.maxViews) := by
  simp [Row.serves, and_assoc]

theorem Sound.viewed (sound : Sound link row) (serves : row.serves now = true) :
    Sound link (row.viewed now) := by
  obtain ⟨unburned, -, room⟩ := Row.serves_iff.mp serves
  have limit := sound.limit
  refine ⟨limit, sound.expiry, ?_, ?_⟩
  · intro limited
    have : row.views + 1 ≤ link.maxViews := by omega
    exact this
  · unfold Row.viewed
    dsimp only
    split
    next reached =>
      simp only [Option.isSome_some, true_iff]
      omega
    next left =>
      rw [unburned]
      simp only [Option.isSome_none, Bool.false_eq_true, false_iff]
      omega

theorem Row.expired_not_serves (gone : row.expired now = true) : row.serves now = false := by
  rw [Bool.eq_false_iff]
  intro serves
  obtain ⟨-, early, room⟩ := Row.serves_iff.mp serves
  simp only [Row.expired, Bool.or_eq_true, Bool.and_eq_true, decide_eq_true_eq] at gone
  rcases gone with late | ⟨limited, full⟩
  · exact lt_asymm late early
  · omega

end Rows

def Returns (query : Statement) (reply : query.Answer) (row : Row) : Prop :=
  match query, reply with
  | .updateViews _, reply => reply = .ok (some row)
  | _, _ => False

/-- A call is served with nothing but the row of a view that was counted. -/
def Honest : Statements Result → Prop
  | .done _ => True
  | .ask query next => ∀ reply, Honest (next reply) ∧
      ∀ token, Served token (next reply) → ∃ row, Returns query reply row ∧ row.token = token

section Threads

variable {token : GoString}

theorem not_served_ask {query : Statement} {next : query.Answer → Statements Result} :
    ¬Served token (.ask query next) := by
  rintro ⟨result, same, -⟩
  cases same

theorem not_served_refused {err : GoError} : ¬Served token (.done (.consumed (.error err))) := by
  rintro ⟨result, same, -⟩
  cases same

theorem consumed_row (row : Row) : (consumed row).row = row := by
  unfold consumed
  split <;> rfl

theorem honest_done (result : Result) : Honest (.done result) := trivial

/-- What follows a look for a row: whatever it finds, the call ends with it. -/
def afterLook (finish : Except GoError Row → Result) : Except GoError (Option Row) → Statements Result
  | .error err => .done (finish (.error err))
  | .ok none => .done (finish (.error errNotFound))
  | .ok (some row) => .done (finish (.ok row))

theorem get_eq {finish : Except GoError Row → Result} :
    (get token >>= fun found => .done (finish found)) =
      if !validateToken (trimSpace token) then .done (finish (.error errNotFound))
      else .ask (.select (trimSpace token)) (afterLook finish) := by
  rw [get]
  split
  · rfl
  · rw [Program.ask_bind]
    congr 1
    funext reply
    match reply with
    | .error err => rfl
    | .ok none => rfl
    | .ok (some row) => rfl

theorem afterLook_done (finish : Except GoError Row → Result) (reply : Except GoError (Option Row)) :
    ∃ found, afterLook finish reply = .done (finish found) := by
  match reply with
  | .error err => exact ⟨.error err, rfl⟩
  | .ok none => exact ⟨.error errNotFound, rfl⟩
  | .ok (some row) => exact ⟨.ok row, rfl⟩

theorem get_honest (token : GoString) (finish : Except GoError Row → Result)
    (other : ∀ found token, ¬Served token (.done (finish found))) :
    Honest (get token >>= fun found => .done (finish found)) ∧
      ∀ token', ¬Served token' (get token >>= fun found => .done (finish found)) := by
  rw [get_eq]
  split
  · exact ⟨honest_done _, other _⟩
  · refine ⟨?_, fun _ => not_served_ask⟩
    intro reply
    obtain ⟨found, same⟩ := afterLook_done finish reply
    rw [same]
    exact ⟨honest_done _, fun token served => absurd served (other _ token)⟩

def afterView (token : GoString) : Except GoError (Option Row) → Statements Result
  | .error err => .done (.consumed (.error err))
  | .ok none => get token >>= fun found => .done (.consumed (.error (refusal found)))
  | .ok (some row) => .done (.consumed (.ok (consumed row)))

theorem consumeView_eq : (consumeView token >>= fun result => .done (.consumed result)) =
    if !validateToken (trimSpace token) then .done (.consumed (.error errNotFound))
    else .ask (.updateViews (trimSpace token)) (afterView (trimSpace token)) := by
  rw [consumeView]
  split
  · rfl
  · rw [Program.ask_bind]
    congr 1
    funext reply
    match reply with
    | .error err => rfl
    | .ok none =>
      dsimp only
      rw [Program.bind_assoc]
      rfl
    | .ok (some row) => rfl

theorem afterView_honest (reply : Except GoError (Option Row)) :
    Honest (afterView token reply) ∧
      ∀ token', Served token' (afterView token reply) →
        ∃ row, reply = .ok (some row) ∧ row.token = token' := by
  match reply with
  | .error err =>
    rw [afterView]
    exact ⟨honest_done _, fun token served => absurd served not_served_refused⟩
  | .ok none =>
    rw [afterView]
    have looking := get_honest token (fun found => .consumed (.error (refusal found)))
      (fun found token => not_served_refused)
    exact ⟨looking.1, fun token served => absurd served (looking.2 token)⟩
  | .ok (some row) =>
    rw [afterView]
    refine ⟨honest_done _, ?_⟩
    rintro token' ⟨result, same, named⟩
    injection same with same
    injection same with same
    injection same with same
    refine ⟨row, rfl, ?_⟩
    rw [← named, ← same, consumed_row]

theorem consumeView_honest :
    Honest (consumeView token >>= fun result => .done (.consumed result)) ∧
      ∀ token', ¬Served token' (consumeView token >>= fun result => .done (.consumed result)) := by
  rw [consumeView_eq]
  split
  · exact ⟨honest_done _, fun _ => not_served_refused⟩
  · exact ⟨afterView_honest, fun _ => not_served_ask⟩

theorem ends_honest (query : Statement) (finish : query.Answer → Result)
    (other : ∀ reply token, ¬Served token (.done (finish reply))) :
    Honest (.ask query fun reply => .done (finish reply)) :=
  fun reply => ⟨honest_done _, fun token served => absurd served (other reply token)⟩

theorem call_honest (call : Call) :
    Honest call.program ∧ ∀ token, ¬Served token call.program := by
  cases call with
  | consumeView token => exact consumeView_honest
  | get token =>
    apply get_honest
    rintro found token ⟨result, same, -⟩
    cases same
  | delete token =>
    refine ⟨ends_honest (.delete token) .deleted ?_, fun _ => not_served_ask⟩
    rintro reply token ⟨result, same, -⟩
    cases same
  | purgeExpired limit =>
    refine ⟨ends_honest (.deleteExpired _) .purged ?_, fun _ => not_served_ask⟩
    rintro reply token ⟨result, same, -⟩
    cases same

end Threads

namespace Statement

variable {env : Env} {table : List Row} {query : Statement}

theorem answer_table (env : Env) (query : Statement) (table : List Row) :
    (answer env query table).2 = table ∨ (answer env query table).2 = effect env table query := by
  cases query with
  | select token =>
    left
    unfold answer
    split <;> rfl
  | updateViews token =>
    unfold answer Outcome.exec
    cases env.outcome with
    | done => exact .inr rfl
    | refused err => exact .inl rfl
    | lost err => exact .inr rfl
  | delete token =>
    unfold answer Outcome.exec
    cases env.outcome with
    | done => exact .inr rfl
    | refused err => exact .inl rfl
    | lost err => exact .inr rfl
  | deleteExpired limit =>
    unfold answer Outcome.exec
    cases env.outcome with
    | done => exact .inr rfl
    | refused err => exact .inl rfl
    | lost err => exact .inr rfl

theorem effect_rows {row : Row} (left : row ∈ effect env table query) :
    row ∈ table ∨ ∃ former ∈ table, former.serves env.now = true ∧ row = former.viewed env.now := by
  cases query with
  | select token => exact .inl left
  | delete token => exact .inl (List.mem_filter.mp left).1
  | deleteExpired limit => exact .inl (List.mem_filter.mp left).1
  | updateViews token =>
    obtain ⟨former, there, same⟩ := List.mem_map.mp left
    split at same
    next updated =>
      rw [updates, Bool.and_eq_true] at updated
      exact .inr ⟨former, there, updated.2, same.symm⟩
    next => exact .inl (same ▸ there)

theorem answer_rows {row : Row} (left : row ∈ (answer env query table).2) :
    row ∈ table ∨ ∃ former ∈ table, former.serves env.now = true ∧ row = former.viewed env.now := by
  rcases answer_table env query table with same | same
  · rw [same] at left
    exact .inl left
  · rw [same] at left
    exact effect_rows left

theorem effect_tokens :
    ((effect env table query).map Row.token).Sublist (table.map Row.token) := by
  cases query with
  | select token => exact .refl _
  | delete token => exact List.filter_sublist.map _
  | deleteExpired limit => exact List.filter_sublist.map _
  | updateViews token =>
    have same : (effect env table (updateViews token)).map Row.token = table.map Row.token := by
      simp only [effect, List.map_map]
      apply List.map_congr_left
      intro row _
      simp only [Function.comp_apply]
      split <;> rfl
    rw [same]

theorem answer_distinct (distinct : (table.map Row.token).Nodup) :
    ((answer env query table).2.map Row.token).Nodup := by
  rcases answer_table env query table with same | same
  · rw [same]
    exact distinct
  · rw [same]
    exact distinct.sublist effect_tokens

theorem eq_of_token (distinct : (table.map Row.token).Nodup) {row other : Row} (there : row ∈ table)
    (otherThere : other ∈ table) (named : row.token = other.token) : row = other :=
  List.inj_on_of_nodup_map distinct there otherThere named

theorem answer_returns (distinct : (table.map Row.token).Nodup) {row : Row}
    (returned : Returns query (answer env query table).1 row) :
    ∃ former ∈ table, former.serves env.now = true ∧ row = former.viewed env.now ∧
      ∀ other ∈ (answer env query table).2, other.token = row.token → other = row := by
  cases query with
  | select token => cases returned
  | delete token => cases returned
  | deleteExpired limit => cases returned
  | updateViews token =>
    have reply : (answer env (updateViews token) table).1 = .ok (some row) := returned
    rw [answer] at reply ⊢
    cases failed : env.outcome.error? with
    | some err =>
      simp only [Outcome.exec, failed] at reply
      cases reply
    | none =>
      have applied := Outcome.applied_of_error?_none failed
      simp only [Outcome.exec, failed, applied] at reply ⊢
      obtain ⟨former, found, same⟩ := Option.map_eq_some_iff.mp (Except.ok.inj reply)
      have there : former ∈ table := List.mem_of_find?_eq_some found
      have updated : updates env.now token former = true := List.find?_some found
      have serves : former.serves env.now = true := by
        rw [updates, Bool.and_eq_true] at updated
        exact updated.2
      refine ⟨former, there, serves, same.symm, ?_⟩
      intro other left named
      obtain ⟨source, sourceThere, turned⟩ := List.mem_map.mp left
      have kept : other.token = source.token := by
        rw [← turned]
        split <;> rfl
      have alike : source = former := by
        apply eq_of_token distinct sourceThere there
        rw [← kept, named, ← same, Row.viewed_token]
      rw [← turned, alike, ← same]
      exact if_pos updated

end Statement

/-- The calls that were served are covered by the counter of the row as long as it is
there, and by the limit all the time. -/
structure Counted (link : Row) (system : Calls Index) : Prop where
  honest : ∀ index, Honest (system.thread index)
  distinct : (system.state.map Row.token).Nodup
  sound : ∀ row ∈ system.state, row.token = link.token → Sound link row
  counted : ∀ indices : Finset Index,
    (∀ index ∈ indices, Served link.token (system.thread index)) →
      ∀ row ∈ system.state, row.token = link.token → indices.card ≤ row.views
  limited : 0 < link.maxViews → ∀ indices : Finset Index,
    (∀ index ∈ indices, Served link.token (system.thread index)) → indices.card ≤ link.maxViews

section Counting

variable {link : Row} {system next : Calls Index} {index : Index} {env : Env}

theorem Counted.served (counted : Counted link system)
    (taken : (race Statement.answer).step system (index, env) = some next)
    (served : Served link.token (next.thread index)) :
    ∃ former ∈ system.state, former.serves env.now = true ∧ former.token = link.token ∧
      ∀ row ∈ next.state, row.token = link.token → row = former.viewed env.now := by
  obtain ⟨query, following, asking, threads, state⟩ := race_step taken
  have honest := counted.honest index
  rw [asking] at honest
  rw [threads, Function.update_self] at served
  obtain ⟨row, returned, named⟩ := (honest _).2 link.token served
  obtain ⟨former, there, serves, same, only⟩ :=
    Statement.answer_returns counted.distinct returned
  have formerNamed : former.token = link.token := by
    rw [← named, same, Row.viewed_token]
  refine ⟨former, there, serves, formerNamed, ?_⟩
  intro other left otherNamed
  rw [state] at left
  rw [only other left (by rw [otherNamed, named]), same]

theorem Counted.former (counted : Counted link system)
    (taken : (race Statement.answer).step system (index, env) = some next) {row : Row}
    (left : row ∈ next.state) (named : row.token = link.token) :
    Sound link row ∧ ∃ former ∈ system.state, former.token = link.token ∧ former.views ≤ row.views := by
  obtain ⟨query, following, asking, threads, state⟩ := race_step taken
  rw [state] at left
  rcases Statement.answer_rows left with there | ⟨former, there, serves, same⟩
  · exact ⟨counted.sound row there named, row, there, named, le_refl _⟩
  · have formerNamed : former.token = link.token := by
      rw [← named, same, Row.viewed_token]
    have viewed := (counted.sound former there formerNamed).viewed serves
    refine ⟨same ▸ viewed, former, there, formerNamed, ?_⟩
    have more : former.views ≤ (former.viewed env.now).views := by
      simp only [Row.viewed]
      omega
    rw [same]
    exact more

theorem served_before (taken : (race Statement.answer).step system (index, env) = some next)
    {other : Index} (apart : other ≠ index) (served : Served link.token (next.thread other)) :
    Served link.token (system.thread other) := by
  obtain ⟨query, following, asking, threads, state⟩ := race_step taken
  rw [threads, Function.update_of_ne apart] at served
  exact served

theorem served_cases (taken : (race Statement.answer).step system (index, env) = some next)
    {indices : Finset Index} (served : ∀ other ∈ indices, Served link.token (next.thread other)) :
    (∀ other ∈ indices, Served link.token (system.thread other)) ∨
      Served link.token (next.thread index) ∧ indices.card = (indices.erase index).card + 1 ∧
        ∀ other ∈ indices.erase index, Served link.token (system.thread other) := by
  by_cases among : index ∈ indices
  · right
    refine ⟨served index among, (Finset.card_erase_add_one among).symm, ?_⟩
    intro other within
    have apart := Finset.mem_erase.mp within
    exact served_before taken apart.1 (served other apart.2)
  · left
    intro other within
    apply served_before taken ?_ (served other within)
    rintro rfl
    exact among within

theorem Counted.step (counted : Counted link system)
    (taken : (race Statement.answer).step system (index, env) = some next) :
    Counted link next := by
  have sound : ∀ row ∈ next.state, row.token = link.token → Sound link row :=
    fun row left named => (counted.former taken left named).1
  refine ⟨?_, ?_, sound, ?_, ?_⟩
  · intro other
    obtain ⟨query, following, asking, threads, state⟩ := race_step taken
    rw [threads]
    by_cases same : other = index
    · subst same
      rw [Function.update_self]
      have honest := counted.honest other
      rw [asking] at honest
      exact (honest _).1
    · rw [Function.update_of_ne same]
      exact counted.honest other
  · obtain ⟨query, following, asking, threads, state⟩ := race_step taken
    rw [state]
    exact Statement.answer_distinct counted.distinct
  · intro indices served row left named
    rcases served_cases taken served with before | ⟨now, more, before⟩
    · obtain ⟨-, former, there, formerNamed, less⟩ := counted.former taken left named
      exact le_trans (counted.counted indices before former there formerNamed) less
    · obtain ⟨former, there, serves, formerNamed, only⟩ := counted.served taken now
      have covered := counted.counted _ before former there formerNamed
      rw [only row left named]
      simp only [Row.viewed]
      omega
  · intro limited indices served
    rcases served_cases taken served with before | ⟨now, more, before⟩
    · exact counted.limited limited indices before
    · obtain ⟨former, there, serves, formerNamed, only⟩ := counted.served taken now
      have covered := counted.counted _ before former there formerNamed
      have viewed := (counted.sound former there formerNamed).viewed serves
      have bounded := viewed.bounded limited
      simp only [Row.viewed] at bounded
      omega

theorem Counted.kept (counted : Counted link system) : Kept link system where
  limited := counted.limited
  bounded := fun row there named => (counted.sound row there named).bounded
  burned := fun row there named => (counted.sound row there named).burned
  timely := by
    intro index env next taken served
    obtain ⟨former, there, serves, named, -⟩ := counted.served taken served
    rw [← (counted.sound former there named).expiry]
    exact (Row.serves_iff.mp serves).2.1
  purged := by
    intro env limit row there gone
    have selected : row.token ∈ Statement.purged env limit system.state := by
      by_contra spared
      exact gone (List.mem_filter.mpr ⟨there, decide_eq_true spared⟩)
    obtain ⟨other, within, named⟩ := List.mem_map.mp selected
    have picked := List.mem_filter.mp (List.mem_of_mem_take within)
    have otherThere : other ∈ system.state := (env.scan_perm _).mem_iff.mp picked.1
    have same : other = row := Statement.eq_of_token counted.distinct otherThere there named
    rw [← same]
    exact Row.expired_not_serves picked.2

theorem create_sound {input : CreateInput} {token : GoString} {clock now : Time}
    (created : create input token clock now = .ok link) : Sound link link ∧ 0 ≤ link.views := by
  unfold create at created
  split at created
  · cases created
  split at created
  · cases created
  split at created
  · cases created
  split at created
  · cases created
  next nonnegative =>
    cases created
    refine ⟨⟨rfl, rfl, ?_, ?_⟩, le_refl _⟩
    · intro limited
      exact le_of_lt limited
    · simp only [Option.isSome_none, Bool.false_eq_true, false_iff]
      omega

end Counting

/-- Whatever calls do to a table with a link in it, the link keeps its promises. -/
theorem link_kept {input : CreateInput} {token : GoString} {clock now : Time} {link : Row}
    {table : List Row} {calls : Index → Call} {system : Calls Index}
    (created : create input token clock now = .ok link) (there : link ∈ table)
    (distinct : (table.map Row.token).Nodup)
    (runs : (race Statement.answer).Runs (fun _ _ => True) (launched calls table) system) :
    Kept link system := by
  obtain ⟨sound, fresh⟩ := create_sound created
  have unserved : ∀ indices : Finset Index,
      (∀ index ∈ indices, Served link.token ((launched calls table).thread index)) →
        indices = ∅ := by
    intro indices served
    apply Finset.eq_empty_of_forall_notMem
    intro index within
    exact (call_honest (calls index)).2 link.token (served index within)
  have initial : Counted link (launched calls table) := by
    refine ⟨fun index => (call_honest (calls index)).1, distinct, ?_, ?_, ?_⟩
    · intro row rowThere named
      rw [Statement.eq_of_token distinct rowThere there named]
      exact sound
    · intro indices served row rowThere named
      rw [unserved indices served, Statement.eq_of_token distinct rowThere there named]
      exact fresh
    · intro limited indices served
      rw [unserved indices served]
      exact le_of_lt limited
  have counted : Counted link system :=
    runs.invariant (Counted link) initial fun counted _ taken => counted.step taken
  exact counted.kept

/-! A link with one view, read twice. -/

def onceToken : GoString := List.replicate 43 0x41

def onceInput : CreateInput where
  userID := 1
  blobRef := ascii "b"
  bodySizeBytes := 1
  recipientSummary := []
  subjectHint := []
  kdf := ascii "k"
  kdfSalt := ascii "s"
  kdfParamsJSON := []
  wrappedMsgKey := ascii "w"
  ttl := 100000
  maxViews := 1

def onceRow : Row where
  token := onceToken
  userID := 1
  blobRef := ascii "b"
  bodySizeBytes := 1
  recipientSummary := []
  subjectHint := []
  kdf := ascii "k"
  kdfSalt := ascii "s"
  kdfParamsJSON := ascii "\x7b\x7d"
  wrappedMsgKey := ascii "w"
  createdAt := 0
  expiresAt := 100
  maxViews := 1
  views := 0
  burnedAt := none

def onceReaders : Calls Bool := launched (fun _ => .consumeView onceToken) [onceRow]

def onceEnv (now : Time) : Env := ⟨.done, now, id, fun _ => .refl _⟩

def onceActions : List (Bool × Env) := [(true, onceEnv 1), (false, onceEnv 2), (false, onceEnv 3)]

theorem link_kept_once :
    (∃ row ∈ ((race Statement.answer).after onceActions onceReaders).state, row.views = 1) ∧
      Kept onceRow ((race Statement.answer).after onceActions onceReaders) := by
  refine ⟨by decide, ?_⟩
  have created : create onceInput onceToken 0 0 = .ok onceRow := by decide
  have distinct : ([onceRow].map Row.token).Nodup := List.nodup_singleton _
  exact link_kept created (List.mem_singleton.mpr rfl) distinct
    (Machine.after_runs onceActions (Machine.permits_of_forall (fun _ _ => trivial) _ _))

end ElvishMail.Maillinks
