import Mathlib.Data.List.Basic

/-!
# Stores behind a network

A write to a remote store is reported as done or as failed, and a failed write
may have taken effect all the same: the connection can break after the store has
executed it. Tables are lists of rows with a key.
-/

namespace Semantics

universe u v

/-- How a write ends: executed and reported so, not executed, or executed and
reported as failed. -/
inductive Outcome (Error : Type u) where
  | done
  | refused (err : Error)
  | lost (err : Error)
deriving DecidableEq

namespace Outcome

variable {Error : Type u} {State : Type v}

instance : Nonempty (Outcome Error) := ⟨.done⟩

def error? : Outcome Error → Option Error
  | .done => none
  | .refused err | .lost err => some err

def fails (outcome : Outcome Error) : Bool := outcome.error?.isSome

def applied : Outcome Error → Bool
  | .done | .lost _ => true
  | .refused _ => false

def exec (outcome : Outcome Error) (write : State → State) (state : State) : Option Error × State :=
  (outcome.error?, if outcome.applied then write state else state)

def read {Value : Type*} (outcome : Outcome Error) (value : Value) : Except Error Value :=
  match outcome.error? with
  | some err => .error err
  | none => .ok value

@[simp] theorem read_done {Value : Type*} (value : Value) :
    (done : Outcome Error).read value = .ok value := rfl

theorem read_cases {Value : Type*} (outcome : Outcome Error) (value : Value) :
    outcome.read value = .ok value ∨ ∃ err, outcome.read value = .error err := by
  cases outcome with
  | done => exact .inl rfl
  | refused err => exact .inr ⟨err, rfl⟩
  | lost err => exact .inr ⟨err, rfl⟩

theorem applied_of_error?_none {outcome : Outcome Error} (reported : outcome.error? = none) :
    outcome.applied = true := by
  cases outcome with
  | done => rfl
  | refused err => cases reported
  | lost err => cases reported

theorem exec_of_error?_none {outcome : Outcome Error} {write : State → State} {state : State}
    (reported : (outcome.exec write state).1 = none) :
    (outcome.exec write state).2 = write state :=
  if_pos (applied_of_error?_none reported)

theorem refused_of_applied_false {outcome : Outcome Error} (kept : outcome.applied = false) :
    ∃ err, outcome = .refused err := by
  cases outcome with
  | done => cases kept
  | refused err => exact ⟨err, rfl⟩
  | lost err => cases kept

theorem exec_holds (Holds : State → Prop) {write : State → State} {state : State}
    (outcome : Outcome Error) (before : Holds state) (effect : Holds (write state)) :
    Holds (outcome.exec write state).2 := by
  unfold exec
  split
  · exact effect
  · exact before

end Outcome

namespace Rows

variable {Row : Type u} {Key : Type v} [DecidableEq Key] (key : Row → Key)

def remove (target : Key) (rows : List Row) : List Row := rows.filter fun row => key row ≠ target

def upsert (row : Row) (rows : List Row) : List Row := remove key (key row) rows ++ [row]

def insertNew (row : Row) (rows : List Row) : List Row :=
  if rows.any fun other => key other = key row then rows else rows ++ [row]

def find (target : Key) (rows : List Row) : Option Row := rows.find? fun row => key row = target

variable {key} {row : Row} {rows : List Row} {target : Key}

theorem mem_of_mem_remove (member : row ∈ remove key target rows) : row ∈ rows :=
  List.mem_of_mem_filter member

theorem mem_upsert {other : Row} (member : other ∈ upsert key row rows) :
    other ∈ rows ∨ other = row := by
  rcases List.mem_append.mp member with kept | added
  · exact .inl (mem_of_mem_remove kept)
  · exact .inr (List.mem_singleton.mp added)

theorem mem_upsert_iff {other : Row} :
    other ∈ upsert key row rows ↔ other = row ∨ other ∈ rows ∧ key other ≠ key row := by
  simp [upsert, remove, or_comm]

theorem mem_foldl_upsert {added : List Row}
    (agree : ∀ first ∈ added, ∀ second ∈ added, key first = key second → first = second) :
    row ∈ added.foldl (fun kept row => upsert key row kept) rows ↔
      row ∈ added ∨ row ∈ rows ∧ ∀ other ∈ added, key other ≠ key row := by
  induction added generalizing rows with
  | nil => simp
  | cons first rest ih =>
    have later := @ih (upsert key first rows) fun one member other =>
      agree one (List.mem_cons_of_mem first member) other ∘ List.mem_cons_of_mem first
    rw [List.foldl_cons, later, mem_upsert_iff]
    constructor
    · rintro (member | ⟨rfl | ⟨old, other⟩, others⟩)
      · exact .inl (List.mem_cons_of_mem first member)
      · exact .inl List.mem_cons_self
      · exact .inr ⟨old, List.forall_mem_cons.mpr ⟨other.symm, others⟩⟩
    · rintro (member | ⟨old, others⟩)
      · rcases List.mem_cons.mp member with rfl | member
        · -- the row is in the table, unless it is written once more
          by_cases again : ∃ other ∈ rest, key other = key row
          · obtain ⟨other, there, same⟩ := again
            left
            rwa [← agree other (List.mem_cons_of_mem row there) row List.mem_cons_self same]
          · exact .inr ⟨.inl rfl, fun other there same => again ⟨other, there, same⟩⟩
        · exact .inl member
      · obtain ⟨other, others⟩ := List.forall_mem_cons.mp others
        exact .inr ⟨.inr ⟨old, other.symm⟩, others⟩

theorem mem_of_find (found : find key target rows = some row) : row ∈ rows ∧ key row = target :=
  ⟨List.mem_of_find?_eq_some found, by simpa using List.find?_some found⟩

theorem remove_of_absent (absent : ∀ row ∈ rows, key row ≠ target) : remove key target rows = rows := by
  rw [remove, List.filter_eq_self]
  intro row member
  simpa using absent row member

theorem upsert_of_absent (absent : ∀ other ∈ rows, key other ≠ key row) :
    upsert key row rows = rows ++ [row] := by
  rw [upsert, remove_of_absent absent]

theorem remove_append_of_absent (absent : ∀ other ∈ rows, key other ≠ key row) :
    remove key (key row) (rows ++ [row]) = rows := by
  have dropped : remove key (key row) [row] = [] := by simp [remove]
  have split : remove key (key row) (rows ++ [row]) =
      remove key (key row) rows ++ remove key (key row) [row] := List.filter_append ..
  rw [split, remove_of_absent absent, dropped, List.append_nil]

@[simp] theorem find_upsert_self : find key (key row) (upsert key row rows) = some row := by
  have gone : (remove key (key row) rows).find? (fun other => key other = key row) = none := by
    simp [remove, List.find?_eq_none]
  simp [find, upsert, List.find?_append, gone]

@[simp] theorem find_remove_self : find key target (remove key target rows) = none := by
  simp [find, remove, List.find?_eq_none]

theorem find_remove_of_ne {other : Key} (different : other ≠ target) :
    find key other (remove key target rows) = find key other rows := by
  rw [find, remove, List.find?_filter, find]
  congr 1
  funext row
  by_cases same : key row = other
  · simp [same, different]
  · simp [same]

theorem find_upsert_of_ne (different : target ≠ key row) :
    find key target (upsert key row rows) = find key target rows := by
  have skipped : find key target [row] = none := by
    simp [find, different.symm]
  have split : find key target (upsert key row rows) =
      (find key target (remove key (key row) rows)).or (find key target [row]) :=
    List.find?_append ..
  rw [split, skipped, Option.or_none, find_remove_of_ne different]

theorem find_insertNew {added : Row} (found : find key target rows = some row) :
    find key target (insertNew key added rows) = some row := by
  unfold insertNew
  split
  · exact found
  · have split : find key target (rows ++ [added]) =
        (find key target rows).or (find key target [added]) := List.find?_append
    rw [split, found, Option.some_or]

/-- Every row is the one that is found under its key, as it is for a primary key. -/
def Keyed (key : Row → Key) (rows : List Row) : Prop :=
  ∀ row ∈ rows, find key (key row) rows = some row

theorem Keyed.remove (keyed : Keyed key rows) : Keyed key (remove key target rows) := by
  intro row member
  have kept : row ∈ rows ∧ key row ≠ target := by
    simpa [Rows.remove] using member
  rw [find_remove_of_ne kept.2]
  exact keyed row kept.1

theorem Keyed.upsert (keyed : Keyed key rows) : Keyed key (upsert key row rows) := by
  intro other member
  rcases List.mem_append.mp member with kept | added
  · have old : other ∈ rows ∧ key other ≠ key row := by
      simpa [Rows.remove] using kept
    rw [find_upsert_of_ne old.2]
    exact keyed other old.1
  · rw [List.mem_singleton.mp added]
    exact find_upsert_self

section Top

variable (before : Row → Row → Bool)

/-- `ORDER BY … LIMIT 1`: the first of the rows that no other precedes. -/
def top : List Row → Option Row
  | [] => none
  | row :: rest =>
    match top rest with
    | none => some row
    | some other => if before other row then some other else some row

variable {before}

theorem mem_of_top (taken : top before rows = some row) : row ∈ rows := by
  induction rows generalizing row with
  | nil => cases taken
  | cons first rest ih =>
    rw [top] at taken
    split at taken
    · cases taken
      exact List.mem_cons_self
    · split at taken
      · cases taken
        exact List.mem_cons_of_mem first (ih ‹_›)
      · cases taken
        exact List.mem_cons_self

theorem top_eq_none : top before rows = none ↔ rows = [] := by
  cases rows with
  | nil => exact ⟨fun _ => rfl, fun _ => rfl⟩
  | cons first rest =>
    refine ⟨fun absent => ?_, nofun⟩
    rw [top] at absent
    split at absent
    · cases absent
    · split at absent <;> cases absent

theorem exists_top (member : row ∈ rows) : ∃ taken, top before rows = some taken ∧ taken ∈ rows := by
  cases result : top before rows with
  | none =>
    rw [top_eq_none.mp result] at member
    cases member
  | some taken => exact ⟨taken, rfl, mem_of_top result⟩

end Top

theorem filter_remove (shown : Row → Bool) :
    (remove key target rows).filter shown = remove key target (rows.filter shown) := by
  simp only [remove, List.filter_filter]
  congr 1
  funext row
  exact Bool.and_comm ..

theorem filter_upsert_of_shown {shown : Row → Bool} (visible : shown row = true) :
    (upsert key row rows).filter shown = upsert key row (rows.filter shown) := by
  rw [upsert, List.filter_append, filter_remove, upsert]
  simp [visible]

theorem filter_upsert_of_hidden {shown : Row → Bool} (hidden : shown row = false)
    (alike : ∀ other, key other = key row → shown other = false) :
    (upsert key row rows).filter shown = rows.filter shown := by
  have kept : remove key (key row) (rows.filter shown) = rows.filter shown := by
    apply remove_of_absent
    intro other member same
    rw [List.mem_filter, alike other same] at member
    cases member.2
  rw [upsert, List.filter_append, filter_remove, kept]
  simp [hidden]

section Folds

variable {State Item : Type*} (step : State → Item → State)

theorem foldl_filter (table : State → List Row) (keep : Item → Row → Bool)
    (each : ∀ state item, table (step state item) = (table state).filter (keep item))
    (items : List Item) (state : State) :
    table (items.foldl step state) =
      (table state).filter fun row => items.all fun item => keep item row := by
  induction items generalizing state with
  | nil => simp
  | cons item rest ih =>
    rw [List.foldl_cons, ih, each, List.filter_filter]
    congr 1
    funext row
    rw [List.all_cons, Bool.and_comm]

theorem foldl_same {Value : Type*} (value : State → Value)
    (each : ∀ state item, value (step state item) = value state) (items : List Item) (state : State) :
    value (items.foldl step state) = value state := by
  induction items generalizing state with
  | nil => rfl
  | cons item rest ih => exact (ih _).trans (each state item)

end Folds

end Rows

end Semantics
