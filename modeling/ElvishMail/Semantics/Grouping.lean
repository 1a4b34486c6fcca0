import Mathlib.Data.List.Nodup
import Mathlib.Data.List.Perm.Basic
import Mathlib.Data.List.Induction

/-!
# Grouping and iteration orders

A hash map built by appending each item to the group of its key, the orders in
which such a map may be iterated, and a loop over its entries that gives up at
the first failure.

`mem_groupOn` says what the groups are without mentioning how they were built.
An `Iteration` is a choice of order for every collection, so that a program
parameterised by one has a definite behaviour and a statement quantified over
all of them speaks about every order the runtime may pick.
-/

namespace Semantics

universe u v w

section Groups

variable {Key : Type u} {Item : Type v} [DecidableEq Key]

def appendTo (key : Key) (item : Item) : List (Key × List Item) → List (Key × List Item)
  | [] => [(key, [item])]
  | (other, items) :: rest =>
    if other = key then (other, items ++ [item]) :: rest
    else (other, items) :: appendTo key item rest

def groupOn (keyOf : Item → Option Key) (items : List Item) : List (Key × List Item) :=
  items.foldl (fun groups item =>
    match keyOf item with
    | none => groups
    | some key => appendTo key item groups) []

theorem lookup_appendTo (key : Key) (item : Item) (groups : List (Key × List Item)) (wanted : Key) :
    (appendTo key item groups).lookup wanted =
      if wanted = key then some ((groups.lookup key).getD [] ++ [item])
      else groups.lookup wanted := by
  induction groups with
  | nil =>
    by_cases same : wanted = key
    · simp [appendTo, same]
    · have different : (wanted == key) = false := by simpa using same
      simp [appendTo, List.lookup_cons, same, different]
  | cons entry rest ih =>
    obtain ⟨other, items⟩ := entry
    by_cases here : other = key
    · subst here
      by_cases same : wanted = other
      · simp [appendTo, same]
      · have different : (wanted == other) = false := by simpa using same
        simp [appendTo, List.lookup_cons, same, different]
    · by_cases same : wanted = other
      · subst same
        simp [appendTo, here]
      · have different : (wanted == other) = false := by simpa using same
        have apart : (key == other) = false := by simpa using Ne.symm here
        simp [appendTo, here, List.lookup_cons, different, ih, apart]

theorem mem_keys_appendTo (key : Key) (item : Item) (groups : List (Key × List Item)) (wanted : Key) :
    wanted ∈ (appendTo key item groups).map Prod.fst ↔
      wanted = key ∨ wanted ∈ groups.map Prod.fst := by
  induction groups with
  | nil => simp [appendTo]
  | cons entry rest ih =>
    obtain ⟨other, items⟩ := entry
    by_cases here : other = key
    · subst here
      simp [appendTo]
    · simp only [appendTo, here, if_false, List.map_cons, List.mem_cons, ih]
      tauto

theorem nodup_keys_appendTo (key : Key) (item : Item) {groups : List (Key × List Item)}
    (distinct : (groups.map Prod.fst).Nodup) :
    ((appendTo key item groups).map Prod.fst).Nodup := by
  induction groups with
  | nil => simp [appendTo]
  | cons entry rest ih =>
    obtain ⟨other, items⟩ := entry
    rw [List.map_cons, List.nodup_cons] at distinct
    by_cases here : other = key
    · rw [appendTo, if_pos here, List.map_cons, List.nodup_cons]
      exact distinct
    · rw [appendTo, if_neg here, List.map_cons, List.nodup_cons]
      refine ⟨?_, ih distinct.2⟩
      rw [mem_keys_appendTo]
      rintro (same | earlier)
      · exact here same
      · exact distinct.1 earlier

theorem mem_iff_lookup {groups : List (Key × List Item)} (distinct : (groups.map Prod.fst).Nodup)
    {key : Key} {items : List Item} :
    (key, items) ∈ groups ↔ groups.lookup key = some items := by
  induction groups with
  | nil => simp
  | cons entry rest ih =>
    obtain ⟨other, others⟩ := entry
    rw [List.map_cons, List.nodup_cons] at distinct
    by_cases same : key = other
    · subst same
      have absent : (key, items) ∉ rest := by
        intro member
        exact distinct.1 (List.mem_map.mpr ⟨_, member, rfl⟩)
      simp only [List.mem_cons, Prod.mk.injEq, true_and, absent, or_false, List.lookup_cons_self,
        Option.some.injEq]
      exact eq_comm
    · have different : (key == other) = false := by simpa using same
      simp [List.lookup_cons, same, different, ih distinct.2]

variable (keyOf : Item → Option Key) (items : List Item)

theorem groupOn_snoc (item : Item) :
    groupOn keyOf (items ++ [item]) =
      match keyOf item with
      | none => groupOn keyOf items
      | some key => appendTo key item (groupOn keyOf items) := by
  simp [groupOn]

theorem nodup_keys_groupOn : ((groupOn keyOf items).map Prod.fst).Nodup := by
  induction items using List.reverseRecOn with
  | nil => simp [groupOn]
  | append_singleton items item ih =>
    rw [groupOn_snoc]
    cases keyOf item with
    | none => exact ih
    | some key => exact nodup_keys_appendTo key item ih

theorem lookup_groupOn (key : Key) :
    ((groupOn keyOf items).lookup key).getD [] = items.filter (keyOf · = some key) ∧
      (groupOn keyOf items).lookup key ≠ some [] := by
  induction items using List.reverseRecOn with
  | nil => simp [groupOn]
  | append_singleton items item ih =>
    obtain ⟨collected, nonempty⟩ := ih
    rw [groupOn_snoc, List.filter_append, ← collected]
    cases itemKey : keyOf item with
    | none =>
      refine ⟨?_, nonempty⟩
      simp [itemKey]
    | some own =>
      dsimp only
      rw [lookup_appendTo]
      by_cases same : key = own
      · subst same
        simp [itemKey]
      · have different : ¬ own = key := fun equal => same equal.symm
        rw [if_neg same]
        refine ⟨?_, nonempty⟩
        simp [itemKey, different]

theorem mem_groupOn {key : Key} {group : List Item} :
    (key, group) ∈ groupOn keyOf items ↔
      group = items.filter (keyOf · = some key) ∧ group ≠ [] := by
  obtain ⟨collected, nonempty⟩ := lookup_groupOn keyOf items key
  rw [mem_iff_lookup (nodup_keys_groupOn keyOf items), ← collected]
  cases found : (groupOn keyOf items).lookup key with
  | none => simp
  | some other =>
    rw [found] at nonempty
    have filled : other ≠ [] := fun empty => nonempty (by rw [empty])
    simp only [Option.some.injEq, Option.getD_some]
    constructor
    · rintro rfl
      exact ⟨rfl, filled⟩
    · rintro ⟨rfl, -⟩
      rfl

end Groups

structure Iteration (Entry : Type u) where
  arrange : List Entry → List Entry
  perm : ∀ entries, (arrange entries).Perm entries

namespace Iteration

variable {Entry : Type u}

def asBuilt : Iteration Entry := ⟨id, fun _ => .refl _⟩

def leading [DecidableEq Entry] (first : Entry) : Iteration Entry where
  arrange entries := if first ∈ entries then first :: entries.erase first else entries
  perm entries := by
    split
    · rename_i member
      exact (List.perm_cons_erase member).symm
    · exact .refl _

theorem leading_arrange [DecidableEq Entry] {first : Entry} {entries : List Entry}
    (member : first ∈ entries) : (leading first).arrange entries = first :: entries.erase first :=
  if_pos member

theorem mem_arrange (order : Iteration Entry) {entries : List Entry} {entry : Entry} :
    entry ∈ order.arrange entries ↔ entry ∈ entries :=
  (order.perm entries).mem_iff

end Iteration

section UntilFailure

variable {Entry : Type u} {Failure : Type v} {Trace : Type w}

/-- Process entries in order and stop at the first failure: the failing entry with
its failure, and the traces up to it. -/
def untilFailure (run : Entry → Option Failure × List Trace) :
    List Entry → Option (Entry × Failure) × List Trace
  | [] => (none, [])
  | entry :: rest =>
    match run entry with
    | (some failure, trace) => (some (entry, failure), trace)
    | (none, trace) =>
      let (outcome, more) := untilFailure run rest
      (outcome, trace ++ more)

theorem untilFailure_cases (run : Entry → Option Failure × List Trace) (entries : List Entry) :
    ((∀ entry ∈ entries, (run entry).1 = none) ∧
      untilFailure run entries = (none, entries.flatMap fun entry => (run entry).2)) ∨
    ∃ (before : List Entry) (entry : Entry) (after : List Entry) (failure : Failure),
      entries = before ++ entry :: after ∧
      (∀ earlier ∈ before, (run earlier).1 = none) ∧ (run entry).1 = some failure ∧
      untilFailure run entries =
        (some (entry, failure), (before.flatMap fun entry => (run entry).2) ++ (run entry).2) := by
  induction entries with
  | nil => exact .inl ⟨by simp, rfl⟩
  | cons entry rest ih =>
    rcases ran : run entry with ⟨outcome, trace⟩
    cases outcome with
    | some failure =>
      refine .inr ⟨[], entry, rest, failure, rfl, by simp, by rw [ran], ?_⟩
      simp [untilFailure, ran]
    | none =>
      rcases ih with ⟨succeed, looped⟩ |
        ⟨before, failing, after, failure, split, succeed, fails, looped⟩
      · refine .inl ⟨?_, by simp [untilFailure, ran, looped]⟩
        intro other member
        rcases List.mem_cons.mp member with rfl | later
        · rw [ran]
        · exact succeed other later
      · refine .inr ⟨entry :: before, failing, after, failure, by rw [split, List.cons_append],
          ?_, fails, by simp [untilFailure, ran, looped]⟩
        intro other member
        rcases List.mem_cons.mp member with rfl | earlier
        · rw [ran]
        · exact succeed other earlier

theorem untilFailure_append_failing {run : Entry → Option Failure × List Trace}
    {before : List Entry} {entry : Entry} {failure : Failure}
    (succeed : ∀ earlier ∈ before, (run earlier).1 = none) (fails : (run entry).1 = some failure)
    (rest : List Entry) :
    untilFailure run (before ++ entry :: rest) =
      (some (entry, failure), (before.flatMap fun entry => (run entry).2) ++ (run entry).2) := by
  induction before with
  | nil =>
    rcases ran : run entry with ⟨outcome, trace⟩
    rw [ran] at fails
    obtain rfl : outcome = some failure := fails
    simp [untilFailure, ran]
  | cons first before ih =>
    have here := succeed first List.mem_cons_self
    have onward := ih fun other member =>
      succeed other (List.mem_cons_of_mem first member)
    rcases ran : run first with ⟨outcome, trace⟩
    rw [ran] at here
    obtain rfl : outcome = none := here
    simp [untilFailure, ran, onward]

theorem untilFailure_trace_initial (run : Entry → Option Failure × List Trace)
    (entries : List Entry) :
    (untilFailure run entries).2 <+: entries.flatMap fun entry => (run entry).2 := by
  rcases untilFailure_cases run entries with ⟨-, looped⟩ |
    ⟨before, entry, after, failure, split, -, -, looped⟩
  · exact ⟨[], by rw [List.append_nil, looped]⟩
  · rw [looped, split, List.flatMap_append, List.flatMap_cons, ← List.append_assoc]
    exact List.prefix_append _ _

end UntilFailure

end Semantics
