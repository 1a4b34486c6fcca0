import Mathlib.Data.List.Basic
import Mathlib.Data.Nat.Find
import Mathlib.Order.Lattice

/-!
# Paging by a strict cutoff

A listing in descending order of a key is read page by page: a page is what a bounded
number of rows below a cutoff show, and the next cutoff is the key of the last item
shown. Rows that show nothing count towards the bound, and a cutoff that cannot be read
back is none at all.

`Listing.complete_iff` says when following the pages collects every item once. What is
lost otherwise is lost at a single page.
-/

namespace Semantics

universe u v w

section Follow

variable {Item : Type v} {Key : Type w}

/-- Fetch pages until one is empty, each below the cutoff that the last item of the one
before gives. -/
def follow (fetch : Option Key → List Item) (next : Item → Option Key) :
    Nat → Option Key → Option (List Item)
  | 0, _ => none
  | fuel + 1, cutoff =>
    match (fetch cutoff).getLast? with
    | none => some []
    | some last => (follow fetch next fuel (next last)).map (fetch cutoff ++ ·)

variable {fetch : Option Key → List Item} {next : Item → Option Key} {fuel : Nat}
  {cutoff : Option Key} {last : Item} {collected : List Item}

theorem follow_of_empty (empty : (fetch cutoff).getLast? = none) :
    follow fetch next (fuel + 1) cutoff = some [] := by
  rw [follow, empty]

theorem follow_of_last (ended : (fetch cutoff).getLast? = some last) :
    follow fetch next (fuel + 1) cutoff =
      (follow fetch next fuel (next last)).map (fetch cutoff ++ ·) := by
  rw [follow, ended]

theorem follow_split (followed : follow fetch next fuel cutoff = some collected)
    (ended : (fetch cutoff).getLast? = some last) :
    ∃ earlier tail, fuel = earlier + 1 ∧ follow fetch next earlier (next last) = some tail ∧
      collected = fetch cutoff ++ tail := by
  cases fuel with
  | zero => cases followed
  | succ earlier =>
    rw [follow_of_last ended, Option.map_eq_some_iff] at followed
    obtain ⟨tail, onward, rfl⟩ := followed
    exact ⟨earlier, tail, rfl, onward, rfl⟩

theorem follow_translate {Other : Type w} {fetchOther : Option Other → List Item}
    {nextOther : Item → Option Other} (meaning : Option Other → Option Key)
    (pages : ∀ cutoff, fetchOther cutoff = fetch (meaning cutoff))
    (cuts : ∀ cutoff, ∀ last, (fetch cutoff).getLast? = some last →
      meaning (nextOther last) = next last) (fuel : Nat) (cutoff : Option Other) :
    follow fetchOther nextOther fuel cutoff = follow fetch next fuel (meaning cutoff) := by
  induction fuel generalizing cutoff with
  | zero => rfl
  | succ fuel ih =>
    cases ended : (fetch (meaning cutoff)).getLast? with
    | none => rw [follow_of_empty ended, follow_of_empty (by rw [pages, ended])]
    | some last =>
      have ended' : (fetchOther cutoff).getLast? = some last := by rw [pages, ended]
      rw [follow_of_last ended, follow_of_last ended', ih, cuts _ last ended,
        pages]

end Follow

/-- Rows in descending order of their keys. A row may show an item, which carries the
key of its row. -/
structure Listing (Row : Type u) (Item : Type v) (Key : Type w) [LinearOrder Key] where
  rows : List Row
  key : Row → Key
  item : Row → Option Item
  stamp : Item → Key
  descending : rows.Pairwise fun first later => key later ≤ key first
  stamped : ∀ row shown, item row = some shown → stamp shown = key row

namespace Listing

variable {Row : Type u} {Item : Type v} {Key : Type w} [LinearOrder Key]
  (listing : Listing Row Item Key)

def rest : Option Key → List Row
  | none => listing.rows
  | some bound => listing.rows.filter fun row => listing.key row < bound

def items (cutoff : Option Key) : List Item := (listing.rest cutoff).filterMap listing.item

variable (size : Nat)

def page (cutoff : Option Key) : List Item :=
  ((listing.rest cutoff).take size).filterMap listing.item

variable (readable : Key → Bool)

def next (last : Item) : Option Key :=
  if readable (listing.stamp last) then some (listing.stamp last) else none

/-- Following the pages ends and collects every item once, in descending order. -/
def Complete : Prop :=
  ∃ fuel collected, follow (listing.page size) (listing.next readable) fuel none = some collected ∧
    collected.Perm (listing.items none) ∧
    collected.Pairwise fun first later => listing.stamp later ≤ listing.stamp first

/-- The cutoffs of the pages that are read when every cutoff can be read back. -/
inductive Reached : Option Key → Prop where
  | first : Reached none
  | next {cutoff : Option Key} {last : Item} (reached : Reached cutoff)
      (ended : (listing.page size cutoff).getLast? = some last) :
      Reached (some (listing.stamp last))

/-- Nothing is lost at a page: it is empty only when nothing is left, its last key can
be read back, and what is left has another key. -/
structure Clean (cutoff : Option Key) : Prop where
  shows : listing.page size cutoff = [] → listing.items cutoff = []
  reads : ∀ last, (listing.page size cutoff).getLast? = some last →
    readable (listing.stamp last) = true
  parts : ∀ last, (listing.page size cutoff).getLast? = some last →
    ∀ row ∈ (listing.rest cutoff).drop size, ∀ shown, listing.item row = some shown →
      listing.stamp shown ≠ listing.stamp last

variable {listing size readable} {cutoff : Option Key} {last : Item}

theorem rest_sublist : (listing.rest cutoff).Sublist listing.rows := by
  cases cutoff with
  | none => exact List.Sublist.refl _
  | some bound => exact List.filter_sublist

theorem rest_descending :
    (listing.rest cutoff).Pairwise fun first later => listing.key later ≤ listing.key first :=
  listing.descending.sublist rest_sublist

theorem mem_shown {rows : List Row} {shown : Item} (member : shown ∈ rows.filterMap listing.item) :
    ∃ row ∈ rows, listing.item row = some shown ∧ listing.stamp shown = listing.key row := by
  obtain ⟨row, there, shows⟩ := List.mem_filterMap.mp member
  exact ⟨row, there, shows, listing.stamped row shown shows⟩

theorem shown_descending {rows : List Row}
    (descending : rows.Pairwise fun first later => listing.key later ≤ listing.key first) :
    (rows.filterMap listing.item).Pairwise fun first later =>
      listing.stamp later ≤ listing.stamp first := by
  refine List.Pairwise.filterMap _ ?_ descending
  intro first later below shown shows other otherShows
  rw [listing.stamped first shown shows, listing.stamped later other otherShows]
  exact below

theorem items_eq :
    listing.items cutoff =
      listing.page size cutoff ++ ((listing.rest cutoff).drop size).filterMap listing.item := by
  rw [items, page, ← List.filterMap_append, List.take_append_drop]

theorem last_row (ended : (listing.page size cutoff).getLast? = some last) :
    ∃ row ∈ (listing.rest cutoff).take size, listing.item row = some last ∧
      listing.stamp last = listing.key row :=
  mem_shown (List.mem_of_getLast? ended)

theorem last_le (ended : (listing.page size cutoff).getLast? = some last) {shown : Item}
    (member : shown ∈ listing.page size cutoff) : listing.stamp last ≤ listing.stamp shown := by
  obtain ⟨earlier, split⟩ := List.getLast?_eq_some_iff.mp ended
  have descending : (listing.page size cutoff).Pairwise
      fun first later => listing.stamp later ≤ listing.stamp first :=
    shown_descending (rest_descending.sublist (List.take_sublist size _))
  rw [split, List.pairwise_append] at descending
  rw [split, List.mem_append, List.mem_singleton] at member
  rcases member with before | rfl
  · exact descending.2.2 shown before last (List.mem_singleton_self last)
  · exact le_rfl

theorem le_last (ended : (listing.page size cutoff).getLast? = some last) {row : Row}
    (member : row ∈ (listing.rest cutoff).drop size) : listing.key row ≤ listing.stamp last := by
  obtain ⟨own, there, -, stamp⟩ := last_row ended
  have descending : (listing.rest cutoff).Pairwise
      fun first later => listing.key later ≤ listing.key first := rest_descending
  rw [← List.take_append_drop size (listing.rest cutoff), List.pairwise_append] at descending
  rw [stamp]
  exact descending.2.2 own there row member

theorem rest_next (ended : (listing.page size cutoff).getLast? = some last) :
    listing.rest (some (listing.stamp last)) =
      (listing.rest cutoff).filter fun row => listing.key row < listing.stamp last := by
  cases cutoff with
  | none => rfl
  | some bound =>
    obtain ⟨own, there, -, stamp⟩ := last_row ended
    have below : listing.stamp last < bound := by
      have member := List.mem_filter.mp (List.mem_of_mem_take there)
      rw [stamp]
      simpa using member.2
    rw [rest, rest, List.filter_filter]
    apply List.filter_congr
    intro row _
    by_cases under : listing.key row < listing.stamp last
    · simp [under, lt_trans under below]
    · simp [under]

theorem rest_next_length (ended : (listing.page size cutoff).getLast? = some last) :
    (listing.rest (some (listing.stamp last))).length < (listing.rest cutoff).length := by
  obtain ⟨own, there, -, stamp⟩ := last_row ended
  rw [rest_next ended, List.length_filter_lt_length_iff_exists]
  exact ⟨own, List.mem_of_mem_take there, by simp [stamp]⟩

theorem items_next (ended : (listing.page size cutoff).getLast? = some last)
    (parts : ∀ row ∈ (listing.rest cutoff).drop size, ∀ shown, listing.item row = some shown →
      listing.stamp shown ≠ listing.stamp last) :
    listing.items (some (listing.stamp last)) =
      ((listing.rest cutoff).drop size).filterMap listing.item := by
  have onPage : (((listing.rest cutoff).take size).filter fun row =>
      listing.key row < listing.stamp last).filterMap listing.item = [] := by
    rw [List.filterMap_eq_nil_iff]
    intro row member
    obtain ⟨there, under⟩ := List.mem_filter.mp member
    cases shows : listing.item row with
    | none => rfl
    | some shown =>
      have above := last_le ended (List.mem_filterMap.mpr ⟨row, there, shows⟩)
      rw [listing.stamped row shown shows] at above
      exact absurd (of_decide_eq_true under) (not_lt_of_ge above)
  have after : (((listing.rest cutoff).drop size).filter fun row =>
      listing.key row < listing.stamp last).filterMap listing.item =
      ((listing.rest cutoff).drop size).filterMap listing.item := by
    rw [List.filterMap_filter]
    apply List.filterMap_congr
    intro row member
    cases shows : listing.item row with
    | none => simp
    | some shown =>
      have other := parts row member shown shows
      rw [listing.stamped row shown shows] at other
      simp [lt_of_le_of_ne (le_last ended member) other]
  rw [items, rest_next ended]
  conv_lhs => rw [← List.take_append_drop size (listing.rest cutoff)]
  rw [List.filter_append, List.filterMap_append, onPage, after, List.nil_append]

theorem follow_clean
    (clean : ∀ cutoff, listing.Reached size cutoff → listing.Clean size readable cutoff)
    (bound : Nat) (reached : listing.Reached size cutoff)
    (enough : (listing.rest cutoff).length ≤ bound) :
    follow (listing.page size) (listing.next readable) (bound + 1) cutoff =
      some (listing.items cutoff) := by
  induction bound generalizing cutoff with
  | zero =>
    have empty : listing.rest cutoff = [] := List.length_eq_zero_iff.mp (Nat.le_zero.mp enough)
    have page : listing.page size cutoff = [] := by simp [Listing.page, empty]
    rw [follow_of_empty (by rw [page]; rfl), items, empty]
    rfl
  | succ bound ih =>
    cases ended : (listing.page size cutoff).getLast? with
    | none =>
      have empty : listing.page size cutoff = [] := List.getLast?_eq_none_iff.mp ended
      rw [follow_of_empty ended, (clean cutoff reached).shows empty]
    | some last =>
      have fewer := rest_next_length ended
      have onward := ih (reached.next ended) (by omega)
      have cut : listing.next readable last = some (listing.stamp last) :=
        if_pos ((clean cutoff reached).reads last ended)
      rw [follow_of_last ended, cut, onward, Option.map_some,
        items_next ended ((clean cutoff reached).parts last ended), ← items_eq]

theorem reads_of_ends {fuel : Nat} {collected : List Item}
    (ends : follow (listing.page size) (listing.next readable) fuel none = some collected)
    (reached : listing.Reached size cutoff) :
    ∃ earlier gathered,
      follow (listing.page size) (listing.next readable) earlier cutoff = some gathered ∧
      ∀ last, (listing.page size cutoff).getLast? = some last →
        readable (listing.stamp last) = true := by
  classical
  -- With the least fuel that suffices, the first page is not read a second time.
  have some_fuel : ∃ fuel,
      (follow (listing.page size) (listing.next readable) fuel none).isSome = true :=
    ⟨fuel, by rw [ends]; rfl⟩
  obtain ⟨least, enough, minimal⟩ : ∃ least,
      (follow (listing.page size) (listing.next readable) least none).isSome = true ∧
      ∀ fewer, fewer < least →
        (follow (listing.page size) (listing.next readable) fewer none).isSome = false :=
    ⟨Nat.find some_fuel, Nat.find_spec some_fuel,
      fun fewer below => by simpa using Nat.find_min some_fuel below⟩
  have reads {fuel : Nat} {cutoff : Option Key} {gathered : List Item} {last : Item}
      (bounded : fuel ≤ least)
      (followed : follow (listing.page size) (listing.next readable) fuel cutoff = some gathered)
      (ended : (listing.page size cutoff).getLast? = some last) :
      readable (listing.stamp last) = true ∧ ∃ earlier tail, earlier ≤ least ∧
        follow (listing.page size) (listing.next readable) earlier (some (listing.stamp last)) =
          some tail := by
    obtain ⟨earlier, tail, rfl, onward, -⟩ := follow_split followed ended
    by_cases read : readable (listing.stamp last) = true
    · rw [next, if_pos read] at onward
      exact ⟨read, earlier, tail, by omega, onward⟩
    · rw [next, if_neg read] at onward
      have again := minimal earlier (by omega)
      rw [onward] at again
      cases again
  have follows : ∃ earlier gathered, earlier ≤ least ∧
      follow (listing.page size) (listing.next readable) earlier cutoff = some gathered := by
    induction reached with
    | first => exact ⟨least, _, le_rfl, (Option.some_get enough).symm⟩
    | next _ ended ih =>
      obtain ⟨earlier, gathered, bounded, followed⟩ := ih
      obtain ⟨-, later, tail, below, onward⟩ := reads bounded followed ended
      exact ⟨later, tail, below, onward⟩
  obtain ⟨earlier, gathered, bounded, followed⟩ := follows
  exact ⟨earlier, gathered, followed, fun last ended => (reads bounded followed ended).1⟩

theorem follow_within
    (reads : ∀ cutoff, listing.Reached size cutoff → ∀ last,
      (listing.page size cutoff).getLast? = some last → readable (listing.stamp last) = true)
    {fuel : Nat} {collected : List Item} (reached : listing.Reached size cutoff)
    (followed : follow (listing.page size) (listing.next readable) fuel cutoff = some collected)
    {shown : Item} (member : shown ∈ collected) :
    ∃ row ∈ listing.rest cutoff, listing.stamp shown = listing.key row := by
  induction fuel generalizing cutoff collected with
  | zero => cases followed
  | succ fuel ih =>
    cases ended : (listing.page size cutoff).getLast? with
    | none =>
      rw [follow_of_empty ended, Option.some.injEq] at followed
      subst followed
      cases member
    | some last =>
      obtain ⟨earlier, tail, same, onward, rfl⟩ := follow_split followed ended
      obtain rfl : fuel = earlier := by omega
      rcases List.mem_append.mp member with own | later
      · obtain ⟨row, there, -, stamp⟩ := mem_shown own
        exact ⟨row, List.mem_of_mem_take there, stamp⟩
      · rw [next, if_pos (reads cutoff reached last ended)] at onward
        obtain ⟨row, there, stamp⟩ := ih (reached.next ended) onward later
        rw [rest_next ended] at there
        exact ⟨row, List.mem_of_mem_filter there, stamp⟩

theorem clean_of_perm
    (reads : ∀ cutoff, listing.Reached size cutoff → ∀ last,
      (listing.page size cutoff).getLast? = some last → readable (listing.stamp last) = true)
    {fuel : Nat} {collected : List Item} (reached : listing.Reached size cutoff)
    (followed : follow (listing.page size) (listing.next readable) fuel cutoff = some collected)
    (perm : collected.Perm (listing.items cutoff)) :
    listing.Clean size readable cutoff ∧
      ∀ last, (listing.page size cutoff).getLast? = some last → ∃ earlier tail,
        follow (listing.page size) (listing.next readable) earlier (some (listing.stamp last)) =
          some tail ∧ tail.Perm (listing.items (some (listing.stamp last))) := by
  have onward : ∀ last, (listing.page size cutoff).getLast? = some last → ∃ earlier tail,
      follow (listing.page size) (listing.next readable) earlier (some (listing.stamp last)) =
        some tail ∧ tail.Perm (((listing.rest cutoff).drop size).filterMap listing.item) := by
    intro last ended
    obtain ⟨earlier, tail, -, later, rfl⟩ := follow_split followed ended
    rw [next, if_pos (reads cutoff reached last ended)] at later
    rw [@items_eq _ _ _ _ _ size, List.perm_append_left_iff] at perm
    exact ⟨earlier, tail, later, perm⟩
  have parts : ∀ last, (listing.page size cutoff).getLast? = some last →
      ∀ row ∈ (listing.rest cutoff).drop size, ∀ shown, listing.item row = some shown →
        listing.stamp shown ≠ listing.stamp last := by
    intro last ended row member shown shows
    obtain ⟨earlier, tail, later, same⟩ := onward last ended
    have collectedLater : shown ∈ tail :=
      same.mem_iff.mpr (List.mem_filterMap.mpr ⟨row, member, shows⟩)
    obtain ⟨other, there, stamp⟩ := follow_within reads (reached.next ended) later collectedLater
    have below : listing.key other < listing.stamp last := by
      simpa using (List.mem_filter.mp there).2
    rw [stamp]
    exact ne_of_lt below
  refine ⟨⟨?_, reads cutoff reached, parts⟩, ?_⟩
  · intro empty
    have ended : (listing.page size cutoff).getLast? = none := by rw [empty]; rfl
    cases fuel with
    | zero => cases followed
    | succ fuel =>
      rw [follow_of_empty ended, Option.some.injEq] at followed
      rw [← followed] at perm
      exact perm.nil_eq.symm
  · intro last ended
    obtain ⟨earlier, tail, later, same⟩ := onward last ended
    refine ⟨earlier, tail, later, ?_⟩
    rwa [items_next ended (parts last ended)]

theorem clean_of_apart (positive : 0 < size)
    (shown : ∀ row ∈ listing.rows, (listing.item row).isSome = true)
    (apart : listing.rows.Pairwise fun first later => listing.key later < listing.key first)
    (reads : ∀ row ∈ listing.rows, readable (listing.key row) = true) :
    listing.Clean size readable cutoff := by
  have inRows : ∀ row ∈ listing.rest cutoff, row ∈ listing.rows :=
    fun row member => rest_sublist.subset member
  refine ⟨?_, ?_, ?_⟩
  · intro empty
    cases rows : listing.rest cutoff with
    | nil => rw [items, rows]; rfl
    | cons row rest =>
      have there : row ∈ listing.rest cutoff := by simp [rows]
      obtain ⟨item, shows⟩ := Option.isSome_iff_exists.mp (shown row (inRows row there))
      have onPage : item ∈ listing.page size cutoff := by
        obtain ⟨fewer, rfl⟩ := Nat.exists_eq_succ_of_ne_zero positive.ne'
        rw [page, rows, List.take_succ_cons]
        exact List.mem_filterMap.mpr ⟨row, List.mem_cons_self, shows⟩
      rw [empty] at onPage
      cases onPage
  · intro last ended
    obtain ⟨row, there, -, stamp⟩ := last_row ended
    rw [stamp]
    exact reads row (inRows row (List.mem_of_mem_take there))
  · intro last ended row member item shows
    obtain ⟨own, there, -, stamp⟩ := last_row ended
    have apartRest := apart.sublist (@rest_sublist _ _ _ _ listing cutoff)
    rw [← List.take_append_drop size (listing.rest cutoff), List.pairwise_append] at apartRest
    rw [stamp, listing.stamped row item shows]
    exact ne_of_lt (apartRest.2.2 own there row member)

theorem complete_iff (listing : Listing Row Item Key) (size : Nat) (readable : Key → Bool) :
    listing.Complete size readable ↔
      ∀ cutoff, listing.Reached size cutoff → listing.Clean size readable cutoff := by
  constructor
  · rintro ⟨fuel, collected, followed, perm, -⟩
    have reads : ∀ cutoff, listing.Reached size cutoff → ∀ last,
        (listing.page size cutoff).getLast? = some last → readable (listing.stamp last) = true := by
      intro cutoff reached
      obtain ⟨-, -, -, read⟩ := reads_of_ends followed reached
      exact read
    have collects : ∀ cutoff, listing.Reached size cutoff → ∃ fuel collected,
        follow (listing.page size) (listing.next readable) fuel cutoff = some collected ∧
          collected.Perm (listing.items cutoff) := by
      intro cutoff reached
      induction reached with
      | first => exact ⟨fuel, collected, followed, perm⟩
      | next reached ended ih =>
        obtain ⟨fuel, collected, followed, perm⟩ := ih
        exact (clean_of_perm reads reached followed perm).2 _ ended
    intro cutoff reached
    obtain ⟨fuel, collected, followed, perm⟩ := collects cutoff reached
    exact (clean_of_perm reads reached followed perm).1
  · intro clean
    refine ⟨_, _, follow_clean clean _ .first le_rfl, List.Perm.refl _, ?_⟩
    exact shown_descending rest_descending

end Listing

end Semantics
