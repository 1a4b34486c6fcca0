import Mathlib.Data.List.Induction
import ElvishMail.Js.Strings

/-!
# Lines, pieces and parameters

What browser code does to texts before it looks at their parts: line ends are made
alike, a text is split at a marker, and regular expressions look for a parameter.
Splitting at a marker without white space gives the same pieces before and after
line ends are made alike.
-/

namespace Js

/-- `replace(/\r\n/g, "\n")`. -/
def unixLines : JsString → JsString
  | 13 :: 10 :: rest => 10 :: unixLines rest
  | unit :: rest => unit :: unixLines rest
  | [] => []

example : unixLines [13, 10, 65] = [10, 65] := by simp [unixLines]

def consPiece (unit : UInt16) : List JsString → List JsString
  | piece :: pieces => (unit :: piece) :: pieces
  | [] => [[unit]]

/-- The pieces of a text of which some units still belong to a marker. -/
def splitAfter (marker : JsString) : Nat → JsString → List JsString
  | _, [] => [[]]
  | skip + 1, _ :: rest => splitAfter marker skip rest
  | 0, unit :: rest =>
    if startsWith (unit :: rest) marker then [] :: splitAfter marker (marker.length - 1) rest
    else consPiece unit (splitAfter marker 0 rest)

/-- `split`, at a marker that is not empty. -/
def split (text marker : JsString) : List JsString := splitAfter marker 0 text

/-- A line terminator, which `.` does not match. -/
def isTerminator (unit : UInt16) : Bool :=
  unit == 10 || unit == 13 || unit == 0x2028 || unit == 0x2029

def startsWithInsensitive (text pattern : JsString) : Bool :=
  startsWith (text.map lowerUnit) (pattern.map lowerUnit)

def containsInsensitive (text pattern : JsString) : Bool :=
  (indexOf (text.map lowerUnit) (pattern.map lowerUnit)).isSome

/-- `"?([^…]+)` at the start of a text, where the quote is among the units that end it. -/
def matchQuoted (stops : UInt16 → Bool) (text : JsString) : Option JsString :=
  let value := (if startsWith text (lit "\"") then text.drop 1 else text).takeWhile (!stops ·)
  if value = [] then none else some value

/-- `name"?([^…]+)` anywhere in a text. -/
def findParameter (name : JsString) (stops : UInt16 → Bool) (text : JsString) : Option JsString :=
  text.tails.findSome? fun tail =>
    if startsWithInsensitive tail name then matchQuoted stops (tail.drop name.length) else none

/-- `start[\s\S]*?stop` anywhere in a text, trimmed; empty if there is none. -/
def findBlock (start stop text : JsString) : JsString :=
  match indexOf text start with
  | none => []
  | some index =>
    match indexOf (text.drop (index + start.length)) stop with
    | none => []
    | some length => trim ((text.drop index).take (start.length + length + stop.length))

section Trim

variable {text lead core tail : JsString}

/-- The first unit, if there is one, is not white space. -/
def StartsTight (text : JsString) : Prop := ∀ unit ∈ text.head?, isWhite unit = false

def EndsTight (text : JsString) : Prop := ∀ unit ∈ text.getLast?, isWhite unit = false

def Blank (text : JsString) : Prop := ∀ unit ∈ text, isWhite unit = true

theorem StartsTight.trimStart (tight : StartsTight text) : trimStart text = text := by
  cases text with
  | nil => rfl
  | cons unit rest => exact List.dropWhile_cons_of_neg (by simp [tight unit rfl])

theorem StartsTight.reverse (tight : StartsTight text) : EndsTight text.reverse := by
  simpa [EndsTight, StartsTight] using tight

theorem EndsTight.reverse (tight : EndsTight text) : StartsTight text.reverse := by
  simpa [EndsTight, StartsTight] using tight

theorem EndsTight.trimEnd (tight : EndsTight text) : trimEnd text = text := by
  have kept : text.reverse.dropWhile isWhite = text.reverse := tight.reverse.trimStart
  rw [Js.trimEnd, kept, List.reverse_reverse]

theorem Blank.reverse (blank : Blank text) : Blank text.reverse := by
  simpa [Blank] using blank

theorem Blank.append (left : Blank lead) (right : Blank tail) : Blank (lead ++ tail) := by
  intro unit member
  rcases List.mem_append.mp member with before | behind
  · exact left unit before
  · exact right unit behind

theorem Blank.trimStart_append (blank : Blank lead) : trimStart (lead ++ text) = trimStart text :=
  List.dropWhile_append_of_pos blank

theorem Blank.trimEnd_append (blank : Blank tail) : trimEnd (text ++ tail) = trimEnd text := by
  unfold trimEnd
  rw [List.reverse_append, List.dropWhile_append_of_pos blank.reverse]

theorem EndsTight.trimEnd_append (tight : EndsTight core) :
    Js.trimEnd (core ++ tail) = core ++ Js.trimEnd tail := by
  have kept : core.reverse.dropWhile isWhite = core.reverse := tight.reverse.trimStart
  unfold Js.trimEnd
  rw [List.reverse_append, List.dropWhile_append]
  split
  next white =>
    rw [kept, List.isEmpty_iff.mp white]
    simp
  next => simp

theorem EndsTight.append (tight : EndsTight core) (some : core ≠ []) : EndsTight (lead ++ core) := by
  intro unit last
  rw [List.getLast?_append_of_ne_nil _ some] at last
  exact tight unit last

theorem EndsTight.infix_trimEnd (tight : EndsTight core) (within : core <:+: text) :
    core <:+: Js.trimEnd text := by
  by_cases empty : core = []
  · rw [empty]
    exact List.nil_infix
  · obtain ⟨lead, tail, rfl⟩ := within
    rw [(tight.append empty).trimEnd_append]
    exact ⟨lead, Js.trimEnd tail, rfl⟩

theorem trimStart_spec (text : JsString) :
    ∃ lead, text = lead ++ trimStart text ∧ Blank lead ∧ StartsTight (trimStart text) := by
  refine ⟨text.takeWhile isWhite, List.takeWhile_append_dropWhile.symm, ?_, ?_⟩
  · have all : (text.takeWhile isWhite).all isWhite = true := List.all_takeWhile
    exact List.all_eq_true.mp all
  · intro unit first
    have stops := List.head?_dropWhile_not isWhite text
    rw [← trimStart, Option.mem_def.mp first] at stops
    simpa using stops

theorem trimEnd_spec (text : JsString) :
    ∃ tail, text = trimEnd text ++ tail ∧ Blank tail ∧ EndsTight (trimEnd text) := by
  obtain ⟨lead, split, blank, tight⟩ := trimStart_spec text.reverse
  refine ⟨lead.reverse, ?_, blank.reverse, tight.reverse⟩
  have reversed := congrArg List.reverse split
  rw [List.reverse_reverse, List.reverse_append] at reversed
  exact reversed

theorem StartsTight.of_append (tight : StartsTight (core ++ tail)) : StartsTight core := by
  cases core with
  | nil => nofun
  | cons unit rest => exact tight

theorem trim_spec (text : JsString) : ∃ lead tail, text = lead ++ trim text ++ tail ∧
    Blank lead ∧ Blank tail ∧ StartsTight (trim text) ∧ EndsTight (trim text) := by
  obtain ⟨lead, start, blankLead, first⟩ := trimStart_spec text
  obtain ⟨tail, stop, blankTail, last⟩ := trimEnd_spec (trimStart text)
  refine ⟨lead, tail, ?_, blankLead, blankTail, ?_, last⟩
  · rw [List.append_assoc, trim, ← stop]
    exact start
  · rw [stop] at first
    exact first.of_append

theorem Blank.trimStart_eq_nil (blank : Blank text) : trimStart text = [] := by
  have empty : trimStart (text ++ []) = trimStart [] := blank.trimStart_append
  rw [List.append_nil] at empty
  exact empty

theorem trim_eq (blankLead : Blank lead) (blankTail : Blank tail) (first : StartsTight core)
    (last : EndsTight core) : trim (lead ++ core ++ tail) = core := by
  rw [trim, List.append_assoc, blankLead.trimStart_append]
  cases core with
  | nil =>
    rw [List.nil_append, blankTail.trimStart_eq_nil]
    rfl
  | cons unit rest =>
    have starts : StartsTight (unit :: rest ++ tail) := first
    rw [starts.trimStart, blankTail.trimEnd_append, last.trimEnd]

theorem Blank.trim_append (blank : Blank lead) : trim (lead ++ text) = trim text := by
  rw [trim, blank.trimStart_append, trim]

theorem trim_within (text : JsString) : trim text <:+: text := by
  obtain ⟨lead, tail, split, -⟩ := trim_spec text
  exact ⟨lead, tail, split.symm⟩

theorem trim_eq_nil : trim text = [] ↔ Blank text := by
  constructor
  · intro empty
    obtain ⟨lead, tail, split, blankLead, blankTail, -⟩ := trim_spec text
    rw [empty, List.append_nil] at split
    rw [split]
    exact blankLead.append blankTail
  · intro blank
    rw [trim, blank.trimStart_eq_nil]
    rfl

end Trim

section Lines

variable {text left right : JsString} {unit : UInt16}

theorem unixLines_cons (apart : unit = 13 → text.head? ≠ some 10) :
    unixLines (unit :: text) = unit :: unixLines text := by
  rw [unixLines]
  rintro rest rfl rfl
  exact apart rfl rfl

theorem unixLines_append (apart : left.getLast? ≠ some 13 ∨ right.head? ≠ some 10) :
    unixLines (left ++ right) = unixLines left ++ unixLines right := by
  have shorter {first : UInt16} {rest : JsString}
      (apart : (first :: rest).getLast? ≠ some 13 ∨ right.head? ≠ some 10) :
      rest.getLast? ≠ some 13 ∨ right.head? ≠ some 10 := by
    refine apart.imp_left fun last => ?_
    cases rest with
    | nil => nofun
    | cons second rest => rwa [List.getLast?_cons_cons] at last
  fun_induction unixLines left with
  | case1 rest ih =>
    rw [List.cons_append, List.cons_append, unixLines, ih (shorter (shorter apart))]
    rfl
  | case2 unit rest other ih =>
    rw [List.cons_append, unixLines_cons, ih (shorter apart)]
    · rfl
    · rintro rfl
      cases rest with
      | nil => exact apart.resolve_left fun differs => differs rfl
      | cons second rest =>
        intro head
        cases Option.some.inj head
        exact other rest rfl rfl
  | case3 => rfl

theorem mem_of_mem_unixLines (member : unit ∈ unixLines text) : unit ∈ text := by
  fun_induction unixLines text with
  | case1 rest ih =>
    rcases List.mem_cons.mp member with rfl | later
    · simp
    · simp [ih later]
  | case2 first rest other ih =>
    rcases List.mem_cons.mp member with rfl | later
    · simp
    · simp [ih later]
  | case3 => exact member

theorem unixLines_eq_nil : unixLines text = [] ↔ text = [] := by
  cases text with
  | nil => simp [unixLines]
  | cons unit rest =>
    simp only [reduceCtorEq, iff_false]
    unfold unixLines
    split <;> simp_all

theorem getLast?_unixLines : (unixLines text).getLast? = text.getLast? := by
  fun_induction unixLines text with
  | case1 rest ih =>
    cases rest with
    | nil => rfl
    | cons unit rest =>
      have some : unixLines (unit :: rest) ≠ [] := by simp [unixLines_eq_nil]
      rw [List.getLast?_cons_of_ne_nil some, ih]
      simp
  | case2 first rest other ih =>
    cases rest with
    | nil => rfl
    | cons unit rest =>
      have some : unixLines (unit :: rest) ≠ [] := by simp [unixLines_eq_nil]
      rw [List.getLast?_cons_of_ne_nil some, ih]
      simp
  | case3 => rfl

theorem isWhite_return : isWhite 13 = true := by decide

theorem isWhite_newline : isWhite 10 = true := by decide

theorem StartsTight.apart (tight : StartsTight right) : right.head? ≠ some 10 := by
  intro head
  have visible := tight 10 head
  rw [isWhite_newline] at visible
  cases visible

theorem EndsTight.apart (tight : EndsTight left) : left.getLast? ≠ some 13 := by
  intro last
  have visible := tight 13 last
  rw [isWhite_return] at visible
  cases visible

theorem Blank.unixLines (blank : Blank text) : Blank (unixLines text) :=
  fun unit member => blank unit (mem_of_mem_unixLines member)

theorem EndsTight.unixLines (tight : EndsTight text) : EndsTight (unixLines text) := by
  intro unit last
  rw [getLast?_unixLines] at last
  exact tight unit last

theorem StartsTight.unixLines (tight : StartsTight text) : StartsTight (unixLines text) := by
  cases text with
  | nil => exact tight
  | cons unit rest =>
    have visible := tight unit rfl
    rw [unixLines_cons]
    · rintro first ⟨⟩
      exact visible
    · rintro rfl
      rw [isWhite_return] at visible
      cases visible

theorem unixLines_between {lead core tail : JsString} (first : StartsTight core)
    (last : EndsTight core) (some : core ≠ []) :
    Js.unixLines (lead ++ core ++ tail) =
      Js.unixLines lead ++ Js.unixLines core ++ Js.unixLines tail := by
  have ends : (lead ++ core).getLast? ≠ .some 13 := by
    rw [List.getLast?_append_of_ne_nil _ some]
    exact last.apart
  rw [unixLines_append (.inl ends), unixLines_append (.inr first.apart)]

theorem trim_unixLines : trim (unixLines text) = unixLines (trim text) := by
  obtain ⟨lead, tail, split, blankLead, blankTail, first, last⟩ := trim_spec text
  by_cases empty : trim text = []
  · rw [empty]
    exact trim_eq_nil.mpr (trim_eq_nil.mp empty).unixLines
  · have made : unixLines text = unixLines lead ++ unixLines (trim text) ++ unixLines tail := by
      rw [← unixLines_between first last empty, ← split]
    rw [made, trim_eq blankLead.unixLines blankTail.unixLines first.unixLines last.unixLines]

theorem unixLines_infix {core : JsString} (first : StartsTight core) (last : EndsTight core)
    (within : core <:+: text) : unixLines core <:+: unixLines text := by
  by_cases empty : core = []
  · rw [empty]
    exact List.nil_infix
  · obtain ⟨lead, tail, rfl⟩ := within
    rw [unixLines_between first last empty]
    exact ⟨unixLines lead, unixLines tail, rfl⟩

end Lines

section Pieces

variable {text marker : JsString}

def Solid (text : JsString) : Prop := ∀ unit ∈ text, isWhite unit = false

theorem Solid.unixLines_append (solid : Solid marker) :
    unixLines (marker ++ text) = marker ++ unixLines text := by
  induction marker with
  | nil => rfl
  | cons unit rest ih =>
    have visible := solid unit (List.mem_cons_self ..)
    rw [List.cons_append, unixLines_cons, ih fun other member =>
      solid other (List.mem_cons_of_mem _ member)]
    · rfl
    · rintro rfl
      rw [isWhite_return] at visible
      cases visible

theorem Solid.startsWith_unixLines (solid : Solid marker) :
    startsWith (unixLines text) marker = startsWith text marker := by
  unfold startsWith
  induction marker generalizing text with
  | nil => rfl
  | cons unit rest ih =>
    have visible := solid unit (List.mem_cons_self ..)
    unfold unixLines
    split
    next tail =>
      have newline : unit ≠ 10 := by
        rintro rfl
        rw [isWhite_newline] at visible
        cases visible
      have carriage : unit ≠ 13 := by
        rintro rfl
        rw [isWhite_return] at visible
        cases visible
      rw [List.isPrefixOf, List.isPrefixOf, beq_false_of_ne newline, beq_false_of_ne carriage]
      rfl
    next first tail other =>
      simp only [List.isPrefixOf]
      rw [ih fun unit member => solid unit (List.mem_cons_of_mem _ member)]
    next => rfl

theorem Solid.unixLines_eq (solid : Solid text) : unixLines text = text := by
  have alone : unixLines (text ++ []) = text ++ unixLines [] := solid.unixLines_append
  simpa [unixLines] using alone

theorem Solid.endsWith_unixLines (solid : Solid marker) :
    endsWith (unixLines text) marker = endsWith text marker := by
  rw [Bool.eq_iff_iff, endsWith, endsWith, List.isSuffixOf_iff_suffix, List.isSuffixOf_iff_suffix]
  constructor
  · intro ends
    induction marker using List.reverseRecOn generalizing text with
    | nil => exact List.nil_suffix
    | append_singleton front unit ih =>
      obtain ⟨before, made⟩ := ends
      have last : text.getLast? = some unit := by
        rw [← getLast?_unixLines, ← made]
        simp
      obtain ⟨start, rfl⟩ := List.getLast?_eq_some_iff.mp last
      have visible : isWhite unit = false := solid unit (by simp)
      have alone : StartsTight [unit] := by
        rintro first ⟨⟩
        exact visible
      have single : unixLines [unit] = [unit] :=
        Solid.unixLines_eq fun other member => by
          cases List.mem_singleton.mp member
          exact visible
      rw [Js.unixLines_append (.inr alone.apart), single, ← List.append_assoc] at made
      have shorter : front <:+ unixLines start := ⟨before, (List.append_inj' made rfl).1⟩
      obtain ⟨lead, rfl⟩ := ih
        (fun other member => solid other (List.mem_append_left _ member)) shorter
      exact ⟨lead, by rw [List.append_assoc]⟩
  · rintro ⟨before, rfl⟩
    by_cases empty : marker = []
    · rw [empty]
      exact List.nil_suffix
    · have tight : StartsTight marker := fun unit head => solid unit (List.mem_of_mem_head? head)
      rw [Js.unixLines_append (.inr tight.apart), solid.unixLines_eq]
      exact ⟨unixLines before, rfl⟩

theorem splitAfter_append (skipped : JsString) :
    splitAfter marker skipped.length (skipped ++ text) = splitAfter marker 0 text := by
  induction skipped with
  | nil => rfl
  | cons unit rest ih =>
    rw [List.cons_append, List.length_cons, splitAfter]
    exact ih

theorem split_marker (some : marker ≠ []) : split (marker ++ text) marker = [] :: split text marker := by
  cases marker with
  | nil => exact absurd rfl some
  | cons unit rest =>
    have starts : startsWith (unit :: (rest ++ text)) (unit :: rest) = true := by
      rw [startsWith, List.isPrefixOf_iff_prefix]
      exact ⟨text, rfl⟩
    rw [split, List.cons_append, splitAfter, if_pos starts]
    exact congrArg _ (splitAfter_append rest)

theorem split_cons {unit : UInt16} (none : startsWith (unit :: text) marker = false) :
    split (unit :: text) marker = consPiece unit (split text marker) := by
  rw [split, splitAfter, if_neg (by simp [none])]
  rfl

theorem split_spec (text marker : JsString) : ∃ piece pieces, split text marker = piece :: pieces ∧
    (piece.head? = none ∨ piece.head? = text.head?) := by
  cases text with
  | nil => exact ⟨[], [], rfl, .inl rfl⟩
  | cons unit rest =>
    by_cases starts : startsWith (unit :: rest) marker = true
    · rw [split, splitAfter, if_pos starts]
      exact ⟨[], _, rfl, .inl rfl⟩
    · rw [split_cons (by simpa using starts)]
      cases split rest marker with
      | nil => exact ⟨[unit], [], rfl, .inr rfl⟩
      | cons piece pieces => exact ⟨unit :: piece, pieces, rfl, .inr rfl⟩

theorem Solid.split_unixLines (solid : Solid marker) (some : marker ≠ []) (text : JsString) :
    split (unixLines text) marker = (split text marker).map unixLines := by
  -- white space does not start a marker
  have white {unit : UInt16} {rest : JsString} (blank : isWhite unit = true) :
      startsWith (unit :: rest) marker = false := by
    cases marker with
    | nil => exact absurd rfl some
    | cons first tail =>
      have differs : first ≠ unit := by
        rintro rfl
        rw [solid first (List.mem_cons_self ..)] at blank
        cases blank
      simp [startsWith, List.isPrefixOf, differs]
  induction size : text.length using Nat.strongRecOn generalizing text with
  | _ length ih =>
    by_cases starts : startsWith text marker = true
    · obtain ⟨rest, rfl⟩ := List.isPrefixOf_iff_prefix.mp starts
      have shorter : rest.length < length := by
        have positive := List.length_pos_iff.mpr some
        rw [List.length_append] at size
        omega
      rw [solid.unixLines_append, split_marker some, split_marker some,
        ih rest.length shorter rest rfl]
      rfl
    · have apart : startsWith text marker = false := by simpa using starts
      have made : startsWith (unixLines text) marker = false := by
        rw [solid.startsWith_unixLines, apart]
      revert made
      unfold unixLines
      split <;> intro made
      next rest =>
        obtain ⟨piece, pieces, first, -⟩ := split_spec rest marker
        rw [split_cons (white isWhite_newline), split_cons (white isWhite_return),
          split_cons (white isWhite_newline), ih rest.length ?_ rest rfl, first]
        · simp [consPiece, unixLines]
        · simp only [List.length_cons] at size
          omega
      next unit rest other =>
        obtain ⟨piece, pieces, first, head⟩ := split_spec rest marker
        -- a carriage return at the end of the unit's piece is not within a line end
        have separate : unit = 13 → piece.head? ≠ .some 10 := by
          rintro rfl starts
          rcases head with none | same
          · rw [none] at starts
            cases starts
          · rw [same] at starts
            cases rest with
            | nil => cases starts
            | cons second rest =>
              cases Option.some.inj starts
              exact other rest rfl rfl
        rw [split_cons made, split_cons apart, ih rest.length ?_ rest rfl, first]
        · simp [consPiece, unixLines_cons separate]
        · simp only [List.length_cons] at size
          omega
      next => rfl

end Pieces

theorem matchQuoted_units {stops : UInt16 → Bool} {text value : JsString}
    (matched : matchQuoted stops text = some value) : ∀ unit ∈ value, stops unit = false := by
  unfold matchQuoted at matched
  dsimp only at matched
  rw [Option.ite_none_left_eq_some] at matched
  obtain ⟨-, made⟩ := matched
  cases made
  intro unit member
  simpa using List.all_eq_true.mp List.all_takeWhile unit member

theorem findParameter_units {name : JsString} {stops : UInt16 → Bool} {text value : JsString}
    (found : findParameter name stops text = some value) : ∀ unit ∈ value, stops unit = false := by
  obtain ⟨tail, -, matched⟩ := List.exists_of_findSome?_eq_some found
  split at matched
  · exact matchQuoted_units matched
  · cases matched

end Js
