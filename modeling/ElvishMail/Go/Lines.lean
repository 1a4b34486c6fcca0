import ElvishMail.Go.Runes

/-!
# Lines of a message

A line ends with a line feed, or with a carriage return and a line feed, and what follows the
last of them is one more line, which may be empty. `textLines` is how a receiver reads a text;
`Paired` texts have carriage returns in line ends only; `emptyLine` is where a header ends.
-/

namespace Go

def cr : UInt8 := 0x0D

def lf : UInt8 := 0x0A

def textLines : GoString → List GoString
  | [] => [[]]
  | byte :: rest =>
    if byte = lf then [] :: textLines rest
    else if byte = cr ∧ rest.head? = some lf then textLines rest
    else (textLines rest).modifyHead (byte :: ·)

/-- Every carriage return is followed by a line feed. -/
def Paired : GoString → Prop
  | [] => True
  | byte :: rest => (byte = cr → rest.head? = some lf) ∧ Paired rest

instance decidablePaired : DecidablePred Paired
  | [] => .isTrue trivial
  | byte :: rest =>
    have := decidablePaired rest
    inferInstanceAs (Decidable ((byte = cr → rest.head? = some lf) ∧ Paired rest))

theorem rdropWhile_cons {α : Type} (drops : α → Bool) (first : α) (rest : List α) :
    (first :: rest).rdropWhile drops =
      if rest.rdropWhile drops = [] ∧ drops first = true then [] else first :: rest.rdropWhile drops := by
  rw [List.rdropWhile, List.reverse_cons, List.dropWhile_append]
  by_cases none : (rest.reverse.dropWhile drops).isEmpty = true
  · have gone : rest.rdropWhile drops = [] := by
      rw [List.rdropWhile, List.isEmpty_iff.mp none]
      rfl
    rw [if_pos none, gone]
    by_cases dropped : drops first = true
    · rw [if_pos ⟨rfl, dropped⟩, List.dropWhile_cons_of_pos dropped]
      rfl
    · rw [if_neg fun both => dropped both.2, List.dropWhile_cons_of_neg dropped]
      rfl
  · have stays : rest.rdropWhile drops ≠ [] := fun gone =>
      none (List.isEmpty_iff.mpr (List.reverse_eq_nil_iff.mp gone))
    rw [if_neg none, if_neg fun both => stays both.1, List.reverse_append]
    rfl

theorem first_unique {byte : UInt8} {front rest other more : GoString}
    (same : front ++ byte :: rest = other ++ byte :: more) (absent : byte ∉ front)
    (otherAbsent : byte ∉ other) : front = other ∧ rest = more := by
  rcases List.append_eq_append_iff.mp same with ⟨between, rfl, later⟩ | ⟨between, rfl, later⟩
  · cases between with
    | nil => exact ⟨(List.append_nil _).symm, (List.cons.inj later).2⟩
    | cons first between =>
      obtain ⟨rfl, -⟩ := List.cons.inj later
      simp at otherAbsent
  · cases between with
    | nil => exact ⟨List.append_nil _, (List.cons.inj later).2.symm⟩
    | cons first between =>
      obtain ⟨rfl, -⟩ := List.cons.inj later
      simp at absent

section Lines

variable {text rest other : GoString} {byte : UInt8}

@[simp] theorem textLines_lf (rest : GoString) : textLines (lf :: rest) = [] :: textLines rest :=
  if_pos rfl

@[simp] theorem textLines_crlf (rest : GoString) :
    textLines (cr :: lf :: rest) = [] :: textLines rest := by
  rw [textLines, if_neg (by decide), if_pos ⟨rfl, rfl⟩, textLines_lf]

theorem textLines_other (plain : byte ≠ lf) (alone : byte = cr → rest.head? ≠ some lf) :
    textLines (byte :: rest) = (textLines rest).modifyHead (byte :: ·) := by
  rw [textLines, if_neg plain, if_neg fun both => alone both.1 both.2]

theorem lines_induction {Holds : GoString → Prop} (nil : Holds [])
    (feed : ∀ rest, Holds rest → Holds (lf :: rest))
    (both : ∀ rest, Holds rest → Holds (cr :: lf :: rest))
    (plain : ∀ byte rest, byte ≠ lf → (byte = cr → rest.head? ≠ some lf) → Holds rest →
      Holds (byte :: rest)) (text : GoString) : Holds text := by
  induction h : text.length using Nat.strong_induction_on generalizing text with
  | _ size ih =>
    cases text with
    | nil => exact nil
    | cons byte rest =>
      have shorter : rest.length < size := by simp only [← h, List.length_cons]; omega
      by_cases isFeed : byte = lf
      · rw [isFeed]
        exact feed rest (ih _ shorter rest rfl)
      · by_cases carriage : byte = cr ∧ rest.head? = some lf
        · obtain ⟨rfl, followed⟩ := carriage
          cases rest with
          | nil => cases followed
          | cons next rest =>
            cases followed
            refine both rest (ih rest.length ?_ rest rfl)
            simp only [List.length_cons] at shorter
            omega
        · exact plain byte rest isFeed (fun same followed => carriage ⟨same, followed⟩)
            (ih _ shorter rest rfl)

theorem textLines_ne_nil (text : GoString) : textLines text ≠ [] := by
  induction text using lines_induction with
  | nil => exact List.cons_ne_nil _ _
  | feed rest _ => simp
  | both rest _ => simp
  | plain byte rest plain alone ih =>
    rw [textLines_other plain alone]
    cases lines : textLines rest with
    | nil => exact absurd lines ih
    | cons line others => simp

theorem textLines_length (text : GoString) : (textLines text).length = text.count lf + 1 := by
  induction text using lines_induction with
  | nil => rfl
  | feed rest ih => simp [ih]
  | both rest ih =>
    have other : cr ≠ lf := by decide
    simp [ih, other]
  | plain byte rest plain alone ih =>
    rw [textLines_other plain alone, List.length_modifyHead, ih,
      List.count_cons_of_ne plain]

/-- The lines of a text in two parts: the last line of the first part goes on with the first
line of the second. -/
def glue : List GoString → List GoString → List GoString
  | [], lines => lines
  | [last], lines => lines.modifyHead (last ++ ·)
  | line :: next :: rest, lines => line :: glue (next :: rest) lines

theorem glue_cons {line : GoString} {lines others : List GoString} (more : lines ≠ []) :
    glue (line :: lines) others = line :: glue lines others := by
  cases lines with
  | nil => exact absurd rfl more
  | cons next rest => rfl

theorem glue_modifyHead {lines others : List GoString} (some : lines ≠ []) (other : others ≠ []) :
    glue (lines.modifyHead (byte :: ·)) others = (glue lines others).modifyHead (byte :: ·) := by
  match lines, others with
  | [], _ => exact absurd rfl some
  | _, [] => exact absurd rfl other
  | [line], head :: rest => rfl
  | line :: next :: rest, head :: others => rfl

theorem glue_concat (lines others : List GoString) (last first : GoString) :
    glue (lines ++ [last]) (first :: others) = lines ++ (last ++ first) :: others := by
  induction lines with
  | nil => rfl
  | cons line lines ih =>
    rw [List.cons_append, glue_cons (by simp), ih, List.cons_append]

theorem textLines_append (whole : text.getLast? = some cr → other.head? ≠ some lf) :
    textLines (text ++ other) = glue (textLines text) (textLines other) := by
  have hereditary (front rest : GoString)
      (whole : (front ++ rest).getLast? = some cr → other.head? ≠ some lf)
      (last : rest.getLast? = some cr) : other.head? ≠ some lf :=
    whole (by rw [List.getLast?_append, last]; rfl)
  induction text using lines_induction with
  | nil =>
    cases lines : textLines other with
    | nil => exact absurd lines (textLines_ne_nil other)
    | cons line rest => simp [textLines, glue, lines]
  | feed rest ih =>
    rw [List.cons_append, textLines_lf, textLines_lf, glue_cons (textLines_ne_nil rest),
      ih (hereditary [lf] rest whole)]
  | both rest ih =>
    rw [List.cons_append, List.cons_append, textLines_crlf, textLines_crlf,
      glue_cons (textLines_ne_nil rest), ih (hereditary [cr, lf] rest whole)]
  | plain byte rest plain alone ih =>
    have apart : byte = cr → (rest ++ other).head? ≠ some lf := by
      cases rest with
      | nil => exact fun same => whole (congrArg (List.getLast? [·]) same)
      | cons next rest => exact alone
    rw [List.cons_append, textLines_other plain apart, textLines_other plain alone,
      glue_modifyHead (textLines_ne_nil rest) (textLines_ne_nil other),
      ih (hereditary [byte] rest whole)]

theorem within_line {line : GoString} (mem : line ∈ textLines text) :
    lf ∉ line ∧ (Paired text → cr ∉ line) := by
  induction text using lines_induction generalizing line with
  | nil =>
    rw [List.mem_singleton.mp mem]
    exact ⟨List.not_mem_nil, fun _ => List.not_mem_nil⟩
  | feed rest ih =>
    rw [textLines_lf] at mem
    rcases List.mem_cons.mp mem with rfl | mem
    · exact ⟨List.not_mem_nil, fun _ => List.not_mem_nil⟩
    · exact (ih mem).imp_right fun absent paired => absent paired.2
  | both rest ih =>
    rw [textLines_crlf] at mem
    rcases List.mem_cons.mp mem with rfl | mem
    · exact ⟨List.not_mem_nil, fun _ => List.not_mem_nil⟩
    · exact (ih mem).imp_right fun absent paired => absent paired.2.2
  | plain byte rest plain alone ih =>
    rw [textLines_other plain alone] at mem
    cases lines : textLines rest with
    | nil => exact absurd lines (textLines_ne_nil rest)
    | cons first others =>
      rw [lines] at ih mem
      rcases List.mem_cons.mp mem with rfl | mem
      · obtain ⟨noFeed, noReturn⟩ := ih (List.mem_cons_self ..)
        refine ⟨by simp [plain.symm, noFeed], fun paired => ?_⟩
        have other : cr ≠ byte := fun same => alone same.symm (paired.1 same.symm)
        simp [other, noReturn paired.2]
      · obtain ⟨noFeed, noReturn⟩ := ih (List.mem_cons_of_mem _ mem)
        exact ⟨noFeed, fun paired => noReturn paired.2⟩

theorem Paired.plain (paired : Paired (byte :: rest)) (alone : byte = cr → rest.head? ≠ some lf) :
    byte ≠ cr :=
  fun same => alone same (paired.1 same)

theorem Paired.whole (paired : Paired text) : text.getLast? ≠ some cr := by
  induction text with
  | nil => exact nofun
  | cons byte rest ih =>
    cases rest with
    | nil =>
      intro same
      exact nomatch paired.1 (Option.some.inj same)
    | cons next rest =>
      rw [List.getLast?_cons_cons]
      exact ih paired.2

theorem Paired.cut (paired : Paired (text ++ other)) (last : text.getLast? = some cr) :
    other.head? = some lf := by
  induction text with
  | nil => cases last
  | cons byte rest ih =>
    cases rest with
    | nil => exact paired.1 (Option.some.inj last)
    | cons next rest =>
      rw [List.getLast?_cons_cons] at last
      exact ih paired.2 last

theorem textLines_inside {run : GoString} (inside : ∀ byte ∈ run, byte ≠ lf ∧ byte ≠ cr)
    (rest : GoString) : textLines (run ++ rest) = (textLines rest).modifyHead (run ++ ·) := by
  induction run with
  | nil =>
    cases lines : textLines rest with
    | nil => exact absurd lines (textLines_ne_nil rest)
    | cons line others => simp [lines]
  | cons byte run ih =>
    obtain ⟨plain, other⟩ := inside byte (List.mem_cons_self ..)
    rw [List.cons_append, textLines_other plain fun same => absurd same other,
      ih fun next mem => inside next (List.mem_cons_of_mem _ mem)]
    cases textLines rest <;> rfl

theorem textLines_cut {lines others : List GoString} {last first : GoString}
    (front : textLines text = lines ++ [last]) (back : textLines other = first :: others)
    (whole : text.getLast? ≠ some cr) :
    textLines (text ++ other) = lines ++ (last ++ first) :: others := by
  rw [textLines_append fun same => absurd same whole, front, back, glue_concat]

theorem textLines_last (text : GoString) : ∃ lines last, textLines text = lines ++ [last] := by
  rcases List.eq_nil_or_concat (textLines text) with empty | ⟨lines, last, split⟩
  · exact absurd empty (textLines_ne_nil text)
  · exact ⟨lines, last, split.trans (List.concat_eq_append ..)⟩

theorem textLines_first (text : GoString) : ∃ first others, textLines text = first :: others :=
  List.exists_cons_of_ne_nil (textLines_ne_nil text)

theorem textLines_whole {line : GoString} (feedless : lf ∉ line) (rest : GoString) :
    textLines (line ++ cr :: lf :: rest) = line :: textLines rest := by
  induction line with
  | nil => exact textLines_crlf rest
  | cons byte line ih =>
    rw [List.mem_cons, not_or] at feedless
    have alone : (line ++ cr :: lf :: rest).head? ≠ some lf := by
      cases line with
      | nil => exact fun same => absurd (Option.some.inj same) (by decide)
      | cons next line =>
        intro same
        rw [← Option.some.inj same] at feedless
        exact feedless.2 (List.mem_cons_self ..)
    rw [List.cons_append, textLines_other (fun same => feedless.1 same.symm) fun _ => alone,
      ih feedless.2]
    rfl

theorem exists_lines (text : GoString) :
    ∃ (lines : List GoString) (last : GoString), (∀ line ∈ lines, lf ∉ line) ∧ lf ∉ last ∧
      text = lines.flatMap (· ++ [lf]) ++ last := by
  induction text with
  | nil => exact ⟨[], [], by simp, by simp, rfl⟩
  | cons byte text ih =>
    obtain ⟨lines, last, whole, feedless, split⟩ := ih
    by_cases feed : byte = lf
    · refine ⟨[] :: lines, last, List.forall_mem_cons.mpr ⟨by simp, whole⟩, feedless, ?_⟩
      rw [feed, split]
      rfl
    · cases lines with
      | nil =>
        refine ⟨[], byte :: last, by simp, ?_, by rw [split]; rfl⟩
        simp [feedless, Ne.symm feed]
      | cons line lines =>
        obtain ⟨first, others⟩ := List.forall_mem_cons.mp whole
        refine ⟨(byte :: line) :: lines, last, List.forall_mem_cons.mpr ⟨?_, others⟩, feedless, ?_⟩
        · simp [first, Ne.symm feed]
        · rw [split]
          rfl

theorem whole_lines_injective {lines others : List GoString} (feedless : ∀ line ∈ lines, lf ∉ line)
    (otherFeedless : ∀ line ∈ others, lf ∉ line)
    (same : lines.flatMap (· ++ [lf]) = others.flatMap (· ++ [lf])) : lines = others := by
  induction lines generalizing others with
  | nil =>
    cases others with
    | nil => rfl
    | cons other others => simp at same
  | cons line lines ih =>
    cases others with
    | nil => simp at same
    | cons other others =>
      obtain ⟨first, rest⟩ := List.forall_mem_cons.mp feedless
      obtain ⟨otherFirst, otherRest⟩ := List.forall_mem_cons.mp otherFeedless
      rw [List.flatMap_cons, List.flatMap_cons, List.append_assoc, List.append_assoc] at same
      obtain ⟨head, tail⟩ := first_unique same first otherFirst
      rw [head, ih rest otherRest tail]

theorem exists_whole_lines (ends : text = [] ∨ text.getLast? = some lf) :
    ∃ lines : List GoString, (∀ line ∈ lines, lf ∉ line) ∧ text = lines.flatMap (· ++ [lf]) := by
  obtain ⟨lines, last, whole, feedless, split⟩ := exists_lines text
  refine ⟨lines, whole, ?_⟩
  rcases List.eq_nil_or_concat last with rfl | ⟨front, byte, rfl⟩
  · rw [split, List.append_nil]
  · rcases ends with rfl | ends
    · simp at split
    · rw [split, List.concat_eq_append, ← List.append_assoc, List.getLast?_concat] at ends
      simp [Option.some.inj ends] at feedless

end Lines

/-- The first empty line of a text that starts at the start of a line, or inside one: what
comes before it, its line end, and what comes after it. -/
def emptyLine : Bool → GoString → Option (GoString × GoString × GoString)
  | _, [] => none
  | start, byte :: rest =>
    if start = true ∧ byte = lf then some ([], [lf], rest)
    else if start = true ∧ byte = cr ∧ rest.head? = some lf then some ([], [cr, lf], rest.tail)
    else (emptyLine (byte == lf) rest).map fun (before, ending, after) =>
      (byte :: before, ending, after)

section EmptyLine

variable {start : Bool} {text before ending after : GoString}

def LineEnd (ending : GoString) : Prop := ending = [lf] ∨ ending = [cr, lf]

theorem emptyLine_some (found : emptyLine start text = some (before, ending, after)) :
    text = before ++ (ending ++ after) ∧ LineEnd ending ∧
      (before = [] ∧ start = true ∨ before.getLast? = some lf) := by
  induction text generalizing start before with
  | nil => cases found
  | cons byte rest ih =>
    rw [emptyLine] at found
    split at found
    next feed =>
      cases found
      exact ⟨by rw [feed.2]; rfl, .inl rfl, .inl ⟨rfl, feed.1⟩⟩
    next =>
      split at found
      next both =>
        obtain ⟨atStart, carriage, followed⟩ := both
        cases rest with
        | nil => cases followed
        | cons next rest =>
          cases found
          cases followed
          exact ⟨by rw [carriage]; rfl, .inr rfl, .inl ⟨rfl, atStart⟩⟩
      next =>
        obtain ⟨⟨front, stop, rest'⟩, later, same⟩ := Option.map_eq_some_iff.mp found
        cases same
        obtain ⟨split, ends, place⟩ := ih later
        refine ⟨by rw [split]; rfl, ends, .inr ?_⟩
        rcases place with ⟨rfl, feed⟩ | last
        · exact congrArg some (beq_iff_eq.mp feed)
        · cases front with
          | nil => cases last
          | cons next front => exact last

theorem emptyLine_here (ends : LineEnd ending) (after : GoString) :
    emptyLine true (ending ++ after) = some ([], ending, after) := by
  rcases ends with rfl | rfl <;> rfl

theorem emptyLine_first (start : Bool) (ends : LineEnd ending) (front rest : GoString) :
    ∃ before stop after, emptyLine start (front ++ lf :: (ending ++ rest)) = some (before, stop, after) ∧
      before.length ≤ front.length + 1 := by
  induction front generalizing start with
  | nil =>
    rw [List.nil_append, emptyLine]
    split
    · exact ⟨_, _, _, rfl, Nat.zero_le _⟩
    · rw [if_neg fun both => absurd both.2.1 (by decide), beq_self_eq_true, emptyLine_here ends]
      exact ⟨_, _, _, rfl, Nat.le_refl _⟩
  | cons byte front ih =>
    rw [List.cons_append, emptyLine]
    split
    · exact ⟨_, _, _, rfl, Nat.zero_le _⟩
    · split
      · exact ⟨_, _, _, rfl, Nat.zero_le _⟩
      · obtain ⟨before, stop, after, found, bounded⟩ := ih (byte == lf)
        rw [found]
        exact ⟨_, _, _, rfl, Nat.succ_le_succ bounded⟩

end EmptyLine

section Places

variable {text pattern : GoString} {place : Nat}

theorem indexByte_eq_some {byte : UInt8} (found : indexByte text byte = some place) :
    ∃ front rest, text = front ++ byte :: rest ∧ front.length = place ∧ byte ∉ front := by
  induction text generalizing place with
  | nil => cases found
  | cons first text ih =>
    rw [indexByte, List.findIdx?_cons] at found
    split at found
    next same =>
      cases found
      exact ⟨[], text, by rw [beq_iff_eq.mp same]; rfl, rfl, List.not_mem_nil⟩
    next other =>
      obtain ⟨later, known, rfl⟩ := Option.map_eq_some_iff.mp found
      obtain ⟨front, rest, rfl, rfl, absent⟩ := ih known
      refine ⟨first :: front, rest, rfl, rfl, ?_⟩
      simp only [List.mem_cons, not_or]
      exact ⟨fun same => other (beq_iff_eq.mpr same.symm), absent⟩

theorem indexByte_eq_none {byte : UInt8} : indexByte text byte = none ↔ byte ∉ text := by
  rw [indexByte, List.findIdx?_eq_none_iff]
  constructor
  · intro every member
    simpa using every byte member
  · intro absent other member
    exact beq_false_of_ne fun same => absent (same ▸ member)

theorem index_le (pattern front rest : GoString) :
    ∃ place ≤ front.length, index (front ++ (pattern ++ rest)) pattern = some place := by
  induction front with
  | nil =>
    refine ⟨0, Nat.le_refl _, ?_⟩
    rw [List.nil_append]
    cases text : pattern ++ rest with
    | nil =>
      rw [(List.append_eq_nil_iff.mp text).1]
      rfl
    | cons byte others =>
      rw [index_cons, if_pos]
      rw [← text]
      exact List.isPrefixOf_iff_prefix.mpr (List.prefix_append ..)
  | cons byte front ih =>
    obtain ⟨place, bounded, found⟩ := ih
    rw [List.cons_append, index_cons, found]
    split
    · exact ⟨0, Nat.zero_le _, rfl⟩
    · exact ⟨place + 1, Nat.succ_le_succ bounded, rfl⟩

theorem index_some (found : index text pattern = some place) :
    ∃ front rest, text = front ++ (pattern ++ rest) ∧ front.length = place := by
  induction text generalizing place with
  | nil =>
    cases pattern with
    | nil =>
      cases found
      exact ⟨[], [], rfl, rfl⟩
    | cons byte pattern => cases found
  | cons byte text ih =>
    rw [index_cons] at found
    split at found
    next start =>
      cases found
      obtain ⟨rest, same⟩ := List.isPrefixOf_iff_prefix.mp start
      exact ⟨[], rest, same.symm, rfl⟩
    next =>
      obtain ⟨later, known, rfl⟩ := Option.map_eq_some_iff.mp found
      obtain ⟨front, rest, rfl, rfl⟩ := ih known
      exact ⟨byte :: front, rest, rfl, rfl⟩

theorem index_first (found : index text pattern = some place) {front rest : GoString}
    (split : text = front ++ (pattern ++ rest)) : place ≤ front.length := by
  obtain ⟨first, bounded, same⟩ := index_le pattern front rest
  rw [split, same] at found
  exact Option.some.inj found ▸ bounded

theorem index_none (missing : index text pattern = none) (front rest : GoString) :
    text ≠ front ++ (pattern ++ rest) := by
  rintro rfl
  obtain ⟨place, -, found⟩ := index_le pattern front rest
  exact nomatch found.symm.trans missing

end Places

end Go
