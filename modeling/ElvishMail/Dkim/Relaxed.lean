import Mathlib.Logic.Relation
import ElvishMail.Go.Lines
import ElvishMail.Dkim.Sign

/-!
# The relaxed form of a body

RFC 6376 gives the relaxed form of a body by its lines: blanks at the end of a line are
ignored, other runs of blanks become one space, and empty lines at the end of the body are
ignored. `canonBodyRelaxed` works on the whole text with replacements and a trim; on bodies
whose carriage returns are all in line ends it computes that form.
-/

namespace ElvishMail.Dkim

open Go

def words (line : GoString) : List GoString :=
  (line.splitOnP isBlank).filter (!·.isEmpty)

/-- A line with one space for a run of blanks, and without the run at its end. -/
def relaxedLine (line : GoString) : GoString :=
  match words line with
  | [] => []
  | first :: others =>
    (if line.head?.any isBlank then [0x20] else []) ++ join (first :: others) [0x20]

def relaxedLines (body : GoString) : List GoString :=
  ((textLines body).map relaxedLine).rdropWhile (· == [])

/-- The relaxed form of a body: every line that is left ends with CRLF. -/
def relaxedBody (body : GoString) : GoString := (relaxedLines body).flatMap (· ++ crlf)

section Line

variable {byte : UInt8} {line rest : GoString}

@[simp] theorem words_nil : words [] = [] := rfl

theorem words_blank (blank : isBlank byte = true) (rest : GoString) :
    words (byte :: rest) = words rest := by
  rw [words, List.splitOnP_cons_eq_if_modifyHead, if_pos blank]
  rfl

theorem splitOnP_plain (plain : isBlank byte = false) (rest : GoString) :
    (byte :: rest).splitOnP isBlank = (rest.splitOnP isBlank).modifyHead (byte :: ·) := by
  rw [List.splitOnP_cons_eq_if_modifyHead, if_neg (by simp [plain])]

theorem words_last (plain : isBlank byte = false) : words [byte] = [[byte]] := by
  rw [words, splitOnP_plain plain]
  rfl

theorem words_stop (plain : isBlank byte = false) {next : UInt8} (blank : isBlank next = true) :
    words (byte :: next :: rest) = [byte] :: words rest := by
  rw [words, splitOnP_plain plain, List.splitOnP_cons_eq_if_modifyHead, if_pos blank]
  rfl

theorem words_go_on (plain : isBlank byte = false) {next : UInt8} (also : isBlank next = false) :
    words (byte :: next :: rest) = (words (next :: rest)).modifyHead (byte :: ·) ∧
      words (next :: rest) ≠ [] := by
  rw [words, words, splitOnP_plain plain, splitOnP_plain also]
  cases pieces : rest.splitOnP isBlank with
  | nil => exact absurd pieces (List.splitOnP_ne_nil _ _)
  | cons first others => exact ⟨rfl, List.cons_ne_nil _ _⟩

theorem words_append {byte : UInt8} (blank : isBlank byte = true) (front rest : GoString) :
    words (front ++ byte :: rest) = words front ++ words rest := by
  rw [words, List.splitOnP_append_cons front rest blank, List.filter_append]
  rfl

theorem join_modifyHead {pieces : List GoString} (some : pieces ≠ []) (separator : GoString) :
    join (pieces.modifyHead (byte :: ·)) separator = byte :: join pieces separator := by
  match pieces with
  | [] => exact absurd rfl some
  | [piece] => simp [join, List.intercalate_singleton]
  | piece :: next :: others => simp [join, List.intercalate_cons_cons]

theorem join_words_eq_nil : join (words line) [0x20] = [] ↔ words line = [] := by
  have solid : [] ∉ words line := by simp [words]
  match pieces : words line with
  | [] => exact iff_of_true rfl rfl
  | [piece] =>
    rw [join, List.intercalate_singleton]
    refine iff_of_false (fun empty => solid ?_) (List.cons_ne_nil _ _)
    rw [pieces, empty]
    exact List.mem_cons_self ..
  | piece :: next :: others =>
    refine iff_of_false ?_ (List.cons_ne_nil _ _)
    simp [join, List.intercalate_cons_cons]

theorem relaxedLine_eq (line : GoString) :
    relaxedLine line =
      (if words line ≠ [] ∧ line.head?.any isBlank = true then [0x20] else []) ++
        join (words line) [0x20] := by
  rw [relaxedLine]
  split
  next empty => rw [empty, if_neg fun both => both.1 rfl]; rfl
  next first others pieces => rw [pieces]; simp

theorem relaxedLine_blank (blank : isBlank byte = true) (rest : GoString) :
    relaxedLine (byte :: rest) =
      if words rest = [] then [] else [0x20] ++ join (words rest) [0x20] := by
  rw [relaxedLine_eq, words_blank blank]
  split_ifs with first second second
  · exact absurd second first.1
  · rfl
  · rw [second]; rfl
  · exact absurd ⟨second, by simpa using blank⟩ first

theorem relaxedLine_plain_eq (plain : isBlank byte = false) (rest : GoString) :
    relaxedLine (byte :: rest) = join (words (byte :: rest)) [0x20] := by
  rw [relaxedLine_eq, if_neg fun both => by simp [plain] at both, List.nil_append]

theorem relaxedLine_plain (plain : isBlank byte = false) (rest : GoString) :
    relaxedLine (byte :: rest) = byte :: relaxedLine rest := by
  rw [relaxedLine_plain_eq plain]
  cases rest with
  | nil => rw [words_last plain]; rfl
  | cons next rest =>
    cases blank : isBlank next with
    | true =>
      rw [words_stop plain blank, relaxedLine_blank blank]
      cases pieces : words rest with
      | nil => rfl
      | cons first others => simp [join, List.intercalate_cons_cons]
    | false =>
      obtain ⟨longer, some⟩ := @words_go_on _ rest plain _ blank
      rw [longer, join_modifyHead some, relaxedLine_plain_eq blank]

theorem collapseBlanks_trimmed (line : GoString) :
    (collapseBlanks false line).rdropWhile isBlank = relaxedLine line ∧
      (collapseBlanks true line).rdropWhile isBlank = join (words line) [0x20] := by
  induction line with
  | nil => exact ⟨rfl, rfl⟩
  | cons byte rest ih =>
    obtain ⟨afterPlain, afterBlank⟩ := ih
    cases blank : isBlank byte with
    | true =>
      simp only [collapseBlanks, blank, if_true, Bool.false_eq_true, if_false, List.nil_append,
        List.singleton_append, words_blank blank, relaxedLine_blank blank]
      refine ⟨?_, afterBlank⟩
      have space : isBlank 0x20 = true := rfl
      rw [rdropWhile_cons, afterBlank]
      simp only [join_words_eq_nil, space, and_true]
    | false =>
      have both (prevWS : Bool) :
          (collapseBlanks prevWS (byte :: rest)).rdropWhile isBlank = relaxedLine (byte :: rest) := by
        rw [collapseBlanks, blank, if_neg Bool.false_ne_true, rdropWhile_cons,
          if_neg fun both => by simp [blank] at both, afterPlain, relaxedLine_plain blank]
      exact ⟨both false, (both true).trans (relaxedLine_plain_eq blank rest)⟩

theorem canonRelaxedBodyLine_eq (line : GoString) : canonRelaxedBodyLine line = relaxedLine line :=
  (collapseBlanks_trimmed line).1

end Line

/-- A body with its line ends turned into CRLF, as the source does it. -/
def normalised (body : GoString) : GoString :=
  replaceAll (replaceAll body [0x0A] crlf) [0x0D, 0x0D, 0x0A] crlf

section Body

variable {byte : UInt8} {body rest : GoString}

@[simp] theorem replaceAll_feed (rest : GoString) :
    replaceAll (lf :: rest) [0x0A] crlf = cr :: lf :: replaceAll rest [0x0A] crlf := rfl

theorem replaceAll_plain (plain : byte ≠ lf) (rest : GoString) :
    replaceAll (byte :: rest) [0x0A] crlf = byte :: replaceAll rest [0x0A] crlf := by
  have other : ¬[0x0A].isPrefixOf (byte :: rest) = true := by
    simp only [List.isPrefixOf_cons_cons, Bool.and_eq_true, beq_iff_eq, not_and]
    exact fun same => absurd same.symm plain
  rw [replaceAll, replaceScan, if_neg other]
  rfl

theorem replaceAll_doubled (rest : GoString) :
    replaceAll (cr :: cr :: lf :: rest) [0x0D, 0x0D, 0x0A] crlf =
      cr :: lf :: replaceAll rest [0x0D, 0x0D, 0x0A] crlf := rfl

theorem replaceAll_single (rest : GoString) :
    replaceAll (cr :: lf :: rest) [0x0D, 0x0D, 0x0A] crlf =
      cr :: lf :: replaceAll rest [0x0D, 0x0D, 0x0A] crlf := rfl

theorem replaceAll_other (plain : byte ≠ cr) (rest : GoString) :
    replaceAll (byte :: rest) [0x0D, 0x0D, 0x0A] crlf =
      byte :: replaceAll rest [0x0D, 0x0D, 0x0A] crlf := by
  have other : ¬[0x0D, 0x0D, 0x0A].isPrefixOf (byte :: rest) = true := by
    simp only [List.isPrefixOf_cons_cons, Bool.and_eq_true, beq_iff_eq, not_and]
    exact fun same => absurd same.symm plain
  rw [replaceAll, replaceScan, if_neg other]
  rfl

theorem consPiece_eq {pieces : List GoString} (some : pieces ≠ []) :
    consPiece byte pieces = pieces.modifyHead (byte :: ·) := by
  cases pieces with
  | nil => exact absurd rfl some
  | cons first others => rfl

theorem crlfLines_ne_nil (text : GoString) : crlfLines text ≠ [] := by
  fun_cases crlfLines text with
  | case1 => exact List.cons_ne_nil _ _
  | case2 => exact List.cons_ne_nil _ _
  | case3 => exact List.cons_ne_nil _ _
  | case4 byte next rest => cases crlfLines (next :: rest) <;> exact List.cons_ne_nil _ _

theorem crlfLines_other (plain : byte ≠ cr) (rest : GoString) :
    crlfLines (byte :: rest) = (crlfLines rest).modifyHead (byte :: ·) := by
  cases rest with
  | nil => rfl
  | cons next rest =>
    rw [crlfLines, if_neg fun both => plain both.1, consPiece_eq (crlfLines_ne_nil _)]

theorem crlfLines_normalised (paired : Paired body) :
    crlfLines (normalised body) = textLines body := by
  induction body using lines_induction with
  | nil => rfl
  | feed rest ih =>
    rw [normalised, replaceAll_feed, replaceAll_single, textLines_lf,
      ← ih paired.2]
    rfl
  | both rest ih =>
    rw [normalised, replaceAll_plain (by decide), replaceAll_feed, replaceAll_doubled,
      textLines_crlf, ← ih paired.2.2]
    rfl
  | plain byte rest plain alone ih =>
    have other := paired.plain alone
    rw [normalised, replaceAll_plain plain, replaceAll_other other, crlfLines_other other,
      textLines_other plain alone, ← ih paired.2]
    rfl

theorem mem_collapseBlanks {line : GoString} {prevWS : Bool}
    (mem : byte ∈ collapseBlanks prevWS line) : byte = 0x20 ∨ byte ∈ line := by
  induction line generalizing prevWS with
  | nil => cases mem
  | cons first rest ih =>
    rw [collapseBlanks] at mem
    split at mem
    next blank =>
      rcases List.mem_append.mp mem with mem | mem
      · split at mem
        next => cases mem
        next => exact .inl (List.mem_singleton.mp mem)
      · exact (ih mem).imp_right (List.mem_cons_of_mem _)
    next plain =>
      rcases List.mem_cons.mp mem with rfl | mem
      · exact .inr (List.mem_cons_self ..)
      · exact (ih mem).imp_right (List.mem_cons_of_mem _)

theorem mem_relaxedLine {line : GoString} (mem : byte ∈ relaxedLine line) :
    byte = 0x20 ∨ byte ∈ line := by
  rw [← canonRelaxedBodyLine_eq] at mem
  exact mem_collapseBlanks ((List.rdropWhile_prefix _ _).subset mem)

/-- Whether `trimRightCRLF` takes a byte away. -/
def isEnd (byte : UInt8) : Bool := byte == 0x0D || byte == 0x0A

theorem not_isEnd_relaxed {line : GoString} (paired : Paired body)
    (listed : line ∈ (textLines body).map relaxedLine) (mem : byte ∈ line) : isEnd byte = false := by
  obtain ⟨origin, read, rfl⟩ := List.mem_map.mp listed
  obtain ⟨noFeed, noReturn⟩ := within_line read
  rcases mem_relaxedLine mem with rfl | inside
  · rfl
  · have notReturn : byte ≠ cr := fun same => noReturn paired (same ▸ inside)
    have notFeed : byte ≠ lf := fun same => noFeed (same ▸ inside)
    exact Bool.or_eq_false_iff.mpr ⟨beq_eq_false_iff_ne.mpr notReturn, beq_eq_false_iff_ne.mpr notFeed⟩

theorem join_concat (lines : List GoString) (last : GoString) :
    join (lines ++ [last]) crlf = lines.flatMap (· ++ crlf) ++ last := by
  induction lines with
  | nil => exact List.intercalate_singleton
  | cons line lines ih =>
    rw [join] at *
    rw [List.cons_append, List.intercalate_cons_of_ne_nil (by simp), ih,
      List.flatMap_cons]
    simp only [List.append_assoc]

theorem trimRightCRLF_crlf (text : GoString) : trimRightCRLF (text ++ crlf) = trimRightCRLF text := by
  rw [trimRightCRLF, List.reverse_append]
  rfl

theorem trimRightCRLF_append {line : GoString} (some : line ≠ [])
    (inside : ∀ byte ∈ line, isEnd byte = false) (front : GoString) :
    trimRightCRLF (front ++ line) = front ++ line := by
  refine List.rdropWhile_eq_self_iff.mpr fun nonempty => ?_
  rw [List.getLast_append_of_ne_nil _ some]
  exact Bool.eq_false_iff.mp (inside _ (List.getLast_mem some))

theorem trimmed_lines (lines : List GoString)
    (inside : ∀ line ∈ lines, ∀ byte ∈ line, isEnd byte = false) :
    (let canon := trimRightCRLF (join lines crlf)
     if canon.length > 0 then canon ++ crlf else canon) =
      (lines.rdropWhile (· == [])).flatMap (· ++ crlf) := by
  induction lines using List.reverseRecOn with
  | nil => rfl
  | append_singleton lines last ih =>
    rw [join_concat]
    cases last with
    | nil =>
      rw [List.rdropWhile_concat_pos _ _ _ rfl, List.append_nil,
        ← ih fun line mem => inside line (List.mem_append_left _ mem)]
      rcases List.eq_nil_or_concat lines with rfl | ⟨front, line, rfl⟩
      · rfl
      · rw [List.concat_eq_append, join_concat, List.flatMap_append, List.flatMap_singleton,
          ← List.append_assoc,
          trimRightCRLF_crlf]
    | cons byte rest =>
      have solid := inside (byte :: rest) (List.mem_append_right _ (List.mem_singleton_self _))
      rw [trimRightCRLF_append (List.cons_ne_nil _ _) solid,
        List.rdropWhile_concat_neg _ _ _ (by simp), List.flatMap_append, List.flatMap_singleton,
        ← List.append_assoc]
      exact if_pos (List.length_pos_of_ne_nil (by simp))

theorem canonBodyRelaxed_eq (paired : Paired body) : canonBodyRelaxed body = relaxedBody body := by
  have lines : (crlfLines (normalised body)).map canonRelaxedBodyLine =
      (textLines body).map relaxedLine := by
    rw [crlfLines_normalised paired, funext canonRelaxedBodyLine_eq]
  have trimmed := trimmed_lines ((textLines body).map relaxedLine)
    fun line listed byte mem => not_isEnd_relaxed paired listed mem
  rw [← lines] at trimmed
  rw [relaxedBody, relaxedLines, ← lines, ← trimmed]
  rfl

end Body

/-- One change to a body that its relaxed form does not show: other blanks for a run of
blanks, no blanks at the end of a line, the other line end, or a line end more at the end. -/
inductive Edit : GoString → GoString → Prop where
  | blanks (before after : GoString) {run other : GoString} (some : run ≠ [])
      (blank : ∀ byte ∈ run, isBlank byte = true) (otherSome : other ≠ [])
      (otherBlank : ∀ byte ∈ other, isBlank byte = true) :
      Edit (before ++ (run ++ after)) (before ++ (other ++ after))
  | trailing (before : GoString) {run after : GoString} (blank : ∀ byte ∈ run, isBlank byte = true)
      (stop : after = [] ∨ [lf] <+: after ∨ [cr, lf] <+: after) :
      Edit (before ++ (run ++ after)) (before ++ after)
  | lineEnd (before after : GoString) : Edit (before ++ lf :: after) (before ++ cr :: lf :: after)
  | blankLine (body : GoString) : Edit body (body ++ [lf])

/-- An edit between bodies whose carriage returns are all in line ends. -/
def PairedEdit (body other : GoString) : Prop := Paired body ∧ Paired other ∧ Edit body other

section Edits

variable {run before after body other : GoString}

theorem blank_inside (blank : ∀ byte ∈ run, isBlank byte = true) :
    ∀ byte ∈ run, byte ≠ lf ∧ byte ≠ cr := by
  intro byte mem
  have solid := blank byte mem
  constructor <;> rintro rfl <;> exact absurd solid (by decide)

theorem words_run (blank : ∀ byte ∈ run, isBlank byte = true) (rest : GoString) :
    words (run ++ rest) = words rest := by
  induction run with
  | nil => rfl
  | cons byte run ih =>
    rw [List.cons_append, words_blank (blank byte (List.mem_cons_self ..)),
      ih fun next mem => blank next (List.mem_cons_of_mem _ mem)]

theorem words_around (some : run ≠ []) (blank : ∀ byte ∈ run, isBlank byte = true)
    (front rest : GoString) : words (front ++ (run ++ rest)) = words front ++ words rest := by
  cases run with
  | nil => exact absurd rfl some
  | cons byte run =>
    rw [List.cons_append, words_append (blank byte (List.mem_cons_self ..)),
      words_run fun next mem => blank next (List.mem_cons_of_mem _ mem)]

theorem relaxedLine_run {other : GoString} (some : run ≠ [])
    (blank : ∀ byte ∈ run, isBlank byte = true) (otherSome : other ≠ [])
    (otherBlank : ∀ byte ∈ other, isBlank byte = true) (front rest : GoString) :
    relaxedLine (front ++ (run ++ rest)) = relaxedLine (front ++ (other ++ rest)) := by
  have heads : (front ++ (run ++ rest)).head?.any isBlank =
      (front ++ (other ++ rest)).head?.any isBlank := by
    match front, run, other with
    | byte :: front, _, _ => rfl
    | [], first :: run, next :: other =>
      exact (blank first (List.mem_cons_self ..)).trans
        (otherBlank next (List.mem_cons_self ..)).symm
    | [], [], _ => exact absurd rfl some
    | [], _, [] => exact absurd rfl otherSome
  rw [relaxedLine_eq, relaxedLine_eq, words_around some blank, words_around otherSome otherBlank,
    heads]

theorem relaxedLine_trailing (blank : ∀ byte ∈ run, isBlank byte = true) (front : GoString) :
    relaxedLine (front ++ run) = relaxedLine front := by
  have same : words (front ++ run) = words front := by
    cases run with
    | nil => rw [List.append_nil]
    | cons byte run =>
      have around := words_around (List.cons_ne_nil _ _) blank front []
      simpa using around
  rw [relaxedLine_eq, relaxedLine_eq, same]
  cases front with
  | nil => rfl
  | cons byte front => rfl

theorem textLines_around {lines others : List GoString} {last first : GoString}
    (front : textLines before = lines ++ [last]) (back : textLines after = first :: others)
    (some : run ≠ []) (inside : ∀ byte ∈ run, byte ≠ lf ∧ byte ≠ cr) :
    textLines (before ++ (run ++ after)) = lines ++ (last ++ (run ++ first)) :: others := by
  have whole : before.getLast? = Option.some cr → (run ++ after).head? ≠ Option.some lf := by
    cases run with
    | nil => exact absurd rfl some
    | cons byte run =>
      exact fun _ same => (inside byte (List.mem_cons_self ..)).1 (Option.some.inj same)
  rw [textLines_append whole, textLines_inside inside, front, back]
  exact glue_concat lines others last (run ++ first)

theorem textLines_stop (stop : after = [] ∨ [lf] <+: after ∨ [cr, lf] <+: after) :
    ∃ others, textLines after = [] :: others := by
  rcases stop with rfl | ⟨rest, rfl⟩ | ⟨rest, rfl⟩
  · exact ⟨_, rfl⟩
  · exact ⟨_, textLines_lf rest⟩
  · exact ⟨_, textLines_crlf rest⟩

theorem relaxedLines_edit (edit : PairedEdit body other) : relaxedLines body = relaxedLines other := by
  obtain ⟨paired, otherPaired, edit⟩ := edit
  cases edit with
  | blanks before after some blank otherSome otherBlank =>
    obtain ⟨lines, last, front⟩ := textLines_last before
    obtain ⟨first, others, back⟩ := textLines_first after
    rw [relaxedLines, relaxedLines, textLines_around front back some (blank_inside blank),
      textLines_around front back otherSome (blank_inside otherBlank)]
    simp only [List.map_append, List.map_cons, relaxedLine_run some blank otherSome otherBlank]
  | @trailing before run after blank stop =>
    by_cases none : run = []
    · rw [none]; rfl
    obtain ⟨lines, last, front⟩ := textLines_last before
    obtain ⟨others, back⟩ := textLines_stop stop
    have whole : before.getLast? ≠ some cr := by
      intro same
      have feed := paired.cut same
      cases run with
      | nil => exact none rfl
      | cons byte run =>
        exact (blank_inside blank byte (List.mem_cons_self ..)).1 (Option.some.inj feed)
    rw [relaxedLines, relaxedLines, textLines_around front back none (blank_inside blank),
      textLines_cut front back whole]
    simp only [List.map_append, List.map_cons, List.append_nil, relaxedLine_trailing blank]
  | lineEnd before after =>
    obtain ⟨lines, last, front⟩ := textLines_last before
    have whole : before.getLast? ≠ some cr := fun same =>
      absurd (Option.some.inj (otherPaired.cut same)) (by decide)
    rw [relaxedLines, relaxedLines, textLines_cut front (textLines_lf after) whole,
      textLines_cut front (textLines_crlf after) whole]
  | blankLine =>
    obtain ⟨lines, last, front⟩ := textLines_last body
    rw [relaxedLines, relaxedLines, textLines_cut front (textLines_lf []) paired.whole,
      List.append_nil, List.append_cons, ← front, List.map_append]
    exact (List.rdropWhile_concat_pos _ _ _ rfl).symm

end Edits

/-- A body whose carriage returns are all in line ends is hashed in its relaxed form, and
bodies that differ in blanks, in line ends or in blank lines at the end have one hash. -/
theorem bodyHashRelaxed_canonical (body : GoString) (paired : Paired body) :
    canonBodyRelaxed body = relaxedBody body ∧
      ∀ platform, bodyHashRelaxed platform body = platform.sha256 (relaxedBody body) ∧
        ∀ other, Relation.EqvGen PairedEdit body other →
          bodyHashRelaxed platform other = bodyHashRelaxed platform body := by
  have hashed (platform : Platform) {body : GoString} (paired : Paired body) :
      bodyHashRelaxed platform body = platform.sha256 (relaxedBody body) :=
    congrArg platform.sha256 (canonBodyRelaxed_eq paired)
  refine ⟨canonBodyRelaxed_eq paired, fun platform => ⟨hashed platform paired, ?_⟩⟩
  intro other edits
  clear paired
  induction edits with
  | rel body other edit =>
    rw [hashed platform edit.1, hashed platform edit.2.1, relaxedBody, relaxedBody,
      relaxedLines_edit edit]
  | refl => rfl
  | symm _ _ _ ih => exact ih.symm
  | trans _ _ _ _ _ first second => exact second.trans first

/-- Mixed line ends, a run of blanks, blanks at the end and empty lines. -/
theorem bodyHashRelaxed_canonical_mixed :
    canonBodyRelaxed (ascii "a \t b \n c\r\n \r\n\n") =
        relaxedBody (ascii "a \t b \n c\r\n \r\n\n") ∧
      relaxedBody (ascii "a \t b \n c\r\n \r\n\n") = ascii "a b\r\n c\r\n" :=
  ⟨(bodyHashRelaxed_canonical _ (by decide)).1, by decide⟩

end ElvishMail.Dkim
