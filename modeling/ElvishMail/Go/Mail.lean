import ElvishMail.Go.Lowering
import ElvishMail.Go.Textproto

/-!
# `net/mail`

`mail.ReadMessage` over a message in memory. The header is read like that of `net/textproto`,
without its checks of names and values.
-/

namespace Go

/-- One field of `readHeader` from its lines; a line without a colon is malformed. -/
def mailField (line : GoString) (more : List GoString) : Option (GoString × GoString) :=
  let whole := trimBlanks line ++ more.flatMap fun next => 0x20 :: trimBlanks next
  if !whole.contains 0x3A then none
  else
    let name := whole.takeWhile (· != 0x3A)
    let value := (whole.dropWhile (· != 0x3A)).drop 1
    some ((canonicalMIMEHeaderKey name).getD name, value.dropWhile isBlank)

/-- `readHeader`: the fields in order. -/
def readHeader (text : GoString) : Option (List (GoString × GoString)) :=
  let lines := ((text.splitOn 0x0A).map dropCR).takeWhile (· ≠ [])
  if lines.head?.any fun first => first.head?.any isBlank then none
  else (continuedLines lines).mapM fun (line, more) => mailField line more

/-- `Header.Get` for a name that is in canonical form. -/
def headerGet (fields : List (GoString × GoString)) (name : GoString) : GoString :=
  (fields.lookup name).getD []

/-- `mail.ReadMessage`; a message without a byte has no header. -/
def readMessage (text : GoString) : Option (GoString → GoString) :=
  if text = [] then none else (readHeader text).map headerGet

def fieldLine (field : GoString × GoString) : GoString := field.1 ++ ascii ": " ++ field.2

def readField (field : GoString × GoString) : GoString × GoString :=
  ((canonicalMIMEHeaderKey field.1).getD field.1, field.2)

def Solid (text : GoString) : Prop :=
  text.head?.any (!isBlank ·) = true ∧ text.getLast?.any (!isBlank ·) = true

instance decidableSolid (text : GoString) : Decidable (Solid text) :=
  inferInstanceAs (Decidable (_ = true ∧ _ = true))

structure Readable (field : GoString × GoString) : Prop where
  name : field.1.head?.any (!isBlank ·) = true
  colonless : 0x3A ∉ field.1
  nameFeedless : lf ∉ field.1
  valueFeedless : lf ∉ field.2
  value : Solid field.2

section Reading

variable {field : GoString × GoString} {fields : List (GoString × GoString)}
  {text line rest body : GoString}

theorem trimBlanks_solid (solid : Solid text) : trimBlanks text = text := by
  obtain ⟨opens, closes⟩ := solid
  have front : text.dropWhile isBlank = text := by
    cases text with
    | nil => rfl
    | cons first text => exact List.dropWhile_cons_of_neg (by simpa using opens)
  rw [trimBlanks, front]
  refine List.rdropWhile_eq_self_iff.mpr fun nonempty => ?_
  rw [List.getLast?_eq_some_getLast nonempty] at closes
  simpa using closes

theorem Readable.solid (readable : Readable field) : Solid (fieldLine field) := by
  obtain ⟨name, -, -, -, -, closes⟩ := readable
  constructor
  · rw [fieldLine, List.append_assoc]
    cases first : field.1 with
    | nil =>
      rw [first] at name
      cases name
    | cons byte others =>
      rw [first] at name
      exact name
  · rw [fieldLine, List.getLast?_append]
    cases last : field.2.getLast? with
    | none =>
      rw [last] at closes
      cases closes
    | some byte =>
      rw [last] at closes
      exact closes

theorem mailField_fieldLine (readable : Readable field) :
    mailField (fieldLine field) [] = some (readField field) := by
  have whole : trimBlanks (fieldLine field) ++
      ([] : List GoString).flatMap (fun next => 0x20 :: trimBlanks next) = fieldLine field := by
    rw [trimBlanks_solid readable.solid]
    simp
  have split : fieldLine field = field.1 ++ 0x3A :: 0x20 :: field.2 := by
    rw [fieldLine, List.append_assoc]
    rfl
  have before : ∀ byte ∈ field.1, (byte != 0x3A) = true := fun byte member =>
    bne_iff_ne.mpr fun same => readable.colonless (same ▸ member)
  have name : (fieldLine field).takeWhile (· != 0x3A) = field.1 := by
    rw [split, List.takeWhile_append_of_pos before]
    simp
  have value : ((fieldLine field).dropWhile (· != 0x3A)).drop 1 = 0x20 :: field.2 := by
    rw [split, List.dropWhile_append_of_pos before]
    simp
  have colon : (fieldLine field).contains 0x3A = true := by
    rw [split]
    simp
  have start : (0x20 :: field.2).dropWhile isBlank = field.2 := by
    rw [List.dropWhile_cons_of_pos (by decide)]
    obtain ⟨-, -, -, -, opens, -⟩ := readable
    cases first : field.2 with
    | nil => rfl
    | cons byte others =>
      rw [first] at opens
      exact List.dropWhile_cons_of_neg (by simpa using opens)
  unfold mailField
  dsimp only
  rw [whole, colon, name, value, start]
  rfl

theorem splitOn_line (feedless : lf ∉ line) (rest : GoString) :
    (line ++ lf :: rest).splitOn 0x0A = line :: rest.splitOn 0x0A := by
  refine List.splitOnP_append_cons_of_forall_mem (fun byte member => ?_) lf rfl rest
  exact beq_false_of_ne fun same => feedless ((show byte = lf from same) ▸ member)

theorem dropCR_line (line : GoString) : dropCR (line ++ [cr]) = line := by
  have ends : hasSuffix (line ++ [cr]) [0x0D] = true := by
    rw [hasSuffix, List.isSuffixOf_iff_suffix]
    exact List.suffix_append ..
  rw [dropCR, trimSuffix, if_pos ends]
  simp

theorem headerLines_rendered {lines : List GoString} (feedless : ∀ line ∈ lines, lf ∉ line)
    (some : ∀ line ∈ lines, line ≠ []) (body : GoString) :
    ((((lines.flatMap (· ++ [cr, lf]) ++ cr :: lf :: body).splitOn 0x0A).map dropCR).takeWhile
      (· ≠ [])) = lines := by
  induction lines with
  | nil =>
    rw [List.flatMap_nil, List.nil_append,
      show cr :: lf :: body = [cr] ++ lf :: body from rfl, splitOn_line (by decide)]
    rfl
  | cons line lines ih =>
    obtain ⟨first, others⟩ := List.forall_mem_cons.mp feedless
    obtain ⟨nonempty, more⟩ := List.forall_mem_cons.mp some
    have cut : (line :: lines).flatMap (· ++ [cr, lf]) ++ cr :: lf :: body =
        (line ++ [cr]) ++ lf :: (lines.flatMap (· ++ [cr, lf]) ++ cr :: lf :: body) := by
      simp
    rw [cut, splitOn_line (by simp [first, show lf ≠ cr by decide]), List.map_cons, dropCR_line,
      List.takeWhile_cons_of_pos (by simpa using nonempty), ih others more]

theorem continuedLines_own {lines : List GoString}
    (own : ∀ line ∈ lines, line.head?.any isBlank = false) :
    continuedLines lines = lines.map (·, []) := by
  induction lines with
  | nil => rfl
  | cons line lines ih =>
    obtain ⟨-, others⟩ := List.forall_mem_cons.mp own
    rw [continuedLines, ih others]
    cases lines with
    | nil => rfl
    | cons next lines =>
      have plain := others next (List.mem_cons_self ..)
      simp [plain]

theorem mapM_eq_map {α β : Type} {step : α → Option β} {result : α → β} {values : List α}
    (each : ∀ value ∈ values, step value = some (result value)) :
    values.mapM step = some (values.map result) := by
  induction values with
  | nil => rfl
  | cons value values ih =>
    obtain ⟨first, others⟩ := List.forall_mem_cons.mp each
    rw [List.mapM_cons, first, ih others]
    rfl

theorem Readable.lineFeedless (readable : Readable field) : lf ∉ fieldLine field := by
  have colon : lf ∉ ascii ": " := by decide
  simp [fieldLine, readable.nameFeedless, readable.valueFeedless, colon]

theorem Solid.own (solid : Solid text) : text.head?.any isBlank = false ∧ text ≠ [] := by
  obtain ⟨opens, -⟩ := solid
  cases text with
  | nil => cases opens
  | cons first text => exact ⟨by simpa using opens, List.cons_ne_nil _ _⟩

theorem readHeader_rendered (readable : ∀ field ∈ fields, Readable field) (body : GoString) :
    readHeader (fields.flatMap (fun field => fieldLine field ++ [cr, lf]) ++ cr :: lf :: body) =
      some (fields.map readField) := by
  have each (Holds : GoString → Prop) (holds : ∀ field ∈ fields, Holds (fieldLine field)) :
      ∀ line ∈ fields.map fieldLine, Holds line := by
    intro line member
    obtain ⟨field, listed, rfl⟩ := List.mem_map.mp member
    exact holds field listed
  have own := each (fun line => line.head?.any isBlank = false)
    fun field listed => (readable field listed).solid.own.1
  have feedless := each (lf ∉ ·) fun field listed => (readable field listed).lineFeedless
  have some := each (· ≠ []) fun field listed => (readable field listed).solid.own.2
  have lines := headerLines_rendered feedless some body
  rw [List.flatMap_map] at lines
  have begins : ((fields.map fieldLine).head?.any fun first => first.head?.any isBlank) = false := by
    cases fields with
    | nil => rfl
    | cons field fields => exact own _ (List.mem_cons_self ..)
  rw [readHeader]
  dsimp only
  rw [lines, begins, if_neg Bool.false_ne_true, continuedLines_own own, List.map_map, List.mapM_map]
  exact mapM_eq_map fun field listed => mailField_fieldLine (readable field listed)

theorem emptyLine_inside (feedless : lf ∉ line) (rest : GoString) :
    emptyLine false (line ++ cr :: lf :: rest) =
      (emptyLine true rest).map fun (before, ending, after) =>
        (line ++ cr :: lf :: before, ending, after) := by
  induction line with
  | nil =>
    rw [List.nil_append, emptyLine, if_neg (by simp), if_neg (by simp)]
    rw [show (cr == lf) = false from rfl, emptyLine, if_neg (by simp), if_neg (by simp),
      beq_self_eq_true, Option.map_map]
    rfl
  | cons byte line ih =>
    rw [List.mem_cons, not_or] at feedless
    have plain : (byte == lf) = false := beq_false_of_ne fun same => feedless.1 same.symm
    rw [List.cons_append, emptyLine, if_neg (by simp), if_neg (by simp), plain,
      ih feedless.2, Option.map_map]
    rfl

theorem emptyLine_line (feedless : lf ∉ line) (some : line ≠ []) (rest : GoString) :
    emptyLine true (line ++ cr :: lf :: rest) =
      (emptyLine true rest).map fun (before, ending, after) =>
        (line ++ cr :: lf :: before, ending, after) := by
  cases line with
  | nil => exact absurd rfl some
  | cons byte line =>
    rw [List.mem_cons, not_or] at feedless
    have plain : byte ≠ lf := fun same => feedless.1 same.symm
    have alone : (line ++ cr :: lf :: rest).head? ≠ Option.some lf := by
      cases line with
      | nil => exact fun same => absurd (Option.some.inj same) (by decide)
      | cons next line =>
        exact fun same => feedless.2 (Option.some.inj same ▸ List.mem_cons_self ..)
    rw [List.cons_append, emptyLine, if_neg fun both => plain both.2, if_neg fun both => alone both.2.2,
      show (byte == lf) = false from beq_false_of_ne plain, emptyLine_inside feedless.2,
      Option.map_map]
    rfl

theorem emptyLine_rendered {lines : List GoString} (feedless : ∀ line ∈ lines, lf ∉ line)
    (some : ∀ line ∈ lines, line ≠ []) (body : GoString) :
    emptyLine true (lines.flatMap (· ++ [cr, lf]) ++ cr :: lf :: body) =
      Option.some (lines.flatMap (· ++ [cr, lf]), [cr, lf], body) := by
  induction lines with
  | nil => rfl
  | cons line lines ih =>
    obtain ⟨first, others⟩ := List.forall_mem_cons.mp feedless
    obtain ⟨nonempty, more⟩ := List.forall_mem_cons.mp some
    have cut : (line :: lines).flatMap (· ++ [cr, lf]) ++ cr :: lf :: body =
        line ++ cr :: lf :: (lines.flatMap (· ++ [cr, lf]) ++ cr :: lf :: body) := by
      simp
    rw [cut, emptyLine_line first nonempty, ih others more]
    simp

theorem mem_of_mapM {α β : Type} {step : α → Option β} {values : List α} {results : List β}
    (ran : values.mapM step = some results) {result : β} (member : result ∈ results) :
    ∃ value ∈ values, step value = some result := by
  induction values generalizing results with
  | nil =>
    cases ran
    cases member
  | cons value values ih =>
    rw [List.mapM_cons] at ran
    obtain ⟨first, head, ran⟩ := Option.bind_eq_some_iff.mp ran
    obtain ⟨others, tail, ran⟩ := Option.bind_eq_some_iff.mp ran
    cases ran
    rcases List.mem_cons.mp member with rfl | member
    · exact ⟨value, List.mem_cons_self .., head⟩
    · obtain ⟨origin, listed, same⟩ := ih tail member
      exact ⟨origin, List.mem_cons_of_mem _ listed, same⟩

theorem mem_continuedLines {lines : List GoString} {entry : GoString × List GoString}
    (member : entry ∈ continuedLines lines) : ∀ line ∈ entry.1 :: entry.2, line ∈ lines := by
  induction lines generalizing entry with
  | nil => cases member
  | cons first lines ih =>
    rw [continuedLines] at member
    split at member
    next next more later split =>
      rw [split] at ih
      have following := @ih (next, more) (List.mem_cons_self ..)
      split at member
      next =>
        rcases List.mem_cons.mp member with rfl | member
        · intro line listed
          rcases List.mem_cons.mp listed with rfl | listed
          · exact List.mem_cons_self ..
          · exact List.mem_cons_of_mem _ (following line listed)
        · exact fun line listed => List.mem_cons_of_mem _
            (ih (List.mem_cons_of_mem _ member) line listed)
      next =>
        rcases List.mem_cons.mp member with rfl | member
        · intro line listed
          exact List.mem_cons.mpr (.inl (List.mem_singleton.mp listed))
        · exact fun line listed => List.mem_cons_of_mem _ (ih member line listed)
    next =>
      rw [List.mem_singleton] at member
      rw [member]
      intro line listed
      exact List.mem_cons.mpr (.inl (List.mem_singleton.mp listed))

theorem mem_trimBlanks {byte : UInt8} (member : byte ∈ trimBlanks text) : byte ∈ text :=
  (List.dropWhile_suffix _).subset ((List.rdropWhile_prefix _ _).subset member)

theorem mem_dropCR {byte : UInt8} (member : byte ∈ dropCR line) : byte ∈ line := by
  rw [dropCR, trimSuffix] at member
  split at member
  · exact List.mem_of_mem_take member
  · exact member

theorem feedless_splitOn {text line : GoString} (member : line ∈ text.splitOn 0x0A) : lf ∉ line := by
  rw [List.splitOn] at member
  induction text generalizing line with
  | nil =>
    rw [List.splitOnP_nil, List.mem_singleton] at member
    rw [member]
    exact List.not_mem_nil
  | cons byte text ih =>
    rw [List.splitOnP_cons_eq_if_modifyHead] at member
    split at member
    next =>
      rcases List.mem_cons.mp member with rfl | member
      · exact List.not_mem_nil
      · exact ih member
    next plain =>
      cases pieces : text.splitOnP (· == 0x0A) with
      | nil => exact absurd pieces (List.splitOnP_ne_nil _ _)
      | cons first others =>
        rw [pieces] at member ih
        rcases List.mem_cons.mp member with rfl | member
        · rw [List.mem_cons, not_or]
          exact ⟨fun same => plain (beq_iff_eq.mpr same.symm),
            ih (List.mem_cons_self ..)⟩
        · exact ih (List.mem_cons_of_mem _ member)

theorem readHeader_feedless (read : readHeader text = some fields) (member : field ∈ fields) :
    lf ∉ field.2 := by
  rw [readHeader] at read
  dsimp only at read
  split at read
  next => cases read
  next =>
    obtain ⟨⟨line, more⟩, listed, same⟩ := mem_of_mapM read member
    have feedless : ∀ other ∈ line :: more, lf ∉ other := by
      intro other part feed
      have among := (List.takeWhile_sublist _).subset (mem_continuedLines listed other part)
      obtain ⟨piece, cut, rfl⟩ := List.mem_map.mp among
      exact feedless_splitOn cut (mem_dropCR feed)
    obtain ⟨first, others⟩ := List.forall_mem_cons.mp feedless
    have whole : lf ∉ trimBlanks line ++ more.flatMap fun next => 0x20 :: trimBlanks next := by
      intro feed
      rcases List.mem_append.mp feed with feed | feed
      · exact first (mem_trimBlanks feed)
      · obtain ⟨next, listed, feed⟩ := List.mem_flatMap.mp feed
        rcases List.mem_cons.mp feed with space | feed
        · exact absurd space (by decide)
        · exact others next listed (mem_trimBlanks feed)
    unfold mailField at same
    dsimp only at same
    split at same
    next => cases same
    next =>
      cases same
      intro feed
      exact whole ((List.dropWhile_suffix _).subset ((List.drop_sublist _ _).subset
        ((List.dropWhile_suffix _).subset feed)))

theorem Solid.around {first last : GoString} (opens : Solid first) (closes : Solid last)
    (middle : GoString) : Solid (first ++ (middle ++ last)) := by
  constructor
  · cases first with
    | nil => cases opens.1
    | cons byte first => exact opens.1
  · rw [List.getLast?_append, List.getLast?_append]
    cases ends : last.getLast? with
    | none =>
      have missing := closes.2
      rw [ends] at missing
      cases missing
    | some byte =>
      have held := closes.2
      rw [ends] at held
      exact held

theorem solid_join {pieces : List GoString} (some : pieces ≠ []) (solid : ∀ piece ∈ pieces, Solid piece)
    (separator : GoString) : Solid (join pieces separator) := by
  induction pieces with
  | nil => exact absurd rfl some
  | cons piece pieces ih =>
    obtain ⟨first, others⟩ := List.forall_mem_cons.mp solid
    cases pieces with
    | nil =>
      rw [join, List.intercalate_singleton]
      exact first
    | cons next pieces =>
      rw [join, List.intercalate_cons_cons]
      rw [List.append_assoc]
      exact first.around (ih (List.cons_ne_nil _ _) others) separator

theorem solid_trimSpace (some : trimSpace text ≠ []) : Solid (trimSpace text) := by
  have space {byte : UInt8} (blank : isBlank byte = true) :
      byte.toNat < 0x80 ∧ isSpace byte.toNat = true := by
    rcases Bool.or_eq_true_iff.mp blank with same | same <;>
      · rw [beq_iff_eq.mp same]
        decide
  constructor
  · cases opens : trimSpace text with
    | nil => exact absurd opens some
    | cons first rest =>
      have front := dropWhile_runes_trimSpace text
      by_contra blank
      obtain ⟨small, white⟩ := space (by simpa using blank : isBlank first = true)
      rw [opens, runes_ascii small] at front
      exact List.dropWhile_eq_self_iff.mp front (Nat.succ_pos _) white
  · rcases List.eq_nil_or_concat (trimSpace text) with closes | ⟨front, last, closes⟩
    · exact absurd closes some
    · have back := rdropWhile_runes_trimSpace text
      rw [closes, List.concat_eq_append, List.getLast?_concat]
      by_contra blank
      obtain ⟨small, white⟩ := space (by simpa using blank : isBlank last = true)
      rw [closes, List.concat_eq_append, runes_before_ascii small, runes_ascii small] at back
      have kept := List.rdropWhile_eq_self_iff.mp back (by simp)
      rw [List.getLast_append_of_ne_nil _ (by simp)] at kept
      exact kept white

end Reading

end Go
