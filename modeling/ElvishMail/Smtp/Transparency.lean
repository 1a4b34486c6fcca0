import Mathlib.Algebra.Group.Nat.Even
import ElvishMail.Go.Lines
import ElvishMail.Smtp.Wire

/-!
# Transparency

What `net/textproto`'s dot writer puts on the wire for a text, and what the dot reader makes of
it. Line by line the reader returns what was written, with a line feed for the line end; the
carriage returns at the end of a line come in pairs, of which the writer overlooks the second.
-/

namespace ElvishMail.Smtp

open Go

inductive DotWriterState where
  | start
  | beginLine
  | cr
  | data
deriving DecidableEq

/-- `dotWriter.Write` of a text, and `Close`. Behind a carriage return any byte but a line feed
is data, another carriage return too. -/
def dotWrite : DotWriterState → GoString → GoString
  | .beginLine, [] => [0x2E, 0x0D, 0x0A]
  | .cr, [] => [0x0A, 0x2E, 0x0D, 0x0A]
  | _, [] => [0x0D, 0x0A, 0x2E, 0x0D, 0x0A]
  | .cr, byte :: rest => byte :: dotWrite (if byte = 0x0A then .beginLine else .data) rest
  | state, byte :: rest =>
    (if state ≠ .data ∧ byte = 0x2E then [0x2E] else []) ++
      (if byte = 0x0A then 0x0D :: 0x0A :: dotWrite .beginLine rest
      else byte :: dotWrite (if byte = 0x0D then .cr else .data) rest)

/-- What `Conn.Data` writes for a message. -/
def writeDotBytes (text : GoString) : GoString := dotWrite .start text

def behindReturn : Bool → GoString → Bool
  | behind, [] => behind
  | behind, byte :: rest => behindReturn (!behind && byte == cr) rest

def stuffed (line : GoString) : GoString :=
  if hasPrefix line [0x2E] then 0x2E :: line else line

/-- A line as it is read: the writer takes a carriage return that it has seen for part of the
line end. -/
def carried (line : GoString) : GoString :=
  if behindReturn false line = true then line.dropLast else line

section Lines

variable {line rest : GoString} {byte : UInt8}

theorem dotWrite_inside (feedless : lf ∉ line) (behind : Bool) (rest : GoString) :
    dotWrite (if behind then .cr else .data) (line ++ lf :: rest) =
      line ++ ((if behindReturn behind line then [] else [cr]) ++ lf :: dotWrite .beginLine rest) := by
  induction line generalizing behind with
  | nil => cases behind <;> rfl
  | cons byte line ih =>
    rw [List.mem_cons, not_or] at feedless
    have plain : byte ≠ 0x0A := fun same => feedless.1 same.symm
    cases behind with
    | true =>
      have later := ih feedless.2 false
      rw [if_neg Bool.false_ne_true] at later
      rw [if_pos rfl, List.cons_append, dotWrite, if_neg plain, later]
      rfl
    | false =>
      have later := ih feedless.2 (byte == cr)
      have state : (if (byte == cr) = true then DotWriterState.cr else .data) =
          if byte = 0x0D then .cr else .data := by simp only [beq_iff_eq, cr]
      rw [state] at later
      rw [if_neg Bool.false_ne_true, List.cons_append, dotWrite, if_neg (fun both => both.1 rfl),
        if_neg plain, later]
      · simp [behindReturn]
      · exact nofun

theorem dotWrite_begins {state : DotWriterState} (begins : state = .start ∨ state = .beginLine)
    (byte : UInt8) (rest : GoString) :
    dotWrite state (byte :: rest) =
      (if byte = 0x2E then [0x2E] else []) ++ dotWrite .data (byte :: rest) := by
  rcases begins with rfl | rfl <;> simp [dotWrite]

theorem stuffed_cons (byte : UInt8) (line : GoString) :
    stuffed (byte :: line) = (if byte = 0x2E then [0x2E] else []) ++ byte :: line := by
  by_cases dot : byte = 0x2E
  · rw [dot]
    rfl
  · rw [stuffed, if_neg, if_neg dot]
    · rfl
    · intro start
      exact dot (List.cons_prefix_cons.mp (List.isPrefixOf_iff_prefix.mp start)).1.symm

theorem dotWrite_line (feedless : lf ∉ line) {state : DotWriterState}
    (begins : state = .start ∨ state = .beginLine) (rest : GoString) :
    dotWrite state (line ++ lf :: rest) =
      stuffed line ++ ((if behindReturn false line then [] else [cr]) ++ lf :: dotWrite .beginLine rest) := by
  cases line with
  | nil => rcases begins with rfl | rfl <;> rfl
  | cons byte line =>
    have inside := dotWrite_inside feedless false rest
    rw [if_neg Bool.false_ne_true, List.cons_append] at inside
    rw [List.cons_append, dotWrite_begins begins, inside, stuffed_cons, List.append_assoc]

theorem emit_emit (first second : GoString) (result : Option (GoString × GoString)) :
    emit first (emit second result) = emit (first ++ second) result := by
  cases result with
  | none => rfl
  | some result => simp [emit, List.append_assoc]

theorem readDotBytes_inside (feedless : lf ∉ line) (behind : Bool) (rest : GoString) :
    readDotBytes (if behind then .cr else .data) (line ++ cr :: lf :: rest) =
      emit ((if behind then [cr] else []) ++ (line ++ [lf])) (readDotBytes .beginLine rest) := by
  induction line generalizing behind with
  | nil =>
    cases behind with
    | false => rfl
    | true => exact emit_emit [cr] [lf] (readDotBytes .beginLine rest)
  | cons byte line ih =>
    rw [List.mem_cons, not_or] at feedless
    have plain : byte ≠ 0x0A := fun same => feedless.1 same.symm
    have onward := ih feedless.2
    by_cases carriage : byte = 0x0D
    · have returned := onward true
      rw [if_pos rfl, if_pos rfl] at returned
      cases behind with
      | false =>
        rw [if_neg Bool.false_ne_true, if_neg Bool.false_ne_true, List.cons_append, readDotBytes,
          if_pos carriage, returned, carriage]
        rfl
      | true =>
        rw [if_pos rfl, if_pos rfl, List.cons_append, readDotBytes, if_neg plain, if_pos carriage,
          returned, emit_emit, carriage]
        rfl
    · have inside := onward false
      rw [if_neg Bool.false_ne_true, if_neg Bool.false_ne_true] at inside
      cases behind with
      | false =>
        rw [if_neg Bool.false_ne_true, if_neg Bool.false_ne_true, List.cons_append, readDotBytes,
          if_neg carriage, if_neg plain, inside, emit_emit]
        rfl
      | true =>
        rw [if_pos rfl, if_pos rfl, List.cons_append, readDotBytes, if_neg plain, if_neg carriage,
          inside, emit_emit]
        rfl

theorem readDotBytes_line (feedless : lf ∉ line) (rest : GoString) :
    readDotBytes .beginLine (stuffed line ++ cr :: lf :: rest) =
      emit (line ++ [lf]) (readDotBytes .beginLine rest) := by
  cases line with
  | nil => rfl
  | cons byte line =>
    rw [List.mem_cons, not_or] at feedless
    have inside := readDotBytes_inside feedless.2 false rest
    rw [if_neg Bool.false_ne_true, if_neg Bool.false_ne_true] at inside
    rw [stuffed_cons]
    by_cases dot : byte = 0x2E
    · have period : readDotBytes .dot (byte :: (line ++ cr :: lf :: rest)) =
          emit [byte] (readDotBytes .data (line ++ cr :: lf :: rest)) := by rw [dot]; rfl
      rw [if_pos dot]
      show readDotBytes .dot (byte :: (line ++ cr :: lf :: rest)) = _
      rw [period, inside, emit_emit]
      rfl
    · rw [if_neg dot, List.nil_append, List.cons_append, readDotBytes, if_neg dot]
      split
      next carriage =>
        have behind := readDotBytes_inside feedless.2 true rest
        rw [if_pos rfl, if_pos rfl] at behind
        rw [behind, carriage]
        rfl
      next =>
        rw [inside, emit_emit]
        rfl

theorem behindReturn_concat (behind : Bool) (line : GoString) (byte : UInt8) :
    behindReturn behind (line ++ [byte]) = (!behindReturn behind line && byte == cr) := by
  induction line generalizing behind with
  | nil => rfl
  | cons first line ih => exact ih _

theorem behindReturn_iff (line : GoString) :
    behindReturn false line = true ↔ ¬Even (line.rtakeWhile (· == cr)).length := by
  induction line using List.reverseRecOn with
  | nil => simp [behindReturn]
  | append_singleton line byte ih =>
    rw [behindReturn_concat, List.rtakeWhile_concat]
    by_cases carriage : byte = cr
    · have parity := @Nat.even_add_one (line.rtakeWhile (· == cr)).length
      simp [carriage, parity, ← ih]
    · simp [carriage]

theorem stuffed_carried (line : GoString) :
    stuffed line ++ (if behindReturn false line then [] else [cr]) = stuffed (carried line) ++ [cr] := by
  rcases List.eq_nil_or_concat line with rfl | ⟨front, last, rfl⟩
  · rfl
  · rw [List.concat_eq_append, carried]
    split
    next behind =>
      rw [behindReturn_concat, Bool.and_eq_true, beq_iff_eq] at behind
      rw [List.dropLast_concat, behind.2, List.append_nil]
      cases front with
      | nil => rfl
      | cons byte front =>
        rw [List.cons_append, stuffed_cons, stuffed_cons, List.append_assoc]
        rfl
    next => rfl

theorem feedless_carried (feedless : lf ∉ line) : lf ∉ carried line := by
  rw [carried]
  split
  · exact fun member => feedless ((List.dropLast_sublist _).subset member)
  · exact feedless

theorem readDotBytes_lines {lines : List GoString} (feedless : ∀ line ∈ lines, lf ∉ line)
    (rest : GoString) :
    readDotBytes .beginLine (dotWrite .beginLine (lines.flatMap (· ++ [lf])) ++ rest) =
      some (lines.flatMap (carried · ++ [lf]), rest) := by
  induction lines with
  | nil => rfl
  | cons line lines ih =>
    obtain ⟨first, others⟩ := List.forall_mem_cons.mp feedless
    rw [List.flatMap_cons, List.append_assoc, List.singleton_append, dotWrite_line first (.inr rfl),
      ← List.append_assoc (stuffed line), stuffed_carried, List.append_assoc, List.append_assoc,
      List.singleton_append]
    show readDotBytes .beginLine (stuffed (carried line) ++ cr :: lf :: (_ ++ rest)) = _
    rw [readDotBytes_line (feedless_carried first), ih others, List.flatMap_cons]
    rfl

theorem readDotBytes_writeDotBytes {lines : List GoString} (feedless : ∀ line ∈ lines, lf ∉ line)
    (some : lines ≠ []) (rest : GoString) :
    readDotBytes .beginLine (writeDotBytes (lines.flatMap (· ++ [lf])) ++ rest) =
      Option.some (lines.flatMap (carried · ++ [lf]), rest) := by
  have begun : writeDotBytes (lines.flatMap (· ++ [lf])) =
      dotWrite .beginLine (lines.flatMap (· ++ [lf])) := by
    cases lines with
    | nil => exact absurd rfl some
    | cons line lines =>
      have first := (List.forall_mem_cons.mp feedless).1
      rw [writeDotBytes, List.flatMap_cons, List.append_assoc, List.singleton_append,
        dotWrite_line first (.inl rfl), dotWrite_line first (.inr rfl)]
  rw [begun, readDotBytes_lines feedless]

/-- The writer ends a text that does not end with a line feed. -/
theorem dotWrite_unended {text : GoString} (ends : text.getLast? ≠ some lf) {state : DotWriterState}
    (begun : text = [] → state ≠ .beginLine) : dotWrite state (text ++ [lf]) = dotWrite state text := by
  induction text generalizing state with
  | nil => cases state <;> first | rfl | exact absurd rfl (begun rfl)
  | cons byte rest ih =>
    have later {next : DotWriterState} (fits : byte = 0x0A ∨ next ≠ .beginLine) :
        dotWrite next (rest ++ [lf]) = dotWrite next rest := by
      cases rest with
      | nil => exact ih (by simp) fun _ => fits.resolve_left fun feed => ends (by rw [feed]; rfl)
      | cons other rest => exact ih (by simpa using ends) (by simp)
    by_cases feed : byte = 0x0A
    · cases state <;> simp [dotWrite, feed, later (.inl feed)]
    · cases state <;> by_cases carriage : byte = 0x0D <;> simp [dotWrite, feed, carriage, later]

end Lines

theorem writeDotBytes_lines (text : GoString) : ∃ lines : List GoString, (∀ line ∈ lines, lf ∉ line) ∧
    lines ≠ [] ∧ writeDotBytes text = writeDotBytes (lines.flatMap (· ++ [lf])) := by
  by_cases ends : text.getLast? = some lf
  · obtain ⟨lines, feedless, rfl⟩ := exists_whole_lines (.inr ends)
    refine ⟨lines, feedless, ?_, rfl⟩
    rintro rfl
    cases ends
  · obtain ⟨lines, feedless, whole⟩ :=
      exists_whole_lines (.inr (List.getLast?_concat : (text ++ [lf]).getLast? = _))
    refine ⟨lines, feedless, ?_, ?_⟩
    · rintro rfl
      exact List.append_ne_nil_of_right_ne_nil text (List.cons_ne_nil lf []) whole
    · rw [← whole]
      exact (dotWrite_unended ends (by simp)).symm

/-- Whatever the text of a message is, the server reads it to its end and no further: nothing in
it is read as a command, and no command behind it as text. -/
theorem readDATA_rest (text rest : GoString) (closed : Bool) (limit : Int) :
    (Stream.readDATA ⟨writeDotBytes text ++ rest, closed⟩ limit).2 = ⟨rest, closed⟩ := by
  obtain ⟨lines, feedless, some, same⟩ := writeDotBytes_lines text
  rw [same, Stream.readDATA, readDotBytes_writeDotBytes feedless some]

end ElvishMail.Smtp
