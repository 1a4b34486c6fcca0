import ElvishMail.Dkim.Relaxed

/-!
# Where a message is split

A receiver takes the first empty line of a message for the end of the header, whether it ends
with CRLF or with a line feed. `splitHeadersBody` looks for two CRLFs in a row anywhere in the
message and only without them for two line feeds, for which it rewrites every line feed.
-/

namespace ElvishMail.Dkim

open Go

/-- What `splitHeadersBody` takes for the body. -/
def bodyAfter (raw : GoString) : Except Failure GoString :=
  (findSeparator raw).map fun (raw, place) => raw.drop (place + 4)

def noSeparator : Failure := .returned (.plain (ascii "dkim: no header/body separator"))

/-- The body has the lines after the first empty line, and without one there is no body. -/
def SplitsAtEmptyLine (raw : GoString) : Prop :=
  match emptyLine true raw with
  | none => bodyAfter raw = .error noSeparator
  | some (_, _, after) => ∃ body, bodyAfter raw = .ok body ∧ textLines body = textLines after

/-- Either the first empty line and the line before it both end with CRLF, or it ends with a
line feed, is not the first line, and no line end after it is CRLF. -/
def EndsAlike (raw : GoString) : Prop :=
  match emptyLine true raw with
  | none => True
  | some (before, ending, after) =>
    (ending = [cr, lf] ∧ [cr, lf] <:+ before) ∨
      (ending = [lf] ∧ before ≠ [] ∧ ¬[cr, lf] <:+: after)

section Rewriting

variable {text rest : GoString} {byte : UInt8}

def rewritten (text : GoString) : GoString := replaceAll text [0x0A] crlf

theorem rewritten_feed (rest : GoString) : rewritten (lf :: rest) = cr :: lf :: rewritten rest := rfl

theorem rewritten_plain (plain : byte ≠ lf) (rest : GoString) :
    rewritten (byte :: rest) = byte :: rewritten rest := replaceAll_plain plain rest

theorem rewritten_append (text rest : GoString) :
    rewritten (text ++ rest) = rewritten text ++ rewritten rest := by
  induction text with
  | nil => rfl
  | cons byte text ih =>
    by_cases feed : byte = lf
    · rw [feed, List.cons_append, rewritten_feed, rewritten_feed, ih]
      rfl
    · rw [List.cons_append, rewritten_plain feed, rewritten_plain feed, ih]
      rfl

theorem rewritten_head (text : GoString) : (rewritten text).head? ≠ some lf := by
  cases text with
  | nil => exact nofun
  | cons byte rest =>
    by_cases feed : byte = lf
    · rw [feed, rewritten_feed]
      exact fun same => absurd (Option.some.inj same) (by decide)
    · rw [rewritten_plain feed]
      exact fun same => feed (Option.some.inj same)

@[simp] theorem count_rewritten (text : GoString) : (rewritten text).count lf = text.count lf := by
  induction text with
  | nil => rfl
  | cons byte rest ih =>
    by_cases feed : byte = lf
    · have other : cr ≠ lf := by decide
      simp [feed, rewritten_feed, other, ih]
    · rw [rewritten_plain feed, List.count_cons_of_ne feed, List.count_cons_of_ne feed,
        ih]

theorem textLines_rewritten (text : GoString) :
    textLines (rewritten text) = textLines text ↔ ¬[cr, lf] <:+: text := by
  induction text using lines_induction with
  | nil => exact iff_of_true rfl (by decide)
  | feed rest ih =>
    rw [rewritten_feed, textLines_crlf, textLines_lf, List.cons.injEq, ih,
      List.infix_cons_iff]
    have other : ¬[cr, lf] <+: lf :: rest := by
      intro start
      exact absurd (List.cons_prefix_cons.mp start).1 (by decide)
    simp [other]
  | both rest ih =>
    refine iff_of_false ?_ (not_not_intro ⟨[], rest, rfl⟩)
    have alone : cr = cr → (cr :: lf :: rewritten rest).head? ≠ some lf :=
      fun _ same => absurd (Option.some.inj same) (by decide)
    rw [rewritten_plain (by decide), rewritten_feed, textLines_other (by decide) alone,
      textLines_crlf, textLines_crlf]
    exact fun same => absurd (List.cons.inj same).1 (List.cons_ne_nil _ _)
  | plain byte rest plain alone ih =>
    have other : ¬[cr, lf] <+: byte :: rest := by
      intro start
      obtain ⟨same, others, split⟩ := List.cons_prefix_cons.mp start
      exact alone same.symm (split ▸ rfl)
    rw [rewritten_plain plain, textLines_other plain fun _ => rewritten_head rest,
      textLines_other plain alone, List.infix_cons_iff, or_iff_right other, ← ih]
    obtain ⟨first, others, lines⟩ := textLines_first rest
    obtain ⟨next, more, rewrites⟩ := textLines_first (rewritten rest)
    rw [lines, rewrites]
    simp

theorem index_rewritten (text : GoString) :
    index (rewritten text) (crlf ++ crlf) =
      (index text [0x0A, 0x0A]).map fun place => (rewritten (text.take place)).length := by
  induction text with
  | nil => rfl
  | cons byte rest ih =>
    have inside : ¬(crlf ++ crlf).isPrefixOf (lf :: rewritten rest) = true := by
      simp only [crlf, List.cons_append, List.isPrefixOf_cons_cons, Bool.and_eq_true, beq_iff_eq]
      exact fun both => absurd both.1 (by decide)
    by_cases feed : byte = lf
    · rw [feed, rewritten_feed, index_cons, index_cons, index_cons, if_neg inside]
      have starts : (crlf ++ crlf).isPrefixOf (cr :: lf :: rewritten rest) =
          [0x0A, 0x0A].isPrefixOf (lf :: rest) := by
        cases rest with
        | nil => rfl
        | cons next rest =>
          by_cases again : next = lf
          · rw [again, rewritten_feed]
            rfl
          · rw [rewritten_plain again]
            have first : ¬crlf.isPrefixOf (next :: rewritten rest) = true := by
              intro start
              obtain ⟨-, others, split⟩ :=
                List.cons_prefix_cons.mp (List.isPrefixOf_iff_prefix.mp start)
              exact rewritten_head rest (split ▸ rfl)
            have second : ¬[0x0A].isPrefixOf (next :: rest) = true := by
              intro start
              exact again (List.cons_prefix_cons.mp (List.isPrefixOf_iff_prefix.mp start)).1.symm
            exact (Bool.eq_false_iff.mpr first).trans (Bool.eq_false_iff.mpr second).symm
      rw [starts]
      split
      · rfl
      · rw [ih]
        simp [Function.comp_def, rewritten_feed]
    · rw [rewritten_plain feed, index_cons, index_cons, ih]
      have starts : ¬(crlf ++ crlf).isPrefixOf (byte :: rewritten rest) = true := by
        intro start
        obtain ⟨-, others, split⟩ :=
          List.cons_prefix_cons.mp (List.isPrefixOf_iff_prefix.mp start)
        exact rewritten_head rest (split ▸ rfl)
      have differs : ¬[0x0A, 0x0A].isPrefixOf (byte :: rest) = true := by
        intro start
        exact feed (List.cons_prefix_cons.mp (List.isPrefixOf_iff_prefix.mp start)).1.symm
      rw [if_neg starts, if_neg differs]
      simp [Function.comp_def, rewritten_plain feed]

end Rewriting

section Splits

variable {raw before ending after front rest separator : GoString}

theorem bodyAfter_cases (raw : GoString) :
    (∃ front rest : GoString, raw = front ++ (crlf ++ crlf ++ rest) ∧
      (∀ other tail : GoString, raw = other ++ (crlf ++ crlf ++ tail) → front.length ≤ other.length) ∧
      bodyAfter raw = .ok rest) ∨
    (∀ other tail : GoString, raw ≠ other ++ (crlf ++ crlf ++ tail)) ∧
      ((∀ other tail : GoString, raw ≠ other ++ ([0x0A, 0x0A] ++ tail)) ∧ bodyAfter raw = .error noSeparator ∨
      ∃ front rest : GoString, raw = front ++ ([0x0A, 0x0A] ++ rest) ∧
        (∀ other tail : GoString, raw = other ++ ([0x0A, 0x0A] ++ tail) → front.length ≤ other.length) ∧
        bodyAfter raw = .ok (rewritten rest)) := by
  rw [bodyAfter, findSeparator]
  cases both : index raw (crlf ++ crlf) with
  | some place =>
    obtain ⟨front, rest, split, rfl⟩ := index_some both
    refine .inl ⟨front, rest, split, fun other tail => index_first both, ?_⟩
    show Except.ok _ = _
    rw [split]
    simp [crlf]
  | none =>
    refine .inr ⟨index_none both, ?_⟩
    cases feeds : index raw [0x0A, 0x0A] with
    | none => exact .inl ⟨index_none feeds, rfl⟩
    | some place =>
      obtain ⟨front, rest, split, rfl⟩ := index_some feeds
      refine .inr ⟨front, rest, split, fun other tail => index_first feeds, ?_⟩
      have found : index (rewritten raw) (crlf ++ crlf) = some (rewritten front).length := by
        rw [index_rewritten, feeds, Option.map_some, split, List.take_left]
      dsimp only
      rw [← rewritten, found]
      show Except.ok ((rewritten raw).drop ((rewritten front).length + 4)) = _
      rw [split, rewritten_append, List.drop_length_add_append]
      rfl

theorem count_after (first : raw = before ++ (ending ++ after))
    (later : raw = front ++ (separator ++ rest)) (feed : (front ++ separator).getLast? = some lf)
    (longer : before.length + ending.length < front.length + separator.length) :
    rest.count lf < after.count lf := by
  have within : before ++ ending <+: front ++ separator := by
    have start : before ++ ending <+: raw := ⟨after, by rw [first, List.append_assoc]⟩
    have further : front ++ separator <+: raw := ⟨rest, by rw [later, List.append_assoc]⟩
    refine List.prefix_of_prefix_length_le start further ?_
    · simp only [List.length_append]
      omega
  obtain ⟨between, same⟩ := within
  have feeds : lf ∈ between := by
    rcases List.eq_nil_or_concat between with rfl | ⟨others, last, rfl⟩
    · have lengths := congrArg List.length same
      simp only [List.length_append, List.length_nil] at lengths
      omega
    · rw [← same, List.concat_eq_append, ← List.append_assoc, List.getLast?_concat] at feed
      rw [Option.some.inj feed]
      simp
  have counted : raw.count lf = (before ++ ending).count lf + after.count lf := by
    rw [first, ← List.append_assoc, List.count_append]
  have recounted : raw.count lf = (front ++ separator).count lf + rest.count lf := by
    rw [later, ← List.append_assoc, List.count_append]
  rw [← same, List.count_append] at recounted
  have positive := List.count_pos_iff.mpr feeds
  omega

theorem textLines_ne_of_count {text other : GoString} (fewer : text.count lf < other.count lf) :
    textLines text ≠ textLines other := by
  intro same
  have lengths := congrArg List.length same
  rw [textLines_length, textLines_length] at lengths
  omega

theorem crlf_twice (first : raw = before ++ (ending ++ after)) (ends : ending = [cr, lf])
    (last : [cr, lf] <:+ before) :
    ∃ front, front.length + 2 = before.length ∧ raw = front ++ (crlf ++ crlf ++ after) := by
  obtain ⟨front, rfl⟩ := last
  exact ⟨front, by simp, by rw [first, ends]; simp [crlf, cr, lf]⟩

theorem lf_twice (first : raw = before ++ (ending ++ after)) (ends : ending = [lf])
    (some : before ≠ []) (place : before = [] ∧ true = true ∨ before.getLast? = Option.some lf) :
    ∃ front, front.length + 1 = before.length ∧ raw = front ++ ([0x0A, 0x0A] ++ after) := by
  have last := place.resolve_left fun none => some none.1
  obtain ⟨front, rfl⟩ := List.getLast?_eq_some_iff.mp last
  exact ⟨front, by simp, by rw [first, ends]; simp [lf]⟩

theorem after_crlf (found : emptyLine true raw = some (before, ending, after))
    (split : raw = front ++ (crlf ++ crlf ++ rest))
    (least : ∀ other tail : GoString, raw = other ++ (crlf ++ crlf ++ tail) → front.length ≤ other.length) :
    textLines rest = textLines after ↔
      (ending = [cr, lf] ∧ [cr, lf] <:+ before) ∨
        (ending = [lf] ∧ before ≠ [] ∧ ¬[cr, lf] <:+: after) := by
  obtain ⟨first, ends, place⟩ := emptyLine_some found
  have shifted : raw = front ++ [cr] ++ lf :: ([cr, lf] ++ rest) := by
    rw [split]
    simp [crlf, cr, lf]
  have bounded : before.length ≤ front.length + 2 := by
    obtain ⟨_, _, _, early, bounded⟩ := emptyLine_first true (.inr rfl) (front ++ [cr]) rest
    rw [← shifted, found] at early
    cases early
    simpa using bounded
  have halves : before ++ (ending ++ after) = (front ++ crlf) ++ (crlf ++ rest) := by
    rw [← first, split]
    simp
  by_cases exact : before.length + ending.length = front.length + 4
  · rcases ends with rfl | rfl
    · simp only [List.length_singleton] at exact
      omega
    · have lengths : before.length = (front ++ crlf).length := by
        simp only [List.length_append, crlf, List.length_cons, List.length_nil] at exact ⊢
        omega
      obtain ⟨rfl, same⟩ := List.append_inj halves lengths
      have tails : after = rest := (List.append_inj same rfl).2
      exact iff_of_true (congrArg textLines tails.symm) (.inl ⟨rfl, front, rfl⟩)
  · have short : ending.length ≤ 2 := by rcases ends with rfl | rfl <;> decide
    have longer : before.length + ending.length < front.length + (crlf ++ crlf).length := by
      simp only [crlf, List.length_append, List.length_cons, List.length_nil]
      omega
    have fewer := count_after first split (by simp [crlf, lf]) longer
    refine iff_of_false (textLines_ne_of_count fewer) ?_
    rintro (⟨crlfEnds, last⟩ | ⟨rfl, -, absent⟩)
    · obtain ⟨other, length, twice⟩ := crlf_twice first crlfEnds last
      have early := least other after twice
      rw [crlfEnds] at longer
      simp only [crlf, List.length_append, List.length_cons, List.length_nil] at longer
      omega
    · by_cases close : before.length = front.length + 2
      · have heads := (List.append_inj halves (by simp [crlf, close])).2
        exact absurd (List.cons.inj heads).1 (by decide)
      · have tail : after <:+ raw := ⟨before ++ [lf], by rw [first, List.append_assoc]⟩
        have inside : crlf ++ rest <:+ raw := ⟨front ++ crlf, by rw [split]; simp⟩
        have sizes := congrArg List.length halves
        simp only [crlf, List.length_append, List.length_cons, List.length_nil] at sizes
        obtain ⟨between, rfl⟩ := List.suffix_of_suffix_length_le inside tail (by
          simp only [crlf, List.length_append, List.length_cons, List.length_nil]
          omega)
        exact absent ⟨between, rest, by simp [crlf, cr, lf]⟩

theorem after_feeds (found : emptyLine true raw = some (before, ending, after))
    (split : raw = front ++ ([0x0A, 0x0A] ++ rest))
    (least : ∀ other tail : GoString, raw = other ++ ([0x0A, 0x0A] ++ tail) → front.length ≤ other.length)
    (missing : ∀ other tail : GoString, raw ≠ other ++ (crlf ++ crlf ++ tail)) :
    textLines (rewritten rest) = textLines after ↔
      (ending = [cr, lf] ∧ [cr, lf] <:+ before) ∨
        (ending = [lf] ∧ before ≠ [] ∧ ¬[cr, lf] <:+: after) := by
  obtain ⟨first, ends, place⟩ := emptyLine_some found
  have notFirst : ¬(ending = [cr, lf] ∧ [cr, lf] <:+ before) := by
    rintro ⟨crlfEnds, last⟩
    obtain ⟨other, -, twice⟩ := crlf_twice first crlfEnds last
    exact missing other after twice
  have bounded : before.length ≤ front.length + 1 := by
    obtain ⟨_, _, _, early, bounded⟩ := emptyLine_first true (.inl rfl) front rest
    rw [show front ++ lf :: ([lf] ++ rest) = raw from split.symm, found] at early
    cases early
    exact bounded
  have halves : before ++ (ending ++ after) = (front ++ [lf]) ++ (lf :: rest) := by
    rw [← first, split]
    simp [lf]
  rw [or_iff_right notFirst]
  by_cases exact : before.length + ending.length = front.length + 2
  · rcases ends with rfl | rfl
    · have lengths : before.length = (front ++ [lf]).length := by
        simp only [List.length_append, List.length_singleton] at exact ⊢
        omega
      obtain ⟨rfl, same⟩ := List.append_inj halves lengths
      have tails : after = rest := (List.append_inj same rfl).2
      rw [tails, textLines_rewritten]
      exact ⟨fun absent => ⟨rfl, by simp, absent⟩, fun holds => holds.2.2⟩
    · have lengths : before.length = front.length := by
        simp only [List.length_cons, List.length_nil] at exact
        omega
      rw [List.append_assoc] at halves
      have heads := (List.append_inj halves lengths).2
      exact absurd (List.cons.inj heads).1 (by decide)
  · have short : ending.length ≤ 2 := by rcases ends with rfl | rfl <;> decide
    have longer : before.length + ending.length < front.length + [(0x0A : UInt8), 0x0A].length := by
      simp only [List.length_cons, List.length_nil]
      rcases ends with rfl | rfl
      · simp only [List.length_singleton] at exact ⊢
        omega
      · by_cases close : before.length = front.length + 1
        · have heads := (List.append_inj halves (by simp [close])).2
          exact absurd (List.cons.inj heads).1 (by decide)
        · simp only [List.length_cons, List.length_nil] at exact ⊢
          omega
    have fewer := count_after first split (by simp [lf]) longer
    rw [← count_rewritten rest] at fewer
    refine iff_of_false (textLines_ne_of_count fewer) ?_
    rintro ⟨feedEnds, some, -⟩
    obtain ⟨other, length, twice⟩ := lf_twice first feedEnds some place
    have early := least other after twice
    rw [feedEnds] at longer
    simp only [List.length_cons, List.length_nil] at longer
    omega

theorem splitsAtEmptyLine_iff (raw : GoString) : SplitsAtEmptyLine raw ↔ EndsAlike raw := by
  cases found : emptyLine true raw with
  | none =>
    rw [SplitsAtEmptyLine, EndsAlike, found]
    refine iff_of_true ?_ trivial
    have never {ending : GoString} (ends : LineEnd ending) (front rest : GoString)
        (split : raw = front ++ lf :: (ending ++ rest)) : False := by
      obtain ⟨_, _, _, first, -⟩ := emptyLine_first true ends front rest
      rw [← split, found] at first
      cases first
    rcases bodyAfter_cases raw with
      ⟨front, rest, split, -, -⟩ | ⟨-, ⟨-, none⟩ | ⟨front, rest, split, -, -⟩⟩
    · exact (never (.inr rfl) (front ++ [cr]) rest (by rw [split]; simp [crlf, cr, lf])).elim
    · exact none
    · exact (never (.inl rfl) front rest split).elim
  | some line =>
    obtain ⟨before, ending, after⟩ := line
    rw [SplitsAtEmptyLine, EndsAlike, found]
    dsimp only
    rcases bodyAfter_cases raw with
      ⟨front, rest, split, least, body⟩ |
        ⟨missing, ⟨absent, none⟩ | ⟨front, rest, split, least, body⟩⟩
    · rw [← after_crlf found split least]
      simp [body]
    · obtain ⟨first, ends, place⟩ := emptyLine_some found
      refine iff_of_false ?_ ?_
      · rintro ⟨body, returned, -⟩
        rw [none] at returned
        cases returned
      · rintro (⟨crlfEnds, last⟩ | ⟨feedEnds, some, -⟩)
        · obtain ⟨front, -, twice⟩ := crlf_twice first crlfEnds last
          exact missing front after twice
        · obtain ⟨front, -, twice⟩ := lf_twice first feedEnds some place
          exact absent front after twice
    · rw [← after_feeds found split least missing]
      simp [body]

theorem splitHeadersBody_body {platform : Platform} {fields : List HeaderField} {body : GoString}
    (split : splitHeadersBody platform raw = .ok (fields, body)) : bodyAfter raw = .ok body := by
  rw [splitHeadersBody] at split
  rw [bodyAfter]
  cases found : findSeparator raw with
  | error err =>
    rw [found] at split
    cases split
  | ok place =>
    rw [found] at split
    dsimp only [bind, Except.bind] at split
    cases read : readMIMEHeader platform.lib (place.1.take place.2 ++ crlf ++ crlf) with
    | error text =>
      rw [read] at split
      cases split
    | ok mime =>
      rw [read] at split
      cases split
      rfl

end Splits

/-- `splitHeadersBody` splits a message at its first empty line exactly where the line ends
around it are alike, and what it returns is the body of that split. -/
theorem splitHeadersBody_splits (raw : GoString) :
    (SplitsAtEmptyLine raw ↔ EndsAlike raw) ∧
      ∀ platform fields body, splitHeadersBody platform raw = .ok (fields, body) →
        bodyAfter raw = .ok body :=
  ⟨splitsAtEmptyLine_iff raw, fun _ _ _ => splitHeadersBody_body⟩

/-- Two CRLFs in the body of a message whose header ends with line feeds: the receiver reads
three lines and the signature covers one. -/
theorem splitHeadersBody_skips :
    ¬SplitsAtEmptyLine (ascii "From: a@b.c\n\nhi\r\n\r\nbye\r\n") := by
  rintro ⟨body, split, lines⟩
  have later : bodyAfter (ascii "From: a@b.c\n\nhi\r\n\r\nbye\r\n") = .ok (ascii "bye\r\n") := by
    decide
  cases split.symm.trans later
  exact absurd lines (by decide)

end ElvishMail.Dkim
