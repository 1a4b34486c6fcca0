import ElvishMail.Httpserver.Senders
import ElvishMail.Smtp.Transparency

/-!
# The lines of a notice

`writeBodyLines` doubles the period at the start of a line, which the SMTP client does again
when it sends the message and the receiving server undoes once. Where a notice is delivered
locally nothing undoes it.
-/

namespace ElvishMail.Httpserver

open Go Smtp

theorem replaceAll_crlf_feed (rest : GoString) :
    replaceAll (lf :: rest) (ascii "\r\n") (ascii "\n") = lf :: replaceAll rest (ascii "\r\n") (ascii "\n") :=
  rfl

theorem replaceAll_crlf_both (rest : GoString) :
    replaceAll (cr :: lf :: rest) (ascii "\r\n") (ascii "\n") =
      lf :: replaceAll rest (ascii "\r\n") (ascii "\n") := rfl

theorem replaceAll_crlf_other {byte : UInt8} {rest : GoString}
    (alone : byte = cr → rest.head? ≠ some lf) :
    replaceAll (byte :: rest) (ascii "\r\n") (ascii "\n") =
      byte :: replaceAll rest (ascii "\r\n") (ascii "\n") := by
  have other : ¬(ascii "\r\n").isPrefixOf (byte :: rest) = true := by
    intro start
    obtain ⟨same, others, split⟩ := List.cons_prefix_cons.mp (List.isPrefixOf_iff_prefix.mp start)
    exact alone same.symm (split ▸ rfl)
  rw [replaceAll, replaceScan, if_neg other]
  rfl

theorem splitOn_eq_textLines (text : GoString) :
    (replaceAll text (ascii "\r\n") (ascii "\n")).splitOn 0x0A = textLines text := by
  have split (rest : GoString) : (lf :: rest).splitOn 0x0A = [] :: rest.splitOn 0x0A := by
    rw [List.splitOn, List.splitOnP_cons_eq_if_modifyHead]
    rfl
  induction text using lines_induction with
  | nil => rfl
  | feed rest ih =>
    rw [replaceAll_crlf_feed, split, ih, textLines_lf]
  | both rest ih =>
    rw [replaceAll_crlf_both, split, ih, textLines_crlf]
  | plain byte rest plain alone ih =>
    rw [replaceAll_crlf_other alone, textLines_other plain alone, ← ih,
      List.splitOn, List.splitOnP_cons_eq_if_modifyHead]
    exact if_neg fun same => plain (beq_iff_eq.mp same)

theorem writeBodyLines_eq (bodyText : GoString) :
    writeBodyLines bodyText = (textLines bodyText).flatMap fun line => stuffed line ++ [cr, lf] := by
  rw [writeBodyLines, splitOn_eq_textLines]
  refine List.flatMap_congr fun line _ => ?_
  rw [stuffed, show ascii "." = [0x2E] from rfl]
  split <;> rfl

section Notice

variable (server : Server) (situation : Situation) (fromAddr : GoString) (toAddrs : List GoString)
  (subject bodyText : GoString)

def headerBlock : GoString :=
  ascii "Message-ID: <" ++ messageID server situation fromAddr ++ ascii ">\r\n" ++
  ascii "Date: " ++ situation.date ++ ascii "\r\n" ++
  ascii "From: " ++ fromAddr ++ ascii "\r\n" ++
  (ascii "To: " ++ join toAddrs (ascii ", ") ++ ascii "\r\n" ++
    (if subject = [] then [] else ascii "Subject: " ++ subject ++ ascii "\r\n") ++
    ascii "MIME-Version: 1.0\r\n" ++
    ascii "X-Elvish-Send-Mode: plaintext-relay\r\n" ++
    ascii "Content-Type: text/plain; charset=utf-8\r\n" ++
    ascii "Content-Transfer-Encoding: 8bit\r\n" ++
    ascii "\r\n")

theorem buildRFC5322_eq :
    buildRFC5322 server situation fromAddr toAddrs subject bodyText =
      headerBlock server situation fromAddr toAddrs subject ++ writeBodyLines bodyText := by
  simp only [buildRFC5322, headerBlock, List.append_assoc]

theorem headerBlock_split : ∃ front, headerBlock server situation fromAddr toAddrs subject =
    front ++ [cr, lf] ∧ front.getLast? = some lf := by
  refine ⟨_, by rw [headerBlock, ← List.append_assoc]; rfl, ?_⟩
  rw [← List.append_assoc, List.getLast?_append]
  rfl

theorem headerBlock_ends :
    (headerBlock server situation fromAddr toAddrs subject).getLast? = some lf := by
  obtain ⟨front, whole, -⟩ := headerBlock_split server situation fromAddr toAddrs subject
  rw [whole, List.getLast?_append]
  rfl

def Receives (payload text : GoString) : Prop :=
  ∀ rest, readDotBytes .beginLine (writeDotBytes payload ++ rest) = some (text, rest)

/-- Whatever lines are put in front of the message, such as its signature, the peer reads the
header as if it was sent alone, and then the lines of the text. -/
def RelayedAsGiven : Prop :=
  ∀ front, front = [] ∨ front.getLast? = some lf →
    ∃ head, Receives (front ++ headerBlock server situation fromAddr toAddrs subject) head ∧
      Receives (front ++ buildRFC5322 server situation fromAddr toAddrs subject bodyText)
        (head ++ (textLines bodyText).flatMap (· ++ [lf]))

/-- The message that is stored for a local recipient has the lines of the text behind those of
the header. -/
def StoredAsGiven : Prop :=
  textLines (buildRFC5322 server situation fromAddr toAddrs subject bodyText) =
    (textLines (headerBlock server situation fromAddr toAddrs subject)).dropLast ++
      (textLines bodyText ++ [[]])

end Notice

/-- No line starts with a period, and none ends with an odd number of carriage returns. -/
def PlainLines (bodyText : GoString) : Prop :=
  ∀ line ∈ textLines bodyText,
    hasPrefix line [0x2E] = false ∧ Even (line.rtakeWhile (· == cr)).length

section Routes

variable {server : Server} {situation : Situation} {fromAddr : GoString} {toAddrs : List GoString}
  {subject bodyText : GoString}

theorem stuffed_eq_self {line : GoString} : stuffed line = line ↔ hasPrefix line [0x2E] = false := by
  rw [stuffed]
  split
  next dot => exact iff_of_false (List.cons_ne_self _ _) (by simp [dot])
  next plain => exact iff_of_true rfl (Bool.eq_false_iff.mpr plain)

theorem behindReturn_stuffed (line : GoString) :
    behindReturn false (stuffed line) = behindReturn false line := by
  rw [stuffed]
  split <;> rfl

theorem carried_rendered (line : GoString) :
    carried (stuffed line ++ [cr]) =
      if behindReturn false line = true then stuffed line ++ [cr] else stuffed line := by
  rw [carried, behindReturn_concat, behindReturn_stuffed, beq_self_eq_true, Bool.and_true,
    List.dropLast_concat]
  cases behindReturn false line <;> rfl

theorem carried_rendered_eq {line : GoString} :
    carried (stuffed line ++ [cr]) = line ↔
      hasPrefix line [0x2E] = false ∧ Even (line.rtakeWhile (· == cr)).length := by
  rw [carried_rendered, ← stuffed_eq_self, ← @not_not (Even _), ← behindReturn_iff]
  split
  next behind =>
    refine iff_of_false (fun same => ?_) fun both => both.2 behind
    have longer : line.length ≤ (stuffed line).length := by
      rw [stuffed]
      split <;> simp
    have lengths := congrArg List.length same
    rw [List.length_append, List.length_singleton] at lengths
    omega
  next calm => exact (and_iff_left calm).symm

theorem feedless_rendered {line : GoString} (mem : line ∈ textLines bodyText) :
    lf ∉ stuffed line ++ [cr] := by
  have feedless := (within_line mem).1
  have other : lf ≠ cr := by decide
  have dot : lf ≠ 0x2E := by decide
  rw [stuffed]
  split <;> simp [feedless, other, dot]

theorem map_eq_self_iff {α : Type} {change : α → α} {values : List α} :
    values.map change = values ↔ ∀ value ∈ values, change value = value := by
  conv_lhs => rhs; rw [← List.map_id values]
  exact List.map_inj_left

theorem receives_rendered {lines : List GoString} (feedless : ∀ line ∈ lines, lf ∉ line)
    (bodyText : GoString) :
    Receives (lines.flatMap (· ++ [lf]) ++ writeBodyLines bodyText)
      (lines.flatMap (carried · ++ [lf]) ++
        ((textLines bodyText).map fun line => carried (stuffed line ++ [cr])).flatMap (· ++ [lf])) := by
  intro rest
  have rendered : lines.flatMap (· ++ [lf]) ++ writeBodyLines bodyText =
      (lines ++ (textLines bodyText).map fun line => stuffed line ++ [cr]).flatMap (· ++ [lf]) := by
    rw [writeBodyLines_eq, List.flatMap_append, List.flatMap_map]
    simp
  have whole : ∀ line ∈ lines ++ (textLines bodyText).map fun line => stuffed line ++ [cr],
      lf ∉ line := by
    intro line member
    rcases List.mem_append.mp member with member | member
    · exact feedless line member
    · obtain ⟨origin, given, rfl⟩ := List.mem_map.mp member
      exact feedless_rendered given
  rw [rendered, readDotBytes_writeDotBytes whole, List.flatMap_append, List.flatMap_map,
    List.flatMap_map]
  simp [textLines_ne_nil]

theorem receives_lines {lines : List GoString} (feedless : ∀ line ∈ lines, lf ∉ line)
    (some : lines ≠ []) :
    Receives (lines.flatMap (· ++ [lf])) (lines.flatMap (carried · ++ [lf])) :=
  readDotBytes_writeDotBytes feedless some

theorem Receives.unique {payload text other : GoString} (first : Receives payload text)
    (second : Receives payload other) : text = other := by
  have same := (first []).symm.trans (second [])
  cases same
  rfl

theorem relayedAsGiven_iff :
    RelayedAsGiven server situation fromAddr toAddrs subject bodyText ↔ PlainLines bodyText := by
  have header (front : GoString) (ends : front = [] ∨ front.getLast? = some lf) :
      ∃ lines : List GoString, (∀ line ∈ lines, lf ∉ line) ∧ lines ≠ [] ∧
        front ++ headerBlock server situation fromAddr toAddrs subject =
          lines.flatMap (· ++ [lf]) := by
    have last : (front ++ headerBlock server situation fromAddr toAddrs subject).getLast? = some lf := by
      rw [List.getLast?_append, headerBlock_ends]
      rfl
    obtain ⟨lines, feedless, whole⟩ := exists_whole_lines (.inr last)
    refine ⟨lines, feedless, ?_, whole⟩
    rintro rfl
    rw [whole] at last
    cases last
  constructor
  · intro relayed
    obtain ⟨lines, feedless, some, whole⟩ := header [] (.inl rfl)
    obtain ⟨head, alone, together⟩ := relayed [] (.inl rfl)
    rw [whole] at alone
    rw [buildRFC5322_eq, ← List.append_assoc, whole] at together
    have same := (receives_rendered feedless bodyText).unique together
    rw [(receives_lines feedless some).unique alone] at same
    have lines := whole_lines_injective ?_ (fun line member => (within_line member).1)
      (List.append_cancel_left same)
    · exact fun line member => carried_rendered_eq.mp (map_eq_self_iff.mp lines line member)
    · intro line member
      obtain ⟨origin, given, rfl⟩ := List.mem_map.mp member
      exact feedless_carried (feedless_rendered given)
  · intro plain front ends
    obtain ⟨lines, feedless, some, whole⟩ := header front ends
    refine ⟨lines.flatMap (carried · ++ [lf]), ?_, ?_⟩
    · rw [whole]
      exact receives_lines feedless some
    · have given : ((textLines bodyText).map fun line => carried (stuffed line ++ [cr])) =
          textLines bodyText :=
        map_eq_self_iff.mpr fun line member => carried_rendered_eq.mpr (plain line member)
      have received := receives_rendered feedless bodyText
      rwa [given, ← whole, List.append_assoc, ← buildRFC5322_eq] at received

theorem textLines_rendered {lines : List GoString} (feedless : ∀ line ∈ lines, lf ∉ line) :
    textLines (lines.flatMap fun line => line ++ [cr, lf]) = lines ++ [[]] := by
  induction lines with
  | nil => rfl
  | cons line lines ih =>
    obtain ⟨first, others⟩ := List.forall_mem_cons.mp feedless
    rw [List.flatMap_cons, List.append_assoc]
    exact (textLines_whole first _).trans (congrArg (line :: ·) (ih others))

theorem storedAsGiven_iff :
    StoredAsGiven server situation fromAddr toAddrs subject bodyText ↔
      ∀ line ∈ textLines bodyText, hasPrefix line [0x2E] = false := by
  have body : textLines (writeBodyLines bodyText) = (textLines bodyText).map stuffed ++ [[]] := by
    rw [writeBodyLines_eq, ← textLines_rendered, List.flatMap_map]
    intro line member
    obtain ⟨origin, given, rfl⟩ := List.mem_map.mp member
    exact fun feed => feedless_rendered given (List.mem_append_left _ feed)
  have stored : textLines (buildRFC5322 server situation fromAddr toAddrs subject bodyText) =
      (textLines (headerBlock server situation fromAddr toAddrs subject)).dropLast ++
        ((textLines bodyText).map stuffed ++ [[]]) := by
    obtain ⟨front, whole, ends⟩ := headerBlock_split server situation fromAddr toAddrs subject
    have calm : front.getLast? ≠ some cr := by
      rw [ends]
      exact fun same => absurd (Option.some.inj same) (by decide)
    obtain ⟨lines, last, read⟩ := textLines_last front
    have message : textLines (front ++ ([cr, lf] ++ writeBodyLines bodyText)) =
        lines ++ (last ++ []) :: textLines (writeBodyLines bodyText) :=
      textLines_cut read (textLines_crlf (writeBodyLines bodyText)) calm
    rw [buildRFC5322_eq, whole, List.append_assoc, textLines_cut read (textLines_crlf []) calm,
      message, body]
    simp [textLines]
  rw [StoredAsGiven, stored, List.append_cancel_left_eq, List.append_cancel_right_eq, map_eq_self_iff]
  exact forall₂_congr fun line _ => stuffed_eq_self

/-- A notice that is relayed and one that is stored both have the lines of the text exactly where
no line starts with a period and none ends with an odd number of carriage returns. -/
theorem buildRFC5322_lines (server : Server) (situation : Situation) (fromAddr : GoString)
    (toAddrs : List GoString) (subject bodyText : GoString) :
    (RelayedAsGiven server situation fromAddr toAddrs subject bodyText ∧
        StoredAsGiven server situation fromAddr toAddrs subject bodyText) ↔ PlainLines bodyText := by
  rw [relayedAsGiven_iff, storedAsGiven_iff]
  exact and_iff_left_of_imp fun plain line member => (plain line member).1

/-- A line of the text that starts with a period: the peer reads two of them, and so does the
local recipient. -/
theorem buildRFC5322_doubles :
    ¬RelayedAsGiven forgedServer forgedSituation (ascii "a@e.org") [ascii "b@y.org"] []
        (ascii "hi\n.profile\n") ∧
      ¬StoredAsGiven forgedServer forgedSituation (ascii "a@e.org") [ascii "b@y.org"] []
        (ascii "hi\n.profile\n") := by
  have listed : ascii ".profile" ∈ textLines (ascii "hi\n.profile\n") := by decide
  have period : hasPrefix (ascii ".profile") [0x2E] = true := by decide
  rw [relayedAsGiven_iff, storedAsGiven_iff]
  exact ⟨fun plain => Bool.eq_false_iff.mp (plain _ listed).1 period,
    fun plain => Bool.eq_false_iff.mp (plain _ listed) period⟩

end Routes

end ElvishMail.Httpserver
