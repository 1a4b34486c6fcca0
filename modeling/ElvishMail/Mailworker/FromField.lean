import ElvishMail.Go.Mail
import ElvishMail.Mailworker.HeaderIndex

/-!
# The sender that the worker reads off a message

The header of a message goes up to its first empty line, and its sender is the address in the
field named `From`. `extractFromHeader` takes the first line of that name behind a CRLF anywhere
in the message, or else its first line, and reads no further than the next CRLF.
-/

namespace ElvishMail.Mailworker

open Go

variable {lib : Library} {payload text value address : GoString} {place : Nat}

def headerSection (payload : GoString) : GoString :=
  match emptyLine true payload with
  | some (before, _, _) => before
  | none => payload

/-- Where the first line of the name begins, in a text that begins with a line or inside one. -/
def fieldPlace : Bool → GoString → Option Nat
  | _, [] => none
  | start, byte :: rest =>
    if start = true ∧ BeginsFrom (byte :: rest) then some 0
    else (fieldPlace (byte == lf) rest).map (· + 1)

/-- The value of a field from what is behind the colon: its line, and the lines that go on. -/
def fieldValue (text : GoString) : GoString :=
  match textLines text with
  | [] => []
  | line :: others =>
    (trimBlanks line ++ (others.takeWhile (·.head?.any isBlank)).flatMap fun next =>
      0x20 :: trimBlanks next).dropWhile isBlank

def SenderField (lib : Library) (payload : GoString) (place : Nat) (address : GoString) : Prop :=
  fieldPlace true (headerSection payload) = some place ∧
    ∃ found, lib.parseAddress (fieldValue ((headerSection payload).drop (place + 5))) = some found ∧
      address = toLower lib found ∧ address ≠ []

/-- The worker finds the From field and reads its address. -/
def ReadsSender (lib : Library) (payload : GoString) : Prop :=
  looksLikeRFC822Message lib payload = true →
    ∃ place address, SenderField lib payload place address ∧
      indexHeader lib payload (ascii "From:") = some place ∧
      extractFromHeader lib payload = some address

def Bracketed (text : GoString) : Prop :=
  ∃ name inner rest, text = name ++ 0x3C :: (inner ++ 0x3E :: rest)

/-- The address that a text names: what is between its first opening angle bracket and the
next closing one, or all of it. -/
def Names (lib : Library) (text address : GoString) : Prop :=
  (∃ name inner rest, trimSpace text = name ++ 0x3C :: (inner ++ 0x3E :: rest) ∧
      0x3C ∉ name ∧ 0x3E ∉ inner ∧ address = toLower lib (trimSpace inner)) ∨
    (¬Bracketed (trimSpace text) ∧ address = toLower lib (trimSpace text))

/-- The first line of the name behind a CRLF is the field, in front of which the text has the
length of its lower case; or there is none and the field comes first. -/
def FieldFound (lib : Library) (payload : GoString) (place : Nat) : Prop :=
  match fromPlace payload with
  | none => place = 0
  | some other => (toLower lib (payload.take other)).length + 2 = place

/-- The field is found, and its text up to the next CRLF names its address. -/
def SenderInPlace (lib : Library) (payload : GoString) : Prop :=
  looksLikeRFC822Message lib payload = true →
    ∃ place address, SenderField lib payload place address ∧ FieldFound lib payload place ∧
      ∃ stop, index (payload.drop place) (ascii "\r\n") = some stop ∧
        Names lib ((payload.drop (place + 5)).take (stop - 5)) address

theorem bracket_unique {name inner rest front tail : GoString}
    (split : name ++ 0x3C :: (inner ++ 0x3E :: rest) = front ++ 0x3C :: tail) (absent : 0x3C ∉ front) :
    0x3E ∈ tail := by
  rcases List.append_eq_append_iff.mp split with ⟨between, rfl, later⟩ | ⟨between, rfl, later⟩
  · cases between with
    | nil =>
      rw [← (List.cons.inj later).2]
      simp
    | cons first between =>
      obtain ⟨rfl, -⟩ := List.cons.inj later
      simp at absent
  · cases between with
    | nil =>
      rw [(List.cons.inj later).2]
      simp
    | cons first between =>
      obtain ⟨-, rfl⟩ := List.cons.inj later
      simp

theorem names_bracketed {name inner rest : GoString}
    (split : trimSpace text = name ++ 0x3C :: (inner ++ 0x3E :: rest)) (opens : 0x3C ∉ name)
    (closes : 0x3E ∉ inner) :
    toLower lib (trimSpace inner) = address ↔ Names lib text address := by
  constructor
  · rintro rfl
    exact .inl ⟨name, inner, rest, split, opens, closes, rfl⟩
  · rintro (⟨other, inside, more, same, otherOpens, otherCloses, rfl⟩ | ⟨absent, -⟩)
    · have tails := (first_unique (split.symm.trans same) opens otherOpens).2
      rw [(first_unique tails closes otherCloses).1]
    · exact absurd ⟨name, inner, rest, split⟩ absent

theorem names_iff (text address : GoString) :
    (match indexByte (trimSpace text) 0x3C with
      | none => toLower lib (trimSpace text)
      | some lt =>
        match indexByte ((trimSpace text).drop lt) 0x3E with
        | none => toLower lib (trimSpace text)
        | some gt =>
          if 0 < gt then toLower lib (trimSpace (((trimSpace text).take (lt + gt)).drop (lt + 1)))
          else toLower lib (trimSpace text)) = address ↔
      Names lib text address := by
  have whole (absent : ¬Bracketed (trimSpace text)) :
      toLower lib (trimSpace text) = address ↔ Names lib text address := by
    constructor
    · rintro rfl
      exact .inr ⟨absent, rfl⟩
    · rintro (⟨name, inner, rest, split, -⟩ | ⟨-, rfl⟩)
      · exact absurd ⟨name, inner, rest, split⟩ absent
      · rfl
  cases opening : indexByte (trimSpace text) 0x3C with
  | none =>
    refine whole ?_
    rintro ⟨name, inner, rest, split⟩
    refine indexByte_eq_none.mp opening ?_
    rw [split]
    simp
  | some lt =>
    obtain ⟨name, tail, split, rfl, absent⟩ := indexByte_eq_some opening
    have dropped : (trimSpace text).drop name.length = 0x3C :: tail := by
      rw [split, List.drop_left]
    dsimp only
    rw [dropped]
    cases closing : indexByte (0x3C :: tail) 0x3E with
    | none =>
      refine whole ?_
      rintro ⟨other, inner, rest, same⟩
      have inside := bracket_unique (same.symm.trans split) absent
      exact indexByte_eq_none.mp closing (List.mem_cons_of_mem _ inside)
    | some gt =>
      obtain ⟨start, rest, cut, rfl, closes⟩ := indexByte_eq_some closing
      cases start with
      | nil => exact absurd (List.cons.inj cut).1 (by decide)
      | cons first inner =>
        obtain ⟨rfl, rfl⟩ := List.cons.inj cut
        have taken : ((trimSpace text).take (name.length + (0x3C :: inner).length)).drop
            (name.length + 1) = inner := by
          rw [split, List.take_length_add_append, List.drop_length_add_append]
          exact List.take_left' rfl
        dsimp only
        rw [if_pos (List.length_pos_of_ne_nil (List.cons_ne_nil _ _)), taken]
        exact names_bracketed split absent fun member => closes (List.mem_cons_of_mem _ member)

theorem headerSection_prefix (payload : GoString) : headerSection payload <+: payload := by
  unfold headerSection
  split
  next before ending after found =>
    obtain ⟨split, -, -⟩ := emptyLine_some found
    exact ⟨ending ++ after, split.symm⟩
  next => exact List.prefix_rfl

theorem fieldPlace_begins {start : Bool} (found : fieldPlace start text = some place) :
    place ≤ text.length ∧ BeginsFrom (text.drop place) := by
  induction text generalizing start place with
  | nil => cases found
  | cons byte rest ih =>
    rw [fieldPlace] at found
    split at found
    next here =>
      cases found
      exact ⟨Nat.zero_le _, here.2⟩
    next =>
      obtain ⟨later, known, rfl⟩ := Option.map_eq_some_iff.mp found
      obtain ⟨inside, begins⟩ := ih known
      exact ⟨Nat.succ_le_succ inside, begins⟩

theorem SenderField.begins (field : SenderField lib payload place address) :
    place ≤ payload.length ∧ BeginsFrom (payload.drop place) := by
  obtain ⟨inside, begins⟩ := fieldPlace_begins field.1
  obtain ⟨rest, whole⟩ := headerSection_prefix payload
  constructor
  · rw [← whole, List.length_append]
    omega
  · rw [← whole, List.drop_append_of_le_length inside, BeginsFrom, List.map_append]
    exact begins.trans (List.prefix_append ..)

theorem SenderField.found_iff (tables : FromSteady lib)
    (field : SenderField lib payload place address) :
    indexHeader lib payload (ascii "From:") = some place ↔ FieldFound lib payload place := by
  rw [indexHeader_eq tables, FieldFound]
  cases found : fromPlace payload with
  | none =>
    dsimp only
    constructor
    · intro same
      split at same
      · exact (Option.some.inj same).symm
      · cases same
    · rintro rfl
      exact if_pos field.begins.2
  | some other =>
    cases other with
    | zero =>
      obtain ⟨front, rest, split, size, -⟩ := fromPlace_split found
      rw [List.length_eq_zero_iff.mp size, List.nil_append] at split
      refine iff_of_false ?_ ?_
      · rintro same
        cases same
        obtain ⟨others, begins⟩ := field.begins.2
        rw [split] at begins
        exact absurd (List.cons.inj begins).1 (by decide)
      · intro same
        have none : headerSection payload = [] := by rw [headerSection, split]; rfl
        have missing := field.1
        rw [none] at missing
        cases missing
    | succ less => exact Option.some_inj

theorem extractFromHeader_iff (found : indexHeader lib payload (ascii "From:") = some place)
    (inside : place ≤ payload.length) (begins : BeginsFrom (payload.drop place))
    (nonempty : address ≠ []) :
    extractFromHeader lib payload = some address ↔
      ∃ stop, index (payload.drop place) (ascii "\r\n") = some stop ∧
        Names lib ((payload.drop (place + 5)).take (stop - 5)) address := by
  rw [extractFromHeader, found]
  dsimp only
  rw [if_neg (by omega)]
  cases stops : index (payload.drop place) (ascii "\r\n") with
  | none =>
    refine iff_of_false (fun same => nonempty (Option.some.inj same).symm) ?_
    rintro ⟨stop, missing, -⟩
    cases missing
  | some stop =>
    obtain ⟨low, high⟩ := begins.stop stops
    rw [List.length_drop] at high
    have cut : slice payload (place + 5) (place + stop) =
        some ((payload.drop (place + 5)).take (stop - 5)) := by
      rw [slice, if_pos ⟨by omega, by omega⟩, List.drop_take]
      congr 2
      omega
    dsimp only
    rw [cut, Option.map_some, Option.some_inj]
    refine (names_iff _ _).trans ⟨fun names => ⟨stop, rfl, names⟩, ?_⟩
    rintro ⟨other, same, names⟩
    cases same
    exact names

/-- The worker gets the sender of a message that it takes for one exactly where the search finds
the field and the address stands in front of the next CRLF. -/
theorem extractFromHeader_reads (lib : Library) (tables : FromSteady lib) (payload : GoString) :
    ReadsSender lib payload ↔ SenderInPlace lib payload := by
  refine imp_congr_right fun _ => exists_congr fun place => exists_congr fun address => ?_
  refine and_congr_right fun field => ?_
  obtain ⟨inside, begins⟩ := field.begins
  have nonempty : address ≠ [] := by
    obtain ⟨-, -, -, -, nonempty⟩ := field
    exact nonempty
  constructor
  · rintro ⟨found, read⟩
    exact ⟨(field.found_iff tables).mp found,
      (extractFromHeader_iff found inside begins nonempty).mp read⟩
  · rintro ⟨known, names⟩
    have found := (field.found_iff tables).mpr known
    exact ⟨found, (extractFromHeader_iff found inside begins nonempty).mpr names⟩

/-- The library with the header as `net/mail` reads it. -/
def mailLibrary : Library := { Library.plain with readMessage := readMessage }

/-- A sender in the header, and a line of that name in the body. -/
def quotedPayload : GoString :=
  ascii "From: ann@a.org\r\nTo: bob@b.org\r\n\r\nThey wrote:\r\nFrom: eve@x.org\r\n"

/-- The sender that is read is the one in the body. -/
theorem extractFromHeader_misreads :
    extractFromHeader mailLibrary quotedPayload = some (ascii "eve@x.org") ∧
      ¬ReadsSender mailLibrary quotedPayload := by
  have read : looksLikeRFC822Message mailLibrary quotedPayload = true ∧
      fieldPlace true (headerSection quotedPayload) = some 0 ∧
      indexHeader mailLibrary quotedPayload (ascii "From:") ≠ some 0 ∧
      extractFromHeader mailLibrary quotedPayload = some (ascii "eve@x.org") := by
    decide
  refine ⟨read.2.2.2, fun reads => ?_⟩
  obtain ⟨place, address, field, found, -⟩ := reads read.1
  cases read.2.1.symm.trans field.1
  exact read.2.2.1 found

def plainPayload : GoString := ascii "To: b@c.org\r\nFrom: Ann@a.org\r\n\r\nhi"

/-- The sender of that message is read. -/
theorem extractFromHeader_reads_second :
    looksLikeRFC822Message mailLibrary plainPayload = true ∧ ReadsSender mailLibrary plainPayload := by
  have known : looksLikeRFC822Message mailLibrary plainPayload = true ∧
      fieldPlace true (headerSection plainPayload) = some 13 ∧
      mailLibrary.parseAddress (fieldValue ((headerSection plainPayload).drop 18)) =
        some (ascii "Ann@a.org") ∧
      ascii "ann@a.org" = toLower mailLibrary (ascii "Ann@a.org") ∧
      fromPlace plainPayload = some 11 ∧
      (toLower mailLibrary (plainPayload.take 11)).length + 2 = 13 ∧
      index (plainPayload.drop 13) (ascii "\r\n") = some 15 ∧
      trimSpace ((plainPayload.drop 18).take 10) = ascii "Ann@a.org" := by
    decide
  obtain ⟨accepted, place, parsed, lower, first, kept, stop, text⟩ := known
  refine ⟨accepted, (extractFromHeader_reads mailLibrary plain_fromSteady plainPayload).mpr fun _ => ?_⟩
  refine ⟨13, ascii "ann@a.org", ⟨place, _, parsed, lower, by decide⟩, ?_, 15, stop, .inr ⟨?_, ?_⟩⟩
  · rw [FieldFound, first]
    exact kept
  · rw [text]
    rintro ⟨name, inner, rest, split⟩
    have member : (0x3C : UInt8) ∈ ascii "Ann@a.org" := by
      rw [split]
      simp
    exact absurd member (by decide)
  · rw [text, lower]

end ElvishMail.Mailworker
