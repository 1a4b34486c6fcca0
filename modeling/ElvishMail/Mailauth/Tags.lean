import ElvishMail.Go.Encoding
import ElvishMail.Go.Fields
import ElvishMail.Mailauth.Check

/-!
# Tags of a DMARC record

A record is a list of tags: the version, and behind semicolons the others, with white space
around a name and a value where one likes. `checkDMARC` does not parse it. It looks for `p=`,
anywhere in the record, and takes what follows up to a semicolon or white space for the policy.
-/

namespace ElvishMail.Mailauth

open Go Smtp Elvishserver Openpgp

def isWSP (byte : UInt8) : Bool := byte == 0x20 || byte == 0x09

def isTagByte (byte : UInt8) : Bool :=
  inRange 48 57 byte || inRange 65 90 byte || inRange 97 122 byte || byte == 0x5F

/-- A byte of a value: printable ASCII without the semicolon, and white space inside of it. -/
def isValueByte (byte : UInt8) : Bool := isWSP byte || inRange 0x21 0x7E byte && byte != 0x3B

abbrev lower (text : GoString) : GoString := text.map lowerByte

/-- A tag as it is written, with the white space around its parts. -/
structure Tag where
  lead : GoString
  name : GoString
  gap : GoString
  start : GoString
  value : GoString
  stop : GoString
  blanks : (lead ++ gap ++ start ++ stop).all isWSP = true
  named : name ≠ [] ∧ name.all isTagByte = true
  valued : value.all isValueByte = true
  trimmed : ∀ byte ∈ value.head?.toList ++ value.getLast?.toList, isWSP byte = false
deriving DecidableEq

def Tag.text (tag : Tag) : GoString :=
  tag.lead ++ tag.name ++ tag.gap ++ 0x3D :: (tag.start ++ tag.value ++ tag.stop)

/-- A record: the version, then tags, and maybe one more semicolon. -/
structure Record where
  version : Tag
  tags : List Tag
  trailing : Option GoString
  opens : version.lead = []
  isVersion : lower version.name = ascii "v" ∧ lower version.value = ascii "dmarc1"
  blank : ∀ text ∈ trailing, text.all isWSP = true
deriving DecidableEq

namespace Record

variable (record : Record)

def text : GoString :=
  record.version.text ++ (record.tags.map Tag.text ++ record.trailing.toList).flatMap (0x3B :: ·)

/-- The value of the `p` tag. -/
def policyValue : Option GoString :=
  (record.tags.find? fun tag => lower tag.name == ascii "p").map fun tag => lower tag.value

/-- The policy of a record is to reject or to quarantine. -/
def Enforces : Prop :=
  record.policyValue = some (ascii "reject") ∨ record.policyValue = some (ascii "quarantine")

instance : Decidable record.Enforces := inferInstanceAs (Decidable (_ ∨ _))

end Record

def firstWord (text : GoString) : GoString := text.takeWhile (!isWSP ·)

/-- What follows the first `p=` of a tag, if there is one: the first word of the value, if the
name ends in `p` with nothing before or after the equals sign, and no word at all, if there
is something after it; otherwise a word within the value. -/
def Tag.read (tag : Tag) : Option GoString :=
  if tag.gap = [] ∧ (lower tag.name).getLast? = some 0x70 then
    some (if tag.start = [] then firstWord (lower tag.value) else [])
  else (behind (lower tag.value) (ascii "p=")).map firstWord

/-- What has to be in a record for `checkDMARC` to enforce it: no white space around the equals
sign of the version, and one of two words behind the first `p=` of a tag. -/
def Record.Shows (record : Record) : Prop :=
  (record.version.gap = [] ∧ record.version.start = []) ∧
    (record.tags.findSome? Tag.read = some (ascii "reject") ∨
      record.tags.findSome? Tag.read = some (ascii "quarantine"))

instance Record.decidableShows (record : Record) : Decidable record.Shows :=
  inferInstanceAs (Decidable (_ ∧ _))

section Reading

variable {front rest text value stop : GoString}

/-- What `policy` takes from a text. -/
def readPolicy (text : GoString) : Option GoString :=
  (behind text (ascii "p=")).map fun rest => rest.takeWhile fun byte => !(ascii "; \t").contains byte

theorem key_eq : ascii "p=" = [0x70, 0x3D] := by decide

theorem readPolicy_append_cons (front rest : GoString) :
    readPolicy (front ++ 0x3B :: rest) = (readPolicy front).or (readPolicy rest) := by
  have stops (tail : GoString) :
      (tail ++ 0x3B :: rest).takeWhile (fun byte => !(ascii "; \t").contains byte) =
        tail.takeWhile fun byte => !(ascii "; \t").contains byte := by
    induction tail with
    | nil => rfl
    | cons byte tail ih =>
      rw [List.cons_append, List.takeWhile_cons, List.takeWhile_cons, ih]
  unfold readPolicy
  rw [behind_append_cons (by decide) (by decide)]
  cases behind front (ascii "p=") with
  | none => rfl
  | some tail => simp only [Option.map_some, Option.some_or, stops]

theorem contains_stop {byte : UInt8} (other : byte ≠ 0x3B) :
    (ascii "; \t").contains byte = isWSP byte := by
  have bytes : ascii "; \t" = [0x3B, 0x20, 0x09] := by decide
  rw [Bool.eq_iff_iff]
  simp [bytes, isWSP, other]

theorem takeWhile_blank (blank : stop.all isWSP = true) (some : stop ≠ []) (rest : GoString) :
    (stop ++ rest).takeWhile (fun byte => !(ascii "; \t").contains byte) = [] := by
  obtain ⟨byte, more, rfl⟩ := List.exists_cons_of_ne_nil some
  rw [List.all_cons, Bool.and_eq_true] at blank
  have other : byte ≠ 0x3B := by
    rintro rfl
    cases blank.1
  rw [List.cons_append, List.takeWhile_cons, contains_stop other, blank.1]
  rfl

theorem takeWhile_word (plain : 0x3B ∉ value) (blank : stop.all isWSP = true) :
    (value ++ stop).takeWhile (fun byte => !(ascii "; \t").contains byte) = firstWord value := by
  induction value with
  | nil =>
    by_cases some : stop = []
    · rw [some]
      rfl
    · have nothing := takeWhile_blank blank some []
      rwa [List.append_nil] at nothing
  | cons byte value ih =>
    rw [List.mem_cons, not_or] at plain
    rw [List.cons_append, List.takeWhile_cons, contains_stop (Ne.symm plain.1), firstWord,
      List.takeWhile_cons, ih plain.2, firstWord]

theorem behind_key (absent : 0x3D ∉ front) (rest : GoString) :
    behind (front ++ 0x70 :: 0x3D :: rest) (ascii "p=") = some rest := by
  rw [key_eq]
  induction front with
  | nil =>
    rw [List.nil_append, behind_cons]
    rfl
  | cons byte front ih =>
    rw [List.mem_cons, not_or] at absent
    have elsewhere : ([0x70, 0x3D] : GoString).isPrefixOf
        (byte :: (front ++ 0x70 :: 0x3D :: rest)) = false := by
      cases front with
      | nil => simp [List.isPrefixOf]
      | cons next front =>
        rw [List.mem_cons, not_or] at absent
        simp [List.isPrefixOf, absent.2.1]
    rw [List.cons_append, behind_cons, elsewhere, ih absent.2]
    rfl

theorem behind_other (absent : 0x3D ∉ front) (last : front.getLast? ≠ some 0x70) (rest : GoString) :
    behind (front ++ 0x3D :: rest) (ascii "p=") = behind rest (ascii "p=") := by
  rw [key_eq]
  induction front with
  | nil =>
    rw [List.nil_append, behind_cons]
    rfl
  | cons byte front ih =>
    rw [List.mem_cons, not_or] at absent
    have elsewhere : ([0x70, 0x3D] : GoString).isPrefixOf
        (byte :: (front ++ 0x3D :: rest)) = false := by
      cases front with
      | nil =>
        have other : (0x70 : UInt8) ≠ byte := fun same => last (by rw [← same]; rfl)
        simp [List.isPrefixOf, other]
      | cons next front =>
        rw [List.mem_cons, not_or] at absent
        simp [List.isPrefixOf, absent.2.1]
    have last' : front.getLast? ≠ some 0x70 := by
      cases front with
      | nil => nofun
      | cons next front => rwa [List.getLast?_cons_cons] at last
    rw [List.cons_append, behind_cons, elsewhere, ih absent.2 last']
    rfl

end Reading

theorem blank_byte : ∀ byte : UInt8,
    (isWSP byte = true → byte.toNat < 0x80 ∧ lowerByte byte = byte ∧ byte ≠ 0x3D ∧ byte ≠ 0x70) ∧
    (isTagByte byte = true →
      byte.toNat < 0x80 ∧ isSpace byte.toNat = false ∧ lowerByte byte ≠ 0x3D) :=
  forall_byte (by decide +kernel)

theorem wsp_byte (byte : UInt8) (blank : isWSP byte = true) :
    byte.toNat < 0x80 ∧ lowerByte byte = byte ∧ byte ≠ 0x3D ∧ byte ≠ 0x70 :=
  (blank_byte byte).1 blank

theorem tag_byte (byte : UInt8) (tag : isTagByte byte = true) :
    byte.toNat < 0x80 ∧ isSpace byte.toNat = false ∧ lowerByte byte ≠ 0x3D :=
  (blank_byte byte).2 tag

theorem value_byte : ∀ byte : UInt8, isValueByte byte = true →
    byte.toNat < 0x80 ∧ lowerByte byte ≠ 0x3B ∧ (lowerByte byte).toNat < 0x80 ∧
      (isWSP (lowerByte byte) = false → isSpace (lowerByte byte).toNat = false) :=
  forall_byte (by decide +kernel)

theorem solid_byte (byte : UInt8) (value : isValueByte byte = true) (solid : isWSP byte = false) :
    isSpace byte.toNat = false := by
  simp [isValueByte, isWSP, inRange, isSpace, ← UInt8.toNat_inj] at *
  omega

theorem absent_of_blank {text : GoString} {byte : UInt8} (blank : text.all isWSP = true)
    (other : isWSP byte = false) : byte ∉ text := by
  intro member
  rw [List.all_eq_true.mp blank byte member] at other
  cases other

theorem lower_blank {text : GoString} (blank : text.all isWSP = true) : lower text = text := by
  have each : ∀ byte ∈ text, lowerByte byte = byte := fun byte member =>
    (wsp_byte byte (List.all_eq_true.mp blank byte member)).2.1
  rw [lower, List.map_congr_left each, List.map_id']

namespace Tag

variable (tag : Tag)

theorem blank_parts : tag.lead.all isWSP = true ∧ tag.gap.all isWSP = true ∧
    tag.start.all isWSP = true ∧ tag.stop.all isWSP = true := by
  have blanks := tag.blanks
  simp only [List.all_append, Bool.and_eq_true] at blanks
  exact ⟨blanks.1.1.1, blanks.1.1.2, blanks.1.2, blanks.2⟩

theorem lower_text : lower tag.text =
    tag.lead ++ lower tag.name ++ tag.gap ++ 0x3D :: (tag.start ++ lower tag.value ++ tag.stop) := by
  obtain ⟨lead, gap, start, stop⟩ := tag.blank_parts
  have parts : lower tag.text = lower tag.lead ++ lower tag.name ++ lower tag.gap ++
      0x3D :: (lower tag.start ++ lower tag.value ++ lower tag.stop) := by
    simp only [lower, text, List.map_append, List.map_cons]
    rfl
  rw [parts, lower_blank lead, lower_blank gap, lower_blank start, lower_blank stop]

theorem no_equals : 0x3D ∉ tag.lead ++ lower tag.name ++ tag.gap := by
  obtain ⟨lead, gap, -, -⟩ := tag.blank_parts
  have name : 0x3D ∉ lower tag.name := by
    intro member
    obtain ⟨byte, there, same⟩ := List.mem_map.mp member
    exact (tag_byte byte (List.all_eq_true.mp tag.named.2 byte there)).2.2 same
  simp [absent_of_blank lead, absent_of_blank gap, name, isWSP]

theorem behind_value : behind (tag.start ++ lower tag.value ++ tag.stop) (ascii "p=") =
    (behind (lower tag.value) (ascii "p=")).map (· ++ tag.stop) := by
  obtain ⟨-, -, start, stop⟩ := tag.blank_parts
  have skipped := @behind_skip tag.start 0x70 (absent_of_blank start rfl) (lower tag.value ++ tag.stop) [0x3D]
  rw [← key_eq] at skipped
  rw [List.append_assoc, skipped]
  cases closing : tag.stop with
  | nil => simp
  | cons byte rest =>
    rw [closing, List.all_cons, Bool.and_eq_true] at stop
    obtain ⟨-, -, equals, letter⟩ := wsp_byte byte stop.1
    have nothing := @behind_skip rest 0x70 (absent_of_blank stop.2 rfl) [] [0x3D]
    rw [List.append_nil, behind_nil (by decide), ← key_eq] at nothing
    rw [behind_append_cons (by rw [key_eq]; simp [equals, letter]) (by decide), nothing, Option.or_none]

theorem no_semicolon : 0x3B ∉ lower tag.value := by
  intro member
  obtain ⟨byte, there, same⟩ := List.mem_map.mp member
  exact (value_byte byte (List.all_eq_true.mp tag.valued byte there)).2.1 same

theorem readPolicy_lower : readPolicy (lower tag.text) = tag.read := by
  obtain ⟨lead, gap, start, stop⟩ := tag.blank_parts
  have absent := tag.no_equals
  rw [readPolicy, lower_text, read]
  split
  next ends =>
    obtain ⟨closed, last⟩ := ends
    obtain ⟨front, name⟩ := List.getLast?_eq_some_iff.mp last
    rw [closed, name, List.append_nil, ← List.append_assoc] at absent ⊢
    rw [List.append_assoc, List.singleton_append,
      behind_key (fun member => absent (List.mem_append_left _ member)), Option.map_some]
    congr 1
    split
    next opened => rw [opened, List.nil_append, takeWhile_word tag.no_semicolon stop]
    next opened => rw [List.append_assoc, takeWhile_blank start opened]
  next other =>
    rw [behind_other absent, behind_value, Option.map_map]
    · refine Option.map_congr fun tail found => ?_
      have plain : 0x3B ∉ tail := fun member =>
        tag.no_semicolon ((behind_suffix (Option.mem_def.mp found)).subset member)
      exact takeWhile_word plain stop
    · intro last
      rw [List.getLast?_append] at last
      cases closing : tag.gap.getLast? with
      | some byte =>
        rw [closing] at last
        obtain ⟨front, same⟩ := List.getLast?_eq_some_iff.mp closing
        have blank := List.all_eq_true.mp gap byte
          (same ▸ List.mem_append_right _ (List.mem_singleton_self _))
        exact (wsp_byte byte blank).2.2.2 (Option.some.inj last)
      | none =>
        have closed := List.getLast?_eq_none_iff.mp closing
        have some : lower tag.name ≠ [] := by simpa using tag.named.1
        rw [closing, Option.none_or, List.getLast?_append_of_ne_nil _ some] at last
        exact other ⟨closed, last⟩

theorem read_solid {word : GoString} (found : tag.read = some word) :
    ∀ byte ∈ word, byte.toNat < 0x80 ∧ isSpace byte.toNat = false := by
  have solid {rest : GoString} (within : rest <:+ lower tag.value) :
      ∀ byte ∈ firstWord rest, byte.toNat < 0x80 ∧ isSpace byte.toNat = false := by
    intro byte member
    obtain ⟨given, there, rfl⟩ :=
      List.mem_map.mp (within.subset ((List.takeWhile_sublist _).subset member))
    obtain ⟨-, -, small, visible⟩ := value_byte given (List.all_eq_true.mp tag.valued given there)
    exact ⟨small, visible (by simpa using List.mem_takeWhile_imp member)⟩
  unfold read at found
  split at found
  · split at found
    · cases found
      exact solid (List.suffix_refl _)
    · cases found
      nofun
  · obtain ⟨rest, place, rfl⟩ := Option.map_eq_some_iff.mp found
    exact solid (behind_suffix place)

theorem text_small : ∀ byte ∈ tag.text, byte.toNat < 0x80 := by
  obtain ⟨lead, gap, start, stop⟩ := tag.blank_parts
  have blank {text : GoString} (all : text.all isWSP = true) : ∀ byte ∈ text, byte.toNat < 0x80 :=
    fun byte member => (wsp_byte byte (List.all_eq_true.mp all byte member)).1
  intro byte member
  simp only [text, List.mem_append, List.mem_cons] at member
  rcases member with ((inLead | inName) | inGap) | rfl | (inStart | inValue) | inStop
  · exact blank lead byte inLead
  · exact (tag_byte byte (List.all_eq_true.mp tag.named.2 byte inName)).1
  · exact blank gap byte inGap
  · decide
  · exact blank start byte inStart
  · exact (value_byte byte (List.all_eq_true.mp tag.valued byte inValue)).1
  · exact blank stop byte inStop

end Tag

theorem readPolicy_segments (front : GoString) (segments : List GoString) :
    readPolicy (front ++ segments.flatMap (0x3B :: ·)) =
      (readPolicy front).or (segments.findSome? readPolicy) := by
  induction segments generalizing front with
  | nil => simp
  | cons segment rest ih =>
    rw [List.flatMap_cons, List.cons_append, readPolicy_append_cons, ih,
      List.findSome?_cons]
    cases readPolicy segment <;> rfl

theorem policy_eq (text : GoString) :
    policy text = ((readPolicy text).map trimSpace).getD (ascii "none") := by
  have cut (rest : GoString) :
      (indexAny rest (ascii "; \t")).elim (trimSpace rest) (fun stop => trimSpace (rest.take stop)) =
        trimSpace (rest.takeWhile fun byte => !(ascii "; \t").contains byte) := by
    rw [List.takeWhile_eq_take_findIdx_not]
    simp only [Bool.not_not]
    unfold indexAny
    cases missing : rest.findIdx? ((ascii "; \t").contains ·) with
    | some stop => rw [Option.elim_some, (List.findIdx?_eq_some_iff_findIdx_eq.mp missing).2]
    | none =>
      rw [Option.elim_none]
      rw [List.findIdx_eq_length_of_false fun byte member => ?_, List.take_length]
      exact List.findIdx?_eq_none_iff.mp missing byte member
  unfold policy readPolicy behind
  cases index text (ascii "p=") with
  | none => rfl
  | some place =>
    refine Eq.trans ?_ (cut (text.drop (place + 2)))
    dsimp only
    cases indexAny (text.drop (place + 2)) (ascii "; \t") <;> rfl

namespace Record

variable (record : Record)

theorem readPolicy_lower : readPolicy (lower record.text) = record.tags.findSome? Tag.read := by
  have whole : lower record.text = lower record.version.text ++
      (record.tags.map (fun tag => lower tag.text) ++ record.trailing.toList.map lower).flatMap
        (0x3B :: ·) := by
    simp only [text, lower, List.map_append, List.map_flatMap, List.flatMap_append, List.flatMap_map,
      List.map_cons]
    rfl
  have version : readPolicy (lower record.version.text) = none := by
    have last : ¬(record.version.gap = [] ∧ (ascii "v").getLast? = some 0x70) := fun both =>
      absurd both.2 (by decide)
    rw [Tag.readPolicy_lower, Tag.read, record.isVersion.1, record.isVersion.2, if_neg last]
    decide
  have trailing : (record.trailing.toList.map lower).findSome? readPolicy = none := by
    rw [List.findSome?_eq_none_iff]
    intro segment member
    obtain ⟨text, given, rfl⟩ := List.mem_map.mp member
    have blank := record.blank text (Option.mem_toList.mp given)
    have nothing := @behind_skip text 0x70 (absent_of_blank blank rfl) [] [0x3D]
    rw [List.append_nil, behind_nil (by decide), ← key_eq] at nothing
    rw [lower_blank blank, readPolicy, nothing, Option.map_none]
  rw [whole, readPolicy_segments, version, Option.none_or, List.findSome?_append, trailing,
    Option.or_none, List.findSome?_map]
  congr 1
  funext tag
  exact tag.readPolicy_lower

theorem text_small : ∀ byte ∈ record.text, byte.toNat < 0x80 := by
  intro byte member
  rcases List.mem_append.mp member with version | later
  · exact record.version.text_small byte version
  · obtain ⟨segment, some, there⟩ := List.mem_flatMap.mp later
    rcases List.mem_cons.mp there with rfl | there
    · decide
    · rcases List.mem_append.mp some with tagged | trailing
      · obtain ⟨tag, -, rfl⟩ := List.mem_map.mp tagged
        exact tag.text_small byte there
      · exact (wsp_byte byte (List.all_eq_true.mp
          (record.blank segment (Option.mem_toList.mp trailing)) byte there)).1

theorem versioned_iff (lib : Library) : versioned lib (ascii "v=dmarc1") record.text = true ↔
    record.version.gap = [] ∧ record.version.start = [] := by
  obtain ⟨-, gap, start, -⟩ := record.version.blank_parts
  obtain ⟨name, value⟩ := record.isVersion
  obtain ⟨front, same⟩ : ∃ front, front = record.version.name ++ record.version.gap ++
    0x3D :: (record.version.start ++ record.version.value) := ⟨_, rfl⟩
  have whole : record.text = front ++ (record.version.stop ++
      (record.tags.map Tag.text ++ record.trailing.toList).flatMap (0x3B :: ·)) := by
    simp [same, text, Tag.text, record.opens]
  have small : ∀ byte ∈ front, byte.toNat < 0x80 := fun byte member =>
    record.text_small byte (whole ▸ List.mem_append_left _ member)
  have lowered : lower front = 0x76 :: (record.version.gap ++
      0x3D :: (record.version.start ++ ascii "dmarc1")) := by
    have letter : ascii "v" = [0x76] := by decide
    have parts : lower front = lower record.version.name ++ lower record.version.gap ++
        0x3D :: (lower record.version.start ++ lower record.version.value) := by
      simp only [same, lower, List.map_append, List.map_cons]
      rfl
    rw [parts, name, value, lower_blank gap, lower_blank start, letter]
    rfl
  -- the version stands at the front of the trimmed text, too
  obtain ⟨first, opens, visible⟩ : ∃ first, front.head? = some first ∧ isSpace first.toNat = false := by
    obtain ⟨first, rest, named⟩ := List.exists_cons_of_ne_nil record.version.named.1
    have byte := List.all_eq_true.mp record.version.named.2 first (named ▸ List.mem_cons_self)
    exact ⟨first, by simp [same, named], (tag_byte first byte).2.1⟩
  obtain ⟨last, closes, solid⟩ : ∃ last, front.getLast? = some last ∧ isSpace last.toNat = false := by
    have there : record.version.value ≠ [] := by
      intro none
      rw [none] at value
      cases value
    have closes : record.version.value.getLast? = some (record.version.value.getLast there) :=
      List.getLast?_eq_some_getLast there
    have tight := record.version.trimmed (record.version.value.getLast there)
      (List.mem_append_right _ (Option.mem_toList.mpr closes))
    have byte := List.all_eq_true.mp record.version.valued _ (List.getLast_mem there)
    refine ⟨record.version.value.getLast there, ?_, solid_byte _ byte tight⟩
    rw [same, List.getLast?_append_of_ne_nil _ (List.cons_ne_nil _ _), ← List.cons_append,
      List.getLast?_append_of_ne_nil _ there, closes]
  obtain ⟨more, trimmed⟩ := @prefix_trimSpace front _ first last small opens closes visible solid
  rw [versioned, whole, ← trimmed, toLower_ascii lib front more small]
  change hasPrefix (lower front ++ toLower lib more) (ascii "v=dmarc1") = true ↔ _
  rw [lowered, hasPrefix, List.isPrefixOf_iff_prefix]
  have version : ascii "v=dmarc1" = 0x76 :: 0x3D :: ascii "dmarc1" := by decide
  rw [version, List.cons_append, List.cons_prefix_cons, and_iff_right rfl]
  cases gapped : record.version.gap with
  | cons byte rest =>
    rw [gapped, List.all_cons, Bool.and_eq_true] at gap
    have other := (wsp_byte byte gap.1).2.2.1
    simp [other.symm]
  | nil =>
    cases started : record.version.start with
    | nil => simp [List.cons_prefix_cons]
    | cons byte rest =>
      rw [started, List.all_cons, Bool.and_eq_true] at start
      have other : (0x64 : UInt8) ≠ byte := by
        rintro rfl
        cases start.1
      have word : ascii "dmarc1" = 0x64 :: ascii "marc1" := by decide
      simp [word, List.cons_prefix_cons, other]

end Record

section Checks

variable {lib : Library} {outside : Outside} {record : Record} {domain spf dkim : GoString}

theorem checkDMARC_record (named : domain ≠ [])
    (looked : outside.lookupTXT (ascii "_dmarc." ++ domain) = .ok [record.text])
    (unlisted : spf ≠ ascii "pass") (unsigned : dkim ≠ ascii "pass") :
    checkDMARC lib outside domain spf dkim = ascii "fail" ↔ record.Shows := by
  have none_ne : ascii "none" ≠ ascii "fail" := by decide
  have lowered : toLower lib record.text = lower record.text := by
    have whole := toLower_ascii lib record.text [] record.text_small
    simpa using whole
  have there : lower record.text ≠ [] := by
    simp [Record.text, Tag.text]
  have read : policy (lower record.text) = ascii "reject" ∨ policy (lower record.text) = ascii "quarantine" ↔
      record.tags.findSome? Tag.read = some (ascii "reject") ∨
        record.tags.findSome? Tag.read = some (ascii "quarantine") := by
    rw [policy_eq, record.readPolicy_lower]
    cases found : record.tags.findSome? Tag.read with
    | none => decide
    | some word =>
      obtain ⟨tag, -, read⟩ := List.exists_of_findSome?_eq_some found
      rw [Option.map_some, Option.getD_some, trimSpace_solid (tag.read_solid read), Option.some_inj,
        Option.some_inj]
  unfold checkDMARC Record.Shows
  rw [if_neg named, looked]
  dsimp only
  by_cases plain : record.version.gap = [] ∧ record.version.start = []
  · rw [List.find?_cons_of_pos ((record.versioned_iff lib).mpr plain), Option.map_some, lowered]
    dsimp only
    rw [if_neg there, if_neg (not_or.mpr ⟨unlisted, unsigned⟩), and_iff_right plain, ← read]
    split
    next shown => exact iff_of_true rfl shown
    next shown => exact iff_of_false none_ne shown
  · rw [List.find?_cons_of_neg (mt (record.versioned_iff lib).mp plain)]
    exact iff_of_false none_ne fun both => plain both.1

/-- Where neither SPF nor DKIM passed, the policy of a record decides exactly if the record
shows what its `p` tag says. -/
theorem dmarc_fails_iff (named : domain ≠ [])
    (looked : outside.lookupTXT (ascii "_dmarc." ++ domain) = .ok [record.text])
    (unlisted : spf ≠ ascii "pass") (unsigned : dkim ≠ ascii "pass") :
    (checkDMARC lib outside domain spf dkim = ascii "fail" ↔ record.Enforces) ↔
      (record.Shows ↔ record.Enforces) := by
  rw [checkDMARC_record named looked unlisted unsigned]

end Checks

def versionTag : Tag where
  lead := []
  name := ascii "v"
  gap := []
  start := []
  value := ascii "DMARC1"
  stop := []
  blanks := rfl
  named := by decide
  valued := by decide
  trimmed := by decide +kernel

def subdomainTag : Tag where
  lead := ascii " "
  name := ascii "sp"
  gap := []
  start := []
  value := ascii "reject"
  stop := []
  blanks := by decide
  named := by decide
  valued := by decide
  trimmed := by decide +kernel

/-- A policy, as white space in front of the equals sign may be left out or not. -/
def policyTag (gap : GoString) (blank : gap.all isWSP = true) (value : GoString)
    (valued : value.all isValueByte = true)
    (trimmed : ∀ byte ∈ value.head?.toList ++ value.getLast?.toList, isWSP byte = false) : Tag where
  lead := ascii " "
  name := ascii "p"
  gap
  start := []
  value
  stop := []
  blanks := by simp [blank, ascii, isWSP]
  named := by decide
  valued
  trimmed

def sampleRecord (tags : List Tag) : Record where
  version := versionTag
  tags
  trailing := none
  opens := rfl
  isVersion := by decide
  blank := nofun

def recordOutside (record : Record) : Outside where
  lookupTXT _ := .ok [record.text]
  splitHostPort addr := some addr
  parseIP host := some host
  contains _ _ := false
  verify _ := .ok []

/-- The policy is written as one usually does, in front of that for subdomains. -/
def plainRecord : Record :=
  sampleRecord [policyTag [] rfl (ascii "Reject") (by decide +kernel) (by decide +kernel), subdomainTag]

def subdomainRecord : Record :=
  sampleRecord [subdomainTag, policyTag [] rfl (ascii "none") (by decide +kernel) (by decide +kernel)]

def spacedRecord : Record :=
  sampleRecord [policyTag (ascii " ") rfl (ascii "reject") (by decide +kernel) (by decide +kernel)]

theorem dmarc_fails_plain :
    checkDMARC .plain (recordOutside plainRecord) (ascii "x.org") (ascii "fail") (ascii "none") =
      ascii "fail" ↔ plainRecord.Enforces :=
  (dmarc_fails_iff (by decide) rfl (by decide) (by decide)).mpr (by decide)

/-- The policy is taken from another tag, or it is missed. -/
theorem dmarc_misread :
    (subdomainRecord.text = ascii "v=DMARC1; sp=reject; p=none" ∧
      checkDMARC .plain (recordOutside subdomainRecord) (ascii "x.org") (ascii "fail") (ascii "none") =
        ascii "fail" ∧ ¬subdomainRecord.Enforces) ∧
    spacedRecord.text = ascii "v=DMARC1; p =reject" ∧
      checkDMARC .plain (recordOutside spacedRecord) (ascii "x.org") (ascii "fail") (ascii "none") =
        ascii "none" ∧ spacedRecord.Enforces := by
  decide

end ElvishMail.Mailauth
