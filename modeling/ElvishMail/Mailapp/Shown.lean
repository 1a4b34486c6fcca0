import Mathlib.Data.List.Infix
import ElvishMail.Keyvault.Nested
import ElvishMail.Mailapp.Mime

/-!
# What is shown is what was signed

The vault and the reader parse a decrypted text each in its own way. They differ in
where the headers end, in which `Content-Type` counts and how its parameters are
read, and in what becomes of the text before the first marker. Where they read a
text alike, what is shown is computed from what was verified.
-/

namespace ElvishMail.Mailapp

open Js Keyvault

def showPart (browser : Browser) (part : JsString) : Option DisplayEnvelope :=
  match splitPart part with
  | none => some {}
  | some (headers, body) => (parseMimeEntity browser 7 headers body).map fun entity =>
    { bodyText := entity.bodyText
      bodyHtml := entity.bodyHtml
      attachments := entity.attachments }

/-- What is shown of a text comes from what is signed in it: the display of a text within the
signed part, or the clear-signed block and nothing else. -/
@[irreducible]
def ShowsSigned (browser : Browser) (text : JsString) : Prop :=
  match findSigned browser.lib text with
  | .part signedPart _ => ∃ shown, shown <:+: unixLines signedPart ∧
      extractDisplayEnvelope browser text = showPart browser shown
  | .block cleartextArmored => ∃ display, extractDisplayEnvelope browser text = some display ∧
      trim display.bodyText = unixLines cleartextArmored ∧ display.bodyHtml = [] ∧
      display.attachments = []
  | .absent | .malformed _ => False

/-- Where the vault answers `verified`, only what is signed is shown. -/
def OnlySignedShown (browser : Browser) (verifier : Verifier) (crypto : Crypto)
    (keys : List VerificationKey) (text : JsString) : Prop :=
  ∀ verification,
    verifyNestedSignedPayloadAfterDecrypt browser.toHost verifier crypto keys text =
      some verification →
    verification.status = .verified → ShowsSigned browser text

/-- Nothing precedes the first marker, and what follows it is more than dashes. -/
def SignedFirst (body boundary : JsString) : Prop :=
  ∀ preamble pieces, split body (lit "--" ++ boundary) = preamble :: pieces →
    (trim preamble = [] ∨ trim preamble = lit "--") ∧
      ∀ piece ∈ pieces.find? fun piece => trim piece ≠ [], trim piece ≠ lit "--"

structure ReadAsSigned (browser : Browser) (headers : Headers) (boundary : JsString) : Prop where
  kind : startsWith (contentKind browser (header headers (lit "content-type")))
    (lit "multipart/") = true
  plain : startsWith (browser.lib.toLowerCase (header headers (lit "content-type")))
    (lit "multipart/") = true
  signed : isPGPMime browser headers = true
  boundary : partBoundary headers = some boundary

structure ReadAsText (browser : Browser) (headers : Headers) : Prop where
  html : contentKind browser (header headers (lit "content-type")) ≠ lit "text/html"
  kind : startsWith (contentKind browser (header headers (lit "content-type")))
    (lit "multipart/") = false
  plain : startsWith (browser.lib.toLowerCase (header headers (lit "content-type")))
    (lit "multipart/") = false
  quoted : browser.lib.toLowerCase (trim (header headers (lit "content-transfer-encoding"))) ≠
    lit "quoted-printable"
  base64 : browser.lib.toLowerCase (trim (header headers (lit "content-transfer-encoding"))) ≠
    lit "base64"

/-- The reader takes a text apart as the vault does: the headers end at the same place, the
content type that each of them reads means the same, and nothing stands before the
signed part or around the clear-signed block. -/
def ReadAlike (browser : Browser) (text : JsString) : Prop :=
  ∀ headerText body, splitHeaders text = some (headerText, body) →
    ∃ headers, displayParts browser text = some (headers, unixLines body) ∧
      isAttachment browser headers = false ∧
      if isPGPSigned browser.lib (extractContentTypeValue headerText) then
        ReadAsSigned browser headers (extractMimeBoundary (extractContentTypeValue headerText)) ∧
          SignedFirst body (extractMimeBoundary (extractContentTypeValue headerText))
      else
        ReadAsText browser headers ∧
          trim body = extractArmoredCleartextSignedBlock (trimStart body)

/-- A nested signature is found in a text, and one of the keys verifies it. -/
def Attested (browser : Browser) (verifier : Verifier) (crypto : Crypto)
    (keys : List VerificationKey) (text : JsString) : Prop :=
  ∃ signature ∈ ((findSigned browser.lib text).nested crypto).signatures,
    ∃ key ∈ keys, verifier.verifies key signature = true

section Pieces

variable {piece front core : JsString}

theorem dashes_solid : Solid (lit "--") := by
  have all : (lit "--").all (fun unit => isWhite unit = false) = true := by decide
  simpa [Solid] using all

theorem dashes_tight : EndsTight (lit "--") := fun unit last =>
  dashes_solid unit (List.mem_of_mem_getLast? last)

theorem ends_dashes : endsWith piece (lit "--") = true ↔ ∃ front, piece = front ++ lit "--" := by
  rw [endsWith, List.isSuffixOf_iff_suffix]
  constructor
  · rintro ⟨front, rfl⟩
    exact ⟨front, rfl⟩
  · rintro ⟨front, rfl⟩
    exact ⟨front, rfl⟩

theorem shownPart_dashes (ends : trim piece = front ++ lit "--") :
    shownPart piece = if trim front = [] then none else some (trim front) := by
  have close : (front ++ lit "--").take ((front ++ lit "--").length - 2) = front := by
    have two : (lit "--").length = 2 := by decide
    rw [List.length_append, two, Nat.add_sub_cancel, List.take_left']
    rfl
  unfold shownPart
  dsimp only
  rw [ends, close, if_pos (ends_dashes.mpr ⟨front, rfl⟩)]
  split
  next none =>
    have empty : front = [] := by
      rcases none with none | dashes
      · exact (List.append_eq_nil_iff.mp none).1
      · simpa using dashes
    rw [empty, if_pos (by rfl)]
  next => rfl

theorem shownPart_plain (ends : ¬endsWith (trim piece) (lit "--") = true) :
    shownPart piece = if trim piece = [] then none else some (trim piece) := by
  unfold shownPart
  dsimp only
  rw [if_neg ends]
  split
  next none =>
    rcases none with none | dashes
    · rw [if_pos none]
    · exact absurd (ends_dashes.mpr ⟨[], dashes⟩) ends
  next => rfl

theorem shownPart_unixLines : shownPart (unixLines piece) = (shownPart piece).map unixLines := by
  by_cases ends : endsWith (trim piece) (lit "--") = true
  · obtain ⟨front, made⟩ := ends_dashes.mp ends
    have same : trim (unixLines piece) = unixLines front ++ lit "--" := by
      rw [trim_unixLines, made, unixLines_append (.inr (by decide)), dashes_solid.unixLines_eq]
    rw [shownPart_dashes made, shownPart_dashes same, trim_unixLines]
    by_cases empty : trim front = []
    · rw [if_pos empty, if_pos (unixLines_eq_nil.mpr empty)]
      rfl
    · rw [if_neg empty, if_neg (mt unixLines_eq_nil.mp empty)]
      rfl
  · have same : ¬endsWith (trim (unixLines piece)) (lit "--") = true := by
      rw [trim_unixLines, dashes_solid.endsWith_unixLines]
      exact ends
    rw [shownPart_plain ends, shownPart_plain same, trim_unixLines]
    by_cases empty : trim piece = []
    · rw [if_pos empty, if_pos (unixLines_eq_nil.mpr empty)]
      rfl
    · rw [if_neg empty, if_neg (mt unixLines_eq_nil.mp empty)]
      rfl

theorem shownPart_tight (shown : shownPart piece = some core) :
    StartsTight core ∧ EndsTight core ∧ core ≠ [] := by
  have tight (part : JsString) (made : (if trim part = [] then none else some (trim part)) = some core) :
      StartsTight core ∧ EndsTight core ∧ core ≠ [] := by
    split at made
    next => cases made
    next some =>
      cases made
      obtain ⟨-, -, -, -, -, first, last⟩ := trim_spec part
      exact ⟨first, last, some⟩
  by_cases ends : endsWith (trim piece) (lit "--") = true
  · obtain ⟨front, made⟩ := ends_dashes.mp ends
    rw [shownPart_dashes made] at shown
    exact tight front shown
  · rw [shownPart_plain ends] at shown
    exact tight piece shown

theorem shownPart_some (some : trim piece ≠ []) (material : trim piece ≠ lit "--") :
    ∃ core, shownPart piece = .some core := by
  by_cases ends : endsWith (trim piece) (lit "--") = true
  · obtain ⟨front, made⟩ := ends_dashes.mp ends
    rw [shownPart_dashes made, if_neg]
    · exact ⟨_, rfl⟩
    · intro empty
      have blank := trim_eq_nil.mp empty
      obtain ⟨-, -, -, -, -, first, -⟩ := trim_spec piece
      rw [made] at first
      cases front with
      | nil => exact material made
      | cons unit rest =>
        have visible := first unit rfl
        rw [blank unit (List.mem_cons_self ..)] at visible
        cases visible
  · rw [shownPart_plain ends, if_neg some]
    exact ⟨_, rfl⟩

theorem skipLineEnd_spec (piece : JsString) : ∃ lead, Blank lead ∧ piece = lead ++ skipLineEnd piece := by
  unfold skipLineEnd
  split
  next starts =>
    obtain ⟨rest, rfl⟩ := List.isPrefixOf_iff_prefix.mp starts
    refine ⟨lit "\r\n", ?_, rfl⟩
    have all : (lit "\r\n").all isWhite = true := by decide
    exact List.all_eq_true.mp all
  split
  next starts =>
    obtain ⟨rest, rfl⟩ := List.isPrefixOf_iff_prefix.mp starts
    refine ⟨lit "\n", ?_, rfl⟩
    have all : (lit "\n").all isWhite = true := by decide
    exact List.all_eq_true.mp all
  next => exact ⟨[], nofun, rfl⟩

theorem stripClose_spec (part : JsString) : stripClose part = part ∨
    ∃ front tail, part = front ++ lit "--" ++ tail ∧ Blank tail ∧ stripClose part = front := by
  unfold stripClose
  dsimp only
  split
  next ends =>
    obtain ⟨front, made⟩ := ends_dashes.mp ends
    refine .inr ⟨front, (part.reverse.takeWhile fun unit => unit == 13 || unit == 10).reverse, ?_, ?_, ?_⟩
    · rw [← made, ← List.reverse_append, List.takeWhile_append_dropWhile, List.reverse_reverse]
    · intro unit member
      have all := List.all_takeWhile (p := fun unit : UInt16 => unit == 13 || unit == 10)
        (l := part.reverse)
      have line := List.all_eq_true.mp all unit (List.mem_reverse.mp member)
      rcases Bool.or_eq_true_iff.mp line with same | same <;> cases eq_of_beq same
      · exact isWhite_return
      · exact isWhite_newline
    · rw [made]
      simp [lit]
  next => exact .inl rfl

theorem shownPart_trimmed (shown : shownPart piece = some core) : core <:+: trim piece := by
  by_cases ends : endsWith (trim piece) (lit "--") = true
  · obtain ⟨front, made⟩ := ends_dashes.mp ends
    rw [shownPart_dashes made] at shown
    split at shown <;> cases shown
    rw [made]
    exact (trim_within front).trans ⟨[], lit "--", rfl⟩
  · rw [shownPart_plain ends] at shown
    split at shown <;> cases shown
    exact List.infix_refl _

theorem shownPart_material (shown : shownPart piece = some core) :
    trim piece ≠ [] ∧ trim piece ≠ lit "--" := by
  unfold shownPart at shown
  dsimp only at shown
  split at shown
  next => cases shown
  next material => exact not_or.mp material

theorem shownPart_stripped {part tail : JsString} (shown : shownPart part = some core)
    (split : part = front ++ lit "--" ++ tail) (blank : Blank tail) : core <:+: front := by
  obtain ⟨some, material⟩ := shownPart_material shown
  obtain ⟨lead, rest, padded, blankLead, blankRest, -, last⟩ := trim_spec part
  -- both ways to write the text end where its white space starts
  have same : front ++ lit "--" = lead ++ trim part := by
    have left : trimEnd part = front ++ lit "--" := by
      rw [split, blank.trimEnd_append]
      exact (dashes_tight.append (by decide)).trimEnd
    have right : trimEnd part = lead ++ trim part := by
      have ends : trimEnd (lead ++ trim part ++ rest) = lead ++ trim part := by
        rw [blankRest.trimEnd_append]
        exact (last.append some).trimEnd
      rw [← padded] at ends
      exact ends
    rw [← left, right]
  rcases List.suffix_or_suffix_of_suffix ⟨front, rfl⟩ ⟨lead, same.symm⟩ with ⟨inner, ends⟩ | short
  · rw [shownPart_dashes ends.symm] at shown
    split at shown <;> cases shown
    rw [← ends, ← List.append_assoc] at same
    rw [List.append_cancel_right same]
    exact (trim_within inner).trans ⟨lead, [], by simp⟩
  · have two : lit "--" = [45, 45] := by decide
    rw [two] at short material same
    rcases List.suffix_cons_iff.mp short with whole | single
    · exact absurd whole material
    rcases List.suffix_cons_iff.mp single with one | none
    · -- a single dash would leave the other one to the white space
      have dash : front ++ [45] = lead := by
        rw [one] at same
        exact List.append_cancel_right (by simpa using same)
      have white := blankLead 45 (by simp [← dash])
      exact absurd white (by decide)
    · exact absurd (List.suffix_nil.mp none) some

theorem shownPart_within (shown : shownPart piece = some core) : core <:+: loosePart piece := by
  obtain ⟨first, last, present⟩ := shownPart_tight shown
  obtain ⟨lead, blank, opened⟩ := skipLineEnd_spec piece
  have trimmed : trim piece = trim (skipLineEnd piece) := by
    have same : trim (lead ++ skipLineEnd piece) = trim (skipLineEnd piece) := blank.trim_append
    rwa [← opened] at same
  have kept : shownPart (skipLineEnd piece) = some core := by
    rw [← shown]
    unfold shownPart
    rw [trimmed]
  apply last.infix_trimEnd
  rcases stripClose_spec (skipLineEnd piece) with same | ⟨front, tail, split, white, stripped⟩
  · rw [same]
    exact (shownPart_trimmed kept).trans (trim_within _)
  · rw [stripped]
    exact shownPart_stripped kept split white

theorem loosePart_blank (blank : Blank piece) : loosePart piece = [] := by
  obtain ⟨lead, -, opened⟩ := skipLineEnd_spec piece
  have white : Blank (skipLineEnd piece) := fun unit member =>
    blank unit (by rw [opened]; exact List.mem_append_right _ member)
  have stripped : Blank (stripClose (skipLineEnd piece)) := by
    rcases stripClose_spec (skipLineEnd piece) with same | ⟨front, tail, split, -, stripped⟩
    · rw [same]
      exact white
    · rw [stripped]
      exact fun unit member => white unit (by rw [split]; simp [member])
  have empty : trimEnd ([] ++ stripClose (skipLineEnd piece)) = trimEnd [] := stripped.trimEnd_append
  exact empty

theorem first_part {pieces : List JsString}
    (found : pieces.find? (fun piece => trim piece ≠ []) = some piece)
    (material : trim piece ≠ lit "--") : ∃ core, core <:+: unixLines (loosePart piece) ∧
      ((pieces.map loosePart).filter fun part => part ≠ []).head? = some (loosePart piece) ∧
      ((pieces.map unixLines).filterMap shownPart).head? = some core := by
  have some : trim piece ≠ [] := by simpa using List.find?_some found
  obtain ⟨core, shown⟩ := shownPart_some some material
  obtain ⟨first, last, present⟩ := shownPart_tight shown
  have within := shownPart_within shown
  refine ⟨unixLines core, unixLines_infix first last within, ?_⟩
  have verified : loosePart piece ≠ [] := by
    intro empty
    rw [empty] at within
    exact present (List.infix_nil.mp within)
  induction pieces with
  | nil => cases found
  | cons other rest ih =>
    by_cases blank : trim other = []
    · rw [List.find?_cons_of_neg (by simp [blank])] at found
      have unshown : shownPart (unixLines other) = none := by
        rw [shownPart_unixLines, shownPart_plain (by rw [blank]; decide), if_pos blank]
        rfl
      rw [List.map_cons, List.map_cons, loosePart_blank (trim_eq_nil.mp blank),
        List.filterMap_cons_none unshown, List.filter_cons_of_neg (by simp)]
      exact ih found
    · rw [List.find?_cons_of_pos (by simp [blank])] at found
      cases found
      have shows : shownPart (unixLines piece) = .some (unixLines core) := by
        rw [shownPart_unixLines, shown]
        rfl
      rw [List.map_cons, List.map_cons, List.filterMap_cons_some shows,
        List.filter_cons_of_pos (by simpa using verified)]
      exact ⟨rfl, rfl⟩

end Pieces

section Texts

variable {browser : Browser} {text headerText body boundary : JsString} {headers : Headers}

theorem display_signed (parts : displayParts browser text = some (headers, body))
    (attached : isAttachment browser headers = false)
    (signed : ReadAsSigned browser headers boundary) {shown : JsString}
    (first : (splitMultipartBody body boundary).head? = some shown) :
    extractDisplayEnvelope browser text = showPart browser shown := by
  have entity : parseMimeEntity browser 8 headers body =
      (splitPart shown).elim (some {}) fun part => parseMimeEntity browser 7 part.1 part.2 := by
    rw [parseMimeEntity, if_neg (by simp [attached])]
    dsimp only
    rw [signed.boundary]
    dsimp only
    rw [if_neg (by simp [signed.kind]), if_pos signed.signed, first]
    cases found : splitPart shown <;> simp [found]
  unfold extractDisplayEnvelope showPart
  rw [parts]
  dsimp only
  rw [entity]
  cases splitPart shown with
  | none =>
    dsimp only [Option.elim_none]
    rw [Option.bind_eq_bind, Option.bind_some, if_pos (.inr (.inr signed.plain))]
    rfl
  | some found =>
    dsimp only [Option.elim_some]
    cases parseMimeEntity browser 7 found.1 found.2 with
    | none => rfl
    | some entity =>
      rw [Option.bind_eq_bind, Option.bind_some, if_pos (.inr (.inr signed.plain))]
      rfl

theorem display_text (parts : displayParts browser text = some (headers, body))
    (attached : isAttachment browser headers = false) (plain : ReadAsText browser headers) :
    extractDisplayEnvelope browser text = some { bodyText := body } := by
  have decoded : decodeMailBody browser body (header headers (lit "content-transfer-encoding")) =
      body := by
    rw [decodeMailBody, if_neg plain.quoted, if_neg plain.base64]
  have leaf : parseMimeEntity browser 8 headers body = some (parseLeaf browser headers body) := by
    rw [parseMimeEntity, if_neg (by simp [attached])]
    dsimp only
    split
    · rfl
    · rw [if_pos plain.kind]
  have entity : parseLeaf browser headers body = {} ∨
      ∃ score, parseLeaf browser headers body = { bodyText := body, bodyScore := score } := by
    unfold parseLeaf
    dsimp only
    rw [decoded, if_neg plain.html]
    split
    · exact .inr ⟨_, rfl⟩
    · exact .inl rfl
  unfold extractDisplayEnvelope
  rw [parts]
  dsimp only
  rw [leaf, Option.bind_eq_bind, Option.bind_some]
  rcases entity with empty | ⟨score, same⟩
  · rw [empty, if_neg (by simp [plain.plain]), decoded]
    rfl
  · rw [same, decoded]
    split <;> rfl

theorem boundary_solid (ctValue : JsString) : Solid (extractMimeBoundary ctValue) := by
  unfold extractMimeBoundary
  cases found : findParameter (lit "boundary=")
      (fun unit => isWhite unit || (lit "\";").contains unit) ctValue with
  | none => nofun
  | some value =>
    intro unit member
    have stops := findParameter_units found unit member
    simp only [Bool.or_eq_false_iff] at stops
    exact stops.1

theorem findSigned_part {lib : Library} {signedPart sigArmored : JsString}
    (found : findSigned lib text = .part signedPart sigArmored) :
    ∃ headerText body, splitHeaders text = some (headerText, body) ∧
      isPGPSigned lib (extractContentTypeValue headerText) = true ∧
      (splitMimePartsLoose body (extractMimeBoundary (extractContentTypeValue headerText))).head? =
        some signedPart := by
  unfold findSigned at found
  split at found
  next => cases found
  next headerText body split =>
    refine ⟨headerText, body, split, ?_⟩
    dsimp only at found
    split at found
    next signed =>
      refine ⟨signed, ?_⟩
      unfold findSignedPart at found
      split at found
      next => cases found
      split at found
      next parts =>
        rw [parts]
        split at found
        next => cases found
        next =>
          dsimp only at found
          split at found <;> cases found
          rfl
      next => cases found
    next => split at found <;> cases found

theorem findSigned_block {lib : Library} {cleartextArmored : JsString}
    (found : findSigned lib text = .block cleartextArmored) :
    ∃ headerText body, splitHeaders text = some (headerText, body) ∧
      isPGPSigned lib (extractContentTypeValue headerText) = false ∧
      extractArmoredCleartextSignedBlock (trimStart body) = cleartextArmored := by
  unfold findSigned at found
  split at found
  next => cases found
  next headerText body split =>
    refine ⟨headerText, body, split, ?_⟩
    dsimp only at found
    split at found
    next =>
      unfold findSignedPart at found
      split at found
      next => cases found
      split at found
      next =>
        split at found
        next => cases found
        next =>
          dsimp only at found
          split at found <;> cases found
      next => cases found
    next unsigned =>
      split at found <;> cases found
      exact ⟨by simpa using unsigned, rfl⟩

theorem signed_first {signedPart : JsString} (solid : Solid boundary)
    (first : (splitMimePartsLoose body boundary).head? = some signedPart)
    (alike : SignedFirst body boundary) : ∃ shown, shown <:+: unixLines signedPart ∧
      (splitMultipartBody (unixLines body) boundary).head? = some shown := by
  have marker : Solid (lit "--" ++ boundary) := by
    intro unit member
    rcases List.mem_append.mp member with dash | inner
    · exact dashes_solid unit dash
    · exact solid unit inner
  have present : lit "--" ++ boundary ≠ [] := by
    intro empty
    have none := (List.append_eq_nil_iff.mp empty).1
    exact absurd none (by decide)
  obtain ⟨preamble, pieces, split, -⟩ := split_spec body (lit "--" ++ boundary)
  obtain ⟨blank, material⟩ := alike preamble pieces split
  unfold splitMimePartsLoose at first
  split at first
  next => cases first
  rw [split, List.drop_one, List.tail_cons] at first
  unfold splitMultipartBody
  rw [marker.split_unixLines present, split, List.map_cons]
  have unshown : shownPart (unixLines preamble) = none := by
    rw [shownPart_unixLines]
    rcases blank with empty | dashes
    · rw [shownPart_plain (by rw [empty]; decide), if_pos empty]
      rfl
    · have ends : trim preamble = [] ++ lit "--" := dashes
      rw [shownPart_dashes ends, if_pos (by rfl)]
      rfl
  rw [List.filterMap_cons_none unshown]
  cases found : pieces.find? (fun piece => trim piece ≠ []) with
  | none =>
    -- without a piece that is not blank, nothing is verified
    have none : (pieces.map loosePart).filter (fun part => part ≠ []) = [] := by
      rw [List.filter_eq_nil_iff]
      intro part member
      obtain ⟨piece, inside, rfl⟩ := List.mem_map.mp member
      have empty := List.find?_eq_none.mp found piece inside
      rw [loosePart_blank (trim_eq_nil.mp (by simpa using empty))]
      simp
    rw [none] at first
    cases first
  | some piece =>
    obtain ⟨core, within, verified, shown⟩ := first_part found (material piece found)
    rw [verified] at first
    cases first
    exact ⟨core, within, shown⟩

end Texts

theorem attested_of_verified {browser : Browser} {verifier : Verifier} {crypto : Crypto}
    {keys : List VerificationKey} {text : JsString} {verification : Verification}
    (verifies : verifyNestedSignedPayloadAfterDecrypt browser.toHost verifier crypto keys text =
      some verification) (verified : verification.status = .verified) :
    Attested browser verifier crypto keys text := by
  unfold verifyNestedSignedPayloadAfterDecrypt verifyNested at verifies
  unfold Attested
  split at verifies
  · cases verifies
  cases nested : (findSigned browser.lib text).nested crypto with
  | absent =>
    rw [nested] at verifies
    cases verifies
  | malformed error =>
    rw [nested] at verifies
    cases verifies
    cases verified
  | signed signatures =>
    rw [nested] at verifies
    cases verifies
    exact verified_iff.mp verified

def asciiBrowser : Browser where
  lib := .plain
  b64ToText := fun _ => none
  depth := 1
  atob := fun _ => none
  decodeUtf8 := List.map UInt8.toUInt16
  htmlToDisplayText := id

def sampleKey : VerificationKey := ⟨lit "key", lit "00112233445566778899AABBCCDDEEFF00112233"⟩

def sampleSignature : Signature := ⟨lit "signature", lit "CCDDEEFF00112233"⟩

def sampleVerifier : Verifier where
  verifies := fun key signature => key = sampleKey ∧ signature = sampleSignature
  failure := fun _ => []

def sampleCrypto : Crypto where
  readDetached := fun signedPart _ =>
    if signedPart = lit "X: y\r\n\r\nhi" then .ok [sampleSignature] else .ok []
  readCleartext := fun _ => .error []

def sampleHeaders : JsString :=
  lit "Content-Type: multipart/signed; protocol=\"application/pgp-signature\"; boundary=b"

/-- A body with the part and a signature over it, after some other text. -/
def sampleBody (preamble : JsString) : JsString :=
  preamble ++ lit "--b\r\nX: y\r\n\r\nhi\r\n--b\r\nX: y\r\n\r\n" ++
  lit "-----BEGIN PGP SIGNATURE-----\r\n-----END PGP SIGNATURE-----\r\n.\r\n--b--\r\n"

def signedText (preamble : JsString) : JsString :=
  sampleHeaders ++ lit "\r\n\r\n" ++ sampleBody preamble

def sampleVerification : Verification :=
  { status := .verified
    signed := true
    signerKeyIDs := [lit "CCDDEEFF00112233"]
    signerFingerprint := sampleKey.fingerprint }

def samplePieces : List JsString := (Js.split (sampleBody []) (lit "--" ++ lit "b")).tail

theorem sample_vault :
    splitHeaders (signedText []) = some (sampleHeaders, sampleBody []) ∧
    isPGPSigned asciiBrowser.lib (extractContentTypeValue sampleHeaders) = true ∧
    extractMimeBoundary (extractContentTypeValue sampleHeaders) = lit "b" ∧
    Js.split (sampleBody []) (lit "--" ++ lit "b") = [] :: samplePieces ∧
    ∀ piece ∈ samplePieces.find? fun piece => trim piece ≠ [], trim piece ≠ lit "--" := by
  unfold signedText samplePieces sampleHeaders sampleBody
  repeat rw [lit_ofList]
  decide

def sampleRead : Headers :=
  [(lit "content-type", lit "multipart/signed; protocol=\"application/pgp-signature\"; boundary=b")]

theorem sample_reader :
    displayParts asciiBrowser (signedText []) = some (sampleRead, unixLines (sampleBody [])) ∧
    isAttachment asciiBrowser sampleRead = false ∧
    startsWith (contentKind asciiBrowser (header sampleRead (lit "content-type")))
      (lit "multipart/") = true ∧
    startsWith (asciiBrowser.lib.toLowerCase (header sampleRead (lit "content-type")))
      (lit "multipart/") = true ∧
    isPGPMime asciiBrowser sampleRead = true ∧ partBoundary sampleRead = some (lit "b") := by
  unfold signedText sampleRead sampleHeaders sampleBody
  repeat rw [lit_ofList]
  decide

theorem signedText_alike : ReadAlike asciiBrowser (signedText []) := by
  obtain ⟨ends, signed, boundary, pieces, material⟩ := sample_vault
  obtain ⟨parts, attached, kind, plain, mime, marker⟩ := sample_reader
  intro headerText body split
  obtain ⟨rfl, rfl⟩ := Prod.mk.inj (Option.some.inj (ends.symm.trans split))
  rw [boundary, signed]
  refine ⟨sampleRead, parts, attached, ⟨kind, plain, mime, marker⟩, ?_⟩
  intro preamble rest made
  obtain ⟨rfl, rfl⟩ := List.cons.inj (pieces.symm.trans made)
  exact ⟨.inl rfl, material⟩

/-- The message with a preamble that reads as a part. -/
def forgedText : JsString := signedText (lit "X: y\r\n\r\nEvil\r\n")

end ElvishMail.Mailapp
