import Mathlib.Data.List.Chain
import Mathlib.Data.List.DropRight
import ElvishMail.Dkim.Sign

/-!
# What a verifier hashes

RFC 6376 with relaxed/relaxed canonicalisation, stated apart from the signer: the
header of a message is its lines up to the first empty one, a line that starts
with a blank continues the field before it, and the hash is over the fields named
by `h=`, each with a CRLF, and the signature's field with the value of `b=` taken
out and without a CRLF.

The signer puts the CRLF there, so the two never hash the same bytes.
-/

namespace ElvishMail.Dkim

open Go Smtp Semantics

namespace Verifier

def continues (line : GoString) : Bool := line.head?.any isBlank

/-- Fields of the lines of a header, unfolded: the line breaks inside a field are
taken out. -/
def unfoldLines : List GoString → List GoString
  | [] => []
  | line :: rest =>
    match unfoldLines rest with
    | next :: later => if continues next then (line ++ next) :: later else line :: next :: later
    | [] => [line]

def headerFields (message : GoString) : List GoString :=
  unfoldLines ((crlfLines message).takeWhile (· ≠ []))

/-- The name of a field, in lower case and without blanks around it. -/
def fieldName (field : GoString) : GoString :=
  (trimBlanks (field.takeWhile (· != 0x3A))).map fun byte =>
    if inRange 65 90 byte then byte + 32 else byte

def fieldValue (field : GoString) : GoString := (field.dropWhile (· != 0x3A)).drop 1

def relaxed (name value : GoString) : GoString :=
  name ++ [0x3A] ++ trimBlanks (collapseBlanks false value)

def tagPieces (value : GoString) : List GoString := value.splitOn 0x3B

def tagName (piece : GoString) : GoString := trimBlanks (piece.takeWhile (· != 0x3D))

def tag? (name value : GoString) : Option GoString :=
  ((tagPieces value).find? fun piece => tagName piece = name).map fun piece =>
    trimBlanks ((piece.dropWhile (· != 0x3D)).drop 1)

def eraseSignature (piece : GoString) : GoString :=
  if tagName piece = ascii "b" then piece.takeWhile (· != 0x3D) ++ [0x3D] else piece

/-- The signature's value with the value of `b=` taken out. -/
def withoutSignature (value : GoString) : GoString :=
  [0x3B].intercalate ((tagPieces value).map eraseSignature)

/-- The fields that are hashed for the names of `h=`: of several fields with one name
the lowest that was not taken yet, and nothing for a name without one. The fields
are given from the lowest up. -/
def selectFields : List GoString → List GoString → List GoString
  | [], _ => []
  | name :: names, fields =>
    match fields.find? (fun field => fieldName field = name) with
    | none => selectFields names fields
    | some field => field :: selectFields names (fields.erase field)

/-- The names that `h=` lists. -/
def signedNames (list : GoString) : List GoString :=
  (list.splitOn 0x3A).map fieldName

def headerHashInput (message : GoString) : Option GoString := do
  let fields := headerFields message
  let signature ← fields.find? fun field => fieldName field = ascii "dkim-signature"
  let value := fieldValue signature
  let list ← tag? (ascii "h") value
  let signed := selectFields (signedNames list) fields.reverse
  return (signed.flatMap fun field => relaxed (fieldName field) (fieldValue field) ++ crlf) ++
    relaxed (fieldName signature) (withoutSignature value)

def Unbroken (text : GoString) : Prop :=
  text.IsChain fun byte next => ¬(byte = 0x0D ∧ next = 0x0A)

theorem unbroken_append {text rest : GoString} (unbroken : Unbroken text) (after : Unbroken rest)
    (between : (∀ byte ∈ text.getLast?, byte ≠ 0x0D) ∨ ∀ byte ∈ rest.head?, byte ≠ 0x0A) :
    Unbroken (text ++ rest) := by
  refine List.isChain_append.mpr ⟨unbroken, after, ?_⟩
  rintro byte last next first ⟨carriage, feed⟩
  rcases between with none | none
  · exact none byte last carriage
  · exact none next first feed

theorem unbroken_start {start text : GoString} (unbroken : Unbroken text) (starts : start <+: text) :
    Unbroken start := by
  obtain ⟨rest, rfl⟩ := starts
  exact unbroken.left_of_append

theorem crlfLines_head (byte : UInt8) (rest : GoString) :
    ∃ piece later, crlfLines (byte :: rest) = piece :: later ∧ ∀ first ∈ piece.head?, first = byte := by
  cases rest with
  | nil => exact ⟨[byte], [], rfl, by simp⟩
  | cons next rest =>
    rw [crlfLines]
    split
    · exact ⟨[], _, rfl, by simp⟩
    · cases crlfLines (next :: rest) with
      | nil => exact ⟨[byte], [], rfl, by simp⟩
      | cons piece later => exact ⟨byte :: piece, later, rfl, by simp⟩

theorem crlfLines_unbroken (text : GoString) : ∀ line ∈ crlfLines text, Unbroken line := by
  fun_induction crlfLines text with
  | case1 =>
    intro line member
    rw [List.mem_singleton.mp member]
    exact List.isChain_nil
  | case2 byte =>
    intro line member
    rw [List.mem_singleton.mp member]
    exact List.isChain_singleton _
  | case3 byte next rest broken ih =>
    intro line member
    rcases List.mem_cons.mp member with rfl | member
    · exact List.isChain_nil
    · exact ih line member
  | case4 byte next rest whole ih =>
    obtain ⟨piece, later, split, starts⟩ := crlfLines_head next rest
    rw [split] at ih ⊢
    intro line member
    rcases List.mem_cons.mp member with rfl | member
    · refine List.isChain_cons.mpr ⟨?_, ih piece (List.mem_cons_self ..)⟩
      rintro first head ⟨carriage, feed⟩
      exact whole ⟨carriage, (starts first head) ▸ feed⟩
    · exact ih line (List.mem_cons_of_mem _ member)

theorem unfoldLines_unbroken {lines : List GoString} (unbroken : ∀ line ∈ lines, Unbroken line) :
    ∀ field ∈ unfoldLines lines, Unbroken field := by
  induction lines with
  | nil => exact unbroken
  | cons line rest ih =>
    have first := unbroken line (List.mem_cons_self ..)
    have others := ih fun line member =>
      unbroken line (List.mem_cons_of_mem _ member)
    rw [unfoldLines]
    cases found : unfoldLines rest with
    | nil =>
      intro field member
      rw [List.mem_singleton.mp member]
      exact first
    | cons next later =>
      rw [found] at others
      dsimp only
      split
      next joined =>
        intro field member
        rcases List.mem_cons.mp member with rfl | member
        · apply unbroken_append first (others next (List.mem_cons_self ..))
          right
          rintro byte head rfl
          rw [continues, Option.mem_def.mp head] at joined
          exact absurd joined (by decide)
        · exact others field (List.mem_cons_of_mem _ member)
      next =>
        intro field member
        rcases List.mem_cons.mp member with rfl | member
        · exact first
        · exact others field member

theorem headerFields_unbroken {message field : GoString} (member : field ∈ headerFields message) :
    Unbroken field := by
  apply unfoldLines_unbroken ?_ field member
  intro line within
  exact crlfLines_unbroken message line (List.takeWhile_subset _ within)

theorem fieldValue_unbroken {field : GoString} (unbroken : Unbroken field) :
    Unbroken (fieldValue field) :=
  unbroken.suffix ((List.drop_suffix _ _).trans (List.dropWhile_suffix _))

theorem unbroken_pieces {pieces : List GoString} :
    Unbroken ([0x3B].intercalate pieces) ↔ ∀ piece ∈ pieces, Unbroken piece := by
  induction pieces with
  | nil => simp [Unbroken, List.intercalate]
  | cons piece rest ih =>
    cases rest with
    | nil => simp [List.intercalate]
    | cons next later =>
      have joined : [0x3B].intercalate (piece :: next :: later) =
          piece ++ ([0x3B] ++ [0x3B].intercalate (next :: later)) := by
        simp [List.intercalate, List.intersperse]
      rw [joined, List.forall_mem_cons, ← ih]
      constructor
      · intro unbroken
        exact ⟨unbroken.left_of_append, unbroken.right_of_append.right_of_append⟩
      · rintro ⟨first, others⟩
        apply unbroken_append first
        · apply unbroken_append (List.isChain_singleton _) others
          left
          simp
        · right
          simp

theorem eraseSignature_unbroken {piece : GoString} (unbroken : Unbroken piece) :
    Unbroken (eraseSignature piece) := by
  rw [eraseSignature]
  split
  · apply unbroken_append (unbroken_start unbroken (List.takeWhile_prefix _)) (List.isChain_singleton _)
    right
    simp
  · exact unbroken

theorem withoutSignature_unbroken {value : GoString} (unbroken : Unbroken value) :
    Unbroken (withoutSignature value) := by
  have pieces : ∀ piece ∈ tagPieces value, Unbroken piece := by
    rw [← unbroken_pieces, tagPieces, List.intercalate_splitOn]
    exact unbroken
  apply unbroken_pieces.mpr
  intro erased member
  obtain ⟨piece, within, rfl⟩ := List.mem_map.mp member
  exact eraseSignature_unbroken (pieces piece within)

theorem collapseBlanks_head (text : GoString) :
    ∀ byte ∈ (collapseBlanks false text).head?, byte = 0x20 ∨ byte ∈ text.head? := by
  cases text with
  | nil => simp [collapseBlanks]
  | cons first rest =>
    rw [collapseBlanks]
    split
    · simp
    · simp

theorem collapseBlanks_unbroken (prevWS : Bool) {text : GoString} (unbroken : Unbroken text) :
    Unbroken (collapseBlanks prevWS text) := by
  induction text generalizing prevWS with
  | nil => exact unbroken
  | cons byte rest ih =>
    obtain ⟨apart, after⟩ := List.isChain_cons.mp unbroken
    rw [collapseBlanks]
    split
    · cases prevWS with
      | true => exact ih true after
      | false =>
        apply unbroken_append (List.isChain_singleton _) (ih true after)
        left
        simp
    · refine List.isChain_cons.mpr ⟨?_, ih false after⟩
      rintro next head ⟨carriage, feed⟩
      rcases collapseBlanks_head rest next head with space | same
      · rw [feed] at space
        exact absurd space (by decide)
      · exact apart next same ⟨carriage, feed⟩

theorem trimBlanks_unbroken {text : GoString} (unbroken : Unbroken text) :
    Unbroken (trimBlanks text) := by
  have start : Unbroken (text.dropWhile isBlank) := unbroken.suffix (List.dropWhile_suffix _)
  exact unbroken_start start (List.rdropWhile_prefix _ _)

theorem headerHashInput_end {message input : GoString}
    (verified : headerHashInput message = some input) : ¬crlf <:+ input := by
  simp only [headerHashInput, Option.bind_eq_bind, Option.bind_eq_some_iff, Option.pure_def,
    Option.some.injEq] at verified
  obtain ⟨signature, found, list, -, rfl⟩ := verified
  intro ends
  have value := fieldValue_unbroken (headerFields_unbroken (List.mem_of_find?_eq_some found))
  have trimmed := trimBlanks_unbroken
    (collapseBlanks_unbroken false (withoutSignature_unbroken value))
  have last := unbroken_append (List.isChain_singleton (0x3A : UInt8)) trimmed (.inl (by simp))
  rw [relaxed, List.append_assoc (fieldName _), ← List.append_assoc] at ends
  rcases List.suffix_or_suffix_of_suffix ends (List.suffix_append _ _) with inside | covers
  · have broken : Unbroken crlf := last.suffix inside
    simp [Unbroken, crlf] at broken
  · have colon : (0x3A : UInt8) ∈ crlf := covers.subset (by simp)
    exact absurd colon (by decide)

end Verifier

theorem unsigned_end {platform : Platform} {signer : Signer} {opt : Options} {raw : GoString}
    {result : Unsigned} (prepared : unsigned platform signer opt raw = .ok result) :
    crlf <:+ result.canonical := by
  unfold unsigned at prepared
  split at prepared
  · cases prepared
  · cases parts : splitHeadersBody platform raw with
    | error failure =>
      rw [parts] at prepared
      cases prepared
    | ok parts' =>
      rw [parts] at prepared
      cases prepared
      dsimp only
      rw [canonRelaxedValue, ← List.append_assoc]
      exact List.suffix_append _ _

/-- Whatever is signed, a verifier of the message hashes other bytes than the signer
did. -/
theorem hash_inputs_differ {platform : Platform} {signer : Signer} {opt : Options}
    {raw message : GoString}
    (produced : signAndPrepend platform (some signer) opt raw = .ok message) :
    ∃ prepared, unsigned platform signer opt raw = .ok prepared ∧
      Verifier.headerHashInput message ≠ some prepared.canonical := by
  cases ready : unsigned platform signer opt raw with
  | error failure =>
    simp only [signAndPrepend, sign, ready] at produced
    cases produced
  | ok prepared =>
    refine ⟨prepared, rfl, ?_⟩
    intro same
    exact Verifier.headerHashInput_end same (unsigned_end ready)

/-! A short message, signed with the Ed25519 key of the zero seed. -/

def samplePlatform : Platform where
  lib := .plain
  sha256 := fun text =>
    if text.length = 4 then
      [68, 114, 61, 212, 208, 224, 212, 106, 60, 127, 168, 172, 162, 84, 182, 28, 39, 182, 181, 120,
        159, 150, 23, 126, 130, 200, 7, 0, 64, 159, 21, 53]
    else
      [5, 133, 178, 234, 162, 249, 173, 54, 214, 174, 229, 100, 169, 232, 253, 115, 109, 195, 9, 53,
        52, 120, 78, 135, 39, 84, 232, 235, 252, 152, 22, 247]
  clock := 1767225600000000000
  mapOrder := .asBuilt

def sampleSigner : Signer where
  algo := algoEd25519SHA256
  ed := some fun _ =>
    [222, 239, 157, 248, 158, 116, 148, 184, 82, 253, 182, 24, 177, 79, 124, 189, 60, 25, 241, 0, 14,
      11, 20, 69, 34, 39, 196, 166, 228, 120, 51, 53, 9, 84, 90, 47, 156, 110, 94, 58, 255, 129, 7,
      113, 200, 230, 5, 212, 18, 239, 24, 104, 236, 101, 251, 233, 138, 134, 212, 214, 81, 175, 207, 3]

def sampleOptions : Options where
  domain := ascii "b.c"
  selector := ascii "s"

def sampleRaw : GoString := ascii "From: a@b.c\r\n\r\nhi\r\n"

def sampleSigned : Except Failure GoString :=
  signAndPrepend samplePlatform (some sampleSigner) sampleOptions sampleRaw

theorem hash_input_has_crlf :
    ∃ input, sampleSigned.toOption.bind Verifier.headerHashInput = some input ∧
      (unsigned samplePlatform sampleSigner sampleOptions sampleRaw).toOption.map
        Unsigned.canonical = some (input ++ crlf) := by
  have agree : (sampleSigned.toOption.bind Verifier.headerHashInput).isSome = true ∧
      (unsigned samplePlatform sampleSigner sampleOptions sampleRaw).toOption.map
        Unsigned.canonical =
          (sampleSigned.toOption.bind Verifier.headerHashInput).map (· ++ crlf) := by
    decide +kernel
  obtain ⟨input, found⟩ := Option.isSome_iff_exists.mp agree.1
  refine ⟨input, found, ?_⟩
  rw [agree.2, found]
  rfl

theorem hash_inputs_differ_sample :
    ∃ prepared message, unsigned samplePlatform sampleSigner sampleOptions sampleRaw = .ok prepared ∧
      sampleSigned = .ok message ∧ Verifier.headerHashInput message ≠ some prepared.canonical := by
  have signed : sampleSigned.toOption.isSome = true := by decide
  cases produced : sampleSigned with
  | error failure =>
    rw [produced] at signed
    cases signed
  | ok message =>
    obtain ⟨prepared, ready, differ⟩ := hash_inputs_differ produced
    exact ⟨prepared, message, ready, rfl, differ⟩

end ElvishMail.Dkim
