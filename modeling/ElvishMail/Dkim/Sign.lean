import Mathlib.Data.List.Sort
import ElvishMail.Go.Base64
import ElvishMail.Go.Textproto
import ElvishMail.Semantics.Grouping
import ElvishMail.Smtp.Wire

/-!
# DKIM signatures

`internal/dkim/sign.go`: a message is split into header fields and body, both are
canonicalised, and the hash of the header fields with the signature's own field,
its `b=` still empty, is signed. A key is given by the signatures it makes; what
Go's map iteration, its clock and SHA-256 return is a `Platform`.
-/

namespace ElvishMail.Dkim

open Go Smtp Semantics

def algoRSASHA256 : GoString := ascii "rsa-sha256"

def algoEd25519SHA256 : GoString := ascii "ed25519-sha256"

/-- Options of one call; times and durations are in nanoseconds, and the zero time is
`none`. -/
structure Options where
  domain : GoString
  selector : GoString
  algo : GoString := []
  headers : List GoString := []
  now : Option Int := none
  expiresIn : Int := 0
deriving DecidableEq

/-- Parsed key material: for a key that is there, what it makes of a digest. -/
structure Signer where
  algo : GoString
  rsa : Option (GoString → Except GoError GoString) := none
  ed : Option (GoString → GoString) := none

structure HeaderField where
  name : GoString
  value : GoString
deriving DecidableEq

structure Platform where
  lib : Library
  sha256 : GoString → GoString
  clock : Int
  mapOrder : Iteration (GoString × List HeaderField)

inductive Failure where
  | returned (err : GoError)
  | panicked
deriving DecidableEq

def crlf : GoString := [0x0D, 0x0A]

/-- `tagBuilder`: tags in the order in which they were first set. -/
abbrev TagBuilder := List (GoString × GoString)

namespace TagBuilder

def set (tags : TagBuilder) (key value : GoString) : TagBuilder :=
  if (tags.map Prod.fst).contains key then
    tags.map fun tag => if tag.1 = key then (key, value) else tag
  else tags ++ [(key, value)]

def order : List GoString :=
  [ascii "v", ascii "a", ascii "c", ascii "d", ascii "s", ascii "t", ascii "x", ascii "h",
    ascii "bh", ascii "b"]

def rank (tag : GoString × GoString) : Nat :=
  match order.findIdx? (· == tag.1) with
  | some place => place + 1
  | none => 99

/-- `String`: the sort is stable. -/
def string (tags : TagBuilder) : GoString :=
  join ((List.insertionSort (fun tag other => rank tag ≤ rank other) tags).map fun tag =>
    tag.1 ++ [0x3D] ++ tag.2) (ascii "; ")

end TagBuilder

def consPiece (byte : UInt8) : List GoString → List GoString
  | [] => [[byte]]
  | piece :: rest => (byte :: piece) :: rest

/-- `bytes.Split` at carriage return and line feed. -/
def crlfLines : GoString → List GoString
  | [] => [[]]
  | [byte] => [[byte]]
  | byte :: next :: rest =>
    if byte = 0x0D ∧ next = 0x0A then [] :: crlfLines rest
    else consPiece byte (crlfLines (next :: rest))

/-- The loop of `canonRelaxedValue`. -/
def collapseRunes : Bool → List Rune → GoString
  | _, [] => []
  | prevWS, rune :: rest =>
    if rune.value = 0x20 ∨ rune.value = 0x09 then
      (if prevWS then [] else [0x20]) ++ collapseRunes true rest
    else encodeRune rune.value ++ collapseRunes false rest

def canonRelaxedValue (value : GoString) : GoString :=
  trimSpace (collapseRunes false (runes (replaceAll value crlf []))) ++ crlf

/-- `canonHeadersRelaxed`: the last value of each field that is listed. -/
def canonHeadersRelaxed (lib : Library) (fields : List HeaderField) (useHeaders : List GoString) :
    GoString :=
  let byName := groupOn (fun field : HeaderField => some (toLower lib field.name)) fields
  useHeaders.flatMap fun name =>
    match ((byName.lookup name).getD []).getLast? with
    | none => []
    | some field => name ++ [0x3A] ++ canonRelaxedValue field.value

/-- The loop of `canonRelaxedBodyLine`. -/
def collapseBlanks : Bool → GoString → GoString
  | _, [] => []
  | prevWS, byte :: rest =>
    if isBlank byte then (if prevWS then [] else [0x20]) ++ collapseBlanks true rest
    else byte :: collapseBlanks false rest

def canonRelaxedBodyLine (line : GoString) : GoString :=
  ((collapseBlanks false line).reverse.dropWhile isBlank).reverse

def canonBodyRelaxed (body : GoString) : GoString :=
  let body := replaceAll body [0x0A] crlf
  let body := replaceAll body [0x0D, 0x0D, 0x0A] crlf
  let canon := trimRightCRLF (join ((crlfLines body).map canonRelaxedBodyLine) crlf)
  if canon.length > 0 then canon ++ crlf else canon

def bodyHashRelaxed (platform : Platform) (body : GoString) : GoString :=
  platform.sha256 (canonBodyRelaxed body)

/-- Where the header block ends, in the message with its line endings as they are or
turned into CRLF. -/
def findSeparator (raw : GoString) : Except Failure (GoString × Nat) :=
  match index raw (crlf ++ crlf) with
  | some place => .ok (raw, place)
  | none =>
    if (index raw [0x0A, 0x0A]).isNone then
      .error (.returned (.plain (ascii "dkim: no header/body separator")))
    else
      let raw := replaceAll raw [0x0A] crlf
      match index raw (crlf ++ crlf) with
      | some place => .ok (raw, place)
      | none => .error .panicked

/-- `splitHeadersBody`. The fields are read from a map: those with one key are in
order. -/
def splitHeadersBody (platform : Platform) (raw : GoString) :
    Except Failure (List HeaderField × GoString) := do
  let (raw, place) ← findSeparator raw
  match readMIMEHeader platform.lib (raw.take place ++ crlf ++ crlf) with
  | .error text => .error (.returned (.plain text))
  | .ok mime =>
    let read := mime.map fun (key, value) => HeaderField.mk key value
    let entries := platform.mapOrder.arrange (groupOn (fun field => some field.name) read)
    .ok (entries.flatMap Prod.snd, raw.drop (place + 4))

def defaultHeaders : List GoString :=
  [ascii "from", ascii "to", ascii "subject", ascii "date", ascii "message-id"]

/-- `Unix` of a time. -/
def unix (time : Int) : Int := time / 1000000000

/-- What `Sign` has before it signs: the algorithm, the tags with an empty `b=` and the
bytes that it hashes. -/
structure Unsigned where
  algo : GoString
  tag : TagBuilder
  canonical : GoString
deriving DecidableEq

/-- `Sign` up to the hash. -/
def unsigned (platform : Platform) (signer : Signer) (opt : Options) (rawMessage : GoString) :
    Except Failure Unsigned :=
  if opt.domain = [] ∨ opt.selector = [] then
    .error (.returned (.plain (ascii "dkim: domain and selector required")))
  else do
    let algo := if opt.algo = [] then signer.algo else opt.algo
    let (headersSet, body) ← splitHeadersBody platform rawMessage
    let useHeaders := if opt.headers.length = 0 then defaultHeaders else opt.headers
    let bh := bodyHashRelaxed platform body
    let canonHeaders := canonHeadersRelaxed platform.lib headersSet useHeaders
    let now := opt.now.getD platform.clock
    let tag : TagBuilder := []
    let tag := tag.set (ascii "v") (ascii "1")
    let tag := tag.set (ascii "a") algo
    let tag := tag.set (ascii "c") (ascii "relaxed/relaxed")
    let tag := tag.set (ascii "d") opt.domain
    let tag := tag.set (ascii "s") opt.selector
    let tag := tag.set (ascii "t") (itoa (unix now))
    let tag := if opt.expiresIn > 0 then tag.set (ascii "x") (itoa (unix (now + opt.expiresIn))) else tag
    let tag := tag.set (ascii "h") (join useHeaders [0x3A])
    let tag := tag.set (ascii "bh") (base64Encode bh)
    let tag := tag.set (ascii "b") []
    return {
      algo
      tag
      canonical := canonHeaders ++ ascii "dkim-signature:" ++ canonRelaxedValue tag.string }

/-- The signature of a digest. A key of the other kind is a nil pointer. -/
def signDigest (signer : Signer) (algo digest : GoString) : Except Failure GoString :=
  if algo = algoRSASHA256 then
    match signer.rsa with
    | none => .error .panicked
    | some key => (key digest).mapError .returned
  else if algo = algoEd25519SHA256 then
    match signer.ed with
    | none => .error .panicked
    | some key => .ok (key digest)
  else .error (.returned (.plain (ascii "dkim: unsupported algo " ++ algo)))

/-- `Sign`: the value of the signature's field. -/
def sign (platform : Platform) (signer : Option Signer) (opt : Options) (rawMessage : GoString) :
    Except Failure GoString :=
  match signer with
  | none => .error (.returned (.plain (ascii "dkim: nil signer")))
  | some signer => do
      let unsigned ← unsigned platform signer opt rawMessage
      let sig ← signDigest signer unsigned.algo (platform.sha256 unsigned.canonical)
      return (unsigned.tag.set (ascii "b") (base64Encode sig)).string

def signAndPrepend (platform : Platform) (signer : Option Signer) (opt : Options)
    (rawMessage : GoString) : Except Failure GoString := do
  let header ← sign platform signer opt rawMessage
  return ascii "DKIM-Signature: " ++ header ++ crlf ++ rawMessage

end ElvishMail.Dkim
