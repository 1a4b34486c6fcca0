import ElvishMail.Js.Strings

/-!
# Senders and fingerprints

`static/mail/lib/mail-address.js`. Its regular expressions are written out as the
matches they find: in each, what one part may match is disjoint from what must
follow it, so a part takes all it can. The domain of an address is the exception.
-/

namespace ElvishMail.Mailapp

open Js

/-- An ASCII letter, as `[A-Z]` matches with the flag `i`. -/
def isLetter (unit : UInt16) : Bool := let code := lowerUnit unit; 97 ≤ code && code ≤ 122

def isDigit (unit : UInt16) : Bool := 48 ≤ unit && unit ≤ 57

/-- `[^<>\s@]`. -/
def isBracketed (unit : UInt16) : Bool := !isWhite unit && !(lit "<>@").contains unit

/-- `<\s*([^<>\s@]+@[^<>\s@]+)\s*>` at the start of a text: the group. -/
def matchBracket (text : JsString) : Option JsString :=
  if startsWith text (lit "<") then
    let inner := trimStart (text.drop 1)
    let name := inner.takeWhile isBracketed
    let following := inner.dropWhile isBracketed
    let domain := (following.drop 1).takeWhile isBracketed
    let close := trimStart ((following.drop 1).dropWhile isBracketed)
    if name ≠ [] ∧ startsWith following (lit "@") ∧ domain ≠ [] ∧ startsWith close (lit ">") then
      some (name ++ lit "@" ++ domain)
    else none
  else none

def isLocal (unit : UInt16) : Bool :=
  isLetter unit || isDigit unit || (lit ".!#$%&'*+/=?^_`\x7b|\x7d~-").contains unit

/-- `[A-Z0-9.-]`. -/
def isDomain (unit : UInt16) : Bool := isLetter unit || isDigit unit || (lit ".-").contains unit

/-- `[A-Z0-9.-]+\.[A-Z]{2,}` within a run of `[A-Z0-9.-]`: the longest first part of at
most this length that leaves a dot and two letters. -/
def matchDomain (run : JsString) : Nat → Option JsString
  | 0 => none
  | length + 1 =>
    let letters := (run.drop (length + 2)).takeWhile isLetter
    if startsWith (run.drop (length + 1)) (lit ".") ∧ 2 ≤ letters.length then
      some (run.take (length + 2) ++ letters)
    else matchDomain run length

/-- The plain address at the start of a text, given the units of its local part. -/
def matchEmail (isLocal : UInt16 → Bool) (text : JsString) : Option JsString :=
  let name := text.takeWhile isLocal
  let following := text.dropWhile isLocal
  let run := (following.drop 1).takeWhile isDomain
  if name ≠ [] ∧ startsWith following (lit "@") then
    (matchDomain run run.length).map (name ++ lit "@" ++ ·)
  else none

/-- `replace(/\s+/g, " ")`. -/
def collapseWhite : JsString → JsString
  | [] => []
  | unit :: rest =>
    if isWhite unit then
      match collapseWhite rest with
      | next :: more => if next = 0x20 then next :: more else 0x20 :: next :: more
      | [] => [0x20]
    else unit :: collapseWhite rest

variable (lib : Library)

def canonicalizeSenderId (fromValue : JsString) : JsString :=
  let raw := trim fromValue
  match raw.tails.findSome? matchBracket with
  | some address => lib.toLowerCase (trim address)
  | none =>
    match raw.tails.findSome? (matchEmail isLocal) with
    | some address => lib.toLowerCase (trim address)
    | none => lib.toLowerCase (collapseWhite raw)

/-- A key record, of an identity, a contact or the directory, with the three names its
armored key may have. -/
structure KeyRecord where
  email : JsString := []
  fingerprint : JsString := []
  armoredPublic : JsString := []
  armoredPub : JsString := []
  armored : JsString := []
  trusted : Bool := false
  source : JsString := []
deriving DecidableEq

def extractArmoredPublicKey (record : KeyRecord) : JsString :=
  if trim record.armoredPublic ≠ [] then trim record.armoredPublic
  else if trim record.armoredPub ≠ [] then trim record.armoredPub
  else trim record.armored

def normalizeFingerprintHex (text : JsString) : JsString :=
  (lib.toUpperCase text).filter fun unit => isDigit unit || (65 ≤ unit && unit ≤ 70)

def fingerprintsMatch (a b : JsString) : Bool :=
  let x := normalizeFingerprintHex lib a
  let y := normalizeFingerprintHex lib b
  if x = [] ∨ y = [] then false
  else if x = y then true
  else
    16 ≤ x.length && 16 ≤ y.length && (endsWith x (lastUnits 16 y) || endsWith y (lastUnits 16 x))

end ElvishMail.Mailapp
