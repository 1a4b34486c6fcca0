import ElvishMail.Js.Text
import ElvishMail.Keyvault.Verification

/-!
# Signatures within a decrypted text

`static/auth/unlock.js`: `verifyNestedSignedPayloadAfterDecrypt` takes a decrypted
text apart and looks for a PGP/MIME signature or a clear-signed block in it.
-/

namespace ElvishMail.Keyvault

open Js

/-- The headers of a text and what follows them, if there is an empty line. -/
def splitHeaders (text : JsString) : Option (JsString × JsString) :=
  match indexOf text (lit "\r\n\r\n") with
  | some index => some (text.take index, text.drop (index + 4))
  | none =>
    match indexOf text (lit "\n\n") with
    | some index => some (text.take index, text.drop (index + 2))
    | none => none

/-- `extractContentTypeValue`: of the first such line, without those that continue it. -/
def extractContentTypeValue (headerText : JsString) : JsString :=
  let value (line : JsString) : Option JsString :=
    let line := trim line
    let value := trimStart (line.drop 13)
    if startsWithInsensitive line (lit "content-type:") ∧ value ≠ [] ∧
        value.any isTerminator = false then
      some (trim value)
    else none
  ((split (unixLines headerText) (lit "\n")).findSome? value).getD []

def extractMimeBoundary (contentTypeHeaderValue : JsString) : JsString :=
  (findParameter (lit "boundary=") (fun unit => isWhite unit || (lit "\";").contains unit)
    contentTypeHeaderValue).getD []

/-- A part without the two dashes that close a message, if only line ends follow them. -/
def stripClose (part : JsString) : JsString :=
  let core := (part.reverse.dropWhile fun unit => unit == 13 || unit == 10).reverse
  if endsWith core (lit "--") then core.take (core.length - 2) else part

def skipLineEnd (piece : JsString) : JsString :=
  if startsWith piece (lit "\r\n") then piece.drop 2
  else if startsWith piece (lit "\n") then piece.drop 1
  else piece

def loosePart (piece : JsString) : JsString := trimEnd (stripClose (skipLineEnd piece))

/-- `splitMimePartsLoose`: what precedes the first marker is left out. -/
def splitMimePartsLoose (body boundary : JsString) : List JsString :=
  if boundary = [] then []
  else (((split body (lit "--" ++ boundary)).drop 1).map loosePart).filter fun part => part ≠ []

def extractArmoredCleartextSignedBlock (text : JsString) : JsString :=
  findBlock (lit "-----BEGIN PGP SIGNED MESSAGE-----") (lit "-----END PGP SIGNATURE-----") text

def extractArmoredDetachedSignatureBlob (text : JsString) : JsString :=
  findBlock (lit "-----BEGIN PGP SIGNATURE-----") (lit "-----END PGP SIGNATURE-----") text

/-- What is signed in a text: nothing, something that cannot be read, a part with a detached
signature, or a clear-signed block. -/
inductive Signed where
  | absent
  | malformed (error : JsString)
  | part (signedPart sigArmored : JsString)
  | block (cleartextArmored : JsString)
deriving DecidableEq

variable (lib : Library)

def isPGPSigned (ctValue : JsString) : Bool :=
  lib.toLowerCase (trim (ctValue.takeWhile (· != 59))) = lit "multipart/signed" ∧
    (containsInsensitive ctValue (lit "application/pgp-signature") ∨
      containsInsensitive ctValue (lit "application/x-pgp-signature"))

/-- The part of a PGP/MIME message that is signed, and the signature in the part after it. -/
def findSignedPart (body boundary : JsString) : Signed :=
  if boundary = [] then .malformed (lit "multipart/signed missing boundary")
  else match splitMimePartsLoose body boundary with
    | signedPart :: sigPartRaw :: _ =>
      match splitHeaders sigPartRaw with
      | none => .malformed (lit "signature part malformed")
      | some (_, sigBody) =>
        let sigArmored := extractArmoredDetachedSignatureBlob sigBody
        if sigArmored = [] then .malformed (lit "missing detached signature")
        else .part signedPart sigArmored
    | _ => .malformed (lit "multipart/signed missing parts")

/-- What `verifyNestedSignedPayloadAfterDecrypt` verifies of a text. -/
def findSigned (text : JsString) : Signed :=
  match splitHeaders text with
  | none => .absent
  | some (headerText, body) =>
    let ctValue := extractContentTypeValue headerText
    if isPGPSigned lib ctValue then findSignedPart body (extractMimeBoundary ctValue)
    else
      let cleartextArmored := extractArmoredCleartextSignedBlock (trimStart body)
      if cleartextArmored = [] then .absent else .block cleartextArmored

/-- What OpenPGP.js reads in a detached signature over a text, and in a clear-signed block. -/
structure Crypto where
  readDetached : JsString → JsString → Except JsString (List Signature)
  readCleartext : JsString → Except JsString (List Signature)

def Signed.nested (crypto : Crypto) : Signed → Nested
  | .absent => .absent
  | .malformed error => .malformed error
  | .part signedPart sigArmored =>
    match crypto.readDetached signedPart sigArmored with
    | .ok signatures => .signed signatures
    | .error error => .malformed error
  | .block cleartextArmored =>
    match crypto.readCleartext cleartextArmored with
    | .ok signatures => .signed signatures
    | .error error => .malformed error

def verifyNestedSignedPayloadAfterDecrypt (host : Host) (verifier : Verifier) (crypto : Crypto)
    (keys : List VerificationKey) (decryptedRfc822 : JsString) : Option Verification :=
  verifyNested host verifier keys ((findSigned host.lib decryptedRfc822).nested crypto)

end ElvishMail.Keyvault
