import ElvishMail.Go.Base64

/-!
# SASL responses

`internal/smtp/sasl`: decoding of the PLAIN and LOGIN client responses.
-/

namespace ElvishMail.Smtp

open Go

/-- The credentials of one `Authenticate` call. -/
structure Credentials where
  identity : GoString
  username : GoString
  password : GoString
deriving DecidableEq

/-- `strings.SplitN(text, "\x00", 3)` when it yields three parts. -/
def splitNul (text : GoString) : Option (GoString × GoString × GoString) :=
  match indexByte text 0 with
  | none => none
  | some first =>
    let rest := text.drop (first + 1)
    match indexByte rest 0 with
    | none => none
    | some second => some (text.take first, rest.take second, rest.drop (second + 1))

/-- `DecodePlain` parses an RFC 4616 PLAIN response. -/
def decodePlain (b64 : GoString) : Option Credentials := do
  let raw ← base64Decode (trimSpace b64)
  let (identity, username, password) ← splitNul raw
  some ⟨identity, username, password⟩

/-- `DecodeLogin` returns the decoded base64 text of an AUTH LOGIN exchange. -/
def decodeLogin (b64 : GoString) : Option GoString := base64Decode (trimSpace b64)

end ElvishMail.Smtp
