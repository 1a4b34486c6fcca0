import ElvishMail.Go.Runes

/-!
# Classifying message bodies

`internal/openpgp/encrypt.go`: `Sniff` and the structural checks under it. The
armor decoder and the packet reader are the OpenPGP library's.
-/

namespace ElvishMail.Openpgp

open Go

/-- `BodyKind`, the result of `Sniff`. -/
inductive BodyKind where
  | unknown
  | cleartext
  | armoredMessage
  | binaryPGP
  | pgpMIME
deriving DecidableEq

/-- The packet types the pipeline distinguishes, and the other type of packet that
carries encrypted data. -/
inductive PacketType where
  | encryptedKey
  | symmetricallyEncrypted
  | aeadEncrypted
  | compressed
  | literalData
  | other
deriving DecidableEq

/-- The OpenPGP library: `armor.Decode`, returning the block's type and contents,
and the packets `packet.Reader` returns before the end or the first error. -/
structure Reader where
  armorDecode : GoString → Option (GoString × GoString)
  packets : GoString → List PacketType

def contains (body pattern : GoString) : Bool := (index body pattern).isSome

theorem contains_iff {body pattern : GoString} : contains body pattern = true ↔ pattern <:+: body :=
  findIdx?_tails

/-- `bytes.TrimLeft(body, " \r\n\t")`. -/
def trimLeftBlank (body : GoString) : GoString :=
  body.dropWhile fun byte => byte == 0x20 || byte == 0x0D || byte == 0x0A || byte == 0x09

variable (lib : Library) (reader : Reader)

/-- `hasOpenPGPPacket` looks for the first packet of a message. -/
def hasOpenPGPPacket (body : GoString) : Bool :=
  (reader.packets body).any fun packet =>
    packet == .encryptedKey || packet == .symmetricallyEncrypted || packet == .compressed ||
      packet == .literalData

def validateArmoredMessage (body : GoString) : Bool :=
  match reader.armorDecode body with
  | none => false
  | some (blockType, contents) =>
    if blockType ≠ ascii "PGP MESSAGE" then false else hasOpenPGPPacket reader contents

def validateBinaryPGP (body : GoString) : Bool :=
  if body.length = 0 then false else hasOpenPGPPacket reader body

/-- `validatePGPMIME` looks anywhere in the message. -/
def validatePGPMIME (body : GoString) : Bool :=
  if !contains body (ascii "multipart/encrypted") ||
      !contains body (ascii "application/pgp-encrypted") then false
  else
    let lower := toLower lib body
    if !contains lower (ascii "boundary=") then false
    else if !contains lower (ascii "version: 1") && !contains lower (ascii "version:1") then false
    else true

/-- `Sniff` classifies a raw body for the mail pipeline. -/
def sniff (body : GoString) : BodyKind :=
  let trim := trimLeftBlank body
  if hasPrefix trim (ascii "-----BEGIN PGP MESSAGE-----") then
    if validateArmoredMessage reader trim then .armoredMessage else .cleartext
  else if hasPrefix trim (ascii "-----BEGIN PGP SIGNED MESSAGE-----") then .cleartext
  else if contains body (ascii "multipart/encrypted") &&
      contains body (ascii "application/pgp-encrypted") then
    if validatePGPMIME lib body then .pgpMIME else .cleartext
  else if validateBinaryPGP reader trim then .binaryPGP
  else .cleartext

def validateEncryptedBody (body : GoString) : BodyKind → Bool
  | .armoredMessage => validateArmoredMessage reader (trimLeftBlank body)
  | .binaryPGP => validateBinaryPGP reader (trimLeftBlank body)
  | .pgpMIME => validatePGPMIME lib body
  | .unknown | .cleartext => false

/-- The cases of `IngestExternal` and `materialize` that keep the body as it is. -/
def BodyKind.isCiphertext : BodyKind → Bool
  | .armoredMessage | .binaryPGP | .pgpMIME => true
  | .unknown | .cleartext => false

end ElvishMail.Openpgp
