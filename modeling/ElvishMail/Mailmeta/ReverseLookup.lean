import ElvishMail.Go.Lowering
import ElvishMail.Mailmeta.Identities
import ElvishMail.Openpgp.LocalPartHash
import ElvishMail.Semantics.Like

/-!
# Looking a name of the key directory up

`WKDReverseLookup` finds the address at a domain whose local part has a hash, and `GetSettings` says
whether a user's keys are published. The domain becomes part of a pattern, in which `%`, `_` and the
backslash are special.
-/

namespace ElvishMail.Mailmeta

open Go Smtp Semantics Openpgp

/-- A row of `user_mail_settings`. -/
structure Settings where
  userID : Nat
  wkdPublish : Bool
deriving DecidableEq

def defaultSettings (userID : Nat) : Settings where
  userID
  wkdPublish := true

def getSettings (settings : List Settings) (userID : Nat) : Settings :=
  (settings.find? (·.userID = userID)).getD (defaultSettings userID)

def likeSigns : LikeSigns Rune where
  anyText := ⟨0x25, [0x25]⟩
  anySymbol := ⟨0x5F, [0x5F]⟩
  escape := ⟨0x5C, [0x5C]⟩

/-- `email LIKE '%@' || domain`. -/
def atDomain (domain email : GoString) : Bool :=
  like likeSigns (runes (ascii "%@" ++ domain)) (runes email)

/-- `hashLocalPart`, which is `WKDLocalPartHash` once more. -/
def hashLocalPart (lib : Library) (digest : Digest) (localPart : GoString) : GoString :=
  wkdLocalPartHash lib digest localPart

/-- The local part of an address, in front of its last `@`, has the hash. -/
def localPartMatches (lib : Library) (digest : Digest) (hash email : GoString) : Bool :=
  match lastIndexByte email 0x40 with
  | none | some 0 => false
  | some place => hashLocalPart lib digest (email.take place) == hash

namespace Registry

variable (registry : Registry) (lib : Library) (digest : Digest) (domain hash : GoString)

def aliasesAt : List GoString :=
  (registry.aliases.filter fun row => row.isActive && atDomain domain row.email).map AliasRow.email

def identitiesAt : List GoString :=
  (registry.identities.filter fun row => row.isActive && atDomain domain row.email).map
    IdentityRow.email

/-- `WKDReverseLookup`; the empty text where no address matches. -/
def wkdReverseLookup : GoString :=
  match (registry.aliasesAt domain).find? (localPartMatches lib digest hash) with
  | some email => email
  | none => ((registry.identitiesAt domain).find? (localPartMatches lib digest hash)).getD []

variable {registry} {lib} {digest} {domain hash} {email : GoString}

theorem wkdReverseLookup_eq :
    registry.wkdReverseLookup lib digest domain hash =
      ((registry.aliasesAt domain ++ registry.identitiesAt domain).find?
        (localPartMatches lib digest hash)).getD [] := by
  rw [wkdReverseLookup, List.find?_append]
  cases (registry.aliasesAt domain).find? (localPartMatches lib digest hash) with
  | some email => rfl
  | none => rfl

end Registry

end ElvishMail.Mailmeta
