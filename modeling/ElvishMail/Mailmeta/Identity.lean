import ElvishMail.Smtp.Wire

/-!
# Mailbox identities

`internal/mailmeta/identity.go`: how an address is resolved to the identity of a
local mailbox.
-/

namespace ElvishMail.Mailmeta

open Go Smtp

/-- The columns of `user_identity_keys` that mail handling reads. -/
structure IdentityKey where
  userID : Nat
  email : GoString
  armoredPublic : GoString
deriving DecidableEq

/-- The error of a lookup, as `errors.Is(err, ErrNotFound)` tells it apart. -/
inductive LookupError where
  | notFound
  | failed (err : GoError)
deriving DecidableEq

def LookupError.error : LookupError → GoError
  | .notFound => .plain (ascii "mailmeta: not found")
  | .failed err => err

structure Directory where
  identityForExactEmail : GoString → Except LookupError IdentityKey
  identityForAliasEmail : GoString → Except LookupError IdentityKey
  identityForCatchall : GoString → Except LookupError IdentityKey

/-- `IdentityForEmail`: exact identities first, then active aliases, then the
catch-all of the domain. The first answer other than "not found" counts. -/
def identityForEmail (lib : Library) (directory : Directory) (email : GoString) :
    Except LookupError IdentityKey :=
  let email := toLower lib (trimSpace email)
  if email = [] then .error .notFound
  else match directory.identityForExactEmail email with
    | .ok identity => .ok identity
    | .error (.failed err) => .error (.failed err)
    | .error .notFound =>
      match directory.identityForAliasEmail email with
      | .ok identity => .ok identity
      | .error (.failed err) => .error (.failed err)
      | .error .notFound =>
        match indexByte email 0x40 with
        | none => .error .notFound
        | some position =>
          let domain := email.drop (position + 1)
          if domain = [] then .error .notFound else directory.identityForCatchall domain

end ElvishMail.Mailmeta
