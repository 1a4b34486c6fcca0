import ElvishMail.Smtp.Wire

/-!
# Replies of the API

`internal/httpserver/logerr.go`: a request is turned down with a status and a text, or
with an internal error that is logged under a label and shown only as such.
-/

namespace ElvishMail.Httpserver

open Go Smtp

inductive Refusal where
  | status (code : Nat) (text : GoString)
  | internal (label : GoString) (err : GoError)
deriving DecidableEq

namespace Refusal

def code : Refusal → Nat
  | status code _ => code
  | internal _ _ => 500

def text : Refusal → GoString
  | status _ text => text
  | internal _ _ => ascii "internal error"

end Refusal

inductive StoreError where
  | notFound
  | failed (err : GoError)
deriving DecidableEq

end ElvishMail.Httpserver
