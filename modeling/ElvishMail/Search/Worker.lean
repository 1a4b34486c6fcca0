import Mathlib.Logic.Function.Basic
import ElvishMail.Search.Index

/-!
# Operations of the worker

What `handleInit`, `handleIndex` and `handleSearch` of `static/mail/search/worker.js` do, one
after the other, on the one database of a browser. Beside it stands what the README promises:
an index for each identity.
-/

namespace ElvishMail.Search

open Js Semantics

/-- What the worker is asked to do. The text is what a message is decrypted to, or why it
could not be fetched or decrypted. -/
inductive Operation (Key : Type) where
  | init (identityFingerprint : JsString) (indexKey : Key) (now : JsString)
  | index (messageId : JsString) (text : Except JsString JsString) (now : JsString)
  | search (q : JsString) (limit : Nat)

inductive Answer (Score : Type) where
  | ready
  | nothing
  | indexed (termCount : Nat) (cached : Bool)
  | hits (hits : List (Hit Score))
  | failed (why : Failure)
deriving DecidableEq

section Operations

variable {Key Score : Type} [DecidableEq Key] (lib : Library Score) (timing : Timing)

def textTerms (text : JsString) : List TermEntry := uniqueTerms (lib.tokenize text)

/-- `handleIndex` under an index key. -/
def handleIndex (indexKey : Key) (messageId : JsString) (text : Except JsString JsString)
    (now : JsString) (stores : Stores Key) : Answer Score × Stores Key :=
  if messageId = [] then (.nothing, stores)
  else
    match (get storeDocs messageId).inTransaction stores, text with
    | (.error why, after), _ => (.failed why, after)
    | (.ok (some _), after), _ => (.indexed 0 true, after)
    | (.ok none, after), .error err => (.failed (.thrown err), after)
    | (.ok none, after), .ok text =>
      match (writePostings timing indexKey messageId (textTerms lib text) (text.take 240)
        now).inTransaction after with
      | (.ok _, after) => (.indexed (textTerms lib text).length false, after)
      | (.error why, after) => (.failed why, after)

/-- An operation under the index key of the last `init`. -/
def Operation.run (indexKey : Option Key) (stores : Stores Key) :
    Operation Key → Answer Score × Option Key × Stores Key
  | .init identityFingerprint key now =>
    match (writeMeta timing key identityFingerprint now).inTransaction stores with
    | (.ok _, after) => (.ready, some key, after)
    | (.error why, after) => (.failed why, some key, after)
  | .index messageId text now =>
    match indexKey with
    | none => (.failed (.thrown (lit "worker not initialized")), none, stores)
    | some key =>
      let (answer, after) := handleIndex lib timing key messageId text now stores
      (answer, some key, after)
  | .search q limit =>
    match indexKey with
    | none => (.failed (.thrown (lit "worker not initialized")), none, stores)
    | some key =>
      match (handleSearch lib timing key q limit).inTransaction stores with
      | (.ok hits, after) => (.hits hits, some key, after)
      | (.error why, after) => (.failed why, some key, after)

structure Browser (Key : Type) where
  indexKey : Option Key := none
  stores : Stores Key := {}

def Browser.step (browser : Browser Key) (operation : Operation Key) : Answer Score × Browser Key :=
  let (answer, indexKey, stores) := operation.run lib timing browser.indexKey browser.stores
  (answer, { indexKey, stores })

structure Profiles (Key : Type) where
  indexKey : Option Key := none
  stores : Key → Stores Key := fun _ => {}

def Operation.under (indexKey : Option Key) : Operation Key → Option Key
  | .init _ key _ => some key
  | _ => indexKey

def Profiles.step (profiles : Profiles Key) (operation : Operation Key) : Answer Score × Profiles Key :=
  match operation.under profiles.indexKey with
  | none => ((operation.run lib timing none {}).1, profiles)
  | some key =>
    let (answer, indexKey, stores) := operation.run lib timing profiles.indexKey (profiles.stores key)
    (answer, { indexKey, stores := Function.update profiles.stores key stores })

def perform {State : Type} (step : State → Operation Key → Answer Score × State) :
    State → List (Operation Key) → List (Answer Score) × State
  | state, [] => ([], state)
  | state, operation :: rest =>
    let (answers, final) := perform step (step state operation).2 rest
    ((step state operation).1 :: answers, final)

end Operations

end ElvishMail.Search
