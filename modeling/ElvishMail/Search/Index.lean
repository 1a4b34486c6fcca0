import Mathlib.Data.List.Sort
import ElvishMail.Js.Strings
import ElvishMail.Semantics.Remote
import ElvishMail.Semantics.Transaction

/-!
# The local index

The index that `static/mail/search/worker.js` keeps in IndexedDB, with `sealJSON` and
`openJSON` of `key.js` and the wrappers of `db.js`. All identities of a browser share one
database, and every value is sealed under the key of an identity: with another key, opening
it throws. What words a text has and how hits are scored is given by a library.
-/

namespace ElvishMail.Search

open Js Semantics

structure Token where
  term : JsString
  position : Nat
deriving DecidableEq

structure TermEntry where
  term : JsString
  tf : Nat
  positions : List Nat
deriving DecidableEq

structure Posting where
  messageId : JsString
  tf : Nat
  positions : List Nat
deriving DecidableEq

structure TermRow where
  term : JsString
  df : Nat
  postings : List Posting
deriving DecidableEq

structure DocRow where
  indexedAt : JsString
  termCount : Nat
  snippet : JsString
deriving DecidableEq

/-- The value under `v1`. -/
structure MetaRow where
  schemaVersion : Nat
  identityFingerprint : JsString
  lastIndexedAt : JsString
deriving DecidableEq

/-- A stored value: sealed under a key, or nothing that `openJSON` takes for an envelope. -/
inductive Envelope (Key Value : Type) where
  | sealed (key : Key) (value : Value)
  | other
deriving DecidableEq

structure Stores (Key : Type) where
  metaRows : List (JsString × Envelope Key MetaRow) := []
  terms : List (JsString × Envelope Key TermRow) := []
  docs : List (JsString × Envelope Key DocRow) := []
deriving DecidableEq

structure ObjectStore (Key Value : Type) where
  rows : Stores Key → List (JsString × Envelope Key Value)
  withRows : Stores Key → List (JsString × Envelope Key Value) → Stores Key

section Stores

variable {Key Value : Type}

def storeMeta : ObjectStore Key MetaRow := ⟨Stores.metaRows, fun stores metaRows => { stores with metaRows }⟩

def storeTerms : ObjectStore Key TermRow := ⟨Stores.terms, fun stores terms => { stores with terms }⟩

def storeDocs : ObjectStore Key DocRow := ⟨Stores.docs, fun stores docs => { stores with docs }⟩

def ObjectStore.value (store : ObjectStore Key Value) (stores : Stores Key) (key : JsString) :
    Option (Envelope Key Value) :=
  (Rows.find Prod.fst key (store.rows stores)).map Prod.snd

end Stores

/-- Why a script does not return: an exception, or a promise that is never settled. -/
inductive Failure where
  | thrown (error : JsString)
  | hung
deriving DecidableEq

def transactionInactive : Failure := .thrown (lit "TransactionInactiveError")

abbrev IndexScript (Key Value : Type) := Script Failure (Stores Key) Value

section Requests

variable {Key Value : Type}

def get (store : ObjectStore Key Value) (key : JsString) :
    IndexScript Key (Option (Envelope Key Value)) :=
  .request transactionInactive fun stores => (store.value stores key, stores)

def put (store : ObjectStore Key Value) (key : JsString) (value : Envelope Key Value) :
    IndexScript Key Unit :=
  .request transactionInactive fun stores =>
    ((), store.withRows stores (Rows.upsert Prod.fst (key, value) (store.rows stores)))

def countDocs : IndexScript Key Nat :=
  .request transactionInactive fun stores => (stores.docs.length, stores)

/-- `openCursor`, with the values that the cursor is to come by. -/
def openCursor : IndexScript Key (List (Envelope Key DocRow)) :=
  .request transactionInactive fun stores => (stores.docs.map Prod.snd, stores)

/-- `continue` on a cursor. -/
def advanceCursor : IndexScript Key Unit := .request transactionInactive fun stores => ((), stores)

variable (timing : Timing)

def sealJSON (key : Key) (value : Value) : IndexScript Key (Envelope Key Value) := do
  Script.pause timing
  return .sealed key value

variable [DecidableEq Key]

def openJSON (key : Key) : Envelope Key Value → IndexScript Key (Option Value)
  | .other => return none
  | .sealed other value => do
      Script.pause timing
      if other = key then return some value else throw (.thrown (lit "OperationError"))

def openFound (key : Key) : Option (Envelope Key Value) → IndexScript Key (Option Value)
  | none => return none
  | some envelope => openJSON timing key envelope

end Requests

def addToken (entries : List TermEntry) (token : Token) : List TermEntry :=
  if entries.any fun entry => entry.term = token.term then
    entries.map fun entry =>
      if entry.term = token.term then
        { entry with
          tf := entry.tf + 1
          positions :=
            if entry.positions.length < 64 then entry.positions ++ [token.position]
            else entry.positions }
      else entry
  else entries ++ [⟨token.term, 1, [token.position]⟩]

def uniqueTerms (tokens : List Token) : List TermEntry := tokens.foldl addToken []

def mergePosting (existing : Option TermRow) (messageId : JsString) (entry : TermEntry) : TermRow :=
  let merged := existing.getD ⟨entry.term, 0, []⟩
  let posting : Posting := ⟨messageId, entry.tf, entry.positions⟩
  match merged.postings.findIdx? fun posting => posting.messageId = messageId with
  | some oldIdx => { merged with postings := merged.postings.eraseIdx oldIdx ++ [posting] }
  | none => { merged with df := merged.df + 1, postings := merged.postings ++ [posting] }

section Writing

variable {Key : Type} (timing : Timing)

def writeMeta (indexKey : Key) (identityFingerprint now : JsString) : IndexScript Key Unit := do
  let value ← sealJSON timing indexKey ⟨1, identityFingerprint, now⟩
  put storeMeta (lit "v1") value

variable [DecidableEq Key]

/-- The loop of `writePostings`. -/
def writeTerms (indexKey : Key) (messageId : JsString) : List TermEntry → IndexScript Key Unit
  | [] => return ()
  | entry :: rest => do
      let existing ← get storeTerms entry.term
      let opened ← openFound timing indexKey existing
      let merged ← sealJSON timing indexKey (mergePosting opened messageId entry)
      put storeTerms entry.term merged
      writeTerms indexKey messageId rest

def writePostings (indexKey : Key) (messageId : JsString) (terms : List TermEntry)
    (snippet now : JsString) : IndexScript Key Unit := do
  writeTerms timing indexKey messageId terms
  let doc ← sealJSON timing indexKey ⟨now, terms.length, snippet⟩
  put storeDocs messageId doc

end Writing

/-- What words a text has, and the arithmetic of the scores: what a posting adds, given the
number of documents, `df`, `tf`, the length of the document, and the sum and the number of
all lengths. -/
structure Library (Score : Type) where
  tokenize : JsString → List Token
  increment : (documents df tf length : Nat) → Nat × Nat → Score
  add : Score → Score → Score
  above : Score → Score → Bool

structure Hit (Score : Type) where
  messageId : JsString
  score : Score
  snippet : JsString
  indexedAt : Option JsString
deriving DecidableEq

def addScore {Score : Type} (lib : Library Score) (messageId : JsString) (inc : Score)
    (scores : List (JsString × Score)) : List (JsString × Score) :=
  if scores.any fun row => row.1 = messageId then
    scores.map fun row => if row.1 = messageId then (row.1, lib.add row.2 inc) else row
  else scores ++ [(messageId, inc)]

def rank {Score : Type} (lib : Library Score) (limit : Nat) (scores : List (JsString × Score)) :
    List (JsString × Score) :=
  (scores.insertionSort fun first later => lib.above later.2 first.2 = false).take limit

section Searching

variable {Key Score : Type} [DecidableEq Key] (lib : Library Score) (timing : Timing) (indexKey : Key)

/-- The callback of the cursor in `averageDocLength`. -/
def sumLengths : List (Envelope Key DocRow) → Nat × Nat → IndexScript Key (Nat × Nat)
  | [], sums => return sums
  | value :: rest, (total, n) => do
      let doc ← openJSON timing indexKey value
      advanceCursor
      sumLengths rest (match doc with
        | some doc => (total + doc.termCount, n + 1)
        | none => (total, n))

/-- `averageDocLength`, as the sum and the number of the lengths. Nobody awaits its callback. -/
def averageDocLength : IndexScript Key (Nat × Nat) := do
  let values ← openCursor
  Script.callback .hung (sumLengths timing indexKey values (0, 0))

def scorePostings (documents : Nat) (avgdl : Nat × Nat) (df : Nat) :
    List Posting → List (JsString × Score) → IndexScript Key (List (JsString × Score))
  | [], scores => return scores
  | posting :: rest, scores => do
      let env ← get storeDocs posting.messageId
      let doc ← openFound timing indexKey env
      let length := doc.elim 0 DocRow.termCount
      scorePostings documents avgdl df rest
        (addScore lib posting.messageId (lib.increment documents df posting.tf length avgdl) scores)

def scoreTerms (documents : Nat) (avgdl : Nat × Nat) :
    List TermEntry → List (JsString × Score) → IndexScript Key (List (JsString × Score))
  | [], scores => return scores
  | entry :: rest, scores => do
      let env ← get storeTerms entry.term
      let opened ← openFound timing indexKey env
      match opened with
      | none => scoreTerms documents avgdl rest scores
      | some row => do
          let scores ← scorePostings lib timing indexKey documents avgdl row.df row.postings scores
          scoreTerms documents avgdl rest scores

def collectHits : List (JsString × Score) → IndexScript Key (List (Hit Score))
  | [] => return []
  | (messageId, score) :: rest => do
      let env ← get storeDocs messageId
      let doc ← openFound timing indexKey env
      let hits ← collectHits rest
      return ⟨messageId, score, doc.elim [] DocRow.snippet, doc.map DocRow.indexedAt⟩ :: hits

/-- What `handleSearch` does for a query with terms. -/
def searchTerms (queryTerms : List TermEntry) (limit : Nat) : IndexScript Key (List (Hit Score)) := do
  let documents ← countDocs
  let avgdl ← averageDocLength timing indexKey
  let scores ← scoreTerms lib timing indexKey documents avgdl queryTerms []
  collectHits timing indexKey (rank lib limit scores)

def queryTerms (q : JsString) : List TermEntry :=
  if trim q = [] then [] else uniqueTerms (lib.tokenize (trim q))

/-- `handleSearch` under an index key. -/
def handleSearch (q : JsString) (limit : Nat) : IndexScript Key (List (Hit Score)) :=
  match queryTerms lib q with
  | [] => return []
  | terms => searchTerms lib timing indexKey terms (max 1 (min 100 (if limit = 0 then 25 else limit)))

end Searching

end ElvishMail.Search
