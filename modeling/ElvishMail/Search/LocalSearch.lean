import Mathlib.Logic.Function.Basic
import ElvishMail.Js.Strings
import ElvishMail.Semantics.Machine

/-!
# The search worker and its page

`LocalSearch` of `static/mail/search/search.js`, and what `onmessage` of
`static/mail/search/worker.js` posts when a message has been handled. A promise is the
number of the call of `send` that made it. What handling a message takes, and how it
ends, is left open; several messages may be in hand at once.
-/

namespace ElvishMail.Search

open Js Semantics

inductive Request where
  | init (identityFingerprint : JsString) (identitySearchSeed : Option (List UInt8))
  | index (messageId blobUrl : JsString)
  | search (q : JsString) (limit : Nat)
  | cancel (messageId : JsString)
  | purge
deriving DecidableEq

/-- The `kind` of a request. -/
def Request.kind : Request → JsString
  | .init .. => lit "init"
  | .index .. => lit "index"
  | .search .. => lit "search"
  | .cancel _ => lit "cancel"
  | .purge => lit "purge"

structure Message where
  request : Request
  requestId : Option Nat := none
deriving DecidableEq

/-- What the worker posts; `origin` is the `where` of an error. -/
inductive Reply (Hit : Type) where
  | ready (identity : JsString)
  | indexed (messageId : JsString)
  | searchResult (requestId : Option Nat) (hits : List Hit)
  | purged
  | error (error origin : JsString)
deriving DecidableEq

/-- The `kind` of a reply. -/
def Reply.kind {Hit : Type} : Reply Hit → JsString
  | .ready _ => lit "ready"
  | .indexed _ => lit "indexed"
  | .searchResult .. => lit "searchResult"
  | .purged => lit "purged"
  | .error .. => lit "error"

/-- The `requestId` of a reply. -/
def Reply.requestId {Hit : Type} : Reply Hit → Option Nat
  | .searchResult requestId _ => requestId
  | _ => none

/-- What `onmessage` posts when the handling of a message has ended, with hits if it was a
search. The `indexed` of `handleIndex` is posted at its end, too. -/
def onmessage {Hit : Type} (identityFingerprint : JsString) (msg : Message)
    (ended : Except JsString (List Hit)) : Option (Reply Hit) :=
  match ended, msg.request with
  | .error err, request => some (.error err request.kind)
  | .ok _, .init .. => some (.ready identityFingerprint)
  | .ok _, .index messageId _ => some (.indexed messageId)
  | .ok hits, .search .. => some (.searchResult msg.requestId hits)
  | .ok _, .cancel _ => none
  | .ok _, .purge => some .purged

section Page

variable {Hit : Type}

inductive Value (Hit : Type) where
  | hits (hits : List Hit)
  | data (data : Reply Hit)
deriving DecidableEq

inductive Settlement (Hit : Type) where
  | resolved (value : Value Hit)
  | rejected (error : JsString)
deriving DecidableEq

/-- An entry of `pending`, which settles a promise. -/
structure Slot where
  promise : Nat
  expected : List JsString
deriving DecidableEq

/-- The fields of `LocalSearch` except for the worker, with the promises that it has made:
how they are settled, which timers run and for which request, and which are awaited by
`start`. -/
structure LocalSearch (Hit : Type) where
  ready : Bool := false
  pending : Nat → Option Slot := fun _ => none
  nextRequestId : Nat := 1
  promises : Nat := 0
  settlement : Nat → Option (Settlement Hit) := fun _ => none
  timers : Nat → Option Nat := fun _ => none
  starting : List Nat := []

/-- A message with the promise that its sender awaits. -/
structure Letter where
  message : Message
  promise : Option Nat := none
deriving DecidableEq

namespace LocalSearch

variable (page : LocalSearch Hit)

/-- The id that `send` goes by, and the next one. -/
def chooseId (msg : Message) : Option Nat → Nat × Nat
  | some (before + 1) => (before + 1, page.nextRequestId)
  | _ =>
    match msg.requestId with
    | some id => (id, page.nextRequestId)
    | none => (page.nextRequestId, page.nextRequestId + 1)

def send (msg : Message) (expected : List JsString) (requestId : Option Nat) :
    LocalSearch Hit × Letter :=
  let (id, nextRequestId) := page.chooseId msg requestId
  let promise := page.promises + 1
  ({ page with
      nextRequestId
      promises := promise
      timers := Function.update page.timers promise (some id)
      pending := Function.update page.pending id (some ⟨promise, expected⟩) },
    ⟨{ msg with requestId := some id }, some promise⟩)

/-- What `start` does up to its `await`. -/
def start (fingerprint : JsString) (seed : Option (List UInt8)) : LocalSearch Hit × Letter :=
  let (page, letter) := page.send ⟨.init fingerprint seed, none⟩ [lit "ready"] none
  ({ page with starting := page.promises :: page.starting }, letter)

/-- `purge`, with a worker. -/
def purge : LocalSearch Hit × Letter := page.send ⟨.purge, none⟩ [lit "purged"] none

/-- What `searchBody` does with a worker that is ready. -/
def search (q : JsString) (limit : Nat) : LocalSearch Hit × Letter :=
  let requestId := page.nextRequestId
  { page with nextRequestId := page.nextRequestId + 1 }.send
    ⟨.search q limit, some requestId⟩ [lit "searchResult"] (some requestId)

/-- `searchBody` posts something, if there is a worker that is ready. -/
def searchBody (q : JsString) (limit : Nat) : LocalSearch Hit × Option Letter :=
  if page.ready then (page.search q limit).map id some else (page, none)

/-- A promise is settled, once. If `start` awaits it, `start` goes on before anything
else happens. -/
def settle (promise : Nat) (how : Settlement Hit) : LocalSearch Hit :=
  match page.settlement promise, how with
  | some _, _ => page
  | none, .rejected _ =>
    { page with settlement := Function.update page.settlement promise (some how) }
  | none, .resolved _ =>
    { page with
      settlement := Function.update page.settlement promise (some how)
      ready := page.ready || page.starting.contains promise }

def settlementOf (slot : Slot) : Reply Hit → Settlement Hit
  | .searchResult _ hits => .resolved (.hits hits)
  | data =>
    if data.kind ∈ slot.expected then .resolved (.data data)
    else .rejected (lit "unexpected kind " ++ data.kind)

def onMessage (data : Reply Hit) : LocalSearch Hit :=
  if data.kind = lit "indexed" ∨ data.kind = lit "error" then page
  else
    match data.requestId with
    | none | some 0 => page
    | some id =>
      match page.pending id with
      | none => page
      | some slot =>
        { page with
          timers := Function.update page.timers slot.promise none
          pending := Function.update page.pending id none }.settle slot.promise
            (settlementOf slot data)

def expire (promise : Nat) : Option (LocalSearch Hit) :=
  (page.timers promise).map fun id =>
    { page with
      timers := Function.update page.timers promise none
      pending := Function.update page.pending id none }.settle promise
        (.rejected (lit "search worker timeout"))

end LocalSearch

end Page

/-- A handled message whose reply is on its way to the page, or has arrived there. -/
structure Exchange (Hit : Type) where
  letter : Letter
  identityFingerprint : JsString
  ended : Except JsString (List Hit)
  reply : Reply Hit
  posted : onmessage identityFingerprint letter.message ended = some reply

/-- A worker: the messages that it has not begun and those in hand. -/
structure Worker where
  identityFingerprint : JsString := []
  inbox : List Letter := []
  running : List Letter := []

/-- The first thing that `handleInit` does. -/
def Worker.begin (worker : Worker) : Request → Worker
  | .init fingerprint (some _) => { worker with identityFingerprint := fingerprint }
  | _ => worker

/-- The page, its worker, and the replies on their way and arrived. -/
structure System (Hit : Type) where
  page : LocalSearch Hit := {}
  worker : Option Worker := none
  wire : List (Exchange Hit) := []
  answered : List (Exchange Hit) := []

/-- What can happen. `search` is a search that is sent whether the worker is ready or not. -/
inductive Event (Hit : Type) where
  | start (fingerprint : JsString) (seed : Option (List UInt8))
  | indexMessage (messageId blobUrl : JsString)
  | cancel (messageId : JsString)
  | purge
  | searchBody (q : JsString) (limit : Nat)
  | search (q : JsString) (limit : Nat)
  | receive
  | finish (index : Nat) (ended : Except JsString (List Hit))
  | deliver (index : Nat)
  | expire (promise : Nat)

namespace System

variable {Hit : Type} (system : System Hit)

def post (worker : Worker) : LocalSearch Hit × Letter → System Hit
  | (page, letter) =>
    { system with page, worker := some { worker with inbox := worker.inbox ++ [letter] } }

def ended (worker : Worker) (index : Nat) (letter : Letter) (ended : Except JsString (List Hit)) :
    System Hit :=
  let left := { system with worker := some { worker with running := worker.running.eraseIdx index } }
  match posted : onmessage worker.identityFingerprint letter.message ended with
  | none => left
  | some reply =>
    { left with
      wire := system.wire ++ [⟨letter, worker.identityFingerprint, ended, reply, posted⟩] }

def step : Event Hit → Option (System Hit)
  | .start fingerprint seed => some (system.post {} (system.page.start fingerprint seed))
  | .indexMessage messageId blobUrl =>
    match system.worker with
    | none => some system
    | some worker => some (system.post worker (system.page, ⟨⟨.index messageId blobUrl, none⟩, none⟩))
  | .cancel messageId =>
    match system.worker with
    | none => some system
    | some worker => some (system.post worker (system.page, ⟨⟨.cancel messageId, none⟩, none⟩))
  | .purge =>
    match system.worker with
    | none => some system
    | some worker => some (system.post worker system.page.purge)
  | .searchBody q limit =>
    match system.worker, system.page.searchBody q limit with
    | some worker, (page, some letter) => some (system.post worker (page, letter))
    | _, _ => some system
  | .search q limit => system.worker.map fun worker => system.post worker (system.page.search q limit)
  | .receive =>
    match system.worker with
    | some { identityFingerprint, inbox := letter :: inbox, running } =>
      some { system with
        worker := some <| Worker.begin
          { identityFingerprint, inbox, running := running ++ [letter] } letter.message.request }
    | _ => none
  | .finish index ended =>
    match system.worker with
    | none => none
    | some worker => worker.running[index]?.map fun letter => system.ended worker index letter ended
  | .deliver index =>
    system.wire[index]?.map fun exchange =>
      { system with
        page := system.page.onMessage exchange.reply
        wire := system.wire.eraseIdx index
        answered := system.answered ++ [exchange] }
  | .expire promise => (system.page.expire promise).map fun page => { system with page }

end System

def dialogue (Hit : Type) : Machine (System Hit) (Event Hit) := ⟨System.step⟩

end ElvishMail.Search
