import ElvishMail.Mailapp.FilterEngine
import ElvishMail.Semantics.Machine
import ElvishMail.Semantics.Remote

/-!
# A pass of the filters over the inbox

`runInboxFilterPass` of `static/mail/mail-filter-engine.js` with the ledger of
`static/mail/mail-filter-ledger.js`. `pump` starts the actions of up to three
messages; what follows them runs when their promises settle, in any order. The
variables `msg`, `hit` and `fp` are declared with `var` within the loop of `pump`:
there is one of each for an invocation of `pump`, and the callbacks of all the
messages that this invocation looked at share them.
-/

namespace ElvishMail.Mailapp

open Js Semantics

/-- An entry of the ledger under the id of its message. A field that is missing or no
string is none. -/
structure LedgerEntry where
  messageId : JsString
  ruleId : Option JsString
  actionFingerprint : Option JsString
  rulesHash : Option JsString
deriving DecidableEq

/-- What `readStore` makes of the item in `localStorage`. -/
structure LedgerStore where
  rulesHash : JsString
  entries : List LedgerEntry
deriving DecidableEq

namespace LedgerStore

/-- `writeStore`: an item that `localStorage` does not take is dropped. -/
def written (taken : Bool) (old new : LedgerStore) : LedgerStore := if taken then new else old

/-- The store in memory after `ensureRulesHash`. -/
def ensured (rulesHash : JsString) (store : LedgerStore) : LedgerStore :=
  if store.rulesHash ≠ rulesHash then ⟨rulesHash, []⟩ else store

/-- `syncRulesHash`, and what `ensureRulesHash` writes. -/
def syncRulesHash (taken : Bool) (rulesHash : JsString) (store : LedgerStore) : LedgerStore :=
  if store.rulesHash ≠ rulesHash then written taken store (store.ensured rulesHash) else store

def alreadyApplied (store : LedgerStore) (messageId ruleId actionFingerprint rulesHash : JsString) :
    Bool :=
  if messageId = [] ∨ ruleId = [] ∨ rulesHash = [] then false
  else if store.rulesHash ≠ rulesHash then false
  else match Rows.find LedgerEntry.messageId messageId store.entries with
    | none => false
    | some entry => entry.ruleId = some ruleId ∧
        entry.actionFingerprint = some actionFingerprint ∧ entry.rulesHash = some rulesHash

/-- The entry that `record` makes. -/
def entryFor (messageId ruleId actionFingerprint rulesHash : JsString) : LedgerEntry :=
  ⟨messageId, some ruleId, some actionFingerprint, some rulesHash⟩

/-- `record`: its first write is that of `ensureRulesHash`. -/
def record (syncTaken taken : Bool) (messageId ruleId actionFingerprint rulesHash : JsString)
    (store : LedgerStore) : LedgerStore :=
  if messageId = [] ∨ ruleId = [] ∨ rulesHash = [] then store
  else
    let fresh := store.ensured rulesHash
    let entry := entryFor messageId ruleId actionFingerprint rulesHash
    written taken (store.syncRulesHash syncTaken rulesHash)
      { fresh with entries := Rows.upsert LedgerEntry.messageId entry fresh.entries }

def pruneMissing (taken : Bool) (messageIds : List JsString) (store : LedgerStore) : LedgerStore :=
  written taken store
    { store with entries := store.entries.filter fun entry => entry.messageId ∈ messageIds }

end LedgerStore

/-- The arguments of `runInboxFilterPass`, and whether `ElvishMailManifest` is loaded. -/
structure PassInput where
  messages : List (Option InboxMessage)
  rawRules : List FilterRule
  bodyByMessageId : JsString → Option JsString
  manifest : Bool

/-- The variables `msg`, `hit` and `fp` of an invocation of `pump`. -/
structure Scope where
  msg : Option InboxMessage := none
  hit : Option FilterRule := none
  fp : JsString := []
deriving DecidableEq

/-- A request that `applyActions` makes. -/
inductive ManifestRequest where
  | moveMessage (id folder : JsString)
  | setMessageRead (id : JsString)
  | deleteMessage (id : JsString)
deriving DecidableEq

/-- Where a call of `applyActions` stands: the requests that are left, or whether it
was fulfilled with `applied: true`, before and after `inFlight` is lowered. -/
inductive Phase where
  | running (requests : List ManifestRequest)
  | settled (applied : Bool)
  | released (applied : Bool)
deriving DecidableEq

/-- A call of `applyActions`, by the invocation of `pump` it was started in, and what
it was started for. -/
structure Call where
  invocation : Nat
  message : InboxMessage
  rule : FilterRule
  fingerprint : JsString
  applies : Bool
  phase : Phase
deriving DecidableEq

def Call.Applied (call : Call) : Prop :=
  call.phase = .settled true ∨ call.phase = .released true

instance (call : Call) : Decidable call.Applied := inferInstanceAs (Decidable (_ ∨ _))

structure Pass where
  queue : List (Option InboxMessage)
  inFlight : Nat
  scopes : List Scope
  calls : List Call
  ledger : LedgerStore
  reloadPending : Bool
  reloads : Nat
  resolved : Bool
deriving DecidableEq

/-- What happens in a pass: the next request of a call succeeds or fails, the callback
of a call that is fulfilled runs, with the two writes it may make, and the last
callback of a call runs. -/
inductive PassEvent where
  | answered (call : Nat)
  | failed (call : Nat)
  | fulfilled (call : Nat) (syncTaken taken : Bool)
  | finished (call : Nat)
deriving DecidableEq

variable (lib : Library) (localeCompare : JsString → JsString → Int)

def actionRequests (messageId : JsString) (action : FilterAction) : Option ManifestRequest :=
  let type := norm lib action.type
  if type = lit "move" then
    let folder := norm lib (action.value.getD [])
    if folder = [] then none else some (.moveMessage messageId folder)
  else if type = lit "mark_read" then some (.setMessageRead messageId)
  else if type = lit "delete" then some (.deleteMessage messageId)
  else none

/-- `applyActions`: the requests it makes one after the other, and the `applied` it is
fulfilled with once they have all succeeded. -/
def applyActions (manifest : Bool) (messageId : JsString) (actions : List FilterAction) :
    List ManifestRequest × Bool :=
  if manifest = false ∨ messageId = [] then ([], false)
  else
    let acts := filterSupportedActions lib actions
    if acts = [] then ([], false) else (acts.filterMap (actionRequests lib messageId), true)

namespace PassInput

variable (input : PassInput)

def rules : List FilterRule := normalizeRules localeCompare input.rawRules

/-- `rh`. -/
def rulesHash : JsString := stableRulesHash (input.rules localeCompare)

/-- `hit`, for a message. -/
def hitFor (message : InboxMessage) : Option FilterRule :=
  pickFirstMatchingRule lib (input.rules localeCompare)
    (buildContext message (input.bodyByMessageId message.id) none)

/-- One turn of the loop of `pump`: the variables after it, and the rule and fingerprint
of a call that is started. -/
def turn (ledger : LedgerStore) (scope : Scope) (head : Option InboxMessage) :
    Scope × Option (InboxMessage × FilterRule × JsString) :=
  match head with
  | none => ({ scope with msg := none }, none)
  | some message =>
    let scope := { scope with msg := some message }
    if message.id = [] then (scope, none)
    else
      let scope := { scope with hit := input.hitFor lib localeCompare message }
      match input.hitFor lib localeCompare message with
      | none => (scope, none)
      | some hit =>
        let acts := filterSupportedActions lib hit.actions
        if acts = [] then (scope, none)
        else
          let fp := actionFingerprint acts
          let scope := { scope with fp := fp }
          if ledger.alreadyApplied message.id hit.id fp (input.rulesHash localeCompare) then
            (scope, none)
          else (scope, some (message, hit, fp))

def startedCall (invocation : Nat) (message : InboxMessage) (hit : FilterRule) (fp : JsString) :
    Call :=
  let (requests, applies) := applyActions lib input.manifest message.id hit.actions
  ⟨invocation, message, hit, fp, applies, .running requests⟩

/-- The loop of `pump`: the queue and the count that are left, the variables, and the
calls that were started. -/
def loop (ledger : LedgerStore) (invocation : Nat) : List (Option InboxMessage) → Nat → Scope →
    List (Option InboxMessage) × Nat × Scope × List Call
  | [], inFlight, scope => ([], inFlight, scope, [])
  | head :: queue, inFlight, scope =>
    if 3 ≤ inFlight then (head :: queue, inFlight, scope, [])
    else
      match input.turn lib localeCompare ledger scope head with
      | (scope, none) => loop ledger invocation queue inFlight scope
      | (scope, some (message, hit, fp)) =>
        let (queue, inFlight, scope, calls) := loop ledger invocation queue (inFlight + 1) scope
        (queue, inFlight, scope, input.startedCall lib invocation message hit fp :: calls)

def pump (state : Pass) : Pass :=
  let (queue, inFlight, scope, calls) :=
    input.loop lib localeCompare state.ledger state.scopes.length state.queue state.inFlight {}
  let ended : Bool := inFlight = 0 ∧ queue = []
  { state with
    queue, inFlight
    scopes := state.scopes ++ [scope]
    calls := state.calls ++ calls
    reloads := if ended && state.reloadPending then state.reloads + 1 else state.reloads
    resolved := state.resolved || ended }

def opened (syncTaken pruneTaken : Bool) (store : LedgerStore) : LedgerStore :=
  (store.syncRulesHash syncTaken (input.rulesHash localeCompare)).pruneMissing pruneTaken
    (input.messages.filterMap fun message => message.map InboxMessage.id)

/-- The pass before `pump` is called for the first time. -/
def initial (syncTaken pruneTaken : Bool) (store : LedgerStore) : Pass where
  queue := input.messages
  inFlight := 0
  scopes := []
  calls := []
  ledger := input.opened localeCompare syncTaken pruneTaken store
  reloadPending := false
  reloads := 0
  resolved := false

/-- `runInboxFilterPass`, up to where it awaits the first promise. -/
def start (syncTaken pruneTaken : Bool) (store : LedgerStore) : Pass :=
  input.pump lib localeCompare (input.initial localeCompare syncTaken pruneTaken store)

/-- The first callback of a call: it reads the variables of the invocation of `pump`
that the call was started in, and throws where one of them has no value. -/
def onFulfilled (syncTaken taken : Bool) (scope : Scope) (state : Pass) : Pass :=
  match scope.msg, scope.hit with
  | some msg, some hit =>
    { state with
      ledger := state.ledger.record syncTaken taken msg.id hit.id scope.fp
        (input.rulesHash localeCompare)
      reloadPending := true }
  | _, _ => state

def step (state : Pass) : PassEvent → Option Pass
  | .answered index =>
    match state.calls[index]? with
    | some call =>
      match call.phase with
      | .running (_ :: requests) =>
        some { state with calls := state.calls.set index { call with phase := .running requests } }
      | _ => none
    | none => none
  | .failed index =>
    match state.calls[index]? with
    | some call =>
      match call.phase with
      | .running (_ :: _) =>
        some { state with calls := state.calls.set index { call with phase := .settled false } }
      | _ => none
    | none => none
  | .fulfilled index syncTaken taken =>
    match state.calls[index]? with
    | some call =>
      if call.phase = .running [] then
        let state := input.onFulfilled localeCompare syncTaken taken
          (state.scopes[call.invocation]?.getD {}) state
        some { state with
          calls := state.calls.set index { call with phase := .settled call.applies } }
      else none
    | none => none
  | .finished index =>
    match state.calls[index]? with
    | some call =>
      match call.phase with
      | .settled applied =>
        some (input.pump lib localeCompare { state with
          calls := state.calls.set index { call with phase := .released applied }
          inFlight := state.inFlight - 1 })
      | _ => none
    | none => none

def machine : Machine Pass PassEvent := ⟨input.step lib localeCompare⟩

end PassInput

end ElvishMail.Mailapp
