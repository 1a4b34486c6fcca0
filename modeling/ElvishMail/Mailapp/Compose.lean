import ElvishMail.Js.Text
import ElvishMail.Mailapp.Address
import ElvishMail.Semantics.Machine

/-!
# Composing a message

`ElvishMailCompose` of `static/mail/compose.jsx`, as far as it decides which key a
message is encrypted to. A call keeps the values of the render in which it was
created; those that it needs after an `await` are in its `Task`.
-/

namespace ElvishMail.Mailapp.Compose

open Js Semantics

/-- `replace(/\r\n/g, "\n").replace(/\n/g, " ")`. -/
def joinLines (text : JsString) : JsString :=
  (unixLines text).map fun unit => if unit = 10 then 0x20 else unit

/-- The tokens of an address list, given how deep in angle brackets it starts and what has
been read of the current one. -/
def splitTokens : Nat → JsString → JsString → List JsString
  | _, cur, [] => [trim (collapseWhite cur)]
  | depth, cur, unit :: rest =>
    let depth := if [unit] = lit "<" then depth + 1 else if [unit] = lit ">" then depth - 1 else depth
    if ([unit] = lit "," ∨ [unit] = lit ";") ∧ depth = 0 then
      trim (collapseWhite cur) :: splitTokens depth [] rest
    else splitTokens depth (cur ++ [unit]) rest

def splitAddressList (value : JsString) : List JsString :=
  (splitTokens 0 [] (trim (joinLines value))).filter fun token => token ≠ []

def isToken (unit : UInt16) : Bool :=
  isLetter unit || isDigit unit || (lit "._%+-").contains unit

variable (lib : Library)

def canonicalEmailToken (display : JsString) : JsString :=
  let raw := trim display
  match raw.tails.findSome? matchBracket with
  | some address => lib.toLowerCase (trim address)
  | none =>
    match raw.tails.findSome? (matchEmail isToken) with
    | some address => lib.toLowerCase (trim address)
    | none => lib.toLowerCase raw

def toRecipientsForPGP (toField : JsString) : List JsString :=
  ((splitAddressList toField).map (canonicalEmailToken lib)).filter fun recipient => recipient ≠ []

def singleComposeRecipient (toField : JsString) : JsString :=
  match toRecipientsForPGP lib toField with
  | [recipient] => recipient
  | _ => []

inductive Mode where
  | pgp
  | link
deriving DecidableEq

structure RecipientMeta where
  source : JsString
  fingerprint : JsString
  email : JsString
  armoredPublic : JsString
deriving DecidableEq

/-- What a `handleSend` goes on with after its lookup. -/
structure Send where
  recipient : JsString
  recipientArmored : JsString
  saveToAddressBook : Bool
  sender : Option KeyRecord
deriving DecidableEq

structure Entry where
  email : JsString
  armoredPublic : JsString
  source : JsString
deriving DecidableEq

/-- The arguments of `sendPGPDirect` that matter here, and what is saved afterwards. -/
structure Plan where
  recipient : JsString
  recipientArmored : JsString
  localDelivery : Bool
  entry : Option Entry
deriving DecidableEq

/-- A call of `detectRecipientKey`, and the `handleSend` that awaits it. -/
structure Lookup where
  seq : Nat
  target : JsString
  preserveManual : Bool
  send : Option Send
deriving DecidableEq

/-- What a suspended call awaits: `detectRecipientKey`, of which the contact may be one
without a key, `handleManualKeyUpload` and `handleSend`. -/
inductive Task where
  | getContactKey (lookup : Lookup)
  | lookupKey (lookup : Lookup) (contact : Bool)
  | fileText (target name : JsString)
  | pgpFingerprint (target name armored : JsString)
  | ensureIdentityUnlocked (plan : Plan)
  | sendPGPDirect (plan : Plan)
  | putContactKey
deriving DecidableEq

inductive Reply where
  | rejected
  | resolved
  | record (record : Option KeyRecord)
  | text (text : JsString)
deriving DecidableEq

/-- The state of the component and its calls in flight. `sender` is the identity that is
chosen. `known` are the keys that were found for an address or entered while it was the
single recipient; `sent` are the calls of `sendPGPDirect`, and `saved` those of
`putContactKey` with the message that each followed. -/
structure State where
  toField : JsString := []
  mode : Mode := .pgp
  sender : Option KeyRecord := none
  recipientArmored : JsString := []
  recipientMeta : Option RecipientMeta := none
  manualKeyOverride : Bool := false
  manualKeyEmail : JsString := []
  uploadedKeyName : JsString := []
  saveToAddressBook : Bool := true
  busy : Bool := false
  timer : Bool := false
  lookupSeq : Nat := 0
  tasks : List Task := []
  known : List (JsString × JsString) := []
  sent : List Plan := []
  saved : List (Plan × Entry) := []
deriving DecidableEq

namespace State

variable (state : State)

def await (task : Task) : State := { state with tasks := state.tasks ++ [task] }

def entered (target armored : JsString) : State :=
  if target = [] then state else { state with known := state.known ++ [(target, armored)] }

def found (target : JsString) (record : Option KeyRecord) : State :=
  match record with
  | some record =>
    if record.armoredPublic = [] then state
    else { state with known := state.known ++ [(target, record.armoredPublic)] }
  | none => state

/-- The end of `handleSend`. -/
def settle : State := { state with busy := false }

/-- `handleSend` calls `sendPGPDirect`. -/
def dispatch (plan : Plan) : State :=
  { state with sent := state.sent ++ [plan] }.await (.sendPGPDirect plan)

/-- `handleSend` looks for the sender's key. -/
def signAs (sender : Option KeyRecord) (plan : Plan) : State :=
  match sender with
  | none => state.settle
  | some sender =>
    if sender.armoredPublic = [] then state.settle
    else if sender.fingerprint = [] then state.await (.ensureIdentityUnlocked plan)
    else state.dispatch plan

/-- `handleSend` with a key that was entered for the recipient. -/
def sendManual (send : Send) : State :=
  let entry : Entry :=
    { email := send.recipient
      armoredPublic := send.recipientArmored
      source := if state.uploadedKeyName ≠ [] then lit "manual upload" else lit "manual" }
  state.signAs send.sender
    { recipient := send.recipient
      recipientArmored := send.recipientArmored
      localDelivery := false
      entry := if send.saveToAddressBook then some entry else none }

/-- `handleSend` once it has its `routingMeta`. -/
def route (send : Send) (routingMeta : Option RecipientMeta) : State :=
  let found := (routingMeta.map RecipientMeta.armoredPublic).getD []
  if send.recipientArmored = [] ∧ found = [] then state.settle
  else
    let localDelivery := routingMeta.any fun found =>
      found.source = lit "local" ∧ found.email = send.recipient
    let routeArmored :=
      if localDelivery ∧ found ≠ [] then found
      else if send.recipientArmored ≠ [] then send.recipientArmored
      else found
    let entry := routingMeta.bind fun found =>
      if found.email = [] then none
      else some { email := found.email, armoredPublic := routeArmored, source := found.source }
    state.signAs send.sender
      { recipient := send.recipient
        recipientArmored := routeArmored
        localDelivery
        entry := if send.saveToAddressBook then entry else none }

/-- What `detectRecipientKey` returns, to the `handleSend` that may await it. -/
def returns (lookup : Lookup) (found : Option RecipientMeta) : State :=
  match lookup.send with
  | some send => state.route send found
  | none => state

/-- The call of `detectRecipientKey` for a single recipient. -/
def detect (target : JsString) (send : Option Send) : State :=
  { state with lookupSeq := state.lookupSeq + 1 }.await (.getContactKey
    { seq := state.lookupSeq + 1
      target
      preserveManual := state.manualKeyOverride ∧ state.manualKeyEmail = target ∧
        state.recipientArmored ≠ []
      send })

/-- `detectRecipientKey`, up to its first `await`. -/
def detectRecipientKey : State :=
  match toRecipientsForPGP lib state.toField with
  | [target] => state.detect target none
  | _ => state

/-- `detectRecipientKey` has found a key. -/
def hit (lookup : Lookup) (contact : Bool) (record : KeyRecord) : State :=
  let found : RecipientMeta :=
    { source := if record.source ≠ [] then record.source
        else if contact then lit "address-book" else lit "?"
      fingerprint := record.fingerprint
      email := lookup.target
      armoredPublic := record.armoredPublic }
  let state :=
    if lookup.preserveManual then state
    else
      { state with
        recipientArmored := record.armoredPublic
        recipientMeta := some found
        manualKeyOverride := false
        manualKeyEmail := []
        uploadedKeyName := [] }
  state.returns lookup (some found)

/-- `detectRecipientKey` has found nothing. -/
def miss (lookup : Lookup) : State :=
  let state :=
    if lookup.preserveManual then state
    else { state with recipientArmored := [], recipientMeta := none }
  state.returns lookup none

/-- `detectRecipientKey` has caught an error. -/
def caught (lookup : Lookup) : State :=
  let state := if lookup.preserveManual then state else { state with recipientMeta := none }
  state.returns lookup none

def hasKey (record : Option KeyRecord) : Option KeyRecord :=
  record.filter fun record => record.armoredPublic ≠ []

def lookupEffect : State :=
  if state.mode ≠ .pgp then { state with lookupSeq := state.lookupSeq + 1, timer := false }
  else match toRecipientsForPGP lib state.toField with
    | [_] => { state with timer := true }
    | _ =>
      let state := { state with lookupSeq := state.lookupSeq + 1, timer := false }
      if state.manualKeyOverride then state
      else { state with recipientArmored := [], recipientMeta := none }

def dependencies : JsString × Mode × Bool × JsString × JsString :=
  (state.toField, state.mode, state.manualKeyOverride, state.manualKeyEmail, state.recipientArmored)

/-- The effect, if one of its dependencies has changed; what it changes itself may make it
run once more. -/
def effects (next : State) : State :=
  if next.dependencies = state.dependencies then next
  else
    let after := next.lookupEffect lib
    if after.dependencies = next.dependencies then after else after.lookupEffect lib

def handleManualKeyChange (nextValue : JsString) : State :=
  let target := singleComposeRecipient lib state.toField
  let state : State := { state with recipientArmored := nextValue, uploadedKeyName := [] }
  if trim nextValue ≠ [] then
    let manual := state.recipientMeta.filter fun found => startsWith found.source (lit "manual")
    { state with
      manualKeyOverride := true
      manualKeyEmail := target
      recipientMeta := some
        { source := lit "manual"
          fingerprint := (manual.map RecipientMeta.fingerprint).getD []
          email := target
          armoredPublic := nextValue } }.entered target nextValue
  else { state with manualKeyOverride := false, manualKeyEmail := [], recipientMeta := none }

def clearManualKey : State :=
  { state with
    recipientArmored := []
    recipientMeta := none
    manualKeyOverride := false
    manualKeyEmail := []
    uploadedKeyName := [] }

def holdsPrivateKey (text : JsString) : Bool :=
  let holds (pattern : String) : Bool :=
    (indexOf (text.map upperUnit) ((lit pattern).map upperUnit)).isSome
  holds "BEGIN PGP PRIVATE KEY" || holds "BEGIN PRIVATE KEY"

/-- The end of `handleManualKeyUpload`. -/
def assignUpload (target name armored fingerprint : JsString) : State :=
  { state with
    recipientArmored := armored
    recipientMeta := some
      { source := lit "manual upload", fingerprint, email := target, armoredPublic := armored }
    manualKeyOverride := true
    manualKeyEmail := target
    uploadedKeyName := name }.entered target armored

/-- `handleSend` in the mode `pgp`, up to its first `await`. -/
def handleSend : State :=
  match toRecipientsForPGP lib state.toField with
  | [recipient] =>
    let send : Send :=
      { recipient
        recipientArmored := state.recipientArmored
        saveToAddressBook := state.saveToAddressBook
        sender := state.sender }
    let state : State := { state with busy := true }
    if state.manualKeyOverride ∧ state.manualKeyEmail = recipient ∧ state.recipientArmored ≠ [] then
      state.sendManual send
    else match state.recipientMeta.filter fun found => found.email = recipient with
      | some found => state.route send (some found)
      | none => state.detect recipient (some send)
  | _ => state

/-- What a suspended call does when its promise is settled. -/
def resume : Task → Reply → Option State
  | .getContactKey lookup, .record contact =>
    let state := state.found lookup.target contact
    if lookup.seq ≠ state.lookupSeq then some (state.returns lookup none)
    else match hasKey contact with
      | some record => some (state.hit lookup true record)
      | none => some (state.await (.lookupKey lookup contact.isSome))
  | .lookupKey lookup contact, .record record =>
    let state := state.found lookup.target record
    if lookup.seq ≠ state.lookupSeq then some (state.returns lookup none)
    else match hasKey record with
      | some record => some (state.hit lookup contact record)
      | none => some (state.miss lookup)
  | .getContactKey lookup, .rejected | .lookupKey lookup _, .rejected =>
    if lookup.seq ≠ state.lookupSeq then some (state.returns lookup none)
    else some (state.caught lookup)
  | .fileText target name, .text text =>
    let armored := trim text
    if armored = [] ∨ holdsPrivateKey armored then some state
    else some (state.await (.pgpFingerprint target name armored))
  | .pgpFingerprint target name armored, .text fingerprint =>
    some (state.assignUpload target name armored fingerprint)
  | .fileText .., .rejected | .pgpFingerprint .., .rejected => some state
  | .ensureIdentityUnlocked plan, .text fingerprint =>
    if fingerprint = [] then some state.settle else some (state.dispatch plan)
  | .ensureIdentityUnlocked _, .rejected | .sendPGPDirect _, .rejected => some state.settle
  | .sendPGPDirect plan, .resolved =>
    match plan.entry with
    | some entry =>
      some ({ state with saved := state.saved ++ [(plan, entry)] }.await .putContactKey)
    | none => some state.settle
  | .putContactKey, .resolved | .putContactKey, .rejected => some state.settle
  | _, _ => none

end State

inductive Event where
  | setTo (value : JsString)
  | setMode (mode : Mode)
  | setSender (sender : Option KeyRecord)
  | setSaveToAddressBook (save : Bool)
  | manualKeyChange (nextValue : JsString)
  | clearManualKey
  | manualKeyUpload (name : JsString)
  | debounced
  | fetchRecipientKey
  | send
  | opened (value : JsString)
  | closed
  | resume (index : Nat) (reply : Reply)
deriving DecidableEq

def State.handle (state : State) : Event → Option State
  | .setTo value | .opened value => some { state with toField := value }
  | .setMode mode => some { state with mode }
  | .setSender sender => some { state with sender }
  | .setSaveToAddressBook save => some { state with saveToAddressBook := save }
  | .manualKeyChange nextValue => some (state.handleManualKeyChange lib nextValue)
  | .clearManualKey => some state.clearManualKey
  | .manualKeyUpload name =>
    some (state.await (.fileText (singleComposeRecipient lib state.toField) name))
  | .debounced => if state.timer then some ({ state with timer := false }.detectRecipientKey lib) else none
  | .fetchRecipientKey => some (state.detectRecipientKey lib)
  | .send => if state.busy ∨ state.mode ≠ .pgp then none else some (state.handleSend lib)
  | .closed => some { state.clearManualKey with toField := [], mode := .pgp }
  | .resume index reply => do
      let task ← state.tasks[index]?
      State.resume { state with tasks := state.tasks.eraseIdx index } task reply

def machine : Machine State Event where
  step := fun state event => (state.handle lib event).map (state.effects lib)

end ElvishMail.Mailapp.Compose
