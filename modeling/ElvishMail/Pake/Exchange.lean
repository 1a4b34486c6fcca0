import ElvishMail.Pake.Browser

/-!
# The browser's exchange with a server

`exchange` of `static/auth/srp.js` asks a server that may answer anything: what it reads of the two
replies, which proof it wants to see, and when it resolves.
-/

namespace ElvishMail.Pake.Browser

open Go Js

inductive Json where
  | null
  | bool (value : Bool)
  | number (text : JsString)
  | string (text : JsString)
  | array (items : List Json)
  | object (members : List (JsString × Json))

/-- A property of a value, which may be undefined; `none` where asking for it throws. -/
def Json.get (name : JsString) : Json → Option (Option Json)
  | null => none
  | object members => some ((members.reverse.find? fun entry => entry.1 = name).map Prod.snd)
  | _ => some none

def truthy : Option Json → Bool
  | none | some .null => false
  | some (.bool value) => value
  | some (.number text) => text != lit "0"
  | some (.string text) => text != []
  | some (.array _) | some (.object _) => true

structure Reply where
  ok : Bool
  body : Option Json

/-- `res.json().catch(() => ({}))`. -/
def Reply.json (reply : Reply) : Json := reply.body.getD (.object [])

/-- A server: what it answers to the two requests at their addresses, if anything. -/
structure Server where
  begin : (url : JsString) → Json → Option Reply
  finish : (url : JsString) → Json → Option Reply

/-- `atob`, and `String` on values that are no text. Both may throw. -/
structure Host where
  atob : JsString → Option (List UInt8)
  text : Json → Option JsString

/-- Why an exchange is rejected: an error with a message, or what fetching, `atob`, `String` or a
property of `null` throws. -/
inductive Rejection where
  | error (message : JsString)
  | thrown
deriving DecidableEq

def orThrow {Result : Type} (result : Option Result) : Except Rejection Result :=
  result.elim (.error .thrown) .ok

/-- `Object.assign` of one property. -/
def assign (name : String) (value : Option Json) (members : List (JsString × Json)) :
    List (JsString × Json) :=
  members.filter (fun entry => entry.1 ≠ lit name) ++ value.toList.map (lit name, ·)

section Exchange

variable (host : Host)

/-- `String`. -/
def toText : Json → Option JsString
  | .string text => some text
  | value => host.text value

def b64ToBytes (value : Option Json) : Option (List UInt8) :=
  match value, truthy value with
  | some value, true => (toText host value).bind host.atob
  | _, _ => host.atob []

/-- `throw new Error(json.error || fallback)`. -/
def refusal {Result : Type} (json : Json) (fallback : String) : Except Rejection Result := do
  let message ← orThrow (json.get (lit "error"))
  match message, truthy message with
  | some message, true => .error (.error (← orThrow (toText host message)))
  | _, _ => .error (.error (lit fallback))

/-- What is asked for, with whom, and what is sent besides. -/
structure Request where
  beginUrl : JsString
  finishUrl : JsString
  username : JsString
  password : JsString
  extraFinishPayload : List (JsString × Json) := []
  extraBeginPayload : List (JsString × Json) := []

structure Challenge where
  sessionID : Option Json
  salt : List UInt8
  serverPublic : List UInt8

variable (server : Server) (request : Request) (state : State)

/-- The first half of `exchange`. -/
def askChallenge : Except Rejection Challenge := do
  let beginRes ← orThrow (server.begin request.beginUrl (.object
    (assign "company" (some (.string []))
      (assign "client_public_b64" (some (.string state.clientPublicB64))
        (assign "username" (some (.string request.username)) request.extraBeginPayload)))))
  let beginJSON := beginRes.json
  if beginRes.ok = false then refusal host beginJSON "SRP begin failed"
  else
    let salt ← orThrow ((beginJSON.get (lit "salt_b64")).bind (b64ToBytes host))
    let serverPublic ← orThrow ((beginJSON.get (lit "server_public_b64")).bind (b64ToBytes host))
    let sessionID ← orThrow (beginJSON.get (lit "session_id"))
    return ⟨sessionID, salt, serverPublic⟩

def askFinish (challenge : Challenge) (proof : Proof) : Except Rejection Json := do
  let finishRes ← orThrow (server.finish request.finishUrl (.object
    (assign "company" (some (.string []))
      (assign "client_proof_b64" (some (.string proof.clientProofB64))
        (assign "session_id" challenge.sessionID request.extraFinishPayload)))))
  if finishRes.ok = false then refusal host finishRes.json "SRP finish failed"
  else return finishRes.json

/-- `proof.expected !== shown`. -/
def differs (expected : JsString) : Option Json → Bool
  | some (.string text) => text != expected
  | _ => true

variable (hash : Hash)

def proofFor (challenge : Challenge) : Proof :=
  clientProof hash state challenge.salt challenge.serverPublic

/-- `exchange`, with the random bytes that it draws. -/
def exchange (random : List UInt8) : Except Rejection Json := do
  let state := begin request.username request.password random
  let challenge ← askChallenge host server request state
  let proof := proofFor state hash challenge
  let finishJSON ← askFinish host server request challenge proof
  let shown ← orThrow (finishJSON.get (lit "server_proof_b64"))
  if proof.expectedServerProofB64 ≠ [] ∧ truthy shown = true ∧
      differs proof.expectedServerProofB64 shown = true then
    .error (.error (lit "SRP server proof mismatch"))
  else return finishJSON

/-- The two replies can be read up to the server's proof: to `challenge`, `shown` is shown. -/
def Reads (random : List UInt8) (challenge : Challenge) (finishJSON : Json) (shown : Option Json) :
    Prop :=
  let state := begin request.username request.password random
  askChallenge host server request state = .ok challenge ∧
    askFinish host server request challenge (proofFor state hash challenge) = .ok finishJSON ∧
    finishJSON.get (lit "server_proof_b64") = some shown

/-- The browser has authenticated the server where it resolves: the reply has the proof that it
computed, from a public value that is not zero in the group. -/
def Authenticates (random : List UInt8) : Prop :=
  ∀ result, exchange host server request hash random = .ok result →
    ∃ challenge, askChallenge host server request
        (begin request.username request.password random) = .ok challenge ∧
      result.get (lit "server_proof_b64") = some (some (.string (proofFor
        (begin request.username request.password random) hash challenge).expectedServerProofB64)) ∧
      ¬N ∣ bytesToBigInt challenge.serverPublic

end Exchange

section Authentication

variable {host : Host} {server : Server} {request : Request} {hash : Hash} {random : List UInt8}

theorem bytesToB64_ne_nil {bytes : List UInt8} (some : bytes ≠ []) : bytesToB64 bytes ≠ [] := by
  match bytes with
  | [] => exact absurd rfl some
  | [_] | [_, _] | _ :: _ :: _ :: _ => simp [bytesToB64, base64Encode]

theorem expected_ne_nil (state : State) (challenge : Challenge) :
    (proofFor state hash challenge).expectedServerProofB64 ≠ [] := by
  refine bytesToB64_ne_nil fun empty => ?_
  have length := congrArg List.length empty
  rw [sha256, hash.length_sum] at length
  cases length

theorem exchange_ok_iff {result : Json} :
    exchange host server request hash random = .ok result ↔ ∃ challenge shown,
      Reads host server request hash random challenge result shown ∧
        (truthy shown = true → differs (proofFor (begin request.username request.password random)
          hash challenge).expectedServerProofB64 shown = false) := by
  unfold exchange Reads
  dsimp only
  generalize begin request.username request.password random = state
  cases askChallenge host server request state with
  | error rejection => simp [bind, Except.bind]
  | ok challenge =>
    have expected := @expected_ne_nil hash state challenge
    cases finished : askFinish host server request challenge (proofFor state hash challenge) with
    | error rejection => simp [bind, Except.bind, finished]
    | ok finishJSON =>
      cases found : finishJSON.get (lit "server_proof_b64") with
      | none =>
        simp only [bind, Except.bind, finished, found, orThrow, Option.elim_none, reduceCtorEq,
          false_iff]
        rintro ⟨other, shown, ⟨⟨⟩, same, shows⟩, -⟩
        rw [finished] at same
        cases same
        rw [found] at shows
        cases shows
      | some shown =>
        simp only [bind, Except.bind, finished, found, orThrow, Option.elim_some, pure, Except.pure]
        constructor
        · intro resolved
          split at resolved
          · cases resolved
          next fine =>
            cases resolved
            exact ⟨challenge, shown, ⟨rfl, finished, found⟩, by simpa [expected] using fine⟩
        · rintro ⟨other, proof, ⟨⟨⟩, same, shows⟩, right⟩
          rw [finished] at same
          cases same
          rw [found] at shows
          cases shows
          rw [if_neg (by simpa [expected] using right)]

theorem differs_eq_false {expected : JsString} {shown : Option Json} :
    differs expected shown = false ↔ shown = some (.string expected) := by
  unfold differs
  split <;> simp_all

/-- For any server, a resolved exchange has authenticated it exactly if every finish reply that can
be read shows a proof that counts as true, and not the right one for a public value that is zero in
the group. -/
theorem authenticates_iff :
    Authenticates host server request hash random ↔ ∀ challenge finishJSON shown,
      Reads host server request hash random challenge finishJSON shown →
        truthy shown = true ∧
          (shown = some (.string (proofFor (begin request.username request.password random) hash
              challenge).expectedServerProofB64) → ¬N ∣ bytesToBigInt challenge.serverPublic) := by
  constructor
  · intro authenticates challenge finishJSON shown reads
    have resolves (right : truthy shown = true → differs (proofFor (begin request.username
        request.password random) hash challenge).expectedServerProofB64 shown = false) :=
      authenticates finishJSON (exchange_ok_iff.mpr ⟨challenge, shown, reads, right⟩)
    have same {other : Challenge} (asked : askChallenge host server request
        (begin request.username request.password random) = .ok other) : other = challenge :=
      Except.ok.inj (asked.symm.trans reads.1)
    constructor
    · by_contra hidden
      obtain ⟨other, asked, proved, -⟩ := resolves fun visible => absurd visible hidden
      rw [reads.2.2] at proved
      rw [Option.some.inj proved] at hidden
      exact hidden (bne_iff_ne.mpr (expected_ne_nil _ other))
    · intro right
      obtain ⟨other, asked, -, regular⟩ := resolves fun _ => differs_eq_false.mpr right
      rwa [same asked] at regular
  · intro every result resolved
    obtain ⟨challenge, shown, reads, right⟩ := exchange_ok_iff.mp resolved
    obtain ⟨visible, regular⟩ := every challenge result shown reads
    have proved := differs_eq_false.mp (right visible)
    exact ⟨challenge, reads.1, reads.2.2.trans (congrArg some proved), regular proved⟩

def plainHost : Host where
  atob text := base64Decode (text.map UInt16.toUInt8)
  text _ := none

def silentServer : Server where
  begin _ _ := some ⟨true, some (.object
    [(lit "salt_b64", .string (lit "c2FsdA==")), (lit "server_public_b64", .string (lit "BA=="))])⟩
  finish _ _ := some ⟨true, some (.object [])⟩

def aliceLogin : Request where
  beginUrl := lit "/api/auth/login/begin"
  finishUrl := lit "/api/auth/login/finish"
  username := lit "alice"
  password := lit "secret"

/-- Its exchange resolves all the same. -/
theorem unproved_server_accepted :
    ¬Authenticates plainHost silentServer aliceLogin unitHash [1] := by
  intro authenticates
  have resolved : exchange plainHost silentServer aliceLogin unitHash [1] = .ok (.object []) := by
    exact exchange_ok_iff.mpr ⟨⟨none, ascii "salt", [4]⟩, none, ⟨rfl, rfl, rfl⟩, nofun⟩
  obtain ⟨challenge, -, proved, -⟩ := authenticates _ resolved
  cases proved

end Authentication

end ElvishMail.Pake.Browser
