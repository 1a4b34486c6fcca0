import Mathlib.Data.List.Perm.Basic
import ElvishMail.Mailapp.Detail

/-!
# What is shown is of the selected message

A `decryptBody` never looks again at which message is selected, and a signature
check compares its run only once. What is shown is of the selected message as long
as no such call comes to write for another one.
-/

namespace ElvishMail.Mailapp

open Js Keyvault Semantics

def Detail.Selected (detail : Detail) (id : JsString) : Prop :=
  ∀ message ∈ detail.message, id = message.id

/-- What is shown is of the selected message, and once nothing is pending an unlocked reader
has decrypted it or shows an error for it. -/
structure Current (detail : Detail) : Prop where
  body : ∀ message ∈ detail.message,
    detail.bodyText ≠ none ∨ detail.bodyHtml ≠ [] ∨ detail.attachments ≠ [] →
      detail.bodyOf = some message.id
  error : ∀ message ∈ detail.message, detail.bodyErr ≠ [] → detail.errorOf = some message.id
  signature : ∀ message ∈ detail.message, detail.signatureState ≠ none →
    detail.signatureOf = some message.id
  attempted : detail.tasks = [] → detail.unlocked = true → ∀ message ∈ detail.message,
    detail.bodyText ≠ none ∧ detail.bodyOf = some message.id ∨ detail.errorOf = some message.id

def Task.messageId (detail : Detail) : Task → Option JsString
  | .getEnvelope message | .fetchSigBlob message _ | .decryptSigBlob message _ _ |
    .fetchBlob message | .decryptBlob message _ => some message.id
  | .buildCombined check | .decryptResult check _ | .nested check _ _ | .pick check _ =>
    some check.input.messageId
  | .putContactKey => detail.lastSig.map SignatureInput.messageId

/-- A reply that a call writes nothing on, whatever message it is of: it awaits something
else, compares its run first, or has failed. The error of a `decryptBody` is only
replaced by the next attempt, which a locked reader does not make. -/
def Task.discards (detail : Detail) : Task → Reply → Bool
  | .getEnvelope _, .cached envelope =>
    (envelope.filter envelopeHasHydratedAttachmentBytes).isNone
  | .getEnvelope _, .rejected _ | .fetchBlob _, .rejected _ | .decryptBlob .., .rejected _ =>
    detail.unlocked
  | .fetchBlob _, .blob _ => true
  | .fetchSigBlob .., _ => true
  | .decryptSigBlob .., .rejected _ => true
  | .buildCombined _, _ | .decryptResult .., _ => true
  | .putContactKey, .rejected _ => true
  | _, _ => false

/-- No call that is of another message than the selected one comes to write. -/
def NoStaleWrite (detail : Detail) : Event → Prop
  | .resume index reply => ∀ task ∈ detail.tasks[index]?,
      task.discards detail reply = true ∨ ∀ id ∈ task.messageId detail, detail.Selected id
  | _ => True

/-- The message of a `decryptBody`. -/
def Task.body : Task → Option Message
  | .getEnvelope message | .fetchSigBlob message _ | .decryptSigBlob message _ _ |
    .fetchBlob message | .decryptBlob message _ => some message
  | _ => none

def Task.unchecked : Task → Option Check
  | .buildCombined check | .decryptResult check _ => some check
  | _ => none

/-- A `decryptBody` that has shown a cached envelope. -/
def Task.hasShown : Task → Bool
  | .fetchSigBlob .. | .decryptSigBlob .. => true
  | _ => false

/-- The effect that decrypts a message is about to. -/
def Detail.Restarts (detail : Detail) : Prop :=
  ∃ message ∈ detail.message, detail.unlocked = true ∧ detail.busy = false ∧
    detail.bodyText = none ∧ detail.attemptedMessage ≠ message.id

/-- What holds of the component as long as no stale call has written. A `decryptBody` of
another message than the selected one keeps that from being attempted, but then it has
not been, and nothing is shown. -/
structure Tracked (detail : Detail) : Prop where
  body : ∀ id ∈ detail.bodyOf, detail.Selected id
  bodyNone : detail.bodyOf = none → detail.bodyHtml = [] ∧ detail.attachments = []
  bodyText : detail.bodyText = none ↔ detail.bodyOf = none
  error : ∀ id ∈ detail.errorOf, detail.Selected id ∨ detail.Restarts
  errorNone : detail.errorOf = none → detail.bodyErr = []
  signature : ∀ id ∈ detail.signatureOf, detail.Selected id
  signatureNone : detail.signatureOf = none → detail.signatureState = none
  runs : ∀ task ∈ detail.tasks, ∀ check ∈ task.unchecked,
    check.runID ≤ detail.verificationRun ∧
      (check.runID = detail.verificationRun → detail.Selected check.input.messageId)
  busy : detail.tasks.countP (fun task => task.body.isSome) = detail.busy.toNat
  pending : ∀ task ∈ detail.tasks, ∀ owner ∈ task.body, ∀ message ∈ detail.message,
    owner.id ≠ message.id →
      detail.attemptedMessage ≠ message.id ∧ detail.bodyOf = none ∧ detail.errorOf = none
  shown : ∀ task ∈ detail.tasks, task.hasShown = true → ∀ message ∈ detail.message,
    detail.attemptedMessage = message.id → detail.bodyOf = some message.id
  attempted : ∀ message ∈ detail.message, detail.attemptedMessage = message.id →
    detail.bodyOf = some message.id ∨ detail.errorOf = some message.id ∨
      ∃ task ∈ detail.tasks, ∃ owner ∈ task.body, owner.id = message.id

section Steps

variable {detail : Detail} {task next : Task} {rest : List Task} {reader : Reader}

theorem body_of_hasShown (shown : task.hasShown = true) : task.body.isSome = true := by
  cases task <;> first | rfl | cases shown

theorem Tracked.perm {tasks : List Task} (tracked : Tracked detail)
    (same : tasks.Perm detail.tasks) : Tracked { detail with tasks } where
  body := tracked.body
  bodyNone := tracked.bodyNone
  bodyText := tracked.bodyText
  error := tracked.error
  errorNone := tracked.errorNone
  signature := tracked.signature
  signatureNone := tracked.signatureNone
  runs := fun task member => tracked.runs task (same.mem_iff.mp member)
  busy := (same.countP_eq _).trans tracked.busy
  pending := fun task member => tracked.pending task (same.mem_iff.mp member)
  shown := fun task member => tracked.shown task (same.mem_iff.mp member)
  attempted := by
    intro message selected attempted
    rcases tracked.attempted message selected attempted with body | error | ⟨task, member, owner⟩
    · exact .inl body
    · exact .inr (.inl error)
    · exact .inr (.inr ⟨task, same.mem_iff.mpr member, owner⟩)

theorem Tracked.hold {index : Nat} (tracked : Tracked detail)
    (found : detail.tasks[index]? = some task) :
    Tracked { detail with tasks := task :: detail.tasks.eraseIdx index } := by
  obtain ⟨bound, rfl⟩ := List.getElem?_eq_some_iff.mp found
  exact tracked.perm (List.getElem_cons_eraseIdx_perm bound)

theorem Tracked.await (tracked : Tracked { detail with tasks := task :: detail.tasks }) :
    Tracked (detail.await task) :=
  tracked.perm (List.perm_append_singleton _ _)

theorem Tracked.replace (tracked : Tracked { detail with tasks := task :: rest })
    (body : next.body = task.body) (unchecked : ∀ check ∈ next.unchecked, check ∈ task.unchecked)
    (shown : next.hasShown = true → task.hasShown = true ∨ ∀ message ∈ detail.message,
      detail.attemptedMessage = message.id → detail.bodyOf = some message.id) :
    Tracked { detail with tasks := next :: rest } where
  body := tracked.body
  bodyNone := tracked.bodyNone
  bodyText := tracked.bodyText
  error := tracked.error
  errorNone := tracked.errorNone
  signature := tracked.signature
  signatureNone := tracked.signatureNone
  runs := by
    intro other member check compares
    rcases List.mem_cons.mp member with rfl | before
    · exact tracked.runs task (List.mem_cons_self ..) check (unchecked check compares)
    · exact tracked.runs other (List.mem_cons_of_mem _ before) check compares
  busy := by
    have count := tracked.busy
    rw [List.countP_cons] at count ⊢
    rw [body]
    exact count
  pending := by
    intro other member owner owned
    rcases List.mem_cons.mp member with rfl | before
    · rw [body] at owned
      exact tracked.pending task (List.mem_cons_self ..) owner owned
    · exact tracked.pending other (List.mem_cons_of_mem _ before) owner owned
  shown := by
    intro other member has
    rcases List.mem_cons.mp member with rfl | before
    · rcases shown has with had | now
      · exact tracked.shown task (List.mem_cons_self ..) had
      · exact now
    · exact tracked.shown other (List.mem_cons_of_mem _ before) has
  attempted := by
    intro message selected attempted
    rcases tracked.attempted message selected attempted with shows | error | ⟨other, member, owner, owned⟩
    · exact .inl shows
    · exact .inr (.inl error)
    · refine .inr (.inr ?_)
      rcases List.mem_cons.mp member with rfl | before
      · exact ⟨next, List.mem_cons_self .., owner, body ▸ owned⟩
      · exact ⟨other, List.mem_cons_of_mem _ before, owner, owned⟩

theorem Tracked.drop (tracked : Tracked { detail with tasks := task :: rest })
    (body : task.body = none) : Tracked { detail with tasks := rest } where
  body := tracked.body
  bodyNone := tracked.bodyNone
  bodyText := tracked.bodyText
  error := tracked.error
  errorNone := tracked.errorNone
  signature := tracked.signature
  signatureNone := tracked.signatureNone
  runs := fun other member => tracked.runs other (List.mem_cons_of_mem _ member)
  busy := by
    have count := tracked.busy
    rw [List.countP_cons, body] at count
    exact count
  pending := fun other member => tracked.pending other (List.mem_cons_of_mem _ member)
  shown := fun other member => tracked.shown other (List.mem_cons_of_mem _ member)
  attempted := by
    intro message selected attempted
    rcases tracked.attempted message selected attempted with shows | error | ⟨other, member, owner, owned⟩
    · exact .inl shows
    · exact .inr (.inl error)
    · rcases List.mem_cons.mp member with rfl | before
      · rw [body] at owned
        cases owned.1
      · exact .inr (.inr ⟨other, before, owner, owned⟩)

theorem Tracked.add (tracked : Tracked detail) (body : task.body = none)
    (unchecked : task.unchecked = none) : Tracked { detail with tasks := task :: detail.tasks } where
  body := tracked.body
  bodyNone := tracked.bodyNone
  bodyText := tracked.bodyText
  error := tracked.error
  errorNone := tracked.errorNone
  signature := tracked.signature
  signatureNone := tracked.signatureNone
  runs := by
    intro other member check compares
    rcases List.mem_cons.mp member with rfl | before
    · rw [unchecked] at compares
      cases compares
    · exact tracked.runs other before check compares
  busy := by
    rw [List.countP_cons, body]
    exact tracked.busy
  pending := by
    intro other member owner owned
    rcases List.mem_cons.mp member with rfl | before
    · rw [body] at owned
      cases owned
    · exact tracked.pending other before owner owned
  shown := by
    intro other member has
    rcases List.mem_cons.mp member with rfl | before
    · have owned := body_of_hasShown has
      rw [body] at owned
      cases owned
    · exact tracked.shown other before has
  attempted := by
    intro message chosen attempted
    rcases tracked.attempted message chosen attempted with shows | error | ⟨other, member, owner⟩
    · exact .inl shows
    · exact .inr (.inl error)
    · exact .inr (.inr ⟨other, List.mem_cons_of_mem _ member, owner⟩)

theorem Tracked.alone (tracked : Tracked { detail with tasks := task :: rest })
    (body : task.body.isSome = true) : ∀ other ∈ rest, other.body = none := by
  have count := tracked.busy
  rw [List.countP_cons, if_pos body] at count
  have none : rest.countP (fun task => task.body.isSome) = 0 := by
    have bound : detail.busy.toNat ≤ 1 := Bool.toNat_le _
    dsimp only at count
    omega
  intro other member
  simpa using List.countP_eq_zero.mp none other member

theorem Tracked.settle (tracked : Tracked { detail with tasks := task :: detail.tasks })
    (body : task.body.isSome = true)
    (shown : ∀ message ∈ detail.message, detail.attemptedMessage = message.id →
      detail.bodyOf = some message.id ∨ detail.errorOf = some message.id) :
    Tracked detail.settle where
  body := tracked.body
  bodyNone := tracked.bodyNone
  bodyText := tracked.bodyText
  error := by
    intro id owner
    rcases tracked.error id owner with selected | ⟨message, selected, unlocked, -, rest⟩
    · exact .inl selected
    · exact .inr ⟨message, selected, unlocked, rfl, rest⟩
  errorNone := tracked.errorNone
  signature := tracked.signature
  signatureNone := tracked.signatureNone
  runs := fun other member => tracked.runs other (List.mem_cons_of_mem _ member)
  busy := by
    have alone := tracked.alone body
    exact List.countP_eq_zero.mpr fun other member => by simp [alone other member]
  pending := fun other member => tracked.pending other (List.mem_cons_of_mem _ member)
  shown := fun other member => tracked.shown other (List.mem_cons_of_mem _ member)
  attempted := by
    intro message selected attempted
    rcases shown message selected attempted with shows | error
    · exact .inl shows
    · exact .inr (.inl error)

theorem Tracked.settle_shown (tracked : Tracked { detail with tasks := task :: detail.tasks })
    (body : task.body.isSome = true) (shown : task.hasShown = true) : Tracked detail.settle :=
  tracked.settle body fun message selected attempted =>
    .inl (tracked.shown task (List.mem_cons_self ..) shown message selected attempted)

theorem Tracked.showEnvelope {owner : Message}
    (tracked : Tracked { detail with tasks := task :: rest }) (envelope : Envelope)
    (body : task.body = some owner)
    (selected : detail.Selected owner.id) :
    Tracked { detail.showEnvelope owner envelope with tasks := task :: rest } where
  body := by
    rintro id ⟨⟩
    exact selected
  bodyNone := nofun
  bodyText := by simp [Detail.showEnvelope]
  error := by
    intro id errs
    rcases tracked.error id errs with chosen | ⟨message, chosen, unlocked, idle, rest⟩
    · exact .inl chosen
    · -- the effect cannot be about to decrypt while this call is in flight
      have count := tracked.busy
      rw [List.countP_cons, if_pos (by rw [body]; rfl)] at count
      dsimp only at count idle
      rw [idle] at count
      exact absurd count (Nat.succ_ne_zero _)
  errorNone := tracked.errorNone
  signature := tracked.signature
  signatureNone := tracked.signatureNone
  runs := tracked.runs
  busy := tracked.busy
  pending := by
    intro other member another owned message chosen differs
    rcases List.mem_cons.mp member with rfl | before
    · rw [body] at owned
      cases owned
      exact absurd (selected message chosen) differs
    · rw [tracked.alone (by rw [body]; rfl) other before] at owned
      cases owned
  shown := by
    intro other _ _ message chosen _
    exact congrArg some (selected message chosen)
  attempted := fun message chosen _ => .inl (congrArg some (selected message chosen))

theorem Tracked.trusted {trusting : Bool} (tracked : Tracked detail) :
    Tracked (detail.trusted trusting) := by
  obtain ⟨body, bodyNone, bodyText, error, errorNone, signature, signatureNone, runs, busy, pending,
    shown, attempted⟩ := tracked
  exact ⟨body, bodyNone, bodyText, error, errorNone, signature, signatureNone, runs, busy, pending,
    shown, attempted⟩

theorem Tracked.setSignature {view : Option SignatureView} {owner : Option JsString}
    (tracked : Tracked detail) (selected : ∀ id ∈ owner, detail.Selected id)
    (none : owner = none → view = none) :
    Tracked { detail with signatureState := view, signatureOf := owner } := by
  obtain ⟨body, bodyNone, bodyText, error, errorNone, -, -, runs, busy, pending, shown,
    attempted⟩ := tracked
  exact ⟨body, bodyNone, bodyText, error, errorNone, selected, none, runs, busy, pending, shown,
    attempted⟩

theorem Tracked.setSignatureState {check : Check} {state : SignatureState} (tracked : Tracked detail)
    (selected : detail.Selected check.input.messageId) :
    Tracked (detail.setSignatureState check state) := by
  refine Tracked.trusted (tracked.setSignature ?_ nofun)
  rintro id ⟨⟩
  exact selected

theorem Tracked.setTrustErr {error : JsString} (tracked : Tracked detail) :
    Tracked { detail with trustErr := error } := by
  obtain ⟨body, bodyNone, bodyText, error, errorNone, signature, signatureNone, runs, busy, pending,
    shown, attempted⟩ := tracked
  exact ⟨body, bodyNone, bodyText, error, errorNone, signature, signatureNone, runs, busy, pending,
    shown, attempted⟩

theorem Tracked.verifyBodySignature {input : SignatureInput} {trusting : Bool}
    (tracked : Tracked detail) (selected : detail.Selected input.messageId) :
    Tracked (detail.verifyBodySignature input trusting) := by
  unfold Detail.verifyBodySignature
  split
  · exact Tracked.trusted (tracked.setSignature nofun fun _ => rfl)
  · apply Tracked.await
    constructor
    · exact tracked.body
    · exact tracked.bodyNone
    · exact tracked.bodyText
    · exact tracked.error
    · exact tracked.errorNone
    · rintro id ⟨⟩
      exact selected
    · nofun
    · -- no earlier check has the run of the new one
      intro task member check unchecked
      rcases List.mem_cons.mp member with rfl | before
      · cases unchecked
        exact ⟨Nat.le_refl _, fun _ => selected⟩
      · have earlier := (tracked.runs task before check unchecked).1
        dsimp only
        exact ⟨by omega, fun same => by omega⟩
    · exact tracked.busy
    · intro task member owner owned
      rcases List.mem_cons.mp member with rfl | before
      · cases owned
      · exact tracked.pending task before owner owned
    · intro task member shown
      rcases List.mem_cons.mp member with rfl | before
      · cases shown
      · exact tracked.shown task before shown
    · intro message chosen attempted
      rcases tracked.attempted message chosen attempted with shows | error | ⟨task, member, owner⟩
      · exact .inl shows
      · exact .inr (.inl error)
      · exact .inr (.inr ⟨task, List.mem_cons_of_mem _ member, owner⟩)

theorem Tracked.verifyAgain (tracked : Tracked detail)
    (selected : ∀ id ∈ detail.lastSig.map SignatureInput.messageId, detail.Selected id) :
    Tracked detail.verifyAgain := by
  unfold Detail.verifyAgain
  split
  next input last =>
    refine tracked.verifyBodySignature (selected _ ?_)
    rw [last]
    rfl
  next => exact Tracked.trusted (tracked.setSignature nofun fun _ => rfl)

theorem Tracked.fail {owner : Message} {error : JsString}
    (tracked : Tracked { detail with tasks := task :: detail.tasks }) (body : task.body = some owner)
    (allowed : detail.unlocked = true ∨ detail.Selected owner.id) :
    Tracked (detail.fail owner error) := by
  have first := tracked.pending task (List.mem_cons_self ..) owner body
  constructor
  · exact tracked.body
  · exact tracked.bodyNone
  · exact tracked.bodyText
  · rintro id ⟨⟩
    by_cases selected : detail.Selected owner.id
    · exact .inl selected
    · have unlocked := allowed.resolve_right selected
      simp only [Detail.Selected, not_forall] at selected
      obtain ⟨message, chosen, differs⟩ := selected
      obtain ⟨unattempted, blank, -⟩ := first message chosen differs
      exact .inr ⟨message, chosen, unlocked, rfl, tracked.bodyText.mpr blank, unattempted⟩
  · nofun
  · nofun
  · exact fun _ => rfl
  · exact fun other member => tracked.runs other (List.mem_cons_of_mem _ member)
  · have alone := tracked.alone (by rw [body]; rfl)
    exact List.countP_eq_zero.mpr fun other member => by simp [alone other member]
  · intro other member another owned
    rw [tracked.alone (by rw [body]; rfl) other member] at owned
    cases owned
  · exact fun other member => tracked.shown other (List.mem_cons_of_mem _ member)
  · intro message chosen attempted
    by_cases same : owner.id = message.id
    · exact .inr (.inl (congrArg some same))
    · exact absurd attempted (first message chosen same).1

theorem Tracked.decideTrust {check : Check} {bundle : Bundle} {outer : Verification}
    {inner : Option Verification} (tracked : Tracked { detail with tasks := task :: detail.tasks })
    (body : task.body = none) (selected : detail.Selected check.input.messageId) :
    Tracked (detail.decideTrust reader check bundle outer inner) := by
  unfold Detail.decideTrust
  dsimp only
  split
  · exact Tracked.await (tracked.replace body.symm nofun nofun)
  · exact Tracked.setSignatureState (tracked.drop body) selected

theorem Tracked.verify_settle {input : SignatureInput} {trusting : Bool}
    (tracked : Tracked { detail with tasks := task :: detail.tasks })
    (body : task.body.isSome = true) (selected : detail.Selected input.messageId)
    (shown : ∀ message ∈ detail.message, detail.attemptedMessage = message.id →
      detail.bodyOf = some message.id) :
    Tracked (detail.verifyBodySignature input trusting).settle := by
  have verifies : Tracked (Detail.verifyBodySignature _ input trusting) :=
    tracked.verifyBodySignature selected
  unfold Detail.verifyBodySignature at verifies ⊢
  split
  next blank =>
    rw [if_pos blank] at verifies
    exact verifies.settle body fun message chosen attempted => .inl (shown message chosen attempted)
  next present =>
    rw [if_neg present] at verifies
    exact verifies.settle body fun message chosen attempted => .inl (shown message chosen attempted)

/-- A check goes on with its result if no other one has started, and then it is of the selected
message. -/
theorem Tracked.checked {check : Check} {fresh : Option Detail} {after : Detail}
    (tracked : Tracked { detail with tasks := task :: detail.tasks }) (body : task.body = none)
    (checks : check ∈ task.unchecked)
    (goes : detail.Selected check.input.messageId → fresh = some after → Tracked after)
    (resumed : (if detail.verificationRun ≠ check.runID then some (detail.trusted check.trusting)
      else fresh) = some after) : Tracked after := by
  split at resumed
  next =>
    cases resumed
    exact Tracked.trusted (tracked.drop body)
  next same =>
    have selected := (tracked.runs _ (List.mem_cons_self ..) check checks).2 (not_not.mp same).symm
    exact goes selected resumed

theorem resume_tracked {reply : Reply} {after : Detail}
    (tracked : Tracked { detail with tasks := task :: detail.tasks })
    (allowed : task.discards detail reply = true ∨
      ∀ id ∈ task.messageId detail, detail.Selected id)
    (resumed : detail.resume reader task reply = some after) : Tracked after := by
  have writes (goes : task.discards detail reply = false) :
      ∀ id ∈ task.messageId detail, detail.Selected id :=
    allowed.resolve_left (Bool.eq_false_iff.mp goes)
  unfold Detail.resume at resumed
  split at resumed
  next message envelope =>
    split at resumed <;> cases resumed
    next cached hit =>
      have selected : detail.Selected message.id :=
        writes (by rw [Task.discards, hit]; rfl) _ rfl
      have shows := tracked.showEnvelope cached rfl selected
      refine Tracked.await (shows.replace rfl nofun fun _ => .inr ?_)
      exact fun other chosen _ => congrArg some (selected other chosen)
    next => exact Tracked.await (tracked.replace rfl nofun nofun)
  next =>
    cases resumed
    exact Tracked.await (tracked.replace rfl nofun fun _ => .inl rfl)
  next message envelope blob fingerprint other =>
    cases resumed
    exact tracked.verify_settle rfl (writes rfl _ rfl) (tracked.shown _ (List.mem_cons_self ..) rfl)
  next =>
    cases resumed
    exact tracked.settle_shown rfl rfl
  next =>
    cases resumed
    exact tracked.settle_shown rfl rfl
  next =>
    cases resumed
    exact Tracked.await (tracked.replace rfl nofun nofun)
  next message blob fingerprint envelope =>
    cases resumed
    have selected : detail.Selected message.id := writes rfl _ rfl
    have shows : Tracked { detail.showEnvelope message envelope with
        tasks := .decryptBlob message blob :: detail.tasks } :=
      tracked.showEnvelope envelope rfl selected
    refine shows.verify_settle rfl selected ?_
    exact fun other chosen _ => congrArg some (selected other chosen)
  next message error =>
    cases resumed
    exact tracked.fail rfl (allowed.imp_right fun selected => selected _ rfl)
  next message error =>
    cases resumed
    exact tracked.fail rfl (allowed.imp_right fun selected => selected _ rfl)
  next message blob error =>
    cases resumed
    exact tracked.fail rfl (allowed.imp_right fun selected => selected _ rfl)
  next check bundle =>
    cases resumed
    exact Tracked.await (tracked.replace rfl (fun _ same => same) nofun)
  next check bundle data outer =>
    refine tracked.checked rfl rfl (fun selected resumed => ?_) resumed
    split at resumed <;> cases resumed
    · exact Tracked.await (tracked.replace rfl nofun nofun)
    · exact tracked.decideTrust rfl selected
  next check bundle error =>
    refine tracked.checked rfl rfl (fun selected resumed => ?_) resumed
    cases resumed
    exact Tracked.setSignatureState (tracked.drop rfl) selected
  next check bundle outer inner =>
    cases resumed
    exact tracked.decideTrust rfl (writes rfl _ rfl)
  next check bundle outer error =>
    cases resumed
    exact tracked.decideTrust rfl (writes rfl _ rfl)
  next check state =>
    cases resumed
    exact Tracked.setSignatureState (tracked.drop rfl) (writes rfl _ rfl)
  next =>
    cases resumed
    exact Tracked.verifyAgain (tracked.drop rfl) (writes rfl)
  next error =>
    cases resumed
    exact Tracked.trusted (tracked.drop rfl).setTrustErr
  next => cases resumed

theorem Tracked.setMessage {message : Option Message} (tracked : Tracked detail)
    (same : detail.message.map Message.id = message.map Message.id) :
    Tracked { detail with message } := by
  have back : ∀ chosen ∈ message, ∃ before ∈ detail.message, before.id = chosen.id := by
    intro chosen member
    apply Option.map_eq_some_iff.mp
    rw [same, Option.mem_def.mp member]
    rfl
  have forth : ∀ before ∈ detail.message, ∃ chosen ∈ message, chosen.id = before.id := by
    intro before member
    apply Option.map_eq_some_iff.mp
    rw [← same, Option.mem_def.mp member]
    rfl
  have selected {id : JsString} (was : detail.Selected id) :
      Detail.Selected { detail with message } id := by
    intro chosen member
    obtain ⟨before, found, equal⟩ := back chosen member
    exact (was before found).trans equal
  constructor
  · exact fun id owner => selected (tracked.body id owner)
  · exact tracked.bodyNone
  · exact tracked.bodyText
  · intro id owner
    rcases tracked.error id owner with was | ⟨before, found, unlocked, idle, blank, unattempted⟩
    · exact .inl (selected was)
    · obtain ⟨chosen, member, equal⟩ := forth before found
      exact .inr ⟨chosen, member, unlocked, idle, blank, equal ▸ unattempted⟩
  · exact tracked.errorNone
  · exact fun id owner => selected (tracked.signature id owner)
  · exact tracked.signatureNone
  · intro task member check unchecked
    obtain ⟨earlier, was⟩ := tracked.runs task member check unchecked
    exact ⟨earlier, fun run => selected (was run)⟩
  · exact tracked.busy
  · intro task member owner owned chosen present
    obtain ⟨before, found, equal⟩ := back chosen present
    rw [← equal]
    exact tracked.pending task member owner owned before found
  · intro task member shown chosen present
    obtain ⟨before, found, equal⟩ := back chosen present
    rw [← equal]
    exact tracked.shown task member shown before found
  · intro chosen present
    obtain ⟨before, found, equal⟩ := back chosen present
    rw [← equal]
    exact tracked.attempted before found

theorem Tracked.reset {message : Option Message} (tracked : Tracked detail) :
    Tracked (Detail.reset { detail with message }) := by
  have fresh (chosen : Message) : [] ≠ chosen.id := chosen.identified.symm
  constructor
  · nofun
  · exact fun _ => ⟨rfl, rfl⟩
  · exact ⟨fun _ => rfl, fun _ => rfl⟩
  · nofun
  · exact fun _ => rfl
  · nofun
  · exact fun _ => rfl
  · intro task member check unchecked
    have earlier := (tracked.runs task member check unchecked).1
    dsimp only [Detail.reset]
    exact ⟨by omega, fun same => by omega⟩
  · exact tracked.busy
  · exact fun _ _ _ _ chosen _ _ => ⟨fresh chosen, rfl, rfl⟩
  · exact fun _ _ _ chosen _ attempted => absurd attempted (fresh chosen)
  · exact fun chosen _ attempted => absurd attempted (fresh chosen)

theorem Tracked.decryptBody {message : Message} (tracked : Tracked detail)
    (idle : detail.busy = false) (selected : detail.message = some message) (attempted : JsString) :
    Tracked (Detail.decryptBody { detail with attemptedMessage := attempted }) := by
  have count := tracked.busy
  rw [idle] at count
  have none : ∀ other ∈ detail.tasks, other.body = none := by
    intro other member
    simpa using List.countP_eq_zero.mp count other member
  -- both first awaits are of the selected message, and have shown nothing yet
  have starts (task : Task) (body : task.body = some message) (unchecked : task.unchecked = .none)
      (shown : task.hasShown = false) :
      Tracked (Detail.await
        { detail with attemptedMessage := attempted, busy := true, bodyErr := [], errorOf := .none }
        task) := by
    apply Tracked.await
    constructor
    · exact tracked.body
    · exact tracked.bodyNone
    · exact tracked.bodyText
    · nofun
    · exact fun _ => rfl
    · exact tracked.signature
    · exact tracked.signatureNone
    · intro other member check compares
      rcases List.mem_cons.mp member with rfl | before
      · rw [unchecked] at compares
        cases compares
      · exact tracked.runs other before check compares
    · rw [List.countP_cons, if_pos (by rw [body]; rfl)]
      exact congrArg (· + 1) count
    · intro other member owner owned chosen present differs
      rcases List.mem_cons.mp member with rfl | before
      · rw [body] at owned
        rw [selected] at present
        cases owned
        cases present
        exact absurd rfl differs
      · rw [none other before] at owned
        cases owned
    · intro other member has
      rcases List.mem_cons.mp member with rfl | before
      · rw [shown] at has
        cases has
      · have owned := body_of_hasShown has
        rw [none other before] at owned
        cases owned
    · intro chosen present _
      rw [selected] at present
      cases present
      exact .inr (.inr ⟨task, List.mem_cons_self .., message, body, rfl⟩)
  unfold Detail.decryptBody
  split
  next absent =>
    rw [selected] at absent
    cases absent
  next other chosen =>
    rw [selected] at chosen
    cases chosen
    split
    · exact starts (.getEnvelope message) rfl rfl rfl
    · exact starts (.fetchBlob message) rfl rfl rfl

theorem Tracked.autoDecrypt (tracked : Tracked detail) :
    Tracked detail.autoDecrypt ∧ ¬detail.autoDecrypt.Restarts := by
  unfold Detail.autoDecrypt
  split
  next none =>
    refine ⟨tracked, ?_⟩
    rintro ⟨message, selected, -⟩
    rw [none] at selected
    cases selected
  next message selected =>
    split
    next restarts =>
      refine ⟨tracked.decryptBody restarts.2.1 selected message.id, ?_⟩
      rintro ⟨_, _, _, idle, _⟩
      revert idle
      unfold Detail.decryptBody
      dsimp only
      rw [selected]
      nofun
    next settled =>
      refine ⟨tracked, ?_⟩
      rintro ⟨other, chosen, restarts⟩
      rw [selected] at chosen
      cases chosen
      exact settled restarts

theorem handle_tracked {event : Event} {after : Detail} (tracked : Tracked detail)
    (allowed : NoStaleWrite detail event) (settled : ¬detail.Restarts)
    (handled : detail.handle reader event = some after) : Tracked after := by
  cases event with
  | select message =>
    cases handled
    unfold Detail.select
    split
    next same => exact tracked.setMessage same
    next => exact tracked.reset
  | setUnlocked unlocked =>
    cases handled
    have error : ∀ id ∈ detail.errorOf, detail.Selected id := fun id owner =>
      (tracked.error id owner).resolve_right settled
    obtain ⟨body, bodyNone, bodyText, -, errorNone, signature, signatureNone, runs, busy, pending,
      shown, attempted⟩ := tracked
    exact ⟨body, bodyNone, bodyText, fun id owner => .inl (error id owner), errorNone, signature,
      signatureNone, runs, busy, pending, shown, attempted⟩
  | setBodyView view =>
    cases handled
    obtain ⟨body, bodyNone, bodyText, error, errorNone, signature, signatureNone, runs, busy,
      pending, shown, attempted⟩ := tracked
    exact ⟨body, bodyNone, bodyText, error, errorNone, signature, signatureNone, runs, busy,
      pending, shown, attempted⟩
  | decryptNow =>
    dsimp only [Detail.handle] at handled
    split at handled <;> cases handled
    next button =>
      cases selected : detail.message with
      | none =>
        rw [Detail.decryptBody, selected]
        exact tracked
      | some message => exact tracked.decryptBody button.2 selected detail.attemptedMessage
  | trustSigner =>
    dsimp only [Detail.handle, Detail.onTrustSigner] at handled
    split at handled
    next =>
      split at handled <;> cases handled
      have added : Tracked { detail with tasks := .putContactKey :: detail.tasks } :=
        tracked.add rfl rfl
      obtain ⟨body, bodyNone, bodyText, error, errorNone, signature, signatureNone, runs, busy,
        pending, shown, attempted⟩ := added
      exact Tracked.await ⟨body, bodyNone, bodyText, error, errorNone, signature, signatureNone,
        runs, busy, pending, shown, attempted⟩
    next => cases handled
  | resume index reply =>
    obtain ⟨task, found, resumed⟩ := Option.bind_eq_some_iff.mp handled
    refine resume_tracked ?_ ?_ resumed
    · exact tracked.hold found
    · exact allowed task found

theorem Tracked.current (tracked : Tracked detail) (settled : ¬detail.Restarts) : Current detail where
  body := by
    intro message chosen shows
    cases owner : detail.bodyOf with
    | none =>
      obtain ⟨html, attachments⟩ := tracked.bodyNone owner
      have text := tracked.bodyText.mpr owner
      rcases shows with shows | shows | shows
      · exact absurd text shows
      · exact absurd html shows
      · exact absurd attachments shows
    | some id => exact congrArg some (tracked.body id owner message chosen)
  error := by
    intro message chosen shows
    cases owner : detail.errorOf with
    | none => exact absurd (tracked.errorNone owner) shows
    | some id =>
      have selected := (tracked.error id owner).resolve_right settled
      exact congrArg some (selected message chosen)
  signature := by
    intro message chosen shows
    cases owner : detail.signatureOf with
    | none => exact absurd (tracked.signatureNone owner) shows
    | some id => exact congrArg some (tracked.signature id owner message chosen)
  attempted := by
    intro quiet unlocked message chosen
    have idle : detail.busy = false := by
      have count := tracked.busy
      rw [quiet] at count
      cases busy : detail.busy with
      | false => rfl
      | true =>
        rw [busy] at count
        cases count
    by_cases shows : detail.bodyText = none
    · have attempted : detail.attemptedMessage = message.id := by
        by_contra differs
        exact settled ⟨message, chosen, unlocked, idle, shows, differs⟩
      rcases tracked.attempted message chosen attempted with body | error | ⟨task, member, -⟩
      · rw [tracked.bodyText.mp shows] at body
        cases body
      · exact .inr error
      · rw [quiet] at member
        cases member
    · refine .inl ⟨shows, ?_⟩
      cases owner : detail.bodyOf with
      | none => exact absurd (tracked.bodyText.mpr owner) shows
      | some id => exact congrArg some (tracked.body id owner message chosen)

theorem Tracked.fresh {message : Option Message} {unlocked : Bool} :
    Tracked ({ message, unlocked } : Detail) where
  body := nofun
  bodyNone := fun _ => ⟨rfl, rfl⟩
  bodyText := ⟨fun _ => rfl, fun _ => rfl⟩
  error := nofun
  errorNone := fun _ => rfl
  signature := nofun
  signatureNone := fun _ => rfl
  runs := fun _ member => absurd member List.not_mem_nil
  busy := rfl
  pending := fun _ member => absurd member List.not_mem_nil
  shown := fun _ member => absurd member List.not_mem_nil
  attempted := fun chosen _ attempted => absurd attempted chosen.identified.symm

end Steps

/-- In every run in which no stale call comes to write, what is shown is of the selected
message, and that is attempted. -/
theorem detail_current (reader : Reader) (message : Option Message) (unlocked : Bool)
    (detail : Detail)
    (runs : (detailMachine reader).Runs NoStaleWrite (mounted message unlocked) detail) :
    Current detail := by
  have fresh : Tracked ({ message, unlocked } : Detail) := .fresh
  have initial : Tracked (mounted message unlocked) ∧ ¬(mounted message unlocked).Restarts :=
    (fresh.reset : Tracked (Detail.reset { message, unlocked })).autoDecrypt
  have tracked : Tracked detail ∧ ¬detail.Restarts := by
    apply runs.invariant (fun detail => Tracked detail ∧ ¬detail.Restarts) initial
    intro before event next tracked allowed taken
    obtain ⟨after, handled, rfl⟩ := Option.map_eq_some_iff.mp taken
    exact (handle_tracked tracked.1 allowed tracked.2 handled).autoDecrypt
  exact tracked.1.current tracked.2

def keylessReader : Reader where
  host := { lib := .plain, b64ToText := fun _ => none, depth := 1 }
  verifier := { verifies := fun _ _ => false, failure := fun _ => [] }
  readKeys := fun _ => .ok []
  readKey := fun _ => none
  getContactKey := fun _ => none
  lookupKey := fun _ => none
  identities := []

def oneMessage : Message := ⟨lit "one", lit "one@x.org", [], by decide⟩

def otherMessage : Message := ⟨lit "other", lit "other@x.org", [], by decide⟩

/-- How the first `decryptBody` in flight goes on, and then the check of an unsigned text. -/
def sampleReplies (text : JsString) : List Event :=
  ([.blob (lit "blob"), .decrypted (lit "AB12") { bodyText := text, recoveredFrom := [] },
    .bundle { attachmentArmoreds := [] }, .result text { status := .unsigned }, .nested none] :
      List Reply).map (.resume 0)

instance (detail : Detail) (id : JsString) : Decidable (detail.Selected id) :=
  inferInstanceAs (Decidable (∀ message ∈ detail.message, id = message.id))

instance (detail : Detail) (event : Event) : Decidable (NoStaleWrite detail event) :=
  match event with
  | .resume index reply =>
    inferInstanceAs (Decidable (∀ task ∈ detail.tasks[index]?,
      task.discards detail reply = true ∨ ∀ id ∈ task.messageId detail, detail.Selected id))
  | .select _ | .setUnlocked _ | .setBodyView _ | .decryptNow | .trustSigner => .isTrue trivial

/-- The first message cannot be fetched any more when the other one is selected, and the
other one is shown. -/
theorem detail_current_failed :
    Current ((detailMachine keylessReader).after
      (.select (some otherMessage) :: .resume 0 (.rejected (lit "gone")) ::
        sampleReplies (lit "Hi"))
      (mounted (some oneMessage) true)) ∧
    ((detailMachine keylessReader).after
      (.select (some otherMessage) :: .resume 0 (.rejected (lit "gone")) ::
        sampleReplies (lit "Hi"))
      (mounted (some oneMessage) true)).bodyText = some (lit "Hi") :=
  ⟨detail_current keylessReader (some oneMessage) true _ (Machine.after_runs _ (by decide)),
    by decide⟩

/-- The first message is decrypted only after the other one is selected: its text is shown
as that of the other one, which is never attempted. -/
theorem detail_overtaken :
    ¬Current ((detailMachine keylessReader).after
      (.select (some otherMessage) :: sampleReplies (lit "Hi"))
      (mounted (some oneMessage) true)) ∧
    ((detailMachine keylessReader).after
      (.select (some otherMessage) :: sampleReplies (lit "Hi"))
      (mounted (some oneMessage) true)).tasks = [] ∧
    ((detailMachine keylessReader).after
      (.select (some otherMessage) :: sampleReplies (lit "Hi"))
      (mounted (some oneMessage) true)).attemptedMessage = [] := by
  refine ⟨?_, by decide, by decide⟩
  intro current
  have shown := current.body otherMessage (by decide) (.inl (by decide))
  revert shown
  decide

end ElvishMail.Mailapp
