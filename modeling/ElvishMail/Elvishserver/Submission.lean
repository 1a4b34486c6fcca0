import ElvishMail.Elvishserver.Inbound
import ElvishMail.Mailworker.Payload

/-!
# Submitted messages and the outbox

A submission stores the sender's copy. No call of the backend writes to the
outbox, so what is queued after an accepted submission was queued before it, and
no later call makes up for it.
-/

namespace ElvishMail.Elvishserver

open Go Smtp Mailmeta Mailstore Mailpipe Semantics

/-- A pending row of the user is addressed to all these recipients. -/
def Queued (outbox : Table) (userID : Nat) (rcpt : List GoString) : Prop :=
  ∃ row ∈ outbox.rows, row.userID = userID ∧ row.status = .pending ∧
    ∀ addr ∈ rcpt, addr ∈ Mailworker.recipients row

def SMTPBackend.principalUser (be : SMTPBackend) (call : Call) (principal : GoString) : Option Nat :=
  match be.resolveSubmissionPrincipal call principal with
  | .error _ => none
  | .ok email => (be.pipe.recipientIdentity (call.ingest 0) email).toOption.map IdentityKey.userID

variable {be : SMTPBackend} {call : Call}

theorem handleSubmission_outbox {principal fromAddr : GoString} {rcpt : List GoString}
    {body peer : GoString} {before after : Stores} {err : Option GoError}
    (result : be.handleSubmission call principal fromAddr rcpt body peer before = (err, after)) :
    after.outbox = before.outbox := by
  unfold SMTPBackend.handleSubmission at result
  split at result
  · cases result
    rfl
  split at result
  · cases result
    rfl
  next email _ =>
  have kept {answer : Except GoError IngestResult} {stored : Stores}
      (step : be.pipe.ingestSubmission (call.ingest 0) email fromAddr rcpt body before =
        (answer, stored)) : stored.outbox = before.outbox := by
    unfold Pipe.ingestSubmission at step
    split at step
    · cases step
      rfl
    · exact (persist_spec step).2.outbox
  split at result
  next step =>
    cases result
    exact kept step
  next step =>
    cases result
    exact kept step

inductive Request where
  | inbound (mail : Mail)
  | submission (principal fromAddr : GoString) (rcpt : List GoString) (body peer : GoString)
deriving DecidableEq

/-- The backend as a machine: requests in any order, each with what it meets. -/
def SMTPBackend.machine (be : SMTPBackend) : Machine Stores (Request × Call) where
  step stores action :=
    match action with
    | (.inbound mail, call) => some (attempt be mail call stores).2
    | (.submission principal fromAddr rcpt body peer, call) =>
      some (be.handleSubmission call principal fromAddr rcpt body peer stores).2

theorem machine_outbox {allowed : Stores → Request × Call → Prop} {start final : Stores}
    (runs : be.machine.Runs allowed start final) : final.outbox = start.outbox := by
  refine runs.invariant (fun stores => stores.outbox = start.outbox) rfl ?_
  intro stores action next before _ taken
  obtain ⟨request, call⟩ := action
  cases request with
  | inbound mail =>
    cases taken
    exact (attempt_outbox rfl).trans before
  | submission principal fromAddr rcpt body peer =>
    cases taken
    exact (handleSubmission_outbox rfl).trans before

/-- After an accepted submission, and after any requests that follow it, a delivery
to its recipients is queued exactly if one was queued before. -/
theorem submission_queued_iff (be : SMTPBackend) (call : Call) (principal fromAddr : GoString)
    (rcpt : List GoString) (body peer : GoString) (before after later : Stores) (userID : Nat)
    (accepted : be.handleSubmission call principal fromAddr rcpt body peer before = (none, after))
    (runs : be.machine.Runs (fun _ _ => True) after later) :
    Queued later.outbox userID rcpt ↔ Queued before.outbox userID rcpt := by
  have unchanged : later.outbox = before.outbox :=
    (machine_outbox runs).trans (handleSubmission_outbox accepted)
  rw [unchanged]

def sampleSubmission (before : Stores) : Option GoError × Stores :=
  (sampleBackend true).handleSubmission noneFails (ascii "Alice@X") (ascii "alice@x")
    [ascii "carol@z"] (ascii "hi") (ascii "192.0.2.1:587") before

/-- An outbox with a message to the same recipient waiting in it. -/
def waitingStores : Stores :=
  { emptyStores with
    outbox :=
      ⟨[insertOutboxMeta 0 7 1 .pgp (ascii "outbox/1/7.enc") 2 (ascii "carol@z") (ascii "web") 0 none],
        by simp⟩ }

theorem sampleSubmission_accepted (before : Stores) :
    sampleSubmission before = (none, (sampleSubmission before).2) := by
  rfl

/-- The submission is accepted with its delivery queued just because one was. -/
theorem submission_queued_waiting :
    Queued (sampleSubmission waitingStores).2.outbox 1 [ascii "carol@z"] := by
  refine (submission_queued_iff (sampleBackend true) noneFails _ _ _ _ _ waitingStores _ _ 1
    (sampleSubmission_accepted waitingStores) .refl).mpr ?_
  exact ⟨_, List.mem_singleton_self _, rfl, rfl, by decide⟩

/-- A submission to an empty outbox is accepted for its sender and nothing is
queued. -/
theorem submission_not_queued :
    (sampleSubmission emptyStores).1 = none ∧
      (sampleBackend true).principalUser noneFails (ascii "Alice@X") = some 1 ∧
      ¬Queued (sampleSubmission emptyStores).2.outbox 1 [ascii "carol@z"] := by
  refine ⟨by decide, by decide, ?_⟩
  rintro ⟨row, member, -⟩
  rw [handleSubmission_outbox (sampleSubmission_accepted emptyStores)] at member
  cases member

end ElvishMail.Elvishserver
