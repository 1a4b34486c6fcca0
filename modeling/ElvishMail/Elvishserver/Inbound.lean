import Mathlib.Data.List.ReduceOption
import ElvishMail.Elvishserver.Backend
import ElvishMail.Mailpipe.Footprint
import ElvishMail.Semantics.Grouping
import ElvishMail.Semantics.Machine

/-!
# Inbound messages and their retries

A sender that is answered with an error offers the whole message again, so an
attempt that fails should leave no copy. The verdicts on the recipients decide
whether it does: `ingestEach` stops at the first failure and keeps what was
stored before it.
-/

namespace ElvishMail.Elvishserver

open Go Smtp Mailmeta Mailstore Mailpipe Semantics

structure Mail where
  fromAddr : GoString
  rcpt : List GoString
  body : GoString
  peer : GoString
deriving DecidableEq

/-- One verdict as an entry of the loop: whether it fails, and the mailbox that
then lists the message. -/
def report (verdict : Verdict) : Option Unit × List Nat :=
  (if verdict.accepts then none else some (), verdict.listed)

namespace SMTPBackend

variable (be : SMTPBackend)

def perRecipient {Value : Type} (value : Conditions → GoString → Value) :
    (ingest : Nat → Conditions) → (rcpt : List GoString) → List Value
  | _, [] => []
  | ingest, addr :: rest =>
    value (ingest 0) (normalized be.pipe.lib addr) ::
      perRecipient value (fun position => ingest (position + 1)) rest

/-- What is decided for one recipient before anything is written. -/
def intake (mail : Mail) (conditions : Conditions) (recipient : GoString) : Except GoError Intake :=
  be.pipe.externalIntake conditions mail.fromAddr recipient mail.body

def verdict (mail : Mail) (conditions : Conditions) (recipient : GoString) : Verdict :=
  Intake.verdict be.pipe conditions (be.intake mail conditions recipient)

def verdicts (mail : Mail) (ingest : Nat → Conditions) (rcpt : List GoString) : List Verdict :=
  be.perRecipient (be.verdict mail) ingest rcpt

def recipientUsers (ingest : Nat → Conditions) (rcpt : List GoString) : List Nat :=
  (be.perRecipient (fun conditions recipient =>
    (be.pipe.recipientIdentity conditions recipient).toOption.map IdentityKey.userID)
    ingest rcpt).reduceOption

/-- The mailboxes of the recipients whose rules keep the message. -/
def keptUsers (mail : Mail) (ingest : Nat → Conditions) (rcpt : List GoString) : List Nat :=
  (be.perRecipient (fun conditions recipient => Intake.keptFor (be.intake mail conditions recipient))
    ingest rcpt).reduceOption

end SMTPBackend

variable {be : SMTPBackend} {mail : Mail}

theorem ingestEach_spec {ingest : Nat → Conditions} {rcpt : List GoString} {stores after : Stores}
    {err : Option GoError}
    (result : be.ingestEach mail.fromAddr mail.body ingest rcpt stores = (err, after)) :
    (err = none ↔ (untilFailure report (be.verdicts mail ingest rcpt)).1 = none) ∧
      Gains stores after (untilFailure report (be.verdicts mail ingest rcpt)).2 := by
  induction rcpt generalizing ingest stores with
  | nil =>
    cases result
    exact ⟨by simp [SMTPBackend.verdicts, SMTPBackend.perRecipient, untilFailure], Gains.refl _⟩
  | cons addr rest ih =>
    rw [SMTPBackend.ingestEach] at result
    rw [SMTPBackend.verdicts, SMTPBackend.perRecipient, untilFailure]
    split at result
    next err stored step =>
      obtain ⟨ended, gains⟩ := ingestExternal_spec step
      have refuses : (be.verdict mail (ingest 0) (normalized be.pipe.lib addr)).accepts = false :=
        ended.symm
      cases result
      simp only [report, refuses]
      exact ⟨by simp, gains⟩
    next answer stored step =>
      obtain ⟨ended, gains⟩ := ingestExternal_spec step
      have accepts : (be.verdict mail (ingest 0) (normalized be.pipe.lib addr)).accepts = true :=
        ended.symm
      obtain ⟨same, more⟩ := ih result
      simp only [report, accepts, if_true]
      exact ⟨same, gains.trans more⟩

def gained (be : SMTPBackend) (mail : Mail) (call : Call) : List Nat :=
  match be.gate call mail.fromAddr mail.body mail.peer with
  | some _ => []
  | none => (untilFailure report (be.verdicts mail call.ingest mail.rcpt)).2

/-- `HandleInbound` on a message. -/
def attempt (be : SMTPBackend) (mail : Mail) (call : Call) (stores : Stores) :
    Option GoError × Stores :=
  be.handleInbound call mail.fromAddr mail.rcpt mail.body mail.peer stores

def Fails (be : SMTPBackend) (mail : Mail) (call : Call) : Prop :=
  be.gate call mail.fromAddr mail.body mail.peer ≠ none ∨
    (untilFailure report (be.verdicts mail call.ingest mail.rcpt)).1 ≠ none

theorem attempt_spec {call : Call} {stores after : Stores} {err : Option GoError}
    (result : attempt be mail call stores = (err, after)) :
    (err ≠ none ↔ Fails be mail call) ∧ Gains stores after (gained be mail call) := by
  unfold attempt SMTPBackend.handleInbound at result
  unfold Fails gained
  cases admitted : be.gate call mail.fromAddr mail.body mail.peer with
  | some refusal =>
    rw [admitted] at result
    cases result
    exact ⟨by simp, Gains.refl stores⟩
  | none =>
    rw [admitted] at result
    obtain ⟨ended, gains⟩ := ingestEach_spec result
    exact ⟨by simp [ended], gains⟩

theorem attempt_outbox {call : Call} {stores after : Stores} {err : Option GoError}
    (result : attempt be mail call stores = (err, after)) : after.outbox = stores.outbox :=
  (attempt_spec result).2.outbox

/-- The condition under which a failing attempt can be repeated: the peer is turned
away before the first recipient, or every recipient before the first that fails
had a rule that drops the message, and the failing one leaves no listing row. -/
def LeavesNothing (be : SMTPBackend) (mail : Mail) (call : Call) : Prop :=
  be.gate call mail.fromAddr mail.body mail.peer = none →
    ∀ (before : List Verdict) (failing : Verdict) (after : List Verdict),
      be.verdicts mail call.ingest mail.rcpt = before ++ failing :: after →
      (∀ verdict ∈ before, verdict.accepts = true) → failing.accepts = false →
        (∀ verdict ∈ before, verdict = .dropped) ∧ failing = .refused

theorem leavesNothing_iff {call : Call} :
    LeavesNothing be mail call ↔ (Fails be mail call → gained be mail call = []) := by
  unfold LeavesNothing Fails gained
  cases admitted : be.gate call mail.fromAddr mail.body mail.peer with
  | some refusal => simp
  | none =>
    simp only [ne_eq, not_true_eq_false, false_or, true_implies]
    have reported {verdict : Verdict} : (report verdict).1 = none ↔ verdict.accepts = true := by
      simp [report]
    constructor
    · intro clean failed
      rcases untilFailure_cases report (be.verdicts mail call.ingest mail.rcpt) with
        ⟨-, looped⟩ | ⟨before, failing, after, failure, split, succeed, fails, looped⟩
      · exact absurd (congrArg Prod.fst looped) failed
      · have refuses : failing.accepts = false := by
          cases accepts : failing.accepts with
          | false => rfl
          | true => rw [reported.mpr accepts] at fails; cases fails
        obtain ⟨dropped, refused⟩ := clean before failing after split
          (fun verdict member => reported.mp (succeed verdict member)) refuses
        rw [looped, refused, List.append_eq_nil_iff, List.flatMap_eq_nil_iff]
        refine ⟨?_, rfl⟩
        intro verdict member
        rw [dropped verdict member]
        rfl
    · intro nothing before failing after split accept refuses
      have looped : untilFailure report (before ++ failing :: after) = _ :=
        untilFailure_append_failing (fun verdict member => reported.mpr (accept verdict member))
          (by simp [report, refuses] : (report failing).1 = some ()) after
      rw [← split] at looped
      have empty := nothing (by simp [looped])
      rw [looped, List.append_eq_nil_iff, List.flatMap_eq_nil_iff] at empty
      refine ⟨?_, (Verdict.listed_eq_nil_of_refuses refuses).mp empty.2⟩
      intro verdict member
      exact (Verdict.listed_eq_nil_of_accepts (accept verdict member)).mp (empty.1 verdict member)

theorem gained_subset {call : Call} :
    gained be mail call ⊆ be.recipientUsers call.ingest mail.rcpt := by
  have listed {ingest : Nat → Conditions} {rcpt : List GoString} :
      (be.verdicts mail ingest rcpt).flatMap Verdict.listed ⊆ be.recipientUsers ingest rcpt := by
    induction rcpt generalizing ingest with
    | nil => exact List.nil_subset _
    | cons addr rest ih =>
      intro userID member
      rw [SMTPBackend.verdicts, SMTPBackend.perRecipient, List.flatMap_cons, List.mem_append] at member
      rw [SMTPBackend.recipientUsers, List.reduceOption_mem_iff, SMTPBackend.perRecipient,
        List.mem_cons]
      rcases member with here | later
      · obtain ⟨identity, found, named⟩ := recipient_of_listed here
        exact .inl (by rw [found, ← named]; rfl)
      · exact .inr (List.reduceOption_mem_iff.mp (ih later))
  unfold gained
  split
  · exact List.nil_subset _
  · exact fun userID member =>
      listed ((untilFailure_trace_initial report _).subset member)

theorem gained_of_succeeds {call : Call} (succeeds : ¬Fails be mail call) :
    gained be mail call = be.keptUsers mail call.ingest mail.rcpt := by
  have kept {ingest : Nat → Conditions} {rcpt : List GoString}
      (accept : ∀ verdict ∈ be.verdicts mail ingest rcpt, verdict.accepts = true) :
      (be.verdicts mail ingest rcpt).flatMap Verdict.listed = be.keptUsers mail ingest rcpt := by
    induction rcpt generalizing ingest with
    | nil => rfl
    | cons addr rest ih =>
      rw [SMTPBackend.verdicts, SMTPBackend.perRecipient] at accept ⊢
      have here : (be.verdict mail (ingest 0) (normalized be.pipe.lib addr)).listed = _ :=
        Intake.listed_of_accepts (accept _ List.mem_cons_self)
      have onward := ih fun verdict member =>
        accept verdict (List.mem_cons_of_mem _ member)
      rw [SMTPBackend.verdicts, SMTPBackend.keptUsers] at onward
      rw [List.flatMap_cons, here, onward, SMTPBackend.keptUsers, SMTPBackend.perRecipient]
      cases Intake.keptFor (be.intake mail (ingest 0) (normalized be.pipe.lib addr)) with
      | none => exact (List.reduceOption_cons_of_none _).symm
      | some userID => exact (List.reduceOption_cons_of_some userID _).symm
  unfold Fails at succeeds
  push Not at succeeds
  obtain ⟨admitted, ended⟩ := succeeds
  rw [gained, admitted]
  rcases untilFailure_cases report (be.verdicts mail call.ingest mail.rcpt) with
    ⟨succeed, looped⟩ | ⟨before, failing, after, failure, -, -, -, looped⟩
  · rw [looped, ← kept fun verdict member => by simpa [report] using succeed verdict member]
    rfl
  · rw [looped] at ended
    cases ended

/-- The law for one attempt: if the sender is told of an error, no recipient's
mailbox lists the message. -/
def AllOrNothing (be : SMTPBackend) (mail : Mail) (call : Call) (stores : Stores) : Prop :=
  ∀ err after, attempt be mail call stores = (some err, after) →
    ∀ userID ∈ be.recipientUsers call.ingest mail.rcpt, after.copies stores.lastID userID = 0

/-- The attempts after which the sender offers the message again. -/
def retries (be : SMTPBackend) (mail : Mail) : Machine Stores Call where
  step stores call :=
    match attempt be mail call stores with
    | (some _, after) => some after
    | (none, _) => none

theorem retries_step {call : Call} {stores : Stores}
    (fails : (attempt be mail call stores).1 ≠ none) :
    (retries be mail).step stores call = some (attempt be mail call stores).2 := by
  rcases result : attempt be mail call stores with ⟨err, after⟩
  rw [result] at fails
  obtain ⟨failure, rfl⟩ := Option.ne_none_iff_exists'.mp fails
  simp [retries, result]

theorem allOrNothing_iff {call : Call} {stores : Stores} :
    AllOrNothing be mail call stores ↔ LeavesNothing be mail call := by
  rw [leavesNothing_iff]
  rcases result : attempt be mail call stores with ⟨err, after⟩
  obtain ⟨ended, gains⟩ := attempt_spec result
  have counted (userID : Nat) : after.copies stores.lastID userID =
      (gained be mail call).count userID := by
    rw [gains.copies (Nat.le_refl _), copies_now, Nat.zero_add]
  constructor
  · intro law failed
    obtain ⟨failure, rfl⟩ := Option.ne_none_iff_exists'.mp (ended.mpr failed)
    rw [List.eq_nil_iff_forall_not_mem]
    intro userID member
    have none_left := law failure after result userID (gained_subset member)
    rw [counted, List.count_eq_zero] at none_left
    exact none_left member
  · intro nothing failure final failing userID member
    rw [result] at failing
    cases failing
    rw [counted, nothing (ended.mp (by simp)), List.count_nil]

theorem gains_nothing {start reached : Stores}
    (runs : (retries be mail).Runs (fun _ call => LeavesNothing be mail call) start reached) :
    Gains start reached [] := by
  refine runs.invariant (fun state => Gains start state []) (Gains.refl start) ?_
  intro state call next before clean taken
  simp only [retries] at taken
  split at taken
  next failure after result =>
    cases taken
    obtain ⟨ended, gains⟩ := attempt_spec result
    rw [leavesNothing_iff.mp clean (ended.mp (by simp))] at gains
    exact before.trans gains
  · cases taken

/-- An attempt is all or nothing exactly when it leaves nothing where it fails. A
sender that repeats such attempts finds the message in no mailbox after any of
them, and once it is accepted every mailbox lists it once for each recipient
address of it whose rules keep the message. -/
theorem inbound_all_or_nothing_iff (be : SMTPBackend) (mail : Mail) (start : Stores) :
    (∀ call, AllOrNothing be mail call start ↔ LeavesNothing be mail call) ∧
    ∀ reached, (retries be mail).Runs (fun _ call => LeavesNothing be mail call) start reached →
      (∀ userID, reached.copies start.lastID userID = 0) ∧
      ∀ last after, attempt be mail last reached = (none, after) →
        ∀ userID, after.copies start.lastID userID =
          (be.keptUsers mail last.ingest mail.rcpt).count userID := by
  refine ⟨fun call => allOrNothing_iff, ?_⟩
  intro reached runs
  have before := gains_nothing runs
  have clean (userID : Nat) : reached.copies start.lastID userID = 0 := by
    rw [before.copies (Nat.le_refl _), copies_now, List.count_nil]
  refine ⟨clean, ?_⟩
  intro last after accepted userID
  obtain ⟨ended, gains⟩ := attempt_spec accepted
  have succeeds : ¬Fails be mail last := fun failed => ended.mpr failed rfl
  rw [gains.copies before.later, clean, Nat.zero_add, gained_of_succeeds succeeds]

def sampleMail : Mail where
  fromAddr := ascii "eve@y"
  rcpt := [ascii "alice@x", ascii "Bob@X"]
  body := ascii "hi"
  peer := ascii "192.0.2.1:25"

def secondFails : Call := sampleCall fun position => if position = 1 then some .putBlob else none

def allFail : Call := sampleCall fun _ => some .putBlob

def noneFails : Call := sampleCall fun _ => none

/-- The sender is told to retry although the first recipient has the message, and
the retry gives that recipient a second copy. -/
theorem inbound_retry_duplicates :
    (attempt (sampleBackend false) sampleMail secondFails emptyStores).1 = some errTemporary ∧
    1 ∈ (sampleBackend false).recipientUsers secondFails.ingest sampleMail.rcpt ∧
    (attempt (sampleBackend false) sampleMail secondFails emptyStores).2.copies 0 1 = 1 ∧
    (attempt (sampleBackend false) sampleMail noneFails
      (attempt (sampleBackend false) sampleMail secondFails emptyStores).2).1 = none ∧
    (attempt (sampleBackend false) sampleMail noneFails
      (attempt (sampleBackend false) sampleMail secondFails emptyStores).2).2.copies 0 1 = 2 := by
  decide

/-- After an attempt in which nothing could be stored, the retry gives each of the
two recipients one copy. -/
theorem inbound_retry_once :
    let reached := (attempt (sampleBackend false) sampleMail allFail emptyStores).2
    (retries (sampleBackend false) sampleMail).Runs
        (fun _ call => LeavesNothing (sampleBackend false) sampleMail call) emptyStores reached ∧
      ∀ userID ∈ [1, 2],
        (attempt (sampleBackend false) sampleMail noneFails reached).2.copies 0 userID = 1 := by
  intro reached
  have clean : LeavesNothing (sampleBackend false) sampleMail allFail :=
    leavesNothing_iff.mpr fun _ => by decide
  have runs : (retries (sampleBackend false) sampleMail).Runs
      (fun _ call => LeavesNothing (sampleBackend false) sampleMail call) emptyStores reached :=
    .step .refl clean (retries_step (by decide))
  refine ⟨runs, ?_⟩
  have accepted : (attempt (sampleBackend false) sampleMail noneFails reached).1 = none := by
    decide
  obtain ⟨-, law⟩ := (inbound_all_or_nothing_iff (sampleBackend false) sampleMail emptyStores).2
    reached runs
  intro userID member
  have once : ((sampleBackend false).keptUsers sampleMail noneFails.ingest sampleMail.rcpt).count
      userID = 1 := by
    revert member
    revert userID
    decide
  rw [← once]
  exact law noneFails _ (Prod.ext accepted rfl) userID

end ElvishMail.Elvishserver
