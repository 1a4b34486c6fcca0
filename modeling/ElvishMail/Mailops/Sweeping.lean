import ElvishMail.Mailops.Retry
import ElvishMail.Mailops.Sweep

/-!
# What the calls ask

A sweep deletes the manifest of a message only after it has selected and found it, and
everything else of the message only after that. The other calls delete no manifest, no
lifecycle row and no body.
-/

namespace ElvishMail.Mailops

open Go Smtp Mailmeta Mailstore Semantics

def Marks.Deleted (marks : Marks) (userID messageID : Nat) : Prop :=
  ∃ target ∈ marks.deleted, target.userID = userID ∧ target.messageID = messageID

def Marks.May (marks : Marks) : Query → Prop
  | .selectExpired _ | .mail (.selectMessageLifecycle ..) | .mail (.write (.appendEvent _)) => True
  | .mail (.selectManifest messageID) => ∃ userID rest, marks.pending = (userID, messageID) :: rest
  | .mail (.write (.deleteManifestRow messageID)) =>
    ∃ target ∈ marks.found, target.messageID = messageID
  | .mail (.write (.deleteMailboxRow userID _ _ messageID))
  | .mail (.write (.deleteFlags userID messageID))
  | .mail (.write (.deleteOptInMetadata userID messageID))
  | .mail (.write (.deleteMessageLifecycle userID messageID)) => marks.Deleted userID messageID
  | .mail (.write (.deleteBlob key)) => ∃ target ∈ marks.deleted, target.bodyBlobRef = key
  | _ => False

def sweepProtocol : Protocol Query Query.Answer Marks where
  May := Marks.May
  advance := Marks.advance

def mildKinds : List Op :=
  [.insertMailboxRow, .updateManifestFolder, .deleteMailboxRow, .upsertMessageLifecycle,
    .insertFlags, .appendEvent, .ensureDefaultFolderRetention]

def Mild : Query → Prop
  | .selectExpired _ => False
  | .mail (.write write) => write.op ∈ mildKinds
  | _ => True

section Programs

variable {service : Service} {marks : Marks} {userID messageID : Nat} {now : Time}
  {rest : List (Nat × Nat)}

theorem execAll_follows {writes : List Write}
    (may : ∀ write ∈ writes, marks.May (.mail (.write write)))
    (same : ∀ write ∈ writes, ∀ err, marks.advance (.mail (.write write)) err = marks) :
    (execAll writes).Follows (Program.narrowed sweepProtocol .mail) marks
      fun _ after => after = marks := by
  induction writes with
  | nil => rfl
  | cons write others ih =>
    refine ⟨may write List.mem_cons_self, fun err => ?_⟩
    have noted : (Program.narrowed sweepProtocol Query.mail).advance marks (.write write) err =
        marks := same write List.mem_cons_self err
    rw [noted]
    cases err with
    | some err => rfl
    | none =>
      exact ih (fun other member => may other (List.mem_cons_of_mem _ member))
        fun other member => same other (List.mem_cons_of_mem _ member)

theorem purge_follows {mf : Manifest} {place : Place} {target : Target}
    (found : marks.found = some target) (owner : target.userID = userID)
    (id : target.messageID = messageID) (body : mf.bodyBlobRef = target.bodyBlobRef) :
    (purge userID messageID mf place now).Follows (Program.narrowed sweepProtocol .mail) marks
      fun _ after => after.pending = marks.pending := by
  rw [purge, Program.follows_bind]
  refine ⟨⟨target, found, id⟩, fun err => ?_⟩
  cases err with
  | some err => rfl
  | none =>
    have deleted : (Program.narrowed sweepProtocol Query.mail).advance marks
        (.write (.deleteManifestRow messageID)) none = ⟨marks.pending, none, some target⟩ := by
      simp [Program.narrowed, sweepProtocol, Marks.advance, found]
    rw [deleted]
    have own : Marks.Deleted ⟨marks.pending, none, some target⟩ userID messageID :=
      ⟨target, rfl, owner, id⟩
    apply (execAll_follows (by simp [Marks.May, own]) (by simp [Marks.advance])).weaken
    rintro err after rfl
    cases err with
    | some err => rfl
    | none =>
      refine ⟨⟨target, rfl, body.symm⟩, fun err => ?_⟩
      cases err with
      | none => exact ⟨trivial, fun _ => rfl⟩
      | some err =>
        dsimp only
        split
        · exact ⟨trivial, fun _ => rfl⟩
        · rfl

theorem deletePermanent_follows (ready : service.Ready)
    (first : marks.pending = (userID, messageID) :: rest) :
    (deletePermanent service userID messageID now).Follows (Program.narrowed sweepProtocol .mail)
      marks fun _ after => after.pending = rest := by
  rw [deletePermanent, if_neg (by rw [ready]; exact Bool.false_ne_true), Program.follows_bind]
  refine ⟨⟨userID, rest, first⟩, fun answer => ?_⟩
  have noted : (Program.narrowed sweepProtocol Query.mail).advance marks
      (.selectManifest messageID) answer = ⟨rest, Marks.target userID messageID answer, none⟩ := by
    simp [Program.narrowed, sweepProtocol, Marks.advance, first]
  rw [noted]
  cases answer with
  | error err => rfl
  | ok found =>
    cases found with
    | none => rfl
    | some row =>
      dsimp only
      split
      · rfl
      next owner =>
      have target : Marks.target userID messageID (.ok (some row)) =
          some ⟨userID, messageID, row.bodyBlobRef⟩ := if_pos (not_not.mp owner)
      rw [target]
      dsimp only [locate]
      refine ⟨trivial, fun answer => ?_⟩
      cases answer with
      | error err => exact purge_follows rfl rfl rfl rfl
      | ok lc => cases lc <;> exact purge_follows rfl rfl rfl rfl

theorem purgeExpired_follows (ready : service.Ready) {times : Nat → Time}
    {items : List ExpiredMessage} {result : SweepResult} {lastErr : Option GoError}
    (pending : marks.pending = items.map fun item => (item.userID, item.messageID)) :
    (purgeExpired service times items result lastErr).Follows sweepProtocol marks
      fun _ _ => True := by
  induction items generalizing marks result lastErr with
  | nil => trivial
  | cons item others ih =>
    rw [purgeExpired, Program.follows_bind, Program.follows_embed]
    apply (deletePermanent_follows ready pending).weaken
    intro deletion after left
    cases deletion <;> exact ih left

theorem purgeExpired_missing (missing : ¬service.Ready) (times : Nat → Time)
    (items : List ExpiredMessage) (result : SweepResult) (lastErr : Option GoError) :
    ∃ value, purgeExpired service times items result lastErr = .done value := by
  induction items generalizing result lastErr with
  | nil => exact ⟨_, rfl⟩
  | cons item others ih =>
    have failed : deletePermanent service item.userID item.messageID (times others.length) =
        .done (.error (.plain (ascii "mailops: missing dependencies"))) :=
      if_pos (Bool.not_eq_false _ ▸ missing)
    rw [purgeExpired, failed]
    exact ih _ _

theorem sweep_follows {limit : Int} {times : Nat → Time} :
    ((MailCall.sweep limit times).program service).Follows sweepProtocol {} fun _ _ => True := by
  rw [MailCall.program, Program.follows_bind, sweepExpired]
  split
  · trivial
  · refine ⟨trivial, fun answer => ?_⟩
    cases answer with
    | error err => trivial
    | ok expired =>
      by_cases ready : service.Ready
      · exact (purgeExpired_follows ready rfl).weaken fun _ _ _ => trivial
      · obtain ⟨value, failed⟩ := purgeExpired_missing ready times expired ⟨0, 0⟩ none
        dsimp only
        rw [failed]
        trivial

theorem moveListing_mild {mf : Manifest} {old new : Place} :
    (moveListing service.lib userID messageID mf old new).Only fun statement =>
      Mild (.mail statement) := by
  refine moveListing_asks.mono fun statement asks => ?_
  cases statement with
  | write write => exact List.mem_append_left [.ensureDefaultFolderRetention] asks.1
  | _ => trivial

theorem moveMessage_mild {call : MoveCall} :
    (moveMessage service call).Only fun statement => Mild (.mail statement) := by
  rw [moveMessage]
  split
  · trivial
  dsimp only
  rw [getManifest, Program.ask_bind]
  refine ⟨trivial, fun answer => ?_⟩
  cases answer with
  | error err => trivial
  | ok found =>
    cases found with
    | none => trivial
    | some row =>
      dsimp only
      split
      · trivial
      rw [Program.pure_bind]
      dsimp only
      split
      · trivial
      refine ⟨trivial, fun answer => ?_⟩
      cases answer with
      | error err => exact moveListing_mild
      | ok lc => cases lc <;> exact moveListing_mild

theorem writeRetention_mild {entries : List (GoString × Option Int)} {rows : List FolderRetention} :
    (writeRetention service.lib userID entries rows).Only Mild := by
  induction entries generalizing rows with
  | nil => exact ⟨trivial, fun _ => trivial⟩
  | cons entry others ih =>
    rw [writeRetention]
    dsimp only
    split
    · trivial
    split
    · trivial
    refine ⟨trivial, fun err => ?_⟩
    cases err with
    | some err => trivial
    | none => exact ih

theorem program_mild {call : MailCall} (other : call.marks = none) :
    (call.program service).Only Mild := by
  cases call with
  | sweep limit times => cases other
  | move call => exact (Program.Only.embed moveMessage_mild).bind fun _ => trivial
  | setRetention userID retention =>
    apply Program.Only.bind
    · refine ⟨trivial, fun err => ?_⟩
      cases err with
      | some err => trivial
      | none => exact writeRetention_mild
    · exact fun _ => trivial
  | ensureRetention userID =>
    apply Program.Only.bind
    · exact ⟨by simp [Mild, mildKinds, Write.op], fun _ => trivial⟩
    · exact fun _ => trivial

end Programs

end ElvishMail.Mailops
