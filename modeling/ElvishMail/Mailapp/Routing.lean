import ElvishMail.Mailapp.Compose

/-!
# The right key for the right recipient

`handleSend` looks the key up itself if what it holds is not for the recipient. But
then it prefers the text that it already held over the one that was found, unless
the recipient is a local one. As long as this does not happen, every message is
encrypted to a key of its recipient, and the same key is saved.
-/

namespace ElvishMail.Mailapp.Compose

open Js Semantics

/-- Every message is encrypted to a key that was found for its recipient or entered while
that was the single one, and what is saved after it is that key under that address. -/
structure Routed (state : State) : Prop where
  sent : ∀ plan ∈ state.sent, (plan.recipient, plan.recipientArmored) ∈ state.known
  saved : ∀ entry ∈ state.saved, entry.1 ∈ state.sent ∧ entry.2.email = entry.1.recipient ∧
    entry.2.armoredPublic = entry.1.recipientArmored

def Task.lookup : Task → Option Lookup
  | .getContactKey lookup | .lookupKey lookup _ => some lookup
  | _ => none

/-- The lookup of a `handleSend` that held a key text when it was called. -/
def Task.holdsKey (task : Task) : Bool :=
  task.lookup.any fun lookup => lookup.send.any fun send => send.recipientArmored ≠ []

/-- A reply with which a lookup goes on, or finds the key of a local recipient before
another one has started. -/
def Task.decides (state : State) : Task → Reply → Bool
  | .getContactKey lookup, .record contact =>
    lookup.seq = state.lookupSeq ∧
      (State.hasKey contact).all fun record => record.source = lit "local"
  | .lookupKey lookup _, .record record =>
    lookup.seq = state.lookupSeq ∧
      (State.hasKey record).any fun record => record.source = lit "local"
  | _, _ => false

/-- If `handleSend` looks the key up itself while it holds a key text, the recipient turns
out to be a local one. -/
def LookupDecides (state : State) : Event → Prop
  | .resume index reply => ∀ task ∈ state.tasks[index]?,
      task.holdsKey = false ∨ task.decides state reply = true
  | _ => True

def Task.plan : Task → Option Plan
  | .ensureIdentityUnlocked plan | .sendPGPDirect plan => some plan
  | _ => none

/-- What is saved after a message is the key that it is encrypted to. -/
def Plan.Saves (plan : Plan) : Prop :=
  ∀ entry ∈ plan.entry, entry.email = plan.recipient ∧
    entry.armoredPublic = plan.recipientArmored

/-- What holds of the component as long as no lookup is overruled: the key text goes with
its metadata, and with the address that it was entered for. -/
structure Tracked (state : State) : Prop where
  routed : Routed state
  found : ∀ found ∈ state.recipientMeta, state.recipientArmored = found.armoredPublic ∧
    (found.email ≠ [] → (found.email, found.armoredPublic) ∈ state.known)
  manual : state.manualKeyOverride = true → state.manualKeyEmail ≠ [] →
    state.recipientArmored ≠ [] → (state.manualKeyEmail, state.recipientArmored) ∈ state.known
  lookups : ∀ task ∈ state.tasks, ∀ lookup ∈ task.lookup, ∀ send ∈ lookup.send,
    send.recipient = lookup.target
  plans : ∀ task ∈ state.tasks, ∀ plan ∈ task.plan,
    (plan.recipient, plan.recipientArmored) ∈ state.known ∧ plan.Saves
  sending : ∀ plan, .sendPGPDirect plan ∈ state.tasks → plan ∈ state.sent

section Steps

variable {lib : Library} {state : State}

theorem Tracked.await {task : Task} (tracked : Tracked state)
    (lookup : ∀ lookup ∈ task.lookup, ∀ send ∈ lookup.send, send.recipient = lookup.target)
    (plan : ∀ plan ∈ task.plan, (plan.recipient, plan.recipientArmored) ∈ state.known ∧ plan.Saves)
    (sending : ∀ plan, task = .sendPGPDirect plan → plan ∈ state.sent) :
    Tracked (state.await task) where
  routed := ⟨tracked.routed.sent, tracked.routed.saved⟩
  found := tracked.found
  manual := tracked.manual
  lookups := by
    intro other member
    rcases List.mem_append.mp member with before | added
    · exact tracked.lookups other before
    · cases List.mem_singleton.mp added
      exact lookup
  plans := by
    intro other member
    rcases List.mem_append.mp member with before | added
    · exact tracked.plans other before
    · cases List.mem_singleton.mp added
      exact plan
  sending := by
    intro sent member
    rcases List.mem_append.mp member with before | added
    · exact tracked.sending sent before
    · exact sending sent (List.mem_singleton.mp added).symm

theorem Tracked.erase {index : Nat} (tracked : Tracked state) :
    Tracked { state with tasks := state.tasks.eraseIdx index } where
  routed := ⟨tracked.routed.sent, tracked.routed.saved⟩
  found := tracked.found
  manual := tracked.manual
  lookups := fun task member => tracked.lookups task (List.mem_of_mem_eraseIdx member)
  plans := fun task member => tracked.plans task (List.mem_of_mem_eraseIdx member)
  sending := fun plan member => tracked.sending plan (List.mem_of_mem_eraseIdx member)

theorem Tracked.learn (tracked : Tracked state) (pair : JsString × JsString) :
    Tracked { state with known := state.known ++ [pair] } where
  routed := ⟨fun plan member => List.mem_append_left _ (tracked.routed.sent plan member),
    tracked.routed.saved⟩
  found := by
    intro found present
    obtain ⟨same, known⟩ := tracked.found found present
    exact ⟨same, fun email => List.mem_append_left _ (known email)⟩
  manual := fun override email armored =>
    List.mem_append_left _ (tracked.manual override email armored)
  lookups := tracked.lookups
  plans := by
    intro task member plan carried
    obtain ⟨known, saves⟩ := tracked.plans task member plan carried
    exact ⟨List.mem_append_left _ known, saves⟩
  sending := tracked.sending

theorem Tracked.settle (tracked : Tracked state) : Tracked state.settle := by
  obtain ⟨routed, found, manual, lookups, plans, sending⟩ := tracked
  exact ⟨⟨routed.sent, routed.saved⟩, found, manual, lookups, plans, sending⟩

theorem Tracked.setKey (tracked : Tracked state) (armored email name : JsString)
    (found : Option RecipientMeta) (override : Bool)
    (goes : ∀ hit ∈ found, armored = hit.armoredPublic ∧
      (hit.email ≠ [] → (hit.email, hit.armoredPublic) ∈ state.known))
    (manual : override = true → email ≠ [] → armored ≠ [] → (email, armored) ∈ state.known) :
    Tracked { state with
      recipientArmored := armored
      recipientMeta := found
      manualKeyOverride := override
      manualKeyEmail := email
      uploadedKeyName := name } := by
  obtain ⟨routed, -, -, lookups, plans, sending⟩ := tracked
  exact ⟨⟨routed.sent, routed.saved⟩, goes, manual, lookups, plans, sending⟩

theorem Tracked.dispatch {plan : Plan} (tracked : Tracked state)
    (known : (plan.recipient, plan.recipientArmored) ∈ state.known) (saves : plan.Saves) :
    Tracked (state.dispatch plan) := by
  have sent : Tracked { state with sent := state.sent ++ [plan] } := by
    constructor
    · constructor
      · intro other member
        rcases List.mem_append.mp member with before | added
        · exact tracked.routed.sent other before
        · cases List.mem_singleton.mp added
          exact known
      · intro entry member
        obtain ⟨before, same⟩ := tracked.routed.saved entry member
        exact ⟨List.mem_append_left _ before, same⟩
    · exact tracked.found
    · exact tracked.manual
    · exact tracked.lookups
    · exact tracked.plans
    · exact fun other member => List.mem_append_left _ (tracked.sending other member)
  refine sent.await nofun ?_ ?_
  · rintro other ⟨⟩
    exact ⟨known, saves⟩
  · rintro other ⟨⟩
    exact List.mem_append_right _ (List.mem_singleton.mpr rfl)

theorem Tracked.save {plan : Plan} {entry : Entry} (tracked : Tracked state)
    (sent : plan ∈ state.sent) (saves : plan.Saves) (there : plan.entry = some entry) :
    Tracked { state with saved := state.saved ++ [(plan, entry)] } := by
  obtain ⟨routed, found, manual, lookups, plans, sending⟩ := tracked
  refine ⟨⟨routed.sent, ?_⟩, found, manual, lookups, plans, sending⟩
  intro other member
  rcases List.mem_append.mp member with before | added
  · exact routed.saved other before
  · cases List.mem_singleton.mp added
    exact ⟨sent, saves entry there⟩

theorem Tracked.signAs {sender : Option KeyRecord} {plan : Plan} (tracked : Tracked state)
    (known : (plan.recipient, plan.recipientArmored) ∈ state.known) (saves : plan.Saves) :
    Tracked (state.signAs sender plan) := by
  unfold State.signAs
  split
  · exact tracked.settle
  split
  · exact tracked.settle
  split
  · refine tracked.await nofun ?_ nofun
    rintro other ⟨⟩
    exact ⟨known, saves⟩
  · exact tracked.dispatch known saves

theorem Tracked.sendManual {send : Send} (tracked : Tracked state)
    (known : (send.recipient, send.recipientArmored) ∈ state.known) :
    Tracked (state.sendManual send) := by
  refine tracked.signAs known ?_
  intro entry saved
  dsimp only at saved
  split at saved <;> cases saved
  exact ⟨rfl, rfl⟩

theorem route_known {send : Send} {found : Option RecipientMeta}
    (present : ¬(send.recipientArmored = [] ∧ (found.map RecipientMeta.armoredPublic).getD [] = []))
    (known : ∀ hit ∈ found, hit.email = send.recipient ∧
      (hit.armoredPublic ≠ [] → (send.recipient, hit.armoredPublic) ∈ state.known))
    (held : send.recipientArmored = [] ∨ (send.recipient, send.recipientArmored) ∈ state.known ∨
      ∃ hit ∈ found, hit.source = lit "local" ∧ hit.armoredPublic ≠ []) :
    (send.recipient,
      if (found.any fun hit => hit.source = lit "local" ∧ hit.email = send.recipient) = true ∧
          (found.map RecipientMeta.armoredPublic).getD [] ≠ [] then
        (found.map RecipientMeta.armoredPublic).getD []
      else if send.recipientArmored ≠ [] then send.recipientArmored
      else (found.map RecipientMeta.armoredPublic).getD []) ∈ state.known := by
  cases found with
  | none =>
    rcases held with empty | there | ⟨_, ⟨⟩, _⟩
    · exact absurd ⟨empty, rfl⟩ present
    · have nonempty : send.recipientArmored ≠ [] := fun empty => present ⟨empty, rfl⟩
      rw [if_neg (by simp), if_pos nonempty]
      exact there
  | some hit =>
    obtain ⟨email, there⟩ := known hit rfl
    dsimp only [Option.map_some, Option.getD_some] at present ⊢
    split
    next overrules => exact there overrules.2
    next keeps =>
      split
      next nonempty =>
        rcases held with empty | there | ⟨_, ⟨⟩, source, armored⟩
        · exact absurd empty nonempty
        · exact there
        · exact absurd ⟨by simp [source, email], armored⟩ keeps
      next empty => exact there fun none => present ⟨not_not.mp empty, none⟩

theorem Tracked.route {send : Send} {found : Option RecipientMeta} (tracked : Tracked state)
    (known : ∀ hit ∈ found, hit.email = send.recipient ∧
      (hit.armoredPublic ≠ [] → (send.recipient, hit.armoredPublic) ∈ state.known))
    (held : send.recipientArmored = [] ∨ (send.recipient, send.recipientArmored) ∈ state.known ∨
      ∃ hit ∈ found, hit.source = lit "local" ∧ hit.armoredPublic ≠ []) :
    Tracked (state.route send found) := by
  unfold State.route
  dsimp only
  split
  next => exact tracked.settle
  next present =>
    refine tracked.signAs ?_ ?_
    · exact route_known present known held
    · intro entry saved
      dsimp only at saved
      split at saved
      · obtain ⟨hit, there, made⟩ := Option.bind_eq_some_iff.mp saved
        split at made <;> cases made
        exact ⟨(known hit there).1, rfl⟩
      · cases saved

/-! ### Lookups -/

theorem Tracked.returns {lookup : Lookup} {found : Option RecipientMeta} (tracked : Tracked state)
    (target : ∀ send ∈ lookup.send, send.recipient = lookup.target)
    (known : ∀ hit ∈ found, hit.email = lookup.target ∧
      (lookup.target, hit.armoredPublic) ∈ state.known)
    (held : (lookup.send.any fun send => send.recipientArmored ≠ []) = false ∨
      ∃ hit ∈ found, hit.source = lit "local" ∧ hit.armoredPublic ≠ []) :
    Tracked (state.returns lookup found) := by
  unfold State.returns
  split
  next send awaits =>
    have recipient := target send awaits
    refine tracked.route ?_ ?_
    · intro hit there
      rw [recipient]
      exact ⟨(known hit there).1, fun _ => (known hit there).2⟩
    · rcases held with empty | overrules
      · rw [awaits] at empty
        exact .inl (by simpa using empty)
      · exact .inr (.inr overrules)
  next => exact tracked

theorem Tracked.foundKey (tracked : Tracked state) (target : JsString)
    (record : Option KeyRecord) : Tracked (state.found target record) := by
  unfold State.found
  split
  next record =>
    split
    · exact tracked
    · exact tracked.learn _
  next => exact tracked

theorem found_known {target : JsString} {reply : Option KeyRecord} {record : KeyRecord}
    (has : State.hasKey reply = some record) :
    (target, record.armoredPublic) ∈ (state.found target reply).known ∧
      record.armoredPublic ≠ [] := by
  obtain ⟨rfl, present⟩ := Option.filter_eq_some_iff.mp has
  have nonempty : record.armoredPublic ≠ [] := by simpa using present
  refine ⟨?_, nonempty⟩
  unfold State.found
  dsimp only
  rw [if_neg nonempty]
  exact List.mem_append_right _ (List.mem_singleton.mpr rfl)

theorem Tracked.hit {lookup : Lookup} {contact : Bool} {record : KeyRecord} (tracked : Tracked state)
    (target : ∀ send ∈ lookup.send, send.recipient = lookup.target)
    (known : (lookup.target, record.armoredPublic) ∈ state.known)
    (nonempty : record.armoredPublic ≠ [])
    (held : (lookup.send.any fun send => send.recipientArmored ≠ []) = false ∨
      record.source = lit "local") :
    Tracked (state.hit lookup contact record) := by
  unfold State.hit
  dsimp only
  refine Tracked.returns ?_ target ?_ ?_
  · split
    · exact tracked
    · refine tracked.setKey _ _ _ _ _ ?_ nofun
      rintro found ⟨⟩
      exact ⟨rfl, fun _ => known⟩
  · rintro found ⟨⟩
    refine ⟨rfl, ?_⟩
    split <;> exact known
  · rcases held with empty | source
    · exact .inl empty
    · refine .inr ⟨_, rfl, ?_, nonempty⟩
      dsimp only
      rw [source]
      exact if_pos (by decide)

theorem Tracked.miss {lookup : Lookup} (tracked : Tracked state)
    (target : ∀ send ∈ lookup.send, send.recipient = lookup.target)
    (held : (lookup.send.any fun send => send.recipientArmored ≠ []) = false) :
    Tracked (state.miss lookup) := by
  unfold State.miss
  dsimp only
  refine Tracked.returns ?_ target nofun (.inl held)
  split
  · exact tracked
  · exact tracked.setKey _ _ _ _ _ nofun fun _ _ empty => absurd rfl empty

theorem Tracked.caught {lookup : Lookup} (tracked : Tracked state)
    (target : ∀ send ∈ lookup.send, send.recipient = lookup.target)
    (held : (lookup.send.any fun send => send.recipientArmored ≠ []) = false) :
    Tracked (state.caught lookup) := by
  unfold State.caught
  dsimp only
  refine Tracked.returns ?_ target nofun (.inl held)
  split
  · exact tracked
  · exact tracked.setKey _ _ _ _ _ nofun tracked.manual

theorem Tracked.detect {target : JsString} {send : Option Send} (tracked : Tracked state)
    (recipient : ∀ caller ∈ send, caller.recipient = target) : Tracked (state.detect target send) := by
  have counted : Tracked { state with lookupSeq := state.lookupSeq + 1 } := by
    obtain ⟨routed, found, manual, lookups, plans, sending⟩ := tracked
    exact ⟨⟨routed.sent, routed.saved⟩, found, manual, lookups, plans, sending⟩
  refine counted.await ?_ nofun nofun
  rintro lookup ⟨⟩
  exact recipient

theorem Tracked.detectRecipientKey (tracked : Tracked state) :
    Tracked (state.detectRecipientKey lib) := by
  unfold State.detectRecipientKey
  split
  · exact tracked.detect nofun
  · exact tracked

/-! ### Keys entered by hand -/

theorem Tracked.entered {found : RecipientMeta} {target armored name : JsString}
    (tracked : Tracked state) (email : found.email = target)
    (same : found.armoredPublic = armored) :
    Tracked (State.entered { state with
      recipientArmored := armored
      recipientMeta := some found
      manualKeyOverride := true
      manualKeyEmail := target
      uploadedKeyName := name } target armored) := by
  subst email same
  unfold State.entered
  split
  next none =>
    refine tracked.setKey _ _ _ _ _ ?_ fun _ email => absurd none email
    rintro hit ⟨⟩
    exact ⟨rfl, fun email => absurd none email⟩
  next =>
    have last : (found.email, found.armoredPublic) ∈
        state.known ++ [(found.email, found.armoredPublic)] :=
      List.mem_append_right _ (List.mem_singleton.mpr rfl)
    refine (tracked.learn (found.email, found.armoredPublic)).setKey _ _ _ _ _ ?_
      fun _ _ _ => last
    rintro hit ⟨⟩
    exact ⟨rfl, fun _ => last⟩

theorem Tracked.handleManualKeyChange {nextValue : JsString} (tracked : Tracked state) :
    Tracked (state.handleManualKeyChange lib nextValue) := by
  unfold State.handleManualKeyChange
  dsimp only
  split
  · exact tracked.entered rfl rfl
  · exact tracked.setKey _ _ _ _ _ nofun nofun

theorem Tracked.clearManualKey (tracked : Tracked state) : Tracked state.clearManualKey :=
  tracked.setKey _ _ _ _ _ nofun nofun

/-! ### Events -/

theorem recipient_ne_nil {value recipient : JsString}
    (single : toRecipientsForPGP lib value = [recipient]) : recipient ≠ [] := by
  have member : recipient ∈ toRecipientsForPGP lib value := by
    rw [single]
    exact List.mem_singleton.mpr rfl
  simpa using (List.mem_filter.mp member).2

theorem Tracked.handleSend (tracked : Tracked state) : Tracked (state.handleSend lib) := by
  unfold State.handleSend
  split
  next recipient single =>
    have present := recipient_ne_nil single
    have started : Tracked { state with busy := true } := by
      obtain ⟨routed, found, manual, lookups, plans, sending⟩ := tracked
      exact ⟨⟨routed.sent, routed.saved⟩, found, manual, lookups, plans, sending⟩
    dsimp only
    split
    next manual =>
      refine started.sendManual ?_
      have known := tracked.manual manual.1 (by rw [manual.2.1]; exact present) manual.2.2
      rw [manual.2.1] at known
      exact known
    split
    next found matched =>
      obtain ⟨there, email⟩ := Option.filter_eq_some_iff.mp matched
      simp only [decide_eq_true_eq] at email
      obtain ⟨same, known⟩ := tracked.found found there
      have key : (recipient, found.armoredPublic) ∈ state.known := by
        rw [← email]
        exact known (by rw [email]; exact present)
      refine started.route ?_ (.inr (.inl ?_))
      · rintro hit ⟨⟩
        exact ⟨email, fun _ => key⟩
      · rw [same]
        exact key
    next =>
      refine started.detect ?_
      rintro send ⟨⟩
      rfl
  next => exact tracked

theorem found_lookupSeq {target : JsString} {record : Option KeyRecord} :
    (state.found target record).lookupSeq = state.lookupSeq := by
  unfold State.found
  split
  · split <;> rfl
  · rfl

/-- A lookup goes on with the answer to it: it is stale, has found a key, or has found none. -/
theorem Tracked.looked {lookup : Lookup} {answer : Option KeyRecord} {contact : Bool}
    {other after : State} (tracked : Tracked state)
    (target : ∀ send ∈ lookup.send, send.recipient = lookup.target)
    (stale : lookup.seq ≠ state.lookupSeq →
      (lookup.send.any fun send => send.recipientArmored ≠ []) = false)
    (held : ∀ record, State.hasKey answer = some record →
      (lookup.send.any fun send => send.recipientArmored ≠ []) = false ∨ record.source = lit "local")
    (unknown : State.hasKey answer = none → Tracked other)
    (resumed : (if lookup.seq ≠ (state.found lookup.target answer).lookupSeq then
        some ((state.found lookup.target answer).returns lookup none)
      else match State.hasKey answer with
        | some record => some ((state.found lookup.target answer).hit lookup contact record)
        | none => some other) = some after) : Tracked after := by
  have learned := tracked.foundKey lookup.target answer
  rw [found_lookupSeq] at resumed
  split at resumed
  next late =>
    cases resumed
    exact learned.returns target nofun (.inl (stale late))
  next =>
    split at resumed <;> cases resumed
    next record has =>
      obtain ⟨known, nonempty⟩ := found_known has
      exact learned.hit target known nonempty (held record has)
    next none => exact unknown none

theorem Tracked.refused {lookup : Lookup} {after : State} (tracked : Tracked state)
    (target : ∀ send ∈ lookup.send, send.recipient = lookup.target)
    (held : (lookup.send.any fun send => send.recipientArmored ≠ []) = false)
    (resumed : (if lookup.seq ≠ state.lookupSeq then some (state.returns lookup none)
      else some (state.caught lookup)) = some after) : Tracked after := by
  split at resumed <;> cases resumed
  · exact tracked.returns target nofun (.inl held)
  · exact tracked.caught target held

theorem resume_tracked {task : Task} {reply : Reply} {after : State} (tracked : Tracked state)
    (target : ∀ lookup ∈ task.lookup, ∀ send ∈ lookup.send, send.recipient = lookup.target)
    (planned : ∀ plan ∈ task.plan,
      (plan.recipient, plan.recipientArmored) ∈ state.known ∧ plan.Saves)
    (sending : ∀ plan, task = .sendPGPDirect plan → plan ∈ state.sent)
    (decides : task.holdsKey = false ∨ task.decides state reply = true)
    (resumed : state.resume task reply = some after) : Tracked after := by
  unfold State.resume at resumed
  split at resumed
  next lookup answer =>
    refine tracked.looked (target lookup rfl) (fun stale => ?_) (fun record has => ?_) (fun _ => ?_) resumed
    · exact decides.resolve_right (by simp [Task.decides, stale])
    · refine decides.imp_right ?_
      simp only [Task.decides, has, Option.all_some, decide_eq_true_eq]
      exact And.right
    · refine (tracked.foundKey lookup.target answer).await ?_ nofun nofun
      rintro next ⟨⟩
      exact target lookup rfl
  next lookup contact answer =>
    refine tracked.looked (target lookup rfl) (fun stale => ?_) (fun record has => ?_)
      (fun none => ?_) resumed
    · exact decides.resolve_right (by simp [Task.decides, stale])
    · refine decides.imp_right ?_
      simp only [Task.decides, has, Option.any_some, decide_eq_true_eq]
      exact And.right
    · refine (tracked.foundKey lookup.target answer).miss (target lookup rfl) (decides.resolve_right ?_)
      simp [Task.decides, none]
  next lookup => exact tracked.refused (target lookup rfl) (decides.resolve_right nofun) resumed
  next lookup contact => exact tracked.refused (target lookup rfl) (decides.resolve_right nofun) resumed
  next =>
    dsimp only at resumed
    split at resumed <;> cases resumed
    · exact tracked
    · exact tracked.await nofun nofun nofun
  next =>
    cases resumed
    exact tracked.entered rfl rfl
  next =>
    cases resumed
    exact tracked
  next =>
    cases resumed
    exact tracked
  next plan fingerprint =>
    obtain ⟨known, saves⟩ := planned plan rfl
    split at resumed <;> cases resumed
    · exact tracked.settle
    · exact tracked.dispatch known saves
  next =>
    cases resumed
    exact tracked.settle
  next =>
    cases resumed
    exact tracked.settle
  next plan =>
    obtain ⟨known, saves⟩ := planned plan rfl
    split at resumed <;> cases resumed
    next entry there => exact (tracked.save (sending plan rfl) saves there).await nofun nofun nofun
    next => exact tracked.settle
  next =>
    cases resumed
    exact tracked.settle
  next =>
    cases resumed
    exact tracked.settle
  next => cases resumed

theorem Tracked.lookupEffect (tracked : Tracked state) : Tracked (state.lookupEffect lib) := by
  have dropped {seq : Nat} : Tracked { state with lookupSeq := seq, timer := false } := by
    obtain ⟨routed, found, manual, lookups, plans, sending⟩ := tracked
    exact ⟨⟨routed.sent, routed.saved⟩, found, manual, lookups, plans, sending⟩
  unfold State.lookupEffect
  split
  · exact dropped
  split
  · obtain ⟨routed, found, manual, lookups, plans, sending⟩ := tracked
    exact ⟨⟨routed.sent, routed.saved⟩, found, manual, lookups, plans, sending⟩
  · dsimp only
    split
    · exact dropped
    · exact dropped.setKey _ _ _ _ _ nofun fun _ _ empty => absurd rfl empty

theorem Tracked.effects {next : State} (tracked : Tracked next) : Tracked (state.effects lib next) := by
  unfold State.effects
  dsimp only
  split
  · exact tracked
  split
  · exact tracked.lookupEffect
  · exact tracked.lookupEffect.lookupEffect

theorem handle_tracked {event : Event} {after : State} (tracked : Tracked state)
    (decides : LookupDecides state event) (handled : state.handle lib event = some after) :
    Tracked after := by
  cases event with
  | setTo value | opened value | setMode mode | setSender sender | setSaveToAddressBook save =>
    cases handled
    obtain ⟨routed, found, manual, lookups, plans, sending⟩ := tracked
    exact ⟨⟨routed.sent, routed.saved⟩, found, manual, lookups, plans, sending⟩
  | manualKeyChange nextValue =>
    cases handled
    exact tracked.handleManualKeyChange
  | clearManualKey =>
    cases handled
    exact tracked.clearManualKey
  | manualKeyUpload name =>
    cases handled
    exact tracked.await nofun nofun nofun
  | debounced =>
    dsimp only [State.handle] at handled
    split at handled <;> cases handled
    apply Tracked.detectRecipientKey
    obtain ⟨routed, found, manual, lookups, plans, sending⟩ := tracked
    exact ⟨⟨routed.sent, routed.saved⟩, found, manual, lookups, plans, sending⟩
  | fetchRecipientKey =>
    cases handled
    exact tracked.detectRecipientKey
  | send =>
    dsimp only [State.handle] at handled
    split at handled <;> cases handled
    exact tracked.handleSend
  | closed =>
    cases handled
    obtain ⟨routed, found, manual, lookups, plans, sending⟩ := tracked.clearManualKey
    exact ⟨⟨routed.sent, routed.saved⟩, found, manual, lookups, plans, sending⟩
  | resume index reply =>
    obtain ⟨task, there, resumed⟩ := Option.bind_eq_some_iff.mp handled
    have member := List.mem_of_getElem? there
    refine resume_tracked tracked.erase (tracked.lookups task member) (tracked.plans task member)
      ?_ (decides task there) resumed
    rintro plan rfl
    exact tracked.sending plan member

end Steps

/-- In every run in which no lookup of a `handleSend` is overruled by the key text that it held,
each message is encrypted to a key of its recipient, and that key is saved. -/
theorem compose_routed (lib : Library) (state : State)
    (runs : (machine lib).Runs LookupDecides {} state) : Routed state := by
  have tracked : Tracked state := by
    refine runs.invariant Tracked ?_ ?_
    · exact ⟨⟨nofun, nofun⟩, nofun, nofun, nofun, nofun, nofun⟩
    · intro before event next tracked decides taken
      obtain ⟨after, handled, rfl⟩ := Option.map_eq_some_iff.mp taken
      exact (handle_tracked tracked decides handled).effects
  exact tracked.routed

instance (state : State) (event : Event) : Decidable (LookupDecides state event) :=
  match event with
  | .resume index reply =>
    inferInstanceAs (Decidable (∀ task ∈ state.tasks[index]?,
      task.holdsKey = false ∨ task.decides state reply = true))
  | .setTo _ | .setMode _ | .setSender _ | .setSaveToAddressBook _ | .manualKeyChange _ |
    .clearManualKey | .manualKeyUpload _ | .debounced | .fetchRecipientKey | .send | .opened _ |
    .closed => .isTrue trivial

def foundKey (armored source : String) : KeyRecord :=
  { armoredPublic := lit armored, source := lit source }

/-- The key of one recipient is found, another one is typed, and the message is sent before the
key of that one is looked up; the directory then has it from this source. -/
def retyped (source : String) : List Event :=
  [.setSender (some { armoredPublic := lit "mine", fingerprint := lit "AB12" }),
    .setTo (lit "bob@x.org"), .debounced, .resume 0 (.record (some (foundKey "bob's" "wkd"))),
    .setTo (lit "eve@x.org"), .send, .resume 0 (.record none),
    .resume 0 (.record (some (foundKey "eve's" source))), .resume 0 .resolved]

/-- The other recipient is a local one. -/
theorem compose_routed_local :
    Routed ((machine .plain).after (retyped "local") {}) ∧
    ((machine .plain).after (retyped "local") {}).sent.map Plan.recipientArmored = [lit "eve's"] :=
  ⟨compose_routed .plain _ (Machine.after_runs _ (by decide)), by decide⟩

/-- If the other recipient is not a local one, the message is encrypted to the key of the first
one, and this is saved for the other. -/
theorem compose_stale_key :
    ¬Routed ((machine .plain).after (retyped "wkd") {}) ∧
    ((machine .plain).after (retyped "wkd") {}).saved.map Prod.snd =
      [⟨lit "eve@x.org", lit "bob's", lit "wkd"⟩] := by
  refine ⟨?_, by decide⟩
  intro routed
  have known := routed.sent ⟨lit "eve@x.org", lit "bob's", false,
    some ⟨lit "eve@x.org", lit "bob's", lit "wkd"⟩⟩ (by decide)
  revert known
  decide

end ElvishMail.Mailapp.Compose
