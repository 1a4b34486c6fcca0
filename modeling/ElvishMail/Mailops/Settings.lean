import ElvishMail.Mailops.Sweep

/-!
# Retention settings in any order

`SetFolderRetention` ranges over a map, in an order that nobody chooses, and writes one row
for each entry. Names are normalized inside of the loop, so several entries may write the same
row. What is stored depends on the order exactly if such entries have different values.
-/

namespace ElvishMail.Mailops

open Go Smtp Mailmeta Mailstore Semantics

/-- A `map[string]*int`: its entries, no two of them under one key. -/
structure RetentionMap where
  entries : List (GoString × Option Int)
  distinct : (entries.map Prod.fst).Nodup

def Accepts (lib : Library) (entry : GoString × Option Int) : Prop :=
  normalizeFolderName lib entry.1 ≠ [] ∧ ∀ count ∈ entry.2, 0 < count

instance (lib : Library) (entry : GoString × Option Int) : Decidable (Accepts lib entry) :=
  inferInstanceAs (Decidable (_ ∧ _))

def settingOf (lib : Library) (userID : Nat) (entry : GoString × Option Int) : FolderRetention :=
  ⟨userID, normalizeFolderName lib entry.1, entry.2.map Int.toNat⟩

/-- The settings are written in this order, and that is reported as done. -/
def Saves (lib : Library) (userID : Nat) (order : List (GoString × Option Int))
    (before after : Stores) : Prop :=
  ∃ now env, (setFolderRetention lib userID order).run (Query.answer now) env before = (none, after)

/-- Whatever the order in which the map is ranged over, the same settings are stored. -/
def RetentionMap.OrderFree (lib : Library) (userID : Nat) (retention : RetentionMap) : Prop :=
  ∀ before first second afterFirst afterSecond,
    first.Perm retention.entries → second.Perm retention.entries →
      Saves lib userID first before afterFirst → Saves lib userID second before afterSecond →
        ∀ row, row ∈ afterFirst.tables.retention ↔ row ∈ afterSecond.tables.retention

/-- Entries for one folder agree. -/
def RetentionMap.Agreeing (lib : Library) (retention : RetentionMap) : Prop :=
  ∀ first ∈ retention.entries, ∀ second ∈ retention.entries,
    normalizeFolderName lib first.1 = normalizeFolderName lib second.1 → first.2 = second.2

instance (lib : Library) (retention : RetentionMap) : Decidable (retention.Agreeing lib) :=
  inferInstanceAs (Decidable (∀ first ∈ retention.entries, ∀ second ∈ retention.entries, _ → _))

section Saving

variable {lib : Library} {userID : Nat} {order : List (GoString × Option Int)} {before after : Stores}
  {now : Time} {env : Nat → Outcome GoError} {written : List FolderRetention}

theorem writeRetention_done
    (ran : (writeRetention lib userID order written).run (Query.answer now) env before = (none, after)) :
    (∀ entry ∈ order, Accepts lib entry) ∧
      after = setRetention (written ++ order.map (settingOf lib userID)) before := by
  induction order generalizing written env before with
  | nil =>
    refine ⟨nofun, ?_⟩
    rw [writeRetention, Program.run_ask] at ran
    obtain ⟨reported, rfl⟩ := Prod.mk.inj ran
    rw [List.map_nil, List.append_nil]
    exact Outcome.exec_of_error?_none reported
  | cons entry rest ih =>
    obtain ⟨folder, days⟩ := entry
    rw [writeRetention] at ran
    dsimp only at ran
    split_ifs at ran with blank refused
    · cases ran
    · cases ran
    · rw [Program.run_ask] at ran
      cases reported : (env 0).error? with
      | some err =>
        rw [show ((Query.execTx _).answer now (env 0) before).1 = some err from reported] at ran
        cases ran
      | none =>
        rw [show ((Query.execTx _).answer now (env 0) before).1 = none from reported] at ran
        obtain ⟨accepted, stored⟩ := ih ran
        refine ⟨List.forall_mem_cons.mpr ⟨⟨blank, fun count given => ?_⟩, accepted⟩, ?_⟩
        · exact Int.not_le.mp fun small => refused ⟨count, given, small⟩
        · rw [stored, List.append_assoc, List.map_cons]
          rfl

theorem writeRetention_run (accepted : ∀ entry ∈ order, Accepts lib entry) :
    (writeRetention lib userID order written).run (Query.answer now) (fun _ => .done) before =
      (none, setRetention (written ++ order.map (settingOf lib userID)) before) := by
  induction order generalizing written with
  | nil => rw [List.map_nil, List.append_nil]; rfl
  | cons entry rest ih =>
    obtain ⟨⟨named, positive⟩, others⟩ := List.forall_mem_cons.mp accepted
    have kept : ¬∃ count ∈ entry.2, count ≤ 0 := fun ⟨count, given, small⟩ =>
      Int.not_le.mpr (positive count given) small
    rw [writeRetention]
    dsimp only
    have later := @ih (written ++ [settingOf lib userID entry]) others
    rw [List.append_assoc] at later
    rw [if_neg named, if_neg kept]
    exact later

theorem saves_iff : Saves lib userID order before after ↔
    (∀ entry ∈ order, Accepts lib entry) ∧
      after = setRetention (order.map (settingOf lib userID)) before := by
  constructor
  · rintro ⟨now, env, ran⟩
    rw [setFolderRetention, Program.run_ask] at ran
    cases reported : (env 0).error? with
    | some err =>
      rw [show (Query.beginTx.answer now (env 0) before).1 = some err from reported] at ran
      cases ran
    | none =>
      rw [show (Query.beginTx.answer now (env 0) before).1 = none from reported] at ran
      exact writeRetention_done ran
  · rintro ⟨accepted, rfl⟩
    exact ⟨0, fun _ => .done, writeRetention_run accepted⟩

theorem stored_agreeing {entries : List (GoString × Option Int)} {row : FolderRetention}
    (agree : ∀ first ∈ entries, ∀ second ∈ entries,
      normalizeFolderName lib first.1 = normalizeFolderName lib second.1 → first.2 = second.2) :
    row ∈ (setRetention (entries.map (settingOf lib userID)) before).tables.retention ↔
      row ∈ entries.map (settingOf lib userID) ∨
        row ∈ before.tables.retention ∧
          ∀ other ∈ entries.map (settingOf lib userID), retentionKey other ≠ retentionKey row := by
  refine Rows.mem_foldl_upsert fun first firstIn second secondIn same => ?_
  obtain ⟨one, oneIn, rfl⟩ := List.mem_map.mp firstIn
  obtain ⟨other, otherIn, rfl⟩ := List.mem_map.mp secondIn
  have named : normalizeFolderName lib one.1 = normalizeFolderName lib other.1 :=
    congrArg Prod.snd same
  rw [settingOf, settingOf, named, agree one oneIn other otherIn named]

theorem stored_last {entries : List (GoString × Option Int)} {last : GoString × Option Int}
    {row : FolderRetention} (same : retentionKey row = retentionKey (settingOf lib userID last)) :
    row ∈ (setRetention ((entries ++ [last]).map (settingOf lib userID)) before).tables.retention ↔
      row = settingOf lib userID last := by
  rw [setRetention, List.map_append, List.foldl_append]
  change row ∈ Rows.upsert retentionKey (settingOf lib userID last) _ ↔ _
  rw [Rows.mem_upsert_iff]
  exact or_iff_left fun other => other.2 same

end Saving

theorem RetentionMap.orderFree_iff {lib : Library} {userID : Nat} {retention : RetentionMap}
    (before : Stores) (accepted : ∀ entry ∈ retention.entries, Accepts lib entry) :
    retention.OrderFree lib userID ↔ retention.Agreeing lib := by
  constructor
  · intro free first firstIn second secondIn named
    have firstLast : (retention.entries.erase first ++ [first]).Perm retention.entries :=
      (List.perm_append_comm).trans (List.perm_cons_erase firstIn).symm
    have secondLast : (retention.entries.erase second ++ [second]).Perm retention.entries :=
      (List.perm_append_comm).trans (List.perm_cons_erase secondIn).symm
    have both := free before _ _ _ _ firstLast secondLast
      (saves_iff.mpr ⟨fun entry member => accepted entry (firstLast.mem_iff.mp member), rfl⟩)
      (saves_iff.mpr ⟨fun entry member => accepted entry (secondLast.mem_iff.mp member), rfl⟩)
      (settingOf lib userID first)
    have oneKey : retentionKey (settingOf lib userID first) =
        retentionKey (settingOf lib userID second) := congrArg (Prod.mk userID) named
    rw [stored_last rfl, stored_last oneKey] at both
    have same := congrArg FolderRetention.retentionDays (both.mp rfl)
    -- positive values have different rows
    have positive := (accepted first firstIn).2
    have positive' := (accepted second secondIn).2
    dsimp only [settingOf] at same
    cases value : first.2 with
    | none =>
      rw [value] at same
      exact (Option.map_eq_none_iff.mp same.symm).symm
    | some count =>
      rw [value] at same
      obtain ⟨other, given, equal⟩ := Option.map_eq_some_iff.mp same.symm
      have one := positive count value
      have two := positive' other given
      rw [given]
      congr 1
      omega
  · intro agreeing _ first second afterFirst afterSecond firstRanged secondRanged savedFirst
      savedSecond row
    obtain ⟨-, rfl⟩ := saves_iff.mp savedFirst
    obtain ⟨-, rfl⟩ := saves_iff.mp savedSecond
    rw [stored_agreeing fun one oneIn other otherIn =>
        agreeing one (firstRanged.mem_iff.mp oneIn) other (firstRanged.mem_iff.mp otherIn),
      stored_agreeing fun one oneIn other otherIn =>
        agreeing one (secondRanged.mem_iff.mp oneIn) other (secondRanged.mem_iff.mp otherIn)]
    have rows := ((firstRanged.trans secondRanged.symm).map (settingOf lib userID))
    simp only [rows.mem_iff]

/-- What is stored of an accepted map does not depend on the order exactly if its entries for
one folder have one value. -/
theorem retention_orderFree_iff {lib : Library} {userID : Nat} (retention : RetentionMap)
    {order : List (GoString × Option Int)} {before after : Stores}
    (ranged : order.Perm retention.entries) (saved : Saves lib userID order before after) :
    retention.OrderFree lib userID ↔ retention.Agreeing lib :=
  RetentionMap.orderFree_iff before fun entry member =>
    (saves_iff.mp saved).1 entry (ranged.mem_iff.mpr member)

def bareStores : Stores := ⟨{}, ⟨[], List.nodup_nil⟩, 0, nofun⟩

def spelledTwice : RetentionMap :=
  ⟨[(ascii "Inbox", some 30), (ascii "inbox ", none)], by decide⟩

def spelledOnce : RetentionMap :=
  ⟨[(ascii "Inbox", some 30), (ascii "trash ", none)], by decide⟩

theorem retention_orderFree_once : spelledOnce.OrderFree .plain 1 := by
  have accepted : ∀ entry ∈ spelledOnce.entries, Accepts .plain entry := by decide
  have agreeing : spelledOnce.Agreeing .plain := by decide
  exact (retention_orderFree_iff spelledOnce (.refl _)
    (saves_iff.mpr ⟨accepted, rfl⟩ : Saves .plain 1 _ bareStores _)).mpr agreeing

/-- The last of two spellings wins. -/
theorem retention_order_matters : ¬spelledTwice.OrderFree .plain 1 := by
  have accepted : ∀ entry ∈ spelledTwice.entries, Accepts .plain entry := by decide
  have agreeing : ¬spelledTwice.Agreeing .plain := by decide
  exact fun free => agreeing ((RetentionMap.orderFree_iff bareStores accepted).mp free)

end ElvishMail.Mailops
