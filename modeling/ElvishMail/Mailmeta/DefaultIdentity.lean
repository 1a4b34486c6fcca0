import ElvishMail.Mailmeta.Identities

/-!
# The default identity

`internal/mailmeta/identity.go`: `DefaultIdentityForUser` on the tables of a registry, and
what the statements on identities do to the flag by which it goes. `SetDefaultIdentity`
clears the flag of all other identities of the user, revocation leaves it on an inactive
row, and inserts add rows with the flag as it is given.
-/

namespace ElvishMail.Mailmeta

open Go Smtp Semantics

namespace Registry

variable {registry next : Registry} {userID : Nat}

def flagged (registry : Registry) (userID : Nat) : List IdentityRow :=
  registry.identities.filter fun row => row.userID == userID && row.isDefault

def defaultIdentityForUser (registry : Registry) (userID : Nat) : Option IdentityRow :=
  Rows.top IdentityRow.before
    (registry.identities.filter fun row => row.userID == userID && row.isActive)

theorem mem_flagged {row : IdentityRow} :
    row ∈ registry.flagged userID ↔
      row ∈ registry.identities ∧ row.userID = userID ∧ row.isDefault = true := by
  rw [flagged, List.mem_filter, Bool.and_eq_true, beq_iff_eq]

theorem top_isDefault {rows : List IdentityRow} {row taken : IdentityRow}
    (member : row ∈ rows) (flag : row.isDefault = true)
    (result : Rows.top IdentityRow.before rows = some taken) : taken.isDefault = true := by
  induction rows generalizing taken with
  | nil => cases member
  | cons first rest ih =>
    rw [Rows.top] at result
    cases later : Rows.top IdentityRow.before rest with
    | none =>
      rw [later] at result
      cases result
      rw [Rows.top_eq_none.mp later, List.mem_singleton] at member
      exact member ▸ flag
    | some other =>
      rw [later] at result
      dsimp only at result
      rcases List.mem_cons.mp member with rfl | inRest
      · split at result
        next precedes =>
          cases result
          rw [IdentityRow.before, flag] at precedes
          simp at precedes
          exact precedes.1
        · cases result
          exact flag
      · have otherFlag := ih inRest later
        split at result
        · cases result
          exact otherFlag
        next kept =>
          cases result
          rw [IdentityRow.before, otherFlag] at kept
          simp at kept
          exact kept.1

theorem exists_defaultIdentity {row : IdentityRow} (member : row ∈ registry.identities)
    (owner : row.userID = userID) (active : row.isActive = true) :
    ∃ taken ∈ registry.identities, registry.defaultIdentityForUser userID = some taken ∧
      taken.userID = userID ∧ taken.isActive = true ∧
      (row.isDefault = true → taken.isDefault = true) := by
  have listed : row ∈ registry.identities.filter
      fun row => row.userID == userID && row.isActive :=
    List.mem_filter.mpr ⟨member, by simp [owner, active]⟩
  obtain ⟨taken, result, inside⟩ : ∃ taken, registry.defaultIdentityForUser userID = some taken ∧
      taken ∈ _ := Rows.exists_top listed
  rw [List.mem_filter, Bool.and_eq_true, beq_iff_eq] at inside
  exact ⟨taken, inside.1, result, inside.2.1, inside.2.2, fun flag => top_isDefault listed flag result⟩

/-- Ids and fingerprints tell identities apart, no id was given that was not drawn, and at
most one identity of a user carries the flag. -/
structure OneDefault (registry : Registry) : Prop where
  users : ∀ user ∈ registry.users, user.id ≤ registry.drawn
  owners : ∀ row ∈ registry.identities, row.userID ≤ registry.drawn
  drawn : ∀ row ∈ registry.identities, row.id ≤ registry.drawn
  ids : (registry.identities.map IdentityRow.id).Nodup
  prints : (registry.identities.map IdentityRow.print).Nodup
  single : ∀ row ∈ registry.identities, ∀ other ∈ registry.identities,
    row.userID = other.userID → row.isDefault = true → other.isDefault = true → row.id = other.id

namespace OneDefault

theorem flagged_length (one : OneDefault registry) (userID : Nat) :
    (registry.flagged userID).length ≤ 1 := by
  have distinct : ((registry.flagged userID).map IdentityRow.id).Nodup :=
    one.ids.sublist (List.filter_sublist.map _)
  match same : registry.flagged userID with
  | [] => exact Nat.zero_le 1
  | [row] => exact Nat.le_refl 1
  | row :: other :: rest =>
    have first : row ∈ registry.flagged userID := by simp [same]
    have second : other ∈ registry.flagged userID := by simp [same]
    rw [mem_flagged] at first second
    have alike := one.single row first.1 other second.1 (first.2.1.trans second.2.1.symm)
      first.2.2 second.2.2
    rw [same] at distinct
    simp [alike] at distinct

theorem eq_of_id (one : OneDefault registry) {row other : IdentityRow}
    (member : row ∈ registry.identities) (otherMember : other ∈ registry.identities)
    (same : row.id = other.id) : row = other :=
  List.inj_on_of_nodup_map one.ids member otherMember same

theorem eq_of_print (one : OneDefault registry) {row other : IdentityRow}
    (member : row ∈ registry.identities) (otherMember : other ∈ registry.identities)
    (same : row.print = other.print) : row = other :=
  List.inj_on_of_nodup_map one.prints member otherMember same

theorem fewer (one : OneDefault registry) (users : next.users ⊆ registry.users)
    (identities : next.identities.Sublist registry.identities)
    (drawn : next.drawn = registry.drawn) : OneDefault next where
  users := fun user member => drawn ▸ one.users user (users member)
  owners := fun row member => drawn ▸ one.owners row (identities.subset member)
  drawn := fun row member => drawn ▸ one.drawn row (identities.subset member)
  ids := one.ids.sublist (identities.map _)
  prints := one.prints.sublist (identities.map _)
  single := fun row member other otherMember =>
    one.single row (identities.subset member) other (identities.subset otherMember)

theorem withUser (one : OneDefault registry) (email : GoString) :
    OneDefault (registry.withUser email) where
  users := by
    intro user member
    rcases List.mem_append.mp member with old | new
    · exact Nat.le_succ_of_le (one.users user old)
    · rw [List.mem_singleton.mp new]
      exact Nat.le_refl _
  owners := fun row member => Nat.le_succ_of_le (one.owners row member)
  drawn := fun row member => Nat.le_succ_of_le (one.drawn row member)
  ids := one.ids
  prints := one.prints
  single := one.single

theorem updated (one : OneDefault registry) {change : IdentityRow → IdentityRow}
    (id : ∀ row, (change row).id = row.id) (print : ∀ row, (change row).print = row.print)
    (flag : ∀ row ∈ registry.identities, ∀ other ∈ registry.identities, row.userID = other.userID →
      (change row).isDefault = true → (change other).isDefault = true → row.id = other.id) :
    OneDefault (registry.updateIdentities change) := by
  have owner (row : IdentityRow) : (change row).userID = row.userID := congrArg Prod.fst (print row)
  have ids : (registry.identities.map change).map IdentityRow.id =
      registry.identities.map IdentityRow.id := by
    rw [List.map_map]
    exact List.map_congr_left fun row _ => id row
  have prints : (registry.identities.map change).map IdentityRow.print =
      registry.identities.map IdentityRow.print := by
    rw [List.map_map]
    exact List.map_congr_left fun row _ => print row
  constructor
  · exact one.users
  · intro row member
    obtain ⟨old, oldMember, rfl⟩ := List.mem_map.mp member
    exact (owner old).trans_le (one.owners old oldMember)
  · intro row member
    obtain ⟨old, oldMember, rfl⟩ := List.mem_map.mp member
    exact (id old).trans_le (one.drawn old oldMember)
  · exact ids ▸ one.ids
  · exact prints ▸ one.prints
  · intro row member other otherMember same rowFlag otherFlag
    obtain ⟨old, oldMember, rfl⟩ := List.mem_map.mp member
    obtain ⟨second, secondMember, rfl⟩ := List.mem_map.mp otherMember
    rw [id, id]
    rw [owner, owner] at same
    exact flag old oldMember second secondMember same rowFlag otherFlag

theorem withIdentity (one : OneDefault registry) (now : Time) {row : IdentityRow}
    (owner : row.userID ≤ registry.drawn)
    (fresh : ∀ other ∈ registry.identities, other.print ≠ row.print)
    (free : row.isDefault = true → registry.flagged row.userID = []) :
    OneDefault (registry.withIdentity now row) := by
  have unflagged {other : IdentityRow} (member : other ∈ registry.identities)
      (flag : row.isDefault = true) (same : other.userID = row.userID) :
      ¬other.isDefault = true := by
    intro carries
    have listed : other ∈ registry.flagged row.userID := mem_flagged.mpr ⟨member, same, carries⟩
    rw [free flag] at listed
    cases listed
  constructor
  · exact fun user member => Nat.le_succ_of_le (one.users user member)
  · intro other member
    rcases List.mem_append.mp member with old | new
    · exact Nat.le_succ_of_le (one.owners other old)
    · rw [List.mem_singleton.mp new]
      exact Nat.le_succ_of_le owner
  · intro other member
    rcases List.mem_append.mp member with old | new
    · exact Nat.le_succ_of_le (one.drawn other old)
    · rw [List.mem_singleton.mp new]
      exact Nat.le_refl _
  · simp only [Registry.withIdentity, List.map_append, List.map_cons, List.map_nil]
    refine List.nodup_append.mpr ⟨one.ids, List.nodup_singleton _, ?_⟩
    intro id member other last same
    obtain ⟨old, oldMember, rfl⟩ := List.mem_map.mp member
    rw [List.mem_singleton] at last
    have bound := one.drawn old oldMember
    omega
  · simp only [Registry.withIdentity, List.map_append, List.map_cons, List.map_nil]
    refine List.nodup_append.mpr ⟨one.prints, List.nodup_singleton _, ?_⟩
    intro print member other last same
    obtain ⟨old, oldMember, rfl⟩ := List.mem_map.mp member
    rw [List.mem_singleton] at last
    exact fresh old oldMember (same.trans last)
  · intro first member second secondMember same firstFlag secondFlag
    rcases List.mem_append.mp member with old | new
    · rcases List.mem_append.mp secondMember with otherOld | otherNew
      · exact one.single first old second otherOld same firstFlag secondFlag
      · rw [List.mem_singleton.mp otherNew] at same secondFlag
        exact absurd firstFlag (unflagged old secondFlag same)
    · rw [List.mem_singleton.mp new] at same firstFlag ⊢
      rcases List.mem_append.mp secondMember with otherOld | otherNew
      · exact absurd secondFlag (unflagged otherOld firstFlag same.symm)
      · rw [List.mem_singleton.mp otherNew]

theorem withUnflagged (one : OneDefault registry) (now : Time) {rows : List IdentityRow}
    (owners : ∀ row ∈ rows, row.userID ≤ registry.drawn)
    (fresh : ∀ row ∈ rows, ∀ other ∈ registry.identities, other.print ≠ row.print)
    (distinct : (rows.map IdentityRow.print).Nodup) (plain : ∀ row ∈ rows, row.isDefault = false) :
    OneDefault (rows.foldl (fun registry row => registry.withIdentity now row) registry) := by
  induction rows generalizing registry with
  | nil => exact one
  | cons row rest ih =>
    rw [List.map_cons, List.nodup_cons] at distinct
    have unflagged : row.isDefault = false := plain row List.mem_cons_self
    refine ih ?_ ?_ ?_ distinct.2 ?_
    · refine one.withIdentity now (owners row List.mem_cons_self) (fresh row List.mem_cons_self) ?_
      rw [unflagged]
      exact nofun
    · exact fun other member => Nat.le_succ_of_le (owners other (List.mem_cons_of_mem row member))
    · intro later member other otherMember same
      rcases List.mem_append.mp otherMember with old | new
      · exact fresh later (List.mem_cons_of_mem row member) other old same
      · rw [List.mem_singleton.mp new] at same
        exact distinct.1 (List.mem_map.mpr ⟨later, member, same.symm⟩)
    · exact fun other member => plain other (List.mem_cons_of_mem row member)

end OneDefault

theorem mem_withIdentities {now : Time} {rows : List IdentityRow} {stored : IdentityRow}
    (member : stored ∈
      (rows.foldl (fun registry row => registry.withIdentity now row) registry).identities) :
    stored ∈ registry.identities ∨ registry.drawn < stored.id := by
  induction rows generalizing registry with
  | nil => exact .inl member
  | cons row rest ih =>
    rcases ih member with before | later
    · rcases List.mem_append.mp before with old | new
      · exact .inl old
      · rw [List.mem_singleton.mp new]
        exact .inr (Nat.lt_succ_self _)
    · exact .inr (Nat.lt_of_succ_lt later)

theorem drawn_withIdentities {now : Time} (rows : List IdentityRow) :
    registry.drawn ≤
      (rows.foldl (fun registry row => registry.withIdentity now row) registry).drawn := by
  induction rows generalizing registry with
  | nil => exact Nat.le_refl _
  | cons row rest ih =>
    exact Nat.le_of_succ_le (@ih (registry.withIdentity now row))

end Registry

end ElvishMail.Mailmeta
