import ElvishMail.Go.Encoding
import ElvishMail.Mailmeta.Domains

/-!
# The domains a user may pick

`ListUsableDomainsForUser` offers the domains that `UserMayUseDomainForMailbox` admits. The rule is
written twice: for the domains of others the database decides, with its own `lower` and `btrim`.
-/

namespace ElvishMail.Mailmeta

open Go

/-- The `Source` of a domain. -/
inductive DomainSource where
  | owned
  | shared
deriving DecidableEq

structure UsableMailboxDomain where
  domain : GoString
  source : DomainSource
deriving DecidableEq

/-- `btrim` of one argument, which CockroachDB computes by `strings.TrimSpace`. -/
def btrim (text : GoString) : GoString := trimSpace text

def DomainRow.offered (lib : Library) (row : DomainRow) (listed : Bool) : Bool :=
  row.mxVerified && toLower lib (btrim row.status) == ascii "active" &&
    (row.shareMode == shareModeAllVerifiedUsers || row.shareMode == shareModeAllowlist && listed)

/-- The loop over the rows of the second query, where `out` has the domains seen so far. -/
def addShared (out : List UsableMailboxDomain) : List GoString → List UsableMailboxDomain
  | [] => out
  | domain :: rest =>
    if out.any (·.domain == domain) then addShared out rest
    else addShared (out ++ [⟨domain, .shared⟩]) rest

namespace Registry

variable (lib : Library) (registry : Registry) (userID : Nat)

/-- The domains of the first query that are ready for mail. -/
def ownedUsable : List GoString :=
  (registry.domains.filter fun row => row.ownerUserID == some userID && row.inbound lib).map
    DomainRow.domain

def sharedUsable : List GoString :=
  (registry.domains.filter fun row =>
    row.offered lib (registry.allowlist.contains (row.domain, userID)) &&
      row.ownerUserID != some userID).map DomainRow.domain

/-- `ListUsableDomainsForUser` where no query fails, with rows in the order of the table. -/
def listUsableDomainsForUser : List UsableMailboxDomain :=
  addShared ((registry.ownedUsable lib userID).map (⟨·, .owned⟩)) (registry.sharedUsable lib userID)

/-- What the constraint of the table and its only insertion keep: a name is normalized, and a share
mode is one of the three. -/
structure Constrained : Prop where
  named : ∀ row ∈ registry.domains, WellNamed row.domain
  modes : ∀ row ∈ registry.domains,
    row.shareMode ∈ [shareModeOwnerOnly, shareModeAllVerifiedUsers, shareModeAllowlist]

/-- A list has exactly the domains that a user may use, under the names domains are stored by, each
once, and marked as owned where the user owns them. -/
structure ListsUsable (list : List UsableMailboxDomain) : Prop where
  once : (list.map UsableMailboxDomain.domain).Nodup
  sound : ∀ entry ∈ list, registry.userMayUseDomainForMailbox lib userID entry.domain = true
  complete : ∀ domain, trimLower lib domain = domain →
    registry.userMayUseDomainForMailbox lib userID domain = true → ∃ entry ∈ list, entry.domain = domain
  marked : ∀ entry ∈ list,
    entry.source = .owned ↔ (registry.ownedDomain? userID entry.domain).isSome = true

end Registry

section Texts

variable {lib : Library} {text : GoString}

theorem trimLower_mode {mode : GoString}
    (stored : mode ∈ [shareModeOwnerOnly, shareModeAllVerifiedUsers, shareModeAllowlist]) :
    trimLower lib mode = mode := by
  have token : ∀ mode ∈ [shareModeOwnerOnly, shareModeAllVerifiedUsers, shareModeAllowlist],
      (∀ byte ∈ mode, isTokenByte byte = true) ∧ mode.map lowerByte = mode := by decide +kernel
  obtain ⟨bytes, low⟩ := token mode stored
  rw [trimLower, toLower_token lib bytes, low, trimSpace_token bytes]

end Texts

theorem map_domain (source : DomainSource) (domains : List GoString) :
    (domains.map (⟨·, source⟩)).map UsableMailboxDomain.domain = domains := by
  rw [List.map_map]
  exact List.map_id domains

theorem addShared_eq {out : List UsableMailboxDomain} {domains : List GoString}
    (once : (out.map UsableMailboxDomain.domain ++ domains).Nodup) :
    addShared out domains = out ++ domains.map (⟨·, .shared⟩) := by
  induction domains generalizing out with
  | nil => simp [addShared]
  | cons domain rest ih =>
    have fresh : ∀ entry ∈ out, entry.domain ≠ domain := by
      intro entry member same
      exact List.disjoint_of_nodup_append once (List.mem_map_of_mem member) (by simp [same])
    have unseen : ¬out.any (·.domain == domain) = true := by simpa using fresh
    rw [addShared, if_neg unseen, ih (by simpa using once)]
    simp

namespace Registry

variable {lib : Library} {registry : Registry} {userID : Nat} {domain : GoString}

theorem row_unique {row other : DomainRow} (member : row ∈ registry.domains)
    (second : other ∈ registry.domains) (same : row.domain = other.domain) : row = other := by
  have found := domain?_of_mem member
  rw [same, domain?_of_mem second] at found
  exact (Option.some.inj found).symm

theorem mem_ownedUsable : domain ∈ registry.ownedUsable lib userID ↔ ∃ row ∈ registry.domains,
    row.domain = domain ∧ row.ownerUserID = some userID ∧ row.inbound lib = true := by
  simp only [ownedUsable, List.mem_map, List.mem_filter, Bool.and_eq_true, beq_iff_eq]
  grind

theorem mem_sharedUsable : domain ∈ registry.sharedUsable lib userID ↔ ∃ row ∈ registry.domains,
    row.domain = domain ∧ row.ownerUserID ≠ some userID ∧
      row.offered lib (registry.allowlist.contains (row.domain, userID)) = true := by
  simp only [sharedUsable, List.mem_map, List.mem_filter, Bool.and_eq_true, bne_iff_ne]
  grind

theorem nodup_usable :
    (registry.ownedUsable lib userID ++ registry.sharedUsable lib userID).Nodup := by
  refine List.nodup_append.mpr ⟨registry.distinct.sublist (List.filter_sublist.map _),
    registry.distinct.sublist (List.filter_sublist.map _), fun domain own other shared same => ?_⟩
  obtain ⟨row, member, rfl, owner, -⟩ := mem_ownedUsable.mp own
  obtain ⟨second, secondMember, named, stranger, -⟩ := mem_sharedUsable.mp shared
  rw [row_unique member secondMember (same.trans named.symm)] at owner
  exact stranger owner

theorem listUsableDomainsForUser_eq :
    registry.listUsableDomainsForUser lib userID =
      (registry.ownedUsable lib userID).map (⟨·, .owned⟩) ++
        (registry.sharedUsable lib userID).map (⟨·, .shared⟩) := by
  refine addShared_eq ?_
  rw [map_domain]
  exact nodup_usable

theorem mayUse_row (kept : registry.Constrained) {row : DomainRow} (member : row ∈ registry.domains) :
    registry.userMayUseDomainForMailbox lib userID row.domain =
      (row.inbound lib && (row.ownerUserID == some userID ||
        row.shares lib (registry.allowlist.contains (row.domain, userID)))) := by
  have normal : trimLower lib row.domain = row.domain := trimLower_domain (kept.named row member).plain
  have filled : row.domain ≠ [] := by
    intro empty
    have dotted := (kept.named row member).dotted
    rw [empty] at dotted
    cases dotted
  have named : (row.domain != []) = true := by simpa using filled
  rw [userMayUseDomainForMailbox_of_normal (by rw [normal, normal]), normal, admits,
    domain?_of_mem member, named]
  rfl

theorem exists_row (normal : trimLower lib domain = domain)
    (may : registry.userMayUseDomainForMailbox lib userID domain = true) :
    ∃ row ∈ registry.domains, row.domain = domain := by
  rw [userMayUseDomainForMailbox_of_normal (by rw [normal, normal]), normal, admits] at may
  cases found : registry.domain? domain with
  | none => simp [found] at may
  | some row => exact ⟨row, mem_of_domain? found⟩

theorem offered_eq (keeps : lib.KeepsSpaces) (kept : registry.Constrained) {row : DomainRow}
    (member : row ∈ registry.domains) (listed : Bool) :
    row.offered lib listed = (row.inbound lib && row.shares lib listed) := by
  have differs : shareModeAllVerifiedUsers ≠ shareModeAllowlist := by decide
  unfold DomainRow.offered DomainRow.inbound DomainRow.shares
  rw [trimLower_mode (kept.modes row member), trimLower, trimSpace_lowered keeps, btrim]
  grind

theorem ownedDomain?_isSome :
    (registry.ownedDomain? userID domain).isSome = true ↔ ∃ row ∈ registry.domains,
      row.domain = domain ∧ row.ownerUserID = some userID := by
  simp [ownedDomain?]

/-- The list is right for every user, whatever is stored. -/
theorem usable_listed (keeps : lib.KeepsSpaces) (kept : registry.Constrained) :
    registry.ListsUsable lib userID (registry.listUsableDomainsForUser lib userID) := by
  rw [listUsableDomainsForUser_eq]
  refine ⟨?_, fun entry listed => ?_, fun domain normal may => ?_, fun entry listed => ?_⟩
  · rw [List.map_append, map_domain, map_domain]
    exact nodup_usable
  · rcases List.mem_append.mp listed with own | shared
    · obtain ⟨domain, found, rfl⟩ := List.mem_map.mp own
      obtain ⟨row, member, rfl, owner, inbound⟩ := mem_ownedUsable.mp found
      rw [mayUse_row kept member, inbound, owner]
      simp
    · obtain ⟨domain, found, rfl⟩ := List.mem_map.mp shared
      obtain ⟨row, member, rfl, -, offered⟩ := mem_sharedUsable.mp found
      obtain ⟨inbound, shares⟩ := Bool.and_eq_true_iff.mp
        ((offered_eq keeps kept member _).symm.trans offered)
      rw [mayUse_row kept member, shares, inbound]
      simp
  · obtain ⟨row, member, rfl⟩ := exists_row normal may
    rw [mayUse_row kept member] at may
    obtain ⟨inbound, admitted⟩ := Bool.and_eq_true_iff.mp may
    by_cases owner : row.ownerUserID = some userID
    · exact ⟨⟨row.domain, .owned⟩, List.mem_append_left _ (List.mem_map_of_mem
        (mem_ownedUsable.mpr ⟨row, member, rfl, owner, inbound⟩)), rfl⟩
    · have shares : row.shares lib (registry.allowlist.contains (row.domain, userID)) = true := by
        simpa [owner] using admitted
      have offered := (offered_eq keeps kept member _).trans (Bool.and_eq_true_iff.mpr ⟨inbound, shares⟩)
      exact ⟨⟨row.domain, .shared⟩, List.mem_append_right _ (List.mem_map_of_mem
        (mem_sharedUsable.mpr ⟨row, member, rfl, owner, offered⟩)), rfl⟩
  · rw [ownedDomain?_isSome]
    rcases List.mem_append.mp listed with own | shared
    · obtain ⟨domain, found, rfl⟩ := List.mem_map.mp own
      obtain ⟨row, member, named, owner, -⟩ := mem_ownedUsable.mp found
      exact iff_of_true rfl ⟨row, member, named, owner⟩
    · obtain ⟨domain, found, rfl⟩ := List.mem_map.mp shared
      refine iff_of_false nofun ?_
      rintro ⟨row, member, named, owner⟩
      obtain ⟨other, second, same, stranger, -⟩ := mem_sharedUsable.mp found
      rw [row_unique second member (same.trans named.symm)] at stranger
      exact stranger owner

def sharedDomain (status : GoString) : DomainRow where
  domain := ascii "a.b"
  ownerUserID := none
  status
  mxVerified := true
  verificationTXTHost := []
  verificationTXTValue := []
  shareMode := shareModeAllVerifiedUsers

def sharedRegistry (status : GoString) : Registry :=
  { Registry.empty with
    domains := [sharedDomain status]
    distinct := List.nodup_singleton _ }

theorem sharedRegistry_constrained (status : GoString) : (sharedRegistry status).Constrained := by
  have named : WellNamed (ascii "a.b") := ⟨by decide, by decide, by decide⟩
  constructor
  · intro row member
    rw [List.mem_singleton.mp member]
    exact named
  · intro row member
    rw [List.mem_singleton.mp member]
    exact List.mem_cons_of_mem _ List.mem_cons_self

/-- A shared domain with white space of every kind around its status is listed. -/
theorem usable_listed_shared :
    (sharedRegistry (ascii "\t Active\n")).ListsUsable .plain 1
      ((sharedRegistry (ascii "\t Active\n")).listUsableDomainsForUser .plain 1) ∧
    (sharedRegistry (ascii "\t Active\n")).listUsableDomainsForUser .plain 1 =
      [⟨ascii "a.b", .shared⟩] :=
  ⟨usable_listed plain_keepsSpaces (sharedRegistry_constrained _), by decide⟩

end Registry

end ElvishMail.Mailmeta
