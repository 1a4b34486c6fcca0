import ElvishMail.Httpserver.Entitlement
import ElvishMail.Httpserver.Reservations

/-!
# Names that are held back

A purge that succeeds has reserved every address and domain of its user, and every request
by which a user gets an address or a domain asks for a reservation before it writes. So
nobody gets one of these names until the reservations end (`purge_withholds`). An
administrator's deletion reserves nothing.
-/

namespace ElvishMail.Httpserver.Reservations

open Go Smtp Mailmeta Mailstore Mailops Semantics

section Reading

variable {lib : Library}

theorem normalizeEmail_normalizeEmail (settles : lib.Settles) (spares : lib.SparesSpaces)
    (email : GoString) : normalizeEmail lib (normalizeEmail lib email) = normalizeEmail lib email := by
  rw [normalizeEmail, normalizeEmail, trimSpace_toLower spares, toLower_toLower settles]

theorem normalizeEmail_trimLower (settles : lib.Settles) (spares : lib.SparesSpaces) {text : GoString}
    (low : toLower lib text = text) :
    normalizeEmail lib (trimLower lib text) = normalizeEmail lib text := by
  have same : trimLower lib text = normalizeEmail lib text := by
    rw [trimLower, normalizeEmail]
    conv_rhs => rw [← low]
    exact (toLower_trimSpace settles text).symm
  rw [same, normalizeEmail_normalizeEmail settles spares]

theorem toLower_trimLower (settles : lib.Settles) (text : GoString) :
    toLower lib (trimLower lib text) = trimLower lib text := by
  rw [trimLower, toLower_trimSpace settles]

theorem dot_word (letter : Char) : ∀ unit ∈ Js.utf8Code.word letter, (unit == 0x2E) = (letter == '.') := by
  intro unit member
  have value : unit.toNat ∈ Js.scalarBytes letter.toNat := by
    rw [← Js.encodeRune_toNat]
    exact List.mem_map_of_mem member
  have dot : letter = '.' ↔ letter.toNat = 46 := Char.toNat_inj.symm
  have byte : unit = 0x2E ↔ unit.toNat = 46 := UInt8.toNat_inj.symm
  rw [Bool.eq_iff_iff, beq_iff_eq, beq_iff_eq, dot, byte]
  unfold Js.scalarBytes at value
  split_ifs at value <;> simp at value <;> omega

theorem toLower_trimDots (settles : lib.Settles) {text : GoString} (low : toLower lib text = text) :
    toLower lib (trimDots text) = trimDots text := by
  obtain ⟨letters, spelt, small⟩ := exists_toLower settles text
  rw [low] at spelt
  have trims : trimDots text = Js.utf8 ((letters.dropWhile (· == '.')).rdropWhile (· == '.')) := by
    rw [spelt, trimDots, Coding.dropWhile_encode dot_word]
    exact Coding.rdropWhile_encode dot_word
  rw [trims]
  refine toLower_utf8_self fun letter member => small letter ?_
  exact (List.dropWhile_sublist _).subset ((List.rdropWhile_prefix _ _).subset member)

theorem normalizeEmail_domain (settles : lib.Settles) (spares : lib.SparesSpaces) {raw domain : GoString}
    (accepted : normalizeDNSDomain lib raw = .ok domain) :
    normalizeEmail lib (trimLower lib domain) = normalizeEmail lib domain := by
  refine normalizeEmail_trimLower settles spares ?_
  unfold normalizeDNSDomain at accepted
  dsimp only at accepted
  split at accepted
  · cases accepted
  · split at accepted
    · cases accepted
    · cases accepted
      exact toLower_trimDots settles (toLower_trimLower settles raw)

theorem lower_username {raw name : GoString} (valid : normalizeAndValidateUsername lib raw = some name) :
    ∀ byte ∈ name, byte.toNat < 0x80 ∧ lowerByte byte = byte := by
  unfold normalizeAndValidateUsername at valid
  dsimp only at valid
  split at valid
  · cases valid
  next fine =>
    cases valid
    simp only [not_or, Bool.not_eq_false] at fine
    have every : ∀ value : Nat, value < 256 → isUsernameByte value.toUInt8 = true →
        value.toUInt8.toNat < 0x80 ∧ lowerByte value.toUInt8 = value.toUInt8 := by
      decide +kernel
    intro byte member
    have known := every byte.toNat byte.toNat_lt
    simpa [List.all_eq_true.mp fine.2.2.2.1 byte member] using known

theorem normalizeEmail_primary (settles : lib.Settles) (spares : lib.SparesSpaces)
    {raw name domain : GoString} (valid : normalizeAndValidateUsername lib raw = some name) :
    normalizeEmail lib (trimLower lib (composeCanonicalEmail lib name domain)) =
      normalizeEmail lib (composeCanonicalEmail lib name domain) := by
  refine normalizeEmail_trimLower settles spares ?_
  have plain : ∀ byte ∈ name ++ ascii "@", byte.toNat < 0x80 ∧ lowerByte byte = byte := by
    intro byte member
    rcases List.mem_append.mp member with inName | sign
    · exact lower_username valid byte inName
    · cases List.mem_singleton.mp sign
      decide
  have same : (name ++ ascii "@").map lowerByte = name ++ ascii "@" :=
    (List.map_congr_left fun byte member => (plain byte member).2).trans (List.map_id _)
  rw [composeCanonicalEmail, toLower_ascii lib _ _ fun byte member => (plain byte member).1, same,
    toLower_trimLower settles]

end Reading

section Listed

variable {lib : Library} {registry : Registry} {userID : Nat} {name : GoString}

theorem mem_firsts {rows : List DeletedAddressReservation} :
    (∃ row ∈ firsts rows, row.address = name) ↔ ∃ row ∈ rows, row.address = name := by
  have general (seen : List DeletedAddressReservation) :
      (∃ row ∈ rows.foldl (fun seen row =>
          if seen.any (·.address == row.address) then seen else seen ++ [row]) seen, row.address = name) ↔
        (∃ row ∈ seen, row.address = name) ∨ ∃ row ∈ rows, row.address = name := by
    induction rows generalizing seen with
    | nil => simp
    | cons first rest ih =>
      rw [List.foldl_cons, ih, List.exists_mem_cons_iff, ← or_assoc]
      refine or_congr_left ?_
      split
      next present =>
        obtain ⟨other, member, same⟩ := List.any_eq_true.mp present
        have same : other.address = first.address := by simpa using same
        exact ⟨.inl, fun either => either.elim id fun is => ⟨other, member, same.trans is⟩⟩
      next absent => simp [or_and_right, exists_or]
  exact (general []).trans (or_iff_right (by simp))

theorem mem_named {kind : GoString} {addresses : List GoString} :
    (∃ row ∈ (addresses.map fun address =>
        (⟨normalizeEmail lib address, kind⟩ : DeletedAddressReservation)).filter (·.address ≠ []),
      row.address = name) ↔ name ≠ [] ∧ ∃ address ∈ addresses, normalizeEmail lib address = name := by
  constructor
  · rintro ⟨row, member, rfl⟩
    obtain ⟨listed, filled⟩ := List.mem_filter.mp member
    obtain ⟨address, given, rfl⟩ := List.mem_map.mp listed
    exact ⟨by simpa using filled, address, given, rfl⟩
  · rintro ⟨filled, address, given, rfl⟩
    exact ⟨_, List.mem_filter.mpr ⟨List.mem_map.mpr ⟨address, given, rfl⟩, by simpa using filled⟩, rfl⟩

theorem mem_listed :
    (∃ row ∈ listUserOwnedAddresses lib registry userID ++ listUserOwnedDomains lib registry userID,
        row.address = name) ↔ Holds lib registry userID name := by
  unfold listUserOwnedAddresses listUserOwnedDomains
  simp only [List.mem_append, or_and_right, exists_or]
  rw [mem_firsts]
  simp only [List.mem_append, or_and_right, exists_or]
  rw [mem_named, mem_named, mem_named, mem_named, ← and_or_left, ← and_or_left, ← and_or_left]
  simp [Holds, and_assoc, or_assoc]

end Listed

section Writing

variable {lib : Library} {before after : Registry} {name : GoString}

/-- Whoever holds the name afterwards held it before. -/
structure Older (lib : Library) (name : GoString) (before after : Registry) : Prop where
  users : ∀ row ∈ after.users, normalizeEmail lib row.email = name → row ∈ before.users
  identities : ∀ row ∈ after.identities, normalizeEmail lib row.email = name →
    ∃ old ∈ before.identities, old.userID = row.userID ∧ old.email = row.email
  aliases : ∀ row ∈ after.aliases, row ∈ before.aliases
  domains : ∀ row ∈ after.domains, normalizeEmail lib row.domain = name →
    ∃ old ∈ before.domains, (∀ user, row.ownerUserID = some user → old.ownerUserID = some user) ∧
      old.domain = row.domain

theorem Older.refl (registry : Registry) : Older lib name registry registry where
  users _ member _ := member
  identities row member _ := ⟨row, member, rfl, rfl⟩
  aliases _ member := member
  domains row member _ := ⟨row, member, fun _ => id, rfl⟩

theorem Older.holds (older : Older lib name before after) {user : Nat}
    (held : Holds lib after user name) : Holds lib before user name := by
  refine ⟨held.1, ?_⟩
  rcases held.2 with ⟨row, member, own, named⟩ | ⟨row, member, own, named⟩ | ⟨row, member, own, named⟩ |
    ⟨row, member, own, named⟩
  · exact .inl ⟨row, older.users row member named, own, named⟩
  · obtain ⟨old, there, same, spelt⟩ := older.identities row member named
    exact .inr (.inl ⟨old, there, same.trans own, spelt ▸ named⟩)
  · exact .inr (.inr (.inl ⟨row, older.aliases row member, own, named⟩))
  · obtain ⟨old, there, same, spelt⟩ := older.domains row member named
    exact .inr (.inr (.inr ⟨old, there, same user own, spelt ▸ named⟩))

theorem Older.updateDomains {change : DomainRow → DomainRow}
    (keeps : ∀ row, (change row).domain = row.domain)
    (owner : ∀ row, (change row).ownerUserID = row.ownerUserID) :
    Older lib name before (before.updateDomains change keeps) :=
  { Older.refl before with
    domains := by
      intro row member _
      obtain ⟨old, there, rfl⟩ := List.mem_map.mp member
      exact ⟨old, there, fun _ own => (owner old).symm.trans own, (keeps old).symm⟩ }

theorem Older.updateOwned {userID : Nat} {domain : GoString} {change : DomainRow → DomainRow}
    (keeps : ∀ row, (change row).domain = row.domain)
    (owner : ∀ row, (change row).ownerUserID = row.ownerUserID) :
    Older lib name before (before.updateOwned userID domain change keeps) :=
  .updateDomains _ fun row => by split <;> simp [owner]

theorem Older.updateIdentities {change : IdentityRow → IdentityRow}
    (keeps : ∀ row, (change row).userID = row.userID ∧ (change row).email = row.email) :
    Older lib name before (before.updateIdentities change) :=
  { Older.refl before with
    identities := by
      intro row member _
      obtain ⟨old, there, rfl⟩ := List.mem_map.mp member
      exact ⟨old, there, (keeps old).1.symm, (keeps old).2.symm⟩ }

theorem Older.withoutDomain {userID : Nat} {domain : GoString} :
    Older lib name before (before.withoutDomain userID domain) :=
  { Older.refl before with
    domains := fun row member _ => ⟨row, (List.mem_filter.mp member).1, fun _ => id, rfl⟩ }

theorem Older.withoutUser {userID : Nat} : Older lib name before (before.withoutUser userID) where
  users row member _ := (List.mem_filter.mp member).1
  identities row member _ := ⟨row, (List.mem_filter.mp member).1, rfl, rfl⟩
  aliases row member := (List.mem_filter.mp member).1
  domains row member _ := by
    obtain ⟨old, there, rfl⟩ := List.mem_map.mp member
    refine ⟨old, there, fun user own => ?_, ?_⟩
    · split at own
      · cases own
      · exact own
    · split <;> rfl

theorem Older.withIdentity {now : Time} {row : IdentityRow} (other : normalizeEmail lib row.email ≠ name) :
    Older lib name before (before.withIdentity now row) :=
  { Older.refl before with
    identities := by
      intro stored member named
      rcases List.mem_append.mp member with old | new
      · exact ⟨stored, old, rfl, rfl⟩
      · cases List.mem_singleton.mp new
        exact absurd named other }

theorem Older.trans {middle : Registry} (first : Older lib name before middle)
    (second : Older lib name middle after) : Older lib name before after where
  users row member named := first.users row (second.users row member named) named
  identities row member named := by
    obtain ⟨old, there, same, spelt⟩ := second.identities row member named
    obtain ⟨older, stood, alike, written⟩ := first.identities old there (spelt ▸ named)
    exact ⟨older, stood, alike.trans same, written.trans spelt⟩
  aliases row member := first.aliases row (second.aliases row member)
  domains row member named := by
    obtain ⟨old, there, same, spelt⟩ := second.domains row member named
    obtain ⟨older, stood, alike, written⟩ := first.domains old there (spelt ▸ named)
    exact ⟨older, stood, fun user own => alike user (same user own), written.trans spelt⟩

theorem Older.withAccount {now : Time} {userID : Nat} {rows : List IdentityRow}
    (others : ∀ row ∈ rows, normalizeEmail lib row.email ≠ name) :
    Older lib name before (before.withAccount now userID rows) := by
  have general (keyed : Registry) : Older lib name keyed
      (rows.foldl (fun registry row => registry.withIdentity now row) keyed) := by
    induction rows generalizing keyed with
    | nil => exact .refl keyed
    | cons row rest ih =>
      obtain ⟨first, later⟩ := List.forall_mem_cons.mp others
      exact (Older.withIdentity first).trans (ih later _)
  have keyed : Older lib name before { before with accountKeys := before.accountKeys ++ [userID] } :=
    { Older.refl before with }
  exact keyed.trans (general _)

theorem Older.withDomain {row : DomainRow} (other : normalizeEmail lib row.domain ≠ name) :
    Older lib name before (before.withDomain row) := by
  unfold Registry.withDomain
  split
  · exact .refl before
  · exact
      { Older.refl before with
        domains := by
          intro stored member named
          rcases List.mem_append.mp member with old | new
          · exact ⟨stored, old, fun _ => id, rfl⟩
          · cases List.mem_singleton.mp new
            exact absurd named other }

end Writing

section Purging

variable {site : EstateSite} {estate : Estate} {userID : Nat}

theorem owners_withoutDomain {registry : Registry} {domain : GoString} :
    owners (registry.withoutDomain userID domain) = (owners registry).filter (· != (userID, domain)) := by
  show List.filterMap _ (registry.domains.filter _) = List.filter _ (List.filterMap _ registry.domains)
  induction registry.domains with
  | nil => rfl
  | cons row rest ih =>
    rw [List.filter_cons]
    cases owner : row.ownerUserID with
    | none => simpa [owner] using ih
    | some other =>
      by_cases same : row.domain = domain ∧ other = userID
      · simpa [owner, same.1, same.2] using ih
      · have differs : ((other, row.domain) != (userID, domain)) = true := by
          simpa [and_comm] using same
        have kept : (!(row.domain == domain && some other == some userID)) = true := by
          simpa [imp_iff_not_or, not_and_or] using same
        rw [if_pos kept]
        simpa [owner, differs] using ih

theorem owners_withoutUser {registry : Registry} :
    owners (registry.withoutUser userID) = (owners registry).filter (·.1 != userID) := by
  show List.filterMap _ (registry.domains.map _) = List.filter _ (List.filterMap _ registry.domains)
  induction registry.domains with
  | nil => rfl
  | cons row rest ih =>
    cases owner : row.ownerUserID with
    | none => simpa [owner] using ih
    | some other =>
      by_cases same : other = userID
      · simpa [owner, same] using ih
      · simpa [owner, same] using ih

theorem premises_purge {instant : Instant} {statement : PurgeStatement} :
    (EstateQuery.answer site instant (.purge userID statement) estate).2.premises =
      (statement.answer userID instant.outcome estate.premises).2 := by
  have parts : owners (EstateQuery.answer site instant (.purge userID statement) estate).2.registry =
        (statement.answer userID instant.outcome estate.premises).2.domains ∧
      (EstateQuery.answer site instant (.purge userID statement) estate).2.registry.users.map UserRow.id =
        (statement.answer userID instant.outcome estate.premises).2.users := by
    cases statement with
    | deleteOwnedDomain domain =>
      rw [PurgeStatement.answer, PurgeStatement.remove_snd]
      simp only [EstateQuery.answer, EstateQuery.onRegistry]
      cases instant.outcome.applied with
      | false => exact ⟨rfl, rfl⟩
      | true => exact ⟨owners_withoutDomain, rfl⟩
    | deleteUser =>
      rw [PurgeStatement.answer, PurgeStatement.remove_snd]
      simp only [EstateQuery.answer, EstateQuery.onRegistry]
      cases instant.outcome.applied with
      | false => exact ⟨rfl, rfl⟩
      | true =>
        rw [if_pos rfl, if_pos rfl]
        have kept : (estate.registry.users.filter (·.id != userID)).map UserRow.id =
            (estate.registry.users.map UserRow.id).filter (· != userID) := by
          rw [List.filter_map]
          rfl
        exact ⟨owners_withoutUser, kept⟩
    | deleteBlob key =>
      rw [PurgeStatement.answer, PurgeStatement.remove_snd]
      simp only [EstateQuery.answer, EstateQuery.onRegistry, ite_self]
      cases instant.outcome.applied <;> exact ⟨rfl, rfl⟩
    | _ =>
      simp only [EstateQuery.answer, EstateQuery.onRegistry, ite_self, PurgeStatement.answer, Outcome.exec]
      cases instant.outcome.applied <;> exact ⟨rfl, rfl⟩
  obtain ⟨domains, users⟩ := parts
  unfold Estate.premises
  rw [domains, users]
  rfl

theorem runPurge_performs {program : PurgeStatements (Option GoError)} {change : Premises → Premises}
    (performs : program.Performs (PurgeStatement.answer userID) change) :
    (runPurge userID program).Ensures (EstateQuery.answer site) estate fun err after =>
      err = none → after.premises = change estate.premises := by
  refine Program.Ensures.handle (fun statement whole wanted ensured => ?_) (performs estate.premises)
  intro instant
  show wanted _ (EstateQuery.answer site instant (.purge userID statement) whole).2.premises
  rw [premises_purge]
  exact ensured instant.outcome

/-- The statement is one of a purge of mail. -/
def Purges : EstateQuery → Prop
  | .purge .. => True
  | _ => False

theorem runPurge_only {program : PurgeStatements (Option GoError)} :
    (runPurge userID program).Only Purges :=
  Program.handle_only program fun _ => ⟨trivial, fun _ => trivial⟩

theorem purge_answer {instant : Instant} {query : EstateQuery} (purges : Purges query) :
    (query.answer site instant estate).2.reservations = estate.reservations ∧
      ∀ name, Older site.lib name estate.registry (query.answer site instant estate).2.registry := by
  cases query with
  | purge user statement =>
    refine ⟨rfl, fun name => ?_⟩
    simp only [EstateQuery.answer]
    split
    · cases statement with
      | deleteOwnedDomain domain => exact .withoutDomain
      | deleteUser => exact .withoutUser
      | _ => exact .refl _
    · exact .refl _
  | _ => exact purges.elim

end Purging

section Reserving

variable {site : EstateSite} {estate : Estate} {userID : Nat} {name : GoString} {ended now : Time}

/-- The name is reserved until `ended` at least. -/
def Reserved (site : EstateSite) (ended : Time) (estate : Estate) (name : GoString) : Prop :=
  ∃ row, estate.reservations (site.hash name) = some row ∧ ended ≤ row.expiresAt

theorem reserve_reservations {row : DeletedAddressReservation}
    (filled : normalizeEmail site.lib row.address ≠ []) :
    (estate.reserve site now row).reservations (site.hash (normalizeEmail site.lib row.address)) =
      some ⟨trimSpace row.addressKind, now, Estate.reservedUntil now⟩ := by
  rw [Estate.reserve, if_neg filled]
  exact Function.update_self ..

theorem reserved_foldl {rows : List DeletedAddressReservation}
    (reserved : Reserved site ended estate name ∨ ∃ row ∈ rows,
      normalizeEmail site.lib row.address = name ∧ name ≠ [])
    (lasting : ∀ row ∈ rows, site.hash (normalizeEmail site.lib row.address) = site.hash name →
      ended ≤ Estate.reservedUntil now) :
    Reserved site ended (rows.foldl (fun estate row => estate.reserve site now row) estate) name := by
  induction rows generalizing estate with
  | nil => exact reserved.resolve_right (by simp)
  | cons first rest ih =>
    obtain ⟨here, later⟩ := List.forall_mem_cons.mp lasting
    refine ih ?_ later
    by_cases same : normalizeEmail site.lib first.address ≠ [] ∧
        site.hash (normalizeEmail site.lib first.address) = site.hash name
    · refine .inl ⟨⟨trimSpace first.addressKind, now, Estate.reservedUntil now⟩, ?_, here same.2⟩
      rw [← same.2]
      exact reserve_reservations same.1
    · have untouched : (estate.reserve site now first).reservations (site.hash name) =
          estate.reservations (site.hash name) := by
        unfold Estate.reserve
        split
        · rfl
        next filled => exact Function.update_of_ne (fun is => same ⟨filled, is.symm⟩) ..
      rcases reserved with ⟨row, found, long⟩ | ⟨row, member, named, filled⟩
      · exact .inl ⟨row, untouched.trans found, long⟩
      · rcases List.mem_cons.mp member with rfl | inRest
        · exact absurd ⟨named ▸ filled, congrArg site.hash named⟩ same
        · exact .inr ⟨row, inRest, named, filled⟩

theorem foldl_reserve_mail (rows : List DeletedAddressReservation) :
    (rows.foldl (fun estate row => Estate.reserve estate site now row) estate).premises = estate.premises ∧
      (rows.foldl (fun estate row => Estate.reserve estate site now row) estate).registry =
        estate.registry := by
  induction rows generalizing estate with
  | nil => exact ⟨rfl, rfl⟩
  | cons row rest ih =>
    have kept : (estate.reserve site now row).premises = estate.premises ∧
        (estate.reserve site now row).registry = estate.registry := by
      unfold Estate.reserve
      split <;> exact ⟨rfl, rfl⟩
    exact ⟨ih.1.trans kept.1, ih.2.trans kept.2⟩

theorem Holds.normal {registry : Registry} (settles : site.lib.Settles)
    (spares : site.lib.SparesSpaces) (held : Holds site.lib registry userID name) :
    normalizeEmail site.lib name = name := by
  rcases held.2 with ⟨row, -, -, rfl⟩ | ⟨row, -, -, rfl⟩ | ⟨row, -, -, rfl⟩ | ⟨row, -, -, rfl⟩
  all_goals exact normalizeEmail_normalizeEmail settles spares _

theorem reserving_ensures {rows : List DeletedAddressReservation}
    {folders : Except GoError (List GoString)} :
    ((reserveDeletedAddresses rows now).check (runPurge userID
      ((deleteUserProtectedLinks site.backends).check (purgeMail site.backends userID folders)))).Ensures
        (EstateQuery.answer site) estate fun err after => err = none →
      after.premises = purged site.backends userID folders estate.premises ∧
        (∀ name, Older site.lib name estate.registry after.registry) ∧
        ∀ name, (∃ row ∈ rows, normalizeEmail site.lib row.address = name ∧ name ≠ []) →
          Reserved site (Estate.reservedUntil now) after name := by
  have purges (middle : Estate) : (runPurge userID ((deleteUserProtectedLinks site.backends).check
      (purgeMail site.backends userID folders))).Ensures (EstateQuery.answer site) middle
        fun err after => err = none →
      after.premises = purged site.backends userID folders middle.premises ∧
        (∀ name, Older site.lib name middle.registry after.registry) ∧
        after.reservations = middle.reservations := by
    have performs := ((deleteUserProtectedLinks_performs site.backends userID).check
      (purgeMail_performs site.backends userID folders))
    have keeps : (runPurge userID ((deleteUserProtectedLinks site.backends).check
        (purgeMail site.backends userID folders))).Ensures (EstateQuery.answer site) middle
          fun _ after => (∀ name, Older site.lib name middle.registry after.registry) ∧
            after.reservations = middle.reservations := by
      refine runPurge_only.ensures (fun after : Estate =>
          (∀ name, Older site.lib name middle.registry after.registry) ∧
            after.reservations = middle.reservations) ?_ ⟨fun _ => .refl _, rfl⟩
      rintro instant query after asked ⟨older, same⟩
      obtain ⟨unchanged, fewer⟩ := @purge_answer site after instant _ asked
      exact ⟨fun name => (older name).trans (fewer name), unchanged.trans same⟩
    refine ((runPurge_performs performs).and keeps).weaken ?_
    rintro err after ⟨purged, kept⟩ none
    exact ⟨purged none, kept⟩
  unfold reserveDeletedAddresses Program.check
  rw [Program.ensures_bind]
  split
  next empty =>
    refine (purges estate).weaken fun err after ensured none => ?_
    obtain ⟨purged, older, -⟩ := ensured none
    refine ⟨purged, older, ?_⟩
    rintro name ⟨row, member, -⟩
    rw [List.length_eq_zero_iff.mp empty] at member
    cases member
  · intro instant
    cases reported : instant.outcome.error? with
    | some err =>
      simp only [EstateQuery.answer, Outcome.exec, reported]
      exact fun none => by cases none
    | none =>
      simp only [EstateQuery.answer, Outcome.exec, reported, Outcome.applied_of_error?_none reported,
        if_true]
      have reserved (name : GoString)
          (listed : ∃ row ∈ rows, normalizeEmail site.lib row.address = name ∧ name ≠ []) :
          Reserved site (Estate.reservedUntil now)
            (rows.foldl (fun estate row => estate.reserve site now row) estate) name :=
        reserved_foldl (.inr listed) fun _ _ _ => le_refl _
      have unmoved := @foldl_reserve_mail site estate now rows
      refine (purges _).weaken fun err after ensured none => ?_
      obtain ⟨purged, older, same⟩ := ensured none
      refine ⟨purged.trans (congrArg _ unmoved.1), unmoved.2 ▸ older, fun name listed => ?_⟩
      obtain ⟨row, found, long⟩ := reserved name listed
      exact ⟨row, (congrFun same _).trans found, long⟩

/-- A purge without an error reserves every name the user held. -/
theorem purge_reserves (settles : site.lib.Settles) (spares : site.lib.SparesSpaces)
    {folders : Except GoError (List GoString)} :
    (purgeUserAccount site userID folders now).Ensures (EstateQuery.answer site) estate
      fun err after => err = none →
        after.premises = purged site.backends userID folders estate.premises ∧
          (∀ name, Older site.lib name estate.registry after.registry) ∧
          ∀ name, Holds site.lib estate.registry userID name →
            Reserved site (Estate.reservedUntil now) after name := by
  intro instant
  rcases instant.outcome.read_cases (listUserOwnedAddresses site.lib estate.registry userID) with
    value | ⟨err, failed⟩
  · simp only [EstateQuery.answer, value]
    intro instant
    rcases instant.outcome.read_cases (listUserOwnedDomains site.lib estate.registry userID) with
      value | ⟨err, failed⟩
    · simp only [EstateQuery.answer, value]
      refine reserving_ensures.weaken fun err after ensured none => ?_
      obtain ⟨purged, older, reserved⟩ := ensured none
      refine ⟨purged, older, fun name held => reserved name ?_⟩
      obtain ⟨row, listed, rfl⟩ := mem_listed.mpr held
      exact ⟨row, listed, held.normal settles spares, held.1⟩
    · simp only [EstateQuery.answer, failed]
      exact nofun
  · simp only [EstateQuery.answer, failed]
    exact nofun

end Reserving

section Asking

variable {site : Site} {name : GoString}

/-- The check of the reservations does not call the name free. -/
def Tells (name : GoString) : (statement : RegistryStatement) → statement.Answer → Prop
  | .isDeletedAddressReserved address, reply => address = name → reply ≠ .ok false
  | _, _ => True

/-- The statement gives the name to nobody. -/
def Spares (lib : Library) (name : GoString) : RegistryStatement → Prop
  | .createUserWithSRP email => normalizeEmail lib email ≠ name
  | .write (.storeBootstrap _ rows) => ∀ row ∈ rows, normalizeEmail lib row.email ≠ name
  | .write (.insertIdentityKey row) => normalizeEmail lib row.email ≠ name
  | .write (.insertOwnedDomain row) => normalizeEmail lib row.domain ≠ name
  | _ => True

abbrev Withholds {Value : Type} (lib : Library) (name : GoString) (program : Registering Value)
    (wanted : Value → Prop) : Prop :=
  program.Under (Tells name) (Spares lib name) wanted

/-- The write gives no name to anybody. -/
def Idle : RegistryWrite → Prop
  | .storeBootstrap .. | .insertIdentityKey _ | .insertOwnedDomain _ => False
  | _ => True

theorem withholds_of_only {Value : Type} {lib : Library} {program : Registering Value}
    (only : program.Only (RegistryStatement.Writes Idle)) :
    Withholds lib name program fun _ => True := by
  refine only.under fun statement writes => ?_
  cases statement with
  | createUserWithSRP email => exact writes.elim
  | write effect => cases effect <;> first | exact trivial | exact writes.elim
  | _ => trivial

theorem isDeletedAddressReserved_withholds (filled : name ≠ []) (address : GoString) :
    Withholds site.lib name (isDeletedAddressReserved site address) fun reply =>
      reply = .ok false → normalizeEmail site.lib address ≠ name := by
  unfold isDeletedAddressReserved
  dsimp only
  split
  next empty => exact fun _ same => filled (same.symm.trans empty)
  · exact ⟨trivial, fun reply tells free same => tells same free⟩

theorem ensureBootstrapIdentitiesAvailable_withholds (filled : name ≠ []) (rows : List IdentityRow) :
    Withholds site.lib name (ensureBootstrapIdentitiesAvailable site rows) fun reply =>
      reply = .ok true → ∀ row ∈ rows, normalizeEmail site.lib row.email ≠ name := by
  induction rows with
  | nil => exact fun _ _ member => absurd member List.not_mem_nil
  | cons row rest ih =>
    unfold ensureBootstrapIdentitiesAvailable
    refine (isDeletedAddressReserved_withholds filled row.email).bind fun reserved free => ?_
    rcases reserved with err | _ | _
    · exact fun available => by cases available
    · exact ih.mono fun reply others available =>
        List.forall_mem_cons.mpr ⟨free rfl, others available⟩
    · exact fun available => by cases available

theorem storeParsedAccountBootstrap_withholds {userID : Nat} {rows : List IdentityRow}
    (free : ∀ row ∈ rows, normalizeEmail site.lib row.email ≠ name) :
    Withholds site.lib name (storeParsedAccountBootstrap site userID rows) fun _ => True := by
  refine ⟨fun row member => ?_, fun _ _ => trivial⟩
  obtain ⟨given, there, rfl⟩ := List.mem_map.mp member
  exact free given there

theorem apiAccountKeyBootstrap_withholds (filled : name ≠ []) (userID : Nat)
    (body : Option AccountKeyBootstrap) :
    Withholds site.lib name (apiAccountKeyBootstrap site userID body) fun _ => True := by
  cases body with
  | none => exact trivial
  | some body =>
    unfold apiAccountKeyBootstrap
    dsimp only
    split
    · exact trivial
    next fingerprint rows parsed =>
      refine (ensureBootstrapIdentitiesAvailable_withholds filled rows).bind fun reply free => ?_
      match reply with
      | .error err => exact trivial
      | .ok false => exact trivial
      | .ok true =>
        refine (storeParsedAccountBootstrap_withholds (free rfl)).bind fun err _ => ?_
        cases err <;> exact trivial

theorem finishRegister_withholds (filled : name ≠ []) (userID : Nat) (accountKey : AccountKeyBootstrap) :
    Withholds site.lib name (finishRegister site userID accountKey) fun _ => True := by
  have abandons (refusal : Refusal) :
      Withholds site.lib name (abandon userID refusal) fun _ => True := ⟨trivial, fun _ _ => trivial⟩
  unfold finishRegister
  split
  · exact abandons _
  next fingerprint rows parsed =>
    refine (ensureBootstrapIdentitiesAvailable_withholds filled rows).bind fun reply free => ?_
    match reply with
    | .error err => exact abandons _
    | .ok false => exact abandons _
    | .ok true =>
      refine (storeParsedAccountBootstrap_withholds (free rfl)).bind fun err _ => ?_
      cases err with
      | some err => exact abandons _
      | none => exact ⟨trivial, fun reply _ => by cases reply <;> exact trivial⟩

theorem apiRegister_withholds (settles : site.lib.Settles) (spares : site.lib.SparesSpaces)
    (filled : name ≠ []) (gate : Option Refusal) (body : Option RegBody) :
    Withholds site.lib name (apiRegister site gate body) fun _ => True := by
  unfold apiRegister
  split
  · exact trivial
  · exact trivial
  next body =>
  split
  · exact trivial
  next username accountKey checked =>
  have valid : normalizeAndValidateUsername site.lib body.username = some username := by
    unfold checkRegBody at checked
    split at checked
    · cases checked
    next name valid =>
      split at checked
      · cases checked
      · split at checked
        · cases checked
        · cases checked
          exact valid
  refine (isDeletedAddressReserved_withholds filled _).bind fun reserved free => ?_
  match reserved with
  | .error err => exact trivial
  | .ok true => exact trivial
  | .ok false =>
    dsimp only
    iterate 3
      split
      · exact trivial
    refine ⟨?_, fun reply _ => ?_⟩
    · exact (normalizeEmail_primary settles spares valid).trans_ne (free rfl)
    · rcases reply with (_ | _ | err) | userID
      · exact trivial
      · exact trivial
      · exact trivial
      · exact finishRegister_withholds filled userID accountKey

theorem userMayUseDomainForMailbox_only {lib : Library} {may : RegistryWrite → Prop} (userID : Nat)
    (domain : GoString) :
    (userMayUseDomainForMailbox lib userID domain).Only (RegistryStatement.Writes may) := by
  have shared (domain : GoString) : (sharedWith lib userID domain).Only (RegistryStatement.Writes may) := by
    refine ⟨trivial, fun reply => ?_⟩
    rcases reply with err | (_ | row)
    · exact trivial
    · exact trivial
    · dsimp only
      iterate 3
        split
        · first | exact trivial | exact ⟨trivial, fun _ => trivial⟩
      exact trivial
  have owns (domain : GoString) :
      (userOwnsActiveInboundDomain lib userID domain).Only (RegistryStatement.Writes may) := by
    unfold userOwnsActiveInboundDomain
    dsimp only
    split
    · exact trivial
    · exact ⟨trivial, fun reply => by cases reply <;> exact trivial⟩
  unfold userMayUseDomainForMailbox
  dsimp only
  split
  · exact trivial
  · refine (owns _).bind fun reply => ?_
    match reply with
    | .error err => exact trivial
    | .ok true => exact trivial
    | .ok false => exact shared _

theorem validateIdentityMailboxEmailForUser_only {may : RegistryWrite → Prop} (userID : Nat)
    (email : GoString) (expiresAt : Option Time) :
    (validateIdentityMailboxEmailForUser site userID email expiresAt).Only
      (RegistryStatement.Writes may) := by
  unfold validateIdentityMailboxEmailForUser
  dsimp only
  split
  · exact trivial
  · split
    · exact trivial
    · refine (userMayUseDomainForMailbox_only userID _).bind fun reply => ?_
      match reply with
      | .error err => exact trivial
      | .ok true => exact trivial
      | .ok false => exact trivial

theorem mailboxAddressGloballyTaken_only {lib : Library} {may : RegistryWrite → Prop} (userID : Nat)
    (email : GoString) :
    (mailboxAddressGloballyTaken lib userID email).Only (RegistryStatement.Writes may) := by
  unfold mailboxAddressGloballyTaken
  dsimp only
  split
  · exact trivial
  · refine ⟨trivial, fun reply => ?_⟩
    match reply with
    | .error err => exact trivial
    | .ok true => exact trivial
    | .ok false =>
      refine ⟨trivial, fun reply => ?_⟩
      match reply with
      | .error err => exact trivial
      | .ok true => exact trivial
      | .ok false => exact ⟨trivial, fun _ => trivial⟩

theorem apiIdentitiesPost_withholds (filled : name ≠ []) (userID : Nat) (body : Option IdentityPostBody) :
    Withholds site.lib name (apiIdentitiesPost site userID body) fun _ => True := by
  unfold apiIdentitiesPost
  split
  · exact trivial
  next body =>
  split
  · exact trivial
  dsimp only
  split
  · exact trivial
  next expiresAt parsed =>
  refine (withholds_of_only (validateIdentityMailboxEmailForUser_only ..)).bind fun refused _ => ?_
  cases refused with
  | some err => exact trivial
  | none =>
  refine (isDeletedAddressReserved_withholds filled _).bind fun reserved free => ?_
  match reserved with
  | .error err => exact trivial
  | .ok true => exact trivial
  | .ok false =>
  refine (withholds_of_only (mailboxAddressGloballyTaken_only ..)).bind fun taken _ => ?_
  match taken with
  | .error err => exact trivial
  | .ok true => exact trivial
  | .ok false =>
  show Withholds site.lib name (finishIdentitiesPost site userID _ expiresAt body) _
  unfold finishIdentitiesPost
  split
  · exact trivial
  next row posted =>
    have email : row.email = normalizeEmail site.lib body.email := (postedIdentity_ok posted).2.1
    refine ⟨?_, fun reply _ => by cases reply <;> exact trivial⟩
    show normalizeEmail site.lib row.email ≠ name
    rw [email]
    exact free rfl

end Asking

section AskingDomains

variable {site : DomainSite} {name : GoString}

theorem idle_of_keyWrite {domain : GoString} {effect : RegistryWrite}
    (keyWrite : KeyWrite site domain effect) : Idle effect := by
  cases effect <;> first | exact trivial | exact keyWrite.elim

theorem onSelected_only {userID : Nat} {selector : GoString} {change : GoString → RegistryWrite}
    {refuse : WriteError → Refusal} (idle : ∀ fingerprint, Idle (change fingerprint)) :
    (onSelected site.toSite userID selector change refuse).Only (RegistryStatement.Writes Idle) := by
  refine resolveIdentitySelector_only.bind fun resolved => ?_
  match resolved with
  | .error .notFound => exact trivial
  | .error (.failed err) => exact trivial
  | .ok fingerprint => exact ⟨idle fingerprint, fun _ => trivial⟩

theorem apiIdentityRevoke_only (userID : Nat) (selector : GoString) (certificate : Option GoString) :
    (apiIdentityRevoke site.toSite userID selector certificate).Only (RegistryStatement.Writes Idle) := by
  cases certificate with
  | none =>
    refine resolveIdentitySelector_only.bind fun resolved => ?_
    match resolved with
    | .error .notFound => exact trivial
    | .error (.failed err) => exact trivial
    | .ok fingerprint => exact trivial
  | some certificate =>
    refine resolveIdentitySelector_only.bind fun resolved => ?_
    match resolved with
    | .error .notFound => exact trivial
    | .error (.failed err) => exact trivial
    | .ok fingerprint =>
      dsimp only
      split
      · exact trivial
      · exact ⟨trivial, fun _ => trivial⟩

theorem insertDomain_withholds {label domain : GoString} {userID : Nat} {drawn : Drawn} {raw : GoString}
    (accepted : normalizeDNSDomain site.lib raw = .ok domain)
    (free : normalizeEmail site.lib (trimLower site.lib domain) ≠ name) :
    Withholds site.lib name (insertDomain site label userID domain drawn) fun _ => True := by
  have inserts (host value : GoString) :
      Withholds site.lib name (insertOwnedDomain site.lib userID domain host value) fun _ => True := by
    unfold insertOwnedDomain
    split
    · exact trivial
    next stored normal =>
      refine ⟨?_, fun _ _ => trivial⟩
      show normalizeEmail site.lib stored ≠ name
      rw [normalizeOwnedDomain_accepted accepted normal]
      exact free
  refine (inserts _ _).bind fun err _ => ?_
  match err with
  | some .duplicateKey => exact trivial
  | some .notFound => exact trivial
  | some (.failed err) => exact trivial
  | none =>
    refine (withholds_of_only (ensureCustomDomainDKIM_only fun _ => idle_of_keyWrite)).bind
      fun err _ => ?_
    cases err with
    | none => exact trivial
    | some err => exact ⟨trivial, fun _ _ => trivial⟩

theorem apiCustomDomainsAdd_withholds (settles : site.lib.Settles) (spares : site.lib.SparesSpaces)
    (filled : name ≠ []) (userID : Nat) (body : Option GoString) (drawn : Drawn) :
    Withholds site.lib name (apiCustomDomainsAdd site userID body drawn) fun _ => True := by
  unfold apiCustomDomainsAdd
  split
  · exact trivial
  split
  · exact trivial
  next domain accepted =>
    refine (isDeletedAddressReserved_withholds filled domain).bind fun reserved free => ?_
    match reserved with
    | .error err => exact trivial
    | .ok true => exact trivial
    | .ok false =>
      exact insertDomain_withholds accepted
        ((normalizeEmail_domain settles spares accepted).trans_ne (free rfl))

theorem apiAdminDomainsAdd_withholds (settles : site.lib.Settles) (spares : site.lib.SparesSpaces)
    (filled : name ≠ []) (body : Option AdminDomainAddBody) (drawn : Drawn) :
    Withholds site.lib name (apiAdminDomainsAdd site body drawn) fun _ => True := by
  unfold apiAdminDomainsAdd
  split
  · exact trivial
  split
  · exact trivial
  next domain accepted =>
    refine (isDeletedAddressReserved_withholds filled domain).bind fun reserved free => ?_
    match reserved with
    | .error err => exact trivial
    | .ok true => exact trivial
    | .ok false =>
      dsimp only
      split
      · exact trivial
      · refine ⟨trivial, fun found _ => ?_⟩
        match found with
        | .error err => exact trivial
        | .ok none => exact trivial
        | .ok (some owner) =>
          exact insertDomain_withholds accepted
            ((normalizeEmail_domain settles spares accepted).trans_ne (free rfl))

theorem DomainRequest.handle_withholds (settles : site.lib.Settles) (spares : site.lib.SparesSpaces)
    (filled : name ≠ []) (request : DomainRequest) :
    Withholds site.lib name (request.handle site) fun _ => True := by
  have named {path : GoString} {next : GoString → Registering (Option Refusal)}
      (onward : ∀ domain, (next domain).Only (RegistryStatement.Writes Idle)) :
      Withholds site.lib name (onNamed site path next) fun _ => True := by
    unfold onNamed
    split
    · exact trivial
    · exact withholds_of_only (onward _)
  have adminNamed {path : GoString} {next : GoString → Registering (Option Refusal)}
      (onward : ∀ domain, (next domain).Only (RegistryStatement.Writes Idle)) :
      Withholds site.lib name (onAdminNamed site path next) fun _ => True := by
    unfold onAdminNamed
    dsimp only
    split
    · exact trivial
    · exact withholds_of_only (onward _)
  cases request with
  | add userID body drawn =>
    exact (apiCustomDomainsAdd_withholds settles spares filled ..).bind fun _ _ => trivial
  | delete userID path =>
    exact named fun _ => deleteOwnedDomainFiles_only (fun _ => idle_of_keyWrite) trivial
  | verify userID path key checks =>
    exact named fun _ => apiCustomDomainsVerify_only (fun _ => idle_of_keyWrite) trivial
  | catchall userID path body =>
    exact named fun _ => apiCustomDomainsCatchall_only fun _ _ => trivial
  | adminAdd body drawn =>
    exact (apiAdminDomainsAdd_withholds settles spares filled ..).bind fun _ _ => trivial
  | adminDelete path =>
    exact adminNamed fun _ => withAdminDomain_only fun _ =>
      deleteOwnedDomainFiles_only (fun _ => idle_of_keyWrite) trivial
  | adminVerify path key checks =>
    show Withholds site.lib name
      (onAdminNamed site path fun path => apiAdminDomainsVerify site path key checks) _
    refine adminNamed fun _ => ?_
    exact withAdminDomain_only fun _ => verifyFound_only (fun _ => idle_of_keyWrite) trivial
  | adminSharing path body =>
    exact adminNamed fun _ =>
      apiAdminDomainsPatchSharing_only (fun _ _ => trivial) fun _ _ => trivial

/-- No request takes a name that its check calls reserved. -/
theorem SiteRequest.handle_withholds (settles : site.lib.Settles) (spares : site.lib.SparesSpaces)
    (filled : name ≠ []) (request : SiteRequest) :
    Withholds site.lib name (request.handle site) fun _ => True := by
  cases request with
  | domain request => exact DomainRequest.handle_withholds settles spares filled request
  | account request =>
    cases request with
    | register gate body =>
      exact (apiRegister_withholds settles spares filled gate body).bind fun _ _ => trivial
    | bootstrap userID body =>
      exact (apiAccountKeyBootstrap_withholds filled userID body).bind fun _ _ => trivial
    | post userID body => exact (apiIdentitiesPost_withholds filled userID body).bind fun _ _ => trivial
    | revoke userID selector certificate => exact withholds_of_only (apiIdentityRevoke_only ..)
    | delete userID selector => exact withholds_of_only (onSelected_only fun _ => trivial)
    | default userID selector => exact withholds_of_only (onSelected_only fun _ => trivial)

end AskingDomains

section Statements

variable {lib : Library} {before : Registry} {name : GoString}

theorem older_write {effect : RegistryWrite} {now : Time} (spares : Spares lib name (.write effect)) :
    Older lib name before (effect.apply now before) := by
  cases effect with
  | deleteUser userID => exact .withoutUser
  | storeBootstrap userID rows => exact .withAccount spares
  | insertIdentityKey row => exact .withIdentity spares
  | revokeIdentity userID fingerprint | setDefaultIdentity userID fingerprint =>
    exact .updateIdentities fun row => by split <;> exact ⟨rfl, rfl⟩
  | deleteIdentity userID fingerprint =>
    exact
      { Older.refl before with
        identities := fun row member _ => ⟨row, (List.mem_filter.mp member).1, rfl, rfl⟩ }
  | insertOwnedDomain row => exact .withDomain spares
  | deleteOwnedDomain userID domain => exact .withoutDomain
  | setOwnedDomainDKIM | setDomainCatchall | updateDomainVerification =>
    apply Older.updateOwned
    all_goals exact fun _ => rfl
  | setDomainShareMode domain mode =>
    apply Older.updateDomains
    all_goals
      intro row
      split <;> rfl
  | replaceDomainAllowlist | writeKeyFile | removeKeyFile => exact { Older.refl before with }

theorem older_statement {statement : RegistryStatement} {moment : Moment}
    (spares : Spares lib name statement) :
    Older lib name before (statement.answer lib moment before).2 := by
  cases statement with
  | write effect =>
    show Older lib name before (effect.attempt moment before).2
    rcases effect.attempt_cases moment before with same | ⟨-, done⟩
    · rw [same]
      exact .refl before
    · rw [done]
      exact older_write spares
  | createUserWithSRP email =>
    have created : Older lib name before (before.withUser email) :=
      { Older.refl before with
        users := by
          intro row member named
          rcases List.mem_append.mp member with old | new
          · exact old
          · cases List.mem_singleton.mp new
            exact absurd named spares }
    rcases RegistryStatement.createUserWithSRP_cases lib moment before email with
      ⟨err, next, same, rfl | rfl⟩ | same
    · rw [same]
      exact .refl _
    · rw [same]
      exact created
    · rw [same]
      exact created
  | _ => exact .refl before

end Statements

section Runs

variable {site : EstateSite} {ended : Time} {name : GoString} {start : Registry} {estate : Estate}

/-- A name is reserved, and nobody has it who did not have it at the start. -/
structure Withheld (site : EstateSite) (ended : Time) (name : GoString) (start : Registry)
    (estate : Estate) : Prop where
  reserved : Reserved site ended estate name
  older : Older site.lib name start estate.registry

/-- A reservation ends before another one, if they are for the same hash. -/
def Lasting (site : EstateSite) (ended : Time) (name : GoString)
    (rows : List DeletedAddressReservation) (now : Time) : Prop :=
  ∀ row ∈ rows, site.hash (normalizeEmail site.lib row.address) = site.hash name →
    ended ≤ Estate.reservedUntil now

theorem Withheld.tells (withheld : Withheld site ended name start estate) {instant : Instant}
    (early : instant.now < ended) (statement : RegistryStatement) :
    Tells name statement ((EstateQuery.registry statement).answer site instant estate).1 := by
  cases statement with
  | isDeletedAddressReserved address =>
    rintro rfl free
    obtain ⟨row, found, long⟩ := withheld.reserved
    have reserved : estate.isReserved site instant.now address = true := by
      rw [Estate.isReserved, found, Option.any_some, decide_eq_true_eq]
      exact lt_of_lt_of_le early long
    have read : instant.outcome.read (estate.isReserved site instant.now address) = .ok false := free
    rw [reserved] at read
    rcases instant.outcome.read_cases true with value | ⟨err, failed⟩
    · cases value.symm.trans read
    · cases failed.symm.trans read
  | _ => trivial

def OfRequest (lib : Library) (name : GoString) : EstateQuery → Prop
  | .registry statement => Spares lib name statement
  | _ => False

def Answered (name : GoString) : (query : EstateQuery) → query.Answer → Prop
  | .registry statement, reply => Tells name statement reply
  | _, _ => True

theorem Withheld.request (settles : site.lib.Settles) (spares : site.lib.SparesSpaces)
    (filled : name ≠ []) (withheld : Withheld site ended name start estate) (request : SiteRequest)
    {instants : Nat → Instant} (early : ∀ index, (instants index).now < ended) :
    Withheld site ended name start
      ((runRequest site request).run (EstateQuery.answer site) instants estate).2 := by
  have asks : (runRequest site request).Under (Answered name) (OfRequest site.lib name) fun _ => True :=
    (SiteRequest.handle_withholds settles spares filled request).handle fun statement spared =>
      ⟨spared, fun _ tells => tells⟩
  have tells (instant : Instant) (query : EstateQuery) (estate : Estate) (early : instant.now < ended)
      (withheld : Withheld site ended name start estate) :
      Answered name query (query.answer site instant estate).1 := by
    cases query with
    | registry statement => exact withheld.tells early statement
    | _ => trivial
  have keeps (instant : Instant) (query : EstateQuery) (estate : Estate) (_ : instant.now < ended)
      (spared : OfRequest site.lib name query) (withheld : Withheld site ended name start estate) :
      Withheld site ended name start (query.answer site instant estate).2 := by
    cases query with
    | registry statement => exact ⟨withheld.reserved, withheld.older.trans (older_statement spared)⟩
    | _ => exact spared.elim
  exact (asks.run (Withheld site ended name start) tells keeps early withheld).2

def OfPurge (site : EstateSite) (ended : Time) (name : GoString) (now : Time) : EstateQuery → Prop
  | .reserveDeletedAddresses rows time => time = now ∧ Lasting site ended name rows now
  | .registry _ => False
  | _ => True

def Lists (site : EstateSite) (ended : Time) (name : GoString) (userID : Nat) (now : Time) :
    (query : EstateQuery) → query.Answer → Prop
  | .listUserOwnedAddresses user, reply | .listUserOwnedDomains user, reply =>
    user = userID → ∀ rows, reply = .ok rows → Lasting site ended name rows now
  | _, _ => True

theorem purge_under {now : Time} {userID : Nat} {folders : Except GoError (List GoString)} :
    (purgeUserAccount site userID folders now).Under (Lists site ended name userID now)
      (OfPurge site ended name now) fun _ => True := by
  refine ⟨trivial, fun reply lasting => ?_⟩
  cases reply with
  | error err => exact trivial
  | ok addresses =>
    refine ⟨trivial, fun reply others => ?_⟩
    cases reply with
    | error err => exact trivial
    | ok domains =>
      have reserves : (reserveDeletedAddresses (addresses ++ domains) now).Under
          (Lists site ended name userID now) (OfPurge site ended name now) fun _ => True := by
        unfold reserveDeletedAddresses
        split
        · exact trivial
        · refine ⟨⟨rfl, fun row member => ?_⟩, fun _ _ => trivial⟩
          exact (List.mem_append.mp member).elim (lasting rfl _ rfl row) (others rfl _ rfl row)
      refine reserves.bind fun err _ => ?_
      cases err with
      | some err => exact trivial
      | none =>
        refine runPurge_only.under fun query purges => ?_
        cases query with
        | purge => trivial
        | _ => exact purges.elim

theorem lasting_of_held (settles : site.lib.Settles) (spares : site.lib.SparesSpaces) {userID : Nat}
    {now : Time} {outcome : Outcome GoError} {listed rows : List DeletedAddressReservation}
    (lasting : ∀ other, Holds site.lib estate.registry userID other → site.hash other = site.hash name →
      ended ≤ Estate.reservedUntil now)
    (held : ∀ row ∈ listed, Holds site.lib estate.registry userID row.address)
    (read : outcome.read listed = .ok rows) : Lasting site ended name rows now := by
  rcases outcome.read_cases listed with value | ⟨err, failed⟩
  · cases value.symm.trans read
    intro row member same
    have holds := held row member
    rw [holds.normal settles spares] at same
    exact lasting row.address holds same
  · cases failed.symm.trans read

theorem Withheld.purge (settles : site.lib.Settles) (spares : site.lib.SparesSpaces)
    (withheld : Withheld site ended name start estate) {userID : Nat}
    {folders : Except GoError (List GoString)} {now : Time} {instants : Nat → Instant}
    (lasting : ∀ other, Holds site.lib estate.registry userID other → site.hash other = site.hash name →
      ended ≤ Estate.reservedUntil now) :
    Withheld site ended name start
      ((purgeUserAccount site userID folders now).run (EstateQuery.answer site) instants estate).2 := by
  -- on the way the user holds ever fewer names
  have lists (instant : Instant) (query : EstateQuery) (middle : Estate) (_ : True)
      (kept : Withheld site ended name start middle ∧
        ∀ other, Older site.lib other estate.registry middle.registry) :
      Lists site ended name userID now query (query.answer site instant middle).1 := by
    have still : ∀ other, Holds site.lib middle.registry userID other → site.hash other = site.hash name →
        ended ≤ Estate.reservedUntil now :=
      fun other held => lasting other ((kept.2 other).holds held)
    cases query with
    | listUserOwnedAddresses user =>
      rintro rfl rows read
      exact lasting_of_held settles spares still
        (fun row member => mem_listed.mp ⟨row, List.mem_append_left _ member, rfl⟩) read
    | listUserOwnedDomains user =>
      rintro rfl rows read
      exact lasting_of_held settles spares still
        (fun row member => mem_listed.mp ⟨row, List.mem_append_right _ member, rfl⟩) read
    | _ => trivial
  have keeps (instant : Instant) (query : EstateQuery) (middle : Estate) (_ : True)
      (asked : OfPurge site ended name now query)
      (kept : Withheld site ended name start middle ∧
        ∀ other, Older site.lib other estate.registry middle.registry) :
      Withheld site ended name start (query.answer site instant middle).2 ∧
        ∀ other, Older site.lib other estate.registry (query.answer site instant middle).2.registry := by
    cases query with
    | registry statement => exact asked.elim
    | listUserOwnedAddresses user => exact kept
    | listUserOwnedDomains user => exact kept
    | purge user statement =>
      have purges : Purges (.purge user statement) := trivial
      obtain ⟨same, older⟩ := @purge_answer site middle instant _ purges
      refine ⟨⟨?_, kept.1.older.trans (older name)⟩, fun other => (kept.2 other).trans (older other)⟩
      obtain ⟨row, found, long⟩ := kept.1.reserved
      exact ⟨row, (congrFun same _).trans found, long⟩
    | reserveDeletedAddresses rows time =>
      obtain ⟨rfl, lasts⟩ := asked
      simp only [EstateQuery.answer, Outcome.exec]
      split
      · obtain ⟨-, registry⟩ := @foldl_reserve_mail site middle time rows
        rw [registry]
        exact ⟨⟨reserved_foldl (.inl kept.1.reserved) lasts, registry ▸ kept.1.older⟩, kept.2⟩
      · exact kept
  exact (purge_under.run (fun middle : Estate => Withheld site ended name start middle ∧
    ∀ other, Older site.lib other estate.registry middle.registry) lists keeps (fun _ => trivial)
    ⟨withheld, fun _ => .refl _⟩).2.1

theorem apiAdminUsersDelete_only (gate : Option Refusal) (adminID : Nat) (userID : Option Nat) :
    (apiAdminUsersDelete site gate adminID userID).Only Purges := by
  unfold apiAdminUsersDelete
  split
  · trivial
  · trivial
  split
  · trivial
  refine ⟨trivial, fun reply => ?_⟩
  rcases reply with _ | (_ | err)
  · dsimp only
    split
    · exact ⟨trivial, fun _ => trivial⟩
    · trivial
  · trivial
  · trivial

theorem apiAdminUsersDelete_ensures (gate : Option Refusal) (adminID : Nat) (userID : Option Nat) :
    (apiAdminUsersDelete site gate adminID userID).Ensures (EstateQuery.answer site) estate fun _ after =>
      after.reservations = estate.reservations ∧
        ∀ name, Older site.lib name estate.registry after.registry := by
  refine (apiAdminUsersDelete_only gate adminID userID).ensures (fun after : Estate =>
    after.reservations = estate.reservations ∧
      ∀ name, Older site.lib name estate.registry after.registry) ?_ ⟨rfl, fun _ => .refl _⟩
  rintro instant query middle purges ⟨same, older⟩
  obtain ⟨unchanged, fewer⟩ := @purge_answer site middle instant _ purges
  exact ⟨unchanged.trans same, fun name => (older name).trans (fewer name)⟩

/-- An event is within a period in which these names are reserved: the time has not passed it,
and no purge reserves one of them anew for a shorter time. -/
def Within (site : EstateSite) (ended : Time) (names : GoString → Prop) (estate : Estate) : Event → Prop
  | .request _ instants => ∀ index, (instants index).now < ended
  | .purge userID _ now _ => ∀ name, names name → ∀ other, Holds site.lib estate.registry userID other →
      site.hash other = site.hash name → ended ≤ Estate.reservedUntil now
  | .deleteExpired now _ => now < ended
  | _ => True

/-- Requests, purges, deletions, sweeps and mail leave the name withheld. -/
theorem Withheld.step (settles : site.lib.Settles) (spares : site.lib.SparesSpaces)
    {names : GoString → Prop} (named : names name) (filled : name ≠ [])
    (withheld : Withheld site ended name start estate) {event : Event} {next : Estate}
    (within : Within site ended names estate event)
    (taken : (estates site).step estate event = some next) : Withheld site ended name start next := by
  cases event with
  | request request instants =>
    cases taken
    exact withheld.request settles spares filled request within
  | purge userID folders now instants =>
    cases taken
    exact withheld.purge settles spares (within name named)
  | adminDelete gate adminID userID instants =>
    cases taken
    obtain ⟨same, older⟩ := (@apiAdminUsersDelete_ensures site estate gate adminID userID).run instants
    obtain ⟨row, found, long⟩ := withheld.reserved
    exact ⟨⟨row, (congrFun same _).trans found, long⟩, withheld.older.trans (older name)⟩
  | deleteExpired now outcome =>
    cases taken
    refine Outcome.exec_holds (Withheld site ended name start) outcome withheld ?_
    obtain ⟨row, found, long⟩ := withheld.reserved
    refine ⟨⟨row, ?_, long⟩, withheld.older⟩
    have lasts : now < row.expiresAt := lt_of_lt_of_le within long
    simp [deleteExpired, found, lasts]
  | mail premises =>
    cases taken
    exact ⟨withheld.reserved, withheld.older⟩

theorem Withheld.runs (settles : site.lib.Settles) (spares : site.lib.SparesSpaces)
    {names : GoString → Prop} (named : names name) (filled : name ≠ [])
    (withheld : Withheld site ended name start estate) {reached : Estate}
    (runs : (estates site).Runs (Within site ended names) estate reached) :
    Withheld site ended name start reached :=
  runs.invariant (Withheld site ended name start) withheld fun inv within taken =>
    inv.step settles spares named filled within taken

/-- After a purge that reports no error, nothing of the user is left exactly if it found
everything; and until the end of the reservations, nobody gets one of the names that the user
held, in whatever state has been reached and whatever happens then. -/
theorem purge_withholds (settles : site.lib.Settles) (spares : site.lib.SparesSpaces)
    {begun after reached next : Estate} {userID : Nat} {folders : Except GoError (List GoString)}
    {now : Time} {instants : Nat → Instant} {event : Event}
    (purges : (purgeUserAccount site userID folders now).run (EstateQuery.answer site) instants begun =
      (none, after))
    (runs : (estates site).Runs
      (Within site (Estate.reservedUntil now) (Holds site.lib begun.registry userID)) after reached)
    (within : Within site (Estate.reservedUntil now) (Holds site.lib begun.registry userID) reached event)
    (taken : (estates site).step reached event = some next) :
    (Clean userID begun.premises after.premises ↔
      Covered site.backends userID folders begun.premises) ∧
    ∀ name user, Holds site.lib begun.registry userID name → Holds site.lib next.registry user name →
      Holds site.lib reached.registry user name := by
  have ensured := (@purge_reserves site begun userID now settles spares folders).run instants
  rw [purges] at ensured
  obtain ⟨left, older, reserved⟩ := ensured rfl
  refine ⟨?_, fun name user held gets => ?_⟩
  · rw [show after.premises = _ from left]
    exact clean_iff ..
  · have withheld : Withheld site (Estate.reservedUntil now) name after.registry after :=
      ⟨reserved name held, .refl _⟩
    have still := withheld.runs settles spares held held.1 runs
    have fresh : Withheld site (Estate.reservedUntil now) name reached.registry reached :=
      ⟨still.reserved, .refl _⟩
    exact (fresh.step settles spares held held.1 within taken).older.holds gets

end Runs

/-- The sample with all stores, where the hash of an address is the address. -/
def EstateSite.sample : EstateSite := { DomainSite.sample with backends := allBackends, hash := id }

def aliceEstate : Estate where
  registry := aliceOnly
  tables := receivedPremises.tables
  outbox := []
  links := []
  keyed := receivedPremises.keyed
  reservations _ := none

def takesName : Event :=
  .request (.account (registration "alice" "alice@elvish.local" "B1")) fun _ => ⟨.done, 1 + day⟩

def purgedEstate : Estate :=
  ((purgeUserAccount .sample 1 (.ok []) 1).run (EstateQuery.answer .sample) (fun _ => ⟨.done, 1⟩)
    aliceEstate).2

theorem purge_withholds_alice :
    Clean 1 aliceEstate.premises purgedEstate.premises ∧
      ∃ next, (estates .sample).step purgedEstate takesName = some next ∧
        ∀ user, Holds .plain next.registry user (ascii "alice@elvish.local") →
          Holds .plain purgedEstate.registry user (ascii "alice@elvish.local") := by
  have held : Holds .plain aliceEstate.registry 1 (ascii "alice@elvish.local") := by decide +kernel
  have purges : ((purgeUserAccount .sample 1 (.ok []) 1).run (EstateQuery.answer .sample)
      (fun _ => ⟨.done, 1⟩) aliceEstate) = (none, purgedEstate) :=
    Prod.ext (by decide +kernel) rfl
  have early : 1 + day < Estate.reservedUntil 1 := by decide
  obtain ⟨clean, withheld⟩ := @purge_withholds .sample plain_settles plain_sparesSpaces aliceEstate
    purgedEstate purgedEstate _ 1 (.ok []) 1 _ takesName purges .refl (fun _ => early) rfl
  refine ⟨clean.mpr ?_, _, rfl, fun user => withheld _ user held⟩
  exact
    { blobs := by decide
      manifests := by decide
      mailbox := by decide
      rest := nofun }

def deletedEstate : Estate :=
  ((apiAdminUsersDelete .sample none 2 (some 1)).run (EstateQuery.answer .sample) (fun _ => ⟨.done, 1⟩)
    aliceEstate).2

/-- Nothing is reserved and her message stays; a day later, somebody else has her address. -/
theorem admin_delete_frees :
    ((apiAdminUsersDelete .sample none 2 (some 1)).run (EstateQuery.answer .sample)
        (fun _ => ⟨.done, 1⟩) aliceEstate).1 = none ∧
      Holds .plain aliceEstate.registry 1 (ascii "alice@elvish.local") ∧
      ¬Clean 1 aliceEstate.premises deletedEstate.premises ∧
      (deletedEstate.reservations (ascii "alice@elvish.local")).isNone ∧
      ∃ next, (estates .sample).step deletedEstate takesName = some next ∧
        Holds .plain next.registry 3 (ascii "alice@elvish.local") ∧
        ¬Holds .plain deletedEstate.registry 3 (ascii "alice@elvish.local") := by
  refine ⟨by decide +kernel, by decide +kernel, fun clean => ?_, by decide +kernel, _, rfl,
    by decide +kernel, by decide +kernel⟩
  exact absurd clean.manifests (by decide +kernel)

end ElvishMail.Httpserver.Reservations
