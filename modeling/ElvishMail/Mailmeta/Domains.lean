import ElvishMail.Go.Case
import ElvishMail.Go.Fields
import ElvishMail.Mailmeta.Registry

/-!
# Custom domains in the tables

`internal/mailmeta/smtp_domains.go`: who may have a mailbox at a domain, and how the rows
of domains are written.
-/

namespace ElvishMail.Mailmeta

open Go Smtp Semantics

/-- `strings.TrimSpace(strings.ToLower(text))`. It is not computed while a program is looked
at. -/
@[irreducible]
def trimLower (lib : Library) (text : GoString) : GoString := trimSpace (toLower lib text)

/-- `strings.Trim(text, ".")`. -/
def trimDots (text : GoString) : GoString :=
  ((text.dropWhile (· == 0x2E)).reverse.dropWhile (· == 0x2E)).reverse

def isLabelByte (byte : UInt8) : Bool := inRange 97 122 byte || inRange 48 57 byte || byte == 0x2D

/-- What both checks of a domain ask of each part between two dots. -/
def validLabel (part : GoString) : Bool :=
  part != [] && decide (part.length ≤ 63) && part.head? != some 0x2D &&
    part.getLast? != some 0x2D && part.all isLabelByte

def normalizeOwnedDomain (lib : Library) (domain : GoString) : Except GoError GoString :=
  let domain := trimDots (trimLower lib domain)
  if domain = [] ∨ domain.length > 253 ∨ domain.contains 0x2E = false ∨
      (domain.splitOnP (· == 0x2E)).all validLabel = false then
    .error (.plain (ascii "mailmeta: invalid domain"))
  else .ok domain

def isDomainByte (byte : UInt8) : Bool := isLabelByte byte || byte == 0x2E

section Names

variable {lib : Library} {text domain : GoString}

theorem isDomainByte_solid {byte : UInt8} (plain : isDomainByte byte = true) :
    byte.toNat < 0x80 ∧ isSpace byte.toNat = false ∧ lowerByte byte = byte ∧ byte ≠ 0x40 := by
  have every : ∀ value : Nat, value < 256 → isDomainByte value.toUInt8 = true →
      value.toUInt8.toNat < 0x80 ∧ isSpace value.toUInt8.toNat = false ∧
        lowerByte value.toUInt8 = value.toUInt8 ∧ value.toUInt8 ≠ 0x40 := by
    decide +kernel
  have known := every byte.toNat byte.toNat_lt
  simpa [plain] using known

theorem trimLower_domain (plain : text.all isDomainByte = true) : trimLower lib text = text := by
  have solid : ∀ byte ∈ text, byte.toNat < 0x80 ∧ isSpace byte.toNat = false ∧
      lowerByte byte = byte ∧ byte ≠ 0x40 :=
    fun byte member => isDomainByte_solid (List.all_eq_true.mp plain byte member)
  have lowered := toLower_ascii lib text [] fun byte member => (solid byte member).1
  have same : text.map lowerByte = text :=
    (List.map_congr_left fun byte member => (solid byte member).2.2.1).trans (List.map_id text)
  rw [List.append_nil, toLower_nil, List.append_nil, same] at lowered
  rw [trimLower, lowered]
  exact trimSpace_solid fun byte member => ⟨(solid byte member).1, (solid byte member).2.1⟩

theorem trimLower_trimLower (settles : lib.Settles) (text : GoString) :
    trimLower lib (trimLower lib text) = trimLower lib text := by
  rw [trimLower, trimLower, toLower_trimSpace settles, trimSpace_trimSpace]

theorem trimDots_labels (labels : (text.splitOnP (· == 0x2E)).all validLabel = true) :
    trimDots text = text := by
  have none : ([] : GoString) ∉ text.splitOnP (· == 0x2E) := by
    intro member
    exact absurd (List.all_eq_true.mp labels _ member) (by decide)
  have front : text.dropWhile (· == 0x2E) = text := by
    cases text with
    | nil => rfl
    | cons byte rest =>
      refine List.dropWhile_cons_of_neg fun dot => none ?_
      rw [List.splitOnP_cons_eq_if_modifyHead, if_pos dot]
      exact List.mem_cons_self
  have back : text.reverse.dropWhile (· == 0x2E) = text.reverse := by
    cases backwards : text.reverse with
    | nil => rfl
    | cons byte rest =>
      refine List.dropWhile_cons_of_neg fun dot => none ?_
      rw [← List.reverse_reverse text, backwards, List.reverse_cons,
        @List.splitOnP_append_cons _ (· == 0x2E) _ _ _ dot]
      exact List.mem_append_right _ List.mem_cons_self
  rw [trimDots, front, back, List.reverse_reverse]

theorem isDomainByte_labels (labels : (text.splitOnP (· == 0x2E)).all validLabel = true) :
    text.all isDomainByte = true := by
  rw [List.all_eq_true]
  intro byte member
  cases dot : byte == 0x2E with
  | true => rw [isDomainByte, dot, Bool.or_true]
  | false =>
    obtain ⟨part, partMember, byteMember⟩ :=
      @exists_splitOnP _ (· == 0x2E) _ _ member dot
    have valid := List.all_eq_true.mp labels part partMember
    unfold validLabel at valid
    simp only [Bool.and_eq_true] at valid
    rw [isDomainByte, List.all_eq_true.mp valid.2 byte byteMember, Bool.true_or]

/-- A name as it is stored: labels with dots between them. -/
structure WellNamed (domain : GoString) : Prop where
  labels : (domain.splitOnP (· == 0x2E)).all validLabel = true
  short : domain.length ≤ 253
  dotted : domain.contains 0x2E = true

theorem WellNamed.plain (named : WellNamed domain) : domain.all isDomainByte = true :=
  isDomainByte_labels named.labels

theorem normalizeOwnedDomain_ok (stored : normalizeOwnedDomain lib domain = .ok text) :
    text = trimDots (trimLower lib domain) ∧ WellNamed text := by
  unfold normalizeOwnedDomain at stored
  dsimp only at stored
  split at stored
  · cases stored
  next valid =>
    cases stored
    simp only [not_or, Bool.not_eq_false, not_lt] at valid
    exact ⟨rfl, valid.2.2.2, valid.2.1, valid.2.2.1⟩

end Names

/-- Share modes: `ShareModeOwnerOnly`, `ShareModeAllVerifiedUsers`, `ShareModeAllowlist`. -/
def shareModeOwnerOnly : GoString := ascii "owner_only"

@[inherit_doc shareModeOwnerOnly]
def shareModeAllVerifiedUsers : GoString := ascii "all_verified_users"

@[inherit_doc shareModeOwnerOnly]
def shareModeAllowlist : GoString := ascii "allowlist"

def validShareMode (lib : Library) (mode : GoString) : Bool :=
  [shareModeOwnerOnly, shareModeAllVerifiedUsers, shareModeAllowlist].contains (trimLower lib mode)

/-- Whether mail for a domain comes in: it is active, and its MX record was seen. -/
def DomainRow.inbound (lib : Library) (row : DomainRow) : Bool :=
  row.mxVerified && trimLower lib row.status == ascii "active"

/-- Whether users that do not own a domain may have a mailbox there. -/
def DomainRow.shares (lib : Library) (row : DomainRow) (listed : Bool) : Bool :=
  let mode := trimLower lib row.shareMode
  if mode = shareModeAllVerifiedUsers then true
  else if mode = shareModeAllowlist then listed
  else false

namespace Registry

variable (lib : Library) (registry : Registry)

/-- `UserOwnsActiveInboundDomain` where no query fails. -/
def userOwnsActiveInboundDomain (userID : Nat) (domain : GoString) : Bool :=
  let domain := trimLower lib domain
  if domain = [] then false
  else (registry.ownedDomain? userID domain).any (DomainRow.inbound lib)

/-- `UserMayUseDomainForMailbox` where no query fails. -/
def userMayUseDomainForMailbox (userID : Nat) (domain : GoString) : Bool :=
  let domain := trimLower lib domain
  if domain = [] then false
  else registry.userOwnsActiveInboundDomain lib userID domain ||
    (registry.domain? domain).any fun row =>
      row.inbound lib && row.shares lib (registry.allowlist.contains (domain, userID))

/-- Whether the row of a domain lets a user have mailboxes there. -/
def admits (userID : Nat) (domain : GoString) : Bool :=
  (registry.domain? domain).any fun row =>
    row.inbound lib && (row.ownerUserID == some userID ||
      row.shares lib (registry.allowlist.contains (domain, userID)))

variable {lib registry} {userID : Nat} {domain : GoString} {row : DomainRow}

theorem domain?_of_mem (member : row ∈ registry.domains) : registry.domain? row.domain = some row := by
  have apart := registry.distinct
  unfold domain?
  generalize registry.domains = rows at member apart
  induction rows with
  | nil => exact absurd member List.not_mem_nil
  | cons first rest ih =>
    rw [List.map_cons, List.nodup_cons] at apart
    rcases List.mem_cons.mp member with rfl | later
    · exact List.find?_cons_of_pos (by simp)
    · have other : first.domain ≠ row.domain := fun same =>
        apart.1 (same ▸ List.mem_map_of_mem later)
      rw [List.find?_cons_of_neg (by simpa using other)]
      exact ih later apart.2

theorem mem_of_domain? (found : registry.domain? domain = some row) :
    row ∈ registry.domains ∧ row.domain = domain :=
  ⟨List.mem_of_find?_eq_some found, by simpa using List.find?_some found⟩

theorem ownedDomain?_eq :
    registry.ownedDomain? userID domain =
      (registry.domain? domain).filter fun row => row.ownerUserID == some userID := by
  cases found : registry.domain? domain with
  | none =>
    have absent : ∀ row ∈ registry.domains, row.domain ≠ domain := by
      simpa [domain?] using found
    simpa [ownedDomain?] using fun row member same => absurd same (absent row member)
  | some row =>
    obtain ⟨member, rfl⟩ := mem_of_domain? found
    cases owned : registry.ownedDomain? userID row.domain with
    | none =>
      have others : ∀ other ∈ registry.domains, other.domain = row.domain →
          ¬other.ownerUserID = some userID := by
        simpa [ownedDomain?] using owned
      rw [Option.filter_some, if_neg (by simpa using others row member rfl)]
    | some other =>
      have chosen : other.domain = row.domain ∧ other.ownerUserID = some userID := by
        simpa using List.find?_some owned
      have same : registry.domain? other.domain = some other :=
        domain?_of_mem (List.mem_of_find?_eq_some owned)
      rw [chosen.1, found] at same
      cases same
      rw [Option.filter_some, if_pos (by simpa using chosen.2)]

theorem userMayUseDomainForMailbox_of_normal
    (normal : trimLower lib (trimLower lib domain) = trimLower lib domain) :
    registry.userMayUseDomainForMailbox lib userID domain =
      (trimLower lib domain != [] && registry.admits lib userID (trimLower lib domain)) := by
  unfold userMayUseDomainForMailbox userOwnsActiveInboundDomain admits
  dsimp only
  rw [normal, ownedDomain?_eq]
  split
  next empty => simp [empty]
  next named =>
    have filled : (trimLower lib domain != []) = true := by simpa using named
    rw [filled, Bool.true_and]
    cases registry.domain? (trimLower lib domain) with
    | none => rfl
    | some row =>
      have owns : (Option.filter (fun row => row.ownerUserID == some userID) (some row)).any
          (DomainRow.inbound lib) = (row.inbound lib && row.ownerUserID == some userID) := by
        rw [Option.filter_some]
        cases row.ownerUserID == some userID with
        | true => simp
        | false => simp
      rw [owns, Option.any_some, Option.any_some, Bool.and_or_distrib_left]

theorem userMayUseDomainForMailbox_eq (settles : lib.Settles) :
    registry.userMayUseDomainForMailbox lib userID domain =
      (trimLower lib domain != [] && registry.admits lib userID (trimLower lib domain)) :=
  userMayUseDomainForMailbox_of_normal (trimLower_trimLower settles domain)

/-! ### Writes -/

theorem domain?_updateDomains {change : DomainRow → DomainRow}
    (keeps : ∀ row, (change row).domain = row.domain) :
    (registry.updateDomains change keeps).domain? domain = (registry.domain? domain).map change := by
  unfold domain? updateDomains
  rw [List.find?_map]
  congr 2
  funext row
  simp [keeps]

theorem admits_updateDomains {change : DomainRow → DomainRow}
    (keeps : ∀ row, (change row).domain = row.domain)
    (better : ∀ row listed, row.domain = domain →
      (row.inbound lib && (row.ownerUserID == some userID || row.shares lib listed)) = true →
      ((change row).inbound lib &&
        ((change row).ownerUserID == some userID || (change row).shares lib listed)) = true)
    (admits : registry.admits lib userID domain = true) :
    (registry.updateDomains change keeps).admits lib userID domain = true := by
  unfold Registry.admits at admits ⊢
  rw [domain?_updateDomains]
  cases found : registry.domain? domain with
  | none =>
    rw [found] at admits
    cases admits
  | some row =>
    rw [found, Option.any_some] at admits
    rw [Option.map_some, Option.any_some]
    exact better row _ (mem_of_domain? found).2 admits

theorem admits_updateOwned {owner : Nat} {name : GoString} {change : DomainRow → DomainRow}
    (keeps : ∀ row, (change row).domain = row.domain)
    (alike : ∀ row, (change row).inbound lib = row.inbound lib ∧
      (change row).ownerUserID = row.ownerUserID ∧ (change row).shareMode = row.shareMode)
    (admits : registry.admits lib userID domain = true) :
    (registry.updateOwned owner name change keeps).admits lib userID domain = true := by
  refine admits_updateDomains _ (fun row listed _ admitted => ?_) admits
  split
  · rw [(alike row).1, (alike row).2.1, DomainRow.shares, (alike row).2.2]
    exact admitted
  · exact admitted

theorem owned_updateOwned {owner : Nat} {name : GoString} {change : DomainRow → DomainRow}
    {keeps : ∀ row, (change row).domain = row.domain}
    (alike : ∀ row, (change row).ownerUserID = row.ownerUserID) :
    ((registry.updateOwned owner name change keeps).ownedDomain? userID domain).isSome =
      (registry.ownedDomain? userID domain).isSome := by
  rw [ownedDomain?_eq, ownedDomain?_eq, updateOwned, domain?_updateDomains]
  cases registry.domain? domain with
  | none => rfl
  | some row =>
    have same : (if row.domain = name ∧ row.ownerUserID = some owner then change row
        else row).ownerUserID = row.ownerUserID := by
      split
      · exact alike row
      · rfl
    simp only [Option.map_some, Option.filter_some, same]
    split <;> rfl

theorem owned_of_withoutDomain {owner : Nat} {name : GoString}
    (owned : ((registry.withoutDomain owner name).ownedDomain? userID domain).isSome = true) :
    (registry.ownedDomain? userID domain).isSome = true := by
  obtain ⟨row, member, matching⟩ := List.find?_isSome.mp owned
  exact List.find?_isSome.mpr ⟨row, List.mem_of_mem_filter member, matching⟩

theorem admits_withDomain (admits : registry.admits lib userID domain = true) :
    (registry.withDomain row).admits lib userID domain = true := by
  unfold withDomain
  split
  · exact admits
  · unfold Registry.admits domain? at admits ⊢
    dsimp only
    rw [List.find?_append]
    cases found : registry.domains.find? fun row => row.domain = domain with
    | none =>
      rw [found] at admits
      cases admits
    | some row =>
      rw [found] at admits
      exact admits

theorem admits_withoutDomain {owner : Nat} {name : GoString} (other : domain ≠ name)
    (admits : registry.admits lib userID domain = true) :
    (registry.withoutDomain owner name).admits lib userID domain = true := by
  have row : (registry.withoutDomain owner name).domain? domain = registry.domain? domain := by
    unfold domain? withoutDomain
    rw [List.find?_filter]
    congr 1
    funext row
    by_cases same : row.domain = domain
    · simp [same, other]
    · simp [same]
  have listed : (registry.withoutDomain owner name).allowlist.contains (domain, userID) =
      registry.allowlist.contains (domain, userID) := by
    unfold withoutDomain
    dsimp only
    split
    · simp [List.contains_eq_mem, other]
    · rfl
  unfold Registry.admits at admits ⊢
  rw [row, listed]
  exact admits

theorem admits_withoutUser {gone : Nat} (other : userID ≠ gone)
    (admits : registry.admits lib userID domain = true) :
    (registry.withoutUser gone).admits lib userID domain = true := by
  have listed : (registry.withoutUser gone).allowlist.contains (domain, userID) =
      registry.allowlist.contains (domain, userID) := by
    unfold withoutUser
    simp [List.contains_eq_mem, other]
  have keeps (row : DomainRow) :
      (if row.ownerUserID = some gone then { row with ownerUserID := none } else row).domain =
        row.domain := by
    split <;> rfl
  have updated := @admits_updateDomains lib registry userID domain _ keeps (fun row listed _ admitted => by
    split
    next owned =>
      have stranger : (some gone == some userID) = false := by simpa using other.symm
      rw [owned, stranger] at admitted
      exact admitted
    · exact admitted) admits
  unfold Registry.admits at updated ⊢
  rw [listed]
  exact updated

end Registry

section Statements

variable (lib : Library)

def userOwnsActiveInboundDomain (userID : Nat) (domain : GoString) : Registering (Except GoError Bool) :=
  let domain := trimLower lib domain
  if domain = [] then .done (.ok false)
  else .ask (.ownedDomain userID domain) fun
    | .error err => .done (.error err)
    | .ok row => .done (.ok (row.any (DomainRow.inbound lib)))

def sharedWith (userID : Nat) (domain : GoString) : Registering (Except GoError Bool) :=
  .ask (.domainByName domain) fun
    | .error err => .done (.error err)
    | .ok none => .done (.ok false)
    | .ok (some row) =>
      if row.inbound lib = false then .done (.ok false)
      else
        let mode := trimLower lib row.shareMode
        if mode = shareModeAllVerifiedUsers then .done (.ok true)
        else if mode = shareModeAllowlist then .ask (.allowlisted domain userID) .done
        else .done (.ok false)

def userMayUseDomainForMailbox (userID : Nat) (domain : GoString) : Registering (Except GoError Bool) :=
  let domain := trimLower lib domain
  if domain = [] then .done (.ok false)
  else do
    match ← userOwnsActiveInboundDomain lib userID domain with
    | .error err => return .error err
    | .ok true => return .ok true
    | .ok false => sharedWith lib userID domain

def setDomainShareMode (domain mode : GoString) : Registering (Option WriteError) :=
  if validShareMode lib mode = false then
    .done (some (.failed (.plain (ascii "mailmeta: invalid share_mode"))))
  else .ask (.write (.setDomainShareMode (trimLower lib domain) (trimLower lib mode))) .done

def replaceDomainAllowlist (domain : GoString) (userIDs : List Nat) : Registering (Option WriteError) :=
  .ask (.write (.replaceDomainAllowlist (trimLower lib domain) userIDs)) .done

def insertOwnedDomain (userID : Nat) (domain verificationHost verificationValue : GoString) :
    Registering (Option WriteError) :=
  match normalizeOwnedDomain lib domain with
  | .error err => .done (some (.failed err))
  | .ok domain =>
    .ask (.write (.insertOwnedDomain
      { domain
        ownerUserID := some userID
        status := ascii "pending"
        verificationTXTHost := verificationHost
        verificationTXTValue := verificationValue })) .done

def setOwnedDomainDKIM (userID : Nat) (domain selector keyRef : GoString) :
    Registering (Option WriteError) :=
  .ask (.write (.setOwnedDomainDKIM userID (trimLower lib domain) (trimLower lib selector)
    (trimSpace keyRef))) .done

def getDomainDKIMByName (domain : GoString) :
    Registering (Except GoError (Option (GoString × GoString))) :=
  .ask (.domainByName (trimLower lib domain)) fun
    | .error err => .done (.error err)
    | .ok row =>
      .done (.ok (row.map fun row => (trimLower lib row.dkimSelector, trimSpace row.dkimKeyID)))

def deleteOwnedDomain (userID : Nat) (domain : GoString) : Registering (Option WriteError) :=
  .ask (.write (.deleteOwnedDomain userID (trimLower lib domain))) .done

def setDomainCatchall (userID : Nat) (domain fingerprint : GoString) : Registering (Option WriteError) :=
  .ask (.write (.setDomainCatchall userID (trimLower lib domain) (trimSpace fingerprint))) .done

def updateDomainVerification (userID : Nat) (domain : GoString) (mx spf dkim dmarc : Bool)
    (status : GoString) : Registering (Option WriteError) :=
  .ask (.write (.updateDomainVerification userID (trimLower lib domain) mx spf dkim dmarc status))
    .done

variable {lib} {registry : Registry} {userID : Nat} {domain : GoString}

theorem userOwnsActiveInboundDomain_ensures :
    (userOwnsActiveInboundDomain lib userID domain).Ensures (RegistryStatement.answer lib) registry
      fun owns next => next = registry ∧
        ∀ answer, owns = .ok answer → answer = registry.userOwnsActiveInboundDomain lib userID domain := by
  unfold userOwnsActiveInboundDomain Registry.userOwnsActiveInboundDomain
  dsimp only
  split
  · exact ⟨rfl, fun answer same => (Except.ok.inj same).symm⟩
  · intro moment
    dsimp only [RegistryStatement.answer, Outcome.read]
    cases moment.outcome.error? with
    | some err => exact ⟨rfl, nofun⟩
    | none => exact ⟨rfl, fun answer same => (Except.ok.inj same).symm⟩

theorem sharedWith_ensures :
    (sharedWith lib userID domain).Ensures (RegistryStatement.answer lib) registry
      fun shared next => next = registry ∧
        ∀ answer, shared = .ok answer → answer = (registry.domain? domain).any fun row =>
          row.inbound lib && row.shares lib (registry.allowlist.contains (domain, userID)) := by
  intro moment
  dsimp only [RegistryStatement.answer, Outcome.read]
  cases moment.outcome.error? with
  | some err => exact ⟨rfl, nofun⟩
  | none =>
    cases registry.domain? domain with
    | none => exact ⟨rfl, fun answer same => (Except.ok.inj same).symm⟩
    | some row =>
      dsimp only [Option.any_some, DomainRow.shares]
      cases row.inbound lib with
      | false => exact ⟨rfl, fun answer same => (Except.ok.inj same).symm⟩
      | true =>
        rw [if_neg nofun]
        split
        · exact ⟨rfl, fun answer same => (Except.ok.inj same).symm⟩
        · split
          · intro second
            dsimp only [RegistryStatement.answer, Outcome.read]
            cases second.outcome.error? with
            | some err => exact ⟨rfl, nofun⟩
            | none => exact ⟨rfl, fun answer same => (Except.ok.inj same).symm⟩
          · exact ⟨rfl, fun answer same => (Except.ok.inj same).symm⟩

theorem userMayUseDomainForMailbox_ensures :
    (userMayUseDomainForMailbox lib userID domain).Ensures (RegistryStatement.answer lib) registry
      fun may next => next = registry ∧
        ∀ answer, may = .ok answer → answer = registry.userMayUseDomainForMailbox lib userID domain := by
  unfold userMayUseDomainForMailbox Registry.userMayUseDomainForMailbox
  dsimp only
  split
  · exact ⟨rfl, fun answer same => (Except.ok.inj same).symm⟩
  · rw [Program.ensures_bind]
    refine Program.Ensures.weaken userOwnsActiveInboundDomain_ensures fun owns next answered => ?_
    obtain ⟨rfl, answered⟩ := answered
    match owns with
    | .error err => exact ⟨rfl, nofun⟩
    | .ok true =>
      rw [← answered true rfl]
      exact ⟨rfl, fun answer same => (Except.ok.inj same).symm⟩
    | .ok false =>
      rw [← answered false rfl]
      exact sharedWith_ensures

end Statements

end ElvishMail.Mailmeta
