import Mathlib.Data.List.AList
import ElvishMail.Httpserver.Accounts
import ElvishMail.Mailmeta.UsableDomains

/-!
# The domains an administrator may send from

`adminSenderDomainOptions` of `internal/httpserver/api_admin_system_mail.go` asks for the
first 500 rows of `mail_domains`, and `ListAllDomains` of `internal/mailmeta` takes a limit
of more than a hundred for fifty. The rows come newest first, so that a domain is offered
or not with the number of domains that were added after it. Queries do not fail here.
-/

namespace ElvishMail.Mailmeta

/-- The rows of `mail_domains` in the order of `ORDER BY created_at DESC`, which leaves open
how rows of one time stand to each other. -/
structure AdminListing (registry : Registry) (createdAt : DomainRow → Int) where
  rows : List DomainRow
  perm : rows.Perm registry.domains
  newest : rows.Pairwise fun first next => createdAt next ≤ createdAt first

/-- `ListAllDomains`, without the joined columns, and with the number of all rows. -/
def listAllDomains {registry : Registry} {createdAt : DomainRow → Int}
    (listing : AdminListing registry createdAt) (offset limit : Int) : List DomainRow × Nat :=
  let limit := if limit ≤ 0 ∨ limit > 100 then 50 else limit
  let offset := if offset < 0 then 0 else offset
  ((listing.rows.drop offset.toNat).take limit.toNat, registry.domains.length)

end ElvishMail.Mailmeta

namespace ElvishMail.Httpserver

open Go Mailmeta

/-- `adminSenderDomainOption`. -/
structure SenderDomain where
  domain : GoString
  verified : Bool
  source : GoString
  isDefault : Bool
deriving DecidableEq

def SenderDomain.before (first second : SenderDomain) : Bool :=
  if first.isDefault != second.isDefault then first.isDefault
  else if first.source ≠ second.source then decide (first.source < second.source)
  else decide (first.domain < second.domain)

abbrev SenderDomains := AList fun _ : GoString => SenderDomain

section Options

variable (site : Site) {registry : Registry} {createdAt : DomainRow → Int}

def adminDomainReady (lib : Library) (row : DomainRow) : Bool :=
  let status := toLower lib (trimSpace row.status)
  (status == ascii "active" || status == ascii "verified") &&
    row.spfVerified && row.dkimVerified && row.dmarcVerified

def defaultDomain : GoString := toLower site.lib (trimSpace site.effectiveMailDomain)

def addSender (seen : SenderDomains) (row : DomainRow) : SenderDomains :=
  if adminDomainReady site.lib row = false then seen
  else
    let key := toLower site.lib (trimSpace row.domain)
    if key = [] then seen
    else
      let item : SenderDomain :=
        { domain := key
          verified := true
          source := ascii "custom"
          isDefault := site.lib.equalFold key (defaultDomain site) }
      match seen.lookup key with
      | some existing =>
        seen.insert key
          { item with
            source := if existing.source = ascii "platform" then existing.source else item.source
            isDefault := item.isDefault || existing.isDefault }
      | none => seen.insert key item

def platformSender : SenderDomains :=
  if defaultDomain site = [] then ∅
  else AList.singleton (defaultDomain site)
    { domain := defaultDomain site, verified := true, source := ascii "platform", isDefault := true }

def adminSenderDomainOptions (listing : AdminListing registry createdAt) : List SenderDomain :=
  let seen := (listAllDomains listing 0 500).1.foldl (addSender site) (platformSender site)
  (seen.entries.map Sigma.snd).insertionSort fun first second => second.before first = false

/-- The platform's domain and every domain that is ready are offered, each once, and no other. -/
structure OffersReady (registry : Registry) (options : List SenderDomain) : Prop where
  once : (options.map SenderDomain.domain).Nodup
  platform : defaultDomain site ∈ options.map SenderDomain.domain
  complete : ∀ row ∈ registry.domains, adminDomainReady site.lib row = true →
    row.domain ∈ options.map SenderDomain.domain
  sound : ∀ option ∈ options, option.domain = defaultDomain site ∨
    ∃ row ∈ registry.domains, adminDomainReady site.lib row = true ∧ row.domain = option.domain

variable {site} {seen : SenderDomains} {row : DomainRow} {key : GoString}

def Keyed (seen : SenderDomains) : Prop := ∀ entry ∈ seen.entries, entry.2.domain = entry.1

theorem Keyed.insert (keyed : Keyed seen) {item : SenderDomain} (own : item.domain = key) :
    Keyed (seen.insert key item) := by
  intro entry member
  rw [AList.entries_insert, List.mem_cons] at member
  rcases member with rfl | member
  · exact own
  · exact keyed entry ((List.kerase_sublist ..).subset member)

theorem addSender_cases (seen : SenderDomains) (row : DomainRow) :
    (addSender site seen row = seen ∧
      (adminDomainReady site.lib row = true → toLower site.lib (trimSpace row.domain) = [])) ∨
    adminDomainReady site.lib row = true ∧ ∃ item : SenderDomain,
      item.domain = toLower site.lib (trimSpace row.domain) ∧
        addSender site seen row = seen.insert (toLower site.lib (trimSpace row.domain)) item := by
  unfold addSender
  dsimp only
  split_ifs with unready empty
  · exact .inl ⟨rfl, fun ready => absurd (ready.symm.trans unready) (by decide)⟩
  · exact .inl ⟨rfl, fun _ => empty⟩
  · refine .inr ⟨Bool.not_eq_false _ ▸ unready, ?_⟩
    split
    · exact ⟨_, rfl, rfl⟩
    · exact ⟨_, rfl, rfl⟩

theorem addSender_keyed (keyed : Keyed seen) : Keyed (addSender site seen row) := by
  obtain ⟨same, -⟩ | ⟨-, item, own, added⟩ := @addSender_cases site seen row
  · rwa [same]
  · rw [added]
    exact keyed.insert own

theorem foldl_keyed (rows : List DomainRow) (keyed : Keyed seen) :
    Keyed (rows.foldl (addSender site) seen) := by
  induction rows generalizing seen with
  | nil => exact keyed
  | cons row rows ih => exact ih (addSender_keyed keyed)

theorem toLower_trimSpace_named (named : WellNamed row.domain) :
    toLower site.lib (trimSpace row.domain) = row.domain ∧ row.domain ≠ [] := by
  have solid := fun byte member => isDomainByte_solid (List.all_eq_true.mp named.plain byte member)
  have lowered := toLower_ascii site.lib row.domain [] fun byte member => (solid byte member).1
  have same : row.domain.map lowerByte = row.domain :=
    (List.map_congr_left fun byte member => (solid byte member).2.2.1).trans (List.map_id _)
  rw [List.append_nil, toLower_nil, List.append_nil, same] at lowered
  rw [trimSpace_solid fun byte member => ⟨(solid byte member).1, (solid byte member).2.1⟩]
  refine ⟨lowered, fun empty => ?_⟩
  have dotted := named.dotted
  rw [empty] at dotted
  cases dotted

theorem mem_foldl_addSender (rows : List DomainRow) (named : ∀ row ∈ rows, WellNamed row.domain) :
    key ∈ rows.foldl (addSender site) seen ↔
      key ∈ seen ∨ ∃ row ∈ rows, adminDomainReady site.lib row = true ∧ row.domain = key := by
  induction rows generalizing seen with
  | nil => simp
  | cons row rows ih =>
    obtain ⟨first, others⟩ := List.forall_mem_cons.mp named
    obtain ⟨normal, some⟩ := @toLower_trimSpace_named site row first
    rw [List.foldl_cons, ih others, List.exists_mem_cons_iff]
    obtain ⟨same, unready⟩ | ⟨ready, item, own, added⟩ := @addSender_cases site seen row
    · have idle : ¬(adminDomainReady site.lib row = true ∧ row.domain = key) :=
        fun holds => some (normal ▸ unready holds.1)
      rw [same, or_iff_right idle]
    · have here : adminDomainReady site.lib row = true ∧ row.domain = key ↔ key = row.domain :=
        ⟨fun holds => holds.2.symm, fun same => ⟨ready, same.symm⟩⟩
      rw [added, normal, AList.mem_insert, here, or_comm (a := key = row.domain), or_assoc]

theorem defaultDomain_ne_nil (site : Site) : defaultDomain site ≠ [] := by
  have some : trimSpace site.effectiveMailDomain ≠ [] := by
    unfold Site.effectiveMailDomain
    dsimp only
    split_ifs with empty
    · decide
    · rwa [trimLower, trimSpace_trimSpace, ← trimLower]
  unfold defaultDomain
  cases text : trimSpace site.effectiveMailDomain with
  | nil => exact absurd text some
  | cons byte rest => exact Go.toLower_ne_nil byte rest

theorem platformSender_eq (site : Site) : platformSender site = AList.singleton (defaultDomain site)
    { domain := defaultDomain site, verified := true, source := ascii "platform", isDefault := true } :=
  if_neg (defaultDomain_ne_nil site)

theorem options_domains (listing : AdminListing registry createdAt) :
    ((adminSenderDomainOptions site listing).map SenderDomain.domain).Perm
      ((listing.rows.take 50).foldl (addSender site) (platformSender site)).keys := by
  have keyed : Keyed ((listing.rows.take 50).foldl (addSender site) (platformSender site)) := by
    refine foldl_keyed _ ?_
    rw [platformSender_eq]
    intro entry member
    rw [List.mem_singleton.mp member]
  have sorted : ∀ options : List SenderDomain,
      ((options.insertionSort fun first second => second.before first = false).map
        SenderDomain.domain).Perm (options.map SenderDomain.domain) :=
    fun options => (List.perm_insertionSort _ options).map _
  refine (sorted _).trans (.of_eq ?_)
  rw [List.map_map]
  exact List.map_congr_left keyed

theorem mem_options (kept : registry.Constrained) (listing : AdminListing registry createdAt) :
    key ∈ (adminSenderDomainOptions site listing).map SenderDomain.domain ↔ key = defaultDomain site ∨
      ∃ row ∈ listing.rows.take 50, adminDomainReady site.lib row = true ∧ row.domain = key := by
  have named : ∀ row ∈ listing.rows.take 50, WellNamed row.domain := fun row member =>
    kept.named row (listing.perm.mem_iff.mp (List.mem_of_mem_take member))
  rw [(options_domains listing).mem_iff, ← AList.mem_keys, mem_foldl_addSender _ named,
    platformSender_eq]
  exact or_congr_left List.mem_singleton

/-- The domains that are ready are offered where they are among the fifty newest. -/
theorem admin_offers_iff (kept : registry.Constrained) (listing : AdminListing registry createdAt) :
    OffersReady site registry (adminSenderDomainOptions site listing) ↔
      ∀ row ∈ registry.domains, adminDomainReady site.lib row = true →
        row.domain = defaultDomain site ∨ row ∈ listing.rows.take 50 := by
  constructor
  · intro offers row member ready
    refine ((mem_options kept listing).mp (offers.complete row member ready)).imp_right ?_
    rintro ⟨other, early, -, same⟩
    have stored := listing.perm.mem_iff.mp (List.mem_of_mem_take early)
    exact Registry.row_unique stored member same ▸ early
  · intro early
    refine ⟨?_, ?_, fun row member ready => ?_, fun option offered => ?_⟩
    · exact (options_domains listing).nodup_iff.mpr (AList.keys_nodup _)
    · exact (mem_options kept listing).mpr (.inl rfl)
    · exact (mem_options kept listing).mpr
        ((early row member ready).imp_right fun first => ⟨row, first, ready, rfl⟩)
    · refine ((mem_options kept listing).mp (List.mem_map_of_mem offered)).imp_right ?_
      rintro ⟨row, first, ready, same⟩
      exact ⟨row, listing.perm.mem_iff.mp (List.mem_of_mem_take first), ready, same⟩

end Options

def numberedDomain (ready : Bool) (number : Nat) : DomainRow where
  domain := [(97 + number / 8).toUInt8, (97 + number % 8).toUInt8] ++ ascii ".b"
  ownerUserID := none
  status := ascii "active"
  spfVerified := ready
  dkimVerified := ready
  dmarcVerified := ready
  verificationTXTHost := []
  verificationTXTValue := []

def numberedDomains (newer : Nat) : List DomainRow :=
  (List.range newer).map (numberedDomain false) ++ [numberedDomain true newer]

def addedAt (row : DomainRow) : Int :=
  -((row.domain.take 2).foldl (fun value byte => 256 * value + byte.toNat) 0 : Nat)

/-- The tables with fifty domains that are newer than the one that is ready. -/
def crowdedRegistry : Registry :=
  { Registry.empty with
    domains := numberedDomains 50
    distinct := by decide +kernel }

def quietRegistry : Registry :=
  { Registry.empty with
    domains := numberedDomains 1
    distinct := by decide }

theorem numberedDomains_constrained {registry : Registry} {newer : Nat} (few : newer ≤ 50)
    (domains : registry.domains = numberedDomains newer) : registry.Constrained := by
  have named : ∀ number < 51, WellNamed (numberedDomain true number).domain := by
    have all : ∀ number < 51, ((numberedDomain true number).domain.splitOnP (· == 0x2E)).all validLabel =
        true := by decide +kernel
    exact fun number small => ⟨all number small, by simp [numberedDomain, ascii],
      by simp [numberedDomain, ascii]⟩
  have every : ∀ row ∈ registry.domains, ∃ ready, ∃ number < 51, row = numberedDomain ready number := by
    intro row member
    rw [domains, numberedDomains, List.mem_append, List.mem_map, List.mem_singleton] at member
    rcases member with ⟨number, small, rfl⟩ | rfl
    · exact ⟨false, number, (List.mem_range.mp small).trans_le (by omega), rfl⟩
    · exact ⟨true, newer, by omega, rfl⟩
  constructor
  · intro row member
    obtain ⟨ready, number, small, rfl⟩ := every row member
    exact named number small
  · intro row member
    obtain ⟨ready, number, small, rfl⟩ := every row member
    exact List.mem_cons_self

def adminSite : Site where
  lib := .plain
  mailDomain := ascii "e.org"
  fingerprint16 _ := none
  parseUUID _ := none
  parseTime _ := none

theorem admin_offers_quiet : OffersReady adminSite quietRegistry
    (@adminSenderDomainOptions adminSite quietRegistry (fun _ => 0)
      ⟨numberedDomains 1, .refl _, by decide⟩) :=
  (admin_offers_iff (numberedDomains_constrained (by decide) rfl) _).mpr
    fun row member _ => .inr (by rwa [List.take_of_length_le (by decide)])

/-- Behind fifty newer rows a domain that is ready is not offered. -/
theorem admin_misses_crowded : ¬OffersReady adminSite crowdedRegistry
    (@adminSenderDomainOptions adminSite crowdedRegistry addedAt
      ⟨numberedDomains 50, .refl _, by decide +kernel⟩) := by
  intro offers
  have ready := offers.complete (numberedDomain true 50)
    (List.mem_append_right _ List.mem_cons_self) (by decide)
  rw [mem_options (numberedDomains_constrained le_rfl rfl)] at ready
  revert ready
  decide +kernel

end ElvishMail.Httpserver
