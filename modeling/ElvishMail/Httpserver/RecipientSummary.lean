import ElvishMail.Go.Fields
import ElvishMail.Httpserver.Senders

/-!
# The recipients in a row

A submission writes the addresses of the recipients that are not here into one text, as they
were given, and the worker takes it apart at white space and commas. It gets back the bare
addresses exactly if each address was given as a bare one.
-/

namespace ElvishMail.Httpserver

open Go Smtp Mailmeta Mailworker

def keptAddresses (body : OutboxPlainBody) : List GoString :=
  (body.toAddrs.map trimSpace).filter (· ≠ [])

def isExternal (server : Server) (address : GoString) : Bool :=
  match identityForEmail server.lib server.directory (toLower server.lib (trimSpace address)) with
  | .error .notFound => true
  | _ => false

def bareAddress (server : Server) (address : GoString) : Option GoString :=
  (server.lib.parseAddress address).map (toLower server.lib)

/-- The worker finds the bare addresses of the recipients that are not here. -/
def SummaryDecodes (server : Server) (body : OutboxPlainBody) (row : OutboxRow) : Prop :=
  (recipients row).map some =
    ((keptAddresses body).filter (isExternal server)).map (bareAddress server)

def summaryWords (lib : Library) (address : GoString) : List GoString :=
  fields (replaceByte (toLower lib address) 0x2C 0x20)

/-- Each of these addresses is given as one word, which is the bare address. -/
def AddressesBare (server : Server) (body : OutboxPlainBody) : Prop :=
  ∀ address ∈ keptAddresses body, isExternal server address = true →
    (summaryWords server.lib address).map some = [bareAddress server address]

instance (server : Server) (body : OutboxPlainBody) (row : OutboxRow) :
    Decidable (SummaryDecodes server body row) := inferInstanceAs (Decidable (_ = _))

instance (server : Server) (body : OutboxPlainBody) : Decidable (AddressesBare server body) :=
  inferInstanceAs (Decidable (∀ address ∈ keptAddresses body, _ → _))

section Summaries

variable {server : Server} {situation : Situation} {userID : Nat} {body : OutboxPlainBody}
  {source : GoString} {row : OutboxRow} {writes : List BlobWrite} {clean here away : List GoString}

theorem cleanAddresses_eq {addresses : List GoString}
    (cleaned : cleanAddresses server addresses = .ok clean) :
    clean = (addresses.map trimSpace).filter (· ≠ []) ∧
      ∀ address ∈ clean, (server.lib.parseAddress address).isSome = true := by
  induction addresses generalizing clean with
  | nil =>
    cases cleaned
    exact ⟨rfl, nofun⟩
  | cons first rest ih =>
    rw [cleanAddresses] at cleaned
    split at cleaned
    next blank =>
      obtain ⟨same, accepted⟩ := ih cleaned
      exact ⟨by rw [List.map_cons, List.filter_cons_of_neg (by simp [blank]), same], accepted⟩
    next given =>
      split at cleaned
      next => cases cleaned
      next parsed =>
        cases others : cleanAddresses server rest with
        | error address =>
          rw [others] at cleaned
          cases cleaned
        | ok kept =>
          rw [others] at cleaned
          cases cleaned
          obtain ⟨same, accepted⟩ := ih others
          refine ⟨?_, List.forall_mem_cons.mpr ⟨?_, accepted⟩⟩
          · rw [List.map_cons, List.filter_cons_of_pos (by simp [given]), same]
          · exact Option.isSome_iff_ne_none.mpr fun missing =>
              parsed (Option.isNone_iff_eq_none.mpr missing)

theorem toLower_ne_nil {lib : Library} {text : GoString} (some : text ≠ []) : toLower lib text ≠ [] := by
  obtain ⟨first, rest, rfl⟩ := List.exists_cons_of_ne_nil some
  rw [toLower, runes_cons, List.flatMap_cons]
  exact fun none => encodeRune_nonempty _ (List.append_eq_nil_iff.mp none).1

theorem partitionLocalRecipients_away (parted : partitionLocalRecipients server clean = .ok (here, away))
    (kept : ∀ address ∈ clean, trimSpace address = address ∧ address ≠ []) :
    away = (clean.filter (isExternal server)).map (toLower server.lib) := by
  induction clean generalizing here away with
  | nil =>
    cases parted
    rfl
  | cons address rest ih =>
    obtain ⟨⟨trimmed, some⟩, others⟩ := List.forall_mem_cons.mp kept
    rw [partitionLocalRecipients] at parted
    dsimp only at parted
    rw [trimmed, if_neg (toLower_ne_nil some)] at parted
    cases tail : partitionLocalRecipients server rest with
    | error err =>
      rw [tail] at parted
      split at parted <;> cases parted
    | ok parts =>
      obtain ⟨hereRest, awayRest⟩ := parts
      have later := ih tail others
      rw [tail] at parted
      split at parted
      next found =>
        cases parted
        have known : isExternal server address = false := by rw [isExternal, trimmed, found]
        rw [List.filter_cons_of_neg (by simp [known]), later]
      next found =>
        cases parted
        have unknown : isExternal server address = true := by rw [isExternal, trimmed, found]
        rw [List.filter_cons_of_pos unknown, List.map_cons, later]
      next => cases parted

theorem fields_summary (entries : List GoString) :
    fields (replaceByte (join entries (ascii " ")) 0x2C 0x20) =
      entries.flatMap fun entry => fields (replaceByte entry 0x2C 0x20) := by
  have space : ascii " " = [0x20] := by decide
  induction entries with
  | nil => rfl
  | cons first rest ih =>
    cases rest with
    | nil => simp [join]
    | cons next rest =>
      have cut : replaceByte (join (first :: next :: rest) (ascii " ")) 0x2C 0x20 =
          replaceByte first 0x2C 0x20 ++
            0x20 :: replaceByte (join (next :: rest) (ascii " ")) 0x2C 0x20 := by
        rw [join, List.intercalate_cons_cons, space, List.append_assoc]
        simp only [replaceByte, List.map_append]
        rfl
      rw [cut, fields_append (by decide) (by decide), ih]
      simp only [List.flatMap_cons]

theorem flatMap_eq_map_iff {Item Word : Type*} {words : Item → List Word} {word : Item → Word}
    {items : List Item} (full : ∀ item ∈ items, words item ≠ []) :
    items.flatMap words = items.map word ↔ ∀ item ∈ items, words item = [word item] := by
  have most (items : List Item) (full : ∀ item ∈ items, words item ≠ []) :
      items.length ≤ (items.flatMap words).length := by
    induction items with
    | nil => exact Nat.le_refl _
    | cons first rest ih =>
      obtain ⟨one, others⟩ := List.forall_mem_cons.mp full
      have positive := List.length_pos_iff.mpr one
      have later := ih others
      rw [List.flatMap_cons, List.length_append, List.length_cons]
      omega
  induction items with
  | nil => simp
  | cons first rest ih =>
    obtain ⟨one, others⟩ := List.forall_mem_cons.mp full
    refine Iff.trans ?_ (List.forall_mem_cons.trans (and_congr_right' (ih others).symm)).symm
    rw [List.flatMap_cons, List.map_cons]
    obtain ⟨head, tail, same⟩ := List.exists_cons_of_ne_nil one
    rw [same, List.cons_append, List.cons.injEq, List.cons.injEq]
    constructor
    · rintro ⟨rfl, equal⟩
      have length := congrArg List.length equal
      rw [List.length_append, List.length_map] at length
      have few := most rest others
      have none : tail = [] := List.length_eq_zero_iff.mp (by omega)
      rw [none, List.nil_append] at equal
      exact ⟨⟨rfl, none⟩, equal⟩
    · rintro ⟨⟨rfl, rfl⟩, equal⟩
      exact ⟨rfl, equal⟩

theorem summaryWords_ne_nil {lib : Library} {address : GoString} (sign : 0x40 ∈ address) :
    summaryWords lib address ≠ [] := by
  obtain ⟨front, rest, rfl⟩ := List.append_of_mem sign
  rw [summaryWords, toLower_before_ascii (by decide), replaceByte, List.map_append, List.map_cons]
  exact @fields_ne_nil 0x40 _ (by decide) (by decide)
    (List.mem_append_right _ (List.mem_cons.mpr (.inl rfl)))

/-- The worker finds the bare addresses of the recipients that are not here exactly if each of
them was given as a bare address. -/
theorem summary_decodes_iff
    (addressed : ∀ text address, server.lib.parseAddress text = some address → 0x40 ∈ text)
    (sent : submitPlaintextOutboxWithContext server situation userID body source =
      (.ok (some row), writes)) :
    SummaryDecodes server body row ↔ AddressesBare server body := by
  obtain ⟨relayKey, cipher, clean, here, away, cleaned, parted, -, -, rfl, -⟩ :=
    submitPlaintext_accepted sent
  obtain ⟨kept, accepted⟩ := cleanAddresses_eq cleaned
  have solid : ∀ address ∈ clean, trimSpace address = address ∧ address ≠ [] := by
    intro address member
    rw [kept] at member
    obtain ⟨trimmed, some⟩ := List.mem_filter.mp member
    obtain ⟨given, -, rfl⟩ := List.mem_map.mp trimmed
    exact ⟨trimSpace_trimSpace given, by simpa using some⟩
  have read : recipients (insertOutboxMeta situation.now situation.rowID userID .plaintextRelay
      (outboxKey situation.userText situation.outboxID) cipher.length (join away (ascii " ")) source 0
        none) = (clean.filter (isExternal server)).flatMap (summaryWords server.lib) := by
    rw [recipients, insertOutboxMeta, fields_summary, partitionLocalRecipients_away parted solid,
      List.flatMap_map]
    rfl
  have words : ∀ address ∈ clean.filter (isExternal server),
      (summaryWords server.lib address).map some ≠ [] := by
    intro address member
    obtain ⟨parsed, same⟩ := Option.isSome_iff_exists.mp (accepted address (List.mem_filter.mp member).1)
    have there := @summaryWords_ne_nil server.lib address (addressed address parsed same)
    simpa using there
  have entries : keptAddresses body = clean := kept.symm
  unfold SummaryDecodes AddressesBare
  rw [read, entries, List.map_flatMap, flatMap_eq_map_iff words]
  simp only [List.mem_filter, and_imp]

end Summaries

/-! A submission to one address on another server. -/

def namedLibrary : Library :=
  { Library.plain with
    parseAddress := fun text =>
      if text = ascii "Bob Smith <bob@x.org>" then some (ascii "bob@x.org")
      else Library.plain.parseAddress text }

def namedServer : Server :=
  { forgedServer with
    lib := namedLibrary
    relayKey := some ⟨.ok, .ok, fun _ _ same => congrArg Except.ok (Except.ok.inj same).symm⟩ }

def namedBody (address : GoString) : OutboxPlainBody where
  fromAddr := ascii "ann@e.org"
  toAddrs := [address]
  subject := []
  bodyText := ascii "hi"

def namedRow (address : GoString) : Option OutboxRow :=
  match (submitPlaintextOutboxWithContext namedServer forgedSituation 1 (namedBody address) []).1 with
  | .ok row => row
  | .error _ => none

theorem namedLibrary_addressed (text address : GoString)
    (parsed : namedLibrary.parseAddress text = some address) : 0x40 ∈ text := by
  by_contra absent
  simp only [namedLibrary] at parsed
  split at parsed
  next named => exact absent (named ▸ by decide)
  next =>
    simp only [Library.plain] at parsed
    split at parsed
    next => cases parsed
    next =>
      have whole : ∀ byte ∈ text, (byte == 0x40) = false := fun byte member =>
        beq_false_of_ne fun same => absent (same ▸ member)
      rw [List.splitOnP_eq_singleton whole] at parsed
      cases parsed

theorem summary_decodes_bare :
    ∃ row writes,
      submitPlaintextOutboxWithContext namedServer forgedSituation 1 (namedBody (ascii "b@y.org")) [] =
          (.ok (some row), writes) ∧
        SummaryDecodes namedServer (namedBody (ascii "b@y.org")) row := by
  have run : (submitPlaintextOutboxWithContext namedServer forgedSituation 1
        (namedBody (ascii "b@y.org")) []).1.toOption.join.isSome = true ∧
      AddressesBare namedServer (namedBody (ascii "b@y.org")) := by
    decide
  cases sent : submitPlaintextOutboxWithContext namedServer forgedSituation 1
      (namedBody (ascii "b@y.org")) [] with
  | mk reply writes =>
    rw [sent] at run
    obtain ⟨made, bare⟩ := run
    match reply with
    | .ok (some row) =>
      exact ⟨row, writes, rfl, (summary_decodes_iff namedLibrary_addressed sent).mpr bare⟩

theorem summary_splits_name :
    ∃ row writes,
      submitPlaintextOutboxWithContext namedServer forgedSituation 1
          (namedBody (ascii "Bob Smith <bob@x.org>")) [] =
          (.ok (some row), writes) ∧
        recipients row = [ascii "bob", ascii "smith", ascii "<bob@x.org>"] ∧
        ¬SummaryDecodes namedServer (namedBody (ascii "Bob Smith <bob@x.org>")) row := by
  have run : (namedRow (ascii "Bob Smith <bob@x.org>")).any fun row =>
      recipients row = [ascii "bob", ascii "smith", ascii "<bob@x.org>"] ∧
        ¬SummaryDecodes namedServer (namedBody (ascii "Bob Smith <bob@x.org>")) row := by
    decide
  obtain ⟨row, made, facts⟩ := (Option.any_eq_true _ _).mp run
  cases sent : submitPlaintextOutboxWithContext namedServer forgedSituation 1
      (namedBody (ascii "Bob Smith <bob@x.org>")) [] with
  | mk reply writes =>
    rw [namedRow, sent] at made
    match reply with
    | .ok kept =>
      obtain rfl : kept = some row := made
      exact ⟨row, writes, rfl, of_decide_eq_true facts⟩

end ElvishMail.Httpserver
