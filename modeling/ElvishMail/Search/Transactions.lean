import ElvishMail.Search.Index

/-!
# Requests on ended transactions

The worker seals and opens values while its transaction has no request pending. When that
takes a later task, the transaction has ended before the value is written or the next one is
read, so nothing is ever indexed.
-/

namespace ElvishMail.Search

open Js Semantics

section Later

variable {Key Value Score : Type} {stores : Stores Key} {tx : Transaction (Stores Key)}

theorem sealJSON_later (idle : tx.pending = 0) (key : Key) (value : Value) :
    sealJSON .later key value tx = .ok (.sealed key value) { tx with finished := true } := by
  rw [sealJSON, Script.bind_ok (Script.pause_later idle)]
  rfl

theorem get_of_open (unfinished : tx.finished = false) (store : ObjectStore Key Value) (key : JsString) :
    get store key tx = .ok (store.value tx.stores key) tx := by
  rw [get, Script.request_of_open unfinished]

theorem get_of_finished (finished : tx.finished = true) (store : ObjectStore Key Value) (key : JsString) :
    get store key tx = .error transactionInactive { tx with late := true } :=
  Script.request_of_finished finished

theorem put_of_finished (finished : tx.finished = true) (store : ObjectStore Key Value) (key : JsString)
    (value : Envelope Key Value) :
    put store key value tx = .error transactionInactive { tx with late := true } :=
  Script.request_of_finished finished

variable [DecidableEq Key] {indexKey : Key}

def Envelope.key? : Envelope Key Value → Option Key
  | .sealed key _ => some key
  | .other => none

def Foreign (indexKey : Key) (found : Option (Envelope Key Value)) : Prop :=
  ∃ key, found.bind Envelope.key? = some key ∧ key ≠ indexKey

instance (found : Option (Envelope Key Value)) : Decidable (Foreign indexKey found) :=
  match sealer : found.bind Envelope.key? with
  | none => .isFalse fun ⟨_, same, _⟩ => nomatch sealer.symm.trans same
  | some key =>
    if own : key = indexKey then
      .isFalse fun ⟨_, same, other⟩ => other (Option.some.inj (same.symm.trans sealer) ▸ own)
    else .isTrue ⟨key, sealer, own⟩

theorem openFound_foreign {found : Option (Envelope Key Value)} (foreign : Foreign indexKey found)
    (idle : tx.pending = 0) :
    openFound .later indexKey found tx =
      .error (.thrown (lit "OperationError")) { tx with finished := true } := by
  obtain ⟨key, sealer, other⟩ := foreign
  rcases found with _ | ⟨own, value⟩ | _ <;> cases sealer
  rw [openFound, openJSON, Script.bind_ok (Script.pause_later idle), if_neg other]
  rfl

theorem openFound_readable {found : Option (Envelope Key Value)} (readable : ¬Foreign indexKey found)
    (idle : tx.pending = 0) :
    ∃ opened, openFound .later indexKey found tx =
      .ok opened { tx with finished := tx.finished || (found.bind Envelope.key?).isSome } := by
  rcases found with _ | ⟨key, value⟩ | _
  · exact ⟨none, by simp only [Option.bind_none, Option.isSome_none, Bool.or_false]; rfl⟩
  · have own : key = indexKey := by
      by_contra other
      exact readable ⟨key, rfl, other⟩
    refine ⟨some value, ?_⟩
    rw [openFound, openJSON, Script.bind_ok (Script.pause_later idle), if_pos own]
    simp only [Option.bind_some, Envelope.key?, Option.isSome_some, Bool.or_true]
    rfl
  · exact ⟨none, by simp only [Option.bind_some, Envelope.key?, Option.isSome_none, Bool.or_false]; rfl⟩

omit [DecidableEq Key] in
theorem writeMeta_later (identityFingerprint now : JsString) :
    writeMeta .later indexKey identityFingerprint now { stores } =
      .error transactionInactive { stores, finished := true, late := true } := by
  rw [writeMeta, Script.bind_ok (sealJSON_later rfl ..), put_of_finished rfl]

theorem writePostings_later (messageId : JsString) (entry : TermEntry) (rest : List TermEntry)
    (snippet now : JsString) :
    ∃ err, writePostings .later indexKey messageId (entry :: rest) snippet now { stores } =
      .error err
        { stores
          finished := true
          late := !decide (Foreign indexKey (storeTerms.value stores entry.term)) } := by
  have read : get storeTerms entry.term { stores } =
      .ok (storeTerms.value stores entry.term) { stores } := get_of_open rfl ..
  rw [writePostings, writeTerms]
  by_cases foreign : Foreign indexKey (storeTerms.value stores entry.term)
  · refine ⟨.thrown (lit "OperationError"), ?_⟩
    rw [Script.bind_error ((Script.bind_ok read).trans
      (Script.bind_error (openFound_foreign foreign rfl))), decide_eq_true foreign]
    rfl
  · obtain ⟨opened, reads⟩ : ∃ opened, openFound .later indexKey _ { stores } = .ok opened _ :=
      openFound_readable foreign rfl
    refine ⟨transactionInactive, ?_⟩
    rw [Script.bind_error ((Script.bind_ok read).trans ((Script.bind_ok reads).trans
      ((Script.bind_ok (sealJSON_later rfl ..)).trans (Script.bind_error (put_of_finished rfl ..))))),
      decide_eq_false foreign]
    rfl

theorem writePostings_later_stores (messageId : JsString) (entries : List TermEntry)
    (snippet now : JsString) :
    ((writePostings .later indexKey messageId entries snippet now).inTransaction stores).2 = stores := by
  cases entries with
  | nil =>
    have written : writeTerms .later indexKey messageId [] { stores } = .ok () { stores } := rfl
    rw [Script.inTransaction, writePostings, Script.bind_ok written,
      Script.bind_ok (sealJSON_later rfl ..), put_of_finished rfl]
  | cons entry rest =>
    obtain ⟨err, failed⟩ : ∃ err, writePostings .later indexKey messageId (entry :: rest) snippet now
        { stores } = .error err _ := writePostings_later messageId entry rest snippet now
    rw [Script.inTransaction, failed]

theorem sumLengths_later (unfinished : tx.finished = false) (idle : tx.pending = 0)
    (values : List (Envelope Key DocRow)) (sums : Nat × Nat) :
    ∃ err, sumLengths .later indexKey values sums tx =
      match values.findSome? Envelope.key? with
      | none => .ok sums tx
      | some key => .error err { tx with finished := true, late := tx.late || decide (key = indexKey) } := by
  induction values with
  | nil => exact ⟨.hung, rfl⟩
  | cons value rest ih =>
    obtain ⟨total, n⟩ := sums
    rw [sumLengths]
    cases value with
    | other =>
      obtain ⟨err, onward⟩ := ih
      refine ⟨err, Eq.trans ?_ onward⟩
      have opened : openJSON .later indexKey (.other : Envelope Key DocRow) tx = .ok none tx := rfl
      have advanced : advanceCursor tx = .ok () tx := Script.request_of_open unfinished
      rw [Script.bind_ok opened, Script.bind_ok advanced]
    | sealed key doc =>
      by_cases own : key = indexKey
      · refine ⟨transactionInactive, ?_⟩
        have opened : openJSON .later indexKey (.sealed key doc) tx =
            .ok (some doc) { tx with finished := true } := by
          rw [openJSON, Script.bind_ok (Script.pause_later idle), if_pos own]
          rfl
        have late : advanceCursor { tx with finished := true } =
            .error transactionInactive { tx with finished := true, late := true } :=
          Script.request_of_finished rfl
        rw [Script.bind_ok opened, Script.bind_error late]
        simp only [List.findSome?_cons, Envelope.key?, own, decide_true, Bool.or_true]
      · refine ⟨.thrown (lit "OperationError"), ?_⟩
        have thrown : openJSON .later indexKey (.sealed key doc) tx =
            .error (.thrown (lit "OperationError")) { tx with finished := true } := by
          rw [openJSON, Script.bind_ok (Script.pause_later idle), if_neg own]
          rfl
        rw [Script.bind_error thrown]
        simp only [List.findSome?_cons, Envelope.key?, own, decide_false, Bool.or_false]

/-- The postings of the first term that has any stored are read too late, and so is the next
term. -/
def readsLate (indexKey : Key) (stores : Stores Key) : List TermEntry → Bool
  | [] => false
  | entry :: rest =>
    match storeTerms.value stores entry.term with
    | some (.sealed key row) => key = indexKey ∧ (row.postings ≠ [] ∨ rest ≠ [])
    | _ => readsLate indexKey stores rest

variable (lib : Library Score)

theorem scoreTerms_later (unfinished : tx.finished = false) (idle : tx.pending = 0)
    (documents : Nat) (avgdl : Nat × Nat) (entries : List TermEntry) :
    ∃ ended, ended.late = (tx.late || readsLate indexKey tx.stores entries) ∧
      (scoreTerms lib .later indexKey documents avgdl entries [] tx = .ok [] ended ∨
        ∃ err, scoreTerms lib .later indexKey documents avgdl entries [] tx = .error err ended) := by
  induction entries with
  | nil => exact ⟨tx, (Bool.or_false _).symm, .inl rfl⟩
  | cons entry rest ih =>
    have read : get storeTerms entry.term tx = .ok (storeTerms.value tx.stores entry.term) tx :=
      get_of_open unfinished ..
    rw [scoreTerms, readsLate, Script.bind_ok read]
    cases found : storeTerms.value tx.stores entry.term with
    | none =>
      have opened : openFound .later indexKey (none : Option (Envelope Key TermRow)) tx =
        .ok none tx := rfl
      rw [Script.bind_ok opened]
      exact ih
    | some envelope =>
    cases envelope with
    | other =>
      have opened : openFound .later indexKey (some (.other : Envelope Key TermRow)) tx =
        .ok none tx := rfl
      rw [Script.bind_ok opened]
      exact ih
    | sealed key row =>
      dsimp only
      by_cases own : key = indexKey
      · have opened : openFound .later indexKey (some (.sealed key row)) tx =
            .ok (some row) { tx with finished := true } := by
          rw [openFound, openJSON, Script.bind_ok (Script.pause_later idle), if_pos own]
          rfl
        rw [Script.bind_ok opened]
        cases postings : row.postings with
        | cons posting others =>
          have late : get storeDocs posting.messageId { tx with finished := true } =
              .error transactionInactive { tx with finished := true, late := true } :=
            get_of_finished rfl ..
          refine ⟨{ tx with finished := true, late := true }, by simp [own],
            .inr ⟨transactionInactive, ?_⟩⟩
          dsimp only
          rw [postings, scorePostings]
          exact Script.bind_error (Script.bind_error late)
        | nil =>
          have scored : scorePostings lib .later indexKey documents avgdl row.df []
              [] { tx with finished := true } = .ok [] { tx with finished := true } := rfl
          dsimp only
          rw [postings, Script.bind_ok scored]
          cases rest with
          | nil => exact ⟨_, by simp, .inl rfl⟩
          | cons next further =>
            have late : get storeTerms next.term { tx with finished := true } =
                .error transactionInactive { tx with finished := true, late := true } :=
              get_of_finished rfl ..
            rw [scoreTerms, Script.bind_error late]
            exact ⟨_, by simp [own], .inr ⟨_, rfl⟩⟩
      · have thrown : openFound .later indexKey (some (.sealed key row)) tx =
            .error (.thrown (lit "OperationError")) { tx with finished := true } :=
          openFound_foreign ⟨key, rfl, own⟩ idle
        rw [Script.bind_error thrown]
        exact ⟨_, by simp [own], .inr ⟨_, rfl⟩⟩

/-- A search on a transaction that is ended by opening a value is in time as long as the
first value that the cursor comes by is not its own and, if none is sealed, nothing is read
after the first term that has any stored. -/
def SearchesInTime (lib : Library Score) (indexKey : Key) (stores : Stores Key) (q : JsString) : Prop :=
  queryTerms lib q = [] ∨
    match (stores.docs.map Prod.snd).findSome? Envelope.key? with
    | some key => key ≠ indexKey
    | none => readsLate indexKey stores (queryTerms lib q) = false

theorem handleSearch_timely_iff (q : JsString) (limit : Nat) :
    (handleSearch lib .later indexKey q limit).Timely stores ↔ SearchesInTime lib indexKey stores q := by
  unfold handleSearch SearchesInTime
  cases terms : queryTerms lib q with
  | nil => exact ⟨fun _ => .inl rfl, fun _ => rfl⟩
  | cons entry rest =>
    have counted : countDocs { stores } = .ok stores.docs.length { stores } :=
      Script.request_of_open rfl
    have opened : openCursor { stores } = .ok (stores.docs.map Prod.snd) { stores } :=
      Script.request_of_open rfl
    obtain ⟨err, lengths⟩ : ∃ err, sumLengths .later indexKey _ (0, 0) { stores } = _ :=
      sumLengths_later rfl rfl (stores.docs.map Prod.snd) (0, 0)
    rw [or_iff_right (List.cons_ne_nil _ _)]
    dsimp only
    cases first : (stores.docs.map Prod.snd).findSome? Envelope.key? with
    | some key =>
      rw [first] at lengths
      have hung : averageDocLength .later indexKey { stores } =
          .error .hung { stores, finished := true, late := false || decide (key = indexKey) } := by
        rw [averageDocLength, Script.bind_ok opened, Script.callback, lengths]
      rw [Script.Timely, Script.after, searchTerms, Script.bind_ok counted, Script.bind_error hung]
      simp
    | none =>
      rw [first] at lengths
      have summed : averageDocLength .later indexKey { stores } = .ok (0, 0) { stores } := by
        rw [averageDocLength, Script.bind_ok opened, Script.callback, lengths]
      obtain ⟨ended, late, found | ⟨failed, thrown⟩⟩ :=
        @scoreTerms_later _ _ { stores } _ indexKey lib rfl rfl stores.docs.length (0, 0) (entry :: rest)
      · rw [Script.Timely, Script.after, searchTerms, Script.bind_ok counted, Script.bind_ok summed,
          Script.bind_ok found]
        have ranked : ∀ limit, rank lib limit ([] : List (JsString × Score)) = [] :=
          fun limit => List.take_nil
        have collected : collectHits .later indexKey [] ended = .ok ([] : List (Hit Score)) ended := rfl
        rw [ranked, collected]
        simp [late]
      · rw [Script.Timely, Script.after, searchTerms, Script.bind_ok counted, Script.bind_ok summed,
          Script.bind_error thrown]
        simp [late]

/-- When sealing and opening take a later task, `writeMeta` always places a request on a
transaction that has ended; so does `writePostings` for any terms, unless the row of the first
one cannot be opened, and it writes nothing. A search does not under `SearchesInTime`. -/
theorem timely_iff (identityFingerprint now messageId snippet q : JsString) (entry : TermEntry)
    (rest : List TermEntry) (limit : Nat) :
    ¬(writeMeta .later indexKey identityFingerprint now).Timely stores ∧
      ((writePostings .later indexKey messageId (entry :: rest) snippet now).Timely stores ↔
        Foreign indexKey (storeTerms.value stores entry.term)) ∧
      ((writePostings .later indexKey messageId (entry :: rest) snippet now).inTransaction stores).2 =
        stores ∧
      ((handleSearch lib .later indexKey q limit).Timely stores ↔
        SearchesInTime lib indexKey stores q) := by
  obtain ⟨err, written⟩ : ∃ err, writePostings .later indexKey messageId (entry :: rest) snippet now
      { stores } = .error err _ := writePostings_later messageId entry rest snippet now
  refine ⟨?_, ?_, writePostings_later_stores .., handleSearch_timely_iff lib q limit⟩
  · rw [Script.Timely, Script.after, writeMeta_later]
    exact Bool.noConfusion
  · rw [Script.Timely, Script.after, written]
    simp

end Later

/-- A message with one term is indexed in an empty index: its row would be written on a
transaction that has ended. -/
theorem postings_written_late :
    (writePostings Timing.later 1 (lit "m1") [⟨lit "tea", 1, [0]⟩] (lit "tea") (lit "now")).inTransaction
        {} = (.error transactionInactive, {}) ∧
      ¬∀ (indexKey : Nat) (messageId : JsString) (terms : List TermEntry) (snippet now : JsString)
        (stores : Stores Nat), terms ≠ [] →
        (writePostings .later indexKey messageId terms snippet now).Timely stores := by
  refine ⟨by decide, fun always => ?_⟩
  have timely := always 1 (lit "m1") [⟨lit "tea", 1, [0]⟩] (lit "tea") (lit "now") {} (by decide)
  exact absurd timely (by unfold Script.Timely; decide)

end ElvishMail.Search
