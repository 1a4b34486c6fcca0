import Mathlib.Data.List.Perm.Subperm
import ElvishMail.Search.LocalSearch

/-!
# Which requests are answered

The promise of a search that the worker completes is resolved with its hits. The other
replies do not say which request they answer, so the page drops them: the promise of a
request of another kind, or of one that has failed, waits for its timer, and `start` never
gets to set `ready`.
-/

namespace ElvishMail.Search

open Js Semantics

variable {Hit : Type}

def Exchange.own (exchange : Exchange Hit) : Value Hit :=
  match exchange.letter.message.request, exchange.ended with
  | .search .., .ok hits => .hits hits
  | _, _ => .data exchange.reply

/-- A promise is settled by its exchange: resolved with its value, or rejected if it failed. -/
def Exchange.Settles (exchange : Exchange Hit) (settlement : Option (Settlement Hit)) : Prop :=
  match exchange.ended with
  | .ok _ => settlement = some (.resolved exchange.own)
  | .error _ => ∃ err, settlement = some (.rejected err)

/-- Every request that was answered has settled its own promise, no promise is resolved by
the reply to another request, and after an `init` without error searches are sent. -/
structure System.Agrees (system : System Hit) : Prop where
  settled : ∀ exchange ∈ system.answered, ∀ promise ∈ exchange.letter.promise,
    exchange.Settles (system.page.settlement promise)
  own : ∀ promise value, system.page.settlement promise = some (.resolved value) →
    ∃ exchange ∈ system.answered, exchange.letter.promise = some promise ∧ exchange.own = value
  started : ∀ exchange ∈ system.answered, ∀ fingerprint seed,
    exchange.letter.message.request = .init fingerprint seed → exchange.ended.isOk = true →
      system.page.ready = true ∧ ∀ q limit, (system.page.searchBody q limit).2 ≠ none

def System.underWay (system : System Hit) : List Letter :=
  (system.worker.elim [] fun worker => worker.inbox ++ worker.running) ++
    system.wire.map Exchange.letter

/-- No timer runs out while its request is under way. -/
def InTime (system : System Hit) : Event Hit → Prop
  | .expire promise => ∀ letter ∈ system.underWay, letter.promise ≠ some promise
  | _ => True

def Exchange.Heard (exchange : Exchange Hit) : Prop :=
  ∃ q limit hits, exchange.letter.message.request = .search q limit ∧ exchange.ended = .ok hits

section Page

variable {page : LocalSearch Hit} {promise other : Nat} {how : Settlement Hit}

/-- A promise is pending under its own number and its timer runs. -/
structure LocalSearch.Waits (page : LocalSearch Hit) (promise : Nat) : Prop where
  timer : page.timers promise = some promise
  slot : ∃ expected, page.pending promise = some ⟨promise, expected⟩
  unsettled : page.settlement promise = none

def LocalSearch.sent (page : LocalSearch Hit) (request : Request) (expected : List JsString) :
    LocalSearch Hit × Letter :=
  ({ page with
      nextRequestId := page.nextRequestId + 1
      promises := page.promises + 1
      timers := Function.update page.timers (page.promises + 1) (some page.nextRequestId)
      pending := Function.update page.pending page.nextRequestId (some ⟨page.promises + 1, expected⟩) },
    ⟨⟨request, some page.nextRequestId⟩, some (page.promises + 1)⟩)

theorem search_eq_sent (counted : page.nextRequestId = page.promises + 1) (q : JsString) (limit : Nat) :
    page.search q limit = page.sent (.search q limit) [lit "searchResult"] := by
  simp only [LocalSearch.search, LocalSearch.send, LocalSearch.chooseId, LocalSearch.sent, counted]

def LocalSearch.close (page : LocalSearch Hit) (promise : Nat) (how : Settlement Hit) : LocalSearch Hit :=
  { page with
    timers := Function.update page.timers promise none
    pending := Function.update page.pending promise none }.settle promise how

theorem close_eq (unsettled : page.settlement promise = none) :
    page.close promise how =
      { page with
        timers := Function.update page.timers promise none
        pending := Function.update page.pending promise none
        settlement := Function.update page.settlement promise (some how)
        ready := page.ready || (page.starting.contains promise && match how with
          | .resolved _ => true
          | .rejected _ => false) } := by
  unfold LocalSearch.close LocalSearch.settle
  dsimp only
  rw [unsettled]
  cases how <;> simp

theorem LocalSearch.Waits.close (waits : page.Waits other) (apart : other ≠ promise)
    (unsettled : page.settlement promise = none) : (page.close promise how).Waits other := by
  obtain ⟨timer, slot, unsettledOther⟩ := waits
  rw [close_eq unsettled]
  constructor <;> simpa [Function.update_of_ne apart]

theorem onMessage_searchResult (waits : page.Waits promise) (positive : 0 < promise) (hits : List Hit) :
    page.onMessage (.searchResult (some promise) hits) = page.close promise (.resolved (.hits hits)) := by
  obtain ⟨before, rfl⟩ : ∃ before, promise = before + 1 := ⟨promise - 1, by omega⟩
  obtain ⟨expected, slot⟩ := waits.slot
  have other : ¬(lit "searchResult" = lit "indexed" ∨ lit "searchResult" = lit "error") := by decide
  unfold LocalSearch.onMessage
  simp only [Reply.kind, if_neg other, Reply.requestId, slot]
  rfl

theorem onMessage_of_anonymous {data : Reply Hit} (anonymous : data.requestId = none) :
    page.onMessage data = page := by
  unfold LocalSearch.onMessage
  rw [anonymous]
  split <;> rfl

end Page

section Replies

variable {exchange : Exchange Hit}

theorem reply_of_search {q : JsString} {limit : Nat} {hits : List Hit}
    (search : exchange.letter.message.request = .search q limit) (ended : exchange.ended = .ok hits) :
    exchange.reply = .searchResult exchange.letter.message.requestId hits := by
  have posted := exchange.posted
  simp only [onmessage, ended, search] at posted
  exact (Option.some.inj posted).symm

theorem anonymous_of_not_heard (unheard : ¬exchange.Heard) : exchange.reply.requestId = none := by
  have posted := exchange.posted
  unfold onmessage at posted
  split at posted
  case h_4 hits q limit ended search => exact absurd ⟨q, limit, hits, search, ended⟩ unheard
  case h_5 => cases posted
  all_goals rw [← Option.some.inj posted]; rfl

theorem Exchange.Heard.settles (heard : exchange.Heard) {settlement : Option (Settlement Hit)}
    (resolved : settlement = some (.resolved exchange.own)) : exchange.Settles settlement := by
  obtain ⟨q, limit, hits, search, ended⟩ := heard
  rw [Exchange.Settles, ended]
  exact resolved

end Replies

def promisesOf (letters : List Letter) : List Nat := letters.filterMap Letter.promise

/-- The message of a letter has the number of its promise, and is an `init` if `start` awaits
it. -/
structure Letter.Numbered (page : LocalSearch Hit) (letter : Letter) : Prop where
  id : letter.message.requestId = letter.promise
  made : ∀ promise ∈ letter.promise, 0 < promise ∧ promise ≤ page.promises
  starting : ∀ promise ∈ letter.promise, promise ∈ page.starting →
    ∃ fingerprint seed, letter.message.request = .init fingerprint seed
  awaited : ∀ fingerprint seed, letter.message.request = .init fingerprint seed →
    letter.promise ≠ none

/-- What has become of the promise of a request that was answered. -/
def Exchange.Outcome (page : LocalSearch Hit) (exchange : Exchange Hit) (promise : Nat) : Prop :=
  (exchange.Heard ∧ page.timers promise = none ∧
      page.settlement promise = some (.resolved exchange.own)) ∨
    ¬exchange.Heard ∧ (page.Waits promise ∨ page.timers promise = none ∧
      page.settlement promise = some (.rejected (lit "search worker timeout")))

theorem Exchange.Outcome.close {page : LocalSearch Hit} {exchange : Exchange Hit}
    {promise other : Nat} {how : Settlement Hit} (outcome : exchange.Outcome page other)
    (waits : page.Waits promise) (apart : other ≠ promise) :
    exchange.Outcome (page.close promise how) other := by
  have timer : (page.close promise how).timers other = page.timers other := by
    rw [close_eq waits.unsettled]
    exact Function.update_of_ne apart _ _
  have settlement : (page.close promise how).settlement other = page.settlement other := by
    rw [close_eq waits.unsettled]
    exact Function.update_of_ne apart _ _
  rcases outcome with ⟨heard, stopped, resolved⟩ | ⟨unheard, pending | ⟨stopped, rejected⟩⟩
  · exact .inl ⟨heard, timer.trans stopped, settlement.trans resolved⟩
  · exact .inr ⟨unheard, .inl (pending.close apart waits.unsettled)⟩
  · exact .inr ⟨unheard, .inr ⟨timer.trans stopped, settlement.trans rejected⟩⟩

/-- Letters and promises belong together, and only completed searches resolve any. -/
structure Coherent (page : LocalSearch Hit) (underWay : List Letter)
    (answered : List (Exchange Hit)) : Prop where
  counted : page.nextRequestId = page.promises + 1
  unready : page.ready = false
  bounded : ∀ promise ∈ page.starting, promise ≤ page.promises
  unmade : ∀ promise, page.promises < promise → page.settlement promise = none
  numbered : ∀ letter ∈ underWay ++ answered.map Exchange.letter, letter.Numbered page
  distinct : (promisesOf (underWay ++ answered.map Exchange.letter)).Nodup
  waiting : ∀ letter ∈ underWay, ∀ promise ∈ letter.promise, page.Waits promise
  timed : ∀ promise, page.timers promise ≠ none → promise ≤ page.promises ∧ page.Waits promise
  outcome : ∀ exchange ∈ answered, ∀ promise ∈ exchange.letter.promise, exchange.Outcome page promise
  resolved : ∀ promise value, page.settlement promise = some (.resolved value) →
    ∃ exchange ∈ answered, exchange.letter.promise = some promise ∧ exchange.own = value

namespace Coherent

variable {page : LocalSearch Hit} {underWay fewer : List Letter} {answered : List (Exchange Hit)}
  {letter : Letter} {exchange : Exchange Hit} {promise : Nat}

theorem mono (coherent : Coherent page underWay answered) (subperm : fewer.Subperm underWay) :
    Coherent page fewer answered where
  counted := coherent.counted
  unready := coherent.unready
  bounded := coherent.bounded
  unmade := coherent.unmade
  numbered := by
    intro letter member
    rw [List.mem_append] at member
    exact coherent.numbered letter (List.mem_append.mpr (member.imp_left (subperm.subset ·)))
  distinct := by
    obtain ⟨same, perm, sublist⟩ := subperm
    have kept : (promisesOf (same ++ answered.map Exchange.letter)).Nodup :=
      coherent.distinct.sublist ((sublist.append (List.Sublist.refl _)).filterMap Letter.promise)
    exact ((perm.append_right _).filterMap Letter.promise).nodup_iff.mp kept
  waiting := fun letter member => coherent.waiting letter (subperm.subset member)
  timed := coherent.timed
  outcome := coherent.outcome
  resolved := coherent.resolved

theorem post (coherent : Coherent page underWay answered) (unnumbered : letter.message.requestId = none)
    (unawaited : letter.promise = none)
    (other : ∀ fingerprint seed, letter.message.request ≠ .init fingerprint seed) :
    Coherent page (letter :: underWay) answered where
  counted := coherent.counted
  unready := coherent.unready
  bounded := coherent.bounded
  unmade := coherent.unmade
  numbered := by
    rw [List.cons_append, List.forall_mem_cons]
    refine ⟨⟨unnumbered.trans unawaited.symm, ?_, ?_, ?_⟩, coherent.numbered⟩
    · simp [unawaited]
    · simp [unawaited]
    · exact fun fingerprint seed init => absurd init (other fingerprint seed)
  distinct := by
    rw [promisesOf, List.cons_append, List.filterMap_cons_none unawaited]
    exact coherent.distinct
  waiting := by
    rw [List.forall_mem_cons]
    exact ⟨by simp [unawaited], coherent.waiting⟩
  timed := coherent.timed
  outcome := coherent.outcome
  resolved := coherent.resolved

theorem waits_sent (coherent : Coherent page underWay answered) (waits : page.Waits promise)
    (request : Request) (expected : List JsString) (starting : List Nat) :
    { (page.sent request expected).1 with starting }.Waits promise := by
  obtain ⟨timer, slot, unsettled⟩ := waits
  have old := (coherent.timed promise (by simp [timer])).1
  have counted := coherent.counted
  constructor
  · simpa [LocalSearch.sent, Function.update_of_ne (show promise ≠ page.promises + 1 by omega)]
  · simpa [LocalSearch.sent, Function.update_of_ne (show promise ≠ page.nextRequestId by omega)]
  · exact unsettled

theorem send (coherent : Coherent page underWay answered) (request : Request)
    (expected : List JsString) {starting : List Nat}
    (awaited : ∀ promise ∈ starting, promise ∈ page.starting ∨
      promise = page.promises + 1 ∧ ∃ fingerprint seed, request = .init fingerprint seed) :
    Coherent { (page.sent request expected).1 with starting }
      ((page.sent request expected).2 :: underWay) answered := by
  have counted := coherent.counted
  have fresh : { (page.sent request expected).1 with starting }.Waits (page.promises + 1) :=
    { timer := by simp [LocalSearch.sent, counted]
      slot := ⟨expected, by simp [LocalSearch.sent, counted]⟩
      unsettled := coherent.unmade _ (Nat.lt_succ_self _) }
  have old : ∀ letter ∈ underWay ++ answered.map Exchange.letter, ∀ promise ∈ letter.promise,
      promise ≤ page.promises :=
    fun letter member promise its => ((coherent.numbered letter member).made promise its).2
  constructor
  · exact congrArg (· + 1) counted
  · exact coherent.unready
  · intro promise member
    rcases awaited promise member with before | ⟨rfl, -⟩
    · exact Nat.le_succ_of_le (coherent.bounded promise before)
    · exact Nat.le_refl _
  · exact fun promise later => coherent.unmade promise (Nat.lt_of_succ_lt later)
  · rw [List.cons_append, List.forall_mem_cons]
    constructor
    · refine ⟨congrArg some counted, ?_, ?_, fun _ _ _ => nofun⟩
      · rintro promise ⟨⟩
        exact ⟨Nat.succ_pos _, Nat.le_refl _⟩
      · rintro promise ⟨⟩ member
        rcases awaited _ member with before | ⟨-, init⟩
        · exact absurd (coherent.bounded _ before) (Nat.not_succ_le_self _)
        · exact init
    · intro letter member
      obtain ⟨id, made, init, awaits⟩ := coherent.numbered letter member
      refine ⟨id, fun promise its => (made promise its).imp_right Nat.le_succ_of_le, ?_, awaits⟩
      intro promise its listed
      rcases awaited promise listed with before | ⟨rfl, -⟩
      · exact init promise its before
      · exact absurd (made _ its).2 (Nat.not_succ_le_self _)
  · rw [List.cons_append]
    apply List.nodup_cons.mpr
    refine ⟨fun again => ?_, coherent.distinct⟩
    obtain ⟨letter, member, its⟩ := List.mem_filterMap.mp again
    exact absurd (old letter member _ its) (Nat.not_succ_le_self _)
  · rw [List.forall_mem_cons]
    constructor
    · rintro promise ⟨⟩
      exact fresh
    · intro letter member promise its
      exact coherent.waits_sent (coherent.waiting letter member promise its) request expected starting
  · intro promise running
    by_cases new : promise = page.promises + 1
    · exact new ▸ ⟨Nat.le_refl _, fresh⟩
    · have before : page.timers promise ≠ none := by
        simpa [LocalSearch.sent, Function.update_of_ne new] using running
      obtain ⟨made, waits⟩ := coherent.timed promise before
      exact ⟨Nat.le_succ_of_le made, coherent.waits_sent waits request expected starting⟩
  · intro exchange member promise its
    have made := old exchange.letter
      (List.mem_append_right _ (List.mem_map_of_mem member)) promise its
    have timer : (page.sent request expected).1.timers promise = page.timers promise :=
      Function.update_of_ne (by omega) _ _
    rcases coherent.outcome exchange member promise its with
      ⟨heard, stopped, resolved⟩ | ⟨unheard, waits | ⟨stopped, rejected⟩⟩
    · exact .inl ⟨heard, timer.trans stopped, resolved⟩
    · exact .inr ⟨unheard, .inl (coherent.waits_sent waits request expected starting)⟩
    · exact .inr ⟨unheard, .inr ⟨timer.trans stopped, rejected⟩⟩
  · exact coherent.resolved

theorem close (coherent : Coherent page underWay answered) {how : Settlement Hit}
    (waits : page.Waits promise) {arrived : List (Exchange Hit)} (fewerWays : fewer ⊆ underWay)
    (more : answered ⊆ arrived)
    (gone : ∀ letter ∈ fewer, letter.promise ≠ some promise)
    (numbered : ∀ letter ∈ fewer ++ arrived.map Exchange.letter, letter.Numbered page)
    (distinct : (promisesOf (fewer ++ arrived.map Exchange.letter)).Nodup)
    (outcome : ∀ exchange ∈ arrived, ∀ other ∈ exchange.letter.promise,
      if other = promise then exchange.Outcome (page.close promise how) promise
      else exchange.Outcome page other)
    (backed : ∀ value, how = .resolved value → promise ∉ page.starting ∧
      ∃ exchange ∈ arrived, exchange.letter.promise = some promise ∧ exchange.own = value) :
    Coherent (page.close promise how) fewer arrived := by
  have made := (coherent.timed promise (by simp [waits.timer])).1
  have closed : page.close promise how = _ := close_eq waits.unsettled
  constructor
  · rw [closed]
    exact coherent.counted
  · rw [closed, Bool.or_eq_false_iff]
    refine ⟨coherent.unready, ?_⟩
    cases how with
    | resolved value => simp [(backed value rfl).1]
    | rejected err => exact Bool.and_false _
  · rw [closed]
    exact coherent.bounded
  · intro other later
    rw [closed] at later ⊢
    have apart : other ≠ promise := by
      rintro rfl
      exact absurd later (Nat.not_lt.mpr made)
    exact (Function.update_of_ne apart _ _).trans (coherent.unmade other later)
  · intro letter member
    obtain ⟨id, made, starting, awaited⟩ := numbered letter member
    rw [closed]
    exact ⟨id, made, starting, awaited⟩
  · exact distinct
  · intro letter member other its
    refine (coherent.waiting letter (fewerWays member) other its).close ?_ waits.unsettled
    rintro rfl
    exact gone letter member its
  · intro other running
    by_cases same : other = promise
    · exact absurd (by rw [closed, same]; exact Function.update_self ..) running
    · have before : page.timers other ≠ none := by
        rw [closed] at running
        simpa [Function.update_of_ne same] using running
      obtain ⟨old, pending⟩ := coherent.timed other before
      refine ⟨?_, pending.close same waits.unsettled⟩
      rw [closed]
      exact old
  · intro exchange member other its
    have known := outcome exchange member other its
    split at known
    next same => exact same ▸ known
    next apart => exact known.close waits apart
  · intro other value settled
    by_cases same : other = promise
    · rw [closed, same] at settled
      have resolved : how = .resolved value := by simpa using settled
      rw [same]
      exact (backed value resolved).2
    · have before : page.settlement other = some (.resolved value) := by
        rw [closed] at settled
        simpa [Function.update_of_ne same] using settled
      obtain ⟨exchange, member, its, own⟩ := coherent.resolved other value before
      exact ⟨exchange, more member, its, own⟩

theorem deliver (coherent : Coherent page (exchange.letter :: underWay) answered) :
    Coherent (page.onMessage exchange.reply) underWay (answered ++ [exchange]) := by
  have perm : (underWay ++ (answered ++ [exchange]).map Exchange.letter).Perm
      (exchange.letter :: underWay ++ answered.map Exchange.letter) := by
    rw [List.map_append, ← List.append_assoc]
    exact List.perm_append_comm
  have numbered : ∀ letter ∈ underWay ++ (answered ++ [exchange]).map Exchange.letter,
      letter.Numbered page :=
    fun letter member => coherent.numbered letter (perm.mem_iff.mp member)
  have distinct : (promisesOf (underWay ++ (answered ++ [exchange]).map Exchange.letter)).Nodup :=
    (perm.filterMap Letter.promise).nodup_iff.mpr coherent.distinct
  have once : ∀ letter ∈ underWay ++ answered.map Exchange.letter, ∀ promise,
      exchange.letter.promise = some promise → letter.promise ≠ some promise := by
    intro letter member promise own again
    have nodup := coherent.distinct
    rw [promisesOf, List.cons_append, List.filterMap_cons_some own, List.nodup_cons] at nodup
    exact nodup.1 (List.mem_filterMap.mpr ⟨letter, member, again⟩)
  have rest : Coherent page underWay answered := coherent.mono (List.sublist_cons_self ..).subperm
  by_cases heard : exchange.Heard
  · obtain ⟨q, limit, hits, search, ended⟩ := id heard
    have own : exchange.own = .hits hits := by simp only [Exchange.own, search, ended]
    have first := coherent.numbered exchange.letter (List.mem_cons_self ..)
    rw [reply_of_search search ended, first.id]
    cases awaited : exchange.letter.promise with
    | none =>
      rw [onMessage_of_anonymous rfl]
      refine { rest with numbered, distinct, outcome := ?_, resolved := ?_ }
      · intro other member promise its
        rcases List.mem_append.mp member with before | last
        · exact rest.outcome other before promise its
        · cases List.mem_singleton.mp last
          exact nomatch awaited.symm.trans its
      · intro promise value settled
        obtain ⟨other, member, its⟩ := rest.resolved promise value settled
        exact ⟨other, List.mem_append_left _ member, its⟩
    | some promise =>
      have waits := coherent.waiting exchange.letter (List.mem_cons_self ..) promise awaited
      rw [onMessage_searchResult waits (first.made promise awaited).1]
      refine rest.close waits (List.Subset.refl _) (List.subset_append_left ..) ?_ numbered distinct ?_ ?_
      · exact fun letter member => once letter (List.mem_append_left _ member) promise awaited
      · intro other member number its
        rcases List.mem_append.mp member with before | last
        · rw [if_neg]
          · exact rest.outcome other before number its
          · rintro rfl
            exact once other.letter (List.mem_append_right _ (List.mem_map_of_mem before)) _ awaited its
        · cases List.mem_singleton.mp last
          have same : number = promise := Option.some.inj (its.symm.trans awaited)
          rw [if_pos same]
          refine .inl ⟨heard, ?_, ?_⟩ <;> simp [close_eq waits.unsettled, own]
      · rintro value ⟨⟩
        refine ⟨fun starting => ?_, exchange, List.mem_append_right _ (List.mem_singleton_self _),
          awaited, own⟩
        obtain ⟨fingerprint, seed, init⟩ := first.starting promise awaited starting
        exact nomatch search.symm.trans init
  · rw [onMessage_of_anonymous (anonymous_of_not_heard heard)]
    refine { rest with numbered, distinct, outcome := ?_, resolved := ?_ }
    · intro other member promise its
      rcases List.mem_append.mp member with before | last
      · exact rest.outcome other before promise its
      · cases List.mem_singleton.mp last
        exact .inr ⟨heard, .inl (coherent.waiting exchange.letter (List.mem_cons_self ..) promise its)⟩
    · intro promise value settled
      obtain ⟨other, member, its⟩ := rest.resolved promise value settled
      exact ⟨other, List.mem_append_left _ member, its⟩

theorem expire (coherent : Coherent page underWay answered) {after : LocalSearch Hit}
    (late : ∀ letter ∈ underWay, letter.promise ≠ some promise)
    (expired : page.expire promise = some after) : Coherent after underWay answered := by
  obtain ⟨id, timer, rfl⟩ := Option.map_eq_some_iff.mp expired
  obtain ⟨-, waits⟩ := coherent.timed promise (by simp [timer])
  have own : id = promise := Option.some.inj (timer.symm.trans waits.timer)
  subst own
  refine coherent.close waits (List.Subset.refl _) (List.Subset.refl _) late coherent.numbered
    coherent.distinct ?_ (fun value how => nomatch how)
  intro exchange member other its
  have outcome := coherent.outcome exchange member other its
  split
  next same =>
    subst same
    rcases outcome with ⟨-, stopped, -⟩ | ⟨unheard, -⟩
    · exact nomatch stopped.symm.trans timer
    · refine .inr ⟨unheard, .inr ?_⟩
      constructor <;> simp [close_eq waits.unsettled]
  next => exact outcome

end Coherent

section Runs

variable {system next : System Hit}

abbrev System.Coherent (system : System Hit) : Prop :=
  Search.Coherent system.page system.underWay system.answered

theorem underWay_post {worker : Worker} (there : system.worker = some worker)
    (sent : LocalSearch Hit × Letter) :
    (system.post worker sent).underWay.Perm (sent.2 :: system.underWay) := by
  simp only [System.post, System.underWay, there, Option.elim_some, List.append_assoc]
  exact List.perm_middle.trans ((List.Perm.refl _).cons _)

theorem Coherent.post_of_worker {worker : Worker}
    (there : system.worker = some worker) {sent : LocalSearch Hit × Letter}
    (onward : Search.Coherent sent.1 (sent.2 :: system.underWay) system.answered) :
    (system.post worker sent).Coherent :=
  onward.mono (underWay_post there sent).subperm

theorem System.Coherent.send (coherent : system.Coherent) (request : Request)
    (expected : List JsString) :
    Search.Coherent (system.page.sent request expected).1
      ((system.page.sent request expected).2 :: system.underWay) system.answered :=
  Search.Coherent.send coherent request expected fun _ before => .inl before

theorem System.Coherent.handle (coherent : system.Coherent) {page : System Hit}
    (same : page.page = system.page) (answered : page.answered = system.answered)
    (subperm : page.underWay.Subperm system.underWay) : page.Coherent := by
  rw [System.Coherent, same, answered]
  exact coherent.mono subperm

theorem System.Coherent.start (coherent : system.Coherent) (fingerprint : JsString)
    (seed : Option (List UInt8)) : (system.post {} (system.page.start fingerprint seed)).Coherent := by
  have onward : Search.Coherent (system.page.start fingerprint seed).1
      ((system.page.start fingerprint seed).2 :: system.underWay) system.answered := by
    refine Search.Coherent.send coherent (.init fingerprint seed) [lit "ready"] ?_
    intro promise member
    rcases List.mem_cons.mp member with rfl | before
    · exact .inr ⟨rfl, fingerprint, seed, rfl⟩
    · exact .inl before
  refine onward.mono ?_
  simp only [System.post, System.underWay, Option.elim_some, List.nil_append, List.cons_append]
  exact ((List.sublist_append_right _ _).cons_cons _).subperm

theorem System.Coherent.receive (coherent : system.Coherent)
    {identityFingerprint : JsString} {letter : Letter} {inbox running : List Letter}
    (there : system.worker = some { identityFingerprint, inbox := letter :: inbox, running }) :
    System.Coherent { system with
      worker := some <| Worker.begin
        { identityFingerprint, inbox, running := running ++ [letter] } letter.message.request } := by
  refine coherent.handle rfl rfl (List.Perm.subperm ?_)
  have begun (worker : Worker) (request : Request) : (worker.begin request).inbox = worker.inbox ∧
      (worker.begin request).running = worker.running := by
    unfold Worker.begin
    split <;> exact ⟨rfl, rfl⟩
  simp only [System.underWay, there, Option.elim_some, (begun _ _).1, (begun _ _).2]
  refine List.Perm.append_right _ ?_
  rw [← List.append_assoc]
  exact List.perm_append_singleton letter (inbox ++ running)

theorem System.Coherent.finish (coherent : system.Coherent) {worker : Worker}
    (there : system.worker = some worker) {index : Nat} (inside : index < worker.running.length)
    (ended : Except JsString (List Hit)) :
    (system.ended worker index worker.running[index] ended).Coherent := by
  have split : (worker.running[index] :: worker.running.eraseIdx index).Perm worker.running :=
    List.getElem_cons_eraseIdx_perm inside
  unfold System.ended
  split
  · refine coherent.handle rfl rfl (List.Sublist.subperm ?_)
    simp only [System.underWay, there, Option.elim_some]
    exact ((List.Sublist.refl _).append (List.eraseIdx_sublist ..)).append (List.Sublist.refl _)
  · refine coherent.handle rfl rfl (List.Perm.subperm ?_)
    simp only [System.underWay, there, Option.elim_some, List.map_append, List.map_cons,
      List.map_nil, ← List.append_assoc]
    refine (List.perm_append_singleton _ _).trans ?_
    rw [← List.cons_append]
    refine List.Perm.append_right _ (List.perm_middle.symm.trans ?_)
    exact split.append_left _

theorem System.Coherent.deliver (coherent : system.Coherent) {index : Nat}
    (inside : index < system.wire.length) :
    System.Coherent { system with
      page := system.page.onMessage system.wire[index].reply
      wire := system.wire.eraseIdx index
      answered := system.answered ++ [system.wire[index]] } := by
  have split : (system.wire[index] :: system.wire.eraseIdx index).Perm system.wire :=
    List.getElem_cons_eraseIdx_perm inside
  refine Search.Coherent.deliver (Search.Coherent.mono coherent (List.Perm.subperm ?_))
  simp only [System.underWay]
  exact List.perm_middle.symm.trans ((split.map Exchange.letter).append_left _)

theorem System.Coherent.step (coherent : system.Coherent) {event : Event Hit}
    (inTime : InTime system event) (taken : (dialogue Hit).step system event = some next) :
    next.Coherent := by
  cases event with
  | start fingerprint seed =>
    cases taken
    exact coherent.start fingerprint seed
  | indexMessage | cancel =>
    simp only [dialogue, System.step] at taken
    split at taken <;> cases taken
    · exact coherent
    next worker there =>
      exact Coherent.post_of_worker there (Search.Coherent.post coherent rfl rfl fun _ _ => nofun)
  | purge =>
    simp only [dialogue, System.step] at taken
    split at taken <;> cases taken
    · exact coherent
    next worker there => exact Coherent.post_of_worker there (coherent.send .purge [lit "purged"])
  | searchBody q limit =>
    -- `ready` was never set, so nothing is sent.
    have silent : system.page.searchBody q limit = (system.page, none) :=
      if_neg (by simp [coherent.unready])
    simp only [dialogue, System.step, silent] at taken
    split at taken
    next sent => cases congrArg Prod.snd sent
    next => exact Option.some.inj taken ▸ coherent
  | search q limit =>
    obtain ⟨worker, there, rfl⟩ := Option.map_eq_some_iff.mp taken
    rw [search_eq_sent coherent.counted]
    exact Coherent.post_of_worker there (coherent.send (.search q limit) [lit "searchResult"])
  | receive =>
    simp only [dialogue, System.step] at taken
    split at taken <;> cases taken
    next there => exact coherent.receive there
  | finish index ended =>
    simp only [dialogue, System.step] at taken
    split at taken
    · cases taken
    next worker there =>
    obtain ⟨letter, found, rfl⟩ := Option.map_eq_some_iff.mp taken
    obtain ⟨inside, rfl⟩ := List.getElem?_eq_some_iff.mp found
    exact coherent.finish there inside ended
  | deliver index =>
    obtain ⟨exchange, found, rfl⟩ := Option.map_eq_some_iff.mp taken
    obtain ⟨inside, rfl⟩ := List.getElem?_eq_some_iff.mp found
    exact coherent.deliver inside
  | expire promise =>
    obtain ⟨page, expired, rfl⟩ := Option.map_eq_some_iff.mp taken
    exact Search.Coherent.expire coherent inTime expired

theorem coherent (runs : (dialogue Hit).Runs InTime {} system) : system.Coherent := by
  refine runs.invariant System.Coherent ?_ fun coherent inTime taken => coherent.step inTime taken
  constructor <;> simp [System.underWay, promisesOf]

/-- The page and its worker agree exactly when every request answered is a search that was
completed, or has failed and its time has run out. -/
theorem agrees_iff_heard (runs : (dialogue Hit).Runs InTime {} system) :
    system.Agrees ↔ ∀ exchange ∈ system.answered, ∀ promise ∈ exchange.letter.promise,
      exchange.Heard ∨ exchange.ended.isOk = false ∧ system.page.timers promise = none := by
  have coherent := coherent runs
  constructor
  · intro agrees exchange member promise its
    rcases coherent.outcome exchange member promise its with
      ⟨heard, -⟩ | ⟨-, waits | ⟨stopped, rejected⟩⟩
    · exact .inl heard
    · have settled := agrees.settled exchange member promise its
      rw [waits.unsettled, Exchange.Settles] at settled
      split at settled
      · cases settled
      · exact nomatch settled
    · have settled := agrees.settled exchange member promise its
      rw [rejected, Exchange.Settles] at settled
      split at settled
      · cases settled
      next failed => exact .inr ⟨by rw [failed]; rfl, stopped⟩
  · intro condition
    refine ⟨fun exchange member promise its => ?_, coherent.resolved, ?_⟩
    · rcases coherent.outcome exchange member promise its with
        ⟨heard, -, resolved⟩ | ⟨unheard, waits | ⟨stopped, rejected⟩⟩
      · exact heard.settles resolved
      · rcases condition exchange member promise its with heard | ⟨-, stopped⟩
        · exact absurd heard unheard
        · exact nomatch stopped.symm.trans waits.timer
      · rcases condition exchange member promise its with heard | ⟨failed, -⟩
        · exact absurd heard unheard
        · rw [Exchange.Settles]
          split
          next hits ended =>
            rw [ended] at failed
            cases failed
          next => exact ⟨_, rejected⟩
    · intro exchange member fingerprint seed init succeeded
      have numbered := coherent.numbered exchange.letter
        (List.mem_append_right _ (List.mem_map_of_mem member))
      obtain ⟨promise, its⟩ := Option.ne_none_iff_exists'.mp (numbered.awaited fingerprint seed init)
      rcases condition exchange member promise its with ⟨q, limit, hits, search, -⟩ | ⟨failed, -⟩
      · exact nomatch init.symm.trans search
      · exact absurd succeeded (by simp [failed])

end Runs

/-- A search is sent after an `init`, and completed first. -/
def sampleSearch : List (Event Nat) :=
  [.start (lit "A1") (some [1]), .search (lit "tea") 25, .receive, .receive, .finish 1 (.ok [7]),
    .deliver 0]

/-- It gets its hits. -/
theorem agrees_iff_heard_search :
    ((dialogue Nat).after sampleSearch {}).Agrees ∧
      ((dialogue Nat).after sampleSearch {}).page.settlement 2 = some (.resolved (.hits [7])) := by
  have answered : ∀ exchange ∈ ((dialogue Nat).after sampleSearch {}).answered,
      exchange.letter.message.request = .search (lit "tea") 25 ∧
        exchange.ended.toOption = some [7] := by
    decide
  refine ⟨(agrees_iff_heard (Machine.after_runs sampleSearch ?_)).mpr ?_, by decide⟩
  · exact ⟨trivial, trivial, trivial, trivial, trivial, trivial, trivial⟩
  · intro exchange member promise its
    obtain ⟨search, completed⟩ := answered exchange member
    refine .inl ⟨lit "tea", 25, [7], search, ?_⟩
    cases ended : exchange.ended with
    | error err =>
      rw [ended] at completed
      cases completed
    | ok hits =>
      rw [ended] at completed
      cases completed
      rfl

/-- A `purge` without error after an `init` that has failed, and the time it is given. -/
def samplePurge : List (Event Nat) :=
  [.start (lit "A1") (some [1]), .receive, .finish 0 (.error (lit "TransactionInactiveError")),
    .deliver 0, .purge, .receive, .finish 0 (.ok []), .deliver 0, .expire 2]

/-- The promise of a `purge` without error is not resolved but rejected by its timer. -/
theorem purge_times_out :
    ((dialogue Nat).after samplePurge {}).page.settlement 2 =
        some (.rejected (lit "search worker timeout")) ∧
      ¬∀ system : System Nat, (dialogue Nat).Runs InTime {} system → system.Agrees := by
  have rejected : ((dialogue Nat).after samplePurge {}).page.settlement 2 =
      some (.rejected (lit "search worker timeout")) := by decide
  refine ⟨rejected, fun always => ?_⟩
  have agrees : ((dialogue Nat).after samplePurge {}).Agrees := by
    refine always _ (Machine.after_runs samplePurge ?_)
    have late : ∀ letter ∈ ((dialogue Nat).after (samplePurge.take 8) {}).underWay,
        letter.promise ≠ some 2 := by
      decide
    exact ⟨trivial, trivial, trivial, trivial, trivial, trivial, trivial, trivial, late, trivial⟩
  have answered : ∃ exchange ∈ ((dialogue Nat).after samplePurge {}).answered,
      exchange.letter.promise = some 2 ∧ exchange.ended.toOption = some [] := by
    decide
  obtain ⟨exchange, member, its, completed⟩ := answered
  have settled := agrees.settled exchange member 2 its
  rw [rejected, Exchange.Settles] at settled
  split at settled
  · cases settled
  next err ended =>
    rw [ended] at completed
    cases completed

end ElvishMail.Search
