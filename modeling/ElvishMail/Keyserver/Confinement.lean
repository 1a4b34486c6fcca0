import ElvishMail.Keyserver.Resolver

/-!
# Where the web key directory is asked

`WKDSource.Lookup` with the default client. The URLs that it makes are confined to the
domain of the address, under `https`. The client follows redirects, at most nine for a
request, and nothing looks at where they lead. So requests stay with the domain as long as
the servers keep them there. Ports are left out of URLs, and the replies to the requests for
a candidate are any sequence.
-/

namespace ElvishMail.Keyserver

open Go

inductive Reply where
  | response (response : Response)
  | redirect (target : URL)
  | failure

/-- `url.Parse`, which takes the text of a URL for its scheme and host, or refuses it. -/
structure Parser (tools : Tools) where
  parse : GoString → Option URL
  faithful : ∀ {url parsed}, parse (tools.text url) = some parsed →
    parsed.scheme = url.scheme ∧ parsed.host = url.host

/-- The client: the requests that it makes and what comes of them, where `hop` counts the replies. -/
def follow (replies : Nat → Reply) : Nat → Nat → URL → List URL × Attempt
  | 0, _, _ => ([], .failed)
  | requests + 1, hop, url =>
    match replies hop with
    | .response response => ([url], .answered response)
    | .failure => ([url], .failed)
    | .redirect target =>
      let (more, attempt) := follow replies requests (hop + 1) target
      (url :: more, attempt)

def redirects (replies : Nat → Reply) : Nat → Nat → List URL
  | 0, _ => []
  | left + 1, hop =>
    match replies hop with
    | .redirect target => target :: redirects replies left (hop + 1)
    | .response _ | .failure => []

section Requests

variable (tools : Tools) (parser : Parser tools) (now : Int) (replies : GoString → Nat → Reply)
  (email : GoString) (useDirect : Bool)

/-- `doWKDFetch` with the request that is made for it. -/
def wkdFetch (candidate : URL × GoString) : List URL × Attempt :=
  match parser.parse (tools.text candidate.1) with
  | none => ([], .invalid)
  | some url =>
    if tools.text url ≠ tools.text candidate.1 then ([], .failed)
    else follow (replies candidate.2) 10 0 url

def tried : List (URL × GoString) → List (URL × GoString)
  | [] => []
  | candidate :: rest =>
    if (wkdTry tools now (fun _ => (wkdFetch tools parser replies candidate).2) email candidate).isSome then
      [candidate]
    else candidate :: tried rest

def wkdRequests : List URL :=
  (tried tools parser now replies email (wkdCandidates tools email useDirect)).flatMap fun candidate =>
    (wkdFetch tools parser replies candidate).1

/-- The URL is HTTPS, at the domain of the address or its openpgpkey host. -/
def Confined (url : URL) : Prop :=
  let domain := (splitEmail tools.lib email).2
  url.scheme = ascii "https" ∧ wkdDomainOK tools domain = true ∧
    (url.host.map lowerByte = domain.map lowerByte ∨
      url.host.map lowerByte = (ascii "openpgpkey." ++ domain).map lowerByte)

variable {tools parser now replies email useDirect}

theorem wkdCandidates_confined {candidate : URL × GoString}
    (member : candidate ∈ wkdCandidates tools email useDirect) : Confined tools email candidate.1 := by
  unfold wkdCandidates at member
  dsimp only at member
  split at member
  · cases member
  next given =>
  have fine : wkdDomainOK tools (splitEmail tools.lib email).2 = true := by
    rw [not_or, not_or] at given
    exact Bool.not_eq_false _ ▸ given.2.2
  have either {list : List (URL × GoString)}
      (member : candidate ∈ if useDirect = true then list.drop (list.length - 1) else list) :
      candidate ∈ list := by
    split at member
    · exact List.mem_of_mem_drop member
    · exact member
  rcases List.mem_append.mp (either member) with made | made <;>
    rw [Option.mem_toList, Option.map_eq_some_iff] at made <;>
    obtain ⟨url, made, rfl⟩ := made
  · rw [newWKDAdvancedURL, if_neg (by rw [fine]; decide)] at made
    cases made
    exact ⟨rfl, fine, .inr rfl⟩
  · rw [newWKDDirectURL, if_neg (by rw [fine]; decide)] at made
    cases made
    exact ⟨rfl, fine, .inl rfl⟩

theorem follow_requests (script : Nat → Reply) (left hop : Nat) (url : URL) :
    (follow script (left + 1) hop url).1 = url :: redirects script left hop := by
  induction left generalizing hop url with
  | zero =>
    unfold follow
    cases script hop with
    | response | failure => rfl
    | redirect target => rfl
  | succ left ih =>
    unfold follow redirects
    cases script hop with
    | response | failure => rfl
    | redirect target =>
      dsimp only
      rw [ih]

theorem mem_tried {candidate : URL × GoString} {candidates : List (URL × GoString)}
    (member : candidate ∈ tried tools parser now replies email candidates) : candidate ∈ candidates := by
  induction candidates with
  | nil => cases member
  | cons first rest ih =>
    rw [tried] at member
    split at member
    · rw [List.mem_singleton.mp member]
      exact List.mem_cons_self
    · rcases List.mem_cons.mp member with rfl | later
      · exact List.mem_cons_self
      · exact List.mem_cons_of_mem _ (ih later)

/-- The requests are confined where the redirects are that answer a request of a candidate. -/
theorem wkd_confined_iff (parser : Parser tools) :
    (∀ url ∈ wkdRequests tools parser now replies email useDirect, Confined tools email url) ↔
      ∀ candidate ∈ tried tools parser now replies email (wkdCandidates tools email useDirect),
        (∃ url, parser.parse (tools.text candidate.1) = some url ∧ tools.text url = tools.text candidate.1) →
          ∀ target ∈ redirects (replies candidate.2) 9 0, Confined tools email target := by
  unfold wkdRequests
  simp only [List.mem_flatMap, forall_exists_index, and_imp]
  rw [forall_comm]
  refine forall_congr' fun candidate => ⟨fun confined member url parsed same target led => ?_,
    fun confined url member asked => ?_⟩
  · refine confined target member ?_
    rw [wkdFetch, parsed]
    dsimp only
    rw [if_neg (not_not.mpr same), follow_requests]
    exact List.mem_cons_of_mem _ led
  · rw [wkdFetch] at asked
    split at asked
    · cases asked
    next first parsed =>
      split at asked
      · cases asked
      next same =>
        rw [follow_requests, List.mem_cons] at asked
        rcases asked with rfl | led
        · obtain ⟨scheme, fine, host⟩ := wkdCandidates_confined (mem_tried member)
          obtain ⟨sameScheme, sameHost⟩ := parser.faithful parsed
          exact ⟨sameScheme.trans scheme, fine, sameHost ▸ host⟩
        · exact confined member first parsed (not_not.mp same) url led

end Requests

/-- A scheme without a colon, and a host that goes up to the first slash. -/
def Writable (url : URL) : Prop :=
  (0x3A : UInt8) ∉ url.scheme ∧ (0x2F : UInt8) ∉ url.host ∧ url.path.head? = some 0x2F

instance (url : URL) : Decidable (Writable url) := inferInstanceAs (Decidable (_ ∧ _))

theorem takeWhile_cut {byte : UInt8} {front rest : GoString} (absent : byte ∉ front) :
    (front ++ byte :: rest).takeWhile (· != byte) = front := by
  have others : ∀ other ∈ front, (other != byte) = true := by
    intro other member
    rw [bne_iff_ne]
    rintro rfl
    exact absent member
  rw [List.takeWhile_append_of_pos others, List.takeWhile_cons_of_neg (by simp), List.append_nil]

/-- Libraries that write no URL which would not be read back. -/
def writtenTools : Tools :=
  { plainTools with text := fun url => if Writable url then plainTools.text url else [] }

def readURL (text : GoString) : URL :=
  let scheme := text.takeWhile (· != 0x3A)
  let rest := text.drop (scheme.length + 3)
  let host := rest.takeWhile (· != 0x2F)
  let behind := rest.drop host.length
  let path := behind.takeWhile (· != 0x3F)
  { scheme, host, path, rawQuery := behind.drop (path.length + 1) }

theorem readURL_text {url : URL} (writable : Writable url) :
    (readURL (plainTools.text url)).scheme = url.scheme ∧
      (readURL (plainTools.text url)).host = url.host := by
  obtain ⟨colon, slash, first⟩ := writable
  obtain ⟨path, rooted⟩ : ∃ path, url.path = 0x2F :: path := List.head?_eq_some_iff.mp first
  have written : plainTools.text url = url.scheme ++ 0x3A :: 0x2F :: 0x2F ::
      (url.host ++ 0x2F :: (path ++ 0x3F :: url.rawQuery)) := by
    simp [plainTools, rooted, ascii]
  have scheme : (plainTools.text url).takeWhile (· != 0x3A) = url.scheme := by
    rw [written, takeWhile_cut colon]
  have behind : (plainTools.text url).drop (url.scheme.length + 3) =
      url.host ++ 0x2F :: (path ++ 0x3F :: url.rawQuery) := by
    rw [written, List.drop_length_add_append]
    rfl
  refine ⟨scheme, ?_⟩
  dsimp only [readURL]
  rw [scheme, behind, takeWhile_cut slash]

def writtenParser : Parser writtenTools where
  parse text := if Writable (readURL text) then some (readURL text) else none
  faithful {url parsed} taken := by
    obtain ⟨writable, same⟩ := Option.ite_none_right_eq_some.mp taken
    cases same
    by_cases written : Writable url
    · rw [show writtenTools.text url = plainTools.text url from if_pos written]
      exact readURL_text written
    · rw [show writtenTools.text url = [] from if_neg written] at writable
      exact absurd writable (by decide)

def metadataURL : URL where
  scheme := ascii "http"
  host := ascii "169.254.169.254"
  path := ascii "/latest/meta-data/"
  rawQuery := []

/-- The first request is redirected there, and then there is no key. -/
def astray (hop : Nat) : Reply := if hop = 0 then .redirect metadataURL else .response ⟨404, [], true⟩

theorem wkd_fetches_metadata :
    ¬∀ url ∈ wkdRequests writtenTools writtenParser 0 (fun _ => astray) (ascii "a@b.c") false,
      Confined writtenTools (ascii "a@b.c") url := by
  intro confined
  have asked : metadataURL ∈
      wkdRequests writtenTools writtenParser 0 (fun _ => astray) (ascii "a@b.c") false := by
    decide +kernel
  have scheme : ascii "http" = ascii "https" := (confined metadataURL asked).1
  revert scheme
  decide

def homeURL : URL where
  scheme := ascii "https"
  host := ascii "b.c"
  path := ascii "/key"
  rawQuery := []

/-- A redirect to the domain of the address keeps the requests there. -/
theorem wkd_confined_iff_home :
    ∀ url ∈ wkdRequests writtenTools writtenParser 0
        (fun _ hop => if hop = 0 then .redirect homeURL else .response ⟨404, [], true⟩)
        (ascii "a@b.c") false,
      Confined writtenTools (ascii "a@b.c") url := by
  refine (wkd_confined_iff writtenParser).mpr fun candidate _ _ target led => ?_
  cases List.mem_singleton.mp led
  exact ⟨rfl, by decide, .inl (by decide)⟩

end ElvishMail.Keyserver
