import ElvishMail.Go.Runes

/-!
# Where sender icons are fetched

`fetchExternalImage` of `internal/httpserver/api_sender_icon.go` checks the URL that it is given
and every redirect. Of the addresses that no server of the domain can have, the check leaves out
the unspecified one, and a text of digits and dots is a domain to `isValidDomain`.

IPv4 addresses are read by their rules. `url.Parse`, `URL.String` and the reading of IPv6 addresses
are parameters, as are the replies, in the order of the requests.
-/

namespace ElvishMail.Httpserver

open Go

structure NetAddr where
  bytes : List UInt8
  zone : GoString
  deriving DecidableEq

namespace NetAddr

def unmap (addr : NetAddr) : List UInt8 :=
  match addr.bytes with
  | [0, 0, 0, 0, 0, 0, 0, 0, 0, 0, 0xFF, 0xFF, first, second, third, fourth] =>
    [first, second, third, fourth]
  | bytes => bytes

def isLoopback (addr : NetAddr) : Bool :=
  match addr.unmap with
  | [first, _, _, _] => first == 127
  | bytes => bytes == List.replicate 15 0 ++ [1]

def isMulticast (addr : NetAddr) : Bool :=
  match addr.unmap with
  | [first, _, _, _] => first &&& 0xF0 == 0xE0
  | first :: _ => first == 0xFF
  | [] => false

def isLinkLocalUnicast (addr : NetAddr) : Bool :=
  match addr.unmap with
  | [first, second, _, _] => first == 169 && second == 254
  | first :: second :: _ => first == 0xFE && second &&& 0xC0 == 0x80
  | _ => false

def isPrivate (addr : NetAddr) : Bool :=
  match addr.unmap with
  | [first, second, _, _] =>
    first == 10 || (first == 172 && second &&& 0xF0 == 16) || (first == 192 && second == 168)
  | first :: _ => first &&& 0xFE == 0xFC
  | [] => false

def isUnspecified (addr : NetAddr) : Bool :=
  addr.bytes == List.replicate 4 0 || (addr.bytes == List.replicate 16 0 && addr.zone == [])

end NetAddr

structure SenderURL where
  scheme : GoString
  hostname : GoString
  deriving DecidableEq

structure SenderTools where
  lib : Library
  /-- `url.Parse`. -/
  parseURL : GoString → Option SenderURL
  /-- The text of the URL that a text is parsed to. -/
  rewrite : GoString → GoString
  parseIPv6 : GoString → Option NetAddr

/-- One to three digits, without a zero in front, of at most 255. -/
def parseIPv4Field (text : GoString) : Option UInt8 :=
  if text = [] ∨ 3 < text.length ∨ (1 < text.length ∧ text.head? = some 0x30) then none
  else
    match digits text 0 with
    | some value => if value ≤ 255 then some value.toUInt8 else none
    | none => none

def parseIPv4 (text : GoString) : Option NetAddr :=
  match (text.splitOnP (· == 0x2E)).mapM parseIPv4Field with
  | some [first, second, third, fourth] => some ⟨[first, second, third, fourth], []⟩
  | _ => none

section Fetching

variable (tools : SenderTools)

/-- `netip.ParseAddr`. -/
def parseAddr (text : GoString) : Option NetAddr :=
  match text.find? fun byte => byte == 0x2E || byte == 0x3A || byte == 0x25 with
  | some 0x2E => parseIPv4 text
  | some 0x3A => tools.parseIPv6 text
  | _ => none

def senderName (text : GoString) : GoString :=
  trimSuffix (toLower tools.lib (trimSpace text)) (ascii ".")

def hostMatchesSenderDomain (host domain : GoString) : Bool :=
  let h := senderName tools host
  let d := senderName tools domain
  if h = [] ∨ d = [] then false else h == d || hasSuffix h (ascii "." ++ d)

def SenderURL.host (url : SenderURL) : GoString := toLower tools.lib (trimSpace url.hostname)

def validateSenderFetchURL (raw relatedDomain : GoString) : Option GoString :=
  match tools.parseURL (trimSpace raw) with
  | none => some (ascii "invalid url")
  | some u =>
    if toLower tools.lib u.scheme ≠ ascii "https" then some (ascii "sender icon fetch requires https")
    else if u.host tools = [] then some (ascii "missing host")
    else if hostMatchesSenderDomain tools (u.host tools) relatedDomain = false then
      some (ascii "host does not match sender domain")
    else if (parseAddr tools (u.host tools)).any fun addr =>
        addr.isLoopback || addr.isMulticast || addr.isLinkLocalUnicast || addr.isPrivate then
      some (ascii "literal IP host not allowed")
    else if u.host tools ∈ [ascii "metadata.google.internal", ascii "metadata.goog"] then
      some (ascii "host not allowed")
    else none

def isValidDomain (d : GoString) : Bool :=
  if d.contains 0x2F || d.contains 0x3A then false
  else if !d.contains 0x2E then false
  else
    (runes d).all (fun c => (97 ≤ c.value && c.value ≤ 122) || (48 ≤ c.value && c.value ≤ 57) ||
      c.value == 0x2E || c.value == 0x2D) && 4 ≤ d.length && d.length ≤ 253

inductive SenderReply where
  | response (status : Nat) (contentType data : GoString)
  | redirect (target : GoString)
  | failure

variable (replies : Nat → SenderReply) (relatedDomain : GoString)

/-- The client: the requests it makes, and the response. At the third redirect it stays with the
redirect itself. -/
def followSender : Nat → Nat → GoString → List GoString × Option (Nat × GoString × GoString)
  | left, hop, url =>
    match replies hop with
    | .response status contentType data => ([url], some (status, contentType, data))
    | .failure => ([url], none)
    | .redirect target =>
      match left with
      | 0 => ([url], some (302, [], []))
      | left + 1 =>
        if validateSenderFetchURL tools target relatedDomain = none then
          let (more, response) := followSender left (hop + 1) target
          (url :: more, response)
        else ([url], none)

/-- The requests that are made, and the image with its content type. -/
def fetchExternalImage (fetchURL : GoString) (maxBytes : Nat) :
    List GoString × Option (GoString × GoString) :=
  let safeURL := trimSpace fetchURL
  if validateSenderFetchURL tools fetchURL relatedDomain ≠ none ∨ tools.rewrite safeURL ≠ safeURL
    then ([], none)
  else
    let (requests, response) := followSender tools replies relatedDomain 2 0 safeURL
    (requests, response.bind fun (status, contentType, data) =>
      if status ≠ 200 ∨ maxBytes < data.length then none else some (data, contentType))

def Unspecified (url : GoString) : Prop :=
  ∃ u addr, tools.parseURL (trimSpace url) = some u ∧ parseAddr tools (u.host tools) = some addr ∧
    addr.isUnspecified = true

/-- The URL is under `https`, with the domain or a subdomain for its host, which is no address that
stands for no server of its own. -/
def SafeSenderURL (url : GoString) : Prop :=
  ∃ u, tools.parseURL (trimSpace url) = some u ∧ toLower tools.lib u.scheme = ascii "https" ∧
    (senderName tools (u.host tools) = senderName tools relatedDomain ∨
      ∃ label, senderName tools (u.host tools) = label ++ ascii "." ++ senderName tools relatedDomain) ∧
    ∀ addr, parseAddr tools (u.host tools) = some addr →
      addr.isLoopback = false ∧ addr.isPrivate = false ∧ addr.isLinkLocalUnicast = false ∧
        addr.isMulticast = false ∧ addr.isUnspecified = false

/-- No redirect that passes the check leads to the unspecified address. -/
def Specified : Nat → Nat → Prop
  | left, hop =>
    match replies hop, left with
    | .redirect target, left + 1 =>
      validateSenderFetchURL tools target relatedDomain = none →
        ¬Unspecified tools target ∧ Specified left (hop + 1)
    | _, _ => True

variable {tools replies relatedDomain}

/-- All that the check leaves out is the unspecified address. -/
theorem safeSenderURL_iff {url : GoString} (valid : validateSenderFetchURL tools url relatedDomain = none) :
    SafeSenderURL tools relatedDomain url ↔ ¬Unspecified tools url := by
  unfold validateSenderFetchURL at valid
  split at valid
  · cases valid
  next u parsed =>
  split_ifs at valid with scheme missing matching literal blocked
  constructor
  · rintro ⟨v, again, -, -, addresses⟩ ⟨w, addr, third, read, unspecified⟩
    rw [again] at third
    cases third
    rw [(addresses addr read).2.2.2.2] at unspecified
    cases unspecified
  · intro specified
    refine ⟨u, parsed, not_not.mp scheme, ?_, fun addr read => ?_⟩
    · unfold hostMatchesSenderDomain at matching
      simp only [Bool.not_eq_false] at matching
      split at matching
      · cases matching
      · rcases (Bool.or_eq_true _ _).mp matching with same | within
        · exact .inl (beq_iff_eq.mp same)
        · obtain ⟨label, split⟩ := List.isSuffixOf_iff_suffix.mp within
          exact .inr ⟨label, by rw [← split, List.append_assoc]⟩
    · rw [read] at literal
      simp only [Option.any_some, Bool.or_eq_true, not_or, Bool.not_eq_true] at literal
      obtain ⟨⟨⟨loopback, multicast⟩, linkLocal⟩, inside⟩ := literal
      refine ⟨loopback, inside, linkLocal, multicast, ?_⟩
      by_contra unspecified
      exact specified ⟨u, addr, parsed, read, Bool.not_eq_false _ ▸ unspecified⟩

theorem followSender_safe_iff {left hop : Nat} {url : GoString} :
    (∀ request ∈ (followSender tools replies relatedDomain left hop url).1,
        SafeSenderURL tools relatedDomain request) ↔
      SafeSenderURL tools relatedDomain url ∧ Specified tools replies relatedDomain left hop := by
  induction left generalizing hop url with
  | zero =>
    unfold followSender Specified
    cases replies hop <;> simp
  | succ left ih =>
    unfold followSender Specified
    cases replies hop with
    | response | failure => simp
    | redirect target =>
      dsimp only
      by_cases valid : validateSenderFetchURL tools target relatedDomain = none
      · rw [if_pos valid, forall_prop_of_true valid]
        dsimp only
        rw [List.forall_mem_cons, ih, safeSenderURL_iff valid]
      · rw [if_neg valid, forall_prop_of_false valid, List.forall_mem_singleton, and_true]

/-- A URL that passes the check and every request for its icon are safe exactly if no URL that
passes, of this one and those of the first two redirects, has the unspecified address for its host. -/
theorem fetchExternalImage_safe_iff (tools : SenderTools) (replies : Nat → SenderReply)
    (relatedDomain fetchURL : GoString) (maxBytes : Nat) :
    ((validateSenderFetchURL tools fetchURL relatedDomain = none →
      SafeSenderURL tools relatedDomain fetchURL) ∧
        ∀ request ∈ (fetchExternalImage tools replies relatedDomain fetchURL maxBytes).1,
          SafeSenderURL tools relatedDomain request) ↔
      (validateSenderFetchURL tools fetchURL relatedDomain = none →
        ¬Unspecified tools fetchURL ∧
          (tools.rewrite (trimSpace fetchURL) = trimSpace fetchURL →
            Specified tools replies relatedDomain 2 0)) := by
  by_cases valid : validateSenderFetchURL tools fetchURL relatedDomain = none
  · rw [forall_prop_of_true valid, forall_prop_of_true valid, safeSenderURL_iff valid]
    refine and_congr_right fun specified => ?_
    unfold fetchExternalImage
    dsimp only
    by_cases same : tools.rewrite (trimSpace fetchURL) = trimSpace fetchURL
    · have trimmed : SafeSenderURL tools relatedDomain (trimSpace fetchURL) := by
        have safe := (safeSenderURL_iff valid).mpr specified
        unfold SafeSenderURL at safe ⊢
        rwa [trimSpace_trimSpace]
      rw [if_neg (not_or.mpr ⟨not_not.mpr valid, not_not.mpr same⟩), forall_prop_of_true same]
      dsimp only
      rw [followSender_safe_iff, and_iff_right trimmed]
    · rw [if_pos (.inr same), forall_prop_of_false same]
      exact iff_of_true nofun trivial
  · rw [forall_prop_of_false valid, forall_prop_of_false valid, true_and, fetchExternalImage]
    dsimp only
    rw [if_pos (.inl valid)]
    exact iff_of_true nofun trivial

end Fetching

def zeroTools : SenderTools where
  lib := .plain
  parseURL text := if text = ascii "https://0.0.0.0/" then some ⟨ascii "https", ascii "0.0.0.0"⟩ else none
  rewrite text := text
  parseIPv6 _ := none

/-- The unspecified address is a domain, and its icon is fetched from it. -/
theorem icon_of_unspecified :
    isValidDomain (ascii "0.0.0.0") = true ∧
      validateSenderFetchURL zeroTools (ascii "https://0.0.0.0/") (ascii "0.0.0.0") = none ∧
      ¬SafeSenderURL zeroTools (ascii "0.0.0.0") (ascii "https://0.0.0.0/") := by
  have valid : validateSenderFetchURL zeroTools (ascii "https://0.0.0.0/") (ascii "0.0.0.0") = none := by
    decide
  refine ⟨by decide, valid, fun safe => ?_⟩
  exact (safeSenderURL_iff valid).mp safe
    ⟨⟨ascii "https", ascii "0.0.0.0"⟩, ⟨[0, 0, 0, 0], []⟩, by decide, by decide, by decide⟩

end ElvishMail.Httpserver
