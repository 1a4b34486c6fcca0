import ElvishMail.Elvishserver.Backend
import ElvishMail.Mailworker.Payload

/-!
# Inbound mail authentication

`internal/mailauth`: the SPF, DKIM and DMARC results of an inbound message. DNS,
the address grammars of `net` and `dkim.Verify` enter as functions. `dkim.Verify`
reports an error of the message apart from the errors of its signatures, of which
there is one entry each.

`check_honest_iff` says for which messages the results mean what they are called.
-/

namespace ElvishMail.Mailauth

open Go Smtp Elvishserver Openpgp

/-- `dkim.Verification`: the domain that signed, and what is wrong with the signature. -/
structure Verification where
  domain : GoString
  err : Option GoError
deriving DecidableEq

/-- What a check asks: `LookupTXT`, `net.SplitHostPort` for the host, `net.ParseIP`
for the text of the address, whether a text is a network that contains an address,
and `dkim.Verify`. -/
structure Outside where
  lookupTXT : GoString → Except GoError (List GoString)
  splitHostPort : GoString → Option GoString
  parseIP : GoString → Option GoString
  contains : (cidr ip : GoString) → Bool
  verify : GoString → Except GoError (List Verification)

structure Results where
  mode : Mode
  spf : GoString
  dkim : GoString
  dmarc : GoString
  fromAddr : GoString
  peer : GoString
deriving DecidableEq

/-- The part of the results that `Enforce` reads. -/
def Results.auth (results : Results) : AuthResults :=
  ⟨results.spf, results.dkim, results.dmarc⟩

/-- `strings.IndexAny` for a set of ASCII characters, with `none` for `-1`. -/
def indexAny (text chars : GoString) : Option Nat := text.findIdx? fun byte => chars.contains byte

def sanitizeKeyPart (text : GoString) : GoString :=
  let text := replaceByte (replaceByte text 0x3A 0x5F) 0x20 0x5F
  if text.length > 120 then text.take 120 else if text = [] then ascii "unknown" else text

/-- `HostFromAddr`, on the text of the address. -/
def hostFromAddr (outside : Outside) : Option GoString → GoString
  | none => ascii "unknown"
  | some addr =>
    match outside.splitHostPort (trimSpace addr) with
    | none => sanitizeKeyPart addr
    | some host => sanitizeKeyPart host

variable (lib : Library) (outside : Outside)

def domainFromAddr (addr : GoString) : GoString :=
  let addr := trimSpace addr
  if addr = [] then []
  else
    let behind : Option GoString := (lastIndexByte addr 0x40).bind fun index =>
      if index + 1 < addr.length then some (addr.drop (index + 1)) else none
    match behind with
    | some behind =>
      let dom := toLower lib (trimSpace behind)
      match indexAny dom (ascii "> \t") with
      | some stop => trimSpace (dom.take stop)
      | none => dom
    | none => toLower lib addr

def termMatchesIP (ip term : GoString) : Bool :=
  let network (start : GoString) : Bool :=
    let cidr := term.drop start.length
    outside.contains cidr ip || cidr == ip
  if hasPrefix term (ascii "ip4:") then network (ascii "ip4:")
  else if hasPrefix term (ascii "ip6:") then network (ascii "ip6:")
  else term == ascii "+all" || term == ascii "all"

def spfMatchesIP (spfLower ip : GoString) : Bool := (fields spfLower).any (termMatchesIP outside ip)

def versioned (version text : GoString) : Bool := hasPrefix (toLower lib (trimSpace text)) version

def checkSPF (peerHost domain : GoString) : GoString :=
  if peerHost = [] ∨ domain = [] then ascii "none"
  else match outside.parseIP peerHost with
    | none => ascii "none"
    | some ip =>
      match outside.lookupTXT domain with
      | .error _ => ascii "none"
      | .ok txts =>
        match txts.find? (versioned lib (ascii "v=spf1")) with
        | none => ascii "none"
        | some spf =>
          let lower := toLower lib spf
          if contains lower (ascii "-all") then
            if spfMatchesIP outside lower ip then ascii "pass" else ascii "fail"
          else if spfMatchesIP outside lower ip then ascii "pass"
          else if contains lower (ascii "~all") || contains lower (ascii "?all") then
            ascii "softfail"
          else ascii "neutral"

/-- `checkDKIM`. What `Verify` found out about each signature is not looked at. -/
def checkDKIM (raw : GoString) : GoString :=
  if raw.length = 0 then ascii "none"
  else if !contains (toLower lib raw) (ascii "dkim-signature:") then ascii "none"
  else match outside.verify raw with
    | .ok _ => ascii "pass"
    | .error err => if contains err.text (ascii "no signature") then ascii "none" else ascii "fail"

def policy (record : GoString) : GoString :=
  match index record (ascii "p=") with
  | none => ascii "none"
  | some start =>
    let rest := record.drop (start + 2)
    match indexAny rest (ascii "; \t") with
    | some stop => trimSpace (rest.take stop)
    | none => trimSpace rest

/-- `checkDMARC`. A pass of SPF or DKIM counts whatever domain it is for. -/
def checkDMARC (domain spf dkim : GoString) : GoString :=
  if domain = [] then ascii "none"
  else match outside.lookupTXT (ascii "_dmarc." ++ domain) with
    | .error _ => ascii "none"
    | .ok txts =>
      match (txts.find? (versioned lib (ascii "v=dmarc1"))).map (toLower lib) with
      | none => ascii "none"
      | some record =>
        if record = [] then ascii "none"
        else if spf = ascii "pass" ∨ dkim = ascii "pass" then ascii "pass"
        else if policy record = ascii "reject" ∨ policy record = ascii "quarantine" then
          ascii "fail"
        else ascii "none"

def check (mode : Mode) (peer : Option GoString) (fromAddr raw : GoString) : Results :=
  let results : Results :=
    { mode
      fromAddr := trimSpace fromAddr
      peer := hostFromAddr outside peer
      spf := ascii "none"
      dkim := ascii "none"
      dmarc := ascii "none" }
  let domain := domainFromAddr lib fromAddr
  if domain = [] then results
  else
    let spf := checkSPF lib outside results.peer domain
    let dkim := checkDKIM lib outside raw
    { results with spf, dkim, dmarc := checkDMARC lib outside domain spf dkim }

def verified (raw : GoString) : List Verification :=
  match outside.verify raw with
  | .ok verifications => verifications.filter (·.err.isNone)
  | .error _ => []

/-- The domain of the message's own `From` header. -/
def authorDomain (raw : GoString) : Option GoString :=
  (lib.readMessage raw).map fun header =>
    Mailworker.domainFromFromAddress lib (header (ascii "From"))

/-- A domain is aligned with the one in the `From` header. -/
def AlignedWith (aligned : GoString → GoString → Prop) (raw domain : GoString) : Prop :=
  ∃ author, authorDomain lib raw = some author ∧ aligned domain author

/-- A DKIM pass is the pass of a signature, and a DMARC pass is one of SPF or DKIM for
an aligned domain. -/
structure Honest (aligned : GoString → GoString → Prop) (fromAddr raw : GoString)
    (results : Results) : Prop where
  dkim : results.dkim = ascii "pass" → verified outside raw ≠ []
  dmarc : results.dmarc = ascii "pass" →
    results.spf = ascii "pass" ∧ AlignedWith lib aligned raw (domainFromAddr lib fromAddr) ∨
      ∃ signature ∈ verified outside raw, AlignedWith lib aligned raw signature.domain

def Listed (host domain : GoString) : Prop :=
  host ≠ [] ∧ domain ≠ [] ∧ ∃ ip, outside.parseIP host = some ip ∧
    ∃ txts, outside.lookupTXT domain = .ok txts ∧
      ∃ spf, txts.find? (versioned lib (ascii "v=spf1")) = some spf ∧
        spfMatchesIP outside (toLower lib spf) ip = true

def Published (domain : GoString) : Prop :=
  ∃ txts, outside.lookupTXT (ascii "_dmarc." ++ domain) = .ok txts ∧
    ∃ record, txts.find? (versioned lib (ascii "v=dmarc1")) = some record ∧ toLower lib record ≠ []

/-- The name of a signature header occurs in the message, and the library reads it. -/
def Processed (raw : GoString) : Prop :=
  raw ≠ [] ∧ contains (toLower lib raw) (ascii "dkim-signature:") = true ∧
    ∃ verifications, outside.verify raw = .ok verifications

/-- Where the message is read, a signature verifies; and where the envelope's domain has
a DMARC record and its SPF record lists the peer or the message is read, one of the
two is for a domain aligned with the `From` header. -/
structure Earned (aligned : GoString → GoString → Prop) (host domain raw : GoString) : Prop where
  signed : Processed lib outside raw → verified outside raw ≠ []
  aligned : Published lib outside domain → Listed lib outside host domain ∨ Processed lib outside raw →
    Listed lib outside host domain ∧ AlignedWith lib aligned raw domain ∨
      ∃ signature ∈ verified outside raw, AlignedWith lib aligned raw signature.domain

variable {lib outside}

theorem checkSPF_eq_pass {host domain : GoString} :
    checkSPF lib outside host domain = ascii "pass" ↔ Listed lib outside host domain := by
  have none_ne : ascii "none" ≠ ascii "pass" := by decide
  have fail_ne : ascii "fail" ≠ ascii "pass" := by decide
  have softfail_ne : ascii "softfail" ≠ ascii "pass" := by decide
  have neutral_ne : ascii "neutral" ≠ ascii "pass" := by decide
  unfold checkSPF Listed
  by_cases missing : host = [] ∨ domain = []
  · rw [if_pos missing]
    rcases missing with missing | missing <;> simp [missing, none_ne]
  rw [if_neg missing]
  rw [not_or] at missing
  cases parsed : outside.parseIP host with
  | none => simp [none_ne]
  | some ip =>
    cases looked : outside.lookupTXT domain with
    | error err => simp [none_ne]
    | ok txts =>
      cases found : txts.find? (versioned lib (ascii "v=spf1")) with
      | none => simp [none_ne, found]
      | some spf =>
        cases listed : spfMatchesIP outside (toLower lib spf) ip
        · dsimp only
          simp only [found, listed, Bool.false_eq_true, if_false]
          split
          · simp [fail_ne, found, listed]
          · split <;> simp [softfail_ne, neutral_ne, found, listed]
        · simp [missing, found, listed]

theorem checkDKIM_eq_pass {raw : GoString} :
    checkDKIM lib outside raw = ascii "pass" ↔ Processed lib outside raw := by
  have none_ne : ascii "none" ≠ ascii "pass" := by decide
  have fail_ne : ascii "fail" ≠ ascii "pass" := by decide
  unfold checkDKIM Processed
  by_cases empty : raw = []
  · rw [if_pos (by rw [empty]; rfl)]
    simp [empty, none_ne]
  rw [if_neg (by simpa using empty)]
  cases named : contains (toLower lib raw) (ascii "dkim-signature:") with
  | false => simp [none_ne]
  | true =>
    cases read : outside.verify raw with
    | ok verifications => simp [empty]
    | error err =>
      simp only [Bool.not_true, Bool.false_eq_true, if_false]
      split <;> simp [none_ne, fail_ne]

theorem checkDMARC_eq_pass {domain spf dkim : GoString} (named : domain ≠ []) :
    checkDMARC lib outside domain spf dkim = ascii "pass" ↔
      Published lib outside domain ∧ (spf = ascii "pass" ∨ dkim = ascii "pass") := by
  have none_ne : ascii "none" ≠ ascii "pass" := by decide
  have fail_ne : ascii "fail" ≠ ascii "pass" := by decide
  unfold checkDMARC Published
  rw [if_neg named]
  cases looked : outside.lookupTXT (ascii "_dmarc." ++ domain) with
  | error err => simp [none_ne]
  | ok txts =>
    cases found : txts.find? (versioned lib (ascii "v=dmarc1")) with
    | none => simp [none_ne, found]
    | some record =>
      by_cases empty : toLower lib record = []
      · simp [found, empty, none_ne]
      · by_cases passed : spf = ascii "pass" ∨ dkim = ascii "pass"
        · simp [found, empty, passed]
        · simp only [found, Option.map_some, empty, if_false, passed, and_false, iff_false]
          split
          · exact fail_ne
          · exact none_ne

theorem check_of_no_domain {mode : Mode} {peer : Option GoString} {fromAddr : GoString}
    (unnamed : domainFromAddr lib fromAddr = []) (raw : GoString) :
    (check lib outside mode peer fromAddr raw).auth = ⟨ascii "none", ascii "none", ascii "none"⟩ := by
  unfold check
  rw [if_pos unnamed]
  rfl

/-- The results of a message mean what they are called exactly when the envelope has
no domain or the passes are earned. -/
theorem check_honest_iff (lib : Library) (outside : Outside) (aligned : GoString → GoString → Prop)
    (mode : Mode) (peer : Option GoString) (fromAddr raw : GoString) :
    Honest lib outside aligned fromAddr raw (check lib outside mode peer fromAddr raw) ↔
      domainFromAddr lib fromAddr = [] ∨
        Earned lib outside aligned (hostFromAddr outside peer) (domainFromAddr lib fromAddr) raw := by
  have none_ne : ascii "none" ≠ ascii "pass" := by decide
  by_cases unnamed : domainFromAddr lib fromAddr = []
  · have results := @check_of_no_domain lib outside mode peer fromAddr unnamed raw
    have dkim : (check lib outside mode peer fromAddr raw).dkim = ascii "none" :=
      congrArg AuthResults.dkim results
    have dmarc : (check lib outside mode peer fromAddr raw).dmarc = ascii "none" :=
      congrArg AuthResults.dmarc results
    refine ⟨fun _ => .inl unnamed, fun _ => ⟨?_, ?_⟩⟩
    · rw [dkim]
      exact fun passed => absurd passed none_ne
    · rw [dmarc]
      exact fun passed => absurd passed none_ne
  have spf : (check lib outside mode peer fromAddr raw).spf =
      checkSPF lib outside (hostFromAddr outside peer) (domainFromAddr lib fromAddr) := by
    rw [check, if_neg unnamed]
  have dkim : (check lib outside mode peer fromAddr raw).dkim = checkDKIM lib outside raw := by
    rw [check, if_neg unnamed]
  have dmarc : (check lib outside mode peer fromAddr raw).dmarc =
      checkDMARC lib outside (domainFromAddr lib fromAddr)
        (checkSPF lib outside (hostFromAddr outside peer) (domainFromAddr lib fromAddr))
        (checkDKIM lib outside raw) := by
    rw [check, if_neg unnamed]
  constructor
  · intro honest
    refine .inr ⟨?_, ?_⟩
    · intro processed
      exact honest.dkim (dkim.trans (checkDKIM_eq_pass.mpr processed))
    · intro published passes
      have passed : (check lib outside mode peer fromAddr raw).dmarc = ascii "pass" := by
        rw [dmarc, checkDMARC_eq_pass unnamed, checkSPF_eq_pass, checkDKIM_eq_pass]
        exact ⟨published, passes⟩
      rcases honest.dmarc passed with ⟨spfPassed, close⟩ | signed
      · rw [spf, checkSPF_eq_pass] at spfPassed
        exact .inl ⟨spfPassed, close⟩
      · exact .inr signed
  · rintro (named | earned)
    · exact absurd named unnamed
    refine ⟨?_, ?_⟩
    · intro passed
      rw [dkim, checkDKIM_eq_pass] at passed
      exact earned.signed passed
    · intro passed
      rw [dmarc, checkDMARC_eq_pass unnamed, checkSPF_eq_pass, checkDKIM_eq_pass] at passed
      rcases earned.aligned passed.1 passed.2 with ⟨listed, close⟩ | signed
      · exact .inl ⟨spf.trans (checkSPF_eq_pass.mpr listed), close⟩
      · exact .inr signed

/-- A message from `bank.org` with a signature that does not verify. -/
def forged : GoString :=
  ascii "DKIM-Signature: d=bank.org
From: ceo@bank.org

Pay now
"

/-- `bank.org` rejects what fails DMARC, and its SPF record lists one host. -/
def sampleOutside : Outside where
  lookupTXT name :=
    if name = ascii "bank.org" then .ok [ascii "v=spf1 ip4:192.0.2.1 ~all"]
    else if name = ascii "_dmarc.bank.org" then .ok [ascii "v=DMARC1; p=reject"]
    else .ok []
  splitHostPort addr := (lastIndexByte addr 0x3A).map addr.take
  parseIP host := some host
  contains cidr ip := cidr == ip
  verify raw :=
    if raw = forged then
      .ok [⟨ascii "bank.org", some (.plain (ascii "dkim: signature did not verify"))⟩]
    else .ok []

/-- The forged message passes DKIM and DMARC, although no signature of it verifies. -/
theorem forged_passes :
    ¬ ∀ (lib : Library) (outside : Outside) (aligned : GoString → GoString → Prop) (mode : Mode)
      (peer : Option GoString) (fromAddr raw : GoString),
      Honest lib outside aligned fromAddr raw (check lib outside mode peer fromAddr raw) := by
  intro claim
  have honest := claim .plain sampleOutside Eq .reject (some (ascii "203.0.113.9:4711"))
    (ascii "ceo@bank.org") forged
  have passes : check .plain sampleOutside .reject (some (ascii "203.0.113.9:4711"))
      (ascii "ceo@bank.org") forged =
        { mode := .reject, spf := ascii "softfail", dkim := ascii "pass", dmarc := ascii "pass",
          fromAddr := ascii "ceo@bank.org", peer := ascii "203.0.113.9" } := by decide
  rw [passes] at honest
  exact honest.dkim rfl (by decide)

end ElvishMail.Mailauth
