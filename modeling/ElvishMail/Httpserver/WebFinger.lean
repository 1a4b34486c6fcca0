import ElvishMail.Httpserver.Accounts

/-!
# Accounts as resources

`handleOIDCWebFinger` of `internal/httpserver/oidc.go` tells clients which issuer answers
for `acct:name@domain`. It cuts six bytes off the resource and compares them with a scheme
of five. No text of six bytes has a lower case of five with these letters, so that no
resource is answered, and the check of the domain is never reached.
-/

namespace ElvishMail.Httpserver

open Go

/-- What the endpoint is set up with: the issuer's URL is there if an issuer is. -/
structure Discovery where
  site : Site
  issuer : Option GoString

/-- An answer with one `link`. -/
structure Descriptor where
  subject : GoString
  rel : GoString
  href : GoString
deriving DecidableEq

section Resources

variable (discovery : Discovery) (method resource : GoString)

def handleOIDCWebFinger : Except Refusal Descriptor :=
  match discovery.issuer with
  | none => .error (.status 404 (ascii "404 page not found"))
  | some issuer =>
    if method ≠ ascii "GET" then .error (.status 405 (ascii "method not allowed"))
    else
      let lib := discovery.site.lib
      let res := trimSpace resource
      if res = [] then .error (.status 400 (ascii "resource required"))
      else if res.length < 6 ∨ toLower lib (res.take 6) ≠ ascii "acct:" then
        .error (.status 400 (ascii "unsupported resource"))
      else
        let rest := res.drop 6
        match lastIndexByte rest 0x40 with
        | none => .error (.status 400 (ascii "invalid resource"))
        | some place =>
          if place + 1 = rest.length then .error (.status 400 (ascii "invalid resource"))
          else
            let domain := toLower lib (trimSpace (rest.drop (place + 1)))
            let mailDomain := toLower lib (trimSpace discovery.site.effectiveMailDomain)
            if mailDomain = [] ∨ domain ≠ mailDomain then
              .error (.status 404 (ascii "unknown resource"))
            else
              .ok { subject := res
                    rel := ascii "http://openid.net/specs/connect/1.0/issuer"
                    href := issuer }

/-- The resource is an account of the domain, under the scheme acct. -/
def NamesAccount : Prop :=
  ∃ scheme name domain, trimSpace resource = scheme ++ name ++ ascii "@" ++ domain ∧
    scheme.map lowerByte = ascii "acct:" ∧ name ≠ [] ∧
    toLower discovery.site.lib domain = toLower discovery.site.lib discovery.site.effectiveMailDomain

/-- An account is answered with the issuer, and every other resource is refused. -/
def AnswersAccounts (issuer : GoString) : Prop :=
  (NamesAccount discovery resource →
    ∃ descriptor, handleOIDCWebFinger discovery (ascii "GET") resource = .ok descriptor ∧
      descriptor.href = issuer) ∧
  (¬NamesAccount discovery resource →
    ∃ refusal, handleOIDCWebFinger discovery (ascii "GET") resource = .error refusal)

/-- No rune outside ASCII has a byte of the scheme for its lower case. -/
def SparesScheme (lib : Library) : Prop := ∀ byte ∈ ascii "acct:", lib.Spares byte

variable {discovery method resource} {lib : Library}

theorem length_of_scheme (spares : SparesScheme lib) {text : GoString}
    (scheme : toLower lib text = ascii "acct:") : text.length = 5 := by
  have small : ∀ byte ∈ ascii "acct:", byte.toNat < 0x80 := by decide +kernel
  have begins : ascii "acct:" <+: text.map lowerByte :=
    (prefix_toLower (fun byte mem => ⟨small byte mem, spares byte mem⟩) text).mp (by rw [scheme])
  obtain ⟨front, rest, rfl, lowered⟩ : ∃ front rest, text = front ++ rest ∧
      front.map lowerByte = ascii "acct:" := by
    refine ⟨text.take 5, text.drop 5, (List.take_append_drop 5 text).symm, ?_⟩
    rw [List.map_take]
    exact (List.prefix_iff_eq_take.mp begins).symm
  have plain : ∀ byte ∈ front, byte.toNat < 0x80 := fun byte mem =>
    lowerByte_small (small _ (lowered ▸ List.mem_map_of_mem mem))
  rw [toLower_ascii lib front rest plain, lowered] at scheme
  have five : front.length = 5 := (List.length_map _).symm.trans (congrArg List.length lowered)
  cases rest with
  | nil => rw [List.append_nil, five]
  | cons byte rest => exact absurd (List.append_right_eq_self.mp scheme) (Go.toLower_ne_nil byte rest)

/-- The handler compares six bytes with a scheme of five, so nothing passes. -/
theorem handleOIDCWebFinger_refuses (spares : SparesScheme discovery.site.lib) :
    ∃ refusal, handleOIDCWebFinger discovery method resource = .error refusal := by
  unfold handleOIDCWebFinger
  cases discovery.issuer with
  | none => exact ⟨_, rfl⟩
  | some issuer =>
    dsimp only
    split_ifs with other empty scheme
    · exact ⟨_, rfl⟩
    · exact ⟨_, rfl⟩
    · exact ⟨_, rfl⟩
    · obtain ⟨long, same⟩ := not_or.mp scheme
      have five := length_of_scheme spares (not_not.mp same)
      rw [List.length_take] at five
      omega

/-- The answers are right exactly for what names no account. -/
theorem webFinger_answers_iff (spares : SparesScheme discovery.site.lib) (issuer : GoString) :
    AnswersAccounts discovery resource issuer ↔ ¬NamesAccount discovery resource := by
  have refused := @handleOIDCWebFinger_refuses discovery (ascii "GET") resource spares
  obtain ⟨refusal, error⟩ := refused
  constructor
  · intro answers named
    obtain ⟨descriptor, answered, -⟩ := answers.1 named
    rw [error] at answered
    cases answered
  · exact fun other => ⟨fun named => absurd named other, fun _ => ⟨refusal, error⟩⟩

end Resources

/-- An issuer for the domain of a site that is not set up further. -/
def sampleDiscovery : Discovery where
  site :=
    { lib := .plain
      mailDomain := ascii "e.org"
      fingerprint16 := fun _ => none
      parseUUID := fun _ => none
      parseTime := fun _ => none }
  issuer := some (ascii "https://e.org")

theorem plain_sparesScheme : SparesScheme Library.plain := by
  intro byte mem rune large same
  have small : ∀ byte ∈ ascii "acct:", byte.toNat < 0x80 := by decide +kernel
  have inside := small byte mem
  have self : Library.plain.lowerRune rune = rune := rfl
  omega

theorem webFinger_answers_other :
    AnswersAccounts sampleDiscovery (ascii "https://e.org/ann") (ascii "https://e.org") :=
  (webFinger_answers_iff plain_sparesScheme _).mpr fun ⟨scheme, name, domain, text, lowered, _, _⟩ => by
    have five : scheme.length = 5 := (List.length_map _).symm.trans (congrArg List.length lowered)
    have begins := congrArg (List.map lowerByte ∘ List.take 5) text
    rw [Function.comp_apply, Function.comp_apply, List.append_assoc, List.append_assoc,
      List.take_left' five, lowered] at begins
    revert begins
    decide

/-- An account of the domain is not answered. -/
theorem webFinger_refuses_account :
    ¬AnswersAccounts sampleDiscovery (ascii "acct:ann@e.org") (ascii "https://e.org") := by
  intro answers
  have named : NamesAccount sampleDiscovery (ascii "acct:ann@e.org") :=
    ⟨ascii "acct:", ascii "ann", ascii "e.org", by decide, by decide, by decide, by decide +kernel⟩
  obtain ⟨descriptor, answered, -⟩ := answers.1 named
  have refused : handleOIDCWebFinger sampleDiscovery (ascii "GET") (ascii "acct:ann@e.org") =
      .error (.status 400 (ascii "unsupported resource")) := by decide
  rw [refused] at answered
  cases answered

end ElvishMail.Httpserver
