import ElvishMail.Go.Fields
import ElvishMail.Mailauth.Check

/-!
# Mechanisms of an SPF record

By RFC 7208 the terms of a record are tried from left to right, and the qualifier of the
first that matches the client decides. `checkSPF` looks for the texts of the `all` terms
anywhere in the record, and for a network with the client in it among the terms without a
qualifier, in no order. The two agree on the records that are told apart here.
-/

namespace ElvishMail.Mailauth

open Go Smtp Elvishserver Openpgp

inductive Qualifier where
  | pass
  | fail
  | softfail
  | neutral
deriving DecidableEq

namespace Qualifier

def sign : Qualifier → UInt8
  | pass => 0x2B
  | fail => 0x2D
  | softfail => 0x7E
  | neutral => 0x3F

def result : Qualifier → GoString
  | pass => ascii "pass"
  | fail => ascii "fail"
  | softfail => ascii "softfail"
  | neutral => ascii "neutral"

theorem result_inj {first second : Qualifier} : first.result = second.result ↔ first = second := by
  cases first <;> cases second <;> decide

end Qualifier

/-- The bytes of a network in lower case: digits, dots, colons and a slash. -/
def isNetworkByte (byte : UInt8) : Bool := (ascii "0123456789abcdef.:/").contains byte

structure Network where
  text : GoString
  plain : text.all isNetworkByte = true
deriving DecidableEq

/-- The network with its prefix length, that of a single address if there is none. -/
def Network.cidr (network : Network) (single : GoString) : GoString :=
  if 0x2F ∈ network.text then network.text else network.text ++ single

inductive Mechanism where
  | ip4 (network : Network)
  | ip6 (network : Network)
  | all
deriving DecidableEq

def Mechanism.text : Mechanism → GoString
  | ip4 network => ascii "ip4:" ++ network.text
  | ip6 network => ascii "ip6:" ++ network.text
  | all => ascii "all"

structure Term where
  qualifier : Option Qualifier
  mechanism : Mechanism
deriving DecidableEq

def Term.text (term : Term) : GoString :=
  (term.qualifier.map Qualifier.sign).toList ++ term.mechanism.text

/-- A record in lower case: the version, and each term behind one or more spaces. -/
def recordText : List (Nat × Term) → Nat → GoString
  | [], trailing => List.replicate trailing 0x20
  | (spaces, term) :: rest, trailing =>
    List.replicate (spaces + 1) 0x20 ++ term.text ++ recordText rest trailing

section Evaluation

variable (outside : Outside) (ip : GoString)

def Mechanism.matchesIP : Mechanism → Bool
  | ip4 network => outside.contains (network.cidr (ascii "/32")) ip
  | ip6 network => outside.contains (network.cidr (ascii "/128")) ip
  | all => true

/-- The qualifier of the first term that matches; a term without one passes. -/
def evaluate (terms : List Term) : Qualifier :=
  ((terms.find? (·.mechanism.matchesIP outside ip)).map fun term => term.qualifier.getD .pass).getD
    .neutral

/-- The terms that `spfMatchesIP` takes for a match: a network without a qualifier, and `all`
with none or a plus. -/
def Term.taken (term : Term) : Bool :=
  match term.qualifier, term.mechanism with
  | none, .ip4 network | none, .ip6 network => outside.contains network.text ip || network.text == ip
  | none, .all | some .pass, .all => true
  | _, _ => false

/-- An `all` with a qualifier of these. -/
def hasAll (terms : List Term) (qualifiers : List Qualifier) : Bool :=
  terms.any fun term => term.mechanism == .all && term.qualifier.any qualifiers.contains

/-- What has to be in a record for `checkSPF` to find this qualifier. -/
def Shows (terms : List Term) : Qualifier → Prop
  | .pass => terms.any (·.taken outside ip) = true
  | .fail => terms.any (·.taken outside ip) = false ∧ hasAll terms [.fail] = true
  | .softfail => terms.any (·.taken outside ip) = false ∧ hasAll terms [.fail] = false ∧
      hasAll terms [.softfail, .neutral] = true
  | .neutral => terms.any (·.taken outside ip) = false ∧
      hasAll terms [.fail, .softfail, .neutral] = false

instance (terms : List Term) : ∀ qualifier, Decidable (Shows outside ip terms qualifier)
  | .pass => inferInstanceAs (Decidable (_ = _))
  | .fail | .softfail | .neutral => inferInstanceAs (Decidable (_ ∧ _))

end Evaluation

section Records

variable {lib : Library} {outside : Outside} {ip : GoString}

theorem Network.solid (network : Network) :
    ∀ byte ∈ network.text, byte.toNat < 0x80 ∧ isSpace byte.toNat = false ∧ byte ≠ 0x6C := by
  intro byte member
  have each : ∀ byte ∈ ascii "0123456789abcdef.:/",
      byte.toNat < 0x80 ∧ isSpace byte.toNat = false ∧ byte ≠ 0x6C := by decide +kernel
  exact each byte (List.contains_iff_mem.mp (List.all_eq_true.mp network.plain byte member))

theorem Term.text_solid (term : Term) :
    (∀ byte ∈ term.text, byte.toNat < 0x80 ∧ isSpace byte.toNat = false) ∧ term.text ≠ [] := by
  obtain ⟨qualifier, mechanism⟩ := term
  have signs : ∀ byte ∈ (qualifier.map Qualifier.sign).toList,
      byte.toNat < 0x80 ∧ isSpace byte.toNat = false := by
    rcases qualifier with _ | _ | _ | _ | _ <;> decide +kernel
  have names : ∀ byte ∈ ascii "ip4:" ++ ascii "ip6:" ++ ascii "all",
      byte.toNat < 0x80 ∧ isSpace byte.toNat = false := by decide +kernel
  constructor
  · intro byte member
    rcases List.mem_append.mp member with sign | name
    · exact signs byte sign
    · cases mechanism with
      | ip4 network =>
        rcases List.mem_append.mp name with name | plain
        · exact names byte (by simp [name])
        · exact ⟨(network.solid byte plain).1, (network.solid byte plain).2.1⟩
      | ip6 network =>
        rcases List.mem_append.mp name with name | plain
        · exact names byte (by simp [name])
        · exact ⟨(network.solid byte plain).1, (network.solid byte plain).2.1⟩
      | all => exact names byte (by simp [show byte ∈ ascii "all" from name])
  · cases mechanism <;> simp [Term.text, Mechanism.text, ascii]

theorem fields_replicate (count : Nat) (rest : GoString) :
    fields (List.replicate count 0x20 ++ rest) = fields rest := by
  induction count with
  | zero => rfl
  | succ count ih =>
    rw [List.replicate_succ, List.cons_append, fields_cons_space (by decide) (by decide),
      ih]

theorem fields_recordText (terms : List (Nat × Term)) (trailing : Nat) (front : GoString) :
    fields (front ++ recordText terms trailing) = fields front ++ terms.map (·.2.text) := by
  induction terms generalizing front with
  | nil =>
    cases trailing with
    | zero => simp [recordText]
    | succ count =>
      have blanks := fields_replicate count []
      rw [recordText, List.replicate_succ, fields_append (by decide) (by decide)]
      rw [List.append_nil] at blanks
      rw [blanks]
      rfl
  | cons head rest ih =>
    obtain ⟨spaces, term⟩ := head
    obtain ⟨solid, some⟩ := term.text_solid
    rw [recordText, List.replicate_succ, List.cons_append, List.cons_append,
      fields_append (by decide) (by decide), List.append_assoc, fields_replicate,
      ih, fields_solid solid some]
    rfl

theorem infix_recordText {pattern : GoString} (solid : 0x20 ∉ pattern) (some : pattern ≠ [])
    (terms : List (Nat × Term)) (trailing : Nat) (front : GoString) :
    pattern <:+: front ++ recordText terms trailing ↔
      pattern <:+: front ∨ ∃ term ∈ terms.map Prod.snd, pattern <:+: term.text := by
  have blank (count : Nat) (rest : GoString) :
      pattern <:+: List.replicate count 0x20 ++ rest ↔ pattern <:+: rest := by
    induction count with
    | zero => rfl
    | succ count ih =>
      have cut := infix_append_cons solid [] (List.replicate count 0x20 ++ rest)
      rw [List.nil_append] at cut
      rw [List.replicate_succ, List.cons_append, cut, ih, List.infix_nil]
      exact or_iff_right some
  induction terms generalizing front with
  | nil =>
    cases trailing with
    | zero => simp [recordText]
    | succ count =>
      have none := blank count []
      rw [List.append_nil, List.infix_nil] at none
      rw [recordText, List.replicate_succ, infix_append_cons solid, none]
      simp [some]
  | cons head rest ih =>
    obtain ⟨spaces, term⟩ := head
    have later := ih term.text
    rw [recordText, List.replicate_succ, List.cons_append, List.cons_append,
      infix_append_cons solid, List.append_assoc, blank]
    refine (or_congr_right later).trans ?_
    simp

theorem termMatchesIP_text (term : Term) : termMatchesIP outside ip term.text = term.taken outside ip := by
  have ip4 : ascii "ip4:" = [0x69, 0x70, 0x34, 0x3A] := by decide
  have ip6 : ascii "ip6:" = [0x69, 0x70, 0x36, 0x3A] := by decide
  have all : ascii "all" = [0x61, 0x6C, 0x6C] := by decide
  have plus : ascii "+all" = [0x2B, 0x61, 0x6C, 0x6C] := by decide
  obtain ⟨qualifier, mechanism⟩ := term
  cases mechanism with
  | ip4 network =>
    rcases qualifier with _ | _ | _ | _ | _ <;>
      simp [termMatchesIP, Term.text, Mechanism.text, Term.taken, Qualifier.sign, hasPrefix, ip4, ip6,
        all, plus]
  | ip6 network =>
    rcases qualifier with _ | _ | _ | _ | _ <;>
      simp [termMatchesIP, Term.text, Mechanism.text, Term.taken, Qualifier.sign, hasPrefix, ip4, ip6,
        all, plus]
  | all =>
    rcases qualifier with _ | _ | _ | _ | _ <;>
      simp [termMatchesIP, Term.text, Mechanism.text, Term.taken, Qualifier.sign, hasPrefix, ip4, ip6,
        all, plus]

theorem infix_term {qualifier : Qualifier} (term : Term) :
    qualifier.sign :: ascii "all" <:+: term.text ↔ term = ⟨some qualifier, .all⟩ := by
  obtain ⟨given, mechanism⟩ := term
  -- a network has no letter of `all` but the first
  have foreign {name : GoString} {network : Network} (other : 0x6C ∉ name) :
      ¬qualifier.sign :: ascii "all" <:+:
        (given.map Qualifier.sign).toList ++ (name ++ network.text) := by
    intro within
    have letter : (0x6C : UInt8) ∈ qualifier.sign :: ascii "all" := List.mem_cons_of_mem _ (by decide)
    rcases List.mem_append.mp (within.subset letter) with sign | plain
    · revert sign
      rcases given with _ | _ | _ | _ | _ <;> decide
    · rcases List.mem_append.mp plain with named | plain
      · exact other named
      · exact (network.solid _ plain).2.2 rfl
  cases mechanism with
  | ip4 network => exact iff_of_false (foreign (by decide)) (by simp)
  | ip6 network => exact iff_of_false (foreign (by decide)) (by simp)
  | all =>
    rw [← contains_iff]
    rcases given with _ | _ | _ | _ | _ <;> cases qualifier <;> decide

theorem contains_record {spaced : List (Nat × Term)} {trailing : Nat} {qualifier : Qualifier} :
    contains (ascii "v=spf1" ++ recordText spaced trailing) (qualifier.sign :: ascii "all") =
      hasAll (spaced.map Prod.snd) [qualifier] := by
  have solid : (0x20 : UInt8) ∉ qualifier.sign :: ascii "all" := by cases qualifier <;> decide
  have version : ¬qualifier.sign :: ascii "all" <:+: ascii "v=spf1" := by
    rw [← contains_iff]
    cases qualifier <;> decide
  rw [Bool.eq_iff_iff, contains_iff, infix_recordText solid (List.cons_ne_nil _ _), or_iff_right version,
    hasAll, List.any_eq_true]
  refine exists_congr fun term => and_congr_right fun _ => ?_
  rw [infix_term]
  obtain ⟨given, mechanism⟩ := term
  cases given <;> simp [and_comm]

theorem hasAll_append (terms : List Term) (some others : List Qualifier) :
    hasAll terms (some ++ others) = (hasAll terms some || hasAll terms others) := by
  rw [Bool.eq_iff_iff, Bool.or_eq_true]
  unfold hasAll
  simp only [List.any_eq_true, Bool.and_eq_true, Option.any_eq_true, List.contains_eq_mem,
    decide_eq_true_eq, List.mem_append]
  aesop

/-- A match decides first, and then the strictest `all`. -/
def foundQualifier (outside : Outside) (ip : GoString) (terms : List Term) : Qualifier :=
  if terms.any (·.taken outside ip) then .pass
  else if hasAll terms [.fail] then .fail
  else if hasAll terms [.softfail, .neutral] then .softfail
  else .neutral

theorem found_iff {terms : List Term} {qualifier : Qualifier} :
    foundQualifier outside ip terms = qualifier ↔ Shows outside ip terms qualifier := by
  have strict := hasAll_append terms [.fail] [.softfail, .neutral]
  rw [List.singleton_append] at strict
  unfold foundQualifier
  cases taken : terms.any (·.taken outside ip) <;> cases minus : hasAll terms [.fail] <;>
    cases either : hasAll terms [.softfail, .neutral] <;> cases qualifier <;>
      simp [Shows, taken, minus, either, strict]

theorem checkSPF_record {host domain record : GoString} {txts : List GoString}
    {spaced : List (Nat × Term)} {trailing : Nat} (hosted : host ≠ []) (named : domain ≠ [])
    (parsed : outside.parseIP host = some ip) (looked : outside.lookupTXT domain = .ok txts)
    (found : txts.find? (versioned lib (ascii "v=spf1")) = some record)
    (text : toLower lib record = ascii "v=spf1" ++ recordText spaced trailing) {qualifier : Qualifier} :
    checkSPF lib outside host domain = qualifier.result ↔
      Shows outside ip (spaced.map Prod.snd) qualifier := by
  have version : fields (ascii "v=spf1") = [ascii "v=spf1"] := by decide
  have matched : spfMatchesIP outside (toLower lib record) ip =
      (spaced.map Prod.snd).any (·.taken outside ip) := by
    have untaken : termMatchesIP outside ip (ascii "v=spf1") = false := rfl
    rw [spfMatchesIP, text, fields_recordText, version, List.any_append, List.any_cons, untaken,
      List.any_nil, Bool.or_false, Bool.false_or, List.any_map, List.any_map]
    congr 1
    funext row
    exact termMatchesIP_text row.2
  have minus : contains (toLower lib record) (ascii "-all") = hasAll (spaced.map Prod.snd) [.fail] := by
    rw [text]
    exact @contains_record spaced trailing .fail
  have tilde : contains (toLower lib record) (ascii "~all") =
      hasAll (spaced.map Prod.snd) [.softfail] := by
    rw [text]
    exact @contains_record spaced trailing .softfail
  have query : contains (toLower lib record) (ascii "?all") =
      hasAll (spaced.map Prod.snd) [.neutral] := by
    rw [text]
    exact @contains_record spaced trailing .neutral
  have both := hasAll_append (spaced.map Prod.snd) [.softfail] [.neutral]
  rw [List.singleton_append] at both
  rw [← found_iff, ← Qualifier.result_inj]
  unfold checkSPF
  rw [if_neg (by simp [hosted, named]), parsed]
  dsimp only
  rw [looked]
  dsimp only
  rw [found]
  dsimp only
  rw [minus, tilde, query, matched, ← both]
  unfold foundQualifier
  refine Eq.congr_left ?_
  split_ifs <;> rfl

/-- For every record and every client, `checkSPF` comes to the qualifier of the first term
that matches exactly if the record shows it. -/
theorem spf_evaluated_iff {host domain record : GoString} {txts : List GoString}
    {spaced : List (Nat × Term)} {trailing : Nat} (hosted : host ≠ []) (named : domain ≠ [])
    (parsed : outside.parseIP host = some ip) (looked : outside.lookupTXT domain = .ok txts)
    (found : txts.find? (versioned lib (ascii "v=spf1")) = some record)
    (text : toLower lib record = ascii "v=spf1" ++ recordText spaced trailing) :
    checkSPF lib outside host domain = (evaluate outside ip (spaced.map Prod.snd)).result ↔
      Shows outside ip (spaced.map Prod.snd) (evaluate outside ip (spaced.map Prod.snd)) :=
  checkSPF_record hosted named parsed looked found text

end Records

def sampleNetwork : Network := ⟨ascii "192.0.2.0/24", by decide⟩

/-- A zone with this record, and a library that knows one client in the network. -/
def networkOutside (record : GoString) : Outside where
  lookupTXT _ := .ok [record]
  splitHostPort addr := some addr
  parseIP host := some host
  contains cidr ip := cidr == ascii "192.0.2.0/24" && ip == ascii "192.0.2.7"
  verify _ := .ok []

def networkRecord (qualifier : Option Qualifier) : GoString :=
  ascii "v=spf1" ++ recordText [(0, ⟨qualifier, .ip4 sampleNetwork⟩), (0, ⟨some .fail, .all⟩)] 0

theorem spf_evaluated_unqualified :
    checkSPF .plain (networkOutside (networkRecord none)) (ascii "192.0.2.7") (ascii "x.org") =
      (evaluate (networkOutside (networkRecord none)) (ascii "192.0.2.7")
        [⟨none, .ip4 sampleNetwork⟩, ⟨some .fail, .all⟩]).result :=
  (@spf_evaluated_iff .plain _ _ _ _ (networkRecord none) _
    [(0, ⟨none, .ip4 sampleNetwork⟩), (0, ⟨some .fail, .all⟩)] 0 (by decide) (by decide) rfl rfl
    (by decide) (by decide)).mpr (by decide)

/-- A client in a network with a plus in front of it fails. -/
theorem spf_plus_network_fails :
    networkRecord (some .pass) = ascii "v=spf1 +ip4:192.0.2.0/24 -all" ∧
      checkSPF .plain (networkOutside (networkRecord (some .pass))) (ascii "192.0.2.7")
        (ascii "x.org") = ascii "fail" ∧
      evaluate (networkOutside (networkRecord (some .pass))) (ascii "192.0.2.7")
        [⟨some .pass, .ip4 sampleNetwork⟩, ⟨some .fail, .all⟩] = .pass := by
  decide

end ElvishMail.Mailauth
