import Mathlib.Data.List.DropRight
import ElvishMail.Httpserver.Reply

/-!
# Where a redirect leads

`safeRedirectPath` of `internal/httpserver/safe_redirect.go` decodes a path, looks for a
second slash or backslash, and cleans it. A browser drops tabs and line ends from what it is
sent to, and only then looks for two slashes. So a first segment of nothing but these, with
another segment behind it, leads to the host that this one names.

`path.Clean` is by its rules, for paths that begin with a slash. How a browser reads a host,
and what does not begin with a slash, are parameters.
-/

namespace ElvishMail.Httpserver

open Go

def unhex (byte : UInt8) : Option Nat :=
  if 48 ≤ byte.toNat ∧ byte.toNat ≤ 57 then some (byte.toNat - 48)
  else if 97 ≤ byte.toNat ∧ byte.toNat ≤ 102 then some (byte.toNat - 87)
  else if 65 ≤ byte.toNat ∧ byte.toNat ≤ 70 then some (byte.toNat - 55)
  else none

def pathUnescape : GoString → Option GoString
  | [] => some []
  | 0x25 :: high :: low :: rest => do
    let byte := (16 * (← unhex high) + (← unhex low)).toUInt8
    (← pathUnescape rest).cons byte
  | byte :: rest => if byte = 0x25 then none else (pathUnescape rest).map (byte :: ·)

/-- The segments of a path once `.` and `..` are resolved. -/
def cleanSegments (path : GoString) : List GoString :=
  (path.splitOnP (· == 0x2F)).foldl
    (fun out segment =>
      if segment = [] ∨ segment = ascii "." then out
      else if segment = ascii ".." then out.dropLast
      else out ++ [segment]) []

/-- `path.Clean`. -/
def pathClean (path : GoString) : GoString :=
  match cleanSegments path with
  | [] => ascii "/"
  | first :: rest => (first :: rest).flatMap (0x2F :: ·)

def isSafeAbsoluteRedirectPath : GoString → Bool
  | first :: second :: _ => first == 0x2F && !(second == 0x2F || second == 0x5C)
  | [first] => first == 0x2F
  | [] => false

def acceptedPath (next : GoString) : Option GoString :=
  let next := trimSpace next
  if next = [] then none
  else if next.any (fun byte => byte == 0x0D || byte == 0x0A || byte == 0 || byte == 0x5C) then none
  else
    (pathUnescape next).bind fun dec =>
      let next := trimSpace dec
      if (index next (ascii "://")).isSome then none
      else if isSafeAbsoluteRedirectPath next = false then none
      else some next

def safeRedirectPath (next : GoString) : GoString :=
  match acceptedPath next with
  | none => ascii "/"
  | some path =>
    let c := pathClean path
    if c = ascii "." ∨ isSafeAbsoluteRedirectPath c = false then ascii "/" else c

/-- How a browser reads an authority, and what does not begin with a slash. -/
structure Browser (Origin : Type) where
  authority : GoString → Option Origin
  other : GoString → Option Origin

def isControlOrSpace (byte : UInt8) : Bool := byte.toNat ≤ 0x20

def isTabOrNewline (byte : UInt8) : Bool := byte == 0x09 || byte == 0x0A || byte == 0x0D

def isSlash (byte : UInt8) : Bool := byte == 0x2F || byte == 0x5C

def browserInput (text : GoString) : GoString :=
  ((text.dropWhile isControlOrSpace).rdropWhile isControlOrSpace).filter (!isTabOrNewline ·)

section Resolution

variable {Origin : Type} (browser : Browser Origin) (site : Origin)

def Browser.resolve (text : GoString) : Option Origin :=
  match browserInput text with
  | first :: second :: rest =>
    if isSlash first = false then browser.other (browserInput text)
    else if isSlash second then browser.authority (rest.dropWhile isSlash)
    else some site
  | [first] => if isSlash first then some site else browser.other [first]
  | [] => some site

/-- The first segment is nothing to a browser and another is behind it, or it begins with a
backslash once tabs and line ends are dropped. One that begins with a backslash itself is caught. -/
def Straying : List GoString → Bool
  | [] => false
  | first :: rest =>
    first.head? != some 0x5C &&
      match first.filter (!isTabOrNewline ·) with
      | [] => !rest.isEmpty
      | byte :: _ => byte == 0x5C

/-- The path stays with the site, as far as it is accepted at all. -/
def Stays (next : GoString) : Prop :=
  ∀ path, acceptedPath next = some path → Straying (cleanSegments path) = true →
    browser.authority ((browserInput ((cleanSegments path).flatMap (0x2F :: ·))).tail.dropWhile isSlash) =
      some site

end Resolution

section Results

variable {Origin : Type} {browser : Browser Origin} {site : Origin} {next path : GoString}

theorem splitOnP_slash (text : GoString) : ∀ segment ∈ text.splitOnP (· == 0x2F), 0x2F ∉ segment := by
  induction text with
  | nil => simp
  | cons byte text ih =>
    intro segment member
    rw [List.splitOnP_cons_eq_if_modifyHead] at member
    split at member
    · rcases List.mem_cons.mp member with rfl | later
      · exact List.not_mem_nil
      · exact ih segment later
    next plain =>
      cases parts : text.splitOnP (· == 0x2F) with
      | nil => exact absurd parts (List.splitOnP_ne_nil _ _)
      | cons first rest =>
        rw [parts] at member ih
        rcases List.mem_cons.mp member with rfl | later
        · rw [List.mem_cons, not_or]
          exact ⟨fun same => plain (by rw [← same]; rfl), ih first List.mem_cons_self⟩
        · exact ih segment (List.mem_cons_of_mem _ later)

theorem cleanSegments_plain (path : GoString) :
    ∀ segment ∈ cleanSegments path, segment ≠ [] ∧ 0x2F ∉ segment := by
  have run (segments out : List GoString) (plain : ∀ segment ∈ segments, 0x2F ∉ segment)
      (before : ∀ segment ∈ out, segment ≠ [] ∧ 0x2F ∉ segment) :
      ∀ segment ∈ segments.foldl (fun out segment =>
        if segment = [] ∨ segment = ascii "." then out
        else if segment = ascii ".." then out.dropLast
        else out ++ [segment]) out, segment ≠ [] ∧ 0x2F ∉ segment := by
    induction segments generalizing out with
    | nil => exact before
    | cons first rest ih =>
      obtain ⟨own, others⟩ := List.forall_mem_cons.mp plain
      rw [List.foldl_cons]
      refine ih _ others ?_
      split_ifs with dot parent
      · exact before
      · exact fun segment member => before segment (List.dropLast_subset _ member)
      · intro segment member
        rcases List.mem_append.mp member with earlier | last
        · exact before segment earlier
        · rw [List.mem_singleton.mp last]
          exact ⟨fun empty => dot (.inl empty), own⟩
  exact run _ _ (splitOnP_slash path) nofun

theorem head_browserInput (text : GoString) :
    ((text.rdropWhile isControlOrSpace).filter (!isTabOrNewline ·)).head?.any isSlash =
      (text.filter (!isTabOrNewline ·)).head?.any isSlash := by
  obtain ⟨stop, split, controls⟩ : ∃ stop, text = text.rdropWhile isControlOrSpace ++ stop ∧
      ∀ byte ∈ stop, isControlOrSpace byte = true :=
    ⟨text.rtakeWhile isControlOrSpace, (List.rdropWhile_append_rtakeWhile ..).symm,
      fun byte member => List.mem_rtakeWhile_imp member⟩
  conv_rhs => rw [split]
  rw [List.filter_append]
  cases front : (text.rdropWhile isControlOrSpace).filter (!isTabOrNewline ·) with
  | cons byte rest => rfl
  | nil =>
    rw [List.nil_append]
    cases last : stop.filter (!isTabOrNewline ·) with
    | nil => rfl
    | cons byte rest =>
      have member : byte ∈ stop := List.mem_of_mem_filter (last ▸ List.mem_cons_self)
      have control := controls byte member
      unfold isControlOrSpace at control
      rw [List.head?_cons, Option.any_some, isSlash]
      by_contra slash
      have either : byte = 0x2F ∨ byte = 0x5C := by simpa [or_iff_not_imp_left] using slash
      rcases either with rfl | rfl <;> exact absurd control (by decide)

theorem browserInput_slash (text : GoString) : browserInput (0x2F :: text) =
    0x2F :: (text.rdropWhile isControlOrSpace).filter (!isTabOrNewline ·) := by
  have kept : (0x2F :: text).rdropWhile isControlOrSpace = 0x2F :: text.rdropWhile isControlOrSpace := by
    unfold List.rdropWhile
    rw [List.reverse_cons, List.dropWhile_append]
    split
    next none =>
      rw [List.isEmpty_iff.mp none]
      rfl
    next => rw [List.reverse_append, List.reverse_singleton, List.singleton_append]
  rw [browserInput, List.dropWhile_cons_of_neg (by decide), kept, List.filter_cons_of_pos (by decide)]

theorem resolve_slash (browser : Browser Origin) (site : Origin) (text : GoString) :
    browser.resolve site (0x2F :: text) =
      if (text.filter (!isTabOrNewline ·)).head?.any isSlash then
        browser.authority ((browserInput (0x2F :: text)).tail.dropWhile isSlash)
      else some site := by
  rw [← head_browserInput, Browser.resolve, browserInput_slash]
  cases (text.rdropWhile isControlOrSpace).filter (!isTabOrNewline ·) with
  | nil => rfl
  | cons second rest =>
    have shown : (second :: rest).head?.any isSlash = isSlash second := rfl
    rw [shown, List.tail_cons]
    dsimp only
    rw [if_neg (by decide)]
    by_cases slash : isSlash second = true
    · rw [if_pos slash, if_pos slash, List.dropWhile_cons_of_pos slash]
    · rw [if_neg slash, if_neg slash]

theorem straying_iff {first : GoString} {rest : List GoString} (plain : 0x2F ∉ first)
    (caught : first.head? ≠ some 0x5C) :
    (((first ++ rest.flatMap (0x2F :: ·)).filter (!isTabOrNewline ·)).head?.any isSlash) =
      Straying (first :: rest) := by
  have early : (first.head? != some 0x5C) = true := bne_iff_ne.mpr caught
  rw [List.filter_append, Straying, early, Bool.true_and]
  cases shown : first.filter (!isTabOrNewline ·) with
  | nil =>
    cases rest with
    | nil => rfl
    | cons => rfl
  | cons byte more =>
    have member : byte ∈ first := List.mem_of_mem_filter (shown ▸ List.mem_cons_self)
    have other : (byte == 0x2F) = false := beq_eq_false_iff_ne.mpr fun same => plain (same ▸ member)
    rw [List.cons_append, List.head?_cons, Option.any_some, isSlash, other, Bool.false_or]

/-- The origin stays exactly if the path does. -/
theorem redirect_stays_iff (browser : Browser Origin) (site : Origin) (next : GoString) :
    browser.resolve site (safeRedirectPath next) = some site ↔ Stays browser site next := by
  have root : browser.resolve site (ascii "/") = some site := resolve_slash browser site []
  unfold safeRedirectPath Stays
  cases accepted : acceptedPath next with
  | none => exact iff_of_true root nofun
  | some path =>
    simp only [Option.some.injEq, forall_eq']
    rw [pathClean]
    have segments := cleanSegments_plain path
    cases clean : cleanSegments path with
    | nil => exact iff_of_true root nofun
    | cons first rest =>
      rw [clean] at segments
      obtain ⟨some, plain⟩ := segments first List.mem_cons_self
      have text : (first :: rest).flatMap (0x2F :: ·) = 0x2F :: (first ++ rest.flatMap (0x2F :: ·)) := rfl
      dsimp only
      cases first with
      | nil => exact absurd rfl some
      | cons byte more =>
        have slash : byte ≠ 0x2F := fun same => plain (same ▸ List.mem_cons_self)
        by_cases caught : byte = 0x5C
        · have refused :
            isSafeAbsoluteRedirectPath (((byte :: more) :: rest).flatMap (0x2F :: ·)) = false := by
            rw [text, caught]
            rfl
          rw [if_pos (.inr refused)]
          refine iff_of_true root fun straying => ?_
          rw [Straying, caught] at straying
          cases straying
        · have passed : isSafeAbsoluteRedirectPath (((byte :: more) :: rest).flatMap (0x2F :: ·)) = true := by
            rw [text, List.cons_append, isSafeAbsoluteRedirectPath, beq_eq_false_iff_ne.mpr slash,
              beq_eq_false_iff_ne.mpr caught]
            rfl
          have longer : ((byte :: more) :: rest).flatMap (0x2F :: ·) ≠ ascii "." := by
            rw [text]
            exact fun same => absurd (List.cons.inj same).1 (by decide)
          rw [if_neg (not_or.mpr ⟨longer, by rw [passed]; decide⟩), text, resolve_slash,
            straying_iff plain (by simpa using caught)]
          split
          next straying => exact ⟨fun named _ => named, fun named => named straying⟩
          next staying => exact iff_of_true rfl fun straying => absurd straying staying

end Results

def plainBrowser : Browser GoString where
  authority text := some (text.takeWhile (!isSlash ·))
  other _ := none

/-- An encoded tab between two slashes leads to another host. -/
theorem redirect_strays :
    safeRedirectPath (ascii "/%09/evil.com") = ascii "/\t/evil.com" ∧
      plainBrowser.resolve (ascii "site.org") (safeRedirectPath (ascii "/%09/evil.com")) =
        some (ascii "evil.com") ∧
      ¬∀ next, plainBrowser.resolve (ascii "site.org") (safeRedirectPath next) = some (ascii "site.org") := by
  have leads : plainBrowser.resolve (ascii "site.org") (safeRedirectPath (ascii "/%09/evil.com")) =
      some (ascii "evil.com") := by decide +kernel
  refine ⟨by decide +kernel, leads, fun always => ?_⟩
  have same := leads.symm.trans (always _)
  revert same
  decide

end ElvishMail.Httpserver
