import ElvishMail.Go.Lowering
import ElvishMail.Mailworker.Payload

/-!
# Where the worker finds the sender's field

`indexHeader` looks for the field in a lower-cased copy of the payload, and its caller cuts the
payload at the index it finds. The index is the field's own as long as what is in front of it
has the length of its lower case.
-/

namespace ElvishMail.Mailworker

open Go

variable {lib : Library} {payload front rest : GoString} {place : Nat}

def fromLine : GoString := ascii "\r\nfrom:"

/-- The case tables have no rune outside ASCII whose lower case is a byte of the pattern. -/
def FromSteady (lib : Library) : Prop := ∀ byte ∈ fromLine, lib.Spares byte

theorem FromSteady.steady (tables : FromSteady lib) : ∀ byte ∈ fromLine, lib.Steady byte := by
  have small : ∀ byte ∈ fromLine, byte.toNat < 0x80 := by decide +kernel
  exact fun byte mem => ⟨small byte mem, tables byte mem⟩

/-- The first field of that name after a CRLF, in any letter case. -/
def fromPlace (payload : GoString) : Option Nat := index (payload.map lowerByte) fromLine

/-- A text that begins with the field's name, in any letter case. -/
def BeginsFrom (text : GoString) : Prop := ascii "from:" <+: text.map lowerByte

instance (text : GoString) : Decidable (BeginsFrom text) :=
  inferInstanceAs (Decidable (ascii "from:" <+: text.map lowerByte))

theorem indexHeader_eq (tables : FromSteady lib) (payload : GoString) :
    indexHeader lib payload (ascii "From:") =
      match fromPlace payload with
      | some 0 => some 0
      | some place => some ((toLower lib (payload.take place)).length + 2)
      | none => if BeginsFrom payload then some 0 else none := by
  have target : toLower lib (ascii "From:") = ascii "from:" := by
    have lowered := toLower_ascii lib (ascii "From:") [] (small_of_all (by decide))
    rw [List.append_nil, toLower_nil] at lowered
    rw [lowered]
    decide
  have begins : hasPrefix (toLower lib payload) (ascii "from:") = decide (BeginsFrom payload) := by
    rw [Bool.eq_iff_iff, hasPrefix, List.isPrefixOf_iff_prefix, decide_eq_true_iff, BeginsFrom]
    have within : ∀ byte ∈ ascii "from:", byte ∈ fromLine := by decide +kernel
    exact prefix_toLower (fun byte mem => tables.steady byte (within byte mem)) payload
  unfold indexHeader
  dsimp only
  rw [target, show ascii "\r\n" ++ ascii "from:" = fromLine from rfl, begins]
  rcases index_toLower tables.steady payload with ⟨copy, text⟩ | ⟨front, next, rest, split, -, text, copy⟩
  · rw [show index (toLower lib payload) fromLine = none from copy, fromPlace,
      show index (payload.map lowerByte) fromLine = none from text]
    simp
  · rw [show index (toLower lib payload) fromLine = _ from copy, fromPlace,
      show index (payload.map lowerByte) fromLine = _ from text]
    cases front with
    | nil => rfl
    | cons first front =>
      cases lower : (toLower lib (first :: front)).length with
      | zero => exact absurd (List.length_eq_zero_iff.mp lower) (toLower_ne_nil first front)
      | succ less =>
        have taken : payload.take (front.length + 1) = first :: front := by
          rw [split]
          exact List.take_left' rfl
        show some (less + 1 + 2) =
          some ((toLower lib (payload.take (front.length + 1))).length + 2)
        rw [taken, lower]

/-- The index is inside the payload, what is in front of it there is what is in front of it in
the lower-cased copy, and the field begins at it. -/
def PointsAtHeader (lib : Library) (payload : GoString) (idx : Nat) : Prop :=
  idx ≤ payload.length ∧ toLower lib (payload.take idx) = (toLower lib payload).take idx ∧
    BeginsFrom (payload.drop idx)

/-- Nothing is cut out of range, and an index that is found points at the field. -/
def SafeIndex (lib : Library) (payload : GoString) : Prop :=
  extractFromHeader lib payload ≠ none ∧
    ∀ idx, indexHeader lib payload (ascii "From:") = some idx → PointsAtHeader lib payload idx

/-- What is in front of the first CRLF with the field after it is not empty and has the length
of its lower case. -/
def KeepsPlace (lib : Library) (payload : GoString) : Prop :=
  ∀ place, fromPlace payload = some place →
    place ≠ 0 ∧ (toLower lib (payload.take place)).length = place

theorem lowerByte_eq_self {byte other : UInt8} (control : other.toNat < 0x20)
    (same : lowerByte byte = other) : byte = other := by
  unfold lowerByte at same
  split at same
  next letter =>
    have value := congrArg UInt8.toNat same
    rw [UInt8.toNat_add] at value
    simp at value
    omega
  next => exact same

theorem fromPlace_split (found : fromPlace payload = some place) :
    ∃ front rest : GoString, payload = front ++ (0x0D :: 0x0A :: rest) ∧ front.length = place ∧
      BeginsFrom rest := by
  obtain ⟨before, after, split, rfl⟩ := index_some found
  obtain ⟨front, tail, rfl, rfl, lowered⟩ := List.map_eq_append_iff.mp split
  cases tail with
  | nil => cases lowered
  | cons first tail =>
    cases tail with
    | nil => cases (List.cons.inj lowered).2
    | cons second rest =>
      obtain ⟨carriage, more⟩ := List.cons.inj lowered
      obtain ⟨feed, more⟩ := List.cons.inj more
      have isCarriage : first = 0x0D := lowerByte_eq_self (by decide) carriage
      have isFeed : second = 0x0A := lowerByte_eq_self (by decide) feed
      exact ⟨front, rest, by rw [isCarriage, isFeed], by simp, after, more.symm⟩

theorem BeginsFrom.stop {text : GoString} (begins : BeginsFrom text) {stop : Nat}
    (found : index text (ascii "\r\n") = some stop) : 5 ≤ stop ∧ stop ≤ text.length := by
  obtain ⟨front, after, rfl, rfl⟩ := index_some found
  refine ⟨?_, by simp⟩
  by_contra short
  have early : (front ++ [0x0D]).map lowerByte <+: (front ++ (ascii "\r\n" ++ after)).map lowerByte :=
    ⟨(0x0A :: after).map lowerByte, by simp [show ascii "\r\n" = [0x0D, 0x0A] from rfl]⟩
  have within := List.prefix_of_prefix_length_le early begins (by
    rw [List.length_map, List.length_append]
    exact Nat.lt_of_not_le short)
  have member : (0x0D : UInt8) ∈ ascii "from:" := within.subset (by
    rw [List.map_append]
    exact List.mem_append_right _ (by decide))
  exact absurd member (by decide)

theorem extractFromHeader_ne_none (found : indexHeader lib payload (ascii "From:") = some place)
    (inside : place ≤ payload.length) (begins : BeginsFrom (payload.drop place)) :
    extractFromHeader lib payload ≠ none := by
  rw [extractFromHeader, found]
  dsimp only
  rw [if_neg (by omega)]
  cases stop : index (payload.drop place) (ascii "\r\n") with
  | none => exact nofun
  | some stop =>
    obtain ⟨low, high⟩ := begins.stop stop
    rw [List.length_drop] at high
    dsimp only
    rw [slice, if_pos ⟨by omega, by omega⟩]
    exact nofun

theorem pointsAtHeader_place (found : fromPlace payload = some place)
    (kept : (toLower lib (payload.take place)).length = place) :
    PointsAtHeader lib payload (place + 2) := by
  obtain ⟨front, rest, split, rfl, begins⟩ := fromPlace_split found
  have taken : payload.take front.length = front := by rw [split]; exact List.take_left' rfl
  rw [taken] at kept
  have cut : payload = (front ++ [0x0D, 0x0A]) ++ rest := by rw [split]; simp
  have size : (front ++ [0x0D, 0x0A]).length = front.length + 2 := by simp
  have lowered (tail : GoString) : toLower lib (front ++ (0x0D :: 0x0A :: tail)) =
      toLower lib front ++ [0x0D, 0x0A] ++ toLower lib tail := by
    rw [toLower_before_ascii (by decide), toLower_cons_ascii (by decide), List.append_assoc]
    rfl
  refine ⟨?_, ?_, ?_⟩
  · rw [cut, List.length_append, size]
    exact Nat.le_add_right _ _
  · have before := lowered []
    rw [cut, List.take_left' size, before, ← cut, split, lowered, toLower_nil, List.append_nil,
      List.take_left' (by simp [kept])]
  · rw [cut, List.drop_left' size]
    exact begins

theorem place_kept (tables : FromSteady lib) (found : fromPlace payload = some place)
    (points : PointsAtHeader lib payload ((toLower lib (payload.take place)).length + 2)) :
    (toLower lib (payload.take place)).length = place := by
  obtain ⟨front, rest, split, rfl, -⟩ := fromPlace_split found
  have taken : payload.take front.length = front := by rw [split]; exact List.take_left' rfl
  rw [taken] at points ⊢
  obtain ⟨inside, same, -⟩ := points
  have copy : (toLower lib payload).take ((toLower lib front).length + 2) =
      toLower lib front ++ 0x0D :: [0x0A] := by
    rw [split, toLower_before_ascii (by decide), toLower_cons_ascii (by decide)]
    exact List.take_length_add_append 2
  have carriage : lib.Steady 0x0D := tables.steady _ (by decide)
  have feed : lib.Steady 0x0A := tables.steady _ (by decide)
  obtain ⟨early, byte, more, cut, lower, isCarriage, tail⟩ := toLower_split carriage (same.trans copy)
  obtain ⟨between, next, last, rfl, start, -, stop⟩ := @toLower_split lib _ feed more [] [] tail
  have small : byte.toNat < 0x80 := lowerByte_small (isCarriage ▸ by decide)
  have empty {text : GoString} (lowered : toLower lib text = []) : text = [] := by
    cases text with
    | nil => rfl
    | cons first rest => exact absurd lowered (toLower_ne_nil first rest)
  have whole : early ++ byte :: (next :: payload.drop ((toLower lib front).length + 2)) =
      front ++ 0x0D :: (0x0A :: rest) := by
    have joined := List.take_append_drop ((toLower lib front).length + 2) payload
    rw [cut, empty start, empty stop] at joined
    simpa using joined.trans split
  have sameFront := toLower_place small (by decide) whole lower
  have size := congrArg List.length cut
  rw [List.length_take_of_le inside, empty start, empty stop, sameFront] at size
  simpa using size

/-- The index that is found in the lower-cased copy is one of the payload, and the field's own,
exactly where the text in front of the first field of the name is as long as its lower case. -/
theorem extractFromHeader_safe (lib : Library) (tables : FromSteady lib) (payload : GoString) :
    SafeIndex lib payload ↔ KeepsPlace lib payload := by
  have header := indexHeader_eq tables payload
  constructor
  · rintro ⟨cuts, points⟩ place found
    rw [found] at header
    cases place with
    | zero =>
      refine absurd ?_ cuts
      obtain ⟨front, rest, split, size, -⟩ := fromPlace_split found
      rw [List.length_eq_zero_iff.mp size] at split
      have start : index (payload.drop 0) (ascii "\r\n") = some 0 := by
        rw [split]
        rfl
      rw [extractFromHeader, show indexHeader lib payload (ascii "From:") = some 0 from header]
      dsimp only
      rw [if_neg (Nat.not_lt_zero _), start]
      rfl
    | succ less => exact ⟨Nat.succ_ne_zero _, place_kept tables found (points _ header)⟩
  · intro kept
    have points : ∀ idx, indexHeader lib payload (ascii "From:") = some idx →
        PointsAtHeader lib payload idx := by
      intro idx found
      rw [header] at found
      split at found
      next zero => exact absurd rfl (kept 0 zero).1
      next place _ here =>
        obtain ⟨-, same⟩ := kept place here
        rw [same] at found
        cases found
        exact pointsAtHeader_place here same
      next missing =>
        split at found
        next begins =>
          cases found
          exact ⟨Nat.zero_le _, rfl, begins⟩
        next => cases found
    refine ⟨?_, points⟩
    cases found : indexHeader lib payload (ascii "From:") with
    | none =>
      rw [extractFromHeader, found]
      exact nofun
    | some idx =>
      obtain ⟨inside, -, begins⟩ := points idx found
      exact extractFromHeader_ne_none found inside begins

theorem plain_fromSteady : FromSteady Library.plain := by
  intro byte mem rune large same
  have small : ∀ byte ∈ fromLine, byte.toNat < 0x80 := by decide +kernel
  have inside := small byte mem
  have self : Library.plain.lowerRune rune = rune := rfl
  omega

/-- A subject of eight bytes outside UTF-8 in front of the sender. -/
def invalidPayload : GoString :=
  ascii "Subject: " ++ List.replicate 8 0xE9 ++ ascii "\r\nFrom: a@b.c\r\n\r\n"

/-- The lower-cased copy is longer by two bytes for each of them, and the cut is out of range. -/
theorem extractFromHeader_panics :
    extractFromHeader Library.plain invalidPayload = none ∧ ¬SafeIndex Library.plain invalidPayload := by
  have crashed : extractFromHeader Library.plain invalidPayload = none := by decide
  exact ⟨crashed, fun safe => safe.1 crashed⟩

/-- A letter of another size behind the field does no harm. -/
theorem extractFromHeader_safe_behind :
    SafeIndex Library.plain (ascii "To: x@y\r\nFrom: a@b.c\r\nX: " ++ [0xFF] ++ ascii "\r\n\r\n") :=
  (extractFromHeader_safe Library.plain plain_fromSteady _).mpr (by
    intro place found
    have here : fromPlace (ascii "To: x@y\r\nFrom: a@b.c\r\nX: " ++ [0xFF] ++ ascii "\r\n\r\n") =
        some 7 := by decide
    cases here.symm.trans found
    decide)

end ElvishMail.Mailworker
