import ElvishMail.Go.Lowering

/-!
# Fields of a text

An ASCII space separates the fields of a text wherever it stands, and a pattern without
it is found on one side or the other. So is what stands behind the first place of a pattern.
-/

namespace Go

variable {byte : UInt8} {text pattern : GoString}

@[simp] theorem fields_nil : fields [] = [] := rfl

theorem fields_append (small : byte.toNat < 0x80) (space : isSpace byte.toNat = true)
    (front rest : GoString) : fields (front ++ byte :: rest) = fields front ++ fields rest := by
  have cut : (runes (front ++ byte :: rest)).splitOnP (fun rune => isSpace rune.value) =
      (runes front).splitOnP (fun rune => isSpace rune.value) ++
        (runes rest).splitOnP fun rune => isSpace rune.value := by
    rw [runes_before_ascii small, runes_ascii small]
    exact List.splitOnP_append_cons _ _ space
  unfold fields
  rw [cut, List.map_append, List.filter_append]

theorem fields_cons_space (small : byte.toNat < 0x80) (space : isSpace byte.toNat = true)
    (rest : GoString) : fields (byte :: rest) = fields rest :=
  fields_append small space [] rest

theorem fields_solid (solid : ∀ byte ∈ text, byte.toNat < 0x80 ∧ isSpace byte.toNat = false)
    (some : text ≠ []) : fields text = [text] := by
  have marks := runes_ascii_append (fun byte member => (solid byte member).1) []
  rw [List.append_nil] at marks
  have one : (runes text).splitOnP (fun rune => isSpace rune.value) = [runes text] := by
    apply List.splitOnP_eq_singleton
    intro rune member
    rw [marks] at member
    simp only [runes, runesFuel, List.length_nil, List.append_nil, List.mem_map] at member
    obtain ⟨byte, there, rfl⟩ := member
    exact (solid byte there).2
  rw [fields, one]
  simp [some]

theorem exists_splitOnP {Item : Type*} {splits : Item → Bool} {items : List Item} {item : Item}
    (member : item ∈ items) (kept : splits item = false) : ∃ part ∈ items.splitOnP splits, item ∈ part := by
  induction items with
  | nil => exact absurd member List.not_mem_nil
  | cons first rest ih =>
    rw [List.splitOnP_cons_eq_if_modifyHead]
    rcases List.mem_cons.mp member with rfl | later
    · obtain ⟨part, parts, same⟩ := List.exists_cons_of_ne_nil (List.splitOnP_ne_nil splits rest)
      rw [if_neg (by simp [kept]), same]
      exact ⟨item :: part, List.mem_cons_self, List.mem_cons_self⟩
    · obtain ⟨part, partMember, within⟩ := ih later
      split
      · exact ⟨part, List.mem_cons_of_mem _ partMember, within⟩
      · obtain ⟨head, tail, same⟩ := List.exists_cons_of_ne_nil (List.splitOnP_ne_nil splits rest)
        rw [same] at partMember ⊢
        rcases List.mem_cons.mp partMember with rfl | inTail
        · exact ⟨first :: part, List.mem_cons_self, List.mem_cons_of_mem _ within⟩
        · exact ⟨part, List.mem_cons_of_mem _ inTail, within⟩

theorem fields_ne_nil (small : byte.toNat < 0x80) (visible : isSpace byte.toNat = false)
    (member : byte ∈ text) : fields text ≠ [] := by
  obtain ⟨front, rest, rfl⟩ := List.append_of_mem member
  have rune : (⟨byte.toNat, [byte]⟩ : Rune) ∈ runes (front ++ byte :: rest) := by
    rw [runes_before_ascii small, runes_ascii small]
    exact List.mem_append_right _ List.mem_cons_self
  obtain ⟨part, there, within⟩ :=
    @exists_splitOnP _ (fun rune : Rune => isSpace rune.value) _ _ rune visible
  intro none
  have blank := List.filter_eq_nil_iff.mp none (joinRunes part) (List.mem_map_of_mem there)
  have shown : byte ∈ joinRunes part := List.mem_flatMap.mpr ⟨_, within, List.mem_singleton_self byte⟩
  cases found : joinRunes part with
  | nil =>
    rw [found] at shown
    cases shown
  | cons other others => simp [found] at blank

theorem prefix_append_cons (absent : byte ∉ pattern) {front rest : GoString}
    (opens : pattern <+: front ++ byte :: rest) : pattern <+: front := by
  induction front generalizing pattern with
  | nil =>
    cases pattern with
    | nil => exact List.nil_prefix
    | cons first pattern =>
      obtain ⟨rfl, -⟩ := List.cons_prefix_cons.mp opens
      exact absurd List.mem_cons_self absent
  | cons head front ih =>
    cases pattern with
    | nil => exact List.nil_prefix
    | cons first pattern =>
      obtain ⟨rfl, behind⟩ := List.cons_prefix_cons.mp opens
      exact List.cons_prefix_cons.mpr
        ⟨rfl, ih (fun member => absent (List.mem_cons_of_mem _ member)) behind⟩

theorem infix_append_cons (absent : byte ∉ pattern) (front rest : GoString) :
    pattern <:+: front ++ byte :: rest ↔ pattern <:+: front ∨ pattern <:+: rest := by
  constructor
  · intro within
    induction front with
    | nil =>
      rcases List.infix_cons_iff.mp within with opens | within
      · exact .inl (@prefix_append_cons byte pattern absent [] rest opens).isInfix
      · exact .inr within
    | cons head front ih =>
      rcases List.infix_cons_iff.mp within with opens | within
      · exact .inl (@prefix_append_cons byte pattern absent (head :: front) rest opens).isInfix
      · exact (ih within).imp_left List.infix_cons
  · rintro (within | within)
    · exact List.infix_append_of_infix_left within
    · exact List.infix_append_of_infix_right (List.infix_cons within)

def behind (text pattern : GoString) : Option GoString :=
  (index text pattern).map fun place => text.drop (place + pattern.length)

theorem behind_suffix {tail : GoString} (found : behind text pattern = some tail) : tail <:+ text := by
  obtain ⟨place, -, rfl⟩ := Option.map_eq_some_iff.mp found
  exact List.drop_suffix ..

theorem behind_nil (some : pattern ≠ []) : behind [] pattern = none := by
  cases pattern with
  | nil => exact absurd rfl some
  | cons first pattern => rfl

theorem behind_cons (byte : UInt8) (text pattern : GoString) :
    behind (byte :: text) pattern =
      if pattern.isPrefixOf (byte :: text) then Option.some ((byte :: text).drop pattern.length)
      else behind text pattern := by
  rw [behind, index_cons]
  split
  · rw [Option.map_some, Nat.zero_add]
  · rw [Option.map_map]
    refine congrArg (fun after => Option.map after (index text pattern)) (funext fun place => ?_)
    rw [Function.comp_apply, Nat.add_right_comm, List.drop_succ_cons]

theorem behind_skip {first : UInt8} (absent : first ∉ text) (rest pattern : GoString) :
    behind (text ++ rest) (first :: pattern) = behind rest (first :: pattern) := by
  rw [behind, index_skip absent, Option.map_map, behind]
  refine congrArg (fun after => Option.map after (index rest (first :: pattern)))
    (funext fun place => ?_)
  rw [Function.comp_apply, Nat.add_right_comm, Nat.add_comm _ text.length, List.drop_append]
  simp

theorem behind_append_cons (absent : byte ∉ pattern) (some : pattern ≠ []) (front rest : GoString) :
    behind (front ++ byte :: rest) pattern =
      ((behind front pattern).map (· ++ byte :: rest)).or (behind rest pattern) := by
  induction front with
  | nil =>
    have elsewhere : pattern.isPrefixOf (byte :: rest) = false := by
      rw [Bool.eq_false_iff, ne_eq, List.isPrefixOf_iff_prefix]
      intro opens
      exact some (List.prefix_nil.mp (@prefix_append_cons byte pattern absent [] rest opens))
    rw [List.nil_append, behind_cons, elsewhere, behind_nil some]
    rfl
  | cons head front ih =>
    rw [List.cons_append, behind_cons, behind_cons]
    by_cases opens : pattern <+: head :: front
    · have whole : pattern <+: head :: (front ++ byte :: rest) :=
        opens.trans (List.prefix_append (head :: front) (byte :: rest))
      rw [if_pos (List.isPrefixOf_iff_prefix.mpr whole), if_pos (List.isPrefixOf_iff_prefix.mpr opens),
        ← List.cons_append, List.drop_append_of_le_length opens.length_le]
      rfl
    · have whole : ¬pattern <+: head :: (front ++ byte :: rest) := fun more =>
        opens (@prefix_append_cons byte pattern absent (head :: front) rest more)
      rw [if_neg (mt List.isPrefixOf_iff_prefix.mp whole),
        if_neg (mt List.isPrefixOf_iff_prefix.mp opens), ih]

end Go
