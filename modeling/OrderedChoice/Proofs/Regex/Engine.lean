import OrderedChoice.Parser.Patterns
import OrderedChoice.Proofs.Regex.Arrival

/-!
# Lawful engines

What is relied on of an engine for regular expressions, whatever it does inside:
group 0 exists, names stand for groups that exist, and a match starts at the
offset where it was searched for and lies between boundaries.  The engine of
this library is lawful, and what it finds is told by `Pattern.matchAt`.
-/

namespace OrderedChoice

/-- An engine keeps what is documented of its groups and of the matches that it
searches for at an offset within the text. -/
structure Engine.Lawful (engine : Engine) : Prop where
  groupCount_pos : ∀ {expression : String} {compiled : engine.Compiled},
    engine.compile expression = .ok compiled →
      0 < engine.groupCount compiled
  groupNamed?_lt : ∀ {expression name : String} {compiled : engine.Compiled}
    {number : Nat}, engine.compile expression = .ok compiled →
      engine.groupNamed? compiled name = some number →
        number < engine.groupCount compiled
  search_zero : ∀ {expression : String} {compiled : engine.Compiled}
    {source : Source} {offset start stop : Nat},
    engine.compile expression = .ok compiled → offset ≤ source.length →
      engine.search compiled source offset 0 = some (start, stop) →
        start = offset ∧ start ≤ stop ∧ source.isBoundary start = true ∧
          source.isBoundary stop = true

/-- A match that is found starts nowhere past the end, and stops where the
whole match does. -/
theorem Engine.searchAt_eq_some_iff {engine : Engine}
    {compiled : engine.Compiled} {source : Source} {offset stop : Nat}
    {captured : Captured} :
    engine.searchAt compiled source offset = some (stop, captured) ↔
      offset ≤ source.length ∧ ∃ start,
        captured = engine.search compiled source offset ∧
          captured 0 = some (start, stop) := by
  rw [searchAt]
  split
  · rename_i past
    exact iff_of_false (fun found => by cases found)
      fun found => absurd found.1 (Nat.not_le_of_lt past)
  · rename_i within
    rw [Option.map_eq_some_iff]
    constructor
    · rintro ⟨⟨start, _⟩, zero, same⟩
      cases same
      exact ⟨Nat.le_of_not_lt within, start, rfl, zero⟩
    · rintro ⟨_, start, rfl, zero⟩
      exact ⟨(start, stop), zero, rfl⟩

namespace Pattern

variable {pattern : Pattern} {text : String}

/-! ## Groups -/

theorem le_foldl_max_iff {numbers : List Nat} {start number : Nat} :
    number ≤ numbers.foldl max start ↔
      number ≤ start ∨ ∃ used ∈ numbers, number ≤ used := by
  induction numbers generalizing start with
  | nil => simp
  | cons first numbers inductiveStep =>
      rw [List.foldl_cons, inductiveStep, le_max_iff, or_assoc]
      simp

/-- The names of an expression that is read stand for groups in use. -/
theorem mem_groups_of_read? (read : read? text = some pattern) :
    ∀ entry ∈ pattern.names, entry.2 ∈ pattern.regex.groups := by
  simp only [read?, Option.bind_eq_bind, Option.bind_eq_some_iff] at read
  rcases read with ⟨_, _, _, _, built⟩
  cases built
  intro entry member
  exact List.contains_iff_mem.mp (List.mem_filter.mp member).2

/-! ## Matches -/

theorem matchAt_of_length_lt {source : Source} {offset : Nat}
    (past : source.length < offset) : pattern.matchAt source offset = none := by
  cases matched : pattern.matchAt source offset with
  | none => rfl
  | some found =>
      rcases Regex.Term.crossed_of_matchAt matched with
        ⟨crossed, _, after, remains, _⟩
      exact absurd (Source.le_length_of_rest remains) (Nat.not_le_of_lt past)

theorem searchAt_eq (pattern : Pattern) (source : Source) (offset : Nat) :
    engine.searchAt pattern source offset =
      (pattern.matchAt source offset).map fun found =>
        (found.stop, found.span? offset) := by
  rw [Engine.searchAt]
  split
  · rename_i past
    rw [matchAt_of_length_lt past, Option.map_none]
  · cases matched : pattern.matchAt source offset with
    | none => simp [matched]
    | some found =>
        simp only [matched, Option.bind_some, Option.map_some]
        rfl

/-- The whole match is what stands between the offset and where it stops. -/
theorem groupText_zero {source : Source} {offset : Nat} {found : Regex.Match}
    (matched : pattern.matchAt source offset = some found) :
    pattern.groupText source offset found (.number 0) =
      String.ofList (source.between offset found.stop) := by
  rcases Regex.Term.crossed_of_matchAt matched with
    ⟨crossed, _, after, remains, stops⟩
  rw [groupText, Engine.groupText, Engine.span?, Regex.Match.span?, if_pos rfl,
    Option.bind_some, stops, Source.slice?_of_rest remains,
    Source.between_of_rest remains]

/-- The engine of this library is lawful. -/
theorem engine_lawful : engine.Lawful where
  groupCount_pos _ := Nat.succ_pos _
  groupNamed?_lt {expression name pattern number} built named := by
    rcases List.lookup_eq_some_iff.mp named with ⟨before, after, split, _⟩
    have inUse := mem_groups_of_read? (read?_of_ofText built) _ (by
      rw [split]
      exact List.mem_append_right before List.mem_cons_self)
    exact Nat.lt_succ_of_le
      (le_foldl_max_iff.mpr (.inr ⟨number, inUse, Nat.le_refl number⟩))
  search_zero {expression pattern source offset start stop} _ _ searched := by
    rcases Option.bind_eq_some_iff.mp searched with ⟨found, matched, span⟩
    rw [Regex.Match.span?, if_pos rfl] at span
    cases span
    rcases Regex.Term.crossed_of_matchAt matched with
      ⟨crossed, _, after, remains, stops⟩
    rw [stops]
    exact ⟨rfl, Nat.le_add_right offset _, Source.isBoundary_of_rest remains,
      Source.isBoundary_of_rest (Source.rest_add remains)⟩

end Pattern

/-- What a leaf for a pattern does is said by the match at the offset. -/
theorem Primitive.parsePattern_eq {α : Type} (expression : Pattern)
    (read : (Group → String) → α) (source : Source) (index : Nat) :
    parsePattern expression read source index =
      match expression.matchAt source index with
      | some found =>
        .success found.stop (read (expression.groupText source index found))
      | none => .failure index expression.text := by
  rw [parsePattern, Engine.parse, Pattern.searchAt_eq]
  cases expression.matchAt source index <;> rfl

end OrderedChoice
