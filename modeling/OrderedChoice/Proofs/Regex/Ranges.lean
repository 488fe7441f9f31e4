import OrderedChoice.Proofs.Unicode.Edges
import OrderedChoice.Regex.Ranges

/-!
# Ranges of sets of characters

The ranges that are computed for a set hold the characters of the set and no
others, whatever operations it is put together by.
-/

namespace OrderedChoice.Regex

open Unicode (Edges)

/-- The values that words are made of are put together as they are tested. -/
theorem contains_wordValues (value : Nat) :
    wordValues.contains value = isWord value := by
  simp only [wordValues, Unicode.Values.contains, Unicode.Ranges.contains,
    List.any_cons, List.any_nil, isWord, isAsciiWord, Unicode.Property.contains]
  split
  · rename_i ascii
    have within : value ≤ 0x7F := Nat.le_of_lt_succ ascii
    have underscore : (decide (0x5F ≤ value) && decide (value ≤ 0x5F)) =
        (value == 0x5F) := by
      rw [Bool.eq_iff_iff, Bool.and_eq_true, decide_eq_true_iff,
        decide_eq_true_iff, beq_iff_eq]
      omega
    rw [underscore]
    simp [within, Bool.or_assoc, Bool.or_comm, Bool.or_left_comm]
  · rename_i beyond
    have apart : ∀ first last, last < 0x80 →
        (decide (first ≤ value) && decide (value ≤ last)) = false := by
      intro first last below
      have above : ¬ value ≤ last := by omega
      simp [above]
    have above : 0x7F < value := Nat.lt_of_not_le (by omega)
    simp [apart, above, Bool.or_assoc]

/-- The surrogates are no characters. -/
theorem contains_surrogates (character : Char) :
    surrogates.contains character.toNat = false := by
  rcases character.valid with low | ⟨above, _⟩
  · exact Edges.contains_of_forall_lt (by
      simp only [surrogates, List.forall_mem_cons]
      exact ⟨low, Nat.lt_trans low (by decide), fun _ none => by cases none⟩)
  · have started : 0xD800 ≤ character.toNat :=
      Nat.le_trans (by decide) (Nat.le_of_lt above)
    have ended : 0xE000 ≤ character.toNat := above
    simp [surrogates, Edges.contains, started, ended]

namespace CharSet

/-- The closure under the case of ASCII letters has what is a member in either
case. -/
theorem represents_asciiCaseClosureEdges {edges : Edges} {member : Nat → Bool}
    (represented : edges.Represents member) :
    (asciiCaseClosureEdges edges).Represents fun value =>
      member value || member (swapAsciiCase value) := by
  have added := fun values =>
    Edges.foldr_addRange_spec values represented.increases
  refine ⟨(added _).1, fun value scalar => ?_⟩
  have swapped : swapAsciiCase value < 0x110000 := by
    simp only [swapAsciiCase, Bool.and_eq_true, decide_eq_true_iff]
    split
    · omega
    · split <;> omega
  rw [asciiCaseClosureEdges, (added _).2,
    ← represented.contains_eq value scalar, ← represented.contains_eq _ swapped,
    Bool.eq_iff_iff, Bool.or_eq_true, List.contains_iff_mem, List.mem_filter,
    Bool.or_eq_true, List.mem_range, Bool.and_eq_true]
  have unchanged : ¬ value < 0x80 → swapAsciiCase value = value := by
    intro beyond
    have notUpper : ¬ value ≤ 0x5A := by omega
    have notLower : ¬ value ≤ 0x7A := by omega
    simp [swapAsciiCase, notUpper, notLower]
  cases known : edges.contains value with
  | true => simp
  | false =>
      by_cases ascii : value < 0x80
      · simp [ascii]
      · simp [ascii, unchanged ascii, known]

/-- The edges of a set represent it. -/
theorem represents_edges (members : CharSet) :
    members.edges.Represents members.contains := by
  induction members with
  | empty => exact ⟨.nil, fun _ _ => rfl⟩
  | any => exact Edges.represents_all
  | range first last =>
      have listed := Edges.represents_ofRanges [(first, last)]
      refine ⟨listed.increases, fun value scalar => ?_⟩
      rw [edges, listed.contains_eq value scalar]
      simp [Unicode.Ranges.contains, contains]
  | table ranges => exact Edges.represents_ofRanges ranges
  | categorized categories => exact Edges.represents_ofCategories categories
  | having property => exact property.values.represents_edges
  | word =>
      have tabled := wordValues.represents_edges
      refine ⟨tabled.increases, fun value scalar => ?_⟩
      rw [edges, tabled.contains_eq value scalar, contains_wordValues]
      rfl
  | complement members inductiveStep => exact inductiveStep.complement
  | union left right leftStep rightStep => exact leftStep.union rightStep
  | intersection left right leftStep rightStep =>
      exact leftStep.combine rfl rightStep
  | difference left right leftStep rightStep =>
      exact leftStep.difference rightStep
  | symmetricDifference left right leftStep rightStep =>
      exact leftStep.combine rfl rightStep
  | caseClosure members inductiveStep => exact inductiveStep.caseClosure
  | asciiCaseClosure members inductiveStep =>
      exact represents_asciiCaseClosureEdges inductiveStep

/-- The ranges of a set hold just its characters. -/
theorem contains_ranges (members : CharSet) (character : Char) :
    Unicode.Ranges.contains members.ranges character.toNat =
      members.contains character.toNat := by
  have scalar : character.toNat < 0x110000 := by
    rcases character.valid with low | ⟨_, high⟩
    · exact Nat.lt_trans low (by decide)
    · exact high
  have surrogatesRepresented : surrogates.Represents surrogates.contains :=
    ⟨by simp [surrogates, Edges.Increasing], fun _ _ => rfl⟩
  have represented :=
    members.represents_edges.difference surrogatesRepresented
  rw [ranges, Edges.contains_ranges represented.increases scalar,
    represented.contains_eq _ scalar, contains_surrogates, Bool.not_false,
    Bool.and_true]

end CharSet

end OrderedChoice.Regex
