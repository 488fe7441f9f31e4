import OrderedChoice.Proofs.Parser.Takes
import OrderedChoice.Proofs.Parser.Texts
import OrderedChoice.Proofs.Regex.Engine
import OrderedChoice.Proofs.Regex.Preference

/-!
# Patterns as parsers

What a parser for a pattern takes, from what its expression prefers or refuses,
and the texts that it tracks: those of the language of the expression.
-/

namespace OrderedChoice

/-- The texts of a language, each standing for itself. -/
def Texts.ofLanguage (language : Language Char) : Texts String :=
  fun text value => text ∈ language ∧ value = String.ofList text

namespace Parser

variable {R : Type → Type} {source : Source} {index : Nat}

section

variable {rules : Rules R} {pattern : Pattern} {taken after rest : List Char}

theorem takes_matching (prefers : pattern.regex.step.Prefers taken after) :
    (matching pattern (.number 0)).Takes rules taken after
      (String.ofList taken) := by
  intro source index remains
  rcases Regex.Term.matchAt_of_prefers prefers remains with
    ⟨found, matched, stops⟩
  have found : pattern.matchAt source index = some _ := matched
  rw [matching, reads_leaf_iff, Primitive.parse, Primitive.parsePattern_eq,
    found]
  dsimp only
  rw [Pattern.groupText_zero found, stops, Source.between_of_rest remains]
  rfl

/-- A literal refuses what does not start with its first character. -/
theorem refuses_literal_of_stopsAt {text : String} (letter : Char)
    {letters : List Char} (spelled : text.toList = letter :: letters)
    (stops : (Regex.CharSet.single letter.toNat).StopsAt rest) :
    (literal text : Parser R String).Refuses rules rest := by
  apply refuses_literal
  rw [spelled]
  rintro ⟨after, rfl⟩
  have outside := Regex.CharSet.stopsAt_cons_iff.mp stops
  rw [Regex.CharSet.contains_single.mpr rfl] at outside
  cases outside

theorem refuses_matching {group : Group}
    (refuses : pattern.regex.step.Refuses rest) :
    (matching pattern group).Refuses rules rest := by
  intro source index remains
  rw [matching, misses_leaf_iff, Primitive.parse, Primitive.parsePattern_eq,
    Pattern.matchAt, Regex.Term.matchAt_of_refuses refuses remains]
  rfl

end

variable {α β : Type} {outlook : Outlook source} {calls : Calls R} {turns : Nat}

/-- A leaf that selects what comes next. -/
theorem answer_bind_leaf (primitive : Primitive α) (next : α → Parser R β) :
    ((Parser.bind (.leaf primitive) next).attempt source calls turns
      index).answer =
      match primitive.parse source index with
      | ⟨.success stop value, prior⟩ =>
        ((next value).attempt source calls turns stop).answer.map
          (·.aggregate prior)
      | ⟨.failure, prior⟩ => .ok (.failed prior) := by
  simp only [attempt, Attempt.bind, Run.leaf, Run.andThen]
  rcases primitive.parse source index with ⟨outcome, prior⟩
  cases outcome with
  | success stop value => rfl
  | failure => rfl

theorem tracks_matching (pattern : Pattern)
    (suits : ∀ index,
      outlook.Allows index (.ofLanguage pattern.regex.language) →
      outlook.suits index pattern.text) :
    (matching pattern (.number 0)).Tracks outlook calls turns
      (.ofLanguage pattern.regex.language) := by
  intro index boundary
  apply tracksAt_leaf
  intro allows
  rw [Primitive.parse, Primitive.parsePattern_eq]
  cases matched : pattern.matchAt source index with
  | none => exact .failed (.single (suits index allows))
  | some found =>
      constructor
      · exact .none
      · intro stop value outcome
        rcases Regex.Term.crossed_of_matchAt matched with
          ⟨crossed, member, after, remainsAfter, stops⟩
        cases outcome
        rw [Pattern.groupText_zero matched, stops,
          Source.between_of_rest remainsAfter]
        exact ⟨crossed, after, remainsAfter, rfl, member, rfl⟩

end Parser

end OrderedChoice
