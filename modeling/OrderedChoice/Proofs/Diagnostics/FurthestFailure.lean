import OrderedChoice.Proofs.Parser.Invariant

/-!
# Furthest failure

Where nothing replaces diagnostics, the diagnostics of a result say exactly how
far the run got and what it tried there: they summarise every leaf attempt of
the run, those of abandoned alternatives, of failed last turns and of rules
entered on the way included.
-/

namespace OrderedChoice

/-- Runs whose diagnostics summarise the attempts made so far. -/
def RunInvariant.summaries (source : Source) :
    RunInvariant source .reporting where
  passed := fun _ _ diagnostics attempts => Summarizes attempts diagnostics
  failed := fun _ diagnostics attempts => Summarizes attempts diagnostics
  begin_passed := fun _ => .nil
  leaf_passed := fun _ _ _ _ diagnostics _ _ => .single diagnostics
  leaf_failed := fun _ _ diagnostics _ _ => .single diagnostics
  then_passed := fun first second => first.merge second
  then_failed := fun first second => first.merge second
  give_up := id
  halt := fun _ _ _ _ _ => id
  forget := False.elim
  rewind := False.elim
  refuse := False.elim

/--
The diagnostics of a result, be it a success or a failure, are the summary of
all leaf attempts of its run, if no combinator in use replaces diagnostics.
-/
theorem Parser.diagnostics_summarize_attempts
    {R : Type → Type} {rules : Rules R} (rulesReport : rules.Within .reporting)
    {α : Type} {parser : Parser R α} (reports : parser.Within .reporting)
    (source : Source) (fuel index : Nat) (result : ParseResult α)
    (ends : (parser.run rules fuel source index).answer = .ok result) :
    Summarizes (parser.run rules fuel source index).trace.attempts
      result.diagnostics := by
  have fits :=
    (RunInvariant.summaries source).holds_run rulesReport reports fuel index
      result ends
  rcases result with ⟨outcome, diagnostics⟩
  cases outcome with
  | success stop value => exact fits
  | failure => exact fits

/-- In `(a` the list is given up at the start, and its attempts at the end
still count. -/
theorem Sexpr.open_list_summarizes_attempts :
    let run := Sexpr.parser.run Sexpr.rules 4 (.ofString "(a") 0
    let diagnostics : Diagnostics :=
      ⟨some 2, .ofList ["(", "'", "#t", "#f", "[0-9]+", "[\\w-]+", ")",
        "\\s+", ";.*"]⟩
    run.answer.toOption.map (·.diagnostics) = some diagnostics ∧
      Summarizes run.trace.attempts diagnostics := by
  intro run diagnostics
  have ends : run.answer.toOption.map (·.diagnostics) = some diagnostics := by
    decide +kernel
  refine ⟨ends, ?_⟩
  rcases Option.map_eq_some_iff.mp ends with ⟨result, answered, same⟩
  rw [← same]
  exact Parser.diagnostics_summarize_attempts
    (Sexpr.rules_within Fragment.hasLibraryLeaves_reporting)
    (Sexpr.parser_within Fragment.hasLibraryLeaves_reporting)
    (.ofString "(a") 4 0 result (Run.answer_eq_ok_iff.mpr answered)

end OrderedChoice
