import OrderedChoice.Proofs.Parser.Answers
import OrderedChoice.Proofs.Parser.OffsetSafety
import OrderedChoice.Proofs.Text.Positions

/-!
# Marked values

To mark a value is to run a body of three steps: the position, the parser, and
the position again.  The steps at both ends always succeed and report nothing, so
of a marked parser nothing shows but the positions around its value.

A parser of the library goes on to boundaries only, and positions order those like
their offsets.  So what it marks never stops before it starts, and spans nothing
just where nothing was consumed.
-/

namespace OrderedChoice

/-- A result whose value stands between the positions of where its match starts
and stops. -/
def ParseResult.marked {α : Type} (source : Source) (start : Nat)
    (result : ParseResult α) : ParseResult (Marked α) where
  outcome :=
    match result.outcome with
    | .success stop value =>
      .success stop ⟨.locate source start, value, .locate source stop⟩
    | .failure => .failure
  diagnostics := result.diagnostics

theorem ParseResult.marked_eq_success {α : Type} {source : Source}
    {start stop : Nat} {result : ParseResult α} {spanned : Marked α}
    {diagnostics : Diagnostics}
    (succeeds : result.marked source start =
      ⟨.success stop spanned, diagnostics⟩) :
    result.outcome = .success stop spanned.value ∧
      spanned.start = .locate source start ∧
      spanned.stop = .locate source stop := by
  rcases result with ⟨outcome, reported⟩
  cases outcome with
  | success last value =>
      cases succeeds
      exact ⟨rfl, rfl, rfl⟩
  | failure => cases succeeds

namespace Parser

variable {R : Type → Type} {α : Type} {rules : Rules R} {fuel : Nat}
  {source : Source}

theorem answers_lineInfo (index : Nat) :
    (lineInfo : Parser R Position).answers rules fuel source index =
      .ok (.success index (.locate source index)) := rfl

/-- The steps around a parser change neither where it stops nor what it
reports. -/
theorem answers_mark (parser : Parser R α) (index : Nat) :
    parser.mark.answers rules fuel source index =
      (parser.answers rules fuel source index).map
        (·.marked source index) := by
  rw [mark, answers_generate_require,
    Answers.bind_of_success (answers_lineInfo index),
    ParseResult.map_aggregate_none, answers_generate_require]
  cases answered : parser.answers rules fuel source index with
  | error abort => rw [Answers.bind_of_error answered]; rfl
  | ok result =>
      rcases result with ⟨outcome, diagnostics⟩
      cases outcome with
      | failure => rw [Answers.bind_of_failure answered]; rfl
      | success stop value =>
          rw [Answers.bind_of_success answered, answers_generate_require,
            Answers.bind_of_success (answers_lineInfo stop),
            ParseResult.map_aggregate_none, answers_generate_done,
            Answers.pure_apply, Except.map, ParseResult.aggregate_success]
          rfl

/-- What a parser of the library consumes from a boundary stops at a position
not before its start, and at the same one just if it is nothing. -/
theorem locate_start_le_stop (rulesLibrary : rules.Within .library)
    {parser : Parser R α} (library : parser.Within .library) {index stop : Nat}
    {result : ParseResult α} {value : α}
    (boundary : source.isBoundary index = true)
    (ends : (parser.run rules fuel source index).answer = .ok result)
    (succeeds : result.outcome = .success stop value) :
    Position.locate source index ≤ .locate source stop ∧
      (Position.locate source index = .locate source stop ↔ stop = index) := by
  have stays := stays_run rulesLibrary library source fuel index result ends
  have leads := Source.leads_of_boundary boundary (stays.1 stop value succeeds)
  have located := Position.at?_of_isBoundary boundary
  have locatedStop := Position.at?_of_isBoundary leads.2.2
  refine ⟨Position.locate_le_locate source leads.1, ?_⟩
  rw [← Position.eq_iff_of_at? located locatedStop, eq_comm]

/--
Marking changes nothing but the value.  Whatever a parser answers, marked it
answers the same, with the same reports and from the same fuel, except that a
value comes with the located positions of where the run started and where it
succeeded.  For a parser of the library, run from a boundary, the first of them
is at most the second, and they are equal just if nothing was consumed.
-/
theorem mark_transparent (rules : Rules R) (fuel : Nat) (source : Source)
    (index : Nat) (parser : Parser R α) :
    (parser.mark.run rules fuel source index).answer =
      (parser.run rules fuel source index).answer.map
        (·.marked source index) ∧
    (rules.Within .library → parser.Within .library →
      source.isBoundary index = true →
      ∀ stop spanned diagnostics,
        (parser.mark.run rules fuel source index).answer =
          .ok ⟨.success stop spanned, diagnostics⟩ →
        spanned.start ≤ spanned.stop ∧
          (spanned.start = spanned.stop ↔ stop = index)) := by
  have transparent : (parser.mark.run rules fuel source index).answer =
      (parser.run rules fuel source index).answer.map (·.marked source index) :=
    answers_mark parser index
  refine ⟨transparent, ?_⟩
  intro rulesLibrary library boundary stop spanned diagnostics succeeds
  rw [transparent] at succeeds
  cases ends : (parser.run rules fuel source index).answer with
  | error abort =>
      rw [ends] at succeeds
      cases succeeds
  | ok result =>
      rw [ends] at succeeds
      rcases ParseResult.marked_eq_success (Except.ok.inj succeeds) with
        ⟨found, starts, stops⟩
      rw [starts, stops]
      exact locate_start_le_stop rulesLibrary library boundary ends found

end Parser

/-- A string that holds a newline is marked from the first line into the
second. -/
theorem Json.string_over_lines_marked :
    let source := Source.ofString "\"é\n\" "
    let run := Json.parser.mark.run Json.rules 20 source
    ∃ spanned diagnostics,
      (run 0).answer = .ok ⟨.success 6 spanned, diagnostics⟩ ∧
      spanned.start ≤ spanned.stop ∧
      (spanned.start = spanned.stop ↔ 6 = 0) := by
  intro source run
  have boundary : source.isBoundary 0 = true := by decide +kernel
  have stops : (run 0).answer.toOption.bind (·.index?) = some 6 := by
    decide +kernel
  rcases Option.bind_eq_some_iff.mp stops with
    ⟨⟨outcome, diagnostics⟩, answered, index⟩
  have ends := Run.answer_eq_ok_iff.mpr answered
  cases outcome with
  | failure => cases index
  | success stop spanned =>
      cases index
      exact ⟨spanned, diagnostics, ends,
        (Parser.mark_transparent Json.rules 20 source 0 Json.parser).2
          Json.rules_within_library Json.parser_within_library boundary
          6 spanned diagnostics ends⟩

end OrderedChoice
