import OrderedChoice.Parser.Combinators
import OrderedChoice.Proofs.Parser.Gives

/-!
# How runs end

A run that comes to a result ends with it, after the events on the way.  The
events tell which leaves were tried and which steps were taken, in order, and so
what a combinator ran and how often.  With enough fuel there is one such ending
at most.

The laws here say for the combinators that sequence, choose and change values
exactly how their runs end, from how the runs of their parts do.
-/

namespace OrderedChoice

/-! ## Endings of runs -/

namespace Run

variable {α β : Type}

/-- A run ends with a result, after these events. -/
structure EndsWith (run : Run α) (result : ParseResult α)
    (events : List Event) : Prop where
  answer : run.answer = .ok result
  trace : run.trace.toList = events

theorem endsWith_done_iff {result ending : ParseResult α}
    {events : List Event} :
    (Run.done result).EndsWith ending events ↔
      ending = result ∧ events = [] := by
  constructor
  · rintro ⟨answer, trace⟩
    exact ⟨(Except.ok.inj answer).symm, trace.symm⟩
  · rintro ⟨rfl, rfl⟩
    exact ⟨rfl, rfl⟩

theorem endsWith_mapResult_iff {run : Run α}
    {change : ParseResult α → ParseResult β} {ending : ParseResult β}
    {events : List Event} :
    (run.mapResult change).EndsWith ending events ↔
      ∃ result, run.EndsWith result events ∧ ending = change result := by
  constructor
  · rintro ⟨answer, trace⟩
    rcases mapResult_answer_eq_ok answer with ⟨result, answered, rfl⟩
    exact ⟨result, ⟨answered, trace⟩, rfl⟩
  · rintro ⟨result, ⟨answered, trace⟩, rfl⟩
    exact ⟨by rw [mapResult, answered]; rfl, trace⟩

theorem endsWith_andThen_iff {first : Run α} {next : ParseResult α → Run β}
    {ending : ParseResult β} {events : List Event} :
    (first.andThen next).EndsWith ending events ↔
      ∃ result before after, first.EndsWith result before ∧
        (next result).EndsWith ending after ∧ events = before ++ after := by
  constructor
  · rintro ⟨answer, trace⟩
    rcases andThen_answer_eq_ok answer with
      ⟨result, answered, endsNext, split⟩
    refine ⟨result, _, _, ⟨answered, rfl⟩, ⟨endsNext, rfl⟩, ?_⟩
    rw [← trace, split, Trace.toList_append]
  · rintro ⟨result, before, after, ⟨answered, rfl⟩, ⟨endsNext, rfl⟩, rfl⟩
    rcases first with ⟨answer, trace⟩
    cases answered
    exact ⟨endsNext, Trace.toList_append _ _⟩

end Run

/-! ## Endings of attempts -/

namespace Attempt

variable {α β : Type} {index : Nat} {events : List Event}

theorem endsWith_map_iff {f : α → β} {attempt : Attempt α}
    {ending : ParseResult β} :
    (attempt.map f index).EndsWith ending events ↔
      ∃ result, (attempt index).EndsWith result events ∧
        ending = result.map f :=
  Run.endsWith_mapResult_iff

/-- A pair ends where its first part fails, or with its second part after the
first. -/
theorem endsWith_both_iff {first : Attempt α} {second : Attempt β}
    {ending : ParseResult (α × β)} :
    (first.both second index).EndsWith ending events ↔
      (∃ diagnostics,
        (first index).EndsWith ⟨.failure, diagnostics⟩ events ∧
          ending = ⟨.failure, diagnostics⟩) ∨
      ∃ stop value prior before result after,
        (first index).EndsWith ⟨.success stop value, prior⟩ before ∧
          (second stop).EndsWith result after ∧
          ending = (result.aggregate prior).map (value, ·) ∧
          events = before ++ after := by
  rw [both, Run.endsWith_andThen_iff]
  constructor
  · rintro ⟨⟨outcome, prior⟩, before, after, endsFirst, endsRest, rfl⟩
    cases outcome with
    | failure =>
        rcases Run.endsWith_done_iff.mp endsRest with ⟨rfl, rfl⟩
        exact .inl ⟨prior, by rwa [List.append_nil], rfl⟩
    | success stop value =>
        rcases Run.endsWith_mapResult_iff.mp endsRest with
          ⟨⟨outcome, recent⟩, endsSecond, rfl⟩
        refine .inr ⟨stop, value, prior, before, _, after, endsFirst,
          endsSecond, ?_, rfl⟩
        cases outcome with
        | failure => rfl
        | success last found =>
            -- A fresh success has no diagnostics of its own to add.
            simp [ParseResult.aggregate, ParseResult.success, ParseResult.map,
              Outcome.map]
  · rintro (⟨diagnostics, endsFirst, rfl⟩ |
      ⟨stop, value, prior, before, ⟨outcome, recent⟩, after, endsFirst,
        endsSecond, rfl, rfl⟩)
    · exact ⟨_, events, [], endsFirst, Run.endsWith_done_iff.mpr ⟨rfl, rfl⟩,
        (List.append_nil _).symm⟩
    · refine ⟨_, before, after, endsFirst,
        Run.endsWith_mapResult_iff.mpr ⟨_, endsSecond, ?_⟩, rfl⟩
      cases outcome with
      | failure => rfl
      | success last found =>
          simp [ParseResult.aggregate, ParseResult.success, ParseResult.map,
            Outcome.map]

/-- A choice ends with its first part where that succeeds, and else with its
second. -/
theorem endsWith_orElse_iff {first second : Attempt α}
    {ending : ParseResult α} :
    (first.orElse second index).EndsWith ending events ↔
      (ending.isSuccess = true ∧ (first index).EndsWith ending events) ∨
      ∃ prior before result after,
        (first index).EndsWith ⟨.failure, prior⟩ before ∧
          (second index).EndsWith result after ∧
          ending = result.aggregate prior ∧ events = before ++ after := by
  rw [orElse, Run.endsWith_andThen_iff]
  constructor
  · rintro ⟨⟨outcome, prior⟩, before, after, endsFirst, endsRest, rfl⟩
    cases outcome with
    | success stop value =>
        rcases Run.endsWith_done_iff.mp endsRest with ⟨rfl, rfl⟩
        exact .inl ⟨rfl, by rwa [List.append_nil]⟩
    | failure =>
        rcases Run.endsWith_mapResult_iff.mp endsRest with
          ⟨result, endsSecond, rfl⟩
        exact .inr ⟨prior, before, result, after, endsFirst, endsSecond, rfl,
          rfl⟩
  · rintro (⟨succeeded, endsFirst⟩ |
      ⟨prior, before, result, after, endsFirst, endsSecond, rfl, rfl⟩)
    · refine ⟨ending, events, [], endsFirst, ?_, (List.append_nil _).symm⟩
      rw [if_pos succeeded]
      exact Run.endsWith_done_iff.mpr ⟨rfl, rfl⟩
    · exact ⟨_, before, after, endsFirst,
        Run.endsWith_mapResult_iff.mpr ⟨_, endsSecond, rfl⟩, rfl⟩

end Attempt

/-! ## Endings of parsers -/

namespace Parser

variable {R : Type → Type} {α β : Type} {rules : Rules R} {source : Source}
  {index : Nat} {events : List Event}

/-- A run of a parser from an offset ends with a result, after these events,
with enough fuel. -/
def Ends (rules : Rules R) (source : Source) (parser : Parser R α)
    (index : Nat) (result : ParseResult α) (events : List Event) : Prop :=
  ∃ fuel, (parser.run rules fuel source index).EndsWith result events

/-- Every run with enough fuel ends alike. -/
theorem Ends.eventually {parser : Parser R α} {result : ParseResult α}
    (ends : parser.Ends rules source index result events) :
    ∃ least, ∀ fuel, least ≤ fuel →
      (parser.run rules fuel source index).EndsWith result events := by
  rcases ends with ⟨least, answer, trace⟩
  refine ⟨least, fun fuel enough => ?_⟩
  have settled := parser.settles_run rules source enough index
  rw [settled.eq_of_ok answer]
  exact ⟨answer, trace⟩

theorem Ends.gives {parser : Parser R α} {result : ParseResult α}
    (ends : parser.Ends rules source index result events) :
    parser.Gives rules source index result :=
  ends.imp fun _ ends => ends.answer

/-- Fuel that is enough for two runs. -/
theorem Ends.together {first : Parser R α} {second : Parser R β}
    {next : Nat} {left : ParseResult α} {right : ParseResult β}
    {before after : List Event}
    (endsFirst : first.Ends rules source index left before)
    (endsSecond : second.Ends rules source next right after) :
    ∃ fuel, (first.run rules fuel source index).EndsWith left before ∧
      (second.run rules fuel source next).EndsWith right after := by
  rcases endsFirst.eventually with ⟨leastFirst, first⟩
  rcases endsSecond.eventually with ⟨leastSecond, second⟩
  exact ⟨max leastFirst leastSecond, first _ (Nat.le_max_left _ _),
    second _ (Nat.le_max_right _ _)⟩

theorem ends_success_iff {value : α} {result : ParseResult α} :
    (success value : Parser R α).Ends rules source index result events ↔
      result = .success index value ∧ events = [.attempt .none] := by
  constructor
  · rintro ⟨fuel, answer, trace⟩
    exact ⟨(Except.ok.inj answer).symm, trace.symm⟩
  · rintro ⟨rfl, rfl⟩
    exact ⟨0, rfl, rfl⟩

theorem ends_map_iff {f : α → β} {parser : Parser R α}
    {ending : ParseResult β} :
    (Parser.map f parser).Ends rules source index ending events ↔
      ∃ result, parser.Ends rules source index result events ∧
        ending = result.map f := by
  constructor
  · rintro ⟨fuel, ends⟩
    rw [run, attempt] at ends
    rcases Attempt.endsWith_map_iff.mp ends with ⟨result, endsInner, mapped⟩
    exact ⟨result, ⟨fuel, endsInner⟩, mapped⟩
  · rintro ⟨result, ⟨fuel, endsInner⟩, mapped⟩
    refine ⟨fuel, ?_⟩
    rw [run, attempt]
    exact Attempt.endsWith_map_iff.mpr ⟨result, endsInner, mapped⟩

theorem ends_both_iff {first : Parser R α} {second : Parser R β}
    {ending : ParseResult (α × β)} :
    (Parser.both first second).Ends rules source index ending events ↔
      (∃ diagnostics,
        first.Ends rules source index ⟨.failure, diagnostics⟩ events ∧
          ending = ⟨.failure, diagnostics⟩) ∨
      ∃ stop value prior before result after,
        first.Ends rules source index ⟨.success stop value, prior⟩ before ∧
          second.Ends rules source stop result after ∧
          ending = (result.aggregate prior).map (value, ·) ∧
          events = before ++ after := by
  constructor
  · rintro ⟨fuel, ends⟩
    rw [run, attempt] at ends
    rcases Attempt.endsWith_both_iff.mp ends with
      ⟨diagnostics, endsFirst, failed⟩ |
      ⟨stop, value, prior, before, result, after, endsFirst, endsSecond,
        joined, split⟩
    · exact .inl ⟨diagnostics, ⟨fuel, endsFirst⟩, failed⟩
    · exact .inr ⟨stop, value, prior, before, result, after,
        ⟨fuel, endsFirst⟩, ⟨fuel, endsSecond⟩, joined, split⟩
  · rintro (⟨diagnostics, ⟨fuel, endsFirst⟩, failed⟩ |
      ⟨stop, value, prior, before, result, after, endsFirst, endsSecond,
        joined, split⟩)
    · refine ⟨fuel, ?_⟩
      rw [run, attempt]
      exact Attempt.endsWith_both_iff.mpr
        (.inl ⟨diagnostics, endsFirst, failed⟩)
    · rcases endsFirst.together endsSecond with ⟨fuel, first, second⟩
      refine ⟨fuel, ?_⟩
      rw [run, attempt]
      exact Attempt.endsWith_both_iff.mpr (.inr ⟨stop, value, prior, before,
        result, after, first, second, joined, split⟩)

theorem ends_orElse_iff {first second : Parser R α} {ending : ParseResult α} :
    (Parser.orElse first second).Ends rules source index ending events ↔
      (ending.isSuccess = true ∧
        first.Ends rules source index ending events) ∨
      ∃ prior before result after,
        first.Ends rules source index ⟨.failure, prior⟩ before ∧
          second.Ends rules source index result after ∧
          ending = result.aggregate prior ∧ events = before ++ after := by
  constructor
  · rintro ⟨fuel, ends⟩
    rw [run, attempt] at ends
    rcases Attempt.endsWith_orElse_iff.mp ends with
      ⟨succeeded, endsFirst⟩ |
      ⟨prior, before, result, after, endsFirst, endsSecond, joined, split⟩
    · exact .inl ⟨succeeded, fuel, endsFirst⟩
    · exact .inr ⟨prior, before, result, after, ⟨fuel, endsFirst⟩,
        ⟨fuel, endsSecond⟩, joined, split⟩
  · rintro (⟨succeeded, fuel, endsFirst⟩ |
      ⟨prior, before, result, after, endsFirst, endsSecond, joined, split⟩)
    · refine ⟨fuel, ?_⟩
      rw [run, attempt]
      exact Attempt.endsWith_orElse_iff.mpr (.inl ⟨succeeded, endsFirst⟩)
    · rcases endsFirst.together endsSecond with ⟨fuel, first, second⟩
      refine ⟨fuel, ?_⟩
      rw [run, attempt]
      exact Attempt.endsWith_orElse_iff.mpr (.inr ⟨prior, before, result,
        after, first, second, joined, split⟩)

end Parser

end OrderedChoice
