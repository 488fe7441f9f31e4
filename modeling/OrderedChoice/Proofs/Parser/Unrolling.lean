import OrderedChoice.Proofs.Parser.Answers
import OrderedChoice.Proofs.Parser.Endings

/-!
# Unrolling repetition

The loop of a repetition carries along what it has read and what was reported on
the way.  Unrolled, a repetition is one turn and then a repetition of the turns
left, with both bounds lowered by one, and nothing is carried along: each turn
puts its value in front of those of the turns after it.

The main statement, `Attempt.times_same`, is that the loop runs like this
recursion.
-/

namespace OrderedChoice

namespace Run

variable {α : Type}

/-- Runs that answer the same after the same events. -/
structure Same (first second : Run α) : Prop where
  answer : first.answer = second.answer
  trace : first.trace.toList = second.trace.toList

theorem Same.trans {first second third : Run α} (left : first.Same second)
    (right : second.Same third) : first.Same third :=
  ⟨left.answer.trans right.answer, left.trace.trans right.trace⟩

theorem Same.endsWith_iff {first second : Run α} (same : first.Same second)
    {result : ParseResult α} {events : List Event} :
    first.EndsWith result events ↔ second.EndsWith result events := by
  constructor
  · rintro ⟨answer, trace⟩
    exact ⟨same.answer ▸ answer, same.trace ▸ trace⟩
  · rintro ⟨answer, trace⟩
    exact ⟨same.answer ▸ answer, same.trace ▸ trace⟩

/-- A run of the turns left, as the end of one that has read values before, in
reverse, and has gathered diagnostics and events. -/
def resumed (values : List α) (context : Diagnostics) (trace : Trace)
    (run : Run (List α)) : Run (List α) :=
  ⟨run.answer.map fun result =>
    (result.map (values.reverse ++ ·)).aggregate context, trace ++ run.trace⟩

end Run

namespace Attempt

variable {α : Type}

/-- One turn of a repetition that needs so many, and `rest` after it. -/
def turn (item : Attempt α) (min : Nat) (rest : Attempt (List α)) :
    Attempt (List α) := fun index =>
  (item index).andThen fun result =>
    match result.outcome with
    | .success next value =>
      (rest next).mapResult fun later =>
        (later.map (value :: ·)).aggregate result.diagnostics
    | .failure =>
      .done ⟨if min = 0 then .success index [] else .failure,
        result.diagnostics⟩

/-- A repetition between two bounds as a recursion on the turns it may take. -/
def unrolled (item : Attempt α) : Nat → Nat → Option Nat → Attempt (List α)
  | 0, _, max, index =>
    if max = some 0 then .done (.success index []) else .stop .exhausted
  | turns + 1, min, max, index =>
    if max = some 0 then .done (.success index [])
    else item.turn min (item.unrolled turns (min - 1) (max.map (· - 1))) index

theorem unrolled_full (item : Attempt α) (turns min index : Nat) :
    item.unrolled turns min (some 0) index = .done (.success index []) := by
  cases turns <;> rw [unrolled, if_pos rfl]

theorem unrolled_succ (item : Attempt α) (turns min : Nat) {max : Option Nat}
    (room : max ≠ some 0) :
    item.unrolled (turns + 1) min max =
      item.turn min (item.unrolled turns (min - 1) (max.map (· - 1))) := by
  funext index
  rw [unrolled, if_neg room]

theorem reaches_iff {max : Option Nat} {count : Nat} :
    reaches max count = true ↔ max.map (· - count) = some 0 := by
  cases max <;> simp [reaches, Nat.sub_eq_zero_iff_le]

/-- At its upper bound the loop is done, and so is the recursion. -/
theorem timesLoop_same_of_reaches (item : Attempt α) (min : Nat)
    {max : Option Nat} (turns : Nat) (values : List α) {count : Nat}
    (context : Diagnostics) (trace : Trace) (index : Nat)
    (reached : reaches max count = true) :
    (timesLoop item min max turns values count context trace index).Same
      ((item.unrolled turns (min - count) (max.map (· - count))
        index).resumed values context trace) := by
  have done : timesLoop item min max turns values count context trace index =
      ⟨.ok ((ParseResult.success index values.reverse).aggregate context),
        trace⟩ := by
    cases turns <;> rw [timesLoop, if_pos reached]
  rw [done, reaches_iff.mp reached, unrolled_full]
  constructor <;>
    simp [Run.resumed, Run.done, Except.map, ParseResult.map,
      ParseResult.success, Outcome.map]

/-- The loop runs like the recursion from where it is, with the bounds lowered
by the count it has come to. -/
theorem timesLoop_same (item : Attempt α) (min : Nat) (max : Option Nat)
    (turns : Nat) (values : List α) (count : Nat) (context : Diagnostics)
    (trace : Trace) (index : Nat) :
    (timesLoop item min max turns values count context trace index).Same
      ((item.unrolled turns (min - count) (max.map (· - count))
        index).resumed values context trace) := by
  induction turns generalizing values count context trace index with
  | zero =>
      by_cases reached : reaches max count = true
      · exact item.timesLoop_same_of_reaches min _ values context trace index
          reached
      rw [timesLoop, if_neg reached, unrolled,
        if_neg (mt reaches_iff.mpr reached)]
      constructor <;> simp [Run.resumed, Run.stop, Except.map]
  | succ turns inductiveStep =>
      by_cases reached : reaches max count = true
      · exact item.timesLoop_same_of_reaches min _ values context trace index
          reached
      rw [timesLoop, if_neg reached,
        unrolled_succ _ _ _ (mt reaches_iff.mpr reached), turn, Run.andThen]
      dsimp only
      rcases (item index).answer with abort | ⟨outcome, recent⟩
      · exact ⟨rfl, rfl⟩
      cases outcome with
      | failure =>
          dsimp only
          by_cases enough : min ≤ count
          · rw [if_pos enough, if_pos (Nat.sub_eq_zero_iff_le.mpr enough)]
            constructor <;>
              simp [Run.resumed, Run.done, Except.map, ParseResult.map,
                ParseResult.aggregate, ParseResult.success, Outcome.map]
          · rw [if_neg enough, if_neg (mt Nat.sub_eq_zero_iff_le.mp enough)]
            constructor <;>
              simp [Run.resumed, Run.done, Except.map, ParseResult.map,
                ParseResult.aggregate, ParseResult.failed, Outcome.map]
      | success next value =>
          have left : (max.map (· - count)).map (· - 1) =
              max.map (· - (count + 1)) := by
            cases max <;> simp [Nat.sub_sub]
          dsimp only
          rw [left, Nat.sub_sub]
          refine (inductiveStep (value :: values) (count + 1)
            (recent.merge context) (trace ++ (item index).trace) next).trans ?_
          constructor
          · dsimp only [Run.resumed, Run.mapResult]
            rcases (item.unrolled turns (min - (count + 1))
              (max.map (· - (count + 1))) next).answer with
              abort | ⟨outcome, later⟩
            · rfl
            · cases outcome <;>
                simp [Except.map, ParseResult.map, ParseResult.aggregate,
                  Outcome.map, Diagnostics.merge_assoc]
          · simp [Run.resumed, Run.mapResult]

/-- A repetition runs like its recursion. -/
theorem times_same (item : Attempt α) (min : Nat) (max : Option Nat)
    (turns index : Nat) :
    (item.times min max turns index).Same
      (item.unrolled turns (lowered min max) max index) := by
  have bounds : max.map (· - 0) = max := by cases max <;> rfl
  have loop := item.timesLoop_same (lowered min max) max turns [] 0 .none ∅
    index
  rw [Nat.sub_zero, bounds] at loop
  refine loop.trans ⟨?_, by simp [Run.resumed]⟩
  dsimp only [Run.resumed]
  rcases (item.unrolled turns (lowered min max) max index).answer with
    abort | ⟨outcome, diagnostics⟩
  · rfl
  · cases outcome <;>
      simp [Except.map, ParseResult.map, ParseResult.aggregate, Outcome.map]

end Attempt

end OrderedChoice
