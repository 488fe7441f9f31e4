import OrderedChoice.Proofs.Parser.Sequencing

/-!
# Choice

Grammars are tidied up by factoring out what alternatives begin with, by
grouping alternatives, and by dropping those that were tried before.  The two
sides of such a rewriting run different parsers different numbers of times, and
merge what they report in different orders.  Merging does not mind order or
repetition, so the results stay the same.
-/

namespace OrderedChoice

namespace Answers

variable {α β : Type}

/-! ## Laws of choice -/

theorem orElse_assoc (first second third : Answers α) :
    (first.orElse second).orElse third =
      first.orElse (second.orElse third) := by
  funext index
  rcases answered : first index with abort | ⟨outcome, diagnostics⟩
  · rw [orElse_of_error answered,
      orElse_of_error (orElse_of_error answered second)]
  cases outcome with
  | success stop value =>
      rw [orElse_of_success answered,
        orElse_of_success (orElse_of_success answered second)]
  | failure =>
      have both := orElse_of_failure answered second
      rw [orElse_of_failure answered]
      rcases answeredNext : second index with abort | ⟨outcome, recent⟩ <;>
        rw [answeredNext] at both
      · rw [orElse_of_error both, orElse_of_error answeredNext]
        rfl
      cases outcome with
      | success stop value =>
          rw [orElse_of_success both, orElse_of_success answeredNext]
          rfl
      | failure =>
          rw [orElse_of_failure both, orElse_of_failure answeredNext,
            ParseResult.map_aggregate_aggregate]

/-- The same again reports the same again. -/
theorem orElse_self (answers : Answers α) :
    answers.orElse answers = answers := by
  funext index
  rcases answered : answers index with abort | ⟨outcome, diagnostics⟩
  · rw [orElse_of_error answered]
  cases outcome with
  | success stop value => rw [orElse_of_success answered]
  | failure =>
      rw [orElse_of_failure answered, answered]
      simp [Except.map, ParseResult.aggregate]

/-- What was tried first need not be tried again. -/
theorem orElse_orElse_self (first second : Answers α) :
    (first.orElse second).orElse first = first.orElse second := by
  rw [orElse_assoc]
  funext index
  rcases answered : first index with abort | ⟨outcome, diagnostics⟩
  · rw [orElse_of_error answered, orElse_of_error answered]
  cases outcome with
  | success stop value =>
      rw [orElse_of_success answered, orElse_of_success answered]
  | failure =>
      rw [orElse_of_failure answered, orElse_of_failure answered]
      rcases answeredNext : second index with abort | ⟨outcome, recent⟩
      · rw [orElse_of_error answeredNext]
      cases outcome with
      | success stop value => rw [orElse_of_success answeredNext]
      | failure =>
          rw [orElse_of_failure answeredNext, answered]
          simp [Except.map, ParseResult.aggregate, Diagnostics.merge_assoc,
            Diagnostics.merge_comm recent diagnostics]

theorem map_orElse (f : α → β) (first second : Answers α) :
    f <$> first.orElse second = (f <$> first).orElse (f <$> second) := by
  funext index
  have mapped := map_apply f first index
  rw [map_apply]
  rcases answered : first index with abort | ⟨outcome, diagnostics⟩ <;>
    rw [answered] at mapped
  · rw [orElse_of_error answered, orElse_of_error mapped]
    rfl
  cases outcome with
  | success stop value =>
      rw [orElse_of_success answered, orElse_of_success mapped]
      rfl
  | failure =>
      rw [orElse_of_failure answered, orElse_of_failure mapped, map_apply]
      cases second index with
      | error abort => rfl
      | ok result => rcases result with ⟨outcome | _, recent⟩ <;> rfl

/-- What both alternatives begin with can be answered once.  Where it succeeds
and the first alternative fails after it, its report is merged twice on the left
and once on the right. -/
theorem bind_orElse_bind (first : Answers α) (left right : α → Answers β) :
    (first >>= left).orElse (first >>= right) =
      first >>= fun value => (left value).orElse (right value) := by
  funext index
  rcases answered : first index with abort | ⟨outcome, diagnostics⟩
  · rw [orElse_of_error (bind_of_error answered left), bind_of_error answered]
  cases outcome with
  | failure =>
      rw [orElse_of_failure (bind_of_failure answered left),
        bind_of_failure answered, bind_of_failure answered]
      simp [Except.map, ParseResult.aggregate]
  | success stop value =>
      have factored := bind_of_success answered fun value =>
        (left value).orElse (right value)
      have leftOnly := bind_of_success answered left
      rw [factored]
      rcases answeredLeft : left value stop with abort | ⟨outcome, recent⟩ <;>
        rw [answeredLeft] at leftOnly
      · rw [orElse_of_error leftOnly, orElse_of_error answeredLeft]
        rfl
      cases outcome with
      | success last result =>
          rw [orElse_of_success leftOnly, orElse_of_success answeredLeft]
          rfl
      | failure =>
          rw [orElse_of_failure leftOnly, orElse_of_failure answeredLeft,
            bind_of_success answered right,
            ParseResult.map_aggregate_aggregate,
            ParseResult.map_aggregate_aggregate,
            Diagnostics.merge_comm recent, Diagnostics.merge_merge_self]

end Answers

namespace Attempt

variable {α : Type}

/-- At most one turn is a choice between a list of one and an empty list. -/
theorem answers_times_one (item : Attempt α) (turns : Nat) :
    (item.times 0 (some 1) (turns + 1)).answers =
      ((fun value => [value]) <$> item.answers).orElse (pure []) := by
  funext index
  have single := Answers.map_apply (fun value => [value]) item.answers index
  rcases answered : (item index).answer with abort | ⟨outcome, diagnostics⟩ <;>
    rw [answers, answered] at single
  · rw [Answers.orElse_of_error single]
    simp [answers, times, timesLoop, reaches, answered]
  cases outcome with
  | success stop value =>
      rw [Answers.orElse_of_success single]
      simp only [answers, times, timesLoop, reaches, answered]
      -- A second turn would start from the upper bound on the count.
      rw [timesLoop.eq_def]
      simp [reaches]
  | failure =>
      rw [Answers.orElse_of_failure single, Answers.pure_apply]
      simp [answers, times, timesLoop, reaches, lowered, answered, Except.map]

end Attempt

namespace Parser

variable {R : Type → Type} {α β γ : Type}

/-- Doing without is succeeding without consuming anything, if the run has any
fuel for the one turn. -/
theorem answers_optionalOr {rules : Rules R} {fuel : Nat} {source : Source}
    (fueled : 0 < fuel) (item : Parser R α) (value : α) :
    (optionalOr item value).answers rules fuel source =
      (item.answers rules fuel source).orElse (pure value) := by
  obtain ⟨turns, rfl⟩ : ∃ turns, fuel = turns + 1 :=
    Nat.exists_eq_add_one.mpr fueled
  have atMostOne : (Parser.times item 0 (some 1)).answers rules (turns + 1)
      source = ((fun value => [value]) <$> item.answers rules (turns + 1)
        source).orElse (pure []) := by
    rw [answers, run, attempt]
    exact Attempt.answers_times_one _ _
  simp [optionalOr, optional, atMostOne, Answers.map_orElse]

/--
Rewritings of ordered choice keep the result.  What alternatives begin with can
be factored out, whether what follows depends on it or not; alternatives can be
grouped either way; one that was tried before can be dropped; and doing without
by a default is a choice of the success that consumes nothing.
-/
theorem choices_interchangeable (p q r : Parser R α) (s : Parser R β)
    (t u : Parser R γ) (f g : α → Parser R β) (value : α) :
    Interchangeable (.orElse (.bind p f) (.bind p g))
      (.bind p fun a => .orElse (f a) (g a)) ∧
    Interchangeable (.orElse (s.andThen t) (s.andThen u))
      (s.andThen (.orElse t u)) ∧
    Interchangeable (.orElse (.orElse p q) r) (.orElse p (.orElse q r)) ∧
    Interchangeable (.orElse p p) p ∧
    Interchangeable (.orElse (.orElse p q) p) (.orElse p q) ∧
    Interchangeable (optionalOr p value) (.orElse p (success value)) := by
  refine ⟨?_, ?_, ?_, ?_, ?_, ?_⟩
  · refine interchangeable_of_answers fun rules fuel source => ?_
    simp [Answers.bind_orElse_bind]
  · refine interchangeable_of_answers fun rules fuel source => ?_
    simp [Answers.bind_orElse_bind]
  · refine interchangeable_of_answers fun rules fuel source => ?_
    simp [Answers.orElse_assoc]
  · refine interchangeable_of_answers fun rules fuel source => ?_
    simp [Answers.orElse_self]
  · refine interchangeable_of_answers fun rules fuel source => ?_
    simp [Answers.orElse_orElse_self]
  · intro rules fuel source index fueled
    have same : (optionalOr p value).answers rules fuel source =
        (Parser.orElse p (success value)).answers rules fuel source := by
      rw [answers_optionalOr fueled, answers_orElse, answers_success]
    exact congrFun same index

end Parser

end OrderedChoice
