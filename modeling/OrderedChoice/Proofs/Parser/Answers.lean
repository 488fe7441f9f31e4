import OrderedChoice.Parser.Combinators
import OrderedChoice.Proofs.Parser.Driver

/-!
# Answers

Of a run only the answer counts here: a result, or the reason why there is
none.  What a parser answers from each offset is then a computation in a monad
that moves on in the source and gathers diagnostics.  That merging is
associative, with a neutral element, makes the monad lawful; that it is also
commutative and idempotent gives the laws of choice.

Each combinator of parsers is an operation of this monad.  So laws about
parsers are equations between answers, and follow from the laws here.
-/

namespace OrderedChoice

/-- What is answered from each offset. -/
def Answers (α : Type) : Type := Nat → Except Abort (ParseResult α)

namespace ParseResult

variable {α β γ : Type}

/-- Go on from a success with the answers that its value selects, and fail like
a failure. -/
def goOn (result : ParseResult α) (next : α → Answers β) :
    Except Abort (ParseResult β) :=
  match result.outcome with
  | .success stop value =>
    (next value stop).map (·.aggregate result.diagnostics)
  | .failure => .ok (.failed result.diagnostics)

theorem goOn_aggregate (result : ParseResult α) (prior : Diagnostics)
    (next : α → Answers β) :
    (result.aggregate prior).goOn next =
      (result.goOn next).map (·.aggregate prior) := by
  rcases result with ⟨outcome, recent⟩
  cases outcome with
  | success stop value => exact (map_aggregate_aggregate _ recent prior).symm
  | failure => rfl

end ParseResult

namespace Answers

variable {α β γ : Type}

/-! ## Sequence -/

instance : Monad Answers where
  pure value := fun index => .ok (.success index value)
  bind first next := fun index => (first index).bind (·.goOn next)

theorem pure_apply (value : α) (index : Nat) :
    (pure value : Answers α) index = .ok (.success index value) := rfl

theorem bind_apply (first : Answers α) (next : α → Answers β) (index : Nat) :
    (first >>= next) index = (first index).bind (·.goOn next) := rfl

theorem bind_of_success {first : Answers α} {index stop : Nat} {value : α}
    {diagnostics : Diagnostics}
    (answered : first index = .ok ⟨.success stop value, diagnostics⟩)
    (next : α → Answers β) :
    (first >>= next) index =
      (next value stop).map (·.aggregate diagnostics) := by
  rw [bind_apply, answered]
  rfl

theorem bind_of_failure {first : Answers α} {index : Nat}
    {diagnostics : Diagnostics}
    (answered : first index = .ok ⟨.failure, diagnostics⟩)
    (next : α → Answers β) :
    (first >>= next) index = .ok ⟨.failure, diagnostics⟩ := by
  rw [bind_apply, answered]
  rfl

theorem bind_of_error {first : Answers α} {index : Nat} {abort : Abort}
    (answered : first index = .error abort) (next : α → Answers β) :
    (first >>= next) index = .error abort := by
  rw [bind_apply, answered]
  rfl

theorem bind_pure_id (answers : Answers α) : answers >>= pure = answers := by
  funext index
  rcases answered : answers index with abort | ⟨outcome, diagnostics⟩
  · rw [bind_of_error answered]
  · cases outcome with
    | success stop value =>
        rw [bind_of_success answered, pure_apply, Except.map,
          ParseResult.aggregate_success]
    | failure => rw [bind_of_failure answered]

theorem pure_bind_apply (value : α) (next : α → Answers β) :
    pure value >>= next = next value := by
  funext index
  rw [bind_of_success (pure_apply value index),
    ParseResult.map_aggregate_none]

theorem bind_bind (first : Answers α) (second : α → Answers β)
    (third : β → Answers γ) :
    first >>= second >>= third =
      first >>= fun value => second value >>= third := by
  funext index
  rcases answered : first index with abort | ⟨outcome, diagnostics⟩
  · rw [bind_of_error answered, bind_of_error (bind_of_error answered second)]
  · cases outcome with
    | success stop value =>
        rw [bind_of_success answered, bind_apply, bind_of_success answered,
          bind_apply]
        cases second value stop with
        | error abort => rfl
        | ok result => exact result.goOn_aggregate diagnostics third
    | failure =>
        rw [bind_of_failure answered,
          bind_of_failure (bind_of_failure answered second)]

instance : LawfulMonad Answers :=
  LawfulMonad.mk' Answers bind_pure_id pure_bind_apply bind_bind

theorem map_apply (f : α → β) (answers : Answers α) (index : Nat) :
    (f <$> answers) index = (answers index).map (·.map f) := by
  rw [map_eq_pure_bind]
  rcases answered : answers index with abort | ⟨outcome, diagnostics⟩
  · rw [bind_of_error answered]
    rfl
  · cases outcome with
    | success stop value =>
        rw [bind_of_success answered, pure_apply, Except.map,
          ParseResult.aggregate_success]
        rfl
    | failure => rw [bind_of_failure answered]; rfl

/-! ## Choice -/

/-- Answer like the first, and where it fails like the second, adding what the
first reported. -/
def orElse (first second : Answers α) : Answers α := fun index =>
  (first index).bind fun result =>
    if result.isSuccess then .ok result
    else (second index).map (·.aggregate result.diagnostics)

theorem orElse_of_success {first : Answers α} {index stop : Nat} {value : α}
    {diagnostics : Diagnostics}
    (answered : first index = .ok ⟨.success stop value, diagnostics⟩)
    (second : Answers α) :
    first.orElse second index = .ok ⟨.success stop value, diagnostics⟩ := by
  rw [orElse, answered]
  rfl

theorem orElse_of_failure {first : Answers α} {index : Nat}
    {diagnostics : Diagnostics}
    (answered : first index = .ok ⟨.failure, diagnostics⟩)
    (second : Answers α) :
    first.orElse second index =
      (second index).map (·.aggregate diagnostics) := by
  rw [orElse, answered]
  rfl

theorem orElse_of_error {first : Answers α} {index : Nat} {abort : Abort}
    (answered : first index = .error abort) (second : Answers α) :
    first.orElse second index = .error abort := by
  rw [orElse, answered]
  rfl

end Answers

/-! ## Answers of attempts -/

namespace Attempt

variable {α β : Type}

/-- What an attempt answers. -/
def answers (attempt : Attempt α) : Answers α := fun index =>
  (attempt index).answer

theorem answers_bind (first : Attempt α) (next : α → Attempt β) :
    (first.bind next).answers =
      first.answers >>= fun value => (next value).answers := by
  funext index
  cases answered : (first index).answer with
  | error abort =>
      rw [Answers.bind_of_error answered, answers, bind, Run.andThen, answered]
  | ok result =>
      rcases result with ⟨outcome, diagnostics⟩
      rw [answers, bind, Run.andThen, answered]
      cases outcome with
      | success stop value =>
          rw [Answers.bind_of_success answered]
          rfl
      | failure =>
          rw [Answers.bind_of_failure answered]
          rfl

theorem answers_map (f : α → β) (attempt : Attempt α) :
    (attempt.map f).answers = f <$> attempt.answers := by
  funext index
  rw [Answers.map_apply]
  rfl

/-- A pair comes from a fresh success, to which what was gathered is added. -/
theorem answers_both (first : Attempt α) (second : Attempt β) :
    (first.both second).answers =
      first.answers >>= fun left =>
        second.answers >>= fun right => pure (left, right) := by
  funext index
  cases answered : (first index).answer with
  | error abort =>
      rw [Answers.bind_of_error answered, answers, both, Run.andThen, answered]
  | ok result =>
      rcases result with ⟨outcome, diagnostics⟩
      rw [answers, both, Run.andThen, answered]
      cases outcome with
      | failure =>
          rw [Answers.bind_of_failure answered]
          rfl
      | success stop left =>
          rw [Answers.bind_of_success answered]
          dsimp only
          rw [Run.mapResult]
          cases secondAnswered : (second stop).answer with
          | error abort =>
              rw [Answers.bind_of_error secondAnswered]
              rfl
          | ok result =>
              rcases result with ⟨outcome, recent⟩
              cases outcome with
              | failure =>
                  rw [Answers.bind_of_failure secondAnswered]
                  rfl
              | success last right =>
                  rw [Answers.bind_of_success secondAnswered,
                    Answers.pure_apply]
                  simp [Except.map, ParseResult.aggregate, ParseResult.success]

theorem answers_orElse (first second : Attempt α) :
    (first.orElse second).answers = first.answers.orElse second.answers := by
  funext index
  cases answered : (first index).answer with
  | error abort =>
      rw [Answers.orElse_of_error answered, answers, orElse, Run.andThen,
        answered]
  | ok result =>
      rcases result with ⟨outcome, diagnostics⟩
      rw [answers, orElse, Run.andThen, answered]
      cases outcome with
      | success stop value =>
          rw [Answers.orElse_of_success answered]
          rfl
      | failure =>
          rw [Answers.orElse_of_failure answered]
          rfl

end Attempt

/-! ## Answers of parsers -/

namespace Parser

variable {R : Type → Type} {α β : Type} {rules : Rules R} {fuel : Nat}
  {source : Source}

/-- What a parser answers on a source. -/
def answers (rules : Rules R) (fuel : Nat) (source : Source)
    (parser : Parser R α) : Answers α :=
  (parser.run rules fuel source).answers

@[simp] theorem answers_success (value : α) :
    (success value).answers rules fuel source = pure value := rfl

@[simp] theorem answers_bind (first : Parser R α) (next : α → Parser R β) :
    (Parser.bind first next).answers rules fuel source =
      first.answers rules fuel source >>= fun value =>
        (next value).answers rules fuel source := by
  rw [answers, run, attempt]
  exact Attempt.answers_bind _ _

@[simp] theorem answers_map (f : α → β) (parser : Parser R α) :
    (Parser.map f parser).answers rules fuel source =
      f <$> parser.answers rules fuel source := by
  rw [answers, run, attempt]
  exact Attempt.answers_map f _

@[simp] theorem answers_both (first : Parser R α) (second : Parser R β) :
    (Parser.both first second).answers rules fuel source =
      first.answers rules fuel source >>= fun left =>
        second.answers rules fuel source >>= fun right =>
          pure (left, right) := by
  rw [answers, run, attempt]
  exact Attempt.answers_both _ _

@[simp] theorem answers_orElse (first second : Parser R α) :
    (Parser.orElse first second).answers rules fuel source =
      (first.answers rules fuel source).orElse
        (second.answers rules fuel source) := by
  rw [answers, run, attempt]
  exact Attempt.answers_orElse _ _

/-! ### Bodies of steps -/

@[simp] theorem answers_generate_done (value : α) :
    (Parser.generate (.done value) : Parser R α).answers rules fuel source =
      pure value := by
  funext index
  rw [answers, run, attempt, Attempt.answers, Steps.drive]
  rfl

/-- A step whose value is required is like a parser that selects the next. -/
@[simp] theorem answers_generate_require (parser : Parser R β)
    (next : β → Steps R α) :
    (Parser.generate (.require parser next)).answers rules fuel source =
      parser.answers rules fuel source >>= fun value =>
        (Parser.generate (next value)).answers rules fuel source := by
  funext index
  have asRun : parser.attempt source (rules.enter source fuel) fuel index =
      parser.run rules fuel source index := rfl
  rw [answers, run, attempt, Attempt.answers, Steps.require, Steps.drive, asRun]
  cases answered : (parser.run rules fuel source index).answer with
  | error abort => rw [Answers.bind_of_error answered]
  | ok result =>
      rcases result with ⟨outcome, diagnostics⟩
      cases outcome with
      | success stop value =>
          rw [Answers.bind_of_success answered]
          dsimp only
          rw [Steps.answer_drive_running, Diagnostics.merge_none]
          rfl
      | failure =>
          rw [Answers.bind_of_failure answered]
          dsimp only
          rw [Steps.drive, Diagnostics.merge_none]
          rfl

/-! ### Interchangeable parsers -/

/-- Two parsers are interchangeable: whatever the rules stand for, runs of both
from one offset end with the same result, its value and its diagnostics
included, or stop for the same reason, if there is any fuel at all. -/
def Interchangeable (first second : Parser R α) : Prop :=
  ∀ (rules : Rules R) (fuel : Nat) (source : Source) (index : Nat), 0 < fuel →
    (first.run rules fuel source index).answer =
      (second.run rules fuel source index).answer

theorem interchangeable_of_answers {first second : Parser R α}
    (same : ∀ rules fuel source,
      first.answers rules fuel source = second.answers rules fuel source) :
    Interchangeable first second := fun rules fuel source index _ =>
  congrFun (same rules fuel source) index

end Parser

end OrderedChoice
