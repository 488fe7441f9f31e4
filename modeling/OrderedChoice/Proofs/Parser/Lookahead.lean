import OrderedChoice.Proofs.Parser.Gives
import OrderedChoice.Proofs.Parser.Sequencing

/-!
# Looking ahead

Looking ahead runs a parser and then stays where it was.  A peek succeeds where
its parser does and forgets what that reported; a refusal succeeds where its
parser fails, and forgets that failure in its own report.  So both can stand as
guards: a peek in front of its own parser, or a refusal of the first alternative
in front of the second, changes neither what is read nor what is reported.

The laws are equations between answers, by the answer of the parser that is
looked at.
-/

namespace OrderedChoice

/-! ## Results of looking ahead -/

namespace ParseResult

variable {α : Type}

/-- What a peek from an offset makes of the result of its parser. -/
def peeked (index : Nat) (result : ParseResult α) : ParseResult α :=
  match result.outcome with
  | .success _ value => .success index value
  | .failure => .failed result.diagnostics

/-- What a refusal from an offset makes of the result of its parser. -/
def refused (index : Nat) (description : String) (result : ParseResult α) :
    ParseResult (ParseResult α) :=
  if result.isSuccess then .failure index description
  else .success index result

theorem peeked_eq_success {result : ParseResult α} {index stop : Nat}
    {value : α} {diagnostics : Diagnostics}
    (ends : ⟨.success stop value, diagnostics⟩ = result.peeked index) :
    stop = index ∧ ∃ last, result.outcome = .success last value := by
  rcases result with ⟨outcome, reported⟩
  cases outcome with
  | success last found =>
      cases ends
      exact ⟨rfl, last, rfl⟩
  | failure => cases ends

theorem refused_eq_success {result : ParseResult α} {index stop : Nat}
    {description : String} {value : ParseResult α} {diagnostics : Diagnostics}
    (ends : ⟨.success stop value, diagnostics⟩ =
      result.refused index description) :
    stop = index ∧ result.outcome = .failure := by
  rcases result with ⟨outcome, reported⟩
  cases outcome with
  | success last found => cases ends
  | failure =>
      cases ends
      exact ⟨rfl, rfl⟩

end ParseResult

/-! ## Laws of answers -/

namespace Answers

variable {α : Type}

/-- Answer without moving. -/
def peek (answers : Answers α) : Answers α := fun index =>
  (answers index).map (·.peeked index)

/-- Succeed, without moving, where the answer is a failure. -/
def shouldFail (answers : Answers α) (description : String) :
    Answers (ParseResult α) := fun index =>
  (answers index).map (·.refused index description)

variable {answers : Answers α} {index : Nat}

theorem peek_of_error {abort : Abort} (answered : answers index = .error abort) :
    answers.peek index = .error abort := by
  rw [peek, answered]
  rfl

theorem peek_of_success {stop : Nat} {value : α} {diagnostics : Diagnostics}
    (answered : answers index = .ok ⟨.success stop value, diagnostics⟩) :
    answers.peek index = .ok (.success index value) := by
  rw [peek, answered]
  rfl

theorem peek_of_failure {diagnostics : Diagnostics}
    (answered : answers index = .ok ⟨.failure, diagnostics⟩) :
    answers.peek index = .ok ⟨.failure, diagnostics⟩ := by
  rw [peek, answered]
  rfl

theorem shouldFail_of_failure {diagnostics : Diagnostics}
    (answered : answers index = .ok ⟨.failure, diagnostics⟩)
    (description : String) :
    answers.shouldFail description index =
      .ok (.success index ⟨.failure, diagnostics⟩) := by
  rw [shouldFail, answered]
  rfl

/-- What a parser reports when it succeeds it reports once more behind the
peek, which had forgotten it. -/
theorem peek_bind_self (answers : Answers α) :
    (answers.peek >>= fun _ => answers) = answers := by
  funext index
  rcases answered : answers index with abort | ⟨outcome, diagnostics⟩
  · rw [bind_of_error (peek_of_error answered)]
  cases outcome with
  | success stop value =>
      rw [bind_of_success (peek_of_success answered), answered]
      simp [Except.map, ParseResult.aggregate]
  | failure => rw [bind_of_failure (peek_of_failure answered)]

theorem peek_peek (answers : Answers α) : answers.peek.peek = answers.peek := by
  funext index
  rcases answered : answers index with abort | ⟨outcome, diagnostics⟩
  · rw [peek_of_error (peek_of_error answered), peek_of_error answered]
  cases outcome with
  | success stop value =>
      rw [peek_of_success (peek_of_success answered), peek_of_success answered]
  | failure =>
      rw [peek_of_failure (peek_of_failure answered), peek_of_failure answered]

/-- The second alternative is only tried where the first one fails, so there a
refusal of the first one always succeeds. -/
theorem orElse_shouldFail_bind (first second : Answers α)
    (description : String) :
    (first.orElse (first.shouldFail description >>= fun _ => second)) =
      first.orElse second := by
  funext index
  rcases answered : first index with abort | ⟨outcome, diagnostics⟩
  · rw [orElse_of_error answered, orElse_of_error answered]
  cases outcome with
  | success stop value =>
      rw [orElse_of_success answered, orElse_of_success answered]
  | failure =>
      rw [orElse_of_failure answered, orElse_of_failure answered,
        bind_of_success (shouldFail_of_failure answered description),
        ParseResult.map_aggregate_none]

end Answers

/-! ## Parsers that look ahead -/

namespace Parser

variable {R : Type → Type} {α : Type} {rules : Rules R} {source : Source}
  {index : Nat}

@[simp] theorem answers_peek {fuel : Nat} (parser : Parser R α) :
    (Parser.peek parser).answers rules fuel source =
      (parser.answers rules fuel source).peek := by
  rw [answers, run, attempt]
  rfl

@[simp] theorem answers_shouldFail {fuel : Nat} (parser : Parser R α)
    (description : String) :
    (Parser.shouldFail parser description).answers rules fuel source =
      (parser.answers rules fuel source).shouldFail description := by
  rw [answers, run, attempt]
  rfl

theorem gives_peek_iff {parser : Parser R α} {ending : ParseResult α} :
    (Parser.peek parser).Gives rules source index ending ↔
      ∃ result, parser.Gives rules source index result ∧
        ending = result.peeked index := by
  constructor
  · rintro ⟨fuel, ends⟩
    rw [run, attempt] at ends
    rcases Run.mapResult_answer_eq_ok ends with ⟨result, endsInner, rfl⟩
    exact ⟨result, ⟨fuel, endsInner⟩, rfl⟩
  · rintro ⟨result, ⟨fuel, ends⟩, rfl⟩
    rw [run] at ends
    refine ⟨fuel, ?_⟩
    rw [run, attempt, Attempt.peek, Run.mapResult, ends]
    rfl

theorem gives_shouldFail_iff {parser : Parser R α} {description : String}
    {ending : ParseResult (ParseResult α)} :
    (Parser.shouldFail parser description).Gives rules source index ending ↔
      ∃ result, parser.Gives rules source index result ∧
        ending = result.refused index description := by
  constructor
  · rintro ⟨fuel, ends⟩
    rw [run, attempt] at ends
    rcases Run.mapResult_answer_eq_ok ends with ⟨result, endsInner, rfl⟩
    exact ⟨result, ⟨fuel, endsInner⟩, rfl⟩
  · rintro ⟨result, ⟨fuel, ends⟩, rfl⟩
    rw [run] at ends
    refine ⟨fuel, ?_⟩
    rw [run, attempt, Attempt.shouldFail, Run.mapResult, ends]
    rfl

theorem succeeds_peek_iff {parser : Parser R α} :
    (Parser.peek parser).Succeeds rules source index ↔
      parser.Succeeds rules source index := by
  constructor
  · rintro ⟨stop, value, diagnostics, gives⟩
    rcases gives_peek_iff.mp gives with ⟨⟨outcome, reported⟩, ends, peeked⟩
    rcases ParseResult.peeked_eq_success peeked with ⟨_, last, rfl⟩
    exact ⟨last, value, reported, ends⟩
  · rintro ⟨stop, value, diagnostics, gives⟩
    exact ⟨index, value, .none, gives_peek_iff.mpr ⟨_, gives, rfl⟩⟩

theorem succeeds_shouldFail_iff {parser : Parser R α} {description : String} :
    (Parser.shouldFail parser description).Succeeds rules source index ↔
      parser.Misses rules source index := by
  constructor
  · rintro ⟨stop, value, diagnostics, gives⟩
    rcases gives_shouldFail_iff.mp gives with
      ⟨⟨outcome, reported⟩, ends, refused⟩
    rcases ParseResult.refused_eq_success refused with ⟨_, rfl⟩
    exact ⟨reported, ends⟩
  · rintro ⟨diagnostics, gives⟩
    exact ⟨index, _, .none, gives_shouldFail_iff.mpr ⟨_, gives, rfl⟩⟩

theorem misses_shouldFail_iff {parser : Parser R α} {description : String} :
    (Parser.shouldFail parser description).Misses rules source index ↔
      parser.Succeeds rules source index := by
  constructor
  · rintro ⟨diagnostics, gives⟩
    rcases gives_shouldFail_iff.mp gives with
      ⟨⟨outcome, reported⟩, ends, refused⟩
    cases outcome with
    | success stop value => exact ⟨stop, value, reported, ends⟩
    | failure => cases refused
  · rintro ⟨stop, value, diagnostics, gives⟩
    exact ⟨_, gives_shouldFail_iff.mpr ⟨_, gives, rfl⟩⟩

/-- Where a run ends a parser either succeeds or misses. -/
theorem succeeds_xor_misses {parser : Parser R α} {result : ParseResult α}
    (gives : parser.Gives rules source index result) :
    Xor (parser.Succeeds rules source index)
      (parser.Misses rules source index) := by
  rcases result with ⟨outcome, diagnostics⟩
  cases outcome with
  | success stop value =>
      have succeeds : parser.Succeeds rules source index :=
        ⟨stop, value, diagnostics, gives⟩
      exact .inl ⟨succeeds, fun misses => misses.not_succeeds succeeds⟩
  | failure =>
      have misses : parser.Misses rules source index := ⟨diagnostics, gives⟩
      exact .inr ⟨misses, misses.not_succeeds⟩

/-- Wherever a parser reads something it stays at the offset. -/
def NeverMoves (parser : Parser R α) : Prop :=
  ∀ (rules : Rules R) (source : Source) (index stop : Nat) (value : α),
    parser.Reads rules source index stop value → stop = index

theorem neverMoves_peek (parser : Parser R α) :
    NeverMoves (Parser.peek parser) := by
  rintro rules source index stop value ⟨diagnostics, gives⟩
  rcases gives_peek_iff.mp gives with ⟨result, _, peeked⟩
  exact (ParseResult.peeked_eq_success peeked).1

theorem neverMoves_shouldFail (parser : Parser R α) (description : String) :
    NeverMoves (Parser.shouldFail parser description) := by
  rintro rules source index stop value ⟨diagnostics, gives⟩
  rcases gives_shouldFail_iff.mp gives with ⟨result, _, refused⟩
  exact (ParseResult.refused_eq_success refused).1

/--
Laws of looking ahead.  Where a parser comes to an end, either a peek at it
succeeds or a refusal of it does, and never both; the one that does stays where
it is.  Refusing a refusal succeeds just where the parser does.  Peeking before
a parser at the same parser, peeking twice, and refusing the first alternative
before the second make no difference at all.
-/
theorem lookahead_laws (p q : Parser R α) (description other : String) :
    (∀ (rules : Rules R) (source : Source) (index : Nat)
      (result : ParseResult α), p.Gives rules source index result →
      Xor ((Parser.peek p).Succeeds rules source index)
        ((Parser.shouldFail p description).Succeeds rules source index)) ∧
    NeverMoves (Parser.peek p) ∧
    NeverMoves (Parser.shouldFail p description) ∧
    (∀ (rules : Rules R) (source : Source) (index : Nat),
      (Parser.shouldFail (.shouldFail p description) other).Succeeds rules
          source index ↔
        p.Succeeds rules source index) ∧
    NeverMoves (Parser.shouldFail (.shouldFail p description) other) ∧
    Interchangeable ((Parser.peek p).andThen p) p ∧
    Interchangeable (.peek (.peek p)) (.peek p) ∧
    Interchangeable (.orElse p q)
      (.orElse p ((Parser.shouldFail p description).andThen q)) := by
  refine ⟨?_, neverMoves_peek p, neverMoves_shouldFail p description, ?_,
    neverMoves_shouldFail _ other, ?_, ?_, ?_⟩
  · intro rules source index result gives
    rw [succeeds_peek_iff, succeeds_shouldFail_iff]
    exact succeeds_xor_misses gives
  · intro rules source index
    rw [succeeds_shouldFail_iff, misses_shouldFail_iff]
  · refine interchangeable_of_answers fun rules fuel source => ?_
    simp [Answers.peek_bind_self]
  · refine interchangeable_of_answers fun rules fuel source => ?_
    simp [Answers.peek_peek]
  · refine interchangeable_of_answers fun rules fuel source => ?_
    simp [Answers.orElse_shouldFail_bind]

/-- Before two letters a refusal of the first alone fails, and so a peek at it
succeeds. -/
theorem letter_peeked :
    let rules : Rules fun _ => Empty := ⟨nofun⟩
    let source := Source.ofString "ab"
    let letter : Parser (fun _ => Empty) String := literal "a"
    letter.Gives rules source 0 (.success 1 "a") ∧
      Xor ((Parser.peek letter).Succeeds rules source 0)
        ((Parser.shouldFail letter "no a").Succeeds rules source 0) := by
  intro rules source letter
  have gives : letter.Gives rules source 0 (.success 1 "a") := ⟨0, by rfl⟩
  exact ⟨gives,
    (lookahead_laws letter letter "no a" "an a").1 rules source 0 _ gives⟩

end Parser

end OrderedChoice
