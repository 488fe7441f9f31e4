import OrderedChoice.Proofs.Diagnostics.Summary
import OrderedChoice.Proofs.Parser.Fragment

/-!
# Invariants of runs

What is to hold of every run of a parser is packaged as two predicates: one on
runs that passed from one offset to another, one on runs that failed.  Both see
the diagnostics of the run and the leaf attempts made on the way.

A `RunInvariant` says that the predicates hold of single leaves and survive
doing one run after another and giving a failed run up.  The combinators that
replace diagnostics ask for more, which only fragments that have them need to
provide.  The main statement, `RunInvariant.holds_run`, is the one induction
over parsers, loops, bodies and rule nesting.
-/

namespace OrderedChoice

open Diagnostics

/-! ## Answers of composed runs -/

namespace Run

variable {α β : Type}

theorem answer_eq_ok_iff {run : Run α} {result : ParseResult α} :
    run.answer = .ok result ↔ run.answer.toOption = some result := by
  cases run.answer with
  | error abort => simp [Except.toOption]
  | ok found => simp [Except.toOption]

theorem andThen_answer_eq_ok {first : Run α} {next : ParseResult α → Run β}
    {result : ParseResult β}
    (answered : (first.andThen next).answer = .ok result) :
    ∃ middle, first.answer = .ok middle ∧
      (next middle).answer = .ok result ∧
      (first.andThen next).trace = first.trace ++ (next middle).trace := by
  rcases first with ⟨answer, trace⟩
  cases answer with
  | error abort => simp [andThen] at answered
  | ok middle => exact ⟨middle, rfl, answered, rfl⟩

theorem mapResult_answer_eq_ok {run : Run α}
    {change : ParseResult α → ParseResult β} {result : ParseResult β}
    (answered : (run.mapResult change).answer = .ok result) :
    ∃ before, run.answer = .ok before ∧ change before = result := by
  rcases run with ⟨answer, trace⟩
  cases answer with
  | error abort => simp [mapResult, Except.map] at answered
  | ok before =>
      refine ⟨before, rfl, ?_⟩
      simpa [mapResult, Except.map] using answered

@[simp] theorem trace_mapResult (run : Run α)
    (change : ParseResult α → ParseResult β) :
    (run.mapResult change).trace = run.trace := rfl

end Run

/-! ## Invariants -/

/-- A property of runs, by how they ended, that the combinators of a fragment
keep. -/
structure RunInvariant (source : Source) (fragment : Fragment) where
  /-- What holds of a run that passed from one offset to another. -/
  passed : (start stop : Nat) → Diagnostics → List Diagnostics → Prop
  /-- What holds of a run that failed. -/
  failed : (start : Nat) → Diagnostics → List Diagnostics → Prop
  /-- Nothing has been run yet. -/
  begin_passed : ∀ start, passed start start .none []
  /-- A leaf of the fragment passed. -/
  leaf_passed : ∀ {α : Type} (primitive : Primitive α) (start stop : Nat)
    (value : α) (diagnostics : Diagnostics),
    fragment.leaf primitive →
    primitive.parse source start = ⟨.success stop value, diagnostics⟩ →
    passed start stop diagnostics [diagnostics]
  /-- A leaf of the fragment failed. -/
  leaf_failed : ∀ {α : Type} (primitive : Primitive α) (start : Nat)
    (diagnostics : Diagnostics),
    fragment.leaf primitive →
    primitive.parse source start = ⟨.failure, diagnostics⟩ →
    failed start diagnostics [diagnostics]
  /-- A run passed on from where another one had passed to. -/
  then_passed : ∀ {start middle stop : Nat} {prior recent : Diagnostics}
    {earlier later : List Diagnostics},
    passed start middle prior earlier → passed middle stop recent later →
    passed start stop (recent.merge prior) (earlier ++ later)
  /-- A run failed from where another one had passed to. -/
  then_failed : ∀ {start middle : Nat} {prior recent : Diagnostics}
    {earlier later : List Diagnostics},
    passed start middle prior earlier → failed middle recent later →
    failed start (recent.merge prior) (earlier ++ later)
  /-- A failed run is given up. -/
  give_up : ∀ {start : Nat} {diagnostics : Diagnostics}
    {attempts : List Diagnostics},
    failed start diagnostics attempts → passed start start diagnostics attempts
  /-- A body gives up. -/
  halt : fragment.earlyHalt → ∀ {start stop : Nat} {diagnostics : Diagnostics}
    {attempts : List Diagnostics},
    passed start stop diagnostics attempts → failed start diagnostics attempts
  /-- Diagnostics are dropped. -/
  forget : fragment.lookahead → ∀ {start stop : Nat} {diagnostics : Diagnostics}
    {attempts : List Diagnostics},
    passed start stop diagnostics attempts → passed start stop .none attempts
  /-- A run goes back to where it started. -/
  rewind : fragment.lookahead → ∀ {start stop : Nat} {diagnostics : Diagnostics}
    {attempts : List Diagnostics},
    passed start stop diagnostics attempts → passed start start .none attempts
  /-- A failure is reported at the offset that was reached. -/
  refuse : fragment.lookahead → ∀ {start stop : Nat} {diagnostics : Diagnostics}
    {attempts : List Diagnostics} (description : String),
    passed start stop diagnostics attempts →
    failed start (.single stop description) attempts

namespace RunInvariant

variable {source : Source} {fragment : Fragment}
  (invariant : RunInvariant source fragment)

/-- What the invariant says of a result and the attempts before it. -/
def Fits {α : Type} (start : Nat) (result : ParseResult α)
    (attempts : List Diagnostics) : Prop :=
  match result.outcome with
  | .success stop _ => invariant.passed start stop result.diagnostics attempts
  | .failure => invariant.failed start result.diagnostics attempts

/-- The invariant holds of a run, if the run has a result. -/
def Holds {α : Type} (start : Nat) (run : Run α) : Prop :=
  ∀ result, run.answer = .ok result →
    invariant.Fits start result run.trace.attempts

/-- The invariant holds of the runs of an attempt from every offset. -/
def Keeps {α : Type} (attempt : Attempt α) : Prop :=
  ∀ start, invariant.Holds start (attempt start)

variable {invariant} {α β : Type}

/-! ## Leaves, sequences and choices -/

theorem keeps_leaf {primitive : Primitive α} (within : fragment.leaf primitive) :
    invariant.Keeps fun start =>
      .leaf (primitive.parse source start) := by
  intro start result answered
  have parsed : primitive.parse source start = result := by
    simpa [Run.leaf] using answered
  rcases result with ⟨outcome, diagnostics⟩
  have attempts :
      (Run.leaf (primitive.parse source start)).trace.attempts =
        [diagnostics] := by
    simp [Run.leaf, parsed]
  rw [attempts]
  cases outcome with
  | success stop value =>
      exact invariant.leaf_passed primitive start stop value diagnostics
        within parsed
  | failure =>
      exact invariant.leaf_failed primitive start diagnostics within parsed

theorem keeps_stop (abort : Abort) :
    invariant.Keeps (α := α) fun _ => .stop abort := by
  intro start result answered
  simp [Run.stop] at answered

theorem fits_failed {start : Nat} {diagnostics : Diagnostics}
    {attempts : List Diagnostics} :
    invariant.Fits start (.failed diagnostics : ParseResult α) attempts ↔
      invariant.failed start diagnostics attempts := Iff.rfl

/-- One run after another, where the second fits from where the first
stopped. -/
theorem fits_then {start middle : Nat} {prior : Diagnostics}
    {earlier later : List Diagnostics} {result : ParseResult α}
    (first : invariant.passed start middle prior earlier)
    (second : invariant.Fits middle result later) :
    invariant.Fits start (result.aggregate prior) (earlier ++ later) := by
  rcases result with ⟨outcome, recent⟩
  cases outcome with
  | success stop value => exact invariant.then_passed first second
  | failure => exact invariant.then_failed first second

theorem fits_map {start : Nat} {attempts : List Diagnostics}
    {result : ParseResult α} (f : α → β)
    (fits : invariant.Fits start result attempts) :
    invariant.Fits start (result.map f) attempts := by
  rcases result with ⟨outcome, diagnostics⟩
  cases outcome with
  | success stop value => exact fits
  | failure => exact fits

theorem keeps_bind {first : Attempt α} {next : α → Attempt β}
    (firstKeeps : invariant.Keeps first)
    (nextKeeps : ∀ value, invariant.Keeps (next value)) :
    invariant.Keeps (first.bind next) := by
  intro start result answered
  rcases Run.andThen_answer_eq_ok answered with
    ⟨middle, firstAnswer, nextAnswer, trace⟩
  have firstFits := firstKeeps start middle firstAnswer
  rw [show (first.bind next start).trace = _ from trace,
    Trace.attempts_append]
  rcases middle with ⟨outcome, prior⟩
  cases outcome with
  | success index value =>
      rcases Run.mapResult_answer_eq_ok nextAnswer with
        ⟨recent, recentAnswer, rfl⟩
      exact fits_then firstFits (nextKeeps value index recent recentAnswer)
  | failure =>
      cases nextAnswer
      simpa [Run.done] using fits_failed.mpr firstFits

theorem keeps_map {attempt : Attempt α} (f : α → β)
    (keeps : invariant.Keeps attempt) :
    invariant.Keeps (attempt.map f) := by
  intro start result answered
  rcases Run.mapResult_answer_eq_ok answered with ⟨before, beforeAnswer, rfl⟩
  exact fits_map f (keeps start before beforeAnswer)

theorem keeps_both {first : Attempt α} {second : Attempt β}
    (firstKeeps : invariant.Keeps first)
    (secondKeeps : invariant.Keeps second) :
    invariant.Keeps (first.both second) := by
  intro start result answered
  rcases Run.andThen_answer_eq_ok answered with
    ⟨middle, firstAnswer, nextAnswer, trace⟩
  have firstFits := firstKeeps start middle firstAnswer
  rw [show (first.both second start).trace = _ from trace,
    Trace.attempts_append]
  rcases middle with ⟨outcome, prior⟩
  cases outcome with
  | failure =>
      cases nextAnswer
      simpa [Run.done] using fits_failed.mpr firstFits
  | success index left =>
      rcases Run.mapResult_answer_eq_ok nextAnswer with
        ⟨recent, recentAnswer, rfl⟩
      have fits :=
        fits_then firstFits (secondKeeps index recent recentAnswer)
      rcases recent with ⟨recentOutcome, recentDiagnostics⟩
      cases recentOutcome with
      | success stop right =>
          simpa [Fits, ParseResult.aggregate, ParseResult.success,
            Run.trace_mapResult] using fits
      | failure => exact fits

theorem keeps_orElse {first second : Attempt α}
    (firstKeeps : invariant.Keeps first)
    (secondKeeps : invariant.Keeps second) :
    invariant.Keeps (first.orElse second) := by
  intro start result answered
  rcases Run.andThen_answer_eq_ok answered with
    ⟨middle, firstAnswer, nextAnswer, trace⟩
  have firstFits := firstKeeps start middle firstAnswer
  rw [show (first.orElse second start).trace = _ from trace,
    Trace.attempts_append]
  rcases middle with ⟨outcome, prior⟩
  cases outcome with
  | success stop value =>
      cases nextAnswer
      simpa [Run.done, ParseResult.isSuccess, Outcome.isSuccess] using firstFits
  | failure =>
      rcases Run.mapResult_answer_eq_ok nextAnswer with
        ⟨recent, recentAnswer, rfl⟩
      exact fits_then (invariant.give_up firstFits)
        (secondKeeps start recent recentAnswer)

/-! ## Repetition -/

/-- The loop keeps the invariant: what has been gathered so far passed from the
start to the current offset. -/
theorem holds_timesLoop {item : Attempt α} (itemKeeps : invariant.Keeps item)
    {start : Nat} (min : Nat) (max : Option Nat) (turns : Nat)
    (values : List α) (count : Nat) (context : Diagnostics) (trace : Trace)
    (index : Nat)
    (gathered : invariant.passed start index context trace.attempts) :
    invariant.Holds start
      (Attempt.timesLoop item min max turns values count context trace
        index) := by
  induction turns generalizing values count context trace index with
  | zero =>
      intro result answered
      rw [Attempt.timesLoop] at answered ⊢
      split at answered
      · rename_i reached
        cases answered
        simpa [reached, Fits, ParseResult.aggregate, ParseResult.success]
          using gathered
      · cases answered
  | succ turns inductiveStep =>
      intro result answered
      rw [Attempt.timesLoop] at answered ⊢
      split at answered
      · rename_i reached
        cases answered
        simpa [reached, Fits, ParseResult.aggregate, ParseResult.success]
          using gathered
      · rename_i notReached
        rw [if_neg notReached]
        cases itemAnswer : (item index).answer with
        | error abort => simp [itemAnswer] at answered
        | ok itemResult =>
            have fits := itemKeeps index itemResult itemAnswer
            rcases itemResult with ⟨outcome, diagnostics⟩
            simp only [itemAnswer] at answered ⊢
            cases outcome with
            | success next value =>
                refine inductiveStep _ _ _ _ _ ?_ result answered
                rw [Trace.attempts_append]
                exact invariant.then_passed gathered fits
            | failure =>
                -- The failed turn ends the loop, or fails the whole.
                by_cases enough : min ≤ count
                · simp only [enough, if_true] at answered ⊢
                  cases answered
                  rw [Trace.attempts_append]
                  simpa [Fits, ParseResult.aggregate, ParseResult.success]
                    using
                      invariant.then_passed gathered (invariant.give_up fits)
                · simp only [enough, if_false] at answered ⊢
                  cases answered
                  rw [Trace.attempts_append]
                  exact invariant.then_failed gathered fits

theorem keeps_times {item : Attempt α} (itemKeeps : invariant.Keeps item)
    (min : Nat) (max : Option Nat) (turns : Nat) :
    invariant.Keeps (item.times min max turns) := fun start =>
  holds_timesLoop itemKeeps _ _ _ _ _ _ _ _ (invariant.begin_passed start)

/-- A run made aside leaves the offset and the diagnostics as they were. -/
theorem passed_aside (lookahead : fragment.lookahead) {start index : Nat}
    {earlier later : List Diagnostics} {result : ParseResult α}
    (gathered : invariant.passed start index .none earlier)
    (fits : invariant.Fits index result later) :
    invariant.passed start index .none (earlier ++ later) := by
  rcases result with ⟨outcome, diagnostics⟩
  cases outcome with
  | success stop value =>
      simpa using
        invariant.then_passed gathered (invariant.rewind lookahead fits)
  | failure =>
      simpa using
        invariant.then_passed gathered
          (invariant.forget lookahead (invariant.give_up fits))

/-- The loop keeps the invariant: what has been gathered so far passed from the
start to the current offset and left no diagnostics. -/
theorem holds_repeatUntilLoop (lookahead : fragment.lookahead)
    {item : Attempt α} {terminator : Attempt β}
    (itemKeeps : invariant.Keeps item)
    (terminatorKeeps : invariant.Keeps terminator)
    {start : Nat} (min : Nat) (max : Option Nat) (keep : Option (β → α))
    (turns : Nat) (values : List α) (count : Nat) (trace : Trace)
    (index : Nat)
    (gathered : invariant.passed start index .none trace.attempts) :
    invariant.Holds start
      (Attempt.repeatUntilLoop item terminator min max keep turns values count
        trace index) := by
  induction turns generalizing values count trace index with
  | zero =>
      intro result answered
      rw [Attempt.repeatUntilLoop] at answered
      cases answered
  | succ turns inductiveStep =>
      intro result answered
      rw [Attempt.repeatUntilLoop] at answered ⊢
      cases endingAnswer : (terminator index).answer with
      | error abort => simp [endingAnswer] at answered
      | ok found =>
          have foundFits := terminatorKeeps index found endingAnswer
          have looked :
              invariant.passed start index .none
                (trace ++ (terminator index).trace).attempts := by
            rw [Trace.attempts_append]
            exact passed_aside lookahead gathered foundFits
          simp only [endingAnswer] at answered ⊢
          split at answered
          · -- The terminator counts.
            rename_i after value accepted
            have succeeded : found.outcome = .success after value := by
              split at accepted
              · exact accepted
              · cases accepted
            cases keep with
            | none =>
                cases answered
                exact looked
            | some keep =>
                cases answered
                have consumed :=
                  invariant.forget lookahead
                    (invariant.then_passed gathered
                      (by simpa [Fits, succeeded] using foundFits))
                simpa [Fits, ParseResult.success] using consumed
          · -- The terminator does not count, so an item is due.
            rename_i rejected
            split at answered
            · rename_i bound full
              cases answered
              exact invariant.refuse lookahead _ looked
            · rename_i notFull
              cases itemAnswer : (item index).answer with
              | error abort => simp [itemAnswer] at answered
              | ok itemResult =>
                  have fits := itemKeeps index itemResult itemAnswer
                  rcases itemResult with ⟨outcome, diagnostics⟩
                  simp only [itemAnswer] at answered ⊢
                  cases outcome with
                  | success next value =>
                      refine inductiveStep _ _ _ _ ?_ result answered
                      rw [Trace.attempts_append]
                      exact invariant.forget lookahead
                        (invariant.then_passed looked fits)
                  | failure =>
                      cases answered
                      rw [Trace.attempts_append]
                      exact invariant.refuse lookahead _
                        (passed_aside lookahead looked fits)

theorem keeps_repeatUntil (lookahead : fragment.lookahead)
    {item : Attempt α} {terminator : Attempt β}
    (itemKeeps : invariant.Keeps item)
    (terminatorKeeps : invariant.Keeps terminator)
    (min : Nat) (max : Option Nat) (keep : Option (β → α)) (turns : Nat) :
    invariant.Keeps (item.repeatUntil terminator min max keep turns) :=
  fun start =>
    holds_repeatUntilLoop lookahead itemKeeps terminatorKeeps _ _ _ _ _ _ _ _
      (invariant.begin_passed start)

/-! ## Lookahead and description -/

theorem keeps_peek (lookahead : fragment.lookahead) {attempt : Attempt α}
    (keeps : invariant.Keeps attempt) : invariant.Keeps attempt.peek := by
  intro start result answered
  rcases Run.mapResult_answer_eq_ok answered with ⟨before, beforeAnswer, rfl⟩
  have fits := keeps start before beforeAnswer
  rcases before with ⟨outcome, diagnostics⟩
  cases outcome with
  | success stop value => exact invariant.rewind lookahead fits
  | failure => exact fits

theorem keeps_shouldFail (lookahead : fragment.lookahead)
    {attempt : Attempt α} (description : String)
    (keeps : invariant.Keeps attempt) :
    invariant.Keeps (attempt.shouldFail description) := by
  intro start result answered
  rcases Run.mapResult_answer_eq_ok answered with ⟨before, beforeAnswer, rfl⟩
  have fits := keeps start before beforeAnswer
  rcases before with ⟨outcome, diagnostics⟩
  cases outcome with
  | success stop value =>
      exact invariant.refuse lookahead description
        (invariant.rewind lookahead fits)
  | failure =>
      exact invariant.forget lookahead (invariant.give_up fits)

theorem keeps_describe (lookahead : fragment.lookahead) {attempt : Attempt α}
    (description : String) (keeps : invariant.Keeps attempt) :
    invariant.Keeps (attempt.describe description) := by
  intro start result answered
  rcases Run.mapResult_answer_eq_ok answered with ⟨before, beforeAnswer, rfl⟩
  have fits := keeps start before beforeAnswer
  rcases before with ⟨outcome, diagnostics⟩
  cases outcome with
  | success stop value => exact fits
  | failure =>
      exact invariant.refuse lookahead description (invariant.give_up fits)

/-! ## The step driver -/

variable (invariant) in
/-- What the invariant says of a driver that was started at an offset. -/
def FitsDriver (start : Nat) (attempts : List Diagnostics) :
    DriverState → Prop
  | .running index context => invariant.passed start index context attempts
  | .halted context => invariant.failed start context attempts

theorem fits_finish {start : Nat} {attempts : List Diagnostics}
    {state : DriverState} (fits : invariant.FitsDriver start attempts state)
    (value : α) :
    invariant.Fits start (state.finish (some value)) attempts := by
  cases state with
  | running index context =>
      have passed : invariant.passed start index context attempts := fits
      simpa [DriverState.finish, Fits, ParseResult.aggregate,
        ParseResult.success] using passed
  | halted context => exact fits

theorem fits_finish_none {start : Nat} {attempts : List Diagnostics}
    {state : DriverState} (fits : invariant.FitsDriver start attempts state)
    (allowed : state.isHalted = true ∨ fragment.earlyHalt) :
    invariant.Fits start (state.finish none : ParseResult α) attempts := by
  cases state with
  | running index context =>
      rcases allowed with halted | allowed
      · cases halted
      · exact invariant.halt allowed fits
  | halted context => exact fits

/-! ## The induction over parsers -/

variable {R : Type → Type} {calls : Calls R}

mutual

/-- A parser of the fragment keeps the invariant, if the rules that it refers
to do. -/
theorem keeps_attempt
    (callsKeep : ∀ {α : Type} (rule : R α), invariant.Keeps (calls rule))
    (turns : Nat) :
    ∀ {α : Type} (parser : Parser R α), parser.Within fragment →
      invariant.Keeps (parser.attempt source calls turns)
  | _, .leaf primitive, within => by
      rw [Parser.attempt]
      exact keeps_leaf within
  | _, .ref rule, _ => by
      rw [Parser.attempt]
      exact callsKeep rule
  | _, .bind first next, within => by
      rw [Parser.attempt]
      exact keeps_bind (keeps_attempt callsKeep turns first within.1)
        fun value => keeps_attempt callsKeep turns (next value) (within.2 value)
  | _, .map f parser, within => by
      rw [Parser.attempt]
      exact keeps_map f (keeps_attempt callsKeep turns parser within)
  | _, .both first second, within => by
      rw [Parser.attempt]
      exact keeps_both (keeps_attempt callsKeep turns first within.1)
        (keeps_attempt callsKeep turns second within.2)
  | _, .orElse first second, within => by
      rw [Parser.attempt]
      exact keeps_orElse (keeps_attempt callsKeep turns first within.1)
        (keeps_attempt callsKeep turns second within.2)
  | _, .times item min max, within => by
      rw [Parser.attempt]
      exact keeps_times (keeps_attempt callsKeep turns item within) min max
        turns
  | _, .repeatUntil item terminator min max keep, within => by
      rw [Parser.attempt]
      exact keeps_repeatUntil within.1
        (keeps_attempt callsKeep turns item within.2.1)
        (keeps_attempt callsKeep turns terminator within.2.2) min max keep
        turns
  | _, .peek parser, within => by
      rw [Parser.attempt]
      exact keeps_peek within.1
        (keeps_attempt callsKeep turns parser within.2)
  | _, .shouldFail parser description, within => by
      rw [Parser.attempt]
      exact keeps_shouldFail within.1 description
        (keeps_attempt callsKeep turns parser within.2)
  | _, .describe parser description, within => by
      rw [Parser.attempt]
      exact keeps_describe within.1 description
        (keeps_attempt callsKeep turns parser within.2)
  | _, .generate body, within => fun start => by
      rw [Parser.attempt]
      exact holds_drive callsKeep turns body (.running start .none) ∅ start
        within (invariant.begin_passed start)

/-- A body of the fragment keeps the invariant from every state of the driver
that fits. -/
theorem holds_drive
    (callsKeep : ∀ {α : Type} (rule : R α), invariant.Keeps (calls rule))
    (turns : Nat) :
    ∀ {α : Type} (body : Steps R α) (state : DriverState) (trace : Trace)
      (start : Nat), body.Within fragment state.isHalted →
      invariant.FitsDriver start trace.attempts state →
      invariant.Holds start (body.drive source calls turns state trace)
  | _, .done value, state, trace, start, _, fits => by
      intro result answered
      rw [Steps.drive] at answered ⊢
      cases answered
      exact fits_finish fits value
  | _, .halt, state, trace, start, within, fits => by
      intro result answered
      rw [Steps.drive] at answered ⊢
      cases answered
      exact fits_finish_none fits within
  | _, .index next, .running index context, trace, start, within, fits => by
      rw [Steps.drive]
      exact holds_drive callsKeep turns (next (some index)) _ trace start
        (within index) fits
  | _, .index next, .halted context, trace, start, within, fits => by
      rw [Steps.drive]
      exact holds_drive callsKeep turns (next none) _ trace start within fits
  | _, .halted next, state, trace, start, within, fits => by
      rw [Steps.drive]
      exact holds_drive callsKeep turns (next state.isHalted) state trace start
        within fits
  | _, .aside run next, state, trace, start, within, fits => by
      rw [Steps.drive]
      exact holds_drive callsKeep turns next state (trace ++ run.steps) start
        within (by simpa using fits)
  | _, .step parser next, .halted context, trace, start, within, fits => by
      rw [Steps.drive]
      exact holds_drive callsKeep turns (next none) (.halted context) trace
        start within fits
  | _, .step parser next, .running index context, trace, start, within,
      fits => by
      intro result answered
      rw [Steps.drive] at answered ⊢
      have keeps := keeps_attempt callsKeep turns parser within.1 index
      cases stepAnswer :
          (parser.attempt source calls turns index).answer with
      | error abort => simp [stepAnswer] at answered
      | ok stepResult =>
          have stepFits := keeps stepResult stepAnswer
          rcases stepResult with ⟨outcome, diagnostics⟩
          simp only [stepAnswer] at answered ⊢
          cases outcome with
          | success after value =>
              refine holds_drive callsKeep turns (next (some value))
                (.running after (diagnostics.merge context)) _ start
                (within.2.1 value) ?_ result answered
              simpa [FitsDriver] using invariant.then_passed fits stepFits
          | failure =>
              refine holds_drive callsKeep turns (next none)
                (.halted (diagnostics.merge context)) _ start within.2.2 ?_
                result answered
              simpa [FitsDriver] using invariant.then_failed fits stepFits

end

/-! ## Rules and runs -/

/-- References keep the invariant, however deep rules may nest. -/
theorem keeps_enter {rules : Rules R} (rulesWithin : rules.Within fragment)
    (fuel : Nat) {α : Type} (rule : R α) :
    invariant.Keeps (rules.enter source fuel rule) := by
  induction fuel generalizing α with
  | zero => exact keeps_stop .exhausted
  | succ fuel inductiveStep =>
      rw [Rules.enter]
      cases defined : rules.definition rule with
      | none => exact keeps_stop .undefinedRule
      | some parser =>
          exact keeps_attempt (fun rule => inductiveStep rule) fuel parser
            (rulesWithin rule parser defined)

variable (invariant) in
/-- Every run of a parser of the fragment keeps the invariant. -/
theorem holds_run {rules : Rules R} (rulesWithin : rules.Within fragment)
    {parser : Parser R α} (within : parser.Within fragment) (fuel : Nat) :
    invariant.Keeps (parser.run rules fuel source) :=
  keeps_attempt (fun rule => keeps_enter rulesWithin fuel rule) fuel parser
    within

end RunInvariant

end OrderedChoice
