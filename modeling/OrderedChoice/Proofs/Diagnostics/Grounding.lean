import OrderedChoice.Proofs.Diagnostics.Merging
import OrderedChoice.Proofs.Parser.Descent
import OrderedChoice.Proofs.Parser.EntryPoints

/-!
# Failures are never silent

Diagnostics record an offset just when they expect something there, and every
failure records one.  Some combinators drop diagnostics, but only where they
succeed; others fail where their parts did not, but then say so themselves.
What could fail silently is a body that gives up on its own: one that does so
after a failed step hands on what that step recorded.

The main statements are `Parser.speaks_run`, about all runs of parsers built
from the library, and `Parser.failures_speak`, which adds what this means for
parse errors: they name what was expected, at an offset that was recorded.
-/

namespace OrderedChoice

/-! ## Grounded diagnostics -/

theorem Expectations.union_eq_empty_iff {left right : Expectations} :
    left ∪ right = ∅ ↔ left = ∅ ∧ right = ∅ := by
  have absent : ∀ expectations : Expectations,
      expectations = ∅ ↔ ∀ item, item ∉ expectations := by
    intro expectations
    constructor
    · rintro rfl item member
      cases member
    · intro none
      exact eq_of_mem_iff fun item => iff_of_false (none item) nofun
  simp only [absent, mem_union, not_or, forall_and]

namespace Diagnostics

/-- Diagnostics that record an offset just when they expect something. -/
def Grounded (diagnostics : Diagnostics) : Prop :=
  diagnostics.furthest = .none ↔ diagnostics.expected = ∅

variable {recent prior : Diagnostics}

theorem grounded_none : none.Grounded := iff_of_true rfl rfl

theorem grounded_single (offset : Nat) (expected : String) :
    (single offset expected).Grounded :=
  iff_of_false nofun nofun

theorem Grounded.merge (recentGrounded : recent.Grounded)
    (priorGrounded : prior.Grounded) : (recent.merge prior).Grounded := by
  rcases furthest_cases recent.furthest prior.furthest with
    below | level | above
  · rw [merge_of_lt below]
    exact priorGrounded
  · have first : recent.furthest = .none ↔ recent.expected = ∅ :=
      recentGrounded
    have second : prior.furthest = .none ↔ prior.expected = ∅ := priorGrounded
    rw [merge_of_eq level, Grounded, Expectations.union_eq_empty_iff, ← first,
      ← second, ← level, and_self]
  · rw [merge_of_gt above]
    exact recentGrounded

/-- Merging keeps that an offset is recorded. -/
theorem furthest_merge_ne_none (recorded : recent.furthest ≠ .none) :
    (recent.merge prior).furthest ≠ .none := by
  rcases furthest_cases recent.furthest prior.furthest with
    below | level | above
  · rw [merge_of_lt below]
    intro silent
    rw [silent] at below
    cases known : recent.furthest <;> simp [known] at below
  · rw [merge_of_eq level]
    exact recorded
  · rw [merge_of_gt above]
    exact recorded

end Diagnostics

/-! ## Results and runs that speak -/

/-- A result whose diagnostics are grounded, and that records an offset if it is
a failure. -/
structure ParseResult.Speaks {α : Type} (result : ParseResult α) : Prop where
  grounded : result.diagnostics.Grounded
  recorded : result.outcome = .failure → result.diagnostics.furthest ≠ none

namespace ParseResult.Speaks

open ParseResult

variable {α β : Type}

theorem success (stop : Nat) (value : α) :
    (ParseResult.success stop value).Speaks :=
  ⟨Diagnostics.grounded_none, nofun⟩

/-- A success to which what was gathered is added. -/
theorem gathered (stop : Nat) (value : α) {diagnostics : Diagnostics}
    (grounded : diagnostics.Grounded) :
    ((ParseResult.success stop value).aggregate diagnostics).Speaks :=
  ⟨Diagnostics.grounded_none.merge grounded, nofun⟩

theorem failure (index : Nat) (expected : String) :
    (ParseResult.failure index expected : ParseResult α).Speaks :=
  ⟨Diagnostics.grounded_single index expected, fun _ => nofun⟩

theorem failed {result : ParseResult α} (speaks : result.Speaks)
    (isFailure : result.outcome = .failure) :
    (ParseResult.failed result.diagnostics : ParseResult β).Speaks :=
  ⟨speaks.grounded, fun _ => speaks.recorded isFailure⟩

theorem aggregate {result : ParseResult α} (speaks : result.Speaks)
    {prior : Diagnostics} (grounded : prior.Grounded) :
    (result.aggregate prior).Speaks :=
  ⟨speaks.grounded.merge grounded, fun isFailure =>
    Diagnostics.furthest_merge_ne_none (speaks.recorded isFailure)⟩

theorem map (f : α → β) {result : ParseResult α} (speaks : result.Speaks) :
    (result.map f).Speaks := by
  rcases result with ⟨outcome, diagnostics⟩
  cases outcome with
  | success stop value => exact ⟨speaks.grounded, nofun⟩
  | failure => exact speaks.failed rfl

end ParseResult.Speaks

/-- A run that speaks, if it has a result. -/
def Run.Speaks {α : Type} (run : Run α) : Prop :=
  ∀ result, run.answer = .ok result → result.Speaks

namespace Run.Speaks

variable {α β : Type}

theorem ended {result : ParseResult α} (speaks : result.Speaks)
    (trace : Trace) : Run.Speaks ⟨.ok result, trace⟩ := by
  rintro _ ⟨⟩
  exact speaks

theorem stopped (abort : Abort) (trace : Trace) :
    (⟨.error abort, trace⟩ : Run α).Speaks := by
  rintro _ ⟨⟩

theorem mapResult {run : Run α} {change : ParseResult α → ParseResult β}
    (speaks : run.Speaks)
    (changes : ∀ result : ParseResult α, result.Speaks →
      (change result).Speaks) : (run.mapResult change).Speaks := by
  intro result answered
  rcases Run.mapResult_answer_eq_ok answered with ⟨before, ends, rfl⟩
  exact changes before (speaks before ends)

theorem andThen {first : Run α} {next : ParseResult α → Run β}
    (speaks : first.Speaks)
    (nexts : ∀ result, first.answer = .ok result → result.Speaks →
      (next result).Speaks) : (first.andThen next).Speaks := by
  intro result answered
  rcases Run.andThen_answer_eq_ok answered with ⟨middle, ends, endsNext, _⟩
  exact nexts middle ends (speaks middle ends) result endsNext

end Run.Speaks

/-- The leaves of the library speak. -/
theorem Primitive.speaks_parse {α : Type} {primitive : Primitive α}
    (isLibrary : primitive.IsLibrary) (source : Source) (index : Nat) :
    (primitive.parse source index).Speaks := by
  cases primitive with
  | success value => exact .success index value
  | fail expected => exact .failure index expected
  | index => exact .success index index
  | lineInfo => exact .success index _
  | eof =>
      rw [parse]
      split
      · exact .success index ()
      · exact .failure index "EOF"
  | literal text =>
      rw [parse, parseLiteral]
      split
      · split
        · exact .success _ text
        · exact .failure index text
      · exact .failure index text
  | literalWith text transform =>
      rw [parse, parseLiteralWith]
      split
      · exact .success _ text
      · exact .failure index text
  | testChar predicate description =>
      rw [parse, parseCharacter]
      split
      · split
        · exact .success _ _
        · exact .failure index description
      · exact .failure index description
  | pattern expression read =>
      rw [parse, parsePattern, Engine.parse]
      split
      · exact .success _ _
      · exact .failure index expression.text
  | custom function => exact isLibrary.elim

/-! ## Loops -/

section

variable {R : Type → Type} {rules : Rules R} {source : Source} {α β : Type}

/-- A repetition speaks if the items that it comes to do. -/
theorem speaks_timesLoop {item : Parser R α} {min : Nat} {max : Option Nat}
    {fuel turns count index : Nat}
    (items : ∀ stop, Parser.TimesTurn rules source item max count index stop →
      (item.run rules fuel source stop).Speaks)
    {values : List α} {context : Diagnostics} (grounded : context.Grounded)
    (trace : Trace) :
    (Attempt.timesLoop (item.run rules fuel source) min max turns values count
      context trace index).Speaks := by
  induction turns generalizing values count context trace index with
  | zero =>
      rw [Attempt.timesLoop]
      split
      · exact .ended (.gathered index _ grounded) _
      · exact .stopped _ _
  | succ turns inductiveStep =>
      rw [Attempt.timesLoop]
      split
      · exact .ended (.gathered index _ grounded) _
      rename_i notReached
      have room : Attempt.reaches max count = false := by simpa using notReached
      have speaks := items index (.here room)
      have later : ∀ stop next value diagnostics,
          (item.run rules fuel source index).answer =
            .ok ⟨.success next value, diagnostics⟩ →
          Parser.TimesTurn rules source item max (count + 1) next stop →
            (item.run rules fuel source stop).Speaks :=
        fun stop next value diagnostics answered turn =>
          items stop (.later room ⟨diagnostics, fuel, answered⟩ turn)
      generalize item.run rules fuel source index = run at speaks later
      rcases run with ⟨_ | ⟨⟨outcome, recent⟩⟩, itemTrace⟩
      · exact .stopped _ _
      have itemSpeaks := speaks _ rfl
      have merged := itemSpeaks.grounded.merge grounded
      cases outcome with
      | success next value =>
          exact inductiveStep
            (fun stop turn => later stop next value recent rfl turn) merged _
      | failure =>
          dsimp only
          split
          · exact .ended (.gathered index _ merged) _
          · exact .ended ((itemSpeaks.aggregate grounded).failed rfl) _

/-- A search for a terminator drops all diagnostics and fails with its own. -/
theorem speaks_repeatUntilLoop (item : Attempt α) (terminator : Attempt β)
    (min : Nat) (max : Option Nat) (keep : Option (β → α)) (turns : Nat)
    (values : List α) (count : Nat) (trace : Trace) (index : Nat) :
    (Attempt.repeatUntilLoop item terminator min max keep turns values count
      trace index).Speaks := by
  induction turns generalizing values count trace index with
  | zero => exact .stopped _ _
  | succ turns inductiveStep =>
      rw [Attempt.repeatUntilLoop]
      rcases terminator index with ⟨_ | found, endingTrace⟩
      · exact .stopped _ _
      dsimp only
      split
      · split
        · exact .ended (.success index _) _
        · exact .ended (.success _ _) _
      split
      · exact .ended (.failure index _) _
      rcases item index with ⟨_ | ⟨⟨_ | ⟨next, value⟩, recent⟩⟩, itemTrace⟩
      · exact .stopped _ _
      · exact inductiveStep _ _ _ _
      · exact .ended (.failure index _) _

/-! ## Bodies -/

/-- From an offset a body gives up although none of its steps has failed. -/
inductive Steps.GivesUp (rules : Rules R) (source : Source) :
    Steps R α → Nat → Prop where
  | halt (start : Nat) : GivesUp rules source .halt start
  | step {γ : Type} {parser : Parser R γ} {next : Option γ → Steps R α}
      {start middle : Nat} {value : γ}
      (reads : parser.Reads rules source start middle value)
      (rest : GivesUp rules source (next (some value)) middle) :
      GivesUp rules source (.step parser next) start
  | index {next : Option Nat → Steps R α} {start : Nat}
      (rest : GivesUp rules source (next (some start)) start) :
      GivesUp rules source (.index next) start
  | halted {next : Bool → Steps R α} {start : Nat}
      (rest : GivesUp rules source (next false) start) :
      GivesUp rules source (.halted next) start
  | aside (trace : Trace) {next : Steps R α} {start : Nat}
      (rest : GivesUp rules source next start) :
      GivesUp rules source (.aside trace next) start

/-- A body that does not give up on its own speaks if the steps that it comes to
do. -/
theorem Steps.speaks_drive {fuel : Nat} :
    ∀ {α : Type} (body : Steps R α) (start : Nat),
      ¬ body.GivesUp rules source start →
      (∀ {β : Type} (part : Parser R β) (stop : Nat),
        body.ComesTo rules source part start stop →
          (part.run rules fuel source stop).Speaks) →
      ∀ {context : Diagnostics}, context.Grounded → ∀ trace : Trace,
        (body.drive source (rules.enter source fuel) fuel
          (.running start context) trace).Speaks
  | _, .done value, start, _, _, context, grounded, trace => by
      rw [Steps.drive]
      exact .ended (.gathered start value grounded) _
  | _, .halt, start, steady, _, context, grounded, trace =>
      absurd (.halt start) steady
  | _, .index next, start, steady, parts, context, grounded, trace => by
      rw [Steps.drive]
      exact (next (some start)).speaks_drive start
        (fun givesUp => steady (.index givesUp))
        (fun part stop comes => parts part stop (.index comes)) grounded trace
  | _, .halted next, start, steady, parts, context, grounded, trace => by
      rw [Steps.drive]
      exact (next false).speaks_drive start
        (fun givesUp => steady (.halted givesUp))
        (fun part stop comes => parts part stop (.halted comes)) grounded trace
  | _, .aside run next, start, steady, parts, context, grounded, trace => by
      rw [Steps.drive]
      exact next.speaks_drive start (fun givesUp => steady (.aside run givesUp))
        (fun part stop comes => parts part stop (.aside run comes)) grounded _
  | _, .step parser next, start, steady, parts, context, grounded, trace => by
      have asRun : parser.attempt source (rules.enter source fuel) fuel start =
          parser.run rules fuel source start := rfl
      intro result ends
      rw [Steps.drive, asRun] at ends
      cases answered : (parser.run rules fuel source start).answer with
      | error abort =>
          simp only [answered] at ends
          cases ends
      | ok stepResult =>
          have speaks := parts parser start (.here start) stepResult answered
          rcases stepResult with ⟨outcome, recent⟩
          simp only [answered] at ends
          cases outcome with
          | success middle value =>
              have reads : parser.Reads rules source start middle value :=
                ⟨recent, fuel, answered⟩
              exact (next (some value)).speaks_drive middle
                (fun givesUp => steady (.step reads givesUp))
                (fun part stop comes => parts part stop (.step reads comes))
                (speaks.grounded.merge grounded) _ result ends
          | failure =>
              rcases @Steps.exists_refused R rules fuel source _ (next none)
                with ⟨_, _, _, _, drives⟩
              rw [(drives _ _).1] at ends
              cases ends
              exact (speaks.aggregate grounded).failed rfl

/-! ## Runs -/

namespace Parser

/-- On its way a run comes to a body that gives up on its own. -/
def GivesUpEarly (rules : Rules R) (source : Source) (parser : Parser R α)
    (index : Nat) : Prop :=
  ∃ (β : Type) (body : Steps R β) (stop : Nat),
    RunReaches rules source (.generate body) stop parser index ∧
      body.GivesUp rules source stop

theorem GivesUpEarly.start {parser : Parser R α} {part : Parser R β}
    {index stop : Nat}
    (starts : Starts rules source parser index part stop)
    (givesUp : part.GivesUpEarly rules source stop) :
    parser.GivesUpEarly rules source index := by
  rcases givesUp with ⟨γ, body, last, reaches, halts⟩
  exact ⟨γ, body, last, .start starts reaches, halts⟩

/-- A run speaks if what it goes on with does. -/
theorem speaks_of_starts {parser : Parser R α} {fuel index : Nat}
    (notRef : ∀ rule, parser ≠ .ref rule) (library : parser.Within .library)
    (steady : ¬ parser.GivesUpEarly rules source index)
    (parts : ∀ {β : Type} (part : Parser R β) (stop : Nat),
      Starts rules source parser index part stop →
        (part.run rules fuel source stop).Speaks) :
    (parser.run rules fuel source index).Speaks := by
  rw [run]
  cases parser with
  | ref rule => exact absurd rfl (notRef rule)
  | leaf primitive =>
      rw [attempt]
      exact .ended (primitive.speaks_parse library source index) _
  | bind first next =>
      rw [attempt]
      refine (parts first index .bindFirst).andThen ?_
      rintro ⟨outcome, prior⟩ answered speaks
      cases outcome with
      | failure => exact .ended (speaks.failed rfl) _
      | success stop value =>
          have reads : first.Reads rules source index stop value :=
            ⟨prior, fuel, answered⟩
          exact (parts (next value) stop (.bindNext reads)).mapResult
            fun _ recent => recent.aggregate speaks.grounded
  | map f parser =>
      rw [attempt]
      exact (parts parser index .map).mapResult fun _ speaks => speaks.map f
  | both first second =>
      rw [attempt]
      refine (parts first index .bothFirst).andThen ?_
      rintro ⟨outcome, prior⟩ answered speaks
      cases outcome with
      | failure => exact .ended (speaks.failed rfl) _
      | success stop value =>
          have reads : first.Reads rules source index stop value :=
            ⟨prior, fuel, answered⟩
          refine (parts second stop (.bothSecond reads)).mapResult ?_
          rintro ⟨outcome, recent⟩ secondSpeaks
          have merged := secondSpeaks.aggregate speaks.grounded
          cases outcome with
          | success last other => exact .gathered last _ merged.grounded
          | failure => exact merged.failed rfl
  | orElse first second =>
      rw [attempt]
      refine (parts first index .orElseFirst).andThen ?_
      rintro ⟨outcome, prior⟩ answered speaks
      cases outcome with
      | success stop value => exact .ended speaks _
      | failure =>
          have misses : first.Misses rules source index :=
            ⟨prior, fuel, answered⟩
          exact (parts second index (.orElseSecond misses)).mapResult
            fun _ recent => recent.aggregate speaks.grounded
  | times item min max =>
      rw [attempt]
      exact speaks_timesLoop (fun stop turn => parts item stop (.times turn))
        Diagnostics.grounded_none ∅
  | repeatUntil item terminator min max keep =>
      rw [attempt]
      exact speaks_repeatUntilLoop _ _ min max keep fuel [] 0 ∅ index
  | peek parser =>
      rw [attempt]
      refine (parts parser index .peek).mapResult ?_
      rintro ⟨outcome, diagnostics⟩ speaks
      cases outcome with
      | success stop value => exact .success index value
      | failure => exact speaks.failed rfl
  | shouldFail parser description =>
      rw [attempt]
      refine (parts parser index .shouldFail).mapResult ?_
      rintro ⟨outcome, diagnostics⟩ _
      cases outcome with
      | success stop value => exact .failure index description
      | failure => exact .success index _
  | describe parser description =>
      rw [attempt]
      refine (parts parser index .describe).mapResult ?_
      rintro ⟨outcome, diagnostics⟩ speaks
      cases outcome with
      | success stop value => exact speaks
      | failure => exact .failure index description
  | generate body =>
      rw [attempt]
      exact body.speaks_drive index
        (fun givesUp => steady ⟨_, body, index, .here, givesUp⟩)
        (fun part stop comes => parts part stop (.generate comes))
        Diagnostics.grounded_none ∅

section

variable (rulesLibrary : rules.Within .library) {fuel : Nat}
include rulesLibrary

/-- A run speaks if runs of references do. -/
theorem speaks_of_entered
    (entered : ∀ {α : Type} (rule : R α) (index : Nat),
      ¬ (Parser.ref rule).GivesUpEarly rules source index →
        (rules.enter source fuel rule index).Speaks)
    {parser : Parser R α} (library : parser.Within .library) {index : Nat}
    (steady : ¬ parser.GivesUpEarly rules source index) :
    (parser.run rules fuel source index).Speaks := by
  refine starts_induct rules source
    (motive := fun parser index => parser.Within .library →
      ¬ parser.GivesUpEarly rules source index →
        (parser.run rules fuel source index).Speaks)
    (fun rule index _ steady => ?_)
    (fun parser index notRef parts library steady => ?_) parser index library
    steady
  · rw [run, attempt]
    exact entered rule index steady
  · exact speaks_of_starts notRef library steady fun part stop starts =>
      parts part stop starts (starts.within rulesLibrary library)
        fun givesUp => steady (.start starts givesUp)

theorem speaks_enter (rule : R α) (index : Nat)
    (steady : ¬ (Parser.ref rule).GivesUpEarly rules source index) :
    (rules.enter source fuel rule index).Speaks := by
  induction fuel generalizing α index with
  | zero => exact .stopped _ _
  | succ fuel inductiveStep =>
      rw [Rules.enter]
      cases defined : rules.definition rule with
      | none => exact .stopped _ _
      | some parser =>
          exact speaks_of_entered rulesLibrary inductiveStep
            (rulesLibrary rule parser defined)
            fun givesUp => steady (.start (.ref defined) givesUp)

/-- Every run of a parser of the library speaks, unless a body gives up on its
own. -/
theorem speaks_run {parser : Parser R α} (library : parser.Within .library)
    {index : Nat} (steady : ¬ parser.GivesUpEarly rules source index) :
    (parser.run rules fuel source index).Speaks :=
  speaks_of_entered rulesLibrary
    (fun rule index => speaks_enter rulesLibrary rule index) library steady

end

/-! ### Bodies that never give up -/

end Parser

/-- Parsers built from the library whose bodies give up only after a failed
step. -/
def Fragment.steady : Fragment where
  leaf := Primitive.IsLibrary
  lookahead := True
  earlyHalt := False

theorem Fragment.hasLibraryLeaves_steady : Fragment.steady.HasLibraryLeaves :=
  fun _ isLibrary => isLibrary

theorem Steps.not_givesUp_of_within {body : Steps R α} {start : Nat}
    (within : body.Within .steady false) :
    ¬ body.GivesUp rules source start := by
  intro givesUp
  induction givesUp with
  | halt start =>
      rcases within with never | early
      · cases never
      · exact early
  | step reads rest inductiveStep => exact inductiveStep (within.2.1 _)
  | index rest inductiveStep => exact inductiveStep (within _)
  | halted rest inductiveStep | aside trace rest inductiveStep =>
      exact inductiveStep within

namespace Parser

theorem not_givesUpEarly_of_within (rulesWithin : rules.Within .steady)
    {parser : Parser R α} (within : parser.Within .steady) (index : Nat) :
    ¬ parser.GivesUpEarly rules source index := by
  rintro ⟨β, body, stop, reaches, givesUp⟩
  induction reaches with
  | here => exact Steps.not_givesUp_of_within within givesUp
  | start starts rest inductiveStep =>
      exact inductiveStep (starts.within rulesWithin within)

/-! ## Parse errors -/

/-- A failed run recorded what a parse error says. -/
structure Recorded (diagnostics : Diagnostics) (error : ParseError) :
    Prop where
  /-- The offset of the error was recorded. -/
  index : diagnostics.furthest = some error.index
  /-- What the error expects was expected there. -/
  expected : diagnostics.expected = error.expected
  /-- Something was expected. -/
  some_expected : error.expected ≠ ∅

theorem recorded_errorOf {diagnostics : Diagnostics}
    (grounded : diagnostics.Grounded) (recorded : diagnostics.furthest ≠ none)
    (source : Source) : Recorded diagnostics (errorOf source diagnostics) := by
  rcases Option.ne_none_iff_exists'.mp recorded with ⟨offset, known⟩
  refine ⟨?_, rfl, fun nothing => recorded (grounded.mpr nothing)⟩
  rw [errorOf, known]
  rfl

/-- What a whole parse knows about its failure is recorded if its run
speaks. -/
theorem recorded_failureOf {result : ParseResult α} (speaks : result.Speaks)
    (source : Source) :
    Recorded (failureOf result) (errorOf source (failureOf result)) := by
  rcases result with ⟨outcome, diagnostics⟩
  cases outcome with
  | success stop value =>
      exact recorded_errorOf
        ((Diagnostics.grounded_single stop "EOF").merge speaks.grounded)
        (Diagnostics.furthest_merge_ne_none nofun) source
  | failure =>
      exact recorded_errorOf speaks.grounded (speaks.recorded rfl) source

/-- A whole parse that fails hands on what its run recorded. -/
theorem recorded_of_parse {parser : Parser R α} {fuel : Nat}
    (speaks : (parser.run rules fuel source 0).Speaks) {error : ParseError}
    (failed : (parser.parse rules fuel source).answer = .ok (.error error)) :
    ∃ diagnostics, ((parser.skip eof).run rules fuel source 0).answer =
      .ok (.failed diagnostics) ∧ Recorded diagnostics error := by
  rcases parse_eq_error_iff.mp failed with ⟨result, ends, short, rfl⟩
  refine ⟨failureOf result, ?_, recorded_failureOf (speaks result ends) source⟩
  rw [answer_skip_eof ends]
  rcases result with ⟨outcome, diagnostics⟩
  cases outcome with
  | failure => rfl
  | success stop value =>
      have notAtEnd : ¬ source.length ≤ stop := fun atEnd =>
        short ⟨stop, rfl, atEnd⟩
      simp only [if_neg notAtEnd]

theorem recorded_of_parsePartial {parser : Parser R α} {fuel : Nat}
    (speaks : (parser.run rules fuel source 0).Speaks) {error : ParseError}
    (failed : (parser.parsePartial rules fuel source).answer =
      .ok (.error error)) :
    ∃ diagnostics, (parser.run rules fuel source 0).answer =
      .ok (.failed diagnostics) ∧ Recorded diagnostics error := by
  rw [answer_parsePartial] at failed
  cases ends : (parser.run rules fuel source 0).answer with
  | error abort => simp [ends, Except.map] at failed
  | ok result =>
      have resultSpeaks := speaks result ends
      rw [ends] at failed
      rcases result with ⟨outcome, diagnostics⟩
      cases outcome with
      | success stop value => simp [Except.map] at failed
      | failure =>
          cases failed
          exact ⟨diagnostics, rfl, recorded_errorOf resultSpeaks.grounded
            (resultSpeaks.recorded rfl) source⟩

/--
Failures are never silent.  A run of a parser of the library, on whose way no
body gives up on its own, records an offset just when it expects something, and
if it fails it does both.  A parse error then says what a failed run recorded.
-/
theorem failures_speak (rulesLibrary : rules.Within .library)
    {parser : Parser R α} (library : parser.Within .library) (source : Source)
    (fuel : Nat) :
    (∀ index result, ¬ parser.GivesUpEarly rules source index →
      (parser.run rules fuel source index).answer = .ok result →
      (result.furthest = none ↔ result.expected = ∅) ∧
      (result.outcome = .failure →
        (∃ offset, result.furthest = some offset) ∧ result.expected ≠ ∅)) ∧
    (¬ parser.GivesUpEarly rules source 0 → ∀ error,
      ((parser.parse rules fuel source).answer = .ok (.error error) →
        ∃ diagnostics, ((parser.skip eof).run rules fuel source 0).answer =
          .ok (.failed diagnostics) ∧ Recorded diagnostics error) ∧
      ((parser.parsePartial rules fuel source).answer = .ok (.error error) →
        ∃ diagnostics, (parser.run rules fuel source 0).answer =
          .ok (.failed diagnostics) ∧ Recorded diagnostics error)) := by
  constructor
  · intro index result steady ends
    have speaks := speaks_run rulesLibrary library steady result ends
    refine ⟨speaks.grounded, fun isFailure => ?_⟩
    have recorded := speaks.recorded isFailure
    exact ⟨Option.ne_none_iff_exists'.mp recorded,
      fun nothing => recorded (speaks.grounded.mpr nothing)⟩
  · intro steady error
    have speaks : (parser.run rules fuel source 0).Speaks :=
      speaks_run rulesLibrary library steady
    exact ⟨recorded_of_parse speaks, recorded_of_parsePartial speaks⟩

end Parser

end

/-- An open array, read by a body that notes where it starts and stops, fails at
its end; the parse error says so. -/
theorem Json.marked_open_array_speaks :
    let source := Source.ofString "[1,"
    let marked := parser.mark
    rules.Within .library ∧ marked.Within .library ∧
      ¬ marked.GivesUpEarly rules source 0 ∧
      ∃ error, (marked.parse rules 5 source).answer = .ok (.error error) ∧
        error.index = 3 ∧
        ∃ diagnostics, ((marked.skip Parser.eof).run rules 5 source 0).answer =
          .ok (.failed diagnostics) ∧ Parser.Recorded diagnostics error := by
  intro source marked
  have library : marked.Within .library :=
    Parser.within_mark Fragment.hasLibraryLeaves_library parser_within_library
  have rulesSteady : rules.Within .steady := by
    intro α rule definition defined
    cases rule
    cases defined
    exact within_value Fragment.hasLibraryLeaves_steady trivial trivial
  have markedSteady : marked.Within .steady :=
    Parser.within_mark Fragment.hasLibraryLeaves_steady
      (Parser.within_andThen.mpr ⟨trivial, trivial⟩)
  have steady : ¬ marked.GivesUpEarly rules source 0 :=
    Parser.not_givesUpEarly_of_within rulesSteady markedSteady 0
  have known : (match (marked.parse rules 5 source).answer with
      | .ok (.error error) => some error.index
      | _ => none) = some 3 := by
    decide +kernel
  have speaks := Parser.failures_speak rules_within_library library source 5
  cases parsed : (marked.parse rules 5 source).answer with
  | error abort =>
      rw [parsed] at known
      cases known
  | ok answer =>
      rw [parsed] at known
      cases answer with
      | ok value => cases known
      | error error =>
          exact ⟨rules_within_library, library, steady, error, rfl,
            Option.some.inj known, (speaks.2 steady error).1 parsed⟩

end OrderedChoice
