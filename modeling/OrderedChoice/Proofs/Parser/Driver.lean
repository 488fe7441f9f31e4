import OrderedChoice.Log
import OrderedChoice.Parser.Basic
import OrderedChoice.Proofs.Diagnostics.Merging

/-!
# The step driver

A body talks to its step driver in calls: it asks for steps, for the offset of
the next one and for whether one has failed.  What it calls next may depend on
all the answers it got, and it ends as it likes.  Which calls a body makes when
they are answered in some way is said without the driver, by `Steps.Makes`.

What the driver does with the calls is said without the body, by `Course`.  The
driver goes one way: steps run one behind the other until one fails, and from
then on every call is refused.  The main statement,
`Parser.generate_one_way`, is that every run of a body is such a course.
-/

namespace OrderedChoice

/-! ## Aggregating -/

namespace ParseResult

variable {α : Type}

@[simp] theorem aggregate_none (result : ParseResult α) :
    result.aggregate .none = result := by
  rw [aggregate, Diagnostics.merge_none]

@[simp] theorem aggregate_aggregate (result : ParseResult α)
    (recent prior : Diagnostics) :
    (result.aggregate recent).aggregate prior =
      result.aggregate (recent.merge prior) := by
  rw [aggregate, aggregate, aggregate, Diagnostics.merge_assoc]

@[simp] theorem aggregate_success (index : Nat) (value : α)
    (prior : Diagnostics) :
    (success index value).aggregate prior =
      ⟨.success index value, prior⟩ := by
  rw [aggregate, success, Diagnostics.none_merge]

theorem map_aggregate_none (answer : Except Abort (ParseResult α)) :
    answer.map (·.aggregate .none) = answer := by
  cases answer with
  | error abort => rfl
  | ok result => simp [Except.map]

theorem map_aggregate_aggregate (answer : Except Abort (ParseResult α))
    (recent prior : Diagnostics) :
    (answer.map (·.aggregate recent)).map (·.aggregate prior) =
      answer.map (·.aggregate (recent.merge prior)) := by
  cases answer with
  | error abort => rfl
  | ok result => simp [Except.map]

end ParseResult

/-! ## Calls -/

/-- A call of a body to its step driver, with what came of it. -/
inductive DriverCall (R : Type → Type) : Type 1 where
  /-- A step for which a parser was run from an offset. -/
  | ran {β : Type} (parser : Parser R β) (start : Nat) (run : Run β)
  /-- A step that got no value, its parser not being run. -/
  | refused {β : Type} (parser : Parser R β)
  /-- The offset of the next step was asked for. -/
  | index (answer : Option Nat)
  /-- Whether a step had failed was asked for. -/
  | halted (answer : Bool)
  /-- Steps of a driver of their own were made meanwhile. -/
  | aside (trace : Trace)

/--
A body makes these calls when they are answered like this, and ends with a
value, with none, or where a step did not come to a result.  A step gives the
body the value of its parser's success, and none otherwise.
-/
inductive Steps.Makes {R : Type → Type} {α : Type} :
    Steps R α → List (DriverCall R) → Except Abort (Option α) → Prop where
  | done (value : α) : Makes (.done value) [] (.ok (some value))
  | halt : Makes .halt [] (.ok none)
  | ran {β : Type} {parser : Parser R β} {next : Option β → Steps R α}
      (start : Nat) {run : Run β} {result : ParseResult β}
      {calls : List (DriverCall R)} {ending : Except Abort (Option α)}
      (answered : run.answer = .ok result)
      (rest : Makes (next result.value?) calls ending) :
      Makes (.step parser next) (.ran parser start run :: calls) ending
  | cut {β : Type} {parser : Parser R β} {next : Option β → Steps R α}
      (start : Nat) {run : Run β} {abort : Abort}
      (stopped : run.answer = .error abort) :
      Makes (.step parser next) [.ran parser start run] (.error abort)
  | refused {β : Type} {parser : Parser R β} {next : Option β → Steps R α}
      {calls : List (DriverCall R)} {ending : Except Abort (Option α)}
      (rest : Makes (next none) calls ending) :
      Makes (.step parser next) (.refused parser :: calls) ending
  | index {next : Option Nat → Steps R α} {answer : Option Nat}
      {calls : List (DriverCall R)} {ending : Except Abort (Option α)}
      (rest : Makes (next answer) calls ending) :
      Makes (.index next) (.index answer :: calls) ending
  | halted {next : Bool → Steps R α} {answer : Bool}
      {calls : List (DriverCall R)} {ending : Except Abort (Option α)}
      (rest : Makes (next answer) calls ending) :
      Makes (.halted next) (.halted answer :: calls) ending
  | aside (trace : Trace) {next : Steps R α}
      {calls : List (DriverCall R)} {ending : Except Abort (Option α)}
      (rest : Makes next calls ending) :
      Makes (.aside trace next) (.aside trace :: calls) ending

namespace DriverCall

variable {R : Type → Type}

/-- The diagnostics that a step left, if its parser ran. -/
def diagnostics? : DriverCall R → Option Diagnostics
  | .ran _ _ run => run.answer.toOption.map (·.diagnostics)
  | _ => none

/-- The merged diagnostics of the steps that ran. -/
def gathered (calls : List (DriverCall R)) : Diagnostics :=
  .mergeAll (calls.filterMap diagnostics?)

/-- What a call gets from a driver that has halted: no step is run, there is no
offset, and a step has failed. -/
def Refused : DriverCall R → Prop
  | .ran _ _ _ => False
  | .refused _ => True
  | .index answer => answer = none
  | .halted answer => answer = true
  | .aside _ => True

/-- The records that the driver itself leaves of a call. -/
def ownRecords : DriverCall R → List LogRecord
  | .ran _ start run =>
    match run.answer with
    | .error _ => []
    | .ok result =>
      match result.outcome with
      | .success stop _ => [.step start stop]
      | .failure => [.stepFailed start]
  | _ => []

/-- All records that a call leaves: those of what was run for it come before
those of the driver. -/
def records : DriverCall R → List LogRecord
  | .ran parser start run =>
    LogRecord.ofTrace run.trace ++ ownRecords (.ran parser start run)
  | .aside trace => LogRecord.ofTrace trace
  | _ => []

theorem ownRecords_of_refused {call : DriverCall R} (refused : call.Refused) :
    call.ownRecords = [] := by
  cases call with
  | ran parser start run => cases refused
  | refused parser => rfl
  | index answer => rfl
  | halted answer => rfl
  | aside trace => rfl

theorem diagnostics?_of_refused {call : DriverCall R}
    (refused : call.Refused) : call.diagnostics? = none := by
  cases call with
  | ran parser start run => cases refused
  | refused parser => rfl
  | index answer => rfl
  | halted answer => rfl
  | aside trace => rfl

theorem gathered_of_refused {calls : List (DriverCall R)}
    (refused : ∀ call ∈ calls, call.Refused) : gathered calls = .none := by
  have nothing : calls.filterMap diagnostics? = [] :=
    List.filterMap_eq_nil_iff.mpr fun call member =>
      diagnostics?_of_refused (refused call member)
  rw [gathered, nothing, Diagnostics.mergeAll_nil]

theorem gathered_cons_of_none {call : DriverCall R}
    (silent : call.diagnostics? = none) (calls : List (DriverCall R)) :
    gathered (call :: calls) = gathered calls := by
  rw [gathered, List.filterMap_cons_none silent, gathered]

theorem gathered_cons_ran {β : Type} (parser : Parser R β) (start : Nat)
    {run : Run β} {result : ParseResult β} (answered : run.answer = .ok result)
    (calls : List (DriverCall R)) :
    gathered (.ran parser start run :: calls) =
      (gathered calls).merge result.diagnostics := by
  have known : diagnostics? (.ran parser start run) =
      some result.diagnostics := by
    rw [diagnostics?, answered]
    rfl
  rw [gathered, List.filterMap_cons_some known, Diagnostics.mergeAll_cons,
    gathered]

end DriverCall

/-! ## Courses -/

section

variable {R : Type → Type} {α : Type} {rules : Rules R} {fuel : Nat}
  {source : Source}

/--
A running driver goes through calls from one offset to another.  Each step is a
run of its parser from the offset that was reached, and succeeds; that offset is
the answer to who asks for it, and no step is said to have failed.
-/
inductive Advances (rules : Rules R) (fuel : Nat) (source : Source) :
    Nat → List (DriverCall R) → Nat → Prop where
  | nil (start : Nat) : Advances rules fuel source start [] start
  | ran {β : Type} {parser : Parser R β} {start middle stop : Nat} {value : β}
      {diagnostics : Diagnostics} {calls : List (DriverCall R)}
      (succeeds : (parser.run rules fuel source start).answer =
        .ok ⟨.success middle value, diagnostics⟩)
      (rest : Advances rules fuel source middle calls stop) :
      Advances rules fuel source start
        (.ran parser start (parser.run rules fuel source start) :: calls) stop
  | index {start stop : Nat} {calls : List (DriverCall R)}
      (rest : Advances rules fuel source start calls stop) :
      Advances rules fuel source start (.index (some start) :: calls) stop
  | halted {start stop : Nat} {calls : List (DriverCall R)}
      (rest : Advances rules fuel source start calls stop) :
      Advances rules fuel source start (.halted false :: calls) stop
  | aside {start stop : Nat} (trace : Trace) {calls : List (DriverCall R)}
      (rest : Advances rules fuel source start calls stop) :
      Advances rules fuel source start (.aside trace :: calls) stop

/-- The calls of a body that ends in some way, from an offset on, with the
answer of the whole. -/
inductive Course (rules : Rules R) (fuel : Nat) (source : Source)
    (start : Nat) : List (DriverCall R) → Except Abort (Option α) →
      Except Abort (ParseResult α) → Prop where
  /-- No step failed, and the body ended with a value. -/
  | finished {calls : List (DriverCall R)} {stop : Nat} (value : α)
      (advances : Advances rules fuel source start calls stop) :
      Course rules fuel source start calls (.ok (some value))
        (.ok ⟨.success stop value, DriverCall.gathered calls⟩)
  /-- No step failed, and the body gave up. -/
  | gaveUp {calls : List (DriverCall R)} {stop : Nat}
      (advances : Advances rules fuel source start calls stop) :
      Course rules fuel source start calls (.ok none)
        (.ok ⟨.failure, DriverCall.gathered calls⟩)
  /-- A step failed, and all later calls were refused.  How the body ended does
  not matter. -/
  | failed {before after : List (DriverCall R)} {index : Nat} {β : Type}
      {parser : Parser R β} {diagnostics : Diagnostics} (ending : Option α)
      (advances : Advances rules fuel source start before index)
      (fails : (parser.run rules fuel source index).answer =
        .ok ⟨.failure, diagnostics⟩)
      (refused : ∀ call ∈ after, call.Refused) :
      Course rules fuel source start
        (before ++
          .ran parser index (parser.run rules fuel source index) :: after)
        (.ok ending)
        (.ok ⟨.failure, DriverCall.gathered
          (before ++
            .ran parser index (parser.run rules fuel source index) :: after)⟩)
  /-- A step did not come to a result, and the run stopped there. -/
  | cut {before : List (DriverCall R)} {index : Nat} {β : Type}
      {parser : Parser R β} {abort : Abort}
      (advances : Advances rules fuel source start before index)
      (stopped : (parser.run rules fuel source index).answer = .error abort) :
      Course rules fuel source start
        (before ++ [.ran parser index (parser.run rules fuel source index)])
        (.error abort) (.error abort)

/-- A call that a running driver goes through can stand before any course from
where it leads. -/
theorem Course.prepend {call : DriverCall R} {start middle : Nat}
    {diagnostics : Diagnostics} {calls : List (DriverCall R)}
    {ending : Except Abort (Option α)} {answer : Except Abort (ParseResult α)}
    (advance : ∀ {calls : List (DriverCall R)} {stop : Nat},
      Advances rules fuel source middle calls stop →
        Advances rules fuel source start (call :: calls) stop)
    (gathers : ∀ calls, DriverCall.gathered (call :: calls) =
      (DriverCall.gathered calls).merge diagnostics)
    (course : Course rules fuel source middle calls ending answer) :
    Course rules fuel source start (call :: calls) ending
      (answer.map (·.aggregate diagnostics)) := by
  cases course with
  | finished value advances =>
      have longer := Course.finished value (advance advances)
      rwa [gathers] at longer
  | gaveUp advances =>
      have longer : Course (α := α) rules fuel source start _ _ _ :=
        .gaveUp (advance advances)
      rwa [gathers] at longer
  | failed ending advances fails refused =>
      have longer := Course.failed ending (advance advances) fails refused
      rwa [List.cons_append, gathers] at longer
  | cut advances stopped => exact .cut (advance advances) stopped

/-- A call that says nothing of failures leaves the answer of a course. -/
theorem Course.prepend_silent {call : DriverCall R} {start : Nat}
    {calls : List (DriverCall R)} {ending : Except Abort (Option α)}
    {answer : Except Abort (ParseResult α)}
    (advance : ∀ {calls : List (DriverCall R)} {stop : Nat},
      Advances rules fuel source start calls stop →
        Advances rules fuel source start (call :: calls) stop)
    (silent : call.diagnostics? = none)
    (course : Course rules fuel source start calls ending answer) :
    Course rules fuel source start (call :: calls) ending answer := by
  have longer := course.prepend advance fun calls =>
    (DriverCall.gathered_cons_of_none silent calls).trans
      (Diagnostics.merge_none _).symm
  rwa [ParseResult.map_aggregate_none] at longer

/-! ## Records -/

namespace LogRecord

@[simp] theorem ofTrace_empty : ofTrace ∅ = [] := rfl

@[simp] theorem ofTrace_step (start stop : Nat) :
    ofTrace (.single (.step start stop)) = [.step start stop] := rfl

@[simp] theorem ofTrace_stepFailed (start : Nat) :
    ofTrace (.single (.stepFailed start)) = [.stepFailed start] := rfl

@[simp] theorem ofTrace_append (first second : Trace) :
    ofTrace (first ++ second) = ofTrace first ++ ofTrace second := by
  rw [ofTrace, Trace.toList_append, List.filterMap_append]
  rfl

/-- Steps alone leave the records of all events. -/
@[simp] theorem ofTrace_steps (trace : Trace) :
    ofTrace trace.steps = ofTrace trace := by
  induction trace with
  | empty => rfl
  | single event =>
      cases event with
      | attempt diagnostics => rfl
      | step start stop => rfl
      | stepFailed start => rfl
  | append first second firstStep secondStep =>
      have split : (Trace.append first second).steps =
          first.steps ++ second.steps := rfl
      have whole : Trace.append first second = first ++ second := rfl
      rw [split, whole, ofTrace_append, ofTrace_append, firstStep, secondStep]

/-- Records of steps in a row with the texts that they are logged with: each
step starts where the one before it stopped, the first one at an offset, and
none comes after a failed one. -/
inductive Chained : Nat → List LogRecord → List String → Prop where
  | nil (start : Nat) : Chained start [] []
  | step {start stop : Nat} {later : List LogRecord} {texts : List String}
      (rest : Chained stop later texts) :
      Chained start (.step start stop :: later)
        (("generate step " ++ toString start ++ ".." ++ toString stop) ::
          texts)
  | failed (start : Nat) :
      Chained start [.stepFailed start]
        ["generate step failed at " ++ toString start]

/-- Records of steps in a row, logged with their own messages. -/
def MessagesChained (start : Nat) (records : List LogRecord) : Prop :=
  Chained start records (records.map message)

end LogRecord

theorem DriverCall.ownRecords_ran_success {β : Type} (parser : Parser R β)
    (start : Nat) {run : Run β} {stop : Nat} {value : β}
    {diagnostics : Diagnostics}
    (succeeds : run.answer = .ok ⟨.success stop value, diagnostics⟩) :
    ownRecords (.ran parser start run) = [.step start stop] := by
  rw [ownRecords, succeeds]

theorem DriverCall.ownRecords_ran_failure {β : Type} (parser : Parser R β)
    (start : Nat) {run : Run β} {diagnostics : Diagnostics}
    (fails : run.answer = .ok ⟨.failure, diagnostics⟩) :
    ownRecords (.ran parser start run) = [.stepFailed start] := by
  rw [ownRecords, fails]

theorem DriverCall.ownRecords_ran_error {β : Type} (parser : Parser R β)
    (start : Nat) {run : Run β} {abort : Abort}
    (stopped : run.answer = .error abort) :
    ownRecords (.ran parser start run) = [] := by
  rw [ownRecords, stopped]

theorem Advances.chained {start stop : Nat} {calls : List (DriverCall R)}
    (advances : Advances rules fuel source start calls stop)
    {later : List LogRecord} (rest : LogRecord.MessagesChained stop later) :
    LogRecord.MessagesChained start
      (calls.flatMap DriverCall.ownRecords ++ later) := by
  induction advances with
  | nil start => exact rest
  | ran succeeds _ inductiveStep =>
      rw [List.flatMap_cons,
        DriverCall.ownRecords_ran_success _ _ succeeds]
      exact .step (inductiveStep rest)
  | index _ inductiveStep => exact inductiveStep rest
  | halted _ inductiveStep => exact inductiveStep rest
  | aside trace _ inductiveStep => exact inductiveStep rest

theorem Course.chained {start : Nat} {calls : List (DriverCall R)}
    {ending : Except Abort (Option α)} {answer : Except Abort (ParseResult α)}
    (course : Course rules fuel source start calls ending answer) :
    LogRecord.MessagesChained start
      (calls.flatMap DriverCall.ownRecords) := by
  cases course with
  | finished value advances => simpa using advances.chained (.nil _)
  | gaveUp advances => simpa using advances.chained (.nil _)
  | failed ending advances fails refused =>
      rename_i before after index β parser diagnostics
      have nothing : after.flatMap DriverCall.ownRecords = [] :=
        List.flatMap_eq_nil_iff.mpr fun call member =>
          DriverCall.ownRecords_of_refused (refused call member)
      rw [List.flatMap_append, List.flatMap_cons, nothing,
        DriverCall.ownRecords_ran_failure _ _ fails]
      exact advances.chained (.failed index)
  | cut advances stopped =>
      rw [List.flatMap_append, List.flatMap_singleton,
        DriverCall.ownRecords_ran_error _ _ stopped]
      exact advances.chained (.nil _)

/-! ## Runs of bodies -/

/-- A driver that has halted refuses every call and keeps its diagnostics. -/
theorem Steps.exists_refused :
    ∀ {α : Type} (body : Steps R α), ∃ calls ending,
      body.Makes calls (.ok ending) ∧ (∀ call ∈ calls, call.Refused) ∧
      ∀ (context : Diagnostics) (trace : Trace),
        let run := body.drive source (rules.enter source fuel) fuel
          (.halted context) trace
        run.answer = .ok (.failed context) ∧
        LogRecord.ofTrace run.trace =
          LogRecord.ofTrace trace ++ calls.flatMap DriverCall.records
  | _, .done value => by
      refine ⟨[], _, .done value, by simp, fun context trace => ?_⟩
      rw [Steps.drive]
      exact ⟨rfl, by simp⟩
  | _, .halt => by
      refine ⟨[], _, .halt, by simp, fun context trace => ?_⟩
      rw [Steps.drive]
      exact ⟨rfl, by simp⟩
  | _, .step parser next => by
      rcases (next none).exists_refused with
        ⟨calls, ending, makes, refused, drives⟩
      refine ⟨.refused parser :: calls, ending, .refused makes,
        List.forall_mem_cons.mpr ⟨trivial, refused⟩, fun context trace => ?_⟩
      rw [Steps.drive]
      exact drives context trace
  | _, .index next => by
      rcases (next none).exists_refused with
        ⟨calls, ending, makes, refused, drives⟩
      refine ⟨.index none :: calls, ending, .index makes,
        List.forall_mem_cons.mpr ⟨rfl, refused⟩, fun context trace => ?_⟩
      rw [Steps.drive]
      exact drives context trace
  | _, .halted next => by
      rcases (next true).exists_refused with
        ⟨calls, ending, makes, refused, drives⟩
      refine ⟨.halted true :: calls, ending, .halted makes,
        List.forall_mem_cons.mpr ⟨rfl, refused⟩, fun context trace => ?_⟩
      rw [Steps.drive]
      exact drives context trace
  | _, .aside run next => by
      rcases next.exists_refused with ⟨calls, ending, makes, refused, drives⟩
      refine ⟨.aside run :: calls, ending, .aside run makes,
        List.forall_mem_cons.mpr ⟨trivial, refused⟩, fun context trace => ?_⟩
      rw [Steps.drive]
      rcases drives context (trace ++ run.steps) with ⟨answer, records⟩
      refine ⟨answer, ?_⟩
      rw [records, LogRecord.ofTrace_append, LogRecord.ofTrace_steps,
        List.flatMap_cons, List.append_assoc]
      rfl

/-- A running driver goes through the calls of a body on a course, and adds what
it gathers to the diagnostics that it had. -/
theorem Steps.exists_course :
    ∀ {α : Type} (body : Steps R α) (start : Nat), ∃ calls ending answer,
      body.Makes calls ending ∧
      Course rules fuel source start calls ending answer ∧
      ∀ (context : Diagnostics) (trace : Trace),
        let run := body.drive source (rules.enter source fuel) fuel
          (.running start context) trace
        run.answer = answer.map (·.aggregate context) ∧
        LogRecord.ofTrace run.trace =
          LogRecord.ofTrace trace ++ calls.flatMap DriverCall.records
  | _, .done value, start => by
      refine ⟨[], _, _, .done value, .finished value (.nil start),
        fun context trace => ?_⟩
      rw [Steps.drive, DriverState.finish, ParseResult.aggregate_success]
      simp [Except.map, DriverCall.gathered, ParseResult.aggregate]
  | _, .halt, start => by
      refine ⟨[], _, _, .halt, .gaveUp (.nil start), fun context trace => ?_⟩
      rw [Steps.drive, DriverState.finish, ParseResult.failed]
      simp [Except.map, DriverCall.gathered, ParseResult.aggregate]
  | _, .index next, start => by
      rcases (next (some start)).exists_course start with
        ⟨calls, ending, answer, makes, course, drives⟩
      refine ⟨_, ending, answer, .index makes,
        course.prepend_silent .index rfl, fun context trace => ?_⟩
      rw [Steps.drive]
      exact drives context trace
  | _, .halted next, start => by
      rcases (next false).exists_course start with
        ⟨calls, ending, answer, makes, course, drives⟩
      refine ⟨_, ending, answer, .halted makes,
        course.prepend_silent .halted rfl, fun context trace => ?_⟩
      rw [Steps.drive]
      exact drives context trace
  | _, .aside run next, start => by
      rcases next.exists_course start with
        ⟨calls, ending, answer, makes, course, drives⟩
      refine ⟨_, ending, answer, .aside run makes,
        course.prepend_silent (.aside run) rfl, fun context trace => ?_⟩
      rw [Steps.drive]
      rcases drives context (trace ++ run.steps) with ⟨answered, records⟩
      refine ⟨answered, ?_⟩
      rw [records, LogRecord.ofTrace_append, LogRecord.ofTrace_steps,
        List.flatMap_cons, List.append_assoc]
      rfl
  | _, .step parser next, start => by
      have asRun : parser.attempt source (rules.enter source fuel) fuel start =
          parser.run rules fuel source start := rfl
      cases answered : (parser.run rules fuel source start).answer with
      | error abort =>
          refine ⟨_, _, _, .cut start answered, .cut (.nil start) answered,
            fun context trace => ?_⟩
          rw [Steps.drive, asRun, answered]
          refine ⟨rfl, ?_⟩
          simp [DriverCall.records,
            DriverCall.ownRecords_ran_error parser start answered]
      | ok result =>
          rcases result with ⟨outcome, diagnostics⟩
          cases outcome with
          | success stop value =>
              rcases (next (some value)).exists_course stop with
                ⟨calls, ending, answer, makes, course, drives⟩
              refine ⟨_, ending, _, .ran start answered makes,
                course.prepend (.ran answered)
                  (DriverCall.gathered_cons_ran parser start answered),
                fun context trace => ?_⟩
              rw [Steps.drive, asRun, answered]
              rcases drives (diagnostics.merge context)
                (trace ++ (parser.run rules fuel source start).trace ++
                  .single (.step start stop)) with ⟨rest, records⟩
              refine ⟨?_, records.trans ?_⟩
              · rw [ParseResult.map_aggregate_aggregate]
                exact rest
              · simp [DriverCall.records,
                  DriverCall.ownRecords_ran_success parser start answered]
          | failure =>
              rcases (next none).exists_refused with
                ⟨calls, ending, makes, refused, drives⟩
              refine ⟨_, .ok ending, _, .ran start answered makes,
                .failed ending (.nil start) answered refused,
                fun context trace => ?_⟩
              rw [Steps.drive, asRun, answered]
              rcases drives (diagnostics.merge context)
                (trace ++ (parser.run rules fuel source start).trace ++
                  .single (.stepFailed start)) with ⟨rest, records⟩
              refine ⟨rest.trans ?_, records.trans ?_⟩
              · rw [List.nil_append,
                  DriverCall.gathered_cons_ran parser start answered,
                  DriverCall.gathered_of_refused refused,
                  Diagnostics.none_merge]
                rfl
              · simp [DriverCall.records,
                  DriverCall.ownRecords_ran_failure parser start answered]

/-- Driving a body adds what it reports to the diagnostics from before. -/
theorem Steps.answer_drive_running (body : Steps R α) (start : Nat)
    (context : Diagnostics) (trace : Trace) :
    (body.drive source (rules.enter source fuel) fuel (.running start context)
      trace).answer =
      ((Parser.generate body).run rules fuel source start).answer.map
        (·.aggregate context) := by
  rcases body.exists_course start with ⟨_, _, answer, _, _, drives⟩
  rw [(drives context trace).1, Parser.run, Parser.attempt, (drives _ _).1,
    ParseResult.map_aggregate_none]

end

/--
A driver goes one way.  Every run of a body from an offset is a course of the
calls that the body makes when it is answered so: its steps run one behind the
other, the first at the offset and each from where the one before it succeeded,
and after one that fails every call is refused and the whole fails, however the
body ends.  The diagnostics are those of the steps that ran, merged.  The log
holds the records of each call in turn, and those of the driver itself form one
chain of steps, each with the text that says where it started and stopped.
-/
theorem Parser.generate_one_way {R : Type → Type} {α : Type} (rules : Rules R)
    (fuel : Nat) (source : Source) (index : Nat) (body : Steps R α) :
    ∃ calls ending,
      let run := (Parser.generate body).run rules fuel source index
      body.Makes calls ending ∧
      Course rules fuel source index calls ending run.answer ∧
      LogRecord.ofTrace run.trace = calls.flatMap DriverCall.records ∧
      LogRecord.Chained index (calls.flatMap DriverCall.ownRecords)
        ((calls.flatMap DriverCall.ownRecords).map LogRecord.message) := by
  rcases body.exists_course index with
    ⟨calls, ending, answer, makes, course, drives⟩
  refine ⟨calls, ending, makes, ?_⟩
  rw [Parser.run, Parser.attempt]
  rcases drives .none ∅ with ⟨answered, records⟩
  rw [answered, ParseResult.map_aggregate_none]
  exact ⟨course, records, course.chained⟩

end OrderedChoice
