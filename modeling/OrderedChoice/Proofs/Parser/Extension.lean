import OrderedChoice.Proofs.Parser.Fuel

/-!
# More definitions

Rules can be given definitions that they lacked.  A run that came to a result
never asked for one of those, so it stays the same run, with the same answer and
the same events.

Nothing that a run does depends on why a part of it stopped without a result.  So
a run over fewer definitions can be taken for one that was cut short where it
came to a missing one, and such a run settles to what it would have been.
-/

namespace OrderedChoice

/-! ## Cutting short -/

/-- A run that stopped, for whatever reason, taken as cut short. -/
def Run.cut {α : Type} (run : Run α) : Run α :=
  ⟨run.answer.mapError fun _ => .exhausted, run.trace⟩

/-- Runs from every offset, taken as cut short where they stopped. -/
def Attempt.cut {α : Type} (attempt : Attempt α) : Attempt α := fun index =>
  (attempt index).cut

namespace Run

variable {α β : Type}

theorem cut_ok (result : ParseResult α) (trace : Trace) :
    (⟨.ok result, trace⟩ : Run α).cut = ⟨.ok result, trace⟩ := rfl

theorem cut_of_ok {run : Run α} {result : ParseResult α}
    (answered : run.answer = .ok result) : run.cut = run := by
  rcases run with ⟨answer, trace⟩
  cases answered
  rfl

theorem cut_andThen (first : Run α) (next : ParseResult α → Run β) :
    (first.andThen next).cut =
      first.cut.andThen fun result => (next result).cut := by
  rcases first with ⟨_ | result, trace⟩ <;> rfl

theorem cut_mapResult (change : ParseResult α → ParseResult β)
    (run : Run α) : (run.mapResult change).cut = run.cut.mapResult change := by
  rcases run with ⟨_ | result, trace⟩ <;> rfl

end Run

namespace Attempt

variable {α β : Type}

theorem cut_bind (first : Attempt α) (next : α → Attempt β) :
    (first.bind next).cut = first.cut.bind fun value => (next value).cut := by
  funext index
  rw [cut, bind, Run.cut_andThen]
  refine congrArg _ (funext fun result => ?_)
  cases result.outcome with
  | success stop value => exact Run.cut_mapResult _ _
  | failure => rfl

theorem cut_map (f : α → β) (attempt : Attempt α) :
    (attempt.map f).cut = attempt.cut.map f :=
  funext fun _ => Run.cut_mapResult _ _

theorem cut_both (first : Attempt α) (second : Attempt β) :
    (first.both second).cut = first.cut.both second.cut := by
  funext index
  rw [cut, both, Run.cut_andThen]
  refine congrArg _ (funext fun result => ?_)
  cases result.outcome with
  | success stop value => exact Run.cut_mapResult _ _
  | failure => rfl

theorem cut_orElse (first second : Attempt α) :
    (first.orElse second).cut = first.cut.orElse second.cut := by
  funext index
  rw [cut, orElse, Run.cut_andThen]
  refine congrArg _ (funext fun result => ?_)
  cases result.isSuccess with
  | true => rfl
  | false => exact Run.cut_mapResult _ _

theorem cut_timesLoop (item : Attempt α) (min : Nat) (max : Option Nat)
    (turns : Nat) (values : List α) (count : Nat) (context : Diagnostics)
    (trace : Trace) (index : Nat) :
    (timesLoop item min max turns values count context trace index).cut =
      timesLoop item.cut min max turns values count context trace index := by
  induction turns generalizing values count context trace index with
  | zero =>
      rw [timesLoop, timesLoop]
      split <;> rfl
  | succ turns inductiveStep =>
      rw [timesLoop, timesLoop]
      split
      · rfl
      rw [cut]
      rcases item index with ⟨_ | ⟨_ | _, recent⟩, events⟩
      · rfl
      · exact inductiveStep _ _ _ _ _
      · exact apply_ite Run.cut _ _ _

theorem cut_times (item : Attempt α) (min : Nat) (max : Option Nat)
    (turns : Nat) :
    (item.times min max turns).cut = item.cut.times min max turns :=
  funext fun _ => cut_timesLoop _ _ _ _ _ _ _ _ _

theorem cut_repeatUntilLoop (item : Attempt α) (terminator : Attempt β)
    (min : Nat) (max : Option Nat) (keep : Option (β → α)) (turns : Nat)
    (values : List α) (count : Nat) (trace : Trace) (index : Nat) :
    (repeatUntilLoop item terminator min max keep turns values count trace
      index).cut =
      repeatUntilLoop item.cut terminator.cut min max keep turns values count
        trace index := by
  induction turns generalizing values count trace index with
  | zero => rfl
  | succ turns inductiveStep =>
      have cutItem : item.cut index = (item index).cut := rfl
      have cutTerminator : terminator.cut index = (terminator index).cut := rfl
      rw [repeatUntilLoop, repeatUntilLoop, cutItem, cutTerminator]
      rcases terminator index with ⟨_ | found, ending⟩
      · rfl
      simp only [Run.cut_ok]
      -- The terminator ends the search, or there is no room, or an item is
      -- next.
      split
      · cases keep <;> rfl
      split
      · rfl
      rcases item index with ⟨_ | ⟨_ | _, recent⟩, events⟩
      · rfl
      · exact inductiveStep _ _ _ _
      · rfl

theorem cut_repeatUntil (item : Attempt α) (terminator : Attempt β)
    (min : Nat) (max : Option Nat) (keep : Option (β → α)) (turns : Nat) :
    (item.repeatUntil terminator min max keep turns).cut =
      item.cut.repeatUntil terminator.cut min max keep turns :=
  funext fun _ => cut_repeatUntilLoop _ _ _ _ _ _ _ _ _ _

end Attempt

/-! ## Parsers and bodies -/

section

variable {R : Type → Type} (source : Source) (calls : Calls R) (turns : Nat)

mutual

/-- A parser is cut short where the rules that it refers to are. -/
theorem Parser.cut_attempt : ∀ {α : Type} (parser : Parser R α),
    (parser.attempt source calls turns).cut =
      parser.attempt source (fun rule => (calls rule).cut) turns
  | _, .leaf primitive => by
      rw [Parser.attempt, Parser.attempt]
      rfl
  | _, .ref rule => by rw [Parser.attempt, Parser.attempt]
  | _, .bind first next => by
      rw [Parser.attempt, Parser.attempt, Attempt.cut_bind, first.cut_attempt]
      exact congrArg _ (funext fun value => (next value).cut_attempt)
  | _, .map f parser => by
      rw [Parser.attempt, Parser.attempt, Attempt.cut_map, parser.cut_attempt]
  | _, .both first second => by
      rw [Parser.attempt, Parser.attempt, Attempt.cut_both, first.cut_attempt,
        second.cut_attempt]
  | _, .orElse first second => by
      rw [Parser.attempt, Parser.attempt, Attempt.cut_orElse,
        first.cut_attempt, second.cut_attempt]
  | _, .times item min max => by
      rw [Parser.attempt, Parser.attempt, Attempt.cut_times, item.cut_attempt]
  | _, .repeatUntil item terminator min max keep => by
      rw [Parser.attempt, Parser.attempt, Attempt.cut_repeatUntil,
        item.cut_attempt, terminator.cut_attempt]
  | _, .peek parser => by
      rw [Parser.attempt, Parser.attempt, ← parser.cut_attempt]
      exact funext fun _ => Run.cut_mapResult _ _
  | _, .shouldFail parser description => by
      rw [Parser.attempt, Parser.attempt, ← parser.cut_attempt]
      exact funext fun _ => Run.cut_mapResult _ _
  | _, .describe parser description => by
      rw [Parser.attempt, Parser.attempt, ← parser.cut_attempt]
      exact funext fun _ => Run.cut_mapResult _ _
  | _, .generate body => by
      rw [Parser.attempt, Parser.attempt]
      exact funext fun index => body.cut_drive (.running index .none) ∅

/-- A body is cut short where the rules that its steps refer to are. -/
theorem Steps.cut_drive : ∀ {α : Type} (body : Steps R α)
    (state : DriverState) (trace : Trace),
    (body.drive source calls turns state trace).cut =
      body.drive source (fun rule => (calls rule).cut) turns state trace
  | _, .done value, state, trace => by
      rw [Steps.drive, Steps.drive]
      rfl
  | _, .halt, state, trace => by
      rw [Steps.drive, Steps.drive]
      rfl
  | _, .index next, state, trace => by
      rw [Steps.drive, Steps.drive, (next _).cut_drive]
  | _, .halted next, state, trace => by
      rw [Steps.drive, Steps.drive, (next _).cut_drive]
  | _, .aside run next, state, trace => by
      rw [Steps.drive, Steps.drive, next.cut_drive]
  | _, .step parser next, .halted context, trace => by
      rw [Steps.drive, Steps.drive]
      exact (next none).cut_drive (.halted context) trace
  | _, .step parser next, .running index context, trace => by
      rw [Steps.drive, Steps.drive, ← parser.cut_attempt, Attempt.cut]
      rcases parser.attempt source calls turns index with
        ⟨_ | ⟨_ | _, recent⟩, events⟩
      · rfl
      · exact (next (some _)).cut_drive _ _
      · exact (next none).cut_drive _ _

end

end

/-! ## Rules and runs -/

/-- Rules that stand for what others stand for, and perhaps more rules that stand
for something. -/
def Rules.Extends {R : Type → Type} (more rules : Rules R) : Prop :=
  ∀ {α : Type} (rule : R α) (parser : Parser R α),
    rules.definition rule = some parser → more.definition rule = some parser

section

variable {R : Type → Type} {rules more : Rules R} {α : Type}

theorem Rules.cut_enter_settles (extension : more.Extends rules)
    (source : Source) (fuel : Nat) (rule : R α) :
    (rules.enter source fuel rule).cut.SettlesTo
      (more.enter source fuel rule) := by
  induction fuel generalizing α with
  | zero => exact fun index => .of_exhausted rfl
  | succ fuel inductiveStep =>
      rw [Rules.enter, Rules.enter]
      cases definition : rules.definition rule with
      | none => exact fun index => .of_exhausted rfl
      | some parser =>
          simp only [extension rule parser definition]
          rw [Parser.cut_attempt]
          exact parser.settles_attempt inductiveStep (Nat.le_refl _)

/-- A run that came to a result is the same with more definitions. -/
theorem Parser.run_eq_of_extends (extension : more.Extends rules)
    {parser : Parser R α} {fuel : Nat} {source : Source} {index : Nat}
    {result : ParseResult α}
    (ended : (parser.run rules fuel source index).answer = .ok result) :
    parser.run more fuel source index = parser.run rules fuel source index := by
  have settles : (parser.run rules fuel source).cut.SettlesTo
      (parser.run more fuel source) := by
    rw [Parser.run, Parser.cut_attempt]
    exact parser.settles_attempt
      (fun rule => rules.cut_enter_settles extension source fuel rule)
      (Nat.le_refl _)
  have uncut := Run.cut_of_ok ended
  have same := settles index
  rw [Attempt.cut, uncut] at same
  exact same.eq_of_ok ended

end

end OrderedChoice
