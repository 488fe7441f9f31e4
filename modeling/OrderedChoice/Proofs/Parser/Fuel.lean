import OrderedChoice.Parser.Basic

/-!
# More fuel

A run that was not cut short by its bound is the same run under any larger
bound: same answer, same events.  So what a parser gives does not depend on the
fuel it is run with, as long as that is enough.
-/

namespace OrderedChoice

/-! ## Runs that settle -/

/-- A run, if it was not cut short, is also what a larger bound gives. -/
def Run.SettlesTo {α : Type} (run larger : Run α) : Prop :=
  run.answer ≠ .error .exhausted → larger = run

/-- Runs from every offset settle. -/
def Attempt.SettlesTo {α : Type} (attempt larger : Attempt α) : Prop :=
  ∀ index, (attempt index).SettlesTo (larger index)

namespace Run.SettlesTo

variable {α β : Type}

theorem refl (run : Run α) : run.SettlesTo run := fun _ => rfl

theorem of_exhausted {run larger : Run α}
    (exhausted : run.answer = .error .exhausted) : run.SettlesTo larger :=
  fun settled => absurd exhausted settled

/-- A run with a result was not cut short. -/
theorem eq_of_ok {run larger : Run α} (settles : run.SettlesTo larger)
    {result : ParseResult α} (answer : run.answer = .ok result) :
    larger = run :=
  settles (by rw [answer]; exact nofun)

/-- A run that stopped for another reason was not cut short. -/
theorem eq_of_error {run larger : Run α} (settles : run.SettlesTo larger)
    {abort : Abort} (answer : run.answer = .error abort)
    (otherwise : (.error abort : Except Abort (ParseResult β)) ≠
      .error .exhausted) :
    larger = run := by
  apply settles
  rw [answer]
  intro same
  cases same
  exact otherwise rfl

theorem andThen {first first' : Run α}
    {next next' : ParseResult α → Run β} (firstSettles : first.SettlesTo first')
    (nextSettles : ∀ result, (next result).SettlesTo (next' result)) :
    (first.andThen next).SettlesTo (first'.andThen next') := by
  intro settled
  rcases first with ⟨answer, trace⟩
  cases answer with
  | error abort =>
      rw [firstSettles.eq_of_error rfl settled]
      rfl
  | ok result =>
      rw [firstSettles.eq_of_ok rfl]
      have same := nextSettles result (by simpa [Run.andThen] using settled)
      simp [Run.andThen, same]

theorem mapResult {run larger : Run α}
    (change : ParseResult α → ParseResult β) (settles : run.SettlesTo larger) :
    (run.mapResult change).SettlesTo (larger.mapResult change) := by
  intro settled
  rw [settles]
  intro exhausted
  exact settled (by rw [Run.mapResult, exhausted]; rfl)

end Run.SettlesTo

/-! ## Combinators -/

namespace Attempt.SettlesTo

variable {α β : Type}

theorem bind {first first' : Attempt α} {next next' : α → Attempt β}
    (firstSettles : first.SettlesTo first')
    (nextSettles : ∀ value, (next value).SettlesTo (next' value)) :
    (first.bind next).SettlesTo (first'.bind next') := by
  intro index
  apply (firstSettles index).andThen
  intro result
  cases result.outcome with
  | success stop value => exact (nextSettles value stop).mapResult _
  | failure => exact .refl _

theorem map (f : α → β) {attempt larger : Attempt α}
    (settles : attempt.SettlesTo larger) :
    (attempt.map f).SettlesTo (larger.map f) := fun index =>
  (settles index).mapResult _

theorem both {first first' : Attempt α} {second second' : Attempt β}
    (firstSettles : first.SettlesTo first')
    (secondSettles : second.SettlesTo second') :
    (first.both second).SettlesTo (first'.both second') := by
  intro index
  apply (firstSettles index).andThen
  intro result
  cases result.outcome with
  | success stop value => exact (secondSettles stop).mapResult _
  | failure => exact .refl _

theorem orElse {first first' second second' : Attempt α}
    (firstSettles : first.SettlesTo first')
    (secondSettles : second.SettlesTo second') :
    (first.orElse second).SettlesTo (first'.orElse second') := by
  intro index
  apply (firstSettles index).andThen
  intro result
  cases result.isSuccess with
  | true => exact .refl _
  | false => exact (secondSettles index).mapResult _

theorem timesLoop {item item' : Attempt α} (settles : item.SettlesTo item')
    (min : Nat) (max : Option Nat) {turns turns' : Nat} (more : turns ≤ turns')
    (values : List α) (count : Nat) (context : Diagnostics) (trace : Trace)
    (index : Nat) :
    (Attempt.timesLoop item min max turns values count context trace
      index).SettlesTo
      (Attempt.timesLoop item' min max turns' values count context trace
        index) := by
  induction turns generalizing turns' values count context trace index with
  | zero =>
      intro settled
      rw [Attempt.timesLoop] at settled
      split at settled
      · rename_i reached
        cases turns' with
        | zero => rw [Attempt.timesLoop, Attempt.timesLoop, if_pos reached]
        | succ rest =>
            rw [Attempt.timesLoop, Attempt.timesLoop, if_pos reached,
              if_pos reached]
      · exact absurd rfl settled
  | succ turns inductiveStep =>
      intro settled
      rcases Nat.exists_eq_add_one_of_ne_zero (Nat.ne_zero_of_lt more)
        with ⟨turns', rfl⟩
      rw [Attempt.timesLoop] at settled
      rw [Attempt.timesLoop, Attempt.timesLoop]
      split at settled
      · rename_i reached
        rw [if_pos reached, if_pos reached]
      · rename_i notReached
        rw [if_neg notReached, if_neg notReached]
        have itemSettles := settles index
        cases answer : (item index).answer with
        | error abort =>
            simp only [answer] at settled
            rw [itemSettles.eq_of_error answer settled]
            simp only [answer]
        | ok result =>
            rw [itemSettles.eq_of_ok answer]
            simp only [answer] at settled ⊢
            cases outcome : result.outcome with
            | success next value =>
                simp only [outcome] at settled ⊢
                exact inductiveStep (by omega) _ _ _ _ _ settled
            | failure => rfl

theorem times {item item' : Attempt α} (settles : item.SettlesTo item')
    (min : Nat) (max : Option Nat) {turns turns' : Nat}
    (more : turns ≤ turns') :
    (item.times min max turns).SettlesTo (item'.times min max turns') :=
  fun index => timesLoop settles _ max more [] 0 .none ∅ index

theorem repeatUntilLoop {item item' : Attempt α}
    {terminator terminator' : Attempt β} (settles : item.SettlesTo item')
    (terminatorSettles : terminator.SettlesTo terminator')
    (min : Nat) (max : Option Nat) (keep : Option (β → α))
    {turns turns' : Nat} (more : turns ≤ turns') (values : List α)
    (count : Nat) (trace : Trace) (index : Nat) :
    (Attempt.repeatUntilLoop item terminator min max keep turns values count
      trace index).SettlesTo
      (Attempt.repeatUntilLoop item' terminator' min max keep turns' values
        count trace index) := by
  induction turns generalizing turns' values count trace index with
  | zero => exact .of_exhausted rfl
  | succ turns inductiveStep =>
      intro settled
      rcases Nat.exists_eq_add_one_of_ne_zero (Nat.ne_zero_of_lt more)
        with ⟨turns', rfl⟩
      rw [Attempt.repeatUntilLoop] at settled
      rw [Attempt.repeatUntilLoop, Attempt.repeatUntilLoop]
      have endingSettles := terminatorSettles index
      cases endingAnswer : (terminator index).answer with
      | error abort =>
          simp only [endingAnswer] at settled
          rw [endingSettles.eq_of_error endingAnswer settled]
          simp only [endingAnswer]
      | ok found =>
          rw [endingSettles.eq_of_ok endingAnswer]
          simp only [endingAnswer] at settled ⊢
          split at settled
          · rfl
          · split at settled
            · rfl
            · have itemSettles := settles index
              cases answer : (item index).answer with
              | error abort =>
                  simp only [answer] at settled
                  rw [itemSettles.eq_of_error answer settled]
                  simp only [answer]
              | ok result =>
                  rw [itemSettles.eq_of_ok answer]
                  simp only [answer] at settled ⊢
                  cases outcome : result.outcome with
                  | success next value =>
                      simp only [outcome] at settled ⊢
                      exact inductiveStep (by omega) _ _ _ _ settled
                  | failure => rfl

theorem repeatUntil {item item' : Attempt α}
    {terminator terminator' : Attempt β} (settles : item.SettlesTo item')
    (terminatorSettles : terminator.SettlesTo terminator')
    (min : Nat) (max : Option Nat) (keep : Option (β → α))
    {turns turns' : Nat} (more : turns ≤ turns') :
    (item.repeatUntil terminator min max keep turns).SettlesTo
      (item'.repeatUntil terminator' min max keep turns') :=
  fun index =>
    repeatUntilLoop settles terminatorSettles min max keep more [] 0 ∅ index

end Attempt.SettlesTo

/-! ## Parsers and bodies -/

section

variable {R : Type → Type} {source : Source} {calls calls' : Calls R}

mutual

/-- A parser settles, if the rules it refers to do. -/
theorem Parser.settles_attempt
    (callsSettle : ∀ {α : Type} (rule : R α),
      Attempt.SettlesTo (calls rule) (calls' rule))
    {turns turns' : Nat} (more : turns ≤ turns') :
    ∀ {α : Type} (parser : Parser R α),
      Attempt.SettlesTo (parser.attempt source calls turns)
        (parser.attempt source calls' turns')
  | _, .leaf primitive => fun index => by
      rw [Parser.attempt, Parser.attempt]
      exact .refl _
  | _, .ref rule => by
      rw [Parser.attempt, Parser.attempt]
      exact callsSettle rule
  | _, .bind first next => by
      rw [Parser.attempt, Parser.attempt]
      exact .bind (first.settles_attempt callsSettle more) fun value =>
        (next value).settles_attempt callsSettle more
  | _, .map f parser => by
      rw [Parser.attempt, Parser.attempt]
      exact .map f (parser.settles_attempt callsSettle more)
  | _, .both first second => by
      rw [Parser.attempt, Parser.attempt]
      exact .both (first.settles_attempt callsSettle more)
        (second.settles_attempt callsSettle more)
  | _, .orElse first second => by
      rw [Parser.attempt, Parser.attempt]
      exact .orElse (first.settles_attempt callsSettle more)
        (second.settles_attempt callsSettle more)
  | _, .times item min max => by
      rw [Parser.attempt, Parser.attempt]
      exact .times (item.settles_attempt callsSettle more) min max more
  | _, .repeatUntil item terminator min max keep => by
      rw [Parser.attempt, Parser.attempt]
      exact .repeatUntil (item.settles_attempt callsSettle more)
        (terminator.settles_attempt callsSettle more) min max keep more
  | _, .peek parser => fun index => by
      rw [Parser.attempt, Parser.attempt]
      exact (parser.settles_attempt callsSettle more index).mapResult _
  | _, .shouldFail parser description => fun index => by
      rw [Parser.attempt, Parser.attempt]
      exact (parser.settles_attempt callsSettle more index).mapResult _
  | _, .describe parser description => fun index => by
      rw [Parser.attempt, Parser.attempt]
      exact (parser.settles_attempt callsSettle more index).mapResult _
  | _, .generate body => fun index => by
      rw [Parser.attempt, Parser.attempt]
      exact body.settles_drive callsSettle more (.running index .none) ∅

/-- A body settles from every state of the driver. -/
theorem Steps.settles_drive
    (callsSettle : ∀ {α : Type} (rule : R α),
      Attempt.SettlesTo (calls rule) (calls' rule))
    {turns turns' : Nat} (more : turns ≤ turns') :
    ∀ {α : Type} (body : Steps R α) (state : DriverState) (trace : Trace),
      (body.drive source calls turns state trace).SettlesTo
        (body.drive source calls' turns' state trace)
  | _, .done value, state, trace => by
      rw [Steps.drive, Steps.drive]
      exact .refl _
  | _, .halt, state, trace => by
      rw [Steps.drive, Steps.drive]
      exact .refl _
  | _, .index next, state, trace => by
      rw [Steps.drive, Steps.drive]
      exact (next state.index?).settles_drive callsSettle more state trace
  | _, .halted next, state, trace => by
      rw [Steps.drive, Steps.drive]
      exact (next state.isHalted).settles_drive callsSettle more state trace
  | _, .aside run next, state, trace => by
      rw [Steps.drive, Steps.drive]
      exact next.settles_drive callsSettle more state (trace ++ run.steps)
  | _, .step parser next, .halted context, trace => by
      rw [Steps.drive, Steps.drive]
      exact (next none).settles_drive callsSettle more (.halted context) trace
  | _, .step parser next, .running index context, trace => by
      intro settled
      rw [Steps.drive] at settled
      rw [Steps.drive, Steps.drive]
      have stepSettles := parser.settles_attempt callsSettle more index
      cases answer : (parser.attempt source calls turns index).answer with
      | error abort =>
          simp only [answer] at settled
          rw [stepSettles.eq_of_error answer settled]
          simp only [answer]
      | ok result =>
          rw [stepSettles.eq_of_ok answer]
          simp only [answer] at settled ⊢
          cases outcome : result.outcome with
          | success after value =>
              simp only [outcome] at settled ⊢
              exact (next (some value)).settles_drive callsSettle more _ _
                settled
          | failure =>
              simp only [outcome] at settled ⊢
              exact (next none).settles_drive callsSettle more _ _ settled

end

end

/-! ## Rules and runs -/

theorem Rules.settles_enter {R : Type → Type} (rules : Rules R)
    (source : Source) {fuel fuel' : Nat} (more : fuel ≤ fuel') {α : Type}
    (rule : R α) :
    Attempt.SettlesTo (rules.enter source fuel rule)
      (rules.enter source fuel' rule) := by
  induction fuel generalizing fuel' α with
  | zero => exact fun index => .of_exhausted rfl
  | succ fuel inductiveStep =>
      rcases Nat.exists_eq_add_one_of_ne_zero (Nat.ne_zero_of_lt more)
        with ⟨fuel', rfl⟩
      rw [Rules.enter, Rules.enter]
      cases rules.definition rule with
      | none => exact fun index => .refl _
      | some parser =>
          exact parser.settles_attempt
            (fun rule => inductiveStep (by omega) rule) (by omega)

/-- A run that was not cut short is the same with more fuel. -/
theorem Parser.settles_run {R : Type → Type} {α : Type} (rules : Rules R)
    (parser : Parser R α) (source : Source) {fuel fuel' : Nat}
    (more : fuel ≤ fuel') :
    Attempt.SettlesTo (parser.run rules fuel source)
      (parser.run rules fuel' source) :=
  parser.settles_attempt (fun rule => rules.settles_enter source more rule)
    more

/-- A result stays the same with more fuel. -/
theorem Parser.run_eq_ok_of_le {R : Type → Type} {α : Type} {rules : Rules R}
    {parser : Parser R α} {source : Source} {fuel fuel' index : Nat}
    {result : ParseResult α} (more : fuel ≤ fuel')
    (ends : (parser.run rules fuel source index).answer = .ok result) :
    (parser.run rules fuel' source index).answer = .ok result := by
  rw [parser.settles_run rules source more index (by rw [ends]; simp), ends]

end OrderedChoice
