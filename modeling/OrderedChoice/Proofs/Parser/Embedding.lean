import OrderedChoice.Proofs.Parser.Fuel

/-!
# Embedding

A parser with places left open is a parser whose rules are those places.
Filling them embeds other parsers in it, under binders and in the bodies of
steps too.  Parts that run the same are interchangeable wherever they are
embedded, and so in particular are a reference and what it stands for.
-/

namespace OrderedChoice

/-! ## Filling places -/

mutual

/-- Put parsers in the places of another. -/
def Parser.fill {H R : Type → Type} (parts : ∀ {α : Type}, H α → Parser R α) :
    ∀ {α : Type}, Parser H α → Parser R α
  | _, .leaf primitive => .leaf primitive
  | _, .ref place => parts place
  | _, .bind first next =>
    .bind (first.fill parts) fun value => (next value).fill parts
  | _, .map f parser => .map f (parser.fill parts)
  | _, .both first second => .both (first.fill parts) (second.fill parts)
  | _, .orElse first second => .orElse (first.fill parts) (second.fill parts)
  | _, .times item min max => .times (item.fill parts) min max
  | _, .repeatUntil item terminator min max keep =>
    .repeatUntil (item.fill parts) (terminator.fill parts) min max keep
  | _, .peek parser => .peek (parser.fill parts)
  | _, .shouldFail parser description =>
    .shouldFail (parser.fill parts) description
  | _, .describe parser description => .describe (parser.fill parts) description
  | _, .generate body => .generate (body.fill parts)

/-- Put parsers in the places of a body. -/
def Steps.fill {H R : Type → Type} (parts : ∀ {α : Type}, H α → Parser R α) :
    ∀ {α : Type}, Steps H α → Steps R α
  | _, .done value => .done value
  | _, .halt => .halt
  | _, .step parser next =>
    .step (parser.fill parts) fun value => (next value).fill parts
  | _, .index next => .index fun answer => (next answer).fill parts
  | _, .halted next => .halted fun answer => (next answer).fill parts
  | _, .aside trace next => .aside trace (next.fill parts)

end

/-! ## Runs of filled parsers -/

section

variable {H R : Type → Type} (source : Source) (calls : Calls R) (turns : Nat)
  (parts : ∀ {α : Type}, H α → Parser R α)

mutual

/-- A filled parser does what the parser with places does, where these do what
they are filled with. -/
theorem Parser.attempt_fill : ∀ {α : Type} (parser : Parser H α),
    (parser.fill parts).attempt source calls turns =
      parser.attempt source
        (fun place => (parts place).attempt source calls turns) turns
  | _, .leaf primitive => by
      rw [Parser.fill, Parser.attempt, Parser.attempt]
  | _, .ref place => by rw [Parser.fill, Parser.attempt]
  | _, .bind first next => by
      rw [Parser.fill, Parser.attempt, Parser.attempt, first.attempt_fill]
      exact congrArg _ (funext fun value => (next value).attempt_fill)
  | _, .map f parser => by
      rw [Parser.fill, Parser.attempt, Parser.attempt, parser.attempt_fill]
  | _, .both first second => by
      rw [Parser.fill, Parser.attempt, Parser.attempt, first.attempt_fill,
        second.attempt_fill]
  | _, .orElse first second => by
      rw [Parser.fill, Parser.attempt, Parser.attempt, first.attempt_fill,
        second.attempt_fill]
  | _, .times item min max => by
      rw [Parser.fill, Parser.attempt, Parser.attempt, item.attempt_fill]
  | _, .repeatUntil item terminator min max keep => by
      rw [Parser.fill, Parser.attempt, Parser.attempt, item.attempt_fill,
        terminator.attempt_fill]
  | _, .peek parser => by
      rw [Parser.fill, Parser.attempt, Parser.attempt, parser.attempt_fill]
  | _, .shouldFail parser description => by
      rw [Parser.fill, Parser.attempt, Parser.attempt, parser.attempt_fill]
  | _, .describe parser description => by
      rw [Parser.fill, Parser.attempt, Parser.attempt, parser.attempt_fill]
  | _, .generate body => by
      rw [Parser.fill, Parser.attempt, Parser.attempt]
      exact funext fun index => body.drive_fill (.running index .none) ∅

/-- A filled body does what the body with places does. -/
theorem Steps.drive_fill : ∀ {α : Type} (body : Steps H α)
    (state : DriverState) (trace : Trace),
    (body.fill parts).drive source calls turns state trace =
      body.drive source
        (fun place => (parts place).attempt source calls turns) turns state
        trace
  | _, .done value, state, trace => by
      rw [Steps.fill, Steps.drive, Steps.drive]
  | _, .halt, state, trace => by
      rw [Steps.fill, Steps.drive, Steps.drive]
  | _, .index next, state, trace => by
      rw [Steps.fill, Steps.drive, Steps.drive, (next _).drive_fill]
  | _, .halted next, state, trace => by
      rw [Steps.fill, Steps.drive, Steps.drive, (next _).drive_fill]
  | _, .aside run next, state, trace => by
      rw [Steps.fill, Steps.drive, Steps.drive, next.drive_fill]
  | _, .step parser next, .halted context, trace => by
      rw [Steps.fill, Steps.drive, Steps.drive]
      exact (next none).drive_fill (.halted context) trace
  | _, .step parser next, .running index context, trace => by
      rw [Steps.fill, Steps.drive, Steps.drive, parser.attempt_fill]
      simp only [(next none).drive_fill,
        fun value => (next (some value)).drive_fill]

end

end

/-! ## Parsers that run the same -/

namespace Parser

variable {H R : Type → Type} {α : Type} {rules : Rules R}

/-- Two parsers run the same: what a run of one ends with, for whatever reason
and after whatever events, a run of the other ends with. -/
def SameRuns (rules : Rules R) (first second : Parser R α) : Prop :=
  ∀ (source : Source) (index : Nat) (run : Run α),
    run.answer ≠ .error .exhausted →
      ((∃ fuel, first.run rules fuel source index = run) ↔
        ∃ fuel, second.run rules fuel source index = run)

/-- Runs of a parser settle to those of another with so much fuel more. -/
def SettlesWithin (rules : Rules R) (slack : Nat) (first second : Parser R α) :
    Prop :=
  ∀ (source : Source) (fuel : Nat),
    Attempt.SettlesTo (first.run rules fuel source)
      (second.run rules (fuel + slack) source)

theorem SettlesWithin.refl (slack : Nat) (parser : Parser R α) :
    SettlesWithin rules slack parser parser := fun source _ =>
  parser.settles_run rules source (Nat.le_add_right _ _)

/-- A reference runs like what it stands for, with one more for entering it. -/
theorem run_ref_succ {rule : R α} {parser : Parser R α}
    (defined : rules.definition rule = some parser) (fuel : Nat)
    (source : Source) :
    (Parser.ref rule).run rules (fuel + 1) source =
      parser.run rules fuel source := by
  rw [run, attempt, Rules.enter, defined]
  rfl

theorem settlesWithin_ref {rule : R α} {parser : Parser R α}
    (defined : rules.definition rule = some parser) :
    SettlesWithin rules 1 parser (.ref rule) := by
  intro source fuel index
  rw [run_ref_succ defined]
  exact .refl _

theorem ref_settlesWithin {rule : R α} {parser : Parser R α}
    (defined : rules.definition rule = some parser) :
    SettlesWithin rules 1 (.ref rule) parser := by
  intro source fuel index
  cases fuel with
  | zero => exact .of_exhausted rfl
  | succ fuel =>
      rw [run_ref_succ defined]
      exact parser.settles_run rules source (by omega) index

/-- What settles in every place settles in all of them at once. -/
theorem SettlesWithin.fill {slack : Nat}
    {first second : ∀ {α : Type}, H α → Parser R α}
    (settle : ∀ {α : Type} (place : H α),
      SettlesWithin rules slack (first place) (second place))
    (context : Parser H α) :
    SettlesWithin rules slack (context.fill first) (context.fill second) := by
  intro source fuel
  rw [run, run, attempt_fill, attempt_fill]
  exact context.settles_attempt (fun place => settle place source fuel)
    (Nat.le_add_right _ _)

theorem SettlesWithin.exists_run {slack fuel : Nat} {first second : Parser R α}
    (settles : SettlesWithin rules slack first second) {source : Source}
    {index : Nat} {run : Run α} (ended : run.answer ≠ .error .exhausted)
    (ran : first.run rules fuel source index = run) :
    ∃ fuel, second.run rules fuel source index = run := by
  subst ran
  exact ⟨fuel + slack, settles source fuel index ended⟩

theorem sameRuns_of_settlesWithin {slack : Nat} {first second : Parser R α}
    (forth : SettlesWithin rules slack first second)
    (back : SettlesWithin rules slack second first) :
    SameRuns rules first second := fun _ _ _ ended =>
  ⟨fun ⟨_, ran⟩ => forth.exists_run ended ran,
    fun ⟨_, ran⟩ => back.exists_run ended ran⟩

/-- Parsers that can stand for each other: the same, or a reference and what it
stands for. -/
inductive Exchangeable (rules : Rules R) :
    ∀ {α : Type}, Parser R α → Parser R α → Prop where
  | same {α : Type} (parser : Parser R α) : Exchangeable rules parser parser
  | unfold {α : Type} {rule : R α} {parser : Parser R α}
      (defined : rules.definition rule = some parser) :
      Exchangeable rules (.ref rule) parser
  | fold {α : Type} {rule : R α} {parser : Parser R α}
      (defined : rules.definition rule = some parser) :
      Exchangeable rules parser (.ref rule)

theorem Exchangeable.symm {first second : Parser R α}
    (exchangeable : Exchangeable rules first second) :
    Exchangeable rules second first := by
  cases exchangeable with
  | same => exact .same _
  | unfold defined => exact .fold defined
  | fold defined => exact .unfold defined

theorem Exchangeable.settlesWithin {first second : Parser R α}
    (exchangeable : Exchangeable rules first second) :
    SettlesWithin rules 1 first second := by
  cases exchangeable with
  | same => exact .refl 1 _
  | unfold defined => exact ref_settlesWithin defined
  | fold defined => exact settlesWithin_ref defined

/-- References and what they stand for can be exchanged anywhere in a parser,
and it runs the same. -/
theorem sameRuns_fill {first second : ∀ {α : Type}, H α → Parser R α}
    (exchangeable : ∀ {α : Type} (place : H α),
      Exchangeable rules (first place) (second place))
    (context : Parser H α) :
    SameRuns rules (context.fill first) (context.fill second) :=
  sameRuns_of_settlesWithin
    (.fill (fun place => (exchangeable place).settlesWithin) context)
    (.fill (fun place => (exchangeable place).symm.settlesWithin) context)

end Parser

end OrderedChoice
