import OrderedChoice.Parser.Primitive
import OrderedChoice.Run

/-!
# Parsers

A parser is a description: leaves, combinators over other parsers, and
references to rules.  A family of rules says for each type which rules with
values of that type there are; what a rule stands for is given from outside,
when the parser runs.  That way a grammar can be recursive while every parser
is a finite tree.

A run descends through the tree.  Following a reference and going round a loop
are bounded by fuel, since both can go on forever: a rule may refer to itself
without consuming anything, and a parser that consumes nothing can be repeated
without end.  A run that ends at all gives the same answer with any fuel that
is enough.
-/

namespace OrderedChoice

mutual

/-- A parser for values of a type, over a family of rules. -/
inductive Parser (R : Type → Type) : Type → Type 1 where
  /-- A leaf parser. -/
  | leaf {α : Type} (primitive : Primitive α) : Parser R α
  /-- Defer to a rule. -/
  | ref {α : Type} (rule : R α) : Parser R α
  /-- Run a parser, then the one that its value selects. -/
  | bind {α β : Type} (first : Parser R α) (next : α → Parser R β) :
      Parser R β
  /-- Apply a function to the value. -/
  | map {α β : Type} (f : α → β) (parser : Parser R α) : Parser R β
  /-- Run two parsers in sequence and pair their values. -/
  | both {α β : Type} (first : Parser R α) (second : Parser R β) :
      Parser R (α × β)
  /-- Try a parser, and where it fails another from the same offset. -/
  | orElse {α : Type} (first second : Parser R α) : Parser R α
  /-- Repeat greedily between two bounds, without giving matches back. -/
  | times {α : Type} (item : Parser R α) (min : Nat) (max : Option Nat) :
      Parser R (List α)
  /-- Repeat until a terminator succeeds; `keep` says what the terminator adds
  to the values if it is consumed. -/
  | repeatUntil {α β : Type} (item : Parser R α) (terminator : Parser R β)
      (min : Nat) (max : Option Nat) (keep : Option (β → α)) :
      Parser R (List α)
  /-- Run without consuming. -/
  | peek {α : Type} (parser : Parser R α) : Parser R α
  /-- Succeed, consuming nothing, only where the parser fails. -/
  | shouldFail {α : Type} (parser : Parser R α) (description : String) :
      Parser R (ParseResult α)
  /-- Report failures as one expectation at the start. -/
  | describe {α : Type} (parser : Parser R α) (description : String) :
      Parser R α
  /-- Run a body of steps. -/
  | generate {α : Type} (body : Steps R α) : Parser R α

/-- The body of a generated parser: steps chosen one after the other, each by
the values of those before it. -/
inductive Steps (R : Type → Type) : Type → Type 1 where
  /-- End with a value. -/
  | done {α : Type} (value : α) : Steps R α
  /-- Give up. -/
  | halt {α : Type} : Steps R α
  /-- Run a parser and go on with its value, or with none if it failed or an
  earlier step did. -/
  | step {α β : Type} (parser : Parser R β) (next : Option β → Steps R α) :
      Steps R α
  /-- Ask for the offset of the next step, of which there is none after a
  failed step. -/
  | index {α : Type} (next : Option Nat → Steps R α) : Steps R α
  /-- Ask whether a step has failed. -/
  | halted {α : Type} (next : Bool → Steps R α) : Steps R α
  /-- Leave the steps of a run that the body made aside, on a text of its
  own. -/
  | aside {α : Type} (trace : Trace) (next : Steps R α) : Steps R α

end

/-- Run a parser and go on with its value; give up if there is none. -/
def Steps.require {R : Type → Type} {α β : Type} (parser : Parser R β)
    (next : β → Steps R α) : Steps R α :=
  .step parser fun
    | some value => next value
    | none => .halt

/-! ## What a parser does -/

/-- What references to rules do. -/
abbrev Calls (R : Type → Type) := ∀ {α : Type}, R α → Attempt α

mutual

/-- What a parser does on a source, given what references do and a bound on
the turns of each loop. -/
def Parser.attempt {R : Type → Type} (source : Source) (calls : Calls R)
    (turns : Nat) : ∀ {α : Type}, Parser R α → Attempt α
  | _, .leaf primitive => fun index => .leaf (primitive.parse source index)
  | _, .ref rule => calls rule
  | _, .bind first next =>
    Attempt.bind (first.attempt source calls turns) fun value =>
      (next value).attempt source calls turns
  | _, .map f parser => Attempt.map f (parser.attempt source calls turns)
  | _, .both first second =>
    Attempt.both (first.attempt source calls turns)
      (second.attempt source calls turns)
  | _, .orElse first second =>
    Attempt.orElse (first.attempt source calls turns)
      (second.attempt source calls turns)
  | _, .times item min max =>
    Attempt.times (item.attempt source calls turns) min max turns
  | _, .repeatUntil item terminator min max keep =>
    Attempt.repeatUntil (item.attempt source calls turns)
      (terminator.attempt source calls turns) min max keep turns
  | _, .peek parser => Attempt.peek (parser.attempt source calls turns)
  | _, .shouldFail parser description =>
    Attempt.shouldFail (parser.attempt source calls turns) description
  | _, .describe parser description =>
    Attempt.describe (parser.attempt source calls turns) description
  | _, .generate body => fun index =>
    body.drive source calls turns (.running index .none) ∅

/-- What a body does from a state of the step driver, after the events of a
trace. -/
def Steps.drive {R : Type → Type} (source : Source) (calls : Calls R)
    (turns : Nat) :
    ∀ {α : Type}, Steps R α → DriverState → Trace → Run α
  | _, .done value, state, trace => ⟨.ok (state.finish (some value)), trace⟩
  | _, .halt, state, trace => ⟨.ok (state.finish none), trace⟩
  | _, .index next, state, trace =>
    (next state.index?).drive source calls turns state trace
  | _, .halted next, state, trace =>
    (next state.isHalted).drive source calls turns state trace
  | _, .aside run next, state, trace =>
    next.drive source calls turns state (trace ++ run.steps)
  | _, .step parser next, state, trace =>
    match state with
    | .halted context =>
      (next none).drive source calls turns (.halted context) trace
    | .running index context =>
      let run := parser.attempt source calls turns index
      match run.answer with
      | .error abort => ⟨.error abort, trace ++ run.trace⟩
      | .ok result =>
        let merged := result.diagnostics.merge context
        match result.outcome with
        | .success after value =>
          (next (some value)).drive source calls turns
            (.running after merged)
            (trace ++ run.trace ++ .single (.step index after))
        | .failure =>
          (next none).drive source calls turns (.halted merged)
            (trace ++ run.trace ++ .single (.stepFailed index))

end

/-! ## Rules -/

/-- What the rules of a family stand for; a rule may lack a definition. -/
structure Rules (R : Type → Type) where
  definition : ∀ {α : Type}, R α → Option (Parser R α)

/-- What references do when rules nest at most `fuel` deep. -/
def Rules.enter {R : Type → Type} (rules : Rules R) (source : Source) :
    Nat → Calls R
  | 0, _, _ => fun _ => .stop .exhausted
  | fuel + 1, _, rule =>
    match rules.definition rule with
    | none => fun _ => .stop .undefinedRule
    | some parser => parser.attempt source (rules.enter source fuel) fuel

/-- Run a parser on a source, with a bound on rule nesting and loop turns. -/
def Parser.run {R : Type → Type} {α : Type} (rules : Rules R) (fuel : Nat)
    (parser : Parser R α) (source : Source) : Attempt α :=
  parser.attempt source (rules.enter source fuel) fuel

end OrderedChoice
