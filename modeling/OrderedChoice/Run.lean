import OrderedChoice.ParseResult
import OrderedChoice.Trace

/-!
# Runs

A run of a parser at an offset gives an answer and a trace.  The answer is a
parse result, unless the run had to stop: a rule that is not defined was
reached, or the bound on nesting and repetition was used up.

An attempt is a parser seen as what it does: the run it makes from each offset
of a fixed source.  The combinators are defined here as operations on
attempts.
-/

namespace OrderedChoice

/-- Why a run stopped without a result. -/
inductive Abort where
  /-- A rule was reached that has no definition. -/
  | undefinedRule
  /-- The bound on rule nesting and loop turns was used up. -/
  | exhausted
deriving DecidableEq, Repr

/-- What a run gives: an answer and the events on the way to it. -/
structure Run (α : Type) where
  answer : Except Abort (ParseResult α)
  trace : Trace

namespace Run

variable {α β : Type}

/-- A run without events that gives a result. -/
def done (result : ParseResult α) : Run α := ⟨.ok result, ∅⟩

/-- A run that stops without a result. -/
def stop (abort : Abort) : Run α := ⟨.error abort, ∅⟩

/-- A run of a leaf parser, which leaves the diagnostics of its result. -/
def leaf (result : ParseResult α) : Run α :=
  ⟨.ok result, .single (.attempt result.diagnostics)⟩

/-- Go on from the result of a run. -/
def andThen (first : Run α) (next : ParseResult α → Run β) : Run β :=
  match first.answer with
  | .error abort => ⟨.error abort, first.trace⟩
  | .ok result =>
    let second := next result
    ⟨second.answer, first.trace ++ second.trace⟩

/-- Change the result of a run. -/
def mapResult (change : ParseResult α → ParseResult β) (run : Run α) :
    Run β :=
  ⟨run.answer.map change, run.trace⟩

end Run

/-- The run that a parser makes from each offset. -/
abbrev Attempt (α : Type) := Nat → Run α

namespace Attempt

variable {α β : Type}

/-! ## Sequence and choice -/

/-- Run an attempt and then the one that its value selects. -/
def bind (first : Attempt α) (next : α → Attempt β) : Attempt β := fun index =>
  (first index).andThen fun result =>
    match result.outcome with
    | .success index value =>
      (next value index).mapResult (·.aggregate result.diagnostics)
    | .failure => .done (.failed result.diagnostics)

/-- Apply a function to the value. -/
def map (f : α → β) (attempt : Attempt α) : Attempt β := fun index =>
  (attempt index).mapResult (·.map f)

/-- Run two attempts in sequence and pair their values. -/
def both (first : Attempt α) (second : Attempt β) : Attempt (α × β) :=
  fun index =>
    (first index).andThen fun firstResult =>
      match firstResult.outcome with
      | .failure => .done (.failed firstResult.diagnostics)
      | .success index left =>
        (second index).mapResult fun secondResult =>
          let secondResult := secondResult.aggregate firstResult.diagnostics
          match secondResult.outcome with
          | .success index right =>
            (ParseResult.success index (left, right)).aggregate
              secondResult.diagnostics
          | .failure => .failed secondResult.diagnostics

/-- Run an attempt; where it fails, run another from the same offset. -/
def orElse (first second : Attempt α) : Attempt α := fun index =>
  (first index).andThen fun result =>
    if result.isSuccess then .done result
    else (second index).mapResult (·.aggregate result.diagnostics)

/-! ## Repetition -/

/-- Whether `count` items are as many as a bound allows. -/
def reaches (max : Option Nat) (count : Nat) : Bool :=
  match max with
  | none => false
  | some max => decide (max ≤ count)

/-- A lower bound, lowered to the upper one if there is one. -/
def lowered (min : Nat) : Option Nat → Nat
  | none => min
  | some max => Nat.min min max

/--
Repeat an attempt from an offset: given are the bound on turns, the values read
so far in reverse and their number, the diagnostics and events gathered, and
the offset.
-/
def timesLoop (item : Attempt α) (min : Nat) (max : Option Nat) :
    Nat → List α → Nat → Diagnostics → Trace → Nat → Run (List α)
  | turns, values, count, context, trace, index =>
    if reaches max count then
      ⟨.ok ((ParseResult.success index values.reverse).aggregate context),
        trace⟩
    else
      match turns with
      | 0 => ⟨.error .exhausted, trace⟩
      | turns + 1 =>
        let run := item index
        match run.answer with
        | .error abort => ⟨.error abort, trace ++ run.trace⟩
        | .ok result =>
          let merged := result.diagnostics.merge context
          match result.outcome with
          | .success next value =>
            timesLoop item min max turns (value :: values) (count + 1) merged
              (trace ++ run.trace) next
          | .failure =>
            if min ≤ count then
              ⟨.ok ((ParseResult.success index values.reverse).aggregate
                merged), trace ++ run.trace⟩
            else
              ⟨.ok (.failed merged), trace ++ run.trace⟩

/-- Repeat an attempt greedily between two bounds; a bound above below the one
beneath lowers it. -/
def times (item : Attempt α) (min : Nat) (max : Option Nat) (turns : Nat) :
    Attempt (List α) := fun index =>
  timesLoop item (lowered min max) max turns [] 0 .none ∅ index

/-- What a bounded search for a terminator failed of. -/
inductive UntilFailure where
  | tooMany (max : Nat)
  | noTerminator
  | tooFew (min count : Nat)
deriving DecidableEq, Repr

/-- The description of such a failure. -/
def UntilFailure.description : UntilFailure → String
  | .tooMany max => "at most " ++ toString max ++ " items"
  | .noTerminator => "did not find terminator"
  | .tooFew min count =>
    "at least " ++ toString min ++ " items; got " ++ toString count ++
      " item(s)"

/--
Repeat an attempt until a terminator succeeds.  The terminator is tried before
every item, but counts only once enough items were read; `keep` says what it
adds to the values, if it is consumed.
-/
def repeatUntilLoop (item : Attempt α) (terminator : Attempt β) (min : Nat)
    (max : Option Nat) (keep : Option (β → α)) :
    Nat → List α → Nat → Trace → Nat → Run (List α)
  | 0, _, _, trace, _ => ⟨.error .exhausted, trace⟩
  | turns + 1, values, count, trace, index =>
    let ending := terminator index
    let trace := trace ++ ending.trace
    match ending.answer with
    | .error abort => ⟨.error abort, trace⟩
    | .ok found =>
      let accepted := if min ≤ count then found.outcome else .failure
      match accepted with
      | .success after value =>
        match keep with
        | none => ⟨.ok (.success index values.reverse), trace⟩
        | some keep =>
          ⟨.ok (.success after (keep value :: values).reverse), trace⟩
      | .failure =>
        match max.filter fun max => decide (max ≤ count) with
        | some max =>
          ⟨.ok (.failure index (UntilFailure.tooMany max).description), trace⟩
        | none =>
          let run := item index
          let trace := trace ++ run.trace
          match run.answer with
          | .error abort => ⟨.error abort, trace⟩
          | .ok result =>
            match result.outcome with
            | .success next value =>
              repeatUntilLoop item terminator min max keep turns (value :: values)
                (count + 1) trace next
            | .failure =>
              let failure :=
                if min ≤ count then UntilFailure.noTerminator
                else UntilFailure.tooFew min count
              ⟨.ok (.failure index failure.description), trace⟩

/-- Repeat an attempt until a terminator succeeds. -/
def repeatUntil (item : Attempt α) (terminator : Attempt β) (min : Nat)
    (max : Option Nat) (keep : Option (β → α)) (turns : Nat) :
    Attempt (List α) := fun index =>
  repeatUntilLoop item terminator min max keep turns [] 0 ∅ index

/-! ## Lookahead and description -/

/-- Succeed where the attempt does, without moving and without diagnostics. -/
def peek (attempt : Attempt α) : Attempt α := fun index =>
  (attempt index).mapResult fun result =>
    match result.outcome with
    | .success _ value => .success index value
    | .failure => .failed result.diagnostics

/-- Succeed, without moving, only where the attempt fails; the value is the
failed result. -/
def shouldFail (attempt : Attempt α) (description : String) :
    Attempt (ParseResult α) := fun index =>
  (attempt index).mapResult fun result =>
    if result.isSuccess then .failure index description
    else .success index result

/-- Replace the diagnostics of a failure by a description at the start. -/
def describe (attempt : Attempt α) (description : String) : Attempt α :=
  fun index =>
    (attempt index).mapResult fun result =>
      if result.isSuccess then result else .failure index description

end Attempt

/-! ## The step driver -/

/-- The state of a step driver: it runs from an offset until a step fails, and
gathers diagnostics all the way. -/
inductive DriverState where
  | running (index : Nat) (context : Diagnostics)
  | halted (context : Diagnostics)
deriving DecidableEq

namespace DriverState

/-- The offset that the next step starts from. -/
def index? : DriverState → Option Nat
  | .running index _ => some index
  | .halted _ => none

/-- Whether a step has failed. -/
def isHalted : DriverState → Bool
  | .running _ _ => false
  | .halted _ => true

/-- The diagnostics gathered so far. -/
def context : DriverState → Diagnostics
  | .running _ context => context
  | .halted context => context

/-- The result when the body ends with a value, or gives up with none. -/
def finish {α : Type} : DriverState → Option α → ParseResult α
  | .running index context, some value =>
    (ParseResult.success index value).aggregate context
  | .running _ context, none => .failed context
  | .halted context, _ => .failed context

end DriverState

end OrderedChoice
