import OrderedChoice.Parser.Basic

/-!
# Derived combinators

The combinators that are put together from those of `Parser`: shorter names for
leaves, sequences that keep part of their values, repetition with particular
bounds, separated lists, and marked and tagged values.
-/

namespace OrderedChoice

/-- A value together with where its match starts and stops. -/
structure Marked (α : Type) where
  start : Position
  value : α
  stop : Position
deriving DecidableEq

namespace Parser

variable {R : Type → Type} {α β γ δ ε ζ : Type}

/-! ## Leaves -/

/-- Always succeed with a value, consuming nothing. -/
def success (value : α) : Parser R α := .leaf (.success value)

/-- Always fail with an expectation. -/
def fail (expected : String) : Parser R α := .leaf (.fail expected)

/-- The current offset. -/
def index : Parser R Nat := .leaf .index

/-- The current line and column. -/
def lineInfo : Parser R Position := .leaf .lineInfo

/-- Succeed at the end of the source only. -/
def eof : Parser R Unit := .leaf .eof

/-- Match a text exactly. -/
def literal (text : String) : Parser R String := .leaf (.literal text)

/-- Match a text when both it and the source are passed through a transform. -/
def literalWith (text : String) (transform : String → String) :
    Parser R String :=
  .leaf (.literalWith text transform)

/-- A parser given by any function from source and offset to a result. -/
def custom (function : Source → Nat → ParseResult α) : Parser R α :=
  .leaf (.custom function)

/-! ## Sequences -/

/-- Replace the value. -/
def result (parser : Parser R α) (value : β) : Parser R β :=
  .map (fun _ => value) parser

/-- Run two parsers and keep the value of the second. -/
def andThen (first : Parser R α) (second : Parser R β) : Parser R β :=
  .map Prod.snd (.both first second)

/-- Run two parsers and keep the value of the first. -/
def skip (first : Parser R α) (second : Parser R β) : Parser R α :=
  .map Prod.fst (.both first second)

/-- A sequence of one. -/
def seq1 (first : Parser R α) : Parser R α := .map id first

/-- A sequence of two as a pair. -/
def seq2 (first : Parser R α) (second : Parser R β) : Parser R (α × β) :=
  .both first second

/-- A sequence of three as a flat tuple. -/
def seq3 (first : Parser R α) (second : Parser R β) (third : Parser R γ) :
    Parser R (α × β × γ) :=
  .map (fun ((a, b), c) => (a, b, c)) (.both (.both first second) third)

/-- A sequence of four as a flat tuple. -/
def seq4 (first : Parser R α) (second : Parser R β) (third : Parser R γ)
    (fourth : Parser R δ) : Parser R (α × β × γ × δ) :=
  .map (fun (((a, b), c), d) => (a, b, c, d))
    (.both (.both (.both first second) third) fourth)

/-- A sequence of five as a flat tuple. -/
def seq5 (first : Parser R α) (second : Parser R β) (third : Parser R γ)
    (fourth : Parser R δ) (fifth : Parser R ε) :
    Parser R (α × β × γ × δ × ε) :=
  .map (fun ((((a, b), c), d), e) => (a, b, c, d, e))
    (.both (.both (.both (.both first second) third) fourth) fifth)

/-- A sequence of six as a flat tuple. -/
def seq6 (first : Parser R α) (second : Parser R β) (third : Parser R γ)
    (fourth : Parser R δ) (fifth : Parser R ε) (sixth : Parser R ζ) :
    Parser R (α × β × γ × δ × ε × ζ) :=
  .map (fun (((((a, b), c), d), e), f) => (a, b, c, d, e, f))
    (.both (.both (.both (.both (.both first second) third) fourth) fifth)
      sixth)

/-- Join the texts of two parsers. -/
def appendText (first second : Parser R String) : Parser R String :=
  .map (fun values => values.1 ++ values.2) (.both first second)

/-- Join the lists of two parsers. -/
def appendList (first second : Parser R (List α)) : Parser R (List α) :=
  .map (fun values => values.1 ++ values.2) (.both first second)

/-! ## Repetition -/

/-- Repeat exactly `count` times. -/
def exactly (item : Parser R α) (count : Nat) : Parser R (List α) :=
  .times item count (some count)

/-- Repeat any number of times. -/
def many (item : Parser R α) : Parser R (List α) := .times item 0 none

/-- Repeat at least `min` times. -/
def atLeast (item : Parser R α) (min : Nat) : Parser R (List α) :=
  .times item min none

/-- Repeat at most `max` times. -/
def atMost (item : Parser R α) (max : Nat) : Parser R (List α) :=
  .times item 0 (some max)

/-- Repeat at least `start` and fewer than `stop` times; below the start, the
upper end lowers it. -/
def fromBelow (item : Parser R α) (start stop : Nat) : Parser R (List α) :=
  .times item start (some (stop - 1))

/-- Repeat at least `start` and at most `stop` times. -/
def fromUpTo (item : Parser R α) (start stop : Nat) : Parser R (List α) :=
  .times item start (some stop)

/-- Match or do without. -/
def optional (item : Parser R α) : Parser R (Option α) :=
  .map List.getLast? (.times item 0 (some 1))

/-- Match or do with a default. -/
def optionalOr (item : Parser R α) (default : α) : Parser R α :=
  .map (fun value => value.getD default) (optional item)

/-- Repeat until a terminator succeeds, which is left standing. -/
def takeUntil (item : Parser R α) (terminator : Parser R β) (min : Nat)
    (max : Option Nat) : Parser R (List α) :=
  .repeatUntil item terminator min max none

/-- Repeat until a terminator succeeds, which is consumed and added to the
values. -/
def takeThrough (item terminator : Parser R α) (min : Nat)
    (max : Option Nat) : Parser R (List α) :=
  .repeatUntil item terminator min max (some id)

/-- Items with a separator between them, bounded like a repetition.  A
separator without an item after it is given back. -/
def sepBy (item : Parser R α) (separator : Parser R β) (min : Nat)
    (max : Option Nat) : Parser R (List α) :=
  let min := Attempt.lowered min max
  -- The empty list is no attempt at anything.
  let nothing : Parser R (List α) := success []
  if max = some 0 then nothing
  else
    let rest :=
      Parser.times (andThen separator item) (min - 1) (max.map (· - 1))
    let items : Parser R (List α) :=
      .map (fun values => values.1 :: values.2) (.both item rest)
    if min = 0 then .orElse items nothing else items

/-! ## Values -/

/-- Wrap the value with the positions where its match starts and stops. -/
def mark (parser : Parser R α) : Parser R (Marked α) :=
  .generate <|
    .require lineInfo fun start =>
      .require parser fun value =>
        .require lineInfo fun stop =>
          .done ⟨start, value, stop⟩

/-- Pair the value with a name. -/
def tag (parser : Parser R α) (name : String) : Parser R (String × α) :=
  .map (fun value => (name, value)) parser

/-- Join a list of texts into one text. -/
def concat (parser : Parser R (List String)) : Parser R String :=
  .map String.join parser

/-- How a parser is shown: without its parts, which may be functions. -/
def outline (_ : Parser R α) : String := "BoxedParser \x7b .. \x7d"

/-- Join a list of characters into a text. -/
def concatCharacters (parser : Parser R (List Char)) : Parser R String :=
  .map String.ofList parser

end Parser

end OrderedChoice
