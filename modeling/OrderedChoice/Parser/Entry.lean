import OrderedChoice.Log
import OrderedChoice.Parser.Combinators

/-!
# Entry points

Parsing a whole source, or as much of its start as a parser accepts.  A failure
becomes a parse error at the furthest offset reached.
-/

namespace OrderedChoice

/-- What an entry point gives: an answer, unless the run had to stop, and what
it leaves in the log. -/
structure Parsed (α : Type) where
  answer : Except Abort (Except ParseError α)
  trace : Trace
  closing : Option LogRecord

namespace Parsed

variable {α β : Type}

/-- The records of the parse: those of its run and the closing one. -/
def records (parsed : Parsed α) : List LogRecord :=
  LogRecord.ofTrace parsed.trace ++ parsed.closing.toList

/-- Apply a function to the value. -/
def map (f : α → β) (parsed : Parsed α) : Parsed β where
  answer := parsed.answer.map fun answer => answer.map f
  trace := parsed.trace
  closing := parsed.closing

end Parsed

namespace Parser

variable {R : Type → Type} {α : Type}

/-- The error of a failed run: what was expected at the furthest failure, or at
the start if no failure was recorded. -/
def errorOf (source : Source) (diagnostics : Diagnostics) : ParseError :=
  .atOffset source diagnostics.expected (diagnostics.furthest.getD 0)

/-- Parse as much of the start of a source as the parser accepts; the value
comes with what is left.  Nothing is left where nothing can be read. -/
def parsePartial (rules : Rules R) (fuel : Nat) (parser : Parser R α)
    (source : Source) : Parsed (α × List Char) :=
  let run := parser.run rules fuel source 0
  match run.answer with
  | .error abort => ⟨.error abort, run.trace, none⟩
  | .ok result =>
    match result.outcome with
    | .success index value =>
      ⟨.ok (.ok (value, source.restOrEmpty index)), run.trace,
        some (.parsed index source.length)⟩
    | .failure =>
      let error := errorOf source result.diagnostics
      ⟨.ok (.error error), run.trace, some (.parseFailed error)⟩

/-- Parse a whole source. -/
def parse (rules : Rules R) (fuel : Nat) (parser : Parser R α)
    (source : Source) : Parsed α :=
  (parsePartial rules fuel (skip parser eof) source).map Prod.fst

end Parser

end OrderedChoice
