import OrderedChoice.ParseError
import OrderedChoice.Trace

/-!
# Log records

The messages that a run, a declaration or the program leaves in a log.  A
record says what happened; its level, its origin and its text follow from
that.
-/

namespace OrderedChoice

/-- The levels of a log, the most urgent first. -/
inductive LogLevel where
  | error
  | warn
  | info
  | debug
  | trace
deriving DecidableEq, Repr

namespace LogLevel

/-- The place of a level; a filter for one level lets those before it pass. -/
def rank : LogLevel → Nat
  | .error => 1
  | .warn => 2
  | .info => 3
  | .debug => 4
  | .trace => 5

/-- The name of a level. -/
def render : LogLevel → String
  | .error => "ERROR"
  | .warn => "WARN"
  | .info => "INFO"
  | .debug => "DEBUG"
  | .trace => "TRACE"

end LogLevel

/-- Something worth a line in a log. -/
inductive LogRecord where
  /-- The program has read its input. -/
  | read (size : Nat)
  /-- A declaration got its definition. -/
  | defined
  /-- A declaration was to be defined again. -/
  | definedTwice
  /-- A parse ended at an offset of an input of some length. -/
  | parsed (index length : Nat)
  /-- A parse failed. -/
  | parseFailed (error : ParseError)
  /-- A step driver moved on. -/
  | step (start stop : Nat)
  /-- A step of a step driver failed. -/
  | stepFailed (start : Nat)
deriving DecidableEq

namespace LogRecord

/-- The level of a record. -/
def level : LogRecord → LogLevel
  | .read _ => .debug
  | .defined => .debug
  | .definedTwice => .debug
  | .parsed _ _ => .trace
  | .parseFailed _ => .trace
  | .step _ _ => .trace
  | .stepFailed _ => .trace

/-- The part of the program that a record comes from. -/
def target : LogRecord → String
  | .read _ => "parcomb"
  | .defined => "parcomb::parser::forward"
  | .definedTwice => "parcomb::parser::forward"
  | .parsed _ _ => "parcomb::parser::combinators"
  | .parseFailed _ => "parcomb::parser::combinators"
  | .step _ _ => "parcomb::parser::generate"
  | .stepFailed _ => "parcomb::parser::generate"

/-- The text of a record. -/
def message : LogRecord → String
  | .read size => "read " ++ toString size ++ " bytes"
  | .defined => "forward declaration defined"
  | .definedTwice =>
    "rejected second definition of a forward declaration"
  | .parsed index length =>
    "parsed " ++ toString index ++ " of " ++ toString length ++ " bytes"
  | .parseFailed error => "parse failed: " ++ error.message
  | .step start stop =>
    "generate step " ++ toString start ++ ".." ++ toString stop
  | .stepFailed start => "generate step failed at " ++ toString start

/-- The record of an event; attempts of leaf parsers leave none. -/
def ofEvent? : Event → Option LogRecord
  | .attempt _ => none
  | .step start stop => some (.step start stop)
  | .stepFailed start => some (.stepFailed start)

/-- The records of a trace. -/
def ofTrace (trace : Trace) : List LogRecord :=
  trace.toList.filterMap ofEvent?

/-- A record with its level, as in `DEBUG read 2 bytes`. -/
def render (record : LogRecord) : String :=
  record.level.render ++ " " ++ record.message

end LogRecord

end OrderedChoice
