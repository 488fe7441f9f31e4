import OrderedChoice.Regex.Engine
import OrderedChoice.Regex.Flags
import OrderedChoice.Regex.Matching
import OrderedChoice.Regex.Reader
import OrderedChoice.Regex.Size

/-!
# Patterns

A pattern is a regular expression that is ready to match, with its text and
the names of its capture groups.  Patterns are the compiled expressions of the
engine of this library.
-/

namespace OrderedChoice

/-- A regular expression with its text and the names of its groups. -/
structure Pattern where
  text : String
  regex : Regex.Term
  names : List (String × Nat)
deriving DecidableEq

namespace Pattern

/-- The number of groups, the whole match included.  Groups are numbered as
they open; numbers up to the largest one in use exist. -/
def groupCount (pattern : Pattern) : Nat :=
  pattern.regex.groups.foldl max 0 + 1

/-- Read the pattern of a regular expression, if it is well formed. -/
def read? (text : String) : Option Pattern := do
  let read ← Regex.readExpression? text.toList
  let (regex, _) ← read.expression.resolve? .initial
  some
    { text := text
      regex := regex
      names := read.names.filter fun entry => regex.groups.contains entry.2 }

/-- Build the pattern of a regular expression, unless it is not well formed or
too large. -/
def ofText (text : String) : Except BuildError Pattern :=
  match read? text with
  | none => .error .malformed
  | some pattern =>
    if pattern.regex.fits then .ok pattern else .error .tooLarge

/-- The match that starts at an offset. -/
def matchAt (pattern : Pattern) (source : Source) (offset : Nat) :
    Option Regex.Match :=
  pattern.regex.matchAt source offset

/-- The engine whose compiled expressions are patterns. -/
abbrev engine : Engine where
  Compiled := Pattern
  compile := ofText
  groupCount := groupCount
  groupNamed? pattern name := pattern.names.lookup name
  search pattern source offset number :=
    (pattern.matchAt source offset).bind (·.span? offset number)

/-- The text that a group captured in a match. -/
def groupText (pattern : Pattern) (source : Source) (offset : Nat)
    (found : Regex.Match) : Group → String :=
  engine.groupText pattern source (found.span? offset)

end Pattern

end OrderedChoice
