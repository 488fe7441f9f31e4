import OrderedChoice.Diagnostics
import OrderedChoice.Text.Escape
import OrderedChoice.Text.Position

/-!
# Errors

A parse error says that the input did not match: it names the furthest offset
reached, its position, and everything expected there.  A usage error says that
a grammar or an offset was misused.
-/

namespace OrderedChoice

/-! ## Inputs that do not match -/

/-- The furthest failure of a whole parse. -/
structure ParseError where
  expected : Expectations
  index : Nat
  position : Position
deriving DecidableEq

namespace ParseError

/-- The error at an offset of a source. -/
def atOffset (source : Source) (expected : Expectations) (index : Nat) :
    ParseError :=
  ⟨expected, index, .locate source index⟩

/-- A description between apostrophes. -/
def quoted (description : String) : String :=
  String.ofList ('\'' :: (escapeDescription description.toList ++ ['\'']))

/-- The message: a single expectation stands alone, any other number is a
list of alternatives. -/
def message (error : ParseError) : String :=
  match error.expected.items with
  | [description] =>
    "expected " ++ quoted description ++ " at " ++ error.position.render
  | descriptions =>
    "expected one of " ++ String.intercalate ", " (descriptions.map quoted) ++
      " at " ++ error.position.render

end ParseError

/-! ## Misused grammars -/

/-- A grammar was built or used wrongly. -/
inductive UsageError where
  | alreadyDefined
  | undefined
  | offsetOutOfRange (offset length : Nat)
deriving DecidableEq, Repr

/-- The wording of a usage error. -/
def UsageError.message : UsageError → String
  | .alreadyDefined => "forward declaration has already been defined"
  | .undefined => "forward declaration must be defined before it is used"
  | .offsetOutOfRange offset length =>
    "offset " ++ toString offset ++
      " is not a character boundary within input of length " ++
      toString length

/-- The position of an offset that has to be a boundary. -/
def Position.at? (source : Source) (offset : Nat) :
    Except UsageError Position :=
  if source.isBoundary offset then
    .ok (.after (source.textBefore offset))
  else
    .error (.offsetOutOfRange offset source.length)

end OrderedChoice
