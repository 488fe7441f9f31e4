import OrderedChoice.Diagnostics

/-!
# Parse results

The result of one parse attempt at one offset: an outcome and diagnostics.
The two are independent, since a success still knows the deepest failure among
the alternatives it gave up.
-/

namespace OrderedChoice

/-- Whether an attempt succeeded: the offset to go on from and the value. -/
inductive Outcome (α : Type) where
  | success (index : Nat) (value : α)
  | failure
deriving DecidableEq

/-- The outcome of an attempt with what it knows about failure. -/
structure ParseResult (α : Type) where
  outcome : Outcome α
  diagnostics : Diagnostics
deriving DecidableEq

namespace Outcome

/-- Apply a function to the value of a success. -/
def map {α β : Type} (f : α → β) : Outcome α → Outcome β
  | .success index value => .success index (f value)
  | .failure => .failure

/-- Whether the attempt succeeded. -/
def isSuccess {α : Type} : Outcome α → Bool
  | .success _ _ => true
  | .failure => false

/-- The offset that a success goes on from. -/
def index? {α : Type} : Outcome α → Option Nat
  | .success index _ => some index
  | .failure => none

/-- The value of a success. -/
def value? {α : Type} : Outcome α → Option α
  | .success _ value => some value
  | .failure => none

end Outcome

namespace ParseResult

variable {α β : Type}

/-- A success that knows of no failure. -/
def success (index : Nat) (value : α) : ParseResult α :=
  ⟨.success index value, .none⟩

/-- A failure with diagnostics already gathered. -/
def failed (diagnostics : Diagnostics) : ParseResult α :=
  ⟨.failure, diagnostics⟩

/-- A failure at an offset. -/
def failure (index : Nat) (expected : String) : ParseResult α :=
  failed (.single index expected)

/-- Whether the attempt succeeded. -/
def isSuccess (result : ParseResult α) : Bool := result.outcome.isSuccess

/-- The offset that a success goes on from. -/
def index? (result : ParseResult α) : Option Nat := result.outcome.index?

/-- The value of a success. -/
def value? (result : ParseResult α) : Option α := result.outcome.value?

/-- The offset of the furthest failure. -/
def furthest (result : ParseResult α) : Option Nat :=
  result.diagnostics.furthest

/-- What was expected at the furthest failure. -/
def expected (result : ParseResult α) : Expectations :=
  result.diagnostics.expected

/-- Add the diagnostics of an earlier attempt. -/
def aggregate (result : ParseResult α) (prior : Diagnostics) : ParseResult α :=
  ⟨result.outcome, result.diagnostics.merge prior⟩

/-- Add the diagnostics of an earlier attempt, if there was one. -/
def aggregatePrior (result : ParseResult α) (prior : Option Diagnostics) :
    ParseResult α :=
  ⟨result.outcome, result.diagnostics.mergePrior prior⟩

/-- Apply a function to the value of a success. -/
def map (f : α → β) (result : ParseResult α) : ParseResult β :=
  ⟨result.outcome.map f, result.diagnostics⟩

end ParseResult

end OrderedChoice
