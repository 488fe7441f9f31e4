import OrderedChoice.Text.Source

/-!
# Lines and columns

A position names a place in a text by its line and column, both counted from
zero; columns count characters since the last newline.  Positions order by
line first, then by column.
-/

namespace OrderedChoice

/-- A zero-based line and column. -/
structure Position where
  line : Nat
  column : Nat
deriving DecidableEq, Repr, Inhabited

namespace Position

/-- The start of a text. -/
def origin : Position := ⟨0, 0⟩

/-- Lexicographic order: by line, then by column. -/
protected def lt (left right : Position) : Prop :=
  left.line < right.line ∨
    (left.line = right.line ∧ left.column < right.column)

instance : LT Position := ⟨Position.lt⟩

instance : LE Position := ⟨fun left right => left < right ∨ left = right⟩

theorem lt_def {left right : Position} :
    left < right ↔
      left.line < right.line ∨
        (left.line = right.line ∧ left.column < right.column) := Iff.rfl

instance (left right : Position) : Decidable (left < right) :=
  decidable_of_iff _ lt_def.symm

theorem le_def {left right : Position} :
    left ≤ right ↔ left < right ∨ left = right := Iff.rfl

instance (left right : Position) : Decidable (left ≤ right) :=
  decidable_of_iff _ le_def.symm

/-- The position just after the given text: as many lines down as it has
newlines, and as many columns in as characters follow the last of them. -/
def after (text : List Char) : Position where
  line := text.count '\n'
  column := (text.reverse.takeWhile (· != '\n')).length

/-- The position of an offset; an offset that is no boundary counts as the
nearest boundary before it, one past the end as the end. -/
def locate (source : Source) (offset : Nat) : Position :=
  after (source.textBefore offset)

/-- A position as `line:column`. -/
def render (position : Position) : String :=
  toString position.line ++ ":" ++ toString position.column

/-- Positions in ascending order. -/
def sort (positions : List Position) : List Position :=
  positions.mergeSort fun left right => decide (left ≤ right)

end Position

end OrderedChoice
