import OrderedChoice.Unicode.CaseFolding
import OrderedChoice.Unicode.Property

/-!
# Sets of characters

The character classes of regular expressions, described by how they are built:
ranges and Unicode tables, combined by the set operations and closed under
case.  Membership is computed from the description.
-/

namespace OrderedChoice.Regex

/-! ## Characters of words -/

/-- ASCII letters, digits and the underscore. -/
def isAsciiWord (value : Nat) : Bool :=
  (decide (0x30 ≤ value) && decide (value ≤ 0x39)) ||
    (decide (0x41 ≤ value) && decide (value ≤ 0x5A)) ||
    (decide (0x61 ≤ value) && decide (value ≤ 0x7A)) || value == 0x5F

/-- Characters that words are made of: alphabetic ones, marks, decimal digits,
connecting punctuation and the two joiners. -/
def isWord (value : Nat) : Bool :=
  if value < 0x80 then isAsciiWord value
  else
    Unicode.Property.alphabetic.contains value ||
      Unicode.inAnyCategory
        [.nonspacingMark, .spacingMark, .enclosingMark, .decimalNumber,
          .connectorPunctuation] value ||
      Unicode.Property.joinControl.contains value

/-- The other case of an ASCII letter; any other value is left as it is. -/
def swapAsciiCase (value : Nat) : Nat :=
  if decide (0x41 ≤ value) && decide (value ≤ 0x5A) then value + 0x20
  else if decide (0x61 ≤ value) && decide (value ≤ 0x7A) then value - 0x20
  else value

/-! ## Descriptions of sets -/

/-- A set of scalar values. -/
inductive CharSet where
  | empty
  | any
  | range (first last : Nat)
  | table (ranges : Unicode.Ranges)
  | categorized (categories : List Unicode.Category)
  | having (property : Unicode.Property)
  | word
  | complement (members : CharSet)
  | union (left right : CharSet)
  | intersection (left right : CharSet)
  | difference (left right : CharSet)
  | symmetricDifference (left right : CharSet)
  /-- All values that differ from a member only in case. -/
  | caseClosure (members : CharSet)
  /-- All values that differ from a member only in the case of an ASCII
  letter. -/
  | asciiCaseClosure (members : CharSet)
deriving DecidableEq, Repr

namespace CharSet

/-- Membership of a scalar value. -/
def contains : CharSet → Nat → Bool
  | .empty, _ => false
  | .any, _ => true
  | .range first last, value => decide (first ≤ value) && decide (value ≤ last)
  | .table ranges, value => ranges.contains value
  | .categorized categories, value => Unicode.inAnyCategory categories value
  | .having property, value => property.contains value
  | .word, value => isWord value
  | .complement members, value => !members.contains value
  | .union left right, value => left.contains value || right.contains value
  | .intersection left right, value =>
    left.contains value && right.contains value
  | .difference left right, value =>
    left.contains value && !right.contains value
  | .symmetricDifference left right, value =>
    left.contains value ^^ right.contains value
  | .caseClosure members, value =>
    (Unicode.caseVariants value).any fun variant => members.contains variant
  | .asciiCaseClosure members, value =>
    members.contains value || members.contains (swapAsciiCase value)

/-- The set with one member. -/
def single (value : Nat) : CharSet := .range value value

/-- Decimal digits of every script. -/
def digit : CharSet := .categorized [.decimalNumber]

/-- White space. -/
def space : CharSet := .having .whiteSpace

/-- The members of a set, or the other values where the set is negated. -/
def negateIf (negated : Bool) (members : CharSet) : CharSet :=
  if negated then .complement members else members

end CharSet

end OrderedChoice.Regex
