import OrderedChoice.Regex.CharSet
import OrderedChoice.Unicode.Edges

/-!
# Ranges of sets of characters

A set is described by how it is built.  Its ranges are computed from the
description: every operation on sets is carried out on their edges.
-/

namespace OrderedChoice.Regex

open Unicode (Edges Values)

/-- The values that words are made of, by how they are put together.  Up to
ASCII these are listed. -/
def wordValues : Values :=
  .union (.listed [(0x30, 0x39), (0x41, 0x5A), (0x5F, 0x5F), (0x61, 0x7A)])
    (.difference
      (.union Unicode.Property.alphabetic.values
        (.union
          (.categorized
            [.nonspacingMark, .spacingMark, .enclosingMark, .decimalNumber,
              .connectorPunctuation])
          Unicode.Property.joinControl.values))
      (.listed [(0, 0x7F)]))

/-- The surrogates, which are no characters. -/
def surrogates : Edges := [0xD800, 0xE000]

namespace CharSet

/-- All values that differ from a member only in the case of an ASCII
letter. -/
def asciiCaseClosureEdges (edges : Edges) : Edges :=
  let added := (List.range 0x80).filter fun value =>
    edges.contains (swapAsciiCase value) && !edges.contains value
  added.foldr (fun value => Edges.addRange (value, value)) edges

/-- The edges of a set. -/
def edges : CharSet → Edges
  | .empty => []
  | .any => .all
  | .range first last => .ofRanges [(first, last)]
  | .table ranges => .ofRanges ranges
  | .categorized categories => .ofCategories categories
  | .having property => property.values.edges
  | .word => wordValues.edges
  | .complement members => .difference .all members.edges
  | .union left right => .union left.edges right.edges
  | .intersection left right => .combine (· && ·) left.edges right.edges
  | .difference left right => .difference left.edges right.edges
  | .symmetricDifference left right =>
    .combine (· ^^ ·) left.edges right.edges
  | .caseClosure members => .caseClosure members.edges
  | .asciiCaseClosure members => asciiCaseClosureEdges members.edges

/-- The ranges of the characters of a set, in increasing order and apart from
each other. -/
def ranges (members : CharSet) : Unicode.Ranges :=
  (Edges.difference members.edges surrogates).ranges

end CharSet

end OrderedChoice.Regex
