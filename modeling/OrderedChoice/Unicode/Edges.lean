import OrderedChoice.Unicode.CaseFolding
import OrderedChoice.Unicode.Property

/-!
# Edges of sets

A set of scalar values is given by its edges, the values at which membership
changes.  Sets given in this way are combined in one pass over the edges of
both, which keeps the edges of large tables within reach.
-/

namespace OrderedChoice.Unicode

/-- The values at which membership in a set changes, in increasing order: the
first is the least member, the second the least value behind it that is none,
and so on. -/
abbrev Edges := List Nat

namespace Edges

/-- A value is a member when an odd number of edges lie at or below it. -/
def contains : Edges → Nat → Bool
  | [], _ => false
  | edge :: edges, value => decide (edge ≤ value) ^^ contains edges value

/-! ## Combining two sets -/

/-- A value that is an edge of one set or of two, with those that it is an edge
of. -/
structure Mark where
  value : Nat
  ofLeft : Bool
  ofRight : Bool
deriving DecidableEq, Repr

/-- The edges of the right set up to an edge of the left one, and then that
edge with those that follow it. -/
def marksUpTo (edge : Nat) (following : Edges → List Mark) :
    Edges → List Mark
  | [] => ⟨edge, true, false⟩ :: following []
  | other :: right =>
    if other < edge then
      ⟨other, false, true⟩ :: marksUpTo edge following right
    else if other = edge then ⟨edge, true, true⟩ :: following right
    else ⟨edge, true, false⟩ :: following (other :: right)

/-- The edges of two sets in one list. -/
def marks : Edges → Edges → List Mark
  | [], right => right.map (⟨·, false, true⟩)
  | edge :: left, right => marksUpTo edge (fun right => marks left right) right

/-- The edges of a combination of two sets, behind a point where it is known
which of them hold the values. -/
def scan (keep : Bool → Bool → Bool) : Bool → Bool → List Mark → Edges
  | _, _, [] => []
  | inLeft, inRight, mark :: marks =>
    let nextInLeft := inLeft ^^ mark.ofLeft
    let nextInRight := inRight ^^ mark.ofRight
    let others := scan keep nextInLeft nextInRight marks
    if keep inLeft inRight == keep nextInLeft nextInRight then others
    else mark.value :: others

/-- The set of the values that are kept, by membership in two sets. -/
def combine (keep : Bool → Bool → Bool) (left right : Edges) : Edges :=
  scan keep false false (marks left right)

/-- The values of either set. -/
def union : Edges → Edges → Edges := combine (· || ·)

/-- The values of the first set that are not in the second. -/
def difference : Edges → Edges → Edges := combine fun left right =>
  left && !right

/-- All values. -/
def all : Edges := [0, 0x110000]

/-! ## Ranges -/

/-- Add a range.  In front of all edges there is nothing to combine. -/
def addRange (range : Nat × Nat) (edges : Edges) : Edges :=
  if range.2 < range.1 then edges
  else
    match edges with
    | [] => [range.1, range.2 + 1]
    | next :: others =>
      if range.2 + 1 < next then range.1 :: (range.2 + 1) :: edges
      else if range.2 + 1 = next then range.1 :: others
      else union [range.1, range.2 + 1] edges

/-- The values of several ranges. -/
def ofRanges (ranges : Ranges) : Edges := ranges.foldr addRange []

/-- The ranges that make up a set.  One without an end runs to the last scalar
value. -/
def ranges : Edges → Ranges
  | [] => []
  | [first] => [(first, 0x10FFFF)]
  | first :: stop :: edges => (first, stop - 1) :: ranges edges

/-! ## Tables and case -/

/-- The values of several categories. -/
def ofCategories (categories : List Category) : Edges :=
  categories.foldr (fun category => union (ofRanges category.ranges)) []

/-- The values that runs map to what a member is mapped to or is, with that
value.  Only these can be missing from a set to be closed under case. -/
def caseCandidates (edges : Edges) : List Nat :=
  let touched := (CaseRun.pairs foldingRuns).filter fun pair =>
    edges.contains pair.1 || edges.contains pair.2
  touched.flatMap fun pair => pair.2 :: CaseRun.sources foldingRuns pair.2

/-- All values that fold together with a member. -/
def caseClosure (edges : Edges) : Edges :=
  let added := edges.caseCandidates.filter fun value =>
    !edges.contains value && (caseVariants value).any edges.contains
  added.foldr (fun value => addRange (value, value)) edges

end Edges

/-- The edges of values that are put together from tables. -/
def Values.edges : Values → Edges
  | .listed ranges => .ofRanges ranges
  | .categorized categories => .ofCategories categories
  | .complement values => .difference .all values.edges
  | .union left right => .union left.edges right.edges
  | .difference left right => .difference left.edges right.edges

end OrderedChoice.Unicode
