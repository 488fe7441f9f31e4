/-!
# Ranges of scalar values

The tables of this library are lists of inclusive ranges of Unicode scalar
values, and lists of runs that map equally spaced values by a constant
distance.
-/

namespace OrderedChoice.Unicode

/-- Inclusive ranges of scalar values, in increasing order. -/
abbrev Ranges := List (Nat × Nat)

/-- A value is contained when it lies in one of the ranges. -/
def Ranges.contains (ranges : Ranges) (value : Nat) : Bool :=
  ranges.any fun range => decide (range.1 ≤ value) && decide (value ≤ range.2)

/-- Every `stride`-th value from `first` to `last`, mapped by the distance that
takes `first` to `target`. -/
structure CaseRun where
  first : Nat
  last : Nat
  stride : Nat
  target : Nat
deriving DecidableEq, Repr

namespace CaseRun

/-- Whether a run maps a value. -/
def covers (run : CaseRun) (value : Nat) : Bool :=
  decide (run.first ≤ value) && decide (value ≤ run.last) &&
    (value - run.first) % run.stride == 0

/-- The value that the first covering run gives; a value that no run covers is
left as it is. -/
def apply (runs : List CaseRun) (value : Nat) : Nat :=
  match runs.find? (·.covers value) with
  | some run => value - run.first + run.target
  | none => value

/-- The values that the runs map to `image`. -/
def sources (runs : List CaseRun) (image : Nat) : List Nat :=
  runs.filterMap fun run =>
    let source := image - run.target + run.first
    if run.target ≤ image && run.covers source then some source else none

/-- The values that the runs map, each with the value it is mapped to. -/
def pairs (runs : List CaseRun) : List (Nat × Nat) :=
  runs.flatMap fun run =>
    (List.range ((run.last - run.first) / run.stride + 1)).map fun step =>
      (run.first + step * run.stride, run.target + step * run.stride)

end CaseRun

end OrderedChoice.Unicode
