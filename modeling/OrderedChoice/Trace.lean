import OrderedChoice.Diagnostics

/-!
# Traces

What happens during a run, in order: every attempt of a leaf parser with the
diagnostics it left, and every step that a step driver takes.  The leaf
attempts are what the diagnostics of a run summarise; the steps are what it
logs.
-/

namespace OrderedChoice

/-- Something that happens during a run. -/
inductive Event where
  /-- A leaf parser was tried and left these diagnostics. -/
  | attempt (diagnostics : Diagnostics)
  /-- A step driver moved on. -/
  | step (start stop : Nat)
  /-- A step of a step driver failed. -/
  | stepFailed (start : Nat)
deriving DecidableEq

/-- A sequence of events that can be joined at no cost. -/
inductive Trace where
  | empty
  | single (event : Event)
  | append (first second : Trace)

namespace Trace

instance : Append Trace := ⟨append⟩

instance : EmptyCollection Trace := ⟨empty⟩

/-- The events in order, in front of those given. -/
def appendTo : Trace → List Event → List Event
  | .empty, later => later
  | .single event, later => event :: later
  | .append first second, later => first.appendTo (second.appendTo later)

/-- The events in order. -/
def toList (trace : Trace) : List Event := trace.appendTo []

/-- The steps of a trace, without the attempts of leaf parsers. -/
def steps : Trace → Trace
  | .empty => .empty
  | .single (.attempt _) => .empty
  | .single event => .single event
  | .append first second => .append first.steps second.steps

theorem appendTo_eq (trace : Trace) (later : List Event) :
    trace.appendTo later = trace.toList ++ later := by
  induction trace generalizing later with
  | empty => rfl
  | single event => rfl
  | append first second firstStep secondStep =>
    simp only [toList, appendTo]
    rw [firstStep, secondStep, firstStep (second.appendTo [])]
    simp [toList]

@[simp] theorem toList_empty : (∅ : Trace).toList = [] := rfl

@[simp] theorem toList_single (event : Event) :
    (Trace.single event).toList = [event] := rfl

@[simp] theorem toList_append (first second : Trace) :
    (first ++ second).toList = first.toList ++ second.toList := by
  show first.appendTo (second.appendTo []) = _
  rw [appendTo_eq]
  rfl

end Trace

end OrderedChoice
