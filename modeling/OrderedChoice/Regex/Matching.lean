import OrderedChoice.Regex.Syntax
import OrderedChoice.Text.Source

/-!
# Matching

A match runs over threads.  A thread stands at a cursor in the text and
remembers what the groups have captured.  Running an expression from a thread
gives the threads it can arrive at, in order of preference: the first is the
one that leftmost-first matching reports.  Of several threads that arrive at
one offset only the preferred one is kept, since the others could only match
where it does.

An unbounded repetition goes on only from an arrival that has moved, and every
turn after the first has to move, so a body that matches nothing ends the
repetition.
-/

namespace OrderedChoice.Regex

/-! ## Cursors and threads -/

/-- A place in the text: its offset, the character before it and what
remains. -/
structure Cursor where
  offset : Nat
  before : Option Char
  rest : List Char
deriving DecidableEq, Repr

/-- What the groups have captured: number, start and end, the latest first. -/
abbrev Captures := List (Nat × Nat × Nat)

/-- A cursor with the captures made on the way to it. -/
structure Thread where
  cursor : Cursor
  captures : Captures
deriving DecidableEq, Repr

/-- The offset a thread stands at. -/
def Thread.offset (thread : Thread) : Nat := thread.cursor.offset

/-- Keep the first item of each key, leaving out the keys in `seen`. -/
def distinctFrom {Item Key : Type} [BEq Key] (key : Item → Key)
    (seen : List Key) : List Item → List Item
  | [] => []
  | item :: items =>
    if seen.contains (key item) then distinctFrom key seen items
    else item :: distinctFrom key (key item :: seen) items

/-- Keep the first thread at each offset. -/
def distinct (threads : List Thread) : List Thread :=
  distinctFrom Thread.offset [] threads

/-! ## Assertions -/

/-- Whether a neighbouring character belongs to a word. -/
def WordKind.includes (kind : WordKind) : Option Char → Bool
  | none => false
  | some character =>
    match kind with
    | .ascii => isAsciiWord character.toNat
    | .unicode => isWord character.toNat

/-- Whether an edge lies between a word or none before and after. -/
def WordEdge.holds (edge : WordEdge) (before after : Bool) : Bool :=
  match edge with
  | .boundary => before != after
  | .noBoundary => before == after
  | .start => !before && after
  | .stop => before && !after
  | .startHalf => !before
  | .stopHalf => !after

/-- Whether an assertion holds between two neighbouring characters. -/
def Look.holds (assertion : Look) (before after : Option Char) : Bool :=
  match assertion with
  | .textStart => before == none
  | .textEnd => after == none
  | .lineStart => before == none || before == some '\n'
  | .lineEnd => after == none || after == some '\n'
  | .lineStartAnyEnding =>
    before == none || before == some '\n' ||
      (before == some '\r' && after != some '\n')
  | .lineEndAnyEnding =>
    after == none || after == some '\r' ||
      (after == some '\n' && before != some '\r')
  | .word kind edge => edge.holds (kind.includes before) (kind.includes after)

/-! ## Steps -/

/-- The threads that can be arrived at from a thread, in order of
preference. -/
abbrev Step := Thread → List Thread

namespace Step

/-- Stay where the thread is. -/
def stay : Step := fun thread => [thread]

/-- One step after another. -/
def andThen (first second : Step) : Step := fun thread =>
  distinct ((first thread).flatMap second)

/-- A step or else another. -/
def orElse (first second : Step) : Step := fun thread =>
  distinct (first thread ++ second thread)

/-- Take a step from each of several threads, a number of times. -/
def advance (step : Step) : Nat → List Thread → List Thread
  | 0, threads => threads
  | count + 1, threads =>
    step.advance count (distinct (threads.flatMap step))

/-- A step taken a number of times. -/
def times (step : Step) (count : Nat) : Step := fun thread =>
  step.advance count [thread]

/-- Take a step from each thread that goes on, up to a number of times.  The
thread itself stays as an arrival that does not go on: after those it leads to
if the step is taken greedily, and before them if not. -/
def spread (step : Step) (greedy : Bool) :
    Nat → List (Thread × Bool) → List (Thread × Bool)
  | 0, entries => entries
  | count + 1, entries =>
    if entries.any fun entry => entry.2 then
      step.spread greedy count <|
        distinctFrom (fun entry => (entry.1.offset, entry.2)) [] <|
          entries.flatMap fun entry =>
            if entry.2 then
              let further := (step entry.1).map fun thread => (thread, true)
              if greedy then further ++ [(entry.1, false)]
              else (entry.1, false) :: further
            else [entry]
    else entries

/-- A step taken up to a number of times, greedily or not. -/
def atMost (step : Step) (greedy : Bool) (count : Nat) : Step := fun thread =>
  distinct ((step.spread greedy count [(thread, true)]).map (·.1))

/--
Add to the threads found so far, latest first, those that further turns from a
thread arrive at.  Arrivals that have not moved or were found before are not
gone on from; only a first turn may arrive where it started.
-/
def turns (step : Step) (greedy : Bool) :
    Nat → Bool → Thread → List Thread → List Thread
  | 0, _, _, found => found
  | fuel + 1, isFirst, thread, found =>
    (step thread).foldl
      (fun found arrival =>
        if found.any fun earlier => earlier.offset == arrival.offset then
          found
        else if arrival.offset == thread.offset then
          if isFirst then arrival :: found else found
        else if greedy then
          arrival :: step.turns greedy fuel false arrival found
        else
          step.turns greedy fuel false arrival (arrival :: found))
      found

/-- A step taken once or more.  Every turn but the first moves on, so the
number of characters left bounds the turns. -/
def atLeastOnce (step : Step) (greedy : Bool) : Step := fun thread =>
  (step.turns greedy (thread.cursor.rest.length + 1) true thread []).reverse

/-- A step taken any number of times. -/
def anyTimes (step : Step) (greedy : Bool) : Step :=
  if greedy then (step.atLeastOnce greedy).orElse stay
  else stay.orElse (step.atLeastOnce greedy)

/-- A step taken at least `min` and at most `max` times. -/
def between (step : Step) (min : Nat) (max : Option Nat) (greedy : Bool) :
    Step :=
  match max with
  | some max => (step.times min).andThen (step.atMost greedy (max - min))
  | none =>
    match min with
    | 0 => step.anyTimes greedy
    | turns + 1 => (step.times turns).andThen (step.atLeastOnce greedy)

end Step

/-! ## Runs of single characters -/

/-- Move a cursor over `count` characters of a set. -/
def Cursor.advance (members : CharSet) : Nat → Cursor → Option Cursor
  | 0, cursor => some cursor
  | count + 1, ⟨offset, _, character :: rest⟩ =>
    if members.contains character.toNat then
      Cursor.advance members count
        ⟨offset + character.utf8Size, some character, rest⟩
    else none
  | _ + 1, ⟨_, _, []⟩ => none

/-- Add to the cursors found so far those reached by each shorter and then each
longer run of characters of a set, at most `limit` of them. -/
def runs (members : CharSet) :
    Option Nat → Nat → Option Char → List Char → List Cursor → List Cursor
  | _, offset, before, [], found => ⟨offset, before, []⟩ :: found
  | limit, offset, before, character :: rest, found =>
    let found := ⟨offset, before, character :: rest⟩ :: found
    if limit != some 0 && members.contains character.toNat then
      runs members (limit.map (· - 1)) (offset + character.utf8Size)
        (some character) rest found
    else found

/-- The arrivals of a repeated set: after every number of characters from
`min` up to the end of the run or to `max`, the longest first if greedy. -/
def runStep (members : CharSet) (min : Nat) (max : Option Nat)
    (greedy : Bool) : Step := fun thread =>
  match thread.cursor.advance members min with
  | none => []
  | some cursor =>
    let longestFirst :=
      runs members (max.map (· - min)) cursor.offset cursor.before cursor.rest []
    let cursors := if greedy then longestFirst else longestFirst.reverse
    cursors.map fun cursor => ⟨cursor, thread.captures⟩

/-! ## Matching an expression -/

/-- Cross one character of a set. -/
def setStep (members : CharSet) : Step := fun thread =>
  match thread.cursor.advance members 1 with
  | none => []
  | some cursor => [⟨cursor, thread.captures⟩]

/-- Pass where an assertion holds. -/
def lookStep (assertion : Look) : Step := fun thread =>
  if assertion.holds thread.cursor.before thread.cursor.rest.head? then
    [thread]
  else []

/-- Record what a step crosses as a capture. -/
def captureStep (number : Nat) (step : Step) : Step := fun thread =>
  (step thread).map fun arrival =>
    { arrival with
      captures := (number, thread.offset, arrival.offset) :: arrival.captures }

/-- The arrivals of an expression. -/
def Term.step : Term → Step
  | .empty => Step.stay
  | .set members => setStep members
  | .look assertion => lookStep assertion
  | .seq first second => first.step.andThen second.step
  | .alt first second => first.step.orElse second.step
  | .repetition body min max greedy =>
    match body.characters? with
    | some members => runStep members min max greedy
    | none => body.step.between min max greedy
  | .group number body => captureStep number body.step

/-- A match: where it ends and what its groups captured. -/
structure Match where
  stop : Nat
  captures : Captures
deriving DecidableEq, Repr

/--
The preferred match that starts at an offset.  Nothing matches inside a
character or past the end; assertions see the whole text.
-/
def Term.matchAt (term : Term) (source : Source) (offset : Nat) :
    Option Match :=
  match source.rest offset with
  | none => none
  | some rest =>
    let start : Cursor := ⟨offset, source.characterBefore offset, rest⟩
    (term.step ⟨start, []⟩).head?.map fun arrival =>
      ⟨arrival.offset, arrival.captures⟩

/-- The span that a group captured; group 0 is the whole match. -/
def Match.span? (found : Match) (start number : Nat) : Option (Nat × Nat) :=
  if number = 0 then some (start, found.stop)
  else found.captures.lookup number

end OrderedChoice.Regex
