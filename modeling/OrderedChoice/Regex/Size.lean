import OrderedChoice.Regex.Ranges
import OrderedChoice.Regex.Syntax

/-!
# Size

Counted repetitions let a short expression stand for a very large one.  An
expression is matched by two automata that read bytes, one forward and one
backward, and is refused before anything is matched with it if either takes too
much memory.

The size of an automaton is added up from its parts, for an expression as it is
written: parts that alternatives have in common are counted in each.  Every
state takes 32 bytes; one that goes on by the ranges of bytes it meets takes 8
more for each range, and one that chooses among others 4 more for each of them.
-/

namespace OrderedChoice.Regex

/-- The direction in which an automaton reads. -/
inductive Direction where
  | forward
  | backward
deriving DecidableEq, Repr

/-! ## Bytes of characters -/

/-- Ranges of bytes in a row, for the encodings of several characters. -/
abbrev ByteRanges := List (Nat × Nat)

/-- How many numbers there are with a given number of digits to base 64. -/
def blockLength : Nat → Nat
  | 0 => 1
  | digits + 1 => 64 * blockLength digits

/--
The numbers from `first` to `last` with a given number of digits to base 64
behind a leading number, cut into parts in which each digit is free within a
range of its own.
-/
def digitRanges : Nat → Nat → Nat → List ByteRanges
  | 0, first, last => [[(first, last)]]
  | digits + 1, first, last =>
    let block := blockLength (digits + 1)
    let low := first / block
    let high := last / block
    if low = high then
      (digitRanges digits (first % block) (last % block)).map ((low, low) :: ·)
    else
      let startsWhole := first % block == 0
      let stopsWhole := last % block + 1 == block
      let wholeLow := if startsWhole then low else low + 1
      let wholeHigh := if stopsWhole then high else high - 1
      (if startsWhole then []
        else
          (digitRanges digits (first % block) (block - 1)).map
            ((low, low) :: ·)) ++
        (if wholeLow ≤ wholeHigh then
          [(wholeLow, wholeHigh) :: List.replicate (digits + 1) (0, 63)]
        else []) ++
        (if stopsWhole then []
        else (digitRanges digits 0 (last % block)).map ((high, high) :: ·))

/-- A length of encodings: the characters that have it, what is added to the
leading number for the leading byte, and the number of further bytes. -/
structure EncodingLength where
  first : Nat
  last : Nat
  lead : Nat
  further : Nat

/-- The lengths of encodings in UTF-8. -/
def encodingLengths : List EncodingLength :=
  [⟨0, 0x7F, 0, 0⟩, ⟨0x80, 0x7FF, 0xC0, 1⟩, ⟨0x800, 0xFFFF, 0xE0, 2⟩,
    ⟨0x10000, 0x10FFFF, 0xF0, 3⟩]

/-- The encodings of a given length of the characters of a range.  Bytes behind
the leading one are told by their digits. -/
def EncodingLength.encodings (length : EncodingLength) (range : Nat × Nat) :
    List ByteRanges :=
  let first := max range.1 length.first
  let last := min range.2 length.last
  if first ≤ last then
    (digitRanges length.further first last).map fun bytes =>
      bytes.modifyHead fun lead =>
        (lead.1 + length.lead, lead.2 + length.lead)
  else []

/-- The encodings of the characters of a range. -/
def encodings (range : Nat × Nat) : List ByteRanges :=
  encodingLengths.flatMap fun length => length.encodings range

/-- The encodings of the characters of a set. -/
def CharSet.encodings (members : CharSet) : List ByteRanges :=
  members.ranges.flatMap Regex.encodings

/-! ## Sizes of sets -/

/-- What a state takes, besides ranges and choices. -/
def stateSize : Nat := 32

/-- What a range of bytes takes. -/
def rangeSize : Nat := 8

/-- What a state to choose takes. -/
def entrySize : Nat := 4

/-- The number of ranges that two rows of ranges begin with alike. -/
def sharedLength (bytes others : ByteRanges) : Nat :=
  ((bytes.zip others).takeWhile fun pair => pair.1 == pair.2).length

/-- The states of an automaton that reads encodings from their last byte on:
one for each way in which they begin, as these are shared. -/
def backwardStates (previous : ByteRanges) : List ByteRanges → Nat
  | [] => 0
  | bytes :: others =>
    bytes.length - sharedLength bytes previous + backwardStates bytes others

/-- Encodings that go on from a state, by the range that they go on with. -/
def byFirstRange (encodings : List ByteRanges) : List (List ByteRanges) :=
  encodings.splitBy fun bytes others => bytes.head? == others.head?

/-- The states that follow a state, each told by the encodings that go on from
it. -/
def followingStates (state : List ByteRanges) : List (List ByteRanges) :=
  ((byFirstRange state).map fun encodings => encodings.map List.tail).filter
    (· != [[]])

/-- The states that follow one of several states, each once. -/
def nextStates (states : List (List ByteRanges)) : List (List ByteRanges) :=
  (states.flatMap followingStates).eraseDups

/-- The states of an automaton that reads encodings from their first byte on.
States from which the same encodings go on are one state. -/
def forwardStates (encodings : List ByteRanges) : List (List ByteRanges) :=
  let second := nextStates [encodings]
  let third := nextStates second
  let fourth := nextStates third
  encodings :: (second ++ third ++ fourth).eraseDups

/-- What states take that go on by ranges of bytes. -/
def forwardSize : List (List ByteRanges) → Nat
  | [] => 0
  | state :: states =>
    stateSize + rangeSize * (byFirstRange state).length + forwardSize states

namespace CharSet

/-- Whether a set has a single member. -/
def isLone (members : CharSet) : Bool :=
  match members.encodings with
  | [bytes] => bytes.all fun range => range.1 == range.2
  | _ => false

/-- The size of a set.  A lone character takes a state for every byte, and
ASCII characters take one state for all. -/
def size (direction : Direction) (members : CharSet) : Nat :=
  let encodings := members.encodings
  if members.isLone then stateSize * encodings.flatten.length
  else if encodings.all fun bytes => bytes.length == 1 then
    2 * stateSize + rangeSize * encodings.length
  else
    match direction with
    | .forward => stateSize + forwardSize (forwardStates encodings)
    | .backward =>
      2 * stateSize + entrySize * encodings.length +
        stateSize * backwardStates [] encodings

/-- The set that several alternatives make up, if all of them are lone
characters or none is. -/
def merged? (alternatives : List CharSet) : Option CharSet :=
  if alternatives.all isLone || alternatives.all (!isLone ·) then
    some (alternatives.foldr .union .empty)
  else none

end CharSet

/-! ## Sizes of expressions -/

/-- Where an expression stands: by itself, in a sequence or as one of several
alternatives. -/
inductive Place where
  | alone
  | inSequence
  | alternative
deriving DecidableEq, Repr

/-- What it takes to choose the expression that stands at a place. -/
def Place.entrySize : Place → Nat
  | .alternative => Regex.entrySize
  | _ => 0

/-- What a state takes that chooses between two. -/
def choiceSize : Nat := stateSize + 2 * entrySize

/-- What it takes to record where a group starts and stops, which is done
forward only. -/
def Direction.groupSize : Direction → Nat
  | .forward => 2 * stateSize
  | .backward => 0

/--
The size of a repetition of a body.  The body is there once for every turn that
is counted.  Where it may cross nothing, a choice of its own decides whether
there is a first turn of any number.
-/
def repetitionSize (crosses : Bool) (body min : Nat) : Option Nat → Nat
  | none =>
    if min = 0 then
      if crosses then body + choiceSize else body + 2 * choiceSize + stateSize
    else min * body + choiceSize
  | some max =>
    if min = 0 ∧ max = 1 then body + choiceSize + stateSize
    else if min = max then min * body
    else
      (if min = 0 then stateSize else min * body) + stateSize +
        (max - min) * (body + choiceSize)

namespace Term

/-- The sets of an expression that chooses between characters. -/
def sets? : Term → Option (List CharSet)
  | .set members => some [members]
  | .alt first second => do
    let left ← first.sets?
    let right ← second.sets?
    some (left ++ right)
  | _ => none

/-- The size of an expression at a place.  Sequences and choices take up those
that stand in them, and sets that are the alternatives of a choice may be
merged. -/
def size (direction : Direction) : Place → Term → Nat
  | place, .empty =>
    if place = .inSequence then 0 else place.entrySize + stateSize
  | place, .set members => place.entrySize + members.size direction
  | place, .look _ => place.entrySize + stateSize
  | place, .seq first second =>
    place.entrySize + first.size direction .inSequence +
      second.size direction .inSequence
  | place, .alt first second =>
    let alternatives :=
      first.size direction .alternative + second.size direction .alternative
    if place = .alternative then alternatives
    else
      match (alt first second).sets?.bind CharSet.merged? with
      | some members => members.size direction
      | none => 2 * stateSize + alternatives
  | place, .repetition body min max _ =>
    place.entrySize +
      repetitionSize body.crossesSome (body.size direction .alone) min max
  | place, .group _ body =>
    place.entrySize + direction.groupSize + body.size direction .alone

/-- The size of an automaton for an expression.  It starts with a loop over any
bytes and ends in a state of its own, around the group of the whole match. -/
def automatonSize (direction : Direction) (term : Term) : Nat :=
  (choiceSize + 2 * stateSize + rangeSize) +
    (direction.groupSize + term.size direction .alone) + stateSize

/-- The largest size that is accepted: ten mebibytes. -/
def sizeLimit : Nat := 10 * 1024 * 1024

/-- Whether neither automaton for an expression is too large. -/
def fits (term : Term) : Bool :=
  decide (term.automatonSize .forward ≤ sizeLimit) &&
    decide (term.automatonSize .backward ≤ sizeLimit)

end Term

end OrderedChoice.Regex
