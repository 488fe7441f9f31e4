import OrderedChoice.Regex.CharSet

/-!
# Regular expressions

The core language that matching is defined on.  Every flag has been resolved
here: a character class is a set, an anchor says which of its readings it has,
and each repetition says whether it prefers more or fewer turns.
-/

namespace OrderedChoice.Regex

/-- Which characters count as part of a word. -/
inductive WordKind where
  | ascii
  | unicode
deriving DecidableEq, Repr

/-- The ways in which an assertion can look at the edges of a word. -/
inductive WordEdge where
  | boundary
  | noBoundary
  | start
  | stop
  | startHalf
  | stopHalf
deriving DecidableEq, Repr

/-- A condition on the characters on either side of a position. -/
inductive Look where
  | textStart
  | textEnd
  /-- After a line feed or at the start. -/
  | lineStart
  /-- Before a line feed or at the end. -/
  | lineEnd
  /-- As `lineStart`, with carriage returns ending lines too; never between a
  carriage return and its line feed. -/
  | lineStartAnyEnding
  /-- As `lineEnd`, with carriage returns ending lines too; never between a
  carriage return and its line feed. -/
  | lineEndAnyEnding
  | word (kind : WordKind) (edge : WordEdge)
deriving DecidableEq, Repr

/-- A regular expression of the core language. -/
inductive Term where
  | empty
  | set (members : CharSet)
  | look (assertion : Look)
  | seq (first second : Term)
  | alt (first second : Term)
  | repetition (body : Term) (min : Nat) (max : Option Nat) (greedy : Bool)
  | group (number : Nat) (body : Term)
deriving DecidableEq, Repr

namespace Term

/-- The set of a regular expression that matches single characters. -/
def characters? : Term → Option CharSet
  | .set members => some members
  | _ => none

/-- The numbers of the capture groups, in the order of their opening. -/
def groups : Term → List Nat
  | .empty => []
  | .set _ => []
  | .look _ => []
  | .seq first second => first.groups ++ second.groups
  | .alt first second => first.groups ++ second.groups
  | .repetition body _ _ _ => body.groups
  | .group number body => number :: body.groups

/-- Whether a regular expression can match the empty text only, because no
part of it crosses a character. -/
def isZeroWidth : Term → Bool
  | .empty => true
  | .set _ => false
  | .look _ => true
  | .seq first second => first.isZeroWidth && second.isZeroWidth
  | .alt first second => first.isZeroWidth && second.isZeroWidth
  | .repetition body _ _ _ => body.isZeroWidth
  | .group _ body => body.isZeroWidth

/-- Whether a regular expression cannot match the empty text, because some part
of it that it cannot leave out crosses a character. -/
def crossesSome : Term → Bool
  | .empty => false
  | .set _ => true
  | .look _ => false
  | .seq first second => first.crossesSome || second.crossesSome
  | .alt first second => first.crossesSome && second.crossesSome
  | .repetition body min _ _ => min != 0 && body.crossesSome
  | .group _ body => body.crossesSome

/-- A repetition.  No turn at all is the empty expression, which forgets the
groups of the body; of a body that crosses nothing one turn does what many
do. -/
def repeated (body : Term) (min : Nat) (max : Option Nat) (greedy : Bool) :
    Term :=
  if max = some 0 then .empty
  else if body.isZeroWidth then .repetition body (Nat.min min 1) (some 1) greedy
  else .repetition body min max greedy

end Term

end OrderedChoice.Regex
