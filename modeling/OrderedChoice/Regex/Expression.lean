import OrderedChoice.Regex.Syntax

/-!
# Expressions as written

The tree of a regular expression as its text spells it, before flags give the
parts their meaning: which flags are set where, how a character was written,
and how a bracketed class is put together.
-/

namespace OrderedChoice.Regex

/-- A character and whether it was written as two hexadecimal digits, which
name a byte where Unicode is off. -/
structure WrittenCharacter where
  value : Nat
  asByte : Bool
deriving DecidableEq, Repr

/-- The flags, each named for what it turns on. -/
inductive Flag where
  | ignoreCase
  | multiLine
  | dotAll
  | swapGreed
  | unicode
  | anyLineEnding
  | freeSpacing
deriving DecidableEq, Repr

/-- Flags in the order written, each switched on or off. -/
abbrev FlagSettings := List (Flag × Bool)

/-- The classes written with a single letter after the backslash. -/
inductive LetterClass where
  | digit
  | space
  | word
deriving DecidableEq, Repr

/-- The classes written by name between `[:` and `:]`. -/
inductive AsciiClass where
  | alnum
  | alpha
  | ascii
  | blank
  | cntrl
  | digit
  | graph
  | lower
  | print
  | punct
  | space
  | upper
  | word
  | xdigit
deriving DecidableEq, Repr

/-- A class named by a Unicode property, or by a property and its value. -/
inductive ClassName where
  | lone (name : String)
  | valued (property value : String)
deriving DecidableEq, Repr

/-- The operations between parts of a bracketed class. -/
inductive SetOperation where
  | intersection
  | difference
  | symmetricDifference
deriving DecidableEq, Repr

/-- The inside of a bracketed class. -/
inductive SetExpression where
  | character (written : WrittenCharacter)
  | range (first last : WrittenCharacter)
  | ascii (negated : Bool) (kind : AsciiClass)
  | letter (negated : Bool) (kind : LetterClass)
  | named (negated : Bool) (name : ClassName)
  | bracketed (negated : Bool) (members : SetExpression)
  | union (members : List SetExpression)
  | operation (kind : SetOperation) (left right : SetExpression)
deriving Repr

/-- The assertions as written; the line anchors are read by flags. -/
inductive Anchor where
  | caret
  | dollar
  | textStart
  | textEnd
  | word (edge : WordEdge)
deriving DecidableEq, Repr

/-- The kinds of groups. -/
inductive GroupKind where
  | capturing (number : Nat)
  | plain (settings : FlagSettings)
deriving DecidableEq, Repr

/-- An expression as written. -/
inductive Expression where
  | character (written : WrittenCharacter)
  | dot
  | anchor (anchor : Anchor)
  | letter (negated : Bool) (kind : LetterClass)
  | named (negated : Bool) (name : ClassName)
  | bracketed (negated : Bool) (members : SetExpression)
  | settings (items : FlagSettings)
  | repetition (body : Expression) (min : Nat) (max : Option Nat)
      (greedy : Bool)
  | group (kind : GroupKind) (body : Expression)
  | concat (parts : List Expression)
  | alternation (branches : List Expression)
deriving Repr

/-! ## Nesting -/

/-- How deep the parts of a class nest. -/
def SetExpression.depth : SetExpression → Nat
  | .character _ => 0
  | .range _ _ => 0
  | .ascii _ _ => 0
  | .letter _ _ => 0
  | .named _ _ => 0
  | .bracketed _ members => 1 + members.depth
  | .union [] => 0
  | .union members => 1 + depthOfAll members
  | .operation _ left right => 1 + max left.depth right.depth
where
  /-- The greatest depth of several parts. -/
  depthOfAll : List SetExpression → Nat
    | [] => 0
    | member :: members => max member.depth (depthOfAll members)

/-- How deep the parts of an expression nest. -/
def Expression.depth : Expression → Nat
  | .character _ => 0
  | .dot => 0
  | .anchor _ => 0
  | .letter _ _ => 0
  | .named _ _ => 0
  | .bracketed _ members => 1 + members.depth
  | .settings _ => 0
  | .repetition body _ _ _ => 1 + body.depth
  | .group _ body => 1 + body.depth
  | .concat [] => 0
  | .concat parts => 1 + depthOfAll parts
  | .alternation branches => 1 + depthOfAll branches
where
  /-- The greatest depth of several parts. -/
  depthOfAll : List Expression → Nat
    | [] => 0
    | part :: parts => max part.depth (depthOfAll parts)

/-- The deepest nesting that is accepted. -/
def maximumDepth : Nat := 250

/-! ## Assembling -/

/-- A class of several parts; a single part stands for itself. -/
def SetExpression.ofParts : List SetExpression → SetExpression
  | [part] => part
  | parts => .union parts

/-- One expression after the other; a single one stands for itself. -/
def Expression.ofParts : List Expression → Expression
  | [part] => part
  | parts => .concat parts

/-- Several branches; a single one stands for itself. -/
def Expression.ofBranches : List Expression → Expression
  | [branch] => branch
  | branches => .alternation branches

end OrderedChoice.Regex
