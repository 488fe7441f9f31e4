import OrderedChoice.Parser.Combinators

/-!
# Choices of literals

Ordered choice over literals, the longest first, so that none is shadowed by a
shorter one that it starts with.  Of literals of one length the one declared
first is tried first.
-/

namespace OrderedChoice

/-- A closed set of values, each with a spelling. -/
structure Enumeration (α : Type) where
  members : List α
  spelling : α → String

namespace Parser

variable {R : Type → Type} {α : Type}

/-- A literal, compared through a transform if one is given. -/
def literalVia (transform : Option (String → String)) (text : String) :
    Parser R String :=
  match transform with
  | none => literal text
  | some transform => literalWith text transform

/-- Spelled values by decreasing number of characters, in declaration order
among equals. -/
def longestFirst (items : List (String × α)) : List (String × α) :=
  items.mergeSort fun left right =>
    decide (right.1.length ≤ left.1.length)

/-- The first of several parsers that succeeds. -/
def firstOf : List (Parser R α) → Parser R α
  | [] => fail "no alternatives"
  | first :: others => others.foldl Parser.orElse first

/-- The value of the longest literal that matches. -/
def literalChoice (transform : Option (String → String))
    (items : List (String × α)) : Parser R α :=
  firstOf <| (longestFirst items).map fun item =>
    result (literalVia transform item.1) item.2

/-- The longest of several literals that matches. -/
def oneOfLiterals (texts : List String) : Parser R String :=
  literalChoice none (texts.map fun text => (text, text))

/-- The longest of several literals that matches through a transform. -/
def oneOfLiteralsWith (texts : List String)
    (transform : String → String) : Parser R String :=
  literalChoice (some transform) (texts.map fun text => (text, text))

/-- The members of an enumeration with their spellings. -/
def spellings (enumeration : Enumeration α) : List (String × α) :=
  enumeration.members.map fun member => (enumeration.spelling member, member)

/-- The spelling of any member of an enumeration. -/
def fromEnum (enumeration : Enumeration α) : Parser R α :=
  literalChoice none (spellings enumeration)

/-- The spelling of any member of an enumeration, through a transform. -/
def fromEnumWith (enumeration : Enumeration α)
    (transform : String → String) : Parser R α :=
  literalChoice (some transform) (spellings enumeration)

end Parser

end OrderedChoice
