import OrderedChoice.ParseResult
import OrderedChoice.Regex.Pattern
import OrderedChoice.Text.Position

/-!
# Leaf parsers

The parsers that every grammar is built from.  A leaf looks at the source from
one offset and gives a result; it runs no other parser.
-/

namespace OrderedChoice

/-- The leaf parsers, by the type of their values. -/
inductive Primitive : Type → Type 1 where
  /-- Succeed with a value, consuming nothing. -/
  | success {α : Type} (value : α) : Primitive α
  /-- Fail with an expectation. -/
  | fail {α : Type} (expected : String) : Primitive α
  /-- The current offset. -/
  | index : Primitive Nat
  /-- The current line and column. -/
  | lineInfo : Primitive Position
  /-- Succeed at the end of the source only. -/
  | eof : Primitive Unit
  /-- Match a text exactly. -/
  | literal (text : String) : Primitive String
  /-- Match a text when both it and as many characters of the source are passed
  through a transform; the value is the text itself. -/
  | literalWith (text : String) (transform : String → String) :
      Primitive String
  /-- Consume one character that satisfies a predicate. -/
  | testChar (predicate : Char → Bool) (description : String) :
      Primitive Char
  /-- Match a pattern and read a value off the texts of its groups. -/
  | pattern {α : Type} (expression : Pattern) (read : (Group → String) → α) :
      Primitive α
  /-- Any function from source and offset to a result. -/
  | custom {α : Type} (function : Source → Nat → ParseResult α) : Primitive α

namespace Primitive

/-- Match a text at an offset. -/
def parseLiteral (text : String) (source : Source) (index : Nat) :
    ParseResult String :=
  match source.rest index with
  | some rest =>
    if text.toList.isPrefixOf rest then
      .success (index + text.utf8ByteSize) text
    else .failure index text
  | none => .failure index text

/-- Match a text at an offset, both transformed.  Where too little remains all
of it is compared; where nothing can be read, the empty text. -/
def parseLiteralWith (text : String) (transform : String → String)
    (source : Source) (index : Nat) : ParseResult String :=
  let taken := (source.restOrEmpty index).take text.length
  if transform (String.ofList taken) = transform text then
    .success (index + byteLength taken) text
  else .failure index text

/-- Consume one character at an offset. -/
def parseCharacter (predicate : Char → Bool) (description : String)
    (source : Source) (index : Nat) : ParseResult Char :=
  match source.rest index with
  | some (character :: _) =>
    if predicate character then
      .success (index + character.utf8Size) character
    else .failure index description
  | _ => .failure index description

/-- Match a pattern at an offset; a failure expects the text of the
expression. -/
def parsePattern {α : Type} (expression : Pattern)
    (read : (Group → String) → α) (source : Source) (index : Nat) :
    ParseResult α :=
  Pattern.engine.parse expression.text expression read source index

/-- The result of a leaf parser at an offset. -/
def parse {α : Type} (primitive : Primitive α) (source : Source)
    (index : Nat) : ParseResult α :=
  match primitive with
  | .success value => .success index value
  | .fail expected => .failure index expected
  | .index => .success index index
  | .lineInfo => .success index (.locate source index)
  | .eof =>
    if source.length ≤ index then .success index ()
    else .failure index "EOF"
  | .literal text => parseLiteral text source index
  | .literalWith text transform =>
    parseLiteralWith text transform source index
  | .testChar predicate description =>
    parseCharacter predicate description source index
  | .pattern expression read => parsePattern expression read source index
  | .custom function => function source index

end Primitive

end OrderedChoice
