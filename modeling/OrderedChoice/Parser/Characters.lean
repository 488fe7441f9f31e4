import OrderedChoice.Parser.Combinators

/-!
# Characters

Parsers for single characters and for white space.
-/

namespace OrderedChoice

/-! ## Classes of characters -/

/-- Alphabetic characters. -/
def isLetter (character : Char) : Bool :=
  if character.toNat < 0x80 then character.isAlpha
  else Unicode.Property.alphabetic.contains character.toNat

/-- Characters with a numeric value: digits, fractions and letter numerals. -/
def isNumeric (character : Char) : Bool :=
  Unicode.inAnyCategory [.decimalNumber, .letterNumber, .otherNumber]
    character.toNat

/-- White space. -/
def isBlank (character : Char) : Bool :=
  Unicode.Property.whiteSpace.contains character.toNat

namespace Parser

variable {R : Type → Type}

/-! ## Parsers -/

/-- Consume one character that satisfies a predicate. -/
def testChar (predicate : Char → Bool) (description : String) :
    Parser R Char :=
  .leaf (.testChar predicate description)

/-- One particular character. -/
def matchChar (expected : Char) : Parser R Char :=
  testChar (· == expected) (String.singleton expected)

/-- Any one of the characters of a text. -/
def charFrom (characters : String) : Parser R Char :=
  testChar characters.toList.contains ("[" ++ characters ++ "]")

/-- Any character. -/
def anyChar : Parser R Char := testChar (fun _ => true) "any character"

/-- An alphabetic character. -/
def letter : Parser R Char := testChar isLetter "a letter"

/-- A character with a numeric value. -/
def digit : Parser R Char := testChar isNumeric "a digit"

/-- One of the ten decimal digits of ASCII. -/
def decimalDigit : Parser R Char := charFrom "0123456789"

/-- One or more white space characters. -/
def whitespace : Parser R String :=
  concatCharacters (atLeast (testChar isBlank "whitespace") 1)

end Parser

end OrderedChoice
