import OrderedChoice.Unicode.CaseMapping
import OrderedChoice.Unicode.Property

/-!
# The case of a text

Lower and upper case of whole texts, for literals that ignore case.  Characters
map one by one, possibly to several characters, except that a capital sigma
becomes a final sigma at the end of a word.
-/

namespace OrderedChoice

/-- Whether a text, after the characters that case looks through, goes on with
a cased character. -/
def continuesWord (text : List Char) : Bool :=
  match text.dropWhile fun character =>
      Unicode.Property.caseIgnorable.contains character.toNat with
  | [] => false
  | character :: _ => Unicode.Property.cased.contains character.toNat

/-- The lower case of a capital sigma between two texts, the one before it
reversed. -/
def lowercaseSigma (reversedBefore after : List Char) : Char :=
  if continuesWord reversedBefore && !continuesWord after then '\u03C2'
  else '\u03C3'

/-- Map the characters of a text to lower case, given the text before them
reversed. -/
def lowercaseFrom (reversedBefore : List Char) : List Char → List Char
  | [] => []
  | character :: characters =>
    let mapped :=
      if character = '\u03A3' then [lowercaseSigma reversedBefore characters]
      else Unicode.lowercase character
    mapped ++ lowercaseFrom (character :: reversedBefore) characters

/-- The lower case of a text. -/
def lowercaseText (text : String) : String :=
  String.ofList (lowercaseFrom [] text.toList)

/-- The upper case of a text. -/
def uppercaseText (text : String) : String :=
  String.ofList (text.toList.flatMap Unicode.uppercase)

end OrderedChoice
