import OrderedChoice.Unicode.Property

/-!
# Escaped text

Messages and reports show texts with their awkward characters escaped.  NUL,
tab, newline, carriage return, the backslash and quotes get a two-character
escape; characters without a visible form get their number in hexadecimal.
A character that extends the one before it would attach itself to the
surrounding text, so where that matters it is written by number too.
-/

namespace OrderedChoice

/-- Whether a character has a visible form of its own: every category but
controls, formats, surrogates, private use, unassigned values and separators;
of the separators only the plain space. -/
def isPrintable (character : Char) : Bool :=
  if character.toNat < 0x7F then decide (0x20 ≤ character.toNat)
  else
    !Unicode.inAnyCategory
      [.control, .format, .surrogate, .privateUse, .unassigned,
        .spaceSeparator, .lineSeparator, .paragraphSeparator]
      character.toNat

/-- Whether a character extends the user-perceived character before it. -/
def isGraphemeExtender (character : Char) : Bool :=
  decide (0x80 ≤ character.toNat) &&
    Unicode.Property.graphemeExtend.contains character.toNat

/-- What an escaping adds to the characters that are always escaped. -/
structure Escaping where
  /-- Also escape the apostrophe. -/
  apostrophe : Bool
  /-- Also write extending characters by number. -/
  extenders : Bool
deriving DecidableEq, Repr

namespace Escaping

/-- A character by its number, as in `\u{301}`. -/
def byNumber (character : Char) : List Char :=
  ['\\', 'u', '\x7b'] ++ Nat.toDigits 16 character.toNat ++ ['\x7d']

/-- The escaped form of one character. -/
def character (escaping : Escaping) (plain : Char) : List Char :=
  match plain with
  | '\x00' => ['\\', '0']
  | '\t' => ['\\', 't']
  | '\r' => ['\\', 'r']
  | '\n' => ['\\', 'n']
  | '\\' => ['\\', '\\']
  | '"' => ['\\', '"']
  | plain =>
    if plain = '\'' then
      if escaping.apostrophe then ['\\', plain] else [plain]
    else if escaping.extenders && isGraphemeExtender plain then
      byNumber plain
    else if isPrintable plain then [plain]
    else byNumber plain

/-- The escaping inside apostrophes of a text whose next character opens it. -/
def opening : Escaping := ⟨true, true⟩

/-- The escaping inside apostrophes after the first character. -/
def continuing : Escaping := ⟨true, false⟩

/-- The escaping inside double quotes. -/
def doubleQuoted : Escaping := ⟨false, true⟩

end Escaping

/--
A description as messages show it between apostrophes.  Only its first
character can attach itself to the apostrophe, so extending characters are
escaped there alone.
-/
def escapeDescription : List Char → List Char
  | [] => []
  | first :: others =>
    Escaping.opening.character first ++
      others.flatMap Escaping.continuing.character

/-- A text as reports show it, in double quotes. -/
def quote (text : String) : String :=
  String.ofList
    ('"' :: (text.toList.flatMap Escaping.doubleQuoted.character ++ ['"']))

end OrderedChoice
