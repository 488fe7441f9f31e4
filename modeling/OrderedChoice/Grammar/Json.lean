import OrderedChoice.Number.Binary64
import OrderedChoice.Parser.Literals
import OrderedChoice.Parser.Patterns

/-!
# JSON documents

A grammar for JSON documents, with string escapes and nested containers.  White
space may stand before the document and after every token.

The rule for values refers to itself; `value` takes the reference as an
argument, so the grammar can be placed among any rules.  `rules` is the grammar
on its own.
-/

namespace OrderedChoice

/-- A JSON document.  The members of an object ascend by key, and no key occurs
twice. -/
inductive Json where
  | null
  | bool (value : Bool)
  | number (value : Binary64)
  | string (text : String)
  | array (items : List Json)
  | object (members : List (String × Json))

namespace Json

/-! ## Objects -/

/-- Set a member among members that ascend by key. -/
def insertMember (key : String) (value : Json) :
    List (String × Json) → List (String × Json)
  | [] => [(key, value)]
  | (other, held) :: members =>
    if key < other then (key, value) :: (other, held) :: members
    else if other < key then
      (other, held) :: insertMember key value members
    else (key, value) :: members

/-- The object with the given pairs; of pairs with one key the last counts. -/
def ofPairs (pairs : List (String × Json)) : Json :=
  .object <|
    pairs.foldl (fun members pair => insertMember pair.1 pair.2 members) []

/-! ## Patterns -/

/-- Decimal digits of ASCII. -/
def digitSet : Regex.CharSet := .range 0x30 0x39

/-- Any amount of white space. -/
def blankPattern : Pattern where
  text := "\\s*"
  regex := .repetition (.set .space) 0 none true
  names := []

/-- Numbers: a sign, a whole part without needless zeros, a fraction and an
exponent, of which only the whole part is required. -/
def numberPattern : Pattern where
  text := "-?(0|[1-9][0-9]*)([.][0-9]+)?([eE][+-]?[0-9]+)?"
  regex :=
    .seq
      (.seq
        (.seq
          (.repetition (.set (.single 0x2D)) 0 (some 1) true)
          (.group 1
            (.alt (.set (.single 0x30))
              (.seq (.set (.range 0x31 0x39))
                (.repetition (.set digitSet) 0 none true)))))
        (.repetition
          (.group 2
            (.seq (.set (.single 0x2E))
              (.repetition (.set digitSet) 1 none true)))
          0 (some 1) true))
      (.repetition
        (.group 3
          (.seq
            (.seq (.set (.union (.single 0x65) (.single 0x45)))
              (.repetition (.set (.union (.single 0x2B) (.single 0x2D)))
                0 (some 1) true))
            (.repetition (.set digitSet) 1 none true)))
        0 (some 1) true)
  names := []

/-- Characters of a string that stand for themselves. -/
def plainPattern : Pattern where
  text := "[^\"\\\\]+"
  regex :=
    .repetition
      (.set (.complement (.union (.single 0x22) (.single 0x5C))))
      1 none true
  names := []

/-- An escape by four hexadecimal digits, after its backslash. -/
def unicodePattern : Pattern where
  text := "u([0-9a-fA-F]\x7b4\x7d)"
  regex :=
    .seq (.set (.single 0x75)) <|
      .group 1
        (.repetition
          (.set
            (.union digitSet
              (.union (.range 0x61 0x66) (.range 0x41 0x46))))
          4 (some 4) true)
  names := []

/-! ### The patterns are what their texts say -/

theorem ofText_blankPattern :
    (Pattern.ofText blankPattern.text).toOption = some blankPattern := by
  decide +kernel

theorem ofText_numberPattern :
    (Pattern.ofText numberPattern.text).toOption = some numberPattern := by
  decide +kernel

theorem ofText_plainPattern :
    (Pattern.ofText plainPattern.text).toOption = some plainPattern := by
  decide +kernel

theorem ofText_unicodePattern :
    (Pattern.ofText unicodePattern.text).toOption = some unicodePattern := by
  decide +kernel

/-! ## Tokens -/

variable {R : Type → Type} {α : Type}

open OrderedChoice.Parser

/-- White space, possibly none. -/
def blanks : Parser R String := matching blankPattern (.number 0)

/-- A parser and the white space after it. -/
def lexeme (parser : Parser R α) : Parser R α := parser.skip blanks

/-- A literal and the white space after it. -/
def token (text : String) : Parser R String := lexeme (literal text)

/-- A number. -/
def numeral : Parser R Json :=
  .describe
    (.bind (matching numberPattern (.number 0)) fun text =>
      match Binary64.read? text with
      | some value => success (.number value)
      | none => fail "a number")
    "a number"

/-- The character that four hexadecimal digits name, unless they name half of a
surrogate pair. -/
def unicodeEscape : Parser R String :=
  .bind (matching unicodePattern (.number 1)) fun digits =>
    match Regex.scalarOfHex? digits.toList with
    | some value => success (String.singleton (Char.ofNat value))
    | none => fail "a unicode scalar value"

/-- An escaped character. -/
def escape : Parser R String :=
  (literal "\\").andThen <|
    firstOf
      [literal "\\", literal "/", literal "\"",
        result (literal "b") "\x08", result (literal "f") "\x0C",
        result (literal "n") "\n", result (literal "r") "\x0D",
        result (literal "t") "\t", unicodeEscape]

/-- The inside of a string. -/
def stringContent : Parser R String :=
  concat (many (.orElse (matching plainPattern (.number 0)) escape))

/-- A quoted string. -/
def quoted : Parser R String :=
  ((literal "\"").andThen stringContent).skip (literal "\"")

/-! ## Values -/

/-- A key and a value. -/
def pair (self : Parser R Json) : Parser R (String × Json) :=
  .both ((lexeme quoted).skip (token ":")) self

/-- Pairs in braces. -/
def objectOf (self : Parser R Json) : Parser R Json :=
  .map ofPairs <|
    ((token "\x7b").andThen (sepBy (pair self) (token ",") 0 none)).skip
      (token "\x7d")

/-- Values in brackets. -/
def arrayOf (self : Parser R Json) : Parser R Json :=
  .map array <|
    ((token "[").andThen (sepBy self (token ",") 0 none)).skip (token "]")

/-- Any value, given the parser for the values inside it. -/
def value (self : Parser R Json) : Parser R Json :=
  firstOf
    [.map string (lexeme quoted), lexeme numeral, objectOf self, arrayOf self,
      result (token "true") (bool true), result (token "false") (bool false),
      result (token "null") null]

/-- A document: a value after white space. -/
def document (self : Parser R Json) : Parser R Json := blanks.andThen self

/-! ## The grammar -/

/-- The only rule of the grammar. -/
inductive Rule : Type → Type where
  | value : Rule Json

/-- What a rule stands for. -/
def definition : ∀ {α : Type}, Rule α → Option (Parser Rule α)
  | _, .value => some (Json.value (.ref .value))

/-- The rules of the grammar. -/
def rules : Rules Rule := ⟨definition⟩

/-- A document of the grammar. -/
def parser : Parser Rule Json := document (.ref .value)

end Json

end OrderedChoice
