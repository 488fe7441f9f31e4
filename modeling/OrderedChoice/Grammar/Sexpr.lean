import OrderedChoice.Parser.Literals
import OrderedChoice.Parser.Patterns

/-!
# S-expressions

A grammar for programs made of S-expressions, with comments, booleans and
quoting.  White space and comments may stand before the program and after
every complete expression.

The rule for expressions refers to itself; `expression` takes the reference as
an argument, so the grammar can be placed among any rules.  `rules` is the
grammar on its own.
-/

namespace OrderedChoice

/-- An S-expression.  Numbers are those that fit in 64 bits with a sign. -/
inductive Sexpr where
  | bool (value : Bool)
  | number (value : Nat)
  | symbol (name : String)
  | list (items : List Sexpr)

namespace Sexpr

/-- The list that quotes an expression. -/
def quoteForm (quoted : Sexpr) : Sexpr := .list [.symbol "quote", quoted]

/-- The largest number that fits in 64 bits with a sign. -/
def maximumNumber : Nat := 9223372036854775807

/-- The number that decimal digits spell, if it fits. -/
def numberOf? (digits : List Char) : Option Nat :=
  let value :=
    digits.foldl
      (fun value digit => value * 10 + (digit.toNat - '0'.toNat)) 0
  if value ≤ maximumNumber then some value else none

/-! ## Patterns -/

/-- A stretch of white space. -/
def blankPattern : Pattern where
  text := "\\s+"
  regex := .repetition (.set .space) 1 none true
  names := []

/-- A comment up to the end of its line. -/
def commentPattern : Pattern where
  text := ";.*"
  regex :=
    .seq (.set (.single 0x3B))
      (.repetition (.set (.complement (.single 0x0A))) 0 none true)
  names := []

/-- Decimal digits. -/
def digitsPattern : Pattern where
  text := "[0-9]+"
  regex := .repetition (.set (.range 0x30 0x39)) 1 none true
  names := []

/-- The characters of a symbol. -/
def symbolPattern : Pattern where
  text := "[\\w-]+"
  regex := .repetition (.set (.union .word (.single 0x2D))) 1 none true
  names := []

/-! ### The patterns are what their texts say -/

theorem ofText_blankPattern :
    (Pattern.ofText blankPattern.text).toOption = some blankPattern := by
  decide +kernel

theorem ofText_commentPattern :
    (Pattern.ofText commentPattern.text).toOption = some commentPattern := by
  decide +kernel

theorem ofText_digitsPattern :
    (Pattern.ofText digitsPattern.text).toOption = some digitsPattern := by
  decide +kernel

/-- That the pattern for symbols is not too large is left to be shown. -/
theorem read?_symbolPattern :
    Pattern.read? symbolPattern.text = some symbolPattern := by
  decide +kernel

/-! ## Tokens -/

variable {R : Type → Type} {α : Type}

open OrderedChoice.Parser

/-- White space and comments, possibly none. -/
def ignored : Parser R String :=
  concat <| many <|
    .orElse (matching blankPattern (.number 0))
      (matching commentPattern (.number 0))

/-- A parser and what is ignored after it. -/
def lexeme (parser : Parser R α) : Parser R α := parser.skip ignored

/-- A number that fits in 64 bits. -/
def numeral : Parser R Sexpr :=
  .bind (lexeme (matching digitsPattern (.number 0))) fun digits =>
    match numberOf? digits.toList with
    | some value => success (.number value)
    | none => fail "a number that fits in 64 bits"

/-- A symbol. -/
def name : Parser R Sexpr :=
  .map symbol (lexeme (matching symbolPattern (.number 0)))

/-- A boolean. -/
def boolean : Parser R Sexpr :=
  .orElse (result (lexeme (literal "#t")) (bool true))
    (result (lexeme (literal "#f")) (bool false))

/-- An expression without parts. -/
def atom : Parser R Sexpr := firstOf [boolean, numeral, name]

/-! ## Expressions -/

/-- Expressions in parentheses. -/
def form (self : Parser R Sexpr) : Parser R Sexpr :=
  .map list <|
    ((lexeme (literal "(")).andThen (many self)).skip (lexeme (literal ")"))

/-- A quoted expression. -/
def quotation (self : Parser R Sexpr) : Parser R Sexpr :=
  (literal "'").andThen (.map quoteForm self)

/-- Any expression, given the parser for the expressions inside it. -/
def expression (self : Parser R Sexpr) : Parser R Sexpr :=
  firstOf [form self, quotation self, atom]

/-- A program: expressions after what is ignored. -/
def program (self : Parser R Sexpr) : Parser R (List Sexpr) :=
  ignored.andThen (many self)

/-! ## The grammar -/

/-- The only rule of the grammar. -/
inductive Rule : Type → Type where
  | expression : Rule Sexpr

/-- What a rule stands for. -/
def definition : ∀ {α : Type}, Rule α → Option (Parser Rule α)
  | _, .expression => some (Sexpr.expression (.ref .expression))

/-- The rules of the grammar. -/
def rules : Rules Rule := ⟨definition⟩

/-- A program of the grammar. -/
def parser : Parser Rule (List Sexpr) := program (.ref .expression)

end Sexpr

end OrderedChoice
