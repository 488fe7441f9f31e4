import OrderedChoice.ParseResult
import OrderedChoice.Text.Escape
import OrderedChoice.Text.Source

/-!
# Engines

What parsers ask of an engine for regular expressions: to compile an expression,
to say which groups it has, and to search for a match that starts at an offset.
Groups are addressed by number or by name; group 0 is the whole match.

Everything that parsers do with the answers is said here for any engine.
-/

namespace OrderedChoice

/-- A capture group, by number or by name. -/
inductive Group where
  | number (number : Nat)
  | name (name : String)
deriving DecidableEq, Repr

/-- How messages refer to a group. -/
def Group.render : Group → String
  | .number value => toString value
  | .name value => quote value

/-! ## Errors -/

/-- Why an expression does not compile. -/
inductive BuildError where
  | malformed
  | tooLarge
deriving DecidableEq, Repr

/-- The wording of a build error. -/
def BuildError.message : BuildError → String
  | .malformed => "error parsing pattern 0"
  | .tooLarge => "error building NFA"

/-- Why there is no parser for an expression with the groups asked for. -/
inductive PatternError where
  | invalidExpression {cause : BuildError}
  | noSuchGroup (expression : String) (group : Group)
deriving DecidableEq, Repr

/-- The wording of a pattern error. -/
def PatternError.message : PatternError → String
  | @invalidExpression cause => cause.message
  | .noSuchGroup expression group =>
    "pattern " ++ quote expression ++ " has no capture group " ++ group.render

/-! ## Engines -/

/-- Where a match captured its groups, by number.  Group 0 is the whole match;
without a match nothing is captured. -/
abbrev Captured := Nat → Option (Nat × Nat)

/-- An engine for regular expressions. -/
structure Engine where
  /-- Expressions that are ready to search. -/
  Compiled : Type
  compile : String → Except BuildError Compiled
  /-- The number of groups, the whole match included. -/
  groupCount : Compiled → Nat
  groupNamed? : Compiled → String → Option Nat
  /-- What the match that starts at an offset captures. -/
  search : Compiled → Source → Nat → Captured

namespace Engine

variable (engine : Engine)

/-- Whether a compiled expression has a group. -/
def hasGroup (compiled : engine.Compiled) : Group → Bool
  | .number number => decide (number < engine.groupCount compiled)
  | .name name => (engine.groupNamed? compiled name).isSome

/-- Compile an expression and check that it has the groups asked for; the first
one missing is named. -/
def withGroups (expression : String) (groups : List Group) :
    Except PatternError engine.Compiled :=
  match engine.compile expression with
  | .error cause => .error (@PatternError.invalidExpression cause)
  | .ok compiled =>
    match groups.find? fun group => !engine.hasGroup compiled group with
    | some missing => .error (.noSuchGroup expression missing)
    | none => .ok compiled

/-- Where the match that starts at an offset stops, with what it captures.  An
engine is not asked about offsets past the end. -/
def searchAt (compiled : engine.Compiled) (source : Source) (offset : Nat) :
    Option (Nat × Captured) :=
  if source.length < offset then none
  else
    let captured := engine.search compiled source offset
    (captured 0).map fun span => (span.2, captured)

/-- Where a match captured a group, if the group took part in it. -/
def span? (compiled : engine.Compiled) (captured : Captured) :
    Group → Option (Nat × Nat)
  | .number number => captured number
  | .name name => (engine.groupNamed? compiled name).bind captured

/-- The text that a match captured for a group; a group that took no part gives
the empty text. -/
def groupText (compiled : engine.Compiled) (source : Source)
    (captured : Captured) (group : Group) : String :=
  match (engine.span? compiled captured group).bind fun span =>
    source.slice? span.1 span.2 with
  | none => ""
  | some characters => String.ofList characters

/-- Match a compiled expression at an offset and read a value off the texts of
its groups; a failure expects the text of the expression. -/
def parse {α : Type} (expression : String) (compiled : engine.Compiled)
    (read : (Group → String) → α) (source : Source) (index : Nat) :
    ParseResult α :=
  match engine.searchAt compiled source index with
  | some (stop, captured) =>
    .success stop (read (engine.groupText compiled source captured))
  | none => .failure index expression

end Engine

end OrderedChoice
