import OrderedChoice.Parser.Combinators

/-!
# Patterns as parsers

Parsers that match a regular expression anchored at the current offset.  The
expression sees the whole source, so anchors and word edges look at what stands
before the offset.

Such parsers can be made with any engine; those of this library are made with
its own one.
-/

namespace OrderedChoice

/-! ## Leaves for an engine -/

/-- How the compiled expressions of an engine are made leaf parsers. -/
structure Engine.Leaves (engine : Engine) where
  leaf : {α : Type} → String → engine.Compiled → ((Group → String) → α) →
    Primitive α
  /-- A leaf searches with the expression and expects its text. -/
  parse_leaf : ∀ {α : Type} {expression : String} {compiled : engine.Compiled}
    (read : (Group → String) → α),
    engine.compile expression = .ok compiled →
      (leaf expression compiled read).parse =
        engine.parse expression compiled read

namespace Engine.Leaves

variable {engine : Engine} {R : Type → Type}

/-- Every engine has leaves: its own function, taken as it is. -/
def ofFunction (engine : Engine) : engine.Leaves where
  leaf expression compiled read :=
    .custom (engine.parse expression compiled read)
  parse_leaf _ _ := rfl

/-- Match an expression and give the text of one group. -/
def patternGroup (leaves : engine.Leaves) (expression : String)
    (group : Group) : Except PatternError (Parser R String) :=
  match engine.withGroups expression [group] with
  | .error error => .error error
  | .ok compiled =>
    .ok (.leaf (leaves.leaf expression compiled fun text => text group))

/-- Match an expression and give the whole match. -/
def pattern (leaves : engine.Leaves) (expression : String) :
    Except PatternError (Parser R String) :=
  leaves.patternGroup expression (.number 0)

/-- Match an expression and give the texts of several groups in order. -/
def patternGroups (leaves : engine.Leaves) (expression : String)
    (groups : List Group) : Except PatternError (Parser R (List String)) :=
  match engine.withGroups expression groups with
  | .error error => .error error
  | .ok compiled =>
    .ok (.leaf (leaves.leaf expression compiled fun text => groups.map text))

end Engine.Leaves

/-! ## Leaves for patterns -/

namespace Pattern

/-- An expression is built as it is read. -/
theorem read?_of_ofText {text : String} {pattern : Pattern}
    (built : ofText text = .ok pattern) : read? text = some pattern := by
  rw [ofText] at built
  split at built
  · cases built
  · rename_i read _
    split at built
    · cases built
      assumption
    · cases built

/-- A pattern keeps the text that it was read from. -/
theorem text_of_read? {text : String} {pattern : Pattern}
    (read : read? text = some pattern) : pattern.text = text := by
  simp only [read?, Option.bind_eq_bind, Option.bind_eq_some_iff] at read
  rcases read with ⟨_, _, _, _, built⟩
  cases built
  rfl

/-- Patterns are leaves of their own. -/
def leaves : engine.Leaves where
  leaf _ compiled read := .pattern compiled read
  parse_leaf read built := by
    rw [← text_of_read? (read?_of_ofText built)]
    rfl

end Pattern

namespace Parser

variable {R : Type → Type}

/-- Match a pattern that is already built and give the text of a group. -/
def matching (pattern : Pattern) (group : Group) : Parser R String :=
  .leaf (.pattern pattern fun text => text group)

/-- Match an expression and give the text of one group. -/
def patternGroup (expression : String) (group : Group) :
    Except PatternError (Parser R String) :=
  Pattern.leaves.patternGroup expression group

/-- Match an expression and give the whole match. -/
def pattern (expression : String) : Except PatternError (Parser R String) :=
  Pattern.leaves.pattern expression

/-- Match an expression and give the texts of several groups in order. -/
def patternGroups (expression : String) (groups : List Group) :
    Except PatternError (Parser R (List String)) :=
  Pattern.leaves.patternGroups expression groups

end Parser

end OrderedChoice
