import OrderedChoice.Grammar.Json
import OrderedChoice.Grammar.Sexpr

/-!
# Fragments

A fragment is a sublanguage of parsers: it says which leaves may be used,
whether the combinators that replace diagnostics may be, and whether a body of
steps may give up although none of its steps has failed.

A body is judged along its possible runs.  Once a step has failed, no later
step runs its parser, so nothing is asked of the parsers that stand there.
-/

namespace OrderedChoice

/-- What the parsers of a sublanguage are made of. -/
structure Fragment where
  /-- The leaves that may be used. -/
  leaf : ∀ {α : Type}, Primitive α → Prop
  /-- Whether parsers may look ahead, be repeated up to a terminator, and have
  their failures described. -/
  lookahead : Prop
  /-- Whether a body may give up while its driver is still running. -/
  earlyHalt : Prop

mutual

/-- Whether a parser belongs to a fragment. -/
def Parser.Within {R : Type → Type} (fragment : Fragment) :
    ∀ {α : Type}, Parser R α → Prop
  | _, .leaf primitive => fragment.leaf primitive
  | _, .ref _ => True
  | _, .bind first next =>
    first.Within fragment ∧ ∀ value, (next value).Within fragment
  | _, .map _ parser => parser.Within fragment
  | _, .both first second => first.Within fragment ∧ second.Within fragment
  | _, .orElse first second => first.Within fragment ∧ second.Within fragment
  | _, .times item _ _ => item.Within fragment
  | _, .repeatUntil item terminator _ _ _ =>
    fragment.lookahead ∧ item.Within fragment ∧ terminator.Within fragment
  | _, .peek parser => fragment.lookahead ∧ parser.Within fragment
  | _, .shouldFail parser _ => fragment.lookahead ∧ parser.Within fragment
  | _, .describe parser _ => fragment.lookahead ∧ parser.Within fragment
  | _, .generate body => body.Within fragment false

/-- Whether a body belongs to a fragment, from a state of the step driver in
which a step has failed or not. -/
def Steps.Within {R : Type → Type} (fragment : Fragment) :
    ∀ {α : Type}, Steps R α → (halted : Bool) → Prop
  | _, .done _, _ => True
  | _, .halt, halted => halted = true ∨ fragment.earlyHalt
  | _, .step _ next, true => (next none).Within fragment true
  | _, .step parser next, false =>
    parser.Within fragment ∧
      (∀ value, (next (some value)).Within fragment false) ∧
      (next none).Within fragment true
  | _, .index next, true => (next none).Within fragment true
  | _, .index next, false =>
    ∀ index, (next (some index)).Within fragment false
  | _, .halted next, halted => (next halted).Within fragment halted
  | _, .aside _ next, halted => next.Within fragment halted

end

attribute [local simp] Parser.Within Steps.Within

/-- Whether every definition of a family of rules belongs to a fragment. -/
def Rules.Within {R : Type → Type} (fragment : Fragment)
    (rules : Rules R) : Prop :=
  ∀ {α : Type} (rule : R α) (parser : Parser R α),
    rules.definition rule = some parser → parser.Within fragment

/-! ## Fragments in use -/

/-- The leaves of the library: all but those given by a function of their
own. -/
def Primitive.IsLibrary {α : Type} : Primitive α → Prop
  | .custom _ => False
  | _ => True

namespace Fragment

/-- Parsers that never replace diagnostics, over any leaves. -/
def reporting : Fragment where
  leaf := fun _ => True
  lookahead := False
  earlyHalt := True

/-- Parsers built from the library alone. -/
def library : Fragment where
  leaf := Primitive.IsLibrary
  lookahead := True
  earlyHalt := True

/-- A fragment that has the leaves of the library. -/
def HasLibraryLeaves (fragment : Fragment) : Prop :=
  ∀ {α : Type} (primitive : Primitive α),
    primitive.IsLibrary → fragment.leaf primitive

theorem hasLibraryLeaves_reporting : reporting.HasLibraryLeaves :=
  fun _ _ => trivial

theorem hasLibraryLeaves_library : library.HasLibraryLeaves :=
  fun _ isLibrary => isLibrary

end Fragment

/-! ## Derived combinators -/

namespace Parser

variable {R : Type → Type} {fragment : Fragment} {α β : Type}

theorem within_leaf (leaves : fragment.HasLibraryLeaves)
    {primitive : Primitive α} (isLibrary : primitive.IsLibrary) :
    (Parser.leaf primitive : Parser R α).Within fragment :=
  leaves primitive isLibrary

theorem within_andThen {first : Parser R α} {second : Parser R β} :
    (first.andThen second).Within fragment ↔
      first.Within fragment ∧ second.Within fragment := by
  simp [andThen]

theorem within_skip {first : Parser R α} {second : Parser R β} :
    (first.skip second).Within fragment ↔
      first.Within fragment ∧ second.Within fragment := by
  simp [skip]

theorem within_result {parser : Parser R α} {value : β} :
    (parser.result value).Within fragment ↔ parser.Within fragment := by
  simp [result]

/-- A separated list belongs to the fragments that its parts belong to. -/
theorem within_sepBy (leaves : fragment.HasLibraryLeaves)
    {item : Parser R α} {separator : Parser R β}
    (itemWithin : item.Within fragment)
    (separatorWithin : separator.Within fragment) (min : Nat)
    (max : Option Nat) :
    (item.sepBy separator min max).Within fragment := by
  have nothing : (success [] : Parser R (List α)).Within fragment :=
    within_leaf leaves trivial
  rw [sepBy]
  split
  · exact nothing
  · have items := within_andThen.mpr ⟨separatorWithin, itemWithin⟩
    split
    · exact ⟨⟨itemWithin, items⟩, nothing⟩
    · exact ⟨itemWithin, items⟩

/-- A choice belongs to the fragments that its alternatives belong to. -/
theorem within_firstOf (leaves : fragment.HasLibraryLeaves)
    {parsers : List (Parser R α)}
    (within : ∀ parser ∈ parsers, parser.Within fragment) :
    (firstOf parsers).Within fragment := by
  cases parsers with
  | nil => exact within_leaf leaves trivial
  | cons first others =>
      rw [firstOf]
      have firstWithin := within first List.mem_cons_self
      have othersWithin : ∀ parser ∈ others, parser.Within fragment :=
        fun parser member => within parser (List.mem_cons_of_mem _ member)
      clear within
      induction others generalizing first with
      | nil => exact firstWithin
      | cons second others inductiveStep =>
          exact inductiveStep (.orElse first second)
            ⟨firstWithin, othersWithin second List.mem_cons_self⟩
            fun parser member =>
              othersWithin parser (List.mem_cons_of_mem _ member)

theorem within_mark (leaves : fragment.HasLibraryLeaves)
    {parser : Parser R α} (within : parser.Within fragment) :
    parser.mark.Within fragment := by
  have lineInfoWithin : (lineInfo : Parser R Position).Within fragment :=
    within_leaf leaves trivial
  simp [mark, Steps.require, lineInfoWithin, within]

end Parser

/-! ## The bundled grammars -/

namespace Json

variable {R : Type → Type} {fragment : Fragment} {α : Type}

theorem within_token (leaves : fragment.HasLibraryLeaves) (text : String) :
    (token text : Parser R String).Within fragment := by
  rw [token, lexeme, Parser.within_skip]
  exact ⟨Parser.within_leaf leaves trivial, Parser.within_leaf leaves trivial⟩

theorem within_lexeme (leaves : fragment.HasLibraryLeaves)
    {parser : Parser R α} (within : parser.Within fragment) :
    (lexeme parser).Within fragment := by
  rw [lexeme, Parser.within_skip]
  exact ⟨within, Parser.within_leaf leaves trivial⟩

theorem within_numeral (leaves : fragment.HasLibraryLeaves)
    (lookahead : fragment.lookahead) :
    (numeral : Parser R Json).Within fragment := by
  refine ⟨lookahead, Parser.within_leaf leaves trivial, ?_⟩
  intro text
  dsimp only
  split
  · exact Parser.within_leaf leaves trivial
  · exact Parser.within_leaf leaves trivial

theorem within_unicodeEscape (leaves : fragment.HasLibraryLeaves) :
    (unicodeEscape : Parser R String).Within fragment := by
  refine ⟨Parser.within_leaf leaves trivial, ?_⟩
  intro digits
  dsimp only
  split
  · exact Parser.within_leaf leaves trivial
  · exact Parser.within_leaf leaves trivial

theorem within_escape (leaves : fragment.HasLibraryLeaves) :
    (escape : Parser R String).Within fragment := by
  rw [escape, Parser.within_andThen]
  refine ⟨Parser.within_leaf leaves trivial,
    Parser.within_firstOf leaves ?_⟩
  have literalWithin : ∀ text : String,
      (Parser.literal text : Parser R String).Within fragment :=
    fun text => Parser.within_leaf leaves trivial
  simp [Parser.within_result, literalWithin, within_unicodeEscape leaves]

theorem within_quoted (leaves : fragment.HasLibraryLeaves) :
    (quoted : Parser R String).Within fragment := by
  rw [quoted, Parser.within_skip, Parser.within_andThen]
  refine ⟨⟨Parser.within_leaf leaves trivial, ?_⟩,
    Parser.within_leaf leaves trivial⟩
  exact ⟨Parser.within_leaf leaves trivial, within_escape leaves⟩

theorem within_value (leaves : fragment.HasLibraryLeaves)
    (lookahead : fragment.lookahead) {self : Parser R Json}
    (within : self.Within fragment) : (value self).Within fragment := by
  have quotedWithin := within_lexeme leaves (within_quoted (R := R) leaves)
  have pairWithin : (pair self).Within fragment :=
    ⟨Parser.within_skip.mpr ⟨quotedWithin, within_token leaves ":"⟩, within⟩
  apply Parser.within_firstOf leaves
  simp only [List.forall_mem_cons, Parser.within_result, objectOf, arrayOf,
    Parser.Within, Parser.within_skip, Parser.within_andThen]
  exact ⟨quotedWithin, within_lexeme leaves (within_numeral leaves lookahead),
    ⟨⟨within_token leaves _,
      Parser.within_sepBy leaves pairWithin (within_token leaves _) _ _⟩,
      within_token leaves _⟩,
    ⟨⟨within_token leaves _,
      Parser.within_sepBy leaves within (within_token leaves _) _ _⟩,
      within_token leaves _⟩,
    within_token leaves _, within_token leaves _, within_token leaves _,
    by simp⟩

/-- The grammar of JSON documents is built from the library alone. -/
theorem rules_within_library : rules.Within .library := by
  intro α rule parser defined
  cases rule
  cases defined
  exact within_value Fragment.hasLibraryLeaves_library trivial trivial

theorem parser_within_library : parser.Within .library :=
  Parser.within_andThen.mpr ⟨trivial, trivial⟩

end Json

namespace Sexpr

variable {R : Type → Type} {fragment : Fragment} {α : Type}

theorem within_ignored (leaves : fragment.HasLibraryLeaves) :
    (ignored : Parser R String).Within fragment :=
  ⟨Parser.within_leaf leaves trivial, Parser.within_leaf leaves trivial⟩

theorem within_lexeme (leaves : fragment.HasLibraryLeaves)
    {parser : Parser R α} (within : parser.Within fragment) :
    (lexeme parser).Within fragment := by
  rw [lexeme, Parser.within_skip]
  exact ⟨within, within_ignored leaves⟩

theorem within_numeral (leaves : fragment.HasLibraryLeaves) :
    (numeral : Parser R Sexpr).Within fragment := by
  refine ⟨within_lexeme leaves (Parser.within_leaf leaves trivial), ?_⟩
  intro digits
  dsimp only
  split
  · exact Parser.within_leaf leaves trivial
  · exact Parser.within_leaf leaves trivial

theorem within_atom (leaves : fragment.HasLibraryLeaves) :
    (atom : Parser R Sexpr).Within fragment := by
  have leafWithin : ∀ {β : Type} (primitive : Primitive β),
      primitive.IsLibrary →
        (lexeme (.leaf primitive : Parser R β)).Within fragment :=
    fun primitive isLibrary =>
      within_lexeme leaves (Parser.within_leaf leaves isLibrary)
  apply Parser.within_firstOf leaves
  simp only [List.forall_mem_cons, boolean, name, Parser.within_result,
    Parser.Within]
  exact ⟨⟨leafWithin _ trivial, leafWithin _ trivial⟩, within_numeral leaves,
    leafWithin _ trivial, by simp⟩

theorem within_expression (leaves : fragment.HasLibraryLeaves)
    {self : Parser R Sexpr} (within : self.Within fragment) :
    (expression self).Within fragment := by
  have literalWithin : ∀ text : String,
      (Parser.literal text : Parser R String).Within fragment :=
    fun text => Parser.within_leaf leaves trivial
  apply Parser.within_firstOf leaves
  simp only [List.forall_mem_cons, form, quotation, Parser.many,
    Parser.Within, Parser.within_skip, Parser.within_andThen]
  exact ⟨⟨⟨within_lexeme leaves (literalWithin _), within⟩,
    within_lexeme leaves (literalWithin _)⟩,
    ⟨literalWithin _, within⟩, within_atom leaves, by simp⟩

theorem rules_within {fragment : Fragment}
    (leaves : fragment.HasLibraryLeaves) : rules.Within fragment := by
  intro α rule parser defined
  cases rule
  cases defined
  exact within_expression leaves trivial

theorem parser_within {fragment : Fragment}
    (leaves : fragment.HasLibraryLeaves) : parser.Within fragment :=
  Parser.within_andThen.mpr ⟨within_ignored leaves, trivial⟩

end Sexpr

end OrderedChoice
