import OrderedChoice.Grammar.Json
import OrderedChoice.Grammar.Sexpr
import OrderedChoice.Proofs.Parser.Comparison
import OrderedChoice.Proofs.Parser.Invariant
import OrderedChoice.Proofs.Regex.Engine
import OrderedChoice.Proofs.Regex.Translation

/-!
# Moving a text

A parser that never asks where it is does the same wherever its text stands.
With a text put in front it gives the same results, with all offsets so much
further on: this holds from every offset, inside characters and past the end
too, and such runs end together or do not end.

The main statement, `Parser.runs_move_with_text`, covers all combinators.  Left
out are the leaves that give the offset or the position, bodies that ask for
the offset, and what shows the failed result of a negative lookahead, in which
an offset stands.
-/

namespace OrderedChoice

/-! ## Moved results -/

namespace Diagnostics

/-- Diagnostics so much further on. -/
def move (distance : Nat) (diagnostics : Diagnostics) : Diagnostics :=
  ⟨diagnostics.furthest.map (distance + ·), diagnostics.expected⟩

theorem compareFurthest_move (distance : Nat) (left right : Option Nat) :
    compareFurthest (left.map (distance + ·)) (right.map (distance + ·)) =
      compareFurthest left right := by
  cases left with
  | none => cases right <;> rfl
  | some left =>
      cases right with
      | none => rfl
      | some right =>
          simp [compareFurthest, compare, compareOfLessAndEq]

theorem move_merge (distance : Nat) (recent prior : Diagnostics) :
    (recent.merge prior).move distance =
      (recent.move distance).merge (prior.move distance) := by
  rw [merge, merge]
  simp only [move, compareFurthest_move]
  cases compareFurthest recent.furthest prior.furthest <;> rfl

end Diagnostics

/-- An outcome so much further on. -/
def Outcome.move {α : Type} (distance : Nat) : Outcome α → Outcome α
  | .success stop value => .success (distance + stop) value
  | .failure => .failure

/-- A result so much further on: its value and its expectations stay. -/
def ParseResult.move {α : Type} (distance : Nat) (result : ParseResult α) :
    ParseResult α :=
  ⟨result.outcome.move distance, result.diagnostics.move distance⟩

/-! ## Sources with a text in front -/

namespace Source

variable (before text : List Char) (offset stop : Nat)

theorem rest_behind :
    (ofCharacters (before ++ text)).rest (byteLength before + offset) =
      (ofCharacters text).rest offset := by
  rw [rest_eq, rest_eq]
  exact dropBytes_append before text offset

theorem restOrEmpty_behind :
    (ofCharacters (before ++ text)).restOrEmpty (byteLength before + offset) =
      (ofCharacters text).restOrEmpty offset := by
  rw [restOrEmpty, restOrEmpty, rest_behind]

theorem length_behind :
    (ofCharacters (before ++ text)).length =
      byteLength before + (ofCharacters text).length :=
  byteLength_append before text

theorem between_behind :
    (ofCharacters (before ++ text)).between (byteLength before + offset)
        (byteLength before + stop) =
      (ofCharacters text).between offset stop := by
  rw [between, between, restOrEmpty_behind, Nat.add_sub_add_left]

theorem isBoundary_behind :
    (ofCharacters (before ++ text)).isBoundary (byteLength before + offset) =
      (ofCharacters text).isBoundary offset := by
  rw [isBoundary, isBoundary, rest_behind]

theorem slice?_behind :
    (ofCharacters (before ++ text)).slice? (byteLength before + offset)
        (byteLength before + stop) =
      (ofCharacters text).slice? offset stop := by
  rw [slice?, slice?, isBoundary_behind, isBoundary_behind, between_behind]
  simp only [Nat.add_le_add_iff_left]

end Source

/-! ## Patterns -/

namespace Pattern

theorem matchAt_of_rest_eq_none {pattern : Pattern} {source : Source}
    {offset : Nat} (nothing : source.rest offset = none) :
    pattern.matchAt source offset = none := by
  rw [matchAt, Regex.Term.matchAt, nothing]

/-- A pattern that ignores what stands before matches from every offset what it
matched without the text in front. -/
theorem matchAt_behind {pattern : Pattern} (ignores : pattern.IgnoresBefore)
    (before text : List Char) (offset : Nat) :
    pattern.matchAt (.ofCharacters (before ++ text))
        (byteLength before + offset) =
      (pattern.matchAt (.ofCharacters text) offset).map
        (·.move (byteLength before)) := by
  cases remains : (Source.ofCharacters text).rest offset with
  | none =>
      rw [matchAt_of_rest_eq_none remains, Option.map_none]
      apply matchAt_of_rest_eq_none
      rw [Source.rest_behind, remains]
  | some rest =>
      rcases Source.rest_eq_some_iff.mp remains with ⟨skipped, split, length⟩
      rw [Source.characters_ofCharacters] at split
      subst split
      rw [← length, ignores skipped rest, ← byteLength_append,
        ← List.append_assoc, ignores (before ++ skipped) rest, Option.map_map]
      refine congrArg (Option.map · _) (funext fun found => ?_)
      simp [Regex.Match.move, Regex.Captures.move, Regex.moveSpan,
        byteLength_append, Nat.add_assoc]

theorem lookup_move (distance number : Nat) (captures : Regex.Captures) :
    (captures.move distance).lookup number =
      (captures.lookup number).map (Regex.moveSpan distance) := by
  induction captures with
  | nil => rfl
  | cons capture captures inductiveStep =>
      rcases capture with ⟨known, span⟩
      rw [Regex.Captures.move, List.map_cons, List.lookup_cons,
        List.lookup_cons]
      cases number == known with
      | true => rfl
      | false => exact inductiveStep

theorem groupText_behind (pattern : Pattern) (before text : List Char)
    (offset : Nat) (found : Regex.Match) (group : Group) :
    pattern.groupText (.ofCharacters (before ++ text))
        (byteLength before + offset) (found.move (byteLength before)) group =
      pattern.groupText (.ofCharacters text) offset found group := by
  have spans : ∀ number,
      (found.move (byteLength before)).span? (byteLength before + offset)
        number =
        (found.span? offset number).map
          (Regex.moveSpan (byteLength before)) := by
    intro number
    rw [Regex.Match.span?, Regex.Match.span?]
    split
    · rfl
    · exact lookup_move _ _ _
  have spansOfGroups : engine.span? pattern
        ((found.move (byteLength before)).span? (byteLength before + offset))
        group =
      (engine.span? pattern (found.span? offset) group).map
        (Regex.moveSpan (byteLength before)) := by
    cases group with
    | number number => exact spans number
    | name name =>
        rw [Engine.span?, Engine.span?]
        cases engine.groupNamed? pattern name with
        | none => rfl
        | some number => exact spans number
  rw [groupText, groupText, Engine.groupText, Engine.groupText, spansOfGroups]
  cases engine.span? pattern (found.span? offset) group with
  | none => rfl
  | some span =>
      rw [Option.map_some, Option.bind_some, Option.bind_some,
        Regex.moveSpan, Source.slice?_behind]

end Pattern

/-! ## Leaves -/

/-- Leaves of the library that do not ask where they are, and whose expressions
ignore what stands before. -/
def Primitive.Floats {α : Type} : Primitive α → Prop
  | .index => False
  | .lineInfo => False
  | .pattern expression _ => expression.IgnoresBefore
  | .custom _ => False
  | _ => True

/-- A leaf that floats gives its result further on. -/
theorem Primitive.parse_behind {α : Type} {primitive : Primitive α}
    (floats : primitive.Floats) (before text : List Char) (index : Nat) :
    primitive.parse (.ofCharacters (before ++ text))
        (byteLength before + index) =
      (primitive.parse (.ofCharacters text) index).move
        (byteLength before) := by
  cases primitive with
  | success value => rfl
  | fail expected => rfl
  | index => exact floats.elim
  | lineInfo => exact floats.elim
  | eof =>
      rw [parse, parse, Source.length_behind]
      simp only [Nat.add_le_add_iff_left]
      split <;> rfl
  | literal text' =>
      rw [parse, parse, parseLiteral, parseLiteral, Source.rest_behind]
      cases (Source.ofCharacters text).rest index with
      | none => rfl
      | some rest =>
          dsimp only
          split
          · rw [Nat.add_assoc]
            rfl
          · rfl
  | literalWith text' transform =>
      rw [parse, parse, parseLiteralWith, parseLiteralWith,
        Source.restOrEmpty_behind]
      split
      · rw [Nat.add_assoc]
        rfl
      · rfl
  | testChar predicate description =>
      rw [parse, parse, parseCharacter, parseCharacter, Source.rest_behind]
      rcases (Source.ofCharacters text).rest index with
        _ | _ | ⟨character, rest⟩
      · rfl
      · rfl
      · cases accepted : predicate character with
        | true => simp [accepted, ParseResult.move, Outcome.move,
            ParseResult.success, Diagnostics.move, Diagnostics.none,
            Nat.add_assoc]
        | false => simp [accepted, ParseResult.move, Outcome.move,
            ParseResult.failure, ParseResult.failed, Diagnostics.move,
            Diagnostics.single]
  | pattern expression read =>
      rw [parse, parse, parsePattern_eq, parsePattern_eq,
        Pattern.matchAt_behind floats]
      cases expression.matchAt (.ofCharacters text) index with
      | none => rfl
      | some found =>
          have texts : expression.groupText (.ofCharacters (before ++ text))
              (byteLength before + index) (found.move (byteLength before)) =
              expression.groupText (.ofCharacters text) index found :=
            funext fun group =>
              expression.groupText_behind before text index found group
          rw [Option.map_some]
          dsimp only
          rw [texts]
          rfl
  | custom function => exact floats.elim

/-! ## Parsers -/

/-- Parsers that do not ask where they are.  The value of a negative lookahead
is a failed result, in which an offset stands, so it has to be replaced. -/
def Parser.Floats {R : Type → Type} {α : Type} (parser : Parser R α)
    (seen : Bool) : Prop :=
  parser.Conceals Primitive.Floats False seen

/-- Whether every definition of a family of rules floats. -/
def Rules.Floats {R : Type → Type} (rules : Rules R) : Prop :=
  rules.Conceals Primitive.Floats False

/-! ## Derived combinators -/

namespace Parser

variable {R : Type → Type} {α β : Type} {seen : Bool}

theorem floats_map (f : α → β) {parser : Parser R α}
    (floats : parser.Floats seen) : (Parser.map f parser).Floats seen :=
  .inl floats

theorem floats_result {parser : Parser R α} (value : β)
    (floats : parser.Floats false) : (parser.result value).Floats seen :=
  .inr ⟨⟨value, rfl⟩, floats⟩

theorem floats_andThen {first : Parser R α} {second : Parser R β}
    (firstFloats : first.Floats seen) (secondFloats : second.Floats seen) :
    (first.andThen second).Floats seen :=
  floats_map _ ⟨firstFloats, secondFloats⟩

theorem floats_skip {first : Parser R α} {second : Parser R β}
    (firstFloats : first.Floats seen) (secondFloats : second.Floats seen) :
    (first.skip second).Floats seen :=
  floats_map _ ⟨firstFloats, secondFloats⟩

theorem floats_sepBy {item : Parser R α} {separator : Parser R β}
    (itemFloats : item.Floats seen) (separatorFloats : separator.Floats seen)
    (min : Nat) (max : Option Nat) :
    (item.sepBy separator min max).Floats seen := by
  have items : (Parser.both item
      (.times (separator.andThen item) (Attempt.lowered min max - 1)
        (max.map (· - 1)))).Floats seen :=
    ⟨itemFloats, floats_andThen separatorFloats itemFloats⟩
  rw [sepBy]
  split
  · trivial
  split
  · exact ⟨floats_map _ items, trivial⟩
  · exact floats_map _ items

theorem floats_firstOf {parsers : List (Parser R α)}
    (floats : ∀ parser ∈ parsers, parser.Floats seen) :
    (firstOf parsers).Floats seen := by
  cases parsers with
  | nil => trivial
  | cons first others =>
      have firstFloats := floats first List.mem_cons_self
      have othersFloat : ∀ parser ∈ others, parser.Floats seen :=
        fun parser member => floats parser (List.mem_cons_of_mem _ member)
      rw [firstOf]
      clear floats
      induction others generalizing first with
      | nil => exact firstFloats
      | cons second others inductiveStep =>
          exact inductiveStep (.orElse first second)
            ⟨firstFloats, othersFloat second List.mem_cons_self⟩
            fun parser member =>
              othersFloat parser (List.mem_cons_of_mem _ member)

end Parser

/-! ## The bundled grammars -/

namespace Json

variable {R : Type → Type} {α : Type} {seen : Bool}

theorem floats_lexeme {parser : Parser R α} (floats : parser.Floats seen) :
    (lexeme parser).Floats seen :=
  Parser.floats_skip floats (Pattern.ignoresBefore_of_looksAhead rfl)

theorem floats_token (text : String) :
    (token text : Parser R String).Floats seen :=
  floats_lexeme trivial

theorem floats_numeral : (numeral : Parser R Json).Floats seen := by
  refine ⟨Pattern.ignoresBefore_of_looksAhead rfl, fun text => ?_⟩
  dsimp only
  split <;> trivial

theorem floats_unicodeEscape :
    (unicodeEscape : Parser R String).Floats seen := by
  refine ⟨Pattern.ignoresBefore_of_looksAhead rfl, fun digits => ?_⟩
  dsimp only
  split <;> trivial

theorem floats_escape : (escape : Parser R String).Floats seen := by
  refine Parser.floats_andThen trivial (Parser.floats_firstOf ?_)
  have literalFloats : ∀ (text : String) (seen : Bool),
      (Parser.literal text : Parser R String).Floats seen :=
    fun _ _ => trivial
  simp [literalFloats, Parser.floats_result, floats_unicodeEscape]

theorem floats_quoted : (quoted : Parser R String).Floats seen := by
  refine Parser.floats_skip (Parser.floats_andThen trivial ?_) trivial
  exact Parser.floats_map _
    ⟨Pattern.ignoresBefore_of_looksAhead rfl, floats_escape⟩

theorem floats_value {self : Parser R Json} (floats : self.Floats seen) :
    (value self).Floats seen := by
  have pairFloats : (pair self).Floats seen :=
    ⟨Parser.floats_skip (floats_lexeme floats_quoted) (floats_token _), floats⟩
  have enclosed : ∀ {β : Type} (opening closing : String)
      {item : Parser R β}, item.Floats seen →
      (((token opening).andThen (item.sepBy (token ",") 0 none)).skip
        (token closing)).Floats seen := fun opening closing _ itemFloats =>
    Parser.floats_skip
      (Parser.floats_andThen (floats_token opening)
        (Parser.floats_sepBy itemFloats (floats_token _) _ _))
      (floats_token closing)
  apply Parser.floats_firstOf
  simp only [List.forall_mem_cons]
  exact ⟨Parser.floats_map _ (floats_lexeme floats_quoted),
    floats_lexeme floats_numeral, Parser.floats_map _ (enclosed _ _ pairFloats),
    Parser.floats_map _ (enclosed _ _ floats),
    Parser.floats_result _ (floats_token _),
    Parser.floats_result _ (floats_token _),
    Parser.floats_result _ (floats_token _), by simp⟩

theorem rules_float : rules.Floats := by
  intro α rule parser defined
  cases rule
  cases defined
  exact floats_value trivial

theorem parser_floats : parser.Floats true :=
  Parser.floats_andThen (Pattern.ignoresBefore_of_looksAhead rfl) trivial

end Json

namespace Sexpr

variable {R : Type → Type} {α : Type} {seen : Bool}

theorem floats_ignored : (ignored : Parser R String).Floats seen :=
  Parser.floats_map _ ⟨Pattern.ignoresBefore_of_looksAhead rfl,
    Pattern.ignoresBefore_of_looksAhead rfl⟩

theorem floats_lexeme {parser : Parser R α} (floats : parser.Floats seen) :
    (lexeme parser).Floats seen :=
  Parser.floats_skip floats floats_ignored

theorem floats_numeral : (numeral : Parser R Sexpr).Floats seen := by
  refine ⟨floats_lexeme (Pattern.ignoresBefore_of_looksAhead rfl),
    fun digits => ?_⟩
  dsimp only
  split <;> trivial

theorem floats_atom : (atom : Parser R Sexpr).Floats seen := by
  have word : ∀ text value,
      (Parser.result (lexeme (Parser.literal text)) value :
        Parser R Sexpr).Floats seen := fun text value =>
    Parser.floats_result value (floats_lexeme trivial)
  apply Parser.floats_firstOf
  simp only [List.forall_mem_cons]
  exact ⟨⟨word _ _, word _ _⟩, floats_numeral,
    Parser.floats_map _
      (floats_lexeme (Pattern.ignoresBefore_of_looksAhead rfl)),
    by simp⟩

theorem floats_expression {self : Parser R Sexpr} (floats : self.Floats seen) :
    (expression self).Floats seen := by
  apply Parser.floats_firstOf
  simp only [List.forall_mem_cons]
  exact ⟨Parser.floats_map _ (Parser.floats_skip
      (Parser.floats_andThen (floats_lexeme trivial) floats)
      (floats_lexeme trivial)),
    Parser.floats_andThen trivial (Parser.floats_map _ floats), floats_atom,
    by simp⟩

theorem rules_float : rules.Floats := by
  intro α rule parser defined
  cases rule
  cases defined
  exact floats_expression trivial

theorem parser_floats : parser.Floats true :=
  Parser.floats_andThen floats_ignored trivial

end Sexpr

/-! ## Runs -/

/-- Parsers that float, and nothing but themselves. -/
def Likeness.floating : Likeness where
  leaf := fun primitive primitive' =>
    primitive = primitive' ∧ primitive.Floats
  description := Eq
  wrapping := False
  offset := False

/-- Runs on a text and on the same text with another one in front. -/
def Comparison.behind (before text : List Char) :
    Comparison .floating (.ofCharacters text)
      (.ofCharacters (before ++ text)) where
  place := (byteLength before + ·)
  told := fun diagnostics diagnostics' =>
    diagnostics' = diagnostics.move (byteLength before)
  leaf_outcome := by
    rintro α primitive _ index ⟨rfl, floats⟩
    rw [primitive.parse_behind floats]
    cases h : (primitive.parse (.ofCharacters text) index).outcome <;>
      simp [ParseResult.move, Outcome.move, h]
  leaf_told := by
    rintro α primitive _ index ⟨rfl, floats⟩
    rw [primitive.parse_behind floats]
    rfl
  silent := rfl
  merge := by
    rintro recent _ prior _ rfl rfl
    rw [Diagnostics.move_merge]
  single := by
    rintro index description _ rfl
    rfl
  same_description := fun _ => rfl
  wrapping := False.elim
  offset := False.elim

/-- A parser moves with its text: behind another text its runs end with the same
results further on, or stop for the same reason. -/
def Parser.MovesWithText {R : Type → Type} {α : Type} (rules : Rules R)
    (parser : Parser R α) : Prop :=
  ∀ (before text : List Char) (fuel index : Nat),
    (parser.run rules fuel (.ofCharacters (before ++ text))
        (byteLength before + index)).answer =
      (parser.run rules fuel (.ofCharacters text) index).answer.map
        (·.move (byteLength before))

theorem Parser.movesWithText_of_floats {R : Type → Type} {α : Type}
    {rules : Rules R} (rulesFloat : rules.Floats) {parser : Parser R α}
    (floats : parser.Floats true) : parser.MovesWithText rules := by
  intro before text fuel index
  have leaves : ∀ {β : Type} {primitive : Primitive β}, primitive.Floats →
      Likeness.floating.leaf primitive primitive := fun floats => ⟨rfl, floats⟩
  have descriptions : ∀ description,
      Likeness.floating.description description description := fun _ => rfl
  have ends := (Comparison.behind before text).run_matches
    (Rules.alike_self leaves id descriptions rulesFloat)
    (Parser.alike_self leaves id descriptions floats) fuel index
  rw [show (Comparison.behind before text).place index =
    byteLength before + index from rfl] at ends
  generalize parser.run rules fuel (.ofCharacters text) index = run at ends
  generalize parser.run rules fuel (.ofCharacters (before ++ text))
    (byteLength before + index) = run' at ends
  cases ends with
  | abort abort trace trace' => rfl
  | @result result result' trace trace' results =>
      rcases result with ⟨outcome, diagnostics⟩
      rcases result' with ⟨outcome', diagnostics'⟩
      rcases results with ⟨outcomes, told⟩
      cases told
      cases outcomes with
      | success stop same =>
          cases same rfl
          rfl
      | failure => rfl

/-- Every parser that does not ask where it is moves with its text, whatever
rules of that kind it refers to; both bundled grammars do. -/
theorem Parser.runs_move_with_text :
    (∀ {R : Type → Type} {rules : Rules R}, rules.Floats →
      ∀ {α : Type} {parser : Parser R α}, parser.Floats true →
        parser.MovesWithText rules) ∧
    Json.parser.MovesWithText Json.rules ∧
    Sexpr.parser.MovesWithText Sexpr.rules :=
  ⟨fun rulesFloat _ _ floats => movesWithText_of_floats rulesFloat floats,
    movesWithText_of_floats Json.rules_float Json.parser_floats,
    movesWithText_of_floats Sexpr.rules_float Sexpr.parser_floats⟩

/-- An expression that is not quoted, where nothing is quoted: behind three
bytes the open list fails at its end, three bytes further on. -/
theorem Sexpr.unquoted_run_moves_with_text :
    let unquoted : Parser Rule Sexpr :=
      (Parser.result (.shouldFail (.literal "'") "no quote") ()).andThen
        (.ref .expression)
    let furthest := fun (text : String) (index : Nat) =>
      (unquoted.run rules 5 (.ofString text) index).answer.toOption.map
        (·.furthest)
    rules.Floats ∧ unquoted.Floats true ∧
      furthest "(a b" 0 = some (some 4) ∧
      furthest "é\n(a b" 3 = some (some 7) := by
  intro unquoted furthest
  have floats : unquoted.Floats true :=
    Parser.floats_andThen (Parser.floats_result () ⟨rfl, trivial⟩) trivial
  have alone : furthest "(a b" 0 = some (some 4) := by decide +kernel
  refine ⟨rules_float, floats, alone, ?_⟩
  rcases Option.map_eq_some_iff.mp alone with ⟨result, answered, known⟩
  have moved := Parser.runs_move_with_text.1 rules_float floats "é\n".toList
    "(a b".toList 5 0
  have ends : (unquoted.run rules 5 (.ofCharacters "(a b".toList) 0).answer =
      .ok result := Run.answer_eq_ok_iff.mpr answered
  rw [ends] at moved
  have behind : (unquoted.run rules 5 (.ofString "é\n(a b") 3).answer =
      .ok (result.move 3) := moved
  have further : (result.move 3).furthest = result.furthest.map (3 + ·) := rfl
  simp only [furthest, behind, Except.toOption, Option.map_some, further, known]

end OrderedChoice
