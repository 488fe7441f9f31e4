import OrderedChoice.Parser.Characters
import OrderedChoice.Proofs.Diagnostics.Summary
import OrderedChoice.Proofs.Parser.Translation

/-!
# Words and what they describe

What a parser says about its failures decides nothing.  Two parsers of one
shape may give every failure another description, tell other things from leaves
written by hand, and describe different parts of themselves: runs of both go
through the same turns, succeed at the same offsets with the same values, and
fail together.

The main statement, `Parser.descriptions_never_steer`, adds that the furthest
offsets are the same as long as no part is described in one of them only and
leaves written by hand point to the same offsets.
-/

namespace OrderedChoice

/-! ## Parsers in other words -/

/-- Leaves that differ in what they tell only, and tell things that may stand
for each other. -/
inductive Primitive.Reworded (told : Diagnostics → Diagnostics → Prop) :
    ∀ {α : Type}, Primitive α → Primitive α → Prop where
  | same {α : Type} (primitive : Primitive α) :
      Primitive.Reworded told primitive primitive
  | fail {α : Type} (expected expected' : String) :
      Primitive.Reworded told (.fail expected : Primitive α) (.fail expected')
  | testChar (predicate : Char → Bool) (description description' : String) :
      Primitive.Reworded told (.testChar predicate description)
        (.testChar predicate description')
  /-- Leaves written by hand. -/
  | custom {α : Type} {function function' : Source → Nat → ParseResult α}
      (outcomes : ∀ source index,
        (function source index).outcome = (function' source index).outcome)
      (diagnostics : ∀ source index,
        told (function source index).diagnostics
          (function' source index).diagnostics) :
      Primitive.Reworded told (.custom function) (.custom function')

namespace Likeness

/-- Parsers in other words: given are the diagnostics that may stand for each
other, and whether one parser may be described where the other is not. -/
def inWords (told : Diagnostics → Diagnostics → Prop) (wrapping : Prop) :
    Likeness where
  leaf := Primitive.Reworded told
  description := fun _ _ => True
  wrapping := wrapping
  offset := True

/-- Parsers that differ in descriptions, in diagnostics, and in which of their
parts are described. -/
def rewording : Likeness := inWords (fun _ _ => True) True

/-- Parsers that differ in descriptions and in expectations only. -/
def relabeling : Likeness :=
  inWords (fun diagnostics diagnostics' =>
    diagnostics.furthest = diagnostics'.furthest) False

end Likeness

section

variable {R : Type → Type} {told : Diagnostics → Diagnostics → Prop}
  {wrapping offset : Prop} {leaf : ∀ {α : Type}, Primitive α → Prop}

/-- A parser that shows no failed result is among its own rewordings. -/
theorem Parser.alike_inWords {α : Type} {parser : Parser R α} {seen : Bool}
    (conceals : parser.Conceals leaf offset seen) :
    parser.Alike (.inWords told wrapping) seen parser :=
  Parser.alike_self (fun _ => Primitive.Reworded.same _) (fun _ => trivial)
    (fun _ => trivial) conceals

theorem Rules.alike_inWords {rules : Rules R}
    (conceals : rules.Conceals leaf offset) :
    rules.Alike (.inWords told wrapping) rules :=
  Rules.alike_self (fun _ => Primitive.Reworded.same _) (fun _ => trivial)
    (fun _ => trivial) conceals

end

/-! ## Leaves -/

namespace Primitive

variable {told : Diagnostics → Diagnostics → Prop} {α : Type}
  {primitive primitive' : Primitive α}

theorem outcome_parse_reworded (reworded : Reworded told primitive primitive')
    (source : Source) (index : Nat) :
    (primitive'.parse source index).outcome =
      (primitive.parse source index).outcome := by
  cases reworded with
  | same => rfl
  | fail expected expected' => rfl
  | testChar predicate description description' =>
      rw [parse, parse, parseCharacter, parseCharacter]
      split
      · split <;> rfl
      · rfl
  | custom outcomes diagnostics => exact (outcomes source index).symm

theorem told_parse_reworded (same : ∀ diagnostics, told diagnostics diagnostics)
    (single : ∀ index description description',
      told (.single index description) (.single index description'))
    (reworded : Reworded told primitive primitive') (source : Source)
    (index : Nat) :
    told (primitive.parse source index).diagnostics
      (primitive'.parse source index).diagnostics := by
  cases reworded with
  | same => exact same _
  | fail expected expected' => exact single index expected expected'
  | testChar predicate description description' =>
      rw [parse, parse, parseCharacter, parseCharacter]
      split
      · split
        · exact same _
        · exact single index description description'
      · exact single index description description'
  | custom outcomes diagnostics => exact diagnostics source index

end Primitive

/-! ## Runs in other words -/

/-- Where two merges got is decided by where their parts did. -/
theorem Diagnostics.furthest_merge_congr
    {recent recent' prior prior' : Diagnostics}
    (recents : recent.furthest = recent'.furthest)
    (priors : prior.furthest = prior'.furthest) :
    (recent.merge prior).furthest = (recent'.merge prior').furthest := by
  rw [merge, merge, ← recents, ← priors]
  cases compareFurthest recent.furthest prior.furthest with
  | lt => exact priors
  | eq => rfl
  | gt => exact recents

namespace Comparison

/-- Runs on one source that differ in words, given that what is told may stand
for itself and is merged. -/
def inWords (source : Source) {told : Diagnostics → Diagnostics → Prop}
    {wrapping : Prop} (same : ∀ diagnostics, told diagnostics diagnostics)
    (single : ∀ index description description',
      told (.single index description) (.single index description'))
    (merge : ∀ {recent recent' prior prior' : Diagnostics},
      told recent recent' → told prior prior' →
        told (recent.merge prior) (recent'.merge prior'))
    (wrapped : wrapping → ∀ diagnostics diagnostics',
      told diagnostics diagnostics') :
    Comparison (.inWords told wrapping) source source where
  place := id
  told := told
  leaf_outcome := by
    intro α primitive primitive' index reworded
    rw [id, Primitive.outcome_parse_reworded reworded]
    cases (primitive.parse source index).outcome <;> rfl
  leaf_told := fun index reworded =>
    Primitive.told_parse_reworded same single reworded source index
  silent := same _
  merge := merge
  single := fun index _ _ _ => single index _ _
  same_description := fun _ => trivial
  wrapping := wrapped
  offset := fun _ _ => rfl

/-- Runs of parsers that differ in words have the same outcomes. -/
def rewording (source : Source) : Comparison .rewording source source :=
  inWords source (fun _ => trivial) (fun _ _ _ => trivial)
    (fun _ _ => trivial) fun _ _ _ => trivial

/-- Runs of parsers with other labels also get equally far. -/
def relabeling (source : Source) : Comparison .relabeling source source :=
  inWords source (fun _ => rfl) (fun _ _ _ => rfl)
    Diagnostics.furthest_merge_congr False.elim

end Comparison

/-! ## Outcomes -/

theorem Comparison.outcome_eq {likeness : Likeness} {source : Source}
    {comparison : Comparison likeness source source}
    (stays : comparison.place = id) {α : Type} {outcome outcome' : Outcome α}
    (outcomes : comparison.Outcomes true outcome outcome') :
    outcome = outcome' := by
  cases outcomes with
  | success stop same => rw [same rfl, stays, id]
  | failure => rfl

/-- Descriptions decide nothing.  Parsers that differ in words, with rules that
do, end together with the same outcome, at the same offset with the same value;
if only labels differ they get equally far too. -/
theorem Parser.descriptions_never_steer {R : Type → Type} {α : Type}
    (rules rules' : Rules R) (parser parser' : Parser R α) (source : Source)
    (fuel index : Nat) :
    (rules.Alike .rewording rules' → parser.Alike .rewording true parser' →
      (parser.run rules fuel source index).answer.map (·.outcome) =
        (parser'.run rules' fuel source index).answer.map (·.outcome)) ∧
    (rules.Alike .relabeling rules' → parser.Alike .relabeling true parser' →
      (parser.run rules fuel source index).answer.map
          (fun result => (result.outcome, result.furthest)) =
        (parser'.run rules' fuel source index).answer.map
          fun result => (result.outcome, result.furthest)) := by
  constructor
  · intro rulesAlike alike
    have ends :=
      (Comparison.rewording source).run_matches rulesAlike alike fuel index
    exact ends.map_answer_eq fun results =>
      Comparison.outcome_eq rfl results.outcomes
  · intro rulesAlike alike
    have ends :=
      (Comparison.relabeling source).run_matches rulesAlike alike fuel index
    exact ends.map_answer_eq fun results =>
      Prod.ext (Comparison.outcome_eq rfl results.outcomes) results.diagnostics

/-- With each value described the furthest offset falls back to where the
outermost value starts, but the outcome stays; with another label for a digit
the furthest offset stays too. -/
theorem Json.described_values_steer_nothing :
    let described : Rules Rule :=
      ⟨fun rule => (definition rule).map (.describe · "a value")⟩
    let plain : Parser Rule Json := Parser.decimalDigit.andThen (.ref .value)
    let labelled : Parser Rule Json :=
      (Parser.testChar "0123456789".toList.contains "a digit").andThen
        (.ref .value)
    let answer := fun (rules : Rules Rule) (parser : Parser Rule Json) =>
      (parser.run rules 4 (.ofString "1[1, x]") 0).answer
    (rules.Alike .rewording described ∧
      (answer rules plain).toOption.map (·.furthest) = some (some 5) ∧
      (answer described plain).toOption.map (·.furthest) = some (some 1) ∧
      (answer rules plain).map (·.outcome) =
        (answer described plain).map (·.outcome)) ∧
    plain.Alike .relabeling true labelled ∧
      (answer rules plain).map
          (fun result => (result.outcome, result.furthest)) =
        (answer rules labelled).map
          fun result => (result.outcome, result.furthest) := by
  intro described plain labelled answer
  have floats : plain.Floats true := Parser.floats_andThen trivial trivial
  have valueFloats : (value (.ref Rule.value)).Floats true :=
    floats_value trivial
  have reworded : rules.Alike .rewording described := by
    rintro _ ⟨⟩
    exact .some
      (.describeRight trivial "a value" (Parser.alike_inWords valueFloats))
  have relabelled : plain.Alike .relabeling true labelled :=
    .map Prod.snd (.both (.leaf (.testChar _ _ _)) (.ref Rule.value))
  exact ⟨⟨reworded, by decide +kernel, by decide +kernel,
      (Parser.descriptions_never_steer rules described plain plain _ 4 0).1
        reworded (Parser.alike_inWords floats)⟩,
    relabelled,
    (Parser.descriptions_never_steer rules rules plain labelled _ 4 0).2
      (Rules.alike_inWords rules_float) relabelled⟩

end OrderedChoice
