import OrderedChoice.Proofs.Parser.Gives
import OrderedChoice.Proofs.Regex.Engine

/-!
# Groups of patterns

An expression is made a parser in three ways: for the whole match, for one of
its groups, and for several.  They are built under the same conditions and match
in the same places; all that differs is what is read off the match.

This is said of any engine whose matches start where they were searched for and
lie between boundaries, `Engine.Lawful`, and of leaves for it of any kind, of
which every engine has some, `Engine.Leaves.ofFunction`.  The parsers of this
library are those of `Pattern.leaves`, and the engine that they are made with is
lawful, `Pattern.engine_lawful`.
-/

namespace OrderedChoice

namespace Engine

variable {engine : Engine} {compiled : engine.Compiled} {text : String}
  {groups : List Group}

/-! ## Defined groups -/

/-- The groups that a compiled expression defines: the numbers below the number
of its groups, and the names that stand for one. -/
def Defines (engine : Engine) (compiled : engine.Compiled) : Group → Prop
  | .number number => number < engine.groupCount compiled
  | .name name => ∃ number, engine.groupNamed? compiled name = some number

theorem hasGroup_iff {group : Group} :
    engine.hasGroup compiled group = true ↔ engine.Defines compiled group := by
  cases group with
  | number number => exact decide_eq_true_iff
  | name name => exact Option.isSome_iff_exists

/-- The first of several groups that a compiled expression does not define. -/
def FirstUndefined (engine : Engine) (compiled : engine.Compiled)
    (groups : List Group) (missing : Group) : Prop :=
  ∃ earlier later, groups = earlier ++ missing :: later ∧
    (∀ group ∈ earlier, engine.Defines compiled group) ∧
      ¬ engine.Defines compiled missing

theorem find?_undefined_eq_some_iff {missing : Group} :
    (groups.find? fun group => !engine.hasGroup compiled group) =
        some missing ↔
      engine.FirstUndefined compiled groups missing := by
  simp only [List.find?_eq_some_iff_append, FirstUndefined, ← hasGroup_iff,
    Bool.not_eq_true', Bool.not_not, Bool.not_eq_true]
  tauto

theorem find?_undefined_eq_none_iff :
    (groups.find? fun group => !engine.hasGroup compiled group) = none ↔
      ∀ group ∈ groups, engine.Defines compiled group := by
  simp [List.find?_eq_none, ← hasGroup_iff]

/-! ## Building -/

/-- What an expression with several groups is rejected for: it does not compile,
or else it does not define one of the groups, the first of which is named. -/
inductive Rejected (engine : Engine) (text : String) (groups : List Group) :
    PatternError → Prop where
  | invalidExpression {cause : BuildError}
      (invalid : engine.compile text = .error cause) :
      Rejected engine text groups (@PatternError.invalidExpression cause)
  | noSuchGroup {compiled : engine.Compiled} {missing : Group}
      (compiles : engine.compile text = .ok compiled)
      (first : engine.FirstUndefined compiled groups missing) :
      Rejected engine text groups (.noSuchGroup text missing)

/-- Building with groups fails for the reasons that reject them only. -/
theorem withGroups_eq_error_iff {error : PatternError} :
    engine.withGroups text groups = .error error ↔
      engine.Rejected text groups error := by
  rw [withGroups]
  cases compiles : engine.compile text with
  | error cause =>
      constructor
      · rintro ⟨⟩
        exact .invalidExpression compiles
      · intro rejected
        cases rejected with
        | invalidExpression invalid =>
            rw [compiles] at invalid
            cases invalid
            rfl
        | noSuchGroup valid first =>
            rw [compiles] at valid
            cases valid
  | ok compiled =>
      dsimp only
      constructor
      · intro failed
        split at failed
        · rename_i missing found
          cases failed
          exact .noSuchGroup compiles (find?_undefined_eq_some_iff.mp found)
        · cases failed
      · intro rejected
        cases rejected with
        | invalidExpression invalid =>
            rw [compiles] at invalid
            cases invalid
        | noSuchGroup valid first =>
            rw [compiles] at valid
            cases valid
            rw [find?_undefined_eq_some_iff.mpr first]

/-- Of an expression that compiles, building checks the groups. -/
theorem withGroups_eq_ok_iff {built : engine.Compiled}
    (compiles : engine.compile text = .ok compiled) :
    engine.withGroups text groups = .ok built ↔
      built = compiled ∧ ∀ group ∈ groups, engine.Defines compiled group := by
  rw [withGroups, compiles]
  dsimp only
  constructor
  · intro succeeded
    split at succeeded
    · cases succeeded
    · rename_i allFound
      cases succeeded
      exact ⟨rfl, find?_undefined_eq_none_iff.mp allFound⟩
  · rintro ⟨rfl, defines⟩
    rw [find?_undefined_eq_none_iff.mpr defines]

section

variable {β : Type*} {make : engine.Compiled → β}

/-- What is made of an expression with groups is made under the same
conditions. -/
theorem map_withGroups_eq_ok_iff {made : β}
    (compiles : engine.compile text = .ok compiled) :
    (engine.withGroups text groups).map make = .ok made ↔
      (∀ group ∈ groups, engine.Defines compiled group) ∧
        made = make compiled := by
  cases built : engine.withGroups text groups with
  | error cause =>
      refine iff_of_false (fun same => by cases same) ?_
      rintro ⟨defines, _⟩
      rw [(withGroups_eq_ok_iff compiles).mpr ⟨rfl, defines⟩] at built
      cases built
  | ok other =>
      rcases (withGroups_eq_ok_iff compiles).mp built with ⟨rfl, defines⟩
      constructor
      · rintro ⟨⟩
        exact ⟨defines, rfl⟩
      · rintro ⟨_, rfl⟩
        rfl

theorem map_withGroups_eq_error_iff {error : PatternError} :
    (engine.withGroups text groups).map make = .error error ↔
      engine.Rejected text groups error := by
  rw [← withGroups_eq_error_iff]
  cases engine.withGroups text groups <;> simp [Except.map]

end

end Engine

namespace Engine.Leaves

variable {engine : Engine} {leaves : engine.Leaves} {R : Type → Type}
  {expression : String} {compiled : engine.Compiled}

/-! ## Parsers that can be built -/

theorem patternGroups_eq_map (leaves : engine.Leaves) (expression : String)
    (groups : List Group) :
    (leaves.patternGroups expression groups :
        Except PatternError (Parser R (List String))) =
      (engine.withGroups expression groups).map fun compiled =>
        .leaf
          (leaves.leaf expression compiled fun text => groups.map text) := by
  rw [patternGroups]
  cases engine.withGroups expression groups <;> rfl

theorem patternGroup_eq_map (leaves : engine.Leaves) (expression : String)
    (group : Group) :
    (leaves.patternGroup expression group :
        Except PatternError (Parser R String)) =
      (engine.withGroups expression [group]).map fun compiled =>
        .leaf (leaves.leaf expression compiled fun text => text group) := by
  rw [patternGroup]
  cases engine.withGroups expression [group] <;> rfl

theorem patternGroups_eq_ok_iff {groups : List Group}
    {parser : Parser R (List String)}
    (compiles : engine.compile expression = .ok compiled) :
    leaves.patternGroups expression groups = .ok parser ↔
      (∀ group ∈ groups, engine.Defines compiled group) ∧
        parser =
          .leaf (leaves.leaf expression compiled fun text =>
            groups.map text) := by
  rw [patternGroups_eq_map, map_withGroups_eq_ok_iff compiles]

theorem patternGroup_eq_ok_iff {group : Group} {parser : Parser R String}
    (compiles : engine.compile expression = .ok compiled) :
    leaves.patternGroup expression group = .ok parser ↔
      engine.Defines compiled group ∧
        parser =
          .leaf (leaves.leaf expression compiled fun text => text group) := by
  rw [patternGroup_eq_map, map_withGroups_eq_ok_iff compiles,
    List.forall_mem_singleton]

theorem patternGroups_eq_error_iff {groups : List Group}
    {error : PatternError} :
    (leaves.patternGroups expression groups :
        Except PatternError (Parser R (List String))) = .error error ↔
      engine.Rejected expression groups error := by
  rw [patternGroups_eq_map, map_withGroups_eq_error_iff]

theorem patternGroup_eq_error_iff {group : Group} {error : PatternError} :
    (leaves.patternGroup expression group :
        Except PatternError (Parser R String)) = .error error ↔
      engine.Rejected expression [group] error := by
  rw [patternGroup_eq_map, map_withGroups_eq_error_iff]

/-- Only an expression that compiles has parsers. -/
theorem exists_compile_of_patternGroups {groups : List Group}
    {parser : Parser R (List String)}
    (built : leaves.patternGroups expression groups = .ok parser) :
    ∃ compiled, engine.compile expression = .ok compiled := by
  cases compiles : engine.compile expression with
  | error cause =>
      rw [patternGroups, withGroups, compiles] at built
      cases built
  | ok compiled => exact ⟨compiled, rfl⟩

/-- There is a parser for every group that is defined. -/
theorem patternGroup_of_defines {group : Group}
    (compiles : engine.compile expression = .ok compiled)
    (defined : engine.Defines compiled group) :
    (leaves.patternGroup expression group :
        Except PatternError (Parser R String)) =
      .ok (.leaf (leaves.leaf expression compiled fun text => text group)) :=
  (patternGroup_eq_ok_iff compiles).mpr ⟨defined, rfl⟩

/-! ## What is read off a match -/

section

variable {α : Type} {rules : Rules R} {source : Source} {index stop : Nat}
  {read : (Group → String) → α}

/-- A leaf reads something just where its expression matches. -/
theorem reads_leaf_iff {value : α}
    (compiles : engine.compile expression = .ok compiled) :
    (Parser.leaf (leaves.leaf expression compiled read)).Reads rules source
        index stop value ↔
      ∃ captured, engine.searchAt compiled source index =
          some (stop, captured) ∧
        read (engine.groupText compiled source captured) = value := by
  rw [Parser.reads_leaf_iff, leaves.parse_leaf read compiles, Engine.parse]
  cases engine.searchAt compiled source index with
  | none => simp [ParseResult.failure, ParseResult.failed]
  | some found =>
      rcases found with ⟨matchStop, captured⟩
      simp [ParseResult.success]

/-- Where it does not match, the expression is all that was expected. -/
theorem fails_leaf_iff {diagnostics : Diagnostics}
    (compiles : engine.compile expression = .ok compiled) :
    (Parser.leaf (leaves.leaf expression compiled read)).Gives rules source
        index ⟨.failure, diagnostics⟩ ↔
      engine.searchAt compiled source index = none ∧
        diagnostics = .single index expression := by
  rw [Parser.gives_leaf_iff, leaves.parse_leaf read compiles, Engine.parse]
  cases engine.searchAt compiled source index with
  | none => simp [ParseResult.failure, ParseResult.failed]
  | some found => simp [ParseResult.success]

end

end Engine.Leaves

namespace Parser

variable {engine : Engine} {R : Type → Type} {α β : Type}

/-- Two parsers end alike at an offset: a run of each comes to an end, they read
something up to the same offset, and they fail with the same report. -/
structure EndAlike (rules : Rules R) (source : Source) (index : Nat)
    (first : Parser R α) (second : Parser R β) : Prop where
  ends : (∃ result, first.Gives rules source index result) ∧
    ∃ result, second.Gives rules source index result
  reads_iff : ∀ stop, (∃ value, first.Reads rules source index stop value) ↔
    ∃ value, second.Reads rules source index stop value
  fails_iff : ∀ diagnostics,
    first.Gives rules source index ⟨.failure, diagnostics⟩ ↔
      second.Gives rules source index ⟨.failure, diagnostics⟩

/-- How leaves for one expression end does not depend on what they read off. -/
theorem endAlike_leaves {leaves : engine.Leaves} {expression : String}
    {compiled : engine.Compiled}
    (compiles : engine.compile expression = .ok compiled) (rules : Rules R)
    (source : Source) (index : Nat) (read : (Group → String) → α)
    (readToo : (Group → String) → β) :
    EndAlike rules source index
      (Parser.leaf (leaves.leaf expression compiled read))
      (Parser.leaf (leaves.leaf expression compiled readToo)) where
  ends := ⟨⟨_, gives_leaf _⟩, ⟨_, gives_leaf _⟩⟩
  reads_iff stop := by
    simp only [Engine.Leaves.reads_leaf_iff compiles]
    constructor
    · rintro ⟨_, captured, found, _⟩
      exact ⟨_, captured, found, rfl⟩
    · rintro ⟨_, captured, found, _⟩
      exact ⟨_, captured, found, rfl⟩
  fails_iff diagnostics :=
    (Engine.Leaves.fails_leaf_iff compiles).trans
      (Engine.Leaves.fails_leaf_iff compiles).symm

/--
What the parsers for an expression do at an offset, where one for the whole
match is given.  All end like that one, and a list of groups has the values of
its members in order.  The whole match is the text from the offset to where it
stops, a name has the value of its number, and a group has the text of its span,
or no text if it took no part in the match.
-/
structure ReadMatch (leaves : engine.Leaves) (rules : Rules R)
    (source : Source) (index : Nat) (expression : String)
    (compiled : engine.Compiled) (whole : Parser R String) : Prop where
  several_ends : ∀ groups (several : Parser R (List String)),
    leaves.patternGroups expression groups = .ok several →
    EndAlike rules source index several whole
  single_ends : ∀ group (single : Parser R String),
    leaves.patternGroup expression group = .ok single →
    EndAlike rules source index single whole
  values : ∀ groups (several : Parser R (List String)) stop values,
    leaves.patternGroups expression groups = .ok several →
    several.Reads rules source index stop values →
    List.Forall₂ (fun group value => ∃ single : Parser R String,
      leaves.patternGroup expression group = .ok single ∧
        single.Reads rules source index stop value) groups values
  zero : ∀ stop value, whole.Reads rules source index stop value →
    index ≤ stop ∧ source.isBoundary stop = true ∧
      value = String.ofList (source.between index stop)
  named : ∀ name number, engine.groupNamed? compiled name = some number →
    ∃ byName byNumber : Parser R String,
      leaves.patternGroup expression (.name name) = .ok byName ∧
      leaves.patternGroup expression (.number number) = .ok byNumber ∧
      ∀ result, byName.Gives rules source index result ↔
        byNumber.Gives rules source index result
  captured : ∀ group stop captured start finish characters,
    engine.Defines compiled group →
    engine.searchAt compiled source index = some (stop, captured) →
    engine.span? compiled captured group = some (start, finish) →
    source.slice? start finish = some characters →
    ∃ single : Parser R String,
      leaves.patternGroup expression group = .ok single ∧
        single.Reads rules source index stop (String.ofList characters)
  unmatched : ∀ group stop captured,
    engine.Defines compiled group →
    engine.searchAt compiled source index = some (stop, captured) →
    engine.span? compiled captured group = none →
    ∃ single : Parser R String,
      leaves.patternGroup expression group = .ok single ∧
        single.Reads rules source index stop ""

theorem readMatch_leaf (lawful : engine.Lawful) (leaves : engine.Leaves)
    (rules : Rules R) (source : Source) (index : Nat) {expression : String}
    {compiled : engine.Compiled}
    (compiles : engine.compile expression = .ok compiled) :
    ReadMatch leaves rules source index expression compiled
      (.leaf (leaves.leaf expression compiled fun text => text (.number 0)))
    where
  several_ends groups several built := by
    rcases (Engine.Leaves.patternGroups_eq_ok_iff compiles).mp built with
      ⟨_, rfl⟩
    exact endAlike_leaves compiles rules source index _ _
  single_ends group single built := by
    rcases (Engine.Leaves.patternGroup_eq_ok_iff compiles).mp built with
      ⟨_, rfl⟩
    exact endAlike_leaves compiles rules source index _ _
  values groups several stop values built reads := by
    rcases (Engine.Leaves.patternGroups_eq_ok_iff compiles).mp built with
      ⟨defines, rfl⟩
    rcases (Engine.Leaves.reads_leaf_iff compiles).mp reads with
      ⟨captured, found, rfl⟩
    rw [List.forall₂_map_right_iff, List.forall₂_same]
    intro group member
    exact ⟨_, Engine.Leaves.patternGroup_of_defines compiles
        (defines group member),
      (Engine.Leaves.reads_leaf_iff compiles).mpr ⟨captured, found, rfl⟩⟩
  zero stop value reads := by
    rcases (Engine.Leaves.reads_leaf_iff compiles).mp reads with
      ⟨captured, found, rfl⟩
    rcases Engine.searchAt_eq_some_iff.mp found with
      ⟨within, start, rfl, searched⟩
    rcases lawful.search_zero compiles within searched with
      ⟨rfl, ordered, startBoundary, stopBoundary⟩
    refine ⟨ordered, stopBoundary, ?_⟩
    rw [Engine.groupText, Engine.span?, searched, Option.bind_some,
      Source.slice?, if_pos ⟨ordered, startBoundary, stopBoundary⟩]
  named name number named := by
    have numbered := lawful.groupNamed?_lt compiles named
    refine ⟨_, _,
      Engine.Leaves.patternGroup_of_defines compiles ⟨number, named⟩,
      Engine.Leaves.patternGroup_of_defines compiles numbered, ?_⟩
    intro result
    have sameText : ∀ captured,
        engine.groupText compiled source captured (.name name) =
          engine.groupText compiled source captured (.number number) := by
      intro captured
      rw [Engine.groupText, Engine.groupText, Engine.span?, Engine.span?, named,
        Option.bind_some]
    simp only [gives_leaf_iff, leaves.parse_leaf _ compiles, Engine.parse,
      sameText]
  captured group stop captured start finish characters defined found spans
      sliced := by
    refine ⟨_, Engine.Leaves.patternGroup_of_defines compiles defined,
      (Engine.Leaves.reads_leaf_iff compiles).mpr ⟨captured, found, ?_⟩⟩
    rw [Engine.groupText, spans, Option.bind_some, sliced]
  unmatched group stop captured defined found apart := by
    refine ⟨_, Engine.Leaves.patternGroup_of_defines compiles defined,
      (Engine.Leaves.reads_leaf_iff compiles).mpr ⟨captured, found, ?_⟩⟩
    rw [Engine.groupText, apart, Option.bind_none]

/--
The parsers for the whole match of an expression, for one of its groups and for
several agree, with any lawful engine.  Several groups are refused if the
expression does not compile, or else for the first of them that it does not
define, and are built otherwise; one group is built or refused like a list of
just that one.  Once the expression compiles there is a parser for the whole
match, and wherever they are run the others end like it, with the values that
the match gives their groups.
-/
theorem pattern_parsers_agree (lawful : engine.Lawful)
    (leaves : engine.Leaves) (expression : String) :
    (∀ groups error,
      (leaves.patternGroups expression groups :
          Except PatternError (Parser R (List String))) = .error error ↔
        engine.Rejected expression groups error) ∧
    (∀ groups,
      (∃ several : Parser R (List String),
        leaves.patternGroups expression groups = .ok several) ↔
      ∃ compiled, engine.compile expression = .ok compiled ∧
        ∀ group ∈ groups, engine.Defines compiled group) ∧
    (∀ group error,
      (leaves.patternGroup expression group :
          Except PatternError (Parser R String)) = .error error ↔
        (leaves.patternGroups expression [group] :
          Except PatternError (Parser R (List String))) = .error error) ∧
    ∀ compiled, engine.compile expression = .ok compiled →
      ∃ whole : Parser R String, leaves.pattern expression = .ok whole ∧
        leaves.patternGroup expression (.number 0) = .ok whole ∧
        ∀ rules source index,
          ReadMatch leaves rules source index expression compiled whole := by
  refine ⟨fun groups error => Engine.Leaves.patternGroups_eq_error_iff,
    fun groups => ?_,
    fun group error => Engine.Leaves.patternGroup_eq_error_iff.trans
      Engine.Leaves.patternGroups_eq_error_iff.symm,
    fun compiled compiles => ?_⟩
  · constructor
    · rintro ⟨several, built⟩
      rcases Engine.Leaves.exists_compile_of_patternGroups built with
        ⟨compiled, compiles⟩
      exact ⟨compiled, compiles,
        ((Engine.Leaves.patternGroups_eq_ok_iff compiles).mp built).1⟩
    · rintro ⟨compiled, compiles, defines⟩
      exact ⟨_, (Engine.Leaves.patternGroups_eq_ok_iff compiles).mpr
        ⟨defines, rfl⟩⟩
  · have zeroDefined : engine.Defines compiled (.number 0) :=
      lawful.groupCount_pos compiles
    have built : (leaves.patternGroup expression (.number 0) :
        Except PatternError (Parser R String)) = .ok _ :=
      Engine.Leaves.patternGroup_of_defines compiles zeroDefined
    exact ⟨_, built, built, fun rules source index =>
      readMatch_leaf lawful leaves rules source index compiles⟩

/-- A year, with a part behind it that is left out, is read off by its name and
by numbers behind a letter of two bytes. -/
theorem year_groups_agree :
    let expression := "(?P<year>[0-9]+)(-[0-9]+)?"
    let groups : List Group := [.name "year", .number 2, .number 0]
    let rules : Rules fun _ => Empty := ⟨nofun⟩
    let source := Source.ofString "é2024"
    Pattern.engine.Lawful ∧
    ∃ compiled, Pattern.ofText expression = .ok compiled ∧
      ∃ several, patternGroups expression groups = .ok several ∧
        several.Reads rules source 2 6 ["2024", "", "2024"] ∧
      ∃ whole, pattern expression = .ok whole ∧
        EndAlike rules source 2 several whole ∧
        List.Forall₂ (fun group value => ∃ single,
          patternGroup expression group = .ok single ∧
            single.Reads rules source 2 6 value)
          groups ["2024", "", "2024"] := by
  intro expression groups rules source
  have stops : (patternGroups expression groups).toOption.bind (fun several =>
      (several.run rules 0 source 2).answer.toOption.map (·.outcome)) =
        some (.success 6 ["2024", "", "2024"]) := by
    decide +kernel
  rcases built : patternGroups (R := fun _ => Empty) expression groups with
    cause | several
  · rw [built] at stops
    cases stops
  rw [built] at stops
  rcases Option.map_eq_some_iff.mp stops with
    ⟨⟨outcome, diagnostics⟩, answered, rfl⟩
  have reads : several.Reads rules source 2 6 ["2024", "", "2024"] :=
    ⟨diagnostics, 0, Run.answer_eq_ok_iff.mpr answered⟩
  rcases Engine.Leaves.exists_compile_of_patternGroups built with
    ⟨compiled, compiles⟩
  rcases (pattern_parsers_agree Pattern.engine_lawful Pattern.leaves
    expression).2.2.2 compiled compiles with ⟨whole, wholeBuilt, _, agree⟩
  have agreeHere := agree rules source 2
  exact ⟨Pattern.engine_lawful, compiled, compiles, several, rfl, reads, whole,
    wholeBuilt, agreeHere.several_ends groups several built,
    agreeHere.values groups several 6 _ built reads⟩

end Parser

end OrderedChoice
