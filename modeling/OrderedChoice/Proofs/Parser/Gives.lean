import Mathlib.Data.List.Forall2
import OrderedChoice.Parser.Entry
import OrderedChoice.Parser.Literals
import OrderedChoice.Proofs.Diagnostics.Merging
import OrderedChoice.Proofs.Parser.Fuel
import OrderedChoice.Proofs.Parser.Invariant
import OrderedChoice.Proofs.Text.Boundary

/-!
# What parsers give

A parser gives a result at an offset when a run with some fuel ends with it.
Since more fuel changes nothing, there is at most one such result, and runs of
several parsers can be given fuel that is enough for all of them.

The laws below say, one combinator at a time, what a parser gives from what its
parts give.  Where only the outcome matters they are stated on parsers that
read from one offset to another and on parsers that miss.
-/

namespace OrderedChoice.Parser

variable {R : Type → Type} {α β : Type}

/-- A parser gives a result at an offset, with enough fuel. -/
def Gives (rules : Rules R) (source : Source) (parser : Parser R α)
    (index : Nat) (result : ParseResult α) : Prop :=
  ∃ fuel, (parser.run rules fuel source index).answer = .ok result

/-- A parser reads a value from one offset to another. -/
def Reads (rules : Rules R) (source : Source) (parser : Parser R α)
    (index stop : Nat) (value : α) : Prop :=
  ∃ diagnostics,
    parser.Gives rules source index ⟨.success stop value, diagnostics⟩

/-- A parser reads something at an offset. -/
def Succeeds (rules : Rules R) (source : Source) (parser : Parser R α)
    (index : Nat) : Prop :=
  ∃ stop value, parser.Reads rules source index stop value

/-- A parser fails at an offset. -/
def Misses (rules : Rules R) (source : Source) (parser : Parser R α)
    (index : Nat) : Prop :=
  ∃ diagnostics, parser.Gives rules source index ⟨.failure, diagnostics⟩

section

variable {rules : Rules R} {source : Source} {index : Nat}

/-! ## Fuel -/

/-- Every run with enough fuel ends with what a parser gives. -/
theorem Gives.eventually {parser : Parser R α} {result : ParseResult α}
    (gives : parser.Gives rules source index result) :
    ∃ least, ∀ fuel, least ≤ fuel →
      (parser.run rules fuel source index).answer = .ok result := by
  rcases gives with ⟨least, ends⟩
  exact ⟨least, fun fuel enough => run_eq_ok_of_le enough ends⟩

/-- A parser gives one result at most. -/
theorem Gives.unique {parser : Parser R α} {first second : ParseResult α}
    (givesFirst : parser.Gives rules source index first)
    (givesSecond : parser.Gives rules source index second) :
    first = second := by
  rcases givesFirst.eventually with ⟨leastFirst, endsFirst⟩
  rcases givesSecond.eventually with ⟨leastSecond, endsSecond⟩
  have answers := endsFirst (max leastFirst leastSecond) (Nat.le_max_left _ _)
  rw [endsSecond _ (Nat.le_max_right _ _)] at answers
  exact (Except.ok.inj answers).symm

theorem Reads.unique {parser : Parser R α} {first second : Nat}
    {left right : α} (readsFirst : parser.Reads rules source index first left)
    (readsSecond : parser.Reads rules source index second right) :
    first = second ∧ left = right := by
  rcases readsFirst with ⟨_, givesFirst⟩
  rcases readsSecond with ⟨_, givesSecond⟩
  cases givesFirst.unique givesSecond
  exact ⟨rfl, rfl⟩

theorem Misses.not_succeeds {parser : Parser R α}
    (misses : parser.Misses rules source index) :
    ¬ parser.Succeeds rules source index := by
  rintro ⟨stop, value, diagnostics, givesValue⟩
  rcases misses with ⟨reported, givesNothing⟩
  cases givesValue.unique givesNothing

/-- Two runs with fuel that is enough for both. -/
theorem Gives.together {first : Parser R α} {second : Parser R β}
    {next : Nat} {left : ParseResult α} {right : ParseResult β}
    (givesFirst : first.Gives rules source index left)
    (givesSecond : second.Gives rules source next right) :
    ∃ fuel, (first.run rules fuel source index).answer = .ok left ∧
      (second.run rules fuel source next).answer = .ok right := by
  rcases givesFirst.eventually with ⟨leastFirst, endsFirst⟩
  rcases givesSecond.eventually with ⟨leastSecond, endsSecond⟩
  exact ⟨max leastFirst leastSecond, endsFirst _ (Nat.le_max_left _ _),
    endsSecond _ (Nat.le_max_right _ _)⟩

/-! ## Leaves and rules -/

theorem gives_leaf (primitive : Primitive α) :
    (Parser.leaf primitive).Gives rules source index
      (primitive.parse source index) := by
  refine ⟨0, ?_⟩
  rw [run, attempt]
  rfl

theorem gives_leaf_iff {primitive : Primitive α} {result : ParseResult α} :
    (Parser.leaf primitive).Gives rules source index result ↔
      result = primitive.parse source index := by
  constructor
  · intro gives
    exact gives.unique (gives_leaf primitive)
  · rintro rfl
    exact gives_leaf primitive

theorem parseLiteral_of_starts {text : String} {rest : List Char}
    (remains : source.rest index = some rest)
    (starts : text.toList <+: rest) :
    Primitive.parseLiteral text source index =
      .success (index + byteLength text.toList) text := by
  rw [Primitive.parseLiteral, remains, byteLength_toList]
  exact if_pos (List.isPrefixOf_iff_prefix.mpr starts)

theorem parseLiteral_of_differs {text : String} {rest : List Char}
    (remains : source.rest index = some rest)
    (differs : ¬ text.toList <+: rest) :
    Primitive.parseLiteral text source index = .failure index text := by
  rw [Primitive.parseLiteral, remains]
  exact if_neg fun stands => differs (List.isPrefixOf_iff_prefix.mp stands)

theorem gives_literal {text : String} {rest : List Char}
    (remains : source.rest index = some rest)
    (starts : text.toList <+: rest) :
    (literal text : Parser R String).Gives rules source index
      (.success (index + byteLength text.toList) text) :=
  gives_leaf_iff.mpr (parseLiteral_of_starts remains starts).symm

theorem gives_literal_failed {text : String} {rest : List Char}
    (remains : source.rest index = some rest)
    (differs : ¬ text.toList <+: rest) :
    (literal text : Parser R String).Gives rules source index
      (.failure index text) :=
  gives_leaf_iff.mpr (parseLiteral_of_differs remains differs).symm

theorem gives_ref {rule : R α} {parser : Parser R α}
    {result : ParseResult α} (defined : rules.definition rule = some parser)
    (gives : parser.Gives rules source index result) :
    (Parser.ref rule).Gives rules source index result := by
  rcases gives with ⟨fuel, ends⟩
  refine ⟨fuel + 1, ?_⟩
  rw [run, attempt, Rules.enter, defined]
  exact ends

/-! ## Values -/

theorem gives_map (f : α → β) {parser : Parser R α} {result : ParseResult α}
    (gives : parser.Gives rules source index result) :
    (Parser.map f parser).Gives rules source index (result.map f) := by
  rcases gives with ⟨fuel, ends⟩
  refine ⟨fuel, ?_⟩
  rw [run] at ends ⊢
  rw [attempt, Attempt.map, Run.mapResult, ends]
  rfl

theorem gives_describe (description : String) {parser : Parser R α}
    {result : ParseResult α}
    (gives : parser.Gives rules source index result) :
    (Parser.describe parser description).Gives rules source index
      (if result.isSuccess then result else .failure index description) := by
  rcases gives with ⟨fuel, ends⟩
  refine ⟨fuel, ?_⟩
  rw [run] at ends ⊢
  rw [attempt, Attempt.describe, Run.mapResult, ends]
  rfl

/-! ## Sequence -/

theorem gives_bind {first : Parser R α} {next : α → Parser R β}
    {stop : Nat} {value : α} {diagnostics : Diagnostics}
    {result : ParseResult β}
    (givesFirst : first.Gives rules source index
      ⟨.success stop value, diagnostics⟩)
    (givesNext : (next value).Gives rules source stop result) :
    (Parser.bind first next).Gives rules source index
      (result.aggregate diagnostics) := by
  rcases givesFirst.together givesNext with ⟨fuel, endsFirst, endsNext⟩
  refine ⟨fuel, ?_⟩
  rw [run] at endsFirst endsNext ⊢
  simp only [attempt, Attempt.bind, Run.andThen, endsFirst, Run.mapResult,
    endsNext]
  rfl

theorem gives_bind_failed {first : Parser R α} (next : α → Parser R β)
    {diagnostics : Diagnostics}
    (givesFirst : first.Gives rules source index ⟨.failure, diagnostics⟩) :
    (Parser.bind first next).Gives rules source index
      ⟨.failure, diagnostics⟩ := by
  rcases givesFirst with ⟨fuel, endsFirst⟩
  refine ⟨fuel, ?_⟩
  rw [run] at endsFirst ⊢
  simp only [attempt, Attempt.bind, Run.andThen, endsFirst]
  rfl

theorem gives_both {first : Parser R α} {second : Parser R β} {stop : Nat}
    {value : α} {diagnostics : Diagnostics} {result : ParseResult β}
    (givesFirst : first.Gives rules source index
      ⟨.success stop value, diagnostics⟩)
    (givesSecond : second.Gives rules source stop result) :
    (Parser.both first second).Gives rules source index
      ((result.aggregate diagnostics).map (value, ·)) := by
  rcases givesFirst.together givesSecond with ⟨fuel, endsFirst, endsSecond⟩
  refine ⟨fuel, ?_⟩
  rw [run] at endsFirst endsSecond ⊢
  simp only [attempt, Attempt.both, Run.andThen, endsFirst, Run.mapResult,
    endsSecond]
  rcases result with ⟨outcome, recent⟩
  cases outcome with
  | success last found =>
      -- A fresh success has no diagnostics of its own to add.
      simp only [Except.map, ParseResult.aggregate, ParseResult.success,
        ParseResult.map, Outcome.map, Diagnostics.none_merge]
  | failure => rfl

theorem gives_both_failed {first : Parser R α} (second : Parser R β)
    {diagnostics : Diagnostics}
    (givesFirst : first.Gives rules source index ⟨.failure, diagnostics⟩) :
    (Parser.both first second).Gives rules source index
      ⟨.failure, diagnostics⟩ := by
  rcases givesFirst with ⟨fuel, endsFirst⟩
  refine ⟨fuel, ?_⟩
  rw [run] at endsFirst ⊢
  simp only [attempt, Attempt.both, Run.andThen, endsFirst]
  rfl

/-! ## Choice -/

theorem gives_orElse {first : Parser R α} (second : Parser R α) {stop : Nat}
    {value : α} {diagnostics : Diagnostics}
    (givesFirst : first.Gives rules source index
      ⟨.success stop value, diagnostics⟩) :
    (Parser.orElse first second).Gives rules source index
      ⟨.success stop value, diagnostics⟩ := by
  rcases givesFirst with ⟨fuel, endsFirst⟩
  refine ⟨fuel, ?_⟩
  rw [run] at endsFirst ⊢
  simp only [attempt, Attempt.orElse, Run.andThen, endsFirst]
  rfl

theorem gives_orElse_failed {first second : Parser R α}
    {diagnostics : Diagnostics} {result : ParseResult α}
    (givesFirst : first.Gives rules source index ⟨.failure, diagnostics⟩)
    (givesSecond : second.Gives rules source index result) :
    (Parser.orElse first second).Gives rules source index
      (result.aggregate diagnostics) := by
  rcases givesFirst.together givesSecond with ⟨fuel, endsFirst, endsSecond⟩
  refine ⟨fuel, ?_⟩
  rw [run] at endsFirst endsSecond ⊢
  simp only [attempt, Attempt.orElse, Run.andThen, endsFirst]
  simp only [ParseResult.isSuccess, Outcome.isSuccess, Bool.false_eq_true,
    if_false, Run.mapResult, endsSecond]
  rfl

/-! ### One of several -/

/-- Each of several parsers fails, with a report of its own. -/
def AllFail (rules : Rules R) (source : Source) (index : Nat) :
    List (Parser R α) → List Diagnostics → Prop :=
  List.Forall₂ fun parser report =>
    parser.Gives rules source index ⟨.failure, report⟩

/-- What was chosen stays chosen. -/
theorem gives_foldl_orElse (others : List (Parser R α)) {chosen : Parser R α}
    {stop : Nat} {value : α} {diagnostics : Diagnostics}
    (gives : chosen.Gives rules source index
      ⟨.success stop value, diagnostics⟩) :
    (others.foldl Parser.orElse chosen).Gives rules source index
      ⟨.success stop value, diagnostics⟩ := by
  induction others generalizing chosen with
  | nil => exact gives
  | cons other others inductiveStep =>
      exact inductiveStep (gives_orElse other gives)

/-- What all failed of is merged, behind what was reported before. -/
theorem gives_foldl_orElse_failed {parsers : List (Parser R α)}
    {reports : List Diagnostics} {first : Parser R α} {prior : Diagnostics}
    (failed : first.Gives rules source index ⟨.failure, prior⟩)
    (missed : AllFail rules source index parsers reports) :
    (parsers.foldl Parser.orElse first).Gives rules source index
      ⟨.failure, (Diagnostics.mergeAll reports).merge prior⟩ := by
  induction missed generalizing first prior with
  | nil =>
      rw [Diagnostics.mergeAll_nil, Diagnostics.none_merge]
      exact failed
  | cons missedSecond _ inductiveStep =>
      rw [Diagnostics.mergeAll_cons, Diagnostics.merge_assoc]
      exact inductiveStep (gives_orElse_failed failed missedSecond)

/-- A choice that fails reports what all its parsers failed of. -/
theorem gives_firstOf_failed {parsers : List (Parser R α)}
    {reports : List Diagnostics} (some : parsers ≠ [])
    (missed : AllFail rules source index parsers reports) :
    (firstOf parsers).Gives rules source index
      ⟨.failure, .mergeAll reports⟩ := by
  cases missed with
  | nil => exact absurd rfl some
  | cons missedFirst missedOthers =>
      rw [Diagnostics.mergeAll_cons]
      exact gives_foldl_orElse_failed missedFirst missedOthers

/-- A choice gives what its first parser that does not fail gives, and reports
besides what those before it failed of. -/
theorem gives_firstOf {earlier : List (Parser R α)}
    (later : List (Parser R α)) {reports : List Diagnostics}
    {parser : Parser R α} {stop : Nat} {value : α} {diagnostics : Diagnostics}
    (missed : AllFail rules source index earlier reports)
    (gives : parser.Gives rules source index
      ⟨.success stop value, diagnostics⟩) :
    (firstOf (earlier ++ parser :: later)).Gives rules source index
      ⟨.success stop value, diagnostics.merge (.mergeAll reports)⟩ := by
  cases missed with
  | nil =>
      rw [Diagnostics.mergeAll_nil, Diagnostics.merge_none]
      exact gives_foldl_orElse later gives
  | cons missedFirst missedOthers =>
      have failed := gives_foldl_orElse_failed missedFirst missedOthers
      rw [List.cons_append, firstOf, List.foldl_append, List.foldl_cons,
        Diagnostics.mergeAll_cons]
      exact gives_foldl_orElse later (gives_orElse_failed failed gives)

/-! ## Reading and missing -/

theorem reads_leaf_iff {primitive : Primitive α} {stop : Nat} {value : α} :
    (Parser.leaf primitive).Reads rules source index stop value ↔
      (primitive.parse source index).outcome = .success stop value := by
  have gives : (Parser.leaf primitive).Gives rules source index
      (primitive.parse source index) := gives_leaf primitive
  constructor
  · rintro ⟨diagnostics, givesToo⟩
    rw [gives.unique givesToo]
  · intro outcome
    refine ⟨(primitive.parse source index).diagnostics, ?_⟩
    rw [← outcome]
    exact gives

theorem misses_leaf_iff {primitive : Primitive α} :
    (Parser.leaf primitive).Misses rules source index ↔
      (primitive.parse source index).outcome = .failure := by
  have gives : (Parser.leaf primitive).Gives rules source index
      (primitive.parse source index) := gives_leaf primitive
  constructor
  · rintro ⟨diagnostics, givesToo⟩
    rw [gives.unique givesToo]
  · intro outcome
    refine ⟨(primitive.parse source index).diagnostics, ?_⟩
    rw [← outcome]
    exact gives

theorem reads_literal {text : String} {after : List Char}
    (remains : source.rest index = some (text.toList ++ after)) :
    (literal text : Parser R String).Reads rules source index
      (index + byteLength text.toList) text :=
  ⟨_, gives_literal remains (List.prefix_append _ _)⟩

theorem misses_literal {text : String} {rest : List Char}
    (remains : source.rest index = some rest)
    (differs : ¬ text.toList <+: rest) :
    (literal text : Parser R String).Misses rules source index :=
  ⟨_, gives_literal_failed remains differs⟩

theorem reads_ref {rule : R α} {parser : Parser R α} {stop : Nat} {value : α}
    (defined : rules.definition rule = some parser)
    (reads : parser.Reads rules source index stop value) :
    (Parser.ref rule).Reads rules source index stop value := by
  rcases reads with ⟨diagnostics, gives⟩
  exact ⟨diagnostics, gives_ref defined gives⟩

/-- What a reference reads is read by what it stands for. -/
theorem reads_of_ref {rule : R α} {stop : Nat} {value : α}
    (reads : (Parser.ref rule).Reads rules source index stop value) :
    ∃ parser, rules.definition rule = some parser ∧
      parser.Reads rules source index stop value := by
  rcases reads with ⟨diagnostics, fuel, ends⟩
  rw [run, attempt] at ends
  cases fuel with
  | zero => cases ends
  | succ fuel =>
      rw [Rules.enter] at ends
      cases defined : rules.definition rule with
      | none =>
          rw [defined] at ends
          cases ends
      | some parser =>
          rw [defined] at ends
          exact ⟨parser, rfl, diagnostics, fuel, ends⟩

theorem misses_ref {rule : R α} {parser : Parser R α}
    (defined : rules.definition rule = some parser)
    (misses : parser.Misses rules source index) :
    (Parser.ref rule).Misses rules source index := by
  rcases misses with ⟨diagnostics, gives⟩
  exact ⟨diagnostics, gives_ref defined gives⟩

theorem reads_map (f : α → β) {parser : Parser R α} {stop : Nat} {value : α}
    (reads : parser.Reads rules source index stop value) :
    (Parser.map f parser).Reads rules source index stop (f value) := by
  rcases reads with ⟨diagnostics, gives⟩
  exact ⟨diagnostics, gives_map f gives⟩

theorem reads_of_map {f : α → β} {parser : Parser R α} {stop : Nat}
    {value : β}
    (reads : (Parser.map f parser).Reads rules source index stop value) :
    ∃ before, f before = value ∧
      parser.Reads rules source index stop before := by
  rcases reads with ⟨diagnostics, fuel, ends⟩
  rw [run, attempt] at ends
  rcases Run.mapResult_answer_eq_ok ends with
    ⟨⟨outcome, recent⟩, endsInner, mapped⟩
  cases outcome with
  | failure => cases mapped
  | success last found =>
      cases mapped
      exact ⟨found, rfl, recent, fuel, endsInner⟩

theorem misses_map (f : α → β) {parser : Parser R α}
    (misses : parser.Misses rules source index) :
    (Parser.map f parser).Misses rules source index := by
  rcases misses with ⟨diagnostics, gives⟩
  exact ⟨diagnostics, gives_map f gives⟩

theorem reads_describe (description : String) {parser : Parser R α}
    {stop : Nat} {value : α}
    (reads : parser.Reads rules source index stop value) :
    (Parser.describe parser description).Reads rules source index stop
      value := by
  rcases reads with ⟨diagnostics, gives⟩
  exact ⟨diagnostics, gives_describe description gives⟩

theorem misses_describe (description : String) {parser : Parser R α}
    (misses : parser.Misses rules source index) :
    (Parser.describe parser description).Misses rules source index := by
  rcases misses with ⟨diagnostics, gives⟩
  exact ⟨.single index description, gives_describe description gives⟩

theorem reads_bind {first : Parser R α} {next : α → Parser R β}
    {middle stop : Nat} {value : α} {last : β}
    (readsFirst : first.Reads rules source index middle value)
    (readsNext : (next value).Reads rules source middle stop last) :
    (Parser.bind first next).Reads rules source index stop last := by
  rcases readsFirst with ⟨prior, givesFirst⟩
  rcases readsNext with ⟨recent, givesNext⟩
  exact ⟨recent.merge prior, gives_bind givesFirst givesNext⟩

theorem misses_bind {first : Parser R α} (next : α → Parser R β)
    (misses : first.Misses rules source index) :
    (Parser.bind first next).Misses rules source index := by
  rcases misses with ⟨diagnostics, gives⟩
  exact ⟨diagnostics, gives_bind_failed next gives⟩

/-- A parser fails when the one that its first part selects fails. -/
theorem misses_bind_second {first : Parser R α} {next : α → Parser R β}
    {middle : Nat} {value : α}
    (readsFirst : first.Reads rules source index middle value)
    (missesNext : (next value).Misses rules source middle) :
    (Parser.bind first next).Misses rules source index := by
  rcases readsFirst with ⟨prior, givesFirst⟩
  rcases missesNext with ⟨recent, givesNext⟩
  exact ⟨recent.merge prior, gives_bind givesFirst givesNext⟩

/-- What is read by a parser and the one that its value selects is read by one
after the other. -/
theorem reads_of_bind {first : Parser R α} {next : α → Parser R β} {stop : Nat}
    {result : β}
    (reads : (Parser.bind first next).Reads rules source index stop result) :
    ∃ middle value, first.Reads rules source index middle value ∧
      (next value).Reads rules source middle stop result := by
  rcases reads with ⟨diagnostics, fuel, ends⟩
  rw [run, attempt] at ends
  rcases Run.andThen_answer_eq_ok ends with
    ⟨⟨outcome, prior⟩, endsFirst, endsRest, _⟩
  cases outcome with
  | failure => cases endsRest
  | success middle value =>
      rcases Run.mapResult_answer_eq_ok endsRest with
        ⟨⟨outcome, recent⟩, endsSecond, combined⟩
      cases outcome with
      | failure => cases combined
      | success last found =>
          cases congrArg ParseResult.outcome combined
          exact ⟨middle, value, ⟨prior, fuel, endsFirst⟩,
            ⟨recent, fuel, endsSecond⟩⟩

theorem reads_both {first : Parser R α} {second : Parser R β}
    {middle stop : Nat} {left : α} {right : β}
    (readsFirst : first.Reads rules source index middle left)
    (readsSecond : second.Reads rules source middle stop right) :
    (Parser.both first second).Reads rules source index stop
      (left, right) := by
  rcases readsFirst with ⟨prior, givesFirst⟩
  rcases readsSecond with ⟨recent, givesSecond⟩
  exact ⟨recent.merge prior, gives_both givesFirst givesSecond⟩

/-- What is read by two parsers in sequence is read by one after the other. -/
theorem reads_of_both {first : Parser R α} {second : Parser R β} {stop : Nat}
    {left : α} {right : β}
    (reads : (Parser.both first second).Reads rules source index stop
      (left, right)) :
    ∃ middle, first.Reads rules source index middle left ∧
      second.Reads rules source middle stop right := by
  rcases reads with ⟨diagnostics, fuel, ends⟩
  rw [run, attempt] at ends
  rcases Run.andThen_answer_eq_ok ends with
    ⟨⟨outcome, prior⟩, endsFirst, endsRest, _⟩
  cases outcome with
  | failure => cases endsRest
  | success middle value =>
      rcases Run.mapResult_answer_eq_ok endsRest with
        ⟨⟨outcome, recent⟩, endsSecond, combined⟩
      cases outcome with
      | failure => cases combined
      | success last found =>
          cases congrArg ParseResult.outcome combined
          exact ⟨middle, ⟨prior, fuel, endsFirst⟩, ⟨recent, fuel, endsSecond⟩⟩

theorem misses_both {first : Parser R α} (second : Parser R β)
    (misses : first.Misses rules source index) :
    (Parser.both first second).Misses rules source index := by
  rcases misses with ⟨diagnostics, gives⟩
  exact ⟨diagnostics, gives_both_failed second gives⟩

theorem misses_both_second {first : Parser R α} {second : Parser R β}
    {middle : Nat} {left : α}
    (readsFirst : first.Reads rules source index middle left)
    (missesSecond : second.Misses rules source middle) :
    (Parser.both first second).Misses rules source index := by
  rcases readsFirst with ⟨prior, givesFirst⟩
  rcases missesSecond with ⟨recent, givesSecond⟩
  exact ⟨recent.merge prior, gives_both givesFirst givesSecond⟩

theorem reads_skip {first : Parser R α} {second : Parser R β}
    {middle stop : Nat} {left : α} {right : β}
    (readsFirst : first.Reads rules source index middle left)
    (readsSecond : second.Reads rules source middle stop right) :
    (first.skip second).Reads rules source index stop left :=
  reads_map Prod.fst (reads_both readsFirst readsSecond)

theorem reads_orElse {first : Parser R α} (second : Parser R α) {stop : Nat}
    {value : α} (reads : first.Reads rules source index stop value) :
    (Parser.orElse first second).Reads rules source index stop value := by
  rcases reads with ⟨diagnostics, gives⟩
  exact ⟨diagnostics, gives_orElse second gives⟩

theorem reads_orElse_second {first second : Parser R α} {stop : Nat}
    {value : α} (misses : first.Misses rules source index)
    (reads : second.Reads rules source index stop value) :
    (Parser.orElse first second).Reads rules source index stop value := by
  rcases misses with ⟨prior, givesFirst⟩
  rcases reads with ⟨recent, givesSecond⟩
  exact ⟨recent.merge prior, gives_orElse_failed givesFirst givesSecond⟩

theorem misses_orElse {first second : Parser R α}
    (missesFirst : first.Misses rules source index)
    (missesSecond : second.Misses rules source index) :
    (Parser.orElse first second).Misses rules source index := by
  rcases missesFirst with ⟨prior, givesFirst⟩
  rcases missesSecond with ⟨recent, givesSecond⟩
  exact ⟨recent.merge prior, gives_orElse_failed givesFirst givesSecond⟩

/-- What a choice reads one of its parts reads. -/
theorem reads_of_orElse {first second : Parser R α} {stop : Nat} {value : α}
    (reads : (Parser.orElse first second).Reads rules source index stop
      value) :
    first.Reads rules source index stop value ∨
      second.Reads rules source index stop value := by
  rcases reads with ⟨diagnostics, fuel, ends⟩
  rw [run, attempt] at ends
  rcases Run.andThen_answer_eq_ok ends with
    ⟨⟨outcome, prior⟩, endsFirst, endsRest, _⟩
  cases outcome with
  | success middle found =>
      cases endsRest
      exact .inl ⟨diagnostics, fuel, endsFirst⟩
  | failure =>
      rcases Run.mapResult_answer_eq_ok endsRest with
        ⟨⟨outcome, recent⟩, endsSecond, combined⟩
      cases outcome with
      | failure => cases combined
      | success last found =>
          cases congrArg ParseResult.outcome combined
          exact .inr ⟨recent, fuel, endsSecond⟩

/-! ### One of several -/

/-- Parsers that miss have reports. -/
theorem exists_reports {parsers : List (Parser R α)}
    (missed : ∀ parser ∈ parsers, parser.Misses rules source index) :
    ∃ reports, AllFail rules source index parsers reports := by
  induction parsers with
  | nil => exact ⟨[], .nil⟩
  | cons first parsers inductiveStep =>
      rcases missed first List.mem_cons_self with ⟨report, gives⟩
      rcases inductiveStep fun parser member =>
        missed parser (List.mem_cons_of_mem _ member) with ⟨reports, allFail⟩
      exact ⟨report :: reports, .cons gives allFail⟩

/-- A choice reads what its first parser that does not miss reads. -/
theorem reads_firstOf (earlier : List (Parser R α))
    {later : List (Parser R α)} {parser : Parser R α} {stop : Nat} {value : α}
    (missed : ∀ other ∈ earlier, other.Misses rules source index)
    (reads : parser.Reads rules source index stop value) :
    (firstOf (earlier ++ parser :: later)).Reads rules source index stop
      value := by
  rcases exists_reports missed with ⟨reports, allFail⟩
  rcases reads with ⟨diagnostics, gives⟩
  exact ⟨_, gives_firstOf later allFail gives⟩

/-- What one of several parsers reads some of them reads. -/
theorem reads_of_firstOf {parsers : List (Parser R α)} {stop : Nat} {value : α}
    (reads : (firstOf parsers).Reads rules source index stop value) :
    ∃ parser ∈ parsers, parser.Reads rules source index stop value := by
  cases parsers with
  | nil => cases reads_leaf_iff.mp reads
  | cons first others =>
      have chosen : first.Reads rules source index stop value ∨
          ∃ parser ∈ others, parser.Reads rules source index stop value := by
        rw [firstOf] at reads
        induction others generalizing first with
        | nil => exact .inl reads
        | cons second others inductiveStep =>
            rcases inductiveStep (.orElse first second) reads with
              readsChoice | ⟨parser, member, readsLater⟩
            · rcases reads_of_orElse readsChoice with
                readsFirst | readsSecond
              · exact .inl readsFirst
              · exact .inr ⟨second, List.mem_cons_self, readsSecond⟩
            · exact .inr
                ⟨parser, List.mem_cons_of_mem _ member, readsLater⟩
      rcases chosen with readsFirst | ⟨parser, member, readsLater⟩
      · exact ⟨first, List.mem_cons_self, readsFirst⟩
      · exact ⟨parser, List.mem_cons_of_mem _ member, readsLater⟩

/-- A choice misses where all its parsers do. -/
theorem misses_firstOf {parsers : List (Parser R α)}
    (missed : ∀ parser ∈ parsers, parser.Misses rules source index) :
    (firstOf parsers).Misses rules source index := by
  by_cases none : parsers = []
  · subst none
    exact misses_leaf_iff.mpr rfl
  · rcases exists_reports missed with ⟨reports, allFail⟩
    exact ⟨_, gives_firstOf_failed none allFail⟩

/-! ### Repetition -/

/-- Reading again and again, until a parser misses. -/
inductive ReadsAll (rules : Rules R) (source : Source) (item : Parser R α) :
    Nat → Nat → List α → Prop where
  | stop {index : Nat} (misses : item.Misses rules source index) :
      ReadsAll rules source item index index []
  | more {index next stop : Nat} {value : α} {values : List α}
      (reads : item.Reads rules source index next value)
      (rest : ReadsAll rules source item next stop values) :
      ReadsAll rules source item index stop (value :: values)

/-- A loop without bounds ends with what is read again and again. -/
theorem ReadsAll.timesLoop_ends {item : Parser R α} {stop : Nat}
    {values : List α}
    (readsAll : ReadsAll rules source item index stop values) :
    ∃ least, ∀ fuel, least ≤ fuel → ∀ turns, least ≤ turns →
      ∀ earlier count context trace, ∃ diagnostics,
        (Attempt.timesLoop (item.run rules fuel source) 0 none turns earlier
          count context trace index).answer =
            .ok ⟨.success stop (earlier.reverse ++ values), diagnostics⟩ := by
  induction readsAll with
  | stop misses =>
      rcases misses with ⟨diagnostics, gives⟩
      rcases gives.eventually with ⟨least, ends⟩
      refine ⟨least + 1, fun fuel enough turns more earlier count context
        trace => ?_⟩
      rcases Nat.exists_eq_add_one_of_ne_zero (Nat.ne_zero_of_lt more)
        with ⟨turns, rfl⟩
      rw [Attempt.timesLoop, if_neg (by simp [Attempt.reaches])]
      simp only [ends fuel (by omega), Nat.zero_le, if_true]
      rw [List.append_nil]
      exact ⟨_, rfl⟩
  | more reads rest inductiveStep =>
      rcases reads with ⟨diagnostics, gives⟩
      rcases gives.eventually with ⟨leastItem, ends⟩
      rcases inductiveStep with ⟨leastRest, restEnds⟩
      refine ⟨max leastItem leastRest + 1, fun fuel enough turns more earlier
        count context trace => ?_⟩
      rcases Nat.exists_eq_add_one_of_ne_zero (Nat.ne_zero_of_lt more)
        with ⟨turns, rfl⟩
      rw [Attempt.timesLoop, if_neg (by simp [Attempt.reaches])]
      simp only [ends fuel (by omega)]
      have step := restEnds fuel (by omega) turns (by omega)
      simpa using step (_ :: earlier) _ _ _

/-- What a loop without bounds ended with was read again and again. -/
theorem readsAll_of_timesLoop {item : Parser R α} {fuel turns stop count : Nat}
    {earlier all : List α} {context diagnostics : Diagnostics} {trace : Trace}
    (ends : (Attempt.timesLoop (item.run rules fuel source) 0 none turns earlier
      count context trace index).answer =
        .ok ⟨.success stop all, diagnostics⟩) :
    ∃ values, all = earlier.reverse ++ values ∧
      ReadsAll rules source item index stop values := by
  induction turns generalizing index earlier count context trace with
  | zero => simp [Attempt.timesLoop, Attempt.reaches] at ends
  | succ turns inductiveStep =>
      rw [Attempt.timesLoop, if_neg (by simp [Attempt.reaches])] at ends
      cases answer : (item.run rules fuel source index).answer with
      | error abort => simp [answer] at ends
      | ok result =>
          rcases result with ⟨outcome, recent⟩
          simp only [answer] at ends
          cases outcome with
          | success next value =>
              rcases inductiveStep ends with ⟨values, rfl, rest⟩
              refine ⟨value :: values, by simp, ?_⟩
              exact .more ⟨recent, fuel, answer⟩ rest
          | failure =>
              simp only [Nat.zero_le, if_true] at ends
              cases ends
              exact ⟨[], by simp, .stop ⟨recent, fuel, answer⟩⟩

theorem reads_many_iff {item : Parser R α} {stop : Nat} {values : List α} :
    (many item).Reads rules source index stop values ↔
      ReadsAll rules source item index stop values := by
  constructor
  · rintro ⟨diagnostics, fuel, ends⟩
    rw [many, run, attempt] at ends
    rcases readsAll_of_timesLoop ends with ⟨read, rfl, readsAll⟩
    exact readsAll
  · intro readsAll
    rcases readsAll.timesLoop_ends with ⟨least, ends⟩
    rcases ends least (Nat.le_refl _) least (Nat.le_refl _) [] 0 .none ∅ with
      ⟨diagnostics, answer⟩
    refine ⟨diagnostics, least, ?_⟩
    rw [many, run, attempt, Attempt.times]
    exact answer

/-! ## Whole texts -/

/-- A parser accepts a whole source as a value. -/
def Accepts (rules : Rules R) (parser : Parser R α) (source : Source)
    (value : α) : Prop :=
  ∃ fuel, (parser.parse rules fuel source).answer = .ok (.ok value)

/-- A parser accepts a source when it reads all of it. -/
theorem accepts_iff {parser : Parser R α} {value : α} :
    Accepts rules parser source value ↔
      ∃ stop, source.length ≤ stop ∧
        parser.Reads rules source 0 stop value := by
  constructor
  · rintro ⟨fuel, accepted⟩
    rw [parse, Parsed.map, parsePartial] at accepted
    cases answer : ((parser.skip eof).run rules fuel source 0).answer with
    | error abort => simp [answer, Except.map] at accepted
    | ok result =>
        rcases result with ⟨outcome, diagnostics⟩
        simp only [answer] at accepted
        cases outcome with
        | failure => simp [Except.map] at accepted
        | success stop found =>
            have reads : (parser.skip eof).Reads rules source 0 stop found :=
              ⟨diagnostics, fuel, answer⟩
            rcases reads_of_map reads with ⟨⟨left, ended⟩, rfl, readsBoth⟩
            rcases reads_of_both readsBoth with ⟨middle, readsFirst, readsEof⟩
            have ending := reads_leaf_iff.mp readsEof
            rw [Primitive.parse] at ending
            split at ending
            · rename_i atEnd
              cases accepted
              exact ⟨middle, atEnd, readsFirst⟩
            · cases ending
  · rintro ⟨stop, atEnd, reads⟩
    have ending : (eof : Parser R Unit).Reads rules source stop stop () := by
      rw [eof, reads_leaf_iff, Primitive.parse, if_pos atEnd]
      rfl
    rcases reads_skip reads ending with ⟨diagnostics, fuel, ends⟩
    refine ⟨fuel, ?_⟩
    rw [parse, Parsed.map, parsePartial, ends]
    rfl

/-- A rejected source has the error of a failed run. -/
theorem exists_gives_of_rejected {parser : Parser R α} {fuel : Nat}
    {error : ParseError}
    (rejected : (parser.parse rules fuel source).answer = .ok (.error error)) :
    ∃ diagnostics, error = errorOf source diagnostics ∧
      ((parser.skip eof).run rules fuel source 0).answer =
        .ok ⟨.failure, diagnostics⟩ := by
  rw [parse, Parsed.map, parsePartial] at rejected
  cases answer : ((parser.skip eof).run rules fuel source 0).answer with
  | error abort => simp [answer, Except.map] at rejected
  | ok result =>
      rcases result with ⟨outcome, diagnostics⟩
      simp only [answer] at rejected
      cases outcome with
      | success stop value => simp [Except.map] at rejected
      | failure =>
          cases rejected
          exact ⟨diagnostics, rfl, rfl⟩

/-- What is accepted with some fuel is accepted with any more. -/
theorem Accepts.eventually {parser : Parser R α} {value : α}
    (accepts : Accepts rules parser source value) :
    ∃ least, ∀ fuel, least ≤ fuel →
      (parser.parse rules fuel source).answer = .ok (.ok value) := by
  rcases accepts with ⟨least, accepted⟩
  refine ⟨least, ?_⟩
  intro fuel enough
  rw [parse, Parsed.map, parsePartial] at accepted ⊢
  cases answer : ((parser.skip eof).run rules least source 0).answer with
  | error abort => simp [answer, Except.map] at accepted
  | ok result =>
      rw [run_eq_ok_of_le enough answer]
      rw [answer] at accepted
      cases outcome : result.outcome with
      | success stop found => simpa [outcome] using accepted
      | failure => simpa [outcome] using accepted

theorem Accepts.unique {parser : Parser R α} {first second : α}
    (acceptsFirst : Accepts rules parser source first)
    (acceptsSecond : Accepts rules parser source second) : first = second := by
  rcases accepts_iff.mp acceptsFirst with ⟨_, _, readsFirst⟩
  rcases accepts_iff.mp acceptsSecond with ⟨_, _, readsSecond⟩
  exact (readsFirst.unique readsSecond).2

end

end OrderedChoice.Parser
