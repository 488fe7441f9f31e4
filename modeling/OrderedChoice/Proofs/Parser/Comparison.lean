import OrderedChoice.Parser.Combinators

/-!
# Comparing runs

Two parsers are alike when they have one shape and what they differ in is
allowed: a `Likeness` says which leaves and which descriptions may stand for
each other, and what else is let pass.  Runs of alike parsers, perhaps on two
sources, go through the same turns side by side.

A `Comparison` says what two such runs have in common.  It relates the offsets
of one to those of the other, and the diagnostics of both; that leaves, merging
and fresh failures keep this is all it has to provide.  The main statement,
`Comparison.run_matches`, is the one induction over pairs of parsers, loops,
bodies and rule nesting.

The value of a negative lookahead is a failed result, with its diagnostics.  It
may differ where nothing sees it, so likeness and comparison are told whether
the value of a parser is seen.
-/

namespace OrderedChoice

/-! ## Alike parsers -/

/-- What alike parsers may differ in. -/
structure Likeness where
  /-- Leaves that may stand for each other. -/
  leaf : ∀ {α : Type}, Primitive α → Primitive α → Prop
  /-- Descriptions that may stand for each other. -/
  description : String → String → Prop
  /-- Whether one parser may be described where the other is not. -/
  wrapping : Prop
  /-- Whether bodies may ask for the offset of their next step. -/
  offset : Prop

mutual

/-- Parsers of one shape that differ in what a likeness allows.  The flag says
whether their values are seen. -/
inductive Parser.Alike {R : Type → Type} (likeness : Likeness) :
    Bool → ∀ {α : Type}, Parser R α → Parser R α → Prop where
  | leaf {seen : Bool} {α : Type} {primitive primitive' : Primitive α}
      (alike : likeness.leaf primitive primitive') :
      Parser.Alike likeness seen (.leaf primitive) (.leaf primitive')
  | ref {seen : Bool} {α : Type} (rule : R α) :
      Parser.Alike likeness seen (.ref rule) (.ref rule)
  | bind {seen : Bool} {α β : Type} {first first' : Parser R α}
      {next next' : α → Parser R β}
      (firsts : Parser.Alike likeness true first first')
      (nexts : ∀ value,
        Parser.Alike likeness seen (next value) (next' value)) :
      Parser.Alike likeness seen (.bind first next) (.bind first' next')
  | map {seen : Bool} {α β : Type} (f : α → β) {parser parser' : Parser R α}
      (alike : Parser.Alike likeness seen parser parser') :
      Parser.Alike likeness seen (.map f parser) (.map f parser')
  /-- A value that is replaced is not seen. -/
  | result {seen inside : Bool} {α β : Type} {parser parser' : Parser R α}
      (value : β) (alike : Parser.Alike likeness inside parser parser') :
      Parser.Alike likeness seen (parser.result value) (parser'.result value)
  | both {seen : Bool} {α β : Type} {first first' : Parser R α}
      {second second' : Parser R β}
      (firsts : Parser.Alike likeness seen first first')
      (seconds : Parser.Alike likeness seen second second') :
      Parser.Alike likeness seen (.both first second) (.both first' second')
  | orElse {seen : Bool} {α : Type} {first first' second second' : Parser R α}
      (firsts : Parser.Alike likeness seen first first')
      (seconds : Parser.Alike likeness seen second second') :
      Parser.Alike likeness seen (.orElse first second)
        (.orElse first' second')
  | times {seen : Bool} {α : Type} {item item' : Parser R α} (min : Nat)
      (max : Option Nat) (items : Parser.Alike likeness seen item item') :
      Parser.Alike likeness seen (.times item min max) (.times item' min max)
  | repeatUntil {seen : Bool} {α β : Type} {item item' : Parser R α}
      {terminator terminator' : Parser R β} (min : Nat) (max : Option Nat)
      (keep : Option (β → α))
      (items : Parser.Alike likeness seen item item')
      (terminators : Parser.Alike likeness seen terminator terminator') :
      Parser.Alike likeness seen (.repeatUntil item terminator min max keep)
        (.repeatUntil item' terminator' min max keep)
  | peek {seen : Bool} {α : Type} {parser parser' : Parser R α}
      (alike : Parser.Alike likeness seen parser parser') :
      Parser.Alike likeness seen (.peek parser) (.peek parser')
  /-- A negative lookahead, whose value nothing sees. -/
  | shouldFail {inside : Bool} {α : Type} {parser parser' : Parser R α}
      {description description' : String}
      (descriptions : likeness.description description description')
      (alike : Parser.Alike likeness inside parser parser') :
      Parser.Alike likeness false (.shouldFail parser description)
        (.shouldFail parser' description')
  | describe {seen : Bool} {α : Type} {parser parser' : Parser R α}
      {description description' : String}
      (descriptions : likeness.description description description')
      (alike : Parser.Alike likeness seen parser parser') :
      Parser.Alike likeness seen (.describe parser description)
        (.describe parser' description')
  | describeLeft {seen : Bool} {α : Type} {parser parser' : Parser R α}
      (allowed : likeness.wrapping) (description : String)
      (alike : Parser.Alike likeness seen parser parser') :
      Parser.Alike likeness seen (.describe parser description) parser'
  | describeRight {seen : Bool} {α : Type} {parser parser' : Parser R α}
      (allowed : likeness.wrapping) (description : String)
      (alike : Parser.Alike likeness seen parser parser') :
      Parser.Alike likeness seen parser (.describe parser' description)
  | generate {seen : Bool} {α : Type} {body body' : Steps R α}
      (alike : Steps.Alike likeness body body') :
      Parser.Alike likeness seen (.generate body) (.generate body')

/-- Bodies of one shape whose parsers are alike.  A body sees the values of its
steps. -/
inductive Steps.Alike {R : Type → Type} (likeness : Likeness) :
    ∀ {α : Type}, Steps R α → Steps R α → Prop where
  | done {α : Type} (value : α) :
      Steps.Alike likeness (.done value) (.done value)
  | halt {α : Type} : Steps.Alike likeness (.halt : Steps R α) .halt
  | step {α β : Type} {parser parser' : Parser R β}
      {next next' : Option β → Steps R α}
      (parsers : Parser.Alike likeness true parser parser')
      (nexts : ∀ answer, Steps.Alike likeness (next answer) (next' answer)) :
      Steps.Alike likeness (.step parser next) (.step parser' next')
  | index {α : Type} {next next' : Option Nat → Steps R α}
      (allowed : likeness.offset)
      (nexts : ∀ answer, Steps.Alike likeness (next answer) (next' answer)) :
      Steps.Alike likeness (.index next) (.index next')
  | halted {α : Type} {next next' : Bool → Steps R α}
      (nexts : ∀ answer, Steps.Alike likeness (next answer) (next' answer)) :
      Steps.Alike likeness (.halted next) (.halted next')
  | aside {α : Type} (trace trace' : Trace) {next next' : Steps R α}
      (nexts : Steps.Alike likeness next next') :
      Steps.Alike likeness (.aside trace next) (.aside trace' next')

end

/-- Rules that stand for alike parsers, or for none. -/
def Rules.Alike {R : Type → Type} (likeness : Likeness)
    (rules rules' : Rules R) : Prop :=
  ∀ {α : Type} (rule : R α),
    Option.Rel (Parser.Alike likeness true) (rules.definition rule)
      (rules'.definition rule)

/-! ## Parsers alike themselves -/

mutual

/-- Parsers that show no failed result: the value of a negative lookahead is
one, so it has to be replaced.  Given are the leaves there may be and whether
bodies may ask for offsets; the flag says whether the value of the parser is
seen. -/
def Parser.Conceals {R : Type → Type}
    (leaf : ∀ {α : Type}, Primitive α → Prop) (offset : Prop) :
    ∀ {α : Type}, Parser R α → (seen : Bool) → Prop
  | _, .leaf primitive, _ => leaf primitive
  | _, .ref _, _ => True
  | _, .bind first next, seen =>
    first.Conceals leaf offset true ∧
      ∀ value, (next value).Conceals leaf offset seen
  | _, .map f parser, seen =>
    parser.Conceals leaf offset seen ∨
      (∃ value, f = fun _ => value) ∧ parser.Conceals leaf offset false
  | _, .both first second, seen =>
    first.Conceals leaf offset seen ∧ second.Conceals leaf offset seen
  | _, .orElse first second, seen =>
    first.Conceals leaf offset seen ∧ second.Conceals leaf offset seen
  | _, .times item _ _, seen => item.Conceals leaf offset seen
  | _, .repeatUntil item terminator _ _ _, seen =>
    item.Conceals leaf offset seen ∧ terminator.Conceals leaf offset seen
  | _, .peek parser, seen => parser.Conceals leaf offset seen
  | _, .shouldFail parser _, seen =>
    seen = false ∧ parser.Conceals leaf offset false
  | _, .describe parser _, seen => parser.Conceals leaf offset seen
  | _, .generate body, _ => body.Conceals leaf offset

/-- Bodies that show no failed result. -/
def Steps.Conceals {R : Type → Type}
    (leaf : ∀ {α : Type}, Primitive α → Prop) (offset : Prop) :
    ∀ {α : Type}, Steps R α → Prop
  | _, .done _ => True
  | _, .halt => True
  | _, .step parser next =>
    parser.Conceals leaf offset true ∧
      ∀ answer, (next answer).Conceals leaf offset
  | _, .index next => offset ∧ ∀ answer, (next answer).Conceals leaf offset
  | _, .halted next => ∀ answer, (next answer).Conceals leaf offset
  | _, .aside _ next => next.Conceals leaf offset

end

/-- Whether no definition of a family of rules shows a failed result. -/
def Rules.Conceals {R : Type → Type}
    (leaf : ∀ {α : Type}, Primitive α → Prop) (offset : Prop)
    (rules : Rules R) : Prop :=
  ∀ {α : Type} (rule : R α) (parser : Parser R α),
    rules.definition rule = some parser → parser.Conceals leaf offset true

section

variable {R : Type → Type} {likeness : Likeness}
  {leaf : ∀ {α : Type}, Primitive α → Prop} {offset : Prop}

mutual

/-- A parser that shows no failed result is alike itself, whatever else is let
differ. -/
theorem Parser.alike_self
    (leaves : ∀ {α : Type} {primitive : Primitive α}, leaf primitive →
      likeness.leaf primitive primitive)
    (offsets : offset → likeness.offset)
    (descriptions : ∀ description,
      likeness.description description description) :
    ∀ {α : Type} {parser : Parser R α} {seen : Bool},
      parser.Conceals leaf offset seen → parser.Alike likeness seen parser
  | _, .leaf primitive, seen, suits => .leaf (leaves suits)
  | _, .ref rule, seen, _ => .ref rule
  | _, .bind first next, seen, suits =>
    .bind (Parser.alike_self leaves offsets descriptions suits.1) fun value =>
      Parser.alike_self leaves offsets descriptions (suits.2 value)
  | _, .map f parser, seen, suits => by
      rcases suits with suits | ⟨⟨value, rfl⟩, suits⟩
      · exact .map f (Parser.alike_self leaves offsets descriptions suits)
      · exact .result value
          (Parser.alike_self leaves offsets descriptions suits)
  | _, .both first second, seen, suits =>
    .both (Parser.alike_self leaves offsets descriptions suits.1)
      (Parser.alike_self leaves offsets descriptions suits.2)
  | _, .orElse first second, seen, suits =>
    .orElse (Parser.alike_self leaves offsets descriptions suits.1)
      (Parser.alike_self leaves offsets descriptions suits.2)
  | _, .times item min max, seen, suits => by
      have itemSuits : item.Conceals leaf offset seen := suits
      exact .times min max
        (Parser.alike_self leaves offsets descriptions itemSuits)
  | _, .repeatUntil item terminator min max keep, seen, suits =>
    .repeatUntil min max keep
      (Parser.alike_self leaves offsets descriptions suits.1)
      (Parser.alike_self leaves offsets descriptions suits.2)
  | _, .peek parser, seen, suits =>
    .peek (Parser.alike_self leaves offsets descriptions suits)
  | _, .shouldFail parser description, seen, suits => by
      rcases suits with ⟨rfl, suits⟩
      exact .shouldFail (descriptions description)
        (Parser.alike_self leaves offsets descriptions suits)
  | _, .describe parser description, seen, suits =>
    .describe (descriptions description)
      (Parser.alike_self leaves offsets descriptions suits)
  | _, .generate body, seen, suits =>
    .generate (Steps.alike_self leaves offsets descriptions suits)

theorem Steps.alike_self
    (leaves : ∀ {α : Type} {primitive : Primitive α}, leaf primitive →
      likeness.leaf primitive primitive)
    (offsets : offset → likeness.offset)
    (descriptions : ∀ description,
      likeness.description description description) :
    ∀ {α : Type} {body : Steps R α},
      body.Conceals leaf offset → body.Alike likeness body
  | _, .done value, _ => .done value
  | _, .halt, _ => .halt
  | _, .step _ _, suits =>
    .step (Parser.alike_self leaves offsets descriptions suits.1)
      fun answer => Steps.alike_self leaves offsets descriptions
        (suits.2 answer)
  | _, .index _, suits =>
    .index (offsets suits.1) fun answer =>
      Steps.alike_self leaves offsets descriptions (suits.2 answer)
  | _, .halted _, suits =>
    .halted fun answer =>
      Steps.alike_self leaves offsets descriptions (suits answer)
  | _, .aside trace _, suits =>
    .aside trace trace (Steps.alike_self leaves offsets descriptions suits)

end

/-- Rules that show no failed result are alike themselves. -/
theorem Rules.alike_self {rules : Rules R}
    (leaves : ∀ {α : Type} {primitive : Primitive α}, leaf primitive →
      likeness.leaf primitive primitive)
    (offsets : offset → likeness.offset)
    (descriptions : ∀ description,
      likeness.description description description)
    (suits : rules.Conceals leaf offset) : rules.Alike likeness rules := by
  intro α rule
  cases defined : rules.definition rule with
  | none => exact .none
  | some definition =>
      exact .some (Parser.alike_self leaves offsets descriptions
        (suits rule definition defined))

end

/-! ## What two runs have in common -/

theorem Run.mapResult_id {α : Type} (run : Run α) : run.mapResult id = run := by
  rcases run with ⟨_ | _, _⟩ <;> rfl

/-- How runs of alike parsers on two sources go together. -/
structure Comparison (likeness : Likeness) (source source' : Source) where
  /-- Where the second run is when the first is at an offset. -/
  place : Nat → Nat
  /-- Which diagnostics go together. -/
  told : Diagnostics → Diagnostics → Prop
  /-- Leaves that are alike succeed at places that go together, with one value,
  or fail. -/
  leaf_outcome : ∀ {α : Type} {primitive primitive' : Primitive α}
    (index : Nat), likeness.leaf primitive primitive' →
    (primitive'.parse source' (place index)).outcome =
      match (primitive.parse source index).outcome with
      | .success stop value => .success (place stop) value
      | .failure => .failure
  /-- What alike leaves tell goes together. -/
  leaf_told : ∀ {α : Type} {primitive primitive' : Primitive α} (index : Nat),
    likeness.leaf primitive primitive' →
    told (primitive.parse source index).diagnostics
      (primitive'.parse source' (place index)).diagnostics
  /-- Nothing has been told yet. -/
  silent : told .none .none
  /-- What goes together is merged. -/
  merge : ∀ {recent recent' prior prior' : Diagnostics},
    told recent recent' → told prior prior' →
    told (recent.merge prior) (recent'.merge prior')
  /-- One failure is told by both. -/
  single : ∀ (index : Nat) {description description' : String},
    likeness.description description description' →
    told (.single index description) (.single (place index) description')
  /-- Each description may stand for itself. -/
  same_description : ∀ description, likeness.description description description
  /-- Where one run may be described and the other not, anything goes
  together. -/
  wrapping : likeness.wrapping → ∀ diagnostics diagnostics',
    told diagnostics diagnostics'
  /-- Where bodies may ask for offsets, places are the same. -/
  offset : likeness.offset → ∀ index, place index = index

namespace Comparison

variable {likeness : Likeness} {source source' : Source}
  (comparison : Comparison likeness source source')

/-- Outcomes that go together; values may differ if they are not seen. -/
inductive Outcomes (seen : Bool) {α : Type} :
    Outcome α → Outcome α → Prop where
  | success (stop : Nat) {value value' : α}
      (same : seen = true → value = value') :
      Outcomes seen (.success stop value)
        (.success (comparison.place stop) value')
  | failure : Outcomes seen .failure .failure

/-- Results that go together. -/
structure Matches (seen : Bool) {α : Type} (result result' : ParseResult α) :
    Prop where
  outcomes : comparison.Outcomes seen result.outcome result'.outcome
  diagnostics : comparison.told result.diagnostics result'.diagnostics

/-- Runs that go together: they end with results that do, or stop for one
reason. -/
inductive Ends (seen : Bool) {α : Type} : Run α → Run α → Prop where
  | result {result result' : ParseResult α} (trace trace' : Trace)
      (results : comparison.Matches seen result result') :
      Ends seen ⟨.ok result, trace⟩ ⟨.ok result', trace'⟩
  | abort (abort : Abort) (trace trace' : Trace) :
      Ends seen ⟨.error abort, trace⟩ ⟨.error abort, trace'⟩

/-- Attempts whose runs from places that go together do so too. -/
def Attempts (seen : Bool) {α : Type} (attempt attempt' : Attempt α) : Prop :=
  ∀ index, comparison.Ends seen (attempt index)
    (attempt' (comparison.place index))

variable {comparison} {α β : Type} {seen inside : Bool}

/-! ### Results -/

theorem Outcomes.unseen {outcome outcome' : Outcome α}
    (outcomes : comparison.Outcomes true outcome outcome') (seen : Bool) :
    comparison.Outcomes seen outcome outcome' := by
  cases outcomes with
  | success stop same => exact .success stop fun _ => same rfl
  | failure => exact .failure

namespace Matches

theorem success (stop : Nat) {value value' : α}
    (same : seen = true → value = value') {context context' : Diagnostics}
    (told : comparison.told context context') :
    comparison.Matches seen ⟨.success stop value, context⟩
      ⟨.success (comparison.place stop) value', context'⟩ :=
  ⟨.success stop same, told⟩

theorem failed {context context' : Diagnostics}
    (told : comparison.told context context') :
    comparison.Matches (α := α) seen (.failed context) (.failed context') :=
  ⟨.failure, told⟩

theorem failure (index : Nat) {description description' : String}
    (descriptions : likeness.description description description') :
    comparison.Matches (α := α) seen (.failure index description)
      (.failure (comparison.place index) description') :=
  failed (comparison.single index descriptions)

/-- A success to which what was gathered is added. -/
theorem gathered (index : Nat) {value value' : α}
    (same : seen = true → value = value') {context context' : Diagnostics}
    (told : comparison.told context context') :
    comparison.Matches seen
      ((ParseResult.success index value).aggregate context)
      ((ParseResult.success (comparison.place index) value').aggregate
        context') :=
  ⟨.success index same, comparison.merge comparison.silent told⟩

theorem aggregate {result result' : ParseResult α}
    {prior prior' : Diagnostics}
    (results : comparison.Matches seen result result')
    (told : comparison.told prior prior') :
    comparison.Matches seen (result.aggregate prior)
      (result'.aggregate prior') :=
  ⟨results.outcomes, comparison.merge results.diagnostics told⟩

/-- Values that go together by a function go together. -/
theorem map {f f' : α → β} {result result' : ParseResult α}
    (results : comparison.Matches inside result result')
    (same : ∀ value value', (inside = true → value = value') →
      seen = true → f value = f' value') :
    comparison.Matches seen (result.map f) (result'.map f') := by
  rcases result with ⟨outcome, context⟩
  rcases result' with ⟨outcome', context'⟩
  rcases results with ⟨outcomes, told⟩
  cases outcomes with
  | success stop values => exact success stop (same _ _ values) told
  | failure => exact failed told

end Matches

/-! ### Runs -/

theorem Ends.unseen {run run' : Run α} (ends : comparison.Ends true run run')
    (seen : Bool) : comparison.Ends seen run run' := by
  cases ends with
  | result trace trace' results =>
      exact .result trace trace'
        ⟨results.outcomes.unseen seen, results.diagnostics⟩
  | abort abort trace trace' => exact .abort abort trace trace'

theorem Ends.done {result result' : ParseResult α}
    (results : comparison.Matches seen result result') :
    comparison.Ends seen (.done result) (.done result') :=
  .result _ _ results

theorem Ends.mapResult {run run' : Run α}
    {change change' : ParseResult α → ParseResult β}
    (ends : comparison.Ends inside run run')
    (changes : ∀ result result', comparison.Matches inside result result' →
      comparison.Matches seen (change result) (change' result')) :
    comparison.Ends seen (run.mapResult change) (run'.mapResult change') := by
  cases ends with
  | result trace trace' results => exact .result _ _ (changes _ _ results)
  | abort abort trace trace' => exact .abort _ _ _

theorem Ends.andThen {run run' : Run α}
    {next next' : ParseResult α → Run β}
    (ends : comparison.Ends inside run run')
    (nexts : ∀ result result', comparison.Matches inside result result' →
      comparison.Ends seen (next result) (next' result')) :
    comparison.Ends seen (run.andThen next) (run'.andThen next') := by
  cases ends with
  | abort abort trace trace' => exact .abort _ _ _
  | @result result result' trace trace' results =>
      have later := nexts _ _ results
      simp only [Run.andThen]
      generalize next result = second at later
      generalize next' result' = second' at later
      cases later with
      | result _ _ results => exact .result _ _ results
      | abort abort _ _ => exact .abort _ _ _

/-- What is the same for results that go together is the same for the answers of
runs that do. -/
theorem Ends.map_answer_eq {γ : Type} {run run' : Run α}
    {view view' : ParseResult α → γ} (ends : comparison.Ends seen run run')
    (same : ∀ {result result' : ParseResult α},
      comparison.Matches seen result result' →
        view result = view' result') :
    run.answer.map view = run'.answer.map view' := by
  cases ends with
  | result trace trace' results => exact congrArg Except.ok (same results)
  | abort abort trace trace' => rfl

/-! ## Combinators -/

namespace Attempts

theorem unseen {attempt attempt' : Attempt α}
    (attempts : comparison.Attempts true attempt attempt') (seen : Bool) :
    comparison.Attempts seen attempt attempt' := fun index =>
  (attempts index).unseen seen

theorem leaf {primitive primitive' : Primitive α}
    (alike : likeness.leaf primitive primitive') :
    comparison.Attempts seen (fun index => .leaf (primitive.parse source index))
      fun index => .leaf (primitive'.parse source' index) := by
  intro index
  refine .result _ _ ⟨?_, comparison.leaf_told index alike⟩
  rw [comparison.leaf_outcome index alike]
  cases (primitive.parse source index).outcome with
  | success stop value => exact .success stop fun _ => rfl
  | failure => exact .failure

theorem bind {first first' : Attempt α} {next next' : α → Attempt β}
    (firsts : comparison.Attempts true first first')
    (nexts : ∀ value, comparison.Attempts seen (next value) (next' value)) :
    comparison.Attempts seen (first.bind next) (first'.bind next') := by
  intro index
  apply (firsts index).andThen
  rintro ⟨outcome, context⟩ ⟨outcome', context'⟩ ⟨outcomes, told⟩
  cases outcomes with
  | success stop same =>
      cases same rfl
      exact (nexts _ stop).mapResult fun _ _ results =>
        results.aggregate told
  | failure => exact .done (.failed told)

theorem map {f f' : α → β} {attempt attempt' : Attempt α}
    (attempts : comparison.Attempts inside attempt attempt')
    (same : ∀ value value', (inside = true → value = value') →
      seen = true → f value = f' value') :
    comparison.Attempts seen (attempt.map f) (attempt'.map f') := fun index =>
  (attempts index).mapResult fun _ _ results => results.map same

theorem both {first first' : Attempt α} {second second' : Attempt β}
    (firsts : comparison.Attempts seen first first')
    (seconds : comparison.Attempts seen second second') :
    comparison.Attempts seen (first.both second) (first'.both second') := by
  intro index
  apply (firsts index).andThen
  rintro ⟨outcome, context⟩ ⟨outcome', context'⟩ ⟨outcomes, told⟩
  cases outcomes with
  | failure => exact .done (.failed told)
  | success stop lefts =>
      apply (seconds stop).mapResult
      rintro ⟨outcome, recent⟩ ⟨outcome', recent'⟩ ⟨outcomes, toldRecent⟩
      have merged := comparison.merge toldRecent told
      cases outcomes with
      | failure => exact .failed merged
      | success last rights =>
          exact .gathered last
            (fun isSeen => by rw [lefts isSeen, rights isSeen]) merged

theorem orElse {first first' second second' : Attempt α}
    (firsts : comparison.Attempts seen first first')
    (seconds : comparison.Attempts seen second second') :
    comparison.Attempts seen (first.orElse second) (first'.orElse second') := by
  intro index
  apply (firsts index).andThen
  rintro ⟨outcome, context⟩ ⟨outcome', context'⟩ ⟨outcomes, told⟩
  cases outcomes with
  | success stop same => exact .done (.success stop same told)
  | failure =>
      exact (seconds index).mapResult fun _ _ results =>
        results.aggregate told

/-- Both loops have read as many items when they come to a turn, and so decide
alike. -/
theorem timesLoop {item item' : Attempt α}
    (items : comparison.Attempts seen item item') (min : Nat)
    (max : Option Nat) (turns : Nat) {values values' : List α} (count : Nat)
    {context context' : Diagnostics} (trace trace' : Trace) (index : Nat)
    (same : seen = true → values = values')
    (told : comparison.told context context') :
    comparison.Ends seen
      (Attempt.timesLoop item min max turns values count context trace index)
      (Attempt.timesLoop item' min max turns values' count context' trace'
        (comparison.place index)) := by
  induction turns generalizing values values' count context context' trace
    trace' index with
  | zero =>
      rw [Attempt.timesLoop, Attempt.timesLoop]
      split
      · exact .result _ _
          (.gathered index (fun isSeen => by rw [same isSeen]) told)
      · exact .abort _ _ _
  | succ turns inductiveStep =>
      rw [Attempt.timesLoop, Attempt.timesLoop]
      split
      · exact .result _ _
          (.gathered index (fun isSeen => by rw [same isSeen]) told)
      have ends := items index
      generalize item index = run at ends
      generalize item' (comparison.place index) = run' at ends
      cases ends with
      | abort abort _ _ => exact .abort _ _ _
      | @result result result' _ _ results =>
          rcases result with ⟨outcome, recent⟩
          rcases result' with ⟨outcome', recent'⟩
          rcases results with ⟨outcomes, toldRecent⟩
          have merged := comparison.merge toldRecent told
          cases outcomes with
          | success next sameValue =>
              exact inductiveStep (count + 1) _ _ next
                (fun isSeen => by rw [sameValue isSeen, same isSeen]) merged
          | failure =>
              dsimp only
              split
              · exact .result _ _
                  (.gathered index (fun isSeen => by rw [same isSeen]) merged)
              · exact .result _ _ (.failed merged)

theorem repeatUntilLoop {item item' : Attempt α}
    {terminator terminator' : Attempt β}
    (items : comparison.Attempts seen item item')
    (terminators : comparison.Attempts seen terminator terminator')
    (min : Nat) (max : Option Nat) (keep : Option (β → α)) (turns : Nat)
    {values values' : List α} (count : Nat) (trace trace' : Trace)
    (index : Nat) (same : seen = true → values = values') :
    comparison.Ends seen
      (Attempt.repeatUntilLoop item terminator min max keep turns values count
        trace index)
      (Attempt.repeatUntilLoop item' terminator' min max keep turns values'
        count trace' (comparison.place index)) := by
  induction turns generalizing values values' count trace trace' index with
  | zero => exact .abort _ _ _
  | succ turns inductiveStep =>
      rw [Attempt.repeatUntilLoop, Attempt.repeatUntilLoop]
      have refused : ∀ description,
          comparison.Matches (α := List α) seen (.failure index description)
            (.failure (comparison.place index) description) :=
        fun description =>
          .failure index (comparison.same_description description)
      have endings := terminators index
      generalize terminator index = ending at endings
      generalize terminator' (comparison.place index) = ending' at endings
      cases endings with
      | abort abort _ _ => exact .abort _ _ _
      | @result found found' _ _ results =>
          -- The terminator counts in both runs or in neither.
          have accepted : comparison.Outcomes seen
              (if min ≤ count then found.outcome else .failure)
              (if min ≤ count then found'.outcome else .failure) := by
            split
            · exact results.outcomes
            · exact .failure
          dsimp only
          generalize (if min ≤ count then found.outcome else .failure) =
            outcome at accepted
          generalize (if min ≤ count then found'.outcome else .failure) =
            outcome' at accepted
          cases accepted with
          | success after sameEnding =>
              cases keep with
              | none =>
                  exact .result _ _ (.success index
                    (fun isSeen => by rw [same isSeen]) comparison.silent)
              | some keep =>
                  exact .result _ _ (.success after
                    (fun isSeen => by rw [same isSeen, sameEnding isSeen])
                    comparison.silent)
          | failure =>
              dsimp only
              split
              · exact .result _ _ (refused _)
              have ends := items index
              generalize item index = run at ends
              generalize item' (comparison.place index) = run' at ends
              cases ends with
              | abort abort _ _ => exact .abort _ _ _
              | @result result result' _ _ results =>
                  rcases result with ⟨outcome, recent⟩
                  rcases result' with ⟨outcome', recent'⟩
                  rcases results with ⟨outcomes, -⟩
                  cases outcomes with
                  | success next sameValue =>
                      exact inductiveStep (count + 1) _ _ next fun isSeen => by
                        rw [sameValue isSeen, same isSeen]
                  | failure => exact .result _ _ (refused _)

theorem peek {attempt attempt' : Attempt α}
    (attempts : comparison.Attempts seen attempt attempt') :
    comparison.Attempts seen attempt.peek attempt'.peek := by
  intro index
  apply (attempts index).mapResult
  rintro ⟨outcome, context⟩ ⟨outcome', context'⟩ ⟨outcomes, told⟩
  cases outcomes with
  | success stop same => exact .success index same comparison.silent
  | failure => exact .failed told

theorem shouldFail {attempt attempt' : Attempt α}
    {description description' : String}
    (descriptions : likeness.description description description')
    (attempts : comparison.Attempts inside attempt attempt') :
    comparison.Attempts false (attempt.shouldFail description)
      (attempt'.shouldFail description') := by
  intro index
  apply (attempts index).mapResult
  rintro ⟨outcome, context⟩ ⟨outcome', context'⟩ ⟨outcomes, told⟩
  cases outcomes with
  | success stop same => exact .failure index descriptions
  | failure =>
      exact Matches.success index (fun isSeen : false = true => nomatch isSeen)
        comparison.silent

theorem describe {attempt attempt' : Attempt α}
    {description description' : String}
    (descriptions : likeness.description description description')
    (attempts : comparison.Attempts seen attempt attempt') :
    comparison.Attempts seen (attempt.describe description)
      (attempt'.describe description') := by
  intro index
  apply (attempts index).mapResult
  rintro ⟨outcome, context⟩ ⟨outcome', context'⟩ ⟨outcomes, told⟩
  cases outcomes with
  | success stop same => exact .success stop same told
  | failure => exact .failure index descriptions

/-- A description changes no outcome. -/
theorem outcome_described (result : ParseResult α) (index : Nat)
    (description : String) :
    (if result.isSuccess then result
      else .failure index description).outcome = result.outcome := by
  rcases result with ⟨_ | _, _⟩ <;> rfl

theorem describeLeft {attempt attempt' : Attempt α}
    (allowed : likeness.wrapping) (description : String)
    (attempts : comparison.Attempts seen attempt attempt') :
    comparison.Attempts seen (attempt.describe description) attempt' := by
  intro index
  rw [← Run.mapResult_id (attempt' (comparison.place index))]
  apply (attempts index).mapResult
  intro result result' results
  refine ⟨?_, comparison.wrapping allowed _ _⟩
  rw [outcome_described]
  exact results.outcomes

theorem describeRight {attempt attempt' : Attempt α}
    (allowed : likeness.wrapping) (description : String)
    (attempts : comparison.Attempts seen attempt attempt') :
    comparison.Attempts seen attempt (attempt'.describe description) := by
  intro index
  rw [← Run.mapResult_id (attempt index)]
  apply (attempts index).mapResult
  intro result result' results
  refine ⟨?_, comparison.wrapping allowed _ _⟩
  rw [outcome_described]
  exact results.outcomes

end Attempts

/-! ## The step driver -/

variable (comparison) in
/-- States of the step driver that go together. -/
inductive States : DriverState → DriverState → Prop where
  | running (index : Nat) {context context' : Diagnostics}
      (told : comparison.told context context') :
      States (.running index context)
        (.running (comparison.place index) context')
  | halted {context context' : Diagnostics}
      (told : comparison.told context context') :
      States (.halted context) (.halted context')

theorem States.index_eq {state state' : DriverState}
    (states : comparison.States state state') (allowed : likeness.offset) :
    state'.index? = state.index? := by
  cases states with
  | running index told => exact congrArg some (comparison.offset allowed index)
  | halted told => rfl

theorem States.isHalted_eq {state state' : DriverState}
    (states : comparison.States state state') :
    state'.isHalted = state.isHalted := by
  cases states with
  | running index told => rfl
  | halted told => rfl

theorem States.finish {state state' : DriverState}
    (states : comparison.States state state') (ending : Option α) :
    comparison.Matches seen (state.finish ending) (state'.finish ending) := by
  cases states with
  | halted told => exact .failed told
  | running index told =>
      cases ending with
      | none => exact .failed told
      | some value =>
          exact .gathered index (fun _ => rfl) told

/-! ## The induction over pairs of parsers -/

variable {R : Type → Type} {calls calls' : Calls R}

mutual

/-- Attempts of alike parsers go together, if those of references do. -/
theorem attempt_matches
    (callsMatch : ∀ {α : Type} (rule : R α),
      comparison.Attempts true (calls rule) (calls' rule))
    (turns : Nat) :
    ∀ {seen : Bool} {α : Type} {parser parser' : Parser R α},
      parser.Alike likeness seen parser' →
      comparison.Attempts seen (parser.attempt source calls turns)
        (parser'.attempt source' calls' turns)
  | _, _, _, _, .leaf alike => by
      rw [Parser.attempt, Parser.attempt]
      exact .leaf alike
  | _, _, _, _, .ref rule => by
      rw [Parser.attempt, Parser.attempt]
      exact (callsMatch rule).unseen _
  | _, _, _, _, .bind firsts nexts => by
      rw [Parser.attempt, Parser.attempt]
      exact .bind (attempt_matches callsMatch turns firsts) fun value =>
        attempt_matches callsMatch turns (nexts value)
  | _, _, _, _, .map f alike => by
      rw [Parser.attempt, Parser.attempt]
      exact (attempt_matches callsMatch turns alike).map
        fun value value' same isSeen => by rw [same isSeen]
  | _, _, _, _, .result value alike => by
      rw [Parser.result, Parser.result, Parser.attempt, Parser.attempt]
      exact (attempt_matches callsMatch turns alike).map fun _ _ _ _ => rfl
  | _, _, _, _, .both firsts seconds => by
      rw [Parser.attempt, Parser.attempt]
      exact .both (attempt_matches callsMatch turns firsts)
        (attempt_matches callsMatch turns seconds)
  | _, _, _, _, .orElse firsts seconds => by
      rw [Parser.attempt, Parser.attempt]
      exact .orElse (attempt_matches callsMatch turns firsts)
        (attempt_matches callsMatch turns seconds)
  | _, _, _, _, .times min max items => by
      rw [Parser.attempt, Parser.attempt]
      exact fun index =>
        Attempts.timesLoop (attempt_matches callsMatch turns items) _ max turns
          0 ∅ ∅ index (fun _ => rfl) comparison.silent
  | _, _, _, _, .repeatUntil min max keep items terminators => by
      rw [Parser.attempt, Parser.attempt]
      exact fun index =>
        Attempts.repeatUntilLoop (attempt_matches callsMatch turns items)
          (attempt_matches callsMatch turns terminators) min max keep turns 0 ∅
          ∅ index fun _ => rfl
  | _, _, _, _, .peek alike => by
      rw [Parser.attempt, Parser.attempt]
      exact .peek (attempt_matches callsMatch turns alike)
  | _, _, _, _, .shouldFail descriptions alike => by
      rw [Parser.attempt, Parser.attempt]
      exact .shouldFail descriptions (attempt_matches callsMatch turns alike)
  | _, _, _, _, .describe descriptions alike => by
      rw [Parser.attempt, Parser.attempt]
      exact .describe descriptions (attempt_matches callsMatch turns alike)
  | _, _, _, _, .describeLeft allowed description alike => by
      rw [Parser.attempt]
      exact .describeLeft allowed description
        (attempt_matches callsMatch turns alike)
  | _, _, _, _, .describeRight allowed description alike => by
      rw [Parser.attempt]
      exact .describeRight allowed description
        (attempt_matches callsMatch turns alike)
  | _, _, _, _, .generate alike => by
      rw [Parser.attempt, Parser.attempt]
      exact fun index => drive_matches callsMatch turns alike ∅ ∅
        (.running index comparison.silent)

/-- Alike bodies run together from states of the driver that go together. -/
theorem drive_matches
    (callsMatch : ∀ {α : Type} (rule : R α),
      comparison.Attempts true (calls rule) (calls' rule))
    (turns : Nat) :
    ∀ {seen : Bool} {α : Type} {body body' : Steps R α},
      body.Alike likeness body' → ∀ {state state' : DriverState}
      (trace trace' : Trace), comparison.States state state' →
      comparison.Ends seen (body.drive source calls turns state trace)
        (body'.drive source' calls' turns state' trace')
  | _, _, _, _, .done value, _, _, trace, trace', states => by
      rw [Steps.drive, Steps.drive]
      exact .result _ _ (states.finish (some value))
  | _, _, _, _, .halt, _, _, trace, trace', states => by
      rw [Steps.drive, Steps.drive]
      exact .result _ _ (states.finish none)
  | _, _, _, _, .index allowed nexts, _, _, trace, trace', states => by
      rw [Steps.drive, Steps.drive, states.index_eq allowed]
      exact drive_matches callsMatch turns (nexts _) _ _ states
  | _, _, _, _, .halted nexts, _, _, trace, trace', states => by
      rw [Steps.drive, Steps.drive, states.isHalted_eq]
      exact drive_matches callsMatch turns (nexts _) _ _ states
  | _, _, _, _, .aside _ _ nexts, _, _, trace, trace', states => by
      rw [Steps.drive, Steps.drive]
      exact drive_matches callsMatch turns nexts _ _ states
  | _, _, _, _, .step parsers nexts, _, _, trace, trace', .halted told => by
      rw [Steps.drive, Steps.drive]
      exact drive_matches callsMatch turns (nexts none) _ _ (.halted told)
  | _, _, _, _, @Steps.Alike.step _ _ _ _ parser parser' _ _ parsers nexts, _,
      _, trace, trace', .running index told => by
      rw [Steps.drive, Steps.drive]
      have ends := attempt_matches callsMatch turns parsers index
      generalize parser.attempt source calls turns index = run at ends
      generalize parser'.attempt source' calls' turns
        (comparison.place index) = run' at ends
      cases ends with
      | abort abort _ _ => exact .abort _ _ _
      | @result result result' _ _ results =>
          rcases result with ⟨outcome, recent⟩
          rcases result' with ⟨outcome', recent'⟩
          rcases results with ⟨outcomes, toldRecent⟩
          have merged := comparison.merge toldRecent told
          cases outcomes with
          | success after same =>
              cases same rfl
              exact drive_matches callsMatch turns (nexts (some _)) _ _
                (.running after merged)
          | failure =>
              exact drive_matches callsMatch turns (nexts none) _ _
                (.halted merged)

end

/-! ## Rules and runs -/

theorem enter_matches {rules rules' : Rules R}
    (alike : rules.Alike likeness rules') (fuel : Nat) {α : Type}
    (rule : R α) :
    comparison.Attempts true (rules.enter source fuel rule)
      (rules'.enter source' fuel rule) := by
  induction fuel generalizing α with
  | zero => exact fun index => .abort _ _ _
  | succ fuel inductiveStep =>
      rw [Rules.enter, Rules.enter]
      have definitions := alike rule
      generalize rules.definition rule = definition at definitions
      generalize rules'.definition rule = definition' at definitions
      cases definitions with
      | none => exact fun index => .abort _ _ _
      | some parsers => exact attempt_matches inductiveStep fuel parsers

variable (comparison) in
/-- Runs of alike parsers go together, with any fuel. -/
theorem run_matches {rules rules' : Rules R}
    (rulesAlike : rules.Alike likeness rules') {parser parser' : Parser R α}
    (alike : parser.Alike likeness seen parser') (fuel : Nat) :
    comparison.Attempts seen (parser.run rules fuel source)
      (parser'.run rules' fuel source') :=
  attempt_matches (fun rule => enter_matches rulesAlike fuel rule) fuel alike

end Comparison

end OrderedChoice
