import OrderedChoice.Parser.Patterns
import OrderedChoice.Proofs.Parser.Reaching

/-!
# Progress

Following references and going round loops can go on forever.  Neither does if
something is consumed each time: then the bytes that remain bound the turns of
every loop and how deep rules are nested.

Whether a grammar makes progress is read off its parsers.  What is repeated has
to advance, that is to consume something wherever it succeeds, and in what a
rule stands for no reference may be followed before something that advances.
The main statements, for grammars of the library, are that something is consumed
between entering a rule and entering one inside it, `Parser.lt_of_reenters`,
that rules nest no deeper than there are bytes left,
`Parser.depth_le_of_nests`, and that every run with fuel for these bytes has a
result, `Parser.exists_answer`.
-/

namespace OrderedChoice.Parser

variable {R : Type → Type} {rules : Rules R} {source : Source} {α β : Type}

/-! ## Parsers that advance -/

/-- A text that stands somewhere and is not empty ends further on. -/
theorem lt_of_rest {taken after : List Char} {index : Nat}
    (nonempty : taken ≠ [])
    (remains : source.rest index = some (taken ++ after)) :
    index < index + byteLength taken ∧
      index + byteLength taken ≤ source.length := by
  rcases List.exists_cons_of_ne_nil nonempty with ⟨character, others, rfl⟩
  have positive : 0 < byteLength (character :: others) := byteLength_pos
  have within := Source.le_length_of_rest (Source.rest_add remains)
  omega

section

theorem advances_literal {text : String} (some : text ≠ "") :
    (literal text : Parser R String).Advances rules source := by
  intro index stop value reads
  have parsed := reads_leaf_iff.mp reads
  rw [Primitive.parse, Primitive.parseLiteral] at parsed
  split at parsed
  · rename_i rest remains
    split at parsed
    · rename_i isPrefix
      rcases List.isPrefixOf_iff_prefix.mp isPrefix with ⟨after, rfl⟩
      cases parsed
      rw [← byteLength_toList]
      exact lt_of_rest (by simpa using some) remains
    · cases parsed
  · cases parsed

/-- A pattern that cannot match the empty text advances. -/
theorem advances_matching {pattern : Pattern} {group : Group}
    (crosses : pattern.regex.crossesSome = true) :
    (matching pattern group : Parser R String).Advances rules source := by
  intro index stop value reads
  have parsed := reads_leaf_iff.mp reads
  rw [Primitive.parse, Primitive.parsePattern_eq] at parsed
  split at parsed
  · rename_i found matched
    rcases Regex.Term.crossed_of_matchAt matched with
      ⟨crossed, member, after, remains, stops⟩
    cases parsed
    rw [stops]
    exact lt_of_rest (Regex.Term.ne_nil_of_crossesSome crosses member) remains
  · cases parsed

theorem advances_map (f : α → β) {parser : Parser R α}
    (advances : parser.Advances rules source) :
    (Parser.map f parser).Advances rules source := by
  intro index stop value reads
  rcases reads_of_map reads with ⟨before, _, readsBefore⟩
  exact advances index stop before readsBefore

theorem advances_orElse {first second : Parser R α}
    (firstAdvances : first.Advances rules source)
    (secondAdvances : second.Advances rules source) :
    (Parser.orElse first second).Advances rules source := by
  intro index stop value reads
  rcases reads_of_orElse reads with readsFirst | readsSecond
  · exact firstAdvances index stop value readsFirst
  · exact secondAdvances index stop value readsSecond

theorem advances_firstOf {parsers : List (Parser R α)}
    (advance : ∀ parser ∈ parsers, parser.Advances rules source) :
    (firstOf parsers).Advances rules source := by
  intro index stop value reads
  rcases reads_of_firstOf reads with ⟨parser, member, readsOne⟩
  exact advance parser member index stop value readsOne

theorem advances_ref {rule : R α} {parser : Parser R α}
    (defined : rules.definition rule = some parser)
    (advances : parser.Advances rules source) :
    (Parser.ref rule).Advances rules source := by
  intro index stop value reads
  rcases reads_of_ref reads with ⟨definition, same, readsDefinition⟩
  cases defined.symm.trans same
  exact advances index stop value readsDefinition

variable (rulesLibrary : rules.Within .library)
include rulesLibrary

/-- Once something is consumed it stays so, whatever is read from there. -/
theorem Advances.then_reads {first : Parser R α}
    (advances : first.Advances rules source) {second : Parser R β}
    (library : second.Within .library) {index middle stop : Nat} {left : α}
    {right : β} (readsFirst : first.Reads rules source index middle left)
    (readsSecond : second.Reads rules source middle stop right) :
    index < stop ∧ stop ≤ source.length := by
  have consumed := advances index middle left readsFirst
  have forward := (readsSecond.leads rulesLibrary library).forward
  omega

theorem advances_both {first : Parser R α} {second : Parser R β}
    (advances : first.Advances rules source)
    (library : second.Within .library) :
    (Parser.both first second).Advances rules source := by
  rintro index stop ⟨left, right⟩ reads
  rcases reads_of_both reads with ⟨middle, readsFirst, readsSecond⟩
  exact advances.then_reads rulesLibrary library readsFirst readsSecond

theorem advances_bind {first : Parser R α} {next : α → Parser R β}
    (advances : first.Advances rules source)
    (library : ∀ value, (next value).Within .library) :
    (Parser.bind first next).Advances rules source := by
  intro index stop result reads
  rcases reads_of_bind reads with ⟨middle, value, readsFirst, readsNext⟩
  exact advances.then_reads rulesLibrary (library value) readsFirst readsNext

theorem advances_andThen {first : Parser R α} {second : Parser R β}
    (advances : first.Advances rules source)
    (library : second.Within .library) :
    (first.andThen second).Advances rules source :=
  advances_map _ (advances_both rulesLibrary advances library)

theorem advances_skip {first : Parser R α} {second : Parser R β}
    (advances : first.Advances rules source)
    (library : second.Within .library) :
    (first.skip second).Advances rules source :=
  advances_map _ (advances_both rulesLibrary advances library)

end

end OrderedChoice.Parser

namespace OrderedChoice

/-! ## Parsers that make progress -/

mutual

/-- What is repeated in a parser advances.  If the parser is guarded, no
reference is followed before something that advances. -/
def Parser.Progresses {R : Type → Type} (rules : Rules R) (source : Source) :
    ∀ {α : Type}, Parser R α → (guarded : Bool) → Prop
  | _, .leaf _, _ => True
  | _, .ref _, guarded => guarded = false
  | _, .bind first next, guarded =>
    first.Progresses rules source guarded ∧
      ((∀ value, (next value).Progresses rules source guarded) ∨
        first.Advances rules source ∧
          ∀ value, (next value).Progresses rules source false)
  | _, .map _ parser, guarded => parser.Progresses rules source guarded
  | _, .both first second, guarded =>
    first.Progresses rules source guarded ∧
      (second.Progresses rules source guarded ∨
        first.Advances rules source ∧
          second.Progresses rules source false)
  | _, .orElse first second, guarded =>
    first.Progresses rules source guarded ∧
      second.Progresses rules source guarded
  | _, .times item _ _, guarded =>
    item.Advances rules source ∧ item.Progresses rules source guarded
  | _, .repeatUntil item terminator _ _ _, guarded =>
    item.Advances rules source ∧ item.Progresses rules source guarded ∧
      terminator.Progresses rules source guarded
  | _, .peek parser, guarded => parser.Progresses rules source guarded
  | _, .shouldFail parser _, guarded => parser.Progresses rules source guarded
  | _, .describe parser _, guarded => parser.Progresses rules source guarded
  | _, .generate body, guarded => body.Progresses rules source guarded

/-- What is repeated in the steps of a body advances; after a failed step no
other runs. -/
def Steps.Progresses {R : Type → Type} (rules : Rules R) (source : Source) :
    ∀ {α : Type}, Steps R α → (guarded : Bool) → Prop
  | _, .done _, _ => True
  | _, .halt, _ => True
  | _, .step parser next, guarded =>
    parser.Progresses rules source guarded ∧
      ((∀ value, (next (some value)).Progresses rules source guarded) ∨
        parser.Advances rules source ∧
          ∀ value, (next (some value)).Progresses rules source false)
  | _, .index next, guarded =>
    ∀ index, (next (some index)).Progresses rules source guarded
  | _, .halted next, guarded => (next false).Progresses rules source guarded
  | _, .aside _ next, guarded => next.Progresses rules source guarded

end

/-- What each rule stands for makes progress and is guarded. -/
def Rules.Progress {R : Type → Type} (rules : Rules R) (source : Source) :
    Prop :=
  ∀ {α : Type} (rule : R α) (parser : Parser R α),
    rules.definition rule = some parser →
      parser.Progresses rules source true

variable {R : Type → Type} {rules : Rules R} {source : Source} {α β : Type}

/-! ### Derived combinators -/

namespace Parser

variable {guarded : Bool}

theorem progresses_andThen {first : Parser R α} {second : Parser R β}
    (firstProgresses : first.Progresses rules source guarded)
    (secondProgresses : second.Progresses rules source guarded) :
    (first.andThen second).Progresses rules source guarded :=
  ⟨firstProgresses, .inl secondProgresses⟩

/-- Behind a parser that advances references may be followed. -/
theorem progresses_andThen_of_advances {first : Parser R α}
    {second : Parser R β}
    (firstProgresses : first.Progresses rules source guarded)
    (advances : first.Advances rules source)
    (secondProgresses : second.Progresses rules source false) :
    (first.andThen second).Progresses rules source guarded :=
  ⟨firstProgresses, .inr ⟨advances, secondProgresses⟩⟩

theorem progresses_skip {first : Parser R α} {second : Parser R β}
    (firstProgresses : first.Progresses rules source guarded)
    (secondProgresses : second.Progresses rules source guarded) :
    (first.skip second).Progresses rules source guarded :=
  ⟨firstProgresses, .inl secondProgresses⟩

theorem progresses_sepBy (rulesLibrary : rules.Within .library)
    {item : Parser R α} {separator : Parser R β}
    (itemLibrary : item.Within .library)
    (itemProgresses : item.Progresses rules source guarded)
    (separatorProgresses : separator.Progresses rules source guarded)
    (advances : separator.Advances rules source) (min : Nat)
    (max : Option Nat) :
    (item.sepBy separator min max).Progresses rules source guarded := by
  have items : (Parser.both item
      (.times (separator.andThen item) (Attempt.lowered min max - 1)
        (max.map (· - 1)))).Progresses rules source guarded :=
    ⟨itemProgresses, .inl ⟨advances_andThen rulesLibrary advances itemLibrary,
      progresses_andThen separatorProgresses itemProgresses⟩⟩
  rw [sepBy]
  split
  · trivial
  split
  · exact ⟨items, trivial⟩
  · exact items

theorem progresses_firstOf {parsers : List (Parser R α)}
    (progress : ∀ parser ∈ parsers,
      parser.Progresses rules source guarded) :
    (firstOf parsers).Progresses rules source guarded := by
  cases parsers with
  | nil => trivial
  | cons first others =>
      have firstProgresses := progress first List.mem_cons_self
      have othersProgress : ∀ parser ∈ others,
          parser.Progresses rules source guarded := fun parser member =>
        progress parser (List.mem_cons_of_mem _ member)
      rw [firstOf]
      clear progress
      induction others generalizing first with
      | nil => exact firstProgresses
      | cons second others inductiveStep =>
          exact inductiveStep (.orElse first second)
            ⟨firstProgresses, othersProgress second List.mem_cons_self⟩
            fun parser member =>
              othersProgress parser (List.mem_cons_of_mem _ member)

end Parser

/-! ## Progress of runs -/

/-- What a body comes to makes progress, and is guarded like the body unless
something was consumed on the way. -/
theorem Steps.ComesTo.progresses (rulesLibrary : rules.Within .library)
    {body : Steps R α} {part : Parser R β} {start stop : Nat}
    (comes : body.ComesTo rules source part start stop)
    (library : body.Within .library false) {guarded : Bool}
    (progresses : body.Progresses rules source guarded) :
    ∃ still, part.Progresses rules source still ∧
      (guarded = true → still = true ∨ start < stop) := by
  induction comes generalizing guarded with
  | here start => exact ⟨guarded, progresses.1, .inl⟩
  | step reads rest inductiveStep =>
      have forward := (rest.leads rulesLibrary (library.2.1 _)).forward
      rcases progresses.2 with unchanged | ⟨advances, later⟩
      · rcases inductiveStep (library.2.1 _) (unchanged _) with
          ⟨still, partProgresses, guards⟩
        have before := (reads.leads rulesLibrary library.1).forward
        refine ⟨still, partProgresses, fun isGuarded => ?_⟩
        exact (guards isGuarded).imp_right fun _ => by omega
      · rcases inductiveStep (library.2.1 _) (later _) with
          ⟨still, partProgresses, -⟩
        have consumed := advances _ _ _ reads
        exact ⟨still, partProgresses, fun _ => .inr (by omega)⟩
  | index rest inductiveStep => exact inductiveStep (library _) (progresses _)
  | halted rest inductiveStep | aside trace rest inductiveStep =>
      exact inductiveStep library progresses

namespace Parser

theorem loopsWithin_of_progresses {parser : Parser R α} {guarded : Bool}
    (progresses : parser.Progresses rules source guarded) {fuel index : Nat}
    (room : source.length - index < fuel) :
    parser.LoopsWithin rules source fuel index := by
  cases parser with
  | times item min max => exact ⟨progresses.1, room⟩
  | repeatUntil item terminator min max keep => exact ⟨progresses.1, room⟩
  | _ => trivial

section

variable (rulesLibrary : rules.Within .library)
  (rulesProgress : rules.Progress source)
include rulesLibrary rulesProgress

/-- What a run goes on with makes progress, and is guarded like the parser
unless something was consumed on the way. -/
theorem Starts.progresses {parser : Parser R α} {part : Parser R β}
    {index stop : Nat}
    (starts : Starts rules source parser index part stop)
    (library : parser.Within .library) {guarded : Bool}
    (progresses : parser.Progresses rules source guarded) :
    ∃ still, part.Progresses rules source still ∧
      (guarded = true → still = true ∨ index < stop) := by
  cases starts with
  | ref defined => exact ⟨true, rulesProgress _ _ defined, fun _ => .inl rfl⟩
  | bindFirst | bothFirst | orElseFirst => exact ⟨guarded, progresses.1, .inl⟩
  | bindNext reads =>
      rcases progresses.2 with unchanged | ⟨advances, later⟩
      · exact ⟨guarded, unchanged _, .inl⟩
      · exact ⟨false, later _, fun _ => .inr (advances _ _ _ reads).1⟩
  | bothSecond reads =>
      rcases progresses.2 with unchanged | ⟨advances, later⟩
      · exact ⟨guarded, unchanged, .inl⟩
      · exact ⟨false, later, fun _ => .inr (advances _ _ _ reads).1⟩
  | orElseSecond misses => exact ⟨guarded, progresses.2, .inl⟩
  | times turn => exact ⟨guarded, progresses.2, .inl⟩
  | terminator turn => exact ⟨guarded, progresses.2.2, .inl⟩
  | item turn goesOn => exact ⟨guarded, progresses.2.1, .inl⟩
  | map | peek | shouldFail | describe => exact ⟨guarded, progresses, .inl⟩
  | generate comes => exact comes.progresses rulesLibrary library progresses

/-- So it is with all that a run reaches. -/
theorem RunReaches.progresses {target : Parser R β} {parser : Parser R α}
    {index stop : Nat}
    (reaches : RunReaches rules source target stop parser index)
    (library : parser.Within .library) {guarded : Bool}
    (progresses : parser.Progresses rules source guarded) :
    index ≤ stop ∧ ∃ still, target.Progresses rules source still ∧
      (guarded = true → still = true ∨ index < stop) := by
  induction reaches generalizing guarded with
  | here => exact ⟨Nat.le_refl _, guarded, progresses, .inl⟩
  | start starts rest inductiveStep =>
      have forward := (starts.leads rulesLibrary library).forward
      rcases starts.progresses rulesLibrary rulesProgress library progresses
        with ⟨still, partProgresses, guards⟩
      rcases inductiveStep (starts.within rulesLibrary library) partProgresses
        with ⟨further, last, targetProgresses, lastGuards⟩
      refine ⟨by omega, last, targetProgresses, fun isGuarded => ?_⟩
      rcases guards isGuarded with stillGuarded | consumed
      · exact (lastGuards stillGuarded).imp_right fun _ => by omega
      · exact .inr (by omega)

/-- What a run repeats advances. -/
theorem advances_of_repeats {item : Parser R β} {min : Nat} {max : Option Nat}
    {parser : Parser R α} {index stop : Nat}
    (reaches : RunReaches rules source (.times item min max) stop parser index)
    (library : parser.Within .library) {guarded : Bool}
    (progresses : parser.Progresses rules source guarded) :
    item.Advances rules source := by
  rcases reaches.progresses rulesLibrary rulesProgress library progresses with
    ⟨_, still, loopProgresses, _⟩
  exact loopProgresses.1

/-- From where a rule is entered something is consumed before another one is
entered inside it. -/
theorem lt_of_reenters {rule : R α} {inner : R β} {definition : Parser R α}
    (defined : rules.definition rule = some definition) {start stop : Nat}
    (reaches : RunReaches rules source (.ref inner) stop definition start) :
    start < stop := by
  rcases reaches.progresses rulesLibrary rulesProgress
    (rulesLibrary rule definition defined)
    (rulesProgress rule definition defined) with
    ⟨_, still, innerProgresses, guards⟩
  have unguarded : still = false := innerProgresses
  exact (guards rfl).resolve_left fun stillGuarded => by
    rw [unguarded] at stillGuarded
    cases stillGuarded

/-! ## Runs have results -/

/-- A run with fuel for the bytes that remain does not use it up.  Entering a
rule takes some of it; either something was consumed since the last rule was
entered, or there is fuel for one rule more. -/
theorem answer_ne_exhausted (fuel : Nat) :
    ∀ {α : Type} (parser : Parser R α) (index : Nat) (guarded : Bool),
      parser.Within .library → parser.Progresses rules source guarded →
      source.length - index < fuel →
      (guarded = false → source.length - index + 1 < fuel) →
      (parser.run rules fuel source index).answer ≠ .error .exhausted := by
  induction fuel with
  | zero => exact fun _ _ _ _ _ room => absurd room (Nat.not_lt_zero _)
  | succ fuel inductiveStep =>
      intro α parser index
      refine starts_induct rules source
        (motive := fun parser index => ∀ guarded, parser.Within .library →
          parser.Progresses rules source guarded →
          source.length - index < fuel + 1 →
          (guarded = false → source.length - index + 1 < fuel + 1) →
          (parser.run rules (fuel + 1) source index).answer ≠
            .error .exhausted)
        (fun rule index guarded _ progresses _ more => ?_)
        (fun parser index notRef parts guarded library progresses room more
          exhausted => ?_) parser index
      · rw [run, attempt, Rules.enter]
        cases defined : rules.definition rule with
        | none =>
            intro stopped
            cases stopped
        | some definition =>
            have unguarded : guarded = false := progresses
            have left := more unguarded
            exact inductiveStep definition index true
              (rulesLibrary rule definition defined)
              (rulesProgress rule definition defined) (by omega) (by simp)
      · rcases exists_starts_of_stopped notRef exhausted
          (fun _ => loopsWithin_of_progresses progresses room) with
          ⟨β, part, stop, starts, partExhausted⟩
        rcases starts.progresses rulesLibrary rulesProgress library progresses
          with ⟨still, partProgresses, guards⟩
        have forward := (starts.leads rulesLibrary library).forward
        refine parts part stop starts still
          (starts.within rulesLibrary library) partProgresses (by omega)
          (fun unguarded => ?_) partExhausted
        cases guarded with
        | false =>
            have left := more rfl
            omega
        | true =>
            have consumed := (guards rfl).resolve_left (by simp [unguarded])
            omega

/-- With fuel for the bytes that remain and two more a run has a result, if no
rule lacks a definition. -/
theorem exists_answer
    (defined : ∀ {α : Type} (rule : R α), rules.definition rule ≠ none)
    {parser : Parser R α} (library : parser.Within .library)
    (progresses : parser.Progresses rules source false) {fuel index : Nat}
    (enough : source.length - index + 2 ≤ fuel) :
    ∃ result, (parser.run rules fuel source index).answer = .ok result := by
  cases answer : (parser.run rules fuel source index).answer with
  | ok result => exact ⟨result, rfl⟩
  | error abort =>
      cases abort with
      | exhausted =>
          exact absurd answer (answer_ne_exhausted rulesLibrary rulesProgress
            fuel parser index false library progresses (by omega)
            fun _ => by omega)
      | undefinedRule =>
          rcases panics_iff.mp ⟨fuel, answer⟩ with
            ⟨β, rule, stop, undefined, _⟩
          exact absurd undefined (defined rule)

end

/-! ## Nested rules -/

/-- On its way a run from an offset enters a number of rules, each inside the
one before. -/
inductive Nests (rules : Rules R) (source : Source) :
    Nat → ∀ {α : Type}, Parser R α → Nat → Prop where
  | none {α : Type} (parser : Parser R α) (index : Nat) :
      Nests rules source 0 parser index
  | enter {α : Type} {rule : R α} {parser : Parser R α} {depth index : Nat}
      (defined : rules.definition rule = some parser)
      (inside : Nests rules source depth parser index) :
      Nests rules source (depth + 1) (.ref rule) index
  | start {α β : Type} {parser : Parser R α} {part : Parser R β}
      {depth index stop : Nat}
      (starts : Starts rules source parser index part stop)
      (rest : Nests rules source depth part stop) :
      Nests rules source depth parser index

/-- Rules nest no deeper than there are bytes left, not counting one that is
entered before anything is consumed. -/
theorem depth_le_of_nests (rulesLibrary : rules.Within .library)
    (rulesProgress : rules.Progress source) {parser : Parser R α}
    {depth index : Nat} (nests : Nests rules source depth parser index)
    (library : parser.Within .library) {guarded : Bool}
    (progresses : parser.Progresses rules source guarded) :
    depth ≤ source.length - index + 1 ∧
      (guarded = true → depth ≤ source.length - index) := by
  induction nests generalizing guarded with
  | none parser index => exact ⟨Nat.zero_le _, fun _ => Nat.zero_le _⟩
  | enter defined inside inductiveStep =>
      have unguarded : guarded = false := progresses
      have bound := (inductiveStep (rulesLibrary _ _ defined)
        (rulesProgress _ _ defined)).2 rfl
      refine ⟨by omega, fun isGuarded => ?_⟩
      rw [unguarded] at isGuarded
      cases isGuarded
  | start starts rest inductiveStep =>
      have forward := (starts.leads rulesLibrary library).forward
      rcases starts.progresses rulesLibrary rulesProgress library progresses
        with ⟨still, partProgresses, guards⟩
      have bounds :=
        inductiveStep (starts.within rulesLibrary library) partProgresses
      refine ⟨by omega, fun isGuarded => ?_⟩
      rcases guards isGuarded with stillGuarded | consumed
      · have bound := bounds.2 stillGuarded
        omega
      · omega

end Parser

end OrderedChoice
