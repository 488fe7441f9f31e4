import OrderedChoice.Proofs.Parser.Driver
import OrderedChoice.Proofs.Parser.OffsetSafety
import OrderedChoice.Proofs.Parser.Gives

/-!
# What runs go on with

A run of a parser goes on as runs of its parts, each from the offset where the
run comes to it, and a run of a reference as one of what it stands for.  What
can be got at from a parser and an offset by such steps is what the run reaches.

A run that stops without a result goes on with one that does, unless a reference
has nothing left to stand for or a loop uses up its turns.  Together with the
induction over what runs go on with, `Parser.starts_induct`, this says where
runs stop.
-/

namespace OrderedChoice

namespace Run

variable {α β : Type}

theorem andThen_answer_eq_error {first : Run α} {next : ParseResult α → Run β}
    {abort : Abort} (stopped : (first.andThen next).answer = .error abort) :
    first.answer = .error abort ∨
      ∃ middle, first.answer = .ok middle ∧
        (next middle).answer = .error abort := by
  rcases first with ⟨answer, trace⟩
  cases answer with
  | error reason => exact .inl (by simpa [andThen] using stopped)
  | ok middle => exact .inr ⟨middle, rfl, stopped⟩

theorem andThen_answer_of_error {first : Run α} {abort : Abort}
    (stopped : first.answer = .error abort) (next : ParseResult α → Run β) :
    (first.andThen next).answer = .error abort := by
  rw [andThen, stopped]

theorem andThen_answer_of_ok {first : Run α} {middle : ParseResult α}
    (answered : first.answer = .ok middle) (next : ParseResult α → Run β) :
    (first.andThen next).answer = (next middle).answer := by
  rw [andThen, answered]

theorem mapResult_answer_eq_error {run : Run α}
    {change : ParseResult α → ParseResult β} {abort : Abort} :
    (run.mapResult change).answer = .error abort ↔
      run.answer = .error abort := by
  rcases run with ⟨answer, trace⟩
  cases answer <;> simp [mapResult, Except.map]

end Run

variable {R : Type → Type}

namespace Parser

/-! ## Turns of loops -/

/-- From a count of items at an offset, a repetition comes to its next item at
another. -/
inductive TimesTurn (rules : Rules R) (source : Source) {α : Type}
    (item : Parser R α) (max : Option Nat) : Nat → Nat → Nat → Prop where
  | here {count index : Nat} (room : Attempt.reaches max count = false) :
      TimesTurn rules source item max count index index
  | later {count index next stop : Nat} {value : α}
      (room : Attempt.reaches max count = false)
      (reads : item.Reads rules source index next value)
      (rest : TimesTurn rules source item max (count + 1) next stop) :
      TimesTurn rules source item max count index stop

/-- A search for a terminator goes on with an item: the terminator fails, or too
few items were read for it to count, and there is room for one more. -/
def GoesOn (rules : Rules R) (source : Source) {β : Type}
    (terminator : Parser R β) (min : Nat) (max : Option Nat)
    (count index : Nat) : Prop :=
  Attempt.reaches max count = false ∧
    ∃ found, terminator.Gives rules source index found ∧
      (min ≤ count → found.outcome = .failure)

/-- From a count of items at an offset, a search for a terminator comes to a
turn with another count at another offset. -/
inductive UntilTurn (rules : Rules R) (source : Source) {α β : Type}
    (item : Parser R α) (terminator : Parser R β) (min : Nat)
    (max : Option Nat) : Nat → Nat → Nat → Nat → Prop where
  | here (count index : Nat) :
      UntilTurn rules source item terminator min max count index count index
  | later {count index next last stop : Nat} {value : α}
      (goesOn : GoesOn rules source terminator min max count index)
      (reads : item.Reads rules source index next value)
      (rest : UntilTurn rules source item terminator min max (count + 1) next
        last stop) :
      UntilTurn rules source item terminator min max count index last stop

section

variable {rules : Rules R} {source : Source} {α β : Type}

theorem Reads.leads (rulesLibrary : rules.Within .library)
    {parser : Parser R α} (library : parser.Within .library)
    {index stop : Nat} {value : α}
    (reads : parser.Reads rules source index stop value) :
    source.Leads index stop := by
  rcases reads with ⟨diagnostics, fuel, ends⟩
  exact (stays_run rulesLibrary library source fuel index _ ends).1 stop value
    rfl

theorem TimesTurn.leads (rulesLibrary : rules.Within .library)
    {item : Parser R α} (library : item.Within .library) {max : Option Nat}
    {count index stop : Nat}
    (turn : TimesTurn rules source item max count index stop) :
    source.Leads index stop := by
  induction turn with
  | here room => exact .refl source _
  | later room reads rest inductiveStep =>
      exact (reads.leads rulesLibrary library).trans inductiveStep

theorem UntilTurn.leads (rulesLibrary : rules.Within .library)
    {item : Parser R α} (library : item.Within .library)
    {terminator : Parser R β} {min : Nat} {max : Option Nat}
    {count index last stop : Nat}
    (turn : UntilTurn rules source item terminator min max count index last
      stop) : source.Leads index stop := by
  induction turn with
  | here count index => exact .refl source index
  | later goesOn reads rest inductiveStep =>
      exact (reads.leads rulesLibrary library).trans inductiveStep

end

end Parser

/-- From an offset, a body comes to a step that runs a parser from another. -/
inductive Steps.ComesTo (rules : Rules R) (source : Source) {α β : Type}
    (target : Parser R β) : Steps R α → Nat → Nat → Prop where
  | here {next : Option β → Steps R α} (index : Nat) :
      ComesTo rules source target (.step target next) index index
  | step {γ : Type} {parser : Parser R γ} {next : Option γ → Steps R α}
      {index middle stop : Nat} {value : γ}
      (reads : parser.Reads rules source index middle value)
      (rest : ComesTo rules source target (next (some value)) middle stop) :
      ComesTo rules source target (.step parser next) index stop
  | index {next : Option Nat → Steps R α} {index stop : Nat}
      (rest : ComesTo rules source target (next (some index)) index stop) :
      ComesTo rules source target (.index next) index stop
  | halted {next : Bool → Steps R α} {index stop : Nat}
      (rest : ComesTo rules source target (next false) index stop) :
      ComesTo rules source target (.halted next) index stop
  | aside (trace : Trace) {next : Steps R α} {index stop : Nat}
      (rest : ComesTo rules source target next index stop) :
      ComesTo rules source target (.aside trace next) index stop

namespace Steps.ComesTo

variable {rules : Rules R} {source : Source} {α β : Type} {body : Steps R α}
  {part : Parser R β} {start stop : Nat}

theorem within {fragment : Fragment}
    (comes : body.ComesTo rules source part start stop)
    (bodyWithin : body.Within fragment false) : part.Within fragment := by
  induction comes with
  | here start => exact bodyWithin.1
  | step reads rest inductiveStep => exact inductiveStep (bodyWithin.2.1 _)
  | index rest inductiveStep => exact inductiveStep (bodyWithin _)
  | halted rest inductiveStep | aside trace rest inductiveStep =>
      exact inductiveStep bodyWithin

theorem leads (rulesLibrary : rules.Within .library)
    (comes : body.ComesTo rules source part start stop)
    (library : body.Within .library false) : source.Leads start stop := by
  induction comes with
  | here start => exact .refl source start
  | step reads rest inductiveStep =>
      exact (reads.leads rulesLibrary library.1).trans
        (inductiveStep (library.2.1 _))
  | index rest inductiveStep => exact inductiveStep (library _)
  | halted rest inductiveStep | aside trace rest inductiveStep =>
      exact inductiveStep library

end Steps.ComesTo

namespace Parser

/-! ## What a run goes on with -/

/-- A run of one parser from an offset goes on as a run of another from
another. -/
inductive Starts (rules : Rules R) (source : Source) :
    ∀ {α β : Type}, Parser R α → Nat → Parser R β → Nat → Prop where
  | ref {α : Type} {rule : R α} {parser : Parser R α} {index : Nat}
      (defined : rules.definition rule = some parser) :
      Starts rules source (.ref rule) index parser index
  | bindFirst {α β : Type} {first : Parser R α} {next : α → Parser R β}
      {index : Nat} :
      Starts rules source (.bind first next) index first index
  | bindNext {α β : Type} {first : Parser R α} {next : α → Parser R β}
      {index stop : Nat} {value : α}
      (reads : first.Reads rules source index stop value) :
      Starts rules source (.bind first next) index (next value) stop
  | map {α β : Type} {f : α → β} {parser : Parser R α} {index : Nat} :
      Starts rules source (.map f parser) index parser index
  | bothFirst {α β : Type} {first : Parser R α} {second : Parser R β}
      {index : Nat} :
      Starts rules source (.both first second) index first index
  | bothSecond {α β : Type} {first : Parser R α} {second : Parser R β}
      {index stop : Nat} {value : α}
      (reads : first.Reads rules source index stop value) :
      Starts rules source (.both first second) index second stop
  | orElseFirst {α : Type} {first second : Parser R α} {index : Nat} :
      Starts rules source (.orElse first second) index first index
  | orElseSecond {α : Type} {first second : Parser R α} {index : Nat}
      (misses : first.Misses rules source index) :
      Starts rules source (.orElse first second) index second index
  | times {α : Type} {item : Parser R α} {min : Nat} {max : Option Nat}
      {index stop : Nat}
      (turn : TimesTurn rules source item max 0 index stop) :
      Starts rules source (.times item min max) index item stop
  | terminator {α β : Type} {item : Parser R α} {terminator : Parser R β}
      {min : Nat} {max : Option Nat} {keep : Option (β → α)}
      {index count stop : Nat}
      (turn : UntilTurn rules source item terminator min max 0 index count
        stop) :
      Starts rules source (.repeatUntil item terminator min max keep) index
        terminator stop
  | item {α β : Type} {item : Parser R α} {terminator : Parser R β}
      {min : Nat} {max : Option Nat} {keep : Option (β → α)}
      {index count stop : Nat}
      (turn : UntilTurn rules source item terminator min max 0 index count
        stop)
      (goesOn : GoesOn rules source terminator min max count stop) :
      Starts rules source (.repeatUntil item terminator min max keep) index
        item stop
  | peek {α : Type} {parser : Parser R α} {index : Nat} :
      Starts rules source (.peek parser) index parser index
  | shouldFail {α : Type} {parser : Parser R α} {description : String}
      {index : Nat} :
      Starts rules source (.shouldFail parser description) index parser index
  | describe {α : Type} {parser : Parser R α} {description : String}
      {index : Nat} :
      Starts rules source (.describe parser description) index parser index
  | generate {α β : Type} {body : Steps R α} {parser : Parser R β}
      {index stop : Nat} (comes : body.ComesTo rules source parser index stop) :
      Starts rules source (.generate body) index parser stop

/-- A run of one parser from an offset reaches another parser at another. -/
inductive RunReaches (rules : Rules R) (source : Source) {γ : Type}
    (target : Parser R γ) (stop : Nat) :
    ∀ {α : Type}, Parser R α → Nat → Prop where
  | here : RunReaches rules source target stop target stop
  | start {α β : Type} {parser : Parser R α} {part : Parser R β}
      {index next : Nat} (starts : Starts rules source parser index part next)
      (rest : RunReaches rules source target stop part next) :
      RunReaches rules source target stop parser index

section

variable {rules : Rules R} {source : Source} {α β : Type}

/-! ## Fragments and offsets -/

/-- A run in a fragment goes on in it. -/
theorem Starts.within {fragment : Fragment}
    (rulesWithin : rules.Within fragment) {parser : Parser R α}
    {part : Parser R β} {index stop : Nat}
    (starts : Starts rules source parser index part stop)
    (within : parser.Within fragment) : part.Within fragment := by
  cases starts with
  | ref defined => exact rulesWithin _ _ defined
  | bindFirst | bothFirst | orElseFirst => exact within.1
  | bindNext reads => exact within.2 _
  | bothSecond reads => exact within.2
  | orElseSecond misses => exact within.2
  | map | times => exact within
  | terminator turn => exact within.2.2
  | item turn goesOn => exact within.2.1
  | peek | shouldFail | describe => exact within.2
  | generate comes => exact comes.within within

/-- A run of a parser of the library goes on where its offset leads. -/
theorem Starts.leads (rulesLibrary : rules.Within .library)
    {parser : Parser R α} (library : parser.Within .library)
    {part : Parser R β} {index stop : Nat}
    (starts : Starts rules source parser index part stop) :
    source.Leads index stop := by
  cases starts with
  | bindNext reads | bothSecond reads =>
      exact reads.leads rulesLibrary library.1
  | times turn =>
      have itemLibrary : part.Within .library := library
      exact turn.leads rulesLibrary itemLibrary
  | terminator turn => exact turn.leads rulesLibrary library.2.1
  | item turn goesOn => exact turn.leads rulesLibrary library.2.1
  | generate comes => exact comes.leads rulesLibrary library
  | ref | bindFirst | map | bothFirst | orElseFirst | orElseSecond | peek
  | shouldFail | describe => exact .refl source index

/-! ## Runs that stop without a result -/

/-- A parser that, where it succeeds, consumes at least one byte of the
source. -/
def Advances (rules : Rules R) (source : Source) (parser : Parser R α) :
    Prop :=
  ∀ index stop value, parser.Reads rules source index stop value →
    index < stop ∧ stop ≤ source.length

/-- From an offset a loop cannot use up a bound on its turns, since each turn
consumes something; of other parsers nothing is asked. -/
def LoopsWithin (rules : Rules R) (source : Source) (turns : Nat) :
    ∀ {α : Type}, Parser R α → Nat → Prop
  | _, .times item _ _, index =>
    item.Advances rules source ∧ source.length - index < turns
  | _, .repeatUntil item _ _ _ _, index =>
    item.Advances rules source ∧ source.length - index < turns
  | _, _, _ => True

/-- A repetition that stops without a result comes to an item that does, unless
it uses up its turns. -/
theorem exists_timesTurn {item : Parser R α} {min : Nat} {max : Option Nat}
    {fuel turns count index : Nat} {values : List α} {context : Diagnostics}
    {trace : Trace} {abort : Abort}
    (within : abort = .exhausted →
      item.Advances rules source ∧ source.length - index < turns)
    (stopped : (Attempt.timesLoop (item.run rules fuel source) min max turns
      values count context trace index).answer = .error abort) :
    ∃ stop, TimesTurn rules source item max count index stop ∧
      (item.run rules fuel source stop).answer = .error abort := by
  induction turns generalizing values count context trace index with
  | zero =>
      rw [Attempt.timesLoop] at stopped
      split at stopped
      · cases stopped
      · cases stopped
        exact absurd (within rfl).2 (Nat.not_lt_zero _)
  | succ turns inductiveStep =>
      rw [Attempt.timesLoop] at stopped
      split at stopped
      · cases stopped
      rename_i notReached
      have room : Attempt.reaches max count = false := by simpa using notReached
      cases answered : (item.run rules fuel source index).answer with
      | error reason =>
          simp only [answered] at stopped
          cases stopped
          exact ⟨index, .here room, answered⟩
      | ok result =>
          rcases result with ⟨outcome, diagnostics⟩
          simp only [answered] at stopped
          cases outcome with
          | success next value =>
              have reads : item.Reads rules source index next value :=
                ⟨diagnostics, fuel, answered⟩
              have still : abort = .exhausted → item.Advances rules source ∧
                  source.length - next < turns := by
                intro exhausted
                rcases within exhausted with ⟨advances, enough⟩
                have further := advances index next value reads
                exact ⟨advances, by omega⟩
              rcases inductiveStep still stopped with ⟨stop, turn, itemStops⟩
              exact ⟨stop, .later room reads turn, itemStops⟩
          | failure =>
              dsimp only at stopped
              split at stopped <;> cases stopped

theorem filter_bound_eq_none_iff {max : Option Nat} {count : Nat} :
    (max.filter fun max => decide (max ≤ count)) = none ↔
      Attempt.reaches max count = false := by
  cases max <;> simp [Attempt.reaches]

/-- A search that stops without a result comes to a terminator that does, or
goes on with an item that does, unless it uses up its turns. -/
theorem exists_untilTurn {item : Parser R α} {terminator : Parser R β}
    {min : Nat} {max : Option Nat} {keep : Option (β → α)}
    {fuel turns count index : Nat} {values : List α} {trace : Trace}
    {abort : Abort}
    (within : abort = .exhausted →
      item.Advances rules source ∧ source.length - index < turns)
    (stopped : (Attempt.repeatUntilLoop (item.run rules fuel source)
      (terminator.run rules fuel source) min max keep turns values count trace
      index).answer = .error abort) :
    ∃ last stop,
      UntilTurn rules source item terminator min max count index last stop ∧
      ((terminator.run rules fuel source stop).answer = .error abort ∨
        GoesOn rules source terminator min max last stop ∧
          (item.run rules fuel source stop).answer = .error abort) := by
  induction turns generalizing values count trace index with
  | zero =>
      cases stopped
      exact absurd (within rfl).2 (Nat.not_lt_zero _)
  | succ turns inductiveStep =>
      rw [Attempt.repeatUntilLoop] at stopped
      cases ending : (terminator.run rules fuel source index).answer with
      | error reason =>
          simp only [ending] at stopped
          cases stopped
          exact ⟨count, index, .here count index, .inl ending⟩
      | ok found =>
          simp only [ending] at stopped
          split at stopped
          · split at stopped <;> cases stopped
          rename_i notAccepted
          split at stopped
          · cases stopped
          rename_i noBound
          have goesOn : GoesOn rules source terminator min max count index :=
            ⟨filter_bound_eq_none_iff.mp noBound, found, ⟨fuel, ending⟩,
              fun enough => by rwa [if_pos enough] at notAccepted⟩
          cases answered : (item.run rules fuel source index).answer with
          | error reason =>
              simp only [answered] at stopped
              cases stopped
              exact ⟨count, index, .here count index, .inr ⟨goesOn, answered⟩⟩
          | ok result =>
              rcases result with ⟨outcome, diagnostics⟩
              simp only [answered] at stopped
              cases outcome with
              | success next value =>
                  have reads : item.Reads rules source index next value :=
                    ⟨diagnostics, fuel, answered⟩
                  have still : abort = .exhausted →
                      item.Advances rules source ∧
                        source.length - next < turns := by
                    intro exhausted
                    rcases within exhausted with ⟨advances, enough⟩
                    have further := advances index next value reads
                    exact ⟨advances, by omega⟩
                  rcases inductiveStep still stopped with
                    ⟨last, stop, turn, partStops⟩
                  exact ⟨last, stop, .later goesOn reads turn, partStops⟩
              | failure => cases stopped

end

end Parser

section

variable {rules : Rules R} {source : Source} {fuel : Nat}

/-- After a failed step a body comes to a result without running anything. -/
theorem Steps.drive_halted_ne_error (body : Steps R α) (context : Diagnostics)
    (trace : Trace) (abort : Abort) :
    (body.drive source (rules.enter source fuel) fuel (.halted context)
      trace).answer ≠ .error abort := by
  rcases @Steps.exists_refused R rules fuel source α body with
    ⟨_, _, _, _, drives⟩
  rw [(drives context trace).1]
  exact nofun

/-- A body stops without a result only at a step that does. -/
theorem Steps.exists_comesTo {abort : Abort} :
    ∀ {α : Type} (body : Steps R α) (start : Nat) {context : Diagnostics}
      {trace : Trace},
      (body.drive source (rules.enter source fuel) fuel
        (.running start context) trace).answer = .error abort →
      ∃ (β : Type) (parser : Parser R β) (stop : Nat),
        body.ComesTo rules source parser start stop ∧
          (parser.run rules fuel source stop).answer = .error abort
  | _, .done value, start, context, trace, stopped => by
      rw [Steps.drive] at stopped
      cases stopped
  | _, .halt, start, context, trace, stopped => by
      rw [Steps.drive] at stopped
      cases stopped
  | _, .index next, start, context, trace, stopped => by
      rw [Steps.drive] at stopped
      rcases (next (some start)).exists_comesTo start stopped with
        ⟨β, parser, stop, comes, partStops⟩
      exact ⟨β, parser, stop, .index comes, partStops⟩
  | _, .halted next, start, context, trace, stopped => by
      rw [Steps.drive] at stopped
      rcases (next false).exists_comesTo start stopped with
        ⟨β, parser, stop, comes, partStops⟩
      exact ⟨β, parser, stop, .halted comes, partStops⟩
  | _, .aside run next, start, context, trace, stopped => by
      rw [Steps.drive] at stopped
      rcases next.exists_comesTo start stopped with
        ⟨β, parser, stop, comes, partStops⟩
      exact ⟨β, parser, stop, .aside run comes, partStops⟩
  | _, .step parser next, start, context, trace, stopped => by
      have asRun : parser.attempt source (rules.enter source fuel) fuel start =
          parser.run rules fuel source start := rfl
      rw [Steps.drive, asRun] at stopped
      cases answered : (parser.run rules fuel source start).answer with
      | error reason =>
          simp only [answered] at stopped
          cases stopped
          exact ⟨_, parser, start, .here start, answered⟩
      | ok result =>
          rcases result with ⟨outcome, diagnostics⟩
          simp only [answered] at stopped
          cases outcome with
          | failure =>
              exact absurd stopped
                ((next none).drive_halted_ne_error _ _ _)
          | success middle value =>
              rcases (next (some value)).exists_comesTo middle stopped with
                ⟨β, later, stop, comes, partStops⟩
              have reads : parser.Reads rules source start middle value :=
                ⟨diagnostics, fuel, answered⟩
              exact ⟨β, later, stop, .step reads comes, partStops⟩

namespace Parser

/-- A run that stops without a result goes on with one that does, unless it is
one of a reference or a loop uses up its turns. -/
theorem exists_starts_of_stopped {α : Type} {parser : Parser R α} {index : Nat}
    {abort : Abort} (notRef : ∀ rule, parser ≠ .ref rule)
    (stopped : (parser.run rules fuel source index).answer = .error abort)
    (within : abort = .exhausted →
      parser.LoopsWithin rules source fuel index) :
    ∃ (β : Type) (part : Parser R β) (stop : Nat),
      Starts rules source parser index part stop ∧
        (part.run rules fuel source stop).answer = .error abort := by
  rw [run] at stopped
  cases parser with
  | leaf primitive =>
      rw [attempt] at stopped
      cases stopped
  | ref rule => exact absurd rfl (notRef rule)
  | bind first next =>
      rw [attempt] at stopped
      rcases Run.andThen_answer_eq_error stopped with
        firstStops | ⟨⟨outcome, diagnostics⟩, answered, rest⟩
      · exact ⟨_, first, index, .bindFirst, firstStops⟩
      cases outcome with
      | failure => cases rest
      | success stop value =>
          exact ⟨_, next value, stop, .bindNext ⟨diagnostics, fuel, answered⟩,
            Run.mapResult_answer_eq_error.mp rest⟩
  | both first second =>
      rw [attempt] at stopped
      rcases Run.andThen_answer_eq_error stopped with
        firstStops | ⟨⟨outcome, diagnostics⟩, answered, rest⟩
      · exact ⟨_, first, index, .bothFirst, firstStops⟩
      cases outcome with
      | failure => cases rest
      | success stop value =>
          exact ⟨_, second, stop, .bothSecond ⟨diagnostics, fuel, answered⟩,
            Run.mapResult_answer_eq_error.mp rest⟩
  | orElse first second =>
      rw [attempt] at stopped
      rcases Run.andThen_answer_eq_error stopped with
        firstStops | ⟨⟨outcome, diagnostics⟩, answered, rest⟩
      · exact ⟨_, first, index, .orElseFirst, firstStops⟩
      cases outcome with
      | success stop value => cases rest
      | failure =>
          exact ⟨_, second, index,
            .orElseSecond ⟨diagnostics, fuel, answered⟩,
            Run.mapResult_answer_eq_error.mp rest⟩
  | times item min max =>
      rw [attempt] at stopped
      rcases exists_timesTurn within stopped with ⟨stop, turn, itemStops⟩
      exact ⟨_, item, stop, .times turn, itemStops⟩
  | repeatUntil item terminator min max keep =>
      rw [attempt] at stopped
      rcases exists_untilTurn within stopped with
        ⟨last, stop, turn, terminatorStops | ⟨goesOn, itemStops⟩⟩
      · exact ⟨_, terminator, stop, .terminator turn, terminatorStops⟩
      · exact ⟨_, item, stop, .item turn goesOn, itemStops⟩
  | map f parser =>
      rw [attempt] at stopped
      exact ⟨_, parser, index, .map,
        Run.mapResult_answer_eq_error.mp stopped⟩
  | peek parser =>
      rw [attempt] at stopped
      exact ⟨_, parser, index, .peek,
        Run.mapResult_answer_eq_error.mp stopped⟩
  | shouldFail parser description =>
      rw [attempt] at stopped
      exact ⟨_, parser, index, .shouldFail,
        Run.mapResult_answer_eq_error.mp stopped⟩
  | describe parser description =>
      rw [attempt] at stopped
      exact ⟨_, parser, index, .describe,
        Run.mapResult_answer_eq_error.mp stopped⟩
  | generate body =>
      rw [attempt] at stopped
      rcases body.exists_comesTo index stopped with
        ⟨β, part, stop, comes, partStops⟩
      exact ⟨β, part, stop, .generate comes, partStops⟩

end Parser

/-! ## Induction over what runs go on with -/

/-- A property holds of all parsers that a body may run as a step, from every
offset. -/
def Steps.EachStep (motive : ∀ {β : Type}, Parser R β → Nat → Prop) :
    ∀ {α : Type}, Steps R α → Prop
  | _, .done _ => True
  | _, .halt => True
  | _, .step parser next =>
    (∀ start, motive parser start) ∧ ∀ answer, (next answer).EachStep motive
  | _, .index next => ∀ answer, (next answer).EachStep motive
  | _, .halted next => ∀ answer, (next answer).EachStep motive
  | _, .aside _ next => next.EachStep motive

/-- A property holds of what a run from an offset may go on with; of references
nothing is asked. -/
def Parser.EachStart (motive : ∀ {β : Type}, Parser R β → Nat → Prop) :
    ∀ {α : Type}, Parser R α → Nat → Prop
  | _, .leaf _, _ => True
  | _, .ref _, _ => True
  | _, .bind first next, index =>
    motive first index ∧ ∀ value stop, motive (next value) stop
  | _, .map _ parser, index => motive parser index
  | _, .both first second, index =>
    motive first index ∧ ∀ stop, motive second stop
  | _, .orElse first second, index =>
    motive first index ∧ motive second index
  | _, .times item _ _, _ => ∀ stop, motive item stop
  | _, .repeatUntil item terminator _ _ _, _ =>
    (∀ stop, motive item stop) ∧ ∀ stop, motive terminator stop
  | _, .peek parser, index => motive parser index
  | _, .shouldFail parser _, index => motive parser index
  | _, .describe parser _, index => motive parser index
  | _, .generate body, _ => body.EachStep motive

theorem Steps.ComesTo.holds {motive : ∀ {α : Type}, Parser R α → Nat → Prop}
    {α β : Type} {body : Steps R α} {part : Parser R β} {start stop : Nat}
    (comes : body.ComesTo rules source part start stop)
    (each : body.EachStep motive) : motive part stop := by
  induction comes with
  | here start => exact each.1 start
  | step reads rest inductiveStep => exact inductiveStep (each.2 _)
  | index rest inductiveStep | halted rest inductiveStep =>
      exact inductiveStep (each _)
  | aside trace rest inductiveStep => exact inductiveStep each

theorem Parser.Starts.holds {motive : ∀ {α : Type}, Parser R α → Nat → Prop}
    {α β : Type} {parser : Parser R α} {part : Parser R β} {index stop : Nat}
    (starts : Parser.Starts rules source parser index part stop)
    (notRef : ∀ rule, parser ≠ .ref rule)
    (each : parser.EachStart motive index) : motive part stop := by
  cases starts with
  | ref defined => exact absurd rfl (notRef _)
  | bindFirst | bothFirst | orElseFirst => exact each.1
  | bindNext reads => exact each.2 _ _
  | bothSecond reads => exact each.2 _
  | orElseSecond misses => exact each.2
  | map | peek | shouldFail | describe => exact each
  | times turn => exact each _
  | terminator turn => exact each.2 _
  | item turn goesOn => exact each.1 _
  | generate comes => exact comes.holds each

mutual

/-- What holds of a parser if it does of what its runs may go on with, holds of
all parsers. -/
theorem Parser.eachStart_induct
    {motive : ∀ {α : Type}, Parser R α → Nat → Prop}
    (step : ∀ {α : Type} (parser : Parser R α) (index : Nat),
      parser.EachStart motive index → motive parser index) :
    ∀ {α : Type} (parser : Parser R α) (index : Nat), motive parser index
  | _, .leaf _, index => step _ index trivial
  | _, .ref _, index => step _ index trivial
  | _, .bind first next, index =>
    step _ index ⟨first.eachStart_induct step index,
      fun value => (next value).eachStart_induct step⟩
  | _, .map _ parser, index =>
    step _ index (parser.eachStart_induct step index)
  | _, .both first second, index =>
    step _ index
      ⟨first.eachStart_induct step index, second.eachStart_induct step⟩
  | _, .orElse first second, index =>
    step _ index
      ⟨first.eachStart_induct step index, second.eachStart_induct step index⟩
  | _, .times item _ _, index => step _ index (item.eachStart_induct step)
  | _, .repeatUntil item terminator _ _ _, index =>
    step _ index
      ⟨item.eachStart_induct step, terminator.eachStart_induct step⟩
  | _, .peek parser, index =>
    step _ index (parser.eachStart_induct step index)
  | _, .shouldFail parser _, index =>
    step _ index (parser.eachStart_induct step index)
  | _, .describe parser _, index =>
    step _ index (parser.eachStart_induct step index)
  | _, .generate body, index => step _ index (body.eachStep_induct step)

theorem Steps.eachStep_induct
    {motive : ∀ {α : Type}, Parser R α → Nat → Prop}
    (step : ∀ {α : Type} (parser : Parser R α) (index : Nat),
      parser.EachStart motive index → motive parser index) :
    ∀ {α : Type} (body : Steps R α), body.EachStep motive
  | _, .done _ => trivial
  | _, .halt => trivial
  | _, .step parser next =>
    ⟨parser.eachStart_induct step,
      fun answer => (next answer).eachStep_induct step⟩
  | _, .index next => fun answer => (next answer).eachStep_induct step
  | _, .halted next => fun answer => (next answer).eachStep_induct step
  | _, .aside _ next => next.eachStep_induct step

end

/-- What holds of references, and of any other parser if it holds of what its
runs go on with, holds of all parsers.  What a reference stands for is no part
of it; that takes an induction on fuel. -/
theorem Parser.starts_induct (rules : Rules R) (source : Source)
    {motive : ∀ {α : Type}, Parser R α → Nat → Prop}
    (ref : ∀ {α : Type} (rule : R α) (index : Nat), motive (.ref rule) index)
    (other : ∀ {α : Type} (parser : Parser R α) (index : Nat),
      (∀ rule, parser ≠ .ref rule) →
      (∀ {β : Type} (part : Parser R β) (stop : Nat),
        Starts rules source parser index part stop → motive part stop) →
      motive parser index) {α : Type} (parser : Parser R α) (index : Nat) :
    motive parser index := by
  refine eachStart_induct (fun parser index each => ?_) parser index
  by_cases isRef : ∃ rule, parser = .ref rule
  · rcases isRef with ⟨rule, rfl⟩
    exact ref rule index
  · have notRef := not_exists.mp isRef
    exact other parser index notRef fun part stop starts =>
      starts.holds notRef each

end

end OrderedChoice
