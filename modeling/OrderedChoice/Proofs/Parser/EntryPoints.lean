import OrderedChoice.Parser.Entry
import OrderedChoice.Proofs.Parser.OffsetSafety
import OrderedChoice.Proofs.Text.Positions

/-!
# Entry points and runs

Both entry points make one run from the start of the source and read their
answer off it.  A partial parse gives what remains where the run stopped.  A
whole parse asks for the end as well, and so fails on a success that stopped
before it; the failure at that place is merged with what the run reports.

This holds of any parser and with any fuel.  A parser built from the library
stops at boundaries, so for it nothing is left just where all was read.
-/

namespace OrderedChoice

/-! ## What is left -/

namespace Source

variable {source : Source} {offset : Nat} {rest : List Char}

/-- What is left of a source at an offset: what follows a boundary, and nothing
where nothing can be read. -/
inductive Leaves (source : Source) (offset : Nat) : List Char → Prop where
  | boundary {before after : List Char}
      (split : source.characters = before ++ after)
      (length : byteLength before = offset) : Leaves source offset after
  | outside (noBoundary : source.isBoundary offset = false) :
      Leaves source offset []

theorem leaves_iff :
    source.Leaves offset rest ↔ source.restOrEmpty offset = rest := by
  rw [restOrEmpty]
  constructor
  · rintro (⟨split, length⟩ | ⟨noBoundary⟩)
    · rw [rest_eq_some_iff.mpr ⟨_, split, length⟩, Option.getD_some]
    · rw [isBoundary, Option.isSome_eq_false_iff, Option.isNone_iff_eq_none]
        at noBoundary
      rw [noBoundary, Option.getD_none]
  · rintro rfl
    cases remains : source.rest offset with
    | none =>
        apply Leaves.outside
        rw [isBoundary, remains]
        rfl
    | some after =>
        rcases rest_eq_some_iff.mp remains with ⟨before, split, length⟩
        exact .boundary split length

end Source

/-! ## Answers of entry points -/

namespace Parser

variable {R : Type → Type} {α : Type} {rules : Rules R} {fuel : Nat}
  {parser : Parser R α} {source : Source}

/-- A result reads all of a source. -/
def ReachesEnd (source : Source) (result : ParseResult α) : Prop :=
  ∃ stop, result.index? = some stop ∧ source.length ≤ stop

/-- What a whole parse that fails knows about the failure: what its run
reported, and that the end was expected where the run succeeded. -/
def failureOf (result : ParseResult α) : Diagnostics :=
  match result.outcome with
  | .success stop _ => (Diagnostics.single stop "EOF").merge result.diagnostics
  | .failure => result.diagnostics

theorem answer_skip_eof {result : ParseResult α}
    (ends : (parser.run rules fuel source 0).answer = .ok result) :
    ((parser.skip eof).run rules fuel source 0).answer =
      match result.outcome with
      | .success stop _ =>
        if source.length ≤ stop then .ok result
        else .ok (.failed (failureOf result))
      | .failure => .ok (.failed result.diagnostics) := by
  rcases result with ⟨outcome, diagnostics⟩
  rw [run] at ends ⊢
  cases outcome with
  | failure =>
      simp only [skip, attempt, Attempt.map, Attempt.both, Run.andThen, ends]
      rfl
  | success stop value =>
      simp only [skip, eof, attempt, Attempt.map, Attempt.both, Run.andThen,
        ends, Primitive.parse]
      split
      · simp [Run.mapResult, Run.leaf, Except.map, ParseResult.map,
          ParseResult.aggregate, ParseResult.success, Outcome.map]
      · rfl

/-- A whole parse gives the value of a run that reads everything, and otherwise
the error of the run. -/
theorem answer_parse :
    (parser.parse rules fuel source).answer =
      (parser.run rules fuel source 0).answer.map fun result =>
        match result.outcome with
        | .success stop value =>
          if source.length ≤ stop then .ok value
          else .error (errorOf source (failureOf result))
        | .failure => .error (errorOf source (failureOf result)) := by
  rw [parse, Parsed.map, parsePartial]
  cases answer : (parser.run rules fuel source 0).answer with
  | error abort =>
      have aborts : ((parser.skip eof).run rules fuel source 0).answer =
          .error abort := by
        rw [run] at answer ⊢
        simp only [skip, attempt, Attempt.map, Attempt.both, Run.andThen,
          answer, Run.mapResult]
        rfl
      simp only [aborts, Except.map]
  | ok result =>
      rw [answer_skip_eof answer]
      rcases result with ⟨outcome, diagnostics⟩
      cases outcome with
      | failure => rfl
      | success stop value =>
          by_cases atEnd : source.length ≤ stop
          · simp only [Except.map, atEnd, if_true]
          · simp only [Except.map, atEnd, if_false]
            rfl

theorem answer_parsePartial :
    (parser.parsePartial rules fuel source).answer =
      (parser.run rules fuel source 0).answer.map fun result =>
        match result.outcome with
        | .success stop value => .ok (value, source.restOrEmpty stop)
        | .failure => .error (errorOf source result.diagnostics) := by
  rw [parsePartial]
  cases (parser.run rules fuel source 0).answer with
  | error abort => rfl
  | ok result =>
      rcases result with ⟨outcome, diagnostics⟩
      cases outcome with
      | failure => rfl
      | success stop value => rfl

theorem parse_eq_ok_iff {value : α} :
    (parser.parse rules fuel source).answer = .ok (.ok value) ↔
      ∃ stop diagnostics, source.length ≤ stop ∧
        (parser.run rules fuel source 0).answer =
          .ok ⟨.success stop value, diagnostics⟩ := by
  rw [answer_parse]
  cases (parser.run rules fuel source 0).answer with
  | error abort => simp [Except.map]
  | ok result =>
      rcases result with ⟨outcome, diagnostics⟩
      cases outcome with
      | failure => simp [Except.map]
      | success stop found =>
          by_cases atEnd : source.length ≤ stop
          · simp only [Except.map, atEnd, if_true, Except.ok.injEq,
              ParseResult.mk.injEq, Outcome.success.injEq]
            constructor
            · rintro rfl
              exact ⟨stop, diagnostics, atEnd, ⟨rfl, rfl⟩, rfl⟩
            · rintro ⟨_, _, _, ⟨_, same⟩, _⟩
              exact same
          · simp only [Except.map, atEnd, if_false, Except.ok.injEq,
              ParseResult.mk.injEq, Outcome.success.injEq, reduceCtorEq,
              false_iff]
            rintro ⟨_, _, large, ⟨rfl, _⟩, _⟩
            exact atEnd large

theorem parsePartial_eq_ok_iff {value : α} {rest : List Char} :
    (parser.parsePartial rules fuel source).answer = .ok (.ok (value, rest)) ↔
      ∃ stop diagnostics, source.Leaves stop rest ∧
        (parser.run rules fuel source 0).answer =
          .ok ⟨.success stop value, diagnostics⟩ := by
  rw [answer_parsePartial]
  cases (parser.run rules fuel source 0).answer with
  | error abort => simp [Except.map]
  | ok result =>
      rcases result with ⟨outcome, diagnostics⟩
      cases outcome with
      | failure => simp [Except.map]
      | success stop found =>
          simp only [Except.map, Except.ok.injEq, Prod.mk.injEq,
            ParseResult.mk.injEq, Outcome.success.injEq,
            ← Source.leaves_iff]
          constructor
          · rintro ⟨rfl, leaves⟩
            exact ⟨stop, diagnostics, leaves, ⟨rfl, rfl⟩, rfl⟩
          · rintro ⟨_, _, leaves, ⟨rfl, same⟩, _⟩
            exact ⟨same, leaves⟩

theorem parse_eq_error_iff {error : ParseError} :
    (parser.parse rules fuel source).answer = .ok (.error error) ↔
      ∃ result, (parser.run rules fuel source 0).answer = .ok result ∧
        ¬ ReachesEnd source result ∧
        error = errorOf source (failureOf result) := by
  rw [answer_parse]
  cases (parser.run rules fuel source 0).answer with
  | error abort => simp [Except.map]
  | ok result =>
      rcases result with ⟨outcome, diagnostics⟩
      cases outcome with
      | failure =>
          simp [Except.map, ReachesEnd, ParseResult.index?, Outcome.index?,
            eq_comm]
      | success stop found =>
          by_cases atEnd : source.length ≤ stop
          · simp [Except.map, atEnd, ReachesEnd, ParseResult.index?,
              Outcome.index?]
          · have early : stop < source.length := by omega
            simp [Except.map, if_neg atEnd, early, ReachesEnd,
              ParseResult.index?, Outcome.index?, eq_comm]

/-! ## Parsers of the library -/

/-- A parser of the library stops where the text splits. -/
theorem exists_consumed (rulesLibrary : rules.Within .library)
    (library : parser.Within .library) {stop : Nat} {value : α}
    {diagnostics : Diagnostics}
    (ends : (parser.run rules fuel source 0).answer =
      .ok ⟨.success stop value, diagnostics⟩) :
    ∃ consumed rest, source.characters = consumed ++ rest ∧
      byteLength consumed = stop := by
  have boundary := Source.isBoundary_of_rest source.rest_zero
  have stays := stays_run rulesLibrary library source fuel 0 _ ends
  have leads := Source.leads_of_boundary boundary (stays.1 stop value rfl)
  exact Source.isBoundary_iff.mp leads.2.2

/-- For a parser of the library what is left is what was not consumed. -/
theorem split_of_parsePartial (rulesLibrary : rules.Within .library)
    (library : parser.Within .library) {value : α} {rest : List Char}
    (parsed : (parser.parsePartial rules fuel source).answer =
      .ok (.ok (value, rest))) :
    ∃ consumed diagnostics, source.characters = consumed ++ rest ∧
      (parser.run rules fuel source 0).answer =
        .ok ⟨.success (byteLength consumed) value, diagnostics⟩ := by
  rcases parsePartial_eq_ok_iff.mp parsed with
    ⟨stop, diagnostics, leaves, ends⟩
  rcases exists_consumed rulesLibrary library ends with
    ⟨consumed, after, split, rfl⟩
  have remains := Source.leaves_iff.mp leaves
  rw [Source.restOrEmpty, Source.rest_eq_some_iff.mpr ⟨_, split, rfl⟩,
    Option.getD_some] at remains
  subst remains
  exact ⟨consumed, diagnostics, split, ends⟩

/-- Such a parser reads everything just when it leaves nothing. -/
theorem parse_eq_ok_iff_parsePartial (rulesLibrary : rules.Within .library)
    (library : parser.Within .library) {value : α} :
    (parser.parse rules fuel source).answer = .ok (.ok value) ↔
      (parser.parsePartial rules fuel source).answer =
        .ok (.ok (value, [])) := by
  constructor
  · intro parsed
    rcases parse_eq_ok_iff.mp parsed with ⟨stop, diagnostics, atEnd, ends⟩
    rcases exists_consumed rulesLibrary library ends with
      ⟨consumed, rest, split, rfl⟩
    have nothing : rest = [] := by
      by_contra some
      rcases List.exists_cons_of_ne_nil some with ⟨character, others, rfl⟩
      have positive : 0 < byteLength (character :: others) := byteLength_pos
      rw [source.length_eq, split, byteLength_append] at atEnd
      omega
    subst nothing
    exact parsePartial_eq_ok_iff.mpr
      ⟨_, diagnostics, .boundary split rfl, ends⟩
  · intro parsed
    rcases split_of_parsePartial rulesLibrary library parsed with
      ⟨consumed, diagnostics, split, ends⟩
    refine parse_eq_ok_iff.mpr ⟨_, diagnostics, ?_, ends⟩
    rw [source.length_eq, split, List.append_nil]

end Parser

end OrderedChoice
