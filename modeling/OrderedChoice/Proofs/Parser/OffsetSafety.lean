import OrderedChoice.Proofs.Parser.Invariant
import OrderedChoice.Proofs.Regex.Engine

/-!
# Offset safety

A parser built from the library alone never leaves the text.  From a boundary
it goes on to boundaries at or after it, and reports failures there; from any
other offset it consumes nothing and reports nothing elsewhere.

Both cases are one relation between offsets, `Source.Leads`, which is reflexive
and transitive.  That is all that the combinators need.
-/

namespace OrderedChoice

/-! ## Where offsets lead -/

/-- The offsets that may be gone to from an offset: from a boundary the
boundaries at or after it, from any other offset none but itself. -/
def Source.Leads (source : Source) (start stop : Nat) : Prop :=
  if source.isBoundary start then
    start ≤ stop ∧ source.isBoundary stop = true
  else stop = start

namespace Source

variable {source : Source} {start middle stop : Nat}

theorem Leads.refl (source : Source) (start : Nat) :
    source.Leads start start := by
  rw [Leads]
  split
  · rename_i boundary
    exact ⟨Nat.le_refl start, boundary⟩
  · rfl

theorem Leads.trans (first : source.Leads start middle)
    (second : source.Leads middle stop) : source.Leads start stop := by
  rw [Leads] at first ⊢
  split at first
  · rename_i boundary
    rcases first with ⟨forward, middleBoundary⟩
    rw [Leads, if_pos middleBoundary] at second
    rw [if_pos boundary]
    exact ⟨Nat.le_trans forward second.1, second.2⟩
  · rename_i notBoundary
    subst middle
    rw [Leads, if_neg notBoundary] at second
    rw [if_neg notBoundary]
    exact second

theorem leads_of_boundary (boundary : source.isBoundary start = true)
    (leads : source.Leads start stop) :
    start ≤ stop ∧ stop ≤ source.length ∧ source.isBoundary stop = true := by
  rw [Leads, if_pos boundary] at leads
  rcases Option.isSome_iff_exists.mp leads.2 with ⟨after, remains⟩
  exact ⟨leads.1, le_length_of_rest remains, leads.2⟩

theorem leads_of_no_boundary (notBoundary : source.isBoundary start = false)
    (leads : source.Leads start stop) : stop = start := by
  simpa [Leads, notBoundary] using leads

/-- Offsets lead forward, and on within the source only. -/
theorem Leads.forward (leads : source.Leads start stop) :
    start ≤ stop ∧ (start < stop → stop ≤ source.length) := by
  cases boundary : source.isBoundary start with
  | false =>
      have same := leads_of_no_boundary boundary leads
      omega
  | true =>
      have bounds := leads_of_boundary boundary leads
      exact ⟨bounds.1, fun _ => bounds.2.1⟩

/-- A text that stands at an offset leads to where it ends. -/
theorem leads_of_rest {taken after : List Char}
    (remains : source.rest start = some (taken ++ after)) :
    source.Leads start (start + byteLength taken) := by
  rw [Leads, if_pos (isBoundary_of_rest remains)]
  exact ⟨Nat.le_add_right _ _, isBoundary_of_rest (rest_add remains)⟩

end Source

/-! ## Leaves -/

/-- A result that only goes and points to where its start leads. -/
def ParseResult.Stays {α : Type} (source : Source) (start : Nat)
    (result : ParseResult α) : Prop :=
  (∀ stop value, result.outcome = .success stop value →
      source.Leads start stop) ∧
    ∀ offset, result.diagnostics.furthest = some offset →
      source.Leads start offset

namespace ParseResult

variable {α : Type} {source : Source} {start stop : Nat}

theorem stays_success (value : α) (leads : source.Leads start stop) :
    (ParseResult.success stop value).Stays source start := by
  constructor
  · rintro _ _ ⟨⟩
    exact leads
  · intro offset known
    cases known

theorem stays_failure (expected : String) :
    (ParseResult.failure start expected : ParseResult α).Stays source
      start := by
  constructor
  · intro stop value succeeded
    cases succeeded
  · rintro _ ⟨⟩
    exact .refl source start

end ParseResult

namespace Primitive

open ParseResult

theorem stays_parseLiteral (text : String) (source : Source) (start : Nat) :
    (parseLiteral text source start).Stays source start := by
  rw [parseLiteral]
  split
  · rename_i rest remains
    split
    · rename_i isPrefix
      rcases List.isPrefixOf_iff_prefix.mp isPrefix with ⟨after, rfl⟩
      rw [← byteLength_toList]
      exact stays_success text (Source.leads_of_rest remains)
    · exact stays_failure text
  · exact stays_failure text

theorem stays_parseLiteralWith (text : String) (transform : String → String)
    (source : Source) (start : Nat) :
    (parseLiteralWith text transform source start).Stays source start := by
  rw [parseLiteralWith]
  split
  · apply stays_success
    cases remains : source.rest start with
    | none =>
        -- Nothing can be read here, so the empty text was compared.
        simpa [Source.restOrEmpty, remains] using Source.Leads.refl source start
    | some rest =>
        rw [Source.restOrEmpty, remains, Option.getD_some]
        exact Source.leads_of_rest
          (remains.trans
            (congrArg some (List.take_append_drop text.length rest).symm))
  · exact stays_failure text

theorem stays_parseCharacter (predicate : Char → Bool) (description : String)
    (source : Source) (start : Nat) :
    (parseCharacter predicate description source start).Stays source
      start := by
  rw [parseCharacter]
  split
  · rename_i character after remains
    split
    · have leads :
          source.Leads start (start + byteLength [character]) :=
        Source.leads_of_rest remains
      simp only [byteLength_cons, byteLength_nil, Nat.add_zero] at leads
      exact stays_success character leads
    · exact stays_failure description
  · exact stays_failure description

theorem stays_parsePattern {α : Type} (expression : Pattern)
    (read : (Group → String) → α) (source : Source) (start : Nat) :
    (parsePattern expression read source start).Stays source start := by
  rw [parsePattern_eq]
  split
  · rename_i found matched
    rcases Regex.Term.crossed_of_matchAt matched with
      ⟨crossed, _, after, remains, stops⟩
    rw [stops]
    exact stays_success _ (Source.leads_of_rest remains)
  · exact stays_failure expression.text

/-- The leaves of the library stay within the text. -/
theorem stays_parse {α : Type} (primitive : Primitive α)
    (isLibrary : primitive.IsLibrary) (source : Source) (start : Nat) :
    (primitive.parse source start).Stays source start := by
  cases primitive with
  | success value => exact stays_success value (.refl source start)
  | fail expected => exact stays_failure expected
  | index => exact stays_success start (.refl source start)
  | lineInfo => exact stays_success _ (.refl source start)
  | eof =>
      rw [parse]
      split
      · exact stays_success () (.refl source start)
      · exact stays_failure "EOF"
  | literal text => exact stays_parseLiteral text source start
  | literalWith text transform =>
      exact stays_parseLiteralWith text transform source start
  | testChar predicate description =>
      exact stays_parseCharacter predicate description source start
  | pattern expression read =>
      exact stays_parsePattern expression read source start
  | custom function => exact isLibrary.elim

end Primitive

/-! ## Runs -/

/-- Diagnostics that only point to where an offset leads. -/
def Diagnostics.PointWithin (source : Source) (start : Nat)
    (diagnostics : Diagnostics) : Prop :=
  ∀ offset, diagnostics.furthest = some offset → source.Leads start offset

namespace Diagnostics.PointWithin

variable {source : Source} {start middle : Nat}
  {recent prior : Diagnostics}

theorem none : Diagnostics.none.PointWithin source start := by
  rintro _ ⟨⟩

theorem single (leads : source.Leads start middle) (expected : String) :
    (Diagnostics.single middle expected).PointWithin source start := by
  rintro _ ⟨⟩
  exact leads

theorem from_start (leads : source.Leads start middle)
    (within : recent.PointWithin source middle) :
    recent.PointWithin source start := fun offset known =>
  leads.trans (within offset known)

theorem merge (recentWithin : recent.PointWithin source start)
    (priorWithin : prior.PointWithin source start) :
    (recent.merge prior).PointWithin source start := by
  intro offset known
  rcases furthest_cases recent.furthest prior.furthest with
    below | level | above
  · rw [merge_of_lt below] at known
    exact priorWithin offset known
  · rw [merge_of_eq level] at known
    exact recentWithin offset known
  · rw [merge_of_gt above] at known
    exact recentWithin offset known

end Diagnostics.PointWithin

/-- Runs that stay within the text. -/
def RunInvariant.offsets (source : Source) : RunInvariant source .library where
  passed := fun start stop diagnostics _ =>
    source.Leads start stop ∧ diagnostics.PointWithin source start
  failed := fun start diagnostics _ => diagnostics.PointWithin source start
  begin_passed := fun start => ⟨.refl source start, .none⟩
  leaf_passed := by
    intro α primitive start stop value diagnostics isLibrary parsed
    have stays := primitive.stays_parse isLibrary source start
    rw [parsed] at stays
    exact ⟨stays.1 stop value rfl, stays.2⟩
  leaf_failed := by
    intro α primitive start diagnostics isLibrary parsed
    have stays := primitive.stays_parse isLibrary source start
    rw [parsed] at stays
    exact stays.2
  then_passed := fun first second =>
    ⟨first.1.trans second.1, (second.2.from_start first.1).merge first.2⟩
  then_failed := fun first second => (second.from_start first.1).merge first.2
  give_up := fun failed => ⟨.refl source _, failed⟩
  halt := fun _ _ _ _ _ passed => passed.2
  forget := fun _ _ _ _ _ passed => ⟨passed.1, .none⟩
  rewind := fun _ _ _ _ _ _ => ⟨.refl source _, .none⟩
  refuse := fun _ _ _ _ _ description passed => .single passed.1 description

theorem Parser.stays_run {R : Type → Type} {rules : Rules R}
    (rulesLibrary : rules.Within .library) {α : Type} {parser : Parser R α}
    (library : parser.Within .library) (source : Source) (fuel index : Nat)
    (result : ParseResult α)
    (ends : (parser.run rules fuel source index).answer = .ok result) :
    result.Stays source index := by
  have fits :=
    (RunInvariant.offsets source).holds_run rulesLibrary library fuel index
      result ends
  rcases result with ⟨outcome, diagnostics⟩
  cases outcome with
  | success stop value =>
      refine ⟨?_, fits.2⟩
      rintro _ _ ⟨⟩
      exact fits.1
  | failure =>
      refine ⟨?_, fits⟩
      intro stop value succeeded
      cases succeeded

/--
Runs of parsers built from the library stay within the text.  From a boundary
they succeed at and report boundaries at or after it; from an offset inside a
character or past the end they succeed there and report nothing elsewhere.
-/
theorem Parser.offsets_safe {R : Type → Type} {rules : Rules R}
    (rulesLibrary : rules.Within .library) {α : Type} {parser : Parser R α}
    (library : parser.Within .library) (source : Source) (fuel index : Nat)
    (result : ParseResult α)
    (ends : (parser.run rules fuel source index).answer = .ok result) :
    (source.isBoundary index = true →
      (∀ stop value, result.outcome = .success stop value →
        index ≤ stop ∧ stop ≤ source.length ∧
          source.isBoundary stop = true) ∧
      ∀ offset, result.furthest = some offset →
        index ≤ offset ∧ offset ≤ source.length ∧
          source.isBoundary offset = true) ∧
    (source.isBoundary index = false →
      (∀ stop value, result.outcome = .success stop value → stop = index) ∧
      (result.furthest = none ∨ result.furthest = some index)) := by
  rcases stays_run rulesLibrary library source fuel index result ends with
    ⟨goes, points⟩
  constructor
  · intro boundary
    exact ⟨fun stop value succeeded =>
        Source.leads_of_boundary boundary (goes stop value succeeded),
      fun offset known =>
        Source.leads_of_boundary boundary (points offset known)⟩
  · intro notBoundary
    refine ⟨fun stop value succeeded =>
      Source.leads_of_no_boundary notBoundary (goes stop value succeeded), ?_⟩
    cases known : result.furthest with
    | none => exact Or.inl rfl
    | some offset =>
        exact Or.inr (congrArg some
          (Source.leads_of_no_boundary notBoundary (points offset known)))

/-- An open array with a letter of two bytes fails at its end, and inside that
letter nothing can be read. -/
theorem Json.open_array_offsets_safe :
    let source := Source.ofString "[\"é\", 1"
    let run := Json.parser.run Json.rules 10 source
    (∃ result, (run 0).answer = .ok result ∧ result.furthest = some 8 ∧
      8 ≤ source.length ∧ source.isBoundary 8 = true) ∧
    ∃ result, (run 3).answer = .ok result ∧
      source.isBoundary 3 = false ∧
      (result.furthest = none ∨ result.furthest = some 3) := by
  intro source run
  have safe := fun index result ends =>
    Parser.offsets_safe Json.rules_within_library Json.parser_within_library
      source 10 index result ends
  constructor
  · have known : (run 0).answer.toOption.bind (·.furthest) = some 8 := by
      decide +kernel
    rcases Option.bind_eq_some_iff.mp known with ⟨result, answered, furthest⟩
    have ends := Run.answer_eq_ok_iff.mpr answered
    have boundary : source.isBoundary 0 = true := by decide +kernel
    have bounds := ((safe 0 result ends).1 boundary).2 8 furthest
    exact ⟨result, ends, furthest, bounds.2⟩
  · have known : (run 3).answer.toOption.isSome = true := by decide +kernel
    rcases Option.isSome_iff_exists.mp known with ⟨result, answered⟩
    have ends := Run.answer_eq_ok_iff.mpr answered
    have inside : source.isBoundary 3 = false := by decide +kernel
    exact ⟨result, ends, inside, ((safe 3 result ends).2 inside).2⟩

end OrderedChoice
