import OrderedChoice.Proofs.Parser.EntryPoints
import OrderedChoice.Proofs.Parser.Scans

/-!
# Longest prefixes

Parsing a part of a text takes one of its prefixes.  Ordered choice and
repetition that gives nothing back do not make that the longest prefix that is
accepted as a whole, in general.  They do for a parser that scans every text,
takes only what it accepts on its own, and reaches at least as far as what it
accepts on its own, whatever follows that.
-/

namespace OrderedChoice.Parser

variable {R : Type → Type} {α : Type} {rules : Rules R} {parser : Parser R α}
  {text after rest : List Char} {value : α}

/-! ## Parses of parts -/

theorem eventually_parsePartial_of_takes
    (takes : parser.Takes rules text after value) :
    ∃ least, ∀ fuel, least ≤ fuel →
      (parser.parsePartial rules fuel (.ofCharacters (text ++ after))).answer =
        .ok (.ok (value, after)) := by
  rcases takes _ 0 (Source.rest_ofCharacters_zero _) with ⟨diagnostics, gives⟩
  rcases gives.eventually with ⟨least, ends⟩
  refine ⟨least, fun fuel enough => ?_⟩
  refine parsePartial_eq_ok_iff.mpr ⟨_, diagnostics, ?_, ends fuel enough⟩
  exact .boundary rfl (Nat.zero_add _).symm

theorem eventually_parsePartial_of_refuses
    (refuses : parser.Refuses rules text) :
    ∃ error least, ∀ fuel, least ≤ fuel →
      (parser.parsePartial rules fuel (.ofCharacters text)).answer =
        .ok (.error error) := by
  rcases refuses _ 0 (Source.rest_ofCharacters_zero _) with ⟨diagnostics, gives⟩
  rcases gives.eventually with ⟨least, ends⟩
  refine ⟨errorOf (.ofCharacters text) diagnostics, least,
    fun fuel enough => ?_⟩
  rw [answer_parsePartial, ends fuel enough]
  rfl

/-- What a parse of a part gives is what the parser takes. -/
theorem Scans.takes_of_parsePartial {passes : Passing α} {fuel : Nat}
    (scans : parser.Scans rules text passes)
    (parsed : (parser.parsePartial rules fuel (.ofCharacters text)).answer =
      .ok (.ok (value, rest))) :
    ∃ consumed, consumed ++ rest = text ∧
      parser.Takes rules consumed rest value ∧ passes consumed rest value := by
  rcases parsePartial_eq_ok_iff.mp parsed with
    ⟨stop, diagnostics, leaves, ends⟩
  have gives : parser.Gives rules (.ofCharacters text) 0
      ⟨.success stop value, diagnostics⟩ := ⟨fuel, ends⟩
  cases scans with
  | refuses refuses =>
      rcases refuses _ 0 (Source.rest_ofCharacters_zero _) with ⟨_, misses⟩
      cases gives.unique misses
  | @takes consumed after found split takes passed =>
      subst split
      rcases takes _ 0 (Source.rest_ofCharacters_zero _) with ⟨_, reads⟩
      cases gives.unique reads
      have remains : (Source.ofCharacters (consumed ++ after)).Leaves
          (0 + byteLength consumed) after :=
        .boundary rfl (Nat.zero_add _).symm
      have same : rest = after :=
        (Source.leaves_iff.mp leaves).symm.trans (Source.leaves_iff.mp remains)
      subst same
      exact ⟨consumed, rfl, takes, passed⟩

/-- Where a parse of a part fails, the parser takes nothing. -/
theorem not_takes_of_parsePartial {fuel : Nat} {error : ParseError}
    (failed : (parser.parsePartial rules fuel
      (.ofCharacters (text ++ after))).answer = .ok (.error error)) :
    ¬ parser.Takes rules text after value := by
  intro takes
  rcases eventually_parsePartial_of_takes takes with ⟨least, ends⟩
  rw [answer_parsePartial] at failed
  cases answer : (parser.run rules fuel
      (.ofCharacters (text ++ after)) 0).answer with
  | error abort => simp [answer, Except.map] at failed
  | ok result =>
      have more := ends (max least fuel) (Nat.le_max_left _ _)
      rw [answer_parsePartial, run_eq_ok_of_le (Nat.le_max_right _ _) answer]
        at more
      rw [answer] at failed
      have same := failed.symm.trans more
      cases same

/-- What a parser accepts as a whole it takes with nothing after it. -/
theorem Scans.takes_of_accepts {passes : Passing α}
    (scans : parser.Scans rules text passes)
    (accepts : Accepts rules parser (.ofCharacters text) value) :
    parser.Takes rules text [] value ∧ passes text [] value := by
  rcases accepts_iff.mp accepts with ⟨stop, atEnd, reads⟩
  cases scans with
  | refuses refuses =>
      rcases reads with ⟨_, gives⟩
      rcases refuses _ 0 (Source.rest_ofCharacters_zero _) with ⟨_, misses⟩
      cases gives.unique misses
  | @takes consumed after found split takes passed =>
      subst split
      have readsToo := takes _ 0 (Source.rest_ofCharacters_zero _)
      rcases reads.unique readsToo with ⟨rfl, rfl⟩
      have total : byteLength (consumed ++ after) ≤ 0 + byteLength consumed :=
        atEnd
      rw [byteLength_append] at total
      cases after with
      | nil =>
          rw [List.append_nil]
          exact ⟨takes, passed⟩
      | cons character after =>
          have positive : 0 < byteLength (character :: after) := byteLength_pos
          omega

/-! ## The longest prefix -/

/-- Whatever follows a text, a parser takes all of it, and possibly more. -/
def Reaches (rules : Rules R) (parser : Parser R α) (text : List Char) :
    Prop :=
  ∀ after, ∃ further later value, further ++ later = after ∧
    parser.Takes rules (text ++ further) later value

/-- Parsing a part of a text ends.  It fails just when no prefix of the text is
accepted as a whole, and otherwise takes the longest one that is. -/
structure TakesLongest (rules : Rules R) (parser : Parser R α)
    (text : List Char) : Prop where
  ends : ∃ answer least, ∀ fuel, least ≤ fuel →
    (parser.parsePartial rules fuel (.ofCharacters text)).answer = .ok answer
  fails_iff :
    (∃ fuel error,
      (parser.parsePartial rules fuel (.ofCharacters text)).answer =
        .ok (.error error)) ↔
      ∀ before after, before ++ after = text →
        ∀ value, ¬ Accepts rules parser (.ofCharacters before) value
  takes : ∀ fuel value rest,
    (parser.parsePartial rules fuel (.ofCharacters text)).answer =
        .ok (.ok (value, rest)) →
      ∃ consumed, consumed ++ rest = text ∧
        Accepts rules parser (.ofCharacters consumed) value ∧
        ∀ before after, before ++ after = text →
          ∀ other, Accepts rules parser (.ofCharacters before) other →
            before.length ≤ consumed.length

/-- A parser that accepts what it takes and reaches over what it accepts takes
the longest prefix. -/
theorem takesLongest_of_reaches
    (scans : parser.Scans rules text fun consumed _ value =>
      Accepts rules parser (.ofCharacters consumed) value)
    (reaches : ∀ before after, before ++ after = text →
      ∀ value, Accepts rules parser (.ofCharacters before) value →
        parser.Reaches rules before) :
    TakesLongest rules parser text := by
  constructor
  · cases scans with
    | takes split takes passed =>
        subst split
        exact ⟨_, eventually_parsePartial_of_takes takes⟩
    | refuses refuses =>
        rcases eventually_parsePartial_of_refuses refuses with ⟨error, ends⟩
        exact ⟨_, ends⟩
  · constructor
    · rintro ⟨fuel, error, failed⟩ before after split value accepts
      rcases reaches before after split value accepts after with
        ⟨further, later, found, rfl, takes⟩
      rw [← split, ← List.append_assoc] at failed
      exact not_takes_of_parsePartial failed takes
    · intro none
      cases scans with
      | takes split takes passed => exact absurd passed (none _ _ split _)
      | refuses refuses =>
          rcases eventually_parsePartial_of_refuses refuses with
            ⟨error, least, ends⟩
          exact ⟨least, error, ends least (Nat.le_refl _)⟩
  · intro fuel value rest parsed
    rcases scans.takes_of_parsePartial parsed with
      ⟨consumed, split, takes, accepts⟩
    refine ⟨consumed, split, accepts, ?_⟩
    intro before after splitToo other acceptsOther
    rcases reaches before after splitToo other acceptsOther after with
      ⟨further, later, found, rfl, takesMore⟩
    have same : consumed ++ rest = before ++ further ++ later := by
      rw [split, List.append_assoc, splitToo]
    rcases takes.unique takesMore same with ⟨rfl, _, _⟩
    rw [List.length_append]
    exact Nat.le_add_right _ _

end OrderedChoice.Parser
