import OrderedChoice.Proofs.Parser.Patterns

/-!
# Scanning

A parser scans a text when it either takes some beginning of it or refuses it:
it does not go on for ever.  What it takes, before what follows, and as which
value is said by a predicate, so that scanning tells all there is to know of a
parser on a text.

The laws reason backwards.  For a sequence, what the first parser takes has to
pass by leaving a text that the second one scans.  A repetition scans when its
item does on every end of the text and never takes nothing.
-/

namespace OrderedChoice.Parser

variable {R : Type → Type} {α β : Type}

/-- What a parser takes before what, as which value. -/
abbrev Passing (α : Type) := List Char → List Char → α → Prop

/-- A parser takes a beginning of a text in a way that passes, or refuses. -/
inductive Scans (rules : Rules R) (parser : Parser R α) (rest : List Char)
    (passes : Passing α) : Prop where
  | takes {text after : List Char} {value : α} (split : text ++ after = rest)
      (takes : parser.Takes rules text after value)
      (passed : passes text after value)
  | refuses (refuses : parser.Refuses rules rest)

section

variable {rules : Rules R} {rest : List Char}

/-! ## What is taken is one -/

/-- Of one text a parser takes one beginning, as one value. -/
theorem Takes.unique {parser : Parser R α} {text further after later : List Char}
    {left right : α} (takes : parser.Takes rules text after left)
    (takesToo : parser.Takes rules further later right)
    (same : text ++ after = further ++ later) :
    text = further ∧ after = later ∧ left = right := by
  have remains := Source.rest_ofCharacters_zero (text ++ after)
  have reads := takes _ 0 remains
  rw [same] at remains
  rw [same] at reads
  rcases reads.unique (takesToo _ 0 remains) with ⟨stops, values⟩
  have lengths : byteLength text = byteLength further := by omega
  have texts : text = further := by
    rw [← takeBytes_byteLength text after, same, lengths, takeBytes_byteLength]
  subst texts
  exact ⟨rfl, List.append_cancel_left same, values⟩

/-- What is taken is not refused. -/
theorem Takes.not_refuses {parser : Parser R α} {text after : List Char}
    {value : α} (takes : parser.Takes rules text after value) :
    ¬ parser.Refuses rules (text ++ after) := by
  intro refuses
  have remains := Source.rest_ofCharacters_zero (text ++ after)
  rcases takes _ 0 remains with ⟨_, gives⟩
  rcases refuses _ 0 remains with ⟨_, givesToo⟩
  cases gives.unique givesToo

namespace Scans

variable {passes : Passing α}

theorem imp {parser : Parser R α} {others : Passing α}
    (scans : parser.Scans rules rest passes)
    (weaker : ∀ text after value, text ++ after = rest →
      passes text after value → others text after value) :
    parser.Scans rules rest others := by
  cases scans with
  | takes split takes passed =>
      exact .takes split takes (weaker _ _ _ split passed)
  | refuses refuses => exact .refuses refuses

/-- What a scanning parser takes passes. -/
theorem passed_of_takes {parser : Parser R α} {text after : List Char}
    {value : α} (scans : parser.Scans rules (text ++ after) passes)
    (takes : parser.Takes rules text after value) :
    passes text after value := by
  cases scans with
  | takes split takesToo passed =>
      rcases takes.unique takesToo split.symm with ⟨rfl, rfl, rfl⟩
      exact passed
  | refuses refuses => exact absurd refuses takes.not_refuses

end Scans

/-! ## Laws -/

variable {passes : Passing α}

theorem scans_literal {text : String} {passes : Passing String}
    (passed : ∀ after, text.toList ++ after = rest →
      passes text.toList after text) :
    (literal text : Parser R String).Scans rules rest passes := by
  by_cases stands : text.toList <+: rest
  · rcases stands with ⟨after, split⟩
    exact .takes split (takes_literal text after) (passed after split)
  · exact .refuses (refuses_literal stands)

theorem scans_success {value : α} (passed : passes [] rest value) :
    (success value : Parser R α).Scans rules rest passes :=
  .takes rfl (takes_success value rest) passed

theorem scans_ref {rule : R α} {parser : Parser R α}
    (defined : rules.definition rule = some parser)
    (scans : parser.Scans rules rest passes) :
    (Parser.ref rule).Scans rules rest passes := by
  cases scans with
  | takes split takes passed => exact .takes split (takes_ref defined takes) passed
  | refuses refuses => exact .refuses (refuses_ref defined refuses)

theorem scans_map {f : α → β} {parser : Parser R α} {passes : Passing β}
    (scans : parser.Scans rules rest fun text after value =>
      passes text after (f value)) :
    (Parser.map f parser).Scans rules rest passes := by
  cases scans with
  | takes split takes passed => exact .takes split (takes_map f takes) passed
  | refuses refuses => exact .refuses (refuses_map f refuses)

theorem scans_bind {first : Parser R α} {next : α → Parser R β}
    {passes : Passing β}
    (scans : first.Scans rules rest fun text after value =>
      (next value).Scans rules after fun further later last =>
        passes (text ++ further) later last) :
    (Parser.bind first next).Scans rules rest passes := by
  cases scans with
  | refuses refuses => exact .refuses (refuses_bind next refuses)
  | takes split takes scansNext =>
      subst split
      cases scansNext with
      | refuses refuses => exact .refuses (refuses_bind_second takes refuses)
      | takes split takesNext passed =>
          subst split
          exact .takes (List.append_assoc _ _ _) (takes_bind takes takesNext)
            passed

theorem scans_both {first : Parser R α} {second : Parser R β}
    {passes : Passing (α × β)}
    (scans : first.Scans rules rest fun text after left =>
      second.Scans rules after fun further later right =>
        passes (text ++ further) later (left, right)) :
    (Parser.both first second).Scans rules rest passes := by
  cases scans with
  | refuses refuses => exact .refuses (refuses_both second refuses)
  | takes split takes scansSecond =>
      subst split
      cases scansSecond with
      | refuses refuses => exact .refuses (refuses_both_second takes refuses)
      | takes split takesSecond passed =>
          subst split
          exact .takes (List.append_assoc _ _ _) (takes_both takes takesSecond)
            passed

theorem scans_andThen {first : Parser R α} {second : Parser R β}
    {passes : Passing β}
    (scans : first.Scans rules rest fun text after _ =>
      second.Scans rules after fun further later right =>
        passes (text ++ further) later right) :
    (first.andThen second).Scans rules rest passes :=
  scans_map (scans_both scans)

theorem scans_skip {first : Parser R α} {second : Parser R β}
    (scans : first.Scans rules rest fun text after left =>
      second.Scans rules after fun further later _ =>
        passes (text ++ further) later left) :
    (first.skip second).Scans rules rest passes :=
  scans_map (scans_both scans)

theorem scans_orElse {first second : Parser R α}
    (scansFirst : first.Scans rules rest passes)
    (scansSecond : first.Refuses rules rest →
      second.Scans rules rest passes) :
    (Parser.orElse first second).Scans rules rest passes := by
  cases scansFirst with
  | takes split takes passed =>
      subst split
      exact .takes rfl (takes_orElse second takes) passed
  | refuses refusesFirst =>
      cases scansSecond refusesFirst with
      | takes split takes passed =>
          subst split
          exact .takes rfl (takes_orElse_second refusesFirst takes) passed
      | refuses refusesSecond =>
          exact .refuses (refuses_orElse refusesFirst refusesSecond)

theorem scans_firstOf {parsers : List (Parser R α)} (nonempty : parsers ≠ [])
    (scans : ∀ parser ∈ parsers, parser.Scans rules rest passes) :
    (firstOf parsers).Scans rules rest passes := by
  cases parsers with
  | nil => exact absurd rfl nonempty
  | cons first others =>
      have scansFirst := scans first List.mem_cons_self
      have scansOthers : ∀ parser ∈ others,
          parser.Scans rules rest passes :=
        fun parser member => scans parser (List.mem_cons_of_mem _ member)
      clear scans nonempty
      rw [firstOf]
      induction others generalizing first with
      | nil => exact scansFirst
      | cons second others inductiveStep =>
          apply inductiveStep
          · exact scans_orElse scansFirst fun _ =>
              scansOthers second List.mem_cons_self
          · exact fun parser member =>
              scansOthers parser (List.mem_cons_of_mem _ member)

/-! ## Repetition -/

/-- Texts in a row, each of which passes before all that follows it. -/
inductive Rows (passes : Passing α) : Passing (List α) where
  | nil {after : List Char} : Rows passes [] after []
  | cons {text further after : List Char} {value : α} {values : List α}
      (first : passes text (further ++ after) value)
      (others : Rows passes further after values) :
      Rows passes (text ++ further) after (value :: values)

/-- A repetition never refuses.  The induction is on how much is left, which
every item lessens. -/
theorem exists_takes_many {item : Parser R α}
    (scans : ∀ further, further.length ≤ rest.length →
      item.Scans rules further passes)
    (consumes : ∀ text after value, passes text after value → text ≠ []) :
    ∃ text after values, text ++ after = rest ∧
      (many item).Takes rules text after values ∧
      Rows passes text after values ∧ item.Refuses rules after := by
  induction length : rest.length using Nat.strong_induction_on
    generalizing rest with
  | _ size inductiveStep =>
      cases scans rest (Nat.le_refl _) with
      | refuses refuses =>
          exact ⟨[], rest, [], rfl, takes_many_nil refuses, .nil, refuses⟩
      | @takes text after value split takes passed =>
          subst split
          have some : 0 < text.length :=
            List.length_pos_iff.mpr (consumes _ _ _ passed)
          rw [List.length_append] at scans length
          have scansAfter : ∀ further, further.length ≤ after.length →
              item.Scans rules further passes :=
            fun further within => scans further (by omega)
          rcases inductiveStep after.length (by omega) scansAfter rfl with
            ⟨further, later, values, split, takesMore, rows, refuses⟩
          subst split
          exact ⟨text ++ further, later, value :: values,
            List.append_assoc _ _ _, takes_many_cons takes takesMore,
            .cons passed rows, refuses⟩

theorem scans_many {item : Parser R α}
    (scans : ∀ further, further.length ≤ rest.length →
      item.Scans rules further passes)
    (consumes : ∀ text after value, passes text after value → text ≠ []) :
    (many item).Scans rules rest fun text after values =>
      Rows passes text after values ∧ item.Refuses rules after := by
  rcases exists_takes_many scans consumes with
    ⟨text, after, values, split, takes, passed⟩
  exact .takes split takes passed

theorem scans_sepBy {item : Parser R α} {separator : Parser R β}
    {passes : Passing (List α)}
    (items : (Parser.both item (many (separator.andThen item))).Scans rules rest
      fun text after values => passes text after (values.1 :: values.2))
    (nothing : passes [] rest []) :
    (sepBy item separator 0 none).Scans rules rest passes :=
  scans_orElse (scans_map items) fun _ => scans_success nothing

/-! ## Runs of characters -/

open Regex (CharSet Term)

/-- A pattern that repeats a set takes the longest run of its characters. -/
theorem scans_run {members : CharSet} {min : Nat} {pattern : Pattern}
    {passes : Passing String} (few : min ≤ 1)
    (regex : pattern.regex = .repetition (.set members) min none true)
    (passed : ∀ run after, run ++ after = rest → members.Covers run →
      min ≤ run.length → members.StopsAt after →
      passes run after (String.ofList run)) :
    (matching pattern (.number 0) : Parser R String).Scans rules rest
      passes := by
  rcases members.exists_run rest with ⟨run, after, rfl, covers, stops⟩
  by_cases enough : min ≤ run.length
  · refine .takes rfl (takes_matching ?_)
      (passed run after rfl covers enough stops)
    rw [regex]
    refine Regex.prefers_repetition ?_ ?_ stops
    · nofun
    · exact CharSet.mem_language_repetition_iff.mpr ⟨covers, enough, nofun⟩
  · have positive : 0 < min := by omega
    have nothing : run = [] := List.length_eq_zero_iff.mp (by omega)
    subst nothing
    refine .refuses (refuses_matching ?_)
    rw [regex]
    exact Regex.refuses_repetition positive stops

end

end OrderedChoice.Parser
