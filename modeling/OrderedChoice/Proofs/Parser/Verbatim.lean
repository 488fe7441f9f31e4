import OrderedChoice.Declaration
import OrderedChoice.Parser.Characters
import OrderedChoice.Proofs.Parser.Choice
import OrderedChoice.Proofs.Parser.Patterns

/-!
# Verbatim texts

Some parsers only pick out text: they are put together from leaves whose value
is what they cross, by choices, sequences and repetitions that join values, and
by rules that stand for such parsers.  Whatever they try on the way, the value
they end with is the text between the offset they started from and the one they
stopped at.

These are the parsers that track texts standing for themselves, in the outlook
in which anything suits.  The loops that search for a terminator are the only
ones that need a law of their own here.
-/

namespace OrderedChoice

/-! ## Texts standing for themselves -/

namespace Texts

/-- Every text, standing for itself. -/
def verbatim : Texts String := fun text value => value = String.ofList text

/-- Every character, written as it is. -/
def character : Texts Char := fun text value => text = [value]

/-- A text that stands for itself. -/
theorem verbatim_of_just {text : String} {found : List Char} {value : String}
    (holds : just text.toList text found value) : verbatim found value := by
  rcases holds with ⟨rfl, rfl⟩
  exact String.ofList_toList.symm

theorem verbatim_append {text further : List Char} {value other : String}
    (holds : verbatim text value) (holdsFurther : verbatim further other) :
    verbatim (text ++ further) (value ++ other) := by
  rw [verbatim] at holds holdsFurther ⊢
  rw [holds, holdsFurther, String.ofList_append]

/-- Texts in a row join to the text that they make up. -/
theorem verbatim_of_star {text : List Char} {values : List String}
    (holds : verbatim.Star text values) :
    verbatim text (String.join values) := by
  induction holds with
  | nil => rfl
  | cons first others inductiveStep =>
      rw [String.join_cons]
      exact verbatim_append first inductiveStep

/-- Characters in a row are the text that they make up. -/
theorem verbatim_of_star_character {text values : List Char}
    (holds : character.Star text values) :
    verbatim text (String.ofList values) := by
  have same : text = values := by
    induction holds with
    | nil => rfl
    | cons first others inductiveStep =>
        rw [character] at first
        rw [first, inductiveStep]
        rfl
  rw [same]
  rfl

end Texts

/-! ## Searches -/

namespace Outlook

variable {source : Source} {α β : Type}

/-- A search keeps that texts in a row were crossed since it began, whatever its
terminator does, unless it keeps what that one has read. -/
theorem Tracks.repeatUntilLoop {item : Attempt α} {terminator : Attempt β}
    {texts : Texts α} {keep : Option (β → α)}
    (tracks : (free source).Tracks item texts)
    (closes : ∀ convert ∈ keep, (free source).Tracks terminator
      fun text mark => texts text (convert mark))
    {start index min turns count : Nat} {max : Option Nat} {values : List α}
    {trace : Trace} {result : ParseResult (List α)}
    (crossed : Crosses source start texts.Star index values.reverse)
    (answer : (Attempt.repeatUntilLoop item terminator min max keep turns values
      count trace index).answer = .ok result) :
    (free source).Fits texts.Star start result := by
  have failed : ∀ {offset : Nat} {description : String},
      (free source).Fits texts.Star start
        (.failure offset description : ParseResult (List α)) :=
    .failed (.single trivial)
  induction turns generalizing index values count trace with
  | zero => cases answer
  | succ turns inductiveStep =>
      rw [Attempt.repeatUntilLoop] at answer
      cases ending : (terminator index).answer with
      | error abort => simp [ending] at answer
      | ok found =>
          simp only [ending] at answer
          split at answer
          · -- The terminator counts.
            rename_i after mark accepted
            have succeeded : found.outcome = .success after mark := by
              split at accepted
              · exact accepted
              · cases accepted
            cases keep with
            | none =>
                cases answer
                exact ⟨.none, by rintro _ _ ⟨⟩; exact crossed⟩
            | some convert =>
                cases answer
                have closed := closes convert rfl index crossed.isBoundary
                  (fun _ _ _ => trivial) found ending
                have crosses := closed.crosses after mark succeeded
                exact ⟨.none, by rintro _ _ ⟨⟩; exact crossed.concat crosses⟩
          · split at answer
            · cases answer
              exact failed
            · cases ends : (item index).answer with
              | error abort => simp [ends] at answer
              | ok read =>
                  have fits := tracks index crossed.isBoundary
                    (fun _ _ _ => trivial) read ends
                  rcases read with ⟨outcome, diagnostics⟩
                  simp only [ends] at answer
                  cases outcome with
                  | success next value =>
                      exact inductiveStep
                        (crossed.concat (fits.crosses next value rfl)) answer
                  | failure =>
                      cases answer
                      exact failed

end Outlook

/-! ## Parsers -/

namespace Parser

variable {R : Type → Type} {source : Source} {α β : Type}

section

variable {calls : Calls R} {turns : Nat}

theorem tracks_repeatUntil {item : Parser R α} {terminator : Parser R β}
    {texts : Texts α} {keep : Option (β → α)}
    (tracks : item.Tracks (.free source) calls turns texts)
    (closes : ∀ convert ∈ keep, terminator.Tracks (.free source) calls turns
      fun text mark => texts text (convert mark))
    (min : Nat) (max : Option Nat) :
    (Parser.repeatUntil item terminator min max keep).Tracks (.free source)
      calls turns texts.Star := by
  intro index boundary _ result answer
  rw [attempt] at answer
  refine Outlook.Tracks.repeatUntilLoop tracks closes ?_ answer
  rcases Option.isSome_iff_exists.mp boundary with ⟨rest, remains⟩
  exact ⟨[], rest, remains, rfl, .nil⟩

theorem tracks_testChar (predicate : Char → Bool) (description : String) :
    (testChar predicate description : Parser R Char).Tracks (.free source) calls
      turns .character := by
  intro index boundary
  apply tracksAt_leaf
  intro _
  rw [Primitive.parse, Primitive.parseCharacter]
  split
  · rename_i character after remains
    split
    · refine ⟨.none, ?_⟩
      rintro _ _ ⟨⟩
      exact ⟨[character], after, remains, by simp, rfl⟩
    · exact .failed (.single trivial)
  · exact .failed (.single trivial)

theorem tracks_literal_verbatim (text : String) :
    (literal text : Parser R String).Tracks (.free source) calls turns
      .verbatim :=
  (tracks_literal text fun _ _ => trivial).mono
    fun _ _ => Texts.verbatim_of_just

theorem tracks_oneOfLiterals (texts : List String) :
    (oneOfLiterals texts : Parser R String).Tracks (.free source) calls turns
      .verbatim := by
  intro index boundary
  rw [oneOfLiterals, literalChoice]
  generalize isSorted :
    longestFirst (texts.map fun text => (text, text)) = sorted
  have spelled : ∀ item ∈ sorted, item.2 = item.1 := by
    intro item member
    rw [← isSorted, longestFirst, List.mem_mergeSort] at member
    rcases List.mem_map.mp member with ⟨text, _, rfl⟩
    rfl
  by_cases noLiterals : sorted = []
  · -- Of no literals the choice is a failure.
    subst noLiterals
    exact tracksAt_leaf fun _ => .failed (.single trivial)
  · apply tracksAt_firstOf (by simpa using noLiterals)
    intro parser member
    rcases List.mem_map.mp member with ⟨item, isItem, rfl⟩
    rw [spelled item isItem]
    exact (tracks_result item.1 (tracks_literal item.1 fun _ _ => trivial)).mono
      (fun _ _ => Texts.verbatim_of_just) index boundary

/-- The whole match of a pattern is the text that it crosses. -/
theorem tracks_wholeMatch (compiled : Pattern) :
    (matching compiled (.number 0) : Parser R String).Tracks (.free source)
      calls turns .verbatim := by
  apply (tracks_matching compiled fun _ _ => trivial).mono
  rintro text _ ⟨_, rfl⟩
  rfl

end

/-- Doing without crosses nothing. -/
theorem tracks_optionalOr {outlook : Outlook source} {rules : Rules R}
    {fuel : Nat} {item : Parser R α} {texts : Texts α}
    (tracks : item.Tracks outlook (rules.enter source fuel) fuel texts)
    (value : α) :
    (item.optionalOr value).Tracks outlook (rules.enter source fuel) fuel
      (texts.either (.just [] value)) := by
  cases fuel with
  | zero =>
      -- The one turn of the loop already takes some fuel.
      intro index boundary allows result answer
      simp [optionalOr, optional, attempt, Attempt.map, Attempt.times,
        Attempt.timesLoop, Attempt.reaches, Run.mapResult, Except.map] at answer
  | succ fuel =>
      have same : (item.optionalOr value).answers rules (fuel + 1) source =
          (Parser.orElse item (success value)).answers rules (fuel + 1)
            source := by
        rw [answers_optionalOr (Nat.succ_pos fuel), answers_orElse,
          answers_success]
      intro index boundary allows result answer
      apply tracks_orElse tracks (tracks_success value) index boundary allows
      exact (congrFun same index).symm.trans answer

/-! ## Parsers that pick out text -/

/--
The parsers that pick out text, with rules that are taken to stand for such
parsers.  A terminator that is left standing may be any parser, as it adds
nothing to the value.
-/
inductive Verbatim (copies : R String → Prop) : Parser R String → Prop where
  | literal (text : String) : Verbatim copies (literal text)
  | pattern (compiled : Pattern) :
      Verbatim copies (matching compiled (.number 0))
  | oneOfLiterals (texts : List String) : Verbatim copies (oneOfLiterals texts)
  | whitespace : Verbatim copies whitespace
  | character (predicate : Char → Bool) (description : String) :
      Verbatim copies (.map String.singleton (testChar predicate description))
  | orElse {first second : Parser R String}
      (firstCopies : Verbatim copies first)
      (secondCopies : Verbatim copies second) :
      Verbatim copies (.orElse first second)
  | appendText {first second : Parser R String}
      (firstCopies : Verbatim copies first)
      (secondCopies : Verbatim copies second) :
      Verbatim copies (first.appendText second)
  | optionalOr {item : Parser R String} (itemCopies : Verbatim copies item) :
      Verbatim copies (item.optionalOr "")
  | times {item : Parser R String} (itemCopies : Verbatim copies item)
      (min : Nat) (max : Option Nat) :
      Verbatim copies (concat (.times item min max))
  | takeUntil {item : Parser R String} (itemCopies : Verbatim copies item)
      {β : Type} (terminator : Parser R β) (min : Nat) (max : Option Nat) :
      Verbatim copies (concat (item.takeUntil terminator min max))
  | takeThrough {item terminator : Parser R String}
      (itemCopies : Verbatim copies item)
      (terminatorCopies : Verbatim copies terminator) (min : Nat)
      (max : Option Nat) :
      Verbatim copies (concat (item.takeThrough terminator min max))
  | ref {rule : R String} (ruleCopies : copies rule) :
      Verbatim copies (.ref rule)

end Parser

/-- Rules that are taken to stand for parsers that pick out text do so, as far
as they are defined. -/
def Rules.Verbatim {R : Type → Type} (rules : Rules R)
    (copies : R String → Prop) : Prop :=
  ∀ rule parser, copies rule → rules.definition rule = some parser →
    parser.Verbatim copies

namespace Parser

variable {R : Type → Type} {source : Source} {rules : Rules R}
  {copies : R String → Prop}

/-- The parser for an expression that compiles picks out text. -/
theorem Verbatim.of_pattern {expression : String} {parser : Parser R String}
    (built : Parser.pattern expression = .ok parser) :
    parser.Verbatim copies := by
  rw [Parser.pattern, Engine.Leaves.pattern, Engine.Leaves.patternGroup]
    at built
  split at built
  · cases built
  · rename_i compiled _
    cases built
    exact .pattern compiled

/-- A parser that picks out text tracks what it crosses, if the rules that it
refers to do. -/
theorem Verbatim.tracks {parser : Parser R String}
    (verbatim : parser.Verbatim copies) {fuel : Nat}
    (entered : ∀ rule, copies rule → (Parser.ref rule).Tracks (.free source)
      (rules.enter source fuel) fuel .verbatim) :
    parser.Tracks (.free source) (rules.enter source fuel) fuel .verbatim := by
  have joined : ∀ {list : Parser R (List String)},
      list.Tracks (.free source) (rules.enter source fuel) fuel
        (Texts.Star .verbatim) →
      (concat list).Tracks (.free source) (rules.enter source fuel) fuel
        .verbatim := by
    intro list tracks
    apply (tracks_map String.join tracks).mono
    rintro text _ ⟨values, rfl, holds⟩
    exact Texts.verbatim_of_star holds
  induction verbatim with
  | literal text => exact tracks_literal_verbatim text
  | pattern compiled => exact tracks_wholeMatch compiled
  | oneOfLiterals texts => exact tracks_oneOfLiterals texts
  | whitespace =>
      apply (tracks_map String.ofList
        (tracks_times (tracks_testChar isBlank "whitespace") 1 none)).mono
      rintro text _ ⟨values, rfl, holds⟩
      exact Texts.verbatim_of_star_character holds
  | character predicate description =>
      apply (tracks_map String.singleton
        (tracks_testChar predicate description)).mono
      rintro _ _ ⟨character, rfl, rfl⟩
      exact String.singleton_eq_ofList
  | orElse firstCopies secondCopies firstTracks secondTracks =>
      apply (tracks_orElse firstTracks secondTracks).mono
      intro text value holds
      exact holds.elim id id
  | appendText firstCopies secondCopies firstTracks secondTracks =>
      apply (tracks_map (fun values => values.1 ++ values.2)
        (tracks_both ⟨[], "", rfl⟩ firstTracks secondTracks)).mono
      rintro _ _ ⟨_, rfl, _, _, rfl, holds, holdsFurther⟩
      exact Texts.verbatim_append holds holdsFurther
  | optionalOr itemCopies itemTracks =>
      apply (tracks_optionalOr itemTracks "").mono
      rintro text value (holds | ⟨rfl, rfl⟩)
      · exact holds
      · rfl
  | times itemCopies min max itemTracks =>
      exact joined (tracks_times itemTracks min max)
  | takeUntil itemCopies terminator min max itemTracks =>
      apply joined
      apply tracks_repeatUntil itemTracks
      rintro _ ⟨⟩
  | takeThrough itemCopies terminatorCopies min max itemTracks
      terminatorTracks =>
      apply joined
      apply tracks_repeatUntil itemTracks
      rintro _ ⟨⟩
      exact terminatorTracks
  | ref ruleCopies => exact entered _ ruleCopies

/-- The induction is on how deep rules may nest. -/
theorem tracks_ref_verbatim (rulesCopy : rules.Verbatim copies) (fuel : Nat)
    (rule : R String) (ruleCopies : copies rule) :
    (Parser.ref rule).Tracks (.free source) (rules.enter source fuel) fuel
      .verbatim := by
  induction fuel generalizing rule with
  | zero =>
      intro index boundary allows result answer
      rw [attempt] at answer
      cases answer
  | succ fuel inductiveStep =>
      intro index boundary
      cases defined : rules.definition rule with
      | none =>
          intro allows result answer
          simp [attempt, Rules.enter, defined, Run.stop] at answer
      | some parser =>
          have entered : (Parser.ref rule).attempt source
              (rules.enter source (fuel + 1)) (fuel + 1) =
                parser.attempt source (rules.enter source fuel) fuel := by
            simp only [attempt, Rules.enter, defined]
          have verbatim := rulesCopy rule parser ruleCopies defined
          rw [TracksAt, entered]
          exact verbatim.tracks inductiveStep index boundary

/--
Text is never altered on the way through.  Whatever a parser that picks out text
tries and gives up, with any rules that stand for such parsers, the value that
it reads from a boundary is the text from there to the boundary where it stops.
-/
theorem texts_unaltered (rulesCopy : rules.Verbatim copies)
    {parser : Parser R String} (verbatim : parser.Verbatim copies)
    {index stop : Nat} {value : String}
    (boundary : source.isBoundary index = true)
    (reads : parser.Reads rules source index stop value) :
    index ≤ stop ∧ source.isBoundary stop = true ∧
      value = String.ofList (source.between index stop) := by
  rcases reads with ⟨diagnostics, gives⟩
  have tracks : ∀ fuel, parser.Tracks (.free source) (rules.enter source fuel)
      fuel .verbatim := fun fuel =>
    verbatim.tracks (tracks_ref_verbatim rulesCopy fuel)
  have fits := fits_of_gives tracks boundary (fun _ _ _ => trivial) gives
  have crosses := fits.crosses stop value rfl
  have stopBoundary := crosses.isBoundary
  rcases crosses with ⟨text, after, remains, rfl, rfl⟩
  refine ⟨Nat.le_add_right index _, stopBoundary, ?_⟩
  rw [Source.between_of_rest remains]

/-- Brackets around letters and further brackets, declared before they are
defined, are read from behind a letter of two bytes as they stand. -/
theorem nested_brackets_unaltered :
    let Value : Unit → Type := fun _ => String
    let made := (Store.empty : Store Value).declare ()
    let part : DeclaredParser Value String :=
      .orElse made.1.parser (.map String.singleton letter)
    let brackets :=
      ((literal "(").appendText (concat (many part))).appendText (literal ")")
    let store := made.2.update made.1 brackets
    let source := Source.ofString "é(ß(b))"
    made.2.define made.1 brackets = .ok store ∧
      source.isBoundary 2 = true ∧
      made.1.parser.Reads store.rules source 2 9 "(ß(b))" ∧
      2 ≤ 9 ∧ source.isBoundary 9 = true ∧
      "(ß(b))" = String.ofList (source.between 2 9) := by
  intro Value made part brackets store source
  have refCopies : made.1.parser.Verbatim (· = .declared () made.1.id) :=
    .ref rfl
  have bracketsCopy : brackets.Verbatim (· = .declared () made.1.id) :=
    .appendText (.appendText (.literal "(")
      (.times (.orElse refCopies (.character isLetter "a letter")) 0 none))
      (.literal ")")
  have rulesCopy : store.rules.Verbatim (· = .declared () made.1.id) := by
    rintro _ parser rfl defined
    cases defined
    exact bracketsCopy
  have boundary : source.isBoundary 2 = true := by decide +kernel
  have stops : (made.1.parser.run store.rules 20 source 2).answer.toOption.map
      (·.outcome) = some (.success 9 "(ß(b))") := by
    decide +kernel
  rcases Option.map_eq_some_iff.mp stops with
    ⟨⟨outcome, diagnostics⟩, answered, rfl⟩
  have reads : made.1.parser.Reads store.rules source 2 9 "(ß(b))" :=
    ⟨diagnostics, 20, Run.answer_eq_ok_iff.mpr answered⟩
  exact ⟨rfl, boundary, reads,
    texts_unaltered rulesCopy refCopies boundary reads⟩

end Parser

end OrderedChoice
