import OrderedChoice.Proofs.Sexpr.Grammar

/-!
# Numbers that do not fit

Digits are the start of a word too.  Where they spell a number that does not fit
in 64 bits, the parser for numbers gives them back and the choice goes on to the
parser for symbols, which takes them.  So such a text is accepted, with a symbol
that starts with a digit.

This is the only way to such a symbol: digits of a number that fits are never
read as one.
-/

namespace OrderedChoice.Sexpr

open OrderedChoice.Parser
open OrderedChoice.Regex (CharSet)

/-! ## What is read -/

/-- Expressions whose numbers fit and whose symbols are words that are no numbers
that fit. -/
inductive Fitting : Sexpr → Prop where
  | bool (value : Bool) : Fitting (.bool value)
  | number {value : Nat} (fits : value ≤ maximumNumber) :
      Fitting (.number value)
  | symbol {name : String} (isWord : Word name.toList) : Fitting (.symbol name)
  | list {values : List Sexpr} (items : ∀ value ∈ values, Fitting value) :
      Fitting (.list values)

theorem fitting_quoteForm {value : Sexpr} (fitting : Fitting value) :
    Fitting (quoteForm value) := by
  have quote : Word "quote".toList := word_of_noDigit (by decide)
    (CharSet.covers_iff_all.mpr rfl) (CharSet.stopsAt_cons_iff.mpr rfl)
  apply Fitting.list
  simp only [List.forall_mem_cons]
  exact ⟨.symbol quote, fitting, nofun⟩

/-- Everything that a part denotes is fitting. -/
def Part.Fits : ∀ {α : Type}, Part α → α → Prop
  | _, .expression, value => Fitting value
  | _, .sequence, values => ∀ value ∈ values, Fitting value
  | _, .program, values => ∀ value ∈ values, Fitting value

theorem fits_of_derives {α : Type} {part : Part α} {text after : List Char}
    {value : α} (derives : Derives part text after value) :
    part.Fits value := by
  induction derives with
  | true => exact .bool true
  | false => exact .bool false
  | number numeral _ _ => exact .number numeral.le_maximumNumber
  | @symbol word white after isWord _ _ =>
      apply Fitting.symbol
      rw [String.toList_ofList]
      exact isWord
  | list _ _ _ inductiveStep => exact .list inductiveStep
  | quotation _ inductiveStep => exact fitting_quoteForm inductiveStep
  | nil => exact nofun
  | cons _ _ firstStep othersStep =>
      exact List.forall_mem_cons.mpr ⟨firstStep, othersStep⟩
  | program _ _ inductiveStep => exact inductiveStep

/-! ## Words that are read as symbols -/

/-- A word that starts with digits of a number that does not fit. -/
def Oversized (word : List Char) : Prop :=
  ∃ digits more, digits ++ more = word ∧ digits ≠ [] ∧
    digitSet.Covers digits ∧ maximumNumber < Nat.ofDigitChars 10 digits 0 ∧
    wordSet.Covers more

theorem Oversized.word {word : List Char} (oversized : Oversized word) :
    Word word := by
  rcases oversized with ⟨digits, more, rfl, nonempty, covers, exceeds, others⟩
  have isWord := word_of_oversized nonempty covers
    (numberOf?_eq_none_iff.mpr exceeds)
  exact isWord.append others

/-- What can be derived after a part that expressions may follow. -/
def Part.Extends : ∀ {α : Type}, Part α → List Char → List Char → α → Prop
  | _, .expression, _, _, _ => True
  | _, .sequence, text, after, values => ∀ rest later others,
      rest ++ later = after → Derives .sequence rest later others →
      Derives .sequence (text ++ rest) later (values ++ others)
  | _, .program, text, after, values => ∀ rest later others,
      rest ++ later = after → Derives .sequence rest later others →
      Derives .program (text ++ rest) later (values ++ others)

/-- Expressions may follow expressions. -/
theorem extends_of_derives {α : Type} {part : Part α} {text after : List Char}
    {value : α} (derives : Derives part text after value) :
    part.Extends text after value := by
  induction derives with
  | true => trivial
  | false => trivial
  | number => trivial
  | symbol => trivial
  | list => trivial
  | quotation => trivial
  | nil =>
      rintro rest later others rfl derives
      exact derives
  | @cons text rest after value values first _ _ othersStep =>
      rintro further later others rfl derives
      rw [List.append_assoc]
      rw [← List.append_assoc] at first
      exact .cons first (othersStep further later others rfl derives)
  | @program lead text after values ignorable _ inductiveStep =>
      rintro rest later others rfl derives
      rw [List.append_assoc]
      rw [← List.append_assoc] at ignorable
      exact .program ignorable (inductiveStep rest later others rfl derives)

section

variable {before word rest : List Char} {values : List Sexpr}
  (derives : Derives .program before (word ++ rest) values)
  (isWord : Word word) (ends : wordSet.StopsAt rest)

include derives isWord ends

/-- A word after expressions is read as a symbol, whatever follows it. -/
theorem exists_takes_symbol :
    ∃ further left others, further ++ left = rest ∧
      parser.Takes rules (before ++ (word ++ further)) left
        (values ++ .symbol (String.ofList word) :: others) := by
  rcases @exists_takes_ignored Rule rules rest with
    ⟨white, inner, _, rfl, ignorable, bare, _⟩
  rcases exists_takes_sequence bare with
    ⟨more, left, others, rfl, _, sequence, closes⟩
  have symbol := Derives.symbol isWord ends ignorable
  have program := extends_of_derives derives _ left _ (by simp)
    (Derives.cons symbol sequence)
  refine ⟨white ++ more, left, others, List.append_assoc _ _ _, ?_⟩
  rw [← List.append_assoc word]
  exact takes_part program closes

end

/-- Digits that do not fit into a number, after any expressions, are read as a
symbol, with all of the word that they start.  No other symbols start with
digits. -/
theorem oversized_digits_are_symbols (text : List Char) :
    (∀ fuel values,
      (parser.parse rules fuel (.ofCharacters text)).answer =
          .ok (.ok values) → ∀ value ∈ values, Fitting value) ∧
    (∀ fuel values rest,
      (parser.parsePartial rules fuel (.ofCharacters text)).answer =
          .ok (.ok (values, rest)) → ∀ value ∈ values, Fitting value) ∧
    ∀ before word rest values, before ++ (word ++ rest) = text →
      Derives .program before (word ++ rest) values → Oversized word →
      wordSet.StopsAt rest →
      (∃ others left least, ∀ fuel, least ≤ fuel →
        (parser.parsePartial rules fuel (.ofCharacters text)).answer =
          .ok (.ok (values ++ .symbol (String.ofList word) :: others, left))) ∧
      (rest = [] → ∃ least, ∀ fuel, least ≤ fuel →
        (parser.parse rules fuel (.ofCharacters text)).answer =
          .ok (.ok (values ++ [.symbol (String.ofList word)]))) := by
  refine ⟨?_, ?_, ?_⟩
  · intro fuel values parsed
    exact fits_of_derives (derives_of_accepts ⟨fuel, parsed⟩)
  · intro fuel values rest parsed
    rcases (scans_program text).takes_of_parsePartial parsed with
      ⟨_, _, _, derives⟩
    exact fits_of_derives derives
  · rintro before word rest values rfl derives oversized ends
    constructor
    · rcases exists_takes_symbol derives oversized.word ends with
        ⟨further, left, others, rfl, takes⟩
      have parses := eventually_parsePartial_of_takes takes
      rw [List.append_assoc, List.append_assoc] at parses
      exact ⟨others, left, parses⟩
    · rintro rfl
      have symbol := Derives.symbol oversized.word ends .nil
      have program := extends_of_derives derives _ [] _ (by simp)
        (Derives.cons symbol .nil)
      simp only [List.append_nil] at program ⊢
      exact (accepts_of_derives program).eventually

/-- One more than the largest number is a symbol. -/
theorem successor_of_maximum_read :
    let text := "a 9223372036854775808".toList
    let values : List Sexpr := [.symbol "a", .symbol "9223372036854775808"]
    (∃ least, ∀ fuel, least ≤ fuel →
      (parser.parse rules fuel (.ofCharacters text)).answer =
        .ok (.ok values)) ∧
      (∃ others left least, ∀ fuel, least ≤ fuel →
        (parser.parsePartial rules fuel (.ofCharacters text)).answer =
          .ok (.ok (values ++ others, left))) ∧
      ∀ value ∈ values, Fitting value := by
  intro text values
  have first : Word "a".toList := word_of_noDigit (by decide)
    (CharSet.covers_iff_all.mpr rfl) (CharSet.stopsAt_cons_iff.mpr rfl)
  have symbol : Derives .expression "a ".toList "9223372036854775808".toList
      (.symbol "a") :=
    .symbol first (CharSet.stopsAt_cons_iff.mpr (by decide))
      (.blank (by decide) .nil)
  have before : Derives .program "a ".toList
      ("9223372036854775808".toList ++ []) [.symbol "a"] :=
    .program .nil (.cons symbol .nil)
  have oversized : Oversized "9223372036854775808".toList :=
    ⟨_, [], List.append_nil _, by decide, CharSet.covers_iff_all.mpr rfl,
      by decide, nofun⟩
  rcases oversized_digits_are_symbols text with ⟨whole, _, symbols⟩
  rcases symbols "a ".toList _ [] _ rfl before oversized CharSet.stopsAt_nil with
    ⟨⟨others, left, partly⟩, wholly⟩
  rcases wholly rfl with ⟨least, parses⟩
  exact ⟨⟨least, parses⟩, ⟨others, left, partly⟩,
    whole least _ (parses least (Nat.le_refl least))⟩

end OrderedChoice.Sexpr
