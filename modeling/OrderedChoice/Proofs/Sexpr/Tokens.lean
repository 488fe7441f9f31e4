import OrderedChoice.Grammar.Sexpr
import OrderedChoice.Parser.Characters
import OrderedChoice.Proofs.Parser.Scans
import OrderedChoice.Proofs.Regex.Size

/-!
# Tokens of programs

White space and comments stand after every token.  A comment goes on to the end
of its line, so whether a text is ignored depends on what follows it, and so
does where digits and words end.  Each of these is described together with what
follows, and is taken as far as it goes.

Digits that do not fit into a number are no number.  More digits only make the
number larger, so they do not fit either.
-/

namespace OrderedChoice.Sexpr

open OrderedChoice.Parser
open OrderedChoice.Regex (CharSet Term)

/-! ## The pattern of symbols -/

/-- The pattern for symbols is what its text says.  Its set is put together from
the largest tables, and is not too large for all that. -/
theorem ofText_symbolPattern :
    (Pattern.ofText symbolPattern.text).toOption = some symbolPattern := by
  have few : (CharSet.union .word (.single 0x2D)).edges.length ≤ 5648 := by
    have combined := Unicode.Edges.length_combine_le (· || ·)
      Regex.wordValues.edges (CharSet.single 0x2D).edges
    have word := Regex.length_wordEdges_le
    have hyphen : (CharSet.single 0x2D).edges.length = 2 := rfl
    rw [CharSet.edges, CharSet.edges, Unicode.Edges.union]
    omega
  have fits : symbolPattern.regex.fits = true := by
    refine Term.fits_run Nat.one_pos (fun _ none => by cases none) ?_ true
    generalize (CharSet.union .word (.single 0x2D)).edges.length = count at few
    omega
  rw [Pattern.ofText, read?_symbolPattern]
  simp only [fits, if_true]
  rfl

/-! ## How texts start -/

/-- What comes first of one text, if anything does, comes first of another. -/
def StartsLike (text other : List Char) : Prop :=
  ∀ character ∈ text.head?, character ∈ other.head?

namespace StartsLike

variable {text other : List Char}

theorem nil (text : List Char) : StartsLike [] text := nofun

theorem of_ne_nil (nonempty : text ≠ []) (after later : List Char) :
    StartsLike (text ++ after) (text ++ later) := by
  cases text with
  | nil => exact absurd rfl nonempty
  | cons start text => exact fun _ first => first

theorem append (like : StartsLike text other) (before : List Char) :
    StartsLike (before ++ text) (before ++ other) := by
  cases before with
  | nil => exact like
  | cons start before => exact of_ne_nil (List.cons_ne_nil _ _) _ _

theorem stopsAt {members : CharSet} (like : StartsLike text other)
    (stops : members.StopsAt other) : members.StopsAt text :=
  fun character first => stops character (like character first)

end StartsLike

/-! ## What is ignored -/

/-- Characters within a line. -/
def lineSet : CharSet := .complement (.single 0x0A)

/-- White space and comments.  A comment ends with its line, or with the whole
text. -/
inductive Ignorable : List Char → List Char → Prop where
  | nil {after : List Char} : Ignorable [] after
  | blank {character : Char} {text after : List Char}
      (isWhite : isBlank character = true) (others : Ignorable text after) :
      Ignorable (character :: text) after
  | comment {line text after : List Char} (within : lineSet.Covers line)
      (ends : lineSet.StopsAt (text ++ after))
      (others : Ignorable text after) :
      Ignorable (';' :: line ++ text) after

/-- Nothing that a text starts with is ignored. -/
def Bare (text : List Char) : Prop :=
  CharSet.space.StopsAt text ∧ (CharSet.single 0x3B).StopsAt text

theorem bare_nil : Bare [] := ⟨CharSet.stopsAt_nil, CharSet.stopsAt_nil⟩

theorem bare_cons_iff {character : Char} {text : List Char} :
    Bare (character :: text) ↔
      isBlank character = false ∧ character ≠ ';' := by
  rw [Bare, CharSet.stopsAt_cons_iff, CharSet.stopsAt_cons_iff]
  apply and_congr Iff.rfl
  rw [← Bool.not_eq_true]
  exact not_congr (CharSet.contains_single_char : _ ↔ character = ';')

theorem Bare.append {text after : List Char} (bare : Bare text)
    (bareAfter : Bare after) : Bare (text ++ after) :=
  ⟨CharSet.stopsAt_append bare.1 bareAfter.1,
    CharSet.stopsAt_append bare.2 bareAfter.2⟩

theorem Bare.append_of_ne_nil {text : List Char} (bare : Bare text)
    (nonempty : text ≠ []) (after : List Char) : Bare (text ++ after) := by
  cases text with
  | nil => exact absurd rfl nonempty
  | cons character text => exact bare_cons_iff.mpr (bare_cons_iff.mp bare)

namespace Ignorable

variable {text others after later further : List Char}

theorem of_blank (isWhite : CharSet.space.Covers text)
    (ignorable : Ignorable others after) : Ignorable (text ++ others) after := by
  induction text with
  | nil => exact ignorable
  | cons character text inductiveStep =>
      rcases CharSet.covers_cons_iff.mp isWhite with ⟨first, rest⟩
      exact .blank first (inductiveStep rest)

/-- Only what comes first of what follows matters. -/
theorem recontext (ignorable : Ignorable text after)
    (like : StartsLike later after) : Ignorable text later := by
  induction ignorable with
  | nil => exact .nil
  | blank isWhite _ inductiveStep => exact .blank isWhite (inductiveStep like)
  | comment within ends _ inductiveStep =>
      exact .comment within ((like.append _).stopsAt ends) (inductiveStep like)

/-- What is ignored up to where nothing more is has everything in it that is
ignored from the same place. -/
theorem isPrefix (ignorable : Ignorable text after)
    (longest : Ignorable others later) (bare : Bare later)
    (same : text ++ further = others ++ later) : text <+: others := by
  induction ignorable generalizing others with
  | nil => exact List.nil_prefix
  | @blank character text after isWhite _ inductiveStep =>
      cases longest with
      | nil =>
          rw [List.nil_append, List.cons_append] at same
          subst same
          rw [(bare_cons_iff.mp bare).1] at isWhite
          cases isWhite
      | blank _ ignorableToo =>
          rw [List.cons_append, List.cons_append, List.cons.injEq] at same
          rcases same with ⟨rfl, same⟩
          exact (List.cons_prefix_cons).mpr ⟨rfl, inductiveStep ignorableToo same⟩
      | comment =>
          rw [List.cons_append, List.cons_append, List.cons_append,
            List.cons.injEq] at same
          rw [same.1] at isWhite
          exact absurd isWhite (by decide)
  | @comment line text after within ends _ inductiveStep =>
      cases longest with
      | nil =>
          rw [List.nil_append, List.cons_append, List.cons_append] at same
          subst same
          exact absurd rfl (bare_cons_iff.mp bare).2
      | blank isWhite =>
          rw [List.cons_append, List.cons_append, List.cons_append,
            List.cons.injEq] at same
          rw [← same.1] at isWhite
          exact absurd isWhite (by decide)
      | @comment longer rest _ withinToo endsToo ignorableToo =>
          simp only [List.cons_append, List.append_assoc, List.cons.injEq,
            true_and] at same
          rcases List.append_eq_append_iff.mp same with
            ⟨more, rfl, remains⟩ | ⟨more, rfl, remains⟩
          · cases more with
            | nil =>
                rw [List.append_nil, List.prefix_append_right_inj]
                exact inductiveStep ignorableToo remains
            | cons start more =>
                -- The comment only goes on where the text was cut off in it.
                have inLine := withinToo start (by simp)
                cases text with
                | nil => exact ⟨start :: more ++ rest, by simp⟩
                | cons first text =>
                    rw [List.cons_append, List.cons_append,
                      List.cons.injEq] at remains
                    rw [← remains.1, CharSet.stopsAt_cons_iff.mp ends] at inLine
                    cases inLine
          · cases more with
            | nil =>
                rw [List.append_nil, List.prefix_append_right_inj]
                exact inductiveStep ignorableToo remains.symm
            | cons start more =>
                have inLine := within start (by simp)
                rw [remains, List.cons_append,
                  CharSet.stopsAt_cons_iff] at endsToo
                rw [endsToo] at inLine
                cases inLine

end Ignorable

section

variable {R : Type → Type} {rules : Rules R} {α : Type}
  {text white after rest : List Char}

/-! ### The parser -/

/-- The parser for a stretch of white space or a comment. -/
def ignoredPiece : Parser R String :=
  .orElse (matching blankPattern (.number 0))
    (matching commentPattern (.number 0))

/-- A piece of what is ignored, before the rest of it. -/
def Ignorable.Piece : Passing String := fun text after _ =>
  text ≠ [] ∧ ∀ others later, others ++ later = after →
    Ignorable others later → Ignorable (text ++ others) later

/-- A piece is taken just where something is ignored. -/
theorem ignoredPiece_cases (rest : List Char) :
    (∃ text after value, text ++ after = rest ∧
      (ignoredPiece : Parser R String).Takes rules text after value ∧
      Ignorable.Piece text after value) ∨
    (Bare rest ∧ (ignoredPiece : Parser R String).Refuses rules rest) := by
  rcases CharSet.space.exists_run rest with ⟨run, after, rfl, covers, stops⟩
  cases run with
  | cons character run =>
      left
      refine ⟨character :: run, after, _, rfl, takes_orElse _
        (takes_matching (Regex.prefers_repetition ?_ ?_ stops)),
        List.cons_ne_nil _ _, ?_⟩
      · nofun
      · exact CharSet.mem_language_repetition_iff.mpr
          ⟨covers, Nat.le_add_left 1 _, nofun⟩
      · exact fun others later _ ignorable => ignorable.of_blank covers
  | nil =>
      have notBlank : (matching blankPattern (.number 0) :
          Parser R String).Refuses rules after :=
        refuses_matching (Regex.refuses_repetition Nat.one_pos stops)
      cases after with
      | nil =>
          right
          refine ⟨bare_nil, refuses_orElse notBlank (refuses_matching ?_)⟩
          exact Regex.Step.refuses_andThen _
            (Regex.refuses_setStep CharSet.stopsAt_nil)
      | cons character after =>
          by_cases isMark : character = ';'
          · subst isMark
            left
            rcases lineSet.exists_run after with
              ⟨line, further, rfl, within, ends⟩
            have prefers : commentPattern.regex.step.Prefers
                ([';'] ++ line) further := by
              apply Regex.Step.prefers_andThen
              · exact Regex.prefers_setStep rfl _
              · refine Regex.prefers_repetition ?_ ?_ ends
                · nofun
                · exact CharSet.mem_language_repetition_iff.mpr
                    ⟨within, Nat.zero_le _, nofun⟩
            refine ⟨';' :: line, further, _, rfl,
              takes_orElse_second notBlank (takes_matching prefers),
              List.cons_ne_nil _ _, ?_⟩
            rintro others later rfl ignorable
            exact .comment within ends ignorable
          · right
            have bare : Bare (character :: after) :=
              bare_cons_iff.mpr ⟨CharSet.stopsAt_cons_iff.mp stops, isMark⟩
            refine ⟨bare, refuses_orElse notBlank (refuses_matching ?_)⟩
            exact Regex.Step.refuses_andThen _ (Regex.refuses_setStep bare.2)

/-- What is ignored is taken as far as it goes. -/
theorem exists_takes_ignored (rest : List Char) :
    ∃ white after value, white ++ after = rest ∧ Ignorable white after ∧
      Bare after ∧ (ignored : Parser R String).Takes rules white after value := by
  have scans : ∀ further : List Char, further.length ≤ rest.length →
      (ignoredPiece : Parser R String).Scans rules further
        Ignorable.Piece := by
    intro further _
    rcases ignoredPiece_cases further with
      ⟨text, after, value, split, takes, piece⟩ | ⟨_, refuses⟩
    · exact .takes split takes piece
    · exact .refuses refuses
  rcases exists_takes_many scans fun _ _ _ piece => piece.1 with
    ⟨white, after, values, split, takes, rows, refuses⟩
  have bare : Bare after := by
    rcases @ignoredPiece_cases R rules after with
      ⟨text, later, value, rfl, takesMore, _⟩ | ⟨bare, _⟩
    · exact absurd refuses takesMore.not_refuses
    · exact bare
  refine ⟨white, after, String.join values, split, ?_, bare,
    takes_map String.join takes⟩
  clear takes split scans refuses
  induction rows with
  | nil => exact .nil
  | cons first _ inductiveStep =>
      exact first.2 _ _ rfl (inductiveStep bare)

/-- What is ignored is taken, if nothing more is ignored after it. -/
theorem takes_ignored (ignorable : Ignorable white after) (bare : Bare after) :
    ∃ value, (ignored : Parser R String).Takes rules white after value := by
  rcases @exists_takes_ignored R rules (white ++ after) with
    ⟨taken, later, value, split, ignorableToo, bareToo, takes⟩
  have forward := ignorable.isPrefix ignorableToo bareToo split.symm
  have backward := ignorableToo.isPrefix ignorable bare split
  have same : white = taken :=
    forward.eq_of_length_le backward.length_le
  subst same
  rw [List.append_cancel_left split] at takes
  exact ⟨value, takes⟩


/-- Of what follows what is ignored, more may be ignored with it, as far as it
goes. -/
theorem Ignorable.extend (ignorable : Ignorable white []) (after : List Char) :
    ∃ further later, further ++ later = after ∧
      Ignorable (white ++ further) later ∧ Bare later := by
  rcases @exists_takes_ignored Rule rules (white ++ after) with
    ⟨taken, later, _, split, ignorableToo, bare, _⟩
  rcases ignorable.isPrefix ignorableToo bare split.symm with ⟨further, rfl⟩
  rw [List.append_assoc] at split
  exact ⟨further, later, List.append_cancel_left split, ignorableToo, bare⟩

theorem takes_lexeme {parser : Parser R α} {value : α}
    (takes : parser.Takes rules text (white ++ after) value)
    (ignorable : Ignorable white after) (bare : Bare after) :
    (lexeme parser).Takes rules (text ++ white) after value := by
  rcases takes_ignored ignorable bare with ⟨_, takesWhite⟩
  exact takes_skip takes takesWhite

theorem refuses_lexeme {parser : Parser R α}
    (refuses : parser.Refuses rules rest) :
    (lexeme parser).Refuses rules rest :=
  refuses_skip _ refuses

theorem scans_lexeme {parser : Parser R α} {passes : Passing α}
    (scans : parser.Scans rules rest fun text after value =>
      ∀ white later, white ++ later = after → Ignorable white later →
        Bare later → passes (text ++ white) later value) :
    (lexeme parser).Scans rules rest passes := by
  apply scans_skip
  apply scans.imp
  intro text after value _ passed
  rcases exists_takes_ignored after with
    ⟨white, later, value, split, ignorable, bare, takes⟩
  exact .takes split takes (passed white later split ignorable bare)

end

/-! ## Digits and words -/

/-- Decimal digits of ASCII. -/
def digitSet : CharSet := .range 0x30 0x39

/-- Characters of words. -/
def wordSet : CharSet := .union .word (.single 0x2D)

/-- Digits that spell a number. -/
structure Numeral (digits : List Char) (value : Nat) : Prop where
  nonempty : digits ≠ []
  covers : digitSet.Covers digits
  fits : numberOf? digits = some value

/-- Words that are no numbers: digits that one starts with, if any, do not
fit. -/
structure Word (word : List Char) : Prop where
  nonempty : word ≠ []
  covers : wordSet.Covers word
  oversized : ∀ digits rest, digits ++ rest = word → digits ≠ [] →
    digitSet.Covers digits → digitSet.StopsAt rest → numberOf? digits = none

theorem word_of_digit {value : Nat} (isDigit : digitSet.contains value = true) :
    wordSet.contains value = true := by
  rw [digitSet, CharSet.contains_range] at isDigit
  apply CharSet.contains_union.mpr (Or.inl ?_)
  have ascii : value < 0x80 := by omega
  rw [CharSet.contains, Regex.isWord, if_pos ascii, Regex.isAsciiWord]
  simp [isDigit]

theorem covers_word_of_digits {digits : List Char}
    (covers : digitSet.Covers digits) : wordSet.Covers digits :=
  fun character member => word_of_digit (covers character member)

/-- Where no word goes on, no digits do. -/
theorem digitSet_stopsAt {rest : List Char} (stops : wordSet.StopsAt rest) :
    digitSet.StopsAt rest := by
  intro character first
  by_contra isDigit
  have inWord := word_of_digit (Bool.eq_true_of_not_eq_false isDigit)
  rw [stops character first] at inWord
  cases inWord

/-- White space is in no word. -/
theorem wordSet_apart_space : wordSet.Apart .space := by
  intro value inWord isWhite
  have outside : ∀ range ∈ Unicode.Property.whiteSpaceRanges,
      ∀ distance ≤ range.2 - range.1,
        wordSet.contains (range.1 + distance) = false := by decide +kernel
  rcases List.any_eq_true.mp isWhite with ⟨range, listed, between⟩
  simp only [Bool.and_eq_true, decide_eq_true_eq] at between
  have found := outside range listed (value - range.1)
    (Nat.sub_le_sub_right between.2 _)
  rw [Nat.add_sub_cancel' between.1, inWord] at found
  cases found

/-- A letter that belongs to no word. -/
theorem wordSet_apart {letter : Nat} (outside : wordSet.contains letter = false) :
    wordSet.Apart (.single letter) := by
  intro value inWord isLetter
  rw [CharSet.contains_single.mp isLetter, outside] at inWord
  cases inWord

section

variable {text : List Char} (nonempty : text ≠ [])
  (covers : wordSet.Covers text) (after : List Char)

include nonempty covers

/-- Nothing apart from words starts like one. -/
theorem stopsAt_word {members : CharSet} (apart : wordSet.Apart members) :
    members.StopsAt (text ++ after) := by
  apply CharSet.stopsAt_of_starts after ?_ apart
  rcases List.exists_cons_of_ne_nil nonempty with ⟨character, others, rfl⟩
  exact ⟨character, others, rfl, (CharSet.covers_cons_iff.mp covers).1⟩

theorem stopsAt_mark {mark : Nat} (outside : wordSet.contains mark = false) :
    (CharSet.single mark).StopsAt (text ++ after) :=
  stopsAt_word nonempty covers after (wordSet_apart outside)

theorem bare_word : Bare (text ++ after) :=
  ⟨stopsAt_word nonempty covers after wordSet_apart_space,
    stopsAt_mark nonempty covers after (by decide)⟩

end

/-- No word goes on where something is ignored. -/
theorem Ignorable.stopsAt_word {white after : List Char}
    (ignorable : Ignorable white after) (nonempty : white ≠ [])
    (later : List Char) : wordSet.StopsAt (white ++ later) := by
  cases ignorable with
  | nil => exact absurd rfl nonempty
  | blank isWhite =>
      apply CharSet.stopsAt_cons_iff.mpr
      by_contra inWord
      exact wordSet_apart_space _ (Bool.eq_true_of_not_eq_false inWord) isWhite
  | comment => exact CharSet.stopsAt_cons_iff.mpr (by decide)

theorem numberOf?_eq (digits : List Char) :
    numberOf? digits =
      if Nat.ofDigitChars 10 digits 0 ≤ maximumNumber then
        some (Nat.ofDigitChars 10 digits 0)
      else none := by
  rw [numberOf?, Nat.ofDigitChars_eq_foldl]
  simp only [Nat.mul_comm]

theorem numberOf?_eq_none_iff {digits : List Char} :
    numberOf? digits = none ↔
      maximumNumber < Nat.ofDigitChars 10 digits 0 := by
  rw [numberOf?_eq, ite_eq_right_iff, ← Nat.not_le]
  simp

theorem le_ofDigitChars (digits : List Char) (start : Nat) :
    start ≤ Nat.ofDigitChars 10 digits start := by
  induction digits generalizing start with
  | nil => rw [Nat.ofDigitChars_nil]
  | cons digit digits inductiveStep =>
      rw [Nat.ofDigitChars_cons]
      have bound := inductiveStep (10 * start + (digit.toNat - '0'.toNat))
      omega

/-- More digits fit no better. -/
theorem numberOf?_append {digits : List Char} (more : List Char)
    (oversized : numberOf? digits = none) :
    numberOf? (digits ++ more) = none := by
  rw [numberOf?_eq_none_iff] at oversized ⊢
  rw [Nat.ofDigitChars_append]
  exact Nat.lt_of_lt_of_le oversized (le_ofDigitChars more _)

theorem Numeral.le_maximumNumber {digits : List Char} {value : Nat}
    (numeral : Numeral digits value) : value ≤ maximumNumber := by
  have fits := numeral.fits
  rw [numberOf?_eq] at fits
  rcases Option.ite_none_right_eq_some.mp fits with ⟨small, spelled⟩
  rw [← Option.some.inj spelled]
  exact small

/-- What starts with no digit is a word if its characters are those of one. -/
theorem word_of_noDigit {word : List Char} (nonempty : word ≠ [])
    (covers : wordSet.Covers word) (noDigit : digitSet.StopsAt word) :
    Word word := by
  refine ⟨nonempty, covers, ?_⟩
  rintro digits rest rfl some coversDigits _
  rcases List.exists_cons_of_ne_nil some with ⟨digit, others, rfl⟩
  have outside := CharSet.stopsAt_cons_iff.mp noDigit
  rw [coversDigits digit List.mem_cons_self] at outside
  cases outside

/-- Digits that do not fit are a word. -/
theorem word_of_oversized {digits : List Char} (nonempty : digits ≠ [])
    (covers : digitSet.Covers digits) (oversized : numberOf? digits = none) :
    Word digits := by
  refine ⟨nonempty, covers_word_of_digits covers, ?_⟩
  rintro run rest rfl _ _ stops
  cases rest with
  | nil =>
      rw [List.append_nil] at oversized
      exact oversized
  | cons character rest =>
      have isDigit := covers character (by simp)
      rw [CharSet.stopsAt_cons_iff.mp stops] at isDigit
      cases isDigit

/-- More of a word is a word, since more digits do not fit either. -/
theorem Word.append {word more : List Char} (isWord : Word word)
    (covers : wordSet.Covers more) : Word (word ++ more) := by
  refine ⟨List.append_ne_nil_of_left_ne_nil isWord.nonempty more,
    CharSet.covers_append_iff.mpr ⟨isWord.covers, covers⟩, ?_⟩
  · intro digits rest split nonempty coversDigits stops
    rcases List.append_eq_append_iff.mp split with
      ⟨others, rfl, rfl⟩ | ⟨others, rfl, rfl⟩
    · cases others with
      | nil =>
          exact isWord.oversized digits [] rfl nonempty coversDigits
            CharSet.stopsAt_nil
      | cons character others =>
          exact isWord.oversized digits (character :: others) rfl nonempty
            coversDigits (CharSet.stopsAt_cons_iff.mpr
              (CharSet.stopsAt_cons_iff.mp stops))
    · apply numberOf?_append
      exact isWord.oversized word [] (List.append_nil _) isWord.nonempty
        (CharSet.covers_append_iff.mp coversDigits).1 CharSet.stopsAt_nil

end OrderedChoice.Sexpr
