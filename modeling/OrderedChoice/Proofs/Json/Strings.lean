import OrderedChoice.Grammar.Json
import OrderedChoice.Proofs.Parser.Patterns

/-!
# Strings of documents

A quoted string is a sequence of pieces between quotation marks: characters
that stand for themselves and escapes.  The parser takes plain characters in
runs as long as possible, but that changes neither what it accepts nor what it
decodes, so its strings are described piece by piece.
-/

namespace OrderedChoice.Json

open OrderedChoice.Parser
open OrderedChoice.Regex (CharSet Term Step)

/-! ## Pieces -/

/-- Characters that stand for themselves. -/
def plainSet : CharSet := .complement (.union (.single 0x22) (.single 0x5C))

/-- Hexadecimal digits. -/
def hexSet : CharSet :=
  .union digitSet (.union (.range 0x61 0x66) (.range 0x41 0x46))

/-- The letters that may follow a backslash, with what they stand for. -/
def letterEscapes : List (Char × Char) :=
  [('\\', '\\'), ('/', '/'), ('"', '"'), ('b', '\x08'), ('f', '\x0C'),
    ('n', '\n'), ('r', '\x0D'), ('t', '\t')]

/-- What may follow a backslash, with the character that it stands for. -/
inductive EscapeText : List Char → Char → Prop where
  | letter {written meant : Char}
      (listed : (written, meant) ∈ letterEscapes) :
      EscapeText [written] meant
  | unicode {digits : List Char} {value : Nat} (four : digits.length = 4)
      (hex : hexSet.Covers digits)
      (scalar : Regex.scalarOfHex? digits = some value) :
      EscapeText ('u' :: digits) (Char.ofNat value)

/-- The inside of a string, with the characters that it stands for. -/
inductive StringText : List Char → List Char → Prop where
  | nil : StringText [] []
  | plain {character : Char} {text characters : List Char}
      (stands : plainSet.contains character.toNat = true)
      (rest : StringText text characters) :
      StringText (character :: text) (character :: characters)
  | escape {piece text characters : List Char} {character : Char}
      (escaped : EscapeText piece character)
      (rest : StringText text characters) :
      StringText ('\\' :: (piece ++ text)) (character :: characters)

namespace StringText

theorem append {text further characters others : List Char}
    (first : StringText text characters) (second : StringText further others) :
    StringText (text ++ further) (characters ++ others) := by
  induction first with
  | nil => exact second
  | plain stands rest inductiveStep => exact .plain stands inductiveStep
  | escape escaped rest inductiveStep =>
      rw [List.cons_append, List.append_assoc, List.cons_append]
      exact .escape escaped inductiveStep

theorem of_covers {text : List Char} (covers : plainSet.Covers text) :
    StringText text text := by
  induction text with
  | nil => exact .nil
  | cons character text inductiveStep =>
      rcases CharSet.covers_cons_iff.mp covers with ⟨stands, coversRest⟩
      exact .plain stands (inductiveStep coversRest)

/-- The plain characters that a string starts with end at an escape or with
the string. -/
theorem split_run {text characters : List Char}
    (holds : StringText text characters) :
    ∃ run rest others, text = run ++ rest ∧ characters = run ++ others ∧
      plainSet.Covers run ∧ StringText rest others ∧
      (rest = [] ∨ ∃ further, rest = '\\' :: further) := by
  induction holds with
  | nil => exact ⟨[], [], [], rfl, rfl, nofun, .nil, Or.inl rfl⟩
  | plain stands rest inductiveStep =>
      rcases inductiveStep with
        ⟨run, left, others, rfl, rfl, covers, leftHolds, ending⟩
      exact ⟨_ :: run, left, others, rfl, rfl,
        CharSet.covers_cons_iff.mpr ⟨stands, covers⟩, leftHolds, ending⟩
  | escape escaped rest _ =>
      exact ⟨[], _, _, rfl, rfl, nofun, .escape escaped rest,
        Or.inr ⟨_, rfl⟩⟩

end StringText

/-- Quoted strings. -/
def stringTexts : Texts String := fun text value =>
  ∃ inner, text = '"' :: (inner ++ ['"']) ∧ StringText inner value.toList

/-- Escapes after their backslash. -/
def escapeTexts : Texts String := fun text value =>
  ∃ character, EscapeText text character ∧
    value = String.singleton character

/-- A solidus can be escaped. -/
theorem solidus_mem_escapeTexts : escapeTexts ['/'] "/" :=
  ⟨'/', .letter (by decide), rfl⟩

/-- A letter can stand for itself. -/
theorem letter_mem_plain_language : ['a'] ∈ plainPattern.regex.language := by
  have covers : plainSet.Covers ['a'] := by
    intro character single
    rw [List.mem_singleton.mp single]
    rfl
  exact CharSet.mem_language_repetition_iff.mpr
    ⟨covers, Nat.le_refl 1, nofun⟩

/-! ## Escapes by number -/

theorem byteLength_of_hex {digits : List Char}
    (hex : hexSet.Covers digits) : byteLength digits = digits.length := by
  induction digits with
  | nil => rfl
  | cons digit digits inductiveStep =>
      rcases CharSet.covers_cons_iff.mp hex with ⟨inSet, hexRest⟩
      have narrow : digit.utf8Size = 1 := by
        rw [Char.utf8Size_eq_one_iff, UInt32.le_iff_toNat_le]
        simp [hexSet, digitSet] at inSet
        show digit.toNat ≤ 127
        omega
      rw [byteLength_cons, inductiveStep hexRest, narrow, List.length_cons,
        Nat.add_comm]

theorem mem_four_hex_iff {digits : List Char} :
    digits ∈ (Term.repetition (.set hexSet) 4 (some 4) true).language ↔
      digits.length = 4 ∧ hexSet.Covers digits := by
  rw [CharSet.mem_language_repetition_iff]
  constructor
  · rintro ⟨hex, enough, within⟩
    have fits := within 4 rfl
    exact ⟨by omega, hex⟩
  · rintro ⟨four, hex⟩
    refine ⟨hex, by omega, ?_⟩
    intro bound limited
    cases limited
    omega

theorem mem_unicode_language_iff {text : List Char} :
    text ∈ unicodePattern.regex.language ↔
      ∃ digits, text = 'u' :: digits ∧ digits.length = 4 ∧
        hexSet.Covers digits := by
  constructor
  · rintro ⟨_, ⟨mark, isMark, rfl⟩, digits, inDigits, rfl⟩
    have mark_eq : mark = 'u' := by
      apply Char.toNat_inj.mp
      exact CharSet.contains_single.mp isMark
    subst mark_eq
    exact ⟨digits, rfl, mem_four_hex_iff.mp inDigits⟩
  · rintro ⟨digits, rfl, fourHex⟩
    exact ⟨['u'], ⟨'u', rfl, rfl⟩, digits, mem_four_hex_iff.mpr fourHex, rfl⟩

variable {R : Type → Type} {source : Source} {index : Nat}
  {digits after rest : List Char}

/-- Group 1 of an escape by number holds its digits. -/
theorem parse_unicodePattern (four : digits.length = 4)
    (hex : hexSet.Covers digits)
    (remains : source.rest index = some ('u' :: (digits ++ after))) :
    (Primitive.pattern unicodePattern fun text => text (.number 1)).parse source
      index = .success (index + 5) (String.ofList digits) := by
  have isMark : (CharSet.single 0x75).contains 'u'.toNat = true := rfl
  have run : (Regex.runStep hexSet 4 (some 4) true).Prefers digits after := by
    apply Regex.prefers_runStep hex
    · rw [four]
    · intro bound limited
      cases limited
      rw [four]
    · exact Or.inl (by rw [four])
  -- The captures of the mark do not matter: group 1 is looked up first.
  rcases Regex.prefers_setStep isMark (digits ++ after)
    ⟨⟨index, source.characterBefore index, 'u' :: (digits ++ after)⟩, []⟩ rfl
    with ⟨middle, markHead, middleRest, middleOffset⟩
  rcases run middle middleRest with ⟨arrival, runHead, _, stops⟩
  have narrow := byteLength_of_hex hex
  have middleIs : middle.offset = index + 1 := middleOffset
  have arrivalIs : arrival.offset = index + 1 + byteLength digits := by
    rw [stops, middleIs]
  have matched : unicodePattern.matchAt source index = some
      ⟨arrival.offset,
        (1, middle.offset, arrival.offset) :: arrival.captures⟩ := by
    rcases List.head?_eq_some_iff.mp markHead with ⟨others, marks⟩
    rw [Pattern.matchAt, Term.matchAt, remains]
    dsimp only
    rw [show unicodePattern.regex.step =
      (Regex.setStep (.single 0x75)).andThen
        (Regex.captureStep 1 (Regex.runStep hexSet 4 (some 4) true)) from rfl,
      Step.andThen, Regex.head?_distinct, List.head?_flatMap, marks,
      List.findSome?_cons, Regex.captureStep, List.head?_map, runHead]
    rfl
  have remainsDigits : source.rest (index + 1) = some (digits ++ after) :=
    Source.rest_add_character remains
  rw [Primitive.parse, Primitive.parsePattern_eq, matched]
  dsimp only
  rw [Pattern.groupText, Engine.groupText, Engine.span?, Regex.Match.span?,
    if_neg Nat.one_ne_zero, List.lookup_cons_self, Option.bind_some, middleIs,
    arrivalIs, Source.slice?_of_rest remainsDigits, narrow, four]

/-! ## Taking -/

section

variable {rules : Rules R} {piece text : List Char} {written : Char}

theorem takes_unicodePattern (four : digits.length = 4)
    (hex : hexSet.Covers digits) (after : List Char) :
    (matching unicodePattern (.number 1) : Parser R String).Takes rules
      ('u' :: digits) after (String.ofList digits) := by
  intro source index remains
  rw [matching, reads_leaf_iff, parse_unicodePattern four hex remains,
    byteLength_cons, byteLength_of_hex hex, four]
  rfl

theorem takes_unicodeEscape {value : Nat} (four : digits.length = 4)
    (hex : hexSet.Covers digits)
    (scalar : Regex.scalarOfHex? digits = some value) (after : List Char) :
    (unicodeEscape : Parser R String).Takes rules ('u' :: digits) after
      (String.singleton (Char.ofNat value)) := by
  apply takes_bind_success (takes_unicodePattern four hex after)
  rw [String.toList_ofList, scalar]

/-- The parsers for the letters after a backslash, in their order. -/
def letterParsers : List (Parser R String) :=
  [literal "\\", literal "/", literal "\"",
    result (literal "b") "\x08", result (literal "f") "\x0C",
    result (literal "n") "\n", result (literal "r") "\x0D",
    result (literal "t") "\t"]

/-- A parser takes one letter as what it stands for and refuses any other. -/
structure ServesLetter (rules : Rules R) (parser : Parser R String)
    (entry : Char × Char) : Prop where
  takes : ∀ after,
    parser.Takes rules [entry.1] after (String.singleton entry.2)
  refuses : ∀ written after, written ≠ entry.1 →
    parser.Refuses rules (written :: after)

theorem servesLetter_literal {text : String} {letter : Char}
    (single : text.toList = [letter]) :
    ServesLetter rules (literal text) (letter, letter) where
  takes := by
    intro after
    have means : text = String.singleton letter := by
      rw [String.singleton_eq_ofList, ← single, String.ofList_toList]
    have takes : (literal text).Takes rules text.toList after text :=
      takes_literal text after
    rw [single] at takes
    rw [← means]
    exact takes
  refuses := by
    intro written after differs
    apply refuses_literal
    rw [single, List.cons_prefix_cons]
    exact fun same => differs same.1.symm

theorem servesLetter_result {text value : String} {letter meant : Char}
    (single : text.toList = [letter])
    (means : value = String.singleton meant) :
    ServesLetter rules (result (literal text) value) (letter, meant) where
  takes := by
    intro after
    subst means
    exact takes_map _ ((servesLetter_literal single).takes after)
  refuses := by
    intro written after differs
    exact refuses_map _
      ((servesLetter_literal single).refuses written after differs)

theorem letterParsers_serve :
    List.Forall₂ (ServesLetter rules) letterParsers letterEscapes :=
  .cons (servesLetter_literal rfl) <|
  .cons (servesLetter_literal rfl) <|
  .cons (servesLetter_literal rfl) <|
  .cons (servesLetter_result rfl rfl) <|
  .cons (servesLetter_result rfl rfl) <|
  .cons (servesLetter_result rfl rfl) <|
  .cons (servesLetter_result rfl rfl) <|
  .cons (servesLetter_result rfl rfl) .nil

/-- Of parsers for different letters those before the right one refuse. -/
theorem exists_serving {parsers : List (Parser R String)}
    {entries : List (Char × Char)} {meant : Char}
    (serve : List.Forall₂ (ServesLetter rules) parsers entries)
    (distinct : (entries.map Prod.fst).Nodup)
    (listed : (written, meant) ∈ entries) (after : List Char) :
    ∃ earlier parser later, parsers = earlier ++ parser :: later ∧
      (∀ other ∈ earlier, other.Refuses rules (written :: after)) ∧
      parser.Takes rules [written] after (String.singleton meant) := by
  induction serve with
  | nil => cases listed
  | cons serves others inductiveStep =>
      rename_i parser entry parsers entries
      rw [List.map_cons, List.nodup_cons] at distinct
      rcases List.mem_cons.mp listed with rfl | listedLater
      · exact ⟨[], parser, parsers, rfl, nofun, serves.takes after⟩
      · have differs : written ≠ entry.1 := by
          rintro rfl
          exact distinct.1 (List.mem_map.mpr ⟨_, listedLater, rfl⟩)
        rcases inductiveStep distinct.2 listedLater with
          ⟨earlier, found, later, rfl, refused, takes⟩
        refine ⟨parser :: earlier, found, later, rfl, ?_, takes⟩
        intro other member
        rcases List.mem_cons.mp member with rfl | inEarlier
        · exact serves.refuses written after differs
        · exact refused other inEarlier

/-- At a letter that has no escape all of them refuse. -/
theorem refuses_of_serving {parsers : List (Parser R String)}
    {entries : List (Char × Char)}
    (serve : List.Forall₂ (ServesLetter rules) parsers entries)
    (unlisted : written ∉ entries.map Prod.fst) (after : List Char) :
    ∀ parser ∈ parsers, parser.Refuses rules (written :: after) := by
  induction serve with
  | nil => exact nofun
  | cons serves others inductiveStep =>
      rw [List.map_cons, List.mem_cons, not_or] at unlisted
      intro parser member
      rcases List.mem_cons.mp member with rfl | inOthers
      · exact serves.refuses written after unlisted.1
      · exact inductiveStep unlisted.2 parser inOthers

theorem escape_eq :
    (escape : Parser R String) =
      (literal "\\").andThen (firstOf (letterParsers ++ [unicodeEscape])) :=
  rfl

theorem takes_escape {character : Char} (escaped : EscapeText piece character)
    (after : List Char) :
    (escape : Parser R String).Takes rules ('\\' :: piece) after
      (String.singleton character) := by
  have mark : (literal "\\").Takes rules ['\\'] (piece ++ after) "\\" :=
    takes_literal "\\" _
  rw [escape_eq]
  apply takes_andThen mark
  cases escaped with
  | letter listed =>
      rcases exists_serving letterParsers_serve (by decide) listed after with
        ⟨earlier, parser, later, split, refused, takes⟩
      rw [split, List.append_assoc, List.cons_append]
      exact takes_firstOf earlier refused takes
  | unicode four hex scalar =>
      exact takes_firstOf letterParsers
        (refuses_of_serving letterParsers_serve (by decide) _)
        (takes_unicodeEscape four hex scalar after)

theorem refuses_escape (differs : ∀ further, rest ≠ '\\' :: further) :
    (escape : Parser R String).Refuses rules rest := by
  apply refuses_andThen
  apply refuses_literal
  rintro ⟨further, same⟩
  exact differs further same.symm

/-- The parser for one piece, a run of plain characters or an escape. -/
def pieceParser : Parser R String :=
  .orElse (matching plainPattern (.number 0)) escape

theorem takes_run {run : List Char} (nonempty : run ≠ [])
    (covers : plainSet.Covers run) (stops : plainSet.StopsAt after) :
    (pieceParser : Parser R String).Takes rules run after
      (String.ofList run) := by
  apply takes_orElse
  apply takes_matching
  have positive : 1 ≤ run.length := List.length_pos_iff.mpr nonempty
  refine Regex.prefers_repetition ?_ ?_ stops
  · nofun
  · exact CharSet.mem_language_repetition_iff.mpr ⟨covers, positive, nofun⟩

/-- At a quotation mark or a backslash no run of plain characters starts. -/
theorem refuses_run (stops : plainSet.StopsAt rest) :
    (matching plainPattern (.number 0) : Parser R String).Refuses rules
      rest :=
  refuses_matching (Regex.refuses_repetition Nat.one_pos stops)

theorem refuses_piece_at_mark (after : List Char) :
    (pieceParser : Parser R String).Refuses rules ('"' :: after) := by
  have stops : plainSet.StopsAt ('"' :: after) :=
    CharSet.stopsAt_cons_iff.mpr rfl
  apply refuses_orElse (refuses_run stops)
  apply refuses_escape
  intro further same
  cases same

theorem takes_piece_escape {character : Char}
    (escaped : EscapeText piece character) (after : List Char) :
    (pieceParser : Parser R String).Takes rules ('\\' :: piece) after
      (String.singleton character) := by
  have stops : plainSet.StopsAt ('\\' :: piece ++ after) :=
    CharSet.stopsAt_cons_iff.mpr rfl
  exact takes_orElse_second (refuses_run stops) (takes_escape escaped after)

/-- A string is taken piece by piece up to its closing mark.  The induction is
on the length of what is left of it, since a run takes many characters at
once. -/
theorem takes_pieces {characters : List Char}
    (holds : StringText text characters) (after : List Char) :
    ∃ values, (many pieceParser : Parser R (List String)).Takes rules text
      ('"' :: after) values ∧ (String.join values).toList = characters := by
  induction length : text.length using Nat.strong_induction_on
    generalizing text characters with
  | _ size inductiveStep =>
    rcases holds.split_run with
      ⟨run, left, others, rfl, rfl, covers, leftHolds, ending⟩
    by_cases empty : run = []
    · subst empty
      cases leftHolds with
      | nil => exact ⟨[], takes_many_nil (refuses_piece_at_mark after), rfl⟩
      | plain stands rest =>
          rcases ending with none | ⟨further, same⟩
          · cases none
          · cases same
            cases stands
      | @escape piece text characters character escaped rest =>
          have shorter : text.length < size := by
            rw [← length]
            simp only [List.nil_append, List.length_cons, List.length_append]
            omega
          rcases inductiveStep text.length shorter rest rfl with
            ⟨values, takes, decoded⟩
          refine ⟨String.singleton character :: values, ?_, ?_⟩
          · have takesAll :=
              takes_many_cons (takes_piece_escape escaped _) takes
            exact takesAll
          · rw [String.toList_join, List.flatMap_cons, ← String.toList_join,
              decoded]
            simp
    · have stops : plainSet.StopsAt (left ++ '"' :: after) := by
        rcases ending with rfl | ⟨further, rfl⟩
        · exact CharSet.stopsAt_cons_iff.mpr rfl
        · exact CharSet.stopsAt_cons_iff.mpr rfl
      have shorter : left.length < size := by
        have positive := List.length_pos_iff.mpr empty
        rw [← length, List.length_append]
        omega
      rcases inductiveStep left.length shorter leftHolds rfl with
        ⟨values, takes, decoded⟩
      refine ⟨String.ofList run :: values, ?_, ?_⟩
      · exact takes_many_cons (takes_run empty covers stops) takes
      · rw [String.toList_join, List.flatMap_cons, ← String.toList_join,
          decoded, String.toList_ofList]

theorem takes_quoted {value : String} (holds : stringTexts text value) :
    (quoted : Parser R String).Takes rules text after value := by
  rcases holds with ⟨inner, rfl, decodes⟩
  rcases takes_pieces decodes after with ⟨values, takes, decoded⟩
  have joined : String.join values = value := by
    rw [← String.toList_inj, decoded]
  have takesContent : (stringContent : Parser R String).Takes rules inner
      (['"'] ++ after) value := by
    rw [← joined]
    exact takes_map String.join takes
  have opened : (literal "\"").Takes rules ['"'] (inner ++ (['"'] ++ after))
      "\"" := takes_literal "\"" _
  have closed : (literal "\"").Takes rules ['"'] after "\"" :=
    takes_literal "\"" _
  exact takes_skip (takes_andThen opened takesContent) closed

end

/-! ## Tracking -/

/-- The spellings of the tokens that are always spelled alike, quotation marks
included. -/
def tokenSpellings : List String :=
  ["\x7b", "\x7d", "[", "]", ",", ":", "\"", "true", "false", "null"]

/-- An outlook in which the grammar names what suits: texts that can come next,
descriptions that are no spellings where something can come next, and the one
failure behind a complete escape. -/
structure Suited (outlook : Outlook source) : Prop where
  spelled : ∀ index text,
    outlook.viable (source.textBefore index ++ text.toList) →
    outlook.suits index text
  described : ∀ index description, description ∉ tokenSpellings →
    outlook.viable (source.textBefore index) →
    outlook.suits index description
  surrogate : ∀ start digits after,
    source.rest start = some ('\\' :: 'u' :: (digits ++ after)) →
    digits.length = 4 → hexSet.Covers digits →
    Regex.scalarOfHex? digits = none →
    outlook.suits (start + 6) "a unicode scalar value"

theorem Suited.free (source : Source) : Suited (Outlook.free source) where
  spelled _ _ _ := trivial
  described _ _ _ _ := trivial
  surrogate _ _ _ _ _ _ _ := trivial

section

variable {outlook : Outlook source} {calls : Calls R} {turns : Nat}
  (suited : Suited outlook)

include suited

/-- Behind a backslash a number of a surrogate is refused after its digits, and
everything else where it starts. -/
theorem tracksAt_unicodeEscape {start : Nat}
    (opened : source.rest start = some ('\\' :: rest)) :
    unicodeEscape.TracksAt outlook calls turns (start + 1) escapeTexts := by
  intro allows result answer
  have viable : outlook.viable (source.textBefore (start + 1)) :=
    Outlook.viable_of_allows allows solidus_mem_escapeTexts
  rw [unicodeEscape, matching, answer_bind_leaf] at answer
  cases matched : unicodePattern.matchAt source (start + 1) with
  | none =>
      rw [Primitive.parse, Primitive.parsePattern_eq, matched] at answer
      cases answer
      exact .failed (.single (suited.described _ _ (by decide) viable))
  | some found =>
      rcases Regex.Term.crossed_of_matchAt matched with
        ⟨crossed, member, after, remains, _⟩
      rcases mem_unicode_language_iff.mp member with ⟨digits, rfl, four, hex⟩
      have openedDigits : source.rest start =
          some ('\\' :: 'u' :: (digits ++ after)) := by
        have moved : source.rest (start + 1) = some rest :=
          Source.rest_add_character opened
        rw [remains] at moved
        rw [opened, ← Option.some.inj moved]
        rfl
      have parsed := parse_unicodePattern four hex remains
      rw [parsed] at answer
      simp only [ParseResult.success, String.toList_ofList] at answer
      cases scalar : Regex.scalarOfHex? digits with
      | none =>
          simp only [scalar] at answer
          cases answer
          have reports : (Diagnostics.single (start + 6)
              "a unicode scalar value").Reports outlook.suits :=
            .single (suited.surrogate start digits after openedDigits four hex
              scalar)
          exact .failed (reports.merge .none)
      | some value =>
          simp only [scalar] at answer
          cases answer
          constructor
          · exact Diagnostics.Reports.none.merge .none
          · intro stop text outcome
            cases outcome
            refine ⟨'u' :: digits, after, remains, ?_, _,
              .unicode four hex scalar, rfl⟩
            rw [byteLength_cons, byteLength_of_hex hex, four]
            rfl

theorem tracks_letterParsers :
    ∀ parser ∈ letterParsers, parser.Tracks outlook calls turns
      escapeTexts := by
  have entry : ∀ (written meant : Char) {text value : String}
      {parser : Parser R String},
      parser.Tracks outlook calls turns (.just text.toList value) →
      text.toList = [written] → value = String.singleton meant →
      (written, meant) ∈ letterEscapes →
      parser.Tracks outlook calls turns escapeTexts := by
    intro written meant text value parser tracks single means listed
    apply tracks.mono
    rintro found _ ⟨rfl, rfl⟩
    rw [single]
    exact ⟨meant, .letter listed, means⟩
  have plain : ∀ text : String, (literal text : Parser R String).Tracks
      outlook calls turns (.just text.toList text) := fun text =>
    tracks_literal text fun index => suited.spelled index text
  have meaning : ∀ text value : String,
      (result (literal text) value : Parser R String).Tracks outlook calls
        turns (.just text.toList value) := fun text value =>
    tracks_result value (plain text)
  simp only [letterParsers, List.forall_mem_cons]
  exact ⟨entry '\\' '\\' (plain "\\") rfl rfl (by decide),
    entry '/' '/' (plain "/") rfl rfl (by decide),
    entry '"' '"' (plain "\"") rfl rfl (by decide),
    entry 'b' '\x08' (meaning "b" "\x08") rfl rfl (by decide),
    entry 'f' '\x0C' (meaning "f" "\x0C") rfl rfl (by decide),
    entry 'n' '\n' (meaning "n" "\n") rfl rfl (by decide),
    entry 'r' '\x0D' (meaning "r" "\x0D") rfl rfl (by decide),
    entry 't' '\t' (meaning "t" "\t") rfl rfl (by decide), nofun⟩

/-- The inside of a string, standing for a text. -/
def contentTexts : Texts String := fun text value =>
  StringText text value.toList

theorem tracks_escape : escape.Tracks outlook calls turns contentTexts := by
  have alternatives : ∀ {start : Nat} {rest : List Char},
      source.rest start = some ('\\' :: rest) →
      (firstOf (letterParsers ++ [unicodeEscape])).TracksAt outlook calls turns
        (start + 1) escapeTexts := by
    intro start rest opened
    apply tracksAt_firstOf
    · nofun
    · intro parser member
      rcases List.mem_append.mp member with inLetters | isLast
      · apply tracks_letterParsers suited parser inLetters
        exact Source.isBoundary_of_rest (Source.rest_add_character opened)
      · rw [List.mem_singleton.mp isLast]
        exact tracksAt_unicodeEscape suited opened
  have inhabited : ∃ text value, escapeTexts text value :=
    ⟨['/'], "/", solidus_mem_escapeTexts⟩
  have mark : (literal "\\" : Parser R String).Tracks outlook calls turns
      (.just ['\\'] "\\") :=
    tracks_literal "\\" fun index => suited.spelled index "\\"
  have both : (Parser.both (literal "\\")
      (firstOf (letterParsers ++ [unicodeEscape]))).Tracks outlook calls turns
        (Texts.both (.just ['\\'] "\\") escapeTexts) := by
    intro index boundary
    apply tracksAt_both inhabited (mark index boundary)
    rintro _ _ ⟨_, after, remains, rfl, rfl, rfl⟩
    exact alternatives remains
  apply (tracks_map Prod.snd both).mono
  rintro text _ ⟨⟨_, value⟩, rfl, _, piece, rfl, ⟨rfl, _⟩, character, escaped,
    rfl⟩
  have single : StringText ('\\' :: (piece ++ [])) [character] :=
    .escape escaped .nil
  simpa [contentTexts] using single

theorem tracks_piece :
    pieceParser.Tracks outlook calls turns contentTexts := by
  have plain : (matching plainPattern (.number 0)).Tracks outlook calls turns
      contentTexts := by
    have run : (matching plainPattern (.number 0)).Tracks outlook calls turns
        (.ofLanguage plainPattern.regex.language) := by
      apply tracks_matching
      intro index allows
      apply suited.described
      · decide
      · exact Outlook.viable_of_allows allows
          ⟨letter_mem_plain_language, rfl⟩
    apply run.mono
    rintro text _ ⟨member, rfl⟩
    rcases CharSet.mem_language_repetition_iff.mp member with ⟨covers, _, _⟩
    rw [contentTexts, String.toList_ofList]
    exact .of_covers covers
  apply (tracks_orElse plain (tracks_escape suited)).mono
  intro text value holds
  exact holds.elim id id

theorem tracks_stringContent :
    stringContent.Tracks outlook calls turns contentTexts := by
  apply (tracks_map String.join (tracks_many (tracks_piece suited))).mono
  rintro text _ ⟨values, rfl, pieces⟩
  induction pieces with
  | nil => exact .nil
  | cons first others inductiveStep =>
      rw [contentTexts, String.toList_join, List.flatMap_cons,
        ← String.toList_join]
      exact first.append inductiveStep

theorem tracks_quoted : quoted.Tracks outlook calls turns stringTexts := by
  have mark : (literal "\"" : Parser R String).Tracks outlook calls turns
      (.just ['"'] "\"") :=
    tracks_literal "\"" fun index => suited.spelled index "\""
  apply (tracks_skip ⟨_, _, rfl, rfl⟩
    (tracks_andThen ⟨[], "", .nil⟩ mark (tracks_stringContent suited))
    mark).mono
  rintro text _ ⟨⟨value, _⟩, rfl, _, _, rfl, ⟨⟨_, _⟩, rfl, _, inner, rfl,
    ⟨rfl, _⟩, holds⟩, ⟨rfl, _⟩⟩
  exact ⟨inner, rfl, holds⟩

end

/-- The texts that the parser for strings accepts on their own. -/
theorem accepts_quoted_iff {rules : Rules R} {text : List Char}
    {value : String} :
    Accepts rules quoted (.ofCharacters text) value ↔
      stringTexts text value := by
  constructor
  · intro accepts
    exact texts_of_accepts (fun fuel => tracks_quoted (.free _)) accepts
  · intro holds
    apply accepts_of_takes
    exact takes_quoted holds

end OrderedChoice.Json
