import Mathlib.Data.List.Forall2
import Mathlib.Data.Nat.Digits.Defs
import OrderedChoice.Proofs.Json.ErrorLocation
import OrderedChoice.Proofs.Json.LongestPrefix

/-!
# Decoding strings

A character of a string is written as itself, by a letter behind a backslash, or
by its number in four hexadecimal digits of either case.  Only a character has a
number that can be written: half of a surrogate pair is none.  Any sequence of
such pieces between quotation marks is read as the characters that they write,
and nothing else is read.

No piece contains a quotation mark that is not escaped, and none leaves an escape
open.  So the closing mark is the first that is not escaped, whatever follows it.
-/

namespace OrderedChoice.Json

open OrderedChoice.Parser
open OrderedChoice.Regex (CharSet)

/-! ## Hexadecimal digits -/

/-- A digit for a number below sixteen, a letter in either case. -/
def HexDigit (digit : Char) (value : Nat) : Prop :=
  value < 16 ∧ (digit = value.digitChar ∨ digit = value.digitChar.toUpper)

theorem hexDigit_iff {digit : Char} {value : Nat} :
    HexDigit digit value ↔
      hexSet.contains digit.toNat = true ∧
        Regex.hexDigitValue digit = value := by
  constructor
  · have named : ∀ value < 16,
        (hexSet.contains value.digitChar.toNat = true ∧
          Regex.hexDigitValue value.digitChar = value) ∧
        (hexSet.contains value.digitChar.toUpper.toNat = true ∧
          Regex.hexDigitValue value.digitChar.toUpper = value) := by
      decide
    rintro ⟨small, rfl | rfl⟩
    · exact (named value small).1
    · exact (named value small).2
  · rintro ⟨inSet, rfl⟩
    have spelled : ∀ number ≤ 'f'.toNat, hexSet.contains number = true →
        Char.ofNat number ∈
          [(Regex.hexDigitValue (Char.ofNat number)).digitChar,
            (Regex.hexDigitValue (Char.ofNat number)).digitChar.toUpper] := by
      decide
    have narrow : digit.toNat ≤ 'f'.toNat := by
      simp [hexSet, digitSet] at inSet
      show digit.toNat ≤ 102
      omega
    have listed := spelled digit.toNat narrow inSet
    rw [Char.ofNat_toNat] at listed
    exact ⟨hexDigitValue_lt inSet, by simpa using listed⟩

theorem hexDigits_iff {digits : List Char} {values : List Nat} :
    List.Forall₂ HexDigit digits values ↔
      hexSet.Covers digits ∧ digits.map Regex.hexDigitValue = values := by
  induction digits generalizing values with
  | nil =>
      rw [List.forall₂_nil_left_iff, List.map_nil, eq_comm]
      exact ⟨fun same => ⟨nofun, same⟩, And.right⟩
  | cons digit digits inductiveStep =>
      rw [List.forall₂_cons_left_iff, CharSet.covers_cons_iff, List.map_cons]
      constructor
      · rintro ⟨value, values, isDigit, areDigits, rfl⟩
        rcases hexDigit_iff.mp isDigit with ⟨inSet, rfl⟩
        rcases inductiveStep.mp areDigits with ⟨covers, rfl⟩
        exact ⟨⟨inSet, covers⟩, rfl⟩
      · rintro ⟨⟨inSet, covers⟩, rfl⟩
        exact ⟨_, _, hexDigit_iff.mpr ⟨inSet, rfl⟩,
          inductiveStep.mpr ⟨covers, rfl⟩, rfl⟩

/-- The digits are read from the most significant one. -/
theorem hexNumber_eq_ofDigits (digits : List Char) :
    hexNumber digits =
      Nat.ofDigits 16 (digits.map Regex.hexDigitValue).reverse := by
  rw [Nat.ofDigits_eq_foldr, List.foldr_reverse, List.foldl_map, hexNumber]
  congr 1
  funext number digit
  rw [Nat.cast_id, Nat.add_comm, Nat.mul_comm]

theorem scalarOfHex?_eq_some_iff {digits : List Char} {value : Nat} :
    Regex.scalarOfHex? digits = some value ↔
      value.isValidChar ∧ hexNumber digits = value := by
  have opened : Regex.scalarOfHex? digits =
      if (hexNumber digits).isValidChar then some (hexNumber digits)
      else none := rfl
  rw [opened]
  constructor
  · intro named
    split at named
    · rename_i valid
      cases named
      exact ⟨valid, rfl⟩
    · cases named
  · rintro ⟨valid, rfl⟩
    exact if_pos valid

/-! ## Pieces -/

/-- The ways to write a character inside a string. -/
inductive WritesCharacter : List Char → Char → Prop where
  | plain {character : Char} (notMark : character ≠ '"')
      (notBackslash : character ≠ '\\') :
      WritesCharacter [character] character
  | letter {written meant : Char}
      (listed : (written, meant) ∈ letterEscapes) :
      WritesCharacter ['\\', written] meant
  | unicode {digits : List Char} {values : List Nat} {character : Char}
      (four : digits.length = 4) (hex : List.Forall₂ HexDigit digits values)
      (named : Nat.ofDigits 16 values.reverse = character.toNat) :
      WritesCharacter ('\\' :: 'u' :: digits) character

/-- One character of a string and how it is written. -/
structure Piece where
  text : List Char
  character : Char
  writes : WritesCharacter text character

/-- The pieces as they are written. -/
def writing (pieces : List Piece) : List Char :=
  pieces.flatMap Piece.text

/-- The characters that pieces write. -/
def decoded (pieces : List Piece) : String :=
  String.ofList (pieces.map Piece.character)

/-- Pieces between quotation marks. -/
def quotation (pieces : List Piece) : List Char :=
  '"' :: (writing pieces ++ ['"'])

theorem plainSet_contains_iff {character : Char} :
    plainSet.contains character.toNat = true ↔
      character ≠ '"' ∧ character ≠ '\\' := by
  rw [plainSet, CharSet.contains_complement, CharSet.contains_union, not_or]
  have single : ∀ letter : Char,
      (CharSet.single letter.toNat).contains character.toNat = true ↔
        character = letter := fun _ => CharSet.contains_single_char
  exact and_congr (not_congr (single '"')) (not_congr (single '\\'))

theorem plain_of_hex {value : Nat} (hex : hexSet.contains value = true) :
    plainSet.contains value = true := by
  simp only [plainSet, hexSet, digitSet, CharSet.contains_complement,
    CharSet.contains_union, CharSet.contains_range,
    CharSet.contains_single] at hex ⊢
  omega

/-- A piece is a plain character or an escape. -/
theorem writesCharacter_iff {text : List Char} {character : Char} :
    WritesCharacter text character ↔
      (text = [character] ∧ plainSet.contains character.toNat = true) ∨
        ∃ piece, text = '\\' :: piece ∧ EscapeText piece character := by
  constructor
  · intro writes
    cases writes with
    | plain notMark notBackslash =>
        exact .inl ⟨rfl, plainSet_contains_iff.mpr ⟨notMark, notBackslash⟩⟩
    | letter listed => exact .inr ⟨_, rfl, .letter listed⟩
    | @unicode digits _ _ four hex named =>
        rcases hexDigits_iff.mp hex with ⟨covers, rfl⟩
        rw [← hexNumber_eq_ofDigits] at named
        have scalar : Regex.scalarOfHex? digits = some character.toNat :=
          scalarOfHex?_eq_some_iff.mpr ⟨character.valid, named⟩
        have escaped := EscapeText.unicode four covers scalar
        rw [Char.ofNat_toNat] at escaped
        exact .inr ⟨_, rfl, escaped⟩
  · rintro (⟨rfl, stands⟩ | ⟨piece, rfl, escaped⟩)
    · rcases plainSet_contains_iff.mp stands with ⟨notMark, notBackslash⟩
      exact .plain notMark notBackslash
    · cases escaped with
      | letter listed => exact .letter listed
      | @unicode digits value four covers scalar =>
          rcases scalarOfHex?_eq_some_iff.mp scalar with ⟨valid, named⟩
          refine .unicode four (hexDigits_iff.mpr ⟨covers, rfl⟩) ?_
          rw [← hexNumber_eq_ofDigits, named, Char.ofNat, dif_pos valid]
          rfl

/-- The inside of a string is written in pieces. -/
theorem stringText_iff {text characters : List Char} :
    StringText text characters ↔
      ∃ pieces : List Piece, text = writing pieces ∧
        characters = pieces.map Piece.character := by
  constructor
  · intro holds
    induction holds with
    | nil => exact ⟨[], rfl, rfl⟩
    | plain stands _ inductiveStep =>
        rcases inductiveStep with ⟨pieces, rfl, rfl⟩
        exact ⟨⟨_, _, writesCharacter_iff.mpr (.inl ⟨rfl, stands⟩)⟩ :: pieces,
          rfl, rfl⟩
    | escape escaped _ inductiveStep =>
        rcases inductiveStep with ⟨pieces, rfl, rfl⟩
        exact ⟨⟨_, _, writesCharacter_iff.mpr (.inr ⟨_, rfl, escaped⟩)⟩ ::
          pieces, rfl, rfl⟩
  · rintro ⟨pieces, rfl, rfl⟩
    induction pieces with
    | nil => exact .nil
    | cons piece pieces inductiveStep =>
        rcases piece with ⟨text, character, writes⟩
        rcases writesCharacter_iff.mp writes with
          ⟨rfl, stands⟩ | ⟨escape, rfl, escaped⟩
        · exact .plain stands inductiveStep
        · exact .escape escaped inductiveStep

theorem stringTexts_iff {text : List Char} {value : String} :
    stringTexts text value ↔
      ∃ pieces, text = quotation pieces ∧ value = decoded pieces := by
  constructor
  · rintro ⟨inner, rfl, holds⟩
    rcases stringText_iff.mp holds with ⟨pieces, rfl, characters⟩
    exact ⟨pieces, rfl, by rw [decoded, ← characters, String.ofList_toList]⟩
  · rintro ⟨pieces, rfl, rfl⟩
    exact ⟨_, rfl, stringText_iff.mpr ⟨pieces, rfl, String.toList_ofList⟩⟩

/-! ## The closing mark -/

/-- Whether a backslash that is not escaped itself ends a text. -/
def escapesNext (text : List Char) : Bool :=
  text.foldl (fun escapes character => !escapes && character == '\\') false

/-- A quotation mark behind a text would be the first that is not escaped. -/
structure LeadsToMark (text : List Char) : Prop where
  unescaped : escapesNext text = false
  escaped : ∀ before after, text = before ++ '"' :: after →
    escapesNext before = true

namespace LeadsToMark

theorem nil : LeadsToMark [] where
  unescaped := rfl
  escaped := by
    intro before after none
    cases before with
    | nil => cases none
    | cons => cases none

theorem append {text further : List Char} (first : LeadsToMark text)
    (second : LeadsToMark further) : LeadsToMark (text ++ further) := by
  have restarts : ∀ others, escapesNext (text ++ others) =
      escapesNext others := by
    intro others
    have ends := first.unescaped
    rw [escapesNext] at ends
    rw [escapesNext, List.foldl_append, ends, escapesNext]
  constructor
  · rw [restarts, second.unescaped]
  · intro before after split
    rcases List.append_eq_append_iff.mp split with
      ⟨more, rfl, rest⟩ | ⟨more, rfl, rest⟩
    · rw [restarts, second.escaped more after rest]
    · cases more with
      | nil =>
          have opened := second.escaped [] after rest.symm
          cases opened
      | cons mark more =>
          cases rest
          exact first.escaped before more rfl

theorem plain {character : Char} (notMark : character ≠ '"')
    (notBackslash : character ≠ '\\') : LeadsToMark [character] where
  unescaped := by simpa [escapesNext] using notBackslash
  escaped := by
    intro before after split
    cases before with
    | nil => cases split; exact absurd rfl notMark
    | cons => simp at split

theorem of_covers {text : List Char} (covers : plainSet.Covers text) :
    LeadsToMark text := by
  induction text with
  | nil => exact .nil
  | cons character text inductiveStep =>
      rcases CharSet.covers_cons_iff.mp covers with ⟨stands, coversRest⟩
      rcases plainSet_contains_iff.mp stands with ⟨notMark, notBackslash⟩
      exact .append (.plain notMark notBackslash) (inductiveStep coversRest)

theorem letter (written : Char) : LeadsToMark ['\\', written] where
  unescaped := rfl
  escaped := by
    intro before after split
    match before, split with
    | [_], split => cases split; rfl
    | _ :: _ :: _, split => simp at split

end LeadsToMark

theorem leadsToMark_of_writes {text : List Char} {character : Char}
    (writes : WritesCharacter text character) : LeadsToMark text := by
  cases writes with
  | plain notMark notBackslash => exact .plain notMark notBackslash
  | letter listed => exact .letter _
  | unicode four hex named =>
      rcases hexDigits_iff.mp hex with ⟨covers, _⟩
      exact .append (.letter 'u') (.of_covers fun digit inDigits =>
        plain_of_hex (covers digit inDigits))

theorem leadsToMark_writing (pieces : List Piece) :
    LeadsToMark (writing pieces) := by
  induction pieces with
  | nil => exact .nil
  | cons piece pieces inductiveStep =>
      exact .append (leadsToMark_of_writes piece.writes) inductiveStep

/-! ## Reading -/

section

variable {R : Type → Type} {rules : Rules R} {source : Source} {index : Nat}
  {rest : List Char}

theorem takes_quotation (pieces : List Piece) (after : List Char) :
    (quoted : Parser R String).Takes rules (quotation pieces) after
      (decoded pieces) :=
  takes_quoted (stringTexts_iff.mpr ⟨pieces, rfl, rfl⟩)

theorem reads_quoted_iff (remains : source.rest index = some rest)
    {stop : Nat} {value : String} :
    quoted.Reads rules source index stop value ↔
      ∃ pieces after, rest = quotation pieces ++ after ∧
        stop = index + byteLength (quotation pieces) ∧
        value = decoded pieces := by
  constructor
  · rintro ⟨diagnostics, gives⟩
    have fits := fits_of_gives (fun fuel => tracks_quoted (.free _))
      (Source.isBoundary_of_rest remains) (fun _ _ _ => trivial) gives
    rcases fits.crosses stop value rfl with
      ⟨text, after, remainsToo, stops, holds⟩
    rcases stringTexts_iff.mp holds with ⟨pieces, rfl, decodes⟩
    exact ⟨pieces, after, Option.some.inj (remains.symm.trans remainsToo),
      stops, decodes⟩
  · rintro ⟨pieces, after, rfl, rfl, rfl⟩
    exact takes_quotation pieces after source index remains

/-- The parser comes to an end everywhere. -/
theorem misses_quoted_iff (remains : source.rest index = some rest) :
    quoted.Misses rules source index ↔
      ¬ quoted.Succeeds rules source index := by
  refine ⟨Misses.not_succeeds, fun notSucceeds => ?_⟩
  have scans : (quoted : Parser R String).Scans rules rest
      fun _ _ _ => True := scans_quoted fun _ _ _ _ => trivial
  cases scans with
  | takes split takes _ =>
      rw [← split] at remains
      exact absurd ⟨_, _, takes source index remains⟩ notSucceeds
  | refuses refuses => exact refuses source index remains

/--
Strings are decoded exactly.  The parser succeeds just where a quotation starts
what remains, and fails anywhere else; it stops behind the quotation and yields
the characters that its pieces write, in their order.  There it has read up to
the first quotation mark behind the opening one that is not escaped.  However
the characters of a text are written, they are read back from between quotation
marks, whatever follows.
-/
theorem quoted_decodes (remains : source.rest index = some rest) :
    (quoted.Succeeds rules source index ↔
      ∃ pieces after, rest = quotation pieces ++ after) ∧
    (quoted.Misses rules source index ↔
      ∀ pieces after, rest ≠ quotation pieces ++ after) ∧
    (∀ stop value, quoted.Reads rules source index stop value ↔
      ∃ pieces after, rest = quotation pieces ++ after ∧
        stop = index + byteLength (quotation pieces) ∧
        value = decoded pieces) ∧
    (∀ stop value, quoted.Reads rules source index stop value →
      ∃ inner after, rest = '"' :: (inner ++ '"' :: after) ∧
        LeadsToMark inner ∧ stop = index + 1 + byteLength inner + 1) ∧
    ∀ (value : String) (pieces : List Piece),
      pieces.map Piece.character = value.toList →
        ∀ after, (quoted : Parser R String).Takes rules (quotation pieces) after
          value := by
  have succeeds : quoted.Succeeds rules source index ↔
      ∃ pieces after, rest = quotation pieces ++ after := by
    constructor
    · rintro ⟨stop, value, reads⟩
      rcases (reads_quoted_iff remains).mp reads with ⟨pieces, after, split, _⟩
      exact ⟨pieces, after, split⟩
    · rintro ⟨pieces, after, split⟩
      exact ⟨_, _, (reads_quoted_iff remains).mpr
        ⟨pieces, after, split, rfl, rfl⟩⟩
  refine ⟨succeeds, ?_, fun _ _ => reads_quoted_iff remains, ?_, ?_⟩
  · rw [misses_quoted_iff remains, succeeds]
    simp only [not_exists]
  · intro stop value reads
    rcases (reads_quoted_iff remains).mp reads with
      ⟨pieces, after, rfl, rfl, _⟩
    refine ⟨writing pieces, after, ?_, leadsToMark_writing pieces, ?_⟩
    · simp [quotation]
    · have mark : '"'.utf8Size = 1 := rfl
      have closing : byteLength ['"'] = 1 := rfl
      rw [quotation, byteLength_cons, byteLength_append, mark, closing]
      omega
  · intro value pieces characters after
    have decodes : decoded pieces = value := by
      rw [decoded, characters, String.ofList_toList]
    rw [← decodes]
    exact takes_quotation pieces after

/-- An accented letter by its number and a line break by its letter are read
between plain letters, and the string ends before what follows its mark. -/
theorem accented_word_read :
    let rules : Rules fun _ => Empty := ⟨nofun⟩
    let source := Source.ofString "[\"caf\\u00E9s\\n\",\"\"]"
    source.rest 1 = some "\"caf\\u00E9s\\n\",\"\"]".toList ∧
      quoted.Reads rules source 1 15 "cafés\n" := by
  intro rules source
  have remains : source.rest 1 =
      some "\"caf\\u00E9s\\n\",\"\"]".toList := by decide
  have digits : List.Forall₂ HexDigit ['0', '0', 'E', '9'] [0, 0, 14, 9] :=
    .cons ⟨by decide, .inl rfl⟩ <| .cons ⟨by decide, .inl rfl⟩ <|
    .cons ⟨by decide, .inr rfl⟩ <| .cons ⟨by decide, .inl rfl⟩ .nil
  let pieces : List Piece :=
    [⟨_, 'c', .plain (by decide) (by decide)⟩,
      ⟨_, 'a', .plain (by decide) (by decide)⟩,
      ⟨_, 'f', .plain (by decide) (by decide)⟩,
      ⟨_, 'é', .unicode rfl digits (by decide)⟩,
      ⟨_, 's', .plain (by decide) (by decide)⟩,
      ⟨['\\', 'n'], '\n', .letter (by decide)⟩]
  exact ⟨remains, ((quoted_decodes remains).2.2.1 15 "cafés\n").mpr
    ⟨pieces, ",\"\"]".toList, rfl, rfl, rfl⟩⟩

end

end OrderedChoice.Json
