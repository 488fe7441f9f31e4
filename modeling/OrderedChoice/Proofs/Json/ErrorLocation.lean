import OrderedChoice.Proofs.Json.Acceptance
import OrderedChoice.Proofs.Parser.OffsetSafety

/-!
# Locations of errors

The offset of an error is the furthest that any abandoned alternative got to, at
any depth.  No alternative runs ahead of what a document can contain: up to the
offset the text starts some accepted document, and every token named there can
come next.

The one exception is the escape of a surrogate.  It is refused only once its
four digits have been read, so the offset stands behind the escape, and nothing
else is named there.
-/

namespace OrderedChoice.Json

open OrderedChoice.Parser
open OrderedChoice.Regex (CharSet)

/-! ## Surrogates -/

/-- The number that hexadecimal digits name. -/
def hexNumber (digits : List Char) : Nat :=
  digits.foldl (fun number digit => number * 16 + Regex.hexDigitValue digit) 0

/-- An escape that names half of a surrogate pair. -/
def SurrogateEscape (text : List Char) : Prop :=
  ∃ digits, text = '\\' :: 'u' :: digits ∧ digits.length = 4 ∧
    hexSet.Covers digits ∧ 0xD800 ≤ hexNumber digits ∧
    hexNumber digits ≤ 0xDFFF

theorem hexDigitValue_lt {digit : Char}
    (hex : hexSet.contains digit.toNat = true) :
    Regex.hexDigitValue digit < 16 := by
  have ordered : ∀ low high : Char, low ≤ high ↔ low.toNat ≤ high.toNat :=
    fun low high => UInt32.le_iff_toNat_le
  simp only [hexSet, digitSet, CharSet.contains_union,
    CharSet.contains_range] at hex
  simp only [Regex.hexDigitValue, Bool.and_eq_true, decide_eq_true_eq, ordered,
    Char.reduceToNat]
  split_ifs <;> omega

/-- So many digits name a number below so many powers of sixteen. -/
theorem hexNumber_lt {digits : List Char} (hex : hexSet.Covers digits) :
    hexNumber digits < 16 ^ digits.length := by
  have further : ∀ number,
      digits.foldl (fun number digit =>
        number * 16 + Regex.hexDigitValue digit) number <
        (number + 1) * 16 ^ digits.length := by
    induction digits with
    | nil => simp
    | cons digit digits inductiveStep =>
        rcases CharSet.covers_cons_iff.mp hex with ⟨inSet, hexRest⟩
        have small := hexDigitValue_lt inSet
        intro number
        rw [List.foldl_cons, List.length_cons, pow_succ']
        calc
          _ < (number * 16 + Regex.hexDigitValue digit + 1) *
              16 ^ digits.length := inductiveStep hexRest _
          _ ≤ ((number + 1) * 16) * 16 ^ digits.length :=
            Nat.mul_le_mul_right _ (by omega)
          _ = (number + 1) * (16 * 16 ^ digits.length) := Nat.mul_assoc _ _ _
  simpa [hexNumber] using further 0

/-- Four digits that name no character name half of a surrogate pair. -/
theorem surrogate_of_scalarOfHex?_eq_none {digits : List Char}
    (four : digits.length = 4) (hex : hexSet.Covers digits)
    (refused : Regex.scalarOfHex? digits = none) :
    SurrogateEscape ('\\' :: 'u' :: digits) := by
  have invalid : ¬ (hexNumber digits).isValidChar := by
    intro valid
    have found : Regex.scalarOfHex? digits = some (hexNumber digits) :=
      if_pos valid
    rw [found] at refused
    cases refused
  have bound := hexNumber_lt hex
  rw [four] at bound
  rw [Nat.isValidChar] at invalid
  exact ⟨digits, rfl, four, hex, by omega, by omega⟩

/-! ## Prefixes of documents -/

/-- A text that some accepted document starts with. -/
def ViablePrefix (text : List Char) : Prop :=
  ∃ rest value, Accepts rules parser (.ofCharacters (text ++ rest)) value

theorem viablePrefix_of_append {text further : List Char}
    (viable : ViablePrefix (text ++ further)) : ViablePrefix text := by
  rcases viable with ⟨rest, value, accepts⟩
  rw [List.append_assoc] at accepts
  exact ⟨further ++ rest, value, accepts⟩

theorem viablePrefix_of_derives {text : List Char} {value : Json}
    (derives : Derives .document text value) : ViablePrefix text := by
  refine ⟨[], value, ?_⟩
  rw [List.append_nil]
  exact accepts_of_derives derives

theorem viablePrefix_nil : ViablePrefix [] :=
  viablePrefix_of_append (viablePrefix_of_derives (.document blank_nil
    derives_null))

/-! ## What errors name -/

/-- A text ends in the escape of a surrogate. -/
def EndsInSurrogate (text : List Char) : Prop :=
  ∃ earlier escape, text = earlier ++ escape ∧ SurrogateEscape escape

/-- What the grammar may name at an offset: the refusal of a surrogate right
behind its escape, and otherwise what can come next if it is a token. -/
def outlook (source : Source) : Outlook source where
  viable := ViablePrefix
  viable_of_append := viablePrefix_of_append
  suits index description :=
    (description = "a unicode scalar value" ∧
      EndsInSurrogate (source.textBefore index)) ∨
    (ViablePrefix (source.textBefore index) ∧
      (description ∈ tokenSpellings →
        ViablePrefix (source.textBefore index ++ description.toList)))

theorem suited_outlook (source : Source) : Suited (outlook source) where
  spelled := by
    intro index text viable
    right
    exact ⟨viablePrefix_of_append viable, fun _ => viable⟩
  described := by
    intro index description unlisted viable
    right
    exact ⟨viable, fun listed => absurd listed unlisted⟩
  surrogate := by
    intro start digits after opened four hex refused
    left
    have narrow : byteLength ('\\' :: 'u' :: digits) = 6 := by
      rw [byteLength_cons, byteLength_cons, byteLength_of_hex hex, four]
      rfl
    have before : source.textBefore (start + 6) =
        source.textBefore start ++ '\\' :: 'u' :: digits := by
      rw [← narrow]
      exact Outlook.textBefore_add opened
    exact ⟨rfl, source.textBefore start, _, before,
      surrogate_of_scalarOfHex?_eq_none four hex refused⟩

/-- What a whole parse reports suits the grammar. -/
theorem reports_of_run {source : Source} {fuel : Nat}
    {result : ParseResult Json}
    (ends : ((parser.skip eof).run rules fuel source 0).answer =
      .ok result) :
    result.diagnostics.Reports (outlook source).suits := by
  have ending : (eof : Parser Rule Unit).Tracks (outlook source)
      (rules.enter source fuel) fuel (.just [] ()) :=
    tracks_eof fun index viable =>
      (suited_outlook source).described index _ (by decide) viable
  have tracks := tracks_skip ⟨[], (), rfl, rfl⟩
    (tracks_part (suited_outlook source) fuel fuel .document) ending
  have boundary := Source.isBoundary_of_rest source.rest_zero
  have allows : (outlook source).Allows 0
      (((Texts.both (Derives .document) (.just [] ()))).image Prod.fst) := by
    rintro _ _ ⟨⟨value, _⟩, rfl, text, _, rfl, derives, rfl, _⟩
    rw [Source.textBefore, takeBytes_zero, List.append_nil]
    exact viablePrefix_of_derives derives
  exact (tracks 0 boundary allows result ends).reports

/-- The offset of an error is a boundary. -/
theorem exists_split_of_run {source : Source} {fuel : Nat}
    {result : ParseResult Json}
    (ends : ((parser.skip eof).run rules fuel source 0).answer =
      .ok result) :
    ∃ before after, source.characters = before ++ after ∧
      byteLength before = result.furthest.getD 0 := by
  have boundary := Source.isBoundary_of_rest source.rest_zero
  apply Source.isBoundary_iff.mp
  cases known : result.furthest with
  | none => exact boundary
  | some offset =>
      have library : (parser.skip eof).Within .library :=
        within_skip.mpr ⟨parser_within_library, trivial⟩
      have stays := stays_run rules_within_library library source fuel 0
        result ends
      exact (Source.leads_of_boundary boundary (stays.2 offset known)).2.2

section

variable {source : Source} {diagnostics : Diagnostics} {offset : Nat}

/-- A token that is named can come next: a surrogate is no token. -/
theorem viablePrefix_of_named
    (reports : diagnostics.Reports (outlook source).suits)
    (known : diagnostics.furthest = some offset) {spelling : String}
    (listed : spelling ∈ tokenSpellings)
    (named : spelling ∈ diagnostics.expected) :
    ViablePrefix (source.textBefore offset ++ spelling.toList) := by
  rcases reports.right_of_mem offset known spelling named with
    ⟨rfl, _⟩ | ⟨_, comes⟩
  · exact absurd listed (by decide)
  · exact comes listed

/-- Where nothing can come any more, only a surrogate is named. -/
theorem surrogate_of_hopeless
    (reports : diagnostics.Reports (outlook source).suits)
    (known : diagnostics.furthest = some offset)
    (hopeless : ¬ ViablePrefix (source.textBefore offset)) :
    diagnostics.expected = .singleton "a unicode scalar value" ∧
      EndsInSurrogate (source.textBefore offset) := by
  have alone : ∀ description ∈ diagnostics.expected,
      description = "a unicode scalar value" ∧
        EndsInSurrogate (source.textBefore offset) := by
    intro description member
    rcases reports.right_of_mem offset known description member with
      surrogate | ⟨viable, _⟩
    · exact surrogate
    · exact absurd viable hopeless
  rcases reports.named offset known with ⟨description, member⟩
  rcases alone description member with ⟨rfl, ends⟩
  refine ⟨?_, ends⟩
  exact Expectations.eq_singleton member fun other inExpected =>
    (alone other inExpected).1

end

/--
Errors are located soundly.  The text before the offset starts some accepted
document, and so does that text with any token after it that the error names;
or else the error names a surrogate alone, right behind its escape.
-/
theorem error_location_sound {text : List Char} {fuel : Nat}
    {error : ParseError}
    (rejected : (parser.parse rules fuel (.ofCharacters text)).answer =
      .ok (.error error)) :
    ∃ before after, text = before ++ after ∧
      byteLength before = error.index ∧
      ((error.expected = .singleton "a unicode scalar value" ∧
        EndsInSurrogate before) ∨
      (ViablePrefix before ∧
        ∀ spelling ∈ tokenSpellings, spelling ∈ error.expected →
          ViablePrefix (before ++ spelling.toList))) := by
  rcases exists_gives_of_rejected rejected with ⟨diagnostics, rfl, ends⟩
  have reports := reports_of_run ends
  rcases exists_split_of_run ends with ⟨before, after, split, offset⟩
  refine ⟨before, after, split, offset, ?_⟩
  have textBefore :
      (Source.ofCharacters text).textBefore (byteLength before) = before :=
    Source.textBefore_of_split split
  rw [offset] at textBefore
  cases known : diagnostics.furthest with
  | none =>
      -- Nothing was recorded, so the error is at the start and names nothing.
      right
      rw [ParseResult.furthest, known, Option.getD_none, Source.textBefore,
        takeBytes_zero] at textBefore
      rw [← textBefore]
      refine ⟨viablePrefix_nil, ?_⟩
      intro spelling _ member
      have silent := reports.silent known
      rw [errorOf, ParseError.atOffset, silent] at member
      cases member
  | some furthest =>
      rw [ParseResult.furthest, known, Option.getD_some] at textBefore
      rw [← textBefore]
      by_cases hopeful :
          ViablePrefix ((Source.ofCharacters text).textBefore furthest)
      · exact Or.inr ⟨hopeful, fun spelling listed named =>
          viablePrefix_of_named reports known listed named⟩
      · exact Or.inl (surrogate_of_hopeless reports known hopeful)

/-- After a comma in an array nothing is wrong yet, and a value can come. -/
theorem trailing_comma_located :
    ∃ error,
      (parser.parse rules 4 (.ofCharacters "[null,]".toList)).answer =
        .ok (.error error) ∧
      error.index = 6 ∧ "true" ∈ error.expected ∧
      ViablePrefix "[null,".toList ∧ ViablePrefix "[null,true".toList := by
  have known :
      (match
        (parser.parse rules 4 (.ofCharacters "[null,]".toList)).answer with
      | .ok (.error error) => some (error.index, error.expected.items)
      | _ => none) =
        some (6, ["\"", "[", "a number", "false", "null", "true", "\x7b"]) := by
    decide +kernel
  split at known
  · rename_i error rejected
    simp only [Option.some.injEq, Prod.mk.injEq] at known
    rcases known with ⟨offset, items⟩
    have named : "true" ∈ error.expected := by
      rw [Expectations.mem_def, items]
      decide
    refine ⟨error, rejected, offset, named, ?_⟩
    rcases error_location_sound rejected with
      ⟨before, after, split, length, ⟨alone, _⟩ | ⟨viable, comes⟩⟩
    · rw [alone] at named
      have same := List.mem_singleton.mp named
      exact absurd same (by decide)
    · have isBefore : before = "[null,".toList := by
        rw [← takeBytes_byteLength before after, ← split, length, offset]
        decide
      rw [isBefore] at viable comes
      exact ⟨viable, comes "true" (by decide) named⟩
  · cases known

end OrderedChoice.Json
