import OrderedChoice.Proofs.Json.Acceptance
import OrderedChoice.Proofs.Json.NumberPrefixes
import OrderedChoice.Proofs.Parser.LongestPrefix

/-!
# The longest document at the start of a text

The parser for documents scans every text: between entering the rule for values
and entering it again it takes a bracket, and so does every turn of a list take
a comma.  What it takes is a document on its own.

Where a document is followed by more, only its last token can become another
one.  White space goes on and a number may grow; everything else is closed.
Either way the parser takes at least the document.
-/

namespace OrderedChoice.Json

open OrderedChoice.Parser
open OrderedChoice.Regex (CharSet Term)

variable {rest : List Char}

/-! ## Scanning tokens -/

section

variable {R : Type → Type} {rules : Rules R} {α : Type}

theorem scans_blanks {passes : Passing String}
    (passed : ∀ white after, white ++ after = rest → Blank white →
      CharSet.space.StopsAt after →
      passes white after (String.ofList white)) :
    (blanks : Parser R String).Scans rules rest passes :=
  scans_run (Nat.zero_le _) rfl fun white after split covers _ stops =>
    passed white after split covers stops

theorem scans_lexeme {parser : Parser R α} {passes : Passing α}
    (scans : parser.Scans rules rest fun text after value =>
      ∀ white later, white ++ later = after →
        passes (text ++ white) later value) :
    (lexeme parser).Scans rules rest passes := by
  apply scans_skip
  apply scans.imp
  intro text after value _ passed
  exact scans_blanks fun white later split _ _ => passed white later split

/-- A token takes something. -/
theorem scans_token {text : String} {passes : Passing String}
    (spelled : text.toList ≠ [])
    (passed : ∀ taken after, taken ++ after = rest → taken ≠ [] →
      passes taken after text) :
    (token text : Parser R String).Scans rules rest passes := by
  apply scans_lexeme
  apply scans_literal
  rintro after split white later rfl
  refine passed _ later (by rw [List.append_assoc, split]) ?_
  exact List.append_ne_nil_of_left_ne_nil spelled white

/-! ## Scanning strings -/

/-- An escape by number is refused where it names half of a surrogate pair. -/
theorem scans_unicodeEscape {passes : Passing String}
    (passed : ∀ taken after value, taken ++ after = rest →
      passes taken after value) :
    (unicodeEscape : Parser R String).Scans rules rest passes := by
  apply scans_bind
  by_cases written : ∃ digits after, 'u' :: digits ++ after = rest ∧
      digits.length = 4 ∧ hexSet.Covers digits
  · rcases written with ⟨digits, after, split, four, hex⟩
    refine .takes split (takes_unicodePattern four hex after) ?_
    split
    · apply scans_success
      exact passed _ _ _ (by rw [List.append_nil, split])
    · exact .refuses (refuses_fail _ _)
  · refine .refuses (refuses_matching (Term.refuses_of_notMem ?_))
    rintro taken after rfl member
    rcases mem_unicode_language_iff.mp member with ⟨digits, rfl, four, hex⟩
    exact written ⟨digits, after, rfl, four, hex⟩

/-- An escape takes at least its backslash. -/
theorem scans_escape {passes : Passing String}
    (passed : ∀ taken after value, taken ++ after = rest → taken ≠ [] →
      passes taken after value) :
    (escape : Parser R String).Scans rules rest passes := by
  rw [escape_eq]
  apply scans_andThen
  apply scans_literal
  rintro inner rfl
  have passedInner : ∀ taken after value, taken ++ after = inner →
      passes ("\\".toList ++ taken) after value := by
    rintro taken after value rfl
    exact passed _ _ _ (List.append_assoc _ _ _) (List.cons_ne_nil _ _)
  have letterPassed : ∀ text value, (literal text : Parser R String).Scans rules
      inner fun taken after _ => passes ("\\".toList ++ taken) after value :=
    fun text value => scans_literal fun after split =>
      passedInner _ after value split
  have literalPassed : ∀ text, (literal text : Parser R String).Scans rules
      inner fun taken after value => passes ("\\".toList ++ taken) after value :=
    fun text => scans_literal fun after split => passedInner _ after text split
  apply scans_firstOf (List.append_ne_nil_of_right_ne_nil _ (by simp))
  rw [List.forall_mem_append]
  simp only [letterParsers, List.forall_mem_cons]
  exact ⟨⟨literalPassed _, literalPassed _, literalPassed _,
    scans_map (letterPassed _ _), scans_map (letterPassed _ _),
    scans_map (letterPassed _ _), scans_map (letterPassed _ _),
    scans_map (letterPassed _ _), List.forall_mem_nil _⟩,
    scans_unicodeEscape passedInner, List.forall_mem_nil _⟩

theorem scans_piece :
    (pieceParser : Parser R String).Scans rules rest fun taken _ _ =>
      taken ≠ [] := by
  apply scans_orElse
  · apply scans_run (Nat.le_refl 1) rfl
    intro run after split covers enough stops
    exact List.length_pos_iff.mp enough
  · intro _
    exact scans_escape fun taken after value split some => some

theorem scans_quoted {passes : Passing String}
    (passed : ∀ taken after value, taken ++ after = rest →
      passes taken after value) :
    (quoted : Parser R String).Scans rules rest passes := by
  have content : ∀ text, (stringContent : Parser R String).Scans rules text
      fun _ _ _ => True := fun text =>
    scans_map ((scans_many (fun further _ => scans_piece)
      fun taken after value some => some).imp fun _ _ _ _ _ => trivial)
  apply scans_skip
  apply scans_andThen
  apply scans_literal
  rintro inner rfl
  apply (content inner).imp
  rintro text after value rfl _
  apply scans_literal
  rintro later rfl
  exact passed _ _ _ (by simp)

end

/-! ## Scanning values -/

section

variable {size : Nat}
  (self : ∀ further : List Char, further.length < size →
    (Parser.ref Rule.value).Scans rules further fun _ _ _ => True)

include self

theorem scans_item {α : Type} (kind : Item α) (within : rest.length < size) :
    kind.parser.Scans rules rest fun _ _ _ => True := by
  cases kind with
  | value => exact self rest within
  | pair =>
      apply scans_both
      apply scans_skip
      apply scans_lexeme
      apply scans_quoted
      rintro key after value rfl white later rfl
      apply scans_token (by decide)
      rintro colon last rfl _
      apply self
      simp only [List.length_append] at within
      omega

theorem scans_list {α : Type} (kind : Item α) (within : rest.length < size) :
    (sepBy kind.parser (token ",") 0 none).Scans rules rest
      fun _ _ _ => True := by
  have next : ∀ further : List Char, further.length < size →
      ((token ",").andThen kind.parser).Scans rules further
        fun text _ _ => text ≠ [] := by
    intro further short
    apply scans_andThen
    apply scans_token (by decide)
    rintro comma after rfl some
    rw [List.length_append] at short
    apply (scans_item self kind (by omega)).imp
    intro text later value _ _
    exact List.append_ne_nil_of_left_ne_nil some text
  apply scans_sepBy ?_ trivial
  apply scans_both
  apply (scans_item self kind within).imp
  rintro text after value rfl _
  rw [List.length_append] at within
  exact (scans_many (fun further short => next further (by omega))
    fun _ _ _ some => some).imp fun _ _ _ _ _ => trivial

/-- A list between tokens is shorter than what remains at the first of them. -/
theorem scans_enclosed {α : Type} (kind : Item α) {opening closing : String}
    (opens : opening.toList ≠ []) (closes : closing.toList ≠ [])
    (within : rest.length ≤ size) :
    (((token opening).andThen (sepBy kind.parser (token ",") 0 none)).skip
      (token closing)).Scans rules rest fun _ _ _ => True := by
  apply scans_skip
  apply scans_andThen
  apply scans_token opens
  rintro bracket after rfl some
  have positive := List.length_pos_iff.mpr some
  rw [List.length_append] at within
  apply (scans_list self kind (by omega)).imp
  intro text later values _ _
  exact scans_token closes fun _ _ _ _ => trivial

theorem scans_value (within : rest.length ≤ size) :
    (Json.value (.ref .value)).Scans rules rest fun _ _ _ => True := by
  have word : ∀ (text : String) (value : Json), text.toList ≠ [] →
      (result (token text) value : Parser Rule Json).Scans rules rest
        fun _ _ _ => True := fun text value spelled =>
    scans_map (scans_token spelled fun _ _ _ _ => trivial)
  apply scans_firstOf (List.cons_ne_nil _ _)
  simp only [List.forall_mem_cons]
  refine ⟨?_, ?_, ?_, ?_, word _ _ (by decide), word _ _ (by decide),
    word _ _ (by decide), nofun⟩
  · apply scans_map
    apply scans_lexeme
    exact scans_quoted fun _ _ _ _ _ _ _ => trivial
  · apply scans_lexeme
    exact scans_numeral fun _ _ _ _ _ _ _ => trivial
  · apply scans_map
    exact scans_enclosed self .pair (by decide) (by decide) within
  · apply scans_map
    exact scans_enclosed self .value (by decide) (by decide) within

end

/-- The induction is on the length of the text. -/
theorem scans_every_value (rest : List Char) :
    (Parser.ref Rule.value).Scans rules rest fun _ _ _ => True := by
  induction length : rest.length using Nat.strong_induction_on
    generalizing rest with
  | _ size inductiveStep =>
      apply Parser.scans_ref rfl
      exact scans_value
        (fun further (shorter : further.length < size) =>
          inductiveStep further.length shorter further rfl)
        (Nat.le_of_eq length)

/-- What the parser takes is a document on its own. -/
theorem accepts_of_takes_document {text after : List Char} {value : Json}
    (takes : parser.Takes rules text after value) :
    Accepts rules parser (.ofCharacters text) value := by
  have remains := Source.rest_ofCharacters_zero (text ++ after)
  rcases takes _ 0 remains with ⟨diagnostics, gives⟩
  have fits := fits_of_gives
    (fun fuel => tracks_part (.free _) fuel fuel .document)
    (Source.isBoundary_of_rest remains) (fun _ _ _ => trivial) gives
  rcases fits.crosses _ value rfl with
    ⟨crossed, later, remainsToo, stops, derives⟩
  have same : text ++ after = crossed ++ later :=
    Option.some.inj (remains.symm.trans remainsToo)
  have lengths : byteLength text = byteLength crossed := by omega
  have texts : text = crossed := by
    rw [← takeBytes_byteLength text after, same, lengths, takeBytes_byteLength]
  rw [texts]
  exact accepts_of_derives derives

theorem scans_document (rest : List Char) :
    parser.Scans rules rest fun text _ value =>
      Accepts rules parser (.ofCharacters text) value := by
  have scans : parser.Scans rules rest fun _ _ _ => True := by
    apply scans_andThen
    apply scans_blanks
    intro white after split blank stops
    exact scans_every_value after
  cases scans with
  | takes split takes _ =>
      exact .takes split takes (accepts_of_takes_document takes)
  | refuses refuses => exact .refuses refuses

/-! ## Reaching over documents -/

theorem Blank.append {white further : List Char} (blank : Blank white)
    (others : Blank further) : Blank (white ++ further) := by
  intro character member
  rcases List.mem_append.mp member with inFirst | inSecond
  · exact blank character inFirst
  · exact others character inSecond

/-- A value whose last token is closed is reached over, since white space goes
on as far as it can. -/
theorem reaches_of_closed {token white : List Char} {value : Json}
    (blank : Blank white)
    (takes : ∀ further after, Blank further → CharSet.space.StopsAt after →
      (Parser.ref Rule.value).Takes rules (token ++ further) after value) :
    Reaches rules (.ref .value) (token ++ white) := by
  intro after
  rcases CharSet.space.exists_run after with ⟨further, later, rfl, more, stops⟩
  refine ⟨further, later, value, rfl, ?_⟩
  rw [List.append_assoc]
  exact takes (white ++ further) later (blank.append more) stops

/-- Of a number with nothing after it the parser may take more. -/
theorem reaches_number {token white : List Char} {value : Json}
    (isNumber : NumberToken token value) (blank : Blank white) :
    Reaches rules (.ref .value) (token ++ white) := by
  have holds := accepts_numeral_iff.mp isNumber
  intro after
  cases white with
  | nil =>
      rcases @reaches_numeral _ Rule rules _ holds after with
        ⟨digits, rest, found, rfl, takes⟩
      rcases CharSet.space.exists_run rest with
        ⟨further, later, rfl, more, stops⟩
      have starts : numberHead.Starts (token ++ digits) := by
        rcases isNumber.starts with ⟨character, others, rfl, inSet⟩
        exact ⟨character, others ++ digits, rfl, inSet⟩
      refine ⟨digits ++ further, later, found, List.append_assoc _ _ _, ?_⟩
      rw [List.append_nil, ← List.append_assoc]
      exact takes_value_number more stops starts takes
  | cons character white =>
      rcases CharSet.space.exists_run after with
        ⟨further, later, rfl, more, stops⟩
      have isWhite := blank character List.mem_cons_self
      refine ⟨further, later, value, rfl, ?_⟩
      rw [List.append_assoc]
      apply takes_value_number (blank.append more) stops isNumber.starts
      exact takes_numeral holds (numberTail_stopsAt_blank isWhite _)

/-- What the parser for a part reaches over, where that is needed. -/
def Part.Reached : ∀ {α : Type}, Part α → List Char → Prop
  | _, .document, text => Reaches rules Json.parser text
  | _, .item .value, text => Reaches rules (.ref .value) text
  | _, _, _ => True

/-- The parser reaches over every document and every value. -/
theorem reached_of_derives {α : Type} {part : Part α} {text : List Char}
    {value : α} (derives : Derives part text value) : part.Reached text := by
  induction derives with
  | @document white text value blank derives inductiveStep =>
      intro after
      rcases inductiveStep after with ⟨further, later, found, rfl, takes⟩
      refine ⟨further, later, found, rfl, ?_⟩
      rw [List.append_assoc]
      have stops := space_stopsAt_item derives (further ++ later)
      rw [← List.append_assoc] at stops
      exact takes_andThen (takes_blanks blank stops) takes
  | string isString blank =>
      exact reaches_of_closed blank fun further after more stops =>
        takes_value_string more stops isString
  | number isNumber blank => exact reaches_number isNumber blank
  | @object before text white pairs members blankBefore derives blankAfter
      collects _ =>
      have split : '{' :: before ++ text ++ '}' :: white =
          ('{' :: before ++ text ++ ['}']) ++ white := by simp
      rw [split]
      apply reaches_of_closed blankAfter
      intro further after more stops
      have takes := takes_value_object more stops blankBefore derives collects
        (takes_part derives (follows_cons (by decide) _))
      rw [List.append_assoc]
      exact takes
  | @array before text white values blankBefore derives blankAfter _ =>
      have split : '[' :: before ++ text ++ ']' :: white =
          ('[' :: before ++ text ++ [']']) ++ white := by simp
      rw [split]
      apply reaches_of_closed blankAfter
      intro further after more stops
      have takes := takes_value_array more stops blankBefore derives
        (takes_part derives (follows_cons (by decide) _))
      rw [List.append_assoc]
      exact takes
  | true blank =>
      exact reaches_of_closed blank fun further after => takes_value_true
  | false blank =>
      exact reaches_of_closed blank fun further after => takes_value_false
  | null blank =>
      exact reaches_of_closed blank fun further after => takes_value_null
  | pair => trivial
  | empty => trivial
  | list => trivial
  | last => trivial
  | more => trivial

/-- Parsing a part of a text takes the longest document that it starts with. -/
theorem takesLongest (text : List Char) : TakesLongest rules parser text := by
  apply takesLongest_of_reaches (scans_document text)
  intro before after split value accepts
  exact reached_of_derives (derives_of_accepts accepts)

end OrderedChoice.Json
