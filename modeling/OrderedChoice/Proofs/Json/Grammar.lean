import OrderedChoice.Parser.Characters
import OrderedChoice.Proofs.Json.Numbers
import OrderedChoice.Proofs.Json.Objects
import OrderedChoice.Proofs.Json.Strings

/-!
# The grammar of documents

What a document is, as a grammar with values: a text is derived from a part of
the grammar together with the value that it denotes.  The grammar knows nothing
of order or commitment.  White space stands before a document and after every
token.

Each part has its parser.  Running it from any place in any source crosses only
texts that are derived from the part, and reads every such text to its end when
what follows is something that may follow the part.  So the parser for documents
accepts just the texts of the grammar.
-/

namespace OrderedChoice.Json

open OrderedChoice.Parser
open OrderedChoice.Regex (CharSet)

/-! ## Tokens -/

/-- White space, possibly none. -/
def Blank (text : List Char) : Prop :=
  ∀ character ∈ text, isBlank character = true

theorem blank_nil : Blank [] := by
  intro character member
  cases member

/-- The strings that the string parser accepts on their own. -/
def StringToken (text : List Char) (value : String) : Prop :=
  Accepts rules quoted (.ofCharacters text) value

/-- The numbers that the number parser accepts on their own. -/
def NumberToken (text : List Char) (value : Json) : Prop :=
  Accepts rules numeral (.ofCharacters text) value

/-! ## Derivations -/

/-- What lists are made of. -/
inductive Item : Type → Type where
  | value : Item Json
  | pair : Item (String × Json)

/-- The parts of the grammar, by what they denote. -/
inductive Part : Type → Type 1 where
  | document : Part Json
  | item {α : Type} (kind : Item α) : Part α
  /-- Items with commas between them, possibly none. -/
  | list {α : Type} (kind : Item α) : Part (List α)
  /-- Items with a comma before each. -/
  | more {α : Type} (kind : Item α) : Part (List α)

/-- The texts derived from each part, with what they denote. -/
inductive Derives : {α : Type} → Part α → List Char → α → Prop where
  | document {white text : List Char} {value : Json} (blank : Blank white)
      (derives : Derives (.item .value) text value) :
      Derives .document (white ++ text) value
  | string {token white : List Char} {value : String}
      (isString : StringToken token value) (blank : Blank white) :
      Derives (.item .value) (token ++ white) (.string value)
  | number {token white : List Char} {value : Json}
      (isNumber : NumberToken token value) (blank : Blank white) :
      Derives (.item .value) (token ++ white) value
  | object {before text after : List Char}
      {pairs members : List (String × Json)} (blankBefore : Blank before)
      (derives : Derives (.list .pair) text pairs) (blankAfter : Blank after)
      (collects : Collects pairs members) :
      Derives (.item .value) ('{' :: before ++ text ++ '}' :: after)
        (.object members)
  | array {before text after : List Char} {values : List Json}
      (blankBefore : Blank before) (derives : Derives (.list .value) text values)
      (blankAfter : Blank after) :
      Derives (.item .value) ('[' :: before ++ text ++ ']' :: after)
        (.array values)
  | true {white : List Char} (blank : Blank white) :
      Derives (.item .value) ("true".toList ++ white) (.bool true)
  | false {white : List Char} (blank : Blank white) :
      Derives (.item .value) ("false".toList ++ white) (.bool false)
  | null {white : List Char} (blank : Blank white) :
      Derives (.item .value) ("null".toList ++ white) .null
  | pair {token before after text : List Char} {key : String} {value : Json}
      (isString : StringToken token key) (blankBefore : Blank before)
      (blankAfter : Blank after)
      (derives : Derives (.item .value) text value) :
      Derives (.item .pair) (token ++ before ++ ':' :: after ++ text)
        (key, value)
  | empty {α : Type} {kind : Item α} : Derives (.list kind) [] []
  | list {α : Type} {kind : Item α} {text rest : List Char} {value : α}
      {values : List α} (first : Derives (.item kind) text value)
      (others : Derives (.more kind) rest values) :
      Derives (.list kind) (text ++ rest) (value :: values)
  | last {α : Type} {kind : Item α} : Derives (.more kind) [] []
  | more {α : Type} {kind : Item α} {white text rest : List Char} {value : α}
      {values : List α} (blank : Blank white)
      (next : Derives (.item kind) text value)
      (others : Derives (.more kind) rest values) :
      Derives (.more kind) (',' :: white ++ text ++ rest) (value :: values)

/-! ## Parsers of the parts -/

/-- The parser for an item of a list. -/
def Item.parser : ∀ {α : Type}, Item α → Parser Rule α
  | _, .value => .ref .value
  | _, .pair => Json.pair (.ref .value)

/-- The parser for a part. -/
def Part.parser : ∀ {α : Type}, Part α → Parser Rule α
  | _, .document => Json.parser
  | _, .item kind => kind.parser
  | _, .list kind => sepBy kind.parser (token ",") 0 none
  | _, .more kind => many ((token ",").andThen kind.parser)

/-! ## Crossing derived texts -/

/-- Texts with white space after them. -/
def lexemeTexts {α : Type} (texts : Texts α) : Texts α := fun text value =>
  ∃ token white, text = token ++ white ∧ texts token value ∧ Blank white

section

variable {R : Type → Type} {α : Type} {source : Source}
  {outlook : Outlook source} {calls : Calls R} {turns : Nat}

theorem tracks_blanks (suited : Suited outlook) :
    blanks.Tracks outlook calls turns
      (fun text value => Blank text ∧ value = String.ofList text) := by
  have pattern : blanks.Tracks outlook calls turns
      (.ofLanguage blankPattern.regex.language) := by
    apply tracks_matching
    intro index allows
    apply suited.described
    · decide
    · apply Outlook.viable_of_allows allows
      exact ⟨CharSet.mem_language_repetition_iff.mpr
        ⟨blank_nil, Nat.zero_le _, nofun⟩, rfl⟩
  apply pattern.mono
  rintro text value ⟨member, rfl⟩
  rcases CharSet.mem_language_repetition_iff.mp member with ⟨covers, _, _⟩
  exact ⟨covers, rfl⟩

theorem tracks_lexeme (suited : Suited outlook) {parser : Parser R α}
    {texts : Texts α} (tracks : parser.Tracks outlook calls turns texts) :
    (lexeme parser).Tracks outlook calls turns (lexemeTexts texts) := by
  apply (tracks_skip ⟨[], "", blank_nil, rfl⟩ tracks (tracks_blanks suited)).mono
  rintro _ _ ⟨⟨value, _⟩, rfl, token, white, rfl, holds, blank, _⟩
  exact ⟨token, white, rfl, holds, blank⟩

theorem tracks_token (suited : Suited outlook) (text : String) :
    (token text : Parser R String).Tracks outlook calls turns
      (lexemeTexts (.just text.toList text)) :=
  tracks_lexeme suited <|
    tracks_literal text fun index => suited.spelled index text

theorem tracks_word (suited : Suited outlook) (text : String) (value : Json)
    (derives : ∀ white, Blank white →
      Derives (.item .value) (text.toList ++ white) value) :
    (result (token text) value : Parser R Json).Tracks outlook calls turns
      (Derives (.item .value)) := by
  apply (tracks_map (fun _ => value) (tracks_token suited text)).mono
  rintro _ _ ⟨_, rfl, _, white, rfl, ⟨rfl, _⟩, blank⟩
  exact derives white blank

end

theorem lexemeTexts_just {text : List Char} {value : String} :
    lexemeTexts (.just text value) text value :=
  ⟨text, [], (List.append_nil text).symm, ⟨rfl, rfl⟩, blank_nil⟩

theorem derives_null : Derives (.item .value) "null".toList .null := by
  simpa using Derives.null blank_nil

theorem isString_empty : StringToken ['"', '"'] "" :=
  accepts_quoted_iff.mpr ⟨[], rfl, .nil⟩

theorem exists_derives_item {α : Type} (kind : Item α) :
    ∃ text value, Derives (.item kind) text value := by
  cases kind with
  | value => exact ⟨_, _, derives_null⟩
  | pair =>
      exact ⟨_, _, .pair isString_empty blank_nil blank_nil derives_null⟩

section

variable {source : Source} {outlook : Outlook source} {calls : Calls Rule}
  {turns : Nat} (suited : Suited outlook)
  (self : (Parser.ref Rule.value).Tracks outlook calls turns
    (Derives (.item .value)))

include suited self

theorem tracks_pair :
    (Json.pair (.ref .value)).Tracks outlook calls turns
      (Derives (.item .pair)) := by
  apply (tracks_both ⟨_, _, derives_null⟩
    (tracks_skip ⟨_, _, lexemeTexts_just⟩
      (tracks_lexeme suited (tracks_quoted suited)) (tracks_token suited ":"))
    self).mono
  rintro _ ⟨_, value⟩ ⟨_, text, rfl, ⟨⟨key, _⟩, rfl, _, _, rfl,
    ⟨name, before, rfl, isString, blankBefore⟩,
    ⟨_, after, rfl, ⟨rfl, _⟩, blankAfter⟩⟩, derives⟩
  have pair := Derives.pair (accepts_quoted_iff.mpr isString) blankBefore
    blankAfter derives
  simpa using pair

theorem tracks_item {α : Type} (kind : Item α) :
    kind.parser.Tracks outlook calls turns (Derives (.item kind)) := by
  cases kind with
  | value => exact self
  | pair => exact tracks_pair suited self

theorem tracks_more {α : Type} (kind : Item α) :
    (many ((token ",").andThen kind.parser)).Tracks outlook calls turns
      (Derives (.more kind)) := by
  apply (tracks_many (tracks_andThen (exists_derives_item kind)
    (tracks_token suited ",") (tracks_item suited self kind))).mono
  intro text values inRow
  induction inRow with
  | nil => exact .last
  | cons first others inductiveStep =>
      rcases first with ⟨_, rfl, _, next, rfl, ⟨_, white, rfl, ⟨rfl, _⟩, blank⟩,
        derives⟩
      exact .more blank derives inductiveStep

theorem tracks_list {α : Type} (kind : Item α) :
    (sepBy kind.parser (token ",") 0 none).Tracks outlook calls turns
      (Derives (.list kind)) := by
  have items : (Parser.map (fun values => values.1 :: values.2)
      (Parser.both kind.parser
        (many ((token ",").andThen kind.parser)))).Tracks outlook calls turns
        (Derives (.list kind)) := by
    apply (tracks_map _ (tracks_both ⟨_, _, .last⟩
      (tracks_item suited self kind) (tracks_more suited self kind))).mono
    rintro _ _ ⟨_, rfl, first, others, rfl, derives, derivesMore⟩
    exact .list derives derivesMore
  apply (tracks_orElse items (tracks_success [])).mono
  rintro text values (derives | ⟨rfl, rfl⟩)
  · exact derives
  · exact .empty

theorem tracks_objectOf :
    (objectOf (.ref .value)).Tracks outlook calls turns
      (Derives (.item .value)) := by
  apply (tracks_map ofPairs (tracks_skip ⟨_, _, lexemeTexts_just⟩
    (tracks_andThen ⟨_, _, .empty⟩ (tracks_token suited "\x7b")
      (tracks_list suited self .pair)) (tracks_token suited "\x7d"))).mono
  rintro _ _ ⟨_, rfl, ⟨pairs, _⟩, rfl, _, _, rfl, ⟨_, rfl, _, text, rfl,
    ⟨_, before, rfl, ⟨rfl, _⟩, blankBefore⟩, derives⟩,
    ⟨_, after, rfl, ⟨rfl, _⟩, blankAfter⟩⟩
  have object := Derives.object blankBefore derives blankAfter
    (ofPairs_eq_object_iff.mp rfl)
  exact object

theorem tracks_arrayOf :
    (arrayOf (.ref .value)).Tracks outlook calls turns
      (Derives (.item .value)) := by
  apply (tracks_map array (tracks_skip ⟨_, _, lexemeTexts_just⟩
    (tracks_andThen ⟨_, _, .empty⟩ (tracks_token suited "[")
      (tracks_list suited self .value)) (tracks_token suited "]"))).mono
  rintro _ _ ⟨_, rfl, ⟨values, _⟩, rfl, _, _, rfl, ⟨_, rfl, _, text, rfl,
    ⟨_, before, rfl, ⟨rfl, _⟩, blankBefore⟩, derives⟩,
    ⟨_, after, rfl, ⟨rfl, _⟩, blankAfter⟩⟩
  exact .array blankBefore derives blankAfter

theorem tracks_value :
    (Json.value (.ref .value)).Tracks outlook calls turns
      (Derives (.item .value)) := by
  have strings : (Parser.map string (lexeme quoted)).Tracks outlook calls turns
      (Derives (.item .value)) := by
    apply (tracks_map string
      (tracks_lexeme suited (tracks_quoted suited))).mono
    rintro _ _ ⟨_, rfl, _, white, rfl, isString, blank⟩
    exact .string (accepts_quoted_iff.mpr isString) blank
  have numbers : (lexeme numeral).Tracks outlook calls turns
      (Derives (.item .value)) := by
    have report : ∀ index, outlook.viable (source.textBefore index) →
        outlook.suits index "a number" := fun index =>
      suited.described index _ (by decide)
    apply (tracks_lexeme suited (tracks_numeral report)).mono
    rintro _ value ⟨_, white, rfl, isNumber, blank⟩
    exact .number (accepts_numeral_iff.mpr isNumber) blank
  intro index boundary
  rw [Json.value]
  apply tracksAt_firstOf (List.cons_ne_nil _ _)
  simp only [List.forall_mem_cons]
  exact ⟨strings index boundary, numbers index boundary,
    tracks_objectOf suited self index boundary,
    tracks_arrayOf suited self index boundary,
    tracks_word suited "true" _ (fun _ => .true) index boundary,
    tracks_word suited "false" _ (fun _ => .false) index boundary,
    tracks_word suited "null" _ (fun _ => .null) index boundary, nofun⟩

end

section

variable {source : Source} {outlook : Outlook source}
  (suited : Suited outlook)

include suited

/-- The induction is on how deep the rule may nest. -/
theorem tracks_ref (fuel turns : Nat) :
    (Parser.ref Rule.value).Tracks outlook (rules.enter source fuel) turns
      (Derives (.item .value)) := by
  induction fuel generalizing turns with
  | zero =>
      intro index boundary allows result answer
      rw [attempt] at answer
      cases answer
  | succ fuel inductiveStep =>
      intro index boundary
      rw [TracksAt, attempt]
      exact tracks_value suited (inductiveStep fuel) index boundary

/-- The parser for a part crosses only texts derived from it. -/
theorem tracks_part (fuel turns : Nat) {α : Type} (part : Part α) :
    part.parser.Tracks outlook (rules.enter source fuel) turns
      (Derives part) := by
  have self := tracks_ref suited fuel turns
  cases part with
  | document =>
      apply (tracks_andThen ⟨_, _, derives_null⟩ (tracks_blanks suited)
        self).mono
      rintro _ value ⟨_, rfl, white, text, rfl, ⟨blank, _⟩, derives⟩
      exact .document blank derives
  | item kind => exact tracks_item suited self kind
  | list kind => exact tracks_list suited self kind
  | more kind => exact tracks_more suited self kind

end

end OrderedChoice.Json
