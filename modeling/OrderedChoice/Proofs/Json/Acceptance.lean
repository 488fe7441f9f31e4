import OrderedChoice.Proofs.Json.Grammar
import OrderedChoice.Proofs.Parser.Takes

/-!
# Accepted documents

The parser for a part takes every text derived from it, provided that what
follows may follow the part: then neither white space nor digits are taken that
the derivation leaves, and a list is not gone on with.  Order and commitment do
no harm, since the first character of a value decides between the alternatives.

With the texts that the parser crosses this settles what it accepts: just the
documents of the grammar, each as one value.
-/

namespace OrderedChoice.Json

open OrderedChoice.Parser
open OrderedChoice.Regex (CharSet)

/-! ## What may follow -/

/-- A text goes on with one of some characters, if at all. -/
def Follows (allowed after : List Char) : Prop :=
  ∀ character ∈ after.head?, character ∈ allowed

/-- The characters that may follow a part. -/
def Part.followers : ∀ {α : Type}, Part α → List Char
  | _, .document => [',', ']', '}']
  | _, .item _ => [',', ']', '}']
  | _, .list _ => [']', '}']
  | _, .more _ => [']', '}']

theorem follows_nil {allowed : List Char} : Follows allowed [] := by
  intro character first
  cases first

theorem follows_cons {allowed : List Char} {character : Char}
    (member : character ∈ allowed) (rest : List Char) :
    Follows allowed (character :: rest) := by
  rintro found first
  cases first
  exact member

/-- What may follow a list may follow an item. -/
theorem follows_item {after : List Char} (follows : Follows [']', '}'] after) :
    Follows [',', ']', '}'] after := fun character first =>
  List.mem_cons_of_mem _ (follows character first)

theorem stopsAt_of_follows {members : CharSet} {allowed after : List Char}
    (follows : Follows allowed after)
    (outside : (allowed.all fun character =>
      !members.contains character.toNat) = true) :
    members.StopsAt after := by
  intro character first
  have excluded :=
    List.all_eq_true.mp outside character (follows character first)
  simpa using excluded

theorem space_stopsAt {after : List Char}
    (follows : Follows [',', ']', '}'] after) :
    CharSet.space.StopsAt after :=
  stopsAt_of_follows follows (by decide)

/-- Nothing that can be part of a number is white space. -/
theorem not_blank_of_numeric {character : Char}
    (numeric : numberHead.contains character.toNat = true ∨
      numberTail.contains character.toNat = true) :
    isBlank character = false := by
  have ascii : ∀ value < 128,
      (numberHead.contains value = true ∨ numberTail.contains value = true) →
      CharSet.space.contains value = false := by decide
  apply ascii character.toNat ?_ numeric
  simp [numberHead, numberTail, digitSet] at numeric
  omega

/-- A number does not go on with white space. -/
theorem numberTail_stopsAt_blank {character : Char}
    (isWhite : isBlank character = true) (rest : List Char) :
    numberTail.StopsAt (character :: rest) := by
  apply CharSet.stopsAt_cons_iff.mpr
  by_contra inside
  rw [not_blank_of_numeric (Or.inr (Bool.eq_true_of_not_eq_false inside))]
    at isWhite
  cases isWhite

theorem numberTail_stopsAt {white after : List Char} (blank : Blank white)
    (follows : Follows [',', ']', '}'] after) :
    numberTail.StopsAt (white ++ after) := by
  cases white with
  | nil => exact stopsAt_of_follows follows (by decide)
  | cons character white =>
      exact numberTail_stopsAt_blank (blank character List.mem_cons_self) _

/-! ## How derived texts start -/

/-- No number starts like a string. -/
theorem numberHead_apart_mark : numberHead.Apart (.single 0x22) := by
  intro value numeric isMark
  simp [numberHead, digitSet] at numeric isMark
  omega

/-- A text starts with something other than white space. -/
def StartsBare (text : List Char) : Prop :=
  ∃ character rest, text = character :: rest ∧ isBlank character = false

theorem StartsBare.append {text : List Char} (starts : StartsBare text)
    (after : List Char) : StartsBare (text ++ after) := by
  rcases starts with ⟨character, rest, rfl, bare⟩
  exact ⟨character, rest ++ after, rfl, bare⟩

theorem StartsBare.stopsAt {text : List Char} (starts : StartsBare text) :
    CharSet.space.StopsAt text := by
  rcases starts with ⟨character, rest, rfl, bare⟩
  exact CharSet.stopsAt_cons_iff.mpr bare

theorem StringToken.starts {text : List Char} {value : String}
    (isString : StringToken text value) : ∃ rest, text = '"' :: rest := by
  rcases accepts_quoted_iff.mp isString with ⟨inner, rfl, _⟩
  exact ⟨_, rfl⟩

theorem NumberToken.starts {text : List Char} {value : Json}
    (isNumber : NumberToken text value) : numberHead.Starts text :=
  starts_of_mem_number (accepts_numeral_iff.mp isNumber).1

/-- How the texts of a part start. -/
def Part.Opens : ∀ {α : Type}, Part α → List Char → Prop
  | _, .document, _ => True
  | _, .item _, text => StartsBare text
  | _, .list _, text => text = [] ∨ StartsBare text
  | _, .more _, text => text = [] ∨ ∃ rest, text = ',' :: rest

theorem opens_of_derives {α : Type} {part : Part α} {text : List Char}
    {value : α} (derives : Derives part text value) : part.Opens text := by
  have bare : ∀ character rest, isBlank character = false →
      StartsBare (character :: rest) := fun character rest outside =>
    ⟨character, rest, rfl, outside⟩
  induction derives with
  | document => trivial
  | string isString =>
      rcases isString.starts with ⟨rest, rfl⟩
      exact bare '"' _ (by decide)
  | number isNumber =>
      rcases isNumber.starts with ⟨character, rest, rfl, numeric⟩
      exact bare character _ (not_blank_of_numeric (Or.inl numeric))
  | object => exact bare '{' _ (by decide)
  | array => exact bare '[' _ (by decide)
  | true => exact bare 't' _ (by decide)
  | false => exact bare 'f' _ (by decide)
  | null => exact bare 'n' _ (by decide)
  | pair isString =>
      rcases isString.starts with ⟨rest, rfl⟩
      exact bare '"' _ (by decide)
  | empty => exact Or.inl rfl
  | list first others firstOpens => exact Or.inr (firstOpens.append _)
  | last => exact Or.inl rfl
  | more => exact Or.inr ⟨_, rfl⟩

/-- An item starts with no white space, whatever follows it. -/
theorem space_stopsAt_item {α : Type} {kind : Item α} {text : List Char}
    {value : α} (derives : Derives (.item kind) text value)
    (after : List Char) : CharSet.space.StopsAt (text ++ after) :=
  StartsBare.stopsAt (StartsBare.append (opens_of_derives derives) after)

/-- So does a list, or what follows it if it is empty. -/
theorem space_stopsAt_list {α : Type} {kind : Item α} {text after : List Char}
    {values : List α} (derives : Derives (.list kind) text values)
    (follows : Follows [']', '}'] after) :
    CharSet.space.StopsAt (text ++ after) := by
  rcases opens_of_derives derives with rfl | starts
  · exact space_stopsAt (follows_item follows)
  · exact (starts.append after).stopsAt

/-- Further items start with what may follow an item. -/
theorem follows_more {α : Type} {kind : Item α} {text after : List Char}
    {values : List α} (derives : Derives (.more kind) text values)
    (follows : Follows [']', '}'] after) :
    Follows [',', ']', '}'] (text ++ after) := by
  rcases opens_of_derives derives with rfl | ⟨rest, rfl⟩
  · exact follows_item follows
  · exact follows_cons (by decide) _

/-! ## Taking tokens -/

section

variable {text white after rest : List Char}

theorem takes_blanks (blank : Blank white)
    (stops : CharSet.space.StopsAt after) :
    blanks.Takes rules white after (String.ofList white) := by
  apply takes_matching
  refine Regex.prefers_repetition ?_ ?_ stops
  · nofun
  · exact CharSet.mem_language_repetition_iff.mpr
      ⟨blank, Nat.zero_le _, nofun⟩

theorem takes_lexeme {α : Type} {parser : Parser Rule α} {value : α}
    (takes : parser.Takes rules text (white ++ after) value)
    (blank : Blank white) (stops : CharSet.space.StopsAt after) :
    (lexeme parser).Takes rules (text ++ white) after value :=
  takes_skip takes (takes_blanks blank stops)

theorem takes_token (text : String) (blank : Blank white)
    (stops : CharSet.space.StopsAt after) :
    (token text).Takes rules (text.toList ++ white) after text :=
  takes_lexeme (takes_literal text _) blank stops

theorem refuses_quoted (stops : (CharSet.single 0x22).StopsAt rest) :
    (quoted : Parser Rule String).Refuses rules rest :=
  refuses_skip _ <| refuses_andThen _ <|
    refuses_literal_of_stopsAt '"' rfl stops

theorem refuses_token {text : String} (letter : Char) {letters : List Char}
    (spelled : text.toList = letter :: letters)
    (stops : (CharSet.single letter.toNat).StopsAt rest) :
    (token text).Refuses rules rest :=
  refuses_skip _ (refuses_literal_of_stopsAt letter spelled stops)

end

/-! ## Taking values -/

/-- The alternatives for a value, with the characters that they start with. -/
def alternatives : List (CharSet × Parser Rule Json) :=
  [(.single 0x22, .map string (lexeme quoted)),
    (numberHead, lexeme numeral),
    (.single 0x7B, objectOf (.ref .value)),
    (.single 0x5B, arrayOf (.ref .value)),
    (.single 0x74, result (token "true") (bool true)),
    (.single 0x66, result (token "false") (bool false)),
    (.single 0x6E, result (token "null") null)]

theorem value_eq :
    Json.value (.ref .value) = firstOf (alternatives.map Prod.snd) := rfl

section

variable {text after rest : List Char} {value : Json}

theorem refuses_alternative :
    ∀ entry ∈ alternatives, entry.1.StopsAt rest →
      entry.2.Refuses rules rest := by
  simp only [alternatives, List.forall_mem_cons]
  refine ⟨?_, ?_, ?_, ?_, ?_, ?_, ?_, nofun⟩
  · exact fun stops => refuses_map _ (refuses_skip _ (refuses_quoted stops))
  · intro stops
    apply refuses_skip
    exact refuses_numeral stops
  · exact fun stops => refuses_map _ <| refuses_skip _ <| refuses_andThen _ <|
      refuses_token '{' rfl stops
  · exact fun stops => refuses_map _ <| refuses_skip _ <| refuses_andThen _ <|
      refuses_token '[' rfl stops
  · exact fun stops => refuses_map _ (refuses_token 't' rfl stops)
  · exact fun stops => refuses_map _ (refuses_token 'f' rfl stops)
  · exact fun stops => refuses_map _ (refuses_token 'n' rfl stops)

/-- A value is taken by the alternative that takes it, unless an earlier one
can start like it. -/
theorem takes_alternative {entry : CharSet × Parser Rule Json} (number : Nat)
    (found : alternatives[number]? = some entry)
    (stops : ∀ earlier ∈ alternatives.take number,
      earlier.1.StopsAt (text ++ after))
    (takes : entry.2.Takes rules text after value) :
    (Parser.ref Rule.value).Takes rules text after value := by
  have split : alternatives =
      alternatives.take number ++ entry :: alternatives.drop (number + 1) := by
    rcases List.getElem?_eq_some_iff.mp found with ⟨within, rfl⟩
    rw [List.getElem_cons_drop, List.take_append_drop]
  apply takes_ref rfl
  rw [value_eq, split, List.map_append, List.map_cons]
  apply takes_firstOf _ ?_ takes
  intro other member
  rcases List.mem_map.mp member with ⟨earlier, inTaken, rfl⟩
  exact refuses_alternative earlier (List.mem_of_mem_take inTaken)
    (stops earlier inTaken)

/-- As it is when the first character decides. -/
theorem takes_alternative_of_first {entry : CharSet × Parser Rule Json}
    (number : Nat) (found : alternatives[number]? = some entry)
    (first : Char) (outside : ∀ earlier ∈ alternatives.take number,
      earlier.1.contains first.toNat = false)
    (takes : entry.2.Takes rules (first :: text) after value) :
    (Parser.ref Rule.value).Takes rules (first :: text) after value := by
  apply takes_alternative number found ?_ takes
  exact fun earlier member =>
    CharSet.stopsAt_cons_iff.mpr (outside earlier member)

/-- No item starts where a list can end. -/
theorem refuses_item {α : Type} (kind : Item α)
    (follows : Follows [']', '}'] after) :
    kind.parser.Refuses rules after := by
  cases kind with
  | value =>
      apply refuses_ref rfl
      rw [value_eq]
      apply refuses_firstOf
      intro parser member
      rcases List.mem_map.mp member with ⟨entry, listed, rfl⟩
      have outside : ∀ entry ∈ alternatives, ([']', '}'].all fun character =>
          !entry.1.contains character.toNat) = true := by decide
      exact refuses_alternative entry listed
        (stopsAt_of_follows follows (outside entry listed))
  | pair =>
      apply refuses_both
      apply refuses_skip
      apply refuses_skip
      exact refuses_quoted (stopsAt_of_follows follows (by decide))

end

/-! ## Taking derived texts -/

/-- A list between a token that opens it and one that closes it. -/
theorem takes_enclosed {α : Type} {kind : Item α} {opening closing : String}
    {before text white after : List Char} {values : List α}
    (blankBefore : Blank before) (derives : Derives (.list kind) text values)
    (blankAfter : Blank white) (stops : CharSet.space.StopsAt after)
    (closes : Follows [']', '}'] (closing.toList ++ white ++ after))
    (takes : (sepBy kind.parser (token ",") 0 none).Takes rules text
      (closing.toList ++ white ++ after) values) :
    (((token opening).andThen (sepBy kind.parser (token ",") 0 none)).skip
      (token closing)).Takes rules
      (opening.toList ++ before ++ text ++ (closing.toList ++ white)) after
      values := by
  have opened : (token opening).Takes rules (opening.toList ++ before)
      (text ++ (closing.toList ++ white ++ after)) opening :=
    takes_token opening blankBefore (space_stopsAt_list derives closes)
  exact takes_skip (takes_andThen opened takes)
    (takes_token closing blankAfter stops)

/-! ### One value

What takes a value asks less of what follows it than a list does: no white
space goes on, and after a number nothing that could be more of it. -/

section

variable {white before text after : List Char} (blank : Blank white)
  (stops : CharSet.space.StopsAt after)

include blank stops

theorem takes_value_string {token : List Char} {value : String}
    (isString : StringToken token value) :
    (Parser.ref Rule.value).Takes rules (token ++ white) after
      (.string value) := by
  apply takes_alternative 0 rfl nofun
  apply takes_map
  exact takes_lexeme (takes_quoted (accepts_quoted_iff.mp isString)) blank stops

theorem takes_value_number {token : List Char} {value : Json}
    (starts : numberHead.Starts token)
    (takes : numeral.Takes rules token (white ++ after) value) :
    (Parser.ref Rule.value).Takes rules (token ++ white) after value := by
  have earlierStop : ∀ earlier ∈ alternatives.take 1,
      earlier.1.StopsAt (token ++ white ++ after) := by
    intro earlier member
    rw [List.mem_singleton.mp member, List.append_assoc]
    exact CharSet.stopsAt_of_starts _ starts numberHead_apart_mark
  apply takes_alternative 1 rfl earlierStop
  exact takes_lexeme takes blank stops

theorem takes_value_object {pairs members : List (String × Json)}
    (blankBefore : Blank before) (derives : Derives (.list .pair) text pairs)
    (collects : Collects pairs members)
    (takes : (Part.list Item.pair).parser.Takes rules text
      ('}' :: white ++ after) pairs) :
    (Parser.ref Rule.value).Takes rules
      ('{' :: before ++ text ++ '}' :: white) after (.object members) := by
  rw [← ofPairs_eq_object_iff.mpr collects]
  apply takes_alternative_of_first 2 rfl '{' (by decide)
  apply takes_map
  exact takes_enclosed blankBefore derives blank stops
    (follows_cons (by decide) _) takes

theorem takes_value_array {values : List Json} (blankBefore : Blank before)
    (derives : Derives (.list .value) text values)
    (takes : (Part.list Item.value).parser.Takes rules text
      (']' :: white ++ after) values) :
    (Parser.ref Rule.value).Takes rules
      ('[' :: before ++ text ++ ']' :: white) after (.array values) := by
  apply takes_alternative_of_first 3 rfl '[' (by decide)
  apply takes_map
  exact takes_enclosed blankBefore derives blank stops
    (follows_cons (by decide) _) takes

theorem takes_value_true :
    (Parser.ref Rule.value).Takes rules ("true".toList ++ white) after
      (.bool true) := by
  apply takes_alternative_of_first 4 rfl 't' (by decide)
  apply takes_map (fun _ => Json.bool true)
  exact takes_token "true" blank stops

theorem takes_value_false :
    (Parser.ref Rule.value).Takes rules ("false".toList ++ white) after
      (.bool false) := by
  apply takes_alternative_of_first 5 rfl 'f' (by decide)
  apply takes_map (fun _ => Json.bool false)
  exact takes_token "false" blank stops

theorem takes_value_null :
    (Parser.ref Rule.value).Takes rules ("null".toList ++ white) after
      .null := by
  apply takes_alternative_of_first 6 rfl 'n' (by decide)
  apply takes_map (fun _ => Json.null)
  exact takes_token "null" blank stops

end

/-! ### Every part -/

/-- The parser for a part takes every text derived from it before what may
follow the part.  The induction is on the derivation. -/
theorem takes_part {α : Type} {part : Part α} {text after : List Char}
    {value : α} (derives : Derives part text value)
    (follows : Follows part.followers after) :
    part.parser.Takes rules text after value := by
  induction derives generalizing after with
  | document blank derives inductiveStep =>
      exact takes_andThen
        (takes_blanks blank (space_stopsAt_item derives after))
        (inductiveStep follows)
  | string isString blank =>
      exact takes_value_string blank (space_stopsAt follows) isString
  | number isNumber blank =>
      apply takes_value_number blank (space_stopsAt follows) isNumber.starts
      exact takes_numeral (accepts_numeral_iff.mp isNumber)
        (numberTail_stopsAt blank follows)
  | object blankBefore derives blankAfter collects inductiveStep =>
      exact takes_value_object blankAfter (space_stopsAt follows) blankBefore
        derives collects (inductiveStep (follows_cons (by decide) _))
  | array blankBefore derives blankAfter inductiveStep =>
      exact takes_value_array blankAfter (space_stopsAt follows) blankBefore
        derives (inductiveStep (follows_cons (by decide) _))
  | true blank => exact takes_value_true blank (space_stopsAt follows)
  | false blank => exact takes_value_false blank (space_stopsAt follows)
  | null blank => exact takes_value_null blank (space_stopsAt follows)
  | @pair token before white text key value isString blankBefore blankAfter
      derives inductiveStep =>
      have stops := space_stopsAt_item derives after
      have colon : CharSet.space.StopsAt (':' :: white ++ (text ++ after)) :=
        CharSet.stopsAt_cons_iff.mpr rfl
      have keyTaken : (lexeme quoted).Takes rules (token ++ before)
          (':' :: white ++ (text ++ after)) key :=
        takes_lexeme (takes_quoted (accepts_quoted_iff.mp isString))
          blankBefore colon
      exact takes_both (takes_skip keyTaken (takes_token ":" blankAfter stops))
        (inductiveStep follows)
  | empty => exact takes_sepBy_nil _ (refuses_item _ follows)
  | list first others firstStep othersStep =>
      exact takes_sepBy (firstStep (follows_more others follows))
        (othersStep follows)
  | last =>
      have ends : Follows [']', '}'] after := follows
      apply takes_many_nil
      apply refuses_andThen
      exact refuses_token ',' rfl (stopsAt_of_follows ends (by decide))
  | @more α kind white text rest value values blank next others nextStep
      othersStep =>
      have stops := space_stopsAt_item next (rest ++ after)
      have nextFollows := follows_more others follows
      exact takes_many_cons
        (takes_andThen (takes_token "," blank stops) (nextStep nextFollows))
        (othersStep follows)

/-! ## Accepting documents -/

section

variable {text : List Char} {value : Json}

theorem derives_of_accepts
    (accepts : Accepts rules parser (.ofCharacters text) value) :
    Derives .document text value :=
  texts_of_accepts
    (fun fuel => tracks_part (.free _) fuel fuel .document) accepts

theorem accepts_of_derives (derives : Derives .document text value) :
    Accepts rules parser (.ofCharacters text) value :=
  accepts_of_takes (takes_part derives follows_nil)

end

/-- The parser accepts just the documents of the grammar, each with what it
denotes: whatever it accepts is derived, whatever is derived is accepted with
all fuel from some amount on, and what is derived denotes one value. -/
theorem accepts_exactly_documents (text : List Char) :
    (∀ value, Accepts rules parser (.ofCharacters text) value ↔
      Derives .document text value) ∧
    (∀ value, Derives .document text value →
      ∃ least, ∀ fuel, least ≤ fuel →
        (parser.parse rules fuel (.ofCharacters text)).answer =
          .ok (.ok value)) ∧
    ∀ first second, Derives .document text first →
      Derives .document text second → first = second := by
  refine ⟨?_, ?_, ?_⟩
  · intro value
    constructor
    · exact derives_of_accepts
    · exact accepts_of_derives
  · intro value derives
    exact (accepts_of_derives derives).eventually
  · intro first second derivesFirst derivesSecond
    have acceptsFirst := accepts_of_derives derivesFirst
    have acceptsSecond := accepts_of_derives derivesSecond
    exact acceptsFirst.unique acceptsSecond

/-- Of two pairs with one key the second counts. -/
theorem repeated_key_accepted :
    ∃ least, ∀ fuel, least ≤ fuel →
      (parser.parse rules fuel
        (.ofCharacters "\x7b\"\":null,\"\":true\x7d".toList)).answer =
        .ok (.ok (.object [("", .bool true)])) := by
  have collects : Collects [("", .null), ("", .bool true)]
      [("", .bool true)] := ofPairs_eq_object_iff.mp rfl
  have first : Derives (.item .pair) "\"\":null".toList ("", .null) :=
    .pair isString_empty blank_nil blank_nil derives_null
  have second : Derives (.item .pair) "\"\":true".toList ("", .bool true) :=
    .pair isString_empty blank_nil blank_nil (.true blank_nil)
  have pairs := Derives.list first (.more blank_nil second .last)
  have derives := Derives.document blank_nil
    (.object blank_nil pairs blank_nil collects)
  exact (accepts_exactly_documents _).2.1 _ derives

end OrderedChoice.Json
