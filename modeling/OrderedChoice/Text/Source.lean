/-!
# Source texts

A source is a text seen as parsing needs it: for every byte offset it knows
what remains of the text there.  Offsets count bytes of the UTF-8 form, and an
offset is a boundary when a whole number of characters stands before it.

The remainders are kept in a table that shares its entries with the text.  The
table is tied to the characters by `Source.rest_eq`, so that everything about a
source can be said in terms of `dropBytes` on its characters.
-/

namespace OrderedChoice

/-! ## Bytes and characters -/

/-- The number of bytes that a list of characters takes in UTF-8. -/
def byteLength (characters : List Char) : Nat :=
  characters.foldr (fun character size => character.utf8Size + size) 0

@[simp] theorem byteLength_nil : byteLength [] = 0 := rfl

@[simp] theorem byteLength_cons (character : Char) (characters : List Char) :
    byteLength (character :: characters) =
      character.utf8Size + byteLength characters := rfl

theorem byteLength_append (left right : List Char) :
    byteLength (left ++ right) = byteLength left + byteLength right := by
  induction left with
  | nil => simp
  | cons character left inductiveStep =>
      simp [inductiveStep, Nat.add_assoc]

/--
What follows the first `offset` bytes, when those bytes are a whole number of
characters.
-/
def dropBytes : List Char → Nat → Option (List Char)
  | characters, 0 => some characters
  | [], _ + 1 => none
  | character :: characters, offset + 1 =>
    if character.utf8Size ≤ offset + 1 then
      dropBytes characters (offset + 1 - character.utf8Size)
    else none

/-- The leading characters that fit whole into `size` bytes. -/
def takeBytes : List Char → Nat → List Char
  | [], _ => []
  | character :: characters, size =>
    if character.utf8Size ≤ size then
      character :: takeBytes characters (size - character.utf8Size)
    else []

@[simp] theorem dropBytes_zero (characters : List Char) :
    dropBytes characters 0 = some characters := by
  cases characters <;> rfl

theorem dropBytes_nil (offset : Nat) :
    dropBytes [] offset = if offset = 0 then some [] else none := by
  cases offset <;> rfl

theorem dropBytes_cons (character : Char) (characters : List Char)
    (offset : Nat) (positive : 0 < offset) :
    dropBytes (character :: characters) offset =
      if character.utf8Size ≤ offset then
        dropBytes characters (offset - character.utf8Size)
      else none := by
  cases offset with
  | zero => omega
  | succ offset => rfl

/-! ## The table of remainders -/

/-- Add `count` offsets at which nothing can be read. -/
def pushGaps (table : Array (Option (List Char))) :
    Nat → Array (Option (List Char))
  | 0 => table
  | count + 1 => pushGaps (table.push none) count

/--
Extend a table by the remainder at every byte offset of `characters`: at a
boundary what follows it, inside a character nothing.
-/
def pushRemainders (table : Array (Option (List Char))) :
    List Char → Array (Option (List Char))
  | [] => table.push (some [])
  | character :: characters =>
    pushRemainders
      (pushGaps (table.push (some (character :: characters)))
        (character.utf8Size - 1))
      characters

theorem pushGaps_eq (table : Array (Option (List Char))) (count : Nat) :
    pushGaps table count = table ++ Array.replicate count none := by
  induction count generalizing table with
  | zero => simp [pushGaps]
  | succ count inductiveStep =>
    rw [pushGaps, inductiveStep, Array.push_eq_append, Array.append_assoc]
    congr 1
    apply Array.ext'
    simp [List.replicate_succ]

/-- The remainders as a list, in the order of the offsets. -/
def remainders : List Char → List (Option (List Char))
  | [] => [some []]
  | character :: characters =>
    some (character :: characters) ::
      (List.replicate (character.utf8Size - 1) none ++ remainders characters)

theorem toList_pushRemainders (table : Array (Option (List Char)))
    (characters : List Char) :
    (pushRemainders table characters).toList =
      table.toList ++ remainders characters := by
  induction characters generalizing table with
  | nil => simp [pushRemainders, remainders]
  | cons character characters inductiveStep =>
    rw [pushRemainders, inductiveStep, pushGaps_eq]
    simp [remainders]

theorem getElem?_remainders (characters : List Char) (offset : Nat) :
    (remainders characters)[offset]?.join = dropBytes characters offset := by
  induction characters generalizing offset with
  | nil =>
    cases offset with
    | zero => rfl
    | succ offset => simp [remainders, dropBytes]
  | cons character characters inductiveStep =>
    cases offset with
    | zero => simp [remainders, dropBytes]
    | succ offset =>
      have width := character.utf8Size_pos
      rw [dropBytes_cons _ _ _ (by omega), remainders,
        List.getElem?_cons_succ]
      by_cases inside : offset < character.utf8Size - 1
      · rw [List.getElem?_append_left (by simpa using inside), if_neg (by omega)]
        simp [inside]
      · rw [List.getElem?_append_right (by simpa using inside),
          if_pos (by omega), List.length_replicate, inductiveStep]
        congr 1
        omega

/-! ## Sources -/

/-- A text with the table of its remainders by byte offset. -/
structure Source where
  characters : List Char
  length : Nat
  table : Array (Option (List Char))
  length_eq : length = byteLength characters
  table_eq : ∀ offset : Nat, table[offset]?.join = dropBytes characters offset

namespace Source

/-- The source that holds the given characters. -/
def ofCharacters (characters : List Char) : Source where
  characters := characters
  length := byteLength characters
  table := pushRemainders #[] characters
  length_eq := rfl
  table_eq := by
    intro offset
    rw [← Array.getElem?_toList, toList_pushRemainders]
    simpa using getElem?_remainders characters offset

/-- The source that holds the given text. -/
def ofString (text : String) : Source :=
  ofCharacters text.toList

@[simp] theorem characters_ofCharacters (characters : List Char) :
    (ofCharacters characters).characters = characters := rfl

/-- What remains at an offset; nothing can be read inside a character or past
the end. -/
def rest (source : Source) (offset : Nat) : Option (List Char) :=
  source.table[offset]?.join

theorem rest_eq (source : Source) (offset : Nat) :
    source.rest offset = dropBytes source.characters offset :=
  source.table_eq offset

/-- Whether an offset is a boundary within the source. -/
def isBoundary (source : Source) (offset : Nat) : Bool :=
  (source.rest offset).isSome

/-- What remains at an offset, and no text where nothing can be read. -/
def restOrEmpty (source : Source) (offset : Nat) : List Char :=
  (source.rest offset).getD []

/-- The text before an offset, cut back to whole characters. -/
def textBefore (source : Source) (offset : Nat) : List Char :=
  takeBytes source.characters offset

/-- The text between two offsets; none when the first is no boundary. -/
def between (source : Source) (start stop : Nat) : List Char :=
  takeBytes (source.restOrEmpty start) (stop - start)

/-- The text from one boundary to another one that is not before it. -/
def slice? (source : Source) (start stop : Nat) : Option (List Char) :=
  if start ≤ stop ∧ source.isBoundary start = true ∧
      source.isBoundary stop = true then
    some (source.between start stop)
  else none

/-- The character that ends at a boundary, if one does. -/
def characterBefore (source : Source) (offset : Nat) : Option Char :=
  [1, 2, 3, 4].findSome? fun width =>
    if width ≤ offset then
      match source.rest (offset - width) with
      | some (character :: _) =>
        if character.utf8Size = width then some character else none
      | _ => none
    else none

end Source

end OrderedChoice
