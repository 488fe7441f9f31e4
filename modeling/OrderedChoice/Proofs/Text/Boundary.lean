import OrderedChoice.Text.Source

/-!
# Boundaries

An offset is a boundary of a source when the characters split there: so many
bytes before it, the rest after it.  Everything about offsets is brought back
to such splits, so that proofs speak of texts that are appended and not of
bytes that are counted.
-/

namespace OrderedChoice

/-! ## Splitting characters by bytes -/

theorem byteLength_pos {character : Char} {characters : List Char} :
    0 < byteLength (character :: characters) := by
  have width := character.utf8Size_pos
  rw [byteLength_cons]
  omega

theorem byteLength_toList (text : String) :
    byteLength text.toList = text.utf8ByteSize := by
  have lists : ∀ characters : List Char,
      byteLength characters = (String.ofList characters).utf8ByteSize := by
    intro characters
    induction characters with
    | nil => rfl
    | cons character characters inductiveStep =>
        rw [byteLength_cons, inductiveStep, String.ofList_cons,
          String.utf8ByteSize_append, String.utf8ByteSize_singleton]
  rw [lists, String.ofList_toList]

theorem dropBytes_append (before after : List Char) (offset : Nat) :
    dropBytes (before ++ after) (byteLength before + offset) =
      dropBytes after offset := by
  induction before with
  | nil => simp
  | cons character before inductiveStep =>
      have width := character.utf8Size_pos
      rw [List.cons_append, byteLength_cons,
        dropBytes_cons _ _ _ (by omega), if_pos (by omega)]
      rw [← inductiveStep]
      congr 1
      omega

/-- What remains after some bytes is what follows the characters they make
up. -/
theorem dropBytes_eq_some_iff {characters after : List Char} {offset : Nat} :
    dropBytes characters offset = some after ↔
      ∃ before, characters = before ++ after ∧ byteLength before = offset := by
  constructor
  · intro dropped
    induction characters generalizing offset with
    | nil =>
        rw [dropBytes_nil] at dropped
        split at dropped
        · rename_i zero
          cases dropped
          exact ⟨[], rfl, zero.symm⟩
        · cases dropped
    | cons character characters inductiveStep =>
        cases offset with
        | zero =>
            rw [dropBytes_zero] at dropped
            cases dropped
            exact ⟨[], rfl, rfl⟩
        | succ offset =>
            rw [dropBytes_cons _ _ _ (by omega)] at dropped
            split at dropped
            · rename_i fits
              rcases inductiveStep dropped with ⟨before, rfl, length⟩
              refine ⟨character :: before, rfl, ?_⟩
              rw [byteLength_cons]
              omega
            · cases dropped
  · rintro ⟨before, rfl, rfl⟩
    simpa using dropBytes_append before after 0

theorem takeBytes_append (before after : List Char) (size : Nat) :
    takeBytes (before ++ after) (byteLength before + size) =
      before ++ takeBytes after size := by
  induction before with
  | nil => simp
  | cons character before inductiveStep =>
      rw [List.cons_append, byteLength_cons, takeBytes, if_pos (by omega),
        List.cons_append, ← inductiveStep]
      congr 2
      omega

theorem takeBytes_zero (characters : List Char) :
    takeBytes characters 0 = [] := by
  cases characters with
  | nil => rfl
  | cons character characters =>
      have width := character.utf8Size_pos
      rw [takeBytes, if_neg (by omega)]

theorem takeBytes_byteLength (before after : List Char) :
    takeBytes (before ++ after) (byteLength before) = before := by
  simpa [takeBytes_zero] using takeBytes_append before after 0

/-! ## Boundaries of a source -/

namespace Source

variable {source : Source} {offset : Nat} {before after : List Char}

theorem rest_eq_some_iff :
    source.rest offset = some after ↔
      ∃ before, source.characters = before ++ after ∧
        byteLength before = offset := by
  rw [rest_eq, dropBytes_eq_some_iff]

theorem isBoundary_iff :
    source.isBoundary offset = true ↔
      ∃ before after, source.characters = before ++ after ∧
        byteLength before = offset := by
  rw [isBoundary, Option.isSome_iff_exists]
  constructor
  · rintro ⟨after, remains⟩
    rcases rest_eq_some_iff.mp remains with ⟨before, split⟩
    exact ⟨before, after, split⟩
  · rintro ⟨before, after, split⟩
    exact ⟨after, rest_eq_some_iff.mpr ⟨before, split⟩⟩

theorem isBoundary_of_rest (remains : source.rest offset = some after) :
    source.isBoundary offset = true := by
  rw [isBoundary, remains]
  rfl

/-- A text that stands at an offset is followed by what remains after it. -/
theorem rest_add {taken : List Char}
    (remains : source.rest offset = some (taken ++ after)) :
    source.rest (offset + byteLength taken) = some after := by
  rcases rest_eq_some_iff.mp remains with ⟨before, split, length⟩
  refine rest_eq_some_iff.mpr ⟨before ++ taken, ?_, ?_⟩
  · rw [split, List.append_assoc]
  · rw [byteLength_append, length]

theorem rest_add_character {character : Char}
    (remains : source.rest offset = some (character :: after)) :
    source.rest (offset + character.utf8Size) = some after := by
  have split : source.rest offset = some ([character] ++ after) := remains
  simpa using rest_add split

theorem length_of_rest (remains : source.rest offset = some after) :
    offset + byteLength after = source.length := by
  rcases rest_eq_some_iff.mp remains with ⟨before, split, length⟩
  rw [source.length_eq, split, byteLength_append, length]

theorem le_length_of_rest (remains : source.rest offset = some after) :
    offset ≤ source.length := by
  have total := length_of_rest remains
  omega

theorem rest_zero : source.rest 0 = some source.characters :=
  rest_eq_some_iff.mpr ⟨[], rfl, rfl⟩

theorem rest_ofCharacters_zero (characters : List Char) :
    (ofCharacters characters).rest 0 = some characters := rest_zero

theorem textBefore_of_split (split : source.characters = before ++ after) :
    source.textBefore (byteLength before) = before := by
  rw [textBefore, split, takeBytes_byteLength]

/-- What stands between an offset and the end of a text there is that text. -/
theorem between_of_rest {taken : List Char}
    (remains : source.rest offset = some (taken ++ after)) :
    source.between offset (offset + byteLength taken) = taken := by
  rw [between, restOrEmpty, remains, Option.getD_some,
    Nat.add_sub_cancel_left, takeBytes_byteLength]

theorem slice?_of_rest {taken : List Char}
    (remains : source.rest offset = some (taken ++ after)) :
    source.slice? offset (offset + byteLength taken) = some taken := by
  rw [slice?, if_pos ⟨Nat.le_add_right offset _, isBoundary_of_rest remains,
    isBoundary_of_rest (rest_add remains)⟩, between_of_rest remains]

end Source

end OrderedChoice
