import OrderedChoice.Text.Escape

/-!
# Escaped texts

Between apostrophes a character takes one of three forms: itself, a letter behind
a backslash, or its number in braces behind one.  Each form shows by itself where
it ends and which character it is for, whatever follows it.  None starts with an
apostrophe, so the mark that closes a text is the first one that no form takes up.

Which characters are written by number depends on where they stand.  That makes
no difference here, since every form is read in the same way.
-/

namespace OrderedChoice

/-! ## Digits -/

theorem exists_of_mem_toDigits {base value : Nat} {character : Char}
    (large : 1 < base) (member : character ∈ Nat.toDigits base value) :
    ∃ digit : Nat, character = digit.digitChar := by
  induction value using Nat.strongRecOn with
  | _ value inductiveStep =>
      rw [Nat.toDigits_eq_if large] at member
      split at member
      · exact ⟨value, List.mem_singleton.mp member⟩
      · rcases List.mem_append.mp member with front | last
        · exact inductiveStep _ (Nat.div_lt_self (by omega) large) front
        · exact ⟨_, List.mem_singleton.mp last⟩

theorem eq_of_digitChar_eq {first second : Nat} (small : first < 16)
    (otherSmall : second < 16) (same : first.digitChar = second.digitChar) :
    first = second := by
  have table : ∀ left < 16, ∀ right < 16,
      left.digitChar = right.digitChar → left = right := by
    decide
  exact table first small second otherSmall same

theorem digits_append_ne_singleton {base value : Nat} (last only : Char) :
    Nat.toDigits base value ++ [last] ≠ [only] := by
  intro same
  have front : 0 < (Nat.toDigits base value).length := Nat.length_toDigits_pos
  have lengths := congrArg List.length same
  rw [List.length_append] at lengths
  simp only [List.length_singleton] at lengths
  omega

/-- Numbers with the same digits are the same. -/
theorem eq_of_toDigits_eq {base first second : Nat} (large : 1 < base)
    (named : base ≤ 16)
    (same : Nat.toDigits base first = Nat.toDigits base second) :
    first = second := by
  induction first using Nat.strongRecOn generalizing second with
  | _ first inductiveStep =>
      rw [Nat.toDigits_eq_if large (n := first),
        Nat.toDigits_eq_if large (n := second)] at same
      split at same
      · split at same
        · exact eq_of_digitChar_eq (by omega) (by omega)
            (List.singleton_inj.mp same)
        · exact absurd same.symm (digits_append_ne_singleton _ _)
      · split at same
        · exact absurd same (digits_append_ne_singleton _ _)
        · rcases List.append_inj' same rfl with ⟨front, last⟩
          have quotients := inductiveStep (first / base)
            (Nat.div_lt_self (by omega) large) front
          have bound := Nat.mod_lt first (by omega : base > 0)
          have otherBound := Nat.mod_lt second (by omega : base > 0)
          have remainders := eq_of_digitChar_eq (by omega) (by omega)
            (List.singleton_inj.mp last)
          rw [← Nat.div_add_mod first base, quotients, remainders,
            Nat.div_add_mod]

/-! ## Texts up to a mark -/

/-- A text goes as far as to the first of a mark that it does not contain. -/
theorem eq_of_append_mark {mark : Char}
    {left right rest others : List Char} (absent : mark ∉ left)
    (otherAbsent : mark ∉ right)
    (same : left ++ mark :: rest = right ++ mark :: others) :
    left = right ∧ rest = others := by
  rcases List.append_eq_append_iff.mp same with
    ⟨more, rfl, behind⟩ | ⟨more, rfl, behind⟩
  · cases more with
    | nil => exact ⟨(List.append_nil _).symm, (List.cons.inj behind).2⟩
    | cons character more =>
        cases (List.cons.inj behind).1
        simp at otherAbsent
  · cases more with
    | nil => exact ⟨List.append_nil _, (List.cons.inj behind).2.symm⟩
    | cons character more =>
        cases (List.cons.inj behind).1
        simp at absent

namespace Escaping

/-! ## Forms of characters -/

/-- The letters behind a backslash and the characters that they are for. -/
def letters : List (Char × Char) :=
  [('0', '\x00'), ('t', '\t'), ('r', '\r'), ('n', '\n'), ('\\', '\\'),
    ('"', '"'), ('\'', '\'')]

/-- The forms that a character takes between apostrophes. -/
inductive Form : Char → List Char → Prop where
  | plain {character : Char} (notBackslash : character ≠ '\\')
      (notMark : character ≠ '\'') : Form character [character]
  | letter {written character : Char}
      (listed : (written, character) ∈ letters) :
      Form character ['\\', written]
  | number (character : Char) : Form character (byNumber character)

theorem form_character {escaping : Escaping}
    (marks : escaping.apostrophe = true) (plain : Char) :
    Form plain (escaping.character plain) := by
  unfold character
  split
  case h_7 =>
    rename_i notBackslash _
    split
    · rename_i mark
      subst mark
      exact .letter (by decide)
    · rename_i notMark
      split
      · exact .number plain
      · split
        · exact .plain notBackslash notMark
        · exact .number plain
  all_goals exact .letter (by decide)

theorem letters_functional {written first second : Char}
    (listed : (written, first) ∈ letters)
    (otherListed : (written, second) ∈ letters) : first = second := by
  have table : ∀ entry ∈ letters, ∀ other ∈ letters,
      entry.1 = other.1 → entry.2 = other.2 := by
    decide
  exact table _ listed _ otherListed rfl

/-- No letter is taken for the start of a number. -/
theorem ne_of_listed {written character : Char}
    (listed : (written, character) ∈ letters) : written ≠ 'u' := by
  have table : ∀ entry ∈ letters, entry.1 ≠ 'u' := by decide
  exact table _ listed

theorem brace_not_mem_toDigits (value : Nat) :
    '\x7d' ∉ Nat.toDigits 16 value := by
  intro member
  rcases exists_of_mem_toDigits (by decide) member with ⟨digit, same⟩
  exact Nat.digitChar_ne '\x7d' (by decide) same.symm

theorem byNumber_unique {first second : Char} {rest others : List Char}
    (same : byNumber first ++ rest = byNumber second ++ others) :
    first = second ∧ rest = others := by
  have digits : Nat.toDigits 16 first.toNat ++ '\x7d' :: rest =
      Nat.toDigits 16 second.toNat ++ '\x7d' :: others := by
    simpa [byNumber] using same
  rcases eq_of_append_mark (brace_not_mem_toDigits _)
    (brace_not_mem_toDigits _) digits with ⟨sameDigits, sameRest⟩
  have number : first.toNat = second.toNat :=
    eq_of_toDigits_eq (by decide) (by decide) sameDigits
  refine ⟨?_, sameRest⟩
  rw [← Char.ofNat_toNat first, number, Char.ofNat_toNat]

/-- A form shows which character it is for, and where it ends. -/
theorem Form.unique {first second : Char} {left right rest others : List Char}
    (form : Form first left) (other : Form second right)
    (same : left ++ rest = right ++ others) :
    first = second ∧ rest = others := by
  cases form with
  | plain notBackslash notMark =>
      cases other with
      | plain => exact List.cons.inj same
      | letter => exact absurd (List.cons.inj same).1 notBackslash
      | number => exact absurd (List.cons.inj same).1 notBackslash
  | letter listed =>
      cases other with
      | plain notBackslash =>
          exact absurd (List.cons.inj same).1.symm notBackslash
      | letter otherListed =>
          rcases List.cons.inj (List.cons.inj same).2 with ⟨rfl, sameRest⟩
          exact ⟨letters_functional listed otherListed, sameRest⟩
      | number =>
          exact absurd (List.cons.inj (List.cons.inj same).2).1
            (ne_of_listed listed)
  | number =>
      cases other with
      | plain notBackslash =>
          exact absurd (List.cons.inj same).1.symm notBackslash
      | letter listed =>
          exact absurd (List.cons.inj (List.cons.inj same).2).1.symm
            (ne_of_listed listed)
      | number => exact byNumber_unique same

theorem Form.head_ne_mark {character : Char} {text rest others : List Char}
    (form : Form character text) : text ++ rest ≠ '\'' :: others := by
  intro same
  cases form with
  | plain _ notMark => exact notMark (List.cons.inj same).1
  | letter => cases (List.cons.inj same).1
  | number => cases (List.cons.inj same).1

/-! ## Forms of texts -/

/-- A text in which each character takes one of its forms. -/
inductive Forms : List Char → List Char → Prop where
  | nil : Forms [] []
  | cons {character : Char} {text characters more : List Char}
      (form : Form character text) (rest : Forms characters more) :
      Forms (character :: characters) (text ++ more)

theorem forms_flatMap {escaping : Escaping}
    (marks : escaping.apostrophe = true) (characters : List Char) :
    Forms characters (characters.flatMap escaping.character) := by
  induction characters with
  | nil => exact .nil
  | cons character characters inductiveStep =>
      exact .cons (form_character marks character) inductiveStep

theorem forms_escapeDescription (description : List Char) :
    Forms description (escapeDescription description) := by
  cases description with
  | nil => exact .nil
  | cons first others =>
      exact .cons (form_character rfl first) (forms_flatMap rfl others)

/-- A text up to its closing mark shows which characters it is for. -/
theorem Forms.unique {first second left right rest others : List Char}
    (forms : Forms first left) (other : Forms second right)
    (same : left ++ '\'' :: rest = right ++ '\'' :: others) :
    first = second ∧ rest = others := by
  induction forms generalizing second right with
  | nil =>
      cases other with
      | nil => exact ⟨rfl, (List.cons.inj same).2⟩
      | cons form _ =>
          rw [List.append_assoc] at same
          exact absurd same.symm form.head_ne_mark
  | cons form _ inductiveStep =>
      rw [List.append_assoc] at same
      cases other with
      | nil => exact absurd same form.head_ne_mark
      | cons otherForm otherForms =>
          rw [List.append_assoc] at same
          rcases form.unique otherForm same with ⟨rfl, further⟩
          rcases inductiveStep otherForms further with ⟨rfl, sameRest⟩
          exact ⟨rfl, sameRest⟩

end Escaping

end OrderedChoice
