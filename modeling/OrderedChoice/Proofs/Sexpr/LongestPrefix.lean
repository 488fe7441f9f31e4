import OrderedChoice.Proofs.Json.LongestPrefix
import OrderedChoice.Proofs.Sexpr.Grammar

/-!
# The longest program that a text starts with

A program is accepted on its own when it is derived before nothing.  Before
anything else its last token may go on.  More digits of a number may not fit any
longer; they are then a word, which is an expression too, so the parser reaches
over the number all the same.

Every token before the last one is taken as it is, since what follows it starts
with the token after it.
-/

namespace OrderedChoice.Sexpr

open OrderedChoice.Parser
open OrderedChoice.Regex (CharSet)

/-! ## Reaching over tokens -/

section

variable {token white : List Char}

/-- A token that does not go on is reached over, since what is ignored after it
goes on as far as it can. -/
theorem reaches_of_closed {value : Sexpr} (ignorable : Ignorable white [])
    (takes : ∀ further later, Ignorable (white ++ further) later → Bare later →
      self.Takes rules (token ++ (white ++ further)) later value) :
    Reaches rules self (token ++ white) := by
  intro after
  rcases ignorable.extend after with ⟨further, later, rfl, more, bare⟩
  refine ⟨further, later, value, rfl, ?_⟩
  rw [List.append_assoc]
  exact takes further later more bare

/-- A word goes on to the end of its characters. -/
theorem reaches_word (isWord : Word token) : Reaches rules self token := by
  intro after
  rcases wordSet.exists_run after with ⟨more, rest, rfl, covers, ends⟩
  rcases @exists_takes_ignored Rule rules rest with
    ⟨white, later, _, rfl, ignorable, bare, _⟩
  refine ⟨more ++ white, later, .symbol (String.ofList (token ++ more)),
    List.append_assoc _ _ _, ?_⟩
  rw [← List.append_assoc]
  exact takes_symbol ignorable bare (isWord.append covers) ends

/-- A number goes on to the end of its digits, or is the start of a word when
they do not fit. -/
theorem reaches_numeral {value : Nat} (isNumeral : Numeral token value) :
    Reaches rules self token := by
  intro after
  rcases digitSet.exists_run after with ⟨more, rest, rfl, covers, ends⟩
  have nonempty : token ++ more ≠ [] :=
    List.append_ne_nil_of_left_ne_nil isNumeral.nonempty more
  have digits : digitSet.Covers (token ++ more) :=
    CharSet.covers_append_iff.mpr ⟨isNumeral.covers, covers⟩
  cases fits : numberOf? (token ++ more) with
  | some value =>
      rcases @exists_takes_ignored Rule rules rest with
        ⟨white, later, _, rfl, ignorable, bare, _⟩
      refine ⟨more ++ white, later, .number value, List.append_assoc _ _ _, ?_⟩
      rw [← List.append_assoc]
      exact takes_number ignorable bare ⟨nonempty, digits, fits⟩ ends
  | none =>
      -- The digits are given back, and then taken as the start of a word.
      rcases reaches_word (word_of_oversized nonempty digits fits) rest with
        ⟨further, later, found, rfl, takes⟩
      refine ⟨more ++ further, later, found, List.append_assoc _ _ _, ?_⟩
      rw [← List.append_assoc]
      exact takes

/-- A token of words that stands alone may go on; before what is ignored it does
not. -/
theorem reaches_of_word {value : Sexpr} (ignorable : Ignorable white [])
    (alone : Reaches rules self token)
    (takes : ∀ white after, Ignorable white after → Bare after →
      wordSet.StopsAt (white ++ after) →
      self.Takes rules (token ++ white) after value) :
    Reaches rules self (token ++ white) := by
  cases white with
  | nil =>
      rw [List.append_nil]
      exact alone
  | cons character white =>
      exact reaches_of_closed ignorable fun further later more bare =>
        takes _ later more bare (more.stopsAt_word (List.cons_ne_nil _ _) later)

/-- A list ends with its bracket. -/
theorem reaches_list {before text : List Char} {values : List Sexpr}
    (ignorableBefore : Ignorable before (text ++ (')' :: white ++ [])))
    (derives : Derives .sequence text (')' :: white ++ []) values)
    (ignorable : Ignorable white []) :
    Reaches rules self ('(' :: before ++ text ++ ')' :: white) := by
  have takes : ∀ further later, Ignorable (white ++ further) later →
      Bare later →
      self.Takes rules ('(' :: before ++ text ++ [')'] ++ (white ++ further))
        later (.list values) := by
    intro further later more bare
    have like : StartsLike (')' :: (white ++ further) ++ later)
        (')' :: white ++ []) := fun _ first => first
    rw [List.append_assoc _ [')']]
    exact takes_list more bare (ignorableBefore.recontext (like.append text))
      ((opens_of_derives derives).append (bare_closing _))
      (takes_part (derives.recontext like)
        ⟨bare_closing _, refuses_self_closing _⟩)
  have split : '(' :: before ++ text ++ ')' :: white =
      ('(' :: before ++ text ++ [')']) ++ white := by simp
  rw [split]
  exact reaches_of_closed ignorable takes

end

/-! ## Reaching over programs -/

section

variable {lead text rest : List Char} {value : Sexpr} {values : List Sexpr}

/-- The last expression may go on, and others may follow it. -/
theorem reaches_many_last (reaches : Reaches rules self text) :
    Reaches rules (many self) text := by
  intro after
  rcases reaches after with ⟨further, rest, found, rfl, takes⟩
  have bare := ((scans_self _).passed_of_takes takes).2
  rcases exists_takes_sequence bare with
    ⟨more, later, values, rfl, takesMore, _⟩
  refine ⟨further ++ more, later, found :: values, List.append_assoc _ _ _, ?_⟩
  rw [← List.append_assoc]
  exact takes_many_cons takes takesMore

/-- An earlier expression still stands before the same character. -/
theorem reaches_many_cons (first : Derives .expression text (rest ++ []) value)
    (others : Derives .sequence rest [] values) (nonempty : rest ≠ [])
    (reaches : Reaches rules (many self) rest) :
    Reaches rules (many self) (text ++ rest) := by
  intro after
  rcases reaches after with ⟨further, later, found, rfl, takes⟩
  refine ⟨further, later, value :: found, rfl, ?_⟩
  rw [List.append_assoc]
  have bare : Bare (rest ++ further ++ later) := by
    rw [List.append_assoc]
    exact (opens_of_derives others).append_of_ne_nil nonempty _
  have before : Derives .expression text (rest ++ further ++ later) value := by
    rw [List.append_assoc]
    exact first.recontext (.of_ne_nil nonempty _ _)
  exact takes_many_cons (takes_part before bare) takes

/-- A program without expressions may go on with what is ignored, and then with
expressions. -/
theorem reaches_program_nil (ignorable : Ignorable lead []) :
    Reaches rules parser lead := by
  intro after
  rcases ignorable.extend after with ⟨further, rest, rfl, more, bare⟩
  rcases takes_ignored more bare with ⟨_, takes⟩
  rcases exists_takes_sequence bare with
    ⟨text, later, values, rfl, takesMore, _⟩
  refine ⟨further ++ text, later, values, List.append_assoc _ _ _, ?_⟩
  rw [← List.append_assoc]
  exact takes_andThen takes takesMore

theorem reaches_program (ignorable : Ignorable lead (text ++ []))
    (derives : Derives .sequence text [] values) (nonempty : text ≠ [])
    (reaches : Reaches rules (many self) text) :
    Reaches rules parser (lead ++ text) := by
  intro after
  rcases reaches after with ⟨further, later, found, rfl, takes⟩
  refine ⟨further, later, found, rfl, ?_⟩
  rw [List.append_assoc]
  have bare : Bare (text ++ further ++ later) := by
    rw [List.append_assoc]
    exact (opens_of_derives derives).append_of_ne_nil nonempty _
  have before : Ignorable lead (text ++ further ++ later) := by
    rw [List.append_assoc]
    exact ignorable.recontext (.of_ne_nil nonempty _ _)
  rcases takes_ignored before bare with ⟨_, takesLead⟩
  exact takes_andThen takesLead takes

end

/-- What the parser for a part reaches over. -/
def Part.Reached : ∀ {α : Type}, Part α → List Char → Prop
  | _, .expression, text => Reaches rules self text
  | _, .sequence, text => text ≠ [] → Reaches rules (many self) text
  | _, .program, text => Reaches rules Sexpr.parser text

/-- The parser for a part reaches over everything that is derived from it before
nothing. -/
theorem reached_of_derives {α : Type} {part : Part α} {text after : List Char}
    {value : α} (derives : Derives part text after value) (ends : after = []) :
    part.Reached text := by
  induction derives with
  | true ignorable =>
      subst ends
      exact reaches_of_closed ignorable fun _ _ => takes_true
  | false ignorable =>
      subst ends
      exact reaches_of_closed ignorable fun _ _ => takes_false
  | number numeral _ ignorable =>
      subst ends
      exact reaches_of_word ignorable (reaches_numeral numeral)
        fun white after more bare stops =>
          takes_number more bare numeral (digitSet_stopsAt stops)
  | symbol isWord _ ignorable =>
      subst ends
      exact reaches_of_word ignorable (reaches_word isWord)
        fun white after more bare stops => takes_symbol more bare isWord stops
  | list ignorableBefore derives ignorable _ =>
      subst ends
      exact reaches_list ignorableBefore derives ignorable
  | quotation _ inductiveStep =>
      intro after
      rcases inductiveStep ends after with ⟨further, later, found, rfl, takes⟩
      exact ⟨further, later, _, rfl, takes_quotation takes⟩
  | nil => exact fun nonempty => absurd rfl nonempty
  | @cons text rest after value values first others firstStep othersStep =>
      subst ends
      intro _
      cases rest with
      | nil =>
          rw [List.append_nil]
          exact reaches_many_last (firstStep rfl)
      | cons start rest =>
          have nonempty := List.cons_ne_nil start rest
          exact reaches_many_cons first others nonempty (othersStep rfl nonempty)
  | @program lead text after values ignorable derives inductiveStep =>
      subst ends
      cases text with
      | nil =>
          rw [List.append_nil]
          exact reaches_program_nil ignorable
      | cons start text =>
          have nonempty := List.cons_ne_nil start text
          exact reaches_program ignorable derives nonempty
            (inductiveStep rfl nonempty)

/-- Parsing a part of a text takes the longest program that it starts with. -/
theorem takesLongest (text : List Char) : TakesLongest rules parser text := by
  apply takesLongest_of_reaches
  · exact (scans_program text).imp fun _ _ _ _ => accepts_of_derives
  · intro before after split value accepts
    exact reached_of_derives (derives_of_accepts accepts) rfl

end OrderedChoice.Sexpr

namespace OrderedChoice

/-- Both grammars parse as much of every text as can be parsed. -/
theorem grammars_take_longest (text : List Char) :
    Parser.TakesLongest Json.rules Json.parser text ∧
      Parser.TakesLongest Sexpr.rules Sexpr.parser text :=
  ⟨Json.takesLongest text, Sexpr.takesLongest text⟩

end OrderedChoice
