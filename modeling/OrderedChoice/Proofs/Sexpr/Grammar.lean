import OrderedChoice.Proofs.Parser.LongestPrefix
import OrderedChoice.Proofs.Sexpr.Tokens

/-!
# The grammar of programs

What a program is, as a grammar with values.  Where a token ends depends on what
follows it, so a text is derived from a part of the grammar before what follows.
-/

namespace OrderedChoice.Sexpr

open OrderedChoice.Parser
open OrderedChoice.Regex (CharSet Term)

/-! ## Derivations -/

/-- The parts of the grammar, by what they denote. -/
inductive Part : Type → Type where
  | expression : Part Sexpr
  | sequence : Part (List Sexpr)
  | program : Part (List Sexpr)

/-- The texts derived from each part before what follows, with what they
denote. -/
inductive Derives :
    {α : Type} → Part α → List Char → List Char → α → Prop where
  | true {white after : List Char} (ignorable : Ignorable white after) :
      Derives .expression ("#t".toList ++ white) after (.bool true)
  | false {white after : List Char} (ignorable : Ignorable white after) :
      Derives .expression ("#f".toList ++ white) after (.bool false)
  | number {digits white after : List Char} {value : Nat}
      (numeral : Numeral digits value)
      (ends : digitSet.StopsAt (white ++ after))
      (ignorable : Ignorable white after) :
      Derives .expression (digits ++ white) after (.number value)
  | symbol {word white after : List Char} (isWord : Word word)
      (ends : wordSet.StopsAt (white ++ after))
      (ignorable : Ignorable white after) :
      Derives .expression (word ++ white) after (.symbol (String.ofList word))
  | list {before text white after : List Char} {values : List Sexpr}
      (ignorableBefore : Ignorable before (text ++ (')' :: white ++ after)))
      (derives : Derives .sequence text (')' :: white ++ after) values)
      (ignorable : Ignorable white after) :
      Derives .expression ('(' :: before ++ text ++ ')' :: white) after
        (.list values)
  | quotation {text after : List Char} {value : Sexpr}
      (derives : Derives .expression text after value) :
      Derives .expression ('\'' :: text) after (quoteForm value)
  | nil {after : List Char} : Derives .sequence [] after []
  | cons {text rest after : List Char} {value : Sexpr} {values : List Sexpr}
      (first : Derives .expression text (rest ++ after) value)
      (others : Derives .sequence rest after values) :
      Derives .sequence (text ++ rest) after (value :: values)
  | program {lead text after : List Char} {values : List Sexpr}
      (ignorable : Ignorable lead (text ++ after))
      (derives : Derives .sequence text after values) :
      Derives .program (lead ++ text) after values

/-- The parser for expressions. -/
def self : Parser Rule Sexpr := .ref .expression

/-- The parser for a part. -/
def Part.parser : ∀ {α : Type}, Part α → Parser Rule α
  | _, .expression => self
  | _, .sequence => many self
  | _, .program => Sexpr.parser

/-! ## Taking expressions -/

section

variable {text white after rest : List Char}

theorem refuses_form (stops : (CharSet.single '('.toNat).StopsAt rest) :
    (form self).Refuses rules rest :=
  refuses_map _ <| refuses_skip _ <| refuses_andThen _ <| refuses_lexeme <|
    refuses_literal_of_stopsAt '(' rfl stops

theorem refuses_quotation (stops : (CharSet.single '\''.toNat).StopsAt rest) :
    (quotation self).Refuses rules rest :=
  refuses_andThen _ (refuses_literal_of_stopsAt '\'' rfl stops)

theorem refuses_boolean (stops : (CharSet.single '#'.toNat).StopsAt rest) :
    (boolean : Parser Rule Sexpr).Refuses rules rest :=
  refuses_orElse
    (refuses_map _ (refuses_lexeme (refuses_literal_of_stopsAt '#' rfl stops)))
    (refuses_map _ (refuses_lexeme (refuses_literal_of_stopsAt '#' rfl stops)))

theorem refuses_numeral (stops : digitSet.StopsAt rest) :
    (numeral : Parser Rule Sexpr).Refuses rules rest :=
  refuses_bind _ <| refuses_lexeme <|
    refuses_matching (Regex.refuses_repetition Nat.one_pos stops)

theorem refuses_name (stops : wordSet.StopsAt rest) :
    (name : Parser Rule Sexpr).Refuses rules rest :=
  refuses_map _ <| refuses_lexeme <|
    refuses_matching (Regex.refuses_repetition Nat.one_pos stops)

/-- Digits are taken up to something else. -/
theorem takes_digits (nonempty : text ≠ []) (covers : digitSet.Covers text)
    (ends : digitSet.StopsAt after) :
    (matching digitsPattern (.number 0) : Parser Rule String).Takes rules text
      after (String.ofList text) := by
  apply takes_matching
  refine Regex.prefers_repetition ?_ ?_ ends
  · nofun
  · exact CharSet.mem_language_repetition_iff.mpr
      ⟨covers, List.length_pos_iff.mpr nonempty, nofun⟩

/-- So are words. -/
theorem takes_word (nonempty : text ≠ []) (covers : wordSet.Covers text)
    (ends : wordSet.StopsAt after) :
    (matching symbolPattern (.number 0) : Parser Rule String).Takes rules text
      after (String.ofList text) := by
  apply takes_matching
  refine Regex.prefers_repetition ?_ ?_ ends
  · nofun
  · exact CharSet.mem_language_repetition_iff.mpr
      ⟨covers, List.length_pos_iff.mpr nonempty, nofun⟩

/-- Digits that fit into no number are given back. -/
theorem refuses_numeral_of_oversized (nonempty : text ≠ [])
    (covers : digitSet.Covers text) (ends : digitSet.StopsAt after)
    (oversized : numberOf? text = none) :
    (numeral : Parser Rule Sexpr).Refuses rules (text ++ after) := by
  rcases @exists_takes_ignored Rule rules after with
    ⟨white, later, value, rfl, ignorable, bare, _⟩
  have takes := takes_lexeme (takes_digits nonempty covers ends) ignorable bare
  rw [← List.append_assoc]
  apply refuses_bind_second takes
  rw [String.toList_ofList, oversized]
  exact refuses_fail _ _

/-- A word that is no number is refused by the parser for numbers. -/
theorem refuses_numeral_of_word (isWord : Word text)
    (ends : wordSet.StopsAt after) :
    (numeral : Parser Rule Sexpr).Refuses rules (text ++ after) := by
  rcases digitSet.exists_run text with ⟨digits, rest, rfl, covers, stops⟩
  rw [List.append_assoc]
  have stopsAfter := CharSet.stopsAt_append stops (digitSet_stopsAt ends)
  cases digits with
  | nil => exact refuses_numeral stopsAfter
  | cons character digits =>
      exact refuses_numeral_of_oversized (List.cons_ne_nil _ _) covers
        stopsAfter (isWord.oversized _ _ rfl (List.cons_ne_nil _ _) covers stops)

/-- An expression that starts no list and is not quoted is an atom. -/
theorem takes_self_of_atom {value : Sexpr}
    (noList : (CharSet.single '('.toNat).StopsAt (text ++ after))
    (noQuotation : (CharSet.single '\''.toNat).StopsAt (text ++ after))
    (takes : (atom : Parser Rule Sexpr).Takes rules text after value) :
    self.Takes rules text after value := by
  apply takes_ref rfl
  apply takes_firstOf [form self, quotation self] ?_ takes
  simp only [List.forall_mem_cons]
  exact ⟨refuses_form noList, refuses_quotation noQuotation, nofun⟩

/-- Nothing that an expression can start with. -/
theorem refuses_self (noList : (CharSet.single '('.toNat).StopsAt rest)
    (noQuotation : (CharSet.single '\''.toNat).StopsAt rest)
    (noBoolean : (CharSet.single '#'.toNat).StopsAt rest)
    (noWord : wordSet.StopsAt rest) : self.Refuses rules rest := by
  apply refuses_ref rfl
  apply refuses_firstOf
  simp only [List.forall_mem_cons]
  refine ⟨refuses_form noList, refuses_quotation noQuotation, ?_, nofun⟩
  apply refuses_firstOf
  simp only [List.forall_mem_cons]
  exact ⟨refuses_boolean noBoolean, refuses_numeral (digitSet_stopsAt noWord),
    refuses_name noWord, nofun⟩

theorem refuses_self_nil : self.Refuses rules [] :=
  refuses_self CharSet.stopsAt_nil CharSet.stopsAt_nil CharSet.stopsAt_nil
    CharSet.stopsAt_nil

theorem refuses_self_closing (rest : List Char) :
    self.Refuses rules (')' :: rest) :=
  refuses_self (CharSet.stopsAt_cons_iff.mpr (by decide))
    (CharSet.stopsAt_cons_iff.mpr (by decide))
    (CharSet.stopsAt_cons_iff.mpr (by decide))
    (CharSet.stopsAt_cons_iff.mpr (by decide))

theorem takes_quotation {value : Sexpr}
    (takes : self.Takes rules text after value) :
    self.Takes rules ('\'' :: text) after (quoteForm value) := by
  apply takes_ref rfl
  apply takes_firstOf [form self]
  · rw [List.forall_mem_singleton]
    exact refuses_form (CharSet.stopsAt_cons_iff.mpr (by decide))
  · exact takes_andThen (takes_literal "'" _) (takes_map quoteForm takes)

variable (ignorable : Ignorable white after) (bare : Bare after)

include ignorable bare

theorem takes_true :
    self.Takes rules ("#t".toList ++ white) after (.bool true) := by
  apply takes_self_of_atom (CharSet.stopsAt_cons_iff.mpr (by decide))
    (CharSet.stopsAt_cons_iff.mpr (by decide))
  apply takes_firstOf [] nofun
  apply takes_orElse
  exact takes_map (fun _ => Sexpr.bool true)
    (takes_lexeme (takes_literal "#t" _) ignorable bare)

theorem takes_false :
    self.Takes rules ("#f".toList ++ white) after (.bool false) := by
  apply takes_self_of_atom (CharSet.stopsAt_cons_iff.mpr (by decide))
    (CharSet.stopsAt_cons_iff.mpr (by decide))
  apply takes_firstOf [] nofun
  apply takes_orElse_second
  · apply refuses_map
    apply refuses_lexeme
    apply refuses_literal
    rintro ⟨rest, split⟩
    cases split
  · exact takes_map (fun _ => Sexpr.bool false)
      (takes_lexeme (takes_literal "#f" _) ignorable bare)

theorem takes_numeral {value : Nat} (isNumeral : Numeral text value)
    (ends : digitSet.StopsAt (white ++ after)) :
    (numeral : Parser Rule Sexpr).Takes rules (text ++ white) after
      (.number value) := by
  have digits := takes_digits isNumeral.nonempty isNumeral.covers ends
  apply takes_bind_success (takes_lexeme digits ignorable bare)
  rw [String.toList_ofList, isNumeral.fits]

theorem takes_number {value : Nat} (isNumeral : Numeral text value)
    (ends : digitSet.StopsAt (white ++ after)) :
    self.Takes rules (text ++ white) after (.number value) := by
  have noMark : ∀ mark, wordSet.contains mark = false →
      (CharSet.single mark).StopsAt (text ++ white ++ after) := by
    rw [List.append_assoc]
    exact fun mark => stopsAt_mark isNumeral.nonempty
      (covers_word_of_digits isNumeral.covers) _
  apply takes_self_of_atom (noMark _ (by decide)) (noMark _ (by decide))
  apply takes_firstOf [boolean]
  · rw [List.forall_mem_singleton]
    exact refuses_boolean (noMark _ (by decide))
  · exact takes_numeral ignorable bare isNumeral ends

theorem takes_symbol (isWord : Word text)
    (ends : wordSet.StopsAt (white ++ after)) :
    self.Takes rules (text ++ white) after
      (.symbol (String.ofList text)) := by
  have noMark : ∀ mark, wordSet.contains mark = false →
      (CharSet.single mark).StopsAt (text ++ white ++ after) := by
    rw [List.append_assoc]
    exact fun mark => stopsAt_mark isWord.nonempty isWord.covers _
  apply takes_self_of_atom (noMark _ (by decide)) (noMark _ (by decide))
  apply takes_firstOf [boolean, numeral]
  · simp only [List.forall_mem_cons]
    refine ⟨refuses_boolean (noMark _ (by decide)), ?_, nofun⟩
    rw [List.append_assoc]
    exact refuses_numeral_of_word isWord ends
  · have word := takes_word isWord.nonempty isWord.covers ends
    exact takes_map symbol (takes_lexeme word ignorable bare)

theorem takes_list {before : List Char} {values : List Sexpr}
    (ignorableBefore : Ignorable before (text ++ (')' :: white ++ after)))
    (bareText : Bare (text ++ (')' :: white ++ after)))
    (takes : (many self).Takes rules text (')' :: white ++ after) values) :
    self.Takes rules ('(' :: before ++ text ++ ')' :: white) after
      (.list values) := by
  apply takes_ref rfl
  apply takes_firstOf [] nofun
  apply takes_map list
  have opened : (lexeme (literal "(")).Takes rules ('(' :: before)
      (text ++ (')' :: white ++ after)) "(" :=
    takes_lexeme (takes_literal "(" _) ignorableBefore bareText
  exact takes_skip (takes_andThen opened takes)
    (takes_lexeme (takes_literal ")" _) ignorable bare)

end

/-! ## How derived texts start -/

/-- How the texts of a part start. -/
def Part.Opens : ∀ {α : Type}, Part α → List Char → Prop
  | _, .expression, text => text ≠ [] ∧ Bare text
  | _, .sequence, text => Bare text
  | _, .program, _ => True

/-- Nothing that is ignored stands before an expression. -/
theorem opens_of_derives {α : Type} {part : Part α} {text after : List Char}
    {value : α} (derives : Derives part text after value) :
    part.Opens text := by
  induction derives with
  | true => exact ⟨List.cons_ne_nil _ _, bare_cons_iff.mpr (by decide)⟩
  | false => exact ⟨List.cons_ne_nil _ _, bare_cons_iff.mpr (by decide)⟩
  | @number digits white after value numeral ends ignorable =>
      exact ⟨List.append_ne_nil_of_left_ne_nil numeral.nonempty white,
        bare_word numeral.nonempty (covers_word_of_digits numeral.covers) white⟩
  | @symbol word white after isWord ends ignorable =>
      exact ⟨List.append_ne_nil_of_left_ne_nil isWord.nonempty white,
        bare_word isWord.nonempty isWord.covers white⟩
  | list => exact ⟨List.cons_ne_nil _ _, bare_cons_iff.mpr (by decide)⟩
  | quotation => exact ⟨List.cons_ne_nil _ _, bare_cons_iff.mpr (by decide)⟩
  | nil => exact bare_nil
  | cons first others firstStep othersStep =>
      exact firstStep.2.append othersStep
  | program => trivial

/-- Only what comes first of what follows matters. -/
theorem Derives.recontext {α : Type} {part : Part α}
    {text after later : List Char} {value : α}
    (derives : Derives part text after value)
    (like : StartsLike later after) : Derives part text later value := by
  induction derives generalizing later with
  | true ignorable => exact .true (ignorable.recontext like)
  | false ignorable => exact .false (ignorable.recontext like)
  | number numeral ends ignorable =>
      exact .number numeral ((like.append _).stopsAt ends)
        (ignorable.recontext like)
  | symbol isWord ends ignorable =>
      exact .symbol isWord ((like.append _).stopsAt ends)
        (ignorable.recontext like)
  | list ignorableBefore derives ignorable inductiveStep =>
      exact .list (ignorableBefore.recontext ((like.append _).append _))
        (inductiveStep (like.append _)) (ignorable.recontext like)
  | quotation derives inductiveStep => exact .quotation (inductiveStep like)
  | nil => exact .nil
  | cons first others firstStep othersStep =>
      exact .cons (firstStep (like.append _)) (othersStep like)
  | program ignorable derives inductiveStep =>
      exact .program (ignorable.recontext (like.append _)) (inductiveStep like)

/-! ## Taking derived texts -/

/-- What has to follow a part for the parser to end there. -/
def Part.Closes : ∀ {α : Type}, Part α → List Char → Prop
  | _, .expression, after => Bare after
  | _, .sequence, after => Bare after ∧ self.Refuses rules after
  | _, .program, after => Bare after ∧ self.Refuses rules after

theorem bare_closing (rest : List Char) : Bare (')' :: rest) :=
  bare_cons_iff.mpr (by decide)

/-- The parser for a part takes every text derived from it.  The induction is on
the derivation. -/
theorem takes_part {α : Type} {part : Part α} {text after : List Char}
    {value : α} (derives : Derives part text after value)
    (closes : part.Closes after) :
    part.parser.Takes rules text after value := by
  induction derives with
  | true ignorable => exact takes_true ignorable closes
  | false ignorable => exact takes_false ignorable closes
  | number numeral ends ignorable =>
      exact takes_number ignorable closes numeral ends
  | symbol isWord ends ignorable =>
      exact takes_symbol ignorable closes isWord ends
  | list ignorableBefore derives ignorable inductiveStep =>
      exact takes_list ignorable closes ignorableBefore
        ((opens_of_derives derives).append (bare_closing _))
        (inductiveStep ⟨bare_closing _, refuses_self_closing _⟩)
  | quotation derives inductiveStep =>
      exact takes_quotation (inductiveStep closes)
  | nil => exact takes_many_nil closes.2
  | cons first others firstStep othersStep =>
      have bareRest := (opens_of_derives others).append closes.1
      exact takes_many_cons (firstStep bareRest) (othersStep closes)
  | program ignorable derives inductiveStep =>
      rcases takes_ignored ignorable
        ((opens_of_derives derives).append closes.1) with ⟨_, takes⟩
      exact takes_andThen takes (inductiveStep closes)

/-! ## Deriving taken texts -/

/-- Expressions before what is not ignored. -/
def Derived : Passing Sexpr := fun text after value =>
  Derives .expression text after value ∧ Bare after

theorem derives_of_rows {text after : List Char} {values : List Sexpr}
    (rows : Rows Derived text after values) :
    Derives .sequence text after values := by
  induction rows with
  | nil => exact .nil
  | cons first _ inductiveStep => exact .cons first.1 inductiveStep

theorem bare_of_rows {text after : List Char} {values : List Sexpr}
    (rows : Rows Derived text after values) (bare : Bare (text ++ after)) :
    Bare after := by
  induction rows with
  | nil => exact bare
  | cons first _ inductiveStep => exact inductiveStep first.2

section

variable {rest : List Char}

theorem scans_boolean :
    (boolean : Parser Rule Sexpr).Scans rules rest Derived := by
  apply scans_orElse
  · apply scans_map
    apply scans_lexeme
    apply scans_literal
    rintro after rfl white later rfl ignorable bare
    exact ⟨.true ignorable, bare⟩
  · intro _
    apply scans_map
    apply scans_lexeme
    apply scans_literal
    rintro after rfl white later rfl ignorable bare
    exact ⟨.false ignorable, bare⟩

theorem scans_numeral :
    (numeral : Parser Rule Sexpr).Scans rules rest Derived := by
  apply scans_bind
  apply scans_lexeme
  apply scans_run (Nat.le_refl 1) rfl
  rintro digits after rfl covers enough stops white later rfl ignorable bare
  rw [String.toList_ofList]
  cases fits : numberOf? digits with
  | none => exact .refuses (refuses_fail _ _)
  | some value =>
      apply scans_success
      rw [List.append_nil]
      have numeral : Numeral digits value :=
        ⟨List.length_pos_iff.mp enough, covers, fits⟩
      exact ⟨.number numeral stops ignorable, bare⟩

/-- Where no number is taken, a word is none. -/
theorem word_of_refuses {word after : List Char} (nonempty : word ≠ [])
    (covers : wordSet.Covers word) (ends : wordSet.StopsAt after)
    (refuses : (Parser.orElse boolean numeral : Parser Rule Sexpr).Refuses rules
      (word ++ after)) : Word word := by
  refine ⟨nonempty, covers, ?_⟩
  rintro digits others rfl some coversDigits stops
  have stopsAfter := CharSet.stopsAt_append stops (digitSet_stopsAt ends)
  rcases @exists_takes_ignored Rule rules (others ++ after) with
    ⟨white, later, _, split, ignorable, bare, _⟩
  rw [← split] at stopsAfter
  cases fits : numberOf? digits with
  | none => rfl
  | some value =>
      have noBoolean : (boolean : Parser Rule Sexpr).Refuses rules
          (digits ++ others ++ after) :=
        refuses_boolean (stopsAt_mark nonempty covers after (by decide))
      rw [List.append_assoc, ← split, ← List.append_assoc] at noBoolean refuses
      -- Digits that fit would have been taken as a number.
      have takes := takes_numeral ignorable bare ⟨some, coversDigits, fits⟩
        stopsAfter
      exact absurd refuses (takes_orElse_second noBoolean takes).not_refuses

theorem scans_atom : (atom : Parser Rule Sexpr).Scans rules rest Derived := by
  apply scans_orElse (scans_orElse scans_boolean fun _ => scans_numeral)
  intro refuses
  apply scans_map
  apply scans_lexeme
  apply scans_run (Nat.le_refl 1) rfl
  rintro word after rfl covers enough stops white later rfl ignorable bare
  have isWord := word_of_refuses (List.length_pos_iff.mp enough) covers stops
    refuses
  exact ⟨.symbol isWord stops ignorable, bare⟩

/-- Inside an expression there are only shorter ones. -/
theorem scans_expression {size : Nat}
    (shorter : ∀ further : List Char, further.length < size →
      self.Scans rules further Derived) (within : rest.length ≤ size) :
    (expression self).Scans rules rest Derived := by
  apply scans_orElse ?_ fun _ => scans_atom
  apply scans_orElse
  · apply scans_map
    apply scans_skip
    apply scans_andThen
    apply scans_lexeme
    apply scans_literal
    rintro inner rfl before inside rfl ignorableBefore bareInside
    have short : inside.length < size := by
      simp at within
      omega
    apply (scans_many (fun further less => shorter further (by omega))
      fun text after value derived => (opens_of_derives derived.1).1).imp
    rintro text after values rfl ⟨rows, _⟩
    apply scans_lexeme
    apply scans_literal
    rintro outer rfl white later rfl ignorable bare
    exact ⟨.list ignorableBefore (derives_of_rows rows) ignorable, bare⟩
  · intro _
    apply scans_andThen
    apply scans_literal
    rintro inner rfl
    apply scans_map
    apply (shorter inner (by simp at within; omega)).imp
    rintro text after value rfl ⟨derives, bare⟩
    exact ⟨.quotation derives, bare⟩

/-- The induction is on the length of the text. -/
theorem scans_self (rest : List Char) : self.Scans rules rest Derived := by
  induction length : rest.length using Nat.strong_induction_on
    generalizing rest with
  | _ size inductiveStep =>
      apply scans_ref rfl
      exact scans_expression
        (fun further (shorter : further.length < size) =>
          inductiveStep further.length shorter further rfl)
        (Nat.le_of_eq length)

/-- Expressions are taken as far as they go, and never refused. -/
theorem exists_takes_sequence (bare : Bare rest) :
    ∃ text after values, text ++ after = rest ∧
      (many self).Takes rules text after values ∧
      Derives .sequence text after values ∧ Part.sequence.Closes after := by
  have scans : ∀ further : List Char, further.length ≤ rest.length →
      self.Scans rules further Derived := fun further _ => scans_self further
  rcases exists_takes_many scans fun text after value derived =>
      (opens_of_derives derived.1).1 with
    ⟨text, after, values, rfl, takes, rows, refuses⟩
  exact ⟨text, after, values, rfl, takes, derives_of_rows rows,
    bare_of_rows rows bare, refuses⟩

/-- So are programs. -/
theorem exists_takes_program (rest : List Char) :
    ∃ text after values, text ++ after = rest ∧
      parser.Takes rules text after values ∧
      Derives .program text after values ∧ Part.program.Closes after := by
  rcases @exists_takes_ignored Rule rules rest with
    ⟨lead, inner, _, rfl, ignorable, bare, takesLead⟩
  rcases exists_takes_sequence bare with
    ⟨text, after, values, rfl, takes, derives, closes⟩
  exact ⟨lead ++ text, after, values, List.append_assoc _ _ _,
    takes_andThen takesLead takes, .program ignorable derives, closes⟩

end

/-! ## Accepting programs -/

section

variable {text after : List Char} {values : List Sexpr}

/-- What is derived before anything is accepted on its own. -/
theorem accepts_of_derives (derives : Derives .program text after values) :
    Accepts rules parser (.ofCharacters text) values :=
  accepts_of_takes <|
    takes_part (derives.recontext (.nil after)) ⟨bare_nil, refuses_self_nil⟩

theorem scans_program (rest : List Char) :
    parser.Scans rules rest fun text after values =>
      Derives .program text after values := by
  rcases exists_takes_program rest with
    ⟨text, after, values, split, takes, derives, _⟩
  exact .takes split takes derives

theorem derives_of_accepts
    (accepts : Accepts rules parser (.ofCharacters text) values) :
    Derives .program text [] values :=
  ((scans_program text).takes_of_accepts accepts).2

end

end OrderedChoice.Sexpr
