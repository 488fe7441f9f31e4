import OrderedChoice.Proofs.Parser.Progress

/-!
# The bundled grammars terminate

Both bundled grammars make progress.  Where they repeat without an upper bound,
what they repeat consumes something: a piece of a string, a comma and what
follows it, a stretch of white space, a comment, an expression.  And they follow
the reference to their only rule behind something that they consumed.

So every run ends, from every offset of every source.
-/

namespace OrderedChoice

/-- How a run of a grammar ends. -/
structure Parser.RunEnds {R : Type → Type} {α : Type} (rules : Rules R)
    (parser : Parser R α) (source : Source) (index : Nat) : Prop where
  /-- With fuel for the bytes that remain and two more there is a result. -/
  ends : ∀ {fuel : Nat}, source.length - index + 2 ≤ fuel →
    ∃ result, (parser.run rules fuel source index).answer = .ok result
  /-- What is repeated without an upper bound consumes something wherever it
  succeeds. -/
  repeats : ∀ {β : Type} {item : Parser R β} {min stop : Nat},
    Parser.RunReaches rules source (.times item min none) stop parser index →
      item.Advances rules source
  /-- Between entering a rule and entering one inside it something is
  consumed. -/
  reenters : ∀ {β γ : Type} {rule : R β} {inner : R γ}
    {definition : Parser R β} {start stop : Nat},
    Parser.RunReaches rules source (.ref rule) start parser index →
      rules.definition rule = some definition →
        Parser.RunReaches rules source (.ref inner) stop definition start →
          start < stop
  /-- Rules are nested no deeper than there are bytes, and once more. -/
  nests : ∀ {depth : Nat}, Parser.Nests rules source depth parser index →
    depth ≤ source.length - index + 1

theorem Parser.runEnds_of_progress {R : Type → Type} {rules : Rules R}
    {source : Source} (rulesLibrary : rules.Within .library)
    (rulesProgress : rules.Progress source)
    (defined : ∀ {α : Type} (rule : R α), rules.definition rule ≠ none)
    {α : Type} {parser : Parser R α} (library : parser.Within .library)
    (progresses : parser.Progresses rules source false) (index : Nat) :
    parser.RunEnds rules source index where
  ends := exists_answer rulesLibrary rulesProgress defined library progresses
  repeats := fun reaches =>
    advances_of_repeats rulesLibrary rulesProgress reaches library progresses
  reenters := fun _ defines reaches =>
    lt_of_reenters rulesLibrary rulesProgress defines reaches
  nests := fun nests => (depth_le_of_nests rulesLibrary rulesProgress nests
    library progresses).1

/-! ## JSON -/

namespace Json

open Fragment

section

variable {R : Type → Type} {rules : Rules R} {source : Source} {α : Type}
  {guarded : Bool}

theorem progresses_lexeme {parser : Parser R α}
    (progresses : parser.Progresses rules source guarded) :
    (lexeme parser).Progresses rules source guarded :=
  Parser.progresses_skip progresses trivial

theorem progresses_token (text : String) :
    (token text : Parser R String).Progresses rules source guarded :=
  progresses_lexeme trivial

theorem progresses_numeral :
    (numeral : Parser R Json).Progresses rules source guarded := by
  refine ⟨trivial, .inl fun text => ?_⟩
  dsimp only
  split <;> trivial

theorem progresses_unicodeEscape :
    (unicodeEscape : Parser R String).Progresses rules source guarded := by
  refine ⟨trivial, .inl fun digits => ?_⟩
  dsimp only
  split <;> trivial

theorem progresses_escape :
    (escape : Parser R String).Progresses rules source guarded := by
  refine Parser.progresses_andThen trivial (Parser.progresses_firstOf ?_)
  have literalProgresses : ∀ text : String,
      (Parser.literal text : Parser R String).Progresses rules source
        guarded := fun _ => trivial
  have resultProgresses : ∀ text value : String,
      (Parser.result (Parser.literal text) value :
        Parser R String).Progresses rules source guarded := fun _ _ => trivial
  simp [literalProgresses, resultProgresses, progresses_unicodeEscape]

variable (rulesLibrary : rules.Within .library)
include rulesLibrary

theorem advances_token {text : String} (some : text ≠ "") :
    (token text : Parser R String).Advances rules source :=
  Parser.advances_skip rulesLibrary (Parser.advances_literal some) trivial

theorem advances_escape :
    (escape : Parser R String).Advances rules source := by
  have library := within_escape (R := R) hasLibraryLeaves_library
  exact Parser.advances_andThen rulesLibrary
    (Parser.advances_literal (by decide)) (Parser.within_andThen.mp library).2

theorem progresses_quoted :
    (quoted : Parser R String).Progresses rules source guarded := by
  refine Parser.progresses_skip (Parser.progresses_andThen trivial ?_) trivial
  exact ⟨Parser.advances_orElse (Parser.advances_matching (by decide))
    (advances_escape rulesLibrary), trivial, progresses_escape⟩

/-- Behind the bracket that opens them items may refer to rules. -/
theorem progresses_enclosed {opening closing : String} (some : opening ≠ "")
    {item : Parser R α} (library : item.Within .library)
    (progresses : item.Progresses rules source false) :
    (((token opening).andThen (item.sepBy (token ",") 0 none)).skip
      (token closing)).Progresses rules source true :=
  Parser.progresses_skip
    (Parser.progresses_andThen_of_advances (progresses_token opening)
      (advances_token rulesLibrary some)
      (Parser.progresses_sepBy rulesLibrary library progresses
        (progresses_token ",") (advances_token rulesLibrary (by decide)) 0
        none))
    (progresses_token closing)

theorem progresses_value {self : Parser R Json}
    (library : self.Within .library)
    (progresses : self.Progresses rules source false) :
    (value self).Progresses rules source true := by
  have key : ((lexeme quoted).skip (token ":") :
      Parser R String).Progresses rules source false :=
    Parser.progresses_skip
      (progresses_lexeme (progresses_quoted rulesLibrary))
      (progresses_token ":")
  have pairLibrary : (pair self).Within .library :=
    ⟨Parser.within_skip.mpr
      ⟨within_lexeme hasLibraryLeaves_library
        (within_quoted hasLibraryLeaves_library),
        within_token hasLibraryLeaves_library ":"⟩, library⟩
  have pairProgresses : (pair self).Progresses rules source false :=
    ⟨key, .inl progresses⟩
  apply Parser.progresses_firstOf
  simp only [List.forall_mem_cons]
  exact ⟨progresses_lexeme (progresses_quoted rulesLibrary),
    progresses_lexeme progresses_numeral,
    progresses_enclosed rulesLibrary (by decide) pairLibrary pairProgresses,
    progresses_enclosed rulesLibrary (by decide) library progresses,
    progresses_token "true", progresses_token "false", progresses_token "null",
    by simp⟩

end

theorem rules_progress (source : Source) : rules.Progress source := by
  intro α rule parser defined
  cases rule
  cases defined
  exact progresses_value rules_within_library trivial rfl

theorem runEnds (source : Source) (index : Nat) :
    parser.RunEnds rules source index :=
  Parser.runEnds_of_progress rules_within_library (rules_progress source)
    (fun rule => by cases rule; exact nofun) parser_within_library
    (Parser.progresses_andThen trivial rfl) index

end Json

/-! ## S-expressions -/

namespace Sexpr

open Fragment

section

variable {R : Type → Type} {rules : Rules R} {source : Source} {α : Type}
  {guarded : Bool}

theorem progresses_ignored :
    (ignored : Parser R String).Progresses rules source guarded :=
  ⟨Parser.advances_orElse (Parser.advances_matching (by decide))
    (Parser.advances_matching (by decide)), trivial, trivial⟩

theorem progresses_lexeme {parser : Parser R α}
    (progresses : parser.Progresses rules source guarded) :
    (lexeme parser).Progresses rules source guarded :=
  Parser.progresses_skip progresses progresses_ignored

theorem progresses_numeral :
    (numeral : Parser R Sexpr).Progresses rules source guarded := by
  refine ⟨progresses_lexeme trivial, .inl fun digits => ?_⟩
  dsimp only
  split <;> trivial

theorem progresses_atom :
    (atom : Parser R Sexpr).Progresses rules source guarded := by
  have leafProgresses : ∀ {β : Type} (primitive : Primitive β),
      (lexeme (.leaf primitive : Parser R β)).Progresses rules source
        guarded := fun _ => progresses_lexeme trivial
  apply Parser.progresses_firstOf
  simp only [List.forall_mem_cons]
  exact ⟨⟨leafProgresses _, leafProgresses _⟩, progresses_numeral,
    leafProgresses _, by simp⟩

variable (rulesLibrary : rules.Within .library)
include rulesLibrary

theorem advances_lexeme {parser : Parser R α}
    (advances : parser.Advances rules source) :
    (lexeme parser).Advances rules source :=
  Parser.advances_skip rulesLibrary advances
    (within_ignored hasLibraryLeaves_library)

theorem advances_numeral :
    (numeral : Parser R Sexpr).Advances rules source := by
  have library := within_numeral (R := R) hasLibraryLeaves_library
  exact Parser.advances_bind rulesLibrary
    (advances_lexeme rulesLibrary (Parser.advances_matching (by decide)))
    library.2

theorem advances_atom : (atom : Parser R Sexpr).Advances rules source := by
  have word : ∀ {text : String} (value : Sexpr), text ≠ "" →
      (Parser.result (lexeme (Parser.literal text)) value :
        Parser R Sexpr).Advances rules source := fun value some =>
    Parser.advances_map _
      (advances_lexeme rulesLibrary (Parser.advances_literal some))
  apply Parser.advances_firstOf
  simp only [List.forall_mem_cons]
  exact ⟨Parser.advances_orElse (word _ (by decide)) (word _ (by decide)),
    advances_numeral rulesLibrary,
    Parser.advances_map _
      (advances_lexeme rulesLibrary (Parser.advances_matching (by decide))),
    by simp⟩

/-- Every expression starts with something that is not left out. -/
theorem advances_expression {self : Parser R Sexpr}
    (library : self.Within .library) :
    (expression self).Advances rules source := by
  apply Parser.advances_firstOf
  simp only [List.forall_mem_cons]
  refine ⟨Parser.advances_map _ (Parser.advances_skip rulesLibrary
      (Parser.advances_andThen rulesLibrary
        (advances_lexeme rulesLibrary (Parser.advances_literal (by decide)))
        library)
      (within_lexeme hasLibraryLeaves_library trivial)),
    Parser.advances_andThen rulesLibrary
      (Parser.advances_literal (by decide)) library,
    advances_atom rulesLibrary, by simp⟩

theorem progresses_expression {self : Parser R Sexpr}
    (advances : self.Advances rules source)
    (progresses : self.Progresses rules source false) :
    (expression self).Progresses rules source true := by
  apply Parser.progresses_firstOf
  simp only [List.forall_mem_cons]
  exact ⟨Parser.progresses_skip
      (Parser.progresses_andThen_of_advances (progresses_lexeme trivial)
        (advances_lexeme rulesLibrary (Parser.advances_literal (by decide)))
        ⟨advances, progresses⟩)
      (progresses_lexeme trivial),
    Parser.progresses_andThen_of_advances trivial
      (Parser.advances_literal (by decide)) progresses,
    progresses_atom, by simp⟩

end

theorem rules_within_library : rules.Within .library :=
  rules_within hasLibraryLeaves_library

/-- The reference to an expression advances as what it stands for does. -/
theorem advances_ref (source : Source) :
    (Parser.ref Rule.expression).Advances rules source :=
  Parser.advances_ref rfl (advances_expression rules_within_library trivial)

theorem rules_progress (source : Source) : rules.Progress source := by
  intro α rule parser defined
  cases rule
  cases defined
  exact progresses_expression rules_within_library (advances_ref source) rfl

theorem runEnds (source : Source) (index : Nat) :
    parser.RunEnds rules source index :=
  Parser.runEnds_of_progress rules_within_library (rules_progress source)
    (fun rule => by cases rule; exact nofun)
    (parser_within hasLibraryLeaves_library)
    (Parser.progresses_andThen progresses_ignored ⟨advances_ref source, rfl⟩)
    index

end Sexpr

/-! ## Both grammars -/

/-- Every run of the bundled grammars ends, from every offset of every
source. -/
theorem Parser.bundled_grammars_terminate (source : Source) (index : Nat) :
    Json.parser.RunEnds Json.rules source index ∧
      Sexpr.parser.RunEnds Sexpr.rules source index :=
  ⟨Json.runEnds source index, Sexpr.runEnds source index⟩

end OrderedChoice
