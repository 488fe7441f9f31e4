import OrderedChoice.CommandLine.Response
import OrderedChoice.Proofs.Parser.EntryPoints
import OrderedChoice.Proofs.Text.Escaping

/-!
# Reports of values

The report of a value is its outline, and after it a line that says what was
left unparsed, if anything was.  No line of an outline starts like that one:
names, numbers and quoted texts have no newline in them and start otherwise,
and lines after the first start with a margin or a bracket.  So the report
tells whether something was left.

Parsing a whole input therefore succeeds just when parsing a part of it does
and no such line is printed.  This joins what the entry points of a parser
have to do with its run.
-/

namespace OrderedChoice

/-! ## Lines -/

/-- A line starts after a text. -/
def EndsLine (before : List Char) : Prop :=
  before = [] ∨ before.getLast? = some '\n'

/-- Some line of a text starts in a given way. -/
def HasLine (text start : List Char) : Prop :=
  ∃ before after, text = before ++ start ++ after ∧ EndsLine before

/-- No line of a text starts with the letter that the line starts with which
says what was left unparsed. -/
def Unmarked (text : List Char) : Prop := ¬ HasLine text ['u']

namespace Unmarked

variable {text further : List Char}

theorem not_hasLine (unmarked : Unmarked text) (start : List Char) :
    ¬ HasLine text ('u' :: start) := by
  rintro ⟨before, after, split, ends⟩
  refine unmarked ⟨before, start ++ after, ?_, ends⟩
  rw [split]
  simp

theorem append (unmarked : Unmarked text) (others : Unmarked further) :
    Unmarked (text ++ further) := by
  rintro ⟨before, after, split, ends⟩
  rw [List.append_assoc] at split
  rcases List.append_eq_append_iff.mp split with
    ⟨middle, atMark, rest⟩ | ⟨middle, whole, rest⟩
  · -- The line starts in the second text, after `middle`.
    refine others ⟨middle, after, by rw [rest, List.append_assoc], ?_⟩
    rcases List.eq_nil_or_concat middle with rfl | ⟨others, last, rfl⟩
    · exact .inl rfl
    · rcases ends with nothing | newline
      · simp [nothing] at atMark
      · exact .inr (by simpa [atMark] using newline)
  · cases middle with
    | nil =>
        refine others ⟨[], after, ?_, .inl rfl⟩
        simpa using rest.symm
    | cons first middle =>
        rw [List.cons_append, List.cons_append, List.nil_append,
          List.cons.injEq] at rest
        rcases rest with ⟨rfl, _⟩
        exact unmarked ⟨before, middle, by rw [whole]; simp, ends⟩

/-- A text without newlines has one line. -/
theorem of_line (plain : '\n' ∉ text) (start : text.head? ≠ some 'u') :
    Unmarked text := by
  rintro ⟨before, after, rfl, nothing | newline⟩
  · rw [nothing] at start
    exact start rfl
  · apply plain
    have member := List.mem_of_getLast? newline
    simp [member]

/-- No line starts with a letter that does not occur. -/
theorem of_not_mem (absent : 'u' ∉ text) : Unmarked text := by
  rintro ⟨before, after, rfl, _⟩
  simp at absent

end Unmarked

/-! ## Numbers -/

theorem mark_not_mem_repr (value : Nat) : 'u' ∉ value.repr.toList := by
  intro member
  rw [Nat.toList_repr] at member
  exact absurd (Nat.isDigit_of_mem_toDigits (by decide) (by decide) member)
    (by decide)

theorem mark_not_mem_repr_int (value : Int) : 'u' ∉ value.repr.toList := by
  rw [Int.repr_eq_if]
  split
  · exact mark_not_mem_repr _
  · rw [String.toList_append, List.mem_append, not_or]
    exact ⟨by decide, mark_not_mem_repr _⟩

namespace Binary64

variable {digits : List Char}

theorem mem_of_mem_dropZeros {fuel : Nat} {reversed : List Char} {power : Int}
    {character : Char}
    (member : character ∈ (dropZeros fuel reversed power).1) :
    character ∈ reversed := by
  fun_induction dropZeros fuel reversed power with
  | case1 reversed power => exact List.mem_reverse.mp member
  | case2 power fuel reversed inductiveStep =>
      exact List.mem_cons_of_mem _ (inductiveStep member)
  | case3 power fuel reversed other => exact List.mem_reverse.mp member

theorem mark_not_mem_positional (whole : Int) (absent : 'u' ∉ digits) :
    'u' ∉ positional digits whole := by
  rw [positional]
  split
  · simp [absent]
  · have padded : 'u' ∉ digits ++
        List.replicate (whole.toNat - digits.length) '0' := by
      simp [absent]
    simp only [List.mem_append, not_or]
    refine ⟨⟨fun front => padded (List.mem_of_mem_take front), by decide⟩, ?_⟩
    split
    · decide
    · exact fun fraction => padded (List.mem_of_mem_drop fraction)

theorem mark_not_mem_scientific (exponent : Int) (absent : 'u' ∉ digits) :
    'u' ∉ scientific digits exponent := by
  unfold scientific
  rw [Int.toString_eq_repr, List.mem_append, List.mem_append, not_or, not_or]
  refine ⟨⟨?_, by decide⟩, mark_not_mem_repr_int exponent⟩
  split
  · simpa using absent
  · exact absent

theorem mark_not_mem_renderMagnitude (number : Binary64) :
    'u' ∉ number.renderMagnitude := by
  rw [renderMagnitude]
  split
  · decide
  · split
    · decide
    · split
      · decide
      · rcases number.shortestDigits with ⟨value, power⟩
        dsimp only
        rcases dropped : dropZeros (Nat.toDigits 10 value).length
          (Nat.toDigits 10 value).reverse power with ⟨digits, last⟩
        have absent : 'u' ∉ digits := by
          intro member
          apply mark_not_mem_repr value
          rw [Nat.toList_repr, ← List.mem_reverse]
          apply mem_of_mem_dropZeros
          rw [dropped]
          exact member
        dsimp only
        split
        · exact mark_not_mem_positional _ absent
        · exact mark_not_mem_scientific _ absent

theorem unmarked_render (number : Binary64) :
    Unmarked number.render.toList := by
  have absent := number.mark_not_mem_renderMagnitude
  rw [render, String.toList_ofList]
  apply Unmarked.of_not_mem
  split
  · simpa using absent
  · exact absent

end Binary64

/-! ## Quoted texts -/

namespace Escaping

theorem newline_not_mem_byNumber (character : Char) :
    '\n' ∉ byNumber character := by
  intro member
  simp only [byNumber, List.mem_append, List.mem_cons, List.not_mem_nil,
    or_false, Char.reduceEq, false_or] at member
  rcases exists_of_mem_toDigits (by decide) member with ⟨digit, same⟩
  exact Nat.digitChar_ne '\n' (by decide) same.symm

theorem newline_not_mem_character (escaping : Escaping) (plain : Char) :
    '\n' ∉ escaping.character plain := by
  by_cases newline : plain = '\n'
  · subst newline
    simp [character]
  · unfold character
    split
    case h_7 =>
      split
      · split <;> simp [eq_comm, newline]
      · split
        · exact newline_not_mem_byNumber plain
        · split
          · simp [eq_comm, newline]
          · exact newline_not_mem_byNumber plain
    all_goals decide

end Escaping

theorem unmarked_quote (text : String) : Unmarked (quote text).toList := by
  rw [quote, String.toList_ofList]
  refine .of_line ?_ (by simp)
  simp [Escaping.newline_not_mem_character]

/-! ## Outlines -/

namespace Layout

/-- An outline whose texts are all unmarked. -/
inductive Plain : Layout → Prop where
  | text {content : String} (contentUnmarked : Unmarked content.toList) :
      Plain (.text content)
  | labelled {label : String} {content : Layout}
      (labelUnmarked : Unmarked label.toList) (contentPlain : Plain content) :
      Plain (.labelled label content)
  | block {opening closing : String} {entries : List Layout}
      (openingUnmarked : Unmarked opening.toList)
      (entriesPlain : ∀ entry ∈ entries, Plain entry)
      (closingUnmarked : Unmarked closing.toList) :
      Plain (.block opening entries closing)

theorem unmarked_renderAll {entries : List Layout} {margin : String}
    (marginUnmarked : Unmarked margin.toList)
    (entriesUnmarked : ∀ entry ∈ entries,
      Unmarked (entry.render margin).toList) :
    Unmarked (render.renderAll margin entries).toList := by
  induction entries with
  | nil =>
      rw [render.renderAll]
      exact .of_not_mem (by decide)
  | cons entry entries inductiveStep =>
      have ending : Unmarked ",\n".toList := .of_not_mem (by decide)
      have first := entriesUnmarked entry (by simp)
      have others := inductiveStep fun other member =>
        entriesUnmarked other (List.mem_cons_of_mem _ member)
      simp only [render.renderAll, String.toList_append]
      exact ((marginUnmarked.append first).append ending).append others

theorem Plain.unmarked_render {layout : Layout} (plain : layout.Plain)
    {margin : String} (marginUnmarked : Unmarked margin.toList) :
    Unmarked (layout.render margin).toList := by
  induction plain generalizing margin with
  | text contentUnmarked =>
      rw [render]
      exact contentUnmarked
  | labelled labelUnmarked _ inductiveStep =>
      have colon : Unmarked ": ".toList := .of_not_mem (by decide)
      simp only [render, String.toList_append]
      exact (labelUnmarked.append colon).append (inductiveStep marginUnmarked)
  | @block opening closing entries openingUnmarked _ closingUnmarked
      inductiveStep =>
      cases entries with
      | nil =>
          simp only [render, String.toList_append]
          exact openingUnmarked.append closingUnmarked
      | cons entry entries =>
          have newline : Unmarked "\n".toList := .of_not_mem (by decide)
          have ending : Unmarked ",\n".toList := .of_not_mem (by decide)
          have indented : Unmarked (margin ++ indentation).toList := by
            rw [String.toList_append]
            exact marginUnmarked.append (.of_not_mem (by decide))
          have first := inductiveStep entry (by simp) indented
          have others := unmarked_renderAll indented fun other member =>
            inductiveStep other (List.mem_cons_of_mem _ member) indented
          simp only [render, String.toList_append] at indented ⊢
          exact ((((((openingUnmarked.append newline).append indented).append
            first).append ending).append others).append marginUnmarked).append
              closingUnmarked

theorem plain_wrapped {name : String} {content : Layout}
    (nameUnmarked : Unmarked (name ++ "(").toList) (contentPlain : content.Plain) :
    (wrapped name content).Plain := by
  refine .block nameUnmarked ?_ (.of_not_mem (by decide))
  intro entry member
  rw [List.mem_singleton.mp member]
  exact contentPlain

theorem plain_ofBool (value : Bool) : (ofBool value).Plain := by
  cases value <;> exact .text (.of_line (by decide) (by decide))

theorem plain_ofList {entries : List Layout}
    (entriesPlain : ∀ entry ∈ entries, entry.Plain) :
    (ofList entries).Plain :=
  .block (.of_not_mem (by decide)) entriesPlain (.of_not_mem (by decide))

end Layout

namespace Json

open Layout

mutual

theorem plain_layout : ∀ value : Json, value.layout.Plain
  | .null => .text (.of_line (by decide) (by decide))
  | .bool value =>
    plain_wrapped (.of_not_mem (by decide)) (plain_ofBool value)
  | .number value =>
    plain_wrapped (.of_line (by decide) (by decide))
      (.text value.unmarked_render)
  | .string content =>
    plain_wrapped (.of_not_mem (by decide)) (.text (unmarked_quote content))
  | .array items =>
    plain_wrapped (.of_not_mem (by decide)) (plain_ofList (plain_layouts items))
  | .object members =>
    plain_wrapped (.of_not_mem (by decide)) <|
      .block (.of_not_mem (by decide)) (plain_memberLayouts members)
        (.of_not_mem (by decide))

theorem plain_layouts : ∀ items : List Json,
    ∀ entry ∈ layout.layouts items, entry.Plain
  | [] => by simp [layout.layouts]
  | item :: items => by
    rw [layout.layouts]
    exact List.forall_mem_cons.mpr ⟨plain_layout item, plain_layouts items⟩

theorem plain_memberLayouts : ∀ members : List (String × Json),
    ∀ entry ∈ layout.memberLayouts members, entry.Plain
  | [] => by simp [layout.memberLayouts]
  | (key, value) :: members => by
    rw [layout.memberLayouts]
    exact List.forall_mem_cons.mpr
      ⟨.labelled (unmarked_quote key) (plain_layout value),
        plain_memberLayouts members⟩

end

end Json

namespace Sexpr

open Layout

mutual

theorem plain_layout : ∀ value : Sexpr, value.layout.Plain
  | .bool value =>
    plain_wrapped (.of_not_mem (by decide)) (plain_ofBool value)
  | .number value =>
    plain_wrapped (.of_line (by decide) (by decide)) <|
      .text (.of_not_mem (mark_not_mem_repr value))
  | .symbol name =>
    plain_wrapped (.of_not_mem (by decide)) (.text (unmarked_quote name))
  | .list items =>
    plain_wrapped (.of_not_mem (by decide)) (plain_ofList (plain_layouts items))

theorem plain_layouts : ∀ items : List Sexpr,
    ∀ entry ∈ layout.layouts items, entry.Plain
  | [] => by simp [layout.layouts]
  | item :: items => by
    rw [layout.layouts]
    exact List.forall_mem_cons.mpr ⟨plain_layout item, plain_layouts items⟩

end

theorem plain_programLayout (program : List Sexpr) :
    (programLayout program).Plain := by
  apply plain_ofList
  intro entry member
  rcases List.mem_map.mp member with ⟨value, _, rfl⟩
  exact plain_layout value

end Sexpr

/-! ## What a report tells -/

namespace Response

variable {R : Type → Type} {α : Type} {rules : Rules R} {parser : Parser R α}
  {layout : α → Layout} {source : Source}

/-- Something was left just when the report has a line for it. -/
theorem hasLine_valueReport_iff {outline : Layout} (plain : outline.Plain)
    (rest : List Char) :
    HasLine (valueReport outline rest).toList "unparsed: ".toList ↔
      rest ≠ [] := by
  have unmarked : Unmarked (outline.render "" ++ "\n").toList := by
    rw [String.toList_append]
    exact (plain.unmarked_render (.of_not_mem (by decide))).append
      (.of_not_mem (by decide))
  cases rest with
  | nil =>
      rw [valueReport, List.isEmpty_nil, if_pos rfl, String.append_empty]
      simp only [ne_eq, not_true_eq_false, iff_false]
      exact unmarked.not_hasLine "nparsed: ".toList
  | cons character rest =>
      simp only [ne_eq, reduceCtorEq, not_false_eq_true, iff_true]
      rw [valueReport, List.isEmpty_cons, if_neg (by decide)]
      refine ⟨(outline.render "" ++ "\n").toList,
        (quote (String.ofList (character :: rest)) ++ "\n").toList, ?_,
        .inr ?_⟩
      · simp only [String.toList_append, List.append_assoc]
      · rw [String.toList_append]
        exact List.getLast?_concat

theorem ofParsed_of_answer {parsed : Parsed (α × List Char)} {value : α}
    {rest : List Char} (answer : parsed.answer = .ok (.ok (value, rest))) :
    (ofParsed layout parsed).code = 0 ∧
      (ofParsed layout parsed).output = valueReport (layout value) rest := by
  rw [ofParsed, answer]
  exact ⟨rfl, rfl⟩

/-- A response has code zero only where there is a value. -/
theorem exists_answer_of_code {parsed : Parsed (α × List Char)}
    (zero : (ofParsed layout parsed).code = 0) :
    ∃ value rest, parsed.answer = .ok (.ok (value, rest)) := by
  rw [ofParsed] at zero
  rcases answer : parsed.answer with abort | error | ⟨value, rest⟩
  · simp [answer] at zero
  · simp [answer] at zero
  · exact ⟨value, rest, rfl⟩

/-- The response to a whole parse is that to a value with nothing left. -/
theorem answer_map_whole {parsed : Parsed α} {value : α} {rest : List Char} :
    (parsed.map fun value => (value, ([] : List Char))).answer =
        .ok (.ok (value, rest)) ↔
      parsed.answer = .ok (.ok value) ∧ rest = [] := by
  rw [Parsed.map]
  rcases parsed.answer with abort | error | found
  · simp [Except.map]
  · simp [Except.map]
  · simp [Except.map, eq_comm]

/-- The whole of a source has a value just when a part has one and its report
says of nothing that it was left; then both reports are the same. -/
def TellsWhole (whole part : Response) : Prop :=
  (whole.code = 0 ↔
    part.code = 0 ∧ ¬ HasLine part.output.toList "unparsed: ".toList) ∧
  (whole.code = 0 → whole.output = part.output)

theorem tellsWhole_ofGrammar (rulesLibrary : rules.Within .library)
    (library : parser.Within .library)
    (plain : ∀ value, (layout value).Plain) :
    TellsWhole (ofGrammar rules parser layout false source)
      (ofGrammar rules parser layout true source) := by
  have agree : ∀ value,
      (parser.parse rules (fuelFor source) source).answer = .ok (.ok value) ↔
        (parser.parsePartial rules (fuelFor source) source).answer =
          .ok (.ok (value, [])) :=
    fun value => Parser.parse_eq_ok_iff_parsePartial rulesLibrary library
  simp only [ofGrammar, if_true, Bool.false_eq_true, if_false]
  -- A whole value is a partial one with nothing left.
  have partOfWhole : (ofParsed layout
      ((parser.parse rules (fuelFor source) source).map (·, []))).code = 0 →
      ∃ value, (parser.parse rules (fuelFor source) source).answer =
          .ok (.ok value) ∧
        (parser.parsePartial rules (fuelFor source) source).answer =
          .ok (.ok (value, [])) := by
    intro zero
    rcases exists_answer_of_code zero with ⟨value, rest, answer⟩
    have parsed := (answer_map_whole.mp answer).1
    exact ⟨value, parsed, (agree value).mp parsed⟩
  refine ⟨⟨?_, ?_⟩, ?_⟩
  · intro zero
    rcases partOfWhole zero with ⟨value, _, answer⟩
    refine ⟨(ofParsed_of_answer answer).1, ?_⟩
    rw [(ofParsed_of_answer answer).2, hasLine_valueReport_iff (plain value)]
    exact fun some => some rfl
  · rintro ⟨zero, noLine⟩
    rcases exists_answer_of_code zero with ⟨value, rest, answer⟩
    rw [(ofParsed_of_answer answer).2, hasLine_valueReport_iff (plain value),
      not_not] at noLine
    subst noLine
    have parsed := (agree value).mpr answer
    exact (ofParsed_of_answer (answer_map_whole.mpr ⟨parsed, rfl⟩)).1
  · intro zero
    rcases partOfWhole zero with ⟨value, parsed, answer⟩
    rw [(ofParsed_of_answer answer).2,
      (ofParsed_of_answer (answer_map_whole.mpr ⟨parsed, rfl⟩)).2]

theorem tellsWhole_ofSource (options : Options) (source : Source) :
    TellsWhole (ofSource { options with acceptPart := false } source)
      (ofSource { options with acceptPart := true } source) := by
  rcases options with ⟨grammar, acceptPart, input⟩
  cases grammar with
  | json =>
      exact tellsWhole_ofGrammar Json.rules_within_library
        Json.parser_within_library Json.plain_layout
  | sexpr =>
      exact tellsWhole_ofGrammar
        (Sexpr.rules_within Fragment.hasLibraryLeaves_library)
        (Sexpr.parser_within Fragment.hasLibraryLeaves_library)
        Sexpr.plain_programLayout

theorem tellsWhole_ofOptions (options : Options)
    (input : Except ReadError ByteArray) :
    TellsWhole (ofOptions { options with acceptPart := false } input)
      (ofOptions { options with acceptPart := true } input) := by
  rw [ofOptions, ofOptions]
  cases decodeInput input with
  | error error => simp [TellsWhole]
  | ok text => exact tellsWhole_ofSource options (.ofString text)

end Response

/-! ## Entry points -/

/-- What the two entry points and the report of the program have to do with
runs.  A whole parse gives the value of a run that reads everything; a partial
one gives the value of any run and what remains where it stopped.  The error of
a whole parse is what its run reports, merged with the missing end where the run
succeeded, and its position is that of the last boundary up to its offset.  For
parsers of the library a whole parse succeeds just when a partial one leaves
nothing, and what is left follows what was consumed.  So the report of a part
tells whether the whole would have had a value, and is then the same. -/
theorem Parser.entry_points_agree {R : Type → Type} {α : Type}
    (rules : Rules R) (fuel : Nat) (parser : Parser R α) (source : Source)
    (options : Options) (input : Except ReadError ByteArray) :
    (∀ value, (parser.parse rules fuel source).answer = .ok (.ok value) ↔
      ∃ stop diagnostics, source.length ≤ stop ∧
        (parser.run rules fuel source 0).answer =
          .ok ⟨.success stop value, diagnostics⟩) ∧
    (∀ value rest,
      (parser.parsePartial rules fuel source).answer =
          .ok (.ok (value, rest)) ↔
        ∃ stop diagnostics, source.Leaves stop rest ∧
          (parser.run rules fuel source 0).answer =
            .ok ⟨.success stop value, diagnostics⟩) ∧
    (∀ error, (parser.parse rules fuel source).answer = .ok (.error error) →
      ∃ result boundary,
        (parser.run rules fuel source 0).answer = .ok result ∧
        ¬ ReachesEnd source result ∧
        error.expected = (failureOf result).expected ∧
        error.index = (failureOf result).furthest.getD 0 ∧
        source.ClampsTo error.index boundary ∧
        Position.at? source boundary = .ok error.position) ∧
    (rules.Within .library → parser.Within .library →
      (∀ value, (parser.parse rules fuel source).answer = .ok (.ok value) ↔
        (parser.parsePartial rules fuel source).answer =
          .ok (.ok (value, []))) ∧
      ∀ value rest,
        (parser.parsePartial rules fuel source).answer =
            .ok (.ok (value, rest)) →
          ∃ consumed diagnostics, source.characters = consumed ++ rest ∧
            (parser.run rules fuel source 0).answer =
              .ok ⟨.success (byteLength consumed) value, diagnostics⟩) ∧
    Response.TellsWhole
      (.ofOptions { options with acceptPart := false } input)
      (.ofOptions { options with acceptPart := true } input) := by
  refine ⟨fun value => parse_eq_ok_iff,
    fun value rest => parsePartial_eq_ok_iff, ?_, ?_,
    Response.tellsWhole_ofOptions options input⟩
  · intro error failed
    rcases parse_eq_error_iff.mp failed with ⟨result, ends, early, rfl⟩
    rcases Position.at?_locate source
        (errorOf source (failureOf result)).index with
      ⟨boundary, clamps, position⟩
    exact ⟨result, boundary, ends, early, rfl, rfl, clamps, position⟩
  · intro rulesLibrary library
    exact ⟨fun value => parse_eq_ok_iff_parsePartial rulesLibrary library,
      fun value rest => split_of_parsePartial rulesLibrary library⟩

/-- A letter after a document is left, and the report says so. -/
theorem Json.letter_left_reported :
    let source := Source.ofString "null x"
    let report := fun acceptPart => Response.ofOptions
      ⟨.json, acceptPart, none⟩ (.ok "null x".toUTF8)
    (∃ consumed diagnostics, source.characters = consumed ++ ['x'] ∧
      (parser.run rules 8 source 0).answer =
        .ok ⟨.success (byteLength consumed) .null, diagnostics⟩) ∧
    (report true).code = 0 ∧ (report false).code = 1 ∧
    HasLine (report true).output.toList "unparsed: ".toList := by
  intro source report
  rcases Parser.entry_points_agree rules 8 parser source ⟨.json, false, none⟩
    (.ok "null x".toUTF8) with ⟨_, _, _, ofLibrary, tells, _⟩
  have part : (report true).code = 0 := by decide +kernel
  have whole : (report false).code = 1 := by decide +kernel
  refine ⟨?_, part, whole, ?_⟩
  · have known :
        (match (parser.parsePartial rules 8 source).answer with
        | .ok (.ok (.null, rest)) => some rest
        | _ => none) = some ['x'] := by decide +kernel
    split at known
    · rename_i rest answer
      cases known
      exact (ofLibrary rules_within_library parser_within_library).2 _ _ answer
    · cases known
  · by_contra noLine
    exact absurd (whole.symm.trans (tells.mpr ⟨part, noLine⟩)) (by decide)

end OrderedChoice
