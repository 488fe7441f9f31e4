import OrderedChoice.Proofs.Sexpr.Grammar

/-!
# Printing programs

An expression is printed in many ways: numbers with leading zeros, quotation
with its mark or as a list, and white space and comments between everything.
They have to separate two atoms that stand next to each other and may be left
out anywhere else, so what is printed is described with what the ends of its
text are.

However it is printed, a program is parsed to what was printed.
-/

namespace OrderedChoice.Sexpr

open OrderedChoice.Parser
open OrderedChoice.Regex (CharSet)

/-! ## Printed expressions -/

/-- What stands at an end of a printed expression. -/
inductive Edge where
  | atom
  | mark

/-- What is printed: one expression between two edges, or expressions in a row
from an edge on, with what is printed after them. -/
inductive Printed : Type → Type where
  | expression (first last : Edge) : Printed Sexpr
  | items (first : Edge) (after : List Char) : Printed (List Sexpr)

/-- The texts that something can be printed as. -/
inductive Prints : {α : Type} → Printed α → α → List Char → Prop where
  | true : Prints (.expression .atom .atom) (.bool true) "#t".toList
  | false : Prints (.expression .atom .atom) (.bool false) "#f".toList
  | number {digits : List Char} {value : Nat} (nonempty : digits ≠ [])
      (covers : digitSet.Covers digits)
      (spells : Nat.ofDigitChars 10 digits 0 = value)
      (fits : value ≤ maximumNumber) :
      Prints (.expression .atom .atom) (.number value) digits
  | symbol {name : String} (nonempty : name.toList ≠ [])
      (covers : wordSet.Covers name.toList)
      (noDigit : digitSet.StopsAt name.toList) :
      Prints (.expression .atom .atom) (.symbol name) name.toList
  | list {first : Edge} {lead text : List Char} {values : List Sexpr}
      (separator : Ignorable lead (text ++ [')']))
      (items : Prints (.items first [')']) values text) :
      Prints (.expression .mark .mark) (.list values)
        ('(' :: lead ++ text ++ [')'])
  | quotation {first last : Edge} {text : List Char} {value : Sexpr}
      (quoted : Prints (.expression first last) value text) :
      Prints (.expression .mark last) (.list [.symbol "quote", value])
        ('\'' :: text)
  | nil {after : List Char} : Prints (.items .mark after) [] []
  | cons {first last next : Edge} {text white rest after : List Char}
      {value : Sexpr} {values : List Sexpr}
      (item : Prints (.expression first last) value text)
      (separator : Ignorable white (rest ++ after))
      (apart : last = .atom → next = .atom → white ≠ [])
      (others : Prints (.items next after) values rest) :
      Prints (.items first after) (value :: values) (text ++ white ++ rest)

/-- The texts that a program can be printed as. -/
def PrintsProgram (values : List Sexpr) (text : List Char) : Prop :=
  ∃ lead items first, lead ++ items = text ∧ Ignorable lead items ∧
    Prints (.items first []) values items

/-! ## What can be printed -/

/-- Expressions that the grammar has a text for: their numbers fit and their
symbols are words that start with no digit. -/
inductive Printable : Sexpr → Prop where
  | bool (value : Bool) : Printable (.bool value)
  | number {value : Nat} (fits : value ≤ maximumNumber) :
      Printable (.number value)
  | symbol {name : String} (nonempty : name.toList ≠ [])
      (covers : wordSet.Covers name.toList)
      (noDigit : digitSet.StopsAt name.toList) : Printable (.symbol name)
  | list {values : List Sexpr} (items : ∀ value ∈ values, Printable value) :
      Printable (.list values)

theorem covers_toDigits (value : Nat) :
    digitSet.Covers (Nat.toDigits 10 value) := by
  intro digit member
  have isDigit := Nat.isDigit_of_mem_toDigits (by omega) (by omega) member
  rw [Char.isDigit_iff_toNat] at isDigit
  exact CharSet.contains_range.mpr isDigit

/-- Items that can be printed are, one blank after each. -/
theorem exists_prints_items {values : List Sexpr} (after : List Char)
    (items : ∀ value ∈ values, ∃ first last text,
      Prints (.expression first last) value text) :
    ∃ first text, Prints (.items first after) values text := by
  induction values with
  | nil => exact ⟨_, _, .nil⟩
  | cons value values inductiveStep =>
      rcases items value List.mem_cons_self with ⟨first, last, text, prints⟩
      rcases inductiveStep fun other member =>
        items other (List.mem_cons_of_mem _ member) with ⟨next, rest, others⟩
      exact ⟨_, _, .cons prints (.blank (by decide) .nil)
        (fun _ _ => List.cons_ne_nil ' ' []) others⟩

theorem exists_prints {value : Sexpr} (printable : Printable value) :
    ∃ first last text, Prints (.expression first last) value text := by
  induction printable with
  | bool value =>
      cases value with
      | true => exact ⟨_, _, _, .true⟩
      | false => exact ⟨_, _, _, .false⟩
  | @number value fits =>
      exact ⟨_, _, _, .number Nat.toDigits_ne_nil (covers_toDigits value)
        Nat.ofDigitChars_ten_toDigits fits⟩
  | symbol nonempty covers noDigit =>
      exact ⟨_, _, _, .symbol nonempty covers noDigit⟩
  | list _ inductiveStep =>
      rcases exists_prints_items [')'] inductiveStep with ⟨_, _, prints⟩
      exact ⟨_, _, _, .list .nil prints⟩

/-- Every program can be printed whose expressions can. -/
theorem exists_printsProgram {values : List Sexpr}
    (printable : ∀ value ∈ values, Printable value) :
    ∃ text, PrintsProgram values text := by
  rcases exists_prints_items [] fun value member =>
    exists_prints (printable value member) with ⟨first, items, prints⟩
  exact ⟨items, [], items, first, rfl, .nil, prints⟩

/-! ## Printed texts are derived -/

/-- Where no atom is printed first, no word goes on. -/
def Printed.Stops : ∀ {α : Type}, Printed α → List Char → Prop
  | _, .expression first _, text => first = .mark →
      ∀ after, wordSet.StopsAt (text ++ after)
  | _, .items first after, text => first = .mark →
      wordSet.StopsAt after → wordSet.StopsAt (text ++ after)

theorem stops_of_prints {α : Type} {printed : Printed α} {value : α}
    {text : List Char} (prints : Prints printed value text) :
    printed.Stops text := by
  induction prints with
  | true => exact nofun
  | false => exact nofun
  | number => exact nofun
  | symbol => exact nofun
  | list => exact fun _ after => CharSet.stopsAt_cons_iff.mpr (by decide)
  | quotation => exact fun _ after => CharSet.stopsAt_cons_iff.mpr (by decide)
  | nil => exact fun _ stops => stops
  | cons item _ _ _ itemStep =>
      intro first _
      rw [List.append_assoc, List.append_assoc]
      exact itemStep first _

/-- What printed texts are, before what may follow them. -/
def Printed.Derived : ∀ {α : Type}, Printed α → α → List Char → Prop
  | _, .expression _ last, value, text => ∀ white after,
      Ignorable white after →
      (last = .atom → wordSet.StopsAt (white ++ after)) →
      Derives .expression (text ++ white) after value
  | _, .items _ after, values, text => wordSet.StopsAt after →
      Derives .sequence text after values

/-- Everything printed is derived.  The induction is on how it is printed. -/
theorem derived_of_prints {α : Type} {printed : Printed α} {value : α}
    {text : List Char} (prints : Prints printed value text) :
    printed.Derived value text := by
  induction prints with
  | true => exact fun white after ignorable _ => .true ignorable
  | false => exact fun white after ignorable _ => .false ignorable
  | @number digits value nonempty covers spells fits =>
      intro white after ignorable stops
      refine .number ⟨nonempty, covers, ?_⟩ (digitSet_stopsAt (stops rfl))
        ignorable
      rw [numberOf?_eq, spells, if_pos fits]
  | @symbol name nonempty covers noDigit =>
      intro white after ignorable stops
      have isWord := word_of_noDigit nonempty covers noDigit
      have derives := Derives.symbol isWord (stops rfl) ignorable
      rw [String.ofList_toList] at derives
      exact derives
  | @list first lead text values separator _ itemsStep =>
      intro white after ignorable _
      have like : StartsLike (')' :: white ++ after) [')'] :=
        fun _ first => first
      have items := itemsStep (CharSet.stopsAt_cons_iff.mpr (by decide))
      rw [List.append_assoc]
      exact .list (separator.recontext (like.append text))
        (items.recontext like) ignorable
  | quotation _ quotedStep =>
      exact fun white after ignorable stops =>
        .quotation (quotedStep white after ignorable stops)
  | nil => exact fun _ => .nil
  | @cons first last next text white rest after value values item separator
      apart others itemStep othersStep =>
      intro stops
      refine .cons (itemStep white (rest ++ after) separator ?_)
        (othersStep stops)
      -- A word ends at what is ignored, or else at a mark.
      intro isAtom
      cases white with
      | cons character white =>
          exact separator.stopsAt_word (List.cons_ne_nil _ _) _
      | nil =>
          cases next with
          | atom => exact absurd rfl (apart isAtom rfl)
          | mark => exact stops_of_prints others rfl stops

/-- A printed program is parsed to the expressions it was printed from, with all
fuel from some amount on. -/
theorem parse_undoes_printing {values : List Sexpr} {text : List Char}
    (prints : PrintsProgram values text) :
    ∃ least, ∀ fuel, least ≤ fuel →
      (parser.parse rules fuel (.ofCharacters text)).answer =
        .ok (.ok values) := by
  rcases prints with ⟨lead, items, first, rfl, separator, prints⟩
  have derives := derived_of_prints prints CharSet.stopsAt_nil
  have program : Derives .program (lead ++ items) [] values := by
    refine .program ?_ derives
    rw [List.append_nil]
    exact separator
  have takes := takes_part program ⟨bare_nil, refuses_self_nil⟩
  exact (accepts_of_takes takes).eventually

/-- A comment is a separator up to the end of its line, and the last one needs no
end. -/
theorem quoted_symbol_parsed :
    let values : List Sexpr :=
      [.list [.symbol "quote", .symbol "a"], .number 7, .list []]
    let text := ";;\n'a 007();".toList
    PrintsProgram values text ∧
      ∃ least, ∀ fuel, least ≤ fuel →
        (parser.parse rules fuel (.ofCharacters text)).answer =
          .ok (.ok values) := by
  intro values text
  have prints : PrintsProgram values text := by
    have quoted : Prints (.expression .mark .atom)
        (.list [.symbol "quote", .symbol "a"]) "'a".toList :=
      .quotation <| .symbol (by decide) (CharSet.covers_iff_all.mpr rfl)
        (CharSet.stopsAt_cons_iff.mpr rfl)
    have number : Prints (.expression .atom .atom) (.number 7) "007".toList :=
      .number (by decide) (CharSet.covers_iff_all.mpr rfl) rfl (by decide)
    have empty : Prints (.expression .mark .mark) (.list []) "()".toList :=
      .list .nil .nil
    have lead : Ignorable ";;\n".toList "'a 007();".toList :=
      @Ignorable.comment [';'] ['\n'] _ (CharSet.covers_iff_all.mpr rfl)
        (CharSet.stopsAt_cons_iff.mpr rfl) (.blank (by decide) .nil)
    have last : Ignorable ";".toList [] :=
      @Ignorable.comment [] [] _ nofun CharSet.stopsAt_nil .nil
    have third : Prints (.items .mark []) [.list []] "();".toList :=
      .cons empty last nofun .nil
    have second : Prints (.items .atom []) [.number 7, .list []]
        "007();".toList := .cons number .nil (by simp) third
    have first : Prints (.items .mark []) values "'a 007();".toList :=
      .cons quoted (.blank (by decide) .nil) (by simp) second
    exact ⟨_, _, .mark, rfl, lead, first⟩
  exact ⟨prints, parse_undoes_printing prints⟩

end OrderedChoice.Sexpr
