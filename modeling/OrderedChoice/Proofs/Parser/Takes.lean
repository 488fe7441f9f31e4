import OrderedChoice.Proofs.Parser.Gives

/-!
# Taking texts

A parser takes a text before what follows when it reads just that text wherever
the two stand next to each other in a source, and refuses what remains when it
misses wherever that stands.  Taking is composed along a text, so a derivation
of a grammar is followed without counting offsets.
-/

namespace OrderedChoice.Parser

variable {R : Type → Type} {α β : Type}

/-- A parser reads a text as a value, in every source where it stands before
what follows. -/
def Takes (rules : Rules R) (parser : Parser R α) (text after : List Char)
    (value : α) : Prop :=
  ∀ source index, source.rest index = some (text ++ after) →
    parser.Reads rules source index (index + byteLength text) value

/-- A parser fails in every source where just this remains. -/
def Refuses (rules : Rules R) (parser : Parser R α) (rest : List Char) :
    Prop :=
  ∀ source index, source.rest index = some rest →
    parser.Misses rules source index

section

variable {rules : Rules R} {text further after rest : List Char}

/-! ## Laws -/

theorem takes_literal (text : String) (after : List Char) :
    (literal text : Parser R String).Takes rules text.toList after text :=
  fun _ _ remains => reads_literal remains

theorem refuses_literal {text : String} (differs : ¬ text.toList <+: rest) :
    (literal text : Parser R String).Refuses rules rest :=
  fun _ _ remains => misses_literal remains differs

theorem takes_ref {rule : R α} {parser : Parser R α} {value : α}
    (defined : rules.definition rule = some parser)
    (takes : parser.Takes rules text after value) :
    (Parser.ref rule).Takes rules text after value :=
  fun source index remains => reads_ref defined (takes source index remains)

theorem refuses_ref {rule : R α} {parser : Parser R α}
    (defined : rules.definition rule = some parser)
    (refuses : parser.Refuses rules rest) :
    (Parser.ref rule).Refuses rules rest :=
  fun source index remains => misses_ref defined (refuses source index remains)

theorem takes_map (f : α → β) {parser : Parser R α} {value : α}
    (takes : parser.Takes rules text after value) :
    (Parser.map f parser).Takes rules text after (f value) :=
  fun source index remains => reads_map f (takes source index remains)

theorem refuses_map (f : α → β) {parser : Parser R α}
    (refuses : parser.Refuses rules rest) :
    (Parser.map f parser).Refuses rules rest :=
  fun source index remains => misses_map f (refuses source index remains)

theorem takes_success (value : α) (after : List Char) :
    (success value : Parser R α).Takes rules [] after value :=
  fun _ _ _ => reads_leaf_iff.mpr rfl

theorem refuses_fail (expected : String) (rest : List Char) :
    (fail expected : Parser R α).Refuses rules rest :=
  fun _ _ _ => misses_leaf_iff.mpr rfl

theorem takes_describe (description : String) {parser : Parser R α} {value : α}
    (takes : parser.Takes rules text after value) :
    (Parser.describe parser description).Takes rules text after value :=
  fun source index remains =>
    reads_describe description (takes source index remains)

theorem refuses_describe (description : String) {parser : Parser R α}
    (refuses : parser.Refuses rules rest) :
    (Parser.describe parser description).Refuses rules rest :=
  fun source index remains =>
    misses_describe description (refuses source index remains)

theorem takes_bind {first : Parser R α} {next : α → Parser R β} {value : α}
    {last : β} (takesFirst : first.Takes rules text (further ++ after) value)
    (takesNext : (next value).Takes rules further after last) :
    (Parser.bind first next).Takes rules (text ++ further) after last := by
  intro source index remains
  rw [List.append_assoc] at remains
  rw [byteLength_append, ← Nat.add_assoc]
  exact reads_bind (takesFirst source index remains)
    (takesNext source _ (Source.rest_add remains))

/-- A parser that turns a value into another or refuses it takes what it
accepts. -/
theorem takes_bind_success {first : Parser R α} {next : α → Parser R β}
    {value : α} {last : β} (takes : first.Takes rules text after value)
    (accepts : next value = success last) :
    (Parser.bind first next).Takes rules text after last := by
  have takesNext : (next value).Takes rules [] after last := by
    rw [accepts]
    exact takes_success last after
  have takesBoth := takes_bind takes takesNext
  rw [List.append_nil] at takesBoth
  exact takesBoth

theorem refuses_bind {first : Parser R α} (next : α → Parser R β)
    (refuses : first.Refuses rules rest) :
    (Parser.bind first next).Refuses rules rest :=
  fun source index remains => misses_bind next (refuses source index remains)

/-- What the first parser takes is given back where the one that it selects
refuses. -/
theorem refuses_bind_second {first : Parser R α} {next : α → Parser R β}
    {value : α} (takes : first.Takes rules text after value)
    (refuses : (next value).Refuses rules after) :
    (Parser.bind first next).Refuses rules (text ++ after) :=
  fun source index remains =>
    misses_bind_second (takes source index remains)
      (refuses source _ (Source.rest_add remains))

theorem takes_both {first : Parser R α} {second : Parser R β} {left : α}
    {right : β} (takesFirst : first.Takes rules text (further ++ after) left)
    (takesSecond : second.Takes rules further after right) :
    (Parser.both first second).Takes rules (text ++ further) after
      (left, right) := by
  intro source index remains
  rw [List.append_assoc] at remains
  rw [byteLength_append, ← Nat.add_assoc]
  exact reads_both (takesFirst source index remains)
    (takesSecond source _ (Source.rest_add remains))

theorem refuses_both {first : Parser R α} (second : Parser R β)
    (refuses : first.Refuses rules rest) :
    (Parser.both first second).Refuses rules rest :=
  fun source index remains => misses_both second (refuses source index remains)

theorem refuses_both_second {first : Parser R α} {second : Parser R β}
    {left : α} (takes : first.Takes rules text after left)
    (refuses : second.Refuses rules after) :
    (Parser.both first second).Refuses rules (text ++ after) :=
  fun source index remains =>
    misses_both_second (takes source index remains)
      (refuses source _ (Source.rest_add remains))

theorem takes_andThen {first : Parser R α} {second : Parser R β} {left : α}
    {right : β} (takesFirst : first.Takes rules text (further ++ after) left)
    (takesSecond : second.Takes rules further after right) :
    (first.andThen second).Takes rules (text ++ further) after right :=
  takes_map Prod.snd (takes_both takesFirst takesSecond)

theorem refuses_andThen {first : Parser R α} (second : Parser R β)
    (refuses : first.Refuses rules rest) :
    (first.andThen second).Refuses rules rest :=
  refuses_map _ (refuses_both second refuses)

theorem takes_skip {first : Parser R α} {second : Parser R β} {left : α}
    {right : β} (takesFirst : first.Takes rules text (further ++ after) left)
    (takesSecond : second.Takes rules further after right) :
    (first.skip second).Takes rules (text ++ further) after left :=
  takes_map Prod.fst (takes_both takesFirst takesSecond)

theorem refuses_skip {first : Parser R α} (second : Parser R β)
    (refuses : first.Refuses rules rest) :
    (first.skip second).Refuses rules rest :=
  refuses_map _ (refuses_both second refuses)

theorem takes_orElse {first : Parser R α} (second : Parser R α) {value : α}
    (takes : first.Takes rules text after value) :
    (Parser.orElse first second).Takes rules text after value :=
  fun source index remains => reads_orElse second (takes source index remains)

theorem takes_orElse_second {first second : Parser R α} {value : α}
    (refuses : first.Refuses rules (text ++ after))
    (takes : second.Takes rules text after value) :
    (Parser.orElse first second).Takes rules text after value :=
  fun source index remains =>
    reads_orElse_second (refuses source index remains)
      (takes source index remains)

theorem refuses_orElse {first second : Parser R α}
    (refusesFirst : first.Refuses rules rest)
    (refusesSecond : second.Refuses rules rest) :
    (Parser.orElse first second).Refuses rules rest :=
  fun source index remains =>
    misses_orElse (refusesFirst source index remains)
      (refusesSecond source index remains)

/-- A choice takes what its first parser that does not refuse takes. -/
theorem takes_firstOf (earlier : List (Parser R α)) {later : List (Parser R α)}
    {parser : Parser R α} {value : α}
    (refused : ∀ other ∈ earlier, other.Refuses rules (text ++ after))
    (takes : parser.Takes rules text after value) :
    (firstOf (earlier ++ parser :: later)).Takes rules text after value :=
  fun source index remains =>
    reads_firstOf earlier
      (fun other member => refused other member source index remains)
      (takes source index remains)

theorem refuses_firstOf {parsers : List (Parser R α)}
    (refused : ∀ parser ∈ parsers, parser.Refuses rules rest) :
    (firstOf parsers).Refuses rules rest :=
  fun source index remains =>
    misses_firstOf fun parser member => refused parser member source index
      remains

/-! ## Repetition -/

theorem takes_many_nil {item : Parser R α}
    (refuses : item.Refuses rules after) :
    (many item).Takes rules [] after [] :=
  fun source index remains =>
    reads_many_iff.mpr (.stop (refuses source index remains))

theorem takes_many_cons {item : Parser R α} {value : α} {values : List α}
    (takes : item.Takes rules text (further ++ after) value)
    (takesMore : (many item).Takes rules further after values) :
    (many item).Takes rules (text ++ further) after (value :: values) := by
  intro source index remains
  rw [List.append_assoc] at remains
  rw [byteLength_append, ← Nat.add_assoc]
  have readsMore := takesMore source _ (Source.rest_add remains)
  exact reads_many_iff.mpr
    (.more (takes source index remains) (reads_many_iff.mp readsMore))

/-- A separated list of at least one item. -/
theorem takes_sepBy {item : Parser R α} {separator : Parser R β} {value : α}
    {values : List α} (takes : item.Takes rules text (further ++ after) value)
    (takesMore : (many (separator.andThen item)).Takes rules further after
      values) :
    (sepBy item separator 0 none).Takes rules (text ++ further) after
      (value :: values) :=
  takes_orElse _ <|
    takes_map (fun values => values.1 :: values.2) (takes_both takes takesMore)

/-- A separated list without items. -/
theorem takes_sepBy_nil {item : Parser R α} (separator : Parser R β)
    (refuses : item.Refuses rules after) :
    (sepBy item separator 0 none).Takes rules [] after [] :=
  takes_orElse_second (refuses_map _ (refuses_both _ refuses))
    (takes_success [] after)

/-! ## Whole texts -/

/-- A parser accepts what it takes with nothing after it. -/
theorem accepts_of_takes {parser : Parser R α} {value : α}
    (takes : parser.Takes rules text [] value) :
    Accepts rules parser (.ofCharacters text) value := by
  have remains : (Source.ofCharacters text).rest 0 = some (text ++ []) := by
    rw [Source.rest_zero, List.append_nil]
    rfl
  refine accepts_iff.mpr ⟨0 + byteLength text, ?_, takes _ 0 remains⟩
  rw [Nat.zero_add]
  exact Nat.le_refl _

end

end OrderedChoice.Parser
