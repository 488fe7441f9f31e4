import OrderedChoice.Proofs.Parser.Gives

/-!
# Texts of parsers

A parser is compared with the texts it is to read and the values they stand
for.  It tracks them when every success crosses one of the texts, and when
every failure it reports, on its own way or on one it gave up, suits a place
where one of the texts was to stand.

What suits is said once, by an outlook: which texts before an offset can still
become good ones, and which expectations may be named there.  A parser has to
report properly only where all of its texts are allowed, that is, where each
would leave the text before it viable.
-/

namespace OrderedChoice

/-! ## Texts with values -/

/-- Texts and the values that they stand for. -/
abbrev Texts (α : Type) := List Char → α → Prop

namespace Texts

variable {α β : Type}

/-- One text with one value. -/
def just (text : List Char) (value : α) : Texts α := fun found result =>
  found = text ∧ result = value

/-- Texts with a function applied to their values. -/
def image (f : α → β) (texts : Texts α) : Texts β := fun text result =>
  ∃ value, f value = result ∧ texts text value

/-- Texts of one kind followed by texts of another, their values paired. -/
def both (first : Texts α) (second : Texts β) : Texts (α × β) :=
  fun text values =>
    ∃ left right, text = left ++ right ∧ first left values.1 ∧
      second right values.2

/-- Texts of either kind. -/
def either (first second : Texts α) : Texts α := fun text value =>
  first text value ∨ second text value

/-- Any number of texts in a row. -/
inductive Star (item : Texts α) : Texts (List α) where
  | nil : Star item [] []
  | cons {text rest : List Char} {value : α} {values : List α}
      (first : item text value) (others : Star item rest values) :
      Star item (text ++ rest) (value :: values)

theorem Star.append {item : Texts α} {text rest : List Char}
    {values others : List α} (first : Star item text values)
    (second : Star item rest others) :
    Star item (text ++ rest) (values ++ others) := by
  induction first with
  | nil => exact second
  | cons head tail inductiveStep =>
      rw [List.append_assoc, List.cons_append]
      exact .cons head inductiveStep

theorem Star.single {item : Texts α} {text : List Char} {value : α}
    (holds : item text value) : Star item text [value] := by
  simpa using Star.cons holds .nil

end Texts

/-! ## Reports -/

/-- A set with nothing but one member. -/
theorem Expectations.eq_singleton {expectations : Expectations}
    {description : String} (member : description ∈ expectations)
    (alone : ∀ other ∈ expectations, other = description) :
    expectations = .singleton description := by
  rcases expectations with ⟨items, ascending⟩
  rw [singleton, mk.injEq]
  cases items with
  | nil => cases member
  | cons first items =>
      rcases List.pairwise_cons.mp ascending with ⟨below, _⟩
      have isFirst := alone first List.mem_cons_self
      cases items with
      | nil => rw [isFirst]
      | cons second items =>
          have isSecond := alone second
            (List.mem_cons_of_mem _ List.mem_cons_self)
          have ordered := below second List.mem_cons_self
          rw [isFirst, isSecond] at ordered
          exact absurd ordered (String.lt_irrefl _)

/-- Diagnostics name something at every offset they have, nothing without one,
and only what is right there. -/
structure Diagnostics.Reports (right : Nat → String → Prop)
    (diagnostics : Diagnostics) : Prop where
  silent : diagnostics.furthest = .none → diagnostics.expected = ∅
  named : ∀ offset, diagnostics.furthest = some offset →
    ∃ description, description ∈ diagnostics.expected
  right_of_mem : ∀ offset, diagnostics.furthest = some offset →
    ∀ description ∈ diagnostics.expected, right offset description

namespace Diagnostics.Reports

variable {right : Nat → String → Prop}

theorem none : Diagnostics.none.Reports right where
  silent _ := rfl
  named := nofun
  right_of_mem := nofun

theorem single {offset : Nat} {description : String}
    (holds : right offset description) :
    (Diagnostics.single offset description).Reports right where
  silent := nofun
  named _ _ := ⟨description, List.mem_singleton_self _⟩
  right_of_mem _ here _ member := by
    cases here
    rw [List.mem_singleton.mp member]
    exact holds

theorem merge {recent prior : Diagnostics}
    (recentReports : recent.Reports right)
    (priorReports : prior.Reports right) :
    (recent.merge prior).Reports right := by
  rcases furthest_cases recent.furthest prior.furthest with
    before | same | after
  · rw [merge_of_lt before]
    exact priorReports
  · rw [merge_of_eq same]
    constructor
    · intro absent
      have recentSilent := recentReports.silent absent
      have priorSilent := priorReports.silent (same.symm.trans absent)
      show recent.expected ∪ prior.expected = ∅
      rw [recentSilent, priorSilent]
      rfl
    · intro offset here
      rcases recentReports.named offset here with ⟨description, member⟩
      exact ⟨description, Expectations.mem_union.mpr (Or.inl member)⟩
    · intro offset here description member
      rcases Expectations.mem_union.mp member with inRecent | inPrior
      · exact recentReports.right_of_mem offset here description inRecent
      · exact priorReports.right_of_mem offset (same.symm.trans here)
          description inPrior
  · rw [merge_of_gt after]
    exact recentReports

end Diagnostics.Reports

/-! ## Outlooks -/

/-- What is known of the places in a source: which texts before them can still
become good ones and which expectations suit them. -/
structure Outlook (source : Source) where
  /-- A text can still become a good one. -/
  viable : List Char → Prop
  /-- So can everything that it starts with. -/
  viable_of_append : ∀ {before after : List Char},
    viable (before ++ after) → viable before
  /-- An expectation suits an offset. -/
  suits : Nat → String → Prop

namespace Outlook

variable {source : Source} (outlook : Outlook source) {α β : Type}

/-- Each of the texts may stand at an offset. -/
def Allows (index : Nat) (texts : Texts α) : Prop :=
  ∀ text value, texts text value →
    outlook.viable (source.textBefore index ++ text)

/-- A success crosses one of the texts from an offset. -/
def Crosses (source : Source) (index : Nat) (texts : Texts α) (stop : Nat)
    (value : α) : Prop :=
  ∃ text after, source.rest index = some (text ++ after) ∧
    stop = index + byteLength text ∧ texts text value

/-- A result reports what suits and, if it is a success, crosses one of the
texts. -/
structure Fits (texts : Texts α) (index : Nat) (result : ParseResult α) :
    Prop where
  reports : result.diagnostics.Reports outlook.suits
  crosses : ∀ stop value, result.outcome = .success stop value →
    Crosses source index texts stop value

/-- If its texts are allowed at an offset, an attempt gives a fitting result
there. -/
def TracksAt (index : Nat) (attempt : Attempt α) (texts : Texts α) : Prop :=
  outlook.Allows index texts → ∀ result, (attempt index).answer = .ok result →
    outlook.Fits texts index result

/-- An attempt tracks texts at every boundary. -/
def Tracks (attempt : Attempt α) (texts : Texts α) : Prop :=
  ∀ index, source.isBoundary index = true →
    outlook.TracksAt index attempt texts

/-- The outlook in which everything is viable and anything suits. -/
def free (source : Source) : Outlook source where
  viable _ := True
  viable_of_append _ := trivial
  suits _ _ := True

variable {outlook}

theorem viable_of_allows {index : Nat} {texts : Texts α} {text : List Char}
    {value : α} (allows : outlook.Allows index texts)
    (inhabited : texts text value) :
    outlook.viable (source.textBefore index) :=
  outlook.viable_of_append (allows text value inhabited)

/-- A failure crosses nothing, so it fits when its expectations suit. -/
theorem Fits.failed {texts : Texts α} {index : Nat} {diagnostics : Diagnostics}
    (reports : diagnostics.Reports outlook.suits) :
    outlook.Fits texts index (.failed diagnostics) := by
  refine ⟨reports, ?_⟩
  intro stop value outcome
  cases outcome

/-- A success after all that was gathered on the way to it. -/
theorem Fits.gathered {texts : Texts α} {start stop : Nat} {value : α}
    {diagnostics : Diagnostics}
    (crosses : Crosses source start texts stop value)
    (reports : diagnostics.Reports outlook.suits) :
    outlook.Fits texts start
      ((ParseResult.success stop value).aggregate diagnostics) := by
  refine ⟨Diagnostics.Reports.none.merge reports, ?_⟩
  rintro _ _ ⟨⟩
  exact crosses

/-! ## Crossing texts -/

theorem Crosses.isBoundary {index stop : Nat} {texts : Texts α} {value : α}
    (crosses : Crosses source index texts stop value) :
    source.isBoundary stop = true := by
  rcases crosses with ⟨text, after, remains, rfl, _⟩
  exact Source.isBoundary_of_rest (Source.rest_add remains)

theorem Crosses.mono {index stop : Nat} {texts others : Texts α} {value : α}
    (crosses : Crosses source index texts stop value)
    (weaker : ∀ text value, texts text value → others text value) :
    Crosses source index others stop value := by
  rcases crosses with ⟨text, after, remains, rfl, holds⟩
  exact ⟨text, after, remains, rfl, weaker text value holds⟩

/-- One text after another. -/
theorem Crosses.both {index middle stop : Nat} {texts : Texts α}
    {others : Texts β} {left : α} {right : β}
    (first : Crosses source index texts middle left)
    (second : Crosses source middle others stop right) :
    Crosses source index (texts.both others) stop (left, right) := by
  rcases first with ⟨text, after, remains, rfl, holds⟩
  rcases second with ⟨further, rest, remainsFurther, rfl, holdsFurther⟩
  have split : after = further ++ rest := by
    have remainsAfter := Source.rest_add remains
    rw [remainsFurther] at remainsAfter
    exact (Option.some.inj remainsAfter).symm
  refine ⟨text ++ further, rest, ?_, ?_, text, further, rfl, holds,
    holdsFurther⟩
  · rw [remains, split, List.append_assoc]
  · rw [byteLength_append, Nat.add_assoc]

/-- One text more behind texts in a row. -/
theorem Crosses.concat {start index stop : Nat} {texts : Texts α}
    {values : List α} {value : α}
    (crossed : Crosses source start texts.Star index values.reverse)
    (crosses : Crosses source index texts stop value) :
    Crosses source start texts.Star stop (value :: values).reverse := by
  rw [List.reverse_cons]
  rcases crossed.both crosses with
    ⟨_, after, remains, stops, left, right, rfl, holds, holdsNext⟩
  exact ⟨left ++ right, after, remains, stops, holds.append (.single holdsNext)⟩

/-- What stands before the end of a crossed text. -/
theorem textBefore_add {index : Nat} {text after : List Char}
    (remains : source.rest index = some (text ++ after)) :
    source.textBefore (index + byteLength text) =
      source.textBefore index ++ text := by
  rcases Source.rest_eq_some_iff.mp remains with ⟨before, split, rfl⟩
  have splitAfter : source.characters = (before ++ text) ++ after := by
    rw [split, List.append_assoc]
  rw [Source.textBefore_of_split split, ← byteLength_append,
    Source.textBefore_of_split splitAfter]

/-- Where texts in sequence are allowed, the second kind is allowed after a
text of the first. -/
theorem Allows.after_first {index middle : Nat} {texts : Texts α}
    {others : Texts β} {value : α}
    (allows : outlook.Allows index (texts.both others))
    (crosses : Crosses source index texts middle value) :
    outlook.Allows middle others := by
  rcases crosses with ⟨text, after, remains, rfl, holds⟩
  intro further result holdsFurther
  rw [textBefore_add remains, List.append_assoc]
  exact allows (text ++ further) (value, result)
    ⟨text, further, rfl, holds, holdsFurther⟩

/-! ## Combinators -/

namespace TracksAt

variable {index : Nat}

theorem mono {attempt : Attempt α} {texts others : Texts α}
    (tracks : outlook.TracksAt index attempt texts)
    (weaker : ∀ text value, texts text value → others text value) :
    outlook.TracksAt index attempt others := by
  intro allows result answer
  have allowsFewer : outlook.Allows index texts := fun text value holds =>
    allows text value (weaker text value holds)
  have fits := tracks allowsFewer result answer
  constructor
  · exact fits.reports
  · intro stop value outcome
    exact (fits.crosses stop value outcome).mono weaker

theorem map (f : α → β) {attempt : Attempt α} {texts : Texts α}
    (tracks : outlook.TracksAt index attempt texts) :
    outlook.TracksAt index (attempt.map f) (texts.image f) := by
  intro allows result answer
  rcases Run.mapResult_answer_eq_ok answer with ⟨before, ends, rfl⟩
  have allowsBefore : outlook.Allows index texts := fun text value holds =>
    allows text (f value) ⟨value, rfl, holds⟩
  have fits := tracks allowsBefore before ends
  constructor
  · exact fits.reports
  · intro stop value outcome
    rcases before with ⟨beforeOutcome, diagnostics⟩
    cases beforeOutcome with
    | failure => cases outcome
    | success last found =>
        cases outcome
        rcases fits.crosses stop found rfl with
          ⟨text, after, remains, rfl, holds⟩
        exact ⟨text, after, remains, rfl, found, rfl, holds⟩

/-- In a sequence the first parser is given texts that the second can follow,
so the second has to have some; it is only run where the first stopped. -/
theorem both {first : Attempt α} {second : Attempt β} {texts : Texts α}
    {others : Texts β} (inhabited : ∃ text value, others text value)
    (firstTracks : outlook.TracksAt index first texts)
    (secondTracks : ∀ middle value, Crosses source index texts middle value →
      outlook.TracksAt middle second others) :
    outlook.TracksAt index (first.both second) (texts.both others) := by
  intro allows result answer
  rcases Run.andThen_answer_eq_ok answer with
    ⟨firstResult, firstEnds, restEnds, _⟩
  have allowsFirst : outlook.Allows index texts := by
    intro text value holds
    rcases inhabited with ⟨further, other, holdsFurther⟩
    have whole := allows (text ++ further) (value, other)
      ⟨text, further, rfl, holds, holdsFurther⟩
    rw [← List.append_assoc] at whole
    exact outlook.viable_of_append whole
  have firstFits := firstTracks allowsFirst firstResult firstEnds
  rcases firstResult with ⟨firstOutcome, prior⟩
  cases firstOutcome with
  | failure =>
      cases restEnds
      exact .failed firstFits.reports
  | success middle left =>
      have crossesFirst := firstFits.crosses middle left rfl
      rcases Run.mapResult_answer_eq_ok restEnds with
        ⟨secondResult, secondEnds, rfl⟩
      have secondFits := secondTracks middle left crossesFirst
        (allows.after_first crossesFirst) secondResult secondEnds
      rcases secondResult with ⟨secondOutcome, recent⟩
      cases secondOutcome with
      | failure => exact .failed (secondFits.reports.merge firstFits.reports)
      | success stop right =>
          constructor
          · exact Diagnostics.Reports.none.merge
              (secondFits.reports.merge firstFits.reports)
          · intro last values outcome
            cases outcome
            exact crossesFirst.both (secondFits.crosses stop right rfl)

theorem orElse {first second : Attempt α} {texts others : Texts α}
    (firstTracks : outlook.TracksAt index first texts)
    (secondTracks : outlook.TracksAt index second others) :
    outlook.TracksAt index (first.orElse second) (texts.either others) := by
  intro allows result answer
  rcases Run.andThen_answer_eq_ok answer with
    ⟨firstResult, firstEnds, restEnds, _⟩
  have firstFits := firstTracks
    (fun text value holds => allows text value (Or.inl holds)) firstResult
    firstEnds
  rcases firstResult with ⟨firstOutcome, prior⟩
  cases firstOutcome with
  | success stop value =>
      cases restEnds
      constructor
      · exact firstFits.reports
      · intro last found outcome
        exact (firstFits.crosses last found outcome).mono
          fun text value => Or.inl
  | failure =>
      rcases Run.mapResult_answer_eq_ok restEnds with
        ⟨secondResult, secondEnds, rfl⟩
      have secondFits := secondTracks
        (fun text value holds => allows text value (Or.inr holds))
        secondResult secondEnds
      constructor
      · exact secondFits.reports.merge firstFits.reports
      · intro last found outcome
        exact (secondFits.crosses last found outcome).mono
          fun text value => Or.inr

end TracksAt

namespace Tracks

/-- A loop keeps that texts in a row were crossed since it began. -/
theorem timesLoop {item : Attempt α} {texts : Texts α}
    (tracks : outlook.Tracks item texts) {start index : Nat}
    (allows : outlook.Allows start texts.Star) {min turns count : Nat}
    {max : Option Nat} {values : List α} {context : Diagnostics}
    {trace : Trace} {result : ParseResult (List α)}
    (crossed : Crosses source start texts.Star index values.reverse)
    (contextReports : context.Reports outlook.suits)
    (answer : (Attempt.timesLoop item min max turns values count context trace
      index).answer = .ok result) :
    outlook.Fits texts.Star start result := by
  induction turns generalizing index values count context trace with
  | zero =>
      rw [Attempt.timesLoop] at answer
      split at answer
      · cases answer
        exact .gathered crossed contextReports
      · cases answer
  | succ turns inductiveStep =>
      rw [Attempt.timesLoop] at answer
      split at answer
      · cases answer
        exact .gathered crossed contextReports
      have allowsItem : outlook.Allows index texts := by
        rcases crossed with ⟨text, after, remains, rfl, holds⟩
        intro further value holdsFurther
        rw [textBefore_add remains, List.append_assoc]
        exact allows _ _ (holds.append (.single holdsFurther))
      cases ends : (item index).answer with
      | error abort => simp [ends] at answer
      | ok found =>
          have fits := tracks index crossed.isBoundary allowsItem found ends
          have merged := fits.reports.merge contextReports
          rcases found with ⟨outcome, diagnostics⟩
          simp only [ends] at answer
          cases outcome with
          | success next value =>
              exact inductiveStep (crossed.concat (fits.crosses next value rfl))
                merged answer
          | failure =>
              by_cases enough : min ≤ count
              · simp only [enough, if_true] at answer
                cases answer
                exact .gathered crossed merged
              · simp only [enough, if_false] at answer
                cases answer
                exact .failed merged

theorem times {item : Attempt α} {texts : Texts α}
    (tracks : outlook.Tracks item texts) (min : Nat) (max : Option Nat)
    (turns : Nat) : outlook.Tracks (item.times min max turns) texts.Star := by
  intro index boundary allows result answer
  refine timesLoop tracks allows ?_ .none answer
  rcases Option.isSome_iff_exists.mp boundary with ⟨rest, remains⟩
  exact ⟨[], rest, remains, rfl, .nil⟩

end Tracks

end Outlook

/-! ## Parsers -/

namespace Parser

variable {R : Type → Type} {source : Source} {α β : Type}

/-- A parser tracks texts at an offset, given what references do. -/
def TracksAt (outlook : Outlook source) (calls : Calls R) (turns : Nat)
    (index : Nat) (parser : Parser R α) (texts : Texts α) : Prop :=
  outlook.TracksAt index (parser.attempt source calls turns) texts

/-- A parser tracks texts, given what references do. -/
def Tracks (outlook : Outlook source) (calls : Calls R) (turns : Nat)
    (parser : Parser R α) (texts : Texts α) : Prop :=
  ∀ index, source.isBoundary index = true →
    parser.TracksAt outlook calls turns index texts

variable {outlook : Outlook source} {calls : Calls R} {turns : Nat}

theorem Tracks.mono {parser : Parser R α} {texts others : Texts α}
    (tracks : parser.Tracks outlook calls turns texts)
    (weaker : ∀ text value, texts text value → others text value) :
    parser.Tracks outlook calls turns others := fun index boundary =>
  Outlook.TracksAt.mono (tracks index boundary) weaker

/-! ### Leaves -/

theorem tracksAt_leaf {primitive : Primitive α} {texts : Texts α}
    {index : Nat}
    (fits : outlook.Allows index texts →
      outlook.Fits texts index (primitive.parse source index)) :
    (Parser.leaf primitive).TracksAt outlook calls turns index texts := by
  intro allows result answer
  rw [attempt] at answer
  cases answer
  exact fits allows

theorem tracks_success (value : α) :
    (success value : Parser R α).Tracks outlook calls turns
      (.just [] value) := by
  intro index boundary
  rcases Option.isSome_iff_exists.mp boundary with ⟨rest, remains⟩
  apply tracksAt_leaf
  intro allows
  constructor
  · exact .none
  · intro stop found outcome
    cases outcome
    exact ⟨[], rest, remains, rfl, rfl, rfl⟩

theorem tracks_eof
    (suits : ∀ index, outlook.viable (source.textBefore index) →
      outlook.suits index "EOF") :
    (eof : Parser R Unit).Tracks outlook calls turns (.just [] ()) := by
  intro index boundary
  rcases Option.isSome_iff_exists.mp boundary with ⟨rest, remains⟩
  apply tracksAt_leaf
  intro allows
  rw [Primitive.parse]
  split
  · constructor
    · exact .none
    · intro stop found outcome
      cases outcome
      exact ⟨[], rest, remains, rfl, rfl, rfl⟩
  · have viable := Outlook.viable_of_allows allows ⟨rfl, rfl⟩
    exact .failed (.single (suits index viable))

theorem tracks_literal (text : String)
    (suits : ∀ index,
      outlook.viable (source.textBefore index ++ text.toList) →
      outlook.suits index text) :
    (literal text : Parser R String).Tracks outlook calls turns
      (.just text.toList text) := by
  intro index boundary
  rcases Option.isSome_iff_exists.mp boundary with ⟨rest, remains⟩
  apply tracksAt_leaf
  intro allows
  have suitsHere := suits index (allows text.toList text ⟨rfl, rfl⟩)
  rw [Primitive.parse, Primitive.parseLiteral, remains]
  dsimp only
  split
  · rename_i stands
    rcases List.isPrefixOf_iff_prefix.mp stands with ⟨after, rfl⟩
    constructor
    · exact .none
    · intro stop found outcome
      cases outcome
      exact ⟨text.toList, after, remains, by rw [byteLength_toList], rfl, rfl⟩
  · exact .failed (.single suitsHere)

/-! ### Values and sequence -/

theorem tracks_map (f : α → β) {parser : Parser R α} {texts : Texts α}
    (tracks : parser.Tracks outlook calls turns texts) :
    (Parser.map f parser).Tracks outlook calls turns (texts.image f) := by
  intro index boundary
  rw [TracksAt, attempt]
  exact Outlook.TracksAt.map f (tracks index boundary)

theorem tracks_result {parser : Parser R α} {text : List Char} {value : α}
    (result : β)
    (tracks : parser.Tracks outlook calls turns (.just text value)) :
    (parser.result result).Tracks outlook calls turns (.just text result) := by
  apply (tracks_map (fun _ => result) tracks).mono
  rintro found _ ⟨_, rfl, rfl, _⟩
  exact ⟨rfl, rfl⟩

/-- The second parser of a sequence is only run where the first stopped. -/
theorem tracksAt_both {first : Parser R α} {second : Parser R β}
    {texts : Texts α} {others : Texts β} {index : Nat}
    (inhabited : ∃ text value, others text value)
    (firstTracks : first.TracksAt outlook calls turns index texts)
    (secondTracks : ∀ middle value,
      Outlook.Crosses source index texts middle value →
      second.TracksAt outlook calls turns middle others) :
    (Parser.both first second).TracksAt outlook calls turns index
      (texts.both others) := by
  rw [TracksAt, attempt]
  exact Outlook.TracksAt.both inhabited firstTracks secondTracks

theorem tracks_both {first : Parser R α} {second : Parser R β}
    {texts : Texts α} {others : Texts β}
    (inhabited : ∃ text value, others text value)
    (firstTracks : first.Tracks outlook calls turns texts)
    (secondTracks : second.Tracks outlook calls turns others) :
    (Parser.both first second).Tracks outlook calls turns
      (texts.both others) := fun index boundary =>
  tracksAt_both inhabited (firstTracks index boundary)
    fun middle _ crosses => secondTracks middle crosses.isBoundary

theorem tracks_andThen {first : Parser R α} {second : Parser R β}
    {texts : Texts α} {others : Texts β}
    (inhabited : ∃ text value, others text value)
    (firstTracks : first.Tracks outlook calls turns texts)
    (secondTracks : second.Tracks outlook calls turns others) :
    (first.andThen second).Tracks outlook calls turns
      ((texts.both others).image Prod.snd) :=
  tracks_map Prod.snd (tracks_both inhabited firstTracks secondTracks)

theorem tracks_skip {first : Parser R α} {second : Parser R β}
    {texts : Texts α} {others : Texts β}
    (inhabited : ∃ text value, others text value)
    (firstTracks : first.Tracks outlook calls turns texts)
    (secondTracks : second.Tracks outlook calls turns others) :
    (first.skip second).Tracks outlook calls turns
      ((texts.both others).image Prod.fst) :=
  tracks_map Prod.fst (tracks_both inhabited firstTracks secondTracks)

/-! ### Choice and description -/

theorem tracks_orElse {first second : Parser R α} {texts others : Texts α}
    (firstTracks : first.Tracks outlook calls turns texts)
    (secondTracks : second.Tracks outlook calls turns others) :
    (Parser.orElse first second).Tracks outlook calls turns
      (texts.either others) := by
  intro index boundary
  rw [TracksAt, attempt]
  exact (firstTracks index boundary).orElse (secondTracks index boundary)

/-- A choice between parsers for parts of one kind of texts. -/
theorem tracksAt_firstOf {parsers : List (Parser R α)} {texts : Texts α}
    {index : Nat} (nonempty : parsers ≠ [])
    (tracks : ∀ parser ∈ parsers,
      parser.TracksAt outlook calls turns index texts) :
    (firstOf parsers).TracksAt outlook calls turns index texts := by
  cases parsers with
  | nil => exact absurd rfl nonempty
  | cons first others =>
      rw [firstOf]
      have firstTracks := tracks first List.mem_cons_self
      have restTracks : ∀ parser ∈ others,
          parser.TracksAt outlook calls turns index texts :=
        fun parser member => tracks parser (List.mem_cons_of_mem _ member)
      clear tracks nonempty
      induction others generalizing first with
      | nil => exact firstTracks
      | cons second others inductiveStep =>
          apply inductiveStep
          · rw [TracksAt, attempt]
            apply (Outlook.TracksAt.orElse firstTracks
              (restTracks second List.mem_cons_self)).mono
            intro text value holds
            exact holds.elim id id
          · exact fun parser member =>
              restTracks parser (List.mem_cons_of_mem _ member)

/-! ### Repetition -/

theorem tracks_times {item : Parser R α} {texts : Texts α}
    (tracks : item.Tracks outlook calls turns texts) (min : Nat)
    (max : Option Nat) :
    (Parser.times item min max).Tracks outlook calls turns texts.Star := by
  intro index boundary
  rw [TracksAt, attempt]
  exact Outlook.Tracks.times tracks min max turns index boundary

theorem tracks_many {item : Parser R α} {texts : Texts α}
    (tracks : item.Tracks outlook calls turns texts) :
    (many item).Tracks outlook calls turns texts.Star :=
  tracks_times tracks 0 none

/-! ### What tracking says of results -/

theorem fits_of_gives {rules : Rules R} {parser : Parser R α}
    {texts : Texts α} {index : Nat} {result : ParseResult α}
    (tracks : ∀ fuel, parser.Tracks outlook (rules.enter source fuel) fuel
      texts)
    (boundary : source.isBoundary index = true)
    (allows : outlook.Allows index texts)
    (gives : parser.Gives rules source index result) :
    outlook.Fits texts index result := by
  rcases gives with ⟨fuel, ends⟩
  exact tracks fuel index boundary allows result ends

/-- A parser that tracks texts accepts only those. -/
theorem texts_of_accepts {rules : Rules R} {parser : Parser R α}
    {texts : Texts α} {value : α}
    (tracks : ∀ fuel, parser.Tracks (.free source) (rules.enter source fuel)
      fuel texts)
    (accepts : Accepts rules parser source value) :
    texts source.characters value := by
  rcases accepts_iff.mp accepts with ⟨stop, atEnd, diagnostics, gives⟩
  have boundary := Source.isBoundary_of_rest (source.rest_zero)
  have fits := fits_of_gives tracks boundary (fun _ _ _ => trivial) gives
  rcases fits.crosses stop value rfl with ⟨text, after, remains, rfl, holds⟩
  have total := Source.length_of_rest remains
  rw [byteLength_append] at total
  cases after with
  | nil =>
      rw [Source.rest_zero, List.append_nil] at remains
      rw [Option.some.inj remains]
      exact holds
  | cons character after =>
      have positive : 0 < byteLength (character :: after) := byteLength_pos
      omega

end Parser

end OrderedChoice
