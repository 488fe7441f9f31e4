import OrderedChoice.Proofs.Regex.Arrival

/-!
# Preferred arrivals

Of the threads that an expression arrives at, leftmost-first matching reports
the first.  A step prefers a text before what follows it when its first arrival
has crossed just that text; it refuses what remains when it arrives nowhere.

Preference is composed along a text: what a part of an expression prefers
depends on what follows it, which for a greedy repetition has to end the run.
-/

namespace OrderedChoice.Regex

/-! ## First items -/

theorem head?_distinctFrom_nil {Item Key : Type} [BEq Key] (key : Item → Key)
    (items : List Item) :
    (distinctFrom key [] items).head? = items.head? := by
  cases items with
  | nil => rfl
  | cons item items => simp [distinctFrom]

theorem head?_distinct (threads : List Thread) :
    (distinct threads).head? = threads.head? :=
  head?_distinctFrom_nil _ threads

/-! ## Preference -/

/-- The first arrival of a step has crossed one text before another. -/
def Step.Prefers (step : Step) (taken after : List Char) : Prop :=
  ∀ thread : Thread, thread.cursor.rest = taken ++ after →
    ∃ arrival, (step thread).head? = some arrival ∧
      arrival.cursor.rest = after ∧
      arrival.offset = thread.offset + byteLength taken

/-- A step arrives nowhere from what remains. -/
def Step.Refuses (step : Step) (rest : List Char) : Prop :=
  ∀ thread : Thread, thread.cursor.rest = rest → step thread = []

/-- What remains does not go on with a character of a set. -/
def CharSet.StopsAt (members : CharSet) (rest : List Char) : Prop :=
  ∀ character ∈ rest.head?, members.contains character.toNat = false

/-- A text starts with a character of a set. -/
def CharSet.Starts (members : CharSet) (text : List Char) : Prop :=
  ∃ character rest, text = character :: rest ∧
    members.contains character.toNat = true

/-- All characters of a text are in a set. -/
def CharSet.Covers (members : CharSet) (text : List Char) : Prop :=
  ∀ character ∈ text, members.contains character.toNat = true

/-- Two sets have no character in common. -/
def CharSet.Apart (first second : CharSet) : Prop :=
  ∀ value, first.contains value = true → ¬ second.contains value = true

namespace CharSet

variable {members : CharSet} {text : List Char}

@[simp] theorem contains_range {first last value : Nat} :
    (range first last).contains value = true ↔
      first ≤ value ∧ value ≤ last := by
  simp [contains]

@[simp] theorem contains_single {member value : Nat} :
    (single member).contains value = true ↔ value = member := by
  rw [single, contains_range]
  omega

theorem contains_single_char {letter character : Char} :
    (single letter.toNat).contains character.toNat = true ↔
      character = letter := by
  rw [contains_single, Char.toNat_inj]

@[simp] theorem contains_union {left right : CharSet} {value : Nat} :
    (union left right).contains value = true ↔
      left.contains value = true ∨ right.contains value = true := by
  simp [contains]

@[simp] theorem contains_complement {value : Nat} :
    (complement members).contains value = true ↔
      ¬ members.contains value = true := by
  simp [contains]

theorem covers_cons_iff {character : Char} :
    members.Covers (character :: text) ↔
      members.contains character.toNat = true ∧ members.Covers text :=
  List.forall_mem_cons

theorem covers_iff_all :
    members.Covers text ↔
      (text.all fun character => members.contains character.toNat) = true :=
  List.all_eq_true.symm

theorem covers_append_iff {others : List Char} :
    members.Covers (text ++ others) ↔
      members.Covers text ∧ members.Covers others :=
  List.forall_mem_append

theorem stopsAt_nil : members.StopsAt [] := by
  intro character first
  cases first

theorem stopsAt_cons_iff {character : Char} :
    members.StopsAt (character :: text) ↔
      members.contains character.toNat = false := by
  constructor
  · exact fun stops => stops character rfl
  · rintro outside found first
    cases first
    exact outside

theorem stopsAt_append {after : List Char} (stops : members.StopsAt text)
    (stopsAfter : members.StopsAt after) : members.StopsAt (text ++ after) := by
  cases text with
  | nil => exact stopsAfter
  | cons character text => exact stops

theorem stopsAt_union_iff {other : CharSet} :
    (members.union other).StopsAt text ↔
      members.StopsAt text ∧ other.StopsAt text := by
  constructor
  · intro stops
    constructor
    · intro character first
      exact (Bool.or_eq_false_iff.mp (stops character first)).1
    · intro character first
      exact (Bool.or_eq_false_iff.mp (stops character first)).2
  · rintro ⟨stops, otherStops⟩ character first
    exact Bool.or_eq_false_iff.mpr
      ⟨stops character first, otherStops character first⟩

theorem stopsAt_of_starts {other : CharSet} (after : List Char)
    (starts : other.Starts text) (apart : other.Apart members) :
    members.StopsAt (text ++ after) := by
  rcases starts with ⟨character, rest, rfl, member⟩
  apply stopsAt_cons_iff.mpr
  exact Bool.eq_false_iff.mpr (apart _ member)

/-- Every text starts with as long a run of characters as there is. -/
theorem exists_run (members : CharSet) (text : List Char) :
    ∃ run after, run ++ after = text ∧ members.Covers run ∧
      members.StopsAt after := by
  induction text with
  | nil => exact ⟨[], [], rfl, nofun, stopsAt_nil⟩
  | cons character text inductiveStep =>
      cases inside : members.contains character.toNat with
      | false =>
          exact ⟨[], character :: text, rfl, nofun,
            stopsAt_cons_iff.mpr inside⟩
      | true =>
          rcases inductiveStep with ⟨run, after, rfl, covers, stops⟩
          exact ⟨character :: run, after, rfl,
            covers_cons_iff.mpr ⟨inside, covers⟩, stops⟩

theorem starts_of_mem_mul {language : Language Char}
    (member : text ∈ members.language * language) : members.Starts text := by
  rcases member with ⟨first, ⟨character, inSet, rfl⟩, rest, _, rfl⟩
  exact ⟨character, rest, rfl, inSet⟩

theorem mem_language_pow_iff {count : Nat} :
    text ∈ members.language ^ count ↔
      text.length = count ∧ members.Covers text := by
  induction count generalizing text with
  | zero =>
      rw [pow_zero, Language.mem_one, List.length_eq_zero_iff]
      constructor
      · rintro rfl
        exact ⟨rfl, nofun⟩
      · exact And.left
  | succ count inductiveStep =>
      rw [pow_succ', Language.mem_mul]
      constructor
      · rintro ⟨first, ⟨character, member, rfl⟩, rest, inRest, rfl⟩
        rcases inductiveStep.mp inRest with ⟨length, covers⟩
        exact ⟨by simp [length], covers_cons_iff.mpr ⟨member, covers⟩⟩
      · rintro ⟨length, covers⟩
        cases text with
        | nil => cases length
        | cons character rest =>
            rcases covers_cons_iff.mp covers with ⟨member, coversRest⟩
            have restLength : rest.length = count := by
              rw [List.length_cons] at length
              omega
            exact ⟨[character], ⟨character, member, rfl⟩, rest,
              inductiveStep.mpr ⟨restLength, coversRest⟩, rfl⟩

theorem mem_upTo_language_iff {limit : Option Nat} :
    text ∈ upTo members.language limit ↔
      (∀ bound, limit = some bound → text.length ≤ bound) ∧
        members.Covers text := by
  constructor
  · rintro ⟨count, within, inPower⟩
    rcases mem_language_pow_iff.mp inPower with ⟨rfl, covers⟩
    exact ⟨within, covers⟩
  · rintro ⟨within, covers⟩
    exact ⟨text.length, within, mem_language_pow_iff.mpr ⟨rfl, covers⟩⟩

/-- The texts of a repeated set. -/
theorem mem_language_repetition_iff {min : Nat} {max : Option Nat}
    {greedy : Bool} :
    text ∈ (Term.repetition (.set members) min max greedy).language ↔
      members.Covers text ∧ min ≤ text.length ∧
        ∀ bound, max = some bound → text.length - min ≤ bound - min := by
  rw [Term.language, Language.mem_mul]
  constructor
  · rintro ⟨required, inPower, further, inUpTo, rfl⟩
    rcases mem_language_pow_iff.mp inPower with ⟨length, covers⟩
    rcases mem_upTo_language_iff.mp inUpTo with ⟨within, coversFurther⟩
    refine ⟨?_, by simp [length], ?_⟩
    · intro character member
      rcases List.mem_append.mp member with inRequired | inFurther
      · exact covers character inRequired
      · exact coversFurther character inFurther
    · rintro bound rfl
      have fits := within (bound - min) rfl
      rw [List.length_append]
      omega
  · rintro ⟨covers, enough, within⟩
    refine ⟨text.take min, mem_language_pow_iff.mpr ⟨?_, ?_⟩, text.drop min,
      mem_upTo_language_iff.mpr ⟨?_, ?_⟩, List.take_append_drop min text⟩
    · rw [List.length_take, Nat.min_eq_left enough]
    · exact fun character member =>
        covers character (List.mem_of_mem_take member)
    · intro bound lowered
      rcases Option.map_eq_some_iff.mp lowered with ⟨upper, limited, rfl⟩
      rw [List.length_drop]
      exact within upper limited
    · exact fun character member =>
        covers character (List.mem_of_mem_drop member)

end CharSet

/-- The texts of an expression that may be left out. -/
theorem mem_language_optional_iff {body : Term} {greedy : Bool}
    {text : List Char} :
    text ∈ (Term.repetition body 0 (some 1) greedy).language ↔
      text = [] ∨ text ∈ body.language := by
  rw [Term.language, pow_zero, one_mul, mem_upTo]
  constructor
  · rintro ⟨count, within, inPower⟩
    have few : count ≤ 1 := within 1 rfl
    rcases Nat.le_one_iff_eq_zero_or_eq_one.mp few with rfl | rfl
    · exact Or.inl inPower
    · rw [pow_one] at inPower
      exact Or.inr inPower
  · rintro (rfl | member)
    · exact ⟨0, fun _ _ => Nat.zero_le _, Language.nil_mem_one⟩
    · refine ⟨1, ?_, ?_⟩
      · intro bound limited
        cases limited
        exact Nat.le_refl 1
      · rw [pow_one]
        exact member

namespace Step

variable {first second step : Step} {taken further after rest : List Char}

theorem prefers_andThen (firstPrefers : first.Prefers taken (further ++ after))
    (secondPrefers : second.Prefers further after) :
    (first.andThen second).Prefers (taken ++ further) after := by
  intro thread remains
  rw [List.append_assoc] at remains
  rcases firstPrefers thread remains with ⟨middle, firstHead, rests, offset⟩
  rcases secondPrefers middle rests with ⟨arrival, secondHead, ends, stops⟩
  refine ⟨arrival, ?_, ends, ?_⟩
  · rcases List.head?_eq_some_iff.mp firstHead with ⟨others, arrivals⟩
    rw [andThen, head?_distinct, List.head?_flatMap, arrivals,
      List.findSome?_cons, secondHead]
  · rw [stops, offset, byteLength_append, Nat.add_assoc]

theorem refuses_andThen (second : Step) (refuses : first.Refuses rest) :
    (first.andThen second).Refuses rest := by
  intro thread remains
  rw [andThen, refuses thread remains]
  rfl

theorem prefers_orElse (second : Step) (prefers : first.Prefers taken after) :
    (first.orElse second).Prefers taken after := by
  intro thread remains
  rcases prefers thread remains with ⟨arrival, head, crossed⟩
  refine ⟨arrival, ?_, crossed⟩
  rw [orElse, head?_distinct, List.head?_append, head]
  rfl

theorem prefers_orElse_second (refuses : first.Refuses (taken ++ after))
    (prefers : second.Prefers taken after) :
    (first.orElse second).Prefers taken after := by
  intro thread remains
  rcases prefers thread remains with ⟨arrival, head, crossed⟩
  refine ⟨arrival, ?_, crossed⟩
  rw [orElse, head?_distinct, refuses thread remains]
  exact head

/-- The arrivals of a greedy step that may be taken once: those of the step and
then the thread itself. -/
theorem head?_between_zero_one (step : Step) (thread : Thread) :
    (step.between 0 (some 1) true thread).head? =
      (step thread).head?.or (some thread) := by
  have entries : (step.spread true 1 [(thread, true)]).head? =
      ((step thread).map fun arrival => (arrival, true)).head?.or
        (some (thread, false)) := by
    rw [spread, if_pos (by rfl), spread, head?_distinctFrom_nil]
    simp
  rw [between, andThen, head?_distinct, List.head?_flatMap]
  simp only [times, advance, List.findSome?_cons, List.findSome?_nil,
    Nat.sub_zero]
  rw [atMost, head?_distinct, List.head?_map, entries]
  cases step thread with
  | nil => rfl
  | cons arrival arrivals => rfl

theorem prefers_optional (prefers : step.Prefers taken after) :
    (step.between 0 (some 1) true).Prefers taken after := by
  intro thread remains
  rcases prefers thread remains with ⟨arrival, head, crossed⟩
  refine ⟨arrival, ?_, crossed⟩
  rw [head?_between_zero_one, head]
  rfl

theorem prefers_optional_nil (refuses : step.Refuses after) :
    (step.between 0 (some 1) true).Prefers [] after := by
  intro thread remains
  refine ⟨thread, ?_, remains, rfl⟩
  rw [head?_between_zero_one, refuses thread remains]
  rfl

end Step

/-! ## Characters of a set -/

theorem Cursor.advance_of_covers {members : CharSet} {text after : List Char}
    (covers : members.Covers text) {cursor : Cursor}
    (remains : cursor.rest = text ++ after) :
    ∃ stop, cursor.advance members text.length = some stop ∧
      stop.rest = after ∧ stop.offset = cursor.offset + byteLength text := by
  induction text generalizing cursor with
  | nil => exact ⟨cursor, rfl, remains, rfl⟩
  | cons character text inductiveStep =>
      rcases cursor with ⟨offset, before, rest⟩
      have split : rest = character :: (text ++ after) := remains
      have member := covers character List.mem_cons_self
      have coversRest : members.Covers text := fun other inText =>
        covers other (List.mem_cons_of_mem _ inText)
      rcases @inductiveStep coversRest
        ⟨offset + character.utf8Size, some character, text ++ after⟩ rfl with
        ⟨stop, advanced, ends, stops⟩
      refine ⟨stop, ?_, ends, ?_⟩
      · rw [split, List.length_cons, Cursor.advance, if_pos member]
        exact advanced
      · rw [stops, byteLength_cons, Nat.add_assoc]

/-- The longest run comes first: as many characters of the set as there are,
or as the limit allows. -/
theorem head?_runs {members : CharSet} {text after : List Char}
    (covers : members.Covers text) {limit : Option Nat}
    (within : ∀ bound, limit = some bound → text.length ≤ bound)
    (ends : limit = some text.length ∨ members.StopsAt after) (offset : Nat)
    (before : Option Char) (found : List Cursor) :
    ∃ cursor,
      (runs members limit offset before (text ++ after) found).head? =
        some cursor ∧
      cursor.rest = after ∧ cursor.offset = offset + byteLength text := by
  induction text generalizing limit offset before found with
  | nil =>
      refine ⟨⟨offset, before, after⟩, ?_, rfl, rfl⟩
      cases after with
      | nil => rfl
      | cons character after =>
          rw [List.nil_append, runs, if_neg]
          · rfl
          · rcases ends with full | stops
            · simp [full]
            · simp [stops character rfl]
  | cons character text inductiveStep =>
      have member := covers character List.mem_cons_self
      have coversRest : members.Covers text := fun other inText =>
        covers other (List.mem_cons_of_mem _ inText)
      have goesOn : limit ≠ some 0 := by
        intro closed
        have tooMany := within 0 closed
        simp at tooMany
      have withinRest : ∀ bound, limit.map (· - 1) = some bound →
          text.length ≤ bound := by
        intro bound lowered
        rcases Option.map_eq_some_iff.mp lowered with ⟨upper, limited, rfl⟩
        have fits := within upper limited
        rw [List.length_cons] at fits
        omega
      have endsRest : limit.map (· - 1) = some text.length ∨
          members.StopsAt after := by
        rcases ends with full | stops
        · left
          rw [full]
          rfl
        · exact Or.inr stops
      rcases inductiveStep coversRest withinRest endsRest
        (offset + character.utf8Size) (some character)
        (⟨offset, before, character :: (text ++ after)⟩ :: found) with
        ⟨cursor, head, rests, stops⟩
      refine ⟨cursor, ?_, rests, ?_⟩
      · rw [List.cons_append, runs, if_pos (by simp [goesOn, member])]
        exact head
      · rw [stops, byteLength_cons, Nat.add_assoc]

theorem prefers_setStep {members : CharSet} {character : Char}
    (member : members.contains character.toNat = true) (after : List Char) :
    (setStep members).Prefers [character] after := by
  intro thread remains
  have covers : members.Covers [character] := by
    intro other single
    rw [List.mem_singleton.mp single]
    exact member
  rcases Cursor.advance_of_covers covers remains with
    ⟨stop, advanced, rests, stops⟩
  refine ⟨⟨stop, thread.captures⟩, ?_, rests, stops⟩
  rw [setStep]
  rw [List.length_singleton] at advanced
  rw [advanced]
  rfl

theorem refuses_setStep {members : CharSet} {rest : List Char}
    (stops : members.StopsAt rest) : (setStep members).Refuses rest := by
  rintro ⟨⟨offset, before, remaining⟩, captures⟩ remains
  have same : remaining = rest := remains
  subst same
  cases remaining with
  | nil => rfl
  | cons character rest =>
      rw [setStep, Cursor.advance, if_neg (by simp [stops character rfl])]

/-- A greedy run prefers all the characters of its set that follow, or as many
as it may take. -/
theorem prefers_runStep {members : CharSet} {min : Nat} {max : Option Nat}
    {taken after : List Char} (covers : members.Covers taken)
    (enough : min ≤ taken.length)
    (within : ∀ bound, max = some bound → taken.length ≤ bound)
    (ends : max = some taken.length ∨ members.StopsAt after) :
    (runStep members min max true).Prefers taken after := by
  intro thread remains
  have required : members.Covers (taken.take min) := fun character inTaken =>
    covers character (List.mem_of_mem_take inTaken)
  have optional : members.Covers (taken.drop min) := fun character inTaken =>
    covers character (List.mem_of_mem_drop inTaken)
  have split : thread.cursor.rest =
      taken.take min ++ (taken.drop min ++ after) := by
    rw [remains, ← List.append_assoc, List.take_append_drop]
  rcases Cursor.advance_of_covers required split with
    ⟨middle, advanced, middleRest, middleOffset⟩
  rw [List.length_take, Nat.min_eq_left enough] at advanced
  have withinRest : ∀ bound, max.map (· - min) = some bound →
      (taken.drop min).length ≤ bound := by
    intro bound lowered
    rcases Option.map_eq_some_iff.mp lowered with ⟨upper, limited, rfl⟩
    have fits := within upper limited
    rw [List.length_drop]
    omega
  have endsRest : max.map (· - min) = some (taken.drop min).length ∨
      members.StopsAt after := by
    rcases ends with full | stops
    · left
      rw [full, List.length_drop]
      rfl
    · exact Or.inr stops
  rcases head?_runs optional withinRest endsRest middle.offset middle.before []
    with ⟨stop, head, stopRest, stopOffset⟩
  refine ⟨⟨stop, thread.captures⟩, ?_, stopRest, ?_⟩
  · rw [runStep, advanced]
    dsimp only
    rw [if_pos rfl, List.head?_map, middleRest, head]
    rfl
  · show stop.offset = thread.cursor.offset + byteLength taken
    rw [stopOffset, middleOffset, Nat.add_assoc, ← byteLength_append,
      List.take_append_drop]

/-- A greedily repeated set prefers any of its texts that the rest does not go
on with. -/
theorem prefers_repetition {members : CharSet} {min : Nat} {max : Option Nat}
    (ordered : ∀ bound, max = some bound → min ≤ bound)
    {taken after : List Char}
    (member : taken ∈ (Term.repetition (.set members) min max true).language)
    (stops : members.StopsAt after) :
    (Term.repetition (.set members) min max true).step.Prefers taken after := by
  rcases CharSet.mem_language_repetition_iff.mp member with
    ⟨covers, enough, within⟩
  apply prefers_runStep covers enough
  · intro bound limited
    have fits := within bound limited
    have below := ordered bound limited
    omega
  · exact Or.inr stops

/-! ## Captures -/

theorem prefers_captureStep (number : Nat) {step : Step}
    {taken after : List Char} (prefers : step.Prefers taken after) :
    (captureStep number step).Prefers taken after := by
  intro thread remains
  rcases prefers thread remains with ⟨arrival, head, rests, stops⟩
  refine ⟨{ arrival with
    captures := (number, thread.offset, arrival.offset) :: arrival.captures },
    ?_, rests, stops⟩
  rw [captureStep, List.head?_map, head]
  rfl

theorem refuses_captureStep (number : Nat) {step : Step} {rest : List Char}
    (refuses : step.Refuses rest) :
    (captureStep number step).Refuses rest := by
  intro thread remains
  rw [captureStep, refuses thread remains]
  rfl

/-! ## Matches -/

/-- An expression refuses what no text of its language starts. -/
theorem Term.refuses_of_notMem {term : Term} {rest : List Char}
    (notMem : ∀ taken after, rest = taken ++ after → taken ∉ term.language) :
    term.step.Refuses rest := by
  intro thread remains
  cases arrivals : term.step thread with
  | nil => rfl
  | cons arrival others =>
      have member : arrival ∈ term.step thread := by
        rw [arrivals]
        exact List.mem_cons_self
      rcases term.crosses_step thread arrival member with
        ⟨crossed, inLanguage, split, _⟩
      exact absurd inLanguage
        (notMem crossed arrival.cursor.rest (remains.symm.trans split))

/-- A repetition that needs a character of its set refuses any other. -/
theorem refuses_repetition {members : CharSet} {min : Nat} {max : Option Nat}
    {greedy : Bool} (positive : 0 < min) {rest : List Char}
    (stops : members.StopsAt rest) :
    (Term.repetition (.set members) min max greedy).step.Refuses rest := by
  apply Term.refuses_of_notMem
  rintro taken after rfl member
  rcases CharSet.mem_language_repetition_iff.mp member with
    ⟨covers, enough, _⟩
  cases taken with
  | nil =>
      rw [List.length_nil] at enough
      omega
  | cons character taken =>
      have inside := covers character List.mem_cons_self
      rw [CharSet.stopsAt_cons_iff.mp stops] at inside
      cases inside

/-- The match of an expression stops after the text that it prefers. -/
theorem Term.matchAt_of_prefers {term : Term} {source : Source}
    {offset : Nat} {taken after : List Char}
    (prefers : term.step.Prefers taken after)
    (remains : source.rest offset = some (taken ++ after)) :
    ∃ found, term.matchAt source offset = some found ∧
      found.stop = offset + byteLength taken := by
  rcases prefers ⟨⟨offset, source.characterBefore offset, taken ++ after⟩, []⟩
    rfl with ⟨arrival, head, _, stops⟩
  refine ⟨⟨arrival.offset, arrival.captures⟩, ?_, stops⟩
  rw [Term.matchAt, remains]
  dsimp only
  rw [head]
  rfl

theorem Term.matchAt_of_refuses {term : Term} {source : Source}
    {offset : Nat} {rest : List Char} (refuses : term.step.Refuses rest)
    (remains : source.rest offset = some rest) :
    term.matchAt source offset = none := by
  rw [Term.matchAt, remains]
  dsimp only
  rw [refuses _ rfl]
  rfl

end OrderedChoice.Regex
