import OrderedChoice.Proofs.Parser.Unrolling

/-!
# Greedy repetition

A greedy repetition takes turns one behind the other, as many as there are up to
its upper bound, and gives none of them back.  It stops at the bound without
trying another turn, or at the first turn that fails.  Whether it succeeds
depends only on how many turns it took.

This is said here of turns of any kind, without a loop: by the turns taken, what
the one that failed reported, and nothing else.  The main statement,
`Parser.repetitions_greedy`, is that all the ways to repeat a parser are greedy
repetitions between bounds of their own.
-/

namespace OrderedChoice

/-! ## Turns -/

/-- What a turn came to: the value it read, the offset where it stopped, what it
reported, and its events. -/
structure Turn (α : Type) where
  value : α
  stop : Nat
  diagnostics : Diagnostics
  events : List Event

/-- What a turn can come to from an offset: it reads something, or it fails with
a report after some events. -/
structure TurnKind (α : Type) where
  reads : Nat → Turn α → Prop
  fails : Nat → Diagnostics → List Event → Prop

namespace Turn

variable {α : Type}

/-- The offset where turns from an offset stop. -/
def stopAfter (index : Nat) (turns : List (Turn α)) : Nat :=
  turns.foldl (fun _ turn => turn.stop) index

@[simp] theorem stopAfter_nil (index : Nat) :
    stopAfter index ([] : List (Turn α)) = index := rfl

@[simp] theorem stopAfter_cons (index : Nat) (turn : Turn α)
    (turns : List (Turn α)) :
    stopAfter index (turn :: turns) = stopAfter turn.stop turns := rfl

@[simp] theorem stopAfter_concat (index : Nat) (turns : List (Turn α))
    (turn : Turn α) : stopAfter index (turns ++ [turn]) = turn.stop :=
  List.foldl_append

/-- The result of turns from an offset when so many are needed.  Reported is
what they did and what the last one did that failed, if there is any. -/
def collected (min index : Nat) (turns : List (Turn α))
    (last : List Diagnostics) : ParseResult (List α) where
  outcome :=
    if min ≤ turns.length then
      .success (stopAfter index turns) (turns.map Turn.value)
    else .failure
  diagnostics := .mergeAll (turns.map Turn.diagnostics ++ last)

/-- A turn puts its value in front, and its report is merged. -/
theorem collected_cons (min index : Nat) (turn : Turn α)
    (turns : List (Turn α)) (last : List Diagnostics) :
    collected min index (turn :: turns) last =
      ((collected (min - 1) turn.stop turns last).map
        (turn.value :: ·)).aggregate turn.diagnostics := by
  simp only [collected, ParseResult.map, ParseResult.aggregate,
    List.length_cons, List.map_cons, List.cons_append,
    Diagnostics.mergeAll_cons, stopAfter_cons]
  by_cases enough : min ≤ turns.length + 1
  · rw [if_pos enough, if_pos (by omega)]
    rfl
  · rw [if_neg enough, if_neg (by omega)]
    rfl

end Turn

namespace TurnKind

variable {α : Type}

/-- Turns one behind the other, each from where the one before it stopped. -/
inductive Consecutive (kind : TurnKind α) : Nat → List (Turn α) → Prop where
  | nil (index : Nat) : Consecutive kind index []
  | cons {index : Nat} {turn : Turn α} {turns : List (Turn α)}
      (reads : kind.reads index turn)
      (rest : Consecutive kind turn.stop turns) :
      Consecutive kind index (turn :: turns)

/--
A greedy repetition from an offset: the turns it takes, what the turn after them
reported, if there was one, and its events.  At the upper bound nothing more is
run; below it, only a turn that fails ends the repetition.
-/
inductive Greedy (kind : TurnKind α) (max : Option Nat) (index : Nat)
    (turns : List (Turn α)) : List Diagnostics → List Event → Prop where
  | full (taken : kind.Consecutive index turns)
      (reached : max = some turns.length) : Greedy kind max index turns [] []
  | refused {diagnostics : Diagnostics} {events : List Event}
      (taken : kind.Consecutive index turns)
      (room : ∀ bound ∈ max, turns.length < bound)
      (fails : kind.fails (Turn.stopAfter index turns) diagnostics events) :
      Greedy kind max index turns [diagnostics] events

variable {kind : TurnKind α} {max : Option Nat} {index : Nat}
  {last : List Diagnostics} {ending : List Event}

theorem consecutive_cons_iff {turn : Turn α} {turns : List (Turn α)} :
    kind.Consecutive index (turn :: turns) ↔
      kind.reads index turn ∧ kind.Consecutive turn.stop turns := by
  constructor
  · intro taken
    cases taken with
    | cons reads rest => exact ⟨reads, rest⟩
  · rintro ⟨reads, rest⟩
    exact .cons reads rest

theorem consecutive_concat_iff {turns : List (Turn α)} {turn : Turn α} :
    kind.Consecutive index (turns ++ [turn]) ↔
      kind.Consecutive index turns ∧
        kind.reads (Turn.stopAfter index turns) turn := by
  induction turns generalizing index with
  | nil =>
      rw [List.nil_append, consecutive_cons_iff]
      exact ⟨fun taken => ⟨.nil index, taken.1⟩,
        fun taken => ⟨taken.2, .nil turn.stop⟩⟩
  | cons first turns inductiveStep =>
      rw [List.cons_append, consecutive_cons_iff, consecutive_cons_iff,
        inductiveStep, and_assoc, Turn.stopAfter_cons]

/-- A repetition without turns is at its upper bound, or its first turn
fails. -/
theorem greedy_nil_iff :
    kind.Greedy max index [] last ending ↔
      (max = some 0 ∧ last = [] ∧ ending = []) ∨
      (max ≠ some 0 ∧
        ∃ diagnostics, last = [diagnostics] ∧
          kind.fails index diagnostics ending) := by
  constructor
  · intro greedy
    cases greedy with
    | full taken reached => exact .inl ⟨reached, rfl, rfl⟩
    | refused taken room fails =>
        refine .inr ⟨?_, _, rfl, fails⟩
        rintro rfl
        exact Nat.not_lt_zero _ (room 0 rfl)
  · rintro (⟨reached, rfl, rfl⟩ | ⟨below, diagnostics, rfl, fails⟩)
    · exact .full (.nil index) reached
    · refine .refused (.nil index) ?_ fails
      rintro bound rfl
      exact Nat.pos_of_ne_zero fun none => below (none ▸ rfl)

/-- A repetition with turns is its first turn and a repetition with room for one
less. -/
theorem greedy_cons_iff {turn : Turn α} {turns : List (Turn α)} :
    kind.Greedy max index (turn :: turns) last ending ↔
      max ≠ some 0 ∧ kind.reads index turn ∧
        kind.Greedy (max.map (· - 1)) turn.stop turns last ending := by
  constructor
  · intro greedy
    cases greedy with
    | full taken reached =>
        rcases consecutive_cons_iff.mp taken with ⟨reads, rest⟩
        subst reached
        exact ⟨by simp, reads, .full rest (by simp)⟩
    | refused taken room fails =>
        rcases consecutive_cons_iff.mp taken with ⟨reads, rest⟩
        refine ⟨?_, reads, .refused rest ?_ fails⟩
        · rintro rfl
          exact Nat.not_lt_zero _ (room 0 rfl)
        · intro bound member
          rcases Option.map_eq_some_iff.mp member with ⟨upper, isMax, rfl⟩
          have below := room upper isMax
          rw [List.length_cons] at below
          omega
  · rintro ⟨below, reads, greedy⟩
    cases greedy with
    | full rest reached =>
        rcases Option.map_eq_some_iff.mp reached with ⟨upper, rfl, length⟩
        have positive : upper ≠ 0 := fun none => below (none ▸ rfl)
        refine .full (.cons reads rest) ?_
        rw [List.length_cons, ← length, Nat.sub_add_cancel (by omega)]
    | refused rest room fails =>
        refine .refused (.cons reads rest) ?_ fails
        rintro upper rfl
        have positive : upper ≠ 0 := fun none => below (none ▸ rfl)
        have below := room (upper - 1) rfl
        rw [List.length_cons]
        omega

theorem Consecutive.mono {other : TurnKind α} {turns : List (Turn α)}
    (taken : kind.Consecutive index turns)
    (more : ∀ start turn, kind.reads start turn → other.reads start turn) :
    other.Consecutive index turns := by
  induction taken with
  | nil index => exact .nil index
  | cons reads rest inductiveStep => exact .cons (more _ _ reads) inductiveStep

theorem Greedy.mono {other : TurnKind α} {turns : List (Turn α)}
    (greedy : kind.Greedy max index turns last ending)
    (more : ∀ start turn, kind.reads start turn → other.reads start turn)
    (moreFails : ∀ start diagnostics events,
      kind.fails start diagnostics events →
        other.fails start diagnostics events) :
    other.Greedy max index turns last ending := by
  cases greedy with
  | full taken reached => exact .full (taken.mono more) reached
  | refused taken room fails =>
      exact .refused (taken.mono more) room (moreFails _ _ _ fails)

theorem Greedy.length_le {turns : List (Turn α)}
    (greedy : kind.Greedy max index turns last ending) :
    ∀ bound ∈ max, turns.length ≤ bound := by
  rintro bound rfl
  cases greedy with
  | full taken reached => exact (Option.some.inj reached).ge
  | refused taken room fails => exact (room bound rfl).le

end TurnKind

/-! ## Turns of attempts -/

namespace Attempt

variable {α : Type} {item : Attempt α} {max : Option Nat} {index : Nat}

/-- Each turn is one run of an attempt. -/
def turnKind (item : Attempt α) : TurnKind α where
  reads index turn :=
    (item index).EndsWith ⟨.success turn.stop turn.value, turn.diagnostics⟩
      turn.events
  fails index diagnostics events :=
    (item index).EndsWith ⟨.failure, diagnostics⟩ events

theorem lower_bounds {min : Nat} (bounds : ∀ bound ∈ max, min ≤ bound) :
    ∀ bound ∈ max.map (· - 1), min - 1 ≤ bound := by
  intro bound member
  rcases Option.map_eq_some_iff.mp member with ⟨upper, isMax, rfl⟩
  exact Nat.sub_le_sub_right (bounds upper isMax) 1

theorem lowered_le (min : Nat) (max : Option Nat) :
    ∀ bound ∈ max, lowered min max ≤ bound := by
  rintro bound rfl
  exact Nat.min_le_right _ _

/-- Without room for a turn nothing is run. -/
theorem endsWith_unrolled_full_iff {turns min : Nat}
    {result : ParseResult (List α)} {events : List Event}
    (bounds : ∀ bound ∈ some 0, min ≤ bound) :
    (item.unrolled turns min (some 0) index).EndsWith result events ↔
      result = Turn.collected min index [] [] ∧ events = [] := by
  have needed : min ≤ 0 := bounds 0 rfl
  rw [unrolled_full, Run.endsWith_done_iff]
  simp [Turn.collected, needed, ParseResult.success]

/-- A recursion that ends has taken the turns of a greedy repetition. -/
theorem exists_greedy_of_unrolled {turns min : Nat}
    {result : ParseResult (List α)} {events : List Event}
    (bounds : ∀ bound ∈ max, min ≤ bound)
    (ends : (item.unrolled turns min max index).EndsWith result events) :
    ∃ taken last ending, item.turnKind.Greedy max index taken last ending ∧
      result = Turn.collected min index taken last ∧
      events = taken.flatMap Turn.events ++ ending := by
  induction turns generalizing min max index result events with
  | zero =>
      by_cases reached : max = some 0
      · subst reached
        rcases (endsWith_unrolled_full_iff bounds).mp ends with ⟨rfl, rfl⟩
        exact ⟨[], [], [], .full (.nil index) rfl, rfl, rfl⟩
      · rw [unrolled, if_neg reached] at ends
        cases ends.answer
  | succ turns inductiveStep =>
      by_cases reached : max = some 0
      · subst reached
        rcases (endsWith_unrolled_full_iff bounds).mp ends with ⟨rfl, rfl⟩
        exact ⟨[], [], [], .full (.nil index) rfl, rfl, rfl⟩
      rw [unrolled_succ _ _ _ reached, turn] at ends
      rcases Run.endsWith_andThen_iff.mp ends with
        ⟨⟨outcome, prior⟩, before, after, endsItem, endsRest, rfl⟩
      cases outcome with
      | failure =>
          rcases Run.endsWith_done_iff.mp endsRest with ⟨rfl, rfl⟩
          refine ⟨[], [prior], before,
            TurnKind.greedy_nil_iff.mpr (.inr ⟨reached, prior, rfl, endsItem⟩),
            ?_, by simp⟩
          simp [Turn.collected]
      | success next value =>
          rcases Run.endsWith_mapResult_iff.mp endsRest with
            ⟨later, endsLater, rfl⟩
          rcases inductiveStep (lower_bounds bounds) endsLater with
            ⟨taken, last, ending, greedy, rfl, rfl⟩
          let first : Turn α := ⟨value, next, prior, before⟩
          refine ⟨first :: taken, last, ending,
            TurnKind.greedy_cons_iff.mpr ⟨reached, endsItem, greedy⟩,
            (Turn.collected_cons min index first taken last).symm, ?_⟩
          rw [List.flatMap_cons, List.append_assoc]

/-- A recursion takes the turns of a greedy repetition, if it may take as many
and one more. -/
theorem unrolled_endsWith {taken : List (Turn α)} {last : List Diagnostics}
    {ending : List Event} {turns min : Nat}
    (greedy : item.turnKind.Greedy max index taken last ending)
    (bounds : ∀ bound ∈ max, min ≤ bound) (enough : taken.length < turns) :
    (item.unrolled turns min max index).EndsWith
      (Turn.collected min index taken last)
      (taken.flatMap Turn.events ++ ending) := by
  induction taken generalizing turns min max index with
  | nil =>
      rcases TurnKind.greedy_nil_iff.mp greedy with
        ⟨rfl, rfl, rfl⟩ | ⟨room, diagnostics, rfl, fails⟩
      · exact (endsWith_unrolled_full_iff bounds).mpr ⟨rfl, rfl⟩
      · rcases Nat.exists_eq_add_one_of_ne_zero (Nat.ne_zero_of_lt enough)
          with ⟨turns, rfl⟩
        rw [unrolled_succ _ _ _ room, turn]
        refine Run.endsWith_andThen_iff.mpr ⟨_, ending, [], fails,
          Run.endsWith_done_iff.mpr ⟨?_, rfl⟩, by simp⟩
        simp [Turn.collected]
  | cons first taken inductiveStep =>
      rcases TurnKind.greedy_cons_iff.mp greedy with ⟨room, reads, rest⟩
      rcases Nat.exists_eq_add_one_of_ne_zero (Nat.ne_zero_of_lt enough)
        with ⟨turns, rfl⟩
      have endsRest := inductiveStep rest (lower_bounds bounds)
        (Nat.lt_of_succ_lt_succ enough)
      rw [unrolled_succ _ _ _ room, turn]
      refine Run.endsWith_andThen_iff.mpr ⟨_, first.events, _, reads,
        Run.endsWith_mapResult_iff.mpr
          ⟨_, endsRest, Turn.collected_cons min index first taken last⟩, ?_⟩
      rw [List.flatMap_cons, List.append_assoc]

end Attempt

/-! ## Repeated parsers -/

namespace Parser

variable {R : Type → Type} {α β : Type}

/-- Each turn is one run of a parser. -/
def turnKind (rules : Rules R) (source : Source) (item : Parser R α) :
    TurnKind α where
  reads index turn :=
    item.Ends rules source index
      ⟨.success turn.stop turn.value, turn.diagnostics⟩ turn.events
  fails index diagnostics events :=
    item.Ends rules source index ⟨.failure, diagnostics⟩ events

section

variable {rules : Rules R} {source : Source} {index : Nat}

/-- With enough fuel for each of them, all turns of a repetition are taken. -/
theorem greedy_eventually {item : Parser R α} {max : Option Nat}
    {taken : List (Turn α)} {last : List Diagnostics} {ending : List Event}
    (greedy : (item.turnKind rules source).Greedy max index taken last
      ending) :
    ∃ least, ∀ fuel, least ≤ fuel →
      (item.run rules fuel source).turnKind.Greedy max index taken last
        ending := by
  induction taken generalizing max index with
  | nil =>
      rcases TurnKind.greedy_nil_iff.mp greedy with
        full | ⟨room, diagnostics, isLast, fails⟩
      · exact ⟨0, fun fuel _ => TurnKind.greedy_nil_iff.mpr (.inl full)⟩
      · rcases Ends.eventually fails with ⟨least, ends⟩
        exact ⟨least, fun fuel enough => TurnKind.greedy_nil_iff.mpr
          (.inr ⟨room, diagnostics, isLast, ends fuel enough⟩)⟩
  | cons turn taken inductiveStep =>
      rcases TurnKind.greedy_cons_iff.mp greedy with ⟨room, reads, rest⟩
      rcases Ends.eventually reads with ⟨leastTurn, ends⟩
      rcases inductiveStep rest with ⟨leastRest, greedyRest⟩
      exact ⟨leastTurn + leastRest, fun fuel enough =>
        TurnKind.greedy_cons_iff.mpr ⟨room, ends fuel (by omega),
          greedyRest fuel (by omega)⟩⟩

/-- The loop of a repetition ends exactly like a greedy repetition. -/
theorem ends_times_iff {item : Parser R α} {min : Nat} {max : Option Nat}
    {result : ParseResult (List α)} {events : List Event} :
    (Parser.times item min max).Ends rules source index result events ↔
      ∃ taken last ending,
        (item.turnKind rules source).Greedy max index taken last ending ∧
        result =
          Turn.collected (Attempt.lowered min max) index taken last ∧
        events = taken.flatMap Turn.events ++ ending := by
  have bounds := Attempt.lowered_le min max
  constructor
  · rintro ⟨fuel, ends⟩
    rw [run, attempt, (Attempt.times_same _ _ _ _ _).endsWith_iff] at ends
    rcases Attempt.exists_greedy_of_unrolled bounds ends with
      ⟨taken, last, ending, greedy, collected, split⟩
    exact ⟨taken, last, ending,
      greedy.mono (fun _ _ reads => ⟨fuel, reads⟩)
        (fun _ _ _ fails => ⟨fuel, fails⟩), collected, split⟩
  · rintro ⟨taken, last, ending, greedy, rfl, rfl⟩
    rcases greedy_eventually greedy with ⟨least, eventually⟩
    refine ⟨least + taken.length + 1, ?_⟩
    rw [run, attempt, (Attempt.times_same _ _ _ _ _).endsWith_iff]
    exact Attempt.unrolled_endsWith (eventually _ (by omega)) bounds
      (by omega)

end

/--
A parser repeats another greedily between two bounds, the lower one lowered to
the upper one, and makes its value of the list of those read.  It succeeds
exactly if enough turns were taken; the diagnostics are merged from those of all
turns and of the one that failed, if the upper bound was not reached; and its
events are those of these runs, so that nothing else is run.
-/
def RepeatsGreedily (parser : Parser R β) (item : Parser R α) (min : Nat)
    (max : Option Nat) (collect : List α → β) : Prop :=
  ∀ (rules : Rules R) (source : Source) (index : Nat) (result : ParseResult β)
    (events : List Event),
    parser.Ends rules source index result events ↔
      ∃ taken last ending,
        (item.turnKind rules source).Greedy max index taken last ending ∧
        result =
          (Turn.collected (Attempt.lowered min max) index taken last).map
            collect ∧
        events = taken.flatMap Turn.events ++ ending

theorem repeatsGreedily_map (f : List α → β) (item : Parser R α) (min : Nat)
    (max : Option Nat) :
    RepeatsGreedily (.map f (.times item min max)) item min max f := by
  intro rules source index result events
  rw [ends_map_iff]
  constructor
  · rintro ⟨before, ends, rfl⟩
    rcases ends_times_iff.mp ends with
      ⟨taken, last, ending, greedy, rfl, split⟩
    exact ⟨taken, last, ending, greedy, rfl, split⟩
  · rintro ⟨taken, last, ending, greedy, rfl, split⟩
    exact ⟨_, ends_times_iff.mpr ⟨taken, last, ending, greedy, rfl, split⟩,
      rfl⟩

theorem map_id (result : ParseResult α) : result.map id = result := by
  rcases result with ⟨outcome | _, diagnostics⟩ <;> rfl

theorem repeatsGreedily_times (item : Parser R α) (min : Nat)
    (max : Option Nat) :
    RepeatsGreedily (.times item min max) item min max id := by
  intro rules source index result events
  simp only [map_id]
  exact ends_times_iff

/-- Of one turn at most, the first value is the last. -/
theorem repeatsGreedily_optional (item : Parser R α) :
    RepeatsGreedily (optional item) item 0 (some 1) List.head? := by
  intro rules source index result events
  rw [optional, repeatsGreedily_map List.getLast? item 0 (some 1) rules source
    index result events]
  have same : ∀ {taken : List (Turn α)} {last : List Diagnostics}
      {ending : List Event},
      (item.turnKind rules source).Greedy (some 1) index taken last ending →
      (Turn.collected (Attempt.lowered 0 (some 1)) index taken last).map
          List.getLast? =
        (Turn.collected (Attempt.lowered 0 (some 1)) index taken last).map
          List.head? := by
    intro taken last ending greedy
    have atMostOne := greedy.length_le 1 rfl
    match taken, atMostOne with
    | [], _ => rfl
    | [turn], _ => rfl
  constructor
  · rintro ⟨taken, last, ending, greedy, rfl, split⟩
    exact ⟨taken, last, ending, greedy, same greedy, split⟩
  · rintro ⟨taken, last, ending, greedy, rfl, split⟩
    exact ⟨taken, last, ending, greedy, (same greedy).symm, split⟩

/--
Every way to repeat a parser is a greedy repetition: between any two bounds;
exactly so often; any number of times; at least or at most so often; once or not
at all; and so often as a range of counts says, which leaves out its upper end
or includes it.
-/
theorem repetitions_greedy (item : Parser R α) :
    (∀ min max, RepeatsGreedily (.times item min max) item min max id) ∧
    (∀ count, RepeatsGreedily (exactly item count) item count (some count)
      id) ∧
    RepeatsGreedily (many item) item 0 none id ∧
    (∀ min, RepeatsGreedily (atLeast item min) item min none id) ∧
    (∀ max, RepeatsGreedily (atMost item max) item 0 (some max) id) ∧
    RepeatsGreedily (optional item) item 0 (some 1) List.head? ∧
    (∀ start stop, RepeatsGreedily (fromBelow item start stop) item start
      (some (stop - 1)) id) ∧
    (∀ start stop, RepeatsGreedily (fromUpTo item start stop) item start
      (some stop) id) :=
  ⟨repeatsGreedily_times item, fun _ => repeatsGreedily_times item _ _,
    repeatsGreedily_times item _ _, fun _ => repeatsGreedily_times item _ _,
    fun _ => repeatsGreedily_times item _ _, repeatsGreedily_optional item,
    fun _ _ => repeatsGreedily_times item _ _,
    fun _ _ => repeatsGreedily_times item _ _⟩

end Parser

end OrderedChoice
