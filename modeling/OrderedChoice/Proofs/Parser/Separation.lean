import OrderedChoice.Proofs.Parser.Repetition

/-!
# Separated items

Items with separators between them are read greedily: an item, and then turns
that read a separator and an item.  A turn that finds a separator and no item
behind it fails as a whole, so that its separator is given back.

The main statement, `Parser.separations_greedy`, is that separated lists are
read just like this, whatever their bounds.  They are put together from a
repetition with both bounds lowered by one, and a choice of the empty list where
no item is needed.
-/

namespace OrderedChoice.Parser

variable {R : Type → Type} {α β : Type}

/-! ## Turns with a separator -/

/-- Each turn is a run of a separator and, where that succeeds, one of an item
behind it. -/
def separatedTurnKind (rules : Rules R) (source : Source)
    (separator : Parser R β) (item : Parser R α) : TurnKind α where
  reads index turn :=
    ∃ middle mark prior recent before after,
      separator.Ends rules source index ⟨.success middle mark, prior⟩ before ∧
      item.Ends rules source middle ⟨.success turn.stop turn.value, recent⟩
        after ∧
      turn.diagnostics = recent.merge prior ∧ turn.events = before ++ after
  fails index diagnostics events :=
    separator.Ends rules source index ⟨.failure, diagnostics⟩ events ∨
    ∃ middle mark prior recent before after,
      separator.Ends rules source index ⟨.success middle mark, prior⟩ before ∧
      item.Ends rules source middle ⟨.failure, recent⟩ after ∧
      diagnostics = recent.merge prior ∧ events = before ++ after

/--
Items read from an offset with separators between them: the turns taken, what
the runs after them reported, and their events.  Without room for an item
nothing is run.  Else an item is run, and after it, as long as there is room,
turns with a separator.
-/
inductive Separated (rules : Rules R) (source : Source) (item : Parser R α)
    (separator : Parser R β) (max : Option Nat) (index : Nat) :
    List (Turn α) → List Diagnostics → List Event → Prop where
  | nothing (full : max = some 0) :
      Separated rules source item separator max index [] [] []
  | refused {diagnostics : Diagnostics} {events : List Event}
      (room : max ≠ some 0)
      (fails : item.Ends rules source index ⟨.failure, diagnostics⟩ events) :
      Separated rules source item separator max index [] [diagnostics] events
  | items {first : Turn α} {turns : List (Turn α)} {last : List Diagnostics}
      {ending : List Event} (room : max ≠ some 0)
      (reads : item.Ends rules source index
        ⟨.success first.stop first.value, first.diagnostics⟩ first.events)
      (rest : (separatedTurnKind rules source separator item).Greedy
        (max.map (· - 1)) first.stop turns last ending) :
      Separated rules source item separator max index (first :: turns) last
        ending

section

variable {rules : Rules R} {source : Source} {index : Nat}
  {events : List Event}

theorem ends_andThen_iff {first : Parser R β} {second : Parser R α}
    {ending : ParseResult α} :
    (first.andThen second).Ends rules source index ending events ↔
      (∃ diagnostics,
        first.Ends rules source index ⟨.failure, diagnostics⟩ events ∧
          ending = ⟨.failure, diagnostics⟩) ∨
      ∃ stop value prior before result after,
        first.Ends rules source index ⟨.success stop value, prior⟩ before ∧
          second.Ends rules source stop result after ∧
          ending = result.aggregate prior ∧ events = before ++ after := by
  have second_of_pair : ∀ (value : β) (result : ParseResult α),
      (result.map (value, ·)).map Prod.snd = result := by
    rintro value ⟨outcome | _, diagnostics⟩ <;> rfl
  rw [andThen, ends_map_iff]
  constructor
  · rintro ⟨pair, ends, rfl⟩
    rcases ends_both_iff.mp ends with ⟨diagnostics, endsFirst, rfl⟩ |
      ⟨stop, value, prior, before, result, after, endsFirst, endsSecond, rfl,
        split⟩
    · exact .inl ⟨diagnostics, endsFirst, rfl⟩
    · exact .inr ⟨stop, value, prior, before, result, after, endsFirst,
        endsSecond, second_of_pair value _, split⟩
  · rintro (⟨diagnostics, endsFirst, rfl⟩ |
      ⟨stop, value, prior, before, result, after, endsFirst, endsSecond, rfl,
        split⟩)
    · exact ⟨_, ends_both_iff.mpr (.inl ⟨diagnostics, endsFirst, rfl⟩), rfl⟩
    · exact ⟨_, ends_both_iff.mpr (.inr ⟨stop, value, prior, before, result,
        after, endsFirst, endsSecond, rfl, split⟩),
        (second_of_pair value _).symm⟩

/-- Running a separator and then an item is one turn with a separator. -/
theorem turnKind_andThen (separator : Parser R β) (item : Parser R α) :
    (separator.andThen item).turnKind rules source =
      separatedTurnKind rules source separator item := by
  rw [turnKind, separatedTurnKind, TurnKind.mk.injEq]
  constructor
  · funext index turn
    apply propext
    rw [ends_andThen_iff]
    constructor
    · rintro (⟨_, _, failed⟩ |
        ⟨middle, mark, prior, before, ⟨outcome, recent⟩, after, endsSeparator,
          endsItem, joined, split⟩)
      · cases failed
      · rw [ParseResult.aggregate, ParseResult.mk.injEq] at joined
        rcases joined with ⟨rfl, reported⟩
        exact ⟨middle, mark, prior, recent, before, after, endsSeparator,
          endsItem, reported, split⟩
    · rintro ⟨middle, mark, prior, recent, before, after, endsSeparator,
        endsItem, reported, split⟩
      exact .inr ⟨middle, mark, prior, before, _, after, endsSeparator,
        endsItem, by rw [ParseResult.aggregate, reported], split⟩
  · funext index diagnostics events
    apply propext
    rw [ends_andThen_iff]
    constructor
    · rintro (⟨_, endsSeparator, failed⟩ |
        ⟨middle, mark, prior, before, ⟨outcome, recent⟩, after, endsSeparator,
          endsItem, joined, split⟩)
      · cases failed
        exact .inl endsSeparator
      · rw [ParseResult.aggregate, ParseResult.mk.injEq] at joined
        rcases joined with ⟨rfl, rfl⟩
        exact .inr ⟨middle, mark, prior, recent, before, after, endsSeparator,
          endsItem, rfl, split⟩
    · rintro (endsSeparator |
        ⟨middle, mark, prior, recent, before, after, endsSeparator, endsItem,
          rfl, split⟩)
      · exact .inl ⟨diagnostics, endsSeparator, rfl⟩
      · exact .inr ⟨middle, mark, prior, before, _, after, endsSeparator,
          endsItem, rfl, split⟩

/-! ## Lists of items -/

theorem lowered_sub_one {min : Nat} {max : Option Nat}
    (bounds : ∀ bound ∈ max, min ≤ bound) :
    Attempt.lowered (min - 1) (max.map (· - 1)) = min - 1 := by
  cases max with
  | none => rfl
  | some upper =>
      exact Nat.min_eq_left (Nat.sub_le_sub_right (bounds upper rfl) 1)

/-- An item and then turns with a separator are separated items, of which at
least one is needed. -/
theorem ends_items_iff {item : Parser R α} {separator : Parser R β} {min : Nat}
    {max : Option Nat} (room : max ≠ some 0)
    (bounds : ∀ bound ∈ max, min ≤ bound) {result : ParseResult (List α)} :
    (Parser.map (fun values => values.1 :: values.2)
      (.both item (.times (separator.andThen item) (min - 1)
        (max.map (· - 1))))).Ends rules source index result events ↔
      ∃ taken last ending,
        Separated rules source item separator max index taken last ending ∧
        result = Turn.collected (min - 1 + 1) index taken last ∧
        events = taken.flatMap Turn.events ++ ending := by
  have put_in_front : ∀ (value : α) (later : ParseResult (List α)),
      (later.map (value, ·)).map (fun values => values.1 :: values.2) =
        later.map (value :: ·) := by
    rintro value ⟨outcome | _, diagnostics⟩ <;> rfl
  rw [ends_map_iff]
  constructor
  · rintro ⟨pair, ends, rfl⟩
    rcases ends_both_iff.mp ends with ⟨diagnostics, endsItem, rfl⟩ |
      ⟨stop, value, prior, before, later, after, endsItem, endsRest, rfl, rfl⟩
    · exact ⟨[], [diagnostics], events, .refused room endsItem,
        by simp [Turn.collected, ParseResult.map, Outcome.map], rfl⟩
    · rcases ends_times_iff.mp endsRest with
        ⟨taken, last, ending, greedy, rfl, rfl⟩
      rw [turnKind_andThen] at greedy
      let first : Turn α := ⟨value, stop, prior, before⟩
      refine ⟨first :: taken, last, ending, .items room endsItem greedy, ?_,
        by rw [List.flatMap_cons, List.append_assoc]⟩
      rw [Turn.collected_cons, put_in_front, lowered_sub_one bounds,
        Nat.add_sub_cancel]
      rfl
  · rintro ⟨taken, last, ending, separated, rfl, rfl⟩
    cases separated with
    | nothing full => exact absurd full room
    | refused room fails =>
        exact ⟨_, ends_both_iff.mpr (.inl ⟨_, fails, rfl⟩),
          by simp [Turn.collected, ParseResult.map, Outcome.map]⟩
    | @items first turns _ _ room reads rest =>
        rw [← turnKind_andThen] at rest
        have endsRest : (Parser.times (separator.andThen item) (min - 1)
            (max.map (· - 1))).Ends rules source first.stop
              (Turn.collected (min - 1) first.stop turns last)
              (turns.flatMap Turn.events ++ ending) :=
          ends_times_iff.mpr ⟨turns, last, ending, rest,
            by rw [lowered_sub_one bounds], rfl⟩
        refine ⟨_, ends_both_iff.mpr (.inr ⟨first.stop, first.value, _, _, _,
          _, reads, endsRest, rfl,
          by rw [List.flatMap_cons, List.append_assoc]⟩), ?_⟩
        rw [Turn.collected_cons, put_in_front, Nat.add_sub_cancel]
        rfl

end

/--
A list of separated items is read greedily.  With the lower bound lowered to the
upper one, it succeeds exactly if enough items were read, and stops behind the
last of them, so that a separator without an item is not consumed.  What it
reports is merged from all the runs made, and its events are those of these
runs, so that nothing else is run; only that the list may be empty, where it is,
is an attempt of its own, which reports nothing.
-/
theorem separations_greedy (item : Parser R α) (separator : Parser R β)
    (min : Nat) (max : Option Nat) (rules : Rules R) (source : Source)
    (index : Nat) (result : ParseResult (List α)) (events : List Event) :
    (sepBy item separator min max).Ends rules source index result events ↔
      ∃ taken last ending,
        Separated rules source item separator max index taken last ending ∧
        result = Turn.collected (Attempt.lowered min max) index taken last ∧
        events = taken.flatMap Turn.events ++ ending ++
          if Attempt.lowered min max = 0 ∧ taken = [] then [.attempt .none]
          else [] := by
  have bounds := Attempt.lowered_le min max
  by_cases full : max = some 0
  · subst full
    have needed : Attempt.lowered min (some 0) = 0 := Nat.min_zero min
    rw [sepBy, if_pos rfl, ends_success_iff, needed]
    constructor
    · rintro ⟨rfl, rfl⟩
      exact ⟨[], [], [], .nothing rfl, rfl, rfl⟩
    · rintro ⟨taken, last, ending, separated, rfl, rfl⟩
      cases separated with
      | nothing full => exact ⟨rfl, rfl⟩
      | refused room fails => exact absurd rfl room
      | items room reads rest => exact absurd rfl room
  rw [sepBy, if_neg full]
  by_cases needless : Attempt.lowered min max = 0
  · rw [needless, if_pos rfl, ends_orElse_iff]
    have noBounds : ∀ bound ∈ max, 0 ≤ bound := fun bound _ => Nat.zero_le bound
    constructor
    · rintro (⟨succeeded, endsItems⟩ |
        ⟨prior, before, empty, after, endsItems, endsEmpty, rfl, rfl⟩)
      · rcases (ends_items_iff full noBounds).mp endsItems with
          ⟨taken, last, ending, separated, rfl, rfl⟩
        cases taken with
        | nil => cases succeeded
        | cons first taken =>
            exact ⟨_, last, ending, separated, by simp [Turn.collected],
              by simp⟩
      · rcases (ends_items_iff full noBounds).mp endsItems with
          ⟨taken, last, ending, separated, failed, rfl⟩
        rcases ends_success_iff.mp endsEmpty with ⟨rfl, rfl⟩
        cases taken with
        | nil =>
            cases failed
            exact ⟨[], last, ending, separated, by simp [Turn.collected],
              by simp⟩
        | cons first taken => simp [Turn.collected] at failed
    · rintro ⟨taken, last, ending, separated, rfl, rfl⟩
      have endsItems := (ends_items_iff full noBounds).mpr
        ⟨taken, last, ending, separated, rfl, rfl⟩
      cases taken with
      | nil =>
          exact .inr ⟨_, _, _, _, endsItems,
            ends_success_iff.mpr ⟨rfl, rfl⟩, by simp [Turn.collected],
            by simp⟩
      | cons first taken =>
          exact .inl ⟨by simp [Turn.collected, ParseResult.isSuccess,
            Outcome.isSuccess], by simpa [Turn.collected] using endsItems⟩
  · rw [if_neg needless, ends_items_iff full bounds]
    have needed : Attempt.lowered min max - 1 + 1 = Attempt.lowered min max :=
      Nat.sub_add_cancel (Nat.pos_of_ne_zero needless)
    simp [needed, needless]

end OrderedChoice.Parser
