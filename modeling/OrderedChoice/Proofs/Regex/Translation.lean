import Mathlib.Data.List.Forall2
import OrderedChoice.Proofs.Text.Boundary
import OrderedChoice.Regex.Pattern

/-!
# Moving the text behind

What an expression matches at an offset can depend on what stands before it
through its assertions only.  Where those ask for what follows and for nothing
else, a match is the same wherever the text that it starts is moved to, with
its offsets moved along.

Threads that stand before the same rest, in texts that differ by what stands in
front of them, take the same steps side by side.  Each way of composing steps
keeps this, so it holds of every such expression.
-/

namespace OrderedChoice.Regex

open List (Forall₂)

/-! ## Looking ahead -/

/-- Whether an assertion asks only for what follows. -/
def Look.isAhead : Look → Bool
  | .textEnd => true
  | .lineEnd => true
  | _ => false

/-- Whether the assertions of an expression ask only for what follows. -/
def Term.looksAhead : Term → Bool
  | .empty => true
  | .set _ => true
  | .look assertion => assertion.isAhead
  | .seq first second => first.looksAhead && second.looksAhead
  | .alt first second => first.looksAhead && second.looksAhead
  | .repetition body _ _ _ => body.looksAhead
  | .group _ body => body.looksAhead

theorem Look.holds_of_isAhead {assertion : Look}
    (ahead : assertion.isAhead = true) (before before' after : Option Char) :
    assertion.holds before after = assertion.holds before' after := by
  cases assertion <;> first | rfl | cases ahead

/-! ## Moved threads -/

/-- A span so much further on. -/
def moveSpan (distance : Nat) (span : Nat × Nat) : Nat × Nat :=
  (distance + span.1, distance + span.2)

/-- Captures so much further on. -/
def Captures.move (distance : Nat) (captures : Captures) : Captures :=
  captures.map fun capture => (capture.1, moveSpan distance capture.2)

/-- A match so much further on. -/
def Match.move (distance : Nat) (found : Match) : Match :=
  ⟨distance + found.stop, Captures.move distance found.captures⟩

/-- One cursor stands so much further on than another, before the same rest. -/
structure Cursor.Moved (distance : Nat) (cursor cursor' : Cursor) : Prop where
  offset : cursor'.offset = distance + cursor.offset
  rest : cursor'.rest = cursor.rest

/-- One thread stands so much further on than another, and so does all that it
has captured. -/
structure Thread.Moved (distance : Nat) (thread thread' : Thread) : Prop where
  cursor : thread.cursor.Moved distance thread'.cursor
  captures : thread'.captures = Captures.move distance thread.captures

theorem Thread.Moved.offset {distance : Nat} {thread thread' : Thread}
    (moved : thread.Moved distance thread') :
    thread'.offset = distance + thread.offset := moved.cursor.offset

/-- From threads one further on than the other a step arrives at threads further
on by as much, in the same order. -/
def Step.Moves (distance : Nat) (step : Step) : Prop :=
  ∀ thread thread' : Thread, thread.Moved distance thread' →
    Forall₂ (Thread.Moved distance) (step thread) (step thread')

/-! ## Lists of threads -/

section

variable {distance : Nat} {Item Key : Type} {related : Item → Item → Prop}
  {items items' : List Item}

/-- Items whose keys are renamed without confusion are the first of their key
where the others are. -/
theorem distinctFrom_forall₂ [BEq Key] [LawfulBEq Key] {key : Item → Key}
    {rename : Key → Key} (injective : Function.Injective rename)
    (keys : ∀ item item', related item item' →
      key item' = rename (key item))
    (pairs : Forall₂ related items items') (seen : List Key) :
    Forall₂ related (distinctFrom key seen items)
      (distinctFrom key (seen.map rename) items') := by
  induction pairs generalizing seen with
  | nil => exact .nil
  | @cons item item' items items' pair pairs inductiveStep =>
      have known : (seen.map rename).contains (key item') =
          seen.contains (key item) := by
        rw [keys _ _ pair, Bool.eq_iff_iff, List.contains_iff_mem,
          List.contains_iff_mem, List.mem_map_of_injective injective]
      rw [distinctFrom, distinctFrom, known]
      split
      · exact inductiveStep seen
      · refine .cons pair ?_
        have longer := inductiveStep (key item :: seen)
        rwa [List.map_cons, ← keys _ _ pair] at longer

theorem distinct_moves {threads threads' : List Thread}
    (moved : Forall₂ (Thread.Moved distance) threads threads') :
    Forall₂ (Thread.Moved distance) (distinct threads) (distinct threads') :=
  distinctFrom_forall₂ (fun _ _ => Nat.add_left_cancel)
    (fun _ _ pair => pair.offset) moved []

/-- An offset is among those of some threads where it was before they moved. -/
theorem any_offset_moved {found found' : List Thread}
    {arrival arrival' : Thread}
    (moved : Forall₂ (Thread.Moved distance) found found')
    (arrivals : arrival.Moved distance arrival') :
    (found'.any fun earlier => earlier.offset == arrival'.offset) =
      found.any fun earlier => earlier.offset == arrival.offset := by
  induction moved with
  | nil => rfl
  | cons pair pairs inductiveStep =>
      rw [List.any_cons, List.any_cons, inductiveStep, pair.offset,
        arrivals.offset]
      congr 1
      rw [Bool.eq_iff_iff, beq_iff_eq, beq_iff_eq, Nat.add_right_inj]

end

/-! ## Steps -/

namespace Step.Moves

variable {distance : Nat} {first second step : Step}

theorem stay : Step.stay.Moves distance := fun _ _ moved => .cons moved .nil

theorem flatMap (moves : step.Moves distance) {threads threads' : List Thread}
    (moved : Forall₂ (Thread.Moved distance) threads threads') :
    Forall₂ (Thread.Moved distance) (threads.flatMap step)
      (threads'.flatMap step) :=
  List.rel_flatMap moved fun _ _ pair => moves _ _ pair

theorem andThen (firstMoves : first.Moves distance)
    (secondMoves : second.Moves distance) :
    (first.andThen second).Moves distance := fun _ _ moved =>
  distinct_moves (secondMoves.flatMap (firstMoves _ _ moved))

theorem orElse (firstMoves : first.Moves distance)
    (secondMoves : second.Moves distance) :
    (first.orElse second).Moves distance := fun _ _ moved =>
  distinct_moves
    (List.rel_append (firstMoves _ _ moved) (secondMoves _ _ moved))

theorem advance (moves : step.Moves distance) (count : Nat)
    {threads threads' : List Thread}
    (moved : Forall₂ (Thread.Moved distance) threads threads') :
    Forall₂ (Thread.Moved distance) (step.advance count threads)
      (step.advance count threads') := by
  induction count generalizing threads threads' with
  | zero => exact moved
  | succ count inductiveStep =>
      exact inductiveStep (distinct_moves (moves.flatMap moved))

theorem times (moves : step.Moves distance) (count : Nat) :
    (step.times count).Moves distance := fun _ _ moved =>
  moves.advance count (.cons moved .nil)

/-- Entries further on by a distance that go on or do not, as the others. -/
def Entries (distance : Nat) : List (Thread × Bool) → List (Thread × Bool) →
    Prop :=
  Forall₂ fun entry entry' =>
    entry.1.Moved distance entry'.1 ∧ entry'.2 = entry.2

theorem Entries.any {entries entries' : List (Thread × Bool)}
    (moved : Entries distance entries entries') :
    (entries'.any fun entry => entry.2) = entries.any fun entry => entry.2 := by
  induction moved with
  | nil => rfl
  | cons pair pairs inductiveStep =>
      rw [List.any_cons, List.any_cons, inductiveStep, pair.2]

theorem spread (moves : step.Moves distance) (greedy : Bool) (count : Nat)
    {entries entries' : List (Thread × Bool)}
    (moved : Entries distance entries entries') :
    Entries distance (step.spread greedy count entries)
      (step.spread greedy count entries') := by
  have injective : Function.Injective fun key : Nat × Bool =>
      (distance + key.1, key.2) := by
    rintro ⟨offset, goesOn⟩ ⟨offset', goesOn'⟩ same
    simpa using same
  induction count generalizing entries entries' with
  | zero => exact moved
  | succ count inductiveStep =>
      rw [Step.spread, Step.spread, moved.any]
      split
      · refine inductiveStep (distinctFrom_forall₂ injective ?_
          (List.rel_flatMap moved ?_) [])
        · rintro ⟨thread, goesOn⟩ ⟨thread', goesOn'⟩ ⟨pair, same⟩
          exact Prod.ext pair.offset same
        · rintro ⟨thread, goesOn⟩ ⟨thread', goesOn'⟩ ⟨pair, same⟩
          cases same
          have further : Entries distance
              ((step thread).map fun arrival => (arrival, true))
              ((step thread').map fun arrival => (arrival, true)) :=
            List.rel_map (fun _ _ pair => ⟨pair, rfl⟩) (moves _ _ pair)
          have stopped : Entries distance [(thread, false)]
              [(thread', false)] := .cons ⟨pair, rfl⟩ .nil
          cases goesOn with
          | false => exact .cons ⟨pair, rfl⟩ .nil
          | true =>
              cases greedy with
              | true => exact List.rel_append further stopped
              | false => exact List.rel_append stopped further
      · exact moved

theorem atMost (moves : step.Moves distance) (greedy : Bool) (count : Nat) :
    (step.atMost greedy count).Moves distance := fun _ _ moved =>
  distinct_moves <|
    List.rel_map (fun _ _ pair => pair.1)
      (moves.spread greedy count (.cons ⟨moved, rfl⟩ .nil))

/-- Turns go on from the same arrivals, since offsets differ where they did. -/
theorem turns (moves : step.Moves distance) (greedy : Bool) (fuel : Nat)
    (isFirst : Bool) {thread thread' : Thread}
    (moved : thread.Moved distance thread') {found found' : List Thread}
    (foundMoved : Forall₂ (Thread.Moved distance) found found') :
    Forall₂ (Thread.Moved distance)
      (step.turns greedy fuel isFirst thread found)
      (step.turns greedy fuel isFirst thread' found') := by
  induction fuel generalizing isFirst thread thread' found found' with
  | zero => exact foundMoved
  | succ fuel inductiveStep =>
      rw [Step.turns, Step.turns]
      refine List.rel_foldl ?_ foundMoved (moves _ _ moved)
      intro found found' foundMoved arrival arrival' arrivals
      have stays : (arrival'.offset == thread'.offset) =
          (arrival.offset == thread.offset) := by
        rw [arrivals.offset, moved.offset, Bool.eq_iff_iff, beq_iff_eq,
          beq_iff_eq, Nat.add_right_inj]
      dsimp only
      rw [any_offset_moved foundMoved arrivals, stays]
      split
      · exact foundMoved
      split
      · cases isFirst with
        | true => exact .cons arrivals foundMoved
        | false => exact foundMoved
      cases greedy with
      | true => exact .cons arrivals (inductiveStep false arrivals foundMoved)
      | false =>
          exact inductiveStep false arrivals (.cons arrivals foundMoved)

theorem atLeastOnce (moves : step.Moves distance) (greedy : Bool) :
    (step.atLeastOnce greedy).Moves distance := by
  intro thread thread' moved
  rw [Step.atLeastOnce, Step.atLeastOnce, moved.cursor.rest]
  exact List.rel_reverse (moves.turns greedy _ true moved .nil)

theorem anyTimes (moves : step.Moves distance) (greedy : Bool) :
    (step.anyTimes greedy).Moves distance := by
  cases greedy with
  | true => exact (moves.atLeastOnce true).orElse stay
  | false => exact stay.orElse (moves.atLeastOnce false)

theorem between (moves : step.Moves distance) (min : Nat) (max : Option Nat)
    (greedy : Bool) : (step.between min max greedy).Moves distance := by
  cases max with
  | some max => exact (moves.times min).andThen (moves.atMost greedy _)
  | none =>
      cases min with
      | zero => exact moves.anyTimes greedy
      | succ turns =>
          exact (moves.times turns).andThen (moves.atLeastOnce greedy)

end Step.Moves

/-! ## Characters -/

section

variable {distance : Nat} (members : CharSet)

theorem Cursor.advance_moved {cursor cursor' : Cursor} (count : Nat)
    (moved : cursor.Moved distance cursor') :
    Option.Rel (Cursor.Moved distance) (cursor.advance members count)
      (cursor'.advance members count) := by
  induction count generalizing cursor cursor' with
  | zero => exact .some moved
  | succ count inductiveStep =>
      rcases cursor with ⟨offset, before, rest⟩
      rcases cursor' with ⟨offset', before', rest'⟩
      rcases moved with ⟨offsets, rests⟩
      cases rests
      cases rest with
      | nil => exact .none
      | cons character rest =>
          rw [Cursor.advance, Cursor.advance]
          split
          · have further : offset' + character.utf8Size =
                distance + (offset + character.utf8Size) := by
              rw [← Nat.add_assoc, ← offsets]
            exact inductiveStep ⟨further, rfl⟩
          · exact .none

theorem runs_moved (limit : Option Nat) {offset offset' : Nat}
    (offsets : offset' = distance + offset) (before before' : Option Char)
    (rest : List Char) {found found' : List Cursor}
    (foundMoved : Forall₂ (Cursor.Moved distance) found found') :
    Forall₂ (Cursor.Moved distance)
      (runs members limit offset before rest found)
      (runs members limit offset' before' rest found') := by
  induction rest generalizing limit offset offset' before before' found
    found' with
  | nil => exact .cons ⟨offsets, rfl⟩ foundMoved
  | cons character rest inductiveStep =>
      have longer : Forall₂ (Cursor.Moved distance)
          (⟨offset, before, character :: rest⟩ :: found)
          (⟨offset', before', character :: rest⟩ :: found') :=
        .cons ⟨offsets, rfl⟩ foundMoved
      rw [runs, runs]
      split
      · refine inductiveStep _ ?_ _ _ longer
        rw [← Nat.add_assoc, ← offsets]
      · exact longer

theorem runStep_moves (min : Nat) (max : Option Nat) (greedy : Bool) :
    (runStep members min max greedy).Moves distance := by
  intro thread thread' moved
  have advanced := Cursor.advance_moved members min moved.cursor
  rw [runStep, runStep]
  generalize thread.cursor.advance members min = cursor? at advanced
  generalize thread'.cursor.advance members min = cursor'? at advanced
  cases advanced with
  | none => exact .nil
  | @some cursor cursor' cursors =>
      have longestFirst :=
        runs_moved members (max.map (· - min)) cursors.offset cursor.before
          cursor'.before cursor.rest .nil
      dsimp only
      rw [cursors.rest]
      refine List.rel_map (fun _ _ pair => ⟨pair, moved.captures⟩) ?_
      cases greedy with
      | true => exact longestFirst
      | false => exact List.rel_reverse longestFirst

theorem setStep_moves : (setStep members).Moves distance := by
  intro thread thread' moved
  have advanced := Cursor.advance_moved members 1 moved.cursor
  rw [setStep, setStep]
  generalize thread.cursor.advance members 1 = cursor? at advanced
  generalize thread'.cursor.advance members 1 = cursor'? at advanced
  cases advanced with
  | none => exact .nil
  | some cursors => exact .cons ⟨cursors, moved.captures⟩ .nil

end

/-! ## Expressions -/

variable {distance : Nat}

theorem lookStep_moves {assertion : Look} (ahead : assertion.isAhead = true) :
    (lookStep assertion).Moves distance := by
  intro thread thread' moved
  rw [lookStep, lookStep, moved.cursor.rest,
    assertion.holds_of_isAhead ahead thread'.cursor.before
      thread.cursor.before]
  split
  · exact .cons moved .nil
  · exact .nil

theorem captureStep_moves (number : Nat) {step : Step}
    (moves : step.Moves distance) :
    (captureStep number step).Moves distance := by
  intro thread thread' moved
  refine List.rel_map (fun arrival arrival' arrivals => ?_) (moves _ _ moved)
  refine ⟨arrivals.cursor, ?_⟩
  dsimp only
  rw [arrivals.captures, moved.offset, arrivals.offset]
  rfl

/-- Expressions that look ahead only take the same steps wherever a text is
moved to. -/
theorem Term.step_moves {term : Term} (ahead : term.looksAhead = true) :
    term.step.Moves distance := by
  induction term with
  | empty => exact .stay
  | set members => exact setStep_moves members
  | look assertion => exact lookStep_moves ahead
  | seq first second firstStep secondStep =>
      have parts := (Bool.and_eq_true _ _).mp ahead
      exact (firstStep parts.1).andThen (secondStep parts.2)
  | alt first second firstStep secondStep =>
      have parts := (Bool.and_eq_true _ _).mp ahead
      exact (firstStep parts.1).orElse (secondStep parts.2)
  | repetition body min max greedy inductiveStep =>
      rw [Term.step]
      cases body.characters? with
      | some members => exact runStep_moves members min max greedy
      | none => exact (inductiveStep ahead).between min max greedy
  | group number body inductiveStep =>
      exact captureStep_moves number (inductiveStep ahead)

end OrderedChoice.Regex

namespace OrderedChoice

/-! ## Patterns -/

/-- What a pattern matches at an offset is what it matches at the start of what
remains there, whatever stands before it. -/
def Pattern.IgnoresBefore (pattern : Pattern) : Prop :=
  ∀ before text : List Char,
    pattern.matchAt (.ofCharacters (before ++ text)) (byteLength before) =
      (pattern.matchAt (.ofCharacters text) 0).map
        (·.move (byteLength before))

/-- Patterns whose assertions ask only for what follows ignore what stands
before. -/
theorem Pattern.ignoresBefore_of_looksAhead {pattern : Pattern}
    (ahead : pattern.regex.looksAhead = true) : pattern.IgnoresBefore := by
  intro before text
  have remains : (Source.ofCharacters (before ++ text)).rest
      (byteLength before) = some text :=
    Source.rest_eq_some_iff.mpr ⟨before, rfl, rfl⟩
  rw [matchAt, matchAt, Regex.Term.matchAt, Regex.Term.matchAt, remains,
    Source.rest_ofCharacters_zero]
  have starts : Regex.Thread.Moved (byteLength before)
      ⟨⟨0, (Source.ofCharacters text).characterBefore 0, text⟩, []⟩
      ⟨⟨byteLength before,
        (Source.ofCharacters (before ++ text)).characterBefore
          (byteLength before), text⟩, []⟩ := ⟨⟨rfl, rfl⟩, rfl⟩
  have arrivals := Regex.Term.step_moves ahead _ _ starts
  dsimp only
  generalize pattern.regex.step _ = threads at arrivals
  generalize pattern.regex.step _ = threads' at arrivals
  cases arrivals with
  | nil => rfl
  | cons arrival others =>
      simp only [List.head?_cons, Option.map_some, Regex.Match.move,
        arrival.offset, arrival.captures]

end OrderedChoice
