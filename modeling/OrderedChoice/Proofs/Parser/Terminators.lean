import OrderedChoice.Proofs.Parser.Reaching
import OrderedChoice.Proofs.Parser.Repetition

/-!
# Searches for a terminator

A search reads items one behind the other until a terminator succeeds.  The
terminator is tried before every item, but only counts once enough items were
read, and the upper bound is looked at only where it was not accepted.

A search has come to a list of items if none of them ended it.  Taking one item
more is one turn of its loop, `Parser.passes_concat_iff`, and from there the
turns of a whole search are an induction from behind.  The main statement,
`Parser.terminators_end_searches`, says by the items read how searches end,
whether they leave the terminator or consume it.
-/

namespace OrderedChoice.Parser

variable {R : Type → Type} {α β : Type}

/-! ## Searches without a loop -/

/-- With so many items read, a terminator does not end a search: it fails, or it
comes to something that does not count yet. -/
def Unaccepted (rules : Rules R) (source : Source) (terminator : Parser R β)
    (min count index : Nat) : Prop :=
  ∃ found, terminator.Gives rules source index found ∧
    (min ≤ count → found.outcome = .failure)

/-- A search comes from an offset to the end of a list of items: they are read
one behind the other, there is room for them, and the terminator was accepted
before none of them. -/
structure Passes (rules : Rules R) (source : Source) (item : Parser R α)
    (terminator : Parser R β) (min : Nat) (max : Option Nat) (index : Nat)
    (items : List (Turn α)) : Prop where
  taken : (item.turnKind rules source).Consecutive index items
  within : ∀ bound ∈ max, items.length ≤ bound
  unaccepted : ∀ count < items.length,
    Unaccepted rules source terminator min count
      (Turn.stopAfter index (items.take count))

/-- A search ends behind enough items, where the terminator succeeds. -/
structure Finds (rules : Rules R) (source : Source) (item : Parser R α)
    (terminator : Parser R β) (min : Nat) (max : Option Nat) (index : Nat)
    (items : List (Turn α)) (after : Nat) (mark : β) : Prop where
  passes : Passes rules source item terminator min max index items
  enough : min ≤ items.length
  accepted :
    terminator.Reads rules source (Turn.stopAfter index items) after mark

/-- A search ends behind items where the terminator is not accepted, for there
is no room for another item or no item is there; with what it then says. -/
inductive Loses (rules : Rules R) (source : Source) (item : Parser R α)
    (terminator : Parser R β) (min : Nat) (max : Option Nat) (index : Nat)
    (items : List (Turn α)) : String → Prop where
  | tooMany
      (passes : Passes rules source item terminator min max index items)
      (unaccepted : Unaccepted rules source terminator min items.length
        (Turn.stopAfter index items))
      (full : max = some items.length) :
      Loses rules source item terminator min max index items
        ("at most " ++ toString items.length ++ " items")
  | noTerminator
      (passes : Passes rules source item terminator min max index items)
      (unaccepted : Unaccepted rules source terminator min items.length
        (Turn.stopAfter index items))
      (room : max ≠ some items.length)
      (misses : item.Misses rules source (Turn.stopAfter index items))
      (enough : min ≤ items.length) :
      Loses rules source item terminator min max index items
        "did not find terminator"
  | tooFew
      (passes : Passes rules source item terminator min max index items)
      (unaccepted : Unaccepted rules source terminator min items.length
        (Turn.stopAfter index items))
      (room : max ≠ some items.length)
      (misses : item.Misses rules source (Turn.stopAfter index items))
      (few : items.length < min) :
      Loses rules source item terminator min max index items
        ("at least " ++ toString min ++ " items; got " ++
          toString items.length ++ " item(s)")

/-- The result of a search that read values up to an offset and found a
terminator there, which is left or of which something is kept. -/
def foundResult (keep : Option (β → α)) (values : List α)
    (index after : Nat) (mark : β) : ParseResult (List α) :=
  match keep with
  | none => .success index values
  | some keep => .success after (values ++ [keep mark])

/-- What a search results in behind a list of items. -/
inductive SearchEnds (rules : Rules R) (source : Source) (item : Parser R α)
    (terminator : Parser R β) (min : Nat) (max : Option Nat)
    (keep : Option (β → α)) (index : Nat) (items : List (Turn α)) :
    ParseResult (List α) → Prop where
  | finds {after : Nat} {mark : β}
      (finds : Finds rules source item terminator min max index items after
        mark) :
      SearchEnds rules source item terminator min max keep index items
        (foundResult keep (items.map Turn.value) (Turn.stopAfter index items)
          after mark)
  | loses {description : String}
      (loses : Loses rules source item terminator min max index items
        description) :
      SearchEnds rules source item terminator min max keep index items
        (.failure (Turn.stopAfter index items) description)

section

variable {rules : Rules R} {source : Source} {item : Parser R α}
  {terminator : Parser R β} {min : Nat} {max : Option Nat} {index : Nat}

/-! ## One item more -/

theorem reaches_eq_false_iff {count : Nat} :
    Attempt.reaches max count = false ↔ ∀ bound ∈ max, count < bound := by
  cases max <;> simp [Attempt.reaches]

theorem passes_nil :
    Passes rules source item terminator min max index [] where
  taken := .nil index
  within _ _ := Nat.zero_le _
  unaccepted _ none := absurd none (Nat.not_lt_zero _)

/-- A search comes to the end of one item more exactly if it goes on with that
item. -/
theorem passes_concat_iff {items : List (Turn α)} {turn : Turn α} :
    Passes rules source item terminator min max index (items ++ [turn]) ↔
      Passes rules source item terminator min max index items ∧
      GoesOn rules source terminator min max items.length
        (Turn.stopAfter index items) ∧
      (item.turnKind rules source).reads (Turn.stopAfter index items) turn := by
  have earlier : ∀ {count}, count ≤ items.length →
      (items ++ [turn]).take count = items.take count := fun small =>
    List.take_append_of_le_length small
  constructor
  · rintro ⟨taken, within, unaccepted⟩
    rw [List.length_append, List.length_singleton] at within unaccepted
    rcases TurnKind.consecutive_concat_iff.mp taken with ⟨before, reads⟩
    have last := unaccepted items.length (Nat.lt_succ_self _)
    rw [earlier (Nat.le_refl _), List.take_length] at last
    refine ⟨⟨before, fun bound isMax => Nat.le_of_succ_le (within bound isMax),
      fun count small => ?_⟩, ⟨reaches_eq_false_iff.mpr within, last⟩, reads⟩
    rw [← earlier small.le]
    exact unaccepted count (Nat.lt_succ_of_lt small)
  · rintro ⟨⟨before, within, unaccepted⟩, ⟨room, last⟩, reads⟩
    refine ⟨TurnKind.consecutive_concat_iff.mpr ⟨before, reads⟩, ?_, ?_⟩
    · rw [List.length_append, List.length_singleton]
      exact reaches_eq_false_iff.mp room
    · intro count small
      rw [List.length_append, List.length_singleton] at small
      rw [earlier (Nat.le_of_lt_succ small)]
      rcases Nat.lt_succ_iff_lt_or_eq.mp small with inside | rfl
      · exact unaccepted count inside
      · rw [List.take_length]
        exact last

/-! ## The loop of a search -/

/-- A turn of a search that comes to a result accepts the terminator, has no
room left, finds no item, or goes on with one. -/
theorem repeatUntilLoop_turn {keep : Option (β → α)} {fuel turns count : Nat}
    {values : List α} {trace : Trace} {result : ParseResult (List α)}
    (ends : (Attempt.repeatUntilLoop (item.run rules fuel source)
      (terminator.run rules fuel source) min max keep (turns + 1) values count
      trace index).answer = .ok result) :
    (∃ after mark, min ≤ count ∧
      terminator.Reads rules source index after mark ∧
      result = foundResult keep values.reverse index after mark) ∨
    (∃ bound, max = some bound ∧ bound ≤ count ∧
      Unaccepted rules source terminator min count index ∧
      result =
        .failure index (Attempt.UntilFailure.tooMany bound).description) ∨
    GoesOn rules source terminator min max count index ∧
      ((item.Misses rules source index ∧
        result = .failure index (if min ≤ count then
          Attempt.UntilFailure.noTerminator
          else .tooFew min count).description) ∨
      ∃ turn later, (item.turnKind rules source).reads index turn ∧
        (Attempt.repeatUntilLoop (item.run rules fuel source)
          (terminator.run rules fuel source) min max keep turns
          (turn.value :: values) (count + 1) later turn.stop).answer =
          .ok result) := by
  rw [Attempt.repeatUntilLoop] at ends
  cases ending : (terminator.run rules fuel source index).answer with
  | error abort =>
      simp only [ending] at ends
      cases ends
  | ok found =>
      simp only [ending] at ends
      split at ends
      · rename_i after mark accepted
        have enough : min ≤ count := by
          by_contra few
          rw [if_neg few] at accepted
          cases accepted
        rw [if_pos enough] at accepted
        have reads : terminator.Reads rules source index after mark :=
          ⟨found.diagnostics, fuel, by rw [ending, ← accepted]⟩
        refine .inl ⟨after, mark, enough, reads, ?_⟩
        cases keep with
        | none => exact (Except.ok.inj ends).symm
        | some keep =>
            rw [foundResult, ← List.reverse_cons]
            exact (Except.ok.inj ends).symm
      rename_i notAccepted
      have unaccepted : Unaccepted rules source terminator min count index :=
        ⟨found, ⟨fuel, ending⟩,
          fun enough => by rwa [if_pos enough] at notAccepted⟩
      split at ends
      · rename_i bound full
        rcases Option.filter_eq_some_iff.mp full with ⟨isMax, reached⟩
        exact .inr (.inl ⟨bound, isMax, of_decide_eq_true reached, unaccepted,
          (Except.ok.inj ends).symm⟩)
      rename_i noBound
      refine .inr (.inr
        ⟨⟨filter_bound_eq_none_iff.mp noBound, unaccepted⟩, ?_⟩)
      cases answered : (item.run rules fuel source index).answer with
      | error abort =>
          simp only [answered] at ends
          cases ends
      | ok result =>
          rcases result with ⟨outcome, diagnostics⟩
          simp only [answered] at ends
          cases outcome with
          | success next value =>
              exact .inr ⟨⟨value, next, diagnostics, _⟩, _,
                ⟨fuel, answered, rfl⟩, ends⟩
          | failure =>
              exact .inl ⟨⟨diagnostics, fuel, answered⟩,
                (Except.ok.inj ends).symm⟩

/-- From a list of items that it has come to, a loop that comes to a result has
ended behind some list of items. -/
theorem exists_searchEnds_of_loop {keep : Option (β → α)} {fuel turns : Nat}
    {items : List (Turn α)} {trace : Trace} {result : ParseResult (List α)}
    (passes : Passes rules source item terminator min max index items)
    (ends : (Attempt.repeatUntilLoop (item.run rules fuel source)
      (terminator.run rules fuel source) min max keep turns
      (items.map Turn.value).reverse items.length trace
      (Turn.stopAfter index items)).answer = .ok result) :
    ∃ items,
      SearchEnds rules source item terminator min max keep index items
        result := by
  induction turns generalizing items trace with
  | zero => cases ends
  | succ turns inductiveStep =>
      rcases repeatUntilLoop_turn ends with
        ⟨after, mark, enough, accepted, rfl⟩ |
        ⟨bound, isMax, reached, unaccepted, rfl⟩ |
        ⟨goesOn, ⟨misses, rfl⟩ | ⟨turn, later, reads, endsRest⟩⟩
      · rw [List.reverse_reverse]
        exact ⟨items, .finds ⟨passes, enough, accepted⟩⟩
      · -- Until here there was room, so that the bound is just met.
        have full : items.length = bound :=
          Nat.le_antisymm (passes.within bound isMax) reached
        subst full
        exact ⟨items, .loses (.tooMany passes unaccepted isMax)⟩
      · rcases goesOn with ⟨below, unaccepted⟩
        have room : max ≠ some items.length := fun full =>
          Nat.lt_irrefl _ (reaches_eq_false_iff.mp below _ full)
        by_cases enough : min ≤ items.length
        · rw [if_pos enough]
          exact ⟨items, .loses
            (.noTerminator passes unaccepted room misses enough)⟩
        · rw [if_neg enough]
          exact ⟨items, .loses (.tooFew passes unaccepted room misses
            (Nat.lt_of_not_le enough))⟩
      · have more := passes_concat_iff.mpr ⟨passes, goesOn, reads⟩
        refine @inductiveStep (items ++ [turn]) later more ?_
        rw [List.map_append, List.reverse_append, List.length_append,
          Turn.stopAfter_concat]
        exact endsRest

/-- With enough fuel and turns, the loop comes to the end of the items that a
search passes. -/
theorem Passes.eventually {items : List (Turn α)}
    (passes : Passes rules source item terminator min max index items)
    (keep : Option (β → α)) :
    ∃ least, ∀ fuel, least ≤ fuel → ∀ (turns : Nat) (trace : Trace), ∃ later,
      Attempt.repeatUntilLoop (item.run rules fuel source)
        (terminator.run rules fuel source) min max keep (turns + items.length)
        [] 0 trace index =
      Attempt.repeatUntilLoop (item.run rules fuel source)
        (terminator.run rules fuel source) min max keep turns
        (items.map Turn.value).reverse items.length later
        (Turn.stopAfter index items) := by
  -- From behind, where a turn of the loop adds its item.
  induction items using List.reverseRecOn with
  | nil => exact ⟨0, fun fuel _ turns trace => ⟨trace, rfl⟩⟩
  | append_singleton items turn inductiveStep =>
      rcases passes_concat_iff.mp passes with ⟨before, goesOn, reads⟩
      rcases inductiveStep before with ⟨leastBefore, comes⟩
      rcases goesOn.eventually keep with ⟨leastTurn, turnIs⟩
      rcases Gives.eventually (Ends.gives reads) with ⟨leastItem, ends⟩
      refine ⟨leastBefore + leastTurn + leastItem,
        fun fuel enough turns trace => ?_⟩
      rcases comes fuel (by omega) (turns + 1) trace with ⟨middle, same⟩
      rcases turnIs fuel (by omega) (item.run rules fuel source) turns
        (items.map Turn.value).reverse middle with ⟨later, next⟩
      rw [ends fuel (by omega)] at next
      refine ⟨later, ?_⟩
      rw [List.length_append, List.length_singleton, List.map_append,
        List.reverse_append, Turn.stopAfter_concat,
        show turns + (items.length + 1) = turns + 1 + items.length by omega,
        same, next]
      rfl

/-! ## How searches end -/

/-- Where no room is left for an item, one more turn says so. -/
theorem tooMany_eventually {items : List (Turn α)}
    (unaccepted : Unaccepted rules source terminator min items.length index)
    (keep : Option (β → α)) :
    ∃ least, ∀ fuel, least ≤ fuel →
      ∀ (item : Attempt α) (turns : Nat) (values : List α) (trace : Trace),
        (Attempt.repeatUntilLoop item (terminator.run rules fuel source) min
          (some items.length) keep (turns + 1) values items.length trace
          index).answer =
          .ok (.failure index
            (Attempt.UntilFailure.tooMany items.length).description) := by
  rcases unaccepted with ⟨found, gives, counts⟩
  rcases gives.eventually with ⟨least, ends⟩
  refine ⟨least, fun fuel enough item turns values trace => ?_⟩
  have notAccepted :
      (if min ≤ items.length then found.outcome else .failure) = .failure := by
    split
    · exact counts ‹_›
    · rfl
  have full : ((some items.length).filter fun max =>
      decide (max ≤ items.length)) = some items.length := by
    simp [Option.filter]
  rw [Attempt.repeatUntilLoop]
  simp only [ends fuel enough, notAccepted, full]

/-- Where no item is there, one more turn says that the terminator is missing,
or items are. -/
theorem misses_eventually {items : List (Turn α)}
    (passes : Passes rules source item terminator min max index items)
    (unaccepted : Unaccepted rules source terminator min items.length
      (Turn.stopAfter index items))
    (room : max ≠ some items.length)
    (misses : item.Misses rules source (Turn.stopAfter index items))
    (keep : Option (β → α)) :
    ∃ least, ∀ fuel, least ≤ fuel →
      ∀ (turns : Nat) (values : List α) (trace : Trace),
      (Attempt.repeatUntilLoop (item.run rules fuel source)
        (terminator.run rules fuel source) min max keep (turns + 1) values
        items.length trace (Turn.stopAfter index items)).answer =
        .ok (.failure (Turn.stopAfter index items) (if min ≤ items.length then
          Attempt.UntilFailure.noTerminator
          else .tooFew min items.length).description) := by
  have below : Attempt.reaches max items.length = false :=
    reaches_eq_false_iff.mpr fun bound isMax =>
      Nat.lt_of_le_of_ne (passes.within bound isMax) fun full =>
        room (full ▸ isMax)
  have goesOn : GoesOn rules source terminator min max items.length
      (Turn.stopAfter index items) := ⟨below, unaccepted⟩
  rcases goesOn.eventually keep with ⟨leastTurn, turnIs⟩
  rcases misses with ⟨diagnostics, gives⟩
  rcases gives.eventually with ⟨leastItem, ends⟩
  refine ⟨leastTurn + leastItem, fun fuel enough turns values trace => ?_⟩
  rcases turnIs fuel (by omega) (item.run rules fuel source) turns values trace
    with ⟨later, same⟩
  rw [same, ends fuel (by omega)]

/-- Where a search ends, one more turn of its loop comes to its result. -/
theorem SearchEnds.eventually {keep : Option (β → α)} {items : List (Turn α)}
    {result : ParseResult (List α)}
    (searchEnds : SearchEnds rules source item terminator min max keep index
      items result) :
    Passes rules source item terminator min max index items ∧
    ∃ least, ∀ fuel, least ≤ fuel → ∀ (turns : Nat) (trace : Trace),
      (Attempt.repeatUntilLoop (item.run rules fuel source)
        (terminator.run rules fuel source) min max keep (turns + 1)
        (items.map Turn.value).reverse items.length trace
        (Turn.stopAfter index items)).answer = .ok result := by
  cases searchEnds with
  | finds finds =>
      rcases finds with ⟨passes, enough, diagnostics, gives⟩
      rcases gives.eventually with ⟨least, ends⟩
      refine ⟨passes, least, fun fuel enoughFuel turns trace => ?_⟩
      rw [Attempt.repeatUntilLoop]
      simp only [ends fuel enoughFuel, if_pos enough]
      cases keep with
      | none => simp only [foundResult, List.reverse_reverse]
      | some keep =>
          simp only [foundResult, List.reverse_cons, List.reverse_reverse]
  | loses loses =>
      cases loses with
      | tooMany passes unaccepted full =>
          rcases tooMany_eventually unaccepted keep with ⟨least, ends⟩
          subst full
          exact ⟨passes, least,
            fun fuel enough turns => ends fuel enough _ turns _⟩
      | noTerminator passes unaccepted room misses enough =>
          rcases misses_eventually passes unaccepted room misses keep with
            ⟨least, ends⟩
          rw [if_pos enough] at ends
          exact ⟨passes, least,
            fun fuel enough turns => ends fuel enough turns _⟩
      | tooFew passes unaccepted room misses few =>
          rcases misses_eventually passes unaccepted room misses keep with
            ⟨least, ends⟩
          rw [if_neg (Nat.not_le_of_lt few)] at ends
          exact ⟨passes, least,
            fun fuel enough turns => ends fuel enough turns _⟩

/-- The loop of a search ends exactly where a search does. -/
theorem gives_repeatUntil_iff {keep : Option (β → α)}
    {result : ParseResult (List α)} :
    (Parser.repeatUntil item terminator min max keep).Gives rules source index
        result ↔
      ∃ items,
        SearchEnds rules source item terminator min max keep index items
          result := by
  constructor
  · rintro ⟨fuel, ends⟩
    rw [run, attempt] at ends
    exact exists_searchEnds_of_loop passes_nil ends
  · rintro ⟨items, searchEnds⟩
    rcases searchEnds.eventually with ⟨passes, leastLast, endsLast⟩
    rcases passes.eventually keep with ⟨leastBefore, comes⟩
    -- The fuel also bounds the turns: one for each item, and one at least for
    -- the end.
    rcases comes (leastLast + leastBefore + 1 + items.length) (by omega)
      (leastLast + leastBefore + 1) ∅ with ⟨later, same⟩
    refine ⟨leastLast + leastBefore + 1 + items.length, ?_⟩
    have last := endsLast (leastLast + leastBefore + 1 + items.length)
      (by omega) (leastLast + leastBefore) later
    rw [run, attempt]
    exact (congrArg Run.answer same).trans last

theorem searchEnds_iff {keep : Option (β → α)} {items : List (Turn α)}
    {result : ParseResult (List α)} :
    SearchEnds rules source item terminator min max keep index items result ↔
      (∃ after mark,
        Finds rules source item terminator min max index items after mark ∧
        result = foundResult keep (items.map Turn.value)
          (Turn.stopAfter index items) after mark) ∨
      ∃ description,
        Loses rules source item terminator min max index items description ∧
        result = .failure (Turn.stopAfter index items) description := by
  constructor
  · intro searchEnds
    cases searchEnds with
    | finds finds => exact .inl ⟨_, _, finds, rfl⟩
    | loses loses => exact .inr ⟨_, loses, rfl⟩
  · rintro (⟨after, mark, finds, rfl⟩ | ⟨description, loses, rfl⟩)
    · exact .finds finds
    · exact .loses loses

/-- A search that reads something has bounds that leave room for it. -/
theorem Reads.bounds {keep : Option (β → α)} {stop : Nat} {values : List α}
    (reads : (Parser.repeatUntil item terminator min max keep).Reads rules
      source index stop values) : ∀ bound ∈ max, min ≤ bound := by
  rcases reads with ⟨diagnostics, gives⟩
  rcases gives_repeatUntil_iff.mp gives with ⟨items, searchEnds⟩
  intro bound isMax
  rcases searchEnds_iff.mp searchEnds with
    ⟨after, mark, finds, read⟩ | ⟨description, loses, failed⟩
  · exact finds.enough.trans (finds.passes.within bound isMax)
  · cases failed

end

/--
Searches end just where a terminator is accepted or nothing more can be read.
One that leaves its terminator and one that consumes it succeed in the same
cases, behind items that are enough, fit in the upper bound and have no
terminator accepted before them; the results are these items' values, or these
and the terminator's, and nothing is reported.  In the other cases both fail and
report one and the same thing, where they stopped.  With an upper bound below
the lower one they never succeed.
-/
theorem terminators_end_searches (item : Parser R α)
    (terminator : Parser R β) (closing : Parser R α) (min : Nat)
    (max : Option Nat) (rules : Rules R) (source : Source) (index : Nat) :
    (∀ result,
      (takeUntil item terminator min max).Gives rules source index result ↔
        ∃ items,
          (∃ after mark,
            Finds rules source item terminator min max index items after mark ∧
            result = .success (Turn.stopAfter index items)
              (items.map Turn.value)) ∨
          ∃ description,
            Loses rules source item terminator min max index items
              description ∧
            result = .failure (Turn.stopAfter index items) description) ∧
    (∀ result,
      (takeThrough item closing min max).Gives rules source index result ↔
        ∃ items,
          (∃ after mark,
            Finds rules source item closing min max index items after mark ∧
            result = .success after (items.map Turn.value ++ [mark])) ∨
          ∃ description,
            Loses rules source item closing min max index items description ∧
            result = .failure (Turn.stopAfter index items) description) ∧
    ((∃ bound ∈ max, bound < min) → ∀ stop values,
      ¬ (takeUntil item terminator min max).Reads rules source index stop
          values ∧
      ¬ (takeThrough item closing min max).Reads rules source index stop
          values) := by
  refine ⟨fun result => gives_repeatUntil_iff.trans
      (exists_congr fun items => searchEnds_iff),
    fun result => gives_repeatUntil_iff.trans
      (exists_congr fun items => searchEnds_iff), ?_⟩
  rintro ⟨bound, isMax, crowded⟩ stop values
  constructor <;> intro reads
  · exact Nat.not_le_of_lt crowded (reads.bounds bound isMax)
  · exact Nat.not_le_of_lt crowded (reads.bounds bound isMax)

/-- Two letters and a semicolon behind them are read where one or two letters
are asked for; where at least two and at most one are, nothing is. -/
theorem letters_before_semicolon :
    let rules : Rules fun _ => Empty := ⟨nofun⟩
    let source := Source.ofString "aa;"
    (takeThrough (literal "a") (literal ";") 1 (some 2)).Gives rules source 0
        (.success 3 ["a", "a", ";"]) ∧
      (∃ bound ∈ some 1, bound < 2) ∧
      ∀ stop values, ¬ (takeUntil (literal "a") (literal ";") 2
        (some 1)).Reads rules source 0 stop values := by
  intro rules source
  have crowded : ∃ bound ∈ some 1, bound < 2 := ⟨1, rfl, Nat.lt_succ_self 1⟩
  refine ⟨?_, crowded, fun stop values =>
    ((terminators_end_searches (literal "a") (literal ";") (literal ";") 2
      (some 1) rules source 0).2.2 crowded stop values).1⟩
  let letter : Parser (fun _ => Empty) String := literal "a"
  let semicolon : Parser (fun _ => Empty) String := literal ";"
  let first : Turn String :=
    ⟨"a", 1, .none, (letter.run rules 0 source 0).trace.toList⟩
  let second : Turn String :=
    ⟨"a", 2, .none, (letter.run rules 0 source 1).trace.toList⟩
  have readsFirst : (letter.turnKind rules source).reads 0 first :=
    ⟨0, by rfl, rfl⟩
  have readsSecond : (letter.turnKind rules source).reads 1 second :=
    ⟨0, by rfl, rfl⟩
  have goesOn : ∀ count < 2,
      GoesOn rules source semicolon 1 (some 2) count count
    | 0, _ => ⟨rfl, .failure 0 ";", ⟨0, by rfl⟩, fun _ => rfl⟩
    | 1, _ => ⟨rfl, .failure 1 ";", ⟨0, by rfl⟩, fun _ => rfl⟩
  have passesFirst : Passes rules source letter semicolon 1 (some 2) 0
      ([] ++ [first]) :=
    passes_concat_iff.mpr ⟨passes_nil, goesOn 0 (by decide), readsFirst⟩
  have passes : Passes rules source letter semicolon 1 (some 2) 0
      ([first] ++ [second]) :=
    passes_concat_iff.mpr ⟨passesFirst, goesOn 1 (by decide), readsSecond⟩
  have accepted : semicolon.Reads rules source 2 3 ";" :=
    ⟨.none, 0, by rfl⟩
  exact ((terminators_end_searches letter semicolon semicolon 1 (some 2) rules
    source 0).2.1 _).mpr ⟨[first, second], .inl ⟨3, ";",
      ⟨passes, by decide, accepted⟩, rfl⟩⟩

end OrderedChoice.Parser
