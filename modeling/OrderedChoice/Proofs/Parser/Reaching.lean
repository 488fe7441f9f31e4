import OrderedChoice.Proofs.Parser.Descent

/-!
# Reaching references

A run that comes to a reference without a definition stops there.  It does so
exactly when there is one to be reached: that a grammar mentions undefined rules
does no harm as long as no run gets to them.
-/

namespace OrderedChoice

variable {R : Type → Type}

namespace Parser

/-- A run reaches a reference that stands for nothing. -/
def ReachesUndefined (rules : Rules R) (source : Source) {α : Type}
    (parser : Parser R α) (index : Nat) : Prop :=
  ∃ (β : Type) (rule : R β) (stop : Nat), rules.definition rule = none ∧
    RunReaches rules source (.ref rule) stop parser index

/-- A run panics, with enough fuel. -/
def Panics (rules : Rules R) (source : Source) {α : Type}
    (parser : Parser R α) (index : Nat) : Prop :=
  ∃ fuel, (parser.run rules fuel source index).answer = .error .undefinedRule

end Parser

section

variable {rules : Rules R} {source : Source} {fuel : Nat}

/-! ## Panics come from references -/

theorem Parser.ReachesUndefined.start {α β : Type} {parser : Parser R α}
    {part : Parser R β} {index next : Nat}
    (starts : Starts rules source parser index part next)
    (reaches : ReachesUndefined rules source part next) :
    ReachesUndefined rules source parser index := by
  rcases reaches with ⟨γ, rule, stop, undefined, rest⟩
  exact ⟨γ, rule, stop, undefined, .start starts rest⟩

/-- A run panics only if it reaches an undefined reference, if this holds of
runs of references. -/
theorem Parser.reachesUndefined_of_run
    (entered : ∀ {α : Type} (rule : R α) (index : Nat),
      (rules.enter source fuel rule index).answer = .error .undefinedRule →
        (Parser.ref rule).ReachesUndefined rules source index)
    {α : Type} (parser : Parser R α) (index : Nat)
    (panics : (parser.run rules fuel source index).answer =
      .error .undefinedRule) :
    parser.ReachesUndefined rules source index := by
  refine starts_induct rules source
    (motive := fun parser index =>
      (parser.run rules fuel source index).answer = .error .undefinedRule →
        parser.ReachesUndefined rules source index)
    (fun rule index panics => ?_) (fun parser index notRef parts panics => ?_)
    parser index panics
  · rw [run, attempt] at panics
    exact entered rule index panics
  · rcases exists_starts_of_stopped notRef panics (by simp) with
      ⟨β, part, stop, starts, partPanics⟩
    exact .start starts (parts part stop starts partPanics)

theorem Rules.reachesUndefined_of_enter {α : Type} (rule : R α) (index : Nat)
    (panics : (rules.enter source fuel rule index).answer =
      .error .undefinedRule) :
    (Parser.ref rule).ReachesUndefined rules source index := by
  induction fuel generalizing α index with
  | zero => cases panics
  | succ fuel inductiveStep =>
      rw [Rules.enter] at panics
      cases definition : rules.definition rule with
      | none => exact ⟨α, rule, index, definition, .here⟩
      | some parser =>
          simp only [definition] at panics
          exact .start (.ref definition)
            (parser.reachesUndefined_of_run inductiveStep index panics)

end

/-! ## Undefined references cause panics -/

namespace Parser

section

variable {rules : Rules R} {source : Source} {α β : Type}

/-- Every run with enough fuel panics. -/
theorem Panics.eventually {parser : Parser R α} {index : Nat}
    (panics : parser.Panics rules source index) :
    ∃ least, ∀ fuel, least ≤ fuel →
      (parser.run rules fuel source index).answer = .error .undefinedRule := by
  rcases panics with ⟨least, stopped⟩
  refine ⟨least, fun fuel enough => ?_⟩
  rw [parser.settles_run rules source enough index (by simp [stopped]), stopped]

/-- Fuel that is enough for a result and for a panic. -/
theorem Panics.together {first : Parser R α} {second : Parser R β}
    {index stop : Nat} {result : ParseResult α}
    (panics : second.Panics rules source stop)
    (gives : first.Gives rules source index result) :
    ∃ fuel, (first.run rules fuel source index).answer = .ok result ∧
      (second.run rules fuel source stop).answer = .error .undefinedRule := by
  rcases gives.eventually with ⟨leastFirst, ends⟩
  rcases panics.eventually with ⟨leastSecond, stops⟩
  exact ⟨max leastFirst leastSecond, ends _ (Nat.le_max_left _ _),
    stops _ (Nat.le_max_right _ _)⟩

/-- A repetition panics where an item that it comes to does. -/
theorem TimesTurn.timesLoop_panics {item : Parser R α} {max : Option Nat}
    {count index stop : Nat}
    (turn : TimesTurn rules source item max count index stop)
    (panics : item.Panics rules source stop) (min : Nat) :
    ∃ least, ∀ fuel, least ≤ fuel → ∀ turns, least ≤ turns →
      ∀ values context trace,
        (Attempt.timesLoop (item.run rules fuel source) min max turns values
          count context trace index).answer = .error .undefinedRule := by
  induction turn with
  | here room =>
      rcases panics.eventually with ⟨least, stops⟩
      refine ⟨least + 1, fun fuel enough turns more values context trace => ?_⟩
      rcases Nat.exists_eq_add_one_of_ne_zero (Nat.ne_zero_of_lt more)
        with ⟨turns, rfl⟩
      rw [Attempt.timesLoop, if_neg (by simp [room])]
      simp only [stops fuel (by omega)]
  | later room reads rest inductiveStep =>
      rcases reads with ⟨diagnostics, gives⟩
      rcases gives.eventually with ⟨leastItem, ends⟩
      rcases inductiveStep panics with ⟨leastRest, restStops⟩
      refine ⟨leastItem + leastRest + 1,
        fun fuel enough turns more values context trace => ?_⟩
      rcases Nat.exists_eq_add_one_of_ne_zero (Nat.ne_zero_of_lt more)
        with ⟨turns, rfl⟩
      rw [Attempt.timesLoop, if_neg (by simp [room])]
      simp only [ends fuel (by omega)]
      exact restStops fuel (by omega) turns (by omega) _ _ _

/-- With enough fuel a search that goes on does what its item does, and then
what is left of it. -/
theorem GoesOn.eventually {terminator : Parser R β} {min : Nat}
    {max : Option Nat} {count index : Nat}
    (goesOn : GoesOn rules source terminator min max count index)
    (keep : Option (β → α)) :
    ∃ least, ∀ fuel, least ≤ fuel →
      ∀ (item : Attempt α) (turns : Nat) (values : List α) (trace : Trace),
      ∃ later,
      Attempt.repeatUntilLoop item (terminator.run rules fuel source) min max
        keep (turns + 1) values count trace index =
      match (item index).answer with
      | .error abort => ⟨.error abort, later⟩
      | .ok ⟨.success next value, _⟩ =>
        Attempt.repeatUntilLoop item (terminator.run rules fuel source) min max
          keep turns (value :: values) (count + 1) later next
      | .ok ⟨.failure, _⟩ =>
        ⟨.ok (.failure index (if min ≤ count then
          Attempt.UntilFailure.noTerminator
          else .tooFew min count).description), later⟩ := by
  rcases goesOn with ⟨room, found, gives, counts⟩
  rcases gives.eventually with ⟨least, ends⟩
  refine ⟨least, fun fuel enough item turns values trace => ?_⟩
  have notAccepted :
      (if min ≤ count then found.outcome else .failure) = .failure := by
    split
    · exact counts ‹_›
    · rfl
  refine ⟨trace ++ (terminator.run rules fuel source index).trace ++
    (item index).trace, ?_⟩
  rw [Attempt.repeatUntilLoop]
  simp only [ends fuel enough, notAccepted, filter_bound_eq_none_iff.mpr room]
  rcases (item index).answer with abort | ⟨outcome, diagnostics⟩
  · rfl
  · cases outcome <;> rfl

/-- A search panics where a terminator that it comes to does, or an item that it
goes on with. -/
theorem UntilTurn.repeatUntilLoop_panics {item : Parser R α}
    {terminator : Parser R β} {min : Nat} {max : Option Nat}
    {count index last stop : Nat}
    (turn : UntilTurn rules source item terminator min max count index last
      stop)
    (panics : terminator.Panics rules source stop ∨
      GoesOn rules source terminator min max last stop ∧
        item.Panics rules source stop) (keep : Option (β → α)) :
    ∃ least, ∀ fuel, least ≤ fuel → ∀ turns, least ≤ turns →
      ∀ values trace,
        (Attempt.repeatUntilLoop (item.run rules fuel source)
          (terminator.run rules fuel source) min max keep turns values count
          trace index).answer = .error .undefinedRule := by
  induction turn with
  | here count index =>
      rcases panics with terminatorPanics | ⟨goesOn, itemPanics⟩
      · rcases terminatorPanics.eventually with ⟨least, stops⟩
        refine ⟨least + 1, fun fuel enough turns more values trace => ?_⟩
        rcases Nat.exists_eq_add_one_of_ne_zero (Nat.ne_zero_of_lt more)
          with ⟨turns, rfl⟩
        rw [Attempt.repeatUntilLoop]
        simp only [stops fuel (by omega)]
      · rcases itemPanics.eventually with ⟨leastItem, stops⟩
        rcases goesOn.eventually keep with ⟨leastTurn, turnIs⟩
        refine ⟨leastItem + leastTurn + 1,
          fun fuel enough turns more values trace => ?_⟩
        rcases Nat.exists_eq_add_one_of_ne_zero (Nat.ne_zero_of_lt more)
          with ⟨turns, rfl⟩
        rcases turnIs fuel (by omega) (item.run rules fuel source) turns values
          trace with ⟨later, same⟩
        rw [same, stops fuel (by omega)]
  | later goesOn reads rest inductiveStep =>
      rcases reads with ⟨diagnostics, gives⟩
      rcases gives.eventually with ⟨leastItem, ends⟩
      rcases goesOn.eventually keep with ⟨leastTurn, turnIs⟩
      rcases inductiveStep panics with ⟨leastRest, restStops⟩
      refine ⟨leastItem + leastTurn + leastRest + 1,
        fun fuel enough turns more values trace => ?_⟩
      rcases Nat.exists_eq_add_one_of_ne_zero (Nat.ne_zero_of_lt more)
        with ⟨turns, rfl⟩
      rcases turnIs fuel (by omega) (item.run rules fuel source) turns values
        trace with ⟨later, same⟩
      rw [same, ends fuel (by omega)]
      exact restStops fuel (by omega) turns (by omega) _ _

/-- A body stops where a step that it comes to panics. -/
theorem drive_panics {body : Steps R α} {parser : Parser R β}
    {index stop : Nat} (comes : body.ComesTo rules source parser index stop)
    (panics : parser.Panics rules source stop) :
    ∃ least, ∀ fuel, least ≤ fuel → ∀ context trace,
      (body.drive source (rules.enter source fuel) fuel
        (.running index context) trace).answer = .error .undefinedRule := by
  induction comes with
  | here index =>
      rcases panics.eventually with ⟨least, stops⟩
      refine ⟨least, fun fuel enough context trace => ?_⟩
      have stopped := stops fuel enough
      rw [run] at stopped
      rw [Steps.drive]
      simp only [stopped]
  | step reads rest inductiveStep =>
      rcases reads with ⟨diagnostics, gives⟩
      rcases gives.eventually with ⟨leastStep, ends⟩
      rcases inductiveStep panics with ⟨leastRest, restStops⟩
      refine ⟨leastStep + leastRest, fun fuel enough context trace => ?_⟩
      have ended := ends fuel (by omega)
      rw [run] at ended
      rw [Steps.drive]
      simp only [ended]
      exact restStops fuel (by omega) _ _
  | index rest inductiveStep | halted rest inductiveStep
  | aside run rest inductiveStep =>
      rcases inductiveStep panics with ⟨least, stops⟩
      refine ⟨least, fun fuel enough context trace => ?_⟩
      rw [Steps.drive]
      exact stops fuel enough context _

/-- A run panics if what it goes on with does. -/
theorem Starts.panics {parser : Parser R α} {part : Parser R β}
    {index stop : Nat} (starts : Starts rules source parser index part stop)
    (panics : part.Panics rules source stop) :
    parser.Panics rules source index := by
  cases starts with
  | ref defined =>
      rcases panics with ⟨fuel, stopped⟩
      refine ⟨fuel + 1, ?_⟩
      rw [run, attempt, Rules.enter, defined]
      exact stopped
  | bindFirst | bothFirst | orElseFirst =>
      rcases panics with ⟨fuel, stopped⟩
      refine ⟨fuel, ?_⟩
      rw [run, attempt]
      exact Run.andThen_answer_of_error stopped _
  | bindNext ends | bothSecond ends | orElseSecond ends =>
      rcases ends with ⟨diagnostics, gives⟩
      rcases panics.together gives with ⟨fuel, ended, stopped⟩
      refine ⟨fuel, ?_⟩
      rw [run, attempt]
      exact (Run.andThen_answer_of_ok ended _).trans
        (Run.mapResult_answer_eq_error.mpr stopped)
  | map | peek | shouldFail | describe =>
      rcases panics with ⟨fuel, stopped⟩
      refine ⟨fuel, ?_⟩
      rw [run, attempt]
      exact Run.mapResult_answer_eq_error.mpr stopped
  | times turn =>
      rcases turn.timesLoop_panics panics _ with ⟨least, stops⟩
      refine ⟨least, ?_⟩
      rw [run, attempt]
      exact stops least (Nat.le_refl _) least (Nat.le_refl _) _ _ _
  | terminator turn =>
      rcases turn.repeatUntilLoop_panics (.inl panics) _ with ⟨least, stops⟩
      refine ⟨least, ?_⟩
      rw [run, attempt]
      exact stops least (Nat.le_refl _) least (Nat.le_refl _) _ _
  | item turn goesOn =>
      rcases turn.repeatUntilLoop_panics (.inr ⟨goesOn, panics⟩) _ with
        ⟨least, stops⟩
      refine ⟨least, ?_⟩
      rw [run, attempt]
      exact stops least (Nat.le_refl _) least (Nat.le_refl _) _ _
  | generate comes =>
      rcases drive_panics comes panics with ⟨least, stops⟩
      refine ⟨least, ?_⟩
      rw [run, attempt]
      exact stops least (Nat.le_refl _) _ _

theorem panics_ref {rule : R α} (undefined : rules.definition rule = none)
    (index : Nat) : (Parser.ref rule).Panics rules source index := by
  refine ⟨1, ?_⟩
  rw [run, attempt, Rules.enter, undefined]
  rfl

/-- A run panics exactly if it reaches a reference that stands for nothing. -/
theorem panics_iff {parser : Parser R α} {index : Nat} :
    parser.Panics rules source index ↔
      parser.ReachesUndefined rules source index := by
  constructor
  · rintro ⟨fuel, stopped⟩
    exact parser.reachesUndefined_of_run
      (fun rule index => Rules.reachesUndefined_of_enter rule index) index
      stopped
  · rintro ⟨γ, rule, stop, undefined, reaches⟩
    induction reaches with
    | here => exact panics_ref undefined _
    | start starts rest inductiveStep => exact starts.panics inductiveStep

end

end Parser

end OrderedChoice
