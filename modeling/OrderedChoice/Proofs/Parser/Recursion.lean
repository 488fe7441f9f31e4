import OrderedChoice.Declaration
import OrderedChoice.Proofs.Parser.Embedding
import OrderedChoice.Proofs.Parser.Unrolling

/-!
# Loops and recursion

A list can be read by a loop, or by a rule that reads an item and then refers to
itself.  The loop gathers values and diagnostics from the front, and the rule
from the back.  They answer the same, and one ends exactly where the other does.

A repetition can also be split after so many turns: those that are needed come
first, and the others after them.  Both laws are equations between answers of
the unrolled repetition, up to the fuel that either side takes.
-/

namespace OrderedChoice

/-! ## Answers that settle -/

namespace Answers

variable {α β : Type}

/-- An answer, if it was not cut short, is also what others answer. -/
def SettlesTo (answers larger : Answers α) : Prop :=
  ∀ index, answers index ≠ .error .exhausted → larger index = answers index

namespace SettlesTo

theorem refl (answers : Answers α) : answers.SettlesTo answers :=
  fun _ _ => rfl

theorem trans {first second third : Answers α} (left : first.SettlesTo second)
    (right : second.SettlesTo third) : first.SettlesTo third := by
  intro index settled
  have same := left index settled
  rw [right index (same ▸ settled), same]

theorem bind {first first' : Answers α} {next next' : α → Answers β}
    (firstSettles : first.SettlesTo first')
    (nextSettle : ∀ value, (next value).SettlesTo (next' value)) :
    (first >>= next).SettlesTo (first' >>= next') := by
  intro index settled
  have same := firstSettles index
  rcases answered : first index with abort | ⟨outcome, diagnostics⟩ <;>
    rw [answered] at same
  · rw [bind_of_error answered] at settled ⊢
    exact bind_of_error
      (same fun exhausted => settled (by cases exhausted; rfl)) next'
  have ended := same (by simp)
  cases outcome with
  | failure => rw [bind_of_failure answered, bind_of_failure ended]
  | success stop value =>
      rw [bind_of_success answered] at settled ⊢
      rw [bind_of_success ended, nextSettle value stop]
      intro exhausted
      exact settled (by rw [exhausted]; rfl)

theorem map (f : α → β) {answers larger : Answers α}
    (settles : answers.SettlesTo larger) :
    (f <$> answers).SettlesTo (f <$> larger) := by
  rw [map_eq_pure_bind, map_eq_pure_bind]
  exact settles.bind fun value => .refl _

theorem orElse {first first' second second' : Answers α}
    (firstSettles : first.SettlesTo first')
    (secondSettles : second.SettlesTo second') :
    (first.orElse second).SettlesTo (first'.orElse second') := by
  intro index settled
  have same := firstSettles index
  rcases answered : first index with abort | ⟨outcome, diagnostics⟩ <;>
    rw [answered] at same
  · rw [orElse_of_error answered] at settled ⊢
    exact orElse_of_error (same settled) second'
  have ended := same (by simp)
  cases outcome with
  | success stop value =>
      rw [orElse_of_success answered, orElse_of_success ended]
  | failure =>
      rw [orElse_of_failure answered] at settled ⊢
      rw [orElse_of_failure ended, secondSettles index]
      intro exhausted
      exact settled (by rw [exhausted]; rfl)

end SettlesTo

end Answers

/-! ## Answers of repetitions -/

namespace Attempt

variable {α : Type}

theorem SettlesTo.answers {attempt larger : Attempt α}
    (settles : attempt.SettlesTo larger) :
    attempt.answers.SettlesTo larger.answers := fun index settled =>
  congrArg Run.answer (settles index settled)

theorem answers_times (item : Attempt α) (min : Nat) (max : Option Nat)
    (turns : Nat) :
    (item.times min max turns).answers =
      (item.unrolled turns (lowered min max) max).answers :=
  funext fun index => (item.times_same min max turns index).answer

theorem answers_unrolled_full (item : Attempt α) (turns min : Nat) :
    (item.unrolled turns min (some 0)).answers = pure [] := by
  funext index
  rw [answers, unrolled_full]
  rfl

/-- A turn that is needed is bound to the turns after it. -/
theorem answers_unrolled_needed (item : Attempt α) (turns min : Nat)
    {max : Option Nat} (room : max ≠ some 0) :
    (item.unrolled (turns + 1) (min + 1) max).answers =
      item.answers >>= fun value =>
        (value :: ·) <$>
          (item.unrolled turns min (max.map (· - 1))).answers := by
  funext index
  rw [answers, unrolled_succ _ _ _ room, turn, Run.andThen]
  rcases answered : (item index).answer with abort | ⟨outcome, diagnostics⟩
  · rw [Answers.bind_of_error answered]
  cases outcome with
  | failure =>
      rw [Answers.bind_of_failure answered]
      rfl
  | success stop value =>
      rw [Answers.bind_of_success answered, Answers.map_apply, answers]
      dsimp only [Run.mapResult]
      rw [Nat.add_sub_cancel]
      cases (item.unrolled turns min (max.map (· - 1)) stop).answer <;> rfl

/-- A repetition that needs no turn does not fail. -/
theorem unrolled_ne_failure (item : Attempt α) (turns : Nat)
    (max : Option Nat) (index : Nat) (diagnostics : Diagnostics) :
    (item.unrolled turns 0 max index).answer ≠
      .ok ⟨.failure, diagnostics⟩ := by
  induction turns generalizing max index diagnostics with
  | zero =>
      intro failed
      rw [unrolled] at failed
      split at failed
      · cases failed
      · cases failed
  | succ turns inductiveStep =>
      intro failed
      rw [unrolled] at failed
      split at failed
      · cases failed
      rcases Run.andThen_answer_eq_ok failed with
        ⟨⟨outcome, prior⟩, endsItem, endsRest, _⟩
      cases outcome with
      | failure => cases endsRest
      | success next value =>
          rcases Run.mapResult_answer_eq_ok endsRest with
            ⟨⟨outcome, recent⟩, endsLater, joined⟩
          cases outcome with
          | success last values => cases joined
          | failure => exact inductiveStep _ next recent endsLater

/-- A turn that is not needed is a choice between it, with the turns after it,
and no turn. -/
theorem answers_unrolled_optional (item : Attempt α) (turns : Nat)
    {max : Option Nat} (room : max ≠ some 0) :
    (item.unrolled (turns + 1) 0 max).answers =
      (item.answers >>= fun value => (value :: ·) <$>
        (item.unrolled turns 0 (max.map (· - 1))).answers).orElse
          (pure []) := by
  funext index
  rw [answers, unrolled_succ _ _ _ room, turn, Run.andThen]
  rcases answered : (item index).answer with abort | ⟨outcome, diagnostics⟩
  · rw [Answers.orElse_of_error (Answers.bind_of_error answered _)]
  cases outcome with
  | failure =>
      rw [Answers.orElse_of_failure (Answers.bind_of_failure answered _),
        Answers.pure_apply, Except.map, ParseResult.aggregate_success]
      rfl
  | success stop value =>
      have ended : item.answers index =
          .ok ⟨.success stop value, diagnostics⟩ := answered
      have bound := Answers.bind_of_success ended fun value =>
        (value :: ·) <$> (item.unrolled turns 0 (max.map (· - 1))).answers
      rw [Answers.map_apply, answers] at bound
      dsimp only [Run.mapResult]
      rcases later : (item.unrolled turns 0 (max.map (· - 1)) stop).answer with
        abort | ⟨outcome, recent⟩ <;> rw [later] at bound
      · rw [Answers.orElse_of_error bound]
        rfl
      cases outcome with
      | failure => exact absurd later (item.unrolled_ne_failure _ _ _ _)
      | success last values =>
          rw [Answers.orElse_of_success bound]
          rfl

/-- The turns of a repetition that are needed can be taken before the others,
with bounds on turns that are enough for either part. -/
theorem answers_unrolled_add (item : Attempt α) (count min : Nat)
    (max : Option Nat) (turns spare : Nat) :
    (item.unrolled (turns + count) (min + count)
        (max.map (· + count))).answers =
      (item.unrolled (spare + count) count (some count)).answers >>=
        fun values =>
          (values ++ ·) <$> (item.unrolled turns min max).answers := by
  induction count with
  | zero =>
      have bounds : max.map (· + 0) = max := by cases max <;> rfl
      rw [answers_unrolled_full, bounds]
      simp
  | succ count inductiveStep =>
      have bounds : (max.map (· + (count + 1))).map (· - 1) =
          max.map (· + count) := by
        cases max <;> rfl
      have room : max.map (· + (count + 1)) ≠ some 0 := by
        cases max <;> simp
      rw [← Nat.add_assoc, ← Nat.add_assoc, ← Nat.add_assoc,
        answers_unrolled_needed _ _ _ room,
        answers_unrolled_needed _ _ _ (by simp), bounds, inductiveStep]
      simp

end Attempt

/-! ## Parsers that answer the same -/

namespace Parser

variable {R : Type → Type} {α : Type} {rules : Rules R}

/-- Two parsers answer the same: what a run of one comes to, be it a result with
its diagnostics or a stop at a rule without definition, a run of the other comes
to as well.  In particular both end or none does. -/
def SameAnswers (rules : Rules R) (first second : Parser R α) : Prop :=
  ∀ (source : Source) (index : Nat) (answer : Except Abort (ParseResult α)),
    answer ≠ .error .exhausted →
      ((∃ fuel, (first.run rules fuel source index).answer = answer) ↔
        ∃ fuel, (second.run rules fuel source index).answer = answer)

/-- Answers that settle both ways are the same. -/
theorem sameAnswers_of_settle {first second : Parser R α}
    (forth : ∀ source fuel, ∃ more, (first.answers rules fuel source).SettlesTo
      (second.answers rules more source))
    (back : ∀ source fuel, ∃ more, (second.answers rules fuel source).SettlesTo
      (first.answers rules more source)) :
    SameAnswers rules first second := by
  intro source index answer settled
  constructor
  · rintro ⟨fuel, rfl⟩
    rcases forth source fuel with ⟨more, settles⟩
    exact ⟨more, settles index settled⟩
  · rintro ⟨fuel, rfl⟩
    rcases back source fuel with ⟨more, settles⟩
    exact ⟨more, settles index settled⟩

theorem settles_answers (parser : Parser R α) (source : Source)
    {fuel more : Nat} (enough : fuel ≤ more) :
    (parser.answers rules fuel source).SettlesTo
      (parser.answers rules more source) :=
  (parser.settles_run rules source enough).answers

theorem answers_times (item : Parser R α) (min : Nat) (max : Option Nat)
    (fuel : Nat) (source : Source) :
    (Parser.times item min max).answers rules fuel source =
      ((item.run rules fuel source).unrolled fuel (Attempt.lowered min max)
        max).answers := by
  rw [answers, run, attempt]
  exact Attempt.answers_times _ _ _ _

/-! ### A rule that refers to itself -/

/-- An item and what a rule stands for after it, or nothing. -/
def itemsOrNothing (item : Parser R α) (rule : R (List α)) :
    Parser R (List α) :=
  .orElse (.map (fun values => values.1 :: values.2) (.both item (.ref rule)))
    (success [])

section

variable {item : Parser R α} {rule : R (List α)}
  (defined : rules.definition rule = some (itemsOrNothing item rule))
  {source : Source}

include defined

/-- Entered, the rule is a choice between an item with the rule after it and
nothing. -/
theorem answers_ref_succ (fuel : Nat) :
    (Parser.ref rule).answers rules (fuel + 1) source =
      (item.answers rules fuel source >>= fun value =>
        (value :: ·) <$> (Parser.ref rule).answers rules fuel source).orElse
          (pure []) := by
  rw [answers, run_ref_succ defined]
  have entered : ((itemsOrNothing item rule).run rules fuel source).answers =
      (itemsOrNothing item rule).answers rules fuel source := rfl
  rw [entered, itemsOrNothing]
  simp

/-- Each turn of the loop is an entry of the rule. -/
theorem unrolled_settlesTo_ref (fuel turns : Nat) :
    ((item.run rules fuel source).unrolled turns 0 none).answers.SettlesTo
      ((Parser.ref rule).answers rules (fuel + turns) source) := by
  induction turns with
  | zero => exact fun index settled => absurd rfl settled
  | succ turns inductiveStep =>
      rw [Attempt.answers_unrolled_optional _ _ (by simp), ← Nat.add_assoc,
        answers_ref_succ defined]
      have itemSettles : (item.answers rules fuel source).SettlesTo
          (item.answers rules (fuel + turns) source) :=
        item.settles_answers source (Nat.le_add_right fuel turns)
      exact (itemSettles.bind fun value => inductiveStep.map _).orElse (.refl _)

/-- Each entry of the rule is a turn of the loop. -/
theorem ref_settlesTo_unrolled {fuel larger : Nat} (enough : fuel ≤ larger) :
    ((Parser.ref rule).answers rules fuel source).SettlesTo
      ((item.run rules larger source).unrolled fuel 0 none).answers := by
  induction fuel with
  | zero => exact fun index settled => absurd rfl settled
  | succ fuel inductiveStep =>
      have within : fuel ≤ larger := Nat.le_of_succ_le enough
      rw [Attempt.answers_unrolled_optional _ _ (by simp),
        answers_ref_succ defined]
      exact ((item.settles_answers source within).bind fun value =>
        (inductiveStep within).map _).orElse (.refl _)

/-- The loop and the rule that refers to itself answer the same. -/
theorem sameAnswers_many_ref : SameAnswers rules (many item) (.ref rule) := by
  refine sameAnswers_of_settle (fun source fuel => ⟨fuel + fuel, ?_⟩)
    fun source fuel => ⟨fuel, ?_⟩
  · rw [many, answers_times]
    exact unrolled_settlesTo_ref defined fuel fuel
  · rw [many, answers_times]
    exact ref_settlesTo_unrolled defined (Nat.le_refl fuel)

end

/-! ### Repetitions in two parts -/

theorem lowered_add (min count : Nat) (max : Option Nat) :
    Attempt.lowered (min + count) (max.map (· + count)) =
      Attempt.lowered min max + count := by
  cases max with
  | none => rfl
  | some upper => exact Nat.add_min_add_right min upper count

/-- With fuel that is enough, the turns that are needed and those after them
answer one after the other. -/
theorem answers_times_add (item : Parser R α) (count min : Nat)
    (max : Option Nat) (fuel : Nat) (source : Source) :
    (Parser.times item (min + count) (max.map (· + count))).answers rules
        (fuel + count) source =
      (exactly item count).answers rules (fuel + count) source >>=
        fun values => (values ++ ·) <$>
          ((item.run rules (fuel + count) source).times min max
            fuel).answers := by
  have needed : Attempt.lowered count (some count) = count := Nat.min_self count
  rw [exactly, answers_times, answers_times, lowered_add, needed,
    Attempt.answers_times]
  exact Attempt.answers_unrolled_add _ _ _ _ _ _

theorem answers_appendList_times (item : Parser R α) (count min : Nat)
    (max : Option Nat) (fuel : Nat) (source : Source) :
    (appendList (exactly item count) (.times item min max)).answers rules fuel
        source =
      (exactly item count).answers rules fuel source >>= fun values =>
        (values ++ ·) <$>
          ((item.run rules fuel source).times min max fuel).answers := by
  rw [Attempt.answers_times, ← answers_times]
  simp [appendList]

/-- The turns that are needed can be split off in front. -/
theorem sameAnswers_times_add (item : Parser R α) (count min : Nat)
    (max : Option Nat) :
    SameAnswers rules (.times item (min + count) (max.map (· + count)))
      (appendList (exactly item count) (.times item min max)) := by
  refine sameAnswers_of_settle (fun source fuel => ⟨fuel + count, ?_⟩)
    fun source fuel => ⟨fuel + count, ?_⟩
  · have enough := Nat.le_add_right fuel count
    refine (settles_answers _ source enough).trans ?_
    rw [answers_times_add, answers_appendList_times]
    have later := Attempt.SettlesTo.times
      (fun index => .refl (item.run rules (fuel + count) source index)) min max
      enough
    exact (Answers.SettlesTo.refl _).bind fun values => later.answers.map _
  · have enough := Nat.le_add_right fuel count
    rw [answers_times_add, answers_appendList_times]
    have later := Attempt.SettlesTo.times
      (item.settles_run rules source enough) min max (Nat.le_refl fuel)
    exact (settles_answers _ source enough).bind fun values =>
      later.answers.map _

/--
Loops agree with recursion, and can be split.  Repeating a parser any number of
times answers the same as a rule that stands for an item and the rule after it,
or for nothing: the same result, with its values, offset and diagnostics, or
none in either case.  And a repetition answers the same as its first turns, so
many as are needed at least, with a repetition of the turns after them, between
bounds lowered by their number; this holds of upper bounds below the lower one
too.
-/
theorem loops_agree_with_recursion (rules : Rules R) (item : Parser R α) :
    (∀ rule : R (List α),
      rules.definition rule = some (itemsOrNothing item rule) →
        SameAnswers rules (many item) (.ref rule)) ∧
    (∀ (count min : Nat) (max : Option Nat),
      SameAnswers rules (.times item (min + count) (max.map (· + count)))
        (appendList (exactly item count) (.times item min max))) ∧
    ∀ count, SameAnswers rules (atLeast item count)
      (appendList (exactly item count) (many item)) := by
  refine ⟨fun rule defined => sameAnswers_many_ref defined,
    fun count min max => sameAnswers_times_add item count min max,
    fun count => ?_⟩
  have split : SameAnswers rules (.times item (0 + count) none)
      (appendList (exactly item count) (many item)) :=
    sameAnswers_times_add item count 0 none
  rwa [Nat.zero_add] at split

/-- A declaration that is defined as a letter and itself again, or nothing,
reads two letters and reports the third, as the loop does. -/
theorem declared_letters_read :
    let Value : Unit → Type := fun _ => List String
    let made := (Store.empty : Store Value).declare ()
    let item : DeclaredParser Value String := literal "a"
    let list := itemsOrNothing item (.declared () made.1.id)
    let store := made.2.update made.1 list
    made.2.define made.1 list = .ok store ∧
      ∃ fuel, (made.1.parser.run store.rules fuel (.ofString "aab") 0).answer =
        .ok ⟨.success 2 ["a", "a"], .single 2 "a"⟩ := by
  intro Value made item list store
  refine ⟨rfl, ?_⟩
  have sameAnswers :=
    (loops_agree_with_recursion store.rules item).1 (.declared () made.1.id) rfl
  have loop : ((many item).run store.rules 3 (.ofString "aab") 0).answer =
      .ok ⟨.success 2 ["a", "a"], .single 2 "a"⟩ := by
    rfl
  exact (sameAnswers (.ofString "aab") 0 (.ok _) nofun).mp ⟨3, loop⟩

end Parser

end OrderedChoice
