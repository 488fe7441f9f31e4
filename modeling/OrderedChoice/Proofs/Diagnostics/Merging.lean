import Mathlib.Data.List.Sort
import OrderedChoice.Proofs.Diagnostics.Summary

/-!
# The algebra of merging

A series of attempts has one summary only, since its members determine a set of
expectations.  Merging computes summaries, so what is merged and how often it
is, and in which order, makes no difference: merging is associative,
commutative and idempotent, and the diagnostics without a failure are neutral.
The main statement, `merging_orderless`, says so of whole series, merged from
nothing one by one.  Attempts at one offset are merged into what any of them
expects there.
-/

namespace OrderedChoice

/-- Two sets of expectations with the same members are the same. -/
theorem Expectations.eq_of_mem_iff {left right : Expectations}
    (same : ∀ item, item ∈ left ↔ item ∈ right) : left = right := by
  rcases left with ⟨items, ascending⟩
  rcases right with ⟨others, othersAscending⟩
  rw [mk.injEq]
  exact ascending.eq_of_mem_iff othersAscending same

/-! ## Summaries are unique -/

theorem Diagnostics.furthest_le_antisymm {left right : Option Nat}
    (below : left ≤ right) (above : right ≤ left) : left = right := by
  cases left <;> cases right <;> simp at below above ⊢
  omega

theorem Diagnostics.none_le_furthest (furthest : Option Nat) :
    Option.none ≤ furthest := by
  cases furthest <;> simp

namespace Summarizes

open Diagnostics

variable {attempts : List Diagnostics} {first second : Diagnostics}

theorem furthest_le (summary : Summarizes attempts first)
    (other : Summarizes attempts second) :
    first.furthest ≤ second.furthest := by
  rcases summary.reached with silent | ⟨attempt, member, level⟩
  · rw [silent]
    exact none_le_furthest _
  · rw [← level]
    exact other.bound attempt member

/-- A series of attempts has one summary. -/
theorem unique (summary : Summarizes attempts first)
    (other : Summarizes attempts second) : first = second := by
  have level : first.furthest = second.furthest :=
    furthest_le_antisymm (summary.furthest_le other)
      (other.furthest_le summary)
  rcases first with ⟨furthest, expected⟩
  rcases second with ⟨otherFurthest, otherExpected⟩
  subst level
  rw [Diagnostics.mk.injEq]
  refine ⟨rfl, Expectations.eq_of_mem_iff fun item => ?_⟩
  rw [summary.mem_expected item, other.mem_expected item]

/-- Series of the same attempts have the same summaries. -/
theorem congr {others : List Diagnostics}
    (summary : Summarizes others first)
    (same : ∀ attempt, attempt ∈ attempts ↔ attempt ∈ others) :
    Summarizes attempts first where
  bound := fun attempt member =>
    summary.bound attempt ((same attempt).mp member)
  reached := by simpa only [same] using summary.reached
  mem_expected := by simpa only [same] using summary.mem_expected

/-- Where there are attempts one of them got as far as their summary. -/
theorem reached_of_ne_nil (summary : Summarizes attempts first)
    (attempted : attempts ≠ []) :
    ∃ attempt ∈ attempts, attempt.furthest = first.furthest := by
  rcases summary.reached with silent | reached
  · rcases List.exists_mem_of_ne_nil attempts attempted with ⟨attempt, member⟩
    have bound := summary.bound attempt member
    refine ⟨attempt, member, furthest_le_antisymm bound ?_⟩
    rw [silent]
    exact none_le_furthest _
  · exact reached

end Summarizes

/-! ## Laws of merging -/

namespace Diagnostics

theorem merge_assoc (first second third : Diagnostics) :
    (first.merge second).merge third = first.merge (second.merge third) := by
  have left := (Summarizes.single third).merge
    ((Summarizes.single second).merge (.single first))
  have right := ((Summarizes.single third).merge (.single second)).merge
    (.single first)
  exact left.unique right

theorem merge_comm (first second : Diagnostics) :
    first.merge second = second.merge first :=
  ((Summarizes.single second).merge (.single first)).unique
    ((Summarizes.single first).merge (.single second)).append_comm

@[simp] theorem merge_self (diagnostics : Diagnostics) :
    diagnostics.merge diagnostics = diagnostics := by
  have twice := (Summarizes.single diagnostics).merge (.single diagnostics)
  refine twice.unique ⟨?_, .inr ⟨diagnostics, by simp, rfl⟩, by simp⟩
  simp [furthest_le_refl]

@[simp] theorem merge_merge_self (first second : Diagnostics) :
    first.merge (first.merge second) = first.merge second := by
  rw [← merge_assoc, merge_self]

/-! ## Merging a series -/

/-- The diagnostics of a series of attempts, merged one after the other. -/
def mergeAll (attempts : List Diagnostics) : Diagnostics :=
  attempts.foldl (fun prior recent => recent.merge prior) none

theorem foldl_merge (attempts : List Diagnostics) (prior : Diagnostics) :
    attempts.foldl (fun prior recent => recent.merge prior) prior =
      (mergeAll attempts).merge prior := by
  induction attempts generalizing prior with
  | nil => simp [mergeAll]
  | cons first attempts inductiveStep =>
      rw [mergeAll, List.foldl_cons, List.foldl_cons, inductiveStep,
        inductiveStep, merge_none, merge_assoc]

@[simp] theorem mergeAll_nil : mergeAll [] = none := rfl

@[simp] theorem mergeAll_cons (first : Diagnostics)
    (attempts : List Diagnostics) :
    mergeAll (first :: attempts) = (mergeAll attempts).merge first := by
  rw [mergeAll, List.foldl_cons, foldl_merge, merge_none]

theorem mergeAll_append (first second : List Diagnostics) :
    mergeAll (first ++ second) = (mergeAll second).merge (mergeAll first) := by
  rw [mergeAll, List.foldl_append, foldl_merge]
  rfl

theorem summarizes_mergeAll (attempts : List Diagnostics) :
    Summarizes attempts (mergeAll attempts) := by
  induction attempts with
  | nil => exact .nil
  | cons first attempts inductiveStep =>
      rw [mergeAll_cons]
      exact (Summarizes.single first).merge inductiveStep

/-- Only which attempts there are matters, and not their order or number. -/
theorem mergeAll_congr {left right : List Diagnostics}
    (same : ∀ attempt, attempt ∈ left ↔ attempt ∈ right) :
    mergeAll left = mergeAll right :=
  (summarizes_mergeAll left).unique ((summarizes_mergeAll right).congr same)

/-! ## Merging from nothing -/

/-- What is known after a series of attempts, each merged with what was known
before it, which for the first one is nothing at all. -/
def knownAfter (attempts : List Diagnostics) : Option Diagnostics :=
  attempts.foldl (fun prior recent => some (recent.mergePrior prior)) .none

theorem foldl_mergePrior (attempts : List Diagnostics) (prior : Diagnostics) :
    attempts.foldl (fun prior recent => some (recent.mergePrior prior))
        (some prior) =
      some ((mergeAll attempts).merge prior) := by
  induction attempts generalizing prior with
  | nil => rw [List.foldl_nil, mergeAll_nil, none_merge]
  | cons first attempts inductiveStep =>
      rw [List.foldl_cons, mergePrior, inductiveStep, mergeAll_cons,
        merge_assoc]

theorem knownAfter_cons (first : Diagnostics) (attempts : List Diagnostics) :
    knownAfter (first :: attempts) = some (mergeAll (first :: attempts)) := by
  rw [knownAfter, List.foldl_cons, mergePrior, foldl_mergePrior,
    mergeAll_cons]

theorem knownAfter_of_ne_nil {attempts : List Diagnostics}
    (attempted : attempts ≠ []) :
    knownAfter attempts = some (mergeAll attempts) := by
  cases attempts with
  | nil => exact absurd rfl attempted
  | cons first attempts => exact knownAfter_cons first attempts

/-- What is known in the end is the last of what is known on the way. -/
theorem getLast?_accumulate (prior : Option Diagnostics)
    (attempts : List Diagnostics) :
    (accumulate prior attempts).getLast?.or prior =
      attempts.foldl (fun prior recent => some (recent.mergePrior prior))
        prior := by
  induction attempts generalizing prior with
  | nil => rfl
  | cons first attempts inductiveStep =>
      rw [accumulate, List.foldl_cons, ← inductiveStep, List.getLast?_cons]
      cases (accumulate (some (first.mergePrior prior)) attempts).getLast? with
      | none => rfl
      | some last => rfl

/-- Attempts can be merged group by group. -/
theorem knownAfter_filterMap (groups : List (List Diagnostics)) :
    knownAfter (groups.filterMap knownAfter) = knownAfter groups.flatten := by
  have merged : ∀ groups : List (List Diagnostics),
      (groups.filterMap knownAfter = [] ↔ groups.flatten = []) ∧
        mergeAll (groups.filterMap knownAfter) = mergeAll groups.flatten := by
    intro groups
    induction groups with
    | nil => exact ⟨Iff.rfl, rfl⟩
    | cons group groups inductiveStep =>
        cases group with
        | nil => exact inductiveStep
        | cons first group =>
            rw [List.filterMap_cons_some (knownAfter_cons first group),
              List.flatten_cons]
            refine ⟨⟨nofun, nofun⟩, ?_⟩
            rw [mergeAll_cons (mergeAll _), inductiveStep.2, mergeAll_append]
  by_cases nothing : groups.flatten = []
  · rw [nothing, (merged groups).1.mpr nothing]
  · rw [knownAfter_of_ne_nil nothing,
      knownAfter_of_ne_nil (mt (merged groups).1.mp nothing),
      (merged groups).2]

/-- Series of the same attempts, some perhaps more often, come to the same. -/
theorem knownAfter_congr {left right : List Diagnostics}
    (same : ∀ attempt, attempt ∈ left ↔ attempt ∈ right) :
    knownAfter left = knownAfter right := by
  cases left with
  | nil =>
      have nothing : right = [] := List.eq_nil_iff_forall_not_mem.mpr
        fun attempt member => List.not_mem_nil ((same attempt).mpr member)
      rw [nothing]
  | cons first left =>
      have attempted : right ≠ [] :=
        List.ne_nil_of_mem ((same first).mp List.mem_cons_self)
      rw [knownAfter_cons, knownAfter_of_ne_nil attempted,
        mergeAll_congr same]

/--
Merging is a matter of which attempts there are.  Merged from nothing, one or
more attempts give the furthest offset of any of them, where having none is below
all offsets, and expect just what those that got there expected; the series of
what is known on the way ends with that.  Merging is associative, commutative and
idempotent, with no failure as its neutral element on both sides.  So what is
known in the end is the same for attempts in another order, for attempts merged
in groups, for attempts repeated, and with attempts put in that saw no failure.
-/
theorem merging_orderless :
    (∀ attempts : List Diagnostics, attempts ≠ [] →
      ∃ summary, knownAfter attempts = some summary ∧
        (accumulate .none attempts).getLast? = some summary ∧
        (∀ attempt ∈ attempts, attempt.furthest ≤ summary.furthest) ∧
        (∃ attempt ∈ attempts, attempt.furthest = summary.furthest) ∧
        ∀ item, item ∈ summary.expected ↔
          ∃ attempt ∈ attempts, attempt.furthest = summary.furthest ∧
            item ∈ attempt.expected) ∧
    (∀ first second third : Diagnostics,
      (first.merge second).merge third = first.merge (second.merge third)) ∧
    (∀ first second : Diagnostics, first.merge second = second.merge first) ∧
    (∀ diagnostics : Diagnostics, diagnostics.merge diagnostics = diagnostics ∧
      none.merge diagnostics = diagnostics ∧
      diagnostics.merge none = diagnostics) ∧
    (∀ left right : List Diagnostics, left.Perm right →
      knownAfter left = knownAfter right) ∧
    (∀ groups : List (List Diagnostics),
      knownAfter (groups.filterMap knownAfter) = knownAfter groups.flatten) ∧
    (∀ (before after : List Diagnostics) (attempt : Diagnostics),
      attempt ∈ before ++ after →
      knownAfter (before ++ attempt :: after) = knownAfter (before ++ after)) ∧
    (∀ before after : List Diagnostics, before ++ after ≠ [] →
      knownAfter (before ++ none :: after) = knownAfter (before ++ after)) := by
  refine ⟨?_, merge_assoc, merge_comm, ?_, ?_, knownAfter_filterMap, ?_, ?_⟩
  · intro attempts attempted
    have last := getLast?_accumulate .none attempts
    have summary := summarizes_mergeAll attempts
    rw [Option.or_none] at last
    refine ⟨mergeAll attempts, knownAfter_of_ne_nil attempted,
      last.trans (knownAfter_of_ne_nil attempted), summary.bound, ?_,
      summary.mem_expected⟩
    exact summary.reached_of_ne_nil attempted
  · exact fun diagnostics =>
      ⟨merge_self diagnostics, none_merge diagnostics, merge_none diagnostics⟩
  · exact fun left right permuted =>
      knownAfter_congr fun _ => permuted.mem_iff
  · intro before after attempt member
    refine knownAfter_congr fun other => ?_
    rw [List.mem_append, List.mem_cons, or_left_comm, ← List.mem_append]
    exact ⟨fun found => found.elim (· ▸ member) id, .inr⟩
  · intro before after attempted
    have longer : before ++ none :: after ≠ [] := by simp
    rw [knownAfter_of_ne_nil longer, knownAfter_of_ne_nil attempted,
      mergeAll_append, mergeAll_cons, merge_none, ← mergeAll_append]

/-- A tie behind a nearer failure is merged in another order, with one of its
sides repeated, and with no failure put in. -/
theorem tie_merged_alike :
    let near := single 1 "a"
    let left := single 4 "b"
    let right := single 4 "c"
    (∃ summary, knownAfter [near, left, right] = some summary ∧
      summary.furthest = some 4 ∧
      ∀ item, item ∈ summary.expected ↔ item = "b" ∨ item = "c") ∧
    knownAfter [near, left, right] = knownAfter [right, near, left] ∧
    knownAfter [near, left, left, right] = knownAfter [near, left, right] ∧
    knownAfter [near, none, left, right] = knownAfter [near, left, right] := by
  intro near left right
  rcases merging_orderless with
    ⟨summarized, _, _, _, permuted, _, repeated, silent⟩
  refine ⟨?_, permuted _ _ (by decide), repeated [near] [left, right] left
    (by simp), silent [near] [left, right] (by simp)⟩
  rcases summarized [near, left, right] (by simp) with
    ⟨summary, known, _, _, _, expects⟩
  have level : summary.furthest = some 4 := by
    rw [← Option.some.inj known]
    rfl
  refine ⟨summary, known, level, fun item => ?_⟩
  rw [expects, level]
  simp [near, left, right, single, Expectations.mem_def,
    Expectations.singleton]

end Diagnostics

/-! ## What is expected at one offset -/

/-- The items of a list are the members of its set. -/
theorem Expectations.mem_ofList {item : String} {items : List String} :
    item ∈ ofList items ↔ item ∈ items := by
  have gathered : ∀ expectations : Expectations,
      item ∈ items.foldl
          (fun expectations other => expectations ∪ singleton other)
          expectations ↔ item ∈ expectations ∨ item ∈ items := by
    induction items with
    | nil => simp
    | cons first items inductiveStep =>
        intro expectations
        have alone : item ∈ singleton first ↔ item = first :=
          List.mem_singleton
        rw [List.foldl_cons, inductiveStep, mem_union, alone, List.mem_cons,
          or_assoc]
  have none : ¬ item ∈ (∅ : Expectations) := nofun
  rw [ofList, gathered]
  simp [none]

namespace Diagnostics

/-- At an offset each of several things was expected, if there are any. -/
def expecting (offset : Nat) (descriptions : List String) : Diagnostics where
  furthest := if descriptions = [] then .none else some offset
  expected := .ofList descriptions

/-- Neither order nor repetition of what is expected matters. -/
theorem expecting_congr {offset : Nat} {left right : List String}
    (same : ∀ description, description ∈ left ↔ description ∈ right) :
    expecting offset left = expecting offset right := by
  have empty : left = [] ↔ right = [] := by
    rw [List.eq_nil_iff_forall_not_mem, List.eq_nil_iff_forall_not_mem]
    exact forall_congr' fun description => not_congr (same description)
  have expected : Expectations.ofList left = .ofList right :=
    Expectations.eq_of_mem_iff fun item => by
      rw [Expectations.mem_ofList, Expectations.mem_ofList, same]
  simp only [expecting, empty, expected]

theorem mergeAll_singles (offset : Nat) (descriptions : List String) :
    mergeAll (descriptions.map (single offset)) =
      expecting offset descriptions := by
  induction descriptions with
  | nil => rfl
  | cons first others inductiveStep =>
      rw [List.map_cons, mergeAll_cons, inductiveStep]
      cases others with
      | nil =>
          have single : Expectations.singleton first = .ofList [first] :=
            Expectations.eq_of_mem_iff fun item => by
              rw [Expectations.mem_ofList]
              exact Iff.rfl
          exact (none_merge _).trans (congrArg (mk (some offset)) single)
      | cons second others =>
          have level : (expecting offset (second :: others)).furthest =
              (single offset first).furthest := rfl
          rw [merge_of_eq level]
          refine congrArg (mk (some offset))
            (Expectations.eq_of_mem_iff fun item => ?_)
          rw [Expectations.mem_union, expecting, Expectations.mem_ofList,
            Expectations.mem_ofList, or_comm]
          exact (or_congr List.mem_singleton Iff.rfl).trans
            List.mem_cons.symm

end Diagnostics

end OrderedChoice
