import OrderedChoice.Trace

/-!
# Summaries of attempts

Merging diagnostics computes a summary.  A summary of several attempts is
described here without reference to merging: its furthest offset is the
largest that any attempt recorded, and it expects exactly what the attempts at
that offset expected.

The main statement is `Summarizes.merge`: what summarises two series of
attempts merges to a summary of both together.
-/

namespace OrderedChoice

/-! ## The order of furthest offsets -/

namespace Diagnostics

theorem compareFurthest_eq_lt_iff {left right : Option Nat} :
    compareFurthest left right = .lt ↔ left < right := by
  cases left <;> cases right <;>
    simp [compareFurthest, Nat.compare_eq_lt]

theorem compareFurthest_eq_gt_iff {left right : Option Nat} :
    compareFurthest left right = .gt ↔ right < left := by
  cases left <;> cases right <;>
    simp [compareFurthest, Nat.compare_eq_gt]

theorem compareFurthest_eq_eq_iff {left right : Option Nat} :
    compareFurthest left right = .eq ↔ left = right := by
  cases left <;> cases right <;>
    simp [compareFurthest]

/-! ## Cases of merging -/

theorem merge_of_lt {recent prior : Diagnostics}
    (below : recent.furthest < prior.furthest) :
    recent.merge prior = prior := by
  rw [merge, compareFurthest_eq_lt_iff.mpr below]

theorem merge_of_gt {recent prior : Diagnostics}
    (above : prior.furthest < recent.furthest) :
    recent.merge prior = recent := by
  rw [merge, compareFurthest_eq_gt_iff.mpr above]

theorem merge_of_eq {recent prior : Diagnostics}
    (level : recent.furthest = prior.furthest) :
    recent.merge prior =
      ⟨recent.furthest, recent.expected ∪ prior.expected⟩ := by
  rw [merge, compareFurthest_eq_eq_iff.mpr level]

/-- One of two furthest offsets is below the other, or they are equal. -/
theorem furthest_cases (left right : Option Nat) :
    left < right ∨ left = right ∨ right < left := by
  rw [← compareFurthest_eq_lt_iff, ← compareFurthest_eq_eq_iff,
    ← compareFurthest_eq_gt_iff]
  cases compareFurthest left right <;> simp

theorem le_of_furthest_lt {left right : Option Nat} (below : left < right) :
    left ≤ right := by
  cases left <;> cases right <;> simp at below ⊢
  omega

theorem furthest_le_trans {left middle right : Option Nat}
    (first : left ≤ middle) (second : middle ≤ right) : left ≤ right := by
  cases left <;> cases middle <;> cases right <;> simp at first second ⊢
  omega

theorem ne_of_le_of_furthest_lt {left middle right : Option Nat}
    (first : left ≤ middle) (second : middle < right) : left ≠ right := by
  cases left <;> cases middle <;> cases right <;> simp at first second ⊢
  omega

theorem furthest_le_refl (furthest : Option Nat) : furthest ≤ furthest := by
  cases furthest <;> simp

/-! ## Merging with no failure -/

@[simp] theorem none_merge (diagnostics : Diagnostics) :
    none.merge diagnostics = diagnostics := by
  cases diagnostics with
  | mk furthest expected =>
      cases furthest with
      | none => rfl
      | some offset => rfl

@[simp] theorem merge_none (diagnostics : Diagnostics) :
    diagnostics.merge none = diagnostics := by
  rcases diagnostics with ⟨furthest, items, ascending⟩
  cases furthest with
  | none => cases items <;> rfl
  | some offset => rfl

end Diagnostics

/-! ## Summaries -/

/--
A summary of attempts: it got as far as the furthest of them, and expects what
those that got as far did.
-/
structure Summarizes (attempts : List Diagnostics) (summary : Diagnostics) :
    Prop where
  /-- No attempt got further. -/
  bound : ∀ attempt ∈ attempts, attempt.furthest ≤ summary.furthest
  /-- Some attempt got as far, unless none recorded an offset. -/
  reached : summary.furthest = none ∨
    ∃ attempt ∈ attempts, attempt.furthest = summary.furthest
  /-- The expectations are those of the attempts that got as far. -/
  mem_expected : ∀ item, item ∈ summary.expected ↔
    ∃ attempt ∈ attempts,
      attempt.furthest = summary.furthest ∧ item ∈ attempt.expected

namespace Summarizes

open Diagnostics

theorem nil : Summarizes [] .none where
  bound := by simp
  reached := Or.inl rfl
  mem_expected := by
    intro item
    constructor
    · intro member
      cases member
    · rintro ⟨attempt, member, -⟩
      cases member

theorem single (attempt : Diagnostics) : Summarizes [attempt] attempt where
  bound := by simp [furthest_le_refl]
  reached := Or.inr ⟨attempt, by simp, rfl⟩
  mem_expected := by simp

variable {earlier later : List Diagnostics} {prior recent : Diagnostics}

/-- Attempts that stay below the furthest of others do not count. -/
theorem append_of_lt (first : Summarizes earlier prior)
    (second : Summarizes later recent)
    (below : recent.furthest < prior.furthest) :
    Summarizes (earlier ++ later) prior where
  bound := by
    intro attempt member
    rcases List.mem_append.mp member with inEarlier | inLater
    · exact first.bound attempt inEarlier
    · exact furthest_le_trans (second.bound attempt inLater)
        (le_of_furthest_lt below)
  reached := by
    rcases first.reached with silent | ⟨attempt, member, level⟩
    · exact Or.inl silent
    · exact Or.inr ⟨attempt, List.mem_append_left _ member, level⟩
  mem_expected := by
    intro item
    rw [first.mem_expected]
    constructor
    · rintro ⟨attempt, member, level, expects⟩
      exact ⟨attempt, List.mem_append_left _ member, level, expects⟩
    · rintro ⟨attempt, member, level, expects⟩
      rcases List.mem_append.mp member with inEarlier | inLater
      · exact ⟨attempt, inEarlier, level, expects⟩
      · exact absurd level
          (ne_of_le_of_furthest_lt (second.bound attempt inLater) below)

/-- The order of two series of attempts does not matter. -/
theorem append_comm (summarized : Summarizes (later ++ earlier) recent) :
    Summarizes (earlier ++ later) recent where
  bound := by
    intro attempt member
    exact summarized.bound attempt
      (by simpa [or_comm] using member)
  reached := by
    rcases summarized.reached with silent | ⟨attempt, member, level⟩
    · exact Or.inl silent
    · exact Or.inr ⟨attempt, by simpa [or_comm] using member, level⟩
  mem_expected := by
    intro item
    rw [summarized.mem_expected]
    simp only [List.mem_append]
    constructor
    · rintro ⟨attempt, member, rest⟩
      exact ⟨attempt, member.symm, rest⟩
    · rintro ⟨attempt, member, rest⟩
      exact ⟨attempt, member.symm, rest⟩

theorem append_of_eq (first : Summarizes earlier prior)
    (second : Summarizes later recent)
    (level : recent.furthest = prior.furthest) :
    Summarizes (earlier ++ later)
      ⟨recent.furthest, recent.expected ∪ prior.expected⟩ where
  bound := by
    intro attempt member
    rcases List.mem_append.mp member with inEarlier | inLater
    · exact level ▸ first.bound attempt inEarlier
    · exact second.bound attempt inLater
  reached := by
    rcases second.reached with silent | ⟨attempt, member, reaches⟩
    · exact Or.inl silent
    · exact Or.inr ⟨attempt, List.mem_append_right _ member, reaches⟩
  mem_expected := by
    intro item
    rw [Expectations.mem_union, first.mem_expected, second.mem_expected]
    constructor
    · rintro (⟨attempt, member, reaches, expects⟩ |
        ⟨attempt, member, reaches, expects⟩)
      · exact ⟨attempt, List.mem_append_right _ member, reaches, expects⟩
      · exact ⟨attempt, List.mem_append_left _ member,
          reaches.trans level.symm, expects⟩
    · rintro ⟨attempt, member, reaches, expects⟩
      rcases List.mem_append.mp member with inEarlier | inLater
      · exact Or.inr
          ⟨attempt, inEarlier, reaches.trans level, expects⟩
      · exact Or.inl ⟨attempt, inLater, reaches, expects⟩

/-- Merging the summaries of two series of attempts summarises both. -/
theorem merge (first : Summarizes earlier prior)
    (second : Summarizes later recent) :
    Summarizes (earlier ++ later) (recent.merge prior) := by
  rcases furthest_cases recent.furthest prior.furthest with
    below | level | above
  · rw [merge_of_lt below]
    exact first.append_of_lt second below
  · rw [merge_of_eq level]
    exact first.append_of_eq second level
  · rw [merge_of_gt above]
    exact (second.append_of_lt first above).append_comm

end Summarizes

/-! ## The attempts of a trace -/

/-- The diagnostics of a leaf attempt. -/
def Event.attempted? : Event → Option Diagnostics
  | .attempt diagnostics => some diagnostics
  | .step _ _ => none
  | .stepFailed _ => none

namespace Trace

/-- The diagnostics that the leaf attempts of a trace left, in order. -/
def attempts (trace : Trace) : List Diagnostics :=
  trace.toList.filterMap Event.attempted?

@[simp] theorem attempts_empty : (∅ : Trace).attempts = [] := rfl

@[simp] theorem attempts_attempt (diagnostics : Diagnostics) :
    (Trace.single (.attempt diagnostics)).attempts = [diagnostics] := rfl

@[simp] theorem attempts_step (start stop : Nat) :
    (Trace.single (.step start stop)).attempts = [] := rfl

@[simp] theorem attempts_stepFailed (start : Nat) :
    (Trace.single (.stepFailed start)).attempts = [] := rfl

@[simp] theorem attempts_append (first second : Trace) :
    (first ++ second).attempts = first.attempts ++ second.attempts := by
  simp [attempts]

/-- Steps alone hold no attempts. -/
@[simp] theorem attempts_steps (trace : Trace) :
    trace.steps.attempts = [] := by
  induction trace with
  | empty => rfl
  | single event =>
      cases event with
      | attempt diagnostics => rfl
      | step start stop => rfl
      | stepFailed start => rfl
  | append first second firstSteps secondSteps =>
      have split : (Trace.append first second).steps =
          first.steps ++ second.steps := rfl
      rw [split, attempts_append, firstSteps, secondSteps]
      rfl

end Trace

end OrderedChoice
