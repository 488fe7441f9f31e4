import Mathlib.Data.List.Pairwise
import Mathlib.Tactic.Common
import OrderedChoice.Unicode.Edges

/-!
# Edges of sets

Edges represent a set if they stand in increasing order and have its members,
and every operation on edges represents what it should.  All of them come down
to combining two sets, which is one scan over the marks of both: at each of them
it is known which of the sets hold the values behind it.

No combination has more edges than its parts together.
-/

namespace OrderedChoice.Unicode

namespace Edges

variable {edges left right : Edges} {value : Nat}

/-- Edges in increasing order. -/
def Increasing (edges : Edges) : Prop := edges.Pairwise (· < ·)

/-- Nothing below the edges is a member. -/
theorem contains_of_forall_lt (below : ∀ edge ∈ edges, value < edge) :
    edges.contains value = false := by
  induction edges with
  | nil => rfl
  | cons edge edges inductiveStep =>
      have first := below edge List.mem_cons_self
      rw [contains, decide_eq_false (Nat.not_le_of_lt first),
        inductiveStep fun other member =>
          below other (List.mem_cons_of_mem edge member)]
      rfl

/-! ## Marks -/

/-- The edges of the left set among marks. -/
def leftOf (marks : List Mark) : Edges :=
  (marks.filter (·.ofLeft)).map (·.value)

/-- The edges of the right set among marks. -/
def rightOf (marks : List Mark) : Edges :=
  (marks.filter (·.ofRight)).map (·.value)

theorem contains_leftOf_cons (mark : Mark) (marks : List Mark) (value : Nat) :
    (leftOf (mark :: marks)).contains value =
      (decide (mark.value ≤ value) && mark.ofLeft ^^
        (leftOf marks).contains value) := by
  cases isLeft : mark.ofLeft <;> simp [leftOf, isLeft, contains]

theorem contains_rightOf_cons (mark : Mark) (marks : List Mark) (value : Nat) :
    (rightOf (mark :: marks)).contains value =
      (decide (mark.value ≤ value) && mark.ofRight ^^
        (rightOf marks).contains value) := by
  cases isRight : mark.ofRight <;> simp [rightOf, isRight, contains]

/-- The marks of two sets are the edges of both, each told apart. -/
theorem leftOf_marks_and_rightOf_marks (left right : Edges) :
    leftOf (marks left right) = left ∧ rightOf (marks left right) = right := by
  induction left generalizing right with
  | nil =>
      simp [marks, leftOf, rightOf, List.filter_map, Function.comp_def]
  | cons edge left leftStep =>
      rw [marks]
      induction right with
      | nil => simpa [marksUpTo, leftOf, rightOf] using leftStep []
      | cons other right rightStep =>
          rw [marksUpTo]
          split
          · simpa [leftOf, rightOf] using rightStep
          · split
            · rename_i same
              simpa [leftOf, rightOf, same] using leftStep right
            · simpa [leftOf, rightOf] using leftStep (other :: right)

theorem mem_marks {mark : Mark} (member : mark ∈ marks left right) :
    mark.value ∈ left ∨ mark.value ∈ right := by
  induction left generalizing right with
  | nil =>
      rcases List.mem_map.mp member with ⟨edge, isEdge, rfl⟩
      exact .inr isEdge
  | cons edge left leftStep =>
      rw [marks] at member
      induction right with
      | nil =>
          rcases List.mem_cons.mp member with rfl | later
          · exact .inl List.mem_cons_self
          · exact (leftStep later).imp (List.mem_cons_of_mem edge) id
      | cons other right rightStep =>
          rw [marksUpTo] at member
          split at member
          · rcases List.mem_cons.mp member with rfl | later
            · exact .inr List.mem_cons_self
            · exact (rightStep later).imp id (List.mem_cons_of_mem other)
          · split at member
            · rcases List.mem_cons.mp member with rfl | later
              · exact .inl List.mem_cons_self
              · exact (leftStep later).imp (List.mem_cons_of_mem edge)
                  (List.mem_cons_of_mem other)
            · rcases List.mem_cons.mp member with rfl | later
              · exact .inl List.mem_cons_self
              · exact (leftStep later).imp (List.mem_cons_of_mem edge) id

/-- The marks of two sets stand in increasing order. -/
theorem pairwise_marks (leftIncreases : left.Increasing)
    (rightIncreases : right.Increasing) :
    (marks left right).Pairwise (·.value < ·.value) := by
  induction left generalizing right with
  | nil => exact List.pairwise_map.mpr rightIncreases
  | cons edge left leftStep =>
      rcases List.pairwise_cons.mp leftIncreases with ⟨edgeBelow, leftRest⟩
      have followed : ∀ {right : Edges}, right.Increasing →
          (∀ other ∈ right, edge < other) → ∀ ofRight,
          (⟨edge, true, ofRight⟩ :: marks left right : List Mark).Pairwise
            (·.value < ·.value) := by
        intro right increases below ofRight
        refine List.pairwise_cons.mpr ⟨?_, leftStep leftRest increases⟩
        intro mark member
        exact (mem_marks member).elim (edgeBelow _) (below _)
      rw [marks]
      induction right with
      | nil =>
          rw [marksUpTo]
          exact followed rightIncreases (fun other member => by cases member) _
      | cons other right rightStep =>
          rcases List.pairwise_cons.mp rightIncreases with
            ⟨otherBelow, rightRest⟩
          rw [marksUpTo]
          split
          · rename_i before
            refine List.pairwise_cons.mpr ⟨?_, rightStep rightRest⟩
            intro mark member
            have among : mark.value ∈ edge :: left ∨ mark.value ∈ right :=
              mem_marks member
            rcases among with inLeft | inRight
            · rcases List.mem_cons.mp inLeft with same | later
              · exact same ▸ before
              · exact Nat.lt_trans before (edgeBelow _ later)
            · exact otherBelow _ inRight
          · rename_i notBefore
            split
            · rename_i same
              exact followed rightRest (fun _ member =>
                same ▸ otherBelow _ member) _
            · rename_i different
              have before : edge < other := by omega
              refine followed rightIncreases (fun further member => ?_) _
              rcases List.mem_cons.mp member with rfl | later
              · exact before
              · exact Nat.lt_trans before (otherBelow _ later)

/-! ## Combining two sets -/

section

variable (keep : Bool → Bool → Bool)

theorem scan_sublist (inLeft inRight : Bool) (marks : List Mark) :
    (scan keep inLeft inRight marks).Sublist (marks.map (·.value)) := by
  induction marks generalizing inLeft inRight with
  | nil => exact .slnil
  | cons mark marks inductiveStep =>
      rw [scan]
      split
      · exact .cons _ (inductiveStep _ _)
      · exact .cons_cons _ (inductiveStep _ _)

/-- Behind a point, membership in the combination changes as the two
memberships do. -/
theorem contains_scan {marks : List Mark}
    (increase : marks.Pairwise (·.value < ·.value)) (inLeft inRight : Bool)
    (value : Nat) :
    (keep inLeft inRight ^^
        contains (scan keep inLeft inRight marks) value) =
      keep (inLeft ^^ (leftOf marks).contains value)
        (inRight ^^ (rightOf marks).contains value) := by
  induction marks generalizing inLeft inRight with
  | nil => simp [scan, leftOf, rightOf, contains]
  | cons mark marks inductiveStep =>
      rcases List.pairwise_cons.mp increase with ⟨below, increaseRest⟩
      have further := inductiveStep increaseRest (inLeft ^^ mark.ofLeft)
        (inRight ^^ mark.ofRight)
      rw [contains_leftOf_cons, contains_rightOf_cons]
      by_cases reached : mark.value ≤ value
      · simp only [reached, decide_true, Bool.true_and, ← Bool.xor_assoc]
        rw [← further, scan]
        split
        · rename_i same
          rw [eq_of_beq same]
        · rename_i changes
          have flips : keep inLeft inRight =
              !keep (inLeft ^^ mark.ofLeft) (inRight ^^ mark.ofRight) :=
            Bool.eq_not.mpr fun same => changes (beq_iff_eq.mpr same)
          rw [flips, contains, decide_eq_true reached]
          simp
      · have before : value < mark.value := Nat.lt_of_not_le reached
        have nothing : ∀ {part : Edges},
            part.Sublist ((mark :: marks).map (·.value)) →
              part.contains value = false := by
          intro part sublist
          apply contains_of_forall_lt
          intro edge member
          rcases List.mem_map.mp (sublist.mem member) with ⟨other, among, rfl⟩
          rcases List.mem_cons.mp among with rfl | later
          · exact before
          · exact Nat.lt_trans before (below other later)
        have leftNothing : (leftOf marks).contains value = false :=
          nothing ((List.filter_sublist.map _).cons _)
        have rightNothing : (rightOf marks).contains value = false :=
          nothing ((List.filter_sublist.map _).cons _)
        rw [nothing (scan_sublist keep inLeft inRight _), leftNothing,
          rightNothing]
        simp [reached]

variable {keep}

/-- The values of a combination are those that are kept. -/
theorem contains_combine (outside : keep false false = false)
    (leftIncreases : left.Increasing) (rightIncreases : right.Increasing)
    (value : Nat) :
    (combine keep left right).contains value =
      keep (left.contains value) (right.contains value) := by
  have scanned := contains_scan keep
    (pairwise_marks leftIncreases rightIncreases) false false value
  rcases leftOf_marks_and_rightOf_marks left right with ⟨isLeft, isRight⟩
  rw [outside, isLeft, isRight] at scanned
  simpa [combine] using scanned

theorem increasing_combine (leftIncreases : left.Increasing)
    (rightIncreases : right.Increasing) :
    (combine keep left right).Increasing :=
  (List.pairwise_map.mpr
    (pairwise_marks leftIncreases rightIncreases)).sublist
      (scan_sublist keep false false _)

end

theorem increasing_union (leftIncreases : left.Increasing)
    (rightIncreases : right.Increasing) : (left.union right).Increasing :=
  increasing_combine leftIncreases rightIncreases

theorem contains_union (leftIncreases : left.Increasing)
    (rightIncreases : right.Increasing) (value : Nat) :
    (left.union right).contains value =
      (left.contains value || right.contains value) :=
  contains_combine rfl leftIncreases rightIncreases value

/-! ## Ranges -/

theorem increasing_range {first last : Nat} (ordered : first ≤ last) :
    Increasing [first, last + 1] := by
  simp [Increasing, Nat.lt_succ_of_le ordered]

theorem contains_range {first last : Nat} (ordered : first ≤ last)
    (value : Nat) :
    contains [first, last + 1] value =
      (decide (first ≤ value) && decide (value ≤ last)) := by
  by_cases within : value ≤ last
  · have notBehind : ¬ last + 1 ≤ value :=
      Nat.not_le_of_lt (Nat.lt_succ_of_le within)
    simp [contains, within, notBehind]
  · have behind : last + 1 ≤ value := Nat.lt_of_not_le within
    have started : first ≤ value := by omega
    simp [contains, within, behind, started]

/-- A range is added to the members, whichever way it is done. -/
theorem addRange_spec (range : Nat × Nat) (increases : edges.Increasing) :
    (addRange range edges).Increasing ∧ ∀ value,
      (addRange range edges).contains value =
        (decide (range.1 ≤ value) && decide (value ≤ range.2) ||
          edges.contains value) := by
  rcases range with ⟨first, last⟩
  rw [addRange.eq_def]
  split
  · -- There is nothing in the range.
    rename_i empty
    refine ⟨increases, fun value => ?_⟩
    have outside :
        (decide (first ≤ value) && decide (value ≤ last)) = false := by
      rw [← Bool.decide_and, decide_eq_false_iff_not]
      dsimp only at empty
      omega
    rw [outside, Bool.false_or]
  rename_i nonempty
  have ordered : first ≤ last := Nat.le_of_not_lt nonempty
  cases edges with
  | nil =>
      refine ⟨increasing_range ordered, fun value => ?_⟩
      rw [contains_range ordered, contains, Bool.or_false]
  | cons next others =>
      rcases List.pairwise_cons.mp increases with ⟨nextBelow, othersIncrease⟩
      dsimp only
      split
      · -- The range stands apart in front.
        rename_i before
        have firstBefore : first < next := by omega
        refine ⟨?_, fun value => ?_⟩
        · refine List.pairwise_cons.mpr ⟨?_, List.pairwise_cons.mpr
            ⟨?_, increases⟩⟩
          · simp only [List.forall_mem_cons]
            exact ⟨by omega, firstBefore, fun other member =>
              Nat.lt_trans firstBefore (nextBelow other member)⟩
          · simp only [List.forall_mem_cons]
            exact ⟨before, fun other member =>
              Nat.lt_trans before (nextBelow other member)⟩
        · have inRange := contains_range ordered value
          rw [contains, contains, contains, Bool.xor_false] at inRange
          rw [contains, contains, ← Bool.xor_assoc, inRange]
          by_cases below : value ≤ last
          · have notReached : contains (next :: others) value = false := by
              apply contains_of_forall_lt
              simp only [List.forall_mem_cons]
              exact ⟨by omega, fun other member =>
                Nat.lt_trans (by omega) (nextBelow other member)⟩
            simp [notReached]
          · simp [below]
      · split
        · -- The range runs up to the first edge.
          rename_i meets
          subst meets
          refine ⟨List.pairwise_cons.mpr ⟨fun other member =>
            Nat.lt_trans (Nat.lt_succ_of_le ordered) (nextBelow other member),
            othersIncrease⟩, fun value => ?_⟩
          rw [contains, contains]
          by_cases below : value ≤ last
          · rw [contains_of_forall_lt fun other member =>
              Nat.lt_trans (Nat.lt_succ_of_le below) (nextBelow other member)]
            have notBehind : ¬ last + 1 ≤ value :=
              Nat.not_le_of_lt (Nat.lt_succ_of_le below)
            simp [below, notBehind]
          · have behind : last + 1 ≤ value := Nat.lt_of_not_le below
            have started : first ≤ value := by omega
            simp [below, behind, started]
        · have rangeIncreases := increasing_range ordered
          refine ⟨increasing_union rangeIncreases increases, fun value => ?_⟩
          rw [contains_union rangeIncreases increases, contains_range ordered]

/-- The ranges read off the edges hold the members. -/
theorem contains_ranges (increases : edges.Increasing)
    (scalar : value < 0x110000) :
    Ranges.contains edges.ranges value = edges.contains value := by
  induction edges using ranges.induct with
  | case1 => rfl
  | case2 first =>
      rw [ranges]
      simp [Ranges.contains, contains, Nat.le_of_lt_succ scalar]
  | case3 first stop edges inductiveStep =>
      rcases List.pairwise_cons.mp increases with ⟨firstBelow, rest⟩
      rcases List.pairwise_cons.mp rest with ⟨stopBelow, edgesIncrease⟩
      have ordered : first < stop := firstBelow stop List.mem_cons_self
      have bounded : stop - 1 + 1 = stop := by omega
      have inRange := contains_range (Nat.le_sub_one_of_lt ordered) value
      rw [bounded, contains, contains, contains, Bool.xor_false] at inRange
      rw [ranges, contains, contains, ← Bool.xor_assoc, inRange,
        ← inductiveStep edgesIncrease, Ranges.contains, List.any_cons]
      rw [← Ranges.contains, inductiveStep edgesIncrease]
      by_cases below : value < stop
      · rw [contains_of_forall_lt fun other member =>
          Nat.lt_trans below (stopBelow other member)]
        simp
      · have above : ¬ value ≤ stop - 1 := by omega
        simp [above]

/-! ## Represented sets -/

/-- Edges represent a set if they stand in increasing order and have its members
among the scalar values. -/
structure Represents (edges : Edges) (member : Nat → Bool) : Prop where
  increases : edges.Increasing
  contains_eq : ∀ value, value < 0x110000 →
    edges.contains value = member value

section

variable {inLeft inRight member : Nat → Bool}

theorem Represents.combine {keep : Bool → Bool → Bool}
    (outside : keep false false = false)
    (leftRepresented : left.Represents inLeft)
    (rightRepresented : right.Represents inRight) :
    (combine keep left right).Represents fun value =>
      keep (inLeft value) (inRight value) where
  increases := increasing_combine leftRepresented.increases
    rightRepresented.increases
  contains_eq value scalar := by
    rw [contains_combine outside leftRepresented.increases
        rightRepresented.increases,
      leftRepresented.contains_eq value scalar,
      rightRepresented.contains_eq value scalar]

theorem Represents.union (leftRepresented : left.Represents inLeft)
    (rightRepresented : right.Represents inRight) :
    (left.union right).Represents fun value => inLeft value || inRight value :=
  leftRepresented.combine rfl rightRepresented

theorem Represents.difference (leftRepresented : left.Represents inLeft)
    (rightRepresented : right.Represents inRight) :
    (left.difference right).Represents fun value =>
      inLeft value && !inRight value :=
  leftRepresented.combine rfl rightRepresented

theorem represents_all : all.Represents fun _ => true where
  increases := by simp [all, Increasing]
  contains_eq value scalar := by simp [all, contains, scalar]

theorem Represents.complement (represented : edges.Represents member) :
    (all.difference edges).Represents fun value => !member value :=
  represents_all.difference represented

/-- The members of listed ranges are the values in one of them. -/
theorem represents_ofRanges (ranges : Ranges) :
    (ofRanges ranges).Represents (Ranges.contains ranges) := by
  induction ranges with
  | nil => exact ⟨.nil, fun _ _ => rfl⟩
  | cons range ranges inductiveStep =>
      have added := addRange_spec range inductiveStep.increases
      refine ⟨added.1, fun value scalar => ?_⟩
      rw [ofRanges, List.foldr_cons, ← ofRanges, added.2,
        inductiveStep.contains_eq value scalar]
      rfl

theorem represents_ofCategories (categories : List Category) :
    (ofCategories categories).Represents (inAnyCategory categories) := by
  induction categories with
  | nil => exact ⟨.nil, fun _ _ => rfl⟩
  | cons category categories inductiveStep =>
      exact (represents_ofRanges category.ranges).union inductiveStep

end

/-! ## Case -/

/-- Several values are added to the members. -/
theorem foldr_addRange_spec (values : List Nat)
    (increases : edges.Increasing) :
    (values.foldr (fun value => addRange (value, value)) edges).Increasing ∧
      ∀ value,
        (values.foldr (fun value => addRange (value, value)) edges).contains
            value =
          (values.contains value || edges.contains value) := by
  induction values with
  | nil => exact ⟨increases, fun _ => rfl⟩
  | cons added values inductiveStep =>
      have spec := addRange_spec (added, added) inductiveStep.1
      refine ⟨spec.1, fun value => ?_⟩
      rw [List.foldr_cons, spec.2, inductiveStep.2, List.contains_cons,
        ← Bool.or_assoc]
      congr 2
      rw [Bool.eq_iff_iff, Bool.and_eq_true, decide_eq_true_iff,
        decide_eq_true_iff, beq_iff_eq]
      omega

/-- A value that a run covers is listed with the value it is mapped to. -/
theorem mem_pairs_of_covers {runs : List CaseRun} {run : CaseRun}
    (isRun : run ∈ runs) (covers : run.covers value = true) :
    (value, value - run.first + run.target) ∈ CaseRun.pairs runs := by
  simp only [CaseRun.covers, Bool.and_eq_true, decide_eq_true_iff,
    beq_iff_eq] at covers
  rcases covers with ⟨⟨started, within⟩, steps⟩
  have whole := Nat.div_mul_cancel (Nat.dvd_of_mod_eq_zero steps)
  refine List.mem_flatMap.mpr ⟨run, isRun, List.mem_map.mpr
    ⟨(value - run.first) / run.stride, ?_, ?_⟩⟩
  · exact List.mem_range.mpr (Nat.lt_succ_of_le
      (Nat.div_le_div_right (Nat.sub_le_sub_right within _)))
  · rw [whole]
    exact Prod.ext (by dsimp only; omega) (by dsimp only; omega)

theorem mem_pairs_of_mem_sources {runs : List CaseRun} {image : Nat}
    (isSource : value ∈ CaseRun.sources runs image) :
    (value, image) ∈ CaseRun.pairs runs := by
  rcases List.mem_filterMap.mp isSource with ⟨run, isRun, mapped⟩
  dsimp only at mapped
  split at mapped
  · rename_i valid
    cases mapped
    rw [Bool.and_eq_true, decide_eq_true_iff] at valid
    have listed := mem_pairs_of_covers isRun valid.2
    rwa [Nat.add_sub_cancel, Nat.sub_add_cancel valid.1] at listed
  · cases mapped

/-- A value folds to itself or is listed among the sources of what it folds
to. -/
theorem simpleFold_eq_or_mem_sources (value : Nat) :
    simpleFold value = value ∨
      value ∈ CaseRun.sources foldingRuns (simpleFold value) := by
  rw [simpleFold, CaseRun.apply]
  split
  · rename_i run found
    right
    have covers := List.find?_some found
    refine List.mem_filterMap.mpr ⟨run, List.mem_of_find?_eq_some found, ?_⟩
    have started : run.first ≤ value := by
      simp only [CaseRun.covers, Bool.and_eq_true, decide_eq_true_iff] at covers
      exact covers.1.1
    simp [Nat.sub_add_cancel started, covers]
  · exact .inl rfl

theorem mem_caseVariants_self (value : Nat) : value ∈ caseVariants value := by
  rcases simpleFold_eq_or_mem_sources value with same | isSource
  · rw [caseVariants, same]
    exact List.mem_cons_self
  · exact List.mem_cons_of_mem _ isSource

theorem foldingRuns_within : ∀ run ∈ foldingRuns,
    run.last < 0x110000 ∧ run.last - run.first + run.target < 0x110000 := by
  decide +kernel

/-- What folds together with a scalar value is one. -/
theorem lt_of_mem_caseVariants {variant : Nat} (scalar : value < 0x110000)
    (isVariant : variant ∈ caseVariants value) : variant < 0x110000 := by
  rcases List.mem_cons.mp isVariant with rfl | isSource
  · rw [simpleFold, CaseRun.apply]
    split
    · rename_i run found
      have within := foldingRuns_within run (List.mem_of_find?_eq_some found)
      have covers := List.find?_some found
      simp only [CaseRun.covers, Bool.and_eq_true, decide_eq_true_iff] at covers
      omega
    · exact scalar
  · rcases List.mem_filterMap.mp isSource with ⟨run, isRun, mapped⟩
    have within := foldingRuns_within run isRun
    dsimp only at mapped
    split at mapped
    · rename_i valid
      cases mapped
      simp only [CaseRun.covers, Bool.and_eq_true, decide_eq_true_iff] at valid
      omega
    · cases mapped

/-- A value is a candidate if it folds to a member or to what a member is mapped
to. -/
theorem mem_caseCandidates {source : Nat}
    (mapped : (source, simpleFold value) ∈ CaseRun.pairs foldingRuns)
    (touched : edges.contains source = true ∨
      edges.contains (simpleFold value) = true) :
    value ∈ edges.caseCandidates :=
  List.mem_flatMap.mpr ⟨(source, simpleFold value),
    List.mem_filter.mpr ⟨mapped, Bool.or_eq_true_iff.mpr touched⟩,
    mem_caseVariants_self value⟩

/-- The closure under case holds what folds together with a member. -/
theorem caseClosure_spec (increases : edges.Increasing) :
    (caseClosure edges).Increasing ∧ ∀ value,
      (caseClosure edges).contains value =
        (caseVariants value).any edges.contains := by
  rw [caseClosure]
  have spec := fun values => foldr_addRange_spec values increases
  refine ⟨(spec _).1, fun value => ?_⟩
  rw [(spec _).2, Bool.eq_iff_iff, Bool.or_eq_true, List.contains_iff_mem,
    List.mem_filter, Bool.and_eq_true, List.any_eq_true]
  constructor
  · rintro (⟨_, _, variant⟩ | member)
    · exact variant
    · exact ⟨value, mem_caseVariants_self value, member⟩
  · rintro ⟨variant, isVariant, member⟩
    cases known : edges.contains value with
    | true => exact .inr rfl
    | false =>
        refine .inl ⟨?_, rfl, variant, isVariant, member⟩
        rcases List.mem_cons.mp isVariant with rfl | isSource
        · -- The value folds to a member.
          rcases simpleFold_eq_or_mem_sources value with same | isSource
          · rw [same, known] at member
            cases member
          · exact mem_caseCandidates (mem_pairs_of_mem_sources isSource)
              (.inr member)
        · exact mem_caseCandidates (mem_pairs_of_mem_sources isSource)
            (.inl member)

theorem Represents.caseClosure {member : Nat → Bool}
    (represented : edges.Represents member) :
    (caseClosure edges).Represents fun value =>
      (caseVariants value).any member where
  increases := (caseClosure_spec represented.increases).1
  contains_eq value scalar := by
    rw [(caseClosure_spec represented.increases).2, Bool.eq_iff_iff,
      List.any_eq_true, List.any_eq_true]
    refine exists_congr fun variant => and_congr_right fun isVariant => ?_
    rw [represented.contains_eq variant
      (lt_of_mem_caseVariants scalar isVariant)]

/-! ## Numbers of edges -/

theorem length_marks_le (left right : Edges) :
    (marks left right).length ≤ left.length + right.length := by
  induction left generalizing right with
  | nil => simp [marks]
  | cons edge left leftStep =>
      rw [marks]
      induction right with
      | nil => simpa [marksUpTo] using leftStep []
      | cons other right rightStep =>
          rw [marksUpTo]
          split
          · simp only [List.length_cons] at rightStep ⊢
            omega
          · split
            · have followed := leftStep right
              simp only [List.length_cons]
              omega
            · have followed := leftStep (other :: right)
              simp only [List.length_cons] at followed ⊢
              omega

theorem length_combine_le (keep : Bool → Bool → Bool) (left right : Edges) :
    (combine keep left right).length ≤ left.length + right.length :=
  calc (combine keep left right).length
    _ ≤ ((marks left right).map (·.value)).length :=
        (scan_sublist keep false false _).length_le
    _ = (marks left right).length := List.length_map _
    _ ≤ left.length + right.length := length_marks_le left right

theorem length_addRange_le (range : Nat × Nat) (edges : Edges) :
    (addRange range edges).length ≤ edges.length + 2 := by
  rw [addRange.eq_def]
  split
  · exact Nat.le_add_right _ 2
  cases edges with
  | nil => exact Nat.le_refl 2
  | cons next others =>
      dsimp only
      split
      · exact Nat.le_refl _
      · split
        · simp
        · have combined := length_combine_le (· || ·) [range.1, range.2 + 1]
            (next :: others)
          exact le_of_le_of_eq combined (Nat.add_comm 2 _)

/-- Ranges have two edges each. -/
theorem length_ofRanges_le (ranges : Ranges) :
    (ofRanges ranges).length ≤ 2 * ranges.length := by
  induction ranges with
  | nil => exact Nat.le_refl 0
  | cons range ranges inductiveStep =>
      have added := length_addRange_le range (ofRanges ranges)
      rw [ofRanges, List.foldr_cons, ← ofRanges, List.length_cons]
      omega

theorem length_ranges_le (edges : Edges) :
    2 * edges.ranges.length ≤ edges.length + 1 := by
  induction edges using ranges.induct with
  | case1 => exact Nat.zero_le _
  | case2 first => exact Nat.le_refl 2
  | case3 first stop edges inductiveStep =>
      simp only [ranges, List.length_cons]
      omega

end Edges

/-! ## Values that are put together -/

namespace Values

/-- The edges of values that are put together from tables represent them. -/
theorem represents_edges (values : Values) :
    values.edges.Represents values.contains := by
  induction values with
  | listed ranges => exact Edges.represents_ofRanges ranges
  | categorized categories => exact Edges.represents_ofCategories categories
  | complement values inductiveStep => exact inductiveStep.complement
  | union left right leftStep rightStep => exact leftStep.union rightStep
  | difference left right leftStep rightStep =>
      exact leftStep.difference rightStep

/-- The number of ranges in the tables that values are put together from. -/
def tableLength : Values → Nat
  | .listed ranges => ranges.length
  | .categorized categories =>
    categories.foldr (fun category total => category.ranges.length + total) 0
  | .complement values => values.tableLength + 1
  | .union left right => left.tableLength + right.tableLength
  | .difference left right => left.tableLength + right.tableLength

/-- There are no more edges than in the tables. -/
theorem length_edges_le (values : Values) :
    values.edges.length ≤ 2 * values.tableLength := by
  induction values with
  | listed ranges => exact Edges.length_ofRanges_le ranges
  | categorized categories =>
      rw [edges, tableLength]
      induction categories with
      | nil => exact Nat.le_refl 0
      | cons category categories inductiveStep =>
          have listed := Edges.length_ofRanges_le category.ranges
          have combined := Edges.length_combine_le (· || ·)
            (.ofRanges category.ranges) (.ofCategories categories)
          rw [Edges.ofCategories, List.foldr_cons, ← Edges.ofCategories,
            Edges.union, List.foldr_cons]
          omega
  | complement values inductiveStep =>
      have combined := Edges.length_combine_le
        (fun left right => left && !right) .all values.edges
      have ends : Edges.all.length = 2 := rfl
      rw [edges, Edges.difference, tableLength]
      omega
  | union left right leftStep rightStep =>
      have combined := Edges.length_combine_le (· || ·) left.edges right.edges
      rw [edges, Edges.union, tableLength]
      omega
  | difference left right leftStep rightStep =>
      have combined := Edges.length_combine_le
        (fun left right => left && !right) left.edges right.edges
      rw [edges, Edges.difference, tableLength]
      omega

end Values

end OrderedChoice.Unicode
