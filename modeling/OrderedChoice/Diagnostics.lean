/-!
# Diagnostics

What a parse attempt knows about failure: the furthest offset at which a leaf
parser failed, and the set of things expected there.  Merging keeps whichever
side got further and unites the expectations when both got equally far; no
offset at all counts as below every offset.

Expectation sets are strictly ascending lists, so two sets with the same
members are equal.
-/

namespace OrderedChoice

/-! ## Sets of expectations -/

/-- A finite set of descriptions, kept in ascending order of their characters. -/
structure Expectations where
  items : List String
  ascending : items.Pairwise (· < ·)
deriving DecidableEq

namespace Expectations

instance : Membership String Expectations where
  mem expectations item := item ∈ expectations.items

theorem mem_def {item : String} {expectations : Expectations} :
    item ∈ expectations ↔ item ∈ expectations.items := Iff.rfl

/-- The set without members. -/
def empty : Expectations := ⟨[], .nil⟩

instance : EmptyCollection Expectations := ⟨empty⟩

/-- The set with one member. -/
def singleton (item : String) : Expectations :=
  ⟨[item], List.pairwise_singleton _ _⟩

/--
Merge an ascending list that starts with `first` into another one, given how
its remaining items `left` merge.
-/
def mergeAfter (first : String) (left : List String)
    (mergeLeft : List String → List String) : List String → List String
  | [] => first :: left
  | second :: right =>
    if first < second then
      first :: mergeLeft (second :: right)
    else if second < first then
      second :: mergeAfter first left mergeLeft right
    else
      first :: mergeLeft right

/-- Merge two ascending lists, keeping one copy of what they share. -/
def mergeItems : List String → List String → List String
  | [] => fun right => right
  | first :: left => mergeAfter first left (mergeItems left)

theorem eq_of_not_lt {left right : String} (notBelow : ¬ left < right)
    (notAbove : ¬ right < left) : left = right :=
  String.le_antisymm (String.not_lt.mp notAbove) (String.not_lt.mp notBelow)

theorem mem_mergeItems {item : String} (left right : List String) :
    item ∈ mergeItems left right ↔ item ∈ left ∨ item ∈ right := by
  induction left generalizing right with
  | nil => simp [mergeItems]
  | cons first left leftStep =>
    induction right with
    | nil => simp [mergeItems, mergeAfter]
    | cons second right rightStep =>
      rw [mergeItems] at rightStep ⊢
      rw [mergeAfter]
      split
      · simp only [List.mem_cons, leftStep]
        grind
      · split
        · simp only [List.mem_cons, rightStep]
          grind
        · rename_i notBelow notAbove
          have same := eq_of_not_lt notBelow notAbove
          simp only [List.mem_cons, leftStep]
          grind

theorem pairwise_mergeItems (left right : List String)
    (leftAscending : left.Pairwise (· < ·))
    (rightAscending : right.Pairwise (· < ·)) :
    (mergeItems left right).Pairwise (· < ·) := by
  induction left generalizing right with
  | nil => exact rightAscending
  | cons first left leftStep =>
    have firstBelow := (List.pairwise_cons.mp leftAscending).1
    have leftRest := (List.pairwise_cons.mp leftAscending).2
    induction right with
    | nil => exact leftAscending
    | cons second right rightStep =>
      have secondBelow := (List.pairwise_cons.mp rightAscending).1
      have rightRest := (List.pairwise_cons.mp rightAscending).2
      rw [mergeItems] at rightStep ⊢
      rw [mergeAfter]
      split
      · rename_i below
        refine List.pairwise_cons.mpr
          ⟨fun item member => ?_, leftStep _ leftRest rightAscending⟩
        rcases (mem_mergeItems _ _).mp member with inLeft | inRight
        · exact firstBelow item inLeft
        · rcases List.mem_cons.mp inRight with rfl | inRight
          · exact below
          · exact String.lt_trans below (secondBelow item inRight)
      · split
        · rename_i notBelow above
          refine List.pairwise_cons.mpr
            ⟨fun item member => ?_, rightStep rightRest⟩
          rcases (mem_mergeItems (first :: left) _).mp member with
            inLeft | inRight
          · rcases List.mem_cons.mp inLeft with rfl | inLeft
            · exact above
            · exact String.lt_trans above (firstBelow item inLeft)
          · exact secondBelow item inRight
        · rename_i notBelow notAbove
          have same := eq_of_not_lt notBelow notAbove
          subst same
          refine List.pairwise_cons.mpr
            ⟨fun item member => ?_, leftStep _ leftRest rightRest⟩
          rcases (mem_mergeItems _ _).mp member with inLeft | inRight
          · exact firstBelow item inLeft
          · exact secondBelow item inRight

/-- The members of both sets. -/
def union (left right : Expectations) : Expectations where
  items := mergeItems left.items right.items
  ascending := pairwise_mergeItems _ _ left.ascending right.ascending

instance : Union Expectations := ⟨union⟩

theorem mem_union {item : String} {left right : Expectations} :
    item ∈ left ∪ right ↔ item ∈ left ∨ item ∈ right :=
  mem_mergeItems left.items right.items

/-- The set of the items of a list. -/
def ofList (items : List String) : Expectations :=
  items.foldl (fun expectations item => expectations ∪ singleton item) ∅

/-- The members in ascending order. -/
def toList (expectations : Expectations) : List String :=
  expectations.items

end Expectations

/-! ## Furthest failures -/

/-- The furthest failure seen so far and what was expected there. -/
structure Diagnostics where
  furthest : Option Nat
  expected : Expectations
deriving DecidableEq

namespace Diagnostics

/-- No failure seen. -/
def none : Diagnostics := ⟨.none, ∅⟩

instance : Inhabited Diagnostics := ⟨none⟩

/-- One failure at an offset. -/
def single (offset : Nat) (expected : String) : Diagnostics :=
  ⟨some offset, .singleton expected⟩

/-- Order two furthest offsets; the absent one is below every offset. -/
def compareFurthest : Option Nat → Option Nat → Ordering
  | .none, .none => .eq
  | .none, some _ => .lt
  | some _, .none => .gt
  | some left, some right => compare left right

/-- Keep the side that got further; unite the expectations of equals. -/
def merge (recent prior : Diagnostics) : Diagnostics :=
  match compareFurthest recent.furthest prior.furthest with
  | .gt => recent
  | .eq => ⟨recent.furthest, recent.expected ∪ prior.expected⟩
  | .lt => prior

/-- Merge with what was known before, if anything was. -/
def mergePrior (recent : Diagnostics) : Option Diagnostics → Diagnostics
  | .none => recent
  | some prior => recent.merge prior

/-- What is known after each of a series of attempts. -/
def accumulate (prior : Option Diagnostics) :
    List Diagnostics → List Diagnostics
  | [] => []
  | recent :: later =>
    let known := recent.mergePrior prior
    known :: accumulate (some known) later

end Diagnostics

end OrderedChoice
