import Mathlib.Algebra.Order.BigOperators.Group.List
import Mathlib.Algebra.Order.Group.Nat
import Mathlib.Data.List.Flatten
import Mathlib.Data.List.SplitBy
import OrderedChoice.Proofs.Regex.Ranges
import OrderedChoice.Regex.Size

/-!
# Sizes of sets

The size of a set is bounded by the number of ways in which its characters are
encoded, in either direction, and that number by the edges of the set.  So it
need not be computed to see that a set fits.
-/

namespace OrderedChoice.Regex

/-! ## Ways of encoding -/

theorem length_of_mem_digitRanges {digits first last : Nat}
    {bytes : ByteRanges} (member : bytes ∈ digitRanges digits first last) :
    bytes.length = digits + 1 := by
  induction digits generalizing first last bytes with
  | zero =>
      rw [List.mem_singleton.mp member]
      rfl
  | succ digits inductiveStep =>
      have extended : ∀ {first last lead}, bytes ∈
          (digitRanges digits first last).map (lead :: ·) →
            bytes.length = digits + 1 + 1 := by
        intro first last lead inMap
        rcases List.mem_map.mp inMap with ⟨further, isFurther, rfl⟩
        rw [List.length_cons, inductiveStep isFurther]
      rw [digitRanges] at member
      dsimp only at member
      split at member
      · exact extended member
      · simp only [List.mem_append, List.mem_ite_nil_left,
          List.mem_ite_nil_right, List.mem_singleton] at member
        rcases member with (⟨_, first⟩ | ⟨_, rfl⟩) | ⟨_, last⟩
        · exact extended first
        · simp
        · exact extended last

theorem blockLength_pos (digits : Nat) : 0 < blockLength digits := by
  induction digits with
  | zero => exact Nat.one_pos
  | succ digits inductiveStep => exact Nat.mul_pos (by decide) inductiveStep

/-- Numbers up to the last one are cut at their start only. -/
theorem length_digitRanges_toLast_le (digits first : Nat) :
    (digitRanges digits first (blockLength (digits + 1) - 1)).length ≤
      digits + 1 := by
  induction digits generalizing first with
  | zero => exact Nat.le_refl 1
  | succ digits inductiveStep =>
      have positive := blockLength_pos (digits + 1)
      have ends :
          (blockLength (digits + 1 + 1) - 1) % blockLength (digits + 1) =
            blockLength (digits + 1) - 1 := by
        have whole : blockLength (digits + 1 + 1) - 1 =
            blockLength (digits + 1) - 1 + 63 * blockLength (digits + 1) := by
          rw [blockLength]
          omega
        rw [whole, Nat.add_mul_mod_self_right,
          Nat.mod_eq_of_lt (Nat.sub_lt positive Nat.one_pos)]
      have cut := inductiveStep (first % blockLength (digits + 1))
      rw [digitRanges]
      simp only [ends, Nat.sub_add_cancel positive, beq_self_eq_true, if_true,
        List.append_nil]
      split
      · rw [List.length_map]
        omega
      · rw [List.length_append]
        split <;> split <;> simp <;> omega

/-- Numbers from zero are cut at their end only. -/
theorem length_digitRanges_fromZero_le (digits last : Nat) :
    (digitRanges digits 0 last).length ≤ digits + 1 := by
  induction digits generalizing last with
  | zero => exact Nat.le_refl 1
  | succ digits inductiveStep =>
      have cut := inductiveStep (last % blockLength (digits + 1))
      rw [digitRanges]
      simp only [Nat.zero_mod, beq_self_eq_true, if_true, List.nil_append]
      split
      · rw [List.length_map]
        omega
      · rw [List.length_append]
        split <;> split <;> simp <;> omega

/-- Every digit adds one way at either end. -/
theorem length_digitRanges_le (digits first last : Nat) :
    (digitRanges digits first last).length ≤ 2 * digits + 1 := by
  induction digits generalizing first last with
  | zero => exact Nat.le_refl 1
  | succ digits inductiveStep =>
      have within := inductiveStep (first % blockLength (digits + 1))
        (last % blockLength (digits + 1))
      have cutAtStart := length_digitRanges_toLast_le digits
        (first % blockLength (digits + 1))
      have cutAtEnd := length_digitRanges_fromZero_le digits
        (last % blockLength (digits + 1))
      rw [digitRanges]
      dsimp only
      split
      · rw [List.length_map]
        omega
      · rw [List.length_append, List.length_append]
        split <;> split <;> split <;> simp <;> omega

/-- The characters of a range are encoded in at most sixteen ways. -/
theorem length_encodings_le (range : Nat × Nat) :
    (encodings range).length ≤ 16 := by
  have bound : ∀ length : EncodingLength,
      (length.encodings range).length ≤ 2 * length.further + 1 := by
    intro length
    rw [EncodingLength.encodings]
    split
    · rw [List.length_map]
      exact length_digitRanges_le _ _ _
    · exact Nat.zero_le _
  rw [encodings, List.length_flatMap]
  calc (encodingLengths.map fun length => (length.encodings range).length).sum
    _ ≤ (encodingLengths.map fun length => 2 * length.further + 1).sum :=
        List.sum_le_sum fun length _ => bound length
    _ = 16 := rfl

theorem length_le_of_mem_encodings {range : Nat × Nat} {bytes : ByteRanges}
    (member : bytes ∈ encodings range) : bytes.length ≤ 4 := by
  rcases List.mem_flatMap.mp member with ⟨length, isLength, inLength⟩
  have few : ∀ length ∈ encodingLengths, length.further ≤ 3 := by decide
  rw [EncodingLength.encodings] at inLength
  split at inLength
  · rcases List.mem_map.mp inLength with ⟨digits, isDigits, rfl⟩
    rw [List.length_modifyHead, length_of_mem_digitRanges isDigits]
    exact Nat.succ_le_succ (few length isLength)
  · cases inLength

/-! ## States -/

/-- Reading backward takes no more states than there are bytes. -/
theorem backwardStates_le (previous : ByteRanges)
    (encodings : List ByteRanges) :
    backwardStates previous encodings ≤ encodings.flatten.length := by
  induction encodings generalizing previous with
  | nil => exact Nat.le_refl 0
  | cons bytes others inductiveStep =>
      have later := inductiveStep bytes
      rw [backwardStates, List.flatten_cons, List.length_append]
      omega

/-- A state goes on in no more ways than there are encodings. -/
theorem length_byFirstRange_le (state : List ByteRanges) :
    (byFirstRange state).length ≤ state.length :=
  calc (byFirstRange state).length
    _ = ((byFirstRange state).map List.length).length :=
        (List.length_map _).symm
    _ ≤ ((byFirstRange state).map List.length).sum := by
        refine List.length_le_sum_of_one_le _ fun count isCount => ?_
        rcases List.mem_map.mp isCount with ⟨group, isGroup, rfl⟩
        exact List.length_pos_iff.mpr (List.ne_nil_of_mem_splitBy isGroup)
    _ = state.length := by
        rw [← List.length_flatten, byFirstRange, List.flatten_splitBy]

theorem ne_nil_of_mem_followingStates {state following : List ByteRanges}
    (member : following ∈ followingStates state) : following ≠ [] := by
  rcases List.mem_map.mp (List.mem_filter.mp member).1 with
    ⟨group, isGroup, rfl⟩
  exact mt List.map_eq_nil_iff.mp (List.ne_nil_of_mem_splitBy isGroup)

/-- What goes on from the states behind a state went on from that state. -/
theorem length_flatten_followingStates_le (state : List ByteRanges) :
    (followingStates state).flatten.length ≤ state.length :=
  calc (followingStates state).flatten.length
    _ ≤ ((byFirstRange state).map (·.map List.tail)).flatten.length :=
        List.filter_sublist.flatten.length_le
    _ = (byFirstRange state).flatten.length := by
        simp [List.length_flatten, Function.comp_def]
    _ = state.length := by rw [byFirstRange, List.flatten_splitBy]

theorem eraseDups_sublist {α : Type*} [BEq α] (items : List α) :
    items.eraseDups.Sublist items := by
  induction length : items.length using Nat.strong_induction_on
    generalizing items with
  | _ count inductiveStep =>
      cases items with
      | nil => exact .slnil
      | cons item items =>
          rw [List.eraseDups_cons]
          have kept := List.length_filter_le (fun other => !other == item) items
          rw [List.length_cons] at length
          exact ((inductiveStep _ (by omega) _ rfl).trans
            List.filter_sublist).cons_cons item

theorem length_flatten_nextStates_le (states : List (List ByteRanges)) :
    (nextStates states).flatten.length ≤ states.flatten.length := by
  refine (eraseDups_sublist _).flatten.length_le.trans ?_
  induction states with
  | nil => exact Nat.le_refl 0
  | cons state states inductiveStep =>
      have first := length_flatten_followingStates_le state
      rw [List.flatMap_cons, List.flatten_append, List.length_append,
        List.flatten_cons, List.length_append]
      omega

theorem ne_nil_of_mem_nextStates {states : List (List ByteRanges)}
    {state : List ByteRanges} (member : state ∈ nextStates states) :
    state ≠ [] := by
  rcases List.mem_flatMap.mp ((eraseDups_sublist _).mem member) with
    ⟨_, _, follows⟩
  exact ne_nil_of_mem_followingStates follows

/-- The states that are read forward through have at most the encodings four
times, once for every byte. -/
theorem length_flatten_forwardStates_le (encodings : List ByteRanges) :
    (forwardStates encodings).flatten.length ≤ 4 * encodings.length := by
  have second := length_flatten_nextStates_le [encodings]
  have third := length_flatten_nextStates_le (nextStates [encodings])
  have fourth :=
    length_flatten_nextStates_le (nextStates (nextStates [encodings]))
  have distinct := (eraseDups_sublist (nextStates [encodings] ++
    nextStates (nextStates [encodings]) ++
    nextStates (nextStates (nextStates [encodings])))).flatten.length_le
  simp only [List.flatten_append, List.length_append, List.flatten_cons,
    List.flatten_nil, List.append_nil, forwardStates] at second distinct ⊢
  omega

theorem ne_nil_of_mem_forwardStates {encodings state : List ByteRanges}
    (nonempty : encodings ≠ []) (member : state ∈ forwardStates encodings) :
    state ≠ [] := by
  rcases List.mem_cons.mp member with rfl | later
  · exact nonempty
  · have following := (eraseDups_sublist _).mem later
    simp only [List.mem_append] at following
    rcases following with (second | third) | fourth
    · exact ne_nil_of_mem_nextStates second
    · exact ne_nil_of_mem_nextStates third
    · exact ne_nil_of_mem_nextStates fourth

/-- Going on from states takes no more than 40 for every encoding that does. -/
theorem forwardSize_le {states : List (List ByteRanges)}
    (nonempty : ∀ state ∈ states, state ≠ []) :
    forwardSize states ≤ 40 * states.flatten.length := by
  induction states with
  | nil => exact Nat.le_refl 0
  | cons state states inductiveStep =>
      have others := inductiveStep fun other member =>
        nonempty other (List.mem_cons_of_mem state member)
      have some := List.length_pos_iff.mpr
        (nonempty state List.mem_cons_self)
      have ways := length_byFirstRange_le state
      simp only [forwardSize, List.flatten_cons, List.length_append, stateSize,
        rangeSize]
      omega

namespace CharSet

variable (members : CharSet)

theorem length_flatten_encodings_le :
    members.encodings.flatten.length ≤ 4 * members.encodings.length := by
  have short : ∀ bytes ∈ members.encodings, bytes.length ≤ 4 := by
    intro bytes member
    rcases List.mem_flatMap.mp member with ⟨range, _, inRange⟩
    exact length_le_of_mem_encodings inRange
  generalize members.encodings = encodings at short
  induction encodings with
  | nil => exact Nat.le_refl 0
  | cons bytes others inductiveStep =>
      rw [List.flatten_cons, List.length_append, List.length_cons]
      have first := short bytes List.mem_cons_self
      have later := inductiveStep fun other member =>
        short other (List.mem_cons_of_mem bytes member)
      omega

/-- A set takes no more than 160 for every way in which its characters are
encoded, besides two states. -/
theorem size_le_of_encodings (direction : Direction) :
    members.size direction ≤ 64 + 160 * members.encodings.length := by
  have bytes := members.length_flatten_encodings_le
  simp only [size, stateSize, rangeSize, entrySize]
  split
  · omega
  split
  · omega
  rename_i notAscii
  have nonempty : members.encodings ≠ [] := by
    intro empty
    rw [empty] at notAscii
    exact notAscii rfl
  cases direction with
  | forward =>
      have states := forwardSize_le fun _ =>
        ne_nil_of_mem_forwardStates nonempty
      have all := length_flatten_forwardStates_le members.encodings
      dsimp only
      omega
  | backward =>
      have states := backwardStates_le [] members.encodings
      dsimp only
      omega

/-- The encodings of a set are at most sixteen for each of its ranges. -/
theorem length_encodings_le :
    members.encodings.length ≤ 16 * members.ranges.length := by
  rw [encodings, List.length_flatMap]
  calc (members.ranges.map fun range => (Regex.encodings range).length).sum
    _ ≤ (members.ranges.map fun _ => 16).sum :=
        List.sum_le_sum fun range _ => Regex.length_encodings_le range
    _ = 16 * members.ranges.length := by simp [Nat.mul_comm]

/-- Every two edges of a set stand for a range, of which there may be one more
for the surrogates that are left out. -/
theorem size_le_of_edges (direction : Direction) :
    members.size direction ≤ 1280 * members.edges.length + 3904 := by
  have size := members.size_le_of_encodings direction
  have ways := members.length_encodings_le
  have ranges := Unicode.Edges.length_ranges_le
    (members.edges.difference surrogates)
  have edges := Unicode.Edges.length_combine_le
    (fun left right => left && !right) members.edges surrogates
  have ends : surrogates.length = 2 := rfl
  rw [← CharSet.ranges] at ranges
  rw [← Unicode.Edges.difference] at edges
  omega

end CharSet

/-- The characters of words come from 2823 ranges in the tables. -/
theorem length_wordEdges_le : wordValues.edges.length ≤ 5646 := by
  have counted : wordValues.tableLength = 2823 := by decide +kernel
  have listed := wordValues.length_edges_le
  rwa [counted] at listed

/-- A run of at least or just so many characters of a set is not too large, if
there are few enough of them for the edges that the set has. -/
theorem Term.fits_run {members : CharSet} {count : Nat} {max : Option Nat}
    (some : 0 < count) (counted : ∀ most ∈ max, most = count)
    (few : count * (1280 * members.edges.length + 3904) ≤ 10000000)
    (greedy : Bool) :
    (Term.repetition (.set members) count max greedy).fits = true := by
  have turns : ∀ size, repetitionSize true size count max ≤
      count * size + choiceSize := by
    intro size
    cases max with
    | none => rw [repetitionSize, if_neg (Nat.ne_of_gt some)]
    | some most =>
        rw [counted most rfl, repetitionSize, if_pos rfl,
          if_neg fun none => absurd none.1 (Nat.ne_of_gt some)]
        exact Nat.le_add_right _ _
  have within : ∀ direction,
      (Term.repetition (.set members) count max greedy).automatonSize
        direction ≤ sizeLimit := by
    intro direction
    have size := Nat.mul_le_mul_left count
      (members.size_le_of_edges direction)
    have run := turns (members.size direction)
    have group : direction.groupSize ≤ 64 := by cases direction <;> decide
    simp only [automatonSize, Term.size, Place.entrySize, crossesSome,
      Nat.zero_add, choiceSize, stateSize, entrySize, rangeSize, sizeLimit]
      at run ⊢
    omega
  rw [fits, decide_eq_true (within _), decide_eq_true (within _)]
  rfl

/-- White space may be counted to three hundred. -/
example : (Term.repetition (.set .space) 300 (some 300) true).fits = true := by
  decide +kernel

end OrderedChoice.Regex
