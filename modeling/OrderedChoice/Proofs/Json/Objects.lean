import OrderedChoice.Grammar.Json

/-!
# Members of objects

An object is built from its pairs one by one.  The members come out ascending by
key, and each key holds the value of the last pair that was written with it;
this determines them.
-/

namespace OrderedChoice.Json

/-- Members ascend by key, so no key occurs twice. -/
def Ascending (members : List (String × Json)) : Prop :=
  members.Pairwise fun earlier later => earlier.1 < later.1

/-- Members are those of pairs in the order written: they ascend by key, and each
key has the value that was written last. -/
structure Collects (pairs members : List (String × Json)) : Prop where
  ascending : Ascending members
  last : ∀ key, members.lookup key = pairs.reverse.lookup key

variable {key other : String} {value : Json}
  {members others : List (String × Json)}

/-! ## Inserting a member -/

theorem lookup_pair_cons (key : String) (pair : String × Json)
    (members : List (String × Json)) :
    (pair :: members).lookup key =
      if key = pair.1 then some pair.2 else members.lookup key := by
  rw [List.lookup_cons]
  by_cases same : key = pair.1
  · rw [if_pos same, beq_iff_eq.mpr same]
  · rw [if_neg same, beq_eq_false_iff_ne.mpr same]

theorem lookup_insertMember (sought key : String) (value : Json)
    (members : List (String × Json)) :
    (insertMember key value members).lookup sought =
      if sought = key then some value else members.lookup sought := by
  induction members with
  | nil => rw [insertMember, lookup_pair_cons]
  | cons held members inductiveStep =>
      rcases held with ⟨other, kept⟩
      rw [insertMember]
      by_cases before : key < other
      · rw [if_pos before, lookup_pair_cons]
      · rw [if_neg before]
        by_cases behind : other < key
        · rw [if_pos behind, lookup_pair_cons, inductiveStep, lookup_pair_cons]
          by_cases same : sought = other
          · have differs : sought ≠ key := by
              rintro rfl
              rw [same] at behind
              exact String.lt_irrefl _ behind
            rw [if_pos same, if_neg differs, if_pos same]
          · rw [if_neg same, if_neg same]
        · have same : key = other := Expectations.eq_of_not_lt before behind
          rw [if_neg behind, lookup_pair_cons, lookup_pair_cons, same]
          by_cases found : sought = other
          · rw [if_pos found, if_pos found]
          · rw [if_neg found, if_neg found, if_neg found]

/-- Every key of the result is the new one or was there. -/
theorem key_mem_insertMember {pair : String × Json}
    (member : pair ∈ insertMember key value members) :
    pair.1 = key ∨ ∃ held ∈ members, held.1 = pair.1 := by
  induction members with
  | nil =>
      rw [insertMember] at member
      rw [List.mem_singleton.mp member]
      exact Or.inl rfl
  | cons held members inductiveStep =>
      rcases held with ⟨other, kept⟩
      rw [insertMember] at member
      split at member
      · rcases List.mem_cons.mp member with rfl | inOld
        · exact Or.inl rfl
        · exact Or.inr ⟨pair, inOld, rfl⟩
      · split at member
        · rcases List.mem_cons.mp member with rfl | inLater
          · exact Or.inr ⟨_, List.mem_cons_self, rfl⟩
          · rcases inductiveStep inLater with new | ⟨held, inMembers, same⟩
            · exact Or.inl new
            · exact Or.inr ⟨held, List.mem_cons_of_mem _ inMembers, same⟩
        · rcases List.mem_cons.mp member with rfl | inLater
          · exact Or.inl rfl
          · exact Or.inr ⟨pair, List.mem_cons_of_mem _ inLater, rfl⟩

theorem ascending_insertMember (key : String) (value : Json)
    (ascending : Ascending members) :
    Ascending (insertMember key value members) := by
  induction members with
  | nil => exact List.pairwise_singleton _ _
  | cons held members inductiveStep =>
      rcases held with ⟨other, kept⟩
      rcases List.pairwise_cons.mp ascending with ⟨above, rest⟩
      rw [insertMember]
      by_cases before : key < other
      · rw [if_pos before]
        apply List.pairwise_cons.mpr
        refine ⟨?_, ascending⟩
        intro later member
        rcases List.mem_cons.mp member with rfl | inRest
        · exact before
        · exact String.lt_trans before (above later inRest)
      · rw [if_neg before]
        by_cases behind : other < key
        · rw [if_pos behind]
          apply List.pairwise_cons.mpr
          refine ⟨?_, inductiveStep rest⟩
          intro later member
          rcases key_mem_insertMember member with new | ⟨held, inRest, same⟩
          · rw [new]
            exact behind
          · rw [← same]
            exact above held inRest
        · have same : key = other := Expectations.eq_of_not_lt before behind
          rw [if_neg behind, same]
          exact List.pairwise_cons.mpr ⟨above, rest⟩

/-! ## Members and lookups -/

theorem lookup_eq_none_of_lt
    (above : ∀ held ∈ members, key < held.1) : members.lookup key = none := by
  induction members with
  | nil => rfl
  | cons held members inductiveStep =>
      have differs : key ≠ held.1 := by
        intro same
        have below := above held List.mem_cons_self
        rw [same] at below
        exact String.lt_irrefl _ below
      rw [lookup_pair_cons, if_neg differs]
      exact inductiveStep fun later member =>
        above later (List.mem_cons_of_mem _ member)

/-- Ascending members are determined by what their keys hold. -/
theorem eq_of_lookup_eq
    (ascending : Ascending members) (othersAscending : Ascending others)
    (same : ∀ key, members.lookup key = others.lookup key) :
    members = others := by
  induction members generalizing others with
  | nil =>
      cases others with
      | nil => rfl
      | cons held others =>
          have found := same held.1
          rw [lookup_pair_cons, if_pos rfl] at found
          cases found
  | cons first members inductiveStep =>
      rcases List.pairwise_cons.mp ascending with ⟨above, rest⟩
      cases others with
      | nil =>
          have found := same first.1
          rw [lookup_pair_cons, if_pos rfl] at found
          cases found
      | cons second others =>
          rcases List.pairwise_cons.mp othersAscending with
            ⟨othersAbove, othersRest⟩
          have notBefore : ¬ first.1 < second.1 := by
            intro before
            have found := same first.1
            rw [lookup_pair_cons, if_pos rfl, lookup_eq_none_of_lt] at found
            · cases found
            · intro held member
              rcases List.mem_cons.mp member with rfl | inOthers
              · exact before
              · exact String.lt_trans before (othersAbove held inOthers)
          have notBehind : ¬ second.1 < first.1 := by
            intro behind
            have found := same second.1
            rw [lookup_eq_none_of_lt, lookup_pair_cons, if_pos rfl] at found
            · cases found
            · intro held member
              rcases List.mem_cons.mp member with rfl | inMembers
              · exact behind
              · exact String.lt_trans behind (above held inMembers)
          have sameKey : first.1 = second.1 :=
            Expectations.eq_of_not_lt notBefore notBehind
          have sameValue : first.2 = second.2 := by
            have found := same first.1
            rw [lookup_pair_cons, if_pos rfl, lookup_pair_cons,
              if_pos sameKey] at found
            exact Option.some.inj found
          have sameRest : ∀ key, members.lookup key = others.lookup key := by
            intro key
            by_cases isFirst : key = first.1
            · rw [isFirst, lookup_eq_none_of_lt above, sameKey,
                lookup_eq_none_of_lt othersAbove]
            · have found := same key
              rw [lookup_pair_cons, if_neg isFirst, lookup_pair_cons,
                if_neg (sameKey ▸ isFirst)] at found
              exact found
          rw [inductiveStep rest othersRest sameRest,
            Prod.ext sameKey sameValue]

/-! ## Objects from pairs -/

theorem collects_foldl (pairs : List (String × Json))
    (ascending : Ascending members) :
    Ascending (pairs.foldl
      (fun members pair => insertMember pair.1 pair.2 members) members) ∧
    ∀ key,
      (pairs.foldl (fun members pair => insertMember pair.1 pair.2 members)
        members).lookup key =
        (pairs.reverse.lookup key).or (members.lookup key) := by
  induction pairs generalizing members with
  | nil => exact ⟨ascending, fun key => rfl⟩
  | cons pair pairs inductiveStep =>
      rcases inductiveStep (ascending_insertMember pair.1 pair.2 ascending)
        with ⟨sorted, holds⟩
      refine ⟨sorted, ?_⟩
      intro key
      rw [List.foldl_cons, holds key, lookup_insertMember, List.reverse_cons,
        List.lookup_append, lookup_pair_cons]
      by_cases isLast : key = pair.1
      · rw [if_pos isLast, if_pos isLast]
        cases pairs.reverse.lookup key <;> rfl
      · rw [if_neg isLast, if_neg isLast]
        cases pairs.reverse.lookup key <;> rfl

/-- The object of some pairs has the members that they make up. -/
theorem ofPairs_eq_object_iff {pairs : List (String × Json)} :
    ofPairs pairs = .object members ↔ Collects pairs members := by
  have none : Ascending [] := .nil
  rcases collects_foldl pairs none with ⟨sorted, holds⟩
  have found : ∀ key,
      (pairs.foldl (fun members pair => insertMember pair.1 pair.2 members)
        []).lookup key = pairs.reverse.lookup key := by
    intro key
    rw [holds key]
    exact Option.or_none
  rw [ofPairs, Json.object.injEq]
  constructor
  · rintro rfl
    exact ⟨sorted, found⟩
  · rintro ⟨ascending, last⟩
    exact eq_of_lookup_eq sorted ascending fun key =>
      (found key).trans (last key).symm

end OrderedChoice.Json
