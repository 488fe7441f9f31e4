import Mathlib.Data.List.Nodup
import OrderedChoice.Proofs.Parser.Literals

/-!
# Choices of literals

A choice between literals tries them by decreasing length, and those of one
length as they were declared.  So the first that stands at the start of what
remains is the longest that does, and of members with one spelling the one
declared first.  What was tried before it, all of it in vain, is what the choice
reports: a longer spelling or one of the same length each time.

The order is described without a sort, by what is in front of what, and there is
only one such order.  A list of texts is an enumeration of texts that spell
themselves.
-/

namespace OrderedChoice

/-! ## Ranking by size -/

/-- Items ranked by a size: the larger stand in front of the smaller, and those
of one size as they were given. -/
structure Ranks {α : Type} (size : α → Nat) (items ranked : List α) : Prop where
  descending : ranked.Pairwise fun left right => size right ≤ size left
  stable : ∀ count, (ranked.filter fun item => size item = count) =
    items.filter fun item => size item = count

namespace Ranks

variable {α : Type} {size : α → Nat} {items ranked : List α}

theorem mem_iff (ranks : Ranks size items ranked) {item : α} :
    item ∈ ranked ↔ item ∈ items := by
  have same : item ∈ ranked.filter (fun other => size other = size item) ↔
      item ∈ items.filter (fun other => size other = size item) := by
    rw [ranks.stable]
  simpa using same

/-- Which item of one size is the first of its kind does not change. -/
theorem find?_eq (ranks : Ranks size items ranked) {accepts : α → Bool}
    {count : Nat} (alike : ∀ item, accepts item = true → size item = count) :
    ranked.find? accepts = items.find? accepts := by
  have within : ∀ list : List α, list.find? accepts =
      (list.filter fun item => size item = count).find? accepts := by
    intro list
    rw [List.find?_filter]
    congr 1
    funext item
    cases accepted : accepts item with
    | false => simp
    | true => simp [alike item accepted]
  rw [within ranked, within items, ranks.stable]

/-- In front stands what already stood in front, if the items were ranked
before: neither of the two is larger than the other. -/
theorem head_eq {first second : α}
    (descending : (first :: items).Pairwise fun left right =>
      size right ≤ size left)
    (ranks : Ranks size (first :: items) (second :: ranked)) :
    second = first := by
  have above : size second ≤ size first := by
    rcases List.mem_cons.mp (ranks.mem_iff.mp List.mem_cons_self) with
      rfl | member
    · exact Nat.le_refl _
    · exact (List.pairwise_cons.mp descending).1 second member
  have below : size first ≤ size second := by
    rcases List.mem_cons.mp (ranks.mem_iff.mpr List.mem_cons_self) with
      rfl | member
    · exact Nat.le_refl _
    · exact (List.pairwise_cons.mp ranks.descending).1 first member
  have same := ranks.stable (size second)
  rw [List.filter_cons_of_pos (by simp),
    List.filter_cons_of_pos (by simp; omega)] at same
  exact (List.cons.inj same).1

theorem tail {first : α} (ranks : Ranks size (first :: items) (first :: ranked)) :
    Ranks size items ranked where
  descending := (List.pairwise_cons.mp ranks.descending).2
  stable := by
    intro count
    have same := ranks.stable count
    by_cases counted : size first = count
    · simpa [List.filter_cons, counted] using same
    · simpa [List.filter_cons, counted] using same

/-- Items that were ranked before stay as they are. -/
theorem eq_of_descending
    (descending : items.Pairwise fun left right => size right ≤ size left)
    (ranks : Ranks size items ranked) : ranked = items := by
  induction items generalizing ranked with
  | nil =>
      refine List.eq_nil_iff_forall_not_mem.mpr fun item member => ?_
      cases ranks.mem_iff.mp member
  | cons first items inductiveStep =>
      cases ranked with
      | nil => cases ranks.mem_iff.mpr List.mem_cons_self
      | cons second ranked =>
          have same := ranks.head_eq descending
          subst same
          rw [inductiveStep (List.pairwise_cons.mp descending).2 ranks.tail]

/-- There is one way to rank items. -/
theorem unique {other : List α} (ranks : Ranks size items ranked)
    (ranksToo : Ranks size items other) : ranked = other := by
  have again : Ranks size other ranked :=
    ⟨ranks.descending, fun count =>
      (ranks.stable count).trans (ranksToo.stable count).symm⟩
  exact again.eq_of_descending ranksToo.descending

end Ranks

/-- Sorting by decreasing size ranks, as it keeps the order of equals. -/
theorem ranks_mergeSort {α : Type} (size : α → Nat) (items : List α) :
    Ranks size items
      (items.mergeSort fun left right => decide (size right ≤ size left)) := by
  let before : α → α → Bool := fun left right =>
    decide (size right ≤ size left)
  have trans : ∀ first second third, before first second = true →
      before second third = true → before first third = true := by
    intro first second third
    simp only [before, decide_eq_true_eq]
    omega
  have total : ∀ first second,
      (before first second || before second first) = true := by
    intro first second
    simp only [before, Bool.or_eq_true, decide_eq_true_eq]
    omega
  constructor
  · simpa [before] using List.pairwise_mergeSort trans total items
  · intro count
    let counted : α → Bool := fun item => size item = count
    have level : (items.filter counted).Pairwise fun left right =>
        before left right = true := by
      refine List.pairwise_of_forall_mem_list ?_
      intro left inLeft right inRight
      have leftSize := List.of_mem_filter inLeft
      have rightSize := List.of_mem_filter inRight
      simp only [counted, decide_eq_true_eq] at leftSize rightSize
      simp [before, leftSize, rightSize]
    have kept := (List.sublist_mergeSort trans total level
      List.filter_sublist).filter counted
    rw [List.filter_filter] at kept
    simp only [Bool.and_self] at kept
    exact (kept.eq_of_length
      ((List.mergeSort_perm items before).filter counted).length_eq.symm).symm

/-! ## Spellings -/

namespace Parser

variable {R : Type → Type} {α : Type} {rules : Rules R} {source : Source}
  {index : Nat}

theorem gives_spelling {text : String} {value : α} {rest : List Char}
    (remains : source.rest index = some rest)
    (starts : text.toList <+: rest) :
    (result (literal text) value : Parser R α).Gives rules source index
      (.success (index + text.utf8ByteSize) value) := by
  have gives : (literal text : Parser R String).Gives rules source index _ :=
    gives_literal remains starts
  rw [byteLength_toList] at gives
  exact gives_map _ gives

theorem gives_spelling_failed {text : String} {value : α} {rest : List Char}
    (remains : source.rest index = some rest)
    (differs : ¬ text.toList <+: rest) :
    (result (literal text) value : Parser R α).Gives rules source index
      ⟨.failure, .single index text⟩ :=
  gives_map _ (gives_literal_failed remains differs)

end Parser

/-! ## The longest spelling -/

namespace Enumeration

variable {α : Type}

/-- The texts of a list, which spell themselves. -/
def ofTexts (texts : List String) : Enumeration String where
  members := texts
  spelling := id

/-- The number of characters that a member is spelled with. -/
def size (enumeration : Enumeration α) (member : α) : Nat :=
  (enumeration.spelling member).length

/-- The members in the order in which a choice tries them. -/
def Tries (enumeration : Enumeration α) (tried : List α) : Prop :=
  Ranks enumeration.size enumeration.members tried

/-- Of the members whose spellings stand at the start of what remains, one has a
spelling as long as any, and is the first that is declared with it. -/
structure Longest (enumeration : Enumeration α) (rest : List Char)
    (member : α) : Prop where
  starts : (enumeration.spelling member).toList <+: rest
  longest : ∀ other ∈ enumeration.members,
    (enumeration.spelling other).toList <+: rest →
    enumeration.size other ≤ enumeration.size member
  declared : enumeration.members.find?
    (fun other => enumeration.spelling other = enumeration.spelling member) =
      some member

/-- What a choice of the spellings comes to at an offset where this remains. -/
inductive Chooses (enumeration : Enumeration α) (rest : List Char)
    (index : Nat) : ParseResult α → Prop where
  | chosen {member : α} {earlier later : List α}
      (longest : enumeration.Longest rest member)
      (tries : enumeration.Tries (earlier ++ member :: later))
      (first : ∀ other ∈ earlier,
        enumeration.spelling other ≠ enumeration.spelling member) :
      Chooses enumeration rest index
        ⟨.success (index + (enumeration.spelling member).utf8ByteSize) member,
          .expecting index (earlier.map enumeration.spelling)⟩
  | refused (some : enumeration.members ≠ [])
      (differs : ∀ member ∈ enumeration.members,
        ¬ (enumeration.spelling member).toList <+: rest) :
      Chooses enumeration rest index
        ⟨.failure,
          .expecting index (enumeration.members.map enumeration.spelling)⟩
  | empty (none : enumeration.members = []) :
      Chooses enumeration rest index (.failure index "no alternatives")

variable {enumeration : Enumeration α} {rest : List Char} {member : α}

/-- Of one length only one spelling stands at the start of what remains. -/
theorem spelling_eq_of_size_eq {other : α}
    (starts : (enumeration.spelling member).toList <+: rest)
    (startsToo : (enumeration.spelling other).toList <+: rest)
    (level : enumeration.size other = enumeration.size member) :
    enumeration.spelling other = enumeration.spelling member := by
  rw [← String.toList_inj, List.prefix_iff_eq_take.mp starts,
    List.prefix_iff_eq_take.mp startsToo, String.length_toList,
    String.length_toList]
  exact congrArg (rest.take ·) level

theorem Longest.mem (longest : enumeration.Longest rest member) :
    member ∈ enumeration.members :=
  List.mem_of_find?_eq_some longest.declared

/-- Of all members one is the first with the longest spelling. -/
theorem Longest.unique {other : α} (longest : enumeration.Longest rest member)
    (longestToo : enumeration.Longest rest other) : member = other := by
  have level : enumeration.size other = enumeration.size member :=
    Nat.le_antisymm
      (longest.longest other longestToo.mem longestToo.starts)
      (longestToo.longest member longest.mem longest.starts)
  have same := spelling_eq_of_size_eq longest.starts longestToo.starts level
  have declared := longestToo.declared
  rw [same, longest.declared] at declared
  exact Option.some.inj declared

/-- Before the longest spelling that stands there, only others are tried that do
not. -/
theorem Longest.differs_of_earlier (longest : enumeration.Longest rest member)
    {earlier later : List α}
    (tries : enumeration.Tries (earlier ++ member :: later))
    (first : ∀ other ∈ earlier,
      enumeration.spelling other ≠ enumeration.spelling member) :
    ∀ other ∈ earlier, ¬ (enumeration.spelling other).toList <+: rest := by
  intro other inEarlier starts
  have declared : other ∈ enumeration.members :=
    tries.mem_iff.mp (List.mem_append_left _ inEarlier)
  have atMost := longest.longest other declared starts
  have atLeast : enumeration.size member ≤ enumeration.size other :=
    (List.pairwise_append.mp tries.descending).2.2 other inEarlier member
      List.mem_cons_self
  exact first other inEarlier
    (spelling_eq_of_size_eq longest.starts starts (by omega))

/-- Where a spelling stands, one of those that do is tried first. -/
theorem exists_first_standing {tried : List α} (inTried : member ∈ tried)
    (starts : (enumeration.spelling member).toList <+: rest) :
    ∃ earlier first later, tried = earlier ++ first :: later ∧
      (enumeration.spelling first).toList <+: rest ∧
      ∀ other ∈ earlier, ¬ (enumeration.spelling other).toList <+: rest := by
  induction tried with
  | nil => cases inTried
  | cons candidate tried inductiveStep =>
      by_cases startsHere : (enumeration.spelling candidate).toList <+: rest
      · exact ⟨[], candidate, tried, rfl, startsHere, nofun⟩
      · have inLater : member ∈ tried := by
          rcases List.mem_cons.mp inTried with rfl | inLater
          · exact absurd starts startsHere
          · exact inLater
        rcases inductiveStep inLater with
          ⟨earlier, first, later, rfl, startsFirst, differs⟩
        exact ⟨candidate :: earlier, first, later, rfl, startsFirst,
          List.forall_mem_cons.mpr ⟨startsHere, differs⟩⟩

/-- The first spelling tried that stands there is the longest. -/
theorem longest_of_tries {earlier later : List α}
    (tries : enumeration.Tries (earlier ++ member :: later))
    (starts : (enumeration.spelling member).toList <+: rest)
    (differs : ∀ other ∈ earlier,
      ¬ (enumeration.spelling other).toList <+: rest) :
    enumeration.Longest rest member where
  starts := starts
  longest := by
    intro other declared startsOther
    rcases List.mem_append.mp (tries.mem_iff.mpr declared) with
      inEarlier | inRest
    · exact absurd startsOther (differs other inEarlier)
    · rcases List.mem_cons.mp inRest with rfl | inLater
      · exact Nat.le_refl _
      · have descending := (List.pairwise_append.mp tries.descending).2.1
        exact (List.pairwise_cons.mp descending).1 other inLater
  declared := by
    have alike : ∀ other, decide (enumeration.spelling other =
        enumeration.spelling member) = true →
          enumeration.size other = enumeration.size member := by
      intro other same
      rw [decide_eq_true_eq] at same
      rw [size, same, size]
    rw [← tries.find?_eq alike]
    refine List.find?_eq_some_iff_append.mpr
      ⟨by simp, earlier, later, rfl, ?_⟩
    intro other inEarlier
    have apart : enumeration.spelling other ≠ enumeration.spelling member := by
      intro same
      apply differs other inEarlier
      rw [same]
      exact starts
    simpa using apart

end Enumeration

/-! ## Choices of spellings -/

namespace Parser

variable {R : Type → Type} {α : Type} {rules : Rules R} {source : Source}
  {index : Nat} {enumeration : Enumeration α} {rest : List Char}

/-- The members of an enumeration, ranked as the choice tries them. -/
theorem exists_tries (enumeration : Enumeration α) :
    ∃ tried, enumeration.Tries tried ∧
      (fromEnum enumeration : Parser R α) = firstOf (tried.map fun member =>
        result (literal (enumeration.spelling member)) member) := by
  refine ⟨_, ranks_mergeSort enumeration.size enumeration.members, ?_⟩
  rw [fromEnum, literalChoice, longestFirst, spellings, ← List.map_mergeSort,
    List.map_map]
  · rfl
  · intro left _ right _
    rfl

theorem fromEnum_eq {tried : List α} (tries : enumeration.Tries tried) :
    (fromEnum enumeration : Parser R α) = firstOf (tried.map fun member =>
      result (literal (enumeration.spelling member)) member) := by
  rcases exists_tries enumeration with ⟨ranked, triesToo, same⟩
  rw [same, tries.unique triesToo]

/-- The spellings tried in vain are reported together. -/
theorem expecting_spellings (tried : List α) :
    Diagnostics.mergeAll (tried.map fun member =>
        .single index (enumeration.spelling member)) =
      .expecting index (tried.map enumeration.spelling) := by
  rw [← Diagnostics.mergeAll_singles, List.map_map]
  rfl

/-- Where none of several spellings stands each is expected. -/
theorem allFail_spellings (remains : source.rest index = some rest)
    {tried : List α}
    (differs : ∀ member ∈ tried,
      ¬ (enumeration.spelling member).toList <+: rest) :
    AllFail rules source index
      (tried.map fun member =>
        result (literal (enumeration.spelling member)) member)
      (tried.map fun member => .single index (enumeration.spelling member)) := by
  rw [AllFail, List.forall₂_map_left_iff, List.forall₂_map_right_iff,
    List.forall₂_same]
  exact fun member inTried =>
    gives_spelling_failed remains (differs member inTried)

theorem gives_of_chooses (remains : source.rest index = some rest)
    {ending : ParseResult α} (chooses : enumeration.Chooses rest index ending) :
    (fromEnum enumeration).Gives rules source index ending := by
  cases chooses with
  | chosen longest tries first =>
      rw [fromEnum_eq tries, ← expecting_spellings, ← Diagnostics.none_merge
        (Diagnostics.mergeAll _), List.map_append, List.map_cons]
      exact gives_firstOf _
        (allFail_spellings remains (longest.differs_of_earlier tries first))
        (gives_spelling remains longest.starts)
  | refused some differs =>
      rcases exists_tries (R := R) enumeration with ⟨tried, tries, same⟩
      have spellings : ∀ description,
          description ∈ enumeration.members.map enumeration.spelling ↔
            description ∈ tried.map enumeration.spelling := by
        intro description
        simp only [List.mem_map, tries.mem_iff]
      rw [same, Diagnostics.expecting_congr spellings, ← expecting_spellings]
      apply gives_firstOf_failed
      · rcases List.exists_mem_of_ne_nil _ some with ⟨member, declared⟩
        exact List.ne_nil_of_mem
          (List.mem_map_of_mem (tries.mem_iff.mpr declared))
      · exact allFail_spellings remains fun member inTried =>
          differs member (tries.mem_iff.mp inTried)
  | empty none =>
      have tries : enumeration.Tries [] := ⟨.nil, fun _ => by rw [none]⟩
      rw [fromEnum_eq tries]
      exact gives_leaf_iff.mpr rfl

/-- Some spelling stands there or none does: a choice always comes to an
end. -/
theorem exists_chooses (enumeration : Enumeration α) (rest : List Char)
    (index : Nat) : ∃ ending, enumeration.Chooses rest index ending := by
  by_cases none : enumeration.members = []
  · exact ⟨_, .empty none⟩
  by_cases stands : ∃ member ∈ enumeration.members,
      (enumeration.spelling member).toList <+: rest
  · rcases exists_tries (R := fun _ => Empty) enumeration with
      ⟨tried, tries, _⟩
    rcases stands with ⟨member, declared, starts⟩
    rcases Enumeration.exists_first_standing (tries.mem_iff.mpr declared) starts
      with ⟨earlier, first, later, rfl, startsFirst, differs⟩
    refine ⟨_, .chosen
      (Enumeration.longest_of_tries tries startsFirst differs) tries ?_⟩
    intro other inEarlier same
    apply differs other inEarlier
    rw [same]
    exact startsFirst
  · refine ⟨_, .refused none fun member declared starts => ?_⟩
    exact stands ⟨member, declared, starts⟩

theorem gives_fromEnum_iff (remains : source.rest index = some rest)
    {ending : ParseResult α} :
    (fromEnum enumeration).Gives rules source index ending ↔
      enumeration.Chooses rest index ending := by
  constructor
  · intro gives
    rcases exists_chooses enumeration rest index with ⟨chosen, chooses⟩
    rw [gives.unique (gives_of_chooses remains chooses)]
    exact chooses
  · exact gives_of_chooses remains

theorem reads_fromEnum_iff (remains : source.rest index = some rest)
    {stop : Nat} {member : α} :
    (fromEnum enumeration).Reads rules source index stop member ↔
      enumeration.Longest rest member ∧
        stop = index + (enumeration.spelling member).utf8ByteSize := by
  constructor
  · rintro ⟨diagnostics, gives⟩
    cases (gives_fromEnum_iff remains).mp gives with
    | chosen longest tries first => exact ⟨longest, rfl⟩
  · rintro ⟨longest, rfl⟩
    rcases exists_chooses enumeration rest index with ⟨ending, chooses⟩
    cases chooses with
    | chosen longestToo tries first =>
        cases longest.unique longestToo
        exact ⟨_, gives_of_chooses remains (.chosen longest tries first)⟩
    | refused some differs =>
        exact absurd longest.starts (differs member longest.mem)
    | empty none =>
        have declared := longest.mem
        rw [none] at declared
        cases declared

/-- The choice succeeds just where some spelling stands. -/
theorem succeeds_fromEnum_iff (remains : source.rest index = some rest) :
    (fromEnum enumeration).Succeeds rules source index ↔
      ∃ member ∈ enumeration.members,
        (enumeration.spelling member).toList <+: rest := by
  constructor
  · rintro ⟨stop, member, reads⟩
    rcases (reads_fromEnum_iff remains).mp reads with ⟨longest, _⟩
    exact ⟨member, longest.mem, longest.starts⟩
  · rintro ⟨member, declared, starts⟩
    rcases exists_chooses enumeration rest index with ⟨ending, chooses⟩
    cases chooses with
    | chosen longest tries first =>
        exact ⟨_, _, (reads_fromEnum_iff remains).mpr ⟨longest, rfl⟩⟩
    | refused some differs => exact absurd starts (differs member declared)
    | empty none =>
        rw [none] at declared
        cases declared

/-- A member is read from its spelling just if it is the first with it. -/
theorem accepts_fromEnum_iff {text : String} {member : α} :
    Accepts rules (fromEnum enumeration) (.ofString text) member ↔
      enumeration.Longest text.toList member ∧
        enumeration.spelling member = text := by
  have remains : (Source.ofString text).rest 0 = some text.toList :=
    Source.rest_ofCharacters_zero text.toList
  have total : (Source.ofString text).length = text.utf8ByteSize :=
    byteLength_toList text
  rw [accepts_iff, total]
  constructor
  · rintro ⟨stop, atEnd, reads⟩
    rcases (reads_fromEnum_iff remains).mp reads with ⟨longest, rfl⟩
    refine ⟨longest, ?_⟩
    -- A start of the text that has as many bytes is all of it.
    rcases longest.starts with ⟨after, split⟩
    have bytes := congrArg byteLength split
    rw [byteLength_append, byteLength_toList, byteLength_toList] at bytes
    have nothing : after = [] := by
      by_contra some
      rcases List.exists_cons_of_ne_nil some with ⟨character, others, rfl⟩
      have positive : 0 < byteLength (character :: others) := byteLength_pos
      omega
    rw [nothing, List.append_nil] at split
    exact String.toList_inj.mp split
  · rintro ⟨longest, rfl⟩
    exact ⟨_, by omega, (reads_fromEnum_iff remains).mpr ⟨longest, rfl⟩⟩

/-- Of members with different spellings each is read from its own. -/
theorem readsBack_iff :
    (∀ member ∈ enumeration.members,
      Accepts rules (fromEnum enumeration)
        (.ofString (enumeration.spelling member)) member) ↔
      ∀ first ∈ enumeration.members, ∀ second ∈ enumeration.members,
        enumeration.spelling first = enumeration.spelling second →
          first = second := by
  constructor
  · intro readsBack first firstDeclared second secondDeclared same
    have acceptsFirst := readsBack first firstDeclared
    rw [same] at acceptsFirst
    exact acceptsFirst.unique (readsBack second secondDeclared)
  · intro distinct member declared
    rw [accepts_fromEnum_iff]
    refine ⟨⟨List.prefix_rfl, ?_, ?_⟩, rfl⟩
    · intro other _ starts
      have shorter := starts.length_le
      rwa [String.length_toList, String.length_toList] at shorter
    · have stands : (enumeration.members.find? fun other =>
          enumeration.spelling other = enumeration.spelling member).isSome := by
        rw [List.find?_isSome]
        exact ⟨member, declared, decide_eq_true rfl⟩
      rcases Option.isSome_iff_exists.mp stands with ⟨first, isFirst⟩
      have same : enumeration.spelling first = enumeration.spelling member := by
        have accepted := List.find?_some isFirst
        exact of_decide_eq_true accepted
      have firstDeclared := List.mem_of_find?_eq_some isFirst
      rw [isFirst, distinct first firstDeclared member declared same]

/--
Choices between literals.  A choice between texts succeeds just where one of
them stands, and what it comes to there is described by the texts alone: the
longest of them that stands, behind which it stops, with those tried before it
expected at the offset, or else a failure with all of them expected there.  So
it is for the members of an enumeration, where of members spelled alike the
first is meant.  Hence every member is read back from its spelling just if no
two are spelled alike.
-/
theorem longest_literal_chosen {rest : List Char}
    (remains : source.rest index = some rest) (texts : List String)
    (enumeration : Enumeration α) :
    ((oneOfLiterals texts).Succeeds rules source index ↔
      ∃ text ∈ texts, text.toList <+: rest) ∧
    (∀ result, (oneOfLiterals texts).Gives rules source index result ↔
      (Enumeration.ofTexts texts).Chooses rest index result) ∧
    ((fromEnum enumeration).Succeeds rules source index ↔
      ∃ member ∈ enumeration.members,
        (enumeration.spelling member).toList <+: rest) ∧
    (∀ result, (fromEnum enumeration).Gives rules source index result ↔
      enumeration.Chooses rest index result) ∧
    ((∀ member ∈ enumeration.members,
      Accepts rules (fromEnum enumeration)
        (.ofString (enumeration.spelling member)) member) ↔
      ∀ first ∈ enumeration.members, ∀ second ∈ enumeration.members,
        enumeration.spelling first = enumeration.spelling second →
          first = second) ∧
    (enumeration.members.Nodup →
      ((∀ member ∈ enumeration.members,
        Accepts rules (fromEnum enumeration)
          (.ofString (enumeration.spelling member)) member) ↔
        (enumeration.members.map enumeration.spelling).Nodup)) := by
  -- The texts of a list are the spellings of an enumeration.
  have texts_eq : (oneOfLiterals texts : Parser R String) =
      fromEnum (.ofTexts texts) := rfl
  rw [texts_eq]
  refine ⟨succeeds_fromEnum_iff remains, fun _ => gives_fromEnum_iff remains,
    succeeds_fromEnum_iff remains, fun _ => gives_fromEnum_iff remains,
    readsBack_iff, ?_⟩
  intro once
  rw [readsBack_iff, List.nodup_map_iff_inj_on once]

/-- Of six texts the longest that starts what remains behind the mark is
chosen, over its three bytes, and one of the same length was tried before it. -/
theorem two_letters_chosen :
    let rules : Rules fun _ => Empty := ⟨nofun⟩
    let source := Source.ofString "!éax"
    source.rest 1 = some ['é', 'a', 'x'] ∧
      (oneOfLiterals ["a", "ab", "é", "éa", "", "éa"]).Gives rules source 1
        ⟨.success 4 "éa", .expecting 1 ["ab"]⟩ := by
  intro rules source
  have remains : source.rest 1 = some ['é', 'a', 'x'] := by decide
  refine ⟨remains, ((longest_literal_chosen remains _ (.ofTexts [])).2.1
    _).mpr ?_⟩
  have longest : (Enumeration.ofTexts ["a", "ab", "é", "éa", "", "éa"]).Longest
      ['é', 'a', 'x'] "éa" := ⟨by decide, by decide, rfl⟩
  have tries : (Enumeration.ofTexts ["a", "ab", "é", "éa", "", "éa"]).Tries
      (["ab"] ++ "éa" :: ["éa", "a", "é", ""]) := by
    refine ⟨by decide, fun count => ?_⟩
    rcases count with _ | _ | _ | count <;> rfl
  apply Enumeration.Chooses.chosen longest tries
  decide

end Parser

end OrderedChoice
