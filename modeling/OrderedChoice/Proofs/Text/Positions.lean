import OrderedChoice.ParseError
import OrderedChoice.Proofs.Text.Boundary

/-!
# Positions and offsets

A position counts the newlines before an offset and the characters since the
last of them.  Followed through a text it moves on with each character: down a
line at a newline, and by a column at any other.  It only ever grows that way, so
the boundaries of a source are ordered like their positions.

An offset that is no boundary stands for one: stepping back from it a byte at a
time meets the last boundary before it.  There are no other places to locate, and
so positions never fall as offsets rise.
-/

namespace OrderedChoice

/-! ## Following a text -/

namespace Position

theorem lt_irrefl (position : Position) : ¬ position < position := by
  rintro (lines | ⟨_, columns⟩)
  · exact Nat.lt_irrefl _ lines
  · exact Nat.lt_irrefl _ columns

theorem lt_trans {first second third : Position} (left : first < second)
    (right : second < third) : first < third := by
  rw [lt_def] at left right ⊢
  omega

/-- The position behind a character that stands at a position. -/
def next (position : Position) (character : Char) : Position :=
  if character = '\n' then ⟨position.line + 1, 0⟩
  else ⟨position.line, position.column + 1⟩

theorem lt_next (position : Position) (character : Char) :
    position < position.next character := by
  rw [next]
  split
  · exact .inl (Nat.lt_succ_self _)
  · exact .inr ⟨rfl, Nat.lt_succ_self _⟩

theorem after_nil : after [] = origin := rfl

theorem after_concat (text : List Char) (character : Char) :
    after (text ++ [character]) = (after text).next character := by
  by_cases newline : character = '\n'
  · subst newline
    simp [after, next]
  · simp [after, next, newline]

theorem after_lt_after_append (text : List Char) {more : List Char}
    (goesOn : more ≠ []) : after text < after (text ++ more) := by
  induction more generalizing text with
  | nil => exact absurd rfl goesOn
  | cons character more inductiveStep =>
      have moved : after text < after (text ++ [character]) := by
        rw [after_concat]
        exact lt_next _ _
      cases more with
      | nil => exact moved
      | cons second more =>
          have further := inductiveStep (text ++ [character]) nofun
          rw [List.append_assoc] at further
          exact lt_trans moved further

end Position

/-! ## Boundaries in order -/

/-- Of two starts of a text the one with more bytes goes on from the other. -/
theorem exists_more_of_byteLength_lt {shorter longer rest others : List Char}
    (same : shorter ++ rest = longer ++ others)
    (fewer : byteLength shorter < byteLength longer) :
    ∃ more, more ≠ [] ∧ longer = shorter ++ more := by
  rcases List.append_eq_append_iff.mp same with
    ⟨more, rfl, _⟩ | ⟨more, rfl, _⟩
  · refine ⟨more, ?_, rfl⟩
    rintro rfl
    simp at fewer
  · rw [byteLength_append] at fewer
    omega

namespace Position

variable {source : Source} {offset first second : Nat}
  {position earlier later : Position}

theorem at?_eq_ok_iff :
    at? source offset = .ok position ↔
      ∃ before rest, source.characters = before ++ rest ∧
        byteLength before = offset ∧ position = after before := by
  constructor
  · intro located
    rw [at?] at located
    split at located
    · rename_i boundary
      rcases Source.isBoundary_iff.mp boundary with
        ⟨before, rest, split, rfl⟩
      rw [Source.textBefore_of_split split] at located
      exact ⟨before, rest, split, rfl, (Except.ok.inj located).symm⟩
    · cases located
  · rintro ⟨before, rest, split, rfl, rfl⟩
    have boundary : source.isBoundary (byteLength before) = true :=
      Source.isBoundary_iff.mpr ⟨before, rest, split, rfl⟩
    rw [at?, if_pos boundary, Source.textBefore_of_split split]

theorem at?_of_isBoundary (boundary : source.isBoundary offset = true) :
    at? source offset = .ok (locate source offset) :=
  if_pos boundary

theorem lt_of_at?_of_lt (locatedFirst : at? source first = .ok earlier)
    (locatedSecond : at? source second = .ok later) (before : first < second) :
    earlier < later := by
  rcases at?_eq_ok_iff.mp locatedFirst with ⟨shorter, rest, split, rfl, rfl⟩
  rcases at?_eq_ok_iff.mp locatedSecond with
    ⟨longer, others, otherSplit, rfl, rfl⟩
  rcases exists_more_of_byteLength_lt (split.symm.trans otherSplit) before with
    ⟨more, goesOn, rfl⟩
  exact after_lt_after_append shorter goesOn

/-- Boundaries are ordered like their positions. -/
theorem lt_iff_of_at? (locatedFirst : at? source first = .ok earlier)
    (locatedSecond : at? source second = .ok later) :
    first < second ↔ earlier < later := by
  constructor
  · exact lt_of_at?_of_lt locatedFirst locatedSecond
  · intro below
    rcases Nat.lt_trichotomy first second with before | rfl | behind
    · exact before
    · rw [locatedFirst] at locatedSecond
      cases locatedSecond
      exact absurd below (lt_irrefl _)
    · exact absurd
        (lt_trans below (lt_of_at?_of_lt locatedSecond locatedFirst behind))
        (lt_irrefl _)

/-- Boundaries have positions of their own. -/
theorem eq_iff_of_at? (locatedFirst : at? source first = .ok earlier)
    (locatedSecond : at? source second = .ok later) :
    first = second ↔ earlier = later := by
  constructor
  · rintro rfl
    rw [locatedFirst] at locatedSecond
    exact Except.ok.inj locatedSecond
  · rintro rfl
    have notBefore := mt (lt_of_at?_of_lt locatedFirst locatedSecond)
      (lt_irrefl _)
    have notBehind := mt (lt_of_at?_of_lt locatedSecond locatedFirst)
      (lt_irrefl _)
    omega

end Position

/-! ## Offsets that are no boundaries -/

/-- The characters that fit into a size are the longest start that does. -/
theorem takeBytes_longest (characters : List Char) (size : Nat) :
    ∃ after, characters = takeBytes characters size ++ after ∧
      byteLength (takeBytes characters size) ≤ size ∧
      ∀ before rest, characters = before ++ rest → byteLength before ≤ size →
        byteLength before ≤ byteLength (takeBytes characters size) := by
  induction characters generalizing size with
  | nil =>
      refine ⟨[], rfl, Nat.zero_le _, ?_⟩
      intro before rest split _
      rw [(List.append_eq_nil_iff.mp split.symm).1]
      exact Nat.zero_le _
  | cons character characters inductiveStep =>
      rw [takeBytes]
      split
      · rename_i fits
        rcases inductiveStep (size - character.utf8Size) with
          ⟨after, split, within, longest⟩
        refine ⟨after, congrArg (character :: ·) split, ?_, ?_⟩
        · rw [byteLength_cons]
          omega
        · intro before rest other small
          cases before with
          | nil => exact Nat.zero_le _
          | cons first before =>
              rw [List.cons_append, List.cons.injEq] at other
              rcases other with ⟨rfl, otherRest⟩
              rw [byteLength_cons] at small ⊢
              have bound := longest before rest otherRest (by omega)
              rw [byteLength_cons]
              omega
      · rename_i large
        refine ⟨character :: characters, rfl, Nat.zero_le _, ?_⟩
        intro before rest other small
        cases before with
        | nil => exact Nat.le_refl _
        | cons first before =>
            rw [List.cons_append, List.cons.injEq] at other
            rcases other with ⟨rfl, _⟩
            rw [byteLength_cons] at small
            omega

namespace Source

variable {source : Source} {offset boundary : Nat}

/-- The boundary that an offset counts as: the last one up to it. -/
structure ClampsTo (source : Source) (offset boundary : Nat) : Prop where
  isBoundary : source.isBoundary boundary = true
  le_offset : boundary ≤ offset
  last : ∀ other, source.isBoundary other = true → other ≤ offset →
    other ≤ boundary

theorem ClampsTo.mono {further last : Nat}
    (clamps : source.ClampsTo offset boundary)
    (clampsFurther : source.ClampsTo further last) (before : offset ≤ further) :
    boundary ≤ last :=
  clampsFurther.last boundary clamps.isBoundary
    (Nat.le_trans clamps.le_offset before)

/-- Past the end an offset counts as the end. -/
theorem ClampsTo.within (clamps : source.ClampsTo offset boundary) :
    source.ClampsTo (min offset source.length) boundary where
  isBoundary := clamps.isBoundary
  le_offset := by
    rcases Option.isSome_iff_exists.mp clamps.isBoundary with ⟨rest, remains⟩
    exact Nat.le_min.mpr ⟨clamps.le_offset, le_length_of_rest remains⟩
  last := fun other otherBoundary small =>
    clamps.last other otherBoundary (Nat.le_trans small (Nat.min_le_left _ _))

/-- Stepping back from an offset a byte at a time, as far as to the first
boundary that is met. -/
inductive StepsBackTo (source : Source) : Nat → Nat → Prop where
  | stay {offset : Nat} (boundary : source.isBoundary offset = true) :
      StepsBackTo source offset offset
  | back {offset boundary : Nat}
      (inside : source.isBoundary (offset + 1) = false)
      (rest : StepsBackTo source offset boundary) :
      StepsBackTo source (offset + 1) boundary

theorem StepsBackTo.clampsTo (steps : source.StepsBackTo offset boundary) :
    source.ClampsTo offset boundary := by
  induction steps with
  | stay boundary =>
      exact ⟨boundary, Nat.le_refl _, fun _ _ small => small⟩
  | @back offset boundary inside rest inductiveStep =>
      refine ⟨inductiveStep.isBoundary, Nat.le_succ_of_le
        inductiveStep.le_offset, fun other otherBoundary small => ?_⟩
      rcases Nat.le_succ_iff.mp small with small | rfl
      · exact inductiveStep.last other otherBoundary small
      · rw [inside] at otherBoundary
        cases otherBoundary

/-- Stepping back comes to an end, since a text starts at a boundary. -/
theorem exists_stepsBackTo (source : Source) (offset : Nat) :
    ∃ boundary, source.StepsBackTo offset boundary := by
  induction offset with
  | zero => exact ⟨0, .stay (isBoundary_of_rest source.rest_zero)⟩
  | succ offset inductiveStep =>
      cases standing : source.isBoundary (offset + 1) with
      | true => exact ⟨offset + 1, .stay standing⟩
      | false =>
          rcases inductiveStep with ⟨boundary, steps⟩
          exact ⟨boundary, .back standing steps⟩

end Source

namespace Position

variable {source : Source} {first second : Nat}

/-- The position of any offset is that of the boundary it counts as. -/
theorem at?_locate (source : Source) (offset : Nat) :
    ∃ boundary, source.ClampsTo offset boundary ∧
      Position.at? source boundary = .ok (.locate source offset) := by
  rcases takeBytes_longest source.characters offset with
    ⟨after, split, within, longest⟩
  have boundary : source.isBoundary
      (byteLength (takeBytes source.characters offset)) = true :=
    Source.isBoundary_iff.mpr ⟨_, after, split, rfl⟩
  refine ⟨_, ⟨boundary, within, ?_⟩, ?_⟩
  · intro other otherBoundary small
    rcases Source.isBoundary_iff.mp otherBoundary with
      ⟨before, rest, otherSplit, rfl⟩
    exact longest before rest otherSplit small
  · rw [Position.at?, if_pos boundary, Source.textBefore_of_split split]
    rfl

/-- Stepping back from an offset finds the boundary that it is located at. -/
theorem at?_of_stepsBackTo {offset boundary : Nat}
    (steps : source.StepsBackTo (min offset source.length) boundary) :
    at? source boundary = .ok (locate source offset) := by
  rcases at?_locate source offset with ⟨last, clamps, located⟩
  have same : boundary = last := Nat.le_antisymm
    (steps.clampsTo.mono clamps.within (Nat.le_refl _))
    (clamps.within.mono steps.clampsTo (Nat.le_refl _))
  rw [same, located]

theorem locate_le_locate (source : Source) (before : first ≤ second) :
    locate source first ≤ locate source second := by
  rcases at?_locate source first with ⟨boundary, clamps, located⟩
  rcases at?_locate source second with ⟨last, clampsSecond, locatedSecond⟩
  rcases Nat.lt_or_eq_of_le (clamps.mono clampsSecond before) with
    below | same
  · exact .inl ((lt_iff_of_at? located locatedSecond).mp below)
  · exact .inr ((eq_iff_of_at? located locatedSecond).mp same)

/--
Lines and columns show offsets in their order.  Just the boundaries of a source
have positions: the start is at the origin, and behind a newline the next line
begins, behind any other character the next column.  Of two boundaries the
earlier one has the smaller position, and no two share one.  Any offset at all,
past the end or inside a character, is located at the last boundary up to it,
where stepping back from it ends; so positions never fall as offsets rise.
-/
theorem positions_order_offsets (source : Source) :
    (∀ offset, (∃ position, at? source offset = .ok position) ↔
      offset ≤ source.length ∧ ∃ before rest,
        source.characters = before ++ rest ∧ byteLength before = offset) ∧
    at? source 0 = .ok origin ∧
    (∀ before character rest,
      source.characters = before ++ character :: rest →
      ∃ position, at? source (byteLength before) = .ok position ∧
        at? source (byteLength before + character.utf8Size) =
          .ok (position.next character)) ∧
    (∀ first second earlier later, at? source first = .ok earlier →
      at? source second = .ok later →
      (first < second ↔ earlier < later) ∧
        (first = second ↔ earlier = later)) ∧
    (∀ offset, ∃ boundary,
      source.StepsBackTo (min offset source.length) boundary ∧
      source.ClampsTo (min offset source.length) boundary ∧
      at? source boundary = .ok (locate source offset)) ∧
    ∀ first second, first ≤ second →
      locate source first ≤ locate source second := by
  refine ⟨fun offset => ⟨?_, ?_⟩, ?_, ?_, ?_, fun offset => ?_,
    fun first second => locate_le_locate source⟩
  · rintro ⟨position, located⟩
    rcases at?_eq_ok_iff.mp located with ⟨before, rest, split, rfl, _⟩
    refine ⟨?_, before, rest, split, rfl⟩
    rw [source.length_eq, split, byteLength_append]
    exact Nat.le_add_right _ _
  · rintro ⟨_, before, rest, split, length⟩
    exact ⟨_, at?_eq_ok_iff.mpr ⟨before, rest, split, length, rfl⟩⟩
  · exact at?_eq_ok_iff.mpr ⟨[], source.characters, rfl, rfl, after_nil.symm⟩
  · intro before character rest split
    refine ⟨after before, at?_eq_ok_iff.mpr ⟨before, _, split, rfl, rfl⟩,
      at?_eq_ok_iff.mpr ⟨before ++ [character], rest, ?_, ?_, ?_⟩⟩
    · rw [split, List.append_assoc]
      rfl
    · rw [byteLength_append, byteLength_cons, byteLength_nil, Nat.add_zero]
    · rw [after_concat]
  · intro first second earlier later locatedFirst locatedSecond
    exact ⟨lt_iff_of_at? locatedFirst locatedSecond,
      eq_iff_of_at? locatedFirst locatedSecond⟩
  · rcases source.exists_stepsBackTo (min offset source.length) with
      ⟨boundary, steps⟩
    exact ⟨boundary, steps, steps.clampsTo, at?_of_stepsBackTo steps⟩

/-- A letter of two bytes stands before a newline and another behind it; an
offset inside the second one counts as the start of its line. -/
theorem letters_around_newline_ordered :
    let source := Source.ofString "é\nüx"
    (∃ position, at? source 2 = .ok position ∧
      at? source 3 = .ok (position.next '\n')) ∧
    (at? source 2 = .ok ⟨0, 1⟩ ∧ at? source 5 = .ok ⟨1, 1⟩ ∧
      (⟨0, 1⟩ : Position) < ⟨1, 1⟩) ∧
    locate source 4 = ⟨1, 0⟩ ∧ locate source 4 ≤ locate source 5 := by
  intro source
  have facts := positions_order_offsets source
  have start : at? source 2 = .ok ⟨0, 1⟩ := by rfl
  have stop : at? source 5 = .ok ⟨1, 1⟩ := by rfl
  have inside : locate source 4 = ⟨1, 0⟩ := by decide
  exact ⟨facts.2.2.1 ['é'] '\n' ['ü', 'x'] rfl,
    ⟨start, stop, (facts.2.2.2.1 2 5 _ _ start stop).1.mp (by decide)⟩,
    inside, facts.2.2.2.2.2 4 5 (by decide)⟩

end Position

end OrderedChoice
