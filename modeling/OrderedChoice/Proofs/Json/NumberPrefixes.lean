import OrderedChoice.Proofs.Json.Numbers
import OrderedChoice.Proofs.Parser.Scans

/-!
# Numbers at the start of a text

Of a text that goes on in any way, the number pattern takes the longest start
that is a number.  Each of its parts is taken as it stands in that start, since
one more digit, a fraction or an exponent would make a longer number.

Every number can be read as a double, so the parser for numbers takes the
longest number too.
-/

namespace OrderedChoice

/-! ## Longest starts -/

/-- A text is in a language, and with nothing of what follows it is any longer
one. -/
structure LongestIn (language : Language Char) (taken after : List Char) :
    Prop where
  member : taken ∈ language
  longest : ∀ further later, further ++ later = after →
    taken ++ further ∈ language → further = []

/-- What starts with a text of a language starts with a longest one. -/
theorem exists_longestIn {language : Language Char} {taken : List Char}
    (member : taken ∈ language) (after : List Char) :
    ∃ further later, further ++ later = after ∧
      LongestIn language (taken ++ further) later := by
  induction length : after.length using Nat.strong_induction_on
    generalizing taken after with
  | _ size inductiveStep =>
      by_cases extends' : ∃ further later, further ++ later = after ∧
          taken ++ further ∈ language ∧ further ≠ []
      · rcases extends' with ⟨further, later, split, longer, some⟩
        subst split
        have positive := List.length_pos_iff.mpr some
        rw [List.length_append] at length
        rcases inductiveStep later.length (by omega) longer later rfl with
          ⟨others, rest, rfl, holds⟩
        refine ⟨further ++ others, rest, List.append_assoc _ _ _, ?_⟩
        rw [← List.append_assoc]
        exact holds
      · refine ⟨[], after, rfl, ?_⟩
        rw [List.append_nil]
        refine ⟨member, fun further later split longer => ?_⟩
        by_contra some
        exact extends' ⟨further, later, split, longer, some⟩

namespace LongestIn

open Regex (CharSet Term)

variable {language : Language Char} {taken after : List Char}

/-- A set stops after a longest text that its characters make longer. -/
theorem stopsAt {members : CharSet} (holds : LongestIn language taken after)
    (longer : ∀ character, members.contains character.toNat = true →
      taken ++ [character] ∈ language) : members.StopsAt after := by
  intro character first
  rcases List.head?_eq_some_iff.mp first with ⟨later, split⟩
  by_contra inside
  have member := longer character (Bool.eq_true_of_not_eq_false inside)
  have empty := holds.longest [character] later split.symm member
  cases empty

/-- An expression refuses what follows a longest text that it would make
longer. -/
theorem refuses {term : Term} (holds : LongestIn language taken after)
    (nonempty : [] ∉ term.language)
    (longer : ∀ further ∈ term.language, taken ++ further ∈ language) :
    term.step.Refuses after := by
  apply Term.refuses_of_notMem
  rintro further later rfl member
  have empty := holds.longest further later rfl (longer further member)
  subst empty
  exact nonempty member

end LongestIn

namespace Json

open OrderedChoice.Parser
open OrderedChoice.Regex (CharSet Term Step)

variable {taken after rest : List Char}

/-! ## The longest number -/

theorem mem_digits_append {digits : List Char} {min : Nat} {digit : Char}
    (member : digits ∈ (Term.repetition (.set digitSet) min none true).language)
    (isDigit : digitSet.contains digit.toNat = true) :
    digits ++ [digit] ∈
      (Term.repetition (.set digitSet) min none true).language := by
  rcases CharSet.mem_language_repetition_iff.mp member with ⟨covers, enough, _⟩
  refine CharSet.mem_language_repetition_iff.mpr ⟨?_, ?_, nofun⟩
  · intro character inDigits
    rcases List.mem_append.mp inDigits with inFirst | isLast
    · exact covers character inFirst
    · rw [List.mem_singleton.mp isLast]
      exact isDigit
  · rw [List.length_append]
    omega

theorem mem_whole_append {digit : Char} (member : taken ∈ wholeTerm.language)
    (isDigit : digitSet.contains digit.toNat = true) :
    taken = ['0'] ∨ taken ++ [digit] ∈ wholeTerm.language := by
  rcases member with zero | ⟨first, inFirst, digits, inDigits, rfl⟩
  · left
    rcases zero with ⟨character, isZero, rfl⟩
    rw [CharSet.contains_single] at isZero
    rw [(Char.toNat_inj.mp isZero : character = '0')]
  · right
    refine Or.inr ⟨first, inFirst, digits ++ [digit],
      mem_digits_append inDigits isDigit, ?_⟩
    exact (List.append_assoc _ _ _).symm

theorem mem_fraction_append {digit : Char}
    (member : taken ∈ fractionTerm.language)
    (isDigit : digitSet.contains digit.toNat = true) :
    taken ++ [digit] ∈ fractionTerm.language := by
  rcases member with ⟨point, inPoint, digits, inDigits, rfl⟩
  exact ⟨point, inPoint, digits ++ [digit],
    mem_digits_append inDigits isDigit, (List.append_assoc _ _ _).symm⟩

theorem mem_exponent_append {digit : Char}
    (member : taken ∈ exponentTerm.language)
    (isDigit : digitSet.contains digit.toNat = true) :
    taken ++ [digit] ∈ exponentTerm.language := by
  rcases member with ⟨mark, inMark, digits, inDigits, rfl⟩
  exact ⟨mark, inMark, digits ++ [digit],
    mem_digits_append inDigits isDigit, (List.append_assoc _ _ _).symm⟩

/-- A number that nothing after it makes longer is taken as it stands. -/
theorem prefers_longest
    (holds : LongestIn numberPattern.regex.language taken after) :
    numberPattern.regex.step.Prefers taken after := by
  rcases exists_parts holds.member with ⟨sign, whole, fraction, exponent, rfl,
    inSign, inWhole, inFraction, inExponent⟩
  have noExponent : [] ∉ exponentTerm.language := fun member => by
    rcases starts_of_mem_exponent member with ⟨_, _, none, _⟩
    cases none
  have noFraction : [] ∉ fractionTerm.language := fun member => by
    rcases starts_of_mem_fraction member with ⟨_, _, none, _⟩
    cases none
  rcases inExponent with rfl | exponentMember
  · rw [List.append_nil] at holds
    have exponentRefuses : exponentTerm.step.Refuses after :=
      holds.refuses noExponent fun further member =>
        mem_number inSign inWhole inFraction (Or.inr member)
    rcases inFraction with rfl | fractionMember
    · rw [List.append_nil] at holds
      have fractionRefuses : fractionTerm.step.Refuses after := by
        apply holds.refuses noFraction
        intro further member
        simpa using mem_number inSign inWhole (Or.inr member) (Or.inl rfl)
      have wholeStops : digitSet.StopsAt after ∨ whole = ['0'] := by
        by_cases zero : whole = ['0']
        · exact Or.inr zero
        · left
          apply holds.stopsAt
          intro digit isDigit
          have longer := (mem_whole_append inWhole isDigit).resolve_left zero
          simpa using mem_number inSign longer (Or.inl rfl) (Or.inl rfl)
      apply prefers_parts inSign inWhole
      · exact wholeStops
      · exact Step.prefers_optional_nil fractionRefuses
      · exact Step.prefers_optional_nil exponentRefuses
    · have stops : digitSet.StopsAt after := by
        apply holds.stopsAt
        intro digit isDigit
        have longer := mem_fraction_append fractionMember isDigit
        simpa using mem_number inSign inWhole (Or.inr longer) (Or.inl rfl)
      exact prefers_parts inSign inWhole
        (Or.inl (stopsAt_fraction fractionMember _))
        (Step.prefers_optional (prefers_fraction fractionMember stops))
        (Step.prefers_optional_nil exponentRefuses)
  · have stops : digitSet.StopsAt after := by
      apply holds.stopsAt
      intro digit isDigit
      have longer := mem_exponent_append exponentMember isDigit
      simpa using mem_number inSign inWhole inFraction (Or.inr longer)
    have atExponent := stopsAt_exponent exponentMember after
    have exponentPreferred :=
      Step.prefers_optional (prefers_exponent exponentMember stops)
    rcases inFraction with rfl | fractionMember
    · exact prefers_parts inSign inWhole (Or.inl atExponent.1)
        (Step.prefers_optional_nil (refuses_fraction atExponent.2))
        exponentPreferred
    · exact prefers_parts inSign inWhole
        (Or.inl (stopsAt_fraction fractionMember _))
        (Step.prefers_optional (prefers_fraction fractionMember atExponent.1))
        exponentPreferred

/-- Where some number starts, the pattern takes the longest one, and elsewhere
it refuses. -/
theorem prefers_longest_or_refuses (rest : List Char) :
    (∃ taken after, taken ++ after = rest ∧
      LongestIn numberPattern.regex.language taken after) ∨
      numberPattern.regex.step.Refuses rest := by
  by_cases starts : ∃ taken after, taken ++ after = rest ∧
      taken ∈ numberPattern.regex.language
  · left
    rcases starts with ⟨taken, after, rfl, member⟩
    rcases exists_longestIn member after with
      ⟨further, later, rfl, holds⟩
    exact ⟨taken ++ further, later, List.append_assoc _ _ _, holds⟩
  · right
    apply Term.refuses_of_notMem
    rintro taken after rfl member
    exact starts ⟨taken, after, rfl, member⟩

/-! ## Reading numbers -/

theorem digit_iff {character : Char} :
    digitSet.contains character.toNat = true ↔ character.isDigit = true := by
  rw [digitSet, CharSet.contains_range, Char.isDigit, Bool.and_eq_true,
    decide_eq_true_iff, decide_eq_true_iff]
  exact Iff.rfl

theorem splitDigits_append {digits : List Char} (covers : digitSet.Covers digits)
    (stops : digitSet.StopsAt rest) :
    Decimal.splitDigits (digits ++ rest) = (digits, rest) := by
  have allDigits : ∀ character ∈ digits, character.isDigit = true :=
    fun character member => digit_iff.mp (covers character member)
  rw [Decimal.splitDigits, List.takeWhile_append_of_pos allDigits,
    List.dropWhile_append_of_pos allDigits]
  cases rest with
  | nil => simp
  | cons character rest =>
      have outside : ¬ character.isDigit = true := fun digit => by
        have inside := digit_iff.mpr digit
        rw [CharSet.stopsAt_cons_iff.mp stops] at inside
        cases inside
      rw [List.takeWhile_cons_of_neg outside, List.dropWhile_cons_of_neg outside,
        List.append_nil]

theorem covers_of_mem_whole (member : taken ∈ wholeTerm.language) :
    digitSet.Covers taken := by
  rcases member with ⟨zero, isZero, rfl⟩ |
    ⟨_, ⟨first, inFirst, rfl⟩, digits, inDigits, rfl⟩
  · intro character single
    rw [List.mem_singleton.mp single, CharSet.contains_single.mp isZero]
    decide
  · rcases CharSet.mem_language_repetition_iff.mp inDigits with ⟨covers, _, _⟩
    apply CharSet.covers_cons_iff.mpr ⟨?_, covers⟩
    rw [CharSet.contains_range] at inFirst
    rw [digitSet, CharSet.contains_range]
    omega

/-- The digits of an exponent are read after any sign. -/
theorem readExponent_signed {mark sign : Char} {digits : List Char}
    (marked : mark = 'e' ∨ mark = 'E') (signed : sign = '+' ∨ sign = '-')
    (nonempty : digits ≠ []) (allDigits : digits.all Char.isDigit = true) :
    (Decimal.readExponent? (mark :: sign :: digits)).isSome = true := by
  rcases marked with rfl | rfl <;> rcases signed with rfl | rfl <;>
    simp [Decimal.readExponent?, nonempty, allDigits]

/-- Without a sign they are read too, since no digit is one. -/
theorem readExponent_unsigned {mark : Char} {digits : List Char}
    (marked : mark = 'e' ∨ mark = 'E') (nonempty : digits ≠ [])
    (allDigits : digits.all Char.isDigit = true) :
    (Decimal.readExponent? (mark :: digits)).isSome = true := by
  rcases List.exists_cons_of_ne_nil nonempty with ⟨digit, others, rfl⟩
  have isDigit : digit.isDigit = true := by
    rw [List.all_cons, Bool.and_eq_true] at allDigits
    exact allDigits.1
  have noMinus : digit ≠ '-' := fun same => by
    rw [same] at isDigit
    cases isDigit
  have noPlus : digit ≠ '+' := fun same => by
    rw [same] at isDigit
    cases isDigit
  rcases marked with rfl | rfl <;>
    simp [Decimal.readExponent?, noMinus, noPlus, allDigits]

theorem readExponent_isSome
    (inExponent : taken = [] ∨ taken ∈ exponentTerm.language) :
    (Decimal.readExponent? taken).isSome = true := by
  rcases inExponent with rfl | ⟨_, ⟨_, ⟨mark, isMark, rfl⟩, sign, inSign, rfl⟩,
    digits, inDigits, rfl⟩
  · rfl
  · have marked : mark = 'e' ∨ mark = 'E' :=
      (CharSet.contains_union.mp isMark).imp CharSet.contains_single_char.mp
        CharSet.contains_single_char.mp
    rcases CharSet.mem_language_repetition_iff.mp inDigits with
      ⟨covers, positive, _⟩
    have nonempty : digits ≠ [] := List.length_pos_iff.mp positive
    have allDigits : digits.all Char.isDigit = true :=
      List.all_eq_true.mpr fun character member =>
        digit_iff.mp (covers character member)
    rcases Regex.mem_language_optional_iff.mp inSign with
      rfl | ⟨sign, isSign, rfl⟩
    · exact readExponent_unsigned marked nonempty allDigits
    · have signed : sign = '+' ∨ sign = '-' :=
        (CharSet.contains_union.mp isSign).imp CharSet.contains_single_char.mp
          CharSet.contains_single_char.mp
      exact readExponent_signed marked signed nonempty allDigits

/-- Every number can be read: its sign is taken off, and then its digits up to
the point and those up to the exponent. -/
theorem read_isSome (member : taken ∈ numberPattern.regex.language) :
    (Decimal.read? taken).isSome = true := by
  rcases exists_parts member with ⟨sign, whole, fraction, exponent, rfl,
    inSign, inWhole, inFraction, inExponent⟩
  have digits := covers_of_mem_whole inWhole
  have exponentRead := readExponent_isSome inExponent
  rcases starts_of_mem_whole inWhole with ⟨first, others, rfl, isDigit⟩
  have atExponent : digitSet.StopsAt exponent ∧
      (CharSet.single 0x2E).StopsAt exponent := by
    rcases inExponent with rfl | inTerm
    · exact ⟨CharSet.stopsAt_nil, CharSet.stopsAt_nil⟩
    · simpa using stopsAt_exponent inTerm []
  have atFraction : digitSet.StopsAt (fraction ++ exponent) := by
    rcases inFraction with rfl | inTerm
    · exact atExponent.1
    · exact stopsAt_fraction inTerm _
  unfold Decimal.read?
  split
  rename_i negative body signed
  have isBody : body = first :: others ++ (fraction ++ exponent) := by
    rcases Regex.mem_language_optional_iff.mp inSign with
      rfl | ⟨character, isSign, rfl⟩
    · rw [List.nil_append, List.append_assoc, List.cons_append] at signed
      split at signed
      · rename_i same
        rw [(List.cons.inj same).1] at isDigit
        exact absurd isDigit (by decide)
      · cases signed
        rfl
    · have same : character = '-' :=
        CharSet.contains_single_char.mp isSign
      subst same
      cases signed
      simp
  subst isBody
  rw [splitDigits_append digits atFraction]
  dsimp only
  split
  · rename_i left pointed
    rcases inFraction with
      rfl | ⟨_, ⟨character, isPoint, rfl⟩, places, inPlaces, rfl⟩
    · rw [List.nil_append] at pointed
      subst pointed
      have outside := CharSet.stopsAt_cons_iff.mp atExponent.2
      cases outside
    · have same : left = places ++ exponent := (List.cons.inj pointed).2.symm
      rcases CharSet.mem_language_repetition_iff.mp inPlaces with
        ⟨covers, _, _⟩
      subst same
      rw [splitDigits_append covers atExponent.1]
      dsimp only
      rw [List.isEmpty_cons, Bool.false_and, if_neg (by decide),
        Option.isSome_map]
      exact exponentRead
  · rename_i notPoint
    rcases inFraction with rfl | inTerm
    · rw [List.isEmpty_cons, Bool.false_and, if_neg (by decide),
        Option.isSome_map]
      exact exponentRead
    · rcases starts_of_mem_fraction inTerm with ⟨character, places, rfl, isPoint⟩
      have same : character = '.' :=
        CharSet.contains_single_char.mp isPoint
      subst same
      exact absurd rfl (notPoint (places ++ exponent))

/-! ## The parser -/

section

variable {R : Type → Type} {rules : Rules R}

theorem exists_mem_numberTexts
    (member : taken ∈ numberPattern.regex.language) :
    ∃ value, numberTexts taken value := by
  rcases Option.isSome_iff_exists.mp (read_isSome member) with
    ⟨decimal, read⟩
  refine ⟨_, member, .ofDecimal decimal, ?_, rfl⟩
  rw [Binary64.read?, String.toList_ofList, read]
  rfl

/-- A longest number is taken. -/
theorem exists_takes_numeral
    (holds : LongestIn numberPattern.regex.language taken after) :
    ∃ value, (numeral : Parser R Json).Takes rules taken after value := by
  rcases exists_mem_numberTexts holds.member with ⟨_, _, number, read, rfl⟩
  refine ⟨.number number, ?_⟩
  apply takes_describe
  apply takes_bind_success (takes_matching (prefers_longest holds))
  rw [read]

theorem scans_numeral {passes : Passing Json}
    (passed : ∀ taken after value, taken ++ after = rest →
      passes taken after value) :
    (numeral : Parser R Json).Scans rules rest passes := by
  rcases prefers_longest_or_refuses rest with
    ⟨taken, after, split, holds⟩ | refuses
  · rcases exists_takes_numeral holds with ⟨value, takes⟩
    exact .takes split takes (passed taken after value split)
  · exact .refuses (refuses_describe _ (refuses_bind _ (refuses_matching refuses)))

/-- Whatever follows a number, the parser takes all of it. -/
theorem reaches_numeral {value : Json} (holds : numberTexts taken value)
    (after : List Char) :
    ∃ further later found, further ++ later = after ∧
      (numeral : Parser R Json).Takes rules (taken ++ further) later found := by
  rcases exists_longestIn holds.1 after with
    ⟨further, later, split, longest⟩
  rcases exists_takes_numeral longest with ⟨found, takes⟩
  exact ⟨further, later, found, split, takes⟩

end

end Json

end OrderedChoice
