import OrderedChoice.Grammar.Json
import OrderedChoice.Proofs.Parser.Patterns

/-!
# Numbers of documents

The number pattern is greedy in every part: after a sign it takes a whole part,
and then a fraction and an exponent where they are complete.  A text of its
language is read as it stands when nothing follows that could be more of a
number, whatever stands before it.
-/

namespace OrderedChoice.Json

open OrderedChoice.Parser
open OrderedChoice.Regex (CharSet Term Step)

variable {taken after rest : List Char}

/-! ## The number pattern -/

/-- Characters that a number can go on with. -/
def numberTail : CharSet :=
  .union digitSet
    (.union (.single 0x2E) (.union (.single 0x65) (.single 0x45)))

/-- Characters that a number can start with. -/
def numberHead : CharSet := .union (.single 0x2D) digitSet

/-- The sign of a number. -/
def signTerm : Term :=
  .repetition (.set (.single 0x2D)) 0 (some 1) true

/-- The digits before the point. -/
def wholeTerm : Term :=
  .group 1
    (.alt (.set (.single 0x30))
      (.seq (.set (.range 0x31 0x39))
        (.repetition (.set digitSet) 0 none true)))

/-- The point and the digits after it. -/
def fractionTerm : Term :=
  .group 2
    (.seq (.set (.single 0x2E)) (.repetition (.set digitSet) 1 none true))

/-- The mark of the exponent, its sign and its digits. -/
def exponentTerm : Term :=
  .group 3
    (.seq
      (.seq (.set (.union (.single 0x65) (.single 0x45)))
        (.repetition (.set (.union (.single 0x2B) (.single 0x2D)))
          0 (some 1) true))
      (.repetition (.set digitSet) 1 none true))

theorem numberPattern_regex :
    numberPattern.regex =
      .seq
        (.seq (.seq signTerm wholeTerm)
          (.repetition fractionTerm 0 (some 1) true))
        (.repetition exponentTerm 0 (some 1) true) := rfl

/-- The parts of a number make a number. -/
theorem mem_number {sign whole fraction exponent : List Char}
    (inSign : sign ∈ signTerm.language) (inWhole : whole ∈ wholeTerm.language)
    (inFraction : fraction = [] ∨ fraction ∈ fractionTerm.language)
    (inExponent : exponent = [] ∨ exponent ∈ exponentTerm.language) :
    sign ++ whole ++ fraction ++ exponent ∈ numberPattern.regex.language := by
  rw [numberPattern_regex]
  exact ⟨_, ⟨_, ⟨sign, inSign, whole, inWhole, rfl⟩, fraction,
    Regex.mem_language_optional_iff.mpr inFraction, rfl⟩, exponent,
    Regex.mem_language_optional_iff.mpr inExponent, rfl⟩

theorem exists_parts (member : taken ∈ numberPattern.regex.language) :
    ∃ sign whole fraction exponent,
      taken = sign ++ whole ++ fraction ++ exponent ∧
      sign ∈ signTerm.language ∧ whole ∈ wholeTerm.language ∧
      (fraction = [] ∨ fraction ∈ fractionTerm.language) ∧
      (exponent = [] ∨ exponent ∈ exponentTerm.language) := by
  rw [numberPattern_regex] at member
  rcases member with ⟨_, ⟨_, ⟨sign, inSign, whole, inWhole, rfl⟩, fraction,
    inFraction, rfl⟩, exponent, inExponent, rfl⟩
  exact ⟨sign, whole, fraction, exponent, rfl, inSign, inWhole,
    Regex.mem_language_optional_iff.mp inFraction,
    Regex.mem_language_optional_iff.mp inExponent⟩

/-! ## How its parts start -/

theorem starts_of_mem_whole (member : taken ∈ wholeTerm.language) :
    digitSet.Starts taken := by
  rcases member with zero | others
  · rcases zero with ⟨character, inSet, rfl⟩
    refine ⟨character, [], rfl, ?_⟩
    rw [digitSet, CharSet.contains_range]
    rw [CharSet.contains_single] at inSet
    omega
  · rcases CharSet.starts_of_mem_mul others with
      ⟨character, rest, rfl, inSet⟩
    refine ⟨character, rest, rfl, ?_⟩
    rw [CharSet.contains_range] at inSet
    rw [digitSet, CharSet.contains_range]
    omega

theorem starts_of_mem_fraction (member : taken ∈ fractionTerm.language) :
    (CharSet.single 0x2E).Starts taken :=
  CharSet.starts_of_mem_mul member

theorem starts_of_mem_exponent (member : taken ∈ exponentTerm.language) :
    (CharSet.union (.single 0x65) (.single 0x45)).Starts taken := by
  have regrouped : taken ∈
      (CharSet.union (.single 0x65) (.single 0x45)).language *
        ((Term.repetition (.set (.union (.single 0x2B) (.single 0x2D)))
          0 (some 1) true).language *
          (Term.repetition (.set digitSet) 1 none true).language) := by
    rw [← mul_assoc]
    exact member
  exact CharSet.starts_of_mem_mul regrouped

theorem starts_of_mem_number (member : taken ∈ numberPattern.regex.language) :
    numberHead.Starts taken := by
  rcases exists_parts member with
    ⟨sign, whole, fraction, exponent, rfl, inSign, inWhole, _, _⟩
  rcases CharSet.mem_language_repetition_iff.mp inSign with ⟨covers, _, _⟩
  cases sign with
  | nil =>
      rcases starts_of_mem_whole inWhole with ⟨character, rest, rfl, inSet⟩
      refine ⟨character, rest ++ fraction ++ exponent, by simp, ?_⟩
      exact CharSet.contains_union.mpr (Or.inr inSet)
  | cons character sign =>
      have inSet := covers character List.mem_cons_self
      refine ⟨character, sign ++ whole ++ fraction ++ exponent, by simp, ?_⟩
      exact CharSet.contains_union.mpr (Or.inl inSet)

/-! ## What it prefers -/

theorem prefers_whole (member : taken ∈ wholeTerm.language)
    (stops : digitSet.StopsAt after ∨ taken = ['0']) :
    wholeTerm.step.Prefers taken after := by
  apply Regex.prefers_captureStep
  rcases member with zero | others
  · rcases zero with ⟨character, inSet, rfl⟩
    exact Step.prefers_orElse _ (Regex.prefers_setStep inSet after)
  · rcases others with ⟨_, ⟨character, inSet, rfl⟩, digits, inDigits, rfl⟩
    rw [CharSet.contains_range] at inSet
    have notZero : [character] ++ digits ≠ ['0'] := by
      intro same
      rw [(List.cons.inj same).1] at inSet
      exact absurd inSet (by decide)
    apply Step.prefers_orElse_second
    · apply Regex.refuses_setStep
      apply CharSet.stopsAt_cons_iff.mpr
      apply Bool.eq_false_iff.mpr
      intro isZero
      rw [CharSet.contains_single] at isZero
      omega
    · apply Step.prefers_andThen
      · exact Regex.prefers_setStep (CharSet.contains_range.mpr inSet) _
      · refine Regex.prefers_repetition ?_ inDigits
          (stops.resolve_right notZero)
        nofun

theorem prefers_fraction (member : taken ∈ fractionTerm.language)
    (stops : digitSet.StopsAt after) :
    fractionTerm.step.Prefers taken after := by
  rcases member with ⟨_, ⟨character, inSet, rfl⟩, digits, inDigits, rfl⟩
  apply Regex.prefers_captureStep
  apply Step.prefers_andThen
  · exact Regex.prefers_setStep inSet _
  · refine Regex.prefers_repetition ?_ inDigits stops
    nofun

theorem refuses_fraction (stops : (CharSet.single 0x2E).StopsAt rest) :
    fractionTerm.step.Refuses rest :=
  Regex.refuses_captureStep 2 <|
    Step.refuses_andThen _ (Regex.refuses_setStep stops)

/-- The digits of an exponent do not start with a sign, so the sign that the
pattern takes is the one of the text. -/
theorem prefers_exponent (member : taken ∈ exponentTerm.language)
    (stops : digitSet.StopsAt after) :
    exponentTerm.step.Prefers taken after := by
  rcases member with ⟨_, ⟨_, ⟨character, inSet, rfl⟩, sign, inSign, rfl⟩,
    digits, inDigits, rfl⟩
  rcases CharSet.mem_language_repetition_iff.mp inDigits with
    ⟨covers, positive, _⟩
  have startsWithDigit : digitSet.Starts digits := by
    cases digits with
    | nil => simp at positive
    | cons digit digits =>
        exact ⟨digit, digits, rfl, covers digit List.mem_cons_self⟩
  have signStops :
      (CharSet.union (.single 0x2B) (.single 0x2D)).StopsAt
        (digits ++ after) := by
    apply CharSet.stopsAt_of_starts after startsWithDigit
    intro value isDigit isSign
    simp [digitSet] at isDigit isSign
    omega
  apply Regex.prefers_captureStep
  apply Step.prefers_andThen
  · apply Step.prefers_andThen
    · exact Regex.prefers_setStep inSet _
    · refine Regex.prefers_repetition ?_ inSign signStops
      intro bound limited
      exact Nat.zero_le bound
  · refine Regex.prefers_repetition ?_ inDigits stops
    nofun

theorem refuses_exponent
    (stops : (CharSet.union (.single 0x65) (.single 0x45)).StopsAt rest) :
    exponentTerm.step.Refuses rest :=
  Regex.refuses_captureStep 3 <|
    Step.refuses_andThen _ <|
      Step.refuses_andThen _ (Regex.refuses_setStep stops)

/-- A number is taken part by part.  Its sign is the one of the text, since
the whole part starts with a digit. -/
theorem prefers_parts {sign whole fraction exponent : List Char}
    (inSign : sign ∈ signTerm.language) (inWhole : whole ∈ wholeTerm.language)
    (wholeStops : digitSet.StopsAt (fraction ++ (exponent ++ after)) ∨
      whole = ['0'])
    (fractionPreferred : (Term.repetition fractionTerm 0 (some 1)
      true).step.Prefers fraction (exponent ++ after))
    (exponentPreferred : (Term.repetition exponentTerm 0 (some 1)
      true).step.Prefers exponent after) :
    numberPattern.regex.step.Prefers (sign ++ whole ++ fraction ++ exponent)
      after := by
  have stopsAtWhole : (CharSet.single 0x2D).StopsAt
      (whole ++ (fraction ++ (exponent ++ after))) := by
    apply CharSet.stopsAt_of_starts _ (starts_of_mem_whole inWhole)
    intro value isDigit isSign
    simp [digitSet] at isDigit isSign
    omega
  rw [numberPattern_regex]
  refine Step.prefers_andThen (Step.prefers_andThen (Step.prefers_andThen ?_ ?_)
    fractionPreferred) exponentPreferred
  · refine Regex.prefers_repetition ?_ inSign stopsAtWhole
    intro bound limited
    exact Nat.zero_le bound
  · exact prefers_whole inWhole wholeStops

/-- Neither digits nor a point go on at an exponent. -/
theorem stopsAt_exponent (member : taken ∈ exponentTerm.language)
    (after : List Char) :
    digitSet.StopsAt (taken ++ after) ∧
      (CharSet.single 0x2E).StopsAt (taken ++ after) := by
  have starts := starts_of_mem_exponent member
  constructor <;>
  · apply CharSet.stopsAt_of_starts after starts
    intro value isMark other
    simp [digitSet] at isMark other
    omega

/-- No digits go on at a fraction. -/
theorem stopsAt_fraction (member : taken ∈ fractionTerm.language)
    (after : List Char) : digitSet.StopsAt (taken ++ after) := by
  apply CharSet.stopsAt_of_starts _ (starts_of_mem_fraction member)
  intro value isPoint isDigit
  simp [digitSet] at isPoint isDigit
  omega

/-- A number is taken whole when nothing follows that could be more of it. -/
theorem prefers_number (member : taken ∈ numberPattern.regex.language)
    (stops : numberTail.StopsAt after) :
    numberPattern.regex.step.Prefers taken after := by
  rcases exists_parts member with ⟨sign, whole, fraction, exponent, rfl,
    inSign, inWhole, fractionCases, exponentCases⟩
  rcases CharSet.stopsAt_union_iff.mp stops with ⟨digitsStop, marksStop⟩
  rcases CharSet.stopsAt_union_iff.mp marksStop with
    ⟨pointStops, exponentStops⟩
  have stopsAtExponent : digitSet.StopsAt (exponent ++ after) ∧
      (CharSet.single 0x2E).StopsAt (exponent ++ after) := by
    rcases exponentCases with rfl | inTerm
    · exact ⟨digitsStop, pointStops⟩
    · exact stopsAt_exponent inTerm after
  have stopsAtFraction :
      digitSet.StopsAt (fraction ++ (exponent ++ after)) := by
    rcases fractionCases with rfl | inTerm
    · exact stopsAtExponent.1
    · exact stopsAt_fraction inTerm _
  apply prefers_parts inSign inWhole (Or.inl stopsAtFraction)
  · rcases fractionCases with rfl | inTerm
    · exact Step.prefers_optional_nil (refuses_fraction stopsAtExponent.2)
    · exact Step.prefers_optional (prefers_fraction inTerm stopsAtExponent.1)
  · rcases exponentCases with rfl | inTerm
    · exact Step.prefers_optional_nil (refuses_exponent exponentStops)
    · exact Step.prefers_optional (prefers_exponent inTerm digitsStop)

theorem refuses_number (stops : numberHead.StopsAt rest) :
    numberPattern.regex.step.Refuses rest := by
  apply Term.refuses_of_notMem
  rintro taken after rfl member
  rcases starts_of_mem_number member with ⟨character, others, rfl, inSet⟩
  have outside := stops character rfl
  rw [inSet] at outside
  cases outside

/-! ## Numbers as tokens -/

/-- The texts of numbers: those of the pattern that name a double. -/
def numberTexts : Texts Json := fun text value =>
  text ∈ numberPattern.regex.language ∧
    ∃ number, Binary64.read? (String.ofList text) = some number ∧
      value = .number number

section

variable {R : Type → Type} {rules : Rules R}

theorem takes_numeral {value : Json} (holds : numberTexts taken value)
    (stops : numberTail.StopsAt after) :
    (numeral : Parser R Json).Takes rules taken after value := by
  rcases holds with ⟨member, number, read, rfl⟩
  apply takes_describe
  apply takes_bind_success (takes_matching (prefers_number member stops))
  rw [read]

theorem refuses_numeral (stops : numberHead.StopsAt rest) :
    (numeral : Parser R Json).Refuses rules rest :=
  refuses_describe _ <|
    refuses_bind _ (refuses_matching (refuses_number stops))

end

/-- Zero is a number. -/
theorem zero_mem_numberTexts : ∃ value, numberTexts ['0'] value := by
  have zero : ['0'] ∈ wholeTerm.language := Or.inl ⟨'0', rfl, rfl⟩
  have noSign : [] ∈ signTerm.language :=
    Regex.mem_language_optional_iff.mpr (Or.inl rfl)
  exact ⟨.number ⟨0⟩, mem_number noSign zero (Or.inl rfl) (Or.inl rfl), ⟨0⟩,
    by decide, rfl⟩

/-- A number that is not read is reported where it was to start, so only the
text before it matters there. -/
theorem tracks_numeral {R : Type → Type} {source : Source}
    {outlook : Outlook source} {calls : Calls R} {turns : Nat}
    (suits : ∀ index, outlook.viable (source.textBefore index) →
      outlook.suits index "a number") :
    numeral.Tracks outlook calls turns numberTexts := by
  intro index boundary allows result answer
  have suitsHere : outlook.suits index "a number" := by
    rcases zero_mem_numberTexts with ⟨value, zero⟩
    exact suits index (Outlook.viable_of_allows allows zero)
  rw [numeral, attempt] at answer
  rcases Run.mapResult_answer_eq_ok answer with ⟨before, ends, rfl⟩
  rw [matching, answer_bind_leaf, Primitive.parse,
    Primitive.parsePattern_eq] at ends
  cases matched : numberPattern.matchAt source index with
  | none =>
      simp only [matched] at ends
      cases ends
      exact .failed (.single suitsHere)
  | some found =>
      rcases Regex.Term.crossed_of_matchAt matched with
        ⟨crossed, member, after, remains, stops⟩
      simp only [matched, Pattern.groupText_zero matched, stops,
        Source.between_of_rest remains] at ends
      cases read : Binary64.read? (String.ofList crossed) with
      | none =>
          simp only [ParseResult.success, read] at ends
          cases ends
          exact .failed (.single suitsHere)
      | some number =>
          simp only [ParseResult.success, read] at ends
          cases ends
          constructor
          · exact Diagnostics.Reports.none.merge .none
          · intro stop value outcome
            cases outcome
            exact ⟨crossed, after, remains, rfl, member, number, read, rfl⟩

/-- The texts that the parser for numbers accepts on their own. -/
theorem accepts_numeral_iff {R : Type → Type} {rules : Rules R}
    {text : List Char} {value : Json} :
    Accepts rules numeral (.ofCharacters text) value ↔
      numberTexts text value := by
  constructor
  · intro accepts
    exact texts_of_accepts
      (fun fuel => tracks_numeral fun index viable => trivial) accepts
  · intro holds
    apply accepts_of_takes
    exact takes_numeral holds CharSet.stopsAt_nil

end OrderedChoice.Json
