import Mathlib.Computability.Language
import Mathlib.Order.CompletePartialOrder
import OrderedChoice.Proofs.Text.Boundary
import OrderedChoice.Regex.Matching

/-!
# Arrivals

An expression has a language, the texts that it spells.  Every thread that an
expression arrives at has crossed one of these texts and nothing else: its
cursor stands where the crossed text ends.  Each way of composing steps keeps
this, so it holds of every expression.  A match that starts at a boundary thus
stops at one, and the text between them is in the language.

The language leaves out what assertions look at, so a text in it need not match
everywhere.
-/

namespace OrderedChoice.Regex

/-! ## Languages -/

/-- Texts of a language in a row, at most as many as a limit allows. -/
def upTo (language : Language Char) (limit : Option Nat) : Language Char :=
  {text | ∃ count, (∀ bound, limit = some bound → count ≤ bound) ∧
    text ∈ language ^ count}

theorem mem_upTo {language : Language Char} {limit : Option Nat}
    {text : List Char} :
    text ∈ upTo language limit ↔
      ∃ count, (∀ bound, limit = some bound → count ≤ bound) ∧
        text ∈ language ^ count := Iff.rfl

/-- No text at all is within every limit. -/
theorem one_le_upTo (language : Language Char) (limit : Option Nat) :
    1 ≤ upTo language limit := by
  intro text member
  exact ⟨0, fun _ _ => Nat.zero_le _, member⟩

/-- One more text is within a limit that is one higher. -/
theorem mul_upTo_le (language : Language Char) (limit : Option Nat)
    (positive : limit ≠ some 0) :
    language * upTo language (limit.map (· - 1)) ≤ upTo language limit := by
  rintro text ⟨first, inFirst, rest, ⟨count, within, inRest⟩, rfl⟩
  refine ⟨count + 1, ?_, ?_⟩
  · intro bound limited
    have below := within (bound - 1) (by rw [limited]; rfl)
    have nonzero : bound ≠ 0 := by
      rintro rfl
      exact positive limited
    omega
  · rw [pow_succ']
    exact Language.append_mem_mul inFirst inRest

/-- The texts of single characters of a set. -/
def CharSet.language (members : CharSet) : Language Char :=
  {text | ∃ character, members.contains character.toNat = true ∧
    text = [character]}

/-- The texts that an expression spells. -/
def Term.language : Term → Language Char
  | .empty => 1
  | .set members => members.language
  | .look _ => 1
  | .seq first second => first.language * second.language
  | .alt first second => first.language + second.language
  | .repetition body min max _ =>
    body.language ^ min * upTo body.language (max.map (· - min))
  | .group _ body => body.language

/-! ## Cursors -/

/-- A cursor can be moved to another one over a text of a language. -/
def Cursor.Reaches (language : Language Char) (start stop : Cursor) : Prop :=
  ∃ crossed ∈ language, start.rest = crossed ++ stop.rest ∧
    stop.offset = start.offset + byteLength crossed

namespace Cursor.Reaches

variable {language other : Language Char} {start middle stop : Cursor}

theorem refl (cursor : Cursor) : Reaches 1 cursor cursor :=
  ⟨[], Language.nil_mem_one, rfl, rfl⟩

theorem trans (first : Reaches language start middle)
    (second : Reaches other middle stop) :
    Reaches (language * other) start stop := by
  rcases first with ⟨earlier, inFirst, firstRest, firstOffset⟩
  rcases second with ⟨later, inSecond, secondRest, secondOffset⟩
  refine ⟨earlier ++ later, Language.append_mem_mul inFirst inSecond, ?_, ?_⟩
  · rw [firstRest, secondRest, List.append_assoc]
  · rw [secondOffset, firstOffset, byteLength_append, Nat.add_assoc]

theorem mono (reaches : Reaches language start stop)
    (weaker : language ≤ other) : Reaches other start stop := by
  rcases reaches with ⟨crossed, member, rest, offset⟩
  exact ⟨crossed, weaker member, rest, offset⟩

theorem character {members : CharSet} (offset : Nat) (before : Option Char)
    {crossed : Char} (rest : List Char)
    (member : members.contains crossed.toNat = true) :
    Reaches members.language ⟨offset, before, crossed :: rest⟩
      ⟨offset + crossed.utf8Size, some crossed, rest⟩ :=
  ⟨[crossed], ⟨crossed, member, rfl⟩, rfl, by simp⟩

end Cursor.Reaches

theorem Cursor.reaches_of_advance {members : CharSet} {count : Nat}
    {start stop : Cursor}
    (advanced : Cursor.advance members count start = some stop) :
    Reaches (members.language ^ count) start stop := by
  induction count generalizing start with
  | zero =>
      rw [Cursor.advance] at advanced
      cases advanced
      exact .refl _
  | succ count inductiveStep =>
      rcases start with ⟨offset, before, rest⟩
      cases rest with
      | nil => simp [Cursor.advance] at advanced
      | cons character rest =>
          rw [Cursor.advance] at advanced
          split at advanced
          · rename_i member
            rw [pow_succ']
            exact (Reaches.character offset before rest member).trans
              (inductiveStep advanced)
          · cases advanced

theorem reaches_of_mem_runs {members : CharSet} {limit : Option Nat}
    {offset : Nat} {before : Option Char} {rest : List Char}
    {found : List Cursor} {arrival : Cursor}
    (member : arrival ∈ runs members limit offset before rest found) :
    arrival ∈ found ∨
      Cursor.Reaches (upTo members.language limit) ⟨offset, before, rest⟩
        arrival := by
  induction rest generalizing limit offset before found with
  | nil =>
      rw [runs] at member
      rcases List.mem_cons.mp member with rfl | earlier
      · exact Or.inr ((Cursor.Reaches.refl _).mono (one_le_upTo _ _))
      · exact Or.inl earlier
  | cons character rest inductiveStep =>
      rw [runs] at member
      have here : ∀ {known : List Cursor},
          arrival ∈ (⟨offset, before, character :: rest⟩ : Cursor) :: known →
          arrival ∈ known ∨
            Cursor.Reaches (upTo members.language limit)
              ⟨offset, before, character :: rest⟩ arrival := by
        intro known inKnown
        rcases List.mem_cons.mp inKnown with rfl | earlier
        · exact Or.inr ((Cursor.Reaches.refl _).mono (one_le_upTo _ _))
        · exact Or.inl earlier
      split at member
      · rename_i goesOn
        rw [Bool.and_eq_true] at goesOn
        rcases inductiveStep member with earlier | further
        · exact here earlier
        · have first := Cursor.Reaches.character offset before rest goesOn.2
          have within : limit ≠ some 0 := by simpa using goesOn.1
          exact Or.inr ((first.trans further).mono (mul_upTo_le _ _ within))
      · exact here member

/-! ## Lists of threads -/

theorem mem_of_mem_distinctFrom {Item Key : Type} [BEq Key] {key : Item → Key}
    {seen : List Key} {items : List Item} {item : Item}
    (member : item ∈ distinctFrom key seen items) : item ∈ items := by
  induction items generalizing seen with
  | nil => exact member
  | cons first items inductiveStep =>
      rw [distinctFrom] at member
      split at member
      · exact List.mem_cons_of_mem _ (inductiveStep member)
      · rcases List.mem_cons.mp member with rfl | later
        · exact List.mem_cons_self
        · exact List.mem_cons_of_mem _ (inductiveStep later)

/-! ## Steps -/

/-- A step only arrives where a text of a language can be crossed to. -/
def Step.Crosses (step : Step) (language : Language Char) : Prop :=
  ∀ thread arrival : Thread, arrival ∈ step thread →
    thread.cursor.Reaches language arrival.cursor

namespace Step.Crosses

variable {first second step : Step} {language other : Language Char}

theorem mono (crosses : step.Crosses language) (weaker : language ≤ other) :
    step.Crosses other := fun thread arrival member =>
  (crosses thread arrival member).mono weaker

theorem stay : Step.stay.Crosses 1 := by
  intro thread arrival member
  rw [List.mem_singleton.mp member]
  exact .refl _

theorem andThen (firstCrosses : first.Crosses language)
    (secondCrosses : second.Crosses other) :
    (first.andThen second).Crosses (language * other) := by
  intro thread arrival member
  rcases List.mem_flatMap.mp (mem_of_mem_distinctFrom member) with
    ⟨middle, inFirst, inSecond⟩
  exact (firstCrosses _ _ inFirst).trans (secondCrosses _ _ inSecond)

theorem orElse (firstCrosses : first.Crosses language)
    (secondCrosses : second.Crosses other) :
    (first.orElse second).Crosses (language + other) := by
  intro thread arrival member
  rcases List.mem_append.mp (mem_of_mem_distinctFrom member) with
    inFirst | inSecond
  · exact (firstCrosses _ _ inFirst).mono fun _ => Or.inl
  · exact (secondCrosses _ _ inSecond).mono fun _ => Or.inr

theorem advance (crosses : step.Crosses language) {count : Nat}
    {threads : List Thread} {arrival : Thread}
    (member : arrival ∈ step.advance count threads) :
    ∃ thread ∈ threads,
      thread.cursor.Reaches (language ^ count) arrival.cursor := by
  induction count generalizing threads with
  | zero => exact ⟨arrival, member, .refl _⟩
  | succ count inductiveStep =>
      rcases inductiveStep member with ⟨middle, inMiddle, reaches⟩
      rcases List.mem_flatMap.mp (mem_of_mem_distinctFrom inMiddle) with
        ⟨thread, inThreads, inStep⟩
      rw [pow_succ']
      exact ⟨thread, inThreads, (crosses _ _ inStep).trans reaches⟩

theorem times (crosses : step.Crosses language) (count : Nat) :
    (step.times count).Crosses (language ^ count) := by
  intro thread arrival member
  rcases crosses.advance member with ⟨start, inStart, reaches⟩
  rw [List.mem_singleton.mp inStart] at reaches
  exact reaches

/-- Each entry either stays, and then does not go on, or takes one turn. -/
theorem spread (crosses : step.Crosses language) {greedy : Bool} {count : Nat}
    {entries : List (Thread × Bool)} {arrival : Thread × Bool}
    (member : arrival ∈ step.spread greedy count entries) :
    ∃ entry ∈ entries,
      entry.1.cursor.Reaches (upTo language (some count))
        arrival.1.cursor := by
  induction count generalizing entries with
  | zero =>
      exact ⟨arrival, member, (Cursor.Reaches.refl _).mono (one_le_upTo _ _)⟩
  | succ count inductiveStep =>
      rw [Step.spread] at member
      split at member
      · rcases inductiveStep member with ⟨middle, inMiddle, reaches⟩
        rcases List.mem_flatMap.mp (mem_of_mem_distinctFrom inMiddle) with
          ⟨entry, inEntries, inTurn⟩
        refine ⟨entry, inEntries, ?_⟩
        -- The turn leaves the entry where it is or takes the step from it.
        have turn : middle.1 = entry.1 ∨ middle.1 ∈ step entry.1 := by
          grind
        rcases turn with stays | moves
        · rw [stays] at reaches
          apply reaches.mono
          rintro text ⟨taken, within, inPower⟩
          refine ⟨taken, ?_, inPower⟩
          intro bound limited
          cases limited
          exact Nat.le_succ_of_le (within count rfl)
        · exact ((crosses _ _ moves).trans reaches).mono
            (mul_upTo_le language (some (count + 1)) (by simp))
      · exact ⟨arrival, member,
          (Cursor.Reaches.refl _).mono (one_le_upTo _ _)⟩

theorem atMost (crosses : step.Crosses language) (greedy : Bool)
    (count : Nat) :
    (step.atMost greedy count).Crosses (upTo language (some count)) := by
  intro thread arrival member
  rcases List.mem_map.mp (mem_of_mem_distinctFrom member) with
    ⟨entry, inEntries, rfl⟩
  rcases crosses.spread inEntries with ⟨start, inStart, reaches⟩
  rw [List.mem_singleton.mp inStart] at reaches
  exact reaches

theorem turns (crosses : step.Crosses language) {greedy : Bool} {fuel : Nat}
    {isFirst : Bool} {thread arrival : Thread} {found : List Thread}
    (member : arrival ∈ step.turns greedy fuel isFirst thread found) :
    arrival ∈ found ∨
      thread.cursor.Reaches (language * upTo language none)
        arrival.cursor := by
  induction fuel generalizing isFirst thread found with
  | zero => exact Or.inl member
  | succ fuel inductiveStep =>
      rw [Step.turns] at member
      have reached : ∀ next ∈ step thread,
          thread.cursor.Reaches language next.cursor := fun next inStep =>
        crosses _ _ inStep
      generalize step thread = arrivals at member reached
      induction arrivals generalizing found with
      | nil => exact Or.inl member
      | cons next arrivals arrivalsStep =>
          rw [List.foldl_cons] at member
          have nextReached := reached next List.mem_cons_self
          have nextStops : thread.cursor.Reaches (language * upTo language none)
              next.cursor :=
            (nextReached.trans (.refl _)).mono
              (mul_le_mul_right (one_le_upTo _ _) _)
          have nextGoesOn : next.cursor.Reaches (language * upTo language none)
              arrival.cursor →
              thread.cursor.Reaches (language * upTo language none)
                arrival.cursor := fun further =>
            (nextReached.trans further).mono
              (mul_le_mul_right (mul_upTo_le language none nofun) _)
          rcases arrivalsStep member fun other inOthers =>
            reached other (List.mem_cons_of_mem _ inOthers) with
            inFound | reaches
          · -- One arrival adds itself and what further turns lead to.
            split at inFound
            · exact Or.inl inFound
            · split at inFound
              · split at inFound
                · rcases List.mem_cons.mp inFound with rfl | inFound
                  · exact Or.inr nextStops
                  · exact Or.inl inFound
                · exact Or.inl inFound
              · split at inFound
                · rcases List.mem_cons.mp inFound with rfl | inFound
                  · exact Or.inr nextStops
                  · exact (inductiveStep inFound).imp_right nextGoesOn
                · rcases inductiveStep inFound with inFound | reaches
                  · rcases List.mem_cons.mp inFound with rfl | inFound
                    · exact Or.inr nextStops
                    · exact Or.inl inFound
                  · exact Or.inr (nextGoesOn reaches)
          · exact Or.inr reaches

theorem atLeastOnce (crosses : step.Crosses language) (greedy : Bool) :
    (step.atLeastOnce greedy).Crosses (language * upTo language none) := by
  intro thread arrival member
  rcases crosses.turns (List.mem_reverse.mp member) with inFound | reaches
  · cases inFound
  · exact reaches

theorem anyTimes (crosses : step.Crosses language) (greedy : Bool) :
    (step.anyTimes greedy).Crosses (upTo language none) := by
  have more : (step.atLeastOnce greedy).Crosses (upTo language none) :=
    (crosses.atLeastOnce greedy).mono (mul_upTo_le language none nofun)
  have none : Step.stay.Crosses (upTo language none) :=
    stay.mono (one_le_upTo _ _)
  have both : upTo language Option.none + upTo language Option.none ≤
      upTo language Option.none := fun _ member => member.elim id id
  cases greedy with
  | true => exact (more.orElse none).mono both
  | false => exact (none.orElse more).mono both

theorem between (crosses : step.Crosses language) (min : Nat)
    (max : Option Nat) (greedy : Bool) :
    (step.between min max greedy).Crosses
      (language ^ min * upTo language (max.map (· - min))) := by
  cases max with
  | some max =>
      exact (crosses.times min).andThen (crosses.atMost greedy (max - min))
  | none =>
      cases min with
      | zero =>
          rw [pow_zero, one_mul]
          exact crosses.anyTimes greedy
      | succ turns =>
          rw [pow_succ, mul_assoc]
          exact (crosses.times turns).andThen (crosses.atLeastOnce greedy)

end Step.Crosses

/-! ## Expressions -/

theorem crosses_runStep (members : CharSet) (min : Nat) (max : Option Nat)
    (greedy : Bool) :
    (runStep members min max greedy).Crosses
      (members.language ^ min *
        upTo members.language (max.map (· - min))) := by
  intro thread arrival member
  rw [runStep] at member
  split at member
  · cases member
  · rename_i cursor advanced
    rcases List.mem_map.mp member with ⟨stop, inRuns, rfl⟩
    have inLongest : stop ∈ runs members (max.map (· - min)) cursor.offset
        cursor.before cursor.rest [] := by
      cases greedy with
      | true => simpa using inRuns
      | false => simpa using inRuns
    rcases reaches_of_mem_runs inLongest with none | reaches
    · cases none
    · exact (Cursor.reaches_of_advance advanced).trans reaches

theorem crosses_setStep (members : CharSet) :
    (setStep members).Crosses members.language := by
  intro thread arrival member
  rw [setStep] at member
  split at member
  · cases member
  · rename_i cursor advanced
    rw [List.mem_singleton.mp member]
    have reaches := Cursor.reaches_of_advance advanced
    rw [pow_one] at reaches
    exact reaches

theorem crosses_lookStep (assertion : Look) :
    (lookStep assertion).Crosses 1 := by
  intro thread arrival member
  rw [lookStep] at member
  split at member
  · rw [List.mem_singleton.mp member]
    exact .refl _
  · cases member

theorem crosses_captureStep (number : Nat) {step : Step}
    {language : Language Char} (crosses : step.Crosses language) :
    (captureStep number step).Crosses language := by
  intro thread arrival member
  rcases List.mem_map.mp member with ⟨stop, inStep, rfl⟩
  exact crosses thread stop inStep

/-- Every expression crosses a text of its language to where it arrives. -/
theorem Term.crosses_step (term : Term) :
    term.step.Crosses term.language := by
  induction term with
  | empty => exact .stay
  | set members => exact crosses_setStep members
  | look assertion => exact crosses_lookStep assertion
  | seq first second firstCrosses secondCrosses =>
      exact firstCrosses.andThen secondCrosses
  | alt first second firstCrosses secondCrosses =>
      exact firstCrosses.orElse secondCrosses
  | repetition body min max greedy bodyCrosses =>
      rw [Term.step]
      split
      · rename_i members single
        cases body with
        | set members =>
            cases single
            exact crosses_runStep members min max greedy
        | _ => cases single
      · exact bodyCrosses.between min max greedy
  | group number body bodyCrosses =>
      exact crosses_captureStep number bodyCrosses

/-- A match starts at a boundary and stops where a text of the language
ends. -/
theorem Term.crossed_of_matchAt {term : Term} {source : Source}
    {offset : Nat} {found : Match}
    (matched : term.matchAt source offset = some found) :
    ∃ crossed ∈ term.language, ∃ after,
      source.rest offset = some (crossed ++ after) ∧
        found.stop = offset + byteLength crossed := by
  rw [Term.matchAt] at matched
  split at matched
  · cases matched
  · rename_i rest remains
    rcases Option.map_eq_some_iff.mp matched with ⟨arrival, first, rfl⟩
    rcases term.crosses_step _ _ (List.mem_of_mem_head? first) with
      ⟨crossed, member, restSplit, stops⟩
    exact ⟨crossed, member, arrival.cursor.rest, remains.trans
      (congrArg some restSplit), stops⟩

/-! ## Expressions that cross something -/

theorem Term.ne_nil_of_crossesSome {term : Term}
    (crosses : term.crossesSome = true) {text : List Char}
    (member : text ∈ term.language) : text ≠ [] := by
  induction term generalizing text with
  | empty => cases crosses
  | set members =>
      rcases member with ⟨character, _, rfl⟩
      exact List.cons_ne_nil _ _
  | look assertion => cases crosses
  | seq first second firstStep secondStep =>
      rcases member with ⟨earlier, inFirst, later, inSecond, rfl⟩
      rcases Bool.or_eq_true_iff.mp crosses with firstCrosses | secondCrosses
      · exact List.append_ne_nil_of_left_ne_nil
          (firstStep firstCrosses inFirst) _
      · exact List.append_ne_nil_of_right_ne_nil _
          (secondStep secondCrosses inSecond)
  | alt first second firstStep secondStep =>
      rw [crossesSome, Bool.and_eq_true] at crosses
      rcases member with inFirst | inSecond
      · exact firstStep crosses.1 inFirst
      · exact secondStep crosses.2 inSecond
  | repetition body min max greedy bodyStep =>
      rw [crossesSome, Bool.and_eq_true, bne_iff_ne] at crosses
      rcases Nat.exists_eq_add_one_of_ne_zero crosses.1 with ⟨more, rfl⟩
      rcases member with ⟨turns, inTurns, further, _, rfl⟩
      rw [pow_succ'] at inTurns
      rcases inTurns with ⟨first, inBody, others, _, rfl⟩
      exact List.append_ne_nil_of_left_ne_nil
        (List.append_ne_nil_of_left_ne_nil (bodyStep crosses.2 inBody) _) _
  | group number body bodyStep => exact bodyStep crosses member

end OrderedChoice.Regex
