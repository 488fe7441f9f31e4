import OrderedChoice.ParseError
import OrderedChoice.Proofs.Diagnostics.Merging
import OrderedChoice.Proofs.Text.Escaping

/-!
# Messages of parse errors

A message leads up to what was expected, lists it between apostrophes, and ends
with a position.  Read from the front each part shows where it ends.  A single
description stands right behind the first word, any other number of them behind
two more words.  An apostrophe opens a description and the next one that is not
escaped closes it, and what follows is a comma or the blank before the position.
So no two errors share a message, unless they expect the same at the same
position.
-/

namespace OrderedChoice

/-! ## Positions -/

namespace Position

theorem toList_render (position : Position) :
    position.render.toList =
      Nat.toDigits 10 position.line ++
        ':' :: Nat.toDigits 10 position.column := by
  simp [render]

theorem colon_not_mem_toDigits (value : Nat) : ':' ∉ Nat.toDigits 10 value := by
  intro member
  rcases exists_of_mem_toDigits (by decide) member with ⟨digit, same⟩
  exact Nat.digitChar_ne ':' (by decide) same.symm

theorem eq_of_toList_render_eq {first second : Position}
    (same : first.render.toList = second.render.toList) : first = second := by
  rw [toList_render, toList_render] at same
  rcases eq_of_append_mark (colon_not_mem_toDigits _)
    (colon_not_mem_toDigits _) same with ⟨lines, columns⟩
  rcases first with ⟨line, column⟩
  rcases second with ⟨otherLine, otherColumn⟩
  rw [mk.injEq]
  exact ⟨eq_of_toDigits_eq (by decide) (by decide) lines,
    eq_of_toDigits_eq (by decide) (by decide) columns⟩

end Position

namespace ParseError

/-! ## Descriptions -/

/-- A description between apostrophes shows where it ends. -/
theorem quoted_unique {first second : String} {rest others : List Char}
    (same : (quoted first).toList ++ rest = (quoted second).toList ++ others) :
    first = second ∧ rest = others := by
  rw [quoted, quoted, String.toList_ofList, String.toList_ofList,
    List.cons_append, List.cons_append, List.append_assoc,
    List.append_assoc] at same
  rcases (Escaping.forms_escapeDescription _).unique
    (Escaping.forms_escapeDescription _) (List.cons.inj same).2 with
    ⟨characters, sameRest⟩
  exact ⟨String.toList_injective characters, sameRest⟩

/-- Descriptions behind another one. -/
def further (descriptions : List String) : List Char :=
  descriptions.flatMap fun description =>
    ',' :: ' ' :: (quoted description).toList

/-- Descriptions as a message lists them. -/
def listing : List String → List Char
  | [] => []
  | description :: others => (quoted description).toList ++ further others

theorem toList_intercalate_quoted (descriptions : List String) :
    (String.intercalate ", " (descriptions.map quoted)).toList =
      listing descriptions := by
  induction descriptions with
  | nil => simp [listing]
  | cons description others inductiveStep =>
      cases others with
      | nil => simp [listing, further]
      | cons second others =>
          rw [List.map_cons, List.map_cons, String.intercalate_cons_cons,
            ← List.map_cons, String.toList_append, String.toList_append,
            inductiveStep]
          simp [listing, further]

/-- A blank ends descriptions where no comma goes on with them. -/
theorem further_unique {first second : List String} {rest others : List Char}
    (same : further first ++ ' ' :: rest = further second ++ ' ' :: others) :
    first = second ∧ rest = others := by
  induction first generalizing second with
  | nil =>
      cases second with
      | nil => exact ⟨rfl, (List.cons.inj same).2⟩
      | cons => cases (List.cons.inj same).1
  | cons description descriptions inductiveStep =>
      cases second with
      | nil => cases (List.cons.inj same).1
      | cons other second =>
          rw [further, further, List.flatMap_cons, List.flatMap_cons,
            List.append_assoc, List.append_assoc] at same
          have quotes := (List.cons.inj (List.cons.inj same).2).2
          rcases quoted_unique quotes with ⟨rfl, behind⟩
          rcases inductiveStep behind with ⟨rfl, sameRest⟩
          exact ⟨rfl, sameRest⟩

theorem listing_unique {first second : List String} {rest others : List Char}
    (same : listing first ++ ' ' :: rest = listing second ++ ' ' :: others) :
    first = second ∧ rest = others := by
  cases first with
  | nil =>
      cases second with
      | nil => exact ⟨rfl, (List.cons.inj same).2⟩
      | cons other second =>
          rw [listing, listing, quoted, String.toList_ofList] at same
          cases (List.cons.inj same).1
  | cons description descriptions =>
      cases second with
      | nil =>
          rw [listing, listing, quoted, String.toList_ofList] at same
          cases (List.cons.inj same).1
      | cons other second =>
          rw [listing, listing, List.append_assoc, List.append_assoc] at same
          rcases quoted_unique same with ⟨rfl, behind⟩
          rcases further_unique behind with ⟨rfl, sameRest⟩
          exact ⟨rfl, sameRest⟩

/-! ## Messages -/

/-- What stands before descriptions, depending on whether there is just one. -/
def lead : List String → List Char
  | [_] => []
  | _ => "one of ".toList

theorem single_or_many (descriptions : List String) :
    (∃ description, descriptions = [description]) ∨
      lead descriptions = "one of ".toList := by
  match descriptions with
  | [] => exact .inr rfl
  | [description] => exact .inl ⟨description, rfl⟩
  | _ :: _ :: _ => exact .inr rfl

theorem toList_message (error : ParseError) :
    error.message.toList =
      "expected ".toList ++ (lead error.expected.items ++
        (listing error.expected.items ++
          ' ' :: ("at ".toList ++ error.position.render.toList))) := by
  rw [message]
  split
  · rename_i description single
    rw [single]
    simp [lead, listing, further]
  · rename_i several
    have many : lead error.expected.items = "one of ".toList := by
      rw [lead]
      exact several
    rw [many, ← toList_intercalate_quoted]
    simp

/-- An apostrophe stands where the words for several descriptions would. -/
theorem listing_single_ne {description : String} {rest others : List Char} :
    listing [description] ++ rest ≠ "one of ".toList ++ others := by
  intro same
  rw [listing, quoted, String.toList_ofList] at same
  simp at same

theorem lead_unique {first second : List String} {rest others : List Char}
    (same : lead first ++ (listing first ++ ' ' :: rest) =
      lead second ++ (listing second ++ ' ' :: others)) :
    first = second ∧ rest = others := by
  rcases single_or_many first with ⟨description, rfl⟩ | many
  · rcases single_or_many second with ⟨other, rfl⟩ | otherMany
    · exact listing_unique same
    · rw [otherMany] at same
      exact absurd same listing_single_ne
  · rcases single_or_many second with ⟨other, rfl⟩ | otherMany
    · rw [many] at same
      exact absurd same.symm listing_single_ne
    · rw [many, otherMany] at same
      exact listing_unique (List.append_cancel_left same)

/--
A message tells what an error expects and where.  Two errors have the same
message just when the same descriptions are expected by both and their positions
are the same, however many descriptions there are and whatever they contain.
-/
theorem message_eq_iff (first second : ParseError) :
    first.message = second.message ↔
      (∀ description,
        description ∈ first.expected ↔ description ∈ second.expected) ∧
      first.position = second.position := by
  constructor
  · intro same
    have texts := congrArg String.toList same
    rw [toList_message, toList_message] at texts
    rcases lead_unique (List.append_cancel_left texts) with ⟨items, behind⟩
    refine ⟨fun description => ?_, Position.eq_of_toList_render_eq
      (List.append_cancel_left behind)⟩
    rw [Expectations.mem_def, Expectations.mem_def, items]
  · rintro ⟨members, position⟩
    rw [message, message, Expectations.eq_of_mem_iff members, position]

-- One description that is made up to look like two.
example : message ⟨.singleton "a', 'b", 4, ⟨0, 4⟩⟩ =
    "expected 'a\\', \\'b' at 0:4" := by decide

end ParseError

end OrderedChoice
