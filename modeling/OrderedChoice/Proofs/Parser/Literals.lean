import OrderedChoice.Proofs.Parser.Gives

/-!
# Literals

A plain literal reads its text where that stands at the start of what remains.
One that is compared through a transform takes as many characters as its text
has, or all that is left, and looks at nothing else.  When the transform maps
texts character by character, too few of them never compare equal, so what is
taken corresponds to the text letter by letter, although not byte by byte.  When
it changes nothing, such a literal is a plain one, except where nothing can be
read: there it still finds the empty text.
-/

namespace OrderedChoice

/-- A transform maps every text character by character. -/
def Letterwise (transform : String → String) (letter : Char → Char) : Prop :=
  ∀ text, (transform text).toList = text.toList.map letter

theorem Letterwise.map_eq_iff {transform : String → String}
    {letter : Char → Char} (letterwise : Letterwise transform letter)
    {taken : List Char} {text : String} :
    transform (String.ofList taken) = transform text ↔
      taken.map letter = text.toList.map letter := by
  rw [← String.toList_inj, letterwise, letterwise, String.toList_ofList]

/-- What is taken stands at the start of what remains, is as many characters as
a text has, and maps to the same characters. -/
structure StandsFor (letter : Char → Char) (text : String)
    (rest taken : List Char) : Prop where
  starts : taken <+: rest
  many : taken.length = text.length
  same : taken.map letter = text.toList.map letter

theorem standsFor_iff {letter : Char → Char} {text : String}
    {rest taken : List Char} :
    StandsFor letter text rest taken ↔
      taken = rest.take text.length ∧
        taken.map letter = text.toList.map letter := by
  constructor
  · rintro ⟨starts, many, same⟩
    rw [← many]
    exact ⟨List.prefix_iff_eq_take.mp starts, same⟩
  · rintro ⟨rfl, same⟩
    have many := congrArg List.length same
    rw [List.length_map, List.length_map, String.length_toList] at many
    exact ⟨List.take_prefix _ _, many, same⟩

/-- Mapped by nothing, the characters taken are those of the text. -/
theorem standsFor_id_iff {text : String} {rest taken : List Char} :
    StandsFor id text rest taken ↔ taken = text.toList ∧ taken <+: rest := by
  constructor
  · rintro ⟨starts, many, same⟩
    rw [List.map_id, List.map_id] at same
    exact ⟨same, starts⟩
  · rintro ⟨rfl, starts⟩
    exact ⟨starts, String.length_toList, rfl⟩

namespace Primitive

variable {text : String} {transform : String → String} {letter : Char → Char}
  {source : Source} {index : Nat} {rest taken : List Char}

/-! ## At boundaries -/

theorem parseLiteralWith_of_standsFor
    (letterwise : Letterwise transform letter)
    (remains : source.rest index = some rest)
    (stands : StandsFor letter text rest taken) :
    parseLiteralWith text transform source index =
      .success (index + byteLength taken) text := by
  rcases standsFor_iff.mp stands with ⟨rfl, same⟩
  rw [parseLiteralWith, Source.restOrEmpty, remains, Option.getD_some]
  exact if_pos (letterwise.map_eq_iff.mpr same)

theorem parseLiteralWith_of_not_standsFor
    (letterwise : Letterwise transform letter)
    (remains : source.rest index = some rest)
    (differs : ∀ taken, ¬ StandsFor letter text rest taken) :
    parseLiteralWith text transform source index = .failure index text := by
  rw [parseLiteralWith, Source.restOrEmpty, remains, Option.getD_some]
  refine if_neg fun equal => differs (rest.take text.length) ?_
  exact standsFor_iff.mpr ⟨rfl, letterwise.map_eq_iff.mp equal⟩

/-! ## Where nothing can be read -/

/-- Nothing is taken there, which is the empty text only. -/
theorem parseLiteralWith_of_outside
    (letterwise : Letterwise transform letter)
    (outside : source.rest index = none) :
    parseLiteralWith text transform source index =
      if text = "" then .success index text else .failure index text := by
  have nothing : transform (String.ofList []) = transform text ↔ text = "" := by
    rw [letterwise.map_eq_iff, List.map_nil, eq_comm, List.map_eq_nil_iff,
      String.toList_eq_nil_iff]
  rw [parseLiteralWith, Source.restOrEmpty, outside, Option.getD_none,
    List.take_nil]
  simp only [nothing, byteLength_nil, Nat.add_zero]

theorem parseLiteral_of_outside (outside : source.rest index = none) :
    parseLiteral text source index = .failure index text := by
  rw [parseLiteral, outside]

/-! ## Without a change -/

theorem parseLiteralWith_eq_parseLiteral (letterwise : Letterwise transform id)
    (readable : ¬ (text = "" ∧ source.rest index = none)) :
    parseLiteralWith text transform source index =
      parseLiteral text source index := by
  cases remains : source.rest index with
  | none =>
      rw [parseLiteralWith_of_outside letterwise remains,
        parseLiteral_of_outside remains,
        if_neg fun empty => readable ⟨empty, remains⟩]
  | some rest =>
      by_cases starts : text.toList <+: rest
      · rw [Parser.parseLiteral_of_starts remains starts,
          parseLiteralWith_of_standsFor letterwise remains
            (standsFor_id_iff.mpr ⟨rfl, starts⟩)]
      · rw [Parser.parseLiteral_of_differs remains starts]
        refine parseLiteralWith_of_not_standsFor letterwise remains ?_
        intro taken stands
        rcases standsFor_id_iff.mp stands with ⟨rfl, standsThere⟩
        exact starts standsThere

end Primitive

namespace Parser

variable {R : Type → Type}

/--
A literal compared through a transform that maps characters one by one reads its
own text, over as many characters that map to the same, however many bytes these
are; where there are none it fails, expecting its text.  Where nothing can be
read it finds the empty text and no other.  If the mapping changes nothing, its
runs are those of the plain literal, except that the plain one does not find the
empty text where nothing can be read.
-/
theorem transformed_literals_agree (text : String)
    {transform : String → String} {letter : Char → Char}
    (letterwise : Letterwise transform letter) (rules : Rules R)
    (source : Source) (index : Nat) :
    (∀ rest, source.rest index = some rest → ∀ result,
      (literalWith text transform).Gives rules source index result ↔
        (∃ taken, StandsFor letter text rest taken ∧
          result = .success (index + byteLength taken) text) ∨
        ((∀ taken, ¬ StandsFor letter text rest taken) ∧
          result = .failure index text)) ∧
    (source.isBoundary index = false → ∀ result,
      (literalWith text transform).Gives rules source index result ↔
        result = if text = "" then .success index text
          else .failure index text) ∧
    (letter = id → ¬ (text = "" ∧ source.isBoundary index = false) →
      ∀ fuel, (literalWith text transform).run rules fuel source index =
        (literal text).run rules fuel source index) ∧
    (letter = id → text = "" → source.isBoundary index = false →
      (literal text).Gives rules source index (.failure index text) ∧
      (literalWith text transform).Gives rules source index
        (.success index text)) := by
  have outside : source.isBoundary index = false ↔ source.rest index = none := by
    rw [Source.isBoundary, Option.isSome_eq_false_iff, Option.isNone_iff_eq_none]
  rw [outside]
  refine ⟨?_, ?_, ?_, ?_⟩
  · intro rest remains result
    rw [literalWith, gives_leaf_iff, Primitive.parse]
    constructor
    · rintro rfl
      by_cases found : ∃ taken, StandsFor letter text rest taken
      · rcases found with ⟨taken, stands⟩
        exact .inl ⟨taken, stands, Primitive.parseLiteralWith_of_standsFor
          letterwise remains stands⟩
      · have differs := not_exists.mp found
        exact .inr ⟨differs, Primitive.parseLiteralWith_of_not_standsFor
          letterwise remains differs⟩
    · rintro (⟨taken, stands, rfl⟩ | ⟨differs, rfl⟩)
      · exact (Primitive.parseLiteralWith_of_standsFor letterwise remains
          stands).symm
      · exact (Primitive.parseLiteralWith_of_not_standsFor letterwise remains
          differs).symm
  · intro nowhere result
    rw [literalWith, gives_leaf_iff, Primitive.parse,
      Primitive.parseLiteralWith_of_outside letterwise nowhere]
  · rintro rfl readable fuel
    have same := Primitive.parseLiteralWith_eq_parseLiteral letterwise readable
    simp only [literalWith, literal, run, attempt, Primitive.parse, same]
  · rintro rfl empty nowhere
    rw [literal, gives_leaf_iff, literalWith, gives_leaf_iff]
    constructor
    · exact (Primitive.parseLiteral_of_outside nowhere).symm
    · rw [Primitive.parse,
        Primitive.parseLiteralWith_of_outside letterwise nowhere, if_pos empty]

/-- A Kelvin sign is read as the letter it stands for, over its three bytes.
Behind its first byte nothing can be read: the empty text is found there by
comparing without a change, and not by a plain literal. -/
theorem kelvin_sign_read :
    let letter : Char → Char := fun character =>
      if character = '\u212A' then 'k' else character
    let rules : Rules fun _ => Empty := ⟨nofun⟩
    let source := Source.ofString "\u212A!"
    Letterwise (String.map letter) letter ∧ Letterwise id id ∧
      source.isBoundary 1 = false ∧
      (literalWith "k" (String.map letter)).Gives rules source 0
        (.success 3 "k") ∧
      (literal "").Gives rules source 1 (.failure 1 "") ∧
      (literalWith "" id).Gives rules source 1 (.success 1 "") := by
  intro letter rules source
  have letterwise : Letterwise (String.map letter) letter :=
    fun _ => String.toList_map
  have unchanged : Letterwise id id := fun text => (List.map_id _).symm
  have remains : source.rest 0 = some ['\u212A', '!'] := by decide
  have inside : source.isBoundary 1 = false := by decide
  have stands : StandsFor letter "k" ['\u212A', '!'] ['\u212A'] :=
    ⟨⟨['!'], rfl⟩, rfl, by decide⟩
  exact ⟨letterwise, unchanged, inside,
    ((transformed_literals_agree "k" letterwise rules source 0).1 _ remains
      _).mpr (.inl ⟨['\u212A'], stands, by rfl⟩),
    (transformed_literals_agree "" unchanged rules source 1).2.2.2 rfl rfl
      inside⟩

end Parser

end OrderedChoice
