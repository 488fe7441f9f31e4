import OrderedChoice.Proofs.Declaration.Sessions
import OrderedChoice.Proofs.Parser.Embedding
import OrderedChoice.Proofs.Parser.Extension
import OrderedChoice.Proofs.Parser.Reaching

/-!
# Single assignment

Handles connected by copying share one cell.  The first operation that defines
any of them fills it, and nothing changes it afterwards.  Parsers obtained from
the handles refer to the cell and not to what it held at the time, so that those
obtained before the definition, and even those within it, run as the parser that
was defined.
-/

namespace OrderedChoice

variable {Kind : Type} {Value : Kind → Type}

/-- The handle that an operation is about, if there is one. -/
def Operation.handle? : Operation Value → Option (Kind × Nat)
  | .declare _ => none
  | .clone kind handle => some (kind, handle)
  | .define kind handle _ => some (kind, handle)
  | .isDefined kind handle => some (kind, handle)
  | .tryParser kind handle => some (kind, handle)
  | .parser kind handle => some (kind, handle)
  | .run _ _ _ _ => none

variable [DecidableEq Kind]

namespace Session

/-! ## Definitions of groups -/

section

variable {history before : List (Operation Value)} {kind : Kind}
  {handle : Nat} {declaration : Declaration Value kind}
  {parser : DeclaredParser Value (Value kind)}

/-- To define a handle of a group is to define the declaration that its handles
share. -/
theorem defineCall_iff
    (held : ((after history).handles kind)[handle]? = some declaration) :
    DefineCall history kind handle before parser ↔
      DefineAt history declaration before parser := by
  constructor
  · rintro ⟨other, call, inRange, connected⟩
    have earlier := (List.prefix_append before _).trans call
    have heldOther := List.getElem?_eq_getElem inRange
    have same := connected.same_declaration
    rw [handle_persists earlier heldOther, held] at same
    exact ⟨other, call, heldOther.trans same⟩
  · rintro ⟨other, call, heldOther⟩
    have earlier := (List.prefix_append before _).trans call
    exact ⟨other, call, (List.getElem?_eq_some_iff.mp heldOther).1,
      connected_of_same_declaration
        (handle_persists earlier heldOther) held⟩

/-- Only handles that there are can be defined. -/
theorem DefineCall.exists_declaration
    (call : DefineCall history kind handle before parser) :
    ∃ declaration, ((after history).handles kind)[handle]? =
      some declaration := by
  rcases call with ⟨other, call, inRange, connected⟩
  have earlier := (List.prefix_append before _).trans call
  have heldOther := List.getElem?_eq_getElem inRange
  exact ⟨_, connected.same_declaration.symm.trans
    (handle_persists earlier heldOther)⟩

theorem neverDefined_iff
    (held : ((after history).handles kind)[handle]? = some declaration) :
    NeverDefined history kind handle ↔
      (after history).store.definition kind declaration.id = none := by
  have decided := decides history declaration
  constructor
  · intro never
    cases known : (after history).store.definition kind declaration.id with
    | none => rfl
    | some first =>
        rw [known] at decided
        cases decided with
        | first call _ =>
            exact absurd ((defineCall_iff held).mpr call) (never _ _)
  · intro undefined before parser call
    rw [undefined] at decided
    cases decided with
    | never calls => exact calls before parser ((defineCall_iff held).mp call)

theorem DefineAt.unique {another : DeclaredParser Value (Value kind)}
    (call : DefineAt history declaration before parser)
    (again : DefineAt history declaration before another) :
    parser = another := by
  rcases call with ⟨handle, call, _⟩
  rcases again with ⟨other, again, _⟩
  have same := (List.prefix_of_prefix_length_le call again
    (by simp)).eq_of_length (by simp)
  cases (List.append_singleton_inj.mp same).2
  rfl

theorem firstDefinition_iff
    (held : ((after history).handles kind)[handle]? = some declaration) :
    FirstDefinition history kind handle parser ↔
      (after history).store.definition kind declaration.id = some parser := by
  have decided := decides history declaration
  simp only [FirstDefinition, defineCall_iff held]
  cases known : (after history).store.definition kind declaration.id with
  | none =>
      rw [known] at decided
      cases decided with
      | never calls =>
          refine ⟨fun ⟨before, call, _⟩ => absurd call (calls _ _), nofun⟩
  | some first =>
      rw [known] at decided
      cases decided with
      | @first earliest _ firstCall isEarliest =>
          constructor
          · rintro ⟨before, call, comesFirst⟩
            have forth := isEarliest before parser call
            have back := comesFirst earliest first firstCall
            cases forth.eq_of_length
              (Nat.le_antisymm forth.length_le back.length_le)
            rw [firstCall.unique call]
          · rintro same
            cases same
            exact ⟨earliest, firstCall, isEarliest⟩

theorem FirstDefinition.exists_declaration
    (defined : FirstDefinition history kind handle parser) :
    ∃ declaration, ((after history).handles kind)[handle]? =
        some declaration ∧
      (after history).store.definition kind declaration.id = some parser := by
  rcases defined with ⟨before, call, earliest⟩
  rcases call.exists_declaration with ⟨declaration, held⟩
  exact ⟨declaration, held,
    (firstDefinition_iff held).mp ⟨before, call, earliest⟩⟩

end

/-! ## Replies -/

/-- What is asked about a handle depends only on its declaration, and on the
definition of that. -/
theorem reply_eq_of_same {session other : Session Value} {kind : Kind}
    {handle : Nat} {declaration : Declaration Value kind}
    (held : (session.handles kind)[handle]? = some declaration)
    (heldOther : (other.handles kind)[handle]? = some declaration)
    (same : other.store.definition kind declaration.id =
      session.store.definition kind declaration.id)
    {question : Operation Value}
    (asks : question.handle? = some (kind, handle))
    (noClone : question ≠ .clone kind handle) :
    other.reply question = session.reply question := by
  cases question with
  | declare kind => cases asks
  | run parser fuel source index => cases asks
  | clone kind handle =>
      cases asks
      exact absurd rfl noClone
  | define kind handle parser =>
      cases asks
      cases known : session.store.definition kind declaration.id with
      | none =>
          rw [known] at same
          simp only [reply, held, heldOther, Store.define_of_none same,
            Store.define_of_none known]
          rfl
      | some first =>
          rw [known] at same
          simp only [reply, held, heldOther, Store.define_of_some same,
            Store.define_of_some known]
  | isDefined kind handle =>
      cases asks
      simp only [reply, held, heldOther, Store.isDefined, same]
  | tryParser kind handle =>
      cases asks
      simp only [reply, held, heldOther, Store.parser?, same]
  | parser kind handle =>
      cases asks
      simp only [reply, held, heldOther]

/-! ## Single assignment -/

/-- A parser, or one obtained from a handle at any time and the one that its
declaration is first defined as. -/
inductive StandsFor (history : List (Operation Value)) :
    ∀ {α : Type}, DeclaredParser Value α → DeclaredParser Value α → Prop where
  | same {α : Type} (parser : DeclaredParser Value α) :
      StandsFor history parser parser
  | obtained {earlier : List (Operation Value)} {kind : Kind}
      {other handle : Nat} {obtained first : DeclaredParser Value (Value kind)}
      (before : earlier <+: history)
      (replied : (after earlier).reply (.parser kind other) =
        .parser kind obtained)
      (connected : Connected history kind other handle)
      (defined : FirstDefinition history kind handle first) :
      StandsFor history obtained first

/-- Declarations are cells that all connected handles share, and that are
assigned once.  This is what it means after a history of operations. -/
structure SingleAssignment (history : List (Operation Value)) : Prop where
  /-- Connected handles agree on whether they are defined. -/
  agree {kind : Kind} {one other : Nat}
    (connected : Connected history kind one other) :
    (after history).reply (.isDefined kind one) =
      (after history).reply (.isDefined kind other)
  /-- The first operation that defines a handle of a group succeeds. -/
  first_define {kind : Kind} {handle : Nat}
    (held : handle < ((after history).handles kind).length)
    (never : NeverDefined history kind handle)
    (parser : DeclaredParser Value (Value kind)) :
    (after history).reply (.define kind handle parser) = .defined (.ok ())
  /-- Any other is refused, and changes nothing. -/
  later_define {kind : Kind} {handle : Nat}
    {first : DeclaredParser Value (Value kind)}
    (defined : FirstDefinition history kind handle first)
    (parser : DeclaredParser Value (Value kind)) :
    (after history).reply (.define kind handle parser) =
        .defined (.error .alreadyDefined) ∧
      (after history).next (.define kind handle parser) = after history
  /-- Each handle is undefined so far, or it has a first definition. -/
  decided {kind : Kind} {handle : Nat}
    (held : handle < ((after history).handles kind).length) :
    NeverDefined history kind handle ∨
      ∃ first, FirstDefinition history kind handle first
  /-- An operation that is not about a handle of a group leaves all that can be
  learnt of it, and whether it can be defined. -/
  apart (operation : Operation Value) {kind : Kind} {handle : Nat}
    (held : handle < ((after history).handles kind).length)
    (elsewhere : ∀ other, operation.handle? = some (kind, other) →
      ¬ Connected history kind other handle)
    (question : Operation Value)
    (asks : question.handle? = some (kind, handle))
    (noClone : question ≠ .clone kind handle) :
    (after (history ++ [operation])).reply question =
      (after history).reply question
  /-- Without a definition a handle is undefined. -/
  undefined {kind : Kind} {handle : Nat}
    (held : handle < ((after history).handles kind).length)
    (never : NeverDefined history kind handle) :
    (after history).reply (.isDefined kind handle) = .isDefined false ∧
      (after history).reply (.tryParser kind handle) =
        .tryParser kind (.error .undefined)
  /-- With one it is defined, as the parser that came first. -/
  defined {kind : Kind} {handle : Nat}
    {first : DeclaredParser Value (Value kind)}
    (defined : FirstDefinition history kind handle first) :
    (after history).reply (.isDefined kind handle) = .isDefined true ∧
      (after history).reply (.tryParser kind handle) =
        .tryParser kind (.ok first)
  /-- A parser can be obtained from each handle. -/
  obtains {kind : Kind} {handle : Nat}
    (held : handle < ((after history).handles kind).length) :
    ∃ obtained, (after history).reply (.parser kind handle) =
      .parser kind obtained
  /-- Parsers obtained at any time, from any handle of a group, run as the first
  definition of the group. -/
  runs {α : Type} {parser first : DeclaredParser Value α}
    (stands : StandsFor history parser first) :
    Parser.SameRuns (after history).store.rules parser first
  /-- So they do when they are embedded in others, in any way. -/
  embedded {H : Type → Type}
    {parts firsts : ∀ {β : Type}, H β → DeclaredParser Value β}
    (stand : ∀ {β : Type} (place : H β),
      StandsFor history (parts place) (firsts place))
    {α : Type} (context : Parser H α) :
    Parser.SameRuns (after history).store.rules (context.fill parts)
      (context.fill firsts)
  /-- Whatever is done later, runs that came to a result stay the same. -/
  steady {α : Type} {parser : DeclaredParser Value α} {fuel : Nat}
    {source : Source} {index : Nat} {result : ParseResult α}
    (ended : (parser.run (after history).store.rules fuel source index).answer =
      .ok result) (later : List (Operation Value)) :
    parser.run (after (history ++ later)).store.rules fuel source index =
      parser.run (after history).store.rules fuel source index
  /-- A run panics exactly if it reaches a reference to a declaration that has no
  definition, none of whose handles was ever defined. -/
  panics {α : Type} (parser : DeclaredParser Value α) (source : Source)
    (index : Nat) :
    parser.Panics (after history).store.rules source index ↔
      ∃ (kind : Kind) (declaration : Declaration Value kind) (stop : Nat),
        Parser.RunReaches (after history).store.rules source declaration.parser
          stop parser index ∧
        (after history).store.isDefined declaration = false ∧
        ∀ handle, ((after history).handles kind)[handle]? = some declaration →
          NeverDefined history kind handle

section

variable {history : List (Operation Value)}

omit [DecidableEq Kind] in
theorem exists_held {session : Session Value} {kind : Kind} {handle : Nat}
    (held : handle < (session.handles kind).length) :
    ∃ declaration, (session.handles kind)[handle]? = some declaration :=
  ⟨_, List.getElem?_eq_getElem held⟩

/-- What is defined already is refused, and left as it is. -/
theorem reply_next_define_of_some {session : Session Value} {kind : Kind}
    {handle : Nat} {declaration : Declaration Value kind}
    {first : DeclaredParser Value (Value kind)}
    (held : (session.handles kind)[handle]? = some declaration)
    (defined : session.store.definition kind declaration.id = some first)
    (parser : DeclaredParser Value (Value kind)) :
    session.reply (.define kind handle parser) =
        .defined (.error .alreadyDefined) ∧
      session.next (.define kind handle parser) = session := by
  constructor
  · simp only [reply, held, Store.define_of_some defined]
    rfl
  · rw [next, stored_define held, if_pos (by simp [Store.isDefined, defined])]
    simp [made]

/-- An operation elsewhere leaves the definition of a handle. -/
theorem definition_next_of_apart {operation : Operation Value} {kind : Kind}
    {handle : Nat} {declaration : Declaration Value kind}
    (held : ((after history).handles kind)[handle]? = some declaration)
    (elsewhere : ∀ other, operation.handle? = some (kind, other) →
      ¬ Connected history kind other handle) :
    ((after history).next operation).store.definition kind declaration.id =
      (after history).store.definition kind declaration.id := by
  rcases (after history).definition_next operation kind declaration.id with
    same | ⟨other, parser, rfl, heldOther, _, _⟩
  · exact same
  · exact absurd (connected_of_same_declaration heldOther held)
      (elsewhere other rfl)

/-- Later operations only add definitions. -/
theorem rules_extends (history later : List (Operation Value)) :
    (after (history ++ later)).store.rules.Extends
      (after history).store.rules := by
  rintro α ⟨kind, id⟩ parser known
  exact definition_persists (List.prefix_append history later) known

theorem StandsFor.exchangeable {α : Type}
    {parser first : DeclaredParser Value α}
    (stands : StandsFor history parser first) :
    Parser.Exchangeable (after history).store.rules parser first := by
  cases stands with
  | same => exact .same _
  | @obtained earlier kind other handle obtained first before replied connected
      defined =>
      rcases defined.exists_declaration with ⟨declaration, held, known⟩
      cases heldOther : ((after earlier).handles kind)[other]? with
      | none => simp [reply, heldOther] at replied
      | some found =>
          -- The handle was on the declaration of the group all along.
          have same := connected.same_declaration
          rw [handle_persists before heldOther, held] at same
          cases same
          simp only [reply, heldOther] at replied
          cases replied
          exact .unfold known

/-- Every history of operations leaves declarations that are assigned once. -/
theorem singleAssignment (history : List (Operation Value)) :
    SingleAssignment history where
  agree connected := by
    simp only [reply, connected.same_declaration]
  first_define held never parser := by
    rcases exists_held held with ⟨declaration, held⟩
    have undefined := (neverDefined_iff held).mp never
    simp only [reply, held, Store.define_of_none undefined]
    rfl
  later_define defined parser := by
    rcases defined.exists_declaration with ⟨declaration, held, known⟩
    exact reply_next_define_of_some held known parser
  decided {kind handle} held := by
    rcases exists_held held with ⟨declaration, held⟩
    rw [neverDefined_iff held]
    simp only [firstDefinition_iff held]
    cases (after history).store.definition kind declaration.id <;> simp
  apart operation kind handle held elsewhere question asks noClone := by
    rcases exists_held held with ⟨declaration, held⟩
    have later : ((after (history ++ [operation])).handles kind)[handle]? =
        some declaration :=
      handle_persists (List.prefix_append _ _) held
    refine reply_eq_of_same held later ?_ asks noClone
    rw [after_concat]
    exact definition_next_of_apart held elsewhere
  undefined held never := by
    rcases exists_held held with ⟨declaration, held⟩
    have undefined := (neverDefined_iff held).mp never
    simp [reply, held, Store.isDefined, Store.parser?, undefined]
  defined defined := by
    rcases defined.exists_declaration with ⟨declaration, held, known⟩
    simp [reply, held, Store.isDefined, Store.parser?, known]
  obtains held := by
    rcases exists_held held with ⟨declaration, held⟩
    exact ⟨declaration.parser, by simp only [reply, held]⟩
  runs stands := Parser.sameRuns_of_settlesWithin
    stands.exchangeable.settlesWithin stands.exchangeable.symm.settlesWithin
  embedded {_ _ _} stand {_} context :=
    Parser.sameRuns_fill (fun place => (stand place).exchangeable) context
  steady ended later :=
    Parser.run_eq_of_extends (rules_extends history later) ended
  panics parser source index := by
    rw [Parser.panics_iff]
    constructor
    · rintro ⟨β, ⟨kind, id⟩, stop, undefined, reaches⟩
      have unknown : (after history).store.definition kind id = none :=
        undefined
      refine ⟨kind, ⟨id⟩, stop, reaches, by simp [Store.isDefined, unknown], ?_⟩
      exact fun handle held => (neverDefined_iff held).mpr unknown
    · rintro ⟨kind, declaration, stop, reaches, undefined, _⟩
      have unknown :
          (after history).store.definition kind declaration.id = none := by
        simpa [Store.isDefined] using undefined
      exact ⟨Value kind, .declared kind declaration.id, stop, unknown, reaches⟩

/-- A handle whose copy was defined is defined, and takes no other parser. -/
example :
    let one : Operation (fun _ : Unit => String) :=
      .define () 1 (Parser.literal "x")
    let other : Operation (fun _ : Unit => String) :=
      .define () 0 (Parser.literal "y")
    let session := after [.declare (), .clone () 0, one]
    session.reply (.isDefined () 0) = .isDefined true ∧
      session.reply other = .defined (.error .alreadyDefined) :=
  ⟨rfl, rfl⟩

end

end Session

end OrderedChoice
