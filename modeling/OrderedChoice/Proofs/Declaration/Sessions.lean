import Mathlib.Data.List.Infix
import Mathlib.Logic.Relation
import OrderedChoice.Declaration

/-!
# Sessions

A program makes handles on declarations, copies them, asks about them, defines
them, and runs parsers, in any order.  Such a history of operations leads to a
session: the store, and the handles made so far.  The handles of each kind are
numbered in the order in which they are made.

Handles connected by copying are handles on the same declaration, and no others
are.  What a declaration is defined as is decided by the first operation that
defines it, through whichever handle.
-/

namespace OrderedChoice

/-! ## Operations -/

/-- Something that a program does with declarations. -/
inductive Operation {Kind : Type} (Value : Kind → Type) : Type 1 where
  /-- Make a handle on a new declaration. -/
  | declare (kind : Kind)
  /-- Copy a handle. -/
  | clone (kind : Kind) (handle : Nat)
  /-- Define the declaration of a handle. -/
  | define (kind : Kind) (handle : Nat)
      (parser : DeclaredParser Value (Value kind))
  /-- Ask whether it is defined. -/
  | isDefined (kind : Kind) (handle : Nat)
  /-- Ask for the parser that it is defined as. -/
  | tryParser (kind : Kind) (handle : Nat)
  /-- Get a parser that defers to it. -/
  | parser (kind : Kind) (handle : Nat)
  /-- Run a parser. -/
  | run {α : Type} (parser : DeclaredParser Value α) (fuel : Nat)
      (source : Source) (index : Nat)

/-- What an operation comes back with. -/
inductive Reply {Kind : Type} (Value : Kind → Type) : Type 1 where
  | handle (number : Nat)
  | defined (outcome : Except UsageError Unit)
  | isDefined (answer : Bool)
  | tryParser (kind : Kind)
      (outcome : Except UsageError (DeclaredParser Value (Value kind)))
  | parser (kind : Kind) (parser : DeclaredParser Value (Value kind))
  | run {α : Type} (run : Run α)
  /-- There is no such handle. -/
  | noHandle

/-- The declarations and the handles on them. -/
structure Session {Kind : Type} (Value : Kind → Type) where
  store : Store Value
  handles : (kind : Kind) → List (Declaration Value kind)

variable {Kind : Type} {Value : Kind → Type} [DecidableEq Kind]

/-! ## Definitions in a store -/

namespace Store

variable {kind : Kind}

theorem definition_update_self (store : Store Value)
    (declaration : Declaration Value kind)
    (parser : DeclaredParser Value (Value kind)) :
    (store.update declaration parser).definition kind declaration.id =
      some parser := by
  simp [update]

theorem definition_update_of_ne (store : Store Value)
    (declaration : Declaration Value kind)
    (parser : DeclaredParser Value (Value kind)) {other : Kind} {id : Nat}
    (differs : other = kind → id ≠ declaration.id) :
    (store.update declaration parser).definition other id =
      store.definition other id := by
  rw [update]
  dsimp only
  split
  · rw [if_neg (differs ‹_›)]
  · rfl

theorem define_of_none {store : Store Value}
    {declaration : Declaration Value kind}
    (undefined : store.definition kind declaration.id = none)
    (parser : DeclaredParser Value (Value kind)) :
    store.define declaration parser =
      .ok (store.update declaration parser) := by
  simp [define, isDefined, undefined]

theorem define_of_some {store : Store Value}
    {declaration : Declaration Value kind}
    {first : DeclaredParser Value (Value kind)}
    (defined : store.definition kind declaration.id = some first)
    (parser : DeclaredParser Value (Value kind)) :
    store.define declaration parser = .error .alreadyDefined := by
  simp [define, isDefined, defined]

end Store

/-! ## Sessions -/

namespace Session

/-- The session at the start of a program. -/
def start : Session Value := ⟨.empty, fun _ => []⟩

/-- What an operation comes back with. -/
def reply (session : Session Value) : Operation Value → Reply Value
  | .declare kind => .handle (session.handles kind).length
  | .clone kind handle =>
    match (session.handles kind)[handle]? with
    | none => .noHandle
    | some _ => .handle (session.handles kind).length
  | .define kind handle parser =>
    match (session.handles kind)[handle]? with
    | none => .noHandle
    | some declaration =>
      .defined ((session.store.define declaration parser).map fun _ => ())
  | .isDefined kind handle =>
    match (session.handles kind)[handle]? with
    | none => .noHandle
    | some declaration => .isDefined (session.store.isDefined declaration)
  | .tryParser kind handle =>
    match (session.handles kind)[handle]? with
    | none => .noHandle
    | some declaration => .tryParser kind (session.store.parser? declaration)
  | .parser kind handle =>
    match (session.handles kind)[handle]? with
    | none => .noHandle
    | some declaration => .parser kind declaration.parser
  | .run parser fuel source index =>
    .run (parser.run session.store.rules fuel source index)

/-- The store after an operation. -/
def stored (session : Session Value) : Operation Value → Store Value
  | .declare kind => (session.store.declare kind).2
  | .define kind handle parser =>
    match (session.handles kind)[handle]? with
    | none => session.store
    | some declaration =>
      match session.store.define declaration parser with
      | .ok store => store
      | .error _ => session.store
  | _ => session.store

/-- The handles that an operation makes. -/
def made (session : Session Value) (operation : Operation Value)
    (kind : Kind) : List (Declaration Value kind) :=
  match operation with
  | .declare other =>
    if other = kind then [(session.store.declare kind).1] else []
  | .clone other handle =>
    if other = kind then (session.handles kind)[handle]?.toList else []
  | _ => []

/-- The session after an operation. -/
def next (session : Session Value) (operation : Operation Value) :
    Session Value :=
  ⟨session.stored operation,
    fun kind => session.handles kind ++ session.made operation kind⟩

/-- The session after a history of operations. -/
def after (history : List (Operation Value)) : Session Value :=
  history.foldl next start

@[simp] theorem after_concat (history : List (Operation Value))
    (operation : Operation Value) :
    after (history ++ [operation]) = (after history).next operation := by
  rw [after, List.foldl_append]
  rfl

/-! ## What an operation can do -/

/-- An operation that defines does so only where there was no definition. -/
theorem stored_define {session : Session Value} {kind : Kind} {handle : Nat}
    {declaration : Declaration Value kind}
    (held : (session.handles kind)[handle]? = some declaration)
    (parser : DeclaredParser Value (Value kind)) :
    session.stored (.define kind handle parser) =
      if session.store.isDefined declaration then session.store
      else session.store.update declaration parser := by
  simp only [stored, held, Store.define]
  cases session.store.isDefined declaration <;> rfl

/-- An operation that defines leaves a definition. -/
theorem isDefined_next_define {session : Session Value} {kind : Kind}
    {handle : Nat} {declaration : Declaration Value kind}
    (held : (session.handles kind)[handle]? = some declaration)
    (parser : DeclaredParser Value (Value kind)) :
    (session.next (.define kind handle parser)).store.isDefined declaration =
      true := by
  rw [next]
  dsimp only
  rw [stored_define held]
  split
  · assumption
  · rw [Store.isDefined, Store.definition_update_self]
    rfl

/-- A definition stays, or was made by the operation where there was none. -/
theorem definition_next (session : Session Value) (operation : Operation Value)
    (kind : Kind) (id : Nat) :
    (session.next operation).store.definition kind id =
        session.store.definition kind id ∨
      ∃ handle parser, operation = .define kind handle parser ∧
        (session.handles kind)[handle]? = some ⟨id⟩ ∧
        session.store.definition kind id = none ∧
        (session.next operation).store.definition kind id = some parser := by
  cases operation with
  | define other handle parser =>
      rw [next]
      dsimp only
      cases held : (session.handles other)[handle]? with
      | none => simp [stored, held]
      | some declaration =>
          rw [stored_define held]
          split
          · exact .inl rfl
          rename_i notDefined
          by_cases differs : kind = other → id ≠ declaration.id
          · exact .inl (Store.definition_update_of_ne _ _ _ differs)
          · simp only [not_forall, not_not] at differs
            rcases differs with ⟨rfl, rfl⟩
            refine .inr ⟨handle, parser, rfl, held, ?_,
              Store.definition_update_self _ _ _⟩
            simpa [Store.isDefined] using notDefined
  | _ => exact .inl rfl

/-- A handle was there already, or it is the one that the operation made: on a
new declaration, or on that of the handle that it copies. -/
theorem getElem?_handles_next {session : Session Value}
    {operation : Operation Value} {kind : Kind} {handle : Nat}
    {declaration : Declaration Value kind}
    (held : ((session.next operation).handles kind)[handle]? =
      some declaration) :
    (session.handles kind)[handle]? = some declaration ∨
      handle = (session.handles kind).length ∧
        (operation = .declare kind ∧ declaration.id = session.store.next ∨
          ∃ original, operation = .clone kind original ∧
            (session.handles kind)[original]? = some declaration) := by
  rw [next] at held
  dsimp only at held
  by_cases old : handle < (session.handles kind).length
  · rw [List.getElem?_append_left old] at held
    exact .inl held
  rw [List.getElem?_append_right (by omega)] at held
  refine .inr ?_
  cases operation with
  | declare other =>
      rw [made] at held
      split at held
      · rename_i same
        rcases List.getElem?_eq_some_iff.mp held with ⟨first, rfl⟩
        rw [List.length_singleton] at first
        exact ⟨by omega, .inl ⟨by rw [same], by simp [Store.declare]⟩⟩
      · simp at held
  | clone other original =>
      rw [made] at held
      split at held
      · rename_i same
        cases copied : (session.handles kind)[original]? with
        | none => simp [copied] at held
        | some copy =>
            rw [copied, Option.toList_some] at held
            rcases List.getElem?_eq_some_iff.mp held with ⟨first, rfl⟩
            rw [List.length_singleton] at first
            exact ⟨by omega, .inr ⟨original, by rw [same], by simp [copied]⟩⟩
      · simp at held
  | _ => simp [made] at held

/-- Declarations in use are below the next one to be made, and those above it
have no definition. -/
structure Fresh (session : Session Value) : Prop where
  used : ∀ {kind : Kind} {handle : Nat} {declaration : Declaration Value kind},
    (session.handles kind)[handle]? = some declaration →
      declaration.id < session.store.next
  unused : ∀ (kind : Kind) {id : Nat}, session.store.next ≤ id →
    session.store.definition kind id = none

omit [DecidableEq Kind] in
theorem fresh_start : Fresh (start : Session Value) where
  used held := by simp [start] at held
  unused _ _ _ := rfl

theorem next_le_next (session : Session Value)
    (operation : Operation Value) :
    session.store.next ≤ (session.next operation).store.next := by
  cases operation with
  | declare kind => exact Nat.le_succ _
  | define kind handle parser =>
      rw [next]
      cases held : (session.handles kind)[handle]? with
      | none => simp [stored, held]
      | some declaration =>
          dsimp only
          rw [stored_define held]
          split <;> exact Nat.le_refl _
  | _ => exact Nat.le_refl _

theorem Fresh.next {session : Session Value} (fresh : session.Fresh)
    (operation : Operation Value) : (session.next operation).Fresh where
  used {kind handle declaration} held := by
    have further := session.next_le_next operation
    rcases getElem?_handles_next held with
      old | ⟨_, ⟨rfl, new⟩ | ⟨original, _, old⟩⟩
    · exact Nat.lt_of_lt_of_le (fresh.used old) further
    · rw [new]
      exact Nat.lt_succ_self _
    · exact Nat.lt_of_lt_of_le (fresh.used old) further
  unused kind id above := by
    have further := session.next_le_next operation
    rcases session.definition_next operation kind id with
      same | ⟨handle, parser, _, held, _, _⟩
    · rw [same, fresh.unused kind (Nat.le_trans further above)]
    · have below := fresh.used held
      dsimp only at below
      omega

theorem fresh_after (history : List (Operation Value)) :
    (after history).Fresh := by
  induction history using List.reverseRecOn with
  | nil => exact fresh_start
  | append_singleton history operation inductiveStep =>
      rw [after_concat]
      exact inductiveStep.next operation

/-! ## Handles -/

section

variable {before history : List (Operation Value)}

/-- Handles stay what they are. -/
theorem handle_persists (earlier : before <+: history)
    {kind : Kind} {handle : Nat} {declaration : Declaration Value kind}
    (held : ((after before).handles kind)[handle]? = some declaration) :
    ((after history).handles kind)[handle]? = some declaration := by
  rcases earlier with ⟨later, rfl⟩
  induction later using List.reverseRecOn with
  | nil => simpa using held
  | append_singleton later operation inductiveStep =>
      rw [← List.append_assoc, after_concat, next]
      have inRange := (List.getElem?_eq_some_iff.mp inductiveStep).1
      dsimp only
      rw [List.getElem?_append_left inRange]
      exact inductiveStep

/-- Definitions stay what they are. -/
theorem definition_persists (earlier : before <+: history) {kind : Kind}
    {id : Nat} {parser : DeclaredParser Value (Value kind)}
    (defined : (after before).store.definition kind id = some parser) :
    (after history).store.definition kind id = some parser := by
  rcases earlier with ⟨later, rfl⟩
  induction later using List.reverseRecOn with
  | nil => simpa using defined
  | append_singleton later operation inductiveStep =>
      rw [← List.append_assoc, after_concat]
      rcases (after (before ++ later)).definition_next operation kind id with
        same | ⟨_, _, _, _, undefined, _⟩
      · rw [same, inductiveStep]
      · rw [inductiveStep] at undefined
        cases undefined

end

/-- A history copied one handle, which made another. -/
def ClonedFrom (history : List (Operation Value)) (kind : Kind)
    (original copy : Nat) : Prop :=
  ∃ before, before ++ [.clone kind original] <+: history ∧
    (after before).reply (.clone kind original) = .handle copy

/-- Handles are connected by copying, from one to the other through any number
of handles and in either direction. -/
def Connected (history : List (Operation Value)) (kind : Kind) :
    Nat → Nat → Prop :=
  Relation.EqvGen (ClonedFrom history kind)

theorem reply_clone_eq_handle_iff {session : Session Value} {kind : Kind}
    {original copy : Nat} :
    session.reply (.clone kind original) = .handle copy ↔
      ∃ declaration, (session.handles kind)[original]? = some declaration ∧
        copy = (session.handles kind).length := by
  rw [reply]
  cases (session.handles kind)[original]? with
  | none => simp
  | some declaration => simp [eq_comm]

section

variable {history : List (Operation Value)} {kind : Kind}

theorem Connected.trans {first second third : Nat}
    (forth : Connected history kind first second)
    (further : Connected history kind second third) :
    Connected history kind first third :=
  Relation.EqvGen.trans _ _ _ forth further

theorem Connected.symm {first second : Nat}
    (connected : Connected history kind first second) :
    Connected history kind second first :=
  Relation.EqvGen.symm _ _ connected

theorem Connected.concat {first second : Nat}
    (connected : Connected history kind first second)
    (operation : Operation Value) :
    Connected (history ++ [operation]) kind first second := by
  have grows : ClonedFrom history kind ≤
      ClonedFrom (history ++ [operation]) kind := by
    rintro original copy ⟨before, call, replied⟩
    exact ⟨before, call.trans (List.prefix_append _ _), replied⟩
  exact Relation.EqvGen.mono grows _ _ connected

/-- A copy is on the same declaration. -/
theorem ClonedFrom.same_declaration {original copy : Nat}
    (cloned : ClonedFrom history kind original copy) :
    ((after history).handles kind)[original]? =
      ((after history).handles kind)[copy]? := by
  rcases cloned with ⟨before, call, replied⟩
  rcases reply_clone_eq_handle_iff.mp replied with ⟨declaration, held, rfl⟩
  have copied : ((after (before ++ [.clone kind original])).handles
      kind)[((after before).handles kind).length]? = some declaration := by
    rw [after_concat, next]
    simp [made, held]
  rw [handle_persists call copied,
    handle_persists
      ((List.prefix_append before _).trans call) held]

/-- Connected handles are on the same declaration. -/
theorem Connected.same_declaration {first second : Nat}
    (connected : Connected history kind first second) :
    ((after history).handles kind)[first]? =
      ((after history).handles kind)[second]? := by
  induction connected with
  | rel original copy cloned => exact cloned.same_declaration
  | refl handle => rfl
  | symm _ _ _ inductiveStep => exact inductiveStep.symm
  | trans _ _ _ _ _ firstStep secondStep => exact firstStep.trans secondStep

/-- Only connected handles are on the same declaration. -/
theorem connected_of_same_declaration {first second : Nat}
    {declaration : Declaration Value kind}
    (heldFirst : ((after history).handles kind)[first]? = some declaration)
    (heldSecond : ((after history).handles kind)[second]? =
      some declaration) :
    Connected history kind first second := by
  induction history using List.reverseRecOn generalizing first second with
  | nil => simp [after, start] at heldFirst
  | append_singleton history operation inductiveStep =>
      -- A handle that was just made is connected to all on its declaration
      -- that were there before.
      have madeFrom : ∀ {handle old : Nat},
          handle = ((after history).handles kind).length →
          (operation = .declare kind ∧
              declaration.id = (after history).store.next ∨
            ∃ original, operation = .clone kind original ∧
              ((after history).handles kind)[original]? = some declaration) →
          ((after history).handles kind)[old]? = some declaration →
            Connected (history ++ [operation]) kind old handle := by
        rintro handle old isLast (⟨_, new⟩ | ⟨original, rfl, copied⟩) heldOld
        · have below := (fresh_after history).used heldOld
          omega
        · have connected := inductiveStep heldOld copied
          refine (connected.concat _).trans (.rel _ _ ?_)
          exact ⟨history, List.prefix_refl _,
            reply_clone_eq_handle_iff.mpr ⟨declaration, copied, isLast⟩⟩
      rw [after_concat] at heldFirst heldSecond
      rcases getElem?_handles_next heldFirst with
        oldFirst | ⟨firstLast, newFirst⟩ <;>
      rcases getElem?_handles_next heldSecond with
        oldSecond | ⟨secondLast, newSecond⟩
      · exact (inductiveStep oldFirst oldSecond).concat operation
      · exact madeFrom secondLast newSecond oldFirst
      · exact (madeFrom firstLast newFirst oldSecond).symm
      · rw [firstLast, secondLast]
        exact .refl _

end

/-! ## Definitions -/

/-- A history defines the declaration of a handle, after an initial part of it,
as some parser, through a handle that there is and is connected. -/
def DefineCall (history : List (Operation Value)) (kind : Kind) (handle : Nat)
    (before : List (Operation Value))
    (parser : DeclaredParser Value (Value kind)) : Prop :=
  ∃ other, before ++ [.define kind other parser] <+: history ∧
    other < ((after before).handles kind).length ∧
    Connected history kind other handle

/-- Nothing defines the declaration of a handle. -/
def NeverDefined (history : List (Operation Value)) (kind : Kind)
    (handle : Nat) : Prop :=
  ∀ before parser, ¬ DefineCall history kind handle before parser

/-- The parser that the declaration of a handle is first defined as. -/
def FirstDefinition (history : List (Operation Value)) (kind : Kind)
    (handle : Nat) (parser : DeclaredParser Value (Value kind)) : Prop :=
  ∃ before, DefineCall history kind handle before parser ∧
    ∀ other another, DefineCall history kind handle other another →
      before <+: other

/-- A history asks to define a declaration, after an initial part of it. -/
def DefineAt (history : List (Operation Value)) {kind : Kind}
    (declaration : Declaration Value kind) (before : List (Operation Value))
    (parser : DeclaredParser Value (Value kind)) : Prop :=
  ∃ handle, before ++ [.define kind handle parser] <+: history ∧
    ((after before).handles kind)[handle]? = some declaration

/-- What the operations of a history that define a declaration leave of it. -/
inductive Decides (history : List (Operation Value)) {kind : Kind}
    (declaration : Declaration Value kind) :
    Option (DeclaredParser Value (Value kind)) → Prop where
  | never (calls : ∀ before parser,
      ¬ DefineAt history declaration before parser) :
      Decides history declaration none
  | first {before : List (Operation Value)}
      {parser : DeclaredParser Value (Value kind)}
      (call : DefineAt history declaration before parser)
      (earliest : ∀ other another,
        DefineAt history declaration other another → before <+: other) :
      Decides history declaration (some parser)

section

variable {history : List (Operation Value)} {kind : Kind}
  {declaration : Declaration Value kind}

theorem defineAt_concat_iff {operation : Operation Value}
    {before : List (Operation Value)}
    {parser : DeclaredParser Value (Value kind)} :
    DefineAt (history ++ [operation]) declaration before parser ↔
      DefineAt history declaration before parser ∨
        before = history ∧ ∃ handle, operation = .define kind handle parser ∧
          ((after history).handles kind)[handle]? = some declaration := by
  constructor
  · rintro ⟨handle, call, held⟩
    rcases List.prefix_concat_iff.mp call with last | earlier
    · rcases List.append_singleton_inj.mp last with ⟨rfl, same⟩
      exact .inr ⟨rfl, handle, same.symm, held⟩
    · exact .inl ⟨handle, earlier, held⟩
  · rintro (⟨handle, call, held⟩ | ⟨rfl, handle, rfl, held⟩)
    · exact ⟨handle, call.trans (List.prefix_append _ _), held⟩
    · exact ⟨handle, List.prefix_refl _, held⟩

theorem DefineAt.isPrefix {before : List (Operation Value)}
    {parser : DeclaredParser Value (Value kind)}
    (call : DefineAt history declaration before parser) :
    before <+: history := by
  rcases call with ⟨handle, call, _⟩
  exact (List.prefix_append _ _).trans call

/-- The first operation that defines a declaration decides what it is defined
as. -/
theorem decides (history : List (Operation Value))
    (declaration : Declaration Value kind) :
    Decides history declaration
      ((after history).store.definition kind declaration.id) := by
  induction history using List.reverseRecOn with
  | nil =>
      refine .never ?_
      rintro before parser ⟨handle, call, _⟩
      simp at call
  | append_singleton history operation inductiveStep =>
      rw [after_concat]
      rcases (after history).definition_next operation kind declaration.id with
        same | ⟨handle, parser, rfl, held, undefined, defined⟩
      · -- Nothing was defined by this operation: either it is about something
        -- else, or there was a definition before it.
        rw [same]
        cases known :
            (after history).store.definition kind declaration.id with
        | none =>
            rw [known] at inductiveStep same
            cases inductiveStep with
            | never calls =>
                refine .never ?_
                intro before parser call
                rcases defineAt_concat_iff.mp call with
                  old | ⟨_, handle, rfl, held⟩
                · exact calls before parser old
                · have defined := isDefined_next_define held parser
                  rw [Store.isDefined, same] at defined
                  cases defined
        | some first =>
            rw [known] at inductiveStep
            cases inductiveStep with
            | first call earliest =>
                refine .first (defineAt_concat_iff.mpr (.inl call)) ?_
                intro other another later
                rcases defineAt_concat_iff.mp later with old | ⟨rfl, _⟩
                · exact earliest other another old
                · exact call.isPrefix
      · -- This operation is the first to define it.
        rw [undefined] at inductiveStep
        rw [defined]
        cases inductiveStep with
        | never calls =>
            refine .first
              (defineAt_concat_iff.mpr (.inr ⟨rfl, handle, rfl, held⟩)) ?_
            intro other another later
            rcases defineAt_concat_iff.mp later with old | ⟨rfl, _⟩
            · exact absurd old (calls _ _)
            · exact List.prefix_refl _

end

end Session

end OrderedChoice
