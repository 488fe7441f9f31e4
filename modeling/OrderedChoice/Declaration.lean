import OrderedChoice.Log
import OrderedChoice.Parser.Basic

/-!
# Forward declarations

A rule that refers to itself is declared before it is defined.  Declarations
live in a store; a reference to one is a parser that defers to whatever the
store holds for it when it runs.  Each declaration is defined at most once.

The values of declared rules come in kinds, and `Value` says which type of
values each kind has.
-/

namespace OrderedChoice

/-- A reference to a declaration, as a family of rules. -/
inductive Reference {Kind : Type} (Value : Kind → Type) : Type → Type where
  | declared (kind : Kind) (id : Nat) : Reference Value (Value kind)

/-- A parser that may refer to declarations. -/
abbrev DeclaredParser {Kind : Type} (Value : Kind → Type) (α : Type) :=
  Parser (Reference Value) α

/-- A handle on a declaration; copies of a handle are the same declaration. -/
structure Declaration {Kind : Type} (Value : Kind → Type) (kind : Kind) where
  id : Nat
deriving DecidableEq

/-- A parser that defers to a declaration. -/
def Declaration.parser {Kind : Type} {Value : Kind → Type} {kind : Kind}
    (declaration : Declaration Value kind) :
    DeclaredParser Value (Value kind) :=
  .ref (.declared kind declaration.id)

/-- The declarations made so far, with the definitions of those that have
one. -/
structure Store {Kind : Type} (Value : Kind → Type) where
  next : Nat
  definition : (kind : Kind) → Nat → Option (DeclaredParser Value (Value kind))

namespace Store

variable {Kind : Type} {Value : Kind → Type}

/-- The store without declarations. -/
def empty : Store Value := ⟨0, fun _ _ => none⟩

/-- Make a declaration that no handle in use refers to. -/
def declare (store : Store Value) (kind : Kind) :
    Declaration Value kind × Store Value :=
  (⟨store.next⟩, { store with next := store.next + 1 })

/-- Whether a declaration has its definition. -/
def isDefined {kind : Kind} (store : Store Value)
    (declaration : Declaration Value kind) : Bool :=
  (store.definition kind declaration.id).isSome

/-- How a declaration is shown. -/
def describe {kind : Kind} (store : Store Value)
    (declaration : Declaration Value kind) : String :=
  "ForwardDeclaration \x7b defined: " ++
    (if store.isDefined declaration then "true" else "false") ++ " \x7d"

/-- The parser that a declaration is defined as. -/
def parser? {kind : Kind} (store : Store Value)
    (declaration : Declaration Value kind) :
    Except UsageError (DeclaredParser Value (Value kind)) :=
  match store.definition kind declaration.id with
  | some parser => .ok parser
  | none => .error .undefined

/-- Hold a parser as the definition of a declaration. -/
def update [DecidableEq Kind] {kind : Kind} (store : Store Value)
    (declaration : Declaration Value kind)
    (parser : DeclaredParser Value (Value kind)) : Store Value where
  next := store.next
  definition := fun other id =>
    if same : other = kind then
      if id = declaration.id then some (same ▸ parser)
      else store.definition other id
    else store.definition other id

/-- Define a declaration, which can be done once. -/
def define [DecidableEq Kind] {kind : Kind} (store : Store Value)
    (declaration : Declaration Value kind)
    (parser : DeclaredParser Value (Value kind)) :
    Except UsageError (Store Value) :=
  if store.isDefined declaration then .error .alreadyDefined
  else .ok (store.update declaration parser)

/-- What a reference stands for. -/
def resolve (store : Store Value) :
    ∀ {α : Type}, Reference Value α → Option (DeclaredParser Value α)
  | _, .declared kind id => store.definition kind id

/-- The rules that the store defines. -/
def rules (store : Store Value) : Rules (Reference Value) :=
  ⟨store.resolve⟩

end Store

/-- The log record of an attempt to define a declaration. -/
def LogRecord.ofDefinition {σ : Type 1} : Except UsageError σ → LogRecord
  | .ok _ => .defined
  | .error _ => .definedTwice

end OrderedChoice
