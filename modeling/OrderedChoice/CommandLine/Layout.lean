import OrderedChoice.Grammar.Json
import OrderedChoice.Grammar.Sexpr
import OrderedChoice.Number.Shortest

/-!
# Layout of values

The program shows a value as an indented outline: a block opens with its name
or bracket, has one entry a line, each followed by a comma, and closes on a
line of its own.  A block without entries stays on one line.
-/

namespace OrderedChoice

/-- An outline. -/
inductive Layout where
  | text (content : String)
  | labelled (label : String) (content : Layout)
  | block (opening : String) (entries : List Layout) (closing : String)

namespace Layout

/-- How far each block indents its entries. -/
def indentation : String := "    "

/-- The text of an outline whose lines after the first start with a margin. -/
def render (margin : String) : Layout → String
  | .text content => content
  | .labelled label content => label ++ ": " ++ content.render margin
  | .block opening [] closing => opening ++ closing
  | .block opening (entry :: entries) closing =>
    let inner := margin ++ indentation
    opening ++ "\n" ++ inner ++ entry.render inner ++ ",\n" ++
      renderAll inner entries ++ margin ++ closing
where
  /-- The lines of further entries. -/
  renderAll (margin : String) : List Layout → String
    | [] => ""
    | entry :: entries =>
      margin ++ entry.render margin ++ ",\n" ++ renderAll margin entries

/-- A block with a name and one entry. -/
def wrapped (name : String) (content : Layout) : Layout :=
  .block (name ++ "(") [content] ")"

/-- A truth value. -/
def ofBool (value : Bool) : Layout :=
  .text (if value then "true" else "false")

/-- A list in brackets. -/
def ofList (entries : List Layout) : Layout := .block "[" entries "]"

end Layout

/-- The outline of a document. -/
def Json.layout : Json → Layout
  | .null => .text "Null"
  | .bool value => .wrapped "Bool" (.ofBool value)
  | .number value => .wrapped "Number" (.text value.render)
  | .string text => .wrapped "String" (.text (quote text))
  | .array items => .wrapped "Array" (.ofList (layouts items))
  | .object members =>
    .wrapped "Object" (.block "\x7b" (memberLayouts members) "\x7d")
where
  /-- The outlines of several documents. -/
  layouts : List Json → List Layout
    | [] => []
    | item :: items => item.layout :: layouts items
  /-- The outlines of several members. -/
  memberLayouts : List (String × Json) → List Layout
    | [] => []
    | (key, value) :: members =>
      .labelled (quote key) value.layout :: memberLayouts members

/-- The outline of an expression. -/
def Sexpr.layout : Sexpr → Layout
  | .bool value => .wrapped "Bool" (.ofBool value)
  | .number value => .wrapped "Number" (.text (toString value))
  | .symbol name => .wrapped "Symbol" (.text (quote name))
  | .list items => .wrapped "List" (.ofList (layouts items))
where
  /-- The outlines of several expressions. -/
  layouts : List Sexpr → List Layout
    | [] => []
    | item :: items => item.layout :: layouts items

/-- The outline of a program. -/
def Sexpr.programLayout (program : List Sexpr) : Layout :=
  .ofList (program.map Sexpr.layout)

end OrderedChoice
