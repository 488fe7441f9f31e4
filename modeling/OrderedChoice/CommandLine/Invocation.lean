/-!
# Invocations

What the arguments of the program ask for.  Arguments are taken from left to
right, and the first one that settles the matter decides: a request for help or
for the version, or a misuse.
-/

namespace OrderedChoice

/-- The bundled grammars. -/
inductive GrammarChoice where
  | json
  | sexpr
deriving DecidableEq, Repr

/-- The grammar that a word names. -/
def GrammarChoice.named? : String → Option GrammarChoice
  | "json" => some .json
  | "sexpr" => some .sexpr
  | _ => none

/-- The settings for a parse. -/
structure Options where
  grammar : GrammarChoice
  acceptPart : Bool
  input : Option String
deriving DecidableEq, Repr

/-- What the program is to do. -/
inductive Invocation where
  | parse (options : Options)
  | help
  | version
  | misuse
deriving DecidableEq, Repr

namespace Invocation

/-- The settings made so far; each can be made once. -/
structure Settings where
  grammar : Option GrammarChoice
  acceptPart : Bool
  input : Option String
deriving DecidableEq, Repr

namespace Settings

/-- Choose the grammar that a word names. -/
def chooseGrammar? (settings : Settings) (word : String) :
    Option Settings :=
  match settings.grammar, GrammarChoice.named? word with
  | none, some grammar => some { settings with grammar := some grammar }
  | _, _ => none

/-- Accept a part of the input. -/
def acceptPart? (settings : Settings) : Option Settings :=
  if settings.acceptPart then none
  else some { settings with acceptPart := true }

/-- Name the input; the name cannot be empty. -/
def nameInput? (settings : Settings) (name : String) : Option Settings :=
  match settings.input with
  | none =>
    if name = "" then none else some { settings with input := some name }
  | some _ => none

/-- The options with defaults for what was not set. -/
def options (settings : Settings) : Options where
  grammar := settings.grammar.getD .json
  acceptPart := settings.acceptPart
  input := settings.input

end Settings

/-- What stands after a start, if a text starts with it. -/
def after? (start text : List Char) : Option String :=
  if start.isPrefixOf text then
    some (String.ofList (text.drop start.length))
  else none

/-- Whether an argument is the value of an option rather than an option. -/
def isValue (argument : String) : Bool :=
  match argument.toList with
  | ['-'] => true
  | '-' :: _ => false
  | _ => true

/-- Take all arguments as names of the input. -/
def readNames (settings : Settings) : List String → Invocation
  | [] => .parse settings.options
  | argument :: arguments =>
    match settings.nameInput? argument with
    | some settings => readNames settings arguments
    | none => .misuse

/-- Read arguments from left to right. -/
def read (settings : Settings) : List String → Invocation
  | [] => .parse settings.options
  | argument :: arguments =>
    if argument = "--" then readNames settings arguments
    else if argument = "--help" then .help
    else if argument = "--version" then .version
    else if argument = "--partial" then
      match settings.acceptPart? with
      | some settings => read settings arguments
      | none => .misuse
    else if argument = "--grammar" || argument = "-g" then
      match arguments with
      | [] => .misuse
      | word :: arguments =>
        if isValue word then
          match settings.chooseGrammar? word with
          | some settings => read settings arguments
          | none => .misuse
        else .misuse
    else if isValue argument then
      match settings.nameInput? argument with
      | some settings => read settings arguments
      | none => .misuse
    else
      match after? ['-', 'h'] argument.toList,
        after? ['-', 'V'] argument.toList with
      | some _, _ => .help
      | none, some _ => .version
      | none, none =>
        let attached :=
          (after? "--grammar=".toList argument.toList).or <|
            (after? ['-', 'g', '='] argument.toList).or
              (after? ['-', 'g'] argument.toList)
        match attached.bind settings.chooseGrammar? with
        | some settings => read settings arguments
        | none => .misuse

/-- What the arguments ask for. -/
def ofArguments (arguments : List String) : Invocation :=
  read ⟨none, false, none⟩ arguments

end Invocation

end OrderedChoice
