import OrderedChoice.CommandLine.Invocation
import OrderedChoice.CommandLine.Layout
import OrderedChoice.CommandLine.LogFilter
import OrderedChoice.Parser.Entry

/-!
# Responses

What the program answers to an invocation: an exit code, its output, and on the
error channel complaints about the log filter, log lines and the report of a
failure.
-/

namespace OrderedChoice

/-! ## Reading the input -/

/-- Why an input cannot be read. -/
inductive ReadError where
  | missing
  | directory
  | notText
  | other (description : String)
deriving DecidableEq, Repr

/-- The wording of a read error. -/
def ReadError.message : ReadError → String
  | .missing => "No such file or directory (os error 2)"
  | .directory => "Is a directory (os error 21)"
  | .notText => "stream did not contain valid UTF-8"
  | .other description => description

/-- The text of an input, given its bytes. -/
def decodeInput (bytes : Except ReadError ByteArray) :
    Except ReadError String :=
  match bytes with
  | .error error => .error error
  | .ok bytes =>
    match String.fromUTF8? bytes with
    | some text => .ok text
    | none => .error .notText

/-- How reports refer to an input. -/
def inputName : Option String → String
  | none => "standard input"
  | some name => name

/-! ## Responses -/

/-- What the program answers. -/
structure Response where
  code : Nat
  output : String
  complaints : List String
  records : List LogRecord
  failure : String

namespace Response

/-- A log line with a stamp in front. -/
def logLine (stamp : String) (record : LogRecord) : String :=
  "[" ++ stamp ++ record.level.render ++ " " ++ record.target ++ "] " ++
    record.message ++ "\n"

/-- The whole error channel, each log line with a stamp in front. -/
def errors (response : Response) (stamp : String) : String :=
  String.join (response.complaints.map (· ++ "\n")) ++
    String.join (response.records.map (logLine stamp)) ++ response.failure

/-- The report of a failure. -/
def failureReport (message : String) : String :=
  "Error: " ++ message ++ "\n"

/-- The report of a failure with its cause. -/
def failureWithCause (message cause : String) : String :=
  failureReport message ++ "\nCaused by:\n    " ++ cause ++ "\n"

/-- The name and number of the program. -/
def versionText : String := "parcomb 0.1.0\n"

/-- How the program is used. -/
def helpText : String :=
  "Parser combinators over text with ordered choice and furthest-failure diagnostics\n\n" ++
  "Usage: parcomb [OPTIONS] [INPUT]\n\n" ++
  "Arguments:\n" ++
  "  [INPUT]  Input file; reads standard input when omitted\n\n" ++
  "Options:\n" ++
  "  -g, --grammar <GRAMMAR>  Grammar to parse the input with [default: json] [possible values: json, sexpr]\n" ++
  "      --partial            Accept a prefix of the input and report what was left unparsed\n" ++
  "  -h, --help               Print help\n" ++
  "  -V, --version            Print version\n"

/-- What the program says when its arguments make no sense. -/
def usageText : String :=
  "error: the arguments cannot be understood\n\n" ++
  "Usage: parcomb [OPTIONS] [INPUT]\n\n" ++
  "For more information, try '--help'.\n"

/-- The fuel for a bundled grammar.  Between entering a rule and entering it
again the grammar consumes something, and so does every turn of a loop. -/
def fuelFor (source : Source) : Nat := source.length + 2

/-- The report of a value and of what was left unparsed. -/
def valueReport (layout : Layout) (rest : List Char) : String :=
  layout.render "" ++ "\n" ++
    if rest.isEmpty then ""
    else "unparsed: " ++ quote (String.ofList rest) ++ "\n"

/-- The response to a parse: its report, or the error it ended with. -/
def ofParsed {α : Type} (layout : α → Layout)
    (parsed : Parsed (α × List Char)) : Response :=
  match parsed.answer with
  | .error _ => ⟨101, "", [], parsed.records, ""⟩
  | .ok (.error error) =>
    ⟨1, "", [], parsed.records, failureReport error.message⟩
  | .ok (.ok (value, rest)) =>
    ⟨0, valueReport (layout value) rest, [], parsed.records, ""⟩

/-- Parse a source with a grammar, whole or in part. -/
def ofGrammar {R : Type → Type} {α : Type} (rules : Rules R)
    (parser : Parser R α) (layout : α → Layout) (acceptPart : Bool)
    (source : Source) : Response :=
  let fuel := fuelFor source
  ofParsed layout <|
    if acceptPart then parser.parsePartial rules fuel source
    else (parser.parse rules fuel source).map fun value => (value, [])

/-- Parse a source with the chosen grammar. -/
def ofSource (options : Options) (source : Source) : Response :=
  match options.grammar with
  | .json =>
    ofGrammar Json.rules Json.parser Json.layout options.acceptPart source
  | .sexpr =>
    ofGrammar Sexpr.rules Sexpr.parser Sexpr.programLayout options.acceptPart
      source

/-- The response to options, given the input.  The log tells that the input was
read and that the rule of the grammar got its definition. -/
def ofOptions (options : Options) (input : Except ReadError ByteArray) :
    Response :=
  match decodeInput input with
  | .error error =>
    ⟨1, "", [], [],
      failureWithCause ("can't read " ++ inputName options.input)
        error.message⟩
  | .ok text =>
    let source := Source.ofString text
    let response := ofSource options source
    { response with
      records := .read source.length :: .defined :: response.records }

/-- Keep the records that a filter lets pass, if there is one; without a filter
none is shown. -/
def filtered (response : Response) (filter : Option String) : Response :=
  match filter with
  | none => { response with records := [] }
  | some text =>
    let (filter, complaints) := LogFilter.read text
    { response with
      complaints := complaints
      records := response.records.filter filter.passes }

/-- The response to an invocation, given the log filter and the input. -/
def ofInvocation (filter : Option String) (invocation : Invocation)
    (input : Except ReadError ByteArray) : Response :=
  match invocation with
  | .parse options => (ofOptions options input).filtered filter
  | .help => (⟨0, helpText, [], [], ""⟩ : Response).filtered filter
  | .version => (⟨0, versionText, [], [], ""⟩ : Response).filtered filter
  | .misuse => (⟨2, "", [], [], usageText⟩ : Response).filtered filter

end Response

end OrderedChoice
