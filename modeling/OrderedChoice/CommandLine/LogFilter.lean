import OrderedChoice.Log
import OrderedChoice.Regex.Pattern

/-!
# Log filters

Which records of the log are shown.  A filter is a list of directives separated
by commas: a level, the start of a target, or both as `target=level`; the
longest start that a record's target has decides.  After a slash may follow a
regular expression that the text of a record has to match somewhere.
-/

namespace OrderedChoice

/-- One directive: records whose target starts with `target` are shown up to
`level`, or not at all without one. -/
structure LogDirective where
  target : Option String
  level : Option LogLevel
deriving DecidableEq, Repr

/-- A filter for log records. -/
structure LogFilter where
  directives : List LogDirective
  pattern : Option Pattern

namespace LogFilter

/-! ## Reading -/

/-- The level that a word names; `off` names none. -/
def levelNamed? (word : String) : Option (Option LogLevel) :=
  match word.map Char.toLower with
  | "off" => some none
  | "error" => some (some .error)
  | "warn" => some (some .warn)
  | "info" => some (some .info)
  | "debug" => some (some .debug)
  | "trace" => some (some .trace)
  | _ => none

/-- Text without the white space around it. -/
def trim (text : List Char) : List Char :=
  let blank := fun (character : Char) =>
    Unicode.Property.whiteSpace.contains character.toNat
  ((text.dropWhile blank).reverse.dropWhile blank).reverse

/-- The parts of a text between separators. -/
def splitAt (separator : Char) : List Char → List (List Char)
  | [] => [[]]
  | character :: text =>
    match splitAt separator text with
    | [] => [[character]]
    | part :: parts =>
      if character = separator then [] :: part :: parts
      else (character :: part) :: parts

/-- Read one directive; an unusable one gives the text to complain about. -/
def readDirective (text : List Char) : Except String LogDirective :=
  match splitAt '=' text with
  | [word] =>
    let word := String.ofList word
    match levelNamed? word with
    | some level => .ok ⟨none, level⟩
    | none => .ok ⟨some word, some .trace⟩
  | [target, level] =>
    let level := String.ofList (trim level)
    if level = "" then .ok ⟨some (String.ofList target), some .trace⟩
    else
      match levelNamed? level with
      | some known => .ok ⟨some (String.ofList target), known⟩
      | none => .error level
  | _ => .error (String.ofList text)

/-- Add a directive; a later one for the same target replaces an earlier
one. -/
def insert (directives : List LogDirective) (directive : LogDirective) :
    List LogDirective :=
  if directives.any fun other => other.target == directive.target then
    directives.map fun other =>
      if other.target == directive.target then directive else other
  else directives ++ [directive]

/-- The complaint about a part of a filter that is left out. -/
def complaint (subject : String) : String :=
  "warning: " ++ subject ++ ", ignoring it"

/-- Read the directives of a filter, with complaints about those left out. -/
def readDirectives (text : List Char) :
    List LogDirective × List String :=
  ((splitAt ',' text).map trim).foldl
    (fun (directives, complaints) part =>
      if part.isEmpty then (directives, complaints)
      else
        match readDirective part with
        | .ok directive => (insert directives directive, complaints)
        | .error subject =>
          (directives,
            complaints ++
              [complaint ("invalid logging spec '" ++ subject ++ "'")]))
    ([], [])

/-- Without directives only errors are shown. -/
def orErrors (directives : List LogDirective) : List LogDirective :=
  if directives.isEmpty then [⟨none, some .error⟩] else directives

/-- Read a filter, with complaints about the parts left out. -/
def read (text : String) : LogFilter × List String :=
  match splitAt '/' text.toList with
  | [directives] =>
    let (directives, complaints) := readDirectives directives
    (⟨orErrors directives, none⟩, complaints)
  | [directives, expression] =>
    let (directives, complaints) := readDirectives directives
    match Pattern.ofText (String.ofList expression) with
    | .ok pattern => (⟨orErrors directives, some pattern⟩, complaints)
    | .error error =>
      (⟨orErrors directives, none⟩,
        complaints ++
          [complaint ("invalid regex filter - " ++ error.message)])
  | _ =>
    (⟨orErrors [], none⟩,
      [complaint
        ("invalid logging spec '" ++ text ++ "' (too many '/'s)")])

/-! ## Filtering -/

/-- How specific a directive is. -/
def LogDirective.specificity (directive : LogDirective) : Nat :=
  match directive.target with
  | none => 0
  | some target => target.utf8ByteSize

/-- Whether a directive speaks about a target. -/
def LogDirective.covers (directive : LogDirective) (target : String) : Bool :=
  match directive.target with
  | none => true
  | some start => start.toList.isPrefixOf target.toList

/-- The most specific directive about a target; of equally specific ones the
last. -/
def governing? (directives : List LogDirective) (target : String) :
    Option LogDirective :=
  directives.foldl
    (fun best directive =>
      if LogDirective.covers directive target then
        match best with
        | none => some directive
        | some other =>
          if LogDirective.specificity other ≤
              LogDirective.specificity directive then
            some directive
          else best
      else best)
    none

/-- Whether a pattern matches anywhere in a text. -/
def occurs (pattern : Pattern) (text : String) : Bool :=
  let source := Source.ofString text
  (List.range (source.length + 1)).any fun offset =>
    (pattern.matchAt source offset).isSome

/-- Whether a record is shown. -/
def passes (filter : LogFilter) (record : LogRecord) : Bool :=
  let levelPasses :=
    match (governing? filter.directives record.target).bind (·.level) with
    | none => false
    | some level => decide (record.level.rank ≤ level.rank)
  levelPasses &&
    match filter.pattern with
    | none => true
    | some pattern => occurs pattern record.message

end LogFilter

end OrderedChoice
