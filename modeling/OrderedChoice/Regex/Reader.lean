import OrderedChoice.Regex.Expression

/-!
# Reading expressions

Reads the text of a regular expression.  An expression is either read whole or
refused; there is no account of what is wrong with it.

Every function that may recurse takes a fuel argument.  Each call consumes a
character or hands on a smaller task, so `readExpression?` gives fuel enough
for any text.
-/

namespace OrderedChoice.Regex

/-! ## The state of reading -/

/-- What is left of the text, whether blanks and comments are skipped, and the
groups opened so far. -/
structure Reader where
  rest : List Char
  freeSpacing : Bool
  groupCount : Nat
  names : List (String × Nat)

/-- White space of every script. -/
def isWhiteSpace (character : Char) : Bool :=
  Unicode.Property.whiteSpace.contains character.toNat

/-- What follows blanks and comments; a comment runs to the end of its line. -/
def dropFreeSpace : Bool → List Char → List Char
  | _, [] => []
  | true, character :: rest => dropFreeSpace (character != '\n') rest
  | false, character :: rest =>
    if isWhiteSpace character then dropFreeSpace false rest
    else if character = '#' then dropFreeSpace true rest
    else character :: rest

namespace Reader

/-- Go on with another rest. -/
def withRest (reader : Reader) (rest : List Char) : Reader :=
  { reader with rest := rest }

/-- Skip blanks and comments where they may stand. -/
def skipSpace (reader : Reader) : Reader :=
  if reader.freeSpacing then
    reader.withRest (dropFreeSpace false reader.rest)
  else reader

/-- Leave one character behind. -/
def bump (reader : Reader) : Reader := reader.withRest reader.rest.tail

/-- Leave one character behind, and the blanks after it. -/
def advance (reader : Reader) : Reader := reader.bump.skipSpace

/-- The character after the next one, blanks and comments skipped. -/
def peekPastNext (reader : Reader) : Option Char :=
  let following := reader.rest.tail
  if reader.freeSpacing then
    match following.dropWhile isWhiteSpace with
    | '#' :: comment => (comment.dropWhile isWhiteSpace).head?
    | others => others.head?
  else following.head?

/-- The rest after a literal start, if the text goes on with it. -/
def after? (reader : Reader) (start : List Char) : Option Reader :=
  if start.isPrefixOf reader.rest then
    some (reader.withRest (reader.rest.drop start.length))
  else none

end Reader

/-! ## Numbers and names -/

/-- Hexadecimal digits of either case. -/
def isHexDigit (character : Char) : Bool :=
  ('0' ≤ character && character ≤ '9') ||
    ('a' ≤ character && character ≤ 'f') ||
    ('A' ≤ character && character ≤ 'F')

/-- The value of a hexadecimal digit. -/
def hexDigitValue (character : Char) : Nat :=
  if '0' ≤ character && character ≤ '9' then character.toNat - '0'.toNat
  else if 'a' ≤ character && character ≤ 'f' then
    character.toNat - 'a'.toNat + 10
  else character.toNat - 'A'.toNat + 10

/-- The scalar value that hexadecimal digits name. -/
def scalarOfHex? (digits : List Char) : Option Nat :=
  let value :=
    digits.foldl (fun value digit => value * 16 + hexDigitValue digit) 0
  if value.isValidChar then some value else none

/-- Read exactly so many hexadecimal digits, given those read before in
reverse. -/
def readHexDigits : Nat → List Char → Reader → Option (List Char × Reader)
  | 0, digits, reader => some (digits.reverse, reader)
  | count + 1, digits, reader =>
    match reader.rest with
    | [] => none
    | character :: _ =>
      if isHexDigit character then
        readHexDigits count (character :: digits) reader.advance
      else none

/-- Read up to a closing brace, which is left standing. -/
def readBraced (accepts : Char → Bool) :
    Nat → List Char → Reader → Option (List Char × Reader)
  | 0, _, _ => none
  | fuel + 1, content, reader =>
    match reader.rest with
    | [] => none
    | '\x7d' :: _ => some (content.reverse, reader)
    | character :: _ =>
      if accepts character then
        readBraced accepts fuel (character :: content) reader.advance
      else none

/-- Read a character by its number, from the letter after the backslash. -/
def readNumbered (reader : Reader) (digitCount : Nat) :
    Option (WrittenCharacter × Reader) :=
  let reader := reader.advance
  match reader.rest with
  | [] => none
  | '\x7b' :: _ => do
    let (digits, reader) ←
      readBraced isHexDigit (reader.rest.length + 1) [] reader.advance
    let value ← if digits.isEmpty then none else scalarOfHex? digits
    some (⟨value, false⟩, reader.advance)
  | _ => do
    let (digits, reader) ← readHexDigits digitCount [] reader
    let value ← scalarOfHex? digits
    some (⟨value, digitCount == 2⟩, reader)

/-- Split a class name at the first occurrence of a separator. -/
def splitName (separator : List Char) :
    List Char → List Char → Option (List Char × List Char)
  | _, [] => none
  | before, character :: rest =>
    if separator.isPrefixOf (character :: rest) then
      some (before.reverse, (character :: rest).drop separator.length)
    else splitName separator (character :: before) rest

/-- A class name and whether it says what the class is not. -/
def classNameOf (content : List Char) : Bool × ClassName :=
  let valued := fun (parts : List Char × List Char) =>
    ClassName.valued (String.ofList parts.1) (String.ofList parts.2)
  match splitName ['!', '='] [] content with
  | some parts => (true, valued parts)
  | none =>
    match splitName [':'] [] content with
    | some parts => (false, valued parts)
    | none =>
      match splitName ['='] [] content with
      | some parts => (false, valued parts)
      | none => (false, .lone (String.ofList content))

/-- Read a class given by property, from the letter after the backslash. -/
def readNamedClass (reader : Reader) (negated : Bool) :
    Option ((Bool × ClassName) × Reader) :=
  let reader := reader.advance
  match reader.rest with
  | [] => none
  | '\x7b' :: _ => do
    let (content, reader) ←
      readBraced (fun _ => true) (reader.rest.length + 1) [] reader.advance
    let (differs, name) := classNameOf content
    some ((negated ^^ differs, name), reader.bump)
  | character :: _ =>
    if character = '\\' then none
    else
      some ((negated, .lone (String.singleton character)), reader.advance)

/-- Read decimal digits, given those read before in reverse. -/
def readDigits : Nat → List Char → Reader → List Char × Reader
  | 0, digits, reader => (digits.reverse, reader)
  | fuel + 1, digits, reader =>
    match reader.rest with
    | [] => (digits.reverse, reader)
    | character :: _ =>
      if '0' ≤ character && character ≤ '9' then
        readDigits fuel (character :: digits) reader.advance
      else (digits.reverse, reader)

/-- The largest count that a repetition may name. -/
def maximumCount : Nat := 4294967295

/-- Read a count with blanks around it. -/
def readCount (reader : Reader) : Option (Nat × Reader) :=
  let reader := reader.withRest (reader.rest.dropWhile isWhiteSpace)
  let (digits, reader) := readDigits (reader.rest.length + 1) [] reader
  let reader :=
    (reader.withRest (reader.rest.dropWhile isWhiteSpace)).skipSpace
  let value :=
    digits.foldl
      (fun value digit => value * 10 + (digit.toNat - '0'.toNat)) 0
  if digits.isEmpty || decide (maximumCount < value) then none
  else some (value, reader)

/-! ## Atoms -/

/-- A part that may stand outside a class or, some of them, inside one. -/
inductive Atom where
  | character (written : WrittenCharacter)
  | dot
  | anchor (anchor : Anchor)
  | letter (negated : Bool) (kind : LetterClass)
  | named (negated : Bool) (name : ClassName)

/-- An atom as an expression. -/
def Atom.expression : Atom → Expression
  | .character written => .character written
  | .dot => .dot
  | .anchor assertion => .anchor assertion
  | .letter negated kind => .letter negated kind
  | .named negated name => .named negated name

/-- An atom as part of a class; anchors have no place there. -/
def Atom.setExpression? : Atom → Option SetExpression
  | .character written => some (.character written)
  | .letter negated kind => some (.letter negated kind)
  | .named negated name => some (.named negated name)
  | .dot => none
  | .anchor _ => none

/-- A character written as itself. -/
def Atom.plain (character : Char) : Atom :=
  .character ⟨character.toNat, false⟩

/-- The character that a letter names after a backslash. -/
def controlNamed? : Char → Option Nat
  | 'a' => some 0x07
  | 'f' => some 0x0C
  | 't' => some 0x09
  | 'n' => some 0x0A
  | 'r' => some 0x0D
  | 'v' => some 0x0B
  | _ => none

/-- Characters that a backslash leaves standing for themselves: ASCII apart
from letters, digits and the angle brackets. -/
def isEscapable (character : Char) : Bool :=
  decide (character.toNat < 0x80) && !character.isAlphanum &&
    character != '<' && character != '>'

/-- The word edges that can be named in braces. -/
def namedEdge? : List Char → Option WordEdge
  | ['s', 't', 'a', 'r', 't'] => some .start
  | ['e', 'n', 'd'] => some .stop
  | ['s', 't', 'a', 'r', 't', '-', 'h', 'a', 'l', 'f'] => some .startHalf
  | ['e', 'n', 'd', '-', 'h', 'a', 'l', 'f'] => some .stopHalf
  | _ => none

/-- Characters that the name of a word edge consists of. -/
def isEdgeCharacter (character : Char) : Bool :=
  character.isAlpha || character == '-'

/-- Read what follows `\b`: a word edge named in braces, or nothing where the
braces hold a count. -/
def readEdge (reader : Reader) : Option (WordEdge × Reader) :=
  match reader.rest with
  | '\x7b' :: _ =>
    let inside := reader.advance
    match inside.rest with
    | [] => none
    | character :: _ =>
      if isEdgeCharacter character then do
        let (content, inside) ←
          readBraced isEdgeCharacter (inside.rest.length + 1) [] inside
        let edge ← namedEdge? content
        some (edge, inside.bump)
      else some (.boundary, reader)
  | _ => some (.boundary, reader)

/-- Read an atom that starts with a backslash. -/
def readEscape (reader : Reader) : Option (Atom × Reader) :=
  let reader := reader.bump
  match reader.rest with
  | [] => none
  | letter :: _ =>
    let next := reader.bump
    match letter with
    | 'x' => do
      let (written, reader) ← readNumbered reader 2
      some (.character written, reader)
    | 'u' => do
      let (written, reader) ← readNumbered reader 4
      some (.character written, reader)
    | 'U' => do
      let (written, reader) ← readNumbered reader 8
      some (.character written, reader)
    | 'p' => do
      let ((negated, name), reader) ← readNamedClass reader false
      some (.named negated name, reader)
    | 'P' => do
      let ((negated, name), reader) ← readNamedClass reader true
      some (.named negated name, reader)
    | 'd' => some (.letter false .digit, next)
    | 'D' => some (.letter true .digit, next)
    | 's' => some (.letter false .space, next)
    | 'S' => some (.letter true .space, next)
    | 'w' => some (.letter false .word, next)
    | 'W' => some (.letter true .word, next)
    | 'A' => some (.anchor .textStart, next)
    | 'z' => some (.anchor .textEnd, next)
    | 'b' => do
      let (edge, reader) ← readEdge next
      some (.anchor (.word edge), reader)
    | 'B' => some (.anchor (.word .noBoundary), next)
    | '<' => some (.anchor (.word .start), next)
    | '>' => some (.anchor (.word .stop), next)
    | letter =>
      match controlNamed? letter with
      | some value => some (.character ⟨value, false⟩, next)
      | none =>
        if isEscapable letter then some (.plain letter, next) else none

/-! ## Classes -/

/-- The names of the ASCII classes. -/
def asciiClassNamed? : String → Option AsciiClass
  | "alnum" => some .alnum
  | "alpha" => some .alpha
  | "ascii" => some .ascii
  | "blank" => some .blank
  | "cntrl" => some .cntrl
  | "digit" => some .digit
  | "graph" => some .graph
  | "lower" => some .lower
  | "print" => some .print
  | "punct" => some .punct
  | "space" => some .space
  | "upper" => some .upper
  | "word" => some .word
  | "xdigit" => some .xdigit
  | _ => none

/-- Read an ASCII class such as `[:alpha:]`; anything else that starts with a
bracket is left for a nested class. -/
def readAsciiClass? (reader : Reader) : Option (SetExpression × Reader) := do
  let inside ← reader.after? ['[', ':']
  let (negated, inside) :=
    match inside.rest with
    | '^' :: rest => (true, inside.withRest rest)
    | _ => (false, inside)
  let name := inside.rest.takeWhile (· != ':')
  let outside ←
    (inside.withRest (inside.rest.drop name.length)).after? [':', ']']
  let kind ← asciiClassNamed? (String.ofList name)
  some (.ascii negated kind, outside)

/-- Read one member of a class. -/
def readMember (reader : Reader) : Option (Atom × Reader) :=
  match reader.rest with
  | [] => none
  | '\\' :: _ => readEscape reader
  | character :: rest => some (.plain character, reader.withRest rest)

/-- Read one member of a class or a range of characters. -/
def readRange (reader : Reader) : Option (SetExpression × Reader) := do
  let (first, reader) ← readMember reader
  let reader := reader.skipSpace
  match reader.rest with
  | [] => none
  | '-' :: _ =>
    let following := reader.peekPastNext
    if following == some ']' || following == some '-' then
      let part ← first.setExpression?
      some (part, reader)
    else
      let (last, reader) ← readMember reader.advance
      match first, last with
      | .character first, .character last =>
        if first.value ≤ last.value then
          some (.range first last, reader)
        else none
      | _, _ => none
  | _ =>
    let part ← first.setExpression?
    some (part, reader)

/-- Read the hyphens that may open a class and stand for themselves. -/
def readHyphens : Nat → List SetExpression → Reader →
    List SetExpression × Reader
  | 0, parts, reader => (parts, reader)
  | fuel + 1, parts, reader =>
    match reader.rest with
    | '-' :: _ =>
      readHyphens fuel (.character ⟨'-'.toNat, false⟩ :: parts) reader.advance
    | _ => (parts, reader)

/-- Combine the parts read since the last operation with what precedes it. -/
def closeOperand (pending : Option (SetOperation × SetExpression))
    (parts : List SetExpression) : SetExpression :=
  let operand := SetExpression.ofParts parts.reverse
  match pending with
  | none => operand
  | some (kind, left) => .operation kind left operand

/-- The operation at the front of a text. -/
def operationAhead? (reader : Reader) : Option (SetOperation × Reader) :=
  match reader.rest with
  | '&' :: '&' :: rest => some (.intersection, reader.withRest rest)
  | '-' :: '-' :: rest => some (.difference, reader.withRest rest)
  | '~' :: '~' :: rest => some (.symmetricDifference, reader.withRest rest)
  | _ => none

mutual

/-- Read a class from its opening bracket on. -/
def readClass : Nat → Reader → Option ((Bool × SetExpression) × Reader)
  | 0, _ => none
  | fuel + 1, reader => do
    let reader := reader.advance
    let (negated, reader) :=
      match reader.rest with
      | '^' :: _ => (true, reader.advance)
      | _ => (false, reader)
    let (parts, reader) :=
      readHyphens (reader.rest.length + 1) [] reader
    let (parts, reader) :=
      match parts, reader.rest with
      | [], ']' :: _ =>
        ([.character ⟨']'.toNat, false⟩], reader.advance)
      | parts, _ => (parts, reader)
    let (members, reader) ← readParts fuel none parts reader
    some ((negated, members), reader)

/-- Read the parts of a class up to its closing bracket. -/
def readParts : Nat → Option (SetOperation × SetExpression) →
    List SetExpression → Reader → Option (SetExpression × Reader)
  | 0, _, _, _ => none
  | fuel + 1, pending, parts, reader =>
    let reader := reader.skipSpace
    match reader.rest with
    | [] => none
    | ']' :: _ => some (closeOperand pending parts, reader.bump)
    | '[' :: _ =>
      match readAsciiClass? reader with
      | some (part, reader) => readParts fuel pending (part :: parts) reader
      | none => do
        let ((negated, members), reader) ← readClass fuel reader
        readParts fuel pending (.bracketed negated members :: parts) reader
    | _ =>
      match operationAhead? reader with
      | some (kind, reader) =>
        readParts fuel (some (kind, closeOperand pending parts)) [] reader
      | none => do
        let (part, reader) ← readRange reader
        readParts fuel pending (part :: parts) reader

end

/-! ## Groups and flags -/

/-- The flag that a letter stands for. -/
def flagOf? : Char → Option Flag
  | 'i' => some .ignoreCase
  | 'm' => some .multiLine
  | 's' => some .dotAll
  | 'U' => some .swapGreed
  | 'u' => some .unicode
  | 'R' => some .anyLineEnding
  | 'x' => some .freeSpacing
  | _ => none

/-- Read flag settings up to the colon or parenthesis that ends them.  A flag
may be named once, and a hyphen, which switches the rest off, stands once and
before a flag. -/
def readFlags : FlagSettings → Bool → Bool → List Char →
    Option (FlagSettings × List Char)
  | _, _, _, [] => none
  | settings, negated, dangling, character :: rest =>
    if character = ':' || character = ')' then
      if dangling then none else some (settings.reverse, character :: rest)
    else if character = '-' then
      if negated then none else readFlags settings true true rest
    else
      match flagOf? character with
      | none => none
      | some flag =>
        if settings.any fun setting => setting.1 == flag then none
        else readFlags ((flag, !negated) :: settings) negated false rest

/-- What the settings say about blanks and comments, if anything. -/
def freeSpacingIn (settings : FlagSettings) (unchanged : Bool) : Bool :=
  (settings.lookup .freeSpacing).getD unchanged

/-- Characters that a group name may consist of; it starts with a letter or
underscore. -/
def isNameCharacter (isFirst : Bool) (character : Char) : Bool :=
  let value := character.toNat
  character == '_' || Unicode.Property.alphabetic.contains value ||
    (!isFirst &&
      (character == '.' || character == '[' || character == ']' ||
        Unicode.inAnyCategory
          [.decimalNumber, .letterNumber, .otherNumber] value))

/-- Read a group name and the angle bracket that ends it. -/
def readName (reader : Reader) : Option (String × Reader) :=
  let name := reader.rest.takeWhile (· != '>')
  match name, reader.rest.drop name.length with
  | first :: others, '>' :: rest =>
    if isNameCharacter true first && others.all (isNameCharacter false) then
      some (String.ofList name, reader.withRest rest)
    else none
  | _, _ => none

/-- What an opening parenthesis turned out to start. -/
inductive Opening where
  | group (kind : GroupKind)
  | flags (settings : FlagSettings)

/-- Read from an opening parenthesis up to where the body of the group
starts. -/
def readOpening (reader : Reader) : Option (Opening × Reader) :=
  let reader := reader.advance
  let number := reader.groupCount + 1
  let opened := { reader with groupCount := number }
  let named := fun (inside : Reader) => do
    let (name, inside) ← readName { opened with rest := inside.rest }
    if (inside.names.lookup name).isSome then none
    else
      some
        (Opening.group (.capturing number),
          { inside with names := inside.names ++ [(name, number)] })
  match reader.rest with
  | '?' :: '=' :: _ => none
  | '?' :: '!' :: _ => none
  | '?' :: '<' :: '=' :: _ => none
  | '?' :: '<' :: '!' :: _ => none
  | '?' :: 'P' :: '<' :: rest => named (reader.withRest rest)
  | '?' :: '<' :: rest => named (reader.withRest rest)
  | '?' :: rest => do
    let (settings, rest) ← readFlags [] false false rest
    match rest with
    | ')' :: rest =>
      if settings.isEmpty then none
      else some (.flags settings, reader.withRest rest)
    | ':' :: rest => some (.group (.plain settings), reader.withRest rest)
    | _ => none
  | _ => some (.group (.capturing number), opened)

/-! ## Repetitions -/

/-- Whether an expression can be repeated; flag settings cannot. -/
def isRepeatable : Expression → Bool
  | .settings _ => false
  | _ => true

/-- Read the question mark that makes a repetition prefer fewer turns. -/
def readGreed (reader : Reader) : Bool × Reader :=
  match reader.rest with
  | '?' :: rest => (false, reader.withRest rest)
  | _ => (true, reader)

/-- Read the bounds of a counted repetition from its opening brace on. -/
def readBounds (reader : Reader) :
    Option ((Nat × Option Nat) × Reader) := do
  let (least, reader) ← readCount reader.advance
  let (bounds, reader) ←
    match reader.rest with
    | ',' :: _ =>
      let reader := reader.advance
      match reader.rest with
      | '\x7d' :: _ => some ((least, none), reader)
      | _ => do
        let (most, reader) ← readCount reader
        some ((least, some most), reader)
    | _ => some ((least, some least), reader)
  match reader.rest with
  | '\x7d' :: _ =>
    match bounds with
    | (least, some most) =>
      if least ≤ most then some (bounds, reader.advance) else none
    | (_, none) => some (bounds, reader.advance)
  | _ => none

/-- Read a repetition of the last part, from its operator on. -/
def readRepetition (body : Expression) (reader : Reader) :
    Option (Expression × Reader) := do
  let ((least, most), reader) ←
    match reader.rest with
    | '?' :: _ => some ((0, some 1), reader.bump)
    | '*' :: _ => some ((0, none), reader.bump)
    | '+' :: _ => some ((1, none), reader.bump)
    | _ => readBounds reader
  let (greedy, reader) := readGreed reader
  if isRepeatable body then
    some (.repetition body least most greedy, reader)
  else none

/-! ## Whole expressions -/

mutual

/-- Read alternatives up to a closing parenthesis or the end. -/
def readBranches : Nat → List Expression → Reader →
    Option (Expression × Reader)
  | 0, _, _ => none
  | fuel + 1, branches, reader => do
    let (branch, reader) ← readConcat fuel [] reader
    let branches := branch :: branches
    match reader.rest with
    | '|' :: _ => readBranches fuel branches reader.bump
    | _ => some (.ofBranches branches.reverse, reader)

/-- Read parts up to a bar, a closing parenthesis or the end. -/
def readConcat : Nat → List Expression → Reader →
    Option (Expression × Reader)
  | 0, _, _ => none
  | fuel + 1, parts, reader =>
    let reader := reader.skipSpace
    match reader.rest with
    | [] => some (.ofParts parts.reverse, reader)
    | character :: rest =>
      if character = '|' || character = ')' then
        some (.ofParts parts.reverse, reader)
      else if character = '(' then do
        let (opening, inside) ← readOpening reader
        match opening with
        | .flags settings =>
          readConcat fuel (.settings settings :: parts)
            { inside with
              freeSpacing := freeSpacingIn settings reader.freeSpacing }
        | .group kind =>
          let freeSpacing :=
            match kind with
            | .plain settings => freeSpacingIn settings reader.freeSpacing
            | .capturing _ => reader.freeSpacing
          let (body, inside) ←
            readBranches fuel [] { inside with freeSpacing := freeSpacing }
          match inside.rest with
          | ')' :: rest =>
            readConcat fuel (.group kind body :: parts)
              { inside with rest := rest, freeSpacing := reader.freeSpacing }
          | _ => none
      else if character = '[' then do
        let ((negated, members), reader) ← readClass fuel reader
        readConcat fuel (.bracketed negated members :: parts) reader
      else if character = '?' || character = '*' || character = '+' ||
          character = '\x7b' then
        match parts with
        | [] => none
        | body :: parts => do
          let (repetition, reader) ← readRepetition body reader
          readConcat fuel (repetition :: parts) reader
      else if character = '\\' then do
        let (atom, reader) ← readEscape reader
        readConcat fuel (atom.expression :: parts) reader
      else
        let part : Expression :=
          match character with
          | '.' => .dot
          | '^' => .anchor .caret
          | '$' => .anchor .dollar
          | character => .character ⟨character.toNat, false⟩
        readConcat fuel (part :: parts) (reader.withRest rest)

end

/-- An expression that was read, with the names of its groups. -/
structure ReadExpression where
  expression : Expression
  names : List (String × Nat)

/-- Read a whole text as an expression. -/
def readExpression? (text : List Char) : Option ReadExpression := do
  let (expression, reader) ←
    readBranches (3 * text.length + 3) [] ⟨text, false, 0, []⟩
  if reader.rest.isEmpty && decide (expression.depth ≤ maximumDepth) then
    some ⟨expression, reader.names⟩
  else none

end OrderedChoice.Regex
