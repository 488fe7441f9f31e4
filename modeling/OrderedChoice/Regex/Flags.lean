import OrderedChoice.Regex.ClassName

/-!
# Resolving flags

Turns an expression as written into the core language, reading every part
under the flags in force where it stands.  Settings made inside a group end
with the group.

With Unicode off, classes hold ASCII characters only and nothing may match
part of a character; expressions that could are refused.
-/

namespace OrderedChoice.Regex

/-- The flags in force. -/
structure Flags where
  ignoreCase : Bool
  multiLine : Bool
  dotAll : Bool
  swapGreed : Bool
  unicode : Bool
  anyLineEnding : Bool
deriving DecidableEq, Repr

namespace Flags

/-- The flags that hold at the start: Unicode alone is on. -/
def initial : Flags := ⟨false, false, false, false, true, false⟩

/-- The flags after one setting; blanks and comments concern the reading
alone. -/
def set (flags : Flags) (setting : Flag × Bool) : Flags :=
  match setting.1 with
  | .ignoreCase => { flags with ignoreCase := setting.2 }
  | .multiLine => { flags with multiLine := setting.2 }
  | .dotAll => { flags with dotAll := setting.2 }
  | .swapGreed => { flags with swapGreed := setting.2 }
  | .unicode => { flags with unicode := setting.2 }
  | .anyLineEnding => { flags with anyLineEnding := setting.2 }
  | .freeSpacing => flags

/-- The flags after several settings. -/
def update (flags : Flags) (settings : FlagSettings) : Flags :=
  settings.foldl set flags

end Flags

/-! ## Classes -/

/-- The union of several sets. -/
def CharSet.unionOf : List CharSet → CharSet
  | [] => .empty
  | [members] => members
  | members :: others => .union members (unionOf others)

/-- The members of an ASCII class. -/
def AsciiClass.set : AsciiClass → CharSet
  | .alnum => .unionOf [.range 0x30 0x39, .range 0x41 0x5A, .range 0x61 0x7A]
  | .alpha => .unionOf [.range 0x41 0x5A, .range 0x61 0x7A]
  | .ascii => .range 0 0x7F
  | .blank => .unionOf [.single 0x09, .single 0x20]
  | .cntrl => .unionOf [.range 0 0x1F, .single 0x7F]
  | .digit => .range 0x30 0x39
  | .graph => .range 0x21 0x7E
  | .lower => .range 0x61 0x7A
  | .print => .range 0x20 0x7E
  | .punct =>
    .unionOf
      [.range 0x21 0x2F, .range 0x3A 0x40, .range 0x5B 0x60, .range 0x7B 0x7E]
  | .space => .unionOf [.range 0x09 0x0D, .single 0x20]
  | .upper => .range 0x41 0x5A
  | .word =>
    .unionOf
      [.range 0x30 0x39, .range 0x41 0x5A, .single 0x5F, .range 0x61 0x7A]
  | .xdigit => .unionOf [.range 0x30 0x39, .range 0x41 0x46, .range 0x61 0x66]

/-- The ASCII members of a class named by a letter. -/
def LetterClass.asciiSet : LetterClass → CharSet
  | .digit => AsciiClass.digit.set
  | .space => AsciiClass.space.set
  | .word => AsciiClass.word.set

/-- The members of a class named by a letter. -/
def LetterClass.unicodeSet : LetterClass → CharSet
  | .digit => .digit
  | .space => .space
  | .word => .word

namespace Flags

/-- Close a set under case where case is ignored. -/
def close (flags : Flags) (members : CharSet) : CharSet :=
  if flags.ignoreCase then
    if flags.unicode then .caseClosure members else .asciiCaseClosure members
  else members

/-- Negate a set where it is negated; with Unicode off a negated set would hold
bytes that are not characters. -/
def negate? (flags : Flags) (negated : Bool) (members : CharSet) :
    Option CharSet :=
  if negated && !flags.unicode then none else some (members.negateIf negated)

/-- The members of a class named by a letter. -/
def letterSet? (flags : Flags) (negated : Bool) (kind : LetterClass) :
    Option CharSet :=
  flags.negate? negated
    (if flags.unicode then kind.unicodeSet else kind.asciiSet)

/-- The members of a class given by property, which needs Unicode. -/
def namedSet? (flags : Flags) (negated : Bool) (name : ClassName) :
    Option CharSet :=
  if flags.unicode then
    name.set?.map fun members => (flags.close members).negateIf negated
  else none

/-- The value of a character in a class. -/
def member? (flags : Flags) (written : WrittenCharacter) : Option Nat :=
  if flags.unicode || decide (written.value < 0x80) then some written.value
  else none

end Flags

/-- The members of an operation on two sets. -/
def SetOperation.set (kind : SetOperation) (left right : CharSet) : CharSet :=
  match kind with
  | .intersection => .intersection left right
  | .difference => .difference left right
  | .symmetricDifference => .symmetricDifference left right

/-- The members of a class, before it is closed under case and negated. -/
def SetExpression.set? (flags : Flags) : SetExpression → Option CharSet
  | .character written => (flags.member? written).map .single
  | .range first last => do
    let first ← flags.member? first
    let last ← flags.member? last
    some (.range first last)
  | .ascii negated kind => flags.negate? negated (flags.close kind.set)
  | .letter negated kind => flags.letterSet? negated kind
  | .named negated name => flags.namedSet? negated name
  | .bracketed negated members => do
    let members ← members.set? flags
    flags.negate? negated (flags.close members)
  | .union members => do
    let members ← setOfAll? members
    some (.unionOf members)
  | .operation kind left right => do
    let left ← left.set? flags
    let right ← right.set? flags
    some (kind.set (flags.close left) (flags.close right))
where
  /-- The members of several parts. -/
  setOfAll? : List SetExpression → Option (List CharSet)
    | [] => some []
    | part :: parts => do
      let members ← part.set? flags
      let others ← setOfAll? parts
      some (members :: others)

/-! ## Expressions -/

/-- Which characters words are made of. -/
def Flags.wordKind (flags : Flags) : WordKind :=
  if flags.unicode then .unicode else .ascii

/-- The assertion that an anchor stands for. -/
def Anchor.look (flags : Flags) : Anchor → Look
  | .caret =>
    if !flags.multiLine then .textStart
    else if flags.anyLineEnding then .lineStartAnyEnding
    else .lineStart
  | .dollar =>
    if !flags.multiLine then .textEnd
    else if flags.anyLineEnding then .lineEndAnyEnding
    else .lineEnd
  | .textStart => .textStart
  | .textEnd => .textEnd
  | .word edge => .word flags.wordKind edge

/-- The characters that a dot matches: all but the ends of lines, or all. -/
def Flags.dot? (flags : Flags) : Option CharSet :=
  if !flags.unicode then none
  else if flags.dotAll then some .any
  else if flags.anyLineEnding then
    some (.complement (.unionOf [.single 0x0A, .single 0x0D]))
  else some (.complement (.single 0x0A))

/-- The characters that a single written character matches.  A byte beyond
ASCII is no character where Unicode is off. -/
def Flags.character? (flags : Flags) (written : WrittenCharacter) :
    Option CharSet :=
  if !flags.unicode && written.asByte && decide (0x80 ≤ written.value) then
    none
  else some (flags.close (.single written.value))

/-- One expression after another. -/
def Term.seqOf : List Term → Term
  | [] => .empty
  | term :: others => others.foldl .seq term

/-- Several expressions in order of preference. -/
def Term.altOf : List Term → Term
  | [] => .empty
  | [term] => term
  | term :: others => .alt term (altOf others)

/-- The core expression that an expression stands for, with the flags that hold
after it. -/
def Expression.resolve? : Expression → Flags → Option (Term × Flags)
  | .character written, flags => do
    let members ← flags.character? written
    some (.set members, flags)
  | .dot, flags => do
    let members ← flags.dot?
    some (.set members, flags)
  | .anchor assertion, flags => some (.look (assertion.look flags), flags)
  | .letter negated kind, flags => do
    let members ← flags.letterSet? negated kind
    some (.set members, flags)
  | .named negated name, flags => do
    let members ← flags.namedSet? negated name
    some (.set members, flags)
  | .bracketed negated members, flags => do
    let members ← members.set? flags
    let members ← flags.negate? negated (flags.close members)
    some (.set members, flags)
  | .settings items, flags => some (.empty, flags.update items)
  | .repetition body min max greedy, flags => do
    let (body, after) ← body.resolve? flags
    some (body.repeated min max (greedy != after.swapGreed), after)
  | .group kind body, flags =>
    match kind with
    | .capturing number => do
      let (body, _) ← body.resolve? flags
      some (.group number body, flags)
    | .plain items => do
      let (body, _) ← body.resolve? (flags.update items)
      some (body, flags)
  | .concat parts, flags => do
    let (parts, after) ← resolveAll? parts flags
    some (.seqOf parts, after)
  | .alternation branches, flags => do
    let (branches, after) ← resolveAll? branches flags
    some (.altOf branches, after)
where
  /-- Resolve several expressions from left to right. -/
  resolveAll? : List Expression → Flags → Option (List Term × Flags)
    | [], flags => some ([], flags)
    | expression :: expressions, flags => do
      let (term, flags) ← expression.resolve? flags
      let (others, flags) ← resolveAll? expressions flags
      some (term :: others, flags)

end OrderedChoice.Regex
