import OrderedChoice.CommandLine.Response
import OrderedChoice.Declaration
import OrderedChoice.Main
import OrderedChoice.Parser.Characters
import OrderedChoice.Parser.Entry
import OrderedChoice.Parser.Literals
import OrderedChoice.Parser.Patterns
import OrderedChoice.Text.Casing
import OrderedChoice.Proofs.Diagnostics.Summary
import OrderedChoice.Proofs.Parser.Fragment
import OrderedChoice.Proofs.Parser.Invariant
import OrderedChoice.Proofs.Diagnostics.FurthestFailure
import OrderedChoice.Proofs.Regex.Arrival
import OrderedChoice.Proofs.Regex.Engine
import OrderedChoice.Proofs.Parser.OffsetSafety
import OrderedChoice.Proofs.Parser.Fuel
import OrderedChoice.Proofs.Parser.Gives
import OrderedChoice.Proofs.Parser.Texts
import OrderedChoice.Proofs.Regex.Preference
import OrderedChoice.Proofs.Parser.Patterns
import OrderedChoice.Proofs.Json.Numbers
import OrderedChoice.Proofs.Json.Strings
import OrderedChoice.Proofs.Json.Objects
import OrderedChoice.Proofs.Json.Grammar
import OrderedChoice.Proofs.Json.Acceptance
import OrderedChoice.Proofs.Json.ErrorLocation
import OrderedChoice.Proofs.Parser.EntryPoints
import OrderedChoice.Proofs.CommandLine.Reports
import OrderedChoice.Proofs.Parser.Scans
import OrderedChoice.Proofs.Parser.LongestPrefix
import OrderedChoice.Proofs.Json.NumberPrefixes
import OrderedChoice.Proofs.Json.LongestPrefix
import OrderedChoice.Proofs.Unicode.Edges
import OrderedChoice.Proofs.Regex.Ranges
import OrderedChoice.Proofs.Regex.Size
import OrderedChoice.Proofs.Sexpr.Tokens
import OrderedChoice.Proofs.Sexpr.Grammar
import OrderedChoice.Proofs.Sexpr.LongestPrefix
import OrderedChoice.Proofs.Sexpr.Printing
import OrderedChoice.Proofs.Sexpr.Oversized
import OrderedChoice.Proofs.Diagnostics.Merging
import OrderedChoice.Proofs.Parser.Driver
import OrderedChoice.Proofs.Parser.Answers
import OrderedChoice.Proofs.Parser.Sequencing
import OrderedChoice.Proofs.Parser.Choice
import OrderedChoice.Proofs.Parser.Embedding
import OrderedChoice.Proofs.Parser.Descent
import OrderedChoice.Proofs.Parser.Reaching
import OrderedChoice.Proofs.Parser.Extension
import OrderedChoice.Proofs.Declaration.Sessions
import OrderedChoice.Proofs.Declaration.SingleAssignment
import OrderedChoice.Proofs.Parser.Comparison
import OrderedChoice.Proofs.Regex.Translation
import OrderedChoice.Proofs.Parser.Translation
import OrderedChoice.Proofs.Parser.Rewording
import OrderedChoice.Proofs.Parser.Progress
import OrderedChoice.Proofs.Parser.Termination
import OrderedChoice.Proofs.Diagnostics.Grounding
import OrderedChoice.Proofs.Parser.Endings
import OrderedChoice.Proofs.Parser.Unrolling
import OrderedChoice.Proofs.Parser.Repetition
import OrderedChoice.Proofs.Parser.Separation
import OrderedChoice.Proofs.Parser.Recursion
import OrderedChoice.Proofs.Parser.Terminators
import OrderedChoice.Proofs.Parser.Lookahead
import OrderedChoice.Proofs.Parser.Literals
import OrderedChoice.Proofs.Parser.LiteralChoice
import OrderedChoice.Proofs.Json.Decoding
import OrderedChoice.Proofs.Text.Positions
import OrderedChoice.Proofs.Parser.Marking
import OrderedChoice.Proofs.Text.Escaping
import OrderedChoice.Proofs.Diagnostics.Messages
import OrderedChoice.Proofs.Parser.Verbatim
import OrderedChoice.Proofs.Parser.Groups
