import OrderedChoice.CommandLine.Response
import Std.Time.Format

/-!
# The program

Reads the arguments, the log filter and the input, and prints the response.
-/

namespace OrderedChoice

/-- Read all bytes of a stream. -/
partial def readAll (stream : IO.FS.Stream) (bytes : ByteArray) :
    IO ByteArray := do
  let chunk ← stream.read 65536
  if chunk.isEmpty then return bytes
  readAll stream (bytes ++ chunk)

/-- Read the input that is named, or standard input. -/
def readInput (name : Option String) : IO (Except ReadError ByteArray) :=
  try
    match name with
    | none => return .ok (← readAll (← IO.getStdin) .empty)
    | some name => return .ok (← IO.FS.readBinFile name)
  catch error =>
    match error with
    | .noFileOrDirectory .. => return .error .missing
    | error => return .error (.other (toString error))

/-- The time of a log line. -/
def stamp : IO String := do
  let now ← Std.Time.Timestamp.now
  let date := Std.Time.DateTime.ofTimestamp now Std.Time.TimeZone.ZoneRules.UTC
  return date.format "uuuu-MM-dd'T'HH:mm:ss'Z' "

end OrderedChoice

open OrderedChoice in
/-- Run the program on its arguments. -/
def main (arguments : List String) : IO UInt32 := do
  let filter ← IO.getEnv "RUST_LOG"
  let invocation := Invocation.ofArguments arguments
  let input ←
    match invocation with
    | .parse options => readInput options.input
    | _ => pure (.ok .empty)
  let response := Response.ofInvocation filter invocation input
  IO.eprint (response.errors (← stamp))
  IO.print response.output
  return UInt32.ofNat response.code
