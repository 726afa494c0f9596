import MemoryListing.Program

/-!
# The command line program

The outer layer: it fetches files from the file system, takes the level of the
notices from the environment, and sends what `Program.run` reports to the output
and error streams as it comes. All decisions are made elsewhere.
-/

namespace MemoryListing

namespace Program

/-- The failure that stands for an error of the system. A path that leads through
a file has the system code 20, which arrives with either sign, as does the code
36 of a path that is too long. -/
def fileError : IO.Error → FileError
  | .noFileOrDirectory .. => .missing
  | e@(.invalidArgument _ code _) =>
    if code = 36 ∨ code + 36 = 0 then .nameTooLong else .refused (toString e).toList
  | .inappropriateType _ code _ =>
    if code = 20 ∨ code + 20 = 0 then .notDirectory else .isDirectory
  | e => .refused (toString e).toList

/-- Reads the bytes of a file as text. -/
def fetch (path : Text) : IO (Except FileError Text) := do
  try
    let bytes ← IO.FS.readBinFile (String.ofList path)
    return (Node.file bytes.toList).read
  catch e => return .error (fileError e)

/-- Sends the notices that are seen to the error stream, and then a text to the
output stream. -/
def emit (threshold : Option Level) (notices : List Notice) (printed : Text) :
    IO Unit := do
  for n in notices do
    if n.isSeen threshold then
      IO.eprintln (String.ofList n.line)
  IO.print (String.ofList printed)
  (← IO.getStdout).flush

end Program

end MemoryListing

open MemoryListing in
/-- Runs the program, ends the error stream with the closing line and exits. -/
def main (arguments : List String) : IO UInt32 := do
  let name := (← IO.getEnv "CONVERT_DUMP_LOG").getD "warn"
  let emit := Program.emit (Level.ofName? name.toList)
  let answer ← Program.run Program.fetch emit (arguments.map String.toList)
  if let some line := answer.closing then
    IO.eprintln (String.ofList line)
  return answer.exitCode.toUInt32
