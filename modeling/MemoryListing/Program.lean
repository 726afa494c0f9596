import MemoryListing.CommandLine.Reader
import MemoryListing.Conversion

/-!
# The whole program

The program reads its command line and converts the two files that it names, one
after the other: it fetches the dump and prints the block of its image, and only
then does it fetch the symbol list. It answers with an exit code, the printed
text, the notices and, when something went wrong, one closing line for the error
stream. Notices go to the error stream too, ahead of the closing line and only
those that the chosen level lets through; nothing else depends on that level.

`Program.run` says when each of this happens, in any monad that can fetch files
and print; `Program.answer` is what comes out of it on files that are known.
-/

namespace MemoryListing

/-- **The answer of the program.** -/
structure Answer where
  /-- Zero for success, one for a failed conversion, two for a command line that
  cannot be understood. -/
  exitCode : UInt8
  /-- What goes to the output stream. -/
  printed : Text
  /-- What was noticed. -/
  notices : List Notice
  /-- The line that says what went wrong, if something did. Of a failed conversion it
  is the last line of the error stream. Of a command line that cannot be understood
  it is the first line of a message whose other lines, hints and the usage, are left
  out. -/
  closing : Option Text
  deriving DecidableEq

namespace Answer

/-- An answer that only prints a text. -/
def ofText (t : Text) : Answer :=
  ⟨0, t, [], none⟩

@[simp] theorem printed_ofText (t : Text) : (ofText t).printed = t := rfl

@[simp] theorem notices_ofText (t : Text) : (ofText t).notices = [] := rfl

/-- The answer to a command line that cannot be understood. -/
def ofUsageError (e : CommandLine.UsageError) : Answer :=
  ⟨2, [], [], some e.line⟩

/-- The answer that reports a conversion. -/
def ofOutcome (o : Outcome) : Answer :=
  match o.failure with
  | none => ⟨0, o.printed, o.notices, none⟩
  | some f => ⟨1, o.printed, o.notices, some ("ERROR: ".toList ++ f.message)⟩

@[simp] theorem printed_ofOutcome (o : Outcome) : (ofOutcome o).printed = o.printed := by
  unfold ofOutcome
  cases o.failure <;> rfl

@[simp] theorem notices_ofOutcome (o : Outcome) : (ofOutcome o).notices = o.notices := by
  unfold ofOutcome
  cases o.failure <;> rfl

@[simp] theorem exitCode_ofOutcome (o : Outcome) :
    (ofOutcome o).exitCode = if o.failure.isSome then 1 else 0 := by
  unfold ofOutcome
  cases o.failure <;> rfl

@[simp] theorem closing_ofOutcome (o : Outcome) :
    (ofOutcome o).closing = o.failure.map ("ERROR: ".toList ++ ·.message) := by
  unfold ofOutcome
  cases o.failure <;> rfl

/-- The lines of the error stream at a threshold. -/
def errorLines (a : Answer) (threshold : Option Level) : List Text :=
  (a.notices.filter (·.isSeen threshold)).map Notice.line ++ a.closing.toList

end Answer

namespace Program

/-- The text that tells the version. -/
def versionText : Text :=
  "convert_dump 0.1.0\n".toList

/-- The text that explains the options. -/
def helpText : Text :=
  ("Convert a hex memory dump and a symbol table into source literals\n\n"
    ++ "Usage: convert_dump [OPTIONS]\n\n"
    ++ "Options:\n"
    ++ "      --code <CODE>        Memory dump, one `<addr> <byte>...` row "
    ++ "per line [default: code.txt]\n"
    ++ "      --symbols <SYMBOLS>  Symbol table, one `<name> <addr>` pair "
    ++ "per line [default: symbols.txt]\n"
    ++ "      --base <BASE>        Expected address of the first memory row, "
    ++ "in hex [default: 0x200]\n"
    ++ "      --lenient            Report a non-contiguous row and drop the rest "
    ++ "of the dump instead of failing\n"
    ++ "      --wrap               Wrap each block in a declaration\n"
    ++ "  -h, --help               Print help\n"
    ++ "  -V, --version            Print version\n").toList

section

variable {m : Type → Type} [Monad m] (fetch : Text → m (Except FileError Text))
  (emit : List Notice → Text → m Unit)

/-- Reports the notices and the printed text of a stage. -/
def runStage (stage : Outcome) : m Outcome := do
  emit stage.notices stage.printed
  return stage

/-- **Runs a conversion.** The symbol list is fetched when the block of the image has
been printed, and not at all if there is none. -/
def runConversion (o : CommandLine.Options) : m Outcome := do
  let first ← runStage emit (Conversion.imageBlock o (← fetch o.dumpPath))
  match first.failure with
  | some _ => return first
  | none =>
    let second ← runStage emit (Conversion.symbolBlock o (← fetch o.symbolsPath))
    return first.andThen second

/-- Prints a text that is known beforehand. -/
def runText (t : Text) : m Answer := do
  emit [] t
  return .ofText t

/-- **Runs the program** on its arguments. Files are fetched with `fetch`, which may
fail, and notices and printed texts are handed to `emit`; both may have effects. -/
def run (arguments : List Text) : m Answer :=
  match CommandLine.read arguments with
  | .error e => return .ofUsageError e
  | .ok .version => runText emit versionText
  | .ok .help => runText emit helpText
  | .ok (.convert o) => return .ofOutcome (← runConversion fetch emit o)

end

/-- The answer of the program on files that are known. -/
def answer (files : Text → Except FileError Text) (arguments : List Text) : Answer :=
  Id.run (run (fun path => pure (files path)) (fun _ _ => pure ()) arguments)

/-- **What the program answers when it is asked for a conversion** is the outcome
of the conversion of the two files that its options name. -/
theorem answer_of_convert (files : Text → Except FileError Text)
    {arguments : List Text} {o : CommandLine.Options}
    (h : CommandLine.read arguments = .ok (.convert o)) :
    answer files arguments
      = .ofOutcome (Conversion.run o (files o.dumpPath) (files o.symbolsPath)) := by
  have hconversion :
      runConversion (fun path => (pure (files path) : Id _)) (fun _ _ => pure ()) o
        = pure (Conversion.run o (files o.dumpPath) (files o.symbolsPath)) := by
    unfold runConversion Conversion.run
    cases hf : (Conversion.imageBlock o (files o.dumpPath)).failure with
    | none => simp [runStage, hf]
    | some f => simp [runStage, hf, Outcome.andThen]
  simp [answer, run, h, hconversion]

end Program

end MemoryListing
