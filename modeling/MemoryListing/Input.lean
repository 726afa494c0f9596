import MemoryListing.Files
import MemoryListing.Log
import MemoryListing.Row
import MemoryListing.Symbol
import MemoryListing.Text.Line

/-!
# Dumps and symbol lists

Dumps and symbol lists are read alike: every line is one item, lines are
numbered from one, and the first line that is no item decides the outcome.
What was noticed about the lines before it stays noticed.

A dump is a text of rows. A row of another size than expected is accepted and
noticed. A symbol list is a text of symbols, about which nothing is noticed. The
number of rows or symbols is noticed once the whole text was read.
-/

namespace MemoryListing

/-! ## Reading line by line -/

/-- **Why an input was refused.** -/
inductive InputError where
  /-- There is no text to read. -/
  | unreadable (cause : FileError)
  /-- The line with this number is no row. -/
  | row (line : Nat) (cause : RowError)
  /-- The line with this number is no symbol. -/
  | symbol (line : Nat) (cause : SymbolError)
  deriving DecidableEq

/-- The wording of a complaint about an input. -/
def InputError.message : InputError → Text
  | .unreadable cause => "error reading the file: ".toList ++ cause.message
  | .row line cause =>
    "failed to parse memory row on line ".toList ++ Text.decimal line
      ++ ": ".toList ++ cause.message
  | .symbol line cause =>
    "failed to parse symbol on line ".toList ++ Text.decimal line
      ++ ": ".toList ++ cause.message

namespace Input

variable {α ε : Type}

/-- **Reads an item from every line**, the first line having a given number.
The first line that holds no item ends the reading, and its number is kept with
the reason. -/
def readLines (ofLine : Text → Except ε α) (noticed : Nat → α → List Notice)
    (number : Nat) : List Text → Logged (Except (Nat × ε) (List α))
  | [] => ⟨[], .ok []⟩
  | line :: rest =>
    match ofLine line with
    | .error e => ⟨[], .error (number, e)⟩
    | .ok a =>
      let others := readLines ofLine noticed (number + 1) rest
      ⟨noticed number a ++ others.notices, others.result.map (a :: ·)⟩

/-- Reads a source that may have no text to give. -/
def ofSource (read : Text → Logged (Except InputError α)) :
    Except FileError Text → Logged (Except InputError α)
  | .error e => ⟨[], .error (.unreadable e)⟩
  | .ok t => read t

end Input

/-! ## Dumps -/

namespace Dump

/-- What is noticed about the row on a line: a size other than the expected
one. -/
def sizeNotices (line : Nat) (row : Row) : List Notice :=
  if row.bytes.length = rowSize then []
  else [.oddRow line row.address row.bytes.length]

/-- **Reads the rows of a dump.** -/
def read (t : Text) : Logged (Except InputError (List Row)) :=
  let reading := Input.readLines Row.ofLine sizeNotices 1 t.lines
  match reading.result with
  | .error (line, e) => ⟨reading.notices, .error (.row line e)⟩
  | .ok rows => ⟨reading.notices ++ [.rowsRead rows.length], .ok rows⟩

/-- Reads the rows of a dump from a source. -/
def readSource (source : Except FileError Text) :
    Logged (Except InputError (List Row)) :=
  Input.ofSource read source

end Dump

/-! ## Symbol lists -/

namespace SymbolTable

/-- **Reads the symbols of a symbol list**, in the order of the lines. -/
def read (t : Text) : Logged (Except InputError (List Symbol)) :=
  let reading := Input.readLines Symbol.ofLine (fun _ _ => []) 1 t.lines
  match reading.result with
  | .error (line, e) => ⟨reading.notices, .error (.symbol line e)⟩
  | .ok symbols => ⟨reading.notices ++ [.symbolsRead symbols.length], .ok symbols⟩

/-- Reads the symbols of a symbol list from a source. -/
def readSource (source : Except FileError Text) :
    Logged (Except InputError (List Symbol)) :=
  Input.ofSource read source

end SymbolTable

end MemoryListing
