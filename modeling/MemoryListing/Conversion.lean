import MemoryListing.CommandLine.Options
import MemoryListing.Input
import MemoryListing.Image
import MemoryListing.Listing

/-!
# Converting a dump and a symbol list

A conversion has two stages. The first prints the block of the image, the second
the block of the symbol table, and a failure of the first leaves the second out:
a symbol list that cannot be used costs the symbol table and nothing else, and a
dump that cannot be used leaves nothing printed at all.
-/

namespace MemoryListing

/-- **Why a conversion failed.** -/
inductive Failure where
  /-- The dump or the symbol list at a path was refused. -/
  | input (path : Text) (cause : InputError)
  /-- The dump at a path has a gap. -/
  | gap (path : Text) (gap : Gap)
  deriving DecidableEq

/-- The wording of a failure. -/
def Failure.message : Failure → Text
  | .input path cause =>
    "failed to parse ".toList ++ path.quoted ++ ": ".toList ++ cause.message
  | .gap path g =>
    "failed to convert ".toList ++ path.quoted ++ ": ".toList ++ g.refusal

/-- **What a stage of a conversion leaves behind**, or all of it: what was printed,
what was noticed, and the failure if there was one. -/
structure Outcome where
  /-- The printed text. -/
  printed : Text
  /-- The notices, in order. -/
  notices : List Notice
  /-- What went wrong, if anything did. -/
  failure : Option Failure
  deriving DecidableEq

namespace Outcome

/-- An outcome after something was already printed and noticed. -/
def after (o : Outcome) (printed : Text) (notices : List Notice) : Outcome :=
  ⟨printed ++ o.printed, notices ++ o.notices, o.failure⟩

/-- Nothing printed, because of a failure. -/
def failed (notices : List Notice) (f : Failure) : Outcome :=
  ⟨[], notices, some f⟩

/-- **The outcome of a stage and of the one behind it**, which a failure of the
first leaves out. -/
def andThen (first second : Outcome) : Outcome :=
  match first.failure with
  | some _ => first
  | none => second.after first.printed first.notices

end Outcome

namespace Conversion

open CommandLine (Options)

/-- Prints the block of the image. -/
def imageBlock (o : Options) (dump : Except FileError Text) : Outcome :=
  let reading := Dump.readSource dump
  match reading.result with
  | .error e => .failed reading.notices (.input o.dumpPath e)
  | .ok rows =>
    let building := Image.ofRows o.base o.policy rows
    match building.result with
    | .error gap =>
      .failed (reading.notices ++ building.notices) (.gap o.dumpPath gap)
    | .ok image =>
      ⟨image.listing o.layout,
        reading.notices ++ building.notices
          ++ [.imageFrom image.bytes.length o.dumpPath o.policy],
        none⟩

/-- Prints the block of the symbol table. -/
def symbolBlock (o : Options) (symbols : Except FileError Text) : Outcome :=
  let reading := SymbolTable.readSource symbols
  match reading.result with
  | .error e => .failed reading.notices (.input o.symbolsPath e)
  | .ok list =>
    let table := SymbolTable.sort list
    let block := SymbolTable.print o.layout table
    ⟨block.result,
      reading.notices ++ .symbolsFrom table.length o.symbolsPath :: block.notices,
      none⟩

/-- **Converts a dump and a symbol list**, each of them a source that may have no
text to give. -/
def run (o : Options) (dump symbols : Except FileError Text) : Outcome :=
  (imageBlock o dump).andThen (symbolBlock o symbols)

end Conversion

end MemoryListing
