import MemoryListing.Listing

/-!
# Blocks written to an output

An output takes as many bytes as it has room for. Writing a text that does not
fit leaves the part that fits and reports a failure; the output can be written
to again, but it has no room then for anything but an empty text.

The blocks of a listing go to an output one after the other. A block that does
not fit is cut off where the output ends, which may be in the middle of a
character, and the blocks behind it are still attempted. What is noticed when a
block is printed does not depend on the room that the output has.
-/

namespace MemoryListing

/-! ## Outputs of bounded capacity -/

/-- **An output**: the bytes it holds, which never exceed its capacity. -/
structure Output where
  /-- How many bytes the output can hold. -/
  capacity : Nat
  /-- The bytes that it holds. -/
  bytes : List UInt8
  /-- The output is not overfull. -/
  length_le : bytes.length ≤ capacity

/-- Why a text was not written in full. -/
inductive WriteError where
  /-- The output has no room for all of it. -/
  | full
  deriving DecidableEq

/-- The wording of a failure to write. -/
def WriteError.message : WriteError → Text
  | .full => "failed to write whole buffer".toList

namespace Output

/-- An output that holds nothing yet. -/
def empty (capacity : Nat) : Output :=
  ⟨capacity, [], Nat.zero_le capacity⟩

/-- How many bytes there is still room for. -/
def room (o : Output) : Nat :=
  o.capacity - o.bytes.length

/-- The output after as many bytes were added as there is room for. -/
def fill (o : Output) (bs : List UInt8) : Output where
  capacity := o.capacity
  bytes := o.bytes ++ bs.take o.room
  length_le := by
    have h := o.length_le
    simp only [List.length_append, List.length_take, room]
    omega

/-- **Writes a text to an output** as far as there is room for it. -/
def write (o : Output) (t : Text) : Output × Except WriteError Unit :=
  (o.fill t.bytes, if t.bytes.length ≤ o.room then .ok () else .error .full)

/-- **An output holds what was written to it, up to its capacity.** -/
theorem bytes_write (o : Output) (t : Text) :
    (o.write t).1.bytes = (o.bytes ++ t.bytes).take o.capacity := by
  have h := o.length_le
  simp only [write, fill, room, List.take_append, List.take_of_length_le h]

end Output

/-! ## Blocks -/

/-- **A block**: an image or a symbol table in a layout. -/
inductive Block where
  /-- An image. -/
  | image (layout : Layout) (image : Image)
  /-- A symbol table. -/
  | symbols (layout : Layout) (symbols : List Symbol)

/-- The text of a block, with what is noticed when it is printed. -/
def Block.print : Block → Logged Text
  | .image layout i => ⟨[], i.listing layout⟩
  | .symbols layout s => SymbolTable.print layout s

namespace Output

/-- Writes a block to an output as far as there is room for it. -/
def writeBlock (o : Output) (b : Block) :
    Logged (Output × Except WriteError Unit) :=
  let block := b.print
  ⟨block.notices, o.write block.result⟩

/-- **Writes blocks to an output**, one after the other. The results are those
of the single blocks, each with the output as the block left it. -/
def writeBlocks (o : Output) : List Block →
    List (Logged (Output × Except WriteError Unit))
  | [] => []
  | b :: rest =>
    let written := o.writeBlock b
    written :: writeBlocks written.result.1 rest

end Output

end MemoryListing
