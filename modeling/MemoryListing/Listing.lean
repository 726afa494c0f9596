import MemoryListing.Image
import MemoryListing.Symbol

/-!
# Listings

An image and a symbol table are printed as blocks of source text. A block has a
body, and the wrapped layout puts an opening line before the body and a
closing line after it, so that the block can be pasted as it stands.

The body of an image shows its bytes eight to a line. An image that a gap ended
is not shown at all: its block is one line with the two addresses of the gap, in
either layout. The body of a symbol table shows one symbol to a line, in the
order given, names as they are.
-/

namespace MemoryListing

/-- How a block is printed. -/
inductive Layout where
  /-- The body alone. -/
  | body
  /-- The body inside a declaration. -/
  | wrapped
  deriving DecidableEq

/-- A body in a layout, for a declaration that opens with a given line. -/
def Layout.enclose (layout : Layout) (opening body : Text) : Text :=
  match layout with
  | .body => body
  | .wrapped => opening ++ ['\n'] ++ body ++ "\x7d\n".toList

namespace Image

/-- How many bytes a full line shows. -/
def bytesPerLine : Nat := 8

/-- A byte in a line of bytes. -/
def byteItem (b : UInt8) : Text :=
  Hex.prefixed 2 b.toNat ++ ", ".toList

/-- The items of the bytes from an index on. A new line starts before every
index that is a multiple of the bytes per line, but not before the first. -/
def items (index : Nat) : List UInt8 → Text
  | [] => []
  | b :: rest =>
    (if index % bytesPerLine = 0 ∧ index ≠ 0 then ['\n'] else [])
      ++ byteItem b ++ items (index + 1) rest

/-- **The block of an image.** -/
def listing (layout : Layout) (image : Image) : Text :=
  match image.gap with
  | some gap =>
    Hex.digits 4 gap.stated.toNat ++ " != ".toList
      ++ Hex.digits 4 gap.expected.toNat ++ ['\n']
  | none =>
    layout.enclose "code := []byte\x7b".toList (items 0 image.bytes ++ ['\n'])

end Image

namespace SymbolTable

/-- The line of a symbol. -/
def symbolLine (s : Symbol) : Text :=
  Hex.prefixed 4 s.address.toNat ++ ": \"".toList ++ s.name ++ "\",\n".toList

/-- The block of a symbol table. -/
def listing (layout : Layout) (symbols : List Symbol) : Text :=
  layout.enclose "symbols := SymbolTable\x7b".toList (symbols.flatMap symbolLine)

/-- What is noticed when a symbol table is printed. A declared table may hold an
address once only. -/
def listingNotices (layout : Layout) (symbols : List Symbol) : List Notice :=
  match layout with
  | .body => []
  | .wrapped => (sharedAddresses symbols).map .sharedAddress

/-- **Prints the block of a symbol table.** -/
def print (layout : Layout) (symbols : List Symbol) : Logged Text :=
  ⟨listingNotices layout symbols, listing layout symbols⟩

end SymbolTable

end MemoryListing
