import MemoryListing.Hex
import MemoryListing.Text.Line
import MemoryListing.Text.Lowercase

/-!
# Symbols

One line of a symbol list names an address: it consists of a name and an
address, and of nothing else. Names are kept in lower case. A line with another
number of words is refused for that reason alone, whatever the words are.

A table has its symbols in the order of their addresses. Several symbols may
share an address: sorting leaves them in the order of the list, and
`SymbolTable.sharedAddresses` tells which addresses they are.
-/

namespace MemoryListing

/-- **A symbol**: a name for an address. -/
structure Symbol where
  /-- The name, in lower case when it was read from a symbol list. -/
  name : Text
  /-- The address that the name stands for. -/
  address : UInt16
  deriving DecidableEq

/-- Why a line is no symbol. -/
inductive SymbolError where
  /-- The line has this number of words instead of two. -/
  | wordCount (found : Nat)
  /-- The second word is no address. -/
  | badAddress (word : Text) (cause : Hex.NumberError)
  deriving DecidableEq

/-- The wording of a complaint about a symbol. -/
def SymbolError.message : SymbolError → Text
  | .wordCount found =>
    "expected a name and an address, found ".toList ++ Text.decimal found
      ++ " tokens".toList
  | .badAddress word cause =>
    "invalid address '".toList ++ word ++ "': ".toList ++ cause.message

namespace Symbol

/-- The symbol that the words of a line write. -/
def ofWords : List Text → Except SymbolError Symbol
  | [name, word] =>
    match Hex.readAddress word with
    | .error e => .error (.badAddress word e)
    | .ok a => .ok ⟨name.lowercase, a⟩
  | ws => .error (.wordCount ws.length)

/-- **Reads a symbol** from a line. -/
def ofLine (line : Text) : Except SymbolError Symbol :=
  ofWords line.words

end Symbol

/-! ## Tables -/

namespace SymbolTable

/-- **The symbols in the order of their addresses.** Symbols at the same
address keep their order. -/
def sort (symbols : List Symbol) : List Symbol :=
  symbols.mergeSort fun a b => decide (a.address ≤ b.address)

/-- Counts one more symbol at its address. The counts stand in the order of the
addresses. -/
def countOne (counts : List (UInt16 × Nat)) (s : Symbol) : List (UInt16 × Nat) :=
  match counts with
  | [] => [(s.address, 1)]
  | (a, n) :: rest =>
    if s.address < a then (s.address, 1) :: (a, n) :: rest
    else if s.address = a then (a, n + 1) :: rest
    else (a, n) :: countOne rest s

/-- The addresses that were counted more than once, in ascending order. -/
def repeated (counts : List (UInt16 × Nat)) : List UInt16 :=
  (counts.filter fun p => 1 < p.2).map (·.1)

/-- **The addresses that several symbols share**, each once and in ascending
order. One pass counts for each address how often it occurs. -/
def sharedAddresses (symbols : List Symbol) : List UInt16 :=
  repeated (symbols.foldl countOne [])

end SymbolTable

end MemoryListing
