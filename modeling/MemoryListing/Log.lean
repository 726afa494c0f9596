import MemoryListing.Row
import MemoryListing.Text.Quoted

/-!
# Notices

Beside its result, an operation reports what it noticed on the way. A notice
says what happened and not how it is worded; level and wording are functions of
it. Which notices a reader sees depends on the chosen level, and nothing else
does: notices are carried beside the results and never looked at by the
operations.
-/

namespace MemoryListing

/-- How urgent a notice is, the most urgent level first. -/
inductive Level where
  | error
  | warn
  | info
  | debug
  deriving DecidableEq

namespace Level

/-- The position of a level, counted from the most urgent one. -/
def rank : Level → Nat
  | .error => 0
  | .warn => 1
  | .info => 2
  | .debug => 3

/-- The name of a level. -/
def name : Level → Text
  | .error => "ERROR".toList
  | .warn => "WARN".toList
  | .info => "INFO".toList
  | .debug => "DEBUG".toList

/-- The level that a user asks for by a name, in upper or lower case. The level
`trace` below `debug` lets the same notices through, since nothing is noticed at it,
and `off` none.

Whatever else the filter of a log can say is left out here and lets nothing through:
levels of single modules, several of them, a pattern, or nothing at all. -/
def ofName? (name : Text) : Option Level :=
  let lower := name.map Char.toLower
  if lower = "error".toList then some .error
  else if lower = "warn".toList then some .warn
  else if lower = "info".toList then some .info
  else if lower = "debug".toList ∨ lower = "trace".toList then some .debug
  else none

end Level

/-- **A notice**: something worth reporting that is no error. -/
inductive Notice where
  /-- The row on this line does not hold as many bytes as expected. -/
  | oddRow (line : Nat) (address : UInt16) (size : Nat)
  /-- A dump of this many rows was read. -/
  | rowsRead (count : Nat)
  /-- A symbol list of this many symbols was read. -/
  | symbolsRead (count : Nat)
  /-- The image ends after this many bytes because of a gap. -/
  | imageCut (gap : Gap) (size : Nat)
  /-- An image of this many bytes was built. -/
  | imageBuilt (size : Nat)
  /-- A declared table has several symbols at this address. -/
  | sharedAddress (address : UInt16)
  /-- The dump in this file gave an image of this many bytes. -/
  | imageFrom (size : Nat) (path : Text) (policy : GapPolicy)
  /-- The symbol list in this file gave this many symbols. -/
  | symbolsFrom (count : Nat) (path : Text)
  deriving DecidableEq

namespace Notice

/-- The level of a notice. -/
def level : Notice → Level
  | .oddRow .. | .imageCut .. | .sharedAddress _ => .warn
  | .rowsRead _ | .symbolsRead _ | .imageBuilt _ => .debug
  | .imageFrom .. | .symbolsFrom .. => .info

/-- The wording of a notice. -/
def message : Notice → Text
  | .oddRow line address size =>
    "line ".toList ++ Text.decimal line ++ ": row at ".toList
      ++ Hex.digits 4 address.toNat ++ " has ".toList ++ Text.decimal size
      ++ " bytes, expected ".toList ++ Text.decimal rowSize
  | .rowsRead count => "parsed ".toList ++ Text.decimal count ++ " memory rows".toList
  | .symbolsRead count => "parsed ".toList ++ Text.decimal count ++ " symbols".toList
  | .imageCut gap size =>
    gap.message ++ ", truncating image at ".toList ++ Text.decimal size
      ++ " bytes".toList
  | .imageBuilt size =>
    "built memory image of ".toList ++ Text.decimal size ++ " bytes".toList
  | .sharedAddress address =>
    "several symbols at ".toList ++ Hex.prefixed 4 address.toNat
      ++ ", wrapped table has duplicate keys".toList
  | .imageFrom size path policy =>
    Text.decimal size ++ " bytes from ".toList ++ path.quoted ++ " (".toList
      ++ policy.name ++ ")".toList
  | .symbolsFrom count path =>
    Text.decimal count ++ " symbols from ".toList ++ path.quoted

/-- The line that reports a notice. -/
def line (n : Notice) : Text :=
  n.level.name ++ " ".toList ++ n.message

/-- Whether a notice is seen at a threshold. Without one, no notice is. -/
def isSeen (threshold : Option Level) (n : Notice) : Bool :=
  match threshold with
  | none => false
  | some l => decide (n.level.rank ≤ l.rank)

end Notice

/-- **A result with the notices that led to it**, in the order in which they
came up. -/
structure Logged (α : Type) where
  /-- The notices. -/
  notices : List Notice
  /-- The result. -/
  result : α

end MemoryListing
