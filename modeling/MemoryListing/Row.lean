import MemoryListing.Hex
import MemoryListing.Text.Line

/-!
# Rows of a memory dump

One line of a dump is a row: an address and the bytes that stand there. The
first word of the line is the address and each further word is one byte, as
many as there are. A line without words is no row.

Every row of a dump should start sixteen bytes after the row before it. The
first row that does not is a gap, and the policy says what becomes of the dump
then.
-/

namespace MemoryListing

/-! ## Rows -/

/-- **A row of a dump**: some bytes and the address stated for the first one. -/
structure Row where
  /-- The stated address. -/
  address : UInt16
  /-- The bytes, in the order of the line. -/
  bytes : List UInt8
  deriving DecidableEq

/-- How many bytes a row is expected to hold. -/
def rowSize : Nat := 16

/-- Which word of a row a complaint is about. -/
inductive RowField where
  /-- The address. -/
  | address
  /-- The data byte with this offset in the row. -/
  | byte (offset : Nat)
  deriving DecidableEq

/-- The wording of a field. -/
def RowField.name : RowField → Text
  | .address => "address".toList
  | .byte offset => "data byte ".toList ++ Text.decimal offset

/-- Why a line is no row. -/
inductive RowError where
  /-- The line has no words. -/
  | noAddress
  /-- The word of this field is no number of the field's size. -/
  | badWord (field : RowField) (word : Text) (cause : Hex.NumberError)
  deriving DecidableEq

/-- The wording of a complaint about a row. -/
def RowError.message : RowError → Text
  | .noAddress => "address missing".toList
  | .badWord field word cause =>
    "invalid ".toList ++ field.name ++ " '".toList ++ word ++ "': ".toList
      ++ cause.message

namespace Row

/-- The bytes that the words of a row write, the first of them at an offset. -/
def bytesOfWords (offset : Nat) : List Text → Except RowError (List UInt8)
  | [] => .ok []
  | w :: ws =>
    match Hex.readByte w with
    | .error e => .error (.badWord (.byte offset) w e)
    | .ok b => (bytesOfWords (offset + 1) ws).map (b :: ·)

/-- The row that the words of a line write. -/
def ofWords : List Text → Except RowError Row
  | [] => .error .noAddress
  | w :: ws =>
    match Hex.readAddress w with
    | .error e => .error (.badWord .address w e)
    | .ok a => (bytesOfWords 0 ws).map fun bs => ⟨a, bs⟩

/-- **Reads a row** from a line; the leftmost word that is wrong decides. -/
def ofLine (line : Text) : Except RowError Row :=
  ofWords line.words

end Row

/-! ## Gaps between rows -/

/-- **A gap**: a row that is not stated where it was expected. -/
structure Gap where
  /-- The number of rows before the row. -/
  row : Nat
  /-- The address that the row states. -/
  stated : UInt16
  /-- The address that it should have. It may lie above every address that a
  row can state. -/
  expected : UInt32
  deriving DecidableEq

/-- The wording of a gap. -/
def Gap.message (g : Gap) : Text :=
  "row ".toList ++ Text.decimal g.row ++ " stated at ".toList
    ++ Hex.digits 4 g.stated.toNat ++ ", expected ".toList
    ++ Hex.digits 4 g.expected.toNat

/-- What a gap means for the dump. -/
inductive GapPolicy where
  /-- The dump cannot be used. -/
  | strict
  /-- The rows before the gap are used. -/
  | lenient
  deriving DecidableEq

/-- The name of a policy. -/
def GapPolicy.name : GapPolicy → Text
  | .strict => "Strict".toList
  | .lenient => "Lenient".toList

end MemoryListing
