import MemoryListing.Log
import MemoryListing.Row

/-!
# Memory images

The rows of a dump make one block of memory: their bytes, one row after the
other. That is sound only if each row starts sixteen bytes after the one before
it and the first starts at the base, and it is checked by the stated addresses
alone; how many bytes a row holds plays no part in it. The rows up to the first
gap are the same under both policies. What differs is whether the gap is an
error or ends the image.
-/

namespace MemoryListing

/-- **A memory image**: the bytes of the rows up to a gap, and the gap. -/
structure Image where
  /-- The bytes. -/
  bytes : List UInt8
  /-- The gap that ended the image, if one did. -/
  gap : Option Gap
  deriving DecidableEq

namespace Image

/-- Whether a gap ended the image. -/
def isTruncated (image : Image) : Bool :=
  image.gap.isSome

/-- The address expected after a row at an address. Addresses are counted in 32
bits here, since the row after the last one of memory is expected above every
address that a row can state; the count stops at its greatest value. -/
def nextAddress (a : UInt32) : UInt32 :=
  if a.toNat + rowSize < UInt32.size then a + UInt32.ofNat rowSize
  else UInt32.ofNat (UInt32.size - 1)

/-- The image of the rows up to the first that is not at the expected address.
The rows are numbered from `row`. -/
def upToGap (row : Nat) (expected : UInt32) : List Row → Image
  | [] => ⟨[], none⟩
  | r :: rest =>
    if r.address.toUInt32 = expected then
      let tail := upToGap (row + 1) (nextAddress expected) rest
      ⟨r.bytes ++ tail.bytes, tail.gap⟩
    else ⟨[], some ⟨row, r.address, expected⟩⟩

/-- **The image of a dump** whose first row is expected at the base. -/
def ofRows (base : UInt16) (policy : GapPolicy) (rows : List Row) :
    Logged (Except Gap Image) :=
  let image := upToGap 0 base.toUInt32 rows
  let built := Notice.imageBuilt image.bytes.length
  match image.gap, policy with
  | none, _ => ⟨[built], .ok image⟩
  | some gap, .strict => ⟨[], .error gap⟩
  | some gap, .lenient => ⟨[.imageCut gap image.bytes.length, built], .ok image⟩

end Image

/-- The wording of a gap that makes a dump unusable. -/
def Gap.refusal (g : Gap) : Text :=
  "failed to process memory rows: address not contiguous: ".toList ++ g.message

end MemoryListing
