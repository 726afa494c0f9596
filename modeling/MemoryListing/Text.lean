/-!
# Texts

A dump, a symbol list, a listing and every message are texts, and a text is
the list of its characters. The list view is the one that all rules of this
library speak of: where lines end, which characters separate words, what a
name looks like in lower case. Bytes enter at two places only. A file holds
bytes, which `Text.ofBytes?` turns into a text if they are valid UTF-8, and
a bounded output counts the bytes of `Text.bytes`.

A property of characters, such as being blank, is a table of ranges of code
points. The tables stand where the property is used; `CodeRange.covers` says
how one is consulted.
-/

namespace MemoryListing

/-- **A text is the list of its characters.** -/
abbrev Text := List Char

namespace Text

/-- The bytes that write a text in UTF-8. -/
def bytes (t : Text) : List UInt8 :=
  t.flatMap String.utf8EncodeChar

/-- The text that the bytes write in UTF-8, if they are valid UTF-8. -/
def ofBytes? (bs : List UInt8) : Option Text :=
  (ByteArray.mk bs.toArray).utf8Decode?.map Array.toList

@[simp] theorem bytes_append (s t : Text) : bytes (s ++ t) = bytes s ++ bytes t :=
  List.flatMap_append

/-- A character has bytes, so only the empty text has none. -/
@[simp] theorem bytes_eq_nil_iff {t : Text} : t.bytes = [] ↔ t = [] := by
  cases t with
  | nil => exact ⟨fun _ => rfl, fun _ => rfl⟩
  | cons c t =>
    refine ⟨fun h => ?_, nofun⟩
    have hc : String.utf8EncodeChar c = [] := (List.append_eq_nil_iff.1 h).1
    have hlength := String.length_utf8EncodeChar c
    rw [hc] at hlength
    exact absurd hlength (Nat.ne_of_lt c.utf8Size_pos)

/-- A character of the ASCII range is one byte. -/
theorem utf8EncodeChar_of_lt {c : Char} (h : c.toNat < 0x80) :
    String.utf8EncodeChar c = [UInt8.ofNat c.toNat] :=
  if_pos (Nat.le_of_lt_succ h)

/-- **Reading undoes writing**: the bytes of a text write that text. -/
@[simp] theorem ofBytes?_bytes (t : Text) : ofBytes? (bytes t) = some t := by
  have h : ByteArray.mk (bytes t).toArray = List.utf8Encode t := by
    apply ByteArray.ext
    simp [bytes, List.utf8Encode]
  rw [ofBytes?, h, List.utf8Decode?_utf8Encode]
  rfl

/-- The decimal digits of a number. -/
def decimal (n : Nat) : Text :=
  Nat.toDigits 10 n

end Text

/-! ## Tables of characters -/

/-- The code points from `first` to `last`, both included. -/
structure CodeRange where
  /-- The least code point of the range. -/
  first : Nat
  /-- The greatest code point of the range. -/
  last : Nat

namespace CodeRange

/-- Whether a character lies in the range. -/
def contains (r : CodeRange) (c : Char) : Bool :=
  decide (r.first ≤ c.toNat) && decide (c.toNat ≤ r.last)

/-- **A character has a tabulated property** if one of the ranges holds it. -/
def covers (table : List CodeRange) (c : Char) : Bool :=
  table.any (·.contains c)

end CodeRange

end MemoryListing
