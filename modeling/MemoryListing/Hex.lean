import MemoryListing.Text

/-!
# Hexadecimal numbers

Numbers are printed in lower-case hexadecimal digits. Where columns should line
up, zeros fill a number from the left up to a width. The width is a minimum: a
number that needs more digits gets them, so nothing is ever cut off.

A written number is a run of hexadecimal digits of either case. A plus sign may
stand in front, then the sign of the base, `0x` or `0X`. A single underscore may
stand between two digits, and one may stand between the sign of the base and
the first digit. The value must fit in 32 bits; leading zeros are free.

All characters of a written number belong to the ASCII range, so reading works
on the bytes of the text, and the complaint about a character that does not
belong names its first byte. The reader goes from left to right and stops at
the first byte that no written number could have there. The complaint shows the
byte as a character if it is a printable one of the ASCII range, under its short
name if it is a tab, a return or a line feed, and by its value otherwise. Quotes
and the backslash are escaped, so that no two bytes look the same.

Addresses have 16 bits and data bytes have 8. A written number beyond the limit
of its place is refused with the value it has.
-/

namespace MemoryListing

/-! ## Printing -/

namespace Hex

/-- The hexadecimal digits of a number, zeros filling it up to a width. -/
def digits (width n : Nat) : Text :=
  List.leftpad width '0' (Nat.toDigits 16 n)

/-- A number with the sign of its base in front, as in `0x1f`. -/
def prefixed (width n : Nat) : Text :=
  "0x".toList ++ digits width n

end Hex

/-- **A byte as a message shows it.** -/
def Text.shownByte (b : UInt8) : Text :=
  if b = 0x09 then "\\t".toList
  else if b = 0x0d then "\\r".toList
  else if b = 0x0a then "\\n".toList
  else if b = 0x27 then "\\'".toList
  else if b = 0x22 then "\\\"".toList
  else if b = 0x5c then "\\\\".toList
  else if 0x20 ≤ b ∧ b < 0x7f then [Char.ofNat b.toNat]
  else "\\x".toList ++ Hex.digits 2 b.toNat

/-! ## Reading -/

namespace Hex

/-- Why a text is no written number. -/
inductive Error where
  /-- There is no digit at all. -/
  | noDigits
  /-- This byte is neither a digit nor an underscore. -/
  | badDigit (byte : UInt8)
  /-- An underscore does not stand between digits. -/
  | strayUnderscore
  /-- The value does not fit in 32 bits. -/
  | tooLarge
  deriving DecidableEq

/-- The wording of a complaint about a written number. -/
def Error.message : Error → Text
  | .noDigits => "no hex digits".toList
  | .badDigit b => "invalid hex digit '".toList ++ Text.shownByte b ++ "'".toList
  | .strayUnderscore => "'_' must sit between digits".toList
  | .tooLarge => "value too large".toList

/-- The value of a digit of either case. -/
def digit? (b : UInt8) : Option Nat :=
  if 0x30 ≤ b ∧ b ≤ 0x39 then some (b.toNat - 0x30)
  else if 0x61 ≤ b ∧ b ≤ 0x66 then some (b.toNat - 0x61 + 10)
  else if 0x41 ≤ b ∧ b ≤ 0x46 then some (b.toNat - 0x41 + 10)
  else none

/-- A value with one more digit behind it, if that still fits in 32 bits. -/
def push? (value : UInt32) (digit : Nat) : Option UInt32 :=
  if h : 16 * value.toNat + digit < UInt32.size then
    some (UInt32.ofNatLT (16 * value.toNat + digit) h)
  else none

/-- Reads the digits that are left. The value is that of the digits read so
far, if there are any, and `separable` says whether an underscore may come
next: right after a digit, and at the start after the sign of the base. -/
def readDigits (value : Option UInt32) (separable : Bool) :
    List UInt8 → Except Error UInt32
  | [] =>
    match value with
    | none => .error .noDigits
    | some v => if separable then .ok v else .error .strayUnderscore
  | b :: rest =>
    if b = 0x5f then
      if separable then readDigits value false rest else .error .strayUnderscore
    else
      match digit? b with
      | none => .error (.badDigit b)
      | some d =>
        match push? (value.getD 0) d with
        | none => .error .tooLarge
        | some v => readDigits (some v) true rest

/-- The bytes after an optional plus sign. -/
def dropPlus : List UInt8 → List UInt8
  | [] => []
  | b :: rest => if b = 0x2b then rest else b :: rest

/-- The bytes after an optional sign of the base, and whether it was there. -/
def dropBase : List UInt8 → List UInt8 × Bool
  | b :: c :: rest =>
    if b = 0x30 ∧ (c = 0x78 ∨ c = 0x58) then (rest, true) else (b :: c :: rest, false)
  | bs => (bs, false)

/-- **Reads a written number**, or says what is wrong at the first place where
something is. -/
def read (t : Text) : Except Error UInt32 :=
  let (bs, based) := dropBase (dropPlus t.bytes)
  readDigits none based bs

/-! ## Numbers of limited size -/

/-- Why a word is no number of the size that its place asks for. -/
inductive NumberError where
  /-- The word is no written number. -/
  | notHex (cause : Error)
  /-- The number is greater than the greatest one allowed. -/
  | outOfRange (value limit : UInt32)
  deriving DecidableEq

/-- The wording of a complaint about a number in a dump or a symbol list. -/
def NumberError.message : NumberError → Text
  | .notHex e => e.message
  | .outOfRange v limit =>
    "value ".toList ++ prefixed 0 v.toNat ++ " exceeds maximum ".toList
      ++ prefixed 0 limit.toNat

/-- Reads a number that may not exceed a limit. -/
def readUpTo (limit : UInt32) (word : Text) : Except NumberError UInt32 :=
  match read word with
  | .error e => .error (.notHex e)
  | .ok v => if v ≤ limit then .ok v else .error (.outOfRange v limit)

/-- **Reads an address**, a number of 16 bits. -/
def readAddress (word : Text) : Except NumberError UInt16 :=
  (readUpTo 0xffff word).map UInt32.toUInt16

/-- **Reads a data byte**, a number of 8 bits. -/
def readByte (word : Text) : Except NumberError UInt8 :=
  (readUpTo 0xff word).map UInt32.toUInt8

end Hex

end MemoryListing
