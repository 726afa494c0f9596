import MemoryListing.Text

/-!
# Texts without control sequences

A usage message repeats what stood on the command line, and what stood there
may hold control characters or whole terminal control sequences. A message
goes out without them: of the control characters only the ones that space text
stay, and a control sequence is left out from its escape character to its end,
or to the end of the text if it is never ended.

Inside some sequences a spacing control takes effect at once. It is shown there,
and it interrupts the sequence: what follows is text again, and is shown. A
control character that is not shown takes the interrupted sequence up where it
stopped, and a character beyond ASCII gives it up for good.
-/

namespace MemoryListing

namespace Text

/-- A control sequence that has begun, by what has been read of it. -/
inductive Sequence where
  /-- Its escape character only. -/
  | escape
  /-- An escape character and intermediate characters. -/
  | intermediate
  /-- A control function up to somewhere in its parameters. -/
  | control
  /-- An operating system command, which a bell ends. -/
  | command
  /-- The opening of a device control string. -/
  | device
  /-- A device control string up to somewhere in its parameters. -/
  | deviceParameters
  /-- A device control string up to somewhere in its intermediate characters. -/
  | deviceIntermediates
  /-- A string, which runs to the string terminator. -/
  | string
  deriving DecidableEq

/-- Whether a control character spaces text: a tab, a line feed, a form feed or
a carriage return. -/
def isSpacing (c : Char) : Bool :=
  c == '\t' || c == '\n' || c == '\x0c' || c == '\r'

/-- Whether a text shows a character: any but the controls, of which it shows
those that space it. -/
def isShown (c : Char) : Bool :=
  if c.toNat < 0x20 then isSpacing c else c.toNat != 0x7f

/-- Whether the bytes of a character hold the string terminator. A terminator is
looked for in bytes, so it is found in the midst of a character, too. -/
def holdsTerminator (c : Char) : Bool :=
  (bytes [c]).contains 0x9c

namespace Sequence

/-- Whether a spacing control interrupts the sequence. -/
def isInterruptible : Sequence → Bool
  | .escape | .intermediate | .control => true
  | _ => false

/-- The sequence after its escape character and one character more, none if
that one ended it. -/
def afterEscape (c : Char) : Option Sequence :=
  if c.toNat < 0x20 ∨ 0x7f ≤ c.toNat then some .escape
  else if c.toNat < 0x30 then some .intermediate
  else if c = '[' then some .control
  else if c = ']' then some .command
  else if c = 'P' then some .device
  else if c = 'X' ∨ c = '^' ∨ c = '_' then some .string
  else none

/-- The sequence after one character more, none if that one ended it. -/
def next (s : Sequence) (c : Char) : Option Sequence :=
  match s with
  | .escape => afterEscape c
  | .intermediate =>
    if 0x30 ≤ c.toNat ∧ c.toNat < 0x7f then none else some .intermediate
  | .control => if 0x40 ≤ c.toNat ∧ c.toNat < 0x7f then none else some .control
  | .command => if c = '\x07' then none else some .command
  | .device =>
    if c.toNat < 0x20 ∨ 0x7f ≤ c.toNat then some .device
    else if c.toNat < 0x30 then some .deviceIntermediates
    else if c.toNat < 0x40 then some .deviceParameters
    else some .string
  | .deviceParameters =>
    if c.toNat < 0x20 ∨ 0x7f ≤ c.toNat then some .deviceParameters
    else if c.toNat < 0x30 then some .deviceIntermediates
    else if c.toNat < 0x3c then some .deviceParameters
    else some .string
  | .deviceIntermediates =>
    if c.toNat < 0x30 ∨ 0x7f ≤ c.toNat then some .deviceIntermediates
    else some .string
  | .string => if holdsTerminator c then none else some .string

end Sequence

/-- What is being read. -/
inductive Reading where
  /-- Text, with the sequence that it interrupts, if any. -/
  | text (interrupted : Option Sequence)
  /-- A control sequence. -/
  | sequence (begun : Sequence)
  deriving DecidableEq

namespace Reading

/-- The reading that goes on with a sequence, or with text if there is none. -/
def ofSequence? : Option Sequence → Reading
  | none => .text none
  | some s => .sequence s

/-- The reading after a character, and whether the character is shown. Whatever
is being read, an escape character begins a sequence, and the characters for
cancelling and substituting end it. -/
def step (r : Reading) (c : Char) : Reading × Bool :=
  if c = '\x1b' then (.sequence .escape, false)
  else if c = '\x18' ∨ c = '\x1a' then (.text none, false)
  else match r with
  | .text interrupted =>
    if isShown c then (.text (if c.toNat < 0x80 then interrupted else none), true)
    else (ofSequence? interrupted, false)
  | .sequence s =>
    if isSpacing c && s.isInterruptible then (.text (some s), true)
    else (ofSequence? (s.next c), false)

end Reading

/-- The shown characters of a text whose reading has got to a given point. -/
def plainFrom (r : Reading) : Text → Text
  | [] => []
  | c :: rest =>
    let (next, shown) := r.step c
    if shown then c :: plainFrom next rest else plainFrom next rest

/-- **A text without control sequences.** -/
def plain (t : Text) : Text :=
  plainFrom (.text none) t

end Text

end MemoryListing
