import MemoryListing.CommandLine.Options

/-!
# Reading a command line

Arguments are read from left to right. A setting takes its value from behind an
equals sign or, if there is none, from the next argument, unless that looks like
an option itself. A value of the second kind is only looked at when the next
option is met or the command line ends: an argument that makes no sense at all
is therefore reported before a bad value that stands in front of it, while a
request for the version comes too late to hide one.
-/

namespace MemoryListing

namespace CommandLine

/-- What an argument looks like, before it is known which options exist. -/
inductive Argument where
  /-- Two dashes alone: no option follows. -/
  | terminator
  /-- Two dashes and a name, perhaps with a value behind an equals sign. -/
  | long (name : Text) (value : Option Text)
  /-- One dash and a letter. What follows the letter does not matter. -/
  | short (letter : Char)
  /-- Anything else. -/
  | plain (value : Text)
  deriving DecidableEq

/-- What an argument looks like. A value behind an equals sign may itself hold
equals signs. -/
def Argument.ofText : Text → Argument
  | ['-', '-'] => .terminator
  | '-' :: '-' :: rest =>
    match rest.dropWhile (· ≠ '=') with
    | [] => .long rest none
    | _ :: value => .long (rest.takeWhile (· ≠ '=')) (some value)
  | '-' :: letter :: _ => .short letter
  | value => .plain value

/-- The options given so far. -/
structure Given where
  /-- The path of the dump. -/
  dumpPath : Option Text := none
  /-- The path of the symbol list. -/
  symbolsPath : Option Text := none
  /-- The base. -/
  base : Option UInt16 := none
  /-- Whether a gap was allowed. -/
  lenient : Bool := false
  /-- Whether declared blocks were asked for. -/
  wrap : Bool := false
  deriving DecidableEq

namespace Given

/-- The options of the conversion, those that were not given at their default. -/
def options (g : Given) : Options :=
  let defaults : Options := {}
  { dumpPath := g.dumpPath.getD defaults.dumpPath
    symbolsPath := g.symbolsPath.getD defaults.symbolsPath
    base := g.base.getD defaults.base
    policy := if g.lenient then .lenient else .strict
    layout := if g.wrap then .wrapped else .body }

/-- Gives a setting a value, once. A path must not be empty. -/
def set (g : Given) (s : Setting) (value : Text) : Except UsageError Given :=
  match s with
  | .dumpPath =>
    if g.dumpPath.isSome then .error (.repeated (.setting s))
    else if value.isEmpty then .error (.missingValue s)
    else .ok { g with dumpPath := some value }
  | .symbolsPath =>
    if g.symbolsPath.isSome then .error (.repeated (.setting s))
    else if value.isEmpty then .error (.missingValue s)
    else .ok { g with symbolsPath := some value }
  | .base =>
    if g.base.isSome then .error (.repeated (.setting s))
    else
      match readBase value with
      | .error reason => .error (.badBase value reason)
      | .ok a => .ok { g with base := some a }

end Given

/-- A setting that was met, with its value once that was met too. -/
structure Pending where
  /-- The setting. -/
  setting : Setting
  /-- Its value. -/
  value : Option Text
  deriving DecidableEq

/-- The options given so far, the pending setting included. -/
def settle (g : Given) : Option Pending → Except UsageError Given
  | none => .ok g
  | some ⟨s, none⟩ => .error (.missingValue s)
  | some ⟨s, some value⟩ => g.set s value

/-- What a switch asks for: a command of its own, or to go on with one more
option given. -/
def Given.turn (g : Given) (s : Switch) : Except UsageError (Command ⊕ Given) :=
  match s with
  | .lenient =>
    if g.lenient then .error (.repeated (.switch s))
    else .ok (.inr { g with lenient := true })
  | .wrap =>
    if g.wrap then .error (.repeated (.switch s))
    else .ok (.inr { g with wrap := true })
  | .version => .ok (.inl .version)
  | .help => .ok (.inl .help)

/-- What a letter behind a single dash asks for. -/
def Switch.ofLetter? (letter : Char) : Option Switch :=
  if letter = 'V' then some .version
  else if letter = 'h' then some .help
  else none

/-- Reads the arguments that are left. -/
def readFrom (g : Given) (pending : Option Pending) :
    List Text → Except UsageError Command
  | [] => do
    let g ← settle g pending
    return .convert g.options
  | argument :: rest =>
    match Argument.ofText argument with
    | .terminator =>
      match rest with
      | [] => do
        let g ← settle g pending
        return .convert g.options
      | extra :: _ => .error (.unexpectedArgument extra)
    | .long name value =>
      match Parameter.ofName? name, value with
      | none, _ => .error (.unexpectedArgument ("--".toList ++ name))
      | some (.switch s), some v => .error (.unexpectedValue v s)
      | some (.switch s), none => do
        let g ← settle g pending
        match ← g.turn s with
        | .inl command => return command
        | .inr g => readFrom g none rest
      | some (.setting s), some v => do
        let g ← settle g pending
        let g ← g.set s v
        readFrom g none rest
      | some (.setting s), none => do
        let g ← settle g pending
        readFrom g (some ⟨s, none⟩) rest
    | .short letter =>
      match Switch.ofLetter? letter with
      | none => .error (.unexpectedArgument ['-', letter])
      | some s => do
        let g ← settle g pending
        match ← g.turn s with
        | .inl command => return command
        | .inr g => readFrom g none rest
    | .plain value =>
      match pending with
      | some ⟨s, none⟩ => readFrom g (some ⟨s, some value⟩) rest
      | _ => .error (.unexpectedArgument value)

/-- **Reads a command line**, the name of the program left out. -/
def read (arguments : List Text) : Except UsageError Command :=
  readFrom {} none arguments

end CommandLine

end MemoryListing
