import MemoryListing.Row
import MemoryListing.Hex
import MemoryListing.Listing
import MemoryListing.Text.Line
import MemoryListing.Text.Plain

/-!
# What the command line can ask for

A command line either asks for a conversion, with options that all have a
default, or for the version or the help text. This module holds the options and
the complaints about a command line that cannot be understood; how one is read
is said in `MemoryListing.CommandLine.Reader`.
-/

namespace MemoryListing

namespace CommandLine

/-- **The options of a conversion.** -/
structure Options where
  /-- The path of the dump. -/
  dumpPath : Text := "code.txt".toList
  /-- The path of the symbol list. -/
  symbolsPath : Text := "symbols.txt".toList
  /-- The address expected of the first row. -/
  base : UInt16 := 0x200
  /-- What becomes of a dump with a gap. -/
  policy : GapPolicy := .strict
  /-- How the blocks are printed. -/
  layout : Layout := .body
  deriving DecidableEq

/-- What a command line asks for. -/
inductive Command where
  /-- To convert a dump and a symbol list. -/
  | convert (options : Options)
  /-- To tell the version. -/
  | version
  /-- To explain the options. -/
  | help
  deriving DecidableEq

/-- The options that take a value. -/
inductive Setting where
  | dumpPath
  | symbolsPath
  | base
  deriving DecidableEq

/-- The options that take no value. -/
inductive Switch where
  | lenient
  | wrap
  | version
  | help
  deriving DecidableEq

/-- An option that a command line can name. -/
inductive Parameter where
  | setting (s : Setting)
  | switch (s : Switch)
  deriving DecidableEq

/-- The option of a name. -/
def Parameter.ofName? (name : Text) : Option Parameter :=
  if name = "code".toList then some (.setting .dumpPath)
  else if name = "symbols".toList then some (.setting .symbolsPath)
  else if name = "base".toList then some (.setting .base)
  else if name = "lenient".toList then some (.switch .lenient)
  else if name = "wrap".toList then some (.switch .wrap)
  else if name = "version".toList then some (.switch .version)
  else if name = "help".toList then some (.switch .help)
  else none

/-- How a setting is written. -/
def Setting.usage : Setting → Text
  | .dumpPath => "--code <CODE>".toList
  | .symbolsPath => "--symbols <SYMBOLS>".toList
  | .base => "--base <BASE>".toList

/-- How a switch is written. -/
def Switch.usage : Switch → Text
  | .lenient => "--lenient".toList
  | .wrap => "--wrap".toList
  | .version => "--version".toList
  | .help => "--help".toList

/-- How an option is written. -/
def Parameter.usage : Parameter → Text
  | .setting s => s.usage
  | .switch s => s.usage

/-- The wording of a complaint about a base. -/
def baseMessage : Hex.NumberError → Text
  | .notHex e => e.message
  | .outOfRange v _ => Hex.prefixed 0 v.toNat ++ " does not fit in 16 bits".toList

/-- **The base that a value writes**, or what is said of the value if it writes none. -/
def readBase (value : Text) : Except Text UInt16 :=
  match Hex.read value with
  | .error e => .error (baseMessage (.notHex e))
  | .ok v =>
    if h : v.toNat < UInt16.size then .ok (UInt16.ofNatLT v.toNat h)
    else .error (baseMessage (.outOfRange v 0xffff))

/-- **Why a command line cannot be understood.** -/
inductive UsageError where
  /-- No option of that name exists, or a value stands where none belongs. -/
  | unexpectedArgument (argument : Text)
  /-- A switch was given a value. -/
  | unexpectedValue (value : Text) (switch : Switch)
  /-- A setting was given no value. -/
  | missingValue (setting : Setting)
  /-- An option was given twice. -/
  | repeated (parameter : Parameter)
  /-- The base is no address, for this reason. -/
  | badBase (value reason : Text)
  deriving DecidableEq

namespace UsageError

/-- The wording of a complaint about a command line. What it repeats of the
command line stands there without control sequences, and a sequence that is
left open ends with the value that holds it. -/
def message : UsageError → Text
  | .unexpectedArgument argument =>
    "unexpected argument '".toList ++ argument.plain ++ "' found".toList
  | .unexpectedValue value switch =>
    "unexpected value '".toList ++ value.plain ++ "' for '".toList ++ switch.usage
      ++ "' found; no more were expected".toList
  | .missingValue setting =>
    "a value is required for '".toList ++ setting.usage
      ++ "' but none was supplied".toList
  | .repeated parameter =>
    "the argument '".toList ++ parameter.usage
      ++ "' cannot be used multiple times".toList
  | .badBase value reason =>
    "invalid value '".toList ++ value.plain ++ "' for '".toList ++ Setting.base.usage
      ++ "': ".toList ++ reason

/-- The line that reports a complaint: the first line of its wording. -/
def line (e : UsageError) : Text :=
  (Text.lines ("error: ".toList ++ e.message)).headD []

end UsageError

end CommandLine

end MemoryListing
