import MemoryListing.Text

/-!
# Files in a directory

A dump and a symbol list come from files. A path names one from the working
directory, component by component; an empty component and a single dot stand
for the place reached so far, which must be a directory, and two dots for the
directory that holds it. The system refuses names and paths beyond a certain
number of bytes. Of what lies outside the working directory nothing is
known but the directories that lead to it.

A directory says what a run finds: `Program.answer` takes the texts of its files
from `Directory.read`.
-/

namespace MemoryListing

/-- Why no text could be read from a path. -/
inductive FileError where
  /-- Nothing is there. -/
  | missing
  /-- A directory is there. -/
  | isDirectory
  /-- The path leads through something that is no directory. -/
  | notDirectory
  /-- The path, or a name in it, is longer than the system allows. -/
  | nameTooLong
  /-- The bytes of the file are not valid UTF-8. -/
  | notText
  /-- The system refused for another reason, in its own words. -/
  | refused (reason : Text)
  deriving DecidableEq

/-- The wording of a failure to read a file. -/
def FileError.message : FileError → Text
  | .missing => "No such file or directory (os error 2)".toList
  | .isDirectory => "Is a directory (os error 21)".toList
  | .notDirectory => "Not a directory (os error 20)".toList
  | .nameTooLong => "File name too long (os error 36)".toList
  | .notText => "stream did not contain valid UTF-8".toList
  | .refused reason => reason

/-- The most bytes that a name in a directory has. -/
def nameLimit : Nat :=
  255

/-- The most bytes that a path has. -/
def pathLimit : Nat :=
  4095

/-- Something that a directory holds. -/
inductive Node where
  /-- A file with these bytes. -/
  | file (bytes : List UInt8)
  /-- A directory. -/
  | directory

/-- Reads the text that a node holds. -/
def Node.read : Node → Except FileError Text
  | .directory => .error .isDirectory
  | .file bytes =>
    match Text.ofBytes? bytes with
    | none => .error .notText
    | some t => .ok t

/-- **A directory**: nodes by the components of their paths. -/
structure Directory where
  /-- The nodes. Directories on the way to a node need no entry of their own. -/
  entries : List (List Text × Node)

/-- A place that a path can lead to. -/
inductive Place where
  /-- The place with these components, seen from the working directory. -/
  | inside (components : List Text)
  /-- A directory that holds the working directory. -/
  | above

namespace Place

/-- The directory that holds a place. -/
def parent : Place → Place
  | .inside [] => .above
  | .inside (c :: rest) => .inside (c :: rest).dropLast
  | .above => .above

/-- The place of a name in a directory, if something can be known of it. -/
def child? (name : Text) : Place → Option Place
  | .inside components => some (.inside (components ++ [name]))
  | .above => none

end Place

namespace Directory

/-- What is at a place. -/
def node? (d : Directory) : Place → Option Node
  | .above => some .directory
  | .inside [] => some .directory
  | .inside components =>
    match d.entries.find? (fun e => e.1 == components) with
    | some e => some e.2
    | none =>
      if d.entries.any (fun e => components.isPrefixOf e.1) then some .directory
      else none

/-- Follows the components of a path from a place. -/
def follow (d : Directory) (place : Place) : List Text → Except FileError Node
  | [] =>
    match d.node? place with
    | none => .error .missing
    | some n => .ok n
  | c :: rest =>
    match d.node? place with
    | none => .error .missing
    | some (.file _) => .error .notDirectory
    | some .directory =>
      if c.isEmpty || c == ['.'] then d.follow place rest
      else if c == ['.', '.'] then d.follow place.parent rest
      else if nameLimit < (Text.bytes c).length then .error .nameTooLong
      else
        match place.child? c with
        | none => .error .missing
        | some next => d.follow next rest

/-- **Reads the text of the file at a path.** -/
def read (d : Directory) (path : Text) : Except FileError Text :=
  if path.isEmpty then .error .missing
  else if pathLimit < (Text.bytes path).length then .error .nameTooLong
  else
    match d.follow (.inside []) (path.splitOn '/') with
    | .error e => .error e
    | .ok n => n.read

end Directory

end MemoryListing
