/-
Files.

A `Disk` tells what reading a path gives, and `Disk.ofFiles` is the disk that
holds some files and the directories on the way to them.

## Design notes

A path leads through directories, from the working directory on.  Each component
but the last must lead to a directory, also one that leads back up.  Above the
working directory nothing is known but that there are directories.  A path that
no file can have is refused before the disk is looked at.
-/
import Stencil.Path

namespace Stencil

/-- Why a path cannot be read. -/
inductive ReadError where
  | missing
  | isDirectory
  | notDirectory
  | notText
  | nulInName
  | nameTooLong
  | other (message : String)
deriving DecidableEq

/-- The wording of an error. -/
def ReadError.message : ReadError → String
  | missing => "No such file or directory (os error 2)"
  | isDirectory => "Is a directory (os error 21)"
  | notDirectory => "Not a directory (os error 20)"
  | notText => "stream did not contain valid UTF-8"
  | nulInName => "file name contained an unexpected NUL byte"
  | nameTooLong => "File name too long (os error 36)"
  | other message => message

/-- What can be read, and the contents of all files that are known. -/
structure Disk where
  read : String → Except ReadError ByteArray
  files : List (String × ByteArray)

namespace Disk

/-- The number of bytes from which on a path is too long. -/
def pathLimit : Nat := 4096

/-- The number of bytes that a component of a path can have. -/
def componentLimit : Nat := 255

/-- Why no file can have a path, if that is so. -/
def pathError? (path : String) : Option ReadError :=
  if path.toList.contains '\x00' then some .nulInName
  else if path.utf8ByteSize ≥ pathLimit then some .nameTooLong
  else none

/-- The bytes of a file. -/
def readBytes (disk : Disk) (path : String) : Except ReadError ByteArray :=
  match pathError? path with
  | some error => .error error
  | none => disk.read path

/-- The text of a file. -/
def readText (disk : Disk) (path : String) : Except ReadError String :=
  match disk.readBytes path with
  | .error error => .error error
  | .ok bytes =>
    match String.fromUTF8? bytes with
    | some text => .ok text
    | none => .error .notText

/-- What stands at a place in a tree of files. -/
inductive Entry where
  | file (bytes : ByteArray)
  | directory
  | nothing

/-- A place in a tree of files: the components that lead there. -/
abbrev Location := List (List Char)

/-- What stands at a place, given the files under their places. -/
def entryAt (files : List (Location × ByteArray)) (location : Location) : Entry :=
  match files.lookup location with
  | some bytes => .file bytes
  | none =>
    if location.isEmpty || files.any (fun file => location.isPrefixOf file.1) then .directory
    else .nothing

/-- Where a component of a path leads from a directory.  `none` stands for the
directories that the working directory is in. -/
def step (location : Option Location) (component : List Char) :
    Except ReadError (Option Location) :=
  if component = [] ∨ component = ['.'] then .ok location
  else if component = ['.', '.'] then
    match location with
    | none | some [] => .ok none
    | some location => .ok (some location.dropLast)
  else if (String.ofList component).utf8ByteSize > componentLimit then .error .nameTooLong
  else
    match location with
    | none => .error .missing
    | some location => .ok (some (location ++ [component]))

/-- Follow the components of a path from a place. -/
def follow (files : List (Location × ByteArray)) (location : Option Location) :
    List (List Char) → Except ReadError ByteArray
  | [] =>
    match location.elim .directory (entryAt files) with
    | .file bytes => .ok bytes
    | .directory => .error .isDirectory
    | .nothing => .error .missing
  | component :: rest =>
    match location.elim .directory (entryAt files) with
    | .file _ => .error .notDirectory
    | .nothing => .error .missing
    | .directory =>
      match step location component with
      | .ok location => follow files location rest
      | .error error => .error error

/-- The disk that holds some files under relative paths. -/
def ofFiles (files : List (String × ByteArray)) : Disk :=
  let located := files.map fun (path, bytes) => (Path.segments path.toList, bytes)
  { read := fun path =>
      if path.isEmpty then .error .missing
      else
        let start := if Path.isAbsolute path then none else some []
        follow located start (Path.segments path.toList)
    files }

end Disk

end Stencil
