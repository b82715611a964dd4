/-
The program.

`main` reads the arguments, runs the command they ask for, and prints what comes
of it.  Files are read when a run has consulted them, and the command is run
again until it consults no other.
-/
import Stencil.Command.Run

namespace Stencil.Program

/-- How the program is called. -/
def usage : String :=
  "Usage: sheaf [OPTIONS] [TEMPLATE]

Renders a template, read from standard input if no TEMPLATE is named.

Options:
  -r, --root <DIR>       Directory template names are resolved against
  -c, --context <FILE>   JSON file with the render context
      --config <FILE>    Renderer configuration (TOML)
      --no-cache         Disable the resolved-template cache
      --label <NAME>     Name for a template read from standard input
      --print-ast        Print the resolved syntax tree instead of rendering
"

/-- The error of the operating system as one of a disk. -/
def readErrorOf : IO.Error → ReadError
  | .noFileOrDirectory .. => .missing
  | .inappropriateType _ 21 _ => .isDirectory
  | .inappropriateType _ 20 _ => .notDirectory
  | .invalidArgument _ 36 _ => .nameTooLong
  | .permissionDenied _ 13 _ => .other "Permission denied (os error 13)"
  | error => .other (toString error)

/-- What reading a file gives. -/
def readPath (path : String) : IO (Except ReadError ByteArray) := do
  try
    return .ok (← IO.FS.readBinFile path)
  catch error =>
    return .error (readErrorOf error)

/-- What is known of the files. -/
abbrev Known := List (String × Except ReadError ByteArray)

/-- The disk of the files that are known. -/
def diskOf (known : Known) : Disk where
  read path := (known.lookup path).getD (.error .missing)
  files := known.filterMap fun (path, result) => result.toOption.map fun bytes => (path, bytes)

/-- Run a command until it consults only files that are known. -/
partial def runWith (command : Command) (input : ByteArray) (known : Known) : IO Outcome := do
  let outcome := command.run (diskOf known) input
  match outcome.consulted.find? fun path => (known.lookup path).isNone with
  | none => return outcome
  | some path => runWith command input ((path, ← readPath path) :: known)

/-- Read all that is on a stream. -/
partial def readAll (stream : IO.FS.Stream) (done : ByteArray) : IO ByteArray := do
  let bytes ← stream.read 65536
  if bytes.isEmpty then return done else readAll stream (done ++ bytes)

end Stencil.Program

open Stencil Stencil.Program

/-- Run the command that the arguments ask for. -/
def main (arguments : List String) : IO UInt32 := do
  match Command.parse? arguments with
  | none =>
    (← IO.getStderr).putStr usage
    return 2
  | some command =>
    let stdin ← IO.getStdin
    if command.template.isNone && (← stdin.isTty) then
      (← IO.getStdout).putStr usage
      return 0
    let input ← if command.template.isSome then pure ByteArray.empty
      else readAll stdin ByteArray.empty
    match (← runWith command input []).result with
    | .ok text =>
      (← IO.getStdout).putStr text
      return 0
    | .error text =>
      (← IO.getStderr).putStrLn text
      return 1
