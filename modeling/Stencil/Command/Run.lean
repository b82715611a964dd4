/-
Running a command.

`Command.run` gives what a command prints, for the files on a disk and the bytes
on the standard input.

## Design notes

An `Outcome` also tells which paths were consulted.  A disk of which only some
files are known gives the outcome of the full disk as soon as all paths that the
outcome consulted are known.
-/
import Stencil.Command
import Stencil.Disk.Templates
import Stencil.Node.Outline
import Stencil.Report
import Stencil.Tag.Builtin

namespace Stencil

/-- What a command prints, or the error, and the paths that were consulted. -/
structure Outcome where
  result : Except String String
  consulted : List String

/-- The path that an access looks for on a disk, if it does. -/
def Access.path? : Access → Option String
  | load path => some path
  | parse _ => none

namespace Command

/-- The settings that a command asks for. -/
def loadSettings (command : Command) (disk : Disk) : Except String Settings := do
  let settings ← match command.settings with
    | none => pure Settings.standard
    | some path =>
      match disk.readText path with
      | .error error =>
        throw s!"Error loading config '{path}': Failed to read renderer config: {error.message}"
      | .ok text =>
        match Settings.parse? text with
        | some settings => pure settings
        | none => throw s!"Error loading config '{path}': Failed to parse renderer config TOML"
  return { settings with
    root := command.root.getD settings.root
    caching := settings.caching && command.caching }

/-- The context that a command asks for. -/
def loadContext (command : Command) (disk : Disk) : Except String Value :=
  match command.context with
  | none => return .dictionary []
  | some path =>
    match disk.readText path with
    | .error error => throw s!"Error loading context '{path}': {error.message}"
    | .ok text =>
      match Json.parse? text with
      | some json => return .ofJson json
      | none => throw s!"Error loading context '{path}': not a JSON document"

/-- The text of the file that an error points into, if it is at hand.  `given`
is the label and the text of a template from the input. -/
def sourceOf (disk : Disk) (given : Option (String × String)) (file : String) : Option String :=
  match given with
  | some (label, text) =>
    if label = file then some text else (disk.readText file).toOption
  | none => (disk.readText file).toOption

/-- What is printed about an error. -/
def explain (disk : Disk) (given : Option (String × String)) (error : RenderError) : String :=
  match error.span? with
  | none => s!"Error [{error.identifier}]: {error.reason}"
  | some span =>
    match sourceOf disk given span.file with
    | some text => error.report text
    | none => s!"Error [{error.identifier}] {span.cite}: {error.reason}"

/-- What is printed of a composed template. -/
def present (command : Command) (context : Value)
    (composed : Except ComposeError (List Node)) : Except RenderError String :=
  if command.printsNodes then (composed.map Node.outlineAll).mapError .compose
  else Setting.finish ⟨Builtin.registry, fun node _ => .error node.name, context, .empty⟩ composed

/-- The outcome of composing a template and printing it. -/
def conclude (command : Command) (disk : Disk) (given : Option (String × String))
    (context : Value) (composed : Traced (List Node)) : Outcome :=
  let loads := composed.accesses.filterMap Access.path?
  match command.present context composed.result with
  | .ok text => ⟨.ok text, loads⟩
  | .error error =>
    ⟨.error (explain disk given error), loads ++ error.span?.toList.map Span.file⟩

/-- The composed template, and its label and text if it is from the input. -/
def compose (command : Command) (disk : Disk) (settings : Settings) (input : ByteArray) :
    Except String (Option (String × String) × Traced (List Node)) :=
  let sources := disk.sources settings.rule
  let depth := disk.depth settings.rule
  match command.template with
  | some name => return (none, composePath sources depth (settings.rule.normalize name))
  | none =>
    match String.fromUTF8? input with
    | none => throw s!"Error reading from stdin: {ReadError.notText.message}"
    | some text =>
      let label := command.label.getD inlineLabel
      return (some (label, text), composeInline sources depth input label)

/-- Run a command. -/
def run (command : Command) (disk : Disk) (input : ByteArray) : Outcome :=
  let opened := command.settings.toList ++ command.context.toList
  let prepared := do
    let settings ← command.loadSettings disk
    let context ← command.loadContext disk
    return (context, ← command.compose disk settings input)
  match prepared with
  | .error message => ⟨.error message, opened⟩
  | .ok (context, given, composed) =>
    let outcome := command.conclude disk given context composed
    { outcome with consulted := opened ++ outcome.consulted }

end Command

end Stencil
