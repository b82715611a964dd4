/-
The command line.

A `Command` is what the arguments ask for: a template to put out, by name or
from the standard input, and what it depends on.  `Command.parse?` reads the
arguments.

## Design notes

An option that takes a value has a place for it in the command (`Slot`), and is
given at most once.  Its value follows as an argument of its own, or behind an
equals sign, or directly behind the letter of a short option.
-/

namespace Stencil

/-- What the arguments ask for. -/
structure Command where
  /-- The name of the template, which is read from the input if there is none. -/
  template : Option String
  /-- The directory that names are below. -/
  root : Option String
  /-- The file that holds the context. -/
  context : Option String
  /-- The file that holds the settings. -/
  settings : Option String
  /-- What messages call the template that is read from the input. -/
  label : Option String
  caching : Bool
  /-- Whether the composed nodes are put out in place of the text. -/
  printsNodes : Bool
deriving DecidableEq

namespace Command

/-- The command without arguments. -/
def standard : Command := ⟨none, none, none, none, none, true, false⟩

/-- The places for values of options. -/
inductive Slot where
  | root
  | context
  | settings
  | label
deriving DecidableEq

/-- The spellings of options that take a value. -/
def Slot.spellings : List (String × Slot) :=
  [("--root", .root), ("-r", .root), ("--context", .context), ("-c", .context),
    ("--config", .settings), ("--label", .label)]

/-- The value behind the spelling of an option in the same argument: none if the
argument is another option, and no value if nothing is behind the spelling. -/
def attached? (spelling argument : List Char) : Option (Option String) :=
  if spelling.isPrefixOf argument then
    match argument.drop spelling.length with
    | [] => some none
    | '=' :: value => some (some (String.ofList value))
    | value => if spelling.length = 2 then some (some (String.ofList value)) else none
  else none

/-- The slot that an argument fills, with the value if it holds one. -/
def slot? (argument : String) : Option (Slot × Option String) :=
  Slot.spellings.findSome? fun (spelling, slot) =>
    (attached? spelling.toList argument.toList).map fun value => (slot, value)

/-- Whether an argument is no option. -/
def isPlain (argument : String) : Bool :=
  argument = "-" || argument.toList.head? != some '-'

/-- Put a value into a slot that is free.  A path is not empty. -/
def fill (command : Command) (slot : Slot) (value : String) : Option Command :=
  match slot with
  | .root =>
    if command.root.isSome ∨ value = "" then none else some { command with root := some value }
  | .context =>
    if command.context.isSome ∨ value = "" then none
    else some { command with context := some value }
  | .settings =>
    if command.settings.isSome ∨ value = "" then none
    else some { command with settings := some value }
  | .label => if command.label.isSome then none else some { command with label := some value }

/-- Take the name of the template, of which there is at most one. -/
def named (command : Command) (name : String) : Option Command :=
  if command.template.isSome then none else some { command with template := some name }

/-- Go on with the arguments of a command. -/
def read (command : Command) : List String → Option Command
  | [] => some command
  | ["--"] => some command
  | ["--", name] => command.named name
  | "--no-cache" :: rest =>
    if command.caching then read { command with caching := false } rest else none
  | "--print-ast" :: rest =>
    if command.printsNodes then none else read { command with printsNodes := true } rest
  | argument :: rest =>
    match slot? argument with
    | some (slot, some value) =>
      match command.fill slot value with
      | some command => read command rest
      | none => none
    | some (slot, none) =>
      match rest with
      | [] => none
      | value :: rest =>
        if isPlain value then
          match command.fill slot value with
          | some command => read command rest
          | none => none
        else none
    | none =>
      if isPlain argument then
        match command.named argument with
        | some command => read command rest
        | none => none
      else none

/-- The command that arguments ask for, unless they are malformed. -/
def parse? (arguments : List String) : Option Command := standard.read arguments

end Command

end Stencil
