/-
Settings of a renderer.

`Settings` say where templates are and whether composed ones are kept.
`Settings.parse?` reads them from a settings file, in which every key may be
missing and none may be unknown.
-/
import Stencil.Path
import Stencil.Settings.Toml

namespace Stencil

/-- Where templates are, and whether composed templates are kept. -/
structure Settings where
  root : String
  ending : String
  caching : Bool
deriving DecidableEq

namespace Settings

/-- The settings that hold unless others are given. -/
def standard : Settings := ⟨"templates", ".sheaf", true⟩

/-- How names become paths. -/
def rule (settings : Settings) : PathRule := ⟨settings.root, settings.ending⟩

/-- Change the setting under a key, unless there is none or the value has the
wrong type. -/
def set (settings : Settings) (key : String) (item : Toml.Item) : Option Settings :=
  match key, item with
  | "root", .text root => some { settings with root }
  | "file_ending", .text ending => some { settings with ending }
  | "cache", .truth caching => some { settings with caching }
  | _, _ => none

/-- Change settings one after the other, each key once. -/
def setAll (settings : Settings) (seen : List String) :
    List (String × Toml.Item) → Option Settings
  | [] => some settings
  | (key, item) :: entries =>
    if key ∈ seen then none
    else
      match settings.set key item with
      | some settings => setAll settings (key :: seen) entries
      | none => none

/-- The settings in the text of a settings file. -/
def parse? (text : String) : Option Settings :=
  match Toml.parse? text with
  | some entries => setAll standard [] entries
  | none => none

end Settings

end Stencil
