/-
Templates that are files.

`Disk.sources` finds templates on a disk, and `Disk.renderText` renders a text
that may extend them.
-/
import Stencil.Disk
import Stencil.Session

namespace Stencil.Disk

/-- Load a template. -/
def load (disk : Disk) (path : String) : Except LoadError ByteArray :=
  match disk.readBytes path with
  | .ok bytes => .ok bytes
  | .error .missing => .error .missing
  | .error error => .error (.unreadable error.message)

/-- The disk as a source of templates. -/
def sources (disk : Disk) (rule : PathRule) : Sources :=
  { load := disk.load, parse := parseBytes, rule }

/-- How deep extends can be nested, starting from some nodes. -/
def depth (disk : Disk) (rule : PathRule) (nodes : List Node) : Nat :=
  (Library.ofList disk.files).depth rule nodes

/-- Render a text as a template, with the standard settings. -/
def renderText (disk : Disk) (setting : Setting) (text : String) : Except RenderError String :=
  let rule := Settings.standard.rule
  setting.finish
    (composeInline (disk.sources rule) (disk.depth rule) text.toUTF8 inlineLabel).result

end Stencil.Disk
