/-
The blocks of a template.

A `Block` is a tag with a body that has not been closed yet.  `Head.interpret`
tells what a head means where any tag may stand: a node, or a block to open.
`Block.complete` is the node that a block and its body make.

## Design notes

An extend holds exports and blank text only, so it is in one of two states:
between its exports, or within the body of one.  A chain of conditions is one
block, which keeps the branches that are complete.
-/
import Stencil.Document.Segment
import Stencil.Keyed

namespace Stencil

/-- A block that is open, with the place of the head that opened it. -/
inductive Block where
  | tag (span : Span) (name : String) (parameters : List Node)
  | loop (span : Span) (key data : Node)
  /-- A chain of conditions: its complete branches, the last one first, and the
  condition of the open branch, whose head stands at `opened`.  Behind an else
  there is no further branch. -/
  | chain (span opened : Span) (branches : List (Node × List Node)) (condition : Node)
      (isLast : Bool)
  /-- An extend between its exports. -/
  | extend (span : Span) (path : String) (exports : List (String × List Node))
  /-- An extend within the body of an export, whose head stands at `opened`. -/
  | exporting (span : Span) (path : String) (exports : List (String × List Node))
      (name : String) (opened : Span)

namespace Block

/-- The name of the tag that opened the block. -/
def name : Block → String
  | tag _ name _ => name
  | loop .. => "for"
  | chain .. => "if"
  | extend .. => "extend"
  | exporting .. => "export"

/-- The name of the tag that closes the block. -/
def closer (block : Block) : String := "end" ++ block.name

/-- The place of the head that a block which is never closed is blamed on. -/
def opened : Block → Span
  | tag span _ _ | loop span _ _ | extend span _ _ => span
  | chain _ opened _ _ _ | exporting _ _ _ _ opened => opened

end Block

/-- What a head starts. -/
inductive Opening where
  | node (node : Node)
  | block (block : Block)

namespace Head

/-- The place of a head. -/
def span (source : Source) (head : Head) : Span := source.span head.start head.stop

/-- The error of a head with a given fault. -/
def blame (source : Source) (head : Head) (fault : Fault) : ParseError :=
  ⟨fault, head.span source⟩

/-- The parameter list of a head that must have one. -/
def list (source : Source) (head : Head) : Except ParseError ParameterList :=
  match head.parameters with
  | some list => .ok list
  | none => .error (head.blame source (.parametersMissing head.name))

/-- The parameter of a head that must have one. -/
def single (source : Source) (head : Head) : Except ParseError Node := do
  let list ← head.list source
  match ← list.read source with
  | [node] => .ok node
  | nodes => .error (head.blame source (.parameterCount head.name nodes.length))

/-- The string that must be the parameter of a head. -/
def literal (source : Source) (head : Head) : Except ParseError String := do
  match ← head.single source with
  | .literal _ (.text text) => .ok text
  | node => .error ⟨.literalMissing head.name node.describe, node.span⟩

/-- Refuse a head without a body. -/
def requireBody (source : Source) (head : Head) : Except ParseError Unit :=
  if head.hasBody then .ok () else .error (head.blame source (.bodyMissing head.name))

/-- Refuse a head with a body. -/
def forbidBody (source : Source) (head : Head) : Except ParseError Unit :=
  if head.hasBody then .error (head.blame source (.bodyForbidden head.name)) else .ok ()

/-- Whether a name may only close or go on a block. -/
def isContinuation (name : String) : Bool :=
  "end".toList.isPrefixOf name.toList || name == "else" || name == "elseif"

/-- `#if`, which opens a chain. -/
def interpretIf (source : Source) (head : Head) : Except ParseError Opening := do
  let condition ← head.single source
  head.requireBody source
  let span := head.span source
  .ok (.block (.chain span span [] condition false))

/-- `#for`, which opens a loop. -/
def interpretFor (source : Source) (head : Head) : Except ParseError Opening := do
  let list ← head.list source
  let (key, data) ← list.readHeader source
  head.requireBody source
  .ok (.block (.loop (head.span source) key data))

/-- `#extend`, which takes exports if it has a body. -/
def interpretExtend (source : Source) (head : Head) : Except ParseError Opening := do
  let path ← head.literal source
  let span := head.span source
  .ok (if head.hasBody then .block (.extend span path []) else .node (.extend span path []))

/-- `#import`, which takes no body. -/
def interpretImport (source : Source) (head : Head) : Except ParseError Opening := do
  let name ← head.literal source
  head.forbidBody source
  .ok (.node (.imported (head.span source) name))

/-- `#embed`, which takes no body. -/
def interpretEmbed (source : Source) (head : Head) : Except ParseError Opening := do
  let path ← head.single source
  head.forbidBody source
  .ok (.node (.embed (head.span source) path))

/-- A tag that the language itself does not know. -/
def interpretTag (source : Source) (head : Head) : Except ParseError Opening := do
  let parameters ← match head.parameters with
    | some list => list.read source
    | none => .ok []
  let span := head.span source
  .ok (if head.hasBody then .block (.tag span head.name parameters)
    else .node (.tag span head.name parameters none))

/-- What a head starts where any tag may stand. -/
def interpret (source : Source) (head : Head) : Except ParseError Opening :=
  match head.name with
  | "if" => head.interpretIf source
  | "for" => head.interpretFor source
  | "extend" => head.interpretExtend source
  | "import" => head.interpretImport source
  | "embed" => head.interpretEmbed source
  | "export" => .error (head.blame source .exportOutside)
  | name =>
    if isContinuation name then .error (head.blame source (.unexpectedTag name))
    else head.interpretTag source

/-- What an `#export` declares: its name, and its value unless a body follows. -/
def interpretExport (source : Source) (head : Head) :
    Except ParseError (String × Option Node) := do
  let list ← head.list source
  match ← list.read source with
  | .literal _ (.text name) :: values =>
    match values, head.hasBody with
    | [value], false => .ok (name, some value)
    | [], true => .ok (name, none)
    | _, _ => .error (head.blame source .exportShape)
  | _ => .error (head.blame source .exportUnnamed)

end Head

end Stencil
