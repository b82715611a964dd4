/-
Reading the expressions of a parameter list.

A `Reader` has read some tokens and knows what it has put together from them.
`Reader.step` reads one more token, or is stuck on it; `Reader.run` reads a
list of tokens, and `Reader.wanted` says what a stuck reader could have read.

The grammar is this.  Items are separated by commas, and a comma may also end
the list.  An item is an expression of infix operators, which group to the left
and bind by `Operator.strength`; their operands carry any number of signs.
An operand is a constant, a call `name(items)`, a path of names separated by
dots, or an expression between parentheses.

## Design notes

Each open parenthesis is a `Layer`.  A layer keeps the left operands that wait
for their right side, the last one first; an infix operator completes those of
at least its own strength (`reduce`), so the waiting ones always grow stronger
towards the last.

A call of `import` whose arguments are not one string is read as a call, and
the layer remembers its place as a fault.  A layer hands its fault on when its
parenthesis closes, and a reader that is stuck reports the fault of the
outermost layer alone: the calls that are still open are no calls.
-/
import Stencil.Node
import Stencil.ParseError

namespace Stencil

/-- What surrounds an expression. -/
inductive Surrounding where
  /-- The parameters of a tag. -/
  | list
  /-- The header of a loop, which holds one expression. -/
  | header
  /-- Parentheses that only group. -/
  | group
  /-- The arguments of a call, whose name starts at an offset. -/
  | call (name : String) (start : Nat)

/-- Whether several expressions may stand there, or none. -/
def Surrounding.takesItems : Surrounding → Bool
  | .list | .call _ _ => true
  | .header | .group => false

/-- What has been read between one pair of parentheses. -/
structure Layer where
  surrounding : Surrounding
  /-- The complete items, the last one first. -/
  items : List Node
  /-- The operands that wait for their right side, the last one first. -/
  lefts : List (Node × Operator)
  /-- The signs that wait for their operand, with offsets, the last one first. -/
  signs : List (Operator × Nat)
  /-- The place of the first faulty import. -/
  fault : Option Span

/-- A layer in which nothing has been read. -/
def Layer.open (surrounding : Surrounding) : Layer :=
  ⟨surrounding, [], [], [], none⟩

/-- What the last tokens were. -/
inductive Progress where
  /-- An operand has to follow. -/
  | wanting
  /-- A path, which may go on. -/
  | path (keys : List String) (start stop : Nat)
  /-- A path and a dot. -/
  | dotted (keys : List String) (start : Nat)
  /-- Any other operand. -/
  | operand (node : Node)

/-- The state of reading. -/
structure Reader where
  progress : Progress
  layer : Layer
  outer : List Layer

/-- Put the signs in front of an operand, the last one first. -/
def applySigns (source : Source) : List (Operator × Nat) → Node → Node
  | [], node => node
  | (op, start) :: signs, node =>
    applySigns source signs (.signed (source.span start node.span.stop) op node)

/-- Complete the waiting operands of at least a given strength. -/
def reduce (source : Source) (strength : Nat) :
    List (Node × Operator) → Node → List (Node × Operator) × Node
  | [], right => ([], right)
  | (left, op) :: lefts, right =>
    if strength ≤ op.strength then
      reduce source strength lefts
        (.binary (source.span left.span.start right.span.stop) op left right)
    else ((left, op) :: lefts, right)

/-- The node of a call, and its place if it is a faulty import. -/
def callNode (span : Span) (name : String) (arguments : List Node) : Node × Option Span :=
  if name = "import" then
    match arguments with
    | [.literal _ (.text identifier)] => (.imported span identifier, none)
    | _ => (.literal span (.text ""), some span)
  else (.tag span name arguments none, none)

namespace Layer

/-- Whether no part of the next item has been read. -/
def atItem (layer : Layer) : Bool := layer.lefts.isEmpty && layer.signs.isEmpty

/-- The expression that an operand completes. -/
def complete (source : Source) (layer : Layer) (node : Node) : Node :=
  (reduce source 0 layer.lefts (applySigns source layer.signs node)).2

/-- The layer behind an infix operator. -/
def infixOp (source : Source) (layer : Layer) (node : Node) (op : Operator) : Layer :=
  let (lefts, left) := reduce source op.strength layer.lefts (applySigns source layer.signs node)
  { layer with lefts := (left, op) :: lefts, signs := [] }

/-- The layer behind an item. -/
def endItem (source : Source) (layer : Layer) (node : Node) : Layer :=
  { layer with items := layer.complete source node :: layer.items, lefts := [], signs := [] }

end Layer

namespace Reader

/-- A reader that has read nothing. -/
def start (surrounding : Surrounding) : Reader :=
  ⟨.wanting, Layer.open surrounding, []⟩

/-- Read an opening parenthesis. -/
def enter (reader : Reader) (surrounding : Surrounding) : Reader :=
  ⟨.wanting, Layer.open surrounding, reader.layer :: reader.outer⟩

/-- Read the parenthesis that closes a call with the given arguments. -/
def closeCall (source : Source) (reader : Reader) (arguments : List Node) (stop : Nat) :
    Option Reader :=
  match reader.layer.surrounding, reader.outer with
  | .call name start, parent :: outer =>
    let (node, fault) := callNode (source.span start stop) name arguments
    some ⟨.operand node,
      { parent with fault := parent.fault.or (reader.layer.fault.or fault) }, outer⟩
  | _, _ => none

/-- Read the parenthesis behind an operand. -/
def close (source : Source) (reader : Reader) (node : Node) (stop : Nat) : Option Reader :=
  match reader.layer.surrounding, reader.outer with
  | .group, parent :: outer =>
    some ⟨.operand (reader.layer.complete source node),
      { parent with fault := parent.fault.or reader.layer.fault }, outer⟩
  | .call _ _, _ =>
    reader.closeCall source (reader.layer.endItem source node).items.reverse stop
  | _, _ => none

/-- Read a token behind an operand that cannot go on. -/
def proceed (source : Source) (reader : Reader) (node : Node) (lexeme : Lexeme) : Option Reader :=
  match lexeme.token with
  | .operator op =>
    if 0 < op.strength then some ⟨.wanting, reader.layer.infixOp source node op, reader.outer⟩
    else none
  | .comma =>
    if reader.layer.surrounding.takesItems then
      some ⟨.wanting, reader.layer.endItem source node, reader.outer⟩
    else none
  | .closing => reader.close source node lexeme.stop
  | _ => none

/-- Read a token where an operand has to follow. -/
def begin (source : Source) (reader : Reader) (lexeme : Lexeme) : Option Reader :=
  let constant (value : Literal) : Option Reader :=
    let span := source.span lexeme.start lexeme.stop
    some { reader with progress := .operand (.literal span value) }
  match lexeme.token with
  | .int value => constant (.int value)
  | .double value => constant (.double value)
  | .text content => constant (.text content)
  | .truth value => constant (.truth value)
  | .name name => some { reader with progress := .path [name] lexeme.start lexeme.stop }
  | .opening => some (reader.enter .group)
  | .operator op =>
    if op.isSign then
      let layer := { reader.layer with signs := (op, lexeme.start) :: reader.layer.signs }
      some { reader with layer }
    else none
  | .closing =>
    if reader.layer.atItem then
      reader.closeCall source reader.layer.items.reverse lexeme.stop
    else none
  | _ => none

/-- Read one token; `none` if the reader is stuck on it. -/
def step (source : Source) (reader : Reader) (lexeme : Lexeme) : Option Reader :=
  match reader.progress with
  | .wanting => reader.begin source lexeme
  | .dotted keys start =>
    match lexeme.token with
    | .name name => some { reader with progress := .path (keys ++ [name]) start lexeme.stop }
    | _ => none
  | .path keys start stop =>
    match lexeme.token, keys with
    | .dot, _ => some { reader with progress := .dotted keys start }
    | .opening, [name] => some (reader.enter (.call name start))
    | _, _ => reader.proceed source (.path (source.span start stop) keys) lexeme
  | .operand node => reader.proceed source node lexeme

/-- What a reader could read next. -/
def wanted (reader : Reader) : Wanted :=
  let items := reader.layer.surrounding.takesItems
  match reader.progress with
  | .wanting => .operand (items && reader.layer.atItem)
  | .dotted _ _ => .memberName
  | .path keys _ _ => .continuation (keys.length == 1) true items
  | .operand _ => .continuation false false items

/-- The place of the first faulty import outside the parentheses that are open. -/
def outerFault (reader : Reader) : Option Span :=
  (reader.outer.getLast?.getD reader.layer).fault

/-- The operand that has been read last, if it may be complete. -/
def operand? (source : Source) (reader : Reader) : Option Node :=
  match reader.progress with
  | .path keys start stop => some (.path (source.span start stop) keys)
  | .operand node => some node
  | _ => none

/-- The items of a reader that may stop here. -/
def items? (source : Source) (reader : Reader) : Option (List Node) :=
  match reader.outer, reader.operand? source, reader.progress with
  | [], some node, _ => some (reader.layer.endItem source node).items.reverse
  | [], none, .wanting =>
    if reader.layer.surrounding.takesItems && reader.layer.atItem then
      some reader.layer.items.reverse
    else none
  | _, _, _ => none

/-- Read a list of tokens, up to the first that the reader is stuck on. -/
def run (source : Source) : Reader → List Lexeme → Reader × Option Lexeme
  | reader, [] => (reader, none)
  | reader, lexeme :: lexemes =>
    match reader.step source lexeme with
    | some next => next.run source lexemes
    | none => (reader, some lexeme)

end Reader

end Stencil
