/-
The outline of a syntax tree.

An `Outline` is a tree of labelled items, and `Outline.write` puts every item on
a line of its own, indented by its depth.  `Node.outlineAll` is the outline of
the nodes of a template, with every field and every place.
-/
import Stencil.Decimal.Layout
import Stencil.Node
import Stencil.Text.Quoted

namespace Stencil

/-- A text, or items between brackets.  An item has a label, which can be
empty. -/
inductive Outline where
  | leaf (text : String)
  | group (opening closing : String) (items : List (String × Outline))

namespace Outline

/-- So many steps of indentation. -/
def indent (depth : Nat) : String := String.ofList (List.replicate (4 * depth) ' ')

mutual

/-- The text of an outline at a depth; the first line is not indented. -/
def write (depth : Nat) : Outline → String
  | leaf text => text
  | group opening closing [] => opening ++ closing
  | group opening closing (item :: items) =>
    opening ++ "\n" ++ writeItems (depth + 1) (item :: items) ++ indent depth ++ closing

/-- The text of items at a depth, each with a comma and a line feed behind it. -/
def writeItems (depth : Nat) : List (String × Outline) → String
  | [] => ""
  | (label, value) :: items =>
    indent depth ++ label ++ write depth value ++ ",\n" ++ writeItems depth items

end

/-- A quoted text. -/
def text (s : String) : Outline := leaf (quote s)

/-- A named record; the label of a field is its name and a colon. -/
def record (name : String) (fields : List (String × Outline)) : Outline :=
  group (name ++ " \x7b") "\x7d" (fields.map fun (field, value) => (field ++ ": ", value))

/-- A named value that holds another. -/
def wrap (name : String) (value : Outline) : Outline := group (name ++ "(") ")" [("", value)]

/-- A sequence. -/
def sequence (items : List Outline) : Outline := group "[" "]" (items.map fun item => ("", item))

/-- A table; the label of an entry is its quoted key. -/
def table (entries : List (String × Outline)) : Outline :=
  group "\x7b" "\x7d" (entries.map fun (key, value) => (quote key ++ ": ", value))

end Outline

/-- The outline of a place. -/
def Span.outline (span : Span) : Outline :=
  .record "SourceSpan" [("file", .text span.file), ("line", .leaf (toString span.line)),
    ("column", .leaf (toString span.column)), ("range", .leaf s!"{span.start}..{span.stop}")]

/-- The outline of a node, given that of its content and its place. -/
def Span.outlineWith (span : Span) (content : Outline) : Outline :=
  .record "Spanned" [("node", content), ("span", span.outline)]

/-- The outline of a constant. -/
def Literal.outline : Literal → Outline
  | int value => .wrap "Constant" (.wrap "Int" (.leaf (toString value.toInt)))
  | double value => .wrap "Constant" (.wrap "Double" (.leaf (Double.Layout.exact.write value)))
  | text value => .wrap "Constant" (.wrap "String" (.text value))
  | truth value => .wrap "Constant" (.wrap "Bool" (.leaf (toString value)))

namespace Node

mutual

/-- The outline of a node. -/
def outline : Node → Outline
  | raw span text => span.outlineWith (.wrap "Raw" (.text text))
  | tag span name parameters none =>
    span.outlineWith (.wrap "Tag" (.record "Tag" [("name", .text name),
      ("parameters", .sequence (outlines parameters)), ("body", .leaf "None")]))
  | tag span name parameters (some body) =>
    span.outlineWith (.wrap "Tag" (.record "Tag" [("name", .text name),
      ("parameters", .sequence (outlines parameters)),
      ("body", .wrap "Some" (.sequence (outlines body)))]))
  | embed span target => span.outlineWith (.record "Embed" [("path", target.outline)])
  | imported span name => span.outlineWith (.record "Import" [("identifier", .text name)])
  | extend span name exports =>
    span.outlineWith (.wrap "Extend" (.record "Extend" [("path", .text name),
      ("exports", .table (outlineExports exports))]))
  | conditional span branches =>
    span.outlineWith (.wrap "Conditional" (outlineBranches branches))
  | path span keys =>
    span.outlineWith (.record "Identifier" [("path", .sequence (keys.map .text))])
  | literal span value => span.outlineWith value.outline
  | joined span parts =>
    span.outlineWith (.wrap "Constant" (.wrap "Interpolated" (.sequence (outlines parts))))
  | loop span key data body =>
    span.outlineWith (.wrap "Iterator" (.record "Iteration" [("key", key.outline),
      ("data", data.outline), ("body", .sequence (outlines body))]))
  | binary span op left right =>
    span.outlineWith (.wrap "Expression" (.record "Infix" [("op", .leaf op.word),
      ("left", left.outline), ("right", right.outline)]))
  | signed span op operand =>
    span.outlineWith (.wrap "Expression" (.record "Prefix" [("op", .leaf op.word),
      ("right", operand.outline)]))
  | suffixed span op operand =>
    span.outlineWith (.wrap "Expression" (.record "Postfix" [("op", .leaf op.word),
      ("left", operand.outline)]))
  | host span node =>
    span.outlineWith (.wrap "Custom" (.wrap "Custom" (.text node.name)))

/-- The outlines of nodes. -/
def outlines : List Node → List Outline
  | [] => []
  | node :: nodes => node.outline :: outlines nodes

/-- The outline of a chain of branches: each holds the next. -/
def outlineBranches : List (Node × List Node) → Outline
  | [] => .leaf "None"
  | [(condition, body)] =>
    .record "Conditional" [("condition", condition.outline),
      ("body", .sequence (outlines body)), ("next", .leaf "None")]
  | (condition, body) :: branches =>
    .record "Conditional" [("condition", condition.outline),
      ("body", .sequence (outlines body)), ("next", .wrap "Some" (outlineBranches branches))]

/-- The outlines of exports under their names. -/
def outlineExports : List (String × List Node) → List (String × Outline)
  | [] => []
  | (name, value) :: exports =>
    (name, .sequence (outlines value)) :: outlineExports exports

end

/-- The outline of the nodes of a template, as a text. -/
def outlineAll (nodes : List Node) : String := (Outline.sequence (outlines nodes)).write 0

end Node

end Stencil
