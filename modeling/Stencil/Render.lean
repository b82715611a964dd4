/-
Rendering.

`render` puts out the text of a composed template for a context, or tells what
is wrong with it.

Variables are looked up in the loops around them, the innermost first, and then
in the context; what is not found is null.

* **`Rendition.toText`**, **`Rendition.toValue`** — what a node stands for where
  text is put out, and where a value is needed.

## Design notes

A node stands either for text that is put out as it is, or for a value, which
is put out by writing it (`Rendition`).  So there is one function on nodes,
`rendition`, and the two ways to use a node are functions of its result.

The nodes that a value holds are no part of the tree, and what they put out can
depend on the same value again.  Writing them is left to a function `stored`;
`renderWithin` is that function, and it counts down from a limit.
-/
import Stencil.Render.Operation

namespace Stencil

/-- The variables that a loop binds; the first of one name counts. -/
abbrev Bindings := List (String × Value)

/-- The bindings of the loops around a node, the innermost first. -/
abbrev Scopes := List Bindings

/-- What rendering depends on besides the nodes. -/
structure Setting where
  tags : Registry
  /-- What the nodes of the host put out for a context, or why they fail. -/
  host : HostNode → Value → Except String String
  context : Value
  storage : Storage

/-- How the nodes in a value are put out. -/
abbrev Stores := Scopes → List Node → Except RenderFault String

/-- What a node stands for. -/
inductive Rendition where
  | text (text : String)
  | value (value : Value)

namespace Rendition

/-- The value that a rendition stands for. -/
def toValue : Rendition → Value
  | text t => .string t
  | value v => v

/-- The text of a value where it is put out. -/
def write (stored : Stores) (scopes : Scopes) : Value → Except RenderFault String
  | .nodes nodes => stored scopes nodes
  | other => .ok other.display

/-- The text that a rendition puts out. -/
def toText (stored : Stores) (scopes : Scopes) : Rendition → Except RenderFault String
  | text t => .ok t
  | value v => write stored scopes v

end Rendition

/-- The value of a constant. -/
def Literal.toValue : Literal → Value
  | .int n => .int n
  | .double x => .double x
  | .text s => .string s
  | .truth b => .bool b

/-- The value of the innermost loop variable of a name. -/
def Scopes.find? (name : String) : Scopes → Option Value
  | [] => none
  | bindings :: scopes =>
    match Keyed.find? name bindings with
    | some value => some value
    | none => Scopes.find? name scopes

/-- The value of a variable, and of the path of keys into it. -/
def lookupPath (scopes : Scopes) (context : Value) : List String → Value
  | [] => .null
  | name :: keys =>
    match scopes.find? name with
    | some value => (value.lookup keys).getD .null
    | none => (context.lookup (name :: keys)).getD .null

/-- The name of the variable that a loop binds. -/
def loopVariable (key : Node) : Except RenderFault String :=
  match key with
  | .path _ [name] => .ok name
  | other => .error (.mismatch (.loopVariable other.describe) other.span)

/-- The items that a loop goes through, with their keys if they have one. -/
def loopItems (span : Span) : Value → Except RenderFault (List (Option String × Value))
  | .array items => .ok (items.map fun item => (none, item))
  | .dictionary entries => .ok (entries.map fun (key, value) => (some key, value))
  | .null => .ok []
  | value => .error (.mismatch (.notIterable value.kind) span)

/-- What a loop binds in one round. -/
def roundBindings (name : String) (count index : Nat) (key : Option String) (item : Value) :
    Bindings :=
  [(name, item), ("index", .int (Int64.ofNat index)), ("isFirst", .bool (index == 0)),
    ("isLast", .bool (index + 1 == count))] ++
    match key with
    | some key => [("key", .string key)]
    | none => []

/-- The bindings of each round of a loop. -/
def loopRounds (name : String) (items : List (Option String × Value)) : List Bindings :=
  let count := items.length
  items.mapIdx fun index (key, item) => roundBindings name count index key item

/-- A mismatch at a place. -/
def blame {α : Type} (span : Span) (result : Except Mismatch α) : Except RenderFault α :=
  result.mapError fun cause => .mismatch cause span

/-- The texts of several rounds, one after the other, up to the first error. -/
def concatRounds (round : Bindings → Except RenderFault String) :
    List Bindings → Except RenderFault String
  | [] => .ok ""
  | bindings :: rest => do
    let first ← round bindings
    let rest ← concatRounds round rest
    return first ++ rest

/-- Ask the handler of a tag. -/
def callTag (setting : Setting) (handler : TagHandler) (span : Span) (name : String)
    (parameters : List Value) (body : Option String) : Except RenderFault Rendition :=
  (handler.answer ⟨name, parameters, body, setting.context, setting.storage⟩).map .value
    |>.mapError fun error => .tag error span

mutual

/-- What a node stands for. -/
def rendition (setting : Setting) (stored : Stores) (scopes : Scopes) :
    Node → Except RenderFault Rendition
  | .raw _ text => .ok (.text text)
  | .literal _ value => .ok (.value value.toValue)
  | .path _ keys => .ok (.value (lookupPath scopes setting.context keys))
  | .joined _ parts => do
    return .text (← renderAll setting stored scopes parts)
  | .conditional _ branches => do
    return .text (← renderBranches setting stored scopes branches)
  | .loop span key data body => do
    let name ← loopVariable key
    let data ← rendition setting stored scopes data
    let items ← loopItems span data.toValue
    return .text (← concatRounds
      (fun bindings => renderAll setting stored (bindings :: scopes) body)
      (loopRounds name items))
  | .tag span name parameters body =>
    if name = "" then
      match parameters with
      | [parameter] => do
        return .value (← rendition setting stored scopes parameter).toValue
      | _ => .error (.tag (.arity name 1 parameters.length) span)
    else
      match setting.tags.find? name with
      | none => .error (.unknownTag name span)
      | some handler => do
        let values ← valuesOf setting stored scopes parameters
        match body with
        | none => callTag setting handler span name values none
        | some nodes =>
          if handler.readsBody then do
            let text ← renderAll setting stored scopes nodes
            callTag setting handler span name values (some text)
          else callTag setting handler span name values none
  | .signed span op operand => do
    let value ← rendition setting stored scopes operand
    return .value (← blame span (applySign op value.toValue))
  | .suffixed span op _ => .error (.mismatch (.suffixed op) span)
  | .binary span op left right => do
    let left ← rendition setting stored scopes left
    if op = .and && !left.toValue.isTruthy then return .value (.bool false)
    else if op = .or && left.toValue.isTruthy then return .value (.bool true)
    else
      let right ← rendition setting stored scopes right
      if op = .and || op = .or then return .value (.bool right.toValue.isTruthy)
      else return .value (← blame span (applyBinary op left.toValue right.toValue))
  | .host _ node =>
    match setting.host node setting.context with
    | .ok text => .ok (.value (.string text))
    | .error message => .error (.host node.name message)
  | .embed span _ => .error (.unsupported "embed" span)
  | .imported span _ => .error (.unresolved "import" span)
  | .extend span _ _ => .error (.unresolved "extend" span)

/-- The text of a sequence of nodes. -/
def renderAll (setting : Setting) (stored : Stores) (scopes : Scopes) :
    List Node → Except RenderFault String
  | [] => .ok ""
  | node :: nodes => do
    let first ← (← rendition setting stored scopes node).toText stored scopes
    let rest ← renderAll setting stored scopes nodes
    return first ++ rest

/-- The values of a sequence of nodes. -/
def valuesOf (setting : Setting) (stored : Stores) (scopes : Scopes) :
    List Node → Except RenderFault (List Value)
  | [] => .ok []
  | node :: nodes => do
    let first ← rendition setting stored scopes node
    let rest ← valuesOf setting stored scopes nodes
    return first.toValue :: rest

/-- The text of the first branch whose condition holds. -/
def renderBranches (setting : Setting) (stored : Stores) (scopes : Scopes) :
    List (Node × List Node) → Except RenderFault String
  | [] => .ok ""
  | (condition, body) :: branches => do
    let value ← rendition setting stored scopes condition
    if value.toValue.isTruthy then renderAll setting stored scopes body
    else renderBranches setting stored scopes branches

end

/-- Render nodes whose values hold nodes nested at most so deep. -/
def renderWithin (setting : Setting) : Nat → Stores
  | 0, _, _ => .error .tooDeep
  | depth + 1, scopes, nodes => renderAll setting (renderWithin setting depth) scopes nodes

/-- The text of a composed template.  The number bounds how deep the nodes in
values are nested. -/
def render (setting : Setting) (depth : Nat) (nodes : List Node) : Except RenderFault String :=
  renderAll setting (renderWithin setting depth) [] nodes

end Stencil
