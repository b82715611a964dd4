/-
Templates as text.

* **`Node.write`** — a node in the syntax of templates;
* **`Node.Printable`** — the nodes that have such a syntax when all parameters are
  variables and strings;
* **`IsDocument`** — sequences of such nodes whose raw text is not mistaken for
  something else where it meets its neighbours.

## Design notes

A head is always written with its parentheses, and an extend that has no exports
without a body.  Raw text is spoiled by its neighbours in three ways only: a
backslash at its end hides the `#` behind it, a colon at its beginning gives the
head before it a body, and a parenthesis there gives a closing head parameters.
-/
import Stencil.Node
import Stencil.Token.Lexer

namespace Stencil

/-! ### Text -/

/-- Raw text, with a backslash in front of each `#`. -/
def writeRaw (text : List Char) : List Char :=
  text.flatMap fun c => if c = '#' then ['\\', '#'] else [c]

/-- The content of a string, with a backslash in front of each quote and backslash. -/
def escape (content : List Char) : List Char :=
  content.flatMap fun c => if c = '"' ∨ c = '\\' then ['\\', c] else [c]

/-- A string between quotes. -/
def writeString (text : String) : List Char := '"' :: (escape text.toList ++ ['"'])

/-- Keys with dots between them. -/
def writeKeys : List String → List Char
  | [] => []
  | key :: keys => key.toList ++ keys.flatMap fun key => '.' :: key.toList

/-- A variable. -/
def Node.writeVariable : Node → List Char
  | .path _ keys => writeKeys keys
  | _ => []

/-- Variables with commas between them. -/
def writeParameters : List Node → List Char
  | [] => []
  | [parameter] => parameter.writeVariable
  | parameter :: parameters =>
    parameter.writeVariable ++ ',' :: ' ' :: writeParameters parameters

/-- A head with parameters. -/
def writeHead (name : String) (parameters : List Char) (hasBody : Bool) : List Char :=
  '#' :: (name.toList ++ '(' :: (parameters ++ ')' :: if hasBody then [':'] else []))

/-- The head that closes a block. -/
def writeCloser (name : String) : List Char := '#' :: ("end" ++ name).toList

/-- The head of a branch.  Only an else has a constant condition. -/
def writeBranch (name : String) : Node → List Char
  | .literal _ _ => "#else:".toList
  | condition => writeHead name condition.writeVariable true

namespace Node

mutual

/-- A node in the syntax of templates. -/
def write : Node → List Char
  | raw _ text => writeRaw text.toList
  | tag _ name parameters none => writeHead name (writeParameters parameters) false
  | tag _ name parameters (some body) =>
    writeHead name (writeParameters parameters) true ++ (writeAll body ++ writeCloser name)
  | embed _ target => writeHead "embed" target.writeVariable false
  | imported _ name => writeHead "import" (writeString name) false
  | .extend _ name exports =>
    writeHead "extend" (writeString name) (!exports.isEmpty) ++
      (writeExports exports ++ if exports.isEmpty then [] else writeCloser "extend")
  | conditional _ branches => writeBranches "if" branches ++ writeCloser "if"
  | loop _ key data body =>
    writeHead "for" (key.writeVariable ++ " in ".toList ++ data.writeVariable) true ++
      (writeAll body ++ writeCloser "for")
  | path .. | literal .. | joined .. | binary .. | signed .. | suffixed .. | host .. => []

/-- `write` for the nodes of a sequence. -/
def writeAll : List Node → List Char
  | [] => []
  | node :: nodes => node.write ++ writeAll nodes

/-- `write` for the branches of a chain, of which the first one has a head of that name. -/
def writeBranches : String → List (Node × List Node) → List Char
  | _, [] => []
  | name, (condition, body) :: branches =>
    writeBranch name condition ++ (writeAll body ++ writeBranches "elseif" branches)

/-- `write` for exports, each with its value as a body. -/
def writeExports : List (String × List Node) → List Char
  | [] => []
  | (name, value) :: exports =>
    writeHead "export" (writeString name) true ++
      (writeAll value ++ (writeCloser "export" ++ writeExports exports))

end

end Node

/-! ### Printable documents -/

/-- A key of a variable is an identifier and no keyword. -/
structure IsKey (key : String) : Prop where
  starts : ∃ c rest, key.toList = c :: rest ∧ startsName c
  continues : ∀ c ∈ key.toList, continuesName c
  keyword : key ∉ ["true", "false", "in"]

/-- The name of a tag that the language itself does not know. -/
structure IsTagName (name : String) : Prop where
  nonempty : name ≠ ""
  continues : ∀ c ∈ name.toList, continuesName c
  unknown : name ∉ ["if", "for", "extend", "import", "embed", "export", "else", "elseif"]
  closes : ¬ "end".toList <+: name.toList

namespace Node

/-- A variable, with keys that can be written. -/
def IsVariable : Node → Prop
  | path _ keys => keys ≠ [] ∧ ∀ key ∈ keys, IsKey key
  | _ => False

/-- Whether raw text with the given first character may stand behind a node.  A colon would
give a named head a body, and a parenthesis would give a closing head parameters. -/
def Lets (first : Option Char) : Node → Prop
  | raw .. => True
  | tag _ name _ none => name = "" ∨ first ≠ some ':'
  | embed .. | imported .. => first ≠ some ':'
  | .extend _ _ exports => first ≠ some ':' ∧ (exports ≠ [] → first ≠ some '(')
  | _ => first ≠ some ':' ∧ first ≠ some '('

/-- Whether a node may stand in front of a `#`: a backslash would hide it. -/
def LetsHead : Node → Prop
  | raw _ text => text.toList.getLast? ≠ some '\\'
  | _ => True

/-- Whether the second node may stand directly behind the first one. -/
def Fits : Node → Node → Prop
  | raw _ _, raw _ _ => False
  | node, raw _ text => node.Lets text.toList.head?
  | node, _ => node.LetsHead

end Node

/-- A sequence whose raw text is not mistaken for something else within the sequence. -/
def IsLegible : List Node → Prop
  | first :: second :: nodes => first.Fits second ∧ IsLegible (second :: nodes)
  | _ => True

/-- A sequence that is legible in front of the head that ends it. -/
structure IsBody (nodes : List Node) : Prop where
  legible : IsLegible nodes
  last : ∀ last, nodes.getLast? = some last → last.LetsHead

/-- The nodes that block syntax can spell with variables and strings as parameters.  The
branches of a chain are the conditions and at most one else, and exports have different
names, in the order of which they are kept. -/
inductive Node.Printable : Node → Prop
  | raw {span : Span} {text : String} : text ≠ "" → Printable (.raw span text)
  | anonymous {span : Span} {parameters : List Node} : (∀ node ∈ parameters, node.IsVariable) →
      Printable (.tag span "" parameters none)
  | tag {span : Span} {name : String} {parameters : List Node} : IsTagName name →
      (∀ node ∈ parameters, node.IsVariable) → Printable (.tag span name parameters none)
  | block {span : Span} {name : String} {parameters body : List Node} : IsTagName name →
      (∀ node ∈ parameters, node.IsVariable) → IsBody body → (∀ node ∈ body, Printable node) →
      Printable (.tag span name parameters (some body))
  | conditional {span : Span} {branches otherwise : List (Node × List Node)} : branches ≠ [] →
      (∀ branch ∈ branches, branch.1.IsVariable) →
      (otherwise = [] ∨ ∃ span body, otherwise = [(.literal span (.truth true), body)]) →
      (∀ branch ∈ branches ++ otherwise, IsBody branch.2) →
      (∀ branch ∈ branches ++ otherwise, ∀ node ∈ branch.2, Printable node) →
      Printable (.conditional span (branches ++ otherwise))
  | loop {span span' : Span} {key : String} {data : Node} {body : List Node} : IsKey key →
      data.IsVariable → IsBody body → (∀ node ∈ body, Printable node) →
      Printable (.loop span (.path span' [key]) data body)
  | extend {span : Span} {path : String} {exports : List (String × List Node)} :
      (exports.map Prod.fst).Pairwise (· < ·) → (∀ entry ∈ exports, IsBody entry.2) →
      (∀ entry ∈ exports, ∀ node ∈ entry.2, Printable node) →
      Printable (.extend span path exports)
  | imported {span : Span} {name : String} : Printable (.imported span name)
  | embed {span : Span} {target : Node} : target.IsVariable → Printable (.embed span target)

/-- A legible sequence of printable nodes. -/
structure IsDocument (nodes : List Node) : Prop where
  legible : IsLegible nodes
  printable : ∀ node ∈ nodes, node.Printable

end Stencil
