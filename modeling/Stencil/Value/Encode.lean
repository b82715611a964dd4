/-
Making values from JSON.

Objects become dictionaries and every other kind of JSON value has a value of
its own.
-/
import Stencil.Json
import Stencil.Value

namespace Stencil.Value

mutual

/-- The value that a JSON value stands for. -/
def ofJson : Json → Value
  | .null => .null
  | .bool b => .bool b
  | .int n => .int n
  | .double x => .double x
  | .string s => .string s
  | .array items => .array (ofJsonItems items)
  | .object entries => .dictionary (ofJsonEntries entries)

/-- The values of the items of an array. -/
def ofJsonItems : List Json → List Value
  | [] => []
  | item :: items => ofJson item :: ofJsonItems items

/-- The values of the entries of an object. -/
def ofJsonEntries : List (String × Json) → List (String × Value)
  | [] => []
  | (key, item) :: entries => (key, ofJson item) :: ofJsonEntries entries

end

end Stencil.Value
