/-
The values that templates read.

A `Value` is what a variable holds.  Besides plain data it can be a sequence of
nodes, which is put out by rendering them.

* **`Value.display`** — the text of a value where one is needed;
* **`Value.isTruthy`** — whether a condition on the value holds;
* **`Value.lookup`** — the value that a path of keys leads to;
* **`Value.same`** — equality, with doubles compared as numbers.

## Design notes

A dictionary is a list of pairs in the order of their keys (`Stencil.Keyed`).
-/
import Stencil.Decimal.Layout
import Stencil.Keyed
import Stencil.Node.Equality
import Stencil.Text.Encoding

namespace Stencil

/-- A value of the render context. -/
inductive Value where
  | null
  | bool (value : Bool)
  | int (value : Int64)
  | double (value : Float)
  | string (value : String)
  | bytes (value : ByteArray)
  | dictionary (entries : List (String × Value))
  | array (items : List Value)
  /-- Nodes that are rendered where the value is put out. -/
  | nodes (nodes : List Node)

instance : Inhabited Value := ⟨.null⟩

namespace Value

/-- The name of a value's kind in messages. -/
def kind : Value → String
  | null => "null"
  | bool _ => "bool"
  | int _ => "int"
  | double _ => "double"
  | string _ => "string"
  | bytes _ => "bytes"
  | dictionary _ => "dictionary"
  | array _ => "array"
  | nodes _ => "interpolated"

/-- Null, false, zero and whatever is empty do not hold. -/
def isTruthy : Value → Bool
  | null => false
  | bool b => b
  | int n => n != 0
  | double x => x != 0.0
  | string s => !s.isEmpty
  | bytes b => !b.isEmpty
  | dictionary entries => !entries.isEmpty
  | array items => !items.isEmpty
  | nodes ns => !ns.isEmpty

/-- The value that a path of keys leads to through dictionaries. -/
def lookup : Value → List String → Option Value
  | value, [] => some value
  | dictionary entries, key :: keys =>
    match Keyed.find? key entries with
    | some value => value.lookup keys
    | none => none
  | _, _ :: _ => none

/-- The text of a string value. -/
def asString? : Value → Option String
  | string s => some s
  | _ => none

mutual

/-- The text of a value.  Collections list their items between brackets; null
and nodes have no text of their own. -/
def display : Value → String
  | null | nodes _ => ""
  | bool true => "true"
  | bool false => "false"
  | int n => toString n.toInt
  | double x => Double.Layout.plain.write x
  | string s => s
  | bytes b => Encoding.lossy b
  | array items => "[" ++ ", ".intercalate (displayItems items) ++ "]"
  | dictionary entries => "[" ++ ", ".intercalate (displayEntries entries) ++ "]"

/-- The texts of the items of an array. -/
def displayItems : List Value → List String
  | [] => []
  | item :: items => item.display :: displayItems items

/-- The texts of the entries of a dictionary, each behind its key. -/
def displayEntries : List (String × Value) → List String
  | [] => []
  | (key, value) :: entries => (key ++ ": " ++ value.display) :: displayEntries entries

end

mutual

/-- Equality of values of one kind; values of different kinds are not equal. -/
def same : Value → Value → Bool
  | null, null => true
  | bool a, bool b => a == b
  | int a, int b => a == b
  | double a, double b => a == b
  | string a, string b => a == b
  | bytes a, bytes b => a == b
  | dictionary a, dictionary b => entriesSame a b
  | array a, array b => itemsSame a b
  | nodes a, nodes b => Node.allSame a b
  | _, _ => false

/-- Equality of the items of arrays. -/
def itemsSame : List Value → List Value → Bool
  | [], [] => true
  | a :: as, b :: bs => a.same b && itemsSame as bs
  | _, _ => false

/-- Equality of the entries of dictionaries. -/
def entriesSame : List (String × Value) → List (String × Value) → Bool
  | [], [] => true
  | (k, a) :: as, (l, b) :: bs => k == l && a.same b && entriesSame as bs
  | _, _ => false

end

end Value

end Stencil
