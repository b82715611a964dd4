/-
The tags that are always there.

Three of them change the case of a text.  `contains` looks for an item in an
array, a key in a dictionary or a text in a string, `count` counts, and `comment`
puts nothing out and leaves its body unread.
-/
import Stencil.Tag
import Stencil.Text.Case

namespace Stencil.Builtin

/-- Whether a text occurs in another. -/
def occursIn (needle : List Char) : List Char → Bool
  | [] => needle.isEmpty
  | c :: rest => needle.isPrefixOf (c :: rest) || occursIn needle rest

/-- A tag that maps the text of its parameter. -/
def mapText (f : String → String) : TagHandler :=
  { readsBody := true
    answer := fun call => do
      let value ← call.one
      return .string (f value.display) }

/-- Whether a collection holds an item, unless it is no collection. -/
def search (collection item : Value) : Option Bool :=
  match collection with
  | .array items => some (items.any fun x => x.same item)
  | .dictionary entries => some (Keyed.find? item.display entries).isSome
  | .string text => some (occursIn item.display.toList text.toList)
  | .null => some false
  | _ => none

/-- The tag that looks for an item in a collection. -/
def contains : TagHandler :=
  { readsBody := true
    answer := fun call => do
      let (collection, item) ← call.two
      match search collection item with
      | some found => return .bool found
      | none => throw (.invalid call.name s!"cannot search in {collection.kind}") }

/-- The size of a value, unless it has none. -/
def size : Value → Option Nat
  | .array items => some items.length
  | .dictionary entries => some entries.length
  | .string text => some text.length
  | .bytes bytes => some bytes.size
  | _ => none

/-- The tag that counts items, entries, characters or bytes. -/
def count : TagHandler :=
  { readsBody := true
    answer := fun call => do
      let value ← call.one
      match size value with
      | some n => return .int (Int64.ofNat n)
      | none => throw (.invalid call.name s!"cannot count {value.kind}") }

/-- The tag that puts nothing out. -/
def comment : TagHandler :=
  { readsBody := false
    answer := fun _ => return .null }

/-- The registry of these tags. -/
def registry : Registry :=
  ⟨[("capitalized", mapText capitalize), ("comment", comment), ("contains", contains),
    ("count", count), ("lowercased", mapText lower), ("uppercased", mapText upper)]⟩

end Stencil.Builtin
