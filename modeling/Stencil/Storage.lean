/-
Values that a caller hands to tags.

A `Storage` maps keys to entries of several types.  A look-up names the type it
wants, and finds nothing if the entry has another.
-/
import Stencil.Value

namespace Stencil

/-- An entry of a storage. -/
inductive Stored where
  | text (value : String)
  | number (value : Int64)
  | data (value : Value)

/-- Entries under keys, the keys in ascending order. -/
structure Storage where
  entries : List (String × Stored)

namespace Storage

/-- A storage without entries. -/
def empty : Storage := ⟨[]⟩

/-- Put an entry under a key, in place of the one that is there. -/
def insert (storage : Storage) (key : String) (entry : Stored) : Storage :=
  ⟨Keyed.insert key entry storage.entries⟩

/-- The entry under a key. -/
def find? (storage : Storage) (key : String) : Option Stored :=
  Keyed.find? key storage.entries

/-- The text under a key. -/
def text? (storage : Storage) (key : String) : Option String :=
  match storage.find? key with
  | some (.text value) => some value
  | _ => none

/-- The number under a key. -/
def number? (storage : Storage) (key : String) : Option Int64 :=
  match storage.find? key with
  | some (.number value) => some value
  | _ => none

/-- The value under a key. -/
def data? (storage : Storage) (key : String) : Option Value :=
  match storage.find? key with
  | some (.data value) => some value
  | _ => none

/-- Whether there is an entry under a key. -/
def contains (storage : Storage) (key : String) : Bool := (storage.find? key).isSome

/-- The number of entries. -/
def size (storage : Storage) : Nat := storage.entries.length

end Storage

end Stencil
