/-
Composed templates that are kept.

A `Cache` holds the nodes of composed templates under their paths.  Paths with
the same components are one key.

* **`Cache.get?_insert_self`**, **`Cache.get?_insert_of_ne`**,
  **`Cache.get?_remove_self`** — a look-up after a change.
-/
import Stencil.Node
import Stencil.Path

namespace Stencil

/-- Composed templates under the keys of their paths, no key twice. -/
structure Cache where
  entries : List (Path.Key × List Node)

namespace Cache

/-- A cache without entries. -/
def empty : Cache := ⟨[]⟩

/-- The template at a path. -/
def get? (cache : Cache) (path : String) : Option (List Node) :=
  cache.entries.lookup (Path.key path)

/-- Whether there is a template at a path. -/
def contains (cache : Cache) (path : String) : Bool := (cache.get? path).isSome

/-- The cache without the template at a path. -/
def remove (cache : Cache) (path : String) : Cache :=
  ⟨cache.entries.filter fun entry => entry.1 != Path.key path⟩

/-- Keep a template under a path, in place of the one that is there. -/
def insert (cache : Cache) (path : String) (nodes : List Node) : Cache :=
  ⟨(Path.key path, nodes) :: (cache.remove path).entries⟩

/-- The number of templates. -/
def size (cache : Cache) : Nat := cache.entries.length

/-- Whether there are no templates. -/
def isEmpty (cache : Cache) : Bool := cache.entries.isEmpty

theorem lookup_filter_ne {key other : Path.Key} (h : other ≠ key)
    (entries : List (Path.Key × List Node)) :
    (entries.filter fun entry => entry.1 != key).lookup other = entries.lookup other := by
  induction entries with
  | nil => rfl
  | cons entry entries ih =>
    obtain ⟨k, nodes⟩ := entry
    by_cases hk : k = key
    · subst hk
      have h' : (other == k) = false := beq_eq_false_iff_ne.2 h
      simp [List.lookup_cons, ih, h']
    · simp [List.lookup_cons, ih, hk]

theorem lookup_filter_self (key : Path.Key) (entries : List (Path.Key × List Node)) :
    (entries.filter fun entry => entry.1 != key).lookup key = none := by
  induction entries with
  | nil => rfl
  | cons entry entries ih =>
    obtain ⟨k, nodes⟩ := entry
    by_cases hk : k = key
    · simp [hk, ih]
    · have hk' : (key == k) = false := beq_eq_false_iff_ne.2 (Ne.symm hk)
      simp [List.lookup_cons, ih, hk, hk']

theorem get?_insert_self (cache : Cache) {path other : String}
    (h : Path.key other = Path.key path) (nodes : List Node) :
    (cache.insert path nodes).get? other = some nodes := by
  simp [insert, get?, h]

theorem get?_insert_of_ne (cache : Cache) {path other : String}
    (h : Path.key other ≠ Path.key path) (nodes : List Node) :
    (cache.insert path nodes).get? other = cache.get? other := by
  have h' : (Path.key other == Path.key path) = false := beq_eq_false_iff_ne.2 h
  simp only [insert, get?, remove, List.lookup_cons, lookup_filter_ne h, h']

theorem get?_remove_self (cache : Cache) {path other : String}
    (h : Path.key other = Path.key path) : (cache.remove path).get? other = none := by
  simp only [remove, get?, h, lookup_filter_self]

end Cache

end Stencil
