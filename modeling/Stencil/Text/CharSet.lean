/-
Sets of characters.

A `CharSet` is the ascending list of the code points at which membership
changes: the first is in the set, those from the second on are not, and so on.
-/

namespace Stencil

/-- A set of characters, given by the code points at which membership changes. -/
structure CharSet where
  changes : List Nat

namespace CharSet

/-- Walk over the changes up to a code point. -/
def containsFrom (n : Nat) (inside : Bool) : List Nat → Bool
  | [] => inside
  | change :: changes => if n < change then inside else containsFrom n (!inside) changes

/-- Whether a character is in the set. -/
def contains (set : CharSet) (c : Char) : Bool := containsFrom c.toNat false set.changes

end CharSet

end Stencil
