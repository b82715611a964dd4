/-
Equality of syntax trees.

Two nodes are equal if they have the same shape, the same places and equal
constants.  Doubles are compared as numbers, so a tree that holds the double
which is no number is not even equal to itself; this is why equality is a
function and not the identity of trees.
-/
import Stencil.Node

namespace Stencil

/-- Equality of constants, doubles being compared as numbers. -/
def Literal.same : Literal → Literal → Bool
  | .int a, .int b => a == b
  | .double a, .double b => a == b
  | .text a, .text b => a == b
  | .truth a, .truth b => a == b
  | _, _ => false

namespace Node

mutual

/-- Equality of nodes. -/
def same : Node → Node → Bool
  | raw s a, raw t b => s == t && a == b
  | tag s a ps none, tag t b qs none => s == t && a == b && allSame ps qs
  | tag s a ps (some xs), tag t b qs (some ys) =>
    s == t && a == b && allSame ps qs && allSame xs ys
  | embed s p, embed t q => s == t && p.same q
  | imported s a, imported t b => s == t && a == b
  | extend s a xs, extend t b ys => s == t && a == b && exportsSame xs ys
  | conditional s xs, conditional t ys => s == t && branchesSame xs ys
  | path s a, path t b => s == t && a == b
  | literal s a, literal t b => s == t && a.same b
  | joined s xs, joined t ys => s == t && allSame xs ys
  | loop s k d xs, loop t l e ys => s == t && k.same l && d.same e && allSame xs ys
  | binary s o a b, binary t p c d => s == t && o == p && a.same c && b.same d
  | signed s o a, signed t p b => s == t && o == p && a.same b
  | suffixed s o a, suffixed t p b => s == t && o == p && a.same b
  | host s a, host t b => s == t && a.handle == b.handle
  | _, _ => false

/-- Equality of sequences of nodes. -/
def allSame : List Node → List Node → Bool
  | [], [] => true
  | a :: as, b :: bs => a.same b && allSame as bs
  | _, _ => false

/-- Equality of chains of branches. -/
def branchesSame : List (Node × List Node) → List (Node × List Node) → Bool
  | [], [] => true
  | (a, xs) :: as, (b, ys) :: bs => a.same b && allSame xs ys && branchesSame as bs
  | _, _ => false

/-- Equality of named exports. -/
def exportsSame : List (String × List Node) → List (String × List Node) → Bool
  | [], [] => true
  | (m, xs) :: as, (n, ys) :: bs => m == n && allSame xs ys && exportsSame as bs
  | _, _ => false

end

end Node

end Stencil
