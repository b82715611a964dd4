/-
The grammar of parameter lists.

`Derives` says which tokens spell which expressions.  It has a rule for each way
to put a phrase together, and does not say how a phrase is found.

* **`Phrase`** — the kinds of phrases: lists, the levels of infix operators, signs
  and operands;
* **`Operator.mem_atLevel_iff`** — the level of an operator is one less than its
  strength.

## Design notes

An expression of some level is made of expressions of the next one, so that the
weakest operators are at the root, and only its left part may be of the same
level, so that equals group to the left.  The expressions are nodes without
their places (`Node.bare`).
-/
import Stencil.Parameters.Reader
import Stencil.Proofs.Bare

namespace Stencil

/-- The infix operators of a level.  Level 0 is that of whole expressions, and the
last one is 5. -/
def Operator.atLevel : Nat → List Operator
  | 0 => [.or]
  | 1 => [.and]
  | 2 => [.equal, .notEqual]
  | 3 => [.less, .lessOrEqual, .greater, .greaterOrEqual]
  | 4 => [.plus, .minus]
  | 5 => [.multiply, .divide, .modulo]
  | _ => []

theorem Operator.mem_atLevel_iff (op : Operator) (level : Nat) :
    op ∈ atLevel level ↔ op.strength = level + 1 := by
  match level with
  | 0 | 1 | 2 | 3 | 4 | 5 => cases op <;> simp [atLevel, strength]
  | level + 6 =>
    have hstrength : op.strength ≤ 6 := by cases op <;> decide
    simp only [atLevel, List.not_mem_nil, false_iff]
    omega

theorem Operator.isSign_iff (op : Operator) : op.isSign ↔ op ∈ [not, minus] := by
  cases op <;> decide

/-- The kinds of phrases in a parameter list. -/
inductive Phrase where
  /-- Any number of expressions, with a comma behind the last one or not. -/
  | items
  /-- Expressions with commas between them, at least one. -/
  | series
  /-- An expression of infix operators of a level and of stronger ones. -/
  | level (level : Nat)
  /-- An operand with any number of signs in front of it. -/
  | signed
  | operand
deriving DecidableEq

/-- A whole expression. -/
abbrev Phrase.expression : Phrase := .level 0

/-- The tokens of a path. -/
def dottedTokens (keys : List String) : List Token := (keys.map Token.name).intersperse .dot

/-- The tokens that spell a phrase, and the expressions that they spell. -/
inductive Derives : Phrase → List Token → List Node → Prop
  | noItems : Derives .items [] []
  | items {ts : List Token} {es : List Node} : Derives .series ts es → Derives .items ts es
  | trailing {ts : List Token} {es : List Node} : Derives .series ts es →
      Derives .items (ts ++ [.comma]) es
  | single {ts : List Token} {e : Node} : Derives .expression ts [e] → Derives .series ts [e]
  | more {ts ts' : List Token} {e : Node} {es : List Node} : Derives .expression ts [e] →
      Derives .series ts' es → Derives .series (ts ++ .comma :: ts') (e :: es)
  | binary {level : Nat} {op : Operator} {ts ts' : List Token} {e e' : Node} :
      op ∈ Operator.atLevel level → Derives (.level level) ts [e] →
      Derives (.level (level + 1)) ts' [e'] →
      Derives (.level level) (ts ++ .operator op :: ts') [.binary default op e e']
  | next {level : Nat} {ts : List Token} {e : Node} : level < 6 →
      Derives (.level (level + 1)) ts [e] → Derives (.level level) ts [e]
  | unmixed {ts : List Token} {e : Node} : Derives .signed ts [e] → Derives (.level 6) ts [e]
  | sign {op : Operator} {ts : List Token} {e : Node} : op ∈ [.not, .minus] →
      Derives .signed ts [e] → Derives .signed (.operator op :: ts) [.signed default op e]
  | unsigned {ts : List Token} {e : Node} : Derives .operand ts [e] → Derives .signed ts [e]
  | int (value : Int64) : Derives .operand [.int value] [.literal default (.int value)]
  | double (value : Float) : Derives .operand [.double value] [.literal default (.double value)]
  | text (content : String) : Derives .operand [.text content] [.literal default (.text content)]
  | truth (value : Bool) : Derives .operand [.truth value] [.literal default (.truth value)]
  | path {keys : List String} : keys ≠ [] →
      Derives .operand (dottedTokens keys) [.path default keys]
  | call {name : String} {ts : List Token} {es : List Node} : name ≠ "import" →
      Derives .items ts es →
      Derives .operand (.name name :: .opening :: ts ++ [.closing]) [.tag default name es none]
  | imported {ts : List Token} {text : String} :
      Derives .items ts [.literal default (.text text)] →
      Derives .operand (.name "import" :: .opening :: ts ++ [.closing]) [.imported default text]
  | group {ts : List Token} {e : Node} : Derives .expression ts [e] →
      Derives .operand (.opening :: ts ++ [.closing]) [e]

/-- The tokens of a path, one key after the other. -/
theorem dottedTokens_cons (key : String) (keys : List String) :
    dottedTokens (key :: keys) =
      .name key :: keys.flatMap fun key => [Token.dot, Token.name key] := by
  induction keys generalizing key with
  | nil => rfl
  | cons second keys ih =>
    rw [List.flatMap_cons, List.cons_append, List.cons_append, List.nil_append, ← ih second]
    rfl

theorem dottedTokens_concat {keys : List String} (hkeys : keys ≠ []) (key : String) :
    dottedTokens (keys ++ [key]) = dottedTokens keys ++ [.dot, .name key] := by
  cases keys with
  | nil => exact absurd rfl hkeys
  | cons first keys => simp [dottedTokens_cons]

/-- An expression of a level is one of every level before it. -/
theorem Derives.weaken {level level' : Nat} (h : level ≤ level') (hlevel : level' ≤ 6)
    {ts : List Token} {e : Node} (hderives : Derives (.level level') ts [e]) :
    Derives (.level level) ts [e] := by
  induction h with
  | refl => exact hderives
  | step _ ih => exact ih (by omega) (.next (by omega) hderives)

end Stencil
