/-
Nodes without their places.

`Node.bare` takes the spans out of a node and of all that stands in it, so that
two nodes are the same but for their places if their bare nodes are equal.  What
kind of node a bare node belongs to can be told from it, and which nodes stand
in that one (`Node.eq_binary_of_bare` and the like).
-/
import Stencil.Node

namespace Stencil.Node

mutual

/-- A node without its places. -/
def bare : Node → Node
  | raw _ text => .raw default text
  | tag _ name parameters none => .tag default name (bareAll parameters) none
  | tag _ name parameters (some body) =>
    .tag default name (bareAll parameters) (some (bareAll body))
  | embed _ target => .embed default target.bare
  | imported _ name => .imported default name
  | .extend _ name exports => .extend default name (bareExports exports)
  | conditional _ branches => .conditional default (bareBranches branches)
  | path _ keys => .path default keys
  | literal _ value => .literal default value
  | joined _ parts => .joined default (bareAll parts)
  | loop _ key data body => .loop default key.bare data.bare (bareAll body)
  | binary _ op left right => .binary default op left.bare right.bare
  | signed _ op operand => .signed default op operand.bare
  | suffixed _ op operand => .suffixed default op operand.bare
  | host _ node => .host default node

/-- `bare` for the nodes of a sequence. -/
def bareAll : List Node → List Node
  | [] => []
  | node :: nodes => node.bare :: bareAll nodes

/-- `bare` for the branches of a chain. -/
def bareBranches : List (Node × List Node) → List (Node × List Node)
  | [] => []
  | (condition, body) :: branches => (condition.bare, bareAll body) :: bareBranches branches

/-- `bare` for the values of exports. -/
def bareExports : List (String × List Node) → List (String × List Node)
  | [] => []
  | (name, value) :: exports => (name, bareAll value) :: bareExports exports

end

@[simp] theorem bareAll_eq_map (nodes : List Node) : bareAll nodes = nodes.map bare := by
  induction nodes with
  | nil => rfl
  | cons node nodes ih => rw [bareAll, ih, List.map_cons]

@[simp] theorem bareBranches_eq_map (branches : List (Node × List Node)) :
    bareBranches branches = branches.map fun branch => (branch.1.bare, branch.2.map bare) := by
  induction branches with
  | nil => rfl
  | cons branch branches ih =>
    obtain ⟨condition, body⟩ := branch
    rw [bareBranches, ih, List.map_cons, bareAll_eq_map]

@[simp] theorem bareExports_eq_map (exports : List (String × List Node)) :
    bareExports exports = exports.map fun entry => (entry.1, entry.2.map bare) := by
  induction exports with
  | nil => rfl
  | cons entry exports ih =>
    obtain ⟨name, value⟩ := entry
    rw [bareExports, ih, List.map_cons, bareAll_eq_map]

theorem bare_tag (span : Span) (name : String) (parameters : List Node)
    (body : Option (List Node)) :
    (tag span name parameters body).bare =
      .tag default name (parameters.map bare) (body.map (List.map bare)) := by
  cases body <;> simp [bare]

/-! ### The node of a bare node -/

variable {node : Node} {span : Span}

theorem eq_raw_of_bare {text : String} (h : node.bare = .raw span text) :
    ∃ span', node = .raw span' text := by
  cases node with
  | tag span' name parameters body => cases body <;> cases h
  | raw span' text' =>
    cases h
    exact ⟨span', rfl⟩
  | _ => cases h

theorem eq_literal_of_bare {value : Literal} (h : node.bare = .literal span value) :
    ∃ span', node = .literal span' value := by
  cases node with
  | tag span' name parameters body => cases body <;> cases h
  | literal span' value' =>
    cases h
    exact ⟨span', rfl⟩
  | _ => cases h

theorem eq_path_of_bare {keys : List String} (h : node.bare = .path span keys) :
    ∃ span', node = .path span' keys := by
  cases node with
  | tag span' name parameters body => cases body <;> cases h
  | path span' keys' =>
    cases h
    exact ⟨span', rfl⟩
  | _ => cases h

theorem eq_signed_of_bare {op : Operator} {operand : Node}
    (h : node.bare = .signed span op operand) :
    ∃ span' operand', node = .signed span' op operand' ∧ operand'.bare = operand := by
  cases node with
  | tag span' name parameters body => cases body <;> cases h
  | signed span' op' operand' =>
    cases h
    exact ⟨span', operand', rfl, rfl⟩
  | _ => cases h

theorem eq_binary_of_bare {op : Operator} {left right : Node}
    (h : node.bare = .binary span op left right) :
    ∃ span' left' right', node = .binary span' op left' right' ∧ left'.bare = left ∧
      right'.bare = right := by
  cases node with
  | tag span' name parameters body => cases body <;> cases h
  | binary span' op' left' right' =>
    cases h
    exact ⟨span', left', right', rfl, rfl, rfl⟩
  | _ => cases h

end Stencil.Node
