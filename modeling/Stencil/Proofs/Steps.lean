/-
What a reader of parameters can do with a token.

* **`Reader.Holds`** — the list that the tokens in a pair of parentheses may be;
* **`Reader.Step`** — all that one more token can do, one rule for each way;
* **`Reader.step_cases`** — `Reader.step` does nothing else.

## Design notes

The functions of a reader ask what the last tokens were before they look at the
next one, so an operand is looked at twice, as a path and as anything else.  The
rules here ask for a complete operand (`Reader.operand?`), whatever it is.
-/
import Stencil.Parameters.Reader

namespace Stencil

/-- The constant that a token spells. -/
def Token.constant? : Token → Option Literal
  | .int value => some (.int value)
  | .double value => some (.double value)
  | .text content => some (.text content)
  | .truth value => some (.truth value)
  | _ => none

namespace Reader

variable {source : Source} {reader next : Reader} {lexeme : Lexeme}

/-- The items between two parentheses, if the closing one comes now. -/
inductive Holds (source : Source) (reader : Reader) : List Node → Prop
  /-- The last operand ends the last item. -/
  | operand {node : Node} : reader.operand? source = some node →
      Holds source reader (reader.layer.endItem source node).items.reverse
  /-- Nothing stands behind the last comma or the opening parenthesis. -/
  | atItem : reader.progress = .wanting → reader.layer.atItem →
      Holds source reader reader.layer.items.reverse

/-- What becomes of a reader when it reads a token. -/
inductive Step (source : Source) (reader : Reader) (lexeme : Lexeme) : Reader → Prop
  | constant {value : Literal} : reader.progress = .wanting →
      lexeme.token.constant? = some value →
      Step source reader lexeme { reader with
        progress := .operand (.literal (source.span lexeme.start lexeme.stop) value) }
  | name {name : String} : reader.progress = .wanting → lexeme.token = .name name →
      Step source reader lexeme { reader with
        progress := .path [name] lexeme.start lexeme.stop }
  | group : reader.progress = .wanting → lexeme.token = .opening →
      Step source reader lexeme (reader.enter .group)
  | sign {op : Operator} : reader.progress = .wanting → lexeme.token = .operator op → op.isSign →
      Step source reader lexeme { reader with
        layer := { reader.layer with signs := (op, lexeme.start) :: reader.layer.signs } }
  | dot {keys : List String} {start stop : Nat} : reader.progress = .path keys start stop →
      lexeme.token = .dot →
      Step source reader lexeme { reader with progress := .dotted keys start }
  | member {keys : List String} {start : Nat} {name : String} :
      reader.progress = .dotted keys start → lexeme.token = .name name →
      Step source reader lexeme { reader with
        progress := .path (keys ++ [name]) start lexeme.stop }
  | call {name : String} {start stop : Nat} : reader.progress = .path [name] start stop →
      lexeme.token = .opening → Step source reader lexeme (reader.enter (.call name start))
  | infixOp {node : Node} {op : Operator} : reader.operand? source = some node →
      lexeme.token = .operator op → 0 < op.strength →
      Step source reader lexeme ⟨.wanting, reader.layer.infixOp source node op, reader.outer⟩
  | comma {node : Node} : reader.operand? source = some node → lexeme.token = .comma →
      reader.layer.surrounding.takesItems →
      Step source reader lexeme ⟨.wanting, reader.layer.endItem source node, reader.outer⟩
  | closeGroup {node : Node} {parent : Layer} {outer : List Layer} :
      reader.operand? source = some node → lexeme.token = .closing →
      reader.layer.surrounding = .group → reader.outer = parent :: outer →
      Step source reader lexeme ⟨.operand (reader.layer.complete source node),
        { parent with fault := parent.fault.or reader.layer.fault }, outer⟩
  | closeCall {items : List Node} {name : String} {start : Nat} {parent : Layer}
      {outer : List Layer} : Holds source reader items → lexeme.token = .closing →
      reader.layer.surrounding = .call name start → reader.outer = parent :: outer →
      Step source reader lexeme
        ⟨.operand (callNode (source.span start lexeme.stop) name items).1,
          { parent with
            fault := parent.fault.or
              (reader.layer.fault.or (callNode (source.span start lexeme.stop) name items).2) },
          outer⟩

theorem Holds.step_closeCall {items : List Node} (h : reader.Holds source items)
    (htoken : lexeme.token = .closing)
    (hclose : reader.closeCall source items lexeme.stop = some next) :
    reader.Step source lexeme next := by
  unfold Reader.closeCall at hclose
  split at hclose
  · rename_i hsurrounding houter
    cases hclose
    exact .closeCall h htoken hsurrounding houter
  · cases hclose

theorem step_proceed {node : Node} (hnode : reader.operand? source = some node)
    (hstep : reader.proceed source node lexeme = some next) : reader.Step source lexeme next := by
  unfold proceed at hstep
  split at hstep
  · rename_i op htoken
    obtain ⟨hop, hnext⟩ := Option.ite_none_right_eq_some.1 hstep
    cases hnext
    exact .infixOp hnode htoken hop
  · rename_i htoken
    obtain ⟨hitems, hnext⟩ := Option.ite_none_right_eq_some.1 hstep
    cases hnext
    exact .comma hnode htoken hitems
  · rename_i htoken
    unfold close at hstep
    split at hstep
    · rename_i hsurrounding houter
      cases hstep
      exact .closeGroup hnode htoken hsurrounding houter
    · exact (Holds.operand hnode).step_closeCall htoken hstep
    · cases hstep
  · cases hstep

theorem step_begin (hwanting : reader.progress = .wanting)
    (hstep : reader.begin source lexeme = some next) : reader.Step source lexeme next := by
  unfold begin at hstep
  dsimp only at hstep
  split at hstep
  case h_5 name htoken =>
    cases hstep
    exact .name hwanting htoken
  case h_6 htoken =>
    cases hstep
    exact .group hwanting htoken
  case h_7 op htoken =>
    obtain ⟨hop, hnext⟩ := Option.ite_none_right_eq_some.1 hstep
    cases hnext
    exact .sign hwanting htoken hop
  case h_8 htoken =>
    obtain ⟨hatItem, hnext⟩ := Option.ite_none_right_eq_some.1 hstep
    exact (Holds.atItem hwanting hatItem).step_closeCall htoken hnext
  case h_9 => cases hstep
  all_goals
    rename_i htoken
    cases hstep
    exact .constant hwanting (by rw [htoken]; rfl)

/-- **A reader reads a token by one of the rules.** -/
theorem step_cases (hstep : reader.step source lexeme = some next) :
    reader.Step source lexeme next := by
  unfold step at hstep
  split at hstep
  · exact step_begin ‹_› hstep
  · rename_i hprogress
    split at hstep
    · rename_i htoken
      cases hstep
      exact .member hprogress htoken
    · cases hstep
  · rename_i hprogress
    split at hstep
    · rename_i htoken
      cases hstep
      exact .dot hprogress htoken
    · rename_i htoken
      cases hstep
      exact .call hprogress htoken
    · exact step_proceed (by rw [operand?, hprogress]) hstep
  · rename_i hprogress
    exact step_proceed (by rw [operand?, hprogress]) hstep

/-- What a reader holds where it may stop. -/
theorem holds_of_items? {items : List Node} (h : reader.items? source = some items) :
    reader.outer = [] ∧ reader.Holds source items := by
  unfold items? at h
  split at h
  · cases h
    exact ⟨‹_›, .operand ‹_›⟩
  · obtain ⟨hitems, hnext⟩ := Option.ite_none_right_eq_some.1 h
    cases hnext
    exact ⟨‹_›, .atItem ‹_› (Bool.and_eq_true_iff.1 hitems).2⟩
  · cases h

end Reader

end Stencil
