/-
The tag `contains` and the operator `==`.

* **`same_iff_looselyEqual`** — two values are the same if they are equal for the operator,
  and not an integer and a double;
* **`contains_iff_equates`** — the tag finds an item in an array if some item of it is equal
  for the operator, and not as an integer to a double or the other way round.

## Design notes

What an operator gives depends on the values of its operands alone, whatever the nodes are
that stand for these and the scopes in which they do.  So `Equates` is about all nodes that
stand for two values.  There are such nodes for any values: two variables.
-/
import Stencil.Render
import Stencil.Tag.Builtin

namespace Stencil

/-! ### Two equalities -/

/-- One of two values is an integer and the other one a double. -/
inductive Mixed : Value → Value → Prop
  | intDouble (n : Int64) (x : Float) : Mixed (.int n) (.double x)
  | doubleInt (x : Float) (n : Int64) : Mixed (.double x) (.int n)

theorem Mixed.same_eq {x v : Value} (h : Mixed x v) : x.same v = false := by
  cases h <;> rfl

/-- The operator converts nothing but an integer or a double next to the other. -/
theorem looselyEqual_eq_same {x v : Value} (h : ¬ Mixed x v) : looselyEqual x v = x.same v := by
  unfold looselyEqual
  cases hnumbers : numbers? x v with
  | none => rfl
  | some numbers =>
    unfold numbers? at hnumbers
    split at hnumbers
    · cases hnumbers
      rfl
    · exact absurd (.intDouble ..) h
    · exact absurd (.doubleInt ..) h
    · cases hnumbers
      rfl
    · cases hnumbers

/-- Two values are the same if they are equal for the operator without a conversion. -/
theorem same_iff_looselyEqual {x v : Value} : x.same v ↔ ¬ Mixed x v ∧ looselyEqual x v := by
  constructor
  · intro hsame
    have hmixed : ¬ Mixed x v := fun hmixed => by
      rw [hmixed.same_eq] at hsame
      cases hsame
    exact ⟨hmixed, (looselyEqual_eq_same hmixed).trans hsame⟩
  · rintro ⟨hmixed, hequal⟩
    exact (looselyEqual_eq_same hmixed).symm.trans hequal

/-! ### Nodes that stand for values -/

section

variable (setting : Setting) (stored : Stores)

/-- A node stands for a value. -/
def StandsFor (scopes : Scopes) (node : Node) (value : Value) : Prop :=
  ∃ found, rendition setting stored scopes node = .ok found ∧ found.toValue = value

/-- The operator `==` holds between two values, whatever nodes stand for them. -/
def Equates (x v : Value) : Prop :=
  ∀ (span : Span) (scopes : Scopes) (left right : Node), StandsFor setting stored scopes left x →
    StandsFor setting stored scopes right v →
      rendition setting stored scopes (.binary span .equal left right) =
        .ok (.value (.bool true))

end

variable {setting : Setting} {stored : Stores} {scopes : Scopes}

theorem rendition_equal {left right : Node} {x v : Value}
    (hleft : StandsFor setting stored scopes left x)
    (hright : StandsFor setting stored scopes right v) (span : Span) :
    rendition setting stored scopes (.binary span .equal left right) =
      .ok (.value (.bool (looselyEqual x v))) := by
  obtain ⟨found, hfound, rfl⟩ := hleft
  obtain ⟨found', hfound', rfl⟩ := hright
  rw [rendition, hfound, hfound']
  rfl

/-- A variable of the innermost loop stands for what it is bound to. -/
theorem standsFor_path {name : String} {value : Value} {bindings : Bindings}
    (h : Keyed.find? name bindings = some value) (span : Span) :
    StandsFor setting stored (bindings :: scopes) (.path span [name]) value := by
  refine ⟨.value value, ?_, rfl⟩
  rw [rendition, lookupPath, Scopes.find?, h]
  rfl

theorem equates_iff {x v : Value} : Equates setting stored x v ↔ looselyEqual x v := by
  constructor
  · intro h
    let bindings : Bindings := [("x", x), ("v", v)]
    have hx : StandsFor setting stored [bindings] (.path default ["x"]) x :=
      standsFor_path rfl default
    have hv : StandsFor setting stored [bindings] (.path default ["v"]) v :=
      standsFor_path rfl default
    have hequal := (rendition_equal hx hv default).symm.trans (h default _ _ _ hx hv)
    exact Value.bool.inj (Rendition.value.inj (Except.ok.inj hequal))
  · intro h span scopes left right hleft hright
    rw [rendition_equal hleft hright, h]

/-- A call of `contains` looks for the item by the equality of values. -/
theorem rendition_contains {list item : Node} {xs : List Value} {v : Value}
    (htag : setting.tags.find? "contains" = some Builtin.contains)
    (hlist : StandsFor setting stored scopes list (.array xs))
    (hitem : StandsFor setting stored scopes item v) (span : Span) :
    rendition setting stored scopes (.tag span "contains" [list, item] none) =
      .ok (.value (.bool (xs.any fun x => x.same v))) := by
  obtain ⟨found, hfound, hxs⟩ := hlist
  obtain ⟨found', hfound', rfl⟩ := hitem
  have hvalues : valuesOf setting stored scopes [list, item] =
      .ok [.array xs, found'.toValue] := by
    rw [valuesOf, valuesOf, valuesOf, hfound, hfound', ← hxs]
    rfl
  have hname : "contains" ≠ "" := by decide
  rw [rendition, if_neg hname, htag]
  · dsimp only
    rw [hvalues]
    rfl
  · exact nofun

/-- **The tag `contains` agrees with the operator `==`, but for integers and doubles.**  A call
on an array gives a truth value, and this is true if and only if some item of the array makes
`==` true and is not an integer next to a double or a double next to an integer. -/
theorem contains_iff_equates {list item : Node} {xs : List Value} {v : Value}
    (htag : setting.tags.find? "contains" = some Builtin.contains)
    (hlist : StandsFor setting stored scopes list (.array xs))
    (hitem : StandsFor setting stored scopes item v) (span : Span) :
    ∃ holds : Bool,
      rendition setting stored scopes (.tag span "contains" [list, item] none) =
        .ok (.value (.bool holds)) ∧
      (holds ↔ ∃ x ∈ xs, Equates setting stored x v ∧ ¬ Mixed x v) := by
  refine ⟨_, rendition_contains htag hlist hitem span, ?_⟩
  rw [List.any_eq_true]
  refine exists_congr fun x => and_congr_right fun _ => ?_
  rw [same_iff_looselyEqual, equates_iff, and_comm]

/-- A list that is looked for among others. -/
theorem contains_iff_equates_nested :
    let part : Value := .array [.int 1, .null]
    let bindings : Bindings := [("xs", .array [.int 1, part]), ("v", part)]
    let setting : Setting := ⟨Builtin.registry, fun _ _ => .ok "", .dictionary [], .empty⟩
    let stored := renderWithin setting 0
    let list : Node := .path default ["xs"]
    let item : Node := .path default ["v"]
    setting.tags.find? "contains" = some Builtin.contains ∧
      StandsFor setting stored [bindings] list (.array [.int 1, part]) ∧
      StandsFor setting stored [bindings] item part ∧
      rendition setting stored [bindings] (.tag default "contains" [list, item] none) =
        .ok (.value (.bool true)) ∧
      ∃ x ∈ [.int 1, part], Equates setting stored x part ∧ ¬ Mixed x part := by
  intro part bindings setting stored list item
  have htag : setting.tags.find? "contains" = some Builtin.contains := rfl
  have hlist : StandsFor setting stored [bindings] list (.array [.int 1, part]) :=
    standsFor_path rfl default
  have hitem : StandsFor setting stored [bindings] item part := standsFor_path rfl default
  have hcall : rendition setting stored [bindings] (.tag default "contains" [list, item] none) =
      .ok (.value (.bool true)) := rendition_contains htag hlist hitem default
  obtain ⟨holds, hholds, hiff⟩ := contains_iff_equates htag hlist hitem default
  have htrue : holds = true :=
    Value.bool.inj (Rendition.value.inj (Except.ok.inj (hholds.symm.trans hcall)))
  exact ⟨htag, hlist, hitem, hcall, hiff.1 htrue⟩

/-- The double 1 is not found next to the integer 1, although `==` makes them equal. -/
theorem contains_not_converted :
    let bindings : Bindings := [("xs", .array [.int 1]), ("v", .double 1.0)]
    let setting : Setting := ⟨Builtin.registry, fun _ _ => .ok "", .dictionary [], .empty⟩
    let stored := renderWithin setting 0
    let list : Node := .path default ["xs"]
    let item : Node := .path default ["v"]
    StandsFor setting stored [bindings] list (.array [.int 1]) ∧
      StandsFor setting stored [bindings] item (.double 1.0) ∧
      rendition setting stored [bindings] (.tag default "contains" [list, item] none) =
        .ok (.value (.bool false)) ∧
      Equates setting stored (.int 1) (.double 1.0) := by
  intro bindings setting stored list item
  have hlist : StandsFor setting stored [bindings] list (.array [.int 1]) :=
    standsFor_path rfl default
  have hitem : StandsFor setting stored [bindings] item (.double 1.0) := standsFor_path rfl default
  refine ⟨hlist, hitem, rendition_contains rfl hlist hitem default, equates_iff.2 ?_⟩
  show (Double.ofInt64 1 == (1.0 : Float)) = true
  decide +kernel

end Stencil
