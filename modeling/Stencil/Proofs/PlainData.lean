/-
Plain data.

Besides data a value can hold nodes, which are put out by rendering them.  A value
is plain if it holds none, at any depth.  Whatever templates do with plain values
gives plain values again: what they do not find they make, and what they make is a
scalar.

* **`Value.isPlain_ofJson`** — values that are made from JSON are plain;
* **`Value.isPlain_lookup`** — and so is what look-ups find in them;
* **`isScalar_applyBinary`**, **`isScalar_applySign`**, **`Builtin.answersScalar`** —
  operators make scalars, and so do the tags that are always there.
-/
import Stencil.Proofs.Results
import Stencil.Render
import Stencil.Tag.Builtin
import Stencil.Value.Encode

namespace Stencil

namespace Value

mutual

/-- Whether a value holds no nodes, at any depth. -/
def isPlain : Value → Bool
  | nodes _ => false
  | array items => itemsPlain items
  | dictionary entries => entriesPlain entries
  | null | bool _ | int _ | double _ | string _ | bytes _ => true

/-- `isPlain` for the items of an array. -/
def itemsPlain : List Value → Bool
  | [] => true
  | item :: items => item.isPlain && itemsPlain items

/-- `isPlain` for the entries of a dictionary. -/
def entriesPlain : List (String × Value) → Bool
  | [] => true
  | (_, item) :: entries => item.isPlain && entriesPlain entries

end

/-- Whether a value has no parts. -/
def isScalar : Value → Bool
  | array _ | dictionary _ | nodes _ => false
  | null | bool _ | int _ | double _ | string _ | bytes _ => true

theorem isPlain_of_isScalar {value : Value} (h : value.isScalar) : value.isPlain := by
  cases value with
  | array | dictionary | nodes => exact absurd h Bool.false_ne_true
  | _ => rfl

theorem itemsPlain_iff (items : List Value) : itemsPlain items ↔ ∀ item ∈ items, item.isPlain := by
  induction items with
  | nil => simp [itemsPlain]
  | cons item items ih => simp [itemsPlain, ih]

theorem entriesPlain_iff (entries : List (String × Value)) :
    entriesPlain entries ↔ ∀ entry ∈ entries, entry.2.isPlain := by
  induction entries with
  | nil => simp [entriesPlain]
  | cons entry entries ih =>
    obtain ⟨key, item⟩ := entry
    simp [entriesPlain, ih]

mutual

/-- A value that is made from JSON is plain. -/
theorem isPlain_ofJson : ∀ json : Json, (ofJson json).isPlain
  | .null | .bool _ | .int _ | .double _ | .string _ => rfl
  | .array items => itemsPlain_ofJsonItems items
  | .object entries => entriesPlain_ofJsonEntries entries

theorem itemsPlain_ofJsonItems : ∀ items : List Json, itemsPlain (ofJsonItems items)
  | [] => rfl
  | item :: items => by
    have hitem := isPlain_ofJson item
    have hitems := itemsPlain_ofJsonItems items
    rw [ofJsonItems, itemsPlain, hitem, hitems, Bool.and_self]

theorem entriesPlain_ofJsonEntries :
    ∀ entries : List (String × Json), entriesPlain (ofJsonEntries entries)
  | [] => rfl
  | (key, item) :: entries => by
    have hitem := isPlain_ofJson item
    have hentries := entriesPlain_ofJsonEntries entries
    rw [ofJsonEntries, entriesPlain, hitem, hentries, Bool.and_self]

end

/-- What a path of keys leads to in a plain value is plain. -/
theorem isPlain_lookup {value found : Value} (h : value.isPlain) {keys : List String}
    (hfound : value.lookup keys = some found) : found.isPlain := by
  induction keys generalizing value with
  | nil =>
    rw [lookup] at hfound
    exact Option.some.inj hfound ▸ h
  | cons key keys ih =>
    cases value with
    | dictionary entries =>
      rw [lookup] at hfound
      split at hfound
      · rename_i inner hinner
        have hentry := (entriesPlain_iff entries).1 h (key, inner) (Keyed.mem_of_find? hinner)
        exact ih hentry hfound
      · cases hfound
    | _ => cases hfound

theorem isPlain_getD {found : Option Value} (h : ∀ value, found = some value → value.isPlain) :
    (found.getD .null).isPlain := by
  cases found with
  | none => rfl
  | some value => exact h value rfl

end Value

/-! ### Operators -/

theorem isScalar_literal (literal : Literal) : literal.toValue.isScalar := by
  cases literal <;> rfl

theorem isScalar_applyArithmetic {op : Operator} {left right value : Value}
    (h : applyArithmetic op left right = .ok value) : value.isScalar := by
  unfold applyArithmetic at h
  split at h
  · obtain ⟨n, -, rfl⟩ := except_map_eq_ok h
    rfl
  · obtain ⟨x, -, rfl⟩ := except_map_eq_ok h
    rfl
  · cases h

/-- What an infix operator gives is a scalar, whatever its operands are. -/
theorem isScalar_applyBinary {op : Operator} {left right value : Value}
    (h : applyBinary op left right = .ok value) : value.isScalar := by
  cases op with
  | equal | notEqual =>
    cases h
    rfl
  | less | lessOrEqual | greater | greaterOrEqual =>
    rw [applyBinary] at h
    split at h
    · cases h
      rfl
    · cases h
  | plus =>
    rw [applyBinary] at h
    split at h
    · cases h
      rfl
    · exact isScalar_applyArithmetic h
  | minus | multiply | divide | modulo => exact isScalar_applyArithmetic h
  | not | and | or => cases h

/-- What a sign gives is a scalar. -/
theorem isScalar_applySign {op : Operator} {operand value : Value}
    (h : applySign op operand = .ok value) : value.isScalar := by
  unfold applySign at h
  split at h
  · cases h
    rfl
  · obtain ⟨n, -, rfl⟩ := except_map_eq_ok h
    rfl
  · cases h
    rfl
  · cases h

/-! ### Variables -/

/-- The loop variables in some scopes hold plain values. -/
def Scopes.IsPlain (scopes : Scopes) : Prop :=
  ∀ bindings ∈ scopes, ∀ binding ∈ bindings, binding.2.isPlain

theorem Scopes.IsPlain.find? {scopes : Scopes} (h : scopes.IsPlain) {name : String} {value : Value}
    (hfind : scopes.find? name = some value) : value.isPlain := by
  induction scopes with
  | nil => cases hfind
  | cons bindings scopes ih =>
    obtain ⟨hbindings, hscopes⟩ := List.forall_mem_cons.1 h
    rw [Scopes.find?] at hfind
    split at hfind
    · rename_i found hfound
      cases hfind
      exact hbindings (name, value) (Keyed.mem_of_find? hfound)
    · exact ih hscopes hfind

/-- The value of a variable is plain, and null is what is not found. -/
theorem isPlain_lookupPath {scopes : Scopes} {context : Value} (hscopes : scopes.IsPlain)
    (hcontext : context.isPlain) (keys : List String) :
    (lookupPath scopes context keys).isPlain := by
  unfold lookupPath
  split
  · rfl
  · split
    · rename_i value hfind
      exact Value.isPlain_getD fun found hfound =>
        Value.isPlain_lookup (hscopes.find? hfind) hfound
    · exact Value.isPlain_getD fun found hfound => Value.isPlain_lookup hcontext hfound

/-- The items of a plain value are plain. -/
theorem isPlain_loopItems {span : Span} {value : Value} (h : value.isPlain)
    {items : List (Option String × Value)} (hitems : loopItems span value = .ok items) :
    ∀ item ∈ items, item.2.isPlain := by
  intro item hitem
  unfold loopItems at hitems
  split at hitems
  · rename_i values
    cases hitems
    obtain ⟨value, hvalue, rfl⟩ := List.mem_map.1 hitem
    exact (Value.itemsPlain_iff values).1 h value hvalue
  · rename_i entries
    cases hitems
    obtain ⟨entry, hentry, rfl⟩ := List.mem_map.1 hitem
    exact (Value.entriesPlain_iff entries).1 h entry hentry
  · cases hitems
    cases hitem
  · cases hitems

/-- A loop binds scalars besides the item. -/
theorem forall_mem_roundBindings {P : Value → Prop} (hscalar : ∀ value, value.isScalar → P value)
    {item : Value} (hitem : P item) (name : String) (count index : Nat) (key : Option String) :
    ∀ binding ∈ roundBindings name count index key item, P binding.2 := by
  intro binding hbinding
  rcases List.mem_append.1 hbinding with hbinding | hbinding
  · simp only [List.mem_cons, List.not_mem_nil, or_false] at hbinding
    rcases hbinding with rfl | rfl | rfl | rfl
    · exact hitem
    all_goals exact hscalar _ rfl
  · -- The key of an entry is a string, and an item of an array has none.
    split at hbinding
    · rw [List.mem_singleton.1 hbinding]
      exact hscalar _ rfl
    · cases hbinding

/-- What a loop over plain items binds is plain. -/
theorem isPlain_loopRounds {name : String} {items : List (Option String × Value)}
    (h : ∀ item ∈ items, item.2.isPlain) :
    ∀ bindings ∈ loopRounds name items, ∀ binding ∈ bindings, binding.2.isPlain := by
  intro bindings hbindings
  obtain ⟨index, hlt, rfl⟩ := List.mem_mapIdx.1 hbindings
  have hitem : items[index].2.isPlain := h _ (List.getElem_mem hlt)
  exact forall_mem_roundBindings (fun _ => Value.isPlain_of_isScalar) hitem _ _ _ _

/-! ### Tags -/

/-- The answers of a handler are plain if what it is asked is plain. -/
def TagHandler.KeepsPlain (handler : TagHandler) : Prop :=
  ∀ call value, (∀ parameter ∈ call.parameters, parameter.isPlain) → call.data.isPlain →
    handler.answer call = .ok value → value.isPlain

/-- A handler whose answers are scalars, whatever it is asked. -/
def TagHandler.AnswersScalar (handler : TagHandler) : Prop :=
  ∀ call value, handler.answer call = .ok value → value.isScalar

theorem TagHandler.AnswersScalar.keepsPlain {handler : TagHandler} (h : handler.AnswersScalar) :
    handler.KeepsPlain :=
  fun call value _ _ hanswer => Value.isPlain_of_isScalar (h call value hanswer)

namespace Builtin

theorem mapText_answersScalar (f : String → String) : (mapText f).AnswersScalar := by
  intro call value h
  obtain ⟨text, -, rfl⟩ := except_map_eq_ok h
  rfl

theorem contains_answersScalar : contains.AnswersScalar := by
  intro call value h
  obtain ⟨⟨collection, item⟩, -, h⟩ := except_bind_eq_ok h
  dsimp only at h
  split at h
  · cases h
    rfl
  · cases h

theorem count_answersScalar : count.AnswersScalar := by
  intro call value h
  obtain ⟨counted, -, h⟩ := except_bind_eq_ok h
  split at h
  · cases h
    rfl
  · cases h

theorem comment_answersScalar : comment.AnswersScalar := by
  intro call value h
  cases h
  rfl

/-- What holds of the tags that are always there, one by one, holds of what is found there. -/
theorem forall_registry {P : TagHandler → Prop} (hmap : ∀ f, P (mapText f)) (hcomment : P comment)
    (hcontains : P contains) (hcount : P count) {name : String} {handler : TagHandler}
    (h : registry.find? name = some handler) : P handler := by
  have hmem : (name, handler) ∈ registry.handlers := Keyed.mem_of_find? h
  simp only [registry, List.mem_cons, Prod.mk.injEq, List.not_mem_nil, or_false] at hmem
  rcases hmem with ⟨-, rfl⟩ | ⟨-, rfl⟩ | ⟨-, rfl⟩ | ⟨-, rfl⟩ | ⟨-, rfl⟩ | ⟨-, rfl⟩
  · exact hmap capitalize
  · exact hcomment
  · exact hcontains
  · exact hcount
  · exact hmap lower
  · exact hmap upper

/-- **The tags that are always there make scalars only.** -/
theorem answersScalar {name : String} {handler : TagHandler}
    (h : registry.find? name = some handler) : handler.AnswersScalar :=
  forall_registry mapText_answersScalar comment_answersScalar contains_answersScalar
    count_answersScalar h

/-- So they keep to plain values. -/
theorem keepsPlain {name : String} {handler : TagHandler}
    (h : registry.find? name = some handler) : handler.KeepsPlain :=
  (answersScalar h).keepsPlain

end Builtin

end Stencil
