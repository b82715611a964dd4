/-
What rendering can come across.

With the tags that are always there, rendering makes scalars only, and all else that it
comes across is in the context.  So there are finitely many variables that loops can bind,
and finitely many sequences of nodes that can be put out.

* **`Setting.survey`** — what values nodes can have and what loops can bind;
* **`Setting.survey_holds`** — nothing else comes up;
* **`Setting.finite_binds`**, **`Setting.finite_sequences`** — and it is finite.

## Design notes

A value that an expression makes is a scalar, and of scalars there are too many.  But no
loop goes through a scalar: it binds items of the context, their keys, numbers and truth
values.
-/
import Mathlib.Data.Finite.Prod
import Mathlib.Data.Set.Finite.Lattice
import Mathlib.Data.Set.Finite.Range
import Stencil.Proofs.Calls
import Stencil.Proofs.SortedData

namespace Stencil

/-! ### Parts of values and of nodes -/

/-- What is within something is finite if this holds of its parts. -/
theorem finite_of_parts {α : Type} {within : Set α} (top : α) {parts : List α}
    {inside : α → Set α} (hparts : ∀ part ∈ parts, (inside part).Finite)
    (h : ∀ inner ∈ within, inner = top ∨ ∃ part ∈ parts, inner ∈ inside part) :
    within.Finite := by
  have hunion : (⋃ part ∈ {part | part ∈ parts}, inside part).Finite :=
    parts.finite_toSet.biUnion hparts
  refine (hunion.insert top).subset fun inner hinner => ?_
  rcases h inner hinner with rfl | ⟨part, hpart, hinside⟩
  · exact Set.mem_insert _ _
  · exact Set.mem_insert_of_mem _ (Set.mem_biUnion hpart hinside)

namespace Value

/-- The values that a value is directly made of. -/
def parts : Value → List Value
  | array items => items
  | dictionary entries => entries.map Prod.snd
  | _ => []

theorem sizeOf_lt_of_mem_parts {part value : Value} (h : part ∈ value.parts) :
    sizeOf part < sizeOf value := by
  cases value with
  | array items =>
    have hlt := List.sizeOf_lt_of_mem (show part ∈ items from h)
    simp only [array.sizeOf_spec]
    omega
  | dictionary entries =>
    obtain ⟨entry, hentry, rfl⟩ := List.mem_map.1 h
    have hlt := List.sizeOf_lt_of_mem hentry
    have hsize : sizeOf entry = 1 + sizeOf entry.1 + sizeOf entry.2 := rfl
    simp only [dictionary.sizeOf_spec]
    omega
  | _ => cases h

theorem Occurs.trans {part middle whole : Value} (h : Occurs part middle)
    (h' : Occurs middle whole) : Occurs part whole := by
  induction h' with
  | self => exact h
  | item hitem _ ih => exact .item hitem ih
  | entry hentry _ ih => exact .entry hentry ih

/-- A value has finitely many parts. -/
theorem finite_occurs (value : Value) : {part | Occurs part value}.Finite := by
  have hparts : ∀ part ∈ value.parts, {inner | Occurs inner part}.Finite := fun part hpart =>
    have := sizeOf_lt_of_mem_parts hpart
    finite_occurs part
  refine finite_of_parts value hparts fun inner hinner => ?_
  cases hinner with
  | self => exact .inl rfl
  | item hitem hinner => exact .inr ⟨_, hitem, hinner⟩
  | entry hentry hinner => exact .inr ⟨_, List.mem_map_of_mem hentry, hinner⟩
termination_by sizeOf value

theorem lookup_of_isScalar {value found : Value} (h : value.isScalar) {keys : List String}
    (hfound : value.lookup keys = some found) : found = value := by
  cases keys with
  | nil => exact (Option.some.inj hfound).symm
  | cons key keys =>
    cases value with
    | dictionary => cases h
    | _ => cases hfound

end Value

/-- Finitely many nodes occur in a node. -/
theorem Node.finite_occurs (top : Node) : {node | Node.Occurs node top}.Finite := by
  induction top using Node.children_induction with
  | h top ih =>
    refine finite_of_parts top ih fun node hnode => ?_
    cases hnode with
    | self => exact .inl rfl
    | within hchild hnode => exact .inr ⟨_, hchild, hnode⟩

/-! ### The survey of a setting -/

namespace Setting

variable (setting : Setting) (nodes : List Node)

/-- The sequences that are put out: that of the template and those that the context holds. -/
def Sequences : Set (List Node) :=
  {sequence | sequence = nodes ∨ Value.Occurs (.nodes sequence) setting.context}

/-- The names that loops in these sequences give to their items. -/
def Named (name : String) : Prop :=
  ∃ sequence ∈ setting.Sequences nodes, ∃ node,
    Node.OccursIn node sequence ∧ node.itemName? = some name

/-- What loops in these sequences can bind. -/
inductive Binds : String → Value → Prop
  | item {name : String} {value : Value} : setting.Named nodes name →
      Value.Occurs value setting.context → Binds name value
  | index (n : Int64) : Binds "index" (.int n)
  | isFirst (truth : Bool) : Binds "isFirst" (.bool truth)
  | isLast (truth : Bool) : Binds "isLast" (.bool truth)
  | key {entries : List (String × Value)} {key : String} {value : Value} :
      Value.Occurs (.dictionary entries) setting.context → (key, value) ∈ entries →
      Binds "key" (.string key)

/-- The values that nodes have are scalars and what is in the context. -/
def survey : Survey where
  given value := value.isScalar ∨ Value.Occurs value setting.context
  bound := setting.Binds nodes
  named := setting.Named nodes

variable {setting nodes}

/-- The items of a loop are in the context, and so are their keys. -/
theorem occurs_of_loopItems {span : Span} {data : Value}
    (hdata : (setting.survey nodes).given data) {items : List (Option String × Value)}
    (hitems : loopItems span data = .ok items) {key : Option String} {item : Value}
    (hitem : (key, item) ∈ items) :
    Value.Occurs item setting.context ∧
      ∀ name, key = some name → setting.Binds nodes "key" (.string name) := by
  unfold loopItems at hitems
  split at hitems
  · rename_i values
    cases hitems
    obtain ⟨value, hvalue, heq⟩ := List.mem_map.1 hitem
    cases heq
    have hcontext := hdata.resolve_left Bool.false_ne_true
    exact ⟨(Value.Occurs.item hvalue .self).trans hcontext, by rintro name ⟨⟩⟩
  · rename_i entries
    cases hitems
    obtain ⟨⟨name, value⟩, hentry, heq⟩ := List.mem_map.1 hitem
    cases heq
    have hcontext := hdata.resolve_left Bool.false_ne_true
    refine ⟨(Value.Occurs.entry hentry .self).trans hcontext, ?_⟩
    rintro _ ⟨⟩
    exact .key hcontext hentry
  · cases hitems
    cases hitem
  · cases hitems

/-- What a loop binds in its rounds. -/
theorem binds_of_loopRounds {name : String} (hname : setting.Named nodes name) {span : Span}
    {data : Value} (hdata : (setting.survey nodes).given data)
    {items : List (Option String × Value)} (hitems : loopItems span data = .ok items) :
    ∀ bindings ∈ loopRounds name items, ∀ entry ∈ bindings,
      setting.Binds nodes entry.1 entry.2 := by
  intro bindings hbindings entry hentry
  obtain ⟨index, hlt, rfl⟩ := List.mem_mapIdx.1 hbindings
  obtain ⟨hitem, hkey⟩ := occurs_of_loopItems hdata hitems (List.getElem_mem hlt)
  -- The item and where it is in the loop, and in a dictionary its key.
  rcases List.mem_append.1 hentry with hentry | hentry
  · simp only [List.mem_cons, List.not_mem_nil, or_false] at hentry
    rcases hentry with rfl | rfl | rfl | rfl
    · exact .item hname hitem
    · exact .index _
    · exact .isFirst _
    · exact .isLast _
  · split at hentry
    · rename_i key hsome
      rw [List.mem_singleton.1 hentry]
      exact hkey key hsome
    · cases hentry

/-- **Nothing else comes up.** -/
theorem survey_holds (htags : setting.tags = Builtin.registry) :
    (setting.survey nodes).Holds setting where
  scalar value h := .inl h
  context keys found h := .inr (Value.Occurs.of_lookup h .self)
  lookup name value keys found hbound hfound := by
    have hscalar (h : value.isScalar) : found.isScalar :=
      (Value.lookup_of_isScalar h hfound).symm ▸ h
    cases hbound with
    | item _ hvalue => exact .inr ((Value.Occurs.of_lookup hfound .self).trans hvalue)
    | index | isFirst | isLast | key => exact .inl (hscalar rfl)
  answer name handler call value hhandler hanswer := by
    -- Here it counts which tags there are: others could answer with nodes of their own.
    rw [htags] at hhandler
    exact .inl (Builtin.answersScalar hhandler call value hanswer)
  round name span data items hname hdata hitems := binds_of_loopRounds hname hdata hitems

/-- The loops in the sequences give their items names that are known. -/
theorem survey_names {sequence : List Node} (h : sequence ∈ setting.Sequences nodes) :
    ∀ node ∈ sequence, (setting.survey nodes).Names node := by
  intro node hnode inner hinner name hname
  exact ⟨sequence, h, inner, ⟨node, hnode, hinner⟩, hname⟩

/-! ### Finitely many -/

theorem finite_sequences : (setting.Sequences nodes).Finite := by
  have hstored : (Set.preimage Value.nodes {part | Value.Occurs part setting.context}).Finite :=
    setting.context.finite_occurs.preimage fun _ _ _ _ h => Value.nodes.inj h
  refine (hstored.insert nodes).subset ?_
  rintro sequence (rfl | hoccurs)
  · exact Set.mem_insert _ _
  · exact Set.mem_insert_of_mem _ hoccurs

theorem finite_named : {name | setting.Named nodes name}.Finite := by
  have hnodes : (⋃ sequence ∈ setting.Sequences nodes, ⋃ top ∈ {top | top ∈ sequence},
      {node | Node.Occurs node top}).Finite :=
    finite_sequences.biUnion fun sequence _ =>
      sequence.finite_toSet.biUnion fun top _ => top.finite_occurs
  refine ((hnodes.image Node.itemName?).preimage (Option.some_injective _).injOn).subset ?_
  rintro name ⟨sequence, hsequence, node, ⟨top, htop, hnode⟩, hname⟩
  exact ⟨node, Set.mem_biUnion hsequence (Set.mem_biUnion htop hnode), hname⟩

instance : Finite Int64 :=
  Finite.of_injective (fun n : Int64 => n.toBitVec.toFin) fun _ _ h =>
    Int64.toBitVec_inj.1 (BitVec.toFin_inj.1 h)

/-- The keys of a value, as loops bind them. -/
def boundKeys (value : Value) : List (String × Value) :=
  match value with
  | .dictionary entries => entries.map fun entry => ("key", .string entry.1)
  | _ => []

/-- **Loops can bind finitely many variables.** -/
theorem finite_binds : {entry : String × Value | setting.Binds nodes entry.1 entry.2}.Finite := by
  have hparts := setting.context.finite_occurs
  have hitems := (@finite_named setting nodes).prod hparts
  have hkeys : (⋃ part ∈ {part | Value.Occurs part setting.context},
      {entry | entry ∈ boundKeys part}).Finite :=
    hparts.biUnion fun part _ => (boundKeys part).finite_toSet
  -- Numbers are bounded, so there are finitely many positions.
  have hindex := Set.finite_range fun n : Int64 => ("index", Value.int n)
  have hfirst := Set.finite_range fun truth : Bool => ("isFirst", Value.bool truth)
  have hlast := Set.finite_range fun truth : Bool => ("isLast", Value.bool truth)
  refine (hitems.union (hkeys.union (hindex.union (hfirst.union hlast)))).subset ?_
  rintro ⟨name, value⟩ hbinds
  cases hbinds with
  | item hname hvalue => exact .inl ⟨hname, hvalue⟩
  | key hcontext hentry =>
    refine .inr (.inl (Set.mem_biUnion hcontext ?_))
    exact List.mem_map.2 ⟨_, hentry, rfl⟩
  | index n => exact .inr (.inr (.inl ⟨n, rfl⟩))
  | isFirst truth => exact .inr (.inr (.inr (.inl ⟨truth, rfl⟩)))
  | isLast truth => exact .inr (.inr (.inr (.inr ⟨truth, rfl⟩)))

end Setting

end Stencil
