/-
Sorted data.

A dictionary is kept as a list of pairs, and the keys of the list ascend.  A value is
sorted if this is so for every dictionary in it, at any depth.

* **`Keyed.Ascending.insert`** — an insertion keeps the keys in order;
* **`Value.Occurs.of_lookup`** — what a look-up finds is a part of the value;
* **`Value.HasItems.keys_lt`** — the items of a sorted value come in the order of the
  bytes of their keys.
-/
import Stencil.Proofs.ByteOrder
import Stencil.Proofs.PlainData

namespace Stencil

namespace Keyed

variable {α : Type}

/-- The keys ascend. -/
def Ascending (entries : List (String × α)) : Prop := (entries.map Prod.fst).Pairwise (· < ·)

theorem Ascending.insert {entries : List (String × α)} (h : Ascending entries) (key : String)
    (value : α) : Ascending (insert key value entries) := by
  induction entries with
  | nil => exact List.pairwise_singleton _ _
  | cons entry entries ih =>
    obtain ⟨k, v⟩ := entry
    obtain ⟨hk, hrest⟩ := List.pairwise_cons.1 h
    rw [Keyed.insert]
    by_cases heq : k = key
    · rw [if_pos heq]
      exact heq ▸ h
    · rw [if_neg heq]
      by_cases hlt : key < k
      · rw [if_pos hlt]
        refine List.pairwise_cons.2 ⟨?_, h⟩
        intro l hl
        rcases List.mem_cons.1 hl with rfl | hl
        · exact hlt
        · exact String.lt_trans hlt (hk l hl)
      · rw [if_neg hlt]
        refine List.pairwise_cons.2 ⟨?_, ih hrest⟩
        intro l hl
        obtain ⟨inner, hinner, rfl⟩ := List.mem_map.1 hl
        rcases mem_of_mem_insert hinner with rfl | hinner
        · exact Std.lt_of_le_of_ne (String.not_lt.1 hlt) heq
        · exact hk _ (List.mem_map_of_mem hinner)

instance (entries : List (String × α)) : Decidable (Ascending entries) :=
  inferInstanceAs (Decidable (List.Pairwise _ _))

end Keyed

namespace Value

/-- Whether a value is a part of another, or is that value. -/
inductive Occurs (part : Value) : Value → Prop
  | self : Occurs part part
  | item {items : List Value} {item : Value} : item ∈ items → Occurs part item →
      Occurs part (.array items)
  | entry {entries : List (String × Value)} {key : String} {item : Value} :
      (key, item) ∈ entries → Occurs part item → Occurs part (.dictionary entries)

/-- The keys of all dictionaries in a value ascend. -/
def IsSorted (value : Value) : Prop :=
  ∀ entries, Occurs (.dictionary entries) value → Keyed.Ascending entries

theorem IsSorted.of_isScalar {value : Value} (h : value.isScalar) : value.IsSorted := by
  intro entries hentries
  cases hentries with
  | self | item | entry => exact absurd h Bool.false_ne_true

theorem IsSorted.array {items : List Value} (h : ∀ item ∈ items, item.IsSorted) :
    (array items).IsSorted := by
  intro entries hentries
  cases hentries with
  | item hitem hentries => exact h _ hitem entries hentries

theorem IsSorted.dictionary {entries : List (String × Value)} (hkeys : Keyed.Ascending entries)
    (h : ∀ entry ∈ entries, entry.2.IsSorted) : (dictionary entries).IsSorted := by
  intro inner hinner
  cases hinner with
  | self => exact hkeys
  | entry hentry hinner => exact h _ hentry inner hinner

/-- What a path of keys leads to is a part. -/
theorem Occurs.of_lookup {part found value : Value} {keys : List String}
    (h : value.lookup keys = some found) (hpart : Occurs part found) : Occurs part value := by
  induction keys generalizing value with
  | nil =>
    rw [lookup] at h
    exact Option.some.inj h ▸ hpart
  | cons key keys ih =>
    cases value with
    | dictionary entries =>
      rw [lookup] at h
      split at h
      · rename_i inner hinner
        exact .entry (Keyed.mem_of_find? hinner) (ih h)
      · cases h
    | _ => cases h

/-- The items of a collection in their order, with their keys if they have one. -/
inductive HasItems : Value → List (Option String × Value) → Prop
  | array (items : List Value) : HasItems (.array items) (items.map fun item => (none, item))
  | dictionary (entries : List (String × Value)) :
      HasItems (.dictionary entries) (entries.map fun (key, item) => (some key, item))

theorem HasItems.loopItems_eq {value : Value} {items : List (Option String × Value)}
    (h : value.HasItems items) (span : Span) : loopItems span value = .ok items := by
  cases h <;> rfl

theorem HasItems.isScalar_eq_false {value : Value} {items : List (Option String × Value)}
    (h : value.HasItems items) : value.isScalar = false := by
  cases h <;> rfl

/-- The keys of a sorted collection are in the order of their bytes. -/
theorem HasItems.keys_lt {value : Value} {items : List (Option String × Value)}
    (h : value.HasItems items) (hsorted : value.IsSorted) :
    (items.filterMap Prod.fst).Pairwise fun k l => k.toUTF8.data.toList < l.toUTF8.data.toList := by
  cases h with
  | array items =>
    have hnone : (items.map fun item => ((none : Option String), item)).filterMap Prod.fst =
        [] := by
      simp
    rw [hnone]
    exact .nil
  | dictionary entries =>
    have hkeys : (entries.map fun (key, item) => (some key, item)).filterMap Prod.fst =
        entries.map Prod.fst := by
      rw [List.filterMap_map, ← List.filterMap_eq_map]
      rfl
    rw [hkeys]
    exact (hsorted entries .self).imp toUTF8_lt

end Value

end Stencil
