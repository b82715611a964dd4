/-
Lists of pairs in the order of their keys.

A map from strings is kept as a list of pairs.  `Keyed.insert` keeps the keys
in ascending order and apart from each other, and `Keyed.find?` looks a key up.

* **`Keyed.find?_insert_self`**, **`Keyed.find?_insert_of_ne`** — a look-up
  after an insertion;
* **`Keyed.insert_of_forall_lt`** — a key above all others;
* **`Keyed.find?_map`**, **`Keyed.insert_map`** — a function on the values goes
  through both.
-/

namespace Stencil.Keyed

variable {α : Type}

/-- The value under a key. -/
def find? (key : String) : List (String × α) → Option α
  | [] => none
  | (k, value) :: entries => if k = key then some value else find? key entries

/-- Put a value under a key, in the place that the order of the keys gives it. -/
def insert (key : String) (value : α) : List (String × α) → List (String × α)
  | [] => [(key, value)]
  | (k, v) :: entries =>
    if k = key then (key, value) :: entries
    else if key < k then (key, value) :: (k, v) :: entries
    else (k, v) :: insert key value entries

/-- The pairs with one key removed. -/
def erase (key : String) (entries : List (String × α)) : List (String × α) :=
  entries.filter fun entry => entry.1 != key

/-- The map of a list of pairs; of pairs with one key the last one counts. -/
def ofList (entries : List (String × α)) : List (String × α) :=
  entries.foldl (fun map entry => insert entry.1 entry.2 map) []

@[simp] theorem find?_insert_self (key : String) (value : α) (entries : List (String × α)) :
    find? key (insert key value entries) = some value := by
  induction entries with
  | nil => simp [insert, find?]
  | cons entry entries ih =>
    obtain ⟨k, v⟩ := entry
    unfold insert
    split
    · simp [find?]
    · split
      · simp [find?]
      · simp [find?, *]

theorem find?_insert_of_ne {key other : String} (h : other ≠ key) (value : α)
    (entries : List (String × α)) :
    find? other (insert key value entries) = find? other entries := by
  induction entries with
  | nil => simp [insert, find?, Ne.symm h]
  | cons entry entries ih =>
    obtain ⟨k, v⟩ := entry
    unfold insert
    split
    · rename_i hk
      simp [find?, hk, Ne.symm h]
    · split
      · simp [find?, Ne.symm h]
      · simp [find?, ih]

theorem mem_of_find? {key : String} {value : α} {entries : List (String × α)}
    (h : find? key entries = some value) : (key, value) ∈ entries := by
  induction entries with
  | nil => cases h
  | cons entry entries ih =>
    obtain ⟨k, v⟩ := entry
    rw [find?] at h
    split at h
    · rename_i hk
      cases h
      exact hk ▸ List.mem_cons_self ..
    · exact List.mem_cons_of_mem _ (ih h)

theorem mem_of_mem_insert {key : String} {value : α} {entry : String × α}
    {entries : List (String × α)} (h : entry ∈ insert key value entries) :
    entry = (key, value) ∨ entry ∈ entries := by
  induction entries with
  | nil => exact .inl (List.mem_singleton.1 h)
  | cons first entries ih =>
    obtain ⟨k, v⟩ := first
    rw [insert] at h
    split at h
    · exact (List.mem_cons.1 h).imp_right (List.mem_cons_of_mem _)
    · split at h
      · exact List.mem_cons.1 h
      · rcases List.mem_cons.1 h with h | h
        · exact .inr (h ▸ List.mem_cons_self ..)
        · exact (ih h).imp_right (List.mem_cons_of_mem _)

/-- A key above all others comes last. -/
theorem insert_of_forall_lt {key : String} {entries : List (String × α)}
    (h : ∀ entry ∈ entries, entry.1 < key) (value : α) :
    find? key entries = none ∧ insert key value entries = entries ++ [(key, value)] := by
  induction entries with
  | nil => exact ⟨rfl, rfl⟩
  | cons entry entries ih =>
    obtain ⟨k, v⟩ := entry
    have hlt : k < key := h (k, v) (List.mem_cons_self ..)
    have hne : k ≠ key := by
      rintro rfl
      exact String.lt_irrefl k hlt
    obtain ⟨hfind, hinsert⟩ := ih fun entry hentry => h entry (List.mem_cons_of_mem _ hentry)
    refine ⟨?_, ?_⟩
    · rw [find?, if_neg hne, hfind]
    · rw [insert, if_neg hne, if_neg (String.lt_asymm hlt), hinsert]
      rfl

/-- The entries in front hide those behind them. -/
theorem find?_append (key : String) (front back : List (String × α)) :
    find? key (front ++ back) = (find? key front).or (find? key back) := by
  induction front with
  | nil => rfl
  | cons entry front ih =>
    obtain ⟨other, value⟩ := entry
    rw [List.cons_append, find?, find?]
    by_cases hkey : other = key
    · rw [if_pos hkey, if_pos hkey, Option.some_or]
    · rw [if_neg hkey, if_neg hkey, ih]

theorem find?_map {β : Type} (g : α → β) (key : String) (entries : List (String × α)) :
    find? key (entries.map fun entry => (entry.1, g entry.2)) = (find? key entries).map g := by
  induction entries with
  | nil => rfl
  | cons entry entries ih =>
    obtain ⟨k, v⟩ := entry
    rw [List.map_cons, find?, find?, ih]
    by_cases hk : k = key
    · rw [if_pos hk, if_pos hk, Option.map_some]
    · rw [if_neg hk, if_neg hk]

theorem insert_map {β : Type} (g : α → β) (key : String) (value : α)
    (entries : List (String × α)) :
    insert key (g value) (entries.map fun entry => (entry.1, g entry.2)) =
      (insert key value entries).map fun entry => (entry.1, g entry.2) := by
  induction entries with
  | nil => rfl
  | cons entry entries ih =>
    obtain ⟨k, v⟩ := entry
    rw [List.map_cons, insert, insert, ih]
    by_cases hk : k = key
    · rw [if_pos hk, if_pos hk, List.map_cons]
    · rw [if_neg hk, if_neg hk]
      by_cases hlt : key < k
      · rw [if_pos hlt, if_pos hlt, List.map_cons, List.map_cons]
      · rw [if_neg hlt, if_neg hlt, List.map_cons]

end Stencil.Keyed
