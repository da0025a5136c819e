/-!
# Maps keyed by id

Everything a survey collects is kept by id: answers and visibility by question id, the cells of a
grid by row id. An `IdMap` lists its entries in ascending order of their ids, by code point, each id
once. The order is part of the type, so two maps with the same entries are equal
(`IdMap.ext_get?`), and a listing needs no sorting.
-/

namespace Questionnaire

universe u v

/-- A finite map from ids to values, listed in ascending order of the ids. -/
structure IdMap (α : Type u) where
  /-- The entries in ascending order. -/
  entries : List (String × α)
  /-- Each id is smaller than all that follow. -/
  ascending : entries.Pairwise fun a b => a.1 < b.1
deriving DecidableEq

namespace IdMap

variable {α : Type u} {β : Type v}

/-! ## Lists of entries -/

/-- The value of the first entry with the id. -/
def lookup (id : String) : List (String × α) → Option α
  | [] => none
  | (key, value) :: rest => if key = id then some value else lookup id rest

/-- The list with the value put at its place: before the first greater id, or over the same id. -/
def place (id : String) (value : α) : List (String × α) → List (String × α)
  | [] => [(id, value)]
  | (key, old) :: rest =>
    if id < key then (id, value) :: (key, old) :: rest
    else if id = key then (id, value) :: rest
    else (key, old) :: place id value rest

/-- An id is in the list after placing when it is the id placed or was there before. -/
theorem mem_place {id : String} {value : α} {entry : String × α} {entries : List (String × α)}
    (h : entry ∈ place id value entries) : entry = (id, value) ∨ entry ∈ entries := by
  induction entries with
  | nil => simpa [place] using h
  | cons head rest ih =>
    obtain ⟨key, old⟩ := head
    simp only [place] at h
    split at h
    · simpa using h
    · split at h
      · rcases List.mem_cons.1 h with h | h
        · exact .inl h
        · exact .inr (List.mem_cons_of_mem _ h)
      · rcases List.mem_cons.1 h with h | h
        · exact .inr (h ▸ List.mem_cons_self)
        · exact (ih h).imp_right (List.mem_cons_of_mem _)

/-- Placing keeps the ids ascending. -/
theorem pairwise_place {id : String} {value : α} {entries : List (String × α)}
    (h : entries.Pairwise fun a b => a.1 < b.1) :
    (place id value entries).Pairwise fun a b => a.1 < b.1 := by
  induction entries with
  | nil => simp [place]
  | cons head rest ih =>
    obtain ⟨key, old⟩ := head
    obtain ⟨hhead, hrest⟩ := List.pairwise_cons.1 h
    simp only [place]
    split
    next hlt =>
      refine List.pairwise_cons.2 ⟨fun entry hentry => ?_, h⟩
      rcases List.mem_cons.1 hentry with rfl | hentry
      · exact hlt
      · exact String.lt_trans hlt (hhead entry hentry)
    next hlt =>
      split
      next heq => exact List.pairwise_cons.2 ⟨fun entry hentry => heq ▸ hhead entry hentry, hrest⟩
      next hne =>
        refine List.pairwise_cons.2 ⟨fun entry hentry => ?_, ih hrest⟩
        rcases mem_place hentry with rfl | hentry
        · exact Decidable.byContradiction fun hnot =>
            hne (String.le_antisymm (String.not_lt.1 hnot) (String.not_lt.1 hlt))
        · exact hhead entry hentry

/-- The placed value is found under its id. -/
theorem lookup_place_self (id : String) (value : α) (entries : List (String × α)) :
    lookup id (place id value entries) = some value := by
  induction entries with
  | nil => simp [place, lookup]
  | cons head rest ih =>
    obtain ⟨key, old⟩ := head
    simp only [place]
    split
    · simp [lookup]
    · split
      · simp [lookup]
      next hne => simp [lookup, Ne.symm hne, ih]

/-- Placing a value leaves what other ids have. -/
theorem lookup_place_of_ne {id other : String} (h : other ≠ id) (value : α)
    (entries : List (String × α)) :
    lookup other (place id value entries) = lookup other entries := by
  induction entries with
  | nil => simp [place, lookup, Ne.symm h]
  | cons head rest ih =>
    obtain ⟨key, old⟩ := head
    simp only [place]
    split
    · simp [lookup, Ne.symm h]
    · split
      next heq => subst heq; simp [lookup, Ne.symm h]
      · simp [lookup, ih]

/-- An id below all ids of a list is not in it. -/
theorem lookup_eq_none_of_lt {id : String} {entries : List (String × α)}
    (h : ∀ entry ∈ entries, id < entry.1) : lookup id entries = none := by
  induction entries with
  | nil => rfl
  | cons head rest ih =>
    obtain ⟨key, old⟩ := head
    have hne : key ≠ id := fun heq =>
      String.lt_irrefl id (heq ▸ h (key, old) List.mem_cons_self)
    simpa [lookup, hne] using ih fun entry hentry => h entry (List.mem_cons_of_mem _ hentry)

/-- An id below the first of an ascending list is not in it. -/
theorem lookup_cons_eq_none_of_lt {id key : String} {value : α} {rest : List (String × α)}
    (hlt : id < key) (hhead : ∀ entry ∈ rest, key < entry.1) :
    lookup id ((key, value) :: rest) = none := by
  refine lookup_eq_none_of_lt fun entry hentry => ?_
  rcases List.mem_cons.1 hentry with rfl | hentry
  · exact hlt
  · exact String.lt_trans hlt (hhead entry hentry)

/-- Ascending lists that agree on every id are equal. -/
theorem eq_of_lookup_eq {xs ys : List (String × α)}
    (hx : xs.Pairwise fun a b => a.1 < b.1) (hy : ys.Pairwise fun a b => a.1 < b.1)
    (h : ∀ id, lookup id xs = lookup id ys) : xs = ys := by
  induction xs generalizing ys with
  | nil =>
    cases ys with
    | nil => rfl
    | cons head rest => simpa [lookup] using h head.1
  | cons head rest ih =>
    obtain ⟨key, value⟩ := head
    obtain ⟨hhead, hrest⟩ := List.pairwise_cons.1 hx
    cases ys with
    | nil => simpa [lookup] using h key
    | cons head' rest' =>
      obtain ⟨key', value'⟩ := head'
      obtain ⟨hhead', hrest'⟩ := List.pairwise_cons.1 hy
      -- The lesser of two first ids would be in one list only.
      have hkey : key = key' := by
        refine String.le_antisymm (String.not_lt.1 fun hlt => ?_) (String.not_lt.1 fun hlt => ?_)
        · have hnone : lookup key' ((key, value) :: rest) = none :=
            lookup_cons_eq_none_of_lt hlt hhead
          rw [h key'] at hnone
          simp [lookup] at hnone
        · have hnone : lookup key ((key', value') :: rest') = none :=
            lookup_cons_eq_none_of_lt hlt hhead'
          rw [← h key] at hnone
          simp [lookup] at hnone
      subst hkey
      have hvalue : value = value' := by simpa [lookup] using h key
      subst hvalue
      rw [ih hrest hrest' fun id => ?_]
      by_cases hid : key = id
      · subst hid
        rw [lookup_eq_none_of_lt hhead, lookup_eq_none_of_lt hhead']
      · simpa [lookup, hid] using h id

/-! ## Maps -/

/-- The map without entries. -/
def empty : IdMap α := ⟨[], .nil⟩

instance : EmptyCollection (IdMap α) := ⟨empty⟩

instance : Inhabited (IdMap α) := ⟨empty⟩

/-- The value kept under the id, if there is one. -/
def get? (m : IdMap α) (id : String) : Option α :=
  lookup id m.entries

/-- Whether the id has a value. -/
def contains (m : IdMap α) (id : String) : Bool :=
  (m.get? id).isSome

/-- The map with the value under the id, in place of what was there. -/
def insert (m : IdMap α) (id : String) (value : α) : IdMap α :=
  ⟨place id value m.entries, pairwise_place m.ascending⟩

/-- The map without the id. -/
def erase (m : IdMap α) (id : String) : IdMap α :=
  ⟨m.entries.filter fun entry => entry.1 ≠ id, m.ascending.filter _⟩

/-- The ids in ascending order. -/
def ids (m : IdMap α) : List String :=
  m.entries.map Prod.fst

/-- The number of ids. -/
def size (m : IdMap α) : Nat :=
  m.entries.length

/-- Whether there is no entry. -/
def isEmpty (m : IdMap α) : Bool :=
  m.entries.isEmpty

/-- The map of a list of entries; of two with one id the later counts. -/
def ofList (entries : List (String × α)) : IdMap α :=
  entries.foldl (fun m entry => m.insert entry.1 entry.2) empty

/-- The map with the entries of another put over its own. -/
def extend (m other : IdMap α) : IdMap α :=
  other.entries.foldl (fun m entry => m.insert entry.1 entry.2) m

/-- The map with each value changed by the function. -/
def map (f : α → β) (m : IdMap α) : IdMap β :=
  ⟨m.entries.map fun entry => (entry.1, f entry.2), List.pairwise_map.2 m.ascending⟩

@[simp] theorem get?_empty (id : String) : (empty : IdMap α).get? id = none := rfl

@[simp] theorem get?_insert_self (m : IdMap α) (id : String) (value : α) :
    (m.insert id value).get? id = some value :=
  lookup_place_self id value m.entries

theorem get?_insert_of_ne (m : IdMap α) {id other : String} (h : other ≠ id) (value : α) :
    (m.insert id value).get? other = m.get? other :=
  lookup_place_of_ne h value m.entries

/-- Maps that agree on every id are equal. -/
theorem ext_get? {m n : IdMap α} (h : ∀ id, m.get? id = n.get? id) : m = n := by
  obtain ⟨xs, hx⟩ := m
  obtain ⟨ys, hy⟩ := n
  obtain rfl : xs = ys := eq_of_lookup_eq hx hy h
  rfl

end IdMap

end Questionnaire
