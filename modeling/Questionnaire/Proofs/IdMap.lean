import Questionnaire.IdMap

/-!
# What maps keep

A map keeps under an id what was inserted there last (`IdMap.get?_insert`), so a map made from a
list of entries keeps the last of each id (`IdMap.get?_ofList`). Where the value is a function of
the id, as in the maps of visibility, repetitions do not matter (`IdMap.get?_ofList_map`).
-/

namespace Questionnaire.IdMap

universe u v

variable {α : Type u} {β : Type v}

/-! ## Look-up and membership -/

/-- A list has no value under an id exactly when the id is not listed. -/
theorem lookup_eq_none_iff {entries : List (String × α)} {id : String} :
    lookup id entries = none ↔ id ∉ entries.map Prod.fst := by
  induction entries with
  | nil => simp [lookup]
  | cons head rest ih =>
    obtain ⟨key, old⟩ := head
    by_cases hid : key = id
    · simp [lookup, hid]
    · simp only [lookup, if_neg hid, ih, List.map_cons, List.mem_cons, not_or]
      exact ⟨fun h => ⟨Ne.symm hid, h⟩, fun h => h.2⟩

/-- The first of two lists that has a value under an id gives it. -/
theorem lookup_append (id : String) (xs ys : List (String × α)) :
    lookup id (xs ++ ys) = (lookup id xs).or (lookup id ys) := by
  induction xs with
  | nil => simp [lookup]
  | cons head rest ih =>
    obtain ⟨key, value⟩ := head
    by_cases hid : key = id
    · simp [lookup, hid]
    · simp [lookup, hid, ih]

/-- Where the ids ascend, a list has a value under an id exactly when the two are an entry. -/
theorem lookup_eq_some_iff {entries : List (String × α)} {id : String} {value : α}
    (h : entries.Pairwise fun a b => a.1 < b.1) :
    lookup id entries = some value ↔ (id, value) ∈ entries := by
  induction entries with
  | nil => simp [lookup]
  | cons head rest ih =>
    obtain ⟨key, old⟩ := head
    obtain ⟨hhead, hrest⟩ := List.pairwise_cons.1 h
    rw [lookup, List.mem_cons, Prod.mk.injEq, ← ih hrest]
    by_cases hid : key = id
    · -- What follows has greater ids, so it has no value under this one.
      have hnone : lookup id rest = none :=
        lookup_eq_none_of_lt fun entry hentry => hid ▸ hhead entry hentry
      rw [if_pos hid, hnone, Option.some_inj]
      simp [hid, eq_comm]
    · rw [if_neg hid]
      exact ⟨.inr, Or.rec (fun heq => absurd heq.1.symm hid) fun h => h⟩

/-- A map has a value under an id exactly when the two are an entry. -/
theorem get?_eq_some_iff {m : IdMap α} {id : String} {value : α} :
    m.get? id = some value ↔ (id, value) ∈ m.entries :=
  lookup_eq_some_iff m.ascending

/-- The ids of a map are those with a value. -/
theorem mem_ids_iff {m : IdMap α} {id : String} : id ∈ m.ids ↔ (m.get? id).isSome = true := by
  rw [← Option.ne_none_iff_isSome, Ne, get?, lookup_eq_none_iff, Classical.not_not]
  rfl

/-! ## Insertion -/

/-- What is kept after an insertion: the new value under its id, and elsewhere what was there. -/
theorem get?_insert (m : IdMap α) (id other : String) (value : α) :
    (m.insert id value).get? other = if other = id then some value else m.get? other := by
  by_cases h : other = id
  · rw [if_pos h, h, get?_insert_self]
  · rw [if_neg h, get?_insert_of_ne m h]

/-- A map made by inserting entries one after the other keeps the last of each id, and what was
there before under the ids that none of them has. -/
theorem get?_foldl_insert (entries : List (String × α)) (m : IdMap α) (id : String) :
    (entries.foldl (fun m entry => m.insert entry.1 entry.2) m).get? id =
      (lookup id entries.reverse).or (m.get? id) := by
  induction entries generalizing m with
  | nil => simp [lookup]
  | cons head rest ih =>
    obtain ⟨key, value⟩ := head
    -- The head is inserted first, so it counts only where no later entry has its id.
    rw [List.foldl_cons, ih, List.reverse_cons, lookup_append, Option.or_assoc]
    congr 1
    rw [get?_insert]
    by_cases hid : key = id
    · simp [lookup, hid]
    · simp [lookup, hid, Ne.symm hid]

/-- A map made from a list of entries keeps the last of each id. -/
theorem get?_ofList (entries : List (String × α)) (id : String) :
    (ofList entries).get? id = lookup id entries.reverse := by
  rw [ofList, get?_foldl_insert, get?_empty, Option.or_none]

/-- A map made from values that are functions of their ids keeps each of them. -/
theorem get?_ofList_map (xs : List β) (key : β → String) (value : String → α) (id : String) :
    (ofList (xs.map fun x => (key x, value (key x)))).get? id =
      if id ∈ xs.map key then some (value id) else none := by
  rw [get?_ofList, ← List.map_reverse]
  have hmem : id ∈ xs.map key ↔ id ∈ xs.reverse.map key := by simp
  simp only [hmem]
  induction xs.reverse with
  | nil => simp [lookup]
  | cons head rest ih =>
    by_cases hid : key head = id
    · simp [lookup, hid]
    · simp [lookup, hid, Ne.symm hid, ih]

/-! ## Whole maps -/

/-- Where no id is listed twice, a list has the same values from its end. -/
theorem lookup_reverse {entries : List (String × α)} (h : (entries.map Prod.fst).Nodup)
    (id : String) : lookup id entries.reverse = lookup id entries := by
  induction entries with
  | nil => rfl
  | cons head rest ih =>
    obtain ⟨key, value⟩ := head
    obtain ⟨hkey, hrest⟩ := List.nodup_cons.1 h
    rw [List.reverse_cons, lookup_append, ih hrest]
    by_cases hid : key = id
    · have hnone : lookup id rest = none := lookup_eq_none_iff.2 (hid ▸ hkey)
      simp [lookup, hid, hnone]
    · simp [lookup, hid]

/-- A map is made from its entries. -/
theorem ofList_entries (m : IdMap α) : ofList m.entries = m := by
  have hids : (m.entries.map Prod.fst).Nodup :=
    List.pairwise_map.2 (m.ascending.imp String.ne_of_lt)
  refine ext_get? fun id => ?_
  rw [get?_ofList, lookup_reverse hids, get?]

end Questionnaire.IdMap
