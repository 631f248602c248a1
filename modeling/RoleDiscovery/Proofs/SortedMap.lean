import Mathlib.Tactic.Common
import RoleDiscovery.Proofs.Keyed
import RoleDiscovery.SortedMap

/-!
# Laws of sorted maps

A map is known by its values, so that laws of maps are laws of what is found in them.

Results:

* `SortedMap.mem_keys_insert`, `SortedMap.mem_keys_ofList`: the keys of a map that was built.
* `SortedMap.find?_ofList`: the last entry of a key counts.
* `SortedMap.ext_find?`: two maps with the same values are the same.
-/

namespace RoleDiscovery.SortedMap

variable {α : Type}

/-- The keys of a map, in ascending order. -/
def keys (map : SortedMap α) : List String :=
  map.entries.map Prod.fst

theorem mem_keys_insertEntry {key name : String} {value : α} {entries : List (String × α)} :
    name ∈ (insertEntry key value entries).map Prod.fst ↔
      name = key ∨ name ∈ entries.map Prod.fst := by
  induction entries with
  | nil => simp [insertEntry]
  | cons entry entries ih =>
    obtain ⟨other, current⟩ := entry
    rw [insertEntry]
    by_cases hlt : key < other
    · rw [if_pos hlt, List.map_cons, List.mem_cons]
    · rw [if_neg hlt]
      by_cases heq : key = other
      · subst heq
        rw [if_pos rfl, List.map_cons, List.map_cons, List.mem_cons]
        tauto
      · rw [if_neg heq, List.map_cons, List.map_cons, List.mem_cons, List.mem_cons, ih]
        tauto

theorem mem_keys_insert {map : SortedMap α} {key name : String} {value : α} :
    name ∈ (map.insert key value).keys ↔ name = key ∨ name ∈ map.keys :=
  mem_keys_insertEntry

theorem mem_keys_ofList {entries : List (String × α)} {name : String} :
    name ∈ (ofList entries).keys ↔ name ∈ entries.map Prod.fst := by
  have hfold : ∀ map : SortedMap α,
      name ∈ (entries.foldl (fun map entry => map.insert entry.1 entry.2) map).keys ↔
        name ∈ map.keys ∨ name ∈ entries.map Prod.fst := by
    induction entries with
    | nil => simp
    | cons entry entries ih =>
      intro map
      rw [List.foldl_cons, ih, mem_keys_insert, List.map_cons, List.mem_cons]
      tauto
  refine (hfold empty).trans ?_
  simp [empty, keys]

/-! ## Values -/

/-- The value that was put under a key is found, and the others are what they were. -/
theorem find?_insertEntry (key name : String) (value : α) (entries : List (String × α))
    (h : entries.Pairwise fun a b => a.1 < b.1) :
    (insertEntry key value entries).find? (fun entry => entry.1 = name) =
      if key = name then some (key, value) else entries.find? fun entry => entry.1 = name := by
  induction entries with
  | nil =>
    by_cases hk : key = name <;> simp [insertEntry, hk]
  | cons entry entries ih =>
    obtain ⟨other, current⟩ := entry
    obtain ⟨-, hrest⟩ := List.pairwise_cons.1 h
    rw [insertEntry]
    by_cases hlt : key < other
    · rw [if_pos hlt, List.find?_cons]
      by_cases hk : key = name <;> simp [hk]
    · rw [if_neg hlt]
      by_cases heq : key = other
      · subst heq
        rw [if_pos rfl, List.find?_cons, List.find?_cons]
        by_cases hk : key = name <;> simp [hk]
      · rw [if_neg heq, List.find?_cons, List.find?_cons, ih hrest]
        by_cases hk : key = name
        · have hne : other ≠ name := fun ho => heq (hk.trans ho.symm)
          simp [hk, hne]
        · simp [hk]

theorem find?_insert (map : SortedMap α) (key name : String) (value : α) :
    (map.insert key value).find? name = if key = name then some value else map.find? name := by
  show ((insertEntry key value map.entries).find? _).map _ = _
  rw [find?_insertEntry key name value map.entries map.ascending]
  by_cases hk : key = name
  · rw [if_pos hk, if_pos hk]
    rfl
  · rw [if_neg hk, if_neg hk]
    rfl

/-- The last of the values that are given for a key. -/
def last? (name : String) (entries : List (String × α)) : Option α :=
  ((entries.filter fun entry => entry.1 = name).getLast?).map Prod.snd

theorem last?_append (name : String) (a b : List (String × α)) :
    last? name (a ++ b) = (last? name b <|> last? name a) := by
  rw [last?, List.filter_append, List.getLast?_append, last?, last?]
  cases (b.filter fun entry => entry.1 = name).getLast? <;> rfl

/-- Of the entries of a key the last one counts. -/
theorem find?_ofList (entries : List (String × α)) (name : String) :
    (ofList entries).find? name = last? name entries := by
  have hfold : ∀ map : SortedMap α,
      (entries.foldl (fun map entry => map.insert entry.1 entry.2) map).find? name =
        (last? name entries <|> map.find? name) := by
    induction entries with
    | nil => exact fun map => rfl
    | cons entry entries ih =>
      intro map
      obtain ⟨key, value⟩ := entry
      rw [List.foldl_cons, ih, find?_insert, ← List.singleton_append, last?_append]
      by_cases hk : key = name
      · have hone : last? name [(key, value)] = some value := by simp [last?, hk]
        rw [if_pos hk, hone]
        cases last? name entries <;> rfl
      · have hone : last? name [(key, value)] = none := by simp [last?, hk]
        rw [if_neg hk, hone]
        cases last? name entries <;> rfl
  refine (hfold empty).trans ?_
  cases last? name entries <;> rfl

theorem find?_singleton (key : String) (value : α) :
    (singleton key value).find? key = some value := by
  simp [singleton, find?]

/-! ## Equality -/

theorem nodup_keys (map : SortedMap α) : map.keys.Nodup := by
  refine List.pairwise_map.2 (List.Pairwise.imp ?_ map.ascending)
  intro a b hlt heq
  rw [heq] at hlt
  exact String.lt_irrefl _ hlt

/-- Keys that are the same are in the same order. -/
theorem keys_congr {a b : SortedMap α} (h : ∀ name, name ∈ a.keys ↔ name ∈ b.keys) :
    a.keys = b.keys := by
  have hperm : a.keys.Perm b.keys := (List.perm_ext_iff_of_nodup a.nodup_keys b.nodup_keys).2 h
  refine hperm.eq_of_pairwise ?_ (List.pairwise_map.2 a.ascending) (List.pairwise_map.2 b.ascending)
  intro x y _ _ hxy hyx
  exact absurd (String.lt_trans hxy hyx) (String.lt_irrefl _)

theorem nodup_entries (map : SortedMap α) : map.entries.Nodup :=
  map.nodup_keys.of_map

/-- Under a name there is what is found, once. -/
theorem filter_entries (map : SortedMap α) (name : String) :
    (map.entries.filter fun entry => entry.1 = name) =
      ((map.find? name).map fun value => (name, value)).toList := by
  rw [find?, Keyed.filter_of_nodup map.nodup_keys]
  cases hfound : map.entries.find? fun entry => entry.1 = name with
  | none => rfl
  | some entry =>
    have hk : entry.1 = name := by simpa using List.find?_some hfound
    subst hk
    rfl

theorem find?_eq_some {map : SortedMap α} {name : String} {value : α} :
    map.find? name = some value ↔ (name, value) ∈ map.entries := by
  have hfilter : (name, value) ∈ map.entries ↔
      (name, value) ∈ map.entries.filter fun entry => entry.1 = name := by
    simp
  rw [hfilter, filter_entries]
  simp

/-- Two maps are the same if the same is found in them. -/
theorem ext_find? {a b : SortedMap α} (h : ∀ name, a.find? name = b.find? name) : a = b := by
  have hperm : a.entries.Perm b.entries := by
    rw [List.perm_ext_iff_of_nodup a.nodup_entries b.nodup_entries]
    rintro ⟨name, value⟩
    rw [← find?_eq_some, ← find?_eq_some, h]
  apply ext
  refine hperm.eq_of_pairwise ?_ a.ascending b.ascending
  intro x y _ _ hxy hyx
  exact absurd (String.lt_trans hxy hyx) (String.lt_irrefl _)

/-! ## Maps of maps -/

theorem last?_entries (map : SortedMap α) (name : String) :
    last? name map.entries = map.find? name := by
  rw [last?, filter_entries]
  cases map.find? name <;> rfl

/-- A map is made of its own entries. -/
theorem ofList_entries (map : SortedMap α) : ofList map.entries = map := by
  apply ext_find?
  intro name
  rw [find?_ofList, last?_entries]

/-- The entries of a map stand for the list that it was made of. -/
theorem ofList_entries_append (entries rest : List (String × α)) :
    ofList ((ofList entries).entries ++ rest) = ofList (entries ++ rest) := by
  apply ext_find?
  intro name
  rw [find?_ofList, find?_ofList, last?_append, last?_append, last?_entries, find?_ofList]

/-- To add the same entries twice is to add them once. -/
theorem ofList_append_append_self (entries rest : List (String × α)) :
    ofList (entries ++ rest ++ rest) = ofList (entries ++ rest) := by
  apply ext_find?
  intro name
  rw [find?_ofList, find?_ofList, last?_append, last?_append]
  cases last? name rest <;> rfl

theorem mem_of_mem_ofList {entries : List (String × α)} {entry : String × α}
    (h : entry ∈ (ofList entries).entries) : entry ∈ entries := by
  have hlast := find?_eq_some.2 h
  rw [find?_ofList, last?, Option.map_eq_some_iff] at hlast
  obtain ⟨other, hother, hsnd⟩ := hlast
  obtain ⟨hm, hfst⟩ := List.mem_filter.1 (List.mem_of_getLast? hother)
  have heq : other = entry := Prod.ext (by simpa using hfst) hsnd
  exact heq ▸ hm

end RoleDiscovery.SortedMap
