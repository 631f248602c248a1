/-!
# Maps in key order

A finite map with text keys that is always held in strictly ascending key order (by code point), so
that equal maps are equal values and are written the same way.

Results:

* `SortedMap.insert`, `SortedMap.ofList`, `SortedMap.find?`, `SortedMap.filter`: the operations.
* `SortedMap.ext`: two maps with the same entries are equal.
-/

namespace RoleDiscovery

/-- A map from texts to values whose entries are in strictly ascending key order. -/
structure SortedMap (α : Type) where
  /-- The entries in key order. -/
  entries : List (String × α)
  /-- Keys ascend strictly, so none occurs twice. -/
  ascending : entries.Pairwise (fun a b => a.1 < b.1)
  deriving DecidableEq

namespace SortedMap

variable {α : Type}

theorem ext {a b : SortedMap α} (h : a.entries = b.entries) : a = b := by
  cases a; cases b; simpa using h

/-- The map without entries. -/
def empty : SortedMap α :=
  ⟨[], .nil⟩

instance : Inhabited (SortedMap α) := ⟨empty⟩

/-! ## Insertion -/

/-- Puts a value under a key among ascending entries, in place of the value that was there. -/
def insertEntry (key : String) (value : α) : List (String × α) → List (String × α)
  | [] => [(key, value)]
  | (other, current) :: rest =>
    if key < other then (key, value) :: (other, current) :: rest
    else if key = other then (key, value) :: rest
    else (other, current) :: insertEntry key value rest

theorem fst_of_mem_insertEntry {key : String} {value : α} {entries : List (String × α)}
    {entry : String × α} (h : entry ∈ insertEntry key value entries) :
    entry.1 = key ∨ entry ∈ entries := by
  induction entries with
  | nil => simp_all [insertEntry]
  | cons head rest ih =>
    obtain ⟨other, current⟩ := head
    simp only [insertEntry] at h
    split at h
    · rcases List.mem_cons.1 h with rfl | h
      · exact .inl rfl
      · exact .inr h
    · split at h
      · rcases List.mem_cons.1 h with rfl | h
        · exact .inl rfl
        · exact .inr (List.mem_cons_of_mem _ h)
      · rcases List.mem_cons.1 h with rfl | h
        · exact .inr List.mem_cons_self
        · exact (ih h).imp_right (List.mem_cons_of_mem _)

theorem pairwise_insertEntry (key : String) (value : α) {entries : List (String × α)}
    (h : entries.Pairwise fun a b => a.1 < b.1) :
    (insertEntry key value entries).Pairwise fun a b => a.1 < b.1 := by
  induction entries with
  | nil => simp [insertEntry]
  | cons head rest ih =>
    obtain ⟨other, current⟩ := head
    obtain ⟨first, rest_ascending⟩ := List.pairwise_cons.1 h
    simp only [insertEntry]
    split
    · next below =>
      refine List.pairwise_cons.2 ⟨fun entry mem => ?_, h⟩
      rcases List.mem_cons.1 mem with rfl | mem
      · exact below
      · exact String.lt_trans below (first entry mem)
    · next not_below =>
      split
      · next same =>
        subst same
        exact List.pairwise_cons.2 ⟨first, rest_ascending⟩
      · next other_ne =>
        refine List.pairwise_cons.2 ⟨fun entry mem => ?_, ih rest_ascending⟩
        rcases fst_of_mem_insertEntry mem with eq | mem
        · have above : other < key :=
            Std.lt_of_le_of_ne (String.not_lt.1 not_below) (Ne.symm other_ne)
          simpa [eq] using above
        · exact first entry mem

/-- The map with `value` under `key`. -/
def insert (map : SortedMap α) (key : String) (value : α) : SortedMap α :=
  ⟨insertEntry key value map.entries, pairwise_insertEntry key value map.ascending⟩

/-- The map of a list of entries; the last one of a key counts. -/
def ofList (entries : List (String × α)) : SortedMap α :=
  entries.foldl (fun map (key, value) => map.insert key value) empty

/-! ## Access -/

/-- The value under `key`. -/
def find? (map : SortedMap α) (key : String) : Option α :=
  (map.entries.find? fun entry => entry.1 = key).map Prod.snd

/-- The values in key order. -/
def values (map : SortedMap α) : List α :=
  map.entries.map Prod.snd

/-- The entries whose key satisfies `keep`. -/
def filter (map : SortedMap α) (keep : String → Bool) : SortedMap α :=
  ⟨map.entries.filter fun entry => keep entry.1, map.ascending.filter _⟩

/-- The map with one entry. -/
def singleton (key : String) (value : α) : SortedMap α :=
  ⟨[(key, value)], List.pairwise_singleton _ _⟩

end SortedMap

end RoleDiscovery
