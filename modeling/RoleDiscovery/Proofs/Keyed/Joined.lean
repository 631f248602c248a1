import RoleDiscovery.Proofs.Keyed

/-!
# Keyed lists in closed form

What the folds over keyed lists come to: of one list each key is left once, where it first stood,
with its last element; of the additions to it the first ones of the keys that it does not have.

Results:

* `Keyed.firsts`, `Keyed.latest`, `Keyed.joined`: the closed forms.
* `Keyed.collapse_eq_latest`, `Keyed.merge_eq_joined`: what the folds come to.
* `Keyed.merge_merge`: to merge in two steps is to merge both lists of additions at once.
-/

namespace RoleDiscovery.Keyed

variable {α κ : Type} [DecidableEq κ] {key : α → κ}

/-- The first element of each key, in order. -/
def firsts (key : α → κ) : List α → List α
  | [] => []
  | item :: rest => item :: (firsts key rest).filter fun other => key other ≠ key item

/-- The last element of each key, where the first one of its key stands. -/
def latest (key : α → κ) (items : List α) : List α :=
  (firsts key items).map fun first =>
    ((items.filter fun other => key other = key first).getLast?).getD first

/-- The last element of each key of a list, followed by the first additions of other keys. -/
def joined (key : α → κ) (existing additions : List α) : List α :=
  latest key existing ++ (firsts key additions).filter fun item => key item ∉ existing.map key

variable {items existing additions first second : List α} {item : α}

/-! ## First elements -/

theorem firsts_append (first second : List α) : firsts key (first ++ second) =
    firsts key first ++ (firsts key second).filter fun item => key item ∉ first.map key := by
  induction first with
  | nil => simp [firsts]
  | cons item first ih =>
    rw [List.cons_append, firsts, ih, List.filter_append, List.filter_filter, firsts,
      List.cons_append]
    congr 2
    apply List.filter_congr
    intro other _
    simp

theorem mem_of_mem_firsts (h : item ∈ firsts key items) : item ∈ items := by
  induction items with
  | nil => exact h
  | cons first rest ih =>
    rcases List.mem_cons.1 h with rfl | hm
    · exact List.mem_cons_self
    · exact List.mem_cons_of_mem _ (ih (List.mem_filter.1 hm).1)

theorem mem_map_firsts {k : κ} : k ∈ (firsts key items).map key ↔ k ∈ items.map key := by
  induction items with
  | nil => rfl
  | cons item items ih =>
    rw [firsts, List.map_cons, List.map_cons, List.mem_cons, List.mem_cons, ← ih]
    by_cases hk : k = key item
    · simp [hk]
    · refine or_congr_right ⟨fun h => ?_, fun h => ?_⟩
      · exact List.map_subset _ (List.filter_subset_self _) h
      · obtain ⟨other, hm, rfl⟩ := List.mem_map.1 h
        exact List.mem_map_of_mem (List.mem_filter.2 ⟨hm, decide_eq_true hk⟩)

theorem map_firsts_concat (items : List α) (item : α) :
    (firsts key (items ++ [item])).map key = withKey ((firsts key items).map key) (key item) := by
  rw [firsts_append, withKey]
  by_cases hm : key item ∈ items.map key
  · rw [if_pos (mem_map_firsts.2 hm)]
    simp only [firsts, List.filter_cons, hm, not_true_eq_false, decide_false, Bool.false_eq_true,
      if_false, List.filter_nil, List.append_nil]
  · rw [if_neg (mt mem_map_firsts.1 hm)]
    simp only [firsts, List.filter_cons, hm, not_false_eq_true, decide_true, if_true,
      List.filter_nil, List.map_append, List.map_cons, List.map_nil]

/-- To add elements one by one is to append the first ones of the keys that are not taken. -/
theorem foldl_add (items additions : List α) : additions.foldl (add key) items =
    items ++ (firsts key additions).filter fun item => key item ∉ items.map key := by
  induction additions generalizing items with
  | nil => simp [firsts]
  | cons item additions ih =>
    rw [List.foldl_cons, ih, firsts, List.filter_cons, List.filter_filter]
    by_cases hm : key item ∈ items.map key
    -- the first element is dropped, and what it would have kept out is taken anyway
    · rw [add_of_mem hm, if_neg (by simpa using hm)]
      congr 1
      apply List.filter_congr
      intro other _
      by_cases hother : key other = key item
      · rw [hother]
        simp only [hm, not_true_eq_false, decide_false, Bool.false_and]
      · simp [hother]
    · rw [add_of_not_mem hm, if_pos (by simpa using hm), List.append_assoc, List.singleton_append]
      congr 2
      apply List.filter_congr
      intro other _
      simp

/-! ## Last elements -/

theorem find?_of_mem (h : (items.map key).Nodup) (hm : item ∈ items) :
    (items.find? fun other => key other = key item) = some item := by
  have hfilter := filter_of_mem h hm
  rw [filter_of_nodup h] at hfilter
  cases hfound : items.find? fun other => key other = key item with
  | none =>
    rw [hfound] at hfilter
    cases hfilter
  | some other =>
    rw [hfound] at hfilter
    exact congrArg some (List.cons.inj hfilter).1

/-- A list with distinct keys is made of what is found under its keys. -/
theorem filterMap_find? (h : (items.map key).Nodup) :
    ((items.map key).filterMap fun k => items.find? fun other => key other = k) = items := by
  rw [List.filterMap_map]
  conv_rhs => rw [← List.filterMap_some (l := items)]
  exact List.filterMap_congr fun item hm => find?_of_mem h hm

/-- A collapsed list is made of the last elements of the keys, in the order of the first ones. -/
theorem collapse_eq_latest (items : List α) : collapse key items = latest key items := by
  have hkeys : (collapse key items).map key = (firsts key items).map key := by
    induction items using List.reverseRecOn with
    | nil => rfl
    | append_singleton items item ih =>
      rw [collapse, List.foldl_append, List.foldl_cons, List.foldl_nil, map_put, map_firsts_concat,
        ← ih]
      rfl
  rw [← filterMap_find? (nodup_collapse items), hkeys, latest, List.filterMap_map,
    ← List.filterMap_eq_map]
  apply List.filterMap_congr
  intro first hm
  rw [Function.comp_apply, find?_collapse, Function.comp_apply]
  have hne : (items.filter fun other => key other = key first) ≠ [] :=
    List.ne_nil_of_mem (List.mem_filter.2 ⟨mem_of_mem_firsts hm, decide_eq_true rfl⟩)
  rw [List.getLast?_eq_some_getLast hne, Option.getD_some]

theorem latest_of_nodup (h : (items.map key).Nodup) : latest key items = items := by
  rw [← collapse_eq_latest, collapse_of_nodup h]

/-! ## Merges -/

theorem merge_eq_joined (existing additions : List α) :
    merge key existing additions = joined key existing additions := by
  rw [merge, foldl_add, joined, ← collapse_eq_latest]
  simp only [mem_map_collapse]

/-- To merge in two steps is to merge both lists of additions at once. -/
theorem merge_merge : merge key (merge key existing first) second =
    merge key existing (first ++ second) := by
  rw [merge, collapse_of_nodup nodup_merge, merge, merge, List.foldl_append]

theorem joined_joined : joined key (joined key existing first) second =
    joined key existing (first ++ second) := by
  simp only [← merge_eq_joined, merge_merge]

theorem nodup_joined : ((joined key existing additions).map key).Nodup := by
  rw [← merge_eq_joined]
  exact nodup_merge

theorem mem_map_joined {k : κ} :
    k ∈ (joined key existing additions).map key ↔ k ∈ existing.map key ∨ k ∈ additions.map key := by
  rw [← merge_eq_joined, mem_map_merge]

theorem joined_of_nodup (h : (existing.map key).Nodup) (additions : List α) :
    joined key existing additions =
      existing ++ (firsts key additions).filter fun item => key item ∉ existing.map key := by
  rw [joined, latest_of_nodup h]

theorem joined_nil (h : (existing.map key).Nodup) : joined key existing [] = existing := by
  rw [joined_of_nodup h, firsts, List.filter_nil, List.append_nil]

end RoleDiscovery.Keyed
