import Mathlib.Data.List.Induction
import Mathlib.Data.List.Nodup
import Mathlib.Tactic.Common
import RoleDiscovery.Keyed

/-!
# Laws of keyed lists

To take in an element does one thing to the keys, whether the element replaces the one of its key
or yields to it: a new key comes last. So the lists that come out have distinct keys, and nothing
happens to such a list when it is given keys that it has.

Results:

* `Keyed.find?_put`: what is found after an element has been put in its place.
* `Keyed.nodup_collapse`, `Keyed.nodup_merge`: the keys that come out are distinct.
* `Keyed.mem_map_merge`: a merge has the keys of both lists.
* `Keyed.merge_eq_self`, `Keyed.merge_merge_self`: a merge that adds nothing.
* `Keyed.prefix_merge`: a merge adds at the end.
* `Keyed.filter_merge_of_singleton`, `Keyed.mem_of_mem_merge`: what is there stays what it is.
-/

namespace RoleDiscovery.Keyed

variable {α κ : Type} [DecidableEq κ] {key : α → κ}

/-- The element of its key is the one that was put; the others are what they were. -/
theorem find?_put (items : List α) (item : α) (k : κ) :
    (put key items item).find? (fun other => key other = k) =
      if key item = k then some item else items.find? fun other => key other = k := by
  induction items with
  | nil =>
    rw [put, List.find?_singleton]
    simp
  | cons first rest ih =>
    rw [put]
    by_cases hfirst : key first = key item
    · rw [if_pos hfirst, List.find?_cons, List.find?_cons, hfirst]
      by_cases hk : key item = k <;> simp [hk]
    · rw [if_neg hfirst, List.find?_cons, List.find?_cons, ih]
      by_cases hk : key item = k
      · have hne : key first ≠ k := fun h => hfirst (h.trans hk.symm)
        simp [hk, hne]
      · simp [hk]

/-! ## Keys -/

/-- The keys after one more key was taken in. -/
def withKey (keys : List κ) (k : κ) : List κ :=
  if k ∈ keys then keys else keys ++ [k]

theorem map_put (items : List α) (item : α) :
    (put key items item).map key = withKey (items.map key) (key item) := by
  induction items with
  | nil => rfl
  | cons first rest ih =>
    rw [put]
    by_cases hfirst : key first = key item
    · rw [if_pos hfirst, withKey, if_pos, List.map_cons, List.map_cons, hfirst]
      rw [List.map_cons, hfirst]
      exact List.mem_cons_self
    · rw [if_neg hfirst, List.map_cons, ih, List.map_cons, withKey, withKey]
      by_cases hm : key item ∈ rest.map key
      · rw [if_pos hm, if_pos (List.mem_cons_of_mem _ hm)]
      · have hm' : key item ∉ key first :: rest.map key :=
          List.not_mem_cons_of_ne_of_not_mem (Ne.symm hfirst) hm
        rw [if_neg hm, if_neg hm', List.cons_append]

theorem add_of_mem {items : List α} {item : α} (h : key item ∈ items.map key) :
    add key items item = items := by
  obtain ⟨other, hm, heq⟩ := List.mem_map.1 h
  exact if_pos (List.any_eq_true.2 ⟨other, hm, decide_eq_true heq⟩)

theorem add_of_not_mem {items : List α} {item : α} (h : key item ∉ items.map key) :
    add key items item = items ++ [item] := by
  apply if_neg
  rw [List.any_eq_true]
  rintro ⟨other, hm, heq⟩
  exact h (List.mem_map.2 ⟨other, hm, of_decide_eq_true heq⟩)

theorem map_add (items : List α) (item : α) :
    (add key items item).map key = withKey (items.map key) (key item) := by
  rw [withKey]
  by_cases h : key item ∈ items.map key
  · rw [if_pos h, add_of_mem h]
  · rw [if_neg h, add_of_not_mem h, List.map_append, List.map_singleton]

theorem nodup_withKey {keys : List κ} (h : keys.Nodup) (k : κ) : (withKey keys k).Nodup := by
  rw [withKey]
  by_cases hm : k ∈ keys
  · rw [if_pos hm]
    exact h
  · rw [if_neg hm]
    rw [List.nodup_append]
    refine ⟨h, List.pairwise_singleton _ k, ?_⟩
    rintro a ha b hb rfl
    exact hm (List.mem_singleton.1 hb ▸ ha)

theorem mem_withKey {keys : List κ} {k k' : κ} : k' ∈ withKey keys k ↔ k' ∈ keys ∨ k' = k := by
  rw [withKey]
  by_cases hm : k ∈ keys
  · rw [if_pos hm]
    exact ⟨Or.inl, fun h => h.elim id fun heq => heq ▸ hm⟩
  · rw [if_neg hm, List.mem_append, List.mem_singleton]

section

variable {step : List α → α → List α} {items additions : List α}

theorem nodup_foldl
    (hstep : ∀ items item, (step items item).map key = withKey (items.map key) (key item))
    (h : (items.map key).Nodup) : ((additions.foldl step items).map key).Nodup := by
  induction additions generalizing items with
  | nil => exact h
  | cons addition additions ih =>
    apply ih
    rw [hstep]
    exact nodup_withKey h _

theorem mem_map_foldl
    (hstep : ∀ items item, (step items item).map key = withKey (items.map key) (key item))
    {k : κ} :
    k ∈ (additions.foldl step items).map key ↔ k ∈ items.map key ∨ k ∈ additions.map key := by
  induction additions generalizing items with
  | nil => simp
  | cons addition additions ih =>
    rw [List.foldl_cons, ih, hstep, mem_withKey, List.map_cons, List.mem_cons, or_assoc]

end

/-! ## Merges -/

variable {existing additions : List α}

theorem nodup_collapse (items : List α) : ((collapse key items).map key).Nodup :=
  nodup_foldl map_put List.nodup_nil

theorem mem_map_collapse {items : List α} {k : κ} :
    k ∈ (collapse key items).map key ↔ k ∈ items.map key := by
  rw [collapse, mem_map_foldl map_put]
  simp

theorem nodup_merge : ((merge key existing additions).map key).Nodup :=
  nodup_foldl map_add (nodup_collapse existing)

theorem mem_map_merge {k : κ} :
    k ∈ (merge key existing additions).map key ↔ k ∈ existing.map key ∨ k ∈ additions.map key := by
  rw [merge, mem_map_foldl map_add, mem_map_collapse]

theorem put_of_not_mem {items : List α} {item : α} (h : key item ∉ items.map key) :
    put key items item = items ++ [item] := by
  induction items with
  | nil => rfl
  | cons first rest ih =>
    obtain ⟨hfirst, hrest⟩ := List.ne_and_not_mem_of_not_mem_cons h
    rw [put, if_neg (Ne.symm hfirst), ih hrest, List.cons_append]

/-- A list with distinct keys is collapsed already. -/
theorem collapse_of_nodup {items : List α} (h : (items.map key).Nodup) :
    collapse key items = items := by
  have hfold : ∀ rest done : List α, ((done ++ rest).map key).Nodup →
      rest.foldl (put key) done = done ++ rest := by
    intro rest
    induction rest with
    | nil => simp
    | cons item rest ih =>
      intro done hn
      have hnot : key item ∉ done.map key := by
        rw [List.map_append, List.nodup_append] at hn
        exact fun hm => hn.2.2 _ hm _ (List.mem_map_of_mem List.mem_cons_self) rfl
      rw [List.foldl_cons, put_of_not_mem hnot, ih, List.append_assoc, List.singleton_append]
      rw [List.append_assoc, List.singleton_append]
      exact hn
  exact hfold items [] h

/-- Nothing is added to a list that has all the keys. -/
theorem merge_eq_self (h : (existing.map key).Nodup)
    (ha : ∀ addition ∈ additions, key addition ∈ existing.map key) :
    merge key existing additions = existing := by
  rw [merge, collapse_of_nodup h]
  induction additions with
  | nil => rfl
  | cons addition additions ih =>
    rw [List.foldl_cons, add_of_mem (ha addition List.mem_cons_self)]
    exact ih fun other hm => ha other (List.mem_cons_of_mem _ hm)

/-- What is there stays in front, as it is. -/
theorem prefix_merge (h : (existing.map key).Nodup) :
    existing <+: merge key existing additions := by
  have hfold : ∀ items : List α, items <+: additions.foldl (add key) items := by
    induction additions with
    | nil => exact fun items => List.prefix_refl items
    | cons addition additions ih =>
      intro items
      refine List.IsPrefix.trans ?_ (ih _)
      by_cases hm : key addition ∈ items.map key
      · simp only [add_of_mem hm, List.prefix_refl]
      · rw [add_of_not_mem hm]
        exact List.prefix_append _ _
  rw [merge, collapse_of_nodup h]
  exact hfold existing

/-- To merge the same additions twice is to merge them once. -/
theorem merge_merge_self :
    merge key (merge key existing additions) additions = merge key existing additions :=
  merge_eq_self nodup_merge fun _ hm => mem_map_merge.2 (.inr (List.mem_map_of_mem hm))

/-! ## Elements -/

section

variable {items : List α} {item addition : α} {k : κ}

/-- Of distinct keys there is at most one element each. -/
theorem filter_of_nodup (h : (items.map key).Nodup) (k : κ) :
    (items.filter fun other => key other = k) =
      (items.find? fun other => key other = k).toList := by
  induction items with
  | nil => rfl
  | cons first rest ih =>
    obtain ⟨hfirst, hrest⟩ := List.nodup_cons.1 h
    rw [List.filter_cons, List.find?_cons]
    by_cases hk : key first = k
    · have hnone : (rest.filter fun other => key other = k) = [] := by
        rw [List.filter_eq_nil_iff]
        intro other hm ho
        rw [hk, ← of_decide_eq_true ho] at hfirst
        exact hfirst (List.mem_map_of_mem hm)
      simp [hk, hnone]
    · simp [hk, ih hrest]

theorem filter_of_mem (h : (items.map key).Nodup) (hm : item ∈ items) :
    (items.filter fun other => key other = key item) = [item] := by
  rw [filter_of_nodup h]
  cases hfound : items.find? fun other => key other = key item with
  | none => exact absurd (List.find?_eq_none.1 hfound item hm) (by simp)
  | some other =>
    have hk : key other = key item := by simpa using List.find?_some hfound
    rw [List.inj_on_of_nodup_map h (List.mem_of_find?_eq_some hfound) hm hk]
    rfl

/-- Of each key the last element is kept. -/
theorem find?_collapse (items : List α) (k : κ) :
    ((collapse key items).find? fun other => key other = k) =
      (items.filter fun other => key other = k).getLast? := by
  induction items using List.reverseRecOn with
  | nil => rfl
  | append_singleton items item ih =>
    rw [collapse, List.foldl_append, List.foldl_cons, List.foldl_nil, find?_put,
      List.filter_append, List.getLast?_append]
    by_cases hk : key item = k
    · simp [hk]
    · rw [if_neg hk]
      refine ih.trans ?_
      simp [hk]

theorem mem_of_mem_put (h : addition ∈ put key items item) :
    addition = item ∨ addition ∈ items := by
  induction items with
  | nil => exact .inl (List.mem_singleton.1 h)
  | cons first rest ih =>
    rw [put] at h
    split_ifs at h
    · exact (List.mem_cons.1 h).imp_right (List.mem_cons_of_mem _)
    · rcases List.mem_cons.1 h with rfl | hm
      · exact .inr List.mem_cons_self
      · exact (ih hm).imp_right (List.mem_cons_of_mem _)

theorem mem_of_mem_collapse (h : item ∈ collapse key items) : item ∈ items := by
  induction items using List.reverseRecOn with
  | nil => exact h
  | append_singleton items last ih =>
    rw [collapse, List.foldl_append] at h
    rcases mem_of_mem_put h with rfl | hm
    · exact List.mem_append_right _ List.mem_cons_self
    · exact List.mem_append_left _ (ih hm)

theorem mem_of_mem_add (h : item ∈ add key items addition) (hk : key item ∈ items.map key) :
    item ∈ items := by
  by_cases ha : key addition ∈ items.map key
  · rwa [add_of_mem ha] at h
  · rw [add_of_not_mem ha] at h
    rcases List.mem_append.1 h with hm | hm
    · exact hm
    · rw [List.mem_singleton.1 hm] at hk
      exact absurd hk ha

theorem mem_of_mem_foldl_add (h : item ∈ additions.foldl (add key) items)
    (hk : key item ∈ items.map key) : item ∈ items := by
  induction additions generalizing items with
  | nil => exact h
  | cons addition additions ih =>
    have hadd : key item ∈ (add key items addition).map key := by
      rw [map_add]
      exact mem_withKey.2 (.inl hk)
    exact mem_of_mem_add (ih h hadd) hk

/-- An element whose key was there before was there itself. -/
theorem mem_of_mem_merge (h : item ∈ merge key existing additions)
    (hk : key item ∈ existing.map key) : item ∈ existing :=
  mem_of_mem_collapse (mem_of_mem_foldl_add h (mem_map_collapse.2 hk))

end

end RoleDiscovery.Keyed
