import Mathlib.Data.List.Nodup
import Mathlib.Tactic.Common

/-!
# Stable sorting

Sorting by a text keeps the elements of one text in order. So what is lost by sorting is how the
elements of different texts stood to each other, and nothing else.

Results:

* `filter_mergeSort`: the elements of one key stay in order.
* `mergeSort_eq_iff`: two lists are sorted to the same if they have the same elements of each key in
  the same order.
* `mergeSort_eq_of_perm`: if no two elements share a key then only the elements count.
* `eq_of_mergeSort_eq`: a list is known by its keys and by what it is sorted to.
-/

namespace RoleDiscovery

variable {α : Type} {key : α → String} {x y : List α}

/-! ## Elements of one key -/

/-- Sorting by a key keeps the elements of one key in order. -/
theorem filter_mergeSort (key : α → String) (x : List α) (name : String) :
    (x.mergeSort fun a b => key a ≤ key b).filter (fun a => key a = name) =
      x.filter fun a => key a = name := by
  have hle : ∀ a b c : α, key a ≤ key b → key b ≤ key c → key a ≤ key c := fun _ _ _ =>
    String.le_trans
  have htotal : ∀ a b : α, key a ≤ key b ∨ key b ≤ key a := fun _ _ => String.le_total _ _
  have hpair : (x.filter fun a => key a = name).Pairwise fun a b => decide (key a ≤ key b) := by
    apply List.pairwise_of_forall_mem_list
    intro a ha b hb
    have hka := (List.mem_filter.1 ha).2
    have hkb := (List.mem_filter.1 hb).2
    rw [decide_eq_true_eq] at hka hkb ⊢
    refine String.not_lt.1 fun hlt => String.lt_irrefl name ?_
    rw [hka, hkb] at hlt
    exact hlt
  -- they are sorted, so they stand in the sorted list in their order, and there are no others
  have hsub : (x.filter fun a => key a = name).Sublist (x.mergeSort fun a b => key a ≤ key b) :=
    List.sublist_mergeSort (by simpa using hle) (by simpa using htotal) hpair List.filter_sublist
  have hfilter := hsub.filter fun a => decide (key a = name)
  rw [List.filter_filter] at hfilter
  simp only [Bool.and_self] at hfilter
  have hlen := ((List.mergeSort_perm x fun a b => key a ≤ key b).filter
    fun a => decide (key a = name)).length_eq
  exact (hfilter.eq_of_length hlen.symm).symm

/-- A list is known by its keys and by its elements of each key. -/
theorem eq_of_filter_eq (hkeys : x.map key = y.map key)
    (h : ∀ name, x.filter (fun a => key a = name) = y.filter fun a => key a = name) : x = y := by
  induction x generalizing y with
  | nil => exact (List.map_eq_nil_iff.1 hkeys.symm).symm
  | cons a x ih =>
    obtain ⟨b, y, rfl⟩ := List.exists_cons_of_ne_nil
      (show y ≠ [] by
        rintro rfl
        exact absurd hkeys (by simp))
    obtain ⟨hab, hrest⟩ := List.cons.inj hkeys
    have hhead := h (key a)
    simp only [List.filter_cons, hab, decide_true, if_true] at hhead
    obtain ⟨rfl, -⟩ := List.cons.inj hhead
    rw [ih hrest fun name => ?_]
    have htail := h name
    by_cases hn : key a = name
    · simp only [List.filter_cons, hn, decide_true, if_true] at htail
      exact (List.cons.inj htail).2
    · simpa only [List.filter_cons, hn, decide_false, if_false, Bool.false_eq_true] using htail

/-- Two lists with the same elements of each key have the same keys, up to their order. -/
theorem perm_map_of_filter_eq
    (h : ∀ name, x.filter (fun a => key a = name) = y.filter fun a => key a = name) :
    (x.map key).Perm (y.map key) := by
  have hcount : ∀ (z : List α) (name : String),
      (z.map key).count name = (z.filter fun a => key a = name).length := by
    intro z name
    rw [← List.countP_eq_length_filter, List.count, List.countP_map]
    congr 1
  rw [List.perm_iff_count]
  intro name
  rw [hcount, hcount, h]

/-! ## Sorted lists -/

theorem pairwise_mergeSort (key : α → String) (x : List α) :
    (x.mergeSort fun a b => key a ≤ key b).Pairwise fun a b => key a ≤ key b := by
  have hsorted : (x.mergeSort fun a b => key a ≤ key b).Pairwise
      fun a b => decide (key a ≤ key b) = true :=
    List.pairwise_mergeSort (by simpa using fun _ _ _ => String.le_trans)
      (by simpa using fun _ _ => String.le_total _ _) x
  simpa only [decide_eq_true_eq] using hsorted

/-- Two lists are sorted to the same if they have the same elements of each key in the same
order. -/
theorem mergeSort_eq_iff :
    ((x.mergeSort fun a b => key a ≤ key b) = y.mergeSort fun a b => key a ≤ key b) ↔
      ∀ name, x.filter (fun a => key a = name) = y.filter fun a => key a = name := by
  constructor
  · intro h name
    rw [← filter_mergeSort key x, ← filter_mergeSort key y, h]
  · intro h
    have hfilter : ∀ name,
        (x.mergeSort fun a b => key a ≤ key b).filter (fun a => key a = name) =
          (y.mergeSort fun a b => key a ≤ key b).filter fun a => key a = name := by
      intro name
      rw [filter_mergeSort, filter_mergeSort, h]
    refine eq_of_filter_eq ?_ hfilter
    refine (perm_map_of_filter_eq hfilter).eq_of_pairwise (fun _ _ _ _ => String.le_antisymm)
      ?_ ?_
    · exact List.pairwise_map.2 (pairwise_mergeSort key x)
    · exact List.pairwise_map.2 (pairwise_mergeSort key y)

/-- Two lists that are sorted to the same are permutations of each other. -/
theorem perm_of_mergeSort_eq
    (h : (x.mergeSort fun a b => key a ≤ key b) = y.mergeSort fun a b => key a ≤ key b) :
    x.Perm y := by
  have hx := List.mergeSort_perm x fun a b => decide (key a ≤ key b)
  rw [h] at hx
  exact hx.symm.trans (List.mergeSort_perm y _)

/-- If no two elements share a key then a list is sorted to the same in whatever order it is. -/
theorem mergeSort_eq_of_perm (hn : (x.map key).Nodup) (h : x.Perm y) :
    (x.mergeSort fun a b => key a ≤ key b) = y.mergeSort fun a b => key a ≤ key b := by
  rw [mergeSort_eq_iff]
  intro name
  have hle : (x.filter fun a => key a = name).length ≤ 1 := by
    have hcount := List.nodup_iff_count_le_one.1 hn name
    rw [List.count, List.countP_map, List.countP_eq_length_filter] at hcount
    exact hcount
  have hperm := h.filter fun a => decide (key a = name)
  match hx : x.filter fun a => key a = name, hle with
  | [], _ =>
    rw [hx] at hperm
    exact hperm.nil_eq
  | [a], _ =>
    rw [hx] at hperm
    exact hperm.singleton_eq

/-- Two lists with the same keys are the same if they are once they have been sorted by key. -/
theorem eq_of_mergeSort_eq (hkeys : x.map key = y.map key)
    (h : (x.mergeSort fun a b => key a ≤ key b) = y.mergeSort fun a b => key a ≤ key b) :
    x = y :=
  eq_of_filter_eq hkeys (mergeSort_eq_iff.1 h)

end RoleDiscovery
