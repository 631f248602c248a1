import RoleDiscovery.Proofs.Environment

/-!
# The one list that variables are merged to

What comes of a merge is known without the way it is made: it ascends by name, it has the names of
both lists, and of each name it has the last variable, as a whole. There is only one such list, so
that nothing but the last variable of each name counts. To merge in steps, or variables with
distinct names in another order, leaves that the same.

Results:

* `EnvVar.last?`, `EnvVar.Merged`: the last variable of a name, and what a merge comes to.
* `EnvVar.Merged.mem_iff`, `EnvVar.Merged.unique`: it has the last variables and no others.
* `EnvVar.merge_congr`: a merge is known by the last variables.
* `EnvVar.merge_perm_left`, `EnvVar.merge_perm_right`: the order of distinct names does not count.
* `EnvVar.merge_canonical`: what a merge comes to, in one step or several, in any order.
-/

namespace RoleDiscovery.EnvVar

variable {env other overrides rest merged merged' : List EnvVar} {k : String} {envVar : EnvVar}

/-! ## Last variables -/

/-- The last variable of a name. -/
def last? (k : String) (env : List EnvVar) : Option EnvVar :=
  (env.filter fun envVar => envVar.name = k).getLast?

theorem last?_append : last? k (env ++ rest) = (last? k rest).or (last? k env) := by
  rw [last?, List.filter_append, List.getLast?_append]
  rfl

theorem mem_of_last? (h : last? k env = some envVar) : envVar ∈ env :=
  (List.mem_filter.1 (List.mem_of_getLast? h)).1

/-- Of distinct names the order does not matter: of each there is at most one variable. -/
theorem last?_perm (h : env.Perm other) (hn : (env.map EnvVar.name).Nodup) (k : String) :
    last? k env = last? k other := by
  have hperm := h.filter fun envVar => envVar.name = k
  rw [Keyed.filter_of_nodup hn] at hperm
  rw [last?, last?, Keyed.filter_of_nodup hn]
  cases hfound : env.find? fun envVar => envVar.name = k with
  | none =>
    rw [hfound] at hperm
    rw [hperm.symm.eq_nil]
    rfl
  | some found =>
    rw [hfound] at hperm
    rw [hperm.symm.eq_singleton]
    rfl

/-! ## What a merge comes to -/

/-- What two lists of variables are merged to. -/
structure Merged (env overrides merged : List EnvVar) : Prop where
  /-- Names ascend by code point, so none occurs twice. -/
  ascending : merged.Pairwise fun a b => a.name < b.name
  /-- No name is lost, and none comes from elsewhere. -/
  names : ∀ k, k ∈ merged.map EnvVar.name ↔
    k ∈ env.map EnvVar.name ∨ k ∈ overrides.map EnvVar.name
  /-- Of each name there is the last variable, with its value and its source. -/
  last : ∀ envVar ∈ merged, last? envVar.name (env ++ overrides) = some envVar

theorem Merged.mem_iff (h : Merged env overrides merged) :
    envVar ∈ merged ↔ last? envVar.name (env ++ overrides) = some envVar := by
  refine ⟨h.last envVar, fun hlast => ?_⟩
  have hname : envVar.name ∈ merged.map EnvVar.name := by
    rw [h.names, ← List.mem_append, ← List.map_append]
    exact List.mem_map_of_mem (mem_of_last? hlast)
  obtain ⟨found, hfound, heq⟩ := List.mem_map.1 hname
  have hsame := h.last found hfound
  rw [heq, hlast] at hsame
  exact Option.some.inj hsame ▸ hfound

theorem Merged.nodup (h : Merged env overrides merged) : merged.Nodup := by
  refine h.ascending.imp ?_
  rintro a _ hlt rfl
  exact String.lt_irrefl _ hlt

/-- Nothing but the last variables counts, since lists that ascend by name are the same if they have
the same variables. -/
theorem Merged.eq_of_last? (h : Merged env overrides merged) (h' : Merged other rest merged')
    (hlast : ∀ k, last? k (env ++ overrides) = last? k (other ++ rest)) : merged = merged' := by
  have hperm : merged.Perm merged' := by
    rw [List.perm_ext_iff_of_nodup h.nodup h'.nodup]
    intro envVar
    rw [h.mem_iff, h'.mem_iff, hlast]
  refine hperm.eq_of_pairwise ?_ h.ascending h'.ascending
  intro a b _ _ hab hba
  exact absurd (String.lt_trans hab hba) (String.lt_irrefl _)

theorem Merged.unique (h : Merged env overrides merged) (h' : Merged env overrides merged') :
    merged = merged' :=
  h.eq_of_last? h' fun _ => rfl

theorem merged_merge (env overrides : List EnvVar) :
    Merged env overrides (merge env overrides) where
  ascending := by
    have hmap : ((merge env overrides).map named).Pairwise fun a b => a.1 < b.1 := by
      rw [map_named_merge]
      exact SortedMap.ascending _
    rwa [List.pairwise_map] at hmap
  names _ := mem_map_name_merge
  last envVar hm := by
    have hfilter : envVar ∈ (merge env overrides).filter fun found => found.name = envVar.name :=
      List.mem_filter.2 ⟨hm, decide_eq_true rfl⟩
    rwa [filter_merge, Option.mem_toList] at hfilter

/-! ## Merges of other lists -/

/-- Lists with the same last variables are merged to the same. -/
theorem merge_congr (h : ∀ k, last? k (env ++ overrides) = last? k (other ++ rest)) :
    merge env overrides = merge other rest :=
  (merged_merge env overrides).eq_of_last? (merged_merge other rest) h

theorem merge_perm_left (h : env.Perm other) (hn : (env.map EnvVar.name).Nodup) :
    merge other overrides = merge env overrides :=
  merge_congr fun k => by rw [last?_append, last?_append, last?_perm h hn]

theorem merge_perm_right (h : overrides.Perm rest) (hn : (overrides.map EnvVar.name).Nodup) :
    merge env rest = merge env overrides :=
  merge_congr fun k => by rw [last?_append, last?_append, last?_perm h hn]

/-- Variables are merged to the one list that ascends by name, has the names of both lists and of
each name the last variable. So to merge in steps is to merge at once, to merge again changes
nothing, and distinct names may come in any order. -/
theorem merge_canonical (env first second : List EnvVar) :
    (∀ merged, Merged env first merged ↔ merged = merge env first) ∧
      merge (merge env first) second = merge env (first ++ second) ∧
      merge (merge env first) first = merge env first ∧
      (∀ shuffled, env.Perm shuffled → (env.map EnvVar.name).Nodup →
        merge shuffled first = merge env first) ∧
      ∀ shuffled, first.Perm shuffled → (first.map EnvVar.name).Nodup →
        merge env shuffled = merge env first := by
  refine ⟨fun merged => ⟨fun h => ?_, ?_⟩, merge_merge, merge_merge_self, ?_, ?_⟩
  · exact h.unique (merged_merge env first)
  · rintro rfl
    exact merged_merge env first
  · exact fun _ => merge_perm_left
  · exact fun _ => merge_perm_right

/-- Two variables are merged with others in both orders: one of them is replaced, and the source of
its value is not kept beside the new value. -/
theorem merge_canonical_of_shuffled :
    let index := EnvVar.ofPodLabel roleIndexVariable podIndexLabel
    let path := EnvVar.ofValue "PATH" "/bin"
    let late := EnvVar.ofValue roleIndexVariable "7"
    [path, index].Perm [index, path] ∧ ([path, index].map EnvVar.name).Nodup ∧
      merge [index, path] [late] = merge [path, index] [late] ∧
      merge [path, index] [late] = [path, late] := by
  intro index path late
  have hperm : [path, index].Perm [index, path] := .swap index path []
  have hnodup : ([path, index].map EnvVar.name).Nodup := by decide
  have hcanonical := merge_canonical [path, index] [late] []
  exact ⟨hperm, hnodup, hcanonical.2.2.2.1 _ hperm hnodup, by decide⟩

end RoleDiscovery.EnvVar
