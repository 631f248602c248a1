import RoleDiscovery.Environment
import RoleDiscovery.Proofs.SortedMap

/-!
# Laws of merged variables

Results:

* `EnvVar.merge_merge`: to merge in two steps is to merge both lists at once.
* `EnvVar.merge_merge_self`: to merge the same variables twice is to merge them once.
* `EnvVar.mem_map_name_merge`: no name is lost, and none comes from elsewhere.
* `EnvVar.filter_merge`: of each name the last variable is kept.
-/

namespace RoleDiscovery.EnvVar

variable {env first second : List EnvVar}

/-- A variable under its name. -/
def named (envVar : EnvVar) : String × EnvVar :=
  (envVar.name, envVar)

/-- The merged variables are the values of a map by name, each under its own name. -/
theorem map_named_merge (env overrides : List EnvVar) :
    (merge env overrides).map named =
      (SortedMap.ofList ((env ++ overrides).map named)).entries := by
  show ((SortedMap.ofList ((env ++ overrides).map named)).entries.map Prod.snd).map named = _
  rw [List.map_map]
  conv_rhs => rw [← List.map_id (SortedMap.ofList ((env ++ overrides).map named)).entries]
  apply List.map_congr_left
  intro entry hentry
  obtain ⟨envVar, -, rfl⟩ := List.mem_map.1 (SortedMap.mem_of_mem_ofList hentry)
  rfl

theorem merge_eq_of_entries {overrides other rest : List EnvVar}
    (h : SortedMap.ofList ((env ++ overrides).map named) =
      SortedMap.ofList ((other ++ rest).map named)) :
    merge env overrides = merge other rest :=
  congrArg SortedMap.values h

theorem merge_merge : merge (merge env first) second = merge env (first ++ second) := by
  apply merge_eq_of_entries
  rw [List.map_append, map_named_merge, SortedMap.ofList_entries_append, ← List.map_append,
    List.append_assoc]

theorem merge_merge_self : merge (merge env first) first = merge env first := by
  rw [merge_merge]
  apply merge_eq_of_entries
  rw [← List.append_assoc, List.map_append, List.map_append, SortedMap.ofList_append_append_self,
    ← List.map_append]

/-- The names of merged variables are those of both lists. -/
theorem mem_map_name_merge {name : String} :
    name ∈ (merge env first).map EnvVar.name ↔
      name ∈ env.map EnvVar.name ∨ name ∈ first.map EnvVar.name := by
  have hfst : ∀ vars : List EnvVar, (vars.map named).map Prod.fst = vars.map EnvVar.name :=
    fun vars => by rw [List.map_map]; rfl
  have hkeys : (merge env first).map EnvVar.name =
      (SortedMap.ofList ((env ++ first).map named)).keys := by
    rw [← hfst, map_named_merge]
    rfl
  rw [hkeys, SortedMap.mem_keys_ofList, hfst, List.map_append, List.mem_append]

/-- Of each name the last variable is kept, once. -/
theorem filter_merge (env overrides : List EnvVar) (name : String) :
    ((merge env overrides).filter fun envVar => envVar.name = name) =
      ((env ++ overrides).filter fun envVar => envVar.name = name).getLast?.toList := by
  have hsnd : ∀ vars : List EnvVar, (vars.map named).map Prod.snd = vars := fun vars => by
    rw [List.map_map]
    exact List.map_id vars
  have hfilter : ∀ vars : List EnvVar,
      ((vars.map named).filter fun entry => entry.1 = name) =
        (vars.filter fun envVar => envVar.name = name).map named := fun vars =>
    List.filter_map
  have hnamed : ((merge env overrides).filter fun envVar => envVar.name = name).map named =
      (((env ++ overrides).filter fun envVar => envVar.name = name).getLast?.map
        fun envVar => (name, envVar)).toList := by
    rw [← hfilter, map_named_merge, SortedMap.filter_entries, SortedMap.find?_ofList,
      SortedMap.last?, hfilter, List.getLast?_map, Option.map_map, Option.map_map]
    rfl
  have h := congrArg (List.map Prod.snd) hnamed
  rw [hsnd] at h
  rw [h]
  cases ((env ++ overrides).filter fun envVar => envVar.name = name).getLast? <;> rfl

end RoleDiscovery.EnvVar
