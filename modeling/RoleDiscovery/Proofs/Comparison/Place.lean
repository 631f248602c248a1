import Mathlib.Data.List.Nodup
import Mathlib.Data.List.Infix
import RoleDiscovery.Proofs.Comparison.Basic

/-!
# Where values differ

Each difference of two values stands at a place in them and says something of what is there. The
differences that stand within a part are the differences of that part.

Results:

* `Json.mem_differencesAt`: what a difference says, carried down from the two values.
* `Json.tells_of_place`: what a difference says at the place of the two values themselves.
* `Json.differences_within_field`, `Json.differences_within_item`: the differences within a part.
* `Json.differences_at_list`: the difference at a list itself is that in length.
-/

namespace RoleDiscovery

/-- The place at which a difference stands. -/
def Difference.place : Difference → Path
  | .oldAbsent | .newAbsent => []
  | .value path _ _ | .length path _ _ => path

/-- A difference tells two values at a place apart: it shows both, which differ and are not both
empty, or the lengths of both, which are lists or null. -/
inductive Difference.Tells (path : Path) (old new : Json) : Difference → Prop
  | value (hne : old.equals new = false) (h : (old.isEmpty && new.isEmpty) = false) :
    Tells path old new (.value path old new)
  | length {x y : List Json} (hold : old.asList? = some x) (hnew : new.asList? = some y)
    (hne : x.length ≠ y.length) : Tells path old new (.length path x.length y.length)

theorem Difference.Tells.place_eq {path : Path} {old new : Json} {d : Difference}
    (h : d.Tells path old new) : d.place = path := by
  cases h <;> rfl

namespace Json

variable {path : Path} {old new : Json} {a b : List (String × Json)} {x y : List Json}
  {d : Difference}

/-! ## Origins -/

theorem tells_of_mem_lengthDifference (hold : old.asList? = some x) (hnew : new.asList? = some y)
    (hd : d ∈ lengthDifference path x y) : d.Tells path old new := by
  rw [lengthDifference] at hd
  split_ifs at hd with hlen
  · cases hd
  · obtain rfl := List.mem_singleton.1 hd
    exact .length hold hnew hlen

theorem tells_of_mem_whole (h : Apart old new) (hd : d ∈ differencesAt path old new) :
    d.Tells path old new := by
  rw [differencesAt_whole h] at hd
  split_ifs at hd with hempty heq
  · cases hd
  · cases hd
  · obtain rfl := List.mem_singleton.1 hd
    exact .value (Bool.eq_false_iff.2 heq) (Bool.eq_false_iff.2 hempty)

/-- What holds of the two values that are compared, and with two values of the parts that are
compared, holds of the two values that a difference tells apart. -/
theorem mem_differencesAt {motive : Path → Json → Json → Prop}
    (field : ∀ path a b name, name ∈ fieldNames a b → motive path (.object a) (.object b) →
      motive (path ++ [.field name]) (fieldOrNull a name) (fieldOrNull b name))
    (item : ∀ path old new x y index, old.asList? = some x → new.asList? = some y →
      motive path old new →
      motive (path ++ [.item index]) (itemOrNull x index) (itemOrNull y index))
    (h : motive path old new) (hd : d ∈ differencesAt path old new) :
    ∃ place u v, motive place u v ∧ d.Tells place u v := by
  induction old, new using layout_induction generalizing path with
  | fields a b ih =>
    rw [differencesAt_fields] at hd
    obtain ⟨name, hname, hd⟩ := List.mem_flatMap.1 hd
    exact ih name (field _ _ _ _ hname h) hd
  | items old new x y hold hnew ih =>
    rw [differencesAt_items hold hnew] at hd
    rcases List.mem_append.1 hd with hd | hd
    · exact ⟨path, old, new, h, tells_of_mem_lengthDifference hold hnew hd⟩
    · obtain ⟨index, hindex, hd⟩ := List.mem_flatMap.1 hd
      exact ih index (List.mem_range.1 hindex) (item _ _ _ _ _ _ hold hnew h) hd
  | whole old new hapart => exact ⟨path, old, new, h, tells_of_mem_whole hapart hd⟩

/-- A difference stands at the place of the values that are compared, or within. -/
theorem prefix_place (hd : d ∈ differencesAt path old new) : path <+: d.place := by
  have hprefix := mem_differencesAt (motive := fun place _ _ => path <+: place)
    (fun _ _ _ _ _ h => h.trans (List.prefix_append _ _))
    (fun _ _ _ _ _ _ _ _ h => h.trans (List.prefix_append _ _)) List.prefix_rfl hd
  obtain ⟨place, u, v, hplace, htells⟩ := hprefix
  rwa [htells.place_eq]

/-! ## Parts -/

/-- Two parts of a value have no place in common. -/
theorem step_unique {s t : Step} {place : Path} (hs : path ++ [s] <+: place)
    (ht : path ++ [t] <+: place) : s = t := by
  have hle : (path ++ [s]).length ≤ (path ++ [t]).length := by simp
  have heq := (List.prefix_of_prefix_length_le hs ht hle).eq_of_length (by simp)
  simpa using heq

/-- Of lists that are joined, those elements that belong to one of them are the elements of that
one. -/
theorem filter_flatMap_of_unique {β γ : Type} [DecidableEq β] {index : List β}
    (hn : index.Nodup) {f : β → List γ} {keep : γ → Bool} (b : β) (hb : b ∉ index → f b = [])
    (hself : ∀ c ∈ f b, keep c = true) (hother : ∀ a ≠ b, ∀ c ∈ f a, keep c = false) :
    (index.flatMap f).filter keep = f b := by
  have hkept : (f b).filter keep = f b := List.filter_eq_self.2 hself
  have hnone : ∀ a ≠ b, (f a).filter keep = [] := fun a ha =>
    List.filter_eq_nil_iff.2 fun c hc => by simp [hother a ha c hc]
  induction index with
  | nil => exact (hb List.not_mem_nil).symm
  | cons a index ih =>
    obtain ⟨ha, hindex⟩ := List.nodup_cons.1 hn
    rw [List.flatMap_cons, List.filter_append]
    by_cases hab : a = b
    · subst hab
      have hrest : (index.flatMap f).filter keep = [] := by
        rw [List.filter_flatMap, List.flatMap_eq_nil_iff]
        exact fun c hc => hnone c fun h => ha (h ▸ hc)
      rw [hkept, hrest, List.append_nil]
    · rw [hnone a hab, List.nil_append]
      exact ih hindex fun h => hb fun hm => h ((List.mem_cons.1 hm).resolve_left (Ne.symm hab))

/-- Whether a difference stands within a part. -/
def within (path : Path) (d : Difference) : Bool :=
  decide (path <+: d.place)

theorem within_of_mem (hd : d ∈ differencesAt path old new) : within path d = true :=
  decide_eq_true (prefix_place hd)

theorem within_other {s t : Step} (hst : s ≠ t) (hd : d ∈ differencesAt (path ++ [s]) old new) :
    within (path ++ [t]) d = false :=
  decide_eq_false fun h => hst (step_unique (prefix_place hd) h)

theorem nodup_fieldNames (a b : List (String × Json)) : (fieldNames a b).Nodup :=
  SortedMap.nodup_keys _

/-- The differences of two objects within a field are those of the field. -/
theorem differences_within_field (name : String) :
    (differencesAt path (.object a) (.object b)).filter (within (path ++ [.field name])) =
      differencesAt (path ++ [.field name]) (fieldOrNull a name) (fieldOrNull b name) := by
  rw [differencesAt_fields]
  refine filter_flatMap_of_unique (nodup_fieldNames a b) name ?_ (fun d hd => within_of_mem hd) ?_
  · intro hname
    rw [mem_fieldNames, not_or] at hname
    rw [fieldOrNull_eq_null hname.1, fieldOrNull_eq_null hname.2]
    exact differencesAt_of_isEmpty rfl rfl
  · intro other hne d hd
    exact within_other (fun h => hne (Step.field.inj h)) hd

/-- No difference within a part stands at the whole. -/
theorem place_ne {s : Step} (hd : d ∈ differencesAt (path ++ [s]) old new) : d.place ≠ path := by
  intro heq
  have hle := (prefix_place hd).length_le
  rw [heq, List.length_append, List.length_singleton] at hle
  omega

/-- A difference at the place of the values that are compared tells just these apart. -/
theorem tells_of_place (hd : d ∈ differencesAt path old new) (hp : d.place = path) :
    d.Tells path old new := by
  cases layout old new with
  | fields a b =>
    rw [differencesAt_fields] at hd
    obtain ⟨name, -, hd⟩ := List.mem_flatMap.1 hd
    exact absurd hp (place_ne hd)
  | items hold hnew =>
    rw [differencesAt_items hold hnew] at hd
    rcases List.mem_append.1 hd with hd | hd
    · exact tells_of_mem_lengthDifference hold hnew hd
    · obtain ⟨index, -, hd⟩ := List.mem_flatMap.1 hd
      exact absurd hp (place_ne hd)
  | whole h => exact tells_of_mem_whole h hd

theorem place_of_mem_lengthDifference (hd : d ∈ lengthDifference path x y) : d.place = path := by
  have htells : d.Tells path (.array x) (.array y) := tells_of_mem_lengthDifference rfl rfl hd
  exact htells.place_eq

/-- The differences of two lists within an item are those of the item. -/
theorem differences_within_item (hold : old.asList? = some x) (hnew : new.asList? = some y)
    (index : Nat) : (differencesAt path old new).filter (within (path ++ [.item index])) =
      differencesAt (path ++ [.item index]) (itemOrNull x index) (itemOrNull y index) := by
  rw [differencesAt_items hold hnew, List.filter_append]
  have hlength : (lengthDifference path x y).filter (within (path ++ [.item index])) = [] := by
    refine List.filter_eq_nil_iff.2 fun d hd hwithin => ?_
    have hle := (of_decide_eq_true hwithin).length_le
    rw [place_of_mem_lengthDifference hd, List.length_append, List.length_singleton] at hle
    omega
  rw [hlength, List.nil_append]
  refine filter_flatMap_of_unique List.nodup_range index ?_ (fun d hd => within_of_mem hd) ?_
  · intro hindex
    rw [List.mem_range, Nat.not_lt, Nat.max_le] at hindex
    rw [itemOrNull, itemOrNull, List.getElem?_eq_none hindex.1, List.getElem?_eq_none hindex.2]
    exact differencesAt_of_isEmpty rfl rfl
  · intro other hne d hd
    exact within_other (fun h => hne (Step.item.inj h)) hd

/-- At the place of two lists there stands their difference in length, and nothing else. -/
theorem differences_at_list (hold : old.asList? = some x) (hnew : new.asList? = some y) :
    (differencesAt path old new).filter (fun d => d.place = path) = lengthDifference path x y := by
  rw [differencesAt_items hold hnew, List.filter_append]
  have hlength : (lengthDifference path x y).filter (fun d => d.place = path) =
      lengthDifference path x y :=
    List.filter_eq_self.2 fun d hd => decide_eq_true (place_of_mem_lengthDifference hd)
  have hitems : ((List.range (max x.length y.length)).flatMap fun index =>
      differencesAt (path ++ [.item index]) (itemOrNull x index)
        (itemOrNull y index)).filter (fun d => d.place = path) = [] := by
    rw [List.filter_flatMap, List.flatMap_eq_nil_iff]
    intro index _
    refine List.filter_eq_nil_iff.2 fun d hd => ?_
    rw [decide_eq_true_eq]
    exact place_ne hd
  rw [hlength, hitems, List.append_nil]

end Json

end RoleDiscovery
