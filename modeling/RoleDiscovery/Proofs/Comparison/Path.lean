import Mathlib.Data.List.Induction
import RoleDiscovery.Comparison.Basic
import RoleDiscovery.Proofs.Text.Digit
import RoleDiscovery.Proofs.Text.Split

/-!
# The texts of places

If the names of fields consist of letters then no two places have the same text, and none has a
colon in its text. The text of a place is taken apart from its end: a bracket closes an index, and a
letter belongs to a name.

Results:

* `isPlainName`, `Step.IsPlain`: names of letters.
* `Path.text_inj`: places are known by their texts.
* `Path.colon_notMem_text`: there is no colon in the text of a place.
-/

namespace RoleDiscovery

/-- Whether a name consists of letters, of one at least. -/
def isPlainName (name : String) : Bool :=
  !name.toList.isEmpty && name.toList.all Char.isAlpha

/-- Whether a step leads to an item, or to a field with a name of letters. -/
def Step.isPlain : Step → Bool
  | .field name => isPlainName name
  | .item _ => true

namespace Path

variable {p q : Path} {name : String}

/-! ## Steps -/

theorem ne_nil_of_isPlainName (h : isPlainName name = true) : name.toList ≠ [] := by
  simp only [isPlainName, Bool.and_eq_true, Bool.not_eq_true', List.isEmpty_eq_false_iff] at h
  exact h.1

theorem isAlpha_of_isPlainName (h : isPlainName name = true) :
    ∀ c ∈ name.toList, c.isAlpha = true := by
  simp only [isPlainName, Bool.and_eq_true, List.all_eq_true] at h
  exact h.2

theorem text_concat (p : Path) (step : Step) : text (p ++ [step]) = step.extend p.text := by
  rw [text, text, List.foldl_append]
  rfl

/-- What stands in front of a name, from its end: nothing, or a dot and then the rest. -/
def frontOf (path : String) : List Char :=
  if path.toList = [] then [] else '.' :: path.toList.reverse

theorem frontOf_inj {x y : String} (h : frontOf x = frontOf y) : x = y := by
  rw [frontOf, frontOf] at h
  apply String.toList_inj.1
  split_ifs at h with hx hy hy
  · rw [hx, hy]
  · exact List.reverse_inj.1 (List.cons.inj h).2

theorem isAlpha_head_frontOf (x : String) : ∀ c ∈ (frontOf x).head?, c.isAlpha = false := by
  intro c hc
  rw [frontOf] at hc
  split_ifs at hc
  · cases hc
  · obtain rfl := Option.some.inj hc
    rfl

/-- A name stands at the end of a text, set off by a dot from what is in front of it. -/
theorem reverse_extend_field (path name : String) :
    ((Step.field name).extend path).toList.reverse = name.toList.reverse ++ frontOf path := by
  rw [Step.extend, frontOf]
  by_cases h : path = ""
  · subst h
    exact (List.append_nil _).symm
  · have hne : path.toList ≠ [] := fun hnil => h (String.toList_eq_nil_iff.1 hnil)
    have hempty : path.isEmpty = false := by simpa using h
    rw [hempty, if_neg hne, if_neg Bool.false_ne_true]
    simp

/-- An index stands at the end of a text in brackets. -/
theorem reverse_extend_item (path : String) (index : Nat) :
    ((Step.item index).extend path).toList.reverse =
      ']' :: ((Nat.toDigits 10 index).reverse ++ '[' :: path.toList.reverse) := by
  rw [Step.extend]
  simp

section

variable {s t : Step} {x y : String}

theorem isAlpha_reverse_of_isPlainName (h : isPlainName name = true) :
    ∀ c ∈ name.toList.reverse, c.isAlpha = true := fun c hc =>
  isAlpha_of_isPlainName h c (List.mem_reverse.1 hc)

theorem extend_field_inj {other : String} (hname : isPlainName name = true)
    (hother : isPlainName other = true)
    (h : (Step.field name).extend x = (Step.field other).extend y) :
    name = other ∧ x = y := by
  have htext := congrArg (List.reverse ∘ String.toList) h
  rw [Function.comp_apply, Function.comp_apply, reverse_extend_field, reverse_extend_field] at htext
  obtain ⟨heq, hfront⟩ := Text.append_inj_of_stop (isAlpha_reverse_of_isPlainName hname)
    (isAlpha_reverse_of_isPlainName hother) (isAlpha_head_frontOf x) (isAlpha_head_frontOf y) htext
  exact ⟨String.toList_inj.1 (List.reverse_inj.1 heq), frontOf_inj hfront⟩

theorem extend_item_inj {m n : Nat} (h : (Step.item m).extend x = (Step.item n).extend y) :
    m = n ∧ x = y := by
  have htext := congrArg (List.reverse ∘ String.toList) h
  rw [Function.comp_apply, Function.comp_apply, reverse_extend_item, reverse_extend_item] at htext
  have hdigits : ∀ k : Nat, ∀ c ∈ (Nat.toDigits 10 k).reverse, c.isDigit = true := fun k c hc =>
    Nat.isDigit_of_mem_toDigits (by decide) (by decide) (List.mem_reverse.1 hc)
  have hbracket : ∀ cs : List Char, ∀ c ∈ ('[' :: cs).head?, c.isDigit = false := by
    rintro cs c ⟨⟩
    rfl
  obtain ⟨heq, hrest⟩ := Text.append_inj_of_stop (hdigits m) (hdigits n) (hbracket _) (hbracket _)
    (List.cons.inj htext).2
  refine ⟨?_, String.toList_inj.1 (List.reverse_inj.1 (List.cons.inj hrest).2)⟩
  rw [← Text.ofDigits_toDigits m, List.reverse_inj.1 heq, Text.ofDigits_toDigits]

theorem extend_field_ne_item {index : Nat} (hname : isPlainName name = true) :
    (Step.field name).extend x ≠ (Step.item index).extend y := by
  intro h
  have htext := congrArg (List.reverse ∘ String.toList) h
  rw [Function.comp_apply, Function.comp_apply, reverse_extend_field, reverse_extend_item] at htext
  obtain ⟨c, cs, hcs⟩ := List.exists_cons_of_ne_nil
    (List.reverse_ne_nil_iff.2 (ne_nil_of_isPlainName hname))
  have hc := isAlpha_reverse_of_isPlainName hname c (hcs ▸ List.mem_cons_self)
  rw [hcs, List.cons_append] at htext
  rw [(List.cons.inj htext).1] at hc
  cases hc

/-- The last step is told by the end of a text, and the end by the last step. -/
theorem extend_inj (hs : s.isPlain = true) (ht : t.isPlain = true)
    (h : s.extend x = t.extend y) : s = t ∧ x = y := by
  cases s with
  | field name =>
    cases t with
    | field other =>
      obtain ⟨rfl, rfl⟩ := extend_field_inj hs ht h
      exact ⟨rfl, rfl⟩
    | item index => exact absurd h (extend_field_ne_item hs)
  | item index =>
    cases t with
    | field other => exact absurd h.symm (extend_field_ne_item ht)
    | item other =>
      obtain ⟨rfl, rfl⟩ := extend_item_inj h
      exact ⟨rfl, rfl⟩

theorem extend_ne_empty (hs : s.isPlain = true) : s.extend x ≠ "" := by
  intro h
  have htext := congrArg (List.reverse ∘ String.toList) h
  rw [Function.comp_apply] at htext
  cases s with
  | field name =>
    rw [reverse_extend_field] at htext
    exact ne_nil_of_isPlainName hs (List.reverse_eq_nil_iff.1 (List.append_eq_nil_iff.1 htext).1)
  | item index =>
    rw [reverse_extend_item] at htext
    cases htext

end

/-! ## Places -/

/-- Two places have different texts. -/
theorem text_inj (hp : ∀ s ∈ p, s.isPlain = true) (hq : ∀ s ∈ q, s.isPlain = true)
    (h : p.text = q.text) : p = q := by
  induction p using List.reverseRecOn generalizing q with
  | nil =>
    cases q using List.reverseRecOn with
    | nil => rfl
    | append_singleton q t =>
      rw [text_concat] at h
      exact absurd h.symm (extend_ne_empty (hq t (by simp)))
  | append_singleton p s ih =>
    have hs := hp s (by simp)
    cases q using List.reverseRecOn with
    | nil =>
      rw [text_concat] at h
      exact absurd h (extend_ne_empty hs)
    | append_singleton q t =>
      rw [text_concat, text_concat] at h
      obtain ⟨rfl, htext⟩ := extend_inj hs (hq t (by simp)) h
      rw [ih (fun u hu => hp u (List.mem_append_left _ hu))
        (fun u hu => hq u (List.mem_append_left _ hu)) htext]

/-- There is no colon in the text of a place. -/
theorem colon_notMem_text (hp : ∀ s ∈ p, s.isPlain = true) : ':' ∉ p.text.toList := by
  induction p using List.reverseRecOn with
  | nil => exact List.not_mem_nil
  | append_singleton p s ih =>
    have hfront := ih fun u hu => hp u (List.mem_append_left _ hu)
    rw [text_concat, ← List.mem_reverse]
    cases s with
    | field name =>
      rw [reverse_extend_field, List.mem_append, not_or, frontOf]
      constructor
      · have hname : (Step.field name).isPlain = true := hp _ (by simp)
        exact fun hc => absurd (isAlpha_reverse_of_isPlainName hname _ hc) (by decide)
      · split_ifs
        · exact List.not_mem_nil
        · simpa using hfront
    | item index =>
      have hdigit : ':' ∉ Nat.toDigits 10 index := fun hc =>
        absurd (Nat.isDigit_of_mem_toDigits (by decide) (by decide) hc) (by decide)
      rw [reverse_extend_item]
      simpa [hdigit] using hfront

end Path

end RoleDiscovery
