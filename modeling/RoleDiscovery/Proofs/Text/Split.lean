import Mathlib.Data.List.TakeDrop
import Mathlib.Data.List.TakeWhile
import Mathlib.Tactic.Common

/-!
# Texts taken apart

Results:

* `Text.append_inj_of_stop`: characters of a kind end where another character stands.
* `Text.span_eq_iff`: what a text is split into at the first character of another kind.
-/

namespace RoleDiscovery.Text

variable {keep : Char → Bool} {before after r s : List Char} {c : Char}

theorem takeWhile_append_of_stop (h : ∀ d ∈ before, keep d = true)
    (hr : ∀ d ∈ r.head?, keep d = false) : (before ++ r).takeWhile keep = before := by
  rw [List.takeWhile_append_of_pos h]
  cases r with
  | nil => exact List.append_nil before
  | cons d r => rw [List.takeWhile_cons_of_neg (by simp [hr d rfl]), List.append_nil]

/-- If two texts start with characters of a kind, and characters of another kind follow in both,
then the two starts and the two rests are the same if the texts are. -/
theorem append_inj_of_stop (hbefore : ∀ d ∈ before, keep d = true)
    (hafter : ∀ d ∈ after, keep d = true) (hr : ∀ d ∈ r.head?, keep d = false)
    (hs : ∀ d ∈ s.head?, keep d = false) (h : before ++ r = after ++ s) :
    before = after ∧ r = s := by
  have hstart := congrArg (List.takeWhile keep) h
  rw [takeWhile_append_of_stop hbefore hr, takeWhile_append_of_stop hafter hs] at hstart
  subst hstart
  exact ⟨rfl, List.append_cancel_left h⟩

/-- What a text is split into at the first character that fails a test. -/
theorem span_eq_iff {chars : List Char} : chars.span keep = (before, c :: after) ↔
    chars = before ++ c :: after ∧ (∀ d ∈ before, keep d = true) ∧ keep c = false := by
  rw [List.span_eq_takeWhile_dropWhile, Prod.mk.injEq]
  constructor
  · rintro ⟨rfl, hdrop⟩
    refine ⟨?_, fun d => List.mem_takeWhile_imp, ?_⟩
    · rw [← hdrop, List.takeWhile_append_dropWhile]
    · have hhead := List.head?_dropWhile_not keep chars
      rw [hdrop] at hhead
      simpa using hhead
  · rintro ⟨rfl, hbefore, hc⟩
    rw [List.takeWhile_append_of_pos hbefore, List.dropWhile_append_of_pos hbefore]
    simp [hc]

end RoleDiscovery.Text
