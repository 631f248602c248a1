import Mathlib.Tactic.Common
import RoleDiscovery.Text.Digit

/-!
# Digits read back

A number is read back from its digits, and so is a single digit.

Results:

* `Text.natOfDigits?_toDigits`, `Text.ofDigits_toDigits`: a number is read back.
* `Text.digitValue?_hexDigit`: so is a hexadecimal digit.
* `Text.toList_toString_int`: a whole number is its digits, after its sign.
-/

namespace RoleDiscovery.Text

/-! ## Numbers -/

theorem natOfDigits?_append (b : Nat) {s : List Char} (hs : s ≠ []) (c : Char) :
    natOfDigits? b (s ++ [c]) =
      (natOfDigits? b s).bind fun n => (digitValue? b c).map (n * b + ·) := by
  cases s with
  | nil => exact absurd rfl hs
  | cons d s =>
    show (d :: s ++ [c]).foldlM (fun n c => (digitValue? b c).map (n * b + ·)) 0 = _
    rw [List.foldlM_append]
    congr 1
    funext n
    exact bind_pure _

theorem digitValue?_digitChar : ∀ n < 10, digitValue? 10 n.digitChar = some n := by
  decide

theorem natOfDigits?_toDigits (n : Nat) :
    natOfDigits? 10 (Nat.toDigits 10 n) = some n := by
  induction n using Nat.strongRecOn with
  | ind n ih =>
    by_cases h : n < 10
    · rw [Nat.toDigits_of_lt_base h]
      show [n.digitChar].foldlM (fun n c => (digitValue? 10 c).map (n * 10 + ·)) 0 = some n
      simp [digitValue?_digitChar n h]
    · rw [Nat.toDigits_of_base_le (by decide) (by omega),
        natOfDigits?_append 10 Nat.toDigits_ne_nil, ih (n / 10) (by omega), Option.bind_some,
        digitValue?_digitChar _ (Nat.mod_lt _ (by decide)), Option.map_some]
      congr 1
      omega

theorem ofDigits_toDigits (n : Nat) : ofDigits (Nat.toDigits 10 n) = n := by
  have hdigit : ∀ d < 10, d.digitChar.toNat - 48 = d := by decide
  induction n using Nat.strongRecOn with
  | ind n ih =>
    by_cases h : n < 10
    · rw [Nat.toDigits_of_lt_base h]
      show 0 * 10 + (n.digitChar.toNat - 48) = n
      rw [hdigit n h, Nat.zero_mul, Nat.zero_add]
    · rw [Nat.toDigits_of_base_le (by decide) (by omega), ofDigits, List.foldl_append]
      show ofDigits (Nat.toDigits 10 (n / 10)) * 10 + ((n % 10).digitChar.toNat - 48) = n
      rw [ih (n / 10) (by omega), hdigit _ (Nat.mod_lt _ (by decide))]
      omega

/-- Only zero is written with a zero in front. -/
theorem head_toDigits (n : Nat) : (Nat.toDigits 10 n).head? = some '0' → n = 0 := by
  induction n using Nat.strongRecOn with
  | ind n ih =>
    by_cases h : n < 10
    · rw [Nat.toDigits_of_lt_base h]
      have : ∀ m < 10, [m.digitChar].head? = some '0' → m = 0 := by decide
      exact this n h
    · rw [Nat.toDigits_of_base_le (by decide) (by omega), List.head?_append]
      intro h0
      have := ih (n / 10) (by omega) (by
        cases hd : Nat.toDigits 10 (n / 10) with
        | nil => exact absurd hd Nat.toDigits_ne_nil
        | cons d ds => simpa [hd] using h0)
      omega

theorem toList_toString_int (n : Int) :
    (toString n).toList =
      if 0 ≤ n then Nat.toDigits 10 n.natAbs else '-' :: Nat.toDigits 10 n.natAbs := by
  cases n with
  | ofNat m =>
    show (toString m).toList = _
    rw [if_pos (by exact Int.natCast_nonneg m), Nat.toString_eq_ofList_toDigits,
      String.toList_ofList]
    rfl
  | negSucc m =>
    show ("-" ++ toString (m + 1)).toList = _
    rw [if_neg (by omega), String.toList_append, Nat.toString_eq_ofList_toDigits]
    simp [Int.natAbs_negSucc]

theorem head_toDigits_isDigit (n : Nat) : ∃ c ds, Nat.toDigits 10 n = c :: ds ∧ c.isDigit := by
  cases hd : Nat.toDigits 10 n with
  | nil => exact absurd hd Nat.toDigits_ne_nil
  | cons c ds =>
    exact ⟨c, ds, rfl, Nat.isDigit_of_mem_toDigits (by decide) (by decide)
      (hd ▸ List.mem_cons_self)⟩

theorem isDigit_iff {c : Char} : c.isDigit = true ↔ 48 ≤ c.toNat ∧ c.toNat ≤ 57 := by
  simp [Char.isDigit, UInt32.le_iff_toNat_le]

/-! ## Hexadecimal digits -/

theorem digitValue?_hexDigit : ∀ n < 16, digitValue? 16 (hexDigit n) = some n := by
  decide

end RoleDiscovery.Text
