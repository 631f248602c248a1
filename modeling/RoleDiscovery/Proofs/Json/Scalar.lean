import Mathlib.Data.List.TakeDrop
import RoleDiscovery.Json.Parser
import RoleDiscovery.Json.Printer
import RoleDiscovery.Proofs.Text.Digit

/-!
# Texts and numbers read back

The texts and the whole numbers that are written are read back, whatever follows the quote of a
text, and whatever may follow a number.

Results:

* `Json.text?_quoted`, `Json.skipText?_quoted`: a text is read, or passed over, up to its quote.
* `Json.number?_toDigits`: a number of 64 bits is read up to what follows it.
-/

namespace RoleDiscovery.Json

/-! ## Texts -/

section

variable {c : Char} {cs read rest : List Char} {fuel : Nat}

theorem unit?_control (h : c.toNat < 32) :
    unit? ('0' :: '0' :: Text.hexDigit (c.toNat / 16) :: Text.hexDigit (c.toNat % 16) :: rest) =
      some (c.toNat, rest) := by
  have hhigh := Text.digitValue?_hexDigit (c.toNat / 16) (by omega)
  have hlow := Text.digitValue?_hexDigit (c.toNat % 16) (by omega)
  have hzero : Text.digitValue? 16 '0' = some 0 := by decide
  rw [unit?, hzero, hhigh, hlow]
  show some (((0 * 16 + 0) * 16 + c.toNat / 16) * 16 + c.toNat % 16, rest) = some (c.toNat, rest)
  congr 2
  omega

theorem unitChar?_control (h : c.toNat < 32) :
    unitChar? ('0' :: '0' :: Text.hexDigit (c.toNat / 16) :: Text.hexDigit (c.toNat % 16) ::
      rest) = some (c, rest) := by
  rw [unitChar?, unit?_control h]
  show (if 0xD800 ≤ c.toNat ∧ c.toNat < 0xDC00 then _
    else if 0xDC00 ≤ c.toNat ∧ c.toNat < 0xE000 then none
    else some (Char.ofNat c.toNat, rest)) = _
  rw [if_neg (by omega), if_neg (by omega), Char.ofNat_toNat]

theorem length_escaped_pos (c : Char) : 0 < (escaped c).length := by
  unfold escaped
  split_ifs <;> exact Nat.succ_pos _

/-- What a character is written as is read as the character. -/
theorem textBody?_escaped :
    textBody? (fuel + 1) read (escaped c ++ rest) = textBody? fuel (c :: read) rest := by
  unfold escaped
  split_ifs with h1 h2 h3 h4 h5 h6 h7 h8
  · subst h1; rfl
  · subst h2; rfl
  · subst h3; rfl
  · subst h4; rfl
  · subst h5; rfl
  · subst h6; rfl
  · subst h7; rfl
  · rw [List.cons_append, List.cons_append, textBody?]
    simp [unitChar?_control h8]
  · rw [List.singleton_append, textBody?, if_neg (not_or.2 ⟨h8, h2⟩)]
    · exact h1
    · exact fun _ hc _ => h2 hc
    · exact fun _ _ hc _ => h2 hc

/-- What a character is written as is passed over. -/
theorem skipText?_escaped : skipText? (escaped c ++ rest) = skipText? rest := by
  unfold escaped
  split_ifs with h1 h2 h3 h4 h5 h6 h7 h8
  · subst h1; rfl
  · subst h2; rfl
  · subst h3; rfl
  · subst h4; rfl
  · subst h5; rfl
  · subst h6; rfl
  · subst h7; rfl
  · have hhigh := Text.digitValue?_hexDigit (c.toNat / 16) (by omega)
    have hlow := Text.digitValue?_hexDigit (c.toNat % 16) (by omega)
    show skipText? ('\\' :: 'u' :: '0' :: '0' :: Text.hexDigit (c.toNat / 16) ::
      Text.hexDigit (c.toNat % 16) :: rest) = skipText? rest
    have hzero : Text.digitValue? 16 '0' = some 0 := by decide
    have hdigits : (['0', '0', Text.hexDigit (c.toNat / 16), Text.hexDigit (c.toNat % 16)].all
        fun digit => (Text.digitValue? 16 digit).isSome) = true := by
      simp [hzero, hhigh, hlow]
    rw [skipText?]
    exact if_pos hdigits
  · rw [List.singleton_append, skipText?, if_neg (not_or.2 ⟨h8, h2⟩)]
    · exact h1
    · exact fun _ _ _ _ _ hc _ => h2 hc
    · exact fun _ _ hc _ => h2 hc

theorem textBody?_quoted (h : cs.length < fuel) :
    textBody? fuel read (cs.flatMap escaped ++ '"' :: rest) = some (cs.reverse ++ read, rest) := by
  induction cs generalizing fuel read with
  | nil =>
    cases fuel with
    | zero => cases h
    | succ fuel => rfl
  | cons c cs ih =>
    cases fuel with
    | zero => cases h
    | succ fuel =>
      rw [List.flatMap_cons, List.append_assoc, textBody?_escaped, ih (Nat.lt_of_succ_lt_succ h),
        List.reverse_cons, List.append_assoc, List.singleton_append]

/-- A text is read up to its closing quote. -/
theorem text?_quoted (s : String) (rest : List Char) :
    text? (s.toList.flatMap escaped ++ '"' :: rest) = some (s, rest) := by
  have hle : s.toList.length ≤ (s.toList.flatMap escaped).length := by
    generalize s.toList = cs
    induction cs with
    | nil => exact Nat.le_refl _
    | cons c cs ih =>
      rw [List.flatMap_cons, List.length_append, List.length_cons]
      have := length_escaped_pos c
      omega
  have hfuel : s.toList.length < (s.toList.flatMap escaped ++ '"' :: rest).length + 1 := by
    rw [List.length_append]
    omega
  rw [text?, textBody?_quoted hfuel]
  show some (String.ofList (s.toList.reverse ++ []).reverse, rest) = some (s, rest)
  rw [List.append_nil, List.reverse_reverse, String.ofList_toList]

/-- A text is passed over up to its closing quote. -/
theorem skipText?_quoted (cs rest : List Char) :
    skipText? (cs.flatMap escaped ++ '"' :: rest) = some rest := by
  induction cs with
  | nil => rfl
  | cons c cs ih => rw [List.flatMap_cons, List.append_assoc, skipText?_escaped, ih]

end

/-! ## Numbers -/

/-- The characters that end a number. -/
def delimiters : List Char :=
  [',', ']', '\x7d', ' ', '\n']

/-- What may follow a value: nothing, or a character that ends a number. -/
def Delimited (rest : List Char) : Prop :=
  ∀ c ∈ rest.head?, c ∈ delimiters

theorem not_digit_of_mem_delimiters {c : Char} (h : c ∈ delimiters) :
    c.isDigit = false ∧ c ≠ 'e' ∧ c ≠ 'E' := by
  simp only [delimiters, List.mem_cons, List.not_mem_nil, or_false] at h
  rcases h with rfl | rfl | rfl | rfl | rfl <;> decide

section

variable {rest : List Char} {n : Nat}

theorem isDigit_of_mem_toDigits {c : Char} (h : c ∈ Nat.toDigits 10 n) : c.isDigit = true :=
  Nat.isDigit_of_mem_toDigits (by decide) (by decide) h

theorem digits?_toDigits (hrest : Delimited rest) :
    digits? (Nat.toDigits 10 n ++ rest) = some (Nat.toDigits 10 n, rest) := by
  have hspan : (Nat.toDigits 10 n ++ rest).span Char.isDigit = (Nat.toDigits 10 n, rest) := by
    have hstop : rest.takeWhile Char.isDigit = [] ∧ rest.dropWhile Char.isDigit = rest := by
      cases rest with
      | nil => exact ⟨rfl, rfl⟩
      | cons c rest =>
        have hc := (not_digit_of_mem_delimiters (hrest c rfl)).1
        exact ⟨List.takeWhile_cons_of_neg (by simp [hc]), List.dropWhile_cons_of_neg (by simp [hc])⟩
    rw [List.span_eq_takeWhile_dropWhile,
      List.takeWhile_append_of_pos fun _ => isDigit_of_mem_toDigits,
      List.dropWhile_append_of_pos fun _ => isDigit_of_mem_toDigits, hstop.1, hstop.2,
      List.append_nil]
  obtain ⟨c, cs, hcs, -⟩ := Text.head_toDigits_isDigit n
  rw [digits?, hspan, hcs]

theorem fraction?_of_delimited (hrest : Delimited rest) : fraction? rest = some (none, rest) := by
  unfold fraction?
  split
  · next tail => exact absurd (hrest '.' rfl) (by decide)
  · rfl

theorem exponent?_of_delimited (hrest : Delimited rest) : exponent? rest = some (none, rest) := by
  cases rest with
  | nil => rfl
  | cons c rest =>
    unfold exponent?
    exact if_neg (not_or.2 (not_digit_of_mem_delimiters (hrest c rfl)).2)

theorem numeral?_toDigits (negative : Bool) (hrest : Delimited rest) :
    numeral? negative (Nat.toDigits 10 n ++ rest) =
      some (⟨negative, Nat.toDigits 10 n, none, none⟩, rest) := by
  have hzero : ¬((Nat.toDigits 10 n).head? = some '0' ∧ Nat.toDigits 10 n ≠ ['0']) := by
    rintro ⟨hhead, hne⟩
    rw [Text.head_toDigits n hhead] at hne
    exact hne rfl
  simp [numeral?, digits?_toDigits hrest, hzero, fraction?_of_delimited hrest,
    exponent?_of_delimited hrest]

theorem le_foldl_digits (digits : List Char) (m : Nat) :
    m ≤ digits.foldl (fun n c => n * 10 + (c.toNat - 48)) m := by
  induction digits generalizing m with
  | nil => exact Nat.le_refl m
  | cons c digits ih =>
    have hle := ih (m * 10 + (c.toNat - 48))
    rw [List.foldl_cons]
    omega

/-- All digits of a number of 64 bits are taken up. -/
theorem leading_of_lt {digits : List Char} {m : Nat}
    (h : digits.foldl (fun n c => n * 10 + (c.toNat - 48)) m < UInt64.size) :
    Numeral.leading m digits = (digits.foldl (fun n c => n * 10 + (c.toNat - 48)) m, []) := by
  induction digits generalizing m with
  | nil => rfl
  | cons c digits ih =>
    have hnext : m * 10 + (c.toNat - 48) < UInt64.size :=
      Nat.lt_of_le_of_lt (le_foldl_digits digits _) h
    rw [Numeral.leading]
    exact (if_pos hnext).trans (ih h)

theorem leading_toDigits (h : n < UInt64.size) :
    Numeral.leading 0 (Nat.toDigits 10 n) = (n, []) := by
  have hn : (Nat.toDigits 10 n).foldl (fun n c => n * 10 + (c.toNat - 48)) 0 = n :=
    Text.ofDigits_toDigits n
  rw [leading_of_lt (by rw [hn]; exact h), hn]

theorem value?_toDigits (h : n < UInt64.size) :
    (⟨false, Nat.toDigits 10 n, none, none⟩ : Numeral).value? = some (.int n) := by
  simp [Numeral.value?, leading_toDigits h]

theorem value?_negated (hpos : 0 < n) (h : Int64.minValue.toInt ≤ -n) :
    (⟨true, Nat.toDigits 10 n, none, none⟩ : Numeral).value? = some (.int (-n)) := by
  have hlt : n < UInt64.size := by
    have hmin : Int64.minValue.toInt = -2 ^ 63 := by decide
    have hsize : UInt64.size = 2 ^ 64 := rfl
    omega
  rw [Numeral.value?, leading_toDigits hlt]
  exact (if_neg (by simp)).trans (if_pos ⟨rfl, hpos, h⟩)

/-- A whole number that has 64 bits, with a sign or without. -/
def IsExact (n : Int) : Prop :=
  Int64.minValue.toInt ≤ n ∧ n < UInt64.size
  deriving Decidable

theorem number?_toDigits (h : n < UInt64.size) (hrest : Delimited rest) :
    number? false (Nat.toDigits 10 n ++ rest) = some (.int n, rest) := by
  rw [number?, numeral?_toDigits false hrest]
  show (do return (← (⟨false, Nat.toDigits 10 n, none, none⟩ : Numeral).value?, rest)) = _
  rw [value?_toDigits h]
  rfl

theorem number?_negated (hpos : 0 < n) (h : Int64.minValue.toInt ≤ -n) (hrest : Delimited rest) :
    number? true (Nat.toDigits 10 n ++ rest) = some (.int (-n), rest) := by
  rw [number?, numeral?_toDigits true hrest]
  show (do return (← (⟨true, Nat.toDigits 10 n, none, none⟩ : Numeral).value?, rest)) = _
  rw [value?_negated hpos h]
  rfl

end

end RoleDiscovery.Json
