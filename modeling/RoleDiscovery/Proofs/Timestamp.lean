import Mathlib.Algebra.Group.Nat.Defs
import Mathlib.Tactic.Common
import RoleDiscovery.Proofs.Text.Digit
import RoleDiscovery.Timestamp.Parser

/-!
# Points in time read back

A point in time is read back from its text, unless its year lies before year zero: a negative year
is written with four characters, but read with six digits after its sign.

Results:

* `Timestamp.number?_padded`: a number is read from a fixed count of digits.
* `Timestamp.year_le`: the year of a point in time has four digits at most.
* `Timestamp.parse?_print`: a point in time is read back.
* `Timestamp.print_inj`: different points in time have different texts, before year zero, too.
-/

namespace RoleDiscovery.Timestamp

/-! ## Numbers -/

section

variable {width n : Nat}

theorem natOfDigits?_zeros (count : Nat) {digits : List Char} (h : digits ≠ []) :
    Text.natOfDigits? 10 (List.replicate count '0' ++ digits) = Text.natOfDigits? 10 digits := by
  induction count with
  | zero => rfl
  | succ count ih =>
    obtain ⟨c, cs, hcs⟩ := List.exists_cons_of_ne_nil
      (List.append_ne_nil_of_right_ne_nil (List.replicate count '0') h)
    rw [← ih, List.replicate_succ, List.cons_append, hcs]
    rfl

theorem length_padded (hw : 0 < width) (h : n < 10 ^ width) : (padded width n).length = width := by
  have hle := (Nat.length_toDigits_le_iff (by decide) hw).2 h
  rw [padded, List.length_append, List.length_replicate]
  omega

theorem natOfDigits?_padded (width n : Nat) : Text.natOfDigits? 10 (padded width n) = some n := by
  rw [padded, natOfDigits?_zeros _ Nat.toDigits_ne_nil, Text.natOfDigits?_toDigits]

/-- A number is read from its digits, as many as are due. -/
theorem number?_padded {first last : Nat} (rest : List Char) (hw : 0 < width)
    (h : n < 10 ^ width) (hfirst : first ≤ n) (hlast : n ≤ last) :
    number? width first last (padded width n ++ rest) = some (n, rest) := by
  have hlength := length_padded hw h
  have htake : (padded width n ++ rest).take width = padded width n :=
    List.take_left' hlength
  have hdrop : (padded width n ++ rest).drop width = rest := List.drop_left' hlength
  have hlong : ¬(padded width n ++ rest).length < width := by
    rw [List.length_append]
    omega
  rw [number?, if_neg hlong, htake, hdrop, natOfDigits?_padded]
  exact if_pos ⟨hfirst, hlast⟩

/-- A padded number starts with a digit. -/
theorem head_padded (width n : Nat) : ∃ c cs, padded width n = c :: cs ∧ c.isDigit = true := by
  obtain ⟨c, cs, hcs, hc⟩ := Text.head_toDigits_isDigit n
  have hpadded : padded width n =
      List.replicate (width - (Nat.toDigits 10 n).length) '0' ++ Nat.toDigits 10 n := rfl
  rw [hpadded]
  cases width - (Nat.toDigits 10 n).length with
  | zero => exact ⟨c, cs, hcs, hc⟩
  | succ count => exact ⟨'0', _, rfl, rfl⟩

end

/-! ## Dates -/

/-- The number of leap days before March of a year that is not before the year 9999. -/
theorem leapDays_ge {year : Int} (h : 9999 ≤ year) :
    2424 ≤ year / 4 - year / 100 + year / 400 := by
  have hcenturies : year / 100 ≤ year / 4 - 2400 := by omega
  omega

theorem daysBeforeMonth_ge : ∀ month, 1 ≤ month → month ≤ 2 → 306 ≤ Date.daysBeforeMonth month
  | 1, _, _ => by decide
  | 2, _, _ => by decide

/-- A point in time has a year of four digits at most. -/
theorem year_le (t : Timestamp) : t.date.year ≤ 9999 := by
  obtain ⟨-, -, -, hpoint⟩ := t.valid
  obtain ⟨hfirst, hlast, hday, -⟩ := t.date.valid
  rw [isPointInTime, Bool.and_eq_true, decide_eq_true_eq, decide_eq_true_eq] at hpoint
  have hseconds := hpoint.2
  rw [Date.secondsTo, Date.dayNumber] at hseconds
  by_contra hyear
  split at hseconds
  · next hmonth =>
    have hleap := leapDays_ge (show 9999 ≤ t.date.year - 1 by omega)
    have hmonths := daysBeforeMonth_ge t.date.month hfirst hmonth
    omega
  · have hleap := leapDays_ge (show 9999 ≤ t.date.year by omega)
    omega

section

variable {rest : List Char}

theorem year?_print {year : Int} (hmin : 0 ≤ year) (hmax : year ≤ 9999) :
    year? (printYear year ++ rest) = some (year, rest) := by
  obtain ⟨c, cs, hcs, hc⟩ := head_padded 4 year.natAbs
  have hread : number? 4 0 9999 (padded 4 year.natAbs ++ rest) = some (year.natAbs, rest) :=
    number?_padded rest (by decide) (by omega) (by omega) (by omega)
  rw [printYear, if_neg (by omega)]
  rw [hcs, List.cons_append] at hread ⊢
  rw [year?, hread]
  · show some ((year.natAbs : Int), rest) = some (year, rest)
    rw [Int.natAbs_of_nonneg hmin]
  · intro rest h
    rw [(List.cons.inj h).1] at hc
    exact absurd hc (by decide)
  · intro rest h
    rw [(List.cons.inj h).1] at hc
    exact absurd hc (by decide)

theorem day_le (date : Date) : date.day ≤ 31 := by
  obtain ⟨-, -, -, hday⟩ := date.valid
  have hdays : daysInMonth date.year date.month ≤ 31 := by
    unfold daysInMonth
    split
    · split <;> omega
    all_goals omega
  omega

theorem date?_print {date : Date} (hmin : 0 ≤ date.year) (hmax : date.year ≤ 9999) :
    date? (printYear date.year ++ '-' :: (padded 2 date.month ++ '-' :: (padded 2 date.day ++
      rest))) = some (date, rest) := by
  obtain ⟨hfirst, hlast, hday, -⟩ := date.valid
  have hdays := day_le date
  have hreadMonth : number? 2 1 12 (padded 2 date.month ++ '-' :: (padded 2 date.day ++ rest)) =
      some (date.month, '-' :: (padded 2 date.day ++ rest)) :=
    number?_padded _ (by decide) (by omega) hfirst hlast
  have hreadDay : number? 2 1 31 (padded 2 date.day ++ rest) = some (date.day, rest) :=
    number?_padded _ (by decide) (by omega) hday (by omega)
  have hof : Date.of? date.year date.month date.day = some date := dif_pos date.valid
  rw [date?, year?_print hmin hmax]
  simp [expect?, hreadMonth, hreadDay, hof]

end

/-! ## Times -/

theorem clock?_print (t : Timestamp) (rest : List Char) :
    clock? (padded 2 t.hour ++ ':' :: (padded 2 t.minute ++ ':' :: (padded 2 t.second ++
      'Z' :: rest))) = some ((t.hour, t.minute, t.second), 'Z' :: rest) := by
  obtain ⟨hhour, hminute, hsecond, -⟩ := t.valid
  have hreadHour (rest : List Char) :
      number? 2 0 23 (padded 2 t.hour ++ rest) = some (t.hour, rest) :=
    number?_padded rest (by decide) (by omega) (Nat.zero_le _) hhour
  have hreadMinute (rest : List Char) :
      number? 2 0 59 (padded 2 t.minute ++ rest) = some (t.minute, rest) :=
    number?_padded rest (by decide) (by omega) (Nat.zero_le _) hminute
  have hreadSecond (rest : List Char) :
      number? 2 0 60 (padded 2 t.second ++ rest) = some (t.second, rest) :=
    number?_padded rest (by decide) (by omega) (Nat.zero_le _) (by omega)
  rw [clock?, hreadHour]
  simp [part?, hreadMinute, hreadSecond, fraction?, hsecond]

/-- The text of a point in time after its year. -/
def afterYear (t : Timestamp) : List Char :=
  '-' :: (padded 2 t.date.month ++ '-' :: (padded 2 t.date.day ++ 'T' :: (padded 2 t.hour ++ ':' ::
    (padded 2 t.minute ++ ':' :: (padded 2 t.second ++ ['Z'])))))

theorem toList_print (t : Timestamp) :
    t.print.toList = printYear t.date.year ++ t.afterYear := by
  simp [print, afterYear]

/-- A point in time is read back, unless its year lies before year zero. -/
theorem parse?_print {t : Timestamp} (h : 0 ≤ t.date.year) : parse? t.print = some t := by
  have hclock := clock?_print t []
  have hof : of? t.date t.hour t.minute t.second = some t := dif_pos t.valid
  rw [parse?, toList_print, afterYear, date?_print h t.year_le]
  simp [hclock, offset?, zone?, areAnnotations, ofLocal?, hof]

/-! ## Different points in time -/

theorem padded_inj {width m n : Nat} (h : padded width m = padded width n) : m = n := by
  have hm := natOfDigits?_padded width m
  rw [h, natOfDigits?_padded] at hm
  exact (Option.some.inj hm).symm

/-- A sign tells the years before year zero from the others. -/
theorem printYear_inj {y z : Int} (h : printYear y = printYear z) : y = z := by
  have hsign : ∀ m n, padded 4 m ≠ '-' :: padded 3 n := by
    intro m n hmn
    obtain ⟨c, cs, hcs, hc⟩ := head_padded 4 m
    rw [hcs] at hmn
    rw [(List.cons.inj hmn).1] at hc
    exact absurd hc (by decide)
  unfold printYear at h
  split_ifs at h with hy hz hz
  · have := padded_inj (List.cons.inj h).2
    omega
  · exact absurd h.symm (hsign _ _)
  · exact absurd h (hsign _ _)
  · have := padded_inj h
    omega

theorem length_afterYear (t : Timestamp) : t.afterYear.length = 16 := by
  obtain ⟨hhour, hminute, hsecond, -⟩ := t.valid
  obtain ⟨-, hmonth, -, -⟩ := t.date.valid
  have hday := day_le t.date
  have hwidth {n : Nat} (h : n < 100) : (padded 2 n).length = 2 := length_padded (by decide) h
  simp [afterYear, hwidth (show t.date.month < 100 by omega),
    hwidth (show t.date.day < 100 by omega), hwidth (show t.hour < 100 by omega),
    hwidth (show t.minute < 100 by omega), hwidth (show t.second < 100 by omega)]

/-- Two numbers that are printed with two digits each can be told from what they stand in. -/
theorem padded_append_inj {m n : Nat} {c d : Char} {r s : List Char} (hm : m < 100) (hn : n < 100)
    (h : padded 2 m ++ c :: r = padded 2 n ++ d :: s) : m = n ∧ r = s := by
  have hlength : (padded 2 m).length = (padded 2 n).length := by
    rw [length_padded (by decide) hm, length_padded (by decide) hn]
  obtain ⟨hpadded, hrest⟩ := List.append_inj h hlength
  exact ⟨padded_inj hpadded, (List.cons.inj hrest).2⟩

/-- Points in time with the same text are the same. -/
theorem print_inj {a b : Timestamp} (h : a.print = b.print) : a = b := by
  have htext := congrArg String.toList h
  rw [toList_print, toList_print] at htext
  obtain ⟨hyear, hafter⟩ := List.append_inj' htext (by rw [length_afterYear, length_afterYear])
  have hclock := And.intro a.valid b.valid
  have hmonths := And.intro a.date.valid b.date.valid
  have hdays := And.intro (day_le a.date) (day_le b.date)
  obtain ⟨hmonth, hafter⟩ := padded_append_inj (by omega) (by omega) (List.cons.inj hafter).2
  obtain ⟨hday, hafter⟩ := padded_append_inj (by omega) (by omega) hafter
  obtain ⟨hhour, hafter⟩ := padded_append_inj (by omega) (by omega) hafter
  obtain ⟨hminute, hafter⟩ := padded_append_inj (by omega) (by omega) hafter
  obtain ⟨hsecond, -⟩ := padded_append_inj (by omega) (by omega) hafter
  have hyear := printYear_inj hyear
  obtain ⟨⟨year, month, day, _⟩, hour, minute, second, _⟩ := a
  obtain ⟨⟨year, month, day, _⟩, hour, minute, second, _⟩ := b
  dsimp only at hyear hmonth hday hhour hminute hsecond
  subst hyear hmonth hday hhour hminute hsecond
  rfl

end RoleDiscovery.Timestamp
