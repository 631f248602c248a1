import Mathlib.Algebra.Group.Nat.Defs
import RoleDiscovery.Proofs.Yaml.Char
import RoleDiscovery.Yaml.Printer
import RoleDiscovery.Yaml.Token.Quoted

/-!
# Quoted scalars read back

Results:

* `Token.single?_single`: a text in single quotes reads as itself, also over several lines.
* `Token.double?_double`: a text in double quotes reads as itself, whatever it holds.
-/

namespace RoleDiscovery.Yaml

/-! ## Spaces around breaks -/

namespace Style

theorem hasSpaceBeforeBreak_tail {c : Char} {s : List Char}
    (h : hasSpaceBeforeBreak (c :: s) = false) : hasSpaceBeforeBreak s = false := by
  cases s with
  | nil => rfl
  | cons d s => exact (Bool.or_eq_false_iff.1 h).2

theorem isBreak_head_of_space {s : List Char} (h : hasSpaceBeforeBreak (' ' :: s) = false) :
    ∀ d ∈ s.head?, isBreak d = false := by
  cases s with
  | nil => simp
  | cons d s =>
    have h' := (Bool.or_eq_false_iff.1 h).1
    simpa using h'

theorem hasSpaceAfterBreak_tail {c : Char} {s : List Char}
    (h : hasSpaceAfterBreak (c :: s) = false) : hasSpaceAfterBreak s = false := by
  cases s with
  | nil => rfl
  | cons d s => exact (Bool.or_eq_false_iff.1 h).2

theorem ne_space_head_of_break {c : Char} {s : List Char} (hc : isBreak c)
    (h : hasSpaceAfterBreak (c :: s) = false) : ∀ d ∈ s.head?, d ≠ ' ' := by
  cases s with
  | nil => simp
  | cons d s =>
    have h' := (Bool.or_eq_false_iff.1 h).1
    simpa [hc] using h'

end Style

/-! ## Gaps -/

namespace Gap

/-- A gap none of whose characters is changed or dropped when it is read. -/
def IsVerbatim : Gap → Prop
  | blanks _ => True
  | breaks first _ => ∃ c, first = some c ∧ c ≠ '\n'

@[simp] theorem text_none : none.text = [] := rfl

@[simp] theorem text_blanks (g : List Char) : (blanks g).text = g.reverse := rfl

@[simp] theorem isBroken_none : none.isBroken = false := rfl

@[simp] theorem isBroken_blanks (g : List Char) : (blanks g).isBroken = false := rfl

theorem text_breaks {c : Char} (h : c ≠ '\n') (others : List Char) :
    (breaks (some c) others).text = c :: others.reverse := by
  cases others <;> simp [text, h]

theorem eq_blanks_of_not_isBroken {gap : Gap} (h : gap.isBroken = false) : ∃ g, gap = blanks g := by
  cases gap with
  | blanks g => exact ⟨g, rfl⟩
  | breaks first others => simp [isBroken] at h

theorem push_blank {c : Char} (h : isBreak c = false) (g : List Char) :
    (blanks g).push c = blanks (c :: g) := by
  simp [push, h]

/-- Blanks after a break are dropped. -/
theorem push_space_of_isBroken {gap : Gap} (h : gap.isBroken) : gap.push ' ' = gap := by
  cases gap with
  | blanks g => simp at h
  | breaks first others => rfl

/-- A break that is not a line feed is kept, unless blanks come before it. -/
theorem push_break {gap : Gap} {c : Char} (hv : gap.IsVerbatim) (hb : isBreak c) (hn : c ≠ '\n')
    (hg : gap.isBroken ∨ gap.isNone) :
    (gap.push c).IsVerbatim ∧ (gap.push c).isBroken ∧ (gap.push c).text = gap.text ++ [c] := by
  cases gap with
  | blanks g =>
    have hg' : g = [] := by
      cases g with
      | nil => rfl
      | cons d g => simp [isNone] at hg
    subst hg'
    have hp : (blanks []).push c = breaks (some c) [] := by simp [push, hb]
    rw [hp, text_breaks hn]
    exact ⟨⟨c, rfl, hn⟩, rfl, rfl⟩
  | breaks first others =>
    obtain ⟨d, rfl, hd⟩ := hv
    have hp : (breaks (some d) others).push c = breaks (some d) (c :: others) := by simp [push, hb]
    rw [hp, text_breaks hd, text_breaks hd, List.reverse_cons]
    exact ⟨⟨d, rfl, hd⟩, rfl, rfl⟩

end Gap

namespace Token

/-! ## Single quotes -/

section Single

variable {gap : Gap} {c : Char} {s rest : List Char} {p : Position} {column : Nat}

theorem single?_space (hm : ¬(p.column = 0 ∧ atDocumentMark (c :: rest))) (hs : isSpace c) :
    single? gap (c :: rest) p = single? (gap.push c) rest (p.step c) := by
  rw [single?.eq_def]
  simp only [hm, hs, if_true, if_false]

theorem single?_char (hp : p.column ≠ 0) (hs : isSpace c = false) (hq : c ≠ '\'') :
    single? gap (c :: rest) p =
      (single? .none rest (p.step c)).map (before (gap.text ++ [c])) := by
  rw [single?.eq_def]
  simp [hp, hs, hq]

theorem single?_apostrophe (hp : p.column ≠ 0) :
    single? gap ('\'' :: '\'' :: rest) p =
      (single? .none rest (p.after ['\'', '\''])).map (before (gap.text ++ ['\''])) := by
  rw [single?.eq_def]
  simp only [hp, false_and, if_false, show isSpace '\'' = false from rfl, Bool.false_eq_true,
    if_true]
  rfl

theorem single?_close (hp : p.column ≠ 0) (hr : rest.head? ≠ some '\'') :
    single? gap ('\'' :: rest) p = some (gap.text, ⟨rest, p.step '\''⟩) := by
  rw [single?.eq_def]
  simp only [hp, false_and, if_false, show isSpace '\'' = false from rfl, Bool.false_eq_true,
    if_true]
  split
  · next heq => simp at hr
  · rfl

/-- The indentation of a line is dropped. -/
theorem single?_indentation (hg : gap.isBroken) (n : Nat) :
    single? gap (indentation n ++ rest) p = single? gap rest (p.after (indentation n)) := by
  induction n generalizing p with
  | zero => rfl
  | succ n ih =>
    have hm : ¬(p.column = 0 ∧ atDocumentMark (' ' :: (indentation n ++ rest))) := by
      rw [atDocumentMark_cons (by decide) (by decide)]
      simp
    show single? gap (' ' :: (indentation n ++ rest)) p = _
    rw [single?_space hm rfl, Gap.push_space_of_isBroken hg, ih]
    rfl

/-- The margin of a line: its indentation, if a break has just been read. -/
def margin (column : Nat) (gap : Gap) : List Char :=
  if gap.isBroken then indentation column else []

theorem single?_margin (hc : 0 < column) (hp : p.column = 0 → gap.isBroken) (rest : List Char) :
    (p.after (margin column gap)).column ≠ 0 ∧
      single? gap (margin column gap ++ rest) p =
        single? gap rest (p.after (margin column gap)) := by
  unfold margin
  cases hg : gap.isBroken with
  | false => exact ⟨fun h => by simp [hp h] at hg, rfl⟩
  | true =>
    refine ⟨?_, single?_indentation hg column⟩
    rw [if_pos rfl, indentation, Position.after_indentation]
    exact Nat.ne_of_gt (Nat.add_pos_right _ hc)

/-- What is left of a text in single quotes may follow a gap: nothing of it will be lost. -/
structure Follows (gap : Gap) (s : List Char) : Prop where
  printable : s.all isPrintable
  noLineFeed : '\n' ∉ s
  before : Style.hasSpaceBeforeBreak s = false
  after : Style.hasSpaceAfterBreak s = false
  verbatim : gap.IsVerbatim
  breakHead : ∀ c ∈ s.head?, isBreak c → gap.isBroken ∨ gap.isNone
  spaceHead : ∀ c ∈ s.head?, c = ' ' → gap.isBroken = false

namespace Follows

theorem head_printable (h : Follows gap (c :: s)) : isPrintable c :=
  (Bool.and_eq_true_iff.1 (List.all_cons ▸ h.printable)).1

/-- What is left after a character may follow any gap that it agrees with. -/
theorem tail (h : Follows gap (c :: s)) {gap' : Gap} (hv : gap'.IsVerbatim)
    (hb : ∀ d ∈ s.head?, isBreak d → gap'.isBroken ∨ gap'.isNone)
    (hs : ∀ d ∈ s.head?, d = ' ' → gap'.isBroken = false) : Follows gap' s where
  printable := (Bool.and_eq_true_iff.1 (List.all_cons ▸ h.printable)).2
  noLineFeed hm := h.noLineFeed (List.mem_cons_of_mem _ hm)
  before := Style.hasSpaceBeforeBreak_tail h.before
  after := Style.hasSpaceAfterBreak_tail h.after
  verbatim := hv
  breakHead := hb
  spaceHead := hs

theorem tail_none (h : Follows gap (c :: s)) : Follows .none s :=
  h.tail trivial (fun _ _ _ => .inr rfl) fun _ _ _ => rfl

theorem tail_space {g : List Char} (h : Follows (.blanks g) (' ' :: s)) :
    Follows (.blanks (' ' :: g)) s :=
  h.tail trivial (fun d hd hb => by simp [Style.isBreak_head_of_space h.before d hd] at hb)
    fun _ _ _ => rfl

theorem tail_break (h : Follows gap (c :: s)) (hb : isBreak c) :
    Follows (gap.push c) s ∧ (gap.push c).isBroken ∧ (gap.push c).text = gap.text ++ [c] := by
  have hn : c ≠ '\n' := fun hc => h.noLineFeed (hc ▸ List.mem_cons_self)
  obtain ⟨hv, hbr, ht⟩ := Gap.push_break h.verbatim hb hn (h.breakHead c rfl hb)
  refine ⟨h.tail hv (fun _ _ _ => .inl hbr) fun d hd hs => ?_, hbr, ht⟩
  exact absurd hs (Style.ne_space_head_of_break hb h.after d hd)

end Follows

theorem singleBody_break (hb : isBreak c) (gap : Gap) (s : List Char) :
    Scalar.singleBody column gap.isBroken (c :: s) = c :: Scalar.singleBody column true s := by
  rw [Scalar.singleBody]
  simp only [hb, if_true]

/-- A character that is not a break, as it stands between single quotes. -/
def quotedChar (c : Char) : List Char :=
  if c = '\'' then ['\'', '\''] else [c]

theorem singleBody_char (hb : isBreak c = false) (gap : Gap) (s : List Char) :
    Scalar.singleBody column gap.isBroken (c :: s) =
      margin column gap ++ (quotedChar c ++ Scalar.singleBody column false s) := by
  rw [Scalar.singleBody, margin, quotedChar]
  simp only [hb, Bool.false_eq_true, if_false, List.append_assoc]

/-- A character that is not a break is read with the gap before it, or joins it. -/
theorem single?_quotedChar (h : Follows gap (c :: s)) (hb : isBreak c = false) (hp : p.column ≠ 0)
    (rest : List Char) :
    ∃ read next, Follows next s ∧ next.isBroken = false ∧ read ++ next.text = gap.text ++ [c] ∧
      (p.after (quotedChar c)).column ≠ 0 ∧
      single? gap (quotedChar c ++ rest) p =
        (single? next rest (p.after (quotedChar c))).map (before read) := by
  unfold quotedChar
  by_cases hcq : c = '\''
  · subst hcq
    rw [if_pos rfl]
    exact ⟨gap.text ++ ['\''], .none, h.tail_none, rfl, by simp,
      Position.column_step_ne_zero (p := p.step '\'') (c := '\'') rfl, single?_apostrophe hp⟩
  · rw [if_neg hcq]
    cases hsp : isSpace c with
    | true =>
      obtain rfl := eq_space_of_isPrintable h.head_printable hsp hb
      obtain ⟨g, rfl⟩ := Gap.eq_blanks_of_not_isBroken (h.spaceHead ' ' rfl rfl)
      refine ⟨[], .blanks (' ' :: g), h.tail_space, rfl, by simp,
        Position.column_step_ne_zero hb, ?_⟩
      show single? (.blanks g) (' ' :: rest) p = _
      rw [single?_space (by simp [hp]) hsp, Gap.push_blank hb]
      exact Option.map_id'.symm
    | false =>
      exact ⟨gap.text ++ [c], .none, h.tail_none, rfl, by simp,
        Position.column_step_ne_zero hb, single?_char hp hsp hcq⟩

/-- What stands between single quotes reads as the text, after a gap that is still pending. -/
theorem single?_singleBody (hc : 0 < column) {tail : List Char} (ht : tail.head? ≠ some '\'')
    (h : Follows gap s) (hp : p.column = 0 → gap.isBroken) :
    single? gap (Scalar.singleBody column gap.isBroken s ++ '\'' :: tail) p =
      some (gap.text ++ s,
        ⟨tail, p.after (Scalar.singleBody column gap.isBroken s ++ ['\''])⟩) := by
  induction s generalizing gap p with
  | nil =>
    obtain ⟨hq, hm⟩ := single?_margin hc hp ('\'' :: tail)
    show single? gap (margin column gap ++ '\'' :: tail) p = _
    rw [hm, single?_close hq ht, List.append_nil, Position.after_append]
    rfl
  | cons c s ih =>
    cases hb : isBreak c with
    | true =>
      -- the break joins the gap, and the indentation of the next line is due
      obtain ⟨hf, hbr, htext⟩ := h.tail_break hb
      have hm : ¬(p.column = 0 ∧
          atDocumentMark (c :: (Scalar.singleBody column true s ++ '\'' :: tail))) := by
        simp [atDocumentMark_of_isBreak hb]
      have hrest := ih hf (p := p.step c) fun _ => hbr
      rw [hbr, htext] at hrest
      rw [singleBody_break hb, List.cons_append, single?_space hm (isSpace_of_isBreak hb), hrest,
        List.append_assoc]
      rfl
    | false =>
      obtain ⟨hq, hm⟩ := single?_margin hc hp
        (quotedChar c ++ Scalar.singleBody column false s ++ '\'' :: tail)
      rw [singleBody_char hb, List.append_assoc, hm, List.append_assoc, Position.after_append,
        Position.after_append]
      generalize p.after (margin column gap) = q at hq
      obtain ⟨read, next, hf, hbroken, htext, hq', hread⟩ := single?_quotedChar h hb hq
        (Scalar.singleBody column false s ++ '\'' :: tail)
      have hrest := ih hf fun h0 => absurd h0 hq'
      rw [hbroken] at hrest
      have hall : gap.text ++ c :: s = read ++ (next.text ++ s) := by
        rw [← List.append_assoc, htext, List.append_assoc]
        rfl
      rw [hread, hrest, hall, Position.after_append, Position.after_append]
      rfl

/-- A text in single quotes reads as itself, if its style allows them. -/
theorem single?_single (hc : 0 < column) {tail : List Char} (ht : tail.head? ≠ some '\'')
    (hs : Style.allowsSingle s) (hn : '\n' ∉ s) (hp : p.column ≠ 0) :
    single? .none (Scalar.singleBody column false s ++ '\'' :: tail) p =
      some (s, ⟨tail, p.after (Scalar.singleBody column false s ++ ['\''])⟩) := by
  simp only [Style.allowsSingle, Style.isVerbatim, Bool.and_eq_true, Bool.not_eq_true'] at hs
  have hf : Follows .none s :=
    ⟨hs.1.1, hn, hs.1.2, hs.2, trivial, fun _ _ _ => .inr rfl, fun _ _ _ => rfl⟩
  exact single?_singleBody hc ht hf fun h0 => absurd h0 hp

end Single

/-! ## Double quotes -/

section Double

variable {gap : Gap} {c d r : Char} {rest : List Char} {p : Position}

theorem double?_space (hp : p.column ≠ 0) (hs : isSpace c) :
    double? gap none (c :: rest) p = double? (gap.push c) none rest (p.step c) := by
  rw [double?.eq_def]
  simp [hp, hs]

theorem double?_char (hp : p.column ≠ 0) (hs : isSpace c = false) (hq : c ≠ '"') (hb : c ≠ '\\') :
    double? gap none (c :: rest) p =
      (double? .none none rest (p.step c)).map (before (gap.text ++ [c])) := by
  rw [double?.eq_def]
  simp [hp, hs, hq, hb]

theorem double?_close (hp : p.column ≠ 0) :
    double? gap none ('"' :: rest) p = some (gap.text, ⟨rest, p.step '"'⟩) := by
  rw [double?.eq_def]
  simp [hp, show isSpace '"' = false from rfl]

theorem double?_letter (hp : p.column ≠ 0) (hb : isBreak d = false)
    (h : letterEscape? d = some r) :
    double? gap none ('\\' :: d :: rest) p =
      (double? .none none rest (p.after ['\\', d])).map (before (gap.text ++ [r])) := by
  rw [double?.eq_def]
  simp [hp, show isSpace '\\' = false from rfl, hb, h]

theorem double?_width {width : Nat} (hp : p.column ≠ 0) (hb : isBreak d = false)
    (hl : letterEscape? d = none) (hw : escapeWidth? d = some width) :
    double? gap none ('\\' :: d :: rest) p =
      (double? .none (some ⟨width, 0⟩) rest (p.after ['\\', d])).map (before gap.text) := by
  rw [double?.eq_def]
  simp [hp, show isSpace '\\' = false from rfl, hb, hl, hw]

theorem digitValue?_upperHexDigit :
    ∀ n < 16, Text.digitValue? 16 (Text.upperHexDigit n) = some n := by
  decide

theorem isBreak_upperHexDigit : ∀ n < 16, isBreak (Text.upperHexDigit n) = false := by
  decide

theorem codePoint?_toNat (c : Char) : codePoint? c.toNat = some c := by
  unfold codePoint?
  exact dif_pos c.valid

/-- Digits in front of the last one of an escape add to its value. -/
theorem double?_digits (count due v : Nat) (n : Nat) (hn : n < 16 ^ count) (p : Position) :
    double? .none (some ⟨count + (due + 1), v⟩) (Text.upperHexDigits count n ++ rest) p =
      double? .none (some ⟨due + 1, v * 16 ^ count + n⟩) rest
        (p.after (Text.upperHexDigits count n)) := by
  induction count generalizing n due rest p with
  | zero =>
    have : n = 0 := by simpa using hn
    subst this
    simp [Text.upperHexDigits]
  | succ count ih =>
    have hq : n / 16 < 16 ^ count := by
      rw [Nat.pow_succ] at hn
      omega
    have hr : n % 16 < 16 := Nat.mod_lt _ (by decide)
    have hdue : count + 1 + (due + 1) = count + (due + 1 + 1) := by omega
    rw [Text.upperHexDigits, List.append_assoc, hdue, ih (due + 1) (n / 16) hq,
      Position.after_append, List.singleton_append, double?.eq_def]
    simp only [digitValue?_upperHexDigit _ hr]
    rw [if_neg (by omega), Nat.pow_succ, show v * (16 ^ count * 16) + n =
      (v * 16 ^ count + n / 16) * 16 + n % 16 by rw [Nat.add_mul, Nat.mul_assoc]; omega]
    rfl

/-- An escape by code point reads as the character. -/
theorem double?_codePoint (count : Nat) (hc : c.toNat < 16 ^ (count + 1)) (p : Position) :
    double? .none (some ⟨count + 1, 0⟩) (Text.upperHexDigits (count + 1) c.toNat ++ rest) p =
      (double? .none none rest (p.after (Text.upperHexDigits (count + 1) c.toNat))).map
        (before [c]) := by
  have hq : c.toNat / 16 < 16 ^ count := by
    rw [Nat.pow_succ] at hc
    omega
  have hr : c.toNat % 16 < 16 := Nat.mod_lt _ (by decide)
  rw [Text.upperHexDigits, List.append_assoc, double?_digits count 0 0 _ hq, Position.after_append,
    List.singleton_append, double?.eq_def]
  simp only [digitValue?_upperHexDigit _ hr]
  have hvalue : (0 * 16 ^ count + c.toNat / 16) * 16 + c.toNat % 16 = c.toNat := by omega
  rw [if_pos (by omega), hvalue, codePoint?_toNat]
  rfl

theorem isBreak_upperHexDigits (count n : Nat) :
    (Text.upperHexDigits count n).any isBreak = false := by
  induction count generalizing n with
  | zero => rfl
  | succ count ih =>
    rw [Text.upperHexDigits, List.any_append, ih, List.any_cons,
      isBreak_upperHexDigit _ (Nat.mod_lt _ (by decide))]
    rfl

theorem isPrintable_upperHexDigit : ∀ n < 16, isPrintable (Text.upperHexDigit n) = true := by
  decide

theorem isPrintable_upperHexDigits (count n : Nat) :
    (Text.upperHexDigits count n).all isPrintable = true := by
  induction count generalizing n with
  | zero => rfl
  | succ count ih =>
    rw [Text.upperHexDigits, List.all_append, ih, List.all_cons,
      isPrintable_upperHexDigit _ (Nat.mod_lt _ (by decide))]
    rfl

/-- The ways in which a character may stand between double quotes. -/
inductive Spells (c : Char) : List Char → Prop
  | raw : isPrintable c → isBreak c = false → c ≠ '"' → c ≠ '\\' → Spells c [c]
  | letter (d : Char) : isPrintable d → isBreak d = false → letterEscape? d = some c →
      Spells c ['\\', d]
  | codePoint (d : Char) (count : Nat) : isPrintable d → isBreak d = false →
      letterEscape? d = none → escapeWidth? d = some (count + 1) → c.toNat < 16 ^ (count + 1) →
      Spells c ('\\' :: d :: Text.upperHexDigits (count + 1) c.toNat)

theorem Spells.ofLetter (d : Char) (hp : isPrintable d) (hb : isBreak d = false)
    (hl : letterEscape? d = some r) (h : c = r) : Spells c ['\\', d] :=
  .letter d hp hb (h ▸ hl)

theorem spells_escaped (c : Char) : Spells c (Scalar.escaped c) := by
  unfold Scalar.escaped
  refine iteInduction (.ofLetter '"' rfl rfl rfl) fun hq => ?_
  refine iteInduction (.ofLetter '\\' rfl rfl rfl) fun hb => ?_
  refine iteInduction (fun h => ?_) fun _ => ?_
  · rw [Bool.and_eq_true, Bool.not_eq_true'] at h
    exact .raw h.1 h.2 hq hb
  refine iteInduction (.ofLetter '0' rfl rfl rfl) fun _ => ?_
  refine iteInduction (.ofLetter 'a' rfl rfl rfl) fun _ => ?_
  refine iteInduction (.ofLetter 'b' rfl rfl rfl) fun _ => ?_
  refine iteInduction (.ofLetter 't' rfl rfl rfl) fun _ => ?_
  refine iteInduction (.ofLetter 'n' rfl rfl rfl) fun _ => ?_
  refine iteInduction (.ofLetter 'v' rfl rfl rfl) fun _ => ?_
  refine iteInduction (.ofLetter 'f' rfl rfl rfl) fun _ => ?_
  refine iteInduction (.ofLetter 'r' rfl rfl rfl) fun _ => ?_
  refine iteInduction (.ofLetter 'e' rfl rfl rfl) fun _ => ?_
  refine iteInduction (.ofLetter 'N' rfl rfl rfl) fun _ => ?_
  refine iteInduction (.ofLetter 'L' rfl rfl rfl) fun _ => ?_
  refine iteInduction (.ofLetter 'P' rfl rfl rfl) fun _ => ?_
  refine iteInduction (fun h => .codePoint 'x' 1 rfl rfl rfl rfl (by omega)) fun _ => ?_
  refine iteInduction (fun h => .codePoint 'u' 3 rfl rfl rfl rfl (by omega)) fun _ => ?_
  have : c.toNat < 0x110000 :=
    c.valid.elim (fun h => by change c.toNat < _ at h; omega) fun h => h.2
  exact .codePoint 'U' 7 rfl rfl rfl rfl (by omega)

theorem isBreak_backslash : isBreak '\\' = false := rfl

/-- What is written for a character stays on its line. -/
theorem Spells.no_break {s : List Char} (h : Spells c s) : s.any isBreak = false := by
  cases h with
  | raw _ hb => simp [hb]
  | letter d _ hb => simp [hb, isBreak_backslash]
  | codePoint d count _ hb =>
    rw [List.any_cons, List.any_cons, hb, isBreak_backslash, isBreak_upperHexDigits]
    rfl

theorem isPrintable_backslash : isPrintable '\\' = true := rfl

/-- What is written for a character needs no escapes of its own. -/
theorem Spells.printable {s : List Char} (h : Spells c s) : s.all isPrintable = true := by
  cases h with
  | raw hp => simp [hp]
  | letter d hp => simp [hp, isPrintable_backslash]
  | codePoint d count hp =>
    rw [List.all_cons, List.all_cons, hp, isPrintable_backslash, isPrintable_upperHexDigits]
    rfl

theorem Spells.ne_nil {s : List Char} (h : Spells c s) : s ≠ [] := by
  cases h <;> simp

theorem column_after_escaped (p : Position) (c : Char) :
    (p.after (Scalar.escaped c)).column ≠ 0 := by
  rw [Position.after_of_no_break (spells_escaped c).no_break]
  have := List.length_pos_iff.2 (spells_escaped c).ne_nil
  show p.column + _ ≠ 0
  omega

/-- What is written for a character reads as the character, unless that is a space. -/
theorem double?_spells {s : List Char} (h : Spells c s) (hc : c ≠ ' ') (hp : p.column ≠ 0) :
    double? gap none (s ++ rest) p =
      (double? .none none rest (p.after s)).map (before (gap.text ++ [c])) := by
  cases h with
  | raw hpr hb hq hbs =>
    have hs : isSpace c = false := by
      cases hs : isSpace c with
      | false => rfl
      | true => exact absurd (eq_space_of_isPrintable hpr hs hb) hc
    exact double?_char hp hs hq hbs
  | letter d _ hb hl => exact double?_letter hp hb hl
  | codePoint d count _ hb hl hw hn =>
    show double? gap none ('\\' :: d :: (_ ++ rest)) p = _
    rw [double?_width hp hb hl hw, double?_codePoint count hn, Option.map_map]
    congr 1
    funext result
    simp [before]

/-- What stands between double quotes reads as the text, after blanks that are still pending. -/
theorem double?_escaped (s g tail : List Char) (hp : p.column ≠ 0) :
    double? (.blanks g) none (s.flatMap Scalar.escaped ++ '"' :: tail) p =
      some (g.reverse ++ s, ⟨tail, p.after (s.flatMap Scalar.escaped ++ ['"'])⟩) := by
  induction s generalizing g p with
  | nil => exact (double?_close hp).trans (by simp)
  | cons c s ih =>
    rw [List.flatMap_cons, List.append_assoc, List.append_assoc, Position.after_append]
    by_cases hc : c = ' '
    · subst hc
      have hrest := ih (' ' :: g) (column_after_escaped p ' ')
      show double? (.blanks g) none (' ' :: (s.flatMap Scalar.escaped ++ '"' :: tail)) p = _
      rw [double?_space hp rfl, Gap.push_blank rfl]
      apply hrest.trans
      rw [List.reverse_cons, List.append_assoc]
      rfl
    · have hrest := ih [] (column_after_escaped p c)
      rw [double?_spells (spells_escaped c) hc hp]
      show (double? (.blanks []) none _ _).map _ = _
      rw [hrest]
      simp [before]

/-- A text in double quotes reads as itself. -/
theorem double?_double (s tail : List Char) (hp : p.column ≠ 0) :
    double? .none none (s.flatMap Scalar.escaped ++ '"' :: tail) p =
      some (s, ⟨tail, p.after (s.flatMap Scalar.escaped ++ ['"'])⟩) :=
  double?_escaped s [] tail hp

end Double

end Token

end RoleDiscovery.Yaml
