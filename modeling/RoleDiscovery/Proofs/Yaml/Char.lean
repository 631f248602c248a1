import Mathlib.Tactic.Common
import Mathlib.Tactic.SplitIfs
import RoleDiscovery.Yaml.Style
import RoleDiscovery.Yaml.Token

/-!
# Characters and positions of a written document

What the writer leaves unescaped, and where the reader stands after a stretch of text.

Results:

* `isAllowed_of_isPrintable`, `eq_space_of_isPrintable`: a character that is written as it is may
  stand in a document, and the space is the only blank among them.
* `Position.after`: the position after a text, with its line, column and index.
-/

namespace RoleDiscovery.Yaml

/-! ## Characters -/

theorem char_eq_iff {c d : Char} : c = d ↔ c.toNat = d.toNat :=
  Char.toNat_inj.symm

theorem char_le_iff {c d : Char} : c ≤ d ↔ c.toNat ≤ d.toNat :=
  Iff.rfl

theorem isAllowed_of_isPrintable {c : Char} (h : isPrintable c) : isAllowed c := by
  simp only [isPrintable, isAllowed, Bool.or_eq_true, Bool.and_eq_true, decide_eq_true_eq,
    char_eq_iff, char_le_iff, ne_eq, Char.reduceToNat] at h ⊢
  omega

/-- The breaks that reading would turn into line feeds are not among the printable characters. -/
theorem ne_of_isPrintable {c : Char} (h : isPrintable c) :
    c ≠ '\r' ∧ c ≠ '\u0085' ∧ c ≠ '\t' ∧ c ≠ '\ufeff' := by
  simp only [isPrintable, Bool.or_eq_true, Bool.and_eq_true, decide_eq_true_eq,
    char_eq_iff, char_le_iff, ne_eq, Char.reduceToNat] at h ⊢
  omega

theorem isSpace_eq_true {c : Char} : isSpace c = true ↔ isBlank c = true ∨ isBreak c = true := by
  simp [isSpace]

theorem isBlank_eq_true {c : Char} : isBlank c = true ↔ c = ' ' ∨ c = '\t' := by
  simp [isBlank]

/-- Of the printable characters only the space is a blank. -/
theorem eq_space_of_isPrintable {c : Char} (h : isPrintable c) (hs : isSpace c)
    (hb : isBreak c = false) : c = ' ' := by
  rw [isSpace_eq_true, hb] at hs
  rcases isBlank_eq_true.1 (hs.resolve_right (by simp)) with rfl | rfl
  · rfl
  · exact absurd h (by decide)

theorem ne_space_of_isBreak {c : Char} (h : isBreak c) : c ≠ ' ' := by
  rintro rfl
  exact absurd h (by decide)

theorem isSpace_of_isBreak {c : Char} (h : isBreak c) : isSpace c = true :=
  isSpace_eq_true.2 (.inr h)

theorem ne_of_not_isSpace {c : Char} (h : isSpace c = false) :
    c ≠ ' ' ∧ c ≠ '\t' ∧ isBreak c = false := by
  simp only [isSpace, isBlank, Bool.or_eq_false_iff, decide_eq_false_iff_not] at h
  exact ⟨h.1.1, h.1.2, h.2⟩

/-- A text is at the mark of a document only if it starts with a hyphen or a point. -/
theorem atDocumentMark_cons {c : Char} {rest : List Char} (h : c ≠ '-') (h' : c ≠ '.') :
    atDocumentMark (c :: rest) = false := by
  unfold atDocumentMark
  split
  · next heq => exact absurd (List.cons.inj heq).1 h
  · next heq => exact absurd (List.cons.inj heq).1 h'
  · rfl

theorem atDocumentMark_of_isBreak {c : Char} {rest : List Char} (h : isBreak c) :
    atDocumentMark (c :: rest) = false := by
  refine atDocumentMark_cons ?_ ?_ <;> rintro rfl <;> exact absurd h (by decide)

/-- A text at its end, or at a character that neither separates tokens nor starts a comment. -/
def AtToken (s : List Char) : Prop :=
  ∀ c ∈ s.head?, isSpace c = false ∧ c ≠ '#' ∧ c ≠ '\ufeff'

/-! ## Positions -/

namespace Position

/-- The position after a text. -/
def after (p : Position) (s : List Char) : Position :=
  s.foldl step p

@[simp] theorem after_nil (p : Position) : p.after [] = p := rfl

@[simp] theorem after_cons (p : Position) (c : Char) (s : List Char) :
    p.after (c :: s) = (p.step c).after s := rfl

@[simp] theorem after_append (p : Position) (s t : List Char) :
    p.after (s ++ t) = (p.after s).after t :=
  List.foldl_append

theorem step_of_not_isBreak {p : Position} {c : Char} (h : isBreak c = false) :
    p.step c = ⟨p.index + 1, p.line, p.column + 1⟩ := by
  simp [step, h]

theorem column_step_of_isBreak {p : Position} {c : Char} (h : isBreak c) :
    (p.step c).column = 0 := by
  simp [step, h]

theorem column_step_ne_zero {p : Position} {c : Char} (h : isBreak c = false) :
    (p.step c).column ≠ 0 := by
  simp [step, h]

/-- A text without a break stays on its line. -/
theorem after_of_no_break {s : List Char} (h : s.any isBreak = false) (p : Position) :
    p.after s = ⟨p.index + s.length, p.line, p.column + s.length⟩ := by
  induction s generalizing p with
  | nil => rfl
  | cons c s ih =>
    rw [List.any_cons, Bool.or_eq_false_iff] at h
    rw [after_cons, ih h.2, step_of_not_isBreak h.1]
    simp only [List.length_cons, mk.injEq, true_and]
    omega

theorem after_indentation (p : Position) (n : Nat) :
    p.after (List.replicate n ' ') = ⟨p.index + n, p.line, p.column + n⟩ := by
  have h : (List.replicate n ' ').any isBreak = false := by
    induction n with
    | zero => rfl
    | succ n ih => rw [List.replicate_succ, List.any_cons, ih]; rfl
  rw [after_of_no_break h, List.length_replicate]

end Position

end RoleDiscovery.Yaml
