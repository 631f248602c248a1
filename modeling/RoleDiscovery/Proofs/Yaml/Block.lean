import RoleDiscovery.Proofs.Yaml.Quoted
import RoleDiscovery.Yaml.Token.Block

/-!
# Literal blocks read back

A block is read character by character, in the margin before a line or in a line. Where the reader
stands after a text decides which chomping mark keeps the breaks at its end.

Results:

* `Token.BlockPlace.after`: where a block reader stands after a text.
* `Token.keeps_chomping`: the mark that is written for a text keeps its last breaks.
* `Token.blockScalar?_literal`: a text written as a literal block reads as itself.
-/

namespace RoleDiscovery.Yaml.Token

/-! ## Places -/

namespace BlockPlace

/-- The place after a character. -/
def next : BlockPlace → Char → BlockPlace
  | margin breaks, c =>
    if isBreak c then margin { breaks with others := c :: breaks.others } else line (isBlank c)
  | line blank, c => if isBreak c then margin ⟨[c], [], blank⟩ else line blank

/-- The place after a text. -/
def after (place : BlockPlace) (s : List Char) : BlockPlace :=
  s.foldl next place

/-- Whether a place is in the margin. -/
def inMargin : BlockPlace → Bool
  | margin _ => true
  | line _ => false

/-- The breaks that have been read, but not yet been taken over into the text. -/
def pending : BlockPlace → List Char
  | margin breaks => breaks.first ++ breaks.others.reverse
  | line _ => []

/-- The start of a block. -/
def start : BlockPlace :=
  margin ⟨[], [], false⟩

@[simp] theorem after_nil (place : BlockPlace) : place.after [] = place := rfl

theorem after_cons (place : BlockPlace) (c : Char) (s : List Char) :
    place.after (c :: s) = (place.next c).after s := rfl

theorem after_concat (place : BlockPlace) (s : List Char) (c : Char) :
    place.after (s ++ [c]) = (place.after s).next c := by
  simp [after]

theorem inMargin_next (place : BlockPlace) (c : Char) : (place.next c).inMargin = isBreak c := by
  cases place <;> cases h : isBreak c <;> simp [next, inMargin, h]

theorem inMargin_after (place : BlockPlace) {s : List Char} (hs : s ≠ []) :
    (place.after s).inMargin = s.getLast?.any isBreak := by
  obtain ⟨t, c, rfl⟩ : ∃ t c, s = t ++ [c] := ⟨_, _, (List.dropLast_concat_getLast hs).symm⟩
  simp [after_concat, inMargin_next]

theorem pending_next_break (place : BlockPlace) {c : Char} (h : isBreak c) :
    (place.next c).pending = place.pending ++ [c] := by
  cases place <;> simp [next, h, pending]

theorem pending_next_char (place : BlockPlace) {c : Char} (h : isBreak c = false) :
    (place.next c).pending = [] := by
  cases place <;> simp [next, h, pending]

end BlockPlace

/-! ## Chomping -/

/-- Whether a block that ends at a place keeps its last breaks. In a line, the break that ends the
block is to be dropped. -/
def Chomping.Keeps : Chomping → BlockPlace → Prop
  | strip, .line _ => True
  | clip, .margin breaks => breaks.others = []
  | keep, .margin _ => True
  | _, _ => False

/-- The mark of a chomping. -/
def Chomping.mark : Chomping → List Char
  | strip => ['-']
  | clip => []
  | keep => ['+']

theorem keeps_strip {place : BlockPlace} (h : place.inMargin = false) :
    Chomping.strip.Keeps place := by
  cases place with
  | margin breaks => simp [BlockPlace.inMargin] at h
  | line blank => trivial

theorem keeps_keep {place : BlockPlace} (h : place.inMargin) : Chomping.keep.Keeps place := by
  cases place with
  | margin breaks => trivial
  | line blank => simp [BlockPlace.inMargin] at h

theorem keeps_clip {place : BlockPlace} {c : Char} (h : place.inMargin = false)
    (hc : isBreak c) : Chomping.clip.Keeps (place.next c) := by
  cases place with
  | margin breaks => simp [BlockPlace.inMargin] at h
  | line blank => simp [BlockPlace.next, hc, Chomping.Keeps]

/-- The mark that is written depends on the last character and on the place of it. -/
theorem chomping_concat (s : List Char) (c : Char) :
    Scalar.chomping (s ++ [c]) =
      if isBreak c then if (BlockPlace.start.after s).inMargin then ['+'] else [] else ['-'] := by
  by_cases hs : s = []
  · subst hs
    simp [Scalar.chomping, BlockPlace.start, BlockPlace.inMargin]
  · have hplace := BlockPlace.inMargin_after .start hs
    obtain ⟨t, d, rfl⟩ : ∃ t d, s = t ++ [d] := ⟨_, _, (List.dropLast_concat_getLast hs).symm⟩
    rw [List.getLast?_concat, Option.any_some] at hplace
    rw [hplace]
    simp [Scalar.chomping]

/-- The mark that is written for a text keeps its last breaks. -/
theorem keeps_chomping {s : List Char} (hs : s ≠ []) :
    ∃ chomping : Chomping, Scalar.chomping s = chomping.mark ∧
      chomping.Keeps (BlockPlace.start.after s) := by
  obtain ⟨t, c, rfl⟩ : ∃ t c, s = t ++ [c] := ⟨_, _, (List.dropLast_concat_getLast hs).symm⟩
  have hnext := BlockPlace.inMargin_next (BlockPlace.start.after t) c
  rw [BlockPlace.after_concat, chomping_concat]
  cases hc : isBreak c with
  | false =>
    rw [hc] at hnext
    exact ⟨.strip, rfl, keeps_strip hnext⟩
  | true =>
    rw [hc] at hnext
    cases hplace : (BlockPlace.start.after t).inMargin with
    | true => exact ⟨.keep, rfl, keeps_keep hnext⟩
    | false => exact ⟨.clip, rfl, keeps_clip hplace hc⟩

/-! ## The text of a block -/

section Text

variable {chomping : Chomping} {breaks : Breaks} {blank : Bool} {c : Char} {s rest body : List Char}
  {p : Position} {column n : Nat}

theorem blockText?_indentation (h : p.column + n ≤ column) :
    blockText? false chomping column (.margin breaks) (indentation n ++ rest) p =
      blockText? false chomping column (.margin breaks) rest (p.after (indentation n)) := by
  induction n generalizing p with
  | zero => rfl
  | succ n ih =>
    have hstep : (p.step ' ').column + n ≤ column := by
      rw [Position.step_of_not_isBreak rfl]
      show p.column + 1 + n ≤ column
      omega
    show blockText? false chomping column (.margin breaks) (' ' :: (indentation n ++ rest)) p = _
    rw [blockText?.eq_def]
    have hlt : p.column < column := by omega
    simp only [hlt, true_and, if_true]
    exact ih hstep

theorem blockText?_break (h : isBreak c) :
    blockText? false chomping column (.margin breaks) (c :: rest) p =
      blockText? false chomping column (.margin { breaks with others := c :: breaks.others }) rest
        (p.step c) := by
  rw [blockText?.eq_def]
  have ht : c ≠ '\t' := by
    rintro rfl
    exact absurd h (by decide)
  simp [h, ht, ne_space_of_isBreak h]

theorem blockText?_firstOfLine (h : isBreak c = false) (hp : p.column = column) :
    blockText? false chomping column (.margin breaks) (c :: rest) p =
      (blockText? false chomping column (.line (isBlank c)) rest (p.step c)).map
        (before (breaks.first ++ breaks.others.reverse ++ [c])) := by
  rw [blockText?.eq_def]
  simp [h, hp, Breaks.between]

theorem blockText?_lineEnd (h : isBreak c) :
    blockText? false chomping column (.line blank) (c :: rest) p =
      blockText? false chomping column (.margin ⟨[c], [], blank⟩) rest (p.step c) := by
  rw [blockText?.eq_def]
  simp [h]

theorem blockText?_inLine (h : isBreak c = false) :
    blockText? false chomping column (.line blank) (c :: rest) p =
      (blockText? false chomping column (.line blank) rest (p.step c)).map (before [c]) := by
  rw [blockText?.eq_def]
  simp [h]

/-- A block ends at a line that is indented less. -/
theorem blockText?_end (chomping : Chomping) (breaks : Breaks) (hp : p.column = 0) (hn : n < column)
    (hb : AtToken body) :
    ∃ q : Position, q.column = n ∧
      blockText? false chomping column (.margin breaks) (indentation n ++ body) p =
        some (breaks.atEnd chomping, ⟨body, q⟩) := by
  have hcol : (p.after (indentation n)).column = n := by
    rw [indentation, Position.after_indentation, hp, Nat.zero_add]
  refine ⟨p.after (indentation n), hcol, ?_⟩
  rw [blockText?_indentation (by omega)]
  generalize p.after (indentation n) = q at hcol
  cases body with
  | nil => rw [blockText?.eq_def]
  | cons c body =>
    have hne := ne_of_not_isSpace (hb c rfl).1
    rw [blockText?.eq_def]
    simp [hne, hcol, Nat.ne_of_lt hn]

/-- The break that is added to a text that does not end with one. -/
def endingBreak (place : BlockPlace) : List Char :=
  if place.inMargin then [] else ['\n']

theorem literalBody_break (h : isBreak c) (broken : Bool) :
    Scalar.literalBody column broken (c :: s) = c :: Scalar.literalBody column true s := by
  rw [Scalar.literalBody]
  simp [h]

theorem literalBody_char (h : isBreak c = false) (broken : Bool) :
    Scalar.literalBody column broken (c :: s) =
      (if broken then indentation column else []) ++ c :: Scalar.literalBody column false s := by
  rw [Scalar.literalBody]
  simp [h]

/-- A break is read, and is pending. -/
theorem blockText?_next_break (place : BlockPlace) (h : isBreak c) :
    blockText? false chomping column place (c :: rest) p =
      blockText? false chomping column (place.next c) rest (p.step c) := by
  cases place with
  | margin breaks =>
    rw [blockText?_break h]
    simp only [BlockPlace.next, h, if_true]
  | line blank =>
    rw [blockText?_lineEnd h]
    simp only [BlockPlace.next, h, if_true]

/-- Any other character is read, and the breaks before it are taken over. -/
theorem blockText?_next_char (place : BlockPlace) (h : isBreak c = false)
    (hp : place.inMargin → p.column = 0) :
    blockText? false chomping column place
        ((if place.inMargin then indentation column else []) ++ c :: rest) p =
      (blockText? false chomping column (place.next c) rest
        ((p.after (if place.inMargin then indentation column else [])).step c)).map
          (before (place.pending ++ [c])) := by
  cases place with
  | margin breaks =>
    have hp0 : p.column = 0 := hp rfl
    have hcol : (p.after (indentation column)).column = column := by
      rw [indentation, Position.after_indentation, hp0, Nat.zero_add]
    have hle : p.column + column ≤ column := by omega
    simp only [BlockPlace.inMargin, if_true]
    rw [blockText?_indentation hle, blockText?_firstOfLine h hcol]
    simp only [BlockPlace.next, h, Bool.false_eq_true, if_false, BlockPlace.pending]
  | line blank =>
    simp only [BlockPlace.inMargin, Bool.false_eq_true, if_false, List.nil_append]
    rw [blockText?_inLine h]
    simp only [BlockPlace.next, h, Bool.false_eq_true, if_false, BlockPlace.pending]
    rfl

/-- At the end the breaks that are pending are kept, and nothing else. -/
theorem blockText?_ending (hn : n < column) (hb : AtToken body) (place : BlockPlace)
    (hp : place.inMargin → p.column = 0) (hk : chomping.Keeps place) :
    ∃ q : Position, q.column = n ∧
      blockText? false chomping column place (endingBreak place ++ (indentation n ++ body)) p =
        some (place.pending, ⟨body, q⟩) := by
  cases place with
  | margin breaks =>
    obtain ⟨q, hq, hend⟩ := blockText?_end chomping breaks (hp rfl) hn hb
    refine ⟨q, hq, hend.trans ?_⟩
    cases chomping with
    | strip => exact hk.elim
    | clip => simp_all [Breaks.atEnd, BlockPlace.pending, Chomping.Keeps]
    | keep => simp [Breaks.atEnd, BlockPlace.pending]
  | line blank =>
    have hp0 : (p.step '\n').column = 0 := rfl
    obtain ⟨q, hq, hend⟩ := blockText?_end chomping ⟨['\n'], [], blank⟩ hp0 hn hb
    refine ⟨q, hq, (blockText?_lineEnd rfl).trans (hend.trans ?_)⟩
    cases chomping with
    | strip => rfl
    | clip => exact hk.elim
    | keep => exact hk.elim

/-- What is written for a text reads as the text, after the breaks that are still pending. -/
theorem blockText?_literalBody (hn : n < column) (hb : AtToken body) (place : BlockPlace)
    (hp : place.inMargin → p.column = 0) (hk : chomping.Keeps (place.after s)) :
    ∃ q : Position, q.column = n ∧
      blockText? false chomping column place (Scalar.literalBody column place.inMargin s ++
          (endingBreak (place.after s) ++ (indentation n ++ body))) p =
        some (place.pending ++ s, ⟨body, q⟩) := by
  induction s generalizing place p with
  | nil =>
    rw [List.append_nil]
    exact blockText?_ending hn hb place hp hk
  | cons c s ih =>
    rw [BlockPlace.after_cons] at hk ⊢
    have hin := BlockPlace.inMargin_next place c
    cases hbr : isBreak c with
    | true =>
      obtain ⟨q, hq, hrest⟩ := ih (place.next c)
        (fun _ => Position.column_step_of_isBreak hbr) hk
      refine ⟨q, hq, ?_⟩
      rw [hin, hbr, BlockPlace.pending_next_break place hbr, List.append_assoc] at hrest
      rw [literalBody_break hbr, List.cons_append, blockText?_next_break place hbr]
      exact hrest
    | false =>
      have hline : ¬(place.next c).inMargin := by simp [hin, hbr]
      obtain ⟨q, hq, hrest⟩ := ih
        (p := (p.after (if place.inMargin then indentation column else [])).step c)
        (place.next c) (fun h => absurd h hline) hk
      refine ⟨q, hq, ?_⟩
      rw [hin, hbr, BlockPlace.pending_next_char place hbr, List.nil_append] at hrest
      rw [literalBody_char hbr, List.append_assoc, List.cons_append,
        blockText?_next_char place hbr hp, hrest]
      simp [before]

end Text

/-! ## The header of a block -/

section Header

variable {chomping : Chomping} {stated : Bool} {c : Char} {s rest body : List Char} {p : Position}
  {column least n : Nat}

/-- What stands between the mark of a block and the end of its line. -/
def header (stated : Bool) (chomping : Chomping) : List Char :=
  (if stated then ['2'] else []) ++ chomping.mark

theorem blockHeader?_header :
    blockHeader? ⟨header stated chomping ++ '\n' :: rest, p⟩ =
      some (⟨chomping, if stated then some 2 else none⟩,
        ⟨rest, p.after (header stated chomping ++ ['\n'])⟩) := by
  cases stated <;> cases chomping <;> rfl

theorem widestMargin?_indentation (hs : isSpace c = false) (n : Nat) :
    widestMargin? n 0 (indentation column ++ c :: rest) = some (n + column) := by
  induction column generalizing n with
  | zero =>
    have hne := ne_of_not_isSpace hs
    show widestMargin? n 0 (c :: rest) = _
    rw [widestMargin?]
    simp [hne]
  | succ column ih =>
    show widestMargin? n 0 (' ' :: (indentation column ++ c :: rest)) = _
    rw [widestMargin?, if_pos rfl, ih]
    congr 1
    omega

/-- The indentation that is found is the one that was written, whether it is stated or not. -/
theorem blockIndent_eq (rest : List Char) (hs : s ≠ []) (hp : s.all isPrintable) (hl : 1 ≤ least)
    (hc : column = least + 1) :
    (match (if Scalar.needsIndentation s then some 2 else none : Option Nat) with
      | some increment => some (least - 1 + increment)
      | none => blockIndent? least (Scalar.literalBody column true s ++ rest)) = some column := by
  cases s with
  | nil => exact absurd rfl hs
  | cons c s =>
    cases hn : Scalar.needsIndentation (c :: s) with
    | true =>
      show some (least - 1 + 2) = some column
      congr 1
      omega
    | false =>
      simp only [Scalar.needsIndentation, Bool.or_eq_false_iff, decide_eq_false_iff_not] at hn
      have hsp : isSpace c = false := by
        have ht := (ne_of_isPrintable (Bool.and_eq_true_iff.1 (List.all_cons ▸ hp)).1).2.2.1
        simp [isSpace, isBlank, hn.1, hn.2, ht]
      show blockIndent? least (Scalar.literalBody column true (c :: s) ++ rest) = some column
      rw [Scalar.literalBody, if_neg (by simp [hn.2]), if_pos rfl, List.append_assoc,
        List.cons_append, blockIndent?, widestMargin?_indentation hsp, Option.map_some]
      congr 1
      omega

/-- A text that is written as a literal block reads as itself. -/
theorem blockScalar?_literal (hs : s ≠ []) (hp : s.all isPrintable) (hl : 1 ≤ least)
    (hc : column = least + 1) (hn : n < column) (hb : AtToken body) :
    ∃ text, Scalar.literal column s = '|' :: text ∧ ∀ p : Position, ∃ q : Position, q.column = n ∧
      blockScalar? false least ⟨text ++ (indentation n ++ body), p⟩ = some (s, ⟨body, q⟩) := by
  obtain ⟨chomping, hmark, hkeeps⟩ := keeps_chomping hs
  have hend : (if s.getLast?.any isBreak then [] else ['\n']) =
      endingBreak (BlockPlace.start.after s) := by
    rw [endingBreak, BlockPlace.inMargin_after _ hs]
  refine ⟨header (Scalar.needsIndentation s) chomping ++ '\n' ::
    (Scalar.literalBody column true s ++ endingBreak (BlockPlace.start.after s)), ?_, ?_⟩
  · rw [Scalar.literal, hmark, hend, header]
    simp
  · intro p
    obtain ⟨q, hq, htext⟩ := blockText?_literalBody
      (p := p.after (header (Scalar.needsIndentation s) chomping ++ ['\n'])) hn hb .start
      (fun _ => by
        rw [Position.after_append]
        exact Position.column_step_of_isBreak (c := '\n') rfl)
      hkeeps
    refine ⟨q, hq, ?_⟩
    simp only [List.append_assoc, List.cons_append]
    rw [blockScalar?, blockHeader?_header, Option.bind_eq_bind, Option.bind_some]
    have hindent := blockIndent_eq
      (endingBreak (BlockPlace.start.after s) ++ (indentation n ++ body)) hs hp hl hc
    generalize Scalar.needsIndentation s = stated at hindent htext
    cases stated with
    | true =>
      obtain rfl := Option.some.inj hindent
      exact htext
    | false =>
      simp only [Bool.false_eq_true, if_false] at hindent htext ⊢
      rw [hindent]
      exact htext

end Header

end RoleDiscovery.Yaml.Token
