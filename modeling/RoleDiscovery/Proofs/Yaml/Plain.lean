import RoleDiscovery.Proofs.Text.Digit
import RoleDiscovery.Proofs.Yaml.Quoted

/-!
# Plain scalars read back

Results:

* `Token.plain?_text`: a text that may be written plain is read up to its end.
* `Token.plain?_colon`, `Token.plain?_lineEnd`: a plain scalar ends before the colon of a field, and
  at the end of its line if the next one is indented less.
* `Plain.int?_toString`: a whole number reads as itself.
-/

namespace RoleDiscovery.Yaml

namespace Token

variable {c : Char} {s rest body : List Char} {p : Position} {indent : Nat} {gap : Gap}

/-! ## Reading up to the end -/

theorem plain?_space (hs : isSpace c) (ht : c ≠ '\t') :
    plain? false indent gap (c :: rest) p = plain? false indent (gap.push c) rest (p.step c) := by
  rw [plain?.eq_def]
  simp [hs, ht]

theorem plain?_char (hs : isSpace c = false)
    (he : endsPlain false indent gap p (c :: rest) = false) :
    plain? false indent gap (c :: rest) p =
      (plain? false indent .none rest (p.step c)).map (before (gap.text ++ [c])) := by
  rw [plain?.eq_def]
  have hstray : hasStrayColon false (c :: rest) = false := by
    unfold hasStrayColon
    split <;> rfl
  simp [hs, he, hstray]

/-- What is left of a text that is written plain, after the character before it. -/
structure PlainRest (prev : Char) (s : List Char) : Prop where
  printable : s.all isPrintable
  noBreak : s.any isBreak = false
  noStructure : Style.holdsStructure (prev :: s) = false
  noSpaceAtEnd : s.getLast? ≠ some ' '

namespace PlainRest

variable {prev : Char}

theorem tail (h : PlainRest prev (c :: s)) : PlainRest c s where
  printable := (Bool.and_eq_true_iff.1 (List.all_cons ▸ h.printable)).2
  noBreak := (Bool.or_eq_false_iff.1 (List.any_cons ▸ h.noBreak)).2
  noStructure := (Bool.or_eq_false_iff.1 h.noStructure).2
  noSpaceAtEnd := by
    cases s with
    | nil => simp
    | cons d s => simpa [List.getLast?_cons_cons] using h.noSpaceAtEnd

theorem eq_space (h : PlainRest prev (c :: s)) (hs : isSpace c) : c = ' ' :=
  eq_space_of_isPrintable (Bool.and_eq_true_iff.1 (List.all_cons ▸ h.printable)).1 hs
    (Bool.or_eq_false_iff.1 (List.any_cons ▸ h.noBreak)).1

theorem step_column (h : PlainRest prev (c :: s)) (p : Position) : (p.step c).column ≠ 0 :=
  Position.column_step_ne_zero (Bool.or_eq_false_iff.1 (List.any_cons ▸ h.noBreak)).1

theorem ne_nil_of_space (h : PlainRest prev (' ' :: s)) : s ≠ [] := by
  rintro rfl
  exact h.noSpaceAtEnd rfl

/-- Neither a comment nor a value starts at the next character. -/
theorem not_endsPlain (h : PlainRest prev (c :: s)) {g : List Char} (hg : g ≠ [] → isSpace prev)
    (hm : p.column = 0 → atDocumentMark (c :: (s ++ rest)) = false) :
    endsPlain false indent (.blanks g) p (c :: (s ++ rest)) = false := by
  obtain ⟨hs, -⟩ := Bool.or_eq_false_iff.1 h.noStructure
  obtain ⟨hcolon, hhash⟩ := Bool.or_eq_false_iff.1 hs
  have hc : c = ':' → atSpace (s ++ rest) = false := by
    rintro rfl
    have : atSpace s = false := by simpa using hcolon
    cases s with
    | nil => simp [atSpace] at this
    | cons d s => exact this
  have hn : c = '#' → g = [] := by
    rintro rfl
    have hprev : isSpace prev = false := by simpa using hhash
    by_contra hne
    rw [hg hne] at hprev
    exact Bool.noConfusion hprev
  have hnone : c = '#' → Gap.isNone (.blanks g) = true := fun h => by rw [hn h]; rfl
  simp only [endsPlain, Gap.isBroken_blanks, Bool.false_and, Bool.false_or, Bool.or_false,
    Bool.or_eq_false_iff, Bool.and_eq_false_iff, decide_eq_false_iff_not, Bool.not_eq_false']
  exact ⟨⟨or_iff_not_imp_left.2 fun h => hm (not_not.1 h),
    or_iff_not_imp_left.2 fun h => hnone (not_not.1 h)⟩,
    or_iff_not_imp_left.2 fun h => hc (not_not.1 h)⟩

end PlainRest

/-- A text that may be written plain is read up to its last character, whatever follows it. -/
theorem plain?_rest {prev : Char} {g : List Char} (hs : s ≠ []) (h : PlainRest prev s)
    (hg : g ≠ [] → isSpace prev) (hm : p.column = 0 → atDocumentMark (s ++ rest) = false) :
    plain? false indent (.blanks g) (s ++ rest) p =
      (plain? false indent .none rest (p.after s)).map (before (g.reverse ++ s)) := by
  induction s generalizing prev g p with
  | nil => exact absurd rfl hs
  | cons c s ih =>
    have hstep := h.step_column p
    cases hc : isSpace c with
    | true =>
      obtain rfl := h.eq_space hc
      have hrest := ih (p := p.step ' ') (g := ' ' :: g) h.ne_nil_of_space h.tail (fun _ => hc)
        fun h0 => absurd h0 hstep
      rw [List.cons_append, plain?_space hc (by decide), Gap.push_blank rfl, hrest,
        List.reverse_cons, List.append_assoc]
      rfl
    | false =>
      rw [List.cons_append, plain?_char hc (h.not_endsPlain hg hm)]
      by_cases hnil : s = []
      · subst hnil
        rfl
      · have hrest := ih (p := p.step c) (g := []) hnil h.tail (fun h0 => absurd rfl h0)
          fun h0 => absurd h0 hstep
        show (plain? false indent (.blanks []) (s ++ rest) (p.step c)).map _ = _
        rw [hrest, Option.map_map]
        congr 1
        funext result
        simp [before]

/-- The first character of a plain text is no mark, and neither is it together with a blank. -/
theorem head_of_startsStructure (h : Style.startsStructure (c :: s) = false) :
    Style.isOpening c = false ∧ ((c = '?' ∨ c = ':' ∨ c = '-') → atSpace s = false) := by
  unfold Style.startsStructure at h
  split at h
  · exact Bool.noConfusion h
  · exact Bool.noConfusion h
  · next heq =>
    obtain ⟨rfl, rfl⟩ := List.cons.inj heq
    simp only [Bool.or_eq_false_iff, Bool.and_eq_false_iff, decide_eq_false_iff_not] at h
    refine ⟨h.1, fun hc => h.2.resolve_left ?_⟩
    tauto
  · next heq => exact absurd heq (by simp)

/-- A plain text does not start with a blank, even together with what follows it. -/
theorem head_of_allowsPlain (h : Style.allowsPlain (c :: s)) (rest : List Char) :
    isPrintable c ∧ isSpace c = false ∧ Style.isOpening c = false ∧
      ((c = '?' ∨ c = ':' ∨ c = '-') → atSpace (s ++ rest) = false) := by
  simp only [Style.allowsPlain, Style.isVerbatim, Bool.and_eq_true, Bool.not_eq_true',
    decide_eq_true_eq] at h
  obtain ⟨⟨⟨⟨⟨⟨hp, -⟩, hb⟩, hh⟩, -⟩, hst⟩, -⟩ := h
  obtain ⟨ho, hs⟩ := head_of_startsStructure hst
  have hpc := (Bool.and_eq_true_iff.1 (List.all_cons ▸ hp)).1
  refine ⟨hpc, ?_, ho, fun hc => ?_⟩
  · by_contra hsp
    have hc := eq_space_of_isPrintable hpc (Bool.not_eq_false _ ▸ hsp)
      (Bool.or_eq_false_iff.1 (List.any_cons ▸ hb)).1
    exact hh (congrArg some hc)
  · have := hs hc
    cases s with
    | nil => exact Bool.noConfusion this
    | cons d s => exact this

/-- What the style of a plain text says about it. -/
theorem plainRest_of_allowsPlain (h : Style.allowsPlain s) :
    Style.startsStructure s = false ∧ PlainRest 'x' s := by
  simp only [Style.allowsPlain, Style.isVerbatim, Bool.and_eq_true, Bool.not_eq_true',
    decide_eq_true_eq] at h
  obtain ⟨⟨⟨⟨⟨⟨hp, -⟩, hb⟩, -⟩, hl⟩, hst⟩, hh⟩ := h
  refine ⟨hst, hp, hb, ?_, hl⟩
  cases s with
  | nil => rfl
  | cons c s =>
    have hc : (c = ':' && atSpace s) = false := by
      obtain ⟨-, hs⟩ := head_of_startsStructure hst
      rw [Bool.and_eq_false_iff, decide_eq_false_iff_not]
      exact or_iff_not_imp_left.2 fun hc => hs (.inr (.inl (not_not.1 hc)))
    simp [Style.holdsStructure, hc, hh, show isSpace 'x' = false from rfl]

/-- A text that may be written plain is read whole. -/
theorem plain?_text (hs : s ≠ []) (h : Style.allowsPlain s)
    (hm : p.column = 0 → atDocumentMark (s ++ rest) = false) :
    plain? false indent .none (s ++ rest) p =
      (plain? false indent .none rest (p.after s)).map (before s) :=
  plain?_rest hs (plainRest_of_allowsPlain h).2 (fun h0 => absurd rfl h0) hm

/-- A text that may be written plain stays on its line. -/
theorem after_of_allowsPlain (h : Style.allowsPlain s) (p : Position) :
    p.after s = ⟨p.index + s.length, p.line, p.column + s.length⟩ :=
  Position.after_of_no_break (plainRest_of_allowsPlain h).2.noBreak p

/-! ## Ends -/

theorem plain?_colon (h : atSpace rest) :
    plain? false indent .none (':' :: rest) p = some ([], false, ⟨':' :: rest, p⟩) := by
  rw [plain?.eq_def]
  simp [endsPlain, h, show isSpace ':' = false from rfl]

theorem plain?_indentation (hg : gap.isBroken) (n : Nat) :
    plain? false indent gap (indentation n ++ rest) p =
      plain? false indent gap rest (p.after (indentation n)) := by
  induction n generalizing p with
  | zero => rfl
  | succ n ih =>
    show plain? false indent gap (' ' :: (indentation n ++ rest)) p = _
    rw [plain?_space rfl (by decide), Gap.push_space_of_isBroken hg, ih]
    rfl

/-- A plain scalar ends with its line if the next one is not indented enough. The reader then stands
at the next token. -/
theorem plain?_lineEnd {n : Nat} (hn : n < indent) (hb : AtToken body) :
    plain? false indent .none ('\n' :: (indentation n ++ body)) p =
      some ([], true, ⟨body, p.after ('\n' :: indentation n)⟩) := by
  have hcol : (p.after ('\n' :: indentation n)).column = n := by
    rw [Position.after_cons, indentation, Position.after_indentation,
      Position.column_step_of_isBreak rfl, Nat.zero_add]
  have hg : (Gap.none.push '\n').isBroken := rfl
  rw [plain?_space rfl (by decide), plain?_indentation hg, ← Position.after_cons]
  generalize p.after ('\n' :: indentation n) = q at hcol
  cases body with
  | nil => rw [plain?.eq_def]; rfl
  | cons c body =>
    obtain ⟨hs, -, -⟩ := hb c rfl
    have he : endsPlain false indent (Gap.none.push '\n') q (c :: body) = true := by
      simp [endsPlain, hg, hcol, hn]
    rw [plain?.eq_def]
    simp [hs, he, hg]

end Token

/-! ## Whole numbers -/

namespace Plain

theorem nat?_toDigits (n : Nat) : nat? (Nat.toDigits 10 n) = some n := by
  have hn := Text.natOfDigits?_toDigits n
  by_cases h0 : n = 0
  · subst h0
    rfl
  · cases hd : Nat.toDigits 10 n with
    | nil => exact absurd hd Nat.toDigits_ne_nil
    | cons c ds =>
      have hc : c ≠ '0' := by
        rintro rfl
        exact h0 (Text.head_toDigits n (by rw [hd]; rfl))
      rw [hd] at hn
      unfold nat?
      split <;> simp_all

/-- A whole number reads as itself. -/
theorem int?_toString (n : Int) : int? (toString n).toList = some n := by
  rw [Text.toList_toString_int]
  split_ifs with h
  · obtain ⟨c, ds, hd, hc⟩ := Text.head_toDigits_isDigit n.natAbs
    have hn := nat?_toDigits n.natAbs
    rw [hd] at hn ⊢
    unfold int?
    split
    · next heq => obtain ⟨rfl, -⟩ := List.cons.inj heq; exact absurd hc (by decide)
    · next heq => obtain ⟨rfl, -⟩ := List.cons.inj heq; exact absurd hc (by decide)
    · rw [hn]
      show some (n.natAbs : Int) = some n
      rw [Int.natAbs_of_nonneg h]
  · rw [int?, nat?_toDigits]
    show some (-(n.natAbs : Int)) = some n
    congr 1
    omega

end Plain

namespace Style

theorem hasSpaceBeforeBreak_of_not_mem {s : List Char} (h : ' ' ∉ s) :
    hasSpaceBeforeBreak s = false := by
  induction s with
  | nil => rfl
  | cons c s ih =>
    rw [List.mem_cons, not_or] at h
    cases s with
    | nil => rfl
    | cons d s => simp [hasSpaceBeforeBreak, Ne.symm h.1, ih h.2]

theorem holdsStructure_of_not_mem {s : List Char} (hc : ':' ∉ s) (hh : '#' ∉ s) :
    holdsStructure s = false := by
  induction s with
  | nil => rfl
  | cons c s ih =>
    rw [List.mem_cons, not_or] at hc hh
    cases s with
    | nil => rfl
    | cons d s =>
      have hd : d ≠ ':' ∧ d ≠ '#' :=
        ⟨fun h => hc.2 (h ▸ List.mem_cons_self), fun h => hh.2 (h ▸ List.mem_cons_self)⟩
      simp [holdsStructure, hd.1, hd.2, ih hc.2 hh.2]

theorem startsStructure_of_isDigit {c : Char} (hc : c.isDigit) (s : List Char) :
    startsStructure (c :: s) = false ∧ startsStructure ('-' :: c :: s) = false := by
  rw [Text.isDigit_iff] at hc
  have hne : ∀ d : Char, d.toNat < 48 ∨ 57 < d.toNat → c ≠ d := by
    rintro d hd rfl
    omega
  have hs : isSpace c = false := by
    simp [isSpace, isBlank, isBreak, hne]
  constructor
  · unfold startsStructure
    split
    · next heq => exact absurd (List.cons.inj heq).1 (hne _ (by decide))
    · next heq => exact absurd (List.cons.inj heq).1 (hne _ (by decide))
    · next heq =>
      obtain ⟨rfl, rfl⟩ := List.cons.inj heq
      simp [isOpening, hne]
    · rfl
  · unfold startsStructure
    split
    · next heq =>
      exact absurd (List.cons.inj (List.cons.inj heq).2).1 (hne _ (by decide))
    · next heq => exact absurd (List.cons.inj heq).1 (by decide)
    · next heq =>
      obtain ⟨rfl, rfl⟩ := List.cons.inj heq
      simp [isOpening, atSpace, hs]
    · rfl

/-- A text of digits and hyphens may be written plain, unless its start is taken for structure. -/
theorem allowsPlain_of_digits {s : List Char} (h : ∀ c ∈ s, c.isDigit ∨ c = '-')
    (hs : startsStructure s = false) : allowsPlain s := by
  have hne : ∀ d : Char, (d.toNat < 48 ∨ 57 < d.toNat) ∧ d ≠ '-' → d ∉ s := by
    rintro d ⟨hd, hd'⟩ hm
    rcases h d hm with hdig | rfl
    · rw [Text.isDigit_iff] at hdig
      omega
    · exact hd' rfl
  have hp : ∀ c ∈ s, isPrintable c ∧ isBreak c = false := by
    intro c hm
    rcases h c hm with hc | rfl
    · rw [Text.isDigit_iff] at hc
      simp only [isPrintable, isBreak, Bool.or_eq_true, Bool.or_eq_false_iff, Bool.and_eq_true,
        decide_eq_true_eq, decide_eq_false_iff_not, char_eq_iff, char_le_iff, ne_eq,
        Char.reduceToNat]
      omega
    · decide
  have hspace : ' ' ∉ s := hne ' ' (by decide)
  have hhead : s.head? ≠ some ' ' := fun h0 => hspace (List.mem_of_head? h0)
  have hlast : s.getLast? ≠ some ' ' := fun h0 => hspace (List.mem_of_getLast? h0)
  have hprint : s.all isPrintable := List.all_eq_true.2 fun c hm => (hp c hm).1
  have hbreak : s.any isBreak = false := by
    rw [List.any_eq_false]
    intro c hm
    simp [(hp c hm).2]
  simp [allowsPlain, isVerbatim, hprint, hbreak, hasSpaceBeforeBreak_of_not_mem hspace, hhead,
    hlast, hs, holdsStructure_of_not_mem (hne ':' (by decide)) (hne '#' (by decide))]

/-- Whole numbers may be written plain. -/
theorem allowsPlain_toString (n : Int) : allowsPlain (toString n).toList := by
  obtain ⟨c, ds, hd, hc⟩ := Text.head_toDigits_isDigit n.natAbs
  have hdigit : ∀ d ∈ c :: ds, d.isDigit := fun d hm =>
    Nat.isDigit_of_mem_toDigits (by decide) (by decide) (hd ▸ hm)
  obtain ⟨h1, h2⟩ := startsStructure_of_isDigit hc ds
  rw [Text.toList_toString_int, hd]
  split_ifs
  · exact allowsPlain_of_digits (fun d hm => .inl (hdigit d hm)) h1
  · refine allowsPlain_of_digits (fun d hm => ?_) h2
    rcases List.mem_cons.1 hm with rfl | hm
    · exact .inr rfl
    · exact .inl (hdigit d hm)

theorem toString_ne_nil (n : Int) : (toString n).toList ≠ [] := by
  rw [Text.toList_toString_int]
  split_ifs
  · exact Nat.toDigits_ne_nil
  · exact List.cons_ne_nil _ _

end Style

end RoleDiscovery.Yaml
