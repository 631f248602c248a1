import RoleDiscovery.Proofs.Yaml.Quoted
import RoleDiscovery.Proofs.Yaml.Stream
import RoleDiscovery.Yaml.Printer

/-!
# The tokens of a value on a line

A text in any of its styles, and an empty collection in brackets, read up to the next token. The
collection that holds the value is open in a column to the left of it, and the next line is not
indented deeper than that column.

Results:

* `Style.Allows`: what a text is like that a style is chosen for.
* `Stream.leads_scalar`: the text of a value, in any style.
* `Stream.leads_emptyFlow`: an empty collection.
-/

namespace RoleDiscovery.Yaml

/-! ## Styles -/

namespace Style

/-- Whether a text keeps its meaning in a style. -/
def Allows : Style → List Char → Prop
  | plain, s => s ≠ [] ∧ allowsPlain s
  | single, s => '\n' ∉ s ∧ allowsSingle s
  | double, _ => True
  | literal, s => allowsLiteral s

/-- The form that a scalar in a style is read in. -/
def form : Style → Form
  | plain => .plain
  | single => .quoted
  | double => .quoted
  | literal => .literal

/-- A text that nothing but texts is spelled as is not empty. -/
theorem ne_nil_of_isText {s : List Char} (h : Plain.isText s) : s ≠ [] := by
  rintro rfl
  exact Bool.noConfusion h

theorem allows_ofText (s : List Char) : (ofText s).Allows s := by
  unfold ofText
  by_cases hn : s.elem '\n' = true
  · rw [if_pos hn]
    by_cases hl : allowsLiteral s = true
    · rw [if_pos hl]
      exact hl
    · rw [if_neg hl]
      trivial
  · rw [if_neg hn]
    by_cases hp : (Plain.isText s && allowsPlain s) = true
    · rw [if_pos hp]
      obtain ⟨ht, hp⟩ := Bool.and_eq_true_iff.1 hp
      exact ⟨ne_nil_of_isText ht, hp⟩
    · rw [if_neg hp]
      by_cases hs : allowsSingle s = true
      · rw [if_pos hs]
        exact ⟨fun h => hn (List.elem_eq_true_of_mem h), hs⟩
      · rw [if_neg hs]
        trivial

end Style

namespace Token.Stream

variable {s : Stream} {rest body : List Char} {column indent n : Nat} {keyAllowed : Bool}
  {indents : List Nat} {tokens : List Token}

/-! ## Candidates -/

/-- Inside a collection no key is called for. -/
theorem noteCandidate_of_inner (h : At s rest column keyAllowed (indent :: indents) tokens)
    (hi : indent < column) :
    ∃ level, s.noteCandidate = some { s with level } ∧ level.all = tokens ∧
      ∀ candidate ∈ level.candidate, candidate.required = false := by
  cases hk : keyAllowed with
  | true =>
    subst hk
    obtain ⟨required, hnote, hreq⟩ := noteCandidate_of_keyAllowed h
    refine ⟨_, hnote, rfl, ?_⟩
    intro candidate hc
    obtain rfl := Option.some.inj hc
    rw [Bool.eq_false_iff]
    intro hr
    have := Option.some.inj (hreq hr)
    omega
  | false =>
    refine ⟨s.level, ?_, h.tokens_eq, h.optional⟩
    rw [noteCandidate, if_neg (by rw [h.keyAllowed_eq, hk]; exact Bool.false_ne_true)]

theorem column_ne_zero (h : At s rest column keyAllowed (indent :: indents) tokens)
    (hi : indent < column) : s.column ≠ 0 := by
  rw [h.column_eq]
  omega

/-! ## Plain -/

/-- A text that is written plain, up to the next token. -/
theorem leads_plain {t : List Char}
    (h : At s (t ++ '\n' :: (indentation n ++ body)) column keyAllowed (indent :: indents) tokens)
    (hi : indent < column) (hn : n ≤ indent) (hb : AtToken body) (ht : t ≠ [])
    (hp : Style.allowsPlain t) :
    ∃ u, Leads s u ∧ At u body n true (indent :: indents) (.scalar .plain t :: tokens) := by
  obtain ⟨-, htok⟩ := startsPlain_of_allowsPlain ht hp ('\n' :: (indentation n ++ body))
  have hr : Reaches column (indent :: indents) := reaches_cons (Nat.le_of_lt hi)
  apply leads_of_settled h htok hr (by simp)
  intro u hu _
  have hcol := column_ne_zero hu hi
  obtain ⟨level, hnote, hall, ho⟩ := noteCandidate_of_inner hu hi
  have hinner : u.innerColumn = indent + 1 := by rw [innerColumn, hu.indents_eq]
  have hflow : u.inFlow = false := by rw [inFlow, hu.outer_eq]; rfl
  have hread : plain? u.inFlow u.innerColumn .none u.cursor.rest u.cursor.position =
      some (t, true, ⟨body, (u.cursor.position.after t).after ('\n' :: indentation n)⟩) := by
    rw [hflow, hinner, hu.rest_eq, plain?_text ht hp fun h0 => absurd h0 hcol,
      plain?_lineEnd (Nat.lt_succ_of_le hn) hb, Option.map_some, before, List.append_nil]
  refine ⟨{ u with
      level := level.push (.scalar .plain t)
      cursor := ⟨body, (u.cursor.position.after t).after ('\n' :: indentation n)⟩
      keyAllowed := true }, ?_, ?_, ?_⟩
  · rw [next_plain hu.rest_eq ht hp (fun h0 => absurd h0 hcol) hu.outer_eq, plainScalar, hnote]
    show (plain? u.inFlow u.innerColumn .none u.cursor.rest u.cursor.position).bind _ = _
    rw [hread]
    rfl
  · rw [List.length_append, List.length_cons, List.length_append]
    show body.length < _
    omega
  · refine ⟨rfl, ?_, rfl, hu.indents_eq, ?_, hu.outer_eq, ho⟩
    · show ((u.cursor.position.after t).after ('\n' :: indentation n)).column = n
      rw [Position.after_cons, indentation, Position.after_indentation,
        Position.column_step_of_isBreak rfl, Nat.zero_add]
    · rw [← hall]
      rfl

/-! ## Quotes -/

/-- Reads what stands between quotes, from after the first of them. -/
def quoted (read : List Char → Position → Option (List Char × Cursor)) (s : Stream) :
    Option Stream := do
  let s ← s.noteCandidate
  let inside := s.cursor.skip
  let (text, cursor) ← read inside.rest inside.position
  return s.content (.scalar .quoted text) cursor

theorem next_apostrophe (h : s.cursor.rest = '\'' :: rest) (hc : s.column ≠ 0) :
    s.next = s.quoted (single? .none) := by
  rw [next, h]
  simp [hc, quoted, singleQuoted]

theorem next_quote (h : s.cursor.rest = '"' :: rest) (hc : s.column ≠ 0) :
    s.next = s.quoted (double? .none none) := by
  rw [next, h]
  simp [hc, quoted, doubleQuoted]

/-- A text that is written between quotes, up to the next token. -/
theorem leads_quoted {mark : Char} {inside t : List Char}
    {read : List Char → Position → Option (List Char × Cursor)}
    (h : At s (mark :: inside ++ '\n' :: (indentation n ++ body)) column keyAllowed
      (indent :: indents) tokens)
    (hi : indent < column) (hb : AtToken body) (hm : mark = '\'' ∨ mark = '"')
    (hnext : ∀ (u : Stream) (rest : List Char), u.cursor.rest = mark :: rest → u.column ≠ 0 →
      u.next = u.quoted read)
    (hread : ∀ (tail : List Char) (p : Position), tail.head? = some '\n' → p.column ≠ 0 →
      ∃ q, read (inside ++ tail) p = some (t, ⟨tail, q⟩)) :
    ∃ u, Leads s u ∧ At u body n true (indent :: indents) (.scalar .quoted t :: tokens) := by
  have hmark : isBreak mark = false ∧ isSpace mark = false ∧ mark ≠ '#' ∧ mark ≠ '\ufeff' := by
    rcases hm with rfl | rfl <;> decide
  have htok : AtToken (mark :: inside ++ '\n' :: (indentation n ++ body)) := by
    intro c hc
    obtain rfl := Option.some.inj hc
    exact hmark.2
  have hr : Reaches column (indent :: indents) := reaches_cons (Nat.le_of_lt hi)
  have hread' := leads_of_settled (P := fun u => ∃ q : Position,
    At u ('\n' :: (indentation n ++ body)) q.column false (indent :: indents)
      (.scalar .quoted t :: tokens)) h htok hr (by simp) fun u hu _ => ?_
  · obtain ⟨u, hsu, q, hu⟩ := hread'
    obtain ⟨v, huv, hv⟩ := leads_break hu hb
    exact ⟨v, hsu.trans huv, hv⟩
  have hrest : u.cursor.rest = mark :: (inside ++ '\n' :: (indentation n ++ body)) := hu.rest_eq
  obtain ⟨level, hnote, hall, ho⟩ := noteCandidate_of_inner hu hi
  obtain ⟨q, hq⟩ := hread ('\n' :: (indentation n ++ body)) (u.cursor.position.step mark) rfl
    (Position.column_step_ne_zero hmark.1)
  refine ⟨{ u with
      level := level.push (.scalar .quoted t)
      cursor := ⟨'\n' :: (indentation n ++ body), q⟩
      keyAllowed := false }, ?_, ?_, q, ?_⟩
  · rw [hnext u _ hrest (column_ne_zero hu hi), quoted, hnote]
    show (read u.cursor.skip.rest u.cursor.skip.position).bind _ = _
    rw [skip_eq hrest, hq]
    rfl
  · rw [List.length_append, List.length_cons]
    exact Nat.lt_add_of_pos_left (Nat.succ_pos _)
  · refine ⟨rfl, rfl, rfl, hu.indents_eq, ?_, hu.outer_eq, ho⟩
    rw [← hall]
    rfl

/-! ## Literal blocks -/

theorem next_literal (h : s.cursor.rest = '|' :: rest) (hc : s.column ≠ 0) (ho : s.outer = []) :
    s.next = s.blockScalar .literal := by
  have hflow : s.inFlow = false := by rw [inFlow, ho]; rfl
  rw [next, h]
  simp [hc, hflow]

/-- A text that is written as a literal block, up to the next token. -/
theorem leads_literal {t : List Char}
    (h : At s (Scalar.literal (indent + 2) t ++ (indentation n ++ body)) column keyAllowed
      (indent :: indents) tokens)
    (hi : indent < column) (hn : n ≤ indent) (hb : AtToken body) (hl : Style.allowsLiteral t) :
    ∃ u, Leads s u ∧ At u body n true (indent :: indents) (.scalar .literal t :: tokens) := by
  simp only [Style.allowsLiteral, Style.isVerbatim, Bool.and_eq_true, Bool.not_eq_true',
    List.isEmpty_eq_false_iff] at hl
  obtain ⟨⟨⟨hp, -⟩, ht⟩, -⟩ := hl
  obtain ⟨text, htext, hscan⟩ := blockScalar?_literal (n := n) ht hp (Nat.succ_pos indent) rfl
    (by omega) hb
  rw [htext, List.cons_append] at h
  have htok : AtToken ('|' :: (text ++ (indentation n ++ body))) := by
    intro c hc
    obtain rfl := Option.some.inj hc
    decide
  have hr : Reaches column (indent :: indents) := reaches_cons (Nat.le_of_lt hi)
  apply leads_of_settled h htok hr (List.cons_ne_nil _ _)
  intro u hu _
  obtain ⟨level, hdrop, hall, hnone⟩ := dropCandidate_of_optional hu.optional
  have hinner : u.innerColumn = indent + 1 := by rw [innerColumn, hu.indents_eq]
  obtain ⟨q, hq, hread⟩ := hscan (u.cursor.position.step '|')
  refine ⟨{ u with
      level := level.push (.scalar .literal t)
      cursor := ⟨body, q⟩
      keyAllowed := true }, ?_, ?_, ?_⟩
  · rw [next_literal hu.rest_eq (column_ne_zero hu hi) hu.outer_eq, blockScalar, hdrop]
    show (blockScalar? false u.innerColumn u.cursor.skip).bind _ = _
    rw [hinner, skip_eq hu.rest_eq, hread]
    rfl
  · rw [List.length_cons, List.length_append, List.length_append]
    show body.length < _
    omega
  · refine ⟨rfl, hq, rfl, hu.indents_eq, ?_, hu.outer_eq, by simp [Level.push, hnone]⟩
    rw [← hu.tokens_eq, ← hall]
    rfl

/-! ## Any style -/

theorem atToken_line {style : Style} {t : List Char} (ha : style.Allows t) (tail : List Char) :
    AtToken (Scalar.line column style t ++ tail) := by
  cases style with
  | plain =>
    rw [Scalar.line, List.append_assoc]
    exact (startsPlain_of_allowsPlain ha.1 ha.2 _).2
  | single =>
    rintro _ ⟨⟩
    decide
  | double =>
    rintro _ ⟨⟩
    decide
  | literal =>
    rintro _ ⟨⟩
    decide

/-- A text, in any style that keeps it, up to the next token. -/
theorem leads_scalar {style : Style} {t : List Char}
    (h : At s (Scalar.line (indent + 2) style t ++ (indentation n ++ body)) column keyAllowed
      (indent :: indents) tokens)
    (hi : indent < column) (hn : n ≤ indent) (hb : AtToken body) (ha : style.Allows t) :
    ∃ u, Leads s u ∧ At u body n true (indent :: indents) (.scalar style.form t :: tokens) := by
  cases style with
  | plain =>
    rw [Scalar.line, List.append_assoc] at h
    exact leads_plain h hi hn hb ha.1 ha.2
  | single =>
    rw [Scalar.line, List.append_assoc, Scalar.single] at h
    refine leads_quoted h hi hb (.inl rfl) (fun u rest => next_apostrophe) ?_
    intro tail p htail hp
    have hq : tail.head? ≠ some '\'' := by rw [htail]; decide
    refine ⟨p.after (Scalar.singleBody (indent + 2) false t ++ ['\'']), ?_⟩
    show single? .none (Scalar.singleBody (indent + 2) false t ++ ['\''] ++ tail) p = _
    rw [List.append_assoc]
    exact single?_single (Nat.succ_pos _) hq ha.2 ha.1 hp
  | double =>
    rw [Scalar.line, List.append_assoc, Scalar.double] at h
    refine leads_quoted h hi hb (.inr rfl) (fun u rest => next_quote) ?_
    intro tail p _ hp
    refine ⟨p.after (t.flatMap Scalar.escaped ++ ['"']), ?_⟩
    show double? .none none (t.flatMap Scalar.escaped ++ ['"'] ++ tail) p = _
    rw [List.append_assoc]
    exact double?_double t tail hp
  | literal => exact leads_literal h hi hn hb ha

/-! ## Empty collections -/

/-- The tokens of an empty collection in brackets. -/
inductive Brackets : Char → Char → Token → Token → Prop
  | sequence : Brackets '[' ']' .flowSequence .flowSequenceEnd
  | mapping : Brackets '\x7b' '\x7d' .flowMapping .flowMappingEnd

theorem next_open {c d : Char} {first last : Token} (hm : Brackets c d first last)
    (h : s.cursor.rest = c :: rest) (hc : s.column ≠ 0) : s.next = s.openFlow first := by
  rw [next, h]
  cases hm <;> simp [hc]

theorem next_close {c d : Char} {first last : Token} (hm : Brackets c d first last)
    (h : s.cursor.rest = d :: rest) (hc : s.column ≠ 0) : s.next = s.closeFlow last := by
  rw [next, h]
  cases hm <;> simp [hc]

/-- A stream right after an opening bracket, with the tokens up to it. -/
structure Inside (s : Stream) (rest : List Char) (indents : List Nat) (tokens : List Token) :
    Prop where
  rest_eq : s.cursor.rest = rest
  column_ne_zero : s.column ≠ 0
  indents_eq : s.indents = indents
  level_eq : s.level = .empty
  outer_eq : ∃ level, s.outer = [level] ∧ level.all = tokens ∧
    ∀ candidate ∈ level.candidate, candidate.required = false

theorem leads_open {c d : Char} {first last : Token} (hm : Brackets c d first last)
    (h : At s (c :: rest) column keyAllowed (indent :: indents) tokens) (hi : indent < column) :
    ∃ u, Leads s u ∧ Inside u rest (indent :: indents) (first :: tokens) := by
  have htok : AtToken (c :: rest) := by
    rintro _ ⟨⟩
    cases hm <;> decide
  have hr : Reaches column (indent :: indents) := reaches_cons (Nat.le_of_lt hi)
  apply leads_of_settled h htok hr (List.cons_ne_nil _ _)
  intro u hu _
  obtain ⟨level, hnote, hall, ho⟩ := noteCandidate_of_inner hu hi
  refine ⟨{ u with
      cursor := u.cursor.skip
      keyAllowed := true
      level := .empty
      outer := [level.push first] }, ?_, ?_, ?_⟩
  · rw [next_open hm hu.rest_eq (column_ne_zero hu hi), openFlow, hnote, ← hu.outer_eq]
    rfl
  · rw [skip_eq hu.rest_eq]
    exact Nat.lt_succ_self _
  · refine ⟨by rw [skip_eq hu.rest_eq], ?_, hu.indents_eq, rfl, level.push first, rfl, ?_, ho⟩
    · show u.cursor.skip.position.column ≠ 0
      rw [skip_eq hu.rest_eq]
      exact Position.column_step_ne_zero (by cases hm <;> decide)
    · rw [← hall]
      rfl

/-- Inside of brackets only the candidate around them can expire. -/
theorem settle_inside (h : Inside s rest indents tokens) (hb : AtToken rest) :
    ∃ t, s.toToken.expireAll = some t ∧ t.unroll t.column = t ∧ Inside t rest indents tokens := by
  obtain ⟨level, houter, hall, ho⟩ := h.outer_eq
  obtain ⟨level', he, hall', ho'⟩ := expire_of_optional (p := s.cursor.position) ho
  have hcur : expire s.cursor.position s.level = some s.level := by
    rw [h.level_eq]
    rfl
  refine ⟨{ s with outer := [level'] }, ?_, rfl, ?_⟩
  · rw [toToken_atToken (h.rest_eq ▸ hb), expireAll, hcur, houter]
    simp [he]
  · exact { h with outer_eq := ⟨level', rfl, hall'.trans hall, ho'⟩ }

theorem leads_closing {c d : Char} {first last : Token} (hm : Brackets c d first last)
    (h : Inside s (d :: rest) indents tokens) :
    ∃ u, Leads s u ∧ ∃ column, At u rest column false indents (last :: tokens) := by
  have htok : AtToken (d :: rest) := by
    rintro _ ⟨⟩
    cases hm <;> decide
  obtain ⟨t, hs, hu, ht⟩ := settle_inside h htok
  obtain ⟨level, houter, hall, ho⟩ := ht.outer_eq
  have hclose : t.next = some { t with
      level := level.push last
      outer := []
      cursor := t.cursor.skip
      keyAllowed := false } := by
    rw [next_close hm ht.rest_eq ht.column_ne_zero, closeFlow, dropCandidate, ht.level_eq]
    show (some t).bind _ = _
    simp only [Option.bind_some, houter, ht.level_eq]
    rfl
  refine ⟨_, leads_of_next hs (by rw [hu, ht.rest_eq]) (by rw [hu, hclose]) ?_,
    t.cursor.skip.position.column, ?_⟩
  · rw [skip_eq ht.rest_eq, h.rest_eq]
    exact Nat.lt_succ_self _
  · refine ⟨by rw [skip_eq ht.rest_eq], rfl, rfl, ht.indents_eq, ?_, rfl, ho⟩
    rw [← hall]
    rfl

/-- An empty collection, up to the next token. -/
theorem leads_emptyFlow {c d : Char} {first last : Token} (hm : Brackets c d first last)
    (h : At s (c :: d :: '\n' :: (indentation n ++ body)) column keyAllowed (indent :: indents)
      tokens)
    (hi : indent < column) (hb : AtToken body) :
    ∃ u, Leads s u ∧ At u body n true (indent :: indents) (last :: first :: tokens) := by
  obtain ⟨u, hsu, hu⟩ := leads_open hm h hi
  obtain ⟨v, huv, m, hv⟩ := leads_closing hm hu
  obtain ⟨w, hvw, hw⟩ := leads_break hv hb
  exact ⟨w, hsu.trans (huv.trans hvw), hw⟩

/-! ## The end -/

/-- The tokens of a text that ends while one block collection is open. -/
theorem read_end (fuel : Nat) (h : At s [] 0 keyAllowed [0] tokens) :
    read (fuel + 1) s = some ((Token.blockEnd :: tokens).reverse) := by
  have hr : Reaches 0 [0] := by
    rintro _ ⟨⟩
    exact Nat.le_refl 0
  obtain ⟨t, hs, hu, -, ht⟩ := settle h (by rintro _ ⟨⟩) hr
  have hflow : t.inFlow = false := by rw [inFlow, ht.outer_eq]; rfl
  have hall : t.unrollAll = { t.push .blockEnd with indents := [] } := by
    rw [unrollAll, if_neg (by rw [hflow]; exact Bool.false_ne_true), ht.indents_eq]
    rfl
  have hend : At t.unrollAll [] 0 keyAllowed [] (.blockEnd :: tokens) := by
    rw [hall]
    exact { ht.push .blockEnd with indents_eq := rfl }
  obtain ⟨level, hdrop, hlevel, -⟩ := dropCandidate_of_optional hend.optional
  rw [read, hs, Option.bind_eq_bind, Option.bind_some, hu]
  simp only [ht.rest_eq]
  rw [finish, hdrop, Option.bind_eq_bind, Option.bind_some]
  show (if !t.unrollAll.outer.isEmpty then none else some level.all.reverse) = _
  rw [hend.outer_eq, hlevel, hend.tokens_eq]
  rfl

end Token.Stream

end RoleDiscovery.Yaml
