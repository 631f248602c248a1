import Mathlib.Data.List.TakeDrop
import RoleDiscovery.Proofs.Yaml.Block
import RoleDiscovery.Proofs.Yaml.Plain
import RoleDiscovery.Yaml.Token.Stream

/-!
# Steps of the token reader

The reader takes one token at a time. `Leads` relates two states of it from which the same tokens
are read; `At` says what the rest of the text depends on. Each kind of token has one lemma that
takes the reader over it.

Results:

* `Stream.leads_key`, `Stream.leads_entry`: the name of a field with its colon, and the hyphen of an
  item; both open a block collection where none is open.
* `Stream.leads_close`: a line that is indented less closes the innermost block collection.
-/

namespace RoleDiscovery.Yaml.Token.Stream

/-! ## Reading on -/

/-- From two streams the same tokens are read; the second is at most as far from the end as the
steps in between allow. -/
def Leads (s t : Stream) : Prop :=
  ∃ steps, t.cursor.rest.length + steps ≤ s.cursor.rest.length ∧
    ∀ fuel, read (fuel + steps) s = read fuel t

theorem Leads.refl (s : Stream) : Leads s s :=
  ⟨0, Nat.le_refl _, fun _ => rfl⟩

theorem Leads.trans {s t u : Stream} (h : Leads s t) (h' : Leads t u) : Leads s u := by
  obtain ⟨m, hm, hread⟩ := h
  obtain ⟨n, hn, hread'⟩ := h'
  refine ⟨n + m, by omega, ?_⟩
  intro fuel
  rw [← Nat.add_assoc, hread, hread']

/-- Reading starts with moving to the next token. -/
theorem leads_of_toToken {s t : Stream} (h : s.toToken = t) (ht : t.toToken = t)
    (hl : t.cursor.rest.length ≤ s.cursor.rest.length) : Leads s t := by
  refine ⟨0, hl, ?_⟩
  intro fuel
  cases fuel with
  | zero => rfl
  | succ fuel => rw [Nat.add_zero, read, read, h, ht]

/-- What is read depends only on the stream once it has been brought in front of its next token. -/
theorem leads_of_unroll {s t a b : Stream} (ha : s.toToken.expireAll = some a)
    (hb : t.toToken.expireAll = some b) (h : a.unroll a.column = b.unroll b.column)
    (hl : t.cursor.rest.length ≤ s.cursor.rest.length) : Leads s t := by
  refine ⟨0, hl, ?_⟩
  intro fuel
  cases fuel with
  | zero => rfl
  | succ fuel =>
    rw [Nat.add_zero, read, read, ha, hb]
    simp only [Option.bind_eq_bind, Option.bind_some, h]

/-- One token is read. -/
theorem leads_of_next {s t u : Stream} {c : Char} {rest : List Char}
    (hs : s.toToken.expireAll = some t)
    (hu : (t.unroll t.column).cursor.rest = c :: rest) (hn : (t.unroll t.column).next = some u)
    (hl : u.cursor.rest.length < s.cursor.rest.length) : Leads s u := by
  refine ⟨1, hl, ?_⟩
  intro fuel
  rw [read, hs, Option.bind_eq_bind, Option.bind_some]
  simp only [hu, hn, Option.bind_some]

/-! ## States -/

/-- A stream outside of brackets in front of a text: the column, whether a key may start, the
columns of the open collections, and the tokens so far, the last one first. No key is called for. -/
structure At (s : Stream) (rest : List Char) (column : Nat) (keyAllowed : Bool)
    (indents : List Nat) (tokens : List Token) : Prop where
  rest_eq : s.cursor.rest = rest
  column_eq : s.column = column
  keyAllowed_eq : s.keyAllowed = keyAllowed
  indents_eq : s.indents = indents
  tokens_eq : s.level.all = tokens
  outer_eq : s.outer = []
  optional : ∀ candidate ∈ s.level.candidate, candidate.required = false

/-- The columns of the open collections once there is one at a column. -/
def opened (column : Nat) : List Nat → List Nat
  | [] => [column]
  | indent :: indents => if indent < column then column :: indent :: indents else indent :: indents

/-- The mark of a collection, if it has to be opened at a column. -/
def opening (column : Nat) (mark : Token) : List Nat → List Token
  | [] => [mark]
  | indent :: _ => if indent < column then [mark] else []

theorem opened_self (column : Nat) (indents : List Nat) :
    opened column (column :: indents) = column :: indents := by
  simp [opened]

theorem opening_self (column : Nat) (mark : Token) (indents : List Nat) :
    opening column mark (column :: indents) = [] := by
  simp [opening]

/-- The text is not indented less than an open collection. -/
def Reaches (column : Nat) (indents : List Nat) : Prop :=
  ∀ indent ∈ indents.head?, indent ≤ column

theorem reaches_cons {column indent : Nat} {indents : List Nat} (hi : indent ≤ column) :
    Reaches column (indent :: indents) := by
  rintro _ ⟨⟩
  exact hi

section

variable {s : Stream} {rest body : List Char} {c : Char} {column n : Nat} {keyAllowed : Bool}
  {indents : List Nat} {tokens : List Token}

/-! ## Moving to a token -/

theorem skipBlanks_atToken {flow : Bool} {p : Position} (h : AtToken rest) :
    skipBlanks flow keyAllowed false rest p = (keyAllowed, ⟨rest, p⟩) := by
  cases rest with
  | nil => rw [skipBlanks]
  | cons c rest =>
    obtain ⟨hs, hc, hm⟩ := h c rfl
    obtain ⟨h1, h2, h3⟩ := ne_of_not_isSpace hs
    rw [skipBlanks]
    simp [h1, h2, h3, hc, hm]

theorem skipBlanks_space {flow : Bool} {p : Position} :
    skipBlanks flow keyAllowed false (' ' :: rest) p =
      skipBlanks flow keyAllowed false rest (p.step ' ') := by
  rw [skipBlanks]
  simp [show isBreak ' ' = false from rfl]

theorem skipBlanks_break {flow : Bool} {p : Position} :
    skipBlanks flow keyAllowed false ('\n' :: rest) p =
      skipBlanks flow (keyAllowed || !flow) false rest (p.step '\n') := by
  rw [skipBlanks]
  simp [show isBreak '\n' = true from rfl]

theorem skipBlanks_indentation {flow : Bool} {p : Position} (n : Nat) :
    skipBlanks flow keyAllowed false (indentation n ++ rest) p =
      skipBlanks flow keyAllowed false rest (p.after (indentation n)) := by
  induction n generalizing p with
  | zero => rfl
  | succ n ih => exact skipBlanks_space.trans ih

theorem toToken_atToken (h : AtToken s.cursor.rest) : s.toToken = s := by
  rw [toToken, skipBlanks_atToken h]

/-- A blank in front of a token is passed over. -/
theorem leads_space (h : At s (' ' :: body) column keyAllowed indents tokens) (hb : AtToken body) :
    ∃ t, Leads s t ∧ At t body (column + 1) keyAllowed indents tokens := by
  have ht : s.toToken = { s with cursor := ⟨body, s.cursor.position.step ' '⟩ } := by
    rw [toToken, h.rest_eq, skipBlanks_space, skipBlanks_atToken hb]
  refine ⟨_, leads_of_toToken ht (toToken_atToken hb) ?_, ?_⟩
  · rw [h.rest_eq]
    exact Nat.le_succ _
  · refine { h with rest_eq := rfl, column_eq := ?_ }
    rw [← h.column_eq]
    rfl

/-- The break at the end of a line is passed over, and the indentation of the next one. A key may
start there. -/
theorem leads_break (h : At s ('\n' :: (indentation n ++ body)) column keyAllowed indents tokens)
    (hb : AtToken body) : ∃ t, Leads s t ∧ At t body n true indents tokens := by
  have ht : s.toToken = { s with
      keyAllowed := true, cursor := ⟨body, s.cursor.position.after ('\n' :: indentation n)⟩ } := by
    have hflow : s.inFlow = false := by rw [inFlow, h.outer_eq]; rfl
    rw [toToken, h.rest_eq, skipBlanks_break, skipBlanks_indentation, skipBlanks_atToken hb, hflow,
      Bool.not_false, Bool.or_true]
    rfl
  refine ⟨_, leads_of_toToken ht (toToken_atToken hb) ?_, ?_⟩
  · rw [h.rest_eq, List.length_cons, List.length_append]
    show body.length ≤ _
    omega
  · refine { h with rest_eq := rfl, column_eq := ?_, keyAllowed_eq := rfl }
    show (s.cursor.position.after ('\n' :: indentation n)).column = n
    rw [Position.after_cons, indentation, Position.after_indentation,
      Position.column_step_of_isBreak rfl, Nat.zero_add]

/-! ## Candidates -/

theorem expire_of_optional {p : Position} {level : Level}
    (h : ∀ candidate ∈ level.candidate, candidate.required = false) :
    ∃ level', expire p level = some level' ∧ level'.all = level.all ∧
      ∀ candidate ∈ level'.candidate, candidate.required = false := by
  unfold expire
  cases hc : level.candidate with
  | none => exact ⟨level, rfl, rfl, by simp [hc]⟩
  | some candidate =>
    have hr := h candidate hc
    by_cases hs : isStale p candidate = true
    · exact ⟨{ level with candidate := none }, by simp [hs, hr], rfl, by simp⟩
    · exact ⟨level, by simp [hs], rfl, h⟩

theorem expire_push (p : Position) (level : Level) (token : Token) :
    expire p (level.push token) = (expire p level).map (·.push token) := by
  unfold expire
  cases hc : level.candidate with
  | none => simp [Level.push, hc]
  | some candidate =>
    simp only [Level.push, hc]
    split_ifs <;> simp [hc]

theorem expireAll_eq (h : s.outer = []) :
    s.expireAll = (expire s.cursor.position s.level).map fun level => { s with level } := by
  unfold expireAll
  cases expire s.cursor.position s.level <;> simp [h]

theorem dropCandidate_of_optional
    (h : ∀ candidate ∈ s.level.candidate, candidate.required = false) :
    ∃ level, s.dropCandidate = some { s with level } ∧ level.all = s.level.all ∧
      level.candidate = none := by
  unfold dropCandidate
  cases hc : s.level.candidate with
  | none => exact ⟨s.level, rfl, rfl, hc⟩
  | some candidate =>
    exact ⟨{ s.level with candidate := none }, by simp [h candidate hc], rfl, rfl⟩

theorem unroll_of_reaches (ho : s.outer = []) (hr : Reaches column s.indents) :
    s.unroll column = s := by
  have hspan : s.indents.span (fun indent => column < indent) = ([], s.indents) := by
    cases hi : s.indents with
    | nil => rfl
    | cons indent indents =>
      have hle := hr indent (by rw [hi]; rfl)
      rw [List.span_eq_takeWhile_dropWhile]
      simp [hle]
  rw [unroll, if_neg (by simp [inFlow, ho]), hspan]
  rfl

/-- In front of a token that is indented far enough, the reader takes the token. -/
theorem settle (h : At s rest column keyAllowed indents tokens) (hb : AtToken rest)
    (hr : Reaches column indents) :
    ∃ t, s.toToken.expireAll = some t ∧ t.unroll t.column = t ∧ t.cursor = s.cursor ∧
      At t rest column keyAllowed indents tokens := by
  obtain ⟨level, he, hall, ho⟩ := expire_of_optional (p := s.cursor.position) h.optional
  have hb' : AtToken s.cursor.rest := h.rest_eq ▸ hb
  have ht : At { s with level } rest column keyAllowed indents tokens :=
    { h with tokens_eq := hall.trans h.tokens_eq, optional := ho }
  refine ⟨{ s with level }, ?_, ?_, rfl, ht⟩
  · rw [toToken_atToken hb', expireAll_eq h.outer_eq, he, Option.map_some]
  · rw [ht.column_eq]
    exact unroll_of_reaches h.outer_eq (ht.indents_eq ▸ hr)

/-! ## Indentation -/

/-- A token more, and the text behind it. -/
theorem At.push (h : At s rest column keyAllowed indents tokens) (token : Token) :
    At (s.push token) rest column keyAllowed indents (token :: tokens) :=
  { h with tokens_eq := by rw [← h.tokens_eq]; rfl }

/-- A collection is opened at a column, unless it is open. -/
theorem At.roll (h : At s rest column keyAllowed indents tokens) (mark : Token) :
    At (s.roll mark) rest column keyAllowed (opened column indents)
      (opening column mark indents ++ tokens) ∧ (s.roll mark).cursor = s.cursor := by
  have hflow : s.inFlow = false := by rw [inFlow, h.outer_eq]; rfl
  have hopen : At { s.push mark with indents := column :: indents } rest column keyAllowed
      (column :: indents) (mark :: tokens) := { h.push mark with indents_eq := rfl }
  rw [Stream.roll, opensAt, innerColumn, hflow, h.column_eq, h.indents_eq]
  cases indents with
  | nil => exact ⟨hopen, rfl⟩
  | cons indent indents =>
    by_cases hi : indent < column
    · simp only [Bool.not_false, Bool.true_and, decide_eq_true_eq, Nat.succ_le_iff, hi, if_true,
        opened, opening]
      exact ⟨hopen, rfl⟩
    · simp only [Bool.not_false, Bool.true_and, decide_eq_true_eq, Nat.succ_le_iff, hi, if_false,
        opened, opening, and_true]
      exact h

/-- A line that is indented less closes the innermost block collection. -/
theorem leads_close {indent : Nat} (h : At s rest column keyAllowed (indent :: indents) tokens)
    (hb : AtToken rest) (hi : column < indent) :
    ∃ t, Leads s t ∧ At t rest column keyAllowed indents (.blockEnd :: tokens) := by
  have ht : At { s.push .blockEnd with indents } rest column keyAllowed indents
      (.blockEnd :: tokens) := { h.push .blockEnd with indents_eq := rfl }
  obtain ⟨level, he, -, -⟩ := expire_of_optional (p := s.cursor.position) h.optional
  have hs : s.toToken.expireAll = some { s with level } := by
    rw [toToken_atToken (h.rest_eq ▸ hb), expireAll_eq h.outer_eq, he, Option.map_some]
  have ht' : (Stream.toToken { s.push .blockEnd with indents }).expireAll =
      some { s with level := level.push .blockEnd, indents } := by
    have hpush := expire_push s.cursor.position s.level .blockEnd
    rw [he] at hpush
    rw [toToken_atToken (ht.rest_eq ▸ hb), expireAll_eq ht.outer_eq]
    exact congrArg (Option.map _) hpush
  refine ⟨_, leads_of_unroll hs ht' ?_ (Nat.le_refl _), ht⟩
  -- closing the collection now leaves one less to close in front of the token
  show unroll s.column { s with level } =
    unroll s.column { s with level := level.push .blockEnd, indents }
  rw [h.column_eq, unroll, unroll, if_neg (by simp [inFlow, h.outer_eq]),
    if_neg (by simp [inFlow, h.outer_eq])]
  simp only [h.indents_eq, List.span_eq_takeWhile_dropWhile, List.takeWhile_cons,
    List.dropWhile_cons, hi, decide_true, if_true, List.foldl_cons]
  rfl

/-! ## Taking a token -/

/-- What the next token does in front of it, it does to the reader. -/
theorem leads_of_settled {P : Stream → Prop} (h : At s rest column keyAllowed indents tokens)
    (hb : AtToken rest) (hr : Reaches column indents) (hne : rest ≠ [])
    (hnext : ∀ t, At t rest column keyAllowed indents tokens → t.cursor = s.cursor →
      ∃ u, t.next = some u ∧ u.cursor.rest.length < rest.length ∧ P u) :
    ∃ u, Leads s u ∧ P u := by
  obtain ⟨t, hs, hu, hc, ht⟩ := settle h hb hr
  obtain ⟨u, hn, hl, hp⟩ := hnext t ht hc
  obtain ⟨c, rest', rfl⟩ := List.exists_cons_of_ne_nil hne
  exact ⟨u, leads_of_next hs (hu.symm ▸ ht.rest_eq) (hu.symm ▸ hn) (h.rest_eq.symm ▸ hl), hp⟩

theorem skip_eq (h : s.cursor.rest = c :: rest) :
    s.cursor.skip = ⟨rest, s.cursor.position.step c⟩ := by
  rw [Cursor.skip, h]

/-! ## Items -/

theorem next_entry (h : s.cursor.rest = '-' :: ' ' :: rest) : s.next = s.blockEntry := by
  rw [next, h]
  simp [atDocumentMark, atSpace, show isSpace ' ' = true from rfl]

/-- The hyphen of an item opens a sequence, unless a collection is open in its column. -/
theorem leads_entry (h : At s ('-' :: ' ' :: rest) column true indents tokens)
    (hr : Reaches column indents) :
    ∃ t, Leads s t ∧ At t (' ' :: rest) (column + 1) true (opened column indents)
      (.blockEntry :: (opening column .blockSequence indents ++ tokens)) := by
  have hb : AtToken ('-' :: ' ' :: rest) := by
    intro c hc
    obtain rfl := Option.some.inj hc
    decide
  apply leads_of_settled h hb hr (List.cons_ne_nil _ _)
  intro t ht _
  obtain ⟨hroll, hcursor⟩ := ht.roll .blockSequence
  obtain ⟨level, hdrop, hall, hnone⟩ := dropCandidate_of_optional hroll.optional
  have hflow : t.inFlow = false := by rw [inFlow, ht.outer_eq]; rfl
  refine ⟨{ t.roll .blockSequence with
      level := level.push .blockEntry, cursor := t.cursor.skip, keyAllowed := true }, ?_, ?_, ?_⟩
  · rw [next_entry ht.rest_eq, blockEntry, hflow, ht.keyAllowed_eq]
    simp only [Bool.not_false, Bool.not_true, Bool.and_false, Bool.false_eq_true, if_false, hdrop]
    rw [← hcursor]
    rfl
  · rw [skip_eq ht.rest_eq]
    exact Nat.lt_succ_self _
  · rw [skip_eq ht.rest_eq]
    refine { hroll with
      rest_eq := rfl, column_eq := ?_, keyAllowed_eq := rfl, tokens_eq := ?_, optional := ?_ }
    · rw [← ht.column_eq]
      rfl
    · rw [← hroll.tokens_eq, ← hall]
      rfl
    · simp [Level.push, hnone]

/-! ## Keys -/

theorem isOpening_of_isIndicator (h : isIndicator c) :
    Style.isOpening c ∨ c = '?' ∨ c = ':' ∨ c = '-' := by
  simp only [isIndicator, Style.isOpening, List.elem_eq_mem, List.mem_cons, List.not_mem_nil,
    or_false, decide_eq_true_eq] at h ⊢
  tauto

/-- A text that may be written plain starts a plain scalar. -/
theorem startsPlain_of_allowsPlain {t : List Char} (ht : t ≠ []) (hp : Style.allowsPlain t)
    (tail : List Char) : startsPlain false (t ++ tail) = true ∧ AtToken (t ++ tail) := by
  obtain ⟨c, t, rfl⟩ := List.exists_cons_of_ne_nil ht
  obtain ⟨hpr, hsp, ho, hst⟩ := head_of_allowsPlain hp tail
  constructor
  · rw [List.cons_append, startsPlain]
    by_cases hi : isIndicator c = true
    · have hc := (isOpening_of_isIndicator hi).resolve_left (by simp [ho])
      have hrest := hst hc
      obtain ⟨d, u, hu⟩ : ∃ d u, t ++ tail = d :: u := by
        cases hu : t ++ tail with
        | nil => rw [hu] at hrest; exact Bool.noConfusion hrest
        | cons d u => exact ⟨d, u, rfl⟩
      rw [hu] at hrest ⊢
      have hd : isBlank d = false := by
        simpa [isSpace] using (Bool.or_eq_false_iff.1 hrest).1
      rcases hc with rfl | rfl | rfl
      · simp [hrest]
      · simp [hrest]
      · simp [hd]
    · simp [hsp, hi]
  · intro d hd
    obtain rfl := Option.some.inj hd
    refine ⟨hsp, ?_, (ne_of_isPrintable hpr).2.2.2⟩
    rintro rfl
    exact absurd ho (by decide)

theorem next_plain {t tail : List Char} (hr : s.cursor.rest = t ++ tail) (ht : t ≠ [])
    (hp : Style.allowsPlain t) (hm : s.column = 0 → atDocumentMark (t ++ tail) = false)
    (ho : s.outer = []) : s.next = s.plainScalar := by
  obtain ⟨hstart, -⟩ := startsPlain_of_allowsPlain ht hp tail
  obtain ⟨c, t, rfl⟩ := List.exists_cons_of_ne_nil ht
  obtain ⟨-, -, hopen, hst⟩ := head_of_allowsPlain hp tail
  have hflow : s.inFlow = false := by rw [inFlow, ho]; rfl
  have hne : ∀ d, Style.isOpening d = true → c ≠ d := by
    rintro d hd rfl
    rw [hopen] at hd
    exact Bool.noConfusion hd
  have hmark : ¬(s.column = 0 ∧ atDocumentMark (c :: (t ++ tail)) = true) := fun h => by
    have := hm h.1
    rw [List.cons_append, h.2] at this
    exact Bool.noConfusion this
  have hstruct : ∀ d, d = '?' ∨ d = ':' ∨ d = '-' → ¬(c = d ∧ atSpace (t ++ tail) = true) := by
    rintro d hd ⟨rfl, h⟩
    rw [hst hd] at h
    exact Bool.noConfusion h
  rw [List.cons_append] at hr hstart
  rw [next, hr]
  simp only [hflow, Bool.false_or, Bool.not_false, Bool.and_true, Bool.and_eq_true,
    decide_eq_true_eq, hmark, hstruct, hstart, and_false, if_false, if_true, true_or, or_true,
    hne '%' rfl, hne '[' rfl, hne '\x7b' rfl, hne ']' rfl, hne '\x7d' rfl, hne ',' rfl, hne '*' rfl,
    hne '&' rfl, hne '!' rfl, hne '|' rfl, hne '>' rfl, hne '\'' rfl, hne '"' rfl]

/-- A colon after a plain text does not make it the mark of a document. -/
theorem atDocumentMark_key {t : List Char} (hp : Style.startsStructure t = false)
    (rest : List Char) : atDocumentMark (t ++ ':' :: rest) = false := by
  rcases t with _ | ⟨a, _ | ⟨b, _ | ⟨c, t⟩⟩⟩
  · rfl
  · simp [atDocumentMark]
  · simp [atDocumentMark]
  · unfold atDocumentMark
    split
    · next heq =>
      obtain ⟨rfl, rfl, rfl, -⟩ : a = '-' ∧ b = '-' ∧ c = '-' ∧ _ := by simpa using heq
      exact absurd hp (by simp [Style.startsStructure])
    · next heq =>
      obtain ⟨rfl, rfl, rfl, -⟩ : a = '.' ∧ b = '.' ∧ c = '.' ∧ _ := by simpa using heq
      exact absurd hp (by simp [Style.startsStructure])
    · rfl

/-- A place where a key may start is noted; the tokens before it are put aside. -/
theorem noteCandidate_of_keyAllowed (h : At s rest column true indents tokens) :
    ∃ required, s.noteCandidate = some { s with
        level := ⟨tokens, [], some ⟨required, s.cursor.position⟩⟩ } ∧
      (required = true → indents.head? = some column) := by
  obtain ⟨level, hdrop, hall, hnone⟩ := dropCandidate_of_optional h.optional
  refine ⟨!s.inFlow && s.indents.head? = some s.column, ?_, ?_⟩
  · rw [noteCandidate, if_pos h.keyAllowed_eq, hdrop]
    simp only [Option.bind_eq_bind, Option.bind_some, hall, h.tokens_eq]
    rfl
  · rw [h.indents_eq, h.column_eq]
    simp

/-- The stream after the name of a field, which has been read as a plain scalar. -/
structure AtColon (s : Stream) (rest : List Char) (start : Position) (length : Nat)
    (indents : List Nat) (name : Token) (tokens : List Token) : Prop where
  cursor_eq : s.cursor = ⟨':' :: rest, ⟨start.index + length, start.line, start.column + length⟩⟩
  indents_eq : s.indents = indents
  outer_eq : s.outer = []
  level_eq : ∃ required, s.level = ⟨tokens, [name], some ⟨required, start⟩⟩

/-- The name of a field is read as a plain scalar. -/
theorem leads_name {name : List Char} (h : At s (name ++ ':' :: rest) column true indents tokens)
    (hr : Reaches column indents) (hn : name ≠ []) (hp : Style.allowsPlain name)
    (hs : atSpace rest) :
    ∃ t, Leads s t ∧
      AtColon t rest s.cursor.position name.length indents (.scalar .plain name) tokens := by
  obtain ⟨-, hb⟩ := startsPlain_of_allowsPlain hn hp (':' :: rest)
  have hm := atDocumentMark_key (plainRest_of_allowsPlain hp).1 rest
  apply leads_of_settled h hb hr (by simp)
  intro t ht hc
  obtain ⟨required, hnote, -⟩ := noteCandidate_of_keyAllowed ht
  have hplain : plain? false t.innerColumn .none t.cursor.rest t.cursor.position =
      some (name, false, ⟨':' :: rest, t.cursor.position.after name⟩) := by
    rw [ht.rest_eq, plain?_text hn hp fun _ => hm, plain?_colon hs, Option.map_some, before,
      List.append_nil]
  refine ⟨{ t with
      level := ⟨tokens, [.scalar .plain name], some ⟨required, t.cursor.position⟩⟩
      cursor := ⟨':' :: rest, t.cursor.position.after name⟩
      keyAllowed := false }, ?_, ?_, ?_⟩
  · rw [next_plain ht.rest_eq hn hp (fun _ => hm) ht.outer_eq, plainScalar, hnote]
    have hflow : t.inFlow = false := by rw [inFlow, ht.outer_eq]; rfl
    show (plain? t.inFlow t.innerColumn .none t.cursor.rest t.cursor.position).bind _ = _
    rw [hflow, hplain]
    rfl
  · rw [List.length_append]
    exact Nat.lt_add_of_pos_left (List.length_pos_iff.2 hn)
  · refine ⟨?_, ht.indents_eq, ht.outer_eq, required, ?_⟩
    · rw [← hc, after_of_allowsPlain hp]
    · rw [← hc]

theorem next_value (h : s.cursor.rest = ':' :: rest) (hs : atSpace rest) (ho : s.outer = []) :
    s.next = s.valueMark := by
  have hflow : s.inFlow = false := by rw [inFlow, ho]; rfl
  rw [next, h]
  simp [atDocumentMark, hs, hflow]

/-- The mark of a value is put behind the name, and that of a key in front of it. -/
theorem valueMark_atColon {start : Position} {length : Nat} {name : Token}
    (h : AtColon s rest start length indents name tokens) :
    s.valueMark = some { s with
      cursor := s.cursor.skip
      keyAllowed := false
      indents := opened start.column indents
      level := ⟨(.key :: opening start.column .blockMapping indents) ++ tokens,
        [.value, name], none⟩ } := by
  obtain ⟨-, hindents, houter, required, hlevel⟩ := h
  have hflow : s.inFlow = false := by rw [inFlow, houter]; rfl
  have hopens : s.opensAt start.column = decide (s.innerColumn ≤ start.column) := by
    rw [opensAt, hflow, Bool.not_false, Bool.true_and]
  rw [valueMark]
  simp only [hlevel, hopens, innerColumn, hindents, mark, push, Level.push]
  cases indents with
  | nil => rfl
  | cons indent indents =>
    by_cases hi : indent < start.column
    · have hopen : decide (indent + 1 ≤ start.column) = true := decide_eq_true hi
      simp only [hopen, opened, opening, hi, if_true]
    · have hopen : decide (indent + 1 ≤ start.column) = false := decide_eq_false hi
      simp only [hopen, opened, opening, hi, if_false]
      rfl

/-- The colon after a name makes it the key of a field. -/
theorem leads_colon {start : Position} {length : Nat} {name : Token}
    (h : AtColon s rest start length indents name tokens) (hr : Reaches start.column indents)
    (hl : length ≤ 1024) (hs : atSpace rest) :
    ∃ t, Leads s t ∧ At t rest (start.column + length + 1) false (opened start.column indents)
      (.value :: name :: .key :: (opening start.column .blockMapping indents ++ tokens)) := by
  have hvalue := valueMark_atColon h
  obtain ⟨hcursor, hindents, houter, required, hlevel⟩ := h
  have hrest : s.cursor.rest = ':' :: rest := by rw [hcursor]
  have hb : AtToken (':' :: rest) := by
    intro c hc
    obtain rfl := Option.some.inj hc
    decide
  have hstale : isStale s.cursor.position ⟨required, start⟩ = false := by
    simp [isStale, hcursor, hl]
  have hexpire : s.toToken.expireAll = some s := by
    rw [toToken_atToken (hrest ▸ hb), expireAll_eq houter, expire, hlevel]
    simp [hstale, ← hlevel]
  have hunroll : s.unroll s.column = s := by
    apply unroll_of_reaches houter
    intro indent hi
    have := hr indent (hindents ▸ hi)
    rw [column, hcursor]
    show indent ≤ start.column + length
    omega
  have hnext : s.next = s.valueMark := next_value hrest hs houter
  have hat : (s.unroll s.column).cursor.rest = ':' :: rest := by rw [hunroll, hrest]
  refine ⟨_, leads_of_next hexpire hat (by rw [hunroll, hnext, hvalue]) ?_, ?_⟩
  · rw [hrest, skip_eq hrest]
    exact Nat.lt_succ_self _
  · rw [skip_eq hrest]
    refine ⟨rfl, ?_, rfl, rfl, rfl, houter, by simp⟩
    rw [column, hcursor]
    rfl

/-- The name of a field and its colon open a mapping, unless a collection is open in its column. -/
theorem leads_key {name : List Char} (h : At s (name ++ ':' :: rest) column true indents tokens)
    (hr : Reaches column indents) (hn : name ≠ []) (hp : Style.allowsPlain name)
    (hl : name.length ≤ 1024) (hs : atSpace rest) :
    ∃ t, Leads s t ∧ At t rest (column + name.length + 1) false (opened column indents)
      (.value :: .scalar .plain name :: .key ::
        (opening column .blockMapping indents ++ tokens)) := by
  have hcol : s.cursor.position.column = column := h.column_eq
  obtain ⟨t, hst, ht⟩ := leads_name h hr hn hp hs
  obtain ⟨u, htu, hu⟩ := leads_colon ht (hcol ▸ hr) hl hs
  exact ⟨u, hst.trans htu, hcol ▸ hu⟩

end

end RoleDiscovery.Yaml.Token.Stream
