import RoleDiscovery.Proofs.Comparison.Path
import RoleDiscovery.Proofs.Comparison.Recovery
import RoleDiscovery.Proofs.Json.Codec

/-!
# Reports read back

A report has a line for each difference. If the names of all fields consist of letters, and all
numbers have 64 bits, then a line is read back from its start: the place up to the colon, and then
either two texts of values, which end by themselves, or two lengths. What is read is the difference
as it is shown.

Results:

* `Json.Plain`, `Json.Clear`: values whose differences are shown in full.
* `Difference.line_inj`: a line shows one difference.
* `Comparison.differences_of_report`: a report shows one list of differences.
* `Codec.Exact.eq_of_report`: a value of an exact codec is known by the report of its differences.
-/

namespace RoleDiscovery

/-! ## Clear values -/

/-- A value in which all names of fields consist of letters. -/
inductive Json.Plain : Json → Prop
  | null : Plain .null
  | atom {value : Json} (h : value.isAtom = true) : Plain value
  | array {items : List Json} (h : ∀ item ∈ items, Plain item) : Plain (.array items)
  | object {fields : List (String × Json)} (hnames : ∀ field ∈ fields, isPlainName field.1 = true)
    (h : ∀ field ∈ fields, Plain field.2) : Plain (.object fields)

namespace Json

variable {depth : Nat} {value : Json} {items : List Json} {fields : List (String × Json)}

/-- A value whose parts can be named, and which is known by its text. -/
structure Clear (depth : Nat) (value : Json) : Prop where
  plain : value.Plain
  kept : Kept none depth value

theorem clear_null : Clear depth .null where
  plain := .null
  kept := by simp [Kept]

theorem mem_of_lookup {name : String} (h : lookup name fields = some value) :
    (name, value) ∈ fields := by
  induction fields with
  | nil => cases h
  | cons field fields ih =>
    obtain ⟨key, current⟩ := field
    rw [lookup] at h
    cases hrest : lookup name fields with
    | some found =>
      rw [hrest] at h
      exact List.mem_cons_of_mem _ (ih (hrest.trans h))
    | none =>
      rw [hrest, Option.orElse_eq_orElse, Option.orElse_none] at h
      split_ifs at h with hkey
      obtain rfl := Option.some.inj h
      exact hkey ▸ List.mem_cons_self

theorem KeptFields.of_mem {field : String × Json} (h : KeptFields none depth fields)
    (hm : field ∈ fields) : Kept none depth field.2 := by
  induction fields with
  | nil => cases hm
  | cons first fields ih =>
    obtain ⟨⟨_, _, hfirst⟩, hrest⟩ := h
    rcases List.mem_cons.1 hm with rfl | hm
    · exact hfirst.weaken (.inr rfl) le_rfl
    · exact ih hrest hm

theorem KeptItems.of_mem {place : Nat} (h : KeptItems none depth place items)
    (hm : value ∈ items) : Kept none depth value := by
  induction items generalizing place with
  | nil => cases hm
  | cons item items ih =>
    rcases List.mem_cons.1 hm with rfl | hm
    · exact h.1
    · exact ih h.2 hm

theorem Clear.isPlainName (h : Clear depth (.object fields)) {name : String}
    (hm : name ∈ fields.map Prod.fst) : isPlainName name = true := by
  obtain ⟨field, hfield, rfl⟩ := List.mem_map.1 hm
  cases h.plain with
  | atom h => cases h
  | object hnames _ => exact hnames field hfield

theorem Clear.fieldOrNull (h : Clear depth (.object fields)) (name : String) :
    Clear depth (fieldOrNull fields name) := by
  rw [Json.fieldOrNull]
  cases hlookup : lookup name fields with
  | none => exact clear_null
  | some value =>
    have hm := mem_of_lookup hlookup
    refine ⟨?_, (h.kept.2.of_mem hm).weaken (.inr rfl) (Nat.sub_le _ _)⟩
    cases h.plain with
    | atom h => cases h
    | object _ hvalues => exact hvalues _ hm

theorem Clear.itemOrNull (h : Clear depth value) (hitems : value.asList? = some items)
    (index : Nat) : Clear depth (itemOrNull items index) := by
  rw [Json.itemOrNull]
  cases hitem : items[index]? with
  | none => exact clear_null
  | some item =>
    have hm := List.mem_of_getElem? hitem
    cases value with
    | null =>
      obtain rfl := Option.some.inj hitems
      cases hm
    | array _ =>
      obtain rfl := Option.some.inj hitems
      refine ⟨?_, (h.kept.2.of_mem hm).weaken (.inr rfl) (Nat.sub_le _ _)⟩
      cases h.plain with
      | atom h => cases h
      | array hplain => exact hplain _ hm
    | _ => cases hitems

end Json

/-! ## Lines -/

namespace Difference

open Json

variable {depth : Nat} {d e : Difference} {r s : List Char}

/-- A difference between clear values at a place that can be named. -/
structure Clear (depth : Nat) (d : Difference) : Prop where
  place : ∀ step ∈ d.place, step.isPlain = true
  tells : ∃ old new, d.Tells d.place old new ∧ Json.Clear depth old ∧ Json.Clear depth new

/-- What stands between old and new. -/
def arrow : List Char :=
  [' ', '-', '>', ' ']

theorem delimited_arrow (cs : List Char) : Delimited (arrow ++ cs) :=
  delimited_cons (by decide) _

/-- What a line says after the place. -/
def said : Difference → List Char
  | .oldAbsent | .newAbsent => []
  | .value _ old new =>
    old.canonical.compact.toList ++ arrow ++ new.canonical.compact.toList
  | .length _ old new =>
    'l' :: 'e' :: 'n' :: 'g' :: 't' :: 'h' :: ' ' ::
      (Nat.toDigits 10 old ++ arrow ++ Nat.toDigits 10 new)

theorem toList_text {path : Path} {old new : Json} (h : d.Tells path old new) :
    d.text.toList = d.place.text.toList ++ ':' :: ' ' :: d.said := by
  cases h with
  | value _ _ => simp [text, place, said, arrow]
  | length _ _ _ => simp [text, place, said, arrow]

/-- What a line of values says does not start like one of lengths. -/
theorem compact_ne_length {value : Json} (h : Kept none depth value) :
    value.compact.toList ++ r ≠ 'l' :: s := by
  intro heq
  obtain ⟨c, cs, hcs, -⟩ := head_compact h
  rw [hcs, List.cons_append] at heq
  obtain rfl := (List.cons.inj heq).1
  cases value with
  | null => simp [compact] at hcs
  | bool b => cases b <;> simp [compact] at hcs
  | int n =>
    rw [compact, Text.toList_toString_int] at hcs
    split_ifs at hcs
    · have hdigit : 'l' ∈ Nat.toDigits 10 n.natAbs := hcs ▸ List.mem_cons_self
      exact absurd (isDigit_of_mem_toDigits hdigit) (by decide)
    · cases (List.cons.inj hcs).1
  | decimal _ => cases h
  | text s => simp [compact, quoted] at hcs
  | array items => cases (List.cons.inj ((toList_compact_array items).symm.trans hcs)).1
  | object fields => cases (List.cons.inj ((toList_compact_object fields).symm.trans hcs)).1

/-- Two values are read from a line, up to its end. -/
theorem values_inj {u v u' v' : Json} (hu : Kept none depth u) (hv : Kept none depth v)
    (hu' : Kept none depth u') (hv' : Kept none depth v') (hr : Delimited r) (hs : Delimited s)
    (h : u.compact.toList ++ arrow ++ v.compact.toList ++ r =
      u'.compact.toList ++ arrow ++ v'.compact.toList ++ s) : u = u' ∧ v = v' ∧ r = s := by
  simp only [List.append_assoc] at h
  obtain ⟨rfl, hrest⟩ := compact_append_inj hu hu' (delimited_arrow _) (delimited_arrow _) h
  exact ⟨rfl, compact_append_inj hv hv' hr hs (List.append_cancel_left hrest)⟩

theorem digits_append_inj {m n : Nat} (hr : Delimited r) (hs : Delimited s)
    (h : Nat.toDigits 10 m ++ r = Nat.toDigits 10 n ++ s) : m = n ∧ r = s := by
  obtain ⟨hdigits, hrest⟩ := Text.append_inj_of_stop (fun _ => isDigit_of_mem_toDigits)
    (fun _ => isDigit_of_mem_toDigits) (fun c hc => (not_digit_of_mem_delimiters (hr c hc)).1)
    (fun c hc => (not_digit_of_mem_delimiters (hs c hc)).1) h
  refine ⟨?_, hrest⟩
  rw [← Text.ofDigits_toDigits m, hdigits, Text.ofDigits_toDigits]

/-- Two lengths are read from a line, up to its end. -/
theorem lengths_inj {m n m' n' : Nat} (hr : Delimited r) (hs : Delimited s)
    (h : Nat.toDigits 10 m ++ arrow ++ Nat.toDigits 10 n ++ r =
      Nat.toDigits 10 m' ++ arrow ++ Nat.toDigits 10 n' ++ s) : m = m' ∧ n = n' ∧ r = s := by
  simp only [List.append_assoc] at h
  obtain ⟨rfl, hrest⟩ := digits_append_inj (delimited_arrow _) (delimited_arrow _) h
  exact ⟨rfl, digits_append_inj hr hs (List.append_cancel_left hrest)⟩

/-- What a line says is read up to its end. -/
theorem said_inj (hd : d.Clear depth) (he : e.Clear depth) (hplace : d.place = e.place)
    (hr : Delimited r) (hs : Delimited s) (h : d.said ++ r = e.said ++ s) :
    d.canonical = e.canonical ∧ r = s := by
  obtain ⟨old, new, hdt, hold, hnew⟩ := hd.tells
  obtain ⟨old', new', het, hold', hnew'⟩ := he.tells
  have hk := kept_canonical hold.kept
  have hk' := kept_canonical hold'.kept
  rw [hplace] at hdt
  generalize e.place = path at hdt het
  cases hdt with
  | value _ _ =>
    cases het with
    | value _ _ =>
      obtain ⟨hu, hv, hrest⟩ := values_inj hk (kept_canonical hnew.kept) hk'
        (kept_canonical hnew'.kept) hr hs h
      rw [canonical, canonical, hu, hv]
      exact ⟨rfl, hrest⟩
    -- what is said of a length starts as no value does
    | length _ _ _ =>
      simp only [said, List.append_assoc, List.cons_append] at h
      exact absurd h (compact_ne_length hk)
  | length _ _ _ =>
    cases het with
    | value _ _ =>
      simp only [said, List.append_assoc, List.cons_append] at h
      exact absurd h.symm (compact_ne_length hk')
    | length _ _ _ =>
      simp only [said, List.cons_append, List.cons.injEq, true_and] at h
      obtain ⟨hm, hn, hrest⟩ := lengths_inj hr hs h
      rw [hm, hn]
      exact ⟨rfl, hrest⟩

/-- A line is read up to its end. -/
theorem line_inj (hd : d.Clear depth) (he : e.Clear depth) (hr : Delimited r) (hs : Delimited s)
    (h : d.text.toList ++ r = e.text.toList ++ s) : d.canonical = e.canonical ∧ r = s := by
  obtain ⟨old, new, hdt, -⟩ := hd.tells
  obtain ⟨old', new', het, -⟩ := he.tells
  simp only [toList_text hdt, toList_text het, List.append_assoc, List.cons_append] at h
  have hpath : ∀ {f : Difference}, f.Clear depth → ∀ c ∈ f.place.text.toList,
      (decide (c ≠ ':')) = true := by
    intro f hf c hc
    rw [decide_eq_true_eq]
    rintro rfl
    exact Path.colon_notMem_text hf.place hc
  have hcolon : ∀ cs : List Char, ∀ c ∈ (':' :: cs).head?, decide (c ≠ ':') = false := by
    rintro cs c ⟨⟩
    rfl
  obtain ⟨hplace, hrest⟩ := Text.append_inj_of_stop (hpath hd) (hpath he) (hcolon _) (hcolon _) h
  simp only [List.cons.injEq, true_and] at hrest
  exact said_inj hd he (Path.text_inj hd.place he.place (String.toList_inj.1 hplace)) hr hs hrest

end Difference

/-! ## Reports -/

namespace Comparison

variable {depth : Nat} {d : Difference} {x y : List Difference}

/-- The lines of a report, each after a line break. -/
def brokenLines (differences : List Difference) : List Char :=
  differences.flatMap fun d => '\n' :: d.text.toList

theorem brokenLines_cons (d : Difference) (x : List Difference) :
    brokenLines (d :: x) = '\n' :: (d.text.toList ++ brokenLines x) := by
  rw [brokenLines, List.flatMap_cons, List.cons_append, ← brokenLines]

theorem toList_report (h : x ≠ []) : '\n' :: (report ⟨x⟩).toList = brokenLines x := by
  induction x with
  | nil => exact absurd rfl h
  | cons d x ih =>
    cases x with
    | nil => simp [report, lines, brokenLines]
    | cons e x =>
      rw [brokenLines_cons, ← ih (List.cons_ne_nil e x)]
      simp [report, lines, String.toList_intercalate]

theorem delimited_brokenLines (x : List Difference) : Json.Delimited (brokenLines x) := by
  cases x with
  | nil => exact Json.delimited_nil
  | cons d x => exact Json.delimited_cons (by decide) _

/-- Lines are read one by one. -/
theorem brokenLines_inj (hx : ∀ d ∈ x, d.Clear depth) (hy : ∀ d ∈ y, d.Clear depth)
    (h : brokenLines x = brokenLines y) :
    x.map Difference.canonical = y.map Difference.canonical := by
  induction x generalizing y with
  | nil =>
    cases y with
    | nil => rfl
    | cons e y => cases h
  | cons d x ih =>
    cases y with
    | nil => cases h
    | cons e y =>
      rw [brokenLines_cons, brokenLines_cons] at h
      obtain ⟨hline, hrest⟩ := Difference.line_inj (hx d List.mem_cons_self)
        (hy e List.mem_cons_self) (delimited_brokenLines x) (delimited_brokenLines y)
        (List.cons.inj h).2
      rw [List.map_cons, List.map_cons, hline, ih (fun d hd => hx d (List.mem_cons_of_mem _ hd))
        (fun d hd => hy d (List.mem_cons_of_mem _ hd)) hrest]

/-- A report without text has no line. -/
theorem eq_nil_of_report (hx : ∀ d ∈ x, d.Clear depth) (h : report ⟨x⟩ = "") : x = [] := by
  by_contra hne
  obtain ⟨d, x, rfl⟩ := List.exists_cons_of_ne_nil hne
  have hlines := toList_report hne
  rw [h, brokenLines_cons] at hlines
  obtain ⟨old, new, htells, -⟩ := (hx d List.mem_cons_self).tells
  rw [Difference.toList_text htells] at hlines
  simp at hlines

/-- The differences are read from a report as they are shown. -/
theorem differences_of_report (hx : ∀ d ∈ x, d.Clear depth) (hy : ∀ d ∈ y, d.Clear depth)
    (h : report ⟨x⟩ = report ⟨y⟩) : x.map Difference.canonical = y.map Difference.canonical := by
  by_cases hx' : x = []
  · subst hx'
    rw [eq_nil_of_report hy h.symm]
  · by_cases hy' : y = []
    · subst hy'
      rw [eq_nil_of_report hx h]
    · refine brokenLines_inj hx hy ?_
      rw [← toList_report hx', ← toList_report hy', h]

end Comparison

/-- The differences of two clear values are clear. -/
theorem Json.clear_of_mem {depth : Nat} {old new : Json} {d : Difference} (hold : old.Clear depth)
    (hnew : new.Clear depth) (hd : d ∈ old.differences new) : d.Clear depth := by
  have horigin : ∃ place u v, ((∀ step ∈ place, step.isPlain = true) ∧ u.Clear depth ∧
      v.Clear depth) ∧ d.Tells place u v := by
    refine mem_differencesAt ?_ ?_ ⟨fun _ h => absurd h List.not_mem_nil, hold, hnew⟩ hd
    · rintro path a b name hname ⟨hpath, ha, hb⟩
      have hplain := (mem_fieldNames.1 hname).elim ha.isPlainName hb.isPlainName
      exact ⟨List.forall_mem_append.2 ⟨hpath, List.forall_mem_singleton.2 hplain⟩,
        ha.fieldOrNull name, hb.fieldOrNull name⟩
    · rintro path u v x y index hx hy ⟨hpath, hu, hv⟩
      exact ⟨List.forall_mem_append.2 ⟨hpath, List.forall_mem_singleton.2 rfl⟩,
        hu.itemOrNull hx index, hv.itemOrNull hy index⟩
  obtain ⟨place, u, v, ⟨hplace, hu, hv⟩, htells⟩ := horigin
  obtain rfl := htells.place_eq
  exact ⟨hplace, u, v, htells, hu, hv⟩

/-! ## Codecs -/

namespace Codec

open Json

variable {α β σ : Type}

/-- The names of all fields that are written consist of letters. -/
class Plain (codec : Codec α) : Prop where
  plain_encode : ∀ a, (codec.encode a).Plain

instance plain_of_atomic {codec : Codec α} [h : codec.Atomic] : codec.Plain where
  plain_encode a := .atom (h.isAtom_encode a)

instance plain_list {item : Codec α} [h : item.Plain] : (list item).Plain where
  plain_encode values := .array fun value hm => by
    obtain ⟨a, -, rfl⟩ := List.mem_map.1 hm
    exact h.plain_encode a

namespace Entry

/-- The values of the fields that an entry writes are plain. -/
class Plain (entry : Entry σ α) : Prop where
  plain_write : ∀ s, ∀ field ∈ entry.write s, field.2.Plain

instance plain_pure (a : α) : (pure a : Entry σ α).Plain where
  plain_write _ _ hm := absurd hm List.not_mem_nil

instance plain_seq {f : Entry σ (α → β)} {x : Entry σ α} [hf : f.Plain] [hx : x.Plain] :
    (f <*> x).Plain where
  plain_write s := List.forall_mem_append.2 ⟨hf.plain_write s, hx.plain_write s⟩

instance plain_map {x : Entry σ α} (f : α → β) [x.Plain] : (f <$> x).Plain :=
  plain_seq (f := pure f)

variable {item : Codec α}

instance plain_required (name : String) [h : item.Plain] (get : σ → α) :
    (required name item get).Plain where
  plain_write s := List.forall_mem_singleton.2 (h.plain_encode (get s))

instance plain_optional (name : String) [h : item.Plain] (get : σ → Option α) :
    (optional name item get).Plain where
  plain_write s field hm := by
    obtain ⟨a, -, rfl⟩ := List.mem_map.1 hm
    exact h.plain_encode a

instance plain_defaulted (name : String) [h : item.Plain] (default : α) (get : σ → α) :
    (defaulted name item default get).Plain where
  plain_write s := List.forall_mem_singleton.2 (h.plain_encode (get s))

end Entry

theorem plain_strict {entry : Entry α α} [hnamed : entry.Named] (h : entry.Plain)
    (hn : ∀ name ∈ entry.names, isPlainName name = true) : (strict entry).Plain where
  plain_encode a := .object (fun _ hm => hn _ (hnamed.mem_names hm)) (h.plain_write a)

/-- What is written for a value is clear. -/
theorem clear_encode {codec : Codec α} [h : codec.Plain] [hl : codec.Legible] (a : α) :
    (codec.encode a).Clear (codec.shape.height + 1) where
  plain := h.plain_encode a
  kept := (hl.kept a _ (Nat.lt_succ_self _)).weaken (.inr rfl) le_rfl

/-- A value of an exact codec is known by the report of its differences from another one. -/
theorem Exact.eq_of_report {codec : Codec α} (h : codec.Exact) [codec.Plain] [codec.Legible]
    {old a b : α}
    (hab : Comparison.report ⟨(codec.encode old).differences (codec.encode a)⟩ =
      Comparison.report ⟨(codec.encode old).differences (codec.encode b)⟩) : a = b := by
  have hshown : shownAt [] (codec.encode old) (codec.encode a) =
      shownAt [] (codec.encode old) (codec.encode b) :=
    Comparison.differences_of_report (fun _ => clear_of_mem (clear_encode old) (clear_encode a))
      (fun _ => clear_of_mem (clear_encode old) (clear_encode b)) hab
  exact h.eq_of_shownAt hshown

end Codec

end RoleDiscovery
