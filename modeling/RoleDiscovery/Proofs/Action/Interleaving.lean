import Mathlib.Logic.Function.Basic
import RoleDiscovery.Proofs.Action
import RoleDiscovery.Proofs.Store.Contents

/-!
# Interleaved actions

Actions on one store take turns in any order. A turn is one step of one action: it calls the store
once or reports something. What was exchanged with the store so far tells what it keeps, and what
each action has been told.

Results:

* `Action.turn`, `Action.effect_turn`: one step of an action, and what it does to the effect.
* `Action.turn_cases`: all that a turn can do.
* `InFlight`, `InFlight.after`: actions in flight, and what a schedule makes of them.
* `InFlight.faithful_after`: the store keeps what was written to it, and a read finds what it kept.
* `InFlight.told_after`: each action is where the answers have led that it was told.
* `InFlight.result?_after`: an action that only has reports left ends.
* `InFlight.alone_effect`: an action that is given all turns comes to the effect of its run.
-/

namespace RoleDiscovery

/-- A call of a store with its answer. -/
inductive Exchange where
  | readConfigMap (ns name : String) (answer : Except ClientError (Option ConfigMap))
  | writeConfigMap (configMap : ConfigMap) (answer : Except ClientError Unit)
  | readProfile (name : String) (answer : Except ClientError (Option RuntimeProfile))

namespace Exchange

/-- The call without its answer. -/
def call : Exchange → Call
  | readConfigMap ns name _ => .getConfigMap ns name
  | writeConfigMap configMap answer => .applyConfigMap configMap answer.isOk
  | readProfile name _ => .getProfile name

/-- The ConfigMap that was written, if the write succeeded. -/
def written? : Exchange → Option ConfigMap
  | writeConfigMap configMap (.ok ()) => some configMap
  | _ => none

end Exchange

/-! ## Turns -/

namespace Action

variable {α σ : Type}

/-- The value of an action that has ended. -/
def result? : Action α → Option α
  | done result => some result
  | _ => none

/-- One step of an action: what is left of it, the store afterwards, and what was exchanged. -/
def turn (store : Store σ) : Action α → σ → Action α × σ × Option Exchange
  | done result, s => (done result, s, none)
  | readConfigMap ns name next, s =>
    let (answer, s) := store.getConfigMap ns name s
    (next answer, s, some (.readConfigMap ns name answer))
  | writeConfigMap configMap next, s =>
    let (answer, s) := store.applyConfigMap configMap s
    (next answer, s, some (.writeConfigMap configMap answer))
  | readProfile name next, s =>
    let (answer, s) := store.getProfile name s
    (next answer, s, some (.readProfile name answer))
  | log _ next, s => (next, s, none)

variable {store : Store σ} {s t : σ} {action rest : Action α} {exchange : Option Exchange}

/-- An action that goes on alone has the effect of its turns. -/
theorem effect_turn (h : action.turn store s = (rest, t, exchange)) :
    effect store action s =
      ((effect store rest t).1, (effect store rest t).2.1,
        (exchange.map Exchange.call).toList ++ (effect store rest t).2.2) := by
  cases action <;>
    · cases h
      rfl

theorem quiet_of_result? {a : α} (h : action.result? = some a) : action.quiet = done a := by
  cases action <;> cases h
  rfl

/-- The number of reports at the start of an action. -/
def reports : Action α → Nat
  | log _ next => next.reports + 1
  | _ => 0

theorem result?_of_reports {a : α} (hquiet : action.quiet = done a) (h : action.reports = 0) :
    action.result? = some a := by
  cases action with
  | done result =>
    cases hquiet
    rfl
  | readConfigMap ns name next => cases hquiet
  | writeConfigMap configMap next => cases hquiet
  | readProfile name next => cases hquiet
  | log entry next => cases h

/-- A turn of an action that only has reports left makes the next one. -/
theorem turn_of_quiet {a : α} (hquiet : action.quiet = done a)
    (h : action.turn store s = (rest, t, exchange)) :
    rest.quiet = done a ∧ rest.reports = action.reports - 1 := by
  cases action with
  | done result =>
    cases h
    exact ⟨hquiet, rfl⟩
  | readConfigMap ns name next => cases hquiet
  | writeConfigMap configMap next => cases hquiet
  | readProfile name next => cases hquiet
  | log entry next =>
    cases h
    exact ⟨hquiet, rfl⟩

/-- All that a turn can do: nothing that counts, or one call of the store. -/
theorem turn_cases (h : action.turn store s = (rest, t, exchange)) :
    (exchange = none ∧ t = s ∧ rest.quiet = action.quiet) ∨
    (∃ ns name next answer, action.quiet = readConfigMap ns name next ∧
      store.getConfigMap ns name s = (answer, t) ∧
      exchange = some (.readConfigMap ns name answer) ∧ rest.quiet = next answer) ∨
    (∃ configMap next answer, action.quiet = writeConfigMap configMap next ∧
      store.applyConfigMap configMap s = (answer, t) ∧
      exchange = some (.writeConfigMap configMap answer) ∧ rest.quiet = next answer) ∨
    ∃ name next answer, action.quiet = readProfile name next ∧
      store.getProfile name s = (answer, t) ∧
      exchange = some (.readProfile name answer) ∧ rest.quiet = next answer := by
  cases action with
  | done result =>
    cases h
    exact .inl ⟨rfl, rfl, rfl⟩
  | readConfigMap ns name after =>
    cases h
    exact .inr (.inl ⟨ns, name, _, _, rfl, rfl, rfl, rfl⟩)
  | writeConfigMap configMap after =>
    cases h
    exact .inr (.inr (.inl ⟨configMap, _, _, rfl, rfl, rfl, rfl⟩))
  | readProfile name after =>
    cases h
    exact .inr (.inr (.inr ⟨name, _, _, rfl, rfl, rfl, rfl⟩))
  | log entry after =>
    cases h
    exact .inl ⟨rfl, rfl, rfl⟩

/-- What is left of an action that was told the answers to its calls. -/
inductive Told (action : Action α) : List Exchange → Action α → Prop where
  | start : Told action [] action
  | readConfigMap {exchanges ns name next} (answer : Except ClientError (Option ConfigMap))
      (h : Told action exchanges (readConfigMap ns name next)) :
      Told action (exchanges ++ [.readConfigMap ns name answer]) (next answer)
  | writeConfigMap {exchanges configMap next} (answer : Except ClientError Unit)
      (h : Told action exchanges (writeConfigMap configMap next)) :
      Told action (exchanges ++ [.writeConfigMap configMap answer]) (next answer)
  | readProfile {exchanges name next} (answer : Except ClientError (Option RuntimeProfile))
      (h : Told action exchanges (readProfile name next)) :
      Told action (exchanges ++ [.readProfile name answer]) (next answer)

theorem told_turn {start : Action α} {exchanges : List Exchange}
    (h : Told start exchanges action.quiet) (hturn : action.turn store s = (rest, t, exchange)) :
    Told start (exchanges ++ exchange.toList) rest.quiet := by
  obtain ⟨rfl, -, hrest⟩ | ⟨_, _, _, answer, haction, -, rfl, hrest⟩ |
    ⟨_, _, answer, haction, -, rfl, hrest⟩ | ⟨_, _, answer, haction, -, rfl, hrest⟩ :=
    turn_cases hturn
  · rw [Option.toList_none, List.append_nil, hrest]
    exact h
  all_goals
    rw [haction] at h
    rw [hrest]
  · exact .readConfigMap answer h
  · exact .writeConfigMap answer h
  · exact .readProfile answer h

end Action

/-! ## Actions in flight -/

/-- Actions in flight on one store, and what was exchanged with it, in order. -/
structure InFlight (ι σ α : Type) where
  actions : ι → Action α
  store : σ
  history : List (ι × Exchange) := []

section

variable {ι : Type} {history : List (ι × Exchange)}

/-- The ConfigMaps that were written, in order. -/
def writesOf (history : List (ι × Exchange)) : List ConfigMap :=
  history.filterMap fun event => event.2.written?

theorem writesOf_append (first second : List (ι × Exchange)) :
    writesOf (first ++ second) = writesOf first ++ writesOf second :=
  List.filterMap_append

theorem mem_writesOf {configMap : ConfigMap} :
    configMap ∈ writesOf history ↔ ∃ i, (i, .writeConfigMap configMap (.ok ())) ∈ history := by
  rw [writesOf, List.mem_filterMap]
  constructor
  · rintro ⟨⟨i, exchange⟩, hm, hwritten⟩
    dsimp only [Exchange.written?] at hwritten
    split at hwritten <;> cases hwritten
    exact ⟨i, hm⟩
  · rintro ⟨i, hm⟩
    exact ⟨_, hm, rfl⟩

variable [DecidableEq ι]

/-- What one of the actions has exchanged. -/
def exchangesOf (i : ι) (history : List (ι × Exchange)) : List Exchange :=
  history.filterMap fun event => if event.1 = i then some event.2 else none

theorem exchangesOf_cons_self (i : ι) (exchange : Exchange)
    (history : List (ι × Exchange)) :
    exchangesOf i ((i, exchange) :: history) = exchange :: exchangesOf i history := by
  simp [exchangesOf]

theorem exchangesOf_append (i : ι) (first second : List (ι × Exchange)) :
    exchangesOf i (first ++ second) = exchangesOf i first ++ exchangesOf i second :=
  List.filterMap_append

theorem mem_exchangesOf {i : ι} {exchange : Exchange} :
    exchange ∈ exchangesOf i history ↔ (i, exchange) ∈ history := by
  rw [exchangesOf, List.mem_filterMap]
  constructor
  · rintro ⟨⟨j, other⟩, hm, heq⟩
    dsimp only at heq
    split_ifs at heq with hj
    cases heq
    exact hj ▸ hm
  · intro hm
    exact ⟨(i, exchange), hm, if_pos rfl⟩

end

namespace InFlight

variable {ι σ α : Type} [DecidableEq ι]

/-- One of the actions takes a turn. -/
def turn (store : Store σ) (state : InFlight ι σ α) (i : ι) : InFlight ι σ α :=
  let (action, s, exchange) := (state.actions i).turn store state.store
  { actions := Function.update state.actions i action
    store := s
    history := state.history ++ (exchange.map fun exchange => (i, exchange)).toList }

/-- The actions take turns by a schedule. -/
def after (store : Store σ) (state : InFlight ι σ α) (schedule : List ι) : InFlight ι σ α :=
  schedule.foldl (turn store) state

variable {store : Store σ} {contents : σ → Contents} {s t : σ} {state : InFlight ι σ α} {i : ι}
  {rest : Action α} {exchange : Option Exchange}

theorem turn_eq (h : (state.actions i).turn store state.store = (rest, t, exchange)) :
    state.turn store i =
      { actions := Function.update state.actions i rest
        store := t
        history := state.history ++ (exchange.map fun exchange => (i, exchange)).toList } := by
  rw [turn, h]

theorem after_append (store : Store σ) (state : InFlight ι σ α) (early late : List ι) :
    state.after store (early ++ late) = (state.after store early).after store late :=
  List.foldl_append

/-- What was exchanged stays exchanged. -/
theorem history_after (store : Store σ) (state : InFlight ι σ α) (schedule : List ι) :
    ∃ later, (state.after store schedule).history = state.history ++ later := by
  induction schedule generalizing state with
  | nil => exact ⟨[], (List.append_nil _).symm⟩
  | cons i schedule ih =>
    obtain ⟨later, hlater⟩ := ih (state.turn store i)
    refine ⟨_, hlater.trans (List.append_assoc _ _ _)⟩

/-- What was exchanged accounts for what a store keeps that has kept the contents of `s`, and for
what was found in it. -/
structure Faithful (contents : σ → Contents) (s : σ) (state : InFlight ι σ α) : Prop where
  contents_eq : contents state.store = (contents s).after (writesOf state.history)
  found_eq : ∀ {before i ns name found later},
    state.history = before ++ (i, .readConfigMap ns name (.ok found)) :: later →
      found = ((contents s).after (writesOf before)).configMap? ns name

omit [DecidableEq ι] in
/-- An exchange more, which was answered by what is kept. -/
theorem faithful_append {actions : ι → Action α} {exchange : Exchange}
    (h : Faithful contents s state)
    (hcontents : contents t = (contents state.store).after exchange.written?.toList)
    (hfound : ∀ ns name found, exchange = .readConfigMap ns name (.ok found) →
      found = (contents state.store).configMap? ns name) :
    Faithful contents s ⟨actions, t, state.history ++ [(i, exchange)]⟩ where
  contents_eq := by
    have hwrites : writesOf [(i, exchange)] = exchange.written?.toList := by
      rw [writesOf, List.filterMap_cons]
      cases exchange.written? <;> rfl
    rw [writesOf_append, hwrites, Contents.after_append, ← h.contents_eq]
    exact hcontents
  found_eq {before j ns name found later} heq := by
    -- Either this is the exchange, or there is one less after it.
    rcases List.eq_nil_or_concat later with rfl | ⟨later, last, rfl⟩
    · obtain ⟨hbefore, hlast⟩ := List.append_inj' heq rfl
      obtain ⟨-, hexchange⟩ := Prod.mk.inj (List.head_eq_of_cons_eq hlast)
      rw [← hbefore, ← h.contents_eq]
      exact hfound ns name found hexchange
    · rw [List.concat_eq_append, ← List.cons_append, ← List.append_assoc] at heq
      exact h.found_eq (List.append_inj' heq rfl).1

/-- A turn is accounted for. -/
theorem faithful_turn (hk : store.Keeps contents) (h : Faithful contents s state) (i : ι) :
    Faithful contents s (state.turn store i) := by
  rcases hturn : (state.actions i).turn store state.store with ⟨rest, t, exchange⟩
  rw [turn_eq hturn]
  obtain ⟨rfl, rfl, -⟩ | ⟨ns, name, _, answer, -, hread, rfl, -⟩ |
    ⟨configMap, _, answer, -, hwrite, rfl, -⟩ | ⟨name, _, answer, -, hread, rfl, -⟩ :=
    Action.turn_cases hturn
  · rw [Option.map_none, Option.toList_none, List.append_nil]
    exact ⟨h.contents_eq, h.found_eq⟩
  · refine faithful_append h (hk.contents_read hread) ?_
    intro ns name found heq
    cases heq
    exact hk.found_eq hread
  · refine faithful_append h ?_ fun _ _ _ heq => Exchange.noConfusion heq
    rcases answer with cause | _
    · exact hk.contents_refused hwrite
    · exact hk.contents_applied hwrite
  · exact faithful_append h (hk.contents_profile hread) fun _ _ _ heq => Exchange.noConfusion heq

/-- Whatever the schedule, what was exchanged accounts for what the store keeps. -/
theorem faithful_after (hk : store.Keeps contents) (actions : ι → Action α) (s : σ)
    (schedule : List ι) :
    Faithful contents s ((⟨actions, s, []⟩ : InFlight ι σ α).after store schedule) := by
  have hrun : ∀ state : InFlight ι σ α, Faithful contents s state →
      Faithful contents s (state.after store schedule) := by
    induction schedule with
    | nil => exact fun _ h => h
    | cons i schedule ih => exact fun state h => ih _ (faithful_turn hk h i)
  refine hrun _ ⟨rfl, ?_⟩
  intro before _ _ _ _ later heq
  exact absurd heq.symm (List.append_ne_nil_of_right_ne_nil _ (List.cons_ne_nil _ _))

/-- What one action was told is told by no turn of another. -/
theorem told_turn {start : ι → Action α}
    (h : ∀ j, (start j).Told (exchangesOf j state.history) (state.actions j).quiet) (i j : ι) :
    (start j).Told (exchangesOf j (state.turn store i).history)
      ((state.turn store i).actions j).quiet := by
  rcases hturn : (state.actions i).turn store state.store with ⟨rest, t, exchange⟩
  rw [turn_eq hturn]
  dsimp only
  rw [exchangesOf_append]
  by_cases hij : j = i
  · subst hij
    have hown : exchangesOf j (exchange.map fun exchange => (j, exchange)).toList =
        exchange.toList := by
      cases exchange with
      | none => rfl
      | some exchange => simp [exchangesOf]
    rw [Function.update_self, hown]
    exact Action.told_turn (h j) hturn
  · have hother : exchangesOf j (exchange.map fun exchange => (i, exchange)).toList = [] := by
      cases exchange with
      | none => rfl
      | some exchange => simp [exchangesOf, Ne.symm hij]
    rw [Function.update_of_ne hij, hother, List.append_nil]
    exact h j

/-- Whatever the schedule, each action is where the answers have led that it was told. -/
theorem told_after (store : Store σ) (actions : ι → Action α) (s : σ) (schedule : List ι) (j : ι) :
    let state := (⟨actions, s, []⟩ : InFlight ι σ α).after store schedule
    (actions j).quiet.Told (exchangesOf j state.history) (state.actions j).quiet := by
  have hrun : ∀ state : InFlight ι σ α,
      (∀ j, (actions j).quiet.Told (exchangesOf j state.history) (state.actions j).quiet) →
      ∀ j, (actions j).quiet.Told (exchangesOf j (state.after store schedule).history)
        ((state.after store schedule).actions j).quiet := by
    induction schedule with
    | nil => exact fun _ h => h
    | cons i schedule ih => exact fun state h => ih _ (told_turn h i)
  exact hrun _ (fun _ => .start) j

/-- An action that only has reports left ends with its value after enough turns of its own, whatever
the others do. -/
theorem result?_after (store : Store σ) (schedule : List ι) {a : α}
    (hquiet : (state.actions i).quiet = .done a)
    (hturns : (state.actions i).reports ≤ schedule.count i) :
    ((state.after store schedule).actions i).result? = some a := by
  induction schedule generalizing state with
  | nil => exact Action.result?_of_reports hquiet (Nat.le_zero.1 hturns)
  | cons j schedule ih =>
    rcases hturn : (state.actions j).turn store state.store with ⟨rest, t, exchange⟩
    have hactions : (state.turn store j).actions = Function.update state.actions j rest := by
      rw [turn_eq hturn]
    apply ih
    all_goals rw [hactions]
    all_goals by_cases hij : i = j
    · subst hij
      rw [Function.update_self]
      exact (Action.turn_of_quiet hquiet hturn).1
    · rw [Function.update_of_ne hij]
      exact hquiet
    · subst hij
      rw [Function.update_self, (Action.turn_of_quiet hquiet hturn).2]
      rw [List.count_cons_self] at hturns
      omega
    · rw [Function.update_of_ne hij]
      rwa [List.count_cons_of_ne (Ne.symm hij)] at hturns

/-! ### Turns make up runs -/

/-- If only the action of `i` takes turns from a state on, it comes to an effect: it ends with the
value and leaves the store, and these are its calls. -/
def Alone (store : Store σ) (state : InFlight ι σ α) (i : ι) (effect : α × σ × List Call) : Prop :=
  ∃ (turns : Nat) (exchanges : List Exchange),
    let last := state.after store (List.replicate turns i)
    last.actions i = .done effect.1 ∧ last.store = effect.2.1 ∧
      last.history = state.history ++ exchanges.map (fun exchange => (i, exchange)) ∧
      exchanges.map Exchange.call = effect.2.2

/-- The first turn leaves an action that comes to its effect by the turns after it. -/
theorem alone_of_turn {action : Action α} (haction : state.actions i = action)
    (hturn : action.turn store state.store = (rest, t, exchange))
    (h : ∀ next : InFlight ι σ α, next.actions i = rest →
      Alone store next i (rest.effect store next.store)) :
    Alone store state i (action.effect store state.store) := by
  have hnext : state.turn store i = _ := turn_eq (haction ▸ hturn)
  have hrest : (state.turn store i).actions i = rest := by
    rw [hnext]
    exact Function.update_self ..
  obtain ⟨turns, exchanges, hdone, hstore, hhistory, hcalls⟩ := h (state.turn store i) hrest
  rw [show (state.turn store i).store = t by rw [hnext]] at hdone hstore hcalls
  rw [Action.effect_turn hturn]
  refine ⟨turns + 1, exchange.toList ++ exchanges, hdone, hstore, ?_, ?_⟩
  · refine hhistory.trans ?_
    rw [hnext, List.append_assoc, List.map_append]
    cases exchange <;> rfl
  · rw [List.map_append, hcalls]
    cases exchange <;> rfl

/-- An action that is given all turns comes to the effect of its run. -/
theorem alone_effect (store : Store σ) (state : InFlight ι σ α) (i : ι) :
    Alone store state i ((state.actions i).effect store state.store) := by
  generalize haction : state.actions i = action
  induction action generalizing state with
  | done result => exact ⟨0, [], haction, rfl, (List.append_nil _).symm, rfl⟩
  | readConfigMap ns name next ih =>
    exact alone_of_turn haction rfl fun after hafter => ih _ after hafter
  | writeConfigMap configMap next ih =>
    exact alone_of_turn haction rfl fun after hafter => ih _ after hafter
  | readProfile name next ih =>
    exact alone_of_turn haction rfl fun after hafter => ih _ after hafter
  | log entry next ih => exact alone_of_turn haction rfl fun after hafter => ih after hafter

end InFlight

end RoleDiscovery
