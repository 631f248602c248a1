import Mathlib.Tactic.Common
import RoleDiscovery.Action

/-!
# Runs of actions

What an action does to a store does not depend on what it reports. Its effect is the run without the
reports; the effect of actions in a row is put together from theirs.

Results:

* `Action.effect`: the value of an action, the store after it and the calls it made.
* `Action.effect_bind`, `Action.effect_bind_of`: the effect of two actions in a row.
* `Action.quiet`, `Action.effect_quiet`: an action without its reports has the same effect.
* `Action.entries_bind`, `Action.entries_inSpan`: what actions in a row report, and one in a span.
* `Action.effect_inSpan`: a span changes no effect.
-/

namespace RoleDiscovery.Action

variable {α β σ : Type}

/-- The value of an action, the store after it, and the calls it made. -/
def effect (store : Store σ) (action : Action α) (s : σ) : α × σ × List Call :=
  ((action.run store s).result, (action.run store s).store, (action.run store s).calls)

variable {store : Store σ} {s : σ}

/-- The parts of an effect are those of the run. -/
theorem run_of_effect {action : Action α} {a : α} {t : σ} {calls : List Call}
    (h : effect store action s = (a, t, calls)) :
    (action.run store s).result = a ∧ (action.run store s).store = t ∧
      (action.run store s).calls = calls := by
  obtain ⟨hresult, hrest⟩ := Prod.mk.inj h
  obtain ⟨hstore, hcalls⟩ := Prod.mk.inj hrest
  exact ⟨hresult, hstore, hcalls⟩

/-! ## Single steps -/

theorem effect_pure (a : α) : effect store (pure a) s = (a, s, []) := rfl

theorem effect_report (event : Event) : effect store (report event) s = ((), s, []) := rfl

theorem effect_getProfile (name : String) :
    effect store (getProfile name) s =
      ((store.getProfile name s).1, (store.getProfile name s).2, [.getProfile name]) := rfl

/-- The effect of an action that starts with a call. -/
def afterCall (call : Call) (rest : α × σ × List Call) : α × σ × List Call :=
  (rest.1, rest.2.1, call :: rest.2.2)

theorem effect_readConfigMap (ns name : String)
    (next : Except ClientError (Option ConfigMap) → Action α) :
    effect store (readConfigMap ns name next) s =
      afterCall (.getConfigMap ns name)
        (effect store (next (store.getConfigMap ns name s).1) (store.getConfigMap ns name s).2) :=
  rfl

theorem effect_writeConfigMap (configMap : ConfigMap) (next : Except ClientError Unit → Action α) :
    effect store (writeConfigMap configMap next) s =
      afterCall (.applyConfigMap configMap (store.applyConfigMap configMap s).1.isOk)
        (effect store (next (store.applyConfigMap configMap s).1)
          (store.applyConfigMap configMap s).2) :=
  rfl

theorem effect_readProfile (name : String)
    (next : Except ClientError (Option RuntimeProfile) → Action α) :
    effect store (readProfile name next) s =
      afterCall (.getProfile name)
        (effect store (next (store.getProfile name s).1) (store.getProfile name s).2) :=
  rfl

theorem effect_log (entry : LogEntry) (next : Action α) :
    effect store (log entry next) s = effect store next s :=
  rfl

/-! ## Actions in a row -/

/-- The second action starts with the value and the store of the first. -/
theorem effect_bind {action : Action α} {next : α → Action β} {a : α} {t : σ} {calls : List Call}
    (h : effect store action s = (a, t, calls)) :
    effect store (action >>= next) s =
      ((effect store (next a) t).1, (effect store (next a) t).2.1,
        calls ++ (effect store (next a) t).2.2) := by
  show effect store (action.bind next) s = _
  induction action generalizing s calls with
  | done result =>
    cases h
    rfl
  | readConfigMap ns name after ih =>
    rw [effect_readConfigMap] at h
    cases h
    rw [bind, effect_readConfigMap, ih _ rfl]
    rfl
  | writeConfigMap configMap after ih =>
    rw [effect_writeConfigMap] at h
    cases h
    rw [bind, effect_writeConfigMap, ih _ rfl]
    rfl
  | readProfile name after ih =>
    rw [effect_readProfile] at h
    cases h
    rw [bind, effect_readProfile, ih _ rfl]
    rfl
  | log entry after ih =>
    rw [effect_log] at h
    rw [bind, effect_log, ih h]

theorem effect_bind_of {action : Action α} {next : α → Action β} {a : α} {b : β} {t u : σ}
    {calls rest : List Call} (h : effect store action s = (a, t, calls))
    (hnext : effect store (next a) t = (b, u, rest)) :
    effect store (action >>= next) s = (b, u, calls ++ rest) := by
  rw [effect_bind h, hnext]

theorem result_bind (action : Action α) (next : α → Action β) (s : σ) :
    ((action >>= next).run store s).result =
      ((next (action.run store s).result).run store (action.run store s).store).result :=
  congrArg Prod.fst (effect_bind rfl)

/-- An action that calls nothing and leaves the store alone only hands on its value. -/
theorem effect_bind_pure {action : Action α} {next : α → Action β} {a : α}
    (h : effect store action s = (a, s, [])) :
    effect store (action >>= next) s = effect store (next a) s := by
  rw [effect_bind h]
  rfl

/-! ## Reports -/

/-- An action without its reports. -/
def quiet : Action α → Action α
  | done result => done result
  | readConfigMap ns name next => readConfigMap ns name fun answer => (next answer).quiet
  | writeConfigMap configMap next => writeConfigMap configMap fun answer => (next answer).quiet
  | readProfile name next => readProfile name fun answer => (next answer).quiet
  | log _ next => next.quiet

theorem quiet_bind (action : Action α) (next : α → Action β) :
    (action >>= next).quiet = action.quiet >>= fun a => (next a).quiet := by
  show (action.bind next).quiet = action.quiet.bind fun a => (next a).quiet
  induction action with
  | done result => rfl
  | readConfigMap ns name after ih => exact congrArg (readConfigMap ns name) (funext ih)
  | writeConfigMap configMap after ih => exact congrArg (writeConfigMap configMap) (funext ih)
  | readProfile name after ih => exact congrArg (readProfile name) (funext ih)
  | log entry after ih => exact ih

theorem quiet_inSpan (span : Span) (action : Action α) :
    (action.inSpan span).quiet = action.quiet := by
  induction action with
  | done result => rfl
  | readConfigMap ns name after ih => exact congrArg (readConfigMap ns name) (funext ih)
  | writeConfigMap configMap after ih => exact congrArg (writeConfigMap configMap) (funext ih)
  | readProfile name after ih => exact congrArg (readProfile name) (funext ih)
  | log entry after ih => exact ih

/-- Reports have no effect. -/
theorem effect_quiet (action : Action α) (s : σ) :
    effect store action.quiet s = effect store action s := by
  induction action generalizing s with
  | done result => rfl
  | readConfigMap ns name after ih => rw [quiet, effect_readConfigMap, effect_readConfigMap, ih]
  | writeConfigMap configMap after ih =>
    rw [quiet, effect_writeConfigMap, effect_writeConfigMap, ih]
  | readProfile name after ih => rw [quiet, effect_readProfile, effect_readProfile, ih]
  | log entry after ih => rw [quiet, effect_log, ih]

/-- What actions in a row report is put together from what they report. -/
theorem entries_bind (action : Action α) (next : α → Action β) (s : σ) :
    ((action >>= next).run store s).entries =
      (action.run store s).entries ++
        ((next (action.run store s).result).run store (action.run store s).store).entries := by
  show ((action.bind next).run store s).entries = _
  induction action generalizing s with
  | done result => rfl
  | readConfigMap ns name after ih => exact ih _ _
  | writeConfigMap configMap after ih => exact ih _ _
  | readProfile name after ih => exact ih _ _
  | log entry after ih => exact congrArg (List.cons entry) (ih s)

/-- Inside a span everything is reported as before, with the span around it. -/
theorem entries_inSpan (span : Span) (action : Action α) (s : σ) :
    ((action.inSpan span).run store s).entries =
      (action.run store s).entries.map fun entry =>
        { entry with spans := span :: entry.spans } := by
  induction action generalizing s with
  | done result => rfl
  | readConfigMap ns name after ih => exact ih _ _
  | writeConfigMap configMap after ih => exact ih _ _
  | readProfile name after ih => exact ih _ _
  | log entry after ih => exact congrArg (List.cons _) (ih s)

theorem effect_inSpan (span : Span) (action : Action α) (s : σ) :
    effect store (action.inSpan span) s = effect store action s := by
  rw [← effect_quiet, quiet_inSpan, effect_quiet]

end RoleDiscovery.Action
