import RoleDiscovery.Client.Error
import RoleDiscovery.Log.Event
import RoleDiscovery.Profile
import RoleDiscovery.Resource.ConfigMap

/-!
# Actions on a cluster

What the engine does to the world around it: it reads and writes ConfigMaps, reads runtime profiles
and reports what it does. An action is a tree of such steps, so that it can be run against different
stores, and its steps can be interleaved with those of other actions.

Results:

* `Action`: the steps, with `>>=` to put actions in a row.
* `Action.inSpan`: the same action, reported inside a span.
* `Store`, `Action.run`: an answer to every step, and the run of an action against it.
-/

namespace RoleDiscovery

/-- An action that ends with a value. -/
inductive Action (α : Type) where
  | done (result : α)
  | readConfigMap (ns name : String)
      (next : Except ClientError (Option ConfigMap) → Action α)
  | writeConfigMap (configMap : ConfigMap) (next : Except ClientError Unit → Action α)
  | readProfile (name : String) (next : Except ClientError (Option RuntimeProfile) → Action α)
  | log (entry : LogEntry) (next : Action α)

namespace Action

variable {α β : Type}

/-- Goes on with the value that an action ends with. -/
def bind : Action α → (α → Action β) → Action β
  | done result, next => next result
  | readConfigMap ns name after, next => readConfigMap ns name fun r => (after r).bind next
  | writeConfigMap configMap after, next => writeConfigMap configMap fun r => (after r).bind next
  | readProfile name after, next => readProfile name fun r => (after r).bind next
  | log entry after, next => log entry (after.bind next)

instance : Monad Action where
  pure := done
  bind := bind

/-! ## Single steps -/

/-- Reads a ConfigMap; a missing one is no failure. -/
def getConfigMap (ns name : String) : Action (Except ClientError (Option ConfigMap)) :=
  readConfigMap ns name done

/-- Creates a ConfigMap or replaces it as a whole. -/
def applyConfigMap (configMap : ConfigMap) : Action (Except ClientError Unit) :=
  writeConfigMap configMap done

/-- Reads a profile; a missing one is no failure. -/
def getProfile (name : String) : Action (Except ClientError (Option RuntimeProfile)) :=
  readProfile name done

/-- Reports an event. -/
def report (event : Event) : Action Unit :=
  log ⟨[], event⟩ (done ())

/-- An action whose events are reported inside a span. -/
def inSpan (span : Span) : Action α → Action α
  | done result => done result
  | readConfigMap ns name next => readConfigMap ns name fun r => (next r).inSpan span
  | writeConfigMap configMap next => writeConfigMap configMap fun r => (next r).inSpan span
  | readProfile name next => readProfile name fun r => (next r).inSpan span
  | log entry next => log { entry with spans := span :: entry.spans } (next.inSpan span)

end Action

/-! ## Running -/

/-- A place that ConfigMaps and profiles are kept in: how it answers a step and what becomes of
it. -/
structure Store (σ : Type) where
  getConfigMap : String → String → σ → Except ClientError (Option ConfigMap) × σ
  applyConfigMap : ConfigMap → σ → Except ClientError Unit × σ
  getProfile : String → σ → Except ClientError (Option RuntimeProfile) × σ

/-- A step that called the store. -/
inductive Call where
  | getConfigMap (ns name : String)
  | applyConfigMap (configMap : ConfigMap) (succeeded : Bool)
  | getProfile (name : String)
  deriving DecidableEq

/-- What came of an action: its value, the store afterwards, and what was reported and called in
order. -/
structure Run (σ α : Type) where
  result : α
  store : σ
  entries : List LogEntry
  calls : List Call

namespace Action

variable {α σ : Type}

/-- Runs an action against a store. -/
def run (store : Store σ) : Action α → σ → Run σ α
  | done result, s => ⟨result, s, [], []⟩
  | readConfigMap ns name next, s =>
    let (answer, s) := store.getConfigMap ns name s
    let rest := (next answer).run store s
    { rest with calls := .getConfigMap ns name :: rest.calls }
  | writeConfigMap configMap next, s =>
    let (answer, s) := store.applyConfigMap configMap s
    let rest := (next answer).run store s
    { rest with calls := .applyConfigMap configMap answer.isOk :: rest.calls }
  | readProfile name next, s =>
    let (answer, s) := store.getProfile name s
    let rest := (next answer).run store s
    { rest with calls := .getProfile name :: rest.calls }
  | log entry next, s =>
    let rest := next.run store s
    { rest with entries := entry :: rest.entries }

end Action

/-- The ConfigMaps that were written. -/
def Run.applied {σ α : Type} (run : Run σ α) : List ConfigMap :=
  run.calls.filterMap fun
    | .applyConfigMap configMap true => some configMap
    | _ => none

end RoleDiscovery
