/-
# Aeolus.Automations.Sandbox — what executions do to the system that triggers them

The host callbacks of `src/automations/sandbox.ts` by which a running script emits an event
or writes Shared State, and the two stores and the broker that lead from there back to the
engine.  `shared.set` and `shared.delete` pass on a context of the execution; the
deprecated aliases `db.set` and `db.delete` go through `DataStore.set` and
`DataStore.delete`, which take none.

`AutomationRuntime` has the engine, the store and the messages that were published.  The
broker may deliver a published message at any time and any number of times; messages that
nobody here published arrive as well.
-/
import Aeolus.Theory.Causality
import Aeolus.SharedState.SharedStateStore
import Aeolus.Automations.AutomationEventService

namespace Aeolus.Automations

open Aeolus.Core Aeolus.Theory Aeolus.Auth Aeolus.SharedState
open ExecutionGate

structure RuntimeConfig where
  engine : EngineConfig
  stringify : Json → String

/-! ## The callbacks -/

inductive SandboxCall where
  | eventsEmit (name : Json) (payload : Option Json)
  | sharedSet (bucket key : String) (value : Json)
  | sharedDelete (bucket key : String)
  | dbSet (bucket key : String) (value : Json)
  | dbDelete (bucket key : String)

/-- Is it one of the deprecated aliases? -/
def SandboxCall.isAlias : SandboxCall → Bool
  | .dbSet _ _ _ => true
  | .dbDelete _ _ => true
  | _ => false

def writeContext (coercion : Coercion) (execution : RuleExecution) (host : Host) :
    SharedStateWriteContext where
  source := some (.automation execution.ruleId (truthy (some host.executionId)))
  traceId := AutomationEngine.whenTruthy (execution.context.metadata.bind EventMetadata.traceId)
  causationId := AutomationEngine.whenTruthy (some (.str host.executionId))
  depth := some (nextDepth coercion execution.context)

/-- What a call leaves behind. -/
inductive Effect where
  | published (topic : String) (message : Json)
  | changed (change : SharedStateChange) (store : SharedStateStore)

def Effect.ofWrite : Option SharedStateChange × SharedStateStore → Option Effect
  | (some change, store) => some (.changed change store)
  | (none, _) => none

/-- A refused call is logged.  Global Shared State is not there for scoped automations, and
the aliases are there only while the Data Store is enabled. -/
def perform (cfg : RuntimeConfig) (store : SharedStateStore) (execution : RuleExecution)
    (host : Host) : SandboxCall → Option Effect
  | .eventsEmit name payload =>
      (emit cfg.engine.coercion cfg.stringify execution host name payload).toOption.map
        fun sent => .published sent.1 sent.2
  | .sharedSet bucket key value =>
      if host.scope = .unrestricted then
        (store.set cfg.stringify bucket key (some value)
          (some (writeContext cfg.engine.coercion execution host)) host.now).toOption.bind
            Effect.ofWrite
      else none
  | .sharedDelete bucket key =>
      if host.scope = .unrestricted then
        Effect.ofWrite (store.delete bucket key
          (some (writeContext cfg.engine.coercion execution host)) host.now)
      else none
  | .dbSet bucket key value =>
      if host.dataStoreEnabled ∧ host.scope = .unrestricted then
        (store.set cfg.stringify bucket key (some value) none host.now).toOption.bind Effect.ofWrite
      else none
  | .dbDelete bucket key =>
      if host.dataStoreEnabled ∧ host.scope = .unrestricted then
        Effect.ofWrite (store.delete bucket key none host.now)
      else none

theorem orZero_plusOne (coercion : Coercion) (value : Json) :
    orZero (some (orZero (some (coercion.plusOne value)))) = coercion.plusOne value := by
  cases value <;> rfl

/-- An event is published only while the depth lasts, and with the next depth.  A change has
the next depth too, unless it was made through an alias: then it has none. -/
def Effect.Carries (coercion : Coercion) (context : EventContext) (aliased : Bool) : Effect → Prop
  | .published _ message =>
      coercion.exceeds maxEventDepth (nextDepth coercion context) = false ∧
        ∃ envelope, parseAutomationEventEnvelope message = some envelope ∧
          orZero envelope.metadata.depth = nextDepth coercion context
  | .changed change _ =>
      change.depth = if aliased then none else some (nextDepth coercion context)

theorem perform_carries {cfg : RuntimeConfig} {store : SharedStateStore}
    {execution : RuleExecution} {host : Host} {call : SandboxCall} {effect : Effect}
    (performed : perform cfg store execution host call = some effect) :
    effect.Carries cfg.engine.coercion execution.context call.isAlias := by
  have ofWrite : ∀ {written : Option SharedStateChange × SharedStateStore},
      Effect.ofWrite written = some effect →
        ∃ change after, written = (some change, after) ∧ effect = .changed change after := by
    rintro ⟨change, after⟩ made
    cases change with
    | none => cases made
    | some change =>
        cases made
        exact ⟨change, after, rfl, rfl⟩
  have ofSet : ∀ {result : Except String (Option SharedStateChange × SharedStateStore)},
      result.toOption.bind Effect.ofWrite = some effect →
        ∃ change after, result = .ok (some change, after) ∧ effect = .changed change after := by
    intro result made
    cases result with
    | error => cases made
    | ok written =>
        obtain ⟨change, after, rfl, same⟩ := ofWrite made
        exact ⟨change, after, rfl, same⟩
  cases call with
  | eventsEmit name payload =>
      simp only [perform] at performed
      cases sent : emit cfg.engine.coercion cfg.stringify execution host name payload with
      | error => simp [sent, Except.toOption] at performed
      | ok out =>
          simp only [sent, Except.toOption, Option.map_some, Option.some.injEq] at performed
          subst performed
          obtain ⟨shallow, name, parsed⟩ := emit_ok sent
          exact ⟨shallow, _, parsed, orZero_plusOne _ _⟩
  | sharedSet bucket key value =>
      simp only [perform] at performed
      split at performed
      · obtain ⟨change, after, written, rfl⟩ := ofSet performed
        exact congrArg SharedStateChange.depth (SharedStateStore.set_change written)
      · cases performed
  | sharedDelete bucket key =>
      simp only [perform] at performed
      split at performed
      · obtain ⟨change, after, removed, rfl⟩ := ofWrite performed
        exact congrArg SharedStateChange.depth (SharedStateStore.delete_change removed)
      · cases performed
  | dbSet bucket key value =>
      simp only [perform] at performed
      split at performed
      · obtain ⟨change, after, written, rfl⟩ := ofSet performed
        exact congrArg SharedStateChange.depth (SharedStateStore.set_change written)
      · cases performed
  | dbDelete bucket key =>
      simp only [perform] at performed
      split at performed
      · obtain ⟨change, after, removed, rfl⟩ := ofWrite performed
        exact congrArg SharedStateChange.depth (SharedStateStore.delete_change removed)
      · cases performed

/-! ## The runtime -/

/-- A message that an execution published, with the number of the event. -/
structure Publication where
  topic : String
  message : Json
  number : Nat

/-- `causes` is a record no code reads.  The events and changes that executions make are
numbered; it has, for each, the one that had triggered the execution. -/
structure AutomationRuntime where
  engine : AutomationEngine := {}
  store : SharedStateStore := {}
  published : List Publication := []
  causes : List (Option Nat) := []

inductive RuntimeEvent where
  | register (id : String) (rule : Rule)
  | unregister (ruleId : String)
  /-- a message that is not MQTT's has no time of arrival -/
  | deviceStateChange (event : NormalizedEvent) (arrived : Option Nat) (around : Surroundings)
  /-- a message on an event topic that no execution published -/
  | ingest (topic : String) (message : Json) (around : Surroundings)
  | cronFires (ruleId : String) (around : Surroundings)
  | fire (ruleId : String) (context : EventContext) (around : Surroundings)
  | completes (handle : Handle)
  /-- a write through the REST API; its deprecated routes name no source -/
  | restSet (bucket key : String) (value : Option Json) (source : Option SharedStateSource)
      (now : Nat) (around : Surroundings)
  | restDelete (bucket key : String) (source : Option SharedStateSource) (now : Nat)
      (around : Surroundings)
  /-- the broker delivers a published message -/
  | deliver (k : Nat) (around : Surroundings)
  /-- execution `i` calls the host -/
  | call (i : Nat) (call : SandboxCall) (host : Host)

namespace AutomationRuntime

variable (cfg : RuntimeConfig)

/-- A change is stored and announced to the engine. -/
def announce (rt : AutomationRuntime) (around : Surroundings) (store : SharedStateStore)
    (change : SharedStateChange) : AutomationRuntime :=
  { rt with
    store
    engine := rt.engine.evaluateSharedStateChange cfg.engine around change }

def announceWrite (rt : AutomationRuntime) (around : Surroundings) :
    Option SharedStateChange × SharedStateStore → AutomationRuntime
  | (some change, store) => rt.announce cfg around store change
  | (none, _) => rt

/-- The source of a write through the REST API; it has no depth. -/
def restContext (source : Option SharedStateSource) : Option SharedStateWriteContext :=
  source.map fun source => { source := some source }

/-- The running script with this number. -/
def running (rt : AutomationRuntime) (i : Nat) : Option RuleExecution :=
  if i ∈ rt.engine.started then
    rt.engine.executions[i]?.filter fun execution =>
      match execution.rule.action with
      | .script _ => true
      | .form _ _ _ => false
  else none

/-- The effect of a call gets the next number. -/
def leave (rt : AutomationRuntime) (execution : RuleExecution) (host : Host) :
    Effect → AutomationRuntime
  | .published topic message =>
      { rt with
        published := rt.published ++ [⟨topic, message, rt.causes.length⟩]
        causes := rt.causes ++ [execution.context.cause] }
  | .changed change store =>
      { rt.announce cfg host.around store { change with cause := some rt.causes.length } with
        causes := rt.causes ++ [execution.context.cause] }

/-- `handleAutomationEvent` -/
def handleAutomationEvent (rt : AutomationRuntime) (around : Surroundings) (topic : String)
    (message : Json) (cause : Option Nat) : AutomationRuntime :=
  match parseAutomationEventEnvelope message with
  | none => rt
  | some envelope =>
      { rt with
        engine := rt.engine.evaluateAutomationEvent cfg.engine around topic
          { envelope with cause } }

/-- An MQTT message is given metadata of its own when it arrives. -/
def inbound (event : NormalizedEvent) (arrived : Option Nat) (around : Surroundings) :
    NormalizedEvent :=
  { event with
    metadata := arrived.map fun now =>
      newEventMetadata around.uuid now
        (.obj [("kind", .str "mqtt-device"), ("id", .str event.deviceId)]) }

def step (rt : AutomationRuntime) : RuntimeEvent → AutomationRuntime
  | .register id rule => { rt with engine := rt.engine.register cfg.engine id rule }
  | .unregister ruleId => { rt with engine := rt.engine.unregister ruleId }
  | .deviceStateChange event arrived around =>
      { rt with engine := rt.engine.evaluate cfg.engine around (inbound event arrived around) }
  | .ingest topic message around => rt.handleAutomationEvent cfg around topic message none
  | .cronFires ruleId around => { rt with engine := rt.engine.cronFires cfg.engine around ruleId }
  | .fire ruleId context around =>
      -- the routes build a context without metadata
      { rt with
        engine := (rt.engine.fire cfg.engine around ruleId
          { context with metadata := none, cause := none }).toOption.getD rt.engine }
  | .completes handle => { rt with engine := rt.engine.completes cfg.engine handle }
  | .restSet bucket key value source now around =>
      match rt.store.set cfg.stringify bucket key value (restContext source) now with
      | .error _ => rt
      | .ok written => rt.announceWrite cfg around written
  | .restDelete bucket key source now around =>
      rt.announceWrite cfg around (rt.store.delete bucket key (restContext source) now)
  | .deliver k around =>
      match rt.published[k]? with
      | none => rt
      | some sent => rt.handleAutomationEvent cfg around sent.topic sent.message (some sent.number)
  | .call i call host =>
      match rt.running i with
      | none => rt
      | some execution =>
          match perform cfg rt.store execution host call with
          | none => rt
          | some effect => rt.leave cfg execution host effect

end AutomationRuntime

end Aeolus.Automations
