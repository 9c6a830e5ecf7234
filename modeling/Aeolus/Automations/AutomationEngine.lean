/-
# Aeolus.Automations.AutomationEngine — from events to executions

`src/automations/automation-engine.ts`, over the rules of `RuleRegistry` and the gate of
`ExecutionGate`.  Three kinds of events are matched against the registered rules; every
rule that is eligible submits one request to the gate.  A cron timer and a manual fire
submit one request for their own rule.

The request carries a closure over the rule and the context as they were when it was
submitted.  The gate names it by the number of the call (`History`), and `executions`
lists the closures by that number: what starts later is what was captured then.

The conditions of rules, the authorization scopes and the clock are read while an event is
handled; they are its `Surroundings`.
-/
import Aeolus.Auth.ResourceOwnership
import Aeolus.Automations.RuleRegistry
import Aeolus.Automations.ExecutionGateQueue

namespace Aeolus.Automations

open Aeolus.Core Aeolus.Theory Aeolus.Auth
open ExecutionGate

/-! ## Depths

`meta.depth` of an ingested envelope is whatever JSON the sender put there. -/

/-- `value ?? 0` -/
def orZero : Option Json → Json
  | none => .num 0
  | some .null => .num 0
  | some value => value

/-- `String(value)` of a list or an object, and `Number(text)`; `none` is `NaN`. -/
structure Coercion where
  text : Json → String
  number : String → Option ℚ

/-- `value + 1` -/
def Coercion.plusOne (coercion : Coercion) : Json → Json
  | .null => .num 1
  | .bool value => .num (if value then 2 else 1)
  | .num value => .num (value + 1)
  | .str value => .str (value ++ "1")
  | value => .str (coercion.text value ++ "1")

/-- `value > bound` -/
def Coercion.exceeds (coercion : Coercion) (bound : ℚ) : Json → Bool
  | .null => 0 > bound
  | .bool value => (if value then 1 else 0) > bound
  | .num value => value > bound
  | .str value => (coercion.number value).any (· > bound)
  | value => (coercion.number (coercion.text value)).any (· > bound)

def maxEventDepth : ℚ := 16

/-! ## Events -/

inductive SharedStateSource where
  | automation (id : String) (executionId : Option String)
  | api (userId : Option String)
  | system (id : String)

/-- The field `sharedState` of the metadata of a Shared State trigger. -/
structure SharedStateTrigger where
  bucket : String
  key : String
  deleted : Bool
  source : SharedStateSource

/-- Only `eventId` and `timestamp` of an ingested envelope are checked; the other fields
may be any JSON value, or absent. -/
structure EventMetadata where
  eventId : String
  timestamp : ℚ
  source : Option Json := none
  causationId : Option Json := none
  ruleId : Option Json := none
  executionId : Option Json := none
  traceId : Option Json := none
  depth : Option Json := none
  sharedState : Option SharedStateTrigger := none

/-- What a condition and an action are given.  `cause` is a record no code reads: the number
of the automation event or Shared State change that led here, when an execution made it. -/
structure EventContext where
  topic : String
  deviceId : String
  state : JsonObject
  timestamp : ℚ
  metadata : Option EventMetadata := none
  cause : Option Nat := none

/-- A device event after normalization; its device type is not read here. -/
structure NormalizedEvent where
  deviceId : String
  state : JsonObject
  topic : String
  timestamp : ℚ
  metadata : Option EventMetadata := none

structure AutomationEventEnvelope where
  name : String
  payload : Option Json
  metadata : EventMetadata
  cause : Option Nat := none

/-- A value is absent on a deletion. -/
structure SharedStateChange where
  bucket : String
  key : String
  value : Option Json
  deleted : Bool
  timestamp : ℚ
  source : SharedStateSource
  traceId : Option Json := none
  causationId : Option Json := none
  depth : Option Json := none
  cause : Option Nat := none

def sharedStateEventSource : SharedStateSource → Json
  | .automation id _ => .obj [("kind", .str "automation"), ("id", .str id)]
  | .api userId =>
      .obj (("kind", .str "rest") :: ((truthy userId).map fun id => ("id", .str id)).toList)
  | .system id => .obj [("kind", .str "system"), ("id", .str id)]

def sharedStatePath (bucket key : String) : String := bucket ++ "/" ++ key

/-- An object is a record; any other value goes under `value`. -/
def asRecord : Option Json → JsonObject
  | some (.obj fields) => .ofFields fields
  | some value => OrderedMap.empty.set "value" value
  | none => .empty

/-! ## Matching -/

/-- The loop over the levels of a pattern; `whole` says whether it has as many as the topic. -/
def levelsMatch (whole : Bool) : List String → List String → Bool
  | [], _ => whole
  | "#" :: _, _ => true
  | "+" :: pattern, topic => levelsMatch whole pattern topic.tail
  | _ :: _, [] => false
  | level :: pattern, part :: topic =>
      if level ≠ part then false else levelsMatch whole pattern topic

/-- No pattern matches nothing: such a rule is only fired by hand. -/
def topicMatches (pattern topic : String) : Bool :=
  if pattern = "" then false
  else if pattern = topic then true
  else
    let patternParts := split pattern '/'
    let topicParts := split topic '/'
    levelsMatch (patternParts.length = topicParts.length) patternParts topicParts

example : topicMatches "home/+/temp" "home/kitchen/temp" = true := by decide
example : topicMatches "a/+/#" "a" = true := by decide

/-- What is read while an event is handled.  `condition` is the predicate of a condition
type and value, and may throw; `now` is the time at which the request of a rule is
submitted. -/
structure Surroundings where
  now : String → Nat
  condition : String × String → EventContext → Except String Bool := fun _ _ => .ok true
  scopeResolver : Option (String → Auth.AuthorizationScope) := none
  uuid : String := ""

def wakesOnTopics (rule : Rule) : Bool := rule.triggerType ≠ "shared-state"

def admitDeviceEvent (around : Surroundings) (ruleId deviceId : String) : Bool :=
  match around.scopeResolver with
  | none => true
  | some resolve =>
      match resolve ruleId with
      | .unrestricted => true
      | .scoped _ deviceIds _ => deviceIds.contains deviceId

def admitSharedStateChange (around : Surroundings) (ruleId : String) : Bool :=
  match around.scopeResolver with
  | none => true
  | some resolve => resolve ruleId = .unrestricted

/-- A rule without a condition passes; a condition that throws does not. -/
def passes (around : Surroundings) (rule : Rule) (context : EventContext) : Bool :=
  match rule.condition with
  | none => true
  | some condition =>
      match around.condition condition context with
      | .ok holds => holds
      | .error _ => false

/-! ## The engine -/

/-- The closure of a request: `executeRule(rule, context)`. -/
structure RuleExecution where
  ruleId : String
  rule : Rule
  context : EventContext

structure EngineConfig where
  gate : GateConfig
  isValidCron : String → Bool
  coercion : Coercion

/-- `armed` has the rule that each running cron timer has captured. -/
structure AutomationEngine where
  registry : RuleRegistry := {}
  armed : OrderedMap String Rule := .empty
  history : History := {}
  executions : List RuleExecution := []

namespace AutomationEngine

variable (cfg : EngineConfig)

def register (engine : AutomationEngine) (id : String) (rule : Rule) : AutomationEngine :=
  { engine with
    registry := engine.registry.register cfg.isValidCron id rule
    armed :=
      match rule.cronExpression with
      | some expression =>
        if rule.triggerType = "cron" ∧ cfg.isValidCron expression = true then
          engine.armed.set id rule
        else engine.armed
      | none => engine.armed }

/-- The timer and the rule go; the gate is not told. -/
def unregister (engine : AutomationEngine) (ruleId : String) : AutomationEngine :=
  { engine with
    armed := engine.armed.delete ruleId
    registry := engine.registry.unregister ruleId }

/-- `gate.submit` of a request that will run `executeRule(rule, context)`. -/
def submit (engine : AutomationEngine) (execution : RuleExecution) (request : ExecutionRequest)
    (now : Nat) : AutomationEngine :=
  { engine with
    history := engine.history.submit cfg.gate request now
    executions := engine.executions ++ [execution] }

/-- The loop over `listRules()`. -/
def dispatch (engine : AutomationEngine) (around : Surroundings) (context : EventContext)
    (eligible : String → Rule → Bool) (request : String → ExecutionRequest) : AutomationEngine :=
  engine.registry.rules.entries.foldl
    (fun engine entry =>
      if eligible entry.1 entry.2 then
        engine.submit cfg ⟨entry.1, entry.2, context⟩ (request entry.1) (around.now entry.1)
      else engine)
    engine

def deviceContext (event : NormalizedEvent) : EventContext :=
  { topic := event.topic
    deviceId := event.deviceId
    state := event.state
    timestamp := event.timestamp
    metadata := event.metadata }

def evaluate (engine : AutomationEngine) (around : Surroundings) (event : NormalizedEvent) :
    AutomationEngine :=
  engine.dispatch cfg around (deviceContext event)
    (fun id rule => wakesOnTopics rule && topicMatches rule.topic event.topic &&
      admitDeviceEvent around id event.deviceId && passes around rule (deviceContext event))
    (fun id =>
      { ruleId := id
        deviceId := event.deviceId
        topic := event.topic
        coalesceKey := some (id ++ ":" ++ event.deviceId ++ ":" ++ event.topic)
        execute := 0 })

def automationEventContext (topic : String) (envelope : AutomationEventEnvelope) : EventContext :=
  { topic
    deviceId := ""
    state := asRecord envelope.payload
    timestamp := envelope.metadata.timestamp
    metadata := some envelope.metadata
    cause := envelope.cause }

def evaluateAutomationEvent (engine : AutomationEngine) (around : Surroundings) (topic : String)
    (envelope : AutomationEventEnvelope) : AutomationEngine :=
  engine.dispatch cfg around (automationEventContext topic envelope)
    (fun _ rule => wakesOnTopics rule && topicMatches rule.topic topic &&
      passes around rule (automationEventContext topic envelope))
    (fun id =>
      { ruleId := id
        deviceId := envelope.metadata.eventId
        topic
        execute := 0 })

/-- A truthy value, to be copied. -/
def whenTruthy (value : Option Json) : Option Json := if isTruthy value then value else none

def sharedStateContext (around : Surroundings) (change : SharedStateChange) : EventContext :=
  { topic := sharedStatePath change.bucket change.key
    deviceId := ""
    state := asRecord change.value
    timestamp := change.timestamp
    metadata := some
      { eventId := around.uuid
        timestamp := change.timestamp
        source := some (sharedStateEventSource change.source)
        traceId := whenTruthy change.traceId
        causationId := whenTruthy change.causationId
        depth := some (orZero change.depth)
        sharedState := some ⟨change.bucket, change.key, change.deleted, change.source⟩ }
    cause := change.cause }

def sharedStateKey (ruleId bucket key : String) : String :=
  "shared-state:" ++ ruleId ++ ":" ++ bucket ++ ":" ++ key

def sharedStateRequest (change : SharedStateChange) (id : String) : ExecutionRequest :=
  { ruleId := id
    deviceId := sharedStatePath change.bucket change.key
    topic := sharedStatePath change.bucket change.key
    coalesceKey := some (sharedStateKey id change.bucket change.key)
    execute := 0 }

/-- Does the change wake the rule? -/
def wakesOnChange (around : Surroundings) (change : SharedStateChange) (id : String) (rule : Rule) :
    Bool :=
  rule.triggerType = "shared-state" &&
    topicMatches rule.topic (sharedStatePath change.bucket change.key) &&
    admitSharedStateChange around id && passes around rule (sharedStateContext around change)

def evaluateSharedStateChange (engine : AutomationEngine) (around : Surroundings)
    (change : SharedStateChange) : AutomationEngine :=
  if cfg.coercion.exceeds maxEventDepth (orZero change.depth) then engine
  else
    engine.dispatch cfg around (sharedStateContext around change) (wakesOnChange around change)
      (sharedStateRequest change)

/-- The callback of a cron timer. -/
def cronFires (engine : AutomationEngine) (around : Surroundings) (ruleId : String) :
    AutomationEngine :=
  match engine.armed.get ruleId with
  | none => engine
  | some rule =>
      let now := around.now ruleId
      let context : EventContext :=
        { topic := "cron/" ++ (if rule.name ≠ "" then rule.name else ruleId)
          deviceId := ruleId
          state := .ofFields
            ([("ruleId", .str ruleId)] ++
              (rule.cronExpression.map fun expression => ("cronExpression", .str expression)).toList
              ++ [("firedAt", .num now)])
          timestamp := now }
      engine.submit cfg ⟨ruleId, rule, context⟩
        { ruleId, deviceId := context.deviceId, topic := context.topic, execute := 0 } now

/-- A manual fire; an unknown rule throws and nothing is submitted. -/
def fire (engine : AutomationEngine) (around : Surroundings) (ruleId : String)
    (context : EventContext) : Except String AutomationEngine :=
  match engine.registry.rules.get ruleId with
  | none => .error s!"Rule {ruleId} not found"
  | some rule =>
      .ok (engine.submit cfg ⟨ruleId, rule, context⟩
        { ruleId, deviceId := context.deviceId, topic := context.topic, execute := 0 }
        (around.now ruleId))

/-- The end of an execution: its slot is freed and the gate drains. -/
def completes (engine : AutomationEngine) (handle : Handle) : AutomationEngine :=
  { engine with history := engine.history.step cfg.gate (.complete handle) }

/-! ## Runs -/

/-- The executions that have started, by number. -/
def started (engine : AutomationEngine) : List Nat := engine.history.gate.started

/-- The started executions of one rule. -/
def startedOf (engine : AutomationEngine) (ruleId : String) : List Nat :=
  engine.started.filter fun i => engine.executions[i]?.any (·.ruleId = ruleId)

end AutomationEngine

inductive EngineEvent where
  | register (id : String) (rule : Rule)
  | unregister (ruleId : String)
  | deviceStateChange (event : NormalizedEvent) (around : Surroundings)
  | automationEvent (topic : String) (envelope : AutomationEventEnvelope) (around : Surroundings)
  | sharedStateChange (change : SharedStateChange) (around : Surroundings)
  | cronFires (ruleId : String) (around : Surroundings)
  | fire (ruleId : String) (context : EventContext) (around : Surroundings)
  | completes (handle : Handle)

def EngineEvent.Registers (ruleId : String) : EngineEvent → Prop
  | .register id _ => id = ruleId
  | _ => False

def AutomationEngine.step (cfg : EngineConfig) (engine : AutomationEngine) :
    EngineEvent → AutomationEngine
  | .register id rule => engine.register cfg id rule
  | .unregister ruleId => engine.unregister ruleId
  | .deviceStateChange event around => engine.evaluate cfg around event
  | .automationEvent topic envelope around =>
      engine.evaluateAutomationEvent cfg around topic envelope
  | .sharedStateChange change around => engine.evaluateSharedStateChange cfg around change
  | .cronFires ruleId around => engine.cronFires cfg around ruleId
  | .fire ruleId context around => (engine.fire cfg around ruleId context).toOption.getD engine
  | .completes handle => engine.completes cfg handle

/-! ## What one event can do

Every event but a registration comes down to calls of the gate. -/

namespace AutomationEngine

variable {cfg : EngineConfig} {engine : AutomationEngine}

/-- A dispatch is a submission for each eligible rule. -/
theorem dispatch_rec {P : AutomationEngine → Prop} {around : Surroundings}
    {context : EventContext} {eligible : String → Rule → Bool}
    {request : String → ExecutionRequest} (start : P engine)
    (each : ∀ id rule, engine.registry.rules.get id = some rule → eligible id rule = true →
      ∀ before, P before →
        P (before.submit cfg ⟨id, rule, context⟩ (request id) (around.now id))) :
    P (engine.dispatch cfg around context eligible request) := by
  refine List.foldlRecOn _ _ start fun before holds entry mem => ?_
  split
  · rename_i woken
    exact each entry.1 entry.2 (OrderedMap.mem_entries.mp mem) woken before holds
  · exact holds

theorem mem_submit {execution : RuleExecution} {request : ExecutionRequest} {now : Nat}
    {x : RuleExecution} (mem : x ∈ (engine.submit cfg execution request now).executions) :
    x ∈ engine.executions ∨ x = execution :=
  (List.mem_append.mp mem).imp id List.mem_singleton.mp

/-- What a dispatch submits runs in its context, for a rule that is eligible. -/
theorem mem_dispatch {around : Surroundings} {context : EventContext}
    {eligible : String → Rule → Bool} {request : String → ExecutionRequest} {x : RuleExecution}
    (mem : x ∈ (engine.dispatch cfg around context eligible request).executions) :
    x ∈ engine.executions ∨ x.context = context ∧
      ∃ id rule, engine.registry.rules.get id = some rule ∧ eligible id rule = true := by
  refine dispatch_rec (P := fun after => ∀ x ∈ after.executions, x ∈ engine.executions ∨
      x.context = context ∧
        ∃ id rule, engine.registry.rules.get id = some rule ∧ eligible id rule = true)
    (fun _ old => .inl old) (fun id rule found woken before holds x mem => ?_) x mem
  rcases mem_submit mem with old | rfl
  · exact holds x old
  · exact .inr ⟨rfl, id, rule, found, woken⟩

theorem mem_evaluateSharedStateChange {around : Surroundings} {change : SharedStateChange}
    {x : RuleExecution}
    (mem : x ∈ (engine.evaluateSharedStateChange cfg around change).executions) :
    x ∈ engine.executions ∨ x.context = sharedStateContext around change ∧
      cfg.coercion.exceeds maxEventDepth (orZero change.depth) = false ∧
      ∃ id rule, engine.registry.rules.get id = some rule ∧
        wakesOnChange around change id rule = true := by
  unfold evaluateSharedStateChange at mem
  split at mem
  · exact .inl mem
  · rename_i shallow
    refine (mem_dispatch mem).imp id fun new => ?_
    exact ⟨new.1, Bool.eq_false_of_not_eq_true shallow, new.2⟩

/-- The rule may be submitted: it is registered, or a timer has captured it. -/
def Knows (engine : AutomationEngine) (ruleId : String) : Prop :=
  (engine.registry.rules.get ruleId).isSome ∨ (engine.armed.get ruleId).isSome

/-- What submissions of known rules, completions and registrations preserve, every event
preserves. -/
theorem step_rec {P : AutomationEngine → Prop} (start : P engine)
    (submits : ∀ before execution request now, P before → request.ruleId = execution.ruleId →
      engine.Knows execution.ruleId → P (before.submit cfg execution request now))
    (finishes : ∀ handle, P (engine.completes cfg handle)) {e : EngineEvent}
    (registers : ∀ id rule, e = .register id rule → P (engine.register cfg id rule))
    (unregisters : ∀ ruleId, P (engine.unregister ruleId)) : P (engine.step cfg e) := by
  have dispatched : ∀ around context eligible (request : String → ExecutionRequest),
      (∀ id, (request id).ruleId = id) →
        P (engine.dispatch cfg around context eligible request) := by
    intro around context eligible request own
    refine dispatch_rec start fun id rule found _ before holds => ?_
    exact submits before _ _ _ holds (own id) (Or.inl (Option.isSome_of_mem found))
  cases e with
  | register id rule => exact registers id rule rfl
  | unregister ruleId => exact unregisters ruleId
  | deviceStateChange event around =>
      simp only [step, evaluate]
      exact dispatched _ _ _ _ fun _ => rfl
  | automationEvent topic envelope around =>
      simp only [step, evaluateAutomationEvent]
      exact dispatched _ _ _ _ fun _ => rfl
  | sharedStateChange change around =>
      simp only [step, evaluateSharedStateChange]
      split
      · exact start
      · exact dispatched _ _ _ _ fun _ => rfl
  | cronFires ruleId around =>
      simp only [step, cronFires]
      split
      · exact start
      · rename_i rule captured
        exact submits _ _ _ _ start rfl (Or.inr (Option.isSome_of_mem captured))
  | fire ruleId context around =>
      simp only [step, fire]
      split
      · exact start
      · rename_i rule found
        exact submits _ _ _ _ start rfl (Or.inl (Option.isSome_of_mem found))
  | completes handle => exact finishes handle

/-- The request under the number of its call. -/
def numberedRequest (engine : AutomationEngine) (request : ExecutionRequest) : ExecutionRequest :=
  { request with execute := engine.history.calls.length }

/-- The gate's decision, and what is recorded of it. -/
theorem submitted (cfg : EngineConfig) (engine : AutomationEngine) (execution : RuleExecution)
    (request : ExecutionRequest) (now : Nat) :
    ∃ result slot,
      Gate.Submitted cfg.gate engine.history.gate (engine.numberedRequest request) now result
        (engine.submit cfg execution request now).history.gate ∧
      (engine.submit cfg execution request now).history.calls =
        engine.history.calls ++ [⟨engine.numberedRequest request, result, slot⟩] :=
  ⟨_, _, Gate.submit_cases, rfl⟩

def queueOf (engine : AutomationEngine) (ruleId : String) : List QueuedEntry :=
  engine.history.gate.queueOf ruleId

/-- The request of another rule goes to another queue. -/
theorem queueOf_submit {execution : RuleExecution} {request : ExecutionRequest} {r : String}
    (other : request.ruleId ≠ r) (now : Nat) :
    (engine.submit cfg execution request now).queueOf r = engine.queueOf r := by
  obtain ⟨result, slot, cases, -⟩ := submitted cfg engine execution request now
  have ne : r ≠ (engine.numberedRequest request).ruleId := Ne.symm other
  unfold queueOf
  generalize (engine.submit cfg execution request now).history.gate = g at cases
  cases cases with
  | coalesced => exact (Gate.queueOf_coalesce ..).trans (if_neg ne)
  | queued => exact (Gate.queueOf_push ..).trans (if_neg ne)
  | _ => rfl

/-- The gate accounts for its requests, and a request is that of its closure's rule. -/
structure Coherent (cfg : EngineConfig) (engine : AutomationEngine) : Prop where
  accounted : Accounted cfg.gate engine.history
  numbered : engine.executions.map (·.ruleId) = engine.history.calls.map (·.request.ruleId)

theorem coherent_empty (cfg : EngineConfig) (registry : RuleRegistry)
    (armed : OrderedMap String Rule) : Coherent cfg { registry, armed } :=
  ⟨(inv_empty cfg.gate).accounted, rfl⟩

theorem Coherent.submit (coherent : Coherent cfg engine) {execution : RuleExecution}
    {request : ExecutionRequest} (own : request.ruleId = execution.ruleId) (now : Nat) :
    Coherent cfg (engine.submit cfg execution request now) where
  accounted := coherent.accounted.submit request now
  numbered := by
    show (engine.executions ++ [execution]).map _ = (engine.history.calls ++ [_]).map _
    rw [List.map_append, List.map_append, coherent.numbered]
    exact congrArg (_ ++ [·]) own.symm

theorem Coherent.completes (coherent : Coherent cfg engine) (handle : Handle) :
    Coherent cfg (engine.completes cfg handle) :=
  ⟨coherent.accounted.complete handle, coherent.numbered⟩

theorem step_coherent (e : EngineEvent) (coherent : Coherent cfg engine) :
    Coherent cfg (engine.step cfg e) := by
  refine step_rec coherent (fun before execution request now kept own _ => kept.submit own now)
    coherent.completes (fun id rule _ => ?_) (fun ruleId => ?_)
  · exact ⟨coherent.accounted, coherent.numbered⟩
  · exact ⟨coherent.accounted, coherent.numbered⟩

/-- The rule of an execution is the rule of its request. -/
theorem Coherent.ruleId_eq (coherent : Coherent cfg engine) {i : Nat} {c : CallRecord}
    (call : engine.history.calls[i]? = some c) :
    ∃ execution, engine.executions[i]? = some execution ∧
      execution.ruleId = c.request.ruleId := by
  have same := congrArg (·[i]?) coherent.numbered
  simp only [List.getElem?_map, call, Option.map_some] at same
  obtain ⟨execution, found, rule⟩ := Option.map_eq_some_iff.mp same
  exact ⟨execution, found, rule⟩

theorem Coherent.length_eq (coherent : Coherent cfg engine) :
    engine.executions.length = engine.history.calls.length := by
  simpa using congrArg List.length coherent.numbered

end AutomationEngine

end Aeolus.Automations
