/-
# Aeolus.Automations.AutomationEventService — events from one automation to another

`src/automations/automation-event-service.ts`, with `newEventMetadata` of
`src/core/event-metadata.ts`.  `emit` publishes an envelope under the emitting rule's own
topic; `parseAutomationEventEnvelope` reads what arrives on such a topic, whoever sent it.

A message is the JSON value that it is the text of.  What is emitted is read back as it
was (`parse_toJson`), so the depth that `emit` writes is the depth that the executions of
the event find.
-/
import Aeolus.Automations.AutomationEngine

namespace Aeolus.Automations

open Aeolus.Core Aeolus.Theory Aeolus.Auth

def reservedEventNamespace : String := "aeolus/events"

def automationEventSchema : String := "aeolus.automation-event.v1"

def maxEnvelopeBytes : Nat := 64 * 1024

/-! ## Metadata -/

/-- `value ?? other` -/
def orElse (value : Option Json) (other : Json) : Json :=
  match value with
  | none => other
  | some .null => other
  | some value => value

structure EventMetadataOptions where
  causationId : Option Json := none
  ruleId : Option Json := none
  executionId : Option Json := none
  traceId : Option Json := none
  depth : Option Json := none

def newEventMetadata (eventId : String) (now : Nat) (source : Json)
    (opts : EventMetadataOptions := {}) : EventMetadata where
  eventId
  timestamp := now
  source := some source
  causationId := AutomationEngine.whenTruthy opts.causationId
  ruleId := AutomationEngine.whenTruthy opts.ruleId
  executionId := AutomationEngine.whenTruthy opts.executionId
  traceId := some (orElse opts.traceId (.str eventId))
  depth := some (orZero opts.depth)

/-! ## Names -/

/-- `/^[A-Za-z0-9_.-]+$/` -/
def isEventSegment (segment : String) : Bool :=
  segment ≠ "" && segment ≠ "." && segment ≠ ".." &&
    segment.toList.all fun c => c.isAlphanum || c = '_' || c = '.' || c = '-'

def isValidEventName : Json → Bool
  | .str name =>
      1 ≤ utf16Length name && utf16Length name ≤ 128 &&
        name.toList.head? ≠ some '/' && name.toList.getLast? ≠ some '/' &&
        (split name '/').all isEventSegment
  | _ => false

example : isValidEventName (.str "pump/started") = true := by decide
example : isValidEventName (.str "pump/../x") = false := by decide

/-! ## Envelopes -/

/-- An ingested `meta.sharedState` is read by scripts only. -/
def EventMetadata.toJson (metadata : EventMetadata) : Json :=
  .ofPresent
    [("eventId", some (.str metadata.eventId)), ("timestamp", some (.num metadata.timestamp)),
      ("source", metadata.source), ("causationId", metadata.causationId),
      ("ruleId", metadata.ruleId), ("executionId", metadata.executionId),
      ("traceId", metadata.traceId), ("depth", metadata.depth)]

def AutomationEventEnvelope.toJson (envelope : AutomationEventEnvelope) : Json :=
  .ofPresent
    [("schema", some (.str automationEventSchema)), ("name", some (.str envelope.name)),
      ("payload", envelope.payload), ("meta", some envelope.metadata.toJson)]

/-- The metadata is taken as it is, once it has an event id and a time. -/
def parseEventMetadata (metadata : Json) : Option EventMetadata :=
  match metadata.property "eventId", metadata.property "timestamp" with
  | some (.str eventId), some (.num timestamp) =>
      some
        { eventId
          timestamp
          source := metadata.property "source"
          causationId := metadata.property "causationId"
          ruleId := metadata.property "ruleId"
          executionId := metadata.property "executionId"
          traceId := metadata.property "traceId"
          depth := metadata.property "depth" }
  | _, _ => none

def parseAutomationEventEnvelope (message : Json) : Option AutomationEventEnvelope :=
  match message.property "schema", message.property "name", message.property "meta" with
  | some (.str schema), some (.str name), some metadata =>
      if schema = automationEventSchema ∧ isValidEventName (.str name) = true then
        (parseEventMetadata metadata).map fun metadata =>
          { name, payload := message.property "payload", metadata }
      else none
  | _, _, _ => none

theorem parseEventMetadata_toJson {metadata : EventMetadata} (plain : metadata.sharedState = none) :
    parseEventMetadata metadata.toJson = some metadata := by
  obtain ⟨eventId, timestamp, source, causationId, ruleId, executionId, traceId, depth, shared⟩ :=
    metadata
  obtain rfl : shared = none := plain
  have names : ["eventId", "timestamp", "source", "causationId", "ruleId", "executionId", "traceId",
      "depth"].Nodup := by decide
  have field : ∀ {name : String} {value : Option Json},
      (name, value) ∈
        [("eventId", some (.str eventId)), ("timestamp", some (.num timestamp)), ("source", source),
          ("causationId", causationId), ("ruleId", ruleId), ("executionId", executionId),
          ("traceId", traceId), ("depth", depth)] →
      (EventMetadata.toJson ⟨eventId, timestamp, source, causationId, ruleId, executionId, traceId,
        depth, none⟩).property name = value := by
    intro name value mem
    refine Json.property_ofPresent ?_ mem
    exact names
  have eventIdField := @field "eventId" (some (.str eventId)) (by simp)
  have timestampField := @field "timestamp" (some (.num timestamp)) (by simp)
  simp only [parseEventMetadata, eventIdField, timestampField, @field "source" source (by simp),
    @field "causationId" causationId (by simp), @field "ruleId" ruleId (by simp),
    @field "executionId" executionId (by simp), @field "traceId" traceId (by simp),
    @field "depth" depth (by simp)]

/-- What is emitted is read back as it was. -/
theorem parse_toJson {envelope : AutomationEventEnvelope}
    (valid : isValidEventName (.str envelope.name) = true)
    (plain : envelope.metadata.sharedState = none) (fresh : envelope.cause = none) :
    parseAutomationEventEnvelope envelope.toJson = some envelope := by
  obtain ⟨name, payload, metadata, cause⟩ := envelope
  obtain rfl : cause = none := fresh
  have names : ["schema", "name", "payload", "meta"].Nodup := by decide
  have field : ∀ {key : String} {value : Option Json},
      (key, value) ∈
        [("schema", some (.str automationEventSchema)), ("name", some (.str name)),
          ("payload", payload), ("meta", some metadata.toJson)] →
      (AutomationEventEnvelope.toJson ⟨name, payload, metadata, none⟩).property key = value := by
    intro key value mem
    refine Json.property_ofPresent ?_ mem
    exact names
  have schemaField := @field "schema" (some (.str automationEventSchema)) (by simp)
  have nameField := @field "name" (some (.str name)) (by simp)
  have metaField := @field "meta" (some metadata.toJson) (by simp)
  have payloadField := @field "payload" payload (by simp)
  simp only [parseAutomationEventEnvelope, schemaField, nameField, metaField]
  rw [if_pos ⟨trivial, valid⟩, parseEventMetadata_toJson plain, payloadField]
  rfl

/-! ## Emitting -/

/-- What the host gives an execution that calls it. -/
structure Host where
  executionId : String
  uuid : String
  now : Nat
  scope : Auth.AuthorizationScope := .unrestricted
  dataStoreEnabled : Bool := true
  /-- `mqttService.publish` throws without a connection -/
  publish : Except String Unit := .ok ()
  around : Surroundings

/-- The depth of what an execution makes: one more than its trigger's. -/
def nextDepth (coercion : Coercion) (context : EventContext) : Json :=
  coercion.plusOne (orZero (context.metadata.bind EventMetadata.depth))

def emittedEnvelope (coercion : Coercion) (execution : RuleExecution) (host : Host) (name : String)
    (payload : Option Json) : AutomationEventEnvelope where
  name
  payload
  metadata :=
    let trigger := execution.context.metadata
    newEventMetadata host.uuid host.now
      (.obj [("kind", .str "automation"), ("id", .str execution.ruleId)])
      { causationId := AutomationEngine.whenTruthy (trigger.map (.str ·.eventId))
        ruleId := some (.str execution.ruleId)
        executionId := AutomationEngine.whenTruthy (some (.str host.executionId))
        traceId := AutomationEngine.whenTruthy (trigger.bind EventMetadata.traceId)
        depth := some (nextDepth coercion execution.context) }

/-- The topic and the message that are published, or why they are not. -/
def emit (coercion : Coercion) (stringify : Json → String) (execution : RuleExecution)
    (host : Host) (eventName : Json) (payload : Option Json) : Except String (String × Json) :=
  if execution.ruleId = "" then .error "No active automation execution context"
  else
    match eventName with
    | .str name =>
        if isValidEventName (.str name) = false then .error "Invalid event name"
        else if coercion.exceeds maxEventDepth (nextDepth coercion execution.context) then
          .error "Maximum automation-event depth reached"
        else
          let message := (emittedEnvelope coercion execution host name payload).toJson
          if utf16Length (stringify message) > maxEnvelopeBytes then
            .error "Automation event too large"
          else
            match host.publish with
            | .error reason => .error reason
            | .ok () =>
                .ok (reservedEventNamespace ++ "/" ++ execution.ruleId ++ "/" ++ name, message)
    | _ => .error "Invalid event name"

section Emitted

variable {coercion : Coercion} {stringify : Json → String} {execution : RuleExecution} {host : Host}
  {eventName : Json} {payload : Option Json} {topic : String} {message : Json}

/-- What is published is the envelope of a valid name, within the bounds. -/
theorem emit_published
    (emitted : emit coercion stringify execution host eventName payload = .ok (topic, message)) :
    coercion.exceeds maxEventDepth (nextDepth coercion execution.context) = false ∧
      ∃ name, eventName = .str name ∧ isValidEventName (.str name) = true ∧
        topic = reservedEventNamespace ++ "/" ++ execution.ruleId ++ "/" ++ name ∧
        message = (emittedEnvelope coercion execution host name payload).toJson ∧
        utf16Length (stringify message) ≤ maxEnvelopeBytes := by
  unfold emit at emitted
  split at emitted
  · cases emitted
  cases eventName with
  | str name =>
      simp only at emitted
      split at emitted
      · cases emitted
      rename_i valid
      split at emitted
      · cases emitted
      rename_i shallow
      split at emitted
      · cases emitted
      rename_i small
      split at emitted
      · cases emitted
      · cases emitted
        exact ⟨Bool.eq_false_of_not_eq_true shallow, name, rfl, Bool.eq_true_of_not_eq_false valid,
          rfl, rfl, Nat.le_of_not_lt small⟩
  | _ => cases emitted

/-- An event is published with the depth after its trigger's, which has not run out. -/
theorem emit_ok
    (emitted : emit coercion stringify execution host eventName payload = .ok (topic, message)) :
    coercion.exceeds maxEventDepth (nextDepth coercion execution.context) = false ∧
      ∃ name, parseAutomationEventEnvelope message =
        some (emittedEnvelope coercion execution host name payload) := by
  obtain ⟨shallow, name, -, valid, -, rfl, -⟩ := emit_published emitted
  exact ⟨shallow, name, parse_toJson valid rfl rfl⟩

end Emitted

end Aeolus.Automations
