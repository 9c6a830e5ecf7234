/-
# Aeolus.Mqtt.MqttService — from a message to the registry and the tracker

`handleMessage` of `src/mqtt/mqtt-service.ts`, with `parseTopic` of
`src/mqtt/topic-parser.ts`.  A message on the acknowledgement space becomes a reply
for the tracker; one on the automation event space or on an ignored leaf goes no
further here; every other message is device state.  Device state takes two ways at
once: as a `DEVICE_STATE_CHANGE` event, whose listener in `src/index.ts` merges it
into the registry, and, as it came, to the tracker's `observeState`.

The other sources of that event, `emitDeviceEvent` of the connector manager and the
trigger route, take the first way only.
-/
import Aeolus.Core.DeviceRegistry
import Aeolus.Automations.PendingCommandTracker

namespace Aeolus.Mqtt

open Aeolus.Theory
open Aeolus.Core
open Aeolus.Automations

/-! ## Topics and payloads -/

structure ParsedTopic where
  deviceId : String
  deviceType : String
  name : String
deriving DecidableEq

def knownTypes : List String :=
  ["sensor", "switch", "light", "climate", "plug", "valve", "pump", "motion", "fan", "lock",
    "cover"]

def segments (topic : String) : List String := (split topic '/').filter (· ≠ "")

def parseTopic (platform : Platform) (topic : String) : Option ParsedTopic :=
  match segments topic with
  | [] => none
  | first :: rest =>
      let deviceType := platform.toLowerCase first
      some
        { deviceId := String.intercalate "-" (first :: rest)
          deviceType := deviceType
          name :=
            if rest = [] then platform.titleCase first
            else if deviceType ∈ knownTypes then
              String.intercalate " " (rest.map platform.titleCase)
            else String.intercalate " " ((first :: rest).map platform.titleCase) }

structure MqttServiceConfig where
  ackTopicFilter : Option String := none
  discoveryIgnoredTopicSuffixes : List String := []
  automationEventTopicFilter : Option String := none

/-- The topic is in the space of the filter, a trailing `/#` taken off. -/
def inSpace (filter : Option String) (topic : String) : Bool :=
  match truthy filter with
  | none => false
  | some filter =>
      let space := if "/#".toList.isSuffixOf filter.toList then filter.toList.dropLast
        else filter.toList
      space.isPrefixOf topic.toList

def isAckTopic (config : MqttServiceConfig) (topic : String) : Bool :=
  inSpace config.ackTopicFilter topic

def isAutomationEventTopic (config : MqttServiceConfig) (topic : String) : Bool :=
  inSpace config.automationEventTopicFilter topic

def isIgnoredDiscoveryTopic (platform : Platform) (config : MqttServiceConfig) (topic : String) :
    Bool :=
  match (segments topic).getLast? with
  | none => false
  | some leaf =>
      config.discoveryIgnoredTopicSuffixes.any fun suffix =>
        platform.toLowerCase suffix = platform.toLowerCase leaf

/-- A JSON object's fields; a name given twice keeps its last value. -/
def ofFields (fields : List (String × Json)) : JsonObject :=
  fields.foldl (fun state field => state.set field.1 field.2) .empty

def ofValue (value : Json) : JsonObject := OrderedMap.empty.set "value" value

/-- What a payload says of the device; `none` for an empty one. -/
def normalizePayload (platform : Platform) (raw : String) : Option JsonObject :=
  match platform.jsonParse raw with
  | some (.obj fields) => some (ofFields fields)
  | some value => some (ofValue value)
  | none =>
      if platform.trim raw = "" then none
      else
        match platform.number raw with
        | some value => some (ofValue value)
        | none => some (ofValue (.str (platform.trim raw)))

/-- The MQTT 5 property wins over the payload's field; an empty one is none. -/
def resolveCorrelationId (correlationData payloadCorrelationId : Option String) : Option String :=
  truthy correlationData <|> truthy payloadCorrelationId

/-- The reply a response-topic message carries, if it names a command. -/
def ackMessage (platform : Platform) (raw : String) (correlationData : Option String) :
    Option AckMessage :=
  let payload : JsonObject :=
    match platform.jsonParse raw with
    | some (.obj fields) => ofFields fields
    | _ => .empty
  let text (field : String) : Option String := (payload.get field).bind Json.asString
  (resolveCorrelationId correlationData (text "correlationId")).map fun correlationId =>
    { correlationId := correlationId
      success :=
        match payload.get "success" with
        | some (.bool success) => some success
        | _ => none
      error := text "error"
      status := text "status"
      payload := some payload
      state :=
        match payload.get "state" with
        | some (.obj fields) => some (ofFields fields)
        | _ => none }

/-! ## The hub -/

/-- What the ingestion paths write to. -/
structure Hub where
  registry : DeviceRegistry := {}
  tracker : PendingCommandTracker := {}

inductive HubEvent where
  | message (topic raw : String) (correlationData : Option String) (now : Nat)
  | connectorDevice (device : Device) (instanceId : Option String) (now : Nat)
  | trigger (name : String) (body : Json) (now : Nat)
  | registerDevice (device : Device)
  | removeDevice (id : String)
  | register (command : PendingCommand)
  | cancel (correlationId : String)
  | timer (correlationId : String)

namespace Hub

section Ingestion

variable (platform : Platform) (config : MqttServiceConfig)

/-- The `DEVICE_STATE_CHANGE` listener of `src/index.ts`. -/
def emit (h : Hub) (event : NormalizedEvent) : Option Hub :=
  (h.registry.upsert platform event).map fun updated => { h with registry := updated.2 }

/-- The event `handleMessage` makes of device state. -/
def deviceEvent (h : Hub) (topic raw : String) (now : Nat) : Option NormalizedEvent := do
  let parsed ← parseTopic platform topic
  let state ← normalizePayload platform raw
  let deviceId ← h.registry.resolveMqttDeviceId platform topic parsed.deviceId
  return { deviceId := deviceId
           deviceType := parsed.deviceType
           state := state
           topic := topic
           timestamp := now
           name := some parsed.name }

/-- Device state: to the registry through the event bus, then to the tracker.  An id
that cannot be resolved throws before either. -/
def handleState (h : Hub) (topic raw : String) (now : Nat) : Hub :=
  match h.deviceEvent platform topic raw now with
  | none => h
  | some event =>
      match h.emit platform event with
      | none => h
      | some h' => { h' with tracker := h'.tracker.observeState event.deviceId event.state }

def handleMessage (h : Hub) (topic raw : String) (correlationData : Option String) (now : Nat) :
    Hub :=
  if isAckTopic config topic then
    match ackMessage platform raw correlationData with
    | none => h
    | some message => { h with tracker := h.tracker.route message now }
  else if isAutomationEventTopic config topic then h
  else if isIgnoredDiscoveryTopic platform config topic then h
  else h.handleState platform topic raw now

/-- `emitDeviceEvent` of the connector manager. -/
def connectorEvent (device : Device) (instanceId : Option String) (now : Nat) : NormalizedEvent :=
  { deviceId := device.id
    deviceType := device.type
    state := device.state
    topic := "connector/" ++ device.integration ++ "/" ++ device.id
    timestamp := if device.lastSeen = 0 then now else device.lastSeen
    integration := some device.integration
    capabilities := some device.capabilities
    connectorInstanceId := truthy (instanceId <|> device.connectorInstanceId) }

/-- `POST /api/automations/trigger/:name`. -/
def triggerEvent (name : String) (body : Json) (now : Nat) : NormalizedEvent :=
  { deviceId := "service-trigger"
    deviceType := "sensor"
    state := ofFields [("triggerName", .str name), ("payload", body), ("firedAt", .num now)]
    topic := "service/trigger/" ++ name
    timestamp := now
    integration := some "service" }

def step (h : Hub) : HubEvent → Hub
  | .message topic raw correlationData now =>
      h.handleMessage platform config topic raw correlationData now
  | .connectorDevice device instanceId now =>
      (h.emit platform (connectorEvent device instanceId now)).getD h
  | .trigger name body now => (h.emit platform (triggerEvent name body now)).getD h
  | .registerDevice device => { h with registry := h.registry.registerDevice device }
  | .removeDevice id => { h with registry := (h.registry.remove id).2 }
  | .register command => { h with tracker := h.tracker.register command }
  | .cancel correlationId => { h with tracker := h.tracker.cancel correlationId }
  | .timer correlationId => { h with tracker := h.tracker.timer correlationId }

end Ingestion

end Hub

end Aeolus.Mqtt
