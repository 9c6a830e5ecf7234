/-
# Aeolus.Core.DeviceRegistry — the merged state of every device

`src/core/device-registry.ts`: the in-memory map of devices, and the index from
MQTT state topics to device ids.  An update is merged field by field into the state
that is there.  An id for an MQTT topic is found through the index, or taken from
the topic's slug, or, when the slug belongs to another device, extended by a hash of
the topic; `resolveMqttDeviceId` is partial because it throws when every extension
is taken.

`Platform` holds the library functions whose results nothing here depends on.
-/
import Aeolus.Core.Json
import Aeolus.Core.Text

namespace Aeolus.Core

open Aeolus.Theory

structure Platform where
  /-- `createHash("sha256").update(text).digest("hex")` -/
  sha256 : String → String
  /-- `JSON.parse`; `none` when it throws -/
  jsonParse : String → Option Json
  /-- `Number(text)`; `none` when it is `NaN` -/
  number : String → Option Json
  trim : String → String
  toLowerCase : String → String
  /-- the first character in upper case, the rest as it is -/
  titleCase : String → String

structure MqttAcknowledgement where
  supported : Bool
  responseTopic : Option String := none
  ackIndicatorField : Option String := none
  ackIndicatorValues : Option (List String) := none
  deriving DecidableEq

structure MqttCommandProfile where
  qos : Option Nat := none
  acknowledgement : Option MqttAcknowledgement := none
  deriving DecidableEq

structure Device where
  id : String
  name : String
  type : String
  capabilities : List String
  state : JsonObject
  integration : String
  connectorInstanceId : Option String := none
  lastSeen : Nat
  topic : Option String := none
  commandTopic : Option String := none
  mqttCommandProfile : Option MqttCommandProfile := none

structure NormalizedEvent where
  deviceId : String
  deviceType : String
  state : JsonObject
  topic : String
  timestamp : Nat
  integration : Option String := none
  connectorInstanceId : Option String := none
  name : Option String := none
  capabilities : Option (List String) := none
  commandTopic : Option String := none

structure DeviceRegistry where
  devices : OrderedMap String Device := .empty
  mqttDeviceIdsByTopic : OrderedMap String String := .empty

namespace DeviceRegistry

def getById (r : DeviceRegistry) (id : String) : Option Device := r.devices.get id

def getByMqttTopic (r : DeviceRegistry) (topic : String) : Option Device :=
  (truthy (r.mqttDeviceIdsByTopic.get topic)).bind r.devices.get

def hashLengths : List Nat := [12, 16, 20, 24, 32, 64]

def hashedId (platform : Platform) (topic legacyDeviceId : String) (length : Nat) : String :=
  "mqtt-" ++ legacyDeviceId ++ "-" ++ String.ofList ((platform.sha256 topic).toList.take length)

def resolveMqttDeviceId (platform : Platform) (r : DeviceRegistry) (topic legacyDeviceId : String) :
    Option String :=
  match r.getByMqttTopic topic with
  | some device => some device.id
  | none =>
      let readable :=
        match r.devices.get legacyDeviceId with
        | none => true
        | some legacy => legacy.integration = "mqtt" ∧ truthy legacy.topic = none
      if readable then some legacyDeviceId
      else
        (hashLengths.map (hashedId platform topic legacyDeviceId)).find? fun candidate =>
          match r.devices.get candidate with
          | none => true
          | some existing => existing.topic = some topic

/-- Strip the first segment, title-case the others. -/
def deriveNameFromId (platform : Platform) (deviceId : String) : String :=
  let name := String.intercalate " " (((split deviceId '-').drop 1).map platform.titleCase)
  if name = "" then deviceId else name

def inferCapabilities : String → List String
  | "light" => ["on/off", "brightness"]
  | "switch" => ["on/off"]
  | "sensor" => ["temperature"]
  | "climate" => ["temperature", "humidity"]
  | "plug" => ["on/off", "energy-monitoring"]
  | "valve" => ["on/off"]
  | "pump" => ["on/off"]
  | "fan" => ["on/off", "speed"]
  | "lock" => ["lock/unlock"]
  | "motion" => ["motion-detection"]
  | _ => []

def indexTopic (index : OrderedMap String String) (device : Device) : OrderedMap String String :=
  match truthy device.topic with
  | some topic => if device.integration = "mqtt" then index.set topic device.id else index
  | none => index

/-- The device an event makes of the one that is there. -/
def merged (platform : Platform) (event : NormalizedEvent) (integration deviceId : String) :
    Option Device → Device
  | some existing =>
      { existing with
        state := existing.state.merge event.state
        capabilities := event.capabilities.getD existing.capabilities
        lastSeen := event.timestamp
        topic := if integration = "mqtt" then some event.topic else existing.topic
        commandTopic := truthy event.commandTopic <|> existing.commandTopic
        connectorInstanceId := truthy event.connectorInstanceId <|> existing.connectorInstanceId }
  | none =>
      { id := deviceId
        name := event.name.getD (deriveNameFromId platform deviceId)
        type := event.deviceType
        capabilities := event.capabilities.getD (inferCapabilities event.deviceType)
        state := event.state
        integration := integration
        lastSeen := event.timestamp
        topic := if integration = "mqtt" then some event.topic else none
        commandTopic := truthy event.commandTopic
        connectorInstanceId := truthy event.connectorInstanceId }

/-- The updated device and the registry; `none` when the id cannot be resolved. -/
def upsert (platform : Platform) (r : DeviceRegistry) (event : NormalizedEvent) :
    Option (Device × DeviceRegistry) :=
  let integration := (truthy event.integration).getD "mqtt"
  let resolved :=
    if integration = "mqtt" then r.resolveMqttDeviceId platform event.topic event.deviceId
    else some event.deviceId
  resolved.map fun deviceId =>
    let device := merged platform event integration deviceId (r.devices.get deviceId)
    (device,
      { devices := r.devices.set device.id device
        mqttDeviceIdsByTopic := indexTopic r.mqttDeviceIdsByTopic device })

/-- `true` when there was such a device. -/
def remove (r : DeviceRegistry) (id : String) : Bool × DeviceRegistry :=
  match r.devices.get id with
  | none => (false, r)
  | some device =>
      (true,
        { devices := r.devices.delete id
          mqttDeviceIdsByTopic :=
            match truthy device.topic with
            | some topic =>
                if device.integration = "mqtt" then r.mqttDeviceIdsByTopic.delete topic
                else r.mqttDeviceIdsByTopic
            | none => r.mqttDeviceIdsByTopic })

def registerDevice (r : DeviceRegistry) (device : Device) : DeviceRegistry :=
  { devices := r.devices.set device.id device
    mqttDeviceIdsByTopic := indexTopic r.mqttDeviceIdsByTopic device }

/-- Set or clear the command profile; `none` when there is no such device. -/
def setMqttCommandProfile (r : DeviceRegistry) (id : String) (profile : Option MqttCommandProfile) :
    Option (Device × DeviceRegistry) :=
  (r.devices.get id).map fun existing =>
    let updated := { existing with mqttCommandProfile := profile }
    (updated, { r with devices := r.devices.set id updated })

end DeviceRegistry

theorem upsert_devices {platform : Platform} {r registry : DeviceRegistry}
    {event : NormalizedEvent} {device : Device}
    (updated : r.upsert platform event = some (device, registry)) :
    registry.devices = r.devices.set device.id device := by
  unfold DeviceRegistry.upsert at updated
  obtain ⟨deviceId, _, same⟩ := Option.map_eq_some_iff.mp updated
  cases same
  rfl

/-- What an update makes of the device that is there. -/
theorem upsert_merged {platform : Platform} {r registry : DeviceRegistry}
    (keyed : r.devices.KeyedBy Device.id) {event : NormalizedEvent} {device : Device}
    (updated : r.upsert platform event = some (device, registry)) :
    device = DeviceRegistry.merged platform event ((truthy event.integration).getD "mqtt")
      device.id (r.devices.get device.id) := by
  unfold DeviceRegistry.upsert at updated
  obtain ⟨deviceId, _, same⟩ := Option.map_eq_some_iff.mp updated
  cases same
  have under : (DeviceRegistry.merged platform event ((truthy event.integration).getD "mqtt")
      deviceId (r.devices.get deviceId)).id = deviceId := by
    cases found : r.devices.get deviceId with
    | none => rfl
    | some old => exact keyed deviceId old found
  rw [under]

/-- A field of the event wins over the device's, which keeps the others. -/
theorem upsert_state {platform : Platform} {r registry : DeviceRegistry}
    (keyed : r.devices.KeyedBy Device.id) {event : NormalizedEvent} {device : Device}
    (updated : r.upsert platform event = some (device, registry)) (key : String) :
    device.state.get key =
      (event.state.get key).or ((r.devices.get device.id).bind (·.state.get key)) := by
  have built := upsert_merged keyed updated
  cases found : r.devices.get device.id with
  | none =>
      rw [found] at built
      rw [built]
      exact Option.or_none.symm
  | some old =>
      rw [found] at built
      rw [built]
      exact JsonObject.get_merge _ _ _

theorem DeviceRegistry.get_remove (r : DeviceRegistry) (id k : String) :
    (r.remove id).2.devices.get k = if k = id then none else r.devices.get k := by
  unfold DeviceRegistry.remove
  split
  · rename_i absent
    split
    · rename_i same
      rw [same, absent]
    · rfl
  · exact OrderedMap.get_delete _ _ _

end Aeolus.Core
