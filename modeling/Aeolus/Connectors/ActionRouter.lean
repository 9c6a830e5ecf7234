/-
# Aeolus.Connectors.ActionRouter — where a device action goes

`src/connectors/action-router.ts`, up to the call that leaves the process: an action is
answered by the router itself, published on an MQTT command topic, or handed to the
`execute` of the connector instance that owns the device.  The router checks the action
type and its parameters against the device's catalog; it never changes either
(`executeAction_sent`).

Connectors are code of their own: an instance is its catalog.  `showNumber` and
`stringify` are `String(n)` and `JSON.stringify`.
-/
import Aeolus.Automations.CommandService
import Aeolus.Core.DeviceRegistry

namespace Aeolus.Connectors

open Aeolus.Core Aeolus.Theory Aeolus.Automations

structure Action where
  type : String
  deviceId : String
  params : JsonObject

/-! ## Catalogs -/

structure FieldSchema where
  minimum : Option ℚ := none
  maximum : Option ℚ := none

/-- The parts of a JSON schema that are checked. -/
structure ParamSchema where
  required : List String := []
  properties : List (String × FieldSchema) := []

structure CapabilityDescriptor where
  type : String
  label : String
  description : String
  params : ParamSchema := {}

/-- The actions of a device whose connector declares none. -/
def capabilityActionMap : String → List CapabilityDescriptor
  | "on/off" =>
      [{ type := "toggle", label := "Toggle", description := "Toggle the device on or off" },
        { type := "on", label := "Turn On", description := "Turn the device on" },
        { type := "off", label := "Turn Off", description := "Turn the device off" }]
  | "brightness" =>
      [{ type := "brightness", label := "Set Brightness"
         description := "Set brightness level as a percentage (0–100). " ++
           "Connectors translate to their device-native scale."
         params :=
          { required := ["brightness"]
            properties := [("brightness", { minimum := some 0, maximum := some 100 })] } }]
  | "color" =>
      [{ type := "color", label := "Set Color", description := "Set hue and saturation"
         params :=
          { required := ["hue", "saturation"]
            properties := [("hue", { minimum := some 0, maximum := some 65535 }),
              ("saturation", { minimum := some 0, maximum := some 254 })] } }]
  | "color-temp" =>
      [{ type := "color-temp", label := "Set Color Temperature"
         description := "Set color temperature in mireds"
         params := { required := ["ct"], properties := [("ct", {})] } }]
  | "energy-monitoring" =>
      [{ type := "read-energy", label := "Read Energy"
         description := "Read current power consumption data" }]
  | _ => []

def mqttCommandDescriptor : CapabilityDescriptor where
  type := "command"
  label := "Send Command"
  description := "Publish a command payload to the device's command topic"
  params := { properties := [("payload", {})] }

/-! ## The router -/

/-- An enabled connector; `catalog` is its own `getActionCatalog`. -/
structure ManagedInstance where
  connectorType : String
  catalog : String → Option (List CapabilityDescriptor) := fun _ => none

structure ActionRouter where
  instances : OrderedMap String ManagedInstance := .empty
  registry : DeviceRegistry := {}
  /-- `getActionCatalog` of a connector's module -/
  moduleCatalog : String → Device → Option (List CapabilityDescriptor) := fun _ _ => none
  mqttConnected : Bool := false
  showNumber : ℚ → String
  stringify : Json → String

structure MqttMessage where
  topic : String
  payload : String
  correlation : Option CommandCorrelation := none
  qos : Option Nat := none

/-- What becomes of an action. -/
inductive Dispatch where
  | answered (result : ActionResult)
  | published (message : MqttMessage)
  | sent (instanceId : String) (action : Action)

def failure (error : String) (kind : CommandFailureKind) : Dispatch :=
  .answered { success := false, error := some error, failureKind := some kind }

namespace ActionRouter

variable (router : ActionRouter)

/-- The recorded owner when there is one, enabled or not; else the first instance of the
device's type. -/
def resolveOwningInstance (device : Device) : Option (String × ManagedInstance) :=
  match truthy device.connectorInstanceId with
  | some id => (router.instances.get id).map fun instance_ => (id, instance_)
  | none => router.instances.entries.find? fun entry => entry.2.connectorType = device.integration

def resolveActionCatalog (device : Device) : Option (List CapabilityDescriptor) :=
  let declared := (router.resolveOwningInstance device).bind fun (_, owner) =>
    owner.catalog device.id <|> router.moduleCatalog owner.connectorType device
  let inferred := device.capabilities.flatMap capabilityActionMap
  match declared with
  | some catalog => some catalog
  | none =>
      if device.integration = "mqtt" then some (inferred ++ [mqttCommandDescriptor])
      else if inferred.isEmpty then none
      else some inferred

/-- The first required field that is missing or out of range. -/
def validateParams (deviceId actionType : String) (descriptor : CapabilityDescriptor)
    (params : JsonObject) : Option String :=
  let invalid (field problem : String) : String :=
    "Device '" ++ deviceId ++ "' action '" ++ actionType ++ "': invalid param '" ++ field ++
      "': " ++ problem
  descriptor.params.required.findSome? fun field =>
    match params.get field with
    | none => some (invalid field "required field missing")
    | some .null => some (invalid field "required field missing")
    | some (.num value) =>
        match descriptor.params.properties.find? fun entry => entry.1 = field with
        | none => none
        | some (_, schema) =>
            match schema.minimum.filter (value < ·), schema.maximum.filter (· < value) with
            | some minimum, _ =>
                some (invalid field ("value " ++ router.showNumber value ++ " is below minimum " ++
                  router.showNumber minimum))
            | none, some maximum =>
                some (invalid field ("value " ++ router.showNumber value ++ " exceeds maximum " ++
                  router.showNumber maximum))
            | none, none => none
    | some _ => none

/-- A state field that is a text. -/
def stateText (device : Device) (field : String) : Option String :=
  (device.state.get field).bind Json.asString

/-- The explicit command topic, or the state topic with its last segment replaced. -/
def commandTopic (device : Device) : String :=
  match device.commandTopic <|> stateText device "commandTopic" with
  | some explicit => explicit
  | none =>
      match truthy (device.topic <|> stateText device "topic") with
      | some topic => String.intercalate "/" ((split topic '/').dropLast ++ ["set"])
      | none => device.id ++ "/set"

def mqttPayload (action : Action) (correlation : Option CommandCorrelation) : String :=
  let own : Json := .obj action.params.entries
  match correlation with
  | some correlation =>
      let base :=
        match action.params.get "payload" with
        | some (.obj fields) => Json.spread (.obj fields)
        | some (.arr items) => Json.spread (.arr items)
        | _ => action.params
      let mirrored := (base.set "correlationId" (.str correlation.correlationId)).set
        "responseTopic" (.str correlation.responseTopic)
      router.stringify (.obj mirrored.entries)
  | none =>
      match action.params.get "payload" with
      | some (.str text) => text
      | some payload => router.stringify payload
      | none => router.stringify own

def executeMqttAction (device : Device) (action : Action)
    (correlation : Option CommandCorrelation) : Dispatch :=
  if router.mqttConnected then
    .published
      { topic := commandTopic device
        payload := router.mqttPayload action correlation
        correlation := correlation
        qos := device.mqttCommandProfile.bind MqttCommandProfile.qos }
  else failure "MQTT broker not connected" .transport

/-- The pre-flight check: why the catalog refuses the action. -/
def preflight (device : Device) (deviceId : String) (action : Action) :
    Option (String × CommandFailureKind) :=
  (router.resolveActionCatalog device).bind fun catalog =>
    match catalog.find? fun descriptor => descriptor.type = action.type with
    | none =>
        let supported := String.intercalate ", " (catalog.map CapabilityDescriptor.type)
        some ("Device '" ++ deviceId ++ "': unsupported action '" ++ action.type ++
          "'. Supported: " ++ (if supported = "" then "(none)" else supported), .unsupported)
    | some descriptor =>
        (router.validateParams deviceId action.type descriptor action.params).map fun error =>
          (error, .invalidParams)

def executeAction (deviceId : String) (action : Action)
    (correlation : Option CommandCorrelation := none) : Dispatch :=
  match router.registry.getById deviceId with
  | none => failure ("Device '" ++ deviceId ++ "' not found") .notFound
  | some device =>
      match router.preflight device deviceId action with
      | some (error, kind) => failure error kind
      | none =>
          if device.integration = "mqtt" then router.executeMqttAction device action correlation
          else
            match router.resolveOwningInstance device with
            | some (instanceId, _) => .sent instanceId action
            | none =>
                match truthy device.connectorInstanceId with
                | some owner =>
                    failure ("Owning connector instance '" ++ owner ++ "' for device '" ++
                      deviceId ++ "' is not enabled") .transport
                | none =>
                    failure ("No enabled connector found for device '" ++ deviceId ++
                      "' (integration: '" ++ device.integration ++ "')") .transport

/-- A connector gets the action as it came. -/
theorem executeAction_sent {router : ActionRouter} {deviceId instanceId : String}
    {action received : Action} {correlation : Option CommandCorrelation}
    (sent : router.executeAction deviceId action correlation = .sent instanceId received) :
    received = action := by
  unfold executeAction at sent
  split at sent
  · cases sent
  · split at sent
    · cases sent
    · split at sent
      · unfold executeMqttAction at sent
        split at sent <;> cases sent
      · split at sent
        · cases sent
          rfl
        · split at sent <;> cases sent

end ActionRouter

end Aeolus.Connectors
