/-
# Aeolus.Connectors.Contributions — the handlers that connector modules contribute

`registerHandler` / `unregisterHandler` of `src/automations/command-service.ts`,
`src/automations/condition-registry.ts`, and the two functions of
`src/connectors/connector-manager.ts` that fill them, `registerContributions` and
`unregisterContributions`.  The handlers of a connector type are registered with its
first active instance and taken away with its last, by a count for each type.

A handler is code of its module.  What it does to devices goes through
`ConnectorManager.executeAction`, so it is modelled by the calls it makes there.
-/
import Aeolus.Automations.AutomationEngine
import Aeolus.Connectors.ActionRouter

namespace Aeolus.Connectors

open Aeolus.Core Aeolus.Theory Aeolus.Automations

/-! ## Handlers -/

/-- A call of `ConnectorManager.executeAction`. -/
structure DeviceCall where
  deviceId : String
  action : Action
  correlation : Option CommandCorrelation := none

/-- The calls of `executeAction` that a handler makes for an action. -/
def ActionHandler := ActionDescriptor → List DeviceCall

/-- The handlers of `CommandService` and the action types that count as physical. -/
structure CommandHandlers where
  handlers : OrderedMap String ActionHandler := .empty
  physicalActionTypes : Finset String := ∅

namespace CommandHandlers

def registerHandler (service : CommandHandlers) (type : String) (handler : ActionHandler)
    (physical : Option Bool := none) : CommandHandlers where
  handlers := service.handlers.set type handler
  physicalActionTypes :=
    if physical.getD (type = "toggle" ∨ type = "device_action") then
      insert type service.physicalActionTypes
    else service.physicalActionTypes.erase type

def unregisterHandler (service : CommandHandlers) (type : String) : CommandHandlers where
  handlers := service.handlers.delete type
  physicalActionTypes := service.physicalActionTypes.erase type

def has (service : CommandHandlers) (type : String) : Bool := service.handlers.has type

/-- The calls that the registered handler of an action makes. -/
def calls (service : CommandHandlers) (action : ActionDescriptor) : List DeviceCall :=
  (service.handlers.get action.type).elim [] fun handler => handler action

end CommandHandlers

def ConditionFactory := String → EventContext → Bool

/-! ## Modules -/

structure ConnectorActionContribution where
  handler : ActionHandler
  physical : Bool

structure ConnectorModule where
  actionHandlers : List (String × ConnectorActionContribution) := []
  conditions : List (String × ConditionFactory) := []

/-- `hue_scene`: the action `scene` on the target, without the correlation. -/
def hueScene : ActionHandler := fun action =>
  let sceneName := ((action.params.get "sceneName").bind Json.asString).getD "unknown"
  [{ deviceId := action.target
     action :=
      { type := "scene", deviceId := action.target
        params := .ofFields [("sceneName", .str sceneName)] } }]

/-- `hue_color_loop`: the action `color_loop` on the target. -/
def hueColorLoop : ActionHandler := fun action =>
  let enable : Bool :=
    match action.params.get "enable" with
    | some (.bool value) => value
    | _ => false
  [{ deviceId := action.target
     action :=
      { type := "color_loop", deviceId := action.target
        params := .ofFields [("enable", .bool enable)] } }]

/-- `kasa_energy_report` writes to the log only. -/
def kasaEnergyReport : ActionHandler := fun _ => []

/-- `actionHandlers` of `src/connectors/hue/index.ts` -/
def hueActionHandlers : List (String × ConnectorActionContribution) :=
  [("hue_scene", ⟨hueScene, true⟩), ("hue_color_loop", ⟨hueColorLoop, true⟩)]

/-- `actionHandlers` of `src/connectors/kasa/index.ts` -/
def kasaActionHandlers : List (String × ConnectorActionContribution) :=
  [("kasa_energy_report", ⟨kasaEnergyReport, false⟩)]

/-! ## Registration -/

/-- What the connector manager registers with, and its count for each connector type. -/
structure Contributions where
  commandService : CommandHandlers := {}
  conditionRegistry : OrderedMap String ConditionFactory := .empty
  activeInstanceCountByType : OrderedMap String Nat := .empty

namespace Contributions

/-- The count, zero when there is none. -/
def count (c : Contributions) (connectorType : String) : Nat :=
  (c.activeInstanceCountByType.get connectorType).getD 0

def addHandlers (service : CommandHandlers) (mod : ConnectorModule) : CommandHandlers :=
  mod.actionHandlers.foldl
    (fun service entry =>
      service.registerHandler entry.1 entry.2.handler (some entry.2.physical)) service

def addConditions (registry : OrderedMap String ConditionFactory) (mod : ConnectorModule) :
    OrderedMap String ConditionFactory :=
  mod.conditions.foldl (fun registry entry => registry.set entry.1 entry.2) registry

def dropHandlers (service : CommandHandlers) (mod : ConnectorModule) : CommandHandlers :=
  mod.actionHandlers.foldl (fun service entry => service.unregisterHandler entry.1) service

def dropConditions (registry : OrderedMap String ConditionFactory) (mod : ConnectorModule) :
    OrderedMap String ConditionFactory :=
  mod.conditions.foldl (fun registry entry => registry.delete entry.1) registry

def registerContributions (c : Contributions) (connectorType : String) (mod : ConnectorModule) :
    Contributions :=
  let count := c.count connectorType
  let c := if count = 0 then
      { c with
        commandService := addHandlers c.commandService mod
        conditionRegistry := addConditions c.conditionRegistry mod }
    else c
  { c with
    activeInstanceCountByType := c.activeInstanceCountByType.set connectorType (count + 1) }

/-- A type without a count is treated as one with a last instance. -/
def unregisterContributions (c : Contributions) (connectorType : String) (mod : ConnectorModule) :
    Contributions :=
  let remaining := (c.activeInstanceCountByType.get connectorType).getD 1 - 1
  if remaining = 0 then
    { commandService := dropHandlers c.commandService mod
      conditionRegistry := dropConditions c.conditionRegistry mod
      activeInstanceCountByType := c.activeInstanceCountByType.delete connectorType }
  else
    { c with
      activeInstanceCountByType := c.activeInstanceCountByType.set connectorType remaining }

end Contributions

end Aeolus.Connectors
