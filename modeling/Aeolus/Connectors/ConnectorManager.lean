/-
# Aeolus.Connectors.ConnectorManager — connector instances and their calls in flight

`src/connectors/connector-manager.ts` with the continuations of
`src/connectors/action-router.ts`.  Every call that talks to a device awaits it, and between
its synchronous segments anything else may run.  A `Flight` is what a suspended call goes on
with; `ConnectorEvent.settles` resumes one with what it awaited.

* `enable`: connect, discover; then the devices are emitted, the contributions registered,
  the record saved, the instance entered.
* `disable`: the timer stops and the contributions go at once; after disconnect and dispose
  the devices are removed, the record disabled, the instance deleted.
* `restoreFromStore`: the enabled records one after another, as `enable` without a save.
* a poll, a retry and an action: discover or execute, then emit.

A device set is an object that an instance and its timer share, so instances name it by a
number.  An emitted device goes to `DeviceRegistry.upsert` through the listener of
`src/index.ts`, once that has attached it, after the restore; so do the state changes of MQTT
and of the trigger route, which name no connector instance.  Configurations are not modelled; a connector that the factory refuses to
create is one of `createThrows`.
-/
import Aeolus.Connectors.Contributions
import Aeolus.Mqtt.MqttService

namespace Aeolus.Connectors

open Aeolus.Core Aeolus.Theory Aeolus.Automations

/-- An entry of the `instances` map. -/
structure EnabledInstance where
  connectorType : String
  /-- the number of its device set -/
  devices : Nat
  deriving DecidableEq

/-- A row of the `connectors` table. -/
structure ConnectorRecord where
  id : String
  connectorType : String
  enabled : Bool
  deriving DecidableEq

/-- What a suspended call goes on with. -/
inductive Flight where
  | enableConnecting (instanceId connectorType : String)
  | enableDiscovering (instanceId connectorType : String)
  | disableDisconnecting (instanceId : String) (instance_ : EnabledInstance)
  | disableDisposing (instanceId : String) (instance_ : EnabledInstance)
  | restoreConnecting (record : ConnectorRecord) (rest : List ConnectorRecord)
  | restoreDiscovering (record : ConnectorRecord) (rest : List ConnectorRecord)
  | polling (instanceId : String) (devices : Nat)
  | retryConnecting (instanceId : String) (instance_ : EnabledInstance)
  | retryDiscovering (instanceId : String) (instance_ : EnabledInstance)
  | acting (device : Device) (action : Action)
  | rediscovering

/-- What an awaited promise settles with. -/
inductive Settled where
  | threw
  | returned
  | discovered (devices : List Device)

def Settled.devices : Settled → List Device
  | .discovered devices => devices
  | _ => []

structure ConnectorManager where
  contributions : Contributions := {}
  instances : OrderedMap String EnabledInstance := .empty
  deviceSets : OrderedMap Nat (Finset String) := .empty
  /-- the running interval timers: a device set and the instance they poll for -/
  timers : OrderedMap Nat String := .empty
  store : OrderedMap String ConnectorRecord := .empty
  registry : DeviceRegistry := {}
  /-- the registry's listener is attached -/
  listening : Bool := true
  flights : OrderedMap Nat Flight := .empty
  next : Nat := 0

/-- What does not change while the process runs. -/
structure Wiring where
  modules : String → Option ConnectorModule
  /-- the instances that `createConnector` throws for -/
  createThrows : String → Bool
  platform : Platform

inductive ConnectorEvent where
  | enable (connectorType instanceId : String)
  | disable (instanceId : String)
  | restoreFromStore
  | tick (devices : Nat)
  | retry (instanceId : String)
  /-- `catalog` is what the owner, or its module, declares for the device by then -/
  | executeAction (deviceId : String) (action : Action)
      (catalog : Option (List CapabilityDescriptor) := none)
  | settles (flight : Nat) (outcome : Settled) (now : Nat) (storeThrows : Bool)
  | stateChange (event : Core.NormalizedEvent)
  | removeDevice (id : String)

namespace ConnectorManager

section Segments

variable (w : Wiring) (m : ConnectorManager)

def launch (flight : Flight) : ConnectorManager :=
  { m with flights := m.flights.set m.next flight, next := m.next + 1 }

/-- The device set with this number. -/
def devicesOf (number : Nat) : Finset String := (m.deviceSets.get number).getD ∅

/-- Emit devices until a listener throws: the registry, and the devices that got there. -/
def emitAll (platform : Platform) (instanceId : Option String) (now : Nat) :
    DeviceRegistry → List Device → DeviceRegistry × List String
  | registry, [] => (registry, [])
  | registry, device :: rest =>
      match registry.upsert platform (Mqtt.Hub.connectorEvent device instanceId now) with
      | none => (registry, [])
      | some (_, registry) =>
          let (registry, emitted) := emitAll platform instanceId now registry rest
          (registry, device.id :: emitted)

/-- Nothing hears what is emitted before the listener is there, and nothing throws. -/
def emitDevices (instanceId : Option String) (now : Nat) (devices : List Device) :
    DeviceRegistry × List String :=
  if m.listening then emitAll w.platform instanceId now m.registry devices
  else (m.registry, devices.map Device.id)

/-- The common end of `enable` and of one round of `restoreFromStore`: a new device set with
what was emitted, a timer, and the instance. -/
def enter (instanceId connectorType : String) (emitted : List String) (number : Nat) :
    ConnectorManager :=
  { m with
    deviceSets := m.deviceSets.set number emitted.toFinset
    timers := m.timers.set number instanceId
    instances := m.instances.set instanceId ⟨connectorType, number⟩
    next := m.next + 1 }

/-- Emit what an instance discovered and register the contributions of its type. -/
def arrive (instanceId connectorType : String) (mod : ConnectorModule) (outcome : Settled)
    (now : Nat) : ConnectorManager × List String :=
  let (registry, emitted) := m.emitDevices w (some instanceId) now outcome.devices
  ({ m with
      registry := registry
      contributions := m.contributions.registerContributions connectorType mod }, emitted)

def enable (connectorType instanceId : String) : ConnectorManager :=
  match w.modules connectorType with
  | none => m
  | some _ =>
      if w.createThrows instanceId then m
      else m.launch (.enableConnecting instanceId connectorType)

/-- The last segment of `enable`.  A save that throws ends it after the registration. -/
def enableDiscovered (instanceId connectorType : String) (outcome : Settled) (now : Nat)
    (saveThrows : Bool) : ConnectorManager :=
  match w.modules connectorType with
  | none => m
  | some mod =>
      let (m, emitted) := m.arrive w instanceId connectorType mod outcome now
      if saveThrows then m
      else
        { m with store := m.store.set instanceId ⟨instanceId, connectorType, true⟩ }.enter
          instanceId connectorType emitted m.next

/-- The first segment of `disable`. -/
def disable (instanceId : String) : ConnectorManager :=
  match m.instances.get instanceId with
  | none => m
  | some instance_ =>
      let contributions :=
        match w.modules instance_.connectorType with
        | none => m.contributions
        | some mod => m.contributions.unregisterContributions instance_.connectorType mod
      { m with
        timers := m.timers.delete instance_.devices
        contributions := contributions }.launch (.disableDisconnecting instanceId instance_)

/-- Recorded ownership, or a device without one that the instance discovered. -/
def ownedBy (instanceId : String) (devices : Finset String) (device : Device) : Bool :=
  device.connectorInstanceId = some instanceId ∨
    device.connectorInstanceId = none ∧ device.id ∈ devices

/-- The removal loop of `disable`, over the devices as they are listed when it starts. -/
def removeOwned (instanceId : String) (devices : Finset String) (registry : DeviceRegistry) :
    DeviceRegistry :=
  (registry.devices.values.filter (ownedBy instanceId devices)).foldl
    (fun registry device => (registry.remove device.id).2) registry

/-- The last segment of `disable`.  A store that throws keeps the instance. -/
def disableDisposed (instanceId : String) (instance_ : EnabledInstance) (storeThrows : Bool) :
    ConnectorManager :=
  let registry := removeOwned instanceId (m.devicesOf instance_.devices) m.registry
  if storeThrows then { m with registry := registry }
  else
    { m with
      registry := registry
      store :=
        match m.store.get instanceId with
        | none => m.store
        | some record => m.store.set instanceId { record with enabled := false }
      instances := m.instances.delete instanceId }

/-- `restoreFromStore` goes on with the next record that has a module; a factory that throws
ends it. -/
def restoreNext : List ConnectorRecord → ConnectorManager
  | [] => m
  | record :: rest =>
      match w.modules record.connectorType with
      | none => restoreNext rest
      | some _ =>
          if w.createThrows record.id then m else m.launch (.restoreConnecting record rest)

def restoreFromStore : ConnectorManager :=
  m.restoreNext w (m.store.values.filter ConnectorRecord.enabled)

def restoreDiscovered (record : ConnectorRecord) (rest : List ConnectorRecord) (outcome : Settled)
    (now : Nat) : ConnectorManager :=
  match w.modules record.connectorType with
  | none => m
  | some mod =>
      let (m, emitted) := m.arrive w record.id record.connectorType mod outcome now
      (m.enter record.id record.connectorType emitted m.next).restoreNext w rest

/-- What the interval callback does with what it discovered: nothing at all for nothing. -/
def polled (instanceId : String) (number : Nat) (outcome : Settled) (now : Nat) :
    ConnectorManager :=
  match outcome.devices with
  | [] => m
  | devices =>
      let (registry, emitted) := m.emitDevices w (some instanceId) now devices
      { m with
        registry := registry
        deviceSets := m.deviceSets.set number emitted.toFinset }

def retried (instanceId : String) (instance_ : EnabledInstance) (outcome : Settled) (now : Nat) :
    ConnectorManager :=
  let (registry, emitted) := m.emitDevices w (some instanceId) now outcome.devices
  { m with
    registry := registry
    deviceSets := m.deviceSets.set instance_.devices
      (m.devicesOf instance_.devices ∪ emitted.toFinset) }

/-- The action router over the instances of the manager.  What it publishes to the broker and
the texts of its errors are not kept here. -/
def router (catalog : Option (List CapabilityDescriptor)) : ActionRouter where
  instances := m.instances.map fun instance_ => ⟨instance_.connectorType, fun _ => catalog⟩
  registry := m.registry
  showNumber _ := ""
  stringify _ := ""

/-- An action that the catalog admits goes to the owning connector. -/
def executeAction (deviceId : String) (action : Action)
    (catalog : Option (List CapabilityDescriptor)) : ConnectorManager :=
  match m.registry.getById deviceId, (m.router catalog).executeAction deviceId action with
  | some device, .sent _ sent => m.launch (.acting device sent)
  | _, _ => m

/-- The state that is emitted without waiting for the device to report it. -/
def optimisticState (device : Device) (action : Action) : JsonObject :=
  if action.type = "toggle" then
    device.state.set "on" (.bool (!isTruthy (device.state.get "on")))
  else device.state.merge action.params

/-- What follows an action that the connector executed. -/
def acted (device : Device) (action : Action) (now : Nat) : ConnectorManager :=
  if action.type = "delete" then { m with registry := (m.registry.remove device.id).2 }
  else if action.type = "rename" then m.launch .rediscovering
  else
    { m with
      registry := (m.emitDevices w none now
        [{ device with state := optimisticState device action, lastSeen := now }]).1 }

/-- Resume a suspended call that was taken out of the flights. -/
def resume (flight : Flight) (outcome : Settled) (now : Nat) (storeThrows : Bool) :
    ConnectorManager :=
  match flight with
  | .enableConnecting id type => m.launch (.enableDiscovering id type)
  | .enableDiscovering id type => m.enableDiscovered w id type outcome now storeThrows
  | .disableDisconnecting id instance_ => m.launch (.disableDisposing id instance_)
  | .disableDisposing id instance_ => m.disableDisposed id instance_ storeThrows
  | .restoreConnecting record rest => m.launch (.restoreDiscovering record rest)
  | .restoreDiscovering record rest => m.restoreDiscovered w record rest outcome now
  | .polling id number => m.polled w id number outcome now
  | .retryConnecting id instance_ =>
      match outcome with
      | .threw => m
      | _ => m.launch (.retryDiscovering id instance_)
  | .retryDiscovering id instance_ => m.retried w id instance_ outcome now
  | .acting device action =>
      match outcome with
      | .threw => m
      | _ => m.acted w device action now
  | .rediscovering =>
      { m with registry := (m.emitDevices w none now outcome.devices).1 }

def step : ConnectorEvent → ConnectorManager
  | .enable connectorType instanceId => m.enable w connectorType instanceId
  | .disable instanceId => m.disable w instanceId
  | .restoreFromStore => m.restoreFromStore w
  | .tick number =>
      match m.timers.get number with
      | none => m
      | some instanceId => m.launch (.polling instanceId number)
  | .retry instanceId =>
      match m.instances.get instanceId with
      | none => m
      | some instance_ => m.launch (.retryConnecting instanceId instance_)
  | .executeAction deviceId action catalog => m.executeAction deviceId action catalog
  | .settles number outcome now storeThrows =>
      match m.flights.get number with
      | none => m
      | some flight =>
          { m with flights := m.flights.delete number }.resume w flight outcome now storeThrows
  | .stateChange event =>
      if m.listening then
        match m.registry.upsert w.platform { event with connectorInstanceId := none } with
        | none => m
        | some (_, registry) => { m with registry := registry }
      else m
  | .removeDevice id => { m with registry := (m.registry.remove id).2 }

end Segments

end ConnectorManager

end Aeolus.Connectors
