/-
# Aeolus.Websocket.WsServer — who is told about a device

`src/websocket/ws-server.ts` and the device part of the visibilities `src/index.ts` gives
it.  A client is told about a device twice over: in the snapshot it gets when it has
authenticated, and in the broadcast of every change of state after that.

Four readers decide the same thing, each with its own loop, and `visibility_agrees_iff`
says when they agree.  The broadcast finds the device by the id in the event and takes the
empty id for none, and the snapshot is a plain object, where `__proto__` is not a field:
an exposed device with one of these two ids is seen by some of the readers only
(`proto_sensor_misses_snapshot`).
-/
import Mathlib.Tactic.TFAE
import Aeolus.Auth.AuthRequests
import Aeolus.Auth.PermissionResolver
import Aeolus.Core.DeviceIdentity

namespace Aeolus.Websocket

open Aeolus.Auth Aeolus.Core Aeolus.Db Aeolus.Theory

/-! ## Envelopes and clients -/

inductive BroadcastEnvelope where
  | everyone
  | admin
  | tabs (tabIds : List String)
  deriving DecidableEq

structure WebSocket where
  id : Nat
  /-- `readyState === WebSocket.OPEN` -/
  isOpen : Bool := true
  deriving DecidableEq

structure AuthenticatedClient where
  ws : WebSocket
  userId : String
  role : Role
  groupId : Option String
  accessibleTabIds : List String
  deriving DecidableEq

def canObserve (client : AuthenticatedClient) (envelope : BroadcastEnvelope) : Bool :=
  if client.role = .admin then true
  else
    match envelope with
    | .everyone => true
    | .admin => false
    | .tabs tabIds => tabIds.any fun tabId => client.accessibleTabIds.contains tabId

/-! ## The visibility of a device event -/

def stringField (data : Json) (field : String) : Option String :=
  (data.property field).bind Json.asString

def deviceVisibility (deviceExposureResolver : ExposureStore) (data : Json) : BroadcastEnvelope :=
  match truthy (stringField data "deviceId") with
  | none => .admin
  | some deviceId => .tabs (deviceExposureResolver.getExposingTabs deviceId)

/-- The event of `upsert`; a device that is new comes with it as a whole. -/
def stateChange (device : Device) (whole : Option Json) : Json :=
  .ofPresent [("deviceId", some (.str device.id)), ("state", some (.obj device.state.entries)),
    ("timestamp", some (.num device.lastSeen)), ("device", whole)]

@[simp] theorem stringField_stateChange (device : Device) (whole : Option Json) :
    stringField (stateChange device whole) "deviceId" = some device.id := rfl

theorem deviceVisibility_stateChange (store : ExposureStore) (device : Device)
    (whole : Option Json) : deviceVisibility store (stateChange device whole) =
      if device.id = "" then .admin else .tabs (store.getExposingTabs device.id) := by
  rw [deviceVisibility, stringField_stateChange]
  by_cases nameless : device.id = ""
  · rw [if_pos nameless, nameless]
    rfl
  · rw [if_neg nameless, truthy_eq_some.mpr ⟨rfl, nameless⟩]

/-! ## The server -/

/-- The server with what `index.ts` gives it. -/
structure WsServer where
  db : Database
  auth : AuthDb
  groupTabAssignments : List GroupTabRow
  registry : DeviceRegistry
  ownershipStore : ExposureStore
  clients : OrderedMap Nat AuthenticatedClient := .empty

/-- `record[key] = value` for an object: assigning to `__proto__` makes no field. -/
def assign {V : Type} (record : OrderedMap String V) (key : String) (value : V) :
    OrderedMap String V :=
  if key = "__proto__" then record else record.set key value

namespace WsServer

def tables (server : WsServer) : PermissionTables :=
  ⟨server.auth, server.groupTabAssignments, server.db.tabs⟩

def deviceExposureResolver (server : WsServer) : ExposureStore :=
  Auth.deviceExposureResolver server.db server.registry

def resolver (server : WsServer) : PermissionResolver where
  ownershipStore := server.ownershipStore
  deviceExposureResolver := server.deviceExposureResolver
  tables := server.tables

/-- What a client is sent first. -/
def snapshot (server : WsServer) (client : AuthenticatedClient) : OrderedMap String Device :=
  let devices := server.registry.devices.values
  if client.role = .admin then
    devices.foldl (fun snapshot d => assign snapshot d.id d) .empty
  else
    let exposingByDevice :=
      server.deviceExposureResolver.getExposingTabsBatch (devices.map Device.id)
    devices.foldl (fun snapshot d =>
      if canObserve client (.tabs ((exposingByDevice.get d.id).getD [])) then
        assign snapshot d.id d
      else snapshot) .empty

/-- The clients a message is sent to. -/
def broadcast (server : WsServer) (envelope : BroadcastEnvelope) : List AuthenticatedClient :=
  server.clients.values.filter fun client => client.ws.isOpen && canObserve client envelope

/-- The ids `GET /api/devices` filters. -/
def deviceIds (server : WsServer) : List String := server.registry.devices.values.map Device.id

/-! ## What each reader comes to -/

/-- A pane on one of the client's tabs selects the device. -/
def Selected (server : WsServer) (client : AuthenticatedClient) (device : Device) : Prop :=
  ∃ pane ∈ server.db.panes,
    matchesDeviceFilter pane device = true ∧ pane.tabId ∈ client.accessibleTabIds

variable {server : WsServer} {client : AuthenticatedClient} {device : Device}

theorem mem_exposing_iff {db : Database} {registry : DeviceRegistry}
    (keyed : registry.devices.KeyedBy Device.id) {id tabId : String} :
    id ∈ getExposedDeviceIds db registry tabId ↔
      tabId ∈ DeviceExposure.getExposingTabs db registry id := by
  rw [mem_getExposingTabs]
  simp only [getExposedDeviceIds, List.mem_map, List.mem_filter, List.any_eq_true,
    decide_eq_true_eq, OrderedMap.mem_values]
  constructor
  · rintro ⟨device, ⟨⟨key, found⟩, pane, ⟨placed, there⟩, matched⟩, rfl⟩
    exact ⟨device, keyed key device found ▸ found, pane, placed, matched, there⟩
  · rintro ⟨device, found, pane, placed, matched, there⟩
    exact ⟨device, ⟨⟨id, found⟩, pane, ⟨placed, there⟩, matched⟩, keyed id device found⟩

theorem getById_of_mem (keyed : server.registry.devices.KeyedBy Device.id)
    (listed : device ∈ server.registry.devices.values) :
    server.registry.getById device.id = some device := by
  obtain ⟨key, found⟩ := OrderedMap.mem_values.mp listed
  exact keyed key device found ▸ found

theorem selected_iff (found : server.registry.getById device.id = some device) :
    server.Selected client device ↔
      ∃ tabId ∈ server.deviceExposureResolver.getExposingTabs device.id,
        tabId ∈ client.accessibleTabIds := by
  simp only [deviceExposureResolver, Auth.deviceExposureResolver, mem_getExposingTabs, found,
    Option.some.injEq]
  constructor
  · rintro ⟨pane, placed, matched, reached⟩
    exact ⟨pane.tabId, ⟨device, rfl, pane, placed, matched, rfl⟩, reached⟩
  · rintro ⟨tabId, ⟨_, rfl, pane, placed, matched, rfl⟩, reached⟩
    exact ⟨pane, placed, matched, reached⟩

theorem canObserve_tabs (ordinary : client.role ≠ .admin) {tabIds : List String} :
    canObserve client (.tabs tabIds) = true ↔
      ∃ tabId ∈ tabIds, tabId ∈ client.accessibleTabIds := by
  simp [canObserve, ordinary]

/-- The devices a loop assigns are fields, `__proto__` apart. -/
theorem has_foldl_assign (keep : Device → Bool) (devices : List Device)
    (record : OrderedMap String Device) (id : String) :
    (devices.foldl (fun record d => if keep d then assign record d.id d else record) record).has
        id = true ↔
      record.has id = true ∨ id ≠ "__proto__" ∧ ∃ d ∈ devices, keep d = true ∧ d.id = id := by
  induction devices generalizing record with
  | nil => simp
  | cons d devices ih =>
      rw [List.foldl_cons, ih, List.exists_mem_cons_iff, and_or_left, ← or_assoc]
      refine or_congr_left ?_
      by_cases kept : keep d = true
      · by_cases proto : d.id = "__proto__"
        · simp only [kept, assign, proto, if_true, true_and]
          exact ⟨Or.inl, fun either => either.resolve_right fun odd => odd.1 odd.2.symm⟩
        · by_cases here : id = d.id
          · simp [kept, assign, proto, here, OrderedMap.has]
          · have other : d.id ≠ id := fun same => here same.symm
            simp [kept, assign, proto, here, other, OrderedMap.has, OrderedMap.get_set_of_ne]
      · simp [kept]

theorem mem_deviceIds (listed : device ∈ server.registry.devices.values) :
    device.id ∈ server.deviceIds := List.mem_map_of_mem listed

theorem get_batch (listed : device ∈ server.registry.devices.values) :
    (server.deviceExposureResolver.getExposingTabsBatch server.deviceIds).get device.id =
      some (server.deviceExposureResolver.getExposingTabs device.id) :=
  (get_getExposingTabsBatch server.db server.registry _ _).trans
    (if_pos (mem_deviceIds listed))

theorem has_snapshot (keyed : server.registry.devices.KeyedBy Device.id)
    (listed : device ∈ server.registry.devices.values) (ordinary : client.role ≠ .admin) :
    (server.snapshot client).has device.id = true ↔
      device.id ≠ "__proto__" ∧ server.Selected client device := by
  rw [snapshot, if_neg ordinary, has_foldl_assign, or_iff_right (by simp [OrderedMap.has])]
  refine and_congr_right fun _ => ?_
  constructor
  · rintro ⟨d, there, observed, same⟩
    have equal : d = device := by
      have found := getById_of_mem keyed there
      rw [same, getById_of_mem keyed listed] at found
      exact (Option.some.inj found).symm
    subst equal
    rw [canObserve_tabs ordinary, ← deviceIds, get_batch there] at observed
    exact (selected_iff (getById_of_mem keyed there)).mpr observed
  · intro selected
    refine ⟨device, listed, ?_, rfl⟩
    rw [canObserve_tabs ordinary, ← deviceIds, get_batch listed]
    exact (selected_iff (getById_of_mem keyed listed)).mp selected

theorem mem_broadcast (found : server.registry.getById device.id = some device)
    (connected : client ∈ server.clients.values) (isOpen : client.ws.isOpen = true)
    (ordinary : client.role ≠ .admin) (whole : Option Json) :
    client ∈ server.broadcast
        (deviceVisibility server.deviceExposureResolver (stateChange device whole)) ↔
      device.id ≠ "" ∧ server.Selected client device := by
  rw [selected_iff found, broadcast, List.mem_filter, isOpen, Bool.true_and,
    and_iff_right connected, deviceVisibility_stateChange]
  by_cases nameless : device.id = ""
  · simp [nameless, canObserve, ordinary]
  · simp [nameless, canObserve_tabs ordinary]

/-- The tabs a client is given are those of its user's group. -/
def OfGroup (server : WsServer) (client : AuthenticatedClient) : Prop :=
  ∀ tabId, tabId ∈ client.accessibleTabIds ↔
    tabId ∈ server.resolver.accessibleTabIds client.userId

theorem hasResourcePermission_device (ofGroup : server.OfGroup client)
    (found : server.registry.getById device.id = some device) :
    server.resolver.hasResourcePermission client.userId .device device.id .read = true ↔
      server.Selected client device := by
  rw [PermissionResolver.hasResourcePermission_read, selected_iff found]
  simp only [ofGroup _]
  rfl

theorem mem_filterByPermission_device (ofGroup : server.OfGroup client)
    (listed : device ∈ server.registry.devices.values)
    (found : server.registry.getById device.id = some device) :
    device.id ∈ server.resolver.filterByPermission client.userId .device server.deviceIds .read ↔
      server.Selected client device := by
  have asked : ((server.resolver.store .device).getExposingTabsBatch server.deviceIds).get
      device.id = some (server.deviceExposureResolver.getExposingTabs device.id) :=
    get_batch listed
  rw [PermissionResolver.mem_filterByPermission_read, and_iff_right (mem_deviceIds listed),
    asked, Option.getD_some, selected_iff found]
  simp only [ofGroup _]

/-! ## When the readers agree -/

/-- A tab's devices are those it exposes, many devices are asked about as one by one, and
what a connected client sees of a device in the four ways is the same, unless one of its tabs
selects the device and its id is empty or `__proto__`. -/
theorem visibility_agrees_iff (server : WsServer)
    (keyed : server.registry.devices.KeyedBy Device.id) :
    (∀ id tabId, id ∈ getExposedDeviceIds server.db server.registry tabId ↔
      tabId ∈ server.deviceExposureResolver.getExposingTabs id) ∧
    (∀ ids, ∀ id ∈ ids, (server.deviceExposureResolver.getExposingTabsBatch ids).get id =
      some (server.deviceExposureResolver.getExposingTabs id)) ∧
    ∀ client ∈ server.clients.values, client.ws.isOpen = true → client.role ≠ .admin →
      server.OfGroup client → ∀ device ∈ server.registry.devices.values, ∀ whole : Option Json,
        ([(server.snapshot client).has device.id = true,
          client ∈ server.broadcast
            (deviceVisibility server.deviceExposureResolver (stateChange device whole)),
          device.id ∈
            server.resolver.filterByPermission client.userId .device server.deviceIds .read,
          server.resolver.hasResourcePermission client.userId .device device.id .read = true].TFAE ↔
        (server.Selected client device → device.id ≠ "" ∧ device.id ≠ "__proto__")) := by
  refine ⟨fun id tabId => mem_exposing_iff keyed, fun ids id named => ?_, ?_⟩
  · exact (get_getExposingTabsBatch server.db server.registry ids id).trans (if_pos named)
  · intro client connected isOpen ordinary ofGroup device listed whole
    have found := getById_of_mem keyed listed
    rw [has_snapshot keyed listed ordinary, mem_broadcast found connected isOpen ordinary,
      mem_filterByPermission_device ofGroup listed found,
      hasResourcePermission_device ofGroup found]
    constructor
    · intro same selected
      have sent : device.id ≠ "" ∧ server.Selected client device := (same.out 3 1).mp selected
      have shown : device.id ≠ "__proto__" ∧ server.Selected client device :=
        (same.out 3 0).mp selected
      exact ⟨sent.1, shown.1⟩
    · intro named
      have proto : device.id ≠ "__proto__" ∧ server.Selected client device ↔
          server.Selected client device := and_iff_right_of_imp fun seen => (named seen).2
      have empty : device.id ≠ "" ∧ server.Selected client device ↔
          server.Selected client device := and_iff_right_of_imp fun seen => (named seen).1
      rw [proto, empty]
      tfae_finish

/-! A tab of the staff shows sensors, and there is one sensor. -/

def labSensor (id : String) : Device where
  id := id
  name := "Lab"
  type := "sensor"
  capabilities := ["temperature"]
  state := .empty
  integration := "mqtt"
  lastSeen := 0

def annClient : AuthenticatedClient where
  ws := ⟨1, true⟩
  userId := "ann"
  role := .user
  groupId := some "staff"
  accessibleTabIds := ["lab"]

def labServer (id : String) : WsServer where
  db := { Database.empty with
    panes := [⟨some "p", "lab", "sensor-panel", .obj [], .integer 0, .integer 0, .integer 1,
      .integer 1, .integer 0⟩] }
  auth := { users := .set .empty "ann" ⟨"ann", "ann", "", .user, some "staff", 0, 7, 0⟩ }
  groupTabAssignments := [⟨"staff", "lab", .read⟩]
  registry := { devices := .set .empty id (labSensor id) }
  ownershipStore := ⟨fun _ => [], fun _ => .empty⟩
  clients := .set .empty 1 annClient

theorem labServer_keyed (id : String) : (labServer id).registry.devices.KeyedBy Device.id :=
  (OrderedMap.keyedBy_empty Device.id).set (labSensor id)

theorem labServer_ofGroup (id : String) : (labServer id).OfGroup annClient := by
  have own : (labServer id).resolver.accessibleTabIds "ann" = annClient.accessibleTabIds := by rfl
  intro tabId
  rw [show annClient.userId = "ann" from rfl, own]

/-- A sensor on the MQTT topic `__proto__`: its changes are sent and it is read over REST, and
the snapshot does not have it. -/
theorem proto_sensor_misses_snapshot :
    (labServer "__proto__").registry.devices.KeyedBy Device.id ∧
    annClient ∈ (labServer "__proto__").clients.values ∧ annClient.ws.isOpen = true ∧
    annClient.role ≠ .admin ∧ (labServer "__proto__").OfGroup annClient ∧
    labSensor "__proto__" ∈ (labServer "__proto__").registry.devices.values ∧
    ((labServer "__proto__").snapshot annClient).has "__proto__" = false ∧
    annClient ∈ (labServer "__proto__").broadcast (deviceVisibility
      (labServer "__proto__").deviceExposureResolver (stateChange (labSensor "__proto__") none)) ∧
    "__proto__" ∈ (labServer "__proto__").resolver.filterByPermission "ann" .device
      (labServer "__proto__").deviceIds .read ∧
    (labServer "__proto__").resolver.hasResourcePermission "ann" .device "__proto__" .read =
      true := by
  refine ⟨labServer_keyed _, by decide, rfl, by decide, labServer_ofGroup _, ?_, ?_, ?_, ?_, ?_⟩
  · exact List.mem_singleton_self _
  · decide +kernel
  · decide +kernel
  · decide +kernel
  · decide +kernel

/-- A sensor with a name is seen in all four ways. -/
theorem visibility_agrees_iff_named :
    [((labServer "lab-1").snapshot annClient).has "lab-1" = true,
      annClient ∈ (labServer "lab-1").broadcast (deviceVisibility
        (labServer "lab-1").deviceExposureResolver (stateChange (labSensor "lab-1") none)),
      "lab-1" ∈ (labServer "lab-1").resolver.filterByPermission "ann" .device
        (labServer "lab-1").deviceIds .read,
      (labServer "lab-1").resolver.hasResourcePermission "ann" .device "lab-1" .read =
        true].TFAE :=
  ((visibility_agrees_iff (labServer "lab-1") (labServer_keyed "lab-1")).2.2 annClient
    (by decide) rfl (by decide) (labServer_ofGroup "lab-1") (labSensor "lab-1")
    (List.mem_singleton_self _) none).mpr fun _ => ⟨by decide, by decide⟩

end WsServer

end Aeolus.Websocket
