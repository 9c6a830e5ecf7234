/-
# Aeolus.Connectors.InventoryMirror — does the registry have what the connectors report?

A device that `discoverDevices` reports goes through `emitDeviceEvent`, which copies some of
its fields into an event, and through `DeviceRegistry.upsert`, which merges the event into the
record that is there.  `main` of `src/index.ts` restores the stored connectors before it
attaches the listener between the two.

The event has no name.  A new device is named after its id, and a device that is there keeps
its name, also when a rename has just been carried out and the devices are reported again
(`rename_keeps_old_name`).  What is reported before the listener is there is lost.
`mirrored_along` says that nothing else goes wrong.
-/
import Aeolus.Connectors.DisabledDevices

namespace Aeolus.Connectors

open Aeolus.Core Aeolus.Theory Aeolus.Automations

/-! ## What is reported -/

/-- The calls that go on with a result of `discoverDevices`. -/
def Flight.discovers : Flight → Bool
  | .enableDiscovering _ _ => true
  | .restoreDiscovering _ _ => true
  | .polling _ _ => true
  | .retryDiscovering _ _ => true
  | .rediscovering => true
  | _ => false

namespace ConnectorManager

/-- The devices that `discoverDevices` has reported to the call that is resumed. -/
def discovered (m : ConnectorManager) : ConnectorEvent → List Device
  | .settles n outcome _ _ =>
      match m.flights.get n with
      | none => []
      | some flight => if flight.discovers then outcome.devices else []
  | _ => []

/-- The devices that are removed, or have an event that no discovery reported. -/
def disturbed (w : Wiring) (m : ConnectorManager) : ConnectorEvent → List String
  | .settles n outcome now _ =>
      match m.flights.get n with
      | some (.disableDisposing id instance_) =>
          (m.registry.devices.values.filter
            (ownedBy id (m.devicesOf instance_.devices))).map Device.id
      | some (.acting device action) =>
          match outcome with
          | .threw => []
          | _ =>
              if action.type = "delete" then [device.id]
              else (optimistic device action now).filterMap fun d =>
                (m.registry.upsert w.platform (Mqtt.Hub.connectorEvent d none now)).map (·.1.id)
      | _ => []
  | .stateChange event =>
      ((m.registry.upsert w.platform { event with connectorInstanceId := none }).map
        (·.1.id)).toList
  | .removeDevice id => [id]
  | _ => []

end ConnectorManager

/-- Reports one after another; a later one of a device replaces an earlier one. -/
def report (reported : OrderedMap String Device) (devices : List Device) :
    OrderedMap String Device :=
  devices.foldl (fun reported device => reported.set device.id device) reported

/-- The manager, and of every device what was last reported, as long as nothing else has
happened to the device since. -/
structure Process where
  manager : ConnectorManager
  reported : OrderedMap String Device := .empty

inductive ProcessEvent where
  | connector (event : ConnectorEvent)
  /-- `main` attaches the listener of the registry. -/
  | listens

namespace Process

/-- `main` before it restores the connectors. -/
def startup (registry : DeviceRegistry) (store : OrderedMap String ConnectorRecord) : Process where
  manager := { registry, store, listening := false }

def step (w : Wiring) (p : Process) : ProcessEvent → Process
  | .connector e =>
      { manager := p.manager.step w e
        reported :=
          report ((p.manager.disturbed w e).foldl OrderedMap.delete p.reported)
            (p.manager.discovered e) }
  | .listens => { p with manager := { p.manager with listening := true } }

end Process

/-! ## What is claimed -/

/-- The registry has the device with the name, the capabilities and the state fields that were
reported. -/
def Shows (registry : DeviceRegistry) (reported : Device) : Prop :=
  ∃ device, registry.getById reported.id = some device ∧ device.name = reported.name ∧
    device.capabilities = reported.capabilities ∧
    ∀ key value, reported.state.get key = some value → device.state.get key = some value

def Process.Mirrored (p : Process) : Prop :=
  ∀ id device, p.reported.get id = some device → Shows p.manager.registry device

/-! ## When it holds -/

/-- The name of the device that is there, or the one that a new device gets. -/
def nameOf (platform : Platform) (registry : DeviceRegistry) (id : String) : String :=
  ((registry.getById id).map Device.name).getD (DeviceRegistry.deriveNameFromId platform id)

/-- The device is not taken for an MQTT device. -/
def OfConnector (device : Device) : Prop := device.integration ≠ "" ∧ device.integration ≠ "mqtt"

/-- With the listener attached, devices are reported under the name that the registry has, or
derives, for them; before that, nothing is reported that the registry does not have. -/
def Process.Faithful (w : Wiring) (p : Process) : ProcessEvent → Prop
  | .connector e =>
      if p.manager.listening then
        (∀ device ∈ p.manager.discovered e, OfConnector device) ∧
          ∀ id device, (report .empty (p.manager.discovered e)).get id = some device →
            nameOf w.platform p.manager.registry id = device.name
      else
        ∀ id device, (report .empty (p.manager.discovered e)).get id = some device →
          Shows p.manager.registry device
  | .listens => True

/-! ## Reports -/

section Reports

theorem report_cons (reported : OrderedMap String Device) (device : Device) (rest : List Device) :
    report reported (device :: rest) = report (reported.set device.id device) rest := rfl

theorem keyed_report {reported : OrderedMap String Device} (keyed : reported.KeyedBy Device.id)
    (devices : List Device) : (report reported devices).KeyedBy Device.id := by
  induction devices generalizing reported with
  | nil => exact keyed
  | cons device rest ih => exact ih (keyed.set device)

theorem get_report_of_not_mem {id : String} (devices : List Device)
    (absent : id ∉ devices.map Device.id) (reported : OrderedMap String Device) :
    (report reported devices).get id = reported.get id := by
  induction devices generalizing reported with
  | nil => rfl
  | cons device rest ih =>
      simp only [List.map_cons, List.mem_cons, not_or] at absent
      rw [report_cons, ih absent.2, OrderedMap.get_set_of_ne _ _ absent.1]

/-- A device that is reported replaces what was known of it. -/
theorem get_report_of_mem {id : String} (devices : List Device)
    (present : id ∈ devices.map Device.id) (reported reported' : OrderedMap String Device) :
    (report reported devices).get id = (report reported' devices).get id := by
  induction devices generalizing reported reported' with
  | nil => cases present
  | cons device rest ih =>
      rw [report_cons, report_cons]
      by_cases later : id ∈ rest.map Device.id
      · exact ih later _ _
      · rw [get_report_of_not_mem rest later, get_report_of_not_mem rest later]
        simp only [List.map_cons, List.mem_cons, later, or_false] at present
        subst present
        simp

end Reports

/-! ## Emitting what was reported -/

section Emitting

variable {platform : Platform} {registry registry' : DeviceRegistry}

/-- The registry has the device with the capabilities and the state fields that were reported. -/
def Reflects (registry : DeviceRegistry) (reported : Device) : Prop :=
  ∃ device, registry.getById reported.id = some device ∧
    device.capabilities = reported.capabilities ∧
    ∀ key value, reported.state.get key = some value → device.state.get key = some value

theorem Shows.reflects {reported : Device} (shown : Shows registry reported) :
    Reflects registry reported := by
  obtain ⟨device, found, -, capabilities, state⟩ := shown
  exact ⟨device, found, capabilities, state⟩

theorem Shows.nameOf {reported : Device} (shown : Shows registry reported) (platform : Platform) :
    nameOf platform registry reported.id = reported.name := by
  obtain ⟨device, found, named, -⟩ := shown
  simp [Connectors.nameOf, found, named]

theorem Reflects.shows {reported : Device} (reflects : Reflects registry reported)
    (platform : Platform) (named : nameOf platform registry reported.id = reported.name) : Shows registry reported := by
  obtain ⟨device, found, capabilities, state⟩ := reflects
  refine ⟨device, found, ?_, capabilities, state⟩
  simpa [nameOf, found] using named

/-- The registry takes a connector's device under its own id; its name is not in the event. -/
theorem upsert_connectorEvent (platform : Platform) (keyed : registry.devices.KeyedBy Device.id) {d : Device}
    (connector : OfConnector d) (instanceId : Option String) (now : Nat) :
    ∃ device registry', registry.upsert platform (Mqtt.Hub.connectorEvent d instanceId now) =
        some (device, registry') ∧
      registry'.devices = registry.devices.set d.id device ∧ device.id = d.id ∧
      device.name = nameOf platform registry d.id ∧ device.capabilities = d.capabilities ∧
      ∀ key value, d.state.get key = some value → device.state.get key = some value := by
  obtain ⟨named, other⟩ := connector
  have integration : truthy (some d.integration) = some d.integration :=
    truthy_eq_some.mpr ⟨rfl, named⟩
  obtain ⟨device, registry', updated, under⟩ : ∃ device registry',
      registry.upsert platform (Mqtt.Hub.connectorEvent d instanceId now) =
        some (device, registry') ∧ device.id = d.id := by
    unfold DeviceRegistry.upsert
    simp only [Mqtt.Hub.connectorEvent, integration, Option.getD_some, if_neg other,
      Option.map_some]
    refine ⟨_, _, rfl, ?_⟩
    cases found : registry.devices.get d.id with
    | none => rfl
    | some old => exact keyed d.id old found
  have built := upsert_merged keyed updated
  have state := upsert_state keyed updated
  refine ⟨device, registry', updated, ?_, under, ?_, ?_, fun key value has => ?_⟩
  · rw [upsert_devices updated, under]
  · rw [under] at built
    rw [built, nameOf, DeviceRegistry.getById]
    cases registry.devices.get d.id <;> rfl
  · rw [built]
    cases registry.devices.get device.id <;> rfl
  · rw [state key]
    show (d.state.get key).or _ = some value
    rw [has]
    rfl

/-- What emitting a list of reported devices does. -/
structure Arrived (platform : Platform) (registry after : DeviceRegistry) (devices : List Device)
    (reported : OrderedMap String Device) : Prop where
  keyed : after.devices.KeyedBy Device.id
  named : ∀ id, nameOf platform after id = nameOf platform registry id
  reflects : ∀ id device, (report reported devices).get id = some device → Reflects after device

theorem arrived_emitAll (platform : Platform) (devices : List Device) (connectors : ∀ d ∈ devices, OfConnector d)
    (instanceId : Option String) (now : Nat) (keyed : registry.devices.KeyedBy Device.id)
    {reported : OrderedMap String Device} (own : reported.KeyedBy Device.id)
    (before : ∀ id device, reported.get id = some device → Reflects registry device) :
    Arrived platform registry
      (ConnectorManager.emitAll platform instanceId now registry devices).1 devices reported := by
  induction devices generalizing registry reported with
  | nil => exact ⟨keyed, fun _ => rfl, before⟩
  | cons d rest ih =>
      obtain ⟨device, registry', updated, devices, under, name, capabilities, state⟩ :=
        upsert_connectorEvent platform keyed (connectors d List.mem_cons_self) instanceId now
      have others : ∀ k, k ≠ d.id → registry'.getById k = registry.getById k := by
        intro k differ
        show registry'.devices.get k = _
        rw [devices, OrderedMap.get_set_of_ne _ _ differ]
        rfl
      have here : registry'.getById d.id = some device := by
        show registry'.devices.get d.id = _
        rw [devices, OrderedMap.get_set_self]
      have keyed' : registry'.devices.KeyedBy Device.id := by
        rw [devices, ← under]
        exact keyed.set device
      have before' : ∀ id x, (reported.set d.id d).get id = some x → Reflects registry' x := by
        intro id x found
        rw [OrderedMap.get_set] at found
        split at found
        · cases found
          exact ⟨device, here, capabilities, state⟩
        · rename_i differ
          have named := own id x found
          subst named
          obtain ⟨old, there, rest⟩ := before _ x found
          exact ⟨old, (others _ differ).trans there, rest⟩
      have connectors' : ∀ x ∈ rest, OfConnector x := fun x member =>
        connectors x (List.mem_cons_of_mem _ member)
      have arrived := ih connectors' keyed' (own.set d) before'
      have emitted : ConnectorManager.emitAll platform instanceId now registry (d :: rest) =
          ((ConnectorManager.emitAll platform instanceId now registry' rest).1,
            d.id :: (ConnectorManager.emitAll platform instanceId now registry' rest).2) := by
        simp only [ConnectorManager.emitAll, updated]
      rw [emitted]
      refine ⟨arrived.keyed, fun id => (arrived.named id).trans ?_, arrived.reflects⟩
      by_cases same : id = d.id
      · subst same
        rw [← name, nameOf, here]
        rfl
      · rw [nameOf, nameOf, others id same]

end Emitting

/-! ## The connectors that are in flight -/

/-- The connector type has a module. -/
def Flight.Known (w : Wiring) : Flight → Prop
  | .enableConnecting _ type => (w.modules type).isSome = true
  | .enableDiscovering _ type => (w.modules type).isSome = true
  | .restoreConnecting record _ => (w.modules record.connectorType).isSome = true
  | .restoreDiscovering record _ => (w.modules record.connectorType).isSome = true
  | _ => True

namespace ConnectorManager

variable {w : Wiring} {m : ConnectorManager}

def Known (w : Wiring) (m : ConnectorManager) : Prop :=
  ∀ n flight, m.flights.get n = some flight → flight.Known w

theorem Known.launch (known : m.Known w) {flight : Flight} (own : flight.Known w) :
    (m.launch flight).Known w := by
  intro n f found
  have there : (m.flights.set m.next flight).get n = some f := found
  rw [OrderedMap.get_set] at there
  split at there
  · cases there
    exact own
  · exact known n f there

theorem Known.taken (known : m.Known w) (n : Nat) : (m.taken n).Known w := by
  intro k f found
  have there : (m.flights.delete n).get k = some f := found
  rw [OrderedMap.get_delete] at there
  split at there
  · cases there
  · exact known k f there

/-- Only the flights count. -/
theorem Known.frame (known : m.Known w) {m' : ConnectorManager} (same : m'.flights = m.flights) :
    m'.Known w := by
  unfold Known
  rw [same]
  exact known

theorem Known.restoreNext (known : m.Known w) (records : List ConnectorRecord) :
    (m.restoreNext w records).Known w := by
  induction records with
  | nil => exact known
  | cons record rest ih =>
      unfold ConnectorManager.restoreNext
      split
      · exact ih
      · rename_i mod found
        split
        · exact known
        · refine known.launch ?_
          simp [Flight.Known, found]

theorem Known.acted (known : m.Known w) (device : Device) (action : Action) (now : Nat) :
    (m.acted w device action now).Known w := by
  unfold ConnectorManager.acted
  split
  · exact known.frame rfl
  · split
    · exact known.launch trivial
    · exact known.frame rfl

theorem Known.resume (known : m.Known w) {flight : Flight} (own : flight.Known w)
    (outcome : Settled) (now : Nat) (storeThrows : Bool) :
    (m.resume w flight outcome now storeThrows).Known w := by
  cases flight with
  | enableConnecting id type => exact known.launch own
  | enableDiscovering id type =>
      simp only [ConnectorManager.resume, enableDiscovered]
      split
      · exact known
      · split <;> exact known.frame rfl
  | disableDisconnecting id i => exact known.launch trivial
  | disableDisposing id i =>
      simp only [ConnectorManager.resume, disableDisposed]
      split <;> exact known.frame rfl
  | restoreConnecting record rest => exact known.launch own
  | restoreDiscovering record rest =>
      simp only [ConnectorManager.resume, restoreDiscovered]
      split
      · exact known
      · refine Known.restoreNext ?_ rest
        exact known.frame rfl
  | polling id number =>
      simp only [ConnectorManager.resume, polled]
      split <;> exact known.frame rfl
  | retryConnecting id i =>
      simp only [ConnectorManager.resume]
      split
      · exact known
      · exact known.launch trivial
  | retryDiscovering id i => exact known.frame rfl
  | acting device action =>
      simp only [ConnectorManager.resume]
      split
      · exact known
      · exact known.acted device action now
  | rediscovering => exact known.frame rfl

theorem Known.step (known : m.Known w) (e : ConnectorEvent) : (m.step w e).Known w := by
  cases e with
  | enable type id =>
      simp only [ConnectorManager.step, enable]
      split
      · exact known
      · rename_i mod found
        split
        · exact known
        · refine known.launch ?_
          simp [Flight.Known, found]
  | disable id =>
      simp only [ConnectorManager.step, disable]
      split
      · exact known
      · exact Known.launch (known.frame rfl) trivial
  | restoreFromStore => exact known.restoreNext _
  | tick number =>
      simp only [ConnectorManager.step]
      split
      · exact known
      · exact known.launch trivial
  | retry id =>
      simp only [ConnectorManager.step]
      split
      · exact known
      · exact known.launch trivial
  | executeAction deviceId action catalog =>
      simp only [ConnectorManager.step, executeAction]
      split
      · exact known.launch trivial
      · exact known
  | settles n outcome now storeThrows =>
      simp only [ConnectorManager.step]
      split
      · exact known
      · rename_i flight found
        exact (known.taken n).resume (known n flight found) outcome now storeThrows
  | stateChange event =>
      simp only [ConnectorManager.step]
      split
      · split <;> exact known.frame rfl
      · exact known
  | removeDevice id => exact known.frame rfl

end ConnectorManager

/-! ## What a step does to the registry -/

namespace ConnectorManager

section Effects

variable {w : Wiring} {m : ConnectorManager}

theorem emitDevices_nil (instanceId : Option String) (now : Nat) :
    (m.emitDevices w instanceId now []).1 = m.registry := by
  unfold emitDevices
  split <;> rfl

/-- A call that has discovered devices emits them. -/
theorem registry_resume {flight : Flight} (discovers : flight.discovers = true)
    (known : flight.Known w) (outcome : Settled) (now : Nat) (storeThrows : Bool) :
    ∃ instanceId, (m.resume w flight outcome now storeThrows).registry =
      (m.emitDevices w instanceId now outcome.devices).1 := by
  cases flight with
  | enableDiscovering id type =>
      obtain ⟨mod, found⟩ := Option.isSome_iff_exists.mp known
      refine ⟨some id, ?_⟩
      simp only [resume, enableDiscovered, found]
      cases storeThrows <;> rfl
  | restoreDiscovering record rest =>
      obtain ⟨mod, found⟩ := Option.isSome_iff_exists.mp known
      refine ⟨some record.id, ?_⟩
      simp only [resume, restoreDiscovered, found]
      rw [registry_restoreNext]
      rfl
  | polling id number =>
      refine ⟨some id, ?_⟩
      simp only [resume, polled]
      split
      · rename_i nothing
        rw [nothing, emitDevices_nil]
      · rfl
  | retryDiscovering id i => exact ⟨some id, rfl⟩
  | rediscovering => exact ⟨none, rfl⟩
  | enableConnecting id type => cases discovers
  | disableDisconnecting id i => cases discovers
  | disableDisposing id i => cases discovers
  | restoreConnecting record rest => cases discovers
  | retryConnecting id i => cases discovers
  | acting device action => cases discovers

/-- An emission reaches the device that the event is resolved to. -/
theorem getById_emitDevices {instanceId : Option String} {now : Nat} {d : Device} {k : String}
    (other : (m.registry.upsert w.platform (Mqtt.Hub.connectorEvent d instanceId now)).map
      (·.1.id) ≠ some k) :
    (m.emitDevices w instanceId now [d]).1.getById k = m.registry.getById k := by
  unfold emitDevices
  split
  · simp only [emitAll]
    cases updated : m.registry.upsert w.platform (Mqtt.Hub.connectorEvent d instanceId now) with
    | none => rfl
    | some result =>
        rw [updated] at other
        have differ : k ≠ result.1.id := fun same => other (by rw [same]; rfl)
        show result.2.devices.get k = _
        rw [upsert_devices updated, OrderedMap.get_set_of_ne _ _ differ]
        rfl
  · rfl

theorem getById_acted {device : Device} {action : Action} {now : Nat} {k : String}
    (undisturbed : k ∉ (if action.type = "delete" then [device.id]
      else (optimistic device action now).filterMap fun d =>
        (m.registry.upsert w.platform (Mqtt.Hub.connectorEvent d none now)).map (·.1.id))) :
    (m.acted w device action now).registry.getById k = m.registry.getById k := by
  unfold acted
  unfold optimistic at undisturbed
  split
  · rename_i deletes
    rw [if_pos deletes, List.mem_singleton] at undisturbed
    show (m.registry.remove device.id).2.devices.get k = _
    rw [DeviceRegistry.get_remove, if_neg undisturbed]
    rfl
  · rename_i kept
    rw [if_neg kept, if_neg kept] at undisturbed
    split
    · rfl
    · rename_i named
      rw [if_neg named] at undisturbed
      refine getById_emitDevices fun same => undisturbed ?_
      simp only [List.mem_filterMap, List.mem_singleton, exists_eq_left]
      exact same

/-- What was not discovered changes the devices that are disturbed. -/
theorem getById_resume {flight : Flight} (other : flight.discovers = false) {n : Nat}
    (found : m.flights.get n = some flight) {outcome : Settled} {now : Nat} {storeThrows : Bool}
    {k : String} (undisturbed : k ∉ m.disturbed w (.settles n outcome now storeThrows)) :
    ((m.taken n).resume w flight outcome now storeThrows).registry.getById k =
      m.registry.getById k := by
  unfold disturbed at undisturbed
  simp only [found] at undisturbed
  cases flight with
  | enableConnecting id type => rfl
  | disableDisconnecting id i => rfl
  | restoreConnecting record rest => rfl
  | retryConnecting id i => cases outcome <;> rfl
  | disableDisposing id i =>
      have removed : ((m.taken n).resume w (.disableDisposing id i) outcome now
          storeThrows).registry = removeOwned id (m.devicesOf i.devices) m.registry := by
        cases storeThrows <;> rfl
      rw [removed]
      show (removeOwned id (m.devicesOf i.devices) m.registry).devices.get k = _
      unfold removeOwned
      rw [get_foldl_remove, if_neg undisturbed]
      rfl
  | acting device action =>
      cases outcome with
      | threw => rfl
      | returned => exact getById_acted (m := m.taken n) undisturbed
      | discovered devices => exact getById_acted (m := m.taken n) undisturbed
  | enableDiscovering id type => cases other
  | restoreDiscovering record rest => cases other
  | polling id number => cases other
  | retryDiscovering id i => cases other
  | rediscovering => cases other

/-- A step emits what was discovered and disturbs nothing, or discovers nothing and leaves what
it does not disturb. -/
theorem step_registry (known : m.Known w) (e : ConnectorEvent) :
    (m.disturbed w e = [] ∧ ∃ instanceId now, (m.step w e).registry =
      (m.emitDevices w instanceId now (m.discovered e)).1) ∨
    (m.discovered e = [] ∧ ∀ k, k ∉ m.disturbed w e →
      (m.step w e).registry.getById k = m.registry.getById k) := by
  cases e with
  | settles n outcome now storeThrows =>
      cases found : m.flights.get n with
      | none => exact .inr ⟨by simp [discovered, found], fun k _ => by simp [step, found]⟩
      | some flight =>
          have resumed : m.step w (.settles n outcome now storeThrows) =
              (m.taken n).resume w flight outcome now storeThrows := by
            simp only [step, found]
            rfl
          rw [resumed]
          cases discovers : flight.discovers with
          | true =>
              refine .inl ⟨?_, ?_⟩
              · simp only [disturbed, found]
                cases flight <;> first | rfl | cases discovers
              · obtain ⟨instanceId, emitted⟩ := registry_resume (m := m.taken n) discovers
                  (known n flight found) outcome now storeThrows
                refine ⟨instanceId, now, emitted.trans ?_⟩
                simp only [discovered, found, discovers, if_true]
                rfl
          | false =>
              refine .inr ⟨by simp [discovered, found, discovers], fun k undisturbed => ?_⟩
              exact getById_resume discovers found undisturbed
  | stateChange event =>
      refine .inr ⟨rfl, fun k undisturbed => ?_⟩
      simp only [disturbed] at undisturbed
      simp only [step]
      split
      · split
        · rfl
        · rename_i device registry updated
          rw [updated] at undisturbed
          have differ : k ≠ device.id := by simpa using undisturbed
          show registry.devices.get k = _
          rw [upsert_devices updated, OrderedMap.get_set_of_ne _ _ differ]
          rfl
      · rfl
  | removeDevice id =>
      refine .inr ⟨rfl, fun k undisturbed => ?_⟩
      have differ : k ≠ id := by simpa [disturbed] using undisturbed
      show (m.registry.remove id).2.devices.get k = _
      rw [DeviceRegistry.get_remove, if_neg differ]
      rfl
  | enable type id =>
      refine .inr ⟨rfl, fun k _ => ?_⟩
      simp only [step, enable]
      split
      · rfl
      · split <;> rfl
  | disable id =>
      refine .inr ⟨rfl, fun k _ => ?_⟩
      simp only [step, disable]
      split <;> rfl
  | restoreFromStore =>
      refine .inr ⟨rfl, fun k _ => ?_⟩
      simp only [step, restoreFromStore, registry_restoreNext]
  | tick number =>
      refine .inr ⟨rfl, fun k _ => ?_⟩
      simp only [step]
      split <;> rfl
  | retry id =>
      refine .inr ⟨rfl, fun k _ => ?_⟩
      simp only [step]
      split <;> rfl
  | executeAction deviceId action catalog =>
      refine .inr ⟨rfl, fun k _ => ?_⟩
      simp only [step, executeAction]
      split <;> rfl

end Effects

end ConnectorManager

/-! ## Runs -/

namespace Process

variable {w : Wiring} {p : Process}

structure Inv (w : Wiring) (p : Process) : Prop where
  keyed : p.manager.Keyed
  known : p.manager.Known w
  own : p.reported.KeyedBy Device.id
  mirrored : p.Mirrored

theorem inv_startup {registry : DeviceRegistry} (keyed : registry.devices.KeyedBy Device.id)
    (store : OrderedMap String ConnectorRecord) : Inv w (startup registry store) where
  keyed := keyed
  known := fun _ _ found => nomatch found
  own := OrderedMap.keyedBy_empty _
  mirrored := fun _ _ found => nomatch found

/-- What has just been discovered is in the registry, and so is what was there before. -/
theorem shows_discovered (inv : Inv w p) {e : ConnectorEvent}
    (faithful : p.Faithful w (.connector e)) (instanceId : Option String) (now : Nat) {id : String}
    {device : Device}
    (reported : (report p.reported (p.manager.discovered e)).get id = some device) :
    Shows (p.manager.emitDevices w instanceId now (p.manager.discovered e)).1 device := by
  have under : device.id = id := keyed_report inv.own _ id device reported
  unfold ConnectorManager.emitDevices
  simp only [Faithful] at faithful
  split
  · rename_i listening
    rw [if_pos listening] at faithful
    obtain ⟨connectors, names⟩ := faithful
    have arrived := arrived_emitAll w.platform _ connectors instanceId now inv.keyed
      inv.own fun id x found => (inv.mirrored id x found).reflects
    refine (arrived.reflects id device reported).shows w.platform ?_
    rw [arrived.named, under]
    by_cases present : id ∈ (p.manager.discovered e).map Device.id
    · refine names id device ?_
      rw [← reported]
      exact get_report_of_mem _ present _ _
    · rw [get_report_of_not_mem _ present] at reported
      rw [← under]
      exact (inv.mirrored id device reported).nameOf w.platform
  · rename_i deaf
    rw [if_neg deaf] at faithful
    by_cases present : id ∈ (p.manager.discovered e).map Device.id
    · refine faithful id device ?_
      rw [← reported]
      exact get_report_of_mem _ present _ _
    · rw [get_report_of_not_mem _ present] at reported
      exact inv.mirrored id device reported

theorem mirrored_step (inv : Inv w p) {e : ConnectorEvent}
    (faithful : p.Faithful w (.connector e)) : (p.step w (.connector e)).Mirrored := by
  intro id device reported
  change (report ((p.manager.disturbed w e).foldl OrderedMap.delete p.reported)
    (p.manager.discovered e)).get id = some device at reported
  show Shows (p.manager.step w e).registry device
  rcases ConnectorManager.step_registry inv.known e with
    ⟨quiet, instanceId, now, emitted⟩ | ⟨nothing, left⟩
  · rw [quiet] at reported
    rw [emitted]
    exact shows_discovered inv faithful instanceId now reported
  · rw [nothing] at reported
    change ((p.manager.disturbed w e).foldl OrderedMap.delete p.reported).get id =
      some device at reported
    rw [OrderedMap.get_foldl_delete] at reported
    split at reported
    · cases reported
    · rename_i undisturbed
      obtain ⟨there, found, rest⟩ := inv.mirrored id device reported
      have under : device.id = id := inv.own id device reported
      refine ⟨there, ?_, rest⟩
      rw [left device.id (under ▸ undisturbed), found]

theorem step_inv (inv : Inv w p) (e : ProcessEvent) (faithful : p.Faithful w e) :
    Inv w (p.step w e) := by
  cases e with
  | connector e =>
      refine ⟨ConnectorManager.keyed_step _ e inv.keyed, inv.known.step e, ?_,
        mirrored_step inv faithful⟩
      exact keyed_report (inv.own.foldl_delete _) _
  | listens => exact ⟨inv.keyed, inv.known.frame rfl, inv.own, inv.mirrored⟩

end Process

/-- **The registry mirrors the inventory.**  From the start of the process, and in every run whose
discoveries are faithful, the registry has every device as it was last reported, until the device
has another event or is removed. -/
theorem mirrored_along {w : Wiring} {registry : DeviceRegistry}
    (keyed : registry.devices.KeyedBy Device.id) {store : OrderedMap String ConnectorRecord}
    {events : List ProcessEvent}
    (faithful : Along (Process.step w) (Process.Faithful w) (Process.startup registry store)
      events) :
    ∀ p, p <+: events → (run (Process.step w) (Process.startup registry store) p).Mirrored := by
  intro p before
  have inv := @invariant_throughout _ _ (Process.step w) (Process.Inv w) (Process.Faithful w)
    (fun _ e inv faithful => Process.step_inv inv e faithful) _
    (Process.inv_startup keyed store) _ faithful p before
  exact inv.mirrored

/-! ## A lamp in the attic, renamed -/

/-- The lamp of the attic under the name that the registry derives for it, and its state. -/
def namedLamp (name : String) (on : Bool) : Device :=
  { atticLamp with name, state := OrderedMap.empty.set "on" (.bool on) }

/-- The bridge is enabled and reports its lamp. -/
def enablingAttic : List ProcessEvent :=
  [.connector .restoreFromStore, .listens, .connector (.enable "hue" "attic"),
    .connector (.settles 0 .returned 0 false),
    .connector (.settles 1 (.discovered [namedLamp "1" false]) 0 false)]

theorem get_report_single {device found : Device} {id : String}
    (reported : (report .empty [device]).get id = some found) :
    id = device.id ∧ found = device := by
  have single : (OrderedMap.empty.set device.id device).get id = some found := reported
  rw [OrderedMap.get_set] at single
  split at single
  · rename_i same
    exact ⟨same, (Option.some.inj single).symm⟩
  · cases single

/-- The lamp is found under its derived name, and a poll finds it switched on. -/
theorem mirrored_along_attic :
    (run (Process.step houseWiring) (Process.startup {} .empty)
      (enablingAttic ++ [.connector (.tick 2),
        .connector (.settles 3 (.discovered [namedLamp "1" true]) 0 false)])).Mirrored := by
  have lamp : ∀ on, OfConnector (namedLamp "1" on) := by
    intro on
    exact ⟨show "hue" ≠ "" by decide, show "hue" ≠ "mqtt" by decide⟩
  have quiet : ∀ id device, (report .empty []).get id = some device → False :=
    fun _ _ found => nomatch found
  have unreported : ∀ device ∈ ([] : List Device), OfConnector device :=
    fun _ absent => absurd absent List.not_mem_nil
  have faithful : Along (Process.step houseWiring) (Process.Faithful houseWiring)
      (Process.startup {} .empty) (enablingAttic ++ [.connector (.tick 2),
        .connector (.settles 3 (.discovered [namedLamp "1" true]) 0 false)]) := by
    refine ⟨fun id device found => (quiet id device found).elim, ?_⟩
    refine ⟨trivial, ?_⟩
    refine ⟨⟨unreported, fun id device found => (quiet id device found).elim⟩, ?_⟩
    refine ⟨⟨unreported, fun id device found => (quiet id device found).elim⟩, ?_⟩
    refine ⟨⟨fun d member => ?_, fun id device found => ?_⟩, ?_⟩
    · rw [List.mem_singleton.mp member]
      exact lamp false
    · obtain ⟨rfl, rfl⟩ := get_report_single found
      rfl
    refine ⟨⟨unreported, fun id device found => (quiet id device found).elim⟩, ?_⟩
    refine ⟨⟨fun d member => ?_, fun id device found => ?_⟩, trivial⟩
    · rw [List.mem_singleton.mp member]
      exact lamp true
    · obtain ⟨rfl, rfl⟩ := get_report_single found
      rfl
  exact mirrored_along (OrderedMap.keyedBy_empty _) faithful _ (List.prefix_refl _)

/-- What the Hue connector declares of a rename. -/
def renameDescriptor : CapabilityDescriptor where
  type := "rename"
  label := "Rename"
  description := "Rename the light on the bridge"
  params := { required := ["name"], properties := [("name", {})] }

/-- The bridge has carried out the rename and reports the lamp as `Desk`; the registry still has
the lamp under its first name. -/
theorem rename_keeps_old_name :
    ¬ ∀ (w : Wiring) (registry : DeviceRegistry) (store : OrderedMap String ConnectorRecord),
      registry.devices.KeyedBy Device.id → ∀ events : List ProcessEvent,
        (run (Process.step w) (Process.startup registry store) events).Mirrored := by
  intro always
  have bad := always houseWiring {} .empty (OrderedMap.keyedBy_empty _)
    (enablingAttic ++
      [.connector (.executeAction "hue-1"
          ⟨"rename", "hue-1", OrderedMap.empty.set "name" (.str "Desk")⟩ (some [renameDescriptor])),
        .connector (.settles 3 .returned 0 false),
        .connector (.settles 4 (.discovered [namedLamp "Desk" false]) 0 false)])
  obtain ⟨device, found, named, -⟩ := bad "hue-1" (namedLamp "Desk" false) rfl
  have kept : device.name = "1" := by
    cases found
    rfl
  rw [kept] at named
  exact absurd named (by decide)

end Aeolus.Connectors
