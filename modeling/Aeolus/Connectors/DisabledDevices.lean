/-
# Aeolus.Connectors.DisabledDevices — the devices of a disabled connector

The last segment of `disable` removes the devices of the instance and deletes it.  At that
moment nothing of it is left and nothing of another instance is gone.  But the calls that
were in flight are not told: a poll, a retry, an action or a rediscovery that lands later
emits its devices as if the instance were there, and `upsert` enters them again.

What a step does to the registry is said once: `delivered` lists the events it hands to
`upsert`, and `step_changed` says that it does nothing else to the registry than these
updates and removals.  The devices stay away as long as every delivered event is `Foreign`
to the instance (`disabled_leaves_no_devices`); `late_poll_revives` is the failing run.
-/
import Aeolus.Connectors.ContributionCounts

namespace Aeolus.Connectors

open Aeolus.Core Aeolus.Theory Aeolus.Automations

/-! ## What reaches the registry -/

/-- A registry after some of the allowed updates and any removals. -/
inductive Changed (platform : Platform) (allowed : Core.NormalizedEvent → Prop) :
    DeviceRegistry → DeviceRegistry → Prop
  | refl (r : DeviceRegistry) : Changed platform allowed r r
  | upsert {r r' r'' : DeviceRegistry} {event : Core.NormalizedEvent} {device : Device}
      (may : allowed event) (updated : r.upsert platform event = some (device, r'))
      (rest : Changed platform allowed r' r'') : Changed platform allowed r r''
  | remove {r r' : DeviceRegistry} (id : String)
      (rest : Changed platform allowed (r.remove id).2 r') : Changed platform allowed r r'

/-- What every allowed update and every removal keeps is kept. -/
theorem Changed.keeps {platform : Platform} {allowed : Core.NormalizedEvent → Prop}
    {r r' : DeviceRegistry} (changed : Changed platform allowed r r') {P : DeviceRegistry → Prop}
    (updates : ∀ r event device r', P r → allowed event →
      r.upsert platform event = some (device, r') → P r')
    (removals : ∀ r id, P r → P (r.remove id).2) (start : P r) : P r' := by
  induction changed with
  | refl r => exact start
  | upsert may updated rest ih => exact ih (updates _ _ _ _ start may updated)
  | remove id rest ih => exact ih (removals _ id start)

/-- What an action that was executed emits. -/
def ConnectorManager.optimistic (device : Device) (action : Action) (now : Nat) : List Device :=
  if action.type = "delete" then []
  else if action.type = "rename" then []
  else [{ device with state := optimisticState device action, lastSeen := now }]

/-- What a resumed call emits, and for which instance. -/
def Flight.reported (outcome : Settled) (now : Nat) : Flight → Option String × List Device
  | .enableDiscovering id _ => (some id, outcome.devices)
  | .restoreDiscovering record _ => (some record.id, outcome.devices)
  | .polling id _ => (some id, outcome.devices)
  | .retryDiscovering id _ => (some id, outcome.devices)
  | .acting device action =>
      match outcome with
      | .threw => (none, [])
      | _ => (none, ConnectorManager.optimistic device action now)
  | .rediscovering => (none, outcome.devices)
  | _ => (none, [])

namespace ConnectorManager

/-- The events that a step hands to `upsert`. -/
def delivered (m : ConnectorManager) : ConnectorEvent → List Core.NormalizedEvent
  | .settles n outcome now _ =>
      match m.flights.get n with
      | none => []
      | some flight =>
          (flight.reported outcome now).2.map
            (Mqtt.Hub.connectorEvent · (flight.reported outcome now).1 now)
  | .stateChange event => [{ event with connectorInstanceId := none }]
  | _ => []

variable {w : Wiring} {m : ConnectorManager}

theorem changed_emitAll {platform : Platform} {allowed : Core.NormalizedEvent → Prop}
    {instanceId : Option String} {now : Nat} (devices : List Device) (registry : DeviceRegistry)
    (may : ∀ d ∈ devices, allowed (Mqtt.Hub.connectorEvent d instanceId now)) :
    Changed platform allowed registry (emitAll platform instanceId now registry devices).1 := by
  induction devices generalizing registry with
  | nil => exact .refl _
  | cons device rest ih =>
      unfold emitAll
      split
      · exact .refl _
      · rename_i updated
        refine .upsert (may device List.mem_cons_self) updated (ih _ fun d member => ?_)
        exact may d (List.mem_cons_of_mem _ member)

theorem changed_emitDevices {allowed : Core.NormalizedEvent → Prop} {instanceId : Option String}
    {now : Nat} (devices : List Device)
    (may : ∀ d ∈ devices, allowed (Mqtt.Hub.connectorEvent d instanceId now)) :
    Changed w.platform allowed m.registry (m.emitDevices w instanceId now devices).1 := by
  unfold emitDevices
  split
  · exact changed_emitAll _ _ may
  · exact .refl _

theorem changed_foldl_remove {platform : Platform} {allowed : Core.NormalizedEvent → Prop}
    (devices : List Device) (registry : DeviceRegistry) :
    Changed platform allowed registry
      (devices.foldl (fun registry device => (registry.remove device.id).2) registry) := by
  induction devices generalizing registry with
  | nil => exact .refl _
  | cons device rest ih => exact .remove device.id (ih _)

theorem registry_restoreNext (records : List ConnectorRecord) :
    (m.restoreNext w records).registry = m.registry := by
  induction records with
  | nil => rfl
  | cons record rest ih =>
      unfold restoreNext
      split
      · exact ih
      · split <;> rfl

section Segments

variable {allowed : Core.NormalizedEvent → Prop} {outcome : Settled} {now : Nat}

theorem changed_enableDiscovered {id type : String} {saveThrows : Bool}
    (may : ∀ d ∈ outcome.devices, allowed (Mqtt.Hub.connectorEvent d (some id) now)) :
    Changed w.platform allowed m.registry
      (m.enableDiscovered w id type outcome now saveThrows).registry := by
  unfold enableDiscovered
  split
  · exact .refl _
  · cases saveThrows with
    | true => exact changed_emitDevices _ may
    | false => exact changed_emitDevices _ may

theorem changed_disableDisposed {id : String} {i : EnabledInstance} {storeThrows : Bool} :
    Changed w.platform allowed m.registry (m.disableDisposed id i storeThrows).registry := by
  unfold disableDisposed
  cases storeThrows with
  | true => exact changed_foldl_remove _ _
  | false => exact changed_foldl_remove _ _

theorem changed_restoreDiscovered {record : ConnectorRecord} {rest : List ConnectorRecord}
    (may : ∀ d ∈ outcome.devices, allowed (Mqtt.Hub.connectorEvent d (some record.id) now)) :
    Changed w.platform allowed m.registry
      (m.restoreDiscovered w record rest outcome now).registry := by
  unfold restoreDiscovered
  split
  · exact .refl _
  · dsimp only
    rw [registry_restoreNext]
    exact changed_emitDevices _ may

theorem changed_polled {id : String} {number : Nat}
    (may : ∀ d ∈ outcome.devices, allowed (Mqtt.Hub.connectorEvent d (some id) now)) :
    Changed w.platform allowed m.registry (m.polled w id number outcome now).registry := by
  unfold polled
  split
  · exact .refl _
  · exact changed_emitDevices _ may

theorem changed_acted {device : Device} {action : Action}
    (may : ∀ d ∈ optimistic device action now, allowed (Mqtt.Hub.connectorEvent d none now)) :
    Changed w.platform allowed m.registry (m.acted w device action now).registry := by
  unfold optimistic at may
  unfold acted
  split
  · exact .remove device.id (.refl _)
  · rename_i kept
    rw [if_neg kept] at may
    split
    · exact .refl _
    · rename_i named
      rw [if_neg named] at may
      exact changed_emitDevices _ may

/-- A resumed call updates the registry with what it reports, or removes devices. -/
theorem changed_resume (flight : Flight) {storeThrows : Bool}
    (may : ∀ d ∈ (flight.reported outcome now).2,
      allowed (Mqtt.Hub.connectorEvent d (flight.reported outcome now).1 now)) :
    Changed w.platform allowed m.registry
      (m.resume w flight outcome now storeThrows).registry := by
  cases flight with
  | enableConnecting id type => exact .refl _
  | enableDiscovering id type => exact changed_enableDiscovered may
  | disableDisconnecting id i => exact .refl _
  | disableDisposing id i => exact changed_disableDisposed
  | restoreConnecting record rest => exact .refl _
  | restoreDiscovering record rest => exact changed_restoreDiscovered may
  | polling id number => exact changed_polled may
  | retryConnecting id i => cases outcome <;> exact .refl _
  | retryDiscovering id i => exact changed_emitDevices _ may
  | acting device action =>
      cases outcome with
      | threw => exact .refl _
      | returned => exact changed_acted may
      | discovered devices => exact changed_acted may
  | rediscovering => exact changed_emitDevices _ may

end Segments

/-- A step does nothing to the registry but deliver its events and remove devices. -/
theorem step_changed (m : ConnectorManager) (e : ConnectorEvent) :
    Changed w.platform (· ∈ m.delivered e) m.registry (m.step w e).registry := by
  cases e with
  | enable type id =>
      simp only [step, enable]
      split
      · exact .refl _
      · split <;> exact .refl _
  | disable id =>
      simp only [step, disable]
      split <;> exact .refl _
  | restoreFromStore =>
      simp only [step, restoreFromStore]
      rw [registry_restoreNext]
      exact .refl _
  | tick number =>
      simp only [step]
      split <;> exact .refl _
  | retry id =>
      simp only [step]
      split <;> exact .refl _
  | executeAction deviceId action catalog =>
      simp only [step, executeAction]
      split <;> exact .refl _
  | settles n outcome now storeThrows =>
      simp only [step, delivered]
      cases m.flights.get n with
      | none => exact .refl _
      | some flight =>
          refine changed_resume (m := m.taken n) flight fun d member => ?_
          exact List.mem_map.mpr ⟨d, member, rfl⟩
  | stateChange event =>
      simp only [step, delivered]
      split
      · split
        · exact .refl _
        · rename_i updated
          exact .upsert List.mem_cons_self updated (.refl _)
      · exact .refl _
  | removeDevice id => exact .remove id (.refl _)

/-- Devices stand under their ids. -/
def Keyed (m : ConnectorManager) : Prop := m.registry.devices.KeyedBy Device.id

theorem keyed_step (m : ConnectorManager) (e : ConnectorEvent) (keyed : m.Keyed) :
    (m.step w e).Keyed := by
  refine (step_changed m e).keeps (P := fun r => r.devices.KeyedBy Device.id) ?_ ?_ keyed
  · intro r event device r' keyed _ updated
    rw [upsert_devices updated]
    exact keyed.set device
  · intro r id keyed
    unfold DeviceRegistry.remove
    split
    · exact keyed
    · exact keyed.delete id

end ConnectorManager

/-! ## What belongs to an instance -/

section Owners

variable (id : String) (devices : Finset String)

/-- The device is recorded as owned by the instance, or it is a connector device without a
recorded owner that the instance has discovered. -/
def Belongs (device : Device) : Prop :=
  device.connectorInstanceId = some id ∨
    device.connectorInstanceId = none ∧ device.integration ≠ "mqtt" ∧ device.id ∈ devices

/-- The registry has no device of the instance. -/
def Unowned (registry : DeviceRegistry) : Prop :=
  ∀ k d, registry.devices.get k = some d → ¬ Belongs id devices d

/-- An event that names another instance, or none for a device that the instance has not
discovered or that is an MQTT device. -/
def Foreign (event : Core.NormalizedEvent) : Prop :=
  truthy event.connectorInstanceId ≠ some id ∧
    (truthy event.connectorInstanceId = none →
      (truthy event.integration).getD "mqtt" = "mqtt" ∨ event.deviceId ∉ devices)

end Owners

variable {id : String} {devices : Finset String} {registry : DeviceRegistry}

theorem Unowned.remove (unowned : Unowned id devices registry) (device : String) :
    Unowned id devices (registry.remove device).2 := by
  intro k d found
  rw [DeviceRegistry.get_remove] at found
  split at found
  · cases found
  · exact unowned k d found

/-- What a foreign event makes of a device that does not belong to the instance does not
either. -/
theorem not_belongs_merged {platform : Platform} {event : Core.NormalizedEvent}
    {integration deviceId : String} (foreign : Foreign id devices event)
    (named : integration = (truthy event.integration).getD "mqtt")
    (under : integration ≠ "mqtt" → deviceId = event.deviceId) {existing : Option Device}
    (before : ∀ d, existing = some d → ¬ Belongs id devices d) :
    ¬ Belongs id devices (DeviceRegistry.merged platform event integration deviceId existing) := by
  obtain ⟨notThis, unnamed⟩ := foreign
  cases owner : truthy event.connectorInstanceId with
  | some other =>
      -- the event names an owner, and the device has it afterwards
      rw [owner] at notThis
      cases existing with
      | none => simpa [Belongs, DeviceRegistry.merged, owner] using notThis
      | some d => simpa [Belongs, DeviceRegistry.merged, owner] using notThis
  | none =>
      cases existing with
      | none =>
          rintro (recorded | ⟨-, connector, discovered⟩)
          · simp [DeviceRegistry.merged, owner] at recorded
          · change integration ≠ "mqtt" at connector
            change deviceId ∈ devices at discovered
            rw [under connector] at discovered
            rcases unnamed owner with mqtt | absent
            · exact connector (named.trans mqtt)
            · exact absent discovered
      | some d => simpa [Belongs, DeviceRegistry.merged, owner] using before d rfl

theorem Unowned.upsert (unowned : Unowned id devices registry) {platform : Platform}
    {event : Core.NormalizedEvent} {device : Device} {registry' : DeviceRegistry}
    (updated : registry.upsert platform event = some (device, registry'))
    (foreign : Foreign id devices event) : Unowned id devices registry' := by
  have other : ¬ Belongs id devices device := by
    unfold DeviceRegistry.upsert at updated
    obtain ⟨deviceId, resolved, same⟩ := Option.map_eq_some_iff.mp updated
    cases same
    refine not_belongs_merged foreign rfl (fun connector => ?_) fun d found => unowned _ d found
    rw [if_neg connector] at resolved
    exact (Option.some.inj resolved).symm
  intro k d found
  rw [upsert_devices updated, OrderedMap.get_set] at found
  split at found
  · cases found
    exact other
  · exact unowned k d found

namespace ConnectorManager

variable {w : Wiring} {m : ConnectorManager}

/-- No event of the step brings a device of the instance. -/
def StaysAway (id : String) (devices : Finset String) (m : ConnectorManager)
    (e : ConnectorEvent) : Prop :=
  ∀ event ∈ m.delivered e, Foreign id devices event

/-- The manager's registry has no device of the instance. -/
def Without (id : String) (devices : Finset String) (m : ConnectorManager) : Prop :=
  Unowned id devices m.registry

theorem without_step (m : ConnectorManager) (e : ConnectorEvent) (unowned : m.Without id devices)
    (away : StaysAway id devices m e) : (m.step w e).Without id devices := by
  refine (step_changed m e).keeps ?_ ?_ unowned
  · intro r event device r' unowned member updated
    exact unowned.upsert updated (away event member)
  · exact fun r device unowned => unowned.remove device

/-! ## The removal -/

theorem get_foldl_remove (l : List Device) (registry : DeviceRegistry) (k : String) :
    (l.foldl (fun registry device => (registry.remove device.id).2) registry).devices.get k =
      if k ∈ l.map Device.id then none else registry.devices.get k := by
  induction l generalizing registry with
  | nil => simp
  | cons device rest ih =>
      rw [List.foldl_cons, ih, DeviceRegistry.get_remove]
      by_cases here : k = device.id
      · simp [here]
      · simp [here]

/-- The removal loop removes what the instance owns, and nothing else. -/
theorem get_removeOwned (keyed : registry.devices.KeyedBy Device.id) (k : String) :
    (removeOwned id devices registry).devices.get k =
      (registry.devices.get k).filter fun d => !ownedBy id devices d := by
  unfold removeOwned
  rw [get_foldl_remove]
  cases found : registry.devices.get k with
  | none => simp
  | some d =>
      have under : d.id = k := keyed k d found
      have removed : k ∈ (registry.devices.values.filter (ownedBy id devices)).map Device.id ↔
          ownedBy id devices d = true := by
        constructor
        · intro member
          obtain ⟨d', listed, same⟩ := List.mem_map.mp member
          obtain ⟨there, owned⟩ := List.mem_filter.mp listed
          obtain ⟨k', found'⟩ := OrderedMap.mem_values.mp there
          rw [← keyed k' d' found', same, found] at found'
          cases found'
          exact owned
        · intro owned
          have listed := OrderedMap.mem_values.mpr ⟨k, found⟩
          exact List.mem_map.mpr ⟨d, List.mem_filter.mpr ⟨listed, owned⟩, under⟩
      by_cases owned : ownedBy id devices d = true
      · rw [if_pos (removed.mpr owned), Option.filter_some, owned]
        rfl
      · rw [if_neg (removed.not.mpr owned), Option.filter_some, Bool.eq_false_of_not_eq_true owned]
        rfl

theorem registry_disposed {n : Nat} {id : String} {i : EnabledInstance}
    (disposing : m.flights.get n = some (.disableDisposing id i)) (outcome : Settled) (now : Nat) :
    (m.step w (.settles n outcome now false)).registry =
      removeOwned id (m.devicesOf i.devices) m.registry := by
  simp only [step, disposing]
  rfl

/-- No device without a recorded owner was discovered by this instance and by another. -/
def Apart (id : String) (devices : Finset String) (m : ConnectorManager) : Prop :=
  ∀ other i, other ≠ id → m.instances.get other = some i →
    ∀ k d, m.registry.devices.get k = some d → d.connectorInstanceId = none → d.id ∈ devices →
      d.id ∉ m.devicesOf i.devices

/-- Then what another instance owns is not owned by this one. -/
theorem Apart.not_owned (apart : m.Apart id devices) {other : String} {i : EnabledInstance}
    (differ : other ≠ id) (there : m.instances.get other = some i) {k : String} {d : Device}
    (found : m.registry.devices.get k = some d)
    (owned : ownedBy other (m.devicesOf i.devices) d = true) : ownedBy id devices d = false := by
  unfold ownedBy at owned ⊢
  simp only [decide_eq_true_eq, decide_eq_false_iff_not] at owned ⊢
  rintro (recorded | ⟨unrecorded, discovered⟩)
  · rcases owned with theirs | ⟨unrecorded, -⟩
    · exact differ (Option.some.inj (theirs.symm.trans recorded))
    · exact absurd (recorded.symm.trans unrecorded) (by simp)
  · rcases owned with theirs | ⟨-, member⟩
    · exact absurd (theirs.symm.trans unrecorded) (by simp)
    · exact apart other i differ there k d found unrecorded discovered member

end ConnectorManager

open ConnectorManager

/-- **Disabled connectors.**  After any run, let the last segment of a disable complete.  Then
no device that the instance owns is left, every device that another instance owns is there as
before, and no device of the instance comes back in any run whose steps deliver no event of
it. -/
theorem disabled_leaves_no_devices {w : Wiring} {m₀ : ConnectorManager}
    (keyed : m₀.Keyed) (before : List ConnectorEvent) {n : Nat}
    {id : String} {i : EnabledInstance}
    (disposing : (run (ConnectorManager.step w) m₀ before).flights.get n =
      some (.disableDisposing id i))
    (apart : (run (ConnectorManager.step w) m₀ before).Apart id
      ((run (ConnectorManager.step w) m₀ before).devicesOf i.devices)) (outcome : Settled)
    (now : Nat) :
    let m := run (ConnectorManager.step w) m₀ before
    let m' := m.step w (.settles n outcome now false)
    (∀ k d, m'.registry.devices.get k = some d →
      ownedBy id (m.devicesOf i.devices) d = false) ∧
    (∀ other j, other ≠ id → m.instances.get other = some j →
      ∀ k d, m.registry.devices.get k = some d →
        ownedBy other (m.devicesOf j.devices) d = true →
        m'.registry.devices.get k = some d) ∧
    ∀ after, Along (ConnectorManager.step w) (StaysAway id (m.devicesOf i.devices)) m' after →
      ∀ p, p <+: after →
        (run (ConnectorManager.step w) m' p).Without id (m.devicesOf i.devices) := by
  intro m m'
  have keyedNow : m.Keyed := run_invariant keyed_step keyed before
  have left : ∀ k, m'.registry.devices.get k =
      (m.registry.devices.get k).filter fun d => !ownedBy id (m.devicesOf i.devices) d := by
    intro k
    change (m.step w (.settles n outcome now false)).registry.devices.get k = _
    rw [registry_disposed disposing]
    exact get_removeOwned keyedNow k
  have gone : ∀ k d, m'.registry.devices.get k = some d →
      ownedBy id (m.devicesOf i.devices) d = false := by
    intro k d found
    rw [left] at found
    simpa using (Option.filter_eq_some_iff.mp found).2
  refine ⟨gone, fun other j differ there k d found owned => ?_, fun after along => ?_⟩
  · rw [left, found, Option.filter_some, apart.not_owned differ there found owned]
    rfl
  · refine invariant_throughout without_step ?_ along
    intro k d found belongs
    have free := gone k d found
    unfold ownedBy at free
    simp only [decide_eq_false_iff_not] at free
    rcases belongs with recorded | ⟨unrecorded, -, discovered⟩
    · exact free (.inl recorded)
    · exact free (.inr ⟨unrecorded, discovered⟩)

/-! ## A lamp in the attic -/

def atticLamp : Device :=
  { id := "hue-1"
    name := "Lamp"
    type := "light"
    capabilities := ["on/off"]
    state := .empty
    integration := "hue"
    lastSeen := 1 }

/-- The attic bridge is enabled with its lamp, a poll starts, and a disable gets to the end of
its disconnection. -/
def disablingAttic : List ConnectorEvent :=
  [.enable "hue" "attic", .settles 0 .returned 0 false,
    .settles 1 (.discovered [atticLamp]) 0 false, .tick 2, .disable "attic",
    .settles 4 .returned 0 false]

theorem attic_keyed : ({} : ConnectorManager).Keyed := OrderedMap.keyedBy_empty _

theorem attic_devices :
    (run (ConnectorManager.step houseWiring) {} disablingAttic).devicesOf 2 = {"hue-1"} := by
  rfl

theorem attic_apart :
    (run (ConnectorManager.step houseWiring) {} disablingAttic).Apart "attic"
      ((run (ConnectorManager.step houseWiring) {} disablingAttic).devicesOf 2) := by
  intro other i differ there
  have only : (run (ConnectorManager.step houseWiring) {} disablingAttic).instances =
      OrderedMap.empty.set "attic" ⟨"hue", 2⟩ := rfl
  rw [only, OrderedMap.get_set_of_ne _ _ differ] at there
  cases there

theorem attic_disposing :
    (run (ConnectorManager.step houseWiring) {} disablingAttic).flights.get 5 =
      some (.disableDisposing "attic" ⟨"hue", 2⟩) := by
  rfl

def plugReport : Core.NormalizedEvent :=
  { deviceId := "plug", deviceType := "plug", state := .empty, topic := "home/plug", timestamp := 7 }

/-- The poll fails; an MQTT device that reports afterwards does not bring the lamp back. -/
theorem disabled_leaves_no_devices_attic :
    let done := (run (ConnectorManager.step houseWiring) {} disablingAttic).step houseWiring
      (.settles 5 .returned 0 false)
    let m := run (ConnectorManager.step houseWiring) done
      [.settles 3 .threw 0 false, .stateChange plugReport]
    m.registry.devices.has "plug" = true ∧ m.Without "attic" {"hue-1"} := by
  intro done m
  refine ⟨rfl, ?_⟩
  obtain ⟨-, -, later⟩ := disabled_leaves_no_devices attic_keyed disablingAttic
    attic_disposing attic_apart .returned 0
  rw [attic_devices] at later
  refine later [.settles 3 .threw 0 false, .stateChange plugReport] ⟨fun event member => ?_, fun event member => ?_,
    trivial⟩ _ (List.prefix_refl _)
  · exact absurd member List.not_mem_nil
  · rw [List.mem_singleton.mp member]
    exact ⟨by decide, fun _ => .inl rfl⟩

/-- The poll lands after the disable has completed, and the lamp is back. -/
theorem late_poll_revives :
    let done := run (ConnectorManager.step houseWiring) {}
      (disablingAttic ++ [.settles 5 .returned 0 false])
    let m := done.step houseWiring (.settles 3 (.discovered [atticLamp]) 0 false)
    done.instances.has "attic" = false ∧ done.registry.devices.has "hue-1" = false ∧
      m.instances.has "attic" = false ∧
      (m.registry.devices.get "hue-1").bind Device.connectorInstanceId = some "attic" ∧
      ¬ m.Without "attic" {"hue-1"} := by
  intro done m
  refine ⟨rfl, rfl, rfl, rfl, fun without => ?_⟩
  exact without "hue-1" _ rfl (.inl rfl)

end Aeolus.Connectors
