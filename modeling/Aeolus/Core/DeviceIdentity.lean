/-
# Aeolus.Core.DeviceIdentity — which record a topic has

The registry keeps an index from MQTT state topics to device ids beside the devices
themselves.  `Sound` says that the index never lies and that only MQTT records have a
topic; every operation keeps it, whatever the ids.  `Indexed` adds that the index misses
nothing, which needs ids that are not empty: `getByMqttTopic` takes an empty id for no id.

Under `Sound` a topic resolves to an id that is free, that has this topic already, or that
has no topic yet (`resolved_record`).  Under `Indexed` a topic with a record resolves to it
(`resolve_of_indexed`), and resolving a resolved id changes nothing (`resolve_resolved`).

`loadFromDb` builds such a registry from the `devices` table, with the primary key and the
unique index of migration 008 as `DeviceTable` states them.
-/
import Aeolus.Core.DevicePersistence

namespace Aeolus.Core

open Aeolus.Theory

/-! ## Loading -/

/-- `JSON.parse` on the three columns that hold JSON; `none` when it throws. -/
structure ParseRow where
  capabilities : String → Option (List String)
  state : String → Option JsonObject
  profile : String → Option MqttCommandProfile

def ParseRow.commandProfile (json : ParseRow) (column : Option String) :
    Option (Option MqttCommandProfile) :=
  match truthy column with
  | none => some none
  | some text => (json.profile text).map some

/-- A malformed row gives no device. -/
def deserializeDevice (json : ParseRow) (row : DeviceRow) : Option Device := do
  let capabilities ← json.capabilities row.capabilities
  let state ← json.state row.state
  let profile ← json.commandProfile row.mqttCommandProfile
  return { id := row.id
           name := row.name
           type := row.type
           capabilities := capabilities
           state := state
           integration := if row.integration = "" then "mqtt" else row.integration
           lastSeen := row.lastSeen
           topic := row.topic
           commandTopic := row.commandTopic
           connectorInstanceId := row.connectorInstanceId
           mqttCommandProfile := profile }

namespace DeviceRegistry

/-- One round of the loop of `loadFromDb`. -/
def loadRow (json : ParseRow) (r : DeviceRegistry) (row : DeviceRow) : DeviceRegistry :=
  match deserializeDevice json row with
  | none => r
  | some device => r.registerDevice device

def loadFromDb (json : ParseRow) (rows : List DeviceRow) : DeviceRegistry :=
  rows.foldl (loadRow json) {}

end DeviceRegistry

/-- The `devices` table: ids are a primary key and not empty, a topic is unique within its
integration, and only MQTT rows have one. -/
structure DeviceTable (rows : List DeviceRow) : Prop where
  primary : (rows.map DeviceRow.id).Nodup
  unique : ∀ a ∈ rows, ∀ b ∈ rows, a.integration = b.integration → a.topic = b.topic →
    a.topic ≠ none → a.id = b.id
  named : ∀ row ∈ rows, row.id ≠ ""
  bare : ∀ row ∈ rows, row.integration ≠ "mqtt" → row.topic = none

theorem deserializeDevice_some {json : ParseRow} {row : DeviceRow} {device : Device}
    (read : deserializeDevice json row = some device) :
    device.id = row.id ∧ device.topic = row.topic ∧
      device.integration = if row.integration = "" then "mqtt" else row.integration := by
  simp only [deserializeDevice, Option.bind_eq_bind, Option.bind_eq_some_iff] at read
  obtain ⟨capabilities, -, state, -, profile, -, same⟩ := read
  cases same
  exact ⟨rfl, rfl, rfl⟩

/-! ## A sound index -/

namespace DeviceRegistry

/-- The record is an MQTT device of this topic; an empty topic counts as none. -/
def HasTopic (device : Device) (topic : String) : Prop :=
  device.integration = "mqtt" ∧ truthy device.topic = some topic

instance (device : Device) (topic : String) : Decidable (HasTopic device topic) :=
  inferInstanceAs (Decidable (_ ∧ _))

structure Sound (r : DeviceRegistry) : Prop where
  keyed : r.devices.KeyedBy Device.id
  indexed : ∀ t d, r.mqttDeviceIdsByTopic.get t = some d →
    ∃ device, r.devices.get d = some device ∧ HasTopic device t
  bare : ∀ d device, r.devices.get d = some device → device.integration ≠ "mqtt" →
    device.topic = none

structure Indexed (r : DeviceRegistry) : Prop extends r.Sound where
  complete : ∀ d device t, r.devices.get d = some device → HasTopic device t →
    r.mqttDeviceIdsByTopic.get t = some d
  named : ∀ t d, r.mqttDeviceIdsByTopic.get t = some d → d ≠ ""

theorem sound_empty : Sound {} where
  keyed := OrderedMap.keyedBy_empty _
  indexed _ _ found := nomatch found
  bare _ _ found := nomatch found

theorem indexed_empty : Indexed {} where
  toSound := sound_empty
  complete _ _ _ found := nomatch found
  named _ _ found := nomatch found

theorem get_indexTopic (index : OrderedMap String String) (device : Device) (t : String) :
    (indexTopic index device).get t =
      if HasTopic device t then some device.id else index.get t := by
  by_cases own : HasTopic device t
  · rw [if_pos own]
    simp [indexTopic, own.1, own.2]
  · rw [if_neg own]
    cases topic : truthy device.topic with
    | none => simp [indexTopic, topic]
    | some other =>
        by_cases mqtt : device.integration = "mqtt"
        · have differ : t ≠ other := by
            rintro rfl
            exact own ⟨mqtt, topic⟩
          simp [indexTopic, topic, mqtt, OrderedMap.get_set_of_ne _ _ differ]
        · simp [indexTopic, topic, mqtt]

/-- A device that can be put into the registry: it has a topic only as an MQTT device, and a
record under its id that has a topic has the same one. -/
structure Fits (r : DeviceRegistry) (device : Device) : Prop where
  bare : device.integration ≠ "mqtt" → device.topic = none
  keeps : ∀ old t, r.devices.get device.id = some old → HasTopic old t → HasTopic device t

variable {r : DeviceRegistry}

theorem Sound.registerDevice (sound : r.Sound) {device : Device} (fits : r.Fits device) :
    (r.registerDevice device).Sound where
  keyed := sound.keyed.set device
  indexed t d found := by
    unfold DeviceRegistry.registerDevice at found ⊢
    dsimp only at found ⊢
    rw [get_indexTopic] at found
    rw [OrderedMap.get_set]
    split at found
    · rename_i own
      cases found
      exact ⟨device, if_pos rfl, own⟩
    · obtain ⟨old, there, topic⟩ := sound.indexed t d found
      by_cases here : d = device.id
      · subst here
        exact ⟨device, if_pos rfl, fits.keeps old t there topic⟩
      · exact ⟨old, by rw [if_neg here, there], topic⟩
  bare d other found := by
    unfold DeviceRegistry.registerDevice at found
    rw [OrderedMap.get_set] at found
    split at found
    · cases found
      exact fits.bare
    · exact sound.bare d other found

theorem Indexed.registerDevice (indexed : r.Indexed) {device : Device} (fits : r.Fits device)
    (named : device.id ≠ "")
    (alone : ∀ t d, HasTopic device t → r.mqttDeviceIdsByTopic.get t = some d → d = device.id) :
    (r.registerDevice device).Indexed where
  toSound := indexed.toSound.registerDevice fits
  complete d other t found topic := by
    unfold DeviceRegistry.registerDevice at found ⊢
    dsimp only at found ⊢
    rw [OrderedMap.get_set] at found
    rw [get_indexTopic]
    split at found
    · rename_i here
      cases found
      rw [if_pos topic, here]
    · rename_i elsewhere
      have before := indexed.complete d other t found topic
      rw [if_neg fun own => elsewhere (alone t d own before)]
      exact before
  named t d found := by
    unfold DeviceRegistry.registerDevice at found
    rw [get_indexTopic] at found
    split at found
    · cases found
      exact named
    · exact indexed.named t d found

/-! ## Removal -/

theorem Sound.hasTopic (sound : r.Sound) {d : String} {device : Device} {t : String}
    (found : r.devices.get d = some device) (here : r.mqttDeviceIdsByTopic.get t = some d) :
    HasTopic device t := by
  obtain ⟨other, there, topic⟩ := sound.indexed t d here
  cases found.symm.trans there
  exact topic

/-- The devices and the index without a record. -/
theorem remove_eq {id : String} {device : Device} (found : r.devices.get id = some device) :
    (r.remove id).2.devices = r.devices.delete id ∧
      ∀ t, (r.remove id).2.mqttDeviceIdsByTopic.get t =
        if HasTopic device t then none else r.mqttDeviceIdsByTopic.get t := by
  simp only [DeviceRegistry.remove, found]
  refine ⟨trivial, fun t => ?_⟩
  by_cases own : HasTopic device t
  · rw [if_pos own]
    simp [own.1, own.2]
  · rw [if_neg own]
    cases topic : truthy device.topic with
    | none => simp
    | some other =>
        by_cases mqtt : device.integration = "mqtt"
        · have differ : t ≠ other := by
            rintro rfl
            exact own ⟨mqtt, topic⟩
          simp [mqtt, OrderedMap.get_delete_of_ne _ differ]
        · simp [mqtt]

theorem remove_absent {id : String} (absent : r.devices.get id = none) : (r.remove id).2 = r := by
  unfold DeviceRegistry.remove
  rw [absent]

theorem Sound.remove (sound : r.Sound) (id : String) : (r.remove id).2.Sound := by
  cases found : r.devices.get id with
  | none =>
      rw [remove_absent found]
      exact sound
  | some device =>
      obtain ⟨devices, index⟩ := remove_eq found
      refine ⟨?_, fun t d here => ?_, fun d other there => ?_⟩
      · rw [devices]
        exact sound.keyed.delete id
      · rw [index] at here
        split at here
        · cases here
        · rename_i kept
          obtain ⟨other, there, topic⟩ := sound.indexed t d here
          have elsewhere : d ≠ id := by
            rintro rfl
            exact kept (sound.hasTopic found here)
          rw [devices, OrderedMap.get_delete_of_ne _ elsewhere]
          exact ⟨other, there, topic⟩
      · rw [devices, OrderedMap.get_delete] at there
        split at there
        · cases there
        · exact sound.bare d other there

theorem Indexed.remove (indexed : r.Indexed) (id : String) : (r.remove id).2.Indexed := by
  cases found : r.devices.get id with
  | none =>
      rw [remove_absent found]
      exact indexed
  | some device =>
      obtain ⟨devices, index⟩ := remove_eq found
      refine ⟨indexed.toSound.remove id, fun d other t there topic => ?_, fun t d here => ?_⟩
      · rw [devices, OrderedMap.get_delete] at there
        split at there
        · cases there
        · rename_i elsewhere
          have before := indexed.complete d other t there topic
          rw [index, if_neg fun own => elsewhere ?_]
          · exact before
          · have both := indexed.complete id device t found own
            exact Option.some.inj (before.symm.trans both)
      · rw [index] at here
        split at here
        · cases here
        · exact indexed.named t d here

/-! ## Resolution -/

section Resolution

variable {platform : Platform} {t legacy d : String}

/-- What stands under the id may take a topic: it is an MQTT record without one. -/
def Adoptable (r : DeviceRegistry) (id : String) : Prop :=
  ∀ device, r.devices.get id = some device →
    device.integration = "mqtt" ∧ truthy device.topic = none

theorem resolve_adoptable (unknown : r.getByMqttTopic t = none) (free : r.Adoptable legacy) :
    r.resolveMqttDeviceId platform t legacy = some legacy := by
  unfold resolveMqttDeviceId
  rw [unknown]
  dsimp only
  cases found : r.devices.get legacy with
  | none => simp
  | some device =>
      obtain ⟨mqtt, untitled⟩ := free device found
      simp [mqtt, untitled]

/-- The search among the extensions of an id that another record has. -/
theorem resolve_taken (unknown : r.getByMqttTopic t = none) (taken : ¬ r.Adoptable legacy)
    (resolved : r.resolveMqttDeviceId platform t legacy = some d) :
    (∃ length, d = hashedId platform t legacy length) ∧
      ∀ device, r.devices.get d = some device → device.topic = some t := by
  unfold Adoptable at taken
  push Not at taken
  obtain ⟨old, found, other⟩ := taken
  unfold resolveMqttDeviceId at resolved
  rw [unknown] at resolved
  dsimp only at resolved
  rw [found] at resolved
  dsimp only at resolved
  rw [if_neg (by simpa using other)] at resolved
  obtain ⟨length, -, same⟩ := List.mem_map.mp (List.mem_of_find?_eq_some resolved)
  refine ⟨⟨length, same.symm⟩, fun device there => ?_⟩
  have free := List.find?_some resolved
  simpa [there] using free

/-- An id is the one that the topic has, or the given one if that is free, or an extension of
it that is free or has the topic. -/
theorem resolve_cases (resolved : r.resolveMqttDeviceId platform t legacy = some d) :
    (∃ device, r.getByMqttTopic t = some device ∧ d = device.id) ∨
    (r.getByMqttTopic t = none ∧ d = legacy ∧ r.Adoptable legacy) ∨
    (r.getByMqttTopic t = none ∧ (∃ length, d = hashedId platform t legacy length) ∧
      ∀ device, r.devices.get d = some device → device.topic = some t) := by
  cases known : r.getByMqttTopic t with
  | some device =>
      rw [resolveMqttDeviceId, known] at resolved
      exact .inl ⟨device, rfl, (Option.some.inj resolved).symm⟩
  | none =>
      by_cases free : r.Adoptable legacy
      · rw [resolve_adoptable known free] at resolved
        exact .inr (.inl ⟨rfl, (Option.some.inj resolved).symm, free⟩)
      · exact .inr (.inr ⟨rfl, resolve_taken known free resolved⟩)

theorem Sound.getByMqttTopic (sound : r.Sound) {device : Device}
    (known : r.getByMqttTopic t = some device) :
    r.mqttDeviceIdsByTopic.get t = some device.id ∧ r.devices.get device.id = some device := by
  unfold DeviceRegistry.getByMqttTopic at known
  obtain ⟨id, named, found⟩ := Option.bind_eq_some_iff.mp known
  rw [sound.keyed id device found]
  exact ⟨(truthy_eq_some.mp named).1, found⟩

/-- The record under a resolved id is an MQTT device with this topic or with none. -/
theorem Sound.resolved_record (sound : r.Sound)
    (resolved : r.resolveMqttDeviceId platform t legacy = some d) {device : Device}
    (found : r.devices.get d = some device) :
    device.integration = "mqtt" ∧ (device.topic = some t ∨ truthy device.topic = none) := by
  obtain ⟨known, here, rfl⟩ | ⟨-, rfl, free⟩ | ⟨-, -, free⟩ := resolve_cases resolved
  · obtain ⟨index, there⟩ := sound.getByMqttTopic here
    cases found.symm.trans there
    obtain ⟨mqtt, topic⟩ := sound.hasTopic found index
    exact ⟨mqtt, .inl (truthy_eq_some.mp topic).1⟩
  · obtain ⟨mqtt, untitled⟩ := free device found
    exact ⟨mqtt, .inr untitled⟩
  · have topic := free device found
    refine ⟨?_, .inl topic⟩
    by_contra connector
    rw [sound.bare d device found connector] at topic
    cases topic

theorem Indexed.getByMqttTopic (indexed : r.Indexed)
    (here : r.mqttDeviceIdsByTopic.get t = some d) :
    ∃ device, r.getByMqttTopic t = some device ∧ device.id = d := by
  obtain ⟨device, found, -⟩ := indexed.indexed t d here
  have named : truthy (r.mqttDeviceIdsByTopic.get t) = some d :=
    truthy_eq_some.mpr ⟨here, indexed.named t d here⟩
  refine ⟨device, ?_, indexed.keyed d device found⟩
  rw [DeviceRegistry.getByMqttTopic, named]
  exact found

/-- A topic in the index resolves to its record. -/
theorem Indexed.resolve_of_indexed (indexed : r.Indexed)
    (here : r.mqttDeviceIdsByTopic.get t = some d) :
    r.resolveMqttDeviceId platform t legacy = some d := by
  obtain ⟨device, known, rfl⟩ := indexed.getByMqttTopic here
  rw [resolveMqttDeviceId, known]

/-- **Stability.**  Resolving a topic against an id that it resolved to gives this id. -/
theorem Indexed.resolve_resolved (indexed : r.Indexed)
    (resolved : r.resolveMqttDeviceId platform t legacy = some d) :
    r.resolveMqttDeviceId platform t d = some d := by
  obtain ⟨known, here, rfl⟩ | ⟨-, rfl, -⟩ | ⟨unknown, -, free⟩ := resolve_cases resolved
  · rw [resolveMqttDeviceId, here]
  · exact resolved
  · -- an extension with this topic would be in the index, unless the topic is empty
    refine resolve_adoptable unknown fun device found => ?_
    have mqtt := (indexed.resolved_record resolved found).1
    refine ⟨mqtt, ?_⟩
    by_contra titled
    obtain ⟨other, named⟩ := Option.ne_none_iff_exists'.mp titled
    have same : other = t := by
      have topic := free device found
      rw [(truthy_eq_some.mp named).1] at topic
      exact Option.some.inj topic
    subst same
    obtain ⟨_, known, -⟩ :=
      indexed.getByMqttTopic (indexed.complete d device other found ⟨mqtt, named⟩)
    rw [unknown] at known
    cases known

theorem resolved_named (indexed : r.Indexed)
    (resolved : r.resolveMqttDeviceId platform t legacy = some d) (named : legacy ≠ "") :
    d ≠ "" := by
  obtain ⟨known, here, rfl⟩ | ⟨-, rfl, -⟩ | ⟨-, ⟨length, rfl⟩, -⟩ := resolve_cases resolved
  · exact indexed.named t _ (indexed.toSound.getByMqttTopic here).1
  · exact named
  · intro empty
    have short := congrArg String.length empty
    simp [hashedId] at short

end Resolution

/-! ## Updates -/

section Updates

variable {platform : Platform} {event : NormalizedEvent} {device : Device} {r' : DeviceRegistry}

/-- The integration that an event is for. -/
def integrationOf (event : NormalizedEvent) : String := (truthy event.integration).getD "mqtt"

theorem Sound.merged_id (sound : r.Sound) (platform : Platform) (event : NormalizedEvent)
    (integration d : String) :
    (merged platform event integration d (r.devices.get d)).id = d := by
  cases found : r.devices.get d with
  | none => rfl
  | some old => exact sound.keyed d old found

/-- An update puts one device into the registry, under the id that was resolved. -/
theorem Sound.upsert_eq (sound : r.Sound) (updated : r.upsert platform event = some (device, r')) :
    r' = r.registerDevice device ∧
      device = merged platform event (integrationOf event) device.id
        (r.devices.get device.id) ∧
      (if integrationOf event = "mqtt" then
          r.resolveMqttDeviceId platform event.topic event.deviceId
        else some event.deviceId) = some device.id := by
  have built := upsert_merged sound.keyed updated
  unfold DeviceRegistry.upsert at updated
  obtain ⟨deviceId, resolved, same⟩ := Option.map_eq_some_iff.mp updated
  cases same
  have under := sound.merged_id platform event (integrationOf event) deviceId
  exact ⟨rfl, built, resolved.trans (congrArg some under.symm)⟩

theorem Sound.upsert_mqtt (sound : r.Sound) (updated : r.upsert platform event = some (device, r'))
    (mqtt : integrationOf event = "mqtt") :
    device.integration = "mqtt" ∧ device.topic = some event.topic ∧
      r.resolveMqttDeviceId platform event.topic event.deviceId = some device.id := by
  obtain ⟨-, built, resolved⟩ := sound.upsert_eq updated
  rw [if_pos mqtt] at resolved
  refine ⟨?_, ?_, resolved⟩
  · rw [built, mqtt]
    cases found : r.devices.get device.id with
    | none => rfl
    | some old => exact (sound.resolved_record resolved found).1
  · rw [built, mqtt]
    cases r.devices.get device.id <;> rfl

theorem Sound.upsert_connector (sound : r.Sound)
    (updated : r.upsert platform event = some (device, r'))
    (connector : integrationOf event ≠ "mqtt") :
    device.id = event.deviceId ∧
      (r.devices.get device.id = none ∧ device.integration = integrationOf event ∧
          device.topic = none ∨
        ∃ old, r.devices.get device.id = some old ∧ device.integration = old.integration ∧
          device.topic = old.topic) := by
  obtain ⟨-, built, resolved⟩ := sound.upsert_eq updated
  rw [if_neg connector] at resolved
  refine ⟨(Option.some.inj resolved).symm, ?_⟩
  cases found : r.devices.get device.id with
  | none =>
      rw [found] at built
      refine .inl ⟨rfl, ?_, ?_⟩
      · rw [built]
        rfl
      · rw [built]
        exact if_neg connector
  | some old =>
      rw [found] at built
      refine .inr ⟨old, rfl, ?_, ?_⟩
      · rw [built]
        rfl
      · rw [built]
        exact if_neg connector

theorem Sound.fits_upsert (sound : r.Sound) (updated : r.upsert platform event = some (device, r')) :
    r.Fits device := by
  by_cases mqtt : integrationOf event = "mqtt"
  · obtain ⟨integration, topic, resolved⟩ := sound.upsert_mqtt updated mqtt
    refine ⟨fun connector => absurd integration connector, fun old t found had => ?_⟩
    rcases (sound.resolved_record resolved found).2 with same | untitled
    · have old_topic := had.2
      rw [same, ← topic] at old_topic
      exact ⟨integration, old_topic⟩
    · rw [had.2] at untitled
      cases untitled
  · obtain ⟨-, ⟨free, -, untitled⟩ | ⟨old, found, integration, topic⟩⟩ :=
      sound.upsert_connector updated mqtt
    · refine ⟨fun _ => untitled, fun old t found => ?_⟩
      rw [free] at found
      cases found
    · refine ⟨fun connector => ?_, fun other t there had => ?_⟩
      · rw [topic]
        rw [integration] at connector
        exact sound.bare _ old found connector
      · cases found.symm.trans there
        exact ⟨integration.trans had.1, (congrArg truthy topic).trans had.2⟩

theorem Sound.upsert (sound : r.Sound) (updated : r.upsert platform event = some (device, r')) :
    r'.Sound := by
  rw [(sound.upsert_eq updated).1]
  exact sound.registerDevice (sound.fits_upsert updated)

theorem Indexed.upsert (indexed : r.Indexed)
    (updated : r.upsert platform event = some (device, r'))
    (mqtt : integrationOf event = "mqtt") (named : event.deviceId ≠ "") : r'.Indexed := by
  obtain ⟨integration, topic, resolved⟩ := indexed.upsert_mqtt updated mqtt
  rw [(indexed.upsert_eq updated).1]
  refine indexed.registerDevice (indexed.fits_upsert updated)
    (resolved_named indexed resolved named) fun t d own here => ?_
  have same : t = event.topic := by
    have has := (truthy_eq_some.mp own.2).1
    rw [topic] at has
    exact (Option.some.inj has).symm
  subst same
  exact Option.some.inj ((indexed.resolve_of_indexed here).symm.trans resolved)

theorem Indexed.setMqttCommandProfile (indexed : r.Indexed) {id : String}
    {profile : Option MqttCommandProfile}
    (updated : r.setMqttCommandProfile id profile = some (device, r')) :
    r'.Indexed ∧ r'.mqttDeviceIdsByTopic = r.mqttDeviceIdsByTopic := by
  unfold DeviceRegistry.setMqttCommandProfile at updated
  obtain ⟨old, found, same⟩ := Option.map_eq_some_iff.mp updated
  cases same
  refine ⟨⟨⟨fun k v there => ?_, fun t d here => ?_, fun d other there => ?_⟩,
    fun d other t there own => ?_, indexed.named⟩, rfl⟩
  · rw [OrderedMap.get_set] at there
    split at there
    · rename_i same
      cases there
      rw [same]
      exact indexed.keyed id old found
    · exact indexed.keyed k v there
  · obtain ⟨other, there, own⟩ := indexed.indexed t d here
    by_cases same : d = id
    · subst same
      cases found.symm.trans there
      exact ⟨_, OrderedMap.get_set_self _ _ _, own⟩
    · exact ⟨other, (OrderedMap.get_set_of_ne _ _ same).trans there, own⟩
  · rw [OrderedMap.get_set] at there
    split at there
    · cases there
      exact indexed.bare id old found
    · exact indexed.bare d other there
  · rw [OrderedMap.get_set] at there
    split at there
    · rename_i same
      cases there
      rw [same]
      exact indexed.complete id old t found own
    · exact indexed.complete d other t there own

end Updates

/-! ## Start-up -/

section Startup

variable {json : ParseRow}

/-- The registry holds devices of the rows. -/
structure Loaded (json : ParseRow) (rows : List DeviceRow) (r : DeviceRegistry) : Prop where
  indexed : r.Indexed
  read : ∀ d device, r.devices.get d = some device →
    ∃ row ∈ rows, deserializeDevice json row = some device

/-- A row that gives a device with a topic is an MQTT row with this topic. -/
theorem row_of_hasTopic {rows : List DeviceRow} (table : DeviceTable rows) {row : DeviceRow}
    (member : row ∈ rows) {device : Device} (read : deserializeDevice json row = some device)
    {t : String} (own : HasTopic device t) : row.integration = "mqtt" ∧ row.topic = some t := by
  obtain ⟨-, topic, -⟩ := deserializeDevice_some read
  have has := (truthy_eq_some.mp own.2).1
  rw [topic] at has
  refine ⟨?_, has⟩
  by_contra connector
  rw [table.bare row member connector] at has
  cases has

theorem Loaded.row {seen rest : List DeviceRow} {row : DeviceRow}
    (table : DeviceTable (seen ++ row :: rest)) (loaded : Loaded json seen r) :
    Loaded json (seen ++ [row]) (r.loadRow json row) := by
  unfold loadRow
  cases read : deserializeDevice json row with
  | none =>
      refine ⟨loaded.indexed, fun d device found => ?_⟩
      obtain ⟨earlier, member, same⟩ := loaded.read d device found
      exact ⟨earlier, List.mem_append_left _ member, same⟩
  | some device =>
      have member : row ∈ seen ++ row :: rest := by simp
      have earlier : ∀ e ∈ seen, e ∈ seen ++ row :: rest := fun e => List.mem_append_left _
      obtain ⟨under, topic, -⟩ := deserializeDevice_some read
      -- the primary key: no earlier row has this id
      have fresh : r.devices.get device.id = none := by
        cases found : r.devices.get device.id with
        | none => rfl
        | some old =>
            obtain ⟨e, before, readOld⟩ := loaded.read _ old found
            have sameId : e.id = row.id := by
              rw [← (deserializeDevice_some readOld).1, ← under]
              exact loaded.indexed.keyed _ old found
            have primary := table.primary
            rw [List.map_append, List.map_cons] at primary
            have apart := List.disjoint_of_nodup_append primary
            have clash := apart (List.mem_map_of_mem before)
            rw [sameId] at clash
            exact absurd List.mem_cons_self clash
      constructor
      · refine loaded.indexed.registerDevice ⟨fun connector => ?_, fun old t found => ?_⟩ ?_ ?_
        · rw [topic]
          by_contra titled
          have mqtt : row.integration = "mqtt" := by
            by_contra other
            exact titled (table.bare row member other)
          rw [(deserializeDevice_some read).2.2, mqtt] at connector
          exact connector rfl
        · rw [fresh] at found
          cases found
        · rw [under]
          exact table.named row member
        · intro t d own here
          obtain ⟨old, there, had⟩ := loaded.indexed.indexed t d here
          obtain ⟨e, before, readOld⟩ := loaded.read d old there
          obtain ⟨mqtt, titled⟩ := row_of_hasTopic table member read own
          obtain ⟨mqttOld, titledOld⟩ := row_of_hasTopic table (earlier e before) readOld had
          have same := table.unique e (earlier e before) row member (mqttOld.trans mqtt.symm)
            (titledOld.trans titled.symm) (by rw [titledOld]; simp)
          rw [under, ← same, ← (deserializeDevice_some readOld).1]
          exact (loaded.indexed.keyed d old there).symm
      · intro d other found
        unfold DeviceRegistry.registerDevice at found
        rw [OrderedMap.get_set] at found
        split at found
        · cases found
          exact ⟨row, by simp, read⟩
        · obtain ⟨e, before, readOld⟩ := loaded.read d other found
          exact ⟨e, List.mem_append_left _ before, readOld⟩

theorem Loaded.rows {seen rest : List DeviceRow} (table : DeviceTable (seen ++ rest))
    (loaded : Loaded json seen r) : Loaded json (seen ++ rest) (rest.foldl (loadRow json) r) := by
  induction rest generalizing seen r with
  | nil =>
      rw [List.append_nil]
      exact loaded
  | cons row rest ih =>
      have table' : DeviceTable ((seen ++ [row]) ++ rest) := by simpa using table
      simpa using ih table' (loaded.row table)

theorem loadFromDb_indexed (json : ParseRow) {rows : List DeviceRow} (table : DeviceTable rows) :
    (loadFromDb json rows).Indexed := by
  have start : Loaded json [] {} := ⟨indexed_empty, fun _ _ found => nomatch found⟩
  have table' : DeviceTable ([] ++ rows) := table
  exact (start.rows table').indexed

end Startup

end DeviceRegistry

/-- The columns of a row without capabilities, state or profile. -/
def plainJson : ParseRow where
  capabilities _ := some []
  state _ := some .empty
  profile _ := none

end Aeolus.Core
