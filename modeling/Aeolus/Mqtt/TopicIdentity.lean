/-
# Aeolus.Mqtt.TopicIdentity — the topic index over whole runs

The registry of `Core.DeviceIdentity` under the operations that MQTT causes: it is loaded
from the `devices` table, updated by messages, and devices are removed or get a command
profile.  `handleMessage` resolves the id of a message's topic itself and stamps it on the
event, and `upsert` resolves once more; `topic_identity` says that the two agree, that the
index is exact in every state, and that a topic keeps its id until its device is removed.

None of it rests on the hash: an extension is taken only when it is free or has the topic.
-/
import Aeolus.Core.DeviceIdentity
import Aeolus.Mqtt.MqttService

namespace Aeolus.Mqtt

open Aeolus.Theory Aeolus.Core Aeolus.Core.DeviceRegistry

/-! ## Operations -/

/-- An event for the MQTT integration; `parseTopic` gives no empty id. -/
structure MqttEvent where
  event : Core.NormalizedEvent
  mqtt : integrationOf event = "mqtt"
  named : event.deviceId ≠ ""

inductive MqttOp where
  | upsert (event : MqttEvent)
  | message (topic raw : String) (now : Nat)
  | remove (id : String)
  | setMqttCommandProfile (id : String) (profile : Option MqttCommandProfile)

section Run

variable (platform : Platform)

/-- What an operation makes of the registry; one that throws leaves it as it is. -/
def MqttOp.step (r : DeviceRegistry) : MqttOp → DeviceRegistry
  | .upsert event =>
      match r.upsert platform event.event with
      | none => r
      | some (_, r') => r'
  | .message topic raw now =>
      (({ registry := r } : Hub).handleState platform topic raw now).registry
  | .remove id => (r.remove id).2
  | .setMqttCommandProfile id profile =>
      match r.setMqttCommandProfile id profile with
      | none => r
      | some (_, r') => r'

end Run

variable {platform : Platform} {r : DeviceRegistry}

/-! ## The event of a message -/

theorem parseTopic_named {topic : String} {parsed : ParsedTopic}
    (read : parseTopic platform topic = some parsed) : parsed.deviceId ≠ "" := by
  unfold parseTopic at read
  split at read
  · cases read
  · rename_i first rest parts
    cases read
    have nonempty : first ≠ "" := by
      have member : first ∈ segments topic := by
        rw [parts]
        exact List.mem_cons_self
      simpa using (List.mem_filter.mp member).2
    dsimp only
    cases rest with
    | nil =>
        rw [String.intercalate_singleton]
        exact nonempty
    | cons second rest =>
        rw [String.intercalate_cons_cons]
        intro empty
        have short := congrArg String.length empty
        simp at short

/-- The event that a message becomes carries a resolved id. -/
theorem deviceEvent_resolved {h : Hub} {topic raw : String} {now : Nat}
    {event : Core.NormalizedEvent} (made : h.deviceEvent platform topic raw now = some event) :
    integrationOf event = "mqtt" ∧ event.topic = topic ∧
      ∃ legacy, legacy ≠ "" ∧
        h.registry.resolveMqttDeviceId platform topic legacy = some event.deviceId := by
  simp only [Hub.deviceEvent, Option.bind_eq_bind, Option.bind_eq_some_iff] at made
  obtain ⟨parsed, read, state, -, deviceId, resolved, same⟩ := made
  cases same
  exact ⟨rfl, rfl, parsed.deviceId, parseTopic_named read, resolved⟩

/-- `upsert` stores the event under the id that is stamped on it. -/
theorem upsert_stamped (indexed : r.Indexed) {tracker : Automations.PendingCommandTracker}
    {topic raw : String} {now : Nat} {event : Core.NormalizedEvent}
    (made : Hub.deviceEvent platform ⟨r, tracker⟩ topic raw now = some event) :
    ∃ device r', r.upsert platform event = some (device, r') ∧ device.id = event.deviceId := by
  obtain ⟨mqtt, rfl, legacy, -, resolved⟩ := deviceEvent_resolved made
  have again := indexed.resolve_resolved resolved
  have updated : ∃ u, r.upsert platform event = some u := by
    unfold DeviceRegistry.upsert
    change ∃ u, Option.map _ (if integrationOf event = "mqtt" then _ else _) = some u
    rw [if_pos mqtt]
    exact ⟨_, by rw [again]; rfl⟩
  obtain ⟨⟨device, r'⟩, updated⟩ := updated
  refine ⟨device, r', updated, ?_⟩
  have under := (indexed.upsert_mqtt updated mqtt).2.2
  exact Option.some.inj (under.symm.trans again)

/-! ## What an operation does -/

/-- An operation changes nothing, updates a device by an MQTT event, removes one, or sets a
command profile. -/
theorem step_cases (indexed : r.Indexed) (op : MqttOp) :
    op.step platform r = r ∨
    (∃ (event : MqttEvent) (device : Device),
      r.upsert platform event.event = some (device, op.step platform r)) ∨
    (∃ id, op = .remove id ∧ op.step platform r = (r.remove id).2) ∨
    ∃ id profile device, r.setMqttCommandProfile id profile = some (device, op.step platform r) := by
  cases op with
  | upsert event =>
      cases updated : r.upsert platform event.event with
      | none =>
          left
          simp only [MqttOp.step, updated]
      | some result =>
          refine .inr (.inl ⟨event, result.1, ?_⟩)
          simp only [MqttOp.step, updated]
  | message topic raw now =>
      cases made : Hub.deviceEvent platform { registry := r } topic raw now with
      | none =>
          left
          simp only [MqttOp.step, Hub.handleState, made]
      | some event =>
          obtain ⟨mqtt, -, legacy, named, resolved⟩ := deviceEvent_resolved made
          obtain ⟨device, r', updated, -⟩ := upsert_stamped indexed made
          refine .inr (.inl ⟨⟨event, mqtt, resolved_named indexed resolved named⟩, device, ?_⟩)
          simp only [MqttOp.step, Hub.handleState, made, Hub.emit, updated, Option.map_some]
  | remove id => exact .inr (.inr (.inl ⟨id, rfl, rfl⟩))
  | setMqttCommandProfile id profile =>
      cases updated : r.setMqttCommandProfile id profile with
      | none =>
          left
          simp only [MqttOp.step, updated]
      | some result =>
          refine .inr (.inr (.inr ⟨id, profile, result.1, ?_⟩))
          simp only [MqttOp.step, updated]

theorem indexed_step (r : DeviceRegistry) (op : MqttOp) (indexed : r.Indexed) :
    (op.step platform r).Indexed := by
  obtain same | ⟨event, device, updated⟩ | ⟨id, -, removed⟩ | ⟨id, profile, device, updated⟩ :=
    step_cases indexed op
  · rw [same]
    exact indexed
  · exact indexed.upsert updated event.mqtt event.named
  · rw [removed]
    exact indexed.remove id
  · exact (indexed.setMqttCommandProfile updated).1

/-- A topic stays in the index under its id unless its device is removed. -/
theorem kept_step (indexed : r.Indexed) {t d : String}
    (here : r.mqttDeviceIdsByTopic.get t = some d) {op : MqttOp} (kept : op ≠ .remove d) :
    (op.step platform r).mqttDeviceIdsByTopic.get t = some d := by
  obtain same | ⟨event, device, updated⟩ | ⟨id, rfl, removed⟩ | ⟨id, profile, device, updated⟩ :=
    step_cases indexed op
  · rw [same]
    exact here
  · rw [(indexed.upsert_eq updated).1]
    unfold DeviceRegistry.registerDevice
    rw [get_indexTopic]
    split
    · -- the device has this topic now: then the event had it, and it resolves to its record
      rename_i own
      obtain ⟨-, topic, resolved⟩ := indexed.upsert_mqtt updated event.mqtt
      have has := (truthy_eq_some.mp own.2).1
      rw [topic] at has
      rw [Option.some.inj has] at resolved
      exact resolved.symm.trans (indexed.resolve_of_indexed here)
    · exact here
  · rw [removed]
    cases found : r.devices.get id with
    | none =>
        rw [remove_absent found]
        exact here
    | some device =>
        rw [(remove_eq found).2, if_neg]
        · exact here
        · intro own
          have there := indexed.complete id device t found own
          cases here.symm.trans there
          exact kept rfl
  · rw [(indexed.setMqttCommandProfile updated).2]
    exact here

/-- A topic of the index with a registry that is exact. -/
def Kept (t d : String) (r : DeviceRegistry) : Prop :=
  r.Indexed ∧ r.mqttDeviceIdsByTopic.get t = some d

theorem kept_run {t d : String} {ops : List MqttOp} (later : Kept t d r)
    (kept : ∀ op ∈ ops, op ≠ .remove d) :
    Kept t d (run (MqttOp.step platform) r ops) := by
  have along : Along (MqttOp.step platform) (fun _ op => op ≠ .remove d) r ops :=
    along_of_forall (fun op member _ => kept op member) r
  refine invariant_along ?_ later along
  intro r op held other
  exact ⟨indexed_step r op held.1, kept_step held.1 held.2 other⟩

/-! ## The result -/

/-- **Topic identity.**  In every run from a loaded table: the index maps a topic to an id
exactly if an MQTT device with this topic is registered under it; a topic with a device
resolves to its id, whatever id it is resolved against, until this device is removed;
resolving a resolved id changes nothing; and the id that `handleMessage` stamps on the event
of a message is the one that `upsert` stores it under. -/
theorem topic_identity (json : ParseRow) {rows : List DeviceRow} (table : DeviceTable rows)
    (platform : Platform) (ops : List MqttOp) :
    let r := run (MqttOp.step platform) (loadFromDb json rows) ops
    (∀ t d, r.mqttDeviceIdsByTopic.get t = some d ↔
      ∃ device, r.devices.get d = some device ∧ HasTopic device t) ∧
    (∀ t d device, r.devices.get d = some device → HasTopic device t →
      ∀ later, (∀ op ∈ later, op ≠ .remove d) →
        ∀ legacy, (run (MqttOp.step platform) r later).resolveMqttDeviceId platform t legacy =
          some d) ∧
    (∀ t legacy d, r.resolveMqttDeviceId platform t legacy = some d →
      r.resolveMqttDeviceId platform t d = some d) ∧
    ∀ tracker topic raw now event,
      Hub.deviceEvent platform ⟨r, tracker⟩ topic raw now = some event →
        ∃ device r', r.upsert platform event = some (device, r') ∧ device.id = event.deviceId := by
  intro r
  have indexed : r.Indexed := run_invariant indexed_step (loadFromDb_indexed json table) ops
  refine ⟨fun t d => ⟨indexed.indexed t d, ?_⟩, ?_, fun t legacy d => indexed.resolve_resolved,
    fun tracker topic raw now event made => upsert_stamped indexed made⟩
  · rintro ⟨device, found, own⟩
    exact indexed.complete d device t found own
  · intro t d device found own later kept legacy
    obtain ⟨still, here⟩ := kept_run ⟨indexed, indexed.complete d device t found own⟩ kept
    exact still.resolve_of_indexed here

/-! ## A table with a legacy row -/

/-- The library on the texts of one lamp: its payloads are not JSON, and the topic that is
hashed is `home-lamp`. -/
def lampLibrary : Platform where
  sha256 _ := "fac2a924ce736a38076abf36f9ec9aa77377812738fbdd76ab8691bd0606a329"
  jsonParse _ := none
  number _ := none
  trim text := text
  toLowerCase text := text
  titleCase text := if text = "home" then "Home" else if text = "lamp" then "Lamp" else "Home-lamp"

def legacyRow : DeviceRow :=
  ⟨"home-lamp", "Lamp", "light", "[]", "{}", "mqtt", 1, none, none, none, none⟩

theorem legacyTable : DeviceTable [legacyRow] where
  primary := by decide
  unique := by decide
  named := by decide
  bare := by decide

/-- The legacy lamp takes the first topic that reports under its id; a second topic with the
same slug gets an id of its own, and both keep them. -/
theorem topic_identity_legacy :
    let r := run (MqttOp.step lampLibrary) (loadFromDb plainJson [legacyRow])
      [.message "home/lamp" "on" 2, .message "home-lamp" "off" 3]
    r.resolveMqttDeviceId lampLibrary "home/lamp" "home-lamp" = some "home-lamp" ∧
      r.resolveMqttDeviceId lampLibrary "home-lamp" "home-lamp" =
        some "mqtt-home-lamp-fac2a924ce73" ∧
      ∀ later, (∀ op ∈ later, op ≠ .remove "home-lamp") →
        (run (MqttOp.step lampLibrary) r later).resolveMqttDeviceId lampLibrary "home/lamp"
          "elsewhere" = some "home-lamp" := by
  refine ⟨by decide, by decide, fun later kept => ?_⟩
  obtain ⟨-, stays, -⟩ := topic_identity plainJson legacyTable lampLibrary
    [.message "home/lamp" "on" 2, .message "home-lamp" "off" 3]
  exact stays "home/lamp" "home-lamp" _ rfl (by decide) later kept "elsewhere"

end Aeolus.Mqtt
