/-
# Aeolus.Core.DeviceSources — where the state of a record comes from

An MQTT record belongs to one topic and a connector record to one integration.  `Traced`
keeps, beside the registry, the row a record was loaded from and the events that were merged
into it since; `Isolated` says that its state is made of these and that they have one source.

On the MQTT side `resolveMqttDeviceId` sees to it: a topic never takes a record of another
source (`Sound.resolved_record`).  A connector event names its id itself, and `upsert` merges
it into whatever is there.  So the result (`sources_isolated`) is for runs in which a
connector event finds a record of its own integration or none; `connector_takes_topic` is a
connector device that reports under the id of an MQTT lamp.
-/
import Aeolus.Core.DeviceIdentity

namespace Aeolus.Core

open Aeolus.Theory DeviceRegistry

/-! ## Sources -/

inductive Source where
  | mqtt (topic : String)
  | connector (integration : String)
  deriving DecidableEq

def source (event : NormalizedEvent) : Source :=
  if integrationOf event = "mqtt" then .mqtt event.topic else .connector (integrationOf event)

/-- The source a record is for; none yet for an MQTT record without a topic. -/
def recordSource (device : Device) : Option Source :=
  if device.integration = "mqtt" then (truthy device.topic).map .mqtt
  else some (.connector device.integration)

/-- What a record was made from. -/
structure Origin where
  row : Option Device := none
  events : List NormalizedEvent := []

/-- The registry with the origin of every record. -/
structure Traced where
  registry : DeviceRegistry
  origins : String → Origin

inductive StateOp where
  | upsert (event : NormalizedEvent)
  | remove (id : String)

namespace Traced

def load (registry : DeviceRegistry) : Traced :=
  ⟨registry, fun k => { row := registry.devices.get k }⟩

def record (s : Traced) (k : String) (event : NormalizedEvent) : String → Origin :=
  Function.update s.origins k
    { s.origins k with events := (s.origins k).events ++ [event] }

def step (platform : Platform) (s : Traced) : StateOp → Traced
  | .upsert event =>
      match s.registry.upsert platform event with
      | none => s
      | some (device, registry) => ⟨registry, s.record device.id event⟩
  | .remove id => ⟨(s.registry.remove id).2, Function.update s.origins id {}⟩

/-- The state of every record comes from the row it was loaded from and from events of one
source, the row's own if it has one; and no other topic resolves to the record of a topic. -/
structure Isolated (platform : Platform) (s : Traced) : Prop where
  fields : ∀ k d, s.registry.devices.get k = some d → ∀ key v, d.state.get key = some v →
    (∃ e ∈ (s.origins k).events, e.state.get key = some v) ∨
      ∃ row, (s.origins k).row = some row ∧ row.state.get key = some v
  single : ∀ k, ∀ e ∈ (s.origins k).events, ∀ e' ∈ (s.origins k).events, source e = source e'
  loaded : ∀ k row src, (s.origins k).row = some row → recordSource row = some src →
    ∀ e ∈ (s.origins k).events, source e = src
  topics : ∀ k d t, s.registry.devices.get k = some d → HasTopic d t →
    ∀ t' legacy, t' ≠ t → s.registry.resolveMqttDeviceId platform t' legacy ≠ some k

/-- A connector event finds a record of its integration or none; an MQTT event has a topic. -/
def Apart (s : Traced) : StateOp → Prop
  | .upsert event =>
      if integrationOf event = "mqtt" then event.topic ≠ ""
      else ∀ d, s.registry.devices.get event.deviceId = some d →
        d.integration = integrationOf event
  | .remove _ => True

/-! ## The invariant -/

end Traced

/-- The origin accounts for the record: it has every field, and the record is for the source
of its events and of its row. -/
structure Origin.Explains (o : Origin) (d : Device) : Prop where
  fields : ∀ key v, d.state.get key = some v →
    (∃ e ∈ o.events, e.state.get key = some v) ∨
      ∃ row, o.row = some row ∧ row.state.get key = some v
  tagged : ∀ e ∈ o.events, recordSource d = some (source e)
  rowed : ∀ row src, o.row = some row → recordSource row = some src → recordSource d = some src

/-- One more event, for a record that had its source or none. -/
theorem Origin.Explains.merge {o : Origin} {event : NormalizedEvent} {device : Device}
    (after : recordSource device = some (source event)) {old : Option Device}
    (fresh : old = none → o = {}) (explained : ∀ d, old = some d → o.Explains d)
    (before : ∀ d src, old = some d → recordSource d = some src → src = source event)
    (state : ∀ key, device.state.get key =
      (event.state.get key).or (old.bind fun d => d.state.get key)) :
    Origin.Explains { o with events := o.events ++ [event] } device := by
  -- what the event does not bring was there before
  have kept : ∀ key v, device.state.get key = some v → event.state.get key ≠ some v →
      ∃ d, old = some d ∧ d.state.get key = some v := by
    intro key v there other
    rw [state key] at there
    rcases Option.or_eq_some_iff.mp there with new | ⟨-, rest⟩
    · exact absurd new other
    · exact Option.bind_eq_some_iff.mp rest
  refine ⟨fun key v there => ?_, fun e member => ?_, fun row src loaded mine => ?_⟩
  · by_cases new : event.state.get key = some v
    · exact .inl ⟨event, by simp, new⟩
    · obtain ⟨d, rfl, had⟩ := kept key v there new
      rcases (explained d rfl).fields key v had with ⟨e, member, brought⟩ | row
      · exact .inl ⟨e, List.mem_append_left _ member, brought⟩
      · exact .inr row
  · rcases List.mem_append.mp member with earlier | new
    · cases old with
      | none =>
          rw [fresh rfl] at earlier
          exact absurd earlier List.not_mem_nil
      | some d =>
          have tag := (explained d rfl).tagged e earlier
          rw [before d (source e) rfl tag]
          exact after
    · rw [List.mem_singleton.mp new]
      exact after
  · cases old with
    | none =>
        rw [fresh rfl] at loaded
        cases loaded
    | some d =>
        have tag := (explained d rfl).rowed row src loaded mine
        rw [before d src rfl tag]
        exact after

namespace Traced

structure Inv (s : Traced) : Prop where
  sound : s.registry.Sound
  absent : ∀ k, s.registry.devices.get k = none → s.origins k = {}
  explained : ∀ k d, s.registry.devices.get k = some d → (s.origins k).Explains d

variable {platform : Platform} {s : Traced}

theorem inv_load {r : DeviceRegistry} (sound : r.Sound) : (load r).Inv where
  sound := sound
  absent k missing := congrArg (fun row => (⟨row, []⟩ : Origin)) missing
  explained k d found := by
    refine ⟨fun key v there => .inr ⟨d, found, there⟩, fun e member => ?_,
      fun row src loaded mine => ?_⟩
    · exact absurd member List.not_mem_nil
    · cases found.symm.trans loaded
      exact mine

theorem Inv.isolated (inv : s.Inv) : s.Isolated platform := by
  -- a record that is not there has no events
  have there : ∀ k, ∀ e ∈ (s.origins k).events, ∃ d, s.registry.devices.get k = some d := by
    intro k e member
    cases found : s.registry.devices.get k with
    | some d => exact ⟨d, rfl⟩
    | none =>
        rw [inv.absent k found] at member
        exact absurd member List.not_mem_nil
  refine ⟨fun k d found => (inv.explained k d found).fields, fun k e member e' member' => ?_,
    fun k row src loaded mine e member => ?_, fun k d t found own t' legacy differ resolved => ?_⟩
  · obtain ⟨d, found⟩ := there k e member
    have explained := inv.explained k d found
    exact Option.some.inj ((explained.tagged e member).symm.trans (explained.tagged e' member'))
  · obtain ⟨d, found⟩ := there k e member
    have explained := inv.explained k d found
    exact Option.some.inj
      ((explained.tagged e member).symm.trans (explained.rowed row src loaded mine))
  · have topic := truthy_eq_some.mp own.2
    rcases (inv.sound.resolved_record resolved found).2 with same | untitled
    · exact differ (Option.some.inj (same.symm.trans topic.1))
    · rw [own.2] at untitled
      cases untitled

/-- The source of the record after an update that the guard admits: it is the event's, and
the record before had this source or none. -/
theorem recordSource_upsert {event : NormalizedEvent} {device : Device} {r' : DeviceRegistry}
    (sound : s.registry.Sound) (apart : s.Apart (.upsert event))
    (updated : s.registry.upsert platform event = some (device, r')) :
    recordSource device = some (source event) ∧
      ∀ old src, s.registry.devices.get device.id = some old → recordSource old = some src →
        src = source event := by
  simp only [Apart] at apart
  by_cases mqtt : integrationOf event = "mqtt"
  · rw [if_pos mqtt] at apart
    obtain ⟨integration, topic, resolved⟩ := sound.upsert_mqtt updated mqtt
    have named : truthy (some event.topic) = some event.topic := truthy_eq_some.mpr ⟨rfl, apart⟩
    refine ⟨?_, fun old src found mine => ?_⟩
    · simp [recordSource, source, integration, topic, named, mqtt]
    · obtain ⟨integrationOld, same | untitled⟩ := sound.resolved_record resolved found
      · simp only [recordSource, integrationOld, same, named, if_true, Option.map_some,
          Option.some.injEq] at mine
        rw [← mine, source, if_pos mqtt]
      · simp [recordSource, integrationOld, untitled] at mine
  · rw [if_neg mqtt] at apart
    obtain ⟨under, ⟨free, integration, -⟩ | ⟨old, found, integration, -⟩⟩ :=
      sound.upsert_connector updated mqtt
    · refine ⟨?_, fun old src found => ?_⟩
      · simp [recordSource, source, integration, mqtt]
      · rw [free] at found
        cases found
    · have same : old.integration = integrationOf event := by
        rw [under] at found
        exact apart old found
      refine ⟨?_, fun other src there mine => ?_⟩
      · simp [recordSource, source, integration, same, mqtt]
      · cases found.symm.trans there
        simp only [recordSource, same, mqtt, if_false, Option.some.injEq] at mine
        rw [← mine, source, if_neg mqtt]

theorem state_upsert {event : NormalizedEvent} {device : Device} {r' : DeviceRegistry}
    (sound : s.registry.Sound) (updated : s.registry.upsert platform event = some (device, r'))
    (key : String) :
    device.state.get key = (event.state.get key).or
      ((s.registry.devices.get device.id).bind fun d => d.state.get key) := by
  obtain ⟨-, built, -⟩ := sound.upsert_eq updated
  cases found : s.registry.devices.get device.id with
  | none =>
      rw [found] at built
      rw [built]
      simp [merged]
  | some old =>
      rw [found] at built
      rw [built]
      exact JsonObject.get_merge _ _ _

theorem Inv.upsert (inv : s.Inv) {event : NormalizedEvent} {device : Device}
    {r' : DeviceRegistry} (apart : s.Apart (.upsert event))
    (updated : s.registry.upsert platform event = some (device, r')) :
    Inv ⟨r', s.record device.id event⟩ := by
  obtain ⟨after, before⟩ := recordSource_upsert inv.sound apart updated
  refine ⟨inv.sound.upsert updated, fun k missing => ?_, fun k d found => ?_⟩
  · dsimp only at missing ⊢
    rw [upsert_devices updated, OrderedMap.get_set] at missing
    split at missing
    · cases missing
    · rename_i elsewhere
      rw [record, Function.update_of_ne elsewhere]
      exact inv.absent k missing
  · dsimp only at found ⊢
    rw [upsert_devices updated, OrderedMap.get_set] at found
    split at found
    · rename_i here
      cases found
      rw [here, record, Function.update_self]
      exact Origin.Explains.merge after (inv.absent _) (inv.explained _) before
        (state_upsert inv.sound updated)
    · rename_i elsewhere
      rw [record, Function.update_of_ne elsewhere]
      exact inv.explained k d found

theorem Inv.remove (inv : s.Inv) (id : String) :
    Inv ⟨(s.registry.remove id).2, Function.update s.origins id {}⟩ := by
  refine ⟨inv.sound.remove id, fun k missing => ?_, fun k d found => ?_⟩
  · by_cases here : k = id
    · rw [here]
      exact Function.update_self _ _ _
    · dsimp only at missing ⊢
      rw [get_remove, if_neg here] at missing
      rw [Function.update_of_ne here]
      exact inv.absent k missing
  · dsimp only at found ⊢
    rw [get_remove] at found
    split at found
    · cases found
    · rename_i elsewhere
      rw [Function.update_of_ne elsewhere]
      exact inv.explained k d found

theorem Inv.step (s : Traced) (op : StateOp) (inv : s.Inv) (apart : s.Apart op) :
    (s.step platform op).Inv := by
  cases op with
  | upsert event =>
      simp only [Traced.step]
      split
      · exact inv
      · rename_i updated
        exact inv.upsert apart updated
  | remove id => exact inv.remove id

end Traced

/-! ## The result -/

/-- **Isolation.**  In every run from a loaded table whose connector events find a record of
their own integration or none, the records are isolated in every state. -/
theorem sources_isolated {rows : List DeviceRow} (table : DeviceTable rows) (json : ParseRow)
    (platform : Platform) {ops : List StateOp}
    (along : Along (Traced.step platform) Traced.Apart (Traced.load (loadFromDb json rows)) ops) :
    ∀ p, p <+: ops →
      (run (Traced.step platform) (Traced.load (loadFromDb json rows)) p).Isolated platform := by
  intro p initial
  have start := Traced.inv_load (loadFromDb_indexed json table).toSound
  exact (invariant_throughout Traced.Inv.step start along p initial).isolated

/-! ## A lamp and a bridge -/

def lampReport : NormalizedEvent :=
  { deviceId := "home-lamp"
    deviceType := "light"
    state := .ofFields [("on", .bool true)]
    topic := "home/lamp"
    timestamp := 1 }

/-- A report of a Hue device. -/
def hueReport (id : String) : NormalizedEvent :=
  { deviceId := id
    deviceType := "light"
    state := .ofFields [("brightness", .num 40)]
    topic := "connector/hue/" ++ id
    timestamp := 2
    integration := some "hue" }

theorem emptyTable : DeviceTable [] where
  primary := by decide
  unique := by decide
  named := by decide
  bare := by decide

theorem lampReport_apart (s : Traced) : s.Apart (.upsert lampReport) := by
  simp only [Traced.Apart]
  rw [if_pos (by decide)]
  decide

theorem hueReport_apart {s : Traced} {id : String}
    (own : ∀ d, s.registry.devices.get id = some d → d.integration = "hue") :
    s.Apart (.upsert (hueReport id)) := by
  have hue : integrationOf (hueReport id) = "hue" := by rfl
  simp only [Traced.Apart, hue]
  rw [if_neg (by decide)]
  exact own

theorem sources_isolated_bridge :
    let s := run (Traced.step PersistentRegistry.atticPlatform) (Traced.load (loadFromDb plainJson []))
      [.upsert lampReport, .upsert (hueReport "hue-1"), .upsert lampReport,
        .upsert (hueReport "hue-1")]
    s.registry.devices.size = 2 ∧ s.Isolated PersistentRegistry.atticPlatform := by
  intro s
  refine ⟨by decide, ?_⟩
  refine sources_isolated emptyTable plainJson PersistentRegistry.atticPlatform ?_ _ (List.prefix_refl _)
  refine ⟨lampReport_apart _, hueReport_apart fun d found => ?_, lampReport_apart _,
    hueReport_apart fun d found => ?_, trivial⟩
  · cases found
  · cases found
    rfl

/-- The bridge reports a device under the id of the MQTT lamp: one record has fields of
both. -/
theorem connector_takes_topic :
    let s := run (Traced.step PersistentRegistry.atticPlatform) (Traced.load (loadFromDb plainJson []))
      [.upsert lampReport, .upsert (hueReport "home-lamp")]
    (∃ d, s.registry.devices.get "home-lamp" = some d ∧ d.integration = "mqtt" ∧
      d.topic = some "home/lamp" ∧ d.state.get "on" = some (.bool true) ∧
      d.state.get "brightness" = some (.num 40)) ∧
    ¬ s.Isolated PersistentRegistry.atticPlatform := by
  intro s
  refine ⟨⟨_, rfl, rfl, rfl, rfl, rfl⟩, fun isolated => ?_⟩
  have events : (s.origins "home-lamp").events = [lampReport, hueReport "home-lamp"] := rfl
  have one := isolated.single "home-lamp" lampReport (by simp [events]) (hueReport "home-lamp")
    (by simp [events])
  exact absurd one (by decide)

end Aeolus.Core
