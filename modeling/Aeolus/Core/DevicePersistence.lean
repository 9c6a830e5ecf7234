/-
# Aeolus.Core.DevicePersistence — the registry's rows, written behind it

`src/core/device-registry.ts`: telemetry changes memory at once and is written to the
`devices` table later, the newest snapshot of every dirty device in one transaction.
A batch that throws is rolled back and queued again; configuration changes flush
before they return; a removal deletes its row at once.

The registry with its queue, its timer and the table is a `WriteBehind`
(`PersistentRegistry.view`), and every operation before `dispose` moves that view by
`put`, `drop`, `commit` or not at all, so `Coherent` holds in every reachable state.

A batch may throw before any of its rows, or at the commit.  It also throws when two
rows claim one topic, by the unique index of migration 008.
-/
import Aeolus.Theory.Transaction
import Aeolus.Theory.WriteBehind
import Aeolus.Core.DeviceRegistry

namespace Aeolus.Core

open Aeolus.Theory
open Handler

structure DeviceRow where
  id : String
  name : String
  type : String
  capabilities : String
  state : String
  integration : String
  lastSeen : Nat
  topic : Option String
  commandTopic : Option String
  connectorInstanceId : Option String
  mqttCommandProfile : Option String
  deriving DecidableEq

/-- `JSON.stringify` on the three columns that hold JSON. -/
structure Stringify where
  capabilities : List String → String
  state : JsonObject → String
  profile : MqttCommandProfile → String

def serializeDevice (json : Stringify) (device : Device) : DeviceRow where
  id := device.id
  name := device.name
  type := device.type
  capabilities := json.capabilities device.capabilities
  state := json.state device.state
  integration := device.integration
  lastSeen := device.lastSeen
  topic := device.topic
  commandTopic := device.commandTopic
  connectorInstanceId := device.connectorInstanceId
  mqttCommandProfile := device.mqttCommandProfile.map json.profile

/-- The registry with its write-behind queue.  `flushTimer` says whether a timer is
armed; `rows` is the `devices` table by id. -/
structure PersistentRegistry extends DeviceRegistry where
  pendingWrites : OrderedMap String Device := .empty
  flushTimer : Bool := false
  disposed : Bool := false
  dbOpen : Bool := true
  rows : OrderedMap String DeviceRow := .empty

/-! ## Writing a batch -/

/-- Another row has the integration and the topic of this one. -/
def topicTaken (rows : OrderedMap String DeviceRow) (row : DeviceRow) : Bool :=
  row.topic.isSome && rows.values.any fun other =>
    other.id ≠ row.id ∧ other.integration = row.integration ∧ other.topic = row.topic

/-- `INSERT INTO devices … ON CONFLICT(id) DO UPDATE`. -/
def upsertRow (row : DeviceRow) : Handler String (OrderedMap String DeviceRow) Unit := fun rows =>
  if topicTaken rows row then
    (.error "UNIQUE constraint failed: devices.integration, devices.topic", rows)
  else (.ok (), rows.set row.id row)

/-- Where a batch throws although no constraint is violated: before its row of this
number, or at the commit, and with which text. -/
abbrev BatchFault := Option (Nat × String)

def writeRows (json : Stringify) (devices : List Device) :
    Handler String (OrderedMap String DeviceRow) Unit :=
  devices.forM fun device => upsertRow (serializeDevice json device)

def writeBatch (json : Stringify) (fault : BatchFault) (batch : List Device) :
    Handler String (OrderedMap String DeviceRow) Unit :=
  match fault with
  | none => atomically (writeRows json batch)
  | some (position, message) => atomically do
      writeRows json (batch.take position)
      throw message

/-- A device of a failed batch goes back unless a newer snapshot is queued. -/
def requeue (pendingWrites : OrderedMap String Device) (device : Device) :
    OrderedMap String Device :=
  if (pendingWrites.get device.id).isSome then pendingWrites
  else pendingWrites.set device.id device

namespace PersistentRegistry

def flushPendingWrites (json : Stringify) (fault : BatchFault) (s : PersistentRegistry) :
    PersistentRegistry :=
  if s.pendingWrites.size = 0 then s
  else if ¬ s.dbOpen then { s with pendingWrites := .empty }
  else
    let batch := s.pendingWrites.values
    match writeBatch json fault batch s.rows with
    | (.ok _, rows) => { s with pendingWrites := .empty, rows := rows }
    | (.error _, rows) =>
        if s.disposed then { s with pendingWrites := .empty, rows := rows }
        else
          { s with
            pendingWrites := batch.foldl requeue .empty
            flushTimer := true
            rows := rows }

def schedulePersist (device : Device) (s : PersistentRegistry) : PersistentRegistry :=
  if s.disposed then s
  else { s with pendingWrites := s.pendingWrites.set device.id device, flushTimer := true }

def persistNow (json : Stringify) (fault : BatchFault) (device : Device) (s : PersistentRegistry) :
    PersistentRegistry :=
  flushPendingWrites json fault (schedulePersist device s)

/-- The callback of the armed timer. -/
def timerFires (json : Stringify) (fault : BatchFault) (s : PersistentRegistry) :
    PersistentRegistry :=
  if s.flushTimer then flushPendingWrites json fault { s with flushTimer := false } else s

/-- `resolveMqttDeviceId` may throw; nothing has been written then. -/
def upsert (platform : Platform) (event : NormalizedEvent) (s : PersistentRegistry) :
    PersistentRegistry :=
  match s.toDeviceRegistry.upsert platform event with
  | none => s
  | some (device, registry) => schedulePersist device { s with toDeviceRegistry := registry }

def remove (id : String) (s : PersistentRegistry) : PersistentRegistry :=
  match s.toDeviceRegistry.remove id with
  | (false, _) => s
  | (true, registry) =>
      { s with
        toDeviceRegistry := registry
        pendingWrites := s.pendingWrites.delete id
        rows := s.rows.delete id }

def registerDevice (json : Stringify) (fault : BatchFault) (device : Device)
    (s : PersistentRegistry) : PersistentRegistry :=
  persistNow json fault device
    { s with toDeviceRegistry := s.toDeviceRegistry.registerDevice device }

def setMqttCommandProfile (json : Stringify) (fault : BatchFault) (id : String)
    (profile : Option MqttCommandProfile) (s : PersistentRegistry) : PersistentRegistry :=
  match s.toDeviceRegistry.setMqttCommandProfile id profile with
  | none => s
  | some (updated, registry) =>
      persistNow json fault updated { s with toDeviceRegistry := registry }

def dispose (json : Stringify) (fault : BatchFault) (s : PersistentRegistry) :
    PersistentRegistry :=
  let flushed := flushPendingWrites json fault { s with flushTimer := false, disposed := true }
  { flushed with pendingWrites := .empty }

end PersistentRegistry

inductive RegistryOp where
  | upsert (event : NormalizedEvent)
  | remove (id : String)
  | registerDevice (device : Device) (fault : BatchFault)
  | setMqttCommandProfile (id : String) (profile : Option MqttCommandProfile) (fault : BatchFault)
  | timerFires (fault : BatchFault)
  | flush (fault : BatchFault)
  | dispose (fault : BatchFault)

def PersistentRegistry.step (platform : Platform) (json : Stringify) (s : PersistentRegistry) :
    RegistryOp → PersistentRegistry
  | .upsert event => s.upsert platform event
  | .remove id => s.remove id
  | .registerDevice device fault => s.registerDevice json fault device
  | .setMqttCommandProfile id profile fault => s.setMqttCommandProfile json fault id profile
  | .timerFires fault => s.timerFires json fault
  | .flush fault => s.flushPendingWrites json fault
  | .dispose fault => s.dispose json fault

/-! ## What a batch does -/

theorem upsertRow_ok {row : DeviceRow} {rows rows' : OrderedMap String DeviceRow}
    (returned : upsertRow row rows = (.ok (), rows')) : rows' = rows.set row.id row := by
  unfold upsertRow at returned
  split at returned
  · cases returned
  · cases returned
    rfl

theorem writeRows_ok {json : Stringify} {devices : List Device}
    {rows rows' : OrderedMap String DeviceRow}
    (returned : writeRows json devices rows = (.ok (), rows')) :
    rows' = rows.setAll (devices.map fun device => (device.id, serializeDevice json device)) := by
  induction devices generalizing rows with
  | nil =>
      cases returned
      rfl
  | cons device devices ih =>
      obtain ⟨_, mid, here, rest⟩ := bind_ok returned
      have later := ih rest
      rw [upsertRow_ok here] at later
      exact later

/-- A batch that returned wrote every row of it. -/
theorem writeBatch_ok {json : Stringify} {fault : BatchFault} {batch : List Device}
    {rows rows' : OrderedMap String DeviceRow}
    (returned : writeBatch json fault batch rows = (.ok (), rows')) :
    rows' = rows.setAll (batch.map fun device => (device.id, serializeDevice json device)) := by
  cases fault with
  | none => exact writeRows_ok (atomically_ok returned)
  | some at_position =>
      obtain ⟨_, _, _, threw⟩ := bind_ok (atomically_ok returned)
      cases threw

/-- A batch that threw wrote nothing. -/
theorem writeBatch_error {json : Stringify} {fault : BatchFault} {batch : List Device}
    {rows rows' : OrderedMap String DeviceRow} {message : String}
    (threw : writeBatch json fault batch rows = (.error message, rows')) : rows' = rows := by
  cases fault with
  | none => exact atomic_atomically _ _ _ _ threw
  | some at_position => exact atomic_atomically _ _ _ _ threw

/-- Nothing was queued in between, so the whole batch is queued again. -/
theorem foldl_requeue {devices : List Device} {queue : OrderedMap String Device}
    (nodup : (devices.map Device.id).Nodup) (apart : ∀ device ∈ devices, queue.get device.id = none) :
    (devices.foldl requeue queue).entries =
      queue.entries ++ devices.map fun device => (device.id, device) := by
  induction devices generalizing queue with
  | nil => exact (List.append_nil _).symm
  | cons device devices ih =>
      rw [List.map_cons, List.nodup_cons] at nodup
      have free := apart device List.mem_cons_self
      have queued : requeue queue device = queue.set device.id device := by
        rw [requeue, free]
        rfl
      rw [List.foldl_cons, queued, ih nodup.2, OrderedMap.entries_set_of_absent free,
        List.append_assoc]
      · rfl
      · intro other mem
        have ne : other.id ≠ device.id := by
          intro same
          exact nodup.1 (List.mem_map.mpr ⟨other, mem, same⟩)
        rw [OrderedMap.get_set_of_ne _ _ ne]
        exact apart other (List.mem_cons_of_mem _ mem)

theorem requeue_batch {queue : OrderedMap String Device} (keyed : queue.KeyedBy Device.id) :
    queue.values.foldl requeue .empty = queue := by
  refine OrderedMap.ext ?_
  rw [foldl_requeue keyed.values_nodup fun _ _ => rfl, keyed.entries_eq]
  rfl

/-! ## The registry as a write-behind memory -/

namespace PersistentRegistry

def view (s : PersistentRegistry) : WriteBehind String Device DeviceRow where
  memory := s.devices.get
  queue := s.pendingWrites.get
  store := s.rows.get

/-- The flush has nothing to write, or its batch returns. -/
def FlushSucceeds (json : Stringify) (fault : BatchFault) (s : PersistentRegistry) : Prop :=
  s.pendingWrites.size = 0 ∨
    ∃ rows, writeBatch json fault s.pendingWrites.values s.rows = (.ok (), rows)

theorem eq_empty_of_size {K V : Type} {m : OrderedMap K V} (none_left : m.size = 0) :
    m = OrderedMap.empty :=
  OrderedMap.ext (List.length_eq_zero_iff.mp none_left)

theorem flush_of_succeeds {json : Stringify} {fault : BatchFault} {s : PersistentRegistry}
    (dbOpen : s.dbOpen = true) (keyed : s.pendingWrites.KeyedBy Device.id)
    (succeeds : s.FlushSucceeds json fault) :
    ∃ rows, s.flushPendingWrites json fault = { s with pendingWrites := .empty, rows := rows } ∧
      ∀ id, rows.get id =
        ((s.pendingWrites.get id).map (serializeDevice json)).or (s.rows.get id) := by
  by_cases nothing : s.pendingWrites.size = 0
  · have empty := eq_empty_of_size nothing
    refine ⟨s.rows, ?_, fun id => ?_⟩
    · rw [flushPendingWrites, if_pos nothing, ← empty]
    · rw [empty]
      rfl
  · obtain ⟨rows, wrote⟩ := succeeds.resolve_left nothing
    refine ⟨rows, ?_, fun id => ?_⟩
    · rw [flushPendingWrites, if_neg nothing, if_neg (not_not.mpr dbOpen)]
      simp only [wrote]
    · rw [writeBatch_ok wrote, keyed.get_setAll (serializeDevice json)]

theorem flush_of_fails {json : Stringify} {fault : BatchFault} {s : PersistentRegistry}
    (dbOpen : s.dbOpen = true) (alive : s.disposed = false)
    (keyed : s.pendingWrites.KeyedBy Device.id) (fails : ¬ s.FlushSucceeds json fault) :
    s.flushPendingWrites json fault = { s with flushTimer := true } := by
  obtain ⟨something, threw⟩ := not_or.mp fails
  rw [flushPendingWrites, if_neg something, if_neg (not_not.mpr dbOpen)]
  rcases outcome : writeBatch json fault s.pendingWrites.values s.rows with ⟨message | _, rows⟩
  · obtain rfl : rows = s.rows := writeBatch_error outcome
    simp only [outcome, alive, requeue_batch keyed]
    rfl
  · exact absurd ⟨rows, outcome⟩ threw

/-- What holds before `dispose`, apart from the timer. -/
structure Sound (json : Stringify) (s : PersistentRegistry) : Prop where
  alive : s.disposed = false
  dbOpen : s.dbOpen = true
  keyed : s.devices.KeyedBy Device.id
  queueKeyed : s.pendingWrites.KeyedBy Device.id
  coherent : s.view.Coherent (serializeDevice json)

/-- Something queued will be written: the timer is armed. -/
def Armed (s : PersistentRegistry) : Prop := s.pendingWrites.size ≠ 0 → s.flushTimer = true

section Steps

variable {json : Stringify} {s : PersistentRegistry}

/-- A flush that succeeds is a commit. -/
theorem Sound.flush_commits (sound : Sound json s) {fault : BatchFault}
    (succeeds : s.FlushSucceeds json fault) :
    (s.flushPendingWrites json fault).view = s.view.commit (serializeDevice json) ∧
      (s.flushPendingWrites json fault).pendingWrites = .empty ∧
      (s.flushPendingWrites json fault).devices = s.devices := by
  obtain ⟨rows, flushed, written⟩ := flush_of_succeeds sound.dbOpen sound.queueKeyed succeeds
  rw [flushed]
  refine ⟨?_, rfl, rfl⟩
  unfold view WriteBehind.commit
  simp only [WriteBehind.mk.injEq, true_and]
  exact ⟨rfl, funext written⟩

theorem Sound.flush (sound : Sound json s) (fault : BatchFault) :
    Sound json (s.flushPendingWrites json fault) ∧ (s.flushPendingWrites json fault).Armed := by
  by_cases succeeds : s.FlushSucceeds json fault
  · obtain ⟨commits, _, _⟩ := sound.flush_commits succeeds
    obtain ⟨rows, flushed, _⟩ := flush_of_succeeds sound.dbOpen sound.queueKeyed succeeds
    have coherent := sound.coherent.commit
    rw [← commits] at coherent
    rw [flushed] at coherent ⊢
    refine ⟨⟨sound.alive, sound.dbOpen, sound.keyed, OrderedMap.keyedBy_empty _, coherent⟩, ?_⟩
    intro something
    exact absurd rfl something
  · rw [flush_of_fails sound.dbOpen sound.alive sound.queueKeyed succeeds]
    exact ⟨⟨sound.alive, sound.dbOpen, sound.keyed, sound.queueKeyed, sound.coherent⟩, fun _ => rfl⟩

/-- Scheduling the write of a device that memory has taken over is a put. -/
theorem Sound.schedule (sound : Sound json s) {device : Device} {registry : DeviceRegistry}
    (taken : registry.devices = s.devices.set device.id device) :
    Sound json (schedulePersist device { s with toDeviceRegistry := registry }) ∧
      (schedulePersist device { s with toDeviceRegistry := registry }).Armed := by
  have scheduled : schedulePersist device { s with toDeviceRegistry := registry } =
      { s with
        toDeviceRegistry := registry
        pendingWrites := s.pendingWrites.set device.id device
        flushTimer := true } := by
    rw [schedulePersist, if_neg]
    rw [sound.alive]
    exact Bool.false_ne_true
  rw [scheduled]
  refine ⟨⟨sound.alive, sound.dbOpen, ?_, sound.queueKeyed.set device, ?_⟩, fun _ => rfl⟩
  · change registry.devices.KeyedBy Device.id
    rw [taken]
    exact sound.keyed.set device
  · have put := sound.coherent.put device.id device
    intro id
    have here := put id
    simp only [view, WriteBehind.put, Function.update_apply] at here
    simp only [view, taken, OrderedMap.get_set]
    exact here

theorem Sound.persistNow (sound : Sound json s) {device : Device} {registry : DeviceRegistry}
    (taken : registry.devices = s.devices.set device.id device) (fault : BatchFault) :
    Sound json (PersistentRegistry.persistNow json fault device
        { s with toDeviceRegistry := registry }) ∧
      (PersistentRegistry.persistNow json fault device { s with toDeviceRegistry := registry }).Armed :=
  (sound.schedule taken).1.flush fault

theorem Sound.upsert (sound : Sound json s) (armed : s.Armed) (platform : Platform)
    (event : NormalizedEvent) :
    Sound json (s.upsert platform event) ∧ (s.upsert platform event).Armed := by
  unfold PersistentRegistry.upsert
  cases updated : s.toDeviceRegistry.upsert platform event with
  | none => exact ⟨sound, armed⟩
  | some result => exact sound.schedule (upsert_devices updated)

theorem Sound.setMqttCommandProfile (sound : Sound json s) (armed : s.Armed) (fault : BatchFault)
    (id : String) (profile : Option MqttCommandProfile) :
    Sound json (s.setMqttCommandProfile json fault id profile) ∧
      (s.setMqttCommandProfile json fault id profile).Armed := by
  unfold PersistentRegistry.setMqttCommandProfile DeviceRegistry.setMqttCommandProfile
  cases found : s.devices.get id with
  | none => exact ⟨sound, armed⟩
  | some existing =>
      refine sound.persistNow ?_ fault
      have same : existing.id = id := sound.keyed id existing found
      rw [same]

/-- A removal drops the device everywhere. -/
theorem Sound.remove (sound : Sound json s) (armed : s.Armed) (id : String) :
    Sound json (s.remove id) ∧ (s.remove id).Armed := by
  unfold PersistentRegistry.remove DeviceRegistry.remove
  cases found : s.devices.get id with
  | none => exact ⟨sound, armed⟩
  | some device =>
      refine ⟨⟨sound.alive, sound.dbOpen, sound.keyed.delete id, sound.queueKeyed.delete id, ?_⟩,
        fun something => armed ?_⟩
      · intro other
        have here := sound.coherent.drop id other
        simp only [view, WriteBehind.drop, Function.update_apply] at here
        simp only [view, OrderedMap.get_delete]
        exact here
      · intro nothing
        have empty := eq_empty_of_size nothing
        rw [empty] at something
        exact something rfl

theorem Sound.timerFires (sound : Sound json s) (armed : s.Armed) (fault : BatchFault) :
    Sound json (s.timerFires json fault) ∧ (s.timerFires json fault).Armed := by
  unfold PersistentRegistry.timerFires
  split
  · have unarmed : Sound json { s with flushTimer := false } :=
      ⟨sound.alive, sound.dbOpen, sound.keyed, sound.queueKeyed, sound.coherent⟩
    exact unarmed.flush fault
  · exact ⟨sound, armed⟩

/-- A registry that is not disposed is sound, and its timer armed when need be. -/
def Inv (json : Stringify) (s : PersistentRegistry) : Prop :=
  s.disposed = false → Sound json s ∧ s.Armed

@[simp] theorem flush_disposed (fault : BatchFault) :
    (s.flushPendingWrites json fault).disposed = s.disposed := by
  unfold flushPendingWrites
  split
  · rfl
  · split
    · rfl
    · simp only
      split
      · rfl
      · split <;> rfl

@[simp] theorem schedule_disposed (device : Device) :
    (schedulePersist device s).disposed = s.disposed := by
  unfold schedulePersist
  split <;> rfl

/-- Only a registry that was not disposed is not disposed after a step. -/
theorem alive_of_step {platform : Platform} {op : RegistryOp}
    (alive : (s.step platform json op).disposed = false) : s.disposed = false := by
  cases op with
  | upsert event =>
      simp only [step, upsert] at alive
      split at alive
      · exact alive
      · simpa using alive
  | remove id =>
      simp only [step, remove] at alive
      split at alive <;> exact alive
  | registerDevice device fault => simpa [step, registerDevice, persistNow] using alive
  | setMqttCommandProfile id profile fault =>
      simp only [step, setMqttCommandProfile] at alive
      split at alive
      · exact alive
      · simpa [persistNow] using alive
  | timerFires fault =>
      simp only [step, timerFires] at alive
      split at alive
      · simpa using alive
      · exact alive
  | flush fault => simpa [step] using alive
  | dispose fault => simp [step, dispose] at alive

theorem step_inv (platform : Platform) (s : PersistentRegistry) (op : RegistryOp)
    (inv : Inv json s) : Inv json (s.step platform json op) := by
  intro alive
  obtain ⟨sound, armed⟩ := inv (alive_of_step alive)
  cases op with
  | upsert event => exact sound.upsert armed platform event
  | remove id => exact sound.remove armed id
  | registerDevice device fault => exact sound.persistNow rfl fault
  | setMqttCommandProfile id profile fault =>
      exact sound.setMqttCommandProfile armed fault id profile
  | timerFires fault => exact sound.timerFires armed fault
  | flush fault => exact sound.flush fault
  | dispose fault => simp [step, dispose] at alive

theorem inv_empty : Inv json {} := by
  intro _
  refine ⟨⟨rfl, rfl, OrderedMap.keyedBy_empty _, OrderedMap.keyedBy_empty _, ?_⟩, ?_⟩
  · intro id
    exact ⟨fun _ same => same, fun _ same => Or.inl same, fun _ => ⟨rfl, rfl⟩⟩
  · intro something
    exact absurd rfl something

end Steps

/-- What write-behind persistence promises at one moment. -/
structure NothingLost (json : Stringify) (s : PersistentRegistry) : Prop where
  /-- A device in memory is queued as it is, or its row is its serialization. -/
  kept : ∀ id device, s.devices.get id = some device →
    s.pendingWrites.get id = some device ∨ s.rows.get id = some (serializeDevice json device)
  /-- A queued write is of the current value. -/
  current : ∀ id device, s.pendingWrites.get id = some device → s.devices.get id = some device
  /-- An id not in memory has no row and no queued write. -/
  absent : ∀ id, s.devices.get id = none → s.rows.get id = none ∧ s.pendingWrites.get id = none
  armed : s.pendingWrites.size ≠ 0 → s.flushTimer = true
  /-- After a flush that succeeds the rows are the serialized devices. -/
  flushed : ∀ fault, s.FlushSucceeds json fault →
    (∀ id, (s.flushPendingWrites json fault).rows.get id =
      (s.devices.get id).map (serializeDevice json)) ∧
    ∀ row, row ∈ (s.flushPendingWrites json fault).rows.values ↔
      row ∈ (s.flushPendingWrites json fault).devices.values.map (serializeDevice json)

theorem Sound.nothingLost {json : Stringify} {s : PersistentRegistry} (sound : Sound json s)
    (armed : s.Armed) : NothingLost json s where
  kept id device found := (sound.coherent id).kept device found
  current id device queued := (sound.coherent id).current device queued
  absent id missing := (sound.coherent id).absent missing
  armed := armed
  flushed := by
    intro fault succeeds
    obtain ⟨commits, _, devices⟩ := sound.flush_commits succeeds
    have rows : ∀ id, (s.flushPendingWrites json fault).rows.get id =
        (s.devices.get id).map (serializeDevice json) := by
      intro id
      have stored := sound.coherent.store_commit id
      rw [← commits] at stored
      exact stored
    refine ⟨rows, fun row => ?_⟩
    rw [OrderedMap.mem_values, List.mem_map, devices]
    constructor
    · rintro ⟨id, found⟩
      rw [rows] at found
      obtain ⟨device, there, same⟩ := Option.map_eq_some_iff.mp found
      exact ⟨device, OrderedMap.mem_values.mpr ⟨id, there⟩, same⟩
    · rintro ⟨device, there, rfl⟩
      obtain ⟨id, found⟩ := OrderedMap.mem_values.mp there
      exact ⟨id, by rw [rows, found]; rfl⟩

/-- **Nothing is lost.**  In every state that any operations, timers, flushes and failed
batches reach from the empty database before `dispose`. -/
theorem nothing_lost (platform : Platform) (json : Stringify) (ops : List RegistryOp)
    (alive : (run (step platform json) {} ops).disposed = false) :
    NothingLost json (run (step platform json) {} ops) := by
  have inv : Inv json (run (step platform json) {} ops) :=
    run_invariant (step_inv platform) inv_empty ops
  obtain ⟨sound, armed⟩ := inv alive
  exact sound.nothingLost armed

/-- The library as far as one sensor goes; nothing is hashed or parsed on its way. -/
def atticPlatform : Platform where
  sha256 text := text
  jsonParse _ := none
  number _ := none
  trim text := text
  toLowerCase text := text
  titleCase text := if text = "attic" then "Attic" else text

/-- `JSON.stringify` of texts without escapes, of the empty state and of no profile. -/
def atticStringify : Stringify where
  capabilities items :=
    "[" ++ String.intercalate "," (items.map fun item => "\"" ++ item ++ "\"") ++ "]"
  state _ := "\x7b\x7d"
  profile _ := "\x7b\x7d"

/-- A reading whose batch throws, then a newer one: the newer one is queued, the timer
is armed and the table is still empty. -/
theorem nothing_lost_retry :
    let reading := fun timestamp : Nat =>
      ({ deviceId := "sensor-attic", deviceType := "sensor", state := .empty,
         topic := "home/sensor/attic", timestamp } : NormalizedEvent)
    let s := run (step atticPlatform atticStringify) {}
      [.upsert (reading 1), .timerFires (some (0, "database is locked")), .upsert (reading 2)]
    (s.pendingWrites.get "sensor-attic").map Device.lastSeen = some 2 ∧ s.flushTimer = true ∧
      s.rows.size = 0 ∧ NothingLost atticStringify s := by
  intro reading s
  exact ⟨by decide, by decide, by decide, nothing_lost atticPlatform atticStringify _ (by decide)⟩

end PersistentRegistry

end Aeolus.Core
