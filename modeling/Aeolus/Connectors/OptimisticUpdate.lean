/-
# Aeolus.Connectors.OptimisticUpdate — what a connector action leaves in the registry

`executeAction` of `src/connectors/action-router.ts` looks the device up, awaits the
`execute` of its connector, if the catalog admits the action, and then emits the device as
it was looked up, with the fields of the action in its state.  `DeviceRegistry.upsert` merges that state into the one that is
there by then.

So every field of the snapshot is written again, also one that an event has changed while
the call was awaited, a toggle inverts the value of the snapshot, and the parameters go into
the state as they are, with the `actionType` that `handleDeviceAction` chose the action by.
`optimistic_exact_iff` says that nothing else goes wrong: the state is the one before with
the fields of the action exactly when the snapshot is `Undisturbed`.  A device action whose
type is told by its parameters never is, on a device without that type in its state
(`routed_disturbs`).

Pole: `stale_snapshot_restored` (the lamp is switched off while its brightness is set, and
is on again).
-/
import Aeolus.Api.DeviceRoutes
import Aeolus.Connectors.InventoryMirror

namespace Aeolus.Connectors

open Aeolus.Core Aeolus.Theory Aeolus.Automations

/-! ## What is claimed -/

/-- The parameters by which a handler chooses the action. -/
def routingKeys : List String := ["actionType"]

namespace Action

/-- The field that an action sets in the state it is applied to. -/
def sets (action : Action) (state : JsonObject) (key : String) : Option Json :=
  if action.type = "toggle" then
    if key = "on" then some (.bool (!isTruthy (state.get "on"))) else none
  else if key ∈ routingKeys then none
  else action.params.get key

/-- The action writes the field, whatever is there. -/
def Writes (action : Action) (key : String) : Prop :=
  if action.type = "toggle" then key = "on" else (action.params.get key).isSome = true

end Action

/-- The device is there as before, with the fields of the action set in its state. -/
def OnlyAction (action : Action) (before after : Option Device) : Prop :=
  ∃ d d', before = some d ∧ after = some d' ∧
    ∀ key, d'.state.get key = (action.sets d.state key).or (d.state.get key)

/-! ## When it holds -/

/-- The fields of the snapshot that the action does not write are as they were, a toggle
inverts what it is to invert, and no routing key is new. -/
structure Undisturbed (action : Action) (seen current : JsonObject) : Prop where
  kept : ∀ key value, ¬action.Writes key → seen.get key = some value →
    current.get key = some value
  switch : action.type = "toggle" → isTruthy (seen.get "on") = isTruthy (current.get "on")
  routing : action.type ≠ "toggle" → ∀ key ∈ routingKeys, ∀ value,
    action.params.get key = some value → current.get key = some value

/-- A device action that is told by its parameters puts its type into a state without it. -/
theorem routed_disturbs {descriptor : ActionDescriptor} {type : String}
    (told : (descriptor.params.get "actionType").bind Json.asString = some type)
    (other : type ≠ "toggle") {seen current : JsonObject}
    (new : current.get "actionType" ≠ some (.str type)) :
    ¬Undisturbed (Api.handleDeviceAction descriptor) seen current := by
  intro undisturbed
  obtain ⟨value, given, text⟩ := Option.bind_eq_some_iff.mp told
  have named : (Api.handleDeviceAction descriptor).type = type := by
    rw [Api.handleDeviceAction, told, Option.getD_some]
  have value_eq : value = .str type := by
    cases value <;> first | (cases text; rfl) | cases text
  refine new (undisturbed.routing (named ▸ other) "actionType" List.mem_cons_self _ ?_)
  rw [← value_eq]
  exact given

theorem get_optimisticState (device : Device) (action : Action) (key : String) :
    (ConnectorManager.optimisticState device action).get key =
      if action.type = "toggle" then
        if key = "on" then some (.bool (!isTruthy (device.state.get "on")))
        else device.state.get key
      else (action.params.get key).or (device.state.get key) := by
  unfold ConnectorManager.optimisticState
  split
  · rw [OrderedMap.get_set]
  · exact JsonObject.get_merge _ _ _

/-- Merged into the current state, the emitted one sets the fields of the action alone
exactly when the snapshot is undisturbed. -/
theorem merged_exact_iff (device : Device) (action : Action) (current : JsonObject) :
    (∀ key, ((ConnectorManager.optimisticState device action).get key).or (current.get key) =
      (action.sets current key).or (current.get key)) ↔
    Undisturbed action device.state current := by
  simp only [get_optimisticState, Action.sets]
  constructor
  · intro exact_
    refine ⟨fun key value unwritten has => ?_, fun toggle => ?_,
      fun other key member value given => ?_⟩
    · have here := exact_ key
      by_cases toggle : action.type = "toggle"
      · have apart : key ≠ "on" := by simpa [Action.Writes, toggle] using unwritten
        simpa [toggle, apart, has] using here.symm
      · have absent : action.params.get key = none := by
          simpa [Action.Writes, toggle] using unwritten
        simpa [toggle, absent, has] using here.symm
    · have here := exact_ "on"
      simpa [toggle] using here
    · have here := exact_ key
      simpa [other, member, given] using here.symm
  · intro undisturbed key
    have old (unwritten : ¬action.Writes key) :
        (device.state.get key).or (current.get key) = current.get key := by
      cases has : device.state.get key with
      | none => rfl
      | some value => exact (undisturbed.kept key value unwritten has).symm
    by_cases toggle : action.type = "toggle"
    · by_cases on : key = "on"
      · simp [toggle, on, undisturbed.switch toggle]
      · simpa [toggle, on] using old (by simpa [Action.Writes, toggle] using on)
    · cases given : action.params.get key with
      | none =>
          simpa [toggle, given] using old (by simp [Action.Writes, toggle, given])
      | some value =>
          by_cases routed : key ∈ routingKeys
          · simpa [toggle, routed] using
              (undisturbed.routing toggle key routed value given).symm
          · simp [toggle, routed]

/-! ## A call in flight -/

/-- The call that an event resumes. -/
def ConnectorEvent.settled : ConnectorEvent → Option Nat
  | .settles number _ _ _ => some number
  | _ => none

/-- The call with the number is as suspended as before, its number is not given again, and
the listener stays. -/
structure Keeps (n : Nat) (m m' : ConnectorManager) : Prop where
  flight : n < m.next → m'.flights.get n = m.flights.get n
  next : m.next ≤ m'.next
  listening : m'.listening = m.listening

namespace Keeps

variable {w : Wiring} {n : Nat} {m m' m'' : ConnectorManager}

theorem frame (flights : m'.flights = m.flights) (next : m.next ≤ m'.next)
    (listening : m'.listening = m.listening) : Keeps n m m' :=
  ⟨fun _ => by rw [flights], next, listening⟩

theorem refl : Keeps n m m := frame rfl le_rfl rfl

theorem launch (keeps : Keeps n m m') (flight : Flight) : Keeps n m (m'.launch flight) where
  flight given := by
    have apart : n ≠ m'.next := Nat.ne_of_lt (given.trans_le keeps.next)
    exact (OrderedMap.get_set_of_ne _ _ apart).trans (keeps.flight given)
  next := keeps.next.trans (Nat.le_succ _)
  listening := keeps.listening

theorem restoreNext (keeps : Keeps n m m') (records : List ConnectorRecord) :
    Keeps n m (m'.restoreNext w records) := by
  induction records with
  | nil => exact keeps
  | cons record rest ih =>
      unfold ConnectorManager.restoreNext
      split
      · exact ih
      · split
        · exact keeps
        · exact keeps.launch _

theorem resume (flight : Flight) (outcome : Settled) (now : Nat) (storeThrows : Bool) :
    Keeps n m (m.resume w flight outcome now storeThrows) := by
  cases flight with
  | enableConnecting id type => exact refl.launch _
  | enableDiscovering id type =>
      simp only [ConnectorManager.resume, ConnectorManager.enableDiscovered]
      split
      · exact refl
      · split
        · exact frame rfl le_rfl rfl
        · exact frame rfl (Nat.le_succ _) rfl
  | disableDisconnecting id i => exact refl.launch _
  | disableDisposing id i =>
      simp only [ConnectorManager.resume, ConnectorManager.disableDisposed]
      split <;> exact frame rfl le_rfl rfl
  | restoreConnecting record rest => exact refl.launch _
  | restoreDiscovering record rest =>
      simp only [ConnectorManager.resume, ConnectorManager.restoreDiscovered]
      split
      · exact refl
      · refine restoreNext ?_ rest
        exact frame rfl (Nat.le_succ _) rfl
  | polling id number =>
      simp only [ConnectorManager.resume, ConnectorManager.polled]
      split <;> exact frame rfl le_rfl rfl
  | retryConnecting id i =>
      simp only [ConnectorManager.resume]
      split
      · exact refl
      · exact refl.launch _
  | retryDiscovering id i => exact frame rfl le_rfl rfl
  | acting device action =>
      simp only [ConnectorManager.resume, ConnectorManager.acted]
      split
      · exact refl
      · split
        · exact frame rfl le_rfl rfl
        · split
          · exact refl.launch _
          · exact frame rfl le_rfl rfl
  | rediscovering => exact frame rfl le_rfl rfl

theorem step (m : ConnectorManager) (e : ConnectorEvent) (other : e.settled ≠ some n) :
    Keeps n m (m.step w e) := by
  cases e with
  | enable type id =>
      simp only [ConnectorManager.step, ConnectorManager.enable]
      split
      · exact refl
      · split
        · exact refl
        · exact refl.launch _
  | disable id =>
      simp only [ConnectorManager.step, ConnectorManager.disable]
      split
      · exact refl
      · refine launch ?_ _
        exact frame rfl le_rfl rfl
  | restoreFromStore => exact refl.restoreNext _
  | tick number =>
      simp only [ConnectorManager.step]
      split
      · exact refl
      · exact refl.launch _
  | retry id =>
      simp only [ConnectorManager.step]
      split
      · exact refl
      · exact refl.launch _
  | executeAction deviceId action catalog =>
      simp only [ConnectorManager.step, ConnectorManager.executeAction]
      split
      · exact refl.launch _
      · exact refl
  | settles k outcome now storeThrows =>
      simp only [ConnectorManager.step]
      split
      · exact refl
      · rename_i flight found
        have apart : n ≠ k := fun same => other (congrArg some same.symm)
        have resumed : Keeps n (m.taken k)
            ((m.taken k).resume w flight outcome now storeThrows) := resume _ _ _ _
        refine ⟨fun given => ?_, resumed.next, resumed.listening⟩
        exact (resumed.flight given).trans (OrderedMap.get_delete_of_ne _ apart)
  | stateChange event =>
      simp only [ConnectorManager.step]
      split
      · split <;> exact frame rfl le_rfl rfl
      · exact refl
  | removeDevice id => exact frame rfl le_rfl rfl

end Keeps

namespace ConnectorManager

variable {w : Wiring}

theorem run_listening {m : ConnectorManager} (listening : m.listening = true)
    (events : List ConnectorEvent) : (run (step w) m events).listening = true := by
  have preserve (m : ConnectorManager) (e : ConnectorEvent) (now : m.listening = true) :
      (m.step w e).listening = true := by
    -- any number but the one that is settled
    have other : e.settled ≠ some (e.settled.getD 0 + 1) := by
      cases e.settled with
      | none => exact nofun
      | some k =>
          simp only [Option.getD_some, ne_eq, Option.some.injEq]
          omega
    exact (Keeps.step m e other).listening.trans now
  exact run_invariant preserve listening events

theorem run_flight {m : ConnectorManager} {n : Nat} {flight : Flight}
    (suspended : m.flights.get n = some flight) (given : n < m.next)
    (events : List ConnectorEvent) (other : ∀ e ∈ events, e.settled ≠ some n) :
    (run (step w) m events).flights.get n = some flight := by
  have along : Along (step w) (fun _ e => e.settled ≠ some n) m events :=
    along_of_forall (fun e member _ => other e member) m
  have preserve (m : ConnectorManager) (e : ConnectorEvent)
      (held : m.flights.get n = some flight ∧ n < m.next) (other : e.settled ≠ some n) :
      (m.step w e).flights.get n = some flight ∧ n < (m.step w e).next := by
    have keeps := Keeps.step (w := w) m e other
    exact ⟨(keeps.flight held.2).trans held.1, held.2.trans_le keeps.next⟩
  exact (invariant_along preserve ⟨suspended, given⟩ along).1

/-- What a successful action emits reaches the device, whose state it is merged into. -/
theorem acted_device {m : ConnectorManager} (keyed : m.Keyed) (listening : m.listening = true)
    {device : Device} (connector : OfConnector device) {action : Action}
    (stays : action.type ≠ "delete" ∧ action.type ≠ "rename") (now : Nat) :
    ∃ d, (m.acted w device action now).registry.getById device.id = some d ∧
      ∀ key, d.state.get key = ((optimisticState device action).get key).or
        ((m.registry.getById device.id).bind (·.state.get key)) := by
  let emitted : Device := { device with state := optimisticState device action, lastSeen := now }
  obtain ⟨d, registry, updated, devices, under, -⟩ :=
    upsert_connectorEvent w.platform keyed (d := emitted) connector none now
  have reached : (m.acted w device action now).registry = registry := by
    rw [acted, if_neg stays.1, if_neg stays.2, emitDevices, if_pos listening]
    simp only [emitAll]
    rw [updated]
  refine ⟨d, ?_, fun key => ?_⟩
  · rw [reached, DeviceRegistry.getById, devices]
    exact OrderedMap.get_set_self _ _ _
  · rw [upsert_state keyed updated key, under]
    rfl

end ConnectorManager

/-! ## Exactness -/

/-- A run of the manager in which an action of a connector's device is admitted and handed to
its connector, and has not been settled by its end. -/
structure ActionRun (w : Wiring) where
  start : ConnectorManager
  keyed : start.Keyed
  listening : start.listening = true
  before : List ConnectorEvent
  deviceId : String
  action : Action
  stays : action.type ≠ "delete" ∧ action.type ≠ "rename"
  /-- the snapshot: the device as it is looked up -/
  device : Device
  found : (run (ConnectorManager.step w) start before).registry.getById deviceId = some device
  connector : OfConnector device
  catalog : Option (List CapabilityDescriptor)
  owner : String
  sent : ((run (ConnectorManager.step w) start before).router catalog).executeAction deviceId
    action = .sent owner action
  meanwhile : List ConnectorEvent
  awaiting : ∀ e ∈ meanwhile,
    e.settled ≠ some (run (ConnectorManager.step w) start before).next

namespace ActionRun

variable {w : Wiring} (r : ActionRun w)

/-- The manager when the action is called. -/
def called : ConnectorManager := run (ConnectorManager.step w) r.start r.before

/-- The manager just before the call goes on. -/
def awaited : ConnectorManager :=
  run (ConnectorManager.step w) r.called
    (.executeAction r.deviceId r.action r.catalog :: r.meanwhile)

/-- The connector has executed the action. -/
def after (outcome : Settled) (now : Nat) (storeThrows : Bool) : ConnectorManager :=
  r.awaited.step w (.settles r.called.next outcome now storeThrows)

theorem id_eq : r.device.id = r.deviceId :=
  run_invariant ConnectorManager.keyed_step r.keyed r.before _ _ r.found

/-- The snapshot waits until the call goes on. -/
theorem awaited_flight :
    r.awaited.flights.get r.called.next = some (.acting r.device r.action) := by
  have launched : r.called.executeAction r.deviceId r.action r.catalog =
      r.called.launch (.acting r.device r.action) := by
    have found : r.called.registry.getById r.deviceId = some r.device := r.found
    have sent : (r.called.router r.catalog).executeAction r.deviceId r.action =
      .sent r.owner r.action := r.sent
    rw [ConnectorManager.executeAction, found, sent]
  rw [awaited, run_cons, ConnectorManager.step, launched]
  refine ConnectorManager.run_flight (OrderedMap.get_set_self _ _ _) ?_ r.meanwhile r.awaiting
  exact Nat.lt_succ_self _

end ActionRun

/-- **Only what the action changed** is changed by the synthetic event, exactly when the
device is still there and its snapshot undisturbed. -/
theorem optimistic_exact_iff {w : Wiring} (r : ActionRun w) {outcome : Settled}
    (succeeded : outcome ≠ .threw) (now : Nat) (storeThrows : Bool) :
    OnlyAction r.action (r.awaited.registry.getById r.deviceId)
      ((r.after outcome now storeThrows).registry.getById r.deviceId) ↔
    ∃ current, r.awaited.registry.getById r.deviceId = some current ∧
      Undisturbed r.action r.device.state current.state := by
  have keyed : r.awaited.Keyed :=
    run_invariant ConnectorManager.keyed_step
      (run_invariant ConnectorManager.keyed_step r.keyed r.before) _
  have listening : r.awaited.listening = true :=
    ConnectorManager.run_listening (ConnectorManager.run_listening r.listening r.before) _
  have resumed : r.after outcome now storeThrows =
      (r.awaited.taken r.called.next).acted w r.device r.action now := by
    rw [ActionRun.after, ConnectorManager.step, r.awaited_flight]
    cases outcome with
    | threw => exact absurd rfl succeeded
    | returned => rfl
    | discovered devices => rfl
  obtain ⟨d, emitted, state⟩ := ConnectorManager.acted_device (w := w)
    (m := r.awaited.taken r.called.next) keyed listening r.connector r.stays now
  have there : (r.awaited.taken r.called.next).registry = r.awaited.registry := rfl
  rw [there] at state
  rw [r.id_eq] at emitted state
  rw [resumed, emitted]
  constructor
  · rintro ⟨current, _, found, same, only⟩
    cases same
    refine ⟨current, found, (merged_exact_iff r.device r.action current.state).mp fun key => ?_⟩
    rw [← only, state, found]
    rfl
  · rintro ⟨current, found, undisturbed⟩
    refine ⟨current, d, found, rfl, fun key => ?_⟩
    rw [← (merged_exact_iff r.device r.action current.state).mpr undisturbed, state, found]
    rfl

/-! ## The lamp, with its brightness -/

def dimmable (state : List (String × Json)) : Device :=
  { atticLamp with
    capabilities := ["on/off", "brightness"], state := JsonObject.ofFields state }

/-- The attic bridge with its lamp, which is on. -/
def litAttic : ConnectorManager where
  registry :=
    { devices := OrderedMap.empty.set "hue-1"
        (dimmable [("on", .bool true), ("brightness", .num 50)]) }
  instances := OrderedMap.empty.set "attic" ⟨"hue", 0⟩
  timers := OrderedMap.empty.set 0 "attic"

/-- An action of the lamp, and a poll of its bridge that reports a state meanwhile. -/
def polledMeanwhile (action : Action) (stays : action.type ≠ "delete" ∧ action.type ≠ "rename")
    (sent : (litAttic.router none).executeAction "hue-1" action = .sent "attic" action)
    (reported : List (String × Json)) : ActionRun houseWiring where
  start := litAttic
  keyed := (OrderedMap.keyedBy_empty Device.id).set (dimmable _)
  listening := rfl
  before := []
  deviceId := "hue-1"
  action := action
  stays := stays
  device := dimmable [("on", .bool true), ("brightness", .num 50)]
  found := rfl
  connector := ⟨by decide, by decide⟩
  catalog := none
  owner := "attic"
  sent := sent
  meanwhile := [.tick 0, .settles 1 (.discovered [dimmable reported]) 5 false]
  awaiting e member := by
    simp only [List.mem_cons, List.not_mem_nil, or_false] at member
    rcases member with rfl | rfl
    · exact nofun
    · exact fun same => nomatch same

def toggleLamp : Action := ⟨"toggle", "hue-1", .empty⟩

/-- The lamp is toggled while the bridge reports a field that is new. -/
def toggled : ActionRun houseWiring :=
  polledMeanwhile toggleLamp (by decide) rfl [("reachable", .bool true)]

theorem toggled_undisturbed : ∃ current, toggled.awaited.registry.getById "hue-1" = some current ∧
    Undisturbed toggleLamp toggled.device.state current.state := by
  have added : ∃ current, toggled.awaited.registry.getById "hue-1" = some current ∧
      current.state = toggled.device.state.set "reachable" (.bool true) := ⟨_, rfl, rfl⟩
  obtain ⟨current, found, state⟩ := added
  refine ⟨current, found, ?_⟩
  rw [state]
  refine ⟨fun key value _ has => ?_, fun _ => rfl, fun other => absurd rfl other⟩
  by_cases new : key = "reachable"
  · subst new
    cases has
  · rw [OrderedMap.get_set_of_ne _ _ new]
    exact has

theorem optimistic_exact_iff_toggled :
    OnlyAction toggleLamp (toggled.awaited.registry.getById "hue-1")
      ((toggled.after .returned 6 false).registry.getById "hue-1") := by
  have succeeded : Settled.returned ≠ .threw := nofun
  exact (optimistic_exact_iff toggled succeeded 6 false).mpr toggled_undisturbed

/-- The action by which a script sets the brightness. -/
def setBrightness : Action :=
  Api.handleDeviceAction
    { type := "device_action", target := "hue-1"
      params := JsonObject.ofFields
        [("actionType", .str "brightness"), ("brightness", .num 80)] }

/-- The lamp is reported to be off while its brightness is set. -/
def dimmed : ActionRun houseWiring :=
  polledMeanwhile setBrightness (by decide) rfl [("on", .bool false)]

/-- The lamp that was switched off is on again, and the type of the action is in its state. -/
theorem stale_snapshot_restored :
    let before := dimmed.awaited.registry.getById "hue-1"
    let after := (dimmed.after .returned 6 false).registry.getById "hue-1"
    before.bind (·.state.get "on") = some (.bool false) ∧
      after.bind (·.state.get "on") = some (.bool true) ∧
      after.bind (·.state.get "actionType") = some (.str "brightness") ∧
      ¬OnlyAction setBrightness before after := by
  intro before after
  refine ⟨rfl, rfl, rfl, ?_⟩
  rintro ⟨d, d', here, there, only⟩
  have was : before.bind (·.state.get "on") = some (.bool false) := rfl
  have is_ : after.bind (·.state.get "on") = some (.bool true) := rfl
  rw [here, Option.bind_some] at was
  rw [there, Option.bind_some, only "on", was] at is_
  cases is_

end Aeolus.Connectors
