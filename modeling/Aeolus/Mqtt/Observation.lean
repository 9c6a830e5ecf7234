/-
# Aeolus.Mqtt.Observation — when an observed-tier command is confirmed

A command that waits for an observation should be confirmed as soon as the merged
state of its device satisfies its condition.  What the tracker gets to see is
something else: the payloads of the MQTT messages stamped with that device, each by
itself.  `feeds` says what an event hands to the tracker, `payloads` collects what
concerns one device along a run, and `run_stands` says that the first of these that
decides the condition decides the command.

So a merged state that satisfies the condition confirms the command exactly when
some payload does so on its own (`complete_iff_confirms`).  A connector's update is
never such a payload, and neither are two messages that satisfy it together.
-/
import Aeolus.Mqtt.MqttService
import Aeolus.Automations.CommandInvariant

namespace Aeolus.Mqtt

open Aeolus.Theory
open Aeolus.Core
open Aeolus.Automations

/-! ## What one event hands to the tracker -/

namespace Hub

section Feeds

variable (platform : Platform) (config : MqttServiceConfig)

def feeds (h : Hub) : HubEvent → Option TrackerEvent
  | .message topic raw correlationData now =>
      if isAckTopic config topic then (ackMessage platform raw correlationData).map (.route · now)
      else if isAutomationEventTopic config topic then none
      else if isIgnoredDiscoveryTopic platform config topic then none
      else
        (h.deviceEvent platform topic raw now).bind fun event =>
          (h.emit platform event).map fun _ => .observeState event.deviceId event.state
  | .register command => some (.register command)
  | .cancel correlationId => some (.cancel correlationId)
  | .timer correlationId => some (.timer correlationId)
  | _ => none

/-- The device an event updates, as it is after the merge. -/
def updates (h : Hub) : HubEvent → Option Device
  | .message topic raw _ now =>
      if isAckTopic config topic then none
      else if isAutomationEventTopic config topic then none
      else if isIgnoredDiscoveryTopic platform config topic then none
      else
        (h.deviceEvent platform topic raw now).bind fun event =>
          (h.registry.upsert platform event).map Prod.fst
  | .connectorDevice device instanceId now =>
      (h.registry.upsert platform (connectorEvent device instanceId now)).map Prod.fst
  | .trigger name body now =>
      (h.registry.upsert platform (triggerEvent name body now)).map Prod.fst
  | _ => none

variable {platform config}

theorem emit_tracker {h h' : Hub} {event : NormalizedEvent}
    (emitted : h.emit platform event = some h') : h'.tracker = h.tracker := by
  obtain ⟨updated, -, rfl⟩ := Option.map_eq_some_iff.mp emitted
  rfl

theorem getD_emit_tracker (h : Hub) (event : NormalizedEvent) :
    ((h.emit platform event).getD h).tracker = h.tracker := by
  cases emitted : h.emit platform event with
  | none => rfl
  | some h' => exact emit_tracker emitted

theorem step_tracker (h : Hub) (event : HubEvent) :
    (h.step platform config event).tracker =
      (h.feeds platform config event).elim h.tracker h.tracker.step := by
  cases event with
  | message topic raw correlationData now =>
      simp only [step, handleMessage, feeds]
      split
      · cases ackMessage platform raw correlationData <;> rfl
      · split
        · rfl
        · split
          · rfl
          · unfold handleState
            cases h.deviceEvent platform topic raw now with
            | none => rfl
            | some event =>
                cases emitted : h.emit platform event with
                | none => simp [emitted]
                | some h' =>
                    simp only [emitted, Option.bind_some, Option.map_some, Option.elim_some,
                      PendingCommandTracker.step, emit_tracker emitted]
  | connectorDevice device instanceId now => exact h.getD_emit_tracker _
  | trigger name body now => exact h.getD_emit_tracker _
  | registerDevice device => rfl
  | removeDevice id => rfl
  | register command => rfl
  | cancel correlationId => rfl
  | timer correlationId => rfl

theorem step_keyed {h : Hub} (keyed : h.tracker.Keyed) (event : HubEvent) :
    (h.step platform config event).tracker.Keyed := by
  rw [step_tracker]
  cases h.feeds platform config event with
  | none => exact keyed
  | some fed => exact h.tracker.step_keyed fed keyed

/-- The machine of one correlation id follows what is fed. -/
theorem view_step {h : Hub} (keyed : h.tracker.Keyed) (k : String) (event : HubEvent) :
    (h.step platform config event).tracker.view k =
      (h.feeds platform config event).elim (h.tracker.view k) (localStep k (h.tracker.view k)) := by
  rw [step_tracker]
  cases h.feeds platform config event with
  | none => rfl
  | some fed => exact h.tracker.view_step k fed keyed

/-- A message is a reply on the acknowledgement space, or shows a device's state. -/
theorem feeds_message {h : Hub} {topic raw : String} {correlationData : Option String} {now : Nat}
    {fed : TrackerEvent}
    (feeds : h.feeds platform config (.message topic raw correlationData now) = some fed) :
    (isAckTopic config topic = true ∧ ∃ message,
      ackMessage platform raw correlationData = some message ∧ fed = .route message now) ∨
    ∃ event : NormalizedEvent, fed = .observeState event.deviceId event.state := by
  simp only [Hub.feeds] at feeds
  split at feeds
  · rename_i ack
    obtain ⟨message, parsed, rfl⟩ := Option.map_eq_some_iff.mp feeds
    exact .inl ⟨ack, message, parsed, rfl⟩
  · split at feeds
    · cases feeds
    · split at feeds
      · cases feeds
      · obtain ⟨event, -, emitted⟩ := Option.bind_eq_some_iff.mp feeds
        obtain ⟨-, -, rfl⟩ := Option.map_eq_some_iff.mp emitted
        exact .inr ⟨event, rfl⟩

/-- Only a registration feeds a registration. -/
theorem feeds_registers {h : Hub} {event : HubEvent} {fed : TrackerEvent}
    (feeds : h.feeds platform config event = some fed) :
    fed.registers = none ∨ ∃ command, event = .register command ∧ fed = .register command := by
  cases event with
  | message topic raw correlationData now =>
      obtain ⟨-, message, -, rfl⟩ | ⟨event, rfl⟩ := feeds_message feeds
      · exact .inl rfl
      · exact .inl rfl
  | register command =>
      cases feeds
      exact .inr ⟨command, rfl, rfl⟩
  | cancel id =>
      cases feeds
      exact .inl rfl
  | timer id =>
      cases feeds
      exact .inl rfl
  | _ => cases feeds

end Feeds

end Hub

/-! ## What decides a waiting command -/

/-- A registration, a cancellation, the timer, or a reply that says more than that
the command was received. -/
def Decides (platform : Platform) (config : MqttServiceConfig) (k : String) : HubEvent → Prop
  | .message topic raw correlationData _ => isAckTopic config topic = true ∧
      ∃ message, ackMessage platform raw correlationData = some message ∧
        message.correlationId = k ∧ (message.success = some false ∨ message.state.isSome = true)
  | .register command => command.correlationId = k
  | .cancel correlationId => correlationId = k
  | .timer correlationId => correlationId = k
  | _ => False

/-- What a condition makes of one observed state. -/
def verdict (condition : Condition) (state : JsonObject) : Option PendingResolution :=
  match condition state with
  | .ok true => some ⟨.observed, true, none⟩
  | .ok false => none
  | .error message => some ⟨.failed, false, (some message).filter (· ≠ "")⟩

/-- The command waits, or was settled with a resolution. -/
def Stands (c : PendingCommand) (l : View) : Option PendingResolution → Prop
  | none => ∃ state, l.1 = some ⟨c, state⟩ ∧ (state = .dispatched ∨ state = .acknowledged) ∧
      l.outcome = []
  | some resolution => l.1 = none ∧ l.outcome = [resolution]

/-- The state a tracker event shows of device `d`. -/
def observation (d : String) : TrackerEvent → Option JsonObject
  | .observeState deviceId state => if deviceId = d then some state else none
  | _ => none

/-- A tracker event that is no registration, cancellation or timer of `k` and, if a
reply to it, only acknowledges. -/
def Undecided (k : String) : TrackerEvent → Prop
  | .register command => command.correlationId ≠ k
  | .route message _ => message.correlationId = k →
      message.success ≠ some false ∧ message.state = none
  | .observeState _ _ => True
  | .cancel correlationId => correlationId ≠ k
  | .timer correlationId => correlationId ≠ k

theorem undecided_of_feeds {platform : Platform} {config : MqttServiceConfig} {k : String}
    {h : Hub} {event : HubEvent} (undecided : ¬ Decides platform config k event)
    {fed : TrackerEvent} (feeds : h.feeds platform config event = some fed) : Undecided k fed := by
  cases event with
  | message topic raw correlationData now =>
      obtain ⟨ack, message, parsed, rfl⟩ | ⟨event, rfl⟩ := Hub.feeds_message feeds
      · intro mine
        by_contra decisive
        refine undecided ⟨ack, message, parsed, mine, ?_⟩
        by_contra plain
        rw [not_or, Bool.not_eq_true, Option.isSome_eq_false_iff, Option.isNone_iff_eq_none] at plain
        exact decisive plain
      · trivial
  | connectorDevice => cases feeds
  | trigger => cases feeds
  | registerDevice => cases feeds
  | removeDevice => cases feeds
  | register command =>
      cases feeds
      exact undecided
  | cancel id =>
      cases feeds
      exact undecided
  | timer id =>
      cases feeds
      exact undecided

section Local

variable {c : PendingCommand} {condition : Condition} {l : View} {event : TrackerEvent}

/-- An observation of the command's device settles it with the verdict, or leaves it. -/
theorem evaluateObservation_verdict (given : c.condition = some condition)
    {state : CommandLifecycleState} (early : state = .dispatched ∨ state = .acknowledged)
    (observed : JsonObject) :
    TrackedEntry.evaluateObservation ⟨c, state⟩ observed false =
      match verdict condition observed with
      | none => (some ⟨c, state⟩, [])
      | some resolution =>
          (none, [.onResolve c.correlationId resolution c.targetDeviceId,
            .resolve c.correlationId resolution]) := by
  have allowed : ∀ target, target = .observed ∨ target = .failed →
      ¬ (state ≠ target ∧ (!state.canTransition target) = true) := by
    rintro target (rfl | rfl) <;> rcases early with rfl | rfl <;> decide
  unfold TrackedEntry.evaluateObservation verdict
  rw [given]
  dsimp only
  cases condition observed with
  | error message => exact if_neg (allowed .failed (.inr rfl))
  | ok satisfied =>
      cases satisfied with
      | true => exact if_neg (allowed .observed (.inl rfl))
      | false => rfl

/-- A reply that only acknowledges keeps the command waiting. -/
theorem route_waits (tier : c.requiredTier = .observed) {state : CommandLifecycleState}
    (early : state = .dispatched ∨ state = .acknowledged) {message : AckMessage}
    (accepted : message.success ≠ some false) (bare : message.state = none) (now : Nat) :
    ∃ state', (TrackedEntry.route ⟨c, state⟩ message now).1 = some ⟨c, state'⟩ ∧
      (state' = .dispatched ∨ state' = .acknowledged) ∧
      (TrackedEntry.route ⟨c, state⟩ message now).2.filterMap Callback.resolution = [] := by
  unfold TrackedEntry.route
  rw [if_neg accepted]
  obtain same | ⟨-, same⟩ := TrackedEntry.acknowledge_cases ⟨c, state⟩ message
  · rw [same]
    simp only [tier, reduceCtorEq, and_false, if_false, bare, Bool.false_eq_true]
    exact ⟨state, rfl, early, rfl⟩
  · rw [same]
    simp only [tier, reduceCtorEq, and_false, if_false, bare, if_true]
    exact ⟨.acknowledged, rfl, .inr rfl, rfl⟩

theorem localStep_waits (tier : c.requiredTier = .observed)
    (given : c.condition = some condition) (waits : Stands c l none)
    (undecided : Undecided c.correlationId event) :
    Stands c (localStep c.correlationId l event)
      ((observation c.observedDeviceId event).bind (verdict condition)) := by
  obtain ⟨held, callbacks⟩ := l
  obtain ⟨state, rfl, early, pending⟩ := waits
  cases event with
  | register command =>
      rw [localStep, if_neg undecided]
      exact ⟨state, rfl, early, pending⟩
  | cancel id =>
      rw [localStep, if_neg undecided]
      exact ⟨state, rfl, early, pending⟩
  | timer id =>
      rw [localStep, if_neg undecided]
      exact ⟨state, rfl, early, pending⟩
  | route message now =>
      by_cases mine : message.correlationId = c.correlationId
      · obtain ⟨accepted, bare⟩ := undecided mine
        obtain ⟨state', held, early', silent⟩ := route_waits tier early accepted bare now
        simp only [localStep, if_pos mine]
        refine ⟨state', held, early', ?_⟩
        simp only [View.outcome, List.filterMap_append, silent, List.append_nil]
        exact pending
      · simp only [localStep, if_neg mine]
        exact ⟨state, rfl, early, pending⟩
  | observeState deviceId observed =>
      simp only [localStep, View.react, TrackedEntry.observe, tier, ne_eq, not_true_eq_false,
        if_false, observation]
      by_cases mine : deviceId = c.observedDeviceId
      · subst mine
        simp only [not_true_eq_false, if_false, if_true, Option.bind_some,
          evaluateObservation_verdict given early]
        cases verdict condition observed with
        | none => exact ⟨state, rfl, early, by simpa [View.outcome] using pending⟩
        | some resolution =>
            refine ⟨rfl, ?_⟩
            simp only [View.outcome, List.filterMap_append] at pending ⊢
            rw [pending]
            rfl
      · rw [if_pos fun same => mine same.symm, if_neg mine]
        exact ⟨state, rfl, early, by simpa [View.outcome] using pending⟩

theorem localStep_settled {resolution : PendingResolution} (settled : Stands c l (some resolution))
    (undecided : Undecided c.correlationId event) :
    Stands c (localStep c.correlationId l event) (some resolution) := by
  obtain ⟨held, callbacks⟩ := l
  obtain ⟨rfl, outcome⟩ := settled
  cases event with
  | register command =>
      rw [localStep, if_neg undecided]
      exact ⟨rfl, outcome⟩
  | cancel id =>
      rw [localStep, if_neg undecided]
      exact ⟨rfl, outcome⟩
  | timer id =>
      rw [localStep, if_neg undecided]
      exact ⟨rfl, outcome⟩
  | route message now =>
      simp only [localStep]
      split
      · exact ⟨rfl, (View.outcome_late _ _ _).trans outcome⟩
      · exact ⟨rfl, outcome⟩
  | observeState deviceId observed => exact ⟨rfl, outcome⟩

end Local

/-! ## A run -/

section Run

variable (platform : Platform) (config : MqttServiceConfig)

/-- The states of device `d` that the tracker is shown along a run, in order. -/
def payloads (d : String) : Hub → List HubEvent → List JsonObject
  | _, [] => []
  | h, event :: events =>
      ((h.feeds platform config event).bind (observation d)).toList ++
        payloads d (h.step platform config event) events

variable {platform config} {c : PendingCommand} {condition : Condition}

theorem step_stands (tier : c.requiredTier = .observed) (given : c.condition = some condition)
    {h : Hub} (keyed : h.tracker.Keyed) {event : HubEvent}
    (undecided : ¬ Decides platform config c.correlationId event)
    {decision : Option PendingResolution}
    (stands : Stands c (h.tracker.view c.correlationId) decision) :
    Stands c ((h.step platform config event).tracker.view c.correlationId)
      (decision.or
        (((h.feeds platform config event).bind (observation c.observedDeviceId)).bind
          (verdict condition))) := by
  rw [Hub.view_step keyed]
  cases fed : h.feeds platform config event with
  | none =>
      rw [Option.bind_none, Option.bind_none, Option.or_none]
      exact stands
  | some trackerEvent =>
      have undecided := undecided_of_feeds undecided fed
      cases decision with
      | none => exact localStep_waits tier given stands undecided
      | some resolution => exact localStep_settled stands undecided

/-- **The first payload that decides the condition decides the command.** -/
theorem run_stands (tier : c.requiredTier = .observed) (given : c.condition = some condition)
    {h : Hub} (keyed : h.tracker.Keyed) {events : List HubEvent}
    (undecided : ∀ event ∈ events, ¬ Decides platform config c.correlationId event)
    {decision : Option PendingResolution}
    (stands : Stands c (h.tracker.view c.correlationId) decision) :
    Stands c ((run (Hub.step platform config) h events).tracker.view c.correlationId)
      (decision.or ((payloads platform config c.observedDeviceId h events).findSome?
        (verdict condition))) := by
  induction events generalizing h decision with
  | nil =>
      rw [payloads, List.findSome?_nil, Option.or_none]
      exact stands
  | cons event events ih =>
      have here := step_stands tier given keyed (undecided event List.mem_cons_self) stands
      have rest := ih (Hub.step_keyed keyed event)
        (fun e member => undecided e (List.mem_cons_of_mem _ member)) here
      have first : ∀ o : Option JsonObject,
          o.toList.findSome? (verdict condition) = o.bind (verdict condition) := by
        intro o
        cases o <;> simp
      rw [run_cons, payloads, List.findSome?_append, first, ← Option.or_assoc]
      exact rest

/-- A payload satisfies the condition, and none before it made the condition throw. -/
def Confirms (condition : Condition) (states : List JsonObject) : Prop :=
  ∃ earlier state later, states = earlier ++ state :: later ∧ condition state = .ok true ∧
    ∀ s ∈ earlier, condition s = .ok false

theorem verdict_eq_observed {state : JsonObject} :
    verdict condition state = some ⟨.observed, true, none⟩ ↔ condition state = .ok true := by
  unfold verdict
  cases condition state with
  | error message => simp
  | ok satisfied => cases satisfied <;> simp

theorem verdict_eq_none {state : JsonObject} :
    verdict condition state = none ↔ condition state = .ok false := by
  unfold verdict
  cases condition state with
  | error message => simp
  | ok satisfied => cases satisfied <;> simp

theorem findSome_verdict_iff {states : List JsonObject} :
    states.findSome? (verdict condition) = some ⟨.observed, true, none⟩ ↔
      Confirms condition states := by
  rw [List.findSome?_eq_some_iff]
  constructor
  · rintro ⟨earlier, state, later, rfl, observed, undecided⟩
    exact ⟨earlier, state, later, rfl, verdict_eq_observed.mp observed,
      fun s member => verdict_eq_none.mp (undecided s member)⟩
  · rintro ⟨earlier, state, later, rfl, satisfied, undecided⟩
    exact ⟨earlier, state, later, rfl, verdict_eq_observed.mpr satisfied,
      fun s member => verdict_eq_none.mpr (undecided s member)⟩

theorem observed_iff {l : View} {decision : Option PendingResolution} (stands : Stands c l decision) :
    l.outcome = [⟨.observed, true, none⟩] ↔ decision = some ⟨.observed, true, none⟩ := by
  cases decision with
  | none =>
      obtain ⟨-, -, -, pending⟩ := stands
      simp [pending]
  | some resolution =>
      rw [stands.2]
      simp

/-- Nothing is known of an id that was never registered. -/
theorem run_unknown {k : String} {h : Hub} (keyed : h.tracker.Keyed)
    (unknown : Unknown (h.tracker.view k)) {events : List HubEvent}
    (unused : ∀ command, .register command ∈ events → command.correlationId ≠ k) :
    (run (Hub.step platform config) h events).tracker.Keyed ∧
      Unknown ((run (Hub.step platform config) h events).tracker.view k) := by
  induction events generalizing h with
  | nil => exact ⟨keyed, unknown⟩
  | cons event events ih =>
      refine ih (Hub.step_keyed keyed event) ?_
        fun command member => unused command (List.mem_cons_of_mem _ member)
      rw [Hub.view_step keyed]
      cases fed : h.feeds platform config event with
      | none => exact unknown
      | some trackerEvent =>
          obtain plain | ⟨command, rfl, rfl⟩ := Hub.feeds_registers fed
          · exact localStep_unknown plain unknown
          · show Unknown (localStep k _ (.register command))
            rw [localStep, if_neg (unused command List.mem_cons_self)]
            exact unknown

end Run

/-! ## Completeness -/

section Complete

variable (platform : Platform) (config : MqttServiceConfig)

/-- Some update makes the merged state of device `d` satisfy the condition. -/
def Satisfied (condition : Condition) (d : String) (h : Hub) (events : List HubEvent) : Prop :=
  ∃ before event device, before ++ [event] <+: events ∧
    (run (Hub.step platform config) h before).updates platform config event = some device ∧
    device.id = d ∧ condition device.state = .ok true

/-- The hub of a stored registry, after some events and the registration of `c`. -/
def registered (registry : DeviceRegistry) (before : List HubEvent) (c : PendingCommand) : Hub :=
  run (Hub.step platform config) { registry := registry } (before ++ [.register c])

/-- The command was confirmed. -/
def Observed (c : PendingCommand) (h : Hub) : Prop :=
  h.tracker.outcome c.correlationId = [⟨.observed, true, none⟩]

/-- **When an observation is enough.**  A command of the observed tier is registered
under an id that was not used before, and until the end of the run nothing else
decides it.  Then a merged state that satisfies its condition confirms it exactly
when some MQTT payload of the device satisfies the condition by itself, before any
payload on which the condition throws. -/
theorem complete_iff_confirms (registry : DeviceRegistry) (before after : List HubEvent)
    (c : PendingCommand) (condition : Condition) (tier : c.requiredTier = .observed)
    (given : c.condition = some condition)
    (unused : ∀ command, .register command ∈ before → command.correlationId ≠ c.correlationId)
    (undecided : ∀ event ∈ after, ¬ Decides platform config c.correlationId event) :
    (Satisfied platform config condition c.observedDeviceId
        (registered platform config registry before c) after →
      Observed c (run (Hub.step platform config)
        (registered platform config registry before c) after)) ↔
    (Satisfied platform config condition c.observedDeviceId
        (registered platform config registry before c) after →
      Confirms condition (payloads platform config c.observedDeviceId
        (registered platform config registry before c) after)) := by
  have start : (run (Hub.step platform config) { registry := registry } before).tracker.Keyed ∧
      Unknown ((run (Hub.step platform config) { registry := registry } before).tracker.view
        c.correlationId) :=
    run_unknown PendingCommandTracker.keyed_empty ⟨rfl, rfl⟩ unused
  have keyed : (registered platform config registry before c).tracker.Keyed := by
    unfold registered
    rw [run_append, run_cons, run_nil]
    exact Hub.step_keyed start.1 (.register c)
  have waits : Stands c ((registered platform config registry before c).tracker.view
      c.correlationId) none := by
    unfold registered
    rw [run_append, run_cons, run_nil, Hub.view_step start.1]
    show Stands c (localStep c.correlationId _ (.register c)) none
    rw [localStep, if_pos rfl]
    exact ⟨.dispatched, rfl, .inl rfl, start.2.2⟩
  have stands := run_stands tier given keyed undecided waits
  rw [Option.none_or] at stands
  refine imp_congr_right fun _ => ?_
  exact (observed_iff stands).trans findSome_verdict_iff

end Complete

/-! A lamp, switched on either by its connector or by an MQTT message. -/

/-- The lamp's message. -/
def lampOn : String := "\x7b\"on\":true\x7d"

/-- The library as far as that message goes; nothing is hashed on its way. -/
def lampPlatform : Platform :=
  { sha256 := id
    jsonParse := fun text => if text = lampOn then some (.obj [("on", .bool true)]) else none
    number := fun _ => none
    trim := id
    toLowerCase := id
    titleCase := fun text => if text = "lamp" then "Lamp" else text }

def lampIsOn : Condition := fun state =>
  match state.get "on" with
  | some (.bool on) => .ok on
  | _ => .ok false

def switchOn : PendingCommand :=
  { correlationId := "on-1"
    targetDeviceId := "lamp"
    observedDeviceId := "lamp"
    requiredTier := .observed
    condition := some lampIsOn
    timeoutMs := 5000 }

def hueLamp (on : Bool) : Device :=
  { id := "lamp"
    name := "Lamp"
    type := "light"
    capabilities := ["on/off"]
    state := ofFields [("on", .bool on)]
    integration := "hue"
    lastSeen := 1 }

/-- The connector reports the lamp on, the registry has it on, the command times out. -/
theorem connector_update_unobserved :
    ¬ ∀ (platform : Platform) (config : MqttServiceConfig) (registry : DeviceRegistry)
      (before after : List HubEvent) (c : PendingCommand) (condition : Condition),
      c.requiredTier = .observed → c.condition = some condition →
      (∀ command, .register command ∈ before → command.correlationId ≠ c.correlationId) →
      (∀ event ∈ after, ¬ Decides platform config c.correlationId event) →
      Satisfied platform config condition c.observedDeviceId
        (registered platform config registry before c) after →
      Observed c (run (Hub.step platform config)
        (registered platform config registry before c) after) := by
  intro always
  have observed := always lampPlatform {} {} [.connectorDevice (hueLamp false) none 1]
    [.connectorDevice (hueLamp true) none 2] switchOn lampIsOn rfl rfl (by simp) (by simp [Decides])
    ⟨[], _, _, List.prefix_rfl, rfl, rfl, rfl⟩
  unfold Observed at observed
  exact absurd observed (by decide)

theorem complete_iff_confirms_message :
    Observed switchOn (run (Hub.step lampPlatform {})
      (registered lampPlatform {} {} [] switchOn) [.message "lamp" lampOn none 2]) := by
  refine (complete_iff_confirms lampPlatform {} {} [] [.message "lamp" lampOn none 2] switchOn
    lampIsOn rfl rfl (by simp) ?_).mpr (fun _ => ?_) ?_
  · simp [Decides, isAckTopic, inSpace, truthy]
  · exact ⟨[], _, [], rfl, rfl, by simp⟩
  · exact ⟨[], _, _, List.prefix_rfl, rfl, rfl, rfl⟩

end Aeolus.Mqtt
