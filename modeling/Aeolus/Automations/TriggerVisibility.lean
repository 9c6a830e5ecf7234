/-
# Aeolus.Automations.TriggerVisibility — does an execution see the event that triggered it?

A device event goes to its listeners one after another, in the order in which they were
attached.  `main` of `src/index.ts` makes the engine before it attaches the listener that
merges the event into the `DeviceRegistry`, so a rule that is admitted at once starts before
the registry knows of the event.

What it reads by then depends on its kind.  A script reads the registry after it has awaited
its isolate, when all listeners are done.  The action of a form rule runs on the same stack
down to `CommandService.execute` and `ActionRouter.executeAction`, which look their target up
before they await anything.

`visible_along` says in which runs every read sees the event; `first_report_is_not_seen` is a
form rule that does not.
-/
import Aeolus.Automations.Unregistration

namespace Aeolus.Automations.TriggerVisibility

open Aeolus.Core Aeolus.Theory
open ExecutionGate AutomationEngine

/-! ## State -/

structure Wiring where
  engine : EngineConfig
  platform : Platform

/-- What happened to the devices.  An event has the id of the device it went to, unless none
could be allocated. -/
inductive Entry where
  | event (id : Option String) (event : Core.NormalizedEvent)
  | removed (id : String)

structure World where
  registry : DeviceRegistry
  engine : AutomationEngine := {}
  log : List Entry := []
  /-- for every execution, by its number, the entry of the device event that triggered it -/
  origins : List (Option Nat) := []

/-- What the engine is told of beside device events. -/
inductive Meanwhile where
  | register (id : String) (rule : Rule)
  | unregister (ruleId : String)
  | automationEvent (topic : String) (envelope : AutomationEventEnvelope) (around : Surroundings)
  | sharedStateChange (change : SharedStateChange) (around : Surroundings)
  | cronFires (ruleId : String) (around : Surroundings)
  | fire (ruleId : String) (context : EventContext) (around : Surroundings)
  | completes (handle : Handle)

def Meanwhile.event : Meanwhile → EngineEvent
  | .register id rule => .register id rule
  | .unregister ruleId => .unregister ruleId
  | .automationEvent topic envelope around => .automationEvent topic envelope around
  | .sharedStateChange change around => .sharedStateChange change around
  | .cronFires ruleId around => .cronFires ruleId around
  | .fire ruleId context around => .fire ruleId context around
  | .completes handle => .completes handle

/-- `accepts` says for which executions the checks of `CommandService` before acceptance pass:
the action has a handler, and its target is in the scope of the rule. -/
inductive Occurrence where
  | deviceStateChange (event : Core.NormalizedEvent) (metadata : Option EventMetadata)
      (around : Surroundings) (accepts : RuleExecution → Bool)
  | meanwhile (event : Meanwhile) (accepts : RuleExecution → Bool)
  /-- An execution reads the registry, some time after it has started. -/
  | reads (execution : Nat)
  | removeDevice (id : String)

/-! ## Listeners -/

/-- The event as the engine reads it. -/
def heard (event : Core.NormalizedEvent) (metadata : Option EventMetadata) : NormalizedEvent where
  deviceId := event.deviceId
  state := event.state
  topic := event.topic
  timestamp := event.timestamp
  metadata

section Step

variable (w : Wiring)

/-- The engine first, then the registry; an update that throws leaves the registry as it was. -/
def emit (world : World) (event : Core.NormalizedEvent) (metadata : Option EventMetadata)
    (around : Surroundings) : World :=
  let engine := world.engine.step w.engine (.deviceStateChange (heard event metadata) around)
  let updated := world.registry.upsert w.platform event
  { registry := (updated.map Prod.snd).getD world.registry
    engine
    log := world.log ++ [.event (updated.map (·.1.id)) event]
    origins := world.origins ++
      List.replicate (engine.executions.length - world.engine.executions.length)
        (some world.log.length) }

def step (world : World) : Occurrence → World
  | .deviceStateChange event metadata around _ => emit w world event metadata around
  | .meanwhile e _ =>
      let engine := world.engine.step w.engine e.event
      { world with
        engine
        origins := world.origins ++
          List.replicate (engine.executions.length - world.engine.executions.length) none }
  | .reads _ => world
  | .removeDevice id =>
      { world with
        registry := (world.registry.remove id).2
        log := world.log ++ [.removed id] }

end Step

/-! ## Reads -/

def RuleAction.isForm : RuleAction → Bool
  | .script _ => false
  | .form _ _ _ => true

/-- The executions that start and read the registry before they await anything: those of form
rules whose action is accepted. -/
def startsReading (accepts : RuleExecution → Bool) (before after : AutomationEngine) : List Nat :=
  after.started.filter fun i =>
    i ∉ before.started ∧
      (after.executions[i]?.any fun execution =>
        RuleAction.isForm execution.rule.action && accepts execution) = true

/-- The executions that read the registry, as it is before the occurrence. -/
def readers (w : Wiring) (world : World) (occurrence : Occurrence) : List Nat :=
  match occurrence with
  | .deviceStateChange _ _ _ accepts =>
      startsReading accepts world.engine (step w world occurrence).engine
  | .meanwhile _ accepts => startsReading accepts world.engine (step w world occurrence).engine
  | .reads i => [i].filter fun i => i ∈ world.engine.started
  | .removeDevice _ => []

/-- A later event of the device has the field. -/
def Overwritten (log : List Entry) (n : Nat) (id key : String) : Prop :=
  ∃ later, Entry.event (some id) later ∈ log.drop (n + 1) ∧ later.state.has key = true

/-- The registry contains the event of this entry: its device is there, with every field of the
event that no later event has overwritten. -/
def Contains (registry : DeviceRegistry) (log : List Entry) (n : Nat) : Prop :=
  ∃ id event device, log[n]? = some (.event (some id) event) ∧
    registry.getById id = some device ∧
    ∀ key value, event.state.get key = some value →
      Overwritten log n id key ∨ device.state.get key = some value

/-- Every execution that reads the registry sees the event that triggered it. -/
def Visible (w : Wiring) (world : World) (occurrence : Occurrence) : Prop :=
  ∀ i ∈ readers w world occurrence, ∀ n,
    (step w world occurrence).origins[i]? = some (some n) →
      Contains world.registry (step w world occurrence).log n

/-! ## When it holds -/

/-- The registry has this already. -/
def Known (w : Wiring) (registry : DeviceRegistry) (event : Core.NormalizedEvent) : Prop :=
  ∃ id device, (registry.upsert w.platform event).map (·.1.id) = some id ∧
    registry.getById id = some device ∧
    ∀ key value, event.state.get key = some value → device.state.get key = some value

/-- The event of this entry went to a device that is still there. -/
def Present (log : List Entry) (n : Nat) : Prop :=
  ∃ id event, log[n]? = some (.event (some id) event) ∧ Entry.removed id ∉ log.drop (n + 1)

/-- A device event starts no accepted form rule at once, or tells the registry nothing new.  An
execution that reads later does so while the device is there. -/
def Prompt (w : Wiring) (world : World) (occurrence : Occurrence) : Prop :=
  match occurrence with
  | .deviceStateChange event _ _ _ => readers w world occurrence = [] ∨ Known w world.registry event
  | _ => ∀ i ∈ readers w world occurrence, ∀ n,
      (step w world occurrence).origins[i]? = some (some n) → Present world.log n

/-! ## The engine -/

section Engine

variable {cfg : EngineConfig} {engine : AutomationEngine}

/-- Executions are added, and what starts besides what ran before is among those added. -/
structure Launched (cfg : EngineConfig) (before after : AutomationEngine) : Prop where
  coherent : Coherent cfg after
  grown : before.executions.length ≤ after.executions.length
  started : ∀ i ∈ after.started, i ∉ before.started → before.executions.length ≤ i

theorem Launched.submit {after : AutomationEngine} (launched : Launched cfg engine after)
    {execution : RuleExecution} {request : ExecutionRequest}
    (own : request.ruleId = execution.ruleId) (now : Nat) :
    Launched cfg engine (after.submit cfg execution request now) where
  coherent := launched.coherent.submit own now
  grown := by
    show _ ≤ (after.executions ++ [execution]).length
    rw [List.length_append]
    exact launched.grown.trans (Nat.le_add_right _ _)
  started i ran fresh := by
    obtain ⟨new, all, each⟩ := started_submit cfg after execution request now
    rw [all, List.mem_append] at ran
    rcases ran with old | here
    · exact launched.started i old fresh
    · rw [(each i here).1, ← launched.coherent.length_eq]
      exact launched.grown

/-- A device event starts nothing that waited before. -/
theorem launched_evaluate (coherent : Coherent cfg engine)
    (event : Automations.NormalizedEvent) (around : Surroundings) :
    Launched cfg engine (engine.step cfg (.deviceStateChange event around)) := by
  simp only [AutomationEngine.step, evaluate]
  refine dispatch_rec (P := Launched cfg engine)
    ⟨coherent, Nat.le_refl _, fun i ran fresh => absurd ran fresh⟩ fun id rule _ _ before kept => ?_
  exact kept.submit rfl _

theorem grown_step (e : EngineEvent) :
    engine.executions.length ≤ (engine.step cfg e).executions.length := by
  refine step_rec (P := fun after => engine.executions.length ≤ after.executions.length)
    (Nat.le_refl _) (fun before execution request now kept _ _ => ?_) (fun _ => Nat.le_refl _)
    (fun id rule _ => ?_) fun ruleId => Nat.le_refl _
  · show _ ≤ (before.executions ++ [execution]).length
    rw [List.length_append]
    exact kept.trans (Nat.le_add_right _ _)
  · exact Nat.le_refl _

end Engine

/-! ## The registry -/

section Registry

variable {registry after : DeviceRegistry} {log : List Entry} {n : Nat} {id : String}
  {event : Core.NormalizedEvent}

/-- The device is there, with the fields of this event that no later one has overwritten. -/
def Shows (registry : DeviceRegistry) (log : List Entry) (n : Nat) (id : String)
    (event : Core.NormalizedEvent) : Prop :=
  ∃ device, registry.getById id = some device ∧ ∀ key value, event.state.get key = some value →
    Overwritten log n id key ∨ device.state.get key = some value

theorem getElem?_concat {entry found : Entry} (here : (log ++ [entry])[n]? = some found) :
    n < log.length ∧ log[n]? = some found ∨ n = log.length ∧ found = entry := by
  rcases Nat.lt_trichotomy n log.length with old | rfl | beyond
  · rw [List.getElem?_append_left old] at here
    exact .inl ⟨old, here⟩
  · rw [List.getElem?_concat_length] at here
    exact .inr ⟨rfl, (Option.some.inj here).symm⟩
  · rw [List.getElem?_eq_none (by rw [List.length_append]; exact beyond)] at here
    cases here

/-- One more entry overwrites some fields of the device and leaves the others. -/
theorem Shows.later (shown : Shows registry log n id event) (old : n < log.length) {entry : Entry}
    (kept : ∀ device, registry.getById id = some device →
      ∃ device', after.getById id = some device' ∧
        ∀ key, (∃ later, entry = .event (some id) later ∧ later.state.has key = true) ∨
          device'.state.get key = device.state.get key) :
    Shows after (log ++ [entry]) n id event := by
  obtain ⟨device, found, fields⟩ := shown
  obtain ⟨device', found', each⟩ := kept device found
  have split : (log ++ [entry]).drop (n + 1) = log.drop (n + 1) ++ [entry] :=
    List.drop_append_of_le_length old
  refine ⟨device', found', fun key value has => ?_⟩
  unfold Overwritten
  rw [split]
  rcases fields key value has with ⟨later, member, written⟩ | same
  · exact .inl ⟨later, List.mem_append_left _ member, written⟩
  · rcases each key with ⟨later, rfl, written⟩ | unchanged
    · exact .inl ⟨later, List.mem_append_right _ List.mem_cons_self, written⟩
    · exact .inr (unchanged.trans same)

end Registry

/-! ## One occurrence -/

structure Inv (w : Wiring) (world : World) : Prop where
  keyed : world.registry.devices.KeyedBy Device.id
  coherent : Coherent w.engine world.engine
  numbered : world.origins.length = world.engine.executions.length
  /-- the registry shows every event of a device that has not been removed since -/
  kept : ∀ n id event, world.log[n]? = some (.event (some id) event) →
    .removed id ∉ world.log.drop (n + 1) → Shows world.registry world.log n id event

section Occurrences

variable {w : Wiring} {world : World}

theorem Inv.contains (inv : Inv w world) {n : Nat} (present : Present world.log n) :
    Contains world.registry world.log n := by
  obtain ⟨id, event, logged, stays⟩ := present
  obtain ⟨device, found, fields⟩ := inv.kept n id event logged stays
  exact ⟨id, event, device, logged, found, fields⟩

theorem numbered_replicate (numbered : world.origins.length = world.engine.executions.length)
    {engine : AutomationEngine}
    (grown : world.engine.executions.length ≤ engine.executions.length) (origin : Option Nat) :
    (world.origins ++ List.replicate
      (engine.executions.length - world.engine.executions.length) origin).length =
        engine.executions.length := by
  rw [List.length_append, List.length_replicate, numbered]
  exact Nat.add_sub_of_le grown

theorem kept_emit (inv : Inv w world) (e : Core.NormalizedEvent) (metadata : Option EventMetadata)
    (around : Surroundings) {n : Nat} {id : String} {event : Core.NormalizedEvent}
    (logged : (emit w world e metadata around).log[n]? = some (.event (some id) event))
    (stays : Entry.removed id ∉ (emit w world e metadata around).log.drop (n + 1)) :
    Shows (emit w world e metadata around).registry (emit w world e metadata around).log n id
      event := by
  unfold emit at logged stays ⊢
  dsimp only at logged stays ⊢
  rcases getElem?_concat logged with ⟨old, before⟩ | ⟨rfl, new⟩
  · rw [List.drop_append_of_le_length old] at stays
    have shown := inv.kept n id event before fun gone => stays (List.mem_append_left _ gone)
    refine shown.later old fun device found => ?_
    cases updated : world.registry.upsert w.platform e with
    | none => exact ⟨device, found, fun key => .inr rfl⟩
    | some result =>
        obtain ⟨merged, registry⟩ := result
        show ∃ device', registry.devices.get id = some device' ∧ _
        rw [upsert_devices updated]
        by_cases own : id = merged.id
        · subst own
          refine ⟨merged, OrderedMap.get_set_self _ _ _, fun key => ?_⟩
          have state := upsert_state inv.keyed updated key
          cases written : e.state.get key with
          | none =>
              rw [written, show world.registry.devices.get merged.id = some device from found]
                at state
              exact .inr state
          | some value => exact .inl ⟨e, rfl, OrderedMap.has_iff.mpr ⟨value, written⟩⟩
        · exact ⟨device, (OrderedMap.get_set_of_ne _ _ own).trans found, fun key => .inr rfl⟩
  · cases updated : world.registry.upsert w.platform e with
    | none =>
        rw [updated] at new
        cases new
    | some result =>
        obtain ⟨merged, registry⟩ := result
        rw [updated] at new
        cases new
        refine ⟨merged, ?_, fun key value has => .inr ?_⟩
        · show registry.devices.get merged.id = some merged
          rw [upsert_devices updated]
          exact OrderedMap.get_set_self _ _ _
        · rw [upsert_state inv.keyed updated key, has]
          rfl

theorem kept_removeDevice (inv : Inv w world) (gone : String) {n : Nat} {id : String}
    {event : Core.NormalizedEvent}
    (logged : (world.log ++ [Entry.removed gone])[n]? = some (.event (some id) event))
    (stays : Entry.removed id ∉ (world.log ++ [Entry.removed gone]).drop (n + 1)) :
    Shows (world.registry.remove gone).2 (world.log ++ [.removed gone]) n id event := by
  rcases getElem?_concat logged with ⟨old, before⟩ | ⟨-, new⟩
  · rw [List.drop_append_of_le_length old] at stays
    have shown := inv.kept n id event before fun there => stays (List.mem_append_left _ there)
    have other : id ≠ gone := by
      rintro rfl
      exact stays (List.mem_append_right _ List.mem_cons_self)
    refine shown.later old fun device found => ⟨device, ?_, fun key => .inr rfl⟩
    show (world.registry.remove gone).2.devices.get id = some device
    rw [DeviceRegistry.get_remove, if_neg other]
    exact found
  · cases new

theorem step_inv (inv : Inv w world) (occurrence : Occurrence) :
    Inv w (step w world occurrence) := by
  cases occurrence with
  | deviceStateChange e metadata around accepts =>
      have coherent := step_coherent (.deviceStateChange (heard e metadata) around) inv.coherent
      refine ⟨?_, coherent, ?_, fun n id event => kept_emit inv e metadata around⟩
      · show ((world.registry.upsert w.platform e).map Prod.snd |>.getD
          world.registry).devices.KeyedBy Device.id
        cases updated : world.registry.upsert w.platform e with
        | none => exact inv.keyed
        | some result =>
            show result.2.devices.KeyedBy Device.id
            rw [upsert_devices updated]
            exact inv.keyed.set _
      · exact numbered_replicate inv.numbered (grown_step _) _
  | meanwhile e accepts =>
      exact ⟨inv.keyed, step_coherent e.event inv.coherent,
        numbered_replicate inv.numbered (grown_step _) _, inv.kept⟩
  | reads i => exact inv
  | removeDevice gone =>
      refine ⟨?_, inv.coherent, inv.numbered, fun n id event => kept_removeDevice inv gone⟩
      intro k device found
      have here : (world.registry.remove gone).2.devices.get k = some device := found
      rw [DeviceRegistry.get_remove] at here
      split at here
      · cases here
      · exact inv.keyed k device here

/-- An execution that a device event starts is one that it triggered. -/
theorem origin_of_launched (inv : Inv w world) {engine : AutomationEngine}
    (launched : Launched w.engine world.engine engine) {i n m : Nat} (ran : i ∈ engine.started)
    (fresh : i ∉ world.engine.started)
    (origin : (world.origins ++ List.replicate
      (engine.executions.length - world.engine.executions.length) (some m))[i]? = some (some n)) :
    n = m := by
  have beyond : world.origins.length ≤ i := inv.numbered ▸ launched.started i ran fresh
  rw [List.getElem?_append_right beyond] at origin
  have member := List.mem_of_getElem? origin
  exact Option.some.inj (List.eq_of_mem_replicate member)

theorem visible_of_prompt (inv : Inv w world) {occurrence : Occurrence}
    (prompt : Prompt w world occurrence) : Visible w world occurrence := by
  cases occurrence with
  | deviceStateChange e metadata around accepts =>
      rintro i reads n origin
      rcases prompt with none | ⟨id, device, resolved, found, fields⟩
      · rw [none] at reads
        cases reads
      · obtain ⟨ran, starts⟩ := List.mem_filter.mp reads
        obtain ⟨fresh, -⟩ := of_decide_eq_true starts
        have launched := launched_evaluate inv.coherent (heard e metadata) around
        obtain rfl := origin_of_launched inv launched ran fresh origin
        refine ⟨id, e, device, ?_, found, fun key value has => .inr (fields key value has)⟩
        show (world.log ++ [Entry.event ((world.registry.upsert w.platform e).map (·.1.id)) e])[
          world.log.length]? = _
        rw [List.getElem?_concat_length, resolved]
  | meanwhile e accepts => exact fun i reads n origin => inv.contains (prompt i reads n origin)
  | reads j => exact fun i reads n origin => inv.contains (prompt i reads n origin)
  | removeDevice id => exact fun i reads => nomatch reads

end Occurrences

/-! ## Runs -/

/-- **Executions see their events.**  In every run in which no device event starts an accepted
form rule before the registry has its values, and no device is removed before an execution that
it triggered has read it, every read sees the event that triggered the execution. -/
theorem visible_along (w : Wiring) {registry : DeviceRegistry}
    (keyed : registry.devices.KeyedBy Device.id) {occurrences : List Occurrence}
    (prompt : Along (step w) (Prompt w) { registry } occurrences) :
    Along (step w) (Visible w) { registry } occurrences := by
  have start : Inv w { registry } :=
    ⟨keyed, coherent_empty w.engine {} .empty, rfl, fun n id event logged => nomatch logged⟩
  exact @Along.gives _ _ (step w) (Inv w) (Prompt w) (Visible w)
    (fun _ occurrence inv _ => step_inv inv occurrence)
    (fun _ _ inv prompt => visible_of_prompt inv prompt) _ start _ prompt

/-! ## Two poles -/

def house : Wiring where
  engine := oneSlot
  platform :=
    { sha256 := id
      jsonParse := fun _ => none
      number := fun _ => none
      trim := id
      toLowerCase := id
      titleCase := id }

/-- The first report of a lamp. -/
def lampReport : Core.NormalizedEvent where
  deviceId := "lamp"
  deviceType := "light"
  state := OrderedMap.empty.set "on" (.bool true)
  topic := "home/lamp"
  timestamp := 10

/-- The rule runs on the lamp's topic; its action is `toggle lamp`, or a script. -/
def lampRule (action : RuleAction) : Rule :=
  { onTopic "home/lamp" with action }

def lampRun (action : RuleAction) : List Occurrence :=
  [.meanwhile (.register "r" (lampRule action)) fun _ => true,
    .deviceStateChange lampReport none { now := fun _ => 10 } fun _ => true,
    .reads 0]

theorem visible_along_script :
    Along (step house) (Visible house) { registry := {} } (lampRun (.script "toggle()")) := by
  have prompt : Along (step house) (Prompt house) { registry := {} }
      (lampRun (.script "toggle()")) := by
    refine ⟨fun i reads => ?_, .inl (by decide), fun i reads n origin => ?_, trivial⟩
    · have none : readers house { registry := {} }
          (.meanwhile (.register "r" (lampRule (.script "toggle()"))) fun _ => true) = [] := by
        decide
      rw [none] at reads
      cases reads
    · obtain rfl := List.mem_singleton.mp (List.mem_filter.mp reads).1
      obtain rfl : n = 0 := by
        have first : (some (some n) : Option (Option Nat)) = some (some 0) := origin.symm
        exact Option.some.inj (Option.some.inj first)
      exact ⟨"lamp", lampReport, rfl, List.not_mem_nil⟩
  exact visible_along house (OrderedMap.keyedBy_empty _) prompt

/-- The rule toggles the lamp on the stack of the event that reports it first, when the registry
has no such device. -/
theorem first_report_is_not_seen :
    ¬ ∀ (w : Wiring) (registry : DeviceRegistry), registry.devices.KeyedBy Device.id →
      ∀ occurrences : List Occurrence, Along (step w) (Visible w) { registry } occurrences := by
  intro always
  obtain ⟨-, seen, -⟩ := always house {} (OrderedMap.keyedBy_empty _)
    (lampRun (.form "toggle" "lamp" .null))
  obtain ⟨id, event, device, -, found, -⟩ := seen 0 (by decide) 0 (by decide)
  cases found

end Aeolus.Automations.TriggerVisibility
