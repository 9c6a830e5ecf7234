/-
# Aeolus.Automations.ConditionGuard — does a rule run only when its condition holds?

The engine beside what its rules are made from: the rows of `automation_rules` and the
condition registry, whose contents come and go with the connectors
(`condition-registry.ts`, `registerContributions` of `connector-manager.ts`, and
`registerUiRule` with the routes around it in `automation.routes.ts`).  The predicate of a
rule is built when the rule is registered; it is absent when its type has no factory then, or
its value is empty.

Every type is registered with one factory, by one module or by `main`, so a type and a value
stand for one predicate, `denotes`.

The engine asks the predicate of a rule before it submits an event to the gate, and not at all
when a cron timer fires.  A rule without a predicate passes (`unbuilt_condition_runs`).
`guarded_along` says that nothing else goes wrong.
-/
import Aeolus.Automations.Unregistration
import Aeolus.Connectors.Contributions
import Aeolus.Core.DeviceIdentity

namespace Aeolus.Automations.ConditionGuard

open Aeolus.Core Aeolus.Db Aeolus.Theory Aeolus.Connectors
open ExecutionGate AutomationEngine

/-! ## State -/

/-- What does not change while the process runs. -/
structure Wiring where
  engine : EngineConfig
  /-- the condition registry as `main` fills it -/
  builtIn : OrderedMap String ConditionFactory
  modules : String → Option ConnectorModule
  /-- the predicate of a condition type and a value; it may throw -/
  denotes : String → String → EventContext → Except String Bool

/-- Why an execution was submitted.  `checked` is the condition type and value whose predicate
was asked, and held, on its context. -/
structure Cause where
  automatic : Bool
  checked : Option (String × String)

structure Backend where
  engine : AutomationEngine := {}
  contributions : Contributions := {}
  /-- the rows of `automation_rules` -/
  automationRules : OrderedMap String StoredRule := .empty
  /-- for every execution of the engine, by its number -/
  causes : List Cause := []

def Backend.conditionTypes (b : Backend) : List String := b.contributions.conditionRegistry.keys

inductive Trigger where
  | deviceStateChange (event : NormalizedEvent)
  | automationEvent (topic : String) (envelope : AutomationEventEnvelope)
  | sharedStateChange (change : SharedStateChange)
  | cronTick (ruleId : String)
  | manualFire (ruleId : String) (context : EventContext)

inductive Event where
  | connectorEnabled (connectorType : String)
  | connectorDisabled (connectorType : String)
  /-- The process starts again; these connectors are restored before the rules are loaded. -/
  | restart (restored : List String)
  /-- `POST /` and `PUT /:id`, and the routes that save a project -/
  | ruleSaved (id : String) (stored : StoredRule)
  | ruleDeleted (id : String)
  /-- `PATCH /:id/toggle` -/
  | ruleToggled (id : String) (enabled : Bool)
  | triggered (trigger : Trigger) (around : Surroundings)
  | completes (handle : Handle)

/-! ## Registration -/

/-- A connector type whose module is known registers what it contributes. -/
def enableType (modules : String → Option ConnectorModule) (c : Contributions)
    (connectorType : String) : Contributions :=
  match modules connectorType with
  | none => c
  | some mod => c.registerContributions connectorType mod

def disableType (modules : String → Option ConnectorModule) (c : Contributions)
    (connectorType : String) : Contributions :=
  match modules connectorType with
  | none => c
  | some mod => c.unregisterContributions connectorType mod

section Step

variable (w : Wiring)

/-- `registerUiRule` -/
def registerUiRule (types : List String) (engine : AutomationEngine) (id : String)
    (stored : StoredRule) : AutomationEngine :=
  engine.register w.engine id (RuleRegistry.liveRule types stored)

/-- `loadUiRules` -/
def loadUiRules (types : List String) (rows : OrderedMap String StoredRule) : AutomationEngine :=
  (rows.entries.filter (·.2.enabled)).foldl
    (fun engine row => registerUiRule w types engine row.1 row.2) {}

/-- A saved rule is registered again when it is enabled. -/
def saveRule (b : Backend) (id : String) (stored : StoredRule) : Backend :=
  let engine := b.engine.unregister id
  { b with
    automationRules := b.automationRules.set id stored
    engine :=
      if stored.enabled then registerUiRule w b.conditionTypes engine id stored else engine }

def toggleRule (b : Backend) (id : String) (enabled : Bool) : Backend :=
  match b.automationRules.get id with
  | none => b
  | some stored =>
      let stored := { stored with enabled }
      { b with
        automationRules := b.automationRules.set id stored
        engine :=
          if enabled then registerUiRule w b.conditionTypes b.engine id stored
          else b.engine.unregister id }

/-- The predicates of the rules, among what is read while an event is handled. -/
def Wiring.surroundings (around : Surroundings) : Surroundings :=
  { around with condition := fun condition => w.denotes condition.1 condition.2 }

def Trigger.event (around : Surroundings) : Trigger → EngineEvent
  | .deviceStateChange event => .deviceStateChange event around
  | .automationEvent topic envelope => .automationEvent topic envelope around
  | .sharedStateChange change => .sharedStateChange change around
  | .cronTick ruleId => .cronFires ruleId around
  | .manualFire ruleId context => .fire ruleId context around

/-- A cron timer and a manual fire ask no predicate. -/
def Trigger.cause (trigger : Trigger) (execution : RuleExecution) : Cause :=
  match trigger with
  | .cronTick _ => { automatic := true, checked := none }
  | .manualFire _ _ => { automatic := false, checked := none }
  | _ => { automatic := true, checked := execution.rule.condition }

def trigger (b : Backend) (trigger : Trigger) (around : Surroundings) : Backend :=
  let engine := b.engine.step w.engine (trigger.event (w.surroundings around))
  { b with
    engine
    causes := b.causes ++ (engine.executions.drop b.engine.executions.length).map trigger.cause }

def step (b : Backend) : Event → Backend
  | .connectorEnabled connectorType =>
      { b with contributions := enableType w.modules b.contributions connectorType }
  | .connectorDisabled connectorType =>
      { b with contributions := disableType w.modules b.contributions connectorType }
  | .restart restored =>
      let contributions := restored.foldl (enableType w.modules) { conditionRegistry := w.builtIn }
      { b with
        contributions
        engine := loadUiRules w contributions.conditionRegistry.keys b.automationRules
        causes := [] }
  | .ruleSaved id stored => saveRule w b id stored
  | .ruleDeleted id =>
      { b with
        automationRules := b.automationRules.delete id
        engine := b.engine.unregister id }
  | .ruleToggled id enabled => toggleRule w b id enabled
  | .triggered t around => trigger w b t around
  | .completes handle => { b with engine := b.engine.step w.engine (.completes handle) }

end Step

/-! ## What is claimed of an execution -/

/-- The condition that a row has was asked before the execution, on its context, and held. -/
def Checked (w : Wiring) (stored : StoredRule) (execution : RuleExecution) (cause : Cause) : Prop :=
  cause.automatic = true → ∀ type, truthy stored.conditionType = some type →
    ∃ value, stored.conditionValue = some value ∧ cause.checked = some (type, value) ∧
      w.denotes type value execution.context = .ok true

/-- The execution with this number, as the rows have its rule. -/
def CheckedAt (w : Wiring) (rows : OrderedMap String StoredRule) (executions : List RuleExecution)
    (causes : List Cause) (i : Nat) : Prop :=
  ∀ execution cause stored, executions[i]? = some execution → causes[i]? = some cause →
    rows.get execution.ruleId = some stored → Checked w stored execution cause

/-- Whatever an event starts was checked against the row that the rule has then. -/
def Guarded (w : Wiring) (b : Backend) (event : Event) : Prop :=
  ∀ i ∈ (step w b event).engine.started, i ∉ b.engine.started →
    CheckedAt w (step w b event).automationRules (step w b event).engine.executions
      (step w b event).causes i

/-! ## When it holds -/

/-- The trigger reaches the rule, if its condition does not stop it. -/
def Trigger.wakes (w : Wiring) (around : Surroundings) (id : String) (rule : Rule) :
    Trigger → Bool
  | .deviceStateChange event =>
      wakesOnTopics rule && topicMatches rule.topic event.topic &&
        admitDeviceEvent around id event.deviceId
  | .automationEvent topic _ => wakesOnTopics rule && topicMatches rule.topic topic
  | .sharedStateChange change =>
      !w.engine.coercion.exceeds maxEventDepth (orZero change.depth) &&
        (rule.triggerType = "shared-state" &&
          topicMatches rule.topic (sharedStatePath change.bucket change.key) &&
          admitSharedStateChange around id)
  | _ => false

/-- The row has a condition type. -/
def HasCondition (stored : StoredRule) : Prop := (truthy stored.conditionType).isSome = true

/-- A triggered request of the rule waits in the gate. -/
def Waits (b : Backend) (id : String) : Prop :=
  ∃ e ∈ b.engine.queueOf id, ∃ cause,
    b.causes[e.request.execute]? = some cause ∧ cause.automatic = true

/-- No event wakes a rule that has a condition and was registered without its predicate; no
cron timer fires for a rule with a condition; no condition is changed while a triggered request
of the rule waits. -/
def Safe (w : Wiring) (b : Backend) : Event → Prop
  | .triggered (.cronTick id) _ =>
      ∀ stored, b.automationRules.get id = some stored → ¬HasCondition stored
  | .triggered trigger around =>
      ∀ id rule stored, b.engine.registry.rules.get id = some rule →
        trigger.wakes w around id rule = true → b.automationRules.get id = some stored →
        HasCondition stored → rule.condition.isSome = true
  | .ruleSaved id stored =>
      HasCondition stored → Waits b id → ∃ old, b.automationRules.get id = some old ∧
        old.conditionType = stored.conditionType ∧ old.conditionValue = stored.conditionValue
  | _ => True

/-! ## Submissions -/

section Submissions

variable {w : Wiring} {rows : OrderedMap String StoredRule}

theorem checkedAt_append {executions : List RuleExecution} {causes : List Cause}
    (aligned : causes.length = executions.length) {i : Nat} (old : i < executions.length)
    (checked : CheckedAt w rows executions causes i) (execution : RuleExecution) (cause : Cause) :
    CheckedAt w rows (executions ++ [execution]) (causes ++ [cause]) i := by
  intro x c stored found caused row
  rw [List.getElem?_append_left old] at found
  rw [List.getElem?_append_left (aligned ▸ old)] at caused
  exact checked x c stored found caused row

theorem checkedAt_new {executions : List RuleExecution} {causes : List Cause}
    (aligned : causes.length = executions.length) {execution : RuleExecution} {cause : Cause}
    (checked : ∀ stored, rows.get execution.ruleId = some stored →
      Checked w stored execution cause) :
    CheckedAt w rows (executions ++ [execution]) (causes ++ [cause]) executions.length := by
  intro x c stored found caused row
  rw [List.getElem?_concat_length] at found
  rw [← aligned, List.getElem?_concat_length] at caused
  cases found
  cases caused
  exact checked stored row

/-- What waits is checked, and so is what has started since `ran`. -/
structure Served (w : Wiring) (rows : OrderedMap String StoredRule) (ran : List Nat)
    (engine : AutomationEngine) (causes : List Cause) : Prop where
  coherent : Coherent w.engine engine
  aligned : causes.length = engine.executions.length
  waiting : ∀ r, ∀ e ∈ engine.queueOf r,
    CheckedAt w rows engine.executions causes e.request.execute
  started : ∀ i ∈ engine.started, i ∉ ran → CheckedAt w rows engine.executions causes i

/-- A queued entry after a submission waited before, or is the new request. -/
theorem mem_queueOf_submit {cfg : EngineConfig} {engine : AutomationEngine}
    {execution : RuleExecution} {request : ExecutionRequest} {now : Nat} {r : String}
    {e : QueuedEntry} (waits : e ∈ (engine.submit cfg execution request now).queueOf r) :
    e ∈ engine.queueOf r ∨ e.request.execute = engine.history.calls.length := by
  obtain ⟨result, slot, cases, -⟩ := submitted cfg engine execution request now
  unfold AutomationEngine.queueOf at waits ⊢
  generalize (engine.submit cfg execution request now).history.gate = g at cases waits
  cases cases with
  | coalesced _ old pending same =>
      obtain ⟨front, a, back, split, -, -, replaced⟩ :=
        Gate.replacePending_split ⟨old, pending, same⟩
      refine (Gate.mem_queueOf_coalesce split replaced waits).imp id ?_
      rintro rfl
      rfl
  | queued =>
      rw [Gate.queueOf_push] at waits
      split at waits
      · refine (List.mem_append.mp waits).imp id fun new => ?_
        rw [List.mem_singleton.mp new]
        rfl
      · exact .inl waits
  | _ => exact .inl waits

theorem Served.submit {ran : List Nat} {engine : AutomationEngine} {causes : List Cause}
    (served : Served w rows ran engine causes) {execution : RuleExecution}
    {request : ExecutionRequest} (own : request.ruleId = execution.ruleId) {cause : Cause}
    (checked : ∀ stored, rows.get execution.ruleId = some stored →
      Checked w stored execution cause) (now : Nat) :
    Served w rows ran (engine.submit w.engine execution request now) (causes ++ [cause]) := by
  have calls := served.coherent.length_eq
  have new := checkedAt_new served.aligned checked
  refine ⟨served.coherent.submit own now, ?_, fun r e waits => ?_, fun i started fresh => ?_⟩
  · show (causes ++ [cause]).length = (engine.executions ++ [execution]).length
    rw [List.length_append, List.length_append, served.aligned]
    rfl
  · rcases mem_queueOf_submit waits with old | numbered
    · obtain ⟨x, found, -⟩ := served.coherent.ruleId_of_queued old
      have lt := (List.getElem?_eq_some_iff.mp found).1
      exact checkedAt_append served.aligned lt (served.waiting r e old) _ _
    · rw [numbered, ← calls]
      exact new
  · obtain ⟨added, all, each⟩ := started_submit w.engine engine execution request now
    rw [all, List.mem_append] at started
    rcases started with old | here
    · exact checkedAt_append served.aligned (served.coherent.started_lt old)
        (served.started i old fresh) _ _
    · rw [(each i here).1, ← calls]
      exact new

theorem Served.completes {engine : AutomationEngine} {causes : List Cause}
    (served : Served w rows engine.started engine causes) (handle : Handle) :
    Served w rows engine.started (engine.completes w.engine handle) causes := by
  refine ⟨served.coherent.completes handle, served.aligned, fun r e waits => ?_,
    fun i started fresh => ?_⟩
  · have sublist := Gate.complete_sublist w.engine.gate served.coherent.accounted.wf handle r
    exact served.waiting r e (sublist.subset waits)
  · obtain ⟨promoted, all, waited, -⟩ := served.coherent.started_completes handle
    rw [all, List.mem_append] at started
    rcases started with old | here
    · exact absurd old fresh
    · obtain ⟨e, member, rfl⟩ := List.mem_map.mp here
      obtain ⟨r, waits⟩ := waited e member
      exact served.waiting r e waits

end Submissions

/-! ## One event -/

section Events

variable {w : Wiring} {b : Backend}

/-- A registered rule was made from its row. -/
structure Inv (w : Wiring) (b : Backend) : Prop where
  served : Served w b.automationRules b.engine.started b.engine b.causes
  live : ∀ id rule, b.engine.registry.rules.get id = some rule →
    ∃ types stored, b.automationRules.get id = some stored ∧
      rule = RuleRegistry.liveRule types stored

theorem buildCondition_some {types : List String} {type value : Option String} {t v : String}
    (built : RuleRegistry.buildCondition types type value = some (t, v)) :
    truthy type = some t ∧ truthy value = some v := by
  unfold RuleRegistry.buildCondition at built
  split at built
  · rename_i t' v' typed valued
    split at built
    · cases built
      exact ⟨typed, valued⟩
    · cases built
  · cases built

/-- A rule with a predicate passes when what its row denotes holds. -/
theorem checked_of_passes (inv : Inv w b) {id : String} {rule : Rule} {stored : StoredRule}
    (found : b.engine.registry.rules.get id = some rule)
    (row : b.automationRules.get id = some stored)
    (built : HasCondition stored → rule.condition.isSome = true) {around : Surroundings}
    {context : EventContext} (passed : passes (w.surroundings around) rule context = true) :
    Checked w stored ⟨id, rule, context⟩ { automatic := true, checked := rule.condition } := by
  intro _ type typed
  have has : HasCondition stored := by
    rw [HasCondition, typed]
    rfl
  obtain ⟨⟨t, v⟩, condition⟩ := Option.isSome_iff_exists.mp (built has)
  obtain ⟨types, stored', row', rfl⟩ := inv.live id rule found
  obtain rfl : stored = stored' := Option.some.inj (row.symm.trans row')
  obtain ⟨typed', valued⟩ := buildCondition_some condition
  obtain rfl : type = t := Option.some.inj (typed.symm.trans typed')
  refine ⟨v, (truthy_eq_some.mp valued).1, condition, ?_⟩
  unfold passes at passed
  rw [condition] at passed
  have denotes : (w.surroundings around).condition (type, v) context = w.denotes type v context := rfl
  dsimp only at passed
  rw [denotes] at passed
  cases asked : w.denotes type v context with
  | ok holds =>
      rw [asked] at passed
      exact congrArg Except.ok passed
  | error e =>
      rw [asked] at passed
      cases passed

/-- The engine goes on from `b` by submissions, each with its cause. -/
def Extends (w : Wiring) (b : Backend) (t : Trigger) (engine : AutomationEngine) : Prop :=
  ∃ new, engine.executions = b.engine.executions ++ new ∧
    Served w b.automationRules b.engine.started engine (b.causes ++ new.map t.cause)

theorem Extends.submit {t : Trigger} {engine : AutomationEngine} (reached : Extends w b t engine)
    {execution : RuleExecution} {request : ExecutionRequest}
    (own : request.ruleId = execution.ruleId)
    (checked : ∀ stored, b.automationRules.get execution.ruleId = some stored →
      Checked w stored execution (t.cause execution)) (now : Nat) :
    Extends w b t (engine.submit w.engine execution request now) := by
  obtain ⟨new, executions, served⟩ := reached
  refine ⟨new ++ [execution], ?_, ?_⟩
  · show engine.executions ++ [execution] = _
    rw [executions, List.append_assoc]
  · rw [List.map_append, ← List.append_assoc]
    exact served.submit own checked now

theorem Inv.extends_self (inv : Inv w b) (t : Trigger) : Extends w b t b.engine :=
  ⟨[], (List.append_nil _).symm, by simpa using inv.served⟩

theorem extends_event (inv : Inv w b) {t : Trigger} {around : Surroundings}
    (safe : Safe w b (.triggered t around)) :
    Extends w b t (b.engine.step w.engine (t.event (w.surroundings around))) := by
  have start := inv.extends_self t
  cases t with
  | deviceStateChange event =>
      refine dispatch_rec start fun id rule found eligible before reached => ?_
      rw [Bool.and_eq_true] at eligible
      refine reached.submit rfl (fun stored row => ?_) _
      exact checked_of_passes inv found row (safe id rule stored found eligible.1 row) eligible.2
  | automationEvent topic envelope =>
      refine dispatch_rec start fun id rule found eligible before reached => ?_
      rw [Bool.and_eq_true] at eligible
      refine reached.submit rfl (fun stored row => ?_) _
      exact checked_of_passes inv found row (safe id rule stored found eligible.1 row) eligible.2
  | sharedStateChange change =>
      simp only [Trigger.event, AutomationEngine.step, evaluateSharedStateChange]
      split
      · exact start
      · rename_i shallow
        refine dispatch_rec start fun id rule found eligible before reached => ?_
        unfold wakesOnChange at eligible
        rw [Bool.and_eq_true] at eligible
        refine reached.submit rfl (fun stored row => ?_) _
        have woken : Trigger.wakes w around id rule (.sharedStateChange change) = true := by
          simp only [Trigger.wakes, shallow, Bool.not_false, Bool.true_and]
          exact eligible.1
        exact checked_of_passes inv found row (safe id rule stored found woken row) eligible.2
  | cronTick ruleId =>
      simp only [Trigger.event, AutomationEngine.step, cronFires]
      split
      · exact start
      · refine start.submit rfl (fun stored row _ type typed => ?_) _
        refine absurd ?_ (safe stored row)
        rw [HasCondition, typed]
        rfl
  | manualFire ruleId context =>
      simp only [Trigger.event, AutomationEngine.step, fire]
      split
      · exact start
      · refine start.submit rfl (fun stored row automatic => ?_) _
        cases automatic

/-- What a trigger starts or leaves in the gate was checked. -/
theorem served_trigger (inv : Inv w b) {t : Trigger} {around : Surroundings}
    (safe : Safe w b (.triggered t around)) :
    Served w b.automationRules b.engine.started (trigger w b t around).engine
      (trigger w b t around).causes := by
  obtain ⟨new, executions, served⟩ := extends_event inv safe
  have causes : (trigger w b t around).causes = b.causes ++ new.map t.cause := by
    unfold trigger
    dsimp only
    rw [executions, List.drop_left]
  rw [causes]
  exact served

/-- Rules are registered and rows are written while the gate goes on with what it has. -/
theorem served_rows (inv : Inv w b) {engine : AutomationEngine}
    (history : engine.history = b.engine.history)
    (executions : engine.executions = b.engine.executions) {rows : OrderedMap String StoredRule}
    (kept : ∀ id stored, rows.get id = some stored → HasCondition stored → Waits b id →
      ∃ old, b.automationRules.get id = some old ∧ old.conditionType = stored.conditionType ∧
        old.conditionValue = stored.conditionValue) :
    Served w rows b.engine.started engine b.causes := by
  have queues : ∀ r, engine.queueOf r = b.engine.queueOf r := by
    intro r
    rw [AutomationEngine.queueOf, history]
    rfl
  refine ⟨⟨history ▸ inv.served.coherent.accounted, ?_⟩, ?_, fun r e waits => ?_,
    fun i started fresh => ?_⟩
  · rw [executions, history]
    exact inv.served.coherent.numbered
  · rw [executions]
    exact inv.served.aligned
  · rw [queues] at waits
    intro x cause stored found caused row automatic type typed
    rw [executions] at found
    obtain ⟨y, found', rule⟩ := inv.served.coherent.ruleId_of_queued waits
    obtain rfl : x = y := Option.some.inj (found.symm.trans found')
    have has : HasCondition stored := by
      rw [HasCondition, typed]
      rfl
    obtain ⟨old, before, sameType, sameValue⟩ :=
      kept x.ruleId stored row has ⟨e, rule ▸ waits, cause, caused, automatic⟩
    rw [← sameType] at typed
    rw [← sameValue]
    exact inv.served.waiting r e waits x cause old found caused before automatic type typed
  · rw [AutomationEngine.started, history] at started
    exact absurd started fresh

/-- The registered rules were made from these rows. -/
def Live (rows : OrderedMap String StoredRule) (engine : AutomationEngine) : Prop :=
  ∀ id rule, engine.registry.rules.get id = some rule →
    ∃ types stored, rows.get id = some stored ∧ rule = RuleRegistry.liveRule types stored

theorem Live.register {rows : OrderedMap String StoredRule} {engine : AutomationEngine}
    (live : Live rows engine) {id : String} {stored : StoredRule}
    (row : rows.get id = some stored) (types : List String) :
    Live rows (registerUiRule w types engine id stored) := by
  intro other rule found
  change (engine.registry.rules.set id _).get other = some rule at found
  rw [OrderedMap.get_set] at found
  split at found
  · rename_i here
    cases found
    exact ⟨types, stored, here ▸ row, rfl⟩
  · exact live other rule found

/-- A row is changed after its rule is taken away. -/
theorem Live.unregister {rows rows' : OrderedMap String StoredRule} {engine : AutomationEngine}
    (live : Live rows engine) {id : String} (others : ∀ other ≠ id, rows'.get other = rows.get other) :
    Live rows' (engine.unregister id) := by
  intro other rule found
  change (engine.registry.rules.delete id).get other = some rule at found
  rw [OrderedMap.get_delete] at found
  split at found
  · cases found
  · rename_i apart
    rw [others other apart]
    exact live other rule found

theorem loadUiRules_spec (types : List String) (rows : OrderedMap String StoredRule) :
    (loadUiRules w types rows).history = {} ∧ (loadUiRules w types rows).executions = [] ∧
      Live rows (loadUiRules w types rows) := by
  unfold loadUiRules
  refine List.foldlRecOn (motive := fun engine : AutomationEngine => engine.history = {} ∧
    engine.executions = [] ∧ Live rows engine) _ _ ⟨rfl, rfl, ?_⟩ ?_
  · intro id rule found
    cases found
  · rintro engine ⟨history, executions, live⟩ row member
    have present := OrderedMap.mem_entries.mp (List.mem_filter.mp member).1
    exact ⟨history, executions, live.register present types⟩

theorem served_fresh {rows : OrderedMap String StoredRule} {engine : AutomationEngine}
    (history : engine.history = {}) (executions : engine.executions = []) (ran : List Nat) :
    Served w rows ran engine [] := by
  refine ⟨⟨history ▸ (inv_empty w.engine.gate).accounted, by rw [executions, history]; rfl⟩,
    by rw [executions]; rfl, fun r e waits => ?_, fun i started => ?_⟩
  · rw [AutomationEngine.queueOf, history] at waits
    cases waits
  · rw [AutomationEngine.started, history] at started
    cases started

/-- Every event checks what it starts, and leaves in the gate only what is checked. -/
theorem served_step (inv : Inv w b) (event : Event) (safe : Safe w b event) :
    Served w (step w b event).automationRules b.engine.started (step w b event).engine
      (step w b event).causes := by
  cases event with
  | connectorEnabled connectorType => exact inv.served
  | connectorDisabled connectorType => exact inv.served
  | restart restored =>
      have loaded := loadUiRules_spec (w := w)
        (restored.foldl (enableType w.modules)
          { conditionRegistry := w.builtIn }).conditionRegistry.keys b.automationRules
      exact served_fresh loaded.1 loaded.2.1 _
  | ruleSaved id stored =>
      have same : (saveRule w b id stored).engine.history = b.engine.history ∧
          (saveRule w b id stored).engine.executions = b.engine.executions := by
        unfold saveRule
        dsimp only
        split
        · exact ⟨rfl, rfl⟩
        · exact ⟨rfl, rfl⟩
      refine served_rows inv same.1 same.2 fun other row found has waits => ?_
      change (b.automationRules.set id stored).get other = some row at found
      rw [OrderedMap.get_set] at found
      split at found
      · rename_i here
        subst here
        cases found
        exact safe has waits
      · exact ⟨row, found, rfl, rfl⟩
  | ruleDeleted id =>
      change Served w (b.automationRules.delete id) _ (b.engine.unregister id) b.causes
      have same : (b.engine.unregister id).history = b.engine.history := rfl
      refine served_rows inv same rfl fun other row found _ _ => ?_
      change (b.automationRules.delete id).get other = some row at found
      rw [OrderedMap.get_delete] at found
      split at found
      · cases found
      · exact ⟨row, found, rfl, rfl⟩
  | ruleToggled id enabled =>
      change Served w (toggleRule w b id enabled).automationRules _
        (toggleRule w b id enabled).engine (toggleRule w b id enabled).causes
      unfold toggleRule
      split
      · exact inv.served
      · rename_i stored before
        have same : (if enabled then registerUiRule w b.conditionTypes b.engine id
              { stored with enabled } else b.engine.unregister id).history = b.engine.history ∧
            (if enabled then registerUiRule w b.conditionTypes b.engine id
              { stored with enabled } else b.engine.unregister id).executions =
                b.engine.executions := by
          split
          · exact ⟨rfl, rfl⟩
          · exact ⟨rfl, rfl⟩
        refine served_rows inv same.1 same.2 fun other row found _ _ => ?_
        rw [OrderedMap.get_set] at found
        split at found
        · rename_i here
          subst here
          cases found
          exact ⟨stored, before, rfl, rfl⟩
        · exact ⟨row, found, rfl, rfl⟩
  | triggered t around => exact served_trigger inv safe
  | completes handle => exact inv.served.completes handle

theorem registry_step_trigger (cfg : EngineConfig) (engine : AutomationEngine) (t : Trigger)
    (around : Surroundings) :
    (engine.step cfg (t.event around)).registry = engine.registry := by
  have dispatched : ∀ context eligible request,
      (engine.dispatch cfg around context eligible request).registry = engine.registry :=
    fun _ _ _ => dispatch_rec (P := fun after => after.registry = engine.registry) rfl
      fun _ _ _ _ _ same => same
  cases t with
  | deviceStateChange event => exact dispatched _ _ _
  | automationEvent topic envelope => exact dispatched _ _ _
  | sharedStateChange change =>
      simp only [Trigger.event, AutomationEngine.step, evaluateSharedStateChange]
      split
      · rfl
      · exact dispatched _ _ _
  | cronTick ruleId =>
      simp only [Trigger.event, AutomationEngine.step, cronFires]
      split
      · rfl
      · rfl
  | manualFire ruleId context =>
      simp only [Trigger.event, AutomationEngine.step, fire]
      split
      · rfl
      · rfl

theorem live_step (inv : Inv w b) (event : Event) :
    Live (step w b event).automationRules (step w b event).engine := by
  have live : Live b.automationRules b.engine := inv.live
  cases event with
  | connectorEnabled connectorType => exact live
  | connectorDisabled connectorType => exact live
  | restart restored => exact (loadUiRules_spec _ b.automationRules).2.2
  | ruleSaved id stored =>
      have gone : Live (b.automationRules.set id stored) (b.engine.unregister id) :=
        live.unregister fun other apart => OrderedMap.get_set_of_ne _ _ apart
      change Live _ (saveRule w b id stored).engine
      unfold saveRule
      dsimp only
      split
      · exact gone.register (OrderedMap.get_set_self _ _ _) _
      · exact gone
  | ruleDeleted id => exact live.unregister fun other apart => OrderedMap.get_delete_of_ne _ apart
  | ruleToggled id enabled =>
      change Live (toggleRule w b id enabled).automationRules (toggleRule w b id enabled).engine
      unfold toggleRule
      split
      · exact live
      · rename_i stored before
        dsimp only
        split
        · -- the row's other fields are as they were, and a live rule is made from those
          have kept : Live (b.automationRules.set id { stored with enabled := true }) b.engine := by
            intro other rule found
            obtain ⟨types, old, row, made⟩ := live other rule found
            by_cases here : other = id
            · subst here
              obtain rfl : stored = old := Option.some.inj (before.symm.trans row)
              exact ⟨types, { stored with enabled := true }, OrderedMap.get_set_self _ _ _, made⟩
            · exact ⟨types, old, (OrderedMap.get_set_of_ne _ _ here).trans row, made⟩
          rename_i on
          subst on
          exact kept.register (OrderedMap.get_set_self _ _ _) _
        · exact live.unregister fun other apart => OrderedMap.get_set_of_ne _ _ apart
  | triggered t around =>
      intro id rule found
      change (b.engine.step w.engine (t.event (w.surroundings around))).registry.rules.get id = _
        at found
      rw [registry_step_trigger] at found
      exact live id rule found
  | completes handle => exact live

theorem Inv.step (inv : Inv w b) (event : Event) (safe : Safe w b event) :
    Inv w (step w b event) :=
  have served := served_step inv event safe
  ⟨⟨served.coherent, served.aligned, served.waiting, fun _ started fresh => absurd started fresh⟩,
    live_step inv event⟩

theorem guarded_step (inv : Inv w b) (event : Event) (safe : Safe w b event) : Guarded w b event :=
  (served_step inv event safe).started

end Events

/-! ## Every run -/

/-- **Conditions guard every automatic execution**, in every run of safe events: from any rows,
whatever an event starts was checked on its own context against the condition that the row of
its rule has when it starts. -/
theorem guarded_along (w : Wiring) (rows : OrderedMap String StoredRule) {events : List Event}
    (safe : Along (step w) (Safe w) { automationRules := rows } events) :
    Along (step w) (Guarded w) { automationRules := rows } events := by
  have start : Inv w { automationRules := rows } :=
    ⟨served_fresh rfl rfl _, fun id rule found => nomatch found⟩
  exact @Along.gives _ _ (step w) (Inv w) (Safe w) (Guarded w)
    (fun _ event kept fine => kept.step event fine)
    (fun _ event kept fine => guarded_step kept event fine) _ start _ safe

/-! A plug, its connector, and a condition on its power. -/

/-- `power_above` of `src/connectors/kasa/index.ts`, of a threshold of fifty. -/
def powerAbove : ConditionFactory := fun value context =>
  match context.state.get "power" with
  | some (.num power) => value = "50" ∧ power > 50
  | _ => false

def plugWiring : Wiring where
  engine :=
    { gate := ⟨1, 3⟩
      isValidCron := fun _ => true
      coercion := ⟨fun _ => "", fun _ => none⟩ }
  builtIn := .empty
  modules connectorType :=
    if connectorType = "kasa" then some { conditions := [("power_above", powerAbove)] } else none
  denotes type value context :=
    if type = "power_above" then .ok (powerAbove value context) else .error "no such condition"

def plugRule (triggerType cronExpression : Option String) : StoredRule where
  name := "plug"
  triggerTopic := "plug"
  conditionType := some "power_above"
  conditionValue := some "50"
  actionType := "log"
  actionTarget := ""
  actionParams := .obj []
  ruleType := .form
  scriptSource := none
  compiledJs := none
  structuredMetadata := none
  uiSource := none
  compiledUi := none
  triggerType
  cronExpression
  authoredUnrestricted := true
  ownerTabId := none
  enabled := true
  createdAt := 0
  revision := 1

def reports (power : ℚ) : Event :=
  .triggered (.deviceStateChange ⟨"plug-1", .ofFields [("power", .num power)], "plug", 10, none⟩)
    { now := fun _ => 10 }

/-- The rule is saved while its connector is disabled, and runs whatever the plug reports. -/
theorem unbuilt_condition_runs :
    ¬ ∀ (w : Wiring) (rows : OrderedMap String StoredRule) (events : List Event),
      Along (step w) (Guarded w) { automationRules := rows } events := by
  intro always
  have guarded := (always plugWiring .empty
    [.restart ["kasa"], .connectorDisabled "kasa", .ruleSaved "rule-1" (plugRule none none),
      reports 0]).2.2.2.1
  obtain ⟨value, -, checked, -⟩ :=
    guarded 0 (by decide) (by decide) _ _ _ rfl rfl rfl rfl "power_above" rfl
  cases checked

/-- With its connector enabled the rule runs on a report of eighty watts. -/
theorem guarded_along_enabled :
    Along (step plugWiring) (Guarded plugWiring) { automationRules := .empty }
        [.restart ["kasa"], .ruleSaved "rule-1" (plugRule none none), reports 0, reports 80] ∧
      (run (step plugWiring) { automationRules := .empty }
        [.restart ["kasa"], .ruleSaved "rule-1" (plugRule none none), reports 0,
          reports 80]).engine.started = [0] := by
  have built : ∀ b : Backend, (b.engine.registry.rules.entries.all (·.2.condition.isSome)) = true →
      ∀ power, Safe plugWiring b (reports power) := by
    intro b all power id rule stored found _ _ _
    exact List.all_eq_true.mp all _ (OrderedMap.mem_entries.mpr found)
  refine ⟨guarded_along plugWiring .empty
    ⟨trivial, ?_, built _ (by decide) 0, built _ (by decide) 80, trivial⟩, by decide⟩
  rintro - ⟨e, waits, -⟩
  cases waits

end Aeolus.Automations.ConditionGuard
