/-
# Aeolus.Automations.ManualFire — does a manual fire always settle?

`fire`, `executeRule`, `executeScriptRule`, `executeDirectRule` and `record` of
`src/automations/automation-engine.ts`.  `fire` hands its caller a promise that the thunk of
its request resolves after `executeRule` returns.  `executeRule` is said never to reject, but
it emits two events and records the result outside of its `try` blocks: when one of these
throws, it rejects, the thunk does not get to `resolve`, and the promise stays pending.

An execution suspends once, for the script or the action.  What it meets before and after is
its `Circumstances`; the event `finishes` runs it to its end, and frees its slot whatever that
end is.  Over every run of the engine, no execution rejects and every promise settles with the
result of its execution once that has finished, exactly when nothing that an execution meets
outside of its `try` blocks throws (`fire_settles_iff`).
-/
import Aeolus.Automations.AutomationEngine
import Aeolus.Automations.ExecutionRecorder

namespace Aeolus.Automations

open Aeolus.Core Aeolus.Theory
open ExecutionGate Handler

/-! ## One execution -/

structure FireConfig where
  engine : EngineConfig
  /-- is there a sandbox? -/
  sandbox : Bool := true
  /-- is there a recorder? -/
  executionRecorder : Bool := true

/-- What an execution meets: the listeners of its first event, the end of the script or of the
action, the commands collected meanwhile, and the recording. -/
structure Circumstances where
  executionId : String
  start : Nat
  finish : Nat
  firedListeners : List (Except Thrown PUnit) := []
  /-- is `isolated-vm` there? -/
  ivm : Bool := true
  /-- how the `try` block of `Sandbox.execute` ends -/
  script : Except Thrown Unit := .ok ()
  isolateWasDisposed : Bool := false
  /-- what `rule.action` settles with; `none` is any value that is no command result -/
  action : Except Thrown (Option CommandResult) := .ok none
  commandResults : List CommandResult := []
  recording : Recording

def RuleExecution.compiledJs (execution : RuleExecution) : Option String :=
  match execution.rule.action with
  | .script compiledJs => truthy (some compiledJs)
  | .form _ _ _ => none

/-- Does the rule run in the sandbox? -/
def RuleExecution.isScript (cfg : FireConfig) (execution : RuleExecution) : Bool :=
  execution.compiledJs.isSome && cfg.sandbox

section Execute

variable (cfg : FireConfig) (met : Circumstances) (execution : RuleExecution)

def emitFired : Handler Thrown Recorder PUnit :=
  Recorder.emit met.firedListeners
    (.fired met.executionId execution.ruleId
      ((truthy (some execution.rule.name)).getD "Unnamed Rule")
      execution.context.topic execution.context.deviceId met.start)

def recordRuleOf : ExecutionRecordRule where
  id := execution.ruleId
  name := truthy (some execution.rule.name)
  ruleType := if execution.compiledJs.isSome then .script else .form
  triggerTopic := execution.context.topic

def recordExecution (result : AutomationExecutionResult) : Handler Thrown Recorder PUnit :=
  if cfg.executionRecorder then
    Recorder.record met.recording (recordRuleOf execution) result
      ((met.finish : Int) - (met.start : Int))
  else pure ⟨⟩

def executeScriptRule : Handler Thrown Recorder AutomationExecutionResult := do
  emitFired met execution
  let sandboxResult ← check (executeSettles met.ivm met.isolateWasDisposed met.script)
  let result := assembleExecutionResult met.executionId (scriptLogic sandboxResult)
    (met.commandResults.map some)
  recordExecution cfg met execution result
  return result

/-- The logic of an action, and the command result that it returns. -/
def directLogic : Except Thrown (Option CommandResult) →
    Except Thrown (LogicOutcome × List CommandResult)
  | .ok returned => .ok ({ ok := true }, returned.toList)
  | .error err => do
      let error ← err.message
      return ({ ok := false, error }, [])

def executeDirectRule : Handler Thrown Recorder AutomationExecutionResult := do
  emitFired met execution
  let (logic, returned) ← check (directLogic met.action)
  let result := assembleExecutionResult met.executionId logic
    ((met.commandResults ++ returned).map some)
  recordExecution cfg met execution result
  return result

def executeRule : Handler Thrown Recorder AutomationExecutionResult :=
  if execution.isScript cfg then executeScriptRule cfg met execution
  else executeDirectRule cfg met execution

end Execute

/-! ## When it returns -/

section Returns

variable {cfg : FireConfig} {met : Circumstances} {execution : RuleExecution} {recorder : Recorder}

/-- Nothing that the execution meets outside of a `try` block throws: not the listeners, not
the insert, and not the reading of a message in a `catch`. -/
structure Quiet (cfg : FireConfig) (met : Circumstances) (execution : RuleExecution)
    (recorder : Recorder) : Prop where
  fired : Recorder.Silent met.firedListeners
  thrown : if execution.isScript cfg then met.ivm = true → met.script ≠ .error .nullish
    else met.action ≠ .error .nullish
  recording : cfg.executionRecorder = true → Recorder.Untroubled recorder met.recording

theorem directLogic_ok_iff {action : Except Thrown (Option CommandResult)} :
    (∃ outcome, directLogic action = .ok outcome) ↔ action ≠ .error .nullish := by
  cases action with
  | ok returned => exact ⟨fun _ => nofun, fun _ => ⟨_, rfl⟩⟩
  | error thrown =>
      cases thrown with
      | error text => exact ⟨fun _ => nofun, fun _ => ⟨_, rfl⟩⟩
      | value => exact ⟨fun _ => nofun, fun _ => ⟨_, rfl⟩⟩
      | nullish => exact ⟨nofun, fun other => absurd rfl other⟩

/-- Emission does not touch the log. -/
theorem untroubled_emitted {recording : Recording} {emitted : List EngineSignal} :
    Recorder.Untroubled { recorder with emitted } recording ↔
      Recorder.Untroubled recorder recording :=
  ⟨fun h => ⟨h.insert, h.metrics, h.completed⟩, fun h => ⟨h.insert, h.metrics, h.completed⟩⟩

theorem recordExecution_returns_iff {result : AutomationExecutionResult}
    {results : List CommandResult} (present : result.commandResults = results.map some) :
    (recordExecution cfg met execution result recorder).1 = .ok ⟨⟩ ↔
      (cfg.executionRecorder = true → Recorder.Untroubled recorder met.recording) := by
  unfold recordExecution
  by_cases there : cfg.executionRecorder = true
  · rw [if_pos there, Recorder.record_returns_iff present]
    exact ⟨fun untroubled _ => untroubled, fun untroubled => untroubled there⟩
  · rw [if_neg there]
    exact ⟨fun _ here => absurd here there, fun _ => rfl⟩

/-- Recording and returning a result returns when the recording does. -/
theorem recorded_returns_iff {result : AutomationExecutionResult} {results : List CommandResult}
    (present : result.commandResults = results.map some) :
    (∃ value, ((do
        recordExecution cfg met execution result
        return result : Handler Thrown Recorder AutomationExecutionResult) recorder).1 =
          .ok value) ↔
      (cfg.executionRecorder = true → Recorder.Untroubled recorder met.recording) := by
  rw [← @recordExecution_returns_iff cfg met execution recorder result results present]
  rw [bind_apply]
  rcases ran : recordExecution cfg met execution result recorder with ⟨thrown | done, after⟩
  · exact ⟨fun ⟨_, returned⟩ => (nomatch returned), nofun⟩
  · exact ⟨fun _ => rfl, fun _ => ⟨result, rfl⟩⟩

/-- An execution that emits its first event goes on as `rest` says. -/
theorem emitFired_returns_iff {α : Type} {rest : Handler Thrown Recorder α} :
    (∃ value, ((do emitFired met execution; rest : Handler Thrown Recorder α) recorder).1 =
        .ok value) ↔
      Recorder.Silent met.firedListeners ∧
        ∃ value, (rest (emitFired met execution recorder).2).1 = .ok value := by
  rw [bind_apply]
  have silent : (emitFired met execution recorder).1 = .ok ⟨⟩ ↔
      Recorder.Silent met.firedListeners := Recorder.emit_returns_iff
  rw [← silent]
  rcases emitFired met execution recorder with ⟨thrown | done, after⟩
  · exact ⟨fun ⟨_, returned⟩ => (nomatch returned), fun ⟨returned, _⟩ => nomatch returned⟩
  · exact ⟨fun returned => ⟨rfl, returned⟩, fun returned => returned.2⟩

theorem check_returns_iff {α β : Type} {outcome : Except Thrown α}
    {rest : α → Handler Thrown Recorder β} {P : Prop}
    (each : ∀ a, outcome = .ok a → ((∃ value, (rest a recorder).1 = .ok value) ↔ P)) :
    (∃ value, ((check outcome >>= rest) recorder).1 = .ok value) ↔
      (∃ a, outcome = .ok a) ∧ P := by
  cases outcome with
  | error thrown => exact ⟨fun ⟨_, returned⟩ => (nomatch returned), fun ⟨⟨_, ok⟩, _⟩ => nomatch ok⟩
  | ok a =>
      refine (each a rfl).trans ?_
      exact ⟨fun holds => ⟨⟨a, rfl⟩, holds⟩, fun holds => holds.2⟩

theorem executeScriptRule_returns_iff :
    (∃ result, (executeScriptRule cfg met execution recorder).1 = .ok result) ↔
      Recorder.Silent met.firedListeners ∧ (met.ivm = true → met.script ≠ .error .nullish) ∧
        (cfg.executionRecorder = true → Recorder.Untroubled recorder met.recording) := by
  unfold executeScriptRule
  rw [emitFired_returns_iff, ← @executeSettles_ok_iff met.ivm met.isolateWasDisposed]
  refine and_congr_right fun _ => check_returns_iff fun sandboxResult _ => ?_
  refine (recorded_returns_iff assemble_commandResults).trans ?_
  refine forall_congr' fun _ => ?_
  unfold emitFired
  rw [Recorder.emit_recorder]
  exact untroubled_emitted

theorem executeDirectRule_returns_iff :
    (∃ result, (executeDirectRule cfg met execution recorder).1 = .ok result) ↔
      Recorder.Silent met.firedListeners ∧ met.action ≠ .error .nullish ∧
        (cfg.executionRecorder = true → Recorder.Untroubled recorder met.recording) := by
  unfold executeDirectRule
  rw [emitFired_returns_iff, ← directLogic_ok_iff]
  refine and_congr_right fun _ => check_returns_iff fun outcome _ => ?_
  refine (recorded_returns_iff assemble_commandResults).trans ?_
  refine forall_congr' fun _ => ?_
  unfold emitFired
  rw [Recorder.emit_recorder]
  exact untroubled_emitted

/-- `executeRule` rejects exactly when something throws outside of its `try` blocks. -/
theorem executeRule_returns_iff :
    (∃ result, (executeRule cfg met execution recorder).1 = .ok result) ↔
      Quiet cfg met execution recorder := by
  unfold executeRule
  by_cases script : execution.isScript cfg = true
  · rw [if_pos script, executeScriptRule_returns_iff]
    constructor
    · rintro ⟨fired, thrown, recording⟩
      exact ⟨fired, by rwa [if_pos script], recording⟩
    · rintro ⟨fired, thrown, recording⟩
      rw [if_pos script] at thrown
      exact ⟨fired, thrown, recording⟩
  · rw [if_neg script, executeDirectRule_returns_iff]
    constructor
    · rintro ⟨fired, thrown, recording⟩
      exact ⟨fired, by rwa [if_neg script], recording⟩
    · rintro ⟨fired, thrown, recording⟩
      rw [if_neg script] at thrown
      exact ⟨fired, thrown, recording⟩

end Returns

/-! ## Runs -/

/-- The promises of the fires whose request was admitted or queued are named by the numbers
of their requests; `outcomes` has how the executions ended, and `resolved` the promises that
have settled. -/
structure FireRuntime where
  engine : AutomationEngine := {}
  recorder : Recorder := {}
  promises : List Nat := []
  outcomes : OrderedMap Nat (Except Thrown AutomationExecutionResult) := .empty
  resolved : OrderedMap Nat AutomationExecutionResult := .empty

inductive FireEvent where
  /-- anything that happens to the engine but the end of an execution -/
  | engine (event : EngineEvent)
  /-- execution `i` has done its work -/
  | finishes (i : Nat) (met : Circumstances)

/-- What `fire` returns at once, when the gate does not take the request. -/
def fireFailure (result : AdmitResult) : AutomationExecutionResult where
  executionId := ""
  success := false
  commandResults := []
  failureReason := some
    (if result = .dropped then "Execution gate: dropped (queue full)"
      else "Execution gate: suppressed (duplicate)")

inductive FireAnswer where
  | notFound (error : String)
  | promise (i : Nat)
  | failed (result : AutomationExecutionResult)

namespace FireRuntime

variable (cfg : FireConfig)

/-- A manual fire, and what it answers. -/
def fire (rt : FireRuntime) (around : Surroundings) (ruleId : String) (context : EventContext) :
    FireAnswer × FireRuntime :=
  let number := rt.engine.history.calls.length
  match rt.engine.fire cfg.engine around ruleId context with
  | .error error => (.notFound error, rt)
  | .ok engine =>
      match engine.history.calls[number]?.map CallRecord.result with
      | some (.admitted _) | some .queued =>
          (.promise number, { rt with engine, promises := rt.promises ++ [number] })
      | result => (.failed (fireFailure (result.getD .suppressed)), { rt with engine })

/-- A started execution that has not ended. -/
def running (rt : FireRuntime) (i : Nat) : Option RuleExecution :=
  if i ∈ rt.engine.started ∧ rt.outcomes.get i = none then rt.engine.executions[i]? else none

/-- The handles of the gate are given in the order of starting. -/
def handleOf (rt : FireRuntime) (i : Nat) : Handle := rt.engine.started.idxOf i

/-- The thunk resolves its promise with a result; the slot is freed in any case. -/
def finish (rt : FireRuntime) (i : Nat) (met : Circumstances) (execution : RuleExecution) :
    FireRuntime :=
  let ran := executeRule cfg met execution rt.recorder
  { engine := rt.engine.completes cfg.engine (rt.handleOf i)
    recorder := ran.2
    promises := rt.promises
    outcomes := rt.outcomes.set i ran.1
    resolved :=
      match ran.1 with
      | .ok result => if i ∈ rt.promises then rt.resolved.set i result else rt.resolved
      | .error _ => rt.resolved }

def step (rt : FireRuntime) : FireEvent → FireRuntime
  | .engine (.fire ruleId context around) => (rt.fire cfg around ruleId context).2
  -- a slot is freed by the end of its execution only
  | .engine (.completes _) => rt
  | .engine event => { rt with engine := rt.engine.step cfg.engine event }
  | .finishes i met =>
      match rt.running i with
      | none => rt
      | some execution => rt.finish cfg i met execution

/-! ## The statement -/

/-- No execution has rejected, and of those that have ended every promise has settled with
the result. -/
def Settled (rt : FireRuntime) : Prop :=
  ∀ i outcome, rt.outcomes.get i = some outcome →
    ∃ result, outcome = .ok result ∧ (i ∈ rt.promises → rt.resolved.get i = some result)

/-- The executions that end meet nothing that throws outside of a `try` block. -/
def Calm (rt : FireRuntime) : FireEvent → Prop
  | .engine _ => True
  | .finishes i met => ∀ execution, rt.running i = some execution →
      Quiet cfg met execution rt.recorder

/-- Executions that have ended had a number. -/
structure Numbered (rt : FireRuntime) : Prop where
  coherent : AutomationEngine.Coherent cfg.engine rt.engine
  ended : ∀ i outcome, rt.outcomes.get i = some outcome → i < rt.engine.executions.length

variable {cfg} {rt : FireRuntime}

/-- No event of the engine takes back a request. -/
theorem length_le_step (engine : AutomationEngine) (event : EngineEvent) :
    engine.executions.length ≤ (engine.step cfg.engine event).executions.length := by
  refine @AutomationEngine.step_rec cfg.engine engine
    (fun after => engine.executions.length ≤ after.executions.length) (Nat.le_refl _)
    (fun before execution request now kept _ _ => ?_) (fun _ => Nat.le_refl _)
    event (fun _ _ _ => Nat.le_refl _) (fun _ => Nat.le_refl _)
  refine Nat.le_trans kept ?_
  show _ ≤ (before.executions ++ [execution]).length
  rw [List.length_append]
  omega

/-- What a fire does: the engine's step, and perhaps a promise for the next number. -/
theorem fire_cases (around : Surroundings) (ruleId : String) (context : EventContext) :
    ∃ promises, (rt.fire cfg around ruleId context).2 =
        { rt with engine := rt.engine.step cfg.engine (.fire ruleId context around), promises } ∧
      ∀ i ∈ promises, i ∈ rt.promises ∨ i = rt.engine.history.calls.length := by
  have stepped : rt.engine.step cfg.engine (.fire ruleId context around) =
    (rt.engine.fire cfg.engine around ruleId context).toOption.getD rt.engine := rfl
  rw [stepped]
  unfold fire
  rcases rt.engine.fire cfg.engine around ruleId context with error | engine
  · exact ⟨rt.promises, rfl, fun _ => Or.inl⟩
  · dsimp only [Except.toOption, Option.getD_some]
    split
    · exact ⟨_, rfl, fun i member => (List.mem_append.mp member).imp id List.mem_singleton.mp⟩
    · exact ⟨_, rfl, fun i member => (List.mem_append.mp member).imp id List.mem_singleton.mp⟩
    · exact ⟨rt.promises, rfl, fun _ => Or.inl⟩

/-- What an event of the engine does to the rest. -/
theorem step_engine (event : EngineEvent) :
    ∃ promises engine, rt.step cfg (.engine event) = { rt with engine, promises } ∧
      (engine = rt.engine ∨ engine = rt.engine.step cfg.engine event) ∧
      ∀ i ∈ promises, i ∈ rt.promises ∨ i = rt.engine.history.calls.length := by
  cases event with
  | fire ruleId context around =>
      obtain ⟨promises, fired, numbered⟩ := @fire_cases cfg rt around ruleId context
      exact ⟨promises, _, fired, Or.inr rfl, numbered⟩
  | completes handle => exact ⟨rt.promises, rt.engine, rfl, Or.inl rfl, fun _ => Or.inl⟩
  | register _ _ | unregister _ | deviceStateChange _ _ | automationEvent _ _ _
  | sharedStateChange _ _ | cronFires _ _ =>
      exact ⟨rt.promises, _, rfl, Or.inr rfl, fun _ => Or.inl⟩

theorem step_finishes {i : Nat} {execution : RuleExecution}
    (running : rt.running i = some execution) (met : Circumstances) :
    rt.step cfg (.finishes i met) = rt.finish cfg i met execution := by
  show (match rt.running i with | none => rt | some execution => rt.finish cfg i met execution) = _
  rw [running]

theorem step_finishes_none {i : Nat} (idle : rt.running i = none) (met : Circumstances) :
    rt.step cfg (.finishes i met) = rt := by
  show (match rt.running i with | none => rt | some execution => rt.finish cfg i met execution) = _
  rw [idle]

theorem resolved_finish {i : Nat} {met : Circumstances} {execution : RuleExecution}
    {result : AutomationExecutionResult}
    (ok : (executeRule cfg met execution rt.recorder).1 = .ok result) :
    (rt.finish cfg i met execution).resolved =
      if i ∈ rt.promises then rt.resolved.set i result else rt.resolved := by
  unfold finish
  dsimp only
  rw [ok]

theorem running_number {i : Nat} {execution : RuleExecution}
    (running : rt.running i = some execution) : i < rt.engine.executions.length := by
  unfold FireRuntime.running at running
  split at running
  · exact (List.getElem?_eq_some_iff.mp running).1
  · cases running

theorem numbered_step (rt : FireRuntime) (event : FireEvent) (numbered : Numbered cfg rt) :
    Numbered cfg (rt.step cfg event) := by
  cases event with
  | engine event =>
      obtain ⟨promises, engine, stepped, same, -⟩ := @step_engine cfg rt event
      rw [stepped]
      rcases same with rfl | rfl
      · exact ⟨numbered.coherent, numbered.ended⟩
      · refine ⟨AutomationEngine.step_coherent event numbered.coherent, ?_⟩
        intro i outcome ended
        have below := numbered.ended i outcome ended
        have grows := @length_le_step cfg rt.engine event
        exact Nat.lt_of_lt_of_le below grows
  | finishes i met =>
      cases running : rt.running i with
      | none =>
          rw [step_finishes_none running]
          exact numbered
      | some execution =>
          rw [step_finishes running]
          refine ⟨numbered.coherent.completes _, fun j outcome ended => ?_⟩
          show j < rt.engine.executions.length
          by_cases same : j = i
          · rw [same]
            exact running_number running
          · refine numbered.ended j outcome ?_
            rwa [← OrderedMap.get_set_of_ne _ _ same]

/-- An event of the engine leaves the settled promises as they are; a new one is of an
execution that has not ended. -/
theorem settled_engine (numbered : Numbered cfg rt) (settled : rt.Settled) (event : EngineEvent) :
    (rt.step cfg (.engine event)).Settled := by
  obtain ⟨promises, engine, stepped, -, numbers⟩ := @step_engine cfg rt event
  rw [stepped]
  intro i outcome ended
  obtain ⟨result, ok, resolves⟩ := settled i outcome ended
  refine ⟨result, ok, fun member => ?_⟩
  rcases numbers i member with old | new
  · exact resolves old
  · have below := numbered.ended i outcome ended
    rw [numbered.coherent.length_eq] at below
    omega

/-- The end of an execution settles its promise exactly when the execution returns. -/
theorem settled_finish_iff (settled : rt.Settled) {i : Nat} {execution : RuleExecution}
    (met : Circumstances) :
    (rt.finish cfg i met execution).Settled ↔
      ∃ result, (executeRule cfg met execution rt.recorder).1 = .ok result := by
  constructor
  · intro after
    obtain ⟨result, ok, -⟩ := after i _ (OrderedMap.get_set_self ..)
    exact ⟨result, ok⟩
  · rintro ⟨result, ok⟩ j outcome ended
    by_cases same : j = i
    · subst same
      have now : outcome = .ok result := by
        refine (Option.some.inj (Eq.trans ?_ ended)).symm
        show _ = (rt.outcomes.set j _).get j
        rw [OrderedMap.get_set_self, ok]
      refine ⟨result, now, fun member => ?_⟩
      have waits : j ∈ rt.promises := member
      rw [resolved_finish ok, if_pos waits, OrderedMap.get_set_self]
    · have before : rt.outcomes.get j = some outcome := by
        rwa [← OrderedMap.get_set_of_ne _ _ same]
      obtain ⟨other, returned, resolves⟩ := settled j outcome before
      refine ⟨other, returned, fun member => ?_⟩
      rw [resolved_finish ok]
      split
      · rw [OrderedMap.get_set_of_ne _ _ same]
        exact resolves member
      · exact resolves member

/-- **Every manual fire settles**, over every run from start-up: in every state no execution
has rejected, and the promise of every admitted or queued fire whose execution has ended has
settled with its result, exactly when no execution ever meets anything that throws outside of
its `try` blocks. -/
theorem fire_settles_iff (cfg : FireConfig) (registry : RuleRegistry)
    (armed : OrderedMap String Rule) (recorder : Recorder) (events : List FireEvent) :
    (∀ before, before <+: events →
        (run (step cfg) { engine := { registry, armed }, recorder } before).Settled) ↔
      Along (step cfg) (Calm cfg) { engine := { registry, armed }, recorder } events := by
  have none_ended (i : Nat) (outcome : Except Thrown AutomationExecutionResult)
      (ended : (OrderedMap.empty : OrderedMap Nat _).get i = some outcome) : False := by
    rw [OrderedMap.get_empty] at ended
    cases ended
  refine invariant_iff_along (Numbered cfg) Settled (Calm cfg) numbered_step
    (fun rt event numbered settled => ?_)
    ⟨AutomationEngine.coherent_empty cfg.engine registry armed, fun i outcome ended =>
      (none_ended i outcome ended).elim⟩
    (fun i outcome ended => (none_ended i outcome ended).elim) events
  cases event with
  | engine event => exact ⟨fun _ => settled_engine numbered settled event, fun _ => trivial⟩
  | finishes i met =>
      unfold Calm
      cases running : rt.running i with
      | none =>
          rw [step_finishes_none running]
          refine ⟨fun _ => settled, fun _ execution here => ?_⟩
          rw [running] at here
          cases here
      | some execution =>
          rw [step_finishes running, settled_finish_iff settled met, executeRule_returns_iff]
          constructor
          · intro calm
            exact calm execution running
          · intro quiet other same
            rw [running] at same
            cases same
            exact quiet

/-! A rule for a lamp, fired by hand.  The action succeeds, but the disk is full. -/

def lampRule : Rule where
  topic := ""
  name := "Lamp"
  condition := none
  action := .form "device_action" "lamp" (.obj [])
  triggerType := "none"
  cronExpression := none

def lampConfig : FireConfig where
  engine :=
    { gate := {}
      isValidCron := fun _ => false
      coercion := { text := fun _ => "", number := fun _ => none } }

/-- The rule is registered, and the history has its table. -/
def lampRuntime : FireRuntime where
  engine := { registry := { rules := OrderedMap.empty.set "r" lampRule } }
  recorder := { executionLog := { rows := some .empty } }

def lampFire : FireEvent :=
  .engine (.fire "r" { topic := "manual/r", deviceId := "r", state := .empty, timestamp := 0 }
    { now := fun _ => 0 })

/-- The action succeeds; the insert runs as given. -/
def lampDone (insert : Except Thrown PUnit) : FireEvent :=
  .finishes 0
    { executionId := "e", start := 0, finish := 1
      action := .ok (some { success := true })
      recording := { entryId := "h", now := 1, insert } }

example : ((run (step lampConfig) lampRuntime [lampFire, lampDone (.ok ⟨⟩)]).resolved.get 0).map
    AutomationExecutionResult.success = some true := by rfl

/-- The execution has ended, and the promise never settles. -/
theorem fire_hangs :
    let rt := run (step lampConfig) lampRuntime
      [lampFire, lampDone (.error (.error "database or disk is full"))]
    0 ∈ rt.promises ∧ rt.outcomes.get 0 = some (.error (.error "database or disk is full")) ∧
      rt.resolved.get 0 = none ∧ ¬rt.Settled := by
  have ended : (run (step lampConfig) lampRuntime
      [lampFire, lampDone (.error (.error "database or disk is full"))]).outcomes.get 0 =
        some (.error (.error "database or disk is full")) := rfl
  refine ⟨by decide, ended, rfl, fun settled => ?_⟩
  obtain ⟨result, ok, -⟩ := settled 0 _ ended
  cases ok

end FireRuntime

end Aeolus.Automations
