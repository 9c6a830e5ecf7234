/-
# Aeolus.Automations.ExecutionRecorder — one execution, recorded four times

`src/automations/execution-recorder.ts` and the `push` of `src/automations/execution-log.ts`.
From one `AutomationExecutionResult` the recorder writes a history entry, emits a metrics
event, writes an audit line and emits the completion event, in this order.

Three of the four can throw: the insert into SQLite, and any listener of the two events.
A throw ends the recording where it is.  `record_returns_iff` says when there is none, and
`record_writes` what has been written then.
-/
import Aeolus.Theory.Transaction
import Aeolus.Automations.ExecutionResult

namespace Aeolus.Automations

open Aeolus.Core Aeolus.Theory
open Handler

/-! ## History -/

inductive ExecutionRuleType where
  | form
  | script
deriving DecidableEq

structure LoggedAction where
  type : String
  target : String
  success : Bool
  error : Option String := none
  lifecycleState : Option CommandLifecycleState := none

structure ExecutionLogEntry where
  id : String
  ruleId : String
  ruleName : String
  ruleType : ExecutionRuleType
  triggerTopic : String
  actions : List LoggedAction
  duration : Nat
  timestamp : Nat
  success : Option Bool := none
  failureReason : Option String := none

/-- A row of `execution_history`; the text of its actions is the JSON of this list. -/
structure ExecutionHistoryRow where
  ruleId : String
  ruleName : String
  ruleType : ExecutionRuleType
  triggerTopic : String
  success : Bool
  failureReason : Option String
  durationMs : Nat
  actions : List LoggedAction
  timestamp : Nat

/-- The rows by id, when there is a database. -/
structure ExecutionLog where
  entries : List ExecutionLogEntry := []
  maxEntries : Nat := 200
  rows : Option (OrderedMap String ExecutionHistoryRow) := none

namespace ExecutionLog

/-- An entry that does not say counts as a success. -/
def rowOf (entry : ExecutionLogEntry) : ExecutionHistoryRow where
  ruleId := entry.ruleId
  ruleName := entry.ruleName
  ruleType := entry.ruleType
  triggerTopic := entry.triggerTopic
  success := entry.success.getD true
  failureReason := entry.failureReason
  durationMs := entry.duration
  actions := entry.actions
  timestamp := entry.timestamp

/-- The oldest entry goes when the buffer is full. -/
def remember (log : ExecutionLog) (entry : ExecutionLogEntry) : ExecutionLog :=
  { log with
    entries :=
      (if log.maxEntries ≤ log.entries.length then log.entries.tail else log.entries) ++ [entry] }

/-- `INSERT OR REPLACE`: a row that is replaced goes to the end. -/
def insertRow (log : ExecutionLog) (entry : ExecutionLogEntry) : ExecutionLog :=
  { log with rows := log.rows.map fun rows => (rows.delete entry.id).set entry.id (rowOf entry) }

/-- `insert` is how the statement runs. -/
def push (insert : Except Thrown PUnit) (entry : ExecutionLogEntry) :
    Handler Thrown ExecutionLog PUnit := do
  modify fun log => log.remember entry
  if ← asks fun log => log.rows.isSome then
    check insert
    modify fun log => log.insertRow entry

/-- The insert matters only with a database. -/
theorem push_returns_iff {insert : Except Thrown PUnit} {entry : ExecutionLogEntry}
    {log : ExecutionLog} :
    (push insert entry log).1 = .ok ⟨⟩ ↔ (log.rows.isSome = true → insert = .ok ⟨⟩) := by
  unfold push
  simp only [bind_apply, modify_apply, asks_apply]
  by_cases database : log.rows.isSome = true
  · have kept : (log.remember entry).rows.isSome = true := database
    rw [if_pos kept]
    cases insert with
    | error thrown => exact ⟨nofun, fun inserts => nomatch inserts database⟩
    | ok => exact ⟨fun _ _ => rfl, fun _ => rfl⟩
  · have kept : ¬(log.remember entry).rows.isSome = true := database
    rw [if_neg kept]
    exact ⟨fun _ there => absurd there database, fun _ => rfl⟩

theorem push_of_ok {insert : Except Thrown PUnit} (entry : ExecutionLogEntry) {log : ExecutionLog}
    (inserts : log.rows.isSome = true → insert = .ok ⟨⟩) :
    push insert entry log = (.ok ⟨⟩, (log.remember entry).insertRow entry) := by
  refine Prod.ext (push_returns_iff.mpr inserts) ?_
  unfold push
  simp only [bind_apply, modify_apply, asks_apply]
  by_cases database : log.rows.isSome = true
  · have kept : (log.remember entry).rows.isSome = true := database
    rw [if_pos kept, inserts database]
    rfl
  · have kept : ¬(log.remember entry).rows.isSome = true := database
    have absent : (log.remember entry).rows = none := by simpa using kept
    rw [if_neg kept]
    unfold insertRow
    rw [absent]
    show log.remember entry = { log.remember entry with rows := none }
    rw [← absent]

end ExecutionLog

/-! ## The recorder -/

inductive EngineSignal where
  | fired (executionId ruleId ruleName topic deviceId : String) (timestamp : Nat)
  | executionComplete (ruleId ruleName : String) (succeeded : Bool) (durationMs : Nat)
  | completed (result : AutomationExecutionResult) (ruleId ruleName : String) (timestamp : Nat)

/-- A line at level `info` for a success, else at level `error`. -/
structure AuditLine where
  succeeded : Bool
  executionId : String
  ruleId : String
  ruleName : String
  durationMs : Nat
  failureReason : Option String

/-- What the engine and its recorder leave behind. -/
structure Recorder where
  executionLog : ExecutionLog := {}
  emitted : List EngineSignal := []
  audit : List AuditLine := []

structure ExecutionRecordRule where
  id : String
  name : Option String
  ruleType : ExecutionRuleType
  triggerTopic : String

/-- What a recording meets: how the insert runs, and how the listeners of the two events
answer. -/
structure Recording where
  entryId : String
  now : Nat
  insert : Except Thrown PUnit := .ok ⟨⟩
  metricsListeners : List (Except Thrown PUnit) := []
  completedListeners : List (Except Thrown PUnit) := []

namespace Recorder

/-- `eventBus.emit`: the listeners are called in order, up to one that throws. -/
def emit (listeners : List (Except Thrown PUnit)) (signal : EngineSignal) :
    Handler Thrown Recorder PUnit := do
  modify fun recorder => { recorder with emitted := recorder.emitted ++ [signal] }
  listeners.forM fun listener => check listener

/-- `toNonNegativeIntMs` -/
def toNonNegativeIntMs (durationMs : Int) : Nat := durationMs.toNat

def actionOf (triggerTopic : String) (result : CommandResult) : LoggedAction where
  type := "command"
  target := triggerTopic
  success := result.success
  error := truthy result.error
  lifecycleState := result.lifecycleState

/-- A result that is missing has no fields to read. -/
def actionsOf (triggerTopic : String) (results : List (Option CommandResult)) :
    Except Thrown (List LoggedAction) :=
  if results.all Option.isSome then .ok (results.reduceOption.map (actionOf triggerTopic))
  else .error (.error "Cannot read properties of null (reading 'success')")

def ruleName (rule : ExecutionRecordRule) : String := (truthy rule.name).getD "Unnamed Rule"

def entryOf (recording : Recording) (rule : ExecutionRecordRule)
    (result : AutomationExecutionResult) (actions : List LoggedAction) (duration : Nat) :
    ExecutionLogEntry :=
  { id := recording.entryId
    ruleId := rule.id
    ruleName := ruleName rule
    ruleType := rule.ruleType
    triggerTopic := rule.triggerTopic
    actions
    duration
    timestamp := recording.now
    success := some result.success
    failureReason := if result.success then none else result.failureReason }

def auditOf (rule : ExecutionRecordRule) (result : AutomationExecutionResult) (duration : Nat) :
    AuditLine :=
  { succeeded := result.success
    executionId := result.executionId
    ruleId := rule.id
    ruleName := ruleName rule
    durationMs := duration
    failureReason := if result.success then none else result.failureReason }

def pushEntry (insert : Except Thrown PUnit) (entry : ExecutionLogEntry) :
    Handler Thrown Recorder PUnit :=
  zoom Recorder.executionLog (fun recorder executionLog => { recorder with executionLog })
    (ExecutionLog.push insert entry)

def writeAudit (line : AuditLine) : Handler Thrown Recorder PUnit :=
  modify fun recorder => { recorder with audit := recorder.audit ++ [line] }

def record (recording : Recording) (rule : ExecutionRecordRule)
    (result : AutomationExecutionResult) (durationMs : Int) : Handler Thrown Recorder PUnit := do
  let duration := toNonNegativeIntMs durationMs
  let actions ← check (actionsOf rule.triggerTopic result.commandResults)
  pushEntry recording.insert (entryOf recording rule result actions duration)
  emit recording.metricsListeners
    (.executionComplete rule.id (ruleName rule) result.success duration)
  writeAudit (auditOf rule result duration)
  emit recording.completedListeners (.completed result rule.id (ruleName rule) recording.now)

/-! ## When nothing throws -/

section Returns

variable {recorder : Recorder} {recording : Recording} {rule : ExecutionRecordRule}
  {result : AutomationExecutionResult} {durationMs : Int}

/-- Nobody throws. -/
def Silent (listeners : List (Except Thrown PUnit)) : Prop :=
  ∀ listener ∈ listeners, listener = .ok ⟨⟩

theorem forM_check {listeners : List (Except Thrown PUnit)} (recorder : Recorder) :
    ((listeners.forM fun listener => check listener :
        Handler Thrown Recorder PUnit) recorder).2 = recorder ∧
      (((listeners.forM fun listener => check listener :
        Handler Thrown Recorder PUnit) recorder).1 = .ok ⟨⟩ ↔ Silent listeners) := by
  induction listeners with
  | nil => exact ⟨rfl, fun _ => nofun, fun _ => rfl⟩
  | cons first rest ih =>
      rw [forM_cons]
      cases first with
      | error thrown =>
          refine ⟨rfl, nofun, fun silent => ?_⟩
          exact nomatch silent (.error thrown) List.mem_cons_self
      | ok =>
          refine ⟨ih.1, ih.2.trans ?_⟩
          constructor
          · intro silent listener member
            rcases List.mem_cons.mp member with rfl | later
            · rfl
            · exact silent listener later
          · intro silent listener later
            exact silent listener (List.mem_cons_of_mem _ later)

/-- The event has been emitted, whoever throws. -/
theorem emit_recorder (listeners : List (Except Thrown PUnit)) (signal : EngineSignal)
    (recorder : Recorder) :
    (emit listeners signal recorder).2 =
      { recorder with emitted := recorder.emitted ++ [signal] } := (forM_check _).1

theorem emit_returns_iff {listeners : List (Except Thrown PUnit)} {signal : EngineSignal}
    {recorder : Recorder} :
    (emit listeners signal recorder).1 = .ok ⟨⟩ ↔ Silent listeners := (forM_check _).2

theorem emit_of_silent {listeners : List (Except Thrown PUnit)} (silent : Silent listeners)
    (signal : EngineSignal) (recorder : Recorder) :
    emit listeners signal recorder =
      (.ok ⟨⟩, { recorder with emitted := recorder.emitted ++ [signal] }) :=
  Prod.ext (emit_returns_iff.mpr silent) (emit_recorder listeners signal recorder)

/-- The recording goes through. -/
structure Untroubled (recorder : Recorder) (recording : Recording) : Prop where
  insert : recorder.executionLog.rows.isSome = true → recording.insert = .ok ⟨⟩
  metrics : Silent recording.metricsListeners
  completed : Silent recording.completedListeners

theorem actionsOf_some (triggerTopic : String) (results : List CommandResult) :
    actionsOf triggerTopic (results.map some) = .ok (results.map (actionOf triggerTopic)) := by
  unfold actionsOf
  have present : (results.map some).all Option.isSome = true := by simp
  have values : (results.map some).reduceOption = results := by
    unfold List.reduceOption
    rw [List.filterMap_map]
    exact List.filterMap_some
  rw [if_pos present, values]

theorem pushEntry_returns_iff {insert : Except Thrown PUnit} {entry : ExecutionLogEntry} :
    (pushEntry insert entry recorder).1 = .ok ⟨⟩ ↔
      (recorder.executionLog.rows.isSome = true → insert = .ok ⟨⟩) :=
  ExecutionLog.push_returns_iff

/-- What an untroubled recording leaves: one entry, one line and one event of each kind, all
with the success of the result. -/
def recorded (recorder : Recorder) (recording : Recording) (rule : ExecutionRecordRule)
    (result : AutomationExecutionResult) (actions : List LoggedAction) (duration : Nat) :
    Recorder where
  executionLog :=
    (recorder.executionLog.remember (entryOf recording rule result actions duration)).insertRow
      (entryOf recording rule result actions duration)
  emitted := recorder.emitted ++
    [.executionComplete rule.id (ruleName rule) result.success duration,
      .completed result rule.id (ruleName rule) recording.now]
  audit := recorder.audit ++ [auditOf rule result duration]

theorem record_writes (untroubled : Untroubled recorder recording) {results : List CommandResult}
    (present : result.commandResults = results.map some) :
    record recording rule result durationMs recorder =
      (.ok ⟨⟩, recorded recorder recording rule result
        (results.map (actionOf rule.triggerTopic)) (toNonNegativeIntMs durationMs)) := by
  have pushed (entry : ExecutionLogEntry) : pushEntry recording.insert entry recorder =
      (.ok ⟨⟩, { recorder with
        executionLog := (recorder.executionLog.remember entry).insertRow entry }) := by
    unfold pushEntry zoom
    rw [ExecutionLog.push_of_ok entry untroubled.insert]
  unfold record
  rw [present]
  rw [bind_of_ok (check_of_ok (actionsOf_some rule.triggerTopic results)), bind_of_ok (pushed _),
    bind_of_ok (emit_of_silent untroubled.metrics _ _)]
  unfold writeAudit
  rw [bind_of_ok (modify_apply _ _), emit_of_silent untroubled.completed]
  unfold recorded
  rw [List.append_assoc]
  rfl

/-- Without missing results, a recording throws exactly when its insert or a listener does. -/
theorem record_returns_iff {results : List CommandResult}
    (present : result.commandResults = results.map some) :
    (record recording rule result durationMs recorder).1 = .ok ⟨⟩ ↔
      Untroubled recorder recording := by
  constructor
  · intro returned
    obtain ⟨final, ran⟩ : ∃ final,
      record recording rule result durationMs recorder = (.ok ⟨⟩, final) :=
        ⟨_, Prod.ext returned rfl⟩
    unfold record at ran
    rw [present, bind_of_ok (check_of_ok (actionsOf_some rule.triggerTopic results))] at ran
    obtain ⟨_, s₂, pushed, ran⟩ := bind_ok ran
    obtain ⟨_, s₃, counted, ran⟩ := bind_ok ran
    obtain ⟨_, s₄, audited, completed⟩ := bind_ok ran
    refine ⟨?_, ?_, ?_⟩
    · exact pushEntry_returns_iff.mp (congrArg Prod.fst pushed)
    · exact emit_returns_iff.mp (congrArg Prod.fst counted)
    · exact emit_returns_iff.mp (congrArg Prod.fst completed)
  · intro untroubled
    rw [record_writes untroubled present]

end Returns

end Recorder

end Aeolus.Automations
