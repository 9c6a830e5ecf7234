/-
# Aeolus.Simulator.CommandRouter — commands for simulated devices

`src/simulator/command-router.ts`.  A delivery becomes a task behind the last task of its
device, and each task is a promise: it runs up to an `await` and goes on when what it waits for
is settled, with other tasks, deliveries and faults in between.  A task is therefore kept with
the stage it has reached (`Stage`), and the run says which task goes on when.
-/
import Aeolus.Simulator.SimulatedDevices

namespace Aeolus.Simulator

open Aeolus.Core Aeolus.Theory

/-! ## Commands -/

structure SimulatedInboundCommand where
  topic : String
  action : Option String := none
  params : JsonObject := .empty
  rawPayload : Json := .null
  correlationId : Option String := none
  responseTopic : Option String := none
  receivedAt : ℤ := 0

/-- The properties of a packet that the router reads; the bytes as UTF-8. -/
structure PublishPacket where
  correlationData : Option String := none
  responseTopic : Option String := none

structure ResultingState where
  patch : Option JsonObject := none
  delayMs : Option JsNumber := none
  publish : Option Bool := none

/-- What the model makes of a command, or the message of what it throws. -/
inductive ModelResult where
  | accepted (state : Option ResultingState) (delayMs : Option JsNumber)
  | rejected (error : Option String) (delayMs : Option JsNumber)
  | threw (message : String)

/-- The `success` and `error` of an acknowledgement. -/
structure AckOutcome where
  success : Bool
  error : Option String := none

structure Acknowledgement where
  topic : String
  payload : String
  correlationData : String
  retain : Bool := false

structure DedupeEntry where
  deviceKey : String
  completedAt : ℤ
  ack : Option Acknowledgement

/-- A command accepted into the queue of its device, by its number in the order of arrival. -/
structure Delivery where
  number : Nat
  deviceKey : String
  command : SimulatedInboundCommand

/-- What `process` does behind `maybePublishAck`. -/
inductive AfterAck where
  | record
  | applyState (state : Option ResultingState) (fault : ConsumedFault)

inductive Stage where
  | queued
  /-- the model runs -/
  | running (fault : ConsumedFault)
  | sleeping (ack : Acknowledgement) (next : AfterAck)
  | awake (ack : Acknowledgement) (next : AfterAck)
  /-- `maybePublishAck` has returned -/
  | acknowledged (ack : Option Acknowledgement) (next : AfterAck)
  /-- `process` has returned -/
  | processed
  | finished

structure Task where
  delivery : Delivery
  /-- the task that it runs behind -/
  previous : Option Nat
  stage : Stage := .queued

/-- What is seen of the router. -/
inductive RouterFact where
  | invoked (delivery : Delivery)
  | returned (delivery : Delivery) (result : ModelResult)
  | rejected (delivery : Delivery) (reason : String)
  | published (delivery : Delivery) (ack : Acknowledgement)
  | updated (delivery : Delivery) (patch : JsonObject) (options : StateUpdateOptions)
  | recorded (delivery : Delivery) (correlationId : String) (entry : DedupeEntry)

structure SimulatorCommandRouterDeps where
  registry : SimulatorDeviceRegistry
  maxDelayMs : ℚ
  dedupeTtlMs : Option ℤ := none
  dedupeMaxEntries : Option ℤ := none
  faults : Option FaultController := none
  timerBudget : Option TimerBudget := none
  maxQueueDepth : Option ℤ := none

structure SimulatorCommandRouter where
  registry : SimulatorDeviceRegistry
  maxDelayMs : ℚ
  dedupeTtlMs : ℤ
  dedupeMaxEntries : ℤ
  maxQueueDepth : ℤ
  faults : Option FaultController
  timerBudget : Option TimerBudget
  completed : OrderedMap String DedupeEntry := .empty
  /-- the last task of each device -/
  queues : OrderedMap String Nat := .empty
  queueDepth : OrderedMap String Nat := .empty
  tasks : List Task := []
  log : List RouterFact := []

inductive RouterEvent where
  | deliver (topic payload : String) (packet : PublishPacket) (now : ℤ)
  /-- a task starts -/
  | begin (number : Nat) (now : ℤ)
  | modelReturns (number : Nat) (result : ModelResult)
  /-- the timer of an acknowledgement runs out -/
  | wake (number : Nat)
  /-- a task goes on behind an `await` -/
  | resume (number : Nat) (now : ℤ)
  | arm (deviceKey : String) (fault : SimulatedFaultState)
  | clear (deviceKey : String)
  | clearAll
  /-- a slot of the shared budget is taken, or given back, by another -/
  | acquire
  | release

def RegisteredDevice.key (device : RegisteredDevice) : String := device.definition.key

namespace Stage

def isQueued : Stage → Bool
  | .queued => true
  | _ => false

def isFinished : Stage → Bool
  | .finished => true
  | _ => false

end Stage

namespace ModelResult

/-- What is thrown counts as a rejection. -/
def ackOutcome : ModelResult → AckOutcome
  | .accepted _ _ => ⟨true, none⟩
  | .rejected error _ => ⟨false, error⟩
  | .threw message => ⟨false, some message⟩

def ackDelayMs : ModelResult → Option JsNumber
  | .accepted _ delayMs | .rejected _ delayMs => delayMs
  | .threw _ => none

def afterAck (fault : ConsumedFault) : ModelResult → AfterAck
  | .accepted state _ => .applyState state fault
  | _ => .record

end ModelResult

/-! ## Reading a command -/

-- `parse` is `JSON.parse`, and `stringify` is `JSON.stringify` of an object
variable (parse : String → Option Json) (stringify : JsonObject → String)

def parseCommand (topic payload : String) (packet : PublishPacket) (now : ℤ) :
    SimulatedInboundCommand :=
  let parsed := (parse payload).getD (.str payload)
  let payloadObject : JsonObject :=
    match parsed with
    | .obj fields => .ofFields fields
    | _ => .empty
  let text (name : String) := (payloadObject.get name).bind Json.asString
  let params := (payloadObject.delete "correlationId").delete "responseTopic"
  { topic
    action := (params.get "action").bind Json.asString
    params
    rawPayload := parsed
    -- what MQTT 5 says comes first
    correlationId := (truthy packet.correlationData).or (text "correlationId")
    responseTopic := packet.responseTopic.or (text "responseTopic")
    receivedAt := now }

/-- The acknowledgement of a command that can be acknowledged. -/
def SimulatedInboundCommand.acknowledgement (command : SimulatedInboundCommand)
    (outcome : AckOutcome) : Option Acknowledgement :=
  match command.correlationId, command.responseTopic with
  | some correlationId, some responseTopic =>
      let payloadObject : JsonObject :=
        .ofFields ([("correlationId", .str correlationId), ("success", .bool outcome.success)] ++
          (if outcome.success then none else outcome.error).toList.map fun error =>
            ("error", .str error))
      some
        { topic := responseTopic
          payload := stringify payloadObject
          correlationData := correlationId }
  | _, _ => none

namespace SimulatorCommandRouter

/-- The constructor. -/
def ofDeps (deps : SimulatorCommandRouterDeps) : SimulatorCommandRouter where
  registry := deps.registry
  maxDelayMs := deps.maxDelayMs
  dedupeTtlMs := deps.dedupeTtlMs.getD (5 * 60000)
  dedupeMaxEntries := deps.dedupeMaxEntries.getD 1000
  maxQueueDepth := deps.maxQueueDepth.getD 100
  faults := deps.faults
  timerBudget := deps.timerBudget

def observed (s : SimulatorCommandRouter) (facts : List RouterFact) : SimulatorCommandRouter :=
  { s with log := s.log ++ facts }

def setStage (s : SimulatorCommandRouter) (task : Task) (stage : Stage) : SimulatorCommandRouter :=
  { s with tasks := s.tasks.set task.delivery.number { task with stage } }

/-! ## The queue -/

/-- `enqueue` -/
def enqueue (s : SimulatorCommandRouter) (deviceKey : String) (command : SimulatedInboundCommand) :
    SimulatorCommandRouter :=
  let number := s.tasks.length
  { s with
    tasks := s.tasks ++ [{ delivery := ⟨number, deviceKey, command⟩,
                           previous := s.queues.get deviceKey }]
    queues := s.queues.set deviceKey number }

def handleCommand (s : SimulatorCommandRouter) (topic payload : String) (packet : PublishPacket)
    (now : ℤ) : SimulatorCommandRouter :=
  match s.registry.getByCommandTopic topic with
  | none => s
  | some device =>
      let depth := (s.queueDepth.get device.key).getD 0
      if s.maxQueueDepth ≤ depth then s
      else
        { s with queueDepth := s.queueDepth.set device.key (depth + 1) }.enqueue device.key
          (parseCommand parse topic payload packet now)

/-- The `finally` of a task. -/
def finish (s : SimulatorCommandRouter) (task : Task) : SimulatorCommandRouter :=
  let key := task.delivery.deviceKey
  let current := (s.queueDepth.get key).getD 1
  let queueDepth :=
    if current ≤ 1 then s.queueDepth.delete key else s.queueDepth.set key (current - 1)
  { s with queueDepth }.setStage task .finished

/-! ## Remembered commands -/

def lookupDedupe (s : SimulatorCommandRouter) (now : ℤ) (correlationId : String) :
    SimulatorCommandRouter × Option DedupeEntry :=
  match s.completed.get correlationId with
  | none => (s, none)
  | some entry =>
      if s.dedupeTtlMs < now - entry.completedAt then
        ({ s with completed := s.completed.delete correlationId }, none)
      else (s, some entry)

/-- The loop of `recordDedupe`, over the keys from the oldest on. -/
def evictOldest (dedupeMaxEntries : ℤ) :
    List String → OrderedMap String DedupeEntry → OrderedMap String DedupeEntry
  | [], completed => completed
  | oldest :: rest, completed =>
      if dedupeMaxEntries < completed.size then
        evictOldest dedupeMaxEntries rest (completed.delete oldest)
      else completed

def recordDedupe (s : SimulatorCommandRouter) (delivery : Delivery) (correlationId : String)
    (now : ℤ) (ack : Option Acknowledgement) : SimulatorCommandRouter :=
  let entry : DedupeEntry := { deviceKey := delivery.deviceKey, completedAt := now, ack }
  let completed := s.completed.set correlationId entry
  { s with completed := evictOldest s.dedupeMaxEntries completed.keys completed }.observed
    [.recorded delivery correlationId entry]

def dedupeSize (s : SimulatorCommandRouter) : Nat := s.completed.size

/-! ## Acknowledgements and states -/

def publishAck (s : SimulatorCommandRouter) (delivery : Delivery) (ack : Acknowledgement) :
    SimulatorCommandRouter :=
  s.observed [.published delivery ack]

/-- `sleep`, for a positive time, without its timer when the budget is exhausted -/
def sleep (s : SimulatorCommandRouter) (task : Task) (ack : Acknowledgement) (next : AfterAck) :
    SimulatorCommandRouter :=
  match s.timerBudget with
  | none => s.setStage task (.sleeping ack next)
  | some budget =>
      match budget.tryAcquire with
      | none => s.setStage task (.awake ack next)
      | some budget =>
          { s with timerBudget := some budget }.setStage task (.sleeping ack next)

def maybePublishAck (s : SimulatorCommandRouter) (task : Task) (outcome : AckOutcome)
    (ackDelayMs : Option JsNumber) (dropAck : Bool) (next : AfterAck) : SimulatorCommandRouter :=
  match task.delivery.command.acknowledgement stringify outcome with
  | none => s.setStage task (.acknowledged none next)
  | some ack =>
      if dropAck then s.setStage task (.acknowledged none next)
      else if 0 < clampDelay s.maxDelayMs ackDelayMs then s.sleep task ack next
      else (s.publishAck task.delivery ack).setStage task (.acknowledged (some ack) next)

/-- The call of `controller.update` that `applyResultingState` makes. -/
def resultingUpdate (state : Option ResultingState) (fault : ConsumedFault) :
    Option (JsonObject × StateUpdateOptions) :=
  if fault.suppressNextState then none
  else
    match fault.mismatchNextState with
    | some patch => some (patch, { delayMs := fault.stateDelayMs })
    | none =>
        state.bind fun state => state.patch.map fun patch =>
          if state.publish = some false then (patch, { publish := some false })
          else (patch, { delayMs := fault.stateDelayMs.or state.delayMs })

def applyResultingState (s : SimulatorCommandRouter) (delivery : Delivery)
    (state : Option ResultingState) (fault : ConsumedFault) : SimulatorCommandRouter :=
  s.observed ((resultingUpdate state fault).toList.map fun update =>
    .updated delivery update.1 update.2)

/-! ## Processing -/

def consume (s : SimulatorCommandRouter) (deviceKey : String) :
    SimulatorCommandRouter × ConsumedFault :=
  match s.faults with
  | none => (s, {})
  | some controller =>
      let consumed := controller.consume deviceKey
      ({ s with faults := some consumed.1 }, consumed.2)

/-- `process`, for a command that is not remembered. -/
def processNew (s : SimulatorCommandRouter) (task : Task) (device : RegisteredDevice) :
    SimulatorCommandRouter :=
  let (s, fault) := s.consume task.delivery.deviceKey
  match fault.rejectNext with
  | some reason =>
      (s.observed [.rejected task.delivery reason]).maybePublishAck stringify task
        ⟨false, some reason⟩ fault.ackDelayMs fault.dropNextAck .record
  | none =>
      if device.model.onCommand then
        (s.observed [.invoked task.delivery]).setStage task (.running fault)
      else s.setStage task .processed

/-- `process` for a command that is remembered. -/
def resend (s : SimulatorCommandRouter) (task : Task) (existing : DedupeEntry) :
    SimulatorCommandRouter :=
  (s.observed (existing.ack.toList.map (.published task.delivery))).setStage task .processed

def process (s : SimulatorCommandRouter) (task : Task) (now : ℤ) : SimulatorCommandRouter :=
  match s.registry.get task.delivery.deviceKey with
  | none => s.setStage task .processed
  | some device =>
      match task.delivery.command.correlationId with
      | none => s.processNew stringify task device
      | some correlationId =>
          match s.lookupDedupe now correlationId with
          | (s, some existing) => s.resend task existing
          | (s, none) => s.processNew stringify task device

/-- `process`, when the model has answered. -/
def modelReturns (s : SimulatorCommandRouter) (task : Task) (fault : ConsumedFault)
    (result : ModelResult) : SimulatorCommandRouter :=
  (s.observed [.returned task.delivery result]).maybePublishAck stringify task result.ackOutcome
    (fault.ackDelayMs.or result.ackDelayMs) fault.dropNextAck (result.afterAck fault)

/-- `process`, behind `maybePublishAck`. -/
def conclude (s : SimulatorCommandRouter) (task : Task) (now : ℤ) (ack : Option Acknowledgement)
    (next : AfterAck) : SimulatorCommandRouter :=
  let applied :=
    match next with
    | .record => s
    | .applyState state fault => s.applyResultingState task.delivery state fault
  let recorded :=
    match task.delivery.command.correlationId with
    | none => applied
    | some correlationId => applied.recordDedupe task.delivery correlationId now ack
  recorded.setStage task .processed

/-! ## The machine -/

def isFinished (s : SimulatorCommandRouter) (number : Nat) : Bool :=
  (s.tasks[number]?).any fun task => task.stage.isFinished

def withTask (s : SimulatorCommandRouter) (number : Nat) (f : Task → SimulatorCommandRouter) :
    SimulatorCommandRouter :=
  (s.tasks[number]?).elim s f

/-- A task starts when the one it runs behind is settled. -/
def begin' (s : SimulatorCommandRouter) (task : Task) (now : ℤ) : SimulatorCommandRouter :=
  if task.stage.isQueued ∧ task.previous.all s.isFinished then s.process stringify task now else s

def resume (s : SimulatorCommandRouter) (task : Task) (now : ℤ) : SimulatorCommandRouter :=
  match task.stage with
  | .awake ack next =>
      (s.publishAck task.delivery ack).setStage task (.acknowledged (some ack) next)
  | .acknowledged ack next => s.conclude task now ack next
  | .processed => s.finish task
  | _ => s

def step (s : SimulatorCommandRouter) : RouterEvent → SimulatorCommandRouter
  | .deliver topic payload packet now => s.handleCommand parse topic payload packet now
  | .begin number now => s.withTask number fun task => s.begin' stringify task now
  | .modelReturns number result =>
      s.withTask number fun task =>
        match task.stage with
        | .running fault => s.modelReturns stringify task fault result
        | _ => s
  | .wake number =>
      s.withTask number fun task =>
        match task.stage with
        | .sleeping ack next =>
            { s with timerBudget := s.timerBudget.map TimerBudget.release }.setStage task
              (.awake ack next)
        | _ => s
  | .resume number now => s.withTask number fun task => s.resume task now
  | .arm deviceKey fault => { s with faults := s.faults.map (·.arm deviceKey fault) }
  | .clear deviceKey => { s with faults := s.faults.map (·.clear deviceKey) }
  | .clearAll => { s with faults := s.faults.map (·.clearAll) }
  | .acquire =>
      { s with timerBudget := s.timerBudget.map fun budget => budget.tryAcquire.getD budget }
  | .release => { s with timerBudget := s.timerBudget.map TimerBudget.release }

end SimulatorCommandRouter

end Aeolus.Simulator
