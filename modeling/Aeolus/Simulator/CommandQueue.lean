/-
# Aeolus.Simulator.CommandQueue — one command at a time for each device

Whatever order the tasks go on in, a task of a device starts when all before it are through,
and the depth recorded for the device is the number of its tasks that are not (`Queued`).
That is the chain of promises alone: it does not ask what the tasks do.
-/
import Aeolus.Simulator.CommandRouter
import Aeolus.Theory.History

namespace Aeolus.Simulator

open Aeolus.Core Aeolus.Theory

namespace SimulatorCommandRouter

variable {s s' : SimulatorCommandRouter} {task : Task} {number : Nat}

/-! ## What a step does to the tasks -/

/-- What `maybePublishAck` does, and the stage it leaves the task in. -/
inductive Acked (stringify : JsonObject → String) (task : Task) (outcome : AckOutcome)
    (next : AfterAck) : List RouterFact → Stage → Prop where
  | nothing : Acked stringify task outcome next [] (.acknowledged none next)
  | sleeping (ack : Acknowledgement)
      (made : task.delivery.command.acknowledgement stringify outcome = some ack) :
      Acked stringify task outcome next [] (.sleeping ack next)
  | awake (ack : Acknowledgement)
      (made : task.delivery.command.acknowledgement stringify outcome = some ack) :
      Acked stringify task outcome next [] (.awake ack next)
  | published (ack : Acknowledgement)
      (made : task.delivery.command.acknowledgement stringify outcome = some ack) :
      Acked stringify task outcome next [.published task.delivery ack]
        (.acknowledged (some ack) next)

/-- What is known of the command of a task when it starts. -/
def remembered (s : SimulatorCommandRouter) (task : Task) (now : ℤ) :
    SimulatorCommandRouter × Option DedupeEntry :=
  match task.delivery.command.correlationId with
  | none => (s, none)
  | some correlationId => s.lookupDedupe now correlationId

/-- A task may start. -/
def Ready (s : SimulatorCommandRouter) (task : Task) : Prop :=
  task.stage.isQueued ∧ task.previous.all s.isFinished

/-- The updates of `conclude`. -/
def updates (delivery : Delivery) : AfterAck → List RouterFact
  | .record => []
  | .applyState state fault =>
      (resultingUpdate state fault).toList.map fun update => .updated delivery update.1 update.2

/-- The facts of `conclude`. -/
def concluded (task : Task) (now : ℤ) (ack : Option Acknowledgement) (next : AfterAck) :
    List RouterFact :=
  updates task.delivery next ++
    task.delivery.command.correlationId.toList.map fun correlationId =>
      .recorded task.delivery correlationId ⟨task.delivery.deviceKey, now, ack⟩

/-- The command, if it has an id, is remembered as of `now`. -/
def remember (s : SimulatorCommandRouter) (task : Task) (now : ℤ) (ack : Option Acknowledgement) :
    OrderedMap String DedupeEntry :=
  match task.delivery.command.correlationId with
  | none => s.completed
  | some correlationId => (s.recordDedupe task.delivery correlationId now ack).completed

/-- The moves of a task: what is told, the stage it reaches, and what is remembered then. -/
inductive Move (stringify : JsonObject → String) (s : SimulatorCommandRouter) (task : Task) :
    RouterEvent → List RouterFact → Stage → OrderedMap String DedupeEntry → Prop where
  /-- the device is not there -/
  | absent (now : ℤ) (ready : s.Ready task) :
      Move stringify s task (.begin task.delivery.number now) [] .processed s.completed
  | resent (now : ℤ) (ready : s.Ready task) (entry : DedupeEntry)
      (found : (s.remembered task now).2 = some entry) :
      Move stringify s task (.begin task.delivery.number now)
        (entry.ack.toList.map (.published task.delivery)) .processed
        (s.remembered task now).1.completed
  /-- the model takes no commands -/
  | unhandled (now : ℤ) (ready : s.Ready task) (new : (s.remembered task now).2 = none) :
      Move stringify s task (.begin task.delivery.number now) [] .processed
        (s.remembered task now).1.completed
  | rejected (now : ℤ) (ready : s.Ready task) (new : (s.remembered task now).2 = none)
      (reason : String) {rest : List RouterFact} {stage : Stage}
      (acked : Acked stringify task ⟨false, some reason⟩ .record rest stage) :
      Move stringify s task (.begin task.delivery.number now)
        (.rejected task.delivery reason :: rest) stage (s.remembered task now).1.completed
  | invoked (now : ℤ) (ready : s.Ready task) (new : (s.remembered task now).2 = none)
      (fault : ConsumedFault) :
      Move stringify s task (.begin task.delivery.number now) [.invoked task.delivery]
        (.running fault) (s.remembered task now).1.completed
  | returned (fault : ConsumedFault) (running : task.stage = .running fault)
      (result : ModelResult) {rest : List RouterFact} {stage : Stage}
      (acked : Acked stringify task result.ackOutcome (result.afterAck fault) rest stage) :
      Move stringify s task (.modelReturns task.delivery.number result)
        (.returned task.delivery result :: rest) stage s.completed
  | woken {ack : Acknowledgement} {next : AfterAck} (sleeping : task.stage = .sleeping ack next) :
      Move stringify s task (.wake task.delivery.number) [] (.awake ack next) s.completed
  | published (now : ℤ) {ack : Acknowledgement} {next : AfterAck}
      (awake : task.stage = .awake ack next) :
      Move stringify s task (.resume task.delivery.number now) [.published task.delivery ack]
        (.acknowledged (some ack) next) s.completed
  | concluded (now : ℤ) {ack : Option Acknowledgement} {next : AfterAck}
      (acknowledged : task.stage = .acknowledged ack next) :
      Move stringify s task (.resume task.delivery.number now) (concluded task now ack next)
        .processed (s.remember task now ack)

/-- What a step does. -/
inductive Steps (parse : String → Option Json) (stringify : JsonObject → String)
    (s : SimulatorCommandRouter) (e : RouterEvent) (s' : SimulatorCommandRouter) : Prop where
  /-- nothing happens but around the tasks -/
  | aside (timerBudget : Option TimerBudget) (faults : Option FaultController)
      (same : s' = { s with timerBudget, faults })
  | enqueued (topic payload : String) (packet : PublishPacket) (now : ℤ)
      (delivers : e = .deliver topic payload packet now) (device : RegisteredDevice)
      (owner : s.registry.getByCommandTopic topic = some device)
      (room : (s.queueDepth.get device.key).getD 0 < s.maxQueueDepth)
      (same : s' = { s with
        queueDepth := s.queueDepth.set device.key ((s.queueDepth.get device.key).getD 0 + 1)
        }.enqueue device.key (parseCommand parse topic payload packet now))
  | moved (task : Task) (found : s.tasks[task.delivery.number]? = some task)
      (facts : List RouterFact) (stage : Stage) (completed : OrderedMap String DedupeEntry)
      (timerBudget : Option TimerBudget) (faults : Option FaultController)
      (move : Move stringify s task e facts stage completed)
      (same : s' = ({ s with completed, timerBudget, faults }.observed facts).setStage task stage)
  | finished (task : Task) (found : s.tasks[task.delivery.number]? = some task)
      (processed : task.stage = .processed) (same : s' = s.finish task)

section Inversion

variable (parse : String → Option Json) (stringify : JsonObject → String)

theorem observed_nil (s : SimulatorCommandRouter) : s.observed [] = s := by
  unfold observed
  rw [List.append_nil]

theorem maybePublishAck_cases (s : SimulatorCommandRouter) (task : Task) (outcome : AckOutcome)
    (ackDelayMs : Option JsNumber) (dropAck : Bool) (next : AfterAck) :
    ∃ facts stage timerBudget,
      s.maybePublishAck stringify task outcome ackDelayMs dropAck next =
        ({ s with timerBudget }.observed facts).setStage task stage ∧
      Acked stringify task outcome next facts stage := by
  unfold maybePublishAck
  split
  · exact ⟨[], _, s.timerBudget, by rw [observed_nil], .nothing⟩
  next ack made =>
  split
  · exact ⟨[], _, s.timerBudget, by rw [observed_nil], .nothing⟩
  split
  · unfold sleep
    split
    · exact ⟨[], _, s.timerBudget, by rw [observed_nil], .sleeping ack made⟩
    split
    · exact ⟨[], _, s.timerBudget, by rw [observed_nil], .awake ack made⟩
    · next budget _ => exact ⟨[], _, some budget, by rw [observed_nil], .sleeping ack made⟩
  · exact ⟨_, _, s.timerBudget, rfl, .published ack made⟩

/-- A command that is not remembered is rejected, handed to the model, or ignored. -/
theorem processNew_cases (s : SimulatorCommandRouter) (task : Task) (device : RegisteredDevice) :
    ∃ facts stage timerBudget faults,
      s.processNew stringify task device =
        ({ s with timerBudget, faults }.observed facts).setStage task stage ∧
      (facts = [] ∧ stage = .processed ∨
        (∃ reason rest, facts = .rejected task.delivery reason :: rest ∧
          Acked stringify task ⟨false, some reason⟩ .record rest stage) ∨
        ∃ fault, facts = [.invoked task.delivery] ∧ stage = .running fault) := by
  have consumed : ∃ faults, (s.consume task.delivery.deviceKey).1 = { s with faults } := by
    unfold consume
    split
    · exact ⟨s.faults, rfl⟩
    · exact ⟨_, rfl⟩
  obtain ⟨faults, consumed⟩ := consumed
  unfold processNew
  dsimp only
  rw [consumed]
  split
  · next reason _ =>
      obtain ⟨rest, stage, timerBudget, same, acked⟩ := maybePublishAck_cases stringify
        ({ s with faults }.observed [.rejected task.delivery reason]) task ⟨false, some reason⟩
        (s.consume task.delivery.deviceKey).2.ackDelayMs
        (s.consume task.delivery.deviceKey).2.dropNextAck .record
      refine ⟨_, stage, timerBudget, faults, ?_, .inr (.inl ⟨reason, rest, rfl, acked⟩)⟩
      rw [same]
      simp only [observed, List.append_assoc, List.singleton_append]
  split
  · exact ⟨_, _, s.timerBudget, faults, rfl, .inr (.inr ⟨_, rfl, rfl⟩)⟩
  · refine ⟨[], _, s.timerBudget, faults, ?_, .inl ⟨rfl, rfl⟩⟩
    simp only [observed, List.append_nil]

theorem remembered_aside (s : SimulatorCommandRouter) (task : Task) (now : ℤ) :
    (s.remembered task now).1 =
      { s with completed := (s.remembered task now).1.completed } := by
  unfold remembered lookupDedupe
  split
  · rfl
  split
  · rfl
  split
  · rfl
  · rfl

/-- How `process` reads what is remembered. -/
theorem process_eq (s : SimulatorCommandRouter) (task : Task) (now : ℤ) :
    s.process stringify task now =
      match s.registry.get task.delivery.deviceKey with
      | none => s.setStage task .processed
      | some device =>
          match s.remembered task now with
          | (s, some existing) => s.resend task existing
          | (s, none) => s.processNew stringify task device := by
  unfold process remembered
  cases s.registry.get task.delivery.deviceKey with
  | none => rfl
  | some device =>
      cases task.delivery.command.correlationId with
      | none => rfl
      | some correlationId => rfl

theorem process_steps (found : s.tasks[task.delivery.number]? = some task) (now : ℤ)
    (ready : s.Ready task) :
    Steps parse stringify s (.begin task.delivery.number now) (s.process stringify task now) := by
  rw [process_eq]
  cases s.registry.get task.delivery.deviceKey with
  | none =>
      exact .moved task found _ _ _ s.timerBudget s.faults (.absent now ready)
        (by rw [observed_nil])
  | some device =>
      have aside := remembered_aside s task now
      cases known : s.remembered task now with
      | mk after entry =>
          rw [known] at aside
          cases entry with
          | some entry =>
              have move := @Move.resent stringify s task now ready entry (by rw [known])
              rw [known] at move
              dsimp only at aside move ⊢
              rw [aside]
              exact .moved task found _ _ _ s.timerBudget s.faults move rfl
          | none =>
              have new : (s.remembered task now).2 = none := by rw [known]
              dsimp only at aside ⊢
              obtain ⟨facts, stage, timerBudget, faults, same, kinds⟩ :=
                processNew_cases stringify after task device
              rw [same, aside]
              refine .moved task found facts stage _ timerBudget faults ?_ rfl
              have after' : after = (s.remembered task now).1 := by rw [known]
              rw [after']
              rcases kinds with ⟨rfl, rfl⟩ | ⟨reason, rest, rfl, acked⟩ | ⟨fault, rfl, rfl⟩
              · exact .unhandled now ready new
              · exact .rejected now ready new reason acked
              · exact .invoked now ready new fault

theorem conclude_eq (s : SimulatorCommandRouter) (task : Task) (now : ℤ)
    (ack : Option Acknowledgement) (next : AfterAck) : s.conclude task now ack next =
      ({ s with completed := s.remember task now ack }.observed
        (concluded task now ack next)).setStage task .processed := by
  unfold conclude concluded remember
  cases next <;> cases task.delivery.command.correlationId <;>
    simp [setStage, applyResultingState, recordDedupe, observed, updates]

/-- Something is done with a task, if it is there. -/
theorem withTask_steps {e : RouterEvent} {f : Task → SimulatorCommandRouter}
    (each : ∀ task, s.tasks[number]? = some task → Steps parse stringify s e (f task)) :
    Steps parse stringify s e (s.withTask number f) := by
  unfold withTask
  cases found : s.tasks[number]? with
  | none => exact .aside s.timerBudget s.faults rfl
  | some task => exact each task found

/-- Every task has the number it is found by. -/
def Numbered (s : SimulatorCommandRouter) : Prop :=
  ∀ (number : Nat) (task : Task), s.tasks[number]? = some task → task.delivery.number = number

theorem step_steps (numbered : s.Numbered) (e : RouterEvent) :
    Steps parse stringify s e (s.step parse stringify e) := by
  have idle : Steps parse stringify s e s := .aside s.timerBudget s.faults rfl
  cases e with
  | deliver topic payload packet now =>
      change Steps parse stringify s _ (s.handleCommand parse topic payload packet now)
      unfold handleCommand
      split
      · exact idle
      next device owner =>
      dsimp only
      split
      · exact idle
      · next room => exact .enqueued topic payload packet now rfl device owner (not_le.mp room) rfl
  | begin number now =>
      refine withTask_steps parse stringify fun task found => ?_
      obtain rfl := numbered number task found
      unfold begin'
      split
      · next ready => exact process_steps parse stringify found now ready
      · exact idle
  | modelReturns number result =>
      refine withTask_steps parse stringify fun task found => ?_
      obtain rfl := numbered number task found
      split
      · next fault running =>
          unfold modelReturns
          obtain ⟨rest, stage, timerBudget, same, acked⟩ := maybePublishAck_cases stringify
            (s.observed [.returned task.delivery result]) task result.ackOutcome
            (fault.ackDelayMs.or result.ackDelayMs) fault.dropNextAck (result.afterAck fault)
          rw [same]
          refine .moved task found _ stage _ timerBudget s.faults
            (.returned fault running result acked) ?_
          simp only [setStage, observed, List.append_assoc, List.singleton_append]
      · exact idle
  | wake number =>
      refine withTask_steps parse stringify fun task found => ?_
      obtain rfl := numbered number task found
      split
      · next ack next sleeping =>
          exact .moved task found [] _ _ _ s.faults (.woken sleeping) (by rw [observed_nil])
      · exact idle
  | resume number now =>
      refine withTask_steps parse stringify fun task found => ?_
      obtain rfl := numbered number task found
      unfold resume
      split
      · next ack next awake =>
          exact .moved task found _ _ _ s.timerBudget s.faults (.published now awake) rfl
      · next ack next acknowledged =>
          exact .moved task found _ _ _ s.timerBudget s.faults (.concluded now acknowledged)
            (conclude_eq s task now ack next)
      · next processed => exact .finished task found processed rfl
      · exact idle
  | arm deviceKey fault => exact .aside _ _ rfl
  | clear deviceKey => exact .aside _ _ rfl
  | clearAll => exact .aside _ _ rfl
  | acquire => exact .aside _ _ rfl
  | release => exact .aside _ _ rfl

end Inversion

/-! ## The queues -/

def OfDevice (s : SimulatorCommandRouter) (deviceKey : String) (number : Nat) : Prop :=
  ∃ task, s.tasks[number]? = some task ∧ task.delivery.deviceKey = deviceKey

/-- The tasks of the device that are not through. -/
def unfinished (s : SimulatorCommandRouter) (deviceKey : String) : Nat :=
  s.tasks.countP fun task => task.delivery.deviceKey = deviceKey && !task.stage.isFinished

structure Queued (s : SimulatorCommandRouter) : Prop where
  numbered : s.Numbered
  behind : ∀ (number : Nat) (task : Task), s.tasks[number]? = some task →
    LastBefore (s.OfDevice task.delivery.deviceKey) number task.previous
  tail : ∀ deviceKey, LastBefore (s.OfDevice deviceKey) s.tasks.length (s.queues.get deviceKey)
  ordered : ∀ (i j : Nat) (a b : Task), s.tasks[i]? = some a → s.tasks[j]? = some b → i < j →
    a.delivery.deviceKey = b.delivery.deviceKey → b.stage.isQueued = false →
    a.stage.isFinished = true
  depth : ∀ deviceKey, (s.queueDepth.get deviceKey).getD 0 = s.unfinished deviceKey

theorem Stage.not_queued_of_finished {stage : Stage} (finished : stage.isFinished = true) :
    stage.isQueued = false := by
  cases stage with
  | finished => rfl
  | _ => exact nomatch finished

/-- A task starts when those of its device before it are through. -/
theorem Queued.earlier (queued : s.Queued) (found : s.tasks[number]? = some task)
    (ready : s.Ready task) (i : Nat) (a : Task) (there : s.tasks[i]? = some a) (before : i < number)
    (same : a.delivery.deviceKey = task.delivery.deviceKey) : a.stage.isFinished = true := by
  have behind := queued.behind number task found
  refine behind.all (D := fun i => ∀ a, s.tasks[i]? = some a → a.stage.isFinished = true)
    (fun p previous i upTo ofDevice a there => ?_) i before ⟨a, there, same⟩ a there
  rw [previous] at behind
  obtain ⟨-, ⟨last, foundLast, ofLast⟩, -⟩ := behind
  obtain ⟨other, thereToo, ofOther⟩ := ofDevice
  obtain rfl : other = a := Option.some.inj (thereToo.symm.trans there)
  have finished : last.stage.isFinished = true := by
    have through := ready.2
    rw [previous] at through
    unfold isFinished at through
    rw [Option.all_some, foundLast] at through
    exact through
  rcases Nat.lt_or_eq_of_le upTo with earlier | rfl
  · exact queued.ordered i p other last there foundLast earlier (ofOther.trans ofLast.symm)
      (Stage.not_queued_of_finished finished)
  · obtain rfl := Option.some.inj (there.symm.trans foundLast)
    exact finished

/-- A task that has gone on stands where it stood, and so do the others. -/
theorem still_of_set (found : s.tasks[task.delivery.number]? = some task) {stage : Stage}
    (tasks : s'.tasks = s.tasks.set task.delivery.number { task with stage }) {i : Nat} {a : Task}
    (there : s'.tasks[i]? = some a) :
    ∃ b, s.tasks[i]? = some b ∧ a.delivery = b.delivery ∧ a.previous = b.previous ∧
      (i ≠ task.delivery.number ∧ a = b ∨
        i = task.delivery.number ∧ b = task ∧ a.stage = stage) := by
  rw [tasks, getElem?_set_of_found found] at there
  split at there
  · next here =>
      obtain rfl := Option.some.inj there
      exact ⟨task, here ▸ found, rfl, rfl, .inr ⟨here, rfl, rfl⟩⟩
  · next elsewhere => exact ⟨a, there, rfl, rfl, .inl ⟨elsewhere, rfl⟩⟩

/-- A task goes on. -/
theorem Queued.moved (queued : s.Queued) (found : s.tasks[task.delivery.number]? = some task)
    {stage : Stage} (tasks : s'.tasks = s.tasks.set task.delivery.number { task with stage })
    (queues : s'.queues = s.queues) (running : task.stage.isFinished = false)
    (ready : task.stage.isQueued = true → s.Ready task)
    (depth : ∀ deviceKey, (s'.queueDepth.get deviceKey).getD 0 = s'.unfinished deviceKey) :
    s'.Queued := by
  have table := getElem?_set_of_found found { task with stage }
  rw [← tasks] at table
  have ofDevice (deviceKey : String) (i : Nat) :
      s.OfDevice deviceKey i ↔ s'.OfDevice deviceKey i := by
    constructor
    · rintro ⟨a, there, same⟩
      by_cases here : i = task.delivery.number
      · obtain rfl := Option.some.inj (found.symm.trans (here ▸ there))
        exact ⟨{ task with stage }, by rw [table, if_pos here], same⟩
      · exact ⟨a, by rw [table, if_neg here, there], same⟩
    · rintro ⟨a, there, same⟩
      obtain ⟨b, thereToo, delivery, -, -⟩ := still_of_set found tasks there
      exact ⟨b, thereToo, delivery ▸ same⟩
  refine ⟨fun i a there => ?_, fun i a there => ?_, fun deviceKey => ?_,
    fun i j a b thereA thereB before same begunB => ?_, depth⟩
  · obtain ⟨b, thereToo, delivery, -, -⟩ := still_of_set found tasks there
    rw [delivery]
    exact queued.numbered i b thereToo
  · obtain ⟨b, thereToo, delivery, previous, -⟩ := still_of_set found tasks there
    rw [delivery, previous]
    exact (queued.behind i b thereToo).congr fun i _ => ofDevice _ i
  · rw [queues, tasks, List.length_set]
    exact (queued.tail deviceKey).congr fun i _ => ofDevice _ i
  · obtain ⟨a', thereA', deliveryA, -, kindA⟩ := still_of_set found tasks thereA
    obtain ⟨b', thereB', deliveryB, -, kindB⟩ := still_of_set found tasks thereB
    have finished : a'.stage.isFinished = true := by
      have same' : a'.delivery.deviceKey = b'.delivery.deviceKey := by
        rw [← deliveryA, ← deliveryB]
        exact same
      rcases kindB with ⟨-, rfl⟩ | ⟨hereB, rfl, -⟩
      · exact queued.ordered i j a' b thereA' thereB' before same' begunB
      · by_cases waits : b'.stage.isQueued = true
        · exact queued.earlier found (ready waits) i a' thereA' (hereB ▸ before) same'
        · exact queued.ordered i j a' b' thereA' thereB' before same' (Bool.eq_false_iff.mpr waits)
    rcases kindA with ⟨-, rfl⟩ | ⟨-, rfl, -⟩
    · exact finished
    · exact absurd (finished.symm.trans running) nofun

theorem Ready.running (ready : s.Ready task) : task.stage.isFinished = false :=
  Bool.eq_false_iff.mpr fun finished =>
    absurd (ready.1.symm.trans (Stage.not_queued_of_finished finished)) nofun

theorem Acked.stages {stringify : JsonObject → String} {outcome : AckOutcome} {next : AfterAck}
    {facts : List RouterFact} {stage : Stage}
    (acked : Acked stringify task outcome next facts stage) :
    stage.isQueued = false ∧ stage.isFinished = false := by
  cases acked <;> exact ⟨rfl, rfl⟩

theorem Move.stages {stringify : JsonObject → String} {e : RouterEvent} {facts : List RouterFact}
    {stage : Stage} {completed : OrderedMap String DedupeEntry}
    (move : Move stringify s task e facts stage completed) :
    task.stage.isFinished = false ∧ (stage.isQueued = false ∧ stage.isFinished = false) ∧
      (task.stage.isQueued = true → s.Ready task) := by
  cases move with
  | absent now ready => exact ⟨ready.running, ⟨rfl, rfl⟩, fun _ => ready⟩
  | resent now ready => exact ⟨ready.running, ⟨rfl, rfl⟩, fun _ => ready⟩
  | unhandled now ready => exact ⟨ready.running, ⟨rfl, rfl⟩, fun _ => ready⟩
  | rejected now ready _ _ acked => exact ⟨ready.running, acked.stages, fun _ => ready⟩
  | invoked now ready => exact ⟨ready.running, ⟨rfl, rfl⟩, fun _ => ready⟩
  | returned fault running _ acked =>
      rw [running]
      exact ⟨rfl, acked.stages, nofun⟩
  | woken sleeping =>
      rw [sleeping]
      exact ⟨rfl, ⟨rfl, rfl⟩, nofun⟩
  | published now awake =>
      rw [awake]
      exact ⟨rfl, ⟨rfl, rfl⟩, nofun⟩
  | concluded now acknowledged =>
      rw [acknowledged]
      exact ⟨rfl, ⟨rfl, rfl⟩, nofun⟩

/-- The count moves with the task. -/
theorem unfinished_set (found : s.tasks[task.delivery.number]? = some task) {stage : Stage}
    (tasks : s'.tasks = s.tasks.set task.delivery.number { task with stage })
    (running : task.stage.isFinished = false) (deviceKey : String) :
    s'.unfinished deviceKey + (if task.delivery.deviceKey = deviceKey then 1 else 0) =
      s.unfinished deviceKey +
        if task.delivery.deviceKey = deviceKey ∧ stage.isFinished = false then 1 else 0 := by
  have count := countP_set found
    (fun task => task.delivery.deviceKey = deviceKey && !task.stage.isFinished) { task with stage }
  unfold unfinished
  rw [tasks]
  simpa [running] using count

theorem Queued.finish (queued : s.Queued) (found : s.tasks[task.delivery.number]? = some task)
    (processed : task.stage = .processed) : (s.finish task).Queued := by
  have running : task.stage.isFinished = false := by
    rw [processed]
    rfl
  refine queued.moved found rfl rfl running (by rw [processed]; exact nofun) fun deviceKey => ?_
  have count := @unfinished_set s (s.finish task) task found .finished rfl running deviceKey
  have depth := queued.depth deviceKey
  simp only [Stage.isFinished, reduceCtorEq, and_false, if_false, Nat.add_zero] at count
  generalize (s.finish task).unfinished deviceKey = left at count ⊢
  unfold SimulatorCommandRouter.finish setStage
  dsimp only
  by_cases here : task.delivery.deviceKey = deviceKey
  · rw [if_pos here] at count
    rw [here]
    -- the task itself has been counted
    cases recorded : s.queueDepth.get deviceKey with
    | none =>
        rw [recorded, Option.getD_none] at depth
        omega
    | some current =>
        rw [recorded, Option.getD_some] at depth
        rw [Option.getD_some]
        split
        · rw [OrderedMap.get_delete_self, Option.getD_none]
          omega
        · rw [OrderedMap.get_set_self, Option.getD_some]
          omega
  · rw [if_neg here] at count
    have other (value : Nat) : (if value ≤ 1 then s.queueDepth.delete task.delivery.deviceKey
        else s.queueDepth.set task.delivery.deviceKey (value - 1)).get deviceKey =
        s.queueDepth.get deviceKey := by
      split
      · exact OrderedMap.get_delete_of_ne _ (Ne.symm here)
      · exact OrderedMap.get_set_of_ne _ _ (Ne.symm here)
    rw [other, depth]
    omega

/-- A task that arrives is the last of its device. -/
theorem Queued.enqueue (queued : s.Queued) (deviceKey : String)
    (command : SimulatedInboundCommand) :
    ({ s with queueDepth := s.queueDepth.set deviceKey ((s.queueDepth.get deviceKey).getD 0 + 1)
      }.enqueue deviceKey command).Queued := by
  generalize after : ({ s with
    queueDepth := s.queueDepth.set deviceKey ((s.queueDepth.get deviceKey).getD 0 + 1)
    }.enqueue deviceKey command) = s'
  have tasks : s'.tasks = s.tasks ++
      [⟨⟨s.tasks.length, deviceKey, command⟩, s.queues.get deviceKey, .queued⟩] := by
    rw [← after]
    rfl
  have queues : s'.queues = s.queues.set deviceKey s.tasks.length := by
    rw [← after]
    rfl
  have depths : s'.queueDepth =
      s.queueDepth.set deviceKey ((s.queueDepth.get deviceKey).getD 0 + 1) := by
    rw [← after]
    rfl
  have table := getElem?_concat (l := s.tasks)
    ⟨⟨s.tasks.length, deviceKey, command⟩, s.queues.get deviceKey, .queued⟩
  rw [← tasks] at table
  have ofDevice (key : String) (i : Nat) (below : i < s.tasks.length) :
      s.OfDevice key i ↔ s'.OfDevice key i := by
    unfold OfDevice
    rw [table, if_neg (Nat.ne_of_lt below)]
  have cases' (i : Nat) (a : Task) (there : s'.tasks[i]? = some a) :
      s.tasks[i]? = some a ∧ i < s.tasks.length ∨ i = s.tasks.length ∧
        a = ⟨⟨s.tasks.length, deviceKey, command⟩, s.queues.get deviceKey, .queued⟩ := by
    rw [table] at there
    split at there
    · next here => exact .inr ⟨here, (Option.some.inj there).symm⟩
    · exact .inl ⟨there, (List.getElem?_eq_some_iff.mp there).1⟩
  refine ⟨fun i a there => ?_, fun i a there => ?_, fun key => ?_,
    fun i j a b thereA thereB before same begun => ?_, fun key => ?_⟩
  · rcases cases' i a there with ⟨old, -⟩ | ⟨rfl, rfl⟩
    · exact queued.numbered i a old
    · rfl
  · rcases cases' i a there with ⟨old, below⟩ | ⟨rfl, rfl⟩
    · exact (queued.behind i a old).congr fun j earlier => ofDevice _ j (earlier.trans below)
    · exact (queued.tail deviceKey).congr fun j earlier => ofDevice _ j earlier
  · rw [queues, tasks, List.length_append, List.length_singleton]
    by_cases here : key = deviceKey
    · rw [here, OrderedMap.get_set_self]
      exact lastBefore_succ ⟨_, by rw [table, if_pos rfl], rfl⟩
    · rw [OrderedMap.get_set_of_ne _ _ here]
      refine ((queued.tail key).congr fun j earlier => ofDevice _ j earlier).succ ?_
      rintro ⟨a, there, of⟩
      rw [table, if_pos rfl] at there
      obtain rfl := Option.some.inj there
      exact here of.symm
  · rcases cases' j b thereB with ⟨oldB, below⟩ | ⟨rfl, rfl⟩
    · rcases cases' i a thereA with ⟨oldA, -⟩ | ⟨rfl, -⟩
      · exact queued.ordered i j a b oldA oldB before same begun
      · omega
    · exact (Bool.false_ne_true begun.symm).elim
  · have depth := queued.depth key
    unfold unfinished at depth ⊢
    rw [tasks, depths, List.countP_append, List.countP_singleton]
    by_cases here : key = deviceKey
    · rw [here] at depth ⊢
      rw [OrderedMap.get_set_self, Option.getD_some, depth, if_pos (by simp [Stage.isFinished])]
    · rw [OrderedMap.get_set_of_ne _ _ here, depth, if_neg (by simp [Ne.symm here]), Nat.add_zero]

theorem Queued.step (queued : s.Queued) (parse : String → Option Json)
    (stringify : JsonObject → String) (e : RouterEvent) : (s.step parse stringify e).Queued := by
  have steps := step_steps parse stringify queued.numbered e
  generalize s.step parse stringify e = s' at steps ⊢
  cases steps with
  | aside timerBudget faults same =>
      rw [same]
      exact ⟨queued.numbered, queued.behind, queued.tail, queued.ordered, queued.depth⟩
  | enqueued topic payload packet now _ device _ _ same =>
      rw [same]
      exact queued.enqueue device.key _
  | moved task found facts stage completed timerBudget faults move same =>
      have tasks : s'.tasks = s.tasks.set task.delivery.number { task with stage } := same ▸ rfl
      obtain ⟨running, ⟨-, still⟩, ready⟩ := move.stages
      refine queued.moved found tasks (same ▸ rfl) running ready fun deviceKey => ?_
      have count := unfinished_set found tasks running deviceKey
      have depth : s'.queueDepth = s.queueDepth := same ▸ rfl
      rw [depth, queued.depth]
      simp only [still, and_true] at count
      omega
  | finished task found processed same =>
      rw [same]
      exact queued.finish found processed

theorem queued_ofDeps (deps : SimulatorCommandRouterDeps) : (ofDeps deps).Queued where
  numbered _ _ there := nomatch there
  behind _ _ there := nomatch there
  tail _ _ below := nomatch below
  ordered _ _ _ _ there := nomatch there
  depth _ := rfl

/-- **One at a time**, whatever the ids are and whatever has been forgotten of them: a command
starts when those of its device before it are through, acknowledgement and all. -/
theorem one_at_a_time (parse : String → Option Json) (stringify : JsonObject → String)
    (deps : SimulatorCommandRouterDeps) (events : List RouterEvent) :
    let s := run (step parse stringify) (ofDeps deps) events
    ∀ (i j : Nat) (a b : Task), s.tasks[i]? = some a → s.tasks[j]? = some b → i < j →
      a.delivery.deviceKey = b.delivery.deviceKey → b.stage.isQueued = false →
        a.stage.isFinished = true :=
  (run_invariant (fun _ e queued => queued.step parse stringify e) (queued_ofDeps deps)
    events).ordered

end SimulatorCommandRouter

end Aeolus.Simulator
