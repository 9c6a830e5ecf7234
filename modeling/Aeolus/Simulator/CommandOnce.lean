/-
# Aeolus.Simulator.CommandOnce — each correlated command is applied once

A command is decided when its model is called or a fault rejects it, and what is decided is
remembered when its task is through.  Tasks of a device come one behind the other, so that a
second delivery finds the first remembered, as long as that is neither too old nor displaced
by later ones (`WithinDedupe`): it sends the first one's acknowledgement again and does nothing
else.

A command for a model that takes none is not decided, and it is not remembered either: when a
fault is armed behind its first delivery, the second one is rejected, with an acknowledgement
that was not published before (`ignored_command_is_acknowledged`).
-/
import Aeolus.Simulator.CommandQueue

namespace Aeolus.Simulator

open Aeolus.Core Aeolus.Theory

/-! ## What is to hold -/

namespace RouterFact

def delivery : RouterFact → Delivery
  | .invoked delivery | .returned delivery _ | .rejected delivery _ | .published delivery _
  | .updated delivery _ _ | .recorded delivery _ _ => delivery

/-- The command with the id is handed to the model, or rejected by a fault. -/
def decides (correlationId : String) : RouterFact → Bool
  | .invoked delivery | .rejected delivery _ =>
      delivery.command.correlationId = some correlationId
  | _ => false

def record : RouterFact → Option (String × DedupeEntry)
  | .recorded _ correlationId entry => some (correlationId, entry)
  | _ => none

theorem id_of_decides {fact : RouterFact} {correlationId : String}
    (decides : fact.decides correlationId = true) :
    fact.delivery.command.correlationId = some correlationId := by
  cases fact with
  | invoked delivery => exact of_decide_eq_true decides
  | rejected delivery reason => exact of_decide_eq_true decides
  | _ => exact nomatch decides

end RouterFact

/-- The task has started, and what becomes of its command is not recorded yet. -/
def Stage.isOpen : Stage → Bool
  | .queued | .processed | .finished => false
  | _ => true

def recordsOf (log : List RouterFact) : List (String × DedupeEntry) :=
  log.filterMap RouterFact.record

namespace SimulatorCommandRouter

section Told

variable (stringify : JsonObject → String) (before : List RouterFact)

/-- Nothing is told of the delivery. -/
def Untouched (delivery : Delivery) : Prop :=
  ∀ fact ∈ before, fact.delivery.number ≠ delivery.number

/-- Nothing is told of the delivery but that its model was called. -/
def OnlyInvoked (delivery : Delivery) : Prop :=
  ∀ fact ∈ before, fact.delivery.number = delivery.number → fact = .invoked delivery

/-- The acknowledgement says what the model, or the fault, made of the delivery. -/
def Answers (delivery : Delivery) (ack : Acknowledgement) : Prop :=
  (∃ reason, .rejected delivery reason ∈ before ∧
    delivery.command.acknowledgement stringify ⟨false, some reason⟩ = some ack) ∨
  ∃ result, .returned delivery result ∈ before ∧
    delivery.command.acknowledgement stringify result.ackOutcome = some ack

/-- A model is called, and a fault rejects a command, before anything else is told of the
delivery, and a model is called when its calls for earlier deliveries have returned.  It returns
once, a state is changed for a command that was accepted, and an acknowledgement is the one of the
delivery that decided the command: its own, or one published before. -/
def Told : RouterFact → Prop
  | .invoked later => Untouched before later ∧ ∀ delivery, .invoked delivery ∈ before →
      delivery.deviceKey = later.deviceKey →
        delivery.number < later.number ∧ ∃ result, .returned delivery result ∈ before
  | .rejected delivery _ => Untouched before delivery
  | .returned delivery _ => OnlyInvoked before delivery
  | .updated delivery _ _ => ∃ state delayMs, .returned delivery (.accepted state delayMs) ∈ before
  | .published delivery ack => ∃ decider : Delivery,
      decider.command.correlationId = delivery.command.correlationId ∧
        Answers stringify before decider ack ∧
          (decider = delivery ∨ .published decider ack ∈ before)
  | .recorded delivery correlationId entry =>
      delivery.command.correlationId = some correlationId ∧ ∀ ack, entry.ack = some ack →
        .published delivery ack ∈ before ∧ Answers stringify before delivery ack

end Told

structure AppliedOnce (stringify : JsonObject → String) (s : SimulatorCommandRouter) : Prop where
  told : Justified (Told stringify) s.log
  once : ∀ correlationId, s.log.countP (RouterFact.decides correlationId) ≤ 1
  depth : ∀ deviceKey, (s.queueDepth.get deviceKey).getD 0 = s.unfinished deviceKey

/-- The deliveries with one id are deliveries of one command, and so for one device. -/
def UniqueIds (parse : String → Option Json) (s : SimulatorCommandRouter) : RouterEvent → Prop
  | .deliver topic payload packet now =>
      ∀ device ∈ s.registry.getByCommandTopic topic,
        ∀ correlationId ∈ (parseCommand parse topic payload packet now).correlationId,
          ∀ task ∈ s.tasks, task.delivery.command.correlationId = some correlationId →
            task.delivery.deviceKey = device.key
  | _ => True

/-- The record of the id is young enough, and few enough have come behind it. -/
def StillKept (dedupeTtlMs dedupeMaxEntries now : ℤ) (correlationId : String) :
    List (String × DedupeEntry) → Prop
  | [] => True
  | record :: later =>
      (record.1 = correlationId →
        now - record.2.completedAt ≤ dedupeTtlMs ∧ (later.length : ℤ) < dedupeMaxEntries) ∧
      StillKept dedupeTtlMs dedupeMaxEntries now correlationId later

/-- A delivery is processed while its command, if it was decided before, is remembered. -/
def WithinDedupe (s : SimulatorCommandRouter) : RouterEvent → Prop
  | .begin number now => ∀ task ∈ s.tasks[number]?,
      ∀ correlationId ∈ task.delivery.command.correlationId,
        StillKept s.dedupeTtlMs s.dedupeMaxEntries now correlationId (recordsOf s.log)
  | _ => True

/-! ## What is remembered -/

variable {s s' : SimulatorCommandRouter} {task : Task} {number : Nat} {log facts : List RouterFact}

theorem recordsOf_append : recordsOf (log ++ facts) = recordsOf log ++ recordsOf facts :=
  List.filterMap_append

theorem mem_recordsOf {record : String × DedupeEntry} :
    record ∈ recordsOf log ↔ ∃ delivery, .recorded delivery record.1 record.2 ∈ log := by
  unfold recordsOf
  rw [List.mem_filterMap]
  constructor
  · rintro ⟨fact, member, same⟩
    cases fact with
    | recorded delivery correlationId entry =>
        cases same
        exact ⟨delivery, member⟩
    | _ => exact nomatch same
  · rintro ⟨delivery, member⟩
    exact ⟨_, member, rfl⟩

theorem entries_evictOldest (dedupeMaxEntries : ℤ) (keys : List String)
    (completed : OrderedMap String DedupeEntry) (same : completed.keys = keys) :
    (evictOldest dedupeMaxEntries keys completed).entries =
      completed.entries.drop (completed.size - dedupeMaxEntries.toNat) := by
  induction keys generalizing completed with
  | nil =>
      have none' : completed.entries = [] := List.map_eq_nil_iff.mp same
      simp [evictOldest, none']
  | cons oldest rest ih =>
      unfold evictOldest
      split
      · next full =>
          obtain ⟨first, tail, split, rfl, others⟩ := List.map_eq_cons_iff.mp same
          have apart := completed.nodup
          rw [split, List.map_cons, List.nodup_cons] at apart
          have deleted : (completed.delete first.1).entries = tail := by
            have absent : ∀ e ∈ tail, e.1 ≠ first.1 := fun e member same =>
              apart.1 (same ▸ List.mem_map_of_mem member)
            exact OrderedMap.entries_delete_of_split (l := []) split (by simp) absent
          rw [ih _ (by rw [OrderedMap.keys, deleted, others]), deleted]
          unfold OrderedMap.size at full ⊢
          rw [split, List.length_cons] at full
          rw [deleted, split, List.length_cons]
          rw [show tail.length + 1 - dedupeMaxEntries.toNat =
            (tail.length - dedupeMaxEntries.toNat) + 1 by omega, List.drop_succ_cons]
      · next room => rw [show completed.size - dedupeMaxEntries.toNat = 0 by omega, List.drop_zero]

/-- What is remembered is the last of what was recorded. -/
structure Remembers (s : SimulatorCommandRouter) : Prop where
  distinct : ((recordsOf s.log).map Prod.fst).Nodup
  completed : s.completed.entries =
    (recordsOf s.log).drop ((recordsOf s.log).length - s.dedupeMaxEntries.toNat)

theorem StillKept.split {dedupeTtlMs dedupeMaxEntries now : ℤ} {correlationId : String}
    {records : List (String × DedupeEntry)}
    (kept : StillKept dedupeTtlMs dedupeMaxEntries now correlationId records) {entry : DedupeEntry}
    (member : (correlationId, entry) ∈ records) :
    now - entry.completedAt ≤ dedupeTtlMs ∧
      ∃ before later, records = before ++ (correlationId, entry) :: later ∧
        (later.length : ℤ) < dedupeMaxEntries := by
  induction records with
  | nil => cases member
  | cons record records ih =>
      rcases List.mem_cons.mp member with rfl | member
      · exact ⟨(kept.1 rfl).1, [], records, rfl, (kept.1 rfl).2⟩
      · obtain ⟨young, before, later, rfl, few⟩ := ih kept.2 member
        exact ⟨young, record :: before, later, rfl, few⟩

theorem Remembers.get_of_mem (remembers : s.Remembers) {correlationId : String}
    {entry : DedupeEntry} (found : s.completed.get correlationId = some entry) :
    (correlationId, entry) ∈ recordsOf s.log := by
  have member := OrderedMap.mem_entries.mpr found
  rw [remembers.completed] at member
  exact List.mem_of_mem_drop member

/-- While it is kept, what was recorded is found, and nothing is forgotten by looking. -/
theorem Remembers.lookup (remembers : s.Remembers) {now : ℤ} {correlationId : String}
    (kept : StillKept s.dedupeTtlMs s.dedupeMaxEntries now correlationId (recordsOf s.log)) :
    ∃ found, s.lookupDedupe now correlationId = (s, found) ∧
      ∀ entry, found = some entry ↔ (correlationId, entry) ∈ recordsOf s.log := by
  unfold lookupDedupe
  cases present : s.completed.get correlationId with
  | none =>
      refine ⟨none, rfl, fun entry => iff_of_false nofun fun member => ?_⟩
      obtain ⟨-, before, later, split, few⟩ := kept.split member
      have inside : (correlationId, entry) ∈ s.completed.entries := by
        rw [remembers.completed, split, List.drop_append_of_le_length (by
          rw [List.length_append, List.length_cons]
          omega)]
        exact List.mem_append_right _ List.mem_cons_self
      exact absurd (present.symm.trans (OrderedMap.mem_entries.mp inside)) nofun
  | some entry =>
      have member := remembers.get_of_mem present
      refine ⟨some entry, ?_, fun other => ⟨fun same => ?_, fun other' => ?_⟩⟩
      · dsimp only
        rw [if_neg (by have := (kept.split member).1; omega)]
      · cases same
        exact member
      · have same := List.inj_on_of_nodup_map remembers.distinct member other' rfl
        exact congrArg some (congrArg Prod.snd same)

/-- A record is added behind the others, and the oldest make room. -/
theorem Remembers.remember (remembers : s.Remembers) (now : ℤ) (ack : Option Acknowledgement)
    (new : ∀ correlationId ∈ task.delivery.command.correlationId,
      correlationId ∉ (recordsOf s.log).map Prod.fst)
    (log : recordsOf s'.log = recordsOf s.log ++
      task.delivery.command.correlationId.toList.map fun correlationId =>
        (correlationId, ⟨task.delivery.deviceKey, now, ack⟩))
    (completed : s'.completed = s.remember task now ack)
    (dedupeMaxEntries : s'.dedupeMaxEntries = s.dedupeMaxEntries) : s'.Remembers := by
  unfold SimulatorCommandRouter.remember at completed
  cases named : task.delivery.command.correlationId with
  | none =>
      rw [named] at log completed
      simp only [Option.toList_none, List.map_nil, List.append_nil] at log
      refine ⟨log ▸ remembers.distinct, ?_⟩
      rw [completed, log, dedupeMaxEntries]
      exact remembers.completed
  | some correlationId =>
      rw [named] at log completed
      simp only [Option.toList_some, List.map_cons, List.map_nil] at log
      have fresh := new correlationId named
      have absent : s.completed.get correlationId = none := by
        cases found : s.completed.get correlationId with
        | none => rfl
        | some entry =>
            exact absurd (List.mem_map_of_mem (remembers.get_of_mem found)) fresh
      refine ⟨?_, ?_⟩
      · rw [log, List.map_append, List.nodup_append]
        refine ⟨remembers.distinct, List.nodup_singleton _, fun a old b here => ?_⟩
        rw [List.map_singleton, List.mem_singleton] at here
        rintro rfl
        exact fresh ((show a = correlationId from here) ▸ old)
      · rw [completed]
        unfold recordDedupe observed
        dsimp only
        rw [entries_evictOldest _ _ _ rfl, OrderedMap.size_set_of_absent absent,
          OrderedMap.entries_set_of_absent absent, log, dedupeMaxEntries, OrderedMap.size,
          remembers.completed]
        have short : (recordsOf s.log).length - s.dedupeMaxEntries.toNat ≤
          (recordsOf s.log).length := Nat.sub_le _ _
        rw [← List.drop_append_of_le_length short, List.drop_drop, List.length_append,
          List.length_drop, List.length_singleton]
        congr 1
        omega

/-! ## What the log says of a task -/

/-- The command has not been recorded. -/
def Fresh (log : List RouterFact) (delivery : Delivery) : Prop :=
  ∀ correlationId ∈ delivery.command.correlationId,
    correlationId ∉ (recordsOf log).map Prod.fst

/-- When its model was called, it has returned. -/
def Answered (log : List RouterFact) (delivery : Delivery) : Prop :=
  .invoked delivery ∈ log → ∃ result, .returned delivery result ∈ log

/-- A state is only due for an accepted command. -/
def Due (log : List RouterFact) (delivery : Delivery) : AfterAck → Prop
  | .record => True
  | .applyState _ _ => ∃ state delayMs, .returned delivery (.accepted state delayMs) ∈ log

/-- What it has decided is recorded. -/
def Settled (log : List RouterFact) (delivery : Delivery) : Prop :=
  ∀ fact ∈ log, fact.delivery.number = delivery.number → ∀ correlationId,
    fact.decides correlationId = true → correlationId ∈ (recordsOf log).map Prod.fst

/-- The log fits the stage that the task of the delivery has reached. -/
def Fits (stringify : JsonObject → String) (log : List RouterFact) (delivery : Delivery) :
    Stage → Prop
  | .queued => Untouched log delivery
  | .running _ => Fresh log delivery ∧ OnlyInvoked log delivery
  | .sleeping ack next | .awake ack next =>
      Fresh log delivery ∧ Answered log delivery ∧ Answers stringify log delivery ack ∧
        Due log delivery next
  | .acknowledged ack next =>
      Fresh log delivery ∧ Answered log delivery ∧
        (∀ a, ack = some a → .published delivery a ∈ log ∧ Answers stringify log delivery a) ∧
        Due log delivery next
  | .processed | .finished => Answered log delivery ∧ Settled log delivery

variable {stringify : JsonObject → String} {delivery : Delivery} {ack : Acknowledgement}

theorem Answers.mono (answers : Answers stringify log delivery ack) {later : List RouterFact}
    (grown : log ⊆ later) : Answers stringify later delivery ack :=
  answers.imp (fun ⟨reason, member, made⟩ => ⟨reason, grown member, made⟩)
    fun ⟨result, member, made⟩ => ⟨result, grown member, made⟩

theorem Answers.grown (answers : Answers stringify log delivery ack) (facts : List RouterFact) :
    Answers stringify (log ++ facts) delivery ack :=
  answers.mono (List.subset_append_left ..)

theorem Due.grown {next : AfterAck} (due : Due log delivery next) (facts : List RouterFact) :
    Due (log ++ facts) delivery next := by
  cases next with
  | record => trivial
  | applyState state fault =>
      obtain ⟨state, delayMs, member⟩ := due
      exact ⟨state, delayMs, List.mem_append_left _ member⟩

theorem Fresh.grown (fresh : Fresh log delivery) (none' : recordsOf facts = []) :
    Fresh (log ++ facts) delivery := by
  unfold Fresh
  rw [recordsOf_append, none', List.append_nil]
  exact fresh

theorem Answered.grown (answered : Answered log delivery)
    (apart : .invoked delivery ∉ facts) : Answered (log ++ facts) delivery := by
  intro invoked
  obtain ⟨result, member⟩ := answered ((List.mem_append.mp invoked).resolve_right apart)
  exact ⟨result, List.mem_append_left _ member⟩

theorem Settled.grown (settled : Settled log delivery)
    (apart : ∀ fact ∈ facts, fact.delivery.number = delivery.number → ∀ correlationId,
      fact.decides correlationId = false) : Settled (log ++ facts) delivery := by
  intro fact member same correlationId decides
  rw [recordsOf_append, List.map_append]
  rcases List.mem_append.mp member with old | new
  · exact List.mem_append_left _ (settled fact old same correlationId decides)
  · exact absurd (decides.symm.trans (apart fact new same correlationId)) nofun

/-- Facts about other tasks change nothing, but that a command may be recorded. -/
theorem Fits.other {stage : Stage} (fits : Fits stringify log delivery stage)
    (apart : ∀ fact ∈ facts, fact.delivery.number ≠ delivery.number)
    (fresh : stage.isOpen = true → Fresh (log ++ facts) delivery) :
    Fits stringify (log ++ facts) delivery stage := by
  have uninvoked : .invoked delivery ∉ facts := fun member => apart _ member rfl
  cases stage with
  | queued =>
      intro fact member
      rcases List.mem_append.mp member with old | new
      · exact fits fact old
      · exact apart fact new
  | running =>
      refine ⟨fresh rfl, fun fact member same => ?_⟩
      rcases List.mem_append.mp member with old | new
      · exact fits.2 fact old same
      · exact absurd same (apart fact new)
  | sleeping ack next =>
      obtain ⟨-, answered, answers, due⟩ := fits
      exact ⟨fresh rfl, answered.grown uninvoked, answers.grown facts, due.grown facts⟩
  | awake ack next =>
      obtain ⟨-, answered, answers, due⟩ := fits
      exact ⟨fresh rfl, answered.grown uninvoked, answers.grown facts, due.grown facts⟩
  | acknowledged ack next =>
      obtain ⟨-, answered, own, due⟩ := fits
      refine ⟨fresh rfl, answered.grown uninvoked, fun a same => ?_, due.grown facts⟩
      exact ⟨List.mem_append_left _ (own a same).1, (own a same).2.grown facts⟩
  | processed =>
      exact ⟨fits.1.grown uninvoked, fits.2.grown fun fact new same => absurd same (apart fact new)⟩
  | finished =>
      exact ⟨fits.1.grown uninvoked, fits.2.grown fun fact new same => absurd same (apart fact new)⟩

structure Logged (stringify : JsonObject → String) (s : SimulatorCommandRouter) : Prop where
  known : ∀ fact ∈ s.log, ∃ task, s.tasks[fact.delivery.number]? = some task ∧
    task.delivery = fact.delivery
  fits : ∀ (number : Nat) (task : Task), s.tasks[number]? = some task →
    Fits stringify s.log task.delivery task.stage
  told : Justified (Told stringify) s.log
  once : ∀ correlationId, s.log.countP (RouterFact.decides correlationId) ≤ 1
  oneDevice : ∀ (i j : Nat) (a b : Task) (correlationId : String), s.tasks[i]? = some a →
    s.tasks[j]? = some b → a.delivery.command.correlationId = some correlationId →
    b.delivery.command.correlationId = some correlationId →
    a.delivery.deviceKey = b.delivery.deviceKey

/-- The task reaches a stage, and the facts are told of it. -/
structure Moved (s : SimulatorCommandRouter) (task : Task) (s' : SimulatorCommandRouter)
    (facts : List RouterFact) (stage : Stage) : Prop where
  tasks : s'.tasks = s.tasks.set task.delivery.number { task with stage }
  log : s'.log = s.log ++ facts

/-- A task goes on: its own facts answer for themselves, and the others are as they were. -/
theorem Logged.moved (logged : s.Logged stringify) (queued : s.Queued)
    (found : s.tasks[task.delivery.number]? = some task) {stage : Stage}
    (moved : Moved s task s' facts stage) (running : task.stage.isFinished = false)
    (own : ∀ fact ∈ facts, fact.delivery = task.delivery)
    (recorded : ∀ record ∈ recordsOf facts,
      task.delivery.command.correlationId = some record.1 ∧ task.stage.isQueued = false)
    (fits : Fits stringify (s.log ++ facts) task.delivery stage)
    (told : Justified (fun before => Told stringify (s.log ++ before)) facts)
    (once : ∀ correlationId, (s.log ++ facts).countP (RouterFact.decides correlationId) ≤ 1) :
    s'.Logged stringify := by
  have table := getElem?_set_of_found found { task with stage }
  rw [← moved.tasks] at table
  refine ⟨fun fact member => ?_, fun i a there => ?_, ?_, ?_,
    fun i j a b c thereA thereB idA idB => ?_⟩
  · rw [moved.log] at member
    rcases List.mem_append.mp member with old | new
    · obtain ⟨a, there, same⟩ := logged.known fact old
      rw [table]
      split
      · next here =>
          obtain rfl := Option.some.inj (found.symm.trans (here ▸ there))
          exact ⟨_, rfl, same⟩
      · exact ⟨a, there, same⟩
    · rw [own fact new, table, if_pos rfl]
      exact ⟨_, rfl, rfl⟩
  · obtain ⟨b, thereToo, delivery, -, kind⟩ := still_of_set found moved.tasks there
    rw [delivery, moved.log]
    rcases kind with ⟨elsewhere, rfl⟩ | ⟨-, rfl, reached⟩
    · have number := queued.numbered i a thereToo
      refine (logged.fits i a thereToo).other (fun fact new => ?_) fun isOpen => ?_
      · rw [own fact new, number]
        exact Ne.symm elsewhere
      -- two tasks of one command are never under way together
      have fresh : Fresh s.log a.delivery := by
        have fits := logged.fits i a thereToo
        cases stage' : a.stage with
        | queued => exact nomatch stage' ▸ isOpen
        | running => exact (stage' ▸ fits : _ ∧ _).1
        | sleeping => exact (stage' ▸ fits : _ ∧ _).1
        | awake => exact (stage' ▸ fits : _ ∧ _).1
        | acknowledged => exact (stage' ▸ fits : _ ∧ _).1
        | processed => exact nomatch stage' ▸ isOpen
        | finished => exact nomatch stage' ▸ isOpen
      intro correlationId named member
      rw [recordsOf_append, List.map_append] at member
      rcases List.mem_append.mp member with old | new
      · exact fresh correlationId named old
      obtain ⟨record, told, rfl⟩ := List.mem_map.mp new
      obtain ⟨id, begun⟩ := recorded record told
      have same := logged.oneDevice i _ a task record.1 thereToo found named id
      rcases Nat.lt_or_gt_of_ne elsewhere with before | behind
      · have finished := queued.ordered i _ a task thereToo found before same begun
        cases stage' : a.stage with
        | finished => exact nomatch stage' ▸ isOpen
        | _ => exact nomatch stage' ▸ finished
      · have waits : a.stage.isQueued = false := by
          cases stage' : a.stage with
          | queued => exact nomatch stage' ▸ isOpen
          | _ => rfl
        have finished := queued.ordered _ i task a found thereToo behind same.symm waits
        exact absurd (finished.symm.trans running) nofun
    · rw [reached]
      exact fits
  · rw [moved.log]
    exact justified_append.mpr ⟨logged.told, told⟩
  · rw [moved.log]
    exact once
  · obtain ⟨a', thereA', deliveryA, -⟩ := still_of_set found moved.tasks thereA
    obtain ⟨b', thereB', deliveryB, -⟩ := still_of_set found moved.tasks thereB
    rw [deliveryA] at idA ⊢
    rw [deliveryB] at idB ⊢
    exact logged.oneDevice i j a' b' c thereA' thereB' idA idB

/-! ## What a move adds to the log -/

/-- What is told of a device when a task of it starts is told of tasks that are through. -/
theorem Logged.before (logged : s.Logged stringify) (queued : s.Queued)
    (found : s.tasks[task.delivery.number]? = some task) (ready : s.Ready task) {fact : RouterFact}
    (member : fact ∈ s.log) (same : fact.delivery.deviceKey = task.delivery.deviceKey) :
    fact.delivery.number < task.delivery.number ∧
      Fits stringify s.log fact.delivery .finished := by
  obtain ⟨other, there, delivery⟩ := logged.known fact member
  have fits := logged.fits _ other there
  rw [delivery] at fits
  rw [← delivery] at same
  have begun : other.stage.isQueued = false := by
    cases stage : other.stage with
    | queued =>
        rw [stage] at fits
        exact absurd rfl (fits fact member)
    | _ => rfl
  have before : fact.delivery.number < task.delivery.number := by
    rcases Nat.lt_trichotomy fact.delivery.number task.delivery.number with before | here | behind
    · exact before
    · rw [here, found] at there
      obtain rfl := Option.some.inj there
      exact absurd (ready.1.symm.trans begun) nofun
    · have finished := queued.ordered _ _ task other found there behind same.symm begun
      exact absurd (ready.1.symm.trans (Stage.not_queued_of_finished finished)) nofun
  have finished := queued.earlier found ready _ other there before same
  cases stage : other.stage with
  | finished =>
      rw [stage] at fits
      exact ⟨before, fits⟩
  | _ =>
      rw [stage] at finished
      exact nomatch finished

/-- A command that is not recorded has not been decided when its task starts. -/
theorem Logged.undecided (logged : s.Logged stringify) (queued : s.Queued)
    (found : s.tasks[task.delivery.number]? = some task) (ready : s.Ready task)
    (fresh : Fresh s.log task.delivery) (correlationId : String)
    (named : task.delivery.command.correlationId = some correlationId) (fact : RouterFact)
    (member : fact ∈ s.log) : fact.decides correlationId = false := by
  refine Bool.eq_false_iff.mpr fun decides => ?_
  obtain ⟨other, there, delivery⟩ := logged.known fact member
  have id := fact.id_of_decides decides
  have same := logged.oneDevice _ _ other task correlationId there found (delivery ▸ id) named
  rw [delivery] at same
  obtain ⟨-, -, settled⟩ := logged.before queued found ready member same
  exact fresh correlationId named (settled fact member rfl correlationId decides)

theorem Logged.once_of_none (logged : s.Logged stringify)
    (none' : ∀ fact ∈ facts, ∀ correlationId, fact.decides correlationId = false)
    (correlationId : String) :
    (s.log ++ facts).countP (RouterFact.decides correlationId) ≤ 1 := by
  rw [List.countP_append, List.countP_eq_zero.mpr fun fact member =>
    Bool.eq_false_iff.mp (none' fact member correlationId)]
  exact logged.once correlationId

/-- The command is decided now, and was not before. -/
theorem Logged.once_of_first (logged : s.Logged stringify) {fact : RouterFact}
    (decision : ∀ correlationId, fact.decides correlationId = true →
      ∀ fact ∈ s.log, fact.decides correlationId = false)
    (none' : ∀ fact ∈ facts, ∀ correlationId, fact.decides correlationId = false)
    (correlationId : String) :
    (s.log ++ fact :: facts).countP (RouterFact.decides correlationId) ≤ 1 := by
  rw [List.countP_append, List.countP_cons, List.countP_eq_zero.mpr fun fact member =>
    Bool.eq_false_iff.mp (none' fact member correlationId)]
  split
  · next decides =>
      rw [List.countP_eq_zero.mpr fun fact member =>
        Bool.eq_false_iff.mp (decision correlationId decides fact member)]
  · exact logged.once correlationId

/-- What `maybePublishAck` adds: nothing, or the acknowledgement of the task. -/
theorem Acked.spec {outcome : AckOutcome} {next : AfterAck} {rest : List RouterFact} {stage : Stage}
    (acked : Acked stringify task outcome next rest stage) (fresh : Fresh log task.delivery)
    (answered : Answered log task.delivery)
    (answers : ∀ ack, task.delivery.command.acknowledgement stringify outcome = some ack →
      Answers stringify log task.delivery ack) (due : Due log task.delivery next) :
    Fits stringify (log ++ rest) task.delivery stage ∧
      Justified (fun before => Told stringify (log ++ before)) rest ∧ recordsOf rest = [] ∧
        ∀ fact ∈ rest, fact.delivery = task.delivery ∧
          ∀ correlationId, fact.decides correlationId = false := by
  cases acked with
  | nothing =>
      rw [List.append_nil]
      exact ⟨⟨fresh, answered, (fun _ same => nomatch same), due⟩, justified_nil, rfl,
        fun _ member => nomatch member⟩
  | sleeping ack made =>
      rw [List.append_nil]
      exact ⟨⟨fresh, answered, answers ack made, due⟩, justified_nil, rfl,
        fun _ member => nomatch member⟩
  | awake ack made =>
      rw [List.append_nil]
      exact ⟨⟨fresh, answered, answers ack made, due⟩, justified_nil, rfl,
        fun _ member => nomatch member⟩
  | published ack made =>
      refine ⟨⟨fresh.grown rfl, answered.grown ?_, fun a same => ?_, due.grown _⟩,
        justified_cons.mpr ⟨?_, justified_nil⟩, rfl, fun fact member => ?_⟩
      · exact fun member => nomatch List.mem_singleton.mp member
      · cases same
        exact ⟨List.mem_append_right _ List.mem_cons_self, (answers ack made).grown _⟩
      · rw [List.append_nil]
        exact ⟨task.delivery, rfl, answers ack made, .inl rfl⟩
      · obtain rfl := List.mem_singleton.mp member
        exact ⟨rfl, fun _ => rfl⟩

theorem Remembers.still (remembers : s.Remembers) (records : recordsOf s'.log = recordsOf s.log)
    (completed : s'.completed = s.completed)
    (dedupeMaxEntries : s'.dedupeMaxEntries = s.dedupeMaxEntries) : s'.Remembers := by
  refine ⟨records ▸ remembers.distinct, ?_⟩
  rw [completed, records, dedupeMaxEntries]
  exact remembers.completed

/-- A task that starts finds its command if it was recorded. -/
theorem Remembers.remembered (remembers : s.Remembers) {now : ℤ}
    (found : s.tasks[task.delivery.number]? = some task)
    (within : s.WithinDedupe (.begin task.delivery.number now)) :
    (s.remembered task now).1 = s ∧ ∀ entry, (s.remembered task now).2 = some entry ↔
      ∃ correlationId, task.delivery.command.correlationId = some correlationId ∧
        (correlationId, entry) ∈ recordsOf s.log := by
  unfold SimulatorCommandRouter.remembered
  cases named : task.delivery.command.correlationId with
  | none => exact ⟨rfl, fun entry => iff_of_false nofun fun ⟨_, same, _⟩ => nomatch same⟩
  | some correlationId =>
      obtain ⟨record, looked, exact'⟩ := remembers.lookup (within task found correlationId named)
      dsimp only
      rw [looked]
      refine ⟨rfl, fun entry => (exact' entry).trans ⟨fun member => ⟨_, rfl, member⟩, ?_⟩⟩
      rintro ⟨_, ⟨⟩, member⟩
      exact member

theorem Remembers.fresh (remembers : s.Remembers) {now : ℤ}
    (found : s.tasks[task.delivery.number]? = some task)
    (within : s.WithinDedupe (.begin task.delivery.number now))
    (new : (s.remembered task now).2 = none) : Fresh s.log task.delivery := by
  intro correlationId named member
  obtain ⟨record, inside, rfl⟩ := List.mem_map.mp member
  have found := ((remembers.remembered found within).2 record.2).mpr ⟨_, named, inside⟩
  exact nomatch new.symm.trans found

/-- A task that has not started has nothing to answer for. -/
theorem answered_of_queued (untouched : Untouched log task.delivery) :
    Answered log task.delivery ∧ Settled log task.delivery :=
  ⟨fun member => absurd rfl (untouched _ member),
    fun fact member same => absurd same (untouched fact member)⟩

theorem Logged.untouched (logged : s.Logged stringify)
    (found : s.tasks[task.delivery.number]? = some task) (ready : s.Ready task) :
    Untouched s.log task.delivery := by
  have fits := logged.fits _ task found
  cases stage : task.stage with
  | queued =>
      rw [stage] at fits
      exact fits
  | _ => exact absurd ready.1 (by rw [stage]; nofun)

/-- A delivery that decides nothing ends at once; it may publish what was published before. -/
theorem Logged.dismiss (logged : s.Logged stringify) (queued : s.Queued)
    (found : s.tasks[task.delivery.number]? = some task) (ready : s.Ready task)
    (moved : Moved s task s' facts .processed)
    (acks : ∀ fact ∈ facts, ∃ ack, fact = .published task.delivery ack)
    (told : Justified (fun before => Told stringify (s.log ++ before)) facts) :
    s'.Logged stringify ∧ recordsOf s'.log = recordsOf s.log := by
  have none' : recordsOf facts = [] := by
    refine List.filterMap_eq_nil_iff.mpr fun fact member => ?_
    obtain ⟨ack, rfl⟩ := acks fact member
    rfl
  have silent : ∀ fact ∈ facts, ∀ correlationId, fact.decides correlationId = false := by
    intro fact member correlationId
    obtain ⟨ack, rfl⟩ := acks fact member
    rfl
  obtain ⟨answered, settled⟩ := answered_of_queued (logged.untouched found ready)
  refine ⟨logged.moved queued found moved ready.running (fun fact member => ?_)
    (fun record member => ?_) ⟨answered.grown fun member => ?_,
      settled.grown fun fact member _ => silent fact member⟩ told
    (logged.once_of_none silent), ?_⟩
  · obtain ⟨ack, rfl⟩ := acks fact member
    rfl
  · rw [none'] at member
    exact nomatch member
  · obtain ⟨ack, same⟩ := acks _ member
    exact nomatch same
  · rw [moved.log, recordsOf_append, none', List.append_nil]

/-- A task tells a fact and what follows from it; a command is not decided twice. -/
theorem Logged.tells (logged : s.Logged stringify) (queued : s.Queued)
    (found : s.tasks[task.delivery.number]? = some task) (running : task.stage.isFinished = false)
    {fact : RouterFact} {stage : Stage} (moved : Moved s task s' (fact :: facts) stage)
    (own : fact.delivery = task.delivery) (noRecord : fact.record = none)
    (told : Told stringify s.log fact) (first : ∀ correlationId, fact.decides correlationId = true →
      ∀ other ∈ s.log, other.decides correlationId = false)
    (rest : Fits stringify (s.log ++ [fact] ++ facts) task.delivery stage ∧
      Justified (fun before => Told stringify (s.log ++ [fact] ++ before)) facts ∧
      recordsOf facts = [] ∧ ∀ fact ∈ facts, fact.delivery = task.delivery ∧
        ∀ correlationId, fact.decides correlationId = false) :
    s'.Logged stringify ∧ recordsOf s'.log = recordsOf s.log := by
  obtain ⟨fits, justified, none', quiet⟩ := rest
  have noRecords : recordsOf (fact :: facts) = [] := by
    unfold recordsOf at none' ⊢
    rw [List.filterMap_cons_none noRecord, none']
  refine ⟨logged.moved queued found moved running (fun other member => ?_)
    (fun record member => ?_) ?_ (justified_cons.mpr ⟨?_, ?_⟩)
    (logged.once_of_first first fun other member => (quiet other member).2), ?_⟩
  · rcases List.mem_cons.mp member with rfl | member
    · exact own
    · exact (quiet other member).1
  · rw [noRecords] at member
    exact nomatch member
  · rwa [List.append_assoc, List.singleton_append] at fits
  · rw [List.append_nil]
    exact told
  · simpa only [List.append_assoc, List.singleton_append] using justified
  · rw [moved.log, recordsOf_append, noRecords, List.append_nil]

/-- The model has answered. -/
theorem Logged.returned (logged : s.Logged stringify) (queued : s.Queued)
    (found : s.tasks[task.delivery.number]? = some task) {fault : ConsumedFault}
    (running : task.stage = .running fault) (result : ModelResult) {stage : Stage}
    (acked : Acked stringify task result.ackOutcome (result.afterAck fault) facts stage)
    (moved : Moved s task s' (.returned task.delivery result :: facts) stage) :
    s'.Logged stringify ∧ recordsOf s'.log = recordsOf s.log := by
  obtain ⟨fresh, only⟩ : Fresh s.log task.delivery ∧ OnlyInvoked s.log task.delivery := by
    have fits := logged.fits _ task found
    rwa [running] at fits
  have here : .returned task.delivery result ∈ s.log ++ [.returned task.delivery result] :=
    List.mem_append_right _ List.mem_cons_self
  have due : Due (s.log ++ [.returned task.delivery result]) task.delivery
      (result.afterAck fault) := by
    cases result with
    | accepted state delayMs => exact ⟨state, delayMs, here⟩
    | rejected => trivial
    | threw => trivial
  exact logged.tells queued found (by rw [running]; rfl) moved rfl rfl only
    (fun _ decides => nomatch decides) (acked.spec (fresh.grown rfl) (fun _ => ⟨result, here⟩)
      (fun ack made => .inr ⟨result, here, made⟩) due)

/-- The timer of an acknowledgement has run out. -/
theorem Logged.woken (logged : s.Logged stringify) (queued : s.Queued)
    (found : s.tasks[task.delivery.number]? = some task) {next : AfterAck}
    (sleeping : task.stage = .sleeping ack next) (moved : Moved s task s' [] (.awake ack next)) :
    s'.Logged stringify := by
  have fits := logged.fits _ task found
  rw [sleeping] at fits
  refine logged.moved queued found moved (by rw [sleeping]; rfl) (fun _ member => nomatch member)
    (fun _ member => nomatch member) ?_ justified_nil
    (logged.once_of_none fun _ member => nomatch member)
  rw [List.append_nil]
  exact fits

theorem Logged.published (logged : s.Logged stringify) (queued : s.Queued)
    (found : s.tasks[task.delivery.number]? = some task) {next : AfterAck}
    (awake : task.stage = .awake ack next)
    (moved : Moved s task s' [.published task.delivery ack] (.acknowledged (some ack) next)) :
    s'.Logged stringify ∧ recordsOf s'.log = recordsOf s.log := by
  have fits := logged.fits _ task found
  rw [awake] at fits
  obtain ⟨fresh, answered, answers, due⟩ := fits
  refine logged.tells queued found (by rw [awake]; rfl) moved rfl rfl
    ⟨task.delivery, rfl, answers, .inl rfl⟩ (fun _ decides => nomatch decides)
    ⟨?_, justified_nil, rfl, fun _ member => nomatch member⟩
  rw [List.append_nil]
  refine ⟨fresh.grown rfl, answered.grown ?_, fun a same => ?_, due.grown _⟩
  · exact fun member => nomatch List.mem_singleton.mp member
  · cases same
    exact ⟨List.mem_append_right _ List.mem_cons_self, answers.grown _⟩

theorem mem_concluded {now : ℤ} {given : Option Acknowledgement} {next : AfterAck}
    {fact : RouterFact} (member : fact ∈ concluded task now given next) :
    (∃ patch options, fact = .updated task.delivery patch options ∧ next ≠ .record) ∨
      ∃ correlationId, task.delivery.command.correlationId = some correlationId ∧
        fact = .recorded task.delivery correlationId ⟨task.delivery.deviceKey, now, given⟩ := by
  unfold concluded at member
  rcases List.mem_append.mp member with update | record
  · cases next with
    | record => exact nomatch update
    | applyState state fault =>
        obtain ⟨made, -, rfl⟩ := List.mem_map.mp update
        exact .inl ⟨_, _, rfl, nofun⟩
  · obtain ⟨correlationId, named, rfl⟩ := List.mem_map.mp record
    exact .inr ⟨correlationId, Option.mem_toList.mp named, rfl⟩

theorem recordsOf_concluded (task : Task) (now : ℤ) (given : Option Acknowledgement)
    (next : AfterAck) : recordsOf (concluded task now given next) =
      task.delivery.command.correlationId.toList.map fun correlationId =>
        (correlationId, ⟨task.delivery.deviceKey, now, given⟩) := by
  have none' : recordsOf (updates task.delivery next) = [] := by
    refine List.filterMap_eq_nil_iff.mpr fun fact member => ?_
    cases next with
    | record => exact nomatch member
    | applyState state fault =>
        obtain ⟨made, -, rfl⟩ := List.mem_map.mp member
        rfl
  unfold concluded
  rw [recordsOf_append, none', List.nil_append]
  cases task.delivery.command.correlationId with
  | none => rfl
  | some correlationId => rfl

/-- The state is changed, and what has become of the command is recorded. -/
theorem Logged.conclude (logged : s.Logged stringify) (queued : s.Queued)
    (found : s.tasks[task.delivery.number]? = some task) {now : ℤ}
    {given : Option Acknowledgement} {next : AfterAck}
    (acknowledged : task.stage = .acknowledged given next)
    (moved : Moved s task s' (concluded task now given next) .processed) :
    s'.Logged stringify := by
  have fits := logged.fits _ task found
  rw [acknowledged] at fits
  obtain ⟨-, answered, own, due⟩ := fits
  have records := recordsOf_concluded task now given next
  refine logged.moved queued found moved (by rw [acknowledged]; rfl) (fun fact member => ?_)
    (fun record member => ?_) ⟨answered.grown fun member => ?_, ?_⟩ ?_
    (logged.once_of_none fun fact member => ?_)
  · rcases mem_concluded member with ⟨_, _, rfl, -⟩ | ⟨_, -, rfl⟩ <;> rfl
  · rw [records] at member
    obtain ⟨correlationId, named, rfl⟩ := List.mem_map.mp member
    exact ⟨Option.mem_toList.mp named, by rw [acknowledged]; rfl⟩
  · rcases mem_concluded member with ⟨_, _, same, -⟩ | ⟨_, -, same⟩ <;> exact nomatch same
  · intro fact member same correlationId decides
    have named := fact.id_of_decides decides
    have delivery : fact.delivery = task.delivery := by
      rcases List.mem_append.mp member with old | new
      · obtain ⟨other, there, delivery⟩ := logged.known fact old
        rw [same, found] at there
        obtain rfl := Option.some.inj there
        exact delivery.symm
      · rcases mem_concluded new with ⟨_, _, rfl, -⟩ | ⟨_, -, rfl⟩ <;> rfl
    rw [delivery] at named
    rw [recordsOf_append, records, named, List.map_append]
    exact List.mem_append_right _ List.mem_cons_self
  · intro before fact after split
    have member : fact ∈ concluded task now given next := by
      rw [split]
      exact List.mem_append_right _ List.mem_cons_self
    rcases mem_concluded member with ⟨patch, options, rfl, applies⟩ | ⟨correlationId, named, rfl⟩
    · cases next with
      | record => exact absurd rfl applies
      | applyState state fault => exact due.grown before
    · refine ⟨named, fun ack same => ?_⟩
      obtain ⟨told, answers⟩ := own ack same
      exact ⟨List.mem_append_left _ told, answers.grown before⟩
  · rcases mem_concluded member with ⟨_, _, rfl, -⟩ | ⟨_, -, rfl⟩ <;> exact fun _ => rfl

/-! ## Runs -/

/-- The three invariants together. -/
structure Kept (stringify : JsonObject → String) (s : SimulatorCommandRouter) : Prop where
  queued : s.Queued
  logged : s.Logged stringify
  remembers : s.Remembers

theorem Kept.move (kept : s.Kept stringify) {e : RouterEvent} (within : s.WithinDedupe e)
    (found : s.tasks[task.delivery.number]? = some task) {stage : Stage}
    {completed : OrderedMap String DedupeEntry}
    (move : Move stringify s task e facts stage completed) (moved : Moved s task s' facts stage)
    (same : s'.completed = completed) (maximum : s'.dedupeMaxEntries = s.dedupeMaxEntries) :
    s'.Logged stringify ∧ s'.Remembers := by
  obtain ⟨queued, logged, remembers⟩ := kept
  have keep (both : s'.Logged stringify ∧ recordsOf s'.log = recordsOf s.log)
      (completed : s'.completed = s.completed) : s'.Logged stringify ∧ s'.Remembers :=
    ⟨both.1, remembers.still both.2 completed maximum⟩
  cases move with
  | absent now ready =>
      exact keep (logged.dismiss queued found ready moved (fun _ member => nomatch member)
        justified_nil) same
  | resent now ready entry known =>
      obtain ⟨looked, known'⟩ := remembers.remembered found within
      obtain ⟨correlationId, named, member⟩ := (known' entry).mp known
      obtain ⟨decider, recorded⟩ := mem_recordsOf.mp member
      obtain ⟨before, after, split⟩ := List.append_of_mem recorded
      obtain ⟨sameId, own⟩ := logged.told before _ after split
      have grown : before ⊆ s.log := split ▸ List.subset_append_left ..
      refine keep (logged.dismiss queued found ready moved (fun fact member => ?_)
        fun before fact after split => ?_) (by rw [same, looked])
      · obtain ⟨ack, -, rfl⟩ := List.mem_map.mp member
        exact ⟨ack, rfl⟩
      · have member : fact ∈ entry.ack.toList.map (.published task.delivery) := by
          rw [split]
          exact List.mem_append_right _ List.mem_cons_self
        obtain ⟨ack, given, rfl⟩ := List.mem_map.mp member
        obtain ⟨published, answers⟩ := own ack (Option.mem_toList.mp given)
        exact ⟨decider, sameId.trans named.symm,
          answers.mono (List.Subset.trans grown (List.subset_append_left ..)),
          .inr (List.mem_append_left _ (grown published))⟩
  | unhandled now ready new =>
      exact keep (logged.dismiss queued found ready moved (fun _ member => nomatch member)
        justified_nil) (by rw [same, (remembers.remembered found within).1])
  | rejected now ready new reason acked =>
      have here : .rejected task.delivery reason ∈ s.log ++ [.rejected task.delivery reason] :=
        List.mem_append_right _ List.mem_cons_self
      have fresh := remembers.fresh found within new
      have untouched := logged.untouched found ready
      have answered := (answered_of_queued untouched).1
      refine keep (logged.tells queued found ready.running moved rfl rfl untouched
        (fun _ decides => logged.undecided queued found ready fresh _ (of_decide_eq_true decides))
        (acked.spec (fresh.grown rfl) (answered.grown fun member => ?_)
          (fun ack made => .inl ⟨reason, here, made⟩) trivial))
        (by rw [same, (remembers.remembered found within).1])
      exact nomatch List.mem_singleton.mp member
  | invoked now ready new fault =>
      have fresh := remembers.fresh found within new
      have untouched := logged.untouched found ready
      refine keep (logged.tells queued found ready.running moved rfl rfl
        ⟨untouched, fun other member same => ?_⟩
        (fun _ decides => logged.undecided queued found ready fresh _ (of_decide_eq_true decides))
        ⟨⟨?_, fun fact member same => ?_⟩, justified_nil, rfl, fun _ member => nomatch member⟩)
        (by rw [same, (remembers.remembered found within).1])
      · obtain ⟨before, answered, -⟩ := logged.before queued found ready member same
        exact ⟨before, answered member⟩
      · exact (fresh.grown rfl).grown rfl
      · rw [List.append_nil] at member
        rcases List.mem_append.mp member with old | new
        · exact absurd same (untouched fact old)
        · exact List.mem_singleton.mp new
  | returned fault running result acked =>
      exact keep (logged.returned queued found running result acked moved) same
  | woken sleeping =>
      exact keep ⟨logged.woken queued found sleeping moved, by rw [moved.log, List.append_nil]⟩ same
  | published now awake =>
      exact keep (logged.published queued found awake moved) same
  | concluded now acknowledged =>
      have fresh : Fresh s.log task.delivery := by
        have fits := logged.fits _ task found
        rw [acknowledged] at fits
        exact fits.1
      refine ⟨logged.conclude queued found acknowledged moved,
        remembers.remember now _ fresh ?_ same maximum⟩
      rw [moved.log, recordsOf_append, recordsOf_concluded]

/-- Nothing is told of a task that arrives. -/
theorem Logged.enqueue (logged : s.Logged stringify) {new : Task}
    (tasks : s'.tasks = s.tasks ++ [new]) (log : s'.log = s.log) (waits : new.stage = .queued)
    (arrived : new.delivery.number = s.tasks.length) (unique : ∀ correlationId,
      new.delivery.command.correlationId = some correlationId → ∀ task ∈ s.tasks,
        task.delivery.command.correlationId = some correlationId →
          task.delivery.deviceKey = new.delivery.deviceKey) : s'.Logged stringify := by
  have table := getElem?_concat (l := s.tasks) new
  rw [← tasks] at table
  have there (i : Nat) (a : Task) (there : s'.tasks[i]? = some a) :
      s.tasks[i]? = some a ∨ a = new := by
    rw [table] at there
    split at there
    · exact .inr (Option.some.inj there).symm
    · exact .inl there
  refine ⟨fun fact member => ?_, fun i a found => ?_, log ▸ logged.told, log ▸ logged.once,
    fun i j a b correlationId foundA foundB idA idB => ?_⟩
  · rw [log] at member
    obtain ⟨task, found, same⟩ := logged.known fact member
    refine ⟨task, ?_, same⟩
    rw [table, if_neg (Nat.ne_of_lt (List.getElem?_eq_some_iff.mp found).1)]
    exact found
  · rw [log]
    rcases there i a found with old | rfl
    · exact logged.fits i a old
    · rw [waits]
      intro fact member
      obtain ⟨task, found, -⟩ := logged.known fact member
      rw [arrived]
      exact Nat.ne_of_lt (List.getElem?_eq_some_iff.mp found).1
  · rcases there i a foundA with oldA | rfl
    · rcases there j b foundB with oldB | rfl
      · exact logged.oneDevice i j a b correlationId oldA oldB idA idB
      · exact unique correlationId idB a (List.mem_of_getElem? oldA) idA
    · rcases there j b foundB with oldB | rfl
      · exact (unique correlationId idA b (List.mem_of_getElem? oldB) idB).symm
      · rfl

theorem Kept.step (kept : s.Kept stringify) (parse : String → Option Json) {e : RouterEvent}
    (unique : s.UniqueIds parse e) (within : s.WithinDedupe e) :
    (s.step parse stringify e).Kept stringify := by
  have queued := kept.queued.step parse stringify e
  have steps := step_steps parse stringify kept.queued.numbered e
  generalize s.step parse stringify e = s' at queued steps ⊢
  cases steps with
  | aside timerBudget faults same =>
      rw [same] at queued ⊢
      obtain ⟨-, ⟨known, fits, told, once, oneDevice⟩, remembers⟩ := kept
      exact ⟨queued, ⟨known, fits, told, once, oneDevice⟩, remembers.still rfl rfl rfl⟩
  | enqueued topic payload packet now delivers device owner room same =>
      rw [same] at queued ⊢
      rw [delivers] at unique
      exact ⟨queued, kept.logged.enqueue rfl rfl rfl rfl (unique device owner),
        kept.remembers.still rfl rfl rfl⟩
  | moved task found facts stage completed timerBudget faults move same =>
      have moved : Moved s task s' facts stage := by
        rw [same]
        exact ⟨rfl, rfl⟩
      obtain ⟨logged, remembers⟩ := kept.move within found move moved (by rw [same]; rfl)
        (by rw [same]; rfl)
      exact ⟨queued, logged, remembers⟩
  | finished task found processed same =>
      rw [same] at queued ⊢
      have fits := kept.logged.fits _ task found
      rw [processed] at fits
      refine ⟨queued, kept.logged.moved kept.queued found
        ⟨rfl, (List.append_nil _).symm⟩ (by rw [processed]; rfl)
        (fun _ member => nomatch member) (fun _ member => nomatch member) ?_ justified_nil
        (kept.logged.once_of_none fun _ member => nomatch member), kept.remembers.still rfl rfl rfl⟩
      rw [List.append_nil]
      exact fits

theorem kept_ofDeps (stringify : JsonObject → String) (deps : SimulatorCommandRouterDeps) :
    (ofDeps deps).Kept stringify :=
  ⟨queued_ofDeps deps,
    { known := fun _ member => nomatch member
      fits := fun _ _ there => nomatch there
      told := justified_nil
      once := fun _ => Nat.zero_le 1
      oneDevice := fun _ _ _ _ _ there => nomatch there },
    ⟨List.nodup_nil, List.drop_nil.symm⟩⟩

/-- **Each correlated command is applied once, in order**, in every run in which the deliveries of
an id go to one device and come while the id, once decided, is remembered. -/
theorem commands_applied_once (parse : String → Option Json) (stringify : JsonObject → String)
    (deps : SimulatorCommandRouterDeps) {events : List RouterEvent}
    (unique : Along (step parse stringify) (UniqueIds parse) (ofDeps deps) events)
    (within : Along (step parse stringify) WithinDedupe (ofDeps deps) events) :
    ∀ before, before <+: events →
      AppliedOnce stringify (run (step parse stringify) (ofDeps deps) before) := by
  intro before grown
  have kept := invariant_throughout (fun s e (kept : s.Kept stringify) both =>
    kept.step parse both.1 both.2) (kept_ofDeps stringify deps) (unique.and within) before grown
  exact ⟨kept.logged.told, kept.logged.once, kept.queued.depth⟩

/-! ## Bounds -/

theorem Move.size_le {e : RouterEvent} {stage : Stage} {completed : OrderedMap String DedupeEntry}
    (move : Move stringify s task e facts stage completed) :
    completed.size ≤ max s.completed.size s.dedupeMaxEntries.toNat := by
  have looked (now : ℤ) : (s.remembered task now).1.completed.size ≤
      max s.completed.size s.dedupeMaxEntries.toNat := by
    refine le_max_of_le_left ?_
    unfold SimulatorCommandRouter.remembered lookupDedupe
    split
    · rfl
    next id _ =>
    have deleted := s.completed.size_add_of_delete id
    split
    · rfl
    · split
      · dsimp only
        omega
      · rfl
  cases move with
  | resent now | unhandled now | rejected now | invoked now => exact looked now
  | absent | returned | woken | published => exact le_max_left _ _
  | concluded now =>
      unfold SimulatorCommandRouter.remember
      split
      · exact le_max_left _ _
      · refine le_max_of_le_right ?_
        unfold recordDedupe observed OrderedMap.size
        dsimp only
        rw [entries_evictOldest _ _ _ rfl, List.length_drop, OrderedMap.size]
        omega

/-- No device has more unfinished commands than the queue may hold, and no more ids are remembered
than the map may. -/
structure Bounded (maxQueueDepth dedupeMaxEntries : ℤ) (s : SimulatorCommandRouter) : Prop where
  queued : s.Queued
  depthLimit : s.maxQueueDepth = maxQueueDepth
  entryLimit : s.dedupeMaxEntries = dedupeMaxEntries
  unfinished : ∀ deviceKey, s.unfinished deviceKey ≤ maxQueueDepth.toNat
  completed : s.completed.size ≤ dedupeMaxEntries.toNat

theorem Bounded.step {maxQueueDepth dedupeMaxEntries : ℤ}
    (bounded : s.Bounded maxQueueDepth dedupeMaxEntries) (parse : String → Option Json)
    (e : RouterEvent) : (s.step parse stringify e).Bounded maxQueueDepth dedupeMaxEntries := by
  have queued := bounded.queued.step parse stringify e
  have steps := step_steps parse stringify bounded.queued.numbered e
  obtain ⟨before, depthLimit, entryLimit, unfinished, completed⟩ := bounded
  generalize s.step parse stringify e = s' at queued steps ⊢
  cases steps with
  | aside timerBudget faults same =>
      rw [same] at queued ⊢
      exact ⟨queued, depthLimit, entryLimit, unfinished, completed⟩
  | enqueued topic payload packet now delivers device owner room same =>
      rw [same] at queued ⊢
      refine ⟨queued, depthLimit, entryLimit, fun deviceKey => ?_, completed⟩
      rw [← queued.depth]
      change ((s.queueDepth.set device.key _).get deviceKey).getD 0 ≤ _
      by_cases here : deviceKey = device.key
      · rw [here, OrderedMap.get_set_self, Option.getD_some]
        omega
      · rw [OrderedMap.get_set_of_ne _ _ here, before.depth]
        exact unfinished deviceKey
  | moved task found facts stage now timerBudget faults move same =>
      have size := move.size_le
      rw [same] at queued ⊢
      refine ⟨queued, depthLimit, entryLimit, fun deviceKey => ?_, ?_⟩
      · rw [← queued.depth]
        exact (before.depth deviceKey).trans_le (unfinished deviceKey)
      · rw [entryLimit] at size
        exact size.trans (max_le completed le_rfl)
  | finished task found processed same =>
      rw [same] at queued ⊢
      refine ⟨queued, depthLimit, entryLimit, fun deviceKey => ?_, completed⟩
      have count := @unfinished_set s (s.finish task) task found .finished rfl
        (by rw [processed]; rfl) deviceKey
      simp only [Stage.isFinished, reduceCtorEq, and_false, if_false, Nat.add_zero] at count
      exact (Nat.le_of_add_right_le count.le).trans (unfinished deviceKey)

/-- **An interaction storm is bounded**, whatever the order of the deliveries and of what is done
for them. -/
theorem storm_bounded (parse : String → Option Json) (stringify : JsonObject → String)
    (deps : SimulatorCommandRouterDeps) (events : List RouterEvent) (deviceKey : String) :
    let s := run (step parse stringify) (ofDeps deps) events
    s.unfinished deviceKey ≤ (deps.maxQueueDepth.getD 100).toNat ∧
      s.dedupeSize ≤ (deps.dedupeMaxEntries.getD 1000).toNat := by
  intro s
  have bounded : s.Bounded (deps.maxQueueDepth.getD 100) (deps.dedupeMaxEntries.getD 1000) :=
    run_invariant (fun _ e bounded => bounded.step parse e)
      ⟨queued_ofDeps deps, rfl, rfl, fun _ => Nat.zero_le _, Nat.zero_le _⟩ events
  exact ⟨bounded.unfinished deviceKey, bounded.completed⟩

/-! ## Two runs -/

instance decidableStillKept (dedupeTtlMs dedupeMaxEntries now : ℤ) (correlationId : String) :
    (records : List (String × DedupeEntry)) →
      Decidable (StillKept dedupeTtlMs dedupeMaxEntries now correlationId records)
  | [] => .isTrue trivial
  | record :: later =>
      have := decidableStillKept dedupeTtlMs dedupeMaxEntries now correlationId later
      inferInstanceAs (Decidable ((record.1 = correlationId →
        now - record.2.completedAt ≤ dedupeTtlMs ∧ (later.length : ℤ) < dedupeMaxEntries) ∧
        StillKept dedupeTtlMs dedupeMaxEntries now correlationId later))

instance (parse : String → Option Json) (s : SimulatorCommandRouter) (e : RouterEvent) :
    Decidable (s.UniqueIds parse e) := by
  unfold UniqueIds
  split <;> infer_instance

instance (s : SimulatorCommandRouter) (e : RouterEvent) : Decidable (s.WithinDedupe e) := by
  unfold WithinDedupe
  split <;> infer_instance

/-- One device. -/
def lamp (onCommand : Bool) : SimulatorCommandRouterDeps where
  registry :=
    { devices := .set .empty "lamp" ⟨⟨"lamp"⟩, ⟨onCommand⟩⟩
      commandTopics := .set .empty "lamp/set" "lamp" }
  maxDelayMs := 1000
  faults := some { maxDelayMs := 1000 }

def lampText : String := "\x7b\"correlationId\":\"c\",\"responseTopic\":\"replies\"\x7d"

/-- `JSON.parse`, of the one text. -/
def lampParse (text : String) : Option Json :=
  if text = lampText then
    some (.obj [("correlationId", .str "c"), ("responseTopic", .str "replies")])
  else none

/-- `JSON.stringify`, of the acknowledgements of `c`. -/
def lampAck (ack : JsonObject) : String :=
  match ack.get "success" with
  | some (.bool true) => "\x7b\"correlationId\":\"c\",\"success\":true\x7d"
  | _ => "\x7b\"correlationId\":\"c\",\"success\":false,\"error\":\"stuck\"\x7d"

/-- A command and a duplicate that arrives while the model runs. -/
theorem commands_applied_once_twice :
    AppliedOnce lampAck (run (step lampParse lampAck) (ofDeps (lamp true))
      [.deliver "lamp/set" lampText {} 0, .begin 0 0, .deliver "lamp/set" lampText {} 1,
        .modelReturns 0 (.accepted none none), .resume 0 2, .resume 0 2, .begin 1 3]) :=
  commands_applied_once lampParse lampAck (lamp true) (by decide +kernel) (by decide +kernel) _
    (List.prefix_refl _)

/-- A second delivery publishes only what was published before. -/
def Republishes (s : SimulatorCommandRouter) : Prop :=
  Justified (fun before fact => ∀ delivery ack, fact = .published delivery ack →
    (∃ task ∈ s.tasks, task.delivery.number < delivery.number ∧
      task.delivery.command.correlationId = delivery.command.correlationId) →
        ∃ other, .published other ack ∈ before) s.log

/-- A command for a model that takes none, a fault, and the command once more. -/
def ignored : List RouterEvent :=
  [.deliver "lamp/set" lampText {} 0, .begin 0 0, .resume 0 0,
    .arm "lamp" { rejectNext := some "stuck" }, .deliver "lamp/set" lampText {} 1, .begin 1 1]

def lampDelivery (number : Nat) (now : ℤ) : Delivery :=
  ⟨number, "lamp", parseCommand lampParse "lamp/set" lampText {} now⟩

theorem ignored_command_is_acknowledged :
    Along (step lampParse lampAck) (UniqueIds lampParse) (ofDeps (lamp false)) ignored ∧
      Along (step lampParse lampAck) WithinDedupe (ofDeps (lamp false)) ignored ∧
      ¬(run (step lampParse lampAck) (ofDeps (lamp false)) ignored).Republishes := by
  refine ⟨by decide +kernel, by decide +kernel, fun republishes => ?_⟩
  obtain ⟨other, member⟩ := republishes [.rejected (lampDelivery 1 1) "stuck"] _ [] rfl
    (lampDelivery 1 1)
    ⟨"replies", "\x7b\"correlationId\":\"c\",\"success\":false,\"error\":\"stuck\"\x7d", "c", false⟩
    rfl ⟨⟨lampDelivery 0 0, none, .finished⟩, List.mem_cons_self, Nat.zero_lt_one, rfl⟩
  cases List.mem_singleton.mp member

end SimulatorCommandRouter

end Aeolus.Simulator
