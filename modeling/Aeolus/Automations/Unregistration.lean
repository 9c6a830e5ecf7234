/-
# Aeolus.Automations.Unregistration — the last execution of a rule

`unregister` stops the rule's timer and removes it from the registry, so no event, timer
or manual fire submits a request for it again.  It does not look at the gate: a request
that waits there has captured the rule, and whichever execution completes next may give
it a slot (`queued_request_outlives_rule`).

Whether that can happen is decided by the rule's queue when it is unregistered: no
execution of the rule starts in any continuation if and only if the queue is empty
(`no_start_after_unregister_iff`), or the gate has no slot to give.
-/
import Aeolus.Automations.AutomationEngine

namespace Aeolus.Automations.AutomationEngine

open Aeolus.Theory
open ExecutionGate

variable {cfg : EngineConfig} {engine : AutomationEngine}

/-! ## Starts, by rule -/

/-- The execution of a queued entry is one of its rule. -/
theorem Coherent.ruleId_of_queued (coherent : Coherent cfg engine) {r : String} {e : QueuedEntry}
    (waits : e ∈ engine.queueOf r) :
    ∃ execution, engine.executions[e.request.execute]? = some execution ∧ execution.ruleId = r := by
  obtain ⟨c, call, same, -⟩ := coherent.accounted.recorded r e waits
  obtain ⟨execution, found, rule⟩ := coherent.ruleId_eq call
  refine ⟨execution, found, ?_⟩
  rw [rule, same]
  exact coherent.accounted.wf.ruleId_of_mem waits

/-- A submission starts at most the execution it adds, and only into a free slot. -/
theorem started_submit (cfg : EngineConfig) (engine : AutomationEngine) (execution : RuleExecution)
    (request : ExecutionRequest) (now : Nat) :
    ∃ new, (engine.submit cfg execution request now).started = engine.started ++ new ∧
      ∀ i ∈ new, i = engine.history.calls.length ∧
        engine.history.gate.activeSet.size < cfg.gate.maxActive := by
  obtain ⟨result, slot, cases, -⟩ := submitted cfg engine execution request now
  unfold started
  generalize (engine.submit cfg execution request now).history.gate = g at cases
  cases cases with
  | admitted clear new free =>
      refine ⟨[engine.history.calls.length], rfl, fun i mem => ⟨?_, free⟩⟩
      exact List.mem_singleton.mp mem
  | _ => exact ⟨[], (List.append_nil _).symm, nofun⟩

theorem Coherent.started_lt (coherent : Coherent cfg engine) {i : Nat} (ran : i ∈ engine.started) :
    i < engine.executions.length := by
  rw [coherent.length_eq]
  exact coherent.accounted.tracked.lt (mem_timeline_of_started ran)

/-- Submitting for another rule. -/
theorem Coherent.startedOf_submit (coherent : Coherent cfg engine) {execution : RuleExecution}
    {r : String} (other : execution.ruleId ≠ r) (request : ExecutionRequest) (now : Nat) :
    (engine.submit cfg execution request now).startedOf r = engine.startedOf r := by
  obtain ⟨new, started, added⟩ := started_submit cfg engine execution request now
  have old : ∀ i ∈ engine.started, (engine.executions ++ [execution])[i]? =
      engine.executions[i]? := fun i ran =>
    List.getElem?_append_left (coherent.started_lt ran)
  have none : new.filter (fun i => (engine.executions ++ [execution])[i]?.any (·.ruleId = r)) =
      [] := by
    refine List.filter_eq_nil_iff.mpr fun i mem => ?_
    rw [(added i mem).1, ← coherent.length_eq, List.getElem?_concat_length]
    simpa using other
  calc (engine.submit cfg execution request now).startedOf r
      _ = (engine.started ++ new).filter
            (fun i => (engine.executions ++ [execution])[i]?.any (·.ruleId = r)) := by
        rw [startedOf, started]
        rfl
      _ = engine.started.filter
            (fun i => (engine.executions ++ [execution])[i]?.any (·.ruleId = r)) := by
        rw [List.filter_append, none, List.append_nil]
      _ = engine.startedOf r := List.filter_congr fun i ran => by rw [old i ran]

/-- A completion starts the entries it promotes: they waited, and they fit into the slots. -/
theorem Coherent.started_completes (coherent : Coherent cfg engine) (handle : Handle) :
    ∃ promoted : List QueuedEntry, (engine.completes cfg handle).started =
      engine.started ++ promoted.map (·.request.execute) ∧
      (∀ e ∈ promoted, ∃ r, e ∈ engine.queueOf r) ∧ promoted.length ≤ cfg.gate.maxActive := by
  have wf := coherent.accounted.wf
  show ∃ promoted : List QueuedEntry,
    (engine.history.gate.complete cfg.gate handle).started = _ ∧ _
  unfold Gate.complete
  split
  · exact ⟨[], (List.append_nil _).symm, nofun, Nat.zero_le _⟩
  · rename_i entry _
    refine ⟨_, (Gate.drain_spec cfg.gate (Gate.release_wf wf handle entry)).started,
      fun e mem => ?_, ?_⟩
    · exact Gate.mem_queued.mp (Gate.mem_backlog.mp (List.mem_of_mem_take mem))
    · exact (List.length_take_le _ _).trans (Nat.sub_le _ _)

/-! ## A rule that is gone -/

/-- Nothing is left of the rule: no registration, no timer, no request that waits. -/
structure Gone (engine : AutomationEngine) (r : String) : Prop where
  rules : engine.registry.rules.get r = none
  armed : engine.armed.get r = none
  queue : engine.queueOf r = []

theorem Gone.not_known {r : String} (gone : Gone engine r) : ¬ engine.Knows r := by
  rintro (registered | captured)
  · rw [gone.rules] at registered
    cases registered
  · rw [gone.armed] at captured
    cases captured

/-- What an event that does not register the rule again leaves as it is. -/
structure Ended (cfg : EngineConfig) (r : String) (ran : List Nat) (engine : AutomationEngine) :
    Prop where
  coherent : Coherent cfg engine
  gone : Gone engine r
  startedOf : engine.startedOf r = ran

theorem Ended.submit {r : String} {ran : List Nat} (ended : Ended cfg r ran engine)
    {execution : RuleExecution} {request : ExecutionRequest}
    (own : request.ruleId = execution.ruleId) (other : execution.ruleId ≠ r) (now : Nat) :
    Ended cfg r ran (engine.submit cfg execution request now) where
  coherent := ended.coherent.submit own now
  gone :=
    { rules := ended.gone.rules
      armed := ended.gone.armed
      queue := (queueOf_submit (own ▸ other) now).trans ended.gone.queue }
  startedOf := (ended.coherent.startedOf_submit other request now).trans ended.startedOf

theorem Ended.completes {r : String} {ran : List Nat} (ended : Ended cfg r ran engine)
    (handle : Handle) : Ended cfg r ran (engine.completes cfg handle) where
  coherent := ended.coherent.completes handle
  gone :=
    { rules := ended.gone.rules
      armed := ended.gone.armed
      queue := by
        have sublist := Gate.complete_sublist cfg.gate ended.coherent.accounted.wf handle r
        rw [show engine.history.gate.queueOf r = [] from ended.gone.queue] at sublist
        exact List.sublist_nil.mp sublist }
  startedOf := by
    obtain ⟨promoted, started, waited, -⟩ := ended.coherent.started_completes handle
    have none : (promoted.map (·.request.execute)).filter
        (fun i => engine.executions[i]?.any (·.ruleId = r)) = [] := by
      refine List.filter_eq_nil_iff.mpr fun i mem => ?_
      obtain ⟨e, promotedE, rfl⟩ := List.mem_map.mp mem
      obtain ⟨r', waits⟩ := waited e promotedE
      obtain ⟨execution, found, rule⟩ := ended.coherent.ruleId_of_queued waits
      have other : r' ≠ r := by
        rintro rfl
        rw [ended.gone.queue] at waits
        cases waits
      rw [found]
      simpa [rule] using other
    rw [AutomationEngine.startedOf, started, List.filter_append]
    show _ ++ (promoted.map (·.request.execute)).filter
      (fun i => engine.executions[i]?.any (·.ruleId = r)) = _
    rw [none, List.append_nil]
    exact ended.startedOf

/-- A registration starts at most its own timer. -/
theorem armed_register {r id : String} (other : r ≠ id) (rule : Rule) :
    (engine.register cfg id rule).armed.get r = engine.armed.get r := by
  unfold register
  simp only
  split
  · split
    · exact OrderedMap.get_set_of_ne _ _ other
    · rfl
  · rfl

theorem Ended.step {r : String} {ran : List Nat} (ended : Ended cfg r ran engine) {e : EngineEvent}
    (again : ¬ e.Registers r) : Ended cfg r ran (engine.step cfg e) := by
  refine step_rec (P := Ended cfg r ran) ended ?_ ended.completes ?_ ?_
  · intro before execution request now kept own known
    refine kept.submit own ?_ now
    rintro rfl
    exact ended.gone.not_known known
  · rintro id rule rfl
    have other : r ≠ id := fun same => again same.symm
    refine ⟨⟨ended.coherent.accounted, ended.coherent.numbered⟩, ⟨?_, ?_, ended.gone.queue⟩,
      ended.startedOf⟩
    · exact (OrderedMap.get_set_of_ne _ _ other).trans ended.gone.rules
    · exact (armed_register other rule).trans ended.gone.armed
  · intro ruleId
    refine ⟨⟨ended.coherent.accounted, ended.coherent.numbered⟩, ⟨?_, ?_, ended.gone.queue⟩,
      ended.startedOf⟩
    · show (engine.registry.rules.delete ruleId).get r = none
      rw [OrderedMap.get_delete, ended.gone.rules, ite_self]
    · show (engine.armed.delete ruleId).get r = none
      rw [OrderedMap.get_delete, ended.gone.armed, ite_self]

/-! ## A gate without slots -/

/-- Nothing is active and nothing has started. -/
structure Still (cfg : EngineConfig) (engine : AutomationEngine) : Prop where
  coherent : Coherent cfg engine
  started : engine.started = []

theorem Still.step (closed : cfg.gate.maxActive = 0) (still : Still cfg engine) (e : EngineEvent) :
    Still cfg (engine.step cfg e) := by
  have frame : ∀ {after : AutomationEngine}, Coherent cfg after → after.history = engine.history →
      Still cfg after := by
    intro after coherent same
    refine ⟨coherent, ?_⟩
    rw [AutomationEngine.started, same]
    exact still.started
  refine step_rec (P := Still cfg) still (fun before execution request now kept own _ => ?_)
    (fun handle => ?_) (fun id rule _ => ?_) fun ruleId => ?_
  · refine ⟨kept.coherent.submit own now, ?_⟩
    obtain ⟨new, started, added⟩ := started_submit cfg before execution request now
    have none : new = [] := List.eq_nil_iff_forall_not_mem.mpr fun i mem => by
      have free := (added i mem).2
      omega
    rw [started, none, List.append_nil]
    exact kept.started
  · obtain ⟨promoted, started, -, fits⟩ := still.coherent.started_completes handle
    have none : promoted = [] := List.length_eq_zero_iff.mp (by omega)
    refine ⟨still.coherent.completes handle, ?_⟩
    rw [started, none, List.map_nil, List.append_nil]
    exact still.started
  · exact frame ⟨still.coherent.accounted, still.coherent.numbered⟩ rfl
  · exact frame ⟨still.coherent.accounted, still.coherent.numbered⟩ rfl

/-! ## A request that waits -/

/-- While something waits, a completion takes it forward. -/
theorem Coherent.exists_progress (coherent : Coherent cfg engine) (one : 1 ≤ cfg.gate.maxActive)
    (waiting : engine.history.gate.queued ≠ []) :
    ∃ handle, (engine.completes cfg handle).history.gate.queued.length <
      engine.history.gate.queued.length := by
  have accounted := coherent.accounted
  have active := accounted.busy one waiting
  rw [← OrderedMap.length_values] at active
  obtain ⟨entry, mem⟩ := List.exists_mem_of_length_pos active
  obtain ⟨handle, found⟩ := OrderedMap.mem_values.mp mem
  refine ⟨handle, ?_⟩
  have drained := Gate.drain_spec cfg.gate (Gate.release_wf accounted.wf handle entry)
  have after : engine.history.gate.complete cfg.gate handle =
      (engine.history.gate.release handle entry).drain cfg.gate := by
    simp [Gate.complete, found]
  have shrunk : (engine.history.gate.release handle entry).activeSet.size + 1 =
      engine.history.gate.activeSet.size := OrderedMap.size_delete_of_get found
  have left := congrArg List.length drained.backlog
  rw [← after, List.length_drop, Gate.length_backlog, Gate.length_backlog] at left
  have capacity := accounted.capacity
  have nonempty := List.length_pos_iff.mpr waiting
  have same : (engine.history.gate.release handle entry).queued = engine.history.gate.queued := rfl
  show (engine.history.gate.complete cfg.gate handle).queued.length < _
  rw [left, same]
  omega

/-- Completions alone empty the queues, start what waited, and register nothing. -/
theorem Coherent.exists_drained (coherent : Coherent cfg engine) (one : 1 ≤ cfg.gate.maxActive) :
    ∃ after : List EngineEvent, (∀ e ∈ after, ∃ handle, e = .completes handle) ∧
      (run (step cfg) engine after).started = engine.history.gate.timeline ∧
      (run (step cfg) engine after).executions = engine.executions := by
  induction size : engine.history.gate.queued.length using Nat.strong_induction_on
    generalizing engine with
  | _ n ih =>
    by_cases waiting : engine.history.gate.queued = []
    · refine ⟨[], fun e mem => absurd mem List.not_mem_nil, ?_, rfl⟩
      exact (timeline_of_drained (queued_eq_nil.mp waiting)).symm
    · obtain ⟨handle, fewer⟩ := coherent.exists_progress one waiting
      rw [size] at fewer
      obtain ⟨rest, completions, started, executions⟩ :=
        ih _ fewer (coherent.completes handle) rfl
      refine ⟨.completes handle :: rest, fun e mem => ?_, ?_, ?_⟩
      · rcases List.mem_cons.mp mem with rfl | mem
        · exact ⟨handle, rfl⟩
        · exact completions e mem
      · rw [run_cons]
        exact started.trans (Gate.timeline_complete cfg.gate coherent.accounted.wf handle)
      · rw [run_cons]
        exact executions

theorem Coherent.exists_start (coherent : Coherent cfg engine) (one : 1 ≤ cfg.gate.maxActive)
    {r : String} (waiting : engine.queueOf r ≠ []) :
    ∃ after : List EngineEvent, (∀ e ∈ after, ¬ e.Registers r) ∧
      (run (step cfg) engine after).startedOf r ≠ engine.startedOf r := by
  obtain ⟨after, completions, started, executions⟩ := coherent.exists_drained one
  refine ⟨after, fun e mem => ?_, fun same => ?_⟩
  · obtain ⟨handle, rfl⟩ := completions e mem
    exact id
  · obtain ⟨entry, waits⟩ := List.exists_mem_of_ne_nil _ waiting
    obtain ⟨execution, found, rule⟩ := coherent.ruleId_of_queued waits
    have later : entry.request.execute ∈ (run (step cfg) engine after).startedOf r := by
      refine List.mem_filter.mpr ⟨?_, ?_⟩
      · rw [started]
        exact mem_timeline_of_queueOf waits
      · rw [executions, found]
        simpa using rule
    -- an entry that waits has not started: the timeline names it once
    rw [same] at later
    have ran := (List.mem_filter.mp later).1
    have apart := (List.nodup_append.mp coherent.accounted.tracked.nodup).2.2
    refine apart _ ran _ (List.mem_map.mpr ⟨entry, ?_, rfl⟩) rfl
    exact Gate.mem_backlog.mpr (Gate.mem_queued.mpr ⟨r, waits⟩)

/-! ## Runs -/

theorem run_coherent (cfg : EngineConfig) (events : List EngineEvent) :
    Coherent cfg (run (step cfg) {} events) :=
  run_invariant (fun _ e coherent => step_coherent e coherent)
    (coherent_empty cfg {} .empty) events

/-- **The end of a rule, exactly.**  After `unregister`, and as long as the rule is not
registered again, none of its executions starts in any continuation of the run if and
only if none of its requests waits in the gate at that time. -/
theorem no_start_after_unregister_iff (cfg : EngineConfig) (before : List EngineEvent)
    (r : String) :
    (∀ after : List EngineEvent, (∀ e ∈ after, ¬ e.Registers r) →
      (run (step cfg) {} (before ++ .unregister r :: after)).startedOf r =
        (run (step cfg) {} before).startedOf r) ↔
    (run (step cfg) {} before).queueOf r = [] ∨ cfg.gate.maxActive = 0 := by
  have coherent := run_coherent cfg before
  generalize reached : run (step cfg) {} before = engine at coherent
  have continued : ∀ after, run (step cfg) {} (before ++ .unregister r :: after) =
      run (step cfg) (engine.unregister r) after := by
    intro after
    rw [run_append, reached]
    rfl
  constructor
  · intro never
    by_contra some
    push Not at some
    obtain ⟨waiting, slots⟩ := some
    have unregistered := step_coherent (.unregister r) coherent
    obtain ⟨after, quiet, starts⟩ :=
      unregistered.exists_start (Nat.one_le_iff_ne_zero.mpr slots) waiting
    refine starts ((congrArg (startedOf · r) (continued after)).symm.trans ?_)
    exact never after quiet
  · rintro (none | closed) after quiet
    · have ended : Ended cfg r (engine.startedOf r) (engine.unregister r) :=
        { coherent := step_coherent (.unregister r) coherent
          gone :=
            { rules := OrderedMap.get_delete_self _ _
              armed := OrderedMap.get_delete_self _ _
              queue := none }
          startedOf := rfl }
      rw [continued]
      have along : Along (step cfg) (fun _ e => ¬ e.Registers r) (engine.unregister r) after :=
        along_of_forall (fun e mem _ => quiet e mem) _
      exact (invariant_along (fun _ _ kept again => kept.step again) ended along).startedOf
    · have silent : ∀ events : List EngineEvent,
          (run (step cfg) {} events).startedOf r = [] := by
        intro events
        have still : Still cfg (run (step cfg) {} events) :=
          run_invariant (fun _ e kept => kept.step closed e) ⟨coherent_empty cfg {} .empty, rfl⟩
            events
        rw [startedOf, still.started]
        rfl
      rw [silent, ← reached, silent]

/-! Two rules, and one slot. -/

def oneSlot : EngineConfig where
  gate := ⟨1, 3⟩
  isValidCron := fun _ => true
  coercion := ⟨fun _ => "", fun _ => none⟩

def onTopic (topic : String) : Rule where
  topic
  name := topic
  condition := none
  action := .script "true"
  triggerType := "mqtt"
  cronExpression := none

def deviceEvent (deviceId topic : String) (now : Nat) : EngineEvent :=
  .deviceStateChange ⟨deviceId, .empty, topic, now, none⟩ { now := fun _ => now }

/-- The request of `b` waits behind the execution of `a`; `b` is unregistered, and the
completion of `a` starts it. -/
theorem queued_request_outlives_rule :
    ¬ ∀ (cfg : EngineConfig) (before after : List EngineEvent) (r : String),
      (∀ e ∈ after, ¬ e.Registers r) →
      (run (step cfg) {} (before ++ .unregister r :: after)).startedOf r =
        (run (step cfg) {} before).startedOf r := by
  intro always
  have bad := always oneSlot
    [.register "a" (onTopic "lamp"), .register "b" (onTopic "door"),
      deviceEvent "lamp-1" "lamp" 10, deviceEvent "door-1" "door" 11]
    [.completes 0] "b" (fun e mem => by rw [List.mem_singleton.mp mem]; exact id)
  exact absurd bad (by decide)

end Aeolus.Automations.AutomationEngine
