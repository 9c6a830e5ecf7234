/-
# Aeolus.Automations.CommandResultCollector — the results of each execution

`src/automations/command-result-collector.ts`, and `record` of the callbacks that
`src/automations/sandbox.ts` gives a script.

A buffer lives from the `open` of its execution to the `close`, and what is pushed for others
does not touch it (`close_returns`).  `Sandbox.execute` stops waiting at a deadline, and so an
action may answer after its execution was closed: `push` makes a buffer for its result, which
nothing closes.  When all executions are closed, the collector is empty if and only if every
result was followed by a `close` (`collector_released_iff`).

`script_buffer` connects the collector with `ScriptRun`: while a script runs, what is recorded
there is the buffer here.
-/
import Aeolus.Automations.ScriptRun

namespace Aeolus.Automations

open Aeolus.Theory

structure CommandResultCollector where
  buffers : OrderedMap String (List CommandResult) := .empty

namespace CommandResultCollector

variable (s : CommandResultCollector)

/-- `open` -/
def opens (executionId : String) : CommandResultCollector :=
  { s with buffers := s.buffers.set executionId [] }

def push (executionId : String) (result : CommandResult) : CommandResultCollector :=
  match s.buffers.get executionId with
  | none => { s with buffers := s.buffers.set executionId [result] }
  | some buffer => { s with buffers := s.buffers.set executionId (buffer ++ [result]) }

/-- `store` is what `context.getStore()` answers. -/
def pushCurrent (store : Option String) (result : CommandResult) : CommandResultCollector :=
  match store with
  | none => s
  | some executionId => s.push executionId result

def close (executionId : String) : List CommandResult × CommandResultCollector :=
  ((s.buffers.get executionId).getD [], { s with buffers := s.buffers.delete executionId })

/-- `record` of the sandbox: the execution was read when the script started. -/
def record (collectorExecutionId store : Option String) (result : CommandResult) :
    CommandResultCollector :=
  match collectorExecutionId with
  | some executionId => s.push executionId result
  | none => s.pushCurrent store result

inductive Event where
  | opens (executionId : String)
  | push (executionId : String) (result : CommandResult)
  | pushCurrent (store : Option String) (result : CommandResult)
  | record (collectorExecutionId store : Option String) (result : CommandResult)
  | close (executionId : String)

def step (s : CommandResultCollector) : Event → CommandResultCollector
  | .opens executionId => s.opens executionId
  | .push executionId result => s.push executionId result
  | .pushCurrent store result => s.pushCurrent store result
  | .record collectorExecutionId store result => s.record collectorExecutionId store result
  | .close executionId => (s.close executionId).2

/-! ## What is asked of it -/

/-- The execution that a result is pushed for. -/
def Event.pushes : Event → Option (String × CommandResult)
  | .push executionId result => some (executionId, result)
  | .pushCurrent store result => store.map (·, result)
  | .record collectorExecutionId store result => (collectorExecutionId.or store).map (·, result)
  | .opens _ => none
  | .close _ => none

def Event.pushesFor (executionId : String) (e : Event) : Option CommandResult :=
  e.pushes.bind fun p => if executionId = p.1 then some p.2 else none

/-- The results pushed for an execution, in order. -/
def pushedFor (executionId : String) (es : List Event) : List CommandResult :=
  es.filterMap (·.pushesFor executionId)

/-- Whenever an execution is closed, it gets what was pushed for it since it was opened. -/
def Attributed (es : List Event) : Prop :=
  ∀ before executionId between after,
    es = before ++ .opens executionId :: (between ++ .close executionId :: after) →
    .opens executionId ∉ between → .close executionId ∉ between →
      ((run step {} (before ++ .opens executionId :: between)).close executionId).1 =
        pushedFor executionId between

/-- Every execution that was opened is closed. -/
def AllClosed (es : List Event) : Prop :=
  ∀ before executionId after, es = before ++ .opens executionId :: after →
    .close executionId ∈ after

/-- No result comes when its execution is closed for good. -/
def InTime (es : List Event) : Prop :=
  ∀ before e after executionId result, es = before ++ e :: after →
    e.pushes = some (executionId, result) → .close executionId ∈ after

/-! ## One buffer -/

/-- What an event does to the buffer of one execution. -/
def bufferStep (executionId : String) (buffer : Option (List CommandResult)) (e : Event) :
    Option (List CommandResult) :=
  match e with
  | .opens id => if executionId = id then some [] else buffer
  | .close id => if executionId = id then none else buffer
  | e =>
      match e.pushesFor executionId with
      | some result => some (buffer.getD [] ++ [result])
      | none => buffer

theorem get_push (id executionId : String) (result : CommandResult) :
    (s.push id result).buffers.get executionId =
      if executionId = id then some ((s.buffers.get executionId).getD [] ++ [result])
      else s.buffers.get executionId := by
  unfold push
  split
  · rename_i none
    rw [OrderedMap.get_set]
    split
    · rename_i same
      rw [same, none]
      rfl
    · rfl
  · rename_i buffer found
    rw [OrderedMap.get_set]
    split
    · rename_i same
      rw [same, found]
      rfl
    · rfl

theorem get_step (executionId : String) (e : Event) :
    (step s e).buffers.get executionId = bufferStep executionId (s.buffers.get executionId) e := by
  have pushed : ∀ id result, (s.push id result).buffers.get executionId =
      match if executionId = id then some result else none with
      | some result => some ((s.buffers.get executionId).getD [] ++ [result])
      | none => s.buffers.get executionId := by
    intro id result
    rw [get_push]
    split <;> rfl
  cases e with
  | opens id => exact OrderedMap.get_set _ _ _ _
  | close id => exact OrderedMap.get_delete _ _ _
  | push id result => exact pushed id result
  | pushCurrent store result =>
      cases store with
      | none => rfl
      | some id => exact pushed id result
  | record captured store result =>
      cases captured with
      | some id => exact pushed id result
      | none =>
          cases store with
          | none => rfl
          | some id => exact pushed id result

theorem get_run (executionId : String) (es : List Event) :
    (run step s es).buffers.get executionId =
      run (bufferStep executionId) (s.buffers.get executionId) es := by
  induction es generalizing s with
  | nil => rfl
  | cons e es ih => rw [run_cons, run_cons, ih, get_step]

theorem pushedFor_cons (executionId : String) (e : Event) (es : List Event) :
    pushedFor executionId (e :: es) =
      (e.pushesFor executionId).toList ++ pushedFor executionId es := by
  unfold pushedFor
  rw [List.filterMap_cons]
  cases e.pushesFor executionId <;> rfl

/-- While it is not closed, a buffer grows by what is pushed. -/
theorem bufferStep_between {executionId : String} {es : List Event}
    (open_ : .opens executionId ∉ es) (closed : .close executionId ∉ es)
    (buffer : List CommandResult) :
    run (bufferStep executionId) (some buffer) es = some (buffer ++ pushedFor executionId es) := by
  induction es generalizing buffer with
  | nil => simp [pushedFor]
  | cons e es ih =>
      rw [List.mem_cons, not_or] at open_ closed
      have grows : bufferStep executionId (some buffer) e =
          some (buffer ++ (e.pushesFor executionId).toList) := by
        cases e with
        | opens id =>
            have other : executionId ≠ id := fun same => open_.1 (same ▸ rfl)
            simp [bufferStep, other, Event.pushesFor, Event.pushes]
        | close id =>
            have other : executionId ≠ id := fun same => closed.1 (same ▸ rfl)
            simp [bufferStep, other, Event.pushesFor, Event.pushes]
        | push | pushCurrent | record =>
            unfold bufferStep
            dsimp only
            split
            · rename_i result pushes
              rw [pushes]
              rfl
            · rename_i pushes
              rw [pushes, Option.toList_none, List.append_nil]
      rw [run_cons, grows, ih open_.2 closed.2, List.append_assoc, pushedFor_cons]

theorem close_returns (before between : List Event) (executionId : String)
    (open_ : .opens executionId ∉ between) (closed : .close executionId ∉ between) :
    ((run step s (before ++ .opens executionId :: between)).close executionId).1 =
      pushedFor executionId between := by
  unfold close
  rw [get_run, run_append, run_cons]
  have fresh : bufferStep executionId
      (run (bufferStep executionId) (s.buffers.get executionId) before) (.opens executionId) =
        some [] := if_pos rfl
  rw [fresh, bufferStep_between open_ closed, List.nil_append, Option.getD_some]

theorem attributed (es : List Event) : Attributed es :=
  fun before executionId between _ _ open_ closed =>
    close_returns {} before between executionId open_ closed

/-! ## What is left -/

/-- The event makes a buffer, or adds to one. -/
def Event.touches (executionId : String) (e : Event) : Prop :=
  e = .opens executionId ∨ e.pushesFor executionId ≠ none

theorem bufferStep_eq_none (executionId : String) (buffer : Option (List CommandResult))
    (e : Event) : bufferStep executionId buffer e = none ↔
      ¬e.touches executionId ∧ (buffer = none ∨ e = .close executionId) := by
  cases e with
  | opens id =>
      by_cases same : executionId = id
      · simp [bufferStep, Event.touches, same]
      · have other : ¬id = executionId := fun h => same h.symm
        simp [bufferStep, Event.touches, Event.pushesFor, Event.pushes, same, other]
  | close id =>
      by_cases same : executionId = id
      · simp [bufferStep, Event.touches, Event.pushesFor, Event.pushes, same]
      · have other : ¬id = executionId := fun h => same h.symm
        simp [bufferStep, Event.touches, Event.pushesFor, Event.pushes, same, other]
  | push | pushCurrent | record =>
      unfold bufferStep Event.touches
      dsimp only
      split
      · rename_i pushes
        simp [pushes]
      · rename_i pushes
        simp [pushes]

theorem bufferStep_still {executionId : String} {buffer : Option (List CommandResult)} {e : Event}
    (untouched : ¬e.touches executionId) (unclosed : e ≠ .close executionId) :
    bufferStep executionId buffer e = buffer := by
  cases e with
  | opens id => exact if_neg fun same => untouched (.inl (by rw [same]))
  | close id => exact if_neg fun same => unclosed (by rw [same])
  | push | pushCurrent | record =>
      unfold bufferStep
      dsimp only
      split
      · rename_i pushes
        exact absurd (.inr (by simp [pushes])) untouched
      · rfl

/-- A buffer is gone when the last that was done with it is a `close`. -/
theorem run_bufferStep_eq_none (executionId : String) (buffer : Option (List CommandResult))
    (es : List Event) : run (bufferStep executionId) buffer es = none ↔
      (buffer = none ∨ .close executionId ∈ es) ∧
        ∀ before e after, es = before ++ e :: after → e.touches executionId →
          .close executionId ∈ after := by
  induction es generalizing buffer with
  | nil => simp
  | cons e es ih =>
      rw [run_cons, ih, bufferStep_eq_none]
      constructor
      · rintro ⟨gone, closed⟩
        constructor
        · rcases gone with ⟨-, absent | rfl⟩ | later
          · exact .inl absent
          · exact .inr List.mem_cons_self
          · exact .inr (.tail _ later)
        · rintro before e' after split touched
          cases before with
          | nil =>
              obtain ⟨rfl, rfl⟩ := List.cons.inj split
              rcases gone with ⟨untouched, -⟩ | later
              · exact absurd touched untouched
              · exact later
          | cons first before =>
              exact closed before e' after (List.cons.inj split).2 touched
      · rintro ⟨gone, closed⟩
        refine ⟨?_, fun before e' after split touched => ?_⟩
        · by_cases touched : e.touches executionId
          · exact .inr (closed [] e es rfl touched)
          · rcases gone with absent | member
            · exact .inl ⟨touched, .inl absent⟩
            · rcases List.mem_cons.mp member with rfl | later
              · exact .inl ⟨touched, .inr rfl⟩
              · exact .inr later
        · exact closed (e :: before) e' after (by rw [split, List.cons_append]) touched

theorem buffers_eq_empty :
    s.buffers = .empty ↔ ∀ executionId, s.buffers.get executionId = none := by
  constructor
  · intro empty executionId
    rw [empty, OrderedMap.get_empty]
  · intro none
    apply OrderedMap.ext
    rw [OrderedMap.entries_empty, List.eq_nil_iff_forall_not_mem]
    rintro ⟨executionId, buffer⟩ member
    have held := OrderedMap.mem_entries.mp member
    rw [none] at held
    cases held

theorem pushesFor_ne_none {executionId : String} {e : Event} :
    e.pushesFor executionId ≠ none ↔ ∃ result, e.pushes = some (executionId, result) := by
  unfold Event.pushesFor
  cases e.pushes with
  | none => simp
  | some p =>
      by_cases same : executionId = p.1
      · subst same
        simp only [Option.bind_some]
        exact ⟨fun _ => ⟨p.2, rfl⟩, fun _ => Option.some_ne_none _⟩
      · have other : ∀ result, ¬p = (executionId, result) := by
          rintro result rfl
          exact same rfl
        simp [same, other]

/-- Results go to their own executions in every run; when all executions are closed, nothing
is left if and only if no result came too late. -/
theorem collector_released_iff (es : List Event) :
    Attributed es ∧
      (AllClosed es → ((run step {} es).buffers = .empty ↔ InTime es)) := by
  refine ⟨attributed es, fun allClosed => ?_⟩
  simp only [buffers_eq_empty, get_run, OrderedMap.get_empty, run_bufferStep_eq_none, true_or,
    true_and]
  constructor
  · intro gone before e after executionId result split pushes
    exact gone executionId before e after split (.inr (pushesFor_ne_none.mpr ⟨result, pushes⟩))
  · intro inTime executionId before e after split touched
    rcases touched with rfl | pushed
    · exact allClosed before executionId after split
    · obtain ⟨result, pushes⟩ := pushesFor_ne_none.mp pushed
      exact inTime before e after executionId result split pushes

/-- Two executions at a time, and both in time. -/
def interleaved : List Event :=
  [.opens "a", .opens "b", .push "b" { success := true },
    .record (some "a") none { success := false }, .close "b", .pushCurrent none { success := true },
    .close "a"]

theorem collector_released_iff_interleaved :
    Attributed interleaved ∧
      ((run step {} interleaved).buffers = .empty ↔ InTime interleaved) := by
  have closed : AllClosed interleaved := by
    rintro before executionId after split
    rcases before with _ | ⟨_, _ | ⟨_, _ | ⟨_, _ | ⟨_, _ | ⟨_, _ | ⟨_, _ | ⟨_, before⟩⟩⟩⟩⟩⟩⟩ <;>
      simp [interleaved] at split
    · obtain ⟨rfl, rfl⟩ := split
      simp
    · obtain ⟨-, rfl, rfl⟩ := split
      simp
  exact (collector_released_iff interleaved).imp_right fun released => released closed

/-- An action that answers when the wait for it is over. -/
def late : List Event := [.opens "a", .close "a", .record (some "a") none { success := true }]

theorem late_result_kept : AllClosed late ∧ (run step {} late).buffers ≠ .empty := by
  constructor
  · rintro before executionId after split
    rcases before with _ | ⟨_, _ | ⟨_, _ | ⟨_, before⟩⟩⟩ <;> simp [late] at split
    obtain ⟨rfl, rfl⟩ := split
    simp
  · intro empty
    have held := (buffers_eq_empty _).mp empty "a"
    cases held

/-! ## The buffer of a script -/

/-- What the host does for a script, as the collector sees it. -/
def hostEvents (executionId : String) (script : ScriptRun) : ScriptEvent → List Event
  | .records c result =>
      match script.calls[c]? with
      | some call =>
          if call.settled || (call.preflight && result.success) then []
          else [.record (some executionId) none result]
      | none => []
  | .closes =>
      match script.phase with
      | .ended _ => [.close executionId]
      | _ => []
  | _ => []

/-- A script, and what else happens to the collector. -/
def scriptStep (executionId : String) (pair : ScriptRun × CommandResultCollector) :
    ScriptEvent ⊕ Event → ScriptRun × CommandResultCollector
  | .inl e => (pair.1.step e, run step pair.2 (hostEvents executionId pair.1 e))
  | .inr e => (pair.1, step pair.2 e)

/-- Events of a script that neither record a result nor close it. -/
theorem step_aside (script : ScriptRun) (e : ScriptEvent)
    (unrecorded : ∀ c result, e ≠ .records c result) (unclosed : e ≠ .closes) :
    (script.step e).collected = script.collected ∧
      ((script.step e).isClosed = false → script.isClosed = false) := by
  cases e with
  | records c result => exact absurd rfl (unrecorded c result)
  | closes => exact absurd rfl unclosed
  | automation config =>
      simp only [ScriptRun.step]
      split <;> exact ⟨rfl, id⟩
  | issue body preflight =>
      cases body with
      | none =>
          simp only [ScriptRun.step]
          split <;> exact ⟨rfl, id⟩
      | some b =>
          simp only [ScriptRun.step]
          split
          · split <;> exact ⟨rfl, id⟩
          · exact ⟨rfl, id⟩
  | settles | delivers | actionReturns | actionThrows =>
      simp only [ScriptRun.step]
      split
      · split <;> exact ⟨rfl, id⟩
      · exact ⟨rfl, id⟩
  | scriptReturns | scriptThrows | awaitAutomations =>
      simp only [ScriptRun.step]
      split
      · rename_i phase
        exact ⟨rfl, fun _ => by simp [ScriptRun.isClosed, phase]⟩
      · exact ⟨rfl, id⟩
  | expires =>
      simp only [ScriptRun.step]
      split <;> exact ⟨rfl, id⟩
  | bodiesDone | drained =>
      simp only [ScriptRun.step]
      split
      · rename_i phase
        refine ⟨?_, fun _ => by simp [ScriptRun.isClosed, phase]⟩
        split
        · rfl
        · split <;> rfl
      · exact ⟨rfl, id⟩

/-- While a script is not closed, its events do to the buffer what they do to `collected`. -/
theorem hostEvents_buffer (executionId : String) {script : ScriptRun} {e : ScriptEvent}
    (live : (script.step e).isClosed = false) :
    script.isClosed = false ∧
      run (bufferStep executionId) (some script.collected) (hostEvents executionId script e) =
        some (script.step e).collected := by
  have aside := step_aside script e
  cases e with
  | records c result =>
      simp only [ScriptRun.step, hostEvents] at live ⊢
      cases called : script.calls[c]? with
      | none =>
          rw [called] at live
          exact ⟨live, rfl⟩
      | some call =>
          rw [called] at live
          dsimp only at live ⊢
          have running : script.isClosed = false := by
            split at live <;> exact live
          refine ⟨running, ?_⟩
          rw [running, Bool.or_false]
          split
          · rfl
          · have pushed : bufferStep executionId (some script.collected)
                (.record (some executionId) none result) = some (script.collected ++ [result]) := by
              simp [bufferStep, Event.pushesFor, Event.pushes]
            exact pushed
  | closes =>
      cases phase : script.phase with
      | ended outcome => simp [ScriptRun.step, ScriptRun.isClosed, phase] at live
      | _ =>
          simp only [ScriptRun.step, hostEvents, phase] at live ⊢
          exact ⟨live, rfl⟩
  | automation | issue | settles | delivers | actionReturns | actionThrows | scriptReturns
  | scriptThrows | awaitAutomations | expires | bodiesDone | drained =>
      obtain ⟨same, before⟩ := aside (fun _ _ => by simp) (by simp)
      rw [same]
      exact ⟨before live, rfl⟩

/-- While the script is not closed, its buffer is what it has collected. -/
def Buffered (executionId : String) (pair : ScriptRun × CommandResultCollector) : Prop :=
  pair.1.isClosed = false → pair.2.buffers.get executionId = some pair.1.collected

/-- What else happens is about other executions. -/
def Apart (executionId : String) (_ : ScriptRun × CommandResultCollector) :
    ScriptEvent ⊕ Event → Prop
  | .inl _ => True
  | .inr e => ¬e.touches executionId ∧ e ≠ .close executionId

theorem Buffered.step {executionId : String} {pair : ScriptRun × CommandResultCollector}
    {e : ScriptEvent ⊕ Event} (buffered : Buffered executionId pair)
    (apart : Apart executionId pair e) : Buffered executionId (scriptStep executionId pair e) := by
  intro live
  cases e with
  | inl e =>
      obtain ⟨before, grown⟩ := hostEvents_buffer executionId live
      rw [scriptStep, get_run, buffered before]
      exact grown
  | inr e =>
      have buffer := buffered live
      dsimp only [scriptStep] at buffer ⊢
      rw [get_step, buffer, bufferStep_still apart.1 apart.2]

/-- **The collector of a script.**  Whatever else happens to the collector, as long as the script
is not closed its buffer is what it has collected, and this is what closing it returns. -/
theorem script_buffer (executionId : String) {es : List (ScriptEvent ⊕ Event)}
    (others : ∀ e ∈ es, ∀ pair, Apart executionId pair e) :
    let pair := run (scriptStep executionId) ({}, opens s executionId) es
    pair.1.isClosed = false → pair.2.buffers.get executionId = some pair.1.collected ∧
      (pair.2.close executionId).1 = pair.1.collected := by
  intro pair live
  have start : Buffered executionId ({}, opens s executionId) :=
    fun _ => OrderedMap.get_set_self _ _ _
  have buffered : Buffered executionId pair :=
    invariant_along (fun _ _ => Buffered.step) start (along_of_forall others _)
  exact ⟨buffered live, by rw [close, buffered live, Option.getD_some]⟩

/-- Imperative code makes a call, and another script opens. -/
theorem script_buffer_beside_another :
    let pair := run (scriptStep "a") ({}, opens {} "a") [.inl (.issue none false),
      .inr (.opens "b"), .inl (.records 0 { success := true })]
    pair.2.buffers.get "a" = some pair.1.collected ∧
      (pair.2.close "a").1 = pair.1.collected :=
  script_buffer {} "a" (by simp [Apart, Event.touches, Event.pushesFor, Event.pushes]) rfl

end CommandResultCollector

end Aeolus.Automations
