/-
# Aeolus.Simulator.TimerConservation — every slot of the budget is somebody's

The slots that are taken are those of the delayed updates, the running transitions and the
acknowledgements held back, whatever is called from within what (`Slots`); a transition
settles once, and its callback is called once (`Flags`).

What fails is that nothing is published behind the end.  A step asks whether its transition
has settled before it calls `frame`, and not after: a frame that cancels its own transition,
or replaces it, is still published.  `timer_budget_conserved_iff` says that this is all.
-/
import Aeolus.Simulator.StateController
import Aeolus.Theory.History
import Aeolus.Theory.Run

namespace Aeolus.Simulator

open Aeolus.Core Aeolus.Theory

/-! ## What is to hold -/

/-- The fact is a call of `onSettled`. -/
def Fact.answers (t : Nat) : Fact → Bool
  | .onSettled other _ => other = t
  | _ => false

/-- No frame of a transition is published behind the end of it. -/
def Final : List Fact → Prop :=
  Justified fun before fact =>
    ∀ t publication, fact = .published (some t) publication → .settled t ∉ before

/-- The transition has come to an end that calls back. -/
def RunningTransition.answered (running : RunningTransition) : Bool :=
  running.settled && running.options.onSettled && running.course != .refused

namespace SimulatorRuntime

def outstanding (s : SimulatorRuntime) : Nat :=
  (s.controllers.map fun controller =>
    controller.pendingTimerCount + controller.activeTransitionCount).sum + s.ackTimers.length

/-- The transition is on its way, a step at a time. -/
def OnItsWay (s : SimulatorRuntime) (c t : Nat) : Prop :=
  ∃ running, s.started[t]? = some running ∧ running.controller = c ∧
    running.course = .scheduled ∧ running.settled = false

structure Conserved (limit : Nat) (s : SimulatorRuntime) : Prop where
  slots : s.budget.active = s.outstanding
  bounded : s.budget.active ≤ limit
  /-- the controllers count the transitions that are on their way -/
  running : ∀ c controller, s.controllers[c]? = some controller →
    controller.transitions.Nodup ∧ ∀ t, t ∈ controller.transitions ↔ s.OnItsWay c t
  final : Final s.log
  once : ∀ t running, s.started[t]? = some running →
    (s.log.filter (Fact.answers t)).length = if running.answered then 1 else 0

/-- A frame that returns a patch has not ended its own transition, unless the publication is
not forced and the text of the patched state is the one published last. -/
def FrameKept (stringify : JsonObject → String) (s : SimulatorRuntime) : Event → Prop
  | .returned (some patch) =>
      match s.stack with
      | .frame t :: _ =>
          ∀ running controller, s.lookup t = some (running, controller) →
            running.settled = true → running.options.force = false ∧
              controller.lastPublishedPayload = some (stringify (controller.current.merge patch))
      | _ => True
  | _ => True

end SimulatorRuntime

/-- Facts among which no frame is published. -/
theorem final_append {log facts : List Fact} (final : Final log)
    (quiet : ∀ t publication, Fact.published (some t) publication ∉ facts) :
    Final (log ++ facts) :=
  final.append fun _ member _ _ t publication same => absurd (same ▸ member) (quiet t publication)

/-- A frame is published before the end of its transition. -/
theorem final_published {log : List Fact} (final : Final log) {t : Nat}
    {publication : Publication} :
    Final (log ++ [.published (some t) publication]) ↔ .settled t ∉ log := by
  refine justified_concat.trans ⟨fun both => both.2 t publication rfl, fun running => ⟨final, ?_⟩⟩
  rintro _ _ ⟨⟩
  exact running

/-! ## The budget -/

namespace TimerBudget

variable {budget taken : TimerBudget}

theorem tryAcquire_eq_some (acquired : budget.tryAcquire = some taken) :
    taken.max = budget.max ∧ taken.active = budget.active + 1 := by
  unfold tryAcquire at acquired
  split at acquired
  · cases acquired
    exact ⟨rfl, rfl⟩
  · cases acquired

@[simp] theorem active_release (budget : TimerBudget) :
    budget.release.active = budget.active - 1 := rfl

theorem foldl_release {α : Type} (l : List α) (budget : TimerBudget) :
    (l.foldl (fun budget _ => budget.release) budget).max = budget.max ∧
      (l.foldl (fun budget _ => budget.release) budget).active = budget.active - l.length := by
  induction l generalizing budget with
  | nil => exact ⟨rfl, rfl⟩
  | cons a l ih =>
      obtain ⟨max, active⟩ := ih budget.release
      refine ⟨max, active.trans ?_⟩
      rw [active_release, List.length_cons]
      omega

end TimerBudget

/-! ## A device's state -/

namespace DeviceStateController

variable (stringify : JsonObject → String) (controller : DeviceStateController)

theorem publishState_timers (force : Bool) :
    (controller.publishState stringify force).1.timers = controller.timers := by
  unfold publishState
  dsimp only
  split <;> rfl

theorem publishState_transitions (force : Bool) :
    (controller.publishState stringify force).1.transitions = controller.transitions := by
  unfold publishState
  dsimp only
  split <;> rfl

theorem applyAndMaybePublish_silent_iff (patch : JsonObject) (force : Bool) :
    (controller.applyAndMaybePublish stringify patch true force).2 = none ↔ force = false ∧
      controller.lastPublishedPayload = some (stringify (controller.current.merge patch)) := by
  unfold applyAndMaybePublish publishState merge
  rw [if_pos rfl]
  dsimp only
  split
  · next silent => exact iff_of_true rfl silent
  · next loud => exact iff_of_false nofun loud

theorem applyAndMaybePublish_timers (patch : JsonObject) (shouldPublish force : Bool) :
    (controller.applyAndMaybePublish stringify patch shouldPublish force).1.timers =
      controller.timers := by
  unfold applyAndMaybePublish
  split
  · exact publishState_timers stringify _ force
  · rfl

theorem applyAndMaybePublish_transitions (patch : JsonObject) (shouldPublish force : Bool) :
    (controller.applyAndMaybePublish stringify patch shouldPublish force).1.transitions =
      controller.transitions := by
  unfold applyAndMaybePublish
  split
  · exact publishState_transitions stringify _ force
  · rfl

end DeviceStateController

/-! ## Who holds the slots -/

structure Status where
  controller : Nat
  course : Course
  settled : Bool
  onSettled : Bool

def RunningTransition.status (running : RunningTransition) : Status :=
  ⟨running.controller, running.course, running.settled, running.options.onSettled⟩

namespace SimulatorRuntime

def status (s : SimulatorRuntime) (t : Nat) : Option Status :=
  (s.started[t]?).map RunningTransition.status

structure Slots (limit : Nat) (s : SimulatorRuntime) : Prop where
  max : s.budget.max = limit
  slots : s.budget.active = s.outstanding
  placed : ∀ t status, s.status t = some status → status.controller < s.controllers.length
  running : ∀ c controller, s.controllers[c]? = some controller →
    controller.transitions.Nodup ∧ ∀ t, t ∈ controller.transitions ↔
      ∃ onSettled, s.status t = some ⟨c, .scheduled, false, onSettled⟩

variable {limit : Nat} {s s' : SimulatorRuntime} {c t : Nat} {controller : DeviceStateController}
  {running : RunningTransition}

theorem status_of_found (found : s.started[t]? = some running) :
    s.status t = some running.status := by
  unfold status
  rw [found]
  rfl

theorem onItsWay_iff : s.OnItsWay c t ↔
    ∃ onSettled, s.status t = some ⟨c, .scheduled, false, onSettled⟩ := by
  unfold OnItsWay status
  simp only [Option.map_eq_some_iff, RunningTransition.status, Status.mk.injEq]
  constructor
  · rintro ⟨running, found, rfl, scheduled, unsettled⟩
    exact ⟨_, running, found, rfl, scheduled, unsettled, rfl⟩
  · rintro ⟨_, running, found, same, scheduled, unsettled, -⟩
    exact ⟨running, found, same, scheduled, unsettled⟩

/-- The slots do not depend on the stack, on the log or on how far a transition is. -/
theorem Slots.same (slots : s.Slots limit) (budget : s'.budget = s.budget)
    (controllers : s'.controllers = s.controllers) (ackTimers : s'.ackTimers = s.ackTimers)
    (statuses : s'.status = s.status) : s'.Slots limit := by
  refine ⟨budget ▸ slots.max, ?_, ?_, ?_⟩
  · rw [outstanding, budget, controllers, ackTimers]
    exact slots.slots
  · rw [statuses, controllers]
    exact slots.placed
  · rw [statuses, controllers]
    exact slots.running

/-- A controller takes slots for its delayed updates, or gives them back. -/
theorem Slots.delayed (slots : s.Slots limit) (found : s.controllers[c]? = some controller)
    {next : DeviceStateController} (controllers : s'.controllers = s.controllers.set c next)
    (transitions : next.transitions = controller.transitions) (max : s'.budget.max = s.budget.max)
    (active : s'.budget.active + controller.timers.length = s.budget.active + next.timers.length)
    (ackTimers : s'.ackTimers = s.ackTimers) (statuses : s'.status = s.status) :
    s'.Slots limit := by
  refine ⟨max.trans slots.max, ?_, ?_, ?_⟩
  · have sum := sum_map_set found
      (fun controller => controller.pendingTimerCount + controller.activeTransitionCount) next
    simp only [DeviceStateController.pendingTimerCount, DeviceStateController.activeTransitionCount,
      transitions] at sum
    have before := slots.slots
    simp only [outstanding, DeviceStateController.pendingTimerCount,
      DeviceStateController.activeTransitionCount, controllers, ackTimers] at before ⊢
    omega
  · rw [statuses, controllers, List.length_set]
    exact slots.placed
  · intro c' controller' there
    rw [controllers, getElem?_set_of_found found] at there
    rw [statuses]
    split at there
    · next same =>
        cases there
        rw [same, transitions]
        exact slots.running c controller found
    · exact slots.running c' controller' there

/-- The command router takes slots, or gives them back. -/
theorem Slots.router (slots : s.Slots limit) (max : s'.budget.max = s.budget.max)
    (active : s'.budget.active + s.ackTimers.length = s.budget.active + s'.ackTimers.length)
    (controllers : s'.controllers = s.controllers) (statuses : s'.status = s.status) :
    s'.Slots limit := by
  refine ⟨max.trans slots.max, ?_, ?_, ?_⟩
  · have before := slots.slots
    unfold outstanding at before ⊢
    rw [controllers]
    omega
  · rw [statuses, controllers]
    exact slots.placed
  · rw [statuses, controllers]
    exact slots.running

/-- The slots that are given back have been taken. -/
theorem Slots.held_le (slots : s.Slots limit) (found : s.controllers[c]? = some controller) :
    controller.timers.length + controller.transitions.length ≤ s.budget.active := by
  have sum := sum_map_set found
    (fun controller => controller.pendingTimerCount + controller.activeTransitionCount)
    { controller with timers := [], transitions := [] }
  have counted := slots.slots
  simp only [outstanding, DeviceStateController.pendingTimerCount,
    DeviceStateController.activeTransitionCount, List.length_nil] at sum counted
  omega

theorem Slots.ackTimers_le (slots : s.Slots limit) : s.ackTimers.length ≤ s.budget.active := by
  rw [slots.slots]
  exact Nat.le_add_left _ _

/-- A transition of the controller begins, or comes to its end. -/
theorem Slots.moves (slots : s.Slots limit) (found : s.controllers[c]? = some controller)
    {status : Status} (here : status.controller = c)
    (before : ∀ old, s.status t = some old → old.controller = c)
    (statuses : s'.status = Function.update s.status t (some status)) {next : List Nat}
    (nodup : next.Nodup)
    (members : ∀ u, u ∈ next ↔ if u = t then status.course = .scheduled ∧ status.settled = false
      else u ∈ controller.transitions)
    (controllers : s'.controllers = s.controllers.set c { controller with transitions := next })
    (max : s'.budget.max = s.budget.max)
    (active : s'.budget.active + controller.transitions.length = s.budget.active + next.length)
    (ackTimers : s'.ackTimers = s.ackTimers) : s'.Slots limit := by
  obtain ⟨inside, -⟩ := List.getElem?_eq_some_iff.mp found
  refine ⟨max.trans slots.max, ?_, fun u other there => ?_, fun c' controller' there => ?_⟩
  · have sum := sum_map_set found
      (fun controller => controller.pendingTimerCount + controller.activeTransitionCount)
      { controller with transitions := next }
    have counted := slots.slots
    simp only [outstanding, DeviceStateController.pendingTimerCount,
      DeviceStateController.activeTransitionCount, controllers, ackTimers] at counted sum ⊢
    omega
  · rw [statuses, Function.update_apply] at there
    rw [controllers, List.length_set]
    split at there
    · cases there
      rw [here]
      exact inside
    · exact slots.placed u other there
  · rw [controllers, getElem?_set_of_found found] at there
    rw [statuses]
    by_cases same : c' = c
    · subst same
      rw [if_pos rfl] at there
      cases there
      refine ⟨nodup, fun u => ?_⟩
      rw [members, Function.update_apply, (slots.running c' controller found).2]
      by_cases moved : u = t
      · obtain ⟨controller, course, settled, onSettled⟩ := status
        cases here
        simp [moved]
      · rw [if_neg moved, if_neg moved]
    · rw [if_neg same] at there
      refine ⟨(slots.running c' controller' there).1, fun u => ?_⟩
      rw [(slots.running c' controller' there).2, Function.update_apply]
      by_cases moved : u = t
      · rw [if_pos moved, moved]
        refine ⟨fun ⟨_, old⟩ => absurd (before _ old) same, fun ⟨_, new⟩ => ?_⟩
        cases new
        exact absurd here same
      · rw [if_neg moved]

/-- A transition that holds no slot begins, or comes to its end. -/
theorem Slots.aside (slots : s.Slots limit) {status : Status}
    (statuses : s'.status = Function.update s.status t (some status))
    (inside : status.controller < s.controllers.length)
    (before : ∀ old, s.status t = some old →
      old.controller = status.controller ∧ (old.course ≠ .scheduled ∨ old.settled = true))
    (after : status.course ≠ .scheduled ∨ status.settled = true)
    (budget : s'.budget = s.budget) (controllers : s'.controllers = s.controllers)
    (ackTimers : s'.ackTimers = s.ackTimers) : s'.Slots limit := by
  have found := List.getElem?_eq_getElem inside
  obtain ⟨nodup, tracked⟩ := slots.running _ _ found
  refine slots.moves found rfl (fun old there => (before old there).1) statuses nodup
    (fun u => ?_) ?_ (by rw [budget]) (by rw [budget]) ackTimers
  · by_cases moved : u = t
    · rw [if_pos moved, tracked, moved]
      refine iff_of_false ?_ ?_
      · rintro ⟨onSettled, way⟩
        rcases (before _ way).2 with other | spent
        · exact other rfl
        · cases spent
      · rintro ⟨scheduled, unsettled⟩
        rcases after with other | spent
        · exact other scheduled
        · rw [unsettled] at spent
          cases spent
    · rw [if_neg moved]
  · rw [controllers]
    refine List.ext_getElem? fun c => ?_
    rw [getElem?_set_of_found found]
    split
    · next same =>
        rw [same]
        exact found
    · rfl

/-- A transition takes a slot. -/
theorem Slots.begins (slots : s.Slots limit) (found : s.controllers[c]? = some controller)
    (fresh : s.status t = none) {onSettled : Bool}
    (statuses : s'.status = Function.update s.status t (some ⟨c, .scheduled, false, onSettled⟩))
    (max : s'.budget.max = s.budget.max) (active : s'.budget.active = s.budget.active + 1)
    (controllers : s'.controllers =
      s.controllers.set c { controller with transitions := controller.transitions ++ [t] })
    (ackTimers : s'.ackTimers = s.ackTimers) : s'.Slots limit := by
  obtain ⟨nodup, tracked⟩ := slots.running c controller found
  have absent : t ∉ controller.transitions := by
    intro member
    obtain ⟨onSettled, way⟩ := (tracked t).mp member
    rw [fresh] at way
    cases way
  refine slots.moves found rfl (fun old there => ?_) statuses ?_ (fun u => ?_) controllers max ?_
    ackTimers
  · rw [fresh] at there
    cases there
  · exact List.nodup_append.mpr ⟨nodup, List.nodup_singleton t, by
      rintro u member _ here rfl
      exact absent (List.mem_singleton.mp here ▸ member)⟩
  · rw [List.mem_append, List.mem_singleton]
    by_cases moved : u = t
    · rw [if_pos moved]
      exact ⟨fun _ => ⟨rfl, rfl⟩, fun _ => .inr moved⟩
    · rw [if_neg moved]
      exact ⟨fun either => either.resolve_right moved, .inl⟩
  · rw [List.length_append, List.length_singleton]
    omega

/-- A transition gives its slot back. -/
theorem Slots.ends (slots : s.Slots limit) (found : s.controllers[c]? = some controller)
    {onSettled : Bool} (way : s.status t = some ⟨c, .scheduled, false, onSettled⟩)
    (statuses : s'.status = Function.update s.status t (some ⟨c, .scheduled, true, onSettled⟩))
    (budget : s'.budget = s.budget.release)
    (controllers : s'.controllers =
      s.controllers.set c { controller with transitions := controller.transitions.erase t })
    (ackTimers : s'.ackTimers = s.ackTimers) : s'.Slots limit := by
  obtain ⟨nodup, tracked⟩ := slots.running c controller found
  have member : t ∈ controller.transitions := (tracked t).mpr ⟨onSettled, way⟩
  refine slots.moves found rfl (fun old there => ?_) statuses (nodup.erase t) (fun u => ?_)
    controllers (budget ▸ rfl) ?_ ackTimers
  · rw [way] at there
    cases there
    rfl
  · rw [nodup.mem_erase_iff]
    by_cases moved : u = t
    · rw [if_pos moved]
      exact iff_of_false (fun both => both.1 moved) (fun both => nomatch both.2)
    · rw [if_neg moved]
      exact ⟨And.right, fun there => ⟨moved, there⟩⟩
  · have length := List.length_erase_of_mem member
    have positive := List.length_pos_of_mem member
    have taken := slots.held_le found
    rw [budget, TimerBudget.active_release]
    omega

theorem status_of_set (found : s.started[t]? = some running) (next : RunningTransition)
    (started : s'.started = s.started.set t next) :
    s'.status = Function.update s.status t (some next.status) := by
  funext u
  unfold status
  rw [started, getElem?_set_of_found found, Function.update_apply]
  split <;> rfl

/-- How far a transition is does not show. -/
theorem status_of_progress (found : s.started[t]? = some running) (next : RunningTransition)
    (started : s'.started = s.started.set t next) (alike : next.status = running.status) :
    s'.status = s.status := by
  rw [status_of_set found next started, alike, ← status_of_found found, Function.update_eq_self]

theorem status_length (s : SimulatorRuntime) : s.status s.started.length = none := by
  unfold status
  rw [List.getElem?_eq_none le_rfl]
  rfl

theorem status_of_append {next : RunningTransition} (started : s'.started = s.started ++ [next]) :
    s'.status = Function.update s.status s.started.length (some next.status) := by
  funext u
  unfold status
  rw [started, getElem?_concat, Function.update_apply]
  split <;> rfl

/-! ## What has come to an end -/

end SimulatorRuntime

def Status.answered (status : Status) : Bool :=
  status.settled && status.onSettled && status.course != .refused

/-- Facts that end no transition. -/
def Plain (facts : List Fact) : Prop :=
  ∀ t, .settled t ∉ facts ∧ facts.filter (Fact.answers t) = []

namespace SimulatorRuntime

variable {limit : Nat} {s s' : SimulatorRuntime} {c t : Nat} {controller : DeviceStateController}
  {running : RunningTransition}

structure Flags (s : SimulatorRuntime) : Prop where
  settled : ∀ t, .settled t ∈ s.log ↔ (s.status t).any Status.settled = true
  once : ∀ t, (s.log.filter (Fact.answers t)).length =
    if (s.status t).any Status.answered then 1 else 0
  refused : ∀ t status, s.status t = some status → status.course = .refused →
    status.settled = true

theorem Flags.same (flags : s.Flags) (statuses : s'.status = s.status) {facts : List Fact}
    (log : s'.log = s.log ++ facts) (plain : Plain facts) : s'.Flags := by
  refine ⟨fun t => ?_, fun t => ?_, statuses ▸ flags.refused⟩
  · rw [log, statuses, List.mem_append, ← flags.settled]
    exact ⟨fun either => either.resolve_right (plain t).1, .inl⟩
  · rw [log, statuses, List.filter_append, (plain t).2, List.append_nil]
    exact flags.once t

/-- A transition that has not settled begins. -/
theorem Flags.begins (flags : s.Flags) (fresh : s.status t = none) {status : Status}
    (statuses : s'.status = Function.update s.status t (some status)) (log : s'.log = s.log)
    (unsettled : status.settled = false) (able : status.course ≠ .refused) : s'.Flags := by
  have quiet : status.answered = false := by
    rw [Status.answered, unsettled]
    rfl
  refine ⟨fun u => ?_, fun u => ?_, fun u other there => ?_⟩
  · rw [log, statuses, flags.settled, Function.update_apply]
    split
    · next same => simp [same, fresh, unsettled]
    · exact Iff.rfl
  · rw [log, statuses, flags.once, Function.update_apply]
    by_cases same : u = t
    · simp [same, fresh, quiet]
    · rw [if_neg same]
  · rw [statuses, Function.update_apply] at there
    split at there
    · cases there
      exact fun refused => absurd refused able
    · exact flags.refused u other there

/-- A transition is refused: it is over, and nobody is told. -/
theorem Flags.refuses (flags : s.Flags) (fresh : s.status t = none) {status : Status}
    (settled : status.settled = true) (refused : status.course = .refused)
    (statuses : s'.status = Function.update s.status t (some status))
    (log : s'.log = s.log ++ [.settled t]) : s'.Flags := by
  have quiet : status.answered = false := by
    rw [Status.answered, refused]
    exact Bool.and_false _
  refine ⟨fun u => ?_, fun u => ?_, fun u other there => ?_⟩
  · rw [log, statuses, List.mem_append, List.mem_singleton, flags.settled, Function.update_apply,
      Fact.settled.injEq]
    split
    · next same => simp [same, settled]
    · next other => simp [other]
  · have none' : [Fact.settled t].filter (Fact.answers u) = [] := rfl
    rw [log, statuses, List.filter_append, none', List.append_nil, flags.once,
      Function.update_apply]
    by_cases same : u = t
    · simp [same, fresh, quiet]
    · rw [if_neg same]
  · rw [statuses, Function.update_apply] at there
    split at there
    · cases there
      exact fun _ => settled
    · exact flags.refused u other there

/-- A transition comes to its end. -/
theorem Flags.ends (flags : s.Flags) {status : Status} (found : s.status t = some status)
    (unsettled : status.settled = false)
    (statuses : s'.status = Function.update s.status t (some { status with settled := true }))
    {completed : Bool} (log : s'.log = s.log ++ .settled t ::
      if status.onSettled then [.onSettled t completed] else []) : s'.Flags := by
  have able : status.course ≠ .refused := by
    intro refused
    have settled := flags.refused t status found refused
    rw [unsettled] at settled
    cases settled
  have before : (s.log.filter (Fact.answers t)).length = 0 := by
    rw [flags.once, found]
    simp [Status.answered, unsettled]
  refine ⟨fun u => ?_, fun u => ?_, fun u other there => ?_⟩
  · rw [log, statuses, List.mem_append, List.mem_cons, flags.settled, Function.update_apply,
      Fact.settled.injEq]
    have nowhere : Fact.settled u ∉ if status.onSettled then [.onSettled t completed] else [] := by
      split <;> simp
    by_cases same : u = t
    · simp [same]
    · simp [same, nowhere]
  · rw [log, statuses, List.filter_append, List.length_append, Function.update_apply]
    by_cases same : u = t
    · rw [if_pos same, same, before]
      cases answers : status.onSettled <;> simp [Status.answered, able, Fact.answers]
    · have elsewhere : (Fact.settled t :: if status.onSettled then
          [.onSettled t completed] else []).filter (Fact.answers u) = [] := by
        split <;> simp [Fact.answers, Ne.symm same]
      rw [if_neg same, elsewhere, flags.once]
      rfl
  · rw [statuses, Function.update_apply] at there
    split at there
    · cases there
      exact fun _ => rfl
    · exact flags.refused u other there

/-! ## What is left to do -/

end SimulatorRuntime

/-- The transitions an activation is about are what it takes them for. -/
def Activation.Begun (statuses : Nat → Option Status) : Activation → Prop
  | .frame t => ∃ status, statuses t = some status ∧ status.course = .scheduled
  | .frameAtOnce t _ =>
      ∃ status, statuses t = some status ∧ status.course = .atOnce ∧ status.settled = false
  | .cancelling _ rest _ =>
      ∀ t ∈ rest, ∃ status, statuses t = some status ∧ status.course = .scheduled
  | _ => True

/-- The transition whose loop over all frames is not through. -/
def Activation.loop : Activation → Option Nat
  | .frameAtOnce t _ => some t
  | _ => none

/-- A transition keeps its course; one that runs at once does not settle meanwhile. -/
theorem Activation.Begun.update {a : Activation} {statuses : Nat → Option Status} {t : Nat}
    {status : Status} (begun : a.Begun statuses)
    (course : ∀ old, statuses t = some old → status.course = old.course)
    (apart : a.loop ≠ some t) : a.Begun (Function.update statuses t (some status)) := by
  have scheduled : ∀ u, (∃ status, statuses u = some status ∧ status.course = .scheduled) →
      ∃ new, Function.update statuses t (some status) u = some new ∧ new.course = .scheduled := by
    rintro u ⟨old, there, was⟩
    rw [Function.update_apply]
    split
    · next same => exact ⟨status, rfl, (course old (same ▸ there)).trans was⟩
    · exact ⟨old, there, was⟩
  cases a with
  | frame u => exact scheduled u begun
  | frameAtOnce u index =>
      have other : u ≠ t := fun same => apart (congrArg some same)
      change ∃ new, Function.update statuses t (some status) u = some new ∧ _
      rw [Function.update_of_ne other]
      exact begun
  | cancelling group rest cancelled => exact fun u member => scheduled u (begun u member)
  | onSettled u => trivial
  | starting c options => trivial
  | disposing c => trivial

namespace SimulatorRuntime

variable {limit : Nat} {s s' : SimulatorRuntime} {c t : Nat} {controller : DeviceStateController}
  {running : RunningTransition}

structure Activations (s : SimulatorRuntime) : Prop where
  timers : ∀ (t : Nat) (running : RunningTransition), s.started[t]? = some running →
    running.timer = true → running.course = .scheduled
  begun : ∀ a ∈ s.stack, a.Begun s.status
  loops : (s.stack.filterMap Activation.loop).Nodup

theorem Activations.timers_set (activations : s.Activations) (found : s.started[t]? = some running)
    (next : RunningTransition) (scheduled : next.timer = true → next.course = .scheduled)
    (u : Nat) (other : RunningTransition) (there : (s.started.set t next)[u]? = some other)
    (set : other.timer = true) : other.course = .scheduled := by
  rw [getElem?_set_of_found found] at there
  split at there
  · cases there
    exact scheduled set
  · exact activations.timers u other there set

theorem Activations.timers_append (activations : s.Activations) (next : RunningTransition)
    (scheduled : next.timer = true → next.course = .scheduled)
    (u : Nat) (other : RunningTransition) (there : (s.started ++ [next])[u]? = some other)
    (set : other.timer = true) : other.course = .scheduled := by
  rw [getElem?_concat] at there
  split at there
  · cases there
    exact scheduled set
  · exact activations.timers u other there set

/-- The top of the stack is done with. -/
theorem Activations.pop (activations : s.Activations) {a : Activation} {stack : List Activation}
    (top : s.stack = a :: stack) : { s with stack }.Activations := by
  refine ⟨activations.timers, fun b member => ?_, ?_⟩
  · exact activations.begun b (top ▸ List.mem_cons_of_mem a member)
  · have loops := activations.loops
    rw [top, List.filterMap_cons] at loops
    split at loops
    · exact loops
    · exact loops.of_cons

/-- Something is begun; a loop over all frames is begun once. -/
theorem Activations.push (activations : s.Activations) {a : Activation} (begun : a.Begun s.status)
    (apart : ∀ t, a.loop = some t → ∀ b ∈ s.stack, b.loop ≠ some t) :
    { s with stack := a :: s.stack }.Activations := by
  refine ⟨activations.timers, ?_, ?_⟩
  · intro b member
    rcases List.mem_cons.mp member with rfl | there
    · exact begun
    · exact activations.begun b there
  · change ((a :: s.stack).filterMap Activation.loop).Nodup
    cases loop : a.loop with
    | none =>
        rw [List.filterMap_cons_none loop]
        exact activations.loops
    | some t =>
        rw [List.filterMap_cons_some loop, List.nodup_cons]
        refine ⟨fun member => ?_, activations.loops⟩
        obtain ⟨b, there, same⟩ := List.mem_filterMap.mp member
        exact apart t loop b there same

/-- Nothing is being done about a transition that has not begun. -/
theorem Activations.apart_of_fresh (activations : s.Activations) (fresh : s.status t = none) :
    ∀ a ∈ s.stack, a.loop ≠ some t := by
  intro a member loop
  have begun := activations.begun a member
  cases a with
  | frameAtOnce u index =>
      cases loop
      obtain ⟨status, there, -⟩ := begun
      rw [fresh] at there
      cases there
  | _ => cases loop

theorem Activations.begins (activations : s.Activations) (next : RunningTransition)
    (scheduled : next.timer = true → next.course = .scheduled)
    (started : s'.started = s.started ++ [next]) (stack : s'.stack = s.stack) :
    s'.Activations := by
  refine ⟨started ▸ activations.timers_append next scheduled, ?_, stack ▸ activations.loops⟩
  rw [stack, status_of_append started]
  intro a member
  refine (activations.begun a member).update (fun old there => ?_) ?_
  · rw [status_length] at there
    cases there
  · exact activations.apart_of_fresh (status_length s) a member

/-! ## The three together -/

structure Sound (limit : Nat) (s : SimulatorRuntime) : Prop where
  slots : s.Slots limit
  flags : s.Flags
  activations : s.Activations

/-- What an operation comes to when it publishes no frame behind an end. -/
structure Kept (limit : Nat) (s s' : SimulatorRuntime) : Prop where
  sound : s'.Sound limit
  final : Final s.log → Final s'.log

theorem Kept.trans {s'' : SimulatorRuntime} (first : Kept limit s s') (second : Kept limit s' s'') :
    Kept limit s s'' :=
  ⟨second.sound, fun final => second.final (first.final final)⟩

theorem Sound.kept (sound : s'.Sound limit) (log : s'.log = s.log) : Kept limit s s' :=
  ⟨sound, fun final => log ▸ final⟩

/-- The budget has changed, and what holds its slots. -/
theorem Sound.slots_kept (sound : s.Sound limit) (slots : s'.Slots limit)
    (started : s'.started = s.started) (log : s'.log = s.log) (stack : s'.stack = s.stack) :
    Kept limit s s' := by
  have statuses : s'.status = s.status := by
    unfold status
    rw [started]
  obtain ⟨timers, begun, loops⟩ := sound.activations
  refine Sound.kept ⟨slots, sound.flags.same statuses (log.trans (List.append_nil _).symm)
    fun _ => ⟨List.not_mem_nil, rfl⟩, started ▸ timers, ?_, stack ▸ loops⟩ log
  rw [stack, statuses]
  exact begun

theorem Sound.pop (sound : s.Sound limit) {a : Activation} {stack : List Activation}
    (top : s.stack = a :: stack) : { s with stack }.Sound limit :=
  ⟨sound.slots.same rfl rfl rfl rfl, sound.flags.same rfl (List.append_nil _).symm
    fun _ => ⟨List.not_mem_nil, rfl⟩, sound.activations.pop top⟩

theorem Sound.push (sound : s.Sound limit) {a : Activation} (begun : a.Begun s.status)
    (apart : ∀ t, a.loop = some t → ∀ b ∈ s.stack, b.loop ≠ some t) :
    { s with stack := a :: s.stack }.Sound limit :=
  ⟨sound.slots.same rfl rfl rfl rfl, sound.flags.same rfl (List.append_nil _).symm
    fun _ => ⟨List.not_mem_nil, rfl⟩, sound.activations.push begun apart⟩

/-- A transition comes a step further. -/
theorem Sound.progress (sound : s.Sound limit) (found : s.started[t]? = some running)
    (next : RunningTransition) (alike : next.status = running.status)
    (scheduled : next.timer = true → next.course = .scheduled) :
    { s with started := s.started.set t next }.Sound limit := by
  have statuses : { s with started := s.started.set t next }.status = s.status :=
    status_of_progress found next rfl alike
  refine ⟨sound.slots.same rfl rfl rfl statuses, sound.flags.same statuses
    (List.append_nil _).symm fun _ => ⟨List.not_mem_nil, rfl⟩, ?_, ?_, sound.activations.loops⟩
  · exact sound.activations.timers_set found next scheduled
  · rw [statuses]
    exact sound.activations.begun

/-- A controller has changed, and may have published. -/
theorem Sound.changed (sound : s.Sound limit) (found : s.controllers[c]? = some controller)
    (frameOf : Option Nat) (result : DeviceStateController × Option Publication)
    (timers : result.1.timers = controller.timers)
    (transitions : result.1.transitions = controller.transitions) :
    (s.changed c frameOf result).Sound limit := by
  refine ⟨sound.slots.delayed found rfl transitions rfl ?_ rfl rfl,
    sound.flags.same rfl rfl fun t => ?_, sound.activations.timers, sound.activations.begun,
    sound.activations.loops⟩
  · rw [timers]
    rfl
  · cases result.2 with
    | none => exact ⟨List.not_mem_nil, rfl⟩
    | some publication => simp [Fact.answers]

theorem Sound.changed_kept (sound : s.Sound limit) (found : s.controllers[c]? = some controller)
    (result : DeviceStateController × Option Publication)
    (timers : result.1.timers = controller.timers)
    (transitions : result.1.transitions = controller.transitions) :
    Kept limit s (s.changed c none result) := by
  refine ⟨sound.changed found none result timers transitions, fun final => ?_⟩
  refine final_append final fun t publication member => ?_
  obtain ⟨other, -, same⟩ := Option.map_eq_some_iff.mp (Option.mem_toList.mp member)
  cases same

/-! ## The operations -/

theorem update_kept (stringify : JsonObject → String) (sound : s.Sound limit)
    (found : s.controllers[c]? = some controller) (patch : JsonObject)
    (options : StateUpdateOptions) :
    Kept limit s (s.update stringify c controller patch options) := by
  have applied := sound.changed_kept found
    (controller.applyAndMaybePublish stringify patch (options.publish != some false)
      (options.forcePublish == some true))
    (controller.applyAndMaybePublish_timers stringify patch _ _)
    (controller.applyAndMaybePublish_transitions stringify patch _ _)
  unfold update
  dsimp only
  split
  · exact sound.kept rfl
  · split
    · cases acquired : s.budget.tryAcquire with
      | none => exact applied
      | some budget =>
          obtain ⟨max, active⟩ := TimerBudget.tryAcquire_eq_some acquired
          refine sound.slots_kept ?_ rfl rfl rfl
          refine sound.slots.delayed found rfl rfl max ?_ rfl rfl
          simp only [active, List.length_append, List.length_singleton]
          omega
    · exact applied

theorem expire_kept (stringify : JsonObject → String) (sound : s.Sound limit)
    (found : s.controllers[c]? = some controller) {index : Nat} {delayed : DelayedUpdate}
    (waiting : controller.timers[index]? = some delayed) :
    Kept limit s (s.expire stringify c controller index delayed) := by
  obtain ⟨inside, -⟩ := List.getElem?_eq_some_iff.mp waiting
  have taken := sound.slots.held_le found
  -- the timer is deleted and its slot given back before anything is applied
  have released (result : DeviceStateController × Option Publication)
      (timers : result.1.timers = controller.timers.eraseIdx index)
      (transitions : result.1.transitions = controller.transitions) :
      Kept limit s ({ s with budget := s.budget.release }.changed c none result) := by
    refine ⟨⟨?_, sound.flags.same rfl rfl fun t => ?_, sound.activations.timers,
      sound.activations.begun, sound.activations.loops⟩, fun final => ?_⟩
    · refine sound.slots.delayed found rfl transitions rfl ?_ rfl rfl
      rw [timers, List.length_eraseIdx_of_lt inside]
      change s.budget.active - 1 + _ = _
      omega
    · cases result.2 with
      | none => exact ⟨List.not_mem_nil, rfl⟩
      | some publication => simp [Fact.answers]
    · refine final_append final fun t publication member => ?_
      obtain ⟨other, -, same⟩ := Option.map_eq_some_iff.mp (Option.mem_toList.mp member)
      cases same
  unfold expire
  dsimp only
  split
  · exact released _ rfl rfl
  · refine released _ ?_ ?_
    · exact DeviceStateController.applyAndMaybePublish_timers stringify _ _ _ _
    · exact DeviceStateController.applyAndMaybePublish_transitions stringify _ _ _ _

theorem conclude_status (found : s.started[t]? = some running) (completed : Bool) :
    (s.conclude t running completed).status =
      Function.update s.status t (some { running.status with settled := true }) :=
  status_of_set found { running with settled := true, timer := false } rfl

theorem conclude_flags (flags : s.Flags) (found : s.started[t]? = some running)
    (unsettled : running.settled = false) (completed : Bool) :
    (s.conclude t running completed).Flags :=
  flags.ends (status_of_found found) unsettled (conclude_status found completed) rfl

theorem conclude_activations (activations : s.Activations) (found : s.started[t]? = some running)
    (apart : ∀ a ∈ s.stack, a.loop ≠ some t) (completed : Bool) :
    (s.conclude t running completed).Activations := by
  have begun : ∀ a ∈ s.stack, a.Begun (s.conclude t running completed).status := by
    intro a member
    rw [conclude_status found]
    refine (activations.begun a member).update (fun old there => ?_) (apart a member)
    rw [status_of_found found] at there
    cases there
    rfl
  have timers := activations.timers_set found { running with settled := true, timer := false } nofun
  cases answers : running.options.onSettled with
  | false =>
      refine ⟨timers, fun a member => begun a ?_, ?_⟩
      · simpa only [conclude, answers, Bool.false_eq_true, if_false] using member
      · simpa only [conclude, answers, Bool.false_eq_true, if_false] using activations.loops
  | true =>
      refine ⟨timers, fun a member => ?_, ?_⟩
      · simp only [conclude, answers, if_true, List.mem_cons] at member
        rcases member with rfl | there
        · trivial
        · exact begun a there
      · simp only [conclude, answers, if_true]
        rw [List.filterMap_cons_none rfl]
        exact activations.loops

theorem conclude_final (final : Final s.log) (completed : Bool) :
    Final (s.conclude t running completed).log := by
  refine final_append final fun u publication member => ?_
  rcases List.mem_cons.mp member with same | there
  · cases same
  · split at there
    · cases List.mem_singleton.mp there
    · cases there

theorem settle_kept (sound : s.Sound limit) (found : s.started[t]? = some running)
    (able : running.course ≠ .atOnce) (completed : Bool) :
    Kept limit s (s.settle t running completed) := by
  unfold settle
  cases settled : running.settled with
  | true =>
      rw [if_pos rfl]
      exact sound.kept rfl
  | false =>
      rw [if_neg nofun]
      have status := status_of_found found
      have scheduled : running.course = .scheduled := by
        cases course : running.course with
        | refused =>
            have spent := sound.flags.refused t _ status course
            exact absurd (settled.symm.trans spent) nofun
        | atOnce => exact absurd course able
        | scheduled => rfl
      have inside := sound.slots.placed t _ status
      have apart : ∀ a ∈ s.stack, a.loop ≠ some t := by
        intro a member loop
        have begun := sound.activations.begun a member
        cases a with
        | frameAtOnce u index =>
            cases loop
            obtain ⟨other, there, atOnce, -⟩ := begun
            rw [status] at there
            cases there
            exact able atOnce
        | _ => cases loop
      refine ⟨⟨?_, ?_, ?_⟩, fun final => conclude_final final completed⟩
      · have there := List.getElem?_eq_getElem inside
        have way : s.status t =
            some ⟨running.controller, .scheduled, false, running.options.onSettled⟩ := by
          rw [status, RunningTransition.status, scheduled, settled]
        refine sound.slots.ends there way ?_ rfl (modify_eq_set_of_found there _) rfl
        refine (conclude_status (s := s.freeSlot t running) found completed).trans ?_
        rw [RunningTransition.status, scheduled]
        rfl
      · refine conclude_flags (s := s.freeSlot t running) ?_ found settled completed
        exact ⟨sound.flags.settled, sound.flags.once, sound.flags.refused⟩
      · refine conclude_activations (s := s.freeSlot t running) ?_ found apart completed
        exact ⟨sound.activations.timers, sound.activations.begun, sound.activations.loops⟩

theorem atOnce_kept (stringify : JsonObject → String) (sound : s.Sound limit)
    (found : s.started[t]? = some running) (course : running.course = .atOnce)
    (unsettled : running.settled = false)
    (there : s.controllers[running.controller]? = some controller)
    (apart : ∀ a ∈ s.stack, a.loop ≠ some t) (index : Nat) :
    Kept limit s (s.atOnce stringify t index running controller) := by
  have status := status_of_found found
  unfold atOnce
  split
  · refine Sound.kept (sound.push ⟨_, status, course, unsettled⟩ fun u same => ?_) rfl
    cases same
    exact apart
  · have published := sound.changed there (some t)
      (controller.publishState stringify running.options.force)
      (controller.publishState_timers stringify _) (controller.publishState_transitions stringify _)
    have running' : .settled t ∉ s.log := by
      rw [sound.flags.settled, status]
      simp [RunningTransition.status, unsettled]
    refine ⟨⟨?_, conclude_flags published.flags found unsettled true,
      conclude_activations published.activations found apart true⟩, fun final => ?_⟩
    · refine published.slots.aside (conclude_status found true) ?_ (fun old before => ?_)
        (.inr rfl) rfl rfl rfl
      · exact sound.slots.placed t _ status |>.trans_eq (List.length_set ..).symm
      · change s.status t = some old at before
        rw [status] at before
        cases before
        refine ⟨rfl, .inl ?_⟩
        rw [RunningTransition.status, course]
        exact nofun
    · refine conclude_final ?_ true
      change Final (s.log ++ _)
      cases (controller.publishState stringify running.options.force).2 with
      | none => exact final_append final fun _ _ => List.not_mem_nil
      | some publication => exact (final_published final).mpr running'

theorem start_kept (stringify : JsonObject → String) (sound : s.Sound limit)
    (found : s.controllers[c]? = some controller) (options : StateTransitionOptions) :
    Kept limit s (s.start stringify c controller options) := by
  have fresh := status_length s
  have nobody : ∀ old, s.status s.started.length = some old → False := by
    intro old there
    rw [fresh] at there
    cases there
  obtain ⟨inside, -⟩ := List.getElem?_eq_some_iff.mp found
  unfold start
  dsimp only
  split
  · let refused : RunningTransition := ⟨c, options, .refused, false, true, 0, 0⟩
    have statuses : { s with
          started := s.started ++ [refused]
          log := s.log ++ [Fact.settled s.started.length] }.status =
        Function.update s.status s.started.length (some refused.status) := status_of_append rfl
    refine ⟨⟨?_, ?_, ?_⟩, fun final => final_append final fun _ _ member => ?_⟩
    · exact sound.slots.aside statuses inside (fun old there => (nobody old there).elim) (.inr rfl)
        rfl rfl rfl
    · exact sound.flags.refuses fresh rfl rfl statuses rfl
    · exact sound.activations.begins refused nofun rfl rfl
    · cases List.mem_singleton.mp member
  · cases acquired : s.budget.tryAcquire with
    | none =>
        let running : RunningTransition := ⟨c, options, .atOnce, false, false, 0, 0⟩
        have statuses : { s with started := s.started ++ [running] }.status =
            Function.update s.status s.started.length (some running.status) := status_of_append rfl
        have begun : Sound limit { s with started := s.started ++ [running] } :=
          ⟨sound.slots.aside statuses inside (fun old there => (nobody old there).elim)
              (.inl (nomatch ·)) rfl rfl rfl,
            sound.flags.begins fresh statuses rfl rfl (nomatch ·),
            sound.activations.begins running nofun rfl rfl⟩
        dsimp only
        refine (Sound.kept (s := s) begun rfl).trans ?_
        exact atOnce_kept stringify begun List.getElem?_concat_length rfl rfl found
          (sound.activations.apart_of_fresh fresh) 1
    | some budget =>
        obtain ⟨max, active⟩ := TimerBudget.tryAcquire_eq_some acquired
        let running : RunningTransition := ⟨c, options, .scheduled, true, false, 0, 0⟩
        have statuses : { s with
              budget
              started := s.started ++ [running]
              controllers := s.controllers.set c { controller with
                transitions := controller.transitions ++ [s.started.length] } }.status =
            Function.update s.status s.started.length (some running.status) := status_of_append rfl
        exact Sound.kept ⟨sound.slots.begins found fresh statuses max active rfl rfl,
          sound.flags.begins fresh statuses rfl rfl (nomatch ·),
          sound.activations.begins running (fun _ => rfl) rfl rfl⟩ rfl

/-- What runs in a controller is a transition of its own, begun a step at a time. -/
theorem Sound.scheduled (sound : s.Sound limit) (found : s.controllers[c]? = some controller)
    (member : t ∈ controller.transitions) :
    ∃ status, s.status t = some status ∧ status.course = .scheduled := by
  obtain ⟨onSettled, way⟩ := ((sound.slots.running c controller found).2 t).mp member
  exact ⟨_, way, rfl⟩

theorem cancelling_sound (sound : s.Sound limit) (found : s.controllers[c]? = some controller)
    (group : Option String) :
    { s with stack := .cancelling group controller.transitions 0 :: s.stack }.Sound limit :=
  sound.push (fun _ member => sound.scheduled found member) nofun

theorem transition_kept (sound : s.Sound limit) (found : s.controllers[c]? = some controller)
    (options : StateTransitionOptions) : Kept limit s (s.transition c controller options) := by
  have starting : { s with stack := .starting c options :: s.stack }.Sound limit :=
    sound.push trivial nofun
  unfold transition
  cases truthy options.group with
  | none => exact Sound.kept starting rfl
  | some group => exact Sound.kept (cancelling_sound starting found (some group)) rfl

theorem dueStep_kept (sound : s.Sound limit) (found : s.started[t]? = some running)
    (timer : running.timer = true) (controller : DeviceStateController) :
    Kept limit s (s.dueStep t running controller) := by
  have scheduled := sound.activations.timers t running found timer
  unfold dueStep
  dsimp only
  split
  · exact Sound.kept (sound.progress found { running with timer := false } rfl nofun) rfl
  · split
    · refine Sound.kept (sound.progress found { running with
        timer := true, waitsElapsed := running.waitsElapsed + 1 } rfl fun _ => scheduled) rfl
    · have further := sound.progress found { running with
        timer := false, waitsElapsed := 0, index := running.index + 1 } rfl nofun
      refine Sound.kept (further.push (a := .frame t) ?_ nofun) rfl
      refine ⟨running.status, ?_, scheduled⟩
      rw [status_of_set found _ rfl, Function.update_self]
      rfl

theorem settle_grows (s : SimulatorRuntime) (t : Nat) (running : RunningTransition)
    (completed : Bool) : s.log <+: (s.settle t running completed).log := by
  unfold settle
  split
  · exact List.prefix_refl _
  · exact List.prefix_append _ _

/-- A due step behind its frame, once the frame is published or not. -/
theorem afterFrame_rest (sound : s.Sound limit) (found : s.started[t]? = some running)
    (scheduled : running.course = .scheduled) (rest : SimulatorRuntime)
    (after : rest = if running.options.isLast running.index then s.settle t running true
      else { s with started := s.started.set t { running with timer := true } }) :
    rest.Sound limit ∧ (Final rest.log ↔ Final s.log) := by
  rw [after]
  split
  · have kept := settle_kept sound found (by rw [scheduled]; exact nofun) true
    exact ⟨kept.sound, fun final => final.of_prefix (s.settle_grows t running true), kept.final⟩
  · exact ⟨sound.progress found { running with timer := true } rfl fun _ => scheduled, Iff.rfl⟩

theorem afterFrameAtOnce_kept (stringify : JsonObject → String) (sound : s.Sound limit)
    (found : s.started[t]? = some running) (course : running.course = .atOnce)
    (unsettled : running.settled = false)
    (there : s.controllers[running.controller]? = some controller)
    (apart : ∀ a ∈ s.stack, a.loop ≠ some t) (index : Nat) (patch : Option JsonObject) :
    Kept limit s (s.afterFrameAtOnce stringify t index running controller patch) := by
  unfold afterFrameAtOnce
  dsimp only
  have merged := sound.changed_kept there (patch.elim controller controller.merge, none)
    (by cases patch <;> rfl) (by cases patch <;> rfl)
  refine merged.trans (atOnce_kept stringify merged.sound found course unsettled ?_ apart _)
  change (s.controllers.set _ _)[_]? = _
  rw [getElem?_set_of_found there, if_pos rfl]

theorem clearTimers_kept (sound : s.Sound limit) (found : s.controllers[c]? = some controller) :
    Kept limit s (s.clearTimers c controller) := by
  obtain ⟨max, active⟩ := TimerBudget.foldl_release controller.timers s.budget
  have taken := sound.slots.held_le found
  refine sound.slots_kept ?_ rfl rfl rfl
  refine sound.slots.delayed found rfl rfl max ?_ rfl rfl
  simp only [clearTimers, List.length_nil]
  omega

theorem dispose_kept (sound : s.Sound limit) (found : s.controllers[c]? = some controller) :
    Kept limit s (s.dispose c controller) := by
  have disposed := sound.changed_kept found ({ controller with disposed := true }, none) rfl rfl
  have there : (s.changed c none ({ controller with disposed := true }, none)).controllers[c]? =
      some { controller with disposed := true } := by
    change (s.controllers.set _ _)[_]? = _
    rw [getElem?_set_of_found found, if_pos rfl]
  have disposing := disposed.sound.push (a := .disposing c) trivial nofun
  have cancelling := cancelling_sound disposing there none
  refine ⟨⟨?_, ?_, ?_⟩, id⟩
  · exact cancelling.slots.same rfl rfl rfl rfl
  · exact cancelling.flags.same rfl (by simp [changed, dispose]) fun _ => ⟨List.not_mem_nil, rfl⟩
  · exact ⟨cancelling.activations.timers, cancelling.activations.begun,
      cancelling.activations.loops⟩

theorem sleep_kept (sound : s.Sound limit) (ms : ℚ) : Kept limit s (s.sleep ms) := by
  unfold sleep
  split
  · exact sound.kept rfl
  · cases acquired : s.budget.tryAcquire with
    | none => exact sound.kept rfl
    | some budget =>
        obtain ⟨max, active⟩ := TimerBudget.tryAcquire_eq_some acquired
        refine sound.slots_kept ?_ rfl rfl rfl
        refine sound.slots.router max ?_ rfl rfl
        simp only [active, List.length_append, List.length_singleton]
        omega

theorem wake_kept (sound : s.Sound limit) (index : Nat) : Kept limit s (s.wake index) := by
  have taken := sound.slots.ackTimers_le
  unfold wake
  split
  · next inside =>
      refine sound.slots_kept ?_ rfl rfl rfl
      refine sound.slots.router rfl ?_ rfl rfl
      simp only [TimerBudget.active_release, List.length_eraseIdx_of_lt inside]
      omega
  · exact sound.kept rfl

theorem disposeRouter_kept (sound : s.Sound limit) : Kept limit s s.disposeRouter := by
  obtain ⟨max, active⟩ := TimerBudget.foldl_release s.ackTimers s.budget
  have taken := sound.slots.ackTimers_le
  refine sound.slots_kept ?_ rfl rfl rfl
  refine sound.slots.router max ?_ rfl rfl
  simp only [disposeRouter, List.length_nil]
  omega

/-! ## The machine -/

theorem lookup_eq_some : s.lookup t = some (running, controller) ↔
    s.started[t]? = some running ∧ s.controllers[running.controller]? = some controller := by
  simp only [lookup, Option.bind_eq_bind, Option.bind_eq_some_iff, Option.pure_def,
    Option.some.injEq, Prod.mk.injEq]
  constructor
  · rintro ⟨_, found, _, there, rfl, rfl⟩
    exact ⟨found, there⟩
  · rintro ⟨found, there⟩
    exact ⟨_, found, _, there, rfl, rfl⟩

/-- An operation on what is looked up, or nothing. -/
theorem elim_kept {α : Type} (sound : s.Sound limit) {found : Option α} {f : α → SimulatorRuntime}
    (each : ∀ a, found = some a → Kept limit s (f a)) : Kept limit s (found.elim s f) := by
  cases found with
  | none => exact sound.kept rfl
  | some a => exact each a rfl

theorem cancelNext_kept (sound : s.Sound limit) (group : Option String) {rest : List Nat}
    (begun : ∀ t ∈ rest, ∃ status, s.status t = some status ∧ status.course = .scheduled)
    (cancelled : Nat) : Kept limit s (s.cancelNext group rest cancelled) := by
  cases rest with
  | nil =>
      refine ⟨⟨sound.slots.same rfl rfl rfl rfl, sound.flags.same rfl rfl fun t => ?_,
          sound.activations.timers, sound.activations.begun, sound.activations.loops⟩,
        fun final => ?_⟩
      · exact ⟨by simp, rfl⟩
      · exact final_append final fun _ _ member => nomatch List.mem_singleton.mp member
  | cons t rest =>
      obtain ⟨status, there, scheduled⟩ := begun t List.mem_cons_self
      unfold cancelNext
      dsimp only
      cases found : s.started[t]? with
      | none => exact sound.kept rfl
      | some running =>
          have going (cancelled : Nat) :
              { s with stack := .cancelling group rest cancelled :: s.stack }.Sound limit :=
            sound.push (fun u member => begun u (List.mem_cons_of_mem t member)) nofun
          dsimp only
          split
          · exact Sound.kept (going cancelled) rfl
          · rw [status_of_found found] at there
            cases there
            refine (Sound.kept (s := s) (going (cancelled + 1)) rfl).trans ?_
            refine settle_kept (going (cancelled + 1)) found ?_ false
            rw [show running.course = .scheduled from scheduled]
            exact nofun

theorem makeCall_kept (stringify : JsonObject → String) (sound : s.Sound limit) (call : Call) :
    Kept limit s (s.makeCall stringify call) := by
  cases call with
  | update c patch options =>
      exact elim_kept sound fun controller found =>
        update_kept stringify sound found patch options
  | publish c force =>
      refine elim_kept sound fun controller found => ?_
      split
      · exact sound.kept rfl
      · exact sound.changed_kept found _ (controller.publishState_timers stringify force)
          (controller.publishState_transitions stringify force)
  | transition c options =>
      exact elim_kept sound fun controller found => transition_kept sound found options
  | cancel t =>
      refine elim_kept sound fun running found => ?_
      split
      · next returned =>
          cases settled : running.settled with
          | true =>
              unfold settle
              rw [if_pos settled]
              exact sound.kept rfl
          | false =>
              refine settle_kept sound found ?_ false
              simpa [handed, settled] using returned
      · exact sound.kept rfl
  | cancelTransitions c group =>
      exact elim_kept sound fun controller found =>
        Sound.kept (cancelling_sound sound found group) rfl
  | dispose c => exact elim_kept sound fun controller found => dispose_kept sound found
  | disposeRouter => exact disposeRouter_kept sound

theorem resume_kept (stringify : JsonObject → String) (sound : s.Sound limit) :
    Kept limit s (s.resume stringify) := by
  unfold resume
  split
  · next group rest cancelled stack top =>
      have popped := sound.pop top
      refine (Sound.kept (s := s) popped rfl).trans (cancelNext_kept popped group ?_ cancelled)
      exact sound.activations.begun _ (top ▸ List.mem_cons_self)
  · next c options stack top =>
      refine elim_kept sound fun controller found => ?_
      have popped := sound.pop top
      exact (Sound.kept (s := s) popped rfl).trans (start_kept stringify popped found options)
  · next c stack top =>
      refine elim_kept sound fun controller found => ?_
      have popped := sound.pop top
      exact (Sound.kept (s := s) popped rfl).trans (clearTimers_kept popped found)
  · exact sound.kept rfl

theorem stepTimer_kept (sound : s.Sound limit) (t : Nat) : Kept limit s (s.stepTimer t) := by
  refine elim_kept sound fun found there => ?_
  split
  · next timer => exact dueStep_kept sound (lookup_eq_some.mp there).1 timer found.2
  · exact sound.kept rfl

theorem expireTimer_kept (stringify : JsonObject → String) (sound : s.Sound limit) (c index : Nat) :
    Kept limit s (s.expireTimer stringify c index) := by
  refine elim_kept sound fun controller found => ?_
  exact elim_kept sound fun delayed waiting => expire_kept stringify sound found waiting

/-- **A due step behind its frame.**  The frame is published behind the end of its transition
when `frame` has brought that end about. -/
theorem afterFrame_spec (stringify : JsonObject → String) (sound : s.Sound limit)
    (found : s.started[t]? = some running) (scheduled : running.course = .scheduled)
    (there : s.controllers[running.controller]? = some controller) (patch : Option JsonObject) :
    (s.afterFrame stringify t running controller patch).Sound limit ∧
      (Final s.log → (Final (s.afterFrame stringify t running controller patch).log ↔
        ∀ given, patch = some given → running.settled = true →
          (controller.applyAndMaybePublish stringify given true running.options.force).2 =
            none)) := by
  have flag : .settled t ∈ s.log ↔ running.settled = true := by
    rw [sound.flags.settled, status_of_found found]
    rfl
  cases patch with
  | none =>
      obtain ⟨rest, same⟩ := afterFrame_rest sound found scheduled
        (s.afterFrame stringify t running controller none) rfl
      exact ⟨rest, fun final => ⟨fun _ _ => nofun, fun _ => same.mpr final⟩⟩
  | some patch =>
      obtain ⟨rest, same⟩ := afterFrame_rest
        (sound.changed there (some t)
          (controller.applyAndMaybePublish stringify patch true running.options.force)
          (controller.applyAndMaybePublish_timers stringify _ _ _)
          (controller.applyAndMaybePublish_transitions stringify _ _ _))
        found scheduled (s.afterFrame stringify t running controller (some patch)) rfl
      refine ⟨rest, fun final => same.trans ?_⟩
      change Final (s.log ++ _) ↔ _
      cases published :
          (controller.applyAndMaybePublish stringify patch true running.options.force).2 with
      | none =>
          refine iff_of_true (final_append final fun _ _ => List.not_mem_nil) ?_
          rintro _ ⟨⟩ _
          exact published
      | some publication =>
          refine (final_published final).trans ((not_congr flag).trans ?_)
          constructor
          · intro unsettled _ _ settled
            exact absurd settled unsettled
          · intro kept settled
            have silent := kept patch rfl settled
            rw [published] at silent
            cases silent

/-! ## Runs -/

/-- What is on top of the stack has begun. -/
theorem Sound.top (sound : s.Sound limit) {a : Activation} {stack : List Activation}
    (top : s.stack = a :: stack) : a.Begun s.status := by
  refine sound.activations.begun a ?_
  rw [top]
  exact List.mem_cons_self

theorem frameKept_of_other (stringify : JsonObject → String) {patch : Option JsonObject}
    (other : ∀ t stack, s.stack ≠ .frame t :: stack) :
    FrameKept stringify s (.returned patch) := by
  cases patch with
  | none => trivial
  | some patch =>
      unfold FrameKept
      dsimp only
      split
      · next t stack top => exact absurd top (other t stack)
      · trivial

theorem frameKept_iff (stringify : JsonObject → String) {stack : List Activation}
    (top : s.stack = .frame t :: stack) (found : s.lookup t = some (running, controller))
    (patch : Option JsonObject) : FrameKept stringify s (.returned patch) ↔
      ∀ given, patch = some given → running.settled = true →
        (controller.applyAndMaybePublish stringify given true running.options.force).2 = none := by
  cases patch with
  | none => exact iff_of_true trivial fun _ => nofun
  | some patch =>
      simp only [FrameKept, top, found, Option.some.injEq, Prod.mk.injEq,
        DeviceStateController.applyAndMaybePublish_silent_iff]
      constructor
      · rintro kept _ rfl settled
        exact kept running controller ⟨rfl, rfl⟩ settled
      · rintro kept _ _ ⟨rfl, rfl⟩ settled
        exact kept patch rfl settled

theorem returned_frame (stringify : JsonObject → String) (sound : s.Sound limit)
    {stack : List Activation} (top : s.stack = .frame t :: stack)
    (found : s.lookup t = some (running, controller)) (patch : Option JsonObject) :
    ({ s with stack }.afterFrame stringify t running controller patch).Sound limit ∧
      (Final s.log → (FrameKept stringify s (.returned patch) ↔
        Final ({ s with stack }.afterFrame stringify t running controller patch).log)) := by
  obtain ⟨begun, there⟩ := lookup_eq_some.mp found
  obtain ⟨status, way, scheduled⟩ := sound.top top
  rw [status_of_found begun, Option.some.injEq] at way
  obtain ⟨after, exactly⟩ := afterFrame_spec (s := { s with stack }) stringify (sound.pop top)
    begun (by rw [← way] at scheduled; exact scheduled) there patch
  exact ⟨after, fun final => (frameKept_iff stringify top found patch).trans (exactly final).symm⟩

theorem returned_frameAtOnce (stringify : JsonObject → String) (sound : s.Sound limit)
    {index : Nat} {stack : List Activation} (top : s.stack = .frameAtOnce t index :: stack)
    (found : s.lookup t = some (running, controller)) (patch : Option JsonObject) :
    Kept limit s
      ({ s with stack }.afterFrameAtOnce stringify t index running controller patch) := by
  obtain ⟨begun, there⟩ := lookup_eq_some.mp found
  obtain ⟨status, way, course, unsettled⟩ := sound.top top
  rw [status_of_found begun, Option.some.injEq] at way
  rw [← way] at course unsettled
  refine (Sound.kept (s := s) (sound.pop top) rfl).trans ?_
  refine afterFrameAtOnce_kept stringify (sound.pop top) begun course unsettled there ?_ index patch
  -- the loop is not begun a second time
  intro a member loop
  have loops := sound.activations.loops
  have here : (Activation.frameAtOnce t index).loop = some t := rfl
  rw [top, List.filterMap_cons_some here, List.nodup_cons] at loops
  exact loops.1 (List.mem_filterMap.mpr ⟨a, member, loop⟩)

theorem returned_spec (stringify : JsonObject → String) (sound : s.Sound limit)
    (patch : Option JsonObject) :
    (s.returned stringify patch).Sound limit ∧
      (Final s.log → (FrameKept stringify s (.returned patch) ↔
        Final (s.returned stringify patch).log)) := by
  unfold returned
  split
  · next t stack top =>
      cases found : s.lookup t with
      | none =>
          refine ⟨sound, fun final => iff_of_true ?_ final⟩
          cases patch with
          | none => trivial
          | some patch =>
              simp only [FrameKept, top, found, reduceCtorEq, false_implies, implies_true]
      | some both => exact returned_frame stringify sound top found patch
  · next t index stack top =>
      have kept : Kept limit s ((s.lookup t).elim s fun found =>
          { s with stack }.afterFrameAtOnce stringify t index found.1 found.2 patch) :=
        elim_kept sound fun both found => returned_frameAtOnce stringify sound top found patch
      refine ⟨kept.sound, fun final => iff_of_true ?_ (kept.final final)⟩
      exact frameKept_of_other stringify (by rw [top]; exact nofun)
  · next t stack top =>
      refine ⟨sound.pop top, fun final => iff_of_true ?_ final⟩
      exact frameKept_of_other stringify (by rw [top]; exact nofun)
  · next noFrame _ _ =>
      exact ⟨sound, fun final => iff_of_true (frameKept_of_other stringify noFrame) final⟩

theorem event_spec (stringify : JsonObject → String) (sound : s.Sound limit) (e : Event) :
    (s.event stringify e).Sound limit ∧
      (Final s.log → (FrameKept stringify s e ↔ Final (s.event stringify e).log)) := by
  have always {s' : SimulatorRuntime} (kept : Kept limit s s') :
      s'.Sound limit ∧ (Final s.log → (True ↔ Final s'.log)) :=
    ⟨kept.sound, fun final => iff_of_true trivial (kept.final final)⟩
  cases e with
  | returned patch => exact returned_spec stringify sound patch
  | resume => exact always (resume_kept stringify sound)
  | call call =>
      refine always ?_
      unfold event
      dsimp only
      split
      · exact makeCall_kept stringify sound call
      · exact sound.kept rfl
  | expire c index =>
      refine always ?_
      unfold event
      dsimp only
      split
      · exact expireTimer_kept stringify sound c index
      · exact sound.kept rfl
  | step t =>
      refine always ?_
      unfold event
      dsimp only
      split
      · exact stepTimer_kept sound t
      · exact sound.kept rfl
  | sleep ms =>
      refine always ?_
      unfold event
      dsimp only
      split
      · exact sleep_kept sound ms
      · exact sound.kept rfl
  | wake index =>
      refine always ?_
      unfold event
      dsimp only
      split
      · exact wake_kept sound index
      · exact sound.kept rfl

theorem sound_ofControllers (max : ℤ) (controllers : List ControllerOptions) :
    (ofControllers max controllers).Sound (TimerBudget.ofMax max).max := by
  have idle : ∀ (c : Nat) (controller : DeviceStateController),
      (ofControllers max controllers).controllers[c]? = some controller →
        controller.transitions = [] := by
    intro c controller found
    obtain ⟨options, -, rfl⟩ := List.mem_map.mp (List.mem_of_getElem? found)
    rfl
  have nobody : ∀ t, (ofControllers max controllers).status t = none := fun t => rfl
  refine ⟨⟨rfl, ?_, fun t status there => ?_, fun c controller found => ?_⟩,
    ⟨fun t => ?_, fun t => rfl, fun t status there => ?_⟩,
    ⟨fun t running there => ?_, fun a member => absurd member List.not_mem_nil,
      List.nodup_nil⟩⟩
  · change 0 = (List.map _ (controllers.map DeviceStateController.ofOptions)).sum + 0
    rw [List.map_map]
    exact (List.sum_eq_zero fun n member => by
      obtain ⟨options, -, rfl⟩ := List.mem_map.mp member
      rfl).symm
  · rw [nobody] at there
    cases there
  · rw [idle c controller found]
    refine ⟨List.nodup_nil, fun t => iff_of_false List.not_mem_nil ?_⟩
    rintro ⟨onSettled, there⟩
    rw [nobody] at there
    cases there
  · exact iff_of_false List.not_mem_nil (by rw [nobody]; exact nofun)
  · rw [nobody] at there
    cases there
  · change ([] : List RunningTransition)[t]? = some running at there
    rw [List.getElem?_nil] at there
    cases there

theorem Sound.conserved_iff (sound : s.Sound limit) : s.Conserved limit ↔ Final s.log := by
  refine ⟨Conserved.final, fun final => ⟨sound.slots.slots, ?_, fun c controller found => ?_, final,
    fun t running found => ?_⟩⟩
  · rw [← sound.slots.max]
    exact s.budget.within
  · obtain ⟨nodup, tracked⟩ := sound.slots.running c controller found
    exact ⟨nodup, fun t => (tracked t).trans onItsWay_iff.symm⟩
  · rw [sound.flags.once, status_of_found found]
    rfl

/-- **The slots are conserved, and what has ended stays so, while no frame ends its own
transition and is published all the same.** -/
theorem timer_budget_conserved_iff (stringify : JsonObject → String) (max : ℤ)
    (controllers : List ControllerOptions) (events : List Event) :
    (∀ before, before <+: events →
      (run (event stringify) (ofControllers max controllers) before).Conserved
        (TimerBudget.ofMax max).max) ↔
      Along (event stringify) (FrameKept stringify) (ofControllers max controllers) events := by
  have start := sound_ofControllers max controllers
  have sound (before : List Event) := run_invariant
    (fun s e (sound : s.Sound (TimerBudget.ofMax max).max) => (event_spec stringify sound e).1)
    start before
  refine Iff.trans (forall₂_congr fun before _ => (sound before).conserved_iff) ?_
  refine invariant_iff_along (Sound (TimerBudget.ofMax max).max) (fun s => Final s.log)
    (FrameKept stringify) (fun s e sound => (event_spec stringify sound e).1)
    (fun s e sound final => (event_spec stringify sound e).2 final) start justified_nil events

/-- A movement of two steps whose first frame cancels it. -/
def selfCancelling : List Event :=
  [.call (.transition 0 ⟨.finite 100, .finite 2, none, none, true⟩), .resume, .step 0,
    .call (.cancel 0), .returned none, .returned (some .empty)]

/-- Its frame is published behind its `onSettled`. -/
theorem cancelled_frame_published :
    ¬(run (event fun _ => "\x7b\x7d") (ofControllers 4 [⟨"sensor/tank", .empty, true, 1000⟩])
      selfCancelling).Conserved 4 := by
  intro conserved
  have log : (run (event fun _ => "\x7b\x7d")
      (ofControllers 4 [⟨"sensor/tank", .empty, true, 1000⟩]) selfCancelling).log =
      [.settled 0, .onSettled 0 false] ++
        .published (some 0) ⟨"sensor/tank", "\x7b\x7d", true⟩ :: [] := by
    decide +kernel
  exact conserved.final _ _ _ log 0 _ rfl List.mem_cons_self

end SimulatorRuntime

end Aeolus.Simulator
