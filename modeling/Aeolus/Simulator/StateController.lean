/-
# Aeolus.Simulator.StateController — device state that changes over time

`src/simulator/timer-budget.ts`, `src/simulator/state-controller.ts` and the part of
`src/simulator/command-router.ts` that waits: every delayed operation of the simulator holds
a slot of one budget.

A transition calls back into the scenario, for each frame and when it has settled, and what is
called back may call the controllers again.  What is left to do behind such a call is kept on
a stack: its top is either a callback, which calls on or returns, or a statement of the source
that the machine goes on with (`Event.resume`).  Timers run when the stack is empty.  When
they run, and what a callback does, is for the run to say.
-/
import Mathlib.Data.Rat.Floor
import Aeolus.Core.NumberCoercion

namespace Aeolus.Simulator

open Aeolus.Core

/-! ## The budget -/

structure TimerBudget where
  max : Nat
  active : Nat
  within : active ≤ max
  deriving DecidableEq

namespace TimerBudget

/-- The constructor; the configuration gives it a whole number. -/
def ofMax (max : ℤ) : TimerBudget := ⟨if 0 < max then max.toNat else 1, 0, Nat.zero_le _⟩

/-- `none` when the budget is exhausted -/
def tryAcquire (budget : TimerBudget) : Option TimerBudget :=
  if free : budget.active < budget.max then some ⟨budget.max, budget.active + 1, free⟩ else none

def release (budget : TimerBudget) : TimerBudget :=
  ⟨budget.max, budget.active - 1, (Nat.sub_le _ _).trans budget.within⟩

end TimerBudget

/-- `clampDelay`; `none` is `undefined` -/
def clampDelay (maxDelayMs : ℚ) : Option JsNumber → ℚ
  | some (.finite delayMs) => if delayMs ≤ 0 then 0 else min delayMs maxDelayMs
  | some (.infinity false) => maxDelayMs
  | _ => 0

/-! ## A device's state -/

structure ControllerOptions where
  stateTopic : String
  initialState : JsonObject
  retainState : Bool
  maxDelayMs : ℚ

structure Publication where
  topic : String
  payload : String
  retain : Bool
  deriving DecidableEq

structure StateUpdateOptions where
  publish : Option Bool := none
  forcePublish : Option Bool := none
  delayMs : Option JsNumber := none

/-- What the timer of a delayed update will apply. -/
structure DelayedUpdate where
  patch : JsonObject
  shouldPublish : Bool
  force : Bool

structure DeviceStateController where
  options : ControllerOptions
  current : JsonObject
  lastPublishedPayload : Option String := none
  timers : List DelayedUpdate := []
  /-- the running transitions, each by its number -/
  transitions : List Nat := []
  disposed : Bool := false

namespace DeviceStateController

def ofOptions (options : ControllerOptions) : DeviceStateController :=
  { options, current := options.initialState }

def pendingTimerCount (controller : DeviceStateController) : Nat := controller.timers.length

def activeTransitionCount (controller : DeviceStateController) : Nat :=
  controller.transitions.length

-- `stringify` is `JSON.stringify`
variable (stringify : JsonObject → String)

def publishState (controller : DeviceStateController) (force : Bool) :
    DeviceStateController × Option Publication :=
  let payload := stringify controller.current
  if force = false ∧ controller.lastPublishedPayload = some payload then (controller, none)
  else
    ({ controller with lastPublishedPayload := some payload },
      some ⟨controller.options.stateTopic, payload, controller.options.retainState⟩)

def merge (controller : DeviceStateController) (patch : JsonObject) : DeviceStateController :=
  { controller with current := controller.current.merge patch }

def applyAndMaybePublish (controller : DeviceStateController) (patch : JsonObject)
    (shouldPublish force : Bool) : DeviceStateController × Option Publication :=
  if shouldPublish then (controller.merge patch).publishState stringify force
  else (controller.merge patch, none)

end DeviceStateController

/-! ## Transitions -/

structure StateTransitionOptions where
  durationMs : JsNumber
  steps : JsNumber
  forcePublish : Option Bool := none
  group : Option String := none
  /-- there is an `onSettled` to call -/
  onSettled : Bool := false

/-- `Math.max(1, Math.floor(steps))` -/
def wholeSteps : JsNumber → JsNumber
  | .finite steps => .finite (max 1 ⌊steps⌋)
  | .infinity negative => if negative then .finite 1 else .infinity false
  | .nan => .nan

/-- `a <= b` -/
def atMost (a b : JsNumber) : Bool := a.lt b || a.eq b

namespace StateTransitionOptions

def force (options : StateTransitionOptions) : Bool := options.forcePublish != some false

/-- `index <= steps` -/
def hasFrame (options : StateTransitionOptions) (index : Nat) : Bool :=
  atMost (.finite index) (wholeSteps options.steps)

/-- `index >= steps` -/
def isLast (options : StateTransitionOptions) (index : Nat) : Bool :=
  atMost (wholeSteps options.steps) (.finite index)

def stepMs (options : StateTransitionOptions) : JsNumber :=
  match options.durationMs with
  | .finite durationMs =>
      if durationMs ≤ 0 then .finite 0
      else
        match wholeSteps options.steps with
        | .finite steps => .finite (durationMs / steps)
        | .infinity _ => .finite 0
        | .nan => .nan
  | _ => .finite 0

/-- The timers one step is waited out in. -/
def waitsPerStep (options : StateTransitionOptions) (maxDelayMs : ℚ) : Nat :=
  match options.stepMs with
  | .finite stepMs =>
      if 0 < maxDelayMs ∧ maxDelayMs < stepMs then ⌈stepMs / maxDelayMs⌉₊ else 1
  | _ => 1

end StateTransitionOptions

/-- What `transition` came to: nothing after `dispose`, all its frames at once when the budget
is exhausted, or a step at a time. -/
inductive Course where
  | refused
  | atOnce
  | scheduled
  deriving DecidableEq

structure RunningTransition where
  controller : Nat
  options : StateTransitionOptions
  course : Course
  /-- a timer is set -/
  timer : Bool := false
  settled : Bool := false
  index : Nat := 0
  waitsElapsed : Nat := 0

/-- What the simulator lets others see, and `settled t` when the transition's flag is set. -/
inductive Fact where
  /-- with the transition whose frame it is -/
  | published (frameOf : Option Nat) (publication : Publication)
  | settled (t : Nat)
  | onSettled (t : Nat) (completed : Bool)
  | cancelTransitionsReturned (cancelled : Nat)
  deriving DecidableEq

/-- What has been begun and not returned. -/
inductive Activation where
  /-- `frame`, for a step that is due -/
  | frame (t : Nat)
  /-- `frame`, in the loop over all frames -/
  | frameAtOnce (t index : Nat)
  | onSettled (t : Nat)
  /-- the rest of the loop in `cancelTransitions` -/
  | cancelling (group : Option String) (rest : List Nat) (cancelled : Nat)
  /-- `transition` behind its `cancelTransitions` -/
  | starting (controller : Nat) (options : StateTransitionOptions)
  /-- `dispose` behind its `cancelTransitions` -/
  | disposing (controller : Nat)

/-- The controllers, the transitions begun so far, and the delays of the acknowledgements the
command router holds back. -/
structure SimulatorRuntime where
  budget : TimerBudget
  controllers : List DeviceStateController
  started : List RunningTransition := []
  ackTimers : List ℚ := []
  stack : List Activation := []
  log : List Fact := []

/-- What a scenario, or a callback of it, may call. -/
inductive Call where
  | update (controller : Nat) (patch : JsonObject) (options : StateUpdateOptions)
  | publish (controller : Nat) (force : Bool)
  | transition (controller : Nat) (options : StateTransitionOptions)
  | cancel (t : Nat)
  | cancelTransitions (controller : Nat) (group : Option String)
  | dispose (controller : Nat)
  | disposeRouter

inductive Event where
  | call (call : Call)
  /-- a callback returns, the one of a frame with its patch -/
  | returned (patch : Option JsonObject)
  | resume
  /-- the timer of a delayed update -/
  | expire (controller index : Nat)
  /-- the timer of a transition -/
  | step (t : Nat)
  /-- an acknowledgement that is to wait -/
  | sleep (ms : ℚ)
  /-- the timer of such a one -/
  | wake (index : Nat)

namespace SimulatorRuntime

variable (stringify : JsonObject → String)

def ofControllers (max : ℤ) (controllers : List ControllerOptions) : SimulatorRuntime :=
  { budget := .ofMax max, controllers := controllers.map .ofOptions }

/-- The controller has changed, and may have published. -/
def changed (s : SimulatorRuntime) (c : Nat) (frameOf : Option Nat)
    (result : DeviceStateController × Option Publication) : SimulatorRuntime :=
  { s with
    controllers := s.controllers.set c result.1
    log := s.log ++ (result.2.map (Fact.published frameOf)).toList }

def update (s : SimulatorRuntime) (c : Nat) (controller : DeviceStateController)
    (patch : JsonObject) (options : StateUpdateOptions) : SimulatorRuntime :=
  let shouldPublish := options.publish != some false
  let force := options.forcePublish == some true
  let now := s.changed c none (controller.applyAndMaybePublish stringify patch shouldPublish force)
  if controller.disposed then s
  else if 0 < clampDelay controller.options.maxDelayMs options.delayMs then
    match s.budget.tryAcquire with
    | none => now
    | some budget =>
        let delayed : DelayedUpdate := ⟨patch, shouldPublish, force⟩
        { s with
          budget
          controllers := s.controllers.set c { controller with
            timers := controller.timers ++ [delayed] } }
  else now

/-- The timer of a delayed update. -/
def expire (s : SimulatorRuntime) (c : Nat) (controller : DeviceStateController) (index : Nat)
    (delayed : DelayedUpdate) : SimulatorRuntime :=
  let rest := { controller with timers := controller.timers.eraseIdx index }
  let released := { s with budget := s.budget.release }
  if controller.disposed then released.changed c none (rest, none)
  else
    released.changed c none
      (rest.applyAndMaybePublish stringify delayed.patch delayed.shouldPublish delayed.force)

/-- The transition's flag is set, and its `onSettled` called. -/
def conclude (s : SimulatorRuntime) (t : Nat) (running : RunningTransition) (completed : Bool) :
    SimulatorRuntime :=
  { s with
    started := s.started.set t { running with settled := true, timer := false }
    stack := if running.options.onSettled then .onSettled t :: s.stack else s.stack
    log := s.log ++ .settled t ::
      if running.options.onSettled then [.onSettled t completed] else [] }

/-- The transition is deleted from the set of its controller. -/
def freeSlot (s : SimulatorRuntime) (t : Nat) (running : RunningTransition) : SimulatorRuntime :=
  { s with
    controllers := s.controllers.modify running.controller fun controller =>
      { controller with transitions := controller.transitions.erase t }
    budget := s.budget.release }

def settle (s : SimulatorRuntime) (t : Nat) (running : RunningTransition) (completed : Bool) :
    SimulatorRuntime :=
  if running.settled then s else (s.freeSlot t running).conclude t running completed

/-- The loop over all frames, from one on; behind it the last state is published. -/
def atOnce (s : SimulatorRuntime) (t index : Nat) (running : RunningTransition)
    (controller : DeviceStateController) : SimulatorRuntime :=
  if running.options.hasFrame index then { s with stack := .frameAtOnce t index :: s.stack }
  else
    (s.changed running.controller (some t)
      (controller.publishState stringify running.options.force)).conclude t running true

/-- `transition`, behind its `cancelTransitions`. -/
def start (s : SimulatorRuntime) (c : Nat) (controller : DeviceStateController)
    (options : StateTransitionOptions) : SimulatorRuntime :=
  let t := s.started.length
  if controller.disposed then
    let refused : RunningTransition := ⟨c, options, .refused, false, true, 0, 0⟩
    { s with started := s.started ++ [refused], log := s.log ++ [.settled t] }
  else
    match s.budget.tryAcquire with
    | none =>
        let running : RunningTransition := ⟨c, options, .atOnce, false, false, 0, 0⟩
        { s with started := s.started ++ [running] }.atOnce stringify t 1 running controller
    | some budget =>
        let running : RunningTransition := ⟨c, options, .scheduled, true, false, 0, 0⟩
        { s with
          budget
          started := s.started ++ [running]
          controllers := s.controllers.set c { controller with
            transitions := controller.transitions ++ [t] } }

/-- A repeated interaction replaces its own animation. -/
def transition (s : SimulatorRuntime) (c : Nat) (controller : DeviceStateController)
    (options : StateTransitionOptions) : SimulatorRuntime :=
  let replaced : List Activation :=
    match truthy options.group with
    | none => []
    | some group => [.cancelling (some group) controller.transitions 0]
  { s with stack := replaced ++ .starting c options :: s.stack }

/-- The timer of a transition. -/
def dueStep (s : SimulatorRuntime) (t : Nat) (running : RunningTransition)
    (controller : DeviceStateController) : SimulatorRuntime :=
  let running := { running with timer := false }
  if controller.disposed || running.settled then { s with started := s.started.set t running }
  else if running.waitsElapsed + 1 < running.options.waitsPerStep controller.options.maxDelayMs then
    { s with started := s.started.set t { running with
        timer := true
        waitsElapsed := running.waitsElapsed + 1 } }
  else
    { s with
      started := s.started.set t { running with waitsElapsed := 0, index := running.index + 1 }
      stack := .frame t :: s.stack }

/-- A due step, behind its `frame`. -/
def afterFrame (s : SimulatorRuntime) (t : Nat) (running : RunningTransition)
    (controller : DeviceStateController) (patch : Option JsonObject) : SimulatorRuntime :=
  let applied :=
    match patch with
    | none => s
    | some patch =>
        s.changed running.controller (some t)
          (controller.applyAndMaybePublish stringify patch true running.options.force)
  if running.options.isLast running.index then applied.settle t running true
  else { applied with started := applied.started.set t { running with timer := true } }

/-- The loop over all frames, behind a `frame`. -/
def afterFrameAtOnce (s : SimulatorRuntime) (t index : Nat) (running : RunningTransition)
    (controller : DeviceStateController) (patch : Option JsonObject) : SimulatorRuntime :=
  let controller := patch.elim controller controller.merge
  (s.changed running.controller none (controller, none)).atOnce stringify t (index + 1) running
    controller

/-- `dispose`, behind its `cancelTransitions`. -/
def clearTimers (s : SimulatorRuntime) (c : Nat) (controller : DeviceStateController) :
    SimulatorRuntime :=
  { s with
    budget := controller.timers.foldl (fun budget _ => budget.release) s.budget
    controllers := s.controllers.set c { controller with timers := [] } }

def dispose (s : SimulatorRuntime) (c : Nat) (controller : DeviceStateController) :
    SimulatorRuntime :=
  { s with
    controllers := s.controllers.set c { controller with disposed := true }
    stack := .cancelling none controller.transitions 0 :: .disposing c :: s.stack }

/-! ## The command router -/

def sleep (s : SimulatorRuntime) (ms : ℚ) : SimulatorRuntime :=
  if ms ≤ 0 then s
  else
    match s.budget.tryAcquire with
    | none => s
    | some budget => { s with budget, ackTimers := s.ackTimers ++ [ms] }

def wake (s : SimulatorRuntime) (index : Nat) : SimulatorRuntime :=
  if index < s.ackTimers.length then
    { s with ackTimers := s.ackTimers.eraseIdx index, budget := s.budget.release }
  else s

def disposeRouter (s : SimulatorRuntime) : SimulatorRuntime :=
  { s with
    budget := s.ackTimers.foldl (fun budget _ => budget.release) s.budget
    ackTimers := [] }

/-! ## The machine -/

/-- One more transition of the loop in `cancelTransitions`, or its end. -/
def cancelNext (s : SimulatorRuntime) (group : Option String) (rest : List Nat) (cancelled : Nat) :
    SimulatorRuntime :=
  match rest with
  | [] => { s with log := s.log ++ [.cancelTransitionsReturned cancelled] }
  | t :: rest =>
      match s.started[t]? with
      | none => s
      | some running =>
          if group ≠ none ∧ truthy running.options.group ≠ group then
            { s with stack := .cancelling group rest cancelled :: s.stack }
          else
            { s with stack := .cancelling group rest (cancelled + 1) :: s.stack }.settle t running
              false

/-- A transition, and the controller it is one of. -/
def lookup (s : SimulatorRuntime) (t : Nat) :
    Option (RunningTransition × DeviceStateController) := do
  let running ← s.started[t]?
  let controller ← s.controllers[running.controller]?
  return (running, controller)

/-- The handle of a transition that runs at once is returned when it has settled. -/
def handed (running : RunningTransition) : Bool := running.course ≠ .atOnce || running.settled

def makeCall (s : SimulatorRuntime) : Call → SimulatorRuntime
  | .update c patch options =>
      (s.controllers[c]?).elim s fun controller => s.update stringify c controller patch options
  | .publish c force =>
      (s.controllers[c]?).elim s fun controller =>
        if controller.disposed then s
        else s.changed c none (controller.publishState stringify force)
  | .transition c options =>
      (s.controllers[c]?).elim s fun controller => s.transition c controller options
  | .cancel t =>
      (s.started[t]?).elim s fun running =>
        if handed running then s.settle t running false else s
  | .cancelTransitions c group =>
      (s.controllers[c]?).elim s fun controller =>
        { s with stack := .cancelling group controller.transitions 0 :: s.stack }
  | .dispose c => (s.controllers[c]?).elim s fun controller => s.dispose c controller
  | .disposeRouter => s.disposeRouter

/-- A statement of the source that is next. -/
def resume (s : SimulatorRuntime) : SimulatorRuntime :=
  match s.stack with
  | .cancelling group rest cancelled :: stack =>
      { s with stack }.cancelNext group rest cancelled
  | .starting c options :: stack =>
      (s.controllers[c]?).elim s fun controller =>
        { s with stack }.start stringify c controller options
  | .disposing c :: stack =>
      (s.controllers[c]?).elim s fun controller => { s with stack }.clearTimers c controller
  | _ => s

/-- The callback on top of the stack returns. -/
def returned (s : SimulatorRuntime) (patch : Option JsonObject) : SimulatorRuntime :=
  match s.stack with
  | .frame t :: stack =>
      (s.lookup t).elim s fun found =>
        { s with stack }.afterFrame stringify t found.1 found.2 patch
  | .frameAtOnce t index :: stack =>
      (s.lookup t).elim s fun found =>
        { s with stack }.afterFrameAtOnce stringify t index found.1 found.2 patch
  | .onSettled _ :: stack => { s with stack }
  | _ => s

/-- Nothing runs, or a callback does. -/
def callable : List Activation → Bool
  | [] => true
  | .frame _ :: _ => true
  | .frameAtOnce _ _ :: _ => true
  | .onSettled _ :: _ => true
  | _ => false

def stepTimer (s : SimulatorRuntime) (t : Nat) : SimulatorRuntime :=
  (s.lookup t).elim s fun found =>
    if found.1.timer then s.dueStep t found.1 found.2 else s

def expireTimer (s : SimulatorRuntime) (c index : Nat) : SimulatorRuntime :=
  (s.controllers[c]?).elim s fun controller =>
    (controller.timers[index]?).elim s (s.expire stringify c controller index)

def event (s : SimulatorRuntime) : Event → SimulatorRuntime
  | .call call => if callable s.stack then s.makeCall stringify call else s
  | .returned patch => s.returned stringify patch
  | .resume => s.resume stringify
  | .expire c index => if s.stack.isEmpty then s.expireTimer stringify c index else s
  | .step t => if s.stack.isEmpty then s.stepTimer t else s
  | .sleep ms => if s.stack.isEmpty then s.sleep ms else s
  | .wake index => if s.stack.isEmpty then s.wake index else s

end SimulatorRuntime

end Aeolus.Simulator
