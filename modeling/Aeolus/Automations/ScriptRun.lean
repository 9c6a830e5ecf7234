/-
# Aeolus.Automations.ScriptRun — one script in the sandbox

`__runAutomation`, `automation` and the wrappers `devices.action` and `devices.actionAll` of
the bootstrap script of `src/automations/sandbox.ts`, with the host callbacks behind them and
the completion wait of `Sandbox.execute`.

What the author's functions do is not known: conditions, actions and imperative code issue
calls to the host, return and throw at any time, and the host answers at any time.  A run is
any sequence of these events.  Fixed is what the bootstrap and the host make of them: the loop
over the actions with its one variable `commandFailed`, the results that are collected, the
two stages of the wait and their common deadline.
-/
import Aeolus.Automations.ExecutionResult

namespace Aeolus.Automations

open Aeolus.Core Aeolus.Theory

/-! ## `automation()` -/

inductive ConditionOutcome where
  | holds
  | fails
  | throws
deriving DecidableEq

/-- A call of `automation`: what its conditions answer, and how many actions it has. -/
structure AutomationConfig where
  conditions : List ConditionOutcome := []
  actions : Nat
  continueOnFailure : Bool := false
deriving DecidableEq

inductive BodyStatus where
  | running
  | resolved
  | rejected
deriving DecidableEq

/-- The body of one call; it is in its last invoked action while it is running. -/
structure AutomationBody where
  config : AutomationConfig
  invoked : Nat := 0
  status : BodyStatus
deriving DecidableEq

/-- The loop over the conditions, which ends at the first that does not hold. -/
def checkConditions : List ConditionOutcome → ConditionOutcome
  | [] => .holds
  | .holds :: rest => checkConditions rest
  | outcome :: _ => outcome

/-- `__runAutomation`, up to its first `await`. -/
def runAutomation (config : AutomationConfig) : AutomationBody :=
  match checkConditions config.conditions with
  | .fails => { config, status := .resolved }
  | .throws => { config, status := .rejected }
  | .holds =>
      if config.actions = 0 then { config, status := .resolved }
      else { config, invoked := 1, status := .running }

/-- The rest of the loop when the current action has returned. -/
def AutomationBody.returned (body : AutomationBody) (commandFailed : Bool) : AutomationBody :=
  if !body.config.continueOnFailure && commandFailed then { body with status := .resolved }
  else if body.invoked < body.config.actions then { body with invoked := body.invoked + 1 }
  else { body with status := .resolved }

/-! ## Calls to the host -/

/-- A call of `devices.action` or `devices.actionAll`.  `owner` is the body and the action
that made it, if an action did.  `preflight` says that the wrapper found the arguments wrong:
the host then records one failure. -/
structure HostCall where
  owner : Option (Nat × Nat) := none
  preflight : Bool := false
  /-- recorded so far; one for each command, or one for the call when it is refused -/
  results : List CommandResult := []
  settled : Bool := false
  /-- has the wrapper's `then` run? -/
  delivered : Bool := false

def HostCall.succeeded (call : HostCall) : Bool := call.results.all (·.success)

/-! ## The run -/

inductive ScriptPhase where
  /-- the script itself is running -/
  | script
  | returned
  /-- stage 1: the first bodies are awaited, so many of them -/
  | bodies (awaited : Nat)
  /-- stage 2 -/
  | draining
  /-- the `try` block has ended and the isolate is gone -/
  | ended (outcome : Except Thrown Unit)
  /-- the engine has closed the collector -/
  | closed (outcome : Except Thrown Unit)

structure ScriptRun where
  bodies : List AutomationBody := []
  calls : List HostCall := []
  collected : List CommandResult := []
  commandFailed : Bool := false
  phase : ScriptPhase := .script
  /-- has the deadline passed? -/
  expired : Bool := false
  /-- a record no code reads: was work under way when the wait gave up? -/
  abandoned : Bool := false

inductive ScriptEvent where
  | automation (config : AutomationConfig)
  /-- the current action of a body makes a call, or imperative code does -/
  | issue (body : Option Nat) (preflight : Bool)
  /-- the host records a command result of call `c` -/
  | records (c : Nat) (result : CommandResult)
  | settles (c : Nat)
  | delivers (c : Nat)
  | actionReturns (b : Nat)
  | actionThrows (b : Nat)
  | scriptReturns
  | scriptThrows (thrown : Thrown)
  | awaitAutomations
  | expires
  | bodiesDone
  | drained
  | closes

namespace ScriptRun

variable (s : ScriptRun)

/-- Is the isolate there? -/
def live : Bool :=
  match s.phase with
  | .ended _ => false
  | .closed _ => false
  | _ => true

def isClosed : Bool :=
  match s.phase with
  | .closed _ => true
  | _ => false

/-- The body, while it is running. -/
def runningBody (b : Nat) : Option AutomationBody :=
  s.bodies[b]?.filter (·.status = .running)

/-- Of the awaited bodies, does one run?  Has one been rejected? -/
def someRuns (awaited : Nat) : Bool := (s.bodies.take awaited).any (·.status = .running)

def someRejected (awaited : Nat) : Bool := (s.bodies.take awaited).any (·.status = .rejected)

/-- Is a call in flight? -/
def inFlight : Bool := s.calls.any (!·.settled)

def setBody (b : Nat) (body : AutomationBody) : ScriptRun :=
  { s with bodies := s.bodies.set b body }

def setCall (c : Nat) (call : HostCall) : ScriptRun := { s with calls := s.calls.set c call }

/-- A call that is refused at once counts as failed at once. -/
def newCall (owner : Option (Nat × Nat)) (preflight : Bool) : ScriptRun :=
  { s with
    calls := s.calls ++ [{ owner, preflight }]
    commandFailed := s.commandFailed || preflight }

def step : ScriptEvent → ScriptRun
  | .automation config =>
      if s.live then
        { s with bodies := s.bodies ++ [runAutomation config], commandFailed := false }
      else s
  | .issue none preflight => if s.live then s.newCall none preflight else s
  | .issue (some b) preflight =>
      match s.runningBody b with
      | some body => if s.live then s.newCall (some (b, body.invoked - 1)) preflight else s
      | none => s
  | .records c result =>
      match s.calls[c]? with
      | some call =>
          if call.settled || s.isClosed || (call.preflight && result.success) then s
          else
            { s.setCall c { call with results := call.results ++ [result] } with
              collected := s.collected ++ [result] }
      | none => s
  | .settles c =>
      match s.calls[c]? with
      | some call =>
          if call.preflight && call.results.isEmpty then s
          else s.setCall c { call with settled := true }
      | none => s
  | .delivers c =>
      match s.calls[c]? with
      | some call =>
          if call.settled && !call.delivered && s.live then
            { s.setCall c { call with delivered := true } with
              commandFailed := s.commandFailed || (!call.preflight && !call.succeeded) }
          else s
      | none => s
  | .actionReturns b =>
      match s.runningBody b with
      | some body => if s.live then s.setBody b (body.returned s.commandFailed) else s
      | none => s
  | .actionThrows b =>
      match s.runningBody b with
      | some body => if s.live then s.setBody b { body with status := .rejected } else s
      | none => s
  | .scriptReturns =>
      match s.phase with
      | .script => { s with phase := .returned }
      | _ => s
  | .scriptThrows thrown =>
      match s.phase with
      | .script => { s with phase := .ended (.error thrown) }
      | _ => s
  | .awaitAutomations =>
      match s.phase with
      | .returned => { s with phase := .bodies s.bodies.length }
      | _ => s
  | .expires =>
      -- the deadline is set when the script has returned
      match s.phase with
      | .script => s
      | _ => { s with expired := true }
  | .bodiesDone =>
      -- `Promise.all` settles with the first rejection; its rejection is swallowed
      match s.phase with
      | .bodies awaited =>
          if s.someRejected awaited || !s.someRuns awaited then { s with phase := .draining }
          else if s.expired then { s with phase := .draining, abandoned := true }
          else s
      | _ => s
  | .drained =>
      match s.phase with
      | .draining =>
          if !s.inFlight then { s with phase := .ended (.ok ()) }
          else if s.expired then { s with phase := .ended (.ok ()), abandoned := true }
          else s
      | _ => s
  | .closes =>
      match s.phase with
      | .ended outcome => { s with phase := .closed outcome }
      | _ => s

/-- What the engine makes of the run, once it has closed the collector; nothing when
`Sandbox.execute` rejects. -/
def result (executionId : String) (wasDisposed : Bool) : Option AutomationExecutionResult :=
  match s.phase with
  | .closed outcome =>
      (executeSettles true wasDisposed outcome).toOption.map fun sandboxResult =>
        assembleExecutionResult executionId (scriptLogic sandboxResult) (s.collected.map some)
  | _ => none

end ScriptRun

end Aeolus.Automations
