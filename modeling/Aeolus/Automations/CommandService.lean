/-
# Aeolus.Automations.CommandService — one command from request to result

`src/automations/command-service.ts`, composed with the tracker and the history
store as `src/index.ts` composes them.  `CommandService.execute` is an `async`
function with two suspension points, so a call runs in three synchronous segments:

* `execute` — the pre-acceptance checks, the `REQUESTED` record, the registration
  with the tracker, up to the call of the action handler;
* `handlerSettles` — from the handler's outcome to the result, or to the wait for
  the confirmation;
* `resolutionSettles` — from the tracker's resolution to the result.

Between the segments anything can happen: replies, observations, timers, other
commands, a restart.  `System.step` is one such event, a run is any sequence of
them.  The handler is code of a connector and only its outcome is seen here;
`uuid` is the sequence of values `randomUUID` returns.

A write to the store can throw.  `recordTransition` and the tracker's adapter
swallow that, so every event that writes says which of its writes throw.
-/
import Mathlib.Data.Finset.Basic
import Aeolus.Automations.CommandHistoryStore
import Aeolus.Automations.PendingCommandTracker

namespace Aeolus.Automations

open Aeolus.Theory
open Aeolus.Core

/-! ## Requests and results -/

inductive CommandSource where
  | automation (ruleId : String)
  | rest (label : Option String)
  | system (label : String)
deriving DecidableEq, Repr

structure CommandCorrelation where
  correlationId : String
  responseTopic : String
deriving DecidableEq, Repr

structure ActionDescriptor where
  type : String
  target : String
  params : JsonObject
  correlation : Option CommandCorrelation := none

structure ConfirmOptions where
  deviceId : Option String := none
  condition : Condition
  timeoutMs : Option Nat := none
  conditionSpec : Option JsonObject := none

def defaultConfirmTimeoutMs : Nat := 5000

structure CommandRequest where
  action : ActionDescriptor
  source : CommandSource
  confirm : Option ConfirmOptions := none
  requiredTier : Option ConfirmationTier := none

structure ActionResult where
  success : Bool
  data : Option JsonObject := none
  error : Option String := none
  lifecycleState : Option CommandLifecycleState := none
  correlationId : Option String := none
  commandId : Option String := none
  failureKind : Option CommandFailureKind := none

structure AcknowledgementCapability where
  supported : Bool
  responseTopic : Option String := none
  ackIndicatorField : Option String := none
  ackIndicatorValues : Option (List String) := none

inductive AuthorizationScope where
  | unrestricted
  | scoped (deviceIds : Finset String)

/-- What `execute` reads of the system around it at the moment it runs. -/
structure Environment where
  handler : String → Bool
  physical : String → Bool
  ackCapability : String → Option AcknowledgementCapability
  device : String → Bool
  scope : String → AuthorizationScope
  executionId : Option String := none
  causationId : Option String := none
  ackResponseTopicBase : String := "aeolus/acks"

/-! ## The checks before acceptance -/

def refusal (error : String) (kind : CommandFailureKind) : ActionResult :=
  { success := false, error := some error, lifecycleState := some .failed,
    failureKind := some kind }

/-- Only an automation is scope-checked, only its `publish`, `webhook`,
`device_action` and `toggle` actions, and of these only the action's target. -/
def checkScope (env : Environment) (action : ActionDescriptor) :
    CommandSource → Option ActionResult
  | .automation ruleId =>
      match env.scope ruleId with
      | .unrestricted => none
      | .scoped deviceIds =>
          if action.type = "publish" ∨ action.type = "webhook" then
            some (refusal ("Action '" ++ action.type ++
              "' is not permitted for a scoped automation") .unauthorized)
          else if action.type = "device_action" ∨ action.type = "toggle" then
            if action.target ∈ deviceIds then none
            else some (refusal ("Device '" ++ action.target ++
              "' is outside this automation's authorization scope") .unauthorized)
          else none
  | .rest _ => none
  | .system _ => none

/-- The request-level refusals: no handler, or out of scope. -/
def preAcceptance (env : Environment) (request : CommandRequest) : Option ActionResult :=
  if env.handler request.action.type then checkScope env request.action request.source
  else some (refusal ("No handler for action type: '" ++ request.action.type ++ "'") .unsupported)

/-! ## Acceptance -/

def provable (hasConfirm hasAckCapability : Bool) : ConfirmationTier → Bool
  | .dispatch => true
  | .acknowledged => hasAckCapability
  | .observed => hasConfirm

/-- A tier the device cannot prove is clamped to the highest it can. -/
def resolveEffectiveTier (requiredTier : Option ConfirmationTier) (ceiling : ConfirmationTier)
    (hasConfirm hasAckCapability : Bool) : ConfirmationTier :=
  match requiredTier with
  | none => ceiling
  | some tier => if provable hasConfirm hasAckCapability tier then tier else ceiling

/-- What the rest of `execute` closes over once a request is accepted. -/
structure Accepted where
  request : CommandRequest
  commandId : Option String
  correlationId : Option String
  tier : ConfirmationTier
  ackCapability : Option AcknowledgementCapability

namespace Accepted

def observedDeviceId (a : Accepted) : String :=
  (a.request.confirm.bind ConfirmOptions.deviceId).getD a.request.action.target

def timeoutMs (a : Accepted) : Nat :=
  (a.request.confirm.bind ConfirmOptions.timeoutMs).getD defaultConfirmTimeoutMs

def conditionSpec (a : Accepted) : Option JsonObject :=
  a.request.confirm.bind ConfirmOptions.conditionSpec

def hasAckCapability (a : Accepted) : Bool :=
  match a.ackCapability with
  | some capability => capability.supported
  | none => false

/-- The action the handler gets: with a correlation envelope when the device is
expected to reply. -/
def dispatchAction (env : Environment) (a : Accepted) : ActionDescriptor :=
  match a.correlationId with
  | some correlationId =>
      if a.hasAckCapability then
        { a.request.action with
          correlation := some
            { correlationId := correlationId
              responseTopic := (a.ackCapability.bind (·.responseTopic)).getD
                (env.ackResponseTopicBase ++ "/" ++ a.request.action.target) } }
      else a.request.action
  | none => a.request.action

def withId (a : Accepted) (result : ActionResult) : ActionResult :=
  match a.commandId with
  | some commandId => { result with commandId := some commandId }
  | none => result

/-- The command as it is registered with the tracker. -/
def pendingCommand (a : Accepted) (correlationId : String) : PendingCommand :=
  { commandId := a.commandId
    correlationId := correlationId
    targetDeviceId := a.request.action.target
    observedDeviceId := a.observedDeviceId
    requiredTier := if a.tier = .acknowledged then .acknowledged else .observed
    condition := a.request.confirm.map ConfirmOptions.condition
    timeoutMs := a.timeoutMs
    ackIndicatorField := (a.ackCapability.bind (·.ackIndicatorField)).filter (· ≠ "")
    ackIndicatorValues := a.ackCapability.bind (·.ackIndicatorValues) }

def sourceKind : CommandSource → CommandSourceKind
  | .automation _ => .automation
  | .rest _ => .rest
  | .system _ => .system

def record (env : Environment) (a : Accepted) (commandId : String) (now : Nat) : CommandRecord :=
  { commandId := commandId
    correlationId := a.correlationId
    sourceKind := sourceKind a.request.source
    sourceId :=
      match a.request.source with
      | .automation ruleId => some ruleId
      | .rest label => label.filter (· ≠ "")
      | .system label => (some label).filter (· ≠ "")
    ruleId :=
      match a.request.source with
      | .automation ruleId => some ruleId
      | _ => none
    executionId := env.executionId.filter (· ≠ "")
    causationId := env.causationId.filter (· ≠ "")
    targetDeviceId := a.request.action.target
    actionType := a.request.action.type
    requestedTier := a.request.requiredTier
    effectiveTier := a.tier
    lifecycleState := .requested
    requestedAt := now
    ackAvailable := some a.hasAckCapability
    observationConfigured := some a.request.confirm.isSome }

/-- The opening rung states the contract the command has to meet. -/
def requestedEvidence (a : Accepted) : Option CommandEvidence :=
  buildCommandEvidence
    { tier := some a.tier
      observedDeviceId :=
        if a.observedDeviceId ≠ a.request.action.target then some a.observedDeviceId else none
      condition := a.conditionSpec
      timeoutMs := if a.tier ≠ .dispatch then some a.timeoutMs else none
      reason := some (describeRung .requested) }

end Accepted

/-- Acceptance: a command id for a physical action, the effective tier, and a
correlation id for a command that will be tracked. -/
def accept (uuid : Nat → String) (uuids : Nat) (env : Environment) (request : CommandRequest) :
    Accepted × Nat :=
  let physical := env.physical request.action.type
  let capability := env.ackCapability request.action.target
  let hasAckCapability := capability.elim false (·.supported)
  let hasConfirm := request.confirm.isSome
  let tier := resolveEffectiveTier request.requiredTier
    (selectRequiredTier hasConfirm hasAckCapability) hasConfirm hasAckCapability
  let afterCommand := if physical then uuids + 1 else uuids
  ({ request := request
     commandId := if physical then some (uuid uuids) else none
     correlationId := if tier ≠ .dispatch then some (uuid afterCommand) else none
     tier := tier
     ackCapability := capability },
    if tier ≠ .dispatch then afterCommand + 1 else afterCommand)

/-! ## The system -/

inductive HandlerOutcome where
  | threw (message : String)
  | returned (result : Option ActionResult)

/-- Where a call stands.  `written` of a settled one: its completing write reached
the store. -/
inductive Phase where
  | dispatching
  | awaiting (data : Option JsonObject)
  | settled (result : ActionResult) (written : Bool)
  | lost

structure Execution where
  accepted : Option Accepted
  phase : Phase

structure System where
  store : CommandHistoryStore := {}
  tracker : PendingCommandTracker := {}
  executions : OrderedMap Nat Execution := .empty
  calls : Nat := 0
  uuids : Nat := 0

/-- `recordTransition`: silent without a command id, and when the write throws. -/
def recordTransition (store : CommandHistoryStore) (commandId : Option String) (throws : Bool)
    (input : String → CommandTransitionInput) : CommandHistoryStore :=
  match commandId with
  | none => store
  | some id => if throws then store else store.transition (input id)

/-- The completing write of a failed command. -/
def failedInput (now : Nat) (failureKind : Option CommandFailureKind) (error : Option String)
    (evidence : Option CommandEvidence) (commandId : String) : CommandTransitionInput :=
  { commandId := commandId
    toState := .failed
    timestamp := now
    success := some false
    failureKind := failureKind.map .kind
    error := error
    terminal := true
    details := evidence <|> buildCommandEvidence { reason := some (describeRung .failed error) } }

/-- The `DISPATCHED` write: the completion of a dispatch-only command, a milestone
of a tracked one. -/
def dispatchedInput (now : Nat) (completes : Bool) (commandId : String) : CommandTransitionInput :=
  { commandId := commandId
    toState := .dispatched
    timestamp := now
    success := if completes then some true else none
    terminal := completes
    details := buildCommandEvidence { reason := some (describeRung .dispatched) } }

/-- The completing write of a confirmed command; a failed wait restates what went
unmet. -/
def resolvedInput (a : Accepted) (resolution : PendingResolution) (now : Nat)
    (commandId : String) : CommandTransitionInput :=
  let unmet := resolution.lifecycleState = .timedOut ∨ resolution.lifecycleState = .stateMismatch
  { commandId := commandId
    toState := resolution.lifecycleState
    timestamp := now
    success := some resolution.success
    error := resolution.error
    terminal := true
    details := buildCommandEvidence
      { tier := some a.tier
        observedDeviceId := if unmet then some a.observedDeviceId else none
        condition := if unmet then a.conditionSpec else none
        timeoutMs := if unmet then some a.timeoutMs else none
        reason := some (describeRung resolution.lifecycleState resolution.error) } }

def Callback.transition : Callback → Option PendingCommandTransition
  | .onTransition event => some event
  | _ => none

namespace System

def begin (s : System) (accepted : Option Accepted) (phase : Phase) : System :=
  { s with executions := s.executions.set s.calls ⟨accepted, phase⟩, calls := s.calls + 1 }

def advanceTo (s : System) (call : Nat) (a : Accepted) (phase : Phase) : System :=
  { s with executions := s.executions.set call ⟨some a, phase⟩ }

/-- The durable `REQUESTED` record, for a physical action only. -/
def createRecord (store : CommandHistoryStore) (env : Environment) (a : Accepted) (now : Nat)
    (throws : Bool) : Option CommandHistoryStore :=
  match a.commandId with
  | none => some store
  | some id =>
      if throws then none
      else
        match store.create (a.record env id now) a.requestedEvidence with
        | .ok store' => some store'
        | .error _ => none

def notFoundError (a : Accepted) : String :=
  "Confirmation observed device '" ++ a.observedDeviceId ++ "' not found"

/-- The first segment.  `createThrows` and `writeThrows` say which of its two
writes throw. -/
def execute (uuid : Nat → String) (s : System) (env : Environment) (request : CommandRequest)
    (now : Nat) (createThrows writeThrows : Bool) : System :=
  match preAcceptance env request with
  | some result => s.begin none (.settled result false)
  | none =>
      let (a, uuids) := accept uuid s.uuids env request
      let s := { s with uuids := uuids }
      match createRecord s.store env a now createThrows with
      | none =>
          s.begin (some a) (.settled (a.withId
            (refusal "Command history unavailable; command refused before dispatch" .execution))
            false)
      | some store =>
          let s := { s with store := store }
          if a.tier = .observed ∧ !env.device a.observedDeviceId then
            let evidence := buildCommandEvidence
              { observedDeviceId := some a.observedDeviceId
                reason := some ("Nothing could confirm this command: observed device '" ++
                  a.observedDeviceId ++ "' is not present") }
            let s := { s with
              store := recordTransition s.store a.commandId writeThrows
                (failedInput now (some .notFound) (some (notFoundError a)) evidence) }
            s.begin (some a)
              (.settled (a.withId (refusal (notFoundError a) .notFound)) (!writeThrows))
          else
            match a.correlationId with
            | none => s.begin (some a) .dispatching
            | some id =>
                { s with tracker := s.tracker.register (a.pendingCommand id) }.begin
                  (some a) .dispatching

/-- A failed dispatch unwinds the registration and completes the command. -/
def failDispatch (s : System) (call : Nat) (a : Accepted) (result : ActionResult)
    (input : String → CommandTransitionInput) (throws : Bool) : System :=
  { s with
    tracker := a.correlationId.elim s.tracker s.tracker.cancel
    store := recordTransition s.store a.commandId throws input }.advanceTo call a
      (.settled (a.withId result) (!throws))

/-- The second segment. -/
def handlerSettles (s : System) (call : Nat) (outcome : HandlerOutcome) (now : Nat)
    (throws : Bool) : System :=
  match s.executions.get call with
  | some ⟨some a, .dispatching⟩ =>
      match outcome with
      | .threw message =>
          s.failDispatch call a
            { success := false, error := some message, lifecycleState := some .failed }
            (failedInput now (some .execution) (some message) none) throws
      | .returned (some ⟨false, data, error, _, correlationId, commandId, failureKind⟩) =>
          s.failDispatch call a
            ⟨false, data, error, some .failed, correlationId, commandId, failureKind⟩
            (failedInput now failureKind (error.filter (· ≠ "")) none) throws
      | .returned result =>
          let data := result.bind ActionResult.data
          let completes : Bool := a.tier = .dispatch
          let s := { s with
            store := recordTransition s.store a.commandId throws (dispatchedInput now completes) }
          if completes then
            s.advanceTo call a
              (.settled
                (a.withId
                  { success := true, data := data, lifecycleState := some .dispatched,
                    correlationId := a.correlationId })
                (!throws))
          else s.advanceTo call a (.awaiting data)
  | _ => s

/-- The resolution the tracker settled the call's promise with. -/
def resolutionOf (s : System) (a : Accepted) : Option PendingResolution :=
  a.correlationId.bind fun id => (s.tracker.outcome id).head?

/-- The third segment, once the promise has settled. -/
def resolutionSettles (s : System) (call : Nat) (now : Nat) (throws : Bool) : System :=
  match s.executions.get call with
  | some ⟨some a, .awaiting data⟩ =>
      match s.resolutionOf a with
      | none => s
      | some resolution =>
          { s with
            store := recordTransition s.store a.commandId throws
              (resolvedInput a resolution now) }.advanceTo call a
            (.settled
              (a.withId
                { success := resolution.success, data := data, error := resolution.error,
                  lifecycleState := some resolution.lifecycleState,
                  correlationId := a.correlationId })
              (!throws))
  | _ => s

/-- Which store accesses of the tracker's adapter throw. -/
structure AdapterFaults where
  read : Bool := false
  implied : Bool := false
  write : Bool := false
deriving DecidableEq

/-- `onTransition` of `src/index.ts`: a reply that outran the `DISPATCHED` write
implies it, then the milestone itself; one `try` around all of it. -/
def adaptTransition (store : CommandHistoryStore) (faults : AdapterFaults)
    (event : PendingCommandTransition) : CommandHistoryStore :=
  match event.commandId with
  | none => store
  | some id =>
      let milestone : CommandTransitionInput :=
        { commandId := id, toState := event.toState, timestamp := event.timestamp, terminal := false
          details := buildCommandEvidence { reason := some (describeRung event.toState) } }
      if faults.read then store
      else if store.currentState id = some .requested then
        if faults.implied then store
        else
          let store := store.transition
            { commandId := id, toState := .dispatched, timestamp := event.timestamp
              terminal := false
              details := buildCommandEvidence
                { reason := some ("Inferred from the device's reply, which arrived before " ++
                    "the dispatch was recorded") } }
          if faults.write then store else store.transition milestone
      else if faults.write then store
      else store.transition milestone

/-- A reply: the tracker routes it, and what it reports is written down. -/
def route (s : System) (message : AckMessage) (now : Nat) (faults : AdapterFaults) : System :=
  let tracker := s.tracker.route message now
  let reported := (tracker.callbacks.drop s.tracker.callbacks.length).filterMap Callback.transition
  { s with
    tracker := tracker
    store := reported.foldl (fun store event => adaptTransition store faults event) s.store }

/-- What a restart leaves of a call: nothing, unless it had settled. -/
def survive (x : Execution) : Execution :=
  match x.phase with
  | .settled _ _ => x
  | _ => { x with phase := .lost }

/-- A new process over the same database: `index.ts` reconciles before serving. -/
def restart (s : System) (now : Nat) : System :=
  { s with
    store := (s.store.reconcileInterrupted now).2
    tracker := {}
    executions := s.executions.map survive }

end System

inductive SystemEvent where
  | execute (env : Environment) (request : CommandRequest) (now : Nat)
      (createThrows writeThrows : Bool)
  | handlerSettles (call : Nat) (outcome : HandlerOutcome) (now : Nat) (throws : Bool)
  | resolutionSettles (call : Nat) (now : Nat) (throws : Bool)
  | route (message : AckMessage) (now : Nat) (faults : System.AdapterFaults)
  | observeState (deviceId : String) (state : JsonObject)
  | timer (correlationId : String)
  | cancel (correlationId : String)
  | restart (now : Nat)

def System.step (uuid : Nat → String) (s : System) : SystemEvent → System
  | .execute env request now createThrows writeThrows =>
      s.execute uuid env request now createThrows writeThrows
  | .handlerSettles call outcome now throws => s.handlerSettles call outcome now throws
  | .resolutionSettles call now throws => s.resolutionSettles call now throws
  | .route message now faults => s.route message now faults
  | .observeState deviceId state =>
      { s with tracker := s.tracker.observeState deviceId state }
  | .timer correlationId => { s with tracker := s.tracker.timer correlationId }
  | .cancel correlationId => { s with tracker := s.tracker.cancel correlationId }
  | .restart now => s.restart now

end Aeolus.Automations
