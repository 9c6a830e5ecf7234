/-
# Aeolus.Automations.CommandScopeExact — which commands leak

The scope check looks at the target of four action types.  `confined_of_covered`
says when that is enough; here is the converse.  A request that is not covered
passes the check and shows something outside the scope: what its handler makes of
its target, the replies of its target, or a device that its `confirm` clause names
and that may or may not exist.  A pair of probing runs shows the difference in the result, so
`confined_iff_covered` is exact.
-/
import Aeolus.Automations.CommandScope

namespace Aeolus.Automations

open Aeolus.Theory
open Aeolus.Core

/-! ## Probing runs -/

/-- Every action is handled, none is physical, and the devices all acknowledge or
none does. -/
def probeEnvironment (deviceIds : Finset String) (acknowledges : Bool) (device : String → Bool) :
    Environment :=
  { handler := fun _ => true
    physical := fun _ => false
    ackCapability := fun _ => if acknowledges then some { supported := true } else none
    device := device
    scope := fun _ => .scoped deviceIds }

def probe (env : Environment) (after : List SystemEvent) : ScopedRun :=
  { uuid := unaryIds, fresh := unaryIds_injective, env := env, after := after }

/-- Two runs that agree on the scope return different results. -/
def Leaks (ruleId : String) (deviceIds : Finset String) (request : CommandRequest) : Prop :=
  ∃ (r q : ScopedRun) (x y : ActionResult), r.env.scope ruleId = .scoped deviceIds ∧
    r.AgreeOn deviceIds request q ∧ r.result request = some x ∧ q.result request = some y ∧
    x.lifecycleState ≠ y.lifecycleState

/-- The call waits for its confirmation: its handler was called. -/
structure Dispatched (a : Accepted) (s : System) : Prop where
  call : s.executions.get 0 = some ⟨some a, .dispatching⟩
  keyed : s.tracker.Keyed
  view : s.tracker.view (unaryIds 0) = (some ⟨a.pendingCommand (unaryIds 0), .dispatched⟩, [])
  tracked : a.correlationId = some (unaryIds 0)
  waits : a.tier ≠ .dispatch

section Probe

variable {a : Accepted} {s : System}

theorem Dispatched.handled (dispatched : Dispatched a s) :
    (s.handlerSettles 0 (.returned none) 0 false).executions.get 0 =
        some ⟨some a, .awaiting none⟩ ∧
      (s.handlerSettles 0 (.returned none) 0 false).tracker = s.tracker := by
  unfold System.handlerSettles
  rw [dispatched.call]
  simp only [dispatched.waits, decide_false, Bool.false_eq_true, if_false]
  exact ⟨OrderedMap.get_set_self _ _ _, rfl⟩

theorem Dispatched.returns (dispatched : Dispatched a s) (t : System)
    (awaiting : t.executions.get 0 = some ⟨some a, .awaiting none⟩)
    {resolution : PendingResolution} {rest : List PendingResolution}
    (settled : (t.tracker.view (unaryIds 0)).outcome = resolution :: rest) :
    ∃ result, (t.resolutionSettles 0 0 false).resultOf 0 = some result ∧
      result.lifecycleState = some resolution.lifecycleState := by
  have resolved : t.resolutionOf a = some resolution := by
    rw [System.resolutionOf, dispatched.tracked]
    exact congrArg List.head? settled
  unfold System.resolutionSettles System.resultOf
  rw [awaiting]
  dsimp only
  rw [resolved]
  refine ⟨a.withId ⟨resolution.success, none, resolution.error, some resolution.lifecycleState,
    a.correlationId, none, none⟩, ?_, Accepted.withId_lifecycleState a _⟩
  simp only [System.advanceTo, OrderedMap.get_set_self]

/-- No reply comes. -/
def silence : List SystemEvent :=
  [.handlerSettles 0 (.returned none) 0 false, .timer (unaryIds 0), .resolutionSettles 0 0 false]

/-- The device turns the command down. -/
def rejection : List SystemEvent :=
  [.handlerSettles 0 (.returned none) 0 false,
    .route { correlationId := unaryIds 0, success := some false } 0 {},
    .timer (unaryIds 0), .resolutionSettles 0 0 false]

theorem Dispatched.silence_returns (dispatched : Dispatched a s) :
    ∃ result, (run (System.step unaryIds) s silence).resultOf 0 = some result ∧
      result.lifecycleState = some .timedOut := by
  obtain ⟨awaiting, same⟩ := dispatched.handled
  simp only [silence, run_cons, run_nil, System.step]
  generalize s.handlerSettles 0 (.returned none) 0 false = handled at awaiting same ⊢
  have settled : ((handled.tracker.timer (unaryIds 0)).view (unaryIds 0)).outcome =
      [⟨.timedOut, false, none⟩] := by
    rw [same]
    show ((s.tracker.step (.timer (unaryIds 0))).view (unaryIds 0)).outcome = _
    rw [s.tracker.view_step _ _ dispatched.keyed, dispatched.view]
    rfl
  exact dispatched.returns { handled with tracker := handled.tracker.timer (unaryIds 0) } awaiting
    settled

theorem Dispatched.rejection_returns (dispatched : Dispatched a s) :
    ∃ result, (run (System.step unaryIds) s rejection).resultOf 0 = some result ∧
      result.lifecycleState = some .failed := by
  obtain ⟨awaiting, same⟩ := dispatched.handled
  simp only [rejection, run_cons, run_nil, System.step]
  generalize s.handlerSettles 0 (.returned none) 0 false = handled at awaiting same ⊢
  have settled : (((handled.tracker.route { correlationId := unaryIds 0, success := some false }
      0).timer (unaryIds 0)).view (unaryIds 0)).outcome =
      [⟨.failed, false, some "Device reported command failure"⟩] := by
    rw [same]
    show (((s.tracker.step (.route _ 0)).step (.timer (unaryIds 0))).view (unaryIds 0)).outcome = _
    rw [PendingCommandTracker.view_step _ _ _ (s.tracker.step_keyed _ dispatched.keyed),
      s.tracker.view_step _ _ dispatched.keyed, dispatched.view]
    rfl
  exact dispatched.returns { handled.route _ 0 {} with tracker := _ } awaiting settled

variable {deviceIds : Finset String} {request : CommandRequest} {ruleId : String}

section Begins

variable {uuid : Nat → String} {env : Environment} {n now : Nat} {createThrows writeThrows : Bool}
  {store : CommandHistoryStore} {k : String} (accepted : preAcceptance env request = none)
  (taken : accept uuid s.uuids env request = (a, n))
  (created : System.createRecord s.store env a now createThrows = some store)

include accepted taken created

/-- How a tracked call begins when nothing stands in its way. -/
theorem execute_tracked (present : env.device a.observedDeviceId = true)
    (tracked : a.correlationId = some k) :
    s.execute uuid env request now createThrows writeThrows =
      { s with store := store, tracker := s.tracker.register (a.pendingCommand k),
               uuids := n }.begin (some a) .dispatching := by
  unfold System.execute
  rw [accepted]
  simp only [taken, created, present, tracked, Bool.not_true, Bool.false_eq_true, and_false,
    if_false]

/-- How an untracked call begins when nothing stands in its way. -/
theorem execute_untracked (dispatch : a.tier = .dispatch) (untracked : a.correlationId = none) :
    (s.execute uuid env request now createThrows writeThrows).executions.get s.calls =
      some ⟨some a, .dispatching⟩ := by
  unfold System.execute
  rw [accepted]
  simp only [taken, created, dispatch, untracked, reduceCtorEq, false_and, if_false]
  exact OrderedMap.get_set_self _ _ _

/-- How a call ends at once when the observed device is not there. -/
theorem execute_missing (observed : a.tier = .observed)
    (missing : env.device a.observedDeviceId = false) :
    (s.execute uuid env request now createThrows writeThrows).executions.get s.calls =
      some ⟨some a, .settled (a.withId (refusal (System.notFoundError a) .notFound))
        (!writeThrows)⟩ := by
  unfold System.execute
  rw [accepted]
  simp only [taken, created, observed, missing, Bool.not_false, and_self, if_true]
  exact OrderedMap.get_set_self _ _ _

end Begins

theorem dispatched_begin (tracked : a.correlationId = some (unaryIds 0))
    (waits : a.tier ≠ .dispatch) (store : CommandHistoryStore) (n : Nat) :
    Dispatched a (System.begin
      { store := store, uuids := n
        tracker := PendingCommandTracker.register {} (a.pendingCommand (unaryIds 0)) }
      (some a) .dispatching) := by
  refine ⟨OrderedMap.get_set_self _ _ _, ?_, ?_, tracked, waits⟩
  · exact PendingCommandTracker.step_keyed {} (.register _) PendingCommandTracker.keyed_empty
  · show (PendingCommandTracker.step {} (.register (a.pendingCommand (unaryIds 0)))).view _ = _
    rw [PendingCommandTracker.view_step _ _ _ PendingCommandTracker.keyed_empty]
    simp [localStep, Accepted.pendingCommand, PendingCommandTracker.view]

/-- A tracked call of a probe, whose observed device is there. -/
theorem probe_dispatched {acknowledges : Bool} {device : String → Bool}
    (passed : checkScope (probeEnvironment deviceIds acknowledges device) request.action
      request.source = none)
    (waits : (accept unaryIds 0 (probeEnvironment deviceIds acknowledges device) request).1.tier ≠
      .dispatch)
    (present : device request.observedDeviceId = true) (after : List SystemEvent) :
    Dispatched (accept unaryIds 0 (probeEnvironment deviceIds acknowledges device) request).1
      ((probe (probeEnvironment deviceIds acknowledges device) after).begun request) := by
  have tracked : (accept unaryIds 0 (probeEnvironment deviceIds acknowledges device)
      request).1.correlationId = some (unaryIds 0) := if_pos waits
  have begun : (probe (probeEnvironment deviceIds acknowledges device) after).begun request = _ :=
    execute_tracked passed rfl rfl present tracked
  rw [begun]
  exact dispatched_begin tracked waits _ _

/-- A result stays what it is. -/
theorem silence_of_settled {result : ActionResult} {written : Bool}
    (here : s.executions.get 0 = some ⟨some a, .settled result written⟩) :
    (run (System.step unaryIds) s silence).resultOf 0 = some result := by
  simp only [silence, run_cons, run_nil, System.step, System.handlerSettles, here,
    System.resolutionSettles, System.resultOf]

theorem resolveEffectiveTier_acknowledged {requiredTier : Option ConfirmationTier}
    (waits : requiredTier ≠ some .dispatch) (hasConfirm : Bool) :
    resolveEffectiveTier requiredTier (selectRequiredTier hasConfirm true) hasConfirm true ≠
      .dispatch := by
  cases requiredTier with
  | none => cases hasConfirm <;> decide
  | some tier =>
      cases tier with
      | dispatch => exact absurd rfl waits
      | acknowledged => cases hasConfirm <;> decide
      | observed => cases hasConfirm <;> decide

theorem resolveEffectiveTier_observed {requiredTier : Option ConfirmationTier}
    (waits : requiredTier ≠ some .dispatch) :
    resolveEffectiveTier requiredTier (selectRequiredTier true false) true false = .observed := by
  cases requiredTier with
  | none => rfl
  | some tier =>
      cases tier with
      | dispatch => exact absurd rfl waits
      | acknowledged => rfl
      | observed => rfl

/-- What the scope check lets through. -/
theorem passed_of_not_covered (source : request.source = .automation ruleId)
    (uncovered : ¬ Covered deviceIds request) (acknowledges : Bool) (device : String → Bool) :
    checkScope (probeEnvironment deviceIds acknowledges device) request.action request.source =
      none := by
  simp only [Covered, not_or, not_and, not_not] at uncovered
  obtain ⟨publish, webhook, target, -⟩ := uncovered
  simp only [source, checkScope, probeEnvironment, publish, webhook, or_self, if_false]
  by_cases device : request.action.type = "device_action" ∨ request.action.type = "toggle"
  · rw [if_pos device, if_pos (target device)]
  · rw [if_neg device]

theorem rejection_unseen (o : Observer) (outside : o.action.target ∉ o.deviceIds) :
    rejection.filterMap o.see = silence.filterMap o.see := by
  have unseen : o.see (.route { correlationId := unaryIds 0, success := some false } 0 {}) = none :=
    if_neg fun seen => outside seen.2
  simp only [rejection, silence, List.filterMap_cons, unseen]

/-- The reply of a target outside the scope decides the result. -/
theorem leaks_target (source : request.source = .automation ruleId)
    (uncovered : ¬ Covered deviceIds request) (outside : request.action.target ∉ deviceIds)
    (waits : request.requiredTier ≠ some .dispatch) : Leaks ruleId deviceIds request := by
  have passed := passed_of_not_covered source uncovered true fun _ => true
  have dispatched := probe_dispatched passed
    (resolveEffectiveTier_acknowledged waits request.confirm.isSome) rfl
  obtain ⟨x, rejected, failed⟩ := (dispatched rejection).rejection_returns
  obtain ⟨y, silent, timedOut⟩ := (dispatched silence).silence_returns
  refine ⟨probe (probeEnvironment deviceIds true fun _ => true) rejection,
    probe (probeEnvironment deviceIds true fun _ => true) silence, x, y, rfl,
    ⟨⟨rfl, rfl, rfl, fun _ _ => rfl, fun _ _ => rfl⟩, fun _ => rfl, rfl, ?_⟩, rejected, silent, ?_⟩
  · exact rejection_unseen _ outside
  · rw [failed, timedOut]
    decide

/-- A probe in which the handler answers, and nothing else happens. -/
def answered (deviceIds : Finset String) (outcome : HandlerOutcome) : ScopedRun :=
  probe (probeEnvironment deviceIds false fun _ => true) [.handlerSettles 0 outcome 0 false]

theorem answered_unseen (hidden : ¬InView deviceIds request.action) (outcome : HandlerOutcome) :
    (answered deviceIds outcome).after.filterMap
      ((answered deviceIds outcome).observer deviceIds request).see = [] := by
  have unseen : ((answered deviceIds outcome).observer deviceIds request).see
      (.handlerSettles 0 outcome 0 false) = none := if_neg fun seen => hidden seen.2
  show [SystemEvent.handlerSettles 0 outcome 0 false].filterMap _ = []
  rw [List.filterMap_cons, unseen]
  rfl

/-- What the handler of a target outside the scope answers is the result. -/
theorem leaks_handler (source : request.source = .automation ruleId)
    (uncovered : ¬ Covered deviceIds request) (dispatch : request.requiredTier = some .dispatch) :
    Leaks ruleId deviceIds request := by
  have hidden : ¬InView deviceIds request.action := fun inView =>
    uncovered (.inr (.inr (.inr (.inl ⟨dispatch, inView⟩))))
  let a := (accept unaryIds 0 (probeEnvironment deviceIds false fun _ => true) request).1
  have tier : a.tier = .dispatch := by
    show resolveEffectiveTier request.requiredTier _ _ _ = _
    rw [dispatch]
    rfl
  have begun (outcome : HandlerOutcome) :
      ((answered deviceIds outcome).begun request).executions.get 0 =
        some ⟨some a, .dispatching⟩ :=
    execute_untracked (passed_of_not_covered source uncovered false fun _ => true) rfl rfl tier
      (if_neg (not_not.mpr tier))
  have refused : (answered deviceIds (.threw "not found")).result request = some (a.withId
      { success := false, error := some "not found", lifecycleState := some .failed }) := by
    show (((answered deviceIds (.threw "not found")).begun request).handlerSettles 0
      (.threw "not found") 0 false).resultOf 0 = _
    rw [System.handlerSettles, begun]
    simp only [System.resultOf, System.failDispatch, System.advanceTo, OrderedMap.get_set_self]
  have returned : (answered deviceIds (.returned none)).result request = some (a.withId
      { success := true, lifecycleState := some .dispatched
        correlationId := a.correlationId }) := by
    show (((answered deviceIds (.returned none)).begun request).handlerSettles 0
      (.returned none) 0 false).resultOf 0 = _
    rw [System.handlerSettles, begun]
    simp only [System.resultOf, tier, decide_true, if_true, System.advanceTo,
      OrderedMap.get_set_self, Option.bind_none]
  refine ⟨answered deviceIds (.threw "not found"), answered deviceIds (.returned none), _, _, rfl,
    ⟨⟨rfl, rfl, rfl, fun _ _ => rfl, fun _ _ => rfl⟩, fun _ => rfl, rfl, ?_⟩, refused, returned, ?_⟩
  · exact (answered_unseen hidden _).trans (answered_unseen hidden _).symm
  · rw [Accepted.withId_lifecycleState, Accepted.withId_lifecycleState]
    exact fun same => by cases same

/-- Whether an observed device outside the scope exists decides the result. -/
theorem leaks_observed (source : request.source = .automation ruleId)
    (uncovered : ¬ Covered deviceIds request) (inside : request.action.target ∈ deviceIds) :
    Leaks ruleId deviceIds request := by
  have waits : request.requiredTier ≠ some .dispatch := fun dispatch =>
    uncovered (.inr (.inr (.inr (.inl ⟨dispatch, .inl inside⟩))))
  have outside : request.observedDeviceId ∉ deviceIds := fun observed =>
    uncovered (.inr (.inr (.inr (.inr ⟨inside, observed⟩))))
  have confirms : request.confirm.isSome = true := by
    cases given : request.confirm with
    | none =>
        simp only [CommandRequest.observedDeviceId, given] at outside
        exact absurd inside outside
    | some options => rfl
  let there : Environment := probeEnvironment deviceIds false fun _ => true
  let gone : Environment := probeEnvironment deviceIds false fun d => d ≠ request.observedDeviceId
  have tier : (accept unaryIds 0 there request).1.tier = .observed := by
    show resolveEffectiveTier _ (selectRequiredTier request.confirm.isSome false)
      request.confirm.isSome false = _
    rw [confirms]
    exact resolveEffectiveTier_observed waits
  have dispatched := probe_dispatched (passed_of_not_covered source uncovered false fun _ => true)
    (fun (dispatch : (accept unaryIds 0 there request).1.tier = .dispatch) => by
      cases tier.symm.trans dispatch) rfl silence
  have missing : ((probe gone silence).begun request).executions.get 0 = _ :=
    execute_missing
      (passed_of_not_covered source uncovered false fun d => d ≠ request.observedDeviceId)
      rfl rfl tier (decide_eq_false (not_not.mpr rfl))
  obtain ⟨x, silent, timedOut⟩ := dispatched.silence_returns
  have refused := silence_of_settled missing
  refine ⟨probe there silence, probe gone silence, x, _, rfl,
    ⟨⟨rfl, rfl, rfl, fun _ _ => rfl, fun d inScope => ?_⟩, fun _ => rfl, rfl, ?_⟩, silent, refused,
    ?_⟩
  · have other : d ≠ request.observedDeviceId := by
      rintro rfl
      exact outside inScope
    exact (decide_eq_true other).symm
  · have key : ((probe there silence).begun request).correlationOf 0 =
        ((probe gone silence).begun request).correlationOf 0 := by
      rw [System.correlationOf, System.correlationOf, dispatched.call, missing]
      rfl
    unfold ScopedRun.observer
    exact congrArg (fun k => silence.filterMap (Observer.see ⟨deviceIds, _, 0, k⟩)) key
  · rw [timedOut, Accepted.withId_lifecycleState]
    show some CommandLifecycleState.timedOut ≠ some .failed
    decide

end Probe

/-- **Which commands keep a scoped automation in its scope.**  A request is confined
if and only if it is refused by its type or target, or asks for no confirmation of
an action whose handler looks at no device outside the scope, or both its target and
the device that would confirm it are in scope.  Every other
request passes the scope check and has two runs, equal in all that the scope may
see, that return different results. -/
theorem confined_iff_covered (ruleId : String) (deviceIds : Finset String)
    (action : ActionDescriptor) (confirm : Option ConfirmOptions)
    (requiredTier : Option ConfirmationTier) :
    Confined ruleId deviceIds ⟨action, .automation ruleId, confirm, requiredTier⟩ ↔
      Covered deviceIds ⟨action, .automation ruleId, confirm, requiredTier⟩ := by
  refine ⟨fun confined => ?_, confined_of_covered rfl⟩
  by_contra uncovered
  have leaks : Leaks ruleId deviceIds ⟨action, .automation ruleId, confirm, requiredTier⟩ := by
    by_cases inside : action.target ∈ deviceIds
    · exact leaks_observed rfl uncovered inside
    · by_cases dispatch : requiredTier = some .dispatch
      · exact leaks_handler rfl uncovered dispatch
      · exact leaks_target rfl uncovered inside dispatch
  obtain ⟨r, q, x, y, scope, agree, mine, theirs, different⟩ := leaks
  have same := confined r q scope agree
  rw [mine, theirs] at same
  exact different (congrArg ActionResult.lifecycleState (Option.some.inj same))

/-- The lamp is in scope, the safe that is to confirm the command is not. -/
def safeProbe : CommandRequest :=
  { action := { type := "device_action", target := "lamp", params := .empty }
    source := .automation "rule"
    confirm := some { deviceId := some "safe", condition := fun _ => .ok true } }

/-- The lamp turns on, nothing else happens, and the wait times out. -/
def safeRun (device : String → Bool) : ScopedRun :=
  { uuid := unaryIds, fresh := unaryIds_injective
    env := { probeEnvironment {"lamp"} false device with physical := fun type => type = "device_action" }
    after := [.handlerSettles 0 (.returned none) 1 false, .timer (unaryIds 1),
      .resolutionSettles 0 5001 false] }

/-- Whether there is a safe shows in the result. -/
theorem safe_shows :
    ¬ ∀ ruleId deviceIds request, request.source = .automation ruleId →
      Confined ruleId deviceIds request := by
  intro always
  have same := always "rule" {"lamp"} safeProbe rfl (safeRun fun _ => true)
    (safeRun fun d => d = "lamp") rfl
    ⟨⟨rfl, rfl, rfl, fun _ _ => rfl, fun d inScope => ?_⟩, fun _ => rfl, rfl, rfl⟩
  · have states := congrArg (Option.bind · ActionResult.lifecycleState) same
    exact absurd states (by decide)
  · rw [Finset.mem_singleton.mp inScope]
    rfl

end Aeolus.Automations
