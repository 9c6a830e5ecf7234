/-
# Aeolus.Automations.RequestedTier — a requested tier is not raised

`resolveEffectiveTier` of `src/automations/command-service.ts` clamps a tier that the
device cannot prove to the ceiling, the highest tier that it can.  The ceiling is above the
request in one case: an acknowledgement is asked for, the device declares none, and the
command comes with an observation (`Raised`).  Such a command waits for the observation, and
fails without it.

What a call was accepted with stays with it (`run_acceptedOf`), so whether a later run can
end a command for want of a tier above the requested one is settled when it is accepted:
`never_overfails_iff`, for the calls that reach their handler, after any run.

Pole: `raised_times_out` (the lamp does what it is told, and the command times out).
-/
import Aeolus.Automations.CommandAgreement

namespace Aeolus.Automations

open Aeolus.Theory
open Aeolus.Core

/-! ## Tiers -/

def ConfirmationTier.rank : ConfirmationTier → Nat
  | .dispatch => 0
  | .acknowledged => 1
  | .observed => 2

/-- The clamp exceeds the request exactly for an acknowledgement that the device does not
give, of a command that can be observed. -/
theorem resolveEffectiveTier_rank_le_iff (requested : ConfirmationTier)
    (hasConfirm hasAckCapability : Bool) :
    (resolveEffectiveTier (some requested) (selectRequiredTier hasConfirm hasAckCapability)
        hasConfirm hasAckCapability).rank ≤ requested.rank ↔
      ¬(requested = .acknowledged ∧ hasConfirm = true ∧ hasAckCapability = false) := by
  cases requested <;> cases hasConfirm <;> cases hasAckCapability <;> decide

/-- The request is for an acknowledgement, which the device does not give, and comes with an
observation. -/
def Raised (env : Environment) (request : CommandRequest) : Prop :=
  request.requiredTier = some .acknowledged ∧ request.confirm.isSome = true ∧
    (env.ackCapability request.action.target).elim false (·.supported) = false

instance (env : Environment) (request : CommandRequest) : Decidable (Raised env request) :=
  inferInstanceAs (Decidable (_ ∧ _ ∧ _))

theorem accept_rank_le_iff (uuid : Nat → String) (uuids : Nat) (env : Environment)
    {request : CommandRequest} {requested : ConfirmationTier}
    (asked : request.requiredTier = some requested) :
    (accept uuid uuids env request).1.tier.rank ≤ requested.rank ↔ ¬Raised env request := by
  have effective : (accept uuid uuids env request).1.tier =
      resolveEffectiveTier request.requiredTier (selectRequiredTier request.confirm.isSome
        ((env.ackCapability request.action.target).elim false (·.supported)))
        request.confirm.isSome
        ((env.ackCapability request.action.target).elim false (·.supported)) := rfl
  rw [effective, asked, resolveEffectiveTier_rank_le_iff, Raised, asked, Option.some.injEq]

/-- A raised command waits for the observation. -/
theorem accept_tier_of_raised (uuid : Nat → String) (uuids : Nat) {env : Environment}
    {request : CommandRequest} (raised : Raised env request) :
    (accept uuid uuids env request).1.tier = .observed := by
  obtain ⟨asked, confirm, capability⟩ := raised
  simp [accept, resolveEffectiveTier, asked, confirm, capability, provable, selectRequiredTier]

/-! ## What a call was accepted with -/

namespace System

def acceptedOf (s : System) (call : Nat) : Option Accepted :=
  (s.executions.get call).bind Execution.accepted

/-- The call failed for want of evidence of its tier, which is above the requested one. -/
def OverFails (s : System) (call : Nat) (requested : ConfirmationTier) : Prop :=
  ∃ a result written, s.executions.get call = some ⟨some a, .settled result written⟩ ∧
    (result.lifecycleState = some .timedOut ∨ result.lifecycleState = some .stateMismatch) ∧
    requested.rank < a.tier.rank

theorem acceptedOf_begin {s : System} {call : Nat} (known : call < s.calls)
    (accepted : Option Accepted) (phase : Phase) :
    (s.begin accepted phase).acceptedOf call = s.acceptedOf call := by
  have other : call ≠ s.calls := Nat.ne_of_lt known
  rw [acceptedOf, begin, OrderedMap.get_set_of_ne _ _ other, acceptedOf]

theorem acceptedOf_advanceTo {s : System} {moved : Nat} {a : Accepted} {before : Phase}
    (here : s.executions.get moved = some ⟨some a, before⟩) (after : Phase) (call : Nat) :
    (s.advanceTo moved a after).acceptedOf call = s.acceptedOf call := by
  rw [acceptedOf, advanceTo, acceptedOf, OrderedMap.get_set]
  split
  · rename_i same
    rw [same, here]
    rfl
  · rfl

theorem acceptedOf_restart (s : System) (now call : Nat) :
    (s.restart now).acceptedOf call = s.acceptedOf call := by
  rw [acceptedOf, restart, acceptedOf, OrderedMap.get_map]
  cases s.executions.get call with
  | none => rfl
  | some x =>
      obtain ⟨accepted, phase⟩ := x
      cases phase <;> rfl

end System

section Kept

variable {uuid : Nat → String}

theorem execute_acceptedOf {s : System} {call : Nat} (known : call < s.calls) (env : Environment)
    (request : CommandRequest) (now : Nat) (createThrows writeThrows : Bool) :
    (s.execute uuid env request now createThrows writeThrows).calls = s.calls + 1 ∧
      (s.execute uuid env request now createThrows writeThrows).acceptedOf call =
        s.acceptedOf call := by
  unfold System.execute
  split
  · exact ⟨rfl, System.acceptedOf_begin known _ _⟩
  · dsimp only
    split
    · exact ⟨rfl, System.acceptedOf_begin known _ _⟩
    · split
      · exact ⟨rfl, System.acceptedOf_begin known _ _⟩
      · split
        · exact ⟨rfl, System.acceptedOf_begin known _ _⟩
        · exact ⟨rfl, System.acceptedOf_begin known _ _⟩

theorem handlerSettles_acceptedOf (s : System) (moved : Nat) (outcome : HandlerOutcome)
    (now : Nat) (throws : Bool) (call : Nat) :
    (s.handlerSettles moved outcome now throws).calls = s.calls ∧
      (s.handlerSettles moved outcome now throws).acceptedOf call = s.acceptedOf call := by
  unfold System.handlerSettles
  split
  · rename_i a here
    split
    · exact ⟨rfl, System.acceptedOf_advanceTo (s := { s with tracker := _, store := _ }) here _ _⟩
    · exact ⟨rfl, System.acceptedOf_advanceTo (s := { s with tracker := _, store := _ }) here _ _⟩
    · dsimp only
      split
      · exact ⟨rfl, System.acceptedOf_advanceTo (s := { s with store := _ }) here _ _⟩
      · exact ⟨rfl, System.acceptedOf_advanceTo (s := { s with store := _ }) here _ _⟩
  · exact ⟨rfl, rfl⟩

theorem resolutionSettles_acceptedOf (s : System) (moved now : Nat) (throws : Bool)
    (call : Nat) : (s.resolutionSettles moved now throws).calls = s.calls ∧
      (s.resolutionSettles moved now throws).acceptedOf call = s.acceptedOf call := by
  unfold System.resolutionSettles
  split
  · rename_i a data here
    split
    · exact ⟨rfl, rfl⟩
    · exact ⟨rfl, System.acceptedOf_advanceTo (s := { s with store := _ }) here _ _⟩
  · exact ⟨rfl, rfl⟩

/-- No event changes what a call was accepted with. -/
theorem step_acceptedOf (s : System) (event : SystemEvent) {call : Nat} (known : call < s.calls) :
    s.calls ≤ (s.step uuid event).calls ∧
      (s.step uuid event).acceptedOf call = s.acceptedOf call := by
  cases event with
  | execute env request now createThrows writeThrows =>
      obtain ⟨calls, same⟩ := execute_acceptedOf known env request now createThrows writeThrows
      exact ⟨by rw [System.step, calls]; omega, same⟩
  | handlerSettles moved outcome now throws =>
      obtain ⟨calls, same⟩ := handlerSettles_acceptedOf s moved outcome now throws call
      exact ⟨calls.ge, same⟩
  | resolutionSettles moved now throws =>
      obtain ⟨calls, same⟩ := resolutionSettles_acceptedOf s moved now throws call
      exact ⟨calls.ge, same⟩
  | route message now faults => exact ⟨le_rfl, rfl⟩
  | observeState deviceId state => exact ⟨le_rfl, rfl⟩
  | timer id => exact ⟨le_rfl, rfl⟩
  | cancel id => exact ⟨le_rfl, rfl⟩
  | restart now => exact ⟨le_rfl, System.acceptedOf_restart s now call⟩

theorem run_acceptedOf {s : System} {call : Nat} (known : call < s.calls)
    (events : List SystemEvent) :
    (run (System.step uuid) s events).acceptedOf call = s.acceptedOf call := by
  have preserve (s' : System) (event : SystemEvent)
      (kept : call < s'.calls ∧ s'.acceptedOf call = s.acceptedOf call) :
      call < (s'.step uuid event).calls ∧
        (s'.step uuid event).acceptedOf call = s.acceptedOf call := by
    obtain ⟨more, same⟩ := step_acceptedOf s' event kept.1
    exact ⟨kept.1.trans_le more, same.trans kept.2⟩
  exact (run_invariant preserve ⟨known, rfl⟩ events).2

end Kept

/-! ## The two directions -/

section Directions

variable {uuid : Nat → String}

/-- What a call that reaches its handler was accepted with, and its entry in the tracker. -/
theorem execute_handed {s : System} {env : Environment} {request : CommandRequest} {now : Nat}
    {createThrows writeThrows : Bool} {a : Accepted}
    (handed : (s.execute uuid env request now createThrows writeThrows).executions.get s.calls =
      some ⟨some a, .dispatching⟩) :
    a = (accept uuid s.uuids env request).1 ∧
      (s.execute uuid env request now createThrows writeThrows).calls = s.calls + 1 ∧
      ∀ k, a.correlationId = some k →
        (s.execute uuid env request now createThrows writeThrows).tracker.pending.get k =
          some ⟨a.pendingCommand k, .dispatched⟩ := by
  unfold System.execute at handed ⊢
  split at handed
  · simp [System.begin] at handed
  · dsimp only at handed ⊢
    generalize (accept uuid s.uuids env request).1 = accepted at handed ⊢
    split at handed
    · simp [System.begin] at handed
    · split at handed
      · simp [System.begin] at handed
      · rename_i found
        rw [if_neg found]
        split at handed
        · rename_i untracked
          rw [System.begin, OrderedMap.get_set_self] at handed
          cases handed
          refine ⟨rfl, rfl, fun k tracked => ?_⟩
          rw [untracked] at tracked
          cases tracked
        · rename_i id tracked
          rw [System.begin, OrderedMap.get_set_self] at handed
          cases handed
          refine ⟨rfl, rfl, fun k mine => ?_⟩
          rw [tracked] at mine
          cases mine
          exact OrderedMap.get_set_self _ _ _

/-- **A tier that is not raised** is never missed in a later run. -/
theorem not_overFails {s : System} {call : Nat} {a : Accepted} {requested : ConfirmationTier}
    (known : call < s.calls) (accepted : s.acceptedOf call = some a)
    (within : a.tier.rank ≤ requested.rank) (later : List SystemEvent) :
    ¬(run (System.step uuid) s later).OverFails call requested := by
  rintro ⟨b, result, written, here, -, above⟩
  have kept : (run (System.step uuid) s later).acceptedOf call = s.acceptedOf call :=
    run_acceptedOf known later
  rw [accepted, System.acceptedOf, here] at kept
  cases kept
  omega

/-- The command is dispatched, and nothing more is heard of it. -/
def unanswered (call : Nat) (correlationId : String) : List SystemEvent :=
  [.handlerSettles call (.returned none) 0 false, .timer correlationId,
    .resolutionSettles call 0 false]

theorem handlerSettles_returned {s : System} {call : Nat} {a : Accepted}
    (here : s.executions.get call = some ⟨some a, .dispatching⟩) (tracked : a.tier ≠ .dispatch)
    (now : Nat) (throws : Bool) :
    (s.handlerSettles call (.returned none) now throws).tracker = s.tracker ∧
      (s.handlerSettles call (.returned none) now throws).executions.get call =
        some ⟨some a, .awaiting none⟩ := by
  unfold System.handlerSettles
  simp only [here, tracked, decide_false, Bool.false_eq_true, if_false]
  exact ⟨rfl, OrderedMap.get_set_self _ _ _⟩

/-- The timeout settles a pending promise. -/
theorem timer_outcome {t : PendingCommandTracker} (keyed : t.Keyed) {k : String}
    {command : PendingCommand} (pending : t.pending.get k = some ⟨command, .dispatched⟩)
    (waiting : Waiting command (t.view k)) :
    (t.timer k).outcome k = [⟨.timedOut, false, none⟩] := by
  have quiet : (t.view k).outcome = [] := by
    rcases waiting with ⟨_, -, -, quiet⟩ | ⟨gone, -⟩
    · exact quiet
    · rw [PendingCommandTracker.view, pending] at gone
      cases gone
  have stepped : (t.timer k).view k = (t.view k).react TrackedEntry.timeout :=
    (t.view_step k (.timer k) keyed).trans (if_pos rfl)
  show ((t.timer k).view k).outcome = _
  rw [stepped]
  generalize seen : t.view k = l at quiet
  obtain ⟨held, callbacks⟩ := l
  have found : held = some ⟨command, .dispatched⟩ := by
    rw [← pending]
    exact (congrArg Prod.fst seen).symm
  subst found
  show (callbacks ++ _).filterMap Callback.resolution = _
  rw [List.filterMap_append]
  change callbacks.filterMap Callback.resolution = [] at quiet
  rw [quiet]
  rfl

theorem resolutionSettles_resolved {s : System} {call : Nat} {a : Accepted}
    {data : Option JsonObject} {resolution : PendingResolution}
    (here : s.executions.get call = some ⟨some a, .awaiting data⟩)
    (resolved : s.resolutionOf a = some resolution) (now : Nat) (throws : Bool) :
    ∃ result, (s.resolutionSettles call now throws).executions.get call =
        some ⟨some a, .settled result (!throws)⟩ ∧
      result.lifecycleState = some resolution.lifecycleState := by
  unfold System.resolutionSettles
  simp only [here, resolved]
  exact ⟨_, OrderedMap.get_set_self _ _ _, Accepted.withId_lifecycleState _ _⟩

/-- **A tracked call times out** when nothing is heard of it. -/
theorem unanswered_times_out {s : System} (inv : s.Inv uuid) {call : Nat} {a : Accepted}
    (here : s.executions.get call = some ⟨some a, .dispatching⟩) {k : String}
    (mine : a.correlationId = some k)
    (pending : s.tracker.pending.get k = some ⟨a.pendingCommand k, .dispatched⟩) :
    ∃ result, (run (System.step uuid) s (unanswered call k)).executions.get call =
        some ⟨some a, .settled result true⟩ ∧ result.lifecycleState = some .timedOut := by
  have tracked : a.tier ≠ .dispatch := fun dispatch => by
    rw [(inv.tracked call a _ here).mpr dispatch] at mine
    cases mine
  obtain ⟨same, awaiting⟩ := handlerSettles_returned here tracked 0 false
  have outcome : (s.tracker.timer k).outcome k = [⟨.timedOut, false, none⟩] :=
    timer_outcome inv.keyed pending ((inv.underWay call a _ here rfl).waiting k mine)
  rw [← same] at outcome
  let timed : System :=
    (s.step uuid (.handlerSettles call (.returned none) 0 false)).step uuid (.timer k)
  have resolved : timed.resolutionOf a = some ⟨.timedOut, false, none⟩ := by
    rw [System.resolutionOf, mine, Option.bind_some]
    exact congrArg List.head? outcome
  have quiet : timed.executions.get call = some ⟨some a, .awaiting none⟩ := awaiting
  exact resolutionSettles_resolved quiet resolved 0 false

end Directions

/-! ## Exactness -/

/-- **A requested tier is not exceeded.**  After any run, a call that reaches its handler
never fails for want of a tier above the requested one, whatever happens later, exactly when
its request is not raised. -/
theorem never_overfails_iff (uuid : Nat → String) (fresh : Function.Injective uuid)
    (before : List SystemEvent) (env : Environment) {request : CommandRequest}
    {requested : ConfirmationTier} (asked : request.requiredTier = some requested) (now : Nat)
    (createThrows writeThrows : Bool) {call : Nat}
    (new : call = (run (System.step uuid) {} before).calls) {started : System}
    (starts : started = (run (System.step uuid) {} before).step uuid
      (.execute env request now createThrows writeThrows)) {a : Accepted}
    (handed : started.executions.get call = some ⟨some a, .dispatching⟩) :
    (∀ later, ¬(run (System.step uuid) started later).OverFails call requested) ↔
      ¬Raised env request := by
  have reached : System.Inv uuid (run (System.step uuid) {} before) :=
    run_invariant (step_inv fresh) (inv_init uuid) before
  have inv : started.Inv uuid := starts ▸ step_inv fresh _ _ reached
  subst new starts
  obtain ⟨accepted, calls, registered⟩ := execute_handed handed
  rw [← accept_rank_le_iff uuid (run (System.step uuid) {} before).uuids env asked, ← accepted]
  constructor
  · intro never
    by_contra above
    have raised : Raised env request := by
      rw [accepted, accept_rank_le_iff _ _ env asked, not_not] at above
      exact above
    have tier : a.tier = .observed := accepted ▸ accept_tier_of_raised _ _ raised
    cases correlated : a.correlationId with
    | none =>
        rw [(inv.tracked _ a _ handed).mp correlated] at tier
        cases tier
    | some k =>
        obtain ⟨result, settled, timedOut⟩ :=
          unanswered_times_out inv handed correlated (registered k correlated)
        exact never _ ⟨a, result, true, settled, .inl timedOut, by omega⟩
  · intro within later
    have known : (run (System.step uuid) {} before).calls <
        ((run (System.step uuid) {} before).step uuid
          (.execute env request now createThrows writeThrows)).calls := by
      rw [System.step, calls]
      omega
    refine not_overFails known ?_ within later
    rw [System.acceptedOf, handed]
    rfl

/-- The lamp is told to acknowledge, and its state can be observed. -/
def acknowledgedRequest : CommandRequest :=
  { lampRequest with
    confirm := some { condition := fun state => .ok (state.get "on").isSome }
    requiredTier := some .acknowledged }

def askLamp (acknowledges : Bool) : SystemEvent :=
  .execute (lampEnvironment acknowledges) acknowledgedRequest 0 false false

theorem never_overfails_iff_acknowledging :
    ¬(run (System.step unaryIds) {} (askLamp true :: unanswered 0 (unaryIds 1))).OverFails 0
      .acknowledged :=
  (never_overfails_iff unaryIds unaryIds_injective [] (lampEnvironment true) rfl 0 false false
    rfl rfl rfl).mpr (by decide) (unanswered 0 (unaryIds 1))

/-- A lamp that does not acknowledge does what it is told, and the command, for which an
acknowledgement was enough, waits for an observation and times out. -/
theorem raised_times_out :
    Function.Injective unaryIds ∧
      (run (System.step unaryIds) {} (askLamp false :: unanswered 0 (unaryIds 1))).OverFails 0
        .acknowledged :=
  ⟨unaryIds_injective, _, _, true, rfl, .inl rfl, by decide⟩

end Aeolus.Automations
