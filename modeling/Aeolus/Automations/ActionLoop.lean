/-
# Aeolus.Automations.ActionLoop — does the loop of `automation()` follow its plan?

`shouldStopAfter` and `planAutomationBody` of `src/automations/sandbox.ts`, against the loop
in the isolate (`ScriptRun`) that is said to be written to match them.  The plan looks at the
outcomes of a body's own actions.  The loop looks at `commandFailed`, one variable for all
`automation()` calls of the script and for its imperative calls: a failure anywhere stops the
next body that looks, and the start of another body makes it forget a failure.

Over every run whose actions await their own commands, every body invokes what its plan says
exactly when the variable, wherever it decides, says what the action's own commands say
(`refines_plan_iff`).
-/
import Aeolus.Automations.ScriptRun

namespace Aeolus.Automations

open Aeolus.Core Aeolus.Theory

/-! ## The plan -/

def shouldStopAfter (success continueOnFailure : Bool) : Bool := !continueOnFailure && !success

structure AutomationBodyPlan where
  invokedIndices : List Nat
  aggregateSuccess : Bool
deriving DecidableEq

/-- The loop over the outcomes, from an index on. -/
def planFrom (continueOnFailure : Bool) : List Bool → Nat → AutomationBodyPlan
  | [], _ => ⟨[], true⟩
  | success :: rest, index =>
      if shouldStopAfter success continueOnFailure then ⟨[index], success⟩
      else
        let later := planFrom continueOnFailure rest (index + 1)
        ⟨index :: later.invokedIndices, success && later.aggregateSuccess⟩

def planAutomationBody (outcomes : List Bool) (continueOnFailure : Bool) : AutomationBodyPlan :=
  planFrom continueOnFailure outcomes 0

/-- How many actions a plan invokes. -/
def plannedCount (continueOnFailure : Bool) : List Bool → Nat
  | [] => 0
  | success :: rest =>
      if shouldStopAfter success continueOnFailure then 1
      else plannedCount continueOnFailure rest + 1

theorem planFrom_indices (continueOnFailure : Bool) (outcomes : List Bool) (index : Nat) :
    (planFrom continueOnFailure outcomes index).invokedIndices =
      List.range' index (plannedCount continueOnFailure outcomes) := by
  induction outcomes generalizing index with
  | nil => rfl
  | cons success rest ih =>
      unfold planFrom plannedCount
      split
      · rfl
      · rw [List.range'_succ, ← ih (index + 1)]

/-- A plan invokes the first actions, in order. -/
theorem plan_indices (outcomes : List Bool) (continueOnFailure : Bool) :
    (planAutomationBody outcomes continueOnFailure).invokedIndices =
      List.range (plannedCount continueOnFailure outcomes) := by
  rw [planAutomationBody, planFrom_indices, List.range_eq_range']

/-- An action is planned when there is one, and none before it stops the loop. -/
theorem le_plannedCount_iff {continueOnFailure : Bool} {outcomes : List Bool} {k : Nat} :
    k ≤ plannedCount continueOnFailure outcomes ↔
      k ≤ outcomes.length ∧ ∀ j success, j + 1 < k → outcomes[j]? = some success →
        shouldStopAfter success continueOnFailure = false := by
  induction outcomes generalizing k with
  | nil =>
      constructor
      · intro bound
        exact ⟨bound, fun j success _ found => by simp at found⟩
      · rintro ⟨bound, -⟩
        exact bound
  | cons success rest ih =>
      unfold plannedCount
      cases k with
      | zero => simp
      | succ k =>
          split
          · rename_i stops
            constructor
            · intro bound
              have zero : k = 0 := by omega
              subst zero
              exact ⟨by simp, fun j _ before => by omega⟩
            · rintro ⟨-, goes⟩
              by_contra more
              have first := goes 0 success (by omega) rfl
              rw [stops] at first
              cases first
          · rename_i goes
            rw [Nat.add_le_add_iff_right, ih]
            simp only [List.length_cons, Nat.add_le_add_iff_right]
            refine and_congr_right fun _ => ?_
            constructor
            · intro later j other before found
              cases j with
              | zero =>
                  obtain rfl : success = other := by simpa using found
                  exact Bool.eq_false_of_not_eq_true goes
              | succ j => exact later j other (by omega) (by simpa using found)
            · intro all j other before found
              exact all (j + 1) other (by omega) (by simpa using found)

def ScriptEvent.touchesCalls : ScriptEvent → Bool
  | .issue _ _ => true
  | .records _ _ => true
  | .settles _ => true
  | .delivers _ => true
  | _ => false

/-- The body has left this action behind. -/
def AutomationBody.Past (body : AutomationBody) (j : Nat) : Prop :=
  j + 1 < body.invoked ∨ body.status = .resolved ∧ j < body.invoked

namespace ScriptRun

/-! ## Statement and condition -/

/-- Did every command succeed that an action of a body has issued? -/
def ownOutcome (s : ScriptRun) (b j : Nat) : Bool :=
  s.calls.all fun call => call.owner ≠ some (b, j) || call.succeeded

/-- The plan of a body, given the outcomes of its own actions. -/
def planOf (s : ScriptRun) (b : Nat) (config : AutomationConfig) : AutomationBodyPlan :=
  planAutomationBody ((List.range config.actions).map (s.ownOutcome b)) config.continueOnFailure

/-- A body whose conditions hold has invoked a first part of its plan, and all of it when it
has come to its end. -/
def Refines (s : ScriptRun) : Prop :=
  ∀ b body, s.bodies[b]? = some body → checkConditions body.config.conditions = .holds →
    List.range body.invoked <+: (s.planOf b body.config).invokedIndices ∧
      (body.status = .resolved →
        (s.planOf b body.config).invokedIndices = List.range body.invoked)

/-- An action returns after the calls that it has made. -/
def Awaits (s : ScriptRun) : ScriptEvent → Prop
  | .actionReturns b => ∀ body, s.runningBody b = some body →
      ∀ call ∈ s.calls, call.owner = some (b, body.invoked - 1) → call.delivered = true
  | _ => True

/-- Where the variable decides about a further action, it says what the action's own commands
say. -/
def Undisturbed (s : ScriptRun) : ScriptEvent → Prop
  | .actionReturns b => ∀ body, s.runningBody b = some body → s.live = true →
      body.config.continueOnFailure = true ∨ body.invoked = body.config.actions ∨
        s.commandFailed = !s.ownOutcome b (body.invoked - 1)
  | _ => True

/-! ## A body and its plan -/

section Fits

variable {s : ScriptRun} {b : Nat} {body : AutomationBody}

/-- The loop stops after this action of the body, by the plan. -/
def stopsAfter (s : ScriptRun) (b : Nat) (body : AutomationBody) (j : Nat) : Bool :=
  shouldStopAfter (s.ownOutcome b j) body.config.continueOnFailure

/-- The same, without the lists. -/
structure Fits (s : ScriptRun) (b : Nat) (body : AutomationBody) : Prop where
  bounded : body.invoked ≤ body.config.actions
  goes : ∀ j, j + 1 < body.invoked → s.stopsAfter b body j = false
  ends : body.status = .resolved → body.invoked = body.config.actions ∨
    0 < body.invoked ∧ s.stopsAfter b body (body.invoked - 1) = true

theorem le_planned_iff {k : Nat} :
    k ≤ plannedCount body.config.continueOnFailure
        ((List.range body.config.actions).map (s.ownOutcome b)) ↔
      k ≤ body.config.actions ∧ ∀ j, j + 1 < k → s.stopsAfter b body j = false := by
  rw [le_plannedCount_iff, List.length_map, List.length_range]
  refine and_congr_right fun bound => ?_
  constructor
  · intro goes j before
    refine goes j _ before ?_
    rw [List.getElem?_map, List.getElem?_range (by omega)]
    rfl
  · intro goes j success before found
    rw [List.getElem?_map, List.getElem?_range (by omega)] at found
    obtain rfl : s.ownOutcome b j = success := by simpa using found
    exact goes j before

theorem range_prefix_iff {k n : Nat} : List.range k <+: List.range n ↔ k ≤ n := by
  constructor
  · intro initial
    simpa using initial.length_le
  · intro bound
    obtain ⟨more, rfl⟩ := Nat.exists_eq_add_of_le bound
    rw [List.range_add]
    exact List.prefix_append _ _

theorem range_eq_iff {k n : Nat} : List.range n = List.range k ↔ k ≤ n ∧ ¬k + 1 ≤ n := by
  constructor
  · intro same
    have lengths := congrArg List.length same
    simp at lengths
    omega
  · rintro ⟨below, above⟩
    obtain rfl : k = n := by omega
    rfl

theorem fits_iff : s.Fits b body ↔
    List.range body.invoked <+: (s.planOf b body.config).invokedIndices ∧
      (body.status = .resolved →
        (s.planOf b body.config).invokedIndices = List.range body.invoked) := by
  unfold planOf
  rw [plan_indices, range_prefix_iff, range_eq_iff, le_planned_iff, le_planned_iff]
  constructor
  · intro fits
    refine ⟨⟨fits.bounded, fits.goes⟩, fun resolved => ⟨⟨fits.bounded, fits.goes⟩, ?_⟩⟩
    rintro ⟨bound, goes⟩
    rcases fits.ends resolved with all | ⟨some_invoked, stops⟩
    · omega
    · have last := goes (body.invoked - 1) (by omega)
      rw [stops] at last
      cases last
  · rintro ⟨⟨bounded, goes⟩, ends⟩
    refine ⟨bounded, goes, fun resolved => ?_⟩
    obtain ⟨-, no_more⟩ := ends resolved
    by_cases all : body.invoked = body.config.actions
    · exact Or.inl all
    · right
      by_contra neither
      refine no_more ⟨by omega, fun j before => ?_⟩
      by_cases last : j + 1 = body.invoked
      · refine Bool.eq_false_of_not_eq_true fun stops => neither ⟨by omega, ?_⟩
        rw [← last]
        exact stops
      · exact goes j (by omega)

end Fits

theorem refines_iff {s : ScriptRun} : s.Refines ↔ ∀ b body, s.bodies[b]? = some body →
    checkConditions body.config.conditions = .holds → s.Fits b body :=
  forall₄_congr fun _ _ _ _ => fits_iff.symm

/-! ## What one event does to calls and bodies -/

/-- A call goes on; when it has settled, its results stay. -/
structure Later (call call' : HostCall) : Prop where
  owner : call'.owner = call.owner
  settled : call.settled = true → call'.settled = true ∧ call'.results = call.results
  delivered : call'.delivered = true → call.delivered = true ∨ call.settled = true

/-- A new call, of the current action of its body. -/
structure Fresh (s : ScriptRun) (call : HostCall) : Prop where
  results : call.results = []
  delivered : call.delivered = false
  owner : ∀ b j, call.owner = some (b, j) →
    ∃ body, s.runningBody b = some body ∧ j = body.invoked - 1

/-- The calls go on, and there may be new ones. -/
structure Moved (s s' : ScriptRun) : Prop where
  old : ∀ (c : Nat) (call : HostCall), s.calls[c]? = some call →
    ∃ call', s'.calls[c]? = some call' ∧ Later call call'
  all : ∀ call' ∈ s'.calls, (∃ call ∈ s.calls, Later call call') ∨ s.Fresh call'

section Step

variable {s s' : ScriptRun}

theorem Later.refl (call : HostCall) : Later call call := ⟨rfl, fun h => ⟨h, rfl⟩, Or.inl⟩

theorem moved_of_eq (same : s'.calls = s.calls) : Moved s s' where
  old := fun _ call found => ⟨call, same ▸ found, Later.refl call⟩
  all := fun call member => Or.inl ⟨call, same ▸ member, Later.refl call⟩

theorem moved_set {c : Nat} {call call' : HostCall} (found : s.calls[c]? = some call)
    (later : Later call call') (calls : s'.calls = s.calls.set c call') : Moved s s' where
  old := fun d other here => by
    rw [calls, List.getElem?_set]
    by_cases same : c = d
    · subst same
      rw [found] at here
      cases here
      have inside := (List.getElem?_eq_some_iff.mp found).1
      rw [if_pos rfl, if_pos inside]
      exact ⟨call', rfl, later⟩
    · rw [if_neg same]
      exact ⟨other, here, Later.refl other⟩
  all := fun other member => by
    rw [calls] at member
    left
    rcases List.mem_or_eq_of_mem_set member with old | rfl
    · exact ⟨other, old, Later.refl other⟩
    · exact ⟨call, List.mem_of_getElem? found, later⟩

theorem moved_new {call : HostCall} (fresh : s.Fresh call) (calls : s'.calls = s.calls ++ [call]) :
    Moved s s' where
  old := fun c other here => by
    refine ⟨other, ?_, Later.refl other⟩
    rw [calls, List.getElem?_append_left (List.getElem?_eq_some_iff.mp here).1]
    exact here
  all := fun other member => by
    rw [calls] at member
    rcases List.mem_append.mp member with old | new
    · exact Or.inl ⟨other, old, Later.refl other⟩
    · rw [List.mem_singleton.mp new]
      exact Or.inr fresh

/-- Events of the bodies and of the wait leave the calls alone. -/
theorem calls_step {event : ScriptEvent} (untouched : event.touchesCalls = false) :
    (s.step event).calls = s.calls := by
  cases event with
  | issue _ _ | records _ _ | settles _ | delivers _ => cases untouched
  | _ =>
      unfold step
      dsimp only
      repeat' split
      all_goals rfl

theorem moved_step (s : ScriptRun) (event : ScriptEvent) : Moved s (s.step event) := by
  have nothing : Moved s s := moved_of_eq rfl
  cases event with
  | issue body preflight =>
      cases body with
      | none =>
          unfold step
          dsimp only
          split
          · refine moved_new ⟨rfl, rfl, fun b j owner => ?_⟩ rfl
            cases owner
          · exact nothing
      | some b =>
          unfold step
          dsimp only
          split
          · rename_i body running
            split
            · refine moved_new ⟨rfl, rfl, fun b' j owner => ?_⟩ rfl
              cases owner
              exact ⟨body, running, rfl⟩
            · exact nothing
          · exact nothing
  | records c result =>
      unfold step
      dsimp only
      split
      · rename_i call found
        split
        · exact nothing
        · rename_i unsettled
          refine moved_set found ?_ rfl
          refine ⟨rfl, fun settled => ?_, Or.inl⟩
          rw [settled] at unsettled
          exact absurd rfl unsettled
      · exact nothing
  | settles c =>
      unfold step
      dsimp only
      split
      · rename_i call found
        split
        · exact nothing
        · refine moved_set found ?_ rfl
          exact ⟨rfl, fun _ => ⟨rfl, rfl⟩, Or.inl⟩
      · exact nothing
  | delivers c =>
      unfold step
      dsimp only
      split
      · rename_i call found
        split
        · rename_i arrived
          have settled : call.settled = true := by
            simp only [Bool.and_eq_true] at arrived
            exact arrived.1.1
          refine moved_set found ?_ rfl
          exact ⟨rfl, fun h => ⟨h, rfl⟩, fun _ => Or.inr settled⟩
        · exact nothing
      · exact nothing
  | automation _ | actionReturns _ | actionThrows _ | scriptReturns | scriptThrows _
  | awaitAutomations | expires | bodiesDone | drained | closes =>
      exact moved_of_eq (calls_step rfl)

/-- The outcome of an action does not change once its calls have settled. -/
theorem ownOutcome_moved (moved : Moved s s') {b j : Nat}
    (settled : ∀ call ∈ s.calls, call.owner = some (b, j) → call.settled = true) :
    s'.ownOutcome b j = s.ownOutcome b j := by
  rw [Bool.eq_iff_iff]
  unfold ownOutcome
  simp only [List.all_eq_true, Bool.or_eq_true, decide_eq_true_eq]
  constructor
  · intro succeeded call member
    by_cases own : call.owner = some (b, j)
    · obtain ⟨c, found⟩ := List.mem_iff_getElem?.mp member
      obtain ⟨call', found', later⟩ := moved.old c call found
      have same := (later.settled (settled call member own)).2
      right
      rcases succeeded call' (List.mem_of_getElem? found') with other | success
      · exact absurd (later.owner.trans own) other
      · unfold HostCall.succeeded at success ⊢
        rwa [same] at success
    · exact Or.inl own
  · intro succeeded call' member
    by_cases own : call'.owner = some (b, j)
    · right
      unfold HostCall.succeeded
      rcases moved.all call' member with ⟨call, old, later⟩ | fresh
      · have owner : call.owner = some (b, j) := later.owner.symm.trans own
        have same := (later.settled (settled call old owner)).2
        rw [same]
        exact (succeeded call old).resolve_left fun other => other owner
      · rw [fresh.results]
        rfl
    · exact Or.inl own

theorem running_of_runningBody {b : Nat} {body : AutomationBody}
    (running : s.runningBody b = some body) :
    s.bodies[b]? = some body ∧ body.status = .running := by
  obtain ⟨found, status⟩ := Option.filter_eq_some_iff.mp running
  exact ⟨found, by simpa using status⟩

/-- What an event does to the bodies. -/
inductive BodyStep (s : ScriptRun) : ScriptEvent → List AutomationBody → Prop where
  | same (event : ScriptEvent) (quiet : ∀ b body, event = .actionReturns b →
      s.runningBody b = some body → s.live = false) : BodyStep s event s.bodies
  | started (config : AutomationConfig) :
      BodyStep s (.automation config) (s.bodies ++ [runAutomation config])
  | returned (b : Nat) (body : AutomationBody) (running : s.runningBody b = some body)
      (live : s.live = true) :
      BodyStep s (.actionReturns b) (s.bodies.set b (body.returned s.commandFailed))
  | threw (b : Nat) (body : AutomationBody) (running : s.runningBody b = some body) :
      BodyStep s (.actionThrows b) (s.bodies.set b { body with status := .rejected })

theorem bodyStep (s : ScriptRun) (event : ScriptEvent) :
    BodyStep s event (s.step event).bodies := by
  cases event with
  | automation config =>
      unfold step
      dsimp only
      split
      · exact .started config
      · exact .same _ nofun
  | actionReturns b =>
      unfold step
      dsimp only
      split
      · rename_i body running
        split
        · rename_i live
          exact .returned b body running live
        · rename_i dead
          exact .same _ fun _ _ _ _ => Bool.eq_false_of_not_eq_true dead
      · rename_i idle
        refine .same _ fun b' body same running => ?_
        cases same
        rw [idle] at running
        cases running
  | actionThrows b =>
      unfold step
      dsimp only
      split
      · rename_i body running
        split
        · exact .threw b body running
        · exact .same _ nofun
      · exact .same _ nofun
  | issue body preflight =>
      have unchanged : (s.step (.issue body preflight)).bodies = s.bodies := by
        cases body <;> unfold step <;> dsimp only <;> repeat' split
        all_goals rfl
      rw [unchanged]
      exact .same _ nofun
  | records _ _ | settles _ | delivers _ | scriptReturns | scriptThrows _ | awaitAutomations
  | expires | bodiesDone | drained | closes =>
      unfold step
      dsimp only
      repeat' split
      all_goals exact .same _ nofun

/-! ## What every run keeps -/

/-- A running body is in an action, and the calls of actions left behind have settled. -/
structure Kept (s : ScriptRun) : Prop where
  running : ∀ (b : Nat) (body : AutomationBody), s.bodies[b]? = some body →
    body.status = .running →
      checkConditions body.config.conditions = .holds ∧ 0 < body.invoked
  settled : ∀ call ∈ s.calls, call.delivered = true → call.settled = true
  past : ∀ (b : Nat) (body : AutomationBody), s.bodies[b]? = some body → ∀ j, body.Past j →
    ∀ call ∈ s.calls, call.owner = some (b, j) → call.settled = true

theorem kept_start : ({} : ScriptRun).Kept where
  running := fun _ _ found => nomatch found
  settled := fun _ member => absurd member List.not_mem_nil
  past := fun _ _ found => nomatch found

theorem runAutomation_running {config : AutomationConfig}
    (running : (runAutomation config).status = .running) :
    checkConditions config.conditions = .holds ∧ 0 < config.actions ∧
      (runAutomation config).invoked = 1 := by
  unfold runAutomation at running ⊢
  split at running
  · cases running
  · cases running
  · rename_i holds
    split at running
    · cases running
    · rename_i some_actions
      rw [if_neg some_actions]
      exact ⟨holds, Nat.pos_of_ne_zero some_actions, rfl⟩

/-- A new body has left nothing behind. -/
theorem not_past_runAutomation (config : AutomationConfig) (j : Nat) :
    ¬(runAutomation config).Past j := by
  unfold runAutomation AutomationBody.Past
  split
  · simp
  · simp
  · split <;> simp

theorem runAutomation_config (config : AutomationConfig) :
    (runAutomation config).config = config := by
  unfold runAutomation
  split
  · rfl
  · rfl
  · split <;> rfl

/-- The actions that are behind a body when its current one has returned. -/
theorem past_returned {body : AutomationBody} {flag : Bool} {j : Nat}
    (running : body.status = .running) (past : (body.returned flag).Past j) :
    body.Past j ∨ j = body.invoked - 1 := by
  unfold AutomationBody.returned AutomationBody.Past at past
  unfold AutomationBody.Past
  split at past
  · dsimp only at past
    omega
  · split at past
    · dsimp only at past
      rw [running] at past
      have before : j + 1 < body.invoked + 1 :=
        past.resolve_right fun resolved => nomatch resolved.1
      omega
    · dsimp only at past
      omega

theorem returned_running {body : AutomationBody} {flag : Bool}
    (running : (body.returned flag).status = .running) :
    (body.returned flag).config = body.config ∧
      (body.returned flag).invoked = body.invoked + 1 := by
  unfold AutomationBody.returned at running ⊢
  split at running
  · cases running
  · rename_i goes
    rw [if_neg goes]
    split at running
    · rename_i more
      rw [if_pos more]
      exact ⟨rfl, rfl⟩
    · cases running

theorem returned_config (body : AutomationBody) (flag : Bool) :
    (body.returned flag).config = body.config := by
  unfold AutomationBody.returned
  split
  · rfl
  · split <;> rfl

/-- A body of the list with one changed. -/
theorem set_cases {b c : Nat} {body body' other : AutomationBody}
    (found : s.bodies[b]? = some body) (here : (s.bodies.set b body')[c]? = some other) :
    c = b ∧ other = body' ∨ s.bodies[c]? = some other := by
  rw [List.getElem?_set] at here
  by_cases same : b = c
  · have inside := (List.getElem?_eq_some_iff.mp found).1
    rw [if_pos same, if_pos (same ▸ inside)] at here
    exact Or.inl ⟨same.symm, (Option.some.inj here).symm⟩
  · rw [if_neg same] at here
    exact Or.inr here

/-- A body of the list with a new one. -/
theorem snoc_cases {c : Nat} {body' other : AutomationBody}
    (here : (s.bodies ++ [body'])[c]? = some other) :
    c = s.bodies.length ∧ other = body' ∨ s.bodies[c]? = some other := by
  rw [List.getElem?_append] at here
  split at here
  · exact Or.inr here
  · rename_i beyond
    rw [List.getElem?_singleton] at here
    split at here
    · exact Or.inl ⟨by omega, (Option.some.inj here).symm⟩
    · cases here

theorem kept_step (s : ScriptRun) (event : ScriptEvent) (kept : s.Kept) (awaits : s.Awaits event) :
    (s.step event).Kept := by
  have moved := moved_step s event
  have settled : ∀ call ∈ (s.step event).calls, call.delivered = true → call.settled = true := by
    intro call member delivered
    rcases moved.all call member with ⟨old, here, later⟩ | fresh
    · refine (later.settled ?_).1
      exact (later.delivered delivered).elim (kept.settled old here) id
    · rw [fresh.delivered] at delivered
      cases delivered
  -- a body that is as it was: its old calls have settled, and it makes no call that is behind it
  have unchanged (b : Nat) (body : AutomationBody) (found : s.bodies[b]? = some body) (j : Nat)
      (past : body.Past j) : ∀ call ∈ (s.step event).calls,
        call.owner = some (b, j) → call.settled = true := by
    intro call member owner
    rcases moved.all call member with ⟨old, here, later⟩ | fresh
    · refine (later.settled ?_).1
      exact kept.past b body found j past old here (later.owner.symm.trans owner)
    · obtain ⟨body', running, rfl⟩ := fresh.owner b j owner
      obtain ⟨found', status⟩ := running_of_runningBody running
      rw [found] at found'
      cases found'
      have invoked := (kept.running b body found status).2
      rcases past with before | ⟨resolved, -⟩
      · omega
      · rw [status] at resolved
        cases resolved
  have bodies := bodyStep s event
  generalize newBodies : (s.step event).bodies = after at bodies
  refine ⟨?_, settled, ?_⟩
  · rw [newBodies]
    cases bodies with
    | same event quiet => exact kept.running
    | started config =>
        intro b body found running
        rcases snoc_cases found with ⟨-, rfl⟩ | old
        · obtain ⟨holds, -, invoked⟩ := runAutomation_running running
          rw [runAutomation_config, invoked]
          exact ⟨holds, Nat.one_pos⟩
        · exact kept.running b body old running
    | returned c body' current live =>
        intro b body found running
        obtain ⟨here, status⟩ := running_of_runningBody current
        rcases set_cases here found with ⟨-, rfl⟩ | old
        · obtain ⟨config, invoked⟩ := returned_running running
          rw [config, invoked]
          exact ⟨(kept.running c body' here status).1, Nat.succ_pos _⟩
        · exact kept.running b body old running
    | threw c body' current =>
        intro b body found running
        obtain ⟨here, -⟩ := running_of_runningBody current
        rcases set_cases here found with ⟨-, rfl⟩ | old
        · cases running
        · exact kept.running b body old running
  · rw [newBodies]
    cases bodies with
    | same event quiet => exact unchanged
    | started config =>
        intro b body found j past
        rcases snoc_cases found with ⟨-, rfl⟩ | old
        · exact absurd past (not_past_runAutomation config j)
        · exact unchanged b body old j past
    | returned c body' current live =>
        intro b body found j past
        obtain ⟨here, status⟩ := running_of_runningBody current
        rcases set_cases here found with ⟨rfl, rfl⟩ | old
        · rcases past_returned status past with before | rfl
          · exact unchanged b body' here j before
          · rw [calls_step rfl]
            intro call member owner
            exact kept.settled call member (awaits body' current call member owner)
        · exact unchanged b body old j past
    | threw c body' current =>
        intro b body found j past
        obtain ⟨here, -⟩ := running_of_runningBody current
        rcases set_cases here found with ⟨rfl, rfl⟩ | old
        · have before : body'.Past j := past.imp id fun resolved => nomatch resolved.1
          exact unchanged b body' here j before
        · exact unchanged b body old j past

/-! ## The loop and the plan -/

theorem stopsAfter_of_calls (same : s'.calls = s.calls) (b : Nat) (body : AutomationBody)
    (j : Nat) : s'.stopsAfter b body j = s.stopsAfter b body j := by
  unfold stopsAfter ownOutcome
  rw [same]

theorem Fits.of_calls {b : Nat} {body : AutomationBody} (same : s'.calls = s.calls) :
    s'.Fits b body ↔ s.Fits b body := by
  constructor
  · intro fits
    refine ⟨fits.bounded, fun j before => ?_, fun resolved => ?_⟩
    · rw [← stopsAfter_of_calls same]
      exact fits.goes j before
    · rw [← stopsAfter_of_calls same]
      exact fits.ends resolved
  · intro fits
    refine ⟨fits.bounded, fun j before => ?_, fun resolved => ?_⟩
    · rw [stopsAfter_of_calls same]
      exact fits.goes j before
    · rw [stopsAfter_of_calls same]
      exact fits.ends resolved

/-- A body that is as it was fits as it did: the outcomes behind it stay. -/
theorem Fits.moved {b : Nat} {body : AutomationBody} (kept : s.Kept) (moved : Moved s s')
    (found : s.bodies[b]? = some body) (fits : s.Fits b body) : s'.Fits b body := by
  have stays (j : Nat) (past : body.Past j) : s'.stopsAfter b body j = s.stopsAfter b body j := by
    unfold stopsAfter
    rw [ownOutcome_moved moved (kept.past b body found j past)]
  refine ⟨fits.bounded, fun j before => ?_, fun resolved => ?_⟩
  · rw [stays j (Or.inl before)]
    exact fits.goes j before
  · refine (fits.ends resolved).imp id fun ⟨some_invoked, stops⟩ => ⟨some_invoked, ?_⟩
    rw [stays _ (Or.inr ⟨resolved, by omega⟩)]
    exact stops

theorem fits_runAutomation (config : AutomationConfig)
    (holds : checkConditions config.conditions = .holds) (b : Nat) :
    s.Fits b (runAutomation config) := by
  unfold runAutomation
  rw [holds]
  dsimp only
  split
  · rename_i no_actions
    refine ⟨Nat.zero_le _, fun j before => absurd before (Nat.not_lt_zero _), fun _ => Or.inl ?_⟩
    exact no_actions.symm
  · rename_i some_actions
    refine ⟨Nat.one_le_iff_ne_zero.mpr some_actions, fun j before => ?_, nofun⟩
    have impossible : j + 1 < 1 := before
    omega

/-- What the variable has to say where it decides. -/
theorem fits_returned_iff {b : Nat} {body : AutomationBody} {flag : Bool}
    (running : body.status = .running) (fits : s.Fits b body) (some_invoked : 0 < body.invoked) :
    s.Fits b (body.returned flag) ↔
      body.config.continueOnFailure = true ∨ body.invoked = body.config.actions ∨
        flag = !s.ownOutcome b (body.invoked - 1) := by
  have bounded := fits.bounded
  have stops : s.stopsAfter b body (body.invoked - 1) =
      (!body.config.continueOnFailure && !s.ownOutcome b (body.invoked - 1)) := rfl
  unfold AutomationBody.returned
  by_cases breaks : (!body.config.continueOnFailure && flag) = true
  · rw [if_pos breaks]
    simp only [Bool.and_eq_true, Bool.not_eq_true'] at breaks
    obtain ⟨failFast, rfl⟩ := breaks
    rw [failFast] at stops ⊢
    constructor
    · intro after
      rcases after.ends rfl with all | ⟨-, stopped⟩
      · exact Or.inr (Or.inl all)
      · have own : s.stopsAfter b body (body.invoked - 1) = true := stopped
        rw [stops] at own
        exact Or.inr (Or.inr (by simpa using own.symm))
    · intro allowed
      refine ⟨bounded, fits.goes, fun _ => ?_⟩
      rcases allowed with opted | all | agrees
      · cases opted
      · exact Or.inl all
      · right
        refine ⟨some_invoked, ?_⟩
        show s.stopsAfter b body (body.invoked - 1) = true
        rw [stops, ← agrees]
        rfl
  · rw [if_neg breaks]
    by_cases more : body.invoked < body.config.actions
    · rw [if_pos more]
      have last_goes : s.stopsAfter b body (body.invoked - 1) = false ↔
          body.config.continueOnFailure = true ∨ body.invoked = body.config.actions ∨
            flag = !s.ownOutcome b (body.invoked - 1) := by
        rw [stops]
        have differ : body.invoked ≠ body.config.actions := Nat.ne_of_lt more
        cases opted : body.config.continueOnFailure with
        | true => simp
        | false =>
            have clear : flag = false := by simpa [opted] using breaks
            rw [clear]
            simp [differ]
      rw [← last_goes]
      constructor
      · intro after
        have before : body.invoked - 1 + 1 < body.invoked + 1 := by omega
        exact after.goes (body.invoked - 1) before
      · intro goes
        refine ⟨more, fun j before => ?_, fun resolved => ?_⟩
        swap
        · have ended : body.status = .resolved := resolved
          rw [running] at ended
          cases ended
        have within : j + 1 < body.invoked + 1 := before
        by_cases last : j = body.invoked - 1
        · rw [last]
          exact goes
        · exact fits.goes j (by omega)
    · rw [if_neg more]
      have all : body.invoked = body.config.actions := by omega
      exact ⟨fun _ => Or.inr (Or.inl all), fun _ => ⟨bounded, fits.goes, fun _ => Or.inl all⟩⟩

/-- One event keeps the bodies to their plans exactly when it is undisturbed. -/
theorem undisturbed_iff (s : ScriptRun) (event : ScriptEvent) (kept : s.Kept)
    (_ : s.Awaits event) (refines : s.Refines) :
    s.Undisturbed event ↔ (s.step event).Refines := by
  rw [refines_iff] at refines ⊢
  have moved := moved_step s event
  have unchanged (b : Nat) (body : AutomationBody) (found : s.bodies[b]? = some body)
      (holds : checkConditions body.config.conditions = .holds) : (s.step event).Fits b body :=
    (refines b body found holds).moved kept moved found
  have bodies := bodyStep s event
  generalize newBodies : (s.step event).bodies = after at bodies
  cases bodies with
  | same event quiet =>
      refine ⟨fun _ => unchanged, fun _ => ?_⟩
      cases event with
      | actionReturns b =>
          intro body running live
          rw [quiet b body rfl running] at live
          cases live
      | _ => trivial
  | started config =>
      refine ⟨fun _ b body found holds => ?_, fun _ => trivial⟩
      rcases snoc_cases found with ⟨-, rfl⟩ | old
      · rw [runAutomation_config] at holds
        exact fits_runAutomation config holds b
      · exact unchanged b body old holds
  | threw c body' current =>
      refine ⟨fun _ b body found holds => ?_, fun _ => trivial⟩
      obtain ⟨here, status⟩ := running_of_runningBody current
      rcases set_cases here found with ⟨rfl, rfl⟩ | old
      · have fits := unchanged b body' here holds
        exact ⟨fits.bounded, fits.goes, nofun⟩
      · exact unchanged b body old holds
  | returned c body' current live =>
      obtain ⟨here, status⟩ := running_of_runningBody current
      obtain ⟨holds, some_invoked⟩ := kept.running c body' here status
      have exactly := @fits_returned_iff s c body' s.commandFailed status
        (refines c body' here holds) some_invoked
      have own : (s.step (.actionReturns c)).Fits c (body'.returned s.commandFailed) ↔
        s.Fits c (body'.returned s.commandFailed) := Fits.of_calls (calls_step rfl)
      constructor
      · intro undisturbed b body found holds'
        rcases set_cases here found with ⟨rfl, rfl⟩ | old
        · exact own.mpr (exactly.mpr (undisturbed body' current live))
        · exact unchanged b body old holds'
      · intro fits other running _
        rw [current] at running
        cases running
        refine exactly.mp (own.mp (fits c _ ?_ ?_))
        · rw [List.getElem?_set_self (List.getElem?_eq_some_iff.mp here).1]
        · rw [returned_config]
          exact holds

/-- **The loop refines its plan**, over every run whose actions await their own commands: every
body whose conditions hold has invoked a first part of what `planAutomationBody` gives for the
outcomes of its own commands, and all of it at its end, exactly when the variable says what
these commands say wherever it decides about a further action. -/
theorem refines_plan_iff {events : List ScriptEvent} (awaits : Along step Awaits {} events) :
    (∀ before, before <+: events → (run step {} before).Refines) ↔
      Along step Undisturbed {} events :=
  invariant_iff_along_within Kept Refines Awaits Undisturbed kept_step undisturbed_iff kept_start
    (fun _ _ found => nomatch found) awaits

end Step

/-! Two bodies with two actions each. -/

/-- A body on its own, whose first action succeeds. -/
def oneBody : List ScriptEvent :=
  [.automation { actions := 2 }, .issue (some 0) false, .scriptReturns,
    .records 0 { success := true }, .settles 0, .delivers 0, .actionReturns 0, .actionReturns 0]

/-- The first command of the first body fails, that of the second succeeds. -/
def twoBodies : List ScriptEvent :=
  [.automation { actions := 2 }, .issue (some 0) false, .automation { actions := 2 },
    .issue (some 1) false, .scriptReturns, .records 0 { success := false }, .settles 0,
    .delivers 0, .records 1 { success := true }, .settles 1, .delivers 1, .actionReturns 1]

theorem oneBody_awaits : Along step Awaits {} oneBody := by
  refine ⟨trivial, trivial, trivial, trivial, trivial, trivial, ?_, ?_, trivial⟩
  · rintro body running call member -
    obtain rfl := List.mem_singleton.mp member
    rfl
  · rintro body running call member -
    obtain rfl := List.mem_singleton.mp member
    rfl

theorem refines_plan_iff_oneBody : (run step {} oneBody).Refines := by
  refine (refines_plan_iff oneBody_awaits).mpr
    ⟨trivial, trivial, trivial, trivial, trivial, trivial, ?_, ?_, trivial⟩ _ (List.prefix_refl _)
  · intro body running _
    cases running
    exact Or.inr (Or.inr rfl)
  · intro body running _
    cases running
    exact Or.inr (Or.inl rfl)

/-- The second body stops after its first action, which succeeded. -/
theorem other_body_stopped : Along step Awaits {} twoBodies ∧
    ((run step {} twoBodies).planOf 1 { actions := 2 }).invokedIndices = [0, 1] ∧
      ¬(run step {} twoBodies).Refines := by
  have planned :
      ((run step {} twoBodies).planOf 1 { actions := 2 }).invokedIndices = [0, 1] := rfl
  refine ⟨?_, planned, fun refines => ?_⟩
  · refine ⟨trivial, trivial, trivial, trivial, trivial, trivial, trivial, trivial, trivial,
      trivial, trivial, ?_, trivial⟩
    intro body running call member owner
    cases running
    rcases List.mem_cons.mp member with rfl | second
    · cases owner
    · obtain rfl := List.mem_singleton.mp second
      rfl
  · have stopped : (run step {} twoBodies).bodies[1]? =
        some { config := { actions := 2 }, invoked := 1, status := .resolved } := rfl
    have all := (refines 1 _ stopped rfl).2 rfl
    rw [planned] at all
    exact absurd all (by decide)

end ScriptRun

end Aeolus.Automations
