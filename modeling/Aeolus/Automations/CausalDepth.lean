/-
# Aeolus.Automations.CausalDepth — how far one event can lead

An execution may emit events and change Shared State, and both may trigger executions.
Each event and change has a depth, one more than that of its trigger; an event is not
emitted, and a change does not wake anyone, once the depth is above 16.  A chain of events
and changes, each made by an execution that the one before triggered, should therefore
have at most 17 elements.

The depth has to be passed on every way.  Two ways do not keep it:

* a change made through `db.set` or `db.delete` has no depth, so the executions it triggers
  start from 0 again (`alias_chain_too_long` has 18 elements);
* an envelope that arrives from outside brings its own depth, and any JSON value is
  accepted: counting up from `-1`, or from a text, takes longer or never ends.

Without these (`Guarded`), the bound holds in every state of every run
(`causal_chain_bounded`).
-/
import Mathlib.Tactic.Linarith
import Aeolus.Automations.Sandbox

namespace Aeolus.Automations

open Aeolus.Core Aeolus.Theory Aeolus.SharedState
open ExecutionGate

/-! ## Counting -/

/-- Counting up from here passes the limit in 17 steps or fewer. -/
def Counted (coercion : Coercion) (depth : Json) : Prop :=
  ∃ k : Nat, 1 ≤ k ∧ (k : ℚ) ≤ maxEventDepth + 1 ∧
    coercion.exceeds maxEventDepth (coercion.plusOne^[k] depth) = true

theorem plusOne_iterate (coercion : Coercion) (depth : ℚ) (k : Nat) :
    coercion.plusOne^[k] (.num depth) = .num (depth + k) := by
  induction k with
  | zero => simp
  | succ k ih =>
      rw [Function.iterate_succ_apply', ih]
      simp only [Coercion.plusOne, Nat.cast_add, Nat.cast_one, add_assoc]

/-- The numbers that count are those above `-1`. -/
theorem counted_num_iff (coercion : Coercion) (depth : ℚ) :
    Counted coercion (.num depth) ↔ -1 < depth := by
  constructor
  · rintro ⟨k, -, limit, passed⟩
    rw [plusOne_iterate] at passed
    have above : depth + k > maxEventDepth := of_decide_eq_true passed
    linarith
  · intro above
    refine ⟨17, by norm_num, by norm_num [maxEventDepth], ?_⟩
    rw [plusOne_iterate]
    refine decide_eq_true ?_
    norm_num [maxEventDepth]
    linarith

/-- So does a depth that is absent. -/
theorem counted_absent (coercion : Coercion) : Counted coercion (orZero none) :=
  (counted_num_iff coercion 0).mpr (by norm_num)

/-- The depth after `n` elements, none of which was above the limit. -/
def Spent (coercion : Coercion) (n : Nat) (depth : Json) : Prop :=
  ∃ start, Counted coercion start ∧ depth = coercion.plusOne^[n] start ∧
    ∀ j, 1 ≤ j → j ≤ n → coercion.exceeds maxEventDepth (coercion.plusOne^[j] start) = false

namespace Spent

variable {coercion : Coercion} {n : Nat} {depth : Json}

theorem start (counted : Counted coercion depth) : Spent coercion 0 depth :=
  ⟨depth, counted, rfl, fun j one none => by omega⟩

theorem next (spent : Spent coercion n depth)
    (shallow : coercion.exceeds maxEventDepth (coercion.plusOne depth) = false) :
    Spent coercion (n + 1) (coercion.plusOne depth) := by
  obtain ⟨start, counted, rfl, below⟩ := spent
  rw [← Function.iterate_succ_apply' coercion.plusOne n start] at shallow ⊢
  refine ⟨start, counted, rfl, fun j one upTo => ?_⟩
  rcases Nat.lt_or_eq_of_le upTo with earlier | rfl
  · exact below j one (Nat.le_of_lt_succ earlier)
  · exact shallow

/-- One more element is within the bound. -/
theorem next_le (spent : Spent coercion n depth) : ((n + 1 : Nat) : ℚ) ≤ maxEventDepth + 1 := by
  obtain ⟨start, ⟨k, one, limit, passed⟩, -, below⟩ := spent
  have shorter : n < k := by
    by_contra reached
    rw [below k one (by omega)] at passed
    cases passed
  exact (Nat.cast_le.mpr shorter).trans limit

end Spent

/-! ## The invariant -/

/-- The depth of a context is what its elements have left of it. -/
def Traced (coercion : Coercion) (causes : List (Option Nat)) (cause : Option Nat)
    (depth : Json) : Prop :=
  ∃ n, Leads causes cause n ∧ Spent coercion n depth

theorem Traced.append {coercion : Coercion} {causes : List (Option Nat)} {cause : Option Nat}
    {depth : Json} (traced : Traced coercion causes cause depth) (more : List (Option Nat)) :
    Traced coercion (causes ++ more) cause depth := by
  obtain ⟨n, leads, spent⟩ := traced
  exact ⟨n, leads.append more, spent⟩

/-- A trigger from outside. -/
theorem traced_outside {coercion : Coercion} (causes : List (Option Nat)) {depth : Json}
    (counted : Counted coercion depth) : Traced coercion causes none depth :=
  ⟨0, .outside, .start counted⟩

/-- The next element, made by an execution that was traced. -/
theorem Traced.snoc {coercion : Coercion} {causes : List (Option Nat)} {cause : Option Nat}
    {depth : Json} (traced : Traced coercion causes cause depth)
    (shallow : coercion.exceeds maxEventDepth (coercion.plusOne depth) = false) :
    Traced coercion (causes ++ [cause]) (some causes.length) (coercion.plusOne depth) := by
  obtain ⟨n, leads, spent⟩ := traced
  exact ⟨n + 1, leads.snoc, spent.next shallow⟩

def EventContext.depth (context : EventContext) : Json :=
  orZero (context.metadata.bind EventMetadata.depth)

namespace AutomationRuntime

variable {cfg : RuntimeConfig} {rt : AutomationRuntime}

/-- What is known of a run so far. -/
structure Tracked (cfg : RuntimeConfig) (rt : AutomationRuntime) : Prop where
  executions : ∀ x ∈ rt.engine.executions,
    Traced cfg.engine.coercion rt.causes x.context.cause x.context.depth
  published : ∀ sent ∈ rt.published, ∀ envelope,
    parseAutomationEventEnvelope sent.message = some envelope →
      Traced cfg.engine.coercion rt.causes (some sent.number) (orZero envelope.metadata.depth)
  elements : ∀ j < rt.causes.length, ∃ n, Leads rt.causes (some j) n ∧ (n : ℚ) ≤ maxEventDepth + 1

theorem tracked_start (cfg : RuntimeConfig) : Tracked cfg {} where
  executions _ mem := absurd mem List.not_mem_nil
  published _ mem := absurd mem List.not_mem_nil
  elements j before := absurd before (Nat.not_lt_zero j)

/-- The engine went on, and what it added is traced. -/
theorem Tracked.engine (tracked : Tracked cfg rt) {engine : AutomationEngine}
    {store : SharedStateStore}
    (added : ∀ x ∈ engine.executions, x ∈ rt.engine.executions ∨
      Traced cfg.engine.coercion rt.causes x.context.cause x.context.depth) :
    Tracked cfg { rt with engine, store } where
  executions x mem := (added x mem).elim (tracked.executions x) id
  published := tracked.published
  elements := tracked.elements

/-- One more element, made by a traced execution. -/
theorem Tracked.element (tracked : Tracked cfg rt) {cause : Option Nat} {depth : Json}
    (traced : Traced cfg.engine.coercion rt.causes cause depth) :
    Tracked cfg { rt with causes := rt.causes ++ [cause] } where
  executions x mem := (tracked.executions x mem).append [cause]
  published sent mem envelope parsed := (tracked.published sent mem envelope parsed).append [cause]
  elements j before := by
    rw [List.length_append, List.length_singleton] at before
    rcases Nat.lt_or_eq_of_le (Nat.le_of_lt_succ before) with old | rfl
    · obtain ⟨n, leads, bounded⟩ := tracked.elements j old
      exact ⟨n, leads.append [cause], bounded⟩
    · obtain ⟨n, leads, spent⟩ := traced
      exact ⟨n + 1, leads.snoc, spent.next_le⟩

/-! ## One event -/

theorem Tracked.handleAutomationEvent (tracked : Tracked cfg rt) {message : Json}
    {cause : Option Nat}
    (traced : ∀ envelope, parseAutomationEventEnvelope message = some envelope →
      Traced cfg.engine.coercion rt.causes cause (orZero envelope.metadata.depth))
    (around : Surroundings) (topic : String) :
    Tracked cfg (rt.handleAutomationEvent cfg around topic message cause) := by
  unfold AutomationRuntime.handleAutomationEvent
  split
  · exact tracked
  · rename_i envelope parsed
    refine tracked.engine fun x mem => (AutomationEngine.mem_dispatch mem).imp id fun new => ?_
    rw [new.1]
    exact traced envelope parsed

theorem orZero_orZero (value : Option Json) : orZero (some (orZero value)) = orZero value := by
  cases value with
  | none => rfl
  | some value => cases value <;> rfl

/-- A change is announced.  Only when it wakes someone does its depth matter. -/
theorem Tracked.announce (tracked : Tracked cfg rt) {change : SharedStateChange}
    {around : Surroundings}
    (traced : cfg.engine.coercion.exceeds maxEventDepth (orZero change.depth) = false →
      (∃ id rule, rt.engine.registry.rules.get id = some rule ∧
        AutomationEngine.wakesOnChange around change id rule = true) →
      Traced cfg.engine.coercion rt.causes change.cause (orZero change.depth))
    (store : SharedStateStore) : Tracked cfg (rt.announce cfg around store change) := by
  refine tracked.engine fun x mem => ?_
  refine (AutomationEngine.mem_evaluateSharedStateChange mem).imp id fun new => ?_
  obtain ⟨context, shallow, woken⟩ := new
  have depth : x.context.depth = orZero change.depth := by
    rw [context]
    exact orZero_orZero change.depth
  rw [depth, context]
  exact traced shallow woken

/-- A write through the REST API starts from depth 0. -/
theorem Tracked.announceWrite (tracked : Tracked cfg rt) {around : Surroundings}
    {written : Option SharedStateChange × SharedStateStore}
    (fresh : ∀ change store, written = (some change, store) →
      change.cause = none ∧ change.depth = none) :
    Tracked cfg (rt.announceWrite cfg around written) := by
  obtain ⟨change, store⟩ := written
  cases change with
  | none => exact tracked
  | some change =>
      obtain ⟨cause, depth⟩ := fresh change store rfl
      refine tracked.announce (fun _ _ => ?_) store
      rw [cause, depth]
      exact traced_outside _ (counted_absent _)

/-- The two ways on which the depth is lost are not taken: a change made through an alias
wakes no rule, and a depth that arrives from outside counts up to the limit in time. -/
def Guarded (cfg : RuntimeConfig) (rt : AutomationRuntime) : RuntimeEvent → Prop
  | .ingest _ message _ =>
      ∀ envelope, parseAutomationEventEnvelope message = some envelope →
        Counted cfg.engine.coercion (orZero envelope.metadata.depth)
  | .call i call host =>
      call.isAlias = true → ∀ execution change store, rt.running i = some execution →
        perform cfg rt.store execution host call = some (.changed change store) →
        ∀ id rule, rt.engine.registry.rules.get id = some rule →
          AutomationEngine.wakesOnChange host.around
            { change with cause := some rt.causes.length } id rule = false
  | _ => True

/-- What a call leaves behind is one more element. -/
theorem Tracked.leave (tracked : Tracked cfg rt) {i : Nat} {execution : RuleExecution}
    (running : rt.running i = some execution) {call : SandboxCall} {host : Host} {effect : Effect}
    (performed : perform cfg rt.store execution host call = some effect)
    (guarded : Guarded cfg rt (.call i call host)) :
    Tracked cfg (rt.leave cfg execution host effect) := by
  have member : execution ∈ rt.engine.executions := by
    unfold AutomationRuntime.running at running
    split at running
    · exact List.mem_of_getElem? (Option.filter_eq_some_iff.mp running).1
    · cases running
  have trigger := tracked.executions execution member
  have carries := perform_carries performed
  have grown := tracked.element trigger
  cases effect with
  | published topic message =>
      obtain ⟨shallow, envelope, parsed, depth⟩ := carries
      refine ⟨grown.executions, fun sent mem other parsed' => ?_, grown.elements⟩
      rcases List.mem_append.mp mem with old | new
      · exact grown.published sent old other parsed'
      · rw [List.mem_singleton.mp new] at parsed' ⊢
        rw [parsed, Option.some.injEq] at parsed'
        rw [← parsed', depth]
        exact trigger.snoc shallow
  | changed change store =>
      refine grown.announce (fun shallow woken => ?_) store
      cases aliased : call.isAlias with
      | false =>
          have depth : orZero change.depth =
              cfg.engine.coercion.plusOne execution.context.depth := by
            rw [show change.depth = _ from carries, aliased]
            exact (orZero_orZero _).symm.trans (orZero_plusOne _ _)
          rw [depth] at shallow ⊢
          exact trigger.snoc shallow
      | true =>
          obtain ⟨id, rule, found, wakes⟩ := woken
          have asleep := guarded aliased execution change store running performed id rule found
          exact absurd (wakes.symm.trans asleep) (by decide)

theorem Tracked.step (tracked : Tracked cfg rt) {e : RuntimeEvent} (guarded : Guarded cfg rt e) :
    Tracked cfg (rt.step cfg e) := by
  -- a context without a depth, from outside
  have outside : Traced cfg.engine.coercion rt.causes none (orZero none) :=
    traced_outside _ (counted_absent _)
  cases e with
  | register id rule => exact tracked.engine fun _ old => .inl old
  | unregister ruleId => exact tracked.engine fun _ old => .inl old
  | completes handle => exact tracked.engine fun _ old => .inl old
  | deviceStateChange event arrived around =>
      refine tracked.engine fun x mem => (AutomationEngine.mem_dispatch mem).imp id fun new => ?_
      rw [new.1]
      cases arrived with
      | none => exact outside
      | some now => exact outside
  | ingest topic message around =>
      exact tracked.handleAutomationEvent
        (fun envelope parsed => traced_outside _ (guarded envelope parsed)) around topic
  | cronFires ruleId around =>
      refine tracked.engine fun x mem => ?_
      unfold AutomationEngine.cronFires at mem
      split at mem
      · exact .inl mem
      · rcases AutomationEngine.mem_submit mem with old | rfl
        · exact .inl old
        · exact .inr outside
  | fire ruleId context around =>
      refine tracked.engine fun x mem => ?_
      unfold AutomationEngine.fire at mem
      split at mem
      · exact .inl mem
      · rcases AutomationEngine.mem_submit mem with old | rfl
        · exact .inl old
        · exact .inr outside
  | restSet bucket key value source now around =>
      simp only [AutomationRuntime.step]
      split
      · exact tracked
      · rename_i written stored
        refine tracked.announceWrite fun change store same => ?_
        rw [same] at stored
        rw [SharedStateStore.set_change stored]
        refine ⟨rfl, ?_⟩
        cases source <;> rfl
  | restDelete bucket key source now around =>
      refine tracked.announceWrite fun change store same => ?_
      rw [SharedStateStore.delete_change same]
      refine ⟨rfl, ?_⟩
      cases source <;> rfl
  | deliver k around =>
      simp only [AutomationRuntime.step]
      split
      · exact tracked
      · rename_i sent found
        refine tracked.handleAutomationEvent (fun envelope parsed => ?_) around sent.topic
        exact tracked.published sent (List.mem_of_getElem? found) envelope parsed
  | call i call host =>
      simp only [AutomationRuntime.step]
      split
      · exact tracked
      · rename_i execution running
        split
        · exact tracked
        · rename_i effect performed
          exact tracked.leave running performed guarded

/-! ## Runs -/

theorem Tracked.chain_le (tracked : Tracked cfg rt) {path : List Nat}
    (chain : path.IsChain (Causes rt.causes)) : (path.length : ℚ) ≤ maxEventDepth + 1 := by
  rcases path.eq_nil_or_concat' with rfl | ⟨path, j, rfl⟩
  · norm_num [maxEventDepth]
  rcases path.eq_nil_or_concat' with rfl | ⟨before, i, rfl⟩
  · norm_num [maxEventDepth]
  -- the last element is in the log, because another caused it
  have link : Causes rt.causes i j := by
    rw [List.append_assoc, List.singleton_append, List.isChain_append_cons_cons] at chain
    exact chain.2.1
  obtain ⟨n, leads, bounded⟩ := tracked.elements j (List.getElem?_eq_some_iff.mp link).1
  have length := leads.length_le chain
  rw [List.length_append, List.length_singleton]
  exact (Nat.cast_le.mpr length).trans bounded

/-- **The causal depth is bounded.**  In every state of a run in which no change made
through `db.set` or `db.delete` wakes a rule, and every depth that arrives from outside
counts up to the limit in time, a chain of events and changes, each made by an execution
that the one before triggered, has at most 17 elements. -/
theorem causal_chain_bounded (cfg : RuntimeConfig) (events : List RuntimeEvent)
    (guarded : Along (step cfg) (Guarded cfg) {} events) :
    ∀ p, p <+: events → ∀ path : List Nat,
      path.IsChain (Causes (run (step cfg) {} p).causes) →
        (path.length : ℚ) ≤ maxEventDepth + 1 := by
  intro p initial path chain
  have tracked : Tracked cfg (run (step cfg) {} p) :=
    invariant_throughout (fun _ _ kept ok => kept.step ok) (tracked_start cfg) guarded p initial
  exact tracked.chain_le chain

/-! One rule that every change wakes, with slots for all its executions. -/

def everyChange : Rule where
  topic := "#"
  name := "loop"
  condition := none
  action := .script "true"
  triggerType := "shared-state"
  cronExpression := none

/-- `true` is the only value that is written. -/
def roomy : RuntimeConfig where
  engine :=
    { gate := ⟨50, 50⟩
      isValidCron := fun _ => true
      coercion := ⟨fun _ => "", fun _ => none⟩ }
  stringify := fun _ => "true"

def host : Host where
  executionId := "run"
  uuid := "event"
  now := 0
  around := { now := fun _ => 0 }

/-- A write from outside wakes the rule; then each of its executions makes one call. -/
def loops (call : Nat → SandboxCall) (n : Nat) : List RuntimeEvent :=
  [.register "loop" everyChange,
    .restSet "a" "k" (some (.bool true)) (some (.api none)) 0 { now := fun _ => 0 }] ++
  (List.range n).map fun i => .call i (call i) host

/-- Another key for each execution. -/
def keyNumber (i : Nat) : String := String.ofList (List.replicate (i + 2) 'k')

/-- With `shared.set` the rule wakes itself 17 times.  The call after that is made by an
execution that never was. -/
theorem causal_chain_bounded_loop :
    (List.range 17).IsChain (Causes (run (step roomy) {}
      (loops (fun i => .sharedSet "a" (keyNumber i) (.bool true)) 18)).causes) ∧
    ((List.range 17).length : ℚ) ≤ maxEventDepth + 1 := by
  have chain : (List.range 17).IsChain (Causes (run (step roomy) {}
      (loops (fun i => .sharedSet "a" (keyNumber i) (.bool true)) 18)).causes) := by
    decide +kernel
  refine ⟨chain, causal_chain_bounded roomy _ ?_ _ List.prefix_rfl _ chain⟩
  refine along_of_forall (fun e mem rt => ?_) _
  rcases List.mem_append.mp mem with first | call
  · rcases List.mem_pair.mp first with rfl | rfl
    · trivial
    · trivial
  · obtain ⟨i, -, rfl⟩ := List.mem_map.mp call
    exact nofun

/-- With `db.set` the depth stays 0, and it goes on. -/
theorem alias_chain_too_long :
    ¬ ∀ (cfg : RuntimeConfig) (events : List RuntimeEvent) (path : List Nat),
      path.IsChain (Causes (run (step cfg) {} events).causes) →
        (path.length : ℚ) ≤ maxEventDepth + 1 := by
  intro always
  have bounded := always roomy (loops (fun i => .dbSet "a" (keyNumber i) (.bool true)) 18)
    (List.range 18) (by decide +kernel)
  norm_num [maxEventDepth] at bounded

end AutomationRuntime

end Aeolus.Automations
