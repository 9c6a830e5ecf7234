/-
# Aeolus.Automations.SharedStateCoalescing — the latest value of every key is seen

While a consumer is busy, the engine lets a Shared State change replace an earlier pending
one of the same rule, bucket and key.  The gate knows it by a text, `shared-state:` and
then the rule, the bucket and the key with colons between them.  Names may contain colons,
so the text is not the triple: bucket `a:b` with key `c` and bucket `a` with key `b:c`
have one, and a change of the second pair erases a pending change of the first
(`colon_loses_latest`).

When the pairs that a rule is woken for have different texts (`Separated`), and there are
no more of them than its queue holds (`Fits`), only changes of one pair replace one
another, and when nothing waits any more the latest change of every pair has been started
(`latest_value_started`).
-/
import Mathlib.Data.Finset.Card
import Aeolus.SharedState.SharedStateLimits
import Aeolus.Automations.AutomationEngine

namespace Aeolus.Automations

open Aeolus.Core Aeolus.Theory Aeolus.SharedState
open ExecutionGate

def SharedStateChange.pair (change : SharedStateChange) : String × String :=
  (change.bucket, change.key)

/-- The bucket and key that an execution was started for. -/
def RuleExecution.pair (execution : RuleExecution) : Option (String × String) :=
  (execution.context.metadata.bind EventMetadata.sharedState).map fun trigger =>
    (trigger.bucket, trigger.key)

/-- The rules stay as they are, and those that Shared State wakes are submitted for their
changes only.  Other rules may be woken by anything. -/
def EngineEvent.Delivers (registry : RuleRegistry) : EngineEvent → Prop
  | .register _ _ => False
  | .unregister _ => False
  | .cronFires ruleId _ | .fire ruleId _ _ =>
      ∀ rule, registry.rules.get ruleId = some rule → rule.triggerType ≠ "shared-state"
  | _ => True

/-- A change whose bucket and key the Shared State store accepts. -/
def EngineEvent.Named : EngineEvent → Prop
  | .sharedStateChange change _ =>
      validateSharedStateName "bucket" change.bucket = none ∧
        validateSharedStateName "key" change.key = none
  | _ => True

namespace AutomationEngine

/-! ## The changes a rule is woken for -/

def wokenBy (cfg : EngineConfig) (id : String) (rule : Rule) :
    EngineEvent → Option (SharedStateChange × Surroundings)
  | .sharedStateChange change around =>
      if cfg.coercion.exceeds maxEventDepth (orZero change.depth) = false ∧
          wakesOnChange around change id rule = true then
        some (change, around)
      else none
  | _ => none

def changesFor (cfg : EngineConfig) (id : String) (rule : Rule) (events : List EngineEvent) :
    List (SharedStateChange × Surroundings) :=
  events.filterMap (wokenBy cfg id rule)

/-- The latest change of one bucket and key that woke the rule. -/
def latestOf (cfg : EngineConfig) (id : String) (rule : Rule) (pair : String × String)
    (events : List EngineEvent) : Option (SharedStateChange × Surroundings) :=
  ((changesFor cfg id rule events).filter fun woken => woken.1.pair = pair).getLast?

/-- The pairs that have woken the rule. -/
def pairsFor (cfg : EngineConfig) (id : String) (rule : Rule) (es : List EngineEvent) :
    Finset (String × String) :=
  ((changesFor cfg id rule es).map (·.1.pair)).toFinset

/-- No rule is woken for more pairs than its queue holds. -/
def Fits (cfg : EngineConfig) (registry : RuleRegistry) (events : List EngineEvent) : Prop :=
  ∀ id rule, registry.rules.get id = some rule →
    (pairsFor cfg id rule events).card ≤ cfg.gate.maxQueuePerRule

/-- Different pairs that wake one rule differ as `bucket:key` too. -/
def Separated (cfg : EngineConfig) (registry : RuleRegistry) (events : List EngineEvent) : Prop :=
  ∀ id rule, registry.rules.get id = some rule →
    ∀ woken ∈ changesFor cfg id rule events, ∀ other ∈ changesFor cfg id rule events,
      woken.1.bucket ++ ":" ++ woken.1.key = other.1.bucket ++ ":" ++ other.1.key →
        woken.1.pair = other.1.pair

/-- What coalescing is to keep. -/
structure LatestKept (cfg : EngineConfig) (registry : RuleRegistry) (events : List EngineEvent)
    (engine : AutomationEngine) : Prop where
  /-- Only a change of the same rule and pair takes the place of a pending one. -/
  replaced : ∀ id rule, registry.rules.get id = some rule → rule.triggerType = "shared-state" →
    ∀ (i j : Nat) (c d : CallRecord) (x y : RuleExecution), engine.history.calls[i]? = some c →
      engine.history.calls[j]? = some d → d.slot = c.slot → engine.executions[i]? = some x →
        engine.executions[j]? = some y → x.ruleId = id → y.ruleId = id ∧ y.pair = x.pair
  /-- Once nothing waits, the latest change of every pair has been started. -/
  started : engine.history.gate.queued = [] → ∀ id rule, registry.rules.get id = some rule →
    ∀ pair change around, latestOf cfg id rule pair events = some (change, around) →
      ∃ i ∈ engine.started,
        engine.executions[i]? = some ⟨id, rule, sharedStateContext around change⟩

variable {cfg : EngineConfig} {engine : AutomationEngine}

theorem changesFor_snoc (id : String) (rule : Rule) (es : List EngineEvent) (e : EngineEvent) :
    changesFor cfg id rule (es ++ [e]) =
      changesFor cfg id rule es ++ (wokenBy cfg id rule e).toList := by
  rw [changesFor, List.filterMap_append]
  cases wakes : wokenBy cfg id rule e with
  | none => simp [changesFor, wakes]
  | some woken => simp [changesFor, wakes]

theorem changesFor_mono {id : String} {rule : Rule} {p es : List EngineEvent}
    (initial : p <+: es) : changesFor cfg id rule p ⊆ changesFor cfg id rule es := by
  obtain ⟨rest, rfl⟩ := initial
  rw [changesFor, changesFor, List.filterMap_append]
  exact List.subset_append_left _ _

/-- Only a rule of this trigger type is woken. -/
theorem triggerType_of_woken {id : String} {rule : Rule} {es : List EngineEvent}
    {woken : SharedStateChange × Surroundings} (mem : woken ∈ changesFor cfg id rule es) :
    rule.triggerType = "shared-state" := by
  obtain ⟨e, -, wakes⟩ := List.mem_filterMap.mp mem
  cases e with
  | sharedStateChange change around =>
      simp only [wokenBy] at wakes
      split at wakes
      · rename_i guard
        have eligible := guard.2
        simp only [wakesOnChange, Bool.and_eq_true, decide_eq_true_eq] at eligible
        exact eligible.1.1.1
      · cases wakes
  | _ => cases wakes

theorem latestOf_snoc_of_ne {id : String} {rule : Rule} {pair : String × String}
    {es : List EngineEvent} {e : EngineEvent}
    (other : ∀ woken, wokenBy cfg id rule e = some woken → woken.1.pair ≠ pair) :
    latestOf cfg id rule pair (es ++ [e]) = latestOf cfg id rule pair es := by
  have none : (wokenBy cfg id rule e).toList.filter (fun woken => woken.1.pair = pair) = [] := by
    refine List.filter_eq_nil_iff.mpr fun woken mem => ?_
    simpa using other woken (Option.mem_toList.mp mem)
  rw [latestOf, changesFor_snoc, List.filter_append, none, List.append_nil, latestOf]

theorem latestOf_snoc_self {id : String} {rule : Rule} {es : List EngineEvent} {e : EngineEvent}
    {woken : SharedStateChange × Surroundings} (wakes : wokenBy cfg id rule e = some woken) :
    latestOf cfg id rule woken.1.pair (es ++ [e]) = some woken := by
  rw [latestOf, changesFor_snoc, wakes, Option.toList_some, List.filter_append]
  simp

theorem delivered_of_woken {id : String} {rule : Rule} {es : List EngineEvent}
    {woken : SharedStateChange × Surroundings} (mem : woken ∈ changesFor cfg id rule es) :
    .sharedStateChange woken.1 woken.2 ∈ es := by
  obtain ⟨e, here, wakes⟩ := List.mem_filterMap.mp mem
  cases e with
  | sharedStateChange change around =>
      simp only [wokenBy] at wakes
      split at wakes
      · cases wakes
        exact here
      · cases wakes
  | _ => cases wakes

theorem pair_of_latest {id : String} {rule : Rule} {pair : String × String}
    {es : List EngineEvent} {woken : SharedStateChange × Surroundings}
    (last : latestOf cfg id rule pair es = some woken) : woken.1.pair = pair := by
  simpa using (List.mem_filter.mp (List.mem_of_getLast? last)).2

/-! ## The text of a pair -/

theorem sharedStateKey_inj {id bucket key bucket' key' : String}
    (same : sharedStateKey id bucket key = sharedStateKey id bucket' key') :
    bucket ++ ":" ++ key = bucket' ++ ":" ++ key' := by
  have regroup : ∀ p q r b c k : String,
      p ++ q ++ r ++ b ++ c ++ k = (p ++ q ++ r) ++ (b ++ c ++ k) := by
    intro p q r b c k
    simp only [String.append_assoc]
  have regrouped : ∀ b k, sharedStateKey id b k =
      ("shared-state:" ++ id ++ ":") ++ (b ++ ":" ++ k) := fun b k => regroup _ _ _ b _ k
  rw [regrouped, regrouped] at same
  exact (String.append_right_inj _).mp same

theorem sharedStateKey_ne_empty (id bucket key : String) : sharedStateKey id bucket key ≠ "" := by
  have front : ∀ {p q r b c k : String}, p ≠ "" → p ++ q ++ r ++ b ++ c ++ k ≠ "" := by
    intro p q r b c k filled empty
    simp only [String.append_eq_empty_iff] at empty
    exact filled empty.1.1.1.1.1
  exact front (by decide)

/-- Buckets without a colon are told apart from their keys. -/
theorem pair_eq_of_no_colon {bucket key bucket' key' : String} (plain : ':' ∉ bucket.toList)
    (plain' : ':' ∉ bucket'.toList)
    (same : bucket ++ ":" ++ key = bucket' ++ ":" ++ key') : (bucket, key) = (bucket', key') := by
  have colon : ":".toList = [':'] := by decide
  have texts := congrArg String.toList same
  rw [String.toList_append, String.toList_append, String.toList_append, String.toList_append,
    List.append_assoc, List.append_assoc, colon] at texts
  have front : ∀ {text rest : List Char}, ':' ∉ text →
      (text ++ ([':'] ++ rest)).takeWhile (· ≠ ':') = text := by
    intro text rest absent
    rw [List.takeWhile_append_of_pos fun c mem => by simpa using ne_of_mem_of_not_mem mem absent]
    exact List.append_nil text
  have buckets : bucket.toList = bucket'.toList := by
    rw [← front plain, texts, front plain']
  rw [buckets] at texts
  have keys := List.append_cancel_left (List.append_cancel_left texts)
  rw [String.toList_injective buckets, String.toList_injective keys]

/-! ## What is kept of the changes of one rule -/

/-- The closure that a change is submitted with. -/
def executionFor (id : String) (rule : Rule) (woken : SharedStateChange × Surroundings) :
    RuleExecution :=
  ⟨id, rule, sharedStateContext woken.2 woken.1⟩

@[simp] theorem pair_executionFor (id : String) (rule : Rule)
    (woken : SharedStateChange × Surroundings) :
    (executionFor id rule woken).pair = some woken.1.pair := rfl

structure Kept (cfg : EngineConfig) (id : String) (rule : Rule) (es : List EngineEvent)
    (engine : AutomationEngine) : Prop where
  coherent : Coherent cfg engine
  registered : engine.registry.rules.get id = some rule
  /-- The requests of the rule were made for changes that woke it. -/
  described : ∀ (i : Nat) (c : CallRecord), engine.history.calls[i]? = some c →
    c.request.ruleId = id → ∃ woken ∈ changesFor cfg id rule es,
      engine.executions[i]? = some (executionFor id rule woken) ∧
      c.request.coalesceKey = some (sharedStateKey id woken.1.bucket woken.1.key)
  distinct : ((engine.queueOf id).map (·.request.coalesceKey)).Nodup
  latest : ∀ pair woken, latestOf cfg id rule pair es = some woken →
    ∃ i ∈ engine.history.gate.timeline, engine.executions[i]? = some (executionFor id rule woken)

section Steps

variable {id : String} {rule : Rule} {es : List EngineEvent} {e : EngineEvent}

/-- An event that does not wake the rule. -/
theorem Kept.skip (kept : Kept cfg id rule es engine) (asleep : wokenBy cfg id rule e = none) :
    Kept cfg id rule (es ++ [e]) engine where
  coherent := kept.coherent
  registered := kept.registered
  described := by
    rw [changesFor_snoc, asleep, Option.toList_none, List.append_nil]
    exact kept.described
  distinct := kept.distinct
  latest := by
    intro pair woken last
    refine kept.latest pair woken ((latestOf_snoc_of_ne fun other wakes => ?_).symm.trans last)
    rw [asleep] at wakes
    cases wakes

theorem Kept.completes (kept : Kept cfg id rule es engine) (handle : Handle) :
    Kept cfg id rule es (engine.completes cfg handle) where
  coherent := kept.coherent.completes handle
  registered := kept.registered
  described := kept.described
  distinct := by
    have fewer := Gate.complete_sublist cfg.gate kept.coherent.accounted.wf handle id
    exact kept.distinct.sublist (fewer.map _)
  latest := by
    intro pair woken last
    obtain ⟨i, mem, found⟩ := kept.latest pair woken last
    refine ⟨i, ?_, found⟩
    show i ∈ (engine.history.gate.complete cfg.gate handle).timeline
    rw [Gate.timeline_complete cfg.gate kept.coherent.accounted.wf handle]
    exact mem

/-- What was recorded before a submission is recorded after it. -/
theorem Coherent.executions_submit (coherent : Coherent cfg engine) {execution : RuleExecution}
    {request : ExecutionRequest} {now : Nat} {i : Nat} (before : i < engine.history.calls.length) :
    (engine.submit cfg execution request now).executions[i]? = engine.executions[i]? :=
  List.getElem?_append_left (coherent.length_eq ▸ before)

/-- Another rule is submitted. -/
theorem Kept.other (kept : Kept cfg id rule es engine) {execution : RuleExecution}
    {request : ExecutionRequest} (own : request.ruleId = execution.ruleId)
    (other : execution.ruleId ≠ id) (now : Nat) :
    Kept cfg id rule es (engine.submit cfg execution request now) := by
  obtain ⟨result, slot, cases, calls⟩ := submitted cfg engine execution request now
  refine ⟨kept.coherent.submit own now, kept.registered, ?_, ?_, ?_⟩
  · intro i c call mine
    rw [calls] at call
    rcases get_snoc.mp call with old | ⟨rfl, rfl⟩
    · obtain ⟨woken, mem, found, key⟩ := kept.described i c old mine
      exact ⟨woken, mem, (kept.coherent.executions_submit (lt_of_get old)).trans found, key⟩
    · exact absurd (own.symm.trans mine) other
  · rw [queueOf_submit (own ▸ other) now]
    exact kept.distinct
  · intro pair woken last
    obtain ⟨i, mem, found⟩ := kept.latest pair woken last
    have before := kept.coherent.accounted.tracked.lt mem
    refine ⟨i, ?_, (kept.coherent.executions_submit before).trans found⟩
    rcases Gate.mem_timeline_submitted cases mem with stays | ⟨e, waits, -, rfl⟩
    · exact stays
    · -- what is replaced waited in the queue of the other rule
      obtain ⟨c, call, same, -⟩ := kept.coherent.accounted.recorded _ e waits
      obtain ⟨replaced, at_, rule⟩ := kept.coherent.ruleId_eq call
      rw [found, Option.some.injEq] at at_
      have queue := kept.coherent.accounted.wf.ruleId_of_mem waits
      rw [← at_, same, queue] at rule
      exact absurd (own.symm.trans rule.symm) other

theorem mem_pairsFor {woken : SharedStateChange × Surroundings}
    (mem : woken ∈ changesFor cfg id rule es) : woken.1.pair ∈ pairsFor cfg id rule es :=
  List.mem_toFinset.mpr (List.mem_map_of_mem mem)

/-- A request that waits was made for a pair that has woken the rule. -/
theorem Kept.key_of_queued (kept : Kept cfg id rule es engine) {q : QueuedEntry}
    (waits : q ∈ engine.queueOf id) :
    ∃ woken ∈ changesFor cfg id rule es,
      engine.executions[q.request.execute]? = some (executionFor id rule woken) ∧
      q.request.coalesceKey = some (sharedStateKey id woken.1.bucket woken.1.key) := by
  obtain ⟨c, call, same, -⟩ := kept.coherent.accounted.recorded id q waits
  have mine : c.request.ruleId = id := by
    rw [same]
    exact kept.coherent.accounted.wf.ruleId_of_mem waits
  obtain ⟨woken, mem, found, key⟩ := kept.described _ c call mine
  exact ⟨woken, mem, found, same ▸ key⟩

/-- There is room for a pair that does not wait yet: each request that waits has a pair of
its own. -/
theorem Kept.room (kept : Kept cfg id rule es engine)
    {woken : SharedStateChange × Surroundings} (wakes : wokenBy cfg id rule e = some woken)
    (clear : ∀ q ∈ engine.queueOf id,
      q.request.coalesceKey ≠ some (sharedStateKey id woken.1.bucket woken.1.key)) :
    (engine.queueOf id).length < (pairsFor cfg id rule (es ++ [e])).card := by
  let key (pair : String × String) : Option String := some (sharedStateKey id pair.1 pair.2)
  have grown : changesFor cfg id rule (es ++ [e]) = _ := changesFor_snoc id rule es e
  have nodup : (key woken.1.pair :: (engine.queueOf id).map (·.request.coalesceKey)).Nodup := by
    refine List.nodup_cons.mpr ⟨fun mem => ?_, kept.distinct⟩
    obtain ⟨q, waits, same⟩ := List.mem_map.mp mem
    exact clear q waits same
  have inside : (key woken.1.pair :: (engine.queueOf id).map (·.request.coalesceKey)).toFinset ⊆
      (pairsFor cfg id rule (es ++ [e])).image key := by
    intro k mem
    rcases List.mem_cons.mp (List.mem_toFinset.mp mem) with rfl | mem
    · refine Finset.mem_image_of_mem key (mem_pairsFor ?_)
      rw [grown, wakes]
      exact List.mem_append_right _ List.mem_cons_self
    · obtain ⟨q, waits, rfl⟩ := List.mem_map.mp mem
      obtain ⟨earlier, woke, -, same⟩ := kept.key_of_queued waits
      refine Finset.mem_image.mpr ⟨earlier.1.pair, mem_pairsFor ?_, same.symm⟩
      rw [grown]
      exact List.mem_append_left _ woke
  have count := (Finset.card_le_card inside).trans Finset.card_image_le
  rw [List.toFinset_card_of_nodup nodup, List.length_cons, List.length_map] at count
  exact count

/-- The change is submitted: it is accepted, and takes the place of a change of its own pair
or of none. -/
theorem Kept.wake (kept : Kept cfg id rule es engine)
    {woken : SharedStateChange × Surroundings} (wakes : wokenBy cfg id rule e = some woken)
    (fits : (pairsFor cfg id rule (es ++ [e])).card ≤ cfg.gate.maxQueuePerRule)
    (separated : ∀ earlier ∈ changesFor cfg id rule es,
      earlier.1.bucket ++ ":" ++ earlier.1.key = woken.1.bucket ++ ":" ++ woken.1.key →
        earlier.1.pair = woken.1.pair) (now : Nat) :
    Kept cfg id rule (es ++ [e])
      (engine.submit cfg (executionFor id rule woken) (sharedStateRequest woken.1 id) now) := by
  obtain ⟨result, slot, cases, calls⟩ := submitted cfg engine (executionFor id rule woken)
    (sharedStateRequest woken.1 id) now
  have grown : changesFor cfg id rule (es ++ [e]) = changesFor cfg id rule es ++ [woken] := by
    rw [changesFor_snoc, wakes, Option.toList_some]
  have keyed : (engine.numberedRequest (sharedStateRequest woken.1 id)).coalesces = true := by
    simp only [numberedRequest, sharedStateRequest, ExecutionRequest.coalesces, decide_eq_true_eq]
    exact sharedStateKey_ne_empty id woken.1.bucket woken.1.key
  have accepted : result.accepted = true :=
    Gate.accepted_of_room cases keyed fun clear => (kept.room wakes clear).trans_le fits
  have newest : (engine.submit cfg (executionFor id rule woken) (sharedStateRequest woken.1 id)
      now).executions[engine.history.calls.length]? = some (executionFor id rule woken) := by
    rw [← kept.coherent.length_eq]
    exact List.getElem?_concat_length
  refine ⟨kept.coherent.submit rfl now, kept.registered, ?_, ?_, ?_⟩
  · intro i c call mine
    rw [calls] at call
    rw [grown]
    rcases get_snoc.mp call with old | ⟨rfl, rfl⟩
    · obtain ⟨earlier, mem, found, key⟩ := kept.described i c old mine
      refine ⟨earlier, List.mem_append_left _ mem, ?_, key⟩
      exact (kept.coherent.executions_submit (lt_of_get old)).trans found
    · exact ⟨woken, List.mem_append_right _ List.mem_cons_self, newest, rfl⟩
  · exact Gate.nodup_keys_submitted cases keyed kept.distinct
  · intro pair latest last
    by_cases here : woken.1.pair = pair
    · rw [← here, latestOf_snoc_self wakes, Option.some.injEq] at last
      exact ⟨_, Gate.mem_timeline_accepted cases accepted, last ▸ newest⟩
    · rw [latestOf_snoc_of_ne fun other same => by
        rw [wakes, Option.some.injEq] at same
        exact same ▸ here] at last
      obtain ⟨i, mem, found⟩ := kept.latest pair latest last
      have before := kept.coherent.accounted.tracked.lt mem
      refine ⟨i, ?_, (kept.coherent.executions_submit before).trans found⟩
      rcases Gate.mem_timeline_submitted cases mem with stays | ⟨q, waits, same, rfl⟩
      · exact stays
      · -- the request that is replaced has the key of this change, so it is of this pair
        obtain ⟨earlier, woke, at_, key⟩ := kept.key_of_queued waits
        have text := sharedStateKey_inj (Option.some.inj (key.symm.trans same))
        have pairs := congrArg RuleExecution.pair (Option.some.inj (at_.symm.trans found))
        rw [pair_executionFor, pair_executionFor, Option.some.injEq,
          separated earlier woke text] at pairs
        exact absurd (pairs.trans (pair_of_latest last)) here

/-- The loop over rules other than this one. -/
theorem Kept.foldl (kept : Kept cfg id rule es engine) {around : Surroundings}
    {context : EventContext} {eligible : String → Rule → Bool}
    {request : String → ExecutionRequest} (own : ∀ r, (request r).ruleId = r)
    {rules : List (String × Rule)} (others : ∀ entry ∈ rules, entry.1 ≠ id ∨
      eligible entry.1 entry.2 = false) :
    Kept cfg id rule es
      (rules.foldl
        (fun engine entry =>
          if eligible entry.1 entry.2 then
            engine.submit cfg ⟨entry.1, entry.2, context⟩ (request entry.1) (around.now entry.1)
          else engine)
        engine) := by
  refine List.foldlRecOn _ _ kept fun before holds entry mem => ?_
  split
  · rename_i woken
    refine holds.other (own entry.1) ?_ _
    exact (others entry mem).resolve_right (by simp [woken])
  · exact holds

/-- An event that leaves the rule asleep. -/
theorem Kept.dispatch (kept : Kept cfg id rule es engine) {around : Surroundings}
    {context : EventContext} {eligible : String → Rule → Bool}
    {request : String → ExecutionRequest} (own : ∀ r, (request r).ruleId = r)
    (asleep : eligible id rule = false) :
    Kept cfg id rule es (engine.dispatch cfg around context eligible request) := by
  refine kept.foldl own fun entry mem => ?_
  by_cases here : entry.1 = id
  · have found := OrderedMap.mem_entries.mp mem
    rw [here, kept.registered, Option.some.injEq] at found
    exact .inr (by rw [here, ← found, asleep])
  · exact .inl here

/-- A change that wakes the rule is submitted once, between other rules. -/
theorem Kept.dispatch_wake (kept : Kept cfg id rule es engine) {change : SharedStateChange}
    {around : Surroundings} (wakes : wokenBy cfg id rule e = some (change, around))
    (eligible : wakesOnChange around change id rule = true)
    (fits : (pairsFor cfg id rule (es ++ [e])).card ≤ cfg.gate.maxQueuePerRule)
    (separated : ∀ earlier ∈ changesFor cfg id rule es,
      earlier.1.bucket ++ ":" ++ earlier.1.key = change.bucket ++ ":" ++ change.key →
        earlier.1.pair = change.pair) :
    Kept cfg id rule (es ++ [e])
      (engine.dispatch cfg around (sharedStateContext around change)
        (wakesOnChange around change) (sharedStateRequest change)) := by
  obtain ⟨front, back, split, before, after⟩ := OrderedMap.split_of_get kept.registered
  unfold AutomationEngine.dispatch
  rw [split, List.foldl_append, List.foldl_cons, if_pos eligible]
  refine Kept.foldl (Kept.wake (Kept.foldl kept (fun _ => rfl) ?_) wakes fits separated _)
    (fun _ => rfl) ?_
  · exact fun entry mem => .inl (before entry mem)
  · exact fun entry mem => .inl (after entry mem)

theorem Kept.step (kept : Kept cfg id rule es engine) (trigger : rule.triggerType = "shared-state")
    {registry : RuleRegistry} (found : registry.rules.get id = some rule)
    (delivers : e.Delivers registry)
    (fits : (pairsFor cfg id rule (es ++ [e])).card ≤ cfg.gate.maxQueuePerRule)
    (separated : ∀ earlier ∈ changesFor cfg id rule es, ∀ woken ∈ wokenBy cfg id rule e,
      earlier.1.bucket ++ ":" ++ earlier.1.key = woken.1.bucket ++ ":" ++ woken.1.key →
        earlier.1.pair = woken.1.pair) :
    Kept cfg id rule (es ++ [e]) (engine.step cfg e) := by
  have otherwise : wakesOnTopics rule = false := by simp [wakesOnTopics, trigger]
  cases e with
  | register => exact delivers.elim
  | unregister => exact delivers.elim
  | deviceStateChange event around =>
      simp only [AutomationEngine.step, evaluate]
      refine Kept.skip (kept.dispatch (fun _ => rfl) ?_) ?_
      · simp [otherwise]
      · rfl
  | automationEvent topic envelope around =>
      simp only [AutomationEngine.step, evaluateAutomationEvent]
      refine Kept.skip (kept.dispatch (fun _ => rfl) ?_) ?_
      · simp [otherwise]
      · rfl
  | sharedStateChange change around =>
      simp only [AutomationEngine.step, evaluateSharedStateChange]
      split
      · rename_i deep
        exact kept.skip (if_neg (by simp [deep]))
      · rename_i shallow
        cases eligible : wakesOnChange around change id rule with
        | false => exact (kept.dispatch (fun _ => rfl) eligible).skip (if_neg (by simp [eligible]))
        | true =>
            have wakes : wokenBy cfg id rule (.sharedStateChange change around) =
                some (change, around) := if_pos ⟨Bool.eq_false_of_not_eq_true shallow, eligible⟩
            refine kept.dispatch_wake wakes eligible fits fun earlier mem => ?_
            exact separated earlier mem _ wakes
  | cronFires ruleId around =>
      have other : ruleId ≠ id := by
        rintro rfl
        exact delivers rule found trigger
      simp only [AutomationEngine.step, cronFires]
      split
      · exact kept.skip rfl
      · exact (kept.other rfl other _).skip rfl
  | fire ruleId context around =>
      have other : ruleId ≠ id := by
        rintro rfl
        exact delivers rule found trigger
      simp only [AutomationEngine.step, fire]
      split
      · exact kept.skip rfl
      · exact (kept.other rfl other _).skip rfl
  | completes handle => exact (kept.completes handle).skip rfl

end Steps

/-! ## Runs -/

theorem kept_start (cfg : EngineConfig) {registry : RuleRegistry} {id : String} {rule : Rule}
    (armed : OrderedMap String Rule) (found : registry.rules.get id = some rule) :
    Kept cfg id rule [] { registry, armed } where
  coherent := coherent_empty cfg registry armed
  registered := found
  described i c call := absurd call (by simp)
  distinct := List.nodup_nil
  latest pair woken last := absurd last (by simp [latestOf, changesFor])

/-- The invariant along the run, one rule at a time. -/
theorem run_kept (cfg : EngineConfig) {registry : RuleRegistry} (armed : OrderedMap String Rule)
    {events : List EngineEvent} (delivered : ∀ e ∈ events, e.Delivers registry)
    (fits : Fits cfg registry events) (separated : Separated cfg registry events) {id : String}
    {rule : Rule} (found : registry.rules.get id = some rule)
    (trigger : rule.triggerType = "shared-state") {p : List EngineEvent} (initial : p <+: events) :
    Kept cfg id rule p (run (step cfg) { registry, armed } p) := by
  induction p using List.reverseRecOn with
  | nil => exact kept_start cfg armed found
  | append_singleton p e ih =>
      have shorter : p <+: events := (List.prefix_append p [e]).trans initial
      have member : e ∈ events := initial.subset (List.mem_append_right _ List.mem_cons_self)
      rw [run_append]
      refine (ih shorter).step trigger found (delivered e member) ?_ ?_
      · refine (Finset.card_le_card ?_).trans (fits id rule found)
        intro pair mem
        exact List.mem_toFinset.mpr
          (List.map_subset _ (changesFor_mono initial) (List.mem_toFinset.mp mem))
      · intro earlier mem woken wakes
        refine separated id rule found earlier (changesFor_mono shorter mem) woken ?_
        exact List.mem_filterMap.mpr ⟨e, member, wakes⟩

theorem Kept.same_pair {id : String} {rule : Rule} {es : List EngineEvent}
    (kept : Kept cfg id rule es engine)
    (separated : ∀ woken ∈ changesFor cfg id rule es, ∀ other ∈ changesFor cfg id rule es,
      woken.1.bucket ++ ":" ++ woken.1.key = other.1.bucket ++ ":" ++ other.1.key →
        woken.1.pair = other.1.pair)
    {i j : Nat} {c d : CallRecord} {x y : RuleExecution}
    (first : engine.history.calls[i]? = some c) (second : engine.history.calls[j]? = some d)
    (slot : d.slot = c.slot) (started : engine.executions[i]? = some x)
    (restarted : engine.executions[j]? = some y) (mine : x.ruleId = id) :
    y.ruleId = id ∧ y.pair = x.pair := by
  have slotted := kept.coherent.accounted.slotted
  have alike : d.request.ruleId = c.request.ruleId ∧
      d.request.coalesceKey = c.request.coalesceKey := by
    rcases Nat.lt_trichotomy i j with before | rfl | after
    · exact (slotted.shared i j c d first second before slot).2.2
    · rw [Option.some.inj (first.symm.trans second)]
      exact ⟨rfl, rfl⟩
    · obtain ⟨-, -, rule, key⟩ := slotted.shared j i d c second first after slot.symm
      exact ⟨rule.symm, key.symm⟩
  obtain ⟨x', startedX, ruleX⟩ := kept.coherent.ruleId_eq first
  rw [started, Option.some.injEq] at startedX
  subst startedX
  obtain ⟨woken, wokeX, foundX, keyX⟩ := kept.described i c first (ruleX.symm.trans mine)
  obtain ⟨other, wokeY, foundY, keyY⟩ :=
    kept.described j d second (alike.1.trans (ruleX.symm.trans mine))
  rw [started, Option.some.injEq] at foundX
  rw [restarted, Option.some.injEq] at foundY
  subst foundX foundY
  have text := sharedStateKey_inj (Option.some.inj (keyY.symm.trans (alike.2.trans keyX)))
  exact ⟨rfl, congrArg some (separated other wokeY woken wokeX text)⟩

/-- **Coalescing keeps the latest change of every pair.**  The rules are fixed, and changes,
completions and the events of other rules come in any order.  When the pairs that wake a
rule fit into its queue and differ as `bucket:key`, then in every state of the run only
changes of one pair have replaced one another, and when nothing waits the latest change of
every pair has been started. -/
theorem latest_value_started (cfg : EngineConfig) (registry : RuleRegistry)
    (armed : OrderedMap String Rule) (events : List EngineEvent)
    (delivered : ∀ e ∈ events, e.Delivers registry) (fits : Fits cfg registry events)
    (separated : Separated cfg registry events) :
    ∀ p, p <+: events → LatestKept cfg registry p (run (step cfg) { registry, armed } p) := by
  intro p initial
  refine ⟨?_, ?_⟩
  · intro id rule found trigger i j c d x y first second slot started restarted mine
    have kept := run_kept cfg armed delivered fits separated found trigger initial
    refine kept.same_pair ?_ first second slot started restarted mine
    intro woken mem other mem'
    exact separated id rule found woken (changesFor_mono initial mem) other
      (changesFor_mono initial mem')
  · intro drained id rule found pair change around last
    have woke := (List.mem_filter.mp (List.mem_of_getLast? last)).1
    have kept := run_kept cfg armed delivered fits separated found (triggerType_of_woken woke)
      initial
    obtain ⟨i, mem, execution⟩ := kept.latest pair _ last
    rw [timeline_of_drained (queued_eq_nil.mp drained)] at mem
    exact ⟨i, mem, execution⟩

/-- A colon in a key does no harm. -/
theorem separated_of_no_colon {registry : RuleRegistry} {events : List EngineEvent}
    (plain : ∀ change around, .sharedStateChange change around ∈ events →
      ':' ∉ change.bucket.toList) : Separated cfg registry events := by
  intro id rule _ woken mem other mem' same
  have bucket := plain _ _ (delivered_of_woken mem)
  have bucket' := plain _ _ (delivered_of_woken mem')
  exact pair_eq_of_no_colon bucket bucket' same

/-- A run that is not longer than the queue needs no counting. -/
theorem fits_of_length (registry : RuleRegistry) {events : List EngineEvent}
    (few : events.length ≤ cfg.gate.maxQueuePerRule) : Fits cfg registry events := by
  intro id rule _
  calc (pairsFor cfg id rule events).card
      _ ≤ ((changesFor cfg id rule events).map (·.1.pair)).length := List.toFinset_card_le _
      _ = (changesFor cfg id rule events).length := List.length_map _
      _ ≤ events.length := List.length_filterMap_le _ _
      _ ≤ cfg.gate.maxQueuePerRule := few

/-! One rule that watches everything, and one slot. -/

def watchAll : Rule where
  topic := "#"
  name := "watch"
  condition := none
  action := .script "true"
  triggerType := "shared-state"
  cronExpression := none

def oneAtATime : EngineConfig where
  gate := ⟨1, 10⟩
  isValidCron := fun _ => true
  coercion := ⟨fun _ => "", fun _ => none⟩

def watching : RuleRegistry := ({} : RuleRegistry).register oneAtATime.isValidCron "watch" watchAll

def changed (bucket key : String) (timestamp : Nat) : SharedStateChange where
  bucket
  key
  value := some (.num timestamp)
  deleted := false
  timestamp := timestamp
  source := .api none

def deliver (bucket key : String) (timestamp : Nat) : EngineEvent :=
  .sharedStateChange (changed bucket key timestamp) { now := fun _ => timestamp }

/-- A second change of `a/c` waits, one of `b/c` beside it, and both are started. -/
theorem latest_value_started_two_buckets :
    ∃ i ∈ (run (step oneAtATime) { registry := watching }
        [deliver "a" "c" 1, deliver "a" "c" 2, deliver "b" "c" 3, deliver "a" "c" 4, .completes 0,
          .completes 1]).started,
      (run (step oneAtATime) { registry := watching }
        [deliver "a" "c" 1, deliver "a" "c" 2, deliver "b" "c" 3, deliver "a" "c" 4, .completes 0,
          .completes 1]).executions[i]? =
        some ⟨"watch", watchAll, sharedStateContext { now := fun _ => 4 } (changed "a" "c" 4)⟩ := by
  have fits : Fits oneAtATime watching [deliver "a" "c" 1, deliver "a" "c" 2, deliver "b" "c" 3,
      deliver "a" "c" 4, .completes 0, .completes 1] :=
    fits_of_length _ (by decide)
  have kept := latest_value_started oneAtATime watching .empty _ ?_ fits ?_ _ List.prefix_rfl
  · exact kept.started (by decide) "watch" watchAll rfl ("a", "c") _ _ rfl
  · simp [deliver, EngineEvent.Delivers]
  · refine separated_of_no_colon fun change around mem => ?_
    simp only [deliver, List.mem_cons, EngineEvent.sharedStateChange.injEq] at mem
    rcases mem with ⟨rfl, -⟩ | ⟨rfl, -⟩ | ⟨rfl, -⟩ | ⟨rfl, -⟩ | mem
    all_goals first | decide | simp at mem

/-- The second change of `a:b/c` waits; one of `a/b:c` takes its place, and it is never
started. -/
theorem colon_loses_latest :
    ¬ ∀ (cfg : EngineConfig) (registry : RuleRegistry) (armed : OrderedMap String Rule)
      (events : List EngineEvent), (∀ e ∈ events, e.Delivers registry) →
      (∀ e ∈ events, e.Named) → Fits cfg registry events →
      ∀ p, p <+: events → LatestKept cfg registry p (run (step cfg) { registry, armed } p) := by
  intro always
  have fits : Fits oneAtATime watching [deliver "a:b" "c" 1, deliver "a:b" "c" 2,
      deliver "a" "b:c" 3, .completes 0] :=
    fits_of_length _ (by decide)
  have kept := always oneAtATime watching .empty _ ?_ ?_ fits _ List.prefix_rfl
  · obtain ⟨i, mem, found⟩ :=
      kept.started (by decide) "watch" watchAll rfl ("a:b", "c") (changed "a:b" "c" 2) _ rfl
    have ran : (run (step oneAtATime) { registry := watching } [deliver "a:b" "c" 1,
      deliver "a:b" "c" 2, deliver "a" "b:c" 3, .completes 0]).started = [0, 2] := by decide
    have when := congrArg (Option.map (·.context.timestamp)) found
    rw [ran, List.mem_pair] at mem
    rcases mem with rfl | rfl
    · exact absurd when (by decide)
    · exact absurd when (by decide)
  · simp [deliver, EngineEvent.Delivers]
  · have named : ∀ b k t, validateSharedStateName "bucket" b = none →
        validateSharedStateName "key" k = none → (deliver b k t).Named := fun _ _ _ b k => ⟨b, k⟩
    simp only [List.forall_mem_cons]
    exact ⟨named _ _ _ (by decide) (by decide), named _ _ _ (by decide) (by decide),
      named _ _ _ (by decide) (by decide), trivial, List.forall_mem_nil _⟩

end AutomationEngine

end Aeolus.Automations
