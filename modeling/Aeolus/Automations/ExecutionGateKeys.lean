/-
# Aeolus.Automations.ExecutionGateKeys — what the gate's two kinds of key guarantee

A `coalesceKey` is meant to serialize executions of one source, and `dedupKeys`
is meant to mirror the dedup keys of the entries in the gate.  `submit` checks
both.  `complete` checks neither: `drain` promotes the oldest queued entries
whatever keys are active, and releasing one entry's dedup key forgets it for
every other entry that carries it.

So neither property is an invariant of all runs, and both have an exact guard,
a condition on the state before a call:

* `serialized_iff_clear` — active keys stay distinct along a run if and only if
  at every completion the entries the free slots go to carry no key of an
  execution that stays active, nor one key twice (and the empty string, a defined
  key that `submit` takes for an absent one, is never admitted twice);
* `dedup_exact_iff_sole` — the dedup set mirrors the entries if and only if every
  completed entry was the only one with its dedup key.
-/
import Mathlib.Data.Finset.Basic
import Mathlib.Data.Finset.Lattice.Lemmas
import Aeolus.Theory.Run
import Aeolus.Automations.ExecutionGate

namespace Aeolus.Automations.ExecutionGate

open Aeolus.Theory

/-! ## Serialization by coalescing key -/

/-- No two active executions carry the same defined `coalesceKey`. -/
def Serialized (g : Gate) : Prop :=
  ∀ h h' a a' key, g.activeSet.get h = some a → g.activeSet.get h' = some a' →
    a.coalesceKey = some key → a'.coalesceKey = some key → h = h'

/-- The defined keys of some active entries. -/
def keysOf (l : List ActiveEntry) : List String := l.filterMap ActiveEntry.coalesceKey

/-- The queued entries that get a slot when one execution completes. -/
def Gate.promoted (cfg : GateConfig) (g : Gate) : List QueuedEntry :=
  g.backlog.take (cfg.maxActive + 1 - g.activeSet.size)

/-- The guard of serialization, on the state before the call. -/
def Clear (cfg : GateConfig) (g : Gate) : Call → Prop
  | .submit request _ =>
      request.coalesceKey = some "" → request.dedupKey ∉ g.dedupKeys →
        g.activeSet.size < cfg.maxActive → ∀ a ∈ g.activeSet.values, a.coalesceKey ≠ some ""
  | .complete handle =>
      g.activeSet.has handle = true →
        (∀ e ∈ g.promoted cfg, ∀ h a, h ≠ handle → g.activeSet.get h = some a →
          ∀ key, e.request.coalesceKey = some key → a.coalesceKey ≠ some key) ∧
        ((g.promoted cfg).filterMap (·.request.coalesceKey)).Nodup

theorem serialized_iff {g : Gate} : Serialized g ↔ (keysOf g.activeSet.values).Nodup := by
  have pairs : ∀ l : List (Handle × ActiveEntry), (l.map Prod.fst).Nodup →
      ((∀ x ∈ l, ∀ y ∈ l, ∀ key, x.2.coalesceKey = some key → y.2.coalesceKey = some key →
          x.1 = y.1) ↔ (keysOf (l.map Prod.snd)).Nodup) := by
    intro l
    induction l with
    | nil => simp [keysOf]
    | cons x l ih =>
        intro nodup
        rw [List.map_cons, List.nodup_cons] at nodup
        rw [List.map_cons, keysOf, List.filterMap_cons]
        have rest := ih nodup.2
        constructor
        · intro distinct
          have tail : (keysOf (l.map Prod.snd)).Nodup := rest.mp fun a ha b hb =>
            distinct a (List.mem_cons_of_mem _ ha) b (List.mem_cons_of_mem _ hb)
          cases hk : x.2.coalesceKey with
          | none => exact tail
          | some key =>
              refine List.nodup_cons.mpr ⟨fun inside => ?_, tail⟩
              obtain ⟨a, ha, hak⟩ := List.mem_filterMap.mp inside
              obtain ⟨y, hy, rfl⟩ := List.mem_map.mp ha
              have same := distinct x List.mem_cons_self y (List.mem_cons_of_mem _ hy) key hk hak
              exact nodup.1 (List.mem_map.mpr ⟨y, hy, same.symm⟩)
        · intro hnodup
          have tail : (keysOf (l.map Prod.snd)).Nodup := by
            cases hk : x.2.coalesceKey with
            | none => rw [hk] at hnodup; exact hnodup
            | some key => rw [hk] at hnodup; exact (List.nodup_cons.mp hnodup).2
          have head : ∀ y ∈ l, ∀ key, x.2.coalesceKey = some key → y.2.coalesceKey ≠ some key := by
            intro y hy key hk hyk
            rw [hk] at hnodup
            exact (List.nodup_cons.mp hnodup).1
              (List.mem_filterMap.mpr ⟨y.2, List.mem_map.mpr ⟨y, hy, rfl⟩, hyk⟩)
          intro a ha b hb key hak hbk
          rcases List.mem_cons.mp ha with rfl | hat <;> rcases List.mem_cons.mp hb with rfl | hbt
          · rfl
          · exact absurd hbk (head b hbt key hak)
          · exact absurd hak (head a hat key hbk)
          · exact rest.mpr tail a hat b hbt key hak hbk
  rw [OrderedMap.values, ← pairs g.activeSet.entries g.activeSet.nodup]
  constructor
  · intro serialized x hx y hy key hxk hyk
    exact serialized x.1 y.1 x.2 y.2 key (OrderedMap.mem_entries.mp hx)
      (OrderedMap.mem_entries.mp hy) hxk hyk
  · intro distinct h h' a a' key ha ha' hk hk'
    exact distinct (h, a) (OrderedMap.mem_entries.mpr ha) (h', a') (OrderedMap.mem_entries.mpr ha')
      key hk hk'

theorem serialized_empty : Serialized {} := fun _ _ _ _ _ h => by cases h

theorem mem_keysOf {l : List ActiveEntry} {key : String} :
    key ∈ keysOf l ↔ ∃ a ∈ l, a.coalesceKey = some key := List.mem_filterMap

/-- Admitting a request keeps the active keys distinct exactly when its key is
not among them. -/
theorem serialized_admitRequest {g : Gate} (wf : g.WF) (serialized : Serialized g)
    (request : ExecutionRequest) :
    Serialized (g.admitRequest request request.dedupKey).2 ↔
      ∀ key, request.coalesceKey = some key → ∀ a ∈ g.activeSet.values, a.coalesceKey ≠ some key := by
  have values : (g.admitRequest request request.dedupKey).2.activeSet.values =
      g.activeSet.values ++ [⟨request.ruleId, request.dedupKey, request.coalesceKey⟩] :=
    OrderedMap.values_set_of_absent wf.fresh
  have old : (keysOf g.activeSet.values).Nodup := serialized_iff.mp serialized
  rw [serialized_iff, values, keysOf, List.filterMap_append]
  cases hk : request.coalesceKey with
  | none => simpa [keysOf] using old
  | some key =>
      have single : List.filterMap ActiveEntry.coalesceKey
          [⟨request.ruleId, request.dedupKey, some key⟩] = [key] := rfl
      rw [single, List.nodup_append]
      constructor
      · rintro ⟨-, -, apart⟩ key' same a ha hak
        cases same
        exact apart key (mem_keysOf.mpr ⟨a, ha, hak⟩) key List.mem_cons_self rfl
      · intro clear
        refine ⟨old, List.nodup_singleton _, fun k hk' k' hk'' same => ?_⟩
        rw [List.mem_singleton.mp hk''] at same
        subst same
        obtain ⟨a, ha, hak⟩ := mem_keysOf.mp hk'
        exact clear k rfl a ha hak

theorem clear_submit {cfg : GateConfig} {g : Gate} (wf : g.WF) (serialized : Serialized g)
    (request : ExecutionRequest) (now : Nat) :
    Clear cfg g (.submit request now) ↔ Serialized (g.submit cfg request now).2 := by
  have discrete : request.coalesceKey = some "" → request.coalesces = false := by
    intro h; simp [ExecutionRequest.coalesces, h]
  generalize hr : g.submit cfg request now = out
  have cases : Gate.Submitted cfg g request now out.1 out.2 := hr ▸ Gate.submit_cases
  generalize out.1 = result, out.2 = g' at cases
  simp only [Clear]
  cases cases with
  | coalesced keyed e pending same =>
      exact ⟨fun _ => serialized, fun _ empty => by simp [discrete empty] at keyed⟩
  | suppressed _ duplicate =>
      exact ⟨fun _ => serialized, fun _ _ new => absurd duplicate new⟩
  | queued clear new busy room =>
      refine ⟨fun _ => serialized, fun _ empty _ free => ?_⟩
      rcases busy with full | ⟨keyed, -⟩
      · omega
      · simp [discrete empty] at keyed
  | dropped clear new busy full =>
      refine ⟨fun _ => serialized, fun _ empty _ free => ?_⟩
      rcases busy with full | ⟨keyed, -⟩
      · omega
      · simp [discrete empty] at keyed
  | admitted clear new free =>
      rw [serialized_admitRequest wf serialized]
      constructor
      · intro guard key hk a ha hak
        cases keyed : request.coalesces with
        | true => exact (clear keyed).2 a ha (hak.trans hk.symm)
        | false =>
            have empty : key = "" := by simpa [ExecutionRequest.coalesces, hk] using keyed
            subst empty
            exact guard hk (new keyed) free a ha hak
      · intro apart empty _ _
        exact apart "" empty

theorem clear_complete {cfg : GateConfig} {g : Gate} (wf : g.WF) (serialized : Serialized g)
    (handle : Handle) :
    Clear cfg g (.complete handle) ↔ Serialized (g.complete cfg handle) := by
  cases hget : g.activeSet.get handle with
  | none => simp [Clear, OrderedMap.has, Gate.complete, hget, serialized]
  | some entry =>
      have drained := Gate.drain_spec cfg (Gate.release_wf wf handle entry)
      have active : g.activeSet.has handle = true := by simp [OrderedMap.has, hget]
      have after : g.complete cfg handle = (g.release handle entry).drain cfg := by
        simp [Gate.complete, hget]
      have size : (g.activeSet.delete handle).size + 1 = g.activeSet.size :=
        OrderedMap.size_delete_of_get hget
      have slots : cfg.maxActive - (g.activeSet.delete handle).size =
          cfg.maxActive + 1 - g.activeSet.size := by omega
      have values : (g.complete cfg handle).activeSet.values =
          (g.activeSet.delete handle).values ++ (g.promoted cfg).map QueuedEntry.activate := by
        rw [after, drained.values]
        change (g.activeSet.delete handle).values ++
          (g.backlog.take (cfg.maxActive - (g.activeSet.delete handle).size)).map _ = _
        rw [slots, Gate.promoted]
      have keys : ((g.promoted cfg).map QueuedEntry.activate).filterMap ActiveEntry.coalesceKey =
          (g.promoted cfg).filterMap (·.request.coalesceKey) := by
        rw [List.filterMap_map]; rfl
      have stays : (keysOf (g.activeSet.delete handle).values).Nodup := by
        have perm := (OrderedMap.values_perm_delete hget).filterMap ActiveEntry.coalesceKey
        have old := perm.nodup_iff.mp (serialized_iff.mp serialized)
        rw [List.filterMap_cons] at old
        cases hk : entry.coalesceKey with
        | none => rw [hk] at old; exact old
        | some key => rw [hk] at old; exact (List.nodup_cons.mp old).2
      rw [serialized_iff, values, keysOf, List.filterMap_append, keys, List.nodup_append]
      simp only [Clear, active, true_implies]
      constructor
      · rintro ⟨apart, distinct⟩
        refine ⟨stays, distinct, fun k hk k' hk' same => ?_⟩
        subst same
        obtain ⟨a, ha, hak⟩ := mem_keysOf.mp hk
        obtain ⟨e, he, hek⟩ := List.mem_filterMap.mp hk'
        obtain ⟨h, hh⟩ := OrderedMap.mem_values.mp ha
        have ne : h ≠ handle := by rintro rfl; simp at hh
        rw [OrderedMap.get_delete_of_ne _ ne] at hh
        exact apart e he h a ne hh k hek hak
      · rintro ⟨-, distinct, apart⟩
        refine ⟨fun e he h a ne hh key hek hak => ?_, distinct⟩
        refine apart key (mem_keysOf.mpr ⟨a, ?_, hak⟩) key
          (List.mem_filterMap.mpr ⟨e, he, hek⟩) rfl
        rw [OrderedMap.mem_values]
        exact ⟨h, by rw [OrderedMap.get_delete_of_ne _ ne, hh]⟩

/-- **Serialization, exactly.**  Along a run from the empty gate, no two active
executions ever carry the same defined key if and only if every call meets the
guard `Clear`. -/
theorem serialized_iff_clear (cfg : GateConfig) (calls : List Call) :
    (∀ p, p <+: calls → Serialized (run (step cfg) {} p)) ↔
      Along (step cfg) (Clear cfg) {} calls := by
  refine invariant_iff_along Gate.WF Serialized (Clear cfg)
    (fun g call wf => step_wf cfg g call wf) ?_
    Gate.wf_empty serialized_empty calls
  intro g call wf serialized
  cases call with
  | submit request now => exact clear_submit wf serialized request now
  | complete handle => exact clear_complete wf serialized handle

/-- Two sources, two slots.  The second request of source `r1:d1:t` waits behind
the first, until the unrelated execution completes and hands it a slot. -/
theorem unrelated_completion_breaks_serialization :
    ¬ ∀ cfg : GateConfig, 1 ≤ cfg.maxActive → ∀ calls, Serialized (run (step cfg) {} calls) := by
  intro always
  have bad := always ⟨2, 3⟩ (by decide)
    [.submit ⟨"r1", "d1", "t", some "r1:d1:t", 0⟩ 10, .submit ⟨"r2", "d2", "u", none, 1⟩ 11,
      .submit ⟨"r1", "d1", "t", some "r1:d1:t", 2⟩ 12, .complete 1]
    0 2 ⟨"r1", "r1:d1:t", some "r1:d1:t"⟩ ⟨"r1", "r1:d1:t", some "r1:d1:t"⟩ "r1:d1:t"
    (by decide) (by decide) rfl rfl
  exact absurd bad (by decide)

/-! ## The dedup set -/

/-- The dedup keys of the entries that are active or queued. -/
def Gate.carried (g : Gate) : Finset String :=
  (g.activeSet.values.map ActiveEntry.dedupKey ++ g.queued.map QueuedEntry.dedupKey).toFinset

/-- The guard of the dedup mirror, on the state before the call: a completed
entry is the only one, active or queued, with its dedup key. -/
def Sole (g : Gate) : Call → Prop
  | .submit _ _ => True
  | .complete handle =>
      ∀ entry, g.activeSet.get handle = some entry →
        (∀ h a, h ≠ handle → g.activeSet.get h = some a → a.dedupKey ≠ entry.dedupKey) ∧
        ∀ e ∈ g.queued, e.dedupKey ≠ entry.dedupKey

theorem mem_carried {g : Gate} {key : String} :
    key ∈ g.carried ↔
      (∃ h a, g.activeSet.get h = some a ∧ a.dedupKey = key) ∨
        ∃ r, ∃ e ∈ g.queueOf r, e.dedupKey = key := by
  simp only [Gate.carried, List.mem_toFinset, List.mem_append, List.mem_map,
    OrderedMap.mem_values, Gate.mem_queued]
  constructor
  · rintro (⟨a, ⟨h, ha⟩, rfl⟩ | ⟨e, ⟨r, he⟩, rfl⟩)
    · exact .inl ⟨h, a, ha, rfl⟩
    · exact .inr ⟨r, e, he, rfl⟩
  · rintro (⟨h, a, ha, rfl⟩ | ⟨r, e, he, rfl⟩)
    · exact .inl ⟨a, ⟨h, ha⟩, rfl⟩
    · exact .inr ⟨e, ⟨r, he⟩, rfl⟩

theorem carried_admitRequest {g : Gate} (wf : g.WF) (request : ExecutionRequest) :
    (g.admitRequest request request.dedupKey).2.carried = insert request.dedupKey g.carried := by
  have values : (g.admitRequest request request.dedupKey).2.activeSet.values =
      g.activeSet.values ++ [⟨request.ruleId, request.dedupKey, request.coalesceKey⟩] :=
    OrderedMap.values_set_of_absent wf.fresh
  ext key
  simp only [Gate.carried, values, List.map_append, List.mem_toFinset, List.mem_append,
    Finset.mem_insert, List.map_cons, List.map_nil, List.mem_singleton]
  change (_ ∨ key ∈ g.queued.map _) ↔ _
  tauto

theorem carried_push (g : Gate) (request : ExecutionRequest) (now : Nat) :
    (g.push request now).carried = insert request.dedupKey g.carried := by
  ext key
  rw [Finset.mem_insert, mem_carried, mem_carried]
  constructor
  · rintro (active | ⟨r, e, he, rfl⟩)
    · exact .inr (.inl active)
    · rw [Gate.queueOf_push] at he
      split at he
      · rcases List.mem_append.mp he with he | he
        · exact .inr (.inr ⟨r, e, he, rfl⟩)
        · rw [List.mem_singleton.mp he]
          exact .inl rfl
      · exact .inr (.inr ⟨r, e, he, rfl⟩)
  · rintro (rfl | active | ⟨r, e, he, rfl⟩)
    · refine .inr ⟨request.ruleId, ⟨request, request.dedupKey, now⟩, ?_, rfl⟩
      rw [Gate.queueOf_push, if_pos rfl]
      simp
    · exact .inl active
    · refine .inr ⟨r, e, ?_, rfl⟩
      rw [Gate.queueOf_push]
      split
      · exact List.mem_append_left _ he
      · exact he

theorem map_dedupKey_replacePending (request : ExecutionRequest) (q : List QueuedEntry) :
    (Gate.replacePending request q).map QueuedEntry.dedupKey = q.map QueuedEntry.dedupKey := by
  induction q with
  | nil => rfl
  | cons e q ih =>
      by_cases same : e.request.coalesceKey = request.coalesceKey
      · simp [Gate.replacePending, same]
      · simp [Gate.replacePending, same, ih]

theorem carried_coalesce (g : Gate) (request : ExecutionRequest) :
    (g.coalesce request).carried = g.carried := by
  have queues : ∀ r, ((g.coalesce request).queueOf r).map QueuedEntry.dedupKey =
      (g.queueOf r).map QueuedEntry.dedupKey := by
    intro r
    rw [Gate.queueOf_coalesce]
    split
    · exact map_dedupKey_replacePending request _
    · rfl
  ext key
  rw [mem_carried, mem_carried]
  refine or_congr Iff.rfl (exists_congr fun r => ?_)
  rw [← List.mem_map, ← List.mem_map, queues r]

/-- A drain moves entries from the queues to the active set and drops none. -/
theorem carried_drain {cfg : GateConfig} {before after : Gate}
    (drained : Gate.Drained cfg before after) : after.carried = before.carried := by
  have order : ∀ g : Gate, (g.queued.map QueuedEntry.dedupKey).toFinset =
      (g.backlog.map QueuedEntry.dedupKey).toFinset := by
    intro g
    ext key
    simp only [List.mem_toFinset, List.mem_map, Gate.mem_backlog]
  have activates : ∀ l : List QueuedEntry, (l.map QueuedEntry.activate).map ActiveEntry.dedupKey =
      l.map QueuedEntry.dedupKey := by
    intro l
    rw [List.map_map]
    rfl
  have shape : ∀ g : Gate, g.carried = (g.activeSet.values.map ActiveEntry.dedupKey).toFinset ∪
      (g.backlog.map QueuedEntry.dedupKey).toFinset := by
    intro g
    rw [Gate.carried, List.toFinset_append, order]
  rw [shape after, shape before, drained.values, drained.backlog, List.map_append, activates,
    List.toFinset_append, Finset.union_assoc, ← List.toFinset_append, ← List.map_append,
    List.take_append_drop]

theorem sole_submit {cfg : GateConfig} {g : Gate} (wf : g.WF) (mirror : g.dedupKeys = g.carried)
    (request : ExecutionRequest) (now : Nat) :
    (g.submit cfg request now).2.dedupKeys = (g.submit cfg request now).2.carried := by
  generalize hr : g.submit cfg request now = out
  have cases : Gate.Submitted cfg g request now out.1 out.2 := hr ▸ Gate.submit_cases
  generalize out.1 = result, out.2 = g' at cases
  cases cases with
  | coalesced => rw [carried_coalesce, ← mirror]; rfl
  | suppressed => exact mirror
  | admitted => rw [carried_admitRequest wf, ← mirror]; rfl
  | queued => rw [carried_push, ← mirror]; rfl
  | dropped => exact mirror

theorem sole_complete {cfg : GateConfig} {g : Gate} (wf : g.WF) (mirror : g.dedupKeys = g.carried)
    (handle : Handle) :
    Sole g (.complete handle) ↔
      (g.complete cfg handle).dedupKeys = (g.complete cfg handle).carried := by
  cases hget : g.activeSet.get handle with
  | none => simp [Sole, Gate.complete, hget, mirror]
  | some entry =>
      have drained := Gate.drain_spec cfg (Gate.release_wf wf handle entry)
      have after : g.complete cfg handle = (g.release handle entry).drain cfg := by
        simp [Gate.complete, hget]
      have split : g.carried = insert entry.dedupKey (g.release handle entry).carried := by
        have perm := (OrderedMap.values_perm_delete hget).map ActiveEntry.dedupKey
        ext key
        simp only [Gate.carried, List.mem_toFinset, List.mem_append, Finset.mem_insert,
          perm.mem_iff, List.map_cons, List.mem_cons]
        change _ ↔ _ ∨ _ ∨ key ∈ g.queued.map _
        tauto
      have sole : Sole g (.complete handle) ↔
          entry.dedupKey ∉ (g.release handle entry).carried := by
        simp only [Sole, hget, Option.some.injEq, forall_eq', mem_carried, not_or, not_exists,
          not_and]
        refine and_congr ⟨fun others h a ha => ?_, fun others h a ne ha => ?_⟩
          ⟨fun none r e he => none e (Gate.mem_queued.mpr ⟨r, he⟩), fun none e he => ?_⟩
        · change (g.activeSet.delete handle).get h = some a at ha
          have ne : h ≠ handle := by rintro rfl; simp at ha
          rw [OrderedMap.get_delete_of_ne _ ne] at ha
          exact others h a ne ha
        · refine others h a ?_
          change (g.activeSet.delete handle).get h = some a
          rw [OrderedMap.get_delete_of_ne _ ne, ha]
        · obtain ⟨r, hr⟩ := Gate.mem_queued.mp he
          exact none r e hr
      rw [sole, after, drained.dedupKeys, carried_drain drained]
      change _ ↔ g.dedupKeys.erase entry.dedupKey = _
      rw [mirror, split]
      constructor
      · intro notIn
        exact Finset.erase_insert notIn
      · intro same inside
        rw [← same] at inside
        exact Finset.notMem_erase _ _ inside

/-- A discrete request is suppressed exactly when its key is in the set. -/
theorem suppressed_iff {cfg : GateConfig} {g : Gate} {request : ExecutionRequest} {now : Nat}
    (discrete : request.coalesces = false) :
    (g.submit cfg request now).1 = .suppressed ↔ request.dedupKey ∈ g.dedupKeys := by
  generalize hr : g.submit cfg request now = out
  have cases : Gate.Submitted cfg g request now out.1 out.2 := hr ▸ Gate.submit_cases
  generalize out.1 = result, out.2 = g' at cases
  cases cases with
  | coalesced keyed => simp [discrete] at keyed
  | suppressed _ duplicate => simp [duplicate]
  | admitted _ new => simp [new discrete]
  | queued _ new => simp [new discrete]
  | dropped _ new => simp [new discrete]

/-- **The dedup mirror, exactly.**  Along a run from the empty gate, `dedupKeys`
is at every point the set of dedup keys of the active and queued entries, and a
discrete request is then suppressed exactly when an entry with its key is active
or queued, if and only if every completed entry was alone with its key. -/
theorem dedup_exact_iff_sole (cfg : GateConfig) (calls : List Call) :
    (∀ p, p <+: calls →
      (run (step cfg) {} p).dedupKeys = (run (step cfg) {} p).carried ∧
      ∀ request now, request.coalesces = false →
        (((run (step cfg) {} p).submit cfg request now).1 = .suppressed ↔
          request.dedupKey ∈ (run (step cfg) {} p).carried)) ↔
      Along (step cfg) Sole {} calls := by
  have mirror := invariant_iff_along Gate.WF (fun g => g.dedupKeys = g.carried) Sole
    (fun g call wf => step_wf cfg g call wf) ?_ Gate.wf_empty rfl calls
  · rw [← mirror]
    refine ⟨fun both p hp => (both p hp).1, fun exact_ p hp => ⟨exact_ p hp, ?_⟩⟩
    intro request now discrete
    rw [suppressed_iff discrete, exact_ p hp]
  · intro g call wf same
    cases call with
    | submit request now => exact ⟨fun _ => sole_submit wf same request now, fun _ => trivial⟩
    | complete handle => exact sole_complete wf same handle

/-- One source, one slot.  The second state request waits with the dedup key of
the first; completing the first forgets the key while the second runs with it. -/
theorem completion_forgets_shared_key :
    ¬ ∀ (cfg : GateConfig) (calls : List Call),
      (run (step cfg) {} calls).dedupKeys = (run (step cfg) {} calls).carried := by
  intro always
  have bad := always ⟨1, 3⟩
    [.submit ⟨"r1", "d1", "t", some "r1:d1:t", 0⟩ 10,
      .submit ⟨"r1", "d1", "t", some "r1:d1:t", 1⟩ 11, .complete 0]
  exact absurd bad (by decide)

end Aeolus.Automations.ExecutionGate
