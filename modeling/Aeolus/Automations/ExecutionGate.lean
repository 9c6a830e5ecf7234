/-
# Aeolus.Automations.ExecutionGate — the concurrency gate, as the code computes it

`src/automations/execution-gate.ts`.  The gate sits between rule matching and
execution: a global cap on active executions, one bounded FIFO queue per rule,
suppression of duplicate discrete requests, and keep-latest coalescing of state
requests that carry a `coalesceKey`.

The three private collections of the class are the three fields of `Gate`:
`activeSet` and `queues` are insertion-ordered maps, `dedupKeys` is a set of
strings.  Two more fields record what the environment supplies and sees: `uuids`
counts the handles `randomUUID` has returned (it never repeats one), and `started`
lists the thunks called so far, each named by the request that carries it.
`Date.now()` is an argument of `submit`.

`drain` is a `while` loop; every iteration removes one queued entry, so the
number of queued entries is enough fuel (`drainLoop_fuel`).  Its closed form is
`drain_spec`: the free slots go to the head of `backlog`, the queued entries in
the order repeated calls of `findOldestQueued` take them.
-/
import Mathlib.Data.Finset.Insert
import Mathlib.Data.Finset.Erase
import Aeolus.Theory.OrderedMap
import Aeolus.Theory.Oldest

namespace Aeolus.Automations.ExecutionGate

open Aeolus.Theory

/-! ## Data -/

structure GateConfig where
  maxActive : Nat := 10
  maxQueuePerRule : Nat := 3

abbrev Handle := Nat

/-- A request.  `execute` names the thunk; the gate only ever starts it. -/
structure ExecutionRequest where
  ruleId : String
  deviceId : String
  topic : String
  coalesceKey : Option String := none
  execute : Nat
deriving DecidableEq, Repr

/-- The synchronous decision of `submit`.  A drop is always for a full queue and
a suppression always for a duplicate, so neither constructor carries a reason. -/
inductive AdmitResult where
  | admitted (handle : Handle)
  | queued
  | coalesced
  | dropped
  | suppressed
deriving DecidableEq, Repr

structure ActiveEntry where
  ruleId : String
  dedupKey : String
  coalesceKey : Option String
deriving DecidableEq, Repr

structure QueuedEntry where
  request : ExecutionRequest
  dedupKey : String
  enqueuedAt : Nat
deriving DecidableEq, Repr

structure Gate where
  activeSet : OrderedMap Handle ActiveEntry := .empty
  queues : OrderedMap String (List QueuedEntry) := .empty
  dedupKeys : Finset String := ∅
  uuids : Nat := 0
  started : List Nat := []
deriving DecidableEq

def ExecutionRequest.dedupKey (r : ExecutionRequest) : String :=
  r.ruleId ++ ":" ++ r.deviceId ++ ":" ++ r.topic

/-- `if (request.coalesceKey)`: an absent key and the empty string are both
falsy, and make the request a discrete one. -/
def ExecutionRequest.coalesces (r : ExecutionRequest) : Bool :=
  match r.coalesceKey with
  | none => false
  | some key => key ≠ ""

/-- What a queued entry becomes when it is made active. -/
def QueuedEntry.activate (e : QueuedEntry) : ActiveEntry :=
  ⟨e.request.ruleId, e.dedupKey, e.request.coalesceKey⟩

namespace Gate

def queueOf (g : Gate) (ruleId : String) : List QueuedEntry := (g.queues.get ruleId).getD []

/-- Every queued entry, in the order `findOldestQueued` visits them. -/
def queued (g : Gate) : List QueuedEntry := g.queues.values.flatten

/-! ## The operations -/

/-- `pending.request = request` on the first entry with the same key: the entry
keeps its place, its dedup key and its age. -/
def replacePending (request : ExecutionRequest) : List QueuedEntry → List QueuedEntry
  | [] => []
  | e :: rest =>
      if e.request.coalesceKey = request.coalesceKey then { e with request := request } :: rest
      else e :: replacePending request rest

/-- The private `admit`: a fresh handle, an active entry, and the thunk starts. -/
def admitRequest (g : Gate) (request : ExecutionRequest) (dedupKey : String) : AdmitResult × Gate :=
  (.admitted g.uuids,
    { g with
      activeSet := g.activeSet.set g.uuids ⟨request.ruleId, dedupKey, request.coalesceKey⟩
      dedupKeys := insert dedupKey g.dedupKeys
      uuids := g.uuids + 1
      started := g.started ++ [request.execute] })

/-- The tail both queueing branches share: refuse at the rule's limit, else
append to the rule's queue. -/
def enqueue (cfg : GateConfig) (g : Gate) (request : ExecutionRequest) (now : Nat) :
    AdmitResult × Gate :=
  if cfg.maxQueuePerRule ≤ (g.queueOf request.ruleId).length then (.dropped, g)
  else
    (.queued,
      { g with
        dedupKeys := insert request.dedupKey g.dedupKeys
        queues := g.queues.set request.ruleId
          (g.queueOf request.ruleId ++ [⟨request, request.dedupKey, now⟩]) })

/-- The capacity check at the end of `submit`. -/
def place (cfg : GateConfig) (g : Gate) (request : ExecutionRequest) (now : Nat) :
    AdmitResult × Gate :=
  if g.activeSet.size < cfg.maxActive then g.admitRequest request request.dedupKey
  else g.enqueue cfg request now

def submit (cfg : GateConfig) (g : Gate) (request : ExecutionRequest) (now : Nat) :
    AdmitResult × Gate :=
  if request.coalesces then
    if (g.queueOf request.ruleId).any (fun e => e.request.coalesceKey = request.coalesceKey) then
      (.coalesced,
        { g with
          queues := g.queues.set request.ruleId
            (replacePending request (g.queueOf request.ruleId)) })
    else if g.activeSet.values.any (fun e => e.coalesceKey = request.coalesceKey) then
      g.enqueue cfg request now
    else g.place cfg request now
  else if request.dedupKey ∈ g.dedupKeys then (.suppressed, g)
  else g.place cfg request now

/-- A queued entry with the queue and index it sits at. -/
structure Position where
  entry : QueuedEntry
  ruleId : String
  index : Nat
deriving DecidableEq

/-- The positions of one queue, from the front. -/
def positionsOf (ruleId : String) (queue : List QueuedEntry) : List Position :=
  queue.zipIdx.map fun (entry, index) => ⟨entry, ruleId, index⟩

def positions (g : Gate) : List Position :=
  g.queues.entries.flatMap fun (ruleId, queue) => positionsOf ruleId queue

/-- The two nested loops keep the first position of least `enqueuedAt`. -/
def findOldestQueued (g : Gate) : Option Position :=
  oldest (fun p => p.entry.enqueuedAt) g.positions

/-- One iteration of `drain`: splice the entry out, forget an emptied queue, make
the entry active and start its thunk.  The dedup set is not touched. -/
def promote (g : Gate) (at_ : Position) : Gate :=
  let queue := (g.queueOf at_.ruleId).eraseIdx at_.index
  { g with
    queues := if queue.isEmpty then g.queues.delete at_.ruleId else g.queues.set at_.ruleId queue
    activeSet := g.activeSet.set g.uuids at_.entry.activate
    uuids := g.uuids + 1
    started := g.started ++ [at_.entry.request.execute] }

def drainLoop (cfg : GateConfig) : Nat → Gate → Gate
  | 0, g => g
  | fuel + 1, g =>
      if g.activeSet.size < cfg.maxActive then
        match g.findOldestQueued with
        | none => g
        | some at_ => drainLoop cfg fuel (g.promote at_)
      else g

def drain (cfg : GateConfig) (g : Gate) : Gate := drainLoop cfg g.queued.length g

/-- The part of `complete` before the drain. -/
def release (g : Gate) (handle : Handle) (entry : ActiveEntry) : Gate :=
  { g with
    activeSet := g.activeSet.delete handle
    dedupKeys := g.dedupKeys.erase entry.dedupKey }

def complete (cfg : GateConfig) (g : Gate) (handle : Handle) : Gate :=
  match g.activeSet.get handle with
  | none => g
  | some entry => (g.release handle entry).drain cfg

end Gate

/-- The calls a gate can receive. -/
inductive Call where
  | submit (request : ExecutionRequest) (now : Nat)
  | complete (handle : Handle)
deriving DecidableEq, Repr

def step (cfg : GateConfig) (g : Gate) : Call → Gate
  | .submit request now => (g.submit cfg request now).2
  | .complete handle => g.complete cfg handle

/-! ## Well-formed gates -/

namespace Gate

/-- Handles are below the counter, no queue in the map is empty, and an entry
sits in its own rule's queue. -/
structure WF (g : Gate) : Prop where
  handles : ∀ h a, g.activeSet.get h = some a → h < g.uuids
  nonempty : ∀ r q, g.queues.get r = some q → q ≠ []
  ruleIds : ∀ r q, g.queues.get r = some q → ∀ e ∈ q, e.request.ruleId = r

theorem wf_empty : ({} : Gate).WF where
  handles _ _ h := by cases h
  nonempty _ _ h := by cases h
  ruleIds _ _ h := by cases h

theorem mem_queued {g : Gate} {e : QueuedEntry} :
    e ∈ g.queued ↔ ∃ r, e ∈ g.queueOf r := by
  simp only [queued, List.mem_flatten, OrderedMap.mem_values, queueOf]
  constructor
  · rintro ⟨q, ⟨r, hr⟩, he⟩
    exact ⟨r, by simpa [hr] using he⟩
  · rintro ⟨r, he⟩
    cases hq : g.queues.get r with
    | none => simp [hq] at he
    | some q => exact ⟨q, ⟨r, hq⟩, by simpa [hq] using he⟩

theorem WF.ruleId_of_mem {g : Gate} (wf : g.WF) {r : String} {e : QueuedEntry}
    (he : e ∈ g.queueOf r) : e.request.ruleId = r := by
  cases hq : g.queues.get r with
  | none => simp [queueOf, hq] at he
  | some q => exact wf.ruleIds r q hq e (by simpa [queueOf, hq] using he)

theorem WF.fresh {g : Gate} (wf : g.WF) : g.activeSet.get g.uuids = none := by
  cases hg : g.activeSet.get g.uuids with
  | none => rfl
  | some a => exact absurd (wf.handles _ a hg) (lt_irrefl _)

/-- The queue of a rule is what its entries are among all queued ones. -/
theorem WF.filter_queued {g : Gate} (wf : g.WF) (r : String) :
    g.queued.filter (fun e => e.request.ruleId = r) = g.queueOf r := by
  have whole : ∀ (l : List (String × List QueuedEntry)),
      (∀ x ∈ l, ∀ e ∈ x.2, e.request.ruleId = x.1) → (l.map Prod.fst).Nodup →
      (l.map Prod.snd).flatten.filter (fun e => e.request.ruleId = r) =
        ((l.find? fun x => x.1 = r).map Prod.snd).getD [] := by
    intro l
    induction l with
    | nil => intros; rfl
    | cons x l ih =>
        intro owns nodup
        rw [List.map_cons, List.nodup_cons] at nodup
        have rest := ih (fun y hy => owns y (List.mem_cons_of_mem _ hy)) nodup.2
        have own := owns x List.mem_cons_self
        rw [List.map_cons, List.flatten_cons, List.filter_append]
        by_cases hx : x.1 = r
        · have all : x.2.filter (fun e => e.request.ruleId = r) = x.2 :=
            List.filter_eq_self.mpr fun e he => by simp [own e he, hx]
          have none : (l.find? fun y => y.1 = r) = none := by
            rw [List.find?_eq_none]
            intro y hy hyr
            have hyr : y.1 = r := by simpa using hyr
            exact nodup.1 (List.mem_map.mpr ⟨y, hy, hyr.trans hx.symm⟩)
          rw [all, rest, none]
          simp [hx]
        · have nil : x.2.filter (fun e => e.request.ruleId = r) = [] :=
            List.filter_eq_nil_iff.mpr fun e he => by simp [own e he, hx]
          rw [nil, rest]
          simp [hx]
  exact whole g.queues.entries (fun x hx => wf.ruleIds x.1 x.2 (OrderedMap.mem_entries.mp hx))
    g.queues.nodup

/-! ## What one iteration of `drain` does -/

theorem map_entry_positionsOf (ruleId : String) (queue : List QueuedEntry) :
    (positionsOf ruleId queue).map Position.entry = queue := by
  simp only [positionsOf, List.map_map]
  exact List.zipIdx_map_fst 0 queue

theorem map_entry_positions (g : Gate) : g.positions.map Position.entry = g.queued := by
  simp only [positions, queued, OrderedMap.values, List.map_flatMap, map_entry_positionsOf]
  rw [List.flatMap_def]

theorem findOldestQueued_eq_none {g : Gate} : g.findOldestQueued = none ↔ g.queued = [] := by
  rw [findOldestQueued, oldest_eq_none, ← map_entry_positions, List.map_eq_nil_iff]

theorem mem_positionsOf {ruleId : String} {queue : List QueuedEntry} {at_ : Position} :
    at_ ∈ positionsOf ruleId queue ↔
      at_.ruleId = ruleId ∧ queue[at_.index]? = some at_.entry := by
  simp only [positionsOf, List.mem_map, List.mem_zipIdx_iff_getElem?]
  constructor
  · rintro ⟨⟨entry, index⟩, found, rfl⟩
    exact ⟨rfl, found⟩
  · rintro ⟨rfl, found⟩
    exact ⟨(at_.entry, at_.index), found, rfl⟩

/-- A queue cut at an index cuts its positions there, and no other position of
the queue is at that index. -/
theorem positionsOf_split (ruleId : String) (front back : List QueuedEntry) (e : QueuedEntry) :
    ∃ p s, positionsOf ruleId (front ++ e :: back) = p ++ ⟨e, ruleId, front.length⟩ :: s ∧
      p.map Position.entry = front ∧ s.map Position.entry = back ∧
      (∀ a ∈ p, a.index ≠ front.length) ∧ ∀ a ∈ s, a.index ≠ front.length := by
  refine ⟨positionsOf ruleId front,
    (back.zipIdx (front.length + 1)).map fun (entry, index) => ⟨entry, ruleId, index⟩,
    ?_, map_entry_positionsOf _ _, ?_, ?_, ?_⟩
  · simp [positionsOf, List.zipIdx_append, List.zipIdx_cons]
  · rw [List.map_map]
    exact List.zipIdx_map_fst _ back
  · intro a ha
    have bound := (List.getElem?_eq_some_iff.mp (mem_positionsOf.mp ha).2).1
    omega
  · intro a ha
    obtain ⟨x, hx, rfl⟩ := List.mem_map.mp ha
    have := List.le_snd_of_mem_zipIdx hx
    simp only
    omega

/-- Where `findOldestQueued` stops: at one entry of one queue, first in age among
all queued entries. -/
theorem findOldestQueued_split {g : Gate} {at_ : Position}
    (found : g.findOldestQueued = some at_) :
    ∃ l r front back, g.queues.entries = l ++ (at_.ruleId, front ++ at_.entry :: back) :: r ∧
      at_.index = front.length ∧
      FirstAt QueuedEntry.enqueuedAt ((l.map Prod.snd).flatten ++ front) at_.entry
        (back ++ (r.map Prod.snd).flatten) := by
  obtain ⟨p, s, hsplit, first⟩ := oldest_split found
  have member : at_ ∈ g.positions := by simp [hsplit]
  obtain ⟨⟨ruleId, queue⟩, inMap, inQueue⟩ := List.mem_flatMap.mp member
  obtain ⟨rfl, here⟩ := mem_positionsOf.mp inQueue
  obtain ⟨l, r, hl⟩ := List.append_of_mem inMap
  obtain ⟨hlt, hget⟩ := List.getElem?_eq_some_iff.mp here
  have hqueue : queue = queue.take at_.index ++ at_.entry :: queue.drop (at_.index + 1) := by
    rw [← hget, List.getElem_cons_drop, List.take_append_drop]
  have hlen : (queue.take at_.index).length = at_.index := by
    rw [List.length_take]; omega
  obtain ⟨p', s', hpos, hp', hs', np, ns⟩ :=
    positionsOf_split at_.ruleId (queue.take at_.index) (queue.drop (at_.index + 1)) at_.entry
  rw [← hqueue, hlen] at hpos
  rw [hlen] at np ns
  -- the scan's split of all positions is the one the map gives: a position names
  -- its queue and index, and both are unique
  have nodup := g.queues.nodup
  rw [hl, List.map_append, List.map_cons, List.nodup_append, List.nodup_cons] at nodup
  let pos := fun x : String × List QueuedEntry => positionsOf x.1 x.2
  have outside : ∀ m : List (String × List QueuedEntry), (∀ x ∈ m, x.1 ≠ at_.ruleId) →
      at_ ∉ m.flatMap pos := by
    intro m other inside
    obtain ⟨x, hx, hin⟩ := List.mem_flatMap.mp inside
    exact other x hx (mem_positionsOf.mp hin).1.symm
  have whole : g.positions = (l.flatMap pos ++ p') ++ at_ :: (s' ++ r.flatMap pos) := by
    rw [positions, hl, List.flatMap_append, List.flatMap_cons]
    change l.flatMap pos ++ (positionsOf at_.ruleId queue ++ r.flatMap pos) = _
    rw [hpos]
    simp
  have notBefore : at_ ∉ l.flatMap pos ++ p' := by
    rw [List.mem_append, not_or]
    refine ⟨outside l fun x hx hxr => ?_, fun h => np at_ h rfl⟩
    exact nodup.2.2 x.1 (List.mem_map.mpr ⟨x, hx, rfl⟩) at_.ruleId List.mem_cons_self hxr
  have notAfter : at_ ∉ s' ++ r.flatMap pos := by
    rw [List.mem_append, not_or]
    refine ⟨fun h => ns at_ h rfl, outside r fun x hx hxr => ?_⟩
    exact nodup.2.1.1 (List.mem_map.mpr ⟨x, hx, hxr⟩)
  obtain ⟨rfl, -, rfl⟩ := (List.append_cons_inj_of_notMem notBefore notAfter).mp
    (whole.symm.trans hsplit)
  have entriesOf : ∀ m : List (String × List QueuedEntry),
      (m.flatMap pos).map Position.entry = (m.map Prod.snd).flatten := by
    intro m
    rw [List.map_flatMap, ← List.flatMap_def]
    exact List.flatMap_congr fun x _ => map_entry_positionsOf x.1 x.2
  refine ⟨l, r, queue.take at_.index, queue.drop (at_.index + 1), ?_, hlen.symm, ?_, ?_⟩
  · rw [hl, ← hqueue]
  · rw [← hp', ← entriesOf, ← List.map_append]
    intro e he
    obtain ⟨a, ha, rfl⟩ := List.mem_map.mp he
    exact first.1 a ha
  · rw [← hs', ← entriesOf, ← List.map_append]
    intro e he
    obtain ⟨a, ha, rfl⟩ := List.mem_map.mp he
    exact first.2 a ha

/-- The queued entries in the order `drain` will take them. -/
def backlog (g : Gate) : List QueuedEntry := byAge QueuedEntry.enqueuedAt g.queued

theorem length_backlog (g : Gate) : g.backlog.length = g.queued.length :=
  (byAge_perm g.queued).length_eq

theorem mem_backlog {g : Gate} {e : QueuedEntry} : e ∈ g.backlog ↔ e ∈ g.queued :=
  (byAge_perm g.queued).mem_iff

theorem queueOf_of_split {g : Gate} {r : String} {q : List QueuedEntry}
    {l rest : List (String × List QueuedEntry)} (split : g.queues.entries = l ++ (r, q) :: rest) :
    g.queues.get r = some q := by
  rw [← OrderedMap.mem_entries, split]
  simp

/-- `promote` at the position the scan found: one entry leaves its queue, and
every queue of another rule is untouched. -/
theorem promote_queues {g : Gate} {at_ : Position} (found : g.findOldestQueued = some at_) :
    g.backlog = at_.entry :: (g.promote at_).backlog ∧
      (g.promote at_).queueOf at_.ruleId = (g.queueOf at_.ruleId).eraseIdx at_.index ∧
      (∀ r, r ≠ at_.ruleId → (g.promote at_).queues.get r = g.queues.get r) ∧
      (∀ q, (g.promote at_).queues.get at_.ruleId = some q →
        q ≠ [] ∧ q = (g.queueOf at_.ruleId).eraseIdx at_.index) := by
  obtain ⟨l, r, front, back, split, index, first⟩ := findOldestQueued_split found
  have here : g.queues.get at_.ruleId = some (front ++ at_.entry :: back) := queueOf_of_split split
  have nodup := g.queues.nodup
  rw [split, List.map_append, List.map_cons, List.nodup_append, List.nodup_cons] at nodup
  have before : ∀ x ∈ l, x.1 ≠ at_.ruleId := fun x hx hxr =>
    nodup.2.2 x.1 (List.mem_map.mpr ⟨x, hx, rfl⟩) at_.ruleId List.mem_cons_self hxr
  have after : ∀ x ∈ r, x.1 ≠ at_.ruleId := fun x hx hxr =>
    nodup.2.1.1 (List.mem_map.mpr ⟨x, hx, hxr⟩)
  have erased : (g.queueOf at_.ruleId).eraseIdx at_.index = front ++ back := by
    simp [queueOf, here, index, List.eraseIdx_append_of_length_le]
  have all : g.queued =
      ((l.map Prod.snd).flatten ++ front) ++ at_.entry :: (back ++ (r.map Prod.snd).flatten) := by
    simp [queued, OrderedMap.values, split]
  have order : g.backlog = at_.entry ::
      byAge QueuedEntry.enqueuedAt
        (((l.map Prod.snd).flatten ++ front) ++ (back ++ (r.map Prod.snd).flatten)) := by
    rw [backlog, all, byAge_of_split first]
  have reads : (g.promote at_).queues =
      if (front ++ back).isEmpty then g.queues.delete at_.ruleId
      else g.queues.set at_.ruleId (front ++ back) := by
    simp only [promote, erased]
  rw [erased]
  cases hnil : (front ++ back).isEmpty with
  | true =>
      have nil : front ++ back = [] := List.isEmpty_iff.mp hnil
      rw [hnil, if_pos rfl] at reads
      refine ⟨?_, ?_, fun r' ne => ?_, fun q hq => ?_⟩
      · rw [order, backlog, queued, OrderedMap.values, reads,
          OrderedMap.entries_delete_of_split split before after]
        obtain ⟨rfl, rfl⟩ := List.append_eq_nil_iff.mp nil
        simp
      · rw [queueOf, reads, OrderedMap.get_delete_self, nil]
        rfl
      · rw [reads, OrderedMap.get_delete_of_ne _ ne]
      · rw [reads, OrderedMap.get_delete_self] at hq
        cases hq
  | false =>
      rw [hnil, if_neg (by simp)] at reads
      have ne : front ++ back ≠ [] := fun h => by simp [h] at hnil
      refine ⟨?_, ?_, fun r' ne => ?_, fun q hq => ?_⟩
      · rw [order, backlog, queued, OrderedMap.values, reads,
          OrderedMap.entries_set_of_split split before]
        simp
      · rw [queueOf, reads, OrderedMap.get_set_self]
        rfl
      · rw [reads, OrderedMap.get_set_of_ne _ _ ne]
      · rw [reads, OrderedMap.get_set_self] at hq
        cases hq
        exact ⟨ne, rfl⟩

theorem promote_wf {g : Gate} (wf : g.WF) {at_ : Position}
    (found : g.findOldestQueued = some at_) : (g.promote at_).WF := by
  obtain ⟨-, -, others, own⟩ := promote_queues found
  refine ⟨fun h a hget => ?_, fun r q hget => ?_, fun r q hget e he => ?_⟩
  · change (g.activeSet.set g.uuids _).get h = _ at hget
    rw [OrderedMap.get_set] at hget
    change h < g.uuids + 1
    split at hget
    · rename_i same
      rw [same]
      exact Nat.lt_succ_self _
    · exact (wf.handles h a hget).trans (Nat.lt_succ_self _)
  · by_cases hr : r = at_.ruleId
    · subst hr
      exact (own q hget).1
    · rw [others r hr] at hget
      exact wf.nonempty r q hget
  · by_cases hr : r = at_.ruleId
    · subst hr
      rw [(own q hget).2] at he
      exact wf.ruleId_of_mem (List.mem_of_mem_eraseIdx he)
    · rw [others r hr] at hget
      exact wf.ruleIds r q hget e he

theorem promote_sublist {g : Gate} {at_ : Position} (found : g.findOldestQueued = some at_)
    (r : String) : ((g.promote at_).queueOf r).Sublist (g.queueOf r) := by
  obtain ⟨-, own, others, -⟩ := promote_queues found
  by_cases hr : r = at_.ruleId
  · subst hr
    rw [own]
    exact List.eraseIdx_sublist _ _
  · rw [queueOf, others r hr]
    rfl

/-! ## The closed form of `drain` -/

/-- `after` is `before` with its free slots given to the head of its backlog. -/
structure Drained (cfg : GateConfig) (before after : Gate) : Prop where
  values : after.activeSet.values = before.activeSet.values ++
    (before.backlog.take (cfg.maxActive - before.activeSet.size)).map QueuedEntry.activate
  backlog : after.backlog = before.backlog.drop (cfg.maxActive - before.activeSet.size)
  started : after.started = before.started ++
    (before.backlog.take (cfg.maxActive - before.activeSet.size)).map (·.request.execute)
  dedupKeys : after.dedupKeys = before.dedupKeys
  older : ∀ h, h < before.uuids → after.activeSet.get h = before.activeSet.get h
  sublist : ∀ r, (after.queueOf r).Sublist (before.queueOf r)
  wf : after.WF

theorem Drained.stop {cfg : GateConfig} {g : Gate} (wf : g.WF)
    (idle : cfg.maxActive ≤ g.activeSet.size ∨ g.backlog = []) : Drained cfg g g := by
  have taken : g.backlog.take (cfg.maxActive - g.activeSet.size) = [] := by
    rcases idle with full | none
    · rw [Nat.sub_eq_zero_of_le full, List.take_zero]
    · rw [none, List.take_nil]
  have kept : g.backlog.drop (cfg.maxActive - g.activeSet.size) = g.backlog := by
    rcases idle with full | none
    · rw [Nat.sub_eq_zero_of_le full, List.drop_zero]
    · rw [none, List.drop_nil]
  refine ⟨?_, kept.symm, ?_, rfl, fun _ _ => rfl, fun _ => List.Sublist.refl _, wf⟩
  · rw [taken, List.map_nil, List.append_nil]
  · rw [taken, List.map_nil, List.append_nil]

/-- One promotion followed by a drain is a drain. -/
theorem Drained.promote {cfg : GateConfig} {g after : Gate} (wf : g.WF) {at_ : Position}
    (free : g.activeSet.size < cfg.maxActive) (found : g.findOldestQueued = some at_)
    (rest : Drained cfg (g.promote at_) after) : Drained cfg g after := by
  obtain ⟨order, -, -, -⟩ := promote_queues found
  have size : (g.promote at_).activeSet.size = g.activeSet.size + 1 :=
    OrderedMap.size_set_of_absent wf.fresh
  have slots : cfg.maxActive - g.activeSet.size =
      (cfg.maxActive - (g.promote at_).activeSet.size) + 1 := by
    omega
  have actives : (g.promote at_).activeSet.values = g.activeSet.values ++ [at_.entry.activate] :=
    OrderedMap.values_set_of_absent wf.fresh
  refine ⟨?_, ?_, ?_, rest.dedupKeys, fun h hlt => ?_, fun r => ?_, rest.wf⟩
  · rw [rest.values, actives, order, slots, List.take_succ_cons, List.map_cons,
      List.append_assoc, List.singleton_append]
  · rw [rest.backlog, order, slots, List.drop_succ_cons]
  · rw [rest.started, order, slots, List.take_succ_cons, List.map_cons]
    change (g.started ++ [_]) ++ _ = _
    rw [List.append_assoc, List.singleton_append]
  · rw [rest.older h (hlt.trans (Nat.lt_succ_self _))]
    exact OrderedMap.get_set_of_ne _ _ (Nat.ne_of_lt hlt)
  · exact (rest.sublist r).trans (promote_sublist found r)

/-- Fuel for every queued entry runs the loop to its end. -/
theorem drainLoop_fuel (cfg : GateConfig) {fuel : Nat} {g : Gate} (wf : g.WF)
    (enough : g.queued.length ≤ fuel) : Drained cfg g (drainLoop cfg fuel g) := by
  induction fuel generalizing g with
  | zero =>
      have nil : g.queued = [] := List.length_eq_zero_iff.mp (Nat.le_zero.mp enough)
      exact .stop wf (.inr (by rw [backlog, nil]; rfl))
  | succ fuel ih =>
      rw [drainLoop]
      split
      · rename_i free
        cases found : g.findOldestQueued with
        | none =>
            have nil : g.queued = [] := findOldestQueued_eq_none.mp found
            exact .stop wf (.inr (by rw [backlog, nil]; rfl))
        | some at_ =>
            obtain ⟨order, -, -, -⟩ := promote_queues found
            have shorter : (g.promote at_).queued.length ≤ fuel := by
              have := congrArg List.length order
              rw [List.length_cons, length_backlog, length_backlog] at this
              omega
            exact .promote wf free found (ih (promote_wf wf found) shorter)
      · rename_i full
        exact .stop wf (.inl (not_lt.mp full))

/-- **The specification of `drain`.** -/
theorem drain_spec (cfg : GateConfig) {g : Gate} (wf : g.WF) : Drained cfg g (g.drain cfg) :=
  drainLoop_fuel cfg wf le_rfl

theorem Drained.size {cfg : GateConfig} {before after : Gate} (d : Drained cfg before after) :
    after.activeSet.size = before.activeSet.size +
      min (cfg.maxActive - before.activeSet.size) before.backlog.length := by
  rw [← OrderedMap.length_values, d.values, List.length_append, List.length_map,
    List.length_take, OrderedMap.length_values]

/-! ## Well-formedness along a run -/

theorem release_wf {g : Gate} (wf : g.WF) (handle : Handle) (entry : ActiveEntry) :
    (g.release handle entry).WF := by
  refine ⟨fun h a hget => ?_, wf.nonempty, wf.ruleIds⟩
  change (g.activeSet.delete handle).get h = _ at hget
  rw [OrderedMap.get_delete] at hget
  split at hget
  · cases hget
  · exact wf.handles h a hget

/-- Replacing one rule's queue by a nonempty queue of that rule's entries. -/
theorem setQueue_wf {g : Gate} (wf : g.WF) {r : String} {q : List QueuedEntry} (ne : q ≠ [])
    (own : ∀ e ∈ q, e.request.ruleId = r) (keys : Finset String) :
    ({ g with queues := g.queues.set r q, dedupKeys := keys } : Gate).WF := by
  refine ⟨wf.handles, fun r' q' hget => ?_, fun r' q' hget e he => ?_⟩
  · change (g.queues.set r q).get r' = _ at hget
    rw [OrderedMap.get_set] at hget
    split at hget
    · cases hget
      exact ne
    · exact wf.nonempty r' q' hget
  · change (g.queues.set r q).get r' = _ at hget
    rw [OrderedMap.get_set] at hget
    split at hget
    · rename_i same
      cases hget
      rw [same]
      exact own e he
    · exact wf.ruleIds r' q' hget e he

theorem admitRequest_wf {g : Gate} (wf : g.WF) (request : ExecutionRequest) (key : String) :
    (g.admitRequest request key).2.WF := by
  refine ⟨fun h a hget => ?_, wf.nonempty, wf.ruleIds⟩
  change (g.activeSet.set g.uuids _).get h = _ at hget
  rw [OrderedMap.get_set] at hget
  change h < g.uuids + 1
  split at hget
  · rename_i same
    rw [same]
    exact Nat.lt_succ_self _
  · exact (wf.handles h a hget).trans (Nat.lt_succ_self _)

/-! ## What one `submit` can do -/

/-- The gate after `enqueue` accepted the request. -/
def push (g : Gate) (request : ExecutionRequest) (now : Nat) : Gate :=
  { g with
    dedupKeys := insert request.dedupKey g.dedupKeys
    queues := g.queues.set request.ruleId
      (g.queueOf request.ruleId ++ [⟨request, request.dedupKey, now⟩]) }

/-- The gate after a pending request was replaced by a newer one. -/
def coalesce (g : Gate) (request : ExecutionRequest) : Gate :=
  { g with
    queues := g.queues.set request.ruleId
      (replacePending request (g.queueOf request.ruleId)) }

/-- Why a request was not admitted: every slot is taken, or an active execution
carries its coalescing key. -/
def Busy (cfg : GateConfig) (g : Gate) (request : ExecutionRequest) : Prop :=
  cfg.maxActive ≤ g.activeSet.size ∨
    request.coalesces = true ∧ ∃ a ∈ g.activeSet.values, a.coalesceKey = request.coalesceKey

/-- The outcomes of `submit`, each with the guards that led there.  `clear` says
that no pending request of the rule carries the coalescing key. -/
inductive Submitted (cfg : GateConfig) (g : Gate) (request : ExecutionRequest) (now : Nat) :
    AdmitResult → Gate → Prop where
  | coalesced (keyed : request.coalesces = true) (e : QueuedEntry)
      (pending : e ∈ g.queueOf request.ruleId)
      (same : e.request.coalesceKey = request.coalesceKey) :
      Submitted cfg g request now .coalesced (g.coalesce request)
  | suppressed (discrete : request.coalesces = false)
      (duplicate : request.dedupKey ∈ g.dedupKeys) :
      Submitted cfg g request now .suppressed g
  | admitted
      (clear : request.coalesces = true →
        (∀ e ∈ g.queueOf request.ruleId, e.request.coalesceKey ≠ request.coalesceKey) ∧
        ∀ a ∈ g.activeSet.values, a.coalesceKey ≠ request.coalesceKey)
      (new : request.coalesces = false → request.dedupKey ∉ g.dedupKeys)
      (free : g.activeSet.size < cfg.maxActive) :
      Submitted cfg g request now (.admitted g.uuids) (g.admitRequest request request.dedupKey).2
  | queued
      (clear : request.coalesces = true →
        ∀ e ∈ g.queueOf request.ruleId, e.request.coalesceKey ≠ request.coalesceKey)
      (new : request.coalesces = false → request.dedupKey ∉ g.dedupKeys)
      (busy : g.Busy cfg request)
      (room : (g.queueOf request.ruleId).length < cfg.maxQueuePerRule) :
      Submitted cfg g request now .queued (g.push request now)
  | dropped
      (clear : request.coalesces = true →
        ∀ e ∈ g.queueOf request.ruleId, e.request.coalesceKey ≠ request.coalesceKey)
      (new : request.coalesces = false → request.dedupKey ∉ g.dedupKeys)
      (busy : g.Busy cfg request)
      (full : cfg.maxQueuePerRule ≤ (g.queueOf request.ruleId).length) :
      Submitted cfg g request now .dropped g

section Cases

variable {cfg : GateConfig} {g : Gate} {request : ExecutionRequest} {now : Nat}

theorem enqueue_cases
    (clear : request.coalesces = true →
      ∀ e ∈ g.queueOf request.ruleId, e.request.coalesceKey ≠ request.coalesceKey)
    (new : request.coalesces = false → request.dedupKey ∉ g.dedupKeys)
    (busy : g.Busy cfg request) :
    Submitted cfg g request now (g.enqueue cfg request now).1 (g.enqueue cfg request now).2 := by
  unfold enqueue
  split
  · rename_i full
    exact .dropped clear new busy full
  · rename_i room
    exact .queued clear new busy (not_le.mp room)

theorem place_cases
    (clear : request.coalesces = true →
      (∀ e ∈ g.queueOf request.ruleId, e.request.coalesceKey ≠ request.coalesceKey) ∧
      ∀ a ∈ g.activeSet.values, a.coalesceKey ≠ request.coalesceKey)
    (new : request.coalesces = false → request.dedupKey ∉ g.dedupKeys) :
    Submitted cfg g request now (g.place cfg request now).1 (g.place cfg request now).2 := by
  unfold place
  split
  · rename_i free
    exact .admitted clear new free
  · rename_i full
    exact enqueue_cases (fun keyed => (clear keyed).1) new (.inl (not_lt.mp full))

theorem submit_cases :
    Submitted cfg g request now (g.submit cfg request now).1 (g.submit cfg request now).2 := by
  unfold submit
  cases keyed : request.coalesces with
  | true =>
      rw [if_pos rfl]
      split
      · rename_i pending
        obtain ⟨e, he, same⟩ := List.any_eq_true.mp pending
        exact .coalesced keyed e he (by simpa using same)
      · rename_i none
        have clear : ∀ e ∈ g.queueOf request.ruleId,
            e.request.coalesceKey ≠ request.coalesceKey := by
          simpa using none
        split
        · rename_i active
          obtain ⟨a, ha, same⟩ := List.any_eq_true.mp active
          exact enqueue_cases (fun _ => clear) (by simp [keyed])
            (.inr ⟨keyed, a, ha, by simpa using same⟩)
        · rename_i idle
          exact place_cases (fun _ => ⟨clear, by simpa using idle⟩) (by simp [keyed])
  | false =>
      rw [if_neg (by simp)]
      split
      · rename_i duplicate
        exact .suppressed keyed duplicate
      · rename_i new
        exact place_cases (by simp [keyed]) fun _ => new

end Cases

/-! ## Replacing a pending request -/

theorem replacePending_split {request : ExecutionRequest} {q : List QueuedEntry}
    (pending : ∃ e ∈ q, e.request.coalesceKey = request.coalesceKey) :
    ∃ front e back, q = front ++ e :: back ∧ e.request.coalesceKey = request.coalesceKey ∧
      q.find? (fun e => e.request.coalesceKey = request.coalesceKey) = some e ∧
      replacePending request q = front ++ { e with request := request } :: back := by
  induction q with
  | nil => simp at pending
  | cons a q ih =>
      by_cases ha : a.request.coalesceKey = request.coalesceKey
      · exact ⟨[], a, q, rfl, ha, by simp [ha], by simp [replacePending, ha]⟩
      · obtain ⟨front, e, back, rfl, same, found, hr⟩ := ih (by simpa [ha] using pending)
        refine ⟨a :: front, e, back, rfl, same, ?_, by simp [replacePending, ha, hr]⟩
        rw [List.find?_cons_of_neg (by simpa using ha), found]

theorem queueOf_push (g : Gate) (request : ExecutionRequest) (now : Nat) (r : String) :
    (g.push request now).queueOf r =
      if r = request.ruleId then g.queueOf r ++ [⟨request, request.dedupKey, now⟩]
      else g.queueOf r := by
  unfold queueOf push
  rw [OrderedMap.get_set]
  split
  · rename_i same
    subst same
    rfl
  · rfl

theorem queueOf_coalesce (g : Gate) (request : ExecutionRequest) (r : String) :
    (g.coalesce request).queueOf r =
      if r = request.ruleId then replacePending request (g.queueOf r) else g.queueOf r := by
  unfold queueOf coalesce
  rw [OrderedMap.get_set]
  split
  · rename_i same
    subst same
    rfl
  · rfl

/-- Pushing and replacing leave a queue nonempty and within its rule. -/
theorem push_wf {g : Gate} (wf : g.WF) (request : ExecutionRequest) (now : Nat) :
    (g.push request now).WF := by
  refine setQueue_wf wf (by simp) (fun e he => ?_) _
  rcases List.mem_append.mp he with he | he
  · exact wf.ruleId_of_mem he
  · rw [List.mem_singleton.mp he]

theorem coalesce_wf {g : Gate} (wf : g.WF) {request : ExecutionRequest}
    (pending : ∃ e ∈ g.queueOf request.ruleId, e.request.coalesceKey = request.coalesceKey) :
    (g.coalesce request).WF := by
  obtain ⟨front, e, back, hq, -, -, hr⟩ := replacePending_split pending
  refine setQueue_wf wf (by simp [hr]) (fun a ha => ?_) _
  rw [hr] at ha
  have own : ∀ a ∈ front ++ e :: back, a.request.ruleId = request.ruleId := fun a ha =>
    wf.ruleId_of_mem (hq ▸ ha)
  rcases List.mem_append.mp ha with ha | ha
  · exact own a (List.mem_append_left _ ha)
  · rcases List.mem_cons.mp ha with rfl | ha
    · rfl
    · exact own a (List.mem_append_right _ (List.mem_cons_of_mem _ ha))

theorem submit_wf {cfg : GateConfig} {g : Gate} (wf : g.WF) (request : ExecutionRequest)
    (now : Nat) : (g.submit cfg request now).2.WF := by
  generalize hr : g.submit cfg request now = out
  have cases : Submitted cfg g request now out.1 out.2 := hr ▸ submit_cases
  generalize out.1 = result, out.2 = g' at cases
  cases cases with
  | coalesced keyed e pending same => exact coalesce_wf wf ⟨e, pending, same⟩
  | suppressed => exact wf
  | admitted => exact admitRequest_wf wf request _
  | queued => exact push_wf wf request now
  | dropped => exact wf

theorem complete_wf {cfg : GateConfig} {g : Gate} (wf : g.WF) (handle : Handle) :
    (g.complete cfg handle).WF := by
  unfold complete
  split
  · exact wf
  · exact (drain_spec cfg (release_wf wf _ _)).wf

end Gate

theorem step_wf (cfg : GateConfig) (g : Gate) (call : Call) (wf : g.WF) : (step cfg g call).WF := by
  cases call with
  | submit request now => exact Gate.submit_wf wf request now
  | complete handle => exact Gate.complete_wf wf handle

end Aeolus.Automations.ExecutionGate
