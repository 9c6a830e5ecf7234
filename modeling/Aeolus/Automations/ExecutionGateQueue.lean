/-
# Aeolus.Automations.ExecutionGateQueue — capacity, no stranding, exactly-once start

What a whole run of the gate does to the requests submitted to it.  The gate only
knows thunks, so the run is recorded beside it: a `History` keeps the calls of
`submit` in order, each with its result and the queue slot it went to, and names
the thunk of a call by the call's number.  A coalesced call goes to the slot of
the pending request it replaces, any other call to a slot of its own.

The statements reduce to one list, `timeline`: the thunks started so far followed
by those waiting, in the order `drain` will take them.  A completion leaves the
timeline alone (`timeline_complete`); a submission adds one thunk to it or puts
one in the place of another.  So the thunks on the timeline are at every point the
accepted calls that no later call replaced (`Inv.live`), each once, and those of
one rule stand in the order of their slots (`Inv.order`).
-/
import Aeolus.Theory.Run
import Aeolus.Automations.ExecutionGate

namespace Aeolus.Automations.ExecutionGate

open Aeolus.Theory

/-! ## Recorded runs -/

def AdmitResult.waited : AdmitResult → Bool
  | .queued => true
  | .coalesced => true
  | _ => false

def AdmitResult.accepted : AdmitResult → Bool
  | .admitted _ => true
  | result => result.waited

/-- One call of `submit`.  `slot` is the number of the call that took the queue
slot the request went to. -/
structure CallRecord where
  request : ExecutionRequest
  result : AdmitResult
  slot : Nat
deriving DecidableEq

/-- A gate with the calls it has received; `clock` is the last `Date.now()`. -/
structure History where
  gate : Gate := {}
  calls : List CallRecord := []
  clock : Nat := 0
deriving DecidableEq

namespace History

/-- The slot a call goes to, given its result: that of the pending request it
replaces, else one of its own. -/
def slotFor (h : History) (request : ExecutionRequest) : AdmitResult → Nat
  | .coalesced =>
      match (h.gate.queueOf request.ruleId).find?
          (fun e => e.request.coalesceKey = request.coalesceKey) with
      | some e => (h.calls[e.request.execute]?).elim h.calls.length CallRecord.slot
      | none => h.calls.length
  | _ => h.calls.length

def submit (cfg : GateConfig) (h : History) (request : ExecutionRequest) (now : Nat) : History :=
  let named := { request with execute := h.calls.length }
  let out := h.gate.submit cfg named now
  { gate := out.2
    calls := h.calls ++ [⟨named, out.1, h.slotFor named out.1⟩]
    clock := now }

def step (cfg : GateConfig) (h : History) : Call → History
  | .submit request now => h.submit cfg request now
  | .complete handle => { h with gate := h.gate.complete cfg handle }

/-- The clock does not go back. -/
def Ticks (h : History) : Call → Prop
  | .submit _ now => h.clock ≤ now
  | .complete _ => True

end History

/-- Call `i` was accepted and no later call went to its slot. -/
def Live (calls : List CallRecord) (i : Nat) : Prop :=
  ∃ c, calls[i]? = some c ∧ c.result.accepted = true ∧
    ∀ (j : Nat) (d : CallRecord), calls[j]? = some d → d.slot = c.slot → j ≤ i

/-- The slot of call `i`, if it waited in the queue of rule `r`. -/
def slotIn (calls : List CallRecord) (r : String) (i : Nat) : Option Nat :=
  match calls[i]? with
  | none => none
  | some c => if c.result.waited = true ∧ c.request.ruleId = r then some c.slot else none

/-- Where slots come from, and what the calls of one slot have in common. -/
structure Slotted (calls : List CallRecord) : Prop where
  le : ∀ (i : Nat) (c : CallRecord), calls[i]? = some c → c.slot ≤ i
  own : ∀ (i : Nat) (c : CallRecord), calls[i]? = some c → c.result ≠ .coalesced → c.slot = i
  shared : ∀ (i j : Nat) (c d : CallRecord), calls[i]? = some c → calls[j]? = some d → i < j → d.slot = c.slot →
    c.result.waited = true ∧ d.result = .coalesced ∧ d.request.ruleId = c.request.ruleId ∧
      d.request.coalesceKey = c.request.coalesceKey

/-! ## Appending a call -/

section Append

variable {calls : List CallRecord} {new : CallRecord}

theorem get_snoc {i : Nat} {c : CallRecord} :
    (calls ++ [new])[i]? = some c ↔ calls[i]? = some c ∨ i = calls.length ∧ c = new := by
  rw [List.getElem?_append]
  by_cases before : i < calls.length
  · have ne : i ≠ calls.length := Nat.ne_of_lt before
    simp [before, ne]
  · have absent : calls[i]? = none := List.getElem?_eq_none (not_lt.mp before)
    simp only [before, if_false, absent, reduceCtorEq, false_or]
    by_cases same : i = calls.length
    · subst same
      simp [eq_comm]
    · have past : [new][i - calls.length]? = none := by
        apply List.getElem?_eq_none
        simp only [List.length_singleton]
        omega
      simp [past, same]

theorem lt_of_get {i : Nat} {c : CallRecord} (found : calls[i]? = some c) : i < calls.length :=
  (List.getElem?_eq_some_iff.mp found).1

/-- A call with a slot of its own leaves the older calls as live as they were. -/
theorem live_snoc_own (slotted : Slotted calls) (own : new.slot = calls.length) {i : Nat} :
    Live (calls ++ [new]) i ↔
      Live calls i ∨ i = calls.length ∧ new.result.accepted = true := by
  constructor
  · rintro ⟨c, found, accepted, last⟩
    rcases get_snoc.mp found with old | ⟨rfl, rfl⟩
    · exact .inl ⟨c, old, accepted, fun j d hd => last j d (get_snoc.mpr (.inl hd))⟩
    · exact .inr ⟨rfl, accepted⟩
  · rintro (⟨c, old, accepted, last⟩ | ⟨rfl, accepted⟩)
    · refine ⟨c, get_snoc.mpr (.inl old), accepted, fun j d hd same => ?_⟩
      rcases get_snoc.mp hd with hd | ⟨rfl, rfl⟩
      · exact last j d hd same
      · have := slotted.le i c old
        have := lt_of_get old
        omega
    · refine ⟨new, get_snoc.mpr (.inr ⟨rfl, rfl⟩), accepted, fun j d hd _ => ?_⟩
      rcases get_snoc.mp hd with hd | ⟨rfl, -⟩
      · exact (lt_of_get hd).le
      · exact le_rfl

/-- A call that replaces the live call `p` takes its place among the live ones. -/
theorem live_snoc_replace {p : Nat} {c : CallRecord} (here : calls[p]? = some c)
    (live : Live calls p) (same : new.slot = c.slot) (accepted : new.result.accepted = true)
    {i : Nat} :
    Live (calls ++ [new]) i ↔ (Live calls i ∧ i ≠ p) ∨ i = calls.length := by
  obtain ⟨c', here', -, lastP⟩ := live
  have hc : c' = c := Option.some.inj (here'.symm.trans here)
  subst hc
  constructor
  · rintro ⟨d, found, acceptedD, last⟩
    rcases get_snoc.mp found with old | ⟨rfl, rfl⟩
    · refine .inl ⟨⟨d, old, acceptedD, fun j e he => last j e (get_snoc.mpr (.inl he))⟩, ?_⟩
      rintro rfl
      have hd : d = c' := Option.some.inj (old.symm.trans here)
      have := last calls.length new (get_snoc.mpr (.inr ⟨rfl, rfl⟩)) (by rw [same, hd])
      have := lt_of_get old
      omega
    · exact .inr rfl
  · rintro (⟨⟨d, old, acceptedD, last⟩, ne⟩ | rfl)
    · refine ⟨d, get_snoc.mpr (.inl old), acceptedD, fun j e he sameSlot => ?_⟩
      rcases get_snoc.mp he with he | ⟨rfl, rfl⟩
      · exact last j e he sameSlot
      · -- both `i` and `p` would be the last of one slot
        have slots : d.slot = c'.slot := sameSlot.symm.trans same
        have ip := lastP i d old slots
        have pi := last p c' here slots.symm
        exact absurd (le_antisymm ip pi) ne
    · refine ⟨new, get_snoc.mpr (.inr ⟨rfl, rfl⟩), accepted, fun j e he _ => ?_⟩
      rcases get_snoc.mp he with he | ⟨rfl, -⟩
      · exact (lt_of_get he).le
      · exact le_rfl

theorem slotIn_snoc_of_lt {i : Nat} (before : i < calls.length) (r : String) :
    slotIn (calls ++ [new]) r i = slotIn calls r i := by
  simp only [slotIn, List.getElem?_append_left before]

theorem slotIn_snoc_self (r : String) :
    slotIn (calls ++ [new]) r calls.length =
      if new.result.waited = true ∧ new.request.ruleId = r then some new.slot else none := by
  simp only [slotIn, List.getElem?_concat_length]

theorem slotted_snoc_own (slotted : Slotted calls) (own : new.slot = calls.length) :
    Slotted (calls ++ [new]) := by
  refine ⟨fun i c found => ?_, fun i c found ne => ?_, fun i j c d hc hd lt same => ?_⟩
  · rcases get_snoc.mp found with old | ⟨rfl, rfl⟩
    · exact slotted.le i c old
    · exact own.le
  · rcases get_snoc.mp found with old | ⟨rfl, rfl⟩
    · exact slotted.own i c old ne
    · exact own
  · rcases get_snoc.mp hc with oldC | ⟨rfl, rfl⟩
    · rcases get_snoc.mp hd with oldD | ⟨rfl, rfl⟩
      · exact slotted.shared i j c d oldC oldD lt same
      · have := slotted.le i c oldC
        omega
    · rcases get_snoc.mp hd with oldD | ⟨rfl, rfl⟩
      · have := lt_of_get oldD
        omega
      · omega

theorem slotted_snoc_replace (slotted : Slotted calls) {p : Nat} {c : CallRecord}
    (here : calls[p]? = some c) (waited : c.result.waited = true)
    (coalesced : new.result = .coalesced) (same : new.slot = c.slot)
    (rule : new.request.ruleId = c.request.ruleId)
    (key : new.request.coalesceKey = c.request.coalesceKey) : Slotted (calls ++ [new]) := by
  refine ⟨fun i d found => ?_, fun i d found ne => ?_, fun i j d e hd he lt slots => ?_⟩
  · rcases get_snoc.mp found with old | ⟨rfl, rfl⟩
    · exact slotted.le i d old
    · rw [same]
      exact (slotted.le p c here).trans (lt_of_get here).le
  · rcases get_snoc.mp found with old | ⟨rfl, rfl⟩
    · exact slotted.own i d old ne
    · exact absurd coalesced ne
  · rcases get_snoc.mp hd with oldD | ⟨rfl, rfl⟩
    · rcases get_snoc.mp he with oldE | ⟨rfl, rfl⟩
      · exact slotted.shared i j d e oldD oldE lt slots
      · -- `i` is in the slot of `p`: before it, behind it, or `p` itself
        have sameP : c.slot = d.slot := same.symm.trans slots
        rcases lt_trichotomy i p with before | rfl | behind
        · obtain ⟨w, -, r, k⟩ := slotted.shared i p d c oldD here before sameP
          exact ⟨w, coalesced, rule.trans r, key.trans k⟩
        · have : d = c := Option.some.inj (oldD.symm.trans here)
          subst this
          exact ⟨waited, coalesced, rule, key⟩
        · obtain ⟨-, co, r, k⟩ := slotted.shared p i c d here oldD behind sameP.symm
          refine ⟨?_, coalesced, rule.trans r.symm, key.trans k.symm⟩
          rw [co]
          rfl
    · rcases get_snoc.mp he with oldE | ⟨rfl, rfl⟩
      · have := lt_of_get oldE
        omega
      · omega

/-- The thunks of a list are the live calls, each once. -/
structure Tracked (calls : List CallRecord) (thunks : List Nat) : Prop where
  nodup : thunks.Nodup
  live : ∀ i, i ∈ thunks ↔ Live calls i

theorem Tracked.lt {thunks : List Nat} (tracked : Tracked calls thunks) {i : Nat}
    (member : i ∈ thunks) : i < calls.length := by
  obtain ⟨c, found, -, -⟩ := (tracked.live i).mp member
  exact lt_of_get found

theorem Tracked.ignore {thunks : List Nat} (tracked : Tracked calls thunks)
    (slotted : Slotted calls) (own : new.slot = calls.length)
    (refused : new.result.accepted = false) : Tracked (calls ++ [new]) thunks := by
  refine ⟨tracked.nodup, fun i => ?_⟩
  rw [live_snoc_own slotted own, tracked.live, refused]
  simp

theorem Tracked.add {thunks thunks' : List Nat} (tracked : Tracked calls thunks)
    (slotted : Slotted calls) (own : new.slot = calls.length)
    (accepted : new.result.accepted = true) (perm : thunks'.Perm (calls.length :: thunks)) :
    Tracked (calls ++ [new]) thunks' := by
  refine ⟨perm.nodup_iff.mpr (List.nodup_cons.mpr ⟨fun inside => ?_, tracked.nodup⟩), fun i => ?_⟩
  · exact absurd (tracked.lt inside) (lt_irrefl _)
  · rw [perm.mem_iff, live_snoc_own slotted own, List.mem_cons, tracked.live, accepted]
    simp [or_comm]

theorem Tracked.replace {thunks thunks' rest : List Nat} (tracked : Tracked calls thunks) {p : Nat}
    {c : CallRecord} (here : calls[p]? = some c) (same : new.slot = c.slot)
    (accepted : new.result.accepted = true) (before : thunks.Perm (p :: rest))
    (after : thunks'.Perm (calls.length :: rest)) : Tracked (calls ++ [new]) thunks' := by
  have nodup := before.nodup_iff.mp tracked.nodup
  rw [List.nodup_cons] at nodup
  have live : Live calls p := (tracked.live p).mp (before.mem_iff.mpr List.mem_cons_self)
  have others : ∀ i, i ∈ rest ↔ Live calls i ∧ i ≠ p := by
    intro i
    rw [← tracked.live, before.mem_iff, List.mem_cons]
    constructor
    · intro inside
      exact ⟨.inr inside, fun same => nodup.1 (same ▸ inside)⟩
    · rintro ⟨rfl | inside, ne⟩
      · exact absurd rfl ne
      · exact inside
  refine ⟨after.nodup_iff.mpr (List.nodup_cons.mpr ⟨fun inside => ?_, nodup.2⟩), fun i => ?_⟩
  · have old : calls.length ∈ thunks := before.mem_iff.mpr (List.mem_cons_of_mem _ inside)
    exact absurd (tracked.lt old) (lt_irrefl _)
  · rw [after.mem_iff, live_snoc_replace here live same accepted, List.mem_cons, others, or_comm]

end Append

/-! ## The timeline -/

namespace Gate

/-- The thunks started so far, then the waiting ones as `drain` will take them. -/
def timeline (g : Gate) : List Nat := g.started ++ g.backlog.map (·.request.execute)

theorem timeline_perm (g : Gate) :
    g.timeline.Perm (g.started ++ g.queued.map (·.request.execute)) :=
  List.Perm.append_left _ ((byAge_perm g.queued).map _)

/-- A drain starts the head of the backlog: nothing moves on the timeline. -/
theorem timeline_drain {cfg : GateConfig} {before after : Gate}
    (drained : Drained cfg before after) : after.timeline = before.timeline := by
  rw [timeline, drained.started, drained.backlog, List.append_assoc, ← List.map_append,
    List.take_append_drop, timeline]

theorem timeline_complete (cfg : GateConfig) {g : Gate} (wf : g.WF) (handle : Handle) :
    (g.complete cfg handle).timeline = g.timeline := by
  unfold complete
  split
  · rfl
  · rename_i entry _
    exact (timeline_drain (drain_spec cfg (release_wf wf handle entry))).trans rfl

theorem complete_sublist (cfg : GateConfig) {g : Gate} (wf : g.WF) (handle : Handle) (r : String) :
    ((g.complete cfg handle).queueOf r).Sublist (g.queueOf r) := by
  unfold complete
  split
  · exact List.Sublist.refl _
  · rename_i entry _
    exact (drain_spec cfg (release_wf wf handle entry)).sublist r

/-- A queue in age order leaves the backlog in that order. -/
theorem filter_backlog {g : Gate} (wf : g.WF) {r : String}
    (aged : (g.queueOf r).Pairwise fun a b => a.enqueuedAt ≤ b.enqueuedAt) :
    g.backlog.filter (fun e => e.request.ruleId = r) = g.queueOf r := by
  rw [backlog, filter_byAge, wf.filter_queued, byAge_of_sorted aged]

/-- Changing one rule's queue changes that stretch of the queued entries. -/
theorem queued_setQueue (g : Gate) (r : String) (q : List QueuedEntry) (keys : Finset String) :
    ∃ front back, g.queued = front ++ (g.queueOf r ++ back) ∧
      ({ g with queues := g.queues.set r q, dedupKeys := keys } : Gate).queued =
        front ++ (q ++ back) := by
  cases found : g.queues.get r with
  | none =>
      refine ⟨g.queued, [], ?_, ?_⟩
      · simp [queueOf, found]
      · simp [queued, OrderedMap.values, OrderedMap.entries_set_of_absent found]
  | some old =>
      obtain ⟨l, rest, split, before, -⟩ := OrderedMap.split_of_get found
      refine ⟨(l.map Prod.snd).flatten, (rest.map Prod.snd).flatten, ?_, ?_⟩
      · simp [queued, OrderedMap.values, split, queueOf, found]
      · simp [queued, OrderedMap.values, OrderedMap.entries_set_of_split split before]

open scoped List in
theorem timeline_push (g : Gate) (request : ExecutionRequest) (now : Nat) :
    (g.push request now).timeline.Perm (request.execute :: g.timeline) := by
  obtain ⟨front, back, old, new⟩ := g.queued_setQueue request.ruleId
    (g.queueOf request.ruleId ++ [⟨request, request.dedupKey, now⟩])
    (insert request.dedupKey g.dedupKeys)
  have grown : (g.push request now).queued.Perm (⟨request, request.dedupKey, now⟩ :: g.queued) := by
    rw [push, new, old, List.append_assoc, ← List.append_assoc, List.singleton_append,
      ← List.append_assoc front]
    exact List.perm_middle
  calc (g.push request now).timeline
      _ ~ g.started ++ (g.push request now).queued.map (·.request.execute) := timeline_perm _
      _ ~ g.started ++ (request.execute :: g.queued.map (·.request.execute)) :=
        List.Perm.append_left _ (grown.map _)
      _ ~ request.execute :: (g.started ++ g.queued.map (·.request.execute)) := List.perm_middle
      _ ~ request.execute :: g.timeline := (timeline_perm g).symm.cons _

section Replaced

variable {g : Gate} {request : ExecutionRequest} {front back : List QueuedEntry} {e : QueuedEntry}
  (split : g.queueOf request.ruleId = front ++ e :: back)
  (replaced : replacePending request (g.queueOf request.ruleId) =
    front ++ { e with request := request } :: back)

include split replaced

/-- Whatever is the same for the old and the new entry is the same for the queues. -/
theorem map_queueOf_coalesce {β : Type} {f : QueuedEntry → β}
    (same : f { e with request := request } = f e) (r : String) :
    ((g.coalesce request).queueOf r).map f = (g.queueOf r).map f := by
  rw [queueOf_coalesce]
  split
  · rename_i here
    rw [here, replaced, split]
    simp [same]
  · rfl

theorem mem_queueOf_coalesce {r : String} {a : QueuedEntry}
    (member : a ∈ (g.coalesce request).queueOf r) :
    a ∈ g.queueOf r ∨ a = { e with request := request } := by
  rw [queueOf_coalesce] at member
  split at member
  · rename_i here
    rw [here, replaced] at member
    rw [here, split]
    simp only [List.mem_append, List.mem_cons] at member ⊢
    tauto
  · exact .inl member

end Replaced

/-- A replacement takes the pending thunk off the timeline and puts the new one on. -/
theorem timeline_coalesce {g : Gate} {request : ExecutionRequest} {front back : List QueuedEntry}
    {e : QueuedEntry} (split : g.queueOf request.ruleId = front ++ e :: back)
    (replaced : replacePending request (g.queueOf request.ruleId) =
      front ++ { e with request := request } :: back) :
    ∃ rest, g.timeline.Perm (e.request.execute :: rest) ∧
      (g.coalesce request).timeline.Perm (request.execute :: rest) := by
  obtain ⟨l, r, old, new⟩ := g.queued_setQueue request.ruleId
    (replacePending request (g.queueOf request.ruleId)) g.dedupKeys
  have around : ∀ x : QueuedEntry, (l ++ ((front ++ x :: back) ++ r)).Perm
      (x :: (l ++ (front ++ (back ++ r)))) := by
    intro x
    rw [List.append_assoc, List.cons_append, ← List.append_assoc, ← List.append_assoc]
    exact List.perm_middle
  refine ⟨g.started ++ (l ++ (front ++ (back ++ r))).map (·.request.execute), ?_, ?_⟩
  · refine (timeline_perm g).trans ((List.Perm.append_left _ ?_).trans List.perm_middle)
    rw [old, split]
    exact (around e).map _
  · refine (timeline_perm _).trans ((List.Perm.append_left _ ?_).trans List.perm_middle)
    rw [coalesce, new, replaced]
    exact (around { e with request := request }).map _

/-- A submission takes off the timeline at most the request it replaces. -/
theorem mem_timeline_submitted {cfg : GateConfig} {g g' : Gate} {request : ExecutionRequest}
    {now : Nat} {result : AdmitResult} (cases : Submitted cfg g request now result g') {i : Nat}
    (member : i ∈ g.timeline) :
    i ∈ g'.timeline ∨ ∃ e ∈ g.queueOf request.ruleId,
      e.request.coalesceKey = request.coalesceKey ∧ e.request.execute = i := by
  cases cases with
  | coalesced keyed e pending same =>
      obtain ⟨front, e, back, split, same, -, replaced⟩ :=
        replacePending_split ⟨e, pending, same⟩
      obtain ⟨rest, before, after⟩ := timeline_coalesce split replaced
      rcases List.mem_cons.mp (before.mem_iff.mp member) with rfl | other
      · exact .inr ⟨e, by simp [split], same, rfl⟩
      · exact .inl (after.mem_iff.mpr (List.mem_cons_of_mem _ other))
  | admitted =>
      refine .inl (List.mem_append.mpr ((List.mem_append.mp member).imp ?_ id))
      exact fun started => List.mem_append_left _ started
  | queued =>
      exact .inl ((g.timeline_push request now).mem_iff.mpr (List.mem_cons_of_mem _ member))
  | _ => exact .inl member

/-- An accepted request is on the timeline. -/
theorem mem_timeline_accepted {cfg : GateConfig} {g g' : Gate} {request : ExecutionRequest}
    {now : Nat} {result : AdmitResult} (cases : Submitted cfg g request now result g')
    (accepted : result.accepted = true) : request.execute ∈ g'.timeline := by
  cases cases with
  | coalesced keyed e pending same =>
      obtain ⟨front, e, back, split, -, -, replaced⟩ := replacePending_split ⟨e, pending, same⟩
      obtain ⟨rest, -, after⟩ := timeline_coalesce split replaced
      exact after.mem_iff.mpr List.mem_cons_self
  | admitted =>
      exact List.mem_append_left _ (List.mem_append_right _ List.mem_cons_self)
  | queued => exact (g.timeline_push request now).mem_iff.mpr List.mem_cons_self
  | _ => cases accepted

/-- A request with a key is accepted when its queue has room for one more key. -/
theorem accepted_of_room {cfg : GateConfig} {g g' : Gate} {request : ExecutionRequest}
    {now : Nat} {result : AdmitResult} (cases : Submitted cfg g request now result g')
    (keyed : request.coalesces = true)
    (room : (∀ e ∈ g.queueOf request.ruleId, e.request.coalesceKey ≠ request.coalesceKey) →
      (g.queueOf request.ruleId).length < cfg.maxQueuePerRule) : result.accepted = true := by
  cases cases with
  | suppressed discrete =>
      rw [keyed] at discrete
      cases discrete
  | dropped clear _ _ full =>
      have shorter := room (clear keyed)
      omega
  | _ => rfl

/-- No two requests of a queue have one key, and a new one does not change that. -/
theorem nodup_keys_submitted {cfg : GateConfig} {g g' : Gate} {request : ExecutionRequest}
    {now : Nat} {result : AdmitResult} (cases : Submitted cfg g request now result g')
    (keyed : request.coalesces = true)
    (nodup : ((g.queueOf request.ruleId).map (·.request.coalesceKey)).Nodup) :
    ((g'.queueOf request.ruleId).map (·.request.coalesceKey)).Nodup := by
  cases cases with
  | coalesced _ e pending same =>
      obtain ⟨front, e, back, split, same, -, replaced⟩ := replacePending_split ⟨e, pending, same⟩
      rw [map_queueOf_coalesce split replaced same.symm]
      exact nodup
  | queued clear =>
      rw [queueOf_push, if_pos rfl, List.map_append]
      refine List.nodup_append.mpr ⟨nodup, List.nodup_singleton _, ?_⟩
      intro key mem new here same
      obtain ⟨e, waits, rfl⟩ := List.mem_map.mp mem
      exact clear keyed e waits (same.trans (List.mem_singleton.mp here))
  | _ => exact nodup

end Gate

/-! ## The invariant -/

/-- Every queued entry is a recorded call that waited. -/
def Recorded (calls : List CallRecord) (g : Gate) : Prop :=
  ∀ r, ∀ e ∈ g.queueOf r, ∃ c, calls[e.request.execute]? = some c ∧ c.request = e.request ∧
    c.result.waited = true

structure Inv (cfg : GateConfig) (h : History) : Prop where
  wf : h.gate.WF
  capacity : h.gate.activeSet.size ≤ cfg.maxActive
  depth : ∀ r, (h.gate.queueOf r).length ≤ cfg.maxQueuePerRule
  busy : h.gate.queued ≠ [] → 0 < h.gate.activeSet.size
  aged : ∀ r, (h.gate.queueOf r).Pairwise fun a b => a.enqueuedAt ≤ b.enqueuedAt
  past : ∀ r, ∀ e ∈ h.gate.queueOf r, e.enqueuedAt ≤ h.clock
  slotted : Slotted h.calls
  recorded : Recorded h.calls h.gate
  tracked : Tracked h.calls h.gate.timeline
  order : ∀ r, (h.gate.timeline.filterMap (slotIn h.calls r)).Pairwise (· < ·)

theorem inv_empty (cfg : GateConfig) : Inv cfg {} where
  wf := Gate.wf_empty
  capacity := Nat.zero_le _
  depth _ := Nat.zero_le _
  busy ne := absurd rfl ne
  aged _ := List.Pairwise.nil
  past _ _ member := by cases member
  slotted := ⟨fun _ _ h => by simp at h, fun _ _ h => by simp at h, fun _ _ _ _ h => by simp at h⟩
  recorded _ _ member := by cases member
  tracked := by
    refine ⟨List.nodup_nil, fun i => ⟨fun member => absurd member List.not_mem_nil, ?_⟩⟩
    rintro ⟨c, found, -⟩
    simp at found
  order _ := List.Pairwise.nil

/-! ## What does not depend on the clock -/

/-- The part of the invariant that holds whatever `Date.now()` returns. -/
structure Accounted (cfg : GateConfig) (h : History) : Prop where
  wf : h.gate.WF
  capacity : h.gate.activeSet.size ≤ cfg.maxActive
  busy : 1 ≤ cfg.maxActive → h.gate.queued ≠ [] → 0 < h.gate.activeSet.size
  slotted : Slotted h.calls
  recorded : Recorded h.calls h.gate
  tracked : Tracked h.calls h.gate.timeline

theorem Inv.accounted {cfg : GateConfig} {h : History} (inv : Inv cfg h) : Accounted cfg h :=
  ⟨inv.wf, inv.capacity, fun _ => inv.busy, inv.slotted, inv.recorded, inv.tracked⟩

section Accounts

variable {cfg : GateConfig} {h : History} {new : CallRecord}

theorem Accounted.recorded_snoc (accounted : Accounted cfg h) :
    Recorded (h.calls ++ [new]) h.gate := by
  intro r e he
  obtain ⟨c, found, same, waited⟩ := accounted.recorded r e he
  exact ⟨c, get_snoc.mpr (.inl found), same, waited⟩

/-- A refused request leaves the gate alone. -/
theorem Accounted.refuse (accounted : Accounted cfg h) (now : Nat)
    (own : new.slot = h.calls.length) (refused : new.result.accepted = false) :
    Accounted cfg { gate := h.gate, calls := h.calls ++ [new], clock := now } where
  wf := accounted.wf
  capacity := accounted.capacity
  busy := accounted.busy
  slotted := slotted_snoc_own accounted.slotted own
  recorded := accounted.recorded_snoc
  tracked := accounted.tracked.ignore accounted.slotted own refused

theorem timeline_admitRequest (g : Gate) (request : ExecutionRequest) (key : String) :
    (g.admitRequest request key).2.timeline =
      g.started ++ ([request.execute] ++ g.backlog.map (·.request.execute)) :=
  List.append_assoc _ _ _

/-- An admitted request starts at once, ahead of everything that waits. -/
theorem Accounted.start (accounted : Accounted cfg h) {request : ExecutionRequest} (now : Nat)
    (free : h.gate.activeSet.size < cfg.maxActive) (named : request.execute = h.calls.length)
    (own : new.slot = h.calls.length) (admitted : ∃ handle, new.result = .admitted handle) :
    Accounted cfg
      { gate := (h.gate.admitRequest request request.dedupKey).2
        calls := h.calls ++ [new], clock := now } := by
  obtain ⟨handle, result⟩ := admitted
  have size : (h.gate.admitRequest request request.dedupKey).2.activeSet.size =
      h.gate.activeSet.size + 1 := OrderedMap.size_set_of_absent accounted.wf.fresh
  refine
    { wf := Gate.admitRequest_wf accounted.wf _ _, capacity := ?_, busy := fun _ _ => ?_,
      slotted := slotted_snoc_own accounted.slotted own, recorded := accounted.recorded_snoc,
      tracked := ?_ }
  · rw [size]
    exact free
  · rw [size]
    exact Nat.succ_pos _
  · refine accounted.tracked.add accounted.slotted own (by simp [result, AdmitResult.accepted]) ?_
    rw [timeline_admitRequest, named]
    exact List.perm_middle

/-- A queued request takes the last place of its rule's queue. -/
theorem Accounted.push (accounted : Accounted cfg h) {request : ExecutionRequest} (now : Nat)
    (busy : h.gate.Busy cfg request) (named : request.execute = h.calls.length)
    (own : new.slot = h.calls.length) (queued : new.result = .queued)
    (carries : new.request = request) :
    Accounted cfg
      { gate := h.gate.push request now, calls := h.calls ++ [new], clock := now } := by
  refine
    { wf := Gate.push_wf accounted.wf request now, capacity := accounted.capacity,
      busy := fun one _ => ?_, slotted := slotted_snoc_own accounted.slotted own,
      recorded := fun r e he => ?_, tracked := ?_ }
  · change 0 < h.gate.activeSet.size
    rcases busy with full | ⟨-, a, ha, -⟩
    · exact lt_of_lt_of_le one full
    · rw [← OrderedMap.length_values]
      exact List.length_pos_of_mem ha
  · rw [Gate.queueOf_push] at he
    split at he
    · rcases List.mem_append.mp he with he | he
      · exact accounted.recorded_snoc r e he
      · rw [List.mem_singleton.mp he]
        exact ⟨new, get_snoc.mpr (.inr ⟨named, rfl⟩), carries, by rw [queued]; rfl⟩
    · exact accounted.recorded_snoc r e he
  · refine accounted.tracked.add accounted.slotted own (by rw [queued]; rfl) ?_
    rw [← named]
    exact h.gate.timeline_push request now

/-- A coalesced request takes the place and slot of the pending one. -/
theorem Accounted.coalesce (accounted : Accounted cfg h) {request : ExecutionRequest} (now : Nat)
    (pending : ∃ e ∈ h.gate.queueOf request.ruleId, e.request.coalesceKey = request.coalesceKey)
    (named : request.execute = h.calls.length) (slot : new.slot = h.slotFor request .coalesced)
    (coalesced : new.result = .coalesced) (carries : new.request = request) :
    Accounted cfg
      { gate := h.gate.coalesce request, calls := h.calls ++ [new], clock := now } := by
  obtain ⟨front, e, back, split, sameKey, found, replaced⟩ := Gate.replacePending_split pending
  have member : e ∈ h.gate.queueOf request.ruleId := by simp [split]
  obtain ⟨c, here, carriesC, waited⟩ := accounted.recorded _ e member
  have rule : e.request.ruleId = request.ruleId := accounted.wf.ruleId_of_mem member
  have sameSlot : new.slot = c.slot := by
    rw [slot]
    simp only [History.slotFor, found, here, Option.elim_some]
  refine
    { wf := Gate.coalesce_wf accounted.wf pending, capacity := accounted.capacity,
      busy := fun one ne => accounted.busy one fun nil => ?_, slotted := ?_,
      recorded := fun r a ha => ?_, tracked := ?_ }
  · have : e ∈ h.gate.queued := Gate.mem_queued.mpr ⟨_, member⟩
    simp [nil] at this
  · refine slotted_snoc_replace accounted.slotted here waited coalesced sameSlot ?_ ?_
    · rw [carries, carriesC, rule]
    · rw [carries, carriesC, sameKey]
  · rcases Gate.mem_queueOf_coalesce split replaced ha with old | rfl
    · exact accounted.recorded_snoc r a old
    · exact ⟨new, get_snoc.mpr (.inr ⟨named, rfl⟩), carries, by rw [coalesced]; rfl⟩
  · obtain ⟨rest, before, after⟩ := Gate.timeline_coalesce split replaced
    rw [named] at after
    exact accounted.tracked.replace here sameSlot (by rw [coalesced]; rfl) before after

/-- A completion drains: the timeline stays, and what still waits found every
slot taken. -/
theorem Accounted.complete (accounted : Accounted cfg h) (handle : Handle) :
    Accounted cfg { h with gate := h.gate.complete cfg handle } := by
  cases found : h.gate.activeSet.get handle with
  | none =>
      have same : h.gate.complete cfg handle = h.gate := by simp [Gate.complete, found]
      rw [same]
      exact accounted
  | some entry =>
      have after : h.gate.complete cfg handle = (h.gate.release handle entry).drain cfg := by
        simp [Gate.complete, found]
      have drained := Gate.drain_spec cfg (Gate.release_wf accounted.wf handle entry)
      rw [← after] at drained
      have timeline := Gate.timeline_complete cfg accounted.wf handle
      have shrunk : (h.gate.release handle entry).activeSet.size + 1 = h.gate.activeSet.size :=
        OrderedMap.size_delete_of_get found
      have size := drained.size
      refine
        { wf := drained.wf, capacity := ?_, busy := fun one ne => ?_, slotted := accounted.slotted,
          recorded := fun r e he => accounted.recorded r e ((drained.sublist r).subset he),
          tracked := ?_ }
      · have := accounted.capacity
        change (h.gate.complete cfg handle).activeSet.size ≤ _
        omega
      · change 0 < (h.gate.complete cfg handle).activeSet.size
        have left := congrArg List.length drained.backlog
        rw [List.length_drop, Gate.length_backlog] at left
        have pos : 0 < (h.gate.complete cfg handle).queued.length := List.length_pos_iff.mpr ne
        omega
      · change Tracked h.calls (h.gate.complete cfg handle).timeline
        rw [timeline]
        exact accounted.tracked

theorem History.submit_cases (cfg : GateConfig) (h : History) (request : ExecutionRequest)
    (now : Nat) : ∃ req result g', req.execute = h.calls.length ∧
      Gate.Submitted cfg h.gate req now result g' ∧
      h.submit cfg request now =
        { gate := g', calls := h.calls ++ [⟨req, result, h.slotFor req result⟩], clock := now } :=
  ⟨{ request with execute := h.calls.length }, _, _, rfl, Gate.submit_cases, rfl⟩

theorem Accounted.submit (accounted : Accounted cfg h) (request : ExecutionRequest) (now : Nat) :
    Accounted cfg (h.submit cfg request now) := by
  obtain ⟨req, result, g', named, cases, next⟩ := h.submit_cases cfg request now
  rw [next]
  cases cases with
  | coalesced keyed e pending same =>
      exact accounted.coalesce now ⟨e, pending, same⟩ named rfl rfl rfl
  | suppressed => exact accounted.refuse now rfl rfl
  | admitted clear new free => exact accounted.start now free named rfl ⟨_, rfl⟩
  | queued clear new busy room => exact accounted.push now busy named rfl rfl rfl
  | dropped => exact accounted.refuse now rfl rfl

end Accounts

/-- The slots of one rule on the timeline: those started, then those of its queue. -/
theorem timeline_slots {calls : List CallRecord} {g : Gate} (wf : g.WF)
    (recorded : Recorded calls g) {r : String}
    (aged : (g.queueOf r).Pairwise fun a b => a.enqueuedAt ≤ b.enqueuedAt) :
    g.timeline.filterMap (slotIn calls r) = g.started.filterMap (slotIn calls r) ++
      (g.queueOf r).filterMap (fun e => slotIn calls r e.request.execute) := by
  rw [Gate.timeline, List.filterMap_append, List.filterMap_map, ← Gate.filter_backlog wf aged,
    List.filterMap_filter]
  congr 1
  refine List.filterMap_congr fun e he => ?_
  obtain ⟨r', member⟩ := Gate.mem_queued.mp (Gate.mem_backlog.mp he)
  obtain ⟨c, found, same, -⟩ := recorded r' e member
  by_cases here : e.request.ruleId = r
  · simp [here]
  · simp [slotIn, found, same, here]

section Step

variable {cfg : GateConfig} {h : History} {new : CallRecord}

theorem Inv.slots_snoc (inv : Inv cfg h) (r : String) {thunks : List Nat}
    (old : ∀ i ∈ thunks, i ∈ h.gate.timeline) :
    thunks.filterMap (slotIn (h.calls ++ [new]) r) = thunks.filterMap (slotIn h.calls r) :=
  List.filterMap_congr fun i hi => slotIn_snoc_of_lt (inv.tracked.lt (old i hi)) r

theorem Inv.slot_lt (inv : Inv cfg h) {r : String} {slot : Nat}
    (member : slot ∈ h.gate.timeline.filterMap (slotIn h.calls r)) : slot < h.calls.length := by
  obtain ⟨i, -, hs⟩ := List.mem_filterMap.mp member
  unfold slotIn at hs
  split at hs
  · cases hs
  · rename_i c found
    split at hs
    · cases hs
      exact (inv.slotted.le i c found).trans_lt (lt_of_get found)
    · cases hs

theorem mem_timeline_of_queueOf {g : Gate} {r : String} {e : QueuedEntry}
    (member : e ∈ g.queueOf r) : e.request.execute ∈ g.timeline := by
  refine List.mem_append_right _ (List.mem_map.mpr ⟨e, ?_, rfl⟩)
  exact Gate.mem_backlog.mpr (Gate.mem_queued.mpr ⟨r, member⟩)

/-- The slot of a queued entry does not move when a call is added. -/
theorem Inv.slotIn_queued (inv : Inv cfg h) (r : String) {r' : String} {a : QueuedEntry}
    (waits : a ∈ h.gate.queueOf r') :
    slotIn (h.calls ++ [new]) r a.request.execute = slotIn h.calls r a.request.execute :=
  slotIn_snoc_of_lt (inv.tracked.lt (mem_timeline_of_queueOf waits)) r

theorem mem_timeline_of_started {g : Gate} {i : Nat} (member : i ∈ g.started) : i ∈ g.timeline :=
  List.mem_append_left _ member

theorem Inv.refuse (inv : Inv cfg h) {now : Nat} (ticks : h.clock ≤ now)
    (own : new.slot = h.calls.length) (refused : new.result.accepted = false) :
    Inv cfg { gate := h.gate, calls := h.calls ++ [new], clock := now } := by
  obtain ⟨wf, capacity, -, slotted, recorded, tracked⟩ := inv.accounted.refuse now own refused
  refine
    { wf, capacity, depth := inv.depth, busy := inv.busy, aged := inv.aged,
      past := fun r e he => (inv.past r e he).trans ticks, slotted, recorded, tracked,
      order := fun r => ?_ }
  change (h.gate.timeline.filterMap _).Pairwise _
  rw [inv.slots_snoc r fun _ member => member]
  exact inv.order r

theorem Inv.start (inv : Inv cfg h) {request : ExecutionRequest} {now : Nat}
    (ticks : h.clock ≤ now) (free : h.gate.activeSet.size < cfg.maxActive)
    (named : request.execute = h.calls.length) (own : new.slot = h.calls.length)
    (admitted : ∃ handle, new.result = .admitted handle) :
    Inv cfg
      { gate := (h.gate.admitRequest request request.dedupKey).2
        calls := h.calls ++ [new], clock := now } := by
  obtain ⟨wf, capacity, busy, slotted, recorded, tracked⟩ :=
    inv.accounted.start now free named own admitted
  obtain ⟨handle, result⟩ := admitted
  refine
    { wf, capacity, depth := inv.depth, busy := busy (Nat.one_le_of_lt free), aged := inv.aged,
      past := fun r e he => (inv.past r e he).trans ticks, slotted, recorded, tracked,
      order := fun r => ?_ }
  have none : slotIn (h.calls ++ [new]) r h.calls.length = none := by
    rw [slotIn_snoc_self, result]
    rfl
  have old := inv.order r
  rw [Gate.timeline, List.filterMap_append] at old
  rw [timeline_admitRequest, named, List.filterMap_append, List.filterMap_append,
    List.filterMap_cons, none, List.filterMap_nil, List.nil_append,
    inv.slots_snoc r fun _ => mem_timeline_of_started,
    inv.slots_snoc r fun _ => List.mem_append_right _]
  exact old

theorem Inv.push (inv : Inv cfg h) {request : ExecutionRequest} {now : Nat} (one : 1 ≤ cfg.maxActive)
    (ticks : h.clock ≤ now) (busy : h.gate.Busy cfg request)
    (room : (h.gate.queueOf request.ruleId).length < cfg.maxQueuePerRule)
    (named : request.execute = h.calls.length) (own : new.slot = h.calls.length)
    (queued : new.result = .queued) (carries : new.request = request) :
    Inv cfg
      { gate := h.gate.push request now, calls := h.calls ++ [new], clock := now } := by
  obtain ⟨wf, capacity, active, slotted, recorded, tracked⟩ :=
    inv.accounted.push now busy named own queued carries
  have aged : ∀ r, ((h.gate.push request now).queueOf r).Pairwise
      fun a b => a.enqueuedAt ≤ b.enqueuedAt := by
    intro r
    rw [Gate.queueOf_push]
    split
    · refine List.pairwise_append.mpr ⟨inv.aged r, List.pairwise_singleton _ _, ?_⟩
      intro a ha b hb
      rw [List.mem_singleton.mp hb]
      exact (inv.past r a ha).trans ticks
    · exact inv.aged r
  refine
    { wf, capacity, depth := fun r => ?_, busy := active one, aged, past := fun r e he => ?_,
      slotted, recorded, tracked, order := fun r => ?_ }
  · rw [Gate.queueOf_push]
    split
    · rename_i same
      subst same
      rw [List.length_append, List.length_singleton]
      exact room
    · exact inv.depth r
  · rw [Gate.queueOf_push] at he
    split at he
    · rcases List.mem_append.mp he with he | he
      · exact (inv.past r e he).trans ticks
      · rw [List.mem_singleton.mp he]
    · exact (inv.past r e he).trans ticks
  · -- the slot is the newest one, and its rule's queue grows at the end
    have old := inv.order r
    rw [timeline_slots inv.wf inv.recorded (inv.aged r)] at old
    have kept : (h.gate.queueOf r).filterMap
        (fun e => slotIn (h.calls ++ [new]) r e.request.execute) =
        (h.gate.queueOf r).filterMap (fun e => slotIn h.calls r e.request.execute) :=
      List.filterMap_congr fun e he => inv.slotIn_queued r he
    rw [timeline_slots wf recorded (aged r)]
    change (List.filterMap _ h.gate.started ++ _).Pairwise _
    rw [inv.slots_snoc r fun _ => mem_timeline_of_started, Gate.queueOf_push]
    split
    · rename_i same
      have self : slotIn (h.calls ++ [new]) r request.execute = some h.calls.length := by
        rw [named, slotIn_snoc_self, queued, carries, own, same]
        exact if_pos ⟨rfl, rfl⟩
      rw [List.filterMap_append, kept, ← List.append_assoc, List.filterMap_cons, self,
        List.filterMap_nil]
      refine List.pairwise_append.mpr ⟨old, List.pairwise_singleton _ _, ?_⟩
      intro a ha b hb
      rw [List.mem_singleton.mp hb]
      rw [← timeline_slots inv.wf inv.recorded (inv.aged r)] at ha
      exact inv.slot_lt ha
    · rw [kept]
      exact old

/-- A coalesced request takes the place, age and slot of the pending one. -/
theorem Inv.coalesce (inv : Inv cfg h) {request : ExecutionRequest} {now : Nat}
    (ticks : h.clock ≤ now)
    (pending : ∃ e ∈ h.gate.queueOf request.ruleId, e.request.coalesceKey = request.coalesceKey)
    (named : request.execute = h.calls.length) (slot : new.slot = h.slotFor request .coalesced)
    (coalesced : new.result = .coalesced) (carries : new.request = request) :
    Inv cfg
      { gate := h.gate.coalesce request, calls := h.calls ++ [new], clock := now } := by
  obtain ⟨wf, capacity, -, slotted, recorded, tracked⟩ :=
    inv.accounted.coalesce now pending named slot coalesced carries
  obtain ⟨front, e, back, split, -, found, replaced⟩ := Gate.replacePending_split pending
  have member : e ∈ h.gate.queueOf request.ruleId := by simp [split]
  obtain ⟨c, here, carriesC, waited⟩ := inv.recorded _ e member
  have rule : e.request.ruleId = request.ruleId := inv.wf.ruleId_of_mem member
  have sameSlot : new.slot = c.slot := by
    rw [slot]
    simp only [History.slotFor, found, here, Option.elim_some]
  have congr {β : Type} (f : QueuedEntry → β) (same : f { e with request := request } = f e) :=
    Gate.map_queueOf_coalesce split replaced same
  have aged : ∀ r, ((h.gate.coalesce request).queueOf r).Pairwise
      fun a b => a.enqueuedAt ≤ b.enqueuedAt := by
    intro r
    have ages := congr QueuedEntry.enqueuedAt rfl r
    have old := inv.aged r
    exact List.pairwise_map.mp (ages ▸ List.pairwise_map.mpr old)
  refine
    { wf, capacity, depth := fun r => ?_, busy := fun ne => ?_, aged, past := fun r a ha => ?_,
      slotted, recorded, tracked, order := fun r => ?_ }
  · have lengths := congrArg List.length (congr (fun _ => ()) rfl r)
    rw [List.length_map, List.length_map] at lengths
    change ((h.gate.coalesce request).queueOf r).length ≤ _
    rw [lengths]
    exact inv.depth r
  · refine inv.busy fun nil => ?_
    have : e ∈ h.gate.queued := Gate.mem_queued.mpr ⟨_, member⟩
    simp [nil] at this
  · rcases Gate.mem_queueOf_coalesce split replaced ha with old | rfl
    · exact (inv.past r a old).trans ticks
    · exact (inv.past _ e member).trans ticks
  · have old := inv.order r
    rw [timeline_slots inv.wf inv.recorded (inv.aged r)] at old
    rw [timeline_slots wf recorded (aged r)]
    change (List.filterMap _ h.gate.started ++ _).Pairwise _
    have slots : ((h.gate.coalesce request).queueOf r).filterMap
        (fun a => slotIn (h.calls ++ [new]) r a.request.execute) =
        (h.gate.queueOf r).filterMap (fun a => slotIn h.calls r a.request.execute) := by
      have same : slotIn (h.calls ++ [new]) r request.execute =
          slotIn (h.calls ++ [new]) r e.request.execute := by
        have also : new.result.waited = true := by rw [coalesced]; rfl
        rw [inv.slotIn_queued r member, named, slotIn_snoc_self, slotIn, here, carries, sameSlot]
        simp only [also, waited, carriesC, rule, true_and]
      have slotwise := congrArg (List.filterMap id)
        (congr (fun a => slotIn (h.calls ++ [new]) r a.request.execute) same r)
      rw [List.filterMap_map, List.filterMap_map] at slotwise
      exact slotwise.trans (List.filterMap_congr fun a ha => inv.slotIn_queued r ha)
    rw [inv.slots_snoc r fun _ => mem_timeline_of_started, slots]
    exact old

theorem Inv.complete (inv : Inv cfg h) (one : 1 ≤ cfg.maxActive) (handle : Handle) :
    Inv cfg { h with gate := h.gate.complete cfg handle } := by
  obtain ⟨wf, capacity, busy, slotted, recorded, tracked⟩ := inv.accounted.complete handle
  have sublist := Gate.complete_sublist cfg inv.wf handle
  refine
    { wf, capacity, depth := fun r => (sublist r).length_le.trans (inv.depth r), busy := busy one,
      aged := fun r => (inv.aged r).sublist (sublist r),
      past := fun r e he => inv.past r e ((sublist r).subset he), slotted, recorded, tracked,
      order := fun r => ?_ }
  change (List.filterMap _ (h.gate.complete cfg handle).timeline).Pairwise _
  rw [Gate.timeline_complete cfg inv.wf handle]
  exact inv.order r

theorem Inv.submit (inv : Inv cfg h) (one : 1 ≤ cfg.maxActive) (request : ExecutionRequest)
    {now : Nat} (ticks : h.clock ≤ now) : Inv cfg (h.submit cfg request now) := by
  obtain ⟨req, result, g', named, cases, next⟩ := h.submit_cases cfg request now
  rw [next]
  cases cases with
  | coalesced keyed e pending same =>
      exact inv.coalesce ticks ⟨e, pending, same⟩ named rfl rfl rfl
  | suppressed => exact inv.refuse ticks rfl rfl
  | admitted clear new free => exact inv.start ticks free named rfl ⟨_, rfl⟩
  | queued clear new busy room => exact inv.push one ticks busy room named rfl rfl rfl
  | dropped => exact inv.refuse ticks rfl rfl

theorem step_inv (one : 1 ≤ cfg.maxActive) (h : History) (call : Call) (inv : Inv cfg h)
    (ticks : h.Ticks call) : Inv cfg (h.step cfg call) := by
  cases call with
  | submit request now => exact inv.submit one request ticks
  | complete handle => exact inv.complete one handle

end Step

/-! ## What a run guarantees -/

/-- A completed handle is not active any more. -/
theorem Gate.get_complete_self (cfg : GateConfig) {g : Gate} (wf : g.WF) (handle : Handle) :
    (g.complete cfg handle).activeSet.get handle = none := by
  cases found : g.activeSet.get handle with
  | none => simp [Gate.complete, found]
  | some entry =>
      have drained := Gate.drain_spec cfg (Gate.release_wf wf handle entry)
      have old : handle < (g.release handle entry).uuids := wf.handles handle entry found
      simp only [Gate.complete, found]
      rw [drained.older handle old]
      exact OrderedMap.get_delete_self _ _

/-- The guarantees of the gate at one point of a run.  Calls sharing a slot are a
queued request and the requests that replaced it while it waited, in call order. -/
structure Sound (cfg : GateConfig) (h : History) : Prop where
  capacity : h.gate.activeSet.size ≤ cfg.maxActive
  depth : ∀ r, (h.gate.queueOf r).length ≤ cfg.maxQueuePerRule
  notStranded : ∀ r, h.gate.queueOf r ≠ [] → ∃ handle a, h.gate.activeSet.get handle = some a
  atMostOnce : ∀ i, h.gate.started.count i ≤ 1
  onlyAccepted : ∀ i ∈ h.gate.started, ∃ c, h.calls[i]? = some c ∧ c.result.accepted = true
  replaced : ∀ (i j : Nat) (c d : CallRecord), h.calls[i]? = some c → h.calls[j]? = some d →
    i < j → d.slot = c.slot →
      c.result.waited = true ∧ d.result = .coalesced ∧
      d.request.coalesceKey = c.request.coalesceKey ∧ h.gate.started.count i = 0
  exactlyOnce : (∀ r, h.gate.queueOf r = []) → ∀ (i : Nat) (c : CallRecord),
    h.calls[i]? = some c → c.result.accepted = true →
      (∀ (j : Nat) (d : CallRecord), h.calls[j]? = some d → i < j → d.slot ≠ c.slot) →
        h.gate.started.count i = 1
  lastReplacement : (∀ r, h.gate.queueOf r = []) → ∀ (i j : Nat) (c d : CallRecord),
    h.calls[i]? = some c → h.calls[j]? = some d → i < j → d.slot = c.slot →
      ∃ (k : Nat) (e : CallRecord), h.calls[k]? = some e ∧ j ≤ k ∧ e.slot = c.slot ∧
        (∀ (l : Nat) (f : CallRecord), h.calls[l]? = some f → f.slot = c.slot → l ≤ k) ∧
        h.gate.started.count k = 1
  fifo : ∀ r, (h.gate.started.filterMap (slotIn h.calls r)).Pairwise (· < ·)
  stale : ∀ handle, h.gate.activeSet.get handle = none → h.step cfg (.complete handle) = h
  twice : ∀ handle, (h.step cfg (.complete handle)).step cfg (.complete handle) =
    h.step cfg (.complete handle)

/-- A slot that some call went to has a last call. -/
theorem exists_last {calls : List CallRecord} {slot j : Nat} {d : CallRecord}
    (here : calls[j]? = some d) (same : d.slot = slot) :
    ∃ (k : Nat) (e : CallRecord), calls[k]? = some e ∧ j ≤ k ∧ e.slot = slot ∧
      ∀ (l : Nat) (f : CallRecord), calls[l]? = some f → f.slot = slot → l ≤ k := by
  classical
  let inSlot : Nat → Prop := fun k => ∃ e, calls[k]? = some e ∧ e.slot = slot
  have bound : ∀ k, inSlot k → k ≤ calls.length := fun k ⟨e, he, _⟩ => (lt_of_get he).le
  have some_ : inSlot j := ⟨d, here, same⟩
  obtain ⟨e, he, hs⟩ : inSlot (Nat.findGreatest inSlot calls.length) :=
    Nat.findGreatest_spec (bound j some_) some_
  refine ⟨_, e, he, Nat.le_findGreatest (bound j some_) some_, hs, fun l f hf hfs => ?_⟩
  exact Nat.le_findGreatest (bound l ⟨f, hf, hfs⟩) ⟨f, hf, hfs⟩

theorem queued_eq_nil {g : Gate} : g.queued = [] ↔ ∀ r, g.queueOf r = [] := by
  simp only [List.eq_nil_iff_forall_not_mem, Gate.mem_queued, not_exists]
  exact ⟨fun none r e => none e r, fun none e r => none r e⟩

/-- With nothing waiting, the timeline is what was started. -/
theorem timeline_of_drained {g : Gate} (none : ∀ r, g.queueOf r = []) :
    g.timeline = g.started := by
  have nil : g.backlog = [] := by
    rw [Gate.backlog, queued_eq_nil.mpr none]
    rfl
  rw [Gate.timeline, nil, List.map_nil, List.append_nil]

theorem Inv.sound {cfg : GateConfig} {h : History} (inv : Inv cfg h) : Sound cfg h := by
  have nodup : h.gate.started.Nodup := (List.nodup_append.mp inv.tracked.nodup).1
  have live : ∀ i ∈ h.gate.started, Live h.calls i := fun i member =>
    (inv.tracked.live i).mp (mem_timeline_of_started member)
  have started : (∀ r, h.gate.queueOf r = []) → ∀ i, Live h.calls i →
      h.gate.started.count i = 1 := by
    intro none i alive
    have member := (inv.tracked.live i).mpr alive
    rw [timeline_of_drained none] at member
    exact List.count_eq_one_of_mem nodup member
  refine
    { capacity := inv.capacity, depth := inv.depth, notStranded := fun r ne => ?_,
      atMostOnce := fun i => List.nodup_iff_count_le_one.mp nodup i,
      onlyAccepted := fun i member => ?_, replaced := fun i j c d hc hd lt same => ?_,
      exactlyOnce := fun none i c hc accepted last => ?_,
      lastReplacement := fun none i j c d hc hd lt same => ?_, fifo := fun r => ?_,
      stale := fun handle absent => ?_, twice := fun handle => ?_ }
  · have pos := inv.busy fun nil => ne (queued_eq_nil.mp nil r)
    rw [← OrderedMap.length_values] at pos
    obtain ⟨a, ha⟩ := List.exists_mem_of_length_pos pos
    obtain ⟨handle, found⟩ := OrderedMap.mem_values.mp ha
    exact ⟨handle, a, found⟩
  · obtain ⟨c, hc, accepted, -⟩ := live i member
    exact ⟨c, hc, accepted⟩
  · obtain ⟨waited, coalesced, -, key⟩ := inv.slotted.shared i j c d hc hd lt same
    refine ⟨waited, coalesced, key, List.count_eq_zero.mpr fun member => ?_⟩
    obtain ⟨c', hc', -, last⟩ := live i member
    have : c' = c := Option.some.inj (hc'.symm.trans hc)
    subst this
    exact absurd (last j d hd same) (not_le.mpr lt)
  · refine started none i ⟨c, hc, accepted, fun j d hd same => ?_⟩
    exact not_lt.mp fun lt => last j d hd lt same
  · obtain ⟨k, e, he, le, hs, last⟩ := exists_last hd same
    refine ⟨k, e, he, le, hs, last, started none k ⟨e, he, ?_, fun l f hf hfs => ?_⟩⟩
    · obtain ⟨-, coalesced, -, -⟩ := inv.slotted.shared i k c e hc he (lt.trans_le le) hs
      rw [coalesced]
      rfl
    · exact last l f hf (hfs.trans hs)
  · have order := inv.order r
    rw [Gate.timeline, List.filterMap_append] at order
    exact (List.pairwise_append.mp order).1
  · simp [History.step, Gate.complete, absent]
  · have absent := Gate.get_complete_self cfg inv.wf handle
    simp only [History.step]
    rw [Gate.complete.eq_1 cfg (h.gate.complete cfg handle), absent]

/-- **Capacity, no stranding, exactly-once start.**  With at least one slot and a
clock that does not go back, every point of every run has the guarantees. -/
theorem run_sound (cfg : GateConfig) (one : 1 ≤ cfg.maxActive) (calls : List Call)
    (ticks : Along (History.step cfg) History.Ticks {} calls) :
    Sound cfg (run (History.step cfg) {} calls) :=
  (invariant_along (step_inv one) (inv_empty cfg) ticks).sound

/-- One slot.  The second request waits, the third replaces it, and the completion
of the first starts the third. -/
theorem run_sound_coalescing :
    Sound ⟨1, 3⟩ (run (History.step ⟨1, 3⟩) {}
      [.submit ⟨"r1", "d1", "t", some "k", 0⟩ 10, .submit ⟨"r1", "d1", "t", some "k", 0⟩ 11,
        .submit ⟨"r1", "d1", "t", some "k", 0⟩ 12, .complete 0]) ∧
    (run (History.step ⟨1, 3⟩) {}
      [.submit ⟨"r1", "d1", "t", some "k", 0⟩ 10, .submit ⟨"r1", "d1", "t", some "k", 0⟩ 11,
        .submit ⟨"r1", "d1", "t", some "k", 0⟩ 12, .complete 0]).gate.started = [0, 2] :=
  ⟨run_sound ⟨1, 3⟩ (by decide) _ (by simp [Along, History.Ticks, History.step, History.submit]),
    by decide⟩

end Aeolus.Automations.ExecutionGate
