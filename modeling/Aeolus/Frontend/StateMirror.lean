/-
# Aeolus.Frontend.StateMirror — the state of an automation in its frame

A frame reads the state of its automation from a mirror.  `subscribeState` (`sandbox-host.ts`)
compares each state that the store gets with the one before, collects what changed until the
next animation frame, and posts it; the frame (`runtime/sdk-client.ts`) enters what it is told.
A key that is gone is no change, and nothing is said of it.

* `upToDate_iff_along` — what the frame has been told, or is about to be, is the state in the
  store as long as no write takes away a value;
* `mirror_converges_iff` — when all flushes have run and all messages have come, the frame reads
  the store's state, after every part of a run, if and only if no write of the run takes away a
  value.
-/
import Aeolus.Theory.OrderedMap
import Aeolus.Theory.Run

namespace Aeolus.Frontend

open Aeolus.Theory

section Mirror

variable {V : Type}

/-! ## The store -/

/-- `Record<string, unknown>`; a value is `none` where it is `undefined`. -/
abbrev RuleState (V : Type) := OrderedMap String (Option V)

/-- `state[key]`; of an object a value is its identity. -/
def RuleState.value (state : RuleState V) (key : String) : Option V := (state.get key).join

/-- `useAutomationStateStore` -/
structure AutomationStateStore (V : Type) where
  stateByRule : OrderedMap String (RuleState V) := .empty

namespace AutomationStateStore

variable (s : AutomationStateStore V)

/-- `stateByRule[ruleId] ?? {}` -/
def ruleState (ruleId : String) : RuleState V := (s.stateByRule.get ruleId).getD .empty

def setRuleState (ruleId key : String) (value : Option V) : AutomationStateStore V :=
  { s with stateByRule := s.stateByRule.set ruleId ((s.ruleState ruleId).set key value) }

def initRuleState (ruleId : String) (state : RuleState V) : AutomationStateStore V :=
  { s with stateByRule := s.stateByRule.set ruleId state }

def clearRuleState (ruleId : String) : AutomationStateStore V :=
  { s with stateByRule := s.stateByRule.delete ruleId }

theorem ruleState_setRuleState (ruleId key : String) (value : Option V) (entityId : String) :
    (s.setRuleState ruleId key value).ruleState entityId =
      if entityId = ruleId then (s.ruleState ruleId).set key value else s.ruleState entityId := by
  unfold ruleState setRuleState
  rw [OrderedMap.get_set]
  split <;> rfl

theorem ruleState_initRuleState (ruleId : String) (state : RuleState V) (entityId : String) :
    (s.initRuleState ruleId state).ruleState entityId =
      if entityId = ruleId then state else s.ruleState entityId := by
  unfold ruleState initRuleState
  rw [OrderedMap.get_set]
  split <;> rfl

theorem ruleState_clearRuleState (ruleId entityId : String) :
    (s.clearRuleState ruleId).ruleState entityId =
      if entityId = ruleId then .empty else s.ruleState entityId := by
  unfold ruleState clearRuleState
  rw [OrderedMap.get_delete]
  split <;> rfl

end AutomationStateStore

/-! ## The subscription -/

/-- The variables of `subscribeState`. -/
structure StateSubscription (V : Type) where
  previous : RuleState V
  pending : OrderedMap String (Option V) := .empty
  flushScheduled : Bool := false

/-- The entries of `next` whose value is not that of `previous`. -/
def changes [DecidableEq V] (previous next : RuleState V) : OrderedMap String (Option V) :=
  ⟨next.entries.filter fun entry => previous.value entry.1 ≠ entry.2,
    next.nodup.sublist (List.filter_sublist.map _)⟩

/-- The listener of the store.  `next === previous` compares objects; one with the same entries
brings no change either. -/
def StateSubscription.notify [DecidableEq V] (sub : StateSubscription V) (next : RuleState V) :
    StateSubscription V :=
  if next = sub.previous then sub
  else
    let pending := sub.pending.setAll (changes sub.previous next).entries
    { previous := next, pending
      flushScheduled := sub.flushScheduled || decide (0 < pending.size) }

/-! ## Host and frame -/

/-- A message on its way carries a copy of a value, which the value stands for. -/
structure MirroredFrame (V : Type) where
  store : AutomationStateStore V
  host : StateSubscription V
  /-- posted to the frame and not there yet -/
  port : List (String × Option V) := []
  stateMirror : OrderedMap String (Option V)

inductive MirrorEvent (V : Type) where
  | setRuleState (ruleId key : String) (value : Option V)
  | initRuleState (ruleId : String) (state : RuleState V)
  | clearRuleState (ruleId : String)
  /-- the animation frame that was asked for -/
  | flush
  /-- the oldest message arrives -/
  | message

def MirrorEvent.isWrite : MirrorEvent V → Bool
  | .flush => false
  | .message => false
  | _ => true

/-- A frame that starts with the state of its automation. -/
def register (entityId : String) (store : AutomationStateStore V) : MirroredFrame V where
  store := store
  host := { previous := store.ruleState entityId }
  stateMirror := store.ruleState entityId

namespace MirroredFrame

variable (entityId : String) (s : MirroredFrame V)

def read (key : String) : Option V := (s.stateMirror.get key).join

/-- The store's value for a key of the automation. -/
def current (key : String) : Option V := (s.store.ruleState entityId).value key

def flush : MirroredFrame V :=
  if s.host.flushScheduled then
    { s with
      host := { s.host with flushScheduled := false, pending := .empty }
      port := s.port ++ s.host.pending.entries }
  else s

def message : MirroredFrame V :=
  match s.port with
  | [] => s
  | (key, value) :: rest => { s with port := rest, stateMirror := s.stateMirror.set key value }

/-- No flush is scheduled, and no message on its way. -/
def Settled : Prop := s.host.flushScheduled = false ∧ s.port = []

instance [DecidableEq V] : Decidable s.Settled := inferInstanceAs (Decidable (_ ∧ _))

def Converged : Prop := ∀ key, s.read key = s.current entityId key

section Step

variable [DecidableEq V]

def written (store : AutomationStateStore V) : MirroredFrame V :=
  { s with store, host := s.host.notify (store.ruleState entityId) }

def step (s : MirroredFrame V) : MirrorEvent V → MirroredFrame V
  | .setRuleState ruleId key value => s.written entityId (s.store.setRuleState ruleId key value)
  | .initRuleState ruleId state => s.written entityId (s.store.initRuleState ruleId state)
  | .clearRuleState ruleId => s.written entityId (s.store.clearRuleState ruleId)
  | .flush => s.flush
  | .message => s.message

end Step

end MirroredFrame

/-- The write takes away no value of the automation. -/
def Keeps (entityId : String) (s : MirroredFrame V) : MirrorEvent V → Prop
  | .initRuleState ruleId state =>
      ruleId = entityId → ∀ key, s.current entityId key ≠ none → state.has key = true
  | .clearRuleState ruleId => ruleId = entityId → ∀ key, s.current entityId key = none
  | _ => True

/-! ## What the frame will have been told -/

theorem get_changes [DecidableEq V] (previous next : RuleState V) (key : String) :
    (changes previous next).get key = (next.get key).filter (previous.value key ≠ ·) := by
  ext value
  rw [← OrderedMap.mem_entries, changes, List.mem_filter, OrderedMap.mem_entries,
    Option.filter_eq_some_iff]

/-- The listener collects what changed; a key that is gone stays as it was. -/
theorem get_pending_notify [DecidableEq V] (sub : StateSubscription V) (next : RuleState V)
    (key : String) :
    (sub.notify next).pending.get key =
      ((next.get key).filter (sub.previous.value key ≠ ·)).or (sub.pending.get key) := by
  unfold StateSubscription.notify
  by_cases same : next = sub.previous
  · have unchanged : (next.get key).filter (next.value key ≠ ·) = none := by
      cases found : next.get key with
      | none => rfl
      | some value => simp [RuleState.value, found]
    rw [if_pos same, ← same, unchanged, Option.none_or]
  · rw [if_neg same]
    dsimp only
    rw [OrderedMap.get_setAll _ (changes sub.previous next).nodup, ← get_changes]
    rfl

@[simp] theorem previous_notify [DecidableEq V] (sub : StateSubscription V) (next : RuleState V) :
    (sub.notify next).previous = next := by
  unfold StateSubscription.notify
  split
  · rename_i same
    exact same.symm
  · rfl

namespace MirroredFrame

variable (entityId : String)

/-- What the frame reads when all messages and the pending changes have come. -/
def told (s : MirroredFrame V) (key : String) : Option V :=
  ((s.host.pending.get key).or ((s.stateMirror.setAll s.port).get key)).join

def UpToDate (s : MirroredFrame V) : Prop := ∀ key, s.told key = s.current entityId key

/-- What holds at all times. -/
structure Subscribed (s : MirroredFrame V) : Prop where
  previous : s.host.previous = s.store.ruleState entityId
  scheduled : s.host.flushScheduled = false → s.host.pending = .empty

section Steps

variable {s : MirroredFrame V}

theorem subscribed_register (store : AutomationStateStore V) :
    Subscribed entityId (register entityId store) := ⟨rfl, fun _ => rfl⟩

theorem Subscribed.flush (subscribed : Subscribed entityId s) : Subscribed entityId s.flush := by
  unfold MirroredFrame.flush
  split
  · exact ⟨subscribed.previous, fun _ => rfl⟩
  · exact subscribed

theorem Subscribed.message (subscribed : Subscribed entityId s) :
    Subscribed entityId s.message := by
  unfold MirroredFrame.message
  split
  · exact subscribed
  · exact ⟨subscribed.previous, subscribed.scheduled⟩

/-- A flush moves what is pending onto the port. -/
theorem told_flush (s : MirroredFrame V) (key : String) : s.flush.told key = s.told key := by
  unfold MirroredFrame.flush
  split
  · unfold told
    rw [OrderedMap.setAll, List.foldl_append]
    change (Option.or none (((s.stateMirror.setAll s.port).setAll s.host.pending.entries).get
      key)).join = _
    rw [OrderedMap.get_setAll _ s.host.pending.nodup]
    rfl
  · rfl

@[simp] theorem store_flush (s : MirroredFrame V) : s.flush.store = s.store := by
  unfold flush
  split <;> rfl

@[simp] theorem store_message (s : MirroredFrame V) : s.message.store = s.store := by
  unfold message
  split <;> rfl

theorem told_message (s : MirroredFrame V) (key : String) : s.message.told key = s.told key := by
  unfold MirroredFrame.message
  split
  · rfl
  · rename_i first value rest there
    unfold told
    rw [there]
    rfl

/-- In a settled frame there is nothing to be told. -/
theorem told_settled (subscribed : Subscribed entityId s) (settled : s.Settled) :
    s.told = s.read := by
  funext key
  unfold told read
  rw [subscribed.scheduled settled.1, settled.2]
  rfl

/-- A value of the automation is an entry of its state. -/
theorem has_of_current {key : String} (valued : s.current entityId key ≠ none) :
    (s.store.ruleState entityId).has key = true := by
  unfold current RuleState.value at valued
  rw [OrderedMap.has]
  cases found : (s.store.ruleState entityId).get key with
  | none => exact absurd (congrArg Option.join found) valued
  | some value => rfl

variable [DecidableEq V]

theorem Subscribed.written (subscribed : Subscribed entityId s) (store : AutomationStateStore V) :
    Subscribed entityId (s.written entityId store) := by
  refine ⟨previous_notify _ _, ?_⟩
  unfold MirroredFrame.written StateSubscription.notify
  split
  · exact subscribed.scheduled
  · dsimp only
    intro unscheduled
    rw [Bool.or_eq_false_iff, decide_eq_false_iff_not, Nat.pos_iff_ne_zero, not_not] at unscheduled
    exact OrderedMap.ext (List.length_eq_zero_iff.mp unscheduled.2)

theorem Subscribed.step (subscribed : Subscribed entityId s) (e : MirrorEvent V) :
    Subscribed entityId (s.step entityId e) := by
  cases e with
  | setRuleState ruleId key value => exact subscribed.written entityId _
  | initRuleState ruleId state => exact subscribed.written entityId _
  | clearRuleState ruleId => exact subscribed.written entityId _
  | flush => exact subscribed.flush
  | message => exact subscribed.message

/-- The frame will have been told of all values that there are now; of the others it was told
what it was. -/
theorem told_written (subscribed : Subscribed entityId s) (upToDate : s.UpToDate entityId)
    (store : AutomationStateStore V) (key : String) :
    (s.written entityId store).told key =
      ((store.ruleState entityId).get key).elim (s.current entityId key) id := by
  have before := upToDate key
  unfold told at before
  unfold told MirroredFrame.written
  dsimp only
  rw [get_pending_notify, subscribed.previous]
  cases (store.ruleState entityId).get key with
  | none => exact before
  | some value =>
      by_cases same : (s.store.ruleState entityId).value key = value
      · rw [Option.filter_some_neg (by simpa using same), Option.none_or, before]
        exact same
      · rw [Option.filter_some_pos (by simpa using same), Option.some_or]
        rfl

/-- A write keeps the frame up to date if it takes away no value. -/
theorem upToDate_written_iff (subscribed : Subscribed entityId s)
    (upToDate : s.UpToDate entityId) (store : AutomationStateStore V) :
    (s.written entityId store).UpToDate entityId ↔
      ∀ key, s.current entityId key ≠ none → (store.ruleState entityId).has key = true := by
  refine forall_congr' fun key => ?_
  rw [told_written entityId subscribed upToDate]
  unfold current MirroredFrame.written RuleState.value
  rw [OrderedMap.has]
  dsimp only
  cases (store.ruleState entityId).get key with
  | none => simp
  | some value => simp

/-- The guard is what each event needs. -/
theorem keeps_iff (subscribed : Subscribed entityId s) (upToDate : s.UpToDate entityId)
    (e : MirrorEvent V) : Keeps entityId s e ↔ (s.step entityId e).UpToDate entityId := by
  have written := upToDate_written_iff entityId subscribed upToDate
  cases e with
  | setRuleState ruleId key value =>
      refine iff_of_true trivial ((written _).mpr fun other valued => ?_)
      have there := has_of_current entityId valued
      rw [AutomationStateStore.ruleState_setRuleState]
      split
      · rename_i own
        rw [OrderedMap.has, OrderedMap.get_set, ← own]
        split
        · rfl
        · exact there
      · exact there
  | initRuleState ruleId state =>
      refine Iff.trans ?_ (written _).symm
      rw [AutomationStateStore.ruleState_initRuleState]
      by_cases own : entityId = ruleId
      · rw [if_pos own]
        exact ⟨fun keeps => keeps own.symm, fun keeps _ => keeps⟩
      · rw [if_neg own]
        exact iff_of_true (fun same => absurd same.symm own) fun _ => has_of_current entityId
  | clearRuleState ruleId =>
      refine Iff.trans ?_ (written _).symm
      rw [AutomationStateStore.ruleState_clearRuleState]
      by_cases own : entityId = ruleId
      · rw [if_pos own]
        constructor
        · exact fun keeps key valued => absurd (keeps own.symm key) valued
        · exact fun keeps _ key => by_contra fun valued => Bool.false_ne_true (keeps key valued)
      · rw [if_neg own]
        exact iff_of_true (fun same => absurd same.symm own) fun _ => has_of_current entityId
  | flush =>
      refine iff_of_true trivial fun key => (told_flush s key).trans ((upToDate key).trans ?_)
      rw [current, current, MirroredFrame.step, store_flush]
  | message =>
      refine iff_of_true trivial fun key => (told_message s key).trans ((upToDate key).trans ?_)
      rw [current, current, MirroredFrame.step, store_message]

/-- **What is told.**  After every part of a run the frame has been told the state, or is about
to be, if and only if no write of the run takes away a value. -/
theorem upToDate_iff_along (store : AutomationStateStore V) (es : List (MirrorEvent V)) :
    (∀ p, p <+: es →
        (run (step entityId) (register entityId store) p).UpToDate entityId) ↔
      Along (step entityId) (Keeps entityId) (register entityId store) es := by
  refine invariant_iff_along (Subscribed entityId) (UpToDate entityId) (Keeps entityId)
    (fun s e holds => holds.step entityId e)
    (fun s e subscribed upToDate => keeps_iff entityId subscribed upToDate e)
    (subscribed_register entityId store) (fun key => rfl) es

/-! ## When all has come -/

/-- The flush that is scheduled, and then every message. -/
theorem exists_settled (s : MirroredFrame V) :
    ∃ fs : List (MirrorEvent V), (∀ f ∈ fs, f.isWrite = false) ∧
      (run (step entityId) s fs).Settled := by
  have flushed : s.flush.host.flushScheduled = false := by
    unfold flush
    split
    · rfl
    · rename_i unscheduled
      exact eq_false_of_ne_true unscheduled
  have delivered : ∀ (port : List (String × Option V)) (s : MirroredFrame V), s.port = port →
      s.host.flushScheduled = false →
        ∃ fs : List (MirrorEvent V), (∀ f ∈ fs, f.isWrite = false) ∧
          (run (step entityId) s fs).Settled := by
    intro port
    induction port with
    | nil => exact fun s none' unscheduled => ⟨[], by simp, unscheduled, none'⟩
    | cons first rest ih =>
        intro s there unscheduled
        have host : s.message.host = s.host := by
          unfold message
          rw [there]
        have port : s.message.port = rest := by
          unfold message
          rw [there]
        obtain ⟨fs, delivery, settled⟩ := ih s.message port (by rw [host, unscheduled])
        exact ⟨.message :: fs, List.forall_mem_cons.mpr ⟨rfl, delivery⟩, settled⟩
  obtain ⟨fs, delivery, settled⟩ := delivered _ s.flush rfl flushed
  exact ⟨.flush :: fs, List.forall_mem_cons.mpr ⟨rfl, delivery⟩, settled⟩

/-- What is no write changes neither what the frame is told nor what there is. -/
theorem run_delivery {fs : List (MirrorEvent V)} (delivery : ∀ f ∈ fs, f.isWrite = false)
    (s : MirroredFrame V) :
    (run (step entityId) s fs).told = s.told ∧ (run (step entityId) s fs).store = s.store := by
  induction fs generalizing s with
  | nil => exact ⟨rfl, rfl⟩
  | cons f fs ih =>
      rw [List.forall_mem_cons] at delivery
      obtain ⟨told, store⟩ := ih delivery.2 (s.step entityId f)
      rw [run_cons, told, store]
      cases f with
      | flush => exact ⟨funext (told_flush s), store_flush s⟩
      | message => exact ⟨funext (told_message s), store_message s⟩
      | setRuleState ruleId key value => cases delivery.1
      | initRuleState ruleId state => cases delivery.1
      | clearRuleState ruleId => cases delivery.1

/-- **Convergence.**  After every part of a run, once the flushes have run and the messages have
come, the frame reads the state in the store, if and only if no write of the run takes away a
value. -/
theorem mirror_converges_iff (store : AutomationStateStore V) (es : List (MirrorEvent V)) :
    (∀ p, p <+: es → ∀ fs : List (MirrorEvent V), (∀ f ∈ fs, f.isWrite = false) →
        (run (step entityId) (register entityId store) (p ++ fs)).Settled →
          (run (step entityId) (register entityId store) (p ++ fs)).Converged entityId) ↔
      Along (step entityId) (Keeps entityId) (register entityId store) es := by
  rw [← upToDate_iff_along]
  refine forall_congr' fun p => forall_congr' fun _ => ?_
  have subscribed (es : List (MirrorEvent V)) :
      Subscribed entityId (run (step entityId) (register entityId store) es) :=
    run_invariant (fun s e (holds : Subscribed entityId s) => holds.step entityId e)
      (subscribed_register entityId store) es
  -- settled or not, what is told and what there is stay the same
  have same {fs : List (MirrorEvent V)} (delivery : ∀ f ∈ fs, f.isWrite = false)
      (settled : (run (step entityId) (register entityId store) (p ++ fs)).Settled) :
      (run (step entityId) (register entityId store) (p ++ fs)).Converged entityId ↔
        (run (step entityId) (register entityId store) p).UpToDate entityId := by
    have reads := told_settled entityId (subscribed (p ++ fs)) settled
    unfold Converged UpToDate current
    rw [← reads, run_append]
    obtain ⟨told, there⟩ := run_delivery entityId delivery
      (run (step entityId) (register entityId store) p)
    rw [told, there]
  constructor
  · intro converges
    obtain ⟨fs, delivery, settled⟩ := exists_settled entityId
      (run (step entityId) (register entityId store) p)
    rw [← run_append] at settled
    exact (same delivery settled).mp (converges fs delivery settled)
  · intro upToDate fs delivery settled
    exact (same delivery settled).mpr upToDate

end Steps

/-- A rule's state is cleared: no flush is scheduled, and the frame reads what it last read. -/
theorem cleared_not_converged :
    ¬∀ (entityId : String) (store : AutomationStateStore Nat) (es : List (MirrorEvent Nat)),
      (run (step entityId) (register entityId store) es).Settled →
        (run (step entityId) (register entityId store) es).Converged entityId := by
  intro converges
  have settled := converges "porch" ⟨.set .empty "porch" (.set .empty "temp" (some 22))⟩
    [.clearRuleState "porch"] (by decide)
  exact absurd (settled "temp") (by decide)

end MirroredFrame

end Mirror

end Aeolus.Frontend
