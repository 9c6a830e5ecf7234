/-
# Aeolus.Frontend.CommandActivity — commands as the live feed tells them

`frontend/src/store/command-activity-store.ts`.  `fold` puts one message into the activity of
its command.  A state that is already among the transitions is not added again, and the other
fields come from the messages that carry them; but `lifecycleState` follows every message, also
one that was delivered before.

The messages of a command are its timeline (`run_announced`).  When some of them come again,
the activity is that of the timeline with the state of the last delivery (`assemble_redelivered`),
so it is the same if and only if the last delivery was of the newest (`redelivery_iff`).
-/
import Aeolus.Automations.CommandBroadcast

namespace Aeolus.Frontend

open Aeolus.Automations Aeolus.Theory

structure CommandLifecycleMessage where
  commandId : String
  targetDeviceId : String
  actionType : String
  effectiveTier : ConfirmationTier
  state : CommandLifecycleState
  timestamp : Nat
  terminal : Bool
  ruleId : Option String := none
  executionId : Option String := none
  correlationId : Option String := none
  fromState : Option CommandLifecycleState := none
  success : Option Bool := none
  failureKind : Option CommandFailureReason := none
  error : Option String := none
  deriving DecidableEq

structure CommandActivityTransition where
  toState : CommandLifecycleState
  timestamp : Nat
  fromState : Option CommandLifecycleState
  deriving DecidableEq

structure CommandActivity where
  commandId : String
  targetDeviceId : String
  actionType : String
  effectiveTier : ConfirmationTier
  lifecycleState : CommandLifecycleState
  requestedAt : Nat
  transitions : List CommandActivityTransition
  executionId : Option String
  correlationId : Option String
  terminalAt : Option Nat := none
  success : Option Bool := none
  failureKind : Option CommandFailureReason := none
  error : Option String := none
  deriving DecidableEq

/-- `MAX_ACTIVITY_PER_RULE` -/
def maxActivityPerRule : Nat := 10

structure CommandActivityState where
  /-- newest first, per rule -/
  activityByRule : OrderedMap String (List CommandActivity) := .empty

namespace CommandLifecycleMessage

/-- The event of the backend, as the browser gets it. -/
def ofEvent (event : CommandLifecycleTransitionEvent) : CommandLifecycleMessage :=
  { commandId := event.commandId
    targetDeviceId := event.targetDeviceId
    actionType := event.actionType
    effectiveTier := event.effectiveTier
    state := event.state
    timestamp := event.timestamp
    terminal := event.terminal
    ruleId := event.ruleId
    executionId := event.executionId
    correlationId := event.correlationId
    fromState := event.fromState
    success := event.success
    failureKind := event.failureKind
    error := event.error }

def transition (message : CommandLifecycleMessage) : CommandActivityTransition :=
  ⟨message.state, message.timestamp, message.fromState⟩

/-- The activity of a command that was not known. -/
def start (message : CommandLifecycleMessage) : CommandActivity :=
  { commandId := message.commandId
    targetDeviceId := message.targetDeviceId
    actionType := message.actionType
    effectiveTier := message.effectiveTier
    lifecycleState := message.state
    requestedAt := message.timestamp
    transitions := []
    executionId := message.executionId
    correlationId := message.correlationId }

end CommandLifecycleMessage

def fold (existing : Option CommandActivity) (message : CommandLifecycleMessage) :
    CommandActivity :=
  let base := existing.getD message.start
  let alreadyRecorded := base.transitions.any fun entry => entry.toState = message.state
  { base with
    lifecycleState := message.state
    transitions :=
      if alreadyRecorded then base.transitions else base.transitions ++ [message.transition]
    terminalAt := if message.terminal then some message.timestamp else base.terminalAt
    success := message.success <|> base.success
    failureKind := message.failureKind <|> base.failureKind
    error := message.error <|> base.error }

namespace CommandActivityState

variable (s : CommandActivityState)

/-- What a message makes of the activity of its rule. -/
def next (current : List CommandActivity) (message : CommandLifecycleMessage) :
    List CommandActivity :=
  match current.findIdx? fun entry => entry.commandId = message.commandId with
  | some index => (fold current[index]? message :: current.eraseIdx index).take maxActivityPerRule
  | none => (fold none message :: current).take maxActivityPerRule

def recordTransition (message : CommandLifecycleMessage) : CommandActivityState :=
  match message.ruleId with
  | none => s
  | some ruleId =>
      if ruleId = "" ∨ message.commandId = "" then s
      else
        let current := (s.activityByRule.get ruleId).getD []
        { s with activityByRule := s.activityByRule.set ruleId (next current message) }

def clearRuleActivity (ruleId : String) : CommandActivityState :=
  { s with activityByRule := s.activityByRule.delete ruleId }

inductive Event where
  | recordTransition (message : CommandLifecycleMessage)
  | clearRuleActivity (ruleId : String)

def step (s : CommandActivityState) : Event → CommandActivityState
  | .recordTransition message => s.recordTransition message
  | .clearRuleActivity ruleId => s.clearRuleActivity ruleId

/-- The activity of a command, in the list of a rule. -/
def activity (ruleId commandId : String) : Option CommandActivity :=
  (s.activityByRule.get ruleId).bind fun entries =>
    entries.find? fun entry => entry.commandId = commandId

end CommandActivityState

/-! ## Redelivery -/

/-- `d` delivers `t` in order, and between any of what was delivered before. -/
inductive Redelivered {α : Type} : List α → List α → Prop where
  | nil : Redelivered [] []
  | next {t d : List α} (m : α) (before : Redelivered t d) : Redelivered (t ++ [m]) (d ++ [m])
  | again {t d : List α} {m : α} (before : Redelivered t d) (known : m ∈ t) :
      Redelivered t (d ++ [m])

theorem Redelivered.subset {α : Type} {t d : List α} (redelivered : Redelivered t d) : d ⊆ t := by
  induction redelivered with
  | nil => exact List.Subset.refl []
  | next m _ ih =>
      exact List.append_subset.mpr ⟨List.subset_append_of_subset_left _ ih,
        List.subset_append_right _ _⟩
  | again _ known ih => exact List.append_subset.mpr ⟨ih, by simpa using known⟩

theorem Redelivered.nil_iff {α : Type} {t d : List α} (redelivered : Redelivered t d) :
    d = [] ↔ t = [] := by
  induction redelivered with
  | nil => exact Iff.rfl
  | next => simp
  | again _ known => simp [List.ne_nil_of_mem known]

/-- The activity that messages of one command make. -/
def assemble (messages : List CommandLifecycleMessage) : Option CommandActivity :=
  messages.foldl (fun existing message => some (fold existing message)) none

theorem assemble_snoc (messages : List CommandLifecycleMessage) (m : CommandLifecycleMessage) :
    assemble (messages ++ [m]) = some (fold (assemble messages) m) := by
  rw [assemble, List.foldl_append]
  rfl

theorem assemble_eq_none {messages : List CommandLifecycleMessage} :
    assemble messages = none ↔ messages = [] := by
  rcases List.eq_nil_or_concat' messages with rfl | ⟨front, last, rfl⟩
  · exact iff_of_true rfl rfl
  · rw [assemble_snoc]
    simp

/-- What is compared of two activities. -/
def CommandActivity.outline (activity : CommandActivity) :=
  (activity.lifecycleState, activity.transitions, activity.terminalAt, activity.success,
    activity.failureKind, activity.error)

/-- It says nothing of an outcome. -/
structure CommandLifecycleMessage.Silent (m : CommandLifecycleMessage) : Prop where
  terminal : m.terminal = false
  success : m.success = none
  failureKind : m.failureKind = none
  error : m.error = none

/-- `fold` does not read the state it replaces. -/
theorem fold_at (a : CommandActivity) (state : CommandLifecycleState)
    (m : CommandLifecycleMessage) :
    fold (some { a with lifecycleState := state }) m = fold (some a) m := rfl

theorem fold_transitions_mem (existing : Option CommandActivity) (m : CommandLifecycleMessage) :
    ∃ entry ∈ (fold existing m).transitions, entry.toState = m.state := by
  unfold fold
  dsimp only
  split
  · rename_i recorded
    simpa using recorded
  · exact ⟨m.transition, by simp, rfl⟩

theorem fold_transitions_mono (a : CommandActivity) (m : CommandLifecycleMessage)
    {entry : CommandActivityTransition} (member : entry ∈ a.transitions) :
    entry ∈ (fold (some a) m).transitions := by
  unfold fold
  dsimp only [Option.getD]
  split
  · exact member
  · exact List.mem_append_left _ member

/-- A state that was delivered is recorded. -/
theorem assemble_recorded {t : List CommandLifecycleMessage} {a : CommandActivity}
    (assembled : assemble t = some a) {m : CommandLifecycleMessage} (member : m ∈ t) :
    ∃ entry ∈ a.transitions, entry.toState = m.state := by
  induction t using List.reverseRecOn generalizing a with
  | nil => exact absurd member List.not_mem_nil
  | append_singleton front last ih =>
      rw [assemble_snoc] at assembled
      cases assembled
      rcases List.mem_append.mp member with early | final
      · cases known : assemble front with
        | none =>
            rw [assemble_eq_none.mp known] at early
            exact absurd early List.not_mem_nil
        | some b =>
            obtain ⟨entry, old, same⟩ := ih known early
            exact ⟨entry, fold_transitions_mono b last old, same⟩
      · rw [List.mem_singleton.mp final]
        exact fold_transitions_mem _ last

/-- A message whose state is recorded. -/
theorem fold_recorded {a : CommandActivity} {m : CommandLifecycleMessage}
    (recorded : ∃ entry ∈ a.transitions, entry.toState = m.state) :
    fold (some a) m =
      { a with
        lifecycleState := m.state
        terminalAt := if m.terminal then some m.timestamp else a.terminalAt
        success := m.success <|> a.success
        failureKind := m.failureKind <|> a.failureKind
        error := m.error <|> a.error } := by
  have known : (a.transitions.any fun entry => entry.toState = m.state) = true := by
    simpa using recorded
  simp only [fold, Option.getD_some, known, if_true]

/-- What is delivered again moves the state, and nothing else. -/
theorem fold_again {t : List CommandLifecycleMessage} (silent : ∀ m ∈ t.dropLast, m.Silent)
    {a : CommandActivity} (assembled : assemble t = some a) {m : CommandLifecycleMessage}
    (member : m ∈ t) : fold (some a) m = { a with lifecycleState := m.state } := by
  rw [fold_recorded (assemble_recorded assembled member)]
  rcases List.eq_nil_or_concat' t with rfl | ⟨front, last, rfl⟩
  · exact absurd member List.not_mem_nil
  rw [List.dropLast_concat] at silent
  rcases List.mem_append.mp member with early | final
  · obtain ⟨terminal, success, failureKind, error⟩ := silent m early
    simp [terminal, success, failureKind, error]
  · rw [List.mem_singleton.mp final]
    rw [assemble_snoc] at assembled
    cases assembled
    cases terminal : last.terminal <;> cases success : last.success <;>
      cases failureKind : last.failureKind <;> cases error : last.error <;>
      simp [fold, terminal, success, failureKind, error]

/-- **Redelivery.**  The activity is that of the timeline, with the state of the last delivery. -/
theorem assemble_redelivered {t d : List CommandLifecycleMessage}
    (redelivered : Redelivered t d) (silent : ∀ m ∈ t.dropLast, m.Silent) :
    assemble d = (assemble t).map fun a =>
      { a with lifecycleState := (d.getLast?.map (·.state)).getD a.lifecycleState } := by
  induction redelivered with
  | nil => rfl
  | @next t d m before ih =>
      rw [List.dropLast_concat] at silent
      have earlier := ih fun m' member => silent m' (List.mem_of_mem_dropLast member)
      rw [assemble_snoc, assemble_snoc, earlier, Option.map_some, List.getLast?_concat]
      cases assemble t with
      | none => rfl
      | some a => rfl
  | @again t d m before known ih =>
      rw [assemble_snoc, ih silent, List.getLast?_concat]
      cases assembled : assemble t with
      | none =>
          rw [assemble_eq_none.mp assembled] at known
          exact absurd known List.not_mem_nil
      | some a =>
          rw [Option.map_some, Option.map_some, fold_at, fold_again silent assembled known]
          rfl

/-- States that all differ are all recorded, in order. -/
theorem assemble_transitions {t : List CommandLifecycleMessage}
    (climbs : t.Pairwise fun a b => a.state.rank < b.state.rank) {a : CommandActivity}
    (assembled : assemble t = some a) : a.transitions = t.map (·.transition) := by
  induction t using List.reverseRecOn generalizing a with
  | nil => cases assembled
  | append_singleton front last ih =>
      rw [assemble_snoc] at assembled
      cases assembled
      obtain ⟨before, -, below⟩ := List.pairwise_append.mp climbs
      have fresh : ∀ m ∈ front, m.state ≠ last.state := by
        intro m early same
        have lower := below m early last (by simp)
        rw [same] at lower
        exact lt_irrefl _ lower
      have recorded : ((assemble front).getD last.start).transitions =
          front.map (·.transition) := by
        cases known : assemble front with
        | none =>
            rw [assemble_eq_none.mp known]
            rfl
        | some b => exact ih before known
      have unknown : ((front.map (·.transition)).any fun entry => entry.toState = last.state) =
          false := by
        simpa [CommandLifecycleMessage.transition] using fresh
      simp only [fold, recorded, unknown, Bool.false_eq_true, if_false, List.map_append,
        List.map_singleton]

theorem getLast?_eq_of_state {t d : List CommandLifecycleMessage}
    (climbs : t.Pairwise fun a b => a.state.rank < b.state.rank) (redelivered : Redelivered t d)
    (same : d.getLast?.map (·.state) = t.getLast?.map (·.state)) : d.getLast? = t.getLast? := by
  cases last : t.getLast? with
  | none =>
      rw [List.getLast?_eq_none_iff] at last
      rw [List.getLast?_eq_none_iff, redelivered.nil_iff, last]
  | some m =>
      rw [last, Option.map_some, Option.map_eq_some_iff] at same
      obtain ⟨m', final, state⟩ := same
      rw [final]
      have states : (t.map (·.state)).Nodup :=
        List.pairwise_map.mpr (climbs.imp fun below same => (same ▸ below).false)
      have known := redelivered.subset (List.mem_of_getLast? final)
      exact congrArg some
        (List.inj_on_of_nodup_map states known (List.mem_of_getLast? last) state)

/-- The activity is the same when the last delivery is of the newest message. -/
theorem outline_eq_iff {t d : List CommandLifecycleMessage} (redelivered : Redelivered t d)
    (silent : ∀ m ∈ t.dropLast, m.Silent)
    (climbs : t.Pairwise fun a b => a.state.rank < b.state.rank) :
    (assemble d).map (·.outline) = (assemble t).map (·.outline) ↔ d.getLast? = t.getLast? := by
  have assembled := assemble_redelivered redelivered silent
  rcases List.eq_nil_or_concat' t with rfl | ⟨front, last, rfl⟩
  · rw [redelivered.nil_iff.mpr rfl]
    exact iff_of_true rfl rfl
  cases final : d.getLast? with
  | none =>
      have none := redelivered.nil_iff.mp (List.getLast?_eq_none_iff.mp final)
      exact absurd none (by simp)
  | some m =>
      rw [final] at assembled
      rw [assembled, assemble_snoc, Option.map_some, Option.map_some, Option.map_some]
      constructor
      · intro same
        rw [← final]
        refine getLast?_eq_of_state climbs redelivered ?_
        have states : m.state = last.state := congrArg Prod.fst (Option.some.inj same)
        simp [final, states]
      · intro same
        obtain rfl : m = last := by simpa using same
        rfl

/-! ## The list of a rule -/

section List

theorem fold_commandId {existing : Option CommandActivity} {m : CommandLifecycleMessage}
    (own : ∀ a, existing = some a → a.commandId = m.commandId) :
    (fold existing m).commandId = m.commandId := by
  cases existing with
  | none => rfl
  | some a => exact own a rfl

theorem find?_eraseIdx {α : Type} {p : α → Bool} {l : List α} {i : Nat} {a : α}
    (there : l[i]? = some a) (other : p a = false) : (l.eraseIdx i).find? p = l.find? p := by
  induction l generalizing i with
  | nil => cases there
  | cons b l ih =>
      cases i with
      | zero =>
          obtain rfl : b = a := Option.some.inj there
          rw [List.eraseIdx_cons_zero, List.find?_cons_of_neg (by simp [other])]
      | succ i =>
          rw [List.eraseIdx_cons_succ, List.find?_cons, List.find?_cons, ih there]

/-- The command of the message goes first, and the others keep their order. -/
theorem next_eq (current : List CommandActivity) (m : CommandLifecycleMessage) :
    ∃ rest, CommandActivityState.next current m =
        (fold (current.find? fun entry => entry.commandId = m.commandId) m :: rest).take
          maxActivityPerRule ∧
      ∀ c, c ≠ m.commandId → rest.find? (fun entry => entry.commandId = c) =
        current.find? fun entry => entry.commandId = c := by
  unfold CommandActivityState.next
  have found := @List.find?_eq_bind_findIdx?_getElem? _ current
    fun entry => entry.commandId = m.commandId
  cases here : current.findIdx? fun entry => entry.commandId = m.commandId with
  | none =>
      rw [here, Option.bind_none] at found
      rw [found]
      exact ⟨current, rfl, fun _ _ => rfl⟩
  | some i =>
      rw [here, Option.bind_some] at found
      rw [found]
      refine ⟨current.eraseIdx i, rfl, fun c other => ?_⟩
      obtain ⟨bound, own, -⟩ := List.findIdx?_eq_some_iff_getElem.mp here
      refine find?_eraseIdx (List.getElem?_eq_getElem bound) ?_
      have own : current[i].commandId = m.commandId := by simpa using own
      simpa [own] using fun same : m.commandId = c => other same.symm

theorem folded_commandId (current : List CommandActivity) (m : CommandLifecycleMessage) :
    (fold (current.find? fun entry => entry.commandId = m.commandId) m).commandId =
      m.commandId :=
  fold_commandId fun a found => by simpa using List.find?_some found

theorem next_own (current : List CommandActivity) (m : CommandLifecycleMessage) :
    (CommandActivityState.next current m).find? (fun entry => entry.commandId = m.commandId) =
      some (fold (current.find? fun entry => entry.commandId = m.commandId) m) := by
  obtain ⟨rest, next, -⟩ := next_eq current m
  rw [next, maxActivityPerRule, List.take_succ_cons, List.find?_cons_of_pos]
  simpa using folded_commandId current m

/-- Another command stays as it is, or is dropped. -/
theorem next_other {c : String} {current : List CommandActivity} {m : CommandLifecycleMessage}
    (other : c ≠ m.commandId) :
    (CommandActivityState.next current m).find? (fun entry => entry.commandId = c) =
        current.find? (fun entry => entry.commandId = c) ∨
      (CommandActivityState.next current m).find? (fun entry => entry.commandId = c) = none := by
  obtain ⟨rest, next, kept⟩ := next_eq current m
  rw [next]
  cases found : List.find? (fun entry => decide (entry.commandId = c)) (List.take
      maxActivityPerRule
      (fold (current.find? fun entry => entry.commandId = m.commandId) m :: rest)) with
  | none => exact .inr rfl
  | some a =>
      left
      have whole := (List.take_prefix _ _).find?_eq_some found
      rw [List.find?_cons_of_neg, kept c other] at whole
      · exact whole.symm
      · simpa [folded_commandId] using fun same : m.commandId = c => other same.symm

end List

/-! ## Runs of the store -/

namespace CommandActivityState

variable (s : CommandActivityState)

/-- The messages of a command, as they were delivered. -/
def deliveries (commandId : String) (events : List Event) : List CommandLifecycleMessage :=
  events.filterMap fun
    | .recordTransition message => if message.commandId = commandId then some message else none
    | .clearRuleActivity _ => none

/-- From its first message on, the command stays among those of its rule. -/
def Retained (ruleId commandId : String) (events : List Event) : Prop :=
  ∀ p, p <+: events → deliveries commandId p ≠ [] →
    ((run step {} p).activity ruleId commandId).isSome = true

instance (ruleId commandId : String) (events : List Event) :
    Decidable (Retained ruleId commandId events) :=
  decidable_of_iff (∀ p ∈ events.inits, deliveries commandId p ≠ [] →
    ((run step {} p).activity ruleId commandId).isSome = true) (by simp [Retained])

theorem activity_set (ruleId other commandId : String) (entries : List CommandActivity) :
    activity ⟨s.activityByRule.set other entries⟩ ruleId commandId =
      if ruleId = other then entries.find? fun entry => entry.commandId = commandId
      else s.activity ruleId commandId := by
  unfold activity
  rw [OrderedMap.get_set]
  split <;> rfl

theorem activity_eq (ruleId commandId : String) : s.activity ruleId commandId =
    ((s.activityByRule.get ruleId).getD []).find? fun entry => entry.commandId = commandId := by
  unfold activity
  cases s.activityByRule.get ruleId <;> rfl

/-- A message of the command itself. -/
theorem activity_own {ruleId : String} {m : CommandLifecycleMessage}
    (ruled : m.ruleId = some ruleId) (given : ruleId ≠ "") (named : m.commandId ≠ "") :
    (s.recordTransition m).activity ruleId m.commandId =
      some (fold (s.activity ruleId m.commandId) m) := by
  unfold recordTransition
  rw [ruled]
  dsimp only
  rw [if_neg (by simp [given, named]), activity_set, if_pos rfl, next_own, activity_eq]

/-- A message of another command, or of another rule. -/
theorem activity_other {ruleId commandId : String} {m : CommandLifecycleMessage}
    (other : m.commandId ≠ commandId ∨ m.ruleId ≠ some ruleId ∨ ruleId = "" ∨ commandId = "") :
    (s.recordTransition m).activity ruleId commandId = s.activity ruleId commandId ∨
      (s.recordTransition m).activity ruleId commandId = none := by
  unfold recordTransition
  split
  · exact .inl rfl
  · rename_i id ruled
    split
    · exact .inl rfl
    · rename_i valid
      rw [not_or] at valid
      dsimp only
      rw [activity_set]
      split
      · rename_i same
        have differ : commandId ≠ m.commandId := by
          rintro rfl
          rcases other with other | other | other | other
          · exact other rfl
          · exact other (same ▸ ruled)
          · exact valid.1 (same ▸ other)
          · exact valid.2 other
        rw [activity_eq, ← same]
        exact next_other differ
      · exact .inl rfl

theorem activity_clear (ruleId other commandId : String) :
    (s.clearRuleActivity other).activity ruleId commandId = s.activity ruleId commandId ∨
      (s.clearRuleActivity other).activity ruleId commandId = none := by
  unfold activity clearRuleActivity
  rw [OrderedMap.get_delete]
  split
  · exact .inr rfl
  · exact .inl rfl

theorem deliveries_snoc (commandId : String) (events : List Event) (event : Event) :
    deliveries commandId (events ++ [event]) =
      deliveries commandId events ++ deliveries commandId [event] := List.filterMap_append

theorem Retained.initial {ruleId commandId : String} {events rest : List Event}
    (retained : Retained ruleId commandId (events ++ rest)) :
    Retained ruleId commandId events :=
  fun p before => retained p (before.trans (List.prefix_append _ _))

/-- While it is retained, the activity of a command is made of its own messages. -/
theorem activity_run {ruleId c : String} {owner : Option String} {events : List Event}
    (owned : ∀ m ∈ deliveries c events, m.ruleId.filter (· ≠ "") = owner)
    (retained : Retained ruleId c events) :
    (run step {} events).activity ruleId c = assemble (deliveries c events) ∧
      (deliveries c events ≠ [] → owner = some ruleId ∧ c ≠ "") := by
  induction events using List.reverseRecOn with
  | nil => exact ⟨rfl, fun some => absurd rfl some⟩
  | append_singleton events event ih =>
      rw [deliveries_snoc] at owned ⊢
      obtain ⟨same, known⟩ := ih (fun m member => owned m (List.mem_append_left _ member))
        retained.initial
      have there := retained (events ++ [event]) (List.prefix_refl _)
      rw [deliveries_snoc, run_append, run_cons, run_nil] at there
      rw [run_append, run_cons, run_nil]
      -- what is not about the command keeps its activity, unless it drops it
      have aside : deliveries c [event] = [] →
          ((run step {} events).step event).activity ruleId c =
              (run step {} events).activity ruleId c ∨
            ((run step {} events).step event).activity ruleId c = none →
          ((run step {} events).step event).activity ruleId c =
              assemble (deliveries c events ++ deliveries c [event]) ∧
            (deliveries c events ++ deliveries c [event] ≠ [] → owner = some ruleId ∧ c ≠ "") := by
        intro none outcome
        rw [none, List.append_nil] at there ⊢
        refine ⟨?_, known⟩
        rcases outcome with still | dropped
        · rw [still, same]
        · rw [dropped]
          by_cases nothing : deliveries c events = []
          · rw [nothing]
            rfl
          · have retained := there nothing
            rw [dropped] at retained
            cases retained
      cases event with
      | clearRuleActivity other => exact aside rfl (activity_clear _ _ _ _)
      | recordTransition m =>
          by_cases mine : m.commandId = c
          · subst mine
            have own : deliveries m.commandId [.recordTransition m] = [m] := by
              simp [deliveries]
            rw [own] at owned there ⊢
            have isOwner := owned m (by simp)
            have held := there (by simp)
            have ruled : owner = some ruleId ∧ m.commandId ≠ "" := by
              by_contra unruled
              have nothing : deliveries m.commandId events = [] :=
                not_not.mp fun some => unruled (known some)
              rw [nothing] at same
              have unheard : ((run step {} events).step (.recordTransition m)).activity ruleId
                  m.commandId = none := by
                have other : m.commandId ≠ m.commandId ∨ m.ruleId ≠ some ruleId ∨ ruleId = "" ∨
                    m.commandId = "" := by
                  by_contra all
                  push Not at all
                  obtain ⟨-, ruled, given, named⟩ := all
                  refine unruled ⟨?_, named⟩
                  rw [← isOwner, ruled]
                  simp [given]
                rcases activity_other (run step {} events) other with still | dropped
                · exact still.trans same
                · exact dropped
              rw [unheard] at held
              cases held
            obtain ⟨rule, named⟩ := ruled
            rw [rule, Option.filter_eq_some_iff] at isOwner
            refine ⟨?_, fun _ => ⟨rule, named⟩⟩
            rw [assemble_snoc, ← same]
            exact activity_own _ isOwner.1 (by simpa using isOwner.2) named
          · have none : deliveries c [.recordTransition m] = [] := by simp [deliveries, mine]
            exact aside none (activity_other _ (.inl mine))

end CommandActivityState

open CommandActivityState

/-- The durable timeline of a command, as it is broadcast. -/
def timelineOf (uuid : Nat → String) (calls : List SystemEvent) (c : String) :
    List CommandLifecycleMessage :=
  ((run (System.step uuid) {} calls).store.broadcasts c).map CommandLifecycleMessage.ofEvent

section Timeline

variable (uuid : Nat → String) (calls : List SystemEvent) (c : String)

theorem timelineOf_owned : ∃ owner, ∀ m ∈ timelineOf uuid calls c,
    m.ruleId.filter (· ≠ "") = owner := by
  have told := run_announced uuid calls c
  cases record : (run (System.step uuid) {} calls).store.records.get c with
  | none =>
      refine ⟨none, fun m member => ?_⟩
      rw [timelineOf, told.unknown record] at member
      exact absurd member List.not_mem_nil
  | some r =>
      refine ⟨r.ruleId.filter (· ≠ ""), fun m member => ?_⟩
      obtain ⟨event, there, rfl⟩ := List.mem_map.mp member
      exact told.owner r record event there

theorem timelineOf_silent : ∀ m ∈ (timelineOf uuid calls c).dropLast, m.Silent := by
  intro m member
  rw [timelineOf, ← List.map_dropLast] at member
  obtain ⟨event, early, rfl⟩ := List.mem_map.mp member
  obtain ⟨terminal, success, failureKind, error⟩ :=
    (run_announced uuid calls c).silent event early
  exact ⟨terminal, success, failureKind, error⟩

theorem timelineOf_climbs :
    (timelineOf uuid calls c).Pairwise fun a b => a.state.rank < b.state.rank :=
  List.pairwise_map.mpr (run_announced uuid calls c).climbs

theorem timelineOf_states : (timelineOf uuid calls c).map (·.state) =
    ((run (System.step uuid) {} calls).store.timeline c).map (·.toState) := by
  have rows := congrArg (List.map fun row => row.2.1) (run_announced uuid calls c).rows
  rw [List.map_map, List.map_map] at rows
  rw [timelineOf, List.map_map]
  exact rows

end Timeline

/-- For every command of every run of the system, and every delivery of its timeline with
repetitions: the transitions are the timeline's, and the activity is what it is without the
repetitions if and only if the last delivery was of the newest message. -/
theorem redelivery_iff (uuid : Nat → String) (calls : List SystemEvent) (ruleId c : String)
    (events plain : List Event) (redelivered : Redelivered (timelineOf uuid calls c)
      (deliveries c events)) (once : deliveries c plain = timelineOf uuid calls c)
    (retained : Retained ruleId c events) (retained' : Retained ruleId c plain) :
    (((run step {} events).activity ruleId c).map (·.outline) =
        ((run step {} plain).activity ruleId c).map (·.outline) ↔
      (deliveries c events).getLast? = (deliveries c plain).getLast?) ∧
    ((run step {} events).activity ruleId c).elim [] (fun a => a.transitions.map (·.toState)) =
      ((run (System.step uuid) {} calls).store.timeline c).map (·.toState) := by
  obtain ⟨owner, owned⟩ := timelineOf_owned uuid calls c
  have silent := timelineOf_silent uuid calls c
  have climbs := timelineOf_climbs uuid calls c
  have activity := (activity_run (fun m member => owned m (redelivered.subset member)) retained).1
  have activity' := (activity_run (fun m member => owned m (once ▸ member)) retained').1
  rw [activity, activity', once]
  refine ⟨outline_eq_iff redelivered silent climbs, ?_⟩
  rw [← timelineOf_states, assemble_redelivered redelivered silent]
  cases assembled : assemble (timelineOf uuid calls c) with
  | none =>
      rw [assemble_eq_none.mp assembled]
      rfl
  | some a =>
      show a.transitions.map (·.toState) = _
      rw [assemble_transitions climbs assembled, List.map_map]
      rfl

/-! ## A lamp -/

def lampEnvironment : Environment where
  handler _ := true
  physical _ := true
  ackCapability _ := none
  device _ := true
  scope _ := .unrestricted

/-- An automation switches a lamp, which proves no more than the dispatch. -/
def lampCalls : List SystemEvent :=
  [.execute lampEnvironment
      { action := { type := "toggle", target := "lamp", params := .empty }
        source := .automation "r" } 1 false false,
    .handlerSettles 0 (.returned none) 2 false]

def lampMessage (state : CommandLifecycleState) (timestamp : Nat) : CommandLifecycleMessage :=
  { commandId := "c", targetDeviceId := "lamp", actionType := "toggle", effectiveTier := .dispatch
    state := state, timestamp := timestamp, terminal := false, ruleId := some "r" }

def lampRequested : CommandLifecycleMessage := lampMessage .requested 1

def lampDispatched : CommandLifecycleMessage :=
  { lampMessage .dispatched 2 with
    terminal := true, fromState := some .requested, success := some true }

theorem lamp_timeline :
    timelineOf (fun _ => "c") lampCalls "c" = [lampRequested, lampDispatched] := by decide

def lampDeliveries (messages : List CommandLifecycleMessage) : List Event :=
  messages.map .recordTransition

/-- All of it comes twice. -/
theorem redelivery_iff_lamp :
    let events := lampDeliveries [lampRequested, lampDispatched, lampRequested, lampDispatched]
    let plain := lampDeliveries [lampRequested, lampDispatched]
    (((run step {} events).activity "r" "c").map (·.outline) =
        ((run step {} plain).activity "r" "c").map (·.outline) ↔
      (deliveries "c" events).getLast? = (deliveries "c" plain).getLast?) ∧
    ((run step {} events).activity "r" "c").elim [] (fun a => a.transitions.map (·.toState)) =
      ((run (System.step fun _ => "c") {} lampCalls).store.timeline "c").map (·.toState) := by
  refine redelivery_iff (fun _ => "c") lampCalls "r" "c" _ _ ?_ ?_ (by decide) (by decide)
  · rw [lamp_timeline]
    have once : Redelivered [lampRequested, lampDispatched] [lampRequested, lampDispatched] :=
      (Redelivered.nil.next lampRequested).next lampDispatched
    exact (once.again (m := lampRequested) (by simp)).again (by simp)
  · rw [lamp_timeline]
    decide

/-- The first message comes again, and takes the command back to it. -/
theorem requested_again :
    Redelivered (timelineOf (fun _ => "c") lampCalls "c")
        [lampRequested, lampDispatched, lampRequested] ∧
      Retained "r" "c" (lampDeliveries [lampRequested, lampDispatched, lampRequested]) ∧
      (((run step {} (lampDeliveries [lampRequested, lampDispatched, lampRequested])).activity "r"
          "c").map (·.lifecycleState) = some .requested) ∧
      ((run step {} (lampDeliveries [lampRequested, lampDispatched])).activity "r" "c").map
          (·.lifecycleState) = some .dispatched := by
  refine ⟨?_, by decide, by decide, by decide⟩
  rw [lamp_timeline]
  exact ((Redelivered.nil.next lampRequested).next lampDispatched).again (by simp)

end Aeolus.Frontend
