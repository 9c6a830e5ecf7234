/-
# Aeolus.Automations.CommandInvariant — what ties a call, its promise and its record

Three components hold a part of a command's lifecycle: the call of `execute`, the
tracker's entry, and the stored record.  `System.Inv` ties them together over any
run: while a call is under way its record is open and its promise is either still
pending or settled once, and ids drawn from `randomUUID` keep the commands apart,
so an event moves the record and the entry of one command only.

`step_inv` is assembled from one lemma per kind of change (`track`, `restore`,
`advance`, `refuse`, `enter`, `write`); an event is a composition of those.
-/
import Aeolus.Automations.CommandService

namespace Aeolus.Automations

open Aeolus.Theory
open Aeolus.Core

/-! ## What a tracked command waits for -/

/-- The resolutions a command of the tier can get. -/
structure Resolves (tier : RequiredTier) (resolution : PendingResolution) : Prop where
  target : resolution.lifecycleState = .acknowledged ∧ tier = .acknowledged ∨
    resolution.lifecycleState.isTerminal = true
  verdict : resolution.success = resolution.lifecycleState.isSuccessState

/-- The promise of a command is pending, or settled once. -/
def Waiting (command : PendingCommand) (l : View) : Prop :=
  (∃ state, l.1 = some ⟨command, state⟩ ∧ (state = .dispatched ∨ state = .acknowledged) ∧
    l.outcome = []) ∨
  l.1 = none ∧ ∃ resolution, l.outcome = [resolution] ∧ Resolves command.requiredTier resolution

namespace TrackedEntry

theorem waiting_keep {command : PendingCommand} {state : CommandLifecycleState}
    (early : state = .dispatched ∨ state = .acknowledged) {callbacks : List Callback}
    (silent : callbacks.filterMap Callback.resolution = []) :
    Waiting command (some ⟨command, state⟩, callbacks) :=
  .inl ⟨state, rfl, early, silent⟩

theorem finalize_waiting {command : PendingCommand} {state : CommandLifecycleState}
    (early : state = .dispatched ∨ state = .acknowledged) (target : CommandLifecycleState)
    (success : Bool) (error : Option String)
    (fits : target = .acknowledged ∧ command.requiredTier = .acknowledged ∨
      target.isTerminal = true) (verdict : success = target.isSuccessState) :
    Waiting command (finalize ⟨command, state⟩ target success error) := by
  unfold finalize
  split
  · exact waiting_keep early rfl
  · exact .inr ⟨rfl, _, rfl, fits, verdict⟩

theorem evaluateObservation_waiting {command : PendingCommand} {state : CommandLifecycleState}
    (early : state = .dispatched ∨ state = .acknowledged) (observed : JsonObject)
    (settled : Bool) :
    Waiting command (evaluateObservation ⟨command, state⟩ observed settled) := by
  unfold evaluateObservation
  split
  · exact waiting_keep early rfl
  · split
    · exact finalize_waiting early _ _ _ (.inr rfl) rfl
    · exact finalize_waiting early _ _ _ (.inr rfl) rfl
    · split
      · exact finalize_waiting early _ _ _ (.inr rfl) rfl
      · exact waiting_keep early rfl

/-- Reports ahead of a reaction settle nothing. -/
theorem waiting_report {command : PendingCommand} {reaction : Reaction}
    (waiting : Waiting command reaction) {reported : List Callback}
    (silent : reported.filterMap Callback.resolution = []) :
    Waiting command (reaction.1, reported ++ reaction.2) := by
  have same : View.outcome (reaction.1, reported ++ reaction.2) = View.outcome reaction := by
    simp only [View.outcome, List.filterMap_append, silent, List.nil_append]
  unfold Waiting
  rw [same]
  exact waiting

/-- What an acknowledgement makes of an entry. -/
theorem acknowledge_cases (entry : TrackedEntry) (message : AckMessage) :
    entry.acknowledge message = (entry, false) ∨
      entry.command.isAcknowledgement message = true ∧
        entry.acknowledge message = ({ entry with state := .acknowledged }, true) := by
  unfold acknowledge
  split
  · rename_i advances
    exact .inr ⟨(Bool.and_eq_true _ _ ▸ advances).1, rfl⟩
  · exact .inl rfl

theorem route_waiting {command : PendingCommand} {state : CommandLifecycleState}
    (early : state = .dispatched ∨ state = .acknowledged) (message : AckMessage) (now : Nat) :
    Waiting command (route ⟨command, state⟩ message now) := by
  unfold route
  split
  · exact finalize_waiting early _ _ _ (.inr rfl) rfl
  · obtain ⟨state', early', advanced, same⟩ : ∃ state',
        (state' = .dispatched ∨ state' = .acknowledged) ∧ ∃ advanced,
          (⟨command, state⟩ : TrackedEntry).acknowledge message = (⟨command, state'⟩, advanced) := by
      obtain same | ⟨-, same⟩ := acknowledge_cases ⟨command, state⟩ message
      · exact ⟨state, early, false, same⟩
      · exact ⟨.acknowledged, .inr rfl, true, same⟩
    rw [same]
    dsimp only
    split
    · rename_i completes
      exact finalize_waiting early' _ _ _ (.inl ⟨rfl, completes.2⟩) rfl
    · generalize hr : (if advanced = true then _ else _ : List Callback) = reported
      have silent : reported.filterMap Callback.resolution = [] := by
        rw [← hr]
        split <;> rfl
      split
      · exact waiting_keep early' silent
      · split
        · exact waiting_report (evaluateObservation_waiting early' _ true) silent
        · exact waiting_keep early' silent

end TrackedEntry

theorem Reacts.waiting {react : TrackedEntry → Reaction} (reacts : Reacts react)
    {command : PendingCommand} {state : CommandLifecycleState}
    (early : state = .dispatched ∨ state = .acknowledged) :
    Waiting command (react ⟨command, state⟩) := by
  cases reacts with
  | route message now => exact TrackedEntry.route_waiting early message now
  | observe deviceId observed =>
      show Waiting command (TrackedEntry.observe ⟨command, state⟩ deviceId observed)
      unfold TrackedEntry.observe
      split
      · exact TrackedEntry.waiting_keep early rfl
      · split
        · exact TrackedEntry.waiting_keep early rfl
        · exact TrackedEntry.evaluateObservation_waiting early observed false
  | cancel => exact .inr ⟨rfl, _, rfl, .inr rfl, rfl⟩
  | timeout => exact TrackedEntry.finalize_waiting early _ _ _ (.inr rfl) rfl

theorem localStep_waiting {command : PendingCommand} {k : String} {l : View}
    {event : TrackerEvent} (plain : event.registers = none) (waiting : Waiting command l) :
    Waiting command (localStep k l event) := by
  obtain same | ⟨none, late⟩ | ⟨react, reacts, acts⟩ := localStep_cases k l event plain
  · rw [same]
    exact waiting
  · rw [late]
    rcases waiting with ⟨state, held, -, -⟩ | ⟨-, resolution, settled, fits⟩
    · rw [none] at held
      cases held
    · exact .inr ⟨rfl, resolution, (View.outcome_late _ _ _).trans settled, fits⟩
  · rw [acts]
    obtain ⟨held, callbacks⟩ := l
    rcases waiting with ⟨state, rfl, early, pending⟩ | ⟨rfl, settled⟩
    · show Waiting command ((react _).1, callbacks ++ (react _).2)
      exact TrackedEntry.waiting_report (reacts.waiting early) pending
    · exact .inr ⟨rfl, settled⟩

/-- Nothing is known of a correlation id. -/
def Unknown (l : View) : Prop := l.1 = none ∧ l.outcome = []

theorem localStep_unknown {k : String} {l : View} {event : TrackerEvent}
    (plain : event.registers = none) (unknown : Unknown l) : Unknown (localStep k l event) := by
  obtain same | ⟨-, late⟩ | ⟨react, -, acts⟩ := localStep_cases k l event plain
  · rw [same]
    exact unknown
  · rw [late]
    exact ⟨rfl, (View.outcome_late _ _ _).trans unknown.2⟩
  · rw [acts]
    obtain ⟨held, callbacks⟩ := l
    obtain ⟨rfl, none⟩ := unknown
    exact ⟨rfl, none⟩

/-! ## What one write does to one record -/

namespace CommandHistoryStore

theorem get_transition_of_ne (s : CommandHistoryStore) (input : CommandTransitionInput)
    {c : String} (other : c ≠ input.commandId) :
    (s.transition input).records.get c = s.records.get c := by
  obtain ⟨-, same⟩ | ⟨current, -, -, -, moved⟩ := s.transition_cases input
  · rw [same]
  · rw [moved]
    exact OrderedMap.get_set_of_ne _ _ other

theorem get_transition_of_can {s : CommandHistoryStore} {input : CommandTransitionInput}
    {current : CommandRecord} (found : s.records.get input.commandId = some current)
    (open_ : current.terminalAt = none)
    (can : current.lifecycleState.canTransition input.toState = true) :
    (s.transition input).records.get input.commandId = some (current.advance input) := by
  obtain ⟨refused, -⟩ | ⟨current', found', -, -, moved⟩ := s.transition_cases input
  · rcases refused current found with completed | cannot
    · simp [open_] at completed
    · simp [can] at cannot
  · rw [found] at found'
    cases found'
    rw [moved]
    exact OrderedMap.get_set_self _ _ _

theorem transition_of_cannot {s : CommandHistoryStore} {input : CommandTransitionInput}
    {current : CommandRecord} (found : s.records.get input.commandId = some current)
    (cannot : current.lifecycleState.canTransition input.toState = false) :
    s.transition input = s := by
  obtain ⟨-, same⟩ | ⟨current', found', -, can, -⟩ := s.transition_cases input
  · exact same
  · rw [found] at found'
    cases found'
    simp [can] at cannot

end CommandHistoryStore

/-- The record of a command whose call is under way.  Only a tracked command that
waits for an observation is ever recorded as acknowledged before it completes. -/
structure OpenRecord (tier : ConfirmationTier) (r : CommandRecord) : Prop where
  incomplete : r.terminalAt = none
  early : r.lifecycleState.isTerminal = false
  acknowledged : r.lifecycleState = .acknowledged → tier = .observed
  untracked : tier = .dispatch → r.lifecycleState = .requested

theorem OpenRecord.can_fail {tier : ConfirmationTier} {r : CommandRecord}
    (open_ : OpenRecord tier r) : r.lifecycleState.canTransition .failed = true := by
  rw [CommandLifecycleState.canTransition_failed, open_.early]
  rfl

/-- A milestone write leaves the record of a tracked command open. -/
theorem openRecord_milestone {tier : ConfirmationTier} (r : CommandRecord)
    {input : CommandTransitionInput} (tracked : tier ≠ .dispatch)
    (running : input.terminal = false)
    (fits : input.toState = .dispatched ∨ input.toState = .acknowledged ∧ tier = .observed) :
    OpenRecord tier (r.advance input) where
  incomplete := by simp [CommandRecord.advance, running]
  early := by
    rcases fits with dispatched | ⟨acknowledged, -⟩
    · simp [CommandRecord.advance, dispatched]; rfl
    · simp [CommandRecord.advance, acknowledged]; rfl
  acknowledged here := by
    rcases fits with dispatched | ⟨-, observed⟩
    · simp [CommandRecord.advance, dispatched] at here
    · exact observed
  untracked dispatch := absurd dispatch tracked

/-- The record of a command is open. -/
def Open (tier : ConfirmationTier) (c : String) (s : CommandHistoryStore) : Prop :=
  ∃ r, s.records.get c = some r ∧ OpenRecord tier r

theorem Open.transition {tier : ConfirmationTier} {c : String} {s : CommandHistoryStore}
    (opened : Open tier c s) {input : CommandTransitionInput}
    (milestone : input.commandId = c → tier ≠ .dispatch ∧ input.terminal = false ∧
      (input.toState = .dispatched ∨ input.toState = .acknowledged ∧ tier = .observed)) :
    Open tier c (s.transition input) := by
  obtain ⟨r, found, opened⟩ := opened
  by_cases mine : input.commandId = c
  · subst mine
    obtain ⟨tracked, running, fits⟩ := milestone rfl
    cases can : r.lifecycleState.canTransition input.toState with
    | true =>
        exact ⟨r.advance input, CommandHistoryStore.get_transition_of_can found opened.incomplete can,
          openRecord_milestone r tracked running fits⟩
    | false =>
        rw [CommandHistoryStore.transition_of_cannot found can]
        exact ⟨r, found, opened⟩
  · exact ⟨r, (s.get_transition_of_ne input fun h => mine h.symm).trans found, opened⟩

/-! ## What every writer of the system preserves -/

section Writers

variable {P : CommandHistoryStore → Prop}
  (ofTransition : ∀ (s : CommandHistoryStore) (input : CommandTransitionInput),
    P s → P (s.transition input))

include ofTransition

theorem recordTransition_preserves {s : CommandHistoryStore} (holds : P s)
    (commandId : Option String) (throws : Bool) (input : String → CommandTransitionInput) :
    P (recordTransition s commandId throws input) := by
  unfold recordTransition
  split
  · exact holds
  · split
    · exact holds
    · exact ofTransition _ _ holds

theorem adaptTransition_preserves {s : CommandHistoryStore} (holds : P s)
    (faults : System.AdapterFaults) (event : PendingCommandTransition) :
    P (System.adaptTransition s faults event) := by
  unfold System.adaptTransition
  split
  · exact holds
  · dsimp only
    split
    · exact holds
    · split
      · split
        · exact holds
        · split
          · exact ofTransition _ _ holds
          · exact ofTransition _ _ (ofTransition _ _ holds)
      · split
        · exact holds
        · exact ofTransition _ _ holds

theorem reconcile_preserves {s : CommandHistoryStore} (holds : P s) (now : Nat) :
    P (s.reconcileInterrupted now).2 := by
  obtain ⟨inputs, same⟩ := s.reconcileInterrupted_eq_run now
  rw [same]
  exact run_invariant ofTransition holds inputs

/-- What transitions preserve and inserts preserve, every event preserves. -/
theorem step_store_preserves
    (ofCreate : ∀ (s s' : CommandHistoryStore) env a now throws,
      System.createRecord s env a now throws = some s' → P s → P s')
    (uuid : Nat → String) (s : System) (event : SystemEvent) (holds : P s.store) :
    P (s.step uuid event).store := by
  have write : ∀ (store : CommandHistoryStore) commandId throws input, P store →
      P (recordTransition store commandId throws input) :=
    fun _ commandId throws input old =>
      recordTransition_preserves ofTransition old commandId throws input
  cases event with
  | execute env request now createThrows writeThrows =>
      simp only [System.step, System.execute]
      split
      · exact holds
      · generalize accept uuid s.uuids env request = accepted
        obtain ⟨a, n⟩ := accepted
        dsimp only
        split
        · exact holds
        · rename_i store created
          have entered : P store := ofCreate _ _ _ _ _ _ created holds
          split
          · exact write _ _ _ _ entered
          · split
            · exact entered
            · exact entered
  | handlerSettles call outcome now throws =>
      simp only [System.step, System.handlerSettles]
      split
      · split
        · exact write _ _ _ _ holds
        · exact write _ _ _ _ holds
        · split
          · exact write _ _ _ _ holds
          · exact write _ _ _ _ holds
      · exact holds
  | resolutionSettles call now throws =>
      simp only [System.step, System.resolutionSettles]
      split
      · split
        · exact holds
        · exact write _ _ _ _ holds
      · exact holds
  | route message now faults =>
      have adapt : ∀ (store : CommandHistoryStore) event, P store →
          P (System.adaptTransition store faults event) :=
        fun _ event old => adaptTransition_preserves ofTransition old faults event
      exact run_invariant adapt holds _
  | observeState => exact holds
  | timer => exact holds
  | cancel => exact holds
  | restart now => exact reconcile_preserves ofTransition holds now

end Writers

/-- The adapter keeps every record open; it acknowledges observed-tier commands only. -/
theorem Open.adapt {tier : ConfirmationTier} {c : String} {s : CommandHistoryStore}
    (opened : Open tier c s) (faults : System.AdapterFaults) {event : PendingCommandTransition}
    (acknowledges : event.toState = .acknowledged)
    (mine : event.commandId = some c → tier = .observed) :
    Open tier c (System.adaptTransition s faults event) := by
  unfold System.adaptTransition
  split
  · exact opened
  · rename_i id hid
    rw [hid] at mine
    have tracked : id = c → tier ≠ .dispatch := by
      rintro rfl dispatch
      cases dispatch.symm.trans (mine rfl)
    have milestone : ∀ s : CommandHistoryStore, Open tier c s → Open tier c (s.transition
        { commandId := id, toState := event.toState, timestamp := event.timestamp, terminal := false
          details := buildCommandEvidence { reason := some (describeRung event.toState) } }) :=
      fun s opened => opened.transition fun same =>
        ⟨tracked same, rfl, .inr ⟨acknowledges, mine (congrArg some same)⟩⟩
    have implied : ∀ input : CommandTransitionInput, input.commandId = id →
        input.toState = .dispatched → input.terminal = false → Open tier c (s.transition input) :=
      fun input here dispatched running => opened.transition fun same =>
        ⟨tracked (here.symm.trans same), running, .inl dispatched⟩
    dsimp only
    split
    · exact opened
    · split
      · split
        · exact opened
        · split
          · exact implied _ rfl rfl rfl
          · exact milestone _ (implied _ rfl rfl rfl)
      · split
        · exact opened
        · exact milestone s opened

theorem Open.adaptAll {tier : ConfirmationTier} {c : String} {s : CommandHistoryStore}
    (opened : Open tier c s) (faults : System.AdapterFaults)
    {events : List PendingCommandTransition}
    (fits : ∀ event ∈ events, event.toState = .acknowledged ∧
      (event.commandId = some c → tier = .observed)) :
    Open tier c (events.foldl (fun s event => System.adaptTransition s faults event) s) := by
  induction events generalizing s with
  | nil => exact opened
  | cons event events ih =>
      obtain ⟨acknowledges, mine⟩ := fits event List.mem_cons_self
      exact ih (opened.adapt faults acknowledges mine) fun e member =>
        fits e (List.mem_cons_of_mem _ member)

/-! ## The invariant -/

/-- `id` is one of the first `n` values of `randomUUID`. -/
def Drawn (uuid : Nat → String) (n : Nat) (id : String) : Prop := ∃ m, m < n ∧ id = uuid m

theorem Drawn.mono {uuid : Nat → String} {n n' : Nat} (le : n ≤ n') {id : String}
    (drawn : Drawn uuid n id) : Drawn uuid n' id := by
  obtain ⟨m, lt, rfl⟩ := drawn
  exact ⟨m, lt.trans_le le, rfl⟩

theorem not_drawn {uuid : Nat → String} (fresh : Function.Injective uuid) {n m : Nat} (le : n ≤ m) :
    ¬ Drawn uuid n (uuid m) := by
  rintro ⟨m', lt, same⟩
  have := fresh same
  omega

/-- Every id in the store was drawn. -/
def DrawnStore (uuid : Nat → String) (n : Nat) (s : CommandHistoryStore) : Prop :=
  ∀ c r, s.records.get c = some r →
    Drawn uuid n c ∧ ∀ k, r.correlationId = some k → Drawn uuid n k

theorem DrawnStore.transition {uuid : Nat → String} {n : Nat} (s : CommandHistoryStore)
    (input : CommandTransitionInput) (drawn : DrawnStore uuid n s) :
    DrawnStore uuid n (s.transition input) := by
  obtain ⟨-, same⟩ | ⟨current, found, -, -, moved⟩ := s.transition_cases input
  · rw [same]
    exact drawn
  · rw [moved]
    intro c r here
    change (s.records.set input.commandId _).get c = some r at here
    rw [OrderedMap.get_set] at here
    split at here
    · rename_i mine
      cases here
      rw [mine]
      exact drawn input.commandId current found
    · exact drawn c r here

def Phase.live : Phase → Bool
  | .dispatching => true
  | .awaiting _ => true
  | _ => false

/-- Two commands share no id. -/
def Apart (a b : Accepted) : Prop :=
  (∀ c, a.commandId = some c → b.commandId ≠ some c) ∧
    ∀ k, a.correlationId = some k → b.correlationId ≠ some k

theorem Apart.symm {a b : Accepted} (apart : Apart a b) : Apart b a :=
  ⟨fun c hb ha => apart.1 c ha hb, fun k hb ha => apart.2 k ha hb⟩

/-- A call under way: its record is open and its promise pending or settled once. -/
structure UnderWay (a : Accepted) (s : System) : Prop where
  record : ∀ c, a.commandId = some c → Open a.tier c s.store
  waiting : ∀ k, a.correlationId = some k → Waiting (a.pendingCommand k) (s.tracker.view k)

structure System.Inv (uuid : Nat → String) (s : System) : Prop where
  keyed : s.tracker.Keyed
  calls : ∀ i x, s.executions.get i = some x → i < s.calls
  drawn : ∀ i a phase, s.executions.get i = some ⟨some a, phase⟩ →
    (∀ c, a.commandId = some c → Drawn uuid s.uuids c) ∧
      ∀ k, a.correlationId = some k → Drawn uuid s.uuids k
  stored : DrawnStore uuid s.uuids s.store
  unknown : ∀ k, ¬ Drawn uuid s.uuids k → Unknown (s.tracker.view k)
  tracked : ∀ i a phase, s.executions.get i = some ⟨some a, phase⟩ →
    (a.correlationId = none ↔ a.tier = .dispatch)
  apart : ∀ i j a b phase phase', s.executions.get i = some ⟨some a, phase⟩ →
    s.executions.get j = some ⟨some b, phase'⟩ → i ≠ j → Apart a b
  underWay : ∀ i a phase, s.executions.get i = some ⟨some a, phase⟩ → phase.live = true →
    UnderWay a s
  owner : ∀ k e, s.tracker.pending.get k = some e → ∃ i a phase,
    s.executions.get i = some ⟨some a, phase⟩ ∧ a.correlationId = some k ∧
      e.command = a.pendingCommand k

theorem inv_init (uuid : Nat → String) : System.Inv uuid {} where
  keyed := PendingCommandTracker.keyed_empty
  calls _ _ found := by cases found
  drawn _ _ _ found := by cases found
  stored _ _ found := by cases found
  unknown _ _ := ⟨rfl, rfl⟩
  tracked _ _ _ found := by cases found
  apart _ _ _ _ _ _ found := by cases found
  underWay _ _ _ found := by cases found
  owner _ _ found := by cases found

section Blocks

variable {uuid : Nat → String} {s : System}

/-- A tracker event that registers nothing. -/
theorem System.Inv.track (inv : System.Inv uuid s) (event : TrackerEvent) (plain : event.registers = none) :
    System.Inv uuid { s with tracker := s.tracker.step event } where
  keyed := s.tracker.step_keyed event inv.keyed
  calls := inv.calls
  drawn := inv.drawn
  stored := inv.stored
  unknown k other := by
    show Unknown ((s.tracker.step event).view k)
    rw [s.tracker.view_step k event inv.keyed]
    exact localStep_unknown plain (inv.unknown k other)
  tracked := inv.tracked
  apart := inv.apart
  underWay i a phase here live := by
    have before := inv.underWay i a phase here live
    refine ⟨before.record, fun k hk => ?_⟩
    show Waiting _ ((s.tracker.step event).view k)
    rw [s.tracker.view_step k event inv.keyed]
    exact localStep_waiting plain (before.waiting k hk)
  owner k e found := by
    have seen : ((s.tracker.step event).view k).1 = some e := found
    rw [s.tracker.view_step k event inv.keyed] at seen
    obtain ⟨before, held, same⟩ := localStep_keeps plain seen
    obtain ⟨i, a, phase, here, mine, command⟩ := inv.owner k before held
    exact ⟨i, a, phase, here, mine, same.trans command⟩

/-- A change of the store that keeps the records of the calls under way open. -/
theorem System.Inv.restore (inv : System.Inv uuid s) {store : CommandHistoryStore}
    (stored : DrawnStore uuid s.uuids store)
    (open_ : ∀ i a phase c, s.executions.get i = some ⟨some a, phase⟩ → phase.live = true →
      a.commandId = some c → Open a.tier c s.store → Open a.tier c store) :
    System.Inv uuid { s with store := store } where
  keyed := inv.keyed
  calls := inv.calls
  drawn := inv.drawn
  stored := stored
  unknown := inv.unknown
  tracked := inv.tracked
  apart := inv.apart
  underWay i a phase here live := by
    have before := inv.underWay i a phase here live
    exact ⟨fun c hc => open_ i a phase c here live hc (before.record c hc), before.waiting⟩
  owner := inv.owner

/-! ### The calls before a step -/

theorem advanced_from {call : Nat} {a : Accepted} {before after : Phase}
    (here : s.executions.get call = some ⟨some a, before⟩)
    (later : after.live = true → before.live = true) {i : Nat} {b : Accepted} {phase : Phase}
    (found : (s.executions.set call ⟨some a, after⟩).get i = some ⟨some b, phase⟩) :
    ∃ phase', s.executions.get i = some ⟨some b, phase'⟩ ∧
      (phase.live = true → phase'.live = true) := by
  rw [OrderedMap.get_set] at found
  split at found
  · rename_i same
    cases found
    exact ⟨before, same ▸ here, later⟩
  · exact ⟨phase, found, id⟩

/-- The call that begins, or an earlier one. -/
theorem begun_from {accepted : Option Accepted} {phase ph : Phase} {i : Nat} {b : Accepted}
    (found : (s.executions.set s.calls ⟨accepted, phase⟩).get i = some ⟨some b, ph⟩) :
    (i = s.calls ∧ accepted = some b ∧ phase = ph) ∨ s.executions.get i = some ⟨some b, ph⟩ := by
  rw [OrderedMap.get_set] at found
  split at found
  · rename_i same
    cases found
    exact .inl ⟨same, rfl, rfl⟩
  · exact .inr found

theorem refused_from {phase ph : Phase} {i : Nat} {b : Accepted}
    (found : (s.executions.set s.calls ⟨none, phase⟩).get i = some ⟨some b, ph⟩) :
    s.executions.get i = some ⟨some b, ph⟩ :=
  (begun_from found).resolve_left fun begun => by cases begun.2.1

theorem survived_from {i : Nat} {b : Accepted} {ph : Phase}
    (found : (s.executions.map System.survive).get i = some ⟨some b, ph⟩) :
    ph.live = false ∧ ∃ ph', s.executions.get i = some ⟨some b, ph'⟩ := by
  rw [OrderedMap.get_map] at found
  obtain ⟨x, here, survived⟩ := Option.map_eq_some_iff.mp found
  obtain ⟨accepted, phase⟩ := x
  cases phase <;> cases survived <;> exact ⟨rfl, _, here⟩

/-- What a reply adds to the reports of the tracker. -/
theorem route_reported (message : AckMessage) (now : Nat) :
    ((s.tracker.route message now).callbacks.drop s.tracker.callbacks.length).filterMap
        Callback.transition =
      ((s.tracker.pending.get message.correlationId).elim [] fun entry =>
        (entry.route message now).2).filterMap Callback.transition := by
  cases found : s.tracker.pending.get message.correlationId with
  | none => simp [PendingCommandTracker.route, found, Callback.transition]
  | some entry => simp [PendingCommandTracker.route, found, PendingCommandTracker.apply]

theorem calls_begin (inv : System.Inv uuid s) {x y : Execution} {i : Nat}
    (found : (s.executions.set s.calls x).get i = some y) : i < s.calls + 1 := by
  rw [OrderedMap.get_set] at found
  split at found
  · omega
  · have := inv.calls i y found
    omega

/-- A call moves to another phase, and is under way only if it was. -/
theorem System.Inv.advance (inv : System.Inv uuid s) {call : Nat} {a : Accepted} {before : Phase}
    (after : Phase) (here : s.executions.get call = some ⟨some a, before⟩)
    (later : after.live = true → before.live = true) : System.Inv uuid (s.advanceTo call a after) := by
  refine
    { keyed := inv.keyed, calls := fun i x found => ?_, drawn := fun i b phase found => ?_,
      stored := inv.stored, unknown := inv.unknown, tracked := fun i b phase found => ?_,
      apart := fun i j b b' phase phase' found found' ne => ?_,
      underWay := fun i b phase found live => ?_, owner := fun k e found => ?_ }
  · change (s.executions.set call _).get i = some x at found
    rw [OrderedMap.get_set] at found
    split at found
    · rename_i same
      rw [same]
      exact inv.calls call _ here
    · exact inv.calls i x found
  · obtain ⟨phase', found', -⟩ := advanced_from here later found
    exact inv.drawn i b phase' found'
  · obtain ⟨phase', found', -⟩ := advanced_from here later found
    exact inv.tracked i b phase' found'
  · obtain ⟨p, hp, -⟩ := advanced_from here later found
    obtain ⟨p', hp', -⟩ := advanced_from here later found'
    exact inv.apart i j b b' p p' hp hp' ne
  · obtain ⟨phase', found', was⟩ := advanced_from here later found
    have way := inv.underWay i b phase' found' (was live)
    exact ⟨way.record, way.waiting⟩
  · obtain ⟨i, b, phase, found', mine, command⟩ := inv.owner k e found
    by_cases same : i = call
    · subst same
      rw [here] at found'
      cases found'
      exact ⟨i, a, after, OrderedMap.get_set_self _ _ _, mine, command⟩
    · exact ⟨i, b, phase, (OrderedMap.get_set_of_ne _ _ same).trans found', mine, command⟩

/-- A refused request is a call without a command. -/
theorem System.Inv.refuse (inv : System.Inv uuid s) (phase : Phase) :
    System.Inv uuid (s.begin none phase) := by
  refine
    { keyed := inv.keyed, calls := fun i x found => calls_begin inv found,
      drawn := fun i b ph found => inv.drawn i b ph (refused_from found),
      stored := inv.stored, unknown := inv.unknown,
      tracked := fun i b ph found => inv.tracked i b ph (refused_from found),
      apart := fun i j b b' ph ph' found found' ne =>
        inv.apart i j b b' ph ph' (refused_from found) (refused_from found') ne,
      underWay := fun i b ph found live => ?_, owner := fun k e found => ?_ }
  · have way := inv.underWay i b ph (refused_from found) live
    exact ⟨way.record, way.waiting⟩
  · obtain ⟨i, b, ph, here, mine, command⟩ := inv.owner k e found
    have old : i ≠ s.calls := Nat.ne_of_lt (inv.calls i _ here)
    exact ⟨i, b, ph, (OrderedMap.get_set_of_ne _ _ old).trans here, mine, command⟩

/-- What a newly accepted command brings. -/
structure Entering (uuid : Nat → String) (s : System) (a : Accepted) (n : Nat) : Prop where
  le : s.uuids ≤ n
  command : ∀ c, a.commandId = some c → Drawn uuid n c ∧ ¬ Drawn uuid s.uuids c
  correlation : ∀ k, a.correlationId = some k → Drawn uuid n k ∧ ¬ Drawn uuid s.uuids k
  tracked : a.correlationId = none ↔ a.tier = .dispatch

/-- The tracker when an accepted command enters: as it was, or with the command's entry.
A command that is under way and not registered has no correlation id. -/
def Registers (a : Accepted) (phase : Phase) (before after : PendingCommandTracker) : Prop :=
  (after = before ∧ (phase.live = true → a.correlationId = none)) ∨
    ∃ k, a.correlationId = some k ∧ after = before.register (a.pendingCommand k)

section Registers

variable {a : Accepted} {phase : Phase} {before after : PendingCommandTracker}
  (registers : Registers a phase before after) (keyed : before.Keyed)

include registers keyed

theorem Registers.stays_keyed : after.Keyed := by
  rcases registers with ⟨rfl, -⟩ | ⟨k, -, rfl⟩
  · exact keyed
  · exact before.step_keyed (.register _) keyed

theorem Registers.elsewhere {k : String} (other : a.correlationId ≠ some k) :
    after.view k = before.view k := by
  rcases registers with ⟨rfl, -⟩ | ⟨k', mine, rfl⟩
  · rfl
  · have ne : k' ≠ k := fun same => other (same ▸ mine)
    exact (before.view_step k (.register _) keyed).trans (if_neg ne)

theorem Registers.own {k : String} (mine : a.correlationId = some k) :
    (phase.live = false ∧ after.view k = before.view k) ∨
      after.view k = (some ⟨a.pendingCommand k, .dispatched⟩, (before.view k).2) := by
  rcases registers with ⟨rfl, untracked⟩ | ⟨k', mine', rfl⟩
  · refine Or.inl ⟨?_, rfl⟩
    cases live : phase.live with
    | false => rfl
    | true =>
        rw [untracked live] at mine
        cases mine
  · obtain rfl : k = k' := Option.some.inj (mine.symm.trans mine')
    exact Or.inr ((before.view_step k (.register _) keyed).trans (if_pos rfl))

end Registers

/-- An accepted command enters: its record in the store, its entry in the tracker
when it is to be tracked. -/
theorem System.Inv.enter (inv : System.Inv uuid s) {a : Accepted} {n : Nat}
    (entering : Entering uuid s a n) {store : CommandHistoryStore}
    {tracker : PendingCommandTracker} {phase : Phase} (stored : DrawnStore uuid n store)
    (others : ∀ c, Drawn uuid s.uuids c → store.records.get c = s.store.records.get c)
    (opened : phase.live = true → ∀ c, a.commandId = some c → Open a.tier c store)
    (registers : Registers a phase s.tracker tracker) :
    System.Inv uuid
      ({ s with store := store, tracker := tracker, uuids := n }.begin (some a) phase) := by
  have elsewhere (k : String) (other : a.correlationId ≠ some k) :
      tracker.view k = s.tracker.view k := registers.elsewhere inv.keyed other
  have oldView : ∀ k, Drawn uuid s.uuids k → tracker.view k = s.tracker.view k :=
    fun k old => elsewhere k fun mine => (entering.correlation k mine).2 old
  refine
    { keyed := registers.stays_keyed inv.keyed, calls := fun i x found => calls_begin inv found,
      drawn := fun i b ph found => ?_, stored := stored, unknown := fun k other => ?_,
      tracked := fun i b ph found => ?_,
      apart := fun i j b b' ph ph' found found' ne => ?_,
      underWay := fun i b ph found live => ?_, owner := fun k e found => ?_ }
  · rcases begun_from found with ⟨-, ⟨⟩, -⟩ | old
    · exact ⟨fun c hc => (entering.command c hc).1, fun k hk => (entering.correlation k hk).1⟩
    · have drawn := inv.drawn i b ph old
      exact ⟨fun c hc => (drawn.1 c hc).mono entering.le, fun k hk => (drawn.2 k hk).mono entering.le⟩
  · have notMine : a.correlationId ≠ some k := fun mine => other (entering.correlation k mine).1
    show Unknown (tracker.view k)
    rw [elsewhere k notMine]
    exact inv.unknown k fun old => other (old.mono entering.le)
  · rcases begun_from found with ⟨-, ⟨⟩, -⟩ | old
    · exact entering.tracked
    · exact inv.tracked i b ph old
  · have news : ∀ i b ph, s.executions.get i = some ⟨some b, ph⟩ → Apart a b := by
      intro i b ph old
      have drawn := inv.drawn i b ph old
      exact ⟨fun c mine theirs => (entering.command c mine).2 (drawn.1 c theirs),
        fun k mine theirs => (entering.correlation k mine).2 (drawn.2 k theirs)⟩
    rcases begun_from found with ⟨rfl, ⟨⟩, -⟩ | old
    · rcases begun_from found' with ⟨rfl, -, -⟩ | old'
      · exact absurd rfl ne
      · exact news j b' ph' old'
    · rcases begun_from found' with ⟨-, ⟨⟩, -⟩ | old'
      · exact (news i b ph old).symm
      · exact inv.apart i j b b' ph ph' old old' ne
  · rcases begun_from found with ⟨-, ⟨⟩, rfl⟩ | old
    · refine ⟨opened live, fun k mine => ?_⟩
      rcases registers.own inv.keyed mine with ⟨dead, -⟩ | own
      · rw [dead] at live
        cases live
      · have unknown := inv.unknown k (entering.correlation k mine).2
        show Waiting _ (tracker.view k)
        rw [own]
        exact .inl ⟨.dispatched, rfl, .inl rfl, unknown.2⟩
    · have way := inv.underWay i b ph old live
      have drawn := inv.drawn i b ph old
      refine ⟨fun c hc => ?_, fun k hk => ?_⟩
      · obtain ⟨r, here, open_⟩ := way.record c hc
        exact ⟨r, (others c (drawn.1 c hc)).trans here, open_⟩
      · show Waiting _ (tracker.view k)
        rw [oldView k (drawn.2 k hk)]
        exact way.waiting k hk
  · have seen : (tracker.view k).1 = some e := found
    by_cases mine : a.correlationId = some k
    · rcases registers.own inv.keyed mine with ⟨-, same⟩ | own
      · rw [same, (inv.unknown k (entering.correlation k mine).2).1] at seen
        cases seen
      · rw [own] at seen
        cases seen
        exact ⟨s.calls, a, phase, OrderedMap.get_set_self _ _ _, mine, rfl⟩
    · rw [elsewhere k mine] at seen
      obtain ⟨i, b, ph, here, theirs, command⟩ := inv.owner k e seen
      have old : i ≠ s.calls := Nat.ne_of_lt (inv.calls i _ here)
      exact ⟨i, b, ph, (OrderedMap.get_set_of_ne _ _ old).trans here, theirs, command⟩

/-- A settled call may write to its own record. -/
theorem System.Inv.write (inv : System.Inv uuid s) {call : Nat} {a : Accepted} {phase : Phase}
    (here : s.executions.get call = some ⟨some a, phase⟩) (done : phase.live = false)
    (throws : Bool) {input : String → CommandTransitionInput}
    (own : ∀ id, (input id).commandId = id) :
    System.Inv uuid { s with store := recordTransition s.store a.commandId throws input } := by
  refine inv.restore (recordTransition_preserves DrawnStore.transition inv.stored _ _ _) ?_
  rintro i b ph c found live mine ⟨r, stored, open_⟩
  have ne : i ≠ call := by
    rintro rfl
    rw [here] at found
    cases found
    rw [done] at live
    cases live
  have other : a.commandId ≠ some c := (inv.apart i call b a ph phase found here ne).1 c mine
  refine ⟨r, ?_, open_⟩
  unfold recordTransition
  split
  · exact stored
  · rename_i id hid
    split
    · exact stored
    · have different : c ≠ (input id).commandId := by
        rw [own]
        rintro rfl
        exact other hid
      rw [CommandHistoryStore.get_transition_of_ne _ _ different]
      exact stored

/-- A call under way settles: its completing write and its result. -/
theorem System.Inv.settle (inv : System.Inv uuid s) {call : Nat} {a : Accepted} {before : Phase}
    (here : s.executions.get call = some ⟨some a, before⟩) (result : ActionResult) (throws : Bool)
    {input : String → CommandTransitionInput} (own : ∀ id, (input id).commandId = id) :
    System.Inv uuid
      ({ s with store := recordTransition s.store a.commandId throws input }.advanceTo call a
        (.settled result (!throws))) := by
  have settled := inv.advance (.settled result (!throws)) here (fun live => by cases live)
  exact settled.write (OrderedMap.get_set_self _ _ _) rfl throws own

end Blocks

/-! ## Every event keeps the invariant -/

section Step

variable {uuid : Nat → String} {s : System}

theorem accept_entering (fresh : Function.Injective uuid) (s : System) (env : Environment)
    (request : CommandRequest) :
    Entering uuid s (accept uuid s.uuids env request).1 (accept uuid s.uuids env request).2 := by
  unfold accept
  dsimp only
  generalize resolveEffectiveTier _ _ _ _ = tier
  generalize env.physical request.action.type = physical
  have after : s.uuids ≤ (if physical = true then s.uuids + 1 else s.uuids) := by
    split <;> omega
  refine ⟨?_, fun c mine => ?_, fun k mine => ?_, ?_⟩
  · split <;> omega
  · cases physical with
    | false => cases mine
    | true =>
        cases mine
        refine ⟨⟨s.uuids, ?_, rfl⟩, not_drawn fresh le_rfl⟩
        rw [if_pos rfl]
        split <;> omega
  · by_cases dispatch : tier = .dispatch
    · simp [dispatch] at mine
    · simp only [ne_eq, dispatch, not_false_eq_true, if_true, Option.some.injEq] at mine
      subst mine
      refine ⟨⟨_, ?_, rfl⟩, not_drawn fresh after⟩
      simp [dispatch]
  · by_cases dispatch : tier = .dispatch <;> simp [dispatch]

/-- What a successful insert of the record leaves. -/
theorem createRecord_some {store store' : CommandHistoryStore} {env : Environment} {a : Accepted}
    {now : Nat} {throws : Bool} (created : System.createRecord store env a now throws = some store') :
    (a.commandId = none ∧ store' = store) ∨
      ∃ id, a.commandId = some id ∧ store.records.get id = none ∧
        store'.records = store.records.set id (a.record env id now) := by
  unfold System.createRecord at created
  cases command : a.commandId with
  | none =>
      rw [command] at created
      exact .inl ⟨rfl, (Option.some.inj created).symm⟩
  | some id =>
      rw [command] at created
      dsimp only at created
      split at created
      · cases created
      · obtain ⟨-, e, failed⟩ | ⟨free, s', ok, set, -⟩ :=
          store.create_cases (a.record env id now) a.requestedEvidence
        · rw [failed] at created
          cases created
        · rw [ok] at created
          cases created
          exact .inr ⟨id, rfl, CommandHistoryStore.get_of_not_taken free, set⟩

theorem createRecord_stored {a : Accepted} {n : Nat} (entering : Entering uuid s a n)
    (stored : DrawnStore uuid s.uuids s.store) {store : CommandHistoryStore} {env : Environment}
    {now : Nat} {throws : Bool}
    (created : System.createRecord s.store env a now throws = some store) :
    DrawnStore uuid n store := by
  obtain ⟨-, rfl⟩ | ⟨id, command, -, set⟩ := createRecord_some created
  · exact fun c r found => ⟨(stored c r found).1.mono entering.le,
      fun k hk => ((stored c r found).2 k hk).mono entering.le⟩
  · intro c r found
    rw [set, OrderedMap.get_set] at found
    split at found
    · rename_i same
      cases found
      rw [same]
      exact ⟨(entering.command id command).1, fun k hk => (entering.correlation k hk).1⟩
    · exact ⟨(stored c r found).1.mono entering.le,
        fun k hk => ((stored c r found).2 k hk).mono entering.le⟩

theorem createRecord_others {a : Accepted} {n : Nat} (entering : Entering uuid s a n)
    {store : CommandHistoryStore} {env : Environment} {now : Nat} {throws : Bool}
    (created : System.createRecord s.store env a now throws = some store) (c : String)
    (old : Drawn uuid s.uuids c) : store.records.get c = s.store.records.get c := by
  obtain ⟨-, rfl⟩ | ⟨id, command, -, set⟩ := createRecord_some created
  · rfl
  · rw [set, OrderedMap.get_set_of_ne]
    rintro rfl
    exact (entering.command c command).2 old

/-- The record starts open, at `REQUESTED`. -/
theorem createRecord_open {store store' : CommandHistoryStore} {env : Environment} {a : Accepted}
    {now : Nat} {throws : Bool} (created : System.createRecord store env a now throws = some store')
    (c : String) (mine : a.commandId = some c) : Open a.tier c store' := by
  obtain ⟨none, -⟩ | ⟨id, command, -, set⟩ := createRecord_some created
  · rw [none] at mine
    cases mine
  · rw [command] at mine
    cases mine
    refine ⟨a.record env c now, ?_, ⟨rfl, rfl, fun h => (by cases h), fun _ => rfl⟩⟩
    rw [set, OrderedMap.get_set_self]

theorem execute_inv (fresh : Function.Injective uuid) (inv : s.Inv uuid) (env : Environment)
    (request : CommandRequest) (now : Nat) (createThrows writeThrows : Bool) :
    (s.execute uuid env request now createThrows writeThrows).Inv uuid := by
  unfold System.execute
  split
  · exact inv.refuse _
  · have entering := accept_entering fresh s env request
    generalize accept uuid s.uuids env request = accepted at entering
    obtain ⟨a, n⟩ := accepted
    dsimp only at entering ⊢
    split
    · have grown : DrawnStore uuid n s.store := fun c r found =>
        ⟨(inv.stored c r found).1.mono entering.le,
          fun k hk => ((inv.stored c r found).2 k hk).mono entering.le⟩
      exact inv.enter entering grown (fun _ _ => rfl) (fun live => by cases live)
        (.inl ⟨rfl, fun live => by cases live⟩)
    · rename_i store created
      have stored := createRecord_stored entering inv.stored created
      have others := createRecord_others entering created
      split
      · have entered : ({ s with store := store, uuids := n }.begin (some a) (.settled
            (a.withId (refusal (System.notFoundError a) .notFound)) (!writeThrows))).Inv uuid :=
          inv.enter entering stored others (fun live => by cases live)
            (.inl ⟨rfl, fun live => by cases live⟩)
        refine entered.write (OrderedMap.get_set_self _ _ _) rfl writeThrows ?_
        exact fun _ => rfl
      · split
        · rename_i untracked
          exact inv.enter entering stored others (fun _ => createRecord_open created)
            (.inl ⟨rfl, fun _ => untracked⟩)
        · rename_i k tracked
          exact inv.enter entering stored others (fun _ => createRecord_open created)
            (.inr ⟨k, tracked, rfl⟩)

theorem failDispatch_inv (inv : s.Inv uuid) {call : Nat} {a : Accepted} {phase : Phase}
    (here : s.executions.get call = some ⟨some a, phase⟩) (result : ActionResult)
    {input : String → CommandTransitionInput} (own : ∀ id, (input id).commandId = id)
    (throws : Bool) : (s.failDispatch call a result input throws).Inv uuid := by
  unfold System.failDispatch
  cases a.correlationId with
  | none => exact inv.settle here _ throws own
  | some k => exact (inv.track (.cancel k) rfl).settle here _ throws own

/-- A tracked command's `DISPATCHED` write is a milestone of its open record. -/
theorem System.Inv.dispatched (inv : s.Inv uuid) {call : Nat} {a : Accepted} {phase : Phase}
    (here : s.executions.get call = some ⟨some a, phase⟩) (tracked : a.tier ≠ .dispatch)
    (now : Nat) (throws : Bool) :
    System.Inv uuid
      { s with
        store := recordTransition s.store a.commandId throws (dispatchedInput now false) } := by
  refine inv.restore (recordTransition_preserves DrawnStore.transition inv.stored _ _ _) ?_
  intro i b ph c found live mine opened
  unfold recordTransition
  split
  · exact opened
  · rename_i id command
    split
    · exact opened
    · refine opened.transition fun (same : id = c) => ?_
      have i_eq : i = call := by
        by_contra ne
        exact (inv.apart i call b a ph phase found here ne).1 c mine (same ▸ command)
      subst i_eq
      rw [here] at found
      cases found
      exact ⟨tracked, rfl, .inl rfl⟩

theorem handlerSettles_inv (inv : s.Inv uuid) (call : Nat) (outcome : HandlerOutcome) (now : Nat)
    (throws : Bool) : (s.handlerSettles call outcome now throws).Inv uuid := by
  unfold System.handlerSettles
  split
  · rename_i a here
    split
    · exact failDispatch_inv inv here _ (fun _ => rfl) throws
    · exact failDispatch_inv inv here _ (fun _ => rfl) throws
    · rename_i result _
      by_cases dispatch : a.tier = .dispatch
      · simp only [dispatch, decide_true, if_true]
        exact inv.settle here _ throws fun _ => rfl
      · simp only [dispatch, decide_false, Bool.false_eq_true, if_false]
        exact (inv.dispatched here dispatch now throws).advance (.awaiting _) here fun _ => rfl
  · exact inv

theorem resolutionSettles_inv (inv : s.Inv uuid) (call : Nat) (now : Nat) (throws : Bool) :
    (s.resolutionSettles call now throws).Inv uuid := by
  unfold System.resolutionSettles
  split
  · rename_i a data here
    split
    · exact inv
    · exact inv.settle here _ throws fun _ => rfl
  · exact inv

/-- What a routed reply reports: that an observed-tier command was acknowledged. -/
theorem route_reports {entry : TrackedEntry} {message : AckMessage} {now : Nat}
    {event : PendingCommandTransition}
    (reported : event ∈ (entry.route message now).2.filterMap Callback.transition) :
    event.toState = .acknowledged ∧
      event.commandId = entry.command.commandId.filter (· ≠ "") ∧
      entry.command.requiredTier = .observed := by
  have silent : ∀ (e : TrackedEntry) target success error,
      (e.finalize target success error).2.filterMap Callback.transition = [] := by
    intro e target success error
    unfold TrackedEntry.finalize
    split <;> rfl
  have observed : ∀ (e : TrackedEntry) state,
      (e.evaluateObservation state true).2.filterMap Callback.transition = [] := by
    intro e state
    unfold TrackedEntry.evaluateObservation
    split
    · rfl
    · split
      · exact silent _ _ _ _
      · exact silent _ _ _ _
      · exact silent _ _ _ _
  unfold TrackedEntry.route at reported
  split at reported
  · rw [silent] at reported
    cases reported
  · obtain same | ⟨acknowledged, same⟩ := entry.acknowledge_cases message
    · rw [same] at reported
      dsimp only at reported
      split at reported
      · rw [silent] at reported
        cases reported
      · simp only [Bool.false_eq_true, if_false, List.nil_append] at reported
        split at reported
        · cases reported
        · split at reported
          · rw [observed] at reported
            cases reported
          · cases reported
    · rw [same] at reported
      dsimp only at reported
      split at reported
      · rw [silent] at reported
        cases reported
      · rename_i notComplete
        have tier : entry.command.requiredTier = .observed := by
          cases ht : entry.command.requiredTier with
          | acknowledged => exact absurd ⟨acknowledged, ht⟩ notComplete
          | observed => rfl
        have only : event ∈ [({ commandId := entry.command.commandId.filter (· ≠ "")
                                correlationId := entry.command.correlationId
                                targetDeviceId := entry.command.targetDeviceId
                                fromState := .dispatched, toState := .acknowledged
                                timestamp := now } : PendingCommandTransition)] := by
          simp only [if_true, tier] at reported
          split at reported
          · exact reported
          · simp only [List.filterMap_append, observed, List.append_nil] at reported
            exact reported
        rw [List.mem_singleton.mp only]
        exact ⟨rfl, rfl, tier⟩

theorem route_inv (inv : s.Inv uuid) (message : AckMessage) (now : Nat)
    (faults : System.AdapterFaults) : (s.route message now faults).Inv uuid := by
  have tracked := inv.track (.route message now) rfl
  simp only [System.route, route_reported]
  cases found : s.tracker.pending.get message.correlationId with
  | none => exact tracked
  | some entry =>
      dsimp only [Option.elim]
      refine tracked.restore ?_ ?_
      · have preserve : ∀ (store : CommandHistoryStore) event, DrawnStore uuid s.uuids store →
            DrawnStore uuid s.uuids (System.adaptTransition store faults event) :=
          fun _ event drawn => adaptTransition_preserves DrawnStore.transition drawn faults event
        exact run_invariant preserve inv.stored _
      · intro i b phase c here live mine opened
        refine opened.adaptAll faults fun event member => ?_
        obtain ⟨acknowledges, command, tier⟩ := route_reports member
        refine ⟨acknowledges, fun about => ?_⟩
        -- the entry belongs to one call, and only that call carries this command id
        obtain ⟨j, a, phase', here', correlated, same⟩ := inv.owner _ entry found
        rw [same] at command tier
        have owned : a.commandId = some c := by
          rw [about] at command
          exact (Option.filter_eq_some_iff.mp command.symm).1
        have ij : i = j := by
          by_contra ne
          exact (inv.apart i j b a phase phase' here here' ne).1 c mine owned
        subst ij
        have ab := (Option.some.inj (here.symm.trans here'))
        cases ab
        have notDispatch : b.tier ≠ .dispatch := fun dispatch => by
          rw [(inv.tracked i b phase here).mpr dispatch] at correlated
          cases correlated
        cases ht : b.tier with
        | dispatch => exact absurd ht notDispatch
        | acknowledged => simp [Accepted.pendingCommand, ht] at tier
        | observed => rfl

theorem restart_inv (inv : s.Inv uuid) (now : Nat) : (s.restart now).Inv uuid := by
  refine
    { keyed := PendingCommandTracker.keyed_empty, calls := fun i x found => ?_,
      drawn := fun i b ph found => ?_,
      stored := reconcile_preserves DrawnStore.transition inv.stored now,
      unknown := fun _ _ => ⟨rfl, rfl⟩, tracked := fun i b ph found => ?_,
      apart := fun i j b b' ph ph' found found' ne => ?_,
      underWay := fun i b ph found live => ?_, owner := fun k e found => by cases found }
  · change (s.executions.map System.survive).get i = some x at found
    rw [OrderedMap.get_map] at found
    obtain ⟨x', here, -⟩ := Option.map_eq_some_iff.mp found
    exact inv.calls i x' here
  · obtain ⟨-, ph', here⟩ := survived_from found
    exact inv.drawn i b ph' here
  · obtain ⟨-, ph', here⟩ := survived_from found
    exact inv.tracked i b ph' here
  · obtain ⟨-, p, here⟩ := survived_from found
    obtain ⟨-, p', here'⟩ := survived_from found'
    exact inv.apart i j b b' p p' here here' ne
  · obtain ⟨dead, -⟩ := survived_from found
    rw [dead] at live
    cases live

theorem step_inv (fresh : Function.Injective uuid) (s : System) (event : SystemEvent)
    (inv : s.Inv uuid) : (s.step uuid event).Inv uuid := by
  cases event with
  | execute env request now createThrows writeThrows =>
      exact execute_inv fresh inv env request now createThrows writeThrows
  | handlerSettles call outcome now throws => exact handlerSettles_inv inv call outcome now throws
  | resolutionSettles call now throws => exact resolutionSettles_inv inv call now throws
  | route message now faults => exact route_inv inv message now faults
  | observeState deviceId state => exact inv.track (.observeState deviceId state) rfl
  | timer id => exact inv.track (.timer id) rfl
  | cancel id => exact inv.track (.cancel id) rfl
  | restart now => exact restart_inv inv now

end Step

end Aeolus.Automations
