/-
# Aeolus.Automations.CrashRecovery — the command history after a crash

The store is durable, the rest of the pipeline is not.  A crash leaves the store as it is
between two durable writes, also in the middle of a synchronous segment: after the
`REQUESTED` record and before the failure that follows it, between the implied
`DISPATCHED` and the acknowledgement, between two rows of a reconciliation.  `writes` lists
the store calls of an event in their order, `step_store` says that they make the event's
effect on the store, and a crash is any first part of the writes of a run.

The next start reconciles the rows without a `terminal_at`.  It reaches every one of them
because no write leaves a row both incomplete and in a terminal state (`Recoverable`);
`crash_recovery` is the result.
-/
import Aeolus.Automations.CommandAgreement

namespace Aeolus.Automations

open Aeolus.Theory
open Aeolus.Core

/-! ## The durable writes of an event -/

def recordWrites (commandId : Option String) (throws : Bool)
    (input : String → CommandTransitionInput) : List StoreCall :=
  match commandId with
  | none => []
  | some id => if throws then [] else [.transition (input id)]

theorem run_recordWrites (store : CommandHistoryStore) (commandId : Option String) (throws : Bool)
    (input : String → CommandTransitionInput) :
    run CommandHistoryStore.step store (recordWrites commandId throws input) =
      recordTransition store commandId throws input := by
  unfold recordWrites recordTransition
  split
  · rfl
  · split <;> rfl

namespace System

def createWrites (env : Environment) (a : Accepted) (now : Nat) (throws : Bool) :
    List StoreCall :=
  match a.commandId with
  | none => []
  | some id => if throws then [] else [.create (a.record env id now) a.requestedEvidence]

/-- A record that cannot be created leaves the store as it was. -/
theorem run_createWrites (store : CommandHistoryStore) (env : Environment) (a : Accepted)
    (now : Nat) (throws : Bool) :
    run CommandHistoryStore.step store (createWrites env a now throws) =
      (createRecord store env a now throws).getD store := by
  unfold createWrites createRecord
  cases a.commandId with
  | none => rfl
  | some id =>
      cases throws with
      | true => rfl
      | false =>
          simp only [Bool.false_eq_true, if_false, run_cons, run_nil, CommandHistoryStore.step]
          cases store.create (a.record env id now) a.requestedEvidence with
          | ok store' => rfl
          | error e => rfl

def executeWrites (uuid : Nat → String) (s : System) (env : Environment)
    (request : CommandRequest) (now : Nat) (createThrows writeThrows : Bool) : List StoreCall :=
  match preAcceptance env request with
  | some _ => []
  | none =>
      let a := (accept uuid s.uuids env request).1
      createWrites env a now createThrows ++
        match createRecord s.store env a now createThrows with
        | none => []
        | some _ =>
            if a.tier = .observed ∧ !env.device a.observedDeviceId then
              recordWrites a.commandId writeThrows
                (failedInput now (some .notFound) (some (notFoundError a))
                  (buildCommandEvidence
                    { observedDeviceId := some a.observedDeviceId
                      reason := some ("Nothing could confirm this command: observed device '" ++
                        a.observedDeviceId ++ "' is not present") }))
            else []

/-- The transition that a handler's outcome is recorded as. -/
def outcomeInput (a : Accepted) (outcome : HandlerOutcome) (now : Nat) :
    String → CommandTransitionInput :=
  match outcome with
  | .threw message => failedInput now (some .execution) (some message) none
  | .returned (some ⟨false, _, error, _, _, _, failureKind⟩) =>
      failedInput now failureKind (error.filter (· ≠ "")) none
  | .returned _ => dispatchedInput now (a.tier = .dispatch)

def handlerWrites (s : System) (call : Nat) (outcome : HandlerOutcome) (now : Nat)
    (throws : Bool) : List StoreCall :=
  match s.executions.get call with
  | some ⟨some a, .dispatching⟩ => recordWrites a.commandId throws (outcomeInput a outcome now)
  | _ => []

def resolutionWrites (s : System) (call : Nat) (now : Nat) (throws : Bool) : List StoreCall :=
  match s.executions.get call with
  | some ⟨some a, .awaiting _⟩ =>
      match s.resolutionOf a with
      | none => []
      | some resolution => recordWrites a.commandId throws (resolvedInput a resolution now)
  | _ => []

/-- The writes of the tracker's adapter: the implied dispatch, then the milestone. -/
def adaptWrites (store : CommandHistoryStore) (faults : AdapterFaults)
    (event : PendingCommandTransition) : List StoreCall :=
  match event.commandId with
  | none => []
  | some id =>
      let milestone : StoreCall := .transition
        { commandId := id, toState := event.toState, timestamp := event.timestamp, terminal := false
          details := buildCommandEvidence { reason := some (describeRung event.toState) } }
      let implied : StoreCall := .transition
        { commandId := id, toState := .dispatched, timestamp := event.timestamp
          terminal := false
          details := buildCommandEvidence
            { reason := some ("Inferred from the device's reply, which arrived before " ++
                "the dispatch was recorded") } }
      if faults.read then []
      else if store.currentState id = some .requested then
        if faults.implied then []
        else if faults.write then [implied]
        else [implied, milestone]
      else if faults.write then []
      else [milestone]

theorem run_adaptWrites (store : CommandHistoryStore) (faults : AdapterFaults)
    (event : PendingCommandTransition) :
    run CommandHistoryStore.step store (adaptWrites store faults event) =
      adaptTransition store faults event := by
  obtain ⟨read, implied, write⟩ := faults
  unfold adaptWrites adaptTransition
  cases event.commandId with
  | none => rfl
  | some id =>
      dsimp only
      by_cases raced : store.currentState id = some .requested
      · simp only [if_pos raced]
        cases read <;> cases implied <;> cases write <;> rfl
      · simp only [if_neg raced]
        cases read <;> cases write <;> rfl

/-- The adapter is called for each reported transition in turn. -/
def adaptAllWrites (faults : AdapterFaults) :
    CommandHistoryStore → List PendingCommandTransition → List StoreCall
  | _, [] => []
  | store, event :: rest =>
      adaptWrites store faults event ++
        adaptAllWrites faults (adaptTransition store faults event) rest

theorem run_adaptAllWrites (faults : AdapterFaults) (store : CommandHistoryStore)
    (events : List PendingCommandTransition) :
    run CommandHistoryStore.step store (adaptAllWrites faults store events) =
      events.foldl (fun store event => adaptTransition store faults event) store := by
  induction events generalizing store with
  | nil => rfl
  | cons event rest ih => rw [adaptAllWrites, run_append, run_adaptWrites, ih, List.foldl_cons]

/-- What a reply makes the tracker report. -/
def reported (s : System) (message : AckMessage) (now : Nat) : List PendingCommandTransition :=
  ((s.tracker.route message now).callbacks.drop s.tracker.callbacks.length).filterMap
    Callback.transition

/-- The store calls of an event that do not throw, in their order. -/
def writes (uuid : Nat → String) (s : System) : SystemEvent → List StoreCall
  | .execute env request now createThrows writeThrows =>
      s.executeWrites uuid env request now createThrows writeThrows
  | .handlerSettles call outcome now throws => s.handlerWrites call outcome now throws
  | .resolutionSettles call now throws => s.resolutionWrites call now throws
  | .route message now faults => adaptAllWrites faults s.store (s.reported message now)
  | .observeState _ _ => []
  | .timer _ => []
  | .cancel _ => []
  | .restart now => (s.store.interruptions now).map .transition

/-- The store calls of a run. -/
def runWrites (uuid : Nat → String) : System → List SystemEvent → List StoreCall
  | _, [] => []
  | s, event :: rest => s.writes uuid event ++ runWrites uuid (s.step uuid event) rest

section Steps

variable (uuid : Nat → String) (s : System)

theorem execute_store (env : Environment) (request : CommandRequest) (now : Nat)
    (createThrows writeThrows : Bool) :
    (s.execute uuid env request now createThrows writeThrows).store =
      run CommandHistoryStore.step s.store
        (s.executeWrites uuid env request now createThrows writeThrows) := by
  unfold execute executeWrites
  cases preAcceptance env request with
  | some result => rfl
  | none =>
      generalize accept uuid s.uuids env request = accepted
      obtain ⟨a, n⟩ := accepted
      dsimp only
      rw [run_append, run_createWrites]
      cases createRecord s.store env a now createThrows with
      | none => rfl
      | some store =>
          dsimp only [Option.getD]
          split
          · rw [run_recordWrites]
            rfl
          · split <;> rfl

theorem handlerSettles_store (call : Nat) (outcome : HandlerOutcome) (now : Nat) (throws : Bool) :
    (s.handlerSettles call outcome now throws).store =
      run CommandHistoryStore.step s.store (s.handlerWrites call outcome now throws) := by
  unfold handlerSettles handlerWrites
  rcases s.executions.get call with _ | ⟨_ | a, phase⟩
  · rfl
  · rfl
  · cases phase with
    | dispatching =>
        dsimp only
        rw [run_recordWrites]
        rcases outcome with message | _ | ⟨success, data, error, state, correlationId, id, kind⟩
        · rfl
        · dsimp only [outcomeInput]
          split <;> rfl
        · cases success with
          | false => rfl
          | true =>
              dsimp only [outcomeInput]
              split <;> rfl
    | awaiting data => rfl
    | settled result written => rfl
    | lost => rfl

theorem resolutionSettles_store (call : Nat) (now : Nat) (throws : Bool) :
    (s.resolutionSettles call now throws).store =
      run CommandHistoryStore.step s.store (s.resolutionWrites call now throws) := by
  unfold resolutionSettles resolutionWrites
  rcases s.executions.get call with _ | ⟨_ | a, phase⟩
  · rfl
  · rfl
  · cases phase with
    | awaiting data =>
        dsimp only
        cases s.resolutionOf a with
        | none => rfl
        | some resolution =>
            dsimp only
            rw [run_recordWrites]
            rfl
    | dispatching => rfl
    | settled result written => rfl
    | lost => rfl

theorem run_transitions (store : CommandHistoryStore) (inputs : List CommandTransitionInput) :
    run CommandHistoryStore.step store (inputs.map .transition) =
      run CommandHistoryStore.transition store inputs := by
  induction inputs generalizing store with
  | nil => rfl
  | cons input inputs ih => exact ih (store.transition input)

/-- The writes of an event make its effect on the store. -/
theorem step_store (event : SystemEvent) :
    (s.step uuid event).store =
      run CommandHistoryStore.step s.store (s.writes uuid event) := by
  cases event with
  | execute env request now createThrows writeThrows =>
      exact s.execute_store uuid env request now createThrows writeThrows
  | handlerSettles call outcome now throws => exact s.handlerSettles_store call outcome now throws
  | resolutionSettles call now throws => exact s.resolutionSettles_store call now throws
  | route message now faults => exact (run_adaptAllWrites faults s.store _).symm
  | observeState => rfl
  | timer => rfl
  | cancel => rfl
  | restart now =>
      rw [writes, run_transitions]
      exact congrArg Prod.snd (s.store.reconcileInterrupted_eq now)

theorem run_store (events : List SystemEvent) :
    (run (System.step uuid) s events).store =
      run CommandHistoryStore.step s.store (s.runWrites uuid events) := by
  induction events generalizing s with
  | nil => rfl
  | cons event rest ih => rw [run_cons, ih, runWrites, run_append, step_store]

end Steps

end System

/-! ## What is written -/

/-- A store call of the system. -/
inductive StoreCall.Written : StoreCall → Prop where
  | record (env : Environment) (a : Accepted) (id : String) (now : Nat) :
      Written (.create (a.record env id now) a.requestedEvidence)
  | failed (now : Nat) (kind : Option CommandFailureKind) (error : Option String)
      (evidence : Option CommandEvidence) (id : String) :
      Written (.transition (failedInput now kind error evidence id))
  | dispatched (now : Nat) (completes : Bool) (id : String) :
      Written (.transition (dispatchedInput now completes id))
  | resolved (a : Accepted) (resolution : PendingResolution) (now : Nat) (id : String) :
      Written (.transition (resolvedInput a resolution now id))
  /-- a reply: the acknowledgement, or the dispatch that it implies -/
  | reply (id : String) (state : CommandLifecycleState) (timestamp : Nat)
      (details : Option CommandEvidence) (early : state = .dispatched ∨ state = .acknowledged) :
      Written (.transition
        { commandId := id, toState := state, timestamp := timestamp, terminal := false
          details := details })
  | interrupted (id : String) (now : Nat) :
      Written (.transition (CommandHistoryStore.interruption id now))

theorem recordWrites_written {commandId : Option String} {throws : Bool}
    {input : String → CommandTransitionInput}
    (written : ∀ id, (StoreCall.transition (input id)).Written) :
    ∀ call ∈ recordWrites commandId throws input, call.Written := by
  intro call member
  unfold recordWrites at member
  split at member
  · exact absurd member List.not_mem_nil
  · split at member
    · exact absurd member List.not_mem_nil
    · rw [List.mem_singleton.mp member]
      exact written _

namespace System

theorem outcomeInput_written (a : Accepted) (outcome : HandlerOutcome) (now : Nat) (id : String) :
    (StoreCall.transition (outcomeInput a outcome now id)).Written := by
  unfold outcomeInput
  split
  · exact .failed now _ _ _ id
  · exact .failed now _ _ _ id
  · exact .dispatched now _ id

theorem executeWrites_written (uuid : Nat → String) (s : System) (env : Environment)
    (request : CommandRequest) (now : Nat) (createThrows writeThrows : Bool) :
    ∀ call ∈ s.executeWrites uuid env request now createThrows writeThrows, call.Written := by
  intro call member
  unfold executeWrites at member
  split at member
  · exact absurd member List.not_mem_nil
  · rcases List.mem_append.mp member with created | failed
    · unfold createWrites at created
      split at created
      · exact absurd created List.not_mem_nil
      · split at created
        · exact absurd created List.not_mem_nil
        · rw [List.mem_singleton.mp created]
          exact .record env _ _ now
    · split at failed
      · exact absurd failed List.not_mem_nil
      · split at failed
        · exact recordWrites_written (fun id => .failed now _ _ _ id) call failed
        · exact absurd failed List.not_mem_nil

/-- The tracker reports acknowledgements only. -/
theorem reported_acknowledged (s : System) (message : AckMessage) (now : Nat)
    {event : PendingCommandTransition} (member : event ∈ s.reported message now) :
    event.toState = .acknowledged := by
  unfold reported at member
  cases found : s.tracker.pending.get message.correlationId with
  | none => simp [PendingCommandTracker.route, found, Callback.transition] at member
  | some entry =>
      have reports : event ∈ (entry.route message now).2.filterMap Callback.transition := by
        simpa [PendingCommandTracker.route, found, PendingCommandTracker.apply] using member
      exact (route_reports reports).1

theorem adaptWrites_written (faults : AdapterFaults) (store : CommandHistoryStore)
    {event : PendingCommandTransition} (acknowledged : event.toState = .acknowledged) :
    ∀ call ∈ adaptWrites store faults event, call.Written := by
  intro call member
  unfold adaptWrites at member
  split at member
  · exact absurd member List.not_mem_nil
  · rename_i id given
    have implied : ∀ details, (StoreCall.transition
        { commandId := id, toState := .dispatched, timestamp := event.timestamp
          terminal := false, details := details }).Written :=
      fun details => .reply id .dispatched event.timestamp details (.inl rfl)
    have milestone : ∀ details, (StoreCall.transition
        { commandId := id, toState := event.toState, timestamp := event.timestamp
          terminal := false, details := details }).Written :=
      fun details => .reply id event.toState event.timestamp details (.inr acknowledged)
    dsimp only at member
    split at member
    · exact absurd member List.not_mem_nil
    · split at member
      · split at member
        · exact absurd member List.not_mem_nil
        · split at member
          · rw [List.mem_singleton.mp member]
            exact implied _
          · rcases List.mem_cons.mp member with rfl | later
            · exact implied _
            · rw [List.mem_singleton.mp later]
              exact milestone _
      · split at member
        · exact absurd member List.not_mem_nil
        · rw [List.mem_singleton.mp member]
          exact milestone _

theorem adaptAllWrites_written (faults : AdapterFaults) (store : CommandHistoryStore)
    (events : List PendingCommandTransition)
    (acknowledged : ∀ event ∈ events, event.toState = .acknowledged) :
    ∀ call ∈ adaptAllWrites faults store events, call.Written := by
  induction events generalizing store with
  | nil => exact fun call member => absurd member List.not_mem_nil
  | cons event rest ih =>
      intro call member
      rcases List.mem_append.mp member with first | later
      · exact adaptWrites_written faults store (acknowledged event List.mem_cons_self) call first
      · exact ih _ (fun event member => acknowledged event (List.mem_cons_of_mem _ member)) call
          later

theorem handlerWrites_written (s : System) (call : Nat) (outcome : HandlerOutcome) (now : Nat)
    (throws : Bool) : ∀ write ∈ s.handlerWrites call outcome now throws, write.Written := by
  unfold handlerWrites
  split
  · exact recordWrites_written (outcomeInput_written _ outcome now)
  · exact fun write member => absurd member List.not_mem_nil

theorem resolutionWrites_written (s : System) (call : Nat) (now : Nat) (throws : Bool) :
    ∀ write ∈ s.resolutionWrites call now throws, write.Written := by
  unfold resolutionWrites
  split
  · split
    · exact fun write member => absurd member List.not_mem_nil
    · exact recordWrites_written fun id => .resolved _ _ now id
  · exact fun write member => absurd member List.not_mem_nil

theorem writes_written (uuid : Nat → String) (s : System) (event : SystemEvent) :
    ∀ call ∈ s.writes uuid event, call.Written := by
  cases event with
  | execute env request now createThrows writeThrows =>
      exact s.executeWrites_written uuid env request now createThrows writeThrows
  | handlerSettles call outcome now throws =>
      exact s.handlerWrites_written call outcome now throws
  | resolutionSettles call now throws => exact s.resolutionWrites_written call now throws
  | route message now faults =>
      exact adaptAllWrites_written faults s.store _ fun event => s.reported_acknowledged message now
  | observeState => exact fun call member => absurd member List.not_mem_nil
  | timer => exact fun call member => absurd member List.not_mem_nil
  | cancel => exact fun call member => absurd member List.not_mem_nil
  | restart now =>
      intro call member
      obtain ⟨input, interrupts, rfl⟩ := List.mem_map.mp member
      obtain ⟨row, -, rfl⟩ := List.mem_map.mp interrupts
      exact .interrupted row.commandId now

theorem runWrites_written (uuid : Nat → String) (s : System) (events : List SystemEvent) :
    ∀ call ∈ s.runWrites uuid events, call.Written := by
  induction events generalizing s with
  | nil => exact fun call member => absurd member List.not_mem_nil
  | cons event rest ih =>
      intro call member
      rcases List.mem_append.mp member with first | later
      · exact s.writes_written uuid event call first
      · exact ih _ call later

end System

/-! ## No write strands a row -/

/-- A row that a write leaves incomplete is not in a terminal state. -/
def StoreCall.Sound : StoreCall → Prop
  | .create record _ => record.lifecycleState.isTerminal = false
  | .transition input => input.terminal = true ∨ input.toState.isTerminal = false
  | .reconcileInterrupted _ => True

theorem StoreCall.Written.sound {call : StoreCall} (written : call.Written) : call.Sound := by
  cases written with
  | record => rfl
  | failed | resolved | interrupted => exact .inl rfl
  | dispatched => exact .inr rfl
  | reply id state timestamp details early =>
      right
      rcases early with rfl | rfl <;> rfl

theorem System.runWrites_sound (uuid : Nat → String) (s : System) (events : List SystemEvent) :
    ∀ call ∈ s.runWrites uuid events, call.Sound :=
  fun call member => (s.runWrites_written uuid events call member).sound

/-! ## What a start finds -/

/-- The rows are stored under their ids, and those without a `terminal_at` can fail. -/
structure Recoverable (s : CommandHistoryStore) : Prop where
  keyed : s.records.KeyedBy CommandRecord.commandId
  early : ∀ c r, s.records.get c = some r → r.terminalAt = none →
    r.lifecycleState.isTerminal = false

namespace CommandHistoryStore

theorem recoverable_empty : Recoverable {} where
  keyed := OrderedMap.keyedBy_empty _
  early _ _ found := by cases found

/-- A row that is set keeps the store recoverable when it can fail or is complete. -/
theorem Recoverable.set {s s' : CommandHistoryStore} (recoverable : Recoverable s)
    {r : CommandRecord} (records : s'.records = s.records.set r.commandId r)
    (early : r.terminalAt = none → r.lifecycleState.isTerminal = false) : Recoverable s' := by
  refine ⟨?_, fun c r' found incomplete => ?_⟩
  · rw [records]
    exact recoverable.keyed.set r
  · rw [records, OrderedMap.get_set] at found
    split at found
    · cases found
      exact early incomplete
    · exact recoverable.early c r' found incomplete

theorem transition_recoverable (s : CommandHistoryStore) (input : CommandTransitionInput)
    (sound : (StoreCall.transition input).Sound) (recoverable : Recoverable s) :
    Recoverable (s.transition input) := by
  obtain ⟨-, same⟩ | ⟨current, found, -, -, moved⟩ := s.transition_cases input
  · rw [same]
    exact recoverable
  · have id : current.commandId = input.commandId := recoverable.keyed _ _ found
    have records : (s.advance current input).records =
        s.records.set (current.advance input).commandId (current.advance input) := by
      change s.records.set input.commandId _ = s.records.set current.commandId _
      rw [id]
    rw [moved]
    refine Recoverable.set recoverable records fun incomplete => ?_
    rcases sound with terminal | early
    · simp [CommandRecord.advance, terminal] at incomplete
    · exact early

theorem step_recoverable (s : CommandHistoryStore) (call : StoreCall) (recoverable : Recoverable s)
    (sound : call.Sound) : Recoverable (s.step call) := by
  cases call with
  | create record evidence =>
      obtain ⟨-, e, failed⟩ | ⟨-, s', ok, records, -⟩ := s.create_cases record evidence
      · simpa only [step, failed] using recoverable
      · simp only [step, ok]
        exact Recoverable.set recoverable records fun _ => sound
  | transition input => exact transition_recoverable s input sound recoverable
  | reconcileInterrupted now =>
      simp only [step, reconcileInterrupted_eq]
      have interrupts : ∀ input ∈ s.interruptions now, (StoreCall.transition input).Sound := by
        intro input member
        obtain ⟨row, -, rfl⟩ := List.mem_map.mp member
        exact .inl rfl
      have along : Along transition (fun _ input => (StoreCall.transition input).Sound) s
          (s.interruptions now) := along_of_forall (fun input member _ => interrupts input member) s
      exact invariant_along (fun s input recoverable sound =>
        transition_recoverable s input sound recoverable) recoverable along

/-! ## What a start leaves -/

/-- Rows of other commands are not touched by a transition. -/
theorem timeline_transition_of_ne (s : CommandHistoryStore) (input : CommandTransitionInput)
    {c : String} (other : c ≠ input.commandId) :
    (s.transition input).timeline c = s.timeline c := by
  obtain ⟨-, same⟩ | ⟨current, -, -, -, moved⟩ := s.transition_cases input
  · rw [same]
  · rw [moved, timeline_snoc rfl c, if_neg fun same => other same.symm]

/-- The command `c` was incomplete in `s`, and is failed as interrupted in `s'`, by one row
that continues its path. -/
structure Interrupted (now : Nat) (c : String) (s s' : CommandHistoryStore) : Prop where
  record : ∀ r, s.records.get c = some r →
    s'.records.get c = some (r.advance (interruption c now))
  row : ∀ r, s.records.get c = some r → ∃ t, s'.timeline c = s.timeline c ++ [t] ∧
    t.fromState = some r.lifecycleState ∧ t.toState = .failed ∧ t.timestamp = now

/-- A row that the start finds without a `terminal_at`. -/
def Incomplete (s : CommandHistoryStore) (c : String) : Prop :=
  ∃ r, s.records.get c = some r ∧ r.terminalAt = none ∧ r.lifecycleState.isTerminal = false

theorem transition_interrupted {s : CommandHistoryStore} {c : String} (incomplete : s.Incomplete c)
    (now : Nat) : Interrupted now c s (s.transition (interruption c now)) := by
  obtain ⟨current, found, open_, early⟩ := incomplete
  have can : current.lifecycleState.canTransition .failed = true := by
    rw [CommandLifecycleState.canTransition_failed, early]
    rfl
  obtain ⟨refused, -⟩ | ⟨current', found', -, -, moved⟩ := s.transition_cases (interruption c now)
  · rcases refused current found with completed | cannot
    · simp [open_] at completed
    · simp [interruption, can] at cannot
  · have same : current' = current := Option.some.inj (found'.symm.trans found)
    subst same
    constructor
    · intro r here
      cases Option.some.inj (found.symm.trans here)
      rw [moved]
      exact OrderedMap.get_set_self _ _ _
    · intro r here
      cases Option.some.inj (found.symm.trans here)
      rw [moved, timeline_snoc rfl c]
      exact ⟨_, if_pos rfl, rfl, rfl, rfl⟩

/-- A pass over distinct incomplete commands interrupts these and leaves the others. -/
theorem run_interrupted (now : Nat) (ids : List String) (distinct : ids.Nodup)
    (s : CommandHistoryStore) (incomplete : ∀ c ∈ ids, s.Incomplete c) (c : String) :
    (c ∈ ids → Interrupted now c s (run transition s (ids.map (interruption · now)))) ∧
      (c ∉ ids →
        (run transition s (ids.map (interruption · now))).records.get c = s.records.get c ∧
        (run transition s (ids.map (interruption · now))).timeline c = s.timeline c) := by
  induction ids generalizing s with
  | nil => exact ⟨fun member => absurd member List.not_mem_nil, fun _ => ⟨rfl, rfl⟩⟩
  | cons d rest ih =>
      obtain ⟨apart, distinct⟩ := List.nodup_cons.mp distinct
      rw [List.map_cons, run_cons]
      have keeps : ∀ e, e ≠ d →
          (s.transition (interruption d now)).records.get e = s.records.get e ∧
            (s.transition (interruption d now)).timeline e = s.timeline e := fun e other =>
        ⟨s.get_transition_of_ne _ other, s.timeline_transition_of_ne _ other⟩
      have still : ∀ e ∈ rest, (s.transition (interruption d now)).Incomplete e := by
        intro e member
        have other : e ≠ d := fun same => apart (same ▸ member)
        obtain ⟨r, found, open_, early⟩ := incomplete e (List.mem_cons_of_mem _ member)
        exact ⟨r, (keeps e other).1.trans found, open_, early⟩
      obtain ⟨hit, missed⟩ := ih distinct (s.transition (interruption d now)) still
      constructor
      · intro member
        rcases List.mem_cons.mp member with rfl | later
        · have first := transition_interrupted (incomplete c List.mem_cons_self) now
          obtain ⟨record, timeline⟩ := missed apart
          exact ⟨fun r found => record.trans (first.record r found),
            fun r found => timeline ▸ first.row r found⟩
        · have other : c ≠ d := fun same => apart (same ▸ later)
          obtain ⟨record, timeline⟩ := keeps c other
          have second := hit later
          refine ⟨fun r found => second.record r (record.trans found), fun r found => ?_⟩
          rw [← timeline]
          exact second.row r (record.trans found)
      · intro absent
        have other : c ≠ d := fun same => absent (same ▸ List.mem_cons_self)
        obtain ⟨record, timeline⟩ := missed fun later => absent (List.mem_cons_of_mem _ later)
        exact ⟨record.trans (keeps c other).1, timeline.trans (keeps c other).2⟩

/-- The ids of the rows without a `terminal_at`. -/
def staleIds (s : CommandHistoryStore) : List String :=
  (s.records.values.filter fun r => r.terminalAt.isNone).map CommandRecord.commandId

theorem mem_staleIds {s : CommandHistoryStore} (recoverable : Recoverable s) {c : String} :
    c ∈ s.staleIds ↔ ∃ r, s.records.get c = some r ∧ r.terminalAt = none := by
  constructor
  · intro member
    obtain ⟨r, stale, rfl⟩ := List.mem_map.mp member
    obtain ⟨value, open_⟩ := List.mem_filter.mp stale
    obtain ⟨k, found⟩ := OrderedMap.mem_values.mp value
    have same : r.commandId = k := recoverable.keyed k r found
    exact ⟨r, same ▸ found, Option.isNone_iff_eq_none.mp open_⟩
  · rintro ⟨r, found, open_⟩
    refine List.mem_map.mpr ⟨r, List.mem_filter.mpr ⟨?_, by simp [open_]⟩, ?_⟩
    · exact OrderedMap.mem_values.mpr ⟨c, found⟩
    · exact recoverable.keyed c r found

/-- Every stale row is visited. -/
theorem interruptions_eq {s : CommandHistoryStore} (recoverable : Recoverable s) (now : Nat) :
    s.interruptions now = s.staleIds.map (interruption · now) := by
  unfold interruptions staleIds
  rw [List.map_map, List.filter_eq_self.mpr]
  · rfl
  · intro r stale
    obtain ⟨value, open_⟩ := List.mem_filter.mp stale
    obtain ⟨k, found⟩ := OrderedMap.mem_values.mp value
    have early := recoverable.early k r found (Option.isNone_iff_eq_none.mp open_)
    simp [CommandLifecycleState.canTransition_failed, early]

theorem staleIds_nodup {s : CommandHistoryStore} (recoverable : Recoverable s) :
    s.staleIds.Nodup :=
  recoverable.keyed.values_nodup.sublist (List.filter_sublist.map _)

/-- What the reconciliation of a recoverable store does to one command. -/
theorem reconciled {s : CommandHistoryStore} (recoverable : Recoverable s) (now : Nat)
    (c : String) :
    ((∃ r, s.records.get c = some r ∧ r.terminalAt = none) →
      Interrupted now c s (s.reconcileInterrupted now).2) ∧
    ((¬ ∃ r, s.records.get c = some r ∧ r.terminalAt = none) →
      (s.reconcileInterrupted now).2.records.get c = s.records.get c ∧
      (s.reconcileInterrupted now).2.timeline c = s.timeline c) := by
  rw [reconcileInterrupted_eq, interruptions_eq recoverable, ← mem_staleIds recoverable]
  refine run_interrupted now s.staleIds (staleIds_nodup recoverable) s (fun d member => ?_) c
  obtain ⟨r, found, open_⟩ := (mem_staleIds recoverable).mp member
  exact ⟨r, found, open_, recoverable.early d r found open_⟩

/-- A store without incomplete rows is left alone. -/
theorem reconcileInterrupted_of_complete {s : CommandHistoryStore}
    (complete : ∀ c r, s.records.get c = some r → r.terminalAt.isSome = true) (now : Nat) :
    s.reconcileInterrupted now = (0, s) := by
  have nothing : (s.records.values.filter fun r => r.terminalAt.isNone) = [] := by
    refine List.filter_eq_nil_iff.mpr fun r value => ?_
    obtain ⟨c, found⟩ := OrderedMap.mem_values.mp value
    simpa [Option.isSome_iff_ne_none] using complete c r found
  unfold reconcileInterrupted
  rw [nothing]
  rfl

end CommandHistoryStore

open CommandHistoryStore

/-- **Crash recovery.**  Whatever part of its writes a run has made when it crashes, after
the reconciliation of the next start every record is complete; a record that was complete
keeps its row and its timeline; every other one is failed as interrupted, by one more row
of its timeline; there is no record that was not there; and a second reconciliation
changes nothing. -/
theorem crash_recovery (uuid : Nat → String) (events : List SystemEvent) (made : List StoreCall)
    (cut : made <+: System.runWrites uuid {} events) (now later : Nat) :
    let crashed := run CommandHistoryStore.step {} made
    let recovered := (crashed.reconcileInterrupted now).2
    (run (System.step uuid) {} events).store =
        run CommandHistoryStore.step {} (System.runWrites uuid {} events) ∧
      (∀ c r, recovered.records.get c = some r → r.terminalAt.isSome = true) ∧
      (∀ c r, crashed.records.get c = some r → r.terminalAt.isSome = true →
        recovered.records.get c = some r ∧ recovered.timeline c = crashed.timeline c) ∧
      (∀ c r, crashed.records.get c = some r → r.terminalAt = none →
        ∃ r' t, recovered.records.get c = some r' ∧ r'.lifecycleState = .failed ∧
          r'.failureKind = some .interrupted ∧ r'.success = some false ∧
          recovered.timeline c = crashed.timeline c ++ [t] ∧
          t.fromState = some r.lifecycleState ∧ t.toState = .failed ∧
          Path (recovered.timeline c) .failed) ∧
      (∀ c, crashed.records.get c = none → recovered.records.get c = none) ∧
      recovered.reconcileInterrupted later = (0, recovered) := by
  intro crashed recovered
  have along : Along CommandHistoryStore.step (fun _ call => call.Sound) {} made := by
    refine along_of_forall (fun call member _ => ?_) _
    exact System.runWrites_sound uuid {} events call (cut.subset member)
  have recoverable : Recoverable crashed :=
    invariant_along step_recoverable recoverable_empty along
  have wf : recovered.WF :=
    step_preserves transition_wf create_wf crashed (.reconcileInterrupted now) (run_wf made)
  have interrupted : ∀ c r, crashed.records.get c = some r → r.terminalAt = none →
      Interrupted now c crashed recovered := fun c r found open_ =>
    (reconciled recoverable now c).1 ⟨r, found, open_⟩
  have kept : ∀ c, (∀ r, crashed.records.get c = some r → r.terminalAt.isSome = true) →
      recovered.records.get c = crashed.records.get c ∧
        recovered.timeline c = crashed.timeline c := by
    intro c complete
    refine (reconciled recoverable now c).2 fun ⟨r, found, open_⟩ => ?_
    simpa [open_] using complete r found
  have complete : ∀ c r, recovered.records.get c = some r → r.terminalAt.isSome = true := by
    intro c r found
    cases before : crashed.records.get c with
    | none =>
        have same := (kept c fun r here => by rw [before] at here; cases here).1
        rw [found, before] at same
        cases same
    | some r₀ =>
        cases open_ : r₀.terminalAt with
        | none =>
            have moved := (interrupted c r₀ before open_).record r₀ before
            rw [found] at moved
            cases moved
            rfl
        | some at_ =>
            have same := (kept c fun r here => by
              cases Option.some.inj (before.symm.trans here)
              simp [open_]).1
            rw [found, before] at same
            cases same
            simp [open_]
  refine ⟨System.run_store uuid {} events, complete, fun c r found done => ?_,
    fun c r found open_ => ?_, fun c absent => ?_, reconcileInterrupted_of_complete complete later⟩
  · obtain ⟨record, timeline⟩ := kept c fun r' here => by
      cases Option.some.inj (found.symm.trans here)
      exact done
    exact ⟨record.trans found, timeline⟩
  · have hit := interrupted c r found open_
    obtain ⟨t, timeline, continues, ends, -⟩ := hit.row r found
    exact ⟨_, t, hit.record r found, rfl, rfl, rfl, timeline, continues, ends,
      wf.path c _ (hit.record r found)⟩
  · have same := (kept c fun r here => by rw [absent] at here; cases here).1
    exact same.trans absent

/-- The process stops between the record of a command and its dispatch. -/
def cutOff : List StoreCall :=
  (System.runWrites unaryIds {} earlyReply).take 1

theorem crash_recovery_cut_off :
    ∃ r, ((run CommandHistoryStore.step {} cutOff).reconcileInterrupted 9).2.records.get
        (unaryIds 0) = some r ∧ r.lifecycleState = .failed ∧ r.failureKind = some .interrupted := by
  obtain ⟨-, -, -, incomplete, -, -⟩ := crash_recovery unaryIds earlyReply cutOff
    (List.take_prefix 1 _) 9 10
  obtain ⟨r, t, found, failed, kind, -⟩ := incomplete (unaryIds 0) _ rfl rfl
  exact ⟨r, found, failed, kind⟩

end Aeolus.Automations
