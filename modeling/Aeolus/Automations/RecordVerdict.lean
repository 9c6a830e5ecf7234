/-
# Aeolus.Automations.RecordVerdict — what a stored command says of its outcome

A reader of the command history sees one row of `command_records` and the rows of
`command_transitions` that belong to it, and nothing of the call that wrote them.
`Told` is what these say to such a reader: the tier's own state is among the rows
exactly if the command is complete and a success, a failure state exactly if it is
complete and a failure, and a tier above `dispatch` is backed by the capability that
was recorded at acceptance.

Every transition the system writes `Suits` the record it is about, whichever writes are
lost and however replies, timers and restarts fall between the segments of a call, so
every stored command is told at every point of a run (`run_told`).
-/
import Aeolus.Automations.CommandAgreement

namespace Aeolus.Automations

open Aeolus.Theory
open Aeolus.Core

/-! ## The outcome of a command, in its rows -/

/-- The state that satisfies a tier. -/
def ConfirmationTier.target : ConfirmationTier → CommandLifecycleState
  | .dispatch => .dispatched
  | .acknowledged => .acknowledged
  | .observed => .observed

namespace CommandLifecycleState

def isFailure : CommandLifecycleState → Bool
  | .failed => true
  | .timedOut => true
  | .stateMismatch => true
  | _ => false

end CommandLifecycleState

theorem ConfirmationTier.target_eq_dispatched {tier : ConfirmationTier}
    (dispatched : tier.target = .dispatched) : tier = .dispatch := by
  cases tier with
  | dispatch => rfl
  | acknowledged => cases dispatched
  | observed => cases dispatched

theorem CommandLifecycleState.eq_observed {state : CommandLifecycleState}
    (terminal : state.isTerminal = true) (early : state.isFailure = false) : state = .observed := by
  revert terminal early
  cases state <;> decide

structure Told (r : CommandRecord) (rows : List CommandTransition) : Prop where
  known : r.ackAvailable.isSome = true
  acknowledges : r.effectiveTier = .acknowledged → r.ackAvailable = some true
  observes : r.effectiveTier = .observed → r.observationConfigured = some true
  undecided : r.terminalAt = none → r.success = none
  proven : (∃ t ∈ rows, t.toState = r.effectiveTier.target) ↔
    r.terminalAt.isSome = true ∧ r.success = some true
  refuted : (∃ t ∈ rows, t.toState.isFailure = true) ↔
    r.terminalAt.isSome = true ∧ r.success = some false

/-- A write that says of `r` what its target state says. -/
structure Suits (r : CommandRecord) (input : CommandTransitionInput) : Prop where
  proves : input.toState = r.effectiveTier.target ↔
    input.terminal = true ∧ input.success = some true
  refutes : input.toState.isFailure = true ↔ input.terminal = true ∧ input.success = some false
  milestone : input.terminal = false → input.success = none

/-- A failure suits every record. -/
theorem suits_failure (r : CommandRecord) {input : CommandTransitionInput}
    (failure : input.toState.isFailure = true) (terminal : input.terminal = true)
    (success : input.success = some false) : Suits r input where
  proves := by
    refine iff_of_false (fun same => ?_) fun claims => ?_
    · rw [same] at failure
      cases tier : r.effectiveTier <;> rw [tier] at failure <;> cases failure
    · rw [success] at claims
      cases claims.2
  refutes := iff_of_true failure ⟨terminal, success⟩
  milestone running := by
    rw [terminal] at running
    cases running

/-- A milestone suits a record of a higher tier. -/
theorem suits_milestone (r : CommandRecord) {input : CommandTransitionInput}
    (below : input.toState ≠ r.effectiveTier.target) (early : input.toState.isFailure = false)
    (running : input.terminal = false) (success : input.success = none) : Suits r input where
  proves := iff_of_false below fun claims => by
    rw [running] at claims
    cases claims.1
  refutes := by
    rw [early, running]
    simp
  milestone _ := success

/-- The completing write of a success suits a record of its tier. -/
theorem suits_success (r : CommandRecord) {input : CommandTransitionInput}
    (reached : input.toState = r.effectiveTier.target) (terminal : input.terminal = true)
    (success : input.success = some true) : Suits r input where
  proves := iff_of_true reached ⟨terminal, success⟩
  refutes := by
    refine iff_of_false (fun failure => ?_) fun claims => ?_
    · rw [reached] at failure
      cases tier : r.effectiveTier <;> rw [tier] at failure <;> cases failure
    · rw [success] at claims
      cases claims.2
  milestone running := by
    rw [terminal] at running
    cases running

theorem Told.advance {r : CommandRecord} {rows : List CommandTransition}
    {input : CommandTransitionInput} {t : CommandTransition} (told : Told r rows)
    (open_ : r.terminalAt = none) (suits : Suits r input) (row : t.toState = input.toState) :
    Told (r.advance input) (rows ++ [t]) := by
  have undecided := told.undecided open_
  -- before a completing write no row decides
  have before : (¬ ∃ t ∈ rows, t.toState = r.effectiveTier.target) ∧
      ¬ ∃ t ∈ rows, t.toState.isFailure = true := by
    rw [told.proven, told.refuted, open_]
    simp
  have completes : (r.advance input).terminalAt.isSome = true ↔ input.terminal = true := by
    cases terminal : input.terminal <;> simp [CommandRecord.advance, terminal]
  have verdict : (r.advance input).success = input.success := by
    simp [CommandRecord.advance, undecided]
  refine ⟨told.known, told.acknowledges, told.observes, fun running => ?_, ?_, ?_⟩
  · rw [verdict]
    apply suits.milestone
    cases terminal : input.terminal with
    | false => rfl
    | true => simp [CommandRecord.advance, terminal] at running
  · rw [completes, verdict, ← suits.proves, ← row]
    constructor
    · rintro ⟨u, member, reached⟩
      rcases List.mem_append.mp member with old | new
      · exact absurd ⟨u, old, reached⟩ before.1
      · rw [← List.mem_singleton.mp new]
        exact reached
    · intro reached
      exact ⟨t, by simp, reached⟩
  · rw [completes, verdict, ← suits.refutes, ← row]
    constructor
    · rintro ⟨u, member, failed⟩
      rcases List.mem_append.mp member with old | new
      · exact absurd ⟨u, old, failed⟩ before.2
      · rw [← List.mem_singleton.mp new]
        exact failed
    · intro failed
      exact ⟨t, by simp, failed⟩

/-! ## The store -/

namespace CommandHistoryStore

def AllTold (s : CommandHistoryStore) : Prop :=
  ∀ c r, s.records.get c = some r → Told r (s.timeline c)

theorem AllTold.transition {s : CommandHistoryStore} (all : s.AllTold)
    {input : CommandTransitionInput}
    (suits : ∀ r, s.records.get input.commandId = some r → Suits r input) :
    (s.transition input).AllTold := by
  obtain ⟨-, same⟩ | ⟨current, found, open_, -, moved⟩ := s.transition_cases input
  · rw [same]
    exact all
  · rw [moved]
    intro c r here
    change (s.records.set input.commandId _).get c = some r at here
    rw [OrderedMap.get_set] at here
    rw [timeline_snoc rfl c]
    split at here
    · rename_i mine
      cases here
      rw [if_pos mine.symm, mine]
      exact (all _ _ found).advance open_ (suits current found) rfl
    · rename_i other
      rw [if_neg fun same => other same.symm]
      exact all c r here

/-- The start-up reconciliation only writes failures. -/
theorem AllTold.reconcile {s : CommandHistoryStore} (all : s.AllTold) (now : Nat) :
    (s.reconcileInterrupted now).2.AllTold := by
  rw [reconcileInterrupted_eq]
  have along : Along CommandHistoryStore.transition
      (fun _ input => ∀ r, Suits r input) s (s.interruptions now) := by
    refine along_of_forall (fun input member _ r => ?_) s
    obtain ⟨row, -, rfl⟩ := List.mem_map.mp member
    exact suits_failure r rfl rfl rfl
  exact invariant_along (fun s input all suits => all.transition fun r _ => suits r) all along

/-- A fact about the tiers of the stored commands; no transition changes a tier. -/
def Tiers (Q : String → ConfirmationTier → Prop) (s : CommandHistoryStore) : Prop :=
  ∀ c r, s.records.get c = some r → Q c r.effectiveTier

theorem Tiers.transition {Q : String → ConfirmationTier → Prop} (s : CommandHistoryStore)
    (input : CommandTransitionInput) (tiers : s.Tiers Q) : (s.transition input).Tiers Q := by
  obtain ⟨-, same⟩ | ⟨current, found, -, -, moved⟩ := s.transition_cases input
  · rw [same]
    exact tiers
  · rw [moved]
    intro c r here
    change (s.records.set input.commandId _).get c = some r at here
    rw [OrderedMap.get_set] at here
    split at here
    · rename_i mine
      cases here
      rw [mine]
      show Q input.commandId current.effectiveTier
      exact tiers _ _ found
    · exact tiers c r here

end CommandHistoryStore

open CommandHistoryStore

/-! ## Only an observation makes `OBSERVED` -/

/-- A command that waits for an acknowledgement is never resolved as observed. -/
def Measured (command : PendingCommand) (l : View) : Prop :=
  ∀ resolution ∈ l.outcome, resolution.lifecycleState = .observed →
    command.requiredTier = .observed

namespace TrackedEntry

theorem finalize_measured (entry : TrackedEntry) (target : CommandLifecycleState) (success : Bool)
    (error : Option String) (fits : target = .observed → entry.command.requiredTier = .observed) :
    Measured entry.command (entry.finalize target success error) := by
  unfold finalize
  split
  · intro resolution member
    cases member
  · intro resolution member reached
    have only : resolution = ⟨target, success, error.filter (· ≠ "")⟩ :=
      List.mem_singleton.mp member
    rw [only] at reached
    exact fits reached

/-- Reports ahead of a reaction settle nothing. -/
theorem measured_report {entry : TrackedEntry} {reaction : Reaction}
    (measured : Measured entry.command reaction) {reported : List Callback}
    (silent : reported.filterMap Callback.resolution = []) :
    Measured entry.command (reaction.1, reported ++ reaction.2) := by
  have same : View.outcome (reaction.1, reported ++ reaction.2) = View.outcome reaction := by
    simp only [View.outcome, List.filterMap_append, silent, List.nil_append]
  unfold Measured
  rw [same]
  exact measured

theorem measured_silent (entry : TrackedEntry) (held : Option TrackedEntry)
    {reported : List Callback} (silent : reported.filterMap Callback.resolution = []) :
    Measured entry.command (held, reported) := by
  intro resolution member
  simp only [View.outcome, silent] at member
  cases member

theorem evaluateObservation_measured (entry : TrackedEntry) (state : JsonObject) (settled : Bool)
    (tier : entry.command.requiredTier = .observed) :
    Measured entry.command (entry.evaluateObservation state settled) := by
  unfold evaluateObservation
  split
  · exact measured_silent entry _ rfl
  · split
    · exact finalize_measured entry _ _ _ fun _ => tier
    · exact finalize_measured entry _ _ _ fun _ => tier
    · split
      · exact finalize_measured entry _ _ _ fun _ => tier
      · exact measured_silent entry _ rfl

theorem route_measured (entry : TrackedEntry) (message : AckMessage) (now : Nat) :
    Measured entry.command (entry.route message now) := by
  unfold route
  split
  · exact finalize_measured entry _ _ _ fun failed => by cases failed
  · obtain ⟨entry', advanced, same, command⟩ : ∃ entry' advanced,
        entry.acknowledge message = (entry', advanced) ∧ entry'.command = entry.command := by
      obtain same | ⟨-, same⟩ := acknowledge_cases entry message
      · exact ⟨_, _, same, rfl⟩
      · exact ⟨_, _, same, rfl⟩
    rw [same, ← command]
    dsimp only
    split
    · exact finalize_measured entry' _ _ _ fun acknowledged => by cases acknowledged
    · generalize hr : (if advanced = true then _ else _ : List Callback) = reported
      have silent : reported.filterMap Callback.resolution = [] := by
        rw [← hr]
        split <;> rfl
      split
      · exact measured_silent entry' _ silent
      · split
        · rename_i tier
          exact measured_report (evaluateObservation_measured entry' _ true tier) silent
        · exact measured_silent entry' _ silent

end TrackedEntry

theorem Reacts.measured {react : TrackedEntry → Reaction} (reacts : Reacts react)
    (entry : TrackedEntry) : Measured entry.command (react entry) := by
  cases reacts with
  | route message now => exact entry.route_measured message now
  | observe deviceId state =>
      show Measured entry.command (entry.observe deviceId state)
      unfold TrackedEntry.observe
      split
      · exact entry.measured_silent _ rfl
      · rename_i tier
        split
        · exact entry.measured_silent _ rfl
        · exact entry.evaluateObservation_measured state false (not_not.mp tier)
  | cancel =>
      intro resolution member reached
      rw [List.mem_singleton.mp member] at reached
      cases reached
  | timeout => exact entry.finalize_measured _ _ _ fun timedOut => by cases timedOut

theorem localStep_measured {command : PendingCommand} {k : String} {l : View}
    {event : TrackerEvent} (plain : event.registers = none) (waiting : Waiting command l)
    (measured : Measured command l) : Measured command (localStep k l event) := by
  obtain same | ⟨-, late⟩ | ⟨react, reacts, acts⟩ := localStep_cases k l event plain
  · rw [same]
    exact measured
  · rw [late]
    unfold Measured
    rw [View.outcome_late]
    exact measured
  · rw [acts]
    obtain ⟨held, callbacks⟩ := l
    rcases waiting with ⟨state, rfl, -, pending⟩ | ⟨rfl, -⟩
    · exact TrackedEntry.measured_report (reacts.measured ⟨command, state⟩) pending
    · exact measured

/-! ## The system -/

/-- What ties the records to the calls that write them. -/
structure System.Tells (s : System) : Prop where
  wf : s.store.WF
  told : s.store.AllTold
  tiers : ∀ i a phase c, s.executions.get i = some ⟨some a, phase⟩ → a.commandId = some c →
    s.store.Tiers fun id tier => id = c → tier = a.tier
  measured : ∀ i a phase k, s.executions.get i = some ⟨some a, phase⟩ → phase.live = true →
    a.correlationId = some k → Measured (a.pendingCommand k) (s.tracker.view k)

theorem tells_init : System.Tells {} where
  wf := wf_empty
  told _ _ found := by cases found
  tiers _ _ _ _ found := by cases found
  measured _ _ _ _ found := by cases found

section Steps

variable {uuid : Nat → String} {s : System}

/-- A tracker event that registers nothing. -/
theorem System.Tells.track (tells : s.Tells) (inv : s.Inv uuid) (event : TrackerEvent)
    (plain : event.registers = none) : System.Tells { s with tracker := s.tracker.step event } where
  wf := tells.wf
  told := tells.told
  tiers := tells.tiers
  measured i a phase k here live correlated := by
    show Measured _ ((s.tracker.step event).view k)
    rw [s.tracker.view_step k event inv.keyed]
    exact localStep_measured plain ((inv.underWay i a phase here live).waiting k correlated)
      (tells.measured i a phase k here live correlated)

/-- The store changes by a write that suits the record it is about. -/
theorem System.Tells.record (tells : s.Tells) (commandId : Option String) (throws : Bool)
    {input : String → CommandTransitionInput} (own : ∀ id, (input id).commandId = id)
    (suits : ∀ c r, commandId = some c → s.store.records.get c = some r → Suits r (input c)) :
    System.Tells { s with store := recordTransition s.store commandId throws input } where
  wf := recordTransition_preserves transition_wf tells.wf _ _ _
  told := by
    unfold recordTransition
    split
    · exact tells.told
    · rename_i id
      split
      · exact tells.told
      · exact tells.told.transition fun r found => suits id r rfl (own id ▸ found)
  tiers i a phase c here mine :=
    recordTransition_preserves Tiers.transition (tells.tiers i a phase c here mine) _ _ _
  measured := tells.measured

/-- A call moves to another phase, and is under way only if it was. -/
theorem System.Tells.advance (tells : s.Tells) {call : Nat} {a : Accepted} {before : Phase}
    (after : Phase) (here : s.executions.get call = some ⟨some a, before⟩)
    (later : after.live = true → before.live = true) : System.Tells (s.advanceTo call a after) := by
  refine ⟨tells.wf, tells.told, fun i b phase c found => ?_, fun i b phase k found live => ?_⟩
  · obtain ⟨phase', found', -⟩ := advanced_from here later found
    exact tells.tiers i b phase' c found'
  · obtain ⟨phase', found', was⟩ := advanced_from here later found
    exact tells.measured i b phase' k found' (was live)

theorem System.Tells.tier (tells : s.Tells) {call : Nat} {a : Accepted} {phase : Phase}
    {c : String} {r : CommandRecord} (here : s.executions.get call = some ⟨some a, phase⟩)
    (mine : a.commandId = some c) (found : s.store.records.get c = some r) :
    r.effectiveTier = a.tier :=
  tells.tiers call a phase c here mine c r found rfl

/-- A refused request is a call without a command. -/
theorem System.Tells.refuse (tells : s.Tells) (phase : Phase) :
    System.Tells (s.begin none phase) := by
  refine ⟨tells.wf, tells.told, fun i b ph c found => ?_, fun i b ph k found => ?_⟩
  · exact tells.tiers i b ph c (refused_from found)
  · exact tells.measured i b ph k (refused_from found)

/-- An accepted command enters, with its record in the store or without. -/
theorem System.Tells.enter (tells : s.Tells) (inv : s.Inv uuid) {a : Accepted} {n : Nat}
    (entering : Entering uuid s a n) {store : CommandHistoryStore}
    {tracker : PendingCommandTracker} {phase : Phase} (wf : store.WF) (told : store.AllTold)
    (others : ∀ c, Drawn uuid s.uuids c → store.records.get c = s.store.records.get c)
    (own : ∀ c r, a.commandId = some c → store.records.get c = some r → r.effectiveTier = a.tier)
    (registers : Registers a phase s.tracker tracker) :
    System.Tells
      ({ s with store := store, tracker := tracker, uuids := n }.begin (some a) phase) := by
  refine ⟨wf, told, fun i b ph c found mine id r stored same => ?_,
    fun i b ph k found live correlated => ?_⟩
  · rw [same] at stored
    rcases begun_from found with ⟨-, ⟨⟩, -⟩ | old
    · exact own c r mine stored
    · have drawn := (inv.drawn i b ph old).1 c mine
      exact tells.tier old mine ((others c drawn).symm.trans stored)
  · show Measured _ (tracker.view k)
    rcases begun_from found with ⟨-, ⟨⟩, rfl⟩ | old
    · have unknown := inv.unknown k (entering.correlation k correlated).2
      rcases registers.own inv.keyed correlated with ⟨dead, -⟩ | seen
      · rw [dead] at live
        cases live
      · rw [seen]
        intro resolution member
        rw [View.outcome] at member
        have nothing : (s.tracker.view k).2.filterMap Callback.resolution = [] := unknown.2
        rw [nothing] at member
        cases member
    · have drawn := (inv.drawn i b ph old).2 k correlated
      have notMine : a.correlationId ≠ some k := fun mine =>
        (entering.correlation k mine).2 drawn
      rw [registers.elsewhere inv.keyed notMine]
      exact tells.measured i b ph k old live correlated

/-- The record of an accepted command, before anything has happened to it. -/
theorem told_record (env : Environment) {a : Accepted} (id : String) (now : Nat)
    (acknowledges : a.tier = .acknowledged → a.hasAckCapability = true)
    (observes : a.tier = .observed → a.request.confirm.isSome = true) {t : CommandTransition}
    (opens : t.toState = .requested) : Told (a.record env id now) [t] where
  known := rfl
  acknowledges tier := congrArg some (acknowledges tier)
  observes tier := congrArg some (observes tier)
  undecided _ := rfl
  proven := by
    refine iff_of_false ?_ fun claims => by cases claims.1
    rintro ⟨u, member, reached⟩
    rw [List.mem_singleton.mp member, opens] at reached
    cases tier : (a.record env id now).effectiveTier <;> rw [tier] at reached <;> cases reached
  refuted := by
    refine iff_of_false ?_ fun claims => by cases claims.1
    rintro ⟨u, member, failed⟩
    rw [List.mem_singleton.mp member, opens] at failed
    cases failed

/-- A tier is granted only with the capability that proves it. -/
theorem accept_capable (env : Environment) (request : CommandRequest) (uuids : Nat) :
    ((accept uuid uuids env request).1.tier = .acknowledged →
        (accept uuid uuids env request).1.hasAckCapability = true) ∧
      ((accept uuid uuids env request).1.tier = .observed →
        (accept uuid uuids env request).1.request.confirm.isSome = true) := by
  have same : (accept uuid uuids env request).1.hasAckCapability =
      (env.ackCapability request.action.target).elim false (·.supported) := by
    unfold Accepted.hasAckCapability accept
    cases env.ackCapability request.action.target <;> rfl
  rw [same]
  unfold accept
  dsimp only
  generalize (env.ackCapability request.action.target).elim false (·.supported) = hasAck
  generalize request.confirm.isSome = hasConfirm
  cases request.requiredTier with
  | none => cases hasAck <;> cases hasConfirm <;> decide
  | some tier => cases tier <;> cases hasAck <;> cases hasConfirm <;> decide

/-- What a created record leaves of the tables. -/
theorem createRecord_told (tells : s.Tells) {a : Accepted} {env : Environment} {now : Nat}
    {throws : Bool} {store : CommandHistoryStore}
    (acknowledges : a.tier = .acknowledged → a.hasAckCapability = true)
    (observes : a.tier = .observed → a.request.confirm.isSome = true)
    (created : System.createRecord s.store env a now throws = some store) :
    store.WF ∧ store.AllTold ∧
      ∀ c r, a.commandId = some c → store.records.get c = some r → r.effectiveTier = a.tier := by
  unfold System.createRecord at created
  cases command : a.commandId with
  | none =>
      rw [command] at created
      cases created
      exact ⟨tells.wf, tells.told, fun c r mine => by cases mine⟩
  | some id =>
      rw [command] at created
      dsimp only at created
      split at created
      · cases created
      · obtain ⟨-, e, failed⟩ | ⟨free, store', ok, set, grown⟩ :=
          s.store.create_cases (a.record env id now) a.requestedEvidence
        · rw [failed] at created
          cases created
        · rw [ok] at created
          cases created
          have empty : s.store.timeline id = [] := by
            refine List.filter_eq_nil_iff.mpr fun t member same => ?_
            have same : t.commandId = id := by simpa using same
            exact tells.wf.owned t member (same ▸ get_of_not_taken free)
          refine ⟨create_wf _ _ _ _ ok tells.wf, fun c r found => ?_, fun c r mine found => ?_⟩
          · rw [set, OrderedMap.get_set] at found
            rw [timeline_snoc grown c]
            split at found
            · rename_i same
              cases found
              rw [if_pos same.symm, same]
              show Told _ (s.store.timeline id ++ _)
              rw [empty]
              exact told_record env id now acknowledges observes rfl
            · rename_i other
              rw [if_neg fun same => other same.symm]
              exact tells.told c r found
          · cases mine
            rw [set] at found
            change (s.store.records.set id _).get id = some r at found
            rw [OrderedMap.get_set_self] at found
            cases found
            rfl

theorem execute_tells (fresh : Function.Injective uuid) (inv : s.Inv uuid) (tells : s.Tells)
    (env : Environment) (request : CommandRequest) (now : Nat) (createThrows writeThrows : Bool) :
    (s.execute uuid env request now createThrows writeThrows).Tells := by
  unfold System.execute
  split
  · exact tells.refuse _
  · have entering := accept_entering fresh s env request
    obtain ⟨acknowledges, observes⟩ := @accept_capable uuid env request s.uuids
    generalize accept uuid s.uuids env request = accepted at entering acknowledges observes
    obtain ⟨a, n⟩ := accepted
    dsimp only at entering acknowledges observes ⊢
    split
    · refine tells.enter inv entering tells.wf tells.told (fun _ _ => rfl) ?_
        (.inl ⟨rfl, fun live => by cases live⟩)
      intro c r mine found
      exact absurd (inv.stored c r found).1 (entering.command c mine).2
    · rename_i store created
      obtain ⟨wf, told, own⟩ := createRecord_told tells acknowledges observes created
      have others := createRecord_others entering created
      split
      · have entered : ({ s with store := store, uuids := n }.begin (some a) (.settled
            (a.withId (refusal (System.notFoundError a) .notFound)) (!writeThrows))).Tells :=
          tells.enter inv entering wf told others own (.inl ⟨rfl, fun live => by cases live⟩)
        refine entered.record a.commandId writeThrows (fun _ => rfl) fun c r _ _ => ?_
        exact suits_failure r rfl rfl rfl
      · split
        · rename_i untracked
          exact tells.enter inv entering wf told others own (.inl ⟨rfl, fun _ => untracked⟩)
        · rename_i k tracked
          exact tells.enter inv entering wf told others own (.inr ⟨k, tracked, rfl⟩)

/-- A call settles: a completing write that suits its record, and its result. -/
theorem System.Tells.settle (tells : s.Tells) {call : Nat} {a : Accepted} {before : Phase}
    (here : s.executions.get call = some ⟨some a, before⟩) (result : ActionResult) (throws : Bool)
    {input : String → CommandTransitionInput} (own : ∀ id, (input id).commandId = id)
    (suits : ∀ c r, r.effectiveTier = a.tier → Suits r (input c)) :
    System.Tells
      ({ s with store := recordTransition s.store a.commandId throws input }.advanceTo call a
        (.settled result (!throws))) := by
  have settled := tells.advance (.settled result (!throws)) here (fun live => by cases live)
  exact settled.record a.commandId throws own fun c r mine found =>
    suits c r (tells.tier here mine found)

theorem failDispatch_tells (inv : s.Inv uuid) (tells : s.Tells) {call : Nat} {a : Accepted}
    {phase : Phase} (here : s.executions.get call = some ⟨some a, phase⟩) (result : ActionResult)
    {input : String → CommandTransitionInput} (own : ∀ id, (input id).commandId = id)
    (suits : ∀ c r, Suits r (input c)) (throws : Bool) :
    (s.failDispatch call a result input throws).Tells := by
  unfold System.failDispatch
  cases a.correlationId with
  | none => exact tells.settle here _ throws own fun c r _ => suits c r
  | some k =>
      exact (tells.track inv (.cancel k) rfl).settle here _ throws own fun c r _ => suits c r

theorem handlerSettles_tells (inv : s.Inv uuid) (tells : s.Tells) (call : Nat)
    (outcome : HandlerOutcome) (now : Nat) (throws : Bool) :
    (s.handlerSettles call outcome now throws).Tells := by
  unfold System.handlerSettles
  split
  · rename_i a here
    split
    · exact failDispatch_tells inv tells here _ (fun _ => rfl)
        (fun _ r => suits_failure r rfl rfl rfl) throws
    · exact failDispatch_tells inv tells here _ (fun _ => rfl)
        (fun _ r => suits_failure r rfl rfl rfl) throws
    · by_cases dispatch : a.tier = .dispatch
      · simp only [dispatch, decide_true, if_true]
        refine tells.settle here _ throws (fun _ => rfl) fun c r tier => ?_
        refine suits_success r ?_ rfl rfl
        rw [tier, dispatch]
        rfl
      · simp only [dispatch, decide_false, Bool.false_eq_true, if_false]
        have wrote : System.Tells { s with
            store := recordTransition s.store a.commandId throws (dispatchedInput now false) } := by
          refine tells.record a.commandId throws (fun _ => rfl) fun c r mine found => ?_
          refine suits_milestone r (fun same => dispatch ?_) rfl rfl rfl
          rw [tells.tier here mine found] at same
          exact ConfirmationTier.target_eq_dispatched same.symm
        exact wrote.advance (.awaiting _) here fun _ => rfl
  · exact tells

/-- The resolution of a waiting call: the state of its tier, or a failure. -/
theorem resolution_suits (inv : s.Inv uuid) (tells : s.Tells) {call : Nat} {a : Accepted}
    {phase : Phase} (here : s.executions.get call = some ⟨some a, phase⟩) (live : phase.live = true)
    {resolution : PendingResolution} (settled : s.resolutionOf a = some resolution) (now : Nat)
    (c : String) {r : CommandRecord} (tier : r.effectiveTier = a.tier) :
    Suits r (resolvedInput a resolution now c) := by
  have fits := resolution_fits inv here live settled
  obtain ⟨k, correlated, first⟩ := Option.bind_eq_some_iff.mp settled
  have member : resolution ∈ (s.tracker.view k).outcome := List.mem_of_mem_head? first
  have measured := tells.measured call a phase k here live correlated resolution member
  have tracked : a.tier ≠ .dispatch := fun dispatch => by
    rw [(inv.tracked call a phase here).mpr dispatch] at correlated
    cases correlated
  have success : (resolvedInput a resolution now c).success =
      some resolution.lifecycleState.isSuccessState := congrArg some fits.verdict
  have target := fits.of_tier
  have state : (resolvedInput a resolution now c).toState = resolution.lifecycleState := rfl
  generalize resolution.lifecycleState = reached at measured success target state
  cases failure : reached.isFailure with
  | true =>
      refine suits_failure r (state ▸ failure) rfl (success.trans ?_)
      cases reached <;> first | rfl | cases failure
  | false =>
      refine suits_success r (state.trans ?_) rfl (success.trans ?_)
      · rw [tier]
        rcases target with ⟨rfl, acknowledged⟩ | terminal
        · rw [acknowledged]
          rfl
        · obtain rfl := CommandLifecycleState.eq_observed terminal failure
          have needs := measured rfl
          cases a_tier : a.tier with
          | dispatch => exact absurd a_tier tracked
          | acknowledged => simp [Accepted.pendingCommand, a_tier] at needs
          | observed => rfl
      · rcases target with ⟨rfl, -⟩ | terminal
        · rfl
        · rw [CommandLifecycleState.eq_observed terminal failure]
          rfl

theorem resolutionSettles_tells (inv : s.Inv uuid) (tells : s.Tells) (call now : Nat)
    (throws : Bool) : (s.resolutionSettles call now throws).Tells := by
  unfold System.resolutionSettles
  split
  · rename_i a data here
    split
    · exact tells
    · rename_i resolution settled
      exact tells.settle here _ throws (fun _ => rfl) fun c r tier =>
        resolution_suits inv tells here rfl settled now c tier
  · exact tells

/-- The adapter writes milestones below the tier of an observed command. -/
theorem adaptTransition_told {store : CommandHistoryStore} (told : store.AllTold)
    (faults : System.AdapterFaults) {event : PendingCommandTransition}
    (acknowledges : event.toState = .acknowledged)
    (tier : store.Tiers fun id tier => event.commandId = some id → tier = .observed) :
    (System.adaptTransition store faults event).AllTold := by
  unfold System.adaptTransition
  cases command : event.commandId with
  | none => exact told
  | some id =>
      have milestone (store' : CommandHistoryStore) (told' : store'.AllTold)
          (tier' : store'.Tiers fun c tier => event.commandId = some c → tier = .observed)
          (input : CommandTransitionInput) (mine : input.commandId = id)
          (below : input.toState = .dispatched ∨ input.toState = .acknowledged)
          (running : input.terminal = false) (success : input.success = none) :
          (store'.transition input).AllTold := by
        refine told'.transition fun r found => ?_
        rw [mine] at found
        have observed := tier' id r found command
        refine suits_milestone r ?_ ?_ running success
        · rw [observed]
          rcases below with same | same <;> rw [same] <;> decide
        · rcases below with same | same <;> rw [same] <;> rfl
      dsimp only
      split
      · exact told
      · split
        · split
          · exact told
          · have implied := milestone store told tier
              { commandId := id, toState := .dispatched, timestamp := event.timestamp
                terminal := false
                details := buildCommandEvidence
                  { reason := some ("Inferred from the device's reply, which arrived before " ++
                      "the dispatch was recorded") } } rfl (.inl rfl) rfl rfl
            split
            · exact implied
            · exact milestone _ implied (tier.transition _ _) _ rfl (.inr acknowledges) rfl rfl
        · split
          · exact told
          · exact milestone _ told tier _ rfl (.inr acknowledges) rfl rfl

theorem route_tells (inv : s.Inv uuid) (tells : s.Tells) (message : AckMessage) (now : Nat)
    (faults : System.AdapterFaults) : (s.route message now faults).Tells := by
  have tracked := tells.track inv (.route message now) rfl
  simp only [System.route, route_reported]
  cases found : s.tracker.pending.get message.correlationId with
  | none => exact tracked
  | some entry =>
      dsimp only [Option.elim]
      -- every report is about the command of the entry, which waits for an observation
      have about : ∀ event ∈ (entry.route message now).2.filterMap Callback.transition,
          event.toState = .acknowledged ∧
            s.store.Tiers fun id tier => event.commandId = some id → tier = .observed := by
        intro event member
        obtain ⟨acknowledges, command, needs⟩ := route_reports member
        refine ⟨acknowledges, fun c r stored mine => ?_⟩
        obtain ⟨j, a, phase, here, correlated, same⟩ := inv.owner _ entry found
        rw [same] at command needs
        have owned : a.commandId = some c := by
          rw [mine] at command
          exact (Option.filter_eq_some_iff.mp command.symm).1
        have tier := tells.tier here owned stored
        cases a_tier : a.tier with
        | dispatch =>
            rw [(inv.tracked j a phase here).mpr a_tier] at correlated
            cases correlated
        | acknowledged => simp [Accepted.pendingCommand, a_tier] at needs
        | observed => exact tier.trans a_tier
      have preserves (Q : String → ConfirmationTier → Prop) (store : CommandHistoryStore)
          (event : PendingCommandTransition) (tiers : store.Tiers Q) :
          (System.adaptTransition store faults event).Tiers Q :=
        adaptTransition_preserves Tiers.transition tiers faults event
      have adapted : ∀ (events : List PendingCommandTransition) (store : CommandHistoryStore),
          store.WF → store.AllTold →
          (∀ event ∈ events, event.toState = .acknowledged ∧
            store.Tiers fun id tier => event.commandId = some id → tier = .observed) →
          (events.foldl (fun store event => System.adaptTransition store faults event)
              store).WF ∧
            (events.foldl (fun store event => System.adaptTransition store faults event)
              store).AllTold := by
        intro events
        induction events with
        | nil => exact fun store wf told _ => ⟨wf, told⟩
        | cons event events ih =>
            intro store wf told fits
            obtain ⟨acknowledges, tier⟩ := fits event List.mem_cons_self
            refine ih _ (adaptTransition_preserves transition_wf wf faults event)
              (adaptTransition_told told faults acknowledges tier) fun later member => ?_
            obtain ⟨acknowledges', tier'⟩ := fits later (List.mem_cons_of_mem _ member)
            exact ⟨acknowledges', preserves _ _ _ tier'⟩
      obtain ⟨wf, told⟩ := adapted _ s.store tells.wf tells.told about
      refine ⟨wf, told, fun i a phase c here mine => ?_, tracked.measured⟩
      exact run_invariant (preserves _) (tells.tiers i a phase c here mine) _

theorem restart_tells (tells : s.Tells) (now : Nat) : (s.restart now).Tells := by
  refine ⟨reconcile_preserves transition_wf tells.wf now, tells.told.reconcile now,
    fun i b ph c found mine => ?_, fun i b ph k found live => ?_⟩
  · obtain ⟨-, ph', here⟩ := survived_from found
    exact reconcile_preserves Tiers.transition (tells.tiers i b ph' c here mine) now
  · obtain ⟨dead, -⟩ := survived_from found
    rw [dead] at live
    cases live

theorem step_tells (fresh : Function.Injective uuid) (s : System) (event : SystemEvent)
    (holds : s.Inv uuid ∧ s.Tells) : (s.step uuid event).Inv uuid ∧ (s.step uuid event).Tells := by
  obtain ⟨inv, tells⟩ := holds
  refine ⟨step_inv fresh s event inv, ?_⟩
  cases event with
  | execute env request now createThrows writeThrows =>
      exact execute_tells fresh inv tells env request now createThrows writeThrows
  | handlerSettles call outcome now throws =>
      exact handlerSettles_tells inv tells call outcome now throws
  | resolutionSettles call now throws => exact resolutionSettles_tells inv tells call now throws
  | route message now faults => exact route_tells inv tells message now faults
  | observeState deviceId state => exact tells.track inv (.observeState deviceId state) rfl
  | timer id => exact tells.track inv (.timer id) rfl
  | cancel id => exact tells.track inv (.cancel id) rfl
  | restart now => exact restart_tells tells now

end Steps

/-- **The record tells its outcome.**  At every point of every run with fresh ids,
whichever writes are lost. -/
theorem run_told (uuid : Nat → String) (fresh : Function.Injective uuid)
    (events : List SystemEvent) : (run (System.step uuid) {} events).store.AllTold :=
  (run_invariant (step_tells fresh) ⟨inv_init uuid, tells_init⟩ events).2.told

end Aeolus.Automations
