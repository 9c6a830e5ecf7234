/-
# Aeolus.Automations.CommandAgreement — the durable record and the returned result

The result of a settled call and its record agree (`System.Agrees`) as long as the
completing write is one the lifecycle table allows.  That can fail in one way: the
`DISPATCHED` write was lost, the record still says `REQUESTED`, and the table has
no step from there to anything but `FAILED`.  `agrees_iff_confirmed` makes this
exact.  Without faults it never happens, which is `settled_record_final`.
-/
import Aeolus.Automations.CommandInvariant

namespace Aeolus.Automations

open Aeolus.Theory
open Aeolus.Core

/-! ## Agreement -/

/-- The stored command is completed, in the state and with the success of the result. -/
def Agreed (c : String) (result : ActionResult) (s : CommandHistoryStore) : Prop :=
  ∃ r, s.records.get c = some r ∧ r.terminalAt.isSome = true ∧
    result.lifecycleState = some r.lifecycleState ∧ r.success = some result.success

theorem Agreed.transition {c : String} {result : ActionResult} (s : CommandHistoryStore)
    (input : CommandTransitionInput) (agreed : Agreed c result s) :
    Agreed c result (s.transition input) := by
  obtain ⟨r, found, completed, state, success⟩ := agreed
  obtain ⟨kept, -, -⟩ := CommandHistoryStore.transition_frozen s input ⟨found, completed, rfl⟩
  exact ⟨r, kept, completed, state, success⟩

/-- Every settled call whose completing write reached the store agrees with its record. -/
def System.Agrees (s : System) : Prop :=
  ∀ i a result, s.executions.get i = some ⟨some a, .settled result true⟩ →
    ∀ c, a.commandId = some c → Agreed c result s.store

@[simp] theorem Accepted.withId_lifecycleState (a : Accepted) (result : ActionResult) :
    (a.withId result).lifecycleState = result.lifecycleState := by
  unfold Accepted.withId
  split <;> rfl

@[simp] theorem Accepted.withId_success (a : Accepted) (result : ActionResult) :
    (a.withId result).success = result.success := by
  unfold Accepted.withId
  split <;> rfl

section Agreement

variable {uuid : Nat → String} {s : System}

/-- The store changes, the calls do not. -/
theorem System.Agrees.restore (agrees : s.Agrees) {s' : System}
    (same : s'.executions = s.executions)
    (keeps : ∀ c result, Agreed c result s.store → Agreed c result s'.store) : s'.Agrees := by
  intro i a result here c mine
  rw [same] at here
  exact keeps c result (agrees i a result here c mine)

/-- A call takes a new phase; if it settles, it has to agree. -/
theorem System.Agrees.put (agrees : s.Agrees) {s' : System} {i : Nat} {x : Execution}
    (put : s'.executions = s.executions.set i x) (same : s'.store = s.store)
    (new : ∀ a result, x = ⟨some a, .settled result true⟩ → ∀ c, a.commandId = some c →
      Agreed c result s.store) : s'.Agrees := by
  intro j a result found c mine
  rw [same]
  rw [put, OrderedMap.get_set] at found
  split at found
  · exact new a result (Option.some.inj found) c mine
  · exact agrees j a result found c mine

/-- A completing write that the table allows makes record and result agree. -/
theorem Open.agreed {tier : ConfirmationTier} {c : String} {store : CommandHistoryStore}
    (opened : Open tier c store) {input : CommandTransitionInput} {result : ActionResult}
    (mine : input.commandId = c) (terminal : input.terminal = true)
    (state : result.lifecycleState = some input.toState)
    (success : input.success = some result.success)
    (can : ∀ r, store.records.get c = some r → OpenRecord tier r →
      r.lifecycleState.canTransition input.toState = true) :
    Agreed c result (store.transition input) := by
  obtain ⟨r, found, open_⟩ := opened
  subst mine
  refine ⟨r.advance input, CommandHistoryStore.get_transition_of_can found open_.incomplete
    (can r found open_), ?_, state, ?_⟩
  · simp [CommandRecord.advance, terminal]
  · simp [CommandRecord.advance, success]

/-- A call settles through `recordTransition`; it has to agree when that does not throw. -/
theorem System.Agrees.settle (agrees : s.Agrees) {s' : System} {i : Nat} {a : Accepted}
    {input : String → CommandTransitionInput} {result : ActionResult} {throws : Bool}
    (put : s'.executions = s.executions.set i ⟨some a, .settled result (!throws)⟩)
    (wrote : s'.store = recordTransition s.store a.commandId throws input)
    (agreed : throws = false → ∀ c, a.commandId = some c →
      Agreed c result (s.store.transition (input c))) : s'.Agrees := by
  have kept : System.Agrees { s with store := s'.store } := agrees.restore rfl fun c result old => by
    show Agreed c result s'.store
    rw [wrote]
    exact recordTransition_preserves Agreed.transition old a.commandId throws input
  refine kept.put put rfl fun b result' same c mine => ?_
  cases throws with
  | true => cases same
  | false =>
      cases same
      show Agreed c result s'.store
      rw [wrote, mine]
      exact agreed rfl c mine

/-- An insert leaves the records that are there. -/
theorem createRecord_keeps {store store' : CommandHistoryStore} {env : Environment} {a : Accepted}
    {now : Nat} {throws : Bool} (created : System.createRecord store env a now throws = some store')
    {c : String} {r : CommandRecord} (found : store.records.get c = some r) :
    store'.records.get c = some r := by
  obtain ⟨-, rfl⟩ | ⟨id, -, absent, set⟩ := createRecord_some created
  · exact found
  · rw [set, OrderedMap.get_set_of_ne _ _ ?_, found]
    rintro rfl
    rw [found] at absent
    cases absent

/-- A failure can always be recorded. -/
theorem failed_agreed {tier : ConfirmationTier} {c : String} {store : CommandHistoryStore}
    (opened : Open tier c store) {a : Accepted} {result : ActionResult} {now : Nat}
    {kind : Option CommandFailureKind} {error : Option String} {evidence : Option CommandEvidence}
    (state : result.lifecycleState = some .failed) (success : result.success = false) :
    Agreed c (a.withId result) (store.transition (failedInput now kind error evidence c)) := by
  refine opened.agreed rfl rfl ?_ ?_ fun r _ open_ => open_.can_fail
  · rw [Accepted.withId_lifecycleState]
    exact state
  · rw [Accepted.withId_success, success]
    rfl

theorem execute_agrees (agrees : s.Agrees) (env : Environment) (request : CommandRequest)
    (now : Nat) (createThrows writeThrows : Bool) :
    (s.execute uuid env request now createThrows writeThrows).Agrees := by
  unfold System.execute
  split
  · exact agrees.put rfl rfl fun a result same => by cases same
  · generalize accept uuid s.uuids env request = accepted
    obtain ⟨a, n⟩ := accepted
    dsimp only
    split
    · exact agrees.put rfl rfl fun a result same => by cases same
    · rename_i store created
      have entered : System.Agrees { s with store := store, uuids := n } :=
        agrees.restore rfl fun c result ⟨r, found, rest⟩ =>
          ⟨r, createRecord_keeps created found, rest⟩
      split
      · refine entered.settle rfl rfl fun _ c mine => ?_
        exact failed_agreed (createRecord_open created c mine) rfl rfl
      · split
        · exact entered.put rfl rfl fun a result same => by cases same
        · exact entered.put rfl rfl fun a result same => by cases same

theorem failDispatch_agrees (inv : s.Inv uuid) (agrees : s.Agrees) {call : Nat} {a : Accepted}
    {phase : Phase} (here : s.executions.get call = some ⟨some a, phase⟩) (live : phase.live = true)
    {result : ActionResult} (state : result.lifecycleState = some .failed)
    (success : result.success = false) (now : Nat) (kind : Option CommandFailureKind)
    (error : Option String) (throws : Bool) :
    (s.failDispatch call a result (failedInput now kind error none) throws).Agrees := by
  refine agrees.settle rfl rfl fun _ c mine => ?_
  exact failed_agreed ((inv.underWay call a phase here live).record c mine) state success

theorem handlerSettles_agrees (inv : s.Inv uuid) (agrees : s.Agrees) (call : Nat)
    (outcome : HandlerOutcome) (now : Nat) (throws : Bool) :
    (s.handlerSettles call outcome now throws).Agrees := by
  unfold System.handlerSettles
  split
  · rename_i a here
    split
    · exact failDispatch_agrees inv agrees here rfl rfl rfl _ _ _ _
    · exact failDispatch_agrees inv agrees here rfl rfl rfl _ _ _ _
    · by_cases dispatch : a.tier = .dispatch
      · simp only [dispatch, decide_true, if_true]
        refine agrees.settle rfl rfl fun _ c mine => ?_
        refine ((inv.underWay call a _ here rfl).record c mine).agreed rfl rfl ?_ ?_ ?_
        · exact Accepted.withId_lifecycleState _ _
        · rw [Accepted.withId_success]
          rfl
        · intro r _ open_
          rw [open_.untracked dispatch]
          rfl
      · simp only [dispatch, decide_false, Bool.false_eq_true, if_false]
        have wrote : System.Agrees { s with
            store := recordTransition s.store a.commandId throws (dispatchedInput now false) } :=
          agrees.restore rfl fun c result old =>
            recordTransition_preserves Agreed.transition old a.commandId throws _
        exact wrote.put rfl rfl fun a result same => by cases same
  · exact agrees

/-- The resolution of a waiting call fits its tier. -/
theorem resolution_fits (inv : s.Inv uuid) {call : Nat} {a : Accepted} {phase : Phase}
    (here : s.executions.get call = some ⟨some a, phase⟩) (live : phase.live = true)
    {resolution : PendingResolution} (settled : s.resolutionOf a = some resolution) :
    Resolves (if a.tier = .acknowledged then .acknowledged else .observed) resolution := by
  obtain ⟨k, correlated, first⟩ := Option.bind_eq_some_iff.mp settled
  change (s.tracker.view k).outcome.head? = some resolution at first
  rcases (inv.underWay call a phase here live).waiting k correlated with
    ⟨-, -, -, none⟩ | ⟨-, only, outcome, fits⟩
  · rw [none] at first
    cases first
  · rw [outcome] at first
    cases first
    exact fits

/-- Only a command of the acknowledged tier completes without a terminal state. -/
theorem Resolves.of_tier {tier : ConfirmationTier} {resolution : PendingResolution}
    (fits : Resolves (if tier = .acknowledged then .acknowledged else .observed) resolution) :
    resolution.lifecycleState = .acknowledged ∧ tier = .acknowledged ∨
      resolution.lifecycleState.isTerminal = true := by
  rcases fits.target with ⟨here, needed⟩ | terminal
  · refine .inl ⟨here, ?_⟩
    by_contra other
    rw [if_neg other] at needed
    cases needed
  · exact .inr terminal

/-- From an open record, a resolution can be recorded unless it is no failure and
the record still says `REQUESTED`. -/
theorem OpenRecord.can_resolve {tier : ConfirmationTier} {r : CommandRecord}
    (open_ : OpenRecord tier r) {resolution : PendingResolution}
    (fits : Resolves (if tier = .acknowledged then .acknowledged else .observed) resolution) :
    r.lifecycleState.canTransition resolution.lifecycleState = true ↔
      (resolution.lifecycleState ≠ .failed → r.lifecycleState ≠ .requested) := by
  obtain ⟨-, early, acknowledged, -⟩ := open_
  generalize r.lifecycleState = state at early acknowledged
  have target := fits.of_tier
  generalize resolution.lifecycleState = reached at target
  rcases target with ⟨rfl, only⟩ | terminal
  · have ahead : state ≠ .acknowledged := fun here => by
      cases only.symm.trans (acknowledged here)
    cases state <;> first | decide | exact absurd rfl ahead | exact absurd early (by decide)
  · cases state <;> cases reached <;>
      first | decide | exact absurd early (by decide) | exact absurd terminal (by decide)

/-- What the completing write of a confirmed command needs: an outcome other than a
failure has to find the record past `REQUESTED`.  No other event needs anything. -/
def System.Confirmed (s : System) : SystemEvent → Prop
  | .resolutionSettles call _ throws => throws = false →
      ∀ a data resolution c, s.executions.get call = some ⟨some a, .awaiting data⟩ →
        s.resolutionOf a = some resolution → resolution.lifecycleState ≠ .failed →
        a.commandId = some c → s.store.currentState c ≠ some .requested
  | _ => True

theorem resolutionSettles_agrees (inv : s.Inv uuid) (agrees : s.Agrees) (call now : Nat)
    (throws : Bool) (confirmed : s.Confirmed (.resolutionSettles call now throws)) :
    (s.resolutionSettles call now throws).Agrees := by
  unfold System.resolutionSettles
  split
  · rename_i a data here
    split
    · exact agrees
    · rename_i resolution settled
      refine agrees.settle rfl rfl fun wrote c mine => ?_
      have opened := (inv.underWay call a _ here rfl).record c mine
      refine opened.agreed rfl rfl ?_ ?_ fun r found open_ => ?_
      · exact Accepted.withId_lifecycleState _ _
      · rw [Accepted.withId_success]
        rfl
      · refine (open_.can_resolve (resolution_fits inv here rfl settled)).mpr ?_
        intro notFailed requested
        refine confirmed wrote a data resolution c here settled notFailed mine ?_
        simp only [CommandHistoryStore.currentState, found, Option.map_some, requested]
  · exact agrees

/-- Conversely: an open record that the completing write could not move is not
completed, so it disagrees. -/
theorem confirmed_of_agrees (inv : s.Inv uuid) (call now : Nat) (throws : Bool)
    (agrees : (s.resolutionSettles call now throws).Agrees) :
    s.Confirmed (.resolutionSettles call now throws) := by
  rintro rfl a data resolution c here settled notFailed mine requested
  obtain ⟨r, found, open_⟩ := (inv.underWay call a _ here rfl).record c mine
  have stuck : r.lifecycleState.canTransition resolution.lifecycleState = false := by
    rw [Bool.eq_false_iff]
    intro can
    refine (open_.can_resolve (resolution_fits inv here rfl settled)).mp can notFailed ?_
    simpa only [CommandHistoryStore.currentState, found, Option.map_some, Option.some.injEq]
      using requested
  have dropped : s.store.transition (resolvedInput a resolution now c) = s.store :=
    CommandHistoryStore.transition_of_cannot found stuck
  unfold System.resolutionSettles at agrees
  simp only [here, settled] at agrees
  obtain ⟨r', found', completed, -⟩ :=
    agrees call a _ (OrderedMap.get_set_self _ _ _) c mine
  change (recordTransition s.store a.commandId false _).records.get c = some r' at found'
  simp only [recordTransition, mine, Bool.false_eq_true, if_false, dropped] at found'
  rw [found] at found'
  cases found'
  rw [open_.incomplete] at completed
  cases completed

theorem route_agrees (agrees : s.Agrees) (message : AckMessage) (now : Nat)
    (faults : System.AdapterFaults) : (s.route message now faults).Agrees := by
  refine agrees.restore rfl fun c result agreed => ?_
  have preserve : ∀ (store : CommandHistoryStore) event, Agreed c result store →
      Agreed c result (System.adaptTransition store faults event) :=
    fun _ event old => adaptTransition_preserves Agreed.transition old faults event
  exact run_invariant preserve agreed _

theorem restart_agrees (agrees : s.Agrees) (now : Nat) : (s.restart now).Agrees := by
  intro i a result here c mine
  change (s.executions.map System.survive).get i = _ at here
  rw [OrderedMap.get_map] at here
  obtain ⟨⟨accepted, phase⟩, found, survived⟩ := Option.map_eq_some_iff.mp here
  have was : s.executions.get i = some ⟨some a, .settled result true⟩ := by
    cases phase <;> cases survived
    exact found
  exact reconcile_preserves Agreed.transition (agrees i a result was c mine) now

theorem step_agrees_iff (s : System) (event : SystemEvent) (inv : s.Inv uuid) (agrees : s.Agrees) :
    s.Confirmed event ↔ (s.step uuid event).Agrees := by
  cases event with
  | resolutionSettles call now throws =>
      exact ⟨resolutionSettles_agrees inv agrees call now throws,
        confirmed_of_agrees inv call now throws⟩
  | execute env request now createThrows writeThrows =>
      exact ⟨fun _ => execute_agrees agrees env request now createThrows writeThrows,
        fun _ => trivial⟩
  | handlerSettles call outcome now throws =>
      exact ⟨fun _ => handlerSettles_agrees inv agrees call outcome now throws, fun _ => trivial⟩
  | route message now faults =>
      exact ⟨fun _ => route_agrees agrees message now faults, fun _ => trivial⟩
  | observeState => exact ⟨fun _ => agrees.restore rfl fun _ _ => id, fun _ => trivial⟩
  | timer => exact ⟨fun _ => agrees.restore rfl fun _ _ => id, fun _ => trivial⟩
  | cancel => exact ⟨fun _ => agrees.restore rfl fun _ _ => id, fun _ => trivial⟩
  | restart now => exact ⟨fun _ => restart_agrees agrees now, fun _ => trivial⟩

/-- **When a lost write is harmless.**  In a run with fresh ids, whichever writes
throw, every settled call whose own completing write did not throw agrees with its
record at every state, restarts included, exactly as long as no confirmed outcome
other than a failure is written over a record that still says `REQUESTED`. -/
theorem agrees_iff_confirmed (uuid : Nat → String) (fresh : Function.Injective uuid)
    (events : List SystemEvent) :
    (∀ p, p <+: events → (run (System.step uuid) {} p).Agrees) ↔
      Along (System.step uuid) System.Confirmed {} events :=
  invariant_iff_along (System.Inv uuid) System.Agrees System.Confirmed
    (step_inv fresh) step_agrees_iff (inv_init uuid) (fun _ _ _ found => by cases found) events

/-! A lamp that replies, driven over REST; the ids are told apart by their length. -/

def unaryIds (n : Nat) : String := String.ofList (List.replicate (n + 1) 'u')

theorem unaryIds_injective : Function.Injective unaryIds := by
  intro m n same
  have lengths := congrArg String.length same
  simpa [unaryIds] using lengths

def lampEnvironment (acknowledges : Bool) : Environment :=
  { handler := fun _ => true
    physical := fun _ => true
    ackCapability := fun _ => if acknowledges then some { supported := true } else none
    device := fun _ => true
    scope := fun _ => .unrestricted }

def lampRequest : CommandRequest :=
  { action := { type := "device_action", target := "lamp", params := .empty }
    source := .rest none }

/-- The `DISPATCHED` write is lost, and so is the outcome unless it is a failure:
here the wait is cancelled. -/
def lostDispatch (reply : SystemEvent) : List SystemEvent :=
  [.execute (lampEnvironment true) lampRequest 0 false false,
    .handlerSettles 0 (.returned none) 1 true, reply, .resolutionSettles 0 3 false, .restart 4]

theorem agrees_iff_confirmed_cancelled :
    Function.Injective unaryIds ∧
      (run (System.step unaryIds) {} (lostDispatch (.cancel (unaryIds 1)))).Agrees := by
  have confirmed : Along (System.step unaryIds) System.Confirmed {}
      (lostDispatch (.cancel (unaryIds 1))) := by
    refine ⟨trivial, trivial, trivial, ?_, trivial, trivial⟩
    intro _ a data resolution c here settled notFailed
    cases here
    cases settled
    exact absurd rfl notFailed
  exact ⟨unaryIds_injective,
    (agrees_iff_confirmed unaryIds unaryIds_injective _).mpr confirmed _ List.prefix_rfl⟩

/-- The lamp acknowledges, the caller gets a success, and the restart stores a failure. -/
theorem lost_dispatch_fails_success :
    ¬ ∀ uuid, Function.Injective uuid → ∀ events, (run (System.step uuid) {} events).Agrees := by
  intro always
  have agrees := always unaryIds unaryIds_injective
    (lostDispatch (.route { correlationId := unaryIds 1, success := some true } 2 {}))
  obtain ⟨r, found, -, returned, -⟩ := agrees 0 _ _ rfl _ rfl
  cases found
  cases returned

/-! ## Runs in which the store does not fault -/

/-- No write of the event throws. -/
def SystemEvent.Faultless : SystemEvent → Prop
  | .execute _ _ _ createThrows writeThrows => createThrows = false ∧ writeThrows = false
  | .handlerSettles _ _ _ throws => throws = false
  | .resolutionSettles _ _ throws => throws = false
  | .route _ _ faults => faults = {}
  | _ => True

/-- The record of a command has left `REQUESTED`. -/
def Past (c : String) (s : CommandHistoryStore) : Prop :=
  ∃ r, s.records.get c = some r ∧ r.lifecycleState ≠ .requested

theorem Past.transition {c : String} (s : CommandHistoryStore) (input : CommandTransitionInput)
    (past : Past c s) : Past c (s.transition input) := by
  obtain ⟨r, found, left⟩ := past
  obtain ⟨-, same⟩ | ⟨current, here, -, can, moved⟩ := s.transition_cases input
  · rw [same]
    exact ⟨r, found, left⟩
  · by_cases mine : c = input.commandId
    · subst mine
      refine ⟨current.advance input, ?_, fun (back : input.toState = .requested) => ?_⟩
      · rw [moved]
        exact OrderedMap.get_set_self _ _ _
      · -- `rank` grows along every step, and `REQUESTED` has rank 0
        have grows := CommandLifecycleState.rank_lt_of_canTransition can
        rw [back] at grows
        exact absurd grows (Nat.not_lt_zero _)
    · exact ⟨r, (s.get_transition_of_ne input mine).trans found, left⟩

theorem Open.dispatched_past {tier : ConfirmationTier} {c : String} {s : CommandHistoryStore}
    (opened : Open tier c s) (now : Nat) (completes : Bool) :
    Past c (s.transition (dispatchedInput now completes c)) := by
  obtain ⟨r, found, open_⟩ := opened
  cases can : r.lifecycleState.canTransition .dispatched with
  | true =>
      have moved : (s.transition (dispatchedInput now completes c)).records.get c =
          some (r.advance (dispatchedInput now completes c)) :=
        CommandHistoryStore.get_transition_of_can found open_.incomplete can
      exact ⟨_, moved, nofun⟩
  | false =>
      refine Past.transition _ _ ⟨r, found, fun requested => ?_⟩
      rw [requested] at can
      cases can

/-- How a command can end: in a terminal state, or resting at the tier it had to
reach, and a success exactly in a success state. -/
structure Concluded (a : Accepted) (result : ActionResult) (state : CommandLifecycleState) :
    Prop where
  returned : result.lifecycleState = some state
  verdict : result.success = state.isSuccessState
  reached : state.isTerminal = true ∨ state = .dispatched ∧ a.tier = .dispatch ∨
    state = .acknowledged ∧ a.tier = .acknowledged

theorem Concluded.withId {a : Accepted} {result : ActionResult} {state : CommandLifecycleState}
    (concluded : Concluded a result state) : Concluded a (a.withId result) state where
  returned := by rw [Accepted.withId_lifecycleState]; exact concluded.returned
  verdict := by rw [Accepted.withId_success]; exact concluded.verdict
  reached := concluded.reached

theorem concluded_failed {a : Accepted} {result : ActionResult}
    (returned : result.lifecycleState = some .failed) (verdict : result.success = false) :
    ∃ state, Concluded a (a.withId result) state :=
  ⟨.failed, Concluded.withId ⟨returned, verdict, .inl rfl⟩⟩

/-- What a faultless run guarantees of a call. -/
def Execution.Faithful (store : CommandHistoryStore) : Execution → Prop
  | ⟨some a, .settled result written⟩ => ∀ c, a.commandId = some c →
      written = true ∧ ∃ state, Concluded a result state
  | ⟨some a, .awaiting _⟩ => ∀ c, a.commandId = some c → Past c store
  | _ => True

def System.Faithful (s : System) : Prop :=
  ∀ i x, s.executions.get i = some x → x.Faithful s.store

theorem System.Faithful.restore (faithful : s.Faithful) {s' : System}
    (same : s'.executions = s.executions) (keeps : ∀ c, Past c s.store → Past c s'.store) :
    s'.Faithful := by
  intro i x here
  rw [same] at here
  have before := faithful i x here
  unfold Execution.Faithful at before ⊢
  split at before
  · exact before
  · exact fun c mine => keeps c (before c mine)
  · exact trivial

theorem System.Faithful.put (faithful : s.Faithful) {s' : System} {i : Nat} {x : Execution}
    (put : s'.executions = s.executions.set i x) (same : s'.store = s.store)
    (new : x.Faithful s.store) : s'.Faithful := by
  intro j y found
  rw [same]
  rw [put, OrderedMap.get_set] at found
  split at found
  · cases found
    exact new
  · exact faithful j y found

/-- A call settles: its write came through, and its result is conclusive. -/
theorem System.Faithful.settle (faithful : s.Faithful) {s' : System} {i : Nat} {a : Accepted}
    {input : String → CommandTransitionInput} {result : ActionResult}
    (put : s'.executions = s.executions.set i ⟨some a, .settled result true⟩)
    (wrote : s'.store = recordTransition s.store a.commandId false input)
    (concluded : ∃ state, Concluded a result state) : s'.Faithful := by
  have kept : System.Faithful { s with store := s'.store } := faithful.restore rfl fun c past => by
    show Past c s'.store
    rw [wrote]
    exact recordTransition_preserves Past.transition past a.commandId false input
  exact kept.put put rfl fun _ _ => ⟨rfl, concluded⟩

/-- With fresh ids the insert of the record violates no constraint. -/
theorem createRecord_succeeds {a : Accepted} {n : Nat} (entering : Entering uuid s a n)
    (stored : DrawnStore uuid s.uuids s.store) (env : Environment) (now : Nat) :
    System.createRecord s.store env a now false ≠ none := by
  unfold System.createRecord
  cases command : a.commandId with
  | none => exact nofun
  | some id =>
      obtain ⟨taken, -⟩ | ⟨-, s', ok, -⟩ :=
        s.store.create_cases (a.record env id now) a.requestedEvidence
      · exfalso
        rcases taken with present | ⟨given, r, member, same⟩
        · obtain ⟨r, found⟩ := Option.isSome_iff_exists.mp present
          exact (entering.command id command).2 (stored id r found).1
        · obtain ⟨k, correlated⟩ := Option.isSome_iff_exists.mp given
          obtain ⟨c, found⟩ := OrderedMap.mem_values.mp member
          exact (entering.correlation k correlated).2
            ((stored c r found).2 k (same.trans correlated))
      · simp only [Bool.false_eq_true, if_false, ok]
        exact nofun

theorem execute_faithful (fresh : Function.Injective uuid) (inv : s.Inv uuid)
    (faithful : s.Faithful) (env : Environment) (request : CommandRequest) (now : Nat) :
    (s.execute uuid env request now false false).Faithful := by
  unfold System.execute
  split
  · exact faithful.put rfl rfl trivial
  · have entering := accept_entering fresh s env request
    generalize accept uuid s.uuids env request = accepted at entering
    obtain ⟨a, n⟩ := accepted
    dsimp only at entering ⊢
    split
    · rename_i refused
      exact absurd refused (createRecord_succeeds entering inv.stored env now)
    · rename_i store created
      have entered : System.Faithful { s with store := store, uuids := n } :=
        faithful.restore rfl fun c ⟨r, found, left⟩ =>
          ⟨r, createRecord_keeps created found, left⟩
      split
      · exact entered.settle rfl rfl (concluded_failed rfl rfl)
      · split
        · exact entered.put rfl rfl trivial
        · exact entered.put rfl rfl trivial

theorem handlerSettles_faithful (inv : s.Inv uuid) (faithful : s.Faithful) (call : Nat)
    (outcome : HandlerOutcome) (now : Nat) :
    (s.handlerSettles call outcome now false).Faithful := by
  unfold System.handlerSettles
  split
  · rename_i a here
    split
    · exact faithful.settle rfl rfl (concluded_failed rfl rfl)
    · exact faithful.settle rfl rfl (concluded_failed rfl rfl)
    · by_cases dispatch : a.tier = .dispatch
      · simp only [dispatch, decide_true, if_true]
        refine faithful.settle rfl rfl ⟨.dispatched, Concluded.withId ⟨rfl, rfl, ?_⟩⟩
        exact .inr (.inl ⟨rfl, dispatch⟩)
      · simp only [dispatch, decide_false, Bool.false_eq_true, if_false]
        have wrote : System.Faithful { s with
            store := recordTransition s.store a.commandId false (dispatchedInput now false) } :=
          faithful.restore rfl fun c past =>
            recordTransition_preserves Past.transition past a.commandId false _
        refine wrote.put rfl rfl fun c mine => ?_
        rw [mine]
        exact ((inv.underWay call a _ here rfl).record c mine).dispatched_past now false
  · exact faithful

theorem resolutionSettles_faithful (inv : s.Inv uuid) (faithful : s.Faithful) (call now : Nat) :
    (s.resolutionSettles call now false).Faithful := by
  unfold System.resolutionSettles
  split
  · rename_i a data here
    split
    · exact faithful
    · rename_i resolution settled
      have fits := resolution_fits inv here rfl settled
      refine faithful.settle rfl rfl
        ⟨resolution.lifecycleState, Concluded.withId ⟨rfl, fits.verdict, ?_⟩⟩
      rcases fits.of_tier with acknowledged | terminal
      · exact .inr (.inr acknowledged)
      · exact .inl terminal
  · exact faithful

theorem route_faithful (faithful : s.Faithful) (message : AckMessage) (now : Nat)
    (faults : System.AdapterFaults) : (s.route message now faults).Faithful := by
  refine faithful.restore rfl fun c past => ?_
  have preserve : ∀ (store : CommandHistoryStore) event, Past c store →
      Past c (System.adaptTransition store faults event) :=
    fun _ event old => adaptTransition_preserves Past.transition old faults event
  exact run_invariant preserve past _

theorem restart_faithful (faithful : s.Faithful) (now : Nat) : (s.restart now).Faithful := by
  intro i x here
  change (s.executions.map System.survive).get i = some x at here
  rw [OrderedMap.get_map] at here
  obtain ⟨⟨accepted, phase⟩, found, survived⟩ := Option.map_eq_some_iff.mp here
  have before := faithful i _ found
  cases survived
  cases accepted with
  | none => cases phase <;> trivial
  | some a =>
      cases phase with
      | settled result written => exact before
      | _ => trivial

/-- What faultless events keep. -/
structure System.Settling (uuid : Nat → String) (s : System) : Prop where
  inv : s.Inv uuid
  agrees : s.Agrees
  faithful : s.Faithful

theorem settling_init (uuid : Nat → String) : System.Settling uuid {} where
  inv := inv_init uuid
  agrees _ _ _ found := by cases found
  faithful _ _ found := by cases found

/-- Without faults the completing write of a confirmed command is always one the
table allows. -/
theorem System.Faithful.confirmed (faithful : s.Faithful) (event : SystemEvent) :
    s.Confirmed event := by
  cases event with
  | resolutionSettles call now throws =>
      intro _ a data resolution c here _ _ mine requested
      obtain ⟨r, found, left⟩ := faithful call _ here c mine
      simp only [CommandHistoryStore.currentState, found, Option.map_some,
        Option.some.injEq] at requested
      exact left requested
  | _ => trivial

theorem step_settling (fresh : Function.Injective uuid) (s : System) (event : SystemEvent)
    (settling : s.Settling uuid) (faultless : event.Faultless) :
    (s.step uuid event).Settling uuid := by
  obtain ⟨inv, agrees, faithful⟩ := settling
  refine ⟨step_inv fresh s event inv,
    (step_agrees_iff s event inv agrees).mp (faithful.confirmed event), ?_⟩
  cases event with
  | execute env request now createThrows writeThrows =>
      obtain ⟨rfl, rfl⟩ := faultless
      exact execute_faithful fresh inv faithful env request now
  | handlerSettles call outcome now throws =>
      cases faultless
      exact handlerSettles_faithful inv faithful call outcome now
  | resolutionSettles call now throws =>
      cases faultless
      exact resolutionSettles_faithful inv faithful call now
  | route message now faults => exact route_faithful faithful message now faults
  | observeState => exact faithful.restore rfl fun _ => id
  | timer => exact faithful.restore rfl fun _ => id
  | cancel => exact faithful.restore rfl fun _ => id
  | restart now => exact restart_faithful faithful now

/-- A completed record outlasts every event. -/
theorem run_completed (uuid : Nat → String) {s : System} {c : String} {r : CommandRecord}
    (found : s.store.records.get c = some r) (completed : r.terminalAt.isSome = true)
    (events : List SystemEvent) :
    (run (System.step uuid) s events).store.records.get c = some r := by
  have ofTransition : ∀ (store : CommandHistoryStore) input,
      store.records.get c = some r → (store.transition input).records.get c = some r :=
    fun store input here =>
      (CommandHistoryStore.transition_frozen store input ⟨here, completed, rfl⟩).1
  have preserve : ∀ (s : System) event, s.store.records.get c = some r →
      (s.step uuid event).store.records.get c = some r :=
    step_store_preserves ofTransition
      (fun _ _ _ _ _ _ created here => createRecord_keeps created here) uuid
  exact run_invariant preserve found events

/-- **The record of a settled command.**  In a run with fresh ids in which no write
throws, the record of every settled physical command is complete, in the state and
with the success of the result; that state is terminal, unless the command
succeeded at a tier below observation and rests there; and whatever happens later,
faults and restarts included, the record stays as it is. -/
theorem settled_record_final (uuid : Nat → String) (fresh : Function.Injective uuid)
    (before after : List SystemEvent) (faultless : ∀ event ∈ before, event.Faultless)
    (call : Nat) (a : Accepted) (result : ActionResult) (written : Bool) (c : String)
    (settled : (run (System.step uuid) {} before).executions.get call =
      some ⟨some a, .settled result written⟩)
    (physical : a.commandId = some c) :
    ∃ r, (run (System.step uuid) {} before).store.records.get c = some r ∧
      r.terminalAt.isSome = true ∧
      result.lifecycleState = some r.lifecycleState ∧ r.success = some result.success ∧
      (r.lifecycleState.isTerminal = true ∨ result.success = true ∧
        (r.lifecycleState = .dispatched ∧ a.tier = .dispatch ∨
          r.lifecycleState = .acknowledged ∧ a.tier = .acknowledged)) ∧
      (run (System.step uuid) {} (before ++ after)).store.records.get c = some r := by
  have along : Along (System.step uuid) (fun _ e => e.Faultless) {} before :=
    along_of_forall (fun e mem _ => faultless e mem) _
  obtain ⟨-, agrees, faithful⟩ :=
    invariant_along (step_settling fresh) (settling_init uuid) along
  obtain ⟨rfl, state, concluded⟩ := faithful call _ settled c physical
  obtain ⟨r, found, completed, returned, success⟩ := agrees call a result settled c physical
  have same : r.lifecycleState = state :=
    Option.some.inj (returned.symm.trans concluded.returned)
  refine ⟨r, found, completed, returned, success, ?_, ?_⟩
  · rw [same]
    rcases concluded.reached with terminal | ⟨rfl, tier⟩ | ⟨rfl, tier⟩
    · exact .inl terminal
    · exact .inr ⟨concluded.verdict, .inl ⟨rfl, tier⟩⟩
    · exact .inr ⟨concluded.verdict, .inr ⟨rfl, tier⟩⟩
  · rw [run_append]
    exact run_completed uuid found completed after

/-- The lamp's reply outruns the end of the publish. -/
def earlyReply : List SystemEvent :=
  [.execute (lampEnvironment true) lampRequest 0 false false,
    .route { correlationId := unaryIds 1, success := some true } 1 {},
    .handlerSettles 0 (.returned none) 2 false, .resolutionSettles 0 3 false]

theorem settled_record_final_early_reply :
    ∃ r, (run (System.step unaryIds) {} (earlyReply ++ [.restart 4])).store.records.get
        (unaryIds 0) = some r ∧ r.lifecycleState = .acknowledged ∧ r.success = some true := by
  have faultless : ∀ event ∈ earlyReply, event.Faultless := by
    simp [earlyReply, SystemEvent.Faultless]
  obtain ⟨r, -, -, returned, success, -, kept⟩ := settled_record_final unaryIds unaryIds_injective
    earlyReply [.restart 4] faultless 0 _ _ true (unaryIds 0) rfl rfl
  exact ⟨r, kept, (Option.some.inj returned).symm, success⟩

/-- A command that need not be confirmed completes at `DISPATCHED`, which the table
does not count as terminal. -/
theorem dispatched_success_not_terminal :
    ¬ ∀ uuid, Function.Injective uuid → ∀ events : List SystemEvent,
      (∀ event ∈ events, event.Faultless) → ∀ call a result written c,
        (run (System.step uuid) {} events).executions.get call =
            some ⟨some a, .settled result written⟩ → a.commandId = some c →
          ∃ r, (run (System.step uuid) {} events).store.records.get c = some r ∧
            r.lifecycleState.isTerminal = true := by
  intro always
  obtain ⟨r, found, terminal⟩ := always unaryIds unaryIds_injective
    [.execute (lampEnvironment false) lampRequest 0 false false,
      .handlerSettles 0 (.returned none) 1 false]
    (by simp [SystemEvent.Faultless]) 0 _ _ _ _ rfl rfl
  cases found
  cases terminal

end Agreement

end Aeolus.Automations
