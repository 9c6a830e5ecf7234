/-
# Aeolus.Automations.PendingCommandTracker — outstanding commands, one at a time

`src/automations/pending-command-tracker.ts`.  The tracker keeps one entry for each
outstanding correlation id.  The source mutates an entry in place and deletes it
when it is finalized; here a function on an entry returns its `Reaction`: the
entry afterwards (`none` once deleted) and the callbacks it made, in order.
`apply` writes a reaction back.  A timer is armed exactly while its entry is in
the map, so the timer event names a correlation id and finds the entry or nothing.

The entries share one map and `observeState` scans all of them, yet nothing one
event does to an entry depends on another entry.  `view_step` makes that exact:
what one correlation id sees of a step is a step of a machine of its own
(`localStep`).  Independence of the commands (`replay_addressed`) follows, since
that machine stands still on every event addressed to somebody else.
-/
import Aeolus.Theory.Run
import Aeolus.Automations.CommandLifecycle

namespace Aeolus.Automations

open Aeolus.Theory
open Aeolus.Core

/-! ## Data -/

structure AckMessage where
  correlationId : String
  success : Option Bool := none
  error : Option String := none
  status : Option String := none
  payload : Option JsonObject := none
  state : Option JsonObject := none

inductive RequiredTier where
  | acknowledged
  | observed
deriving DecidableEq, Repr

/-- An observation predicate; it may throw. -/
abbrev Condition := JsonObject → Except String Bool

structure PendingCommand where
  commandId : Option String := none
  correlationId : String
  targetDeviceId : String
  observedDeviceId : String
  requiredTier : RequiredTier
  condition : Option Condition := none
  timeoutMs : Nat
  ackIndicatorField : Option String := none
  ackIndicatorValues : Option (List String) := none

structure PendingResolution where
  lifecycleState : CommandLifecycleState
  success : Bool
  error : Option String := none
deriving DecidableEq, Repr

structure PendingCommandTransition where
  commandId : Option String
  correlationId : String
  targetDeviceId : String
  fromState : CommandLifecycleState
  toState : CommandLifecycleState
  timestamp : Nat
deriving DecidableEq, Repr

/-- The callbacks a tracker makes.  `resolve` settles the promise of `register`;
the others are the optional hooks. -/
inductive Callback where
  | resolve (correlationId : String) (resolution : PendingResolution)
  | onResolve (correlationId : String) (resolution : PendingResolution) (targetDeviceId : String)
  | onTransition (event : PendingCommandTransition)
  | onLateMessage (correlationId : String)
deriving DecidableEq, Repr

structure TrackedEntry where
  command : PendingCommand
  state : CommandLifecycleState

abbrev Reaction := Option TrackedEntry × List Callback

/-! ## What happens to one entry -/

namespace PendingCommand

/-- The configured field (default `status`), read from the payload first. -/
def ackIndicatorValue (command : PendingCommand) (message : AckMessage) : Option String :=
  let field := command.ackIndicatorField.getD "status"
  match (message.payload.bind (·.get field)).bind Json.asString with
  | some value => some value
  | none => if field = "status" then message.status else none

def isAcknowledgement (command : PendingCommand) (message : AckMessage) : Bool :=
  if message.success = some true then true
  else
    match command.ackIndicatorValue message with
    | none => false
    | some indicator =>
        if indicator = "" then false
        else
          match command.ackIndicatorValues with
          | some (value :: values) => (value :: values).contains indicator
          | _ => true

end PendingCommand

namespace TrackedEntry

def finalize (entry : TrackedEntry) (target : CommandLifecycleState) (success : Bool)
    (error : Option String := none) : Reaction :=
  if entry.state ≠ target ∧ !entry.state.canTransition target then (some entry, [])
  else
    let resolution : PendingResolution := ⟨target, success, error.filter (· ≠ "")⟩
    (none,
      [.onResolve entry.command.correlationId resolution entry.command.targetDeviceId,
        .resolve entry.command.correlationId resolution])

def evaluateObservation (entry : TrackedEntry) (state : JsonObject) (settled : Bool) : Reaction :=
  match entry.command.condition with
  | none => (some entry, [])
  | some condition =>
      match condition state with
      | .error message => entry.finalize .failed false (some message)
      | .ok true => entry.finalize .observed true
      | .ok false => if settled then entry.finalize .stateMismatch false else (some entry, [])

/-- The entry after the acknowledgement part of `route`, and whether it advanced. -/
def acknowledge (entry : TrackedEntry) (message : AckMessage) : TrackedEntry × Bool :=
  if entry.command.isAcknowledgement message && entry.state.canTransition .acknowledged then
    ({ entry with state := .acknowledged }, true)
  else (entry, false)

/-- `route`, once the entry is found.  A rejection wins over everything else; an
acknowledgement completes an ack-tier command and is a milestone of an
observed-tier one; a reply that carries state is a settled observation. -/
def route (entry : TrackedEntry) (message : AckMessage) (now : Nat) : Reaction :=
  if message.success = some false then
    entry.finalize .failed false
      (some ((message.error.filter (· ≠ "")).getD "Device reported command failure"))
  else
    let (entry, advanced) := entry.acknowledge message
    if entry.command.isAcknowledgement message ∧ entry.command.requiredTier = .acknowledged then
      entry.finalize .acknowledged true
    else
      let reported : List Callback :=
        if advanced then
          [.onTransition
            { commandId := entry.command.commandId.filter (· ≠ "")
              correlationId := entry.command.correlationId
              targetDeviceId := entry.command.targetDeviceId
              fromState := .dispatched
              toState := .acknowledged
              timestamp := now }]
        else []
      match message.state with
      | none => (some entry, reported)
      | some state =>
          if entry.command.requiredTier = .observed then
            let reaction := entry.evaluateObservation state true
            (reaction.1, reported ++ reaction.2)
          else (some entry, reported)

/-- `observeState`, for one entry of the scan. -/
def observe (entry : TrackedEntry) (deviceId : String) (state : JsonObject) : Reaction :=
  if entry.command.requiredTier ≠ .observed then (some entry, [])
  else if entry.command.observedDeviceId ≠ deviceId then (some entry, [])
  else entry.evaluateObservation state false

/-- `cancel`: the promise resolves, no hook is called. -/
def cancel (entry : TrackedEntry) : Reaction :=
  (none, [.resolve entry.command.correlationId ⟨.failed, false, none⟩])

def timeout (entry : TrackedEntry) : Reaction := entry.finalize .timedOut false

end TrackedEntry

/-! ## The tracker -/

structure PendingCommandTracker where
  pending : OrderedMap String TrackedEntry := .empty
  callbacks : List Callback := []

namespace PendingCommandTracker

def apply (t : PendingCommandTracker) (correlationId : String) (reaction : Reaction) :
    PendingCommandTracker :=
  { pending :=
      match reaction.1 with
      | some entry => t.pending.set correlationId entry
      | none => t.pending.delete correlationId
    callbacks := t.callbacks ++ reaction.2 }

/-- Look an entry up and let it react. -/
def onEntry (t : PendingCommandTracker) (correlationId : String)
    (react : TrackedEntry → Reaction) : PendingCommandTracker :=
  match t.pending.get correlationId with
  | none => t
  | some entry => t.apply correlationId (react entry)

def register (t : PendingCommandTracker) (command : PendingCommand) : PendingCommandTracker :=
  { t with pending := t.pending.set command.correlationId ⟨command, .dispatched⟩ }

def route (t : PendingCommandTracker) (message : AckMessage) (now : Nat) :
    PendingCommandTracker :=
  match t.pending.get message.correlationId with
  | none => { t with callbacks := t.callbacks ++ [.onLateMessage message.correlationId] }
  | some entry => t.apply message.correlationId (entry.route message now)

/-- The scan of all entries.  An entry that finalizes leaves the map while the
scan is under way; the entries still to come are not affected. -/
def observeState (t : PendingCommandTracker) (deviceId : String) (state : JsonObject) :
    PendingCommandTracker :=
  t.pending.values.foldl
    (fun t entry => t.apply entry.command.correlationId (entry.observe deviceId state)) t

def cancel (t : PendingCommandTracker) (correlationId : String) : PendingCommandTracker :=
  t.onEntry correlationId TrackedEntry.cancel

/-- The timeout callback, `finalizeById(…, "TIMED_OUT", false)`. -/
def timer (t : PendingCommandTracker) (correlationId : String) : PendingCommandTracker :=
  t.onEntry correlationId TrackedEntry.timeout

end PendingCommandTracker

inductive TrackerEvent where
  | register (command : PendingCommand)
  | route (message : AckMessage) (now : Nat)
  | observeState (deviceId : String) (state : JsonObject)
  | cancel (correlationId : String)
  | timer (correlationId : String)

namespace PendingCommandTracker

def step (t : PendingCommandTracker) : TrackerEvent → PendingCommandTracker
  | .register command => t.register command
  | .route message now => t.route message now
  | .observeState deviceId state => t.observeState deviceId state
  | .cancel correlationId => t.cancel correlationId
  | .timer correlationId => t.timer correlationId

end PendingCommandTracker

/-! ## A reaction stays with its entry -/

namespace Callback

/-- The command a callback is about. -/
def correlationId : Callback → String
  | .resolve correlationId _ => correlationId
  | .onResolve correlationId _ _ => correlationId
  | .onTransition event => event.correlationId
  | .onLateMessage correlationId => correlationId

/-- What the promise of `register` was settled with. -/
def resolution : Callback → Option PendingResolution
  | .resolve _ resolution => some resolution
  | _ => none

/-- What the `onResolve` hook was told. -/
def notice : Callback → Option PendingResolution
  | .onResolve _ resolution _ => some resolution
  | _ => none

end Callback

/-- A reaction keeps the entry's command, calls back about that command only, and
either keeps the entry or settles its promise, once; the hook is told no more often. -/
structure Proper (command : PendingCommand) (reaction : Reaction) : Prop where
  keeps : ∀ entry, reaction.1 = some entry → entry.command = command
  own : ∀ callback ∈ reaction.2, callback.correlationId = command.correlationId
  once : (reaction.2.filterMap Callback.resolution).length + reaction.1.toList.length = 1
  noticed : (reaction.2.filterMap Callback.notice).length ≤
    (reaction.2.filterMap Callback.resolution).length

/-- Reporting a transition of the command leaves a proper reaction proper. -/
theorem Proper.report {command : PendingCommand} {reaction : Reaction}
    (proper : Proper command reaction) {reported : List Callback}
    (own : ∀ callback ∈ reported, callback.correlationId = command.correlationId)
    (silent : ∀ callback ∈ reported, callback.resolution = none ∧ callback.notice = none) :
    Proper command (reaction.1, reported ++ reaction.2) := by
  have settles : reported.filterMap Callback.resolution = [] :=
    List.filterMap_eq_nil_iff.mpr fun callback member => (silent callback member).1
  have notices : reported.filterMap Callback.notice = [] :=
    List.filterMap_eq_nil_iff.mpr fun callback member => (silent callback member).2
  refine ⟨proper.keeps, fun callback member => ?_, ?_, ?_⟩
  · rcases List.mem_append.mp member with member | member
    · exact own callback member
    · exact proper.own callback member
  · rw [List.filterMap_append, settles, List.nil_append]
    exact proper.once
  · rw [List.filterMap_append, List.filterMap_append, settles, notices]
    exact proper.noticed

namespace TrackedEntry

theorem proper_keep (entry : TrackedEntry) : Proper entry.command (some entry, []) :=
  ⟨fun _ same => (Option.some.inj same).symm ▸ rfl, fun _ member => (nomatch member), rfl,
    le_rfl⟩

theorem finalize_proper (entry : TrackedEntry) (target : CommandLifecycleState) (success : Bool)
    (error : Option String) : Proper entry.command (entry.finalize target success error) := by
  unfold finalize
  split
  · exact proper_keep entry
  · refine ⟨fun _ same => (nomatch same), fun callback member => ?_, rfl, le_rfl⟩
    simp only [List.mem_cons, List.not_mem_nil, or_false] at member
    rcases member with rfl | rfl <;> rfl

theorem evaluateObservation_proper (entry : TrackedEntry) (state : JsonObject) (settled : Bool) :
    Proper entry.command (entry.evaluateObservation state settled) := by
  unfold evaluateObservation
  split
  · exact proper_keep entry
  · split
    · exact finalize_proper entry _ _ _
    · exact finalize_proper entry _ _ _
    · split
      · exact finalize_proper entry _ _ _
      · exact proper_keep entry

theorem acknowledge_command (entry : TrackedEntry) (message : AckMessage) :
    (entry.acknowledge message).1.command = entry.command := by
  unfold acknowledge
  split <;> rfl

theorem route_proper (entry : TrackedEntry) (message : AckMessage) (now : Nat) :
    Proper entry.command (entry.route message now) := by
  unfold route
  split
  · exact finalize_proper entry _ _ _
  · have command := acknowledge_command entry message
    generalize entry.acknowledge message = acknowledged at command
    obtain ⟨entry', advanced⟩ := acknowledged
    dsimp only at command ⊢
    rw [← command]
    split
    · exact finalize_proper entry' _ _ _
    · generalize hr : (if advanced = true then _ else _ : List Callback) = reported
      have own : ∀ callback ∈ reported, callback.correlationId = entry'.command.correlationId := by
        intro callback member
        rw [← hr] at member
        split at member
        · rw [List.mem_singleton.mp member]
          rfl
        · simp at member
      have silent : ∀ callback ∈ reported, callback.resolution = none ∧ callback.notice = none := by
        intro callback member
        rw [← hr] at member
        split at member
        · rw [List.mem_singleton.mp member]
          exact ⟨rfl, rfl⟩
        · simp at member
      have kept : Proper entry'.command (some entry', reported) := by
        simpa using (proper_keep entry').report own silent
      split
      · exact kept
      · split
        · exact (evaluateObservation_proper entry' _ true).report own silent
        · exact kept

theorem observe_proper (entry : TrackedEntry) (deviceId : String) (state : JsonObject) :
    Proper entry.command (entry.observe deviceId state) := by
  unfold observe
  split
  · exact proper_keep entry
  · split
    · exact proper_keep entry
    · exact evaluateObservation_proper entry state false

theorem cancel_proper (entry : TrackedEntry) : Proper entry.command entry.cancel := by
  refine ⟨fun _ same => (nomatch same), fun callback member => ?_, rfl, Nat.zero_le _⟩
  rw [List.mem_singleton.mp member]
  rfl

theorem timeout_proper (entry : TrackedEntry) : Proper entry.command entry.timeout :=
  finalize_proper entry _ _ _

end TrackedEntry

/-! ## What one correlation id sees -/

/-- The entry of a correlation id, and the callbacks about it. -/
abbrev View := Option TrackedEntry × List Callback

def View.react (l : View) (react : TrackedEntry → Reaction) : View :=
  match l.1 with
  | none => l
  | some entry => ((react entry).1, l.2 ++ (react entry).2)

/-- The machine of one correlation id. -/
def localStep (correlationId : String) (l : View) : TrackerEvent → View
  | .register command =>
      if command.correlationId = correlationId then (some ⟨command, .dispatched⟩, l.2) else l
  | .route message now =>
      if message.correlationId = correlationId then
        match l.1 with
        | none => (none, l.2 ++ [.onLateMessage correlationId])
        | some entry => ((entry.route message now).1, l.2 ++ (entry.route message now).2)
      else l
  | .observeState deviceId state => l.react fun entry => entry.observe deviceId state
  | .cancel id => if id = correlationId then l.react TrackedEntry.cancel else l
  | .timer id => if id = correlationId then l.react TrackedEntry.timeout else l

def TrackerEvent.registers : TrackerEvent → Option String
  | .register command => some command.correlationId
  | _ => none

/-- The ways an event acts on an entry it finds. -/
inductive Reacts : (TrackedEntry → Reaction) → Prop where
  | route (message : AckMessage) (now : Nat) : Reacts fun entry => entry.route message now
  | observe (deviceId : String) (state : JsonObject) :
      Reacts fun entry => entry.observe deviceId state
  | cancel : Reacts TrackedEntry.cancel
  | timeout : Reacts TrackedEntry.timeout

theorem Reacts.proper {react : TrackedEntry → Reaction} (reacts : Reacts react)
    (entry : TrackedEntry) : Proper entry.command (react entry) := by
  cases reacts with
  | route message now => exact entry.route_proper message now
  | observe deviceId state => exact entry.observe_proper deviceId state
  | cancel => exact entry.cancel_proper
  | timeout => exact entry.timeout_proper

/-- An event that registers nothing stands still, comes late, or acts on the entry. -/
theorem localStep_cases (k : String) (l : View) (event : TrackerEvent)
    (plain : event.registers = none) :
    localStep k l event = l ∨
      (l.1 = none ∧ localStep k l event = (none, l.2 ++ [.onLateMessage k])) ∨
      ∃ react, Reacts react ∧ localStep k l event = l.react react := by
  cases event with
  | register command => cases plain
  | route message now =>
      obtain ⟨held, callbacks⟩ := l
      by_cases same : message.correlationId = k
      · cases held with
        | none => exact .inr (.inl ⟨rfl, if_pos same⟩)
        | some entry => exact .inr (.inr ⟨_, .route message now, if_pos same⟩)
      · exact .inl (if_neg same)
  | observeState deviceId state => exact .inr (.inr ⟨_, .observe deviceId state, rfl⟩)
  | cancel id =>
      by_cases same : id = k
      · exact .inr (.inr ⟨_, .cancel, if_pos same⟩)
      · exact .inl (if_neg same)
  | timer id =>
      by_cases same : id = k
      · exact .inr (.inr ⟨_, .timeout, if_pos same⟩)
      · exact .inl (if_neg same)

namespace PendingCommandTracker

def view (correlationId : String) (t : PendingCommandTracker) : View :=
  (t.pending.get correlationId,
    t.callbacks.filter fun callback => callback.correlationId = correlationId)

/-- Entries sit at their own correlation id. -/
def Keyed (t : PendingCommandTracker) : Prop :=
  ∀ id entry, t.pending.get id = some entry → entry.command.correlationId = id

theorem keyed_empty : ({} : PendingCommandTracker).Keyed := fun _ _ found => by cases found

theorem pending_apply (t : PendingCommandTracker) (id k : String) (reaction : Reaction) :
    (t.apply id reaction).pending.get k = if k = id then reaction.1 else t.pending.get k := by
  unfold apply
  cases hr : reaction.1 with
  | none => rw [OrderedMap.get_delete]
  | some entry => rw [OrderedMap.get_set]

theorem apply_keyed {t : PendingCommandTracker} (keyed : t.Keyed) {command : PendingCommand}
    {reaction : Reaction} (proper : Proper command reaction) :
    (t.apply command.correlationId reaction).Keyed := by
  intro k entry found
  rw [pending_apply] at found
  split at found
  · rename_i same
    rw [proper.keeps entry found, same]
  · exact keyed k entry found

theorem view_apply {t : PendingCommandTracker} {command : PendingCommand} {reaction : Reaction}
    (proper : Proper command reaction) (k : String) :
    view k (t.apply command.correlationId reaction) =
      if k = command.correlationId then (reaction.1, (view k t).2 ++ reaction.2) else view k t := by
  have mine : ∀ callback ∈ reaction.2, callback.correlationId = command.correlationId := proper.own
  unfold view
  rw [pending_apply]
  simp only [apply, List.filter_append]
  split
  · rename_i same
    have all : reaction.2.filter (fun callback => callback.correlationId = k) = reaction.2 :=
      List.filter_eq_self.mpr fun callback member => by simp [mine callback member, same]
    rw [all]
  · rename_i other
    have none : reaction.2.filter (fun callback => callback.correlationId = k) = [] :=
      List.filter_eq_nil_iff.mpr fun callback member => by
        simpa [mine callback member] using fun h => other (Eq.symm h)
    rw [none, List.append_nil]

/-- A lookup followed by a proper reaction is a step of the view. -/
theorem view_onEntry {t : PendingCommandTracker} (keyed : t.Keyed) {react : TrackedEntry → Reaction}
    (proper : ∀ entry, Proper entry.command (react entry)) (id k : String) :
    view k (t.onEntry id react) = if id = k then (view k t).react react else view k t := by
  unfold onEntry
  cases found : t.pending.get id with
  | none =>
      by_cases same : id = k
      · subst same
        simp [View.react, view, found]
      · rw [if_neg same]
  | some entry =>
      have here : entry.command.correlationId = id := keyed id entry found
      show view k (t.apply id (react entry)) = _
      rw [← here, view_apply (proper entry), here]
      by_cases same : id = k
      · subst same
        rw [if_pos rfl, if_pos rfl]
        simp only [View.react, view, found]
      · rw [if_neg fun h => same h.symm, if_neg same]

theorem onEntry_keyed {t : PendingCommandTracker} (keyed : t.Keyed)
    {react : TrackedEntry → Reaction} (proper : ∀ entry, Proper entry.command (react entry))
    (id : String) : (t.onEntry id react).Keyed := by
  unfold onEntry
  cases found : t.pending.get id with
  | none => exact keyed
  | some entry =>
      have here : entry.command.correlationId = id := keyed id entry found
      show (t.apply id (react entry)).Keyed
      rw [← here]
      exact apply_keyed keyed (proper entry)

section Scan

variable (deviceId : String) (state : JsonObject)

/-- One iteration of the scan. -/
def visit (t : PendingCommandTracker) (entry : TrackedEntry) : PendingCommandTracker :=
  t.apply entry.command.correlationId (entry.observe deviceId state)

theorem visit_keyed {t : PendingCommandTracker} (keyed : t.Keyed) (entry : TrackedEntry) :
    (t.visit deviceId state entry).Keyed :=
  apply_keyed keyed (entry.observe_proper deviceId state)

/-- Of a scan over entries with distinct ids, one id sees its own entry's visit. -/
theorem view_scan {entries : List TrackedEntry}
    (distinct : (entries.map fun entry => entry.command.correlationId).Nodup)
    (t : PendingCommandTracker) (k : String) :
    view k (entries.foldl (visit deviceId state) t) =
      match entries.find? (fun entry => entry.command.correlationId = k) with
      | none => view k t
      | some entry => ((entry.observe deviceId state).1,
          (view k t).2 ++ (entry.observe deviceId state).2) := by
  induction entries generalizing t with
  | nil => rfl
  | cons entry entries ih =>
      rw [List.map_cons, List.nodup_cons] at distinct
      rw [List.foldl_cons, ih distinct.2, visit, view_apply (entry.observe_proper deviceId state)]
      by_cases same : entry.command.correlationId = k
      · -- the rest of the scan holds no other entry with this id
        have rest : entries.find? (fun e => e.command.correlationId = k) = none := by
          refine List.find?_eq_none.mpr fun e member here => distinct.1 ?_
          have here : e.command.correlationId = k := by simpa using here
          exact List.mem_map.mpr ⟨e, member, here.trans same.symm⟩
        rw [List.find?_cons_of_pos (by simpa using same), rest, if_pos same.symm]
      · rw [List.find?_cons_of_neg (by simpa using same), if_neg fun h => same h.symm]

theorem ids_eq_keys {t : PendingCommandTracker} (keyed : t.Keyed) :
    t.pending.values.map (fun entry => entry.command.correlationId) = t.pending.keys := by
  rw [OrderedMap.values, OrderedMap.keys, List.map_map]
  exact List.map_congr_left fun pair member =>
    keyed pair.1 pair.2 (OrderedMap.mem_entries.mp member)

theorem find_values {t : PendingCommandTracker} (keyed : t.Keyed) (k : String) :
    t.pending.values.find? (fun entry => entry.command.correlationId = k) = t.pending.get k := by
  have lists : ∀ l : List (String × TrackedEntry),
      (∀ pair ∈ l, pair.2.command.correlationId = pair.1) →
      (l.map Prod.snd).find? (fun entry => entry.command.correlationId = k) =
        (l.find? fun pair => pair.1 = k).map Prod.snd := by
    intro l
    induction l with
    | nil => exact fun _ => rfl
    | cons pair l ih =>
        intro own
        have here := own pair List.mem_cons_self
        have rest := ih fun other member => own other (List.mem_cons_of_mem _ member)
        by_cases same : pair.1 = k
        · simp [here, same]
        · simpa [here, same] using rest
  exact lists t.pending.entries fun pair member =>
    keyed pair.1 pair.2 (OrderedMap.mem_entries.mp member)

theorem view_observeState {t : PendingCommandTracker} (keyed : t.Keyed) (k : String) :
    view k (t.observeState deviceId state) =
      (view k t).react fun entry => entry.observe deviceId state := by
  have distinct : (t.pending.values.map fun entry => entry.command.correlationId).Nodup := by
    rw [ids_eq_keys keyed]
    exact t.pending.nodup
  show view k (t.pending.values.foldl (visit deviceId state) t) = _
  rw [view_scan deviceId state distinct, find_values keyed]
  cases found : t.pending.get k with
  | none => simp [View.react, view, found]
  | some entry => simp [View.react, view, found]

theorem observeState_keyed {t : PendingCommandTracker} (keyed : t.Keyed) :
    (t.observeState deviceId state).Keyed := by
  have preserve : ∀ t entry, Keyed t → Keyed (visit deviceId state t entry) :=
    fun _ entry keyed => visit_keyed deviceId state keyed entry
  exact run_invariant preserve keyed t.pending.values

end Scan

theorem step_keyed (t : PendingCommandTracker) (event : TrackerEvent) (keyed : t.Keyed) :
    (t.step event).Keyed := by
  cases event with
  | register command =>
      intro k entry found
      change (t.pending.set command.correlationId _).get k = some entry at found
      rw [OrderedMap.get_set] at found
      split at found
      · rename_i same
        cases found
        exact same.symm
      · exact keyed k entry found
  | route message now =>
      simp only [step, route]
      cases found : t.pending.get message.correlationId with
      | none => exact keyed
      | some entry =>
          have here := keyed _ entry found
          show (t.apply message.correlationId _).Keyed
          rw [← here]
          exact apply_keyed keyed (entry.route_proper message now)
  | observeState deviceId state => exact observeState_keyed deviceId state keyed
  | cancel id => exact onEntry_keyed keyed TrackedEntry.cancel_proper id
  | timer id => exact onEntry_keyed keyed TrackedEntry.timeout_proper id

/-- **Locality.**  What one correlation id sees of a step is its own machine's step. -/
theorem view_step (k : String) (t : PendingCommandTracker) (event : TrackerEvent)
    (keyed : t.Keyed) : view k (t.step event) = localStep k (view k t) event := by
  cases event with
  | register command =>
      simp only [step, register, localStep, view, OrderedMap.get_set]
      by_cases same : command.correlationId = k
      · rw [if_pos same.symm, if_pos same]
      · rw [if_neg fun h => same h.symm, if_neg same]
  | route message now =>
      simp only [step, route, localStep]
      cases found : t.pending.get message.correlationId with
      | none =>
          by_cases same : message.correlationId = k
          · subst same
            simp [view, found, List.filter_append, Callback.correlationId]
          · simp [view, same, List.filter_append, Callback.correlationId]
      | some entry =>
          have here := keyed _ entry found
          show view k (t.apply message.correlationId (entry.route message now)) = _
          rw [← here, view_apply (entry.route_proper message now), here]
          by_cases same : message.correlationId = k
          · subst same
            rw [if_pos rfl, if_pos rfl]
            simp only [view, found]
          · rw [if_neg fun h => same h.symm, if_neg same]
  | observeState deviceId state => exact view_observeState deviceId state keyed k
  | cancel id => exact view_onEntry keyed TrackedEntry.cancel_proper id k
  | timer id => exact view_onEntry keyed TrackedEntry.timeout_proper id k

theorem view_of_run (k : String) (events : List TrackerEvent) :
    view k (run step {} events) = run (localStep k) (none, []) events :=
  view_run step_keyed (view_step k) keyed_empty events

end PendingCommandTracker

/-! ## Independence -/

/-- The events addressed to a command. -/
def TrackerEvent.addressed (c : PendingCommand) : TrackerEvent → Bool
  | .register command => command.correlationId = c.correlationId
  | .route message _ => message.correlationId = c.correlationId
  | .observeState deviceId _ => deviceId = c.observedDeviceId
  | .cancel id => id = c.correlationId
  | .timer id => id = c.correlationId

/-- The correlation ids registered in a run. -/
def registered (events : List TrackerEvent) : List String :=
  events.filterMap TrackerEvent.registers

/-- The only registration under the command's correlation id is its own. -/
def Sole (c : PendingCommand) : TrackerEvent → Prop
  | .register command => command.correlationId = c.correlationId → command = c
  | _ => True

/-- Except by a registration, an entry keeps its command. -/
theorem localStep_keeps {k : String} {l : View} {event : TrackerEvent} {entry : TrackedEntry}
    (plain : event.registers = none) (found : (localStep k l event).1 = some entry) :
    ∃ before, l.1 = some before ∧ entry.command = before.command := by
  obtain same | ⟨-, late⟩ | ⟨react, reacts, acts⟩ := localStep_cases k l event plain
  · rw [same] at found
    exact ⟨entry, found, rfl⟩
  · rw [late] at found
    cases found
  · rw [acts] at found
    unfold View.react at found
    cases here : l.1 with
    | none => simp [here] at found
    | some before =>
        rw [here] at found
        exact ⟨before, rfl, (reacts.proper before).keeps entry found⟩

theorem localStep_command {c : PendingCommand} (l : View) (event : TrackerEvent)
    (mine : ∀ entry, l.1 = some entry → entry.command = c) (sole : Sole c event) :
    ∀ entry, (localStep c.correlationId l event).1 = some entry → entry.command = c := by
  intro entry found
  cases plain : event.registers with
  | none =>
      obtain ⟨before, here, same⟩ := localStep_keeps plain found
      exact same.trans (mine before here)
  | some id =>
      cases event with
      | register command =>
          simp only [localStep] at found
          split at found
          · rename_i same
            cases found
            exact sole same
          · exact mine entry found
      | _ => cases plain

/-- The machine of a command stands still on events addressed to others. -/
theorem localStep_still {c : PendingCommand} (l : View) (event : TrackerEvent)
    (mine : ∀ entry, l.1 = some entry → entry.command = c) (_ : Sole c event)
    (other : event.addressed c = false) : localStep c.correlationId l event = l := by
  cases event with
  | register command =>
      exact if_neg (by simpa [TrackerEvent.addressed] using other)
  | route message now =>
      exact if_neg (by simpa [TrackerEvent.addressed] using other)
  | observeState deviceId state =>
      have elsewhere : ¬ deviceId = c.observedDeviceId := by
        simpa [TrackerEvent.addressed] using other
      obtain ⟨held, callbacks⟩ := l
      cases held with
      | none => rfl
      | some entry =>
          have device : entry.command.observedDeviceId ≠ deviceId := by
            rw [mine entry rfl]
            exact fun h => elsewhere h.symm
          simp [localStep, View.react, TrackedEntry.observe, device]
  | cancel id => exact if_neg (by simpa [TrackerEvent.addressed] using other)
  | timer id => exact if_neg (by simpa [TrackerEvent.addressed] using other)

namespace View

def outcome (l : View) : List PendingResolution := l.2.filterMap Callback.resolution

def notices (l : View) : List PendingResolution := l.2.filterMap Callback.notice

theorem outcome_late (held : Option TrackedEntry) (callbacks : List Callback) (k : String) :
    outcome (held, callbacks ++ [.onLateMessage k]) = callbacks.filterMap Callback.resolution := by
  rw [outcome, List.filterMap_append]
  exact List.append_nil _

theorem notices_late (held : Option TrackedEntry) (callbacks : List Callback) (k : String) :
    notices (held, callbacks ++ [.onLateMessage k]) = callbacks.filterMap Callback.notice := by
  rw [notices, List.filterMap_append]
  exact List.append_nil _

/-- Settlements so far, plus the one a pending entry still owes. -/
def due (l : View) : Nat := l.outcome.length + l.1.toList.length

theorem due_react {react : TrackedEntry → Reaction}
    (proper : ∀ entry, Proper entry.command (react entry)) (l : View) :
    (l.react react).due = l.due := by
  obtain ⟨held, callbacks⟩ := l
  cases held with
  | none => rfl
  | some entry =>
      have once := (proper entry).once
      simp only [View.react, due, outcome, List.filterMap_append, List.length_append,
        Option.toList_some, List.length_singleton]
      omega

theorem notices_react {react : TrackedEntry → Reaction}
    (proper : ∀ entry, Proper entry.command (react entry)) {l : View}
    (fewer : l.notices.length ≤ l.outcome.length) :
    (l.react react).notices.length ≤ (l.react react).outcome.length := by
  obtain ⟨held, callbacks⟩ := l
  cases held with
  | none => exact fewer
  | some entry =>
      have noticed := (proper entry).noticed
      simp only [notices, outcome] at fewer
      simp only [View.react, notices, outcome, List.filterMap_append, List.length_append]
      omega

end View

/-- Only a registration adds a settlement that is due. -/
theorem due_localStep (k : String) (l : View) (event : TrackerEvent) :
    (localStep k l event).due ≤ l.due + if event.registers = some k then 1 else 0 := by
  cases plain : event.registers with
  | none =>
      refine le_trans ?_ (Nat.le_add_right _ _)
      obtain same | ⟨-, late⟩ | ⟨react, reacts, acts⟩ := localStep_cases k l event plain
      · rw [same]
      · rw [late, View.due, View.outcome_late, Option.toList_none, List.length_nil]
        exact Nat.le_add_right _ _
      · rw [acts]
        exact (View.due_react reacts.proper l).le
  | some id =>
      cases event with
      | register command =>
          cases plain
          simp only [localStep, Option.some.injEq]
          split
          · simp only [View.due, View.outcome, Option.toList_some, List.length_singleton]
            omega
          · exact le_rfl
      | _ => cases plain

theorem notices_localStep (k : String) (l : View) (event : TrackerEvent)
    (fewer : l.notices.length ≤ l.outcome.length) :
    (localStep k l event).notices.length ≤ (localStep k l event).outcome.length := by
  cases plain : event.registers with
  | none =>
      obtain same | ⟨-, late⟩ | ⟨react, reacts, acts⟩ := localStep_cases k l event plain
      · rw [same]
        exact fewer
      · rw [late, View.notices_late, View.outcome_late]
        exact fewer
      · rw [acts]
        exact View.notices_react reacts.proper fewer
  | some id =>
      cases event with
      | register command =>
          simp only [localStep]
          split <;> exact fewer
      | _ => cases plain

theorem due_run (k : String) (l : View) (events : List TrackerEvent) :
    (run (localStep k) l events).due ≤ l.due + (registered events).count k := by
  induction events generalizing l with
  | nil => exact le_rfl
  | cons event events ih =>
      have rest := ih (localStep k l event)
      have here := due_localStep k l event
      rw [run_cons]
      cases hr : event.registers with
      | none =>
          simp only [registered, List.filterMap_cons, hr, reduceCtorEq, if_false] at rest here ⊢
          omega
      | some id =>
          simp only [registered, List.filterMap_cons, hr, Option.some.injEq, List.count_cons,
            beq_iff_eq] at rest here ⊢
          omega

/-- Distinct ids: the registrations under one id are one registration. -/
theorem sole_of_distinct {events : List TrackerEvent} (distinct : (registered events).Nodup)
    {c : PendingCommand} (present : .register c ∈ events) : ∀ event ∈ events, Sole c event := by
  induction events with
  | nil => simp at present
  | cons first rest ih =>
      have image : ∀ command, TrackerEvent.register command ∈ rest →
          command.correlationId ∈ registered rest := fun command member =>
        List.mem_filterMap.mpr ⟨_, member, rfl⟩
      have tail : (registered rest).Nodup :=
        distinct.sublist ((List.sublist_cons_self first rest).filterMap _)
      intro event member
      cases event with
      | register command =>
          intro same
          rcases List.mem_cons.mp present with rfl | inRest
          · rcases List.mem_cons.mp member with here | there
            · cases here
              rfl
            · exact absurd (same ▸ image command there) (List.nodup_cons.mp distinct).1
          · rcases List.mem_cons.mp member with rfl | there
            · exact absurd (same ▸ image c inRest) (List.nodup_cons.mp distinct).1
            · exact ih tail inRest _ there same
      | _ => trivial

/-- What a run settled a correlation id with. -/
def PendingCommandTracker.outcome (t : PendingCommandTracker) (correlationId : String) :
    List PendingResolution := (t.view correlationId).outcome

/-- **Independence.**  In a run whose registrations have distinct correlation ids,
every registered command is settled at most once and its hook told at most once,
and everything its correlation id sees (the entry, the callbacks, the outcome) is
what the events addressed to it alone produce. -/
theorem replay_addressed (events : List TrackerEvent) (distinct : (registered events).Nodup)
    (c : PendingCommand) (present : .register c ∈ events) :
    ((run PendingCommandTracker.step {} events).outcome c.correlationId).length ≤ 1 ∧
    ((run PendingCommandTracker.step {} events).view c.correlationId).notices.length ≤ 1 ∧
    (run PendingCommandTracker.step {} events).outcome c.correlationId =
      (run PendingCommandTracker.step {}
        (events.filter (TrackerEvent.addressed c))).outcome c.correlationId ∧
    (run PendingCommandTracker.step {} events).view c.correlationId =
      (run PendingCommandTracker.step {}
        (events.filter (TrackerEvent.addressed c))).view c.correlationId := by
  have replay : (run PendingCommandTracker.step {} events).view c.correlationId =
      (run PendingCommandTracker.step {}
        (events.filter (TrackerEvent.addressed c))).view c.correlationId := by
    rw [PendingCommandTracker.view_of_run, PendingCommandTracker.view_of_run]
    exact run_filter localStep_command localStep_still (fun _ none => by cases none)
      (sole_of_distinct distinct present)
  have settled : ((run PendingCommandTracker.step {} events).outcome c.correlationId).length ≤ 1 := by
    have bound := due_run c.correlationId (none, []) events
    have once := List.nodup_iff_count_le_one.mp distinct c.correlationId
    rw [PendingCommandTracker.outcome, PendingCommandTracker.view_of_run]
    simp only [View.due] at bound
    simp only [View.outcome, List.filterMap_nil, List.length_nil, Option.toList_none] at bound ⊢
    omega
  refine ⟨settled, ?_, by rw [PendingCommandTracker.outcome, replay]; rfl, replay⟩
  refine le_trans ?_ settled
  rw [PendingCommandTracker.outcome, PendingCommandTracker.view_of_run]
  exact run_invariant (notices_localStep c.correlationId) le_rfl events

/-- Two commands observing one device: the reply to the second and its timer do
not touch the first, which the device's state settles. -/
theorem replay_addressed_two :
    let lamp : PendingCommand := ⟨some "a", "k1", "lamp", "lamp", .observed,
      some fun state => .ok (state.get "on").isSome, 5000, none, none⟩
    let pump : PendingCommand := ⟨some "b", "k2", "pump", "lamp", .acknowledged, none, 5000, none, none⟩
    let events : List TrackerEvent :=
      [.register lamp, .register pump, .route { correlationId := "k2", success := some true } 7,
        .observeState "lamp" (OrderedMap.empty.set "on" (.bool true)), .timer "k2", .timer "k1"]
    (run PendingCommandTracker.step {} events).outcome "k1" = [⟨.observed, true, none⟩] ∧
    (run PendingCommandTracker.step {} events).outcome "k1" =
      (run PendingCommandTracker.step {}
        (events.filter (TrackerEvent.addressed lamp))).outcome "k1" := by
  intro lamp pump events
  exact ⟨by decide, (replay_addressed events (by decide) lamp List.mem_cons_self).2.2.1⟩

end Aeolus.Automations
