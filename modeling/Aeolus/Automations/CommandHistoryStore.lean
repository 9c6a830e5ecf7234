/-
# Aeolus.Automations.CommandHistoryStore — the durable command timeline

`src/automations/command-history-store.ts` over the two tables of migration 013.
`command_records` is a map by its primary key; `command_transitions` is a list, in
the order of its autoincrement id.  A write is a transaction: a constraint that
fails is an `Except.error` and returns no new store, which is the rollback.
`recorded` lists what the `onTransitionRecorded` sink was called with.

The store has three writers with three different guards.  `transition_cases` says
once what a transition can do, and `reconcileInterrupted_eq_run` that the start-up
reconciliation is a run of transitions, so it inherits whatever a transition
preserves.  The result is `timeline_path`: after any calls, the rows of every
command form a path of the lifecycle table that ends at the stored state, a
completed command never changes again, and a rejected call changes nothing.
-/
import Mathlib.Data.List.Chain
import Aeolus.Theory.Run
import Aeolus.Automations.CommandLifecycle

namespace Aeolus.Automations

open Aeolus.Theory
open Aeolus.Core

/-! ## Data -/

inductive CommandSourceKind where
  | automation
  | rest
  | system
deriving DecidableEq, Repr

inductive CommandFailureKind where
  | notFound
  | unsupported
  | invalidParams
  | transport
  | execution
  | unauthorized
deriving DecidableEq, Repr

/-- A failure kind, or a wait that a restart cut off. -/
inductive CommandFailureReason where
  | kind (kind : CommandFailureKind)
  | interrupted
deriving DecidableEq, Repr

/-- One row of `command_records`. -/
structure CommandRecord where
  commandId : String
  correlationId : Option String := none
  sourceKind : CommandSourceKind
  sourceId : Option String := none
  ruleId : Option String := none
  executionId : Option String := none
  causationId : Option String := none
  targetDeviceId : String
  actionType : String
  requestedTier : Option ConfirmationTier := none
  effectiveTier : ConfirmationTier
  lifecycleState : CommandLifecycleState
  success : Option Bool := none
  failureKind : Option CommandFailureReason := none
  error : Option String := none
  requestedAt : Nat
  terminalAt : Option Nat := none
  /-- snapshot at acceptance: did the target declare an acknowledgement? -/
  ackAvailable : Option Bool := none
  /-- snapshot at acceptance: did the command carry an observation contract? -/
  observationConfigured : Option Bool := none
deriving DecidableEq

/-- One row of `command_transitions`. -/
structure CommandTransition where
  id : Nat
  commandId : String
  fromState : Option CommandLifecycleState
  toState : CommandLifecycleState
  timestamp : Nat
  details : Option CommandEvidence

structure CommandTransitionInput where
  commandId : String
  toState : CommandLifecycleState
  timestamp : Nat
  success : Option Bool := none
  failureKind : Option CommandFailureReason := none
  error : Option String := none
  terminal : Bool
  details : Option CommandEvidence := none

/-- What the sink is told once a write is committed. -/
structure CommandLifecycleTransitionEvent where
  commandId : String
  correlationId : Option String
  targetDeviceId : String
  sourceKind : CommandSourceKind
  ruleId : Option String
  executionId : Option String
  fromState : Option CommandLifecycleState
  state : CommandLifecycleState
  timestamp : Nat
  terminal : Bool
  success : Option Bool
  actionType : String
  effectiveTier : ConfirmationTier
  failureKind : Option CommandFailureReason
  error : Option String

/-- The unique constraints an insert can violate. -/
inductive ConstraintError where
  | commandId
  | correlationId
deriving DecidableEq, Repr

structure CommandHistoryStore where
  records : OrderedMap String CommandRecord := .empty
  transitions : List CommandTransition := []
  recorded : List CommandLifecycleTransitionEvent := []

/-! ## The operations -/

/-- The `UPDATE` of a transition: `COALESCE` keeps what the input does not give,
and `terminal_at` is stamped or cleared. -/
def CommandRecord.advance (current : CommandRecord)
    (input : CommandTransitionInput) : CommandRecord :=
  { current with
    lifecycleState := input.toState
    success := input.success <|> current.success
    failureKind := input.failureKind <|> current.failureKind
    error := input.error <|> current.error
    terminalAt := if input.terminal then some input.timestamp else none }

namespace CommandHistoryStore

def insertRecord (s : CommandHistoryStore) (record : CommandRecord) :
    Except ConstraintError CommandHistoryStore :=
  if s.records.has record.commandId then .error .commandId
  else if record.correlationId.isSome &&
      s.records.values.any (fun r => r.correlationId = record.correlationId) then
    .error .correlationId
  else .ok { s with records := s.records.set record.commandId record }

def insertTransition (s : CommandHistoryStore) (commandId : String)
    (fromState : Option CommandLifecycleState) (toState : CommandLifecycleState)
    (timestamp : Nat) (details : Option CommandEvidence) : CommandHistoryStore :=
  { s with
    transitions := s.transitions ++
      [⟨s.transitions.length + 1, commandId, fromState, toState, timestamp, details⟩] }

def emitRecorded (s : CommandHistoryStore) (event : CommandLifecycleTransitionEvent) :
    CommandHistoryStore :=
  { s with recorded := s.recorded ++ [event] }

def create (s : CommandHistoryStore) (record : CommandRecord)
    (evidence : Option CommandEvidence) : Except ConstraintError CommandHistoryStore := do
  let inserted ← s.insertRecord record
  let opened := inserted.insertTransition record.commandId none record.lifecycleState
    record.requestedAt evidence
  return opened.emitRecorded
    { commandId := record.commandId
      correlationId := record.correlationId.filter (· ≠ "")
      targetDeviceId := record.targetDeviceId
      sourceKind := record.sourceKind
      ruleId := record.ruleId.filter (· ≠ "")
      executionId := record.executionId.filter (· ≠ "")
      fromState := none
      state := record.lifecycleState
      timestamp := record.requestedAt
      terminal := record.terminalAt.isSome
      success := record.success
      actionType := record.actionType
      effectiveTier := record.effectiveTier
      failureKind := record.failureKind
      error := record.error.filter (· ≠ "") }

/-- The three writes of an accepted transition. -/
def advance (s : CommandHistoryStore) (current : CommandRecord) (input : CommandTransitionInput) :
    CommandHistoryStore :=
  let appended := s.insertTransition input.commandId (some current.lifecycleState) input.toState
    input.timestamp input.details
  let updated :=
    { appended with records := appended.records.set input.commandId (current.advance input) }
  updated.emitRecorded
    { commandId := input.commandId
      correlationId := current.correlationId
      targetDeviceId := current.targetDeviceId
      sourceKind := current.sourceKind
      ruleId := current.ruleId
      executionId := current.executionId
      fromState := some current.lifecycleState
      state := input.toState
      timestamp := input.timestamp
      terminal := input.terminal
      success := input.success
      actionType := current.actionType
      effectiveTier := current.effectiveTier
      failureKind := input.failureKind
      error := input.error.filter (· ≠ "") }

def transition (s : CommandHistoryStore) (input : CommandTransitionInput) : CommandHistoryStore :=
  match s.records.get input.commandId with
  | none => s
  | some current =>
      if current.terminalAt.isSome then s
      else if current.lifecycleState = input.toState then s
      else if !current.lifecycleState.canTransition input.toState then s
      else s.advance current input

def currentState (s : CommandHistoryStore) (commandId : String) : Option CommandLifecycleState :=
  (s.records.get commandId).map CommandRecord.lifecycleState

/-- The transition a restart writes for a command it found incomplete. -/
def interruption (commandId : String) (now : Nat) : CommandTransitionInput :=
  { commandId := commandId
    toState := .failed
    timestamp := now
    success := some false
    failureKind := some .interrupted
    error := some
      "Process restarted while the command was in flight; live confirmation wait was lost"
    terminal := true
    details := some
      { reason := some
          ("Aeolus restarted while this command was in flight, so its outcome was never " ++
            "observed. No command was replayed.") } }

def reconcileRow (now : Nat) (acc : Nat × CommandHistoryStore) (row : CommandRecord) :
    Nat × CommandHistoryStore :=
  if row.lifecycleState ≠ .failed ∧ !row.lifecycleState.canTransition .failed then acc
  else (acc.1 + 1, acc.2.transition (interruption row.commandId now))

/-- The stale rows are selected once, then visited one by one. -/
def reconcileInterrupted (s : CommandHistoryStore) (now : Nat) : Nat × CommandHistoryStore :=
  (s.records.values.filter (fun r => r.terminalAt.isNone)).foldl (reconcileRow now) (0, s)

end CommandHistoryStore

/-- The writing calls of the store. -/
inductive StoreCall where
  | create (record : CommandRecord) (evidence : Option CommandEvidence)
  | transition (input : CommandTransitionInput)
  | reconcileInterrupted (now : Nat)

namespace CommandHistoryStore

def step (s : CommandHistoryStore) : StoreCall → CommandHistoryStore
  | .create record evidence =>
      match s.create record evidence with
      | .ok s' => s'
      | .error _ => s
  | .transition input => s.transition input
  | .reconcileInterrupted now => (s.reconcileInterrupted now).2

/-! ## What one call can do -/

/-- Why an insert is refused. -/
def Taken (s : CommandHistoryStore) (record : CommandRecord) : Prop :=
  s.records.has record.commandId = true ∨
    record.correlationId.isSome = true ∧
      ∃ r ∈ s.records.values, r.correlationId = record.correlationId

/-- Why a transition is refused: no such command, a completed one, or a step the
table does not have. -/
def Refused (s : CommandHistoryStore) (input : CommandTransitionInput) : Prop :=
  ∀ current, s.records.get input.commandId = some current →
    current.terminalAt.isSome = true ∨
      current.lifecycleState.canTransition input.toState = false

theorem transition_cases (s : CommandHistoryStore) (input : CommandTransitionInput) :
    (s.Refused input ∧ s.transition input = s) ∨
      ∃ current, s.records.get input.commandId = some current ∧
        current.terminalAt = none ∧
        current.lifecycleState.canTransition input.toState = true ∧
        s.transition input = s.advance current input := by
  unfold transition
  cases found : s.records.get input.commandId with
  | none =>
      refine .inl ⟨fun current hc => ?_, rfl⟩
      rw [found] at hc
      cases hc
  | some current =>
      have refused : (current.terminalAt.isSome = true ∨
          current.lifecycleState.canTransition input.toState = false) → s.Refused input := by
        intro why current' hc
        rw [found] at hc
        cases hc
        exact why
      dsimp only
      split
      · rename_i completed
        exact .inl ⟨refused (.inl completed), rfl⟩
      · rename_i open_
        split
        · rename_i same
          refine .inl ⟨refused (.inr ?_), rfl⟩
          simp [CommandLifecycleState.canTransition, same]
        · split
          · rename_i cannot
            exact .inl ⟨refused (.inr (by simpa using cannot)), rfl⟩
          · rename_i can
            refine .inr ⟨current, rfl, ?_, by simpa using can, rfl⟩
            simpa using open_

theorem create_cases (s : CommandHistoryStore) (record : CommandRecord)
    (evidence : Option CommandEvidence) :
    (s.Taken record ∧ ∃ e, s.create record evidence = .error e) ∨
      ¬ s.Taken record ∧
        ∃ s', s.create record evidence = .ok s' ∧
          s'.records = s.records.set record.commandId record ∧
          s'.transitions = s.transitions ++
            [⟨s.transitions.length + 1, record.commandId, none, record.lifecycleState,
              record.requestedAt, evidence⟩] := by
  unfold create insertRecord
  split
  · rename_i present
    exact .inl ⟨.inl present, _, rfl⟩
  · rename_i absent
    split
    · rename_i taken
      rw [Bool.and_eq_true, List.any_eq_true] at taken
      obtain ⟨given, r, hr, same⟩ := taken
      exact .inl ⟨.inr ⟨given, r, hr, by simpa using same⟩, _, rfl⟩
    · rename_i free
      refine .inr ⟨?_, _, rfl, rfl, rfl⟩
      rintro (present | ⟨given, r, hr, same⟩)
      · exact absent present
      · rw [Bool.and_eq_true, List.any_eq_true] at free
        exact free ⟨given, r, hr, by simpa using same⟩

theorem get_of_not_taken {s : CommandHistoryStore} {record : CommandRecord}
    (free : ¬ s.Taken record) : s.records.get record.commandId = none := by
  cases found : s.records.get record.commandId with
  | none => rfl
  | some r => exact absurd (.inl (by simp [OrderedMap.has, found])) free

/-- The transitions that a start-up reconciliation makes. -/
def interruptions (s : CommandHistoryStore) (now : Nat) : List CommandTransitionInput :=
  ((s.records.values.filter fun r => r.terminalAt.isNone).filter fun row =>
    row.lifecycleState = .failed ∨ row.lifecycleState.canTransition .failed).map fun row =>
      interruption row.commandId now

/-- The start-up reconciliation is a run of these transitions. -/
theorem reconcileInterrupted_eq (s : CommandHistoryStore) (now : Nat) :
    s.reconcileInterrupted now =
      ((s.interruptions now).length, run transition s (s.interruptions now)) := by
  have rows : ∀ (l : List CommandRecord) (acc : Nat × CommandHistoryStore),
      l.foldl (reconcileRow now) acc =
        (let visited := (l.filter fun row =>
            row.lifecycleState = .failed ∨ row.lifecycleState.canTransition .failed).map
              fun row => interruption row.commandId now
         (acc.1 + visited.length, run transition acc.2 visited)) := by
    intro l
    induction l with
    | nil => exact fun acc => rfl
    | cons row l ih =>
        intro acc
        rw [List.foldl_cons, ih]
        by_cases visited :
            row.lifecycleState = .failed ∨ row.lifecycleState.canTransition .failed = true
        · have taken : reconcileRow now acc row =
              (acc.1 + 1, acc.2.transition (interruption row.commandId now)) := by
            refine if_neg fun skipped => ?_
            rcases visited with failed | can
            · exact skipped.1 failed
            · simp [can] at skipped
          rw [taken, List.filter_cons_of_pos (by simpa using visited)]
          simp only [List.map_cons, List.length_cons, run_cons, Prod.mk.injEq, and_true]
          omega
        · have skipped : reconcileRow now acc row = acc := by
            push Not at visited
            exact if_pos ⟨visited.1, by simpa using visited.2⟩
          rw [skipped, List.filter_cons_of_neg (by simpa using visited)]
  have all := rows (s.records.values.filter fun r => r.terminalAt.isNone) (0, s)
  simp only [Nat.zero_add] at all
  exact all

theorem reconcileInterrupted_eq_run (s : CommandHistoryStore) (now : Nat) :
    ∃ inputs, (s.reconcileInterrupted now).2 = run transition s inputs :=
  ⟨s.interruptions now, congrArg Prod.snd (s.reconcileInterrupted_eq now)⟩

/-- What transitions preserve and accepted inserts preserve, every call preserves. -/
theorem step_preserves {P : CommandHistoryStore → Prop}
    (ofTransition : ∀ s input, P s → P (s.transition input))
    (ofCreate : ∀ s record evidence s', s.create record evidence = .ok s' → P s → P s')
    (s : CommandHistoryStore) (call : StoreCall) (holds : P s) : P (s.step call) := by
  cases call with
  | create record evidence =>
      cases created : s.create record evidence with
      | ok s' => simpa only [step, created] using ofCreate s record evidence s' created holds
      | error _ => simpa only [step, created] using holds
  | transition input => exact ofTransition s input holds
  | reconcileInterrupted now =>
      obtain ⟨inputs, same⟩ := s.reconcileInterrupted_eq_run now
      rw [step, same]
      exact run_invariant ofTransition holds inputs

/-! ## Paths -/

/-- The rows of one command, oldest first. -/
def timeline (s : CommandHistoryStore) (commandId : String) : List CommandTransition :=
  s.transitions.filter (fun t => t.commandId = commandId)

end CommandHistoryStore

/-- One row follows another: it starts where the other ended, by a step of the table. -/
def Follows (earlier later : CommandTransition) : Prop :=
  later.fromState = some earlier.toState ∧
    earlier.toState.canTransition later.toState = true ∧ earlier.id < later.id

/-- The rows lead from nothing to `state`. -/
structure Path (rows : List CommandTransition) (state : CommandLifecycleState) : Prop where
  opens : ∃ first rest, rows = first :: rest ∧ first.fromState = none
  steps : rows.IsChain Follows
  ends : ∃ front last, rows = front ++ [last] ∧ last.toState = state

theorem Path.single {t : CommandTransition} (opens : t.fromState = none) : Path [t] t.toState :=
  ⟨⟨t, [], rfl, opens⟩, List.isChain_singleton t, ⟨[], t, rfl, rfl⟩⟩

theorem Path.snoc {rows : List CommandTransition} {state : CommandLifecycleState}
    {t : CommandTransition} (path : Path rows state) (continues : t.fromState = some state)
    (can : state.canTransition t.toState = true) (newer : ∀ r ∈ rows, r.id < t.id) :
    Path (rows ++ [t]) t.toState := by
  obtain ⟨first, rest, hrows, opens⟩ := path.opens
  obtain ⟨front, last, hlast, ends⟩ := path.ends
  refine ⟨⟨first, rest ++ [t], by simp [hrows], opens⟩, ?_, ⟨rows, t, rfl, rfl⟩⟩
  rw [List.isChain_append]
  refine ⟨path.steps, List.isChain_singleton t, fun x hx y hy => ?_⟩
  have hx : last = x := by simpa [hlast] using hx
  have hy : t = y := by simpa using hy
  subst hx hy
  exact ⟨by rw [continues, ends], by rw [ends]; exact can, newer last (by simp [hlast])⟩

namespace CommandHistoryStore

/-- The two tables agree. -/
structure WF (s : CommandHistoryStore) : Prop where
  ids : ∀ t ∈ s.transitions, t.id ≤ s.transitions.length
  owned : ∀ t ∈ s.transitions, s.records.get t.commandId ≠ none
  path : ∀ c r, s.records.get c = some r → Path (s.timeline c) r.lifecycleState

theorem wf_empty : ({} : CommandHistoryStore).WF where
  ids _ h := by simp at h
  owned _ h := by simp at h
  path _ _ h := by cases h

theorem timeline_snoc {s s' : CommandHistoryStore} {t : CommandTransition}
    (grown : s'.transitions = s.transitions ++ [t]) (c : String) :
    s'.timeline c = if t.commandId = c then s.timeline c ++ [t] else s.timeline c := by
  rw [timeline, grown, List.filter_append]
  split
  · rename_i same
    rw [List.filter_cons_of_pos (by simpa using same)]
    rfl
  · rename_i other
    rw [List.filter_cons_of_neg (by simpa using other), List.filter_nil, List.append_nil]
    rfl

/-- Appending the next row for a command whose record moves with it. -/
theorem WF.append {s s' : CommandHistoryStore} (wf : s.WF) {t : CommandTransition}
    {r : CommandRecord} (grown : s'.transitions = s.transitions ++ [t])
    (next : t.id = s.transitions.length + 1) (set : s'.records = s.records.set t.commandId r)
    (path : Path (s.timeline t.commandId ++ [t]) r.lifecycleState) : s'.WF := by
  refine ⟨fun u hu => ?_, fun u hu => ?_, fun c r' found => ?_⟩
  · rw [grown, List.length_append, List.length_singleton]
    rw [grown] at hu
    rcases List.mem_append.mp hu with hu | hu
    · exact (wf.ids u hu).trans (Nat.le_succ _)
    · rw [List.mem_singleton.mp hu, next]
  · rw [set, OrderedMap.get_set]
    rw [grown] at hu
    split
    · simp
    · rename_i other
      rcases List.mem_append.mp hu with hu | hu
      · exact wf.owned u hu
      · exact absurd (by rw [List.mem_singleton.mp hu]) other
  · rw [set, OrderedMap.get_set] at found
    rw [timeline_snoc grown]
    split at found
    · rename_i same
      cases found
      rw [if_pos same.symm, same]
      exact path
    · rename_i other
      rw [if_neg fun h => other h.symm]
      exact wf.path c r' found

theorem transition_wf (s : CommandHistoryStore) (input : CommandTransitionInput) (wf : s.WF) :
    (s.transition input).WF := by
  obtain ⟨-, same⟩ | ⟨current, found, -, can, same⟩ := s.transition_cases input
  · rw [same]
    exact wf
  · rw [same]
    refine wf.append rfl rfl rfl ?_
    refine (wf.path input.commandId current found).snoc rfl can fun r hr => ?_
    exact Nat.lt_succ_of_le (wf.ids r (List.mem_of_mem_filter hr))

theorem create_wf (s : CommandHistoryStore) (record : CommandRecord)
    (evidence : Option CommandEvidence) (s' : CommandHistoryStore)
    (created : s.create record evidence = .ok s') (wf : s.WF) : s'.WF := by
  obtain ⟨-, e, failed⟩ | ⟨free, s'', ok, set, grown⟩ := s.create_cases record evidence
  · rw [failed] at created
    cases created
  · rw [ok] at created
    cases created
    have none : s.timeline record.commandId = [] := by
      refine List.filter_eq_nil_iff.mpr fun t ht same => ?_
      have same : t.commandId = record.commandId := by simpa using same
      exact wf.owned t ht (same ▸ get_of_not_taken free)
    refine wf.append grown rfl set ?_
    rw [none]
    exact Path.single rfl

theorem run_wf (calls : List StoreCall) : (run step {} calls).WF :=
  run_invariant (step_preserves transition_wf create_wf) wf_empty calls

/-! ## A completed command is frozen -/

/-- Command `c` is stored as `r`, completed, with exactly these rows. -/
def Frozen (c : String) (r : CommandRecord) (rows : List CommandTransition)
    (s : CommandHistoryStore) : Prop :=
  s.records.get c = some r ∧ r.terminalAt.isSome = true ∧ s.timeline c = rows

theorem transition_frozen {c : String} {r : CommandRecord} {rows : List CommandTransition}
    (s : CommandHistoryStore) (input : CommandTransitionInput) (frozen : Frozen c r rows s) :
    Frozen c r rows (s.transition input) := by
  obtain ⟨found, completed, same⟩ := frozen
  obtain ⟨-, unchanged⟩ | ⟨current, here, open_, -, moved⟩ := s.transition_cases input
  · rw [unchanged]
    exact ⟨found, completed, same⟩
  · have other : input.commandId ≠ c := by
      rintro rfl
      rw [found] at here
      cases here
      simp [open_] at completed
    rw [moved]
    refine ⟨?_, completed, ?_⟩
    · show (s.records.set input.commandId _).get c = some r
      rw [OrderedMap.get_set_of_ne _ _ other.symm, found]
    · rw [timeline_snoc rfl c, if_neg other, same]

theorem create_frozen {c : String} {r : CommandRecord} {rows : List CommandTransition}
    (s : CommandHistoryStore) (record : CommandRecord) (evidence : Option CommandEvidence)
    (s' : CommandHistoryStore) (created : s.create record evidence = .ok s')
    (frozen : Frozen c r rows s) : Frozen c r rows s' := by
  obtain ⟨found, completed, same⟩ := frozen
  obtain ⟨-, e, failed⟩ | ⟨free, s'', ok, set, grown⟩ := s.create_cases record evidence
  · rw [failed] at created
    cases created
  · rw [ok] at created
    cases created
    have other : record.commandId ≠ c := by
      rintro rfl
      have absent := get_of_not_taken free
      rw [found] at absent
      cases absent
    refine ⟨?_, completed, ?_⟩
    · rw [set, OrderedMap.get_set_of_ne _ _ other.symm, found]
    · rw [timeline_snoc grown c, if_neg other, same]

theorem run_frozen {c : String} {r : CommandRecord} {rows : List CommandTransition}
    {s : CommandHistoryStore} (frozen : Frozen c r rows s) (calls : List StoreCall) :
    Frozen c r rows (run step s calls) :=
  run_invariant (step_preserves transition_frozen create_frozen) frozen calls

/-! ## The timeline -/

/-- The store turns the call down.  A reconciliation is never turned down. -/
def Rejected (s : CommandHistoryStore) : StoreCall → Prop
  | .create record _ => s.Taken record
  | .transition input => s.Refused input
  | .reconcileInterrupted _ => False

theorem step_of_rejected {s : CommandHistoryStore} {call : StoreCall}
    (rejected : s.Rejected call) : s.step call = s := by
  cases call with
  | create record evidence =>
      obtain ⟨-, e, failed⟩ | ⟨free, -⟩ := s.create_cases record evidence
      · simp [step, failed]
      · exact absurd rejected free
  | transition input =>
      obtain ⟨-, same⟩ | ⟨current, found, open_, can, -⟩ := s.transition_cases input
      · exact same
      · rcases rejected current found with completed | cannot
        · simp [open_] at completed
        · simp [can] at cannot
  | reconcileInterrupted now => exact rejected.elim

/-- **The command timeline.**  After any calls, the rows of every stored command
are a path of the lifecycle table ending at its state; whatever calls follow, a
completed command keeps its record and its rows; and a rejected call leaves both
tables as they were. -/
theorem timeline_path (before after : List StoreCall) :
    (∀ c r, (run step {} before).records.get c = some r →
      Path ((run step {} before).timeline c) r.lifecycleState) ∧
    (∀ c r, (run step {} before).records.get c = some r → r.terminalAt.isSome = true →
      (run step {} (before ++ after)).records.get c = some r ∧
      (run step {} (before ++ after)).timeline c = (run step {} before).timeline c) ∧
    ∀ call, (run step {} before).Rejected call →
      ((run step {} before).step call).records = (run step {} before).records ∧
      ((run step {} before).step call).transitions = (run step {} before).transitions := by
  refine ⟨(run_wf before).path, fun c r found completed => ?_, fun call rejected => ?_⟩
  · rw [run_append]
    obtain ⟨kept, -, rows⟩ := run_frozen ⟨found, completed, rfl⟩ after
    exact ⟨kept, rows⟩
  · rw [step_of_rejected rejected]
    exact ⟨rfl, rfl⟩

end CommandHistoryStore

end Aeolus.Automations
