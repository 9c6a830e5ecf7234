/-
# Aeolus.Frontend.ProofFidelity — the four stages say what the record says

`devices.commandEvidence()` hands a script the stored record with its timeline as plain
JSON (`src/automations/command-history-store.ts`, `rowToRecord` and `rowToTransition`), and
the script projects it to `commandProof` unchanged.

The view infers which stages a command had to pass through from its tier and two flags;
`Required` says it of the record.  The two agree on every record the pipeline can have
written, since a stored command of a tier above `dispatch` names the capability behind it
(`run_told`).  Hence `proof_faithful`: at every point of every run the proof of a stored
command shows exactly the stages of its timeline, and its failure at the lowest stage that
the command had to pass through and did not reach.
-/
import Aeolus.Automations.RecordVerdict
import Aeolus.Frontend.CommandProof

namespace Aeolus.Frontend

open Aeolus.Core Aeolus.Theory Aeolus.Automations

/-! ## The evidence, as plain JSON -/

section Evidence

def stateText : CommandLifecycleState → String
  | .requested => "REQUESTED"
  | .dispatched => "DISPATCHED"
  | .acknowledged => "ACKNOWLEDGED"
  | .observed => "OBSERVED"
  | .failed => "FAILED"
  | .timedOut => "TIMED_OUT"
  | .stateMismatch => "STATE_MISMATCH"

def tierText : ConfirmationTier → String
  | .dispatch => "dispatch"
  | .acknowledged => "acknowledged"
  | .observed => "observed"

def sourceKindText : CommandSourceKind → String
  | .automation => "automation"
  | .rest => "rest"
  | .system => "system"

def failureText : CommandFailureReason → String
  | .kind .notFound => "not_found"
  | .kind .unsupported => "unsupported"
  | .kind .invalidParams => "invalid_params"
  | .kind .transport => "transport"
  | .kind .execution => "execution"
  | .kind .unauthorized => "unauthorized"
  | .interrupted => "interrupted"

/-- The descriptive columns of a row, which no transition touches. -/
structure Snapshot where
  capabilityCeiling : Option ConfirmationTier := none
  observedDeviceId : Option String := none
  /-- the column, when it parses to an object -/
  conditionSpec : Option JsonObject := none
  transportKind : Option String := none
  targetDeviceName : Option String := none
  observedDeviceName : Option String := none
  intentLabel : Option String := none
  observedLabel : Option String := none
  triggerKind : Option String := none
  triggerId : Option String := none
  triggerTopic : Option String := none

/-- `rowToRecord`, field by field: a `NULL` column is left out. -/
def rowToRecord (r : CommandRecord) (snap : Snapshot) : List (String × Option Json) :=
  [("commandId", some (.str r.commandId)),
    ("correlationId", r.correlationId.map .str),
    ("sourceKind", some (.str (sourceKindText r.sourceKind))),
    ("sourceId", r.sourceId.map .str),
    ("ruleId", r.ruleId.map .str),
    ("executionId", r.executionId.map .str),
    ("causationId", r.causationId.map .str),
    ("targetDeviceId", some (.str r.targetDeviceId)),
    ("actionType", some (.str r.actionType)),
    ("requestedTier", r.requestedTier.map fun tier => .str (tierText tier)),
    ("effectiveTier", some (.str (tierText r.effectiveTier))),
    ("lifecycleState", some (.str (stateText r.lifecycleState))),
    ("success", r.success.map .bool),
    ("failureKind", r.failureKind.map fun failure => .str (failureText failure)),
    ("error", r.error.map .str),
    ("requestedAt", some (.num r.requestedAt)),
    ("terminalAt", r.terminalAt.map fun (time : Nat) => .num time),
    ("capabilityCeiling", snap.capabilityCeiling.map fun tier => .str (tierText tier)),
    ("ackAvailable", r.ackAvailable.map .bool),
    ("observationConfigured", r.observationConfigured.map .bool),
    ("observedDeviceId", snap.observedDeviceId.map .str),
    ("conditionSpec", snap.conditionSpec.map fun spec => .obj spec.entries),
    ("transportKind", snap.transportKind.map .str),
    ("targetDeviceName", snap.targetDeviceName.map .str),
    ("observedDeviceName", snap.observedDeviceName.map .str),
    ("intentLabel", snap.intentLabel.map .str),
    ("observedLabel", snap.observedLabel.map .str),
    ("triggerKind", snap.triggerKind.map .str),
    ("triggerId", snap.triggerId.map .str),
    ("triggerTopic", snap.triggerTopic.map .str)]

def evidenceJson (evidence : CommandEvidence) : Json :=
  .ofPresent
    [("tier", evidence.tier.map fun tier => .str (tierText tier)),
      ("observedDeviceId", evidence.observedDeviceId.map .str),
      ("condition", evidence.condition.map fun spec => .obj spec.entries),
      ("timeoutMs", evidence.timeoutMs.map fun (time : Nat) => .num time),
      ("reason", evidence.reason.map .str)]

/-- `rowToTransition` -/
def rowToTransition (t : CommandTransition) : Json :=
  .ofPresent
    [("id", some (.num t.id)),
      ("commandId", some (.str t.commandId)),
      ("fromState", t.fromState.map fun state => .str (stateText state)),
      ("toState", some (.str (stateText t.toState))),
      ("timestamp", some (.num t.timestamp)),
      ("details", t.details.map evidenceJson)]

/-- What `devices.commandEvidence()` returns of a record and its rows. -/
def recordWithTransitions (r : CommandRecord) (snap : Snapshot) (rows : List CommandTransition) :
    Json :=
  .ofPresent (rowToRecord r snap ++ [("transitions", some (.arr (rows.map rowToTransition)))])

theorem record_property {r : CommandRecord} {snap : Snapshot} {rows : List CommandTransition}
    {name : String} {value : Option Json}
    (field : (name, value) ∈
      rowToRecord r snap ++ [("transitions", some (.arr (rows.map rowToTransition)))]) :
    (recordWithTransitions r snap rows).property name = value := by
  refine Json.property_ofPresent ?_ field
  rw [List.map_append]
  show (_ ++ ["transitions"]).Nodup
  simp only [rowToRecord, List.map_cons, List.map_nil]
  decide

theorem transition_property {t : CommandTransition} {name : String} {value : Option Json}
    (field : (name, value) ∈
      [("id", some (.num t.id)),
        ("commandId", some (.str t.commandId)),
        ("fromState", t.fromState.map fun state => .str (stateText state)),
        ("toState", some (.str (stateText t.toState))),
        ("timestamp", some (.num t.timestamp)),
        ("details", t.details.map evidenceJson)]) :
    (rowToTransition t).property name = value := by
  refine Json.property_ofPresent ?_ field
  simp only [List.map_cons, List.map_nil]
  decide

end Evidence

/-! ## Reading the rows -/

namespace ProofStage

/-- The lifecycle state a stage is about. -/
def lifecycle : ProofStage → CommandLifecycleState
  | .requested => .requested
  | .dispatched => .dispatched
  | .acknowledged => .acknowledged
  | .observed => .observed

end ProofStage

/-- A state is a failure, or it is a stage. -/
theorem failure_or_stage (state : CommandLifecycleState) :
    (state.isFailure = true ∧ stateText state ∈ failureStates) ∨
      ∃ stage : ProofStage, stage.lifecycle = state ∧ state.isFailure = false ∧
        stateText state ∉ failureStates ∧
        proofStages.find? (fun stage => stage.term = stateText state) = some stage := by
  cases state with
  | requested => exact .inr ⟨.requested, by decide⟩
  | dispatched => exact .inr ⟨.dispatched, by decide⟩
  | acknowledged => exact .inr ⟨.acknowledged, by decide⟩
  | observed => exact .inr ⟨.observed, by decide⟩
  | failed => exact .inl (by decide)
  | timedOut => exact .inl (by decide)
  | stateMismatch => exact .inl (by decide)

theorem lifecycle_injective {a b : ProofStage} (same : a.lifecycle = b.lifecycle) : a = b := by
  revert same
  cases a <;> cases b <;> decide

theorem lifecycle_not_failure (stage : ProofStage) : stage.lifecycle.isFailure = false := by
  cases stage <;> rfl

section Rows

variable (js : Runtime)

/-- One row moves one entry of the index, or sets the failure. -/
theorem readTransition_row (read : Transitions) (t : CommandTransition) :
    (t.toState.isFailure = true ∧ ∃ failure,
      readTransition js read (rowToTransition t) = { read with failure := some failure }) ∨
    (t.toState.isFailure = false ∧ ∃ stage hit, ProofStage.lifecycle stage = t.toState ∧
      readTransition js read (rowToTransition t) =
        { read with reached := read.reached.set stage hit }) := by
  have state : asText ((rowToTransition t).property "toState") = stateText t.toState := by
    have column : (rowToTransition t).property "toState" = some (.str (stateText t.toState)) :=
      transition_property (by simp)
    rw [column]
    rfl
  have named : stateText t.toState ≠ "" := by cases t.toState <;> decide
  have shape : asRecord (some (rowToTransition t)) = some (rowToTransition t) := rfl
  unfold readTransition
  rw [shape]
  dsimp only
  rw [state, if_neg named]
  obtain ⟨failure, listed⟩ | ⟨stage, same, early, apart, found⟩ := failure_or_stage t.toState
  · rw [if_pos listed]
    exact .inl ⟨failure, _, rfl⟩
  · rw [if_neg apart, found]
    exact .inr ⟨early, stage, _, same, rfl⟩

theorem foldl_readTransition (rows : List CommandTransition) (read : Transitions) :
    (∀ stage : ProofStage,
      ((rows.map rowToTransition).foldl (readTransition js) read).reached.has stage = true ↔
        read.reached.has stage = true ∨ ∃ t ∈ rows, t.toState = stage.lifecycle) ∧
    (((rows.map rowToTransition).foldl (readTransition js) read).failure.isSome = true ↔
      read.failure.isSome = true ∨ ∃ t ∈ rows, t.toState.isFailure = true) := by
  induction rows generalizing read with
  | nil => simp
  | cons t rows ih =>
      rw [List.map_cons, List.foldl_cons]
      obtain ⟨reached, failed⟩ := ih (readTransition js read (rowToTransition t))
      obtain ⟨failure, recorded, moved⟩ | ⟨early, own, hit, same, moved⟩ :=
        readTransition_row js read t
      · rw [moved] at reached failed ⊢
        refine ⟨fun stage => ?_, ?_⟩
        · have other : t.toState ≠ stage.lifecycle := fun same => by
            rw [same, lifecycle_not_failure] at failure
            cases failure
          rw [reached stage]
          simp [other]
        · rw [failed]
          simp [failure]
      · rw [moved] at reached failed ⊢
        refine ⟨fun stage => ?_, ?_⟩
        · rw [reached stage]
          by_cases mine : own = stage
          · subst mine
            simp [OrderedMap.has, OrderedMap.get_set_self, ← same]
          · have other : t.toState ≠ stage.lifecycle := fun eq =>
              mine (lifecycle_injective (same.trans eq))
            simp [OrderedMap.has, OrderedMap.get_set_of_ne _ _ (Ne.symm mine : stage ≠ own), other]
        · rw [failed]
          simp [early]

/-- The index of a timeline: its stages, and whether it failed. -/
theorem readTransitions_record (r : CommandRecord) (snap : Snapshot)
    (rows : List CommandTransition) :
    let read := readTransitions js (recordWithTransitions r snap rows)
    (∀ stage : ProofStage, read.reached.has stage = true ↔
      ∃ t ∈ rows, t.toState = stage.lifecycle) ∧
    (read.failure.isSome = true ↔ ∃ t ∈ rows, t.toState.isFailure = true) := by
  have listed : (recordWithTransitions r snap rows).property "transitions" =
      some (.arr (rows.map rowToTransition)) := record_property (by simp)
  obtain ⟨reached, failed⟩ := foldl_readTransition js rows {}
  unfold readTransitions
  rw [listed]
  refine ⟨fun stage => ?_, ?_⟩
  · rw [reached stage]
    simp [OrderedMap.has, OrderedMap.get_empty]
  · rw [failed]
    simp

end Rows

/-! ## What a proof must say -/

/-- The stages a command has to pass through: it is always requested and dispatched, it
waits for an acknowledgement when its tier is above `dispatch` and the device can give one,
and for an observation when that is its tier. -/
def Required (r : CommandRecord) : ProofStage → Prop
  | .requested => True
  | .dispatched => True
  | .acknowledged => r.effectiveTier ≠ .dispatch ∧ r.ackAvailable = some true
  | .observed => r.effectiveTier = .observed

def Recorded (rows : List CommandTransition) (stage : ProofStage) : Prop :=
  ∃ t ∈ rows, t.toState = stage.lifecycle

/-- The lowest stage that was required and not reached. -/
structure Stopped (r : CommandRecord) (rows : List CommandTransition) (stage : ProofStage) :
    Prop where
  required : Required r stage
  missing : ¬ Recorded rows stage
  lowest : ∀ other, Required r other → ¬ Recorded rows other → stage.rank ≤ other.rank

structure Faithful (r : CommandRecord) (rows : List CommandTransition) (proof : CommandProof) :
    Prop where
  scaffold : proof.stages.map CommandProofStage.state = proofStages
  reached : ∀ shown ∈ proof.stages, shown.status = .reached ↔ Recorded rows shown.state
  failed : r.terminalAt.isSome = true → r.success = some false →
    ∃ stage, Stopped r rows stage ∧
      ∀ shown ∈ proof.stages, shown.status = .failed ↔ shown.state = stage
  proven : r.terminalAt.isSome = true → r.success = some true →
    (∀ shown ∈ proof.stages, shown.status ≠ .failed ∧ shown.status ≠ .pending) ∧
      ∃ shown ∈ proof.stages, shown.state.term = proof.headline ∧ shown.status = .reached
  running : r.terminalAt = none → ∀ shown ∈ proof.stages, shown.status ≠ .failed

/-- The view's own idea of what was required. -/
theorem requiredStage_iff {r : CommandRecord} {rows : List CommandTransition} (told : Told r rows)
    {ctx : ProofContext} (ack : ctx.ackAvailable = r.ackAvailable)
    (observation : ctx.observationConfigured = r.observationConfigured)
    (rank : ctx.targetRank = (tierTargetRank (tierText r.effectiveTier)).getD 1)
    (stage : ProofStage) : requiredStage ctx stage = true ↔ Required r stage := by
  obtain ⟨available, known⟩ := Option.isSome_iff_exists.mp told.known
  cases stage with
  | requested => exact iff_of_true rfl trivial
  | dispatched => exact iff_of_true rfl trivial
  | acknowledged =>
      unfold requiredStage Required
      rw [rank, ack, known]
      cases r.effectiveTier <;> cases available <;> simp [tierTargetRank, tierText]
  | observed =>
      unfold requiredStage Required
      rw [rank, observation]
      cases tier : r.effectiveTier with
      | dispatch => simp [tierTargetRank, tierText]
      | acknowledged => simp [tierTargetRank, tierText]
      | observed => simp [tierTargetRank, tierText, told.observes tier]

/-- The stage that decides a tier. -/
def decisive : ConfirmationTier → ProofStage
  | .dispatch => .dispatched
  | .acknowledged => .acknowledged
  | .observed => .observed

theorem decisive_lifecycle (tier : ConfirmationTier) :
    (decisive tier).lifecycle = tier.target := by
  cases tier <;> rfl

theorem required_decisive {r : CommandRecord} {rows : List CommandTransition}
    (told : Told r rows) : Required r (decisive r.effectiveTier) := by
  cases tier : r.effectiveTier with
  | dispatch => trivial
  | acknowledged => exact ⟨by simp [tier], told.acknowledges tier⟩
  | observed => exact tier

/-- The scaffold is searched from below. -/
theorem find?_proofStages {p : ProofStage → Bool} {stage : ProofStage}
    (found : proofStages.find? p = some stage) :
    p stage = true ∧ ∀ other, p other = true → stage.rank ≤ other.rank := by
  obtain ⟨holds, before, after, split, earlier⟩ := List.find?_eq_some_iff_append.mp found
  have ordered : proofStages.Pairwise fun a b => a.rank ≤ b.rank := by decide
  rw [split, List.pairwise_append] at ordered
  refine ⟨holds, fun other also => ?_⟩
  have member : other ∈ before ++ stage :: after := split ▸ mem_proofStages other
  rcases List.mem_append.mp member with low | rest
  · have skipped := earlier other low
    rw [also] at skipped
    cases skipped
  · rcases List.mem_cons.mp rest with rfl | high
    · exact Nat.le_refl _
    · exact List.rel_of_pairwise_cons ordered.2.1 high

/-- Where the view attaches a failure. -/
theorem stopped_of_failedStage {r : CommandRecord} {rows : List CommandTransition}
    {read : Transitions} {ctx : ProofContext} (required : ∀ stage, requiredStage ctx stage = true ↔ Required r stage)
    (reached : ∀ stage, read.reached.has stage = true ↔ Recorded rows stage) {stage : ProofStage}
    (attaches : failedStage read ctx = some stage) : Stopped r rows stage := by
  obtain ⟨failure, -, found⟩ := Option.bind_eq_some_iff.mp attaches
  obtain ⟨picked, lowest⟩ := find?_proofStages found
  have missing (other : ProofStage) :
      (requiredStage ctx other && !read.reached.has other) = true ↔
        Required r other ∧ ¬ Recorded rows other := by
    rw [Bool.and_eq_true, required, Bool.not_eq_true', ← Bool.not_eq_true, reached]
  rw [missing] at picked
  exact ⟨picked.1, picked.2, fun other needed absent => lowest other ((missing other).mpr
    ⟨needed, absent⟩)⟩

/-! ## The view of a record -/

section Columns

variable (js : Runtime) (r : CommandRecord) (snap : Snapshot) (rows : List CommandTransition)

theorem record_state :
    asText ((recordWithTransitions r snap rows).property "lifecycleState") =
      stateText r.lifecycleState := by
  have column : (recordWithTransitions r snap rows).property "lifecycleState" =
      some (.str (stateText r.lifecycleState)) := record_property (by simp [rowToRecord])
  rw [column]
  rfl

theorem record_tier :
    proofTier (recordWithTransitions r snap rows) = tierText r.effectiveTier := by
  have column : (recordWithTransitions r snap rows).property "effectiveTier" =
      some (.str (tierText r.effectiveTier)) := record_property (by simp [rowToRecord])
  unfold proofTier
  rw [column]
  cases r.effectiveTier <;> rfl

theorem record_settled :
    (toFiniteNumber js ((recordWithTransitions r snap rows).property "terminalAt")).isSome =
      r.terminalAt.isSome := by
  have column : (recordWithTransitions r snap rows).property "terminalAt" =
      r.terminalAt.map fun (time : Nat) => .num time := record_property (by simp [rowToRecord])
  rw [column]
  cases r.terminalAt <;> rfl

variable {r snap rows} in
theorem record_flag {name : String} {value : Option Bool}
    (column : (name, value.map Json.bool) ∈
      rowToRecord r snap ++ [("transitions", some (.arr (rows.map rowToTransition)))]) :
    asBoolean ((recordWithTransitions r snap rows).property name) = value := by
  rw [record_property column]
  cases value <;> rfl

theorem record_success :
    asBoolean ((recordWithTransitions r snap rows).property "success") = r.success :=
  record_flag (by simp [rowToRecord])

theorem record_rank :
    (proofContext js (recordWithTransitions r snap rows)).targetRank =
      (tierTargetRank (tierText r.effectiveTier)).getD 1 := by
  show (tierTargetRank (proofTier _)).getD 1 = _
  rw [record_tier]

end Columns

/-- The view of a told record. -/
theorem commandProof_faithful (js : Runtime) {r : CommandRecord} (snap : Snapshot)
    {rows : List CommandTransition} (told : Told r rows) :
    ∃ proof, commandProof js (some (recordWithTransitions r snap rows)) = some proof ∧
      Faithful r rows proof := by
  have shape : asRecord (some (recordWithTransitions r snap rows)) =
      some (recordWithTransitions r snap rows) := rfl
  have named : stateText r.lifecycleState ≠ "" := by cases r.lifecycleState <;> decide
  have shown : ∃ proof, commandProof js (some (recordWithTransitions r snap rows)) = some proof ∧
      proof.stages = resolveStages (readTransitions js (recordWithTransitions r snap rows))
        r.terminalAt.isSome (proofContext js (recordWithTransitions r snap rows)) ∧
      (r.terminalAt.isSome = true → r.success = some true →
        proof.headline = (decisive r.effectiveTier).term) := by
    unfold commandProof
    rw [shape]
    simp only [Option.bind_eq_bind, Option.bind_some, record_state, record_tier, record_settled,
      record_success, guard, named, ne_eq, not_false_eq_true, if_true, Option.pure_def]
    refine ⟨_, rfl, rfl, fun settled success => ?_⟩
    simp only [settled, success]
    cases r.effectiveTier <;> rfl
  obtain ⟨proof, eq, stages, headline⟩ := shown
  refine ⟨proof, eq, ?_⟩
  obtain ⟨index, fails⟩ := readTransitions_record js r snap rows
  generalize readTransitions js (recordWithTransitions r snap rows) = read at stages index fails
  have ack : (proofContext js (recordWithTransitions r snap rows)).ackAvailable =
      r.ackAvailable := record_flag (by simp [rowToRecord])
  have observation :
      (proofContext js (recordWithTransitions r snap rows)).observationConfigured =
        r.observationConfigured := record_flag (by simp [rowToRecord])
  have required := requiredStage_iff told ack observation (record_rank js r snap rows)
  generalize proofContext js (recordWithTransitions r snap rows) = ctx at stages required
  -- the status of a shown stage is the one resolved for its state
  have status (shown : CommandProofStage) (member : shown ∈ proof.stages) :
      shown.status = (resolveStage read r.terminalAt.isSome ctx shown.state).status := by
    rw [stages] at member
    exact congrArg CommandProofStage.status (mem_resolveStages.mp member)
  -- without a failing row no failure attaches to any stage
  have sound (verdict : ¬ (r.terminalAt.isSome = true ∧ r.success = some false))
      (shown : CommandProofStage) (member : shown ∈ proof.stages) : shown.status ≠ .failed := by
    rw [status shown member, Ne, resolveStage_failed]
    intro attaches
    obtain ⟨failure, recorded, -⟩ := Option.bind_eq_some_iff.mp attaches
    exact verdict (told.refuted.mp (fails.mp (by rw [recorded]; rfl)))
  refine ⟨by rw [stages]; exact resolveStages_states, fun shown member => ?_, ?_, ?_, ?_⟩
  · rw [status shown member, resolveStage_reached]
    exact index shown.state
  · intro settled success
    -- the stage of the tier is required and was not reached, so the search finds one
    have open_ : ¬ Recorded rows (decisive r.effectiveTier) := by
      unfold Recorded
      rw [decisive_lifecycle, told.proven, success]
      simp
    obtain ⟨failure, recorded⟩ :=
      Option.isSome_iff_exists.mp (fails.mpr (told.refuted.mpr ⟨settled, success⟩))
    have some_stage : (failedStage read ctx).isSome = true := by
      unfold failedStage
      rw [recorded, Option.bind_some, List.find?_isSome]
      refine ⟨decisive r.effectiveTier, mem_proofStages _, ?_⟩
      rw [Bool.and_eq_true, required, Bool.not_eq_true', ← Bool.not_eq_true, index]
      exact ⟨required_decisive told, open_⟩
    obtain ⟨stage, attaches⟩ := Option.isSome_iff_exists.mp some_stage
    refine ⟨stage, stopped_of_failedStage required index attaches, fun shown member => ?_⟩
    rw [status shown member, resolveStage_failed, attaches, Option.some.injEq]
    exact eq_comm
  · intro settled success
    refine ⟨fun shown member => ⟨sound (by simp [success]) shown member, ?_⟩, ?_⟩
    · rw [status shown member, settled]
      exact resolveStage_settled shown.state
    · refine ⟨resolveStage read r.terminalAt.isSome ctx (decisive r.effectiveTier), ?_, ?_, ?_⟩
      · rw [stages]
        exact List.mem_map_of_mem (mem_proofStages _)
      · rw [headline settled success, resolveStage_state]
      · rw [resolveStage_reached, index, decisive_lifecycle]
        exact told.proven.mpr ⟨settled, success⟩
  · intro running
    exact sound (by simp [running])

/-- **The proof is faithful.**  At every point of every run with fresh ids, whichever writes
are lost. -/
theorem proof_faithful (js : Runtime) (uuid : Nat → String) (fresh : Function.Injective uuid)
    (events : List SystemEvent) (snap : Snapshot) (c : String) (r : CommandRecord)
    (stored : (run (System.step uuid) {} events).store.records.get c = some r) :
    ∃ proof,
      commandProof js (some (recordWithTransitions r snap
        ((run (System.step uuid) {} events).store.timeline c))) = some proof ∧
      Faithful r ((run (System.step uuid) {} events).store.timeline c) proof :=
  commandProof_faithful js snap (run_told uuid fresh events c r stored)

/-- The lamp's reply outruns the end of the publish, and the pane reads `ACKNOWLEDGED`. -/
theorem proof_faithful_early_reply :
    ∃ r proof,
      commandProof ⟨fun _ => none, fun _ => ""⟩ (some (recordWithTransitions r {}
        ((run (System.step unaryIds) {} earlyReply).store.timeline (unaryIds 0)))) = some proof ∧
      ∃ shown ∈ proof.stages, shown.state.term = proof.headline ∧ shown.status = .reached := by
  obtain ⟨r, stored, settled, success⟩ : ∃ r,
      (run (System.step unaryIds) {} earlyReply).store.records.get (unaryIds 0) = some r ∧
        r.terminalAt.isSome = true ∧ r.success = some true := ⟨_, rfl, rfl, rfl⟩
  obtain ⟨proof, shown, faithful⟩ := proof_faithful ⟨fun _ => none, fun _ => ""⟩ unaryIds
    unaryIds_injective earlyReply {} (unaryIds 0) r stored
  exact ⟨r, proof, shown, (faithful.proven settled success).2⟩

end Aeolus.Frontend
