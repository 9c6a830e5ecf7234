/-
# Aeolus.Frontend.CommandProof — the four stages a pane shows of a command

`src/frontend/src/sandbox/ui-kit/command-proof.ts`.  `commandProof` reads one value of
unknown shape, the evidence of a command, and always renders the same four stages; what a
stage says is its status.  `resolveStages` decides the statuses from the recorded
transitions, the tier and two capability flags.

Looking a text up in a table of the source finds the table's own entries only.
-/
import Aeolus.Core.Json
import Aeolus.Core.Text

namespace Aeolus.Frontend

open Aeolus.Core Aeolus.Theory

/-! ## Reading a value of unknown shape -/

/-- What the view asks of the language. -/
structure Runtime where
  /-- `Number(text)`, when it is finite -/
  number : String → Option ℚ
  /-- `String(value)` -/
  string : Json → String

/-- `asRecord` -/
def asRecord : Option Json → Option Json
  | some (.obj fields) => some (.obj fields)
  | _ => none

/-- `asText` -/
def asText : Option Json → String
  | some (.str value) => value
  | _ => ""

/-- `typeof value === "boolean" ? value : undefined` -/
def asBoolean : Option Json → Option Bool
  | some (.bool value) => some value
  | _ => none

/-- `toFiniteNumber` -/
def toFiniteNumber (js : Runtime) : Option Json → Option ℚ
  | some (.num value) => some value
  | some (.str value) => if trim value = "" then none else js.number (trim value)
  | _ => none

/-! ## Vocabulary -/

inductive ProofStage where
  | requested
  | dispatched
  | acknowledged
  | observed
  deriving DecidableEq, Repr

/-- `PROOF_STAGES` -/
def proofStages : List ProofStage := [.requested, .dispatched, .acknowledged, .observed]

namespace ProofStage

def term : ProofStage → String
  | .requested => "REQUESTED"
  | .dispatched => "DISPATCHED"
  | .acknowledged => "ACKNOWLEDGED"
  | .observed => "OBSERVED"

/-- The position in `PROOF_STAGES`. -/
def rank : ProofStage → Nat
  | .requested => 0
  | .dispatched => 1
  | .acknowledged => 2
  | .observed => 3

end ProofStage

inductive ProofStageStatus where
  | reached
  | pending
  | failed
  | unavailable
  | notRequired
  | notConfigured
  | notReached
  | notRecorded
  deriving DecidableEq, Repr

structure CommandProofStage where
  state : ProofStage
  label : String
  status : ProofStageStatus
  reachedAt : Option ℚ
  detail : String

structure CommandProof where
  intent : String
  headline : String
  mark : String
  settled : Bool
  proven : Bool
  chain : String
  stages : List CommandProofStage
  tier : String
  ceiling : String
  clamped : Bool
  clampNote : String
  targetDeviceName : String
  observedDeviceName : String
  conditionText : String
  commandId : String
  executionId : String

/-- `FAILURE_STATES` -/
def failureStates : List String := ["FAILED", "TIMED_OUT", "STATE_MISMATCH"]

/-- `TIER_TARGET_RANK` -/
def tierTargetRank : String → Option Nat
  | "dispatch" => some 1
  | "acknowledged" => some 2
  | "observed" => some 3
  | _ => none

/-- `TIER_HEADLINES` -/
def tierHeadlines : String → Option String
  | "dispatch" => some "DISPATCHED"
  | "acknowledged" => some "ACKNOWLEDGED"
  | "observed" => some "OBSERVED"
  | _ => none

/-- `FAILURE_HEADLINES` -/
def failureHeadlines : String → Option String
  | "FAILED" => some "FAILED"
  | "TIMED_OUT" => some "TIMED OUT"
  | "STATE_MISMATCH" => some "STATE MISMATCH"
  | _ => none

/-- `TRANSPORT_LABELS` -/
def transportLabels : String → Option String
  | "mqtt" => some "MQTT"
  | "hue" => some "the Hue bridge"
  | "kasa" => some "the Kasa connector"
  | _ => none

/-- `CONDITION_OPS` -/
def conditionOps : String → Option String
  | "eq" => some "="
  | "ne" => some "≠"
  | "gt" => some ">"
  | "gte" => some "≥"
  | "lt" => some "<"
  | "lte" => some "≤"
  | _ => none

/-! ## Conditions, read aloud -/

section Conditions

variable (js : Runtime)

/-- A comparison of a field. -/
def describeComparison (spec : Json) : String :=
  let field := asText (spec.property "field")
  match conditionOps (asText (spec.property "op")), spec.property "value" with
  | some op, some value => if field = "" then "" else field ++ " " ++ op ++ " " ++ js.string value
  | _, _ => ""

/-- The parts that say something, joined. -/
def joinParts (joiner : String) (parts : List String) : String :=
  joiner.intercalate (parts.filter (· ≠ ""))

mutual

/-- `describeCondition`: an `all` wins over an `any`. -/
def describeCondition : Json → String
  | .obj fields =>
      match describeBranch "all" fields, describeBranch "any" fields with
      | some parts, _ => joinParts " and " parts
      | none, some parts => joinParts " or " parts
      | none, none => describeComparison js (.obj fields)
  | _ => ""

/-- The parts of a combinator, when the field of that name is a list. -/
def describeBranch (key : String) : List (String × Json) → Option (List String)
  | [] => none
  | (name, value) :: rest =>
      match value with
      | .arr entries =>
          if name = key then some (describeEntries entries) else describeBranch key rest
      | _ => if name = key then none else describeBranch key rest

def describeEntries : List Json → List String
  | [] => []
  | entry :: rest => describeCondition entry :: describeEntries rest

end

/-! ## Recorded transitions -/

structure ReachedStage where
  reachedAt : Option ℚ
  detail : String

/-- `rungDetail`: the evidence of one rung, its recorded reason first. -/
def rungDetail : Option Json → String
  | none => ""
  | some details =>
      let reason := asText (details.property "reason")
      let condition := (details.property "condition").elim "" (describeCondition js)
      if condition = "" then reason
      else
        let waited := "waiting for " ++ condition
        if reason = "" then waited else reason ++ " · " ++ waited

structure RecordedFailure where
  state : String
  reachedAt : Option ℚ
  detail : String

structure Transitions where
  reached : OrderedMap ProofStage ReachedStage := .empty
  failure : Option RecordedFailure := none

/-- One round of the loop of `readTransitions`. -/
def readTransition (read : Transitions) (entry : Json) : Transitions :=
  match asRecord (some entry) with
  | none => read
  | some transition =>
      let state := asText (transition.property "toState")
      let reachedAt := toFiniteNumber js (transition.property "timestamp")
      let detail := rungDetail js (asRecord (transition.property "details"))
      if state = "" then read
      else if state ∈ failureStates then { read with failure := some ⟨state, reachedAt, detail⟩ }
      else
        match proofStages.find? fun stage => stage.term = state with
        | some stage => { read with reached := read.reached.set stage ⟨reachedAt, detail⟩ }
        | none => read

/-- `readTransitions` -/
def readTransitions (record : Json) : Transitions :=
  match record.property "transitions" with
  | some (.arr transitions) => transitions.foldl (readTransition js) {}
  | _ => {}

end Conditions

/-! ## Stage labels -/

structure ProofContext where
  transportKind : String
  targetDeviceName : String
  observedDeviceName : String
  observedLabel : String
  conditionText : String
  ackAvailable : Option Bool
  observationConfigured : Option Bool
  targetRank : Nat

/-- `reachedLabel` -/
def reachedLabel (stage : ProofStage) (ctx : ProofContext) : String :=
  match stage with
  | .requested => "Accepted by Aeolus"
  | .dispatched =>
      let transport := if ctx.transportKind = "" then ""
        else (transportLabels ctx.transportKind).getD ctx.transportKind
      if transport = "" then "Command dispatched" else "Dispatched via " ++ transport
  | .acknowledged =>
      if ctx.targetDeviceName = "" then "Device acknowledged the command"
      else ctx.targetDeviceName ++ " acknowledged the command"
  | .observed =>
      let source := ctx.observedDeviceName
      if ctx.observedLabel ≠ "" then
        if source = "" then ctx.observedLabel else source ++ ": " ++ ctx.observedLabel
      else if source ≠ "" ∧ ctx.conditionText ≠ "" then source ++ " reports " ++ ctx.conditionText
      else if source ≠ "" then source ++ " confirmed the effect"
      else if ctx.conditionText ≠ "" then "Measured " ++ ctx.conditionText
      else "Physical effect observed"

/-- `unreachedLabel` -/
def unreachedLabel (stage : ProofStage) (status : ProofStageStatus) (ctx : ProofContext) :
    String :=
  match status with
  | .pending =>
      match stage with
      | .dispatched => "Waiting to be dispatched"
      | .acknowledged => "Waiting for the device to acknowledge"
      | .observed =>
          if ctx.conditionText = "" then "Waiting for the physical effect"
          else "Waiting for " ++ ctx.conditionText
      | .requested => "Waiting"
  | .failed => if stage = .dispatched then "Dispatch failed" else "Never proven"
  | .notReached => "Not reached"
  | .notRecorded => "Not recorded for this command"
  | _ =>
      match stage with
      | .acknowledged =>
          if status = .unavailable then "No acknowledgement capability on this device"
          else "Acknowledgement not required for this command"
      | .observed =>
          if status = .notConfigured then "No physical observation configured"
          else "Observation not required for this command"
      | _ => "Not applicable"

/-! ## Status resolution -/

/-- `skipStatus` -/
def skipStatus (stage : ProofStage) (ctx : ProofContext) : ProofStageStatus :=
  match stage with
  | .acknowledged =>
      match ctx.ackAvailable with
      | some false => .unavailable
      | none => .notRecorded
      | some true => .notRequired
  | .observed =>
      match ctx.observationConfigured with
      | some false => .notConfigured
      | none => .notRecorded
      | some true => .notRequired
  | _ => .notRequired

/-- The map `required` of `resolveStages`. -/
def requiredStage (ctx : ProofContext) (stage : ProofStage) : Bool :=
  match stage with
  | .requested => true
  | .dispatched => true
  | .acknowledged => decide (2 ≤ ctx.targetRank) && ctx.ackAvailable != some false
  | .observed => decide (3 ≤ ctx.targetRank) && ctx.observationConfigured != some false

section Stages

variable (read : Transitions) (settled : Bool) (ctx : ProofContext)

/-- The stage a recorded failure attaches to. -/
def failedStage : Option ProofStage :=
  read.failure.bind fun _ =>
    proofStages.find? fun stage => requiredStage ctx stage && !read.reached.has stage

/-- What a stage that was not reached says. -/
def unreachedStatus (stage : ProofStage) : ProofStageStatus :=
  match failedStage read ctx with
  | some failed =>
      if stage = failed then .failed
      else if failed.rank < stage.rank then
        if requiredStage ctx stage then .notReached else skipStatus stage ctx
      else if !requiredStage ctx stage then skipStatus stage ctx
      else if !settled then .pending
      else skipStatus stage ctx
  | none =>
      if !requiredStage ctx stage then skipStatus stage ctx
      else if !settled then .pending
      else skipStatus stage ctx

def resolveStage (stage : ProofStage) : CommandProofStage :=
  match read.reached.get stage with
  | some hit =>
      { state := stage
        label := reachedLabel stage ctx
        status := .reached
        reachedAt := hit.reachedAt
        detail := hit.detail }
  | none =>
      let status := unreachedStatus read settled ctx stage
      { state := stage
        label := unreachedLabel stage status ctx
        status
        reachedAt := none
        detail := if status = .failed then read.failure.elim "" RecordedFailure.detail else "" }

/-- `resolveStages` -/
def resolveStages : List CommandProofStage := proofStages.map (resolveStage read settled ctx)

end Stages

/-! ## The proof -/

/-- `proofIntent` -/
def proofIntent (record : Json) (ctx : ProofContext) : String :=
  let intent := asText (record.property "intentLabel")
  let actionType := asText (record.property "actionType")
  if intent ≠ "" then intent
  else if ctx.targetDeviceName ≠ "" then
    if actionType = "" then ctx.targetDeviceName else ctx.targetDeviceName ++ " · " ++ actionType
  else if actionType = "" then "Physical command"
  else actionType

/-- The tier a record was held to: `dispatch` when it names none. -/
def proofTier (record : Json) : String :=
  let tier := asText (record.property "effectiveTier")
  if tier = "" then "dispatch" else tier

/-- What `commandProof` reads of a record, the transitions apart. -/
def proofContext (js : Runtime) (record : Json) : ProofContext where
  transportKind := asText (record.property "transportKind")
  targetDeviceName := asText (record.property "targetDeviceName")
  observedDeviceName := asText (record.property "observedDeviceName")
  observedLabel := asText (record.property "observedLabel")
  conditionText := (record.property "conditionSpec").elim "" (describeCondition js)
  ackAvailable := asBoolean (record.property "ackAvailable")
  observationConfigured := asBoolean (record.property "observationConfigured")
  targetRank := (tierTargetRank (proofTier record)).getD 1

/-- `commandProof`; `none` is `null`. -/
def commandProof (js : Runtime) (evidence : Option Json) : Option CommandProof := do
  let record ← asRecord evidence
  let lifecycleState := asText (record.property "lifecycleState")
  guard (lifecycleState ≠ "")
  let tier := proofTier record
  let requested := asText (record.property "requestedTier")
  let ceiling := asText (record.property "capabilityCeiling")
  let settled := (toFiniteNumber js (record.property "terminalAt")).isSome
  let proven := settled && (asBoolean (record.property "success") == some true)
  let ctx := proofContext js record
  let requestedRank := (tierTargetRank requested).getD 0
  let ceilingRank := (tierTargetRank ceiling).getD 0
  let clamped := decide (requested ≠ "" ∧ ceiling ≠ "" ∧ ceilingRank < requestedRank)
  return {
    intent := proofIntent record ctx
    headline :=
      if !settled then "IN FLIGHT"
      else if proven then (tierHeadlines tier).getD "PROVEN"
      else (failureHeadlines lifecycleState).getD "NOT PROVEN"
    mark := if !settled then "○" else if proven then "✓" else "✕"
    settled
    proven
    chain :=
      if ctx.observedDeviceName ≠ "" ∧ ctx.observedDeviceName ≠ ctx.targetDeviceName then
        ctx.targetDeviceName ++ " → " ++ ctx.observedDeviceName
      else ctx.targetDeviceName
    stages := resolveStages (readTransitions js record) settled ctx
    tier
    ceiling
    clamped
    clampNote :=
      if clamped then "Asked for " ++ requested ++ "; this device can prove at most " ++ ceiling
      else ""
    targetDeviceName := ctx.targetDeviceName
    observedDeviceName := ctx.observedDeviceName
    conditionText := ctx.conditionText
    commandId := asText (record.property "commandId")
    executionId := asText (record.property "executionId") }

/-! ## What the stages say -/

section Facts

variable {read : Transitions} {settled : Bool} {ctx : ProofContext}

theorem resolveStage_state (stage : ProofStage) :
    (resolveStage read settled ctx stage).state = stage := by
  unfold resolveStage
  split <;> rfl

/-- The scaffold is fixed. -/
theorem resolveStages_states :
    (resolveStages read settled ctx).map CommandProofStage.state = proofStages := by
  unfold resolveStages
  rw [List.map_map]
  exact List.map_id'' resolveStage_state proofStages

theorem mem_proofStages (stage : ProofStage) : stage ∈ proofStages := by
  cases stage <;> decide

theorem mem_resolveStages {shown : CommandProofStage} :
    shown ∈ resolveStages read settled ctx ↔
      shown = resolveStage read settled ctx shown.state := by
  constructor
  · intro member
    obtain ⟨stage, -, rfl⟩ := List.mem_map.mp member
    rw [resolveStage_state]
  · intro same
    rw [same]
    exact List.mem_map_of_mem (mem_proofStages _)

theorem skipStatus_cases (stage : ProofStage) (ctx : ProofContext) :
    skipStatus stage ctx ≠ .reached ∧ skipStatus stage ctx ≠ .failed ∧
      skipStatus stage ctx ≠ .pending := by
  unfold skipStatus
  split
  · split <;> decide
  · split <;> decide
  · decide

theorem unreachedStatus_ne_reached (stage : ProofStage) :
    unreachedStatus read settled ctx stage ≠ .reached := by
  have skipped := (skipStatus_cases stage ctx).1
  unfold unreachedStatus
  split
  · split_ifs <;> first | exact skipped | decide
  · split_ifs <;> first | exact skipped | decide

/-- Only a recorded transition makes a stage read `reached`. -/
theorem resolveStage_reached (stage : ProofStage) :
    (resolveStage read settled ctx stage).status = .reached ↔ read.reached.has stage = true := by
  unfold resolveStage OrderedMap.has
  cases read.reached.get stage with
  | some hit => exact iff_of_true rfl rfl
  | none => exact iff_of_false (unreachedStatus_ne_reached stage) Bool.false_ne_true

/-- A stage reads `failed` exactly when the failure attaches to it. -/
theorem resolveStage_failed (stage : ProofStage) :
    (resolveStage read settled ctx stage).status = .failed ↔
      failedStage read ctx = some stage := by
  have skipped := (skipStatus_cases stage ctx).2.1
  have unreached : failedStage read ctx = some stage → read.reached.get stage = none := by
    intro attaches
    obtain ⟨failure, -, found⟩ := Option.bind_eq_some_iff.mp attaches
    have picked := List.find?_some found
    simp only [Bool.and_eq_true, Bool.not_eq_true', OrderedMap.has] at picked
    exact Option.isSome_eq_false_iff.mp picked.2 |> Option.isNone_iff_eq_none.mp
  unfold resolveStage
  cases hit : read.reached.get stage with
  | some hit =>
      refine iff_of_false (fun failed => by cases failed) fun attaches => ?_
      rw [unreached attaches] at hit
      cases hit
  | none =>
      show unreachedStatus read settled ctx stage = .failed ↔ _
      unfold unreachedStatus
      cases attached : failedStage read ctx with
      | none =>
          refine iff_of_false ?_ (by simp)
          dsimp only
          split_ifs <;> first | exact skipped | decide
      | some failed =>
          dsimp only
          by_cases same : stage = failed
          · rw [if_pos same, same]
            exact iff_of_true rfl rfl
          · rw [if_neg same]
            refine iff_of_false ?_ fun eq => same (Option.some.inj eq).symm
            split_ifs <;> first | exact skipped | decide

/-- A settled command waits for nothing. -/
theorem resolveStage_settled (stage : ProofStage) :
    (resolveStage read true ctx stage).status ≠ .pending := by
  have skipped := (skipStatus_cases stage ctx).2.2
  unfold resolveStage
  cases read.reached.get stage with
  | some hit =>
      intro pending
      cases pending
  | none =>
      show unreachedStatus read true ctx stage ≠ .pending
      unfold unreachedStatus
      split
      · split_ifs <;> first | exact skipped | decide | contradiction
      · split_ifs <;> first | exact skipped | decide | contradiction

end Facts

end Aeolus.Frontend
