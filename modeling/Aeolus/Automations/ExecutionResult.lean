/-
# Aeolus.Automations.ExecutionResult — the outcome of one execution

`src/automations/execution-result.ts`, and the two places that feed it: the `catch` of
`Sandbox.execute` (`src/automations/sandbox.ts`), which turns what the script threw into a
`SandboxExecutionResult`, and the end of `executeScriptRule`
(`src/automations/automation-engine.ts`), which makes a `LogicOutcome` of that.

A script may throw any value.  The `catch` reads its `message`, which `null` and `undefined`
do not have: then `Sandbox.execute` rejects (`executeSettles_ok_iff`).
-/
import Aeolus.Core.Text
import Aeolus.Automations.CommandService

namespace Aeolus.Automations

open Aeolus.Core

/-! ## Thrown values -/

/-- Only an `Error` has a message. -/
inductive Thrown where
  | error (message : String)
  | value
  /-- `null` or `undefined` -/
  | nullish
deriving DecidableEq

/-- `(err as Error).message` -/
def Thrown.message : Thrown → Except Thrown (Option String)
  | .error message => .ok (some message)
  | .value => .ok none
  | .nullish => .error (.error "Cannot read properties of null (reading 'message')")

/-! ## The sandbox -/

inductive SandboxFailureReason where
  | runtime
  | timeout
  | memory
  | unavailable
deriving DecidableEq

inductive SandboxExecutionResult where
  | success
  | failure (error : Option String) (reason : SandboxFailureReason)
deriving DecidableEq

/-- `/pattern/i.test(text)`, for a pattern of small letters and blanks -/
def mentions (pattern text : String) : Bool :=
  pattern.toList <:+: text.toList.map Char.toLower

/-- An absent message is tested as the text it is turned into. -/
def classifySandboxError (message : Option String) (isolateWasDisposed : Bool) :
    SandboxFailureReason :=
  let text := message.getD "undefined"
  if mentions "timed out" text then .timeout
  else if isolateWasDisposed || mentions "memory limit" text ||
      mentions "array buffer allocation failed" text || mentions "disposed" text then .memory
  else .runtime

/-- How `Sandbox.execute` settles when its `try` block ends so; without `isolated-vm` it does
not come to that. -/
def executeSettles (ivm wasDisposed : Bool) (ended : Except Thrown Unit) :
    Except Thrown SandboxExecutionResult :=
  if ivm then
    match ended with
    | .ok () => .ok .success
    | .error err => do
        let message ← err.message
        return .failure message (classifySandboxError message wasDisposed)
  else
    .ok (.failure (some "Sandbox execution unavailable — isolated-vm is not installed")
      .unavailable)

/-- It is said never to reject. -/
theorem executeSettles_ok_iff {ivm wasDisposed : Bool} {ended : Except Thrown Unit} :
    (∃ result, executeSettles ivm wasDisposed ended = .ok result) ↔
      (ivm = true → ended ≠ .error .nullish) := by
  cases ivm with
  | false => exact ⟨fun _ there => (nomatch there), fun _ => ⟨_, rfl⟩⟩
  | true =>
      cases ended with
      | ok => exact ⟨fun _ _ => nofun, fun _ => ⟨.success, rfl⟩⟩
      | error thrown =>
          cases thrown with
          | error text => exact ⟨fun _ _ => nofun, fun _ => ⟨_, rfl⟩⟩
          | value => exact ⟨fun _ _ => nofun, fun _ => ⟨_, rfl⟩⟩
          | nullish => exact ⟨nofun, fun other => absurd rfl (other rfl)⟩

example : classifySandboxError (some "Script execution timed out.") false = .timeout := by decide

/-! ## The result -/

abbrev CommandResult := ActionResult

/-- The outcome of the logic of a rule, commands aside. -/
structure LogicOutcome where
  ok : Bool
  error : Option String := none

def scriptLogic : SandboxExecutionResult → LogicOutcome
  | .success => { ok := true }
  | .failure error _ => { ok := false, error }

theorem scriptLogic_ok_iff {result : SandboxExecutionResult} :
    (scriptLogic result).ok = true ↔ result = .success := by
  cases result with
  | success => exact ⟨fun _ => rfl, fun _ => rfl⟩
  | failure error reason => exact ⟨nofun, nofun⟩

structure AutomationExecutionResult where
  executionId : String
  success : Bool
  commandResults : List (Option CommandResult)
  failureReason : Option String := none

/-- A result that is missing, or a failure. -/
def isProblem (result : Option CommandResult) : Bool := result.all (!·.success)

def problemText (index : Nat) : Option CommandResult → String
  | none => s!"Missing command result at index {index}"
  | some result =>
      match truthy result.error with
      | some error => s!"Command {index} failed: {error}"
      | none => s!"Command {index} failed"

/-- The first problem among the commands is named before that of the logic. -/
def assembleExecutionResult (executionId : String) (logic : LogicOutcome)
    (commandResults : List (Option CommandResult)) : AutomationExecutionResult :=
  match commandResults.findIdx? isProblem with
  | none =>
      if logic.ok then { executionId, success := true, commandResults }
      else
        { executionId, success := false, commandResults
          failureReason := some ((truthy logic.error).getD "Automation execution logic failed") }
  | some index =>
      { executionId, success := false, commandResults
        failureReason := some (problemText index commandResults[index]?.join) }

section Assemble

variable {executionId : String} {logic : LogicOutcome}
  {commandResults : List (Option CommandResult)}

theorem not_isProblem_iff {result : Option CommandResult} :
    isProblem result = false ↔ ∃ command, result = some command ∧ command.success = true := by
  cases result with
  | none => exact ⟨nofun, fun ⟨_, present, _⟩ => nomatch present⟩
  | some command => simp [isProblem]

/-- A success is one of the logic and of every command. -/
theorem assemble_success_iff :
    (assembleExecutionResult executionId logic commandResults).success = true ↔
      logic.ok = true ∧ ∀ result ∈ commandResults,
        ∃ command, result = some command ∧ command.success = true := by
  have none_iff : commandResults.findIdx? isProblem = none ↔ ∀ result ∈ commandResults,
      ∃ command, result = some command ∧ command.success = true := by
    rw [List.findIdx?_eq_none_iff]
    exact forall₂_congr fun result _ => not_isProblem_iff
  unfold assembleExecutionResult
  rw [← none_iff]
  split
  · rename_i clean
    rw [clean]
    cases logic.ok <;> simp
  · rename_i index found
    rw [found]
    exact ⟨nofun, fun ⟨_, absent⟩ => nomatch absent⟩

theorem assemble_commandResults :
    (assembleExecutionResult executionId logic commandResults).commandResults = commandResults := by
  unfold assembleExecutionResult
  split
  · cases logic.ok <;> rfl
  · rfl

end Assemble

end Aeolus.Automations
