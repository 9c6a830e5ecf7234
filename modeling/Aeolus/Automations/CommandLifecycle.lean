/-
# Aeolus.Automations.CommandLifecycle — the lifecycle table and the confirmation tiers

`src/automations/command-lifecycle.ts`.  One table decides every advance of a
command; the store and the tracker both consult it.  The table is a finite object,
so its properties are decided: `rank` grows along every allowed step, and the
states it calls terminal are exactly those with no way out.
-/
import Aeolus.Core.Json

namespace Aeolus.Automations

open Aeolus.Core

inductive CommandLifecycleState where
  | requested
  | dispatched
  | acknowledged
  | observed
  | failed
  | timedOut
  | stateMismatch
deriving DecidableEq, Repr

namespace CommandLifecycleState

def allowedTransitions : CommandLifecycleState → List CommandLifecycleState
  | .requested => [.dispatched, .failed]
  | .dispatched => [.acknowledged, .observed, .failed, .timedOut, .stateMismatch]
  | .acknowledged => [.observed, .failed, .timedOut, .stateMismatch]
  | .observed => []
  | .failed => []
  | .timedOut => []
  | .stateMismatch => []

def terminalStates : List CommandLifecycleState := [.observed, .failed, .timedOut, .stateMismatch]

def successStates : List CommandLifecycleState := [.dispatched, .acknowledged, .observed]

def canTransition (source target : CommandLifecycleState) : Bool :=
  if source = target then false else source.allowedTransitions.contains target

def isTerminal (state : CommandLifecycleState) : Bool := terminalStates.contains state

def isSuccessState (state : CommandLifecycleState) : Bool := successStates.contains state

/-- How far a command has come. -/
def rank : CommandLifecycleState → Nat
  | .requested => 0
  | .dispatched => 1
  | .acknowledged => 2
  | _ => 3

theorem rank_lt_of_canTransition {a b : CommandLifecycleState} (can : a.canTransition b = true) :
    a.rank < b.rank := by
  cases a <;> cases b <;> first | decide | exact absurd can (by decide)

theorem canTransition_failed (a : CommandLifecycleState) :
    a.canTransition .failed = !a.isTerminal := by
  cases a <;> rfl

end CommandLifecycleState

/-- The tier a command must reach to resolve as a success. -/
inductive ConfirmationTier where
  | dispatch
  | acknowledged
  | observed
deriving DecidableEq, Repr

def selectRequiredTier (hasConfirm hasAckCapability : Bool) : ConfirmationTier :=
  if hasConfirm then .observed else if hasAckCapability then .acknowledged else .dispatch

/-! ## Evidence -/

/-- What is recorded beside a transition. -/
structure CommandEvidence where
  tier : Option ConfirmationTier := none
  observedDeviceId : Option String := none
  condition : Option JsonObject := none
  timeoutMs : Option Nat := none
  reason : Option String := none

/-- Drop an empty reason, and the whole evidence when nothing is left. -/
def buildCommandEvidence (parts : CommandEvidence) : Option CommandEvidence :=
  let evidence := { parts with reason := parts.reason.filter (· ≠ "") }
  if evidence.tier.isNone && evidence.observedDeviceId.isNone && evidence.condition.isNone &&
      evidence.timeoutMs.isNone && evidence.reason.isNone then none
  else some evidence

def rungReasons : CommandLifecycleState → String
  | .requested => "Command accepted into the pipeline; nothing has been dispatched yet"
  | .dispatched =>
      "Aeolus handed the command to the device transport; receipt is not yet proven"
  | .acknowledged => "The device acknowledged receiving the command"
  | .observed => "Observed device state satisfied the required condition"
  | .failed => "The command failed"
  | .timedOut => "No satisfying reply arrived within the confirmation window"
  | .stateMismatch => "The device reported a state that contradicts the command"

/-- A device's own account of a failure wins over the standing one. -/
def describeRung (state : CommandLifecycleState) (error : Option String := none) : String :=
  match error.filter (· ≠ "") with
  | some message => message
  | none => rungReasons state

end Aeolus.Automations
