/-
# Aeolus.Simulator.SimulatedDevices — the simulated devices and their faults

`src/simulator/device-registry.ts`, as the command router reads it, and
`src/simulator/fault-controller.ts`.  A fault is armed for a device and shapes what its next
command does: four kinds of it are spent by that command (`one_shots_within_arms`), the two
delays stay.
-/
import Aeolus.Simulator.StateController
import Aeolus.Theory.Run

namespace Aeolus.Simulator

open Aeolus.Core Aeolus.Theory

/-! ## The registry -/

/-- The model, of which the registry and the router ask only whether it takes commands. -/
structure SimulatedDeviceModel where
  onCommand : Bool
  deriving DecidableEq

structure SimulatedDeviceDefinition where
  key : String

structure RegisteredDevice where
  definition : SimulatedDeviceDefinition
  model : SimulatedDeviceModel

structure SimulatorDeviceRegistry where
  devices : OrderedMap String RegisteredDevice := .empty
  commandTopics : OrderedMap String String := .empty

namespace SimulatorDeviceRegistry

def get (registry : SimulatorDeviceRegistry) (key : String) : Option RegisteredDevice :=
  registry.devices.get key

def getByCommandTopic (registry : SimulatorDeviceRegistry) (topic : String) :
    Option RegisteredDevice :=
  (truthy (registry.commandTopics.get topic)).bind registry.devices.get

end SimulatorDeviceRegistry

/-! ## Faults -/

structure SimulatedFaultState where
  /-- the reason the next command is rejected for -/
  rejectNext : Option String := none
  dropNextAck : Option Bool := none
  suppressNextState : Option Bool := none
  mismatchNextState : Option JsonObject := none
  ackDelayMs : Option JsNumber := none
  stateDelayMs : Option JsNumber := none

structure ConsumedFault where
  rejectNext : Option String := none
  dropNextAck : Bool := false
  suppressNextState : Bool := false
  mismatchNextState : Option JsonObject := none
  ackDelayMs : Option JsNumber := none
  stateDelayMs : Option JsNumber := none

structure FaultController where
  maxDelayMs : ℚ
  faults : OrderedMap String SimulatedFaultState := .empty

namespace FaultController

def clamp (controller : FaultController) (delayMs : JsNumber) : JsNumber :=
  .finite (clampDelay controller.maxDelayMs (some delayMs))

def arm (controller : FaultController) (deviceKey : String) (fault : SimulatedFaultState) :
    FaultController :=
  let existing := (controller.faults.get deviceKey).getD {}
  let merged : SimulatedFaultState :=
    { rejectNext := fault.rejectNext.or existing.rejectNext
      dropNextAck := fault.dropNextAck.or existing.dropNextAck
      suppressNextState := fault.suppressNextState.or existing.suppressNextState
      mismatchNextState := fault.mismatchNextState.or existing.mismatchNextState
      ackDelayMs := (fault.ackDelayMs.map controller.clamp).or existing.ackDelayMs
      stateDelayMs := (fault.stateDelayMs.map controller.clamp).or existing.stateDelayMs }
  { controller with faults := controller.faults.set deviceKey merged }

def clear (controller : FaultController) (deviceKey : String) : FaultController :=
  { controller with faults := controller.faults.delete deviceKey }

def clearAll (controller : FaultController) : FaultController :=
  { controller with faults := .empty }

def peek (controller : FaultController) (deviceKey : String) : Option SimulatedFaultState :=
  controller.faults.get deviceKey

def consume (controller : FaultController) (deviceKey : String) : FaultController × ConsumedFault :=
  match controller.faults.get deviceKey with
  | none => (controller, {})
  | some fault =>
      let consumed : ConsumedFault :=
        { rejectNext := fault.rejectNext
          dropNextAck := fault.dropNextAck = some true
          suppressNextState := fault.suppressNextState = some true
          mismatchNextState := fault.mismatchNextState
          ackDelayMs := fault.ackDelayMs
          stateDelayMs := fault.stateDelayMs }
      -- the delays are what is left
      let faults :=
        if fault.ackDelayMs = none ∧ fault.stateDelayMs = none then
          controller.faults.delete deviceKey
        else
          controller.faults.set deviceKey
            { ackDelayMs := fault.ackDelayMs, stateDelayMs := fault.stateDelayMs }
      ({ controller with faults }, consumed)

end FaultController

/-! ## One-shot faults -/

inductive FaultOp where
  | arm (deviceKey : String) (fault : SimulatedFaultState)
  | clear (deviceKey : String)
  | clearAll
  | consume (deviceKey : String)

/-- The kinds of fault that one command uses up. -/
inductive OneShot where
  | rejectNext
  | dropNextAck
  | suppressNextState
  | mismatchNextState

namespace OneShot

def armedIn (fault : SimulatedFaultState) : OneShot → Bool
  | rejectNext => fault.rejectNext.isSome
  | dropNextAck => fault.dropNextAck = some true
  | suppressNextState => fault.suppressNextState = some true
  | mismatchNextState => fault.mismatchNextState.isSome

def appliedIn (fault : ConsumedFault) : OneShot → Bool
  | rejectNext => fault.rejectNext.isSome
  | dropNextAck => fault.dropNextAck
  | suppressNextState => fault.suppressNextState
  | mismatchNextState => fault.mismatchNextState.isSome

variable (kind : OneShot) (deviceKey : String)

/-- Is it armed for the device? -/
def arms : FaultOp → Bool
  | .arm other fault => other = deviceKey && kind.armedIn fault
  | _ => false

/-- Has it shaped a command of the device? -/
def applies (consumed : String × ConsumedFault) : Bool :=
  consumed.1 = deviceKey && kind.appliedIn consumed.2

def pending (controller : FaultController) : Bool :=
  (controller.peek deviceKey).any fun fault => kind.armedIn fault

end OneShot

/-- The controller, and what it has handed out. -/
def faultStep (s : FaultController × List (String × ConsumedFault)) :
    FaultOp → FaultController × List (String × ConsumedFault)
  | .arm deviceKey fault => (s.1.arm deviceKey fault, s.2)
  | .clear deviceKey => (s.1.clear deviceKey, s.2)
  | .clearAll => (s.1.clearAll, s.2)
  | .consume deviceKey =>
      ((s.1.consume deviceKey).1, s.2 ++ [(deviceKey, (s.1.consume deviceKey).2)])

variable {kind : OneShot} {deviceKey : String}

theorem armedIn_arm {controller : FaultController} {fault : SimulatedFaultState}
    (armed : kind.pending deviceKey (controller.arm deviceKey fault) = true) :
    kind.armedIn fault = true ∨ kind.pending deviceKey controller = true := by
  unfold OneShot.pending FaultController.peek FaultController.arm at armed
  rw [OrderedMap.get_set_self, Option.any_some] at armed
  unfold OneShot.pending FaultController.peek
  cases held : controller.faults.get deviceKey <;> rw [held] at armed <;> cases kind <;>
    simp_all [OneShot.armedIn] <;> exact armed.imp_right And.right

/-- What a command gets was armed, and is armed no more. -/
theorem consume_pending (kind : OneShot) (controller : FaultController) (deviceKey : String) :
    kind.pending deviceKey (controller.consume deviceKey).1 = false ∧
      kind.appliedIn (controller.consume deviceKey).2 = kind.pending deviceKey controller := by
  unfold FaultController.consume OneShot.pending FaultController.peek
  cases held : controller.faults.get deviceKey with
  | none => cases kind <;> simp [held, OneShot.appliedIn]
  | some fault =>
      dsimp only
      split <;> cases kind <;> simp [OneShot.appliedIn, OneShot.armedIn]

theorem peek_consume_of_ne (controller : FaultController) {other : String}
    (elsewhere : deviceKey ≠ other) :
    (controller.consume other).1.peek deviceKey = controller.peek deviceKey := by
  unfold FaultController.consume FaultController.peek
  split
  · rfl
  · dsimp only
    split
    · exact OrderedMap.get_delete_of_ne _ elsewhere
    · exact OrderedMap.get_set_of_ne _ _ elsewhere

/-- What is handed out, or is still armed, was armed. -/
theorem faultStep_balance (s : FaultController × List (String × ConsumedFault)) (op : FaultOp) :
    (faultStep s op).2.countP (kind.applies deviceKey) +
        (kind.pending deviceKey (faultStep s op).1).toNat ≤
      s.2.countP (kind.applies deviceKey) + (kind.pending deviceKey s.1).toNat +
        (kind.arms deviceKey op).toNat := by
  obtain ⟨controller, handed⟩ := s
  cases op with
  | arm other fault =>
      by_cases here : other = deviceKey
      · have armed := @armedIn_arm kind deviceKey controller fault
        rw [here]
        unfold faultStep OneShot.arms
        cases after : kind.pending deviceKey (controller.arm deviceKey fault)
        · simp
          omega
        · rcases armed after with new | old
          · simp [new]
          · simp [old]
      · unfold faultStep OneShot.pending FaultController.peek FaultController.arm
        dsimp only
        rw [OrderedMap.get_set_of_ne _ _ (Ne.symm here)]
        exact Nat.le_add_right _ _
  | clear other =>
      by_cases here : deviceKey = other
      · simp [faultStep, OneShot.pending, FaultController.peek, FaultController.clear, here]
        omega
      · unfold faultStep OneShot.pending FaultController.peek FaultController.clear
        dsimp only
        rw [OrderedMap.get_delete_of_ne _ here]
        exact Nat.le_add_right _ _
  | clearAll =>
      simp [faultStep, OneShot.pending, FaultController.peek, FaultController.clearAll]
      omega
  | consume other =>
      unfold faultStep
      dsimp only
      rw [List.countP_append, List.countP_singleton]
      by_cases here : other = deviceKey
      · obtain ⟨spent, handed⟩ := consume_pending kind controller deviceKey
        rw [here, spent]
        unfold OneShot.applies
        rw [handed]
        cases kind.pending deviceKey controller <;> simp
      · unfold OneShot.pending
        rw [peek_consume_of_ne controller (Ne.symm here), if_neg (by simp [OneShot.applies, here])]
        exact Nat.le_add_right _ _

/-- **A one-shot fault shapes one command.**  Whatever is armed, cleared and consumed, no more
commands of a device get a fault than it was armed for the device. -/
theorem one_shots_within_arms (kind : OneShot) (deviceKey : String) (maxDelayMs : ℚ)
    (ops : List FaultOp) :
    (run faultStep ({ maxDelayMs }, []) ops).2.countP (kind.applies deviceKey) ≤
      ops.countP (kind.arms deviceKey) := by
  have balance (s : FaultController × List (String × ConsumedFault)) :
      (run faultStep s ops).2.countP (kind.applies deviceKey) +
          (kind.pending deviceKey (run faultStep s ops).1).toNat ≤
        s.2.countP (kind.applies deviceKey) + (kind.pending deviceKey s.1).toNat +
          ops.countP (kind.arms deviceKey) := by
    induction ops generalizing s with
    | nil => exact Nat.le_refl _
    | cons op ops ih =>
        rw [run_cons, List.countP_cons]
        have first := @faultStep_balance kind deviceKey s op
        have later := ih (faultStep s op)
        cases armed : kind.arms deviceKey op <;> simp [armed] at first ⊢ <;> omega
  simpa [OneShot.pending, FaultController.peek] using
    (Nat.le_add_right _ _).trans (balance ({ maxDelayMs }, []))

end Aeolus.Simulator
