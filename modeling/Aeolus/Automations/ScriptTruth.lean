/-
# Aeolus.Automations.ScriptTruth — is the success of a script true?

A script succeeds when its `try` block ends without an exception and every command result
that was collected is a success (`result_success_iff`).  Three things can go wrong without
either: a condition or an action throws, which rejects the body of its `automation()` call, and
`Sandbox.execute` swallows the rejection; and a body or a call is still under way when the
budget of the wait ends, which is no failure either.

Over every run, the success is true exactly when the script itself throws, or a collected
command has failed, or no body was rejected and nothing was abandoned (`success_truthful_iff`).
What is needed for it is that a call that has settled has been collected, and that without an
abandonment every call has settled (`Accounted`).
-/
import Aeolus.Automations.ManualFire
import Aeolus.Automations.ScriptRun

namespace Aeolus.Automations

open Aeolus.Core Aeolus.Theory

namespace ScriptRun

/-! ## Statement and condition -/

def NothingThrew (s : ScriptRun) : Prop := ∀ body ∈ s.bodies, body.status ≠ .rejected

def AllSucceeded (s : ScriptRun) : Prop :=
  ∀ call ∈ s.calls, call.settled = true ∧ call.succeeded = true

/-- A result that is a success tells the truth. -/
def Truthful (s : ScriptRun) : Prop :=
  ∀ executionId wasDisposed result, s.result executionId wasDisposed = some result →
    result.success = true → s.NothingThrew ∧ s.abandoned = false ∧ s.AllSucceeded

/-- Something that is noticed went wrong, or nothing threw and nothing was abandoned. -/
def Noticed (s : ScriptRun) : Prop :=
  ∀ outcome, s.phase = .closed outcome →
    outcome ≠ .ok () ∨ (∃ result ∈ s.collected, result.success = false) ∨
      s.NothingThrew ∧ s.abandoned = false

/-- The `try` block has ended without an exception. -/
def Completed (s : ScriptRun) : Prop := s.phase = .ended (.ok ()) ∨ s.phase = .closed (.ok ())

/-- The results of the calls have been collected, and a wait that abandons nothing ends when
all calls have settled. -/
structure Accounted (s : ScriptRun) : Prop where
  collected : ∀ call ∈ s.calls, ∀ result ∈ call.results, result ∈ s.collected
  settled : s.Completed → s.abandoned = false → ∀ call ∈ s.calls, call.settled = true

variable {s : ScriptRun}

theorem not_live_of_completed (completed : s.Completed) : s.live = false := by
  unfold live
  rcases completed with ended | closed
  · rw [ended]
  · rw [closed]

/-- A result is a success when nothing was thrown and every collected command succeeded. -/
theorem result_success_iff {executionId : String} {wasDisposed : Bool} :
    (∃ result, s.result executionId wasDisposed = some result ∧ result.success = true) ↔
      s.phase = .closed (.ok ()) ∧ ∀ result ∈ s.collected, result.success = true := by
  have collected : (∀ result ∈ s.collected.map some,
      ∃ command, result = some command ∧ command.success = true) ↔
        ∀ result ∈ s.collected, result.success = true := by simp
  unfold result
  cases phase : s.phase with
  | closed outcome =>
      cases outcome with
      | ok done =>
          constructor
          · rintro ⟨result, same, success⟩
            cases same
            exact ⟨rfl, collected.mp (assemble_success_iff.mp success).2⟩
          · rintro ⟨-, all⟩
            exact ⟨_, rfl, assemble_success_iff.mpr ⟨rfl, collected.mpr all⟩⟩
      | error thrown =>
          refine ⟨?_, nofun⟩
          rintro ⟨result, same, success⟩
          obtain ⟨sandboxResult, settled, rfl⟩ := Option.map_eq_some_iff.mp same
          have logic := scriptLogic_ok_iff.mp (assemble_success_iff.mp success).1
          rw [logic] at settled
          cases thrown <;> cases settled
  | _ => exact ⟨fun ⟨_, absent, _⟩ => (nomatch absent), nofun⟩

/-! ## Accounting -/

/-- A call that is changed, with what has been collected of it. -/
theorem Accounted.setCall (accounted : s.Accounted) {c : Nat} {call : HostCall}
    {collected : List CommandResult} (commandFailed : Bool)
    (more : ∀ result ∈ s.collected, result ∈ collected)
    (results : ∀ result ∈ call.results, result ∈ collected)
    (settled : s.Completed → s.abandoned = false → call.settled = true) :
    ({ s.setCall c call with collected, commandFailed } : ScriptRun).Accounted where
  collected := fun other member result here => by
    rcases List.mem_or_eq_of_mem_set member with old | rfl
    · exact more result (accounted.collected other old result here)
    · exact results result here
  settled := fun completed kept other member => by
    rcases List.mem_or_eq_of_mem_set member with old | rfl
    · exact accounted.settled completed kept other old
    · exact settled completed kept

/-- A new call is made in a living isolate only. -/
theorem Accounted.newCall (accounted : s.Accounted) (live : s.live = true)
    (owner : Option (Nat × Nat)) (preflight : Bool) : (s.newCall owner preflight).Accounted where
  collected := fun other member => by
    rcases List.mem_append.mp member with old | new
    · exact accounted.collected other old
    · rw [List.mem_singleton.mp new]
      intro result absent
      cases absent
  settled := fun completed _ => by
    have gone : s.live = false := not_live_of_completed completed
    rw [live] at gone
    cases gone

/-- A phase before the end. -/
theorem Accounted.moved (accounted : s.Accounted) {phase : ScriptPhase} {abandoned : Bool}
    (going : phase ≠ .ended (.ok ()) ∧ phase ≠ .closed (.ok ())) :
    ({ s with phase, abandoned } : ScriptRun).Accounted where
  collected := accounted.collected
  settled := fun completed => by
    rcases completed with ended | closed
    · exact absurd ended going.1
    · exact absurd closed going.2

theorem accounted_start : ({} : ScriptRun).Accounted where
  collected := fun _ member => absurd member List.not_mem_nil
  settled := fun _ _ _ member => absurd member List.not_mem_nil

/-- An event that touches neither calls nor phase. -/
theorem Accounted.aside (accounted : s.Accounted) (bodies : List AutomationBody)
    (commandFailed expired : Bool) :
    ({ s with bodies, commandFailed, expired } : ScriptRun).Accounted :=
  ⟨accounted.collected, accounted.settled⟩

theorem accounted_step (s : ScriptRun) (event : ScriptEvent) (accounted : s.Accounted) :
    (s.step event).Accounted := by
  cases event with
  | automation config =>
      unfold step
      dsimp only
      split
      · exact accounted.aside _ _ _
      · exact accounted
  | issue body preflight =>
      cases body with
      | none =>
          unfold step
          dsimp only
          split
          · rename_i live
            exact accounted.newCall live _ _
          · exact accounted
      | some b =>
          unfold step
          dsimp only
          split
          · split
            · rename_i live
              exact accounted.newCall live _ _
            · exact accounted
          · exact accounted
  | records c result =>
      unfold step
      dsimp only
      split
      · rename_i call found
        have member : call ∈ s.calls := List.mem_of_getElem? found
        split
        · exact accounted
        · rename_i unsettled
          refine accounted.setCall s.commandFailed (fun _ => List.mem_append_left _) ?_ ?_
          · intro other here
            rcases List.mem_append.mp here with old | new
            · exact List.mem_append_left _ (accounted.collected call member other old)
            · exact List.mem_append_right _ new
          · intro completed kept
            have settled := accounted.settled completed kept call member
            rw [settled] at unsettled
            exact absurd rfl unsettled
      · exact accounted
  | settles c =>
      unfold step
      dsimp only
      split
      · rename_i call found
        have member : call ∈ s.calls := List.mem_of_getElem? found
        split
        · exact accounted
        · exact accounted.setCall s.commandFailed (fun _ => id) (accounted.collected call member)
            fun _ _ => rfl
      · exact accounted
  | delivers c =>
      unfold step
      dsimp only
      split
      · rename_i call found
        have member : call ∈ s.calls := List.mem_of_getElem? found
        split
        · exact accounted.setCall _ (fun _ => id) (accounted.collected call member)
            fun completed kept => accounted.settled completed kept call member
        · exact accounted
      · exact accounted
  | actionReturns b =>
      unfold step
      dsimp only
      split
      · split
        · exact accounted.aside _ _ _
        · exact accounted
      · exact accounted
  | actionThrows b =>
      unfold step
      dsimp only
      split
      · split
        · exact accounted.aside _ _ _
        · exact accounted
      · exact accounted
  | expires =>
      unfold step
      dsimp only
      split
      · exact accounted
      · exact accounted.aside _ _ _
  | scriptReturns =>
      unfold step
      dsimp only
      split
      · exact accounted.moved ⟨nofun, nofun⟩
      · exact accounted
  | scriptThrows thrown =>
      unfold step
      dsimp only
      split
      · exact accounted.moved ⟨nofun, nofun⟩
      · exact accounted
  | awaitAutomations =>
      unfold step
      dsimp only
      split
      · exact accounted.moved ⟨nofun, nofun⟩
      · exact accounted
  | bodiesDone =>
      unfold step
      dsimp only
      split
      · split
        · exact accounted.moved ⟨nofun, nofun⟩
        · split
          · exact accounted.moved ⟨nofun, nofun⟩
          · exact accounted
      · exact accounted
  | drained =>
      unfold step
      dsimp only
      split
      · split
        · rename_i none_in_flight
          refine ⟨accounted.collected, fun _ _ call member => ?_⟩
          have settled : ∀ call ∈ s.calls, call.settled = true := by
            simpa [inFlight] using none_in_flight
          exact settled call member
        · split
          · exact ⟨accounted.collected, fun _ kept => by cases kept⟩
          · exact accounted
      · exact accounted
  | closes =>
      unfold step
      dsimp only
      split
      · rename_i outcome ended
        refine ⟨accounted.collected, fun completed kept => accounted.settled (Or.inl ?_) kept⟩
        rcases completed with h | h
        · cases h
        · cases h
          exact ended
      · exact accounted

/-- **The success of a script is true**, over every run: exactly when the script itself throws,
or a command that was collected has failed, or no condition and no action of an `automation()`
body threw and nothing was abandoned. -/
theorem success_truthful_iff (events : List ScriptEvent) :
    (run step {} events).Truthful ↔ (run step {} events).Noticed := by
  have accounted : (run step {} events).Accounted :=
    run_invariant accounted_step accounted_start events
  generalize run step {} events = s at accounted
  constructor
  · intro truthful outcome closed
    by_cases threw : outcome = .ok ()
    · subst threw
      by_cases failed : ∃ result ∈ s.collected, result.success = false
      · exact Or.inr (Or.inl failed)
      · have succeeded : ∀ result ∈ s.collected, result.success = true := by
          intro result member
          by_contra fails
          exact failed ⟨result, member, Bool.eq_false_of_not_eq_true fails⟩
        obtain ⟨result, there, success⟩ := (@result_success_iff s "" false).mpr ⟨closed, succeeded⟩
        obtain ⟨threw, kept, -⟩ := truthful _ _ result there success
        exact Or.inr (Or.inr ⟨threw, kept⟩)
    · exact Or.inl threw
  · intro noticed executionId wasDisposed result there success
    obtain ⟨closed, succeeded⟩ := result_success_iff.mp ⟨result, there, success⟩
    rcases noticed _ closed with threw | ⟨failed, member, fails⟩ | ⟨threw, kept⟩
    · exact absurd rfl threw
    · have succeeds := succeeded failed member
      rw [fails] at succeeds
      cases succeeds
    · refine ⟨threw, kept, fun call member => ⟨?_, ?_⟩⟩
      · exact accounted.settled (Or.inr closed) kept call member
      · refine List.all_eq_true.mpr fun result here => ?_
        exact succeeded result (accounted.collected call member result here)

/-- The engine's result for a script rule is that of the run. -/
theorem result_of_executeScriptRule {cfg : FireConfig} {met : Circumstances}
    {execution : RuleExecution} {recorder : Recorder} {s : ScriptRun}
    {result : AutomationExecutionResult} (closed : s.phase = .closed met.script)
    (ivm : met.ivm = true) (collected : met.commandResults = s.collected)
    (returned : (executeScriptRule cfg met execution recorder).1 = .ok result) :
    s.result met.executionId met.isolateWasDisposed = some result := by
  obtain ⟨final, ran⟩ : ∃ final,
      executeScriptRule cfg met execution recorder = (.ok result, final) :=
    ⟨_, Prod.ext returned rfl⟩
  unfold executeScriptRule at ran
  obtain ⟨_, s₁, fired, ran⟩ := Handler.bind_ok ran
  obtain ⟨sandboxResult, settled, ran⟩ := Handler.check_ok ran
  obtain ⟨_, s₂, recorded, ran⟩ := Handler.bind_ok ran
  cases ran
  rw [ivm] at settled
  unfold ScriptRun.result
  rw [closed]
  dsimp only
  rw [settled, collected]
  rfl

/-! Scripts with one `automation()` and one action. -/

def actionThen (rest : List ScriptEvent) : List ScriptEvent :=
  [.automation { actions := 1 }, .scriptReturns, .awaitAutomations] ++ rest ++
    [.bodiesDone, .drained, .closes]

/-- The action makes a call, which succeeds, and returns. -/
example : ((run step {} (actionThen [.issue (some 0) false, .records 0 { success := true },
    .settles 0, .delivers 0, .actionReturns 0])).result "e" false).map
      AutomationExecutionResult.success = some true := by rfl

/-- The action throws, and makes no call. -/
theorem thrown_action_succeeds :
    ∃ result, (run step {} (actionThen [.actionThrows 0])).result "e" false = some result ∧
      result.success = true ∧ ¬(run step {} (actionThen [.actionThrows 0])).Truthful := by
  refine ⟨_, rfl, rfl, fun truthful => ?_⟩
  obtain ⟨threw, -⟩ := truthful "e" false _ rfl rfl
  exact absurd rfl (threw { config := { actions := 1 }, invoked := 1, status := .rejected }
    List.mem_cons_self)

end ScriptRun

end Aeolus.Automations
