/-
# Aeolus.Automations.CommandBroadcast — what is told of a command

After each committed write the history store tells its sink one event, which every client of
the WebSocket gets.  The events of one command are its timeline (`Announced`): they climb the
lifecycle table, so no state comes twice, and all but the last say nothing of an outcome,
because the system never gives one with a write that is not terminal (`StoreCall.Plain`).
-/
import Aeolus.Automations.CrashRecovery

namespace Aeolus.Automations

open Aeolus.Theory
open Aeolus.Core

/-- It says nothing of an outcome. -/
structure CommandLifecycleTransitionEvent.Silent (m : CommandLifecycleTransitionEvent) : Prop where
  terminal : m.terminal = false
  success : m.success = none
  failureKind : m.failureKind = none
  error : m.error = none

/-- Only a terminal write gives an outcome. -/
def StoreCall.Plain : StoreCall → Prop
  | .create record _ =>
      record.terminalAt = none ∧ record.success = none ∧ record.failureKind = none ∧
        record.error = none
  | .transition input =>
      input.terminal = false →
        input.success = none ∧ input.failureKind = none ∧ input.error = none
  | .reconcileInterrupted _ => True

theorem StoreCall.Written.plain {call : StoreCall} (written : call.Written) : call.Plain := by
  cases written with
  | record => exact ⟨rfl, rfl, rfl, rfl⟩
  | failed | resolved | interrupted => exact fun running => by cases running
  | dispatched now completes id =>
      rintro rfl
      exact ⟨rfl, rfl, rfl⟩
  | reply => exact fun _ => ⟨rfl, rfl, rfl⟩

/-- What has been told of a command, whose row and timeline these are. -/
structure Announced (record : Option CommandRecord) (rows : List CommandTransition)
    (messages : List CommandLifecycleTransitionEvent) : Prop where
  unknown : record = none → messages = []
  ends : ∀ r, record = some r → ∃ front last, messages = front ++ [last] ∧
    last.state = r.lifecycleState
  climbs : messages.Pairwise fun a b => a.state.rank < b.state.rank
  rows : messages.map (fun m => (m.fromState, m.state, m.timestamp)) =
    rows.map fun t => (t.fromState, t.toState, t.timestamp)
  owner : ∀ r, record = some r → ∀ m ∈ messages,
    m.ruleId.filter (· ≠ "") = r.ruleId.filter (· ≠ "")
  silent : ∀ m ∈ messages.dropLast, m.Silent
  undecided : ∀ r, record = some r → r.terminalAt = none → ∀ m ∈ messages, m.Silent

theorem Announced.advance {current r : CommandRecord} {rows : List CommandTransition}
    {messages : List CommandLifecycleTransitionEvent}
    (told : Announced (some current) rows messages) {t : CommandTransition}
    {m : CommandLifecycleTransitionEvent} (open_ : current.terminalAt = none)
    (can : current.lifecycleState.canTransition m.state = true)
    (reached : m.state = r.lifecycleState)
    (row : (m.fromState, m.state, m.timestamp) = (t.fromState, t.toState, t.timestamp))
    (owner : m.ruleId.filter (· ≠ "") = current.ruleId.filter (· ≠ ""))
    (same : r.ruleId = current.ruleId) (undecided : r.terminalAt = none → m.Silent) :
    Announced (some r) (rows ++ [t]) (messages ++ [m]) := by
  obtain ⟨front, last, split, state⟩ := told.ends current rfl
  have higher : ∀ a ∈ messages, a.state.rank < m.state.rank := by
    have next : last.state.rank < m.state.rank :=
      CommandLifecycleState.rank_lt_of_canTransition (state ▸ can)
    intro a member
    have climbs := told.climbs
    rw [split] at member climbs
    rcases List.mem_append.mp member with early | final
    · exact ((List.pairwise_append.mp climbs).2.2 a early last (by simp)).trans next
    · rw [List.mem_singleton.mp final]
      exact next
  refine ⟨fun none => (by cases none), ?_, ?_, ?_, ?_, ?_, ?_⟩
  · rintro _ ⟨⟩
    exact ⟨messages, m, rfl, reached⟩
  · refine List.pairwise_append.mpr ⟨told.climbs, List.pairwise_singleton _ _, ?_⟩
    intro a early b final
    rw [List.mem_singleton.mp final]
    exact higher a early
  · rw [List.map_append, List.map_append, told.rows, List.map_singleton, List.map_singleton, row]
  · rintro _ ⟨⟩ a member
    rw [same]
    rcases List.mem_append.mp member with early | final
    · exact told.owner current rfl a early
    · rw [List.mem_singleton.mp final]
      exact owner
  · rw [List.dropLast_concat]
    exact told.undecided current rfl open_
  · rintro _ ⟨⟩ running a member
    rcases List.mem_append.mp member with early | final
    · exact told.undecided current rfl open_ a early
    · rw [List.mem_singleton.mp final]
      exact undecided running

namespace CommandHistoryStore

/-- What has been told of a command. -/
def broadcasts (s : CommandHistoryStore) (commandId : String) :
    List CommandLifecycleTransitionEvent :=
  s.recorded.filter fun m => m.commandId = commandId

def AllAnnounced (s : CommandHistoryStore) : Prop :=
  ∀ c, Announced (s.records.get c) (s.timeline c) (s.broadcasts c)

theorem broadcasts_snoc {s s' : CommandHistoryStore} {m : CommandLifecycleTransitionEvent}
    (told : s'.recorded = s.recorded ++ [m]) (c : String) :
    s'.broadcasts c = if m.commandId = c then s.broadcasts c ++ [m] else s.broadcasts c := by
  rw [broadcasts, told, List.filter_append]
  split
  · rename_i same
    rw [List.filter_cons_of_pos (by simpa using same)]
    rfl
  · rename_i other
    rw [List.filter_cons_of_neg (by simpa using other), List.filter_nil, List.append_nil]
    rfl

/-- One write of one command, and its event. -/
theorem AllAnnounced.append {s s' : CommandHistoryStore} (all : s.AllAnnounced)
    {t : CommandTransition} {m : CommandLifecycleTransitionEvent} {r : CommandRecord}
    (grown : s'.transitions = s.transitions ++ [t]) (told : s'.recorded = s.recorded ++ [m])
    (set : s'.records = s.records.set t.commandId r) (mine : m.commandId = t.commandId)
    (next : Announced (some r) (s.timeline t.commandId ++ [t]) (s.broadcasts t.commandId ++ [m])) :
    s'.AllAnnounced := by
  intro c
  rw [set, OrderedMap.get_set, timeline_snoc grown, broadcasts_snoc told, mine]
  by_cases same : c = t.commandId
  · subst same
    simpa using next
  · have other : ¬t.commandId = c := fun h => same h.symm
    simpa [same, other] using all c

theorem allAnnounced_empty : ({} : CommandHistoryStore).AllAnnounced := fun _ =>
  ⟨fun _ => rfl, fun _ found => (by cases found), .nil, rfl, fun _ found => (by cases found),
    fun _ member => absurd member List.not_mem_nil, fun _ found => (by cases found)⟩

theorem transition_announced (s : CommandHistoryStore) (input : CommandTransitionInput)
    (plain : (StoreCall.transition input).Plain) (all : s.AllAnnounced) :
    (s.transition input).AllAnnounced := by
  obtain ⟨-, same⟩ | ⟨current, found, open_, can, moved⟩ := s.transition_cases input
  · rw [same]
    exact all
  · rw [moved]
    refine all.append rfl rfl rfl rfl ?_
    have told := all input.commandId
    rw [found] at told
    refine told.advance open_ can rfl rfl rfl rfl fun running => ?_
    have milestone : input.terminal = false := by
      cases terminal : input.terminal with
      | false => rfl
      | true => simp [CommandRecord.advance, terminal] at running
    obtain ⟨success, failureKind, error⟩ := plain milestone
    exact ⟨milestone, success, failureKind, by simp [error]⟩

theorem create_recorded {s s' : CommandHistoryStore} {record : CommandRecord}
    {evidence : Option CommandEvidence} (created : s.create record evidence = .ok s') :
    ∃ m, s'.recorded = s.recorded ++ [m] ∧ m.commandId = record.commandId ∧
      m.fromState = none ∧ m.state = record.lifecycleState ∧ m.timestamp = record.requestedAt ∧
      m.ruleId = record.ruleId.filter (· ≠ "") ∧ m.terminal = record.terminalAt.isSome ∧
      m.success = record.success ∧ m.failureKind = record.failureKind ∧
      m.error = record.error.filter (· ≠ "") := by
  unfold create insertRecord at created
  split at created
  · cases created
  · split at created
    · cases created
    · cases created
      exact ⟨_, rfl, rfl, rfl, rfl, rfl, rfl, rfl, rfl, rfl, rfl⟩

theorem create_announced (s : CommandHistoryStore) (record : CommandRecord)
    (evidence : Option CommandEvidence) (s' : CommandHistoryStore)
    (created : s.create record evidence = .ok s') (plain : (StoreCall.create record evidence).Plain)
    (all : s.AllAnnounced) : s'.AllAnnounced := by
  obtain ⟨-, e, failed⟩ | ⟨free, s'', ok, set, grown⟩ := s.create_cases record evidence
  · rw [failed] at created
    cases created
  · obtain ⟨m, told, mine, fresh, state, timestamp, owner, terminal, success, failureKind, error⟩ :=
      create_recorded created
    rw [ok] at created
    cases created
    obtain ⟨incomplete, noSuccess, noFailure, noError⟩ := plain
    have silent : m.Silent :=
      ⟨by simp [terminal, incomplete], success.trans noSuccess, failureKind.trans noFailure,
        by simp [error, noError]⟩
    have absent := get_of_not_taken free
    refine all.append grown told set mine ?_
    have nothing := (all record.commandId).unknown absent
    have rows := (all record.commandId).rows
    rw [nothing, List.map_nil, eq_comm, List.map_eq_nil_iff] at rows
    dsimp only
    rw [nothing, rows, List.nil_append, List.nil_append]
    refine ⟨fun none => (by cases none), ?_, List.pairwise_singleton _ _, ?_, ?_, ?_, ?_⟩
    · rintro _ ⟨⟩
      exact ⟨[], m, rfl, state⟩
    · rw [List.map_singleton, List.map_singleton, fresh, state, timestamp]
    · rintro _ ⟨⟩ a member
      rw [List.mem_singleton.mp member, owner]
      cases record.ruleId with
      | none => rfl
      | some id => by_cases given : id = "" <;> simp [Option.filter, given]
    · exact fun a member => absurd member List.not_mem_nil
    · rintro _ ⟨⟩ - a member
      rw [List.mem_singleton.mp member]
      exact silent

theorem step_announced (s : CommandHistoryStore) (call : StoreCall) (written : call.Written)
    (all : s.AllAnnounced) : (s.step call).AllAnnounced := by
  have plain := written.plain
  cases call with
  | create record evidence =>
      cases created : s.create record evidence with
      | ok s' =>
          simpa only [step, created] using create_announced s record evidence s' created plain all
      | error _ => simpa only [step, created] using all
  | transition input => exact transition_announced s input plain all
  | reconcileInterrupted now => cases written

end CommandHistoryStore

open CommandHistoryStore

/-- **The broadcasts of a command.**  After any run of the system, what was told of each command
is its timeline. -/
theorem run_announced (uuid : Nat → String) (events : List SystemEvent) :
    (run (System.step uuid) {} events).store.AllAnnounced := by
  rw [System.run_store]
  have along : Along CommandHistoryStore.step (fun _ call => call.Written) {}
      (System.runWrites uuid {} events) :=
    along_of_forall (fun call member _ => System.runWrites_written uuid {} events call member) _
  exact invariant_along (fun s call all written => step_announced s call written all)
    allAnnounced_empty along

end Aeolus.Automations
