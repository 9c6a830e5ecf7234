/-
# Aeolus.Automations.ExecutionHistory — the history from SQLite and from the buffer

`query` of `src/automations/execution-log.ts`.  With a database the statement is put together
from its clauses and run on the rows; without one the buffer is filtered and sliced.

* `backed_pushes`, `unbacked_pushes` — what the two logs hold after the same pushes;
* `select_eq` — what the clauses give on rows in time order;
* `history_agrees_iff` — the two answers are the same unless an offset comes without a limit;
* `offset_without_limit` — the pole.
-/
import Mathlib.Data.List.Sort
import Aeolus.Automations.ExecutionRecorder

namespace Aeolus.Automations

open Aeolus.Core Aeolus.Theory
open Handler

/-! ## The statement -/

structure ExecutionLogQueryOptions where
  ruleId : Option String := none
  limit : Option Nat := none
  offset : Option Nat := none
  since : Option ℚ := none

/-- What `query` appends to its statement. -/
inductive HistoryClause where
  | selectAll
  | ruleId
  | since
  | newestFirst
  | limit
  | offset
deriving DecidableEq

def HistoryClause.text : HistoryClause → String
  | .selectAll => "SELECT * FROM execution_history WHERE 1=1"
  | .ruleId => " AND rule_id = @ruleId"
  | .since => " AND timestamp >= @since"
  | .newestFirst => " ORDER BY timestamp DESC"
  | .limit => " LIMIT @limit"
  | .offset => " OFFSET @offset"

inductive HistoryError where
  /-- `near …: syntax error`, with the text that was prepared -/
  | syntaxError (sql : String)
deriving DecidableEq

namespace ExecutionLogQueryOptions

variable (options : ExecutionLogQueryOptions)

/-- The clauses, in the order in which they are appended. -/
def clauses : List HistoryClause :=
  [.selectAll] ++ (if (truthy options.ruleId).isSome then [.ruleId] else []) ++
    (if options.since.isSome then [.since] else []) ++ [.newestFirst] ++
    (if options.limit.isSome then [.limit] else []) ++
    if options.offset.isSome then [.offset] else []

def sql : String := String.join (options.clauses.map HistoryClause.text)

end ExecutionLogQueryOptions

abbrev HistoryRow := String × ExecutionHistoryRow

/-- `ORDER BY timestamp DESC` -/
def newestFirst (rows : List HistoryRow) : List HistoryRow :=
  rows.insertionSort fun r s => s.2.timestamp ≤ r.2.timestamp

/-- The clauses behind `ORDER BY`: a limit, and behind a limit an offset.  SQLite takes no
number from 2^63 on for either. -/
def page (options : ExecutionLogQueryOptions) (rows : List HistoryRow) :
    List HistoryClause → Except HistoryError (List HistoryRow)
  | [] => .ok rows
  | [.limit] => .ok (rows.take (options.limit.getD 0))
  | [.limit, .offset] => .ok ((rows.drop (options.offset.getD 0)).take (options.limit.getD 0))
  | _ => .error (.syntaxError options.sql)

/-- The statement, clause by clause, on the rows it has found so far. -/
def select (options : ExecutionLogQueryOptions) :
    List HistoryClause → List HistoryRow → Except HistoryError (List HistoryRow)
  | .selectAll :: rest, rows => select options rest rows
  | .ruleId :: rest, rows =>
      select options rest (rows.filter fun row => some row.2.ruleId = options.ruleId)
  | .since :: rest, rows =>
      select options rest (rows.filter fun row => ∀ since ∈ options.since, since ≤ row.2.timestamp)
  | .newestFirst :: rest, rows => page options (newestFirst rows) rest
  | _, _ => .error (.syntaxError options.sql)

namespace ExecutionLog

def rowToEntry (row : HistoryRow) : ExecutionLogEntry where
  id := row.1
  ruleId := row.2.ruleId
  ruleName := row.2.ruleName
  ruleType := row.2.ruleType
  triggerTopic := row.2.triggerTopic
  actions := row.2.actions
  duration := row.2.durationMs
  timestamp := row.2.timestamp
  success := some row.2.success
  failureReason := row.2.failureReason

/-- `if (options.ruleId) results = results.filter(…)` -/
def ofRule (options : ExecutionLogQueryOptions) (results : List ExecutionLogEntry) :
    List ExecutionLogEntry :=
  match truthy options.ruleId with
  | some ruleId => results.filter fun entry => entry.ruleId = ruleId
  | none => results

def notBefore (options : ExecutionLogQueryOptions) (results : List ExecutionLogEntry) :
    List ExecutionLogEntry :=
  match options.since with
  | some since => results.filter fun entry => since ≤ entry.timestamp
  | none => results

/-- `query` without a database. -/
def queryEntries (options : ExecutionLogQueryOptions) (entries : List ExecutionLogEntry) :
    List ExecutionLogEntry :=
  let results := notBefore options (ofRule options entries.reverse)
  let offset := options.offset.getD 0
  let limit := options.limit.getD results.length
  -- `results.slice(offset, offset + limit)`
  (results.take (offset + limit)).drop offset

def query (log : ExecutionLog) (options : ExecutionLogQueryOptions) :
    Except HistoryError (List ExecutionLogEntry) :=
  match log.rows with
  | none => .ok (queryEntries options log.entries)
  | some rows => (select options options.clauses rows.entries).map (List.map rowToEntry)

/-- Pushes whose inserts succeed. -/
def pushAll (log : ExecutionLog) (entries : List ExecutionLogEntry) : ExecutionLog :=
  entries.foldl (fun log entry => (push (.ok ⟨⟩) entry log).2) log

/-- `new ExecutionLog(maxEntries, db)` on an empty table -/
def backed (maxEntries : Nat) : ExecutionLog := { maxEntries, rows := some .empty }

/-- `new ExecutionLog(maxEntries)` -/
def unbacked (maxEntries : Nat) : ExecutionLog := { maxEntries }

/-! ## What the logs hold -/

/-- Entries as the recorder makes them, and no more than the buffer holds. -/
structure Recorded (maxEntries : Nat) (entries : List ExecutionLogEntry) : Prop where
  fits : entries.length ≤ maxEntries
  ids : (entries.map ExecutionLogEntry.id).Nodup
  explicit : ∀ entry ∈ entries, entry.success.isSome
  later : entries.Pairwise fun a b => a.timestamp < b.timestamp

def stored (entry : ExecutionLogEntry) : HistoryRow := (entry.id, rowOf entry)

theorem push_snd (entry : ExecutionLogEntry) (log : ExecutionLog) :
    (push (.ok ⟨⟩) entry log).2 = (log.remember entry).insertRow entry := by
  rw [push_of_ok entry fun _ => rfl]

/-- A push into a buffer with room. -/
theorem entries_push (entry : ExecutionLogEntry) {log : ExecutionLog}
    (room : log.entries.length < log.maxEntries) :
    (push (.ok ⟨⟩) entry log).2.entries = log.entries ++ [entry] := by
  rw [push_snd]
  change (if log.maxEntries ≤ log.entries.length then log.entries.tail else log.entries) ++ _ = _
  rw [if_neg (Nat.not_le.mpr room)]

theorem maxEntries_push (entry : ExecutionLogEntry) (log : ExecutionLog) :
    (push (.ok ⟨⟩) entry log).2.maxEntries = log.maxEntries := by
  rw [push_snd]
  rfl

theorem entries_pushAll {log : ExecutionLog} {entries : List ExecutionLogEntry}
    (room : log.entries.length + entries.length ≤ log.maxEntries) :
    (log.pushAll entries).entries = log.entries ++ entries := by
  induction entries generalizing log with
  | nil => exact (List.append_nil _).symm
  | cons entry rest ih =>
      rw [List.length_cons] at room
      have pushed : (push (.ok ⟨⟩) entry log).2.entries = log.entries ++ [entry] :=
        entries_push entry (by omega)
      unfold pushAll
      rw [List.foldl_cons]
      change ((push (.ok ⟨⟩) entry log).2.pushAll rest).entries = _
      rw [ih, pushed, List.append_assoc, List.singleton_append]
      rw [pushed, maxEntries_push, List.length_append, List.length_singleton]
      omega

theorem rows_pushAll_none {log : ExecutionLog} (absent : log.rows = none)
    (entries : List ExecutionLogEntry) : (log.pushAll entries).rows = none := by
  induction entries generalizing log with
  | nil => exact absent
  | cons entry rest ih =>
      have still : (push (.ok ⟨⟩) entry log).2.rows = none := by
        rw [push_snd]
        simp [insertRow, remember, absent]
      exact ih still

/-- A row with a new id goes to the end. -/
theorem entries_insertRow {rows : OrderedMap String ExecutionHistoryRow}
    {entry : ExecutionLogEntry} (absent : rows.get entry.id = none) :
    ((rows.delete entry.id).set entry.id (rowOf entry)).entries =
      rows.entries ++ [stored entry] := by
  have same : (rows.delete entry.id).entries = rows.entries := by
    apply List.filter_eq_self.mpr
    intro row member
    have other : row.1 ≠ entry.id := by
      intro here
      exact OrderedMap.get_eq_none.mp absent (here ▸ List.mem_map_of_mem member)
    simpa using other
  rw [OrderedMap.entries_set_of_absent (OrderedMap.get_delete_self _ _), same]
  rfl

theorem rows_pushAll {log : ExecutionLog} {rows : OrderedMap String ExecutionHistoryRow}
    (present : log.rows = some rows) {entries : List ExecutionLogEntry}
    (ids : (rows.keys ++ entries.map ExecutionLogEntry.id).Nodup) :
    ∃ rows', (log.pushAll entries).rows = some rows' ∧
      rows'.entries = rows.entries ++ entries.map stored := by
  induction entries generalizing log rows with
  | nil => exact ⟨rows, present, (List.append_nil _).symm⟩
  | cons entry rest ih =>
      have absent : rows.get entry.id = none := by
        apply OrderedMap.get_eq_none.mpr
        intro there
        exact (List.nodup_append.mp ids).2.2 _ there _ (by simp) rfl
      have added := entries_insertRow absent
      have present' : (push (.ok ⟨⟩) entry log).2.rows =
          some ((rows.delete entry.id).set entry.id (rowOf entry)) := by
        rw [push_snd]
        simp [insertRow, remember, present]
      have ids' : (((rows.delete entry.id).set entry.id (rowOf entry)).keys ++
          rest.map ExecutionLogEntry.id).Nodup := by
        unfold OrderedMap.keys
        rw [added]
        simpa [stored, OrderedMap.keys] using ids
      obtain ⟨rows', held, listed⟩ := ih present' ids'
      refine ⟨rows', held, ?_⟩
      rw [listed, added]
      simp

theorem unbacked_pushes {maxEntries : Nat} {entries : List ExecutionLogEntry}
    (fits : entries.length ≤ maxEntries) :
    ((unbacked maxEntries).pushAll entries).rows = none ∧
      ((unbacked maxEntries).pushAll entries).entries = entries := by
  refine ⟨rows_pushAll_none rfl entries, ?_⟩
  rw [entries_pushAll (by simpa [unbacked] using fits)]
  rfl

theorem backed_pushes {maxEntries : Nat} {entries : List ExecutionLogEntry}
    (ids : (entries.map ExecutionLogEntry.id).Nodup) :
    ∃ rows, ((backed maxEntries).pushAll entries).rows = some rows ∧
      rows.entries = entries.map stored := by
  have start : (backed maxEntries).rows = some .empty := rfl
  exact rows_pushAll start (by simpa [OrderedMap.keys] using ids)

/-! ## The two answers -/

/-- What both ways keep of an entry. -/
def wanted (options : ExecutionLogQueryOptions) (ruleId : String) (timestamp : Nat) : Bool :=
  (∀ wanted ∈ truthy options.ruleId, ruleId = wanted) ∧
    ∀ since ∈ options.since, since ≤ timestamp

theorem rowToEntry_stored {entry : ExecutionLogEntry} (explicit : entry.success.isSome) :
    rowToEntry (stored entry) = entry := by
  obtain ⟨success, given⟩ := Option.isSome_iff_exists.mp explicit
  cases entry
  cases given
  rfl

/-- The clauses before `ORDER BY` keep the wanted rows. -/
theorem select_eq (options : ExecutionLogQueryOptions) (rows : List HistoryRow) :
    select options options.clauses rows =
      page options (newestFirst (rows.filter fun row => wanted options row.2.ruleId row.2.timestamp))
        ((if options.limit.isSome then [.limit] else []) ++
          if options.offset.isSome then [.offset] else []) := by
  unfold ExecutionLogQueryOptions.clauses wanted
  cases rule : truthy options.ruleId with
  | none => cases since : options.since <;> simp [select, since]
  | some ruleId =>
      have given := (truthy_eq_some.mp rule).1
      cases since : options.since with
      | none => simp [select, given]
      | some since' => simp [select, given, since, List.filter_filter, Bool.and_comm]

/-- Rows in time order, from the newest on. -/
theorem newestFirst_eq {rows : List HistoryRow}
    (later : rows.Pairwise fun r s => r.2.timestamp < s.2.timestamp) :
    newestFirst rows = rows.reverse := by
  have perm : (newestFirst rows).Perm rows := List.perm_insertionSort _ rows
  have sorted : (newestFirst rows).Pairwise fun r s => s.2.timestamp ≤ r.2.timestamp := by
    have : Std.Total fun r s : HistoryRow => s.2.timestamp ≤ r.2.timestamp :=
      ⟨fun r s => le_total _ _⟩
    have : IsTrans HistoryRow fun r s => s.2.timestamp ≤ r.2.timestamp :=
      ⟨fun _ _ _ first second => second.trans first⟩
    exact List.pairwise_insertionSort _ rows
  have reversed : rows.reverse.Pairwise fun r s => s.2.timestamp ≤ r.2.timestamp :=
    List.pairwise_reverse.mpr (later.imp Nat.le_of_lt)
  apply List.Perm.eq_of_pairwise _ sorted reversed (perm.trans rows.reverse_perm.symm)
  intro r s here there below above
  -- no two rows are of one moment
  have apart : rows.Pairwise fun r s => r.2.timestamp ≠ s.2.timestamp := later.imp Nat.ne_of_lt
  by_contra differ
  have symm : Std.Symm fun r s : HistoryRow => r.2.timestamp ≠ s.2.timestamp :=
    ⟨fun r s => Ne.symm⟩
  exact apart.forall (perm.mem_iff.mp here) (List.mem_reverse.mp there) differ
    (le_antisymm above below)

theorem narrowed_eq (options : ExecutionLogQueryOptions) (entries : List ExecutionLogEntry) :
    notBefore options (ofRule options entries.reverse) =
      (entries.filter fun entry => wanted options entry.ruleId entry.timestamp).reverse := by
  unfold notBefore ofRule wanted
  cases truthy options.ruleId <;> cases options.since <;>
    simp [List.filter_reverse, List.filter_filter, Bool.and_comm]

theorem queryEntries_eq (options : ExecutionLogQueryOptions) (entries : List ExecutionLogEntry) :
    queryEntries options entries =
      let results :=
        (entries.filter fun entry => wanted options entry.ruleId entry.timestamp).reverse
      (results.drop (options.offset.getD 0)).take (options.limit.getD results.length) := by
  unfold queryEntries
  dsimp only
  rw [narrowed_eq, List.drop_take, Nat.add_sub_cancel_left]

theorem map_rowToEntry {entries : List ExecutionLogEntry}
    (explicit : ∀ entry ∈ entries, entry.success.isSome) :
    (entries.map stored).map rowToEntry = entries := by
  calc (entries.map stored).map rowToEntry
      = entries.map fun entry => rowToEntry (stored entry) := List.map_map
    _ = entries.map id :=
        List.map_congr_left fun entry member => rowToEntry_stored (explicit entry member)
    _ = entries := List.map_id entries

/-- The limit and the offset, on rows in their order. -/
theorem page_eq_iff (options : ExecutionLogQueryOptions) {results : List ExecutionLogEntry}
    (explicit : ∀ entry ∈ results, entry.success.isSome) :
    (page options (results.map stored) ((if options.limit.isSome then [.limit] else []) ++
        if options.offset.isSome then [.offset] else [])).map (List.map rowToEntry) =
      .ok ((results.drop (options.offset.getD 0)).take (options.limit.getD results.length)) ↔
    (options.offset.isSome → options.limit.isSome) := by
  have back : ∀ part : List ExecutionLogEntry, part.Sublist results →
      (part.map stored).map rowToEntry = part := fun part inside =>
    map_rowToEntry fun entry member => explicit entry (inside.subset member)
  cases limit : options.limit with
  | none =>
      cases offset : options.offset with
      | none =>
          have whole := back results (List.Sublist.refl _)
          simp [page, Except.map] at whole ⊢
          exact whole
      | some o => simp [page, Except.map]
  | some l =>
      cases offset : options.offset with
      | none =>
          have some' := back _ (List.take_sublist l results)
          simp [page, Except.map, limit] at some' ⊢
          exact some'
      | some o =>
          have some' := back _ ((List.take_sublist l _).trans (List.drop_sublist o results))
          simp [page, Except.map, limit, offset] at some' ⊢
          exact some'

/-- **The two answers.**  After the same pushes they are the same, unless the options have an
offset and no limit. -/
theorem history_agrees_iff {maxEntries : Nat} {entries : List ExecutionLogEntry}
    (recorded : Recorded maxEntries entries) (options : ExecutionLogQueryOptions) :
    ((backed maxEntries).pushAll entries).query options =
        ((unbacked maxEntries).pushAll entries).query options ↔
      (options.offset.isSome → options.limit.isSome) := by
  obtain ⟨rows, held, listed⟩ : ∃ rows, ((backed maxEntries).pushAll entries).rows = some rows ∧
      rows.entries = entries.map stored := backed_pushes recorded.ids
  obtain ⟨absent, buffered⟩ := unbacked_pushes recorded.fits
  have kept : (entries.map stored).filter
        (fun row => wanted options row.2.ruleId row.2.timestamp) =
      (entries.filter fun entry => wanted options entry.ruleId entry.timestamp).map stored :=
    List.filter_map
  have later := recorded.later.filter fun entry => wanted options entry.ruleId entry.timestamp
  unfold query
  rw [held, absent, buffered]
  dsimp only
  rw [select_eq, listed, kept, newestFirst_eq (List.pairwise_map.mpr later), ← List.map_reverse]
  rw [queryEntries_eq]
  apply page_eq_iff options
  intro entry member
  exact recorded.explicit entry (List.mem_of_mem_filter (List.mem_reverse.mp member))

/-! ## An offset without a limit -/

def firstRun : ExecutionLogEntry :=
  { id := "a", ruleId := "fan", ruleName := "Fan", ruleType := .form, triggerTopic := "home/heat",
    actions := [], duration := 3, timestamp := 100, success := some true }

def secondRun : ExecutionLogEntry :=
  { id := "b", ruleId := "lamp", ruleName := "Lamp", ruleType := .script,
    triggerTopic := "home/door", actions := [], duration := 5, timestamp := 200,
    success := some false, failureReason := some "timed out" }

theorem recorded_runs : Recorded 200 [firstRun, secondRun] where
  fits := by decide
  ids := by decide
  explicit := by simp [firstRun, secondRun]
  later := by simp [firstRun, secondRun]

theorem history_agrees_iff_runs :
    ((backed 200).pushAll [firstRun, secondRun]).query { limit := some 1, offset := some 1 } =
        ((unbacked 200).pushAll [firstRun, secondRun]).query { limit := some 1, offset := some 1 } ↔
      ((some 1 : Option Nat).isSome → (some 1 : Option Nat).isSome) :=
  history_agrees_iff recorded_runs _

/-- The buffer skips the newest entry; the database refuses the statement. -/
theorem offset_without_limit :
    ((unbacked 200).pushAll [firstRun, secondRun]).query { offset := some 1 } = .ok [firstRun] ∧
    ((backed 200).pushAll [firstRun, secondRun]).query { offset := some 1 } =
      .error (.syntaxError
        "SELECT * FROM execution_history WHERE 1=1 ORDER BY timestamp DESC OFFSET @offset") := by
  constructor <;> rfl

end ExecutionLog

end Aeolus.Automations
