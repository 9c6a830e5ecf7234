/-
# Aeolus.Db.MigrationResume — running the migrations again after a failure

A failed run leaves the tables and the history as they were after its last successful
migration.  A later run finds that prefix recorded, runs only what is left, and ends
where one run of the repaired list from the first database would have ended, because
both go through the same tables and histories from the prefix on
(`rerun_same_outcome`).

A repair may change what a migration does on tables where it threw; where it went
through, the repaired one does the same.
-/
import Aeolus.Db.MigrationRunner

namespace Aeolus.Db

open Aeolus.Theory
open Handler

variable {σ : Type}

/-- The same migration with its failures removed: it does what it did wherever it went
through. -/
structure Repairs (catalog : Catalog σ) (m m' : Migration σ) : Prop where
  id : m'.id = m.id
  name : m'.name = m.name
  up : ∀ tables tables', m.Runs catalog tables tables' → m'.up tables = (.ok (), tables')

/-- The times of an uninterrupted run that records what the first of two runs recorded
when that one did, and the rest when the second did. -/
def resumedClock (first second : Nat → Nat) (halted : Connection σ) (id : Nat) : Nat :=
  if id ∈ halted.rows.keys then first id else second id

/-- Two runs end alike: both return or both throw, on the same tables and history. -/
def SameOutcome (left right : Except MigrationFailure RunMigrationsResult × Connection σ) : Prop :=
  left.1.isOk = right.1.isOk ∧ left.2.schema = right.2.schema

/-! ## The repaired list -/

section Repaired

variable {catalog : Catalog σ} {migrations : List (Migration σ)}
  {repair : Migration σ → Migration σ}
  (repairs : ∀ m ∈ migrations, Repairs catalog m (repair m))

include repairs

theorem map_repair_ids : (migrations.map repair).map Migration.id = migrations.map Migration.id := by
  rw [List.map_map]
  exact List.map_congr_left fun m mem => (repairs m mem).id

theorem expectedVersion_repair :
    getExpectedVersion (migrations.map repair) = getExpectedVersion migrations := by
  rw [getExpectedVersion, map_repair_ids repairs]
  rfl

theorem find?_repair :
    ((migrations.map repair).find? fun m => m.id = 1) =
      (migrations.find? fun m => m.id = 1).map repair := by
  induction migrations with
  | nil => rfl
  | cons m ms ih =>
      have here := (repairs m List.mem_cons_self).id
      have rest := ih fun x mem => repairs x (List.mem_cons_of_mem _ mem)
      by_cases one : m.id = 1
      · simp [here, one]
      · simpa [here, one] using rest

theorem recordOf_repair {first second : Nat → Nat} {m : Migration σ} (mem : m ∈ migrations)
    (same : first m.id = second m.id) : recordOf first (repair m) = recordOf second m := by
  rw [recordOf, (repairs m mem).id, (repairs m mem).name, same]
  rfl

theorem applied_repair {done : List (Migration σ)} {tables tables' : σ}
    (listed : ∀ m ∈ done, m ∈ migrations) (applied : Applied catalog done tables tables') :
    Applied catalog (done.map repair) tables tables' := by
  induction applied with
  | nil tables => exact .nil tables
  | cons runs _ ih =>
      rename_i m ms _ _ _ _
      have mem := listed m List.mem_cons_self
      exact .cons ⟨(repairs m mem).up _ _ runs, runs.2⟩
        (ih fun x later => listed x (List.mem_cons_of_mem _ later))

/-- The repaired migrations that are pending, in the same order. -/
theorem sorted_repair (ids : List Nat) :
    byAge Migration.id ((migrations.map repair).filter fun m => m.id ∉ ids) =
      (byAge Migration.id (migrations.filter fun m => m.id ∉ ids)).map repair := by
  have kept : (migrations.map repair).filter (fun m => m.id ∉ ids) =
      (migrations.filter fun m => m.id ∉ ids).map repair := by
    rw [List.filter_map]
    congr 1
    refine List.filter_congr fun m mem => ?_
    simp [(repairs m mem).id]
  rw [kept]
  refine (List.map_insertionSort _ _ repair _ fun a ha b hb => ?_).symm
  rw [(repairs a (List.mem_of_mem_filter ha)).id, (repairs b (List.mem_of_mem_filter hb)).id]

end Repaired

/-! ## The loop from the same schema -/

theorem schema_ext {c d : Connection σ} (tables : c.tables = d.tables)
    (rows : c.rows.entries = d.rows.entries) : c.schema = d.schema :=
  Prod.ext tables (OrderedMap.ext rows)

/-- From one schema, with clocks that agree on what is left, the loop and the version
check end alike. -/
theorem applyAll_schema (catalog : Catalog σ) (migrations : List (Migration σ))
    {first second : Nat → Nat} {pending : List (Migration σ)}
    (agree : ∀ m ∈ pending, first m.id = second m.id) {c d : Connection σ}
    (same : c.schema = d.schema) :
    (applyAll catalog migrations first pending c).1.isOk =
        (applyAll catalog migrations second pending d).1.isOk ∧
      (applyAll catalog migrations first pending c).2.schema =
        (applyAll catalog migrations second pending d).2.schema := by
  have rounds : pending.forM (applyMigration catalog first) =
      pending.forM (applyMigration catalog second) := by
    refine forM_congr fun m mem => ?_
    unfold applyMigration migrationBody
    rw [agree m mem]
  obtain ⟨result, schema⟩ := forM_view Connection.schema (applyMigration_schema catalog second)
    pending same
  rw [applyAll, applyAll, bind_apply, bind_apply, rounds]
  rcases left : pending.forM (applyMigration catalog second) c with ⟨e | a, c'⟩ <;>
    rcases right : pending.forM (applyMigration catalog second) d with ⟨e' | a', d'⟩ <;>
    rw [left, right] at result schema
  · exact ⟨rfl, schema⟩
  · cases result
  · cases result
  · have version : getSchemaVersion c' = getSchemaVersion d' :=
      congrArg (fun rows : OrderedMap Nat MigrationRecord => rows.keys.max?.getD 0)
        (congrArg Prod.snd schema)
    simp only [bind_apply, asks_apply, version]
    split <;> exact ⟨rfl, schema⟩

theorem applyAll_append {catalog : Catalog σ} {now : Nat → Nat} (migrations : List (Migration σ))
    {done rest : List (Migration σ)} {c mid : Connection σ}
    (ran : done.forM (applyMigration catalog now) c = (.ok (), mid)) :
    applyAll catalog migrations now (done ++ rest) c = applyAll catalog migrations now rest mid := by
  rw [applyAll, applyAll, bind_apply, bind_apply, forM_append ran]

theorem applied_nil {catalog : Catalog σ} {tables tables' : σ}
    (applied : Applied catalog [] tables tables') : tables' = tables := by
  cases applied
  rfl

/-! ## The rerun -/

/-- A prepared run with something to do and no checkpoint fault ends as its loop does. -/
theorem runMigrations_outcome {catalog : Catalog σ} {migrations : List (Migration σ)}
    {options : RunMigrationsOptions} {start c : Connection σ} {adopted : Bool}
    (prepared : prepareHistory catalog migrations options.now start = (.ok adopted, c))
    (left : getPendingMigrations c migrations ≠ []) (sound : options.checkpointFault = none) :
    (runMigrations catalog migrations options start).1.isOk =
        (applyAll catalog migrations options.now (getPendingMigrations c migrations) c).1.isOk ∧
      (runMigrations catalog migrations options start).2 =
        (applyAll catalog migrations options.now (getPendingMigrations c migrations) c).2 := by
  rw [runMigrations_of_prepared prepared]
  rcases checkpointBefore_cases catalog options c with ⟨path, made⟩ | ⟨_, cause, fault, _⟩
  · rw [applyPending_apply adopted left made]
    rcases applyAll catalog migrations options.now (getPendingMigrations c migrations) c with
      ⟨e | toVersion, c'⟩ <;> exact ⟨rfl, rfl⟩
  · cases sound.symm.trans fault

/-- What is pending once a first part of the pending migrations is recorded. -/
theorem pending_after {c final : Connection σ} {migrations done rest : List (Migration σ)}
    (distinct : (migrations.map Migration.id).Nodup)
    (split : getPendingMigrations c migrations = done ++ rest)
    (keys : ∀ id, id ∈ final.rows.keys ↔ id ∈ c.rows.keys ∨ id ∈ done.map Migration.id) :
    getPendingMigrations final migrations = rest := by
  have kept : migrations.filter (fun m => m.id ∉ final.rows.keys) =
      (migrations.filter fun m => m.id ∉ c.rows.keys).filter
        fun m => m.id ∉ done.map Migration.id := by
    rw [List.filter_filter]
    refine List.filter_congr fun m _ => ?_
    rw [← Bool.decide_and, decide_eq_decide, keys m.id, not_or]
    exact and_comm
  have distinctPending := (sorted_ascending (fun m => m.id ∉ c.rows.keys) distinct).imp ne_of_lt
  change ((getPendingMigrations c migrations).map Migration.id).Pairwise (· ≠ ·) at distinctPending
  rw [split, List.map_append, List.pairwise_append] at distinctPending
  rw [getPendingMigrations, kept, ← filter_byAge]
  change (getPendingMigrations c migrations).filter _ = rest
  rw [split, List.filter_append]
  have gone : done.filter (fun m => decide (m.id ∉ done.map Migration.id)) = [] := by
    refine List.filter_eq_nil_iff.mpr fun m mem => ?_
    simpa using ⟨m, mem, rfl⟩
  have left : rest.filter (fun m => decide (m.id ∉ done.map Migration.id)) = rest := by
    refine List.filter_eq_self.mpr fun m mem => decide_eq_true fun there => ?_
    exact distinctPending.2.2 m.id there m.id (List.mem_map.mpr ⟨m, mem, rfl⟩) rfl
  rw [gone, left, List.nil_append]

section Rerun

variable {catalog : Catalog σ} {migrations : List (Migration σ)} {now : Nat → Nat}
  {start c final : Connection σ} {done rest : List (Migration σ)}
  {repair : Migration σ → Migration σ}
  (repairs : ∀ m ∈ migrations, Repairs catalog m (repair m))

include repairs

/-- The uninterrupted run adds to the same rows. -/
theorem startingRows_repair (now' : Nat → Nat) (spec : Prepared catalog migrations now start c)
    (recorded : ∀ id ∈ c.rows.keys, id ∈ final.rows.keys) :
    startingRows catalog (migrations.map repair) (resumedClock now now' final) start =
      startingRows catalog migrations now start := by
  have history := spec.history
  unfold startingRows at history ⊢
  split
  · rename_i legacy
    rw [if_pos legacy] at history
    rw [find?_repair repairs]
    cases baseline : migrations.find? fun m => m.id = 1 with
    | none => rfl
    | some m =>
        rw [baseline] at history
        have there : m.id ∈ c.rows.keys := by
          rw [OrderedMap.keys, history]
          exact List.mem_singleton.mpr rfl
        have same : resumedClock now now' final m.id = now m.id := if_pos (recorded m.id there)
        exact congrArg (fun row => [row])
          (recordOf_repair repairs (List.mem_of_find?_eq_some baseline) same)
  · rfl

theorem compatible_repair :
    Compatible (migrations.map repair) start ↔ Compatible migrations start := by
  rw [Compatible, Compatible, expectedVersion_repair repairs]

theorem nodup_repair (distinct : (migrations.map Migration.id).Nodup) :
    ((migrations.map repair).map Migration.id).Nodup :=
  (map_repair_ids repairs).symm ▸ distinct

/-- The rerun starts from the schema the failed run left. -/
theorem rerun_prepared (now' : Nat → Nat) (distinct : (migrations.map Migration.id).Nodup)
    (compatible : Compatible migrations final) (settled : isLegacyDatabase catalog final = false) :
    ∃ adopted c', prepareHistory catalog (migrations.map repair) now' final = (.ok adopted, c') ∧
      c'.schema = final.schema := by
  rcases prepareHistory_cases catalog now' final (nodup_repair repairs distinct) with
    ⟨newer, _⟩ | ⟨_, legacy, _⟩ | ⟨_, _, adopted, c', prepared, spec⟩
  · exact absurd ((compatible_repair repairs).mpr compatible) newer
  · cases settled.symm.trans legacy
  · refine ⟨adopted, c', prepared, schema_ext spec.tables (spec.history.trans ?_)⟩
    rw [startingRows, settled]
    rfl

/-- The uninterrupted run starts where the failed one did. -/
theorem whole_prepared (now' : Nat → Nat) (distinct : (migrations.map Migration.id).Nodup)
    (spec : Prepared catalog migrations now start c)
    (compatible : Compatible migrations start)
    (baselined : isLegacyDatabase catalog start = true →
      (migrations.find? fun m => m.id = 1) ≠ none)
    (recorded : ∀ id ∈ c.rows.keys, id ∈ final.rows.keys) :
    ∃ adopted c', prepareHistory catalog (migrations.map repair)
        (resumedClock now now' final) start = (.ok adopted, c') ∧ c'.schema = c.schema := by
  rcases prepareHistory_cases catalog (resumedClock now now' final) start
    (nodup_repair repairs distinct) with
    ⟨newer, _⟩ | ⟨_, legacy, none_found, _⟩ | ⟨_, _, adopted, c', prepared, spec'⟩
  · exact absurd ((compatible_repair repairs).mpr compatible) newer
  · rw [find?_repair repairs, Option.map_eq_none_iff] at none_found
    exact absurd none_found (baselined legacy)
  · refine ⟨adopted, c', prepared, schema_ext (spec'.tables.trans spec.tables.symm) ?_⟩
    rw [spec'.history, spec.history, startingRows_repair repairs now' spec recorded]

theorem pending_repair {c c' : Connection σ} (schema : c'.schema = c.schema) :
    getPendingMigrations c' (migrations.map repair) =
      (getPendingMigrations c migrations).map repair := by
  have rows : c'.rows = c.rows := congrArg Prod.snd schema
  rw [getPendingMigrations, rows]
  exact sorted_repair repairs c.rows.keys

/-- The uninterrupted run goes through the schema the failed run left. -/
theorem whole_prefix (now' : Nat → Nat) (listed : ∀ m ∈ done, m ∈ migrations)
    (unrecorded : Unrecorded c done) (applied : Applied catalog done c.tables final.tables)
    (history : final.rows.entries = c.rows.entries ++ done.map (recordOf now))
    {c' : Connection σ} (schema : c'.schema = c.schema) :
    ∃ mid, (done.map repair).forM (applyMigration catalog (resumedClock now now' final)) c' =
      (.ok (), mid) ∧ mid.schema = final.schema := by
  have tables : c'.tables = c.tables := congrArg Prod.fst schema
  have rows : c'.rows = c.rows := congrArg Prod.snd schema
  have ids : (done.map repair).map Migration.id = done.map Migration.id :=
    map_repair_ids fun m mem => repairs m (listed m mem)
  have unrecorded' : Unrecorded c' (done.map repair) := by
    refine ⟨ids ▸ unrecorded.1, fun m mem => ?_⟩
    obtain ⟨old, there, rfl⟩ := List.mem_map.mp mem
    rw [rows, (repairs old (listed old there)).id]
    exact unrecorded.2 old there
  have applied' : Applied catalog (done.map repair) c'.tables final.tables := by
    rw [tables]
    exact applied_repair repairs listed applied
  obtain ⟨mid, ran, last, advanced⟩ :=
    forM_of_applied (resumedClock now now' final) unrecorded' applied'
  refine ⟨mid, ran, schema_ext last ?_⟩
  rw [advanced.history, history, rows, List.map_map]
  refine congrArg _ (List.map_congr_left fun m mem => ?_)
  have recorded : m.id ∈ final.rows.keys := by
    rw [OrderedMap.keys, history, List.map_append]
    exact List.mem_append_right _ (List.mem_map.mpr ⟨_, List.mem_map.mpr ⟨m, mem, rfl⟩, rfl⟩)
  exact recordOf_repair repairs (listed m mem) (if_pos recorded)

/-- From the prefix on, rerun and uninterrupted run go through the same schemas. -/
theorem rerun_from_prefix (distinct : (migrations.map Migration.id).Nodup)
    (spec : Prepared catalog migrations now start c) (compatible : Compatible migrations start)
    (baselined : isLegacyDatabase catalog start = true →
      (migrations.find? fun m => m.id = 1) ≠ none)
    (split : getPendingMigrations c migrations = done ++ rest) (left : rest ≠ [])
    (applied : Applied catalog done c.tables final.tables)
    (history : final.rows.entries = c.rows.entries ++ done.map (recordOf now))
    {rerun : RunMigrationsOptions} (sound : rerun.checkpointFault = none) :
    SameOutcome (runMigrations catalog (migrations.map repair) rerun final)
      (runMigrations catalog (migrations.map repair)
        { rerun with now := resumedClock now rerun.now final } start) := by
  have pending := unrecorded_pending (c := c) distinct
  rw [split] at pending
  have listed : ∀ m ∈ done ++ rest, m ∈ migrations := by
    intro m mem
    rw [← split] at mem
    exact (mem_getPendingMigrations.mp mem).1
  have keys : ∀ id, id ∈ final.rows.keys ↔ id ∈ c.rows.keys ∨ id ∈ done.map Migration.id := by
    intro id
    rw [OrderedMap.keys, history, List.map_append, List.mem_append, List.map_map]
    rfl
  have remaining : getPendingMigrations final migrations = rest := pending_after distinct split keys
  have compatible' : Compatible migrations final := by
    intro id recorded
    rcases (keys id).mp recorded with old | new
    · exact spec.compatible id old
    · obtain ⟨m, mem, rfl⟩ := List.mem_map.mp new
      exact le_getExpectedVersion (listed m (List.mem_append_left _ mem))
  have settled : isLegacyDatabase catalog final = false := by
    rw [Bool.eq_false_iff]
    intro legacy
    obtain ⟨app, empty⟩ := (isLegacy_iff catalog final).mp legacy
    rw [history, List.append_eq_nil_iff, List.map_eq_nil_iff] at empty
    obtain ⟨none_before, rfl⟩ := empty
    rw [applied_nil applied] at app
    cases spec.settled.symm.trans ((isLegacy_iff catalog c).mpr ⟨app, none_before⟩)
  obtain ⟨adopted₂, c₂, prepared₂, schema₂⟩ :=
    rerun_prepared repairs rerun.now distinct compatible' settled
  obtain ⟨adopted₃, c₃, prepared₃, schema₃⟩ := whole_prepared repairs rerun.now distinct
    spec compatible baselined fun id old => (keys id).mpr (Or.inl old)
  have pending₂ := pending_repair repairs schema₂
  have pending₃ := pending_repair repairs schema₃
  rw [remaining] at pending₂
  rw [split, List.map_append] at pending₃
  have left₂ : rest.map repair ≠ [] := fun empty => left (List.map_eq_nil_iff.mp empty)
  have left₃ : done.map repair ++ rest.map repair ≠ [] := fun empty =>
    left₂ (List.append_eq_nil_iff.mp empty).2
  obtain ⟨ok₂, final₂⟩ := runMigrations_outcome prepared₂ (pending₂ ▸ left₂) sound
  let whole : RunMigrationsOptions := { rerun with now := resumedClock now rerun.now final }
  have prepared : prepareHistory catalog (migrations.map repair) whole.now start =
    (.ok adopted₃, c₃) := prepared₃
  obtain ⟨ok₃, final₃⟩ := runMigrations_outcome prepared (pending₃ ▸ left₃) sound
  obtain ⟨mid, ran, schema⟩ := whole_prefix repairs rerun.now
    (fun m mem => listed m (List.mem_append_left _ mem))
    ⟨(List.nodup_append.mp (List.map_append ▸ pending.1)).1,
      fun m mem => pending.2 m (List.mem_append_left _ mem)⟩ applied history schema₃
  have agree : ∀ m ∈ rest.map repair, rerun.now m.id = resumedClock now rerun.now final m.id := by
    intro m mem
    obtain ⟨old, there, rfl⟩ := List.mem_map.mp mem
    rw [← remaining] at there
    obtain ⟨old_listed, unrecorded⟩ := mem_getPendingMigrations.mp there
    rw [(repairs old old_listed).id]
    exact (if_neg unrecorded).symm
  obtain ⟨ok, same⟩ := applyAll_schema catalog (migrations.map repair) agree
    (schema₂.trans schema.symm)
  rw [pending₂] at ok₂ final₂
  rw [pending₃, applyAll_append _ ran] at ok₃ final₃
  refine ⟨ok₂.trans (ok.trans ok₃.symm), ?_⟩
  rw [final₂, final₃]
  exact same

/-- **Resumption.**  After any failure the rerun of the repaired list ends as its
uninterrupted run from the first database does. -/
theorem rerun_same_outcome {options : RunMigrationsOptions} {e : MigrationFailure}
    (distinct : (migrations.map Migration.id).Nodup)
    (threw : runMigrations catalog migrations options start = (.error e, final))
    {rerun : RunMigrationsOptions} (sound : rerun.checkpointFault = none) :
    SameOutcome (runMigrations catalog (migrations.map repair) rerun final)
      (runMigrations catalog (migrations.map repair)
        { rerun with now := resumedClock options.now rerun.now final } start) := by
  have distinct' := nodup_repair repairs distinct
  rcases prepareHistory_cases catalog options.now start distinct with
    ⟨newer, refused⟩ | ⟨compatible, legacy, baseline, refused⟩ |
    ⟨compatible, baselined, adopted, c, prepared, spec⟩
  · have newer' := mt (compatible_repair repairs).mp newer
    rw [runMigrations, bind_apply, refused] at threw
    cases threw
    rw [runMigrations_of_newer _ distinct' newer', runMigrations_of_newer _ distinct' newer']
    exact ⟨rfl, rfl⟩
  · have compatible' := (compatible_repair repairs).mpr compatible
    have absent : ((migrations.map repair).find? fun m => m.id = 1) = none := by
      rw [find?_repair repairs, baseline]
      rfl
    rw [runMigrations, bind_apply, refused] at threw
    cases threw
    have again : Compatible (migrations.map repair) start.ensured := compatible'
    rw [runMigrations_of_noBaseline _ distinct' compatible' legacy absent,
      runMigrations_of_noBaseline _ distinct' again
        ((isLegacy_ensured catalog start).trans legacy) absent]
    exact ⟨rfl, rfl⟩
  · rw [runMigrations_of_prepared prepared] at threw
    rcases applyPending_cases catalog options adopted distinct spec.compatible with
      ⟨_, _, _, left, stopped⟩ | ⟨done, m, rest, e', mid, split, applied, _, _, advanced,
        stopped⟩ | ⟨_, _, _, _, _, _, _, returned⟩
    · rw [stopped] at threw
      cases threw
      exact rerun_from_prefix repairs distinct spec compatible baselined (List.nil_append _).symm
        left (.nil _) (List.append_nil _).symm sound
    · rw [stopped] at threw
      cases threw
      have effects : Applied catalog done c.tables (mid.rolledBack m).tables := applied
      exact rerun_from_prefix repairs distinct spec compatible baselined split
        (List.cons_ne_nil m rest) effects advanced.history sound
    · rw [returned] at threw
      cases threw

end Rerun

/-! ## Every run -/

theorem keys_subset_startingRows (catalog : Catalog σ) (migrations : List (Migration σ))
    (now : Nat → Nat) {start : Connection σ} {id : Nat} (recorded : id ∈ start.rows.keys) :
    id ∈ (startingRows catalog migrations now start).map Prod.fst := by
  rw [startingRows_of_recorded catalog migrations now recorded]
  exact recorded

theorem not_mem_of_pending {catalog : Catalog σ} {migrations : List (Migration σ)}
    {now : Nat → Nat} {start : Connection σ} {id : Nat}
    (pending : id ∈ (pendingAtStart catalog migrations now start).map Migration.id) :
    id ∉ (startingRows catalog migrations now start).map Prod.fst := by
  obtain ⟨m, mem, rfl⟩ := List.mem_map.mp pending
  rw [pendingAtStart, (byAge_perm _).mem_iff, List.mem_filter, decide_eq_true_eq] at mem
  exact mem.2

/-- A run executes only migrations that have no row. -/
theorem executed_pending (catalog : Catalog σ) {migrations : List (Migration σ)}
    (distinct : (migrations.map Migration.id).Nodup) (options : RunMigrationsOptions)
    (start : Connection σ) :
    ∃ attempts, (runMigrations catalog migrations options start).2.executed =
        start.executed ++ attempts ∧
      ∀ id ∈ attempts, id ∈ (pendingAtStart catalog migrations options.now start).map
        Migration.id := by
  rcases outcome : runMigrations catalog migrations options start with ⟨e | result, final⟩
  · obtain ⟨done, rest, halted⟩ := runMigrations_halted distinct outcome
    refine ⟨done.map Migration.id ++ e.migrationId.toList, ?_, fun id mem => ?_⟩
    · rw [halted.executed, List.append_assoc]
    · rw [halted.split, List.map_append, List.mem_append]
      rcases List.mem_append.mp mem with before | failing
      · exact Or.inl before
      · obtain ⟨m, first, rfl, _⟩ := halted.failing id (Option.mem_toList.mp failing)
        exact Or.inr (List.mem_map.mpr ⟨m, List.mem_of_mem_head? first, rfl⟩)
  · have migrated := runMigrations_migrated distinct outcome
    exact ⟨_, migrated.executed, fun id mem => mem⟩

/-- **Atomic and resumable.**  Every run returns with everything listed recorded once,
in order, at the expected version; or it throws with exactly a prefix of the pending
migrations applied and recorded, nothing of the failing one, and the pragma back on,
and then a rerun of the repaired list ends as one uninterrupted run would have.  No run
executes a migration that has a row, and a newer database is refused as it is. -/
theorem migrations_resumable (catalog : Catalog σ) (migrations : List (Migration σ))
    (distinct : (migrations.map Migration.id).Nodup) (options : RunMigrationsOptions)
    (start : Connection σ) :
    (∀ result final, runMigrations catalog migrations options start = (.ok result, final) →
      Migrated catalog migrations options.now start result final) ∧
    (∀ e final, runMigrations catalog migrations options start = (.error e, final) →
      (∃ done rest, Halted catalog migrations options.now start e done rest final) ∧
      ∀ repair : Migration σ → Migration σ, (∀ m ∈ migrations, Repairs catalog m (repair m)) →
        ∀ rerun : RunMigrationsOptions, rerun.checkpointFault = none →
          SameOutcome (runMigrations catalog (migrations.map repair) rerun final)
            (runMigrations catalog (migrations.map repair)
              { rerun with now := resumedClock options.now rerun.now final } start)) ∧
    (∃ attempts, (runMigrations catalog migrations options start).2.executed =
        start.executed ++ attempts ∧
      ∀ id ∈ attempts, id ∉ start.rows.keys ∧
        id ∉ (startingRows catalog migrations options.now start).map Prod.fst) ∧
    ((∃ id ∈ start.rows.keys, getExpectedVersion migrations < id) →
      runMigrations catalog migrations options start =
        (.error (.newer (getSchemaVersion start) (getExpectedVersion migrations)), start)) := by
  refine ⟨fun result final returned => runMigrations_migrated distinct returned, ?_, ?_, ?_⟩
  · intro e final threw
    refine ⟨runMigrations_halted distinct threw, fun repair repairs rerun sound => ?_⟩
    exact rerun_same_outcome repairs distinct threw sound
  · obtain ⟨attempts, executed, pending⟩ := executed_pending catalog distinct options start
    refine ⟨attempts, executed, fun id mem => ?_⟩
    have unrecorded := not_mem_of_pending (pending id mem)
    exact ⟨fun recorded =>
      unrecorded (keys_subset_startingRows catalog migrations options.now recorded), unrecorded⟩
  · rintro ⟨id, recorded, newer⟩
    refine runMigrations_of_newer options distinct fun compatible => ?_
    exact absurd (compatible id recorded) (not_le.mpr newer)

/-- Tables by name; every row of a table `orphans` refers to one that is not there. -/
def tableNames : Catalog (List String) where
  hasApp tables := tables.contains "automation_rules"
  foreignKeyCheck tables := tables.filter (· = "orphans")

def creating (id : Nat) (name : String) (created : List String) : Migration (List String) where
  id := id
  name := name
  up tables := (.ok (), tables ++ created)

/-- An empty database whose second migration returns with a foreign key that dangles: the
first stays, and the rerun without that table ends as a run that never failed. -/
theorem migrations_resumable_second_fails :
    let migrations := [creating 1 "baseline" ["automation_rules"],
      creating 2 "history" ["execution_history", "orphans"]]
    let options : RunMigrationsOptions := { now := fun id => 100 + id }
    let rerun : RunMigrationsOptions := { now := fun id => 200 + id }
    let start : Connection (List String) := ⟨[], none, true, []⟩
    let halted := (runMigrations tableNames migrations options start).2
    let repair := fun m : Migration (List String) =>
      if m.id = 2 then creating 2 "history" ["execution_history"] else m
    halted.tables = ["automation_rules"] ∧ halted.rows.keys = [1] ∧ halted.executed = [1, 2] ∧
      SameOutcome (runMigrations tableNames (migrations.map repair) rerun halted)
        (runMigrations tableNames (migrations.map repair)
          { rerun with now := resumedClock options.now rerun.now halted } start) := by
  intro migrations options rerun start halted repair
  have threw : runMigrations tableNames migrations options start =
      (.error ((MigrationFailure.integrity 2 ["orphans"]).wrap 2), halted) := Prod.ext rfl rfl
  have repairs : ∀ m ∈ migrations, Repairs tableNames m (repair m) := by
    intro m mem
    rcases List.mem_cons.mp mem with rfl | mem
    · exact ⟨rfl, rfl, fun _ _ runs => runs.1⟩
    · obtain rfl := List.mem_singleton.mp mem
      refine ⟨rfl, rfl, fun tables tables' runs => ?_⟩
      obtain ⟨returned, sound⟩ := runs
      cases returned
      simp [tableNames, List.filter_append] at sound
  exact ⟨rfl, rfl, rfl, ((migrations_resumable tableNames migrations (by decide) options
    start).2.1 _ halted threw).2 repair repairs rerun rfl⟩

end Aeolus.Db
