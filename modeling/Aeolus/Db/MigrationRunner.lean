/-
# Aeolus.Db.MigrationRunner — applying pending migrations, or throwing

`runMigrations` records every applied migration in `schema_migrations` and runs each
pending one in a transaction of its own, with the foreign-key pragma off around it.
The application tables are an arbitrary type `σ`: a migration is a handler on them
that may throw after it has written, and the runner reads two things of them, whether
the sentinel table `automation_rules` exists and the rows of `foreign_key_check`.

A migration does not write `schema_migrations` (the runner owns the table, the
transaction and the pragma), so the history is a field of its own beside the tables.

Ids ascend from the baseline's 1.  The clock is the time it shows when the record of a
migration is written, which happens at most once for an id.  Safety checkpoints are
files beside the database; a checkpoint either yields its path or throws.
-/
import Aeolus.Theory.OrderedMap
import Aeolus.Theory.Oldest
import Aeolus.Theory.Transaction

namespace Aeolus.Db

open Aeolus.Theory
open Handler

/-- What the runner can throw: a plain `Error`, or one of the structured errors. -/
inductive MigrationFailure where
  | error (message : String)
  | migration (migrationId : Nat) (cause : String)
  | newer (databaseVersion expectedVersion : Nat)
  | checkpoint (destinationPath cause : String)
  | integrity (migrationId : Nat) (violations : List String)
  deriving DecidableEq, Repr

namespace MigrationFailure

def message : MigrationFailure → String
  | error message => message
  | migration id cause => s!"Migration {id} failed: {cause}"
  | newer databaseVersion expectedVersion =>
      s!"Database schema version {databaseVersion} is newer than the binary expects " ++
        s!"({expectedVersion}). " ++
        "Refusing to start — upgrade the binary or restore a compatible database."
  | checkpoint dest cause => s!"Safety checkpoint to '{dest}' failed: {cause}"
  | integrity id violations =>
      s!"Migration {id} committed but left {violations.length} foreign-key violation(s). " ++
        "The database may need manual repair."

/-- The migration a failure names. -/
def migrationId : MigrationFailure → Option Nat
  | migration id _ => some id
  | integrity id _ => some id
  | _ => none

/-- What the catch block of the apply loop throws: an integrity error as it is,
anything else wrapped. -/
def wrap (id : Nat) : MigrationFailure → MigrationFailure
  | integrity id' violations => integrity id' violations
  | e => migration id e.message

end MigrationFailure

/-- A row of `schema_migrations` beside its primary key. -/
structure MigrationRecord where
  name : String
  appliedAt : Nat
  deriving DecidableEq, Repr

structure Migration (σ : Type) where
  id : Nat
  name : String
  up : Handler String σ Unit

/-- What the runner reads of the application tables. -/
structure Catalog (σ : Type) where
  hasApp : σ → Bool
  foreignKeyCheck : σ → List String

/-- An open database.  `history` is `schema_migrations`, `none` while there is no such
table; `executed` is not stored anywhere: it is the ids whose `up` was called, in order. -/
structure Connection (σ : Type) where
  tables : σ
  history : Option (OrderedMap Nat MigrationRecord)
  foreignKeys : Bool
  executed : List Nat

structure RunMigrationsOptions where
  dbPath : Option String := none
  skipCheckpoint : Bool := false
  now : Nat → Nat
  /-- The time in the checkpoint's name. -/
  stamp : String := ""
  /-- What the WAL checkpoint or the file copy throws. -/
  checkpointFault : Option String := none

structure RunMigrationsResult where
  fromVersion : Nat
  toVersion : Nat
  applied : List Nat
  adoptedLegacy : Bool
  checkpointPath : Option String := none
  deriving DecidableEq, Repr

variable {σ : Type}

/-- The rows of `schema_migrations`. -/
def Connection.rows (c : Connection σ) : OrderedMap Nat MigrationRecord :=
  c.history.getD OrderedMap.empty

/-! ## History, adoption and versions -/

/-- The loop of `assertUniqueIds`: the first id already seen. -/
def firstDuplicate : List Nat → List Nat → Option Nat
  | _, [] => none
  | seen, id :: rest => if id ∈ seen then some id else firstDuplicate (id :: seen) rest

def assertUniqueIds (migrations : List (Migration σ)) : Except MigrationFailure Unit :=
  match firstDuplicate [] (migrations.map Migration.id) with
  | some id => .error (.error s!"Duplicate migration id detected: {id}")
  | none => .ok ()

/-- `CREATE TABLE IF NOT EXISTS schema_migrations`. -/
def ensureMigrationHistory : Handler MigrationFailure (Connection σ) Unit :=
  modify fun c => { c with history := some c.rows }

/-- `SELECT MAX(id) FROM schema_migrations`, or 0. -/
def getSchemaVersion (c : Connection σ) : Nat := c.rows.keys.max?.getD 0

def getExpectedVersion (migrations : List (Migration σ)) : Nat :=
  (migrations.map Migration.id).max?.getD 0

def getPendingMigrations (c : Connection σ) (migrations : List (Migration σ)) :
    List (Migration σ) :=
  byAge Migration.id (migrations.filter fun m => m.id ∉ c.rows.keys)

def isLegacyDatabase (catalog : Catalog σ) (c : Connection σ) : Bool :=
  if ¬ catalog.hasApp c.tables then false
  else if c.history.isNone then true
  else c.rows.size = 0

def isFreshDatabase (catalog : Catalog σ) (c : Connection σ) : Bool := !catalog.hasApp c.tables

/-- `INSERT INTO schema_migrations (id, name, applied_at)`. -/
def insertRecord (m : Migration σ) (appliedAt : Nat) :
    Handler MigrationFailure (Connection σ) Unit := fun c =>
  if m.id ∈ c.rows.keys then
    (.error (.error "UNIQUE constraint failed: schema_migrations.id"), c)
  else (.ok (), { c with history := some (c.rows.set m.id ⟨m.name, appliedAt⟩) })

def adoptLegacyDatabase (baselineMigration : Migration σ) (now : Nat → Nat) :
    Handler MigrationFailure (Connection σ) Unit := do
  ensureMigrationHistory
  insertRecord baselineMigration (now baselineMigration.id)

/-- `SELECT MAX(id) FROM schema_migrations WHERE id > ?`. -/
def findNewerThanBinary (c : Connection σ) (expectedVersion : Nat) : Option Nat :=
  (c.rows.keys.filter fun id => expectedVersion < id).max?

def createSafetyCheckpoint (options : RunMigrationsOptions) (dbPath : String) :
    Except MigrationFailure String :=
  let dest := s!"{dbPath}.pre-migration.{options.stamp}.bak"
  match options.checkpointFault with
  | some cause => .error (.checkpoint dest cause)
  | none => .ok dest

/-! ## The apply loop -/

/-- `PRAGMA foreign_keys`. -/
def setForeignKeys (on : Bool) : Handler MigrationFailure (Connection σ) Unit :=
  modify fun c => { c with foreignKeys := on }

/-- `m.up(db)`. -/
def runUp (m : Migration σ) : Handler MigrationFailure (Connection σ) Unit := fun c =>
  match m.up c.tables with
  | (.ok _, tables) => (.ok (), { c with tables := tables })
  | (.error message, tables) => (.error (.error message), { c with tables := tables })

/-- The body of the transaction: the change, the integrity check, the record. -/
def migrationBody (catalog : Catalog σ) (now : Nat → Nat) (m : Migration σ) :
    Handler MigrationFailure (Connection σ) Unit := do
  runUp m
  let violations ← asks fun c => catalog.foreignKeyCheck c.tables
  if 0 < violations.length then throw (.integrity m.id violations)
  insertRecord m (now m.id)

/-- One round of the apply loop. -/
def applyMigration (catalog : Catalog σ) (now : Nat → Nat) (m : Migration σ) :
    Handler MigrationFailure (Connection σ) Unit := do
  setForeignKeys false
  modify fun c => { c with executed := c.executed ++ [m.id] }
  tryCatch (atomically (migrationBody catalog now m)) fun err => do
    setForeignKeys true
    throw (err.wrap m.id)
  setForeignKeys true

/-! ## `runMigrations` -/

def noBaseline : MigrationFailure :=
  .error "Cannot adopt legacy database: no baseline migration (id=1) in registry"

/-- The adoption of a legacy database.  Returns whether it adopted. -/
def adoptIfLegacy (catalog : Catalog σ) (migrations : List (Migration σ)) (now : Nat → Nat) :
    Handler MigrationFailure (Connection σ) Bool := do
  if ← asks (isLegacyDatabase catalog) then
    match migrations.find? fun m => m.id = 1 with
    | none => throw noBaseline
    | some baselineMigration =>
        adoptLegacyDatabase baselineMigration now
        return true
  else return false

/-- Up to the pending set: duplicate ids, the history table, a newer database, and the
adoption of a legacy one. -/
def prepareHistory (catalog : Catalog σ) (migrations : List (Migration σ)) (now : Nat → Nat) :
    Handler MigrationFailure (Connection σ) Bool := do
  check (assertUniqueIds migrations)
  ensureMigrationHistory
  let expectedVersion := getExpectedVersion migrations
  match ← asks fun c => findNewerThanBinary c expectedVersion with
  | some _ =>
      let dbVersion ← asks getSchemaVersion
      throw (.newer dbVersion expectedVersion)
  | none => adoptIfLegacy catalog migrations now

/-- The checkpoint of a database that has application tables, when there is a path. -/
def checkpointBefore (catalog : Catalog σ) (options : RunMigrationsOptions) :
    Handler MigrationFailure (Connection σ) (Option String) := do
  let fresh ← asks (isFreshDatabase catalog)
  match options.dbPath with
  | some dbPath =>
      if !options.skipCheckpoint && !fresh && dbPath ≠ "" then
        let dest ← check (createSafetyCheckpoint options dbPath)
        return some dest
      else return none
  | none => return none

def versionMismatch (toVersion expectedVersion : Nat) : MigrationFailure :=
  .error (s!"Migrations completed but schema version {toVersion} !== " ++
    s!"expected {expectedVersion}")

/-- The apply loop and the version check after it. -/
def applyAll (catalog : Catalog σ) (migrations : List (Migration σ)) (now : Nat → Nat)
    (pending : List (Migration σ)) : Handler MigrationFailure (Connection σ) Nat := do
  pending.forM (applyMigration catalog now)
  let toVersion ← asks getSchemaVersion
  if toVersion ≠ getExpectedVersion migrations then
    throw (versionMismatch toVersion (getExpectedVersion migrations))
  else return toVersion

/-- From the pending set on. -/
def applyPending (catalog : Catalog σ) (migrations : List (Migration σ))
    (options : RunMigrationsOptions) (adoptedLegacy : Bool) :
    Handler MigrationFailure (Connection σ) RunMigrationsResult := do
  let fromVersion ← asks getSchemaVersion
  let pending ← asks fun c => getPendingMigrations c migrations
  if pending.length = 0 then
    return ⟨fromVersion, fromVersion, [], adoptedLegacy, none⟩
  else
    let checkpointPath ← checkpointBefore catalog options
    let toVersion ← applyAll catalog migrations options.now pending
    return ⟨fromVersion, toVersion, pending.map Migration.id, adoptedLegacy, checkpointPath⟩

def runMigrations (catalog : Catalog σ) (migrations : List (Migration σ))
    (options : RunMigrationsOptions) :
    Handler MigrationFailure (Connection σ) RunMigrationsResult := do
  let adoptedLegacy ← prepareHistory catalog migrations options.now
  applyPending catalog migrations options adoptedLegacy

/-! ## One migration -/

/-- The migration goes through on these tables: it returns, and no foreign key dangles. -/
def Migration.Runs (catalog : Catalog σ) (m : Migration σ) (tables tables' : σ) : Prop :=
  m.up tables = (.ok (), tables') ∧ catalog.foreignKeyCheck tables' = []

/-- The connection after a migration that went through. -/
def Connection.recorded (c : Connection σ) (now : Nat → Nat) (m : Migration σ) (tables : σ) :
    Connection σ :=
  { tables := tables
    history := some (c.rows.set m.id ⟨m.name, now m.id⟩)
    foreignKeys := true
    executed := c.executed ++ [m.id] }

/-- The connection after a migration that threw. -/
def Connection.rolledBack (c : Connection σ) (m : Migration σ) : Connection σ :=
  { c with foreignKeys := true, executed := c.executed ++ [m.id] }

/-- The connection while the transaction of a migration runs. -/
def Connection.executing (c : Connection σ) (m : Migration σ) : Connection σ :=
  { c with foreignKeys := false, executed := c.executed ++ [m.id] }

/-- The body, from what `up` did. -/
theorem migrationBody_cases (catalog : Catalog σ) (now : Nat → Nat) {m : Migration σ}
    {c : Connection σ} (unrecorded : m.id ∉ c.rows.keys) :
    (∃ tables, m.Runs catalog c.tables tables ∧
      migrationBody catalog now m c =
        (.ok (), { c with
          tables := tables, history := some (c.rows.set m.id ⟨m.name, now m.id⟩) })) ∨
    (∀ tables, ¬ m.Runs catalog c.tables tables) ∧
      ∃ e c', migrationBody catalog now m c = (.error e, c') ∧
        (e.wrap m.id).migrationId = some m.id := by
  unfold migrationBody
  rw [bind_apply]
  rcases ran : m.up c.tables with ⟨message | done, tables⟩
  · refine Or.inr ⟨fun tables' runs => ?_, .error message, { c with tables := tables }, ?_, rfl⟩
    · cases ran.symm.trans runs.1
    · simp only [runUp, ran]
  · simp only [runUp, ran]
    cases violations : catalog.foreignKeyCheck tables with
    | nil =>
        refine Or.inl ⟨tables, ⟨ran, violations⟩, ?_⟩
        simp only [bind_apply, asks_apply, violations]
        exact if_neg unrecorded
    | cons row rows =>
        refine Or.inr ⟨fun tables' runs => ?_, .integrity m.id (row :: rows),
          { c with tables := tables }, ?_, rfl⟩
        · cases ran.symm.trans runs.1
          cases violations.symm.trans runs.2
        · simp only [bind_apply, asks_apply, violations]
          rfl

theorem applyMigration_apply (catalog : Catalog σ) (now : Nat → Nat) (m : Migration σ)
    (c : Connection σ) :
    applyMigration catalog now m c =
      match migrationBody catalog now m (c.executing m) with
      | (.ok _, c') => (.ok (), { c' with foreignKeys := true })
      | (.error e, _) => (.error (e.wrap m.id), c.rolledBack m) := by
  change (tryCatch (atomically (migrationBody catalog now m)) (fun err => do
    setForeignKeys true
    throw (err.wrap m.id)) >>= fun _ => setForeignKeys true) (c.executing m) = _
  rw [bind_apply]
  simp only [tryCatch, tryCatchThe, MonadExceptOf.tryCatch, atomically]
  rcases migrationBody catalog now m (c.executing m) with ⟨e | a, c'⟩ <;> rfl

theorem applyMigration_of_runs {catalog : Catalog σ} (now : Nat → Nat) {m : Migration σ}
    {c : Connection σ} {tables : σ} (unrecorded : m.id ∉ c.rows.keys)
    (runs : m.Runs catalog c.tables tables) :
    applyMigration catalog now m c = (.ok (), c.recorded now m tables) := by
  have absent : m.id ∉ (c.executing m).rows.keys := unrecorded
  rw [applyMigration_apply]
  rcases migrationBody_cases catalog now absent with ⟨tables', runs', body⟩ | ⟨fails, _⟩
  · obtain rfl : tables' = tables := congrArg Prod.snd (runs'.1.symm.trans runs.1)
    rw [body]
    rfl
  · exact absurd runs (fails tables)

/-- A migration that does not go through throws, names itself and leaves the schema. -/
theorem applyMigration_of_fails {catalog : Catalog σ} (now : Nat → Nat) {m : Migration σ}
    {c : Connection σ} (unrecorded : m.id ∉ c.rows.keys)
    (fails : ∀ tables, ¬ m.Runs catalog c.tables tables) :
    ∃ e, e.migrationId = some m.id ∧
      applyMigration catalog now m c = (.error e, c.rolledBack m) := by
  have absent : m.id ∉ (c.executing m).rows.keys := unrecorded
  rw [applyMigration_apply]
  rcases migrationBody_cases catalog now absent with ⟨tables, runs, _⟩ | ⟨_, e, c', threw, named⟩
  · exact absurd runs (fails tables)
  · exact ⟨e.wrap m.id, named, by rw [threw]⟩

/-- What a later run finds: tables and history. -/
def Connection.schema (c : Connection σ) : σ × OrderedMap Nat MigrationRecord :=
  (c.tables, c.rows)

theorem insertRecord_schema (m : Migration σ) (appliedAt : Nat) {c d : Connection σ}
    (same : c.schema = d.schema) :
    (insertRecord m appliedAt c).1 = (insertRecord m appliedAt d).1 ∧
      (insertRecord m appliedAt c).2.schema = (insertRecord m appliedAt d).2.schema := by
  obtain ⟨tables, rows⟩ : c.tables = d.tables ∧ c.rows = d.rows := Prod.ext_iff.mp same
  unfold insertRecord
  rw [rows]
  split
  · exact ⟨rfl, same⟩
  · exact ⟨rfl, Prod.ext tables rfl⟩

theorem migrationBody_schema (catalog : Catalog σ) (now : Nat → Nat) (m : Migration σ)
    {c d : Connection σ} (same : c.schema = d.schema) :
    (migrationBody catalog now m c).1 = (migrationBody catalog now m d).1 ∧
      (migrationBody catalog now m c).2.schema = (migrationBody catalog now m d).2.schema := by
  obtain ⟨tables, rows⟩ : c.tables = d.tables ∧ c.rows = d.rows := Prod.ext_iff.mp same
  unfold migrationBody
  rw [bind_apply, bind_apply, runUp, runUp, tables]
  rcases m.up d.tables with ⟨message | done, tables'⟩
  · exact ⟨rfl, Prod.ext rfl rows⟩
  · simp only [bind_apply, asks_apply]
    have later : Connection.schema { c with tables := tables' } =
        Connection.schema { d with tables := tables' } := Prod.ext rfl rows
    by_cases dangling : 0 < (catalog.foreignKeyCheck tables').length
    · simp only [if_pos dangling]
      exact ⟨rfl, later⟩
    · simp only [if_neg dangling]
      exact insertRecord_schema m (now m.id) later

/-- The outcome of a round depends on tables and history alone. -/
theorem applyMigration_schema (catalog : Catalog σ) (now : Nat → Nat) (m : Migration σ)
    (c d : Connection σ) (same : c.schema = d.schema) :
    (applyMigration catalog now m c).1 = (applyMigration catalog now m d).1 ∧
      (applyMigration catalog now m c).2.schema = (applyMigration catalog now m d).2.schema := by
  have executing : (c.executing m).schema = (d.executing m).schema := same
  obtain ⟨result, schema⟩ := migrationBody_schema catalog now m executing
  rw [applyMigration_apply, applyMigration_apply]
  rcases first : migrationBody catalog now m (c.executing m) with ⟨e | a, c'⟩ <;>
    rcases second : migrationBody catalog now m (d.executing m) with ⟨e' | a', d'⟩ <;>
    rw [first, second] at result schema
  · cases result
    exact ⟨rfl, same⟩
  · cases result
  · cases result
  · exact ⟨rfl, schema⟩

/-! ## The loop -/

/-- The migrations go through one after the other. -/
inductive Applied (catalog : Catalog σ) : List (Migration σ) → σ → σ → Prop
  | nil (tables : σ) : Applied catalog [] tables tables
  | cons {m : Migration σ} {ms : List (Migration σ)} {tables tables' tables'' : σ} :
      m.Runs catalog tables tables' → Applied catalog ms tables' tables'' →
        Applied catalog (m :: ms) tables tables''

/-- All of a list goes through, or everything before the first that does not. -/
theorem applied_or_stops (catalog : Catalog σ) (ms : List (Migration σ)) (tables : σ) :
    (∃ tables', Applied catalog ms tables tables') ∨
      ∃ done m rest tables', ms = done ++ m :: rest ∧ Applied catalog done tables tables' ∧
        ∀ tables'', ¬ m.Runs catalog tables' tables'' := by
  induction ms generalizing tables with
  | nil => exact Or.inl ⟨tables, .nil tables⟩
  | cons m ms ih =>
      by_cases runs : ∃ tables', m.Runs catalog tables tables'
      · obtain ⟨tables', runs⟩ := runs
        rcases ih tables' with ⟨last, all⟩ | ⟨done, x, rest, last, rfl, before, fails⟩
        · exact Or.inl ⟨last, .cons runs all⟩
        · exact Or.inr ⟨m :: done, x, rest, last, rfl, .cons runs before, fails⟩
      · exact Or.inr ⟨[], m, ms, tables, rfl, .nil tables, fun t here => runs ⟨t, here⟩⟩

/-- The row a migration leaves in the history. -/
def recordOf (now : Nat → Nat) (m : Migration σ) : Nat × MigrationRecord :=
  (m.id, ⟨m.name, now m.id⟩)

/-- Migrations with distinct ids, none of them recorded. -/
def Unrecorded (c : Connection σ) (ms : List (Migration σ)) : Prop :=
  (ms.map Migration.id).Nodup ∧ ∀ m ∈ ms, m.id ∉ c.rows.keys

/-- The connection after `done` went through: one row each, in order, nothing else. -/
structure Advanced (now : Nat → Nat) (c : Connection σ) (done : List (Migration σ))
    (c' : Connection σ) : Prop where
  history : c'.rows.entries = c.rows.entries ++ done.map (recordOf now)
  executed : c'.executed = c.executed ++ done.map Migration.id
  foreignKeys : c'.foreignKeys = (c.foreignKeys || !done.isEmpty)

/-- The ids in the history once `done` is recorded. -/
theorem Advanced.mem_keys {now : Nat → Nat} {c c' : Connection σ} {done : List (Migration σ)}
    (advanced : Advanced now c done c') {id : Nat} :
    id ∈ c'.rows.keys ↔ id ∈ c.rows.keys ∨ id ∈ done.map Migration.id := by
  have ids : (done.map (recordOf now)).map Prod.fst = done.map Migration.id := by
    rw [List.map_map]
    rfl
  rw [OrderedMap.keys, advanced.history, List.map_append, ids, List.mem_append]
  rfl

theorem advanced_recorded {c : Connection σ} {m : Migration σ} (now : Nat → Nat) (tables : σ)
    (unrecorded : m.id ∉ c.rows.keys) : Advanced now c [m] (c.recorded now m tables) where
  history := OrderedMap.entries_set_of_absent (OrderedMap.get_eq_none.mpr unrecorded)
  executed := rfl
  foreignKeys := (Bool.or_true _).symm

theorem advanced_nil (now : Nat → Nat) (c : Connection σ) : Advanced now c [] c where
  history := (List.append_nil _).symm
  executed := (List.append_nil _).symm
  foreignKeys := (Bool.or_false _).symm

theorem Advanced.trans {now : Nat → Nat} {c c' c'' : Connection σ} {done more : List (Migration σ)}
    (first : Advanced now c done c') (second : Advanced now c' more c'') :
    Advanced now c (done ++ more) c'' where
  history := by
    rw [second.history, first.history, List.map_append, List.append_assoc]
  executed := by
    rw [second.executed, first.executed, List.map_append, List.append_assoc]
  foreignKeys := by
    rw [second.foreignKeys, first.foreignKeys, Bool.or_assoc]
    cases done <;> rfl

theorem forM_of_applied {catalog : Catalog σ} (now : Nat → Nat) {ms : List (Migration σ)}
    {c : Connection σ} {tables : σ} (unrecorded : Unrecorded c ms)
    (applied : Applied catalog ms c.tables tables) :
    ∃ c', ms.forM (applyMigration catalog now) c = (.ok (), c') ∧ c'.tables = tables ∧
      Advanced now c ms c' := by
  induction ms generalizing c with
  | nil =>
      cases applied
      exact ⟨c, rfl, rfl, advanced_nil now c⟩
  | cons m ms ih =>
      obtain ⟨distinct, absent⟩ := unrecorded
      rw [List.map_cons, List.nodup_cons] at distinct
      cases applied with
      | cons runs rest =>
          rename_i tables'
          have here := advanced_recorded now tables' (absent m List.mem_cons_self)
          have unrecorded' : Unrecorded (c.recorded now m tables') ms := by
            refine ⟨distinct.2, fun x mem recorded => ?_⟩
            rcases here.mem_keys.mp recorded with old | new
            · exact absent x (List.mem_cons_of_mem _ mem) old
            · rw [List.map_singleton, List.mem_singleton] at new
              exact distinct.1 (List.mem_map.mpr ⟨x, mem, new⟩)
          obtain ⟨c', ran, final, later⟩ := ih unrecorded' rest
          refine ⟨c', ?_, final, here.trans later⟩
          rw [forM_cons, applyMigration_of_runs now (absent m List.mem_cons_self) runs]
          exact ran

/-- A loop that stops: everything before the failing migration, nothing of it. -/
theorem forM_of_stops {catalog : Catalog σ} (now : Nat → Nat) {done rest : List (Migration σ)}
    {m : Migration σ} {c : Connection σ} {tables : σ} (unrecorded : Unrecorded c (done ++ m :: rest))
    (applied : Applied catalog done c.tables tables)
    (fails : ∀ tables', ¬ m.Runs catalog tables tables') :
    ∃ e mid, e.migrationId = some m.id ∧ mid.tables = tables ∧ Advanced now c done mid ∧
      (done ++ m :: rest).forM (applyMigration catalog now) c = (.error e, mid.rolledBack m) := by
  obtain ⟨distinct, absent⟩ := unrecorded
  rw [List.map_append, List.nodup_append] at distinct
  obtain ⟨mid, ran, rfl, advanced⟩ := forM_of_applied now
    ⟨distinct.1, fun x mem => absent x (List.mem_append_left _ mem)⟩ applied
  have unrecorded' : m.id ∉ mid.rows.keys := by
    intro recorded
    rcases advanced.mem_keys.mp recorded with old | new
    · exact absent m (by simp) old
    · exact distinct.2.2 m.id new m.id (by simp) rfl
  obtain ⟨e, named, threw⟩ := applyMigration_of_fails now unrecorded' fails
  refine ⟨e, mid, named, rfl, advanced, ?_⟩
  rw [forM_append ran, forM_cons, threw]

/-! ## Before the loop -/

/-- The rows a run adds to: those of the history, or the stamp of the baseline on a
legacy database. -/
def startingRows (catalog : Catalog σ) (migrations : List (Migration σ)) (now : Nat → Nat)
    (start : Connection σ) : List (Nat × MigrationRecord) :=
  if isLegacyDatabase catalog start then
    (migrations.find? fun m => m.id = 1).toList.map (recordOf now)
  else start.rows.entries

/-- The connection with the history table in place. -/
def Connection.ensured (c : Connection σ) : Connection σ := { c with history := some c.rows }

theorem ensured_of_keys {c : Connection σ} {id : Nat} (recorded : id ∈ c.rows.keys) :
    c.ensured = c := by
  obtain ⟨tables, history, foreignKeys, executed⟩ := c
  cases history with
  | none => cases recorded
  | some rows => rfl

theorem isLegacy_ensured (catalog : Catalog σ) (c : Connection σ) :
    isLegacyDatabase catalog c.ensured = isLegacyDatabase catalog c := by
  obtain ⟨tables, history, foreignKeys, executed⟩ := c
  cases history <;> rfl

/-- A legacy database has app tables and no recorded migration. -/
theorem isLegacy_iff (catalog : Catalog σ) (c : Connection σ) :
    isLegacyDatabase catalog c = true ↔
      catalog.hasApp c.tables = true ∧ c.rows.entries = [] := by
  rw [← isLegacy_ensured]
  simp [isLegacyDatabase, Connection.ensured, Connection.rows, OrderedMap.size]

/-- No recorded migration is newer than the registry. -/
def Compatible (migrations : List (Migration σ)) (c : Connection σ) : Prop :=
  ∀ id ∈ c.rows.keys, id ≤ getExpectedVersion migrations

theorem le_getExpectedVersion {migrations : List (Migration σ)} {m : Migration σ}
    (mem : m ∈ migrations) : m.id ≤ getExpectedVersion migrations := by
  have listed : m.id ∈ migrations.map Migration.id := List.mem_map.mpr ⟨m, mem, rfl⟩
  cases largest : (migrations.map Migration.id).max? with
  | none =>
      rw [List.max?_eq_none_iff] at largest
      rw [largest] at listed
      cases listed
  | some version =>
      rw [getExpectedVersion, largest]
      exact (List.max?_eq_some_iff.mp largest).2 m.id listed

/-- The schema version once everything listed is recorded and nothing is newer. -/
theorem getSchemaVersion_eq_expected {migrations : List (Migration σ)} {c : Connection σ}
    (compatible : Compatible migrations c) (recorded : ∀ m ∈ migrations, m.id ∈ c.rows.keys) :
    getSchemaVersion c = getExpectedVersion migrations := by
  cases largest : (migrations.map Migration.id).max? with
  | none =>
      have zero : getExpectedVersion migrations = 0 := by rw [getExpectedVersion, largest]; rfl
      have bounded : getSchemaVersion c ≤ 0 := by
        unfold getSchemaVersion
        cases top : c.rows.keys.max? with
        | none => exact le_refl 0
        | some id => exact zero ▸ compatible id (List.max?_mem top)
      omega
  | some version =>
      have expected : getExpectedVersion migrations = version := by
        rw [getExpectedVersion, largest]; rfl
      obtain ⟨m, mem, same⟩ := List.mem_map.mp (List.max?_mem largest)
      have top : c.rows.keys.max? = some version :=
        List.max?_eq_some_iff.mpr
          ⟨same ▸ recorded m mem, fun id there => expected ▸ compatible id there⟩
      rw [expected, getSchemaVersion, top]
      rfl

theorem firstDuplicate_of_nodup {seen ids : List Nat} (distinct : ids.Nodup)
    (apart : ∀ id ∈ ids, id ∉ seen) : firstDuplicate seen ids = none := by
  induction ids generalizing seen with
  | nil => rfl
  | cons id rest ih =>
      rw [List.nodup_cons] at distinct
      rw [firstDuplicate, if_neg (apart id List.mem_cons_self)]
      refine ih distinct.2 fun x mem => ?_
      rw [List.mem_cons, not_or]
      refine ⟨fun same => distinct.1 (same ▸ mem), apart x (List.mem_cons_of_mem _ mem)⟩

theorem assertUniqueIds_of_nodup {migrations : List (Migration σ)}
    (distinct : (migrations.map Migration.id).Nodup) : assertUniqueIds migrations = .ok () := by
  rw [assertUniqueIds, firstDuplicate_of_nodup distinct fun _ _ => List.not_mem_nil]

theorem findNewer_eq_none {c : Connection σ} {migrations : List (Migration σ)} :
    findNewerThanBinary c (getExpectedVersion migrations) = none ↔ Compatible migrations c := by
  simp only [findNewerThanBinary, List.max?_eq_none_iff, List.filter_eq_nil_iff, decide_eq_true_eq,
    not_lt, Compatible]

/-- The connection the loop starts from. -/
structure Prepared (catalog : Catalog σ) (migrations : List (Migration σ)) (now : Nat → Nat)
    (start c : Connection σ) : Prop where
  tables : c.tables = start.tables
  history : c.rows.entries = startingRows catalog migrations now start
  executed : c.executed = start.executed
  foreignKeys : c.foreignKeys = start.foreignKeys
  compatible : Compatible migrations c
  settled : isLegacyDatabase catalog c = false

theorem adoptIfLegacy_of_not_legacy {catalog : Catalog σ} (migrations : List (Migration σ))
    (now : Nat → Nat) {c : Connection σ} (plain : isLegacyDatabase catalog c = false) :
    adoptIfLegacy catalog migrations now c = (.ok false, c) := by
  rw [adoptIfLegacy, bind_apply, asks_apply, plain]
  rfl

theorem adoptIfLegacy_of_legacy {catalog : Catalog σ} (migrations : List (Migration σ))
    (now : Nat → Nat) {c : Connection σ} (legacy : isLegacyDatabase catalog c = true) :
    adoptIfLegacy catalog migrations now c =
      match migrations.find? fun m => m.id = 1 with
      | none => (.error noBaseline, c)
      | some m =>
          (.ok true, { c with history := some (c.rows.set m.id ⟨m.name, now m.id⟩) }) := by
  have absent : ∀ m : Migration σ, m.id ∉ c.ensured.rows.keys := by
    intro m
    have empty : c.ensured.rows.entries = [] := ((isLegacy_iff catalog c).mp legacy).2
    rw [OrderedMap.keys, empty]
    exact List.not_mem_nil
  rw [adoptIfLegacy, bind_apply, asks_apply, legacy]
  cases migrations.find? fun m => m.id = 1 with
  | none => rfl
  | some m =>
      change (insertRecord m (now m.id) >>= fun _ => pure true) c.ensured = _
      rw [bind_apply, insertRecord, if_neg (absent m)]
      rfl

theorem prepareHistory_apply (catalog : Catalog σ) {migrations : List (Migration σ)}
    (now : Nat → Nat) (start : Connection σ)
    (distinct : (migrations.map Migration.id).Nodup) :
    prepareHistory catalog migrations now start =
      match findNewerThanBinary start (getExpectedVersion migrations) with
      | some _ =>
          (.error (.newer (getSchemaVersion start) (getExpectedVersion migrations)), start.ensured)
      | none => adoptIfLegacy catalog migrations now start.ensured := by
  rw [prepareHistory, assertUniqueIds_of_nodup distinct]
  simp only [bind_apply, check, ensureMigrationHistory, asks_apply, modify_apply]
  change (match findNewerThanBinary start (getExpectedVersion migrations) with
    | some _ => _
    | none => _ : Handler MigrationFailure (Connection σ) Bool) start.ensured = _
  cases findNewerThanBinary start (getExpectedVersion migrations) <;> rfl

/-- Refused as newer and untouched, refused without a baseline, or prepared. -/
theorem prepareHistory_cases (catalog : Catalog σ) {migrations : List (Migration σ)}
    (now : Nat → Nat) (start : Connection σ)
    (distinct : (migrations.map Migration.id).Nodup) :
    (¬ Compatible migrations start ∧ prepareHistory catalog migrations now start =
      (.error (.newer (getSchemaVersion start) (getExpectedVersion migrations)), start)) ∨
    (Compatible migrations start ∧ isLegacyDatabase catalog start = true ∧
      (migrations.find? fun m => m.id = 1) = none ∧
      prepareHistory catalog migrations now start = (.error noBaseline, start.ensured)) ∨
    (Compatible migrations start ∧
      (isLegacyDatabase catalog start = true → (migrations.find? fun m => m.id = 1) ≠ none) ∧
      ∃ adopted c, prepareHistory catalog migrations now start = (.ok adopted, c) ∧
        Prepared catalog migrations now start c) := by
  rw [prepareHistory_apply catalog now start distinct]
  cases newer : findNewerThanBinary start (getExpectedVersion migrations) with
  | some id =>
      have recorded : id ∈ start.rows.keys := List.mem_of_mem_filter (List.max?_mem newer)
      refine Or.inl ⟨fun compatible => ?_, by rw [ensured_of_keys recorded]⟩
      rw [findNewer_eq_none.mpr compatible] at newer
      cases newer
  | none =>
      have compatible := findNewer_eq_none.mp newer
      refine Or.inr ?_
      cases legacy : isLegacyDatabase catalog start with
      | false =>
          have settled := (isLegacy_ensured catalog start).trans legacy
          refine Or.inr ⟨compatible, fun again => absurd again Bool.false_ne_true, false,
            start.ensured, ?_, rfl, ?_, rfl, rfl, compatible, settled⟩
          · exact adoptIfLegacy_of_not_legacy migrations now settled
          · rw [startingRows, legacy]
            rfl
      | true =>
          have empty : start.rows.entries = [] := ((isLegacy_iff catalog start).mp legacy).2
          rw [adoptIfLegacy_of_legacy migrations now
            ((isLegacy_ensured catalog start).trans legacy)]
          cases baseline : migrations.find? fun m => m.id = 1 with
          | none => exact Or.inl ⟨compatible, rfl, rfl, rfl⟩
          | some m =>
              have stamped : (start.ensured.rows.set m.id ⟨m.name, now m.id⟩).entries =
                  [recordOf now m] := by
                rw [OrderedMap.entries_set_of_absent]
                · change start.rows.entries ++ _ = _
                  rw [empty]
                  rfl
                · rw [OrderedMap.get_eq_none]
                  change m.id ∉ start.rows.entries.map Prod.fst
                  rw [empty]
                  exact List.not_mem_nil
              refine Or.inr ⟨compatible, fun _ => Option.some_ne_none m, true, _, rfl, rfl, ?_, rfl,
                rfl, ?_, ?_⟩
              · rw [startingRows, legacy, baseline]
                exact stamped
              · intro id recorded
                change id ∈ (start.ensured.rows.set m.id ⟨m.name, now m.id⟩).entries.map _ at recorded
                rw [stamped, List.map_singleton, List.mem_singleton] at recorded
                rw [recorded]
                exact le_getExpectedVersion (List.mem_of_find?_eq_some baseline)
              · rw [Bool.eq_false_iff]
                intro again
                have none_left := ((isLegacy_iff catalog _).mp again).2
                cases stamped.symm.trans none_left

/-! ## From the pending set on -/

theorem mem_getPendingMigrations {c : Connection σ} {migrations : List (Migration σ)}
    {m : Migration σ} :
    m ∈ getPendingMigrations c migrations ↔ m ∈ migrations ∧ m.id ∉ c.rows.keys := by
  rw [getPendingMigrations, (byAge_perm _).mem_iff, List.mem_filter, decide_eq_true_eq]

/-- Some of the listed migrations, sorted: ascending without repetition. -/
theorem sorted_ascending (keep : Migration σ → Bool) {migrations : List (Migration σ)}
    (distinct : (migrations.map Migration.id).Nodup) :
    ((byAge Migration.id (migrations.filter keep)).map Migration.id).Pairwise (· < ·) := by
  have ordered : ((byAge Migration.id (migrations.filter keep)).map Migration.id).Pairwise (· ≤ ·) :=
    List.pairwise_map.mpr (pairwise_byAge _)
  have perm : ((byAge Migration.id (migrations.filter keep)).map Migration.id).Perm
      ((migrations.filter keep).map Migration.id) := (byAge_perm _).map Migration.id
  have nodup := perm.nodup_iff.mpr (distinct.sublist (List.Sublist.map _ List.filter_sublist))
  refine (ordered.and nodup).imp ?_
  intro a b both
  exact lt_of_le_of_ne both.1 both.2

theorem unrecorded_pending {c : Connection σ} {migrations : List (Migration σ)}
    (distinct : (migrations.map Migration.id).Nodup) :
    Unrecorded c (getPendingMigrations c migrations) :=
  ⟨(sorted_ascending _ distinct).imp fun lt => ne_of_lt lt,
    fun _ mem => (mem_getPendingMigrations.mp mem).2⟩

theorem createSafetyCheckpoint_cases (options : RunMigrationsOptions) (dbPath : String) :
    (∃ dest, createSafetyCheckpoint options dbPath = .ok dest) ∨
      ∃ dest cause, options.checkpointFault = some cause ∧
        createSafetyCheckpoint options dbPath = .error (.checkpoint dest cause) := by
  unfold createSafetyCheckpoint
  cases options.checkpointFault with
  | none => exact Or.inl ⟨_, rfl⟩
  | some cause => exact Or.inr ⟨_, cause, rfl, rfl⟩

theorem checkpointBefore_cases (catalog : Catalog σ) (options : RunMigrationsOptions)
    (c : Connection σ) :
    (∃ path, checkpointBefore catalog options c = (.ok path, c)) ∨
      ∃ dest cause, options.checkpointFault = some cause ∧
        checkpointBefore catalog options c = (.error (.checkpoint dest cause), c) := by
  rw [checkpointBefore, bind_apply, asks_apply]
  cases options.dbPath with
  | none => exact Or.inl ⟨none, rfl⟩
  | some dbPath =>
      simp only []
      split
      · rcases createSafetyCheckpoint_cases options dbPath with ⟨dest, made⟩ | ⟨dest, cause, fault, made⟩
        · exact Or.inl ⟨some dest, by rw [made]; rfl⟩
        · exact Or.inr ⟨dest, cause, fault, by rw [made]; rfl⟩
      · exact Or.inl ⟨none, rfl⟩

/-- Once the pending ones are recorded, everything listed is. -/
theorem Advanced.all_recorded {now : Nat → Nat} {c c' : Connection σ}
    {migrations : List (Migration σ)}
    (advanced : Advanced now c (getPendingMigrations c migrations) c') {m : Migration σ}
    (mem : m ∈ migrations) : m.id ∈ c'.rows.keys := by
  rw [advanced.mem_keys]
  by_cases recorded : m.id ∈ c.rows.keys
  · exact Or.inl recorded
  · exact Or.inr (List.mem_map.mpr ⟨m, mem_getPendingMigrations.mpr ⟨mem, recorded⟩, rfl⟩)

/-- Recording listed migrations makes no database too new. -/
theorem Compatible.advanced {now : Nat → Nat} {c c' : Connection σ}
    {migrations done : List (Migration σ)} (compatible : Compatible migrations c)
    (listed : ∀ m ∈ done, m ∈ migrations) (advanced : Advanced now c done c') :
    Compatible migrations c' := by
  intro id recorded
  rcases advanced.mem_keys.mp recorded with old | new
  · exact compatible id old
  · obtain ⟨m, mem, rfl⟩ := List.mem_map.mp new
    exact le_getExpectedVersion (listed m mem)

theorem applyAll_apply {catalog : Catalog σ} {migrations pending : List (Migration σ)}
    {now : Nat → Nat} {c c' : Connection σ}
    (ran : pending.forM (applyMigration catalog now) c = (.ok (), c')) :
    applyAll catalog migrations now pending c =
      if getSchemaVersion c' ≠ getExpectedVersion migrations then
        (.error (versionMismatch (getSchemaVersion c') (getExpectedVersion migrations)), c')
      else (.ok (getSchemaVersion c'), c') := by
  rw [applyAll, bind_apply, ran]
  simp only [bind_apply, asks_apply]
  split <;> rfl

/-- A run that needs no checkpoint, or whose checkpoint is made. -/
theorem applyPending_apply {catalog : Catalog σ} {migrations : List (Migration σ)}
    {options : RunMigrationsOptions} (adopted : Bool) {c : Connection σ} {path : Option String}
    (some_pending : getPendingMigrations c migrations ≠ [])
    (made : checkpointBefore catalog options c = (.ok path, c)) :
    applyPending catalog migrations options adopted c =
      match applyAll catalog migrations options.now (getPendingMigrations c migrations) c with
      | (.ok toVersion, c') => (.ok ⟨getSchemaVersion c, toVersion,
          (getPendingMigrations c migrations).map Migration.id, adopted, path⟩, c')
      | (.error e, c') => (.error e, c') := by
  have count : (getPendingMigrations c migrations).length ≠ 0 := by
    rw [Ne, List.length_eq_zero_iff]
    exact some_pending
  rw [applyPending, bind_apply, asks_apply]
  simp only [bind_apply, asks_apply, if_neg count, made]
  rcases applyAll catalog migrations options.now (getPendingMigrations c migrations) c with
    ⟨e | toVersion, c'⟩ <;> rfl

/-- The checkpoint throws, the loop stops at a migration, or everything is applied. -/
theorem applyPending_cases (catalog : Catalog σ) {migrations : List (Migration σ)}
    (options : RunMigrationsOptions) (adopted : Bool) {c : Connection σ}
    (distinct : (migrations.map Migration.id).Nodup) (compatible : Compatible migrations c) :
    (∃ dest cause, options.checkpointFault = some cause ∧
      getPendingMigrations c migrations ≠ [] ∧
      applyPending catalog migrations options adopted c = (.error (.checkpoint dest cause), c)) ∨
    (∃ done m rest e mid, getPendingMigrations c migrations = done ++ m :: rest ∧
      Applied catalog done c.tables mid.tables ∧
      (∀ tables, ¬ m.Runs catalog mid.tables tables) ∧ e.migrationId = some m.id ∧
      Advanced options.now c done mid ∧
      applyPending catalog migrations options adopted c = (.error e, mid.rolledBack m)) ∨
    ∃ result c', Applied catalog (getPendingMigrations c migrations) c.tables c'.tables ∧
      Advanced options.now c (getPendingMigrations c migrations) c' ∧
      getSchemaVersion c' = getExpectedVersion migrations ∧
      result.toVersion = getSchemaVersion c' ∧
      result.applied = (getPendingMigrations c migrations).map Migration.id ∧
      applyPending catalog migrations options adopted c = (.ok result, c') := by
  have listed : ∀ m ∈ getPendingMigrations c migrations, m ∈ migrations :=
    fun m mem => (mem_getPendingMigrations.mp mem).1
  by_cases nothing : getPendingMigrations c migrations = []
  · have idle : Advanced options.now c (getPendingMigrations c migrations) c := by
      rw [nothing]
      exact advanced_nil options.now c
    refine Or.inr (Or.inr ⟨⟨getSchemaVersion c, getSchemaVersion c, [], adopted, none⟩, c, ?_, idle,
      getSchemaVersion_eq_expected compatible fun m mem => idle.all_recorded mem, rfl, ?_, ?_⟩)
    · rw [nothing]
      exact .nil _
    · rw [nothing]
      rfl
    · rw [applyPending, bind_apply, asks_apply]
      simp only [bind_apply, asks_apply, nothing]
      rfl
  · rcases checkpointBefore_cases catalog options c with ⟨path, made⟩ | ⟨dest, cause, fault, threw⟩
    · rw [applyPending_apply adopted nothing made]
      have unrecorded := unrecorded_pending (c := c) distinct
      refine Or.inr ?_
      rcases applied_or_stops catalog (getPendingMigrations c migrations) c.tables with
        ⟨tables, applied⟩ | ⟨done, m, rest, tables, split, applied, fails⟩
      · obtain ⟨c', ran, rfl, advanced⟩ := forM_of_applied options.now unrecorded applied
        have version := getSchemaVersion_eq_expected (compatible.advanced listed advanced)
          fun m mem => advanced.all_recorded mem
        refine Or.inr ⟨⟨getSchemaVersion c, getSchemaVersion c',
          (getPendingMigrations c migrations).map Migration.id, adopted, path⟩, c', applied,
          advanced, version, rfl, rfl, ?_⟩
        rw [applyAll_apply ran, if_neg (not_not.mpr version)]
      · rw [split] at unrecorded
        obtain ⟨e, mid, named, rfl, advanced, threw⟩ :=
          forM_of_stops options.now unrecorded applied fails
        refine Or.inl ⟨done, m, rest, e, mid, split, applied, fails, named, advanced, ?_⟩
        rw [applyAll, bind_apply, split, threw]
    · refine Or.inl ⟨dest, cause, fault, nothing, ?_⟩
      have count : (getPendingMigrations c migrations).length ≠ 0 := by
        rw [Ne, List.length_eq_zero_iff]
        exact nothing
      rw [applyPending, bind_apply, asks_apply]
      simp only [bind_apply, asks_apply, if_neg count, threw]

/-! ## What a run leaves -/

/-- The migrations a run has to apply, ascending. -/
def pendingAtStart (catalog : Catalog σ) (migrations : List (Migration σ)) (now : Nat → Nat)
    (start : Connection σ) : List (Migration σ) :=
  byAge Migration.id (migrations.filter fun m =>
    m.id ∉ (startingRows catalog migrations now start).map Prod.fst)

theorem Prepared.pending {catalog : Catalog σ} {migrations : List (Migration σ)} {now : Nat → Nat}
    {start c : Connection σ} (prepared : Prepared catalog migrations now start c) :
    getPendingMigrations c migrations = pendingAtStart catalog migrations now start := by
  rw [getPendingMigrations, OrderedMap.keys, prepared.history]
  rfl

/-- A run that returned: one row for each pending migration, ascending, after the rows
there were; everything listed is recorded once and the version is the expected one. -/
structure Migrated (catalog : Catalog σ) (migrations : List (Migration σ)) (now : Nat → Nat)
    (start : Connection σ) (result : RunMigrationsResult) (final : Connection σ) : Prop where
  history : final.rows.entries = startingRows catalog migrations now start ++
    (pendingAtStart catalog migrations now start).map (recordOf now)
  ascending : ((pendingAtStart catalog migrations now start).map Migration.id).Pairwise (· < ·)
  recordedOnce : ∀ m ∈ migrations, final.rows.keys.count m.id = 1
  version : getSchemaVersion final = getExpectedVersion migrations
  toVersion : result.toVersion = getExpectedVersion migrations
  applied : result.applied = (pendingAtStart catalog migrations now start).map Migration.id
  effects : Applied catalog (pendingAtStart catalog migrations now start) start.tables final.tables
  executed : final.executed =
    start.executed ++ (pendingAtStart catalog migrations now start).map Migration.id
  foreignKeys : start.foreignKeys = true → final.foreignKeys = true

/-- A run that threw: a first part of the pending migrations is recorded and in the
tables, and nothing else.  A failure that names a migration names the next one, which
does not go through on these tables and was rolled back; any other failure comes
before the first. -/
structure Halted (catalog : Catalog σ) (migrations : List (Migration σ)) (now : Nat → Nat)
    (start : Connection σ) (e : MigrationFailure) (done rest : List (Migration σ))
    (final : Connection σ) : Prop where
  split : pendingAtStart catalog migrations now start = done ++ rest
  ascending : ((pendingAtStart catalog migrations now start).map Migration.id).Pairwise (· < ·)
  history : final.rows.entries =
    startingRows catalog migrations now start ++ done.map (recordOf now)
  effects : Applied catalog done start.tables final.tables
  failing : ∀ id, e.migrationId = some id → ∃ m, rest.head? = some m ∧ m.id = id ∧
    ∀ tables, ¬ m.Runs catalog final.tables tables
  before : e.migrationId = none → done = []
  executed : final.executed = start.executed ++ done.map Migration.id ++ e.migrationId.toList
  foreignKeys : start.foreignKeys = true ∨ e.migrationId.isSome → final.foreignKeys = true

/-- A database newer than the registry is refused as it is. -/
theorem runMigrations_of_newer {catalog : Catalog σ} {migrations : List (Migration σ)}
    (options : RunMigrationsOptions) {start : Connection σ}
    (distinct : (migrations.map Migration.id).Nodup) (newer : ¬ Compatible migrations start) :
    runMigrations catalog migrations options start =
      (.error (.newer (getSchemaVersion start) (getExpectedVersion migrations)), start) := by
  rcases prepareHistory_cases catalog options.now start distinct with
    ⟨_, refused⟩ | ⟨compatible, _⟩ | ⟨compatible, _⟩
  · rw [runMigrations, bind_apply, refused]
  · exact absurd compatible newer
  · exact absurd compatible newer

theorem runMigrations_of_noBaseline {catalog : Catalog σ} {migrations : List (Migration σ)}
    (options : RunMigrationsOptions) {start : Connection σ}
    (distinct : (migrations.map Migration.id).Nodup) (compatible : Compatible migrations start)
    (legacy : isLegacyDatabase catalog start = true)
    (absent : (migrations.find? fun m => m.id = 1) = none) :
    runMigrations catalog migrations options start = (.error noBaseline, start.ensured) := by
  rcases prepareHistory_cases catalog options.now start distinct with
    ⟨newer, _⟩ | ⟨_, _, _, refused⟩ | ⟨_, baselined, _⟩
  · exact absurd compatible newer
  · rw [runMigrations, bind_apply, refused]
  · exact absurd absent (baselined legacy)

theorem runMigrations_of_prepared {catalog : Catalog σ} {migrations : List (Migration σ)}
    {options : RunMigrationsOptions} {start c : Connection σ} {adopted : Bool}
    (prepared : prepareHistory catalog migrations options.now start = (.ok adopted, c)) :
    runMigrations catalog migrations options start =
      applyPending catalog migrations options adopted c := by
  rw [runMigrations, bind_apply, prepared]

/-- A database with a recorded migration is no legacy database. -/
theorem startingRows_of_recorded (catalog : Catalog σ) (migrations : List (Migration σ))
    (now : Nat → Nat) {start : Connection σ} {id : Nat} (recorded : id ∈ start.rows.keys) :
    startingRows catalog migrations now start = start.rows.entries := by
  refine if_neg fun legacy => ?_
  rw [OrderedMap.keys, ((isLegacy_iff catalog start).mp legacy).2] at recorded
  cases recorded

theorem runMigrations_migrated {catalog : Catalog σ} {migrations : List (Migration σ)}
    {options : RunMigrationsOptions} {start final : Connection σ} {result : RunMigrationsResult}
    (distinct : (migrations.map Migration.id).Nodup)
    (returned : runMigrations catalog migrations options start = (.ok result, final)) :
    Migrated catalog migrations options.now start result final := by
  rcases prepareHistory_cases catalog options.now start distinct with
    ⟨_, refused⟩ | ⟨_, _, _, refused⟩ | ⟨_, _, adopted, c, prepared, spec⟩
  · rw [runMigrations, bind_apply, refused] at returned
    cases returned
  · rw [runMigrations, bind_apply, refused] at returned
    cases returned
  · rw [runMigrations_of_prepared prepared] at returned
    rcases applyPending_cases catalog options adopted distinct spec.compatible with
      ⟨_, _, _, _, threw⟩ | ⟨_, _, _, _, _, _, _, _, _, _, threw⟩ |
      ⟨result', c', applied, advanced, version, toVersion, ids, done⟩
    · rw [threw] at returned
      cases returned
    · rw [threw] at returned
      cases returned
    · rw [done] at returned
      cases returned
      rw [spec.pending] at applied advanced ids
      rw [spec.tables] at applied
      refine
        { history := by rw [advanced.history, spec.history]
          ascending := sorted_ascending _ distinct
          recordedOnce := fun m mem => ?_
          version := version
          toVersion := toVersion.trans version
          applied := ids
          effects := applied
          executed := by rw [advanced.executed, spec.executed]
          foreignKeys := fun on => by rw [advanced.foreignKeys, spec.foreignKeys, on]; rfl }
      rw [← spec.pending] at advanced
      exact List.count_eq_one_of_mem final.rows.nodup (advanced.all_recorded mem)

theorem runMigrations_halted {catalog : Catalog σ} {migrations : List (Migration σ)}
    {options : RunMigrationsOptions} {start final : Connection σ} {e : MigrationFailure}
    (distinct : (migrations.map Migration.id).Nodup)
    (threw : runMigrations catalog migrations options start = (.error e, final)) :
    ∃ done rest, Halted catalog migrations options.now start e done rest final := by
  -- a refusal, whose database has the rows the run would have added to
  have refusal : ∀ {e : MigrationFailure} {final : Connection σ}, e.migrationId = none →
      final.tables = start.tables → final.executed = start.executed →
      final.foreignKeys = start.foreignKeys →
      final.rows.entries = startingRows catalog migrations options.now start →
      ∃ done rest, Halted catalog migrations options.now start e done rest final := by
    intro e final unnamed tables executed foreignKeys rows
    refine ⟨[], pendingAtStart catalog migrations options.now start, rfl,
      sorted_ascending _ distinct, ?_, ?_, ?_, fun _ => rfl, ?_, ?_⟩
    · rw [rows]
      exact (List.append_nil _).symm
    · rw [tables]
      exact .nil _
    · intro id named
      cases unnamed.symm.trans named
    · rw [executed, unnamed]
      simp
    · rw [foreignKeys, unnamed]
      rintro (on | named)
      · exact on
      · cases named
  rcases prepareHistory_cases catalog options.now start distinct with
    ⟨newer, refused⟩ | ⟨_, legacy, baseline, refused⟩ | ⟨_, _, adopted, c, prepared, spec⟩
  · rw [runMigrations, bind_apply, refused] at threw
    cases threw
    simp only [Compatible, not_forall] at newer
    obtain ⟨id, recorded, _⟩ := newer
    exact refusal rfl rfl rfl rfl
      (startingRows_of_recorded catalog migrations options.now recorded).symm
  · rw [runMigrations, bind_apply, refused] at threw
    cases threw
    refine refusal rfl rfl rfl rfl ?_
    rw [startingRows, if_pos legacy, baseline]
    exact ((isLegacy_iff catalog start).mp legacy).2
  · rw [runMigrations_of_prepared prepared] at threw
    rcases applyPending_cases catalog options adopted distinct spec.compatible with
      ⟨_, _, _, _, stopped⟩ | ⟨done, m, rest, e', mid, split, applied, fails, named, advanced,
        stopped⟩ | ⟨_, _, _, _, _, _, _, returned⟩
    · rw [stopped] at threw
      cases threw
      exact refusal rfl spec.tables spec.executed spec.foreignKeys spec.history
    · rw [stopped] at threw
      cases threw
      rw [spec.pending] at split
      rw [spec.tables] at applied
      refine ⟨done, m :: rest, split, sorted_ascending _ distinct, ?_, applied, ?_, ?_, ?_,
        fun _ => rfl⟩
      · exact advanced.history.trans (by rw [spec.history])
      · intro id same
        exact ⟨m, rfl, Option.some.inj (named.symm.trans same), fails⟩
      · intro unnamed
        cases named.symm.trans unnamed
      · rw [named, ← spec.executed, ← advanced.executed]
        rfl
    · rw [returned] at threw
      cases threw

end Aeolus.Db
