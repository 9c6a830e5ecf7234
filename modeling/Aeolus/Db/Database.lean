/-
# Aeolus.Db.Database — the authored configuration tables and their constraints

The tables of `src/db/database.ts` (and migrations 001 to 020) that hold the dashboard
layout and the automations, and the SQL statements the request handlers run on them.
Foreign keys are on (`foreign_keys = ON`), so a deletion also runs the actions that
other tables declare on the deleted rows.

What `better-sqlite3` and SQLite make of one bound argument is a parameter, `Driver`:
it converts or refuses the value, by the affinity of the column.  A TEXT column then
holds text or NULL, whatever was bound.  NOT NULL, PRIMARY KEY and foreign key checks
are the schema's, and are here.

A column of JSON text (`config`, `action_params`) is modelled by the value it was
written from: every writer goes through `JSON.stringify`.
-/
import Aeolus.Core.Json
import Aeolus.Theory.Transaction

namespace Aeolus.Db

open Aeolus.Core Aeolus.Theory

/-! ## Exceptions -/

/-- One diagnostic of a failed compilation. -/
structure ProjectCompileError where
  path : Option String
  line : Nat
  column : Nat
  message : String
  deriving DecidableEq

/-- What a statement or a handler throws. -/
inductive Failure where
  /-- an `AppError`; `details` are the diagnostics of a compilation error -/
  | app (statusCode : Nat) (message : String) (details : List ProjectCompileError)
  /-- a `ZodError`: the body or the parameters do not fit their schema -/
  | zod
  /-- anything else: a `SqliteError`, a `TypeError`, … -/
  | unexpected (message : String)
  deriving DecidableEq

namespace Failure

def NotFoundError (message : String) : Failure := .app 404 message []
def BadRequestError (message : String) : Failure := .app 400 message []
def UnauthorizedError : Failure := .app 401 "Unauthorized" []
def ForbiddenError : Failure := .app 403 "Forbidden" []
def ConflictError (message : String) : Failure := .app 409 message []
def PreconditionRequiredError : Failure := .app 428 "If-Match revision is required" []
def BrokerNotConfirmedError (message : String) : Failure := .app 503 message []

end Failure

/-! ## Rows -/

/-- A value of an INTEGER column: SQLite keeps text and fractions it cannot convert. -/
inductive Datum where
  | integer (value : Int)
  | real (value : ℚ)
  | text (value : String)
  deriving DecidableEq

/-- One bound argument as the column stores it; `none` is NULL.  An argument is a
JSON value or `undefined`. -/
structure Driver where
  text : Option Json → Except Failure (Option String)
  integer : Option Json → Except Failure (Option Datum)

/-- A row of `tabs`.  A TEXT PRIMARY KEY of SQLite admits NULL. -/
structure TabRow where
  id : Option String
  name : String
  icon : String
  order : Datum
  pinned : Bool
  createdAt : Datum
  deriving DecidableEq

structure PaneRow where
  id : Option String
  tabId : String
  paneType : String
  config : Json
  x : Datum
  y : Datum
  w : Datum
  h : Datum
  createdAt : Datum

inductive RuleType where
  | form
  | script
  deriving DecidableEq

/-- A row of `automation_rules`; its `id` is the key it is stored under. -/
structure StoredRule where
  name : String
  triggerTopic : String
  conditionType : Option String
  conditionValue : Option String
  actionType : String
  actionTarget : String
  actionParams : Json
  ruleType : RuleType
  scriptSource : Option String
  compiledJs : Option String
  structuredMetadata : Option String
  uiSource : Option String
  compiledUi : Option String
  triggerType : Option String
  cronExpression : Option String
  authoredUnrestricted : Bool
  ownerTabId : Option String
  enabled : Bool
  createdAt : Nat
  revision : Nat

/-- A row of `automation_projects`, under its `automation_id`. -/
structure ProjectRow where
  logicEntry : String
  uiEntry : Option String
  createdAt : Nat
  updatedAt : Nat

/-- A row of `automation_project_files`, under its `(automation_id, path)`. -/
structure ProjectFileRow where
  content : String
  createdAt : Nat
  updatedAt : Nat

structure Database where
  /-- `revision` of the only row of `layout_metadata` -/
  layoutRevision : Nat
  tabs : List TabRow
  panes : List PaneRow
  automationRules : OrderedMap String StoredRule
  automationProjects : OrderedMap String ProjectRow
  automationProjectFiles : OrderedMap (String × String) ProjectFileRow
  /-- `(automation_id, tab_id)` -/
  automationTabAssignments : List (String × String)
  /-- `(collection_name, tab_id)` -/
  collectionTabAssignments : List (String × String)

namespace Database

/-- After the migrations, before any request. -/
def empty : Database where
  layoutRevision := 1
  tabs := []
  panes := []
  automationRules := .empty
  automationProjects := .empty
  automationProjectFiles := .empty
  automationTabAssignments := []
  collectionTabAssignments := []

/-- Is `tabId` a key of `tabs`? -/
def hasTab (db : Database) (tabId : String) : Bool :=
  (db.tabs.map TabRow.id).contains (some tabId)

/-- `queryRuleById` -/
def queryRuleById (db : Database) (id : String) : Option StoredRule := db.automationRules.get id

end Database

/-! ## Statements -/

abbrev Statement (α : Type) := Handler Failure Database α

/-- A NOT NULL column. -/
def notNull {α : Type} (column : String) : Option α → Except Failure α
  | some value => .ok value
  | none => .error (.unexpected s!"NOT NULL constraint failed: {column}")

def foreignKeyFailed : Failure := .unexpected "FOREIGN KEY constraint failed"

/-- `result.changes !== 1` -/
def requireOneChange (changes : Nat) (failure : Failure) : Statement Unit :=
  if changes = 1 then pure () else throw failure

/-- `UPDATE layout_metadata SET revision = revision + 1 WHERE singleton = 1 AND revision = ?`;
the number of rows changed. -/
def advanceLayoutRevision (expected : Nat) : Statement Nat := fun db =>
  if db.layoutRevision = expected then
    (.ok 1, { db with layoutRevision := db.layoutRevision + 1 })
  else (.ok 0, db)

/-- `DELETE FROM panes` -/
def deletePanes : Statement Unit := .modify fun db => { db with panes := [] }

/-- `DELETE FROM tabs`, with the foreign key actions on every deleted key: panes and
assignments go with their tab, and an automation's `owner_tab_id` becomes NULL. -/
def deleteTabs : Statement Unit := .modify fun db =>
  { db with
    tabs := []
    panes := db.panes.filter fun pane => !db.hasTab pane.tabId
    automationRules := db.automationRules.map fun rule =>
      { rule with ownerTabId := rule.ownerTabId.filter fun tabId => !db.hasTab tabId }
    automationTabAssignments := db.automationTabAssignments.filter fun row => !db.hasTab row.2
    collectionTabAssignments := db.collectionTabAssignments.filter fun row => !db.hasTab row.2 }

/-- `INSERT INTO tabs …` -/
def insertTab (row : TabRow) : Statement Unit := fun db =>
  if row.id.isSome ∧ row.id ∈ db.tabs.map TabRow.id then
    (.error (.unexpected "UNIQUE constraint failed: tabs.id"), db)
  else (.ok (), { db with tabs := db.tabs ++ [row] })

/-- `INSERT INTO panes …` -/
def insertPane (row : PaneRow) : Statement Unit := fun db =>
  if row.id.isSome ∧ row.id ∈ db.panes.map PaneRow.id then
    (.error (.unexpected "UNIQUE constraint failed: panes.id"), db)
  else if !db.hasTab row.tabId then (.error foreignKeyFailed, db)
  else (.ok (), { db with panes := db.panes ++ [row] })

/-- `DELETE FROM automation_tab_assignments` -/
def deleteAutomationTabAssignments : Statement Unit :=
  .modify fun db => { db with automationTabAssignments := [] }

/-- `DELETE FROM collection_tab_assignments` -/
def deleteCollectionTabAssignments : Statement Unit :=
  .modify fun db => { db with collectionTabAssignments := [] }

/-- `INSERT OR IGNORE INTO automation_tab_assignments …`.  OR IGNORE skips a NULL and a
row that is there; it does not skip a foreign key. -/
def insertAutomationTabAssignment (automationId : String) (tabId : Option String) :
    Statement Unit := fun db =>
  match tabId with
  | none => (.ok (), db)
  | some tabId =>
    if (automationId, tabId) ∈ db.automationTabAssignments then (.ok (), db)
    else if !db.automationRules.has automationId || !db.hasTab tabId then
      (.error foreignKeyFailed, db)
    else
      let rows := db.automationTabAssignments ++ [(automationId, tabId)]
      (.ok (), { db with automationTabAssignments := rows })

/-- `INSERT OR IGNORE INTO collection_tab_assignments …`; a collection name has no
foreign key. -/
def insertCollectionTabAssignment (collectionName : String) (tabId : Option String) :
    Statement Unit := fun db =>
  match tabId with
  | none => (.ok (), db)
  | some tabId =>
    if (collectionName, tabId) ∈ db.collectionTabAssignments then (.ok (), db)
    else if !db.hasTab tabId then (.error foreignKeyFailed, db)
    else
      let rows := db.collectionTabAssignments ++ [(collectionName, tabId)]
      (.ok (), { db with collectionTabAssignments := rows })

/-- `INSERT INTO automation_rules …` -/
def insertRule (id : String) (row : StoredRule) : Statement Unit := fun db =>
  if db.automationRules.has id then
    (.error (.unexpected "UNIQUE constraint failed: automation_rules.id"), db)
  else if row.ownerTabId.any fun tabId => !db.hasTab tabId then (.error foreignKeyFailed, db)
  else (.ok (), { db with automationRules := db.automationRules.set id row })

/-- `UPDATE automation_rules SET …, revision = revision + 1 WHERE id = ? AND revision = ?`;
the number of rows changed. -/
def updateRule (id : String) (expected : Nat) (assign : StoredRule → StoredRule) :
    Statement Nat := fun db =>
  match db.automationRules.get id with
  | none => (.ok 0, db)
  | some row =>
    if row.revision = expected then
      let row' := { assign row with revision := row.revision + 1 }
      (.ok 1, { db with automationRules := db.automationRules.set id row' })
    else (.ok 0, db)

/-- `UPDATE automation_rules SET enabled = ? WHERE id = ?` -/
def setRuleEnabled (id : String) (enabled : Bool) : Statement Unit := fun db =>
  match db.automationRules.get id with
  | none => (.ok (), db)
  | some row =>
    (.ok (), { db with automationRules := db.automationRules.set id { row with enabled } })

/-- The rows of a map whose key belongs to another rule. -/
def filesOfOthers (id : String) (files : OrderedMap (String × String) ProjectFileRow) :
    OrderedMap (String × String) ProjectFileRow where
  entries := files.entries.filter fun entry => entry.1.1 ≠ id
  nodup := files.nodup.sublist (List.filter_sublist.map Prod.fst)

/-- `DELETE FROM automation_rules WHERE id = ? AND revision = ?`, with its cascades; the
number of rows changed. -/
def deleteRule (id : String) (expected : Nat) : Statement Nat := fun db =>
  match db.automationRules.get id with
  | none => (.ok 0, db)
  | some row =>
    if row.revision = expected then
      (.ok 1,
        { db with
          automationRules := db.automationRules.delete id
          automationProjects := db.automationProjects.delete id
          automationProjectFiles := filesOfOthers id db.automationProjectFiles
          automationTabAssignments := db.automationTabAssignments.filter fun a => a.1 ≠ id })
    else (.ok 0, db)

/-! ## What a statement leaves alone -/

/-- The columns of a rule that no statement changes without its revision: all but the
owner tab, which a foreign key action clears, and the switch. -/
def StoredRule.authored (rule : StoredRule) : StoredRule :=
  { rule with ownerTabId := none, enabled := false }

/-- The revision of the layout and the authored columns of every rule are the same. -/
structure Database.Keeps (db db' : Database) : Prop where
  layout : db'.layoutRevision = db.layoutRevision
  rules : ∀ id, (db'.automationRules.get id).map StoredRule.authored =
    (db.automationRules.get id).map StoredRule.authored

namespace Database.Keeps

theorem refl (db : Database) : db.Keeps db := ⟨rfl, fun _ => rfl⟩

theorem trans (a b c : Database) (first : a.Keeps b) (next : b.Keeps c) : a.Keeps c where
  layout := next.layout.trans first.layout
  rules id := (next.rules id).trans (first.rules id)

end Database.Keeps

/-- The revision of the layout and the table of rules are untouched. -/
structure Database.SameRules (db db' : Database) : Prop where
  layout : db'.layoutRevision = db.layoutRevision
  rules : db'.automationRules = db.automationRules

namespace Database.SameRules

theorem refl (db : Database) : db.SameRules db := ⟨rfl, rfl⟩

theorem trans (a b c : Database) (first : a.SameRules b) (next : b.SameRules c) :
    a.SameRules c where
  layout := next.layout.trans first.layout
  rules := next.rules.trans first.rules

theorem keeps {db db' : Database} (same : db.SameRules db') : db.Keeps db' :=
  ⟨same.layout, fun id => by rw [same.rules]⟩

end Database.SameRules

/-- One rule was there with the revision `expected`, and is now `assign` of what it was,
with the next revision; no other rule and no layout changed. -/
structure Database.Rewrites (id : String) (expected : Nat) (assign : StoredRule → StoredRule)
    (db db' : Database) : Prop where
  layout : db'.layoutRevision = db.layoutRevision
  rules : ∃ row, db.automationRules.get id = some row ∧ row.revision = expected ∧
    db'.automationRules =
      db.automationRules.set id { assign row with revision := expected + 1 }

/-- One rule was there with the revision `expected`, and is gone. -/
structure Database.Removes (id : String) (expected : Nat) (db db' : Database) : Prop where
  layout : db'.layoutRevision = db.layoutRevision
  rules : ∃ row, db.automationRules.get id = some row ∧ row.revision = expected ∧
    db'.automationRules = db.automationRules.delete id

/-- A rule was not there, and is now `row`. -/
structure Database.Inserts (id : String) (row : StoredRule) (db db' : Database) : Prop where
  layout : db'.layoutRevision = db.layoutRevision
  absent : db.automationRules.get id = none
  rules : db'.automationRules = db.automationRules.set id row

/-- What carries a revision: the layout as a whole, and each automation. -/
inductive Document where
  | layout
  | automation (id : String)
  deriving DecidableEq

namespace Database

/-- The stored revision; an automation that is not there has none. -/
def revisionOf (db : Database) : Document → Option Nat
  | .layout => some db.layoutRevision
  | .automation id => (db.automationRules.get id).map StoredRule.revision

variable {id : String} {expected : Nat} {assign : StoredRule → StoredRule} {row : StoredRule}
  {db db' : Database} {document : Document}

theorem Keeps.revision (keeps : db.Keeps db') (document : Document) :
    db'.revisionOf document = db.revisionOf document := by
  cases document with
  | layout => exact congrArg some keeps.layout
  | automation id =>
      have same := congrArg (Option.map StoredRule.revision) (keeps.rules id)
      rw [Option.map_map, Option.map_map] at same
      exact same

/-- A change to one rule only leaves the other documents' revisions. -/
theorem revisionOf_other (layout : db'.layoutRevision = db.layoutRevision)
    (others : ∀ a, a ≠ id → db'.automationRules.get a = db.automationRules.get a)
    (ne : document ≠ .automation id) : db'.revisionOf document = db.revisionOf document := by
  cases document with
  | layout => exact congrArg some layout
  | automation a =>
      have other : a ≠ id := fun same => ne (congrArg Document.automation same)
      rw [revisionOf, revisionOf, others a other]

namespace Rewrites

variable (rewrites : db.Rewrites id expected assign db')

include rewrites

theorem after : ∃ row, db'.automationRules.get id = some row ∧ row.revision = expected + 1 := by
  obtain ⟨_, row, _, _, rules⟩ := rewrites
  exact ⟨{ assign row with revision := expected + 1 },
    by rw [rules, OrderedMap.get_set_self], rfl⟩

theorem others (a : String) (ne : a ≠ id) :
    db'.automationRules.get a = db.automationRules.get a := by
  obtain ⟨_, row, _, _, rules⟩ := rewrites
  rw [rules, OrderedMap.get_set_of_ne _ _ ne]

theorem revision_before : db.revisionOf (.automation id) = some expected := by
  obtain ⟨_, row, found, current, _⟩ := rewrites
  rw [revisionOf, found, Option.map_some, current]

theorem revision_after : db'.revisionOf (.automation id) = some (expected + 1) := by
  obtain ⟨row, found, moved⟩ := rewrites.after
  rw [revisionOf, found, Option.map_some, moved]

theorem revision_other (ne : document ≠ .automation id) :
    db'.revisionOf document = db.revisionOf document :=
  revisionOf_other rewrites.layout rewrites.others ne

end Rewrites

namespace Removes

variable (removes : db.Removes id expected db')

include removes

theorem others (a : String) (ne : a ≠ id) :
    db'.automationRules.get a = db.automationRules.get a := by
  obtain ⟨_, row, _, _, rules⟩ := removes
  rw [rules, OrderedMap.get_delete_of_ne _ ne]

theorem revision_before : db.revisionOf (.automation id) = some expected := by
  obtain ⟨_, row, found, current, _⟩ := removes
  rw [revisionOf, found, Option.map_some, current]

theorem revision_after : db'.revisionOf (.automation id) = none := by
  obtain ⟨_, row, _, _, rules⟩ := removes
  rw [revisionOf, rules, OrderedMap.get_delete_self, Option.map_none]

theorem revision_other (ne : document ≠ .automation id) :
    db'.revisionOf document = db.revisionOf document :=
  revisionOf_other removes.layout removes.others ne

end Removes

namespace Inserts

variable (inserts : db.Inserts id row db')

include inserts

theorem others (a : String) (ne : a ≠ id) :
    db'.automationRules.get a = db.automationRules.get a := by
  rw [inserts.rules, OrderedMap.get_set_of_ne _ _ ne]

theorem revision_before : db.revisionOf (.automation id) = none := by
  rw [revisionOf, inserts.absent, Option.map_none]

theorem revision_after : db'.revisionOf (.automation id) = some row.revision := by
  rw [revisionOf, inserts.rules, OrderedMap.get_set_self, Option.map_some]

theorem revision_other (ne : document ≠ .automation id) :
    db'.revisionOf document = db.revisionOf document :=
  revisionOf_other inserts.layout inserts.others ne

end Inserts

end Database

open Handler

/-- A statement that changes no row and nothing else, or one row as `R` says, followed by
the check that it was one. -/
theorem requireOneChange_spec {statement : Statement Nat} {R : Database → Database → Prop}
    (failure : Failure)
    (changed : ∀ db, statement db = (.ok 0, db) ∨
      ∃ db', statement db = (.ok 1, db') ∧ R db db') :
    let checked := do
      let changes ← statement
      requireOneChange changes failure
    Atomic checked ∧ Ensures checked fun db _ db' => R db db' := by
  intro checked
  constructor
  · intro db e db' threw
    rcases changed db with none_changed | ⟨_, one_changed, _⟩
    · simp only [checked, bind_apply, none_changed] at threw
      exact (congrArg Prod.snd threw).symm
    · simp only [checked, bind_apply, one_changed] at threw
      cases threw
  · intro db _ db' returned
    rcases changed db with none_changed | ⟨db'', one_changed, holds⟩
    · simp only [checked, bind_apply, none_changed] at returned
      cases returned
    · simp only [checked, bind_apply, one_changed] at returned
      cases returned
      exact holds

theorem updateRule_cases (id : String) (expected : Nat) (assign : StoredRule → StoredRule)
    (db : Database) :
    updateRule id expected assign db = (.ok 0, db) ∨
      ∃ db', updateRule id expected assign db = (.ok 1, db') ∧
        db.Rewrites id expected assign db' := by
  unfold updateRule
  split
  · exact Or.inl rfl
  · rename_i row found
    split
    · rename_i current
      refine Or.inr ⟨_, rfl, rfl, row, found, current, ?_⟩
      rw [current]
    · exact Or.inl rfl

theorem deleteRule_cases (id : String) (expected : Nat) (db : Database) :
    deleteRule id expected db = (.ok 0, db) ∨
      ∃ db', deleteRule id expected db = (.ok 1, db') ∧ db.Removes id expected db' := by
  unfold deleteRule
  split
  · exact Or.inl rfl
  · rename_i row found
    split
    · rename_i current
      exact Or.inr ⟨_, rfl, rfl, row, found, current, rfl⟩
    · exact Or.inl rfl

theorem insertRule_ensures (id : String) (row : StoredRule) :
    Ensures (insertRule id row) fun db _ db' => db.Inserts id row db' := by
  intro db _ db' returned
  unfold insertRule at returned
  split at returned
  · cases returned
  · rename_i absent
    split at returned <;> cases returned
    exact ⟨rfl, by simpa [OrderedMap.has] using absent, rfl⟩

theorem insertRule_atomic (id : String) (row : StoredRule) : Atomic (insertRule id row) := by
  intro db e db' threw
  unfold insertRule at threw
  split at threw
  · cases threw
    rfl
  · split at threw <;> cases threw
    rfl

theorem setRuleEnabled_total (id : String) (enabled : Bool) :
    Total (setRuleEnabled id enabled) := by
  intro db e db' threw
  unfold setRuleEnabled at threw
  split at threw <;> cases threw

/-- The foreign key action on `owner_tab_id` is not an authored change. -/
theorem deleteTabs_keeps : Follows Database.Keeps deleteTabs := by
  refine follows_modify fun db => ⟨rfl, fun id => ?_⟩
  rw [OrderedMap.get_map, Option.map_map]
  rfl

theorem insertTab_sameRules (row : TabRow) : Follows Database.SameRules (insertTab row) := by
  intro db _ db' returned
  unfold insertTab at returned
  split at returned <;> cases returned
  exact ⟨rfl, rfl⟩

theorem insertPane_sameRules (row : PaneRow) : Follows Database.SameRules (insertPane row) := by
  intro db _ db' returned
  unfold insertPane at returned
  split at returned
  · cases returned
  · split at returned <;> cases returned
    exact ⟨rfl, rfl⟩

theorem deleteAutomationTabAssignments_sameRules :
    Follows Database.SameRules deleteAutomationTabAssignments :=
  follows_modify fun _ => ⟨rfl, rfl⟩

theorem deleteCollectionTabAssignments_sameRules :
    Follows Database.SameRules deleteCollectionTabAssignments :=
  follows_modify fun _ => ⟨rfl, rfl⟩

theorem insertAutomationTabAssignment_sameRules (automationId : String) (tabId : Option String) :
    Follows Database.SameRules (insertAutomationTabAssignment automationId tabId) := by
  intro db _ db' returned
  unfold insertAutomationTabAssignment at returned
  split at returned
  · cases returned
    exact .refl db
  · split at returned
    · cases returned
      exact .refl db
    · split at returned <;> cases returned
      exact ⟨rfl, rfl⟩

theorem insertCollectionTabAssignment_sameRules (collectionName : String)
    (tabId : Option String) :
    Follows Database.SameRules (insertCollectionTabAssignment collectionName tabId) := by
  intro db _ db' returned
  unfold insertCollectionTabAssignment at returned
  split at returned
  · cases returned
    exact .refl db
  · split at returned
    · cases returned
      exact .refl db
    · split at returned <;> cases returned
      exact ⟨rfl, rfl⟩

theorem setRuleEnabled_keeps (id : String) (enabled : Bool) :
    Follows Database.Keeps (setRuleEnabled id enabled) := by
  intro db _ db' returned
  unfold setRuleEnabled at returned
  split at returned
  · cases returned
    exact .refl db
  · rename_i row found
    cases returned
    refine ⟨rfl, fun a => ?_⟩
    rw [OrderedMap.get_set]
    split
    · rename_i same
      rw [same, found]
      rfl
    · rfl

end Aeolus.Db
