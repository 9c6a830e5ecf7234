/-
# Aeolus.Automations.AutomationProject — the stored source tree of an automation

`saveAutomationProject` and `readAutomationProject` of
`src/automations/automation-project.ts`.  Compilation needs the bundler and is not here:
the handlers take its outcome as it settles.
-/
import Aeolus.Db.Database

namespace Aeolus.Automations

open Aeolus.Db Aeolus.Theory

structure AutomationProjectFile where
  path : String
  content : String
  deriving DecidableEq

structure AutomationProject where
  files : List AutomationProjectFile
  logicEntry : Option String
  /-- `none` is `undefined`, `some none` is `null` -/
  uiEntry : Option (Option String)

structure CompiledAutomationProject where
  compiledJs : String
  compiledUi : Option String
  logicSource : String
  uiSource : Option String
  files : List AutomationProjectFile
  logicEntry : String
  uiEntry : Option String

structure StoredAutomationProject where
  automationId : String
  revision : Nat
  files : List AutomationProjectFile
  logicEntry : String
  uiEntry : Option String
  legacyProjection : Bool

def defaultLogicEntry : String := "logic/index.ts"

def defaultUiEntry : String := "ui/index.tsx"

/-- `INSERT INTO automation_projects … ON CONFLICT(automation_id) DO UPDATE SET …`; an
update keeps `created_at`. -/
def upsertProject (automationId : String) (compiled : CompiledAutomationProject) (now : Nat) :
    Statement Unit := fun db =>
  if !db.automationRules.has automationId then (.error foreignKeyFailed, db)
  else
    let row : ProjectRow :=
      { logicEntry := compiled.logicEntry
        uiEntry := compiled.uiEntry
        createdAt := ((db.automationProjects.get automationId).map ProjectRow.createdAt).getD now
        updatedAt := now }
    (.ok (), { db with automationProjects := db.automationProjects.set automationId row })

/-- `DELETE FROM automation_project_files WHERE automation_id = ?` -/
def deleteProjectFiles (automationId : String) : Statement Unit := .modify fun db =>
  { db with automationProjectFiles := filesOfOthers automationId db.automationProjectFiles }

/-- `INSERT INTO automation_project_files …` -/
def insertProjectFile (automationId : String) (now : Nat) (file : AutomationProjectFile) :
    Statement Unit := fun db =>
  if db.automationProjectFiles.has (automationId, file.path) then
    (.error (.unexpected "UNIQUE constraint failed: automation_project_files"), db)
  else if !db.automationRules.has automationId then (.error foreignKeyFailed, db)
  else
    let row : ProjectFileRow := { content := file.content, createdAt := now, updatedAt := now }
    let files := db.automationProjectFiles.set (automationId, file.path) row
    (.ok (), { db with automationProjectFiles := files })

/-- `saveAutomationProject`, in the transaction of its caller -/
def saveAutomationProject (automationId : String) (compiled : CompiledAutomationProject)
    (now : Nat) : Statement Unit := do
  upsertProject automationId compiled now
  deleteProjectFiles automationId
  compiled.files.forM (insertProjectFile automationId now)

/-- The files of one rule, `ORDER BY path`. -/
def projectFiles (db : Database) (automationId : String) : List AutomationProjectFile :=
  let rows := db.automationProjectFiles.entries.filter fun entry => entry.1.1 = automationId
  (rows.map fun entry => { path := entry.1.2, content := entry.2.content }).mergeSort
    fun a b => !decide (b.path < a.path)

/-- Without a project row the two legacy source columns are the files. -/
def legacyFiles (rule : StoredRule) : List AutomationProjectFile :=
  (rule.scriptSource.map fun content => { path := defaultLogicEntry, content }).toList ++
    (rule.uiSource.map fun content => { path := defaultUiEntry, content }).toList

def readAutomationProject (db : Database) (automationId : String) :
    Option StoredAutomationProject :=
  (db.queryRuleById automationId).map fun rule =>
    match db.automationProjects.get automationId with
    | none =>
      { automationId
        revision := rule.revision
        files := legacyFiles rule
        logicEntry := defaultLogicEntry
        uiEntry := rule.uiSource.map fun _ => defaultUiEntry
        legacyProjection := true }
    | some project =>
      { automationId
        revision := rule.revision
        files := projectFiles db automationId
        logicEntry := project.logicEntry
        uiEntry := project.uiEntry
        legacyProjection := false }

open Handler

/-- Saving a project touches only the project tables. -/
theorem saveAutomationProject_rules (automationId : String)
    (compiled : CompiledAutomationProject) (now : Nat) :
    Handler.Follows (fun db db' => db'.layoutRevision = db.layoutRevision ∧
        db'.automationRules = db.automationRules)
      (saveAutomationProject automationId compiled now) := by
  have refl (db : Database) : db.layoutRevision = db.layoutRevision ∧
      db.automationRules = db.automationRules := ⟨rfl, rfl⟩
  have trans (a b c : Database)
      (first : b.layoutRevision = a.layoutRevision ∧ b.automationRules = a.automationRules)
      (next : c.layoutRevision = b.layoutRevision ∧ c.automationRules = b.automationRules) :
      c.layoutRevision = a.layoutRevision ∧ c.automationRules = a.automationRules :=
    ⟨next.1.trans first.1, next.2.trans first.2⟩
  refine Handler.Follows.bind trans ?_ fun _ => Handler.Follows.bind trans ?_ fun _ => ?_
  · intro db _ db' returned
    unfold upsertProject at returned
    split at returned <;> cases returned
    exact refl db
  · exact follows_modify refl
  · refine follows_forM refl trans (fun file => ?_) compiled.files
    intro db _ db' returned
    unfold insertProjectFile at returned
    split at returned
    · cases returned
    · split at returned <;> cases returned
      exact refl db

/-! ## Reading back what was saved -/

/-- The rows that the files of a rule are stored in. -/
def fileRows (automationId : String) (now : Nat) (files : List AutomationProjectFile) :
    List ((String × String) × ProjectFileRow) :=
  files.map fun file =>
    ((automationId, file.path), { content := file.content, createdAt := now, updatedAt := now })

variable {automationId : String} {files : List AutomationProjectFile}

theorem nodup_fileRows (now : Nat) (nodup : (files.map AutomationProjectFile.path).Nodup) :
    ((fileRows automationId now files).map Prod.fst).Nodup := by
  rw [fileRows, List.map_map]
  have paths : (files.map AutomationProjectFile.path).map (Prod.mk automationId) =
      files.map (Prod.fst ∘ fun file => ((automationId, file.path), ProjectFileRow.mk file.content
        now now)) := by
    rw [List.map_map]
    rfl
  rw [← paths]
  exact nodup.map fun a b same => (Prod.mk.inj same).2

/-- New files with distinct paths are all inserted. -/
theorem forM_insertProjectFile {db : Database} (now : Nat)
    (rule : db.automationRules.has automationId = true)
    (nodup : (files.map AutomationProjectFile.path).Nodup)
    (absent : ∀ file ∈ files, db.automationProjectFiles.get (automationId, file.path) = none) :
    files.forM (insertProjectFile automationId now) db = (.ok (), { db with
      automationProjectFiles :=
        db.automationProjectFiles.setAll (fileRows automationId now files) }) := by
  induction files generalizing db with
  | nil => rfl
  | cons file rest ih =>
      rw [List.map_cons, List.nodup_cons] at nodup
      obtain ⟨here, later⟩ := List.forall_mem_cons.mp absent
      have first : insertProjectFile automationId now file db = (.ok (), { db with
          automationProjectFiles := db.automationProjectFiles.set (automationId, file.path)
            { content := file.content, createdAt := now, updatedAt := now } }) := by
        rw [insertProjectFile, OrderedMap.has, here, rule]
        rfl
      rw [forM_cons, first]
      refine ih rule nodup.2 fun other member => ?_
      have distinct : other.path ≠ file.path := fun same =>
        nodup.1 (List.mem_map.mpr ⟨other, member, same⟩)
      rw [OrderedMap.get_set_of_ne _ _ fun same => distinct (Prod.mk.inj same).2]
      exact later other member

theorem get_filesOfOthers (id : String) (rows : OrderedMap (String × String) ProjectFileRow)
    (path : String) : (filesOfOthers id rows).get (id, path) = none := by
  rw [OrderedMap.get_eq_none]
  intro member
  obtain ⟨entry, kept, same⟩ := List.mem_map.mp member
  have other := (List.mem_filter.mp kept).2
  rw [same] at other
  simp at other

/-- The project of one rule is the compiled one, and the others are as they were. -/
structure Saved (automationId : String) (compiled : CompiledAutomationProject) (now : Nat)
    (db db' : Database) : Prop where
  rules : db'.automationRules = db.automationRules
  project : ∃ row : ProjectRow,
    db'.automationProjects = db.automationProjects.set automationId row ∧
      row.logicEntry = compiled.logicEntry ∧ row.uiEntry = compiled.uiEntry
  files : db'.automationProjectFiles.entries =
    (filesOfOthers automationId db.automationProjectFiles).entries ++
      fileRows automationId now compiled.files

/-- Saving a project of a rule that is there succeeds. -/
theorem saveAutomationProject_ok {compiled : CompiledAutomationProject} (now : Nat) {db : Database}
    (rule : db.automationRules.has automationId = true)
    (nodup : (compiled.files.map AutomationProjectFile.path).Nodup) :
    ∃ db', saveAutomationProject automationId compiled now db = (.ok (), db') ∧
      Saved automationId compiled now db db' := by
  let others := filesOfOthers automationId db.automationProjectFiles
  have absent : ∀ path, others.get (automationId, path) = none :=
    get_filesOfOthers automationId _
  have rows := OrderedMap.entries_setAll others (nodup_fileRows now nodup) fun entry member => by
    obtain ⟨file, -, rfl⟩ := List.mem_map.mp member
    exact absent file.path
  let row : ProjectRow :=
    { logicEntry := compiled.logicEntry
      uiEntry := compiled.uiEntry
      createdAt := ((db.automationProjects.get automationId).map ProjectRow.createdAt).getD now
      updatedAt := now }
  let withProject : Database :=
    { db with automationProjects := db.automationProjects.set automationId row }
  let cleared : Database := { withProject with automationProjectFiles := others }
  have upserted : upsertProject automationId compiled now db = (.ok (), withProject) := by
    rw [upsertProject, rule]
    rfl
  have stillThere : cleared.automationRules.has automationId = true := rule
  have inserted := forM_insertProjectFile now stillThere nodup fun file _ => absent file.path
  refine ⟨{ cleared with
    automationProjectFiles := others.setAll (fileRows automationId now compiled.files) },
    ?_, ⟨rfl, ⟨row, rfl, rfl, rfl⟩, rows⟩⟩
  rw [saveAutomationProject, bind_of_ok upserted]
  exact inserted

namespace Saved

variable {compiled : CompiledAutomationProject} {now : Nat} {db db' : Database}

/-- The stored paths of the rule are those of the project. -/
theorem has_file_iff (saved : Saved automationId compiled now db db') (path : String) :
    db'.automationProjectFiles.has (automationId, path) = true ↔
      path ∈ compiled.files.map AutomationProjectFile.path := by
  rw [OrderedMap.has_iff_mem_keys, OrderedMap.keys, saved.files, List.map_append, List.mem_append]
  have others : (automationId, path) ∉
      (filesOfOthers automationId db.automationProjectFiles).entries.map Prod.fst :=
    OrderedMap.get_eq_none.mp (get_filesOfOthers automationId _ path)
  simp [others, fileRows]

theorem files_self (saved : Saved automationId compiled now db db') :
    (projectFiles db' automationId).Perm compiled.files := by
  have none : ((filesOfOthers automationId db.automationProjectFiles).entries.filter
      fun entry => entry.1.1 = automationId) = [] := by
    rw [List.filter_eq_nil_iff]
    intro entry member
    simpa using (List.mem_filter.mp member).2
  have all : ((fileRows automationId now compiled.files).filter
      fun entry => entry.1.1 = automationId) = fileRows automationId now compiled.files := by
    rw [List.filter_eq_self]
    intro entry member
    obtain ⟨file, -, rfl⟩ := List.mem_map.mp member
    simp
  refine (List.mergeSort_perm _ _).trans ?_
  rw [saved.files, List.filter_append, none, all, List.nil_append, fileRows, List.map_map]
  exact .of_eq (List.map_id _)

theorem files_other (saved : Saved automationId compiled now db db') {other : String}
    (ne : other ≠ automationId) : projectFiles db' other = projectFiles db other := by
  have none : ((fileRows automationId now compiled.files).filter
      fun entry => entry.1.1 = other) = [] := by
    rw [List.filter_eq_nil_iff]
    intro entry member
    obtain ⟨file, -, rfl⟩ := List.mem_map.mp member
    simpa using ne.symm
  have same : ((filesOfOthers automationId db.automationProjectFiles).entries.filter
      fun entry => entry.1.1 = other) =
        db.automationProjectFiles.entries.filter fun entry => entry.1.1 = other := by
    rw [filesOfOthers, List.filter_filter]
    refine List.filter_congr fun entry _ => ?_
    by_cases here : entry.1.1 = other
    · simp [here, ne]
    · simp [here]
  unfold projectFiles
  rw [saved.files, List.filter_append, none, same, List.append_nil]

/-- The rule's project reads back as it was saved. -/
theorem read_self (saved : Saved automationId compiled now db db')
    (rule : db.automationRules.has automationId = true) :
    ∃ stored, readAutomationProject db' automationId = some stored ∧
      stored.files.Perm compiled.files ∧ stored.logicEntry = compiled.logicEntry ∧
      stored.uiEntry = compiled.uiEntry ∧ stored.legacyProjection = false := by
  obtain ⟨row, found⟩ := OrderedMap.has_iff.mp rule
  obtain ⟨project, stored, logicEntry, uiEntry⟩ := saved.project
  have rules : db'.queryRuleById automationId = some row := by
    rw [Database.queryRuleById, saved.rules, found]
  have here : db'.automationProjects.get automationId = some project := by
    rw [stored, OrderedMap.get_set_self]
  rw [readAutomationProject, rules, here]
  exact ⟨_, rfl, saved.files_self, logicEntry, uiEntry, rfl⟩

theorem read_other (saved : Saved automationId compiled now db db') {other : String}
    (ne : other ≠ automationId) :
    readAutomationProject db' other = readAutomationProject db other := by
  obtain ⟨project, stored, -⟩ := saved.project
  unfold readAutomationProject
  rw [Database.queryRuleById, Database.queryRuleById, saved.rules, stored,
    OrderedMap.get_set_of_ne _ _ ne, saved.files_other ne]

end Saved

end Aeolus.Automations
