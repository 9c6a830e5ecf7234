/-
# Aeolus.Api.LayoutRoutes — replacing the dashboard layout

`PUT /api/layout` of `src/api/routes/layout.routes.ts`.  The handler does not await
anything: the revision check, the replacement of tabs and panes and the rebuild of both
ownership tables are one transaction, run in one turn of the event loop.  The body is
whatever JSON was submitted; what does not fit the schema throws inside the transaction.
-/
import Aeolus.Auth.PaneReferenceExtractor
import Aeolus.Api.RevisionPrecondition

namespace Aeolus.Api

open Aeolus.Core Aeolus.Db Aeolus.Auth Aeolus.Theory

/-! ## Reading the body -/

/-- `value[name]` -/
def propertyOf (name : String) : Json → Except Failure (Option Json)
  | .null => .error (.unexpected s!"Cannot read properties of null (reading '{name}')")
  | value => .ok (value.property name)

/-- `const { tabs, panes } = req.body`, both arrays. -/
def layoutArrays (body : Option Json) : Except Failure (List Json × List Json) :=
  match body with
  | none => .error (.unexpected "Cannot destructure property 'tabs' of 'req.body'")
  | some .null => .error (.unexpected "Cannot destructure property 'tabs' of 'req.body'")
  | some body =>
    match body.property "tabs", body.property "panes" with
    | some (.arr tabs), some (.arr panes) => .ok (tabs, panes)
    | _, _ =>
      .error (.BadRequestError "Invalid layout payload: tabs and panes must be arrays")

section Rows

variable (driver : Driver)

/-- The row that `insertTab.run(tab.id, tab.name, …)` stores. -/
def tabRow (tab : Json) : Except Failure TabRow := do
  let id ← driver.text (← propertyOf "id" tab)
  let name ← driver.text (tab.property "name")
  let icon ← driver.text (tab.property "icon")
  let order ← driver.integer (tab.property "order")
  let createdAt ← driver.integer (tab.property "createdAt")
  return {
    id
    name := ← notNull "tabs.name" name
    icon := ← notNull "tabs.icon" icon
    order := ← notNull "tabs.order" order
    pinned := isTruthy (tab.property "pinned")
    createdAt := ← notNull "tabs.created_at" createdAt }

/-- The row that `insertPane.run(pane.id, pane.tabId, …)` stores. -/
def paneRow (pane : Json) : Except Failure PaneRow := do
  let id ← driver.text (← propertyOf "id" pane)
  let tabId ← driver.text (pane.property "tabId")
  let paneType ← driver.text (pane.property "paneType")
  let x ← driver.integer (pane.property "x")
  let y ← driver.integer (pane.property "y")
  let w ← driver.integer (pane.property "w")
  let h ← driver.integer (pane.property "h")
  let createdAt ← driver.integer (pane.property "createdAt")
  return {
    id
    tabId := ← notNull "panes.tab_id" tabId
    paneType := ← notNull "panes.pane_type" paneType
    config := orEmptyObject (pane.property "config")
    x := ← notNull "panes.x" x
    y := ← notNull "panes.y" y
    w := ← notNull "panes.w" w
    h := ← notNull "panes.h" h
    createdAt := ← notNull "panes.created_at" createdAt }

def paneRef (pane : Json) : Except Failure PaneRef := do
  return {
    tabId := ← propertyOf "tabId" pane
    paneType := pane.property "paneType"
    config := orEmptyObject (pane.property "config") }

/-! ## The transaction -/

def storeTab (tab : Json) : Statement Unit := do
  let row ← tabRow driver tab
  insertTab row

def storePane (pane : Json) : Statement Unit := do
  let row ← paneRow driver pane
  insertPane row

/-- Insert every reference of the map. -/
def insertReferences (insert : String → Option String → Statement Unit) (byTab : RefsByTab) :
    Statement Unit :=
  byTab.forM fun entry => entry.2.forM fun ref => do
    let tabId ← driver.text entry.1
    insert ref tabId

/-- The transaction after its revision check: every table is emptied and refilled. -/
def rewriteTables (tabsData panesData : List Json) : Statement Unit := do
  deletePanes
  deleteTabs
  tabsData.forM (storeTab driver)
  panesData.forM (storePane driver)
  deleteAutomationTabAssignments
  let existingAutomationIds ← Handler.asks fun db => db.automationRules.keys
  let paneRefs ← Handler.check (panesData.mapM paneRef)
  insertReferences driver insertAutomationTabAssignment
    (extractAutomationAssignments paneRefs (some existingAutomationIds))
  deleteCollectionTabAssignments
  insertReferences driver insertCollectionTabAssignment (extractCollectionAssignments paneRefs)

/-- The transaction `replaceLayout`. -/
def replaceLayout (tabsData panesData : List Json) (expectedRevision : Nat) :
    Statement Unit := do
  let changes ← advanceLayoutRevision expectedRevision
  requireOneChange changes (.ConflictError "The dashboard changed while you were editing it")
  rewriteTables driver tabsData panesData

structure LayoutRequest where
  user : Option User
  ifMatch : Option String
  body : Option Json

/-- `PUT /api/layout`; the answer carries the revision now stored. -/
def putLayout (req : LayoutRequest) : Handler Failure Database Nat := do
  Handler.check (requireAdmin req.user)
  let layout ← Handler.check (layoutArrays req.body)
  let expectedRevision ← Handler.check (requireIfMatchRevision req.ifMatch)
  Handler.atomically (replaceLayout driver layout.1 layout.2 expectedRevision)
  Handler.asks fun db => db.layoutRevision

/-! ## What the handler does -/

open Handler

theorem insertReferences_sameRules {insert : String → Option String → Statement Unit}
    (each : ∀ ref tabId, Follows Database.SameRules (insert ref tabId)) (byTab : RefsByTab) :
    Follows Database.SameRules (insertReferences driver insert byTab) := by
  refine follows_forM .refl .trans (fun entry => ?_) byTab
  refine follows_forM .refl .trans (fun ref => ?_) entry.2
  exact Follows.bind .trans ((readOnly_check _).follows .refl) (each ref)

/-- Of the rules, the rewriting changes what the deletion of the tabs changes. -/
theorem rewriteTables_ensures (tabsData panesData : List Json) :
    Ensures (rewriteTables driver tabsData panesData) fun db _ db' =>
      ∃ cleared, deleteTabs { db with panes := [] } = (.ok (), cleared) ∧
        cleared.SameRules db' := by
  intro db _ db' returned
  obtain ⟨_, emptied, panesDeleted, afterPanes⟩ := bind_ok returned
  obtain ⟨_, cleared, tabsDeleted, refilled⟩ := bind_ok afterPanes
  cases panesDeleted
  refine ⟨cleared, tabsDeleted, ?_⟩
  clear returned afterPanes tabsDeleted
  have tab (value : Json) : Follows Database.SameRules (storeTab driver value) :=
    Follows.bind .trans ((readOnly_check _).follows .refl) insertTab_sameRules
  have pane (value : Json) : Follows Database.SameRules (storePane driver value) :=
    Follows.bind .trans ((readOnly_check _).follows .refl) insertPane_sameRules
  revert refilled
  refine Follows.bind .trans (follows_forM .refl .trans tab tabsData) (fun _ => ?_) cleared _ db'
  refine Follows.bind .trans (follows_forM .refl .trans pane panesData) fun _ => ?_
  refine Follows.bind .trans deleteAutomationTabAssignments_sameRules fun _ => ?_
  refine Follows.bind .trans ((readOnly_asks _).follows .refl) fun ids => ?_
  refine Follows.bind .trans ((readOnly_check _).follows .refl) fun paneRefs => ?_
  refine Follows.bind .trans
    (insertReferences_sameRules driver insertAutomationTabAssignment_sameRules _) fun _ => ?_
  refine Follows.bind .trans deleteCollectionTabAssignments_sameRules fun _ => ?_
  exact insertReferences_sameRules driver insertCollectionTabAssignment_sameRules _

theorem rewriteTables_keeps (tabsData panesData : List Json) :
    Follows Database.Keeps (rewriteTables driver tabsData panesData) := by
  intro db _ db' returned
  obtain ⟨cleared, deleted, after⟩ :=
    rewriteTables_ensures driver tabsData panesData _ _ _ returned
  have emptied : db.Keeps { db with panes := [] } := ⟨rfl, fun _ => rfl⟩
  exact emptied.trans _ _ _ (.trans _ _ _ (deleteTabs_keeps _ _ _ deleted) after.keeps)

/-- A layout that was replaced had the expected revision, and has the next one. -/
theorem replaceLayout_ensures (tabsData panesData : List Json) (expectedRevision : Nat) :
    Ensures (replaceLayout driver tabsData panesData expectedRevision) fun db _ db' =>
      db.layoutRevision = expectedRevision ∧
        Database.Keeps { db with layoutRevision := expectedRevision + 1 } db' := by
  intro db _ db' returned
  obtain ⟨changes, mid, advanced, returned⟩ := bind_ok returned
  obtain ⟨_, mid', checked, rewritten⟩ := bind_ok returned
  unfold requireOneChange at checked
  unfold advanceLayoutRevision at advanced
  split at advanced
  · rename_i current
    cases advanced
    cases checked
    exact ⟨current, current ▸ rewriteTables_keeps driver tabsData panesData _ _ _ rewritten⟩
  · cases advanced
    cases checked

theorem putLayout_atomic (req : LayoutRequest) : Atomic (putLayout driver req) := by
  refine Atomic.after_readOnly (readOnly_check _) fun _ => ?_
  refine Atomic.after_readOnly (readOnly_check _) fun layout => ?_
  refine Atomic.after_readOnly (readOnly_check _) fun expected => ?_
  exact Atomic.then_total (atomic_atomically _) fun _ => total_asks _

/-- An accepted layout was based on the revision that was stored; the next one is. -/
theorem putLayout_ensures (req : LayoutRequest) :
    Ensures (putLayout driver req) fun db revision db' =>
      requireIfMatchRevision req.ifMatch = .ok db.layoutRevision ∧
        Database.Keeps { db with layoutRevision := db.layoutRevision + 1 } db' ∧
        revision = db'.layoutRevision := by
  intro db revision db' returned
  obtain ⟨_, _, returned⟩ := check_ok returned
  obtain ⟨layout, _, returned⟩ := check_ok returned
  obtain ⟨expected, named, returned⟩ := check_ok returned
  obtain ⟨_, mid, replaced, answered⟩ := bind_ok returned
  obtain ⟨current, keeps⟩ := replaceLayout_ensures driver _ _ _ _ _ _ (atomically_ok replaced)
  cases answered
  rw [current]
  exact ⟨named, keeps, rfl⟩

end Rows

/-! ## A driver -/

/-- The `TypeError` of a value that cannot be bound. -/
def cannotBind : Failure :=
  .unexpected "SQLite3 can only bind numbers, strings, bigints, buffers, and null"

/-- Text and integers as SQLite stores them. -/
def plainDriver : Driver where
  text
    | none => .ok none
    | some .null => .ok none
    | some (.str text) => .ok (some text)
    | some _ => .error cannotBind
  integer
    | none => .ok none
    | some .null => .ok none
    | some (.num value) =>
        .ok (some (if value.den = 1 then .integer value.num else .real value))
    | some (.str text) => .ok (some (.text text))
    | some _ => .error cannotBind

end Aeolus.Api
