/-
# Aeolus.Api.LayoutOwnership — what a saved layout does to the owners of automations

`PUT /api/layout` empties `tabs` and fills it again.  `owner_tab_id` of migration 011
references `tabs(id)` ON DELETE SET NULL, so the deletion clears every owner, and no
later statement of the transaction writes the column: after any accepted save no
automation has an owning tab (`putLayout_clears`).  That a submitted tab has the id of
the old one does not bring the owner back.
-/
import Aeolus.Auth.ResourceOwnership
import Aeolus.Api.LayoutRoutes

namespace Aeolus.Api

open Aeolus.Core Aeolus.Db Aeolus.Auth Aeolus.Theory
open Handler

/-- The foreign key of `owner_tab_id`: every owner is a stored tab. -/
def OwnersStored (db : Database) : Prop :=
  ∀ id tabId, getOwnerTab db id = some tabId → db.hasTab tabId = true

/-- The submitted layout has a tab that is stored under this id. -/
def Submits (driver : Driver) (req : LayoutRequest) (tabId : String) : Prop :=
  ∃ layout, layoutArrays req.body = .ok layout ∧
    ∃ tab ∈ layout.1, ∃ id, propertyOf "id" tab = .ok id ∧ driver.text id = .ok (some tabId)

/-- What a save promises to the automations of a tab it submits: the owner stays, so
the tab still exposes the automation and still bounds its scope; and an owner is lost
only with its tab. -/
structure OwnershipKept (driver : Driver) (registry : DeviceRegistry) (req : LayoutRequest)
    (db db' : Database) : Prop where
  owner : ∀ id tabId, getOwnerTab db id = some tabId → Submits driver req tabId →
    getOwnerTab db' id = some tabId
  exposing : ∀ id tabId, getOwnerTab db id = some tabId → Submits driver req tabId →
    tabId ∈ getExposingTabs db id → tabId ∈ getExposingTabs db' id
  scope : ∀ id tabId, getOwnerTab db id = some tabId → Submits driver req tabId →
    (resolve db' registry id).tab = (resolve db registry id).tab
  onlyOmitted : ∀ id tabId, getOwnerTab db id = some tabId → getOwnerTab db' id ≠ some tabId →
    ¬ Submits driver req tabId

/-- ON DELETE SET NULL, on every tab at once. -/
theorem deleteTabs_clears {db db' : Database} (stored : OwnersStored db)
    (deleted : deleteTabs db = (.ok (), db')) (id : String) : getOwnerTab db' id = none := by
  cases deleted
  rw [getOwnerTab, OrderedMap.get_map]
  cases found : db.automationRules.get id with
  | none => rfl
  | some row =>
      cases owner : row.ownerTabId with
      | none => simp [owner]
      | some tabId =>
          have there : db.hasTab tabId = true :=
            stored id tabId (by rw [getOwnerTab, found, Option.bind_some, owner])
          simp [owner, Option.filter, there]

/-- After an accepted save no automation has an owning tab. -/
theorem putLayout_clears (driver : Driver) {req : LayoutRequest} {db db' : Database}
    {revision : Nat} (stored : OwnersStored db)
    (accepted : putLayout driver req db = (.ok revision, db')) (id : String) :
    getOwnerTab db' id = none := by
  obtain ⟨_, _, returned⟩ := check_ok accepted
  obtain ⟨layout, _, returned⟩ := check_ok returned
  obtain ⟨expected, _, returned⟩ := check_ok returned
  obtain ⟨_, saved, replaced, answered⟩ := bind_ok returned
  cases answered
  obtain ⟨changes, advanced, moved, returned⟩ := bind_ok (atomically_ok replaced)
  obtain ⟨_, checked, passed, rewritten⟩ := bind_ok returned
  -- the revision check leaves tabs and rules as they were
  have before : OwnersStored { checked with panes := [] } := by
    unfold advanceLayoutRevision at moved
    unfold requireOneChange at passed
    split at moved <;> cases moved <;> cases passed
    exact stored
  obtain ⟨cleared, deleted, refilled⟩ := rewriteTables_ensures driver _ _ _ _ _ rewritten
  rw [getOwnerTab, refilled.rules]
  exact deleteTabs_clears before deleted id

/-- An accepted save keeps the ownership of automations exactly when no automation is
owned by a tab that it submits. -/
theorem ownership_kept_iff_unowned (driver : Driver) (registry : DeviceRegistry)
    (req : LayoutRequest) (db db' : Database) (revision : Nat) (stored : OwnersStored db)
    (accepted : putLayout driver req db = (.ok revision, db')) :
    OwnershipKept driver registry req db db' ↔
      ∀ id tabId, getOwnerTab db id = some tabId → ¬ Submits driver req tabId := by
  constructor
  · intro kept id tabId owner submitted
    have still := kept.owner id tabId owner submitted
    rw [putLayout_clears driver stored accepted id] at still
    cases still
  · intro unowned
    refine ⟨fun id tabId owner submitted => ?_, fun id tabId owner submitted => ?_,
      fun id tabId owner submitted => ?_, fun id tabId owner _ => unowned id tabId owner⟩
    all_goals exact absurd submitted (unowned id tabId owner)

/-! ## Saving the layout that is there -/

/-- A rule confined to one tab. -/
def porchRule : StoredRule where
  name := "Porch"
  triggerTopic := "home/porch"
  conditionType := none
  conditionValue := none
  actionType := "log"
  actionTarget := ""
  actionParams := .obj []
  ruleType := .form
  scriptSource := none
  compiledJs := none
  structuredMetadata := none
  uiSource := none
  compiledUi := none
  triggerType := some "mqtt"
  cronExpression := none
  authoredUnrestricted := false
  ownerTabId := some "garden"
  enabled := true
  createdAt := 0
  revision := 1

def gardenTab : TabRow := ⟨some "garden", "Garden", "layout", .integer 0, false, .integer 0⟩

def gardenDb : Database :=
  { Database.empty with
    tabs := [gardenTab]
    automationRules := OrderedMap.empty.set "porch" porchRule }

/-- A layout of one tab without panes. -/
def saveTab (id : String) : LayoutRequest where
  user := some ⟨"root", .admin⟩
  ifMatch := some "1"
  body := some (.obj
    [("tabs", .arr [.obj [("id", .str id), ("name", .str "Garden"), ("icon", .str "layout"),
        ("order", .num 0), ("pinned", .bool false), ("createdAt", .num 0)]]),
      ("panes", .arr [])])

/-- The stored layout, sent back as it is. -/
def resave : LayoutRequest := saveTab "garden"

theorem saveTab_submits (id tabId : String) : Submits plainDriver (saveTab id) tabId ↔ tabId = id := by
  constructor
  · rintro ⟨_, layout, tab, submitted, value, read, stored⟩
    cases layout
    cases List.mem_singleton.mp submitted
    cases read
    exact (Option.some.inj (Except.ok.inj stored)).symm
  · rintro rfl
    exact ⟨_, rfl, _, List.mem_singleton.mpr rfl, some (.str tabId), rfl, rfl⟩

theorem gardenDb_owner {id tabId : String} (owner : getOwnerTab gardenDb id = some tabId) :
    tabId = "garden" := by
  have rules : gardenDb.automationRules.get id = if id = "porch" then some porchRule else none :=
    OrderedMap.get_set _ _ _ _
  rw [getOwnerTab, rules] at owner
  split at owner
  · exact (Option.some.inj owner).symm
  · cases owner

theorem gardenDb_stored : OwnersStored gardenDb := by
  intro id tabId owner
  rw [gardenDb_owner owner]
  decide

/-- A layout without the owning tab takes nothing from an automation of another tab. -/
theorem ownership_kept_omitting :
    (putLayout plainDriver (saveTab "hall") gardenDb).1 = .ok 2 ∧
      OwnershipKept plainDriver {} (saveTab "hall") gardenDb
        (putLayout plainDriver (saveTab "hall") gardenDb).2 := by
  have accepted : (putLayout plainDriver (saveTab "hall") gardenDb).1 = .ok 2 := by decide +kernel
  refine ⟨accepted, (ownership_kept_iff_unowned plainDriver {} (saveTab "hall") gardenDb _ 2
    gardenDb_stored (Prod.ext accepted rfl)).mpr fun id tabId owner submitted => ?_⟩
  rw [gardenDb_owner owner, saveTab_submits] at submitted
  exact absurd submitted (by decide)

/-- Sending the stored layout back is accepted, and takes the rule its owner: the rule
keeps neither its exposure nor its scope. -/
theorem resave_loses_owner :
    OwnersStored gardenDb ∧ (putLayout plainDriver resave gardenDb).1 = .ok 2 ∧
      getOwnerTab gardenDb "porch" = some "garden" ∧ Submits plainDriver resave "garden" ∧
      getOwnerTab (putLayout plainDriver resave gardenDb).2 "porch" = none ∧
      getExposingTabs (putLayout plainDriver resave gardenDb).2 "porch" = [] ∧
      resolve (putLayout plainDriver resave gardenDb).2 {} "porch" = .emptyScoped ∧
      ¬ OwnershipKept plainDriver {} resave gardenDb (putLayout plainDriver resave gardenDb).2 := by
  have accepted : (putLayout plainDriver resave gardenDb).1 = .ok 2 := by decide +kernel
  have cleared : getOwnerTab (putLayout plainDriver resave gardenDb).2 "porch" = none :=
    putLayout_clears plainDriver gardenDb_stored (Prod.ext accepted rfl) "porch"
  have submitted : Submits plainDriver resave "garden" := (saveTab_submits _ _).mpr rfl
  refine ⟨gardenDb_stored, accepted, rfl, submitted, cleared, by decide +kernel,
    by decide +kernel, fun kept => ?_⟩
  have still := kept.owner "porch" "garden" rfl submitted
  rw [cleared] at still
  cases still

end Aeolus.Api
