/-
# Aeolus.Auth.ResourceOwnership — which tabs expose a resource, and an automation's scope

The readers of the ownership columns and tables: `resource-ownership-store.ts`,
`device-filter.ts`, `device-exposure-resolver.ts` and `collection-ownership-store.ts` of
`src/auth`, and `src/automations/automation-scope-resolver.ts` over them.  Nothing here
writes.  A scoped automation's authority is that of its owning tab; one without an
owning tab has none.
-/
import Aeolus.Core.DeviceRegistry
import Aeolus.Db.Database

namespace Aeolus.Auth

open Aeolus.Core Aeolus.Db Aeolus.Theory

/-! ## Automations -/

/-- The owning tab id of an automation. -/
def getOwnerTab (db : Database) (automationId : String) : Option String :=
  (db.automationRules.get automationId).bind StoredRule.ownerTabId

/-- The tabs whose panes reference the automation, and its owning tab. -/
def getExposingTabs (db : Database) (automationId : String) : List String :=
  let tabs := ((db.automationTabAssignments.filter (·.1 = automationId)).map Prod.snd).dedup
  match truthy (getOwnerTab db automationId) with
  | some ownerTab => if ownerTab ∈ tabs then tabs else tabs ++ [ownerTab]
  | none => tabs

/-! ## Devices and collections of a tab -/

/-- Only three kinds of pane select devices; a `deviceType` narrows the selection. -/
def matchesDeviceFilter (pane : PaneRow) (device : Device) : Bool :=
  let kind :=
    match pane.paneType with
    | "hue-control" => device.integration = "hue" && device.type = "light"
    | "kasa-control" => device.integration = "kasa"
    | "sensor-panel" => device.type = "sensor"
    | _ => false
  match truthy ((pane.config.property "deviceType").bind Json.asString) with
  | some deviceType => kind && device.type = deviceType
  | none => kind

def getExposedDeviceIds (db : Database) (registry : DeviceRegistry) (tabId : String) :
    List String :=
  let tabPanes := db.panes.filter (·.tabId = tabId)
  (registry.devices.values.filter fun device =>
    tabPanes.any (matchesDeviceFilter · device)).map Device.id

def getCollectionsForTab (db : Database) (tabId : String) : List String :=
  (db.collectionTabAssignments.filter (·.2 = tabId)).map Prod.fst

/-! ## The scope of an automation -/

inductive AuthorizationScope where
  | unrestricted
  | scoped (tabId : Option String) (deviceIds collections : List String)
  deriving DecidableEq

def AuthorizationScope.emptyScoped : AuthorizationScope := .scoped none [] []

/-- The tab a scoped automation is bound to. -/
def AuthorizationScope.tab : AuthorizationScope → Option String
  | .unrestricted => none
  | .scoped tabId _ _ => tabId

def resolve (db : Database) (registry : DeviceRegistry) (ruleId : String) : AuthorizationScope :=
  match db.automationRules.get ruleId with
  | none => .emptyScoped
  | some row =>
    if row.authoredUnrestricted then .unrestricted
    else
      match truthy row.ownerTabId with
      | none => .emptyScoped
      | some tabId =>
        .scoped tabId (getExposedDeviceIds db registry tabId) (getCollectionsForTab db tabId)

end Aeolus.Auth
