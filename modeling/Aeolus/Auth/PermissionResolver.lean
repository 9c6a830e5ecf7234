/-
# Aeolus.Auth.PermissionResolver — what a group may do with a resource

`permission-service.ts`, `permission-resolver.ts` and `device-exposure-resolver.ts`.  A tab
exposes a resource, a group has a level on a tab, and a user has on a resource the best
level of its group over the exposing tabs.  Devices are exposed by the panes as they are,
automations by stored assignments; the resolver sees either through an `ExposureStore`.

`mem_getExposingTabs` and `le_maxRankOverTabs` say what the loops come to, and
`hasResourcePermission_read` and `mem_filterByPermission_read` what reading asks for.
-/
import Aeolus.Auth.AuthStore
import Aeolus.Auth.ResourceOwnership

namespace Aeolus.Auth

open Aeolus.Core Aeolus.Db Aeolus.Theory

/-! ## Permissions of groups -/

inductive PermissionLevel where
  | read
  | interact
  | write
  deriving DecidableEq, Repr

/-- `PERMISSION_RANK` -/
def PermissionLevel.rank : PermissionLevel → Nat
  | .read => 1
  | .interact => 2
  | .write => 3

theorem PermissionLevel.rank_pos (level : PermissionLevel) : 0 < level.rank := by
  cases level <;> decide

/-- A row of `group_tab_assignments`. -/
structure GroupTabRow where
  groupId : String
  tabId : String
  permission : PermissionLevel
  deriving DecidableEq, Repr

/-- The tables that permissions are read from. -/
structure PermissionTables where
  auth : AuthDb
  groupTabAssignments : List GroupTabRow
  tabs : List TabRow

/-- Which tabs expose a resource, one by one and for many at once. -/
structure ExposureStore where
  getExposingTabs : String → List String
  getExposingTabsBatch : List String → OrderedMap String (List String)

namespace DeviceExposure

/-- A set of tabs, in the order of their first panes. -/
def exposingTabsFor (device : Device) (panes : List PaneRow) : List String :=
  panes.foldl (fun tabs pane =>
    if matchesDeviceFilter pane device ∧ pane.tabId ∉ tabs then tabs ++ [pane.tabId] else tabs) []

def getExposingTabs (db : Database) (registry : DeviceRegistry) (deviceId : String) :
    List String :=
  match registry.getById deviceId with
  | none => []
  | some device => exposingTabsFor device db.panes

/-- First every id without tabs, then those that are in the registry. -/
def getExposingTabsBatch (db : Database) (registry : DeviceRegistry) (deviceIds : List String) :
    OrderedMap String (List String) :=
  let result := deviceIds.foldl (fun result id => result.set id []) .empty
  deviceIds.foldl (fun result id =>
    match registry.getById id with
    | some device => result.set id (exposingTabsFor device db.panes)
    | none => result) result

end DeviceExposure

/-- `createDeviceExposureResolver` -/
def deviceExposureResolver (db : Database) (registry : DeviceRegistry) : ExposureStore where
  getExposingTabs := DeviceExposure.getExposingTabs db registry
  getExposingTabsBatch := DeviceExposure.getExposingTabsBatch db registry

/-! ## The resolver -/

inductive ResourceKind where
  | device
  | automation
  deriving DecidableEq, Repr

/-- `createPermissionResolver`, what it is given. -/
structure PermissionResolver where
  ownershipStore : ExposureStore
  deviceExposureResolver : ExposureStore
  tables : PermissionTables

namespace PermissionResolver

def getUserGroupId (r : PermissionResolver) (userId : String) : Option String :=
  (getUser userId r.tables.auth).bind User.groupId

def groupRankByTab (r : PermissionResolver) (groupId : String) : OrderedMap String Nat :=
  (r.tables.groupTabAssignments.filter (·.groupId = groupId)).foldl
    (fun map row => map.set row.tabId row.permission.rank) .empty

def store (r : PermissionResolver) : ResourceKind → ExposureStore
  | .automation => r.ownershipStore
  | .device => r.deviceExposureResolver

def maxRankOverTabs (tabs : List String) (rankByTab : OrderedMap String Nat) : Nat :=
  tabs.foldl (fun best tabId =>
    match rankByTab.get tabId with
    | some rank => if best < rank then rank else best
    | none => best) 0

def rankToPermission (rank : Nat) : Option PermissionLevel :=
  [PermissionLevel.write, .interact, .read].find? (·.rank = rank)

/-- `none` is the level below every other. -/
def effectivePermission (r : PermissionResolver) (userId : String) (kind : ResourceKind)
    (resourceId : String) : Option PermissionLevel :=
  match r.getUserGroupId userId with
  | none => none
  | some groupId =>
      rankToPermission
        (maxRankOverTabs ((r.store kind).getExposingTabs resourceId) (r.groupRankByTab groupId))

def hasResourcePermission (r : PermissionResolver) (userId : String) (kind : ResourceKind)
    (resourceId : String) (required : PermissionLevel) : Bool :=
  match r.getUserGroupId userId with
  | none => false
  | some groupId =>
      required.rank ≤
        maxRankOverTabs ((r.store kind).getExposingTabs resourceId) (r.groupRankByTab groupId)

def filterByPermission (r : PermissionResolver) (userId : String) (kind : ResourceKind)
    (resourceIds : List String) (required : PermissionLevel) : List String :=
  if resourceIds = [] then []
  else
    match r.getUserGroupId userId with
    | none => []
    | some groupId =>
        let rankByTab := r.groupRankByTab groupId
        let exposingByResource := (r.store kind).getExposingTabsBatch resourceIds
        resourceIds.filter fun id =>
          required.rank ≤ maxRankOverTabs ((exposingByResource.get id).getD []) rankByTab

def accessibleTabIds (r : PermissionResolver) (userId : String) : List String :=
  match r.getUserGroupId userId with
  | none => []
  | some groupId => (r.groupRankByTab groupId).keys

end PermissionResolver

/-! ## What the loops come to -/

theorem mem_exposingTabsFor {device : Device} {panes : List PaneRow} {tabId : String} :
    tabId ∈ DeviceExposure.exposingTabsFor device panes ↔
      ∃ pane ∈ panes, matchesDeviceFilter pane device = true ∧ pane.tabId = tabId := by
  -- over any tabs already there
  suffices loop : ∀ tabs : List String, tabId ∈ panes.foldl (fun tabs pane =>
      if matchesDeviceFilter pane device ∧ pane.tabId ∉ tabs then tabs ++ [pane.tabId] else tabs)
        tabs ↔ tabId ∈ tabs ∨
          ∃ pane ∈ panes, matchesDeviceFilter pane device = true ∧ pane.tabId = tabId by
    unfold DeviceExposure.exposingTabsFor
    exact (loop []).trans (or_iff_right List.not_mem_nil)
  induction panes with
  | nil => simp
  | cons pane panes ih =>
      intro tabs
      rw [List.foldl_cons, ih, List.exists_mem_cons_iff, ← or_assoc]
      refine or_congr_left ?_
      by_cases matched : matchesDeviceFilter pane device = true
      · by_cases there : pane.tabId ∈ tabs
        · rw [if_neg fun new => new.2 there]
          exact ⟨Or.inl, fun either => either.elim id fun same => same.2 ▸ there⟩
        · rw [if_pos ⟨matched, there⟩, List.mem_append, List.mem_singleton]
          exact or_congr_right ⟨fun same => ⟨matched, same.symm⟩, fun same => same.2.symm⟩
      · rw [if_neg fun new => matched new.1]
        exact ⟨Or.inl, fun either => either.elim id fun same => absurd same.1 matched⟩

theorem mem_getExposingTabs {db : Database} {registry : DeviceRegistry} {deviceId tabId : String} :
    tabId ∈ DeviceExposure.getExposingTabs db registry deviceId ↔
      ∃ device, registry.getById deviceId = some device ∧
        ∃ pane ∈ db.panes, matchesDeviceFilter pane device = true ∧ pane.tabId = tabId := by
  unfold DeviceExposure.getExposingTabs
  cases registry.getById deviceId with
  | none => simp
  | some device => simp [mem_exposingTabsFor]

/-- The batch agrees with the devices one by one. -/
theorem get_getExposingTabsBatch (db : Database) (registry : DeviceRegistry)
    (deviceIds : List String) (id : String) :
    (DeviceExposure.getExposingTabsBatch db registry deviceIds).get id =
      if id ∈ deviceIds then some (DeviceExposure.getExposingTabs db registry id) else none := by
  have blank (result : OrderedMap String (List String)) :
      (deviceIds.foldl (fun result id => result.set id []) result).get id =
        if id ∈ deviceIds then some [] else result.get id := by
    induction deviceIds generalizing result with
    | nil => rfl
    | cons first rest ih =>
        rw [List.foldl_cons, ih, OrderedMap.get_set]
        by_cases later : id ∈ rest <;> by_cases here : id = first <;> simp [later, here]
  have filled (ids : List String) (result : OrderedMap String (List String)) :
      (ids.foldl (fun result id => match registry.getById id with
        | some device => result.set id (DeviceExposure.exposingTabsFor device db.panes)
        | none => result) result).get id =
        if id ∈ ids ∧ (registry.getById id).isSome = true then
          some (DeviceExposure.getExposingTabs db registry id)
        else result.get id := by
    induction ids generalizing result with
    | nil => simp
    | cons first rest ih =>
        rw [List.foldl_cons, ih]
        by_cases here : id = first
        · subst here
          cases found : registry.getById id with
          | none => simp
          | some device =>
              simp [DeviceExposure.getExposingTabs, found]
        · have kept : (match registry.getById first with
              | some device => result.set first (DeviceExposure.exposingTabsFor device db.panes)
              | none => result).get id = result.get id := by
            cases registry.getById first with
            | none => rfl
            | some device => exact OrderedMap.get_set_of_ne _ _ here
          rw [kept]
          simp [here]
  unfold DeviceExposure.getExposingTabsBatch
  rw [filled, blank]
  by_cases listed : id ∈ deviceIds
  · cases found : registry.getById id with
    | none => simp [listed, DeviceExposure.getExposingTabs, found]
    | some device => simp [listed]
  · simp [listed]

namespace PermissionResolver

/-- A rank above the least is reached on some tab. -/
theorem le_maxRankOverTabs {tabs : List String} {rankByTab : OrderedMap String Nat} {rank : Nat}
    (positive : 0 < rank) : rank ≤ maxRankOverTabs tabs rankByTab ↔
      ∃ tabId ∈ tabs, ∃ other, rankByTab.get tabId = some other ∧ rank ≤ other := by
  suffices loop : ∀ best : Nat, rank ≤ tabs.foldl (fun best tabId =>
      match rankByTab.get tabId with
      | some rank => if best < rank then rank else best
      | none => best) best ↔ rank ≤ best ∨
        ∃ tabId ∈ tabs, ∃ other, rankByTab.get tabId = some other ∧ rank ≤ other by
    exact (loop 0).trans (or_iff_right (by omega))
  induction tabs with
  | nil => simp
  | cons tabId tabs ih =>
      intro best
      rw [List.foldl_cons, ih, List.exists_mem_cons_iff, ← or_assoc]
      refine or_congr_left ?_
      cases rankByTab.get tabId with
      | none => simp
      | some other =>
          by_cases better : best < other
          · simp [better]
            omega
          · simp [better]
            omega

/-- Every rank of a group is that of a level. -/
theorem level_of_groupRankByTab {r : PermissionResolver} {groupId tabId : String} {rank : Nat}
    (found : (r.groupRankByTab groupId).get tabId = some rank) :
    ∃ level : PermissionLevel, level.rank = rank := by
  suffices loop : ∀ (rows : List GroupTabRow) (map : OrderedMap String Nat),
      (∀ rank, map.get tabId = some rank → ∃ level : PermissionLevel, level.rank = rank) →
        ∀ rank, (rows.foldl (fun map row => map.set row.tabId row.permission.rank) map).get tabId =
          some rank → ∃ level : PermissionLevel, level.rank = rank from
    loop _ .empty (by simp) rank found
  intro rows
  induction rows with
  | nil => exact fun _ ranked => ranked
  | cons row rows ih =>
      intro map ranked
      refine ih _ fun rank there => ?_
      rw [OrderedMap.get_set] at there
      split at there
      · exact ⟨row.permission, Option.some.inj there⟩
      · exact ranked rank there

theorem rank_pos_of_groupRankByTab {r : PermissionResolver} {groupId tabId : String} {rank : Nat}
    (found : (r.groupRankByTab groupId).get tabId = some rank) : 0 < rank := by
  obtain ⟨level, rfl⟩ := level_of_groupRankByTab found
  exact level.rank_pos

/-- The best rank is none, or that of a level. -/
theorem maxRankOverTabs_eq (r : PermissionResolver) (tabs : List String) (groupId : String) :
    maxRankOverTabs tabs (r.groupRankByTab groupId) = 0 ∨
      ∃ level : PermissionLevel, level.rank = maxRankOverTabs tabs (r.groupRankByTab groupId) := by
  rcases Nat.eq_zero_or_pos (maxRankOverTabs tabs (r.groupRankByTab groupId)) with zero | positive
  · exact Or.inl zero
  · obtain ⟨tabId, exposing, rank, found, least⟩ := (le_maxRankOverTabs positive).mp le_rfl
    have most := (le_maxRankOverTabs (rank_pos_of_groupRankByTab found)).mpr
      ⟨tabId, exposing, rank, found, le_rfl⟩
    obtain ⟨level, ranked⟩ := level_of_groupRankByTab found
    exact Or.inr ⟨level, ranked.trans (most.antisymm least)⟩

@[simp] theorem rankToPermission_zero : rankToPermission 0 = none := by decide

@[simp] theorem rankToPermission_rank (level : PermissionLevel) :
    rankToPermission level.rank = some level := by
  cases level <;> decide

/-- A permission is had when the effective one is no lower. -/
theorem hasResourcePermission_iff {r : PermissionResolver} {userId resourceId : String}
    {kind : ResourceKind} {required : PermissionLevel} :
    r.hasResourcePermission userId kind resourceId required = true ↔
      ∃ level, r.effectivePermission userId kind resourceId = some level ∧
        required.rank ≤ level.rank := by
  unfold hasResourcePermission effectivePermission
  cases r.getUserGroupId userId with
  | none => simp
  | some groupId =>
      rcases maxRankOverTabs_eq r ((r.store kind).getExposingTabs resourceId) groupId with
        zero | ⟨level, ranked⟩
      · simp [zero, Nat.not_le.mpr required.rank_pos]
      · simp [← ranked]

theorem mem_accessibleTabIds {r : PermissionResolver} {userId tabId : String} :
    tabId ∈ r.accessibleTabIds userId ↔ ∃ groupId, r.getUserGroupId userId = some groupId ∧
      ∃ rank, (r.groupRankByTab groupId).get tabId = some rank := by
  unfold accessibleTabIds
  cases r.getUserGroupId userId with
  | none => simp
  | some groupId =>
      simp [← OrderedMap.has_iff_mem_keys, OrderedMap.has_iff]

/-- Reading asks for no more than a common tab. -/
theorem read_le_maxRankOverTabs {r : PermissionResolver} {tabs : List String} {groupId : String} :
    PermissionLevel.read.rank ≤ maxRankOverTabs tabs (r.groupRankByTab groupId) ↔
      ∃ tabId ∈ tabs, ∃ rank, (r.groupRankByTab groupId).get tabId = some rank := by
  rw [le_maxRankOverTabs PermissionLevel.read.rank_pos]
  refine exists_congr fun tabId => and_congr_right fun _ => exists_congr fun rank => ?_
  exact ⟨And.left, fun found => ⟨found, rank_pos_of_groupRankByTab found⟩⟩

theorem hasResourcePermission_read {r : PermissionResolver} {userId resourceId : String}
    {kind : ResourceKind} :
    r.hasResourcePermission userId kind resourceId .read = true ↔
      ∃ tabId ∈ (r.store kind).getExposingTabs resourceId, tabId ∈ r.accessibleTabIds userId := by
  simp only [mem_accessibleTabIds, hasResourcePermission]
  cases r.getUserGroupId userId with
  | none => simp
  | some groupId => simp [read_le_maxRankOverTabs]

theorem mem_filterByPermission_read {r : PermissionResolver} {userId id : String}
    {kind : ResourceKind} {ids : List String} :
    id ∈ r.filterByPermission userId kind ids .read ↔
      id ∈ ids ∧ ∃ tabId ∈ (((r.store kind).getExposingTabsBatch ids).get id).getD [],
        tabId ∈ r.accessibleTabIds userId := by
  simp only [mem_accessibleTabIds, filterByPermission]
  by_cases none : ids = []
  · simp [none]
  · cases r.getUserGroupId userId with
    | none => simp [none]
    | some groupId => simp [none, read_le_maxRankOverTabs]

end PermissionResolver

end Aeolus.Auth
